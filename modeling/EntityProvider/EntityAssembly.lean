import EntityProvider.Library.Grouping
import EntityProvider.Library.Maps
import EntityProvider.Routes.Entities

/-!
# What `get_entities` serves

`get_entities` is meant to be a total function of the cache: each object
contributes what its conversions yield, clusters of one name are merged, systems
of one name are listed once.  `intendedEntities` is that function, put together
from `contributionOf`, which looks at one object at a time; a conversion that does
not succeed contributes nothing.

The handler computes it with unwraps along the way.  `foldlM_visit_eq_ok_iff` says
when its loop gets through, and `getEntities_eq_intended_iff` turns that into a
condition on the cache, `Servable`: every StatefulSet that is converted has labels,
and StatefulSets that share a cluster name all carry the shard label.

## Design notes

Only two places of the loop can panic: the conversion of a shard without labels, and the
merging of two clusters of which one has no list of dependencies.  Everything else is
absorbed: `visit_eq_ok_iff` says of one round that it adds the object's contribution or
panics, and nothing after it follows the branches of the loop.

The merging is the library's grouping by key, with `mergeClusters` as a merge that is only
defined on clusters with dependencies.  So the condition on all stores of the loop becomes a
condition on pairs of objects, by `entersAll_iff`, and no later module looks at the loop
again.
-/

namespace EntityProvider.Routes

open Std (ExtTreeMap)
open Kube Entities Library
open EntityProvider.Configuration (Settings)

/-! ## Contributions -/

/-- What one cached object adds to the list: an entity of its own, a cluster to be
merged with others of its name, and a system to be listed once. -/
structure Contribution where
  own : Option Resource
  cluster : Option Resource
  system : Option System

/-- The contribution of an object that is not converted. -/
def Contribution.nothing : Contribution := ⟨none, none, none⟩

/-- The key of a cluster in the seen-map. -/
def clusterKey (cluster : Resource) : String := "redis_cluster/" ++ cluster.metadata.name

theorem clusterKey_of_name {cluster : Resource} {name : String}
    (hname : cluster.metadata.name = name) :
    clusterKey cluster = "redis_cluster/" ++ name := by
  rw [← hname]
  rfl

theorem clusterKey_inj {cluster cluster' : Resource} :
    clusterKey cluster = clusterKey cluster' ↔
      cluster.metadata.name = cluster'.metadata.name :=
  String.append_right_inj _

/-- The cluster of a contribution, under its key. -/
def Contribution.entry (c : Contribution) : Option (String × Resource) :=
  c.cluster.map fun cluster => (clusterKey cluster, cluster)

/-- The dependencies of two clusters together.  Missing ones add nothing. -/
def mergeDependencies :
    Option (List String) → Option (List String) → Option (List String)
  | some seen, some new => some (seen ++ new)
  | some seen, none => some seen
  | none, new => new

/-- Two clusters of one name: the first one, with the dependencies of both. -/
def mergeClusters (seen new : Resource) : Resource :=
  { seen with
    spec :=
      { seen.spec with
        dependsOn := mergeDependencies seen.spec.dependsOn new.spec.dependsOn } }

/-- Does the cluster list its dependencies? -/
def HasDependencies (cluster : Resource) : Prop := cluster.spec.dependsOn.isSome = true

theorem hasDependencies_mergeClusters {seen new : Resource} (hseen : HasDependencies seen)
    (hnew : HasDependencies new) : HasDependencies (mergeClusters seen new) := by
  obtain ⟨a, ha⟩ := Option.isSome_iff_exists.mp hseen
  obtain ⟨b, hb⟩ := Option.isSome_iff_exists.mp hnew
  simp [HasDependencies, mergeClusters, mergeDependencies, ha, hb]

/-- The entities listed while going through the contributions: each one's own, and
after it its system unless one of that name was listed before. -/
def entitiesInOrder : List String → List Contribution → List Entity
  | _, [] => []
  | listed, c :: rest =>
      c.own.toList.map .resource ++
        match c.system with
        | none => entitiesInOrder listed rest
        | some system =>
            if system.metadata.name ∈ listed then entitiesInOrder listed rest
            else .system system :: entitiesInOrder (system.metadata.name :: listed) rest

section Contributions

variable [UnicodeTables]

/-- The cluster a shard is converted to. -/
def clusterOfShard (config : Settings) (shard : Resource) : Option Resource :=
  match redisClusterFromShard config shard with
  | .ok (.ok cluster) => some cluster
  | _ => none

/-- What an object contributes. -/
def contributionOf (config : Settings) (obj : DynamicObject) : Contribution :=
  match obj.types.map fun t => K8sKinds.getKind t.kind with
  | some .statefulSet =>
      match redisShardFromStatefulset config obj with
      | .ok shard =>
          { own := some shard, cluster := clusterOfShard config shard
            system := (systemFromStatefulSet config obj).toOption }
      | .error _ => .nothing
  | some .pod =>
      { own := (redisNodeFromPod config obj).toOption, cluster := none, system := none }
  | _ => .nothing

/-- The clusters of a list of contributions, by key. -/
def clustersOf (contributions : List Contribution) : ExtTreeMap String Resource compare :=
  grouped mergeClusters (contributions.filterMap Contribution.entry)

/-- The contributions of a cache, in key order. -/
def contributionsOf (config : Settings) (db : CacheMap) : List Contribution :=
  db.toList.map fun entry => contributionOf config entry.2

/-- **What the endpoint is for.**  The entities of every cached object, the merged
clusters, and the configured groups, users and domains. -/
def intendedEntities (order : IterOrder) (config : Settings) (groups : List Group)
    (users : List User) (domains : List Domain) (db : CacheMap) : List Entity :=
  entitiesInOrder [] (contributionsOf config db) ++
    (order.arrange (clustersOf (contributionsOf config db)).toList).map
      (fun entry => .resource entry.2) ++
    groups.map .group ++ users.map .user ++ domains.map .domain

/-! ## When a StatefulSet is converted -/

/-- Is the object one the loop converts to a shard: a StatefulSet with a name? -/
def convertsToShard (obj : DynamicObject) : Bool :=
  (obj.types.any fun t => K8sKinds.getKind t.kind = .statefulSet) && obj.nameAny ≠ ""

/-- The name of the cluster that a StatefulSet's shard is counted to: its cluster
label, else its own name. -/
def clusterNameOf (obj : DynamicObject) : String :=
  (obj.labels[redisLabelCluster]?).getD obj.nameAny

/-- The cache can be served: a StatefulSet that is converted has labels, and any two
of one cluster name both carry the shard label. -/
structure Servable (db : CacheMap) : Prop where
  labelled : ∀ entry ∈ db.toList, convertsToShard entry.2 = true →
    entry.2.labels.isEmpty = false
  sharded : ∀ entry ∈ db.toList, ∀ other ∈ db.toList, entry.1 ≠ other.1 →
    convertsToShard entry.2 = true → convertsToShard other.2 = true →
    clusterNameOf entry.2 = clusterNameOf other.2 →
    (entry.2.labels[redisLabelShard]?).isSome = true

theorem getKind_eq_statefulSet_iff {name : String} :
    K8sKinds.getKind name = .statefulSet ↔ toLowercase name = "statefulset" := by
  unfold K8sKinds.getKind
  split_ifs <;> simp_all

theorem getKind_eq_pod_iff {name : String} :
    K8sKinds.getKind name = .pod ↔ toLowercase name = "pod" := by
  unfold K8sKinds.getKind
  split_ifs <;> simp_all

/-- The types of an object that is converted to a shard. -/
theorem exists_types_of_convertsToShard {obj : DynamicObject}
    (hobj : convertsToShard obj = true) :
    ∃ tp, obj.types = some tp ∧ K8sKinds.getKind tp.kind = .statefulSet := by
  have hkind := (Bool.and_eq_true _ _ ▸ hobj).1
  obtain ⟨tp, htypes, hdecide⟩ := (Option.any_eq_true _ _).mp hkind
  exact ⟨tp, htypes, of_decide_eq_true hdecide⟩

omit [UnicodeTables] in
/-- The label loop copies every label. -/
theorem lbls_foldl_step (ns : String) (entries : List (String × String)) :
    ∀ loop : ShardLoop, (entries.foldl (ShardLoop.step ns) loop).lbls =
      entries.foldl (fun m entry => m.insert entry.1 entry.2) loop.lbls := by
  induction entries with
  | nil => intro loop; rfl
  | cons entry rest ih => intro loop; exact ih _

omit [UnicodeTables] in
theorem lbls_of_labels (ns : String) (labels : StringMap) (anns : StringMap)
    (specType : String) (dependencyOf : Option (List String)) :
    (labels.toList.foldl (ShardLoop.step ns) ⟨∅, anns, specType, dependencyOf⟩).lbls =
      labels := by
  rw [lbls_foldl_step, foldl_insert_eq_insertMany, insertMany_toList]

/-- **A StatefulSet with a name becomes a shard** of that name in the default
namespace, with the object's labels. -/
theorem exists_shard (config : Settings) {obj : DynamicObject}
    (hobj : convertsToShard obj = true) :
    ∃ shard, redisShardFromStatefulset config obj = .ok shard ∧
      shard.kind = backstageEntityResource ∧
      shard.metadata.ns = some "default" ∧
      shard.metadata.name = obj.nameAny ∧
      shard.metadata.labels = if obj.labels.isEmpty then none else some obj.labels := by
  obtain ⟨t, ht, hkind⟩ := exists_types_of_convertsToShard hobj
  have hname : obj.nameAny ≠ "" := of_decide_eq_true (Bool.and_eq_true _ _ ▸ hobj).2
  have hlower : toLowercase t.kind = "statefulset" := getKind_eq_statefulSet_iff.mp hkind
  have hcheck : checkKind backstageEntityResource "statefulset" "StatefulSet" obj =
      .ok () :=
    checkKind_eq_ok_iff.mpr ⟨t, ht, hlower⟩
  simp only [redisShardFromStatefulset, hcheck, bind, Except.bind,
    Metadata.fromAnnotations_name, if_neg hname]
  refine ⟨_, rfl, rfl, ?_, rfl, ?_⟩
  · exact Metadata.fromAnnotations_ns _ _
  · simp only [lbls_of_labels, Metadata.fromAnnotations_labels]

/-- Every conversion to a shard fails on an object without a name. -/
theorem redisShardFromStatefulset_of_nameAny (config : Settings) {obj : DynamicObject}
    (hname : obj.nameAny = "") :
    ∃ why, redisShardFromStatefulset config obj = .error why := by
  unfold redisShardFromStatefulset
  cases checkKind backstageEntityResource "statefulset" "StatefulSet" obj with
  | error why => exact ⟨why, rfl⟩
  | ok _ =>
      simp only [bind, Except.bind, Metadata.fromAnnotations_name, if_pos hname]
      exact ⟨_, rfl⟩

/-- **A shard with labels becomes a cluster**, named after its cluster label if it
has one, with dependencies exactly if it has the shard label. -/
theorem exists_cluster (config : Settings) {shard : Resource} {labels : StringMap}
    (hlabels : shard.metadata.labels = some labels) :
    ∃ cluster, redisClusterFromShard config shard = .ok (.ok cluster) ∧
      cluster.kind = backstageEntityResource ∧
      cluster.metadata.ns = shard.metadata.ns ∧
      cluster.metadata.name = (labels[redisLabelCluster]?).getD shard.metadata.name ∧
      (HasDependencies cluster ↔ (labels[redisLabelShard]?).isSome = true) := by
  simp only [redisClusterFromShard, hlabels, unwrap_some, bind, Except.bind]
  refine ⟨_, rfl, rfl, rfl, rfl, ?_⟩
  simp [HasDependencies]

/-- A shard without labels makes the conversion panic. -/
theorem redisClusterFromShard_of_labels_eq_none (config : Settings) {shard : Resource}
    (hlabels : shard.metadata.labels = none) :
    redisClusterFromShard config shard = .error .unwrapNone := by
  simp [redisClusterFromShard, hlabels, bind, Except.bind]

/-! ## One round of the loop -/

/-- Add a contribution to the locals of the loop. -/
def Serving.absorb (s : Serving) (c : Contribution) : Serving :=
  let s :=
    { s with
      res := s.res ++ c.own.toList.map .resource
      seen := match c.entry with
        | some entry => enter mergeClusters s.seen entry
        | none => s.seen }
  match c.system with
  | some system => s.addSystem system
  | none => s

omit [UnicodeTables] in
/-- A cluster is entered exactly if no known one of its name lacks dependencies, or
it has none itself and there is a known one. -/
theorem addCluster_eq_ok_iff {s t : Serving} {cluster : Resource} :
    s.addCluster cluster = .ok t ↔
      (∀ old, s.seen[clusterKey cluster]? = some old →
        HasDependencies old ∧ HasDependencies cluster) ∧
      t = { s with seen := enter mergeClusters s.seen (clusterKey cluster, cluster) } := by
  cases hold : s.seen[clusterKey cluster]? with
  | none =>
      have hadd : s.addCluster cluster =
          .ok { s with seen := s.seen.insert (clusterKey cluster) cluster } := by
        have hkey : s.seen["redis_cluster/" ++ cluster.metadata.name]? = none := hold
        simp only [Serving.addCluster, hkey]
        rfl
      have henter : enter mergeClusters s.seen (clusterKey cluster, cluster) =
          s.seen.insert (clusterKey cluster) cluster := by
        simp [enter, hold]
      rw [hadd, henter, Except.ok.injEq]
      simpa using eq_comm
  | some old =>
      have hadd : s.addCluster cluster = (do
          let depNew ← unwrap cluster.spec.dependsOn
          let depSeen ← unwrap old.spec.dependsOn
          let spec := { old.spec with dependsOn := some (depSeen ++ depNew) }
          .ok
            { s with
              seen := s.seen.insert (clusterKey cluster) { old with spec := spec } }) := by
        have hkey : s.seen["redis_cluster/" ++ cluster.metadata.name]? = some old := hold
        simp only [Serving.addCluster, hkey]
        rfl
      have henter : enter mergeClusters s.seen (clusterKey cluster, cluster) =
          s.seen.insert (clusterKey cluster) (mergeClusters old cluster) := by
        simp [enter, hold]
      rw [hadd, henter]
      cases hnew : cluster.spec.dependsOn with
      | none => simp [HasDependencies, hnew, bind, Except.bind]
      | some new =>
          cases hseen : old.spec.dependsOn with
          | none => simp [HasDependencies, hseen, bind, Except.bind]
          | some seen =>
              have hmerge : mergeClusters old cluster =
                  { old with spec := { old.spec with dependsOn := some (seen ++ new) } } := by
                simp [mergeClusters, mergeDependencies, hnew, hseen]
              -- both lists are there, so both unwraps get through and the lists are joined
              simp only [unwrap_some, bind, Except.bind, Except.ok.injEq, hmerge]
              constructor
              · rintro rfl
                refine ⟨fun other hother => ?_, rfl⟩
                obtain rfl := Option.some.inj hother
                simp [HasDependencies, hnew, hseen]
              · rintro ⟨-, rfl⟩
                rfl

/-- Does the object have labels, if it is converted to a shard? -/
def Labelled (obj : DynamicObject) : Prop :=
  convertsToShard obj = true → obj.labels.isEmpty = false

/-- Can the contribution's cluster be entered? -/
def Enters (seen : ExtTreeMap String Resource compare) (c : Contribution) : Prop :=
  ∀ entry, c.entry = some entry → ∀ old, seen[entry.1]? = some old →
    HasDependencies old ∧ HasDependencies entry.2

/-- The StatefulSet arm, for an object that is converted to a shard. -/
theorem statefulSet_eq_ok_iff {config : Settings} {s t : Serving} {obj : DynamicObject}
    {shard : Resource} (hshard : redisShardFromStatefulset config obj = .ok shard) :
    s.statefulSet config obj = .ok t ↔
      ∃ cluster, redisClusterFromShard config shard = .ok (.ok cluster) ∧
        (∀ old, s.seen[clusterKey cluster]? = some old →
          HasDependencies old ∧ HasDependencies cluster) ∧
        t = s.absorb
          ⟨some shard, some cluster, (systemFromStatefulSet config obj).toOption⟩ := by
  have hlabels :
      shard.metadata.labels = none ∨ ∃ labels, shard.metadata.labels = some labels :=
    by cases shard.metadata.labels <;> simp
  rcases hlabels with hnone | ⟨labels, hsome⟩
  · have hpanic := redisClusterFromShard_of_labels_eq_none config hnone
    simp [Serving.statefulSet, hshard, hpanic, bind, Except.bind]
  · obtain ⟨cluster, hcluster, -⟩ := exists_cluster config hsome
    have hround : s.statefulSet config obj =
        ((s.push (.resource shard)).addCluster cluster).bind fun s' =>
          .ok ((systemFromStatefulSet config obj).toOption.elim s' s'.addSystem) := by
      simp only [Serving.statefulSet, hshard, hcluster, bind, Except.bind]
      cases (s.push (.resource shard)).addCluster cluster with
      | error why => rfl
      | ok s' => cases systemFromStatefulSet config obj <;> rfl
    rw [hround]
    constructor
    · intro ht
      cases hadd : (s.push (.resource shard)).addCluster cluster with
      | error why => simp [hadd, Except.bind] at ht
      | ok s' =>
          obtain ⟨henters, hs'⟩ := addCluster_eq_ok_iff.mp hadd
          refine ⟨cluster, hcluster, henters, ?_⟩
          rw [hadd] at ht
          obtain rfl := Except.ok.inj ht
          subst hs'
          cases systemFromStatefulSet config obj <;> rfl
    · rintro ⟨cluster', hcluster', henters, rfl⟩
      obtain rfl : cluster = cluster' := by
        simpa using hcluster.symm.trans hcluster'
      have hadd : (s.push (.resource shard)).addCluster cluster = .ok _ :=
        addCluster_eq_ok_iff.mpr ⟨henters, rfl⟩
      rw [hadd]
      cases systemFromStatefulSet config obj <;> rfl

/-- An object that is not converted to a shard has no cluster. -/
theorem entry_contributionOf_of_not_convertsToShard (config : Settings)
    {obj : DynamicObject} (hobj : convertsToShard obj = false) :
    (contributionOf config obj).entry = none := by
  unfold contributionOf
  split
  next hkind =>
      obtain ⟨t, ht, hstatefulSet⟩ := Option.map_eq_some_iff.mp hkind
      have hname : obj.nameAny = "" := by
        simpa [convertsToShard, ht, hstatefulSet] using hobj
      obtain ⟨why, hwhy⟩ := redisShardFromStatefulset_of_nameAny config hname
      simp [hwhy, Contribution.nothing, Contribution.entry]
  next => rfl
  next => rfl

/-- The round of an object that is not converted to a shard always gets through. -/
theorem visit_of_not_convertsToShard {config : Settings} {s : Serving}
    {entry : String × DynamicObject} (hobj : convertsToShard entry.2 = false) :
    Serving.visit config s entry = .ok (s.absorb (contributionOf config entry.2)) := by
  obtain ⟨key, obj⟩ := entry
  cases htypes : obj.types with
  | none => simp [Serving.visit, contributionOf, htypes, Serving.absorb, Contribution.nothing,
      Contribution.entry]
  | some tp =>
      cases hkind : K8sKinds.getKind tp.kind with
      | statefulSet =>
          have hname : obj.nameAny = "" := by
            simpa [convertsToShard, htypes, hkind] using hobj
          obtain ⟨why, hwhy⟩ := redisShardFromStatefulset_of_nameAny config hname
          simp [Serving.visit, Serving.statefulSet, contributionOf, htypes, hkind, hwhy,
            Serving.absorb, Contribution.nothing, Contribution.entry]
      | pod =>
          cases hnode : redisNodeFromPod config obj <;>
            simp [Serving.visit, Serving.pod, contributionOf, htypes, hkind, hnode,
              Contribution.entry, Serving.absorb, Serving.push, Except.toOption]
      | deployment =>
          simp [Serving.visit, contributionOf, htypes, hkind, Contribution.entry,
            Contribution.nothing, Serving.absorb]
      | unknown =>
          simp [Serving.visit, contributionOf, htypes, hkind, Contribution.entry,
            Contribution.nothing, Serving.absorb]

/-- The round of an object that is converted to a shard. -/
theorem visit_of_convertsToShard {config : Settings} {s t : Serving}
    {entry : String × DynamicObject} (hobj : convertsToShard entry.2 = true) :
    Serving.visit config s entry = .ok t ↔
      entry.2.labels.isEmpty = false ∧ Enters s.seen (contributionOf config entry.2) ∧
        t = s.absorb (contributionOf config entry.2) := by
  obtain ⟨key, obj⟩ := entry
  change convertsToShard obj = true at hobj
  obtain ⟨tp, htypes, hkind⟩ := exists_types_of_convertsToShard hobj
  have hvisit : Serving.visit config s (key, obj) = s.statefulSet config obj := by
    simp [Serving.visit, htypes, hkind]
  obtain ⟨shard, hshard, -, -, -, hlabels⟩ := exists_shard config hobj
  rw [hvisit, statefulSet_eq_ok_iff hshard]
  cases hempty : obj.labels.isEmpty with
  | true =>
      rw [hempty, if_pos rfl] at hlabels
      simp [redisClusterFromShard_of_labels_eq_none config hlabels]
  | false =>
      rw [hempty, if_neg (by simp)] at hlabels
      obtain ⟨cluster, hcluster, -⟩ := exists_cluster config hlabels
      have hcontribution : contributionOf config obj =
          ⟨some shard, some cluster, (systemFromStatefulSet config obj).toOption⟩ := by
        simp [contributionOf, htypes, hkind, hshard, clusterOfShard, hcluster]
      simp [hcontribution, hcluster, Enters, Contribution.entry]

/-- **One round of the loop.**  It gets through exactly if the object is labelled and
its cluster can be entered, and then it adds the object's contribution. -/
theorem visit_eq_ok_iff {config : Settings} {s t : Serving}
    {entry : String × DynamicObject} :
    Serving.visit config s entry = .ok t ↔
      Labelled entry.2 ∧ Enters s.seen (contributionOf config entry.2) ∧
        t = s.absorb (contributionOf config entry.2) := by
  cases hobj : convertsToShard entry.2 with
  | true => simp [visit_of_convertsToShard hobj, Labelled, hobj]
  | false =>
      have henters : Enters s.seen (contributionOf config entry.2) := by
        simp [Enters, entry_contributionOf_of_not_convertsToShard config hobj]
      rw [visit_of_not_convertsToShard hobj, Except.ok.injEq]
      exact ⟨fun ht => ⟨by simp [Labelled, hobj], henters, ht.symm⟩, fun ht => ht.2.2.symm⟩

/-! ## The whole loop -/

omit [UnicodeTables] in
theorem seen_absorb (s : Serving) (c : Contribution) :
    (s.absorb c).seen =
      match c.entry with
      | some entry => enter mergeClusters s.seen entry
      | none => s.seen := by
  unfold Serving.absorb Serving.addSystem
  cases c.system with
  | none => rfl
  | some system =>
      dsimp only
      split <;> rfl

/-- **When the loop gets through.**  Every object has to be labelled and every
cluster to be entered; then the loop adds all contributions. -/
theorem foldlM_visit_eq_ok_iff (config : Settings) (entries : List (String × DynamicObject)) :
    ∀ {s t : Serving}, entries.foldlM (Serving.visit config) s = .ok t ↔
      (∀ entry ∈ entries, Labelled entry.2) ∧
        EntersAll HasDependencies mergeClusters s.seen
          ((entries.map fun entry => contributionOf config entry.2).filterMap
            Contribution.entry) ∧
        t = (entries.map fun entry => contributionOf config entry.2).foldl
          Serving.absorb s := by
  induction entries with
  | nil => simp [EntersAll, pure, Except.pure, eq_comm]
  | cons entry rest ih =>
      intro s t
      have hround : (entry :: rest).foldlM (Serving.visit config) s = .ok t ↔
          ∃ s', Serving.visit config s entry = .ok s' ∧
            rest.foldlM (Serving.visit config) s' = .ok t := by
        rw [List.foldlM_cons]
        cases Serving.visit config s entry <;> simp [bind, Except.bind]
      rw [hround]
      simp only [visit_eq_ok_iff, ih, List.forall_mem_cons, List.map_cons, List.foldl_cons]
      cases hentry : (contributionOf config entry.2).entry with
      | none =>
          rw [List.filterMap_cons_none hentry]
          constructor
          · rintro ⟨_, ⟨hlabelled, -, rfl⟩, hrest, henters, rfl⟩
            rw [seen_absorb, hentry] at henters
            exact ⟨⟨hlabelled, hrest⟩, henters, rfl⟩
          · rintro ⟨⟨hlabelled, hrest⟩, henters, rfl⟩
            refine ⟨_, ⟨hlabelled, by simp [Enters, hentry], rfl⟩, hrest, ?_, rfl⟩
            rwa [seen_absorb, hentry]
      | some cluster =>
          rw [List.filterMap_cons_some hentry, EntersAll]
          constructor
          · rintro ⟨_, ⟨hlabelled, henter, rfl⟩, hrest, henters, rfl⟩
            rw [seen_absorb, hentry] at henters
            exact ⟨⟨hlabelled, hrest⟩, ⟨henter cluster hentry, henters⟩, rfl⟩
          · rintro ⟨⟨hlabelled, hrest⟩, ⟨henter, henters⟩, rfl⟩
            refine ⟨_, ⟨hlabelled, ?_, rfl⟩, hrest, ?_, rfl⟩
            · intro entry' hentry'
              obtain rfl := Option.some.inj (hentry.symm.trans hentry')
              exact henter
            · rwa [seen_absorb, hentry]

omit [UnicodeTables] in
/-- The clusters that a list of contributions leaves in the seen-map. -/
theorem seen_foldl_absorb (contributions : List Contribution) :
    ∀ s : Serving, (contributions.foldl Serving.absorb s).seen =
      (contributions.filterMap Contribution.entry).foldl (enter mergeClusters) s.seen := by
  induction contributions with
  | nil => intro s; rfl
  | cons c rest ih =>
      intro s
      rw [List.foldl_cons, ih, seen_absorb]
      cases hentry : c.entry with
      | none => rw [List.filterMap_cons_none hentry]
      | some entry => rw [List.filterMap_cons_some hentry, List.foldl_cons]

omit [UnicodeTables] in
/-- A contribution without a system, or with one that was seen, adds its own entity. -/
theorem absorb_of_seen {s : Serving} {c : Contribution}
    (hseen : ∀ system, c.system = some system →
      s.seenSystem.contains ("system/" ++ system.metadata.name) = true) :
    (s.absorb c).seenSystem = s.seenSystem ∧
      (s.absorb c).res = s.res ++ c.own.toList.map .resource := by
  cases hsystem : c.system with
  | none => simp [Serving.absorb, hsystem]
  | some system => simp [Serving.absorb, hsystem, Serving.addSystem, hseen system hsystem]

omit [UnicodeTables] in
/-- A system that was not seen is added as well. -/
theorem absorb_of_new {s : Serving} {c : Contribution} {system : System}
    (hsystem : c.system = some system)
    (hnew : s.seenSystem.contains ("system/" ++ system.metadata.name) = false) :
    (s.absorb c).seenSystem = s.seenSystem.insert ("system/" ++ system.metadata.name) 1 ∧
      (s.absorb c).res = s.res ++ c.own.toList.map .resource ++ [.system system] := by
  simp [Serving.absorb, hsystem, Serving.addSystem, hnew, Serving.push]

omit [UnicodeTables] in
/-- The entities that a list of contributions pushes, where `listed` are the names in
the seen-map of systems. -/
theorem res_foldl_absorb (contributions : List Contribution) :
    ∀ (s : Serving) (listed : List String),
      (∀ name, s.seenSystem.contains ("system/" ++ name) = true ↔ name ∈ listed) →
      (contributions.foldl Serving.absorb s).res =
        s.res ++ entitiesInOrder listed contributions := by
  induction contributions with
  | nil => intro s listed _; simp [entitiesInOrder]
  | cons c rest ih =>
      intro s listed hlisted
      rw [List.foldl_cons, entitiesInOrder]
      cases hsystem : c.system with
      | none =>
          obtain ⟨hseen, hres⟩ := @absorb_of_seen s c (by simp [hsystem])
          rw [ih _ listed (by rwa [hseen]), hres, List.append_assoc]
      | some system =>
          by_cases hold : system.metadata.name ∈ listed
          · obtain ⟨hseen, hres⟩ := @absorb_of_seen s c fun other hother => by
              obtain rfl := Option.some.inj (hsystem.symm.trans hother)
              exact (hlisted _).mpr hold
            rw [ih _ listed (by rwa [hseen]), hres, List.append_assoc]
            simp [hold]
          · obtain ⟨hseen, hres⟩ := absorb_of_new hsystem
              (Bool.eq_false_iff.mpr fun hcontains => hold ((hlisted _).mp hcontains))
            -- a pushed system is in the seen-map from here on
            have hlisted' : ∀ name,
                (s.absorb c).seenSystem.contains ("system/" ++ name) = true ↔
                  name ∈ system.metadata.name :: listed := by
              intro name
              rw [hseen, ExtTreeMap.contains_insert, List.mem_cons, ← hlisted name,
                Bool.or_eq_true, beq_iff_eq, Std.LawfulEqCmp.compare_eq_iff_eq,
                String.append_right_inj]
              exact or_congr_left eq_comm
            rw [ih _ _ hlisted', hres]
            simp [hold]

/-! ## When the cache can be served -/

/-- **The cluster an object contributes.**  It comes from a StatefulSet that is
converted, goes by the object's cluster name, and has dependencies exactly if the
object has the shard label. -/
theorem cluster_contributionOf {config : Settings} {obj : DynamicObject}
    {cluster : Resource} (hcluster : (contributionOf config obj).cluster = some cluster) :
    convertsToShard obj = true ∧ cluster.kind = backstageEntityResource ∧
      cluster.metadata.ns = some "default" ∧ cluster.metadata.name = clusterNameOf obj ∧
      (HasDependencies cluster ↔ (obj.labels[redisLabelShard]?).isSome = true) := by
  cases hobj : convertsToShard obj with
  | false =>
      have hentry := entry_contributionOf_of_not_convertsToShard config hobj
      simp [Contribution.entry, hcluster] at hentry
  | true =>
      obtain ⟨shard, hshard, -, hns, hname, hlabels⟩ := exists_shard config hobj
      obtain ⟨tp, htypes, hkind⟩ := exists_types_of_convertsToShard hobj
      have hshardCluster : (contributionOf config obj).cluster =
          clusterOfShard config shard := by
        simp [contributionOf, htypes, hkind, hshard]
      rw [hshardCluster, clusterOfShard] at hcluster
      cases hempty : obj.labels.isEmpty with
      | true =>
          rw [hempty, if_pos rfl] at hlabels
          simp [redisClusterFromShard_of_labels_eq_none config hlabels] at hcluster
      | false =>
          rw [hempty, if_neg (by simp)] at hlabels
          obtain ⟨cluster', hcluster', hkind', hns', hname', hdependencies⟩ :=
            exists_cluster config hlabels
          obtain rfl : cluster' = cluster := by simpa [hcluster'] using hcluster
          exact ⟨rfl, hkind', hns'.trans hns, by rw [hname', hname, clusterNameOf],
            hdependencies⟩

/-- A converted object with labels has a cluster. -/
theorem exists_cluster_contributionOf (config : Settings) {obj : DynamicObject}
    (hobj : convertsToShard obj = true) (hempty : obj.labels.isEmpty = false) :
    ∃ cluster, (contributionOf config obj).cluster = some cluster := by
  obtain ⟨shard, hshard, -, -, -, hlabels⟩ := exists_shard config hobj
  rw [hempty, if_neg (by simp)] at hlabels
  obtain ⟨cluster, hcluster, -⟩ := exists_cluster config hlabels
  obtain ⟨tp, htypes, hkind⟩ := exists_types_of_convertsToShard hobj
  refine ⟨cluster, ?_⟩
  simp [contributionOf, htypes, hkind, hshard, clusterOfShard, hcluster]

/-- The entries of two contributions are ready for each other exactly if clusters of
one name both have dependencies. -/
theorem readyTogether_entries_iff {config : Settings} {obj obj' : DynamicObject} :
    (∀ c, (contributionOf config obj).entry = some c →
        ∀ d, (contributionOf config obj').entry = some d →
          ReadyTogether HasDependencies c d) ↔
      ∀ cluster, (contributionOf config obj).cluster = some cluster →
        ∀ cluster', (contributionOf config obj').cluster = some cluster' →
          clusterNameOf obj = clusterNameOf obj' →
            HasDependencies cluster ∧ HasDependencies cluster' := by
  have hkeys : ∀ {cluster cluster'}, (contributionOf config obj).cluster = some cluster →
      (contributionOf config obj').cluster = some cluster' →
      (clusterKey cluster = clusterKey cluster' ↔
        clusterNameOf obj = clusterNameOf obj') := by
    intro cluster cluster' hcluster hcluster'
    obtain ⟨-, -, -, hname, -⟩ := cluster_contributionOf hcluster
    obtain ⟨-, -, -, hname', -⟩ := cluster_contributionOf hcluster'
    rw [clusterKey_inj, hname, hname']
  constructor
  · intro hready cluster hcluster cluster' hcluster' hname
    exact hready (clusterKey cluster, cluster) (by simp [Contribution.entry, hcluster])
      (clusterKey cluster', cluster') (by simp [Contribution.entry, hcluster'])
      ((hkeys hcluster hcluster').mpr hname)
  · intro hready c hc d hd hkey
    obtain ⟨cluster, hcluster, rfl⟩ := Option.map_eq_some_iff.mp hc
    obtain ⟨cluster', hcluster', rfl⟩ := Option.map_eq_some_iff.mp hd
    exact hready cluster hcluster cluster' hcluster' ((hkeys hcluster hcluster').mp hkey)

/-- The steps of the loop get through exactly if the cache is servable. -/
theorem servable_iff (config : Settings) (db : CacheMap) :
    ((∀ entry ∈ db.toList, Labelled entry.2) ∧
        EntersAll HasDependencies mergeClusters ∅
          ((contributionsOf config db).filterMap Contribution.entry)) ↔ Servable db := by
  have hpairwise : EntersAll HasDependencies mergeClusters ∅
        ((contributionsOf config db).filterMap Contribution.entry) ↔
      ∀ entry ∈ db.toList, ∀ other ∈ db.toList, entry.1 ≠ other.1 →
        ∀ c, (contributionOf config entry.2).entry = some c →
          ∀ d, (contributionOf config other.2).entry = some d →
            ReadyTogether HasDependencies c d := by
    rw [entersAll_iff (fun ha hb => hasDependencies_mergeClusters ha hb),
      List.pairwise_filterMap, contributionsOf, List.pairwise_map]
    -- readiness is symmetric, so the order of the loop does not matter
    refine pairwise_toList_iff ?_ db
    intro a b hab c hc d hd hkey
    exact (hab d hd c hc hkey.symm).symm
  rw [hpairwise]
  simp only [readyTogether_entries_iff]
  constructor
  · rintro ⟨hlabelled, hready⟩
    refine ⟨hlabelled, ?_⟩
    intro entry hentry other hother hkeys hconverts hconverts' hname
    obtain ⟨cluster, hcluster⟩ := exists_cluster_contributionOf config hconverts
      (hlabelled entry hentry hconverts)
    obtain ⟨cluster', hcluster'⟩ := exists_cluster_contributionOf config
      hconverts' (hlabelled other hother hconverts')
    obtain ⟨-, -, -, -, hdependencies⟩ := cluster_contributionOf hcluster
    exact hdependencies.mp
      (hready entry hentry other hother hkeys cluster hcluster cluster' hcluster' hname).1
  · rintro ⟨hlabelled, hsharded⟩
    refine ⟨hlabelled, ?_⟩
    intro entry hentry other hother hkeys cluster hcluster cluster' hcluster' hname
    obtain ⟨hconverts, -, -, -, hdependencies⟩ := cluster_contributionOf hcluster
    obtain ⟨hconverts', -, -, -, hdependencies'⟩ := cluster_contributionOf hcluster'
    exact ⟨hdependencies.mpr
        (hsharded entry hentry other hother hkeys hconverts hconverts' hname),
      hdependencies'.mpr
        (hsharded other hother entry hentry hkeys.symm hconverts' hconverts hname.symm)⟩

/-- **When the endpoint does what it is for.**  It returns the intended list exactly
if the cache is servable. -/
theorem getEntities_eq_intended_iff (order : IterOrder) (config : Settings)
    (groups : List Group) (users : List User) (domains : List Domain) (db : CacheMap) :
    getEntities order config groups users domains db =
        .ok (intendedEntities order config groups users domains db) ↔
      Servable db := by
  rw [← servable_iff config db]
  have hloop := fun t => foldlM_visit_eq_ok_iff config db.toList
    (s := Serving.start) (t := t)
  constructor
  · intro hserved
    cases hfold : db.toList.foldlM (Serving.visit config) Serving.start with
    | error why => simp [getEntities, hfold, bind, Except.bind] at hserved
    | ok t => exact ⟨((hloop t).mp hfold).1, ((hloop t).mp hfold).2.1⟩
  · rintro ⟨hlabelled, henters⟩
    have hfold := (hloop _).mpr ⟨hlabelled, henters, rfl⟩
    have hres := res_foldl_absorb (contributionsOf config db) Serving.start []
      (by simp [Serving.start])
    have hseen := seen_foldl_absorb (contributionsOf config db) Serving.start
    simp only [getEntities, hfold, bind, Except.bind]
    rw [contributionsOf] at hres hseen
    rw [hres, hseen]
    rfl

/-- Where the cache is not servable, the handler panics. -/
theorem getEntities_error_of_not_servable (order : IterOrder) (config : Settings)
    (groups : List Group) (users : List User) (domains : List Domain) {db : CacheMap}
    (hdb : ¬ Servable db) :
    ∃ why, getEntities order config groups users domains db = .error why := by
  rw [← servable_iff config db] at hdb
  cases hfold : db.toList.foldlM (Serving.visit config) Serving.start with
  | error why => exact ⟨why, by simp [getEntities, hfold, bind, Except.bind]⟩
  | ok t =>
      obtain ⟨hlabelled, henters, -⟩ := (foldlM_visit_eq_ok_iff config db.toList).mp hfold
      exact absurd ⟨hlabelled, henters⟩ hdb

end Contributions

end EntityProvider.Routes
