import EntityProvider.Backstage.Ingest
import EntityProvider.EntityAssembly
import Mathlib.Data.List.Nodup

/-!
# References of the served entities

Backstage tells entities apart by kind, namespace and name.  Every entity the
provider builds is put in the namespace `default`, whatever the Kubernetes
namespace of the object, and shards, nodes and clusters are all of kind
`Resource`; so two of them clash as soon as they go by the same name.

`nodup_references_iff` says when no two served entities share a reference: the
names of the converted StatefulSets and Pods have to be pairwise distinct, and none
of them may be the name of a redis cluster.  Systems and clusters among themselves
never clash, and neither do static entities whose names are distinct within each
kind.

## Design notes

The list of references is, up to order, five lists in the default namespace, one for each
kind of entity (`references_perm`); resources share a list, whatever they are made from.  A
name in it comes from an object of its own (`ownNames`) or from the cluster of several
(`clusterNames`), so what is left to say is that neither of these has duplicates and that
they are disjoint.
-/

namespace EntityProvider.Routes

open Std (ExtTreeMap)
open Kube Entities Library
open EntityProvider.Configuration (Settings)

/-! ## References -/

/-- What Backstage tells entities apart by. -/
structure Reference where
  kind : String
  ns : Option String
  name : String
  deriving DecidableEq

/-- The reference of an entity of the default namespace. -/
def inDefault (kind name : String) : Reference := ⟨kind, some "default", name⟩

theorem inDefault_injective (kind : String) : Function.Injective (inDefault kind) :=
  fun _ _ heq => congrArg Reference.name heq

/-- The reference of an entity. -/
def Entity.reference : Entity → Reference
  | .resource r => ⟨r.kind, r.metadata.ns, r.metadata.name⟩
  | .group g => ⟨g.kind, g.metadata.ns, g.metadata.name⟩
  | .user u => ⟨u.kind, u.metadata.ns, u.metadata.name⟩
  | .domain d => ⟨d.kind, d.metadata.ns, d.metadata.name⟩
  | .system s => ⟨s.kind, s.metadata.ns, s.metadata.name⟩

theorem disjoint_inDefault {kind kind' : String} (hkind : kind ≠ kind')
    (names names' : List String) :
    List.Disjoint (names.map (inDefault kind)) (names'.map (inDefault kind')) := by
  intro r hr hr'
  obtain ⟨_, -, rfl⟩ := List.mem_map.mp hr
  obtain ⟨_, -, heq⟩ := List.mem_map.mp hr'
  exact hkind (congrArg Reference.kind heq).symm

/-- References of the five kinds never clash across kinds, so they are distinct
exactly if the names are within each kind. -/
theorem nodup_inDefault_iff {resources systems groups users domains : List String} :
    (resources.map (inDefault backstageEntityResource) ++
        systems.map (inDefault backstageEntitySystem) ++
        groups.map (inDefault backstageEntityGroup) ++
        users.map (inDefault backstageEntityUser) ++
        domains.map (inDefault backstageEntityDomain)).Nodup ↔
      resources.Nodup ∧ systems.Nodup ∧ groups.Nodup ∧ users.Nodup ∧ domains.Nodup := by
  simp (disch := decide) only [List.nodup_append', List.disjoint_append_left,
    disjoint_inDefault, List.nodup_map_iff (inDefault_injective _), and_true, and_assoc]

/-! ## The pushed entities -/

/-- The systems that `entitiesInOrder` lists. -/
def systemsOnce : List String → List Contribution → List System
  | _, [] => []
  | listed, c :: rest =>
      match c.system with
      | none => systemsOnce listed rest
      | some system =>
          if system.metadata.name ∈ listed then systemsOnce listed rest
          else system :: systemsOnce (system.metadata.name :: listed) rest

/-- What the loop pushes are the objects' own entities and the systems. -/
theorem entitiesInOrder_perm (contributions : List Contribution) :
    ∀ listed, (entitiesInOrder listed contributions).Perm
      ((contributions.filterMap Contribution.own).map .resource ++
        (systemsOnce listed contributions).map .system) := by
  induction contributions with
  | nil => intro listed; exact .nil
  | cons c rest ih =>
      intro listed
      have hown : ((c :: rest).filterMap Contribution.own).map Entity.resource =
          c.own.toList.map .resource ++ (rest.filterMap Contribution.own).map .resource := by
        cases hc : c.own with
        | none => rw [List.filterMap_cons_none hc]; rfl
        | some own => rw [List.filterMap_cons_some hc]; rfl
      rw [entitiesInOrder, systemsOnce, hown, List.append_assoc]
      refine List.Perm.append_left _ ?_
      cases c.system with
      | none => exact ih listed
      | some system =>
          by_cases hlisted : system.metadata.name ∈ listed
          · simpa only [if_pos hlisted] using ih listed
          · simp only [if_neg hlisted, List.map_cons]
            exact ((ih _).cons _).trans List.perm_middle.symm

/-- Each system is listed once. -/
theorem nodup_systemsOnce (contributions : List Contribution) :
    ∀ listed, ((systemsOnce listed contributions).map (·.metadata.name)).Nodup ∧
      ∀ system ∈ systemsOnce listed contributions, system.metadata.name ∉ listed := by
  induction contributions with
  | nil => intro listed; simp [systemsOnce]
  | cons c rest ih =>
      intro listed
      rw [systemsOnce]
      cases c.system with
      | none => exact ih listed
      | some system =>
          by_cases hlisted : system.metadata.name ∈ listed
          · simpa only [if_pos hlisted] using ih listed
          · obtain ⟨hnodup, hnew⟩ := ih (system.metadata.name :: listed)
            simp only [if_neg hlisted, List.map_cons, List.nodup_cons, List.forall_mem_cons]
            refine ⟨⟨?_, hnodup⟩, hlisted, fun other hother hmem => ?_⟩
            · intro hmem
              obtain ⟨other, hother, hname⟩ := List.mem_map.mp hmem
              exact hnew other hother (hname ▸ List.mem_cons_self)
            · exact hnew other hother (List.mem_cons_of_mem _ hmem)

theorem exists_of_mem_systemsOnce {contributions : List Contribution} {system : System} :
    ∀ {listed}, system ∈ systemsOnce listed contributions →
      ∃ c ∈ contributions, c.system = some system := by
  induction contributions with
  | nil => intro listed hmem; exact absurd hmem (by simp [systemsOnce])
  | cons c rest ih =>
      intro listed hmem
      have hrest : ∀ {listed}, system ∈ systemsOnce listed rest →
          ∃ c' ∈ c :: rest, c'.system = some system := by
        intro listed hmem
        obtain ⟨c', hc', hsystem⟩ := ih hmem
        exact ⟨c', List.mem_cons_of_mem _ hc', hsystem⟩
      rw [systemsOnce] at hmem
      cases hc : c.system with
      | none => exact hrest (by simpa [hc] using hmem)
      | some other =>
          by_cases hlisted : other.metadata.name ∈ listed
          · exact hrest (by simpa [hc, hlisted] using hmem)
          · simp only [hc, if_neg hlisted, List.mem_cons] at hmem
            rcases hmem with rfl | hmem
            · exact ⟨c, List.mem_cons_self, hc⟩
            · exact hrest hmem

/-! ## The merged clusters -/

/-- Merging keeps the first cluster's kind and metadata. -/
theorem mergeAll_mergeClusters {clusters : List Resource} {merged : Resource}
    (hmerged : mergeAll mergeClusters clusters = some merged) :
    ∃ cluster ∈ clusters, merged.kind = cluster.kind ∧
      merged.metadata = cluster.metadata := by
  cases clusters with
  | nil => exact absurd hmerged (by simp [mergeAll])
  | cons first rest =>
      obtain rfl : rest.foldl mergeClusters first = merged := Option.some.inj hmerged
      have hkeep : ∀ (rest : List Resource) (first : Resource),
          (rest.foldl mergeClusters first).kind = first.kind ∧
            (rest.foldl mergeClusters first).metadata = first.metadata := by
        intro rest
        induction rest with
        | nil => intro first; exact ⟨rfl, rfl⟩
        | cons next rest ih => intro first; exact ih (mergeClusters first next)
      exact ⟨first, List.mem_cons_self, hkeep rest first⟩

/-- A merged cluster sits under its own key and looks like one that was
contributed. -/
theorem exists_of_mem_clustersOf {contributions : List Contribution}
    {entry : String × Resource} (hentry : entry ∈ (clustersOf contributions).toList) :
    entry.1 = clusterKey entry.2 ∧
      ∃ c ∈ contributions, ∃ cluster, c.cluster = some cluster ∧
        entry.2.kind = cluster.kind ∧ entry.2.metadata = cluster.metadata := by
  have hvalue := ExtTreeMap.mem_toList_iff_getElem?_eq_some.mp hentry
  rw [clustersOf, getElem?_grouped] at hvalue
  obtain ⟨cluster, hcluster, hkind, hmetadata⟩ := mergeAll_mergeClusters hvalue
  obtain ⟨⟨key, cluster'⟩, hfilter, rfl⟩ := List.mem_map.mp hcluster
  obtain ⟨hmem, hkey⟩ := List.mem_filter.mp hfilter
  obtain ⟨c, hc, hc'⟩ := List.mem_filterMap.mp hmem
  obtain ⟨cluster, hsome, heq⟩ := Option.map_eq_some_iff.mp hc'
  obtain ⟨rfl, rfl⟩ := Prod.mk.inj heq
  refine ⟨?_, c, hc, cluster, hsome, hkind, hmetadata⟩
  rw [← of_decide_eq_true hkey, clusterKey_inj, hmetadata]

/-- Every contributed cluster is among the merged ones, by name. -/
theorem exists_mem_clustersOf {contributions : List Contribution} {c : Contribution}
    {cluster : Resource} (hc : c ∈ contributions) (hcluster : c.cluster = some cluster) :
    ∃ entry ∈ (clustersOf contributions).toList,
      entry.2.metadata.name = cluster.metadata.name := by
  have hentry : (clusterKey cluster, cluster) ∈
      contributions.filterMap Contribution.entry :=
    List.mem_filterMap.mpr ⟨c, hc, by simp [Contribution.entry, hcluster]⟩
  have hmem : cluster ∈ ((contributions.filterMap Contribution.entry).filter
      fun entry => entry.1 = clusterKey cluster).map Prod.snd :=
    List.mem_map.mpr ⟨_, List.mem_filter.mpr ⟨hentry, by simp⟩, rfl⟩
  cases hvalue : (clustersOf contributions)[clusterKey cluster]? with
  | none =>
      rw [clustersOf, getElem?_grouped] at hvalue
      cases hvalues : ((contributions.filterMap Contribution.entry).filter
          fun entry => entry.1 = clusterKey cluster).map Prod.snd with
      | nil => exact absurd (hvalues ▸ hmem) (by simp)
      | cons first rest => exact absurd (hvalues ▸ hvalue) (by simp [mergeAll])
  | some merged =>
      have hmerged : (clusterKey cluster, merged) ∈ (clustersOf contributions).toList :=
        ExtTreeMap.mem_toList_iff_getElem?_eq_some.mpr hvalue
      have hkey : clusterKey cluster = clusterKey merged :=
        (exists_of_mem_clustersOf hmerged).1
      exact ⟨_, hmerged, (clusterKey_inj.mp hkey).symm⟩

/-- The merged clusters have different names. -/
theorem nodup_clusterNames (contributions : List Contribution) :
    ((clustersOf contributions).toList.map (·.2.metadata.name)).Nodup := by
  rw [List.Nodup, List.pairwise_map]
  refine List.Pairwise.imp_of_mem ?_ ExtTreeMap.distinct_keys_toList
  intro a b ha hb hne hname
  have hkey : a.1 = b.1 := by
    rw [(exists_of_mem_clustersOf ha).1, (exists_of_mem_clustersOf hb).1, clusterKey_inj,
      hname]
  exact hne (hkey ▸ Std.ReflCmp.compare_self)

/-! ## What is converted -/

section Served

variable [UnicodeTables]

/-- Is the object one the loop converts to a node: a Pod with a name and labels? -/
def convertsToNode (obj : DynamicObject) : Bool :=
  (obj.types.any fun t => K8sKinds.getKind t.kind = .pod) && obj.nameAny ≠ "" &&
    obj.metadata.labels.isSome

/-- Does the object get an entity of its own? -/
def isConverted (obj : DynamicObject) : Bool := convertsToShard obj || convertsToNode obj

theorem redisNodeFromPod_eq {config : Settings} {obj : DynamicObject} {tp : TypeMeta}
    (htypes : obj.types = some tp) (hkind : K8sKinds.getKind tp.kind = .pod) :
    ((redisNodeFromPod config obj).toOption.map fun r => Entity.reference (.resource r)) =
      if obj.nameAny ≠ "" ∧ obj.metadata.labels.isSome then
        some (inDefault backstageEntityResource obj.nameAny)
      else none := by
  have hcheck : checkKind backstageEntityResource "pod" "Pod" obj = .ok () :=
    checkKind_eq_ok_iff.mpr ⟨tp, htypes, getKind_eq_pod_iff.mp hkind⟩
  unfold redisNodeFromPod
  simp only [hcheck, bind, Except.bind, Metadata.fromAnnotations_name]
  by_cases hname : obj.nameAny = ""
  · rw [if_pos hname, if_neg (fun hboth => hboth.1 hname)]
    rfl
  · rw [if_neg hname]
    cases hlabels : obj.metadata.labels with
    | none => simp [Except.toOption]
    | some labels => simp [Except.toOption, hname, Entity.reference, inDefault]

/-- **An object's own entity** is the resource of its name in the default
namespace. -/
theorem own_contributionOf (config : Settings) (obj : DynamicObject) :
    ((contributionOf config obj).own.map fun r => Entity.reference (.resource r)) =
      if isConverted obj then some (inDefault backstageEntityResource obj.nameAny)
      else none := by
  cases htypes : obj.types with
  | none =>
      simp [contributionOf, htypes, Contribution.nothing, isConverted, convertsToShard,
        convertsToNode]
  | some tp =>
      cases hkind : K8sKinds.getKind tp.kind with
      | statefulSet =>
          have hnode : convertsToNode obj = false := by
            simp [convertsToNode, htypes, hkind]
          by_cases hname : obj.nameAny = ""
          · obtain ⟨why, hwhy⟩ := redisShardFromStatefulset_of_nameAny config hname
            simp [contributionOf, htypes, hkind, hwhy, Contribution.nothing, isConverted,
              convertsToShard, hnode, hname]
          · have hshardKind : convertsToShard obj = true := by
              simp [convertsToShard, htypes, hkind, hname]
            obtain ⟨shard, hshard, hentity, hns, hshardName, -⟩ :=
              exists_shard config hshardKind
            simp [contributionOf, htypes, hkind, hshard, isConverted, hshardKind,
              Entity.reference, inDefault, hentity, hns, hshardName]
      | pod =>
          have hown : (contributionOf config obj).own =
              (redisNodeFromPod config obj).toOption := by
            simp [contributionOf, htypes, hkind]
          rw [hown, redisNodeFromPod_eq htypes hkind]
          simp [isConverted, convertsToShard, convertsToNode, htypes, hkind]
      | deployment =>
          simp [contributionOf, htypes, hkind, Contribution.nothing, isConverted,
            convertsToShard, convertsToNode]
      | unknown =>
          simp [contributionOf, htypes, hkind, Contribution.nothing, isConverted,
            convertsToShard, convertsToNode]

/-- A system is of kind `System`, in the default namespace. -/
theorem reference_of_systemFromStatefulSet {config : Settings} {obj : DynamicObject}
    {system : System} (hsystem : systemFromStatefulSet config obj = .ok system) :
    Entity.reference (.system system) =
      inDefault backstageEntitySystem system.metadata.name := by
  unfold systemFromStatefulSet at hsystem
  obtain ⟨-, hsystem⟩ := checkKind_bind_eq_ok_iff.mp hsystem
  cases hlabel : obj.labels[redisLabelCluster]? with
  | none => simp [hlabel] at hsystem
  | some name =>
      simp only [hlabel, bind, Except.bind] at hsystem
      -- `smf`, then `upf`, then the error
      split_ifs at hsystem
      · obtain rfl := Except.ok.inj hsystem
        simp [Entity.reference, inDefault]
      · obtain rfl := Except.ok.inj hsystem
        simp [Entity.reference, inDefault]

theorem reference_system {config : Settings} {obj : DynamicObject} {system : System}
    (hsystem : (contributionOf config obj).system = some system) :
    Entity.reference (.system system) =
      inDefault backstageEntitySystem system.metadata.name := by
  have hconverted : (systemFromStatefulSet config obj).toOption = some system := by
    unfold contributionOf at hsystem
    split at hsystem
    · split at hsystem
      · exact hsystem
      · exact absurd hsystem (by simp [Contribution.nothing])
    · exact absurd hsystem (by simp)
    · exact absurd hsystem (by simp [Contribution.nothing])
  cases hresult : systemFromStatefulSet config obj with
  | error why => simp [hresult, Except.toOption] at hconverted
  | ok other =>
      obtain rfl : other = system := by simpa [hresult, Except.toOption] using hconverted
      exact reference_of_systemFromStatefulSet hresult

/-! ## All references -/

/-- The names of the objects that get an entity of their own. -/
def ownNames (db : CacheMap) : List String :=
  (db.toList.filter fun entry => isConverted entry.2).map fun entry => entry.2.nameAny

/-- The names of the merged clusters. -/
def clusterNames (config : Settings) (db : CacheMap) : List String :=
  (clustersOf (contributionsOf config db)).toList.map (·.2.metadata.name)

/-- The names of the listed systems. -/
def systemNames (config : Settings) (db : CacheMap) : List String :=
  (systemsOnce [] (contributionsOf config db)).map (·.metadata.name)

/-- The references of the objects' own entities. -/
theorem references_own (config : Settings) (db : CacheMap) :
    ((contributionsOf config db).filterMap Contribution.own).map
        (fun r => Entity.reference (.resource r)) =
      (ownNames db).map (inDefault backstageEntityResource) := by
  rw [contributionsOf, List.filterMap_map, List.map_filterMap, ownNames, List.map_map]
  induction db.toList with
  | nil => rfl
  | cons entry rest ih =>
      have hown := own_contributionOf config entry.2
      cases hconverted : isConverted entry.2 with
      | true =>
          rw [hconverted, if_pos rfl] at hown
          rw [List.filterMap_cons_some (by exact hown), ih,
            List.filter_cons_of_pos (by simpa using hconverted), List.map_cons]
          rfl
      | false =>
          rw [hconverted, if_neg (by simp)] at hown
          rw [List.filterMap_cons_none (by exact hown), ih,
            List.filter_cons_of_neg (by simp [hconverted])]

/-- The references of the systems. -/
theorem references_systems (config : Settings) (db : CacheMap) :
    (systemsOnce [] (contributionsOf config db)).map
        (fun system => Entity.reference (.system system)) =
      (systemNames config db).map (inDefault backstageEntitySystem) := by
  rw [systemNames, List.map_map]
  refine List.map_congr_left fun system hsystem => ?_
  obtain ⟨c, hc, hcsystem⟩ := exists_of_mem_systemsOnce hsystem
  obtain ⟨entry, -, rfl⟩ := List.mem_map.mp hc
  exact reference_system hcsystem

/-- The references of the clusters. -/
theorem references_clusters (config : Settings) (db : CacheMap) :
    (clustersOf (contributionsOf config db)).toList.map
        (fun entry => Entity.reference (.resource entry.2)) =
      (clusterNames config db).map (inDefault backstageEntityResource) := by
  rw [clusterNames, List.map_map]
  refine List.map_congr_left fun entry hentry => ?_
  obtain ⟨-, c, hc, cluster, hcluster, hkind, hmetadata⟩ := exists_of_mem_clustersOf hentry
  obtain ⟨_, -, rfl⟩ := List.mem_map.mp hc
  obtain ⟨-, hclusterKind, hns, -, -⟩ := cluster_contributionOf hcluster
  simp [Entity.reference, inDefault, hkind, hclusterKind, hmetadata, hns]

/-- A name is a cluster's exactly if it is the cluster name of a converted
StatefulSet, in a cache whose converted StatefulSets have labels. -/
theorem mem_clusterNames_iff {config : Settings} {db : CacheMap} (hdb : Servable db)
    {name : String} :
    name ∈ clusterNames config db ↔
      ∃ entry ∈ db.toList, convertsToShard entry.2 = true ∧ clusterNameOf entry.2 = name := by
  rw [clusterNames, List.mem_map]
  constructor
  · rintro ⟨merged, hmerged, rfl⟩
    obtain ⟨-, c, hc, cluster, hcluster, -, hmetadata⟩ := exists_of_mem_clustersOf hmerged
    obtain ⟨entry, hentry, rfl⟩ := List.mem_map.mp hc
    obtain ⟨hconverts, -, -, hname, -⟩ := cluster_contributionOf hcluster
    exact ⟨entry, hentry, hconverts, by rw [hmetadata, hname]⟩
  · rintro ⟨entry, hentry, hconverts, rfl⟩
    obtain ⟨cluster, hcluster⟩ := exists_cluster_contributionOf config hconverts
      (hdb.labelled entry hentry hconverts)
    obtain ⟨-, -, -, hname, -⟩ := cluster_contributionOf hcluster
    have hmem : contributionOf config entry.2 ∈ contributionsOf config db :=
      List.mem_map.mpr ⟨entry, hentry, rfl⟩
    obtain ⟨merged, hmerged, hmergedName⟩ := exists_mem_clustersOf hmem hcluster
    exact ⟨merged, hmerged, hmergedName.trans hname⟩

/-- The references of everything that is served, up to order. -/
theorem references_perm (order : IterOrder) (config : Settings) (db : CacheMap) :
    ((intendedEntities order config (groupsFromConfig config.backstage)
        (usersFromConfig config.backstage) (domainsFromConfig config.backstage) db).map
      Entity.reference).Perm
      ((ownNames db ++ clusterNames config db).map (inDefault backstageEntityResource) ++
        (systemNames config db).map (inDefault backstageEntitySystem) ++
        (config.backstage.groups.map (·.metadata.name)).map
          (inDefault backstageEntityGroup) ++
        (config.backstage.users.map (·.metadata.name)).map (inDefault backstageEntityUser) ++
        ((config.backstage.domains.getD []).map (·.metadata.name)).map
          (inDefault backstageEntityDomain)) := by
  have hgroups : (groupsFromConfig config.backstage).map (Entity.reference ∘ .group) =
      (config.backstage.groups.map (·.metadata.name)).map
        (inDefault backstageEntityGroup) := by
    simp [groupsFromConfig, Entity.reference, inDefault, Function.comp_def]
  have husers : (usersFromConfig config.backstage).map (Entity.reference ∘ .user) =
      (config.backstage.users.map (·.metadata.name)).map
        (inDefault backstageEntityUser) := by
    simp [usersFromConfig, Entity.reference, inDefault, Function.comp_def]
  have hdomains : (domainsFromConfig config.backstage).map (Entity.reference ∘ .domain) =
      ((config.backstage.domains.getD []).map (·.metadata.name)).map
        (inDefault backstageEntityDomain) := by
    simp [domainsFromConfig, Entity.reference, inDefault, Function.comp_def]
  have hpushed : ((entitiesInOrder [] (contributionsOf config db)).map
      Entity.reference).Perm
      ((ownNames db).map (inDefault backstageEntityResource) ++
        (systemNames config db).map (inDefault backstageEntitySystem)) := by
    have hperm := (entitiesInOrder_perm (contributionsOf config db) []).map Entity.reference
    rw [List.map_append, List.map_map, List.map_map] at hperm
    rw [← references_own config db, ← references_systems config db]
    exact hperm
  have hclusters : ((order.arrange (clustersOf (contributionsOf config db)).toList).map
      (Entity.reference ∘ fun entry => Entity.resource entry.2)).Perm
      ((clusterNames config db).map (inDefault backstageEntityResource)) := by
    rw [← references_clusters config db]
    exact (order.perm _).map _
  rw [intendedEntities]
  simp only [List.map_append, List.map_map, hgroups, husers, hdomains]
  refine List.Perm.append_right _ (List.Perm.append_right _ (List.Perm.append_right _ ?_))
  -- the clusters move in front of the systems
  refine (hpushed.append hclusters).trans ?_
  rw [List.append_assoc, List.append_assoc]
  exact List.Perm.append_left _ List.perm_append_comm

/-- The names under which resources are served are distinct: no two converted
StatefulSets or Pods share a name, and none of them is called like the cluster that a
converted StatefulSet is labelled with. -/
structure DistinctNames (db : CacheMap) : Prop where
  objects : ∀ entry ∈ db.toList, ∀ other ∈ db.toList, entry.1 ≠ other.1 →
    isConverted entry.2 = true → isConverted other.2 = true →
    entry.2.nameAny ≠ other.2.nameAny
  clusters : ∀ entry ∈ db.toList, ∀ other ∈ db.toList,
    isConverted entry.2 = true → convertsToShard other.2 = true →
    ∀ cluster, other.2.labels[redisLabelCluster]? = some cluster →
      entry.2.nameAny ≠ cluster

theorem nodup_ownNames_iff (db : CacheMap) :
    (ownNames db).Nodup ↔
      ∀ entry ∈ db.toList, ∀ other ∈ db.toList, entry.1 ≠ other.1 →
        isConverted entry.2 = true → isConverted other.2 = true →
        entry.2.nameAny ≠ other.2.nameAny := by
  rw [ownNames, List.Nodup, List.pairwise_map, List.pairwise_filter]
  refine pairwise_toList_iff ?_ db
  intro a b hab hb ha
  exact (hab ha hb).symm

/-- For a cache whose converted StatefulSets all carry the cluster label. -/
theorem distinctNames_iff {config : Settings} {db : CacheMap} (hdb : Servable db)
    (hlabel : ∀ entry ∈ db.toList, convertsToShard entry.2 = true →
      (entry.2.labels[redisLabelCluster]?).isSome = true) :
    (ownNames db ++ clusterNames config db).Nodup ↔ DistinctNames db := by
  have hclusters : (clusterNames config db).Nodup := nodup_clusterNames _
  have hname : ∀ {obj : DynamicObject} {cluster : String},
      obj.labels[redisLabelCluster]? = some cluster → clusterNameOf obj = cluster := by
    intro obj cluster hcluster
    rw [clusterNameOf, hcluster, Option.getD_some]
  rw [List.nodup_append, nodup_ownNames_iff]
  constructor
  · rintro ⟨hown, -, hdisjoint⟩
    refine ⟨hown, ?_⟩
    intro entry hentry other hother hconverted hconverts cluster hcluster
    refine hdisjoint _ ?_ _ ((mem_clusterNames_iff hdb).mpr
      ⟨other, hother, hconverts, hname hcluster⟩)
    exact List.mem_map.mpr ⟨entry, List.mem_filter.mpr ⟨hentry, hconverted⟩, rfl⟩
  · rintro ⟨hown, hdisjoint⟩
    refine ⟨hown, hclusters, ?_⟩
    intro name hmem name' hmem'
    obtain ⟨entry, hfilter, rfl⟩ := List.mem_map.mp hmem
    obtain ⟨hentry, hconverted⟩ := List.mem_filter.mp hfilter
    obtain ⟨other, hother, hconverts, rfl⟩ := (mem_clusterNames_iff hdb).mp hmem'
    obtain ⟨cluster, hcluster⟩ :=
      Option.isSome_iff_exists.mp (hlabel other hother hconverts)
    rw [hname hcluster]
    exact hdisjoint entry hentry other hother hconverted hconverts cluster hcluster

/-- What `get_entities` returns is the intended list. -/
theorem eq_intendedEntities_of_getEntities {order : IterOrder} {config : Settings}
    {groups : List Group} {users : List User} {domains : List Domain} {db : CacheMap}
    {out : List Entity} (hout : getEntities order config groups users domains db = .ok out) :
    Servable db ∧ out = intendedEntities order config groups users domains db := by
  by_cases hdb : Servable db
  · rw [(getEntities_eq_intended_iff order config groups users domains db).mpr hdb] at hout
    exact ⟨hdb, (Except.ok.inj hout).symm⟩
  · obtain ⟨why, hwhy⟩ :=
      getEntities_error_of_not_servable order config groups users domains hdb
    exact absurd (hout.symm.trans hwhy) (by simp)

/-- **When served references are distinct.**  Whenever `get_entities` returns, with
static entities whose names are distinct within each kind and a cache whose converted
StatefulSets carry the cluster label: no two returned entities share a reference
exactly if the names of the converted objects are distinct. -/
theorem nodup_references_iff {order : IterOrder} {config : Settings} {db : CacheMap}
    {out : List Entity}
    (hgroups : (config.backstage.groups.map (·.metadata.name)).Nodup)
    (husers : (config.backstage.users.map (·.metadata.name)).Nodup)
    (hdomains : ((config.backstage.domains.getD []).map (·.metadata.name)).Nodup)
    (hout : getEntities order config (groupsFromConfig config.backstage)
      (usersFromConfig config.backstage) (domainsFromConfig config.backstage) db = .ok out)
    (hlabel : ∀ entry ∈ db.toList, convertsToShard entry.2 = true →
      (entry.2.labels[redisLabelCluster]?).isSome = true) :
    (out.map Entity.reference).Nodup ↔ DistinctNames db := by
  obtain ⟨hdb, rfl⟩ := eq_intendedEntities_of_getEntities hout
  have hsystems : (systemNames config db).Nodup :=
    (nodup_systemsOnce (contributionsOf config db) []).1
  -- of the five kinds only resources can clash: objects with objects or with clusters
  rw [(references_perm order config db).nodup_iff, nodup_inDefault_iff,
    distinctNames_iff hdb hlabel]
  exact ⟨fun hall => hall.1, fun hnames => ⟨hnames, hsystems, hgroups, husers, hdomains⟩⟩

end Served

/-! ## Two objects of one name -/

/-- The StatefulSet `a` of a namespace, a shard of a redis cluster. -/
def redisStatefulSet (ns cluster : String) : DynamicObject where
  types := some ⟨"apps/v1", "StatefulSet"⟩
  metadata :=
    { ObjectMeta.empty with
      name := some "a", ns := some ns, creationTimestamp := some 0
      labels := some (ExtTreeMap.ofList
        [(redisLabelCluster, cluster), (redisLabelShard, "a")] compare) }
  data := .object []

/-- The cache after the given StatefulSets are added. -/
def cacheOf (objs : List DynamicObject) : CacheMap :=
  letI := UnicodeTables.asciiOnly
  (Ingest.IngestTask.start.run (objs.map fun o =>
    (⟨0, ⟨true, fun _ => .found⟩⟩,
      ⟨"1.31", "/apis/apps/v1/statefulsets", "", .add o⟩))).cache

/-- What is served from a cache, without static entities. -/
def serveBare (db : CacheMap) : Checked (List Entity) :=
  letI := UnicodeTables.asciiOnly
  getEntities .sorted .bare (groupsFromConfig Settings.bare.backstage)
    (usersFromConfig Settings.bare.backstage) (domainsFromConfig Settings.bare.backstage) db

/-- **References clash.**  StatefulSets of one name in two namespaces are served as two
resources with the same reference. -/
theorem not_nodup_references_namesakes :
    ∃ out, serveBare (cacheOf [redisStatefulSet "x" "c1", redisStatefulSet "y" "c2"]) =
        .ok out ∧
      ¬ (out.map Entity.reference).Nodup := by
  refine ⟨_, rfl, ?_⟩
  decide

/-- A StatefulSet of namespace `x`, a shard of the redis cluster `smf`. -/
def smfShard (name : String) : DynamicObject where
  types := some ⟨"apps/v1", "StatefulSet"⟩
  metadata :=
    { ObjectMeta.empty with
      name := some name, ns := some "x", creationTimestamp := some 0
      labels := some (ExtTreeMap.ofList
        [(redisLabelCluster, "smf"), (redisLabelShard, name)] compare) }
  data := .object []

/-- Two shards of one cluster. -/
def smfShards : CacheMap := cacheOf [smfShard "smf-0", smfShard "smf-1"]

/-- An entry of that cache: it converts to a shard, and its labels are its name and `smf`. -/
structure IsSmfShard (name : String) (entry : String × DynamicObject) : Prop where
  name_cases : name = "smf-0" ∨ name = "smf-1"
  key : entry.1 = "x/" ++ name
  nameAny : entry.2.nameAny = name
  converts : @convertsToShard UnicodeTables.asciiOnly entry.2 = true
  converted : @isConverted UnicodeTables.asciiOnly entry.2 = true
  cluster : entry.2.labels[redisLabelCluster]? = some "smf"
  shard : entry.2.labels[redisLabelShard]? = some name

theorem exists_isSmfShard {entry : String × DynamicObject}
    (hentry : entry ∈ smfShards.toList) :
    ∃ name, IsSmfShard name entry := by
  have hlist : smfShards.toList = ["smf-0", "smf-1"].map fun name =>
      ("x/" ++ name, @Ingest.processDynobj UnicodeTables.asciiOnly (smfShard name)
        "/apis/apps/v1/statefulsets") := rfl
  rw [hlist] at hentry
  obtain ⟨name, hname, rfl⟩ := List.mem_map.mp hentry
  rw [List.mem_pair] at hname
  rcases hname with rfl | rfl
  · exact ⟨_, Or.inl rfl, rfl, rfl, rfl, rfl, rfl, rfl⟩
  · exact ⟨_, Or.inr rfl, rfl, rfl, rfl, rfl, rfl, rfl⟩

/-- The two shards and their cluster have different names, so their references differ. -/
theorem nodup_references_iff_smfShards :
    ∃ out, serveBare smfShards = .ok out ∧ (out.map Entity.reference).Nodup := by
  have hlabel : ∀ entry ∈ smfShards.toList,
      @convertsToShard UnicodeTables.asciiOnly entry.2 = true →
        (entry.2.labels[redisLabelCluster]?).isSome = true := by
    intro entry hentry _
    obtain ⟨name, hshard⟩ := exists_isSmfShard hentry
    exact Option.isSome_of_eq_some hshard.cluster
  have hdistinct : @DistinctNames UnicodeTables.asciiOnly smfShards := by
    let _ := UnicodeTables.asciiOnly
    refine ⟨fun entry hentry other hother hkeys _ _ hnames => ?_,
      fun entry hentry other hother _ _ cluster hcluster hname => ?_⟩
    · obtain ⟨name, hshard⟩ := exists_isSmfShard hentry
      obtain ⟨name', hshard'⟩ := exists_isSmfShard hother
      rw [hshard.nameAny, hshard'.nameAny] at hnames
      exact hkeys (by rw [hshard.key, hshard'.key, hnames])
    · obtain ⟨name, hshard⟩ := exists_isSmfShard hentry
      obtain ⟨name', hshard'⟩ := exists_isSmfShard hother
      obtain rfl := Option.some.inj (hshard'.cluster.symm.trans hcluster)
      rw [hshard.nameAny] at hname
      rcases hshard.name_cases with rfl | rfl <;> exact absurd hname (by decide)
  obtain ⟨out, hout⟩ : ∃ out, serveBare smfShards = .ok out := ⟨_, rfl⟩
  exact ⟨out, hout, (@nodup_references_iff UnicodeTables.asciiOnly _ _ _ _
    (by decide) (by decide) (by decide) hout hlabel).mpr hdistinct⟩

end EntityProvider.Routes
