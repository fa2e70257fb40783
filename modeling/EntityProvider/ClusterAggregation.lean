import EntityProvider.References

/-!
# The redis clusters that are served

`get_entities` collects the redis clusters in a map: the first StatefulSet of a cluster
name enters its cluster there, and the ones after it append their dependencies.  The
`members` of a name are these StatefulSets, in key order; `exists_redisCluster` says what
becomes of them: one resource of the name, with the system of the first member and the
dependencies of all.

A StatefulSet goes by its cluster label, but one without the label goes by its own name,
and is served as a cluster as well.  So the clusters are the labelled ones exactly if every
converted StatefulSet carries the label (`aggregatesClusters_iff`).

## Design notes

The merged cluster is described by the fields of its spec, not by the fold that merges it:
`spec_foldl_mergeClusters` is the induction over the members, with the dependencies of those
that are merged already as the part that grows.  Whether an entity is a cluster can be told
by its `spec.type`, which no shard and no node has (`type_of_own`).
-/

namespace EntityProvider.Routes

open Std (ExtTreeMap)
open Kube Entities Library
open EntityProvider.Configuration (Settings)

/-- The reference to a resource of the default namespace. -/
def resourceReference (name : String) : String := "resource:default" ++ "/" ++ name

/-! ## What is in a shard and in a cluster -/

/-- The label loop keeps the cluster label it saw last. -/
theorem dependencyOf_foldl_step (ns : String) (entries : List (String × String))
    (loop : ShardLoop) :
    (entries.foldl (ShardLoop.step ns) loop).dependencyOf =
      ((lastWith (fun entry => entry.1 = redisLabelCluster) entries).map
        fun entry => [resourceReference entry.2]).or loop.dependencyOf := by
  induction entries using List.reverseRecOn with
  | nil => rfl
  | append_singleton entries entry ih =>
      rw [List.foldl_concat, lastWith_concat]
      obtain ⟨label, val⟩ := entry
      simp only [ShardLoop.step]
      by_cases hlabel : label = redisLabelCluster
      · rw [if_pos hlabel, if_pos (decide_eq_true hlabel)]
        rfl
      · rw [if_neg hlabel, if_neg (by simpa using hlabel)]
        exact ih

/-- The label loop leaves the type alone, or makes it a shard's. -/
theorem specType_foldl_step (ns : String) (entries : List (String × String)) :
    ∀ loop : ShardLoop, (entries.foldl (ShardLoop.step ns) loop).specType = loop.specType ∨
      (entries.foldl (ShardLoop.step ns) loop).specType = "redis-cluster-shard" := by
  induction entries using List.reverseRecOn with
  | nil => intro loop; exact Or.inl rfl
  | append_singleton entries entry ih =>
      intro loop
      rw [List.foldl_concat]
      simp only [ShardLoop.step]
      split
      · exact Or.inr rfl
      · exact ih loop

section Served

variable [UnicodeTables]

/-- Exactly the StatefulSets with a name are converted. -/
theorem convertsToShard_iff (config : Settings) (obj : DynamicObject) :
    convertsToShard obj = true ↔
      ∃ shard, redisShardFromStatefulset config obj = .ok shard := by
  constructor
  · intro hobj
    obtain ⟨shard, hshard, -⟩ := exists_shard config hobj
    exact ⟨shard, hshard⟩
  · rintro ⟨shard, hshard⟩
    have hname : obj.nameAny ≠ "" := by
      intro hempty
      obtain ⟨why, hwhy⟩ := redisShardFromStatefulset_of_nameAny config hempty
      exact absurd (hwhy.symm.trans hshard) (by simp)
    obtain ⟨⟨tp, htypes, hkind⟩, -⟩ := checkKind_bind_eq_ok_iff.mp hshard
    simp [convertsToShard, htypes, getKind_eq_statefulSet_iff.mpr hkind, hname]

/-- **The spec of a shard.**  It is part of the cluster its object is labelled with. -/
theorem spec_of_shard {config : Settings} {obj : DynamicObject} {shard : Resource}
    (hshard : redisShardFromStatefulset config obj = .ok shard) :
    shard.spec.type ≠ "redis-cluster" ∧ shard.spec.dependsOn = none ∧
      shard.spec.dependencyOf =
        (obj.labels[redisLabelCluster]?).map fun cluster => [resourceReference cluster] := by
  obtain ⟨-, hshard⟩ := checkKind_bind_eq_ok_iff.mp hshard
  dsimp only at hshard
  split at hshard
  · exact absurd hshard (by simp)
  · obtain rfl := Except.ok.inj hshard
    refine ⟨?_, rfl, ?_⟩
    · dsimp only
      rcases specType_foldl_step (obj.metadata.ns.getD "default") obj.labels.toList _ with
        htype | htype
      · rw [htype]
        show "statefulset" ≠ "redis-cluster"
        decide
      · rw [htype]
        decide
    · dsimp only
      rw [dependencyOf_foldl_step, lastWith_toList]
      cases obj.labels[redisLabelCluster]? <;> rfl

/-- The spec of the cluster that a shard with labels becomes. -/
theorem spec_of_redisClusterFromShard (config : Settings) {shard : Resource}
    {labels : StringMap} (hlabels : shard.metadata.labels = some labels) :
    ∃ cluster, redisClusterFromShard config shard = .ok (.ok cluster) ∧
      cluster.spec.type = "redis-cluster" ∧
      cluster.spec.system = (labels[redisLabelCluster]?).bind (redisSystemOfCluster config) ∧
      cluster.spec.dependsOn =
        (labels[redisLabelShard]?).map (fun shard => [resourceReference shard]) ∧
      cluster.spec.dependencyOf = none := by
  simp only [redisClusterFromShard, hlabels, unwrap_some, bind, Except.bind]
  exact ⟨_, rfl, rfl, rfl, rfl, rfl⟩

/-- **The spec of a cluster**, read off the labels of the object it comes from. -/
theorem spec_of_cluster {config : Settings} {obj : DynamicObject} {cluster : Resource}
    (hcluster : (contributionOf config obj).cluster = some cluster) :
    cluster.spec.type = "redis-cluster" ∧
      cluster.spec.system =
        (obj.labels[redisLabelCluster]?).bind (redisSystemOfCluster config) ∧
      cluster.spec.dependsOn =
        (obj.labels[redisLabelShard]?).map (fun shard => [resourceReference shard]) ∧
      cluster.spec.dependencyOf = none := by
  obtain ⟨hobj, -⟩ := cluster_contributionOf hcluster
  obtain ⟨shard, hshard, -, -, -, hlabels⟩ := exists_shard config hobj
  obtain ⟨tp, htypes, hkind⟩ := exists_types_of_convertsToShard hobj
  have hshardCluster : clusterOfShard config shard = some cluster := by
    rw [← hcluster]
    simp [contributionOf, htypes, hkind, hshard]
  cases hempty : obj.labels.isEmpty with
  | true =>
      rw [hempty, if_pos rfl] at hlabels
      rw [clusterOfShard,
        redisClusterFromShard_of_labels_eq_none config hlabels] at hshardCluster
      exact absurd hshardCluster (by simp)
  | false =>
      rw [hempty, if_neg (by simp)] at hlabels
      obtain ⟨cluster', hcluster', hspec⟩ := spec_of_redisClusterFromShard config hlabels
      rw [clusterOfShard, hcluster'] at hshardCluster
      obtain rfl := Option.some.inj hshardCluster
      exact hspec

/-- The conversion that an object's own entity comes from. -/
theorem conversion_of_own {config : Settings} {obj : DynamicObject} {own : Resource}
    (hown : (contributionOf config obj).own = some own) :
    redisShardFromStatefulset config obj = .ok own ∨
      redisNodeFromPod config obj = .ok own := by
  unfold contributionOf at hown
  split at hown
  · split at hown
    next shard hshard =>
      obtain rfl := Option.some.inj hown
      exact Or.inl hshard
    next => exact absurd hown (by simp [Contribution.nothing])
  · cases hnode : redisNodeFromPod config obj with
    | error why => simp [hnode, Except.toOption] at hown
    | ok node =>
        obtain rfl : node = own := by simpa [hnode, Except.toOption] using hown
        exact Or.inr rfl
  · exact absurd hown (by simp [Contribution.nothing])

/-- The cluster of an object comes from its shard. -/
theorem conversion_of_cluster {config : Settings} {obj : DynamicObject} {cluster : Resource}
    (hcluster : (contributionOf config obj).cluster = some cluster) :
    ∃ shard, redisShardFromStatefulset config obj = .ok shard ∧
      redisClusterFromShard config shard = .ok (.ok cluster) := by
  unfold contributionOf at hcluster
  split at hcluster
  · split at hcluster
    next shard hshard =>
      refine ⟨shard, hshard, ?_⟩
      dsimp only [clusterOfShard] at hcluster
      split at hcluster
      next hconverted =>
        obtain rfl := Option.some.inj hcluster
        exact hconverted
      next => exact absurd hcluster (by simp)
    next => exact absurd hcluster (by simp [Contribution.nothing])
  · exact absurd hcluster (by simp)
  · exact absurd hcluster (by simp [Contribution.nothing])

/-- The System of an object. -/
theorem conversion_of_system {config : Settings} {obj : DynamicObject} {system : System}
    (hsystem : (contributionOf config obj).system = some system) :
    systemFromStatefulSet config obj = .ok system := by
  unfold contributionOf at hsystem
  split at hsystem
  · split at hsystem
    · cases hconverted : systemFromStatefulSet config obj with
      | error why => simp [hconverted, Except.toOption] at hsystem
      | ok converted =>
          obtain rfl : converted = system := by
            simpa [hconverted, Except.toOption] using hsystem
          rfl
    · exact absurd hsystem (by simp [Contribution.nothing])
  · exact absurd hsystem (by simp)
  · exact absurd hsystem (by simp [Contribution.nothing])

/-- The type and the metadata of a node. -/
theorem node_eq {config : Settings} {obj : DynamicObject} {node : Resource}
    (hnode : redisNodeFromPod config obj = .ok node) :
    node.spec.type = "redis-cluster-node" ∧
      node.metadata = Metadata.fromAnnotations config.backstage obj.nameAny := by
  obtain ⟨-, hnode⟩ := checkKind_bind_eq_ok_iff.mp hnode
  dsimp only at hnode
  split at hnode
  · exact absurd hnode (by simp)
  · split at hnode
    · obtain rfl := Except.ok.inj hnode
      exact ⟨rfl, rfl⟩
    · exact absurd hnode (by simp)

/-- An object's own entity is never served as a cluster. -/
theorem type_of_own {config : Settings} {obj : DynamicObject} {own : Resource}
    (hown : (contributionOf config obj).own = some own) :
    own.spec.type ≠ "redis-cluster" := by
  rcases conversion_of_own hown with hshard | hnode
  · exact (spec_of_shard hshard).1
  · rw [(node_eq hnode).1]
    decide

/-! ## Merging -/

omit [UnicodeTables] in
/-- Merging keeps what the first cluster has, and lists the dependencies of all. -/
theorem spec_foldl_mergeClusters (rest : List Resource) :
    ∀ first : Resource, (rest.foldl mergeClusters first).spec.type = first.spec.type ∧
      (rest.foldl mergeClusters first).spec.system = first.spec.system ∧
      (rest.foldl mergeClusters first).spec.dependencyOf = first.spec.dependencyOf ∧
      (rest.foldl mergeClusters first).spec.dependsOn.getD [] =
        (first :: rest).flatMap fun cluster => cluster.spec.dependsOn.getD [] := by
  induction rest with
  | nil => intro first; simp
  | cons next rest ih =>
      intro first
      obtain ⟨htype, hsystem, hdependencyOf, hdependsOn⟩ := ih (mergeClusters first next)
      refine ⟨htype, hsystem, hdependencyOf, ?_⟩
      have hmerged : (mergeClusters first next).spec.dependsOn.getD [] =
          first.spec.dependsOn.getD [] ++ next.spec.dependsOn.getD [] := by
        show (mergeDependencies first.spec.dependsOn next.spec.dependsOn).getD [] = _
        cases first.spec.dependsOn <;> cases next.spec.dependsOn <;> simp [mergeDependencies]
      rw [List.foldl_cons, hdependsOn, List.flatMap_cons, hmerged, List.flatMap_cons,
        List.flatMap_cons, List.append_assoc]

/-- The converted StatefulSets of a cluster name, in key order. -/
def clusterMembers (db : CacheMap) (name : String) : List DynamicObject :=
  (db.toList.map Prod.snd).filter fun obj => convertsToShard obj && clusterNameOf obj = name

/-- What is entered under a cluster name are the clusters of its members. -/
theorem entries_of_members (config : Settings) (name : String) (objs : List DynamicObject) :
    (((objs.map (contributionOf config)).filterMap Contribution.entry).filter
        fun entry => entry.1 = "redis_cluster/" ++ name).map Prod.snd =
      (objs.filter fun obj => convertsToShard obj && clusterNameOf obj = name).filterMap
        fun obj => (contributionOf config obj).cluster := by
  induction objs with
  | nil => rfl
  | cons obj rest ih =>
      cases hcluster : (contributionOf config obj).cluster with
      | none =>
          have hentry : (contributionOf config obj).entry = none := by
            rw [Contribution.entry, hcluster, Option.map_none]
          rw [List.map_cons, List.filterMap_cons_none hentry, ih, List.filter_cons]
          split
          · rw [List.filterMap_cons_none (by exact hcluster)]
          · rfl
      | some cluster =>
          obtain ⟨hconverts, -, -, hname, -⟩ := cluster_contributionOf hcluster
          have hentry : (contributionOf config obj).entry =
              some ("redis_cluster/" ++ clusterNameOf obj, cluster) := by
            rw [Contribution.entry, hcluster, Option.map_some, clusterKey_of_name hname]
          rw [List.map_cons, List.filterMap_cons_some hentry]
          by_cases hmember : clusterNameOf obj = name
          · rw [List.filter_cons_of_pos (by simp [hmember]), List.map_cons, ih,
              List.filter_cons_of_pos (by simp [hconverts, hmember]),
              List.filterMap_cons_some (by exact hcluster)]
          · rw [List.filter_cons_of_neg
                (by simpa [String.append_right_inj] using hmember), ih,
              List.filter_cons_of_neg (by simp [hmember])]

/-- The dependencies that the members of a cluster ask for. -/
def memberReferences (members : List DynamicObject) : List String :=
  members.filterMap fun obj => (obj.labels[redisLabelShard]?).map resourceReference

/-- The clusters of the members together ask for what the members ask for. -/
theorem flatMap_dependsOn (config : Settings) {members : List DynamicObject}
    (hmembers : ∀ obj ∈ members, convertsToShard obj = true ∧ obj.labels.isEmpty = false) :
    ((members.filterMap fun obj => (contributionOf config obj).cluster).flatMap
        fun cluster => cluster.spec.dependsOn.getD []) = memberReferences members := by
  induction members with
  | nil => rfl
  | cons obj rest ih =>
      obtain ⟨⟨hconverts, hlabelled⟩, hrest⟩ := List.forall_mem_cons.mp hmembers
      obtain ⟨cluster, hcluster⟩ := exists_cluster_contributionOf config hconverts hlabelled
      obtain ⟨-, -, hdependsOn, -⟩ := spec_of_cluster hcluster
      rw [List.filterMap_cons_some (by exact hcluster), List.flatMap_cons, ih hrest,
        hdependsOn,
        memberReferences, memberReferences]
      cases hshard : obj.labels[redisLabelShard]? with
      | none => rw [List.filterMap_cons_none (by rw [hshard, Option.map_none])]; rfl
      | some shard => rw [List.filterMap_cons_some (by rw [hshard, Option.map_some])]; rfl

/-! ## The clusters of the output -/

omit [UnicodeTables] in
/-- The served entity as a redis cluster, if it is one. -/
def asRedisCluster : Entity → Option Resource
  | .resource r => if r.spec.type = "redis-cluster" then some r else none
  | _ => none

omit [UnicodeTables] in
/-- The clusters among served entities. -/
def redisClusters (out : List Entity) : List Resource := out.filterMap asRedisCluster

omit [UnicodeTables] in
/-- Entities that are all of another kind. -/
theorem filterMap_map_eq_nil {α β : Type} {make : α → Entity} {as : Entity → Option β}
    (hmake : ∀ a, as (make a) = none) (l : List α) : (l.map make).filterMap as = [] := by
  rw [List.filterMap_map, List.filterMap_eq_nil_iff]
  exact fun a _ => hmake a

/-- Whatever is not configured is pushed by the loop, or is a merged cluster. -/
theorem filterMap_intendedEntities {β : Type} {as : Entity → Option β}
    (hgroup : ∀ g, as (.group g) = none) (huser : ∀ u, as (.user u) = none)
    (hdomain : ∀ d, as (.domain d) = none) (order : IterOrder) (config : Settings)
    (groups : List Group) (users : List User) (domains : List Domain) (db : CacheMap) :
    (intendedEntities order config groups users domains db).filterMap as =
      (entitiesInOrder [] (contributionsOf config db)).filterMap as ++
        ((order.arrange (clustersOf (contributionsOf config db)).toList).map
          fun entry => Entity.resource entry.2).filterMap as := by
  rw [intendedEntities]
  simp only [List.filterMap_append, filterMap_map_eq_nil hgroup, filterMap_map_eq_nil huser,
    filterMap_map_eq_nil hdomain, List.append_nil]

/-- What the loop pushes are no clusters. -/
theorem redisClusters_entitiesInOrder (config : Settings) (db : CacheMap) :
    redisClusters (entitiesInOrder [] (contributionsOf config db)) = [] := by
  rw [redisClusters, List.filterMap_eq_nil_iff]
  intro entity hentity
  rcases List.mem_append.mp ((entitiesInOrder_perm _ []).mem_iff.mp hentity) with
    hown | hsystem
  · obtain ⟨own, hmem, rfl⟩ := List.mem_map.mp hown
    obtain ⟨c, hc, hcown⟩ := List.mem_filterMap.mp hmem
    obtain ⟨entry, -, rfl⟩ := List.mem_map.mp hc
    exact if_neg (type_of_own hcown)
  · obtain ⟨system, -, rfl⟩ := List.mem_map.mp hsystem
    rfl

/-- **The merged cluster of a name** comes from its members: the system of the first, and
the dependencies of all. -/
theorem exists_members_of_merged {config : Settings} {db : CacheMap} (hdb : Servable db)
    {entry : String × Resource}
    (hentry : entry ∈ (clustersOf (contributionsOf config db)).toList) :
    entry.2.spec.type = "redis-cluster" ∧ entry.2.spec.dependencyOf = none ∧
      (∃ first rest, clusterMembers db entry.2.metadata.name = first :: rest ∧
        entry.2.spec.system =
          (first.labels[redisLabelCluster]?).bind (redisSystemOfCluster config)) ∧
      entry.2.spec.dependsOn.getD [] =
        memberReferences (clusterMembers db entry.2.metadata.name) := by
  have hkey := (exists_of_mem_clustersOf hentry).1
  have hvalue := ExtTreeMap.mem_toList_iff_getElem?_eq_some.mp hentry
  have hmap : contributionsOf config db =
      (db.toList.map Prod.snd).map (contributionOf config) := by
    rw [contributionsOf, List.map_map]
    rfl
  rw [hkey, clusterKey_of_name rfl, clustersOf, getElem?_grouped, hmap, entries_of_members]
    at hvalue
  change mergeAll mergeClusters ((clusterMembers db entry.2.metadata.name).filterMap
    fun obj => (contributionOf config obj).cluster) = some entry.2 at hvalue
  have hmembers : ∀ obj ∈ clusterMembers db entry.2.metadata.name,
      convertsToShard obj = true ∧ obj.labels.isEmpty = false := by
    intro obj hobj
    obtain ⟨hmem, hmember⟩ := List.mem_filter.mp hobj
    obtain ⟨cached, hcached, rfl⟩ := List.mem_map.mp hmem
    have hconverts := (Bool.and_eq_true _ _ ▸ hmember).1
    exact ⟨hconverts, hdb.labelled cached hcached hconverts⟩
  have hreferences := flatMap_dependsOn config hmembers
  cases hlist : clusterMembers db entry.2.metadata.name with
  | nil => exact absurd (hlist ▸ hvalue) (by simp [mergeAll])
  | cons first rest =>
      rw [hlist] at hvalue hreferences hmembers
      obtain ⟨hconverts, hlabelled⟩ := hmembers first List.mem_cons_self
      obtain ⟨cluster, hcluster⟩ := exists_cluster_contributionOf config hconverts hlabelled
      rw [List.filterMap_cons_some (by exact hcluster)] at hvalue hreferences
      obtain ⟨htype, hsystem, hdependencyOf, hdependsOn⟩ := spec_foldl_mergeClusters
        (rest.filterMap fun obj => (contributionOf config obj).cluster) cluster
      obtain ⟨hclusterType, hclusterSystem, -, hclusterNone⟩ := spec_of_cluster hcluster
      have hmerged := Option.some.inj hvalue
      rw [hmerged] at htype hsystem hdependencyOf hdependsOn
      exact ⟨htype.trans hclusterType, hdependencyOf.trans hclusterNone,
        ⟨first, rest, rfl, hsystem.trans hclusterSystem⟩, hdependsOn.trans hreferences⟩

/-- The clusters of the output are the merged ones. -/
theorem redisClusters_intendedEntities {order : IterOrder} {config : Settings}
    {groups : List Group} {users : List User} {domains : List Domain} {db : CacheMap}
    (hdb : Servable db) :
    redisClusters (intendedEntities order config groups users domains db) =
      (order.arrange (clustersOf (contributionsOf config db)).toList).map Prod.snd := by
  have hclusters : ((order.arrange (clustersOf (contributionsOf config db)).toList).map
      fun entry => Entity.resource entry.2).filterMap asRedisCluster =
      (order.arrange (clustersOf (contributionsOf config db)).toList).map Prod.snd := by
    rw [List.filterMap_map, ← List.filterMap_eq_map]
    refine List.filterMap_congr fun entry hentry => ?_
    exact if_pos (exists_members_of_merged hdb ((order.perm _).mem_iff.mp hentry)).1
  have hpushed := redisClusters_entitiesInOrder config db
  rw [redisClusters] at hpushed
  rw [redisClusters, filterMap_intendedEntities (fun _ => rfl) (fun _ => rfl) (fun _ => rfl),
    hpushed, hclusters, List.nil_append]

/-- **A cluster of the output** has the system of its first member and the dependencies of
all its members. -/
theorem exists_members_of_redisCluster {order : IterOrder} {config : Settings}
    {groups : List Group} {users : List User} {domains : List Domain} {db : CacheMap}
    (hdb : Servable db) {cluster : Resource}
    (hcluster : cluster ∈ redisClusters
      (intendedEntities order config groups users domains db)) :
    cluster.spec.dependencyOf = none ∧
      (∃ first rest, clusterMembers db cluster.metadata.name = first :: rest ∧
        cluster.spec.system =
          (first.labels[redisLabelCluster]?).bind (redisSystemOfCluster config)) ∧
      cluster.spec.dependsOn.getD [] =
        memberReferences (clusterMembers db cluster.metadata.name) := by
  rw [redisClusters_intendedEntities hdb] at hcluster
  obtain ⟨entry, hentry, rfl⟩ := List.mem_map.mp hcluster
  exact (exists_members_of_merged hdb ((order.perm _).mem_iff.mp hentry)).2

/-- The clusters of the output go by the names of the merged ones. -/
theorem names_redisClusters (order : IterOrder) (config : Settings) (groups : List Group)
    (users : List User) (domains : List Domain) {db : CacheMap} (hdb : Servable db) :
    ((redisClusters (intendedEntities order config groups users domains db)).map
      (·.metadata.name)).Perm (clusterNames config db) := by
  rw [redisClusters_intendedEntities hdb, List.map_map]
  exact (order.perm _).map _

/-! ## The labelled clusters -/

/-- The converted StatefulSets with a cluster label, in key order. -/
def labelledMembers (db : CacheMap) (name : String) : List DynamicObject :=
  (db.toList.map Prod.snd).filter fun obj =>
    convertsToShard obj && obj.labels[redisLabelCluster]? = some name

/-- **The clusters are aggregated exactly.**  The clusters among the entities have different
names, these are the values of the cluster label on converted StatefulSets, and each one
lists the shards of the StatefulSets labelled with it. -/
structure AggregatesClusters (db : CacheMap) (out : List Entity) : Prop where
  distinct : ((redisClusters out).map (·.metadata.name)).Nodup
  names : ∀ name, name ∈ (redisClusters out).map (·.metadata.name) ↔
    ∃ entry ∈ db.toList, convertsToShard entry.2 = true ∧
      entry.2.labels[redisLabelCluster]? = some name
  dependencies : ∀ cluster ∈ redisClusters out,
    cluster.spec.dependsOn.getD [] =
      memberReferences (labelledMembers db cluster.metadata.name)

omit [UnicodeTables] in
theorem clusterNameOf_of_label {obj : DynamicObject} {name : String}
    (hlabel : obj.labels[redisLabelCluster]? = some name) : clusterNameOf obj = name := by
  rw [clusterNameOf, hlabel, Option.getD_some]

/-- A labelled member is a member. -/
theorem labelledMembers_eq_filter (db : CacheMap) (name : String) :
    labelledMembers db name =
      (clusterMembers db name).filter fun obj => (obj.labels[redisLabelCluster]?).isSome := by
  rw [labelledMembers, clusterMembers, List.filter_filter]
  refine List.filter_congr fun obj _ => ?_
  cases hlabel : obj.labels[redisLabelCluster]? with
  | none => simp
  | some label => simp [clusterNameOf_of_label hlabel]

omit [UnicodeTables] in
/-- Members that ask for nothing can be left out, and no others. -/
theorem memberReferences_filter_eq_iff (p : DynamicObject → Bool)
    (members : List DynamicObject) :
    memberReferences (members.filter p) = memberReferences members ↔
      ∀ obj ∈ members, (obj.labels[redisLabelShard]?).isSome = true → p obj = true := by
  unfold memberReferences
  rw [filterMap_filter_eq_iff]
  simp only [Option.isSome_map]

/-- If clusters are aggregated, everything that converts to a shard is labelled. -/
theorem labelled_of_aggregatesClusters {order : IterOrder} {config : Settings}
    {groups : List Group} {users : List User} {domains : List Domain} {db : CacheMap}
    (hdb : Servable db)
    (haggregates : AggregatesClusters db
      (intendedEntities order config groups users domains db))
    {entry : String × DynamicObject} (hentry : entry ∈ db.toList)
    (hconverts : convertsToShard entry.2 = true) :
    (entry.2.labels[redisLabelCluster]?).isSome = true := by
  by_contra hlabel
  have hunlabelled := Option.not_isSome_iff_eq_none.mp hlabel
  have hname : clusterNameOf entry.2 = entry.2.nameAny := by
    rw [clusterNameOf, hunlabelled, Option.getD_none]
  -- the cluster of this object goes by its own name: another object has to carry it
  have hserved := (names_redisClusters order config groups users domains hdb).mem_iff.mpr
    ((mem_clusterNames_iff hdb).mpr ⟨entry, hentry, hconverts, rfl⟩)
  obtain ⟨other, hother, hconverts', hlabel'⟩ := (haggregates.names _).mp hserved
  have hdifferent : entry.1 ≠ other.1 := by
    intro hkey
    have hsame := ExtTreeMap.mem_toList_iff_getElem?_eq_some.mp hentry
    rw [hkey, ExtTreeMap.mem_toList_iff_getElem?_eq_some.mp hother] at hsame
    rw [Option.some.inj hsame] at hlabel'
    exact absurd (hunlabelled.symm.trans hlabel') (by simp)
  -- both carry the shard label, so the object's shard is listed and must not be
  have hshard := hdb.sharded entry hentry other hother hdifferent hconverts hconverts'
    (clusterNameOf_of_label hlabel').symm
  obtain ⟨cluster, hcluster, hclusterName⟩ := List.mem_map.mp hserved
  have hdependencies := haggregates.dependencies cluster hcluster
  rw [(exists_members_of_redisCluster hdb hcluster).2.2, labelledMembers_eq_filter,
    hclusterName, eq_comm, memberReferences_filter_eq_iff] at hdependencies
  refine hlabel (hdependencies entry.2 ?_ hshard)
  exact List.mem_filter.mpr ⟨List.mem_map_of_mem hentry, by simp [hconverts]⟩

/-- If everything that converts to a shard is labelled, clusters are aggregated. -/
theorem aggregatesClusters_of_labelled {order : IterOrder} {config : Settings}
    {groups : List Group} {users : List User} {domains : List Domain} {db : CacheMap}
    (hdb : Servable db)
    (hlabelled : ∀ entry ∈ db.toList, convertsToShard entry.2 = true →
      (entry.2.labels[redisLabelCluster]?).isSome = true) :
    AggregatesClusters db (intendedEntities order config groups users domains db) := by
  have hnames := names_redisClusters order config groups users domains hdb
  refine ⟨hnames.nodup_iff.mpr (nodup_clusterNames _), fun name => ?_,
    fun cluster hcluster => ?_⟩
  · rw [hnames.mem_iff, mem_clusterNames_iff hdb]
    constructor
    · rintro ⟨entry, hentry, hconverts, rfl⟩
      obtain ⟨label, hlabel⟩ :=
        Option.isSome_iff_exists.mp (hlabelled entry hentry hconverts)
      exact ⟨entry, hentry, hconverts, by rw [clusterNameOf_of_label hlabel, hlabel]⟩
    · rintro ⟨entry, hentry, hconverts, hlabel⟩
      exact ⟨entry, hentry, hconverts, clusterNameOf_of_label hlabel⟩
  · rw [(exists_members_of_redisCluster hdb hcluster).2.2, labelledMembers_eq_filter, eq_comm,
      memberReferences_filter_eq_iff]
    intro obj hobj _
    obtain ⟨hmem, hmember⟩ := List.mem_filter.mp hobj
    obtain ⟨entry, hentry, rfl⟩ := List.mem_map.mp hmem
    exact hlabelled entry hentry (Bool.and_eq_true _ _ ▸ hmember).1

/-- **When the clusters are aggregated exactly.**  Whenever `get_entities` returns: exactly
if every StatefulSet that is converted carries the cluster label. -/
theorem aggregatesClusters_iff {order : IterOrder} {config : Settings} {groups : List Group}
    {users : List User} {domains : List Domain} {db : CacheMap} {out : List Entity}
    (hout : getEntities order config groups users domains db = .ok out) :
    AggregatesClusters db out ↔
      ∀ entry ∈ db.toList, convertsToShard entry.2 = true →
        (entry.2.labels[redisLabelCluster]?).isSome = true := by
  obtain ⟨hdb, rfl⟩ := eq_intendedEntities_of_getEntities hout
  constructor
  · intro haggregates entry hentry hconverts
    exact labelled_of_aggregatesClusters hdb haggregates hentry hconverts
  · exact aggregatesClusters_of_labelled hdb

end Served

/-! ## A StatefulSet without the cluster label -/

/-- A StatefulSet with one label that has nothing to do with redis. -/
def webStatefulSet : DynamicObject where
  types := some ⟨"apps/v1", "StatefulSet"⟩
  metadata :=
    { ObjectMeta.empty with
      name := some "web", ns := some "x", creationTimestamp := some 0
      labels := some (ExtTreeMap.ofList [("app", "web")] compare) }
  data := .object []

/-- **Not every cluster is one.**  A StatefulSet that carries no cluster label is served as
a redis cluster of its own name. -/
theorem not_aggregatesClusters_web :
    ∃ out, serveBare (cacheOf [webStatefulSet]) = .ok out ∧
      ¬ @AggregatesClusters UnicodeTables.asciiOnly (cacheOf [webStatefulSet]) out := by
  refine ⟨_, rfl, fun haggregates => ?_⟩
  have hserved := (@AggregatesClusters.names UnicodeTables.asciiOnly _ _ haggregates "web").mp
    (by decide)
  revert hserved
  decide

/-- Two labelled StatefulSets are aggregated to one cluster. -/
theorem aggregatesClusters_iff_smfShards :
    ∃ out, serveBare smfShards = .ok out ∧
      @AggregatesClusters UnicodeTables.asciiOnly smfShards out := by
  obtain ⟨out, hout⟩ : ∃ out, serveBare smfShards = .ok out := ⟨_, rfl⟩
  refine ⟨out, hout, (@aggregatesClusters_iff UnicodeTables.asciiOnly _ _ _ _ _ _ _ hout).mpr
    fun entry hentry _ => ?_⟩
  obtain ⟨name, hshard⟩ := exists_isSmfShard hentry
  exact Option.isSome_of_eq_some hshard.cluster

end EntityProvider.Routes
