import EntityProvider.ClusterAggregation

/-!
# Where the relations lead

A shard is part of the cluster that its StatefulSet is labelled with, and a cluster depends
on its shards.  The two ends are built from different data: the shard resource is named
after the StatefulSet, but the cluster refers to it by the value of the shard label.

`relationsResolve_iff` says what it takes for the two to fit: the shard labels have to be
names of served resources, and every StatefulSet with both labels has to be what some
member of its cluster calls a shard.
-/

namespace EntityProvider.Routes

open Std (ExtTreeMap)
open Kube Entities Library
open EntityProvider.Configuration (Settings)

/-- What a resource refers to. -/
def targets (r : Resource) : List String :=
  r.spec.dependencyOf.getD [] ++ r.spec.dependsOn.getD []

theorem resourceReference_injective : Function.Injective resourceReference :=
  fun _ _ heq => (String.append_right_inj _).mp heq

section Served

variable [UnicodeTables]

/-! ## The served resources -/

/-- The own entity of an object goes by the object's name. -/
theorem name_of_own {config : Settings} {obj : DynamicObject} {own : Resource}
    (hown : (contributionOf config obj).own = some own) :
    isConverted obj = true ∧ own.metadata.name = obj.nameAny := by
  have hreference := own_contributionOf config obj
  rw [hown, Option.map_some] at hreference
  split at hreference
  next hconverted =>
    exact ⟨hconverted, congrArg Reference.name (Option.some.inj hreference)⟩
  next => exact absurd hreference (by simp)

/-- A converted object has an entity of its own. -/
theorem exists_own (config : Settings) {obj : DynamicObject}
    (hconverted : isConverted obj = true) :
    ∃ own, (contributionOf config obj).own = some own := by
  have hreference := own_contributionOf config obj
  rw [if_pos hconverted] at hreference
  obtain ⟨own, hown, -⟩ := Option.map_eq_some_iff.mp hreference
  exact ⟨own, hown⟩

/-- The resources that are served: the objects' own, and the merged clusters. -/
theorem resource_mem_intendedEntities_iff {order : IterOrder} {config : Settings}
    {groups : List Group} {users : List User} {domains : List Domain} {db : CacheMap}
    {r : Resource} :
    Entity.resource r ∈ intendedEntities order config groups users domains db ↔
      (∃ entry ∈ db.toList, (contributionOf config entry.2).own = some r) ∨
        ∃ entry ∈ (clustersOf (contributionsOf config db)).toList, entry.2 = r := by
  have hpushed : Entity.resource r ∈ entitiesInOrder [] (contributionsOf config db) ↔
      ∃ entry ∈ db.toList, (contributionOf config entry.2).own = some r := by
    rw [(entitiesInOrder_perm _ []).mem_iff]
    simp [contributionsOf]
  simp only [intendedEntities, List.mem_append, hpushed, List.mem_map, reduceCtorEq,
    and_false,
    exists_false, or_false, Entity.resource.injEq, (order.perm _).mem_iff]

/-- **The names that references lead to**: those of the converted StatefulSets and Pods, and
of the clusters. -/
theorem exists_resource_iff {order : IterOrder} {config : Settings}
    {groups : List Group} {users : List User} {domains : List Domain} {db : CacheMap}
    (hdb : Servable db) {name : String} :
    (∃ r, Entity.resource r ∈ intendedEntities order config groups users domains db ∧
        r.metadata.name = name) ↔
      ∃ entry ∈ db.toList, (isConverted entry.2 = true ∧ entry.2.nameAny = name) ∨
        (convertsToShard entry.2 = true ∧ clusterNameOf entry.2 = name) := by
  constructor
  · rintro ⟨r, hr, rfl⟩
    rcases resource_mem_intendedEntities_iff.mp hr with ⟨entry, hentry, hown⟩ | hcluster
    · obtain ⟨hconverted, hname⟩ := name_of_own hown
      exact ⟨entry, hentry, Or.inl ⟨hconverted, hname.symm⟩⟩
    · have hname : r.metadata.name ∈ clusterNames config db := by
        obtain ⟨entry, hentry, rfl⟩ := hcluster
        exact List.mem_map.mpr ⟨entry, hentry, rfl⟩
      obtain ⟨entry, hentry, hmember⟩ := (mem_clusterNames_iff hdb).mp hname
      exact ⟨entry, hentry, Or.inr hmember⟩
  · rintro ⟨entry, hentry, ⟨hconverted, rfl⟩ | hmember⟩
    · obtain ⟨own, hown⟩ := exists_own config hconverted
      exact ⟨own, resource_mem_intendedEntities_iff.mpr (Or.inl ⟨entry, hentry, hown⟩),
        (name_of_own hown).2⟩
    · obtain ⟨merged, hmerged, hname⟩ :=
        List.mem_map.mp
          ((@mem_clusterNames_iff _ config _ hdb _).mpr ⟨entry, hentry, hmember⟩)
      exact ⟨merged.2, resource_mem_intendedEntities_iff.mpr (Or.inr ⟨merged, hmerged, rfl⟩),
        hname⟩

/-! ## Resolving relations -/

/-- The resource was built from a StatefulSet, as its shard or as a cluster. -/
def FromStatefulSet (config : Settings) (db : CacheMap) (out : List Entity) (r : Resource) :
    Prop :=
  (∃ entry ∈ db.toList, redisShardFromStatefulset config entry.2 = .ok r) ∨
    r ∈ redisClusters out

/-- **Relations resolve within the output.**  What a resource built from a StatefulSet
refers to is served, and a StatefulSet with both labels and its cluster refer to each
other. -/
structure RelationsResolve (config : Settings) (db : CacheMap) (out : List Entity) :
    Prop where
  resolved : ∀ r, FromStatefulSet config db out r → ∀ target ∈ targets r,
    ∃ r', Entity.resource r' ∈ out ∧ target = resourceReference r'.metadata.name
  symmetric : ∀ entry ∈ db.toList, ∀ shard,
    redisShardFromStatefulset config entry.2 = .ok shard →
    (entry.2.labels[redisLabelCluster]?).isSome = true →
    (entry.2.labels[redisLabelShard]?).isSome = true →
    ∃ cluster ∈ redisClusters out,
      resourceReference cluster.metadata.name ∈ shard.spec.dependencyOf.getD [] ∧
        resourceReference shard.metadata.name ∈ cluster.spec.dependsOn.getD []

/-- **Shard labels fit the names.**  The shard label of a converted StatefulSet names a
served resource, and a StatefulSet with both labels goes by the shard label of some member
of its cluster. -/
structure ShardLabelsFit (db : CacheMap) : Prop where
  served : ∀ entry ∈ db.toList, convertsToShard entry.2 = true →
    ∀ shard, entry.2.labels[redisLabelShard]? = some shard →
    ∃ other ∈ db.toList, (isConverted other.2 = true ∧ other.2.nameAny = shard) ∨
      (convertsToShard other.2 = true ∧ clusterNameOf other.2 = shard)
  listed : ∀ entry ∈ db.toList, convertsToShard entry.2 = true →
    ∀ cluster, entry.2.labels[redisLabelCluster]? = some cluster →
    (entry.2.labels[redisLabelShard]?).isSome = true →
    ∃ other ∈ db.toList, convertsToShard other.2 = true ∧ clusterNameOf other.2 = cluster ∧
      other.2.labels[redisLabelShard]? = some entry.2.nameAny

omit [UnicodeTables] in
theorem mem_memberReferences_iff {members : List DynamicObject} {target : String} :
    target ∈ memberReferences members ↔
      ∃ obj ∈ members, ∃ shard, obj.labels[redisLabelShard]? = some shard ∧
        resourceReference shard = target := by
  simp [memberReferences, List.mem_filterMap]

theorem mem_clusterMembers_iff {db : CacheMap} {name : String} {obj : DynamicObject} :
    obj ∈ clusterMembers db name ↔
      (∃ entry ∈ db.toList, entry.2 = obj) ∧ convertsToShard obj = true ∧
        clusterNameOf obj = name := by
  simp [clusterMembers]

/-- Every cluster name is served as a cluster. -/
theorem exists_redisCluster (order : IterOrder) (config : Settings) (groups : List Group)
    (users : List User) (domains : List Domain) {db : CacheMap} (hdb : Servable db)
    {entry : String × DynamicObject} (hentry : entry ∈ db.toList)
    (hconverts : convertsToShard entry.2 = true) :
    ∃ cluster ∈ redisClusters (intendedEntities order config groups users domains db),
      cluster.metadata.name = clusterNameOf entry.2 :=
  List.mem_map.mp ((names_redisClusters order config groups users domains hdb).mem_iff.mpr
    ((mem_clusterNames_iff hdb).mpr ⟨entry, hentry, hconverts, rfl⟩))

/-- What a shard refers to is the cluster of its label. -/
theorem targets_shard {config : Settings} {obj : DynamicObject} {shard : Resource}
    (hshard : redisShardFromStatefulset config obj = .ok shard) :
    targets shard = ((obj.labels[redisLabelCluster]?).map resourceReference).toList := by
  obtain ⟨-, hdependsOn, hdependencyOf⟩ := spec_of_shard hshard
  rw [targets, hdependsOn, hdependencyOf]
  cases obj.labels[redisLabelCluster]? <;> rfl

/-- **What a cluster refers to**: for each member with a shard label, the resource of that
label. -/
theorem mem_dependsOn_redisCluster_iff {order : IterOrder} {config : Settings}
    {groups : List Group} {users : List User} {domains : List Domain} {db : CacheMap}
    (hdb : Servable db) {cluster : Resource}
    (hcluster : cluster ∈ redisClusters
      (intendedEntities order config groups users domains db)) {target : String} :
    target ∈ cluster.spec.dependsOn.getD [] ↔
      ∃ entry ∈ db.toList, convertsToShard entry.2 = true ∧
        clusterNameOf entry.2 = cluster.metadata.name ∧
        ∃ shard, entry.2.labels[redisLabelShard]? = some shard ∧
          resourceReference shard = target := by
  rw [(exists_members_of_redisCluster hdb hcluster).2.2, mem_memberReferences_iff]
  constructor
  · rintro ⟨obj, hmember, hshard⟩
    obtain ⟨⟨entry, hentry, rfl⟩, hconverts, hname⟩ := mem_clusterMembers_iff.mp hmember
    exact ⟨entry, hentry, hconverts, hname, hshard⟩
  · rintro ⟨entry, hentry, hconverts, hname, hshard⟩
    exact ⟨entry.2, mem_clusterMembers_iff.mpr ⟨⟨entry, hentry, rfl⟩, hconverts, hname⟩,
      hshard⟩

theorem targets_redisCluster {order : IterOrder} {config : Settings}
    {groups : List Group} {users : List User} {domains : List Domain} {db : CacheMap}
    (hdb : Servable db) {cluster : Resource}
    (hcluster : cluster ∈ redisClusters
      (intendedEntities order config groups users domains db)) :
    targets cluster = cluster.spec.dependsOn.getD [] := by
  rw [targets, (exists_members_of_redisCluster hdb hcluster).1, Option.getD_none,
    List.nil_append]

/-- If relations resolve, the shard labels fit the names. -/
theorem shardLabelsFit_of_relationsResolve {order : IterOrder} {config : Settings}
    {groups : List Group} {users : List User} {domains : List Domain} {db : CacheMap}
    (hdb : Servable db)
    (hrelations : RelationsResolve config db
      (intendedEntities order config groups users domains db)) : ShardLabelsFit db := by
  refine ⟨fun entry hentry hconverts shard hshard => ?_,
    fun entry hentry hconverts cluster hcluster hsharded => ?_⟩
  · -- the object's cluster depends on its shard, which is therefore served
    obtain ⟨cluster, hcluster, hname⟩ := exists_redisCluster order config groups users
      domains hdb hentry hconverts
    have hlisted : resourceReference shard ∈ targets cluster := by
      rw [targets_redisCluster hdb hcluster, mem_dependsOn_redisCluster_iff hdb hcluster]
      exact ⟨entry, hentry, hconverts, hname.symm, shard, hshard, rfl⟩
    obtain ⟨r, hr, htarget⟩ := hrelations.resolved cluster (Or.inr hcluster) _ hlisted
    exact (exists_resource_iff hdb).mp ⟨r, hr, (resourceReference_injective htarget).symm⟩
  · obtain ⟨shard, hshard, -, -, hname, -⟩ := exists_shard config hconverts
    obtain ⟨served, hserved, hpart, hlists⟩ := hrelations.symmetric entry hentry shard hshard
      (by rw [hcluster]; rfl) hsharded
    have hclusterName : served.metadata.name = cluster := by
      rw [(spec_of_shard hshard).2.2, hcluster] at hpart
      exact resourceReference_injective (List.mem_singleton.mp hpart)
    obtain ⟨other, hother, hconverts', hmember, label, hlabel, hreference⟩ :=
      (mem_dependsOn_redisCluster_iff hdb hserved).mp hlists
    refine ⟨other, hother, hconverts', hmember.trans hclusterName, ?_⟩
    rw [hlabel, resourceReference_injective hreference, hname]

/-- If the shard labels fit the names, relations resolve. -/
theorem relationsResolve_of_shardLabelsFit {order : IterOrder} {config : Settings}
    {groups : List Group} {users : List User} {domains : List Domain} {db : CacheMap}
    (hdb : Servable db) (hfit : ShardLabelsFit db) :
    RelationsResolve config db (intendedEntities order config groups users domains db) := by
  have hresolves : ∀ {name}, (∃ entry ∈ db.toList,
      (isConverted entry.2 = true ∧ entry.2.nameAny = name) ∨
        (convertsToShard entry.2 = true ∧ clusterNameOf entry.2 = name)) →
      ∃ r', Entity.resource r' ∈ intendedEntities order config groups users domains db ∧
        resourceReference name = resourceReference r'.metadata.name := by
    intro name hnamed
    obtain ⟨r', hr', rfl⟩ := (exists_resource_iff hdb).mpr hnamed
    exact ⟨r', hr', rfl⟩
  refine ⟨fun r hr target htarget => ?_, fun entry hentry shard hshard hlabel hsharded => ?_⟩
  · rcases hr with ⟨entry, hentry, hshard⟩ | hcluster
    · have hconverts := (convertsToShard_iff config entry.2).mpr ⟨r, hshard⟩
      rw [targets_shard hshard] at htarget
      obtain ⟨cluster, hcluster, rfl⟩ :=
        Option.map_eq_some_iff.mp (Option.mem_toList.mp htarget)
      exact hresolves ⟨entry, hentry, Or.inr ⟨hconverts, clusterNameOf_of_label hcluster⟩⟩
    · rw [targets_redisCluster hdb hcluster] at htarget
      obtain ⟨entry, hentry, hconverts, -, shard, hshard, rfl⟩ :=
        (mem_dependsOn_redisCluster_iff hdb hcluster).mp htarget
      exact hresolves (hfit.served entry hentry hconverts shard hshard)
  · have hconverts := (convertsToShard_iff config entry.2).mpr ⟨shard, hshard⟩
    obtain ⟨cluster, hcluster⟩ := Option.isSome_iff_exists.mp hlabel
    obtain ⟨served, hserved, hname⟩ := exists_redisCluster order config groups users
      domains hdb hentry hconverts
    rw [clusterNameOf_of_label hcluster] at hname
    obtain ⟨other, hother, hconverts', hmember, hcalled⟩ :=
      hfit.listed entry hentry hconverts cluster hcluster hsharded
    refine ⟨served, hserved, ?_, ?_⟩
    · rw [(spec_of_shard hshard).2.2, hcluster, hname]
      exact List.mem_singleton_self _
    · obtain ⟨shard', hshard', -, -, hshardName, -⟩ := exists_shard config hconverts
      obtain rfl : shard' = shard := Except.ok.inj (hshard'.symm.trans hshard)
      rw [mem_dependsOn_redisCluster_iff hdb hserved, hname, hshardName]
      exact ⟨other, hother, hconverts', hmember, _, hcalled, rfl⟩

/-- **When relations resolve.**  Whenever `get_entities` returns: exactly if the shard labels
fit the names. -/
theorem relationsResolve_iff {order : IterOrder} {config : Settings} {groups : List Group}
    {users : List User} {domains : List Domain} {db : CacheMap} {out : List Entity}
    (hout : getEntities order config groups users domains db = .ok out) :
    RelationsResolve config db out ↔ ShardLabelsFit db := by
  obtain ⟨hdb, rfl⟩ := eq_intendedEntities_of_getEntities hout
  exact ⟨shardLabelsFit_of_relationsResolve hdb, relationsResolve_of_shardLabelsFit hdb⟩

end Served

/-! ## A shard that goes by another name -/

/-- A StatefulSet whose shard label is not its name. -/
def prefixedShard : DynamicObject where
  types := some ⟨"apps/v1", "StatefulSet"⟩
  metadata :=
    { ObjectMeta.empty with
      name := some "smfredis-0", ns := some "x", creationTimestamp := some 0
      labels := some (ExtTreeMap.ofList
        [(redisLabelCluster, "smfredis"), (redisLabelShard, "tenant-smfredis-0")] compare) }
  data := .object []

/-- **A link is lost.**  The cluster depends on `tenant-smfredis-0`, which is not served,
and not on the shard, which is. -/
theorem not_relationsResolve_prefixedShard :
    ∃ out, serveBare (cacheOf [prefixedShard]) = .ok out ∧
      ¬ @RelationsResolve UnicodeTables.asciiOnly .bare (cacheOf [prefixedShard]) out := by
  refine ⟨_, rfl, fun hrelations => ?_⟩
  have hlink := @RelationsResolve.symmetric UnicodeTables.asciiOnly _ _ _ hrelations
    ("x/smfredis-0", _) (ExtTreeMap.mem_toList_iff_getElem?_eq_some.mpr rfl) _ rfl rfl rfl
  revert hlink
  decide

/-- With shard labels that are the names, the links of a cluster of two shards resolve. -/
theorem relationsResolve_iff_smfShards :
    ∃ out, serveBare smfShards = .ok out ∧
      @RelationsResolve UnicodeTables.asciiOnly .bare smfShards out := by
  obtain ⟨out, hout⟩ : ∃ out, serveBare smfShards = .ok out := ⟨_, rfl⟩
  let _ := UnicodeTables.asciiOnly
  refine ⟨out, hout, (@relationsResolve_iff UnicodeTables.asciiOnly _ _ _ _ _ _ _ hout).mpr
    ⟨fun entry hentry _ shard hlabel => ?_, fun entry hentry _ cluster hlabel _ => ?_⟩⟩
  · obtain ⟨name, hshard⟩ := exists_isSmfShard hentry
    obtain rfl := Option.some.inj (hshard.shard.symm.trans hlabel)
    exact ⟨entry, hentry, Or.inl ⟨hshard.converted, hshard.nameAny⟩⟩
  · obtain ⟨name, hshard⟩ := exists_isSmfShard hentry
    obtain rfl := Option.some.inj (hshard.cluster.symm.trans hlabel)
    exact ⟨entry, hentry, hshard.converts, clusterNameOf_of_label hshard.cluster,
      by rw [hshard.shard, hshard.nameAny]⟩

end EntityProvider.Routes
