import EntityProvider.ClusterSystems
import EntityProvider.Relations
import EntityProvider.StaticEntities

/-!
# Configured annotations and computed ones

The settings list annotations for every entity that is made from a Kubernetes object.  They
are copied into its metadata at the start of each conversion.  The conversion to a shard
then computes annotations of its own, some of them while it goes through the labels, and
puts the configured ones on top again; a cluster inherits what its first shard has.

So a configured annotation is never lost, and a shard has no annotation besides the
configured and the computed ones (`annotationsReach`).  `computedAnn` says which
these are, key by key, and `annotations_of_shard` that the loop over the labels arrives at
them.
-/

namespace EntityProvider.Routes

open Std (ExtTreeMap)
open Kube Entities Library
open EntityProvider.Configuration (BackstageSettings Settings)

/-! ## What the annotations should be -/

/-- The metadata has all the configured annotations, with the configured values. -/
def HasConfigured (bsc : BackstageSettings) (md : Metadata) : Prop :=
  ∀ key value, annotationAt bsc.annotations key = some value →
    annotationAt md.annotations key = some value

/-- The annotations that connect an entity to the objects of a shard label. -/
def labelAnn (ns : String) (shard : Option String) (key : String) : Option String :=
  if key = backstageAnnLabelSelector then
    shard.map fun val => redisLabelShard ++ "=" ++ val
  else if key = backstageAnnNamespace then shard.map fun _ => ns
  else none

/-- Is the value a JSON object? -/
def isObject : Value → Bool
  | .object _ => true
  | _ => false

/-- The text of what is under `status` in the data of an object, if it is a JSON object. -/
def statusText (obj : DynamicObject) : Option String :=
  ((obj.data.get "status").filter isObject).map Value.toText

/-- **The computed annotations** of a StatefulSet: the label selector and the namespace if
it has the shard label, the name of the Kubernetes cluster, and the text of its status if it
is part of a redis cluster. -/
def computedAnn (config : Settings) (obj : DynamicObject) (key : String) :
    Option String :=
  if key = axyomAnnRedisStatus then
    if obj.labels[redisLabelK8sName]? = some "redis-cluster" then statusText obj else none
  else if key = axyomcoreAnnCluster then some config.cluster
  else labelAnn (obj.metadata.ns.getD "default") obj.labels[redisLabelShard]? key

/-- The conversion takes the status from there. -/
theorem redisStatusFromStatefulset_eq (obj : DynamicObject) :
    redisStatusFromStatefulset obj = statusText obj := by
  unfold redisStatusFromStatefulset statusText
  cases obj.data.get "status" with
  | none => rfl
  | some value => cases value <;> rfl

theorem hasConfigured_of_eq {bsc : BackstageSettings} {md : Metadata}
    (heq : md.annotations = bsc.annotations) : HasConfigured bsc md := by
  intro key value hvalue
  rw [heq]
  exact hvalue

/-! ## The loop over the labels -/

/-- The label loop adds what belongs to the shard label it saw last. -/
theorem anns_foldl_step (ns : String) (entries : List (String × String)) (loop : ShardLoop)
    (key : String) :
    (entries.foldl (ShardLoop.step ns) loop).anns[key]? =
      (labelAnn ns
        ((lastWith (fun entry => entry.1 = redisLabelShard) entries).map Prod.snd) key).or
        loop.anns[key]? := by
  induction entries using List.reverseRecOn with
  | nil => simp [labelAnn]
  | append_singleton entries entry ih =>
      rw [List.foldl_concat, lastWith_concat]
      obtain ⟨label, val⟩ := entry
      simp only [ShardLoop.step]
      by_cases hlabel : label = redisLabelShard
      · rw [if_pos hlabel, if_pos (decide_eq_true hlabel), ExtTreeMap.getElem?_insert,
          ExtTreeMap.getElem?_insert, ih, hlabel]
        have hselector : backstageAnnLabelSelector ≠ backstageAnnNamespace := by decide
        simp only [Std.compare_eq_iff_eq, labelAnn, Option.map_some]
        by_cases hns : key = backstageAnnNamespace
        · simp [hns, hselector.symm]
        · by_cases hsel : key = backstageAnnLabelSelector
          · simp [hsel, hselector.symm]
          · simp [hns, hsel, Ne.symm hns, Ne.symm hsel]
      · rw [if_neg hlabel, if_neg (by simpa using hlabel)]
        exact ih

/-- The label loop makes the type a redis shard's exactly for the component label of a redis
cluster. -/
theorem specType_foldl_step_iff (ns : String) (entries : List (String × String))
    {loop : ShardLoop} (hloop : loop.specType ≠ "redis-cluster-shard") :
    (entries.foldl (ShardLoop.step ns) loop).specType = "redis-cluster-shard" ↔
      (redisLabelK8sName, "redis-cluster") ∈ entries := by
  induction entries using List.reverseRecOn with
  | nil => simp [hloop]
  | append_singleton entries entry ih =>
      rw [List.foldl_concat, List.mem_append, List.mem_singleton]
      obtain ⟨label, val⟩ := entry
      simp only [ShardLoop.step, Prod.mk.injEq]
      by_cases hredis : label = redisLabelK8sName ∧ val = "redis-cluster"
      · simp [hredis]
      · rw [if_neg hredis, ih]
        refine ⟨Or.inl, fun hmem => hmem.resolve_right fun heq => hredis ?_⟩
        exact ⟨heq.1.symm, heq.2.symm⟩

/-! ## Putting annotations on top -/

/-- An annotation on top of computed ones is one more computed annotation. -/
theorem getElem?_insert_or {anns : StringMap} {key : String}
    {computed below : Option String} (ann value : String)
    (hanns : anns[key]? = computed.or below) :
    (anns.insert ann value)[key]? =
      (if key = ann then some value else computed).or below := by
  rw [ExtTreeMap.getElem?_insert]
  by_cases hkey : key = ann
  · rw [if_pos hkey, if_pos (Std.compare_eq_iff_eq.mpr hkey.symm), Option.some_or]
  · rw [if_neg hkey, if_neg (fun heq => hkey (Std.compare_eq_iff_eq.mp heq).symm), hanns]

/-- The configured annotations on top of computed ones that were put on top of them. -/
theorem annotationAt_union {configured : Option StringMap} {anns : StringMap} {key : String}
    {computed : Option String}
    (hanns : anns[key]? = computed.or (annotationAt configured key)) :
    annotationAt (some (configured.elim anns fun own => anns ∪ own)) key =
      (annotationAt configured key).or computed := by
  cases configured with
  | none => simpa [annotationAt] using hanns
  | some own =>
      show (anns ∪ own)[key]? = own[key]?.or computed
      rw [ExtTreeMap.getElem?_union, hanns]
      show own[key]?.or (computed.or own[key]?) = own[key]?.or computed
      cases own[key]? with
      | none => rw [Option.none_or, Option.none_or, Option.or_none]
      | some value => rfl

/-- Only a redis shard has the status computed. -/
theorem noStatus_of_eq (cluster ns : String) (shard : Option String) {key : String}
    (hkey : key = axyomAnnRedisStatus) :
    none = if key = axyomcoreAnnCluster then some cluster else labelAnn ns shard key := by
  rw [hkey, if_neg (by decide), labelAnn, if_neg (by decide), if_neg (by decide)]

section Served

variable [UnicodeTables]

/-- **Configured annotations reach every entity** made from a Kubernetes object, and those
of a shard are the configured and the computed ones. -/
structure AnnotationsReach (config : Settings) (db : CacheMap) (out : List Entity) :
    Prop where
  resources : ∀ r, Entity.resource r ∈ out → HasConfigured config.backstage r.metadata
  systems : ∀ s, Entity.system s ∈ out → HasConfigured config.backstage s.metadata
  shards : ∀ entry ∈ db.toList, ∀ shard,
    redisShardFromStatefulset config entry.2 = .ok shard →
    Entity.resource shard ∈ out ∧ ∀ key, annotationAt shard.metadata.annotations key =
      (annotationAt config.backstage.annotations key).or (computedAnn config entry.2 key)

/-- **The annotations of a shard**: the configured ones win over the computed ones. -/
theorem annotations_of_shard {config : Settings} {obj : DynamicObject} {shard : Resource}
    (hshard : redisShardFromStatefulset config obj = .ok shard) (key : String) :
    annotationAt shard.metadata.annotations key =
      (annotationAt config.backstage.annotations key).or
        (computedAnn config obj key) := by
  obtain ⟨-, hshard⟩ := checkKind_bind_eq_ok_iff.mp hshard
  dsimp only at hshard
  split at hshard
  · exact absurd hshard (by simp)
  · obtain rfl := Except.ok.inj hshard
    have hanns := anns_foldl_step (obj.metadata.ns.getD "default") obj.labels.toList
      ⟨∅, config.backstage.annotations.getD ∅, "statefulset", none⟩ key
    have htype := @specType_foldl_step_iff (obj.metadata.ns.getD "default") obj.labels.toList
      ⟨∅, config.backstage.annotations.getD ∅, "statefulset", none⟩
      (by show "statefulset" ≠ "redis-cluster-shard"; decide)
    rw [lastWith_toList, Option.map_map,
      show (Prod.snd ∘ fun val => (redisLabelShard, val)) = id from rfl, Option.map_id, id]
      at hanns
    rw [ExtTreeMap.mem_toList_iff_getElem?_eq_some] at htype
    dsimp only
    simp only [Metadata.fromAnnotations_annotations, computedAnn, ← htype,
      redisStatusFromStatefulset_eq]
    -- what matters of the loop is its annotations and its type
    generalize List.foldl _ _ obj.labels.toList = loop at hanns ⊢
    generalize
      (if loop.specType = "redis-cluster-shard" then statusText obj else none) = status
    have hcluster := getElem?_insert_or axyomcoreAnnCluster config.cluster hanns
    cases status with
    | none =>
        rw [ite_eq_right_iff.mpr (noStatus_of_eq _ _ _), ← annotationAt_union hcluster]
        cases config.backstage.annotations <;> rfl
    | some status =>
        rw [← annotationAt_union (getElem?_insert_or axyomAnnRedisStatus status hcluster)]
        cases config.backstage.annotations <;> rfl

/-! ## The entities that are served -/

theorem hasConfigured_of_shard {config : Settings} {obj : DynamicObject} {shard : Resource}
    (hshard : redisShardFromStatefulset config obj = .ok shard) :
    HasConfigured config.backstage shard.metadata := by
  intro key value hvalue
  rw [annotations_of_shard hshard, hvalue, Option.some_or]

/-- The own entity of an object: a shard, or the node of a Pod. -/
theorem hasConfigured_of_own {config : Settings} {obj : DynamicObject} {own : Resource}
    (hown : (contributionOf config obj).own = some own) :
    HasConfigured config.backstage own.metadata := by
  rcases conversion_of_own hown with hshard | hnode
  · exact hasConfigured_of_shard hshard
  · rw [(node_eq hnode).2]
    exact hasConfigured_of_eq (Metadata.fromAnnotations_annotations _ _)

/-- A cluster takes over the annotations of its shard. -/
theorem annotations_of_cluster {config : Settings} {shard cluster : Resource}
    (hcluster : redisClusterFromShard config shard = .ok (.ok cluster)) :
    cluster.metadata.annotations = shard.metadata.annotations := by
  unfold redisClusterFromShard at hcluster
  obtain ⟨labels, hlabels, hcluster⟩ := unwrap_bind_eq_ok_iff.mp hcluster
  simp only [hlabels] at hcluster
  obtain rfl := Except.ok.inj (Except.ok.inj hcluster)
  rfl

theorem hasConfigured_of_cluster {config : Settings} {obj : DynamicObject}
    {cluster : Resource} (hcluster : (contributionOf config obj).cluster = some cluster) :
    HasConfigured config.backstage cluster.metadata := by
  obtain ⟨shard, hshard, hconverted⟩ := conversion_of_cluster hcluster
  intro key value hvalue
  rw [annotations_of_cluster hconverted]
  exact hasConfigured_of_shard hshard key value hvalue

/-- A System has the configured annotations and no others. -/
theorem hasConfigured_of_system {config : Settings} {obj : DynamicObject} {system : System}
    (hsystem : (contributionOf config obj).system = some system) :
    HasConfigured config.backstage system.metadata := by
  obtain ⟨-, hconverted⟩ := checkKind_bind_eq_ok_iff.mp (conversion_of_system hsystem)
  refine hasConfigured_of_eq ?_
  split at hconverted
  · exact absurd hconverted (by simp)
  next label hlabel =>
    dsimp only [bind, Except.bind] at hconverted
    by_cases hsmf : containsText (toLowercase label) "smf" = true
    · obtain rfl : _ = system := by simpa [hsmf] using hconverted
      exact Metadata.fromAnnotations_annotations _ _
    · by_cases hupf : containsText (toLowercase label) "upf" = true
      · obtain rfl : _ = system := by simpa [hsmf, hupf] using hconverted
        exact Metadata.fromAnnotations_annotations _ _
      · simp [hsmf, hupf] at hconverted

/-- A shard is the own entity of its object. -/
theorem own_of_shard {config : Settings} {obj : DynamicObject} {shard : Resource}
    (hshard : redisShardFromStatefulset config obj = .ok shard) :
    (contributionOf config obj).own = some shard := by
  obtain ⟨⟨tp, htypes, hkind⟩, -⟩ := checkKind_bind_eq_ok_iff.mp hshard
  simp [contributionOf, htypes, getKind_eq_statefulSet_iff.mpr hkind, hshard]

/-- **Configured annotations are never lost**, whatever the cache holds. -/
theorem annotationsReach {order : IterOrder} {config : Settings} {groups : List Group}
    {users : List User} {domains : List Domain} {db : CacheMap} {out : List Entity}
    (hout : getEntities order config groups users domains db = .ok out) :
    AnnotationsReach config db out := by
  obtain ⟨hdb, rfl⟩ := eq_intendedEntities_of_getEntities hout
  refine ⟨fun r hr => ?_, fun s hs => ?_, fun entry hentry shard hshard => ⟨?_, ?_⟩⟩
  · rcases resource_mem_intendedEntities_iff.mp hr with
      ⟨entry, -, hown⟩ | ⟨entry, hentry, rfl⟩
    · exact hasConfigured_of_own hown
    · obtain ⟨-, c, hc, cluster, hcluster, -, hmetadata⟩ := exists_of_mem_clustersOf hentry
      obtain ⟨cached, -, rfl⟩ := List.mem_map.mp hc
      rw [hmetadata]
      exact hasConfigured_of_cluster hcluster
  · obtain ⟨c, hc, hsystem⟩ := exists_of_mem_systemsOnce
      ((systemsOf_intendedEntities order config groups users domains db).mem_iff.mp
        (List.mem_filterMap.mpr ⟨_, hs, rfl⟩))
    obtain ⟨cached, -, rfl⟩ := List.mem_map.mp hc
    exact hasConfigured_of_system hsystem
  · exact resource_mem_intendedEntities_iff.mpr (Or.inl ⟨entry, hentry, own_of_shard hshard⟩)
  · exact annotations_of_shard hshard

end Served

/-! ## A configured annotation that is computed as well -/

/-- Settings that name another cluster for every entity. -/
def renamedCluster : Settings :=
  { Settings.bare with
    backstage :=
      { Settings.bare.backstage with
        annotations := some (ExtTreeMap.ofList [(axyomcoreAnnCluster, "other")] compare) } }

/-- The shard of a StatefulSet keeps the configured cluster. -/
theorem annotationsReach_renamedCluster :
    ∃ out, @getEntities UnicodeTables.asciiOnly .sorted renamedCluster [] [] []
        (cacheOf [redisStatefulSet "x" "c1"]) = .ok out ∧
      @AnnotationsReach UnicodeTables.asciiOnly renamedCluster
        (cacheOf [redisStatefulSet "x" "c1"]) out := by
  obtain ⟨out, hout⟩ : ∃ out, @getEntities UnicodeTables.asciiOnly .sorted renamedCluster
      [] [] [] (cacheOf [redisStatefulSet "x" "c1"]) = .ok out := ⟨_, rfl⟩
  exact ⟨out, hout, @annotationsReach UnicodeTables.asciiOnly _ _ _ _ _ _ _ hout⟩

end EntityProvider.Routes
