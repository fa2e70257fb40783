import EntityProvider.Relations

/-!
# Clusters and their systems

The system that a redis cluster belongs to is decided twice: `redis_cluster_from_shard`
reads it off the cluster label for the cluster's own `system` field, and
`System::from_stateful_set` for the System that is listed.  The first looks for `upf` before
`smf`, the second the other way round (`redisSystemOfCluster_eq_iff`); and the field is taken
from the first member of the cluster, which need not carry the label at all.

`systemsAgree_iff` says when the two agree.  The System itself is always listed exactly once
(`count_systemsOf`).
-/

namespace EntityProvider.Routes

open Std (ExtTreeMap)
open Kube Entities Library
open EntityProvider.Configuration (Settings)

/-! ## The two classifiers -/

section Served

variable [UnicodeTables]

/-- The name of the system that `System::from_stateful_set` makes of a cluster label. -/
def systemNameOf (config : Settings) (label : String) : Option String :=
  if containsText (toLowercase label) "smf" then some ("smf" ++ "-redis-" ++ config.cluster)
  else if containsText (toLowercase label) "upf" then
    some ("upf" ++ "-redis-" ++ config.cluster)
  else none

/-- The System of a labelled StatefulSet. -/
theorem systemFromStatefulSet_of_label (config : Settings) {obj : DynamicObject}
    (hconverts : convertsToShard obj = true) {label : String}
    (hlabel : obj.labels[redisLabelCluster]? = some label) :
    (systemFromStatefulSet config obj).toOption.map (·.metadata.name) =
      systemNameOf config label := by
  obtain ⟨tp, htypes, hkind⟩ := exists_types_of_convertsToShard hconverts
  have hcheck : checkKind backstageEntitySystem "statefulset" "StatefulSet" obj = .ok () :=
    checkKind_eq_ok_iff.mpr ⟨tp, htypes, getKind_eq_statefulSet_iff.mp hkind⟩
  unfold systemFromStatefulSet systemNameOf
  simp only [hcheck, hlabel, bind, Except.bind]
  by_cases hsmf : containsText (toLowercase label) "smf" = true
  · simp [hsmf, Except.toOption]
  · by_cases hupf : containsText (toLowercase label) "upf" = true
    · simp [hsmf, hupf, Except.toOption]
    · simp [hsmf, hupf, Except.toOption]

/-- **The classifiers agree** exactly on the labels that do not contain both markers. -/
theorem redisSystemOfCluster_eq_iff (config : Settings) (label : String) :
    redisSystemOfCluster config label = systemNameOf config label ↔
      ¬ (containsText (toLowercase label) "upf" = true ∧
        containsText (toLowercase label) "smf" = true) := by
  unfold redisSystemOfCluster systemNameOf
  by_cases hupf : containsText (toLowercase label) "upf" = true
  · by_cases hsmf : containsText (toLowercase label) "smf" = true
    · -- the names differ, as `upf` is looked for first on one side and `smf` on the other
      simp [hupf, hsmf]
    · simp only [hupf, hsmf, if_true, if_false, Bool.false_eq_true, and_false, not_false_iff,
        iff_true]
      rfl
  · by_cases hsmf : containsText (toLowercase label) "smf" = true
    · simp only [hupf, hsmf, if_true, if_false, Bool.false_eq_true, false_and, not_false_iff,
        iff_true]
      rfl
    · simp [hupf, hsmf]

/-! ## The listed systems -/

omit [UnicodeTables] in
/-- The served entity as a System, if it is one. -/
def asSystem : Entity → Option System
  | .system system => some system
  | _ => none

omit [UnicodeTables] in
/-- The Systems among served entities. -/
def systemsOf (out : List Entity) : List System := out.filterMap asSystem

/-- The Systems of the output are the converted ones, each name once. -/
theorem systemsOf_intendedEntities (order : IterOrder) (config : Settings)
    (groups : List Group) (users : List User) (domains : List Domain) (db : CacheMap) :
    (systemsOf (intendedEntities order config groups users domains db)).Perm
      (systemsOnce [] (contributionsOf config db)) := by
  have hsome : ∀ l : List System, (l.map Entity.system).filterMap asSystem = l := by
    intro l
    rw [List.filterMap_map]
    exact List.filterMap_some
  have hpushed := (entitiesInOrder_perm (contributionsOf config db) []).filterMap asSystem
  rw [List.filterMap_append, filterMap_map_eq_nil (fun _ => rfl), List.nil_append, hsome]
    at hpushed
  rw [systemsOf, filterMap_intendedEntities (fun _ => rfl) (fun _ => rfl) (fun _ => rfl),
    filterMap_map_eq_nil (fun _ => rfl), List.append_nil]
  exact hpushed

omit [UnicodeTables] in
/-- Every contributed System is listed, under its name, unless the name was before. -/
theorem exists_mem_systemsOnce {contributions : List Contribution} {c : Contribution}
    {system : System} (hc : c ∈ contributions) (hsystem : c.system = some system) :
    ∀ listed, system.metadata.name ∈ listed ∨
      system.metadata.name ∈ (systemsOnce listed contributions).map (·.metadata.name) := by
  induction contributions with
  | nil => exact absurd hc (by simp)
  | cons first rest ih =>
      intro listed
      rw [systemsOnce]
      rcases List.mem_cons.mp hc with rfl | hmem
      · rw [hsystem]
        by_cases hlisted : system.metadata.name ∈ listed
        · exact Or.inl hlisted
        · simp only [if_neg hlisted, List.map_cons]
          exact Or.inr List.mem_cons_self
      · cases hfirst : first.system with
        | none => exact ih hmem listed
        | some other =>
            by_cases hlisted : other.metadata.name ∈ listed
            · simpa only [if_pos hlisted] using ih hmem listed
            · simp only [if_neg hlisted, List.map_cons]
              rcases ih hmem (other.metadata.name :: listed) with hold | hnew
              · rcases List.mem_cons.mp hold with hsame | hold
                · exact Or.inr (hsame ▸ List.mem_cons_self)
                · exact Or.inl hold
              · exact Or.inr (List.mem_cons_of_mem _ hnew)

/-- **A System is listed exactly once.** -/
theorem count_systemsOf (order : IterOrder) {config : Settings} (groups : List Group)
    (users : List User) (domains : List Domain) {db : CacheMap}
    {entry : String × DynamicObject} (hentry : entry ∈ db.toList)
    (hconverts : convertsToShard entry.2 = true) {system : System}
    (hsystem : systemFromStatefulSet config entry.2 = .ok system) :
    ((systemsOf (intendedEntities order config groups users domains db)).map
      (·.metadata.name)).count system.metadata.name = 1 := by
  have hperm := (systemsOf_intendedEntities order config groups users domains db).map
    fun system => system.metadata.name
  rw [hperm.count_eq]
  obtain ⟨shard, hshard, -⟩ := exists_shard config hconverts
  obtain ⟨tp, htypes, hkind⟩ := exists_types_of_convertsToShard hconverts
  have hcontributed : (contributionOf config entry.2).system = some system := by
    simp [contributionOf, htypes, hkind, hshard, hsystem, Except.toOption]
  have hmem : contributionOf config entry.2 ∈ contributionsOf config db :=
    List.mem_map.mpr ⟨entry, hentry, rfl⟩
  refine List.count_eq_one_of_mem (nodup_systemsOnce _ []).1 ?_
  rcases exists_mem_systemsOnce hmem hcontributed [] with hnever | hlisted
  · exact absurd hnever (by simp)
  · exact hlisted

/-! ## Agreement -/

/-- **A cluster and its System agree**, for every converted StatefulSet with a cluster label:
the cluster of that name has the system that the StatefulSet is converted to, which is then
listed exactly once, and none if the StatefulSet is not converted to one. -/
def SystemsAgree (config : Settings) (db : CacheMap) (out : List Entity) : Prop :=
  ∀ entry ∈ db.toList, convertsToShard entry.2 = true →
    ∀ label, entry.2.labels[redisLabelCluster]? = some label →
    ∃ cluster ∈ redisClusters out, cluster.metadata.name = label ∧
      (∀ name, cluster.spec.system = some name ↔
        ∃ system, systemFromStatefulSet config entry.2 = .ok system ∧
          system.metadata.name = name) ∧
      (∀ name, cluster.spec.system = some name →
        ((systemsOf out).map (·.metadata.name)).count name = 1) ∧
      ((∃ why, systemFromStatefulSet config entry.2 = .error why) →
        cluster.spec.system = none)

/-- The cluster label names one system at most, and if it names one, the first StatefulSet
that is counted to the cluster carries the label. -/
structure NamesOneSystem (db : CacheMap) (label : String) : Prop where
  one : ¬ (containsText (toLowercase label) "upf" = true ∧
    containsText (toLowercase label) "smf" = true)
  first : containsText (toLowercase label) "upf" = true ∨
      containsText (toLowercase label) "smf" = true →
    ∀ first rest, clusterMembers db label = first :: rest →
      (first.labels[redisLabelCluster]?).isSome = true

/-- The field of a cluster agrees with the label exactly if the label names one system. -/
theorem bind_redisSystemOfCluster_eq_iff (config : Settings) {db : CacheMap} {label : String}
    {first : DynamicObject} {rest : List DynamicObject}
    (hmembers : clusterMembers db label = first :: rest) :
    (first.labels[redisLabelCluster]?).bind (redisSystemOfCluster config) =
        systemNameOf config label ↔
      NamesOneSystem db label := by
  have hname : clusterNameOf first = label :=
    (mem_clusterMembers_iff.mp (hmembers ▸ List.mem_cons_self)).2.2
  have hfirst : ∀ {first' rest'},
      clusterMembers db label = first' :: rest' → first' = first :=
    fun hmembers' => (List.cons.inj (hmembers'.symm.trans hmembers)).1
  cases hlabel : first.labels[redisLabelCluster]? with
  | some carried =>
      obtain rfl : carried = label := (clusterNameOf_of_label hlabel).symm.trans hname
      rw [Option.bind_some, redisSystemOfCluster_eq_iff]
      constructor
      · intro hone
        refine ⟨hone, fun _ first' rest' hmembers' => ?_⟩
        rw [hfirst hmembers', hlabel]
        rfl
      · intro hnames
        exact hnames.one
  | none =>
      -- a first member without the label gives the cluster no system
      rw [Option.bind_none, eq_comm]
      constructor
      · intro hnone
        have hneither : ¬ (containsText (toLowercase label) "upf" = true ∨
            containsText (toLowercase label) "smf" = true) := by
          rintro (hupf | hsmf)
          · unfold systemNameOf at hnone
            split_ifs at hnone
          · rw [systemNameOf, if_pos hsmf] at hnone
            exact absurd hnone (by simp)
        exact ⟨fun hboth => hneither (Or.inl hboth.1), fun hsome => absurd hsome hneither⟩
      · intro hnames
        have hneither : ¬ (containsText (toLowercase label) "upf" = true ∨
            containsText (toLowercase label) "smf" = true) := by
          intro hsome
          have hcarries := hnames.first hsome first rest hmembers
          rw [hlabel] at hcarries
          exact absurd hcarries (by simp)
        rw [systemNameOf, if_neg fun hsmf => hneither (Or.inr hsmf),
          if_neg fun hupf => hneither (Or.inl hupf)]

omit [UnicodeTables] in
/-- What the System conversion makes, as a name. -/
theorem exists_system_iff {result : Except EntityError System} {name : String} :
    (∃ system, result = .ok system ∧ system.metadata.name = name) ↔
      result.toOption.map (·.metadata.name) = some name := by
  cases result <;> simp [Except.toOption]

/-- **When clusters and Systems agree.**  Whenever `get_entities` returns: exactly if every
cluster label on a converted StatefulSet names one system at most, and the first member of
a cluster whose label names one carries the label. -/
theorem systemsAgree_iff {order : IterOrder} {config : Settings} {groups : List Group}
    {users : List User} {domains : List Domain} {db : CacheMap} {out : List Entity}
    (hout : getEntities order config groups users domains db = .ok out) :
    SystemsAgree config db out ↔
      ∀ entry ∈ db.toList, convertsToShard entry.2 = true →
        ∀ label, entry.2.labels[redisLabelCluster]? = some label →
          NamesOneSystem db label := by
  obtain ⟨hdb, rfl⟩ := eq_intendedEntities_of_getEntities hout
  constructor
  · intro hagree entry hentry hconverts label hlabel
    obtain ⟨cluster, hcluster, rfl, hsystem, -⟩ := hagree entry hentry hconverts label hlabel
    obtain ⟨-, ⟨first, rest, hmembers, hfield⟩, -⟩ :=
      exists_members_of_redisCluster hdb hcluster
    refine (bind_redisSystemOfCluster_eq_iff config hmembers).mp ?_
    rw [← hfield, ← systemFromStatefulSet_of_label config hconverts hlabel]
    ext name
    rw [hsystem name, exists_system_iff]
  · intro hnames entry hentry hconverts label hlabel
    obtain ⟨cluster, hcluster, hname⟩ := exists_redisCluster order config groups users domains
      hdb hentry hconverts
    rw [clusterNameOf_of_label hlabel] at hname
    subst hname
    obtain ⟨-, ⟨first, rest, hmembers, hfield⟩, -⟩ :=
      exists_members_of_redisCluster hdb hcluster
    have hagree := (bind_redisSystemOfCluster_eq_iff config hmembers).mpr
      (hnames entry hentry hconverts _ hlabel)
    rw [← hfield, ← systemFromStatefulSet_of_label config hconverts hlabel] at hagree
    have hsystem : ∀ name, cluster.spec.system = some name ↔
        ∃ system, systemFromStatefulSet config entry.2 = .ok system ∧
          system.metadata.name = name := by
      intro name
      rw [exists_system_iff, hagree]
    refine ⟨cluster, hcluster, rfl, hsystem, fun name hsome => ?_, ?_⟩
    · obtain ⟨system, hresult, rfl⟩ := (hsystem name).mp hsome
      exact count_systemsOf order groups users domains hentry hconverts hresult
    · rintro ⟨why, hwhy⟩
      rw [hagree, hwhy]
      rfl

end Served

/-! ## A label with two markers -/

/-- **Two systems for one cluster.**  The cluster `smf-upf` is put in the system of `upf`,
and the System that is listed is that of `smf`. -/
theorem not_systemsAgree_smfUpf :
    ∃ out, serveBare (cacheOf [redisStatefulSet "x" "smf-upf"]) = .ok out ∧
      ¬ @SystemsAgree UnicodeTables.asciiOnly .bare
        (cacheOf [redisStatefulSet "x" "smf-upf"]) out := by
  obtain ⟨out, hout, hsystem, hunlisted⟩ :
      ∃ out, serveBare (cacheOf [redisStatefulSet "x" "smf-upf"]) = .ok out ∧
        (∀ cluster ∈ redisClusters out, cluster.spec.system = some "upf-redis-c") ∧
        "upf-redis-c" ∉ (systemsOf out).map (·.metadata.name) := by
    refine ⟨_, rfl, ?_, ?_⟩
    · decide
    · decide
  refine ⟨out, hout, fun hagree => ?_⟩
  obtain ⟨cluster, hcluster, -, -, hlisted, -⟩ := hagree ("x/a", _)
    (ExtTreeMap.mem_toList_iff_getElem?_eq_some.mpr rfl) rfl "smf-upf" rfl
  have honce := hlisted "upf-redis-c" (hsystem cluster hcluster)
  rw [List.count_eq_zero.mpr hunlisted] at honce
  exact absurd honce (by decide)

/-- Two shards whose cluster label has one marker: cluster and System agree. -/
theorem systemsAgree_iff_smfShards :
    ∃ out, serveBare smfShards = .ok out ∧
      @SystemsAgree UnicodeTables.asciiOnly .bare smfShards out := by
  obtain ⟨out, hout⟩ : ∃ out, serveBare smfShards = .ok out := ⟨_, rfl⟩
  let _ := UnicodeTables.asciiOnly
  refine ⟨out, hout, (@systemsAgree_iff UnicodeTables.asciiOnly _ _ _ _ _ _ _ hout).mpr
    fun entry hentry _ label hlabel => ⟨?_, fun _ first rest hmembers => ?_⟩⟩
  · obtain ⟨name, hshard⟩ := exists_isSmfShard hentry
    obtain rfl := Option.some.inj (hshard.cluster.symm.trans hlabel)
    decide
  · have hfirst := @mem_clusterMembers_iff UnicodeTables.asciiOnly smfShards label first
    obtain ⟨⟨entry', hentry', rfl⟩, -, -⟩ := hfirst.mp (hmembers ▸ List.mem_cons_self)
    obtain ⟨name, hshard⟩ := exists_isSmfShard hentry'
    exact Option.isSome_of_eq_some hshard.cluster

end EntityProvider.Routes
