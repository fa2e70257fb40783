import EntityProvider.ClusterSystems
import EntityProvider.Mirror

/-!
# What a change shows in

`get_entities` builds its list from the whole cache each time it is asked.  What it builds is
local all the same: an object goes into its own entity, the cluster it is counted to and the
system it is converted to, and nothing else.  So two answers differ only in entities that an
object goes into which has changed in between (`served_local`).

The proof goes through the objects that have not changed.  They are the same list in both
caches, in key order; leaving the others out takes nothing away from a selection of entities
that they do not go into, neither from the objects' own entities nor from the systems, which
are listed once each (`filter_systemsOnce`), nor from the merged clusters
(`getElem?_clustersOf_filter`).

For a running provider the log tells what may have changed: `answers_local`.
-/

namespace EntityProvider.Routes

open Std (ExtTreeMap)
open Kube Entities Library
open EntityProvider.Configuration (Settings)

/-! ## What an object goes into -/

/-- The entities that a contribution has a part in: its own, the cluster of its name and the
system of its name. -/
def Contribution.GoesInto (c : Contribution) : Entity → Prop
  | .resource r => c.own = some r ∨
      (r.spec.type = "redis-cluster" ∧
        ∃ cluster, c.cluster = some cluster ∧ cluster.metadata.name = r.metadata.name)
  | .system s => ∃ system, c.system = some system ∧ system.metadata.name = s.metadata.name
  | .group _ | .user _ | .domain _ => False

section Selection

variable {α : Type} {f : α → Contribution} (same : α → Bool) {entries : List α}

/-- The entities of their own are not affected by what is left out. -/
theorem filter_own {p : Entity → Bool}
    (hspared : ∀ a ∈ entries, same a = false → ∀ own, (f a).own = some own →
      p (.resource own) = false) :
    (((entries.map f).filterMap Contribution.own).map Entity.resource).filter p =
      ((((entries.filter same).map f).filterMap Contribution.own).map
        Entity.resource).filter p := by
  have hselect : ∀ l : List α,
      (((l.map f).filterMap Contribution.own).map Entity.resource).filter p =
        l.filterMap fun a => ((f a).own.map Entity.resource).filter p := by
    intro l
    rw [List.filterMap_map, List.map_filterMap, List.filter_filterMap]
    rfl
  rw [hselect, hselect, eq_comm, filterMap_filter_eq_iff]
  intro a ha hselected
  obtain ⟨entity, hentity⟩ := Option.isSome_iff_exists.mp hselected
  obtain ⟨hmapped, hp⟩ := Option.filter_eq_some_iff.mp hentity
  obtain ⟨own, hown, rfl⟩ := Option.map_eq_some_iff.mp hmapped
  by_contra hnot
  exact absurd hp (by simp [hspared a ha (by simpa using hnot) own hown])

/-- A system that is not selected only counts for the names that are listed, and these only
count for systems of the same name. -/
theorem exists_filter_systemsOnce_cons {p : System → Bool} {c : Contribution}
    {system : System}
    (hsystem : c.system = some system)
    (hspared : ∀ s : System, s.metadata.name = system.metadata.name → p s = false)
    (listed : List String) (rest : List Contribution) :
    ∃ listed', (∀ s, p s = true → (s.metadata.name ∈ listed' ↔ s.metadata.name ∈ listed)) ∧
      (systemsOnce listed (c :: rest)).filter p = (systemsOnce listed' rest).filter p := by
  rw [systemsOnce, hsystem]
  by_cases hlisted : system.metadata.name ∈ listed
  · exact ⟨listed, fun _ _ => Iff.rfl, by simp only [if_pos hlisted]⟩
  · refine ⟨system.metadata.name :: listed, fun s hs => ?_, ?_⟩
    · have hne : s.metadata.name ≠ system.metadata.name := fun hname =>
        absurd hs (by simp [hspared s hname])
      simp [hne]
    · simp only [if_neg hlisted]
      rw [List.filter_cons_of_neg (by simp [hspared system rfl])]

/-- **The systems** are not affected by what is left out. -/
theorem filter_systemsOnce {p : System → Bool}
    (hspared : ∀ a ∈ entries, same a = false → ∀ system, (f a).system = some system →
      ∀ s : System, s.metadata.name = system.metadata.name → p s = false) :
    ∀ listed listed',
      (∀ s, p s = true → (s.metadata.name ∈ listed ↔ s.metadata.name ∈ listed')) →
      (systemsOnce listed (entries.map f)).filter p =
        (systemsOnce listed' ((entries.filter same).map f)).filter p := by
  induction entries with
  | nil => intro listed listed' _; rfl
  | cons a rest ih =>
      obtain ⟨ha, hrest⟩ := List.forall_mem_cons.mp hspared
      intro listed listed' hlisted
      cases hsystem : (f a).system with
      | none =>
          have hskip : ∀ listed rest,
              systemsOnce listed (f a :: rest) = systemsOnce listed rest := by
            intro listed rest
            rw [systemsOnce, hsystem]
          rw [List.map_cons, hskip, ih hrest listed listed' hlisted, List.filter_cons]
          split
          · rw [List.map_cons, hskip]
          · rfl
      | some system =>
          by_cases hnever : ∀ s : System, s.metadata.name = system.metadata.name → p s = false
          · -- nothing of this name is selected, whoever is left out
            obtain ⟨names, hnames, hfilter⟩ :=
              exists_filter_systemsOnce_cons hsystem hnever listed (rest.map f)
            rw [List.map_cons, hfilter, List.filter_cons]
            split
            · obtain ⟨names', hnames', hfilter'⟩ :=
                exists_filter_systemsOnce_cons hsystem hnever
                listed' ((rest.filter same).map f)
              rw [List.map_cons, hfilter']
              exact ih hrest names names' fun s hs =>
                (hnames s hs).trans ((hlisted s hs).trans (hnames' s hs).symm)
            · exact ih hrest names listed' fun s hs => (hnames s hs).trans (hlisted s hs)
          · -- both lists see this system, and both know its name or neither does
            push Not at hnever
            obtain ⟨s, hname, hs⟩ := hnever
            have hsame : same a = true := by
              by_contra hnot
              exact hs (ha (by simpa using hnot) system hsystem s hname)
            have hknown := hlisted s (by simpa using hs)
            rw [hname] at hknown
            rw [List.map_cons, List.filter_cons_of_pos hsame, List.map_cons, systemsOnce,
              systemsOnce, hsystem]
            by_cases hmem : system.metadata.name ∈ listed
            · simp only [if_pos hmem, if_pos (hknown.mp hmem)]
              exact ih hrest listed listed' hlisted
            · simp only [if_neg hmem, if_neg (hknown.not.mp hmem), List.filter_cons]
              have hgrown := ih hrest (system.metadata.name :: listed)
                (system.metadata.name :: listed') fun s hs => by simp [hlisted s hs]
              split
              · rw [hgrown]
              · exact hgrown

/-- **The merged cluster of a key** is not affected by what is entered elsewhere. -/
theorem getElem?_clustersOf_filter {k : String}
    (hspared : ∀ a ∈ entries, same a = false → ∀ cluster, (f a).cluster = some cluster →
      clusterKey cluster ≠ k) :
    (clustersOf (entries.map f))[k]? = (clustersOf ((entries.filter same).map f))[k]? := by
  have hentered : ∀ l : List α,
      ((l.map f).filterMap Contribution.entry).filter (fun entry => entry.1 = k) =
        l.filterMap fun a => (f a).entry.filter fun entry => entry.1 = k := by
    intro l
    rw [List.filterMap_map, List.filter_filterMap]
    rfl
  rw [clustersOf, clustersOf, getElem?_grouped, getElem?_grouped, hentered, hentered]
  congr 2
  rw [eq_comm, filterMap_filter_eq_iff]
  intro a ha hselected
  obtain ⟨entry, hentry⟩ := Option.isSome_iff_exists.mp hselected
  obtain ⟨hentry, hkey⟩ := Option.filter_eq_some_iff.mp hentry
  obtain ⟨cluster, hcluster, rfl⟩ := Option.map_eq_some_iff.mp hentry
  by_contra hnot
  exact hspared a ha (by simpa using hnot) cluster hcluster (of_decide_eq_true hkey)

end Selection

section Served

variable [UnicodeTables] {config : Settings} {groups : List Group} {users : List User}
  {domains : List Domain} {db db' : CacheMap} {p : Entity → Bool}

/-! ## Two answers -/

/-- A selection of entities that no object goes into that is in one of the caches and not in
the other. -/
def Spared (config : Settings) (db db' : CacheMap) (p : Entity → Bool) : Prop :=
  ∀ k : String, db[k]? ≠ db'[k]? → ∀ obj, db[k]? = some obj ∨ db'[k]? = some obj →
    ∀ entity, (contributionOf config obj).GoesInto entity → p entity = false

theorem Spared.symm (hspared : Spared config db db' p) : Spared config db' db p :=
  fun k hne obj hobj => hspared k hne.symm obj hobj.symm

open Classical in
/-- The entries that both caches have. -/
noncomputable def unchanged (db db' : CacheMap) (entry : String × DynamicObject) : Bool :=
  db[entry.1]? = db'[entry.1]?

theorem Spared.of_mem (hspared : Spared config db db' p) {entry : String × DynamicObject}
    (hentry : entry ∈ db.toList) (hchanged : unchanged db db' entry = false) (entity : Entity)
    (hinto : (contributionOf config entry.2).GoesInto entity) : p entity = false :=
  hspared entry.1 (by simpa [unchanged] using hchanged) entry.2
    (Or.inl (ExtTreeMap.mem_toList_iff_getElem?_eq_some.mp hentry)) entity hinto

omit [UnicodeTables] in
/-- The unchanged entries are the same list in both caches. -/
theorem filter_unchanged (db db' : CacheMap) :
    db.toList.filter (unchanged db db') = db'.toList.filter (unchanged db' db) := by
  classical
  have hsymm : unchanged db' db = unchanged db db' := by
    funext entry
    simp only [unchanged, eq_comm]
  rw [hsymm]
  exact filter_toList_congr (fun k => decide (db[k]? = db'[k]?)) fun k hk =>
    of_decide_eq_true hk

omit [UnicodeTables] in
/-- What the loop pushes, among the selected entities. -/
theorem filter_entitiesInOrder (p : Entity → Bool) (contributions : List Contribution) :
    ((entitiesInOrder [] contributions).filter p).Perm
      (((contributions.filterMap Contribution.own).map Entity.resource).filter p ++
        ((systemsOnce [] contributions).filter fun s => p (.system s)).map .system) := by
  have hpushed := (entitiesInOrder_perm contributions []).filter p
  have hsystems : ((systemsOnce [] contributions).map Entity.system).filter p =
      ((systemsOnce [] contributions).filter fun s => p (.system s)).map .system :=
    List.filter_map
  rwa [List.filter_append, hsystems] at hpushed

/-- What the loop pushes and is selected is pushed for unchanged entries. -/
theorem Spared.pushed_unchanged (hspared : Spared config db db' p) :
    ((entitiesInOrder [] (contributionsOf config db)).filter p).Perm
      ((entitiesInOrder [] ((db.toList.filter (unchanged db db')).map fun entry =>
        contributionOf config entry.2)).filter p) := by
  have howns :=
    filter_own (f := fun entry => contributionOf config entry.2) (unchanged db db')
    fun entry hentry hchanged own hown => hspared.of_mem hentry hchanged _ (Or.inl hown)
  have hsystems := filter_systemsOnce (f := fun entry => contributionOf config entry.2)
    (p := fun s => p (.system s)) (unchanged db db')
    (fun entry hentry hchanged system hsystem s hname =>
      hspared.of_mem hentry hchanged (.system s) ⟨system, hsystem, hname.symm⟩)
    [] [] fun _ _ => Iff.rfl
  refine (filter_entitiesInOrder p _).trans (List.Perm.trans ?_
    (filter_entitiesInOrder p _).symm)
  rw [contributionsOf, howns, hsystems]

/-- **What the loop pushes** for both caches is the same selection. -/
theorem Spared.pushed (hspared : Spared config db db' p) :
    ((entitiesInOrder [] (contributionsOf config db)).filter p).Perm
      ((entitiesInOrder [] (contributionsOf config db')).filter p) := by
  refine hspared.pushed_unchanged.trans ?_
  rw [filter_unchanged]
  exact hspared.symm.pushed_unchanged.symm

/-- A selected cluster is merged from unchanged entries, so it is in the other cache. -/
theorem Spared.cluster_eq (hspared : Spared config db db' p) (hdb : Servable db)
    {key : String}
    {cluster : Resource}
    (hcluster : (clustersOf (contributionsOf config db))[key]? = some cluster)
    (hselected : p (.resource cluster) = true) :
    (clustersOf (contributionsOf config db'))[key]? = some cluster := by
  have hmem := ExtTreeMap.mem_toList_iff_getElem?_eq_some.mpr hcluster
  have hkey : key = clusterKey cluster := (exists_of_mem_clustersOf hmem).1
  have htype : cluster.spec.type = "redis-cluster" := (exists_members_of_merged hdb hmem).1
  -- whoever enters a cluster under this key goes into this one
  have hunchanged : ∀ {db db' : CacheMap}, Spared config db db' p →
      (clustersOf (contributionsOf config db))[key]? =
        (clustersOf ((db.toList.filter (unchanged db db')).map fun entry =>
          contributionOf config entry.2))[key]? := by
    intro db db' hspared
    refine getElem?_clustersOf_filter (f := fun entry => contributionOf config entry.2)
      (unchanged db db') fun entry hentry hchanged other hother hsame => ?_
    have hname := clusterKey_inj.mp (hsame.trans hkey)
    have hnever := hspared.of_mem hentry hchanged (.resource cluster)
      (Or.inr ⟨htype, other, hother, hname⟩)
    exact absurd hselected (by simp [hnever])
  rw [hunchanged hspared.symm, filter_unchanged, ← hunchanged hspared]
  exact hcluster

/-- **The merged clusters** of both caches are the same selection. -/
theorem Spared.clusters (hspared : Spared config db db' p) (hdb : Servable db)
    (hdb' : Servable db') :
    ((clustersOf (contributionsOf config db)).toList.filter fun entry =>
        p (.resource entry.2)).Perm
      ((clustersOf (contributionsOf config db')).toList.filter fun entry =>
        p (.resource entry.2)) := by
  have hnodup : ∀ m : ExtTreeMap String Resource compare,
      (m.toList.filter fun entry => p (.resource entry.2)).Nodup := fun m =>
    (ExtTreeMap.ordered_keys_toList.imp fun hlt heq => by simp [heq] at hlt).filter _
  refine (List.perm_ext_iff_of_nodup (hnodup _) (hnodup _)).mpr ?_
  rintro ⟨key, cluster⟩
  simp only [List.mem_filter, ExtTreeMap.mem_toList_iff_getElem?_eq_some]
  exact ⟨fun h => ⟨hspared.cluster_eq hdb h.1 h.2, h.2⟩,
    fun h => ⟨hspared.symm.cluster_eq hdb' h.1 h.2, h.2⟩⟩

/-- **Serving is local.**  Two answers, from two caches, have the same entities of each
selection that no object goes into which only one of the caches has. -/
theorem served_local {order order' : IterOrder} {out out' : List Entity}
    (hout : getEntities order config groups users domains db = .ok out)
    (hout' : getEntities order' config groups users domains db' = .ok out')
    (hspared : Spared config db db' p) : (out.filter p).Perm (out'.filter p) := by
  obtain ⟨hdb, rfl⟩ := eq_intendedEntities_of_getEntities hout
  obtain ⟨hdb', rfl⟩ := eq_intendedEntities_of_getEntities hout'
  have harranged : ∀ (order : IterOrder) (l : List (String × Resource)),
      (((order.arrange l).map fun entry => Entity.resource entry.2).filter p).Perm
        ((l.filter fun entry => p (.resource entry.2)).map fun entry =>
          Entity.resource entry.2) := by
    intro order l
    rw [List.filter_map]
    exact ((order.perm l).filter _).map _
  have hclusters := (harranged order _).trans
    (((hspared.clusters hdb hdb').map _).trans (harranged order' _).symm)
  simp only [intendedEntities, List.filter_append]
  exact (((hspared.pushed.append hclusters).append_right _).append_right _).append_right _

end Served

end EntityProvider.Routes

namespace EntityProvider.Ingest

open Std (ExtTreeMap)
open Kube AxKube Entities Library Routes
open EntityProvider.Configuration (Settings)

/-! ## Two moments of a run -/

section Run

variable {n : ℕ} [UnicodeTables] {k8sVer : String} {plan : Fin n → ApiWithSelectors}
variable {R : Type*} (access : R → Option (CacheMap → Checked Unit))
variable {streams : Fin n → List StreamItem} {p : Provider n}

/-- A schedule changes the cache by its log. -/
theorem Provider.Inv.cache_run (hp : p.Inv k8sVer plan streams)
    (schedule : List (Occurrence n R)) :
    (p.run k8sVer plan access schedule).cache =
      carryOut p.cache (p.log k8sVer plan access schedule) := by
  induction schedule generalizing p with
  | nil => rfl
  | cons occ rest ih =>
      rw [Provider.log, carryOut_append, ← hp.cache_step access occ]
      exact ih (hp.step access occ)

variable (k8sVer plan)

/-- **What happens shows only where it belongs.**  Between two moments of a run, the answers
of `get_entities` have the same entities of each selection that no object goes into whose
key was written or purged in between. -/
theorem answers_local (streams : Fin n → List StreamItem) (front back : List (Occurrence n R))
    {p p' : Provider n} (hp : p = (Provider.start streams).run k8sVer plan access front)
    (hp' : p' = p.run k8sVer plan access back) {order order' : IterOrder} {config : Settings}
    {groups : List Group} {users : List User} {domains : List Domain} {out out' : List Entity}
    (hout : getEntities order config groups users domains p.cache = .ok out)
    (hout' : getEntities order' config groups users domains p'.cache = .ok out')
    {select : Entity → Bool}
    (hspared : ∀ k, ¬ LeavesAlone p.cache (p.log k8sVer plan access back) k →
      ∀ obj, p.cache[k]? = some obj ∨ p'.cache[k]? = some obj →
        ∀ entity, (contributionOf config obj).GoesInto entity → select entity = false) :
    (out.filter select).Perm (out'.filter select) := by
  have hinv : p.Inv k8sVer plan streams := by
    rw [hp]
    exact Provider.inv_run k8sVer plan access streams front
  refine served_local hout hout' fun k hchanged => hspared k fun halone => hchanged ?_
  rw [hp', hinv.cache_run access back, halone.getElem?_carryOut]

end Run

/-! ## Two clusters -/

/-- The first shard is handled in the first part of the run. -/
def shardStreams (_ : Fin 1) : List StreamItem :=
  [.ok (.applied (.apply (redisStatefulSet "x" "c1"))),
    .ok (.applied (.apply (redisStatefulSet "y" "c2")))]

/-- A watch of all StatefulSets. -/
def shardWatch : ApiWithSelectors where
  labelSelectors := none
  fieldSelectors := none
  eventType := ""
  apiDyn := .allWith ⟨"apps", "v1", "apps/v1", "StatefulSet", "statefulsets"⟩

/-- The watch reads an item, and the task handles it. -/
def handlesOne : List (Occurrence 1 IterOrder) :=
  [.reads ⟨0, by decide⟩, .feeds (.watch ⟨0, by decide⟩), .task findsAll]

/-- The provider with this watch, after one more item. -/
def runShards [UnicodeTables] (p : Provider 1) : Provider 1 :=
  p.run "1.31" (fun _ => shardWatch) (fun _ : IterOrder => none) handlesOne

/-- The second StatefulSet as it is stored. -/
def secondStored [UnicodeTables] : DynamicObject :=
  processDynobj (redisStatefulSet "y" "c2") shardWatch.apiDyn.resourceUrl

/-- Is the entity a resource of the first cluster's name? -/
def isFirstCluster : Entity → Bool
  | .resource r => r.metadata.name = "c1"
  | _ => false

/-- The second StatefulSet does not go into the first cluster. -/
theorem not_isFirstCluster_of_goesInto [UnicodeTables] {entity : Entity}
    (hinto : (contributionOf .bare secondStored).GoesInto entity) :
    isFirstCluster entity = false := by
  cases entity with
  | resource r =>
      refine decide_eq_false ?_
      rcases hinto with hown | ⟨-, cluster, hcluster, hname⟩
      · rw [(name_of_own hown).2]
        exact (by decide : "a" ≠ "c1")
      · rw [← hname, (cluster_contributionOf hcluster).2.2.2.1]
        exact (by decide : "c2" ≠ "c1")
  | system s | group g | user u | domain d => rfl

/-- All that the second part of the run does is to store the second StatefulSet. -/
theorem secondStored_only :
    letI := UnicodeTables.asciiOnly
    (runShards (Provider.start shardStreams)).log "1.31" (fun _ => shardWatch)
        (fun _ : IterOrder => none) handlesOne = [.write (.put "y/a" secondStored)] ∧
      (runShards (Provider.start shardStreams)).cache["y/a"]? = none ∧
      (runShards (runShards (Provider.start shardStreams))).cache["y/a"]? =
        some secondStored := ⟨rfl, rfl, rfl⟩

/-- The first cluster is served alike before and after the second StatefulSet is handled. -/
theorem answers_local_shardStreams :
    letI := UnicodeTables.asciiOnly
    ∃ out out', serveBare (runShards (Provider.start shardStreams)).cache = .ok out ∧
      serveBare (runShards (runShards (Provider.start shardStreams))).cache = .ok out' ∧
      (out.filter isFirstCluster).Perm (out'.filter isFirstCluster) := by
  let _ := UnicodeTables.asciiOnly
  obtain ⟨out, hout⟩ : ∃ out,
      serveBare (runShards (Provider.start shardStreams)).cache = .ok out := ⟨_, rfl⟩
  obtain ⟨out', hout'⟩ : ∃ out,
      serveBare (runShards (runShards (Provider.start shardStreams))).cache = .ok out :=
    ⟨_, (getEntities_eq_intended_iff _ _ _ _ _ _).mpr ⟨by decide, by decide⟩⟩
  refine ⟨out, out', hout, hout', ?_⟩
  refine answers_local "1.31" (fun _ => shardWatch) (fun _ : IterOrder => none) shardStreams
    handlesOne handlesOne rfl rfl hout hout' fun k htouched obj hobj entity hinto => ?_
  obtain ⟨hlog, hbefore, hafter⟩ := secondStored_only
  by_cases hkey : k = "y/a"
  · subst hkey
    rcases hobj with hobj | hobj
    · exact absurd (hbefore.symm.trans hobj) (by simp)
    · obtain rfl := Option.some.inj (hafter.symm.trans hobj)
      exact not_isFirstCluster_of_goesInto hinto
  · refine absurd (show LeavesAlone _ _ k from ?_) htouched
    change LeavesAlone _ ((runShards (Provider.start shardStreams)).log _ _ _ _) k
    rw [hlog]
    exact ⟨by simp [Entry.touches, Write.key, Ne.symm hkey], by simp⟩

end EntityProvider.Ingest
