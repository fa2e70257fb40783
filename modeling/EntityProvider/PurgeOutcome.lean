import EntityProvider.RedisStatus

/-!
# The outcome of a purge

A purge copies the cache, asks the API server for one object after another without the lock,
and locks the cache again to remove what was answered with `None`.  Events and requests come
in between.  What it is for is `RemovesExactly`: of all entries, those are gone whose object
was asked for and answered so (`AnsweredNone`, read off the text of the object's
`apiVersion` and kind), and nothing else has changed.

Events cannot get in the way, since they wait in the channel.  Requests can: both GETs that
read the cache unwrap under the lock what need not be there, and after such a panic the
second `lock().unwrap()` of the purge panics as well.  `purge_removes_exactly_iff` says that
this is all that can go wrong.  A purge comes to its end exactly if every request up to its
last step comes at a cache at which its handler returns, and it then removes exactly what it
should.  Otherwise the ingest task ends, and the cache stays as it was.
-/

namespace EntityProvider.Ingest

open Std (ExtTreeMap)
open Kube AxKube Entities Library Routes
open EntityProvider.Configuration (Settings)

section Purging

variable [UnicodeTables]

/-! ## What is to be removed -/

/-- **The request for the object was answered with `None`.**  It is made if the object has a
namespace and types whose `apiVersion` is a version, of the core group, or a group and a
version; it asks in this namespace for the object's name, under the lower-cased kind with an
`s` at its end. -/
def AnsweredNone (api : KubeApi) (obj : DynamicObject) : Prop :=
  ∃ ns tp group version, obj.metadata.ns = some ns ∧ obj.types = some tp ∧
    (splitAtChar tp.apiVersion '/' = [version] ∧ group = "" ∨
      splitAtChar tp.apiVersion '/' = [group, version]) ∧
    api.getOpt
      { group := group, apiVersion := tp.apiVersion, plural := toLowercase tp.kind ++ "s"
        ns := some ns, name := obj.nameAny } = .missing

/-- **Exactly the entries answered with `None` are gone**, with their keys; without a client
nothing is asked, and nothing is gone. -/
def RemovesExactly (api : KubeApi) (db db' : CacheMap) : Prop :=
  ∀ (k : String) (obj : DynamicObject), db'[k]? = some obj ↔
    db[k]? = some obj ∧ ¬ (api.connects = true ∧ AnsweredNone api obj)

/-- There is no entry to be removed. -/
def NothingToRemove (api : KubeApi) (db : CacheMap) : Prop :=
  ∀ (k : String) (obj : DynamicObject), db[k]? = some obj →
    ¬ (api.connects = true ∧ AnsweredNone api obj)

/-- The resource is rebuilt from an `apiVersion` of one or two parts. -/
theorem checkedResource_eq_some_iff {tp : TypeMeta} {ar : ApiResource} :
    checkedResource tp = some ar ↔
      ∃ group version,
        (splitAtChar tp.apiVersion '/' = [version] ∧ group = "" ∨
          splitAtChar tp.apiVersion '/' = [group, version]) ∧
        ar =
          { group := group, version := version, apiVersion := tp.apiVersion
            kind := tp.kind, plural := toLowercase tp.kind ++ "s" } := by
  unfold checkedResource
  split
  next ver hparts => simp [hparts, eq_comm]
  next group ver hparts => simp [hparts, eq_comm]
  next hone htwo =>
    constructor
    · exact fun hnone => absurd hnone (by simp)
    · rintro ⟨group, version, ⟨hparts, -⟩ | hparts, -⟩
      · exact absurd hparts (hone version)
      · exact absurd hparts (htwo group version)

/-- `check_objects` reports the objects whose request was answered with `None`. -/
theorem reportedMissing_iff {api : KubeApi} {obj : DynamicObject} :
    reportedMissing api obj = true ↔ AnsweredNone api obj := by
  rw [reportedMissing_iff_checkRequest]
  constructor
  · rintro ⟨path, hpath, hmissing⟩
    obtain ⟨ns, tp, ar, hns, htypes, har, rfl⟩ := checkRequest_eq_some_iff.mp hpath
    obtain ⟨group, version, hparts, rfl⟩ := checkedResource_eq_some_iff.mp har
    exact ⟨ns, tp, group, version, hns, htypes, hparts, hmissing⟩
  · rintro ⟨ns, tp, group, version, hns, htypes, hparts, hmissing⟩
    have har := checkedResource_eq_some_iff.mpr ⟨group, version, hparts, rfl⟩
    exact ⟨_, checkRequest_eq_some_iff.mpr ⟨ns, tp, _, hns, htypes, har, rfl⟩, hmissing⟩

/-- The removal at the end of a purge. -/
theorem removesExactly_purged (api : KubeApi) (db : CacheMap) :
    RemovesExactly api db (purged api db) := by
  intro k obj
  rw [purged, ExtTreeMap.getElem?_filter', Option.filter_eq_some_iff, ← reportedMissing_iff,
    ← Bool.and_eq_true, Bool.not_eq_true', Bool.not_eq_true]

/-- No removal at all is right if there is nothing to remove. -/
theorem removesExactly_self_iff {api : KubeApi} {db : CacheMap} :
    RemovesExactly api db db ↔ NothingToRemove api db :=
  ⟨fun h k obj hobj => ((h k obj).mp hobj).2,
    fun h k obj => ⟨fun hobj => ⟨hobj, h k obj hobj⟩, And.left⟩⟩

/-! ## What comes in between -/

/-- The requests. -/
inductive Visit where
  /-- A GET of the entities, by the order the handler finds the clusters in. -/
  | entities (order : IterOrder)
  /-- A GET of the redis status. -/
  | redisStatus
  /-- Any other request; its handler, if one is run at all, does not lock the cache. -/
  | other

/-- What the handlers do with the cache under the lock. -/
def visits (config : Settings) (groups : List Group) (users : List User)
    (domains : List Domain) : Visit → Option (CacheMap → Checked Unit)
  | .entities order => gets config groups users domains order
  | .redisStatus => statusGets ()
  | .other => none

/-- The caches at which the handler of a request returns. -/
def Visit.Returns : Visit → CacheMap → Prop
  | .entities _, db => Servable db
  | .redisStatus, db => StatusesComplete db
  | .other, _ => True

variable (config : Settings) (groups : List Group) (users : List User)
variable (domains : List Domain)

/-- Each handler returns at its caches, and panics at all others. -/
theorem returnsWhen_visits :
    ReturnsWhen (visits config groups users domains) Visit.Returns := by
  intro r db
  cases r with
  | entities order => exact returnsWhen_gets order db
  | redisStatus => exact returnsWhen_statusGets () db
  | other => simp [visits, Visit.Returns]

/-! ## The outcome -/

/-- **What a purge removes.**  In every reachable state in which the task takes a purge off
the channel, and whatever is sent and requested until its last step.  The purge comes to its
end exactly if every request up to that step has come at a cache at which its handler
returns; otherwise the task has panicked and the cache is as before.  So exactly the entries
answered with `None` are gone in these runs, and in those that had nothing to remove. -/
theorem purge_removes_exactly_iff (front during : List (Action Visit))
    (around last : Surroundings) {we : WatchEvent} {rest : List WatchEvent}
    (hidle : (Shared.start.run (visits config groups users domains) front).phase = .idle)
    (hqueue :
      (Shared.start.run (visits config groups users domains) front).queue = we :: rest)
    (hpurge : we.command = .purge)
    (hcount : during.countP Action.isTask + 1 =
      purgeRounds around.api
        (Shared.start.run (visits config groups users domains) front).cache) :
    let access := visits config groups users domains
    let s := Shared.start.run access front
    let s' := s.run access ((.task around :: during) ++ [.task last])
    let served := RequestsMeet access Visit.Returns .start (front ++ .task around :: during)
    (s'.phase = .idle ↔ served) ∧
      (RemovesExactly around.api s.cache s'.cache ↔
        served ∨ NothingToRemove around.api s.cache) ∧
      (¬ served → s'.phase = .stopped ∧ s'.cache = s.cache) := by
  intro access s s' served
  have hs : s.Inv := Shared.inv_start.run access front
  let t := s.run access (.task around :: during)
  have hlast : s' = t.advance last := by
    simp [s', t, Shared.run, Shared.step]
  -- the mutex is poisoned by the last step exactly if not every request was served
  have hup : t.poisoned = false ↔ served := by
    have hrun : Shared.start.run access (front ++ .task around :: during) = t :=
      List.foldl_append
    rw [← hrun]
    exact (run_requests (returnsWhen_visits config groups users domains) _ _
      Shared.inv_start rfl).1
  obtain ⟨hends, hpanics⟩ := run_of_purge hs hidle hqueue hpurge around last hcount
  rw [hlast]
  by_cases hserved : served
  · obtain ⟨hphase, hcache⟩ := hends (hup.mpr hserved)
    have hexact : RemovesExactly around.api s.cache (t.advance last).cache :=
      hcache ▸ removesExactly_purged around.api s.cache
    exact ⟨⟨fun _ => hserved, fun _ => hphase⟩,
      ⟨fun _ => Or.inl hserved, fun _ => hexact⟩, fun hnot => absurd hserved hnot⟩
  · have hdown : t.poisoned = true := by
      simpa using mt hup.mp hserved
    obtain ⟨hphase, hcache⟩ := hpanics hdown
    refine ⟨⟨fun hidle' => ?_, fun h => absurd h hserved⟩, ?_, fun _ => ⟨hphase, hcache⟩⟩
    · exact absurd (hphase.symm.trans hidle') (by simp)
    · rw [hcache, removesExactly_self_iff]
      exact ⟨Or.inr, fun h => h.resolve_left hserved⟩

end Purging

/-! ## A purge with a GET in between -/

/-- The API server finds everything but what is called `gone`. -/
def missesGone : Surroundings :=
  ⟨0, ⟨true, fun path => if path.name = "gone" then .missing else .found⟩⟩

/-- The Pod `gone` and one other object are cached, and a purge is due. -/
def purgeDue (resourceUrl : String) (other : DynamicObject) : List (Action Visit) :=
  [.send ⟨"1.31", "/api/v1/pods", "", .add (podNamed "gone")⟩, .task missesGone,
    .send ⟨"1.31", resourceUrl, "", .add other⟩, .task missesGone, .send .purgeTick]

/-- The steps of the purge between its first and its last one, and a GET of the entities. -/
def getInBetween : List (Action Visit) :=
  [.task missesGone, .request (.entities .sorted), .task missesGone, .task missesGone]

theorem answeredNone_podNamed_iff (name resourceUrl : String) :
    letI := UnicodeTables.asciiOnly
    AnsweredNone missesGone.api (processDynobj (podNamed name) resourceUrl) ↔
      name = "gone" := by
  have hanswer : missesGone.api.getOpt
      { group := "", apiVersion := "v1", plural := "pods", ns := some "x", name := name } =
        .missing ↔ name = "gone" := by
    simp [missesGone]
  constructor
  · rintro ⟨ns, tp, group, version, -, -, -, hmissing⟩
    by_contra hname
    exact absurd hmissing
      (by simp [missesGone, processDynobj, podNamed, DynamicObject.nameAny, hname])
  · intro hname
    exact ⟨"x", ⟨"v1", "Pod"⟩, "", "v1", rfl, rfl, Or.inl ⟨rfl, rfl⟩, hanswer.mpr hname⟩

theorem cached_purgeDue :
    letI := UnicodeTables.asciiOnly
    let s := Shared.start.run (visits .bare [] [] [])
      (purgeDue "/api/v1/pods" (podNamed "kept"))
    s.cache["x/gone"]? = some (processDynobj (podNamed "gone") "/api/v1/pods") ∧
      s.cache["x/kept"]? = some (processDynobj (podNamed "kept") "/api/v1/pods") :=
  ⟨rfl, rfl⟩

/-- With two Pods in the cache the GET is served. -/
theorem requestsMeet_twoPods :
    letI := UnicodeTables.asciiOnly
    RequestsMeet (visits .bare [] [] []) Visit.Returns .start
      (purgeDue "/api/v1/pods" (podNamed "kept") ++ .task missesGone :: getInBetween) :=
  (@run_requests UnicodeTables.asciiOnly _ _ _
    (@returnsWhen_visits UnicodeTables.asciiOnly .bare [] [] []) _ _
    (@Shared.inv_start UnicodeTables.asciiOnly) rfl).1.mp rfl

/-- Of two Pods the one that is gone is removed, and the other one stays. -/
theorem purge_removes_exactly_iff_twoPods :
    letI := UnicodeTables.asciiOnly
    let access := visits .bare [] [] []
    let s := Shared.start.run access (purgeDue "/api/v1/pods" (podNamed "kept"))
    let s' := s.run access ((.task missesGone :: getInBetween) ++ [.task missesGone])
    s'.phase = .idle ∧ s.cache["x/gone"]?.isSome = true ∧ s'.cache["x/gone"]? = none ∧
      s'.cache["x/kept"]? = some (processDynobj (podNamed "kept") "/api/v1/pods") := by
  obtain ⟨hend, hremoves, -⟩ :=
    @purge_removes_exactly_iff UnicodeTables.asciiOnly .bare [] [] []
      (purgeDue "/api/v1/pods" (podNamed "kept")) getInBetween missesGone missesGone
      .purgeTick [] rfl rfl rfl rfl
  have hexact := hremoves.mpr (Or.inl requestsMeet_twoPods)
  obtain ⟨hgone, hkept⟩ := cached_purgeDue
  refine ⟨hend.mpr requestsMeet_twoPods, Option.isSome_of_eq_some hgone,
    Option.eq_none_iff_forall_ne_some.mpr fun obj hobj => ?_,
    (hexact _ _).mpr ⟨hkept, fun h => ?_⟩⟩
  · obtain ⟨hcached, hnot⟩ := (hexact _ _).mp hobj
    obtain rfl := Option.some.inj (hgone.symm.trans hcached)
    exact hnot ⟨rfl, (answeredNone_podNamed_iff _ _).mpr rfl⟩
  · exact absurd ((answeredNone_podNamed_iff _ _).mp h.2) (by decide)

/-- With a StatefulSet without labels in the cache, the Pod is still there in the end. -/
theorem cached_getInBetween :
    letI := UnicodeTables.asciiOnly
    (Shared.start.run (visits .bare [] [] [])
      (purgeDue "/apis/apps/v1/statefulsets" unlabelledStatefulSet ++
        ((.task missesGone :: getInBetween) ++ [.task missesGone]))).cache["x/gone"]? =
      some (processDynobj (podNamed "gone") "/api/v1/pods") := rfl

/-- **A GET keeps a purge from its end.**  With a StatefulSet without labels in the cache the
GET panics under the lock.  `gone` is answered with `None`, but the lock for removing it
panics: the task ends, and `gone` stays. -/
theorem not_removesExactly_getInBetween :
    letI := UnicodeTables.asciiOnly
    let access := visits .bare [] [] []
    let s := Shared.start.run access
      (purgeDue "/apis/apps/v1/statefulsets" unlabelledStatefulSet)
    let s' := s.run access ((.task missesGone :: getInBetween) ++ [.task missesGone])
    s.phase = .idle ∧ s.queue = [.purgeTick] ∧
      getInBetween.countP Action.isTask + 1 = purgeRounds missesGone.api s.cache ∧
      s'.phase = .stopped ∧ ¬ RemovesExactly missesGone.api s.cache s'.cache := by
  refine ⟨rfl, rfl, rfl, rfl, fun hexact => ?_⟩
  have hnot := ((hexact _ _).mp cached_getInBetween).2
  exact hnot ⟨rfl, (answeredNone_podNamed_iff _ _).mpr rfl⟩

end EntityProvider.Ingest
