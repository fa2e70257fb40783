import EntityProvider.EventPipeline
import EntityProvider.Outline

/-!
# What the watches give away

The provider caches whole objects, but no answer shows more of what the watches report than
outlines.  Nor does it matter which version the cluster has, what event type an entry of the
configuration names or which selectors it has, as long as the streams are the same.

The argument is a simulation: a provider whose streams yield outlines goes through the
outlines of the states of the provider with the whole objects, step by step
(`Provider.outline_step`).  So `answers_from_outlines`: after any schedule both answer every
request alike.
-/

namespace EntityProvider.Ingest

open Std (ExtTreeMap)
open Kube AxKube Library Routes Startup

/-! ## Outlines of states -/

/-- An event of a watcher, with its object translated. -/
def Event.map (f : DynamicObject → DynamicObject) : Event → Event
  | .apply o => .apply (f o)
  | .delete o => .delete (f o)
  | .init => .init
  | .initApply o => .initApply (f o)
  | .initDone => .initDone

/-- The outline of what a stream yields. -/
def outlineItem : StreamItem → StreamItem
  | .ok (.applied e) => .ok (.applied (Event.map .outline e))
  | .ok (.deleted e) => .ok (.deleted (Event.map .outline e))
  | .ok (.restarted e) => .ok (.restarted (Event.map .outline e))
  | .error _ => .error ⟨""⟩

/-- A command, with its object translated. -/
def WatchCommand.map (f : DynamicObject → DynamicObject) : WatchCommand → WatchCommand
  | .add o => .add (f o)
  | .delete o => .delete (f o)
  | .update o => .update (f o)
  | .printAll => .printAll
  | .purge => .purge
  | .none => .none

/-- The outline of an event: the resource URL, and the command about the outline. -/
def outlineEvent (we : WatchEvent) : WatchEvent where
  k8sVersion := ""
  resourceUrl := we.resourceUrl
  eventType := ""
  command := WatchCommand.map .outline we.command

/-- A watch of the same resource, without selectors and event type. -/
def anonymous (apisel : ApiWithSelectors) : ApiWithSelectors where
  labelSelectors := none
  fieldSelectors := none
  eventType := ""
  apiDyn := apisel.apiDyn

/-- Where the ingest task is, as far as outlines go. -/
def Phase.outline : Phase → Phase
  | .idle => .idle
  | .connecting api objs => .connecting api (objs.map .outline)
  | .checking api pending missing =>
      .checking api (pending.map .outline) (missing.map .outline)
  | .stopped => .stopped

@[simp] theorem Phase.isStopped_outline (phase : Phase) :
    phase.outline.isStopped = phase.isStopped := by
  cases phase <;> rfl

/-- What the ingest task and the handlers share, as far as outlines go. -/
def Shared.outline (s : Shared) : Shared where
  cache := outlineCache s.cache
  poisoned := s.poisoned
  queue := s.queue.map outlineEvent
  phase := s.phase.outline

/-- The provider, as far as outlines go. -/
def Provider.outline {n : ℕ} (p : Provider n) : Provider n where
  streams i := (p.streams i).map outlineItem
  pipe := p.pipe.map outlineEvent
  cache := outlineCache p.cache
  poisoned := p.poisoned
  phase := p.phase.outline

/-- How handling an event ended, as far as outlines go. -/
def Handled.outline (handled : Handled) : Handled :=
  ⟨outlineCache handled.cache, handled.panic⟩

/-! ## The cache -/

@[simp] theorem cacheKey_outline (obj : DynamicObject) :
    cacheKey obj.outline = cacheKey obj :=
  rfl

theorem outlineCache_insert (db : CacheMap) (k : String) (obj : DynamicObject) :
    outlineCache (db.insert k obj) = (outlineCache db).insert k obj.outline := by
  apply ExtTreeMap.ext_getElem?
  intro k'
  rw [getElem?_outlineCache, ExtTreeMap.getElem?_insert, ExtTreeMap.getElem?_insert,
    getElem?_outlineCache]
  split <;> rfl

theorem outlineCache_erase (db : CacheMap) (k : String) :
    outlineCache (db.erase k) = (outlineCache db).erase k := by
  apply ExtTreeMap.ext_getElem?
  intro k'
  rw [getElem?_outlineCache, ExtTreeMap.getElem?_erase, ExtTreeMap.getElem?_erase,
    getElem?_outlineCache]
  split <;> rfl

theorem cachedObjects_outline (db : CacheMap) :
    cachedObjects (outlineCache db) = (cachedObjects db).map .outline := by
  simp [cachedObjects, Function.comp_def]

/-- Whether the age of an object can be told, its outline tells as well. -/
theorem formatCreationSince_outline (now : Time) (obj : DynamicObject) :
    (∃ why, formatCreationSince now obj.creationTimestamp = .error why ∧
      formatCreationSince now obj.outline.creationTimestamp = .error why) ∨
    ∃ age age', formatCreationSince now obj.creationTimestamp = .ok age ∧
      formatCreationSince now obj.outline.creationTimestamp = .ok age' := by
  cases hcreated : obj.metadata.creationTimestamp with
  | none =>
      exact Or.inl ⟨.unwrapNone, by simp [DynamicObject.creationTimestamp, hcreated],
        by simp [DynamicObject.creationTimestamp, DynamicObject.outline, hcreated]⟩
  | some created =>
      exact Or.inr ⟨_, _, by simp [DynamicObject.creationTimestamp, hcreated]; rfl,
        by simp [DynamicObject.creationTimestamp, DynamicObject.outline, hcreated]; rfl⟩

/-! ## Steps -/

theorem Provider.outline_settle {n : ℕ} (p : Provider n) (s : Shared) :
    (p.settle s).outline = p.outline.settle s.outline := by
  unfold Provider.settle
  simp only [Shared.outline, Phase.isStopped_outline]
  cases s.phase.isStopped <;> rfl

theorem Phase.outline_eq_idle_iff {phase : Phase} :
    phase.outline = .idle ↔ phase = .idle := by
  cases phase <;> simp [Phase.outline]

section Steps

variable [UnicodeTables]

/-- What is cached of an outline is the outline of what is cached. -/
theorem processDynobj_outline (obj : DynamicObject) (resUrl : String) :
    processDynobj obj.outline resUrl = (processDynobj obj resUrl).outline := by
  have hnone : (∅ : StringMap).erase "kubectl.kubernetes.io/last-applied-configuration" = ∅ :=
    ExtTreeMap.ext_getElem? fun k => by simp
  simp [processDynobj, DynamicObject.outline, DynamicObject.nameAny, hnone]

/-- Missing are the objects whose outlines are. -/
theorem reportedMissing_outline (api : KubeApi) (obj : DynamicObject) :
    reportedMissing api obj.outline = reportedMissing api obj := by
  simp [reportedMissing, checkRequest]

omit [UnicodeTables] in
theorem removeMissing_outline (now : Time) (objs : List DynamicObject) :
    ∀ db : CacheMap, removeMissing now (outlineCache db) (objs.map .outline) =
      (removeMissing now db objs).outline := by
  induction objs with
  | nil => intro db; rfl
  | cons obj rest ih =>
      intro db
      rw [List.map_cons, removeMissing, removeMissing]
      rcases formatCreationSince_outline now obj with
        ⟨why, hobj, hout⟩ | ⟨age, age', hobj, hout⟩
      · rw [hobj, hout]
        rfl
      · rw [hobj, hout, cacheKey_outline, ← outlineCache_erase]
        exact ih _

/-- **The outline of an event does to the outlines** what the event does to the cache, the
purges apart, which take several steps. -/
theorem handleWatchEvent_outline (around : Surroundings) (cache : CacheMap) {we : WatchEvent}
    (hwe : we.command ≠ .purge) :
    handleWatchEvent around (outlineCache cache) (outlineEvent we) =
      (handleWatchEvent around cache we).outline := by
  have hstore : ∀ obj, handleWatchEvent around (outlineCache cache)
      ⟨"", we.resourceUrl, "", .add (DynamicObject.outline obj)⟩ =
      (handleWatchEvent around cache ⟨"", we.resourceUrl, "", .add obj⟩).outline := by
    intro obj
    unfold handleWatchEvent
    simp only [processDynobj_outline]
    rcases formatCreationSince_outline around.now (processDynobj obj we.resourceUrl) with
      ⟨why, hobj, hout⟩ | ⟨age, age', hobj, hout⟩
    · rw [hobj, hout]
      rfl
    · rw [hobj, hout, cacheKey_outline, ← outlineCache_insert]
      rfl
  cases hcommand : we.command with
  | add obj =>
      simpa [handleWatchEvent, outlineEvent, WatchCommand.map, hcommand] using hstore obj
  | update obj =>
      simpa [handleWatchEvent, outlineEvent, WatchCommand.map, hcommand] using hstore obj
  | delete obj =>
      simp only [handleWatchEvent, outlineEvent, WatchCommand.map, hcommand]
      rcases formatCreationSince_outline around.now obj with
        ⟨why, hobj, hout⟩ | ⟨age, age', hobj, hout⟩
      · rw [hobj, hout]
        rfl
      · rw [hobj, hout, cacheKey_outline, ← outlineCache_erase]
        rfl
  | purge => exact absurd hcommand hwe
  | printAll =>
      simp [handleWatchEvent, outlineEvent, WatchCommand.map, hcommand, Handled.outline]
  | none => simp [handleWatchEvent, outlineEvent, WatchCommand.map, hcommand, Handled.outline]

theorem Shared.handle_outline (s : Shared) (around : Surroundings) (we : WatchEvent) :
    s.outline.handle around (outlineEvent we) = (s.handle around we).outline := by
  have hcommand : (outlineEvent we).command = WatchCommand.map .outline we.command := rfl
  have hcached : cachedObjects s.outline.cache = (cachedObjects s.cache).map .outline :=
    cachedObjects_outline s.cache
  unfold Shared.handle
  rw [hcommand, hcached]
  cases hwe : we.command with
  | none => rfl
  | purge =>
      show (if s.poisoned then _ else _) = Shared.outline (if s.poisoned then _ else _)
      split <;> rfl
  | add obj | update obj | delete obj | printAll =>
      have hhandled : handleWatchEvent around s.outline.cache (outlineEvent we) =
          (handleWatchEvent around s.cache we).outline :=
        handleWatchEvent_outline around s.cache (by simp [hwe])
      simp only [WatchCommand.map, hhandled]
      show
        (if (handleWatchEvent around s.cache we).panic.isSome || s.poisoned then _ else _) =
        Shared.outline (if _ then _ else _)
      split <;> rfl

/-- **A step of the ingest task** does to the outlines what it does to the objects. -/
theorem Shared.advance_outline (s : Shared) (around : Surroundings) :
    s.outline.advance around = (s.advance around).outline := by
  cases hphase : s.phase with
  | stopped => simp [Shared.advance, Shared.outline, hphase, Phase.outline]
  | idle =>
      cases hqueue : s.queue with
      | nil => simp [Shared.advance, Shared.outline, hphase, hqueue, Phase.outline]
      | cons we rest =>
          have hhandle := Shared.handle_outline { s with queue := rest } around we
          simp only [Shared.advance, Shared.outline, hphase, hqueue, Phase.outline,
            List.map_cons] at hhandle ⊢
          exact hhandle
  | connecting api objs =>
      simp only [Shared.advance, Shared.outline, hphase, Phase.outline]
      cases api.connects <;> rfl
  | checking api pending missing =>
      cases pending with
      | cons obj pending =>
          simp only [Shared.advance, Shared.outline, hphase, Phase.outline, List.map_cons,
            reportedMissing_outline]
          cases reportedMissing api obj <;> simp
      | nil =>
          simp only [Shared.advance, Shared.outline, hphase, Phase.outline, List.map_nil,
            removeMissing_outline]
          cases s.poisoned with
          | true => rfl
          | false =>
              simp only [Bool.false_eq_true, if_false, Handled.outline]
              cases (removeMissing around.now s.cache missing).panic <;> rfl

/-- **So does one of the provider.** -/
theorem Provider.outline_advance {n : ℕ} (p : Provider n) (around : Surroundings) :
    (p.advance around).outline = p.outline.advance around := by
  by_cases hidle : p.phase = .idle
  · have hidle' : p.outline.phase = .idle := Phase.outline_eq_idle_iff.mpr hidle
    have htake' : p.outline.pipe.take? =
        p.pipe.take?.map (Prod.map outlineEvent (Pipeline.map outlineEvent)) :=
      Pipeline.map_take? outlineEvent p.pipe
    cases htake : p.pipe.take? with
    | none =>
        rw [htake] at htake'
        rw [Provider.advance_of_empty hidle htake, Provider.advance_of_empty hidle' htake']
    | some received =>
        obtain ⟨we, pipe⟩ := received
        rw [htake] at htake'
        rw [Provider.advance_of_take hidle htake, Provider.advance_of_take hidle' htake',
          Provider.outline_settle, ← Shared.handle_outline]
        rfl
  · have hidle' : p.outline.phase ≠ .idle := fun h => hidle (Phase.outline_eq_idle_iff.mp h)
    rw [Provider.advance_of_busy hidle, Provider.advance_of_busy hidle',
      Provider.outline_settle, ← Shared.advance_outline]
    rfl

/-! ## Runs -/

variable {n : ℕ} {R : Type*}

omit [UnicodeTables] in
/-- The outlines of what a watch sends are what it sends of outlines. -/
theorem watchEvents_outline (k8sVer : String) (apisel : ApiWithSelectors)
    (items : List StreamItem) :
    watchEvents "" (anonymous apisel) (items.map outlineItem) =
      (watchEvents k8sVer apisel items).map outlineEvent := by
  unfold watchEvents watchLoop
  rw [List.flatMap_map, List.map_flatMap]
  refine List.flatMap_congr fun item _ => ?_
  rcases item with why | (e | e | e)
  · rfl
  all_goals cases e <;> rfl

omit [UnicodeTables] in
theorem Provider.outline_reads (k8sVer : String) (plan : Fin n → ApiWithSelectors)
    (p : Provider n) (i : Fin n) :
    (p.reads k8sVer plan i).outline = p.outline.reads "" (fun i => anonymous (plan i)) i := by
  unfold Provider.reads
  cases hstream : p.streams i with
  | nil => simp [Provider.outline, hstream]
  | cons item rest =>
      have hstream' : p.outline.streams i = outlineItem item :: rest.map outlineItem := by
        simp [Provider.outline, hstream]
      have hready : (p.outline.pipe.senders (.watch i)).isReady =
          (p.pipe.senders (.watch i)).isReady := Sender.isReady_map _ _
      have hevents := watchEvents_outline k8sVer (plan i) [item]
      simp only [hstream', hready]
      split
      · simp only [Provider.outline, Pipeline.map_give, map_update, ← hevents, List.map_cons,
          List.map_nil]
      · rfl

variable {k8sVer : String} {plan : Fin n → ApiWithSelectors}
  {access : R → Option (CacheMap → Checked Unit)}

/-- Do all requests do with outlines what they do with the objects? -/
def OnlyReadsOutlines (access : R → Option (CacheMap → Checked Unit)) : Prop :=
  ∀ r read, access r = some read → ∀ db, read (outlineCache db) = read db

omit [UnicodeTables] in
/-- A handler that reads outlines alike leaves the lock alike. -/
theorem Shared.outline_read {s : Shared} {read : CacheMap → Checked Unit}
    (hread : read (outlineCache s.cache) = read s.cache) :
    s.outline.read read = (s.read read).outline := by
  have hcache : s.outline.cache = outlineCache s.cache := rfl
  have hpoisoned : s.outline.poisoned = s.poisoned := rfl
  unfold Shared.read
  rw [hcache, hpoisoned, hread]
  cases s.poisoned with
  | true => rfl
  | false =>
      simp only [Bool.false_eq_true, if_false]
      cases read s.cache <;> rfl

/-- **A step of the provider** does to the outlines what it does to the objects. -/
theorem Provider.outline_step (haccess : OnlyReadsOutlines access) (p : Provider n)
    (occ : Occurrence n R) :
    (p.step k8sVer plan access occ).outline =
      p.outline.step "" (fun i => anonymous (plan i)) access occ := by
  cases occ with
  | reads i => exact p.outline_reads k8sVer plan i
  | pollTick => simp [Provider.step, Provider.outline, Pipeline.map_give]; rfl
  | purgeTick => simp [Provider.step, Provider.outline, Pipeline.map_give]; rfl
  | feeds f => simp [Provider.step, Provider.outline, Pipeline.map_push]
  | task around => exact p.outline_advance around
  | request r =>
      have hrequest : p.outline.shared.step access (.request r) =
          (p.shared.step access (.request r)).outline := by
        simp only [Shared.step]
        cases hread : access r with
        | none => rfl
        | some read =>
            exact Shared.outline_read (s := p.shared) (haccess r read hread p.cache)
      simp only [Provider.step, hrequest]
      rfl

/-- **The simulation.**  With outlines for objects, a schedule leads to the outline of the
state that it leads to with the objects. -/
theorem Provider.outline_run (haccess : OnlyReadsOutlines access)
    (schedule : List (Occurrence n R)) :
    ∀ p : Provider n, (p.run k8sVer plan access schedule).outline =
      p.outline.run "" (fun i => anonymous (plan i)) access schedule := by
  induction schedule with
  | nil => intro p; rfl
  | cons occ rest ih =>
      intro p
      have hrest := ih (p.step k8sVer plan access occ)
      rw [Provider.outline_step haccess] at hrest
      exact hrest

/-- The requests to an application read outlines alike. -/
theorem onlyReadsOutlines (app : App) (cache : Db) :
    OnlyReadsOutlines fun asked : IterOrder × Request =>
      app.access cache asked.1 asked.2 := by
  intro asked read hread db
  rw [← access_sketch hread, sketch_outlineCache, access_sketch hread]

variable (k8sVer plan)

/-- **No answer shows more than outlines.**  Let one provider read whole objects, and another
one, that does not know the version of the cluster, the event types and the selectors, their
outlines.  Whatever is registered with the application and whatever the schedule: a request
to the first one gets the answer it would get if nothing were cached but the StatefulSets
and Pods of the second one, and both or neither have a poisoned mutex. -/
theorem answers_from_outlines (app : App) (cache : Db) (memory : Memory)
    (streams : Fin n → List StreamItem)
    (schedule : List (Occurrence n (IterOrder × Request))) (order : IterOrder) (r : Request) :
    let access := fun asked : IterOrder × Request => app.access cache asked.1 asked.2
    let p := (Provider.start streams).run k8sVer plan access schedule
    let q := (Provider.start fun i => (streams i).map outlineItem).run ""
      (fun i => anonymous (plan i)) access schedule
    app.respond order (Function.update memory cache p.cache) r =
        app.respond order (Function.update memory cache (sketch q.cache)) r ∧
      p.poisoned = q.poisoned := by
  intro access p q
  have hrun : p.outline = q :=
    Provider.outline_run (onlyReadsOutlines app cache) schedule (Provider.start streams)
  have hcache : outlineCache p.cache = q.cache := (congrArg Provider.cache hrun :)
  have hpoisoned : p.poisoned = q.poisoned := (congrArg Provider.poisoned hrun :)
  refine ⟨respond_of_sketch app order r (funext fun db => ?_), hpoisoned⟩
  rcases eq_or_ne db cache with rfl | hne
  · rw [Function.update_self, Function.update_self, ← hcache, sketch_sketch,
      sketch_outlineCache]
  · rw [Function.update_of_ne hne, Function.update_of_ne hne]

end Steps

end EntityProvider.Ingest
