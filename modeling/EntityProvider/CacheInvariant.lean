import EntityProvider.SharedCache

/-!
# What every cache entry satisfies

Purges included, the cache never holds more than the events put there.  The invariant
is `Stored`: what is under a key is what the last event that stored something there
left.  Each command keeps it: an `Add` or `Update` is itself that last event, and the
others only take entries away (`getElem?_of_handleWatchEvent`).  From it,
`reachable_wellStored` reads off the shape of every reachable entry.

The loop formats the age of every object it is about to store or remove, and that
unwraps the creation time.  So the loop gets through a list of events exactly if all
their objects have one (`ingestionSurvives_iff`).
-/

namespace EntityProvider.Ingest

open Std (ExtTreeMap)
open Kube AxKube Library

/-- Is the event an `Add` or `Update` of an object with cache key `k`? -/
def StoresUnder (k : String) (we : WatchEvent) : Bool :=
  match we.command with
  | .add o | .update o => cacheKey o = k
  | _ => false

/-- The annotation that is not cached. -/
def lastAppliedConfiguration : String := "kubectl.kubernetes.io/last-applied-configuration"

/-- The shape of the entry `o` under the key `k`. -/
structure WellStored (k : String) (o : DynamicObject) : Prop where
  /-- It is under its own key. -/
  key : k = o.metadata.ns.getD "none" ++ "/" ++ o.nameAny
  /-- The annotation is not there. -/
  annotation : (o.metadata.annotations.getD ∅)[lastAppliedConfiguration]? = none
  /-- There are no managed fields. -/
  managedFields : o.metadata.managedFields.getD [] = []

section Invariant

variable [UnicodeTables]

/-- The object `o` is the `reported` one, but for the annotation, the managed fields and,
if it had none, its types. -/
structure KeptAsReported (resourceUrl : String) (reported o : DynamicObject) : Prop where
  data : o.data = reported.data
  metadata : { o.metadata with annotations := none, managedFields := none } =
    { reported.metadata with annotations := none, managedFields := none }
  annotations : ∀ key, key ≠ lastAppliedConfiguration →
    (o.metadata.annotations.getD ∅)[key]? = (reported.metadata.annotations.getD ∅)[key]?
  types : o.types = reported.types.or (parseTypeMeta resourceUrl)

/-- What `process_dynobj` makes of an object is well stored under the object's key. -/
theorem wellStored_processDynobj (reported : DynamicObject) (resourceUrl : String) :
    WellStored (cacheKey reported) (processDynobj reported resourceUrl) where
  key := rfl
  annotation := by simp [processDynobj, lastAppliedConfiguration]
  managedFields := rfl

/-- **`process_dynobj` keeps the rest.** -/
theorem keptAsReported_processDynobj (reported : DynamicObject) (resourceUrl : String) :
    KeptAsReported resourceUrl reported (processDynobj reported resourceUrl) where
  data := rfl
  metadata := rfl
  annotations := by
    intro key hkey
    show ((reported.metadata.annotations.getD ∅).erase lastAppliedConfiguration)[key]? = _
    rw [ExtTreeMap.getElem?_erase, if_neg]
    simpa using Ne.symm hkey
  types := rfl

/-! ## One event -/

/-- A `Purge` keeps every entry under its own key, and so does any other event. -/
theorem Keyed.handle {db : CacheMap} (hdb : Keyed db) (around : Surroundings)
    (we : WatchEvent) : Keyed (handleWatchEvent around db we).cache := by
  by_cases hpurge : we.command = .purge
  · rw [handleWatchEvent_purge hdb around hpurge]
    exact keyed_filter hdb _
  · exact keyed_handleWatchEvent hdb hpurge

/-- **When an event makes the loop panic.**  Exactly if it is about an object without a
creation time; a purge comes across none, as none is cached. -/
theorem panic_handleWatchEvent_iff {db : CacheMap} (hdb : Keyed db) (around : Surroundings)
    (we : WatchEvent) : (handleWatchEvent around db we).panic = none ↔ Created we := by
  constructor
  · intro hpanic
    by_contra hcreated
    rw [handleWatchEvent_of_not_created around db hcreated] at hpanic
    exact absurd hpanic (by simp)
  · intro hcreated
    by_cases hpurge : we.command = .purge
    · rw [handleWatchEvent_purge hdb around hpurge]
    · rw [handleWatchEvent_of_created around db hpurge hcreated]

/-- Whatever is not an `Add` or `Update` only takes entries away. -/
theorem getElem?_of_handleWatchEvent {around : Surroundings} {db : CacheMap} (hdb : Keyed db)
    {we : WatchEvent} (hstores : storedBy we = none) {k : String} {obj : DynamicObject}
    (hobj : (handleWatchEvent around db we).cache[k]? = some obj) : db[k]? = some obj := by
  by_cases hpurge : we.command = .purge
  · rw [handleWatchEvent_purge hdb around hpurge, purged, ExtTreeMap.getElem?_filter',
      Option.filter_eq_some_iff] at hobj
    exact hobj.1
  · by_cases hcreated : Created we
    · -- a write that stores nothing leaves nothing under its key
      rw [handleWatchEvent_of_created around db hpurge hcreated] at hobj
      dsimp only at hobj
      rw [getElem?_replay] at hobj
      cases hlast : lastWith (WritesTo writeOf k) [we] with
      | none => simpa [hlast] using hobj
      | some event =>
          obtain rfl := List.mem_singleton.mp (mem_of_lastWith_eq_some hlast)
          simp [hlast, writeOf_bind_value, hstores] at hobj
    · rw [handleWatchEvent_of_not_created around db hcreated] at hobj
      exact hobj

/-- **An event leaves other keys alone**, short of a purge. -/
theorem getElem?_handleWatchEvent_of_ne (around : Surroundings) (db : CacheMap)
    {we : WatchEvent} {obj : DynamicObject} (hobj : commandObject we.command = some obj)
    {k : String} (hk : k ≠ cacheKey obj) :
    (handleWatchEvent around db we).cache[k]? = db[k]? := by
  obtain ⟨ver, url, type, command⟩ := we
  by_cases hcreated : Created ⟨ver, url, type, command⟩
  · cases command with
    | add o | update o | delete o =>
        obtain rfl : o = obj := Option.some.inj hobj
        rw [handleWatchEvent_of_created around db (by simp) hcreated]
        dsimp only
        rw [getElem?_replay]
        simp [lastWith, WritesTo, writeOf, Ne.symm hk]
    | purge | printAll | none => simp [commandObject] at hobj
  · rw [handleWatchEvent_of_not_created around db hcreated]

/-- What the task does with one event. -/
theorem IngestTask.cache_step (task : IngestTask) (input : Surroundings × WatchEvent) :
    (task.step input).cache =
      if task.running then (handleWatchEvent input.1 task.cache input.2).cache
      else task.cache := by
  unfold IngestTask.step
  split <;> rfl

/-! ## Whole runs -/

/-- Every entry is what the last of the `events` that stored an object under its key
left there. -/
def Stored (db : CacheMap) (events : List WatchEvent) : Prop :=
  ∀ (k : String) (o : DynamicObject), db[k]? = some o →
    (lastWith (StoresUnder k) events).bind storedBy = some o

/-- An event that stores nothing is passed over. -/
theorem storesUnder_of_storedBy_eq_none {we : WatchEvent} (hstores : storedBy we = none)
    (k : String) : StoresUnder k we = false := by
  obtain ⟨ver, url, type, command⟩ := we
  cases command with
  | add o | update o => simp [storedBy] at hstores
  | delete | purge | printAll | none => rfl

/-- **Every command keeps the invariant**, if it does not make the loop panic. -/
theorem Stored.handle {db : CacheMap} {events : List WatchEvent} (hstored : Stored db events)
    (hdb : Keyed db) (around : Surroundings) {we : WatchEvent} (hcreated : Created we) :
    Stored (handleWatchEvent around db we).cache (events ++ [we]) := by
  intro k o ho
  rw [lastWith_concat]
  cases hstores : storedBy we with
  | none =>
      rw [if_neg (by simp [storesUnder_of_storedBy_eq_none hstores])]
      exact hstored k o (getElem?_of_handleWatchEvent hdb hstores ho)
  | some stored =>
      obtain ⟨ver, url, type, command⟩ := we
      cases command with
      | delete | purge | printAll | none => simp [storedBy] at hstores
      | add obj | update obj =>
          rw [handleWatchEvent_of_created around db (by simp) hcreated] at ho
          change ((Write.put (cacheKey obj) (processDynobj obj url)).apply db)[k]? =
            some o at ho
          rw [Write.getElem?_apply] at ho
          by_cases hk : cacheKey obj = k
          · -- the event is itself the last one to store something under `k`
            rw [if_pos (by simpa [StoresUnder] using hk)]
            exact (if_pos hk).symm.trans ho
          · rw [if_neg (by simpa [StoresUnder] using hk)]
            exact hstored k o ((if_neg hk).symm.trans ho)

/-- A task that runs goes on exactly after an event whose object has a creation time. -/
theorem IngestTask.running_step_iff {task : IngestTask} (hkeyed : Keyed task.cache)
    (hrunning : task.running = true) (input : Surroundings × WatchEvent) :
    (task.step input).running = true ↔ Created input.2 := by
  rw [← panic_handleWatchEvent_iff hkeyed input.1 input.2, IngestTask.step, if_pos hrunning]
  exact Option.isNone_iff_eq_none

/-- A step keeps every entry under its own key. -/
theorem IngestTask.keyed_step {task : IngestTask} (hkeyed : Keyed task.cache)
    (input : Surroundings × WatchEvent) : Keyed (task.step input).cache := by
  rw [IngestTask.cache_step]
  split
  · exact hkeyed.handle input.1 input.2
  · exact hkeyed

/-- A run keeps every entry under its own key. -/
theorem IngestTask.keyed_run (inputs : List (Surroundings × WatchEvent)) :
    ∀ {task : IngestTask}, Keyed task.cache → Keyed (task.run inputs).cache := by
  induction inputs with
  | nil => intro task hkeyed; exact hkeyed
  | cons input rest ih => intro task hkeyed; exact ih (task.keyed_step hkeyed input)

omit [UnicodeTables] in
theorem keyed_start : Keyed IngestTask.start.cache :=
  fun k obj hobj => absurd hobj (by simp [IngestTask.start])

/-- **What a run has stored.**  The invariant extends by the events that were handled. -/
theorem Stored.run (inputs : List (Surroundings × WatchEvent)) :
    ∀ {task : IngestTask} {events : List WatchEvent}, Stored task.cache events →
      Keyed task.cache → task.running = true →
      Stored (task.run inputs).cache (events ++ task.handled inputs) := by
  induction inputs with
  | nil =>
      intro task events hstored _ _
      rw [IngestTask.handled, List.append_nil]
      exact hstored
  | cons input rest ih =>
      intro task events hstored hkeyed hrunning
      have hcache : (task.step input).cache =
          (handleWatchEvent input.1 task.cache input.2).cache := by
        rw [IngestTask.cache_step, if_pos hrunning]
      by_cases hcreated : Created input.2
      · have hgoes := (task.running_step_iff hkeyed hrunning input).mpr hcreated
        have hstep : Stored (task.step input).cache (events ++ [input.2]) := by
          rw [hcache]
          exact hstored.handle hkeyed input.1 hcreated
        have hrest := ih hstep (task.keyed_step hkeyed input) hgoes
        rw [List.append_assoc, List.singleton_append] at hrest
        rw [IngestTask.handled, if_pos hgoes]
        exact hrest
      · -- the panic ends the task before the event has changed anything
        have hstops : ¬ (task.step input).running = true := fun hgoes =>
          hcreated ((task.running_step_iff hkeyed hrunning input).mp hgoes)
        have hrest : task.run (input :: rest) = task.step input :=
          IngestTask.run_of_not_running (Bool.eq_false_iff.mpr hstops) rest
        rw [IngestTask.handled, if_neg hstops, List.append_nil, hrest, hcache,
          handleWatchEvent_of_not_created input.1 task.cache hcreated]
        exact hstored

/-- An event that stores something under a key stores the reported object there. -/
theorem wellStored_of_storedBy {we : WatchEvent} {k : String} {o : DynamicObject}
    (hkey : StoresUnder k we = true) (hstores : storedBy we = some o) :
    WellStored k o ∧ ∃ reported,
      (we.command = .add reported ∨ we.command = .update reported) ∧
      KeptAsReported we.resourceUrl reported o := by
  obtain ⟨ver, url, type, command⟩ := we
  cases command with
  | delete | purge | printAll | none => simp [storedBy] at hstores
  | add reported | update reported =>
      obtain rfl : processDynobj reported url = o := Option.some.inj hstores
      obtain rfl : cacheKey reported = k := by simpa [StoresUnder] using hkey
      exact ⟨wellStored_processDynobj reported url, reported, by simp,
        keptAsReported_processDynobj reported url⟩

/-- **Every reachable entry is well stored.**  Whatever events have come, purges included:
an entry is under its own key, without the annotation and managed fields, and otherwise
is the object of the last `Add` or `Update` handled for that key.  And an `Add`, `Update`
or `Delete` leaves the entries of other keys alone. -/
theorem reachable_wellStored :
    (∀ (inputs : List (Surroundings × WatchEvent)) (k : String) (o : DynamicObject),
      (IngestTask.start.run inputs).cache[k]? = some o →
        WellStored k o ∧
          ∃ we reported,
            lastWith (StoresUnder k) (IngestTask.start.handled inputs) = some we ∧
              (we.command = .add reported ∨ we.command = .update reported) ∧
              KeptAsReported we.resourceUrl reported o) ∧
    ∀ (task : IngestTask) (input : Surroundings × WatchEvent) (obj : DynamicObject),
      commandObject input.2.command = some obj →
        ∀ k, k ≠ cacheKey obj → (task.step input).cache[k]? = task.cache[k]? := by
  refine ⟨fun inputs k o ho => ?_, fun task input obj hobj k hk => ?_⟩
  · have hempty : Stored IngestTask.start.cache [] :=
      fun k obj hobj => absurd hobj (by simp [IngestTask.start])
    have hstored := hempty.run inputs keyed_start rfl k o ho
    rw [List.nil_append] at hstored
    obtain ⟨we, hlast, hstores⟩ := Option.bind_eq_some_iff.mp hstored
    obtain ⟨hkey, -⟩ := lastWith_eq_some_iff.mp hlast
    obtain ⟨hshape, reported, hcommand, hkept⟩ := wellStored_of_storedBy hkey hstores
    exact ⟨hshape, we, reported, hlast, hcommand, hkept⟩
  · rw [IngestTask.cache_step]
    split
    · exact getElem?_handleWatchEvent_of_ne input.1 task.cache hobj hk
    · rfl

/-! ## Surviving every event -/

/-- **Ingestion survives** these events: at each one the loop runs and does not panic, and
an event whose object cannot be processed for want of a creation time leaves the cache as
it was and makes no difference to what comes later. -/
structure IngestionSurvives (inputs : List (Surroundings × WatchEvent)) : Prop where
  handles : ∀ front input back, inputs = front ++ input :: back →
    (handleWatchEvent input.1 (IngestTask.start.run front).cache input.2).panic = none
  goesOn : ∀ front back, inputs = front ++ back →
    (IngestTask.start.run front).running = true
  skips : ∀ front input back, inputs = front ++ input :: back → ¬ Created input.2 →
    (IngestTask.start.run (front ++ [input])).cache = (IngestTask.start.run front).cache ∧
      IngestTask.start.run (front ++ input :: back) = IngestTask.start.run (front ++ back)

/-- A task that gets through a list of events still runs. -/
theorem IngestTask.running_run (inputs : List (Surroundings × WatchEvent)) :
    ∀ {task : IngestTask}, Keyed task.cache → task.running = true →
      (∀ input ∈ inputs, Created input.2) → (task.run inputs).running = true := by
  induction inputs with
  | nil => intro task _ hrunning _; exact hrunning
  | cons input rest ih =>
      intro task hkeyed hrunning hcreated
      have hgoes := (task.running_step_iff hkeyed hrunning input).mpr
        (hcreated input List.mem_cons_self)
      exact ih (task.keyed_step hkeyed input) hgoes
        fun i hi => hcreated i (List.mem_cons_of_mem _ hi)

/-- **When ingestion survives.**  Exactly if every `Add`, `Update` and `Delete` is about an
object with a creation time, whatever else the objects have or lack. -/
theorem ingestionSurvives_iff (inputs : List (Surroundings × WatchEvent)) :
    IngestionSurvives inputs ↔ ∀ input ∈ inputs, Created input.2 := by
  constructor
  · intro hsurvives input hinput
    obtain ⟨front, back, hsplit⟩ := List.append_of_mem hinput
    exact (panic_handleWatchEvent_iff (IngestTask.keyed_run front keyed_start) input.1
      input.2).mp (hsurvives.handles front input back hsplit)
  · intro hcreated
    refine ⟨fun front input back hsplit => ?_, fun front back hsplit => ?_,
      fun front input back hsplit hnot => ?_⟩
    · exact (panic_handleWatchEvent_iff (IngestTask.keyed_run front keyed_start) input.1
        input.2).mpr (hcreated input (by simp [hsplit]))
    · exact IngestTask.running_run front keyed_start rfl fun i hi =>
        hcreated i (by simp [hsplit, hi])
    · exact absurd (hcreated input (by simp [hsplit])) hnot

end Invariant

/-! ## An object without a creation time -/

/-- An object without a creation time is added, then one with a creation time. -/
def addedWithoutCreation : List (Surroundings × WatchEvent) :=
  let timeless : DynamicObject :=
    ⟨some ⟨"v1", "Pod"⟩, { ObjectMeta.empty with name := some "t", ns := some "x" },
      .object []⟩
  [quietly "/api/v1/pods" (.add timeless),
    quietly "/api/v1/pods" (.add (namesake "v1" "Pod"))]

/-- **One event ends ingestion.**  The first object makes the loop panic, and the second is
never cached. -/
theorem not_ingestionSurvives_addedWithoutCreation :
    ¬ @IngestionSurvives UnicodeTables.asciiOnly addedWithoutCreation := by
  intro hsurvives
  have hruns := @IngestionSurvives.goesOn UnicodeTables.asciiOnly _ hsurvives
    addedWithoutCreation [] (by simp)
  exact absurd hruns (by decide)

end EntityProvider.Ingest
