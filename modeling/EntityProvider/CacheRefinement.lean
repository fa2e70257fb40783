import EntityProvider.Backstage.Ingest

/-!
# What the cache holds

The ingest loop only ever inserts and removes, so between purges the cache is a
last-writer-wins map over cache keys: `run_cache_eq_replay` says that the task's
cache is the replay of one write per handled event, and
`cache_refines_keyed_map` reads off what each key holds.

The keys are namespaces and names.  They do not tell API resources apart, so the
cache is *not* a map over object identities: two objects of different kinds that
share a namespace and a name share an entry
(`not_refinesIdentityMap_podThenDeployment`).
-/

namespace EntityProvider.Ingest

open Kube AxKube Library

section Writes

variable [UnicodeTables]

/-- The write an event makes to the cache. -/
def writeOf (we : WatchEvent) : Option (Write String DynamicObject) :=
  match we.command with
  | .add o | .update o =>
      some (.put (cacheKey (processDynobj o we.resourceUrl)) (processDynobj o we.resourceUrl))
  | .delete o => some (.remove (cacheKey o))
  | _ => none

/-- Is the event an `Add`, `Update` or `Delete` of an object with cache key `k`? -/
def AboutKey (k : String) (we : WatchEvent) : Bool :=
  match we.command with
  | .add o | .update o | .delete o => cacheKey o = k
  | _ => false

/-- The object an `Add`, `Update` or `Delete` is about. -/
def commandObject : WatchCommand → Option DynamicObject
  | .add o | .update o | .delete o => some o
  | _ => none

/-- Does the object that the event is about, if there is one, have a creation time? -/
def Created (we : WatchEvent) : Prop :=
  ∀ o, commandObject we.command = some o → o.creationTimestamp.isSome = true

/-- The object an `Add` or `Update` stores. -/
def storedBy (we : WatchEvent) : Option DynamicObject :=
  match we.command with
  | .add o | .update o => some (processDynobj o we.resourceUrl)
  | _ => none

/-- Processing an object does not move it to another key. -/
@[simp] theorem cacheKey_processDynobj (o : DynamicObject) (resUrl : String) :
    cacheKey (processDynobj o resUrl) = cacheKey o := rfl

theorem writesTo_writeOf (k : String) (we : WatchEvent) :
    WritesTo writeOf k we = AboutKey k we := by
  unfold WritesTo writeOf AboutKey
  cases we.command <;> rfl

theorem writeOf_bind_value (we : WatchEvent) :
    (writeOf we).bind Write.value = storedBy we := by
  unfold writeOf storedBy
  cases we.command <;> simp

/-! ## One event -/

/-- The events a task gets through: those before the one it panics on. -/
def IngestTask.handled (task : IngestTask) :
    List (Surroundings × WatchEvent) → List WatchEvent
  | [] => []
  | input :: rest =>
      if (task.step input).running then input.2 :: (task.step input).handled rest else []

/-- **One handled event is one write**, short of a purge, if its object has a creation
time. -/
theorem handleWatchEvent_of_created (around : Surroundings) (cache : CacheMap)
    {we : WatchEvent} (hpurge : we.command ≠ .purge) (hcreated : Created we) :
    handleWatchEvent around cache we = ⟨replay writeOf cache [we], none⟩ := by
  obtain ⟨ver, url, type, command⟩ := we
  cases command with
  | add o | update o | delete o =>
      -- the creation time is all that these branches unwrap
      obtain ⟨created, hc⟩ := Option.isSome_iff_exists.mp (hcreated o rfl)
      simp [handleWatchEvent, replay, writeOf, Write.apply, hc]
  | purge => exact absurd rfl hpurge
  | printAll | none => rfl

/-- An event whose object has no creation time makes the loop panic, before it writes. -/
theorem handleWatchEvent_of_not_created (around : Surroundings) (cache : CacheMap)
    {we : WatchEvent} (hnot : ¬ Created we) :
    handleWatchEvent around cache we = ⟨cache, some .unwrapNone⟩ := by
  obtain ⟨ver, url, type, command⟩ := we
  cases command with
  | add o | update o | delete o =>
      have hnone : o.creationTimestamp = none := by
        rw [← Option.not_isSome_iff_eq_none]
        intro hsome
        exact hnot fun o' ho' => Option.some.inj ho' ▸ hsome
      simp [handleWatchEvent, hnone]
  | purge | printAll | none =>
      exact absurd (fun _ ho => absurd ho (by simp [commandObject])) hnot

/-- An event that does not make the loop panic performs its write; one that does leaves
the cache alone. -/
theorem handleWatchEvent_cache (around : Surroundings) (cache : CacheMap)
    {we : WatchEvent} (hpurge : we.command ≠ .purge) :
    (handleWatchEvent around cache we).cache =
      if (handleWatchEvent around cache we).panic = none then
        replay writeOf cache [we]
      else cache := by
  by_cases hcreated : Created we
  · rw [handleWatchEvent_of_created around cache hpurge hcreated, if_pos rfl]
  · rw [handleWatchEvent_of_not_created around cache hcreated, if_neg (by simp)]

/-! ## Whole runs -/

/-- A task that has stopped handles nothing more. -/
theorem IngestTask.run_of_not_running {task : IngestTask} (h : task.running = false)
    (inputs : List (Surroundings × WatchEvent)) : task.run inputs = task := by
  induction inputs with
  | nil => rfl
  | cons input rest ih =>
      have hstep : task.step input = task := by simp [IngestTask.step, h]
      simpa [IngestTask.run, hstep] using ih

/-- Short of purges, the cache of a run is the replay of the handled events. -/
theorem run_cache_eq_replay (inputs : List (Surroundings × WatchEvent)) :
    ∀ (task : IngestTask), task.running = true →
      (∀ input ∈ inputs, input.2.command ≠ .purge) →
      (task.run inputs).cache = replay writeOf task.cache (task.handled inputs) := by
  induction inputs with
  | nil => intro task _ _; rfl
  | cons input rest ih =>
      intro task hrun hpurge
      have hcache := handleWatchEvent_cache input.1 task.cache
        (hpurge input List.mem_cons_self)
      have hstep : task.step input =
          ⟨(handleWatchEvent input.1 task.cache input.2).cache,
            (handleWatchEvent input.1 task.cache input.2).panic.isNone⟩ := by
        simp [IngestTask.step, hrun]
      cases hpanic : (handleWatchEvent input.1 task.cache input.2).panic with
      | none =>
          rw [if_pos hpanic] at hcache
          have hrunning : (task.step input).running = true := by simp [hstep, hpanic]
          have hrest := ih (task.step input) hrunning
            (fun i hi => hpurge i (List.mem_cons_of_mem _ hi))
          rw [IngestTask.handled, if_pos hrunning]
          calc
            (task.run (input :: rest)).cache = ((task.step input).run rest).cache := rfl
            _ = replay writeOf (task.step input).cache ((task.step input).handled rest) :=
              hrest
            _ = replay writeOf task.cache (input.2 :: (task.step input).handled rest) := by
              simp only [hstep, hcache, replay]
      | some why =>
          -- the panic ends the task: this event wrote nothing, and no later one is handled
          rw [if_neg (by simp [hpanic])] at hcache
          have hstopped : (task.step input).running = false := by simp [hstep, hpanic]
          have hrest : task.run (input :: rest) = task.step input :=
            IngestTask.run_of_not_running hstopped rest
          rw [IngestTask.handled, if_neg (by simp [hstopped]), hrest, hstep]
          simpa using hcache

/-- **What a key holds after a run without purges**: what the last handled event about it
stored; and if no such event was handled, what it held before. -/
theorem getElem?_run (inputs : List (Surroundings × WatchEvent)) {task : IngestTask}
    (hrunning : task.running = true) (hpurge : ∀ input ∈ inputs, input.2.command ≠ .purge)
    (k : String) :
    (task.run inputs).cache[k]? =
      ((lastWith (AboutKey k) (task.handled inputs)).map storedBy).getD task.cache[k]? := by
  rw [run_cache_eq_replay inputs task hrunning hpurge, getElem?_replay,
    funext (writesTo_writeOf k)]
  cases lastWith (AboutKey k) (task.handled inputs) with
  | none => rfl
  | some we => simp [writeOf_bind_value]

/-- Events whose objects carry a creation time, as everything the API server
stores does, never make the loop panic: all of them are handled. -/
theorem handled_eq_of_created (inputs : List (Surroundings × WatchEvent)) :
    ∀ (task : IngestTask), task.running = true →
      (∀ input ∈ inputs, input.2.command ≠ .purge) →
      (∀ input ∈ inputs, Created input.2) →
      task.handled inputs = inputs.map Prod.snd := by
  induction inputs with
  | nil => intro task _ _ _; rfl
  | cons input rest ih =>
      intro task hrun hpurge hcreated
      have hhandled := handleWatchEvent_of_created input.1 task.cache
        (hpurge input List.mem_cons_self) (hcreated input List.mem_cons_self)
      have hrunning : (task.step input).running = true := by
        simp [IngestTask.step, hrun, hhandled]
      rw [IngestTask.handled, if_pos hrunning, List.map_cons,
        ih _ hrunning (fun i hi => hpurge i (List.mem_cons_of_mem _ hi))
          (fun i hi => hcreated i (List.mem_cons_of_mem _ hi))]

/-- **The cache refines a map over namespaces and names.**  After any run of
`Add`, `Update`, `Delete` and `PrintAll` events, a key holds an object exactly if
the last handled event about that key was an `Add` or an `Update`, and then it
holds that event's object as `process_dynobj` left it.  Events about other keys
have no part in it. -/
theorem cache_refines_keyed_map (inputs : List (Surroundings × WatchEvent))
    (hpurge : ∀ input ∈ inputs, input.2.command ≠ .purge) (k : String) :
    (IngestTask.start.run inputs).cache[k]? =
      (lastWith (AboutKey k) (IngestTask.start.handled inputs)).bind storedBy := by
  rw [getElem?_run inputs rfl hpurge]
  cases lastWith (AboutKey k) (IngestTask.start.handled inputs) with
  | none => simp [IngestTask.start]
  | some we => rfl

end Writes

/-! ## Object identities share keys -/

/-- What makes two objects the same object: the API resource (the types the
object carries or its resource URL gives), the namespace and the name. -/
structure ObjectIdentity where
  resource : Option TypeMeta
  ns : Option String
  name : String
  deriving DecidableEq

/-- The identity of a cached object. -/
def ObjectIdentity.of (o : DynamicObject) : ObjectIdentity where
  resource := o.types
  ns := o.metadata.ns
  name := o.nameAny

/-- The key an object of this identity is cached under. -/
def ObjectIdentity.key (id : ObjectIdentity) : String :=
  id.ns.getD "none" ++ "/" ++ id.name

/-- Retrieve an object from a cache: the entry under its key, if that is it. -/
def retrieve (cache : CacheMap) (id : ObjectIdentity) : Option DynamicObject :=
  cache[id.key]?.filter fun o => ObjectIdentity.of o = id

section Identities

variable [UnicodeTables]

/-- Is the event an `Add`, `Update` or `Delete` of the object `id`? -/
def AboutIdentity (id : ObjectIdentity) (we : WatchEvent) : Bool :=
  match we.command with
  | .add o | .update o | .delete o =>
      ObjectIdentity.of (processDynobj o we.resourceUrl) = id
  | _ => false

/-- The cache after a run refines a map keyed by object identity: each object is
retrievable exactly if the last event about it was an `Add` or an `Update`, and
then as that event left it. -/
def RefinesIdentityMap (inputs : List (Surroundings × WatchEvent)) : Prop :=
  ∀ id : ObjectIdentity,
    retrieve (IngestTask.start.run inputs).cache id =
      (lastWith (AboutIdentity id) (IngestTask.start.handled inputs)).bind storedBy

end Identities

/-- An object of the given types called `a` in namespace `x`. -/
def namesake (apiVersion kind : String) : DynamicObject where
  types := some ⟨apiVersion, kind⟩
  metadata :=
    { ObjectMeta.empty with name := some "a", ns := some "x", creationTimestamp := some 0 }
  data := .object []

/-- A Pod of the given name in namespace `x`. -/
def podNamed (name : String) : DynamicObject where
  types := some ⟨"v1", "Pod"⟩
  metadata :=
    { ObjectMeta.empty with name := some name, ns := some "x", creationTimestamp := some 0 }
  data := .object []

/-- An event of the watch with this resource URL, in quiet surroundings. -/
def quietly (resourceUrl : String) (command : WatchCommand) : Surroundings × WatchEvent :=
  (⟨0, ⟨true, fun _ => .found⟩⟩, ⟨"1.31", resourceUrl, "", command⟩)

/-- A Pod is added, then a Deployment of the same namespace and name. -/
def podThenDeployment : List (Surroundings × WatchEvent) :=
  [quietly "/api/v1/pods" (.add (namesake "v1" "Pod")),
    quietly "/apis/apps/v1/deployments" (.add (namesake "apps/v1" "Deployment"))]

/-- **Identities collide.**  The Deployment's `Add` overwrites the Pod, which is no
longer retrievable although its own last event was an `Add`. -/
theorem not_refinesIdentityMap_podThenDeployment :
    ¬ @RefinesIdentityMap UnicodeTables.asciiOnly podThenDeployment := by
  intro h
  have hpod := congrArg Option.isSome (h ⟨some ⟨"v1", "Pod"⟩, some "x", "a"⟩)
  revert hpod
  decide

/-- After both events the shared key holds what the last of them stored. -/
theorem cache_refines_keyed_map_podThenDeployment :
    (∀ input ∈ podThenDeployment, input.2.command ≠ .purge) ∧
      letI := UnicodeTables.asciiOnly
      (IngestTask.start.run podThenDeployment).cache["x/a"]? =
        (lastWith (AboutKey "x/a") (IngestTask.start.handled podThenDeployment)).bind
          storedBy := by
  have hpurge : ∀ input ∈ podThenDeployment, input.2.command ≠ .purge := by
    simp [podThenDeployment, quietly]
  exact ⟨hpurge, @cache_refines_keyed_map UnicodeTables.asciiOnly _ hpurge "x/a"⟩

end EntityProvider.Ingest
