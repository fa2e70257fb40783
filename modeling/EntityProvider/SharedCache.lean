import EntityProvider.CacheRefinement

/-!
# The cache under its lock

The ingest task and the HTTP handlers share the cache behind one mutex.  This
module runs them side by side: a `Shared` state holds the cache, whether the mutex
is poisoned, the event channel and where the ingest task is; an `Action` is an event
sent, one step of the task, or a request.

The task handles most events in one step.  A purge takes several: it copies the
cache, obtains a client, asks for one object after another and locks the cache again
to remove what was missing; events and requests may come in between.  `lock().unwrap()`
panics if the mutex is poisoned, and a panic under the lock poisons it.

`Shared.Inv` is what holds in every reachable state: each entry sits under the key of
its own object and has a creation time, and a purge in progress still agrees with the
cache.  Two results about runs rest on it.

* `run_of_purge`: whatever comes in between the steps of a purge, the cache stays as it is
  until the last of them.  That step removes exactly what was reported missing, unless a
  request has poisoned the mutex by then: it panics in this case, and removes nothing.
* `run_requests`: the mutex is poisoned exactly if some request comes at a cache at which
  its handler panics.  Until then the run is the one without the requests.
-/

namespace EntityProvider.Ingest

open Std (ExtTreeMap)
open Kube AxKube Library

/-! ## States and actions -/

/-- Where the ingest task is. -/
inductive Phase where
  /-- It waits on the channel. -/
  | idle
  /-- A purge has copied the cache and waits for the client. -/
  | connecting (api : KubeApi) (objs : List DynamicObject)
  /-- A purge asks for the pending objects; the missing ones are to be removed. -/
  | checking (api : KubeApi) (pending missing : List DynamicObject)
  /-- It has panicked. -/
  | stopped

/-- What the ingest task and the handlers share. -/
structure Shared where
  cache : CacheMap
  poisoned : Bool
  queue : List WatchEvent
  phase : Phase

/-- The state before anything has happened. -/
def Shared.start : Shared := ⟨∅, false, [], .idle⟩

/-- One thing that may happen next; `R` are the requests. -/
inductive Action (R : Type*) where
  /-- A watch or a timer sends an event. -/
  | send (we : WatchEvent)
  /-- The ingest task makes a step. -/
  | task (around : Surroundings)
  /-- A request is handled. -/
  | request (r : R)

/-- Is the action a step of the ingest task? -/
def Action.isTask {R : Type*} : Action R → Bool
  | .task _ => true
  | _ => false

/-- Is the action a request? -/
def Action.isRequest {R : Type*} : Action R → Bool
  | .request _ => true
  | _ => false

/-- The objects in a cache, in key order. -/
def cachedObjects (db : CacheMap) : List DynamicObject := db.toList.map Prod.snd

section Steps

variable [UnicodeTables]

/-- The task takes an event off the channel. -/
def Shared.handle (around : Surroundings) (s : Shared) (we : WatchEvent) : Shared :=
  match we.command with
  | .none => s
  | .purge =>
      if s.poisoned then { s with phase := .stopped }
      else { s with phase := .connecting around.api (cachedObjects s.cache) }
  | _ =>
      -- the age is formatted before the lock is taken
      let handled := handleWatchEvent around s.cache we
      if handled.panic.isSome || s.poisoned then { s with phase := .stopped }
      else { s with cache := handled.cache }

/-- A step of the ingest task. -/
def Shared.advance (around : Surroundings) (s : Shared) : Shared :=
  match s.phase with
  | .stopped => s
  | .idle =>
      match s.queue with
      | [] => s
      | we :: rest => { s with queue := rest }.handle around we
  | .connecting api objs =>
      { s with phase := .checking api (if api.connects then objs else []) [] }
  | .checking api (obj :: pending) missing =>
      { s with
        phase := .checking api pending
          (if reportedMissing api obj then missing ++ [obj] else missing) }
  | .checking _ [] missing =>
      if s.poisoned then { s with phase := .stopped }
      else
        let handled := removeMissing around.now s.cache missing
        match handled.panic with
        | none => { s with cache := handled.cache, phase := .idle }
        | some _ =>
            { s with cache := handled.cache, poisoned := true, phase := .stopped }

omit [UnicodeTables] in
/-- A handler reads the cache under the lock. -/
def Shared.read (s : Shared) (read : CacheMap → Checked Unit) : Shared :=
  if s.poisoned then s
  else
    match read s.cache with
    | .ok _ => s
    | .error _ => { s with poisoned := true }

variable {R : Type*} (access : R → Option (CacheMap → Checked Unit))

/-- What an action does; `access` is what a request does with the cache, if its
handler runs and locks it. -/
def Shared.step (s : Shared) : Action R → Shared
  | .send we => { s with queue := s.queue ++ [we] }
  | .task around => s.advance around
  | .request r =>
      match access r with
      | some read => s.read read
      | none => s

/-- A run of actions. -/
def Shared.run (s : Shared) (actions : List (Action R)) : Shared :=
  actions.foldl (Shared.step access) s

theorem Shared.run_cons (s : Shared) (action : Action R) (actions : List (Action R)) :
    s.run access (action :: actions) = (s.step access action).run access actions := rfl

/-! ## Removing from the cache -/

omit [UnicodeTables] in
theorem getElem?_foldl_erase (objs : List DynamicObject) :
    ∀ (db : CacheMap) (k : String),
      (objs.foldl (fun db obj => db.erase (cacheKey obj)) db)[k]? =
        if ∃ obj ∈ objs, cacheKey obj = k then none else db[k]? := by
  induction objs with
  | nil => intro db k; simp
  | cons obj rest ih =>
      intro db k
      rw [List.foldl_cons, ih, ExtTreeMap.getElem?_erase]
      by_cases hk : cacheKey obj = k
      · simp [hk]
      · simp [hk]

omit [UnicodeTables] in
/-- Removing objects with a creation time gets through. -/
theorem removeMissing_of_created (now : Time) (objs : List DynamicObject) :
    ∀ db : CacheMap, (∀ obj ∈ objs, obj.creationTimestamp.isSome = true) →
      removeMissing now db objs =
        ⟨objs.foldl (fun db obj => db.erase (cacheKey obj)) db, none⟩ := by
  induction objs with
  | nil => intro db _; rfl
  | cons obj rest ih =>
      intro db hcreated
      obtain ⟨created, hc⟩ :=
        Option.isSome_iff_exists.mp (hcreated obj List.mem_cons_self)
      rw [removeMissing, hc, formatCreationSince_some]
      exact ih _ fun o ho => hcreated o (List.mem_cons_of_mem _ ho)

/-- Every entry sits under the key of its own object, which has a creation time. -/
def Keyed (db : CacheMap) : Prop :=
  ∀ k obj, db[k]? = some obj → cacheKey obj = k ∧ obj.creationTimestamp.isSome = true

omit [UnicodeTables] in
theorem mem_cachedObjects {db : CacheMap} {obj : DynamicObject} :
    obj ∈ cachedObjects db ↔ ∃ k : String, db[k]? = some obj := by
  rw [cachedObjects, List.mem_map]
  constructor
  · rintro ⟨⟨k, o⟩, hmem, rfl⟩
    exact ⟨k, ExtTreeMap.mem_toList_iff_getElem?_eq_some.mp hmem⟩
  · rintro ⟨k, hk⟩
    exact ⟨(k, obj), ExtTreeMap.mem_toList_iff_getElem?_eq_some.mpr hk, rfl⟩

omit [UnicodeTables] in
/-- **Removal by key is removal of the entry.**  From a cache with every entry under its
own key, removing some of its objects one by one leaves exactly the entries of the
others. -/
theorem removeMissing_filter {db : CacheMap} (hdb : Keyed db) (now : Time)
    (p : DynamicObject → Bool) :
    removeMissing now db ((cachedObjects db).filter p) =
      ⟨db.filter fun _ obj => !p obj, none⟩ := by
  rw [removeMissing_of_created]
  · congr 1
    apply ExtTreeMap.ext_getElem?
    intro k
    rw [getElem?_foldl_erase, ExtTreeMap.getElem?_filter']
    cases hk : db[k]? with
    | none => simp
    | some obj =>
        have hremoved : (∃ o ∈ (cachedObjects db).filter p, cacheKey o = k) ↔
            p obj = true := by
          constructor
          · rintro ⟨o, ho, hkey⟩
            obtain ⟨hmem, hp⟩ := List.mem_filter.mp ho
            obtain ⟨k', hk'⟩ := mem_cachedObjects.mp hmem
            -- the object's key is where it sits, so it is the one at `k`
            rw [(hdb k' o hk').1.symm.trans hkey, hk] at hk'
            exact Option.some.inj hk' ▸ hp
          · intro hp
            exact ⟨obj, List.mem_filter.mpr ⟨mem_cachedObjects.mpr ⟨k, hk⟩, hp⟩,
              (hdb k obj hk).1⟩
        by_cases hp : p obj = true
        · rw [if_pos (hremoved.mpr hp)]
          simp [Option.filter, hp]
        · rw [if_neg fun hex => hp (hremoved.mp hex)]
          simp [Option.filter, hp]
  · intro obj hobj
    obtain ⟨k, hk⟩ := mem_cachedObjects.mp (List.mem_of_mem_filter hobj)
    exact (hdb k obj hk).2

/-! ## The invariant -/

/-- What holds between steps. -/
structure Shared.Inv (s : Shared) : Prop where
  keyed : Keyed s.cache
  /-- A purge in progress still agrees with the cache: what it has found missing and
  what it still will find is what there is to find in the cache. -/
  purging :
    match s.phase with
    | .connecting _ objs => objs = cachedObjects s.cache
    | .checking api pending missing =>
        missing ++ pending.filter (reportedMissing api) =
          if api.connects then (cachedObjects s.cache).filter (reportedMissing api) else []
    | .idle | .stopped => True

omit [UnicodeTables] in
theorem keyed_erase {db : CacheMap} (hdb : Keyed db) (k : String) : Keyed (db.erase k) := by
  intro k' obj hobj
  rw [ExtTreeMap.getElem?_erase] at hobj
  split at hobj
  · exact absurd hobj (by simp)
  · exact hdb k' obj hobj

omit [UnicodeTables] in
theorem keyed_filter {db : CacheMap} (hdb : Keyed db) (f : String → DynamicObject → Bool) :
    Keyed (db.filter f) := by
  intro k obj hobj
  rw [ExtTreeMap.getElem?_filter', Option.filter_eq_some_iff] at hobj
  exact hdb k obj hobj.1

omit [UnicodeTables] in
theorem keyed_insert {db : CacheMap} (hdb : Keyed db) {obj : DynamicObject}
    (hcreated : obj.creationTimestamp.isSome = true) :
    Keyed (db.insert (cacheKey obj) obj) := by
  intro k obj' hobj'
  rw [ExtTreeMap.getElem?_insert] at hobj'
  split at hobj'
  next hk =>
      obtain rfl := Option.some.inj hobj'
      exact ⟨Std.LawfulEqCmp.compare_eq_iff_eq.mp hk, hcreated⟩
  next => exact hdb k obj' hobj'

/-- An event that is handled in one step keeps every entry under its own key. -/
theorem keyed_handleWatchEvent {around : Surroundings} {db : CacheMap} (hdb : Keyed db)
    {we : WatchEvent} (hpurge : we.command ≠ .purge) :
    Keyed (handleWatchEvent around db we).cache := by
  by_cases hcreated : Created we
  · rw [handleWatchEvent_of_created around db hpurge hcreated]
    obtain ⟨ver, url, type, command⟩ := we
    cases command with
    | add obj | update obj =>
        show Keyed (db.insert (cacheKey (processDynobj obj url)) (processDynobj obj url))
        exact keyed_insert hdb (hcreated obj rfl)
    | delete obj => exact keyed_erase hdb (cacheKey obj)
    | purge => exact absurd rfl hpurge
    | printAll | none => exact hdb
  · rw [handleWatchEvent_of_not_created around db hcreated]
    exact hdb

/-- What a purge makes of a cache: the entries whose object is reported missing are
gone, if there is a client at all. -/
def purged (api : KubeApi) (db : CacheMap) : CacheMap :=
  db.filter fun _ obj => !(api.connects && reportedMissing api obj)

/-- What a purge has found missing when it comes to its end. -/
theorem Shared.Inv.missing_eq {s : Shared} (hs : s.Inv) {api : KubeApi}
    {missing : List DynamicObject} (hphase : s.phase = .checking api [] missing) :
    missing =
      (cachedObjects s.cache).filter fun obj => api.connects && reportedMissing api obj := by
  have hfound := hs.purging
  simp only [hphase, List.filter_nil, List.append_nil] at hfound
  rw [hfound]
  cases api.connects <;> simp

/-- The removal at the end of a purge. -/
theorem Shared.Inv.removeMissing_eq {s : Shared} (hs : s.Inv) {api : KubeApi}
    {missing : List DynamicObject} (hphase : s.phase = .checking api [] missing)
    (now : Time) : removeMissing now s.cache missing = ⟨purged api s.cache, none⟩ := by
  rw [hs.missing_eq hphase, removeMissing_filter hs.keyed]
  rfl

/-- A purge on its own, without anything coming in between, has the same outcome. -/
theorem handleWatchEvent_purge {db : CacheMap} (hdb : Keyed db) (around : Surroundings)
    {we : WatchEvent} (hpurge : we.command = .purge) :
    handleWatchEvent around db we = ⟨purged around.api db, none⟩ := by
  obtain ⟨ver, url, type, command⟩ := we
  obtain rfl : command = .purge := hpurge
  have hmissing : handleWatchEvent around db ⟨ver, url, type, .purge⟩ =
      removeMissing around.now db ((cachedObjects db).filter fun obj =>
        around.api.connects && reportedMissing around.api obj) := by
    cases hconnects : around.api.connects <;>
      simp [handleWatchEvent, checkObjects, hconnects, cachedObjects]
  rw [hmissing, removeMissing_filter hdb]
  rfl

/-- **A step of the task keeps the invariant, and does not poison the mutex.** -/
theorem Shared.Inv.advance {s : Shared} (hs : s.Inv) (around : Surroundings) :
    (s.advance around).Inv ∧ (s.advance around).poisoned = s.poisoned := by
  unfold Shared.advance
  split
  next hphase => exact ⟨hs, rfl⟩
  next hphase =>
    split
    next => exact ⟨hs, rfl⟩
    next we rest hqueue =>
      have hrest : ({ s with queue := rest } : Shared).Inv := ⟨hs.keyed, by simp [hphase]⟩
      unfold Shared.handle
      split
      next => exact ⟨hrest, rfl⟩
      next =>
        split
        next => exact ⟨⟨hs.keyed, trivial⟩, rfl⟩
        next => exact ⟨⟨hs.keyed, rfl⟩, rfl⟩
      next hnone hpurge =>
        dsimp only
        split
        next => exact ⟨⟨hs.keyed, trivial⟩, rfl⟩
        next =>
          refine ⟨⟨keyed_handleWatchEvent hs.keyed fun hcmd => hpurge hcmd, ?_⟩, rfl⟩
          simp [hphase]
  next api objs hphase =>
    have hobjs : objs = cachedObjects s.cache := by simpa [hphase] using hs.purging
    refine ⟨⟨hs.keyed, ?_⟩, rfl⟩
    cases hconnects : api.connects <;> simp [hobjs, hconnects]
  next api obj pending missing hphase =>
    have hfound := hs.purging
    simp only [hphase] at hfound
    refine ⟨⟨hs.keyed, ?_⟩, rfl⟩
    cases hmissing : reportedMissing api obj <;> simpa [hmissing] using hfound
  next api missing hphase =>
    split
    next => exact ⟨⟨hs.keyed, trivial⟩, rfl⟩
    next =>
      -- the removal cannot panic under the lock: every cached object has a creation time
      rw [hs.removeMissing_eq hphase]
      exact ⟨⟨keyed_filter hs.keyed _, trivial⟩, rfl⟩

omit [UnicodeTables] in
theorem Shared.cache_read (s : Shared) (read : CacheMap → Checked Unit) :
    (s.read read).cache = s.cache ∧ (s.read read).phase = s.phase ∧
      (s.read read).queue = s.queue := by
  unfold Shared.read
  split
  · exact ⟨rfl, rfl, rfl⟩
  · split <;> exact ⟨rfl, rfl, rfl⟩

/-- Handling a request changes nothing but whether the mutex is poisoned. -/
theorem Shared.step_request (s : Shared) (r : R) :
    s.step access (.request r) =
      { s with poisoned := (s.step access (.request r)).poisoned } := by
  unfold Shared.step
  dsimp only
  split
  next read _ =>
      obtain ⟨hcache, hphase, hqueue⟩ := s.cache_read read
      rw [← hcache, ← hphase, ← hqueue]
  next => rfl

/-- **Every action keeps the invariant.** -/
theorem Shared.Inv.step {s : Shared} (hs : s.Inv) (action : Action R) :
    (s.step access action).Inv := by
  cases action with
  | send we => exact ⟨hs.keyed, hs.purging⟩
  | task around => exact (hs.advance around).1
  | request r =>
      rw [s.step_request access r]
      exact ⟨hs.keyed, hs.purging⟩

/-- **Every reachable state satisfies the invariant.** -/
theorem Shared.Inv.run {s : Shared} (hs : s.Inv) (actions : List (Action R)) :
    (s.run access actions).Inv := by
  induction actions generalizing s with
  | nil => exact hs
  | cons action rest ih => exact ih (hs.step access action)

/-- A poisoned mutex stays poisoned. -/
theorem poisoned_run_of_poisoned (actions : List (Action R)) :
    ∀ s : Shared, s.Inv → s.poisoned = true → (s.run access actions).poisoned = true := by
  induction actions with
  | nil => intro s _ hpoisoned; exact hpoisoned
  | cons action rest ih =>
      intro s hs hpoisoned
      refine ih _ (hs.step access action) ?_
      cases action with
      | send we => exact hpoisoned
      | task around => exact (hs.advance around).2.trans hpoisoned
      | request r =>
          cases haccess : access r with
          | none => simpa [Shared.step, haccess] using hpoisoned
          | some read => simp [Shared.step, haccess, Shared.read, hpoisoned]

theorem Shared.inv_start : Shared.start.Inv :=
  ⟨fun k obj hobj => absurd hobj (by simp [Shared.start]), trivial⟩

/-! ## A whole purge -/

/-- The API server a purge in progress asks. -/
def Phase.api : Phase → Option KubeApi
  | .connecting api _ => some api
  | .checking api _ _ => some api
  | .idle | .stopped => none

/-- The steps a purge in progress still takes. -/
def Phase.rounds : Phase → ℕ
  | .connecting api objs => (if api.connects then objs.length else 0) + 2
  | .checking _ pending _ => pending.length + 1
  | .idle | .stopped => 0

/-- The steps a purge takes after it has copied the cache. -/
def purgeRounds (api : KubeApi) (db : CacheMap) : ℕ :=
  (if api.connects then db.size else 0) + 2

omit [UnicodeTables] in
theorem Phase.rounds_pos {phase : Phase} {api : KubeApi} (hapi : phase.api = some api) :
    0 < phase.rounds := by
  cases phase with
  | idle | stopped => simp [Phase.api] at hapi
  | connecting api objs | checking api pending missing => exact Nat.succ_pos _

/-- **One step of a purge.**  The last one removes what was found missing and ends the
purge, or finds the mutex poisoned and panics; each of the others leaves the cache alone
and does not look at the mutex. -/
theorem advance_of_purging {s : Shared} (hs : s.Inv) {api : KubeApi}
    (hapi : s.phase.api = some api) (around : Surroundings) :
    (s.phase.rounds = 1 ∧
        s.advance around =
          if s.poisoned then { s with phase := .stopped }
          else { s with cache := purged api s.cache, phase := .idle }) ∨
      ∃ phase : Phase, phase.api = some api ∧ s.phase.rounds = phase.rounds + 1 ∧
        s.advance around = { s with phase := phase } := by
  cases hphase : s.phase with
  | idle => simp [hphase, Phase.api] at hapi
  | stopped => simp [hphase, Phase.api] at hapi
  | connecting api' objs =>
      obtain rfl : api' = api := by simpa [hphase, Phase.api] using hapi
      refine Or.inr ⟨.checking api' (if api'.connects then objs else []) [], rfl, ?_, ?_⟩
      · cases hconnects : api'.connects <;> simp [Phase.rounds, hconnects]
      · simp [Shared.advance, hphase]
  | checking api' pending missing =>
      obtain rfl : api' = api := by simpa [hphase, Phase.api] using hapi
      cases pending with
      | nil =>
          refine Or.inl ⟨rfl, ?_⟩
          have hremove := hs.removeMissing_eq hphase around.now
          simp [Shared.advance, hphase, hremove]
      | cons obj pending =>
          refine Or.inr ⟨.checking api' pending
            (if reportedMissing api' obj then missing ++ [obj] else missing), rfl, rfl, ?_⟩
          simp only [Shared.advance, hphase]

/-- A purge copies the cache, unless the mutex is poisoned. -/
theorem advance_of_purge {s : Shared} (hidle : s.phase = .idle) {we : WatchEvent}
    {rest : List WatchEvent} (hqueue : s.queue = we :: rest) (hpurge : we.command = .purge)
    (around : Surroundings) :
    s.advance around =
      if s.poisoned then { s with queue := rest, phase := .stopped }
      else
        { s with
          queue := rest
          phase := .connecting around.api (cachedObjects s.cache) } := by
  simp [Shared.advance, hidle, hqueue, Shared.handle, hpurge]

variable {access}

/-- **Until its last step a purge leaves the cache alone**, and so does whatever comes in
between: events wait in the channel, and requests only read. -/
theorem run_of_purging {api : KubeApi} (during : List (Action R)) :
    ∀ s : Shared, s.Inv → s.phase.api = some api →
      during.countP Action.isTask < s.phase.rounds →
      (s.run access during).cache = s.cache ∧ (s.run access during).phase.api = some api ∧
        (s.run access during).phase.rounds + during.countP Action.isTask =
          s.phase.rounds := by
  induction during with
  | nil => intro s _ hapi _; exact ⟨rfl, hapi, rfl⟩
  | cons action rest ih =>
      intro s hs hapi hcount
      have hinv := hs.step access action
      rw [Shared.run_cons]
      cases action with
      | send we =>
          rw [List.countP_cons_of_neg (by simp [Action.isTask])] at hcount ⊢
          exact ih { s with queue := s.queue ++ [we] } hinv hapi hcount
      | request r =>
          rw [List.countP_cons_of_neg (by simp [Action.isTask])] at hcount ⊢
          rw [s.step_request access r] at hinv ⊢
          exact ih { s with poisoned := _ } hinv hapi hcount
      | task around =>
          rw [List.countP_cons_of_pos rfl] at hcount ⊢
          have htask : s.step access (.task around) = s.advance around := rfl
          rw [htask] at hinv ⊢
          rcases advance_of_purging hs hapi around with
            ⟨hlast, -⟩ | ⟨phase, hphase, hrounds, hstep⟩
          · -- the last step is not among these
            omega
          · rw [hstep] at hinv ⊢
            obtain ⟨hcache, hapi', hleft⟩ := ih { s with phase := phase } hinv hphase (by
              change rest.countP Action.isTask < phase.rounds
              omega)
            change _ = phase.rounds at hleft
            exact ⟨hcache, hapi', by omega⟩

/-- A task that has panicked does nothing any more, and nobody else changes the cache. -/
theorem run_of_stopped (actions : List (Action R)) :
    ∀ s : Shared, s.phase = .stopped →
      (s.run access actions).phase = .stopped ∧ (s.run access actions).cache = s.cache := by
  induction actions with
  | nil => intro s hstopped; exact ⟨hstopped, rfl⟩
  | cons action rest ih =>
      intro s hstopped
      rw [Shared.run_cons]
      cases action with
      | send we => exact ih { s with queue := s.queue ++ [we] } hstopped
      | request r =>
          rw [s.step_request access r]
          exact ih { s with poisoned := _ } hstopped
      | task around =>
          have hstep : s.step access (.task around) = s := by
            simp [Shared.step, Shared.advance, hstopped]
          rw [hstep]
          exact ih s hstopped

/-- **A purge, whatever comes in between.**  The task takes the purge off the channel, and
`during` are its further steps but the last with everything in between.  The last step
leaves what was not reported missing, and the task is idle again; but if the mutex is
poisoned by then, the task ends with the cache as it was. -/
theorem run_of_purge {s : Shared} (hs : s.Inv) (hidle : s.phase = .idle) {we : WatchEvent}
    {rest : List WatchEvent} (hqueue : s.queue = we :: rest) (hpurge : we.command = .purge)
    (around last : Surroundings) {during : List (Action R)}
    (hcount : during.countP Action.isTask + 1 = purgeRounds around.api s.cache) :
    let t := s.run access (.task around :: during)
    (t.poisoned = false →
        (t.advance last).phase = .idle ∧
          (t.advance last).cache = purged around.api s.cache) ∧
      (t.poisoned = true →
        (t.advance last).phase = .stopped ∧ (t.advance last).cache = s.cache) := by
  intro t
  have hinv : t.Inv := hs.run access (.task around :: during)
  have hrun : t = (s.advance around).run access during := rfl
  cases hpoisoned : s.poisoned with
  | true =>
      -- the lock for copying the cache panics, and the task makes no more steps
      have hdown : t.poisoned = true := poisoned_run_of_poisoned access _ s hs hpoisoned
      obtain ⟨hphase, hcache⟩ : t.phase = .stopped ∧ t.cache = s.cache := by
        rw [hrun, advance_of_purge hidle hqueue hpurge around, if_pos hpoisoned]
        exact run_of_stopped during { s with queue := rest, phase := .stopped } rfl
      have hlast : t.advance last = t := by simp [Shared.advance, hphase]
      rw [hlast]
      exact ⟨fun hup => absurd (hdown.symm.trans hup) (by simp), fun _ => ⟨hphase, hcache⟩⟩
  | false =>
      let copied : Shared :=
        { s with queue := rest, phase := .connecting around.api (cachedObjects s.cache) }
      have hrounds : copied.phase.rounds = purgeRounds around.api s.cache := by
        simp [copied, Phase.rounds, purgeRounds, cachedObjects, ExtTreeMap.length_toList]
      obtain ⟨hcache, hapi, hleft⟩ : t.cache = s.cache ∧ t.phase.api = some around.api ∧
          t.phase.rounds + during.countP Action.isTask = copied.phase.rounds := by
        rw [hrun, advance_of_purge hidle hqueue hpurge around, if_neg (by simp [hpoisoned])]
        exact run_of_purging during copied ⟨hs.keyed, rfl⟩ rfl (by omega)
      rcases advance_of_purging hinv hapi last with ⟨-, hlast⟩ | ⟨phase, hphase, hmore, -⟩
      · rw [hlast]
        exact ⟨fun hup => by simp [hup, hcache], fun hdown => by simp [hdown, hcache]⟩
      · -- only one step is left
        have hpos := Phase.rounds_pos hphase
        omega

/-! ## Requests that may panic -/

omit [UnicodeTables] in
theorem Shared.read_of_ok {s : Shared} {read : CacheMap → Checked Unit} {u : Unit}
    (hread : read s.cache = .ok u) : s.read read = s := by
  unfold Shared.read
  rw [hread]
  split <;> rfl

omit [UnicodeTables] in
theorem Shared.poisoned_read_of_error {s : Shared} {read : CacheMap → Checked Unit}
    {why : Panic} (hread : read s.cache = .error why) : (s.read read).poisoned = true := by
  unfold Shared.read
  rw [hread]
  split
  next hpoisoned => exact hpoisoned
  next => rfl

/-- A request that returns leaves everything as it is. -/
theorem step_request_of_ok {s : Shared} {r : R}
    (hok : ∀ read, access r = some read → ∃ u, read s.cache = .ok u) :
    s.step access (.request r) = s := by
  cases haccess : access r with
  | none => simp [Shared.step, haccess]
  | some read =>
      obtain ⟨u, hu⟩ := hok read haccess
      simp [Shared.step, haccess, Shared.read_of_ok hu]

variable (access) in
/-- Every request of the run comes at a cache that `ok` allows for it. -/
def RequestsMeet (ok : R → CacheMap → Prop) : Shared → List (Action R) → Prop
  | _, [] => True
  | s, action :: rest =>
      (∀ r, action = .request r → ok r s.cache) ∧
        RequestsMeet ok (s.step access action) rest

variable (access) in
/-- What a request does with the cache under the lock, if anything, returns exactly at the
caches that `ok` allows for it. -/
def ReturnsWhen (ok : R → CacheMap → Prop) : Prop :=
  ∀ r db, (∀ read, access r = some read → ∃ u, read db = .ok u) ↔ ok r db

/-- Whatever requests come at a cache that is allowed for all of them. -/
theorem requestsMeet_of_forall {ok : R → CacheMap → Prop} (hok : ∀ r db, ok r db)
    (actions : List (Action R)) : ∀ s : Shared, RequestsMeet access ok s actions := by
  induction actions with
  | nil => exact fun _ => trivial
  | cons action rest ih => exact fun s => ⟨fun r _ => hok r s.cache, ih _⟩

/-- A request at a cache that is not allowed for it poisons the mutex. -/
theorem poisoned_step_request {ok : R → CacheMap → Prop} (hreturns : ReturnsWhen access ok)
    {s : Shared} {r : R} (hnot : ¬ ok r s.cache) :
    (s.step access (.request r)).poisoned = true := by
  rw [← hreturns] at hnot
  push Not at hnot
  obtain ⟨read, hread, hpanics⟩ := hnot
  have hstep : s.step access (.request r) = s.read read := by simp [Shared.step, hread]
  rw [hstep]
  cases hresult : read s.cache with
  | ok u => exact absurd hresult (hpanics u)
  | error why => exact Shared.poisoned_read_of_error hresult

/-- **When requests are safe.**  The mutex is not poisoned exactly if every request comes at
a cache that is allowed for it, and then the run is the one without the requests. -/
theorem run_requests {ok : R → CacheMap → Prop} (hreturns : ReturnsWhen access ok)
    (actions : List (Action R)) :
    ∀ s : Shared, s.Inv → s.poisoned = false →
      ((s.run access actions).poisoned = false ↔ RequestsMeet access ok s actions) ∧
      (RequestsMeet access ok s actions →
        s.run access actions =
          s.run access (actions.filter fun action => !action.isRequest)) := by
  induction actions with
  | nil => intro s _ hpoisoned; exact ⟨⟨fun _ => trivial, fun _ => hpoisoned⟩, fun _ => rfl⟩
  | cons action rest ih =>
      intro s hs hpoisoned
      have hinv := hs.step access action
      cases hrequest : action.isRequest with
      | false =>
          have hpoisoned' : (s.step access action).poisoned = false := by
            cases action with
            | send we => exact hpoisoned
            | task around => exact (hs.advance around).2.trans hpoisoned
            | request r => simp [Action.isRequest] at hrequest
          have hnone : ∀ r, action = .request r → ok r s.cache := by
            rintro r rfl
            simp [Action.isRequest] at hrequest
          obtain ⟨hiff, hsame⟩ := ih _ hinv hpoisoned'
          rw [List.filter_cons_of_pos (by simp [hrequest]), Shared.run_cons, Shared.run_cons,
            RequestsMeet]
          exact ⟨hiff.trans ⟨fun hrest => ⟨hnone, hrest⟩, And.right⟩,
            fun hall => hsame hall.2⟩
      | true =>
          -- a request: it is dropped on the right, so it must do nothing on the left
          obtain ⟨r, rfl⟩ : ∃ r, action = .request r := by
            cases action <;> simp_all [Action.isRequest]
          rw [List.filter_cons_of_neg (by simp [hrequest]), Shared.run_cons, RequestsMeet]
          by_cases hok : ok r s.cache
          · rw [step_request_of_ok ((hreturns r s.cache).mpr hok)]
            obtain ⟨hiff, hsame⟩ := ih s hs hpoisoned
            refine ⟨hiff.trans ⟨fun hrest => ⟨?_, hrest⟩, And.right⟩,
              fun hall => hsame hall.2⟩
            intro r' hr'
            obtain rfl := Action.request.inj hr'
            exact hok
          · -- the panic poisons the mutex, and nothing in the rest of the run repairs it
            have hdown := poisoned_run_of_poisoned access rest _ hinv
              (poisoned_step_request hreturns hok)
            refine ⟨⟨fun hup => ?_, fun hall => absurd (hall.1 r rfl) hok⟩,
              fun hall => absurd (hall.1 r rfl) hok⟩
            exact absurd (hdown.symm.trans hup) (by simp)

end Steps

end EntityProvider.Ingest
