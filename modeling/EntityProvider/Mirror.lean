import EntityProvider.EventPipeline
import EntityProvider.Library.Sweeps
import EntityProvider.PipelineProgress

/-!
# The cache as a mirror of the streams

What the cache holds after any schedule of the provider, with everything that can come in
between: other watches, a full channel, purges, requests.

`Provider.log` lists what the ingest task has done to the cache, a write for each handled
event and a sweep at the end of each purge.  `cache_refines_log` says that the cache is
what comes of carrying out this log, and that the writes are those of the events taken
from the channel, in their order, as long as the task runs.

From it, `mirrors_watch`: once the provider is drained, an object of which only one watch
reports is cached as the last event of that watch about it left it, unless a later purge
found it missing.  `mirror_unique` puts it together for all keys: with each key in the
hands of one watch, and no purge finding anything missing, all schedules end with the
same cache.  What is cached at the time of a purge is all that counts for this
(`undisturbed_log_iff`); a purge may well be told that other objects are not there.
-/

namespace EntityProvider.Ingest

open Std (ExtTreeMap)
open Kube AxKube Library

variable {n : ℕ}

/-! ## The log of the ingest task -/

section Log

variable [UnicodeTables]

/-- What a purge leaves in the cache. -/
def keptByPurge (api : KubeApi) (obj : DynamicObject) : Bool :=
  !(api.connects && reportedMissing api obj)

/-- What a step of the ingest task does to the cache: the write of an event that it gets
through, or the sweep at the end of a purge. -/
def Shared.logEntry (around : Surroundings) (s : Shared) :
    Option (Entry String DynamicObject) :=
  match s.phase with
  | .idle =>
      match s.queue with
      | [] => none
      | we :: _ =>
          if (s.advance around).phase.isStopped then none else (writeOf we).map .write
  | .checking api [] _ => if s.poisoned then none else some (.sweep (keptByPurge api))
  | _ => none

/-- The write of one event, as a log. -/
theorem replay_singleton (db : CacheMap) (we : WatchEvent) :
    replay writeOf db [we] = carryOut db ((writeOf we).map Entry.write).toList := by
  cases hw : writeOf we <;> simp [replay, hw, carryOut, Entry.apply]

/-- An event other than a purge: a panic ends the task, and else its write is made. -/
theorem Shared.handle_of_not_purge (s : Shared) (around : Surroundings) {we : WatchEvent}
    (hpurge : we.command ≠ .purge) :
    (s.handle around we).phase = .stopped ∧ (s.handle around we).cache = s.cache ∨
      (s.handle around we).phase = s.phase ∧
        (s.handle around we).cache =
          carryOut s.cache ((writeOf we).map Entry.write).toList := by
  have hcache := handleWatchEvent_cache around s.cache hpurge
  rw [replay_singleton] at hcache
  unfold Shared.handle
  split
  next hnone => exact Or.inr ⟨rfl, by simp [writeOf, hnone, carryOut]⟩
  next h => exact absurd h hpurge
  next =>
    dsimp only
    split
    next => exact Or.inl ⟨rfl, rfl⟩
    next hok =>
      have hpanic : (handleWatchEvent around s.cache we).panic = none := by
        simp only [Bool.or_eq_true, not_or, Bool.not_eq_true, Option.isSome_eq_false_iff,
          Option.isNone_iff_eq_none] at hok
        exact hok.1
      rw [if_pos hpanic] at hcache
      exact Or.inr ⟨rfl, hcache⟩

/-- **Handling an event** makes its write, or ends the task. -/
theorem Shared.cache_handle {s : Shared} (hidle : s.phase = .idle) (around : Surroundings)
    (we : WatchEvent) :
    (s.handle around we).cache = carryOut s.cache
      (if (s.handle around we).phase.isStopped then none
        else (writeOf we).map Entry.write).toList := by
  by_cases hpurge : we.command = .purge
  · have hwrite : writeOf we = none := by simp [writeOf, hpurge]
    have hcache : (s.handle around we).cache = s.cache := by
      simp only [Shared.handle, hpurge]
      split <;> rfl
    rw [hcache, hwrite, Option.map_none, ite_self]
    rfl
  · rcases s.handle_of_not_purge around hpurge with ⟨hphase, hcache⟩ | ⟨hphase, hcache⟩
    · simp [hcache, hphase, Phase.isStopped, carryOut]
    · simp [hcache, hphase, hidle, Phase.isStopped]

/-- **A step of the ingest task** carries out its entry. -/
theorem Shared.Inv.cache_advance {s : Shared} (hs : s.Inv) (around : Surroundings) :
    (s.advance around).cache = carryOut s.cache (s.logEntry around).toList := by
  unfold Shared.logEntry
  split
  next hphase =>
    cases hqueue : s.queue with
    | nil => simp [Shared.advance, hphase, hqueue, carryOut]
    | cons we rest =>
        have hadvance : s.advance around =
            ({ s with queue := rest } : Shared).handle around we := by
          simp [Shared.advance, hphase, hqueue]
        rw [hadvance]
        exact Shared.cache_handle (s := { s with queue := rest }) hphase around we
  next api missing hphase =>
    cases hpoisoned : s.poisoned with
    | true => simp [Shared.advance, hphase, hpoisoned, carryOut]
    | false =>
        have hremove := hs.removeMissing_eq hphase around.now
        simp [Shared.advance, hphase, hpoisoned, hremove, carryOut, Entry.apply, purged,
          keptByPurge]
  next hidle hlast =>
    have hsame : (s.advance around).cache = s.cache := by
      unfold Shared.advance
      split
      next => rfl
      next hphase => exact absurd hphase hidle
      next => rfl
      next => rfl
      next api missing hphase => exact absurd hphase (hlast api missing)
    simpa [carryOut] using hsame

variable (k8sVer : String) (plan : Fin n → ApiWithSelectors)
variable {R : Type*} (access : R → Option (CacheMap → Checked Unit))

/-- What an occurrence does to the cache. -/
def Provider.logEntry (p : Provider n) : Occurrence n R → Option (Entry String DynamicObject)
  | .task around => p.shared.logEntry around
  | _ => none

/-- What a schedule does to the cache, oldest first. -/
def Provider.log (p : Provider n) : List (Occurrence n R) → List (Entry String DynamicObject)
  | [] => []
  | occ :: rest => (p.logEntry occ).toList ++ (p.step k8sVer plan access occ).log rest

theorem Provider.log_concat (schedule : List (Occurrence n R)) (occ : Occurrence n R) :
    ∀ p : Provider n, p.log k8sVer plan access (schedule ++ [occ]) =
      p.log k8sVer plan access schedule ++
        ((p.run k8sVer plan access schedule).logEntry occ).toList := by
  induction schedule with
  | nil => intro p; simp [Provider.log, Provider.run]
  | cons first rest ih =>
      intro p
      simp only [List.cons_append, Provider.log, ih, List.append_assoc]
      rfl

variable {k8sVer plan} {streams : Fin n → List StreamItem} {p : Provider n}

/-- An occurrence changes the cache by its entry. -/
theorem Provider.Inv.cache_step (hp : p.Inv k8sVer plan streams) (occ : Occurrence n R) :
    (p.step k8sVer plan access occ).cache = carryOut p.cache (p.logEntry occ).toList := by
  cases occ with
  | reads i =>
      rcases p.reads_cases k8sVer plan i with heq | ⟨item, rest, -, -, heq⟩ <;>
        rw [Provider.step, heq] <;> rfl
  | pollTick => rfl
  | purgeTick => rfl
  | feeds f => rfl
  | task around =>
      have hcache : (p.advance around).cache = (p.shared.advance around).cache :=
        congrArg Shared.cache (p.shared_advance around)
      exact hcache.trans (hp.shared.cache_advance around)
  | request r => rfl

/-- In the middle of a purge the task writes nothing. -/
theorem Shared.logEntry_of_busy {s : Shared} (hbusy : s.phase ≠ .idle)
    (around : Surroundings) :
    (s.logEntry around).toList.filterMap Entry.write? = [] := by
  unfold Shared.logEntry
  split
  next hidle => exact absurd hidle hbusy
  next => split <;> rfl
  next => rfl

/-- A step of the task takes the event that its entry is about. -/
theorem Provider.taken_advance {around : Surroundings}
    (hrunning : (p.advance around).phase.isStopped = false) :
    (p.advance around).pipe.taken.filterMap writeOf =
      p.pipe.taken.filterMap writeOf ++
        (p.shared.logEntry around).toList.filterMap Entry.write? := by
  have hphase : (p.advance around).phase = (p.shared.advance around).phase :=
    congrArg Shared.phase (p.shared_advance around)
  by_cases hidle : p.phase = .idle
  · cases htake : p.pipe.take? with
    | none =>
        have hempty := Pipeline.take?_eq_none_iff.mp htake
        rw [Provider.advance_of_empty hidle htake]
        simp [Shared.logEntry, Provider.shared, hidle, hempty]
    | some received =>
        obtain ⟨we, pipe⟩ := received
        obtain ⟨channel, hmessages, -⟩ := Pipeline.take?_eq_some htake
        have hentry : p.shared.logEntry around = (writeOf we).map Entry.write := by
          rw [hphase] at hrunning
          simp only [Shared.logEntry, Provider.shared, hidle, hmessages] at hrunning ⊢
          simp [hrunning]
        rw [Provider.taken_advance_of_take hidle htake, hentry, List.filterMap_append]
        cases hwrite : writeOf we <;> simp [hwrite, Entry.write?]
  · rw [Provider.advance_of_busy hidle, Provider.taken_settle,
      Shared.logEntry_of_busy (s := p.shared) hidle, List.append_nil]

/-- An occurrence that takes an event takes the one its entry is about. -/
theorem Provider.taken_step (occ : Occurrence n R)
    (hrunning : (p.step k8sVer plan access occ).phase.isStopped = false) :
    (p.step k8sVer plan access occ).pipe.taken.filterMap writeOf =
      p.pipe.taken.filterMap writeOf ++ (p.logEntry occ).toList.filterMap Entry.write? := by
  cases occ with
  | reads i =>
      rcases p.reads_cases k8sVer plan i with heq | ⟨item, rest, -, -, heq⟩ <;>
        simp [Provider.step, heq, Provider.logEntry]
  | pollTick => simp [Provider.step, Provider.logEntry]
  | purgeTick => simp [Provider.step, Provider.logEntry]
  | feeds f => simp [Provider.step, Provider.logEntry]
  | task around => exact Provider.taken_advance hrunning
  | request r => simp [Provider.step, Provider.logEntry]

/-- A task that runs has been running before. -/
theorem Provider.Inv.running_of_step (hp : p.Inv k8sVer plan streams) {occ : Occurrence n R}
    (hrunning : (p.step k8sVer plan access occ).phase.isStopped = false) :
    p.phase.isStopped = false := by
  cases hstopped : p.phase.isStopped with
  | false => rfl
  | true =>
      have hfrozen : p.Frozen (p.step k8sVer plan access occ) :=
        p.frozen_step access (Phase.isStopped_iff.mp hstopped) (hp.closed.trans hstopped) occ
      rw [hfrozen.phase] at hrunning
      exact absurd hrunning (by simp [Phase.isStopped])

variable (k8sVer plan)

/-- The cache is what comes of the log. -/
theorem Provider.cache_eq_carryOut (streams : Fin n → List StreamItem)
    (schedule : List (Occurrence n R)) :
    ((Provider.start streams).run k8sVer plan access schedule).cache =
      carryOut ∅ ((Provider.start streams).log k8sVer plan access schedule) := by
  induction schedule using List.reverseRecOn with
  | nil => rfl
  | append_singleton schedule occ ih =>
      have hp : (Provider.run k8sVer plan access (Provider.start streams) schedule).Inv k8sVer
          plan streams := Provider.inv_run k8sVer plan access streams schedule
      rw [Provider.run_append, Provider.log_concat, carryOut_append, ← ih]
      exact hp.cache_step access occ

/-- While the task runs, the writes of the log are those of the events it has taken. -/
theorem Provider.writes_log (streams : Fin n → List StreamItem)
    (schedule : List (Occurrence n R)) :
    ((Provider.start streams).run k8sVer plan access schedule).phase.isStopped = false →
      ((Provider.start streams).log k8sVer plan access schedule).filterMap Entry.write? =
        ((Provider.start streams).run k8sVer plan access schedule).pipe.taken.filterMap
          writeOf := by
  induction schedule using List.reverseRecOn with
  | nil => exact fun _ => rfl
  | append_singleton schedule occ ih =>
      have hp : (Provider.run k8sVer plan access (Provider.start streams) schedule).Inv k8sVer
          plan streams := Provider.inv_run k8sVer plan access streams schedule
      rw [Provider.run_append, Provider.log_concat]
      intro hrunning
      rw [List.filterMap_append, ih (hp.running_of_step access hrunning)]
      exact (Provider.taken_step access occ hrunning).symm

/-- **The cache refines the log.**  Whatever the schedule, the cache is what comes of the
writes and sweeps of the ingest task, in their order; and while the task runs, the writes
are those of the events it has taken from the channel, in their order. -/
theorem cache_refines_log (streams : Fin n → List StreamItem)
    (schedule : List (Occurrence n R)) :
    let p := (Provider.start streams).run k8sVer plan access schedule
    let log := (Provider.start streams).log k8sVer plan access schedule
    p.cache = carryOut ∅ log ∧
      (p.phase.isStopped = false →
        log.filterMap Entry.write? = p.pipe.taken.filterMap writeOf) :=
  ⟨Provider.cache_eq_carryOut k8sVer plan access streams schedule,
    Provider.writes_log k8sVer plan access streams schedule⟩

/-! ## One watch decides -/

/-- The last write among the events is that of the last event about the key. -/
theorem lastWith_writes (events : List WatchEvent) (k : String) :
    (lastWith (fun w : Write String DynamicObject => decide (w.key = k))
        (events.filterMap writeOf)).bind Write.value =
      (lastWith (AboutKey k) events).bind storedBy := by
  induction events using List.reverseRecOn with
  | nil => rfl
  | append_singleton events we ih =>
      rw [List.filterMap_append, lastWith_concat]
      have habout := writesTo_writeOf k we
      unfold WritesTo at habout
      cases hwrite : writeOf we with
      | none =>
          have hnot : AboutKey k we = false := by simpa [hwrite] using habout.symm
          have hnil : [we].filterMap writeOf = [] := by simp [hwrite]
          rw [hnil, List.append_nil, ih, hnot]
          simp
      | some w =>
          have hone : [we].filterMap writeOf = [w] := by simp [hwrite]
          have hkey : decide (w.key = k) = AboutKey k we := by simpa [hwrite] using habout
          rw [hone, lastWith_concat, hkey]
          cases AboutKey k we with
          | true =>
              have hvalue := writeOf_bind_value we
              rw [hwrite] at hvalue
              simpa using hvalue
          | false => simpa using ih

/-- No watch but `i` sends events about the key. -/
def OnlyFrom (streams : Fin n → List StreamItem) (i : Fin n) (k : String) : Prop :=
  ∀ j ≠ i, ∀ we ∈ watchEvents k8sVer (plan j) (streams j), AboutKey k we = false

variable {k8sVer plan}

/-- Every event in the channel about a key is one that a watch sends. -/
theorem Provider.Inv.about_entered (hp : p.Inv k8sVer plan streams) {k : String}
    {entry : Feeder n × WatchEvent} (hentry : entry ∈ p.pipe.entered)
    (habout : AboutKey k entry.2 = true) :
    ∃ i, entry.1 = .watch i ∧ entry.2 ∈ watchEvents k8sVer (plan i) (streams i) := by
  obtain ⟨f, we⟩ := entry
  have hgiven : we ∈ p.pipe.given f := (hp.pipe.inOrder f).subset
    (List.mem_filterMap.mpr ⟨(f, we), hentry, sentBy_self f we⟩)
  cases f with
  | watch i =>
      refine ⟨i, rfl, ?_⟩
      rw [hp.read i]
      exact List.mem_append_left _ hgiven
  | poll =>
      obtain rfl := hp.poll we hgiven
      exact absurd habout (by simp [AboutKey, WatchEvent.default])
  | purge =>
      obtain rfl := hp.purge we hgiven
      exact absurd habout (by simp [AboutKey, WatchEvent.purgeTick])

/-- What is cached under a key when everything has been handled. -/
theorem cached_iff_of_drained {schedule : List (Occurrence n R)}
    (hdrained : ((Provider.start streams).run k8sVer plan access schedule).Drained)
    (k : String) (obj : DynamicObject) :
    ((Provider.start streams).run k8sVer plan access schedule).cache[k]? = some obj ↔
      (lastWith (AboutKey k)
          (((Provider.start streams).run k8sVer plan access schedule).pipe.entered.map
            Prod.snd)).bind storedBy = some obj ∧
        KeptSince k obj ((Provider.start streams).log k8sVer plan access schedule) := by
  have hp : (Provider.run k8sVer plan access (Provider.start streams) schedule).Inv k8sVer
      plan streams := Provider.inv_run k8sVer plan access streams schedule
  rw [Provider.cache_eq_carryOut, getElem?_carryOut_iff,
    Provider.writes_log k8sVer plan access streams schedule (by rw [hdrained.phase]; rfl),
    lastWith_writes, (hp.taken_of_drained hdrained).1]

/-- The last event about a key in the channel is the last one that its watch sends. -/
theorem lastWith_entered {schedule : List (Occurrence n R)}
    (hdrained : ((Provider.start streams).run k8sVer plan access schedule).Drained)
    {i : Fin n} {k : String} (honly : OnlyFrom k8sVer plan streams i k) :
    lastWith (AboutKey k)
        (((Provider.start streams).run k8sVer plan access schedule).pipe.entered.map
          Prod.snd) =
      lastWith (AboutKey k) (watchEvents k8sVer (plan i) (streams i)) := by
  have hp : (Provider.run k8sVer plan access (Provider.start streams) schedule).Inv k8sVer
      plan streams := Provider.inv_run k8sVer plan access streams schedule
  have hfrom : ∀ entry ∈
      (Provider.run k8sVer plan access (Provider.start streams) schedule).pipe.entered,
      AboutKey k entry.2 = true → entry.1 = .watch i := by
    intro entry hentry habout
    obtain ⟨j, hsender, hevent⟩ := hp.about_entered hentry habout
    by_contra hne
    have hnot := honly j (fun hji => hne (hsender.trans (congrArg Feeder.watch hji))) _ hevent
    exact absurd habout (by simp [hnot])
  rw [lastWith_sentBy hfrom, ← (hp.taken_of_drained hdrained).2 i]
  rfl

variable (k8sVer plan)

/-- **The cache mirrors the watch.**  When the provider is drained, a key that only watch `i`
sends events about holds an object exactly if the last of these events stored it, and every
purge that ended after that event was handled kept it.  Nothing else that happened has any
part in it. -/
theorem mirrors_watch (streams : Fin n → List StreamItem) (schedule : List (Occurrence n R))
    (hdrained : ((Provider.start streams).run k8sVer plan access schedule).Drained)
    {i : Fin n} {k : String} (honly : OnlyFrom k8sVer plan streams i k)
    (obj : DynamicObject) :
    ((Provider.start streams).run k8sVer plan access schedule).cache[k]? = some obj ↔
      (lastWith (AboutKey k) (watchEvents k8sVer (plan i) (streams i))).bind storedBy =
          some obj ∧
        KeptSince k obj ((Provider.start streams).log k8sVer plan access schedule) := by
  rw [cached_iff_of_drained access hdrained, lastWith_entered access hdrained honly]

/-! ## Purges that find nothing missing -/

/-- A purge has found nothing missing exactly if it keeps all that is cached. -/
theorem Shared.Inv.missing_eq_nil_iff {s : Shared} (hs : s.Inv) {api : KubeApi}
    {missing : List DynamicObject} (hphase : s.phase = .checking api [] missing) :
    missing = [] ↔
      ∀ (k : String) (obj : DynamicObject), s.cache[k]? = some obj →
        keptByPurge api obj = true := by
  rw [hs.missing_eq hphase, List.filter_eq_nil_iff]
  constructor
  · intro hnone k obj hobj
    have hnot := hnone obj (mem_cachedObjects.mpr ⟨k, hobj⟩)
    simpa [keptByPurge, imp_iff_not_or] using hnot
  · intro hkept obj hobj
    obtain ⟨k, hk⟩ := mem_cachedObjects.mp hobj
    simpa [keptByPurge, imp_iff_not_or] using hkept k obj hk

/-- With this occurrence no purge ends that has found something missing. -/
def EndsNoLoss (p : Provider n) (occ : Occurrence n R) : Prop :=
  ∀ around, occ = .task around → ∀ api missing, p.phase = .checking api [] missing →
    p.poisoned = false → missing = []

/-- Whether the sweep of an occurrence removes anything is up to what was found missing. -/
theorem Provider.Inv.undisturbed_concat_iff (hp : p.Inv k8sVer plan streams)
    (occ : Occurrence n R) {log : List (Entry String DynamicObject)}
    (hlog : p.cache = carryOut ∅ log) :
    Undisturbed (log ++ (p.logEntry occ).toList) ↔ Undisturbed log ∧ EndsNoLoss p occ := by
  cases occ with
  | reads i | pollTick | purgeTick | feeds f | request r =>
      simp [Provider.logEntry, EndsNoLoss]
  | task around =>
      cases hphase : p.phase with
      | stopped | connecting api objs =>
          simp [Provider.logEntry, Shared.logEntry, Provider.shared, hphase, EndsNoLoss]
      | idle =>
          have hends : EndsNoLoss p (.task around : Occurrence n R) := by
            simp [EndsNoLoss, hphase]
          rw [and_iff_left hends]
          cases hentry : p.logEntry (.task around : Occurrence n R) with
          | none => simp
          | some entry =>
              cases entry with
              | write w => exact undisturbed_concat_write
              | sweep keep =>
                  exfalso
                  simp only [Provider.logEntry, Shared.logEntry, Provider.shared, hphase]
                    at hentry
                  split at hentry
                  · exact absurd hentry (by simp)
                  · split at hentry
                    · exact absurd hentry (by simp)
                    · obtain ⟨w, -, hw⟩ := Option.map_eq_some_iff.mp hentry
                      exact absurd hw (by simp)
      | checking api pending missing =>
          cases pending with
          | cons obj rest =>
              simp [Provider.logEntry, Shared.logEntry, Provider.shared, hphase, EndsNoLoss]
          | nil =>
              cases hpoisoned : p.poisoned with
              | true =>
                  simp [Provider.logEntry, Shared.logEntry, Provider.shared, hphase,
                    hpoisoned, EndsNoLoss]
              | false =>
                  have hentry : p.logEntry (.task around : Occurrence n R) =
                      some (.sweep (keptByPurge api)) := by
                    simp [Provider.logEntry, Shared.logEntry, Provider.shared, hphase,
                      hpoisoned]
                  have hends : EndsNoLoss p (.task around : Occurrence n R) ↔
                      missing = [] := by
                    simp [EndsNoLoss, hphase, hpoisoned]
                  rw [hentry, Option.toList_some, undisturbed_concat_sweep, ← hlog, hends,
                    hp.shared.missing_eq_nil_iff hphase]
                  rfl

/-- **What it means that the log is undisturbed**: whenever a purge of the schedule ended, it
had found nothing missing. -/
theorem undisturbed_log_iff (streams : Fin n → List StreamItem)
    (schedule : List (Occurrence n R)) :
    Undisturbed ((Provider.start streams).log k8sVer plan access schedule) ↔
      ∀ front occ back, schedule = front ++ occ :: back →
        EndsNoLoss ((Provider.start streams).run k8sVer plan access front) occ := by
  induction schedule using List.reverseRecOn with
  | nil => simp [Provider.log, Undisturbed]
  | append_singleton schedule occ ih =>
      have hp : (Provider.run k8sVer plan access (Provider.start streams) schedule).Inv k8sVer
          plan streams := Provider.inv_run k8sVer plan access streams schedule
      rw [Provider.log_concat, hp.undisturbed_concat_iff k8sVer plan occ
        (Provider.cache_eq_carryOut k8sVer plan access streams schedule), ih]
      constructor
      · rintro ⟨hbefore, hlast⟩ front occ' back hsplit
        rcases concat_eq_append_cons_iff.mp hsplit with ⟨-, rfl, rfl⟩ | ⟨rest, -, hfront⟩
        · exact hlast
        · exact hbefore front occ' rest hfront
      · intro h
        refine ⟨fun front occ' back hsplit => ?_, h schedule occ [] rfl⟩
        exact h front occ' (back ++ [occ]) (by simp [hsplit])

/-! ## All watches together -/

/-- No two watches send events about the same key. -/
def OneWatchPerKey (streams : Fin n → List StreamItem) : Prop :=
  ∀ i j, i ≠ j → ∀ we ∈ watchEvents k8sVer (plan i) (streams i),
    ∀ we' ∈ watchEvents k8sVer (plan j) (streams j), ∀ k, AboutKey k we = true →
      AboutKey k we' = false

/-- With each key in the hands of one watch and no purge that takes anything away, what is
cached in the end can be read off the streams. -/
theorem cached_iff_of_undisturbed {schedule : List (Occurrence n R)}
    (hdisjoint : OneWatchPerKey k8sVer plan streams)
    (hdrained : ((Provider.start streams).run k8sVer plan access schedule).Drained)
    (hlog : Undisturbed ((Provider.start streams).log k8sVer plan access schedule))
    (k : String) (obj : DynamicObject) :
    ((Provider.start streams).run k8sVer plan access schedule).cache[k]? = some obj ↔
      ∃ i, (lastWith (AboutKey k) (watchEvents k8sVer (plan i) (streams i))).bind storedBy =
        some obj := by
  have hp : (Provider.run k8sVer plan access (Provider.start streams) schedule).Inv k8sVer
      plan streams := Provider.inv_run k8sVer plan access streams schedule
  have hcached : ((Provider.start streams).run k8sVer plan access schedule).cache[k]? =
      (lastWith (AboutKey k)
        (((Provider.start streams).run k8sVer plan access schedule).pipe.entered.map
          Prod.snd)).bind storedBy := by
    rw [Provider.cache_eq_carryOut, hlog.getElem?_carryOut,
      Provider.writes_log k8sVer plan access streams schedule (by rw [hdrained.phase]; rfl),
      lastWith_writes, (hp.taken_of_drained hdrained).1]
  rw [hcached]
  constructor
  · intro hstored
    obtain ⟨we, hlast, -⟩ := Option.bind_eq_some_iff.mp hstored
    obtain ⟨entry, hentry, rfl⟩ := List.mem_map.mp (mem_of_lastWith_eq_some hlast)
    have habout : AboutKey k entry.2 = true := (lastWith_eq_some_iff.mp hlast).1
    obtain ⟨i, -, hevent⟩ := hp.about_entered hentry habout
    have honly : OnlyFrom k8sVer plan streams i k := fun j hne we' hwe' =>
      hdisjoint i j hne.symm _ hevent _ hwe' k habout
    exact ⟨i, by rw [← lastWith_entered access hdrained honly]; exact hstored⟩
  · rintro ⟨i, hstored⟩
    obtain ⟨we, hlast, -⟩ := Option.bind_eq_some_iff.mp hstored
    have honly : OnlyFrom k8sVer plan streams i k := fun j hne we' hwe' =>
      hdisjoint i j hne.symm _ (mem_of_lastWith_eq_some hlast) _ hwe' k
        (lastWith_eq_some_iff.mp hlast).1
    rw [lastWith_entered access hdrained honly]
    exact hstored

/-- **The order does not matter.**  With each key in the hands of one watch, any two
schedules over the same streams that drain the provider, and in which no purge removes
anything that is cached, end with the same cache. -/
theorem mirror_unique {R' : Type*} (access' : R' → Option (CacheMap → Checked Unit))
    (streams : Fin n → List StreamItem) (hdisjoint : OneWatchPerKey k8sVer plan streams)
    (schedule : List (Occurrence n R)) (schedule' : List (Occurrence n R'))
    (hdrained : ((Provider.start streams).run k8sVer plan access schedule).Drained)
    (hdrained' : ((Provider.start streams).run k8sVer plan access' schedule').Drained)
    (hlog : Undisturbed ((Provider.start streams).log k8sVer plan access schedule))
    (hlog' : Undisturbed ((Provider.start streams).log k8sVer plan access' schedule')) :
    ((Provider.start streams).run k8sVer plan access schedule).cache =
      ((Provider.start streams).run k8sVer plan access' schedule').cache := by
  apply ExtTreeMap.ext_getElem?
  intro k
  refine Option.ext fun obj => ?_
  rw [cached_iff_of_undisturbed k8sVer plan access hdisjoint hdrained hlog,
    cached_iff_of_undisturbed k8sVer plan access' hdisjoint hdrained' hlog']

end Log

/-- A watch reports a Pod. -/
def addsPod (name : String) : StreamItem := .ok (.applied (.apply (podNamed name)))

/-- Two watches, each with a Pod of its own. -/
def twoStreams (i : Fin 2) : List StreamItem :=
  if i = 0 then [addsPod "a"] else [addsPod "b"]

/-- An API server that finds everything. -/
def findsAll : Surroundings := ⟨0, ⟨true, fun _ => .found⟩⟩

/-- An API server that has only heard of the Pod `b` yet. -/
def findsOnlyB : Surroundings :=
  ⟨0, ⟨true, fun path => if path.name = "b" then .found else .missing⟩⟩

/-- Both watches send before the task takes anything. -/
def readsFirst : List (Occurrence 2 IterOrder) :=
  [.reads 0, .reads 1, .feeds (.watch 0), .feeds (.watch 1), .task findsAll, .task findsAll]

/-- The second watch goes first, and a purge comes in between. -/
def purgesBetween : List (Occurrence 2 IterOrder) :=
  [.reads 1, .feeds (.watch 1), .purgeTick, .feeds .purge, .task findsAll, .task findsOnlyB,
    .request .sorted, .reads 0, .task findsAll, .feeds (.watch 0), .task findsAll,
    .task findsAll, .task findsAll]

/-- The provider with these two watches. -/
def runTwo [UnicodeTables] (schedule : List (Occurrence 2 IterOrder)) : Provider 2 :=
  (Provider.start twoStreams).run "1.31" (fun _ => podWatch) (fun _ => none) schedule

/-- Two watches and two timers are done if each of them is. -/
theorem drained_two {p : Provider 2} (hstreams : p.streams 0 = [] ∧ p.streams 1 = [])
    (hwatches : p.pipe.senders (.watch 0) = .live [] ∧ p.pipe.senders (.watch 1) = .live [])
    (htimers : p.pipe.senders .poll = .live [] ∧ p.pipe.senders .purge = .live [])
    (hchannel : p.pipe.channel.messages = []) (hphase : p.phase = .idle) : p.Drained where
  streams := Fin.forall_fin_two.mpr hstreams
  senders f := by
    cases f with
    | watch i =>
        revert i
        exact Fin.forall_fin_two.mpr hwatches
    | poll => exact htimers.1
    | purge => exact htimers.2
  channel := hchannel
  phase := hphase

theorem drained_readsFirst :
    letI := UnicodeTables.asciiOnly
    (runTwo readsFirst).Drained :=
  drained_two ⟨rfl, rfl⟩ ⟨rfl, rfl⟩ ⟨rfl, rfl⟩ rfl rfl

theorem drained_purgesBetween :
    letI := UnicodeTables.asciiOnly
    (runTwo purgesBetween).Drained :=
  drained_two ⟨rfl, rfl⟩ ⟨rfl, rfl⟩ ⟨rfl, rfl⟩ rfl rfl

/-- The watches send one event each, about their own Pods. -/
theorem oneWatchPerKey_twoStreams :
    letI := UnicodeTables.asciiOnly
    OneWatchPerKey "1.31" (fun _ => podWatch) twoStreams := by
  let _ := UnicodeTables.asciiOnly
  have hkey : ∀ i : Fin 2, ∀ we ∈ watchEvents "1.31" podWatch (twoStreams i),
      ∀ k, AboutKey k we = decide ((if i = 0 then "x/a" else "x/b") = k) := by
    refine Fin.forall_fin_two.mpr ⟨?_, ?_⟩ <;>
      · intro we hwe k
        obtain rfl := List.mem_singleton.mp (show we ∈ [_] from hwe)
        rfl
  have hnames : ∀ i j : Fin 2, i ≠ j →
      (if j = 0 then "x/a" else "x/b") ≠ if i = 0 then "x/a" else "x/b" := by
    decide
  intro i j hne we hwe we' hwe' k habout
  rw [hkey i we hwe, decide_eq_true_eq] at habout
  rw [hkey j we' hwe', ← habout, decide_eq_false_iff_not]
  exact hnames i j hne

/-- The log of a schedule of these two watches. -/
def logTwo [UnicodeTables] (schedule : List (Occurrence 2 IterOrder)) :
    List (Entry String DynamicObject) :=
  (Provider.start twoStreams).log "1.31" (fun _ => podWatch) (fun _ => none) schedule

/-- The addition of a Pod, in the log. -/
def putsPod [UnicodeTables] (name : String) : Entry String DynamicObject :=
  .write (.put ("x/" ++ name) (processDynobj (podNamed name) podWatch.apiDyn.resourceUrl))

theorem logTwo_readsFirst :
    letI := UnicodeTables.asciiOnly
    logTwo readsFirst = [] ++ [putsPod "a"] ++ [putsPod "b"] := rfl

theorem logTwo_purgesBetween :
    letI := UnicodeTables.asciiOnly
    logTwo purgesBetween =
      [] ++ [putsPod "b"] ++ [.sweep (keptByPurge findsOnlyB.api)] ++ [putsPod "a"] := rfl

/-- The API server knows of one of the Pods only. -/
theorem keptByPurge_findsOnlyB :
    letI := UnicodeTables.asciiOnly
    keptByPurge findsOnlyB.api (processDynobj (podNamed "b") podWatch.apiDyn.resourceUrl) =
        true ∧
      keptByPurge findsOnlyB.api (processDynobj (podNamed "a") podWatch.apiDyn.resourceUrl) =
        false :=
  ⟨rfl, rfl⟩

theorem undisturbed_readsFirst :
    letI := UnicodeTables.asciiOnly
    Undisturbed (logTwo readsFirst) := by
  rw [logTwo_readsFirst]
  exact undisturbed_concat_write.mpr (undisturbed_concat_write.mpr undisturbed_nil)

theorem undisturbed_purgesBetween :
    letI := UnicodeTables.asciiOnly
    Undisturbed (logTwo purgesBetween) := by
  let _ := UnicodeTables.asciiOnly
  rw [logTwo_purgesBetween]
  refine undisturbed_concat_write.mpr (undisturbed_concat_sweep.mpr
    ⟨undisturbed_concat_write.mpr undisturbed_nil, fun k obj hobj => ?_⟩)
  -- only `b` is in the cache when the purge ends
  have hstored : (carryOut ∅ ([] ++ [putsPod "b"]))[k]? = _ :=
    Entry.getElem?_apply ∅ (putsPod "b") k
  rw [hstored, putsPod, Entry.over, ExtTreeMap.getElem?_empty] at hobj
  split at hobj
  · obtain rfl := Option.some.inj hobj
    exact keptByPurge_findsOnlyB.1
  · exact absurd hobj (by simp)

/-- The second watch's Pod is cached as it reported it. -/
theorem mirrors_watch_twoStreams :
    letI := UnicodeTables.asciiOnly
    (runTwo purgesBetween).cache["x/b"]? = some (podNamed "b") ↔
      (lastWith (AboutKey "x/b") (watchEvents "1.31" podWatch (twoStreams 1))).bind storedBy =
          some (podNamed "b") ∧
        KeptSince "x/b" (podNamed "b") ((Provider.start twoStreams).log "1.31"
          (fun _ => podWatch) (fun _ : IterOrder => none) purgesBetween) := by
  let _ := UnicodeTables.asciiOnly
  have honly : OnlyFrom "1.31" (fun _ => podWatch) twoStreams 1 "x/b" := by
    refine Fin.forall_fin_two.mpr ⟨fun _ we hwe => ?_, fun h => absurd rfl h⟩
    obtain rfl := List.mem_singleton.mp (show we ∈ [_] from hwe)
    rfl
  exact mirrors_watch "1.31" (fun _ => podWatch) (fun _ : IterOrder => none)
    twoStreams purgesBetween drained_purgesBetween honly (podNamed "b")

/-- The purge in between finds the Pod it asks for.  It would be told that the other one is
missing, but that one is not cached yet, so the two schedules end alike. -/
theorem mirror_unique_twoStreams :
    letI := UnicodeTables.asciiOnly
    keptByPurge findsOnlyB.api (processDynobj (podNamed "a") podWatch.apiDyn.resourceUrl) =
        false ∧
      (runTwo readsFirst).cache = (runTwo purgesBetween).cache := by
  let _ := UnicodeTables.asciiOnly
  exact ⟨keptByPurge_findsOnlyB.2,
    mirror_unique "1.31" (fun _ => podWatch) (fun _ : IterOrder => none)
      (fun _ : IterOrder => none) twoStreams oneWatchPerKey_twoStreams readsFirst
      purgesBetween drained_readsFirst drained_purgesBetween undisturbed_readsFirst
      undisturbed_purgesBetween⟩

end EntityProvider.Ingest
