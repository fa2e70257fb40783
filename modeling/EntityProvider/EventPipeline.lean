import EntityProvider.AxKube.Discovery
import EntityProvider.Library.Pipeline
import EntityProvider.SharedCache
import Mathlib.Data.Fintype.Sum
import Mathlib.Tactic.DeriveFintype

/-!
# The running provider

All tasks of the provider together.  Each watch of the plan has a task that reads its
stream and sends what `commandsOf` makes of an item; two timers send a `PrintAll` and a
`Purge`; the ingest task takes the events off the channel, which holds 32; and the
handlers read the cache.  A watch task unwraps the result of its sends and so ends when
the ingest task has; the timers ignore it.

A `Provider` is a state of all this, an `Occurrence` is one thing that may happen next,
and a schedule is any list of occurrences.

* `provider_refines_shared`: the provider is `Shared` with the sends at the places where
  an event enters the channel.
* `events_delivered`: the channel carries, in order and once each, a first part of what
  each watch has to send; as long as the ingest task runs nothing is lost on the way.
* `stopped_for_good`: what is left of the provider once the ingest task has ended.
-/

namespace EntityProvider.Ingest

open Kube AxKube Library

/-! ## The tasks -/

/-- Who sends into the event channel: the tasks of the watches and the two timers. -/
inductive Feeder (n : ℕ) where
  | watch (i : Fin n)
  | poll
  | purge
  deriving DecidableEq, Fintype

/-- Does a feeder go on after a failed send?  `watch` unwraps the result, the timers drop
it. -/
def Feeder.survives {n : ℕ} : Feeder n → Bool
  | .watch _ => false
  | .poll => true
  | .purge => true

/-- Has the ingest task ended? -/
def Phase.isStopped : Phase → Bool
  | .stopped => true
  | _ => false

/-- The tasks of the provider and what they share. -/
structure Provider (n : ℕ) where
  /-- What each stream will still yield. -/
  streams : Fin n → List StreamItem
  pipe : Pipeline (Feeder n) WatchEvent 32
  cache : CacheMap
  poisoned : Bool
  phase : Phase

/-- One thing that may happen next; `R` are the requests. -/
inductive Occurrence (n : ℕ) (R : Type*) where
  /-- The stream of a watch yields an item to its task. -/
  | reads (i : Fin n)
  /-- The poll interval has passed. -/
  | pollTick
  /-- The purge interval has passed. -/
  | purgeTick
  /-- It is a feeder's turn to send. -/
  | feeds (f : Feeder n)
  /-- The ingest task makes a step. -/
  | task (around : Surroundings)
  /-- A request is handled. -/
  | request (r : R)

variable {n : ℕ}

/-- The provider when all its tasks have been spawned. -/
def Provider.start (streams : Fin n → List StreamItem) : Provider n where
  streams := streams
  pipe := .start
  cache := ∅
  poisoned := false
  phase := .idle

/-- What the ingest task and the handlers see of the provider. -/
def Provider.shared (p : Provider n) : Shared :=
  ⟨p.cache, p.poisoned, p.pipe.channel.messages, p.phase⟩

/-- The events that a watch sends for what its stream yields. -/
def watchEvents (k8sVer : String) (apisel : ApiWithSelectors) (items : List StreamItem) :
    List WatchEvent :=
  watchLoop k8sVer apisel.apiDyn.resourceUrl apisel.eventType items

section Steps

variable (k8sVer : String) (plan : Fin n → ApiWithSelectors)

/-- A watch task that has sent all its events reads on. -/
def Provider.reads (p : Provider n) (i : Fin n) : Provider n :=
  match p.streams i with
  | [] => p
  | item :: rest =>
      if (p.pipe.senders (.watch i)).isReady then
        { p with
          streams := Function.update p.streams i rest
          pipe := p.pipe.give (.watch i) (watchEvents k8sVer (plan i) [item]) }
      else p

/-- The provider after a step of the ingest task.  A panic drops its end of the channel. -/
def Provider.settle (p : Provider n) (s : Shared) : Provider n :=
  { p with
    pipe := if s.phase.isStopped then p.pipe.close else p.pipe
    cache := s.cache
    poisoned := s.poisoned
    phase := s.phase }

@[simp] theorem Provider.taken_settle (p : Provider n) (s : Shared) :
    (p.settle s).pipe.taken = p.pipe.taken := by
  unfold Provider.settle
  split <;> rfl

@[simp] theorem Provider.channel_settle (p : Provider n) (s : Shared) :
    (p.settle s).pipe.channel = p.pipe.channel := by
  unfold Provider.settle
  split <;> rfl

variable [UnicodeTables]

/-- A step of the ingest task. -/
def Provider.advance (around : Surroundings) (p : Provider n) : Provider n :=
  match p.phase with
  | .idle =>
      match p.pipe.take? with
      | none => p
      | some (we, pipe) =>
          let p : Provider n := { p with pipe := pipe }
          p.settle (p.shared.handle around we)
  | _ => p.settle (p.shared.advance around)

variable {R : Type*} (access : R → Option (CacheMap → Checked Unit))

/-- What an occurrence does. -/
def Provider.step (p : Provider n) : Occurrence n R → Provider n
  | .reads i => p.reads k8sVer plan i
  | .pollTick => { p with pipe := p.pipe.give .poll [.default] }
  | .purgeTick => { p with pipe := p.pipe.give .purge [.purgeTick] }
  | .feeds f => { p with pipe := p.pipe.push Feeder.survives f }
  | .task around => p.advance around
  | .request r => { p with poisoned := (p.shared.step access (.request r)).poisoned }

/-- What a schedule does. -/
def Provider.run (p : Provider n) (schedule : List (Occurrence n R)) : Provider n :=
  schedule.foldl (Provider.step k8sVer plan access) p

theorem Provider.run_append (p : Provider n) (front back : List (Occurrence n R)) :
    p.run k8sVer plan access (front ++ back) =
      (p.run k8sVer plan access front).run k8sVer plan access back :=
  List.foldl_append

/-- What every occurrence keeps holds after any schedule. -/
theorem Provider.run_keeps {P : Provider n → Prop}
    (hstep : ∀ p occ, P p → P (p.step k8sVer plan access occ))
    (schedule : List (Occurrence n R))
    {p : Provider n} (hp : P p) : P (p.run k8sVer plan access schedule) :=
  List.foldlRecOn schedule _ hp fun p hp occ _ => hstep p occ hp

/-! ## The provider and the shared cache -/

/-- What an occurrence is to the shared cache, the sends apart. -/
def Occurrence.action? : Occurrence n R → Option (Action R)
  | .task around => some (.task around)
  | .request r => some (.request r)
  | _ => none

/-- The event an action sends. -/
def Action.sent? : Action R → Option WatchEvent
  | .send we => some we
  | _ => none

/-- Is the action a send? -/
def Action.isSend (action : Action R) : Bool := action.sent?.isSome

/-- A list of actions stands for a schedule: without the sends it is the task's steps and
the requests of the schedule, and the sends are of the given events. -/
structure StandsFor (actions : List (Action R)) (schedule : List (Occurrence n R))
    (entered : List WatchEvent) : Prop where
  visible : actions.filter (fun action => !action.isSend) =
    schedule.filterMap Occurrence.action?
  sends : actions.filterMap Action.sent? = entered

omit [UnicodeTables] in
theorem Provider.shared_settle {p : Provider n} {s : Shared}
    (hqueue : s.queue = p.pipe.channel.messages) : (p.settle s).shared = s := by
  unfold Provider.settle Provider.shared
  obtain ⟨cache, poisoned, queue, phase⟩ := s
  obtain rfl : queue = p.pipe.channel.messages := hqueue
  cases phase.isStopped <;> rfl

theorem Shared.queue_handle (s : Shared) (around : Surroundings) (we : WatchEvent) :
    (s.handle around we).queue = s.queue := by
  unfold Shared.handle
  split
  next => rfl
  next => split <;> rfl
  next => dsimp only; split <;> rfl

/-- In the middle of a purge the task does not look at the channel. -/
theorem Shared.queue_advance_of_busy {s : Shared} (hbusy : s.phase ≠ .idle)
    (around : Surroundings) : (s.advance around).queue = s.queue := by
  unfold Shared.advance
  split
  next => rfl
  next hidle => exact absurd hidle hbusy
  next => rfl
  next => rfl
  next =>
    split
    next => rfl
    next => dsimp only; split <;> rfl

/-- What a step of the ingest task is, by what the task is at. -/
theorem Provider.advance_of_empty {p : Provider n} (hidle : p.phase = .idle)
    (hempty : p.pipe.take? = none) (around : Surroundings) : p.advance around = p := by
  simp [Provider.advance, hidle, hempty]

theorem Provider.advance_of_take {p : Provider n} (hidle : p.phase = .idle) {we : WatchEvent}
    {pipe : Pipeline (Feeder n) WatchEvent 32} (htake : p.pipe.take? = some (we, pipe))
    (around : Surroundings) :
    p.advance around = Provider.settle { p with pipe := pipe }
      (Shared.handle around ⟨p.cache, p.poisoned, pipe.channel.messages, p.phase⟩ we) := by
  simp [Provider.advance, hidle, htake, Provider.shared]

theorem Provider.advance_of_busy {p : Provider n} (hbusy : p.phase ≠ .idle)
    (around : Surroundings) : p.advance around = p.settle (p.shared.advance around) := by
  unfold Provider.advance
  split
  next hidle => exact absurd hidle hbusy
  next => rfl

/-- **A step of the ingest task** is one of the shared cache. -/
theorem Provider.shared_advance (p : Provider n) (around : Surroundings) :
    (p.advance around).shared = p.shared.advance around := by
  by_cases hidle : p.phase = .idle
  · cases htake : p.pipe.take? with
    | none =>
        have hempty := Pipeline.take?_eq_none_iff.mp htake
        rw [Provider.advance_of_empty hidle htake]
        simp [Shared.advance, Provider.shared, hidle, hempty]
    | some received =>
        obtain ⟨we, pipe⟩ := received
        obtain ⟨channel, hmessages, rfl⟩ := Pipeline.take?_eq_some htake
        rw [Provider.advance_of_take hidle htake,
          Provider.shared_settle (Shared.queue_handle _ around we)]
        simp [Shared.advance, Provider.shared, hidle, hmessages]
  · rw [Provider.advance_of_busy hidle,
      Provider.shared_settle (Shared.queue_advance_of_busy (s := p.shared) hidle around)]

/-- **What a step of the ingest task does to the pipeline**: it may take one event, and it
closes the channel if the task ends. -/
theorem Provider.pipe_advance (p : Provider n) (around : Surroundings) :
    (p.advance around).streams = p.streams ∧
      ∃ pipe, (pipe = p.pipe ∨ ∃ we, p.pipe.take? = some (we, pipe)) ∧
        (p.advance around).pipe =
          if (p.advance around).phase.isStopped then pipe.close else pipe := by
  by_cases hidle : p.phase = .idle
  · cases htake : p.pipe.take? with
    | none =>
        rw [Provider.advance_of_empty hidle htake]
        exact ⟨rfl, p.pipe, Or.inl rfl, by simp [hidle, Phase.isStopped]⟩
    | some received =>
        obtain ⟨we, pipe⟩ := received
        rw [Provider.advance_of_take hidle htake]
        exact ⟨rfl, pipe, Or.inr ⟨we, rfl⟩, rfl⟩
  · rw [Provider.advance_of_busy hidle]
    exact ⟨rfl, p.pipe, Or.inl rfl, rfl⟩

theorem Provider.taken_advance_of_take {p : Provider n} (hidle : p.phase = .idle)
    {we : WatchEvent} {pipe : Pipeline (Feeder n) WatchEvent 32}
    (htake : p.pipe.take? = some (we, pipe)) (around : Surroundings) :
    (p.advance around).pipe.taken = p.pipe.taken ++ [we] := by
  rw [Provider.advance_of_take hidle htake, Provider.taken_settle]
  obtain ⟨channel, -, rfl⟩ := Pipeline.take?_eq_some htake
  rfl

/-- A step of the ingest task leaves the senders and what has entered alone. -/
theorem Provider.frame_advance (p : Provider n) (around : Surroundings) :
    (p.advance around).pipe.senders = p.pipe.senders ∧
      (p.advance around).pipe.given = p.pipe.given ∧
      (p.advance around).pipe.entered = p.pipe.entered := by
  obtain ⟨-, pipe, hpipe, heq⟩ := p.pipe_advance around
  have hframe : pipe.senders = p.pipe.senders ∧ pipe.given = p.pipe.given ∧
      pipe.entered = p.pipe.entered := by
    rcases hpipe with rfl | ⟨we, htake⟩
    · exact ⟨rfl, rfl, rfl⟩
    · obtain ⟨channel, -, rfl⟩ := Pipeline.take?_eq_some htake
      exact ⟨rfl, rfl, rfl⟩
  rw [heq]
  split
  · exact hframe
  · exact hframe

omit [UnicodeTables] in
/-- A watch task reads on, or waits. -/
theorem Provider.reads_cases (p : Provider n) (i : Fin n) :
    p.reads k8sVer plan i = p ∨
      ∃ item rest, p.streams i = item :: rest ∧ p.pipe.senders (.watch i) = .live [] ∧
        p.reads k8sVer plan i =
          { p with
            streams := Function.update p.streams i rest
            pipe := p.pipe.give (.watch i) (watchEvents k8sVer (plan i) [item]) } := by
  unfold Provider.reads
  split
  next => exact Or.inl rfl
  next item rest hstream =>
    split
    next hready => exact Or.inr ⟨item, rest, hstream, Sender.isReady_iff.mp hready, rfl⟩
    next => exact Or.inl rfl

omit [UnicodeTables] in
theorem standsFor_nil {occ : Occurrence n R} (hocc : occ.action? = none) :
    StandsFor [] [occ] [] := ⟨by simp [hocc], rfl⟩

/-- **A step of the provider** is one or no step of the shared cache. -/
theorem Provider.shared_step (p : Provider n) (occ : Occurrence n R) :
    ∃ (actions : List (Action R)) (entered : List WatchEvent),
      (p.step k8sVer plan access occ).shared = p.shared.run access actions ∧
        (p.step k8sVer plan access occ).pipe.entered.map Prod.snd =
          p.pipe.entered.map Prod.snd ++ entered ∧
        StandsFor actions [occ] entered := by
  cases occ with
  | reads i =>
      refine ⟨[], [], ?_, ?_, standsFor_nil rfl⟩ <;>
        rcases p.reads_cases k8sVer plan i with heq | ⟨item, rest, -, -, heq⟩ <;>
        simp [Provider.step, Provider.shared, Shared.run, heq]
  | pollTick =>
      refine ⟨[], [], ?_, ?_, standsFor_nil rfl⟩ <;>
        simp [Provider.step, Provider.shared, Shared.run]
  | purgeTick =>
      refine ⟨[], [], ?_, ?_, standsFor_nil rfl⟩ <;>
        simp [Provider.step, Provider.shared, Shared.run]
  | feeds f =>
      rcases p.pipe.push_cases Feeder.survives f with heq | ⟨-, a, rest, -, heq⟩ |
          ⟨-, a, rest, channel, -, hsend, heq⟩
      · refine ⟨[], [], ?_, ?_, standsFor_nil rfl⟩ <;>
          simp [Provider.step, Provider.shared, Shared.run, heq]
      · refine ⟨[], [], ?_, ?_, standsFor_nil rfl⟩ <;>
          simp [Provider.step, Provider.shared, Shared.run, heq]
      · -- the event enters the channel
        refine ⟨[.send a], [a], ?_, ?_, rfl, rfl⟩
        · simp [Provider.step, Provider.shared, Shared.run, Shared.step, heq,
            Channel.messages_of_send? hsend]
        · simp [Provider.step, heq]
  | task around =>
      refine ⟨[.task around], [], p.shared_advance around, ?_, rfl, rfl⟩
      have hentered : (p.step k8sVer plan access (.task around)).pipe.entered =
          p.pipe.entered := (p.frame_advance around).2.2
      rw [hentered, List.append_nil]
  | request r =>
      refine ⟨[.request r], [], ?_, by simp [Provider.step], rfl, rfl⟩
      exact (p.shared.step_request access r).symm

/-- **The provider refines the shared cache.**  Whatever the schedule, what the ingest task
and the handlers see is what they see in a run of the shared cache, with the same task
steps and requests, and with a send for each event that enters the channel. -/
theorem provider_refines_shared (streams : Fin n → List StreamItem)
    (schedule : List (Occurrence n R)) :
    ∃ actions : List (Action R),
      ((Provider.start streams).run k8sVer plan access schedule).shared =
          Shared.start.run access actions ∧
        StandsFor actions schedule
          (((Provider.start streams).run k8sVer plan access schedule).pipe.entered.map
            Prod.snd) := by
  induction schedule using List.reverseRecOn with
  | nil => exact ⟨[], rfl, rfl, rfl⟩
  | append_singleton schedule occ ih =>
      obtain ⟨front, hfront, hvisible, hsends⟩ := ih
      obtain ⟨actions, entered, hstep, hentered, hlast⟩ :=
        ((Provider.start streams).run k8sVer plan access schedule).shared_step
          k8sVer plan access occ
      rw [Provider.run_append]
      refine ⟨front ++ actions, ?_, ?_, ?_⟩
      · rw [Shared.run, List.foldl_append]
        exact hstep.trans (congrArg (Shared.run access · actions) hfront)
      · rw [List.filter_append, List.filterMap_append, hvisible, hlast.visible]
      · rw [List.filterMap_append, hsends, hlast.sends]
        exact hentered.symm

/-! ## Nothing is lost, repeated or reordered -/

/-- What holds between the occurrences of a schedule. -/
structure Provider.Inv (streams : Fin n → List StreamItem) (p : Provider n) : Prop where
  pipe : p.pipe.Inv
  shared : p.shared.Inv
  closed : p.pipe.closed = p.phase.isStopped
  /-- A watch was given the events of what it has read, and nothing else. -/
  read : ∀ i, watchEvents k8sVer (plan i) (streams i) =
    p.pipe.given (.watch i) ++ watchEvents k8sVer (plan i) (p.streams i)
  poll : ∀ we ∈ p.pipe.given .poll, we = .default
  purge : ∀ we ∈ p.pipe.given .purge, we = .purgeTick

omit [UnicodeTables] in
theorem watchEvents_cons (apisel : ApiWithSelectors) (item : StreamItem)
    (rest : List StreamItem) :
    watchEvents k8sVer apisel (item :: rest) =
      watchEvents k8sVer apisel [item] ++ watchEvents k8sVer apisel rest := by
  simp [watchEvents, watchLoop]

theorem Provider.inv_start (streams : Fin n → List StreamItem) :
    (Provider.start streams).Inv k8sVer plan streams where
  pipe := Pipeline.inv_start
  shared := Shared.inv_start
  closed := rfl
  read _ := rfl
  poll _ h := absurd h List.not_mem_nil
  purge _ h := absurd h List.not_mem_nil

variable {k8sVer plan} {streams : Fin n → List StreamItem} {p : Provider n}

/-- Whether the channel is closed after a step of the task, if it is closed before only
when the task has ended. -/
theorem Provider.Inv.closed_advance (hp : p.Inv k8sVer plan streams) (around : Surroundings) :
    (p.advance around).pipe.closed = (p.advance around).phase.isStopped := by
  obtain ⟨-, pipe, hpipe, heq⟩ := p.pipe_advance around
  have hclosed : pipe.closed = p.phase.isStopped := by
    rw [← hp.closed]
    rcases hpipe with rfl | ⟨we, htake⟩
    · rfl
    · obtain ⟨channel, -, rfl⟩ := Pipeline.take?_eq_some htake
      rfl
  cases hstopped : (p.advance around).phase.isStopped with
  | true => simp [heq, hstopped, Pipeline.close]
  | false =>
      rw [heq, hstopped, if_neg (by simp), hclosed]
      -- a task that has ended has ended for good
      cases hphase : p.phase <;> try rfl
      have hadvance : p.advance around = p.settle p.shared := by
        rw [Provider.advance_of_busy (by simp [hphase])]
        simp [Shared.advance, Provider.shared, hphase]
      rw [hadvance] at hstopped
      exact absurd hstopped (by simp [Provider.settle, Provider.shared, hphase,
        Phase.isStopped])

/-- A step of the task keeps the invariant of the pipeline. -/
theorem Provider.Inv.pipe_advance (hp : p.Inv k8sVer plan streams) (around : Surroundings) :
    (p.advance around).pipe.Inv := by
  obtain ⟨-, pipe, hpipe, heq⟩ := p.pipe_advance around
  have hinv : pipe.Inv := by
    rcases hpipe with rfl | ⟨we, htake⟩
    · exact hp.pipe
    · exact hp.pipe.take htake
  rw [heq]
  split
  · exact hinv.close
  · exact hinv

/-- **An occurrence keeps the invariant.** -/
theorem Provider.Inv.step (hp : p.Inv k8sVer plan streams) (occ : Occurrence n R) :
    (p.step k8sVer plan access occ).Inv k8sVer plan streams := by
  have hshared : (p.step k8sVer plan access occ).shared.Inv := by
    obtain ⟨actions, -, hstep, -, -⟩ := p.shared_step k8sVer plan access occ
    rw [hstep]
    exact hp.shared.run access actions
  cases occ with
  | reads i =>
      rcases p.reads_cases k8sVer plan i with heq | ⟨item, rest, hstream, hready, heq⟩
      · rw [Provider.step, heq]
        exact hp
      · rw [Provider.step, heq] at hshared ⊢
        refine ⟨hp.pipe.give _ _, hshared, by simpa using hp.closed, fun j => ?_, ?_, ?_⟩
        · rcases eq_or_ne j i with rfl | hne
          · -- the item goes from the stream to what the watch was given
            rw [hp.read j, hstream, watchEvents_cons, Pipeline.give_of_ready hready]
            simp
          · have hother : Feeder.watch j ≠ .watch i := fun h => hne (Feeder.watch.inj h)
            rw [hp.read j, Pipeline.given_give_of_ne hother]
            simp [Function.update_of_ne hne]
        · show ∀ we ∈ (p.pipe.give _ _).given .poll, _
          rw [Pipeline.given_give_of_ne (by simp)]
          exact hp.poll
        · show ∀ we ∈ (p.pipe.give _ _).given .purge, _
          rw [Pipeline.given_give_of_ne (by simp)]
          exact hp.purge
  | pollTick =>
      refine ⟨hp.pipe.give _ _, hshared, by simpa [Provider.step] using hp.closed, ?_, ?_, ?_⟩
      · intro i
        simpa [Provider.step, Pipeline.given_give_of_ne] using hp.read i
      · intro we hwe
        rcases Pipeline.mem_given_give hwe with hbefore | ⟨-, hnow⟩
        · exact hp.poll we hbefore
        · exact List.mem_singleton.mp hnow
      · simpa [Provider.step, Pipeline.given_give_of_ne] using hp.purge
  | purgeTick =>
      refine ⟨hp.pipe.give _ _, hshared, by simpa [Provider.step] using hp.closed, ?_, ?_, ?_⟩
      · intro i
        simpa [Provider.step, Pipeline.given_give_of_ne] using hp.read i
      · simpa [Provider.step, Pipeline.given_give_of_ne] using hp.poll
      · intro we hwe
        rcases Pipeline.mem_given_give hwe with hbefore | ⟨-, hnow⟩
        · exact hp.purge we hbefore
        · exact List.mem_singleton.mp hnow
  | feeds f =>
      refine ⟨hp.pipe.push _ f, hshared, by simpa [Provider.step] using hp.closed, ?_, ?_, ?_⟩
      · intro i
        simpa [Provider.step] using hp.read i
      · simpa [Provider.step] using hp.poll
      · simpa [Provider.step] using hp.purge
  | task around =>
      have hgiven := (p.frame_advance around).2.1
      have hstreams := (p.pipe_advance around).1
      refine ⟨hp.pipe_advance around, hshared, hp.closed_advance around, ?_, ?_, ?_⟩
      · intro i
        show _ = (p.advance around).pipe.given _ ++
          watchEvents k8sVer (plan i) ((p.advance around).streams i)
        rw [hgiven, hstreams]
        exact hp.read i
      · show ∀ we ∈ (p.advance around).pipe.given _, _
        rw [hgiven]
        exact hp.poll
      · show ∀ we ∈ (p.advance around).pipe.given _, _
        rw [hgiven]
        exact hp.purge
  | request r => exact ⟨hp.pipe, hshared, hp.closed, hp.read, hp.poll, hp.purge⟩

variable (k8sVer plan)

/-- **Every reachable state satisfies the invariant.** -/
theorem Provider.inv_run (streams : Fin n → List StreamItem)
    (schedule : List (Occurrence n R)) :
    ((Provider.start streams).run k8sVer plan access schedule).Inv k8sVer plan streams :=
  Provider.run_keeps k8sVer plan access (fun _ occ hp => hp.step access occ) schedule
    (Provider.inv_start k8sVer plan streams)

/-- **Events are delivered in order, once each.**  Whatever the schedule: what the ingest
task has taken and what waits in the channel are the events that entered it; those that
entered from a watch are a first part of all it has to send, in order; and as long as the
task runs, what the watch still holds and what it has not read yet are the rest. -/
theorem events_delivered (streams : Fin n → List StreamItem)
    (schedule : List (Occurrence n R)) :
    let p := (Provider.start streams).run k8sVer plan access schedule
    p.pipe.entered.map Prod.snd = p.pipe.taken ++ p.pipe.channel.messages ∧
      ∀ i, p.pipe.enteredFrom (.watch i) <+: watchEvents k8sVer (plan i) (streams i) ∧
        (p.phase.isStopped = false →
          watchEvents k8sVer (plan i) (streams i) =
            p.pipe.enteredFrom (.watch i) ++ (p.pipe.senders (.watch i)).pending ++
              watchEvents k8sVer (plan i) (p.streams i)) := by
  intro p
  have hp : p.Inv k8sVer plan streams := Provider.inv_run k8sVer plan access streams schedule
  refine ⟨hp.pipe.kept, fun i => ⟨?_, fun hrunning => ?_⟩⟩
  · rw [hp.read i]
    exact (hp.pipe.inOrder _).trans (List.prefix_append _ _)
  · rw [hp.read i, hp.pipe.sent (hp.closed.trans hrunning)]

/-! ## When the ingest task has ended -/

variable {k8sVer plan}

/-- A watch that has ended stays so. -/
theorem Provider.crashed_step {f : Feeder n} (hcrashed : p.pipe.senders f = .crashed)
    (occ : Occurrence n R) :
    (p.step k8sVer plan access occ).pipe.senders f = .crashed := by
  cases occ with
  | reads i =>
      rcases p.reads_cases k8sVer plan i with heq | ⟨item, rest, -, -, heq⟩
      · rwa [Provider.step, heq]
      · rw [Provider.step, heq]
        exact Pipeline.give_crashed hcrashed _
  | pollTick => exact Pipeline.give_crashed hcrashed _
  | purgeTick => exact Pipeline.give_crashed hcrashed _
  | feeds g => exact Pipeline.push_crashed hcrashed
  | task around => exact (congrFun (p.frame_advance around).1 f).trans hcrashed
  | request r => exact hcrashed

/-- The timers do not end. -/
theorem Provider.survivorsLive_step (hp : p.pipe.SurvivorsLive Feeder.survives)
    (occ : Occurrence n R) :
    (p.step k8sVer plan access occ).pipe.SurvivorsLive Feeder.survives := by
  cases occ with
  | reads i =>
      rcases p.reads_cases k8sVer plan i with heq | ⟨item, rest, -, -, heq⟩
      · rwa [Provider.step, heq]
      · rw [Provider.step, heq]
        exact hp.give _ _
  | pollTick => exact hp.give _ _
  | purgeTick => exact hp.give _ _
  | feeds g => exact hp.push g
  | task around =>
      intro f hf
      have hsender := congrFun (p.frame_advance around).1 f
      exact (congrArg Sender.isCrashed hsender).trans (hp f hf)
  | request r => exact hp

/-- The part of a provider that no occurrence changes any more. -/
structure Provider.Frozen (p p' : Provider n) : Prop where
  phase : p'.phase = .stopped
  closed : p'.pipe.closed = true
  cache : p'.cache = p.cache
  entered : p'.pipe.entered = p.pipe.entered
  taken : p'.pipe.taken = p.pipe.taken

/-- Once the ingest task has ended, an occurrence changes nothing of that part. -/
theorem Provider.frozen_step (hphase : p.phase = .stopped) (hclosed : p.pipe.closed = true)
    (occ : Occurrence n R) : p.Frozen (p.step k8sVer plan access occ) := by
  cases occ with
  | reads i =>
      rcases p.reads_cases k8sVer plan i with heq | ⟨item, rest, -, -, heq⟩
      · rw [Provider.step, heq]
        exact ⟨hphase, hclosed, rfl, rfl, rfl⟩
      · rw [Provider.step, heq]
        exact ⟨hphase, by simpa using hclosed, rfl, by simp, by simp⟩
  | pollTick => exact ⟨hphase, by simpa [Provider.step] using hclosed, rfl,
      by simp [Provider.step], by simp [Provider.step]⟩
  | purgeTick => exact ⟨hphase, by simpa [Provider.step] using hclosed, rfl,
      by simp [Provider.step], by simp [Provider.step]⟩
  | feeds f =>
      exact ⟨hphase, by simpa [Provider.step] using hclosed, rfl,
        Pipeline.push_entered_of_closed hclosed f, by simp [Provider.step]⟩
  | task around =>
      have hadvance : p.advance around = p.settle p.shared := by
        rw [Provider.advance_of_busy (by simp [hphase])]
        simp [Shared.advance, Provider.shared, hphase]
      have hstopped : p.shared.phase.isStopped = true := by
        simp [Provider.shared, hphase, Phase.isStopped]
      show p.Frozen (p.advance around)
      rw [hadvance, Provider.settle, if_pos hstopped]
      exact ⟨hphase, rfl, rfl, rfl, rfl⟩
  | request r => exact ⟨hphase, hclosed, rfl, rfl, rfl⟩

theorem Provider.frozen_run (schedule : List (Occurrence n R)) (hphase : p.phase = .stopped)
    (hclosed : p.pipe.closed = true) : p.Frozen (p.run k8sVer plan access schedule) := by
  refine Provider.run_keeps k8sVer plan access (fun p' occ hfrozen => ?_) schedule
    ⟨hphase, hclosed, rfl, rfl, rfl⟩
  have hstep : p'.Frozen (p'.step k8sVer plan access occ) :=
    p'.frozen_step access hfrozen.phase hfrozen.closed occ
  exact ⟨hstep.phase, hstep.closed, hstep.cache.trans hfrozen.cache,
    hstep.entered.trans hfrozen.entered, hstep.taken.trans hfrozen.taken⟩

omit [UnicodeTables] in
theorem Phase.isStopped_iff {phase : Phase} : phase.isStopped = true ↔ phase = .stopped := by
  cases phase <;> simp [Phase.isStopped]

variable (k8sVer plan)

/-- **What is left when the ingest task has ended.**  Whatever happens then: the cache stays
as it is, nothing is taken from the channel and nothing enters it.  A watch ends as soon as
it has an event and its turn to send it, and for good; the timers never end.  As long as
the task runs no watch ends. -/
theorem stopped_for_good (streams : Fin n → List StreamItem)
    (front back : List (Occurrence n R)) :
    let p := (Provider.start streams).run k8sVer plan access front
    let p' := p.run k8sVer plan access back
    (p.phase.isStopped = true →
      (p'.phase.isStopped = true ∧ p'.cache = p.cache ∧
        p'.pipe.taken = p.pipe.taken ∧ p'.pipe.entered = p.pipe.entered) ∧
      ∀ i mid rest, back = mid ++ .feeds (.watch i) :: rest →
        ((p.run k8sVer plan access mid).pipe.senders (.watch i)).pending ≠ [] →
          p'.pipe.senders (.watch i) = .crashed) ∧
    ∀ f, p.pipe.senders f = .crashed →
      p.phase.isStopped = true ∧ ∃ i, f = .watch i := by
  intro p p'
  have hp : p.Inv k8sVer plan streams := Provider.inv_run k8sVer plan access streams front
  refine ⟨fun hstopped => ⟨?_, ?_⟩, fun f hcrashed => ⟨?_, ?_⟩⟩
  · have hfrozen : p.Frozen p' := Provider.frozen_run access back
      (Phase.isStopped_iff.mp hstopped) (hp.closed.trans hstopped)
    exact ⟨Phase.isStopped_iff.mpr hfrozen.phase, hfrozen.cache, hfrozen.taken,
      hfrozen.entered⟩
  · rintro i mid rest hback hpending
    have hmid : p.Frozen (p.run k8sVer plan access mid) := Provider.frozen_run access mid
      (Phase.isStopped_iff.mp hstopped) (hp.closed.trans hstopped)
    have hsplit : p' = ((p.run k8sVer plan access mid).step k8sVer plan access
        (.feeds (.watch i))).run k8sVer plan access rest := by
      show p.run k8sVer plan access back = _
      rw [hback, Provider.run_append]
      rfl
    rw [hsplit]
    exact Provider.run_keeps k8sVer plan access
      (P := fun q => q.pipe.senders (.watch i) = .crashed)
      (fun _ occ hcrashed => Provider.crashed_step access hcrashed occ) rest
      (Pipeline.push_of_closed hmid.closed rfl hpending)
  · by_contra hrunning
    have hopen : p.pipe.closed = false :=
      hp.closed.trans (Bool.not_eq_true _ ▸ hrunning)
    have halive := hp.pipe.alive hopen f
    rw [hcrashed] at halive
    exact absurd halive (by simp [Sender.isCrashed])
  · have hstart : (Provider.start streams).pipe.SurvivorsLive Feeder.survives :=
      fun _ _ => rfl
    have hlive : p.pipe.SurvivorsLive Feeder.survives :=
      Provider.run_keeps k8sVer plan access
        (P := fun q => q.pipe.SurvivorsLive Feeder.survives)
        (fun _ occ hlive => Provider.survivorsLive_step access hlive occ) front hstart
    cases f with
    | watch i => exact ⟨i, rfl⟩
    | poll => exact absurd (hlive .poll rfl) (by simp [hcrashed, Sender.isCrashed])
    | purge => exact absurd (hlive .purge rfl) (by simp [hcrashed, Sender.isCrashed])

end Steps

/-- A watch of all Pods. -/
def podWatch : ApiWithSelectors where
  labelSelectors := some []
  fieldSelectors := some []
  eventType := ""
  apiDyn := .allWith ⟨"", "v1", "v1", "Pod", "pods"⟩

/-- An addition of a Pod without a creation time. -/
def timelessPod : StreamItem :=
  .ok (.applied (.apply
    ⟨some ⟨"v1", "Pod"⟩, { ObjectMeta.empty with name := some "a", ns := some "x" },
      .object []⟩))

/-- The watch reads an item and sends it. -/
def readAndSend : List (Occurrence 1 IterOrder) := [.reads 0, .feeds (.watch 0)]

/-- The first of two such Pods ends the ingest task, the second one its watch. -/
theorem stopped_for_good_timelessPod :
    letI := UnicodeTables.asciiOnly
    let p := (Provider.start fun _ : Fin 1 => [timelessPod, timelessPod]).run "1.31"
      (fun _ => podWatch) (fun _ : IterOrder => none)
      (readAndSend ++ [.task ⟨0, ⟨true, fun _ => .found⟩⟩])
    p.phase.isStopped = true ∧
      (p.run "1.31" (fun _ => podWatch) (fun _ : IterOrder => none) readAndSend).pipe.senders
        (.watch 0) = .crashed := by
  let _ := UnicodeTables.asciiOnly
  have hstopped := stopped_for_good "1.31" (fun _ => podWatch) (fun _ : IterOrder => none)
    (fun _ : Fin 1 => [timelessPod, timelessPod])
    (readAndSend ++ [.task ⟨0, ⟨true, fun _ => .found⟩⟩]) readAndSend
  exact ⟨rfl, (hstopped.1 rfl).2 0 [.reads 0] [] rfl (List.cons_ne_nil _ _)⟩

end EntityProvider.Ingest
