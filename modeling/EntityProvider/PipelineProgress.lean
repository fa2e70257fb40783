import EntityProvider.EventPipeline
import Mathlib.Algebra.BigOperators.Group.Finset.Basic
import Mathlib.Algebra.Order.BigOperators.Group.Finset
import Mathlib.Data.Fintype.Basic
import Mathlib.Data.Prod.Lex
import Mathlib.Order.WellFounded

/-!
# The provider does not get stuck

The channel is bounded: a watch waits for room, and the ingest task waits for events and,
in the middle of a purge, for the API server.  `exists_progress` says that in every
reachable state with something left to do, one of the tasks can do it, unless the ingest
task has ended; `can_drain` says that they can go on until everything that the watches
have seen has been handled.

What is left to do is counted by `Provider.work`: an item that has not been read counts
three, an event that waits for room two, one in the channel one; and apart from these the
steps of the purge in progress.
-/

namespace EntityProvider.Ingest

open Kube AxKube Library

variable {n : ℕ}

/-! ## What is left to do -/

/-- Nothing is left to do. -/
structure Provider.Drained (p : Provider n) : Prop where
  streams : ∀ i, p.streams i = []
  senders : ∀ f, p.pipe.senders f = .live []
  channel : p.pipe.channel.messages = []
  phase : p.phase = .idle

/-- What is left of all events. -/
def Provider.load (p : Provider n) : ℕ :=
  3 * ∑ i, (p.streams i).length + 2 * ∑ f, (p.pipe.senders f).pending.length +
    p.pipe.channel.messages.length

/-- What is left to do: the events first, then the steps of a purge. -/
def Provider.work (p : Provider n) : ℕ ×ₗ ℕ := toLex (p.load, p.phase.rounds)

/-- An occurrence that is a task at work, with the ingest task in given surroundings. -/
inductive Occurrence.IsWork {R : Type*} (around : Surroundings) : Occurrence n R → Prop where
  | reads (i : Fin n) : IsWork around (.reads i)
  | feeds (f : Feeder n) : IsWork around (.feeds f)
  | task : IsWork around (.task around)

theorem work_lt_of_load {p p' : Provider n} (h : p'.load < p.load) : p'.work < p.work :=
  Prod.Lex.toLex_lt_toLex.mpr (Or.inl h)

theorem work_lt_of_rounds {p p' : Provider n} (hload : p'.load = p.load)
    (h : p'.phase.rounds < p.phase.rounds) : p'.work < p.work :=
  Prod.Lex.toLex_lt_toLex.mpr (Or.inr ⟨hload, h⟩)

/-- A sum changes by what one of its terms changes by. -/
theorem sum_length_update {ι α β : Type*} [Fintype ι] [DecidableEq ι] (size : α → List β)
    (values : ι → α) (i : ι) (value : α) :
    ∑ j, (size (Function.update values i value j)).length + (size (values i)).length =
      ∑ j, (size (values j)).length + (size value).length := by
  have hrest : ∑ j ∈ Finset.univ.erase i, (size (Function.update values i value j)).length =
      ∑ j ∈ Finset.univ.erase i, (size (values j)).length :=
    Finset.sum_congr rfl fun j hj => by
      rw [Function.update_of_ne (Finset.ne_of_mem_erase hj)]
  rw [← Finset.add_sum_erase _ _ (Finset.mem_univ i),
    ← Finset.add_sum_erase _ (fun j => (size (values j)).length) (Finset.mem_univ i), hrest,
    Function.update_self]
  omega

/-! ## One step -/

section Progress

variable (k8sVer : String) (plan : Fin n → ApiWithSelectors) [UnicodeTables]
variable {R : Type*} (access : R → Option (CacheMap → Checked Unit))

omit [UnicodeTables] in
/-- One item makes one event at most. -/
theorem length_watchEvents_singleton (apisel : ApiWithSelectors) (item : StreamItem) :
    (watchEvents k8sVer apisel [item]).length ≤ 1 := by
  have hcommands : (commandsOf item).length ≤ 1 := by
    unfold commandsOf
    split <;> simp
  simpa [watchEvents, watchLoop] using hcommands

/-- A watch that is ready reads the next item. -/
theorem Provider.load_reads {p : Provider n} {i : Fin n} {item : StreamItem}
    {rest : List StreamItem} (hstream : p.streams i = item :: rest)
    (hready : p.pipe.senders (.watch i) = .live []) :
    (p.step k8sVer plan access (.reads i)).load < p.load := by
  have hstep : p.step k8sVer plan access (.reads i) =
      { p with
        streams := Function.update p.streams i rest
        pipe := p.pipe.give (.watch i) (watchEvents k8sVer (plan i) [item]) } := by
    simp [Provider.step, Provider.reads, hstream, Sender.isReady_iff.mpr hready]
  have hlength := length_watchEvents_singleton k8sVer (plan i) item
  have hstreams := sum_length_update id p.streams i rest
  have hsenders := sum_length_update Sender.pending p.pipe.senders (.watch i)
    (.live (watchEvents k8sVer (plan i) [item]))
  rw [hstream] at hstreams
  rw [hready] at hsenders
  rw [hstep, Pipeline.give_of_ready hready]
  simp only [id_eq, Sender.pending_live, List.length_cons, List.length_nil]
    at hstreams hsenders
  simp only [Provider.load]
  omega

/-- An event enters the channel, if there is room. -/
theorem Provider.load_feeds {p : Provider n} (hopen : p.pipe.closed = false) {f : Feeder n}
    {we : WatchEvent} {rest : List WatchEvent}
    (hpending : p.pipe.senders f = .live (we :: rest))
    {channel : Channel WatchEvent 32} (hroom : p.pipe.channel.send? we = some channel) :
    (p.step k8sVer plan access (.feeds f)).load < p.load := by
  have hstep : p.step k8sVer plan access (.feeds f) =
      { p with
        pipe := { p.pipe with
          senders := Function.update p.pipe.senders f (.live rest)
          channel := channel
          entered := p.pipe.entered ++ [(f, we)] } } := by
    simp [Provider.step, Pipeline.push, hpending, hopen, hroom]
  have hmessages := congrArg List.length (Channel.messages_of_send? hroom)
  have hsenders := sum_length_update Sender.pending p.pipe.senders f (.live rest)
  rw [hpending] at hsenders
  rw [hstep]
  simp only [Sender.pending_live, List.length_cons, List.length_append, List.length_nil]
    at hsenders hmessages
  simp only [Provider.load]
  omega

/-- The ingest task takes an event. -/
theorem Provider.load_task {p : Provider n} (hidle : p.phase = .idle) {we : WatchEvent}
    {pipe : Pipeline (Feeder n) WatchEvent 32} (htake : p.pipe.take? = some (we, pipe))
    (around : Surroundings) :
    (p.step k8sVer plan access (.task around)).load < p.load := by
  have hsenders := (p.frame_advance around).1
  have hstreams := (p.pipe_advance around).1
  have hqueue : (p.advance around).pipe.channel.messages = pipe.channel.messages := by
    rw [Provider.advance_of_take hidle htake, Provider.channel_settle]
  obtain ⟨channel, hmessages, rfl⟩ := Pipeline.take?_eq_some htake
  show (p.advance around).load < p.load
  simp only [Provider.load, hsenders, hstreams, hqueue, hmessages, List.length_cons]
  omega

/-- A purge in progress comes one step closer to its end. -/
theorem Shared.rounds_advance {s : Shared} (hbusy : s.phase ≠ .idle)
    (hrunning : s.phase.isStopped = false) (around : Surroundings) :
    (s.advance around).phase.isStopped = true ∨
      (s.advance around).phase.rounds < s.phase.rounds := by
  unfold Shared.advance
  split
  next hstopped => simp [hstopped, Phase.isStopped] at hrunning
  next hidle => exact absurd hidle hbusy
  next api objs hphase =>
    refine Or.inr ?_
    cases hconnects : api.connects <;> simp [hphase, Phase.rounds, hconnects]
  next api obj pending missing hphase =>
    exact Or.inr (by simp [hphase, Phase.rounds])
  next api missing hphase =>
    split
    next => exact Or.inl rfl
    next =>
      dsimp only
      split
      next => exact Or.inr (by simp [hphase, Phase.rounds])
      next => exact Or.inl rfl

/-- A step of a purge in progress. -/
theorem Provider.work_task {p : Provider n} (hbusy : p.phase ≠ .idle)
    (hrunning : p.phase.isStopped = false) (around : Surroundings) :
    (p.advance around).phase.isStopped = true ∨ (p.advance around).work < p.work := by
  have hphase : (p.advance around).phase = (p.shared.advance around).phase :=
    congrArg Shared.phase (p.shared_advance around)
  rw [hphase]
  refine (Shared.rounds_advance (s := p.shared) hbusy hrunning around).imp_right
    fun hless => ?_
  refine work_lt_of_rounds ?_ (by rwa [hphase])
  have hqueue : (p.advance around).pipe.channel.messages = p.pipe.channel.messages := by
    rw [Provider.advance_of_busy hbusy, Provider.channel_settle]
  simp only [Provider.load, (p.frame_advance around).1, (p.pipe_advance around).1, hqueue]

variable {k8sVer plan} {streams : Fin n → List StreamItem} {p : Provider n}

/-- **Somebody can always go on.**  If the ingest task has not ended and something is left
to do, then a watch can read on, or a feeder can send, or the ingest task makes a step, and
less is left to do, unless the ingest task ends with this step. -/
theorem Provider.Inv.exists_progress (hp : p.Inv k8sVer plan streams)
    (hrunning : p.phase.isStopped = false) (hleft : ¬ p.Drained) (around : Surroundings) :
    ∃ occ : Occurrence n R, occ.IsWork around ∧
      ((p.step k8sVer plan access occ).phase.isStopped = true ∨
        (p.step k8sVer plan access occ).work < p.work) := by
  have hopen : p.pipe.closed = false := hp.closed.trans hrunning
  by_cases hidle : p.phase = .idle
  · cases htake : p.pipe.take? with
    | some received =>
        obtain ⟨we, pipe⟩ := received
        exact ⟨.task around, .task,
          Or.inr (work_lt_of_load (p.load_task k8sVer plan access hidle htake around))⟩
    | none =>
        have hempty := Pipeline.take?_eq_none_iff.mp htake
        by_cases hready : ∀ f, p.pipe.senders f = .live []
        · -- everything read has been sent, so something is left to read
          have hunread : ¬ ∀ i, p.streams i = [] := fun hstreams =>
            hleft ⟨hstreams, hready, hempty, hidle⟩
          obtain ⟨i, hi⟩ := not_forall.mp hunread
          obtain ⟨item, rest, hstream⟩ := List.exists_cons_of_ne_nil hi
          exact ⟨.reads i, .reads i,
            Or.inr (work_lt_of_load (p.load_reads k8sVer plan access hstream (hready _)))⟩
        · obtain ⟨f, hf⟩ := not_forall.mp hready
          have halive := hp.pipe.alive hopen f
          have hpending : (p.pipe.senders f).pending ≠ [] := by
            intro hnone
            cases hsender : p.pipe.senders f with
            | live pending =>
                rw [hsender] at hf hnone
                exact hf (congrArg Sender.live hnone)
            | crashed => simp [hsender, Sender.isCrashed] at halive
          obtain ⟨we, rest, hsome⟩ := List.exists_cons_of_ne_nil hpending
          obtain ⟨channel, hroom, -⟩ :=
            Channel.exists_send?_of_nil (by decide) hempty we
          exact ⟨.feeds f, .feeds f, Or.inr (work_lt_of_load (p.load_feeds k8sVer plan access
            hopen (Sender.eq_live_of_pending hsome) hroom))⟩
  · exact ⟨.task around, .task, p.work_task hidle hrunning around⟩

/-- From any state with the invariant the tasks can go on until nothing is left to do. -/
theorem Provider.Inv.exists_drain (around : Surroundings) (hp : p.Inv k8sVer plan streams) :
    ∃ back : List (Occurrence n R), (∀ occ ∈ back, occ.IsWork around) ∧
      ((p.run k8sVer plan access back).phase.isStopped = true ∨
        (p.run k8sVer plan access back).Drained) := by
  induction hwork : p.work using WellFoundedLT.induction generalizing p with
  | ind work ih =>
      cases hrunning : p.phase.isStopped with
      | true => exact ⟨[], by simp, Or.inl hrunning⟩
      | false =>
          by_cases hdrained : p.Drained
          · exact ⟨[], by simp, Or.inr hdrained⟩
          · obtain ⟨occ, hocc, hstopped | hless⟩ :=
              hp.exists_progress access hrunning hdrained around
            · exact ⟨[occ], by simpa using hocc, Or.inl hstopped⟩
            · obtain ⟨back, hback, hend⟩ := ih _ (hwork ▸ hless) (hp.step access occ) rfl
              refine ⟨occ :: back, ?_, hend⟩
              rintro other (_ | ⟨_, hother⟩)
              · exact hocc
              · exact hback other hother

/-- Once the provider is drained, the ingest task has taken all that was sent. -/
theorem Provider.Inv.taken_of_drained (hp : p.Inv k8sVer plan streams)
    (hdrained : p.Drained) :
    p.pipe.taken = p.pipe.entered.map Prod.snd ∧
      ∀ i, p.pipe.enteredFrom (.watch i) = watchEvents k8sVer (plan i) (streams i) := by
  have hopen : p.pipe.closed = false := by
    rw [hp.closed, hdrained.phase]
    rfl
  refine ⟨by rw [hp.pipe.kept, hdrained.channel, List.append_nil], fun i => ?_⟩
  rw [hp.read i, hp.pipe.sent hopen, hdrained.senders, hdrained.streams]
  simp [watchEvents, watchLoop]

variable (k8sVer plan)

/-- **Everything is handled in the end.**  Whatever has happened, the watches, the timers and
the ingest task can go on, without anything else happening, until the ingest task has ended
or everything the streams yield has been taken by it, once and in the order of each
stream. -/
theorem can_drain (streams : Fin n → List StreamItem) (front : List (Occurrence n R))
    (around : Surroundings) :
    ∃ back : List (Occurrence n R), (∀ occ ∈ back, occ.IsWork around) ∧
      let p := (Provider.start streams).run k8sVer plan access (front ++ back)
      p.phase.isStopped = true ∨
        p.Drained ∧ p.pipe.taken = p.pipe.entered.map Prod.snd ∧
          ∀ i, p.pipe.enteredFrom (.watch i) = watchEvents k8sVer (plan i) (streams i) := by
  have hfront := Provider.inv_run k8sVer plan access streams front
  obtain ⟨back, hback, hend⟩ := hfront.exists_drain access around
  refine ⟨back, hback, ?_⟩
  have hp := Provider.inv_run k8sVer plan access streams (front ++ back)
  rw [← Provider.run_append] at hend
  exact hend.imp_right fun hdrained => ⟨hdrained, hp.taken_of_drained hdrained⟩

end Progress

end EntityProvider.Ingest
