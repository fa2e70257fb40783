import EntityProvider.CacheInvariant
import EntityProvider.Mirror
import EntityProvider.PurgeOutcome

/-!
# Catching up

What the provider knows may be behind: items wait in the streams, events in the channel, and
an object may be gone without an event that says so.  The watches and the ingest task make up
for the first two, and a purge for some of the last.

`can_catch_up` puts them together.  From whatever state a schedule has led to, the tasks can
go on until everything the streams yield has been handled.  A tick of the purge timer then
removes exactly those entries whose request the API server answers with `None`
(`RemovesExactly`).  This is less than making the cache agree with the cluster.  An entry
stays without being asked for if its object has no namespace, no types or an odd
`apiVersion`; it stays if its request fails; and without a client everything stays.

Two things can prevent even this: a request has poisoned the mutex, or the ingest task has
taken an event about an object without a creation time, which is what ends it
(`Provider.runsWhileCreated_run`).
-/

namespace EntityProvider.Ingest

open Std (ExtTreeMap)
open Kube AxKube Library

section Purge

variable {n : ℕ} [UnicodeTables] (k8sVer : String) (plan : Fin n → ApiWithSelectors)
variable {R : Type*} (access : R → Option (CacheMap → Checked Unit))

/-! ## A purge from the timer to its end -/

/-- The purge timer ticks and sends, and the ingest task makes the steps of the purge. -/
def purgeSchedule (around : Surroundings) (db : CacheMap) : List (Occurrence n R) :=
  .purgeTick :: .feeds .purge ::
    List.replicate (purgeRounds around.api db + 1) (.task around)

/-- Steps of the ingest task alone are steps of the shared cache, whatever requests do. -/
theorem Provider.shared_run_task (around : Surroundings) (m : ℕ) :
    ∀ p : Provider n,
      (p.run k8sVer plan access (List.replicate m (.task around))).shared =
        p.shared.run (fun _ : R => none) (List.replicate m (.task around)) := by
  induction m with
  | zero => intro p; rfl
  | succ m ih =>
      intro p
      have hstep : (p.step k8sVer plan access (.task around)).shared =
          p.shared.step (fun _ : R => none) (.task around) := p.shared_advance around
      rw [List.replicate_succ, List.replicate_succ, Shared.run_cons, ← hstep]
      exact ih _

variable {k8sVer plan} {streams : Fin n → List StreamItem} {p : Provider n}

/-! ## Why the ingest task ends -/

/-- An event ends the task exactly if its object has no creation time. -/
theorem Shared.Inv.running_handle_iff {s : Shared} (hs : s.Inv)
    (hpoisoned : s.poisoned = false)
    (hrunning : s.phase.isStopped = false) (around : Surroundings) (we : WatchEvent) :
    (s.handle around we).phase.isStopped = false ↔ Created we := by
  unfold Shared.handle
  split
  next hnone => simp [hrunning, Created, commandObject, hnone]
  next hpurge => simp [hpoisoned, Phase.isStopped, Created, commandObject, hpurge]
  next =>
    rw [← panic_handleWatchEvent_iff hs.keyed around we]
    cases hpanic : (handleWatchEvent around s.cache we).panic with
    | none => simp [hpanic, hpoisoned, hrunning]
    | some why => simp [hpanic, Phase.isStopped]

/-- A purge in progress does not end the task. -/
theorem Shared.Inv.running_advance {s : Shared} (hs : s.Inv) (hpoisoned : s.poisoned = false)
    (hbusy : s.phase ≠ .idle) (around : Surroundings) :
    (s.advance around).phase.isStopped = s.phase.isStopped := by
  cases hphase : s.phase with
  | idle => exact absurd hphase hbusy
  | stopped => simp [Shared.advance, hphase]
  | connecting api objs | checking api pending missing =>
      have hapi : s.phase.api = some api := by rw [hphase]; rfl
      rcases advance_of_purging hs hapi around with
        ⟨-, hstep⟩ | ⟨phase, hnext, -, hstep⟩
      · rw [hstep, if_neg (by simp [hpoisoned])]
        rfl
      · rw [hstep]
        cases phase with
        | idle | stopped => simp [Phase.api] at hnext
        | connecting api objs | checking api pending missing => rfl

/-- Whether the task still runs is up to the events it has taken. -/
def Provider.RunsWhileCreated (p : Provider n) : Prop :=
  p.phase.isStopped = false ↔ ∀ we ∈ p.pipe.taken, Created we

theorem Provider.Inv.runsWhileCreated_advance (hp : p.Inv k8sVer plan streams)
    (hpoisoned : p.poisoned = false) (hruns : p.RunsWhileCreated) (around : Surroundings) :
    (p.advance around).RunsWhileCreated := by
  have hphase : (p.advance around).phase = (p.shared.advance around).phase :=
    congrArg Shared.phase (p.shared_advance around)
  unfold Provider.RunsWhileCreated
  by_cases hidle : p.phase = .idle
  · cases htake : p.pipe.take? with
    | none => rwa [Provider.advance_of_empty hidle htake]
    | some received =>
        obtain ⟨we, pipe⟩ := received
        have hrunning : p.phase.isStopped = false := by rw [hidle]; rfl
        obtain ⟨channel, hmessages, -⟩ := Pipeline.take?_eq_some htake
        have hhandle : p.shared.advance around =
            ({ p.shared with queue := channel.messages } : Shared).handle around we := by
          simp [Shared.advance, Provider.shared, hidle, hmessages]
        have hinv : ({ p.shared with queue := channel.messages } : Shared).Inv :=
          ⟨hp.shared.keyed, hp.shared.purging⟩
        rw [hphase, hhandle, hinv.running_handle_iff hpoisoned hrunning around we,
          Provider.taken_advance_of_take hidle htake, List.forall_mem_append,
          List.forall_mem_singleton]
        exact ⟨fun hwe => ⟨hruns.mp hrunning, hwe⟩, And.right⟩
  · rw [hphase, hp.shared.running_advance hpoisoned hidle around,
      Provider.advance_of_busy hidle, Provider.taken_settle]
    exact hruns

/-- **As long as the mutex is not poisoned**, the ingest task runs exactly if everything it
has taken is about objects with a creation time. -/
theorem Provider.runsWhileCreated_run (streams : Fin n → List StreamItem)
    (schedule : List (Occurrence n R)) :
    ((Provider.start streams).run k8sVer plan access schedule).poisoned = false →
      ((Provider.start streams).run k8sVer plan access schedule).RunsWhileCreated := by
  induction schedule using List.reverseRecOn with
  | nil => exact fun _ => ⟨fun _ we hwe => absurd hwe (by simp [Provider.run, Provider.start,
      Pipeline.start]), fun _ => rfl⟩
  | append_singleton schedule occ ih =>
      rw [Provider.run_append]
      intro hafter
      generalize hp :
        (Provider.start streams).run k8sVer plan access schedule = p at ih hafter ⊢
      have hinv : p.Inv k8sVer plan streams :=
        hp ▸ Provider.inv_run k8sVer plan access _ schedule
      -- a poisoned mutex stays so
      have hpoisoned : p.poisoned = false := by
        obtain ⟨actions, -, hstep, -⟩ := p.shared_step k8sVer plan access occ
        cases hbefore : p.poisoned with
        | false => rfl
        | true =>
            have hstays :=
              poisoned_run_of_poisoned access actions p.shared hinv.shared hbefore
            rw [← hstep] at hstays
            exact absurd (hstays.symm.trans hafter) (by simp)
      have hruns := ih hpoisoned
      cases occ with
      | reads i =>
          rcases p.reads_cases k8sVer plan i with heq | ⟨item, rest, -, -, heq⟩ <;>
            simpa [Provider.RunsWhileCreated, Provider.run, Provider.step, heq] using hruns
      | pollTick | purgeTick | feeds f | request r =>
          simpa [Provider.RunsWhileCreated, Provider.run, Provider.step] using hruns
      | task around => exact hinv.runsWhileCreated_advance hpoisoned hruns around

/-- When nothing is left to do, the event of the purge timer is alone in the channel. -/
theorem Provider.Inv.shared_purgeTick (hp : p.Inv k8sVer plan streams)
    (hdrained : p.Drained) :
    (p.run k8sVer plan access [.purgeTick, .feeds .purge]).shared =
      { p.shared with queue := [.purgeTick] } := by
  have hopen : p.pipe.closed = false := by
    rw [hp.closed, hdrained.phase]
    rfl
  obtain ⟨channel, hsend, hmessages⟩ :=
    Channel.exists_send?_of_nil (by decide) hdrained.channel WatchEvent.purgeTick
  simp [Provider.run, Provider.step, Pipeline.give_of_ready (hdrained.senders .purge),
    Pipeline.push, hopen, hsend, hmessages, Provider.shared]

/-- **A purge** at a time when nothing else is left to do removes the entries that are
reported missing, and nothing else. -/
theorem Provider.Inv.run_purgeSchedule (hp : p.Inv k8sVer plan streams) (hdrained : p.Drained)
    (hpoisoned : p.poisoned = false) (around : Surroundings) :
    (p.run k8sVer plan access (purgeSchedule around p.cache)).phase = .idle ∧
      (p.run k8sVer plan access (purgeSchedule around p.cache)).cache =
        purged around.api p.cache := by
  let due : Shared := { p.shared with queue := [.purgeTick] }
  have hinv : due.Inv := ⟨hp.shared.keyed, hp.shared.purging⟩
  -- the steps of the purge, with the last one apart
  obtain ⟨m, hm⟩ : ∃ m, purgeRounds around.api p.cache = m + 1 := ⟨_, rfl⟩
  let during : List (Action R) := List.replicate m (.task around)
  let before : Shared := due.run (fun _ => none) (.task around :: during)
  have hcount : during.countP Action.isTask + 1 = purgeRounds around.api due.cache :=
    (congrArg (· + 1) (List.countP_replicate ..)).trans hm.symm
  have hreturns : ReturnsWhen (fun _ : R => none) fun _ _ => True := by
    intro r db
    simp
  have hup : before.poisoned = false :=
    (run_requests hreturns _ due hinv hpoisoned).1.mpr
      (requestsMeet_of_forall (fun _ _ => trivial) _ due)
  obtain ⟨hphase, hcache⟩ : (before.advance around).phase = .idle ∧
      (before.advance around).cache = purged around.api p.cache :=
    (run_of_purge hinv hdrained.phase rfl rfl around around hcount).1 hup
  have hrun : (p.run k8sVer plan access (purgeSchedule around p.cache)).shared =
      before.advance around := by
    have hsplit : (.purgeTick :: .feeds .purge :: List.replicate (m + 1 + 1) (.task around) :
        List (Occurrence n R)) =
          [.purgeTick, .feeds .purge] ++ List.replicate (m + 1 + 1) (.task around) := rfl
    rw [purgeSchedule, hm, hsplit, Provider.run_append, Provider.shared_run_task,
      hp.shared_purgeTick access hdrained, List.replicate_succ, List.replicate_succ']
    simp [before, during, due, Shared.run, Shared.step]
  rw [← hrun] at hphase hcache
  exact ⟨hphase, hcache⟩

variable (k8sVer plan)

/-! ## From any state -/

/-- **The provider has caught up**: at first with its streams (`p`), and then, as far as a
purge goes, with what is gone from the cluster (`p'`). -/
structure CaughtUp (streams : Fin n → List StreamItem) (schedule : List (Occurrence n R))
    (api : KubeApi) (p p' : Provider n) : Prop where
  drained : p.Drained
  idle : p'.phase = .idle
  /-- The cache is what it was, less exactly the entries whose request was answered with
  `None`; without a client it is what it was. -/
  cache : RemovesExactly api p.cache p'.cache
  /-- A key that only one watch sends events about holds what the last of them stored there,
  if no purge has found it missing. -/
  mirrors : ∀ i k obj, OnlyFrom k8sVer plan streams i k →
    (p'.cache[k]? = some obj ↔
      (lastWith (AboutKey k) (watchEvents k8sVer (plan i) (streams i))).bind storedBy =
          some obj ∧
        KeptSince k obj ((Provider.start streams).log k8sVer plan access schedule) ∧
        keptByPurge api obj = true)

/-- **The provider can always catch up.**  Whatever has happened, the tasks can go on until
everything the streams yield has been handled, and a tick of the purge timer with the steps
that it sets off then removes the entries whose request is answered with `None`, and keeps
all others; unless the mutex is poisoned, or an event about an object without a creation
time has ended the ingest task. -/
theorem can_catch_up (streams : Fin n → List StreamItem) (front : List (Occurrence n R))
    (around : Surroundings) :
    ∃ back : List (Occurrence n R), (∀ occ ∈ back, occ.IsWork around) ∧
      let p := (Provider.start streams).run k8sVer plan access (front ++ back)
      p.poisoned = true ∨ (∃ we ∈ p.pipe.taken, ¬ Created we) ∨
        CaughtUp k8sVer plan access streams (front ++ back) around.api p
          (p.run k8sVer plan access (purgeSchedule around p.cache)) := by
  have hfront := Provider.inv_run k8sVer plan access streams front
  obtain ⟨back, hback, hend⟩ := hfront.exists_drain access around
  refine ⟨back, hback, ?_⟩
  intro p
  have hp : p.Inv k8sVer plan streams :=
    Provider.inv_run k8sVer plan access streams (front ++ back)
  rw [← Provider.run_append] at hend
  cases hpoisoned : p.poisoned with
  | true => exact Or.inl rfl
  | false =>
      refine Or.inr ?_
      have hruns : p.RunsWhileCreated :=
        Provider.runsWhileCreated_run access streams (front ++ back) hpoisoned
      rcases hend with hstopped | hdrained
      · left
        by_contra! hcreated
        exact absurd (hstopped.symm.trans (hruns.mpr hcreated)) (by simp)
      · right
        obtain ⟨hidle, hcache⟩ := hp.run_purgeSchedule access hdrained hpoisoned around
        have hexact := removesExactly_purged around.api p.cache
        refine ⟨hdrained, hidle, hcache ▸ hexact, fun i k obj honly => ?_⟩
        rw [hcache, purged, ExtTreeMap.getElem?_filter', Option.filter_eq_some_iff,
          cached_iff_of_drained access hdrained, lastWith_entered access hdrained honly,
          and_assoc]
        rfl

end Purge

end EntityProvider.Ingest
