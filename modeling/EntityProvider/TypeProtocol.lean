import EntityProvider.CacheRefinement
import EntityProvider.Library.RequestReply

/-!
# The ingest loop and the parser as two processes

`process_dynobj` does not call the parser: it sends the resource URL over one channel and
takes the types off another, and the parser task answers on its own time.  This module
runs the two processes side by side, in any order of their steps and of the arriving
events.

An `Exchange` is where both are: the events that wait, the cache, the event in hand, and
the `Link` of the two channels.  `Exchange.Inv` says that the link has nothing under way
except for the untyped object in hand, and that the cache is what the loop would have
built if the parser were a function: `Exchange.Inv.task_eq`.  So the sequential model of
the ingest loop is the right one.  What is left to do (`Exchange.work`) gets less with
every turn that both of them take, so they do not wait for each other forever either.
`types_are_not_crossed` has both.
-/

namespace EntityProvider.Ingest

open Kube AxKube Library

/-! ## Two processes -/

/-- What the ingest loop has in hand. -/
inductive InHand where
  /-- Nothing: it waits for an event. -/
  | nothing
  /-- An object without types, inside `process_dynobj`. -/
  | resolving (input : Surroundings × WatchEvent) (obj : DynamicObject)
  /-- An object with the types it is to be stored with. -/
  | resolved (input : Surroundings × WatchEvent) (obj : DynamicObject)
      (types : Option TypeMeta)

/-- The event in hand, if there is one. -/
def InHand.toList : InHand → List (Surroundings × WatchEvent)
  | .nothing => []
  | .resolving input _ | .resolved input _ _ => [input]

/-- The ingest loop, the parser task and the channels between them. -/
structure Exchange where
  queue : List (Surroundings × WatchEvent)
  task : IngestTask
  inHand : InHand
  link : Link String (Option TypeMeta) 32

/-- Both tasks when they are spawned. -/
def Exchange.start : Exchange := ⟨[], .start, .nothing, .start⟩

/-- What happens next. -/
inductive Turn where
  /-- An event arrives. -/
  | arrive (input : Surroundings × WatchEvent)
  /-- The ingest loop makes a step. -/
  | ingest
  /-- The parser makes a step. -/
  | parse

/-- The events that arrive. -/
def arrivals (turns : List Turn) : List (Surroundings × WatchEvent) :=
  turns.filterMap fun
    | .arrive input => some input
    | .ingest | .parse => none

/-- The end of `process_dynobj`: drop the annotation and clear the managed fields. -/
def stripped (objWithType : DynamicObject) : DynamicObject :=
  { objWithType with
    metadata :=
      { objWithType.metadata with
        annotations :=
          some ((objWithType.metadata.annotations.getD ∅).erase
            "kubectl.kubernetes.io/last-applied-configuration")
        managedFields := some [] } }

section Steps

variable [UnicodeTables]

omit [UnicodeTables] in
/-- The beginning of `process_dynobj`: an object with types keeps them, and for one without
the parser is asked. -/
def Exchange.processDynobj (s : Exchange) (input : Surroundings × WatchEvent)
    (obj : DynamicObject) : Exchange :=
  match obj.types with
  | some tp => { s with inHand := .resolved input obj (some tp) }
  | none => { s with inHand := .resolving input obj, link := s.link.ask input.2.resourceUrl }

/-- The loop takes an event. -/
def Exchange.receive (s : Exchange) (input : Surroundings × WatchEvent) : Exchange :=
  match input.2.command with
  | .add obj | .update obj => s.processDynobj input obj
  | _ =>
      let task := s.task.step input
      { s with task := task, link := if task.running then s.link else s.link.hangUp }

omit [UnicodeTables] in
/-- The loop stores an object with these types, unless it panics on the age. -/
def Exchange.store (s : Exchange) (input : Surroundings × WatchEvent) (obj : DynamicObject)
    (types : Option TypeMeta) : Exchange :=
  let objToAdd := stripped { obj with types := types }
  match formatCreationSince input.1.now objToAdd.creationTimestamp with
  | .error _ =>
      { s with
        inHand := .nothing
        task := ⟨s.task.cache, false⟩
        link := s.link.hangUp }
  | .ok _age =>
      { s with
        inHand := .nothing
        task := ⟨s.task.cache.insert (cacheKey objToAdd) objToAdd, s.task.running⟩ }

/-- A step of the ingest loop. -/
def Exchange.ingest (s : Exchange) : Exchange :=
  if s.task.running then
    match s.inHand with
    | .nothing =>
        match s.queue with
        | [] => s
        | input :: rest => { s with queue := rest }.receive input
    | .resolving input obj =>
        match s.link.call with
        | .pending link => { s with link := link }
        | .answered reply link =>
            { s with link := link, inHand := .resolved input obj reply.join }
        -- the error is logged, and the event passed over
        | .refused link => { s with link := link, inHand := .nothing }
    | .resolved input obj types => s.store input obj types
  else s

/-- One turn. -/
def Exchange.step (s : Exchange) : Turn → Exchange
  | .arrive input => { s with queue := s.queue ++ [input] }
  | .ingest => s.ingest
  | .parse => { s with link := s.link.serve parseTypeMeta }

/-- A run of turns. -/
def Exchange.run (s : Exchange) (turns : List Turn) : Exchange :=
  turns.foldl Exchange.step s

/-! ## The invariant -/

/-- The event is an `Add` or `Update` of the object. -/
def Reports (input : Surroundings × WatchEvent) (obj : DynamicObject) : Prop :=
  input.2.command = .add obj ∨ input.2.command = .update obj

/-- What the loop has in hand fits where the call to the parser is. -/
def Exchange.Fits (s : Exchange) : Prop :=
  match s.inHand with
  | .nothing => if s.task.running then s.link.caller = .idle else s.link.caller = .gone
  | .resolving input obj =>
      s.task.running = true ∧ Reports input obj ∧ obj.types = none ∧
        (s.link.caller = .asking input.2.resourceUrl ∨
          s.link.caller = .waiting input.2.resourceUrl)
  | .resolved input obj types =>
      s.task.running = true ∧ Reports input obj ∧ s.link.caller = .idle ∧
        types = obj.types.or (parseTypeMeta input.2.resourceUrl)

/-- What holds after the given events have arrived. -/
structure Exchange.Inv (arrived : List (Surroundings × WatchEvent)) (s : Exchange) :
    Prop where
  link : s.link.Inv parseTypeMeta
  fits : s.Fits
  /-- The events handled so far are those that have arrived, less the one in hand and
  those that wait; and they were handled as by the sequential loop. -/
  task_eq : ∃ done, arrived = done ++ s.inHand.toList ++ s.queue ∧
    s.task = IngestTask.start.run done

variable {arrived : List (Surroundings × WatchEvent)} {s : Exchange}

theorem Exchange.inv_start : Exchange.start.Inv [] where
  link := Link.inv_start
  fits := rfl
  task_eq := ⟨[], rfl, rfl⟩

theorem IngestTask.run_concat (done : List (Surroundings × WatchEvent))
    (input : Surroundings × WatchEvent) :
    IngestTask.start.run (done ++ [input]) = (IngestTask.start.run done).step input :=
  List.foldl_concat ..

/-- What `process_dynobj` returns, once the types are known. -/
theorem stripped_eq_processDynobj (obj : DynamicObject) (resourceUrl : String) :
    stripped { obj with types := obj.types.or (parseTypeMeta resourceUrl) } =
      processDynobj obj resourceUrl := rfl

/-- With nothing in hand, the loop has no call under way. -/
theorem Exchange.Inv.caller_of_nothing (hs : s.Inv arrived) (hrunning : s.task.running = true)
    (hnothing : s.inHand = .nothing) : s.link.caller = .idle := by
  have hfits := hs.fits
  rwa [Exchange.Fits, hnothing, if_pos hrunning] at hfits

/-- An event that reports no object is handled at once. -/
theorem Exchange.Inv.handle (hs : s.Inv arrived) {input : Surroundings × WatchEvent}
    {rest : List (Surroundings × WatchEvent)} (hrunning : s.task.running = true)
    (hnothing : s.inHand = .nothing) (hqueue : s.queue = input :: rest) :
    let task := s.task.step input
    Exchange.Inv arrived { s with
      queue := rest
      task := task
      link := if task.running then s.link else s.link.hangUp } := by
  obtain ⟨done, harrived, htask⟩ := hs.task_eq
  have hidle := hs.caller_of_nothing hrunning hnothing
  refine ⟨?_, ?_, done ++ [input], ?_, ?_⟩
  · show Link.Inv parseTypeMeta (if _ then _ else _)
    split
    · exact hs.link
    · exact hs.link.hangUp hidle
  · show Exchange.Fits _
    simp only [Exchange.Fits, hnothing]
    split
    next => simp [hidle]
    next => simp [Link.hangUp]
  · rw [harrived, hnothing, hqueue]
    simp [InHand.toList]
  · rw [IngestTask.run_concat, ← htask]

/-- **What is stored is what the sequential loop stores**, if the types are the object's own
or else the parser's for the event's resource URL. -/
theorem Exchange.task_store {input : Surroundings × WatchEvent} {obj : DynamicObject}
    (hrunning : s.task.running = true) (hreports : Reports input obj) :
    let types := obj.types.or (parseTypeMeta input.2.resourceUrl)
    (s.store input obj types).task = s.task.step input ∧
      (s.store input obj types).inHand = .nothing ∧
      (s.store input obj types).queue = s.queue ∧
      (s.store input obj types).link =
        if (s.task.step input).running then s.link else s.link.hangUp := by
  obtain ⟨around, ver, url, type, command⟩ := input
  dsimp only
  rw [Exchange.store, stripped_eq_processDynobj, processDynobj_creationTimestamp]
  cases hcreated : obj.creationTimestamp with
  | none =>
      rcases hreports with rfl | rfl <;>
        simp [IngestTask.step, hrunning, handleWatchEvent, hcreated]
  | some created =>
      rcases hreports with rfl | rfl <;>
        simp [IngestTask.step, hrunning, handleWatchEvent, hcreated]

/-- The object in hand is stored with its types. -/
theorem Exchange.Inv.store (hs : s.Inv arrived) {input : Surroundings × WatchEvent}
    {obj : DynamicObject} {types : Option TypeMeta}
    (hresolved : s.inHand = .resolved input obj types) :
    (s.store input obj types).Inv arrived := by
  obtain ⟨done, harrived, htask⟩ := hs.task_eq
  have hfits := hs.fits
  rw [Exchange.Fits, hresolved] at hfits
  obtain ⟨hrunning, hreports, hidle, rfl⟩ := hfits
  obtain ⟨hstep, hinHand, hqueue, hlink⟩ := s.task_store hrunning hreports
  refine ⟨?_, ?_, done ++ [input], ?_, ?_⟩
  · rw [hlink]
    split
    · exact hs.link
    · exact hs.link.hangUp hidle
  · simp only [Exchange.Fits, hinHand, hstep, hlink]
    split
    next => exact hidle
    next => rfl
  · rw [harrived, hinHand, hqueue, hresolved]
    simp [InHand.toList]
  · rw [IngestTask.run_concat, ← htask, hstep]

/-- A reported object is taken in hand. -/
theorem Exchange.Inv.processDynobj (hs : s.Inv arrived) {input : Surroundings × WatchEvent}
    {rest : List (Surroundings × WatchEvent)} (hrunning : s.task.running = true)
    (hnothing : s.inHand = .nothing) (hqueue : s.queue = input :: rest) {obj : DynamicObject}
    (hreports : Reports input obj) :
    (Exchange.processDynobj { s with queue := rest } input obj).Inv arrived := by
  obtain ⟨done, harrived, htask⟩ := hs.task_eq
  rw [hnothing, hqueue] at harrived
  have hsplit : arrived = done ++ [input] ++ rest := by simpa [InHand.toList] using harrived
  have hidle := hs.caller_of_nothing hrunning hnothing
  unfold Exchange.processDynobj
  split
  next tp htypes =>
    exact ⟨hs.link, ⟨hrunning, hreports, hidle, by rw [htypes]; rfl⟩, done, hsplit, htask⟩
  next htypes =>
    exact ⟨hs.link.ask hidle _, ⟨hrunning, hreports, htypes, Or.inl rfl⟩, done, hsplit, htask⟩

/-- An event is taken in hand, or handled at once. -/
theorem Exchange.Inv.receive (hs : s.Inv arrived) {input : Surroundings × WatchEvent}
    {rest : List (Surroundings × WatchEvent)} (hrunning : s.task.running = true)
    (hnothing : s.inHand = .nothing) (hqueue : s.queue = input :: rest) :
    (Exchange.receive { s with queue := rest } input).Inv arrived := by
  have hhandle := hs.handle hrunning hnothing hqueue
  have hreport : ∀ obj, Reports input obj →
      (Exchange.processDynobj { s with queue := rest } input obj).Inv arrived :=
    fun _ hreports => hs.processDynobj hrunning hnothing hqueue hreports
  unfold Exchange.receive
  split
  next obj hcommand => exact hreport obj (Or.inl hcommand)
  next obj hcommand => exact hreport obj (Or.inr hcommand)
  next => exact hhandle

/-- While the parser is asked, the loop has an untyped object in hand and asks for the types
that its event's resource URL stands for. -/
theorem Exchange.Inv.resolving (hs : s.Inv arrived) {input : Surroundings × WatchEvent}
    {obj : DynamicObject} (hinHand : s.inHand = .resolving input obj) :
    s.task.running = true ∧ Reports input obj ∧ obj.types = none ∧
      (s.link.caller = .asking input.2.resourceUrl ∨
        s.link.caller = .waiting input.2.resourceUrl) := by
  have hfits := hs.fits
  rwa [Exchange.Fits, hinHand] at hfits

/-- **A step of the loop keeps the invariant.** -/
theorem Exchange.Inv.ingest (hs : s.Inv arrived) : s.ingest.Inv arrived := by
  unfold Exchange.ingest
  split
  next hrunning =>
    split
    next hnothing =>
      split
      next => exact hs
      next input rest hqueue => exact hs.receive hrunning hnothing hqueue
    next input obj hinHand =>
      obtain ⟨-, hreports, htypes, hasking | hwaiting⟩ := hs.resolving hinHand
      · obtain ⟨link, hcall, hlink, hcaller, -⟩ :=
          hs.link.call_of_asking (by omega) hasking
        rw [hcall]
        refine ⟨hlink, ?_, hs.task_eq⟩
        simp only [Exchange.Fits, hinHand]
        exact ⟨hrunning, hreports, htypes, Or.inr hcaller⟩
      · rcases hs.link.call_of_waiting hwaiting with
          ⟨hcall, -⟩ | ⟨link, hcall, hlink, hcaller⟩
        · rw [hcall]
          exact hs
        · -- the reply is the parser's result for the URL that was sent, the event's own
          rw [hcall]
          refine ⟨hlink, ⟨hrunning, hreports, hcaller, ?_⟩, ?_⟩
          · rw [htypes, Option.none_or]
            rfl
          · obtain ⟨done, harrived, htask⟩ := hs.task_eq
            rw [hinHand] at harrived
            exact ⟨done, harrived, htask⟩
    next input obj types hinHand => exact hs.store hinHand
  next => exact hs

/-- A step of the parser keeps the invariant. -/
theorem Exchange.Inv.parse (hs : s.Inv arrived) :
    Exchange.Inv arrived { s with link := s.link.serve parseTypeMeta } where
  link := hs.link.serve (by omega)
  fits := by
    have hfits := hs.fits
    simp only [Exchange.Fits, Link.caller_serve] at hfits ⊢
    exact hfits
  task_eq := hs.task_eq

/-- **Every reachable state satisfies the invariant.** -/
theorem Exchange.Inv.run (turns : List Turn) :
    ∀ {s : Exchange} {arrived : List (Surroundings × WatchEvent)}, s.Inv arrived →
      (s.run turns).Inv (arrived ++ arrivals turns) := by
  induction turns with
  | nil =>
      intro s arrived hs
      rw [arrivals, List.filterMap_nil, List.append_nil]
      exact hs
  | cons turn rest ih =>
      intro s arrived hs
      cases turn with
      | arrive input =>
          have harrive : (s.step (.arrive input)).Inv (arrived ++ [input]) := by
            obtain ⟨done, harrived, htask⟩ := hs.task_eq
            refine ⟨hs.link, hs.fits, done, ?_, htask⟩
            show arrived ++ [input] = done ++ s.inHand.toList ++ (s.queue ++ [input])
            rw [harrived, List.append_assoc _ s.queue]
          have hrest := ih harrive
          rwa [List.append_assoc] at hrest
      | ingest => exact ih hs.ingest
      | parse => exact ih hs.parse

/-! ## Nobody waits forever -/

/-- What is left to do, in turns: at most six for each event that waits, and what the
event in hand still takes. -/
def Exchange.work (s : Exchange) : ℕ :=
  6 * s.queue.length +
    match s.inHand with
    | .nothing => 0
    | .resolving _ _ => 1 + s.link.rounds
    | .resolved _ _ _ => 1

/-- The loop and the parser take turns, `n` times. -/
def alternately : ℕ → List Turn
  | 0 => []
  | n + 1 => .ingest :: .parse :: alternately n

/-- A step of the parser adds no work. -/
theorem Exchange.Inv.work_parse_le (hs : s.Inv arrived) :
    Exchange.work { s with link := s.link.serve parseTypeMeta } ≤ s.work := by
  have hrounds := hs.link.rounds_serve_le (by omega)
  unfold Exchange.work
  cases hinHand : s.inHand with
  | nothing | resolved input obj types => simp
  | resolving input obj =>
      simp only
      omega

omit [UnicodeTables] in
theorem Exchange.work_of_nothing (hnothing : s.inHand = .nothing) :
    s.work = 6 * s.queue.length := by
  simp [Exchange.work, hnothing]

omit [UnicodeTables] in
theorem Exchange.work_of_resolving {input : Surroundings × WatchEvent} {obj : DynamicObject}
    (hinHand : s.inHand = .resolving input obj) :
    s.work = 6 * s.queue.length + (1 + s.link.rounds) := by
  simp [Exchange.work, hinHand]

omit [UnicodeTables] in
theorem Exchange.work_of_resolved {input : Surroundings × WatchEvent} {obj : DynamicObject}
    {types : Option TypeMeta} (hinHand : s.inHand = .resolved input obj types) :
    s.work = 6 * s.queue.length + 1 := by
  simp [Exchange.work, hinHand]

/-- Taking an event off the queue is progress, whatever it is. -/
theorem Exchange.work_receive_le (hnothing : s.inHand = .nothing)
    (input : Surroundings × WatchEvent) :
    (s.receive input).work ≤ 6 * s.queue.length + 5 := by
  have hreport : ∀ obj, (s.processDynobj input obj).work ≤ 6 * s.queue.length + 5 := by
    intro obj
    unfold Exchange.processDynobj
    split
    · rw [Exchange.work_of_resolved rfl]
      show 6 * s.queue.length + 1 ≤ _
      omega
    · rw [Exchange.work_of_resolving rfl]
      show 6 * s.queue.length + (1 + 4) ≤ _
      omega
  unfold Exchange.receive
  split
  · exact hreport _
  · exact hreport _
  · simp only [Exchange.work, hnothing]
    omega

/-- With nothing in hand, the turns take an event off the queue. -/
theorem Exchange.work_ingest_of_nothing (hrunning : s.task.running = true)
    (hnothing : s.inHand = .nothing) : s.ingest.work ≤ s.work - 1 := by
  have hwork := Exchange.work_of_nothing hnothing
  cases hqueue : s.queue with
  | nil =>
      have hstep : s.ingest = s := by simp [Exchange.ingest, hrunning, hnothing, hqueue]
      rw [hqueue, List.length_nil] at hwork
      rw [hstep]
      omega
  | cons input rest =>
      have hstep : s.ingest = Exchange.receive { s with queue := rest } input := by
        simp [Exchange.ingest, hrunning, hnothing, hqueue]
      have hreceive : s.ingest.work ≤ 6 * rest.length + 5 := by
        rw [hstep]
        exact Exchange.work_receive_le (s := { s with queue := rest }) hnothing input
      rw [hqueue, List.length_cons] at hwork
      omega

/-- With a parsed event in hand, the loop stores it. -/
theorem Exchange.Inv.work_ingest_of_resolved (hs : s.Inv arrived)
    (hrunning : s.task.running = true) {input : Surroundings × WatchEvent}
    {obj : DynamicObject} {types : Option TypeMeta}
    (hinHand : s.inHand = .resolved input obj types) :
    s.ingest.work ≤ s.work - 1 := by
  have hfits := hs.fits
  rw [Exchange.Fits, hinHand] at hfits
  obtain ⟨-, hreports, -, rfl⟩ := hfits
  obtain ⟨-, hnothing, hqueue, -⟩ := s.task_store hrunning hreports
  have hstep : s.ingest =
      s.store input obj (obj.types.or (parseTypeMeta input.2.resourceUrl)) := by
    simp [Exchange.ingest, hrunning, hinHand]
  have hnext : s.ingest.work = 6 * s.queue.length := by
    rw [hstep, Exchange.work_of_nothing hnothing, hqueue]
  have hwork := Exchange.work_of_resolved hinHand
  omega

/-- With a call in hand, either the loop gets on with it, or it waits and the parser brings
the call nearer to its return. -/
theorem Exchange.Inv.work_round_of_resolving (hs : s.Inv arrived)
    (hrunning : s.task.running = true) {input : Surroundings × WatchEvent}
    {obj : DynamicObject} (hinHand : s.inHand = .resolving input obj) :
    s.ingest.work ≤ s.work - 1 ∨
      (s.ingest = s ∧
        Exchange.work { s with link := s.link.serve parseTypeMeta } ≤ s.work - 1) := by
  have hwork := Exchange.work_of_resolving hinHand
  obtain ⟨-, -, -, hasking | hwaiting⟩ := hs.resolving hinHand
  · obtain ⟨link, hcall, -, -, hrounds⟩ := hs.link.call_of_asking (by omega) hasking
    have hstep : s.ingest = { s with link := link } := by
      simp [Exchange.ingest, hrunning, hinHand, hcall]
    have hnext : s.ingest.work = 6 * s.queue.length + (1 + link.rounds) := by
      rw [hstep]
      exact Exchange.work_of_resolving (s := { s with link := link }) hinHand
    omega
  · rcases hs.link.call_of_waiting hwaiting with ⟨hcall, hempty⟩ | ⟨link, hcall, -, -⟩
    · right
      have hstep : s.ingest = s := by
        simp only [Exchange.ingest, hrunning, if_true, hinHand, hcall]
        rw [← hinHand]
      refine ⟨hstep, ?_⟩
      rcases ((hs.link.outstanding hwaiting).serve (by omega) hwaiting).2 with
        hnearer | ⟨hreplies, -⟩
      · rw [Exchange.work_of_resolving (s := { s with link := s.link.serve parseTypeMeta })
          hinHand]
        show 6 * s.queue.length + (1 + (s.link.serve parseTypeMeta).rounds) ≤ _
        omega
      · exact absurd hempty hreplies
    · left
      have hstep : s.ingest =
          { s with
            link := link
            inHand := .resolved input obj (parseTypeMeta input.2.resourceUrl) } := by
        simp [Exchange.ingest, hrunning, hinHand, hcall]
      have hnext : s.ingest.work = 6 * s.queue.length + 1 := by
        rw [hstep]
        exact Exchange.work_of_resolved rfl
      have hrounds : 0 < s.link.rounds := by
        rw [Link.rounds, hwaiting]
        dsimp only
        omega
      omega

/-- **A turn each is progress**, as long as there is something to do. -/
theorem Exchange.Inv.work_round (hs : s.Inv arrived) (hrunning : s.task.running = true) :
    ((s.step .ingest).step .parse).work ≤ s.work - 1 := by
  have hparse : ((s.step .ingest).step .parse).work ≤ s.ingest.work := hs.ingest.work_parse_le
  cases hinHand : s.inHand with
  | nothing => exact hparse.trans (Exchange.work_ingest_of_nothing hrunning hinHand)
  | resolving input obj =>
      rcases hs.work_round_of_resolving hrunning hinHand with hingest | ⟨hstep, hserved⟩
      · exact hparse.trans hingest
      · rw [show s.step .ingest = s from hstep]
        exact hserved
  | resolved input obj types =>
      exact hparse.trans (hs.work_ingest_of_resolved hrunning hinHand)

/-- A loop that has panicked handles nothing more, whoever's turn it is. -/
theorem Exchange.task_run_of_stopped (n : ℕ) :
    ∀ s : Exchange, s.task.running = false → (s.run (alternately n)).task = s.task := by
  induction n with
  | zero => intro s _; rfl
  | succ n ih =>
      intro s hstopped
      have hstep : (s.step .ingest).step .parse =
          { s with link := s.link.serve parseTypeMeta } := by
        simp [Exchange.step, Exchange.ingest, hstopped]
      show (((s.step .ingest).step .parse).run (alternately n)).task = s.task
      rw [hstep]
      exact ih _ hstopped

/-- **Nobody waits forever.**  If the loop and the parser take turns, then after as many
turns as there was work everything that had arrived is handled, as by the sequential
loop. -/
theorem Exchange.Inv.run_alternately (n : ℕ) :
    ∀ s : Exchange, s.Inv arrived → s.work ≤ n →
      (s.run (alternately n)).task = IngestTask.start.run arrived := by
  induction n with
  | zero =>
      intro s hs hwork
      obtain ⟨done, harrived, htask⟩ := hs.task_eq
      unfold Exchange.work at hwork
      have hqueue : s.queue = [] := List.length_eq_zero_iff.mp (by omega)
      have hnothing : s.inHand.toList = [] := by
        cases hinHand : s.inHand with
        | nothing => rfl
        | resolving input obj | resolved input obj types =>
            simp only [hinHand] at hwork
            omega
      rw [harrived, hnothing, hqueue, List.append_nil, List.append_nil]
      exact htask
  | succ n ih =>
      intro s hs hwork
      cases hrunning : s.task.running with
      | true =>
          have hround := hs.work_round hrunning
          exact ih _ hs.ingest.parse (by omega)
      | false =>
          -- the loop had panicked before: the sequential one has stopped as well
          obtain ⟨done, harrived, htask⟩ := hs.task_eq
          rw [Exchange.task_run_of_stopped (n + 1) s hrunning, harrived, List.append_assoc,
            IngestTask.run, List.foldl_append, htask]
          exact (IngestTask.run_of_not_running (by rw [← hrunning, htask]) _).symm

/-- **Types are not crossed.**  In every state that the ingest loop and the parser reach,
in any order of their steps and of the arriving events: the types that an object is about
to be stored with are its own, or else what the parser makes of the resource URL of its
own event; the cache is the one that the sequential loop builds from the events handled so
far; there is at most one message in both channels, so that nobody waits for room; and if
the two take turns from here on, for long enough, the sequential loop's cache of all events
comes out. -/
theorem types_are_not_crossed (turns : List Turn) :
    let s := Exchange.start.run turns
    (∀ input obj types, s.inHand = .resolved input obj types →
        (input.2.command = .add obj ∨ input.2.command = .update obj) ∧
          types = obj.types.or (parseTypeMeta input.2.resourceUrl)) ∧
      (∃ done, arrivals turns = done ++ s.inHand.toList ++ s.queue ∧
        s.task = IngestTask.start.run done) ∧
      s.link.inFlight ≤ 1 ∧ ¬ s.link.Blocked ∧
      ∃ rounds, ∀ n, rounds ≤ n →
        (s.run (alternately n)).task = IngestTask.start.run (arrivals turns) := by
  intro s
  have hs : s.Inv (arrivals turns) := Exchange.inv_start.run turns
  refine ⟨fun input obj types hinHand => ?_, hs.task_eq, hs.link.inFlight_le_one,
    hs.link.not_blocked (by omega), s.work, fun n hn => hs.run_alternately n s hn⟩
  have hfits := hs.fits
  rw [Exchange.Fits, hinHand] at hfits
  exact ⟨hfits.2.1, hfits.2.2.2⟩

end Steps

end EntityProvider.Ingest
