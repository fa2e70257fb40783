import EntityProvider.Library.RequestReply
import EntityProvider.Library.Streams
import Mathlib.Logic.Function.Basic

/-!
# Several senders, one receiver

Senders share one bounded channel.  Each has messages to send, one after the other,
and waits while the channel is full; the receiver takes the oldest message.  When the
receiver is gone the channel is closed: a send then fails, and a sender either goes
on without that message or ends.

## Main definitions

* `Pipeline`: the senders, the channel, and their history: what each sender was given to
  send, what entered the channel and from whom, and what was taken out
* `Pipeline.give`, `.push`, `.take?`, `.close`: the steps, which may come in any order
* `Pipeline.Inv`: what was taken and what is in the channel is what entered it (`kept`), and
  as long as the channel is open, what has entered from a sender and what it still holds is
  what it was given (`sent`)

## Main results

* `Pipeline.Inv.give`, `.push`, `.take`, `.close`: every step keeps the invariant.
* `Pipeline.Inv.isMerge`: once nobody holds anything back, the channel has carried a merge of
  all that the senders were given.
* `Pipeline.push_of_closed`: a sender that does not survive a failed send ends with it.
* `Pipeline.map_give`, `.map_push`, `.map_take?`: no step looks into a message.  With the
  messages translated, the same steps lead to the same pipeline, translated.

## Design notes

The history is part of the state but no step reads it, so it can be left out of a program
without a change to what the program does.  A sender that is blocked in a full channel and
one that has not had its turn yet are the same state: it holds a message.
-/

namespace Library

/-- A sender, by what it has still to send. -/
inductive Sender (α : Type*) where
  /-- It has these messages to send, the first one first, before it is ready again. -/
  | live (pending : List α)
  /-- It has ended on a send that failed. -/
  | crashed

/-- The messages a sender holds.  One that has ended holds none: what it had is lost. -/
def Sender.pending {α : Type*} : Sender α → List α
  | .live pending => pending
  | .crashed => []

@[simp] theorem Sender.pending_live {α : Type*} (pending : List α) :
    (Sender.live pending).pending = pending := rfl

/-- Is the sender done with all it was given, and able to be given more? -/
def Sender.isReady {α : Type*} : Sender α → Bool
  | .live [] => true
  | _ => false

/-- Has the sender ended? -/
def Sender.isCrashed {α : Type*} : Sender α → Bool
  | .live _ => false
  | .crashed => true

/-- The senders, the channel, whether the receiver is gone, and the history. -/
structure Pipeline (ι α : Type*) (cap : ℕ) where
  senders : ι → Sender α
  channel : Channel α cap
  closed : Bool
  /-- All that each sender was given to send. -/
  given : ι → List α
  /-- All that entered the channel, with its sender. -/
  entered : List (ι × α)
  /-- All that was taken out of the channel. -/
  taken : List α

section Pipeline

variable {ι α : Type*} {cap : ℕ}

/-- The start: nobody has anything to send, and the channel is empty and open. -/
def Pipeline.start : Pipeline ι α cap where
  senders _ := .live []
  channel := .empty
  closed := false
  given _ := []
  entered := []
  taken := []

variable [DecidableEq ι]

/-- What an entry in the channel shows of sender `i`: its message, if it is from this
sender. -/
def sentBy (i : ι) (entry : ι × α) : Option α :=
  if entry.1 = i then some entry.2 else none

@[simp] theorem sentBy_self (i : ι) (a : α) : sentBy i (i, a) = some a := if_pos rfl

theorem sentBy_of_ne {i j : ι} (hne : j ≠ i) (a : α) : sentBy i (j, a) = none := if_neg hne

/-- What has entered the channel from sender `i` so far, in the order it was sent. -/
def Pipeline.enteredFrom (p : Pipeline ι α cap) (i : ι) : List α :=
  p.entered.filterMap (sentBy i)

/-! ## Steps -/

/-- Give messages to a sender that is ready.  For any other sender this changes nothing. -/
def Pipeline.give (p : Pipeline ι α cap) (i : ι) (messages : List α) : Pipeline ι α cap :=
  if (p.senders i).isReady then
    { p with
      senders := Function.update p.senders i (.live messages)
      given := Function.update p.given i (p.given i ++ messages) }
  else p

/-- A sender's turn.  Its next message enters the channel if there is room; if the
channel is closed the message is lost, and `survives` says whether the sender goes on. -/
def Pipeline.push (survives : ι → Bool) (p : Pipeline ι α cap) (i : ι) : Pipeline ι α cap :=
  match p.senders i with
  | .live (a :: rest) =>
      if p.closed then
        { p with
          senders := Function.update p.senders i
            (if survives i then .live rest else .crashed) }
      else
        match p.channel.send? a with
        | some channel =>
            { p with
              senders := Function.update p.senders i (.live rest)
              channel := channel
              entered := p.entered ++ [(i, a)] }
        | none => p
  | _ => p

/-- The receiver takes the oldest message, if there is one.  It does not see which sender it
is from. -/
def Pipeline.take? (p : Pipeline ι α cap) : Option (α × Pipeline ι α cap) :=
  p.channel.recv?.map fun received =>
    (received.1, { p with channel := received.2, taken := p.taken ++ [received.1] })

/-- The receiver is gone, and what is still in the channel is never taken. -/
def Pipeline.close (p : Pipeline ι α cap) : Pipeline ι α cap := { p with closed := true }

/-! ## What the steps keep -/

/-- What holds between steps, however many there were and in whatever order. -/
structure Pipeline.Inv (p : Pipeline ι α cap) : Prop where
  kept : p.entered.map Prod.snd = p.taken ++ p.channel.messages
  inOrder : ∀ i, p.enteredFrom i <+: p.given i
  sent : p.closed = false → ∀ i, p.given i = p.enteredFrom i ++ (p.senders i).pending
  alive : p.closed = false → ∀ i, (p.senders i).isCrashed = false

variable {survives : ι → Bool} {p p' : Pipeline ι α cap}

theorem Pipeline.inv_start : (Pipeline.start : Pipeline ι α cap).Inv where
  kept := rfl
  inOrder _ := List.prefix_rfl
  sent _ _ := rfl
  alive _ _ := rfl

theorem Sender.isReady_iff {s : Sender α} : s.isReady = true ↔ s = .live [] := by
  unfold Sender.isReady
  split
  next => simp
  next hbusy => simpa using fun h => hbusy h

omit [DecidableEq ι] in
theorem Sender.eq_live_of_pending {s : Sender α} {a : α} {rest : List α}
    (h : s.pending = a :: rest) : s = .live (a :: rest) := by
  cases s with
  | live pending => exact congrArg Sender.live h
  | crashed => exact absurd h (by simp [Sender.pending])

theorem Pipeline.give_of_ready {i : ι} (hready : p.senders i = .live []) (messages : List α) :
    p.give i messages =
      { p with
        senders := Function.update p.senders i (.live messages)
        given := Function.update p.given i (p.given i ++ messages) } := by
  rw [Pipeline.give, if_pos (Sender.isReady_iff.mpr hready)]

theorem Pipeline.give_of_busy {i : ι} (hbusy : p.senders i ≠ .live []) (messages : List α) :
    p.give i messages = p := by
  rw [Pipeline.give, if_neg fun h => hbusy (Sender.isReady_iff.mp h)]

@[simp] theorem Pipeline.give_channel (i : ι) (messages : List α) :
    (p.give i messages).channel = p.channel := by
  unfold Pipeline.give
  split <;> rfl

@[simp] theorem Pipeline.give_entered (i : ι) (messages : List α) :
    (p.give i messages).entered = p.entered := by
  unfold Pipeline.give
  split <;> rfl

@[simp] theorem Pipeline.give_taken (i : ι) (messages : List α) :
    (p.give i messages).taken = p.taken := by
  unfold Pipeline.give
  split <;> rfl

@[simp] theorem Pipeline.give_closed (i : ι) (messages : List α) :
    (p.give i messages).closed = p.closed := by
  unfold Pipeline.give
  split <;> rfl

/-- What a sender was given, it was given before or just now. -/
theorem Pipeline.mem_given_give {i j : ι} {messages : List α} {a : α}
    (h : a ∈ (p.give i messages).given j) : a ∈ p.given j ∨ (j = i ∧ a ∈ messages) := by
  unfold Pipeline.give at h
  split at h
  next =>
    rcases eq_or_ne j i with rfl | hne
    · simpa using h
    · exact Or.inl (by simpa [Function.update_of_ne hne] using h)
  next => exact Or.inl h

theorem Pipeline.given_give_of_ne {i j : ι} (hne : j ≠ i) (messages : List α) :
    (p.give i messages).given j = p.given j := by
  unfold Pipeline.give
  split
  · exact Function.update_of_ne hne _ _
  · rfl

/-- **A sender's turn** does nothing, or loses a message in a closed channel, or puts one
into an open channel. -/
theorem Pipeline.push_cases (survives : ι → Bool) (p : Pipeline ι α cap) (i : ι) :
    p.push survives i = p ∨
      (p.closed = true ∧ ∃ a rest, p.senders i = .live (a :: rest) ∧
        p.push survives i =
          { p with
            senders := Function.update p.senders i
              (if survives i then .live rest else .crashed) }) ∨
      (p.closed = false ∧ ∃ a rest channel, p.senders i = .live (a :: rest) ∧
        p.channel.send? a = some channel ∧
        p.push survives i =
          { p with
            senders := Function.update p.senders i (.live rest)
            channel := channel
            entered := p.entered ++ [(i, a)] }) := by
  unfold Pipeline.push
  split
  next a rest hsender =>
    split
    next hclosed => exact Or.inr (Or.inl ⟨hclosed, a, rest, hsender, rfl⟩)
    next hopen =>
      split
      next channel hsend =>
        exact Or.inr (Or.inr ⟨by simpa using hopen, a, rest, channel, hsender, hsend, rfl⟩)
      next => exact Or.inl rfl
  next => exact Or.inl rfl

@[simp] theorem Pipeline.push_given (i : ι) : (p.push survives i).given = p.given := by
  rcases p.push_cases survives i with heq | ⟨-, _, _, -, heq⟩ | ⟨-, _, _, _, -, -, heq⟩ <;>
    rw [heq]

@[simp] theorem Pipeline.push_taken (i : ι) : (p.push survives i).taken = p.taken := by
  rcases p.push_cases survives i with heq | ⟨-, _, _, -, heq⟩ | ⟨-, _, _, _, -, -, heq⟩ <;>
    rw [heq]

/-- Nothing enters a closed channel, whoever's turn it is. -/
theorem Pipeline.push_entered_of_closed (hclosed : p.closed = true) (i : ι) :
    (p.push survives i).entered = p.entered := by
  rcases p.push_cases survives i with heq | ⟨-, _, _, -, heq⟩ | ⟨hopen, _, _, _, -, -, -⟩
  · rw [heq]
  · rw [heq]
  · exact absurd (hclosed.symm.trans hopen) (by simp)

@[simp] theorem Pipeline.push_closed (i : ι) : (p.push survives i).closed = p.closed := by
  rcases p.push_cases survives i with heq | ⟨-, _, _, -, heq⟩ | ⟨-, _, _, _, -, -, heq⟩ <;>
    rw [heq]

/-- Giving messages keeps the invariant: they are noted as given where they become pending. -/
theorem Pipeline.Inv.give (hp : p.Inv) (i : ι) (messages : List α) :
    (p.give i messages).Inv := by
  by_cases hready : p.senders i = .live []
  · rw [Pipeline.give_of_ready hready]
    refine ⟨hp.kept, fun j => ?_, fun hopen j => ?_, fun hopen j => ?_⟩
    · show p.enteredFrom j <+: Function.update p.given i (p.given i ++ messages) j
      rcases eq_or_ne j i with rfl | hne
      · simpa using (hp.inOrder j).trans (List.prefix_append _ messages)
      · simpa [Function.update_of_ne hne] using hp.inOrder j
    · rcases eq_or_ne j i with rfl | hne
      · -- it held nothing, so all it was given before has entered
        have hsent : p.given j = p.enteredFrom j ++ (p.senders j).pending := hp.sent hopen j
        rw [hready] at hsent
        have hgiven : p.given j = p.enteredFrom j := by simpa [Sender.pending] using hsent
        simp only [Function.update_self, hgiven]
        rfl
      · simp only [Function.update_of_ne hne]
        exact hp.sent hopen j
    · rcases eq_or_ne j i with rfl | hne
      · simp [Sender.isCrashed]
      · simpa [Function.update_of_ne hne] using hp.alive hopen j
  · rwa [Pipeline.give_of_busy hready]

theorem Pipeline.enteredFrom_concat_self (p : Pipeline ι α cap) (i : ι) (a : α) :
    (p.entered ++ [(i, a)]).filterMap (sentBy i) = p.enteredFrom i ++ [a] := by
  simp [Pipeline.enteredFrom]

theorem Pipeline.enteredFrom_concat_of_ne (p : Pipeline ι α cap) {i j : ι} (hne : j ≠ i)
    (a : α) : (p.entered ++ [(i, a)]).filterMap (sentBy j) = p.enteredFrom j := by
  simp [Pipeline.enteredFrom, sentBy_of_ne hne.symm]

/-- **A sender's turn keeps the invariant.**  A message that enters an open channel leaves its
sender at the same time. -/
theorem Pipeline.Inv.push (hp : p.Inv) (survives : ι → Bool) (i : ι) :
    (p.push survives i).Inv := by
  rcases p.push_cases survives i with heq | ⟨hclosed, a, rest, -, heq⟩ |
      ⟨hopen, a, rest, channel, hsender, hsend, heq⟩
  · rwa [heq]
  · rw [heq]
    exact ⟨hp.kept, hp.inOrder, fun h => absurd (hclosed.symm.trans h) (by simp),
      fun h => absurd (hclosed.symm.trans h) (by simp)⟩
  · rw [heq]
    have hgiven : p.given i = p.enteredFrom i ++ a :: rest := by
      have hsent := hp.sent hopen i
      rwa [hsender] at hsent
    refine ⟨?_, fun j => ?_, fun _ j => ?_, fun _ j => ?_⟩
    · simp [hp.kept, Channel.messages_of_send? hsend]
    · rcases eq_or_ne j i with rfl | hne
      · show (p.entered ++ [(j, a)]).filterMap (sentBy j) <+: p.given j
        rw [p.enteredFrom_concat_self, hgiven]
        exact ⟨rest, by simp⟩
      · show (p.entered ++ [(i, a)]).filterMap (sentBy j) <+: p.given j
        rw [p.enteredFrom_concat_of_ne hne]
        exact hp.inOrder j
    · rcases eq_or_ne j i with rfl | hne
      · show p.given j = (p.entered ++ [(j, a)]).filterMap (sentBy j) ++ _
        rw [p.enteredFrom_concat_self, hgiven]
        simp [Sender.pending]
      · show p.given j = (p.entered ++ [(i, a)]).filterMap (sentBy j) ++ _
        rw [p.enteredFrom_concat_of_ne hne]
        simpa [Function.update_of_ne hne] using hp.sent hopen j
    · rcases eq_or_ne j i with rfl | hne
      · simp [Sender.isCrashed]
      · simpa [Function.update_of_ne hne] using hp.alive hopen j

omit [DecidableEq ι] in
/-- What the receiver takes is the oldest message, and nothing else changes. -/
theorem Pipeline.take?_eq_some {a : α} (h : p.take? = some (a, p')) :
    ∃ channel, p.channel.messages = a :: channel.messages ∧
      p' = { p with channel := channel, taken := p.taken ++ [a] } := by
  unfold Pipeline.take? at h
  obtain ⟨⟨b, channel⟩, hrecv, heq⟩ := Option.map_eq_some_iff.mp h
  obtain ⟨rfl, rfl⟩ := Prod.mk.inj heq
  exact ⟨channel, Channel.messages_of_recv? hrecv, rfl⟩

omit [DecidableEq ι] in
theorem Pipeline.take?_eq_none_iff : p.take? = none ↔ p.channel.messages = [] := by
  rw [Pipeline.take?, Option.map_eq_none_iff, Channel.recv?_eq_none_iff]

/-- Taking a message keeps the invariant: it moves from the channel to what was taken. -/
theorem Pipeline.Inv.take (hp : p.Inv) {a : α} (h : p.take? = some (a, p')) : p'.Inv := by
  obtain ⟨channel, hmessages, rfl⟩ := Pipeline.take?_eq_some h
  exact ⟨by simp [hp.kept, hmessages], hp.inOrder, hp.sent, hp.alive⟩

/-- Closing the channel keeps the invariant, of which the part about senders is then void. -/
theorem Pipeline.Inv.close (hp : p.Inv) : p.close.Inv :=
  ⟨hp.kept, hp.inOrder, fun h => absurd h (by simp [Pipeline.close]),
    fun h => absurd h (by simp [Pipeline.close])⟩

/-! ## Senders that have ended -/

/-- A sender that has ended is given nothing, and stays so. -/
theorem Pipeline.give_crashed {i j : ι} (hcrashed : p.senders j = .crashed)
    (messages : List α) : (p.give i messages).senders j = .crashed := by
  by_cases hready : p.senders i = .live []
  · have hne : j ≠ i := by
      rintro rfl
      exact absurd (hcrashed.symm.trans hready) (by simp)
    rw [Pipeline.give_of_ready hready]
    exact (Function.update_of_ne hne _ _).trans hcrashed
  · rwa [Pipeline.give_of_busy hready]

theorem Pipeline.push_crashed {i j : ι} (hcrashed : p.senders j = .crashed) :
    (p.push survives i).senders j = .crashed := by
  have hne : ∀ {a rest}, p.senders i = .live (a :: rest) → j ≠ i := by
    rintro a rest hsender rfl
    exact absurd (hcrashed.symm.trans hsender) (by simp)
  rcases p.push_cases survives i with heq | ⟨-, a, rest, hsender, heq⟩ |
      ⟨-, a, rest, channel, hsender, -, heq⟩
  · rwa [heq]
  · rw [heq]
    exact (Function.update_of_ne (hne hsender) _ _).trans hcrashed
  · rw [heq]
    exact (Function.update_of_ne (hne hsender) _ _).trans hcrashed

/-- A sender that does not survive ends with what it sends into a closed channel. -/
theorem Pipeline.push_of_closed (hclosed : p.closed = true) {i : ι}
    (hmortal : survives i = false) (hpending : (p.senders i).pending ≠ []) :
    (p.push survives i).senders i = .crashed := by
  obtain ⟨a, rest, hsome⟩ := List.exists_cons_of_ne_nil hpending
  simp [Pipeline.push, Sender.eq_live_of_pending hsome, hclosed, hmortal]

/-- Only senders that do not survive a failed send end.  The others go on for good. -/
def Pipeline.SurvivorsLive (survives : ι → Bool) (p : Pipeline ι α cap) : Prop :=
  ∀ i, survives i = true → (p.senders i).isCrashed = false

theorem Pipeline.SurvivorsLive.give (hp : p.SurvivorsLive survives) (i : ι)
    (messages : List α) : (p.give i messages).SurvivorsLive survives := by
  intro j hj
  unfold Pipeline.give
  split
  · rcases eq_or_ne j i with rfl | hne
    · simp [Sender.isCrashed]
    · simpa [Function.update_of_ne hne] using hp j hj
  · exact hp j hj

theorem Pipeline.SurvivorsLive.push (hp : p.SurvivorsLive survives) (i : ι) :
    (p.push survives i).SurvivorsLive survives := by
  intro j hj
  rcases p.push_cases survives i with heq | ⟨-, a, rest, -, heq⟩ | ⟨-, a, rest, _, -, -, heq⟩
  · rw [heq]
    exact hp j hj
  · rw [heq]
    rcases eq_or_ne j i with rfl | hne
    · simp [hj, Sender.isCrashed]
    · simpa [Function.update_of_ne hne] using hp j hj
  · rw [heq]
    rcases eq_or_ne j i with rfl | hne
    · simp [Sender.isCrashed]
    · simpa [Function.update_of_ne hne] using hp j hj

/-! ## Once everything is sent -/

/-- If only sender `i` sends messages with a property, the last of these in the channel is
the last one from `i`. -/
theorem lastWith_sentBy {test : α → Bool} {i : ι} {entries : List (ι × α)}
    (hown : ∀ entry ∈ entries, test entry.2 = true → entry.1 = i) :
    lastWith test (entries.map Prod.snd) = lastWith test (entries.filterMap (sentBy i)) := by
  induction entries using List.reverseRecOn with
  | nil => rfl
  | append_singleton entries entry ih =>
      have hrest := ih fun e he => hown e (List.mem_append_left _ he)
      obtain ⟨j, a⟩ := entry
      rw [List.map_append, List.filterMap_append, List.map_singleton, lastWith_concat, hrest]
      by_cases htest : test a = true
      · obtain rfl : j = i := hown (j, a) (by simp) htest
        rw [if_pos htest, List.filterMap_cons_some (sentBy_self j a), List.filterMap_nil,
          lastWith_concat, if_pos htest]
      · rw [if_neg htest]
        rcases eq_or_ne j i with rfl | hne
        · rw [List.filterMap_cons_some (sentBy_self j a), List.filterMap_nil, lastWith_concat,
            if_neg htest]
        · rw [List.filterMap_cons_none (sentBy_of_ne hne a), List.filterMap_nil,
            List.append_nil]

/-- **The channel carries a merge.**  Once no sender of an open pipeline holds anything,
what has entered the channel is a merge of all that the senders were given. -/
theorem Pipeline.Inv.isMerge (hp : p.Inv) (hopen : p.closed = false)
    (hready : ∀ i, p.senders i = .live []) : IsMerge sentBy p.given p.entered := by
  intro i
  have hsent := hp.sent hopen i
  rw [hready i] at hsent
  simpa [Sender.pending, Pipeline.enteredFrom] using hsent.symm

end Pipeline

/-! ## Translating messages -/

section Map

variable {ι α β : Type*} {cap : ℕ} (f : α → β)

/-- A channel with its messages translated, each by itself; there are as many as before. -/
def Channel.map (c : Channel α cap) : Channel β cap :=
  ⟨c.messages.map f, by rw [List.length_map]; exact c.bounded⟩

/-- A sender with its messages translated, which has ended exactly if the sender has. -/
def Sender.map : Sender α → Sender β
  | .live pending => .live (pending.map f)
  | .crashed => .crashed

/-- A pipeline with all its messages translated, those of its history as well. -/
def Pipeline.map (p : Pipeline ι α cap) : Pipeline ι β cap where
  senders i := (p.senders i).map f
  channel := p.channel.map f
  closed := p.closed
  given i := (p.given i).map f
  entered := p.entered.map (Prod.map id f)
  taken := p.taken.map f

@[simp] theorem Channel.messages_map (c : Channel α cap) :
    (c.map f).messages = c.messages.map f := rfl

@[simp] theorem Pipeline.map_senders (p : Pipeline ι α cap) (i : ι) :
    (p.map f).senders i = (p.senders i).map f := rfl

@[simp] theorem Pipeline.map_channel (p : Pipeline ι α cap) :
    (p.map f).channel = p.channel.map f := rfl

@[simp] theorem Pipeline.map_closed (p : Pipeline ι α cap) :
    (p.map f).closed = p.closed := rfl

@[simp] theorem Pipeline.map_start :
    (Pipeline.start : Pipeline ι α cap).map f = .start := rfl

@[simp] theorem Pipeline.map_close (p : Pipeline ι α cap) :
    p.close.map f = (p.map f).close := rfl

theorem Channel.map_send? (c : Channel α cap) (a : α) :
    (c.map f).send? (f a) = (c.send? a).map (Channel.map f) := by
  unfold Channel.send? Channel.map
  simp only [List.length_map]
  split <;> simp

theorem Channel.map_recv? (c : Channel α cap) :
    (c.map f).recv? = c.recv?.map (Prod.map f (Channel.map f)) := by
  obtain ⟨messages, hbounded⟩ := c
  cases messages <;> rfl

theorem Sender.isReady_map (s : Sender α) : (s.map f).isReady = s.isReady := by
  rcases s with ⟨_ | _⟩ | _ <;> rfl

/-- From a translated pipeline the receiver takes the translation of what it takes
otherwise. -/
theorem Pipeline.map_take? (p : Pipeline ι α cap) :
    (p.map f).take? = p.take?.map (Prod.map f (Pipeline.map f)) := by
  rw [Pipeline.take?, Pipeline.map_channel, Channel.map_recv?, Pipeline.take?]
  cases p.channel.recv? with
  | none => rfl
  | some received => simp [Pipeline.map]

variable [DecidableEq ι]

theorem map_update {γ δ : Type*} (g : γ → δ) (h : ι → γ) (i : ι) (c : γ) :
    (fun j => g (Function.update h i c j)) = Function.update (fun j => g (h j)) i (g c) :=
  Function.comp_update g h i c

/-- Giving messages and translating, or translating and giving translated messages: both lead
to the same pipeline. -/
theorem Pipeline.map_give (p : Pipeline ι α cap) (i : ι) (messages : List α) :
    (p.give i messages).map f = (p.map f).give i (messages.map f) := by
  unfold Pipeline.give
  rw [Pipeline.map_senders, Sender.isReady_map]
  split
  · simp only [Pipeline.map, map_update, List.map_append]
    rfl
  · rfl

/-- **A sender's turn does not look at the messages**, so it may be taken before or after they
are translated. -/
theorem Pipeline.map_push (survives : ι → Bool) (p : Pipeline ι α cap) (i : ι) :
    (p.push survives i).map f = (p.map f).push survives i := by
  unfold Pipeline.push
  rw [Pipeline.map_senders]
  rcases p.senders i with ⟨_ | ⟨a, rest⟩⟩ | _
  · rfl
  · simp only [Sender.map, List.map_cons, Pipeline.map_closed, Pipeline.map_channel,
      Channel.map_send?]
    split
    · simp only [Pipeline.map, map_update]
      split <;> rfl
    · cases p.channel.send? a with
      | none => rfl
      | some channel =>
          simp only [Pipeline.map, map_update, List.map_append, Option.map_some]
          rfl
  · rfl

end Map

end Library
