import Mathlib.Order.Basic

/-!
# Requests and replies over two channels

A caller and a server talk over two bounded channels.  The caller sends a request and
waits for one reply; the server takes a request, computes its answer `f r` and sends
that back.  Nothing in a message says which request it belongs to.

Each party moves on its own, in any order.  What keeps the replies from being crossed is
that the caller has at most one request outstanding, and the server sends exactly one
reply for each.

## Main definitions

* `Channel`: a bounded channel, with the bound as part of the type
* `Link`: a caller, a server and a channel each way
* `Link.Inv`: nothing is under way, or one request is, and it is in one place
* `Link.rounds`: how many steps are left until a call returns

## Main results

* `Link.Inv.ask`, `.call_of_asking`, `.call_of_waiting`, `.serve`, `.hangUp`: every step of
  either party keeps the invariant.
* `Link.Inv.inFlight_le_one`: there is never more than one message in both channels together.
* `Link.Inv.not_blocked`: nobody waits for room.
* `Link.Inv.call_of_waiting`: an answer that arrives is the answer to the request that was
  sent.
* `Link.Outstanding.serve`: a step of the server brings an outstanding call nearer to its
  return, unless the answer is there to be read already.

## Design notes

The capacity is a parameter and only has to be positive: with one request outstanding, more
room makes no difference.  That the server has ended is part of its state, so a caller that
finds it gone is part of the model too; the invariant says that the server only ends after
the caller.
-/

namespace Library

/-! ## Bounded channels -/

/-- A channel: the messages in it, oldest first, never more than there is room for. -/
structure Channel (α : Type*) (cap : ℕ) where
  messages : List α
  bounded : messages.length ≤ cap

section Channel

variable {α : Type*} {cap : ℕ}

/-- The channel when it is created. -/
def Channel.empty : Channel α cap := ⟨[], Nat.zero_le cap⟩

/-- Put a message into the channel, behind all others, if there is room. -/
def Channel.send? (c : Channel α cap) (a : α) : Option (Channel α cap) :=
  if h : c.messages.length < cap then
    some ⟨c.messages ++ [a], by rw [List.length_append]; exact h⟩
  else none

/-- Take the oldest message, if there is one. -/
def Channel.recv? (c : Channel α cap) : Option (α × Channel α cap) :=
  match h : c.messages with
  | [] => none
  | a :: rest =>
      some (a, ⟨rest, by
        have hbounded := c.bounded
        rw [h, List.length_cons] at hbounded
        omega⟩)

@[simp] theorem Channel.messages_empty :
    (Channel.empty : Channel α cap).messages = [] := rfl

theorem Channel.send?_eq_none_iff {c : Channel α cap} {a : α} :
    c.send? a = none ↔ c.messages.length = cap := by
  have hbounded := c.bounded
  unfold Channel.send?
  split
  · simp
    omega
  · simp
    omega

theorem Channel.messages_of_send? {c c' : Channel α cap} {a : α}
    (hsend : c.send? a = some c') : c'.messages = c.messages ++ [a] := by
  unfold Channel.send? at hsend
  split at hsend
  · obtain rfl := Option.some.inj hsend
    rfl
  · exact absurd hsend (by simp)

theorem Channel.recv?_eq_none_iff {c : Channel α cap} :
    c.recv? = none ↔ c.messages = [] := by
  unfold Channel.recv?
  split <;> simp_all

theorem Channel.messages_of_recv? {c c' : Channel α cap} {a : α}
    (hrecv : c.recv? = some (a, c')) : c.messages = a :: c'.messages := by
  unfold Channel.recv? at hrecv
  split at hrecv
  · exact absurd hrecv (by simp)
  next h =>
    obtain ⟨rfl, rfl⟩ := Prod.mk.inj (Option.some.inj hrecv)
    exact h

/-- There is room in an empty channel, and what is sent is then all there is in it. -/
theorem Channel.exists_send?_of_nil (hcap : 0 < cap) {c : Channel α cap}
    (hnil : c.messages = []) (a : α) :
    ∃ c', c.send? a = some c' ∧ c'.messages = [a] := by
  cases hsend : c.send? a with
  | none =>
      rw [Channel.send?_eq_none_iff, hnil, List.length_nil] at hsend
      omega
  | some c' => exact ⟨c', rfl, by rw [Channel.messages_of_send? hsend, hnil, List.nil_append]⟩

/-- The only message of a channel can be taken, and leaves the channel empty. -/
theorem Channel.exists_recv?_of_singleton {c : Channel α cap} {a : α}
    (hone : c.messages = [a]) : ∃ c', c.recv? = some (a, c') ∧ c'.messages = [] := by
  cases hrecv : c.recv? with
  | none => exact absurd (Channel.recv?_eq_none_iff.mp hrecv) (by simp [hone])
  | some taken =>
      obtain ⟨b, c'⟩ := taken
      have hmessages := Channel.messages_of_recv? hrecv
      rw [hone] at hmessages
      obtain ⟨rfl, hrest⟩ := List.cons.inj hmessages
      exact ⟨c', rfl, hrest.symm⟩

end Channel

/-! ## The two parties -/

/-- Where the caller is in its program, with the request of the call that is under way. -/
inductive Caller (R : Type*) where
  /-- It wants nothing. -/
  | idle
  /-- It is about to send the request `r`, or waits for room. -/
  | asking (r : R)
  /-- It has sent `r` and waits for a reply. -/
  | waiting (r : R)
  /-- It has ended, and its ends of the channels are closed. -/
  | gone

/-- Where the server is in its loop, with the reply that it is about to send. -/
inductive Server (P : Type*) where
  /-- It waits for a request. -/
  | listening
  /-- It is about to send the reply `p`, or waits for room. -/
  | answering (p : P)
  /-- It has ended, and its ends of the channels are closed. -/
  | ended

/-- A caller and a server with a channel each way, one for requests and one for replies. -/
structure Link (R P : Type*) (cap : ℕ) where
  requests : Channel R cap
  replies : Channel P cap
  caller : Caller R
  server : Server P

/-- What a step of the caller comes to. -/
inductive Called (R P : Type*) (cap : ℕ) where
  /-- The call is still under way. -/
  | pending (l : Link R P cap)
  /-- The call returns; without a reply if the server has ended. -/
  | answered (reply : Option P) (l : Link R P cap)
  /-- The request could not be sent: the server has ended. -/
  | refused (l : Link R P cap)

section Link

variable {R P : Type*} {cap : ℕ}

/-- The link before anything is sent: the caller wants nothing, and the server listens. -/
def Link.start : Link R P cap := ⟨Channel.empty, Channel.empty, .idle, .listening⟩

/-- The caller begins a call.  Nothing is sent yet. -/
def Link.ask (l : Link R P cap) (r : R) : Link R P cap := { l with caller := .asking r }

/-- A step of the caller.  It sends the request or looks for a reply, and stays where it is if
there is no room or no reply. -/
def Link.call (l : Link R P cap) : Called R P cap :=
  match l.caller with
  | .asking r =>
      match l.server with
      | .ended => .refused { l with caller := .idle }
      | _ =>
          match l.requests.send? r with
          | none => .pending l
          | some requests => .pending { l with requests := requests, caller := .waiting r }
  | .waiting _ =>
      match l.replies.recv? with
      | some (p, replies) => .answered (some p) { l with replies := replies, caller := .idle }
      | none =>
          match l.server with
          | .ended => .answered none { l with caller := .idle }
          | _ => .pending l
  | .idle | .gone => .pending l

/-- A step of the server, which answers `f r` to `r`: it takes a request, or sends the reply
to the one it has taken. -/
def Link.serve (f : R → P) (l : Link R P cap) : Link R P cap :=
  match l.server with
  | .listening =>
      match l.requests.recv? with
      | some (r, requests) => { l with requests := requests, server := .answering (f r) }
      | none =>
          match l.caller with
          | .gone => { l with server := .ended }
          | _ => l
  | .answering p =>
      match l.caller with
      -- nobody is there to receive: the reply is dropped
      | .gone => { l with server := .listening }
      | _ =>
          match l.replies.send? p with
          | none => l
          | some replies => { l with replies := replies, server := .listening }
  | .ended => l

/-- The caller ends; what is left of the replies is dropped. -/
def Link.hangUp (l : Link R P cap) : Link R P cap :=
  { l with caller := .gone, replies := Channel.empty }

/-- The number of messages in both channels together. -/
def Link.inFlight (l : Link R P cap) : ℕ :=
  l.requests.messages.length + l.replies.messages.length

/-- A party waits for room in a full channel: it has something to send and cannot. -/
def Link.Blocked (l : Link R P cap) : Prop :=
  (∃ r, l.caller = .asking r ∧ l.requests.send? r = none) ∨
    ∃ p, l.server = .answering p ∧ l.replies.send? p = none

/-- The steps that the two parties still have to take until a call returns, from where they
are. -/
def Link.rounds (l : Link R P cap) : ℕ :=
  match l.caller with
  | .idle | .gone => 0
  | .asking _ => 4
  | .waiting _ => 1 + 2 * l.requests.messages.length +
      match l.server with
      | .answering _ => 1
      | _ => 0

/-! ## One request outstanding -/

/-- Nothing is under way: both channels are empty and the server has nothing to say. -/
structure Link.Quiet (l : Link R P cap) : Prop where
  requests : l.requests.messages = []
  replies : l.replies.messages = []
  server : l.server = .listening

/-- The one outstanding request `r` is somewhere: on its way, being answered, or its
answer is on its way back. -/
inductive Link.Outstanding (f : R → P) (l : Link R P cap) (r : R) : Prop where
  | sent (requests : l.requests.messages = [r]) (replies : l.replies.messages = [])
      (server : l.server = .listening)
  | taken (requests : l.requests.messages = []) (replies : l.replies.messages = [])
      (server : l.server = .answering (f r))
  | replied (requests : l.requests.messages = []) (replies : l.replies.messages = [f r])
      (server : l.server = .listening)

/-- What holds between the steps of a caller and a server, by where the caller is. -/
def Link.Inv (f : R → P) (l : Link R P cap) : Prop :=
  match l.caller with
  | .idle | .asking _ => l.Quiet
  | .waiting r => l.Outstanding f r
  | .gone =>
      l.requests.messages = [] ∧ l.replies.messages = [] ∧
        (l.server = .listening ∨ l.server = .ended)

variable {f : R → P} {l l' : Link R P cap}

theorem Link.inv_start : (Link.start : Link R P cap).Inv f := ⟨rfl, rfl, rfl⟩

theorem Link.Inv.quiet_of_idle (hl : l.Inv f) (hidle : l.caller = .idle) : l.Quiet := by
  simpa [Link.Inv, hidle] using hl

theorem Link.Inv.quiet_of_asking (hl : l.Inv f) {r : R} (hasking : l.caller = .asking r) :
    l.Quiet := by
  simpa [Link.Inv, hasking] using hl

theorem Link.Inv.outstanding (hl : l.Inv f) {r : R} (hwaiting : l.caller = .waiting r) :
    l.Outstanding f r := by
  simpa [Link.Inv, hwaiting] using hl

/-- A caller with nothing outstanding may begin a call, and keeps the invariant. -/
theorem Link.Inv.ask (hl : l.Inv f) (hidle : l.caller = .idle) (r : R) : (l.ask r).Inv f := by
  obtain ⟨hrequests, hreplies, hserver⟩ := hl.quiet_of_idle hidle
  exact ⟨hrequests, hreplies, hserver⟩

/-- A caller with nothing outstanding may end, and no reply is lost by it. -/
theorem Link.Inv.hangUp (hl : l.Inv f) (hidle : l.caller = .idle) : l.hangUp.Inv f := by
  obtain ⟨hrequests, -, hserver⟩ := hl.quiet_of_idle hidle
  exact ⟨hrequests, rfl, Or.inl hserver⟩

/-- **There is never more than one message in both channels**, whatever room they have. -/
theorem Link.Inv.inFlight_le_one (hl : l.Inv f) : l.inFlight ≤ 1 := by
  unfold Link.inFlight
  cases hcaller : l.caller with
  | idle =>
      obtain ⟨hrequests, hreplies, -⟩ := hl.quiet_of_idle hcaller
      simp [hrequests, hreplies]
  | asking r =>
      obtain ⟨hrequests, hreplies, -⟩ := hl.quiet_of_asking hcaller
      simp [hrequests, hreplies]
  | waiting r =>
      rcases hl.outstanding hcaller with
        ⟨hrequests, hreplies, -⟩ | ⟨hrequests, hreplies, -⟩ | ⟨hrequests, hreplies, -⟩ <;>
        simp [hrequests, hreplies]
  | gone =>
      obtain ⟨hrequests, hreplies, -⟩ :
          l.requests.messages = [] ∧ l.replies.messages = [] ∧ _ := by
        simpa [Link.Inv, hcaller] using hl
      simp [hrequests, hreplies]

/-- **Nobody waits for room**: a party that has something to send finds its channel empty. -/
theorem Link.Inv.not_blocked (hcap : 0 < cap) (hl : l.Inv f) : ¬ l.Blocked := by
  rintro (⟨r, hasking, hfull⟩ | ⟨p, hanswering, hfull⟩)
  · obtain ⟨hrequests, -, -⟩ := hl.quiet_of_asking hasking
    obtain ⟨requests, hsend, -⟩ := Channel.exists_send?_of_nil hcap hrequests r
    rw [hsend] at hfull
    exact Option.some_ne_none requests hfull
  · have hreplies : l.replies.messages = [] := by
      cases hcaller : l.caller with
      | idle => exact (hl.quiet_of_idle hcaller).replies
      | asking r => exact (hl.quiet_of_asking hcaller).replies
      | waiting r =>
          rcases hl.outstanding hcaller with ⟨-, h, -⟩ | ⟨-, h, -⟩ | ⟨-, -, hserver⟩
          · exact h
          · exact h
          · rw [hanswering] at hserver
            exact absurd hserver (by simp)
      | gone =>
          rw [Link.Inv, hcaller] at hl
          exact hl.2.1
    obtain ⟨replies, hsend, -⟩ := Channel.exists_send?_of_nil hcap hreplies p
    rw [hsend] at hfull
    exact Option.some_ne_none replies hfull

/-- The caller's first step of a call sends the request, and brings the call one step nearer
to its return. -/
theorem Link.Inv.call_of_asking (hcap : 0 < cap) (hl : l.Inv f) {r : R}
    (hasking : l.caller = .asking r) :
    ∃ l', l.call = .pending l' ∧ l'.Inv f ∧ l'.caller = .waiting r ∧
      l'.rounds + 1 = l.rounds := by
  obtain ⟨hrequests, hreplies, hserver⟩ := hl.quiet_of_asking hasking
  obtain ⟨requests, hsend, hsent⟩ := Channel.exists_send?_of_nil hcap hrequests r
  refine ⟨{ l with requests := requests, caller := .waiting r }, ?_, ?_, rfl, ?_⟩
  · simp only [Link.call, hasking, hserver, hsend]
  · exact Link.Outstanding.sent hsent hreplies hserver
  · simp [Link.rounds, hasking, hsent, hserver]

/-- **Replies are never crossed.**  A call that returns brings the answer to the request
that was sent. -/
theorem Link.Inv.call_of_waiting (hl : l.Inv f) {r : R} (hwaiting : l.caller = .waiting r) :
    (l.call = .pending l ∧ l.replies.messages = []) ∨
      ∃ l', l.call = .answered (some (f r)) l' ∧ l'.Inv f ∧ l'.caller = .idle := by
  have hpending : l.replies.messages = [] → l.server ≠ .ended → l.call = .pending l := by
    intro hreplies hserver
    have hrecv := Channel.recv?_eq_none_iff.mpr hreplies
    cases hcase : l.server with
    | ended => exact absurd hcase hserver
    | listening | answering p => simp only [Link.call, hwaiting, hrecv, hcase]
  rcases hl.outstanding hwaiting with
    ⟨hrequests, hreplies, hserver⟩ | ⟨hrequests, hreplies, hserver⟩ |
      ⟨hrequests, hreplies, hserver⟩
  · exact Or.inl ⟨hpending hreplies (by simp [hserver]), hreplies⟩
  · exact Or.inl ⟨hpending hreplies (by simp [hserver]), hreplies⟩
  · obtain ⟨replies, hrecv, hempty⟩ := Channel.exists_recv?_of_singleton hreplies
    refine Or.inr ⟨{ l with replies := replies, caller := .idle }, ?_, ?_, rfl⟩
    · simp only [Link.call, hwaiting, hrecv]
    · exact Link.Quiet.mk hrequests hempty hserver

/-- The server leaves the caller where it is. -/
@[simp] theorem Link.caller_serve (f : R → P) (l : Link R P cap) :
    (l.serve f).caller = l.caller := by
  unfold Link.serve
  repeat' split
  all_goals rfl

/-- With nothing under way, the server waits, as long as the caller has not ended. -/
theorem Link.serve_of_quiet (hquiet : l.Quiet) (hcaller : l.caller ≠ .gone) :
    l.serve f = l := by
  have hrecv := Channel.recv?_eq_none_iff.mpr hquiet.requests
  cases hcase : l.caller with
  | gone => exact absurd hcase hcaller
  | idle | asking r | waiting r => simp only [Link.serve, hquiet.server, hrecv, hcase]

/-- **A step of the server passes the outstanding request on.**  Unless the answer is on
its way already, the call comes nearer to its return. -/
theorem Link.Outstanding.serve (hcap : 0 < cap) {r : R} (hout : l.Outstanding f r)
    (hwaiting : l.caller = .waiting r) :
    (l.serve f).Outstanding f r ∧
      ((l.serve f).rounds + 1 = l.rounds ∨ l.replies.messages ≠ [] ∧ l.serve f = l) := by
  have hcaller := l.caller_serve f
  rcases hout with ⟨hrequests, hreplies, hserver⟩ | ⟨hrequests, hreplies, hserver⟩ |
    ⟨hrequests, hreplies, hserver⟩
  · obtain ⟨requests, hrecv, hempty⟩ := Channel.exists_recv?_of_singleton hrequests
    have hstep : l.serve f = { l with requests := requests, server := .answering (f r) } := by
      simp only [Link.serve, hserver, hrecv]
    rw [hstep]
    refine ⟨.taken hempty hreplies rfl, Or.inl ?_⟩
    simp [Link.rounds, hwaiting, hrequests, hserver, hempty]
  · obtain ⟨replies, hsend, hsent⟩ := Channel.exists_send?_of_nil hcap hreplies (f r)
    have hstep : l.serve f = { l with replies := replies, server := .listening } := by
      simp only [Link.serve, hserver, hwaiting, hsend]
    rw [hstep]
    refine ⟨.replied hrequests hsent rfl, Or.inl ?_⟩
    simp [Link.rounds, hwaiting, hrequests, hserver]
  · have hrecv := Channel.recv?_eq_none_iff.mpr hrequests
    have hstep : l.serve f = l := by simp only [Link.serve, hserver, hrecv, hwaiting]
    rw [hstep]
    exact ⟨.replied hrequests hreplies hserver, Or.inr ⟨by simp [hreplies], rfl⟩⟩

/-- **A step of the server keeps the invariant**, wherever the caller is. -/
theorem Link.Inv.serve (hcap : 0 < cap) (hl : l.Inv f) : (l.serve f).Inv f := by
  cases hcaller : l.caller with
  | idle =>
      rw [Link.serve_of_quiet (hl.quiet_of_idle hcaller) (by simp [hcaller])]
      exact hl
  | asking r =>
      rw [Link.serve_of_quiet (hl.quiet_of_asking hcaller) (by simp [hcaller])]
      exact hl
  | waiting r =>
      have hout := ((hl.outstanding hcaller).serve hcap hcaller).1
      simpa [Link.Inv, hcaller] using hout
  | gone =>
      rw [Link.Inv, hcaller] at hl
      obtain ⟨hrequests, hreplies, hserver | hserver⟩ := hl
      · -- nobody will ask again, and the server ends
        have hrecv := Channel.recv?_eq_none_iff.mpr hrequests
        have hstep : l.serve f = { l with server := .ended } := by
          simp only [Link.serve, hserver, hrecv, hcaller]
        simp [hstep, Link.Inv, hcaller, hrequests, hreplies]
      · have hstep : l.serve f = l := by simp only [Link.serve, hserver]
        simp [hstep, Link.Inv, hcaller, hrequests, hreplies, hserver]

/-- A step of the server takes no call further from its return. -/
theorem Link.Inv.rounds_serve_le (hcap : 0 < cap) (hl : l.Inv f) :
    (l.serve f).rounds ≤ l.rounds := by
  cases hcaller : l.caller with
  | waiting r =>
      rcases ((hl.outstanding hcaller).serve hcap hcaller).2 with hnearer | ⟨-, hsame⟩
      · omega
      · exact Nat.le_of_eq (congrArg Link.rounds hsame)
  | idle | asking r | gone => simp [Link.rounds, hcaller]

end Link

end Library
