import Mathlib.Data.List.Induction
import Std.Data.ExtTreeMap

/-!
# Keyed stores and the last write

A store is a finite map; events write to it, at most one key each.  Whatever the order and
number of events, what the store holds under a key is decided by the *last* event that wrote
there.  This is the meaning of a last-writer-wins register, one for each key, and the
abstract counterpart of any loop that only inserts and removes.

## Main definitions

* `lastWith p l`: the last element of `l` with the property `p`; its small lemmas come first
* `Write`: one write to a store, a value or nothing under one key
* `replay`: the writes of a list of events, carried out one after the other

## Main results

* `getElem?_replay`: the last write decides.
* `lastWith_eq_some_iff`: the last element with a property splits the list, with nothing of
  that property behind it.

## Design notes

Events are of any type; `writes` says which write an event comes to, if any.  So the same
results serve a log of writes and a loop over messages of which only some write.
-/

namespace Library

open Std

/-! ## The last element with a property -/

section LastWith

variable {α : Type*}

/-- The last element of `l` that satisfies `p`, or none if no element does. -/
def lastWith (p : α → Bool) (l : List α) : Option α :=
  l.reverse.find? p

@[simp] theorem lastWith_nil (p : α → Bool) : lastWith p ([] : List α) = none := rfl

theorem lastWith_concat (p : α → Bool) (l : List α) (a : α) :
    lastWith p (l ++ [a]) = if p a then some a else lastWith p l := by
  simp only [lastWith, List.reverse_append, List.reverse_singleton,
    List.singleton_append, List.find?_cons]
  cases p a <;> simp

theorem lastWith_append (p : α → Bool) (l m : List α) :
    lastWith p (l ++ m) = (lastWith p m).or (lastWith p l) := by
  simp [lastWith, List.find?_append]

/-- Elements without the property are passed over: behind the last one with it, anything of
this kind may follow. -/
theorem lastWith_append_of_forall_not {p : α → Bool} {l m : List α}
    (h : ∀ a ∈ m, p a = false) : lastWith p (l ++ m) = lastWith p l := by
  have hnone : lastWith p m = none := by simpa [lastWith] using h
  simp [lastWith_append, hnone]

@[simp] theorem lastWith_eq_none_iff {p : α → Bool} {l : List α} :
    lastWith p l = none ↔ ∀ a ∈ l, p a = false := by
  simp [lastWith]

/-- The last element with the property splits the list: it has the property, and
nothing after it does. -/
theorem lastWith_eq_some_iff {p : α → Bool} {l : List α} {a : α} :
    lastWith p l = some a ↔
      p a = true ∧ ∃ front back, l = front ++ a :: back ∧ ∀ b ∈ back, p b = false := by
  constructor
  · intro h
    obtain ⟨ha, back, front, hsplit, hback⟩ := List.find?_eq_some_iff_append.mp h
    refine ⟨ha, front.reverse, back.reverse, ?_, ?_⟩
    · have := congrArg List.reverse hsplit
      simpa using this
    · intro b hb
      simpa using hback b (by simpa using hb)
  · rintro ⟨ha, front, back, rfl, hback⟩
    have hsplit : front ++ a :: back = (front ++ [a]) ++ back := by simp
    rw [hsplit, lastWith_append_of_forall_not hback, lastWith_concat, if_pos ha]

/-- The only element with the property is the last one. -/
theorem lastWith_of_filter_eq_singleton {p : α → Bool} {l : List α} {a : α}
    (h : l.filter p = [a]) : lastWith p l = some a := by
  rw [lastWith, ← List.head?_filter, List.filter_reverse, h]
  rfl

theorem mem_of_lastWith_eq_some {p : α → Bool} {l : List α} {a : α}
    (h : lastWith p l = some a) : a ∈ l := by
  obtain ⟨-, front, back, rfl, -⟩ := lastWith_eq_some_iff.mp h
  simp

end LastWith

/-! ## Writes to a keyed store -/

/-- One write to a keyed store.  A removal is a write too: it leaves its key without a
value. -/
inductive Write (K V : Type*) where
  /-- Store `value` under `key`. -/
  | put (key : K) (value : V)
  /-- Leave nothing under `key`. -/
  | remove (key : K)

section Store

variable {K V E : Type*}

/-- The key a write touches, the only one under which it changes the store. -/
def Write.key : Write K V → K
  | .put key _ => key
  | .remove key => key

/-- What a write leaves under its key, whatever the store held there before. -/
def Write.value : Write K V → Option V
  | .put _ value => some value
  | .remove _ => none

@[simp] theorem Write.key_put (key : K) (value : V) : (Write.put key value).key = key := rfl

@[simp] theorem Write.key_remove (key : K) : (Write.remove key : Write K V).key = key := rfl

@[simp] theorem Write.value_put (key : K) (value : V) :
    (Write.put key value).value = some value := rfl

@[simp] theorem Write.value_remove (key : K) :
    (Write.remove key : Write K V).value = none := rfl

/-- Does an event write under the key `k`?  Events that come to no write do not. -/
def WritesTo [DecidableEq K] (writes : E → Option (Write K V)) (k : K) (event : E) : Bool :=
  (writes event).any fun w => w.key = k

variable [Ord K]

/-- Perform one write: insert the value, or erase the key. -/
def Write.apply (store : ExtTreeMap K V compare) [TransOrd K] :
    Write K V → ExtTreeMap K V compare
  | .put key value => store.insert key value
  | .remove key => store.erase key

variable [TransOrd K] [LawfulEqOrd K] [DecidableEq K]

/-- A write decides its own key and leaves every other key alone. -/
theorem Write.getElem?_apply (store : ExtTreeMap K V compare) (w : Write K V) (k : K) :
    (w.apply store)[k]? = if w.key = k then w.value else store[k]? := by
  cases w with
  | put key value =>
      by_cases hk : key = k <;> simp [Write.apply, ExtTreeMap.getElem?_insert, hk]
  | remove key =>
      by_cases hk : key = k <;> simp [Write.apply, ExtTreeMap.getElem?_erase, hk]

/-- Perform the writes of a list of events, oldest first.  An event that comes to no write
leaves the store as it is. -/
def replay (writes : E → Option (Write K V)) (store : ExtTreeMap K V compare) :
    List E → ExtTreeMap K V compare
  | [] => store
  | event :: rest => replay writes (((writes event).map (·.apply store)).getD store) rest

omit [LawfulEqOrd K] [DecidableEq K] in
@[simp] theorem replay_nil (writes : E → Option (Write K V))
    (store : ExtTreeMap K V compare) : replay writes store [] = store := rfl

omit [LawfulEqOrd K] [DecidableEq K] in
theorem replay_append (writes : E → Option (Write K V)) :
    ∀ (front back : List E) (store : ExtTreeMap K V compare),
      replay writes store (front ++ back) =
        replay writes (replay writes store front) back := by
  intro front
  induction front with
  | nil => intro back store; rfl
  | cons event rest ih => intro back store; exact ih back _

/-- **The last write decides.**  After any list of events, a key holds what the
last event that wrote there left; a key no event wrote to is unchanged. -/
theorem getElem?_replay (writes : E → Option (Write K V)) (store : ExtTreeMap K V compare)
    (events : List E) (k : K) :
    (replay writes store events)[k]? =
      match lastWith (WritesTo writes k) events with
      | none => store[k]?
      | some event => (writes event).bind Write.value := by
  induction events using List.reverseRecOn with
  | nil => simp
  | append_singleton events event ih =>
      rw [replay_append, lastWith_concat]
      cases hw : writes event with
      | none => simpa [replay, WritesTo, hw] using ih
      | some w =>
          have hstep : (replay writes (replay writes store events) [event])[k]? =
              if w.key = k then w.value else (replay writes store events)[k]? := by
            simp [replay, hw, Write.getElem?_apply]
          rw [hstep]
          by_cases hk : w.key = k
          · simp [WritesTo, hw, hk]
          · simpa [WritesTo, hw, hk] using ih

end Store

end Library
