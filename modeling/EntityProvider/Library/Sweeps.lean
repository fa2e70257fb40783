import EntityProvider.Library.Ledger
import EntityProvider.Library.Maps

/-!
# Writes and sweeps

A log of what is done to a keyed store: writes, each to one key, and sweeps, which
remove every value that does not pass a test, under whatever key.  A sweep is not bound to
any key, so the two kinds of entry meet at every key; but between two writes to a key a
sweep can only take its value away.  Three results about carrying out a log follow from
this.

* `getElem?_carryOut_iff`: a key holds what the last write to it left there, if every sweep
  since then has kept it (`KeptSince`).
* `LeavesAlone.getElem?_carryOut`: a log that neither writes to a key nor removes its value
  leaves the key as it is.
* `Undisturbed.getElem?_carryOut`: if no sweep meets a value that does not pass when it is
  carried out, the sweeps do not matter.  This is about the values that are in the store at
  that time, not about all that a sweep would remove.
-/

namespace Library

open Std

/-- One entry of a log: what is done to the store at one time. -/
inductive Entry (K V : Type*) where
  | write (w : Write K V)
  /-- Remove the values that do not pass. -/
  | sweep (keep : V → Bool)

section Entry

variable {K V : Type*}

/-- The write of an entry, if it is one.  A log without its sweeps is a list of writes. -/
def Entry.write? : Entry K V → Option (Write K V)
  | .write w => some w
  | .sweep _ => none

/-- The value of a key after an entry, from the one before.  No other key matters for it. -/
def Entry.over [DecidableEq K] (k : K) (held : Option V) : Entry K V → Option V
  | .write w => if w.key = k then w.value else held
  | .sweep keep => held.filter keep

/-- Is the entry a write to the key?  A sweep never counts as one. -/
def Entry.touches [DecidableEq K] (k : K) : Entry K V → Bool
  | .write w => w.key = k
  | .sweep _ => false

/-- Every sweep that comes after the last write to `k` keeps the value; those before it do not
matter. -/
def KeptSince [DecidableEq K] (k : K) (v : V) (log : List (Entry K V)) : Prop :=
  ∀ front keep back, log = front ++ .sweep keep :: back →
    (∀ entry ∈ back, entry.touches k = false) → keep v = true

variable [DecidableEq K]

/-- Where an element of a list with one more element at the end is: it is this one, or among
those before. -/
theorem concat_eq_append_cons_iff {α : Type*} {l front back : List α} {a b : α} :
    l ++ [a] = front ++ b :: back ↔
      (back = [] ∧ l = front ∧ a = b) ∨
        ∃ rest, back = rest ++ [a] ∧ l = front ++ b :: rest := by
  rcases List.eq_nil_or_concat' back with rfl | ⟨rest, c, rfl⟩
  · simp
  · rw [show front ++ b :: (rest ++ [c]) = (front ++ b :: rest) ++ [c] by simp,
      List.append_singleton_inj]
    constructor
    · rintro ⟨hl, rfl⟩
      exact Or.inr ⟨rest, rfl, hl⟩
    · rintro (⟨hnil, -⟩ | ⟨rest', hrest, hl⟩)
      · exact absurd hnil (by simp)
      · obtain ⟨rfl, rfl⟩ := List.append_singleton_inj.mp hrest
        exact ⟨hl, rfl⟩

/-- A write to the key at the end makes up for every sweep, since none comes after it. -/
theorem keptSince_concat_write {k : K} {w : Write K V} (hkey : w.key = k) (v : V)
    (log : List (Entry K V)) : KeptSince k v (log ++ [.write w]) := by
  intro front keep back hsplit hback
  rcases concat_eq_append_cons_iff.mp hsplit with ⟨-, -, heq⟩ | ⟨rest, rfl, -⟩
  · exact absurd heq (by simp)
  · exact absurd (hback (.write w) (by simp)) (by simp [Entry.touches, hkey])

/-- A write to another key at the end changes nothing about which sweeps count. -/
theorem keptSince_concat_write_of_ne {k : K} {w : Write K V} (hkey : w.key ≠ k) {v : V}
    {log : List (Entry K V)} : KeptSince k v (log ++ [.write w]) ↔ KeptSince k v log := by
  constructor
  · intro h front keep back hsplit hback
    refine h front keep (back ++ [.write w]) (by simp [hsplit]) fun entry hentry => ?_
    rcases List.mem_append.mp hentry with hmem | hlast
    · exact hback entry hmem
    · obtain rfl := List.mem_singleton.mp hlast
      simp [Entry.touches, hkey]
  · intro h front keep back hsplit hback
    rcases concat_eq_append_cons_iff.mp hsplit with ⟨-, -, heq⟩ | ⟨rest, rfl, hlog⟩
    · exact absurd heq (by simp)
    · exact h front keep rest hlog fun entry hentry => hback entry (by simp [hentry])

/-- A sweep at the end is one more that has to keep the value, whatever key it is under. -/
theorem keptSince_concat_sweep {k : K} {keep : V → Bool} {v : V} {log : List (Entry K V)} :
    KeptSince k v (log ++ [.sweep keep]) ↔ KeptSince k v log ∧ keep v = true := by
  constructor
  · intro h
    refine ⟨fun front keep' back hsplit hback => ?_, h log keep [] rfl (by simp)⟩
    refine h front keep' (back ++ [.sweep keep]) (by simp [hsplit]) fun entry hentry => ?_
    rcases List.mem_append.mp hentry with hmem | hlast
    · exact hback entry hmem
    · obtain rfl := List.mem_singleton.mp hlast
      rfl
  · rintro ⟨h, hkeep⟩ front keep' back hsplit hback
    rcases concat_eq_append_cons_iff.mp hsplit with ⟨-, -, heq⟩ | ⟨rest, rfl, hlog⟩
    · obtain rfl : keep = keep' := Entry.sweep.inj heq
      exact hkeep
    · exact h front keep' rest hlog fun entry hentry => hback entry (by simp [hentry])

/-- **What a key ends with**, if it holds nothing at first: what the last write to it left
there, if that is kept by every sweep since. -/
theorem foldl_over_eq_some_iff {k : K} {v : V} (log : List (Entry K V)) :
    log.foldl (Entry.over k) none = some v ↔
      (lastWith (fun w => w.key = k) (log.filterMap Entry.write?)).bind Write.value = some v ∧
        KeptSince k v log := by
  induction log using List.reverseRecOn with
  | nil => simp
  | append_singleton log entry ih =>
      rw [List.foldl_append, List.filterMap_append]
      cases entry with
      | write w =>
          have hwrites : [Entry.write w].filterMap Entry.write? = [w] := rfl
          rw [hwrites, lastWith_concat]
          by_cases hkey : w.key = k
          · simp [Entry.over, hkey, keptSince_concat_write hkey v log]
          · rw [if_neg (by simpa using hkey), keptSince_concat_write_of_ne hkey, ← ih]
            simp [Entry.over, hkey]
      | sweep keep =>
          have hwrites : [Entry.sweep keep].filterMap (Entry.write? (K := K)) = [] := rfl
          rw [hwrites, List.append_nil, keptSince_concat_sweep, ← and_assoc, ← ih]
          simp [Entry.over, Option.filter_eq_some_iff]

variable [Ord K] [TransOrd K] [LawfulEqOrd K]

/-- Carry out one entry: perform the write, or remove what does not pass. -/
def Entry.apply (store : ExtTreeMap K V compare) : Entry K V → ExtTreeMap K V compare
  | .write w => w.apply store
  | .sweep keep => store.filter fun _ v => keep v

/-- Carry out a log, entry by entry, oldest first. -/
def carryOut (store : ExtTreeMap K V compare) (log : List (Entry K V)) :
    ExtTreeMap K V compare :=
  log.foldl Entry.apply store

omit [LawfulEqOrd K] [DecidableEq K] in
theorem carryOut_append (store : ExtTreeMap K V compare) (front back : List (Entry K V)) :
    carryOut store (front ++ back) = carryOut (carryOut store front) back :=
  List.foldl_append

/-- An entry acts on each key by itself, although a sweep goes through all of them. -/
theorem Entry.getElem?_apply (store : ExtTreeMap K V compare) (entry : Entry K V) (k : K) :
    (entry.apply store)[k]? = entry.over k store[k]? := by
  cases entry with
  | write w => exact Write.getElem?_apply store w k
  | sweep keep =>
      rw [Entry.apply, ExtTreeMap.getElem?_filter']
      rfl

theorem getElem?_carryOut (log : List (Entry K V)) (k : K) :
    ∀ store : ExtTreeMap K V compare,
      (carryOut store log)[k]? = log.foldl (Entry.over k) store[k]? := by
  induction log with
  | nil => intro store; rfl
  | cons entry rest ih =>
      intro store
      rw [List.foldl_cons, ← Entry.getElem?_apply]
      exact ih _

/-- A log leaves a key alone: it does not write to it, and no sweep removes its value. -/
structure LeavesAlone (store : ExtTreeMap K V compare) (log : List (Entry K V)) (k : K) :
    Prop where
  unwritten : ∀ entry ∈ log, entry.touches k = false
  kept : ∀ v, store[k]? = some v → ∀ keep, .sweep keep ∈ log → keep v = true

theorem LeavesAlone.getElem?_carryOut {store : ExtTreeMap K V compare}
    {log : List (Entry K V)}
    {k : K} (hk : LeavesAlone store log k) : (carryOut store log)[k]? = store[k]? := by
  rw [Library.getElem?_carryOut]
  refine List.foldlRecOn (motive := fun held => held = store[k]?) log _ rfl ?_
  rintro held rfl entry hentry
  cases entry with
  | write w =>
      have hkey : w.key ≠ k := of_decide_eq_false (hk.unwritten _ hentry)
      exact if_neg hkey
  | sweep keep =>
      cases hvalue : store[k]? with
      | none => rfl
      | some v => simp [Entry.over, hk.kept v hvalue keep hentry]

/-- **What a key holds** after a log, from the empty store: what was written there last, if
the sweeps since then have kept it. -/
theorem getElem?_carryOut_iff (log : List (Entry K V)) (k : K) (v : V) :
    (carryOut ∅ log)[k]? = some v ↔
      (lastWith (fun w => w.key = k) (log.filterMap Entry.write?)).bind Write.value = some v ∧
        KeptSince k v log := by
  rw [getElem?_carryOut, ExtTreeMap.getElem?_empty, foldl_over_eq_some_iff]

/-! ## Sweeps that remove nothing -/

/-- **No sweep removes anything**: each one keeps all that is in the store when it is carried
out. -/
def Undisturbed (log : List (Entry K V)) : Prop :=
  ∀ front keep back, log = front ++ .sweep keep :: back →
    ∀ (k : K) (v : V), (carryOut ∅ front)[k]? = some v → keep v = true

omit [LawfulEqOrd K] [DecidableEq K] in
theorem undisturbed_nil : Undisturbed ([] : List (Entry K V)) :=
  fun front keep back hsplit => absurd hsplit (by simp)

omit [LawfulEqOrd K] [DecidableEq K] in
/-- A write at the end is not a sweep. -/
theorem undisturbed_concat_write {w : Write K V} {log : List (Entry K V)} :
    Undisturbed (log ++ [.write w]) ↔ Undisturbed log := by
  constructor
  · intro h front keep back hsplit
    exact h front keep (back ++ [.write w]) (by simp [hsplit])
  · intro h front keep back hsplit
    rcases concat_eq_append_cons_iff.mp hsplit with ⟨-, -, heq⟩ | ⟨rest, -, hlog⟩
    · exact absurd heq (by simp)
    · exact h front keep rest hlog

omit [LawfulEqOrd K] [DecidableEq K] in
/-- A sweep at the end has to keep what the log before it leaves. -/
theorem undisturbed_concat_sweep {keep : V → Bool} {log : List (Entry K V)} :
    Undisturbed (log ++ [.sweep keep]) ↔
      Undisturbed log ∧
        ∀ (k : K) (v : V), (carryOut ∅ log)[k]? = some v → keep v = true := by
  constructor
  · intro h
    refine ⟨fun front keep' back hsplit => ?_, h log keep [] rfl⟩
    exact h front keep' (back ++ [.sweep keep]) (by simp [hsplit])
  · rintro ⟨h, hlast⟩ front keep' back hsplit
    rcases concat_eq_append_cons_iff.mp hsplit with ⟨-, rfl, heq⟩ | ⟨rest, -, hlog⟩
    · obtain rfl := Entry.sweep.inj heq
      exact hlast
    · exact h front keep' rest hlog

/-- **Without sweeps that remove anything**, a key holds what the last write to it left
there. -/
theorem Undisturbed.getElem?_carryOut {log : List (Entry K V)} (hlog : Undisturbed log)
    (k : K) :
    (carryOut ∅ log)[k]? =
      (lastWith (fun w => w.key = k) (log.filterMap Entry.write?)).bind Write.value := by
  induction log using List.reverseRecOn with
  | nil => exact ExtTreeMap.getElem?_empty
  | append_singleton log entry ih =>
      rw [carryOut_append, List.filterMap_append]
      change (entry.apply (carryOut ∅ log))[k]? = _
      rw [Entry.getElem?_apply]
      cases entry with
      | write w =>
          have hwrites : [Entry.write w].filterMap Entry.write? = [w] := rfl
          rw [hwrites, lastWith_concat, ih (undisturbed_concat_write.mp hlog)]
          by_cases hkey : w.key = k <;> simp [Entry.over, hkey]
      | sweep keep =>
          obtain ⟨hbefore, hkeeps⟩ := undisturbed_concat_sweep.mp hlog
          have hwrites : [Entry.sweep keep].filterMap (Entry.write? (K := K)) = [] := rfl
          rw [hwrites, List.append_nil, ← ih hbefore]
          cases hvalue : (carryOut ∅ log)[k]? with
          | none => rfl
          | some v => simp [Entry.over, hkeeps k v hvalue]

end Entry

end Library
