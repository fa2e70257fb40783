import Mathlib.Data.List.Induction
import Mathlib.Data.List.Pairwise
import Std.Data.ExtTreeMap

/-!
# Grouping by key

Values are collected under keys one after another; a value whose key is taken is merged
into what is there.

## Main definitions

* `enter`: one such step
* `grouped`: a whole list of them, from nothing
* `EntersAll`: all steps go well although merging is partial; two values may then share a key
  only if both are `ready`

## Main results

* `getElem?_grouped`: a key ends up with the merge of its own values, whatever was entered
  under other keys.
* `entersAll_iff`: all steps go well exactly if values with equal keys are pairwise ready.
  This is a condition on the list alone; the stores in between have disappeared.
* `filterMap_filter_eq_iff`: which values can be left out of a group without a difference.

## Design notes

The merge is neither associative nor commutative here, so `mergeAll` fixes the order: the
oldest value is merged with the next one, and the result with the one after that.
-/

namespace Library

open Std

variable {K V : Type*}

/-- The values of one key merged from the left, oldest first.  Without a value there is
nothing. -/
def mergeAll (merge : V → V → V) : List V → Option V
  | [] => none
  | v :: rest => some (rest.foldl merge v)

theorem mergeAll_concat (merge : V → V → V) (values : List V) (v : V) :
    mergeAll merge (values ++ [v]) =
      some (match mergeAll merge values with
        | some old => merge old v
        | none => v) := by
  cases values <;> simp [mergeAll]

/-- Values can be left out of what they contribute to exactly if they contribute nothing. -/
theorem filterMap_filter_eq_iff {α β : Type*} {f : α → Option β} {p : α → Bool} (l : List α) :
    (l.filter p).filterMap f = l.filterMap f ↔
      ∀ a ∈ l, (f a).isSome = true → p a = true := by
  induction l with
  | nil => simp
  | cons a rest ih =>
      rw [List.forall_mem_cons, ← ih]
      cases hp : p a with
      | true =>
          rw [List.filter_cons_of_pos hp]
          cases hf : f a with
          | none => simp [List.filterMap_cons_none hf]
          | some b => simp [List.filterMap_cons_some hf]
      | false =>
          rw [List.filter_cons_of_neg (by simp [hp])]
          cases hf : f a with
          | none => simp [List.filterMap_cons_none hf]
          | some b =>
              -- what `a` contributes is missing on the left, so the lists differ in length
              have hshorter :
                  ((rest.filter p).filterMap f).length ≤ (rest.filterMap f).length :=
                (List.filter_sublist.filterMap f).length_le
              rw [List.filterMap_cons_some hf]
              constructor
              · intro heq
                have hlength := congrArg List.length heq
                rw [List.length_cons] at hlength
                omega
              · rintro ⟨hcontributes, -⟩
                exact absurd (hcontributes rfl) (by simp)

/-- A map that succeeds everywhere leaves nothing out: going on past what fails and stopping
there are the same. -/
theorem mapM_eq_filterMap {α β : Type*} {f : α → Option β} {l : List α}
    (hf : ∀ a ∈ l, (f a).isSome = true) : l.mapM f = some (l.filterMap f) := by
  induction l with
  | nil => rfl
  | cons a rest ih =>
      obtain ⟨ha, hrest⟩ := List.forall_mem_cons.mp hf
      obtain ⟨b, hb⟩ := Option.isSome_iff_exists.mp ha
      rw [List.mapM_cons, hb, ih hrest, List.filterMap_cons_some hb]
      rfl

/-- A map that fails nowhere on a list is the map of the values it returns. -/
theorem mapM_eq_map {ε α β : Type*} {f : α → Except ε β} {g : α → β} {l : List α}
    (hf : ∀ a ∈ l, f a = .ok (g a)) : l.mapM f = .ok (l.map g) := by
  induction l with
  | nil => rfl
  | cons a rest ih =>
      obtain ⟨ha, hrest⟩ := List.forall_mem_cons.mp hf
      rw [List.mapM_cons, ha, ih hrest]
      rfl

/-- A test of the results that only depends on the elements they come from can be made on the
elements instead. -/
theorem filter_filterMap_eq {α β : Type*} {f : α → Option β} {p : α → Bool} {q : β → Bool}
    {l : List α} (hpq : ∀ a ∈ l, ∀ b, f a = some b → q b = p a) :
    (l.filterMap f).filter q = (l.filter p).filterMap f := by
  induction l with
  | nil => rfl
  | cons a rest ih =>
      obtain ⟨ha, hrest⟩ := List.forall_mem_cons.mp hpq
      cases hfa : f a with
      | none =>
          rw [List.filterMap_cons_none hfa, ih hrest, List.filter_cons]
          split
          · rw [List.filterMap_cons_none hfa]
          · rfl
      | some b =>
          rw [List.filterMap_cons_some hfa, List.filter_cons, List.filter_cons, ha b hfa,
            ih hrest]
          split
          · rw [List.filterMap_cons_some hfa]
          · rfl

section Store

variable [Ord K] [TransOrd K] [LawfulEqOrd K] [DecidableEq K]

/-- Enter a value under a key: as it is if the key is free, else merged into what is there. -/
def enter (merge : V → V → V) (store : ExtTreeMap K V compare) (entry : K × V) :
    ExtTreeMap K V compare :=
  store.insert entry.1
    (match store[entry.1]? with
      | some old => merge old entry.2
      | none => entry.2)

theorem getElem?_enter (merge : V → V → V) (store : ExtTreeMap K V compare) (entry : K × V)
    (k : K) :
    (enter merge store entry)[k]? =
      if entry.1 = k then
        some (match store[k]? with
          | some old => merge old entry.2
          | none => entry.2)
      else store[k]? := by
  by_cases hk : entry.1 = k
  · subst hk
    simp [enter]
  · simp [enter, ExtTreeMap.getElem?_insert, hk]

/-- Enter a list of values, oldest first, into the empty store. -/
def grouped (merge : V → V → V) (entries : List (K × V)) : ExtTreeMap K V compare :=
  entries.foldl (enter merge) ∅

/-- **A key holds the merge of its own values**, in the order in which they were entered;
entries under other keys do not matter. -/
theorem getElem?_grouped (merge : V → V → V) (entries : List (K × V)) (k : K) :
    (grouped merge entries)[k]? =
      mergeAll merge ((entries.filter fun entry => entry.1 = k).map Prod.snd) := by
  induction entries using List.reverseRecOn with
  | nil => simp [grouped, mergeAll]
  | append_singleton entries entry ih =>
      have hstep : grouped merge (entries ++ [entry]) =
          enter merge (grouped merge entries) entry := by
        simp [grouped]
      rw [hstep, getElem?_enter, ih, List.filter_append]
      by_cases hk : entry.1 = k
      · rw [if_pos hk, List.filter_cons_of_pos (by simpa using hk), List.filter_nil,
          List.map_append, List.map_singleton, mergeAll_concat]
      · rw [if_neg hk, List.filter_cons_of_neg (by simpa using hk), List.filter_nil,
          List.append_nil]

/-! ## Partial merges -/

/-- Each step finds its key free, or both values ready to be merged: the one in the store and
the new one. -/
def EntersAll (ready : V → Prop) (merge : V → V → V) :
    ExtTreeMap K V compare → List (K × V) → Prop
  | _, [] => True
  | store, entry :: rest =>
      (∀ old, store[entry.1]? = some old → ready old ∧ ready entry.2) ∧
        EntersAll ready merge (enter merge store entry) rest

/-- If two values have equal keys, both are ready.  This is symmetric, and says nothing of
values under different keys. -/
def ReadyTogether (ready : V → Prop) (a b : K × V) : Prop :=
  a.1 = b.1 → ready a.2 ∧ ready b.2

/-- All steps succeed exactly if no value clashes with what is in the store or with
another value of the list. -/
theorem entersAll_iff_of_store {ready : V → Prop} {merge : V → V → V}
    (hmerge : ∀ {a b}, ready a → ready b → ready (merge a b)) (entries : List (K × V)) :
    ∀ store : ExtTreeMap K V compare,
      EntersAll ready merge store entries ↔
        (∀ entry ∈ entries, ∀ old, store[entry.1]? = some old →
            ready old ∧ ready entry.2) ∧
          entries.Pairwise (ReadyTogether ready) := by
  induction entries with
  | nil => simp [EntersAll]
  | cons entry rest ih =>
      intro store
      rw [EntersAll, ih, List.forall_mem_cons, List.pairwise_cons, and_assoc]
      refine and_congr_right fun hentry => ?_
      constructor
      · rintro ⟨hrest, hpairs⟩
        refine ⟨fun other hother old hold => ?_, fun other hother hkey => ?_, hpairs⟩
        · by_cases hkey : entry.1 = other.1
          · have hnew := hrest other hother _ (by rw [getElem?_enter, if_pos hkey])
            exact ⟨(hentry old (by rwa [hkey])).1, hnew.2⟩
          · exact hrest other hother old (by rwa [getElem?_enter, if_neg hkey])
        · have hnew := hrest other hother _ (by rw [getElem?_enter, if_pos hkey])
          cases hold : store[other.1]? with
          | some old => exact ⟨(hentry old (by rwa [hkey])).2, hnew.2⟩
          | none => simpa [hold] using hnew
      · rintro ⟨hstore, hnew, hpairs⟩
        refine ⟨fun other hother old hold => ?_, hpairs⟩
        by_cases hkey : entry.1 = other.1
        · rw [getElem?_enter, if_pos hkey] at hold
          have hboth := hnew other hother hkey
          cases hprev : store[other.1]? with
          | some prev =>
              obtain rfl : merge prev entry.2 = old := by simpa [hprev] using hold
              exact ⟨hmerge (hstore other hother prev hprev).1 hboth.1, hboth.2⟩
          | none =>
              obtain rfl : entry.2 = old := by simpa [hprev] using hold
              exact hboth
        · exact hstore other hother old (by rwa [getElem?_enter, if_neg hkey] at hold)

/-- **Entering a list of values succeeds** exactly if values under equal keys are pairwise
ready, provided that merging ready values gives a ready one. -/
theorem entersAll_iff {ready : V → Prop} {merge : V → V → V}
    (hmerge : ∀ {a b}, ready a → ready b → ready (merge a b)) (entries : List (K × V)) :
    EntersAll ready merge ∅ entries ↔ entries.Pairwise (ReadyTogether ready) := by
  rw [entersAll_iff_of_store hmerge]
  simp

end Store

end Library
