import EntityProvider.Library.Ledger
import Mathlib.Data.List.Forall2

/-!
# Loops that stop at the first failure

A loop over `Except` ends at the first element that fails.

## Main definitions

* `enterAll`: the loop that makes a value of each element and enters it in a map under the
  element's key
* `FailsOnlyWith P x`: every error that `x` may end with satisfies `P`

## Main results

* `mapM_eq_ok_iff`: what a `mapM` returns if nothing fails.
* `exists_enterAll_iff`: the loop gets through exactly if each value can be made.
* `getElem?_of_enterAll`: of the elements with one key, the last one is in the map.
* `FailsOnlyWith.bind`, `.mapError`, `.mapM`, `.enterAll`: which errors are possible is proved
  step by step, along the way the computation is put together.

## Design notes

All results are about the outcome alone, success with a value or failure with an error, so
they hold for a loop however it is written once it is known to be a `mapM` or an `enterAll`.
-/

namespace Library

open Std

universe u

variable {ε α : Type*} {β : Type u}

/-- A computation in two steps succeeds if the first one does and the second one does with
what the first one returns. -/
theorem bind_eq_ok_iff {γ : Type u} {x : Except ε β} {next : β → Except ε γ} {c : γ} :
    (x >>= next) = .ok c ↔ ∃ b, x = .ok b ∧ next b = .ok c := by
  cases x <;> simp [bind, Except.bind]

theorem mapError_eq_ok_iff {ε' : Type*} {f : ε → ε'} {x : Except ε β} {b : β} :
    x.mapError f = .ok b ↔ x = .ok b := by
  cases x <;> simp [Except.mapError]

/-- **A loop that gets through** has a result for each element, in the order of the
elements. -/
theorem mapM_eq_ok_iff {f : α → Except ε β} {l : List α} :
    ∀ {out : List β}, l.mapM f = .ok out ↔ List.Forall₂ (fun a b => f a = .ok b) l out := by
  induction l with
  | nil =>
      intro out
      rw [List.mapM_nil, List.forall₂_nil_left_iff]
      exact ⟨fun h => (Except.ok.inj h).symm, fun h => congrArg Except.ok h.symm⟩
  | cons a rest ih =>
      intro out
      rw [List.mapM_cons, bind_eq_ok_iff, List.forall₂_cons_left_iff]
      constructor
      · rintro ⟨b, hb, hrest⟩
        obtain ⟨bs, hbs, hout⟩ := bind_eq_ok_iff.mp hrest
        exact ⟨b, bs, hb, ih.mp hbs, (Except.ok.inj hout).symm⟩
      · rintro ⟨b, bs, hb, hbs, rfl⟩
        exact ⟨b, hb, bind_eq_ok_iff.mpr ⟨bs, ih.mpr hbs, rfl⟩⟩

/-- Two lists related element by element: every element of the second one has a partner in the
first. -/
theorem exists_of_forall₂ {r : α → β → Prop} {l : List α} {out : List β}
    (h : List.Forall₂ r l out) {b : β} (hb : b ∈ out) : ∃ a ∈ l, r a b := by
  induction h with
  | nil => exact absurd hb List.not_mem_nil
  | cons hab _ ih =>
      rcases List.mem_cons.mp hb with rfl | hrest
      · exact ⟨_, List.mem_cons_self, hab⟩
      · obtain ⟨a, ha, hr⟩ := ih hrest
        exact ⟨a, List.mem_cons_of_mem _ ha, hr⟩

/-- A loop gets through exactly if it does at each element: no round depends on the rounds
before it. -/
theorem exists_mapM_iff {f : α → Except ε β} {l : List α} :
    (∃ out, l.mapM f = .ok out) ↔ ∀ a ∈ l, ∃ b, f a = .ok b := by
  induction l with
  | nil => exact ⟨fun _ a ha => absurd ha List.not_mem_nil, fun _ => ⟨[], rfl⟩⟩
  | cons a rest ih =>
      rw [List.forall_mem_cons, ← ih]
      constructor
      · rintro ⟨out, hout⟩
        obtain ⟨b, bs, hb, hbs, rfl⟩ := List.forall₂_cons_left_iff.mp (mapM_eq_ok_iff.mp hout)
        exact ⟨⟨b, hb⟩, bs, mapM_eq_ok_iff.mpr hbs⟩
      · rintro ⟨⟨b, hb⟩, bs, hbs⟩
        exact ⟨b :: bs, mapM_eq_ok_iff.mpr (.cons hb (mapM_eq_ok_iff.mp hbs))⟩

/-! ## What may go wrong -/

/-- Every error that the computation may end with is of the given kind.  It need not end with
an error. -/
def FailsOnlyWith (P : ε → Prop) (x : Except ε β) : Prop := ∀ why, x = .error why → P why

section Fails

variable {P : ε → Prop}

theorem FailsOnlyWith.ok (b : β) : FailsOnlyWith P (.ok b) := nofun

theorem FailsOnlyWith.bind {γ : Type u} {x : Except ε β} {next : β → Except ε γ}
    (hx : FailsOnlyWith P x) (hnext : ∀ b, x = .ok b → FailsOnlyWith P (next b)) :
    FailsOnlyWith P (x >>= next) := by
  cases x with
  | error why => exact fun why' h => hx why' (congrArg Except.error (Except.error.inj h))
  | ok b => exact hnext b rfl

theorem FailsOnlyWith.mapError {ε' : Type*} {f : ε' → ε} (hf : ∀ why, P (f why))
    (x : Except ε' β) : FailsOnlyWith P (x.mapError f) := by
  cases x with
  | error why => exact fun why' h => Except.error.inj h ▸ hf why
  | ok b => exact FailsOnlyWith.ok b

/-- A loop fails only in the ways in which a round of it fails. -/
theorem FailsOnlyWith.mapM {f : α → Except ε β} {l : List α}
    (hf : ∀ a ∈ l, FailsOnlyWith P (f a)) : FailsOnlyWith P (l.mapM f) := by
  induction l with
  | nil => exact FailsOnlyWith.ok []
  | cons a rest ih =>
      rw [List.mapM_cons]
      refine (hf a List.mem_cons_self).bind fun b _ => ?_
      exact (ih fun c hc => hf c (List.mem_cons_of_mem a hc)).bind fun bs _ =>
        FailsOnlyWith.ok (b :: bs)

end Fails

section Enter

variable {K V : Type*} [Ord K] [TransOrd K]

/-- Make a value of each element and enter it under the element's key, replacing what is
there.  The first value that cannot be made ends the loop. -/
def enterAll (key : α → K) (make : α → Except ε V) (m : ExtTreeMap K V compare) :
    List α → Except ε (ExtTreeMap K V compare)
  | [] => .ok m
  | a :: rest =>
      match make a with
      | .error why => .error why
      | .ok v => enterAll key make (m.insert (key a) v) rest

variable {key : α → K} {make : α → Except ε V}

/-- One round of the loop: the first element is entered, then the others into the map that
results. -/
theorem enterAll_cons_eq_ok_iff {m m' : ExtTreeMap K V compare} {a : α} {rest : List α} :
    enterAll key make m (a :: rest) = .ok m' ↔
      ∃ v, make a = .ok v ∧ enterAll key make (m.insert (key a) v) rest = .ok m' := by
  rw [enterAll]
  cases make a <;> simp

/-- **The loop gets through** exactly if each value can be made, whatever is in the map at
first. -/
theorem exists_enterAll_iff {l : List α} :
    ∀ m : ExtTreeMap K V compare,
      (∃ m', enterAll key make m l = .ok m') ↔ ∀ a ∈ l, ∃ v, make a = .ok v := by
  induction l with
  | nil => intro m; exact ⟨fun _ a ha => absurd ha List.not_mem_nil, fun _ => ⟨m, rfl⟩⟩
  | cons a rest ih =>
      intro m
      rw [List.forall_mem_cons]
      constructor
      · rintro ⟨m', hm'⟩
        obtain ⟨v, hv, hrest⟩ := enterAll_cons_eq_ok_iff.mp hm'
        exact ⟨⟨v, hv⟩, (ih _).mp ⟨m', hrest⟩⟩
      · rintro ⟨⟨v, hv⟩, hrest⟩
        obtain ⟨m', hm'⟩ := (ih (m.insert (key a) v)).mpr hrest
        exact ⟨m', enterAll_cons_eq_ok_iff.mpr ⟨v, hv, hm'⟩⟩

theorem FailsOnlyWith.enterAll {P : ε → Prop} {l : List α}
    (hmake : ∀ a ∈ l, FailsOnlyWith P (make a)) :
    ∀ m : ExtTreeMap K V compare, FailsOnlyWith P (enterAll key make m l) := by
  induction l with
  | nil => exact FailsOnlyWith.ok
  | cons a rest ih =>
      intro m
      rw [Library.enterAll]
      cases hv : make a with
      | error why =>
          rintro why' ⟨⟩
          exact hmake a List.mem_cons_self why hv
      | ok v => exact ih (fun b hb => hmake b (List.mem_cons_of_mem a hb)) _

variable [LawfulEqOrd K] [DecidableEq K]

/-- **The last element with a key** is the one in the map.  A key that no element has keeps
what it held before the loop. -/
theorem getElem?_of_enterAll {l : List α} :
    ∀ {m m' : ExtTreeMap K V compare}, enterAll key make m l = .ok m' → ∀ (k : K) (v : V),
      m'[k]? = some v ↔
        (∃ a, lastWith (fun a => key a = k) l = some a ∧ make a = .ok v) ∨
          (lastWith (fun a => key a = k) l = none ∧ m[k]? = some v) := by
  induction l with
  | nil =>
      intro m m' hm' k v
      obtain rfl := Except.ok.inj hm'
      simp
  | cons a rest ih =>
      intro m m' hm' k v
      obtain ⟨w, hw, hrest⟩ := enterAll_cons_eq_ok_iff.mp hm'
      have hcons : lastWith (fun a => decide (key a = k)) (a :: rest) =
          (lastWith (fun a => decide (key a = k)) rest).or
            (if key a = k then some a else none) := by
        rw [show a :: rest = [a] ++ rest from rfl, lastWith_append,
          show [a] = [] ++ [a] from rfl, lastWith_concat]
        simp
      rw [ih hrest, hcons, ExtTreeMap.getElem?_insert]
      cases hlast : lastWith (fun a => decide (key a = k)) rest with
      | some b => simp
      | none =>
          by_cases hkey : key a = k
          · simp [hkey, hw]
          · simp [hkey]

end Enter

end Library
