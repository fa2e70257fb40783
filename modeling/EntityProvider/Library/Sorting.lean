import Mathlib.Data.List.Sort

/-!
# The first of a stably sorted list

A list is sorted to take what comes first.  With a stable sort this is the first of the
elements that come before all others, in the order of the list: `FirstOf`, which says this
without sorting.
-/

namespace Library

variable {α : Type*} {r : α → α → Prop}

/-- An element that comes before all of the list, or ties with it, and is the first to do so:
what stands in front of it does not come before it. -/
def FirstOf (r : α → α → Prop) (l : List α) (a : α) : Prop :=
  (∀ b ∈ l, r a b) ∧ ∃ front back, l = front ++ a :: back ∧ ∀ b ∈ front, ¬ r b a

theorem FirstOf.mem {l : List α} {a : α} (hfirst : FirstOf r l a) : a ∈ l := by
  obtain ⟨-, front, back, rfl, -⟩ := hfirst
  simp

/-- **Sorting moves the first one to the front.** -/
theorem firstOf_of_insertionSort [DecidableRel r] (htrans : ∀ {a b c}, r a b → r b c → r a c)
    (htotal : ∀ a b, r a b ∨ r b a) {l : List α} :
    ∀ {a rest}, l.insertionSort r = a :: rest → FirstOf r l a := by
  have hrefl : ∀ a, r a a := fun a => (htotal a a).elim id id
  induction l with
  | nil => intro a rest hsorted; exact absurd hsorted (by simp)
  | cons x l ih =>
      intro a rest hsorted
      rw [List.insertionSort_cons] at hsorted
      cases htail : l.insertionSort r with
      | nil =>
          obtain rfl : l = [] := by
            have hlength := (List.perm_insertionSort r l).length_eq
            rw [htail] at hlength
            exact List.length_eq_zero_iff.mp hlength.symm
          obtain ⟨rfl, -⟩ := List.cons.inj hsorted
          exact ⟨by simpa using hrefl x, [], [], rfl, by simp⟩
      | cons b sorted =>
          obtain ⟨hbest, front, back, hsplit, hfront⟩ := ih htail
          rw [htail, List.orderedInsert_cons] at hsorted
          by_cases hx : r x b
          · rw [if_pos hx] at hsorted
            obtain ⟨rfl, -⟩ := List.cons.inj hsorted
            refine ⟨List.forall_mem_cons.mpr ⟨hrefl x, fun c hc => htrans hx (hbest c hc)⟩,
              [], l, rfl, by simp⟩
          · rw [if_neg hx] at hsorted
            obtain ⟨rfl, -⟩ := List.cons.inj hsorted
            refine ⟨List.forall_mem_cons.mpr ⟨(htotal x b).resolve_left hx, hbest⟩,
              x :: front, back, by rw [hsplit, List.cons_append], ?_⟩
            exact List.forall_mem_cons.mpr ⟨hx, hfront⟩

end Library
