import EntityProvider.Library.Ledger
import Mathlib.Data.List.Basic

/-!
# Merged streams

Several streams are read as one.  Nothing is known of the merged order except
that it keeps the order of each stream: `IsMerge view streams merged` says that
what `merged` shows of stream `i`, through `view i`, is `streams i`.

Three facts about the *last* element with a property are what a reader that only
remembers the latest report needs: `lastWith_flatMap` passes from the elements to
what they are turned into, `eq_or_mem_of_lastWith` says where every other element
with the property is, and `followed_iff_lastWith` says what it takes for the last
one not to be `bad`: every `bad` element has to be `Followed` by a `good` one.
-/

namespace Library

variable {ι α β : Type*}

/-- The merged list keeps the order of every stream and adds nothing to it.  How the streams
are interleaved is open. -/
def IsMerge (view : ι → β → Option α) (streams : ι → List α) (merged : List β) : Prop :=
  ∀ i, merged.filterMap (view i) = streams i

namespace IsMerge

variable {view : ι → β → Option α} {streams : ι → List α} {merged : List β}

theorem mem_iff (h : IsMerge view streams merged) {i : ι} {a : α} :
    a ∈ streams i ↔ ∃ b ∈ merged, view i b = some a := by
  rw [← h i, List.mem_filterMap]

/-- A place in the merged list is a place in the stream it comes from. -/
theorem split (h : IsMerge view streams merged) {i : ι} {a : α} {b : β}
    {front back : List β} (hmerged : merged = front ++ b :: back)
    (hb : view i b = some a) :
    streams i = front.filterMap (view i) ++ a :: back.filterMap (view i) := by
  rw [← h i, hmerged, List.filterMap_append, List.filterMap_cons_some hb]

end IsMerge

/-- The last of everything that `l` is turned into comes from its last element
that is turned into anything at all. -/
theorem lastWith_flatMap {p : α → Bool} {f : β → List α} {l : List β}
    (hp : ∀ b ∈ l, ∀ a ∈ f b, p a = true) :
    lastWith p (l.flatMap f) =
      (lastWith (fun b => !(f b).isEmpty) l).bind fun b => (f b).getLast? := by
  induction l using List.reverseRecOn with
  | nil => rfl
  | append_singleton l b ih =>
      have hl := ih (fun c hc => hp c (List.mem_append_left _ hc))
      have hb := hp b (by simp)
      rw [List.flatMap_append, lastWith_concat]
      have hflat : [b].flatMap f = f b := by simp
      rw [hflat]
      rcases List.eq_nil_or_concat' (f b) with hnil | ⟨init, a, hlast⟩
      · simpa [hnil] using hl
      · have ha : p a = true := hb a (by simp [hlast])
        rw [hlast, ← List.append_assoc, lastWith_concat, if_pos ha]
        simp [hlast]

/-- Every element with the property is the last one, or comes before it. -/
theorem eq_or_mem_of_lastWith {p : α → Bool} {l front back : List α} {a b : α}
    (hlast : lastWith p l = some a) (hsplit : l = front ++ b :: back) (hb : p b = true) :
    b = a ∨ a ∈ back := by
  have happ : l = (front ++ [b]) ++ back := by simp [hsplit]
  rw [happ, lastWith_append, lastWith_concat, if_pos hb] at hlast
  cases hback : lastWith p back with
  | none =>
      rw [hback] at hlast
      exact Or.inl (Option.some.inj hlast)
  | some c =>
      rw [hback] at hlast
      obtain rfl : c = a := Option.some.inj hlast
      exact Or.inr (mem_of_lastWith_eq_some hback)

/-- Behind any element other than the last one, the last one is still to come. -/
theorem mem_of_getLast?_eq {l front back : List α} {a b : α} (hlast : l.getLast? = some b)
    (hsplit : l = front ++ a :: back) (hab : a ≠ b) : b ∈ back := by
  rw [hsplit, List.getLast?_append, List.getLast?_cons, Option.some_or] at hlast
  have hb : back.getLast?.getD a = b := Option.some.inj hlast
  cases hback : back.getLast? with
  | none => exact absurd (by simpa [hback] using hb) hab
  | some c =>
      obtain rfl : c = b := by simpa [hback] using hb
      exact List.mem_of_getLast? hback

/-- Every element of `l` that is `bad` has a `good` one somewhere after it. -/
def Followed (bad good : α → Prop) (l : List α) : Prop :=
  ∀ front a back, l = front ++ a :: back → bad a → ∃ b ∈ back, good b

theorem Followed.mono {bad bad' good : α → Prop} {l : List α} (h : Followed bad good l)
    (hbad : ∀ a ∈ l, bad' a → bad a) : Followed bad' good l := by
  intro front a back hsplit ha
  exact h front a back hsplit (hbad a (by simp [hsplit]) ha)

/-- What remains to be followed when only some `bad` elements are known to be: the
others, in any place, are followed anyway. -/
theorem Followed.of_cases {bad bad' good : α → Prop} {l : List α}
    (h : Followed bad' good l)
    (hrest : Followed (fun a => bad a ∧ ¬ bad' a) good l) : Followed bad good l := by
  intro front a back hsplit ha
  by_cases ha' : bad' a
  · exact h front a back hsplit ha'
  · exact hrest front a back hsplit ⟨ha, ha'⟩

/-- **The last element is not bad** exactly if every bad element is followed by a
good one, where the elements with the property `p` are the bad and the good ones. -/
theorem followed_iff_lastWith {p : α → Bool} {bad good : α → Prop} {l : List α}
    (hp : ∀ a ∈ l, p a = true ↔ bad a ∨ good a) :
    Followed bad good l ↔ ∀ a, lastWith p l = some a → ¬ bad a := by
  constructor
  · intro hfollowed a hlast hbad
    obtain ⟨-, front, back, hsplit, hback⟩ := lastWith_eq_some_iff.mp hlast
    obtain ⟨b, hb, hgood⟩ := hfollowed front a back hsplit hbad
    have hpb : p b = true := (hp b (by simp [hsplit, hb])).mpr (Or.inr hgood)
    exact absurd hpb (by simp [hback b hb])
  · intro hlast front a back hsplit hbad
    have ha : a ∈ l := by simp [hsplit]
    have hpa : p a = true := (hp a ha).mpr (Or.inl hbad)
    cases hl : lastWith p l with
    | none => exact absurd hpa (by simp [lastWith_eq_none_iff.mp hl a ha])
    | some b =>
        have hb : b ∈ l := mem_of_lastWith_eq_some hl
        have hnotBad : ¬ bad b := hlast b hl
        have hgood : good b :=
          ((hp b hb).mp (lastWith_eq_some_iff.mp hl).1).resolve_left hnotBad
        rcases eq_or_mem_of_lastWith hl hsplit hpa with rfl | hback
        · exact absurd hbad hnotBad
        · exact ⟨b, hback, hgood⟩

end Library
