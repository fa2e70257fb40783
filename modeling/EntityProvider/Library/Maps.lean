import EntityProvider.Library.Ledger
import Mathlib.Data.List.Basic
import Mathlib.Data.List.Pairwise
import Std.Data.ExtTreeMap

/-!
# The entries of a finite map

What a program that goes through a map, entry by entry, computes from it.  The keys of the
entries are different, and this is what all of these results rest on.

* `insertMany_of_perm`: a loop that inserts the entries one by one, in any order, rebuilds the
  map.
* `lastWith_toList`, `filter_toList`: a loop that waits for one key finds what the map holds
  there.
* `filter_toList_congr`: maps that agree on some keys list the same entries there.
* `pairwise_toList_iff`: a symmetric relation holds along the list of entries exactly if it
  holds between any two entries with different keys.
-/

namespace Library

open Std

section Copy

variable {K V : Type*} [Ord K] [TransOrd K]

/-- A fold of insertions is one bulk insertion, for which the library of maps has its
lemmas. -/
theorem foldl_insert_eq_insertMany :
    ∀ (entries : List (K × V)) (base : ExtTreeMap K V compare),
      entries.foldl (fun m entry => m.insert entry.1 entry.2) base =
        base.insertMany entries := by
  intro entries
  induction entries with
  | nil => intro base; simp
  | cons entry rest ih =>
      intro base
      rw [List.foldl_cons, ih, ← ExtTreeMap.insertMany_cons]

variable [LawfulEqOrd K]

/-- Inserting all entries of a map into the empty map, in any order, gives the map back. -/
theorem insertMany_of_perm {entries : List (K × V)} {m : ExtTreeMap K V compare}
    (hperm : entries.Perm m.toList) :
    (∅ : ExtTreeMap K V compare).insertMany entries = m := by
  classical
  have hkeys : entries.Pairwise fun a b => ¬ compare a.1 b.1 = .eq :=
    (hperm.pairwise_iff fun hab hba => hab (OrientedCmp.eq_symm hba)).mpr
      ExtTreeMap.distinct_keys_toList
  apply ExtTreeMap.ext_getElem?
  intro k
  cases hk : m[k]? with
  | some v =>
      have hmem : (k, v) ∈ entries :=
        hperm.mem_iff.mpr (ExtTreeMap.mem_toList_iff_getElem?_eq_some.mpr hk)
      exact ExtTreeMap.getElem?_insertMany_list_of_mem compare_self hkeys hmem
  | none =>
      rw [ExtTreeMap.getElem?_insertMany_list_of_contains_eq_false]
      · simp
      · have habsent : k ∉ entries.map Prod.fst := by
          rw [(hperm.map Prod.fst).mem_iff]
          intro hmem
          obtain ⟨entry, hentry, rfl⟩ := List.mem_map.mp hmem
          rw [ExtTreeMap.mem_toList_iff_getElem?_eq_some.mp hentry] at hk
          exact absurd hk (by simp)
        simpa using habsent

theorem insertMany_toList (m : ExtTreeMap K V compare) :
    (∅ : ExtTreeMap K V compare).insertMany m.toList = m :=
  insertMany_of_perm (List.Perm.refl _)

/-- The last entry under a key, the only one there is, is what the map holds. -/
theorem lastWith_toList [DecidableEq K] (m : ExtTreeMap K V compare) (k : K) :
    lastWith (fun entry => entry.1 = k) m.toList = m[k]?.map fun v => (k, v) := by
  cases hlast : lastWith (fun entry => decide (entry.1 = k)) m.toList with
  | none =>
      have hnone : m[k]? = none := by
        cases hk : m[k]? with
        | none => rfl
        | some v =>
            have hmem : (k, v) ∈ m.toList := ExtTreeMap.mem_toList_iff_getElem?_eq_some.mpr hk
            exact absurd (lastWith_eq_none_iff.mp hlast (k, v) hmem) (by simp)
      rw [hnone, Option.map_none]
  | some entry =>
      obtain ⟨hkey, -⟩ := lastWith_eq_some_iff.mp hlast
      obtain rfl : entry.1 = k := of_decide_eq_true hkey
      rw [ExtTreeMap.mem_toList_iff_getElem?_eq_some.mp (mem_of_lastWith_eq_some hlast),
        Option.map_some]

/-- Under one key the list of entries has one entry, or none: what the map holds there, with
its key. -/
theorem filter_toList [DecidableEq K] (m : ExtTreeMap K V compare) (k : K) :
    (m.toList.filter fun entry => entry.1 = k) = (m[k]?.map fun v => (k, v)).toList := by
  have hmem : ∀ entry, entry ∈ (m.toList.filter fun entry => entry.1 = k) ↔
      m[k]?.map (fun v => (k, v)) = some entry := by
    rintro ⟨key, v⟩
    rw [List.mem_filter, ExtTreeMap.mem_toList_iff_getElem?_eq_some, decide_eq_true_iff,
      Option.map_eq_some_iff]
    constructor
    · rintro ⟨hvalue, rfl⟩
      exact ⟨v, hvalue, rfl⟩
    · rintro ⟨v', hvalue, heq⟩
      obtain ⟨rfl, rfl⟩ := Prod.mk.inj heq
      exact ⟨hvalue, rfl⟩
  have hkeys : (m.toList.filter fun entry => entry.1 = k).Pairwise
      fun a b => ¬ compare a.1 b.1 = .eq :=
    ExtTreeMap.distinct_keys_toList.filter _
  cases hlist : m.toList.filter fun entry => entry.1 = k with
  | nil =>
      cases hvalue : m[k]?.map fun v => (k, v) with
      | none => rfl
      | some entry =>
          have hnot := (hmem entry).mpr hvalue
          rw [hlist] at hnot
          exact absurd hnot (by simp)
  | cons entry rest =>
      rw [hlist] at hmem hkeys
      have hentry := (hmem entry).mp List.mem_cons_self
      rw [hentry]
      cases rest with
      | nil => rfl
      | cons other rest =>
          have hother := (hmem other).mp (List.mem_cons_of_mem _ List.mem_cons_self)
          obtain rfl := Option.some.inj (hentry.symm.trans hother)
          exact absurd compare_self ((List.pairwise_cons.mp hkeys).1 entry List.mem_cons_self)

/-- Maps that hold the same under some keys have the same entries there, in the same order. -/
theorem filter_toList_congr {m m' : ExtTreeMap K V compare} (same : K → Bool)
    (hsame : ∀ k, same k = true → m[k]? = m'[k]?) :
    (m.toList.filter fun entry => same entry.1) =
      m'.toList.filter fun entry => same entry.1 := by
  have hmem : ∀ entry, (entry ∈ m.toList.filter fun entry => same entry.1) ↔
      entry ∈ m'.toList.filter fun entry => same entry.1 := by
    rintro ⟨k, v⟩
    simp only [List.mem_filter, ExtTreeMap.mem_toList_iff_getElem?_eq_some]
    exact and_congr_left fun hkey => by rw [hsame k hkey]
  have hordered : ∀ m : ExtTreeMap K V compare,
      (m.toList.filter fun entry => same entry.1).Pairwise
        fun a b => compare a.1 b.1 = .lt := fun m => ExtTreeMap.ordered_keys_toList.filter _
  have hnodup : ∀ m : ExtTreeMap K V compare,
      (m.toList.filter fun entry => same entry.1).Nodup := fun m =>
    (hordered m).imp fun hlt heq => by simp [heq] at hlt
  refine List.Perm.eq_of_pairwise (fun a b _ _ hab hba => ?_) (hordered m) (hordered m')
    ((List.perm_ext_iff_of_nodup (hnodup m) (hnodup m')).mpr hmem)
  exact absurd (hab.symm.trans (OrientedCmp.gt_of_lt hba)) (by decide)

/-- Entries of a map are compared pairwise by comparing all with different keys; where they
stand in the list does not matter, as the relation is symmetric. -/
theorem pairwise_toList_iff {R : K × V → K × V → Prop} (hsymm : ∀ {a b}, R a b → R b a)
    (m : ExtTreeMap K V compare) :
    m.toList.Pairwise R ↔
      ∀ a ∈ m.toList, ∀ b ∈ m.toList, a.1 ≠ b.1 → R a b := by
  have : Std.Symm R := ⟨fun _ _ hab => hsymm hab⟩
  constructor
  · intro hpairs a ha b hb hkey
    exact hpairs.forall ha hb fun heq => hkey (congrArg Prod.fst heq)
  · intro hall
    refine List.Pairwise.imp_of_mem ?_ ExtTreeMap.distinct_keys_toList
    intro a b ha hb hne
    exact hall a ha b hb fun hkey => hne (hkey ▸ compare_self)

end Copy

end Library
