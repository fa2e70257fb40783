import EntityProvider.AxKube.Apigroup
import EntityProvider.Library.Maps
import EntityProvider.Library.Sorting

/-!
# The recommended resources

`recommended_resources` is meant to pick, for each kind of a group, the resource of the best
version: `BestOfEachKind`.  It collects the resources of all versions in lists by kind, sorts
each list and takes what is at index zero; `recommendedFromMap` is this, index and all.

A list is only ever made to push a resource onto it, so none is empty, and the sort is
stable, so the best resource of a kind that is found first is at the front
(`recommended_bestOfEachKind`).
-/

namespace EntityProvider.AxKube

open Std (ExtTreeMap)
open Kube Library

/-! ## The lists of a kind -/

/-- The resources of all versions, in the order of the data. -/
def ApiGroup.resources (g : ApiGroup) : List Discovered :=
  g.data.flatMap GroupVersionData.resources

/-- The resources of a kind, in the order of the data. -/
def ApiGroup.ofKind (g : ApiGroup) (kind : String) : List Discovered :=
  g.resources.filter fun found => found.1.kind = kind

/-- `into_group_map_by` on the kind, with the lists it pushes the resources onto. -/
def groupMap (resources : List Discovered) : ExtTreeMap String (List Discovered) compare :=
  grouped (· ++ ·) (resources.map fun found => (found.1.kind, [found]))

theorem mergeAll_singletons (resources : List Discovered) :
    mergeAll (· ++ ·) (resources.map fun found => [found]) =
      if resources = [] then none else some resources := by
  induction resources using List.reverseRecOn with
  | nil => rfl
  | append_singleton resources found ih =>
      rw [List.map_append, List.map_singleton, mergeAll_concat, ih]
      cases resources <;> simp

/-- **The map holds the resources of a kind**, and no empty list. -/
theorem getElem?_groupMap (resources : List Discovered) (kind : String) :
    (groupMap resources)[kind]? =
      if (resources.filter fun found => found.1.kind = kind) = [] then none
      else some (resources.filter fun found => found.1.kind = kind) := by
  rw [groupMap, getElem?_grouped, List.filter_map, List.map_map, ← mergeAll_singletons]
  rfl

/-- The lists of the map, as a first resource and those after it. -/
theorem groupMap_eq_map (resources : List Discovered) :
    groupMap resources = (kindGroups resources).map fun _ found => found.1 :: found.2 := by
  have hmerged : ∀ l : List Discovered,
      mergeAll (· ++ ·) (l.map fun found => [found]) =
        (mergeAll KindGroup.push (l.map fun found => (found, []))).map
          fun found => found.1 :: found.2 := by
    intro l
    induction l using List.reverseRecOn with
    | nil => rfl
    | append_singleton l found ih =>
        rw [List.map_append, List.map_singleton, mergeAll_concat, ih, List.map_append,
          List.map_singleton, mergeAll_concat]
        cases mergeAll KindGroup.push (l.map fun found => (found, [])) <;> rfl
  apply ExtTreeMap.ext_getElem?
  intro kind
  rw [ExtTreeMap.getElem?_map, groupMap, kindGroups, getElem?_grouped, getElem?_grouped,
    List.filter_map, List.filter_map, List.map_map, List.map_map]
  exact hmerged _

section Priority

variable [VersionPriority]

/-- What the closure of `recommended_resources` makes of a list: the index would panic on an
empty one. -/
def takeFirst (entry : String × List Discovered) : Option Discovered :=
  (entry.2.insertionSort RanksBefore)[0]?

/-- `recommended_resources`, with the index that may panic. -/
def recommendedFromMap (order : IterOrder) (g : ApiGroup) : Option (List Discovered) :=
  (order.arrange (groupMap g.resources).toList).mapM takeFirst

/-- **The best of each kind.**  For a kind of the group there is one resource, the first of
those whose version has the highest priority; for no other kind is there any. -/
structure BestOfEachKind (g : ApiGroup) (out : List Discovered) : Prop where
  occurring : ∀ kind, g.ofKind kind ≠ [] →
    ∃ best, (out.filter fun found => found.1.kind = kind) = [best] ∧
      FirstOf RanksBefore (g.ofKind kind) best
  others : ∀ found ∈ out, g.ofKind found.1.kind ≠ []

/-! ## Taking the first -/

theorem RanksBefore.trans {a b c : Discovered} (hab : RanksBefore a b)
    (hbc : RanksBefore b c) : RanksBefore a c :=
  VersionPriority.best_trans hab hbc

theorem ranksBefore_total (a b : Discovered) : RanksBefore a b ∨ RanksBefore b a :=
  VersionPriority.best_total _ _

omit [VersionPriority] in
theorem kind_of_mem_ofKind {g : ApiGroup} {kind : String} {found : Discovered}
    (hfound : found ∈ g.ofKind kind) : found.1.kind = kind :=
  of_decide_eq_true (List.mem_filter.mp hfound).2

/-- The list of each kind has a first resource. -/
theorem exists_first {g : ApiGroup} {entry : String × List Discovered}
    (hentry : entry ∈ (groupMap g.resources).toList) :
    ∃ best, takeFirst entry = some best ∧ FirstOf RanksBefore (g.ofKind entry.1) best := by
  have hvalue := ExtTreeMap.mem_toList_iff_getElem?_eq_some.mp hentry
  rw [getElem?_groupMap] at hvalue
  by_cases hnil : (g.resources.filter fun found => found.1.kind = entry.1) = []
  · rw [if_pos hnil] at hvalue
    exact absurd hvalue (by simp)
  · rw [if_neg hnil] at hvalue
    have hlist : g.ofKind entry.1 = entry.2 := Option.some.inj hvalue
    rw [takeFirst, ← hlist]
    cases hsorted : (g.ofKind entry.1).insertionSort RanksBefore with
    | nil =>
        have hlength := (List.perm_insertionSort RanksBefore (g.ofKind entry.1)).length_eq
        rw [hsorted] at hlength
        exact absurd (List.length_eq_zero_iff.mp hlength.symm) hnil
    | cons best rest =>
        exact ⟨best, rfl, firstOf_of_insertionSort (r := RanksBefore) RanksBefore.trans
          ranksBefore_total hsorted⟩

/-- What is taken from the list of a kind is of the kind. -/
theorem kind_of_taken {g : ApiGroup} {entry : String × List Discovered} {found : Discovered}
    (hentry : entry ∈ (groupMap g.resources).toList)
    (hfound : takeFirst entry = some found) :
    found.1.kind = entry.1 := by
  obtain ⟨best, hbest, hfirst⟩ := exists_first hentry
  obtain rfl := Option.some.inj (hfound.symm.trans hbest)
  exact kind_of_mem_ofKind hfirst.mem

/-- No index is out of bounds, and what is taken is what the resources of each kind are
recommended for. -/
theorem recommendedFromMap_perm (order : IterOrder) (g : ApiGroup) :
    ∃ out, recommendedFromMap order g = some out ∧
      out.Perm ((groupMap g.resources).toList.filterMap takeFirst) := by
  have hperm := order.perm (groupMap g.resources).toList
  refine ⟨_, mapM_eq_filterMap fun entry hentry => ?_, hperm.filterMap _⟩
  obtain ⟨best, hbest, -⟩ := exists_first (hperm.mem_iff.mp hentry)
  rw [hbest]
  rfl

/-- The same for the lists that are known not to be empty. -/
theorem recommendedResources_perm (order : IterOrder) (g : ApiGroup) :
    (g.recommendedResources order).Perm
      ((groupMap g.resources).toList.filterMap takeFirst) := by
  have htaken : takeFirst ∘ (fun entry : String × KindGroup =>
      (entry.1, entry.2.1 :: entry.2.2)) = some ∘ fun entry => entry.2.recommended := by
    funext entry
    show entry.2.sorted[0]? = some (entry.2.sorted.head entry.2.sorted_ne_nil)
    rw [← List.head?_eq_some_head, List.head?_eq_getElem?]
  rw [groupMap_eq_map, ExtTreeMap.toList_map, List.filterMap_map, htaken,
    List.filterMap_eq_map]
  exact (order.perm _).map _

/-- What is taken from the lists is the best of each kind, in any order. -/
theorem bestOfEachKind_of_perm {g : ApiGroup} {out : List Discovered}
    (hperm : out.Perm ((groupMap g.resources).toList.filterMap takeFirst)) :
    BestOfEachKind g out := by
  refine ⟨fun kind hkind => ?_, fun found hfound => ?_⟩
  · have hvalue : (groupMap g.resources)[kind]? = some (g.ofKind kind) := by
      rw [getElem?_groupMap]
      exact if_neg hkind
    obtain ⟨best, hbest, hfirst⟩ :=
      exists_first (ExtTreeMap.mem_toList_iff_getElem?_eq_some.mpr hvalue)
    refine ⟨best, ?_, hfirst⟩
    -- of all that is taken, only what comes from the list of the kind is of the kind
    have hof := hperm.filter fun found => found.1.kind = kind
    rw [filter_filterMap_eq (p := fun entry => entry.1 = kind), filter_toList, hvalue,
      Option.map_some, Option.toList_some, List.filterMap_cons_some hbest, List.filterMap_nil]
      at hof
    · exact List.perm_singleton.mp hof
    · intro entry hentry found hfound
      rw [kind_of_taken hentry hfound]
  · obtain ⟨entry, hentry, hbest⟩ := List.mem_filterMap.mp (hperm.mem_iff.mp hfound)
    obtain ⟨best, -, hfirst⟩ := exists_first hentry
    rw [kind_of_taken hentry hbest]
    exact List.ne_nil_of_mem hfirst.mem

/-- **The recommended resources are the best of each kind**, and taking them never panics. -/
theorem recommended_bestOfEachKind (order : IterOrder) (g : ApiGroup) :
    ∃ out, recommendedFromMap order g = some out ∧ BestOfEachKind g out ∧
      out.Perm (g.recommendedResources order) := by
  obtain ⟨out, hout, hperm⟩ := recommendedFromMap_perm order g
  exact ⟨out, hout, bestOfEachKind_of_perm hperm,
    hperm.trans (recommendedResources_perm order g).symm⟩

end Priority

end EntityProvider.AxKube
