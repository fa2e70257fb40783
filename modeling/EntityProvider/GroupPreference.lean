import EntityProvider.WatchPlan

/-!
# Which API group an entry without groups stands for

Several API groups can have a resource of one name.  An entry of the configuration that does
not say which group it means is meant to stand for one of them, the one with the least name:
this is what `kubectl` does, and what the comment in `resolve_api_resources` says.

The code never compares the groups with each other, so every resource that matches such an
entry is selected, unless its kind names another entry which restricts the groups.
`prefersGroups_iff` says when this is right all the same.
-/

namespace EntityProvider.AxKube

open Kube Library
open EntityProvider.Configuration (Resource)

section Preference

variable [UnicodeTables] [VersionPriority]

/-! ## Selecting resources, with their groups -/

/-- The recommended resources of all groups, each with its group. -/
def Discovery.recommendedByGroup (discovery : Discovery) (order : IterOrder) :
    List (ApiGroup × Discovered) :=
  (order.arrange discovery.groups.toList).flatMap fun entry =>
    (entry.2.recommendedResources order).map fun res => (entry.2, res)

/-- `resolve_api_resources`, before it drops the groups. -/
def resolveWithGroups (order : IterOrder) (discovery : Discovery)
    (resources : List Resource) :
    List (ApiGroup × Discovered) :=
  (discovery.recommendedByGroup order).filter fun found =>
    isFound (targetRes resources) found.2.1

omit [UnicodeTables] in
theorem map_snd_recommendedByGroup (discovery : Discovery) (order : IterOrder) :
    (discovery.recommendedByGroup order).map Prod.snd = discovery.recommended order := by
  simp [Discovery.recommendedByGroup, Discovery.recommended, List.map_flatMap,
    Function.comp_def]

/-- Without the groups, these are the resources that the code selects. -/
theorem map_snd_resolveWithGroups (order : IterOrder) (discovery : Discovery)
    (resources : List Resource) :
    (resolveWithGroups order discovery resources).map Prod.snd =
      resolveApiResources order discovery resources := by
  rw [resolveApiResources, ← map_snd_recommendedByGroup, List.filter_map]
  rfl

/-! ## What should be selected -/

omit [VersionPriority] in
/-- An entry stands for every resource whose kind or plural is its name, ignoring case. -/
def Matches (entry : Resource) (ar : DiscoveredResource) : Prop :=
  toLowercase ar.kind = toLowercase entry.name ∨
    toLowercase ar.plural = toLowercase entry.name

/-- The entry leaves the group open, and no other entry has its name. -/
structure IsOpen (resources : List Resource) (entry : Resource) : Prop where
  groups : entry.apiGroups = none
  only : resources.filter (isNamed (toLowercase entry.name)) = [entry]

/-- No group with a recommended resource for the entry has a lesser name. -/
def IsPreferred (order : IterOrder) (discovery : Discovery) (entry : Resource)
    (group : ApiGroup) : Prop :=
  ∀ other ∈ discovery.recommendedByGroup order, Matches entry other.2.1 →
    group.name ≤ other.1.name

/-- **The code prefers groups** as `kubectl` does: of all the resources that match an open
entry, it selects those of the group with the least name only, and so of one group. -/
structure PrefersGroups (order : IterOrder) (discovery : Discovery)
    (resources : List Resource) : Prop where
  least : ∀ entry, IsOpen resources entry →
    ∀ found ∈ resolveWithGroups order discovery resources, Matches entry found.2.1 →
      IsPreferred order discovery entry found.1
  single : ∀ entry, IsOpen resources entry →
    ∀ found ∈ resolveWithGroups order discovery resources, Matches entry found.2.1 →
      ∀ other ∈ resolveWithGroups order discovery resources, Matches entry other.2.1 →
        found.1.name = other.1.name

/-- Another entry turns the resource down: the last one named like the kind lists other
groups. -/
def TurnedDown (resources : List Resource) (ar : DiscoveredResource) : Prop :=
  ∃ decider allowed, lastWith (isNamed (toLowercase ar.kind)) resources = some decider ∧
    decider.apiGroups = some allowed ∧ ar.group ∉ allowed

/-! ## What is selected -/

omit [VersionPriority] in
/-- **What the code selects for an open entry**: all that match, unless another entry turns
them down. -/
theorem isFound_iff_of_isOpen {resources : List Resource} {entry : Resource}
    {ar : DiscoveredResource} (hopen : IsOpen resources entry) (hmatches : Matches entry ar) :
    isFound (targetRes resources) ar = true ↔ ¬ TurnedDown resources ar := by
  have hentry := lastWith_of_filter_eq_singleton hopen.only
  rw [isFound_targetRes, decidingEntry]
  unfold TurnedDown
  cases hkind : lastWith (isNamed (toLowercase ar.kind)) resources with
  | some decider =>
      cases hgroups : decider.apiGroups <;> simp [admits, hgroups]
  | none =>
      rcases hmatches with hname | hname
      · rw [hname, hentry] at hkind
        exact absurd hkind (by simp)
      · rw [hname, hentry]
        simp [admits, hopen.groups]

theorem mem_resolveWithGroups_iff {order : IterOrder} {discovery : Discovery}
    {resources : List Resource} {found : ApiGroup × Discovered} :
    found ∈ resolveWithGroups order discovery resources ↔
      found ∈ discovery.recommendedByGroup order ∧
        isFound (targetRes resources) found.2.1 = true :=
  List.mem_filter

/-- **When the code prefers groups.**  Exactly if every recommended resource that matches an
open entry is in the group with the least name, or is turned down by another entry. -/
theorem prefersGroups_iff (order : IterOrder) (discovery : Discovery)
    (resources : List Resource) :
    PrefersGroups order discovery resources ↔
      ∀ entry, IsOpen resources entry →
        ∀ found ∈ discovery.recommendedByGroup order, Matches entry found.2.1 →
          IsPreferred order discovery entry found.1 ∨ TurnedDown resources found.2.1 := by
  constructor
  · intro hprefers entry hopen found hfound hmatches
    by_cases hdown : TurnedDown resources found.2.1
    · exact Or.inr hdown
    · have hselected := mem_resolveWithGroups_iff.mpr
        ⟨hfound, (isFound_iff_of_isOpen hopen hmatches).mpr hdown⟩
      exact Or.inl (hprefers.least entry hopen found hselected hmatches)
  · intro hcond
    have hleast : ∀ entry, IsOpen resources entry →
        ∀ found ∈ resolveWithGroups order discovery resources, Matches entry found.2.1 →
          IsPreferred order discovery entry found.1 := by
      intro entry hopen found hselected hmatches
      obtain ⟨hfound, hisFound⟩ := mem_resolveWithGroups_iff.mp hselected
      exact (hcond entry hopen found hfound hmatches).resolve_right
        ((isFound_iff_of_isOpen hopen hmatches).mp hisFound)
    refine ⟨hleast, fun entry hopen found hfound hmatches other hother hmatches' => ?_⟩
    -- each of the two groups is least among all that match, the other one included
    exact String.le_antisymm
      (hleast entry hopen found hfound hmatches other
        (mem_resolveWithGroups_iff.mp hother).1 hmatches')
      (hleast entry hopen other hother hmatches' found
        (mem_resolveWithGroups_iff.mp hfound).1 hmatches)

end Preference

/-! ## Events, twice -/

/-- One entry for events, of whatever group. -/
def anyEvents : Resource := { restrictedEntry "events" "" "event" with apiGroups := none }

/-- **Both groups of events are selected** for the one entry. -/
theorem not_prefersGroups_anyEvents :
    ¬ @PrefersGroups UnicodeTables.asciiOnly VersionPriority.all IterOrder.sorted
      bothEventGroups [anyEvents] := by
  intro hprefers
  have hboth : (@resolveWithGroups UnicodeTables.asciiOnly VersionPriority.all
      IterOrder.sorted bothEventGroups [anyEvents]).map
        (fun found => (found.1.name, found.2.1)) =
      [("", (eventResource "").1), ("events.k8s.io", (eventResource "events.k8s.io").1)] := by
    decide
  obtain ⟨core, others, hselected, hcore, hrest⟩ := List.map_eq_cons_iff.mp hboth
  obtain ⟨grouped, rest, rfl, hgrouped, -⟩ := List.map_eq_cons_iff.mp hrest
  have hopen : @IsOpen UnicodeTables.asciiOnly [anyEvents] anyEvents :=
    @IsOpen.mk UnicodeTables.asciiOnly _ _ rfl (by decide)
  have hmatches : ∀ {found : ApiGroup × Discovered} {group : String},
      (found.1.name, found.2.1) = (group, (eventResource group).1) →
        @Matches UnicodeTables.asciiOnly anyEvents found.2.1 := by
    intro found group heq
    rw [(Prod.mk.inj heq).2]
    exact Or.inr rfl
  have hsame : core.1.name = grouped.1.name :=
    @PrefersGroups.single UnicodeTables.asciiOnly VersionPriority.all _ _ _ hprefers anyEvents
      hopen core (by rw [hselected]; exact .head _) (hmatches hcore)
      grouped (by rw [hselected]; exact .tail _ (.head _)) (hmatches hgrouped)
  rw [(Prod.mk.inj hcore).1, (Prod.mk.inj hgrouped).1] at hsame
  exact absurd hsame (by decide)

end EntityProvider.AxKube
