import EntityProvider.WatchPlan

/-!
# Can every resource be singled out?

An entry of the configuration that has the kind of a resource for a name, and lists its API
group, should be valid and stand for this resource: `SinglesOut`.  The selection does its
part for every group, the core group included.

The core group is the one whose name is empty, though, and `Resource::validate` takes an
empty group for a mistake.  So a resource can be singled out exactly if it is not in the
core group, and its kind has a name (`everySingledOut_iff`).
-/

namespace EntityProvider.AxKube

open Kube Library
open EntityProvider.Configuration (Resource ConfigError)

section SinglingOut

variable [UnicodeTables]

/-! ## The only entry -/

/-- With one entry, that entry decides or none does. -/
theorem eq_of_decidingEntry_singleton {entry res : Resource} {ar : DiscoveredResource}
    (hdecides : decidingEntry [entry] ar = some res) : res = entry := by
  rcases Option.or_eq_some_iff.mp hdecides with hkind | ⟨-, hplural⟩
  · exact List.mem_singleton.mp (mem_of_lastWith_eq_some hkind)
  · exact List.mem_singleton.mp (mem_of_lastWith_eq_some hplural)

/-- An entry decides about the resources of the kind it is named after. -/
theorem decidingEntry_of_name_eq_kind {entry : Resource} {ar : DiscoveredResource}
    (hname : entry.name = ar.kind) : decidingEntry [entry] ar = some entry := by
  have hnamed : isNamed (toLowercase ar.kind) entry = true := by simp [isNamed, hname]
  have hkind : lastWith (isNamed (toLowercase ar.kind)) [entry] = some entry :=
    lastWith_of_filter_eq_singleton (List.filter_cons_of_pos hnamed)
  rw [decidingEntry, hkind, Option.some_or]

variable [VersionPriority]

/-! ## Singling out -/

/-- The entry is for the resource: it is named after the kind, and lists the group. -/
structure IsFor (entry : Resource) (ar : DiscoveredResource) : Prop where
  name : entry.name = ar.kind
  groups : entry.apiGroups = some [ar.group]
  eventType : entry.eventType ≠ ""

/-- **An entry singles out a resource**: it is valid, and alone it selects the resource and
none of another group. -/
structure SinglesOut (order : IterOrder) (discovery : Discovery) (entry : Resource)
    (found : Discovered) : Prop where
  valid : entry.validate = .ok ()
  selected : found ∈ resolveApiResources order discovery [entry]
  only : ∀ other ∈ resolveApiResources order discovery [entry],
    other.1.group = found.1.group

/-- **Every recommended resource is singled out** by each entry for it. -/
def EverySingledOut (order : IterOrder) (discovery : Discovery) : Prop :=
  ∀ found ∈ discovery.recommended order, ∀ entry, IsFor entry found.1 →
    SinglesOut order discovery entry found

/-- Whatever the validation says, the selection is right. -/
theorem mem_resolveApiResources_of_isFor {order : IterOrder} {discovery : Discovery}
    {entry : Resource} {found : Discovered} (hfound : found ∈ discovery.recommended order)
    (hentry : IsFor entry found.1) :
    found ∈ resolveApiResources order discovery [entry] ∧
      ∀ other ∈ resolveApiResources order discovery [entry],
        other.1.group = found.1.group := by
  have hadmits : ∀ group, admits entry.apiGroups group = true ↔ group = found.1.group := by
    intro group
    simp [hentry.groups, admits, eq_comm]
  constructor
  · exact mem_resolveApiResources_iff.mpr
      ⟨hfound, entry, decidingEntry_of_name_eq_kind hentry.name, (hadmits _).mpr rfl⟩
  · intro other hother
    obtain ⟨-, res, hdecides, hres⟩ := mem_resolveApiResources_iff.mp hother
    obtain rfl := eq_of_decidingEntry_singleton hdecides
    exact (hadmits _).mp hres

omit [UnicodeTables] [VersionPriority] in
/-- An entry for a resource is valid unless the kind or the group has no name. -/
theorem validate_iff_of_isFor {entry : Resource} {ar : DiscoveredResource}
    (hentry : IsFor entry ar) :
    entry.validate = .ok () ↔ ar.kind ≠ "" ∧ ar.group ≠ "" := by
  rw [Resource.validate_eq_ok_iff, hentry.name, hentry.groups]
  constructor
  · rintro ⟨hkind, -, hgroups⟩
    refine ⟨hkind, fun hcore => hgroups _ rfl ?_⟩
    rw [hcore]
    exact List.mem_singleton_self _
  · rintro ⟨hkind, hgroup⟩
    refine ⟨hkind, hentry.eventType, fun groups hgroups hempty => hgroup ?_⟩
    obtain rfl := Option.some.inj hgroups
    exact (List.mem_singleton.mp hempty).symm

/-- **When every resource is singled out.**  Exactly if no recommended resource is in the
core group, whose name is empty, or has a kind without a name. -/
theorem everySingledOut_iff (order : IterOrder) (discovery : Discovery) :
    EverySingledOut order discovery ↔
      ∀ found ∈ discovery.recommended order, found.1.kind ≠ "" ∧ found.1.group ≠ "" := by
  constructor
  · intro hevery found hfound
    let entry : Resource := ⟨found.1.kind, [], some [found.1.group], [], [], "event"⟩
    have hentry : IsFor entry found.1 := ⟨rfl, rfl, by simp [entry]⟩
    exact (validate_iff_of_isFor hentry).mp (hevery found hfound entry hentry).valid
  · intro hnamed found hfound entry hentry
    obtain ⟨hselected, honly⟩ := mem_resolveApiResources_of_isFor hfound hentry
    exact ⟨(validate_iff_of_isFor hentry).mpr (hnamed found hfound), hselected, honly⟩

end SinglingOut

/-! ## The core group -/

/-- **The core group cannot be named.**  The entry for the events of the core group is turned
down, although it would select them and no others. -/
theorem not_everySingledOut_bothEventGroups :
    ¬ @EverySingledOut UnicodeTables.asciiOnly VersionPriority.all IterOrder.sorted
      bothEventGroups := by
  intro hevery
  have hkinds : (@Discovery.recommended VersionPriority.all bothEventGroups
      IterOrder.sorted).map Prod.fst =
        [(eventResource "").1, (eventResource "events.k8s.io").1] := by
    decide
  obtain ⟨core, others, hrecommended, hcore, -⟩ := List.map_eq_cons_iff.mp hkinds
  have hentry : IsFor (restrictedEntry "Event" "" "event") core.1 := by
    rw [hcore]
    exact ⟨rfl, rfl, by decide⟩
  have hsingle := hevery core (by rw [hrecommended]; exact .head _) _ hentry
  have hinvalid : (restrictedEntry "Event" "" "event").validate =
      .error (.invalidValue "resource.api_groups[0]" "Empty API group") := by
    decide
  exact absurd (hinvalid.symm.trans (@SinglesOut.valid UnicodeTables.asciiOnly
    VersionPriority.all _ _ _ _ hsingle)) (by decide)

end EntityProvider.AxKube
