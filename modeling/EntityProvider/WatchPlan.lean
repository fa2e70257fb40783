import EntityProvider.AxKube.Discovery

/-!
# Does the watch plan respect the configured API groups?

An entry of the configuration may restrict the API groups it is about.  The plan
respects this if every watch of an entry is on a resource of an allowed group, and if
every resource of a group that an entry lists is watched for it.

`resolve_api_resources` does compare groups, but for one entry only, the deciding one;
`dynamic_api` then makes watches for every entry of that name.  So the plan respects the
groups exactly if, for each recommended resource, the entries that name it agree with the
deciding entry about its group (`planRespectsGroups_iff`).  Two entries that name one
kind for two different groups never do.
-/

namespace EntityProvider.AxKube

open Kube Library
open EntityProvider.Configuration (Resource)

/-! ## The plan, with the entries behind it -/

/-- A watch of the plan and the entry whose selectors and event type it carries. -/
structure Planned where
  entry : Resource
  watch : ApiWithSelectors
  deriving DecidableEq, Repr

/-- The watches of one entry for one resource, with the entry. -/
def plannedFor (found : Discovered) (entry : Resource) : List Planned :=
  (entryApis found.1 found.2 entry).map (Planned.mk entry)

section Plan

variable [UnicodeTables] [VersionPriority]

/-- The watch plan, each watch with its entry. -/
def taggedPlan (order : IterOrder) (discovery : Discovery) (resources : List Resource) :
    List Planned :=
  (resolveApiResources order discovery resources).flatMap fun found =>
    resources.flatMap (plannedFor found)

/-- Without the entries, this is the plan. -/
theorem map_watch_taggedPlan (order : IterOrder) (discovery : Discovery)
    (resources : List Resource) :
    (taggedPlan order discovery resources).map Planned.watch =
      watchPlan order discovery resources := by
  have hentry : ∀ found entry,
      (plannedFor found entry).map Planned.watch = entryApis found.1 found.2 entry := by
    intro found entry
    simp [plannedFor, Function.comp_def]
  simp only [taggedPlan, watchPlan, dynamicApi, List.map_flatMap, hentry]

/-! ## What the plan should be -/

/-- An entry restricts a resource's group to a list that contains it. -/
def ListsGroup (entry : Resource) (group : String) : Prop :=
  ∃ allowed, entry.apiGroups = some allowed ∧ group ∈ allowed

/-- The watches an entry asks for on a resource: a cluster-wide one if the resource has
no namespaces or the entry lists none, otherwise one for each listed namespace. -/
def watchesFor (entry : Resource) (found : Discovered) : List ApiWithSelectors :=
  if found.2.scope = .cluster ∨ entry.namespaces = [] then
    [ApiWithSelectors.selecting entry (Api.allWith found.1.toKubeAr)]
  else
    entry.namespaces.map fun ns =>
      ApiWithSelectors.selecting entry (Api.namespacedWith ns found.1.toKubeAr)

/-- **The plan respects the API groups** of the entries; names are compared up to ASCII
case. -/
structure PlanRespectsGroups (order : IterOrder) (discovery : Discovery)
    (resources : List Resource) : Prop where
  /-- Every watch comes from an entry that names its resource and allows its group. -/
  allowed : ∀ item ∈ taggedPlan order discovery resources,
    item.entry ∈ resources ∧
      NamesResource item.entry item.watch.apiDyn.resource.kind
        item.watch.apiDyn.resource.plural ∧
      (item.entry.apiGroups = none ∨ ListsGroup item.entry item.watch.apiDyn.resource.group)
  /-- An entry that lists the group of a resource it names has its watches in the plan. -/
  watched : ∀ entry ∈ resources, ∀ found ∈ discovery.recommended order,
    NamesResource entry found.1.kind found.1.plural → ListsGroup entry found.1.group →
      ((watchesFor entry found).map (Planned.mk entry)).Sublist
        (taggedPlan order discovery resources)

/-- The entries that name a resource agree with the deciding one: if that one allows the
group of the resource they all do, and if not, none of them lists it. -/
def EntriesAgree (resources : List Resource) (ar : DiscoveredResource) : Prop :=
  ∀ decider, decidingEntry resources ar = some decider →
    ∀ entry ∈ resources, NamesResource entry ar.kind ar.plural →
      (admits decider.apiGroups ar.group = true → admits entry.apiGroups ar.group = true) ∧
        (admits decider.apiGroups ar.group = false → ¬ ListsGroup entry ar.group)

/-! ## Small facts -/

omit [UnicodeTables] [VersionPriority] in
theorem admits_iff {entry : Resource} {group : String} :
    admits entry.apiGroups group = true ↔
      entry.apiGroups = none ∨ ListsGroup entry group := by
  unfold admits ListsGroup
  cases entry.apiGroups <;> simp

omit [UnicodeTables] [VersionPriority] in
/-- For an entry that names the resource, the loop makes the watches it asks for. -/
theorem entryApis_of_namesResource {entry : Resource} {found : Discovered}
    (hname : NamesResource entry found.1.kind found.1.plural) :
    entryApis found.1 found.2 entry = watchesFor entry found := by
  unfold entryApis watchesFor
  rw [if_neg (not_not.mpr hname)]
  by_cases hscope : found.2.scope = .cluster
  · simp [hscope]
  · cases hnamespaces : entry.namespaces <;> simp [hscope]

omit [UnicodeTables] [VersionPriority] in
/-- An entry always asks for some watch. -/
theorem exists_mem_watchesFor (entry : Resource) (found : Discovered) :
    ∃ watch ∈ watchesFor entry found, watch.apiDyn.resource = found.1.toKubeAr := by
  by_cases hall : found.2.scope = .cluster ∨ entry.namespaces = []
  · exact ⟨_, by rw [watchesFor, if_pos hall]; exact List.mem_singleton_self _, rfl⟩
  · obtain ⟨ns, rest, hnamespaces⟩ :=
      List.exists_cons_of_ne_nil fun hnil => hall (Or.inr hnil)
    refine ⟨ApiWithSelectors.selecting entry (Api.namespacedWith ns found.1.toKubeAr), ?_,
      rfl⟩
    rw [watchesFor, if_neg hall, hnamespaces]
    simp

omit [VersionPriority] in
/-- A resource that some entry names has a deciding entry: Unicode lowercase identifies
all names that ASCII case identifies. -/
theorem exists_decidingEntry {resources : List Resource} {entry : Resource}
    {ar : DiscoveredResource} (hentry : entry ∈ resources)
    (hname : NamesResource entry ar.kind ar.plural) :
    ∃ decider, decidingEntry resources ar = some decider := by
  rw [← Option.isSome_iff_exists, Option.isSome_iff_ne_none]
  intro hnone
  obtain ⟨hkind, hplural⟩ := Option.or_eq_none_iff.mp hnone
  rcases hname with hname | hname
  · have hnot := lastWith_eq_none_iff.mp hkind entry hentry
    simp [isNamed, toLowercase_eq_of_toAsciiLowercase_eq hname] at hnot
  · have hnot := lastWith_eq_none_iff.mp hplural entry hentry
    simp [isNamed, toLowercase_eq_of_toAsciiLowercase_eq hname] at hnot

omit [VersionPriority] in
/-- Selection depends on what the client library knows of the resource. -/
theorem decidingEntry_congr {resources : List Resource} {ar ar' : DiscoveredResource}
    (h : ar.toKubeAr = ar'.toKubeAr) :
    decidingEntry resources ar = decidingEntry resources ar' := by
  have hkind : ar.kind = ar'.kind := congrArg ApiResource.kind h
  have hplural : ar.plural = ar'.plural := congrArg ApiResource.plural h
  rw [decidingEntry, decidingEntry, hkind, hplural]

theorem mem_taggedPlan_iff {order : IterOrder} {discovery : Discovery}
    {resources : List Resource} {item : Planned} :
    item ∈ taggedPlan order discovery resources ↔
      ∃ found ∈ resolveApiResources order discovery resources,
        item.entry ∈ resources ∧ item.watch ∈ entryApis found.1 found.2 item.entry := by
  obtain ⟨entry, watch⟩ := item
  simp [taggedPlan, plannedFor]

/-! ## When the plan respects the groups -/

/-- If a resource has an entry's watches in the plan, the deciding entry allows its
group. -/
theorem admits_of_planned {order : IterOrder} {discovery : Discovery}
    {resources : List Resource} {entry decider : Resource} {found : Discovered}
    (hplanned : ∀ watch ∈ watchesFor entry found,
      Planned.mk entry watch ∈ taggedPlan order discovery resources)
    (hdecider : decidingEntry resources found.1 = some decider) :
    admits decider.apiGroups found.1.group = true := by
  obtain ⟨watch, hwatch, hresource⟩ := exists_mem_watchesFor entry found
  obtain ⟨found', hfound', -, hwatch'⟩ := mem_taggedPlan_iff.mp (hplanned watch hwatch)
  have hsame : found'.1.toKubeAr = found.1.toKubeAr :=
    (mem_entryApis hwatch').2.symm.trans hresource
  obtain ⟨-, decider', hdecider', hadmits⟩ := mem_resolveApiResources_iff.mp hfound'
  rw [decidingEntry_congr hsame, hdecider] at hdecider'
  obtain rfl := Option.some.inj hdecider'
  rwa [show found'.1.group = found.1.group from congrArg ApiResource.group hsame] at hadmits

/-- The watches of an entry for a selected resource that it names are in the plan. -/
theorem sublist_taggedPlan {order : IterOrder} {discovery : Discovery}
    {resources : List Resource} {entry : Resource} {found : Discovered}
    (hfound : found ∈ resolveApiResources order discovery resources)
    (hentry : entry ∈ resources) (hname : NamesResource entry found.1.kind found.1.plural) :
    ((watchesFor entry found).map (Planned.mk entry)).Sublist
      (taggedPlan order discovery resources) := by
  have hinner : (plannedFor found entry).Sublist (resources.flatMap (plannedFor found)) :=
    List.sublist_flatten_of_mem (List.mem_map_of_mem hentry)
  have houter : (resources.flatMap (plannedFor found)).Sublist
      (taggedPlan order discovery resources) :=
    List.sublist_flatten_of_mem
      (List.mem_map_of_mem (f := fun found => resources.flatMap (plannedFor found)) hfound)
  rw [plannedFor, entryApis_of_namesResource hname] at hinner
  exact hinner.trans houter

/-- If the plan respects the groups, the entries agree. -/
theorem entriesAgree_of_planRespectsGroups {order : IterOrder} {discovery : Discovery}
    {resources : List Resource} (hplan : PlanRespectsGroups order discovery resources)
    {found : Discovered} (hfound : found ∈ discovery.recommended order) :
    EntriesAgree resources found.1 := by
  intro decider hdecider entry hentry hname
  constructor
  · -- selected because of the decider, the resource is watched for every entry
    intro hadmits
    have hselected : found ∈ resolveApiResources order discovery resources :=
      mem_resolveApiResources_iff.mpr ⟨hfound, decider, hdecider, hadmits⟩
    obtain ⟨watch, hwatch, hresource⟩ := exists_mem_watchesFor entry found
    have hitem : Planned.mk entry watch ∈ taggedPlan order discovery resources :=
      mem_taggedPlan_iff.mpr
        ⟨found, hselected, hentry, by rwa [entryApis_of_namesResource hname]⟩
    have hgroup := (hplan.allowed _ hitem).2.2
    rw [hresource] at hgroup
    exact admits_iff.mpr hgroup
  · -- turned down by the decider, it is watched for no entry
    intro hdenied hlists
    have hsublist := hplan.watched entry hentry found hfound hname hlists
    have hadmits : admits decider.apiGroups found.1.group = true :=
      admits_of_planned
        (fun watch hwatch => hsublist.subset (List.mem_map_of_mem hwatch)) hdecider
    exact absurd hadmits (by simp [hdenied])

/-- If the entries agree about all resources, the plan respects the groups. -/
theorem planRespectsGroups_of_entriesAgree {order : IterOrder} {discovery : Discovery}
    {resources : List Resource}
    (hagree : ∀ found ∈ discovery.recommended order, EntriesAgree resources found.1) :
    PlanRespectsGroups order discovery resources := by
  constructor
  · rintro ⟨entry, watch⟩ hitem
    obtain ⟨found, hfound, hentry, hwatch⟩ := mem_taggedPlan_iff.mp hitem
    obtain ⟨hname, hresource⟩ := mem_entryApis hwatch
    obtain ⟨hrecommended, decider, hdecider, hadmits⟩ :=
      mem_resolveApiResources_iff.mp hfound
    have hentryAdmits :=
      (hagree found hrecommended decider hdecider entry hentry hname).1 hadmits
    refine ⟨hentry, ?_, ?_⟩
    · rw [hresource]
      exact hname
    · rw [hresource]
      exact admits_iff.mp hentryAdmits
  · intro entry hentry found hfound hname hlists
    obtain ⟨decider, hdecider⟩ := exists_decidingEntry hentry hname
    have hadmits : admits decider.apiGroups found.1.group = true := by
      by_contra hdenied
      exact (hagree found hfound decider hdecider entry hentry hname).2
        (by simpa using hdenied) hlists
    exact sublist_taggedPlan
      (mem_resolveApiResources_iff.mpr ⟨hfound, decider, hdecider, hadmits⟩) hentry hname

/-- **The plan respects the groups** exactly if, for each recommended resource, the
entries that name it agree with the one that decides about it. -/
theorem planRespectsGroups_iff (order : IterOrder) (discovery : Discovery)
    (resources : List Resource) :
    PlanRespectsGroups order discovery resources ↔
      ∀ found ∈ discovery.recommended order, EntriesAgree resources found.1 := by
  constructor
  · intro hplan found hfound
    exact entriesAgree_of_planRespectsGroups hplan hfound
  · exact planRespectsGroups_of_entriesAgree

end Plan

/-! ## Two entries for the two groups of a kind -/

/-- A resource of version `v1` of a group. -/
def servedIn (kind plural group : String) : Discovered :=
  ({ group := group, version := "v1", apiVersion := groupVersion group "v1"
     kind := kind, plural := plural, shortNames := none },
    .mk .namespaced [] ["get", "list", "watch"])

/-- An API group with one resource. -/
def groupServing (group : String) (resource : Discovered) : ApiGroup where
  name := group
  data := [{ version := "v1", resources := [resource] }]
  preferred := some "v1"

/-- A cluster that serves a kind in two groups. -/
def servedInBoth (resourceIn : String → Discovered) (group group' : String) : Discovery where
  groups := .ofList [(group, groupServing group (resourceIn group)),
    (group', groupServing group' (resourceIn group'))]

/-- `events`, which is in the core group and in a group of its own. -/
def eventResource (group : String) : Discovered := servedIn "Event" "events" group

/-- `ingresses`, which has moved to another group. -/
def ingressResource (group : String) : Discovered := servedIn "Ingress" "ingresses" group

/-- A cluster with both `events`. -/
def bothEventGroups : Discovery := servedInBoth eventResource "" "events.k8s.io"

/-- A cluster with both `ingresses`. -/
def bothIngressGroups : Discovery :=
  servedInBoth ingressResource "extensions" "networking.k8s.io"

/-- An entry of the configuration that restricts the group. -/
def restrictedEntry (name group eventType : String) : Resource where
  name := name
  namespaces := []
  apiGroups := some [group]
  labelSelectors := []
  fieldSelectors := []
  eventType := eventType

/-- One entry for either group, under the two names of the resource. -/
def bothIngresses : List Resource :=
  [restrictedEntry "ingresses" "extensions" "old",
    restrictedEntry "ingress" "networking.k8s.io" "new"]

/-- Version priorities that do not distinguish any versions. -/
@[reducible] def VersionPriority.all : VersionPriority where
  best _ _ := true
  best_trans _ _ := rfl
  best_total _ _ := Or.inl rfl

/-- **The entry for the one group watches the other**: both entries pass their validation,
but the one named like the kind decides alone, and then both match. -/
theorem not_planRespectsGroups_bothIngresses :
    (∀ res ∈ bothIngresses, res.validate = .ok ()) ∧
      ¬ @PlanRespectsGroups UnicodeTables.asciiOnly VersionPriority.all IterOrder.sorted
        bothIngressGroups bothIngresses := by
  refine ⟨by decide, fun hplan => ?_⟩
  have hitem : Planned.mk (restrictedEntry "ingresses" "extensions" "old")
      (ApiWithSelectors.selecting (restrictedEntry "ingresses" "extensions" "old")
        (Api.allWith (ingressResource "networking.k8s.io").1.toKubeAr)) ∈
      @taggedPlan UnicodeTables.asciiOnly VersionPriority.all IterOrder.sorted
        bothIngressGroups bothIngresses := by
    decide
  have hgroup := (@PlanRespectsGroups.allowed UnicodeTables.asciiOnly VersionPriority.all
    _ _ _ hplan _ hitem).2.2
  rcases hgroup with hnone | ⟨allowed, hallowed, hmem⟩
  · exact absurd hnone (by decide)
  · obtain rfl : ["extensions"] = allowed := Option.some.inj hallowed
    exact absurd hmem (by decide)

end EntityProvider.AxKube
