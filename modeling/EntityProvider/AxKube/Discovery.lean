import EntityProvider.AxKube.Apigroup
import EntityProvider.Configuration
import EntityProvider.Library.Ledger

/-!
# From the configured resources to the watches

`resolve_api_resources` and `dynamic_api` of `ax_kube/discovery.rs`, and the plan that
the two loops of `watch` make of them.

The configured entries are matched twice.  `resolve_api_resources` collects them in a
map from lowercased names to API groups, looks a resource up by kind and then by plural,
and compares groups; two entries with one lowercased name leave a single map entry, the
later one's.  `dynamic_api` goes through the list itself, compares names up to ASCII case
and does not look at groups.

The first matching is decided by one entry (`isFound_targetRes`): the last one named like
the kind, or where there is none, the last one named like the plural.
-/

namespace EntityProvider.AxKube

open Std (ExtTreeMap)
open Kube Library

/-! ## Selecting resources -/

/-- What `Discovery` has found: the API groups by their names. -/
structure Discovery where
  groups : ExtTreeMap String ApiGroup compare

/-- The recommended resources of all groups, in the order the maps yield them. -/
def Discovery.recommended [VersionPriority] (discovery : Discovery) (order : IterOrder) :
    List Discovered :=
  (order.arrange discovery.groups.toList).flatMap fun entry =>
    entry.2.recommendedResources order

/-- Is a group allowed by an entry's `api_groups`?  Without a list every group is. -/
def admits (apiGroups : Option (List String)) (group : String) : Bool :=
  match apiGroups with
  | some allowed => allowed.any fun apg => apg = group
  | none => true

section Selection

variable [UnicodeTables]

/-- `target_res`: the API groups of the entries, by lowercased name. -/
def targetRes (resources : List Configuration.Resource) :
    ExtTreeMap String (Option (List String)) compare :=
  resources.foldl (fun targets res => targets.insert (toLowercase res.name) res.apiGroups) ∅

/-- `is_found`: the kind is looked up first, the plural only if there is no such key. -/
def isFound (targets : ExtTreeMap String (Option (List String)) compare)
    (res : DiscoveredResource) : Bool :=
  match targets[toLowercase res.kind]? with
  | some apiGroups => admits apiGroups res.group
  | none =>
      match targets[toLowercase res.plural]? with
      | some apiGroups => admits apiGroups res.group
      | none => false

/-- `resolve_api_resources`: of the recommended resources of all groups, those that the
configured entries select. -/
def resolveApiResources [VersionPriority] (order : IterOrder) (discovery : Discovery)
    (resources : List Configuration.Resource) : List Discovered :=
  (discovery.recommended order).filter fun found => isFound (targetRes resources) found.1

/-- Is an entry's lowercased name the given one, which is a key of the map? -/
def isNamed (key : String) (res : Configuration.Resource) : Bool :=
  toLowercase res.name = key

/-- The entry whose groups decide about a resource: the last one named like its kind, else the
last one named like its plural. -/
def decidingEntry (resources : List Configuration.Resource) (ar : DiscoveredResource) :
    Option Configuration.Resource :=
  (lastWith (isNamed (toLowercase ar.kind)) resources).or
    (lastWith (isNamed (toLowercase ar.plural)) resources)

/-- Of the entries with one lowercased name, the last one is in the map. -/
theorem getElem?_targetRes (resources : List Configuration.Resource) (key : String) :
    (targetRes resources)[key]? =
      (lastWith (isNamed key) resources).map Configuration.Resource.apiGroups := by
  induction resources using List.reverseRecOn with
  | nil => simp [targetRes]
  | append_singleton resources res ih =>
      have hstep : targetRes (resources ++ [res]) =
          (targetRes resources).insert (toLowercase res.name) res.apiGroups := by
        simp [targetRes]
      rw [hstep, ExtTreeMap.getElem?_insert, ih, lastWith_concat]
      by_cases hkey : toLowercase res.name = key
      · simp [isNamed, hkey]
      · simp [isNamed, hkey]

/-- **One entry decides** whether a resource is selected. -/
theorem isFound_targetRes (resources : List Configuration.Resource)
    (ar : DiscoveredResource) :
    isFound (targetRes resources) ar = true ↔
      ∃ res, decidingEntry resources ar = some res ∧
        admits res.apiGroups ar.group = true := by
  unfold isFound decidingEntry
  rw [getElem?_targetRes, getElem?_targetRes]
  cases lastWith (isNamed (toLowercase ar.kind)) resources with
  | some res => simp
  | none =>
      cases lastWith (isNamed (toLowercase ar.plural)) resources with
      | some res => simp
      | none => simp

theorem mem_resolveApiResources_iff [VersionPriority] {order : IterOrder}
    {discovery : Discovery} {resources : List Configuration.Resource} {found : Discovered} :
    found ∈ resolveApiResources order discovery resources ↔
      found ∈ discovery.recommended order ∧
        ∃ res, decidingEntry resources found.1 = some res ∧
          admits res.apiGroups found.1.group = true := by
  rw [resolveApiResources, List.mem_filter, isFound_targetRes]

end Selection

/-! ## Watches -/

/-- `ApiWithSelectors`: one watch, by what it watches, what it selects and the event type it
reports. -/
structure ApiWithSelectors where
  labelSelectors : Option (List String)
  fieldSelectors : Option (List String)
  eventType : String
  apiDyn : Api
  deriving DecidableEq, Repr

/-- A watch with the selectors and the event type of an entry, which all watches of the entry
share. -/
def ApiWithSelectors.selecting (res : Configuration.Resource) (api : Api) :
    ApiWithSelectors where
  labelSelectors := some res.labelSelectors
  fieldSelectors := some res.fieldSelectors
  eventType := res.eventType
  apiDyn := api

/-- Does an entry name a kind or a plural, up to ASCII case? -/
def NamesResource (res : Configuration.Resource) (kind plural : String) : Prop :=
  toAsciiLowercase res.name = toAsciiLowercase kind ∨
    toAsciiLowercase res.name = toAsciiLowercase plural

instance (res : Configuration.Resource) (kind plural : String) :
    Decidable (NamesResource res kind plural) :=
  inferInstanceAs (Decidable (_ ∨ _))

/-- One iteration of the loop in `dynamic_api`: a watch for each namespace of the entry, or
one for all of them. -/
def entryApis (ar : DiscoveredResource) (caps : ApiCapabilities)
    (res : Configuration.Resource) : List ApiWithSelectors :=
  if ¬ NamesResource res ar.kind ar.plural then []
  else if caps.scope = .cluster then
    [ApiWithSelectors.selecting res (Api.allWith ar.toKubeAr)]
  else if res.namespaces.length > 0 then
    res.namespaces.map fun ns =>
      ApiWithSelectors.selecting res (Api.namespacedWith ns ar.toKubeAr)
  else
    [ApiWithSelectors.selecting res (Api.allWith ar.toKubeAr)]

/-- `dynamic_api`: the watches of one resource, for every entry that names it, in the order of
the entries. -/
def dynamicApi (ar : DiscoveredResource) (caps : ApiCapabilities)
    (resources : List Configuration.Resource) : List ApiWithSelectors :=
  resources.flatMap (entryApis ar caps)

/-- The watches that `watch` starts, each in a task of its own. -/
def watchPlan [UnicodeTables] [VersionPriority] (order : IterOrder) (discovery : Discovery)
    (resources : List Configuration.Resource) : List ApiWithSelectors :=
  (resolveApiResources order discovery resources).flatMap fun found =>
    dynamicApi found.1 found.2 resources

/-- An entry's watches for a resource it names, whatever else it says. -/
theorem mem_entryApis {ar : DiscoveredResource} {caps : ApiCapabilities}
    {res : Configuration.Resource} {watch : ApiWithSelectors}
    (h : watch ∈ entryApis ar caps res) :
    NamesResource res ar.kind ar.plural ∧ watch.apiDyn.resource = ar.toKubeAr := by
  unfold entryApis at h
  split_ifs at h with hname hscope hnamespaces
  · obtain rfl := List.mem_singleton.mp h
    exact ⟨hname, rfl⟩
  · obtain ⟨ns, -, rfl⟩ := List.mem_map.mp h
    exact ⟨hname, rfl⟩
  · obtain rfl := List.mem_singleton.mp h
    exact ⟨hname, rfl⟩
  · exact absurd h List.not_mem_nil

end EntityProvider.AxKube
