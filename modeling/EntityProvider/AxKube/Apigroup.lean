import EntityProvider.Kube.Api
import EntityProvider.Library.Grouping
import Mathlib.Data.List.Sort

/-!
# API groups

`ax_kube/apigroup.rs`: the resources that discovery finds for the versions of an API
group, and which of them are recommended.

The API server lists the resources of a version with their subresources, which have names
with slashes.  `GroupVersionData::new` keeps the resources, and `parse_apicapabilities`
collects below each name the ones that continue it, by looking through the whole list again
for every name it meets.

`recommended_resources` groups the resources of all versions by kind, sorts each
group by version priority, the best first, and takes its first element.  The groups
are built by pushing, so none is empty and the index cannot panic.  The priority of a
version string is computed by the `kube` library; `VersionPriority` is what the sort
needs of it.
-/

namespace EntityProvider.AxKube

open Kube Library

/-- How `kube` ranks version strings: `best a b` says that the priority of `a` is at
least that of `b`. -/
class VersionPriority where
  best : String → String → Bool
  best_trans : ∀ {a b c}, best a b = true → best b c = true → best a c = true
  best_total : ∀ a b, best a b = true ∨ best b a = true

/-- `apigroup::ApiResource`: `kube`'s own, with the short names. -/
structure DiscoveredResource where
  group : String
  version : String
  apiVersion : String
  kind : String
  plural : String
  shortNames : Option (List String)
  deriving DecidableEq, Repr

/-- `ApiResource::to_kube_ar`: the resource as `kube`'s own requests need it, without the
short names. -/
def DiscoveredResource.toKubeAr (ar : DiscoveredResource) : ApiResource where
  group := ar.group
  version := ar.version
  apiVersion := ar.apiVersion
  kind := ar.kind
  plural := ar.plural

/-- `ApiCapabilities`: the scope of a resource, its subresources with capabilities of their
own, and the verbs it supports. -/
inductive ApiCapabilities where
  | mk (scope : Scope) (subresources : List (DiscoveredResource × ApiCapabilities))
      (operations : List String)

/-- The scope of a resource: its objects are in namespaces, or belong to the whole cluster. -/
def ApiCapabilities.scope : ApiCapabilities → Scope
  | .mk scope _ _ => scope

/-- A discovered resource with its capabilities, the pair that discovery passes on. -/
abbrev Discovered := DiscoveredResource × ApiCapabilities

/-- `GroupVersionData`: one version of an API group, with the resources that are found in
it. -/
structure GroupVersionData where
  version : String
  resources : List Discovered

/-- `ApiGroup`: an API group with what is found in its versions, and the version that the
server prefers. -/
structure ApiGroup where
  name : String
  data : List GroupVersionData
  preferred : Option String

/-! ## Reading a list of resources -/

/-- `meta::v1::APIResource`, the fields that are read.  Group and version are only given where
they are not those of the list. -/
structure APIResource where
  name : String
  group : Option String
  version : Option String
  kind : String
  namespaced : Bool
  shortNames : Option (List String)
  verbs : List String
  deriving DecidableEq, Repr

/-- `meta::v1::APIResourceList`: what the server lists for one group and version, subresources
included. -/
structure APIResourceList where
  groupVersion : String
  resources : List APIResource
  deriving DecidableEq, Repr

/-- `kube`'s `GroupVersion`: the two parts of an `apiVersion`. -/
structure GroupVersion where
  group : String
  version : String
  deriving DecidableEq, Repr

/-- How `kube` parses a group and version, which it may refuse. -/
class GroupVersionParser where
  parse : String → Option GroupVersion

/-- The panics of `apigroup.rs`, both of which are about a list of resources: a name is not in
it, or its group and version do not parse. -/
inductive DiscoveryPanic where
  | missingResource
  | invalidGroupVersion (text : String)
  deriving DecidableEq, Repr

/-- A listed resource whose name continues the given one after a slash, together with the
proof that it does. -/
structure Subresource (list : APIResourceList) (name : String) where
  res : APIResource
  /-- What `strip_prefix` leaves of its name. -/
  rest : String
  listed : res ∈ list.resources
  named : res.name = name ++ "/" ++ rest

theorem Subresource.length_name {list : APIResourceList} {name : String}
    (sub : Subresource list name) :
    sub.res.name.length = name.length + 1 + sub.rest.length := by
  rw [sub.named, String.length_append, String.length_append]
  rfl

/-- The resources that the loop of `parse_apicapabilities` does not pass over. -/
def subresources (list : APIResourceList) (name : String) : List (Subresource list name) :=
  list.resources.attach.filterMap fun res =>
    match hrest : stripPrefix res.1.name (name ++ "/") with
    | some rest => some ⟨res.1, rest, res.2, stripPrefix_eq_some_iff.mp hrest⟩
    | none => none

/-- The length of the longest name in the list, which bounds how deep subresources can go. -/
def APIResourceList.longestName (list : APIResourceList) : ℕ :=
  list.resources.foldr (fun res longest => max res.name.length longest) 0

theorem APIResourceList.length_le_longestName {list : APIResourceList} {res : APIResource}
    (hres : res ∈ list.resources) : res.name.length ≤ list.longestName := by
  unfold longestName
  generalize list.resources = resources at hres
  induction resources with
  | nil => exact absurd hres (by simp)
  | cons first rest ih =>
      rcases List.mem_cons.mp hres with rfl | hrest
      · exact Nat.le_max_left _ _
      · exact (ih hrest).trans (Nat.le_max_right _ _)

section Parsing

variable [GroupVersionParser]

/-- `parse_apiresource`; its error is the text that cannot be parsed. -/
def parseApiresource (ar : APIResource) (groupVersion : String) :
    Except String DiscoveredResource :=
  match GroupVersionParser.parse groupVersion with
  | none => .error groupVersion
  | some gv =>
      .ok
        { group := ar.group.getD gv.group
          version := ar.version.getD gv.version
          apiVersion := Kube.groupVersion gv.group gv.version
          kind := ar.kind
          plural := ar.name
          shortNames := ar.shortNames }

/-- `parse_apicapabilities`.  The names get longer with every call, and the longest one in the
list bounds them. -/
def parseApicapabilities (list : APIResourceList) (name : String) :
    Except DiscoveryPanic ApiCapabilities :=
  match list.resources.find? fun res => res.name = name with
  | none => .error .missingResource
  | some ar => do
      let subs ← (subresources list name).mapM fun sub => do
        let apiResource ← (parseApiresource sub.res list.groupVersion).mapError
          DiscoveryPanic.invalidGroupVersion
        let caps ← parseApicapabilities list sub.res.name
        return ({ apiResource with plural := sub.rest }, caps)
      return .mk (if ar.namespaced then .namespaced else .cluster) subs ar.verbs
termination_by list.longestName - name.length
decreasing_by
  have hlonger := sub.length_name
  have hlongest := APIResourceList.length_le_longestName sub.listed
  omega

/-- `GroupVersionData::new`: every listed resource that is no subresource, with its
capabilities.  One that cannot be read ends this. -/
def GroupVersionData.new (version : String) (list : APIResourceList) :
    Except DiscoveryPanic GroupVersionData := do
  -- subresources are skipped
  let listed := list.resources.filter fun res => '/' ∉ res.name.toList
  let resources ← listed.mapM fun res => do
    let ar ← (parseApiresource res list.groupVersion).mapError
      DiscoveryPanic.invalidGroupVersion
    let caps ← parseApicapabilities list res.name
    return (ar, caps)
  return { version := version, resources := resources }

end Parsing

/-! ## Recommended resources -/

/-- The resources of one kind: the first one that was found, and those after it. -/
abbrev KindGroup := Discovered × List Discovered

/-- Push further resources onto a group, in the order in which they are found. -/
def KindGroup.push (found more : KindGroup) : KindGroup :=
  (found.1, found.2 ++ more.1 :: more.2)

/-- `into_group_map_by` on the kind: the resources of all versions, by kind. -/
def kindGroups (resources : List Discovered) :
    Std.ExtTreeMap String KindGroup compare :=
  grouped KindGroup.push (resources.map fun r => (r.1.kind, (r, [])))

section Priority

variable [VersionPriority]

/-- The order of the sort: a resource of higher priority comes first. -/
def RanksBefore (a b : Discovered) : Prop :=
  VersionPriority.best a.1.version b.1.version = true

instance : DecidableRel RanksBefore := fun a b =>
  inferInstanceAs (Decidable (VersionPriority.best a.1.version b.1.version = true))

/-- The resources of one kind, sorted by priority.  The sort is stable: of two with one
priority, the one that was found first stays first. -/
def KindGroup.sorted (found : KindGroup) : List Discovered :=
  (found.1 :: found.2).insertionSort RanksBefore

theorem KindGroup.sorted_ne_nil (found : KindGroup) : found.sorted ≠ [] := by
  intro hnil
  have hlength := (List.perm_insertionSort RanksBefore (found.1 :: found.2)).length_eq
  rw [show (found.1 :: found.2).insertionSort RanksBefore = [] from hnil] at hlength
  exact absurd hlength (by simp)

/-- `v[0]` of the sorted resources of one kind, which is there because a group is never
empty. -/
def KindGroup.recommended (found : KindGroup) : Discovered :=
  found.sorted.head found.sorted_ne_nil

/-- `recommended_resources`: one resource for each kind, the kinds in the order their map
yields them. -/
def ApiGroup.recommendedResources (order : IterOrder) (g : ApiGroup) : List Discovered :=
  (order.arrange (kindGroups (g.data.flatMap GroupVersionData.resources)).toList).map
    fun entry => entry.2.recommended

end Priority

end EntityProvider.AxKube
