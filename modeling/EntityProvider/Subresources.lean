import EntityProvider.AxKube.Apigroup

/-!
# Reading a list of resources

`GroupVersionData::new` should make one entry of each resource that is listed, with the
subresources below it, and these with the subresources below them: `ReadsList`.

It would panic on a name that is not listed, or a group version that cannot be parsed.  Only
names from the list are looked up, and a name is followed by longer ones only, so with a
group version that can be parsed the whole list is read, whatever the names in it are
(`exists_readsList`).
-/

namespace EntityProvider.AxKube

open Kube Library

/-! ## What is read -/

/-- The resource that an entry of the list describes. -/
def resourceOf (gv : GroupVersion) (res : APIResource) : DiscoveredResource where
  group := res.group.getD gv.group
  version := res.version.getD gv.version
  apiVersion := Kube.groupVersion gv.group gv.version
  kind := res.kind
  plural := res.name
  shortNames := res.shortNames

/-- Is there a resource of the name in the list? -/
def IsListed (list : APIResourceList) (name : String) : Prop :=
  ∃ res ∈ list.resources, res.name = name

/-- The pair that a subresource should be listed as: its plural is the rest of its name. -/
def subresourceOf (gv : GroupVersion) (caps : String → ApiCapabilities) (res : APIResource)
    (rest : String) : Discovered :=
  ({ resourceOf gv res with plural := rest }, caps res.name)

/-- **The subresources of a name**: the listed resources that continue it after a slash, in
the order of the list. -/
def below (list : APIResourceList) (gv : GroupVersion) (caps : String → ApiCapabilities)
    (name : String) : List Discovered :=
  list.resources.filterMap fun res =>
    (stripPrefix res.name (name ++ "/")).map (subresourceOf gv caps res)

/-- The capabilities that the resource of a name should have, given those of all names. -/
def capabilitiesOf (list : APIResourceList) (gv : GroupVersion)
    (caps : String → ApiCapabilities) (name : String) (ar : APIResource) : ApiCapabilities :=
  .mk (if ar.namespaced then .namespaced else .cluster) (below list gv caps name) ar.verbs

section Parsing

variable [GroupVersionParser]

/-- **The list is read exactly**, with `caps` for the capabilities by name. -/
structure ReadsList (version : String) (list : APIResourceList) (gv : GroupVersion)
    (caps : String → ApiCapabilities) : Prop where
  /-- The capabilities of a listed name are found, with its subresources. -/
  nodes : ∀ name, IsListed list name →
    parseApicapabilities list name = .ok (caps name) ∧
      ∃ ar, (list.resources.find? fun res => res.name = name) = some ar ∧
        caps name = capabilitiesOf list gv caps name ar
  /-- Each name without a slash is an entry. -/
  entries : GroupVersionData.new version list = .ok
    { version := version
      resources := (list.resources.filter fun res => '/' ∉ res.name.toList).map fun res =>
        (resourceOf gv res, caps res.name) }

/-! ## One name -/

theorem parseApiresource_eq {gv : GroupVersion} {text : String}
    (hgv : GroupVersionParser.parse text = some gv) (res : APIResource) :
    parseApiresource res text = .ok (resourceOf gv res) := by
  rw [parseApiresource, hgv]
  rfl

omit [GroupVersionParser] in
/-- The selected subresources, without what is known of them. -/
theorem map_subresources {β : Type} (list : APIResourceList) (name : String)
    (make : APIResource → String → β) :
    ((subresources list name).map fun sub => make sub.res sub.rest) =
      list.resources.filterMap fun res =>
        (stripPrefix res.name (name ++ "/")).map (make res) := by
  rw [subresources, List.map_filterMap]
  conv_rhs => rw [← List.attach_map_subtype_val list.resources, List.filterMap_map]
  refine List.filterMap_congr fun res _ => ?_
  dsimp only [Function.comp_apply]
  split
  next rest hrest => exact (congrArg (Option.map (make res.1)) hrest).symm
  next hrest => exact (congrArg (Option.map (make res.1)) hrest).symm

/-- The capabilities of a name, if those of the names below it are found. -/
theorem parseApicapabilities_of_subresources {list : APIResourceList} {gv : GroupVersion}
    (hgv : GroupVersionParser.parse list.groupVersion = some gv)
    {caps : String → ApiCapabilities} {name : String} {ar : APIResource}
    (har : (list.resources.find? fun res => res.name = name) = some ar)
    (hbelow : ∀ sub ∈ subresources list name,
      parseApicapabilities list sub.res.name = .ok (caps sub.res.name)) :
    parseApicapabilities list name = .ok (capabilitiesOf list gv caps name ar) := by
  have hsubs : ((subresources list name).mapM fun sub => do
      let apiResource ← (parseApiresource sub.res list.groupVersion).mapError
        DiscoveryPanic.invalidGroupVersion
      let caps ← parseApicapabilities list sub.res.name
      return ({ apiResource with plural := sub.rest }, caps)) =
      .ok (below list gv caps name) := by
    rw [below, ← map_subresources]
    refine mapM_eq_map fun sub hsub => ?_
    rw [parseApiresource_eq hgv, hbelow sub hsub]
    rfl
  rw [parseApicapabilities, har]
  simp only [hsubs]
  rfl

/-! ## All names -/

/-- The capabilities that are found for a name. -/
def foundCapabilities (list : APIResourceList) (name : String) : ApiCapabilities :=
  match parseApicapabilities list name with
  | .ok caps => caps
  | .error _ => .mk .cluster [] []

omit [GroupVersionParser] in
theorem exists_find?_of_isListed {list : APIResourceList} {name : String}
    (hname : IsListed list name) :
    ∃ ar, (list.resources.find? fun res => res.name = name) = some ar := by
  obtain ⟨res, hres, hname⟩ := hname
  rw [← Option.isSome_iff_exists, List.find?_isSome]
  exact ⟨res, hres, by simpa using hname⟩

/-- **No lookup fails**, by induction from the longest names down. -/
theorem parseApicapabilities_of_isListed {list : APIResourceList} {gv : GroupVersion}
    (hgv : GroupVersionParser.parse list.groupVersion = some gv) (name : String)
    (hname : IsListed list name) :
    parseApicapabilities list name = .ok (foundCapabilities list name) := by
  induction hlength : list.longestName - name.length using Nat.strong_induction_on
    generalizing name with
  | _ n ih =>
      obtain ⟨ar, har⟩ := exists_find?_of_isListed hname
      have hbelow : ∀ sub ∈ subresources list name, parseApicapabilities list sub.res.name =
          .ok (foundCapabilities list sub.res.name) := by
        intro sub _
        have hlonger := sub.length_name
        have hlongest := APIResourceList.length_le_longestName sub.listed
        exact ih (list.longestName - sub.res.name.length) (by omega) sub.res.name
          ⟨sub.res, sub.listed, rfl⟩ rfl
      have hfound := parseApicapabilities_of_subresources hgv har hbelow
      rw [hfound, foundCapabilities, hfound]

/-- **The whole list is read**, if its group version can be parsed. -/
theorem exists_readsList (version : String) {list : APIResourceList} {gv : GroupVersion}
    (hgv : GroupVersionParser.parse list.groupVersion = some gv) :
    ∃ caps, ReadsList version list gv caps := by
  refine ⟨foundCapabilities list, fun name hname => ?_, ?_⟩
  · have hfound := parseApicapabilities_of_isListed hgv name hname
    obtain ⟨ar, har⟩ := exists_find?_of_isListed hname
    refine ⟨hfound, ar, har, ?_⟩
    exact Except.ok.inj (hfound.symm.trans (parseApicapabilities_of_subresources hgv har
      fun sub _ => parseApicapabilities_of_isListed hgv _ ⟨sub.res, sub.listed, rfl⟩))
  · have hresources : ((list.resources.filter fun res => '/' ∉ res.name.toList).mapM
        fun res => do
          let ar ← (parseApiresource res list.groupVersion).mapError
            DiscoveryPanic.invalidGroupVersion
          let caps ← parseApicapabilities list res.name
          return (ar, caps)) =
        .ok ((list.resources.filter fun res => '/' ∉ res.name.toList).map fun res =>
          (resourceOf gv res, foundCapabilities list res.name)) := by
      refine mapM_eq_map fun res hres => ?_
      have hlisted : IsListed list res.name := ⟨res, (List.mem_filter.mp hres).1, rfl⟩
      rw [parseApiresource_eq hgv, parseApicapabilities_of_isListed hgv _ hlisted]
      rfl
    rw [GroupVersionData.new]
    simp only [hresources]
    rfl

end Parsing

/-! ## A list with subresources -/

/-- A group and a version with one slash between them, or a version alone. -/
@[reducible] def GroupVersionParser.slashed : GroupVersionParser where
  parse text :=
    match splitAtChar text '/' with
    | [version] => some ⟨"", version⟩
    | [group, version] => some ⟨group, version⟩
    | _ => none

/-- A resource of which only the name matters. -/
def namedResource (name : String) : APIResource :=
  ⟨name, none, none, "Deployment", true, none, ["get"]⟩

/-- A name below another one, one below that, and one that ends in a slash. -/
def nestedResources : APIResourceList where
  groupVersion := "apps/v1"
  resources :=
    ["deployments", "deployments/scale", "deployments/scale/", "", "deployments"].map
    namedResource

theorem exists_readsList_nestedResources :
    ∃ caps, @ReadsList GroupVersionParser.slashed "v1" nestedResources ⟨"apps", "v1"⟩ caps :=
  @exists_readsList GroupVersionParser.slashed "v1" _ _ (by decide)

end EntityProvider.AxKube
