import EntityProvider.AxKube.Discovery
import EntityProvider.Library.Attempts
import EntityProvider.Recommended
import EntityProvider.Subresources

/-!
# Running discovery

`Discovery::run`, with `query_apis`, `query_core` and `sort_versions`: the API server is
asked for its groups, for the versions of the core group, and for the resources of every
version.  A `DiscoveryApi` is what it answers.

There is no partial result.  One request that fails, a group without versions or a list with
a group version that cannot be parsed ends the whole discovery, and with it `watch`:
`run_succeeds_iff` says exactly when that does not happen.  Only an answer that is not sound
can make discovery panic (`failsOnlyWith_discover`).  If it succeeds, the result holds what
was listed: `FindsServed` for the groups, `Represents` for what is known of each, and no
resource that the API server does not serve (`serves_of_recommended`).

The versions of a group are sorted, the best first, and `recommended_resources` sorts again.
`recommended_first` says that the second sort has nothing to do: the resource recommended
for a kind is the first one in the data.
-/

namespace EntityProvider.AxKube

open Std (ExtTreeMap)
open Kube Library

/-! ## What the API server answers -/

/-- `meta::v1::GroupVersionForDiscovery`. -/
structure GroupVersionForDiscovery where
  groupVersion : String
  version : String
  deriving DecidableEq, Repr

/-- `meta::v1::APIGroup`, the fields that are read. -/
structure APIGroup where
  name : String
  versions : List GroupVersionForDiscovery
  preferredVersion : Option GroupVersionForDiscovery
  deriving DecidableEq, Repr

/-- The error of a request. -/
structure RequestError where
  message : String
  deriving DecidableEq, Repr

/-- The requests of discovery, by their answers. -/
structure DiscoveryApi where
  listApiGroups : Except RequestError (List APIGroup)
  listApiGroupResources : String → Except RequestError APIResourceList
  listCoreApiVersions : Except RequestError (List String)
  listCoreApiResources : String → Except RequestError APIResourceList

/-- How discovery ends without a result. -/
inductive DiscoveryFailure where
  /-- A request failed: discovery returns the error. -/
  | request (why : RequestError)
  /-- A list of resources cannot be read: discovery panics. -/
  | unreadable (why : DiscoveryPanic)
  /-- Discovery panics with `empty group version`. -/
  | emptyGroupVersion
  /-- Discovery panics with `empty api group`. -/
  | emptyApiGroup
  deriving DecidableEq, Repr

/-- `DiscoveryMode`. -/
inductive DiscoveryMode where
  | allow (allowed : List String)
  | block (blocked : List String)

/-- `DiscoveryMode::is_queryable`. -/
def DiscoveryMode.isQueryable (mode : DiscoveryMode) (group : String) : Bool :=
  match mode with
  | .allow allowed => allowed.contains group
  | .block blocked => !blocked.contains group

/-! ## The run -/

section Run

variable [GroupVersionParser] [VersionPriority]

/-- The order of the versions of a group: one of higher priority comes first. -/
def VersionBefore (a b : GroupVersionData) : Prop :=
  VersionPriority.best a.version b.version = true

instance : DecidableRel VersionBefore := fun a b =>
  inferInstanceAs (Decidable (VersionPriority.best a.version b.version = true))

/-- `ApiGroup::sort_versions`. -/
def ApiGroup.sortVersions (g : ApiGroup) : ApiGroup :=
  { g with data := g.data.insertionSort VersionBefore }

omit [VersionPriority] in
/-- One round of the loops over versions: ask for the resources, and read the answer. -/
def readVersion (answer : Except RequestError APIResourceList) (version : String) :
    Except DiscoveryFailure GroupVersionData := do
  let resources ← answer.mapError .request
  (GroupVersionData.new version resources).mapError .unreadable

/-- What `query_apis` and `query_core` have in common: the versions are read one after the
other, by the answers for them, and sorted. -/
def ApiGroup.query (empty : DiscoveryFailure) (name : String) (preferred : Option String)
    (versions : List (Except RequestError APIResourceList × String)) :
    Except DiscoveryFailure ApiGroup := do
  if versions.isEmpty then throw empty
  let data ← versions.mapM fun vers => readVersion vers.1 vers.2
  let group : ApiGroup := { name := name, data := data, preferred := preferred }
  return group.sortVersions

/-- The requests of `query_apis` for the versions of a group. -/
def DiscoveryApi.groupAnswers (api : DiscoveryApi) (g : APIGroup) :
    List (Except RequestError APIResourceList × String) :=
  g.versions.map fun vers => (api.listApiGroupResources vers.groupVersion, vers.version)

/-- The requests of `query_core` for the versions of the core group. -/
def DiscoveryApi.coreAnswers (api : DiscoveryApi) (coreapis : List String) :
    List (Except RequestError APIResourceList × String) :=
  coreapis.map fun v => (api.listCoreApiResources v, v)

/-- `ApiGroup::query_apis`. -/
def ApiGroup.queryApis (api : DiscoveryApi) (g : APIGroup) :
    Except DiscoveryFailure ApiGroup :=
  ApiGroup.query .emptyGroupVersion g.name (g.preferredVersion.map fun v => v.version)
    (api.groupAnswers g)

/-- `ApiGroup::query_core`. -/
def ApiGroup.queryCore (api : DiscoveryApi) (coreapis : List String) :
    Except DiscoveryFailure ApiGroup :=
  ApiGroup.query .emptyApiGroup "" (some "v1") (api.coreAnswers coreapis)

/-- `Discovery::run`. -/
def Discovery.run (mode : DiscoveryMode) (api : DiscoveryApi) :
    Except DiscoveryFailure Discovery := do
  let apiGroups ← api.listApiGroups.mapError .request
  let groups ← enterAll APIGroup.name (ApiGroup.queryApis api) ∅
    (apiGroups.filter fun g => mode.isQueryable g.name)
  if mode.isQueryable "" then
    let coreapis ← api.listCoreApiVersions.mapError .request
    let apigroup ← ApiGroup.queryCore api coreapis
    return ⟨groups.insert "" apigroup⟩
  else return ⟨groups⟩

/-- `discovery::new`: nothing is blocked. -/
def discover (api : DiscoveryApi) : Except DiscoveryFailure Discovery :=
  Discovery.run (.block []) api

/-! ## When it succeeds -/

/-- A list of resources can be read: its group version can be parsed, or there is nothing
but subresources in it. -/
def Readable (list : APIResourceList) : Prop :=
  (∃ gv, GroupVersionParser.parse list.groupVersion = some gv) ∨
    ∀ res ∈ list.resources, '/' ∈ res.name.toList

omit [VersionPriority] in
/-- One round of the loop of `GroupVersionData::new`. -/
def readResource (list : APIResourceList) (res : APIResource) :
    Except DiscoveryPanic Discovered := do
  let ar ← (parseApiresource res list.groupVersion).mapError .invalidGroupVersion
  let caps ← parseApicapabilities list res.name
  return (ar, caps)

omit [VersionPriority] in
/-- **What can be read** is read without a panic. -/
theorem exists_new_iff (version : String) (list : APIResourceList) :
    (∃ gvd, GroupVersionData.new version list = .ok gvd) ↔ Readable list := by
  constructor
  · rintro ⟨gvd, hnew⟩
    by_cases hsub : ∀ res ∈ list.resources, '/' ∈ res.name.toList
    · exact Or.inr hsub
    · obtain ⟨res, hres⟩ := not_forall.mp hsub
      obtain ⟨hlisted, htop⟩ := Classical.not_imp.mp hres
      obtain ⟨resources, hresources, -⟩ := bind_eq_ok_iff.mp hnew
      obtain ⟨found, hfound⟩ := exists_mapM_iff.mp ⟨resources, hresources⟩ res
        (List.mem_filter.mpr ⟨hlisted, by simpa using htop⟩)
      obtain ⟨ar, har, -⟩ := bind_eq_ok_iff.mp hfound
      have hparsed := mapError_eq_ok_iff.mp har
      unfold parseApiresource at hparsed
      cases hgv : GroupVersionParser.parse list.groupVersion with
      | none => rw [hgv] at hparsed; exact absurd hparsed (by simp)
      | some gv => exact Or.inl ⟨gv, hgv⟩
  · rintro (⟨gv, hgv⟩ | hsub)
    · have hfound : ∀ res ∈ list.resources.filter fun res => '/' ∉ res.name.toList,
          ∃ found, readResource list res = .ok found := by
        intro res hres
        have hlisted : IsListed list res.name := ⟨res, (List.mem_filter.mp hres).1, rfl⟩
        exact ⟨_, bind_eq_ok_iff.mpr ⟨_, mapError_eq_ok_iff.mpr (parseApiresource_eq hgv res),
          bind_eq_ok_iff.mpr ⟨_, parseApicapabilities_of_isListed hgv _ hlisted, rfl⟩⟩⟩
      obtain ⟨resources, hresources⟩ := exists_mapM_iff.mpr hfound
      exact ⟨⟨version, resources⟩, bind_eq_ok_iff.mpr ⟨resources, hresources, rfl⟩⟩
    · have hnone : (list.resources.filter fun res => '/' ∉ res.name.toList) = [] :=
        List.filter_eq_nil_iff.mpr fun res hres => by simpa using hsub res hres
      refine ⟨⟨version, []⟩, ?_⟩
      rw [GroupVersionData.new]
      simp only [hnone]
      rfl

/-- A version is served: there is an answer, and it can be read. -/
def Served (answer : Except RequestError APIResourceList) : Prop :=
  ∃ list, answer = .ok list ∧ Readable list

omit [VersionPriority] in
theorem exists_readVersion_iff (answer : Except RequestError APIResourceList)
    (version : String) :
    (∃ gvd, readVersion answer version = .ok gvd) ↔ Served answer := by
  constructor
  · rintro ⟨gvd, hread⟩
    obtain ⟨list, hanswer, hnew⟩ := bind_eq_ok_iff.mp hread
    exact ⟨list, mapError_eq_ok_iff.mp hanswer,
      (exists_new_iff version list).mp ⟨gvd, mapError_eq_ok_iff.mp hnew⟩⟩
  · rintro ⟨list, hanswer, hreadable⟩
    obtain ⟨gvd, hnew⟩ := (exists_new_iff version list).mpr hreadable
    exact ⟨gvd, bind_eq_ok_iff.mpr ⟨list, mapError_eq_ok_iff.mpr hanswer,
      mapError_eq_ok_iff.mpr hnew⟩⟩

/-- A group has versions, and all of them are served. -/
def AllServed (versions : List (Except RequestError APIResourceList × String)) : Prop :=
  versions ≠ [] ∧ ∀ vers ∈ versions, Served vers.1

/-- A group that is returned: its versions have been read, and are sorted. -/
theorem query_eq_ok_iff {empty : DiscoveryFailure} {name : String} {preferred : Option String}
    {versions : List (Except RequestError APIResourceList × String)} {q : ApiGroup} :
    ApiGroup.query empty name preferred versions = .ok q ↔ versions ≠ [] ∧
      ∃ data,
        List.Forall₂ (fun vers gvd => readVersion vers.1 vers.2 = .ok gvd) versions data ∧
        q = ⟨name, data.insertionSort VersionBefore, preferred⟩ := by
  unfold ApiGroup.query
  cases versions with
  | nil => simp [throw, throwThe, MonadExceptOf.throw, bind, Except.bind]
  | cons first rest =>
      simp only [List.isEmpty_cons, Bool.false_eq_true, if_false, bind_eq_ok_iff,
        mapM_eq_ok_iff, ne_eq, reduceCtorEq, not_false_eq_true, true_and]
      exact exists_congr fun data => and_congr_right fun _ =>
        ⟨fun h => (Except.ok.inj h).symm, fun h => congrArg Except.ok h.symm⟩

theorem exists_query_iff {empty : DiscoveryFailure} {name : String}
    {preferred : Option String}
    {versions : List (Except RequestError APIResourceList × String)} :
    (∃ q, ApiGroup.query empty name preferred versions = .ok q) ↔ AllServed versions := by
  constructor
  · rintro ⟨q, hq⟩
    obtain ⟨hversions, data, hdata, -⟩ := query_eq_ok_iff.mp hq
    refine ⟨hversions, fun vers hvers => (exists_readVersion_iff vers.1 vers.2).mp ?_⟩
    exact exists_mapM_iff.mp ⟨data, mapM_eq_ok_iff.mpr hdata⟩ vers hvers
  · rintro ⟨hversions, hserved⟩
    obtain ⟨data, hdata⟩ := exists_mapM_iff.mpr fun vers hvers =>
      (exists_readVersion_iff vers.1 vers.2).mpr (hserved vers hvers)
    exact ⟨_, query_eq_ok_iff.mpr ⟨hversions, data, mapM_eq_ok_iff.mp hdata, rfl⟩⟩

/-- What discovery asks the API server for, and how it takes the answers. -/
theorem discover_eq_ok_iff {api : DiscoveryApi} {d : Discovery} :
    discover api = .ok d ↔ ∃ listed groups versions core,
      api.listApiGroups = .ok listed ∧
        enterAll APIGroup.name (ApiGroup.queryApis api) ∅ listed = .ok groups ∧
        api.listCoreApiVersions = .ok versions ∧
        ApiGroup.queryCore api versions = .ok core ∧ d = ⟨groups.insert "" core⟩ := by
  have hall : ∀ g : String, (DiscoveryMode.block []).isQueryable g = true := fun _ => rfl
  simp only [discover, Discovery.run, bind_eq_ok_iff, mapError_eq_ok_iff, hall,
    List.filter_true, if_true]
  constructor
  · rintro ⟨listed, hlisted, groups, hgroups, versions, hversions, core, hcore, heq⟩
    exact ⟨listed, groups, versions, core, hlisted, hgroups, hversions, hcore,
      (Except.ok.inj heq).symm⟩
  · rintro ⟨listed, groups, versions, core, hlisted, hgroups, hversions, hcore, rfl⟩
    exact ⟨listed, hlisted, groups, hgroups, versions, hversions, core, hcore, rfl⟩

/-- The API server answers everything that discovery asks for. -/
structure AnswersAll (api : DiscoveryApi) : Prop where
  groups : ∃ listed, api.listApiGroups = .ok listed ∧
    ∀ g ∈ listed, AllServed (api.groupAnswers g)
  core : ∃ versions, api.listCoreApiVersions = .ok versions ∧
    AllServed (api.coreAnswers versions)

/-- **Discovery succeeds** exactly if the API server lists its groups and the versions of
the core group, no group is without versions, and the resources of every version of every
group are answered and can be read. -/
theorem run_succeeds_iff (api : DiscoveryApi) :
    (∃ d, discover api = .ok d) ↔ AnswersAll api := by
  constructor
  · rintro ⟨d, hd⟩
    obtain ⟨listed, groups, versions, core, hlisted, hgroups, hversions, hcore, -⟩ :=
      discover_eq_ok_iff.mp hd
    refine ⟨⟨listed, hlisted, fun g hg => ?_⟩, versions, hversions, ?_⟩
    · exact exists_query_iff.mp ((exists_enterAll_iff _).mp ⟨groups, hgroups⟩ g hg)
    · exact exists_query_iff.mp ⟨core, hcore⟩
  · rintro ⟨⟨listed, hlisted, hgroups⟩, versions, hversions, hcore⟩
    obtain ⟨groups, henter⟩ :
        ∃ groups, enterAll APIGroup.name (ApiGroup.queryApis api) ∅ listed = .ok groups :=
      (exists_enterAll_iff _).mpr fun g hg => exists_query_iff.mpr (hgroups g hg)
    obtain ⟨core, hquery⟩ := exists_query_iff.mpr hcore
    exact ⟨_, discover_eq_ok_iff.mpr ⟨listed, groups, versions, core, hlisted, henter,
      hversions, hquery, rfl⟩⟩

/-! ## When it panics -/

/-- Is it the error of a request? -/
def DiscoveryFailure.IsRequest (failure : DiscoveryFailure) : Prop :=
  ∃ why, failure = .request why

/-- A group has versions, and what is answered for them can be read. -/
def Sound (versions : List (Except RequestError APIResourceList × String)) : Prop :=
  versions ≠ [] ∧ ∀ vers ∈ versions, ∀ list, vers.1 = .ok list → Readable list

/-- An API server whose answers are sound, as far as it answers. -/
structure AnswersSoundly (api : DiscoveryApi) : Prop where
  groups : ∀ listed, api.listApiGroups = .ok listed → ∀ g ∈ listed, Sound (api.groupAnswers g)
  core : ∀ versions, api.listCoreApiVersions = .ok versions → Sound (api.coreAnswers versions)

omit [VersionPriority] in
theorem failsOnlyWith_readVersion {answer : Except RequestError APIResourceList}
    (hanswer : ∀ list, answer = .ok list → Readable list) (version : String) :
    FailsOnlyWith DiscoveryFailure.IsRequest (readVersion answer version) := by
  refine (FailsOnlyWith.mapError (fun why => ⟨why, rfl⟩) answer).bind fun list hlist => ?_
  obtain ⟨gvd, hgvd⟩ :=
    (exists_new_iff version list).mpr (hanswer list (mapError_eq_ok_iff.mp hlist))
  rw [hgvd]
  exact FailsOnlyWith.ok gvd

theorem failsOnlyWith_query {empty : DiscoveryFailure} {name : String}
    {preferred : Option String}
    {versions : List (Except RequestError APIResourceList × String)}
    (hsound : Sound versions) :
    FailsOnlyWith DiscoveryFailure.IsRequest
      (ApiGroup.query empty name preferred versions) := by
  have hempty : versions.isEmpty = false := by simpa using hsound.1
  unfold ApiGroup.query
  rw [hempty]
  exact (FailsOnlyWith.mapM fun vers hvers =>
    failsOnlyWith_readVersion (hsound.2 vers hvers) vers.2).bind fun _ _ => FailsOnlyWith.ok _

/-- **Sound answers do not make discovery panic**: it succeeds, or a request has failed. -/
theorem failsOnlyWith_discover {api : DiscoveryApi} (hsound : AnswersSoundly api) :
    FailsOnlyWith DiscoveryFailure.IsRequest (discover api) := by
  have hrequest : ∀ why, (DiscoveryFailure.request why).IsRequest := fun why => ⟨why, rfl⟩
  refine (FailsOnlyWith.mapError hrequest _).bind fun listed hlisted => ?_
  refine (FailsOnlyWith.enterAll (fun g hg => ?_) ∅).bind fun groups _ => ?_
  · exact failsOnlyWith_query (hsound.groups listed (mapError_eq_ok_iff.mp hlisted) g
      (List.mem_filter.mp hg).1)
  · refine (FailsOnlyWith.mapError hrequest _).bind fun versions hversions => ?_
    exact (failsOnlyWith_query (hsound.core versions (mapError_eq_ok_iff.mp hversions))).bind
      fun _ _ => FailsOnlyWith.ok _

/-! ## What it finds -/

instance : IsTrans GroupVersionData VersionBefore :=
  ⟨fun _ _ _ hab hbc => VersionPriority.best_trans hab hbc⟩

instance : Std.Total (α := GroupVersionData) VersionBefore :=
  ⟨fun a b => VersionPriority.best_total a.version b.version⟩

/-- **What is known of a group** represents the answers for its versions: each version is
there as it was read, the best ones first, and those of the same rank in the order they
were listed in. -/
structure Represents (versions : List (Except RequestError APIResourceList × String))
    (data : List GroupVersionData) : Prop where
  read : ∃ read, List.Forall₂ (fun vers gvd => readVersion vers.1 vers.2 = .ok gvd)
    versions read ∧ data.Perm read ∧
      ∀ a b, VersionBefore a b → [a, b].Sublist read → [a, b].Sublist data
  sorted : data.Pairwise VersionBefore

theorem represents_of_query {empty : DiscoveryFailure} {name : String}
    {preferred : Option String}
    {versions : List (Except RequestError APIResourceList × String)} {q : ApiGroup}
    (hq : ApiGroup.query empty name preferred versions = .ok q) :
    q.name = name ∧ q.preferred = preferred ∧ Represents versions q.data := by
  obtain ⟨-, data, hdata, rfl⟩ := query_eq_ok_iff.mp hq
  exact ⟨rfl, rfl,
    ⟨data, hdata, List.perm_insertionSort _ _,
      fun a b hab hsub => List.pair_sublist_insertionSort hab hsub⟩,
    List.pairwise_insertionSort _ _⟩

/-- **What is served is found**, by the groups that are listed and the versions of the core
group: under each name of a group, the core group's name apart, the last group of the name
in the list, and under the core group's name the core group.  Nothing else is found. -/
structure FindsServed (api : DiscoveryApi) (listed : List APIGroup) (versions : List String)
    (d : Discovery) : Prop where
  names : ∀ name, (d.groups[name]?).isSome = true ↔ name = "" ∨ ∃ g ∈ listed, g.name = name
  core : ∀ q, d.groups[""]? = some q →
    q.name = "" ∧ q.preferred = some "v1" ∧ Represents (api.coreAnswers versions) q.data
  others : ∀ name q, name ≠ "" → d.groups[name]? = some q →
    ∃ g, lastWith (fun g => g.name = name) listed = some g ∧
      q.name = name ∧ q.preferred = g.preferredVersion.map (fun v => v.version) ∧
      Represents (api.groupAnswers g) q.data

omit [GroupVersionParser] [VersionPriority] in
theorem compare_empty_ne {name : String} (hname : name ≠ "") : ¬ compare "" name = .eq :=
  fun h => hname (Std.LawfulEqCmp.compare_eq_iff_eq.mp h).symm

/-- The groups that are entered are those of the list. -/
theorem isSome_entered_iff {api : DiscoveryApi} {listed : List APIGroup}
    {groups : ExtTreeMap String ApiGroup compare}
    (hgroups : enterAll APIGroup.name (ApiGroup.queryApis api) ∅ listed = .ok groups)
    (name : String) : (groups[name]?).isSome = true ↔ ∃ g ∈ listed, g.name = name := by
  have hfound := getElem?_of_enterAll hgroups name
  rw [Option.isSome_iff_exists]
  constructor
  · rintro ⟨q, hq⟩
    rcases (hfound q).mp hq with ⟨g, hg, -⟩ | ⟨-, hnone⟩
    · exact ⟨g, mem_of_lastWith_eq_some hg, by simpa using (lastWith_eq_some_iff.mp hg).1⟩
    · exact absurd hnone (by simp)
  · rintro ⟨g, hg, hname⟩
    cases hlast : lastWith (fun g : APIGroup => decide (g.name = name)) listed with
    | none => exact absurd (lastWith_eq_none_iff.mp hlast g hg) (by simp [hname])
    | some last =>
        obtain ⟨q, hq⟩ := (exists_enterAll_iff _).mp ⟨groups, hgroups⟩ last
          (mem_of_lastWith_eq_some hlast)
        exact ⟨q, (hfound q).mpr (Or.inl ⟨last, hlast, hq⟩)⟩

/-- **Discovery finds what is served**, if it succeeds. -/
theorem discover_represents {api : DiscoveryApi} {d : Discovery} (hd : discover api = .ok d) :
    ∃ listed versions, api.listApiGroups = .ok listed ∧
      api.listCoreApiVersions = .ok versions ∧ FindsServed api listed versions d := by
  obtain ⟨listed, groups, versions, core, hlisted, hgroups, hversions, hcore, rfl⟩ :=
    discover_eq_ok_iff.mp hd
  refine ⟨listed, versions, hlisted, hversions, fun name => ?_, fun q hq => ?_,
    fun name q hname hq => ?_⟩
  · rw [ExtTreeMap.getElem?_insert]
    by_cases hname : name = ""
    · simp [hname]
    · rw [if_neg (compare_empty_ne hname), or_iff_right hname]
      exact isSome_entered_iff hgroups name
  · obtain rfl : core = q := by simpa using hq
    exact represents_of_query hcore
  · rw [ExtTreeMap.getElem?_insert, if_neg (compare_empty_ne hname)] at hq
    rcases (getElem?_of_enterAll hgroups name q).mp hq with ⟨g, hg, hquery⟩ | ⟨-, hnone⟩
    · obtain ⟨hgname, hpreferred, hdata⟩ := represents_of_query hquery
      exact ⟨g, hg, hgname.trans (by simpa using (lastWith_eq_some_iff.mp hg).1), hpreferred,
        hdata⟩
    · exact absurd hnone (by simp)

/-- Each group that is found has been asked for. -/
theorem queried_of_discover {api : DiscoveryApi} {d : Discovery} (hd : discover api = .ok d)
    {name : String} {q : ApiGroup} (hq : d.groups[name]? = some q) :
    (∃ listed, api.listApiGroups = .ok listed ∧
        ∃ g ∈ listed, ApiGroup.queryApis api g = .ok q) ∨
      ∃ versions, api.listCoreApiVersions = .ok versions ∧
        ApiGroup.queryCore api versions = .ok q := by
  obtain ⟨listed, groups, versions, core, hlisted, hgroups, hversions, hcore, rfl⟩ :=
    discover_eq_ok_iff.mp hd
  rw [ExtTreeMap.getElem?_insert] at hq
  split_ifs at hq with hname
  · obtain rfl : core = q := Option.some.inj hq
    exact Or.inr ⟨versions, hversions, hcore⟩
  · rcases (getElem?_of_enterAll hgroups name q).mp hq with ⟨g, hg, hquery⟩ | ⟨-, hnone⟩
    · exact Or.inl ⟨listed, hlisted, g, mem_of_lastWith_eq_some hg, hquery⟩
    · exact absurd hnone (by simp)

/-- A resource is in a list, and not as a subresource. -/
def ListedIn (list : APIResourceList) (found : Discovered) : Prop :=
  ∃ res ∈ list.resources, '/' ∉ res.name.toList ∧ readResource list res = .ok found

/-- **The API server serves a resource**: it is in the list of a version of one of the
groups, or of the core group. -/
def Serves (api : DiscoveryApi) (found : Discovered) : Prop :=
  (∃ listed, api.listApiGroups = .ok listed ∧ ∃ g ∈ listed, ∃ vers ∈ g.versions, ∃ list,
      api.listApiGroupResources vers.groupVersion = .ok list ∧ ListedIn list found) ∨
    ∃ versions, api.listCoreApiVersions = .ok versions ∧ ∃ v ∈ versions, ∃ list,
      api.listCoreApiResources v = .ok list ∧ ListedIn list found

omit [VersionPriority] in
theorem listedIn_of_new {version : String} {list : APIResourceList} {gvd : GroupVersionData}
    (hnew : GroupVersionData.new version list = .ok gvd) {found : Discovered}
    (hfound : found ∈ gvd.resources) : ListedIn list found := by
  obtain ⟨resources, hresources, hreturn⟩ := bind_eq_ok_iff.mp hnew
  obtain rfl := Except.ok.inj hreturn
  obtain ⟨res, hres, hread⟩ := exists_of_forall₂ (mapM_eq_ok_iff.mp hresources) hfound
  obtain ⟨hlisted, htop⟩ := List.mem_filter.mp hres
  exact ⟨res, hlisted, by simpa using htop, hread⟩

/-- What is known of a group is in the answers for its versions. -/
theorem listedIn_of_query {empty : DiscoveryFailure} {name : String}
    {preferred : Option String}
    {versions : List (Except RequestError APIResourceList × String)} {q : ApiGroup}
    (hq : ApiGroup.query empty name preferred versions = .ok q) {found : Discovered}
    (hfound : found ∈ q.resources) :
    ∃ vers ∈ versions, ∃ list, vers.1 = .ok list ∧ ListedIn list found := by
  obtain ⟨gvd, hgvd, hresource⟩ := List.mem_flatMap.mp hfound
  obtain ⟨read, hread, hperm, -⟩ := (represents_of_query hq).2.2.read
  obtain ⟨vers, hvers, hversion⟩ := exists_of_forall₂ hread (hperm.mem_iff.mp hgvd)
  obtain ⟨list, hlist, hnew⟩ := bind_eq_ok_iff.mp hversion
  exact ⟨vers, hvers, list, mapError_eq_ok_iff.mp hlist,
    listedIn_of_new (mapError_eq_ok_iff.mp hnew) hresource⟩

omit [GroupVersionParser] in
theorem mem_resources_of_recommended {order : IterOrder} {g : ApiGroup} {found : Discovered}
    (hfound : found ∈ g.recommendedResources order) : found ∈ g.resources := by
  obtain ⟨entry, hentry, htaken⟩ :=
    List.mem_filterMap.mp ((recommendedResources_perm order g).mem_iff.mp hfound)
  obtain ⟨best, hbest, hfirst⟩ := exists_first hentry
  obtain rfl := Option.some.inj (htaken.symm.trans hbest)
  exact (List.mem_filter.mp hfirst.mem).1

/-- **What is recommended is served.** -/
theorem serves_of_recommended {api : DiscoveryApi} {d : Discovery}
    (hd : discover api = .ok d) {order : IterOrder} {found : Discovered}
    (hfound : found ∈ d.recommended order) : Serves api found := by
  obtain ⟨⟨name, q⟩, hentry, hbest⟩ := List.mem_flatMap.mp hfound
  have hq : d.groups[name]? = some q :=
    ExtTreeMap.mem_toList_iff_getElem?_eq_some.mp ((order.perm _).mem_iff.mp hentry)
  have hresource : found ∈ q.resources := mem_resources_of_recommended hbest
  rcases queried_of_discover hd hq with ⟨listed, hlisted, g, hg, hquery⟩ |
      ⟨versions, hversions, hquery⟩
  · obtain ⟨vers, hvers, list, hlist, hin⟩ := listedIn_of_query hquery hresource
    obtain ⟨asked, hasked, rfl⟩ := List.mem_map.mp hvers
    exact Or.inl ⟨listed, hlisted, g, hg, asked, hasked, list, hlist, hin⟩
  · obtain ⟨vers, hvers, list, hlist, hin⟩ := listedIn_of_query hquery hresource
    obtain ⟨v, hv, rfl⟩ := List.mem_map.mp hvers
    exact Or.inr ⟨versions, hversions, v, hv, list, hlist, hin⟩

/-! ## The second sort -/

/-- The resources of a version carry that version, as they do unless they declare another. -/
def CarriesVersions (data : List GroupVersionData) : Prop :=
  ∀ gvd ∈ data, ∀ found ∈ gvd.resources, found.1.version = gvd.version

omit [GroupVersionParser] in
/-- With the versions sorted, so are the resources. -/
theorem pairwise_resources {g : ApiGroup} (hsorted : g.data.Pairwise VersionBefore)
    (hcarries : CarriesVersions g.data) : g.resources.Pairwise RanksBefore := by
  have hrefl : ∀ v, VersionPriority.best v v = true := fun v =>
    (VersionPriority.best_total v v).elim id id
  rw [ApiGroup.resources, List.pairwise_flatMap]
  refine ⟨fun gvd hgvd => ?_,
    hsorted.imp_of_mem fun {a b} ha hb hab found hfound other hother => ?_⟩
  · refine List.pairwise_of_forall_mem_list fun found hfound other hother => ?_
    rw [RanksBefore, hcarries gvd hgvd found hfound, hcarries gvd hgvd other hother]
    exact hrefl _
  · rw [RanksBefore, hcarries a ha found hfound, hcarries b hb other hother]
    exact hab

omit [GroupVersionParser] in
/-- Of the resources of a kind, the one that is recommended is the first. -/
theorem recommended_eq_take {g : ApiGroup} (hsorted : g.data.Pairwise VersionBefore)
    (hcarries : CarriesVersions g.data) (order : IterOrder) (kind : String) :
    (g.recommendedResources order).filter (fun found => found.1.kind = kind) =
      (g.ofKind kind).take 1 := by
  have hbest := bestOfEachKind_of_perm (recommendedResources_perm order g)
  have hpair : (g.ofKind kind).Pairwise RanksBefore :=
    (pairwise_resources hsorted hcarries).filter _
  cases hkind : g.ofKind kind with
  | nil =>
      refine List.filter_eq_nil_iff.mpr fun found hfound hfoundKind => ?_
      exact hbest.others found hfound (by rw [of_decide_eq_true hfoundKind, hkind])
  | cons first rest =>
      obtain ⟨best, honly, -, front, back, hsplit, hfront⟩ :=
        hbest.occurring kind (by simp [hkind])
      rw [honly]
      rw [hkind] at hsplit hpair
      cases front with
      | nil => rw [(List.cons.inj hsplit).1]; rfl
      | cons earlier front =>
          -- what stands in front of the best one would have to rank below it
          obtain ⟨rfl, hrest⟩ := List.cons.inj hsplit
          have hrank : RanksBefore first best :=
            (List.pairwise_cons.mp hpair).1 best (by simp [hrest])
          exact absurd hrank (hfront first List.mem_cons_self)

/-- The versions of each group that discovery finds are sorted. -/
theorem sorted_of_discover {api : DiscoveryApi} {d : Discovery} (hd : discover api = .ok d)
    {name : String} {q : ApiGroup} (hq : d.groups[name]? = some q) :
    q.data.Pairwise VersionBefore := by
  rcases queried_of_discover hd hq with ⟨_, -, _, -, hquery⟩ | ⟨_, -, hquery⟩ <;>
    exact (represents_of_query hquery).2.2.sorted

/-- **The second sort has nothing to do.**  In a group that discovery finds, whose resources
carry their versions, the resource recommended for a kind is the first one of the kind in
the data. -/
theorem recommended_first {api : DiscoveryApi} {d : Discovery} (hd : discover api = .ok d)
    {name : String} {q : ApiGroup} (hq : d.groups[name]? = some q)
    (hcarries : CarriesVersions q.data) (order : IterOrder) (kind : String) :
    (q.recommendedResources order).filter (fun found => found.1.kind = kind) =
      (q.ofKind kind).take 1 :=
  recommended_eq_take (sorted_of_discover hd hq) hcarries order kind

end Run

/-! ## Two versions -/

/-- Versions ranked by how short they are. -/
@[reducible] def VersionPriority.shorter : VersionPriority where
  best a b := decide (a.length ≤ b.length)
  best_trans hab hbc := by simp only [decide_eq_true_eq] at *; omega
  best_total a b := by simp only [decide_eq_true_eq]; omega

/-- The Deployments of a version of `apps`. -/
def deploymentsOf (version : String) : APIResourceList where
  groupVersion := "apps/" ++ version
  resources := [⟨"deployments", none, none, "Deployment", true, none, ["get"]⟩]

/-- A cluster that lists the beta version of `apps` first. -/
def appsApi : DiscoveryApi where
  listApiGroups := .ok [⟨"apps", [⟨"apps/v1beta1", "v1beta1"⟩, ⟨"apps/v1", "v1"⟩], none⟩]
  listApiGroupResources gv :=
    .ok (deploymentsOf (if gv = "apps/v1" then "v1" else "v1beta1"))
  listCoreApiVersions := .ok ["v1"]
  listCoreApiResources _ := .ok ⟨"v1", []⟩

/-- Deployments as they are found. -/
def deployment (version : String) : Discovered :=
  (⟨"apps", version, "apps/" ++ version, "Deployment", "deployments", none⟩,
    .mk .namespaced [] ["get"])

theorem readVersion_deploymentsOf {version : String}
    (hversion : version = "v1" ∨ version = "v1beta1") :
    @readVersion GroupVersionParser.slashed (.ok (deploymentsOf version)) version =
      .ok ⟨version, [deployment version]⟩ := by
  let _ := GroupVersionParser.slashed
  have hgv : GroupVersionParser.parse ("apps/" ++ version) = some ⟨"apps", version⟩ := by
    rcases hversion with rfl | rfl <;> decide
  have hnone : subresources (deploymentsOf version) "deployments" = [] := by
    rcases hversion with rfl | rfl <;> decide
  have hcaps : parseApicapabilities (deploymentsOf version) "deployments" =
      .ok (.mk .namespaced [] ["get"]) := by
    rw [parseApicapabilities, hnone]
    rfl
  have hread : readResource (deploymentsOf version) ⟨"deployments", none, none, "Deployment",
      true, none, ["get"]⟩ = .ok (deployment version) :=
    bind_eq_ok_iff.mpr ⟨_, mapError_eq_ok_iff.mpr (parseApiresource_eq hgv _),
      bind_eq_ok_iff.mpr ⟨_, hcaps, rfl⟩⟩
  have hall : (deploymentsOf version).resources.mapM (readResource (deploymentsOf version)) =
      .ok [deployment version] := mapM_eq_ok_iff.mpr (.cons hread .nil)
  exact bind_eq_ok_iff.mpr
    ⟨_, rfl, mapError_eq_ok_iff.mpr (bind_eq_ok_iff.mpr ⟨_, hall, rfl⟩)⟩

/-- What is found in this cluster: the better version has come first. -/
def appsDiscovery : Discovery where
  groups := ((∅ : ExtTreeMap String ApiGroup compare).insert "apps"
    ⟨"apps", [⟨"v1", [deployment "v1"]⟩, ⟨"v1beta1", [deployment "v1beta1"]⟩],
      none⟩).insert ""
    ⟨"", [⟨"v1", []⟩], some "v1"⟩

theorem discover_appsApi :
    @discover GroupVersionParser.slashed VersionPriority.shorter appsApi =
      .ok appsDiscovery := by
  let _ := GroupVersionParser.slashed
  let _ := VersionPriority.shorter
  have hbeta : readVersion (appsApi.listApiGroupResources "apps/v1beta1") "v1beta1" =
      .ok ⟨"v1beta1", [deployment "v1beta1"]⟩ := readVersion_deploymentsOf (Or.inr rfl)
  have hstable : readVersion (appsApi.listApiGroupResources "apps/v1") "v1" =
      .ok ⟨"v1", [deployment "v1"]⟩ := readVersion_deploymentsOf (Or.inl rfl)
  have happs : ApiGroup.queryApis appsApi
      ⟨"apps", [⟨"apps/v1beta1", "v1beta1"⟩, ⟨"apps/v1", "v1"⟩], none⟩ = .ok
        ⟨"apps", [⟨"v1", [deployment "v1"]⟩, ⟨"v1beta1", [deployment "v1beta1"]⟩], none⟩ :=
    query_eq_ok_iff.mpr ⟨List.cons_ne_nil _ _, _, .cons hbeta (.cons hstable .nil), rfl⟩
  have hcore : ApiGroup.queryCore appsApi ["v1"] = .ok ⟨"", [⟨"v1", []⟩], some "v1"⟩ :=
    query_eq_ok_iff.mpr ⟨List.cons_ne_nil _ _, _, .cons rfl .nil, rfl⟩
  exact discover_eq_ok_iff.mpr ⟨_, _, _, _, rfl, enterAll_cons_eq_ok_iff.mpr ⟨_, happs, rfl⟩,
    rfl, hcore, rfl⟩

theorem discover_represents_appsApi :
    ∃ listed versions, appsApi.listApiGroups = .ok listed ∧
      appsApi.listCoreApiVersions = .ok versions ∧
      @FindsServed GroupVersionParser.slashed VersionPriority.shorter appsApi listed versions
        appsDiscovery :=
  @discover_represents GroupVersionParser.slashed VersionPriority.shorter _ _
    discover_appsApi

theorem recommended_first_appsApi :
    ∃ q, appsDiscovery.groups["apps"]? = some q ∧
      (@ApiGroup.recommendedResources VersionPriority.shorter .sorted q).filter
        (fun found => found.1.kind = "Deployment") = [deployment "v1"] := by
  refine ⟨_, rfl, ?_⟩
  exact @recommended_first GroupVersionParser.slashed VersionPriority.shorter _ _
    discover_appsApi "apps" _ rfl (by simp [CarriesVersions, deployment]) .sorted "Deployment"

end EntityProvider.AxKube
