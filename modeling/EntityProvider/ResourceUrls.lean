import EntityProvider.Backstage.Ingest
import EntityProvider.Library.Paths

/-!
# What the parser reads in a resource URL

`parse_type_meta` searches the URL of a watch for four patterns, none of them anchored at
the start.  All four are path patterns, so the result depends on the last segments only
(`parseTypeMeta_eq`).

On the URLs that `kube` makes, the parser recovers the plural up to its last letter, and
the group and version as `readAs` says: they are the resource's own, unless the group is
called `api` or a version called `apis` meets a namespace that looks like a version.
-/

namespace EntityProvider.Ingest

open Kube AxKube Library

/-! ## The four patterns -/

/-- `corePattern`, by segments. -/
def corePath : List Segment :=
  [.fixed "api", .group "ver" lowerDigit "", .group "resource" letterDigitDash "s"]

/-- `coreNamespacedPattern`, by segments. -/
def coreNamespacedPath : List Segment :=
  [.fixed "api", .group "ver" lowerDigit "", .fixed "namespaces",
    .group "ns" letterDigitDash "", .group "resource" letterDigit "s"]

/-- `groupPattern`, by segments. -/
def groupPath : List Segment :=
  [.fixed "apis", .group "apigroup" lowerDigitDot "", .group "ver" lowerDigit "",
    .group "resource" letterDigit "s"]

/-- `groupNamespacedPattern`, by segments. -/
def groupNamespacedPath : List Segment :=
  [.fixed "apis", .group "apigroup" lowerDigitDot "", .group "ver" lowerDigit "",
    .fixed "namespaces", .group "ns" letterDigitDash "", .group "resource" letterDigit "s"]

/-- The four patterns, by segments. -/
def k8sApiPaths : List (List Segment) :=
  [corePath, coreNamespacedPath, groupPath, groupNamespacedPath]

/-- They are the patterns of the source. -/
theorem k8sApiPattern_eq : k8sApiPattern = k8sApiPaths.map pathPattern := rfl

theorem slashFree_k8sApiPaths : ∀ path ∈ k8sApiPaths, ∀ seg ∈ path, seg.SlashFree := by
  decide

/-- **The last segments decide** what the parser reads. -/
theorem parseTypeMeta_eq [UnicodeTables] (hay : String) :
    parseTypeMeta hay =
      k8sApiPaths.findSome? fun path =>
        (fitLast path (splitAtChar hay '/')).map typeMetaOfCaptures := by
  have hall : ∀ paths : List (List Segment), (∀ path ∈ paths, ∀ seg ∈ path, seg.SlashFree) →
      ((paths.map pathPattern).findSome? fun r => (captures r hay).map typeMetaOfCaptures) =
        paths.findSome? fun path =>
          (fitLast path (splitAtChar hay '/')).map typeMetaOfCaptures := by
    intro paths
    induction paths with
    | nil => intro _; rfl
    | cons path paths ih =>
        intro hpaths
        rw [List.forall_mem_cons] at hpaths
        rw [List.map_cons, List.findSome?_cons, List.findSome?_cons,
          captures_pathPattern hpaths.1, ih hpaths.2]
  rw [parseTypeMeta, k8sApiPattern_eq, hall _ slashFree_k8sApiPaths]

/-! ## When a pattern fits -/

section Fit

variable {api apis apigroup ver namespaces ns plural : String} {found : Captures}

theorem fitPath_corePath_iff :
    fitPath corePath [api, ver, plural] = some found ↔
      api = "api" ∧ AllIn lowerDigit ver ∧
        ∃ stem, plural = stem ++ "s" ∧ AllIn letterDigitDash stem ∧
          found = [("ver", ver), ("resource", stem)] := by
  simp only [corePath, fitPath_cons_cons_eq_some_iff, fitPath_nil_eq_some_iff,
    Segment.fit_fixed_eq_some_iff, Segment.fit_group_empty_eq_some_iff]
  simp [Segment.fit_group_eq_some_iff, and_assoc]

theorem fitPath_coreNamespacedPath_iff :
    fitPath coreNamespacedPath [api, ver, namespaces, ns, plural] = some found ↔
      api = "api" ∧ AllIn lowerDigit ver ∧ namespaces = "namespaces" ∧
        AllIn letterDigitDash ns ∧
        ∃ stem, plural = stem ++ "s" ∧ AllIn letterDigit stem ∧
          found = [("ver", ver), ("ns", ns), ("resource", stem)] := by
  simp only [coreNamespacedPath, fitPath_cons_cons_eq_some_iff, fitPath_nil_eq_some_iff,
    Segment.fit_fixed_eq_some_iff, Segment.fit_group_empty_eq_some_iff]
  simp [Segment.fit_group_eq_some_iff, and_assoc]

theorem fitPath_groupPath_iff :
    fitPath groupPath [apis, apigroup, ver, plural] = some found ↔
      apis = "apis" ∧ AllIn lowerDigitDot apigroup ∧ AllIn lowerDigit ver ∧
        ∃ stem, plural = stem ++ "s" ∧ AllIn letterDigit stem ∧
          found = [("apigroup", apigroup), ("ver", ver), ("resource", stem)] := by
  simp only [groupPath, fitPath_cons_cons_eq_some_iff, fitPath_nil_eq_some_iff,
    Segment.fit_fixed_eq_some_iff, Segment.fit_group_empty_eq_some_iff]
  simp [Segment.fit_group_eq_some_iff, and_assoc]

theorem fitPath_groupNamespacedPath_iff :
    fitPath groupNamespacedPath [apis, apigroup, ver, namespaces, ns, plural] = some found ↔
      apis = "apis" ∧ AllIn lowerDigitDot apigroup ∧ AllIn lowerDigit ver ∧
        namespaces = "namespaces" ∧ AllIn letterDigitDash ns ∧
        ∃ stem, plural = stem ++ "s" ∧ AllIn letterDigit stem ∧
          found = [("apigroup", apigroup), ("ver", ver), ("ns", ns), ("resource", stem)] := by
  simp only [groupNamespacedPath, fitPath_cons_cons_eq_some_iff, fitPath_nil_eq_some_iff,
    Segment.fit_fixed_eq_some_iff, Segment.fit_group_empty_eq_some_iff]
  simp [Segment.fit_group_eq_some_iff, and_assoc]

end Fit

/-! ## The URLs of watches -/

/-- A text that is one segment of a path. -/
def IsSegment (s : String) : Prop := '/' ∉ s.toList

instance (s : String) : Decidable (IsSegment s) :=
  inferInstanceAs (Decidable ('/' ∉ s.toList))

/-- The segments of a resource URL. -/
def urlSegments (ar : ApiResource) (ns : Option String) : List String :=
  (if ar.group = "" then ["api"] else ["apis", ar.group]) ++ ar.version ::
    (match ns with
      | some n => ["namespaces", n]
      | none => []) ++ [ar.plural]

/-- A resource URL is its segments, each behind a slash. -/
theorem urlPath_eq_slashed {ar : ApiResource} (har : ar.Coherent) (ns : Option String) :
    urlPath ar ns = String.ofList (slashed (urlSegments ar ns)) := by
  apply String.toList_inj.mp
  unfold urlPath urlSegments
  rw [show ar.apiVersion = groupVersion ar.group ar.version from har, groupVersion]
  by_cases hgroup : ar.group = "" <;> cases ns <;> simp [hgroup, slashed]

/-- Splitting a resource URL gives its segments back, behind an empty one. -/
theorem splitAtChar_urlPath {ar : ApiResource} {ns : Option String}
    (har : ar.Coherent) (hsegments : ∀ word ∈ urlSegments ar ns, IsSegment word) :
    splitAtChar (urlPath ar ns) '/' = "" :: urlSegments ar ns := by
  have happend := splitAtChar_append_slashed (urlSegments ar ns) [] hsegments
  rw [List.nil_append, ← urlPath_eq_slashed har] at happend
  rw [happend]
  rfl

/-! ## Group and version, as read back -/

/-- The group and version that the parser reads in the URL of a watch. -/
def readAs (ar : ApiResource) (ns : Option String) : String × String :=
  if ar.group = "api" then ("", ar.version)
  else
    match ns with
    | some n =>
        -- `namespaces/{n}/` is taken for a group and a version
        if ar.group ≠ "" ∧ ar.version = "apis" ∧ AllIn lowerDigit n then ("namespaces", n)
        else (ar.group, ar.version)
    | none => (ar.group, ar.version)

theorem letterDigit_of_lowerDigit {c : Char} (h : lowerDigit c = true) :
    letterDigit c = true := by
  show ((c.isUpper || c.isLower) || c.isDigit) = true
  rcases Bool.or_eq_true_iff.mp h with hlower | hdigit
  · simp [hlower]
  · simp [hdigit]

theorem letterDigitDash_of_letterDigit {c : Char} (h : letterDigit c = true) :
    letterDigitDash c = true := by
  simp [letterDigitDash, h]

/-- What can be a version can be a namespace, as far as the patterns go. -/
theorem letterDigitDash_of_lowerDigit {c : Char} (h : lowerDigit c = true) :
    letterDigitDash c = true :=
  letterDigitDash_of_letterDigit (letterDigit_of_lowerDigit h)

/-- Types that were read in a URL: the kind comes from the stem of the plural. -/
def IsReading [UnicodeTables] (plural apiVersion : String) (tp : TypeMeta) : Prop :=
  ∃ stem, plural = stem ++ "s" ∧ AllIn letterDigitDash stem ∧
    tp = ⟨apiVersion, capitalize stem⟩

/-- The captures of the first pattern that fits the last segments. -/
def firstFit (words : List String) : Option Captures :=
  (fitLast corePath words).or ((fitLast coreNamespacedPath words).or
    ((fitLast groupPath words).or (fitLast groupNamespacedPath words)))

theorem parseTypeMeta_eq_firstFit [UnicodeTables] (hay : String) :
    parseTypeMeta hay = (firstFit (splitAtChar hay '/')).map typeMetaOfCaptures := by
  rw [parseTypeMeta_eq, firstFit]
  simp only [k8sApiPaths, List.findSome?_cons, List.findSome?_nil, Option.map_or]
  cases fitLast corePath (splitAtChar hay '/') <;>
    cases fitLast coreNamespacedPath (splitAtChar hay '/') <;>
      cases fitLast groupPath (splitAtChar hay '/') <;>
        cases fitLast groupNamespacedPath (splitAtChar hay '/') <;> rfl

/-- Whatever URL it is read in, the kind is some letters, digits and dashes capitalised. -/
theorem kind_of_parseTypeMeta [UnicodeTables] {hay : String} {tp : TypeMeta}
    (h : parseTypeMeta hay = some tp) :
    ∃ stem, AllIn letterDigitDash stem ∧ tp.kind = capitalize stem := by
  obtain ⟨r, hr, h⟩ := List.exists_of_findSome?_eq_some h
  obtain ⟨found, hfound, rfl⟩ := Option.map_eq_some_iff.mp h
  refine ⟨(found.lookup "resource").getD "", ?_, rfl⟩
  cases hlookup : found.lookup "resource" with
  | none => intro c hc; exact absurd hc (by simp)
  | some stem =>
      obtain ⟨front, back, hsplit, -⟩ := List.lookup_eq_some_iff.mp hlookup
      obtain ⟨_, _, -, hmatch⟩ := exists_matches_of_captures hfound
      have hentry : ("resource", stem) ∈ found := by simp [hsplit]
      obtain ⟨cls, hpiece, hall⟩ := exists_capture_of_mem hmatch hentry
      have hcls : cls = letterDigitDash ∨ cls = letterDigit := by
        simp only [k8sApiPattern, List.mem_cons, List.not_mem_nil, or_false] at hr
        rcases hr with rfl | rfl | rfl | rfl
        · exact Or.inl (by simpa [corePattern] using hpiece)
        · exact Or.inr (by simpa [coreNamespacedPattern] using hpiece)
        · exact Or.inr (by simpa [groupPattern] using hpiece)
        · exact Or.inr (by simpa [groupNamespacedPattern] using hpiece)
      rcases hcls with rfl | rfl
      · exact hall
      · exact hall.mono fun _ => letterDigitDash_of_letterDigit

/-! ## The patterns that can fit each kind of URL -/

section FirstFit

variable {group ver ns plural : String}

/-- `/api/{version}/{plural}` -/
theorem firstFit_core :
    firstFit ["", "api", ver, plural] = fitPath corePath ["api", ver, plural] := by
  show (fitPath corePath ["api", ver, plural]).or (none.or (none.or none)) = _
  rw [Option.none_or, Option.or_none, Option.or_none]

/-- `/apis/{group}/{version}/{plural}` -/
theorem firstFit_group :
    firstFit ["", "apis", group, ver, plural] =
      (fitPath corePath [group, ver, plural]).or
        (fitPath groupPath ["apis", group, ver, plural]) := by
  show (fitPath corePath [group, ver, plural]).or
    (none.or ((fitPath groupPath ["apis", group, ver, plural]).or none)) = _
  rw [Option.none_or, Option.or_none]

/-- Where the last but two segment is `namespaces`, the first pattern does not match. -/
theorem fitLast_corePath_namespaced {front : List String} :
    fitLast corePath (front ++ ["namespaces", ns, plural]) = none := by
  rw [Option.eq_none_iff_forall_ne_some]
  intro found h
  unfold fitLast at h
  split at h
  · have hdrop : (front ++ ["namespaces", ns, plural]).drop
        ((front ++ ["namespaces", ns, plural]).length - corePath.length) =
          ["namespaces", ns, plural] := by
      simp [corePath]
    rw [hdrop] at h
    exact absurd (fitPath_corePath_iff.mp h).1 (by decide)
  · exact absurd h (by simp)

/-- `/api/{version}/namespaces/{ns}/{plural}` -/
theorem firstFit_coreNamespaced :
    firstFit ["", "api", ver, "namespaces", ns, plural] =
      (fitPath coreNamespacedPath ["api", ver, "namespaces", ns, plural]).or
        (fitPath groupPath [ver, "namespaces", ns, plural]) := by
  show (fitLast corePath (["", "api", ver] ++ ["namespaces", ns, plural])).or
    ((fitPath coreNamespacedPath ["api", ver, "namespaces", ns, plural]).or
      ((fitPath groupPath [ver, "namespaces", ns, plural]).or none)) = _
  rw [fitLast_corePath_namespaced, Option.none_or, Option.or_none]

/-- `/apis/{group}/{version}/namespaces/{ns}/{plural}` -/
theorem firstFit_groupNamespaced :
    firstFit ["", "apis", group, ver, "namespaces", ns, plural] =
      (fitPath coreNamespacedPath [group, ver, "namespaces", ns, plural]).or
        ((fitPath groupPath [ver, "namespaces", ns, plural]).or
          (fitPath groupNamespacedPath ["apis", group, ver, "namespaces", ns, plural])) := by
  show (fitLast corePath (["", "apis", group, ver] ++ ["namespaces", ns, plural])).or _ = _
  rw [fitLast_corePath_namespaced, Option.none_or]
  rfl

end FirstFit

section Reading

variable [UnicodeTables] {group ver ns plural : String} {found : Captures}

theorem isReading_of_stem {cls : Char → Bool} {apiVersion stem : String}
    (hcls : ∀ c, cls c = true → letterDigitDash c = true) (hstem : AllIn cls stem) :
    IsReading (stem ++ "s") apiVersion ⟨apiVersion, capitalize stem⟩ :=
  ⟨stem, rfl, hstem.mono hcls, rfl⟩

/-- `/api/{version}/{plural}` -/
theorem isReading_core (h : firstFit ["", "api", ver, plural] = some found) :
    IsReading plural ver (typeMetaOfCaptures found) := by
  rw [firstFit_core] at h
  obtain ⟨-, -, stem, rfl, hstem, rfl⟩ := fitPath_corePath_iff.mp h
  exact isReading_of_stem (fun _ => id) hstem

/-- `/apis/{group}/{version}/{plural}` -/
theorem isReading_group (h : firstFit ["", "apis", group, ver, plural] = some found) :
    IsReading plural (if group = "api" then ver else group ++ "/" ++ ver)
      (typeMetaOfCaptures found) := by
  rw [firstFit_group, Option.or_eq_some_iff] at h
  rcases h with hcore | ⟨hcore, hgroup⟩
  · obtain ⟨hapi, -, stem, rfl, hstem, rfl⟩ := fitPath_corePath_iff.mp hcore
    rw [if_pos hapi]
    exact isReading_of_stem (fun _ => id) hstem
  · obtain ⟨-, -, hver, stem, rfl, hstem, rfl⟩ := fitPath_groupPath_iff.mp hgroup
    by_cases hapi : group = "api"
    · have hfits := fitPath_corePath_iff.mpr
        ⟨hapi, hver, stem, rfl, hstem.mono fun _ => letterDigitDash_of_letterDigit, rfl⟩
      exact absurd hcore (by simp [hfits])
    · rw [if_neg hapi]
      exact isReading_of_stem (fun _ => letterDigitDash_of_letterDigit) hstem

/-- `/api/{version}/namespaces/{ns}/{plural}` -/
theorem isReading_coreNamespaced
    (h : firstFit ["", "api", ver, "namespaces", ns, plural] = some found) :
    IsReading plural ver (typeMetaOfCaptures found) := by
  rw [firstFit_coreNamespaced, Option.or_eq_some_iff] at h
  rcases h with hcore | ⟨hcore, hgroup⟩
  · obtain ⟨-, -, -, -, stem, rfl, hstem, rfl⟩ := fitPath_coreNamespacedPath_iff.mp hcore
    exact isReading_of_stem (fun _ => letterDigitDash_of_letterDigit) hstem
  · -- a version called `apis`, and yet the earlier pattern did not match: impossible
    obtain ⟨rfl, -, hns, stem, rfl, hstem, rfl⟩ := fitPath_groupPath_iff.mp hgroup
    have hfits := fitPath_coreNamespacedPath_iff.mpr
      ⟨rfl, (by decide : AllIn lowerDigit "apis"), rfl,
        hns.mono fun _ => letterDigitDash_of_lowerDigit,
        stem, rfl, hstem, rfl⟩
    exact absurd hcore (by simp [hfits])

/-- `/apis/{group}/{version}/namespaces/{ns}/{plural}` -/
theorem isReading_groupNamespaced
    (h : firstFit ["", "apis", group, ver, "namespaces", ns, plural] = some found) :
    IsReading plural
      (if group = "api" then ver
        else if ver = "apis" ∧ AllIn lowerDigit ns then "namespaces" ++ "/" ++ ns
        else group ++ "/" ++ ver)
      (typeMetaOfCaptures found) := by
  rw [firstFit_groupNamespaced, Option.or_eq_some_iff, Option.or_eq_some_iff] at h
  rcases h with hcore | ⟨hcore, hgroup | ⟨hgroup, hgroupNs⟩⟩
  · obtain ⟨hapi, -, -, -, stem, rfl, hstem, rfl⟩ :=
      fitPath_coreNamespacedPath_iff.mp hcore
    rw [if_pos hapi]
    exact isReading_of_stem (fun _ => letterDigitDash_of_letterDigit) hstem
  · obtain ⟨hver, -, hns, stem, rfl, hstem, rfl⟩ := fitPath_groupPath_iff.mp hgroup
    by_cases hapi : group = "api"
    · have hfits := fitPath_coreNamespacedPath_iff.mpr
        ⟨hapi, (by rw [hver]; decide : AllIn lowerDigit ver), rfl,
          hns.mono fun _ => letterDigitDash_of_lowerDigit,
          stem, rfl, hstem, rfl⟩
      exact absurd hcore (by simp [hfits])
    · rw [if_neg hapi, if_pos ⟨hver, hns⟩]
      exact isReading_of_stem (fun _ => letterDigitDash_of_letterDigit) hstem
  · obtain ⟨-, -, hver, -, hns, stem, rfl, hstem, rfl⟩ :=
      fitPath_groupNamespacedPath_iff.mp hgroupNs
    by_cases hapi : group = "api"
    · have hfits := fitPath_coreNamespacedPath_iff.mpr
        ⟨hapi, hver, rfl, hns, stem, rfl, hstem, rfl⟩
      exact absurd hcore (by simp [hfits])
    · -- the third pattern is tried before this one, and reads `namespaces/{ns}/` instead
      rw [if_neg hapi, if_neg]
      · exact isReading_of_stem (fun _ => letterDigitDash_of_letterDigit) hstem
      · rintro ⟨hapis, hns'⟩
        have hfits := fitPath_groupPath_iff.mpr
          ⟨hapis, (by decide : AllIn lowerDigitDot "namespaces"), hns', stem, rfl, hstem, rfl⟩
        exact absurd hgroup (by simp [hfits])

/-- **What the parser reads in a resource URL.**  If it reads anything, the kind comes
from the plural, and group and version are as `readAs` says. -/
theorem isReading_of_parseTypeMeta {ar : ApiResource} {ns : Option String} {tp : TypeMeta}
    (har : ar.Coherent) (hsegments : ∀ word ∈ urlSegments ar ns, IsSegment word)
    (h : parseTypeMeta (urlPath ar ns) = some tp) :
    IsReading ar.plural (groupVersion (readAs ar ns).1 (readAs ar ns).2) tp := by
  rw [parseTypeMeta_eq_firstFit, splitAtChar_urlPath har hsegments] at h
  obtain ⟨found, hfound, rfl⟩ := Option.map_eq_some_iff.mp h
  unfold urlSegments at hfound
  cases ns with
  | none =>
      by_cases hgroup : ar.group = ""
      · rw [if_pos hgroup] at hfound
        simpa [readAs, hgroup, groupVersion] using isReading_core hfound
      · rw [if_neg hgroup] at hfound
        have hreading := isReading_group hfound
        by_cases hapi : ar.group = "api"
        · simpa [readAs, hapi, groupVersion] using hreading
        · simpa [readAs, hapi, hgroup, groupVersion] using hreading
  | some n =>
      by_cases hgroup : ar.group = ""
      · rw [if_pos hgroup] at hfound
        simpa [readAs, hgroup, groupVersion] using isReading_coreNamespaced hfound
      · rw [if_neg hgroup] at hfound
        have hreading := isReading_groupNamespaced hfound
        by_cases hapi : ar.group = "api"
        · simpa [readAs, hapi, groupVersion] using hreading
        · by_cases hver : ar.version = "apis" ∧ AllIn lowerDigit n
          · simpa [readAs, hapi, hgroup, hver, groupVersion] using hreading
          · simpa [readAs, hapi, hgroup, hver, groupVersion] using hreading

end Reading

end EntityProvider.Ingest
