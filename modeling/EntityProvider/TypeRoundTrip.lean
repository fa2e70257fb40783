import EntityProvider.RetrievalPath

/-!
# Does the type of a resource come back from its URL?

The URL of a watch is all that `parse_type_meta` has to go by when the server leaves the
types out of an object.  `ResourceUrl` is a URL that can come up: the resource is one that
discovery can return, so the names in it are DNS names, and the kind is whatever it is
declared to be.

The parser has no room for dashes in a group or a version, nor in a plural below a group or
a namespace, although the first pattern allows for them; and it takes the plural without
its last letter for the kind.  `parsesBack_iff` says for which resources it is right.
-/

namespace EntityProvider.Ingest

open Kube AxKube Library

/-! ## DNS names -/

/-- The characters of a DNS label. -/
def labelChar (c : Char) : Bool := lowerDigit c || c = '-'

/-- The characters of a DNS subdomain, in which labels are joined by dots. -/
def subdomainChar (c : Char) : Bool := labelChar c || c = '.'

/-- The text starts and ends with a letter or a digit. -/
def StartsAndEnds (s : String) : Prop :=
  s.toList.head?.any lowerDigit = true ∧ s.toList.getLast?.any lowerDigit = true

instance (s : String) : Decidable (StartsAndEnds s) :=
  inferInstanceAs (Decidable (_ ∧ _))

/-- A DNS label. -/
structure IsDnsLabel (s : String) : Prop where
  chars : AllIn labelChar s
  ends : StartsAndEnds s
  length : s.length ≤ 63

/-- A DNS subdomain. -/
structure IsDnsSubdomain (s : String) : Prop where
  chars : AllIn subdomainChar s
  labels : ∀ label ∈ splitAtChar s '.', StartsAndEnds label
  length : s.length ≤ 253

/-- **A resource URL**: a resource that discovery can return, and the namespace it is
watched in, if it is not watched in all of them. -/
structure ResourceUrl where
  resource : ApiResource
  ns : Option String
  coherent : resource.Coherent
  group_subdomain : resource.group = "" ∨ IsDnsSubdomain resource.group
  version_label : IsDnsLabel resource.version
  plural_label : IsDnsLabel resource.plural
  ns_label : ∀ n, ns = some n → IsDnsLabel n

/-- The URL itself, up to the server's address. -/
def ResourceUrl.path (url : ResourceUrl) : String := urlPath url.resource url.ns

theorem letterDigitDash_of_labelChar {c : Char} (h : labelChar c = true) :
    letterDigitDash c = true := by
  rcases Bool.or_eq_true_iff.mp h with hlower | hdash
  · exact letterDigitDash_of_lowerDigit hlower
  · show (letterDigit c || decide (c = '-')) = true
    rw [hdash, Bool.or_true]

/-- Neither a label nor a subdomain has a slash in it. -/
theorem isSegment_of_allIn {cls : Char → Bool} {s : String} (hcls : cls '/' = false)
    (hs : AllIn cls s) : IsSegment s := by
  intro hmem
  exact absurd (hs _ hmem) (by simp [hcls])

/-- A label has no capital letters. -/
theorem isLowercase_of_labelChar {s : String} (hs : AllIn labelChar s) : IsLowercase s := by
  have hsame : ∀ c ∈ s.toList, c.toLower = c := by
    intro c hc
    have hlower : labelChar c = true → c.toLower = c :=
      forall_ascii (p := fun c => labelChar c = true → c.toLower = c) (by decide)
        (isAscii_of_letterDigitDash (letterDigitDash_of_labelChar (hs c hc)))
    exact hlower (hs c hc)
  apply String.toList_inj.mp
  rw [toAsciiLowercase_toList, List.map_congr_left hsame, List.map_id']

theorem lowerDigit_iff_of_labelChar {c : Char} (h : labelChar c = true) :
    lowerDigit c = true ↔ c ≠ '-' := by
  rcases Bool.or_eq_true_iff.mp h with hlower | hdash
  · refine iff_of_true hlower ?_
    rintro rfl
    exact absurd hlower (by decide)
  · obtain rfl : c = '-' := of_decide_eq_true hdash
    decide

theorem letterDigit_iff_of_labelChar {c : Char} (h : labelChar c = true) :
    letterDigit c = true ↔ c ≠ '-' := by
  constructor
  · rintro hletter rfl
    exact absurd hletter (by decide)
  · intro hdash
    exact letterDigit_of_lowerDigit ((lowerDigit_iff_of_labelChar h).mpr hdash)

theorem lowerDigitDot_iff_of_subdomainChar {c : Char} (h : subdomainChar c = true) :
    lowerDigitDot c = true ↔ c ≠ '-' := by
  rcases Bool.or_eq_true_iff.mp h with hlabel | hdot
  · rw [← lowerDigit_iff_of_labelChar hlabel]
    constructor
    · intro hlower
      rcases Bool.or_eq_true_iff.mp hlower with hlower | hdot
      · exact hlower
      · obtain rfl : c = '.' := of_decide_eq_true hdot
        exact absurd hlabel (by decide)
    · intro hlower
      show (lowerDigit c || decide (c = '.')) = true
      rw [hlower, Bool.true_or]
  · obtain rfl : c = '.' := of_decide_eq_true hdot
    decide

namespace ResourceUrl

variable (url : ResourceUrl)

/-- The group is none, or a subdomain: its characters are the same. -/
theorem group_chars : AllIn subdomainChar url.resource.group := by
  rcases url.group_subdomain with hempty | hsubdomain
  · rw [hempty]
    decide
  · exact hsubdomain.chars

theorem isSegment_group : IsSegment url.resource.group :=
  isSegment_of_allIn rfl url.group_chars

theorem isSegment_version : IsSegment url.resource.version :=
  isSegment_of_allIn rfl url.version_label.chars

theorem isSegment_ns (n : String) (hn : url.ns = some n) : IsSegment n :=
  isSegment_of_allIn rfl (url.ns_label n hn).chars

theorem isSegment_segments : ∀ word ∈ urlSegments url.resource url.ns, IsSegment word :=
  isSegment_urlSegments url.isSegment_group url.isSegment_version
    (isSegment_of_allIn rfl url.plural_label.chars) url.isSegment_ns

end ResourceUrl

/-! ## When the parser finds anything -/

section Fits

variable {api apis apigroup group ver namespaces ns plural : String}

/-- The plural is made of characters of the class, and an `s`. -/
def HasStem (cls : Char → Bool) (plural : String) : Prop :=
  ∃ stem, plural = stem ++ "s" ∧ AllIn cls stem

theorem isSome_corePath_iff :
    (fitPath corePath [api, ver, plural]).isSome = true ↔
      api = "api" ∧ AllIn lowerDigit ver ∧ HasStem letterDigitDash plural := by
  simp [Option.isSome_iff_exists, fitPath_corePath_iff, HasStem]

theorem isSome_coreNamespacedPath_iff :
    (fitPath coreNamespacedPath [api, ver, namespaces, ns, plural]).isSome = true ↔
      api = "api" ∧ AllIn lowerDigit ver ∧ namespaces = "namespaces" ∧
        AllIn letterDigitDash ns ∧ HasStem letterDigit plural := by
  simp [Option.isSome_iff_exists, fitPath_coreNamespacedPath_iff, HasStem]

theorem isSome_groupPath_iff :
    (fitPath groupPath [apis, apigroup, ver, plural]).isSome = true ↔
      apis = "apis" ∧ AllIn lowerDigitDot apigroup ∧ AllIn lowerDigit ver ∧
        HasStem letterDigit plural := by
  simp [Option.isSome_iff_exists, fitPath_groupPath_iff, HasStem]

theorem isSome_groupNamespacedPath_iff :
    (fitPath groupNamespacedPath
        [apis, apigroup, ver, namespaces, ns, plural]).isSome = true ↔
      apis = "apis" ∧ AllIn lowerDigitDot apigroup ∧ AllIn lowerDigit ver ∧
        namespaces = "namespaces" ∧ AllIn letterDigitDash ns ∧
        HasStem letterDigit plural := by
  simp [Option.isSome_iff_exists, fitPath_groupNamespacedPath_iff, HasStem]

theorem isSome_firstFit_core :
    (firstFit ["", "api", ver, plural]).isSome = true ↔
      AllIn lowerDigit ver ∧ HasStem letterDigitDash plural := by
  rw [firstFit_core, isSome_corePath_iff]
  simp

theorem isSome_firstFit_group (hapi : group ≠ "api") :
    (firstFit ["", "apis", group, ver, plural]).isSome = true ↔
      AllIn lowerDigitDot group ∧ AllIn lowerDigit ver ∧ HasStem letterDigit plural := by
  rw [firstFit_group, Option.isSome_or, Bool.or_eq_true, isSome_corePath_iff,
    isSome_groupPath_iff]
  simp [hapi]

theorem isSome_firstFit_coreNamespaced :
    (firstFit ["", "api", ver, "namespaces", ns, plural]).isSome = true ↔
      AllIn lowerDigit ver ∧ AllIn letterDigitDash ns ∧ HasStem letterDigit plural := by
  rw [firstFit_coreNamespaced, Option.isSome_or, Bool.or_eq_true,
    isSome_coreNamespacedPath_iff, isSome_groupPath_iff]
  constructor
  · rintro (⟨-, hver, -, hns, hstem⟩ | ⟨rfl, -, hns, hstem⟩)
    · exact ⟨hver, hns, hstem⟩
    · -- a version called `apis`: the third pattern fits, but then the second does too
      exact ⟨by decide, hns.mono fun _ => letterDigitDash_of_lowerDigit, hstem⟩
  · rintro ⟨hver, hns, hstem⟩
    exact Or.inl ⟨rfl, hver, rfl, hns, hstem⟩

theorem isSome_firstFit_groupNamespaced (hapi : group ≠ "api")
    (hmisread : ver = "apis" → AllIn lowerDigit ns → group = "namespaces") :
    (firstFit ["", "apis", group, ver, "namespaces", ns, plural]).isSome = true ↔
      AllIn lowerDigitDot group ∧ AllIn lowerDigit ver ∧ AllIn letterDigitDash ns ∧
        HasStem letterDigit plural := by
  rw [firstFit_groupNamespaced, Option.isSome_or, Option.isSome_or, Bool.or_eq_true,
    Bool.or_eq_true, isSome_coreNamespacedPath_iff, isSome_groupPath_iff,
    isSome_groupNamespacedPath_iff]
  constructor
  · rintro (⟨hcore, -⟩ | ⟨hver, -, hns, hstem⟩ | ⟨-, hgroup, hver, -, hns, hstem⟩)
    · exact absurd hcore hapi
    · rw [hmisread hver hns, hver]
      exact ⟨by decide, by decide, hns.mono fun _ => letterDigitDash_of_lowerDigit, hstem⟩
    · exact ⟨hgroup, hver, hns, hstem⟩
  · rintro ⟨hgroup, hver, hns, hstem⟩
    exact Or.inr (Or.inr ⟨rfl, hgroup, hver, rfl, hns, hstem⟩)

end Fits

/-- The class for the plural: only the first pattern has room for a dash. -/
def stemClass (ar : ApiResource) (ns : Option String) : Char → Bool :=
  if ar.group = "" ∧ ns = none then letterDigitDash else letterDigit

/-- The patterns have room for every part of the URL. -/
def FitsClasses (ar : ApiResource) (ns : Option String) : Prop :=
  AllIn lowerDigitDot ar.group ∧ AllIn lowerDigit ar.version ∧
    (∀ n, ns = some n → AllIn letterDigitDash n) ∧ HasStem (stemClass ar ns) ar.plural

/-- **When the parser finds anything.**  In a URL that it does not misread, it does exactly if
the patterns have room for every part. -/
theorem isSome_parseTypeMeta_iff [UnicodeTables] {ar : ApiResource} {ns : Option String}
    (har : ar.Coherent) (hsegments : ∀ word ∈ urlSegments ar ns, IsSegment word)
    (hapi : ar.group ≠ "api") (hmisread : ¬ NamespaceMisread ar ns) :
    (parseTypeMeta (urlPath ar ns)).isSome = true ↔ FitsClasses ar ns := by
  rw [parseTypeMeta_eq_firstFit, splitAtChar_urlPath har hsegments, Option.isSome_map]
  unfold urlSegments FitsClasses stemClass
  have hempty : AllIn lowerDigitDot "" := by decide
  by_cases hgroup : ar.group = ""
  · rw [if_pos hgroup]
    cases ns with
    | none =>
        show (firstFit ["", "api", ar.version, ar.plural]).isSome = true ↔ _
        rw [isSome_firstFit_core]
        simp [hgroup, hempty]
    | some n =>
        show (firstFit ["", "api", ar.version, "namespaces", n, ar.plural]).isSome = true ↔ _
        rw [isSome_firstFit_coreNamespaced]
        simp [hgroup, hempty]
  · rw [if_neg hgroup]
    cases ns with
    | none =>
        show (firstFit ["", "apis", ar.group, ar.version, ar.plural]).isSome = true ↔ _
        rw [isSome_firstFit_group hapi]
        simp [hgroup]
    | some n =>
        have hnamespaces : ar.version = "apis" → AllIn lowerDigit n →
            ar.group = "namespaces" := by
          intro hver hn
          by_contra hother
          exact hmisread ⟨hgroup, hver, n, rfl, hn, fun hsame => hother hsame.1⟩
        show (firstFit
          ["", "apis", ar.group, ar.version, "namespaces", n, ar.plural]).isSome = true ↔ _
        rw [isSome_firstFit_groupNamespaced hapi hnamespaces]
        simp [hgroup]

/-! ## When the type comes back -/

section RoundTrip

variable [UnicodeTables]

/-- **The URL parses back to its type**: the parser finds the `apiVersion` of the resource,
and its kind up to ASCII case. -/
def ParsesBack (url : ResourceUrl) : Prop :=
  ∃ tp, parseTypeMeta url.path = some tp ∧
    tp.apiVersion = groupVersion url.resource.group url.resource.version ∧
    toAsciiLowercase tp.kind = toAsciiLowercase url.resource.kind

theorem groupVersion_inj_iff {group ver group' ver' : String} (hgroup : IsSegment group)
    (hver : IsSegment ver) (hgroup' : IsSegment group') (hver' : IsSegment ver') :
    groupVersion group ver = groupVersion group' ver' ↔ group = group' ∧ ver = ver' := by
  constructor
  · intro heq
    have hsame := checkedResource_groupVersion hgroup hver ""
    rw [heq, checkedResource_groupVersion hgroup' hver', Option.some.injEq,
      ApiResource.mk.injEq] at hsame
    exact ⟨hsame.1.symm, hsame.2.1.symm⟩
  · rintro ⟨rfl, rfl⟩
    rfl

/-- What the parser finds is the type of the resource exactly if group and version are not
taken for something else, and the plural is the kind and an `s`. -/
theorem isOwnType_iff_of_parseTypeMeta (url : ResourceUrl) {tp : TypeMeta}
    (hparse : parseTypeMeta url.path = some tp) :
    (tp.apiVersion = groupVersion url.resource.group url.resource.version ∧
        toAsciiLowercase tp.kind = toAsciiLowercase url.resource.kind) ↔
      (url.resource.group ≠ "api" ∧ ¬ NamespaceMisread url.resource url.ns) ∧
        url.resource.plural = toAsciiLowercase url.resource.kind ++ "s" := by
  obtain ⟨stem, hstem, hletters, rfl⟩ :=
    isReading_of_parseTypeMeta url.coherent url.isSegment_segments hparse
  obtain ⟨hgroup, hver⟩ := isSegment_readAs url.isSegment_group url.isSegment_version
    url.isSegment_ns
  have hversion : groupVersion (readAs url.resource url.ns).1 (readAs url.resource url.ns).2 =
        groupVersion url.resource.group url.resource.version ↔
      url.resource.group ≠ "api" ∧ ¬ NamespaceMisread url.resource url.ns := by
    rw [groupVersion_inj_iff hgroup hver url.isSegment_group url.isSegment_version,
      ← readAs_eq_iff, Prod.ext_iff]
  have hlower : toAsciiLowercase stem = stem := by
    have hplural := isLowercase_of_labelChar url.plural_label.chars
    rw [hstem, isLowercase_append_s_iff] at hplural
    exact (String.append_left_inj "s").mp hplural
  have hkind : toAsciiLowercase (capitalize stem) = toAsciiLowercase url.resource.kind ↔
      url.resource.plural = toAsciiLowercase url.resource.kind ++ "s" := by
    rw [toAsciiLowercase_capitalize fun c hc => isAscii_of_letterDigitDash (hletters c hc),
      hlower, hstem, String.append_left_inj]
  exact and_congr hversion hkind

/-- What has to be right for the type to come back, and that there is room for all of the
URL. -/
theorem parsesBack_iff_fitsClasses (url : ResourceUrl) :
    ParsesBack url ↔
      (url.resource.group ≠ "api" ∧ ¬ NamespaceMisread url.resource url.ns) ∧
        url.resource.plural = toAsciiLowercase url.resource.kind ++ "s" ∧
        FitsClasses url.resource url.ns := by
  constructor
  · rintro ⟨tp, hparse, hown⟩
    obtain ⟨hread, hplural⟩ := (isOwnType_iff_of_parseTypeMeta url hparse).mp hown
    have hsome : (parseTypeMeta url.path).isSome = true := by rw [hparse]; rfl
    exact ⟨hread, hplural, (isSome_parseTypeMeta_iff url.coherent url.isSegment_segments
      hread.1 hread.2).mp hsome⟩
  · rintro ⟨hread, hplural, hfits⟩
    obtain ⟨tp, hparse⟩ := Option.isSome_iff_exists.mp ((isSome_parseTypeMeta_iff url.coherent
      url.isSegment_segments hread.1 hread.2).mpr hfits)
    exact ⟨tp, hparse, (isOwnType_iff_of_parseTypeMeta url hparse).mpr ⟨hread, hplural⟩⟩

omit [UnicodeTables] in
/-- Of all that can be in a DNS name, the patterns only have no room for dashes. -/
theorem fitsClasses_iff (url : ResourceUrl) {stem : String}
    (hplural : url.resource.plural = stem ++ "s") :
    FitsClasses url.resource url.ns ↔
      '-' ∉ url.resource.group.toList ∧ '-' ∉ url.resource.version.toList ∧
        ('-' ∈ url.resource.plural.toList → url.resource.group = "" ∧ url.ns = none) := by
  have hns : ∀ n, url.ns = some n → AllIn letterDigitDash n := fun n hn =>
    (url.ns_label n hn).chars.mono fun _ => letterDigitDash_of_labelChar
  have hlabel : AllIn labelChar stem := by
    intro c hc
    apply url.plural_label.chars
    rw [hplural]
    simp [hc]
  have hdash : '-' ∈ url.resource.plural.toList ↔ '-' ∈ stem.toList := by
    simp [hplural]
  have hroom : HasStem (stemClass url.resource url.ns) url.resource.plural ↔
      ('-' ∈ url.resource.plural.toList → url.resource.group = "" ∧ url.ns = none) := by
    have hstem : HasStem (stemClass url.resource url.ns) url.resource.plural ↔
        AllIn (stemClass url.resource url.ns) stem := by
      simp [HasStem, hplural]
    rw [hstem, hdash, stemClass]
    by_cases hcore : url.resource.group = "" ∧ url.ns = none
    · rw [if_pos hcore]
      exact iff_of_true (hlabel.mono fun _ => letterDigitDash_of_labelChar) fun _ => hcore
    · rw [if_neg hcore,
        allIn_iff_notMem (fun _ => letterDigit_iff_of_labelChar) hlabel]
      simp only [hcore, imp_false]
  rw [FitsClasses, hroom,
    allIn_iff_notMem (fun _ => lowerDigitDot_iff_of_subdomainChar) url.group_chars,
    allIn_iff_notMem (fun _ => lowerDigit_iff_of_labelChar) url.version_label.chars]
  constructor
  · rintro ⟨hgroup, hver, -, hplural⟩
    exact ⟨hgroup, hver, hplural⟩
  · rintro ⟨hgroup, hver, hplural⟩
    exact ⟨hgroup, hver, hns, hplural⟩

/-- **A URL that the parser is right about.** -/
structure Regular (url : ResourceUrl) : Prop where
  /-- The plural is the lowercased kind and an `s`. -/
  plural : url.resource.plural = toAsciiLowercase url.resource.kind ++ "s"
  group_dash : '-' ∉ url.resource.group.toList
  version_dash : '-' ∉ url.resource.version.toList
  /-- A plural with a dash is in the core group, and watched in all namespaces. -/
  plural_dash : '-' ∈ url.resource.plural.toList → url.resource.group = "" ∧ url.ns = none
  /-- `/apis/api/` is not taken for the core group. -/
  group : url.resource.group ≠ "api"
  /-- `namespaces/{ns}/` is not taken for a group and a version. -/
  ns : ¬ NamespaceMisread url.resource url.ns

/-- **When a resource URL parses back to its type.**  Exactly if the plural is regular, there
is no dash that the patterns have no room for, and group and version are not taken for
something else. -/
theorem parsesBack_iff (url : ResourceUrl) : ParsesBack url ↔ Regular url := by
  rw [parsesBack_iff_fitsClasses]
  constructor
  · rintro ⟨⟨hapi, hmisread⟩, hplural, hfits⟩
    obtain ⟨hgroup, hver, hdash⟩ := (fitsClasses_iff url hplural).mp hfits
    exact ⟨hplural, hgroup, hver, hdash, hapi, hmisread⟩
  · rintro ⟨hplural, hgroup, hver, hdash, hapi, hmisread⟩
    exact ⟨⟨hapi, hmisread⟩, hplural, (fitsClasses_iff url hplural).mpr ⟨hgroup, hver, hdash⟩⟩

end RoundTrip

/-! ## Plurals that are not regular -/

/-- The URL of all network policies. -/
def networkPolicyUrl : ResourceUrl where
  resource :=
    { group := "networking.k8s.io", version := "v1", apiVersion := "networking.k8s.io/v1"
      kind := "NetworkPolicy", plural := "networkpolicies" }
  ns := none
  coherent := rfl
  group_subdomain := Or.inr ⟨by decide, by decide, by decide⟩
  version_label := ⟨by decide, by decide, by decide⟩
  plural_label := ⟨by decide, by decide, by decide⟩
  ns_label _ h := absurd h (by simp)

/-- **A network policy is not a `Networkpolicie`.** -/
theorem not_parsesBack_networkPolicy :
    ¬ @ParsesBack UnicodeTables.asciiOnly networkPolicyUrl := by
  rintro ⟨tp, hparse, -, hkind⟩
  have hread : @parseTypeMeta UnicodeTables.asciiOnly networkPolicyUrl.path =
      some ⟨"networking.k8s.io/v1", "Networkpolicie"⟩ := by decide
  obtain rfl := Option.some.inj (hparse.symm.trans hread)
  exact absurd hkind (by decide)

end EntityProvider.Ingest
