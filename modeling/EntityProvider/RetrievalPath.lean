import EntityProvider.PurgeGhosts
import EntityProvider.ResourceUrls

/-!
# Does the purge check ask for the object that was watched?

`check_objects` has only an object's types to go by.  It rebuilds the API resource from
them, with the lowercased kind and an `s` for a plural, and asks for the object there.

Types come from two places.  The server's own have the real kind, so the rebuilt resource
is right exactly if the plural is regular.  Types that `parse_type_meta` read in the URL
of the watch have the plural itself for a kind, up to a capital letter and the `s`, so
any lowercase plural comes back; what may go wrong is how group and version were read.
`retrievalAgrees_iff` puts both together.  An object with an irregular plural is asked for
at a path that does not exist.
-/

namespace EntityProvider.Ingest

open Kube AxKube Library

/-! ## Rebuilding the resource -/

section Rebuild

variable [UnicodeTables]

theorem checkedResource_eq_some {tp : TypeMeta} {ar : ApiResource}
    (h : checkedResource tp = some ar) :
    IsSegment ar.group ∧ IsSegment ar.version ∧ ar.plural = toLowercase tp.kind ++ "s" ∧
      ar.apiVersion = tp.apiVersion := by
  have hparts : ∀ part ∈ splitAtChar tp.apiVersion '/', IsSegment part :=
    fun part hpart => notMem_of_mem_splitAtChar hpart
  unfold checkedResource at h
  split at h
  next ver hsplit =>
    obtain rfl := Option.some.inj h
    exact ⟨by simp [IsSegment], hparts ver (by simp [hsplit]), rfl, rfl⟩
  next group ver hsplit =>
    obtain rfl := Option.some.inj h
    exact ⟨hparts group (by simp [hsplit]), hparts ver (by simp [hsplit]), rfl, rfl⟩
  next => exact absurd h (by simp)

/-- Group and version survive being joined to an `apiVersion`. -/
theorem checkedResource_groupVersion {group ver : String} (hgroup : IsSegment group)
    (hver : IsSegment ver) (kind : String) :
    checkedResource ⟨groupVersion group ver, kind⟩ =
      some
        { group := group, version := ver, apiVersion := groupVersion group ver, kind := kind
          plural := toLowercase kind ++ "s" } := by
  unfold checkedResource groupVersion
  by_cases hempty : group = ""
  · subst hempty
    simp [splitAtChar_of_notMem hver]
  · have hsplit : splitAtChar (group ++ "/" ++ ver) '/' = [group, ver] := by
      rw [show "/" = String.singleton '/' from rfl, splitAtChar_append _ _ _ hgroup,
        splitAtChar_of_notMem hver]
    simp only [if_neg hempty, hsplit]

/-- The resource rebuilt from some types has the given group, version and plural. -/
def Rebuilds (tp : TypeMeta) (ar : ApiResource) : Prop :=
  ∃ rebuilt, checkedResource tp = some rebuilt ∧ rebuilt.group = ar.group ∧
    rebuilt.version = ar.version ∧ rebuilt.plural = ar.plural

theorem rebuilds_iff {group ver kind : String} {ar : ApiResource} (hgroup : IsSegment group)
    (hver : IsSegment ver) :
    Rebuilds ⟨groupVersion group ver, kind⟩ ar ↔
      group = ar.group ∧ ver = ar.version ∧ toLowercase kind ++ "s" = ar.plural := by
  unfold Rebuilds
  rw [checkedResource_groupVersion hgroup hver]
  simp

end Rebuild

/-! ## A plural, capitalised and lowercased again -/

theorem isAscii_of_letterDigitDash {c : Char} (h : letterDigitDash c = true) :
    isAscii c = true := by
  have hupTo : ∀ d : Char, d.val < 128 → c.val ≤ d.val → isAscii c = true :=
    fun d hd hc => decide_eq_true (UInt32.lt_of_le_of_lt hc hd)
  rcases Bool.or_eq_true_iff.mp h with hletterDigit | hdash
  · rcases Bool.or_eq_true_iff.mp hletterDigit with hletter | hdigit
    · rcases Bool.or_eq_true_iff.mp hletter with hupper | hlower
      · exact hupTo 'Z' (by decide) (of_decide_eq_true hupper).2
      · exact hupTo 'z' (by decide) (of_decide_eq_true (Bool.and_eq_true_iff.mp hlower).2)
    · exact hupTo '9' (by decide) (of_decide_eq_true (Bool.and_eq_true_iff.mp hdigit).2)
  · obtain rfl : c = '-' := of_decide_eq_true hdash
    decide

section Capitalize

variable [UnicodeTables] {stem : String}

theorem isAscii_capitalize (hstem : ∀ c ∈ stem.toList, isAscii c = true) :
    ∀ c ∈ (capitalize stem).toList, isAscii c = true := by
  unfold capitalize
  cases hchars : stem.toList with
  | nil => intro c hc; exact absurd hc (by simp)
  | cons f rest =>
      rw [hchars, List.forall_mem_cons] at hstem
      have hupper : isAscii f.toUpper = true :=
        forall_ascii (p := fun c => isAscii c.toUpper = true) (by decide) hstem.1
      simpa [charToUppercase, hstem.1] using ⟨hupper, hstem.2⟩

/-- A capital letter is all that `capitalize` adds. -/
theorem toAsciiLowercase_capitalize (hstem : ∀ c ∈ stem.toList, isAscii c = true) :
    toAsciiLowercase (capitalize stem) = toAsciiLowercase stem := by
  unfold capitalize toAsciiLowercase
  cases hchars : stem.toList with
  | nil => rfl
  | cons f rest =>
      have hascii : isAscii f = true := hstem f (by simp [hchars])
      have hback : f.toUpper.toLower = f.toLower :=
        forall_ascii (p := fun c => c.toUpper.toLower = c.toLower) (by decide) hascii
      simp [charToUppercase, hascii, hback]

theorem toLowercase_capitalize (hstem : AllIn letterDigitDash stem) :
    toLowercase (capitalize stem) = toAsciiLowercase stem := by
  have hascii : ∀ c ∈ stem.toList, isAscii c = true :=
    fun c hc => isAscii_of_letterDigitDash (hstem c hc)
  rw [toLowercase_of_ascii _ (isAscii_capitalize hascii), toAsciiLowercase_capitalize hascii]

end Capitalize

/-! ## Watched resources and their objects -/

/-- A resource that is watched, in one namespace or in all: `kube` makes the `apiVersion`
from group and version, and the name of a namespace is one segment of a path. -/
structure Watched where
  api : Api
  coherent : api.resource.Coherent
  ns_segment : ∀ n, api.ns = some n → IsSegment n

/-- The types the server gives the objects. -/
def Watched.serverTypes (w : Watched) : TypeMeta where
  apiVersion := w.api.resource.apiVersion
  kind := w.api.resource.kind

/-- An object of the watched resource: its types are the server's, or absent. -/
def Watched.Reports (w : Watched) (o : DynamicObject) : Prop :=
  o.types = none ∨ o.types = some w.serverTypes

/-- A text without capital letters. -/
def IsLowercase (s : String) : Prop := toAsciiLowercase s = s

theorem isLowercase_append_s_iff {stem : String} :
    IsLowercase (stem ++ "s") ↔ toAsciiLowercase stem ++ "s" = stem ++ "s" := by
  have happend : toAsciiLowercase (stem ++ "s") = toAsciiLowercase stem ++ "s" := by
    apply String.toList_inj.mp
    simp
  rw [IsLowercase, happend]

/-- In the URL, `namespaces/{n}/` is taken for a group and a version which are not the
resource's. -/
def NamespaceMisread (ar : ApiResource) (ns : Option String) : Prop :=
  ar.group ≠ "" ∧ ar.version = "apis" ∧
    ∃ n, ns = some n ∧ AllIn lowerDigit n ∧ ¬ (ar.group = "namespaces" ∧ n = "apis")

theorem readAs_eq_iff {ar : ApiResource} {ns : Option String} :
    readAs ar ns = (ar.group, ar.version) ↔
      ar.group ≠ "api" ∧ ¬ NamespaceMisread ar ns := by
  unfold readAs NamespaceMisread
  by_cases hapi : ar.group = "api"
  · simp [hapi]
  · rw [if_neg hapi]
    cases ns with
    | none => simp [hapi]
    | some n =>
        simp only [Option.some.injEq, exists_eq_left']
        by_cases hcond : ar.group ≠ "" ∧ ar.version = "apis" ∧ AllIn lowerDigit n
        · rw [if_pos hcond]
          simp [hapi, hcond, eq_comm]
        · rw [if_neg hcond]
          tauto

theorem isSegment_urlSegments {ar : ApiResource} {ns : Option String}
    (hgroup : IsSegment ar.group) (hver : IsSegment ar.version)
    (hplural : IsSegment ar.plural) (hns : ∀ n, ns = some n → IsSegment n) :
    ∀ word ∈ urlSegments ar ns, IsSegment word := by
  have hapi : IsSegment "api" := by decide
  have hapis : IsSegment "apis" := by decide
  have hnamespaces : IsSegment "namespaces" := by decide
  unfold urlSegments
  cases ns with
  | none => split <;> simp [*]
  | some n =>
      have hn := hns n rfl
      split <;> simp [*]

/-- Letters, digits and dashes, lowercased and with an `s`, are one segment. -/
theorem isSegment_plural {stem : String} (hstem : AllIn letterDigitDash stem) :
    IsSegment (toAsciiLowercase stem ++ "s") := by
  intro hmem
  have hs : '/' ∉ "s".toList := by decide
  obtain ⟨c, hc, hlower⟩ : ∃ c ∈ stem.toList, c.toLower = '/' := by
    simpa [hs] using hmem
  have hletter := hstem c hc
  have hnot : letterDigitDash c = true → c.toLower ≠ '/' :=
    forall_ascii (p := fun c => letterDigitDash c = true → c.toLower ≠ '/') (by decide)
      (isAscii_of_letterDigitDash hletter)
  exact hnot hletter hlower

theorem isSegment_readAs {ar : ApiResource} {ns : Option String} (hgroup : IsSegment ar.group)
    (hver : IsSegment ar.version) (hns : ∀ n, ns = some n → IsSegment n) :
    IsSegment (readAs ar ns).1 ∧ IsSegment (readAs ar ns).2 := by
  unfold readAs
  split
  · exact ⟨(by decide : IsSegment ""), hver⟩
  · cases ns with
    | none => exact ⟨hgroup, hver⟩
    | some n =>
        dsimp only
        split
        · exact ⟨(by decide : IsSegment "namespaces"), hns n rfl⟩
        · exact ⟨hgroup, hver⟩

section Retrieval

variable [UnicodeTables]

/-- The object, as it is cached. -/
def Watched.cached (w : Watched) (o : DynamicObject) : DynamicObject :=
  processDynobj o w.api.resourceUrl

/-- **The purge check addresses the watched object**: the resource rebuilt from its types
has the group, the version and the plural of the watched one, and the request is for the
path of the object. -/
structure RetrievalAgrees (w : Watched) (o : DynamicObject) : Prop where
  rebuilds : ∃ tp, (w.cached o).types = some tp ∧ Rebuilds tp w.api.resource
  request : checkRequest (w.cached o) = some (ownPath w.api o)

/-- The names of a resource come back from the types of its objects.  The server's types
need a regular plural.  Types read in the URL need a lowercase plural, and that nothing
else in the URL looks like the group or the version. -/
def Retraceable (ar : ApiResource) (ns : Option String) (types : Option TypeMeta) : Prop :=
  IsSegment ar.group ∧ IsSegment ar.version ∧
    match types with
    | some _ => ar.plural = toLowercase ar.kind ++ "s"
    | none =>
        IsSegment ar.plural ∧ IsLowercase ar.plural ∧ ar.group ≠ "api" ∧
          ¬ NamespaceMisread ar ns

/-- Types with the `apiVersion` of a resource that can be rebuilt: the request is for
the object's own path. -/
theorem retrievalAgrees_iff_rebuilds {w : Watched} {o : DynamicObject} {tp : TypeMeta}
    (hns : o.metadata.ns.isSome = true) (htypes : (w.cached o).types = some tp)
    (hversion : Rebuilds tp w.api.resource → tp.apiVersion = w.api.resource.apiVersion) :
    RetrievalAgrees w o ↔ Rebuilds tp w.api.resource := by
  constructor
  · intro hagrees
    obtain ⟨tp', htypes', hrebuilds⟩ := hagrees.rebuilds
    obtain rfl : tp = tp' := Option.some.inj (htypes.symm.trans htypes')
    exact hrebuilds
  · intro hrebuilds
    refine ⟨⟨tp, htypes, hrebuilds⟩, ?_⟩
    obtain ⟨rebuilt, hrebuilt, hgroup, -, hplural⟩ := id hrebuilds
    have hasked : AskedForAtOwnPath w.api (w.cached o) :=
      ⟨hns, tp, rebuilt, htypes, hrebuilt, hgroup,
        (checkedResource_eq_some hrebuilt).2.2.2.trans (hversion hrebuilds), hplural⟩
    exact checkRequest_of_askedForAtOwnPath hasked

/-- The server's types. -/
theorem rebuilds_serverTypes_iff (w : Watched) :
    Rebuilds w.serverTypes w.api.resource ↔
      Retraceable w.api.resource w.api.ns (some w.serverTypes) := by
  unfold Retraceable
  have htypes : w.serverTypes =
      ⟨groupVersion w.api.resource.group w.api.resource.version, w.api.resource.kind⟩ := by
    rw [Watched.serverTypes, w.coherent]
  constructor
  · intro hrebuilds
    obtain ⟨rebuilt, hrebuilt, hgroup, hver, hplural⟩ := id hrebuilds
    obtain ⟨hgroup', hver', hplural', -⟩ := checkedResource_eq_some hrebuilt
    rw [hgroup] at hgroup'
    rw [hver] at hver'
    exact ⟨hgroup', hver', hplural.symm.trans hplural'⟩
  · rintro ⟨hgroup, hver, hplural⟩
    rw [htypes]
    exact (rebuilds_iff hgroup hver).mpr ⟨rfl, rfl, hplural.symm⟩

/-- Types that were read in the URL. -/
theorem rebuilds_iff_of_parseTypeMeta (w : Watched) {tp : TypeMeta}
    (hparse : parseTypeMeta w.api.resourceUrl = some tp) :
    Rebuilds tp w.api.resource ↔ Retraceable w.api.resource w.api.ns none := by
  unfold Retraceable
  by_cases hsegments : IsSegment w.api.resource.group ∧ IsSegment w.api.resource.version ∧
      IsSegment w.api.resource.plural
  · obtain ⟨hgroup, hver, hplural⟩ := hsegments
    obtain ⟨stem, hstem, hletters, rfl⟩ :=
      isReading_of_parseTypeMeta w.coherent
        (isSegment_urlSegments hgroup hver hplural w.ns_segment) hparse
    obtain ⟨hgroup', hver'⟩ := isSegment_readAs hgroup hver w.ns_segment
    have hread : (readAs w.api.resource w.api.ns).1 = w.api.resource.group ∧
        (readAs w.api.resource w.api.ns).2 = w.api.resource.version ↔
          w.api.resource.group ≠ "api" ∧ ¬ NamespaceMisread w.api.resource w.api.ns := by
      rw [← readAs_eq_iff, Prod.ext_iff]
    have hlower : toAsciiLowercase stem ++ "s" = w.api.resource.plural ↔
        IsLowercase w.api.resource.plural := by
      rw [hstem, isLowercase_append_s_iff]
    rw [rebuilds_iff hgroup' hver', toLowercase_capitalize hletters, hlower, ← and_assoc,
      hread]
    constructor
    · rintro ⟨hread, hlower⟩
      exact ⟨hgroup, hver, hplural, hlower, hread⟩
    · rintro ⟨-, -, -, hlower, hread⟩
      exact ⟨hread, hlower⟩
  · -- what is rebuilt has no slash in its names, so the resource would have none either
    constructor
    · rintro ⟨rebuilt, hrebuilt, hgroup, hver, hplural⟩
      obtain ⟨hgroup', hver', hplural', -⟩ := checkedResource_eq_some hrebuilt
      obtain ⟨stem, hletters, hkind⟩ := kind_of_parseTypeMeta hparse
      rw [hgroup] at hgroup'
      rw [hver] at hver'
      rw [hplural, hkind, toLowercase_capitalize hletters] at hplural'
      refine absurd ⟨hgroup', hver', ?_⟩ hsegments
      rw [hplural']
      exact isSegment_plural hletters
    · rintro ⟨hgroup, hver, hplural, -⟩
      exact absurd ⟨hgroup, hver, hplural⟩ hsegments

theorem apiVersion_of_retraceable (w : Watched) {tp : TypeMeta}
    (hparse : parseTypeMeta w.api.resourceUrl = some tp)
    (hretraceable : Retraceable w.api.resource w.api.ns none) :
    tp.apiVersion = w.api.resource.apiVersion := by
  obtain ⟨hgroup, hver, hplural, -, hread⟩ := hretraceable
  obtain ⟨stem, -, -, rfl⟩ :=
    isReading_of_parseTypeMeta w.coherent
      (isSegment_urlSegments hgroup hver hplural w.ns_segment) hparse
  rw [readAs_eq_iff.mpr hread, w.coherent]

/-- **The purge check addresses the watched object exactly if its names come back** from
the types it has in the cache. -/
theorem retrievalAgrees_iff (w : Watched) (o : DynamicObject) (hreports : w.Reports o)
    (hns : o.metadata.ns.isSome = true) (htypes : (w.cached o).types.isSome = true) :
    RetrievalAgrees w o ↔ Retraceable w.api.resource w.api.ns o.types := by
  obtain ⟨tp, htp⟩ := Option.isSome_iff_exists.mp htypes
  rcases hreports with hnone | hserver
  · have hparse : parseTypeMeta w.api.resourceUrl = some tp := by
      simpa [Watched.cached, processDynobj, hnone] using htp
    rw [hnone, ← rebuilds_iff_of_parseTypeMeta w hparse]
    exact retrievalAgrees_iff_rebuilds hns htp fun hrebuilds =>
      apiVersion_of_retraceable w hparse
        ((rebuilds_iff_of_parseTypeMeta w hparse).mp hrebuilds)
  · obtain rfl : w.serverTypes = tp := by
      simpa [Watched.cached, processDynobj, hserver] using htp
    rw [hserver, ← rebuilds_serverTypes_iff]
    exact retrievalAgrees_iff_rebuilds hns htp fun _ => rfl

end Retrieval

/-! ## An irregular plural -/

/-- The watch of all network policies. -/
def networkPolicyWatch : Watched where
  api := .allWith
    { group := "networking.k8s.io", version := "v1", apiVersion := "networking.k8s.io/v1"
      kind := "NetworkPolicy", plural := "networkpolicies" }
  coherent := rfl
  ns_segment _ h := absurd h (by simp [Api.allWith])

/-- The plural of `NetworkPolicy` is not `networkpolicys`. -/
theorem not_retrievalAgrees_networkPolicy :
    let o := namesake "networking.k8s.io/v1" "NetworkPolicy"
    networkPolicyWatch.Reports o ∧ o.metadata.ns.isSome = true ∧
      ¬ @RetrievalAgrees UnicodeTables.asciiOnly networkPolicyWatch o := by
  refine ⟨Or.inr rfl, rfl, fun hagrees => ?_⟩
  have hrequest := @RetrievalAgrees.request UnicodeTables.asciiOnly _ _ hagrees
  exact absurd hrequest (by decide)

/-- Without types from the server, the policy is asked for where it was watched. -/
theorem retrievalAgrees_iff_networkPolicy :
    let o := { namesake "networking.k8s.io/v1" "NetworkPolicy" with types := none }
    @RetrievalAgrees UnicodeTables.asciiOnly networkPolicyWatch o ↔
      @Retraceable UnicodeTables.asciiOnly networkPolicyWatch.api.resource
        networkPolicyWatch.api.ns o.types :=
  @retrievalAgrees_iff UnicodeTables.asciiOnly networkPolicyWatch
    { namesake "networking.k8s.io/v1" "NetworkPolicy" with types := none }
    (Or.inl rfl) rfl (by decide)

end EntityProvider.Ingest
