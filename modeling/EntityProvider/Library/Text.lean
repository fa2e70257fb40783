import Mathlib.Data.List.Infix

/-!
# Text

String operations with the meaning the Rust standard library gives them: ASCII and Unicode
case conversion, splitting at a separator character, and prefixes.

## Main definitions

* `toAsciiLowercase`, `toLowercase`: `str::to_ascii_lowercase` and `str::to_lowercase`
* `splitAtChar`: `str::split` at one character, with all parts collected
* `containsText`, `stripPrefix`: `str::contains` and `str::strip_prefix`

## Main results

* `toLowercase_of_ascii`: on ASCII text the two conversions agree.
* `toLowercase_toAsciiLowercase`: the Unicode conversion ignores ASCII case, on any text.
* `splitAtChar_append`: a separator splits off the text in front of it, so splitting undoes
  joining.

## Design notes

The ASCII part of every conversion is computed.  The Unicode part consults the tables of the
Unicode Character Database, which the standard library embeds and which change from one
toolchain to the next; they enter as `UnicodeTables`, so every result below holds for all of
them.  The *algorithm* over the tables (one character may become several, a capital sigma
depends on its neighbours) is spelled out.
-/

namespace Library

/-- The Unicode tables behind the case conversions, consulted for characters
outside ASCII only. -/
class UnicodeTables where
  /-- Lowercase mapping of a non-ASCII character. -/
  lower : Char → List Char
  /-- Uppercase mapping of a non-ASCII character. -/
  upper : Char → List Char
  /-- The derived property `Cased`. -/
  cased : Char → Bool
  /-- The derived property `Case_Ignorable`. -/
  caseIgnorable : Char → Bool

/-- Tables that leave every non-ASCII character alone.  They agree with any
version of the database on ASCII text. -/
@[reducible] def UnicodeTables.asciiOnly : UnicodeTables where
  lower c := [c]
  upper c := [c]
  cased _ := false
  caseIgnorable _ := false

/-- `char::is_ascii`: is the code of the character below 128? -/
def isAscii (c : Char) : Bool := c.val < 128

/-- `str::to_ascii_lowercase`: the letters from A to Z are replaced, and nothing else is. -/
def toAsciiLowercase (s : String) : String :=
  String.ofList (s.toList.map Char.toLower)

@[simp] theorem toAsciiLowercase_toList (s : String) :
    (toAsciiLowercase s).toList = s.toList.map Char.toLower := by
  simp [toAsciiLowercase]

/-- `str::contains` with a text pattern: does the text occur anywhere? -/
def containsText (s part : String) : Bool :=
  decide (part.toList <:+: s.toList)

/-! ## ASCII case of one character -/

/-- A property of ASCII characters can be checked on their codes, of which there are 128. -/
theorem forall_ascii {p : Char → Prop} (h : ∀ n < 128, p (Char.ofNat n)) {c : Char}
    (hc : isAscii c = true) : p c := by
  have hlt : c.toNat < 128 := by
    simpa [isAscii, UInt32.lt_iff_toNat_lt] using hc
  simpa using h c.toNat hlt

/-- Outside ASCII, ASCII lowercase changes nothing, even where Unicode has a lowercase. -/
theorem toLower_of_not_ascii {c : Char} (hc : isAscii c = false) : c.toLower = c := by
  have hge : 128 ≤ c.toNat := by
    simpa [isAscii, UInt32.lt_iff_toNat_lt] using hc
  unfold Char.toLower
  rw [dif_neg]
  rintro ⟨-, hle⟩
  have hle' : c.toNat ≤ 90 := by simpa [UInt32.le_iff_toNat_le] using hle
  omega

@[simp] theorem isAscii_toLower (c : Char) : isAscii c.toLower = isAscii c := by
  cases hc : isAscii c with
  | false => rw [toLower_of_not_ascii hc, hc]
  | true => exact forall_ascii (p := fun c => isAscii c.toLower = true) (by decide) hc

/-! ## Unicode case -/

section Unicode

variable [UnicodeTables]

/-- `char::to_lowercase`, without the rule for the sigma at the end of a word. -/
def charToLowercase (c : Char) : List Char :=
  if isAscii c then [c.toLower] else UnicodeTables.lower c

/-- `char::to_uppercase`, which may give several characters for one. -/
def charToUppercase (c : Char) : List Char :=
  if isAscii c then [c.toUpper] else UnicodeTables.upper c

/-- The property `Cased`, whose ASCII members are the letters. -/
def isCased (c : Char) : Bool :=
  if isAscii c then c.isAlpha else UnicodeTables.cased c

/-- The property `Case_Ignorable`, with its five ASCII members. -/
def isCaseIgnorable (c : Char) : Bool :=
  if isAscii c then c ∈ ['\'', '.', ':', '^', '\u0060'] else UnicodeTables.caseIgnorable c

/-- Past the characters that case ignores, is the next one cased?  At the end of the text
there is none. -/
def caseIgnorableThenCased (chars : List Char) : Bool :=
  match chars.dropWhile isCaseIgnorable with
  | [] => false
  | c :: _ => isCased c

/-- Lowercase the characters `rest`; `before` holds the characters already read,
nearest first.  A capital sigma at the end of a word takes its final form. -/
def lowercaseFrom (before : List Char) : List Char → List Char
  | [] => []
  | c :: rest =>
      (if c = 'Σ' then
        (if caseIgnorableThenCased before && !caseIgnorableThenCased rest
          then ['ς'] else ['σ'])
      else charToLowercase c) ++ lowercaseFrom (c :: before) rest

/-- `str::to_lowercase`: character by character, with the neighbours of a capital sigma looked
at. -/
def toLowercase (s : String) : String :=
  String.ofList (lowercaseFrom [] s.toList)

/-! ## Unicode lowercase on ASCII text -/

theorem lowercaseFrom_of_ascii :
    ∀ (chars before : List Char), (∀ c ∈ chars, isAscii c = true) →
      lowercaseFrom before chars = chars.map Char.toLower := by
  intro chars
  induction chars with
  | nil => intro before _; rfl
  | cons c rest ih =>
      intro before hascii
      have hc : isAscii c = true := hascii c (by simp)
      have hsigma : c ≠ 'Σ' := by
        rintro rfl
        exact absurd hc (by decide)
      rw [lowercaseFrom, if_neg hsigma, charToLowercase, if_pos hc,
        ih (c :: before) (fun d hd => hascii d (List.mem_cons_of_mem _ hd))]
      rfl

/-- On ASCII text the Unicode conversion is the ASCII one, whatever the tables say. -/
theorem toLowercase_of_ascii (s : String) (hascii : ∀ c ∈ s.toList, isAscii c = true) :
    toLowercase s = toAsciiLowercase s := by
  rw [toLowercase, toAsciiLowercase, lowercaseFrom_of_ascii _ _ hascii]

/-! ## Unicode lowercase and ASCII case -/

@[simp] theorem charToLowercase_toLower (c : Char) :
    charToLowercase c.toLower = charToLowercase c := by
  cases hc : isAscii c with
  | false => rw [toLower_of_not_ascii hc]
  | true =>
      have htwice : c.toLower.toLower = c.toLower :=
        forall_ascii (p := fun c => c.toLower.toLower = c.toLower) (by decide) hc
      simp [charToLowercase, hc, htwice]

@[simp] theorem isCased_toLower (c : Char) : isCased c.toLower = isCased c := by
  cases hc : isAscii c with
  | false => rw [toLower_of_not_ascii hc]
  | true =>
      have halpha : c.toLower.isAlpha = c.isAlpha :=
        forall_ascii (p := fun c => c.toLower.isAlpha = c.isAlpha) (by decide) hc
      simp [isCased, hc, halpha]

@[simp] theorem isCaseIgnorable_toLower (c : Char) :
    isCaseIgnorable c.toLower = isCaseIgnorable c := by
  cases hc : isAscii c with
  | false => rw [toLower_of_not_ascii hc]
  | true =>
      have hmem : (c.toLower ∈ ['\'', '.', ':', '^', '\u0060']) =
          (c ∈ ['\'', '.', ':', '^', '\u0060']) :=
        forall_ascii (p := fun c => (c.toLower ∈ ['\'', '.', ':', '^', '\u0060']) =
          (c ∈ ['\'', '.', ':', '^', '\u0060']))
        (fun n hn => propext (by revert n; decide)) hc
      simp only [isCaseIgnorable, isAscii_toLower, hc, hmem, if_true]

theorem caseIgnorableThenCased_map_toLower (chars : List Char) :
    caseIgnorableThenCased (chars.map Char.toLower) = caseIgnorableThenCased chars := by
  have hcomp : isCaseIgnorable ∘ Char.toLower = isCaseIgnorable := by
    funext c
    exact isCaseIgnorable_toLower c
  unfold caseIgnorableThenCased
  rw [List.dropWhile_map, hcomp]
  cases chars.dropWhile isCaseIgnorable with
  | nil => rfl
  | cons c rest => exact isCased_toLower c

theorem lowercaseFrom_map_toLower :
    ∀ chars before : List Char,
      lowercaseFrom (before.map Char.toLower) (chars.map Char.toLower) =
        lowercaseFrom before chars := by
  intro chars
  induction chars with
  | nil => intro before; rfl
  | cons c rest ih =>
      intro before
      have hsigma : c.toLower = 'Σ' ↔ c = 'Σ' := by
        cases hc : isAscii c with
        | false => rw [toLower_of_not_ascii hc]
        | true =>
            constructor
            · intro heq
              rw [← isAscii_toLower, heq] at hc
              exact absurd hc (by decide)
            · rintro rfl
              exact absurd hc (by decide)
      have hrest := ih (c :: before)
      rw [List.map_cons] at hrest
      simp only [List.map_cons, lowercaseFrom, hsigma, charToLowercase_toLower,
        caseIgnorableThenCased_map_toLower, hrest]

/-- The Unicode conversion ignores ASCII case: lowering the ASCII letters before makes no
difference. -/
theorem toLowercase_toAsciiLowercase (s : String) :
    toLowercase (toAsciiLowercase s) = toLowercase s := by
  have hchars := lowercaseFrom_map_toLower s.toList []
  rw [toLowercase, toAsciiLowercase_toList, toLowercase]
  exact congrArg String.ofList hchars

/-- Names that differ in ASCII case only have one Unicode lowercase form. -/
theorem toLowercase_eq_of_toAsciiLowercase_eq {s t : String}
    (h : toAsciiLowercase s = toAsciiLowercase t) : toLowercase s = toLowercase t := by
  rw [← toLowercase_toAsciiLowercase s, h, toLowercase_toAsciiLowercase]

end Unicode

/-! ## Splitting at a separator -/

/-- `str::split(sep).collect()` for a one-character separator. -/
def splitAtChar (s : String) (sep : Char) : List String :=
  (s.toList.splitOn sep).map String.ofList

/-- Text without the separator is one part, also if it is empty. -/
theorem splitAtChar_of_notMem {s : String} {sep : Char} (h : sep ∉ s.toList) :
    splitAtChar s sep = [s] := by
  rw [splitAtChar, List.splitOn_eq_singleton h]
  simp

/-- The first separator splits off the text in front of it, and what is behind it is split
further. -/
theorem splitAtChar_append (front back : String) (sep : Char)
    (h : sep ∉ front.toList) :
    splitAtChar (front ++ String.singleton sep ++ back) sep =
      front :: splitAtChar back sep := by
  have happ : (front ++ String.singleton sep ++ back).toList =
      front.toList ++ sep :: back.toList := by simp
  rw [splitAtChar, happ, List.splitOn_append_cons_self, List.splitOn_eq_singleton h]
  simp [splitAtChar]

/-- Parts of a split list never contain the separator. -/
theorem notMem_of_mem_splitOn {α : Type*} [DecidableEq α] {sep : α} {l part : List α}
    (h : part ∈ l.splitOn sep) : sep ∉ part := by
  induction l generalizing part with
  | nil =>
      obtain rfl : part = [] := by simpa using h
      simp
  | cons c l ih =>
      rw [List.splitOn_cons_eq_if_modifyHead] at h
      by_cases hc : c = sep
      · rw [if_pos (by simpa using hc)] at h
        rcases List.mem_cons.mp h with rfl | h
        · simp
        · exact ih h
      · rw [if_neg (by simpa using hc)] at h
        obtain ⟨head, tail, hsplit⟩ :=
          List.exists_cons_of_ne_nil (List.splitOn_ne_nil sep l)
        rw [hsplit, List.modifyHead_cons] at h
        rcases List.mem_cons.mp h with rfl | h
        · have hhead : sep ∉ head := ih (by simp [hsplit])
          simp [hhead, Ne.symm hc]
        · exact ih (by simp [hsplit, h])

/-- Parts of a split text never contain the separator. -/
theorem notMem_of_mem_splitAtChar {s part : String} {sep : Char}
    (h : part ∈ splitAtChar s sep) : sep ∉ part.toList := by
  obtain ⟨chars, hchars, rfl⟩ := List.mem_map.mp h
  simpa using notMem_of_mem_splitOn hchars

/-! ## Prefixes -/

/-- `str::strip_prefix`: the text without a prefix, if it begins with it. -/
def stripPrefix (s front : String) : Option String :=
  if front.toList.isPrefixOf s.toList then
    some (String.ofList (s.toList.drop front.toList.length))
  else none

theorem stripPrefix_eq_some_iff {s front rest : String} :
    stripPrefix s front = some rest ↔ s = front ++ rest := by
  unfold stripPrefix
  constructor
  · intro h
    split at h
    next hprefix =>
      obtain ⟨back, hback⟩ := List.isPrefixOf_iff_prefix.mp hprefix
      obtain rfl := Option.some.inj h
      apply String.toList_inj.mp
      rw [← hback]
      simp
    next => exact absurd h (by simp)
  · rintro rfl
    simp

end Library
