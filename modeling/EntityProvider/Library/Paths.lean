import EntityProvider.Library.Captures
import EntityProvider.Library.Text

/-!
# Patterns for the end of a path

A path is text split into segments by slashes.  A path pattern says of each of the last
few segments that it is some fixed text, or that it consists of characters of a class and
a fixed suffix.

## Main definitions

* `Segment`: what is said of one segment; `Segment.fit` matches it against a word
* `pathPattern`: the search pattern for the last segments of a path, with its fixed texts
  joined as one would write them
* `fitLast`: match the last segments one by one, with no search at all

## Main results

* `captures_pathPattern`: searching for a path pattern is `fitLast`.  Since no segment
  contains a slash, the pattern can match in one place only, and the result of the search can
  be computed from the segments: no backtracking, no choice of a start.
* `matches_joinLiterals_iff`: how the fixed texts of a pattern are cut into pieces does not
  matter.

## Design notes

The result needs every class and every fixed text to be free of slashes (`SlashFree`).  A
group may take nothing, so a segment may be empty; a path that begins with a slash has an
empty first segment, which counts as one before the last ones.
-/

namespace Library

/-- The text without a suffix, if it ends with it. -/
def stripSuffix (s suffix : String) : Option String :=
  if suffix.toList.isSuffixOf s.toList then
    some (String.ofList (s.toList.take (s.toList.length - suffix.toList.length)))
  else none

theorem stripSuffix_eq_some_iff {s suffix stem : String} :
    stripSuffix s suffix = some stem ↔ s = stem ++ suffix := by
  unfold stripSuffix
  constructor
  · intro h
    split at h
    next hsuffix =>
      obtain ⟨front, hfront⟩ := List.isSuffixOf_iff_suffix.mp hsuffix
      obtain rfl := Option.some.inj h
      apply String.toList_inj.mp
      rw [← hfront]
      simp
    next => exact absurd h (by simp)
  · rintro rfl
    simp

/-! ## Patterns -/

/-- What a path pattern says of one segment of the path, the text between two slashes. -/
inductive Segment where
  /-- It is this text. -/
  | fixed (text : String)
  /-- It is a named group of characters of the class, and the suffix. -/
  | group (name : String) (cls : Char → Bool) (suffix : String)

namespace Segment

/-- The segment and the slash before it, as pieces of a search pattern. -/
def pieces : Segment → List Piece
  | fixed text => [.literal "/", .literal text]
  | group name cls suffix => [.literal "/", .capture name cls, .literal suffix]

/-- The pattern of the segment admits no slash: neither in its fixed text nor in its class. -/
def SlashFree : Segment → Prop
  | fixed text => '/' ∉ text.toList
  | group _ cls suffix => cls '/' = false ∧ '/' ∉ suffix.toList

instance (seg : Segment) : Decidable seg.SlashFree :=
  match seg with
  | fixed _ => inferInstanceAs (Decidable (¬ _))
  | group _ _ _ => inferInstanceAs (Decidable (_ ∧ _))

/-- Match one segment against a word: what its groups take, if it fits.  There is at most one
way. -/
def fit : Segment → String → Option Captures
  | fixed text, word => if word = text then some [] else none
  | group name cls suffix, word =>
      (stripSuffix word suffix).bind fun stem =>
        if AllIn cls stem then some [(name, stem)] else none

theorem fit_fixed_eq_some_iff {text word : String} {found : Captures} :
    (fixed text).fit word = some found ↔ word = text ∧ found = [] := by
  by_cases hword : word = text
  · simp [fit, hword, eq_comm]
  · simp [fit, hword]

theorem fit_group_eq_some_iff {name suffix word : String} {cls : Char → Bool}
    {found : Captures} :
    (group name cls suffix).fit word = some found ↔
      ∃ stem, word = stem ++ suffix ∧ AllIn cls stem ∧ found = [(name, stem)] := by
  simp only [fit, Option.bind_eq_some_iff, stripSuffix_eq_some_iff]
  refine exists_congr fun stem => and_congr_right fun _ => ?_
  by_cases hall : AllIn cls stem
  · simp [hall, eq_comm]
  · simp [hall]

/-- A group without a suffix takes the whole segment, if all of it is in the class. -/
theorem fit_group_empty_eq_some_iff {name word : String} {cls : Char → Bool}
    {found : Captures} :
    (group name cls "").fit word = some found ↔
      AllIn cls word ∧ found = [(name, word)] := by
  simp [fit_group_eq_some_iff]

theorem slashFree_of_fit {seg : Segment} {word : String} {found : Captures}
    (hseg : seg.SlashFree) (h : seg.fit word = some found) : '/' ∉ word.toList := by
  cases seg with
  | fixed text =>
      obtain ⟨rfl, -⟩ := fit_fixed_eq_some_iff.mp h
      exact hseg
  | group name cls suffix =>
      obtain ⟨stem, rfl, hstem, -⟩ := fit_group_eq_some_iff.mp h
      intro hmem
      rcases List.mem_append.mp (by simpa using hmem) with hmem | hmem
      · exact absurd (hstem _ hmem) (by simp [hseg.1])
      · exact hseg.2 hmem

/-- The pieces of a segment match a slash and a word that fits, and the other pieces go on
behind the word. -/
theorem matches_pieces_iff {seg : Segment} {pieces : List Piece} {s : List Char}
    {found : Captures} :
    Matches (seg.pieces ++ pieces) s found ↔
      ∃ word rest f g, s = '/' :: word.toList ++ rest ∧ seg.fit word = some f ∧
        Matches pieces rest g ∧ found = f ++ g := by
  cases seg with
  | fixed text =>
      simp only [Segment.pieces, List.cons_append, List.nil_append, matches_literal_iff,
        fit_fixed_eq_some_iff]
      constructor
      · rintro ⟨_, rfl, rest, rfl, h⟩
        exact ⟨text, rest, [], found, rfl, ⟨rfl, rfl⟩, h, rfl⟩
      · rintro ⟨_, rest, _, g, rfl, ⟨rfl, rfl⟩, h, rfl⟩
        exact ⟨_, rfl, rest, rfl, h⟩
  | group name cls suffix =>
      simp only [Segment.pieces, List.cons_append, List.nil_append, matches_literal_iff,
        matches_capture_iff, fit_group_eq_some_iff]
      constructor
      · rintro ⟨_, rfl, word, _, found', rfl, hword, rfl, rest, rfl, h⟩
        refine ⟨String.ofList word ++ suffix, rest, [(name, String.ofList word)], found', ?_,
          ⟨String.ofList word, rfl, by simpa [AllIn] using hword, rfl⟩, h, rfl⟩
        simp
      · rintro ⟨_, rest, _, g, rfl, ⟨stem, rfl, hstem, rfl⟩, h, rfl⟩
        refine ⟨_, rfl, stem.toList, suffix.toList ++ rest, g, by simp, hstem, ?_, rest, rfl,
          h⟩
        simp

end Segment

/-- Join neighbouring fixed texts of a pattern, so that it reads as it is written in a
program. -/
def joinLiterals : List Piece → List Piece
  | [] => []
  | .literal text :: pieces =>
      match joinLiterals pieces with
      | .literal more :: rest => .literal (text ++ more) :: rest
      | rest => .literal text :: rest
  | .capture name cls :: pieces => .capture name cls :: joinLiterals pieces
  | .finish :: pieces => .finish :: joinLiterals pieces

/-- Joining fixed texts does not change what a pattern matches. -/
theorem matches_joinLiterals_iff :
    ∀ {pieces : List Piece} {s : List Char} {found : Captures},
      Matches (joinLiterals pieces) s found ↔ Matches pieces s found := by
  intro pieces
  induction pieces with
  | nil => intro s found; exact Iff.rfl
  | cons piece pieces ih =>
      intro s found
      cases piece with
      | literal text =>
          rw [joinLiterals, matches_literal_iff]
          simp only [← ih]
          split
          next more rest heq =>
            simp only [heq, matches_literal_iff, String.toList_append]
            constructor
            · rintro ⟨back, rfl, h⟩
              exact ⟨_, List.append_assoc _ _ _, back, rfl, h⟩
            · rintro ⟨_, rfl, back, rfl, h⟩
              exact ⟨back, (List.append_assoc _ _ _).symm, h⟩
          next => exact matches_literal_iff
      | capture name cls => simp only [joinLiterals, matches_capture_iff, ih]
      | finish => simp only [joinLiterals, matches_finish_iff, ih]

/-- The pattern for the last segments of a path: the pieces of the segments, and the end of
the text. -/
def pathPattern (path : List Segment) : List Piece :=
  joinLiterals (path.flatMap Segment.pieces ++ [.finish])

/-! ## Matching segments -/

/-- Match segments one by one against as many words; the captures are put together in
order. -/
def fitPath : List Segment → List String → Option Captures
  | [], [] => some []
  | seg :: path, word :: words =>
      (seg.fit word).bind fun f => (fitPath path words).map fun g => f ++ g
  | _, _ => none

/-- Match the last segments of a path.  There has to be another segment before them, as the
pattern begins with a slash. -/
def fitLast (path : List Segment) (words : List String) : Option Captures :=
  if path.length < words.length then fitPath path (words.drop (words.length - path.length))
  else none

/-- Segments, each with a slash before it, as they stand at the end of a path. -/
def slashed (words : List String) : List Char :=
  words.flatMap fun word => '/' :: word.toList

theorem fitPath_nil_eq_some_iff {found : Captures} :
    fitPath [] [] = some found ↔ found = [] := by
  simp [fitPath, eq_comm]

theorem fitPath_cons_cons_eq_some_iff {seg : Segment} {path : List Segment} {word : String}
    {words : List String} {found : Captures} :
    fitPath (seg :: path) (word :: words) = some found ↔
      ∃ f g, seg.fit word = some f ∧ fitPath path words = some g ∧ found = f ++ g := by
  simp only [fitPath, Option.bind_eq_some_iff, Option.map_eq_some_iff]
  constructor
  · rintro ⟨f, hf, g, hg, rfl⟩
    exact ⟨f, g, hf, hg, rfl⟩
  · rintro ⟨f, g, hf, hg, rfl⟩
    exact ⟨f, hf, g, hg, rfl⟩

theorem fitPath_cons_eq_some_iff {seg : Segment} {path : List Segment} {words : List String}
    {found : Captures} :
    fitPath (seg :: path) words = some found ↔
      ∃ word rest f g, words = word :: rest ∧ seg.fit word = some f ∧
        fitPath path rest = some g ∧ found = f ++ g := by
  cases words with
  | nil => simp [fitPath]
  | cons word words =>
      rw [fitPath_cons_cons_eq_some_iff]
      constructor
      · rintro ⟨f, g, hfit⟩
        exact ⟨word, words, f, g, rfl, hfit⟩
      · rintro ⟨word', rest, f, g, heq, hfit⟩
        obtain ⟨rfl, rfl⟩ := List.cons.inj heq
        exact ⟨f, g, hfit⟩

theorem length_eq_of_fitPath :
    ∀ {path : List Segment} {words : List String} {found : Captures},
      fitPath path words = some found → words.length = path.length := by
  intro path
  induction path with
  | nil =>
      intro words found h
      cases words with
      | nil => rfl
      | cons word words => exact absurd h (by simp [fitPath])
  | cons seg path ih =>
      intro words found h
      obtain ⟨word, rest, f, g, rfl, -, hg, -⟩ := fitPath_cons_eq_some_iff.mp h
      simp [ih hg]

theorem slashFree_of_fitPath :
    ∀ {path : List Segment} {words : List String} {found : Captures},
      (∀ seg ∈ path, seg.SlashFree) → fitPath path words = some found →
        ∀ word ∈ words, '/' ∉ word.toList := by
  intro path
  induction path with
  | nil =>
      intro words found _ h
      rw [List.length_eq_zero_iff.mp (length_eq_of_fitPath h)]
      simp
  | cons seg path ih =>
      intro words found hpath h
      obtain ⟨word, rest, f, g, rfl, hf, hg, -⟩ := fitPath_cons_eq_some_iff.mp h
      rw [List.forall_mem_cons] at hpath ⊢
      exact ⟨Segment.slashFree_of_fit hpath.1 hf, ih hpath.2 hg⟩

/-- At a fixed start, a path pattern matches exactly what consists of as many segments as it
has, each of which fits. -/
theorem matches_path_iff :
    ∀ {path : List Segment} {s : List Char} {found : Captures},
      Matches (path.flatMap Segment.pieces ++ [.finish]) s found ↔
        ∃ words, s = slashed words ∧ fitPath path words = some found := by
  intro path
  induction path with
  | nil =>
      intro s found
      rw [List.flatMap_nil, List.nil_append, matches_finish_iff, matches_nil_iff]
      constructor
      · rintro ⟨rfl, rfl⟩
        exact ⟨[], rfl, rfl⟩
      · rintro ⟨words, rfl, h⟩
        obtain rfl := List.length_eq_zero_iff.mp (length_eq_of_fitPath h)
        exact ⟨rfl, (Option.some.inj h).symm⟩
  | cons seg path ih =>
      intro s found
      rw [List.flatMap_cons, List.append_assoc, Segment.matches_pieces_iff]
      simp only [ih, fitPath_cons_eq_some_iff]
      constructor
      · rintro ⟨word, _, f, g, rfl, hf, ⟨rest, rfl, hg⟩, rfl⟩
        exact ⟨word :: rest, by simp [slashed], word, rest, f, g, rfl, hf, hg, rfl⟩
      · rintro ⟨_, rfl, word, rest, f, g, rfl, hf, hg, rfl⟩
        exact ⟨word, slashed rest, f, g, by simp [slashed], hf, ⟨rest, rfl, hg⟩, rfl⟩

/-! ## Searching a path -/

theorem splitAtChar_append_slashed :
    ∀ (words : List String) (front : List Char), (∀ word ∈ words, '/' ∉ word.toList) →
      splitAtChar (String.ofList (front ++ slashed words)) '/' =
        splitAtChar (String.ofList front) '/' ++ words := by
  intro words
  induction words with
  | nil => intro front _; simp [slashed]
  | cons word words ih =>
      intro front hwords
      rw [List.forall_mem_cons] at hwords
      have hword : splitAtChar word '/' = [word] := splitAtChar_of_notMem hwords.1
      have hrest := ih word.toList hwords.2
      rw [String.ofList_toList, hword] at hrest
      have happ : front ++ slashed (word :: words) =
          front ++ '/' :: (word.toList ++ slashed words) := by
        simp [slashed]
      simp only [splitAtChar, String.toList_ofList] at hrest ⊢
      rw [happ, List.splitOn_append_cons_self, List.map_append, hrest]
      simp

/-- A path ends with its last segments, wherever one cuts the list of all of them. -/
theorem exists_eq_append_slashed {text : String} {before words : List String}
    (hsplit : splitAtChar text '/' = before ++ words) (hbefore : before ≠ []) :
    ∃ front, text.toList = front ++ slashed words := by
  have hchars : text.toList.splitOn '/' =
      before.map String.toList ++ words.map String.toList := by
    have := congrArg (List.map String.toList) hsplit
    simpa [splitAtChar, Function.comp_def] using this
  have hjoin : ∀ (l m : List (List Char)), l ≠ [] →
      ['/'].intercalate (l ++ m) = ['/'].intercalate l ++ m.flatMap ('/' :: ·) := by
    intro l
    induction l with
    | nil => intro m hl; exact absurd rfl hl
    | cons a l ih =>
        intro m _
        cases l with
        | nil =>
            induction m generalizing a with
            | nil => simp
            | cons b m ihm => simpa [List.intercalate] using ihm b
        | cons b l => simpa [List.intercalate] using ih m (by simp)
  have htext : ['/'].intercalate (text.toList.splitOn '/') = text.toList :=
    List.intercalate_splitOn '/'
  refine ⟨['/'].intercalate (before.map String.toList), ?_⟩
  rw [← htext, hchars, hjoin _ _ (by simpa using hbefore)]
  simp [slashed, List.flatMap_map]

/-- **Searching for a path pattern is matching the last segments**: the search succeeds
exactly if they fit, and its captures are theirs. -/
theorem captures_pathPattern {path : List Segment} (hpath : ∀ seg ∈ path, seg.SlashFree)
    (text : String) :
    captures (pathPattern path) text = fitLast path (splitAtChar text '/') := by
  -- Whatever the engine finds, the last segments fit with the same captures ...
  have hsound : ∀ found, captures (pathPattern path) text = some found →
      fitLast path (splitAtChar text '/') = some found := by
    intro found h
    obtain ⟨front, back, htext, hmatch⟩ := exists_matches_of_captures h
    obtain ⟨words, rfl, hfit⟩ := matches_path_iff.mp (matches_joinLiterals_iff.mp hmatch)
    have hsplit : splitAtChar text '/' = splitAtChar (String.ofList front) '/' ++ words := by
      rw [← splitAtChar_append_slashed words front (slashFree_of_fitPath hpath hfit),
        ← htext, String.ofList_toList]
    have hfront : (splitAtChar (String.ofList front) '/').length ≠ 0 := by
      simp [splitAtChar]
    have hlength := length_eq_of_fitPath hfit
    rw [fitLast, hsplit, List.length_append, if_pos (by omega),
      show (splitAtChar (String.ofList front) '/').length + words.length - path.length =
        (splitAtChar (String.ofList front) '/').length by omega, List.drop_left, hfit]
  -- ... and where these fit at all, it finds something.
  have hcomplete : ∀ found, fitLast path (splitAtChar text '/') = some found →
      (captures (pathPattern path) text).isSome = true := by
    intro found h
    unfold fitLast at h
    split at h
    next hlength =>
      have hsplit := (List.take_append_drop
        ((splitAtChar text '/').length - path.length) (splitAtChar text '/')).symm
      have hbefore : (splitAtChar text '/').take
          ((splitAtChar text '/').length - path.length) ≠ [] := by
        rw [← List.length_pos_iff, List.length_take]
        omega
      obtain ⟨front, hfront⟩ := exists_eq_append_slashed hsplit hbefore
      exact captures_isSome hfront
        (matches_joinLiterals_iff.mpr (matches_path_iff.mpr ⟨_, rfl, h⟩))
    next => exact absurd h (by simp)
  cases hfit : fitLast path (splitAtChar text '/') with
  | some found =>
      obtain ⟨found', hfound'⟩ := Option.isSome_iff_exists.mp (hcomplete found hfit)
      rw [hfound', ← hfit, hsound found' hfound']
  | none =>
      rw [Option.eq_none_iff_forall_ne_some]
      intro found hfound
      exact absurd (hsound found hfound) (by simp [hfit])

end Library
