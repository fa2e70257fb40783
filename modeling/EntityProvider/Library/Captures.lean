import Mathlib.Data.List.Infix
import Mathlib.Data.List.TakeWhile

/-!
# Patterns with named captures

A small language of search patterns: fixed text, a named group around a starred
character class, and the end of the text.

## Main definitions

* `captures`: search the way a leftmost-first engine does.  The earliest start wins, and a
  starred class first tries the longest run and gives characters back one at a time.
* `Matches`: which captures a text admits from its start on, as a relation

## Main results

* `matchHere_sound` and `matchHere_complete` relate the two at a fixed start.
* `exists_matches_of_captures` and `captures_isSome` do the same for a search.

## Design notes

`Matches` forgets the engine's order of preference, so it may admit several captures where
the engine returns one.  Where the captures are unique, as they are for the patterns of
`EntityProvider.Library.Paths`, soundness and completeness together say what the search
returns.
-/

namespace Library

/-- All characters of a text are in a class, which is given by its test. -/
def AllIn (cls : Char → Bool) (s : String) : Prop :=
  ∀ c ∈ s.toList, cls c = true

instance (cls : Char → Bool) (s : String) : Decidable (AllIn cls s) :=
  List.decidableBAll (fun c => cls c = true) s.toList

theorem AllIn.mono {cls cls' : Char → Bool} {s : String} (h : AllIn cls s)
    (hcls : ∀ c, cls c = true → cls' c = true) : AllIn cls' s :=
  fun c hc => hcls c (h c hc)

/-- If a narrower class only lacks one character, a text is in it exactly if it does without
that character. -/
theorem allIn_iff_notMem {wide narrow : Char → Bool} {missing : Char} {s : String}
    (hnarrow : ∀ c, wide c = true → (narrow c = true ↔ c ≠ missing)) (hs : AllIn wide s) :
    AllIn narrow s ↔ missing ∉ s.toList := by
  constructor
  · intro hall hmem
    exact (hnarrow missing (hs _ hmem)).mp (hall _ hmem) rfl
  · intro hmissing c hc
    refine (hnarrow c (hs c hc)).mpr ?_
    rintro rfl
    exact hmissing hc

/-- One piece of a pattern.  A pattern is a list of pieces, which match one after the
other. -/
inductive Piece where
  /-- Fixed text. -/
  | literal (text : String)
  /-- A group `(?<name>[cls]*)`. -/
  | capture (name : String) (cls : Char → Bool)
  /-- The end of the text, `$`. -/
  | finish

/-- The text each named group took, in the order in which the groups stand in the pattern. -/
abbrev Captures := List (String × String)

/-- Match a pattern at the start of a text.  A group tries the longest run of its class first,
and shorter ones if the rest of the pattern does not match behind it. -/
def matchHere : List Piece → List Char → Option Captures
  | [], _ => some []
  | .literal text :: pieces, s =>
      if text.toList.isPrefixOf s then matchHere pieces (s.drop text.toList.length)
      else none
  | .capture name cls :: pieces, s =>
      (List.range ((s.takeWhile cls).length + 1)).reverse.findSome? fun k =>
        (matchHere pieces (s.drop k)).map fun found =>
          (name, String.ofList (s.take k)) :: found
  | .finish :: pieces, s => if s = [] then matchHere pieces s else none

/-- Search for a pattern: the captures at the leftmost start at which it matches, if it
matches anywhere. -/
def captures (pieces : List Piece) (text : String) : Option Captures :=
  text.toList.tails.findSome? (matchHere pieces)

/-- The captures a pattern admits at the start of a text.  A group may take any run of its
class, so there is no order of preference here. -/
inductive Matches : List Piece → List Char → Captures → Prop where
  | nil (s : List Char) : Matches [] s []
  | literal {pieces : List Piece} {s : List Char} {found : Captures} (text : String) :
      Matches pieces s found → Matches (.literal text :: pieces) (text.toList ++ s) found
  | capture {pieces : List Piece} {s : List Char} {found : Captures} (name : String)
      {cls : Char → Bool} (word : List Char) (hword : ∀ c ∈ word, cls c = true) :
      Matches pieces s found →
        Matches (.capture name cls :: pieces) (word ++ s)
          ((name, String.ofList word) :: found)
  | finish {pieces : List Piece} {found : Captures} :
      Matches pieces [] found → Matches (.finish :: pieces) [] found

/-! ### Inversion, one equation per piece -/

@[simp] theorem matches_nil_iff {s : List Char} {found : Captures} :
    Matches [] s found ↔ found = [] := by
  constructor
  · rintro ⟨⟩
    rfl
  · rintro rfl
    exact .nil s

@[simp] theorem matches_literal_iff {text : String} {pieces : List Piece}
    {s : List Char} {found : Captures} :
    Matches (.literal text :: pieces) s found ↔
      ∃ rest, s = text.toList ++ rest ∧ Matches pieces rest found := by
  constructor
  · rintro (_ | ⟨_, h⟩)
    exact ⟨_, rfl, h⟩
  · rintro ⟨rest, rfl, h⟩
    exact .literal text h

@[simp] theorem matches_capture_iff {name : String} {cls : Char → Bool}
    {pieces : List Piece} {s : List Char} {found : Captures} :
    Matches (.capture name cls :: pieces) s found ↔
      ∃ word rest found', s = word ++ rest ∧ (∀ c ∈ word, cls c = true) ∧
        found = (name, String.ofList word) :: found' ∧ Matches pieces rest found' := by
  constructor
  · rintro (_ | _ | ⟨_, word, hword, h⟩)
    exact ⟨word, _, _, rfl, hword, rfl, h⟩
  · rintro ⟨word, rest, found', rfl, hword, rfl, h⟩
    exact .capture name word hword h

@[simp] theorem matches_finish_iff {pieces : List Piece} {s : List Char}
    {found : Captures} :
    Matches (.finish :: pieces) s found ↔ s = [] ∧ Matches pieces [] found := by
  constructor
  · rintro (_ | _ | _ | h)
    exact ⟨rfl, h⟩
  · rintro ⟨rfl, h⟩
    exact .finish h

/-- What a group took consists of characters of its class: every entry of the captures comes
from a group of the pattern. -/
theorem exists_capture_of_mem {pieces : List Piece} {s : List Char} {found : Captures}
    (h : Matches pieces s found) {entry : String × String} (hentry : entry ∈ found) :
    ∃ cls, Piece.capture entry.1 cls ∈ pieces ∧ AllIn cls entry.2 := by
  induction h with
  | nil s => exact absurd hentry List.not_mem_nil
  | literal text _ ih =>
      obtain ⟨cls, hpiece, hall⟩ := ih hentry
      exact ⟨cls, List.mem_cons_of_mem _ hpiece, hall⟩
  | @capture pieces s _ name cls word hword _ ih =>
      rcases List.mem_cons.mp hentry with rfl | hentry
      · exact ⟨cls, List.mem_cons_self, by simpa [AllIn] using hword⟩
      · obtain ⟨cls', hpiece, hall⟩ := ih hentry
        exact ⟨cls', List.mem_cons_of_mem _ hpiece, hall⟩
  | finish _ ih =>
      obtain ⟨cls, hpiece, hall⟩ := ih hentry
      exact ⟨cls, List.mem_cons_of_mem _ hpiece, hall⟩

/-! ### The engine finds what the pattern admits -/

/-- The first `k` characters of a run of the class are in the class, so giving characters back
leaves a text of the class. -/
private theorem cls_of_mem_take {cls : Char → Bool} {s : List Char} {k : ℕ}
    (hk : k ≤ (s.takeWhile cls).length) : ∀ c ∈ s.take k, cls c = true := by
  intro c hc
  have hpre : s.take k <+: s.takeWhile cls :=
    List.prefix_of_prefix_length_le (List.take_prefix k s) (List.takeWhile_prefix cls)
      (le_trans (List.length_take_le k s) hk)
  exact List.mem_takeWhile_imp (hpre.subset hc)

/-- A prefix of characters of the class is no longer than the run, so the engine tries its
length at some point. -/
private theorem length_le_run {cls : Char → Bool} {word : List Char}
    (hword : ∀ c ∈ word, cls c = true) (s : List Char) :
    word.length ≤ ((word ++ s).takeWhile cls).length := by
  rw [List.takeWhile_append_of_pos hword]
  simp

/-- **Soundness.**  What the engine captures at a start, the pattern admits there. -/
theorem matchHere_sound :
    ∀ {pieces : List Piece} {s : List Char} {found : Captures},
      matchHere pieces s = some found → Matches pieces s found := by
  intro pieces
  induction pieces with
  | nil =>
      intro s found h
      simpa [matchHere, eq_comm] using h
  | cons piece pieces ih =>
      intro s found h
      cases piece with
      | literal text =>
          rw [matchHere] at h
          split at h
          next hpre =>
            obtain ⟨rest, rfl⟩ := List.isPrefixOf_iff_prefix.mp hpre
            rw [List.drop_left] at h
            exact .literal text (ih h)
          next => exact absurd h (by simp)
      | capture name cls =>
          rw [matchHere] at h
          obtain ⟨k, hk, h⟩ := List.exists_of_findSome?_eq_some h
          obtain ⟨found', hfound', rfl⟩ := Option.map_eq_some_iff.mp h
          have hrun : k ≤ (s.takeWhile cls).length := by
            simpa [Nat.lt_succ_iff] using hk
          rw [matches_capture_iff]
          exact ⟨s.take k, s.drop k, found', (List.take_append_drop k s).symm,
            cls_of_mem_take hrun, rfl, ih hfound'⟩
      | finish =>
          rw [matchHere] at h
          split at h
          next hnil =>
            subst hnil
            exact .finish (ih h)
          next => exact absurd h (by simp)

/-- **Completeness.**  Where the pattern admits captures, the engine finds some, perhaps
others. -/
theorem matchHere_complete {pieces : List Piece} {s : List Char} {found : Captures}
    (h : Matches pieces s found) : (matchHere pieces s).isSome = true := by
  induction h with
  | nil s => rfl
  | literal text _ ih =>
      rw [matchHere, if_pos (List.isPrefixOf_iff_prefix.mpr (List.prefix_append _ _)),
        List.drop_left]
      exact ih
  | @capture pieces s _ name cls word hword _ ih =>
      rw [matchHere, List.findSome?_isSome_iff]
      refine ⟨word.length, ?_, ?_⟩
      · have := length_le_run hword s
        simpa [Nat.lt_succ_iff] using this
      · rw [List.drop_left]
        simpa using ih
  | finish _ ih => simpa [matchHere] using ih

/-- A successful search captured something the pattern admits at some start. -/
theorem exists_matches_of_captures {pieces : List Piece} {text : String}
    {found : Captures} (h : captures pieces text = some found) :
    ∃ front back, text.toList = front ++ back ∧ Matches pieces back found := by
  obtain ⟨back, hback, h⟩ := List.exists_of_findSome?_eq_some h
  obtain ⟨front, hfront⟩ := (List.mem_tails _ _).mp hback
  exact ⟨front, back, hfront.symm, matchHere_sound h⟩

/-- A search fails only on texts no suffix of which matches: one start with a match is enough
for it to succeed. -/
theorem captures_isSome {pieces : List Piece} {text : String} {front back : List Char}
    {found : Captures} (htext : text.toList = front ++ back)
    (h : Matches pieces back found) : (captures pieces text).isSome = true := by
  rw [captures, List.findSome?_isSome_iff]
  exact ⟨back, (List.mem_tails _ _).mpr ⟨front, htext.symm⟩, matchHere_complete h⟩

end Library
