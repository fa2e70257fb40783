import Mathlib.Data.List.Basic

/-!
# Records with named fields

A record is written as a list of named values, and a field that has none may be left out.  It
is read by looking the fields up by their names: names that are not asked for are passed over,
and a name that occurs twice is an error.

## Main results

* `required_written`, `optional_written`: what was written under a name is read under it,
  provided that the names of the record are different.
* `required_written_of_notMem`, `optional_written_of_notMem`: a name that was not written is
  not found.  A required field is then an error, and an optional one is read as nothing.

## Design notes

A field that was left out and one that was never there cannot be told apart by a reader,
which is why an optional field reads back as what it was.  The values are of any type, and
reading one may fail with the same errors as finding it.
-/

namespace Library

/-- Why a record cannot be read: the first thing about it that is wrong. -/
inductive FieldError where
  | missing (name : String)
  | duplicate (name : String)
  /-- A value of another type than the expected one. -/
  | invalid (expected : String)
  deriving DecidableEq, Repr

section Fields

variable {V α : Type}

/-- The fields that have a value, which are those that are written. -/
def written (fields : List (String × Option V)) : List (String × V) :=
  fields.filterMap fun field => field.2.map fun value => (field.1, value)

/-- The value under a name, if there is one.  Fields under other names are passed over, and a
second value under the name is an error. -/
def lookupField (fields : List (String × V)) (name : String) : Except FieldError (Option V) :=
  match fields.filter fun field => field.1 = name with
  | [] => .ok none
  | [field] => .ok (some field.2)
  | _ => .error (.duplicate name)

/-- Read a field that has to be there: look it up, and read its value. -/
def required (fields : List (String × V)) (name : String) (read : V → Except FieldError α) :
    Except FieldError α := do
  match ← lookupField fields name with
  | some value => read value
  | none => .error (.missing name)

/-- Read a field that may be missing, which is then nothing.  A value that is there has to be
read. -/
def optional (fields : List (String × V)) (name : String)
    (read : V → Except FieldError (Option α)) : Except FieldError (Option α) := do
  match ← lookupField fields name with
  | some value => read value
  | none => .ok none

@[simp] theorem written_cons_none (name : String) (rest : List (String × Option V)) :
    written ((name, none) :: rest) = written rest := rfl

@[simp] theorem written_cons_some (name : String) (value : V)
    (rest : List (String × Option V)) :
    written ((name, some value) :: rest) = (name, value) :: written rest := rfl

theorem filter_written_of_notMem {fields : List (String × Option V)} {name : String}
    (hname : name ∉ fields.map Prod.fst) :
    ((written fields).filter fun field => field.1 = name) = [] := by
  rw [List.filter_eq_nil_iff]
  intro field hfield
  obtain ⟨source, hsource, hvalue⟩ := List.mem_filterMap.mp hfield
  obtain ⟨value, -, rfl⟩ := Option.map_eq_some_iff.mp hvalue
  simp only [decide_eq_true_eq]
  rintro rfl
  exact hname (List.mem_map_of_mem hsource)

/-- **A name holds what was written under it**, once, or not at all if the field has no
value. -/
theorem filter_written_of_mem {fields : List (String × Option V)} {name : String}
    {value : Option V} (hnames : (fields.map Prod.fst).Nodup)
    (hmem : (name, value) ∈ fields) :
    ((written fields).filter fun field => field.1 = name) =
      (value.map fun value => (name, value)).toList := by
  induction fields with
  | nil => exact absurd hmem (by simp)
  | cons field rest ih =>
      obtain ⟨hfresh, hrest⟩ := List.nodup_cons.mp hnames
      obtain ⟨other, content⟩ := field
      rcases List.mem_cons.mp hmem with heq | hmem
      · obtain ⟨rfl, rfl⟩ := Prod.mk.inj heq
        have hothers := filter_written_of_notMem hfresh
        cases value with
        | none => rw [written_cons_none, hothers]; rfl
        | some value =>
            rw [written_cons_some, List.filter_cons_of_pos (by simp), hothers]
            rfl
      · have hne : other ≠ name := by
          rintro rfl
          exact hfresh (List.mem_map.mpr ⟨_, hmem, rfl⟩)
        rw [← ih hrest hmem]
        cases content with
        | none => rw [written_cons_none]
        | some content =>
            rw [written_cons_some, List.filter_cons_of_neg (by simpa using hne)]

theorem lookupField_written {fields : List (String × Option V)} {name : String}
    {value : Option V} (hnames : (fields.map Prod.fst).Nodup)
    (hmem : (name, value) ∈ fields) :
    lookupField (written fields) name = .ok value := by
  rw [lookupField, filter_written_of_mem hnames hmem]
  cases value <;> rfl

/-- A field that was written is read: the reader gets the value, and whether it can read it is
up to it. -/
theorem required_written {fields : List (String × Option V)} {name : String} {value : V}
    (hnames : (fields.map Prod.fst).Nodup) (hmem : (name, some value) ∈ fields)
    (read : V → Except FieldError α) : required (written fields) name read = read value := by
  rw [required, lookupField_written hnames hmem]
  rfl

/-- A field that may have been left out is read as what it was, if its values are read as what
they were. -/
theorem optional_written {fields : List (String × Option V)} {name : String} {a : Option α}
    {write : α → V} {read : V → Except FieldError (Option α)}
    (hnames : (fields.map Prod.fst).Nodup) (hmem : (name, a.map write) ∈ fields)
    (hread : ∀ a, read (write a) = .ok (some a)) :
    optional (written fields) name read = .ok a := by
  rw [optional, lookupField_written hnames hmem]
  cases a with
  | none => rfl
  | some a => exact hread a

/-- A field that the record was not written with is missing, and the error says which one. -/
theorem required_written_of_notMem {fields : List (String × Option V)} {name : String}
    (hname : name ∉ fields.map Prod.fst) (read : V → Except FieldError α) :
    required (written fields) name read = .error (.missing name) := by
  rw [required, lookupField, filter_written_of_notMem hname]
  rfl

/-- An optional field that the record was not written with is read as nothing, and this is no
error. -/
theorem optional_written_of_notMem {fields : List (String × Option V)} {name : String}
    (hname : name ∉ fields.map Prod.fst) (read : V → Except FieldError (Option α)) :
    optional (written fields) name read = .ok none := by
  rw [optional, lookupField, filter_written_of_notMem hname]
  rfl

end Fields

end Library
