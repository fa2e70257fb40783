import EntityProvider.Library.Attempts
import Mathlib.Data.List.Nodup

/-!
# Checks in order

A validation makes its checks one after the other and ends with the error of the first one
that fails.  `runChecks` does this for a list of checks.

## Main results

* `runChecks_eq_ok_iff`: it succeeds exactly if all checks pass.
* `runChecks_eq_error_iff`: otherwise it returns the error of the first one that does not.
* `runChecks_append`, `runChecks_mapError`, `validateFrom_eq_runChecks`: validations that
  follow each other, whose errors are wrapped, or that go through a list are lists of checks
  again.
* `nodup_map_eachFrom`: when the errors of all elements of a list differ.

## Design notes

A check carries its error whether it passes or not.  So a nested validation can be flattened
into one list and reasoned about at once, and that two failures are told apart is a
statement about this list: its errors have no duplicates.
-/

namespace Library

universe u

/-- A check, by whether it passes, and the error that ends the validation if it does not. -/
structure Check (ε : Type u) where
  passes : Bool
  error : ε

variable {ε ε' : Type u} {α : Type*}

/-- Make the checks in order.  The first one that fails ends this with its error, and those
after it are not made. -/
def runChecks : List (Check ε) → Except ε Unit
  | [] => .ok ()
  | check :: rest => if check.passes then runChecks rest else .error check.error

/-- **All checks pass** if the list of them gets through, and only then. -/
theorem runChecks_eq_ok_iff {checks : List (Check ε)} :
    runChecks checks = .ok () ↔ ∀ check ∈ checks, check.passes = true := by
  induction checks with
  | nil => simp [runChecks]
  | cons check rest ih =>
      rw [runChecks, List.forall_mem_cons, ← ih]
      cases check.passes <;> simp

/-- **The error is that of the first check that fails**: the checks in front of it pass, and
nothing is said about those behind it. -/
theorem runChecks_eq_error_iff {checks : List (Check ε)} {why : ε} :
    runChecks checks = .error why ↔ ∃ front check back, checks = front ++ check :: back ∧
      (∀ before ∈ front, before.passes = true) ∧ check.passes = false ∧
      check.error = why := by
  induction checks with
  | nil => simp [runChecks]
  | cons check rest ih =>
      rw [runChecks]
      cases hpasses : check.passes with
      | false =>
          rw [if_neg (by simp)]
          constructor
          · intro heq
            exact ⟨[], check, rest, rfl, by simp, hpasses, Except.error.inj heq⟩
          · rintro ⟨front, failing, back, hsplit, hfront, -, rfl⟩
            cases front with
            | nil => rw [(List.cons.inj hsplit).1]
            | cons first front =>
                have hfirst := hfront first List.mem_cons_self
                rw [← (List.cons.inj hsplit).1, hpasses] at hfirst
                exact absurd hfirst (by simp)
      | true =>
          rw [if_pos rfl, ih]
          constructor
          · rintro ⟨front, failing, back, rfl, hfront, hfails, hwhy⟩
            exact ⟨check :: front, failing, back, rfl,
              List.forall_mem_cons.mpr ⟨hpasses, hfront⟩, hfails, hwhy⟩
          · rintro ⟨front, failing, back, hsplit, hfront, hfails, hwhy⟩
            cases front with
            | nil =>
                rw [← (List.cons.inj hsplit).1, hpasses] at hfails
                exact absurd hfails (by simp)
            | cons first front =>
                exact ⟨front, failing, back, (List.cons.inj hsplit).2,
                  fun before hbefore => hfront before (List.mem_cons_of_mem _ hbefore),
                  hfails, hwhy⟩

/-! ## Putting validations together -/

/-- Some checks, then others: the second list is only looked at if the first one gets
through. -/
theorem runChecks_append (checks later : List (Check ε)) :
    runChecks (checks ++ later) = (runChecks checks >>= fun _ => runChecks later) := by
  induction checks with
  | nil => rfl
  | cons check rest ih =>
      rw [List.cons_append, runChecks, runChecks, ih]
      cases check.passes <;> rfl

/-- A check with its error wrapped.  What it asks stays the same. -/
def Check.mapError (wrap : ε → ε') (check : Check ε) : Check ε' :=
  ⟨check.passes, wrap check.error⟩

theorem runChecks_mapError (wrap : ε → ε') (checks : List (Check ε)) :
    runChecks (checks.map (Check.mapError wrap)) = (runChecks checks).mapError wrap := by
  induction checks with
  | nil => rfl
  | cons check rest ih =>
      rw [List.map_cons, runChecks, runChecks, ih, Check.mapError]
      cases check.passes <;> rfl

/-- A validation of each element of a list, by its index, counted from `i` on.  The first
error ends it. -/
def validateFrom (validate : ℕ → α → Except ε Unit) (i : ℕ) : List α → Except ε Unit
  | [] => .ok ()
  | a :: rest => do
      validate i a
      validateFrom validate (i + 1) rest

/-- The checks of each element of a list, by its index, counted from `i` on, as one list in
the order of the elements. -/
def eachFrom (checks : ℕ → α → List (Check ε)) (i : ℕ) : List α → List (Check ε)
  | [] => []
  | a :: rest => checks i a ++ eachFrom checks (i + 1) rest

theorem validateFrom_eq_runChecks {validate : ℕ → α → Except ε Unit}
    {checks : ℕ → α → List (Check ε)} (heach : ∀ i a, validate i a = runChecks (checks i a))
    (l : List α) : ∀ i, validateFrom validate i l = runChecks (eachFrom checks i l) := by
  induction l with
  | nil => intro i; rfl
  | cons a rest ih =>
      intro i
      rw [eachFrom, runChecks_append, validateFrom, heach, ih]

/-- The checks of a list are those of its elements, each with the index at which it stands. -/
theorem mem_eachFrom {checks : ℕ → α → List (Check ε)} {check : Check ε} {l : List α} :
    ∀ {i : ℕ}, check ∈ eachFrom checks i l ↔
      ∃ j a, l[j]? = some a ∧ check ∈ checks (i + j) a := by
  induction l with
  | nil => intro i; simp [eachFrom]
  | cons a rest ih =>
      intro i
      rw [eachFrom, List.mem_append, ih]
      constructor
      · rintro (hfirst | ⟨j, b, hb, hcheck⟩)
        · exact ⟨0, a, rfl, hfirst⟩
        · refine ⟨j + 1, b, by simpa using hb, ?_⟩
          rwa [Nat.add_right_comm, Nat.add_assoc] at hcheck
      · rintro ⟨j, b, hb, hcheck⟩
        cases j with
        | zero =>
            obtain rfl : a = b := by simpa using hb
            exact Or.inl hcheck
        | succ j =>
            exact Or.inr ⟨j, b, by simpa using hb, by rwa [Nat.add_right_comm, Nat.add_assoc]⟩

/-- What tells the checks of each element apart, and those of different elements, tells all
checks of a list apart. -/
theorem nodup_map_eachFrom {κ : Type*} (key : Check ε → κ) {checks : ℕ → α → List (Check ε)}
    (hown : ∀ i a, ((checks i a).map key).Nodup)
    (hother : ∀ i j a b, i ≠ j → ∀ check ∈ checks i a, ∀ other ∈ checks j b,
      key check ≠ key other) (l : List α) :
    ∀ i, ((eachFrom checks i l).map key).Nodup := by
  induction l with
  | nil => intro i; simp [eachFrom]
  | cons a rest ih =>
      intro i
      rw [eachFrom, List.map_append, List.nodup_append]
      refine ⟨hown i a, ih (i + 1), ?_⟩
      intro k hk k' hk'
      obtain ⟨check, hcheck, rfl⟩ := List.mem_map.mp hk
      obtain ⟨later, hlater, rfl⟩ := List.mem_map.mp hk'
      obtain ⟨j, b, -, hmem⟩ := mem_eachFrom.mp hlater
      exact hother i (i + 1 + j) a b (by omega) check hcheck later hmem

end Library
