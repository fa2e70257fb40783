import Mathlib.Algebra.Group.Nat.Defs

/-!
# Saturating arithmetic

Operations on 64-bit integers that return the largest integer where the exact result does
not fit, and operations that tell that it does not.

A chain of saturating multiplications is as exact as it can be: it gives what the exact
product gives when it is cut off once, at the end (`toNat_saturatingMul`,
`toNat_saturatingPow`).  The reason is `min_mul_min`: what is cut off already stays cut off
when it is multiplied, unless it is multiplied by zero, and then nothing is lost.
-/

namespace Library

/-! ## Cutting off once is enough -/

theorem min_mul_min (bound a b : ℕ) : min (min a bound * b) bound = min (a * b) bound := by
  rcases Nat.le_total a bound with hfits | hlarge
  · rw [Nat.min_eq_left hfits]
  · rw [Nat.min_eq_right hlarge]
    cases b with
    | zero => rw [Nat.mul_zero, Nat.mul_zero]
    | succ b =>
        have hcut : bound ≤ bound * (b + 1) := Nat.le_mul_of_pos_right bound b.succ_pos
        have hexact : bound * (b + 1) ≤ a * (b + 1) := Nat.mul_le_mul_right _ hlarge
        rw [Nat.min_eq_right hcut, Nat.min_eq_right (Nat.le_trans hcut hexact)]

/-! ## The operations -/

/-- The largest 64-bit integer, which stands for everything that is too large. -/
def maxUInt64 : UInt64 := 18446744073709551615

theorem toNat_maxUInt64 : maxUInt64.toNat = 2 ^ 64 - 1 := rfl

/-- The integer of a number that fits into 64 bits, else the largest one. -/
def saturate (n : ℕ) : UInt64 := if n < 2 ^ 64 then UInt64.ofNat n else maxUInt64

theorem toNat_saturate (n : ℕ) : (saturate n).toNat = min n (2 ^ 64 - 1) := by
  unfold saturate
  split
  next hfits =>
    rw [UInt64.toNat_ofNat_of_lt' hfits]
    omega
  next hlarge =>
    rw [toNat_maxUInt64]
    omega

/-- Multiplication that saturates: the exact product, cut off. -/
def saturatingMul (a b : UInt64) : UInt64 := saturate (a.toNat * b.toNat)

/-- Addition that saturates: the exact sum, cut off. -/
def saturatingAdd (a b : UInt64) : UInt64 := saturate (a.toNat + b.toNat)

/-- A power, as repeated saturating multiplication; each product is cut off on its own. -/
def saturatingPow (a : UInt64) : ℕ → UInt64
  | 0 => 1
  | n + 1 => saturatingMul (saturatingPow a n) a

theorem toNat_saturatingMul (a b : UInt64) :
    (saturatingMul a b).toNat = min (a.toNat * b.toNat) (2 ^ 64 - 1) :=
  toNat_saturate _

theorem toNat_saturatingAdd (a b : UInt64) :
    (saturatingAdd a b).toNat = min (a.toNat + b.toNat) (2 ^ 64 - 1) :=
  toNat_saturate _

/-- **A saturating power** is the exact power, cut off once at the end. -/
theorem toNat_saturatingPow (a : UInt64) (n : ℕ) :
    (saturatingPow a n).toNat = min (a.toNat ^ n) (2 ^ 64 - 1) := by
  induction n with
  | zero => rfl
  | succ n ih =>
      rw [saturatingPow, toNat_saturatingMul, ih, min_mul_min]
      rfl

/-- A product with a saturating power is the exact one, cut off once. -/
theorem toNat_saturatingMul_saturatingPow (a b : UInt64) (n : ℕ) :
    (saturatingMul a (saturatingPow b n)).toNat =
      min (a.toNat * b.toNat ^ n) (2 ^ 64 - 1) := by
  rw [toNat_saturatingMul, toNat_saturatingPow, Nat.mul_comm, min_mul_min, Nat.mul_comm]

theorem toNat_min (a b : UInt64) : (min a b).toNat = min a.toNat b.toNat := by
  show (ite (a ≤ b) a b).toNat = _
  rw [apply_ite UInt64.toNat, Nat.min_def]
  exact ite_congr (propext UInt64.le_iff_toNat_le) (fun _ => rfl) fun _ => rfl

theorem toNat_max (a b : UInt64) : (max a b).toNat = max a.toNat b.toNat := by
  show (ite (a ≤ b) b a).toNat = _
  rw [apply_ite UInt64.toNat, Nat.max_def]
  exact ite_congr (propext UInt64.le_iff_toNat_le) (fun _ => rfl) fun _ => rfl

/-! ## Counting -/

/-- The next 32-bit integer, unless there is none; the largest integer has no next one. -/
def checkedSucc (n : UInt32) : Option UInt32 :=
  if n.toNat + 1 < 2 ^ 32 then some (n + 1) else none

theorem toNat_of_checkedSucc {n next : UInt32} (hnext : checkedSucc n = some next) :
    next.toNat = n.toNat + 1 := by
  unfold checkedSucc at hnext
  split at hnext
  next hfits =>
    obtain rfl := Option.some.inj hnext
    rw [UInt32.toNat_add]
    exact Nat.mod_eq_of_lt hfits
  next => exact absurd hnext (by simp)

/-- An integer below another one is not the last, so there is a next one. -/
theorem exists_checkedSucc {n bound : UInt32} (hlt : n < bound) :
    ∃ next, checkedSucc n = some next := by
  have hbound := bound.toNat_lt
  have hsmall := UInt32.lt_iff_toNat_lt.mp hlt
  exact ⟨n + 1, if_pos (by omega)⟩

end Library
