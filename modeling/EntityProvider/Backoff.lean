import EntityProvider.AxKube.Client
import Mathlib.Order.MinMax

/-!
# The backoff formula

`calculate_backoff` is documented by a formula, the delay cut off at the maximum and some
jitter on top.  It computes it with saturating operations on 64-bit integers.  Saturation
never shows in the capped delay, since the maximum is a 64-bit integer as well
(`toNat_cappedBackoff`); it can show in the sum with the jitter, which is why that is bounded
by the largest integer too (`backoffFormula`).
-/

namespace EntityProvider.AxKube.Client

open Library

/-- **The backoff follows its formula**, for whatever the generator draws. -/
structure BackoffFormula (attempt : UInt32) (baseDelayMs maxDelayMs : UInt64) : Prop where
  /-- The capped delay, over unbounded integers. -/
  capped : (cappedBackoff attempt baseDelayMs maxDelayMs).toNat =
    min maxDelayMs.toNat (baseDelayMs.toNat * 2 ^ attempt.toNat)
  /-- The range of the jitter is not empty. -/
  range : 0 < jitterRange (cappedBackoff attempt baseDelayMs maxDelayMs)
  /-- The result lies between the capped delay and a quarter more. -/
  result : ∀ draw, ∃ ms, calculateBackoff draw attempt baseDelayMs maxDelayMs = .ok ms ∧
    (cappedBackoff attempt baseDelayMs maxDelayMs).toNat ≤ ms.toNat ∧
    ms.toNat ≤ min (2 ^ 64 - 1) ((cappedBackoff attempt baseDelayMs maxDelayMs).toNat +
      max ((cappedBackoff attempt baseDelayMs maxDelayMs).toNat / 4) 1 - 1)
  /-- The capped delay grows with the attempt and with both delays. -/
  monotone : ∀ attempt' baseDelayMs' maxDelayMs', attempt ≤ attempt' →
    baseDelayMs ≤ baseDelayMs' → maxDelayMs ≤ maxDelayMs' →
    cappedBackoff attempt baseDelayMs maxDelayMs ≤
      cappedBackoff attempt' baseDelayMs' maxDelayMs'

/-- **The capped delay is exact**: what saturates is above the maximum anyway. -/
theorem toNat_cappedBackoff (attempt : UInt32) (baseDelayMs maxDelayMs : UInt64) :
    (cappedBackoff attempt baseDelayMs maxDelayMs).toNat =
      min maxDelayMs.toNat (baseDelayMs.toNat * 2 ^ attempt.toNat) := by
  have hmax := maxDelayMs.toNat_lt
  have hexact := toNat_saturatingMul_saturatingPow baseDelayMs 2 attempt.toNat
  rw [show (2 : UInt64).toNat = 2 from rfl] at hexact
  rw [cappedBackoff, toNat_min, hexact]
  generalize baseDelayMs.toNat * 2 ^ attempt.toNat = delay
  omega

/-- The jitter is less than a quarter of the delay, or zero. -/
theorem toNat_jitterRange (capped : UInt64) :
    (jitterRange capped).toNat = max (capped.toNat / 4) 1 := by
  rw [jitterRange, toNat_max, UInt64.toNat_div]
  rfl

theorem jitterRange_pos (capped : UInt64) : 0 < jitterRange capped := by
  rw [UInt64.lt_iff_toNat_lt, toNat_jitterRange]
  exact lt_max_of_lt_right Nat.zero_lt_one

/-- A draw from a range that starts at zero. -/
theorem exists_randomRange {range : UInt64} (hrange : 0 < range) (draw : UInt64) :
    ∃ jitter, randomRange draw 0 range = .ok jitter ∧ jitter.toNat < range.toNat := by
  refine ⟨0 + draw % (range - 0), if_pos hrange, ?_⟩
  rw [UInt64.zero_add, UInt64.sub_zero, UInt64.toNat_mod]
  exact Nat.mod_lt _ (UInt64.lt_iff_toNat_lt.mp hrange)

/-- The delay that is slept: the capped one and a jitter. -/
theorem exists_calculateBackoff (draw : UInt64) (attempt : UInt32)
    (baseDelayMs maxDelayMs : UInt64) :
    ∃ ms, calculateBackoff draw attempt baseDelayMs maxDelayMs = .ok ms ∧
      (cappedBackoff attempt baseDelayMs maxDelayMs).toNat ≤ ms.toNat ∧
      ms.toNat ≤ min (2 ^ 64 - 1) ((cappedBackoff attempt baseDelayMs maxDelayMs).toNat +
        max ((cappedBackoff attempt baseDelayMs maxDelayMs).toNat / 4) 1 - 1) := by
  obtain ⟨jitter, hjitter, hlt⟩ := exists_randomRange
    (jitterRange_pos (cappedBackoff attempt baseDelayMs maxDelayMs)) draw
  refine ⟨_, by rw [calculateBackoff]; simp only [hjitter]; rfl, ?_⟩
  have hcapped := (cappedBackoff attempt baseDelayMs maxDelayMs).toNat_lt
  rw [toNat_jitterRange] at hlt
  rw [toNat_saturatingAdd]
  omega

/-- The capped delay grows with all three. -/
theorem cappedBackoff_mono {attempt attempt' : UInt32}
    {baseDelayMs baseDelayMs' maxDelayMs maxDelayMs' : UInt64} (hattempt : attempt ≤ attempt')
    (hbase : baseDelayMs ≤ baseDelayMs') (hmax : maxDelayMs ≤ maxDelayMs') :
    cappedBackoff attempt baseDelayMs maxDelayMs ≤
      cappedBackoff attempt' baseDelayMs' maxDelayMs' := by
  rw [UInt64.le_iff_toNat_le, toNat_cappedBackoff, toNat_cappedBackoff]
  have hpow : 2 ^ attempt.toNat ≤ 2 ^ attempt'.toNat :=
    Nat.pow_le_pow_right Nat.zero_lt_two (UInt32.le_iff_toNat_le.mp hattempt)
  exact min_le_min (UInt64.le_iff_toNat_le.mp hmax)
    (Nat.mul_le_mul (UInt64.le_iff_toNat_le.mp hbase) hpow)

/-- **The backoff is what its documentation says**, on all inputs. -/
theorem backoffFormula (attempt : UInt32) (baseDelayMs maxDelayMs : UInt64) :
    BackoffFormula attempt baseDelayMs maxDelayMs where
  capped := toNat_cappedBackoff attempt baseDelayMs maxDelayMs
  range := jitterRange_pos _
  result draw := exists_calculateBackoff draw attempt baseDelayMs maxDelayMs
  monotone _ _ _ := cappedBackoff_mono

end EntityProvider.AxKube.Client
