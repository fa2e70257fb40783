import EntityProvider.RetryLoop
import Mathlib.Algebra.BigOperators.Fin
import Mathlib.Algebra.BigOperators.Ring.Finset
import Mathlib.Algebra.Order.BigOperators.Group.Finset
import Mathlib.Algebra.Ring.GeomSum

/-!
# How long the client waits

Between two attempts a call of `client` sleeps.  `AllowedAttempts` counts the sleeps; here
is how long they are.  The `k`-th one is the backoff of attempt `k`, whatever the attempts
end in (`sleeps_retryLoop`), so the time slept by a call lies between the sum of the capped
delays and a quarter more, and is bounded by the retries and the maximum alone:
`time_slept`.  As long as the maximum is not reached the delays double
(`sum_cappedDelay_of_le`).
-/

namespace EntityProvider.AxKube.Client

open Library
open EntityProvider.Configuration (KubeSettings KubeRetrySettings)

/-! ## Sleeps -/

/-- The delay of a sleep. -/
def Event.delay? : Event → Option UInt64
  | .attempt => none
  | .sleep ms => some ms

/-- The sleeps among the events of a call. -/
def sleeps (events : List Event) : List UInt64 := events.filterMap Event.delay?

@[simp] theorem sleeps_append (events later : List Event) :
    sleeps (events ++ later) = sleeps events ++ sleeps later :=
  List.filterMap_append

@[simp] theorem sleeps_attempt : sleeps [.attempt] = [] := rfl

@[simp] theorem sleeps_attempt_sleep (ms : UInt64) :
    sleeps [.attempt, .sleep ms] = [ms] := rfl

/-- The time slept, in milliseconds. -/
def timeSlept (events : List Event) : ℕ := ((sleeps events).map UInt64.toNat).sum

@[simp] theorem timeSlept_append (events later : List Event) :
    timeSlept (events ++ later) = timeSlept events + timeSlept later := by
  simp [timeSlept]

section Delays

variable {C E : Type} {retry : KubeRetrySettings} {outcomes : ℕ → Except E C}
  {draws : ℕ → UInt64}

/-- The delay of a round is the backoff of its attempt. -/
theorem backoff_of_nextRound {draw : UInt64} {attempt : UInt32} {lastError : Option E}
    {round : UInt64 × UInt32} (hround : nextRound retry draw attempt lastError = .ok round) :
    calculateBackoff draw attempt retry.baseDelayMs retry.maxDelayMs = .ok round.1 := by
  unfold nextRound at hround
  cases hbackoff : calculateBackoff draw attempt retry.baseDelayMs retry.maxDelayMs with
  | error fault => simp [hbackoff, bind, Except.bind] at hround
  | ok backoffMs =>
      cases hnext : checkedSucc attempt <;> cases lastError <;>
        simp [hbackoff, hnext, bind, Except.bind, pure, Except.pure] at hround
      rw [← hround]

/-- **Each sleep is the backoff of its attempt**, by induction on the rounds. -/
theorem sleeps_retryLoop {pool : Pool C} (attempt : UInt32) (calls : ℕ)
    (lastError : Option E) :
    ∀ (k : ℕ) (ms : UInt64),
      (sleeps (retryLoop retry outcomes draws pool attempt calls lastError).events)[k]? =
        some ms →
      ∃ attempt' : UInt32, attempt'.toNat = attempt.toNat + k ∧
        attempt'.toNat < allowedRetries retry ∧
        calculateBackoff (draws (calls + k)) attempt' retry.baseDelayMs retry.maxDelayMs =
          .ok ms := by
  fun_induction retryLoop retry outcomes draws pool attempt calls lastError with
  | case1 attempt calls lastError _ client _ =>
      intro k ms hms
      exact absurd hms (by simp [Call.after, connected])
  | case2 attempt calls lastError _ why _ _ | case3 attempt calls lastError _ why _ _ _ =>
      intro k ms hms
      exact absurd hms (by simp [Call.after, giveUp])
  | case4 attempt calls lastError _ why _ _ _ fault _ =>
      intro k ms hms
      exact absurd hms (by simp)
  | case5 attempt calls lastError _ why _ henabled hmax backoffMs next hround ih =>
      intro k ms hms
      rw [Call.after, sleeps_append, sleeps_attempt_sleep] at hms
      cases k with
      | zero =>
          obtain rfl : backoffMs = ms := by simpa using hms
          have hlt : attempt.toNat < allowedRetries retry := by
            rw [allowedRetries, if_pos (by simpa using henabled)]
            exact UInt32.lt_iff_toNat_lt.mp (UInt32.not_le.mp hmax)
          exact ⟨attempt, rfl, hlt, backoff_of_nextRound hround⟩
      | succ k =>
          obtain ⟨attempt', hattempt', hlt, hbackoff⟩ := ih k ms (by simpa using hms)
          have hnext : next.toNat = attempt.toNat + 1 := toNat_of_nextRound hround
          refine ⟨attempt', by omega, hlt, ?_⟩
          rwa [Nat.add_right_comm, Nat.add_assoc] at hbackoff
  | case6 attempt calls lastError _ =>
      intro k ms hms
      exact absurd hms (by simp [giveUp, sleeps])

/-! ## The time slept -/

/-- The capped delay of the attempt with the number. -/
def cappedDelay (retry : KubeRetrySettings) (k : ℕ) : ℕ :=
  min retry.maxDelayMs.toNat (retry.baseDelayMs.toNat * 2 ^ k)

/-- **The sleeps of a call**, by number: there are no more than retries, and each is the
capped delay of its attempt and a quarter more at most. -/
theorem sleeps_client (settings : KubeSettings) (outcomes : ℕ → Except E C)
    (draws : ℕ → UInt64) (pool : Pool C) {k : ℕ} {ms : UInt64}
    (hms : (sleeps (client settings outcomes draws pool).events)[k]? = some ms) :
    k < allowedRetries settings.retry ∧ cappedDelay settings.retry k ≤ ms.toNat ∧
      4 * ms.toNat ≤ 5 * cappedDelay settings.retry k := by
  unfold client at hms
  cases hpool : pool.pooled with
  | some pooled => exact absurd hms (by simp [hpool, sleeps])
  | none =>
      rw [hpool] at hms
      obtain ⟨attempt, hattempt, hlt, hbackoff⟩ := sleeps_retryLoop 0 0 none k ms hms
      have hk : attempt.toNat = k := hattempt.trans (Nat.zero_add k)
      obtain ⟨ms', hms', hlower, hupper⟩ := exists_calculateBackoff (draws (0 + k)) attempt
        settings.retry.baseDelayMs settings.retry.maxDelayMs
      obtain rfl : ms = ms' := Except.ok.inj (hbackoff.symm.trans hms')
      rw [toNat_cappedBackoff, hk] at hlower hupper
      rw [hk] at hlt
      refine ⟨hlt, hlower, ?_⟩
      unfold cappedDelay
      omega

/-- The time slept is the sum of the sleeps by number. -/
theorem timeSlept_eq_sum (events : List Event) :
    timeSlept events = ∑ k : Fin (sleeps events).length, (sleeps events)[k].toNat := by
  rw [timeSlept, ← List.sum_ofFn]
  congr 1
  exact (List.ofFn_getElem_eq_map (sleeps events) UInt64.toNat).symm

/-- There are no more sleeps than retries. -/
theorem length_sleeps_le (settings : KubeSettings) (outcomes : ℕ → Except E C)
    (draws : ℕ → UInt64) (pool : Pool C) :
    (sleeps (client settings outcomes draws pool).events).length ≤
      allowedRetries settings.retry := by
  by_contra hmore
  exact absurd (sleeps_client settings outcomes draws pool
    (List.getElem?_eq_getElem (Nat.not_le.mp hmore))).1 (lt_irrefl _)

/-- The time slept is no more than the capped delays and a quarter. -/
theorem timeSlept_le_sum (settings : KubeSettings) (outcomes : ℕ → Except E C)
    (draws : ℕ → UInt64) (pool : Pool C) :
    4 * timeSlept (client settings outcomes draws pool).events ≤
      5 * ∑ k ∈ Finset.range (sleeps (client settings outcomes draws pool).events).length,
        cappedDelay settings.retry k := by
  rw [timeSlept_eq_sum, Finset.sum_range, Finset.mul_sum, Finset.mul_sum]
  exact Finset.sum_le_sum fun k _ => (sleeps_client settings outcomes draws pool
    (List.getElem?_eq_getElem k.isLt)).2.2

/-- However often a call retries, what it sleeps is bounded by the settings. -/
theorem timeSlept_le (settings : KubeSettings) (outcomes : ℕ → Except E C)
    (draws : ℕ → UInt64) (pool : Pool C) :
    4 * timeSlept (client settings outcomes draws pool).events ≤
      5 * (allowedRetries settings.retry * settings.retry.maxDelayMs.toNat) := by
  refine (timeSlept_le_sum settings outcomes draws pool).trans (Nat.mul_le_mul_left 5 ?_)
  calc ∑ k ∈ Finset.range (sleeps (client settings outcomes draws pool).events).length,
        cappedDelay settings.retry k
      ≤ (Finset.range (sleeps (client settings outcomes draws pool).events).length).card •
          settings.retry.maxDelayMs.toNat :=
        Finset.sum_le_card_nsmul _ _ _ fun k _ => Nat.min_le_left _ _
    _ = (sleeps (client settings outcomes draws pool).events).length *
          settings.retry.maxDelayMs.toNat := by rw [Finset.card_range, smul_eq_mul]
    _ ≤ allowedRetries settings.retry * settings.retry.maxDelayMs.toNat :=
        Nat.mul_le_mul_right _ (length_sleeps_le settings outcomes draws pool)

/-- **The time a call sleeps.**  The delays of a call are those of its retries, so the time
it sleeps is at least the sum of their capped delays and at most a quarter more; and however
often it retries, it is at most the number of retries allowed times the maximum and a
quarter of it. -/
theorem time_slept (settings : KubeSettings) (outcomes : ℕ → Except E C) (draws : ℕ → UInt64)
    (pool : Pool C) :
    let call := client settings outcomes draws pool
    let n := (sleeps call.events).length
    let total := ∑ k ∈ Finset.range n, cappedDelay settings.retry k
    n ≤ allowedRetries settings.retry ∧
      total ≤ timeSlept call.events ∧ 4 * timeSlept call.events ≤ 5 * total ∧
      4 * timeSlept call.events ≤
        5 * (allowedRetries settings.retry * settings.retry.maxDelayMs.toNat) := by
  intro call n total
  refine ⟨length_sleeps_le settings outcomes draws pool, ?_,
    timeSlept_le_sum settings outcomes draws pool, timeSlept_le settings outcomes draws pool⟩
  rw [timeSlept_eq_sum, show total = ∑ k : Fin n, cappedDelay settings.retry k from
    Finset.sum_range _]
  exact Finset.sum_le_sum fun k _ => (sleeps_client settings outcomes draws pool
    (List.getElem?_eq_getElem k.isLt)).2.1

/-- As long as the maximum is not reached, the delays double. -/
theorem sum_cappedDelay_of_le {n : ℕ}
    (huncapped : retry.baseDelayMs.toNat * 2 ^ n ≤ retry.maxDelayMs.toNat) :
    ∑ k ∈ Finset.range n, cappedDelay retry k = retry.baseDelayMs.toNat * (2 ^ n - 1) := by
  have hdelay : ∀ k ∈ Finset.range n,
      cappedDelay retry k = retry.baseDelayMs.toNat * 2 ^ k := by
    intro k hk
    refine Nat.min_eq_right (le_trans (Nat.mul_le_mul_left _ ?_) huncapped)
    exact Nat.pow_le_pow_right Nat.zero_lt_two (Finset.mem_range.mp hk).le
  rw [Finset.sum_congr rfl hdelay, ← Finset.mul_sum, Nat.geomSum_eq le_rfl]
  simp

end Delays

end EntityProvider.AxKube.Client
