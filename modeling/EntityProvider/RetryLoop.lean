import EntityProvider.Backoff
import Mathlib.Data.List.Basic

/-!
# How often the client connects

`client` tries to connect until an attempt succeeds, an attempt fails with retries disabled,
or the retries are used up.  `AllowedAttempts` is what this should come to for any sequence
of outcomes: with `n` retries allowed, the attempts end with the first success or with the
one that has number `n`, there is one sleep between each two of them, and the call returns
what the last one ended in.

One round of the loop with retries left is an attempt and a sleep (`retryLoop_of_retry`); by
induction so are all rounds whose attempts fail (`retryLoop_of_failures`), and the last round
is an attempt only.  The counter never overflows, as it stays below the number of retries.
-/

namespace EntityProvider.AxKube.Client

open Library
open EntityProvider.Configuration (KubeSettings KubeRetrySettings)

/-! ## What the retries should come to -/

/-- How many times a failed attempt may be repeated. -/
def allowedRetries (retry : KubeRetrySettings) : ℕ :=
  if retry.enabled then retry.maxRetries.toNat else 0

/-- The number of attempts. -/
def attempts (events : List Event) : ℕ := events.count .attempt

/-- Attempts, with a sleep after each. -/
def failedRounds (delays : List UInt64) : List Event :=
  delays.flatMap fun ms => [.attempt, .sleep ms]

/-- Attempts, with one sleep between each two of them. -/
def spaced (delays : List UInt64) : List Event := failedRounds delays ++ [.attempt]

theorem attempts_spaced (delays : List UInt64) :
    attempts (spaced delays) = delays.length + 1 := by
  have hrounds : (failedRounds delays).count .attempt = delays.length := by
    induction delays with
    | nil => rfl
    | cons ms delays ih =>
        rw [failedRounds, List.flatMap_cons, List.count_append, List.length_cons,
          Nat.add_comm]
        exact congrArg (· + 1) ih
  rw [attempts, spaced, List.count_append, hrounds]
  rfl

section Retries

variable {C E : Type}

/-- Is the attempt with the number the first one that succeeds? -/
structure FirstSuccess (outcomes : ℕ → Except E C) (i : ℕ) (client : C) : Prop where
  success : outcomes i = .ok client
  first : ∀ j < i, ∃ why, outcomes j = .error why

/-- An attempt that succeeds does not fail. -/
theorem FirstSuccess.not_fails {outcomes : ℕ → Except E C} {i : ℕ} {client : C}
    (hfirst : FirstSuccess outcomes i client) : ¬ ∃ why, outcomes i = .error why := by
  rintro ⟨why, hwhy⟩
  exact absurd (hfirst.success.symm.trans hwhy) (by simp)

/-- **A call makes exactly the allowed attempts.** -/
structure AllowedAttempts (retry : KubeRetrySettings) (outcomes : ℕ → Except E C)
    (call : Call C E C) : Prop where
  /-- One sleep between two attempts. -/
  spaced : ∃ delays, call.events = spaced delays
  /-- The first success ends the attempts, unless they end before. -/
  counted : ∀ i client, FirstSuccess outcomes i client →
    attempts call.events = min i (allowedRetries retry) + 1
  succeeded : ∀ i client, FirstSuccess outcomes i client → i ≤ allowedRetries retry →
    call.ending = .ok client
  /-- Without a success in time the call fails like the last attempt. -/
  exhausted : (∀ j ≤ allowedRetries retry, ∃ why, outcomes j = .error why) →
    attempts call.events = allowedRetries retry + 1 ∧
      ∀ why, outcomes (allowedRetries retry) = .error why → call.ending = .err (.create why)
  /-- The call neither panics nor lacks an error to return. -/
  safe : (∃ client, call.ending = .ok client) ∨ ∃ why, call.ending = .err (.create why)

/-- Within a number of attempts, one is the first success or all fail. -/
theorem firstSuccess_or_fails (outcomes : ℕ → Except E C) (n : ℕ) :
    (∃ i ≤ n, ∃ client, FirstSuccess outcomes i client) ∨
      ∀ j ≤ n, ∃ why, outcomes j = .error why := by
  induction n with
  | zero =>
      cases hzero : outcomes 0 with
      | ok client =>
          exact Or.inl ⟨0, le_rfl, client, hzero, fun j hj => absurd hj j.not_lt_zero⟩
      | error why =>
          exact Or.inr fun j hj => ⟨why, by rwa [Nat.le_zero.mp hj]⟩
  | succ n ih =>
      rcases ih with ⟨i, hi, hfirst⟩ | hfails
      · exact Or.inl ⟨i, hi.trans n.le_succ, hfirst⟩
      · cases hnext : outcomes (n + 1) with
        | ok client =>
            exact Or.inl ⟨n + 1, le_rfl, client, hnext,
              fun j hj => hfails j (Nat.lt_succ_iff.mp hj)⟩
        | error why =>
            refine Or.inr fun j hj => ?_
            rcases Nat.le_succ_iff.mp hj with hold | rfl
            · exact hfails j hold
            · exact ⟨why, hnext⟩

/-! ## One round -/

theorem allowedRetries_le (retry : KubeRetrySettings) :
    allowedRetries retry ≤ retry.maxRetries.toNat := by
  unfold allowedRetries
  split
  · exact le_rfl
  · exact Nat.zero_le _

/-- Between two attempts nothing can go wrong. -/
theorem exists_nextRound (retry : KubeRetrySettings) (draw : UInt64) {attempt : UInt32}
    (why : E) (hlt : attempt < retry.maxRetries) :
    ∃ round, nextRound retry draw attempt (some why) = .ok round := by
  obtain ⟨ms, hms, -⟩ := exists_calculateBackoff draw attempt retry.baseDelayMs
    retry.maxDelayMs
  obtain ⟨next, hnext⟩ := exists_checkedSucc hlt
  refine ⟨(ms, next), ?_⟩
  simp [nextRound, hms, hnext, bind, Except.bind, pure, Except.pure]

variable {retry : KubeRetrySettings} {outcomes : ℕ → Except E C} {draws : ℕ → UInt64}
  {pool : Pool C} {attempt : UInt32} {calls : ℕ} {lastError : Option E}

/-- The round of a success. -/
theorem retryLoop_of_ok {client : C} (hguard : attempt.toNat ≤ allowedRetries retry)
    (hok : outcomes calls = .ok client) :
    retryLoop retry outcomes draws pool attempt calls lastError =
      (connected client pool).after [.attempt] := by
  have hle := UInt32.le_iff_toNat_le.mpr (hguard.trans (allowedRetries_le retry))
  rw [retryLoop, dif_pos hle, hok]

/-- The round of a failure with no retries left. -/
theorem retryLoop_of_last {why : E} (hlast : attempt.toNat = allowedRetries retry)
    (herror : outcomes calls = .error why) :
    retryLoop retry outcomes draws pool attempt calls lastError =
      (giveUp (some why) pool).after [.attempt] := by
  have hle := UInt32.le_iff_toNat_le.mpr (hlast.le.trans (allowedRetries_le retry))
  rw [retryLoop, dif_pos hle, herror]
  dsimp only
  by_cases henabled : retry.enabled = true
  · have hmax : retry.maxRetries ≤ attempt := by
      rw [UInt32.le_iff_toNat_le, hlast, allowedRetries, if_pos henabled]
    rw [if_neg (by simp [henabled]), if_pos hmax]
  · rw [if_pos (by simpa using henabled)]

/-- **A round with retries left**: a failed attempt, a sleep, and the rest of the loop. -/
theorem retryLoop_of_retry {why : E} (hlt : attempt.toNat < allowedRetries retry)
    (herror : outcomes calls = .error why) :
    ∃ ms next, next.toNat = attempt.toNat + 1 ∧
      retryLoop retry outcomes draws pool attempt calls lastError =
        (retryLoop retry outcomes draws pool next (calls + 1) (some why)).after
          [.attempt, .sleep ms] := by
  have hmax : attempt < retry.maxRetries :=
    UInt32.lt_iff_toNat_lt.mpr (hlt.trans_le (allowedRetries_le retry))
  have henabled : ¬ retry.enabled = false := by
    intro hdisabled
    simp [allowedRetries, hdisabled] at hlt
  obtain ⟨⟨ms, next⟩, hround⟩ := exists_nextRound retry (draws calls) why hmax
  refine ⟨ms, next, toNat_of_nextRound hround, ?_⟩
  rw [retryLoop, dif_pos (UInt32.le_of_lt hmax), herror]
  dsimp only
  rw [if_neg henabled, if_neg (UInt32.not_le.mpr hmax)]
  split
  next fault hfault => exact absurd (hround.symm.trans hfault) (by simp)
  next ms' next' hround' =>
    obtain ⟨rfl, rfl⟩ := Prod.mk.inj (Except.ok.inj (hround.symm.trans hround'))
    rfl

/-! ## All rounds -/

theorem after_after (events later : List Event) (call : Call C E C) :
    (call.after later).after events = call.after (events ++ later) := by
  simp [Call.after]

/-- **The rounds that fail**, as long as there are retries for them. -/
theorem retryLoop_of_failures (n : ℕ) :
    ∀ (attempt : UInt32) (calls : ℕ) (lastError : Option E),
      attempt.toNat + n ≤ allowedRetries retry →
      (∀ j < n, ∃ why, outcomes (calls + j) = .error why) →
      ∃ (delays : List UInt64) (attempt' : UInt32) (lastError' : Option E),
        delays.length = n ∧ attempt'.toNat = attempt.toNat + n ∧
        retryLoop retry outcomes draws pool attempt calls lastError =
          (retryLoop retry outcomes draws pool attempt' (calls + n) lastError').after
            (failedRounds delays) := by
  induction n with
  | zero =>
      intro attempt calls lastError _ _
      exact ⟨[], attempt, lastError, rfl, rfl, rfl⟩
  | succ n ih =>
      intro attempt calls lastError hallowed hfails
      obtain ⟨why, hwhy⟩ := hfails 0 n.succ_pos
      obtain ⟨ms, next, hnext, hround⟩ := @retryLoop_of_retry _ _ retry outcomes draws pool
        attempt calls lastError why (by omega) hwhy
      obtain ⟨delays, attempt', lastError', hlength, hattempt', hrest⟩ :=
        ih next (calls + 1) (some why) (by omega)
          (fun j hj => by rw [Nat.add_right_comm]; exact hfails (j + 1) (by omega))
      refine ⟨ms :: delays, attempt', lastError', by rw [List.length_cons, hlength],
        by omega, ?_⟩
      rw [hround, hrest, after_after, failedRounds, failedRounds, List.flatMap_cons,
        Nat.add_right_comm, Nat.add_assoc]

/-- The loop from its start, up to the attempt that ends it. -/
theorem retryLoop_start {i : ℕ} (hallowed : i ≤ allowedRetries retry)
    (hfails : ∀ j < i, ∃ why, outcomes j = .error why) :
    ∃ (delays : List UInt64) (attempt' : UInt32) (lastError' : Option E),
      delays.length = i ∧ attempt'.toNat = i ∧
      retryLoop retry outcomes draws pool 0 0 none =
        (retryLoop retry outcomes draws pool attempt' i lastError').after
          (failedRounds delays) := by
  have hzero : (0 : UInt32).toNat = 0 := rfl
  obtain ⟨delays, attempt', lastError', hlength, hattempt', hrounds⟩ :=
    @retryLoop_of_failures _ _ retry outcomes draws pool i 0 0 none
      (by rwa [hzero, Nat.zero_add]) (by simpa using hfails)
  rw [hzero, Nat.zero_add] at hattempt'
  rw [Nat.zero_add] at hrounds
  exact ⟨delays, attempt', lastError', hlength, hattempt', hrounds⟩

/-- **The loop ends with the first success**, if retries are left for it. -/
theorem retryLoop_of_firstSuccess {i : ℕ} {client : C}
    (hallowed : i ≤ allowedRetries retry) (hfirst : FirstSuccess outcomes i client) :
    ∃ delays : List UInt64, delays.length = i ∧ retryLoop retry outcomes draws pool 0 0 none =
      (connected client pool).after (spaced delays) := by
  obtain ⟨delays, attempt', lastError', hlength, hattempt', hrounds⟩ :=
    @retryLoop_start _ _ retry outcomes draws pool i hallowed hfirst.first
  refine ⟨delays, hlength, ?_⟩
  rw [hrounds, retryLoop_of_ok (by rwa [hattempt']) hfirst.success, after_after]
  rfl

/-- **The loop ends with the last failure**, if all that are allowed fail. -/
theorem retryLoop_of_fails {why : E}
    (hfails : ∀ j ≤ allowedRetries retry, ∃ why, outcomes j = .error why)
    (hlast : outcomes (allowedRetries retry) = .error why) :
    ∃ delays : List UInt64, delays.length = allowedRetries retry ∧
      retryLoop retry outcomes draws pool 0 0 none =
        (giveUp (some why) pool).after (spaced delays) := by
  obtain ⟨delays, attempt', lastError', hlength, hattempt', hrounds⟩ :=
    @retryLoop_start _ _ retry outcomes draws pool _ le_rfl (fun j hj => hfails j hj.le)
  refine ⟨delays, hlength, ?_⟩
  rw [hrounds, retryLoop_of_last hattempt' hlast, after_after]
  rfl

/-- **A call without a pooled client** makes its attempts, and ends with a client or with the
error of the last one. -/
theorem client_cases (settings : KubeSettings) (outcomes : ℕ → Except E C)
    (draws : ℕ → UInt64)
    {pool : Pool C} (hpool : pool.pooled = none) :
    (∃ delays connection, client settings outcomes draws pool =
        (connected connection pool).after (spaced delays)) ∨
      ∃ delays why, client settings outcomes draws pool =
        (giveUp (some why) pool).after (spaced delays) := by
  rw [client, hpool]
  rcases firstSuccess_or_fails outcomes (allowedRetries settings.retry) with
    ⟨i, hallowed, connection, hfirst⟩ | hfails
  · obtain ⟨delays, -, hloop⟩ :=
      @retryLoop_of_firstSuccess _ _ _ _ draws pool _ _ hallowed hfirst
    exact Or.inl ⟨delays, connection, hloop⟩
  · obtain ⟨why, hlast⟩ := hfails _ le_rfl
    obtain ⟨delays, -, hloop⟩ := @retryLoop_of_fails _ _ _ _ draws pool _ hfails hlast
    exact Or.inr ⟨delays, why, hloop⟩

/-- The first success is one number only. -/
theorem FirstSuccess.unique {i j : ℕ} {client client' : C}
    (hi : FirstSuccess outcomes i client) (hj : FirstSuccess outcomes j client') :
    i = j ∧ client = client' := by
  have hnot : ∀ {i j : ℕ} {client client' : C}, FirstSuccess outcomes i client →
      FirstSuccess outcomes j client' → ¬ i < j := by
    intro i j client client' hi hj hlt
    exact hi.not_fails (hj.first i hlt)
  obtain rfl : i = j := Nat.le_antisymm (Nat.le_of_not_lt (hnot hj hi))
    (Nat.le_of_not_lt (hnot hi hj))
  exact ⟨rfl, Except.ok.inj (hi.success.symm.trans hj.success)⟩

/-! ## The number of attempts -/

/-- The attempts are as many as allowed if one of them succeeds. -/
theorem allowedAttempts_of_firstSuccess {i : ℕ} {connection : C}
    (hallowed : i ≤ allowedRetries retry) (hfirst : FirstSuccess outcomes i connection) :
    AllowedAttempts retry outcomes (retryLoop retry outcomes draws pool 0 0 none) := by
  obtain ⟨delays, hlength, hloop⟩ :=
    @retryLoop_of_firstSuccess _ _ _ _ draws pool _ _ hallowed hfirst
  rw [hloop]
  have hevents : ((connected connection pool : Call C E C).after (spaced delays)).events =
      spaced delays := List.append_nil _
  refine ⟨⟨delays, hevents⟩, fun i' client' hfirst' => ?_, fun i' client' hfirst' _ => ?_,
    fun hfails => ?_, Or.inl ⟨connection, rfl⟩⟩
  · obtain ⟨rfl, -⟩ := hfirst.unique hfirst'
    rw [hevents, attempts_spaced, hlength, Nat.min_eq_left hallowed]
  · obtain ⟨-, rfl⟩ := hfirst.unique hfirst'
    rfl
  · exact absurd (hfails i hallowed) hfirst.not_fails

/-- The attempts are as many as allowed if all of them fail. -/
theorem allowedAttempts_of_fails
    (hfails : ∀ j ≤ allowedRetries retry, ∃ why, outcomes j = .error why) :
    AllowedAttempts retry outcomes (retryLoop retry outcomes draws pool 0 0 none) := by
  obtain ⟨why, hlast⟩ := hfails _ le_rfl
  obtain ⟨delays, hlength, hloop⟩ := @retryLoop_of_fails _ _ _ _ draws pool _ hfails hlast
  rw [hloop]
  have hevents : ((giveUp (some why) pool).after (spaced delays)).events = spaced delays :=
    List.append_nil _
  have hlate : ∀ {i client}, FirstSuccess outcomes i client → allowedRetries retry < i := by
    intro i client hfirst
    by_contra hnot
    exact hfirst.not_fails (hfails i (Nat.le_of_not_lt hnot))
  refine ⟨⟨delays, hevents⟩, fun i client hfirst => ?_, fun i client hfirst hallowed => ?_,
    fun _ => ⟨?_, fun why' hwhy' => ?_⟩, Or.inr ⟨why, rfl⟩⟩
  · rw [hevents, attempts_spaced, hlength, Nat.min_eq_right (hlate hfirst).le]
  · exact absurd hallowed (Nat.not_le.mpr (hlate hfirst))
  · rw [hevents, attempts_spaced, hlength]
  · obtain rfl := Except.error.inj (hlast.symm.trans hwhy')
    rfl

/-- **The retry loop makes exactly the allowed attempts**, unless a client is pooled. -/
theorem client_allowedAttempts (settings : KubeSettings) (outcomes : ℕ → Except E C)
    (draws : ℕ → UInt64) {pool : Pool C} (hpool : pool.pooled = none) :
    AllowedAttempts settings.retry outcomes (client settings outcomes draws pool) := by
  have hclient : client settings outcomes draws pool =
      retryLoop settings.retry outcomes draws pool 0 0 none := by
    rw [client, hpool]
  rw [hclient]
  rcases firstSuccess_or_fails outcomes (allowedRetries settings.retry) with
    ⟨i, hallowed, connection, hfirst⟩ | hfails
  · exact allowedAttempts_of_firstSuccess hallowed hfirst
  · exact allowedAttempts_of_fails hfails

end Retries

/-- A cluster that is reached at the second attempt. -/
def reachedLate (call : ℕ) : Except String ℕ :=
  if call = 0 then .error "refused" else .ok call

theorem client_allowedAttempts_reachedLate :
    AllowedAttempts Configuration.Settings.bare.kube.retry reachedLate
      (client Configuration.Settings.bare.kube reachedLate (fun _ => 0) .unset) :=
  client_allowedAttempts _ _ _ rfl

end EntityProvider.AxKube.Client
