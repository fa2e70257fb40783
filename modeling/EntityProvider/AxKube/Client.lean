import EntityProvider.Configuration
import EntityProvider.Library.Saturating

/-!
# The Kubernetes client

`ax_kube/client.rs`: the global client, the retries of a connection that fails, and the
delays between them.  A connection attempt ends in a client or in an error that is not
inspected; what the attempts of one call end in is given as a sequence, and so are the
numbers that the random generator draws.

The global client is a cell that can be set once, with an optional client behind a mutex in
it.  No code panics while it holds the mutex, so the mutex is never poisoned, and its lock is
left out.  Everywhere else where the code may panic it says so: `Fault`.
-/

namespace EntityProvider.AxKube.Client

open Library
open EntityProvider.Configuration (KubeSettings KubeRetrySettings)

/-- Why a call would panic, one case for each place in the code that could. -/
inductive Fault where
  /-- `random_range` over an empty range. -/
  | emptyRange
  /-- Adding one to `u32::MAX`. -/
  | overflow
  /-- `unwrap` of the last error where none was recorded. -/
  | noLastError
  deriving DecidableEq, Repr

/-! ## Backoff -/

/-- `random_range(lo..hi)`, by what the generator draws: it panics on an empty range, and
stays below the upper bound on any other. -/
def randomRange (draw lo hi : UInt64) : Except Fault UInt64 :=
  if lo < hi then .ok (lo + draw % (hi - lo)) else .error .emptyRange

/-- `capped_backoff` of `calculate_backoff`: the exponential delay, cut off at the maximum. -/
def cappedBackoff (attempt : UInt32) (baseDelayMs maxDelayMs : UInt64) : UInt64 :=
  let expBackoff := saturatingMul baseDelayMs (saturatingPow 2 attempt.toNat)
  min expBackoff maxDelayMs

/-- `jitter_range` of `calculate_backoff`: a quarter of the delay, and not zero. -/
def jitterRange (cappedBackoff : UInt64) : UInt64 := max (cappedBackoff / 4) 1

/-- `calculate_backoff`: the capped delay, and on top of it a number drawn from the jitter
range. -/
def calculateBackoff (draw : UInt64) (attempt : UInt32) (baseDelayMs maxDelayMs : UInt64) :
    Except Fault UInt64 := do
  let capped := cappedBackoff attempt baseDelayMs maxDelayMs
  let jitter ← randomRange draw 0 (jitterRange capped)
  return saturatingAdd capped jitter

/-! ## Calls -/

/-- The errors a call returns: those it has from the attempts, and those it makes itself. -/
inductive ClientError (E : Type) where
  /-- What a connection attempt failed with. -/
  | create (why : E)
  /-- `KubernetesError::connection`. -/
  | connection (message : String)
  deriving DecidableEq, Repr

/-- How a call ends: with a value, an error, or a panic. -/
inductive Ending (E V : Type) where
  | ok (value : V)
  | err (why : ClientError E)
  | panicked (fault : Fault)
  deriving DecidableEq, Repr

/-- What a call does on the way: it tries to connect, or it sleeps. -/
inductive Event where
  | attempt
  | sleep (ms : UInt64)
  deriving DecidableEq, Repr

/-- `KUBE_CLIENT`: not set, or a cell that holds a client or nothing. -/
inductive Pool (C : Type) where
  | unset
  | cell (client : Option C)
  deriving DecidableEq, Repr

/-- The client in the pool, if there is one.  An emptied cell has none, like one that was
never set. -/
def Pool.pooled {C : Type} : Pool C → Option C
  | .unset => none
  | .cell client => client

/-- A call: its events in order, how it ends, and the pool it leaves to the next one. -/
structure Call (C E V : Type) where
  events : List Event
  ending : Ending E V
  pool : Pool C
  deriving DecidableEq, Repr

section Calls

variable {C E V : Type}

/-- A call that did something before: the same end, behind more events. -/
def Call.after (events : List Event) (call : Call C E V) : Call C E V :=
  { call with events := events ++ call.events }

/-! ## Retries -/

/-- The end of `client` after the loop: the last error, if one was recorded. -/
def giveUp (lastError : Option E) (pool : Pool C) : Call C E C where
  events := []
  ending :=
    match lastError with
    | some why => .err (.create why)
    | none =>
        .err (.connection
          "Failed to create Kubernetes client and no specific error was recorded")
  pool := pool

/-- `client`, where an attempt has succeeded: the client is pooled if the cell is not set. -/
def connected (client : C) (pool : Pool C) : Call C E C where
  events := []
  ending := .ok client
  pool :=
    match pool with
    | .unset => .cell (some client)
    | .cell pooled => .cell pooled

/-- The steps of the loop between a failed attempt and the next one: the delay of the sleep,
and the number of the next attempt. -/
def nextRound (retry : KubeRetrySettings) (draw : UInt64) (attempt : UInt32)
    (lastError : Option E) : Except Fault (UInt64 × UInt32) := do
  let backoffMs ← calculateBackoff draw attempt retry.baseDelayMs retry.maxDelayMs
  -- the warning shows the attempts so far, and the error
  let _shown ← (checkedSucc attempt).elim (.error .overflow) Except.ok
  let _why ← lastError.elim (.error .noLastError) Except.ok
  let next ← (checkedSucc attempt).elim (.error .overflow) Except.ok
  return (backoffMs, next)

theorem toNat_of_nextRound {retry : KubeRetrySettings} {draw : UInt64} {attempt : UInt32}
    {lastError : Option E} {round : UInt64 × UInt32}
    (hround : nextRound retry draw attempt lastError = .ok round) :
    round.2.toNat = attempt.toNat + 1 := by
  unfold nextRound at hround
  cases hbackoff : calculateBackoff draw attempt retry.baseDelayMs retry.maxDelayMs with
  | error fault => simp [hbackoff, bind, Except.bind] at hround
  | ok backoffMs =>
      cases hnext : checkedSucc attempt with
      | none => simp [hbackoff, hnext, bind, Except.bind] at hround
      | some next =>
          cases lastError with
          | none => simp [hbackoff, hnext, bind, Except.bind] at hround
          | some why =>
              obtain rfl : (backoffMs, next) = round := by
                simpa [hbackoff, hnext, bind, Except.bind, pure, Except.pure] using hround
              exact toNat_of_checkedSucc hnext

/-- The loop of `client`, from the attempt with the given number on; `calls` attempts were
made before. -/
def retryLoop (retry : KubeRetrySettings) (outcomes : ℕ → Except E C) (draws : ℕ → UInt64)
    (pool : Pool C) (attempt : UInt32) (calls : ℕ) (lastError : Option E) : Call C E C :=
  if _hguard : attempt ≤ retry.maxRetries then
    match outcomes calls with
    | .ok client => (connected client pool).after [.attempt]
    | .error why =>
        if retry.enabled = false then (giveUp (some why) pool).after [.attempt]
        else if retry.maxRetries ≤ attempt then (giveUp (some why) pool).after [.attempt]
        else
          match hround : nextRound retry (draws calls) attempt (some why) with
          | .error fault => ⟨[.attempt], .panicked fault, pool⟩
          | .ok (backoffMs, next) =>
              (retryLoop retry outcomes draws pool next (calls + 1) (some why)).after
                [.attempt, .sleep backoffMs]
  else giveUp lastError pool
termination_by retry.maxRetries.toNat + 1 - attempt.toNat
decreasing_by
  have hnext := toNat_of_nextRound hround
  have hle := UInt32.le_iff_toNat_le.mp _hguard
  simp only at hnext
  omega

/-! ## The three operations -/

/-- `client`: the client of the pool if it has one, which costs no attempt; else the loop,
from attempt zero on. -/
def client (settings : KubeSettings) (outcomes : ℕ → Except E C) (draws : ℕ → UInt64)
    (pool : Pool C) : Call C E C :=
  match pool.pooled with
  | some client => ⟨[], .ok client, pool⟩
  | none => retryLoop settings.retry outcomes draws pool 0 0 none

/-- `initialize`, with what its one attempt ends in. -/
def initializeClient (outcome : Except E C) (pool : Pool C) : Call C E Unit :=
  match outcome with
  | .error why => ⟨[.attempt], .err (.create why), pool⟩
  | .ok client =>
      match pool with
      | .unset => ⟨[.attempt], .ok (), .cell (some client)⟩
      | .cell pooled =>
          ⟨[.attempt], .err (.connection "Failed to initialize Kubernetes client"),
            .cell pooled⟩

/-- `cleanup`: a cell that is set is emptied.  It stays set, so nothing is put into it
again. -/
def cleanup (pool : Pool C) : Call C E Unit where
  events := []
  ending := .ok ()
  pool :=
    match pool with
    | .unset => .unset
    | .cell _ => .cell none

end Calls

end EntityProvider.AxKube.Client
