import Harvest.Failure.Action
import Harvest.Monitor

/-!
# Retrying single calls

A call that fails in a way that may pass is made again, within two budgets: so many tries in all, and
so many in a row that fail in the same way. A failure of another kind starts the second budget anew
and leaves the first one alone. Between tries there is a pause, which doubles from try to try up to a
limit; a cancellation ends it.
-/

namespace Harvest

/-- The budgets of a call and the pauses between its tries, in milliseconds. -/
structure RetryPolicy where
  /-- Tries in all, the first one included. -/
  maxAttempts : UInt32
  /-- Tries in a row that fail in the same way. -/
  maxConsecutive : UInt32
  backoffMs : UInt64
  maxBackoffMs : UInt64
deriving DecidableEq, Repr

namespace RetryPolicy

/-- The policy of a job that says nothing about it. -/
def standard : RetryPolicy := ⟨5, 3, 250, 5000⟩

/-- No pauses between tries. -/
def immediate : RetryPolicy := { standard with backoffMs := 0, maxBackoffMs := 0 }

/-- How often a pause doubles at most. -/
def maxDoublings : Nat := 16

/-- The pause after a try; tries count from one. -/
def backoff (p : RetryPolicy) (attempt : Nat) : Nat :=
  min (p.backoffMs.toNat <<< min (attempt - 1) maxDoublings) p.maxBackoffMs.toNat

/-- How many tries may follow the first one. -/
def extraTries (p : RetryPolicy) : Nat := p.maxAttempts.toNat - 1

end RetryPolicy

/-- Failures in a row that count as the same. -/
structure Streak where
  key : String
  length : Nat
deriving DecidableEq, Repr

/-- The streak that ends with a failure of the given key. -/
def Streak.extend (last : Option Streak) (key : String) : Streak :=
  match last with
  | some s => if s.key = key then ⟨key, s.length + 1⟩ else ⟨key, 1⟩
  | none => ⟨key, 1⟩

/-- Calls under a policy. -/
structure Retrying (m : Type → Type) where
  policy : RetryPolicy
  monitor : Monitor m

namespace Retrying

variable {m : Type → Type} [Monad m] {α : Type}

/-- Waits before the next try; `true` if the crawl was cancelled meanwhile. No time at all is no
wait. -/
def wait (r : Retrying m) (delay : Nat) : m Bool :=
  if delay = 0 then pure false else r.monitor.pause delay

/-- Makes the call, the try `attempt`, with `left` more to follow at most. The last failure is
handed on as it is. -/
def tryFrom (r : Retrying m) (operation : String) (call : Action m α) :
    (left attempt : Nat) → Option Streak → Action m α
  | left, attempt, last => ExceptT.mk do
    if ← r.monitor.isCancelled then return .error .cancelled
    match ← call.run with
    | .ok a => return .ok a
    | .error f =>
      let record := FailedTry.new operation (.ofFailure f) attempt
      if record.faultClass ≠ .retryable then return .error f
      let streak := Streak.extend last record.key
      match left with
      | 0 => return .error f
      | left + 1 =>
        if r.policy.maxConsecutive.toNat ≤ streak.length then return .error f
        let delay := r.policy.backoff attempt
        r.monitor.warn (.retrying record streak.length delay)
        if ← r.wait delay then return .error .cancelled
        (tryFrom r operation call left (attempt + 1) (some streak)).run

/-- Makes a call until it succeeds, fails for good, or a budget is spent. -/
def run (r : Retrying m) (operation : String) (call : Action m α) : Action m α :=
  r.tryFrom operation call r.policy.extraTries 1 none

end Retrying

end Harvest
