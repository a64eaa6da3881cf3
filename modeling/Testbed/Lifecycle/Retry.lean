import Testbed.Lifecycle.Config

/-!
# Retrying

An operation is tried until it succeeds, the retries are used up, or the whole work is cancelled.
The pause before each retry is twice as long as the one before it, up to a limit.
-/
namespace Testbed

/-- How one attempt ends. -/
inductive Trial (α : Type) where
  | succeeded (value : α)
  | failed (reason : String)
  | overdue
  | cancelled
  deriving DecidableEq

/-- A value and the number of attempts that it took. -/
structure Attempted (α : Type) where
  value : α
  attempts : UInt32
  deriving DecidableEq

inductive RetryError where
  /-- Every attempt failed; the reason is that of the last one. -/
  | exhausted (attempts : UInt32) (reason : String)
  | cancelled
  deriving DecidableEq

/-- What retrying needs from its surroundings. -/
structure RetrySteps (m : Type → Type) (α : Type) where
  /-- Make the attempt of a number, the first one being number 1. -/
  attempt : UInt32 → m (Trial α)
  /-- Take note of a retry. -/
  retrying : m Unit
  /-- Let milliseconds pass, and tell whether the work was cancelled meanwhile. -/
  pause : Nat → m Bool
  /-- Take note of a count that has left its word. -/
  overflow : m Unit

namespace ConnectPolicy

/-- The pause after an attempt, in milliseconds; it fits into 64 bits. -/
def backoff (p : ConnectPolicy) (attempt : UInt32) : Nat :=
  min (p.backoffBaseMs.toNat * Nat.pow 2 (min (attempt.toNat - 1) 16)) 0xffffffffffffffff

/-- The reason of an attempt that took too long. -/
def overdueReason (p : ConnectPolicy) : String :=
  s!"attempt timed out after {p.timeoutMs.toNat}ms"

end ConnectPolicy

variable {m : Type → Type} [Monad m] {α : Type}

/-- The sum of two counts in a word of 32 bits. One that does not fit is taken note of: with checked
sums everything ends there, else it goes on with what the word holds of it. -/
def addCounts (overflow : m Unit) (a b : UInt32) : m UInt32 :=
  if a.toNat + b.toNat < UInt32.size then return a + b
  else do
    overflow
    return a + b

theorem addCounts_of_fits {overflow : m Unit} {a b : UInt32}
    (fits : a.toNat + b.toNat < UInt32.size) : addCounts overflow a b = pure (a + b) :=
  if_pos fits

/-- Make the attempt of a number and go on after it when it failed, for whatever reason. -/
def tryOnce (policy : ConnectPolicy) (steps : RetrySteps m α) (attempt : UInt32)
    (afterFailure : (reason : String) → m (Except RetryError (Attempted α))) :
    m (Except RetryError (Attempted α)) := do
  match ← steps.attempt attempt with
  | .succeeded value => return .ok ⟨value, attempt⟩
  | .cancelled => return .error .cancelled
  | .failed reason => afterFailure reason
  | .overdue => afterFailure policy.overdueReason

/-- Make the attempt of a number and, while they fail, at most so many after it. -/
def retryFrom (policy : ConnectPolicy) (steps : RetrySteps m α) (attempt : UInt32) :
    (retries : Nat) → m (Except RetryError (Attempted α))
  | 0 => tryOnce policy steps attempt (fun reason => return .error (.exhausted attempt reason))
  | retries + 1 => tryOnce policy steps attempt (fun _ => do
    steps.retrying
    if ← steps.pause (policy.backoff attempt) then return .error .cancelled
    else retryFrom policy steps (← addCounts steps.overflow attempt 1) retries)

/-- Try until an attempt succeeds, there is no retry left, or the work is cancelled. The number of
attempts that are allowed comes first. When it does not fit into its word, nothing is left of it, so
that the first attempt is the last one if there is any. -/
def retry (policy : ConnectPolicy) (steps : RetrySteps m α) :
    m (Except RetryError (Attempted α)) := do
  let allowed ← addCounts steps.overflow policy.maxRetries 1
  retryFrom policy steps 1 (allowed.toNat - 1)

end Testbed
