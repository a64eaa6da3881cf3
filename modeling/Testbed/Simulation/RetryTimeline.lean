import Testbed.Lifecycle.Retry
import Testbed.Simulation.Clock

/-!
# Scripted attempts over time

Attempts that take given times and end in given ways, to be retried on a virtual clock.
-/
namespace Testbed.Simulation

/-- How an attempt goes when nothing comes in between. -/
structure ScriptedAttempt (α : Type) where
  delayMs : Nat
  outcome : Except String α

structure RetryTimeline (α : Type) where
  clock : Clock := {}
  /-- How the next attempts go; the last one of them is repeated. -/
  script : List (ScriptedAttempt α) := []
  /-- The attempts that were begun: their number and time. -/
  calls : List (UInt32 × Nat) := []
  retries : UInt64 := 0
  /-- Whether a count of attempts has left its word. -/
  overflowed : Bool := false

namespace RetryTimeline

variable {α : Type}

/-- Go on with the script. -/
def next (t : RetryTimeline α) : RetryTimeline α :=
  match t.script with
  | _ :: rest@(_ :: _) => { t with script := rest }
  | _ => t

/-- Wait until the end or until everything is cancelled, and tell whether the end was reached. -/
def wait (t : RetryTimeline α) (ms : Nat) : Bool × RetryTimeline α :=
  match span ms with
  | none => (true, t)
  | some ms =>
    let waited := t.clock.waitUnlessCancelled ms
    (waited.1, { t with clock := waited.2 })

/-- Go through one attempt. -/
def attempt (limit : Nat) (fallback : α) (n : UInt32) (t : RetryTimeline α) :
    Trial α × RetryTimeline α :=
  let begun := { t with calls := t.calls ++ [(n, t.clock.now)] }
  if t.clock.cancelled then (.cancelled, begun)
  else
    let scripted := t.script.head?.getD ⟨0, .ok fallback⟩
    match begun.next.wait (min scripted.delayMs limit) with
    | (false, t) => (.cancelled, t)
    | (true, t) =>
      if limit < scripted.delayMs then (.overdue, t)
      else match scripted.outcome with
        | .ok value => (.succeeded value, t)
        | .error reason => (.failed reason, t)

/-- Go through the pause before a retry, and tell whether it was cancelled. -/
def pause (ms : Nat) (t : RetryTimeline α) : Bool × RetryTimeline α :=
  if t.clock.cancelled then (true, t)
  else
    let waited := t.wait ms
    (!waited.1, waited.2)

/-- The scripted attempts, as something to retry; without a script they succeed with a value that is
given. -/
def steps (policy : ConnectPolicy) (fallback : α) : RetrySteps (StateM (RetryTimeline α)) α where
  attempt n := modifyGet (attempt policy.timeoutMs.toNat fallback n)
  retrying := modify (fun t => { t with retries := t.retries + 1 })
  pause ms := modifyGet (pause ms)
  overflow := modify (fun t => { t with overflowed := true })

end RetryTimeline

end Testbed.Simulation
