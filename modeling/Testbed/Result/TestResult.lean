import Testbed.Event
import Testbed.Message.Basic

/-!
# Test results

One invocation of a test case. Its clock starts when it is running and stops at the first terminal
status; readings of the clock are given by the caller, in nanoseconds.
-/
namespace Testbed

/-- How changing a result fails. -/
inductive ResultError where
  | invalidTransition (name : String) (current next : TestStatus)
  deriving DecidableEq

/-- The wording of a result error. -/
def ResultError.message : ResultError → String
  | invalidTransition name current next =>
    s!"test result {name}: invalid transition {current.name} -> {next.name}"

structure TestResult where
  id : String
  name : String
  suiteName : String := ""
  message : String := ""
  stacktrace : Option String := none
  information : Facts := ∅
  status : TestStatus := .queued
  /-- Whether the one step back to the queue has been taken. -/
  requeued : Bool := false
  /-- The facts of the environment that the result is assigned to. -/
  environment : Option Facts := none
  /-- When the result was last set running. -/
  started : Option Nat := none
  /-- The time spent running, once it is over. -/
  spent : Option Nat := none
  deriving DecidableEq

namespace TestResult

/-- Move to a status and record a message. -/
def setStatus (r : TestResult) (now : Nat) (next : TestStatus) (message : String) :
    Except ResultError (TestResult × Event) :=
  if !r.status.canBecome r.requeued next then .error (.invalidTransition r.name r.status next)
  else
    let requeuing := r.status = .assigned ∧ next = .queued
    let started := if next = .running then some now else r.started
    .ok ({ r with
      requeued := r.requeued || requeuing
      environment := if requeuing then none else r.environment
      started
      spent := if next.isCompleted then some (started.elim 0 (now - ·)) else r.spent
      status := next
      message },
      .resultStatusChanged r.id r.name r.status next)

/-- Move through statuses at one moment, each with the same message. -/
def setStatuses (r : TestResult) (now : Nat) (message : String) :
    List TestStatus → Except ResultError TestResult
  | [] => .ok r
  | next :: rest => do
    let (r, _) ← r.setStatus now next message
    r.setStatuses now message rest

def setEnvironment (r : TestResult) (metadata : Facts) : TestResult :=
  { r with environment := some metadata }

/-- The time spent running, in nanoseconds; it stands still once the result is completed. -/
def elapsed (r : TestResult) (now : Nat) : Nat :=
  match r.spent, r.started with
  | some spent, _ => spent
  | none, some started => now - started
  | none, none => 0

/-- The time spent running, in seconds: the whole seconds and the part of one are each rounded
before they are added up. -/
def elapsedSeconds (r : TestResult) (now : Nat) : Binary64 :=
  let seconds := Binary64.ofNat (r.elapsed now / 1000000000)
  let part := (Binary64.ofNat (r.elapsed now % 1000000000)).div (.ofNat 1000000000)
  seconds.add part

/-- The name, after the name of the suite when there is one. -/
def fullName (r : TestResult) : String :=
  if r.suiteName.isEmpty then r.name else r.suiteName ++ "." ++ r.name

/-- The message that reports the result at a moment. -/
def toMessage (r : TestResult) (wall : Timestamp) (now : Nat) : TestResultMessage where
  time := wall
  elapsed := r.elapsedSeconds now
  id := r.id
  name := r.name
  status := r.status
  message := r.message
  stacktrace := r.stacktrace
  information := r.information
  fullName := r.fullName
  suiteName := r.suiteName
  suiteFullName := r.suiteName
  logFile := ""

end TestResult

end Testbed
