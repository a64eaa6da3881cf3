import Testbed.Json.Record

/-!
# Statuses of test results

The status of one test-case invocation and the steps between statuses. An assigned result may go
back to the queue once.
-/
namespace Testbed

inductive TestStatus where
  | queued | assigned | running | failed | passed | skipped | attempted
  deriving DecidableEq, Repr

namespace TestStatus

def all : List TestStatus := [queued, assigned, running, failed, passed, skipped, attempted]

def name : TestStatus → String
  | queued => "QUEUED"
  | assigned => "ASSIGNED"
  | running => "RUNNING"
  | failed => "FAILED"
  | passed => "PASSED"
  | skipped => "SKIPPED"
  | attempted => "ATTEMPTED"

/-- Whether no step leads on. -/
def isCompleted : TestStatus → Bool
  | failed | passed | skipped | attempted => true
  | queued | assigned | running => false

/-- The steps that are allowed; `requeued` tells whether the one step back to the queue has been
taken. -/
def canBecome (requeued : Bool) : (current next : TestStatus) → Bool
  | queued, assigned | queued, skipped => true
  | assigned, queued => !requeued
  | assigned, running | assigned, skipped | assigned, failed => true
  | running, next => next.isCompleted
  | _, _ => false

instance : Wire TestStatus := .ofNames all name

end TestStatus

end Testbed
