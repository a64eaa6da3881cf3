import Testbed.Lifecycle.Manager
import Testbed.Result.Outcome
import Testbed.Result.TestResult

/-!
# Running a case

Takes the result of one case from the queue to a final status: an environment is acquired, the body
runs on it, and the environment is handed back. Lacking capacity puts the case back into the queue
once. Every change of status is passed on as a message.
-/
namespace Testbed

/-- A result as far as it came, and what came of the step that was taken with it. -/
abbrev Progress (α : Type) := TestResult × Except ResultError α

namespace CaseRunner

/-- Move a result to a status and pass it on. -/
def transition (r : TestResult) (status : TestStatus) (message : String) :
    Work (Progress Unit) := do
  let moment ← Program.request (Request.call .clock)
  match r.setStatus moment.ticks status message with
  | .error error => return (r, .error error)
  | .ok (r, event) =>
    Program.modify (·.report event)
    Program.request (Request.notify (.testResult (r.toMessage moment.wall moment.ticks)))
    return (r, .ok ())

/-- What a lifecycle error makes of a case. -/
def verdict (error : LifecycleError) : Outcome :=
  match error with
  | .noEnvironmentAvailable _ | .cancelled _ => .skipped error.message
  | _ => .ofFailure error.message

/-- End a case that has no environment. Only skipping leads out of the queue, so any other status is
reached by way of being assigned. -/
def finish (r : TestResult) (error : LifecycleError) : Work (Progress Unit) := do
  let outcome := verdict error
  if r.status = .queued ∧ outcome.status ≠ .skipped then
    match ← transition r .assigned "" with
    | (r, .ok ()) => transition r outcome.status outcome.message
    | (r, .error error) => return (r, .error error)
  else transition r outcome.status outcome.message

/-- End a case and give no environment. -/
def finishWithout (r : TestResult) (error : LifecycleError) :
    Work (Progress (Option EnvironmentId)) := do
  let (r, finished) ← finish r error
  return (r, finished.map (fun _ => none))

/-- Acquire an environment for a case, in at most so many rounds. There is none when the case has
ended. -/
def acquireWithin (m : Manager) (requirement : EnvironmentSpace) :
    (rounds : Nat) → TestResult → Work (Progress (Option EnvironmentId))
  | 0, r => return (r, .ok none)
  | rounds + 1, r => do
    match ← m.prepare requirement with
    | .error error => finishWithout r error
    | .ok id =>
      match ← transition r .assigned "" with
      | (r, .error error) => return (r, .error error)
      | (r, .ok ()) =>
        match ← m.bringUp id with
        | .ok () => return (r, .ok (some id))
        | .error error =>
          Manager.delete id
          if error.isCapacity ∧ !r.requeued then
            match ← transition r .queued error.message with
            | (r, .ok ()) => acquireWithin m requirement rounds r
            | (r, .error error) => return (r, .error error)
          else finishWithout r error

/-- Acquire an environment for a case. A case returns to the queue at most once, so there are two
rounds at most. -/
def acquire (m : Manager) (requirement : EnvironmentSpace) (r : TestResult) :
    Work (Progress (Option EnvironmentId)) :=
  acquireWithin m requirement 2 r

/-- The status and the message for what a body came to; a body that failed gives its reason. -/
def judge : Except String Unit → TestStatus × String
  | .ok () => (.passed, "")
  | .error reason =>
    let outcome := Outcome.ofFailure reason
    (outcome.status, outcome.message)

/-- Run a body on the environment of a case, hand the environment back and end the case. A failure
leaves the environment dirty. What the body gives besides its outcome is passed through. -/
def runOn {β : Type} (m : Manager) (r : TestResult) (id : EnvironmentId)
    (body : EnvironmentId → Work (β × Except String Unit)) : Work (Progress β) := do
  let metadata ← Work.holding id (do return (← Work.environment id).metadata)
  match ← transition (r.setEnvironment metadata) .running "" with
  | (r, .error error) => return (r, .error error)
  | (r, .ok ()) =>
    let (value, outcome) ← body id
    let (status, message) := judge outcome
    if status = .failed then
      let _ ← Manager.markDirty id
    m.release id
    let (r, ended) ← transition r status message
    return (r, ended.map (fun _ => value))

/-- Run a case. There is no value of the body when it was not run. The only error is a status that
the result cannot move to. -/
def run {β : Type} (m : Manager) (r : TestResult) (requirement : EnvironmentSpace)
    (body : EnvironmentId → Work (β × Except String Unit)) : Work (Progress (Option β)) := do
  match ← acquire m requirement r with
  | (r, .error error) => return (r, .error error)
  | (r, .ok none) => return (r, .ok none)
  | (r, .ok (some id)) =>
    let (r, ran) ← runOn m r id body
    return (r, ran.map some)

/-- A runner as diagnostics show it. -/
def text (m : Manager) (p : Pool) : String :=
  "CaseRunner \x7b manager: " ++ m.text p ++ " \x7d"

end CaseRunner

end Testbed
