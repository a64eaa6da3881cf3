import Testbed.Environment.Action
import Testbed.Lifecycle.CaseRunner
import Testbed.Simulation.World

/-!
# A bench

A manager with its pool in a simulated world. Environments that were prepared are known by handles,
and test bodies are lists of actions.
-/
namespace Testbed.Simulation

structure Bench where
  manager : Manager
  pool : Pool := {}
  world : World
  /-- The environment that was last prepared under each handle. -/
  handles : Dict String EnvironmentId := ∅

/-- How a scoped run fails: on its way to the body or in the body. -/
inductive ScopedError where
  | lifecycle (error : LifecycleError)
  | body (error : ActionError)

namespace Bench

/-- Do work. Nothing comes of it, and the bench is lost, if it is broken off. -/
def work {α : Type} (b : Bench) (work : Work α) : Option (α × Bench) :=
  match Work.runChecked World.surroundings work b.pool b.world with
  | (some a, pool, world) => if world.brokenOff then none else some (a, { b with pool, world })
  | (none, _) => none

/-- Cancel the run in so many milliseconds. -/
def armCancellation (b : Bench) (ms : Nat) : Bench :=
  { b with world := { b.world with clock := b.world.clock.arm ms } }

/-- The events since the last time and the bench without them. -/
def takeEvents (b : Bench) : List Event × Bench :=
  (b.pool.events, { b with pool := { b.pool with events := [] } })

/-- Prepare an environment under a handle, and tell whether it had been created before. Somebody may
be working on another environment meanwhile. -/
def prepare (b : Bench) (handle : String) (requirement : EnvironmentSpace)
    (busy : Option EnvironmentId) :
    Option (Except LifecycleError (EnvironmentId × Bool) × Bench) := do
  let held := busy.elim b (fun id => { b with pool := b.pool.lock id })
  let (prepared, after) ← held.work (b.manager.prepare requirement)
  let released := busy.elim after (fun id => { after with pool := after.pool.unlock id })
  match prepared with
  | .error error => return (.error error, released)
  | .ok id =>
    return (.ok (id, id.index < b.pool.environments.length),
      { released with handles := released.handles.insert handle id })

/-- Work on an environment of the pool alone. -/
def onHeld {α : Type} (id : EnvironmentId) (program : Caller Environment α) : Work α :=
  Work.holding id (program.onEnvironment id)

/-- Carry out one action on an environment. -/
def act (b : Bench) (id : EnvironmentId) (action : Action) :
    Option (Except ActionError ActionResult × Bench) :=
  b.work (onHeld id action.run)

/-- A body that carries out actions and gives what the last of them gave. -/
def scopedBody (actions : List Action) (id : EnvironmentId) :
    Work (Except ScopedError (Option ActionResult)) := do
  let (results, outcome) ← onHeld id (Action.runAll actions)
  match outcome with
  | .ok () => return .ok results.getLast?
  | .error error => return .error (.body error)

/-- Carry out actions on an environment for a requirement and hand it back. -/
def runScoped (b : Bench) (requirement : EnvironmentSpace) (actions : List Action) :
    Option (Except ScopedError (Option ActionResult) × Bench) :=
  b.work (b.manager.runScoped requirement .lifecycle (scopedBody actions))

/-- A body that carries out actions and gives what those before the first failure gave. -/
def caseBody (actions : List Action) (id : EnvironmentId) :
    Work (List ActionResult × Except String Unit) := do
  let (results, outcome) ← onHeld id (Action.runAll actions)
  return (results, outcome.mapError ActionError.message)

/-- Run a case whose body carries out actions; nothing was passed on before. -/
def runCase (b : Bench) (r : TestResult) (requirement : EnvironmentSpace) (actions : List Action) :
    Option (Progress (Option (List ActionResult)) × Bench) :=
  let b := { b with world := { b.world with sent := [] } }
  b.work (CaseRunner.run b.manager r requirement (caseBody actions))

end Bench

end Testbed.Simulation
