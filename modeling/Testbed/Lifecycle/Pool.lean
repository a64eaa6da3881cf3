import Testbed.Environment.Basic
import Testbed.Event
import Testbed.Space.Resolution

/-!
# The pool of environments

Every environment that was created, which of them are tracked for deletion, who is working on one,
and what has been counted and reported. Environments keep their place in the pool for good, so an
id leads to the same one at all times.
-/
namespace Testbed

structure Pool where
  /-- All environments ever created, each at the place that its id names. -/
  environments : List Environment := []
  /-- Those that are still to be deleted, in the order in which they were created. -/
  tracked : List EnvironmentId := []
  /-- Those that an operation is working on. -/
  locked : List EnvironmentId := []
  /-- Whether the whole run has been cancelled. -/
  cancelled : Bool := false
  /-- Whether a count of attempts has left its word. -/
  overflowed : Bool := false
  metrics : Metrics := {}
  events : List Event := []

namespace Pool

/-- The environment that was never there: nothing can be done with it. -/
def absent (id : EnvironmentId) : Environment :=
  { id, name := "", candidateIndex := 0, space := {}, nodes := [], status := .deleted }

/-- The environment of an id. -/
def environment (p : Pool) (id : EnvironmentId) : Environment :=
  (p.environments[id.index]?).getD (absent id)

/-- Change the environment of an id. -/
def modify (p : Pool) (id : EnvironmentId) (f : Environment → Environment) : Pool :=
  { p with environments := p.environments.modify id.index f }

def count (p : Pool) (counter : Counter) : Pool := { p with metrics := p.metrics.count counter }

def report (p : Pool) (event : Event) : Pool := { p with events := p.events ++ [event] }

def lock (p : Pool) (id : EnvironmentId) : Pool := { p with locked := id :: p.locked }

def unlock (p : Pool) (id : EnvironmentId) : Pool := { p with locked := p.locked.erase id }

def untrack (p : Pool) (id : EnvironmentId) : Pool :=
  { p with tracked := p.tracked.filter (fun tracked => tracked ≠ id) }

def cancel (p : Pool) : Pool := { p with cancelled := true }

def overflow (p : Pool) : Pool := { p with overflowed := true }

/-- The id of the next environment. -/
def nextId (p : Pool) : EnvironmentId := ⟨p.environments.length⟩

/-- Create an environment for a match. It is in use from the start. -/
def create (p : Pool) (found : MatchedEnvironment) : Pool :=
  let id := p.nextId
  { p with
    environments := p.environments ++ [{ Environment.ofMatch id found with inUse := true }]
    tracked := p.tracked ++ [id] }
    |>.report (.environmentPrepared id.text found.name false)
    |>.count .prepared

/-- Whether an environment is idle, clean and deployed, and is what resolving a requirement with its
candidate would give. -/
def reusable (p : Pool) (candidates : List EnvironmentSpace) (requirement : EnvironmentSpace)
    (id : EnvironmentId) : Bool :=
  let e := p.environment id
  if id ∈ p.locked ∨ e.inUse ∨ e.dirty ∨ !e.status.isDeployed then false
  else match candidates[e.candidateIndex]? with
    | none => false
    | some candidate =>
      match requirement.intersect candidate with
      | .ok space => space = e.space
      | .error _ => false

/-- The first tracked environment that can be handed out again. -/
def findReusable (p : Pool) (candidates : List EnvironmentSpace)
    (requirement : EnvironmentSpace) : Option EnvironmentId :=
  p.tracked.find? (p.reusable candidates requirement)

/-- Hand an idle environment out again. -/
def handOut (p : Pool) (id : EnvironmentId) : Pool :=
  p.modify id (fun e => { e with inUse := true })
    |>.report (.environmentPrepared id.text (p.environment id).name true)
    |>.count .reused

end Pool

end Testbed
