import Testbed.Lifecycle.Pool
import Testbed.Message.Basic
import Testbed.Platform.Call
import Testbed.Platform.Error

/-!
# Requests of the lifecycle manager

The manager works on the pool and asks for the rest: the lock of an environment, what the platform
does with one, calls to the outside world, and passing messages on. A request that the cancellation
of the run interrupts has no answer.
-/
namespace Testbed

/-- What became of a deployment. What the platform provided before it failed or was interrupted
stays. -/
structure Deployed where
  provision : Provision
  outcome : Option (Except PlatformError Unit)

inductive Request where
  /-- Wait until nobody works on an environment. -/
  | lock (id : EnvironmentId)
  /-- Ask the platform whether it can host an environment. -/
  | prepare (environment : Environment)
  | deploy (environment : Environment)
  | delete (environment : Environment)
  /-- A call that cancellation interrupts. -/
  | interruptible (call : Call)
  /-- A call that is always answered. -/
  | call (call : Call)
  /-- Pass a message on to whoever follows the run. -/
  | notify (message : Message)

namespace Request

abbrev Reply : Request → Type
  | .lock _ => Unit
  | .prepare _ => Option (Except PlatformError Bool)
  | .deploy _ => Deployed
  | .delete _ => Except PlatformError Unit
  | .interruptible c => Option c.Reply
  | .call c => c.Reply
  | .notify _ => Unit

end Request

/-- A program that works on the pool. -/
abbrev Work := Program Pool Request Request.Reply

/-- Where work is done: what answers its requests, and whether the run has been cancelled by the time
of an answer. Nothing else happens to the pool from outside. -/
structure Surroundings (ω : Type) where
  reply : (r : Request) → ω → r.Reply × ω
  cancelled : ω → Bool

/-- Answer a request, with the pool as it is afterwards. -/
def Surroundings.answer {ω : Type} (s : Surroundings ω) (r : Request) (p : Pool) (w : ω) :
    r.Reply × Pool × ω :=
  let replied := s.reply r w
  (replied.1, if s.cancelled replied.2 then p.cancel else p, replied.2)

namespace Work

variable {α ω : Type}

/-- Do work in some surroundings. -/
def run (s : Surroundings ω) (work : Work α) (p : Pool) (w : ω) : α × Pool × ω :=
  Program.run s.answer work p w

/-- Do work with checked sums: it is broken off where a count leaves its word. -/
def runChecked (s : Surroundings ω) (work : Work α) (p : Pool) (w : ω) : Option α × Pool × ω :=
  Program.runWhile (!·.overflowed) s.answer work p w

/-- Run work while no one else works on an environment. -/
def holding (id : EnvironmentId) (work : Work α) : Work α := do
  Program.request (Request.lock id)
  Program.modify (·.lock id)
  let value ← work
  Program.modify (·.unlock id)
  return value

/-- The environment of an id as it is now. -/
def environment (id : EnvironmentId) : Work Environment := do
  return (← Program.get).environment id

/-- Whether the run has been cancelled. -/
def cancelled : Work Bool := do
  return (← Program.get).cancelled

/-- Change an environment in a way that may be refused. -/
def revise (id : EnvironmentId) (f : Environment → Except EnvironmentError Environment) :
    Work (Except EnvironmentError Unit) :=
  Program.update (fun p =>
    match f (p.environment id) with
    | .ok e => (.ok (), p.modify id (fun _ => e))
    | .error cause => (.error cause, p))

end Work

/-- A program on an environment, run on an environment of the pool. -/
def Program.onEnvironment {α : Type} (id : EnvironmentId) : Caller Environment α → Work α
  | .done value => .done value
  | .act change next =>
    .act (fun p => p.modify id change) (fun p => (next (p.environment id)).onEnvironment id)
  | .ask call next => .ask (.call call) (fun reply => (next reply).onEnvironment id)

end Testbed
