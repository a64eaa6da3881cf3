import Testbed.Environment.Basic
import Testbed.Platform.Error
import Testbed.Space.Resolution

/-!
# Lifecycle errors

How the manager fails to provide an environment.
-/
namespace Testbed

/-- What the cancellation of a whole run can interrupt. -/
inductive Operation where
  | prepare | deploy | connect
  deriving DecidableEq, Repr

def Operation.name : Operation → String
  | prepare => "prepare"
  | deploy => "deploy"
  | connect => "connect"

inductive LifecycleError where
  | noEnvironmentAvailable (reasons : List Reason)
  | deployment (environment : String) (source : PlatformError)
  | connection (node : String) (attempts : UInt32) (reason : String)
  | environment (cause : EnvironmentError)
  | cancelled (operation : Operation)
  deriving DecidableEq

namespace LifecycleError

/-- The wording of a lifecycle error. -/
def message : LifecycleError → String
  | noEnvironmentAvailable reasons => unavailableMessage reasons
  | deployment name source => s!"deployment of {name} failed: {source.message}"
  | connection node attempts reason =>
    s!"cannot connect to {node} after {attempts.toNat} attempt(s): {reason}"
  | environment cause => cause.message
  | cancelled operation => s!"{operation.name} cancelled"

/-- The kind of a lifecycle error, as reports name it. -/
def kind : LifecycleError → String
  | noEnvironmentAvailable _ => "NoEnvironmentAvailable"
  | deployment .. => "Deployment"
  | connection .. => "Connection"
  | environment cause => cause.kind
  | cancelled _ => "Cancelled"

/-- Whether a case counts as skipped and not as failed. -/
def isSkip : LifecycleError → Bool
  | noEnvironmentAvailable _ => true
  | _ => false

/-- Whether a platform lacked capacity, so that a case may be tried again. -/
def isCapacity : LifecycleError → Bool
  | deployment _ (.capacity _) => true
  | _ => false

end LifecycleError

end Testbed
