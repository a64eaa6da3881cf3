import Testbed.Json.Record

/-!
# Statuses of environments

An environment moves forward through `new`, `prepared`, `deployed` and `connected`, and from each
of them to `deleted`, where it stays.
-/
namespace Testbed

inductive EnvironmentStatus where
  | new | prepared | deployed | connected | deleted
  deriving DecidableEq, Repr

namespace EnvironmentStatus

def all : List EnvironmentStatus := [new, prepared, deployed, connected, deleted]

/-- The name on the wire. -/
def name : EnvironmentStatus → String
  | new => "New"
  | prepared => "Prepared"
  | deployed => "Deployed"
  | connected => "Connected"
  | deleted => "Deleted"

/-- The name in messages and events. -/
def text : EnvironmentStatus → String
  | new => "new"
  | prepared => "prepared"
  | deployed => "deployed"
  | connected => "connected"
  | deleted => "deleted"

/-- The steps that are allowed. -/
def canBecome : (current next : EnvironmentStatus) → Bool
  | new, prepared | prepared, deployed | deployed, connected => true
  | current, deleted => current ≠ deleted
  | _, _ => false

/-- Whether a platform has provisioned the environment. -/
def isDeployed : EnvironmentStatus → Bool
  | deployed | connected => true
  | new | prepared | deleted => false

instance : Wire EnvironmentStatus := .ofNames all name

end EnvironmentStatus

end Testbed
