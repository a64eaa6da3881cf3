/-!
# Metrics

What the lifecycle manager counts. Counters are 64 bits wide.
-/
namespace Testbed

inductive Counter where
  | prepared | reused | deployed | deleted | deploymentFailures | deleteFailures
  | connectionRetries
  deriving DecidableEq, Repr

namespace Counter

def name : Counter → String
  | prepared => "prepared"
  | reused => "reused"
  | deployed => "deployed"
  | deleted => "deleted"
  | deploymentFailures => "deployment_failures"
  | deleteFailures => "delete_failures"
  | connectionRetries => "connection_retries"

def all : List Counter :=
  [prepared, reused, deployed, deleted, deploymentFailures, deleteFailures, connectionRetries]

/-- The counter of a name. -/
def ofName? (name : String) : Option Counter := all.find? (fun counter => counter.name = name)

end Counter

structure Metrics where
  prepared : UInt64 := 0
  reused : UInt64 := 0
  deployed : UInt64 := 0
  deleted : UInt64 := 0
  deploymentFailures : UInt64 := 0
  deleteFailures : UInt64 := 0
  connectionRetries : UInt64 := 0
  deriving DecidableEq

namespace Metrics

/-- The reading of a counter. -/
def reading (m : Metrics) : Counter → UInt64
  | .prepared => m.prepared
  | .reused => m.reused
  | .deployed => m.deployed
  | .deleted => m.deleted
  | .deploymentFailures => m.deploymentFailures
  | .deleteFailures => m.deleteFailures
  | .connectionRetries => m.connectionRetries

/-- Count one more. -/
def count (m : Metrics) : Counter → Metrics
  | .prepared => { m with prepared := m.prepared + 1 }
  | .reused => { m with reused := m.reused + 1 }
  | .deployed => { m with deployed := m.deployed + 1 }
  | .deleted => { m with deleted := m.deleted + 1 }
  | .deploymentFailures => { m with deploymentFailures := m.deploymentFailures + 1 }
  | .deleteFailures => { m with deleteFailures := m.deleteFailures + 1 }
  | .connectionRetries => { m with connectionRetries := m.connectionRetries + 1 }

end Metrics

end Testbed
