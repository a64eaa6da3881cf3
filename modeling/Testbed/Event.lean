import Testbed.Environment.Status
import Testbed.Json.Wire
import Testbed.Metrics
import Testbed.Result.Status

/-!
# Events

What the library reports about its work as structured log events: milestones of environments and
results, the counters, and summaries of messages.
-/
namespace Testbed

inductive Level where
  | info | warn
  deriving DecidableEq, Repr

def Level.name : Level → String
  | info => "INFO"
  | warn => "WARN"

inductive Event where
  /-- A requirement was met by a new environment, or by an idle one. -/
  | environmentPrepared (id candidate : String) (reused : Bool)
  | environmentDeployed (id platform : String) (nodes : Nat)
  /-- Every node has an open session, after so many attempts in all. -/
  | environmentConnected (id : String) (nodes : Nat) (attempts : UInt32)
  | environmentDeleted (id : String) (previous : EnvironmentStatus) (dirty : Bool)
  /-- The platform could not delete; the environment counts as deleted all the same. -/
  | environmentDeleteFailed (id error : String)
  | resultStatusChanged (id name : String) (previous next : TestStatus)
  | metrics (counters : Metrics)
  | testResult (name : String) (status : TestStatus) (elapsed : Binary64) (message : String)
  | subTestResult (parent name : String) (status : TestStatus) (message : String)
  | performance (tool testCase dataPath : String)
  | otherMessage (type : String)
  deriving DecidableEq

namespace Event

def level : Event → Level
  | environmentDeleteFailed .. => .warn
  | _ => .info

/-- The fields of an event. -/
def fields : Event → List (String × Json)
  | environmentPrepared id candidate reused => [
    ("event", .string "environment.prepared"), ("environment_id", .string id),
    ("candidate", .string candidate), ("reused", .bool reused)]
  | environmentDeployed id platform nodes => [
    ("event", .string "environment.deployed"), ("environment_id", .string id),
    ("platform", .string platform), ("nodes", encode nodes)]
  | environmentConnected id nodes attempts => [
    ("event", .string "environment.connected"), ("environment_id", .string id),
    ("nodes", encode nodes), ("attempts", encode attempts)]
  | environmentDeleted id previous dirty => [
    ("event", .string "environment.deleted"), ("environment_id", .string id),
    ("from", .string previous.text), ("dirty", .bool dirty)]
  | environmentDeleteFailed id error => [
    ("event", .string "environment.delete_failed"), ("environment_id", .string id),
    ("error", .string error)]
  | resultStatusChanged id name previous next => [
    ("event", .string "result.status_changed"), ("result_id", .string id), ("name", .string name),
    ("from", .string previous.name), ("to", .string next.name)]
  | metrics m => [
    ("metric", .string "flush"), ("environments_prepared", encode m.prepared),
    ("environments_reused", encode m.reused), ("environments_deployed", encode m.deployed),
    ("environments_deleted", encode m.deleted),
    ("deployment_failures", encode m.deploymentFailures),
    ("delete_failures", encode m.deleteFailures),
    ("connection_retries", encode m.connectionRetries)]
  | testResult name status elapsed message => [
    ("message_type", .string "TestResult"), ("name", .string name),
    ("status", .string status.name), ("elapsed", encode elapsed), ("message", .string message)]
  | subTestResult parent name status message => [
    ("message_type", .string "SubTestResult"), ("parent", .string parent), ("name", .string name),
    ("status", .string status.name), ("message", .string message)]
  | performance tool testCase dataPath => [
    ("message_type", .string "Performance"), ("tool", .string tool),
    ("test_case_name", .string testCase), ("data_path", .string dataPath)]
  | otherMessage type => [("message_type", .string type)]

def toJson (e : Event) : Json :=
  .object [("level", .string e.level.name), ("fields", .object e.fields)]

end Event

end Testbed
