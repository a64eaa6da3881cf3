import Testbed.Environment.Node
import Testbed.Message.Fields
import Testbed.Result.TestResult

/-!
# Building messages

Messages about a test result take their fields from several sources. A later source wins: facts of
the environment, facts of the node, what the result itself says, and last the overrides.
-/
namespace Testbed

/-- Facts as values of fields. -/
def stringFields (facts : Facts) : Dict String Json := facts.mapValues .string

/-- Build a measurement of a node under a result. -/
def createPerfMessage (wall : Timestamp) (now : Nat) (detail : PerfDetail) (node : Node)
    (result : TestResult) (caseName : String) (overrides : Dict String Json) :
    Except MessageError PerfMessage :=
  match result.environment with
  | none => .error (.missingEnvironment result.id)
  | some environment => do
    let facts := environment.extend node.information
    let message ← applyFields (PerfMessage.new wall detail) (stringFields facts) .stringsOnly
    let message := { message with
      testCaseName := caseName
      dataPath := (node.capability.dataPath.map NetworkDataPath.name).getD ""
      testResultId := result.id
      elapsed := result.elapsedSeconds now }
    applyFields message overrides .any

/-- Build a result that is reported from inside the case of another one. The parent is always the
other result. -/
def createSubTestMessage (wall : Timestamp) (now : Nat) (result : TestResult) (caseName : String)
    (status : TestStatus) (text : String) (overrides : Dict String Json) :
    Except MessageError SubTestMessage :=
  if result.name.isEmpty then .error (.missingField "parent_test")
  else do
    let message := SubTestMessage.new wall result.id caseName status
    let message ← match result.environment with
      | some environment => applyFields message (stringFields environment) .stringsOnly
      | none => .ok message
    let message := { message with
      id := result.id
      name := caseName
      status
      message := text
      elapsed := result.elapsedSeconds now }
    let message ← applyFields message overrides .any
    return { message with parentTest := result.name }

/-- A built measurement and the messages to notify: itself, or none when it could not be built. -/
def sendPerfMessage (wall : Timestamp) (now : Nat) (detail : PerfDetail) (node : Node)
    (result : TestResult) (caseName : String) (overrides : Dict String Json) :
    Except MessageError PerfMessage × List Message :=
  match createPerfMessage wall now detail node result caseName overrides with
  | .ok message => (.ok message, [.performance message])
  | .error error => (.error error, [])

/-- A built sub-result and the messages to notify: itself, or none when it could not be built. -/
def sendSubTestMessage (wall : Timestamp) (now : Nat) (result : TestResult) (caseName : String)
    (status : TestStatus) (text : String) (overrides : Dict String Json) :
    Except MessageError SubTestMessage × List Message :=
  match createSubTestMessage wall now result caseName status text overrides with
  | .ok message => (.ok message, [.subTestResult message])
  | .error error => (.error error, [])

end Testbed
