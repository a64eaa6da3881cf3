import Testbed.BareMetal.Error
import Testbed.Environment.Action
import Testbed.Lifecycle.Error
import Testbed.Space.Wire

/-!
# Reports

Errors, nodes and what actions give, as JSON for people and scripts to look at. An error is reported
by its kind and its message.
-/
namespace Testbed

/-- The report of an error. -/
def errorReport (kind message : String) (more : List (String × Json)) : Json :=
  .object ([("error", .string kind), ("message", .string message)] ++ more)

def FeatureError.report (e : FeatureError) : Json := errorReport e.kind e.message []

def ActionError.report (e : ActionError) : Json := errorReport e.kind e.message []

def BareMetal.BareMetalError.report (e : BareMetal.BareMetalError) : Json :=
  errorReport e.kind e.message []

/-- The report of a lifecycle error also tells what becomes of the case, and why. -/
def LifecycleError.report (e : LifecycleError) : Json :=
  errorReport e.kind e.message ([("skip", .bool e.isSkip), ("capacity", .bool e.isCapacity)] ++
    match e with
    | .noEnvironmentAvailable reasons => [("reasons", encode (reasons.map Reason.text))]
    | .deployment _ source => [("source", .string source.kind)]
    | _ => [])

/-- A node with what it has. -/
def Node.report (n : Node) : Json :=
  .object [("index", encode n.index), ("name", .string n.name),
    ("connected", .bool n.isConnected),
    ("connection", match n.connection with
      | some c => encode [c.endpoint, c.username]
      | none => .null),
    ("information", encode n.information),
    ("features", encode (n.featureTypes.map FeatureType.name)),
    ("has", encode [n.resize.isOk, n.startStop.isOk, n.serialConsole.isOk,
      n.networkInterface.isOk, (n.feature? .securityProfile).isSome]),
    ("capability", encode n.capability)]

/-- The flags of an environment. -/
def Environment.flags (e : Environment) : List (String × Json) :=
  [("status", .string e.status.text), ("dirty", .bool e.dirty), ("in_use", .bool e.inUse)]

def ActionResult.report : ActionResult → Json
  | .done => .string "ok"
  | .metadata facts => encode facts
  | .inspected e => .object [
    ("name", .string e.name), ("candidate_index", encode e.candidateIndex),
    ("space_name", encode e.space.name), ("information", encode e.information),
    ("nodes", .array (e.nodes.map Node.report))]
  | .executed result => .object [
    ("success", .bool result.success), ("result", encode result)]
  | .resized outcome => encode outcome
  | .status text => .string text
  | .log bytes => encode (bytes.map UInt8.toNat)
  | .count nics => encode nics

end Testbed
