import Testbed.Environment.Basic
import Testbed.Platform.Call
import Testbed.Platform.Power

/-!
# Actions

What the body of a test case can do with the environment that it was given: record facts, move the
status along, run commands and use features. An action works on the environment alone and calls the
outside world for the rest.
-/
namespace Testbed

/-- What is done to the power of a machine. -/
inductive PowerAction where
  | stop (state : StopState)
  | start
  | restart
  deriving DecidableEq

inductive Action where
  /-- Give up, with a cause and what it led to, outermost first. -/
  | fail (texts : List String)
  | sleep (ms : Nat)
  | markDirty
  | setStatus (next : EnvironmentStatus)
  | setInformation (key value : String)
  | setNodeInformation (node : Nat) (key value : String)
  | attach (node : Nat) (feature : FeatureHandle)
  | metadata
  | inspect
  | execute (node : Nat) (command : String)
  | resize (node : Nat) (action : ResizeAction)
  /-- Switch the power, or leave it, and ask for the status. -/
  | power (node : Nat) (action : Option PowerAction)
  | waitPower (node : Nat) (expected : PowerState) (operation : String) (timeout poll : Nat)
  | console (node : Nat)
  | nics (node : Nat)

/-- What an action gives. -/
inductive ActionResult where
  | done
  | metadata (facts : Facts)
  | inspected (environment : Environment)
  | executed (result : ExecuteResult)
  | resized (outcome : ResizeOutcome)
  | status (text : String)
  | log (bytes : List UInt8)
  | count (nics : UInt32)

/-- How an action fails. -/
inductive ActionError where
  | failure (texts : List String)
  | noNode (index : Nat)
  | environment (cause : EnvironmentError)
  | feature (cause : FeatureError)
  | session (cause : SessionError)
  deriving DecidableEq

/-- The wording of an action's error. -/
def ActionError.message : ActionError → String
  | failure texts => ": ".intercalate texts
  | noNode index => s!"no node {index}"
  | environment cause => cause.message
  | feature cause => cause.message
  | session cause => cause.message

/-- The kind of an action's error, as reports name it. -/
def ActionError.kind : ActionError → String
  | failure _ | noNode _ => "Other"
  | environment cause => cause.kind
  | feature cause => cause.kind
  | session cause => cause.kind

namespace Action

open Program

/-- Change the environment in a way that may be refused. -/
def revise (f : Environment → Except EnvironmentError Environment) :
    Caller Environment (Except ActionError ActionResult) :=
  update (fun e =>
    match f e with
    | .ok e => (.ok .done, e)
    | .error cause => (.error (.environment cause), e))

/-- Change a node in a way that may be refused. -/
def reviseNode (index : Nat) (f : Node → Except FeatureError (ActionResult × Node)) :
    Caller Environment (Except ActionError ActionResult) :=
  update (fun e =>
    match e.nodes[index]? with
    | none => (.error (.noNode index), e)
    | some node =>
      match f node with
      | .ok (result, node) => (.ok result, e.modifyNode index (fun _ => node))
      | .error cause => (.error (.feature cause), e))

/-- Read something off a node. -/
def readNode {α : Type} (index : Nat) (f : Node → Except FeatureError α) :
    Caller Environment (Except ActionError α) :=
  update (fun e =>
    match e.nodes[index]? with
    | none => (.error (.noNode index), e)
    | some node => ((f node).mapError ActionError.feature, e))

/-- Switch a power switch. -/
def switch (power : PowerSwitch) : Option PowerAction → PowerSwitch
  | some (.stop state) => power.stop state
  | some .start | some .restart => power.start
  | none => power

/-- Run a command in a node's session. -/
def runCommand (index : Nat) (command : String) :
    Caller Environment (Except ActionError ActionResult) := do
  let e ← get
  match e.nodes[index]? with
  | none => return .error (.noNode index)
  | some node =>
    match node.session with
    | none => return .error (.session (node.notConnected command))
    | some session =>
      match ← request (Call.execute session command) with
      | .ok result => return .ok (.executed result)
      | .error cause => return .error (.session cause)

/-- The power switch of a node, as something to poll. -/
def powerProbe (index : Nat) : PowerProbe (Caller Environment) where
  status := do
    let e ← get
    match e.nodes[index]? with
    | none => return .error (.unsupported .startStop (Node.defaultName index))
    | some node => return node.startStop.map PowerSwitch.status
  now := do return (← request Call.clock).ms
  pause ms := request (Call.pause ms)

def awaitPower (index : Nat) (expected : PowerState) (operation : String) (timeout poll : Nat) :
    Caller Environment (Except ActionError ActionResult) := do
  match ← readNode index Node.startStop with
  | .error error => return .error error
  | .ok _ =>
    match ← waitForPower (powerProbe index) expected operation timeout poll with
    | .ok () => return .ok .done
    | .error cause => return .error (.feature cause)

/-- Carry out an action. -/
def run : Action → Caller Environment (Except ActionError ActionResult)
  | fail texts => return .error (.failure texts)
  | sleep ms => do
    request (Call.pause ms)
    return .ok .done
  | markDirty => revise Environment.markDirty
  | setStatus next => revise (fun e => e.setStatus next)
  | setInformation key value => revise (fun e => .ok (e.setInformation key value))
  | setNodeInformation index key value =>
    reviseNode index (fun node =>
      .ok (.done, { node with information := node.information.insert key value }))
  | attach index feature => reviseNode index (fun node => .ok (.done, node.attach feature))
  | metadata => do return .ok (.metadata (← get).metadata)
  | inspect => do return .ok (.inspected (← get))
  | execute index command => runCommand index command
  | resize index _ =>
    reviseNode index (fun node => do
      let outcome ← node.resize
      return (.resized (← outcome), node))
  | power index action =>
    reviseNode index (fun node => do
      let power := switch (← node.startStop) action
      return (.status power.status, node.attach (.startStop power)))
  | waitPower index expected operation timeout poll =>
    awaitPower index expected operation timeout poll
  | console index => do
    return (← readNode index Node.serialConsole).map ActionResult.log
  | nics index => do
    return (← readNode index Node.networkInterface).map ActionResult.count

/-- Carry out actions one after the other, up to the first that fails, and give the results of those
before it. -/
def runAll : List Action → Caller Environment (List ActionResult × Except ActionError Unit)
  | [] => return ([], .ok ())
  | action :: rest => do
    match ← action.run with
    | .error error => return ([], .error error)
    | .ok result =>
      let (results, outcome) ← runAll rest
      return (result :: results, outcome)

end Action

end Testbed
