import Testbed.Lifecycle.Error
import Testbed.Lifecycle.Request
import Testbed.Lifecycle.Retry
import Testbed.Platform.FeatureRegistry
import Testbed.Text.Quoted

/-!
# The lifecycle manager

Drives environments through a platform: prepares one for a requirement, deploys it, connects its
nodes, hands it back and deletes it. Every environment that it creates is deleted exactly once,
whatever the platform does. One operation at a time works on an environment; the pool as a whole is
only touched between requests.
-/
namespace Testbed

structure Manager where
  /-- The type of the platform. -/
  platform : String
  /-- The features that the platform creates for nodes. -/
  features : FeatureRegistry
  candidates : List EnvironmentSpace
  config : LifecycleConfig

namespace Manager

/-- Provide an environment for a requirement: an idle one when environments are handed out again,
else a new one. -/
def prepare (m : Manager) (requirement : EnvironmentSpace) :
    Work (Except LifecycleError EnvironmentId) :=
  Program.update (fun p =>
    match if m.config.reuseEnvironments then p.findReusable m.candidates requirement else none with
    | some id => (.ok id, p.handOut id)
    | none =>
      match resolve requirement m.candidates with
      | .ok found => (.ok p.nextId, p.create found)
      | .error reasons => (.error (.noEnvironmentAvailable reasons), p))

/-- Move an environment to a status. -/
def setStatus (id : EnvironmentId) (next : EnvironmentStatus) :
    Work (Except LifecycleError Unit) := do
  return (← Work.revise id (·.setStatus next)).mapError .environment

/-- Take note of a deployment that failed. -/
def deploymentFailed (e : Environment) (source : PlatformError) :
    Work (Except LifecycleError Unit) := do
  Program.modify (·.count .deploymentFailures)
  return .error (.deployment e.name source)

/-- Ask the platform whether it can host a new environment. -/
def askPlatform (m : Manager) (id : EnvironmentId) : Work (Except LifecycleError Unit) := do
  let e ← Work.environment id
  if ← Work.cancelled then return .error (.cancelled .prepare)
  else match ← Program.request (Request.prepare e) with
    | none => return .error (.cancelled .prepare)
    | some (.ok true) => setStatus id .prepared
    | some (.ok false) => deploymentFailed e (.capacity s!"{m.platform} cannot host {e.name}")
    | some (.error source) => deploymentFailed e source

/-- Attach a feature of every type to every node of a provisioned environment and report it. -/
def equip (m : Manager) (id : EnvironmentId) : Work (Except LifecycleError Unit) := do
  let failed ← Program.update (fun p =>
    let attached := m.features.attachToAll (p.environment id).nodes
    (attached.2, p.modify id (fun e => { e with nodes := attached.1 })))
  let e ← Work.environment id
  match failed with
  | some cause => deploymentFailed e (.feature cause)
  | none =>
    match ← setStatus id .deployed with
    | .error error => return .error error
    | .ok () =>
      Program.modify (fun p => (p.count .deployed).report
        (.environmentDeployed id.text m.platform e.nodes.length))
      return .ok ()

/-- Have the platform provision a prepared environment. -/
def provision (m : Manager) (id : EnvironmentId) : Work (Except LifecycleError Unit) := do
  let e ← Work.environment id
  if ← Work.cancelled then return .error (.cancelled .deploy)
  else
    let deployed ← Program.request (Request.deploy e)
    Program.modify (·.modify id (·.accept deployed.provision))
    match deployed.outcome with
    | none => return .error (.cancelled .deploy)
    | some (.error source) => deploymentFailed e source
    | some (.ok ()) => m.equip id

/-- Provision an environment that nobody else works on. -/
def deployHeld (m : Manager) (id : EnvironmentId) : Work (Except LifecycleError Unit) := do
  let e ← Work.environment id
  match e.status with
  | .deployed | .connected => return .ok ()
  | .deleted => return .error (.environment (.invalidState e.name "deploy" .deleted))
  | .prepared => m.provision id
  | .new =>
    match ← m.askPlatform id with
    | .error error => return .error error
    | .ok () => m.provision id

/-- Provision an environment. One that failed keeps the status that it reached; one that is deployed
is left as it is. -/
def deploy (m : Manager) (id : EnvironmentId) : Work (Except LifecycleError Unit) :=
  Work.holding id (m.deployHeld id)

/-- How a session to a node is tried for. -/
def connectSteps (m : Manager) (info : ConnectionInfo) : RetrySteps Work Session where
  attempt _ := do
    if ← Work.cancelled then return .cancelled
    else
      let limit := some m.config.connect.timeoutMs.toNat
      match ← Program.request (Request.interruptible (.connect info limit)) with
      | none => return .cancelled
      | some (.opened session) => return .succeeded session
      | some (.refused error) => return .failed error.message
      | some .overdue => return .overdue
  retrying := Program.modify (·.count .connectionRetries)
  pause ms := do
    if ← Work.cancelled then return true
    else return (← Program.request (Request.interruptible (.pause ms))).isNone
  overflow := Program.modify Pool.overflow

/-- Open a session on the node at a place and add the attempts to those for the nodes before it. -/
def connectNode (m : Manager) (id : EnvironmentId) (place : Nat) (total : UInt32) (node : Node) :
    Work (Except LifecycleError UInt32) := do
  match node.connection with
  | none => return .error (.connection node.name 0 "platform did not provide connection info")
  | some info =>
    match ← retry m.config.connect (m.connectSteps info) with
    | .ok attempted =>
      let total ← addCounts (Program.modify Pool.overflow) total attempted.attempts
      Program.modify (·.modify id (·.modifyNode place
        (fun node => { node with session := some attempted.value })))
      return .ok total
    | .error .cancelled => return .error (.cancelled .connect)
    | .error (.exhausted attempts reason) => return .error (.connection node.name attempts reason)

/-- Open a session on each of the nodes from a place on, in order, and give the number of attempts
in all. -/
def connectNodes (m : Manager) (id : EnvironmentId) (place : Nat) (total : UInt32) :
    List Node → Work (Except LifecycleError UInt32)
  | [] => return .ok total
  | node :: rest => do
    match ← m.connectNode id place total node with
    | .ok total => m.connectNodes id (place + 1) total rest
    | .error error => return .error error

/-- Connect an environment that nobody else works on. -/
def connectHeld (m : Manager) (id : EnvironmentId) : Work (Except LifecycleError Unit) := do
  let e ← Work.environment id
  match e.status with
  | .connected => return .ok ()
  | .deployed =>
    match ← m.connectNodes id 0 0 e.nodes with
    | .error error => return .error error
    | .ok total =>
      match ← setStatus id .connected with
      | .error error => return .error error
      | .ok () =>
        Program.modify (·.report (.environmentConnected id.text e.nodes.length total))
        return .ok ()
  | status => return .error (.environment (.invalidState e.name "connect" status))

/-- Open a session on every node of a deployed environment. -/
def connect (m : Manager) (id : EnvironmentId) : Work (Except LifecycleError Unit) :=
  Work.holding id (m.connectHeld id)

/-- Flag an environment as unfit for reuse. -/
def markDirty (id : EnvironmentId) : Work (Except LifecycleError Unit) :=
  Work.holding id (do return (← Work.revise id Environment.markDirty).mapError .environment)

/-- Have the platform give up what it holds for an environment, which is nothing for a new one. A
failure is counted and reported and has no further consequence. -/
def relinquish (e : Environment) : Work Unit := do
  if e.status = .new then return ()
  else match ← Program.request (Request.delete e) with
    | .ok () => return ()
    | .error error =>
      Program.modify (fun p => (p.count .deleteFailures).report
        (.environmentDeleteFailed e.id.text error.message))

/-- Delete an environment that nobody else works on, unless it has been deleted. Gives whether there
was anything to delete. -/
def deleteHeld (id : EnvironmentId) : Work Bool := do
  let e ← Work.environment id
  if e.status = .deleted then return false
  else
    relinquish e
    Program.modify (fun p => ((p.modify id Environment.forceDeleted).count .deleted).report
      (.environmentDeleted id.text e.status e.dirty))
    return true

/-- Release what the platform holds for an environment. Doing so again changes nothing. -/
def delete (id : EnvironmentId) : Work Unit := do
  if ← Work.holding id (deleteHeld id) then Program.modify (·.untrack id)
  else return ()

/-- Whether a released environment can be handed out again. -/
def keeps (m : Manager) (e : Environment) : Bool :=
  m.config.reuseEnvironments && !e.dirty && e.status.isDeployed

/-- Hand an environment back: a clean, deployed one becomes idle when environments are handed out
again, any other one is deleted. -/
def release (m : Manager) (id : EnvironmentId) : Work Unit := do
  let kept ← Work.holding id (Program.update (fun p =>
    let kept := m.keeps (p.environment id)
    (kept, if kept then p.modify id (fun e => { e with inUse := false }) else p)))
  if kept then return () else delete id

/-- Delete environments one after the other. -/
def deleteAll : List EnvironmentId → Work Unit
  | [] => return ()
  | id :: rest => do
    delete id
    deleteAll rest

/-- Delete every tracked environment, the last one created first, and report the counters. -/
def shutdown : Work Unit := do
  let tracked ← Program.update (fun p => (p.tracked, { p with tracked := [] }))
  deleteAll tracked.reverse
  Program.modify (fun p => p.report (.metrics p.metrics))

/-- Deploy and connect. -/
def bringUp (m : Manager) (id : EnvironmentId) : Work (Except LifecycleError Unit) := do
  match ← m.deploy id with
  | .ok () => m.connect id
  | .error error => return .error error

/-- Run a body on an environment for a requirement and release the environment afterwards. It is
deleted when it cannot be brought up or the body fails. -/
def runScoped {ε α : Type} (m : Manager) (requirement : EnvironmentSpace)
    (ofLifecycle : LifecycleError → ε) (body : EnvironmentId → Work (Except ε α)) :
    Work (Except ε α) := do
  match ← m.prepare requirement with
  | .error error => return .error (ofLifecycle error)
  | .ok id =>
    match ← m.bringUp id with
    | .error error =>
      delete id
      return .error (ofLifecycle error)
    | .ok () =>
      match ← body id with
      | .ok value =>
        m.release id
        return .ok value
      | .error error =>
        delete id
        return .error error

/-- A manager as diagnostics show it. -/
def text (m : Manager) (p : Pool) : String :=
  "EnvironmentManager \x7b platform: " ++ Text.quoted m.platform ++
    s!", candidates: {m.candidates.length}, tracked: {p.tracked.length} \x7d"

end Manager

end Testbed
