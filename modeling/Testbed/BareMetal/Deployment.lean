import Testbed.BareMetal.IpGetter
import Testbed.BareMetal.RackManager
import Testbed.BareMetal.ReadyChecker
import Testbed.Environment.Basic
import Testbed.Platform.FeatureRegistry

/-!
# Bare-metal deployment

The first cluster of the configuration hosts environments, one client for each node. Deploying
settles everything that the configuration alone decides, resets the clients, and then waits for each
node and reads its address.
-/
namespace Testbed.BareMetal

/-- The name of the platform. -/
def platformName : String := "baremetal"

/-- The features of every node. -/
def features : FeatureRegistry :=
  .ofList [(.startStop, fun _ => .startStop .alwaysRunning),
    (.serialConsole, fun _ => .serialConsole [])]

/-- Whether there are clients for so many nodes. Without a cluster there is no telling, and deploying
says what is wrong. -/
def PlatformConfig.canHost (config : PlatformConfig) (nodes : Nat) : Bool :=
  match config.cluster with
  | [] => true
  | cluster :: _ => nodes ≤ cluster.client.length

/-- What a deployment works with. -/
structure Plan where
  manager : RackManager
  readyChecker : Option ReadyChecker
  ipGetter : Option IpGetter
  clients : List ClientConfig

/-- Create what an optional block asks for. -/
def createOptional {κ α : Type} (registry : Registry κ α) (typeName : κ → String) :
    Option κ → Except BareMetalError (Option α)
  | none => .ok none
  | some config => (registry.create (typeName config) config).map some

/-- Settle a deployment of so many nodes by the configuration alone. -/
def PlatformConfig.plan (config : PlatformConfig) (nodes : Nat) : Except BareMetalError Plan :=
  match config.cluster with
  | [] => .error .noCluster
  | cluster :: _ => do
    let manager ← clusters.create cluster.typeName cluster
    if cluster.client.isEmpty then .error (.noClient cluster.typeName)
    else if cluster.client.length < nodes then
      .error (.notEnoughClients cluster.typeName cluster.client.length nodes)
    else
      let readyChecker ←
        createOptional readyCheckers ReadyCheckerConfig.typeName cluster.readyChecker
      let ipGetter ← createOptional ipGetters IpGetterConfig.typeName cluster.ipGetter
      return { manager, readyChecker, ipGetter, clients := cluster.client }

/-- Give a machine its client's connection and the place of its image. -/
def assignClient (machine : Machine) (client : ClientConfig) : Machine :=
  { machine with
    connection := some client.connection
    information :=
      if client.isoHttpUrl.isEmpty then machine.information
      else machine.information.insert "iso_http_url" client.isoHttpUrl }

/-- Assign clients to machines, one after the other. -/
def assignClients : List Machine → List ClientConfig → List Machine
  | machine :: machines, client :: clients =>
    assignClient machine client :: assignClients machines clients
  | machines, _ => machines

/-- Give a machine the address that was read and the name of its place. -/
def settle (index : Nat) (address : Option String) (machine : Machine) : Machine :=
  { machine with
    name := Node.defaultName index
    connection := match address with
      | some address => machine.connection.map (fun c => { c with address })
      | none => machine.connection }

/-- Whether a machine can be addressed. -/
def hasAddress (machine : Machine) : Bool :=
  machine.connection.any (fun c => !c.address.isEmpty)

/-- Wait for a machine, if there is something to wait with. -/
def awaitMachine (plan : Plan) (machine : Machine) :
    Caller Provision (Except BareMetalError Unit) :=
  match plan.readyChecker with
  | some checker => checker.isReady machine
  | none => return .ok ()

/-- Read the address of a machine, if there is something to read it with. -/
def readAddress (plan : Plan) : Caller Provision (Except BareMetalError (Option String)) :=
  match plan.ipGetter with
  | some getter => do return (← getter.getIp).map some
  | none => return .ok none

/-- Wait for the machine at an index and fill in its name and address. -/
def finishMachine (plan : Plan) (index : Nat) (machine : Machine) :
    Caller Provision (Except BareMetalError Unit) := do
  match ← awaitMachine plan machine with
  | .error error => return .error error
  | .ok () =>
    match ← readAddress plan with
    | .error error => return .error error
    | .ok address =>
      Program.modify (fun p => p.modify index (settle index address))
      if hasAddress (settle index address machine) then return .ok ()
      else return .error (.emptyAddress (Node.defaultName index))

/-- Finish machines from an index on, in order. -/
def finishMachines (plan : Plan) (index : Nat) :
    List Machine → Caller Provision (Except BareMetalError Unit)
  | [] => return .ok ()
  | machine :: rest => do
    match ← finishMachine plan index machine with
    | .error error => return .error error
    | .ok () => finishMachines plan (index + 1) rest

/-- Remove what an earlier deployment left, if there is something to wait with. -/
def cleanUp (plan : Plan) : Caller Provision (Except BareMetalError Unit) :=
  match plan.readyChecker with
  | some checker => checker.cleanUp
  | none => return .ok ()

/-- Carry out a plan. -/
def Plan.carryOut (plan : Plan) : Caller Provision (Except BareMetalError Unit) := do
  match ← cleanUp plan with
  | .error error => return .error error
  | .ok () =>
    Program.modify (fun p => { p with machines := assignClients p.machines plan.clients })
    match ← plan.manager.resetClients with
    | .error error => return .error error
    | .ok () =>
      match ← finishMachines plan 0 (← Program.get).machines with
      | .error error => return .error error
      | .ok () =>
        Program.modify (fun p => (p.setInformation "platform" platformName).setInformation
          "cluster" RackManager.typeName)
        return .ok ()

/-- Provision every machine of an environment. -/
def PlatformConfig.deploy (config : PlatformConfig) :
    Caller Provision (Except BareMetalError Unit) := do
  let p ← Program.get
  match config.plan p.machines.length with
  | .error error => return .error error
  | .ok plan => plan.carryOut

end Testbed.BareMetal
