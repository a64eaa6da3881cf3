import Testbed.BareMetal.Config
import Testbed.BareMetal.Registry
import Testbed.Platform.Call

/-!
# Clusters

A cluster power-cycles the clients behind it. The one kind there is, the rack manager, is reached
over a session of its own and resets clients by the ports they are plugged into. It is not touched
before every port is known.
-/
namespace Testbed.BareMetal

structure RackManager where
  connection : ConnectionInfo
  clients : List ClientConfig
  deriving DecidableEq

namespace RackManager

def typeName : String := "rackmanager"

def ofConfig (config : ClusterConfig) : Except BareMetalError RackManager :=
  match config.settings.connection? with
  | some connection => .ok { connection, clients := config.client }
  | none => .error (.invalidSettings .cluster typeName)

/-- The command that resets the client at a port. -/
def resetCommand (port : UInt32) : String := s!"set system reset -i {port.toNat}"

/-- The ports of clients, counted from an index on. -/
def portsFrom (index : Nat) : List ClientConfig → Except BareMetalError (List UInt32)
  | [] => .ok []
  | client :: rest =>
    match client.managementPort with
    | none => .error (.missingManagementPort index)
    | some port => (portsFrom (index + 1) rest).map (port :: ·)

/-- The ports of all clients. -/
def ports (r : RackManager) : Except BareMetalError (List UInt32) :=
  if r.clients.isEmpty then .error (.noClient typeName) else portsFrom 0 r.clients

variable {σ : Type}

/-- Reset the clients at some ports, up to the first that fails. -/
def resetAll (session : Session) : List UInt32 → Caller σ (Except BareMetalError Unit)
  | [] => return .ok ()
  | port :: rest => do
    match ← Program.request (Call.execute session (resetCommand port)) with
    | .error cause => return .error (.session cause)
    | .ok result =>
      if result.success then resetAll session rest
      else return .error (.commandFailed (resetCommand port) result.exitCode result.stdout)

/-- Open the session of the rack manager. -/
def openSession (r : RackManager) : Caller σ (Except BareMetalError Session) := do
  match ← Program.request (Call.connect r.connection none) with
  | .opened session => return .ok session
  | .refused cause => return .error (.session cause)
  | .overdue => return .error (.session (.connect r.connection.endpoint "timed out"))

/-- Reset every client, so that it boots into the image under test. -/
def resetClients (r : RackManager) : Caller σ (Except BareMetalError Unit) := do
  match r.ports with
  | .error error => return .error error
  | .ok ports =>
    match ← r.openSession with
    | .error error => return .error error
    | .ok session => resetAll session ports

end RackManager

/-- The types of clusters. -/
def clusters : Registry ClusterConfig RackManager :=
  { kind := .cluster, factories := .ofList [(RackManager.typeName, RackManager.ofConfig)] }

end Testbed.BareMetal
