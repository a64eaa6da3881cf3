import Testbed.Message.Basic
import Testbed.Platform.Feature

/-!
# Nodes

One machine of an environment: what was resolved for it, how it is reached, the facts that a
platform recorded about it, its features and its open session.
-/
namespace Testbed

/-- An open session, known by the endpoint that it was opened to. -/
structure Session where
  endpoint : String
  deriving DecidableEq

/-- The part of a node that a platform fills in. -/
structure Machine where
  name : String
  connection : Option ConnectionInfo := none
  information : Facts := ∅
  deriving DecidableEq

structure Node extends Machine where
  index : Nat
  /-- The resolved capability. -/
  capability : NodeSpace
  features : Dict FeatureType FeatureHandle := ∅
  session : Option Session := none

namespace Node

/-- The name of a node that nobody renamed. -/
def defaultName (index : Nat) : String := s!"node_{index}"

def new (index : Nat) (capability : NodeSpace) : Node :=
  { index, name := defaultName index, capability }

/-- Give nodes their machines, one after the other. Nodes keep what a machine does not have, and
those beyond the last machine stay as they are. -/
def equip : List Node → List Machine → List Node
  | node :: nodes, machine :: machines => { node with toMachine := machine } :: equip nodes machines
  | nodes, _ => nodes

/-- Attach a feature in place of the one of its type. -/
def attach (n : Node) (handle : FeatureHandle) : Node :=
  { n with features := n.features.insert handle.type handle }

def clearFeatures (n : Node) : Node := { n with features := ∅ }

def featureTypes (n : Node) : List FeatureType := n.features.keys

def feature? (n : Node) (type : FeatureType) : Option FeatureHandle := n.features.get? type

def isConnected (n : Node) : Bool := n.session.isSome

def unsupported (n : Node) (type : FeatureType) : FeatureError := .unsupported type n.name

/-- The outcome of resizing. -/
def resize (n : Node) : Except FeatureError (Except FeatureError ResizeOutcome) :=
  match n.feature? .resize with
  | some (.resize outcome) => .ok outcome
  | _ => .error (n.unsupported .resize)

/-- The power switch. -/
def startStop (n : Node) : Except FeatureError PowerSwitch :=
  match n.feature? .startStop with
  | some (.startStop power) => .ok power
  | _ => .error (n.unsupported .startStop)

/-- The log of the serial console. -/
def serialConsole (n : Node) : Except FeatureError (List UInt8) :=
  match n.feature? .serialConsole with
  | some (.serialConsole log) => .ok log
  | _ => .error (n.unsupported .serialConsole)

/-- The number of network interfaces. -/
def networkInterface (n : Node) : Except FeatureError UInt32 :=
  match n.feature? .networkInterface with
  | some (.networkInterface _ nicCount) => .ok nicCount
  | _ => .error (n.unsupported .networkInterface)

/-- The error of a command for a node without a session. -/
def notConnected (n : Node) (command : String) : SessionError :=
  .execute command s!"{n.name} is not connected"

end Node

end Testbed
