import Testbed.Data.Dict
import Testbed.Platform.Connection
import Testbed.Time.Deadline

/-!
# Features

A feature is a capability of a node that comes with behaviour: resizing it, switching its power,
reading its serial console. The features here are the ones that run in memory: a resize with a fixed
outcome, a power switch that keeps its state or is stuck at running, a console with a fixed log.
-/
namespace Testbed

inductive FeatureType where
  | resize | startStop | serialConsole | networkInterface | securityProfile
  deriving DecidableEq, Repr

namespace FeatureType

def all : List FeatureType := [resize, startStop, serialConsole, networkInterface, securityProfile]

/-- The name of a feature in a node's feature map. -/
def name : FeatureType → String
  | resize => "Resize"
  | startStop => "StartStop"
  | serialConsole => "SerialConsole"
  | networkInterface => "NetworkInterface"
  | securityProfile => "SecurityProfile"

instance : LT FeatureType := ⟨fun a b => a.ctorIdx < b.ctorIdx⟩

instance : DecidableLT FeatureType := fun a b => inferInstanceAs (Decidable (a.ctorIdx < b.ctorIdx))

instance : StrictOrder FeatureType :=
  .ofIndex FeatureType.ctorIdx (by intro a b; cases a <;> cases b <;> decide) (fun _ _ => Iff.rfl)

instance : Wire FeatureType := .ofNames all name

end FeatureType

/-- How a feature fails. The wording of the first two decides whether a case counts as skipped. -/
inductive FeatureError where
  | noAvailableSize
  | currentSizeNotEligible (current : String)
  | unsupported (feature : FeatureType) (node : String)
  | unknownType (name : String)
  | powerStateTimeout (expected operation : String)
  /-- The time to wait is too long for the clock. This breaks off everything. -/
  | noDeadline
  | operation (feature : FeatureType) (reason : String)
  deriving DecidableEq

/-- The wording of a feature error. -/
def FeatureError.message : FeatureError → String
  | noAvailableSize => "no available size for resizing"
  | currentSizeNotEligible current => s!"cannot find current vm size in eligible list: {current}"
  | unsupported feature node => s!"feature {feature.name} is not supported on node {node}"
  | unknownType name => s!"unknown feature type: {name}"
  | powerStateTimeout expected step => s!"VM is not in {expected} status after {step}"
  | noDeadline => noDeadlineMessage
  | operation feature reason => s!"{feature.name} failed: {reason}"

/-- The kind of a feature error, as reports name it. -/
def FeatureError.kind : FeatureError → String
  | noAvailableSize => "NoAvailableSize"
  | currentSizeNotEligible _ => "CurrentSizeNotEligible"
  | unsupported .. => "Unsupported"
  | unknownType _ => "UnknownType"
  | powerStateTimeout .. => "PowerStateTimeout"
  | noDeadline => "Panic"
  | operation .. => "Operation"

/-- The type of a name. -/
def FeatureType.ofName (name : String) : Except FeatureError FeatureType :=
  match all.find? (fun t => t.name = name) with
  | some t => .ok t
  | none => .error (.unknownType name)

inductive ResizeAction where
  | increaseCoreCount | decreaseCoreCount | randomResize
  deriving DecidableEq, Repr

def ResizeAction.name : ResizeAction → String
  | increaseCoreCount => "IncreaseCoreCount"
  | decreaseCoreCount => "DecreaseCoreCount"
  | randomResize => "RandomResize"

instance : Wire ResizeAction :=
  .ofNames [.increaseCoreCount, .decreaseCoreCount, .randomResize] ResizeAction.name

/-- What a resize made of a node. -/
structure ResizeOutcome where
  capability : NodeSpace
  oldSize : String
  newSize : String
  deriving DecidableEq

instance : Wire ResizeOutcome where
  encode o := .object [("capability", encode o.capability), ("old_size", encode o.oldSize),
    ("new_size", encode o.newSize)]
  decode j := do
    let r ← Record.ofJson? ["capability", "old_size", "new_size"] j
    return { capability := ← r.required "capability"
             oldSize := ← r.required "old_size"
             newSize := ← r.required "new_size" }

/-- How a machine is stopped. -/
inductive StopState where
  | shutdown | deallocate | hibernate
  deriving DecidableEq, Repr

def StopState.name : StopState → String
  | shutdown => "Shutdown"
  | deallocate => "Deallocate"
  | hibernate => "Hibernate"

instance : Wire StopState := .ofNames [.shutdown, .deallocate, .hibernate] StopState.name

/-- The power states that providers report. -/
inductive PowerState where
  | running | stopped | deallocated
  deriving DecidableEq, Repr

namespace PowerState

/-- The status text of a provider. -/
def statusText : PowerState → String
  | running => "VM running"
  | stopped => "VM stopped"
  | deallocated => "VM deallocated"

def shortName : PowerState → String
  | running => "running"
  | stopped => "stopped"
  | deallocated => "deallocated"

/-- The state that a machine is in once it has been stopped. -/
def afterStop : StopState → PowerState
  | .shutdown => stopped
  | .deallocate | .hibernate => deallocated

end PowerState

/-- A power switch. -/
inductive PowerSwitch where
  /-- A machine that is in a state of its own. -/
  | switchable (state : PowerState)
  /-- A machine whose power is controlled elsewhere. -/
  | alwaysRunning
  deriving DecidableEq

namespace PowerSwitch

def stop (s : PowerSwitch) (state : StopState) : PowerSwitch :=
  match s with
  | switchable _ => switchable (.afterStop state)
  | alwaysRunning => alwaysRunning

/-- Starting a machine, and restarting it. -/
def start : PowerSwitch → PowerSwitch
  | switchable _ => switchable .running
  | alwaysRunning => alwaysRunning

def status : PowerSwitch → String
  | switchable state => state.statusText
  | alwaysRunning => PowerState.running.statusText

end PowerSwitch

/-- A feature attached to a node. -/
inductive FeatureHandle where
  | resize (outcome : Except FeatureError ResizeOutcome)
  | startStop (power : PowerSwitch)
  | serialConsole (log : List UInt8)
  | networkInterface (settings : FeatureSettings) (nicCount : UInt32)
  | securityProfile (settings : SecurityProfileSettings)

namespace FeatureHandle

def type : FeatureHandle → FeatureType
  | resize _ => .resize
  | startStop _ => .startStop
  | serialConsole _ => .serialConsole
  | networkInterface .. => .networkInterface
  | securityProfile _ => .securityProfile

/-- What the feature declares as a capability. -/
def settings : FeatureHandle → FeatureSettings
  | resize _ | startStop _ | serialConsole _ => .presence
  | networkInterface settings _ => settings
  | securityProfile settings => .securityProfile settings

/-- A feature as diagnostics show it. -/
def text (h : FeatureHandle) : String := s!"FeatureHandle({h.type.name})"

end FeatureHandle

end Testbed
