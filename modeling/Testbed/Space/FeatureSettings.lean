import Testbed.Capability.Narrowing
import Testbed.Data.Dict
import Testbed.Space.Kinds

/-!
# Feature settings

What a node or an environment declares about a feature. A feature without tunables is a mere
presence; as a requirement it accepts any settings. Feature maps are narrowed feature by feature:
a required feature must be offered, and an offered one that is not required is a wildcard.
-/
namespace Testbed

structure NetworkInterfaceSettings where
  nicCount : Option CountSpace := none
  deriving DecidableEq

structure SecurityProfileSettings where
  profile : Option (Choice SecurityProfileType) := none
  encryptDisk : Option (Fixed Bool) := none
  /-- The guest firmware image. It is not matched: the requirement's image stays, and only where
  it names none the capability's is taken. -/
  igvm : Option String := none
  deriving DecidableEq

inductive FeatureSettings where
  /-- The feature exists and has no tunables. -/
  | presence
  | networkInterface (settings : NetworkInterfaceSettings)
  | securityProfile (settings : SecurityProfileSettings)
  deriving DecidableEq

namespace FeatureSettings

def kind : FeatureSettings → String
  | presence => "presence"
  | networkInterface _ => "network_interface"
  | securityProfile _ => "security_profile"

open Narrowing

/-- The check of settings that are not a mere presence on the required side. -/
def checkSettings : FeatureSettings → FeatureSettings → List Reason
  | presence, presence => []
  | networkInterface required, networkInterface offered =>
    checkWithin "nic_count" required.nicCount offered.nicCount
  | securityProfile required, securityProfile offered =>
    checkWithin "profile" required.profile offered.profile ++
      checkWithin "encrypt_disk" required.encryptDisk offered.encryptDisk
  | required, offered => [.settingsDiffer required.kind offered.kind]

/-- The narrowing of settings that are not a mere presence on the required side. -/
def intersectSettings : FeatureSettings → FeatureSettings → Except (List Reason) FeatureSettings
  | presence, presence => .ok presence
  | networkInterface required, networkInterface offered => do
    let nicCount ← intersectWithin "nic_count" required.nicCount offered.nicCount
    return networkInterface { nicCount }
  | securityProfile required, securityProfile offered => do
    let profile ← intersectWithin "profile" required.profile offered.profile
    let encryptDisk ← intersectWithin "encrypt_disk" required.encryptDisk offered.encryptDisk
    return securityProfile { profile, encryptDisk, igvm := required.igvm <|> offered.igvm }
  | required, offered => .error [.settingsDiffer required.kind offered.kind]

/-- A required presence is a wildcard for the settings that are offered. -/
def check : FeatureSettings → FeatureSettings → List Reason
  | presence, offered => if (checkSettings offered offered).isEmpty then [] else [.unusable]
  | required, offered => checkSettings required offered

def intersect : FeatureSettings → FeatureSettings → Except (List Reason) FeatureSettings
  | presence, offered =>
    match intersectSettings offered offered with
    | .ok narrowed => .ok narrowed
    | .error _ => .error [.unusable]
  | required, offered => intersectSettings required offered

instance : Narrowing FeatureSettings := ⟨check, intersect⟩

end FeatureSettings

/-- Feature settings by the name of the feature. -/
abbrev FeatureMap := Dict String FeatureSettings

namespace FeatureMap

open Narrowing

/-- The required features of one name after the other. -/
def checkRequired (offered : FeatureMap) (entry : String × FeatureSettings) : List Reason :=
  withinDimension entry.1 <| match offered.get? entry.1 with
    | some settings => check entry.2 settings
    | none => [.featureUnsupported]

/-- An offered feature that is not required. -/
def checkOffered (required : FeatureMap) (entry : String × FeatureSettings) : List Reason :=
  if required.contains entry.1 then [] else withinDimension entry.1 (checkWildcard entry.2)

def check (required offered : FeatureMap) : List Reason :=
  required.entries.flatMap (checkRequired offered) ++
    offered.entries.flatMap (checkOffered required)

/-- Narrow one required feature into the result. -/
def intersectRequired (offered merged : FeatureMap) (entry : String × FeatureSettings) :
    Except (List Reason) FeatureMap :=
  (match offered.get? entry.1 with
    | some settings => (Narrowing.intersect entry.2 settings).map (merged.insert entry.1)
    | none => .error [.featureUnsupported]).mapError (withinDimension entry.1)

/-- Narrow one offered feature into the result unless it is required. -/
def intersectOffered (required merged : FeatureMap) (entry : String × FeatureSettings) :
    Except (List Reason) FeatureMap :=
  if required.contains entry.1 then .ok merged
  else ((narrowWildcard entry.2).map (merged.insert entry.1)).mapError (withinDimension entry.1)

def intersect (required offered : FeatureMap) : Except (List Reason) FeatureMap := do
  let merged ← required.entries.foldlM (intersectRequired offered) ∅
  offered.entries.foldlM (intersectOffered required) merged

end FeatureMap

end Testbed
