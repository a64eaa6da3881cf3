import Testbed.Capability.Choice
import Testbed.Json.Record

/-!
# Kinds of disks, data paths and security profiles

The finite domains that choices are made from. Their members are ordered as they are declared;
the order of preference is a list of its own.
-/
namespace Testbed

/-- How a node's network traffic reaches its interface. -/
inductive NetworkDataPath where
  | synthetic | sriov
  deriving DecidableEq, Repr

/-- The type of a node's system disk. -/
inductive DiskType where
  | standardHdd | standardSsd | ephemeral | premiumSsd | premiumV2Ssd | ultraSsd
  deriving DecidableEq, Repr

/-- The security profile of a machine. -/
inductive SecurityProfileType where
  | standard | secureBoot | confidential | stateless
  deriving DecidableEq, Repr

namespace NetworkDataPath

instance : LT NetworkDataPath := ⟨fun a b => a.ctorIdx < b.ctorIdx⟩

instance : DecidableLT NetworkDataPath := fun a b =>
  inferInstanceAs (Decidable (a.ctorIdx < b.ctorIdx))

instance : StrictOrder NetworkDataPath :=
  .ofIndex NetworkDataPath.ctorIdx (by intro a b; cases a <;> cases b <;> decide)
    (fun _ _ => Iff.rfl)

def name : NetworkDataPath → String
  | synthetic => "Synthetic"
  | sriov => "Sriov"

/-- The direct path is preferred when both are offered. -/
instance : Domain NetworkDataPath where
  priority := [sriov, synthetic]
  label := name

instance : Wire NetworkDataPath := .ofNames [synthetic, sriov] name

end NetworkDataPath

namespace DiskType

instance : LT DiskType := ⟨fun a b => a.ctorIdx < b.ctorIdx⟩

instance : DecidableLT DiskType := fun a b => inferInstanceAs (Decidable (a.ctorIdx < b.ctorIdx))

instance : StrictOrder DiskType :=
  .ofIndex DiskType.ctorIdx (by intro a b; cases a <;> cases b <;> decide) (fun _ _ => Iff.rfl)

/-- Every member, cheapest first. -/
def all : List DiskType :=
  [standardHdd, standardSsd, ephemeral, premiumSsd, premiumV2Ssd, ultraSsd]

/-- The name on the wire. -/
def name : DiskType → String
  | standardHdd => "StandardHDDLRS"
  | standardSsd => "StandardSSDLRS"
  | ephemeral => "Ephemeral"
  | premiumSsd => "PremiumSSDLRS"
  | premiumV2Ssd => "PremiumV2SSDLRS"
  | ultraSsd => "UltraSSD"

/-- The name in diagnostics. -/
def label : DiskType → String
  | standardHdd => "StandardHddLrs"
  | standardSsd => "StandardSsdLrs"
  | ephemeral => "Ephemeral"
  | premiumSsd => "PremiumSsdLrs"
  | premiumV2Ssd => "PremiumV2SsdLrs"
  | ultraSsd => "UltraSsd"

instance : Domain DiskType := ⟨all, label⟩

instance : Wire DiskType := .ofNames all name

end DiskType

namespace SecurityProfileType

instance : LT SecurityProfileType := ⟨fun a b => a.ctorIdx < b.ctorIdx⟩

instance : DecidableLT SecurityProfileType := fun a b =>
  inferInstanceAs (Decidable (a.ctorIdx < b.ctorIdx))

instance : StrictOrder SecurityProfileType :=
  .ofIndex SecurityProfileType.ctorIdx (by intro a b; cases a <;> cases b <;> decide)
    (fun _ _ => Iff.rfl)

def all : List SecurityProfileType := [standard, secureBoot, confidential, stateless]

/-- The name on the wire. -/
def name : SecurityProfileType → String
  | standard => "Standard"
  | secureBoot => "SecureBoot"
  | confidential => "CVM"
  | stateless => "Stateless"

/-- The name in diagnostics. -/
def label : SecurityProfileType → String
  | standard => "Standard"
  | secureBoot => "SecureBoot"
  | confidential => "Cvm"
  | stateless => "Stateless"

instance : Domain SecurityProfileType := ⟨all, label⟩

instance : Wire SecurityProfileType := .ofNames all name

end SecurityProfileType

end Testbed
