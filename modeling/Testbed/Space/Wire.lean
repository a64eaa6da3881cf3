import Testbed.Json.Record
import Testbed.Space.Resolution

/-!
# Wire forms of spaces

Absent dimensions, empty maps, empty lists of counts and an unset preference for the upper end are
left out when a space is written; everything else is written even when it holds its default.
-/
namespace Testbed

/-- A member that is written only when it holds something. -/
def whenPresent {α : Type} [Wire α] (name : String) (value : Option α) : String × Option Json :=
  (name, value.map encode)

/-- A member that is always written. -/
def always {α : Type} [Wire α] (name : String) (value : α) : String × Option Json :=
  (name, some (encode value))

/-- A member that is written unless a test says that it holds its default. -/
def unlessDefault {α : Type} [Wire α] (name : String) (isDefault : Bool) (value : α) :
    String × Option Json :=
  (name, if isDefault then none else some (encode value))

instance : Wire CountSpace where
  encode s := .object (Json.present [
    unlessDefault "counts" s.counts.isEmpty s.counts, always "min" s.min, whenPresent "max" s.max,
    whenPresent "current" s.current])
  decode j := do
    let r ← Record.ofJson? ["counts", "min", "max", "current"] j
    return { counts := ← r.defaulted "counts" ∅
             min := ← r.defaulted "min" 0
             max := ← r.defaulted "max" none
             current := ← r.defaulted "current" none }

instance : Wire RangeValue where
  encode r := .object (Json.present [
    always "min" r.min, whenPresent "max" r.max, whenPresent "current" r.current,
    unlessDefault "choose_max" (!r.chooseMax) r.chooseMax])
  decode j := do
    let r ← Record.ofJson? ["min", "max", "current", "choose_max"] j
    return { min := ← r.defaulted "min" 0
             max := ← r.defaulted "max" none
             current := ← r.defaulted "current" none
             chooseMax := ← r.defaulted "choose_max" false }

instance {α : Type} [LT α] [DecidableLT α] [StrictOrder α] [Wire α] : Wire (Choice α) where
  encode c := .object (Json.present [always "items" c.items, whenPresent "current" c.current])
  decode j := do
    let r ← Record.ofJson? ["items", "current"] j
    return { items := ← r.required "items", current := ← r.defaulted "current" none }

/-- A fixed value is written as the value itself. -/
instance {α : Type} [Wire α] : Wire (Fixed α) where
  encode f := encode f.value
  decode j := (decode j).map Fixed.mk

namespace NetworkInterfaceSettings

def members (s : NetworkInterfaceSettings) : List (String × Json) :=
  Json.present [whenPresent "nic_count" s.nicCount]

def ofJson? (j : Json) : Option NetworkInterfaceSettings := do
  let r ← Record.ofJson? ["nic_count"] j
  return { nicCount := ← r.defaulted "nic_count" none }

end NetworkInterfaceSettings

namespace SecurityProfileSettings

def members (s : SecurityProfileSettings) : List (String × Json) :=
  Json.present [whenPresent "profile" s.profile, whenPresent "encrypt_disk" s.encryptDisk,
    whenPresent "igvm" s.igvm]

def ofJson? (j : Json) : Option SecurityProfileSettings := do
  let r ← Record.ofJson? ["profile", "encrypt_disk", "igvm"] j
  return { profile := ← r.defaulted "profile" none
           encryptDisk := ← r.defaulted "encrypt_disk" none
           igvm := ← r.defaulted "igvm" none }

end SecurityProfileSettings

namespace FeatureSettings

def members : FeatureSettings → List (String × Json)
  | presence => []
  | networkInterface s => s.members
  | securityProfile s => s.members

/-- Settings are tagged by their kind. A presence has no fields, but passes over members. -/
def ofJson? (j : Json) : Option FeatureSettings := do
  let (kind, content) ← j.tagged? "kind"
  match kind, content with
  | .string "presence", .array (_ :: _) => none
  | .string "presence", _ => some presence
  | .string "network_interface", content =>
    (NetworkInterfaceSettings.ofJson? content).map networkInterface
  | .string "security_profile", content =>
    (SecurityProfileSettings.ofJson? content).map securityProfile
  | _, _ => none

instance : Wire FeatureSettings where
  encode s := .object (("kind", .string s.kind) :: s.members)
  decode := ofJson?

end FeatureSettings

instance : Wire NodeSpace where
  encode n := .object (Json.present [
    whenPresent "core_count" n.coreCount, whenPresent "memory_mb" n.memoryMb,
    whenPresent "disk_type" n.diskType, whenPresent "network_data_path" n.networkDataPath,
    unlessDefault "features" n.features.isEmpty n.features])
  decode j := do
    let r ← Record.ofJson?
      ["core_count", "memory_mb", "disk_type", "network_data_path", "features"] j
    return { coreCount := ← r.defaulted "core_count" none
             memoryMb := ← r.defaulted "memory_mb" none
             diskType := ← r.defaulted "disk_type" none
             networkDataPath := ← r.defaulted "network_data_path" none
             features := ← r.defaulted "features" ∅ }

instance : Wire EnvironmentSpace where
  encode e := .object (Json.present [
    whenPresent "name" e.name, always "nodes" e.nodes,
    unlessDefault "features" e.features.isEmpty e.features])
  decode j := do
    let r ← Record.ofJson? ["name", "nodes", "features"] j
    return { name := ← r.defaulted "name" none
             nodes := ← r.defaulted "nodes" []
             features := ← r.defaulted "features" ∅ }

instance : Wire MatchedEnvironment where
  encode m := .object [
    ("candidate_index", encode m.candidateIndex), ("name", encode m.name),
    ("space", encode m.space), ("node_assignment", encode m.nodeAssignment)]
  decode j := do
    let r ← Record.ofJson? ["candidate_index", "name", "space", "node_assignment"] j
    return { candidateIndex := ← r.required "candidate_index"
             name := ← r.required "name"
             space := ← r.required "space"
             nodeAssignment := ← r.required "node_assignment" }

end Testbed
