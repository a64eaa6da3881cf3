import Testbed.BareMetal.Error
import Testbed.Data.Dict
import Testbed.Json.Wire
import Testbed.Text.Quoted

/-!
# Registries by type

Constructors by the type tag that a runbook gives, for each kind of thing that is picked that way.
-/
namespace Testbed.BareMetal

/-- Constructors of `α` from a configuration `κ`, by type. -/
structure Registry (κ α : Type) where
  kind : Kind
  factories : Dict String (κ → Except BareMetalError α) := ∅

namespace Registry

variable {κ α : Type}

/-- Add a constructor; a type that is there cannot be registered again. -/
def register (r : Registry κ α) (typeName : String) (factory : κ → Except BareMetalError α) :
    Except BareMetalError (Registry κ α) :=
  if r.factories.contains typeName then .error (.duplicateType r.kind typeName)
  else .ok { r with factories := r.factories.insert typeName factory }

def contains (r : Registry κ α) (typeName : String) : Bool := r.factories.contains typeName

def create (r : Registry κ α) (typeName : String) (config : κ) : Except BareMetalError α :=
  match r.factories.get? typeName with
  | some factory => factory config
  | none => .error (.unknownType r.kind typeName)

/-- A registry as diagnostics show it. -/
def text (r : Registry κ α) : String :=
  "Registry \x7b kind: " ++ Text.quoted r.kind.name ++ ", types: [" ++
    ", ".intercalate (r.factories.keys.map Text.quoted) ++ "] \x7d"

end Registry

end Testbed.BareMetal
