import Testbed.Json.Wire

/-!
# Arguments

The members of an object read by name, each for itself. A failure names the member that could not
be read.
-/
namespace Testbed

/-- The name of an argument that could not be read. -/
structure Unread where
  argument : String
  deriving DecidableEq

namespace Json

/-- A member of an object, the last one of a repeated name; a missing one is null. -/
def member (j : Json) (name : String) : Json :=
  match j with
  | .object members => (valuesOf name members).getLast?.getD .null
  | _ => .null

def isObject : Json → Bool
  | .object _ => true
  | _ => false

variable (α : Type) [Wire α]

/-- Read an argument. -/
def argument (j : Json) (name : String) : Except Unread α :=
  match decode (j.member name) with
  | some a => .ok a
  | none => .error ⟨name⟩

variable {α}

/-- Read an argument with a default for a missing or null one. -/
def argumentOr (j : Json) (name : String) (default : α) : Except Unread α := do
  return (← j.argument (Option α) name).getD default

end Json

end Testbed
