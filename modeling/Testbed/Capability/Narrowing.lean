import Testbed.Capability.Fixed
import Testbed.Capability.Reason

/-!
# Narrowing

The protocol that every capability dimension follows: `check` collects the reasons why a
requirement does not fit a capability, `intersect` narrows the requirement to what the capability
offers and picks a concrete value, or stops at the first obstacle. An absent requirement is a
wildcard: it takes the capability narrowed by itself.
-/
namespace Testbed

/-- Values that act as a requirement (first argument) or as a capability (second argument). -/
class Narrowing (α : Type) where
  check (required offered : α) : List Reason
  intersect (required offered : α) : Except (List Reason) α

namespace Narrowing

variable {α : Type} [Narrowing α]

/-- A wildcard accepts every capability that allows something. -/
def checkWildcard (offered : α) : List Reason :=
  if (check offered offered).isEmpty then [] else [.unusable]

/-- A capability narrowed by itself, as a wildcard takes it. -/
def narrowWildcard (offered : α) : Except (List Reason) α :=
  match intersect offered offered with
  | .ok narrowed => .ok narrowed
  | .error _ => .error [.unusable]

/-- Check an optional dimension. -/
def checkDimension : Option α → Option α → List Reason
  | none, none => []
  | none, some offered => checkWildcard offered
  | some _, none => [.undeclared]
  | some required, some offered => check required offered

/-- Narrow an optional dimension. -/
def intersectDimension : Option α → Option α → Except (List Reason) (Option α)
  | none, none => .ok none
  | none, some offered => (narrowWildcard offered).map some
  | some _, none => .error [.undeclared]
  | some required, some offered => (intersect required offered).map some

/-- Check a dimension of a composite. -/
def checkWithin (name : String) (required offered : Option α) : List Reason :=
  withinDimension name (checkDimension required offered)

/-- Narrow a dimension of a composite. -/
def intersectWithin (name : String) (required offered : Option α) :
    Except (List Reason) (Option α) :=
  (intersectDimension required offered).mapError (withinDimension name)

/-- Whether narrowing a value by a capability leaves it as it is. -/
def isFixedBy [DecidableEq α] (value offered : α) : Bool :=
  match intersect value offered with
  | .ok narrowed => decide (narrowed = value)
  | .error _ => false

/-- Narrow a value by one capability after the other, passing over those that do not fit. For each
the outcome, and whether the same capability would leave that as it is. -/
def chain [DecidableEq α] (value : α) : List α → List (Except (List Reason) α × Bool)
  | [] => []
  | offered :: rest =>
    match intersect value offered with
    | .ok narrowed => (.ok narrowed, isFixedBy narrowed offered) :: chain narrowed rest
    | .error reasons => (.error reasons, false) :: chain value rest

end Narrowing

/-- Succeed when there are no reasons against it. -/
def requireNone : List Reason → Except (List Reason) Unit
  | [] => .ok ()
  | reasons => .error reasons

namespace CountSpace

def check (required offered : CountSpace) : List Reason :=
  if required.isEmpty then [.emptyCount .requirement required]
  else if offered.isEmpty then [.emptyCount .capability offered]
  else if (required.narrow offered).isEmpty then [.countsDisjoint required offered]
  else []

/-- The common counts, with the smallest of them picked. -/
def intersect (required offered : CountSpace) : Except (List Reason) CountSpace := do
  requireNone (required.check offered)
  let narrowed := required.narrow offered
  return { narrowed with current := some narrowed.smallest }

instance : Narrowing CountSpace := ⟨check, intersect⟩

end CountSpace

namespace RangeValue

def check (required offered : RangeValue) : List Reason :=
  if required.isEmpty then [.emptyRange .requirement required]
  else if offered.isEmpty then [.emptyRange .capability offered]
  else if (required.overlap? offered).isSome then []
  else [.rangesDisjoint required offered]

/-- The overlap, with its lower end picked, or its upper end when one side asks for that and the
overlap has one. -/
def intersect (required offered : RangeValue) : Except (List Reason) RangeValue := do
  requireNone (required.check offered)
  let (min, max) := (required.overlap? offered).getD (required.min, required.max)
  let chooseMax := required.chooseMax || offered.chooseMax
  return { min, max, current := some (if chooseMax then max.getD min else min), chooseMax }

instance : Narrowing RangeValue := ⟨check, intersect⟩

end RangeValue

namespace Choice

variable {α : Type} [LT α] [DecidableLT α] [StrictOrder α] [DecidableEq α] [Domain α]

/-- The labels of a set's members, in the order of the set. -/
def labels (c : Choice α) : List String := c.items.toList.map Domain.label

def check (required offered : Choice α) : List Reason :=
  if offered.items.isEmpty then [.emptyChoice .capability]
  else if required.items.isEmpty then [.emptyChoice .requirement]
  else if (required.items.inter offered.items).isEmpty then
    [.choicesDisjoint required.labels offered.labels]
  else []

/-- The common members, with the most preferred of them picked. -/
def intersect (required offered : Choice α) : Except (List Reason) (Choice α) := do
  requireNone (required.check offered)
  let narrowed : Choice α := { items := required.items.inter offered.items }
  return { narrowed with current := narrowed.preferred }

instance : Narrowing (Choice α) := ⟨check, intersect⟩

end Choice

namespace Fixed

variable {α : Type} [DecidableEq α] [Shown α]

def check (required offered : Fixed α) : List Reason :=
  if required.value = offered.value then []
  else [.unequal (Shown.shown required.value) (Shown.shown offered.value)]

def intersect (required offered : Fixed α) : Except (List Reason) (Fixed α) := do
  requireNone (required.check offered)
  return offered

instance : Narrowing (Fixed α) := ⟨check, intersect⟩

end Fixed

end Testbed
