import Testbed.Capability.Choice
import Testbed.Capability.CountSpace
import Testbed.Capability.RangeValue

/-!
# Reasons

Why a requirement and a capability do not fit, and where: a reason inside a composite is wrapped
in the place it comes from, the outermost place first.
-/
namespace Testbed

/-- The two sides of a comparison. -/
inductive Role where
  | requirement | capability
  deriving DecidableEq, Repr

def Role.text : Role → String
  | .requirement => "requirement"
  | .capability => "capability"

/-- Where in a composite a reason was found. -/
inductive Place where
  /-- A dimension or a feature, by name. -/
  | dimension (name : String)
  /-- A required node that was held against an offered one. -/
  | nodes (required offered : Nat)
  /-- A required node by itself. -/
  | node (required : Nat)
  /-- A candidate, by name. -/
  | candidate (name : String)
  deriving DecidableEq, Repr

def Place.text : Place → String
  | .dimension name => name
  | .nodes required offered => s!"node[{required}] vs node[{offered}]"
  | .node required => s!"node[{required}]"
  | .candidate name => name

/-- Why two sides do not fit. -/
inductive Reason where
  | undeclared
  | unusable
  | emptyCount (role : Role) (count : CountSpace)
  | countsDisjoint (required offered : CountSpace)
  | emptyRange (role : Role) (range : RangeValue)
  | rangesDisjoint (required offered : RangeValue)
  | emptyChoice (role : Role)
  | choicesDisjoint (required offered : List String)
  | unequal (required offered : String)
  | settingsDiffer (required offered : String)
  | featureUnsupported
  | tooFewNodes (required offered : Nat)
  | nodesTaken
  | within (place : Place) (reason : Reason)
  deriving DecidableEq

namespace Reason

/-- A set of labels as diagnostics show it. -/
def labelSet (labels : List String) : String := "\x7b" ++ ", ".intercalate labels ++ "\x7d"

/-- The wording of a reason. -/
def text : Reason → String
  | undeclared => "capability does not declare this dimension"
  | unusable => "capability declares no usable value"
  | emptyCount role count => s!"{role.text} count {count.text} allows nothing"
  | countsDisjoint required offered =>
    s!"requirement count {required.text} is not available in capability {offered.text}"
  | emptyRange role range => s!"{role.text} range {range.text} is empty"
  | rangesDisjoint required offered =>
    s!"requirement {required.text} does not overlap capability {offered.text}"
  | emptyChoice role => s!"{role.text} set is empty"
  | choicesDisjoint required offered =>
    "requires one of " ++ labelSet required ++ ", capability offers " ++ labelSet offered
  | unequal required offered => s!"requires {required}, capability is {offered}"
  | settingsDiffer required offered =>
    s!"requires {required} settings, capability declares {offered}"
  | featureUnsupported => "capability does not support this feature"
  | tooFewNodes required offered =>
    s!"node count: requires {required} node(s), capability has {offered}"
  | nodesTaken => "every compatible node is already assigned"
  | within place reason => place.text ++ ": " ++ reason.text

end Reason

/-- Move reasons to the dimension they were found in. -/
def withinDimension (name : String) (reasons : List Reason) : List Reason :=
  reasons.map (.within (.dimension name))

/-- The message of an intersection that failed. -/
def incompatibleMessage (reasons : List Reason) : String :=
  "incompatible capability: " ++ "; ".intercalate (reasons.map Reason.text)

end Testbed
