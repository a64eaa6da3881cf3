import Testbed.Number.Binary64

/-!
# JSON values

The tree that a JSON text spells. Members of an object keep the order and the repetitions of the
text, since records and dictionaries treat a repeated name differently. A part that only fails
once somebody looks at it (a number beyond the doubles, a lone surrogate, nesting that is too deep)
is the leaf `unreadable`.
-/
namespace Testbed

inductive Json where
  | null
  | bool (value : Bool)
  | integer (value : Int)
  | float (value : Binary64)
  | string (value : String)
  | array (elements : List Json)
  | object (members : List (String × Json))
  | unreadable
  deriving Inhabited

namespace Json

/-- The members of a list that have a name, in order. -/
def valuesOf (name : String) (members : List (String × Json)) : List Json :=
  (members.filter (fun member => member.1 = name)).map (·.2)

mutual

/-- Whether no part of a value is unreadable. -/
def readable : Json → Bool
  | .array elements => readableElements elements
  | .object members => readableMembers members
  | .unreadable => false
  | _ => true

def readableElements : List Json → Bool
  | [] => true
  | element :: rest => element.readable && readableElements rest

def readableMembers : List (String × Json) → Bool
  | [] => true
  | (_, value) :: rest => value.readable && readableMembers rest

end

/-- Put a member into a list that ascends by name, replacing the one of that name. -/
def insertMember (name : String) (value : Json) : List (String × Json) → List (String × Json)
  | [] => [(name, value)]
  | member :: rest =>
    if name < member.1 then (name, value) :: member :: rest
    else if member.1 < name then member :: insertMember name value rest
    else (name, value) :: rest

mutual

/-- The value with the members of every object ascending by name, the last of each name kept. -/
def sorted : Json → Json
  | .array elements => .array (sortedElements elements)
  | .object members => .object (sortedMembers [] members)
  | value => value

def sortedElements : List Json → List Json
  | [] => []
  | element :: rest => element.sorted :: sortedElements rest

def sortedMembers (done : List (String × Json)) : List (String × Json) → List (String × Json)
  | [] => done
  | (name, value) :: rest => sortedMembers (insertMember name value.sorted done) rest

end

end Json

end Testbed
