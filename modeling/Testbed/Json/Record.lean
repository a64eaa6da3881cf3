import Testbed.Json.Wire

/-!
# Records on the wire

A record is an object whose members are its fields, or an array of its fields in the order of
their declaration. Unknown members are passed over, whatever they hold; a known one may not be
repeated. An enumeration is written as the name of its member. A tagged value is a record that
carries the name of its kind in one more member, or first in an array.
-/
namespace Testbed

/-- The fields that a tree gives to a record. -/
structure Record where
  /-- Whether the fields were given by place. -/
  positional : Bool
  fields : List (String × Json)

namespace Record

/-- The value of a name in a list of members. -/
def find? (name : String) (members : List (String × Json)) : Option Json :=
  (Json.valuesOf name members).head?

/-- Members with one of the names, each name at most once. -/
def ofMembers? (names : List String) (members : List (String × Json)) : Option Record :=
  if names.all (fun name => (Json.valuesOf name members).length ≤ 1) then
    some ⟨false, members⟩
  else none

/-- The fields of a record with the given names. -/
def ofJson? (names : List String) : Json → Option Record
  | .object members => ofMembers? names members
  | .array elements =>
    if elements.length ≤ names.length then some ⟨true, names.zip elements⟩ else none
  | _ => none

variable {α : Type} [Wire α]

/-- A field that must be given. -/
def required (r : Record) (name : String) : Option α := do decode (← find? name r.fields)

/-- A field with a default. -/
def defaulted (r : Record) (name : String) (default : α) : Option α :=
  match find? name r.fields with
  | some j => decode j
  | none => some default

/-- A field that may be null, or left out of an object. -/
def nullable (r : Record) (name : String) : Option (Option α) :=
  match find? name r.fields with
  | some j => decode j
  | none => if r.positional then none else some none

end Record

namespace Json

/-- The text of an enumeration's member: its name, or an object that gives it nothing. -/
def memberName? : Json → Option String
  | .string s => some s
  | .object [(name, .null)] => some name
  | _ => none

/-- The tag of a tagged value and the tree without it. Reading the tag means reading everything
beside it as well. -/
def tagged? (tag : String) (j : Json) : Option (Json × Json) :=
  if !j.readable then none
  else match j with
    | .object members =>
      match valuesOf tag members with
      | [kind] => some (kind, .object (members.filter (fun member => member.1 ≠ tag)))
      | _ => none
    | .array (kind :: rest) => some (kind, .array rest)
    | _ => none

/-- Leave out the members of an object's list whose value is absent. -/
def present (members : List (String × Option Json)) : List (String × Json) :=
  members.filterMap (fun member => member.2.map (fun value => (member.1, value)))

end Json

/-- The wire form of an enumeration, given its members and their names. -/
@[reducible] def Wire.ofNames {α : Type} (members : List α) (name : α → String) : Wire α where
  encode a := .string (name a)
  decode j := do
    let text ← j.memberName?
    members.find? (fun a => name a = text)

end Testbed
