import Testbed.Json.Wire
import Testbed.Json.Writer

/-!
# Setting fields of messages

Values are written into a message by the wire names of its fields: the message is encoded, the named
members are replaced, and the result is decoded again. Names that the message does not have are
passed over, and its type cannot be set.
-/
namespace Testbed

/-- Which fields may be set. -/
inductive FieldPolicy where
  /-- Fields that hold a string, so that flat facts leave measured values alone. -/
  | stringsOnly
  /-- Any field. -/
  | any
  deriving DecidableEq, Repr

/-- Why a message cannot be built. -/
inductive MessageError where
  | missingEnvironment (resultId : String)
  | missingField (field : String)
  /-- A value that its field cannot take. -/
  | invalidField (field : String) (value : Json)

/-- The wording of a message error. -/
def MessageError.message : MessageError → String
  | missingEnvironment resultId => s!"test result {resultId} has no environment"
  | missingField field => s!"required field {field} is empty"
  | invalidField field value => s!"field {field} cannot take value {value.compact}"

namespace FieldPolicy

def isString : Json → Bool
  | .string _ => true
  | _ => false

/-- Whether a field that holds a value may be set. -/
def admits (p : FieldPolicy) (name : String) (held : Json) : Bool :=
  name ≠ "type" && (p = .any || isString held)

/-- The value that a member is set to, if it is. -/
def replacement? (p : FieldPolicy) (fields : Dict String Json) (member : String × Json) :
    Option Json :=
  if p.admits member.1 member.2 then fields.get? member.1 else none

/-- A member with its value replaced, if it is. -/
def replace (p : FieldPolicy) (fields : Dict String Json) (member : String × Json) :
    String × Json :=
  (member.1, (p.replacement? fields member).getD member.2)

end FieldPolicy

/-- Put a value at a name, where members have that name. -/
def putMember (name : String) (value : Json) (members : List (String × Json)) :
    List (String × Json) :=
  members.map (fun member => if member.1 = name then (name, value) else member)

/-- The first of some fields that a message cannot take by itself, in the order of their names. -/
def firstMismatch (α : Type) [Wire α] (members : List (String × Json)) :
    List (String × Json) → Option (String × Json)
  | [] => none
  | (name, value) :: rest =>
    if members.any (fun member => member.1 = name) &&
        (decode (.object (putMember name value members)) : Option α).isNone then
      some (name, value)
    else firstMismatch α members rest

/-- Set every field that has a value and may be set. -/
def applyFields {α : Type} [Wire α] (message : α) (fields : Dict String Json)
    (policy : FieldPolicy) : Except MessageError α :=
  match encode message with
  | .object members =>
    if members.all (fun member => (policy.replacement? fields member).isNone) then .ok message
    else match decode (.object (members.map (policy.replace fields))) with
      | some message => .ok message
      | none =>
        let (name, value) := (firstMismatch α members fields.entries).getD ("", .null)
        .error (.invalidField name value)
  | _ => .ok message

end Testbed
