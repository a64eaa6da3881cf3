import Testbed.Data.Dict
import Testbed.Data.SortedSet
import Testbed.Json.Basic

/-!
# Wire forms

How values are written as JSON trees and read back. `decode` gives no reason for a refusal: callers
only ever learn that a tree does not spell a value of the type.
-/
namespace Testbed

/-- A type with a wire form. -/
class Wire (α : Type) where
  encode : α → Json
  decode : Json → Option α

namespace Wire

variable {α : Type}

instance : Wire Bool where
  encode := .bool
  decode
    | .bool b => some b
    | _ => none

instance : Wire String where
  encode := .string
  decode
    | .string s => some s
    | _ => none

/-- An integer literal within bounds, both included. -/
def decodeInteger (low high : Int) : Json → Option Int
  | .integer i => if low ≤ i ∧ i ≤ high then some i else none
  | _ => none

instance : Wire Nat where
  encode n := .integer n
  decode j := (decodeInteger 0 0xffffffffffffffff j).map Int.toNat

instance : Wire UInt16 where
  encode n := .integer n.toNat
  decode j := (decodeInteger 0 0xffff j).map (fun i => .ofNat i.toNat)

instance : Wire UInt32 where
  encode n := .integer n.toNat
  decode j := (decodeInteger 0 0xffffffff j).map (fun i => .ofNat i.toNat)

instance : Wire UInt64 where
  encode n := .integer n.toNat
  decode j := (decodeInteger 0 0xffffffffffffffff j).map (fun i => .ofNat i.toNat)

instance : Wire Int32 where
  encode n := .integer n.toInt
  decode j := (decodeInteger (-0x80000000) 0x7fffffff j).map Int32.ofInt

instance : Wire Int64 where
  encode n := .integer n.toInt
  decode j := (decodeInteger (-0x8000000000000000) 0x7fffffffffffffff j).map Int64.ofInt

/-- Any number literal spells a double; a double that is not finite has no literal. -/
instance : Wire Binary64 where
  encode x := if x.isFinite then .float x else .null
  decode
    | .integer i => some (.ofInt i)
    | .float x => some x
    | _ => none

/-- Null spells the absent value. -/
instance [Wire α] : Wire (Option α) where
  encode
    | some a => encode a
    | none => .null
  decode
    | .null => some none
    | j => (decode j).map some

/-- The value of each element of a list; none when one has none. -/
def decodeAll [Wire α] : List Json → Option (List α)
  | [] => some []
  | j :: rest => do
    let a ← decode j
    let as ← decodeAll rest
    return a :: as

instance [Wire α] : Wire (List α) where
  encode as := .array (as.map encode)
  decode
    | .array elements => decodeAll elements
    | _ => none

/-- A set is written as the array of its members and read from any array of members. -/
instance {κ : Type} [LT κ] [DecidableLT κ] [StrictOrder κ] [Wire κ] : Wire (SortedSet κ) where
  encode s := encode s.toList
  decode j := (decode j : Option (List κ)).map SortedSet.ofList

/-- The entry of each member of an object; none when one has none. -/
def decodeEntries [Wire α] : List (String × Json) → Option (List (String × α))
  | [] => some []
  | (name, j) :: rest => do
    let a ← decode j
    let entries ← decodeEntries rest
    return (name, a) :: entries

/-- A dictionary is written as an object with ascending names; of a repeated name the last value
is read. -/
instance [Wire α] : Wire (Dict String α) where
  encode d := .object (d.entries.map (fun entry => (entry.1, encode entry.2)))
  decode
    | .object members => (decodeEntries members).map Dict.ofList
    | _ => none

/-- A tree of its own is read with its members sorted. -/
instance : Wire Json where
  encode j := j
  decode j := if j.readable then some j.sorted else none

end Wire

export Wire (encode decode)

end Testbed
