import Testbed.Json.Record
import Testbed.Proofs.Data.Gives
import Testbed.Proofs.Json.Lossless
import Testbed.Proofs.Number.Binary64
import Testbed.Proofs.Time.Text

/-!
# What proper trees decode to

A proper tree is one that stands for a JSON value: its integers are of 64 bits and its doubles are
finite. Doubles that are decoded from it are finite; timestamps are moments of the calendar whatever
they are decoded from.
-/
namespace Testbed

namespace Json

/-- A tree that stands for a JSON value. -/
inductive Proper : Json → Prop where
  | null : Proper .null
  | bool (b : Bool) : Proper (.bool b)
  | integer {i : Int} (low : -0x8000000000000000 ≤ i) (high : i ≤ 0xffffffffffffffff) :
    Proper (.integer i)
  | float {x : Binary64} (finite : x.isFinite = true) : Proper (.float x)
  | string (s : String) : Proper (.string s)
  | array {elements : List Json} (all : ∀ j ∈ elements, Proper j) : Proper (.array elements)
  | object {members : List (String × Json)} (all : ∀ member ∈ members, Proper member.2) :
    Proper (.object members)

theorem Proper.readable {j : Json} (proper : j.Proper) : j.readable = true := by
  induction proper with
  | array _ ih => exact readableElements_iff.2 ih
  | object _ ih => exact readableMembers_iff.2 ih
  | null | bool _ | integer _ _ | float _ | string _ => rfl

/-- Taking the tag off a proper tree leaves a proper tree. -/
theorem tagged?_gives (tag : String) {j : Json} (proper : j.Proper) :
    Gives (fun tagged => tagged.2.Proper) (j.tagged? tag) := by
  unfold tagged?
  split
  · exact .none
  · cases proper with
    | @object members all =>
      dsimp only
      split
      · exact .some (.object (fun member listed => all member ((List.mem_filter.1 listed).1)))
      · exact .none
    | @array elements all =>
      cases elements with
      | nil => exact .none
      | cons kind rest => exact .some (.array (fun j listed => all j (.tail _ listed)))
    | null | bool _ | integer _ _ | float _ | string _ => exact .none

end Json

namespace Record

/-- The fields that a proper tree gives to a record are proper. -/
theorem ofMembers?_gives (names : List String) {members : List (String × Json)}
    (all : ∀ member ∈ members, member.2.Proper) :
    Gives (fun r => ∀ field ∈ r.fields, field.2.Proper) (ofMembers? names members) := by
  unfold ofMembers?
  split
  · exact .some all
  · exact .none

theorem ofJson?_gives (names : List String) {j : Json} (proper : j.Proper) :
    Gives (fun r => ∀ field ∈ r.fields, field.2.Proper) (ofJson? names j) := by
  cases proper with
  | object all => exact ofMembers?_gives names all
  | array all =>
    unfold ofJson?
    dsimp only
    split
    · exact .some (fun field listed => all field.2 (List.of_mem_zip listed).2)
    · exact .none
  | null | bool _ | integer _ _ | float _ | string _ => exact .none

section Fields

variable {α : Type} [Wire α] {P : α → Prop} {r : Record} {name : String}

theorem find?_gives (fields : ∀ field ∈ r.fields, field.2.Proper) :
    Gives Json.Proper (find? name r.fields) := by
  intro j found
  obtain ⟨field, listed, rfl⟩ := List.mem_map.1 (List.mem_of_mem_head? found)
  exact fields field ((List.mem_filter.1 listed).1)

theorem required_gives (decodes : ∀ j : Json, j.Proper → Gives P (decode j))
    (fields : ∀ field ∈ r.fields, field.2.Proper) : Gives P (r.required name : Option α) :=
  .bind (find?_gives fields) decodes

theorem defaulted_gives (decodes : ∀ j : Json, j.Proper → Gives P (decode j))
    (fields : ∀ field ∈ r.fields, field.2.Proper) {default : α} (h : P default) :
    Gives P (r.defaulted name default) := by
  unfold defaulted
  split
  · exact decodes _ (find?_gives fields _ ‹_›)
  · exact .some h

end Fields

end Record

/-- Types whose values are encoded as proper trees. -/
class Wire.ProperForm (α : Type) [Wire α] : Prop where
  proper_encode (a : α) : (encode a).Proper

export Wire.ProperForm (proper_encode)

attribute [simp] Wire.ProperForm.proper_encode

instance : Wire.ProperForm String := ⟨.string⟩

instance : Wire.ProperForm UInt32 where
  proper_encode n := by
    have word := n.toNat_lt
    exact .integer (by omega) (by omega)

instance : Wire.ProperForm UInt64 where
  proper_encode n := by
    have word := n.toNat_lt
    exact .integer (by omega) (by omega)

/-- A double without a literal is encoded as null. -/
instance : Wire.ProperForm Binary64 where
  proper_encode x := by
    simp only [encode]
    split
    · exact .float ‹_›
    · exact .null

instance : Wire.ProperForm Timestamp := ⟨fun _ => .string _⟩

instance : Wire.ProperForm Bool := ⟨.bool⟩

instance {α : Type} [Wire α] [Wire.ProperForm α] : Wire.ProperForm (Option α) where
  proper_encode
    | none => .null
    | some a => proper_encode a

instance {α : Type} [Wire α] [Wire.ProperForm α] : Wire.ProperForm (List α) where
  proper_encode as := by
    refine .array (fun j listed => ?_)
    obtain ⟨a, -, rfl⟩ := List.mem_map.1 listed
    exact proper_encode a

instance {α : Type} [Wire α] [Wire.ProperForm α] : Wire.ProperForm (Dict String α) where
  proper_encode d := by
    refine .object (fun member listed => ?_)
    obtain ⟨entry, -, rfl⟩ := List.mem_map.1 listed
    exact proper_encode entry.2

/-- A double that is decoded from a proper tree is finite. -/
theorem Binary64.decode_gives (j : Json) (proper : j.Proper) :
    Gives (fun x : Binary64 => x.isFinite = true) (decode j) := by
  cases proper with
  | integer low high => exact .some (isFinite_ofInt (by omega))
  | float finite => exact .some finite
  | null | bool _ | string _ | array _ | object _ => exact .none

/-- A timestamp that is decoded is a moment of the calendar. -/
theorem Timestamp.decode_gives (j : Json) : Gives Timestamp.Valid (decode j) := by
  cases j with
  | string s => exact Timestamp.read_gives s.toList
  | null | bool _ | integer _ | float _ | array _ | object _ | unreadable => exact .none

end Testbed
