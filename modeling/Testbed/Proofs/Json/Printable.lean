import Testbed.Proofs.Json.Literals

/-!
# Compact texts are single lines

Control characters of strings are escaped and nothing else is written with one, so no compact text
has a line break or any other control character in it, whatever the value is. The texts of doubles
have no blanks either.
-/
namespace Testbed.Json

/-- Whether some characters all have a picture, and are not a blank. -/
def Solid (text : List Char) : Prop := ∀ c ∈ text, 0x20 < c.toNat

/-- Whether none of some characters is a control character of ASCII. -/
def Printable (text : List Char) : Prop := ∀ c ∈ text, 0x20 ≤ c.toNat

section Texts

variable {c : Char} {text more : List Char}

theorem Solid.nil : Solid [] := nofun

theorem Solid.cons (first : 0x20 < c.toNat) (others : Solid text) : Solid (c :: text) :=
  List.forall_mem_cons.2 ⟨first, others⟩

theorem Solid.append (first : Solid text) (second : Solid more) : Solid (text ++ more) :=
  List.forall_mem_append.2 ⟨first, second⟩

theorem Solid.take (solid : Solid text) (n : Nat) : Solid (text.take n) :=
  fun c member => solid c (List.mem_of_mem_take member)

theorem Solid.drop (solid : Solid text) (n : Nat) : Solid (text.drop n) :=
  fun c member => solid c (List.mem_of_mem_drop member)

theorem Solid.printable (solid : Solid text) : Printable text :=
  fun c member => Nat.le_of_lt (solid c member)

theorem Printable.nil : Printable [] := nofun

theorem Printable.cons (first : 0x20 ≤ c.toNat) (others : Printable text) :
    Printable (c :: text) :=
  List.forall_mem_cons.2 ⟨first, others⟩

theorem Printable.append (first : Printable text) (second : Printable more) :
    Printable (text ++ more) :=
  List.forall_mem_append.2 ⟨first, second⟩

end Texts

/-! ## Numbers -/

theorem Solid.of_isDigit {text : List Char} (digits : ∀ c ∈ text, c.isDigit = true) :
    Solid text := by
  intro c member
  have digit := digits c member
  simp only [Char.isDigit, ge_iff_le, Bool.and_eq_true, decide_eq_true_eq] at digit
  have least : (48 : UInt32).toNat ≤ c.val.toNat := digit.1
  exact Nat.lt_of_lt_of_le (by decide) least

theorem solid_writeNat (n : Nat) : Solid (writeNat n) :=
  .of_isDigit (fun _ => isDigit_of_mem_writeNat)

theorem solid_writeInt (i : Int) : Solid (writeInt i) := by
  unfold writeInt
  split
  · exact .cons (by decide) (solid_writeNat _)
  · exact solid_writeNat _

theorem solid_zeros (n : Nat) : Solid (List.replicate n '0') := by
  intro c member
  rw [List.eq_of_mem_replicate member]
  decide

/-- The digits that stand for a double are some of those of a number. -/
theorem solid_search (owned : Decimal.Owned) (exponent : Int) (tries digits : Nat) :
    Solid (Decimal.search owned exponent tries digits).digits := by
  induction tries generalizing digits with
  | zero => exact solid_zeros 1
  | succ tries ih =>
    rw [Decimal.search]
    split
    · rename_i point _
      intro c member
      rw [List.mem_reverse] at member
      have among := (List.dropWhile_sublist _).subset member
      rw [List.mem_reverse] at among
      exact solid_writeNat point c among
    · exact ih (digits + 1)

theorem solid_writePositional {digits : List Char} (solid : Solid digits) (exponent : Int) :
    Solid (writePositional digits exponent) := by
  have zero : Solid ['0'] := solid_zeros 1
  have point : Solid ['.'] := .cons (by decide) .nil
  unfold writePositional
  split
  · exact ((zero.append point).append (solid_zeros _)).append solid
  · refine (((solid.take _).append (solid_zeros _)).append point).append ?_
    split
    · exact zero
    · exact solid.drop _

theorem solid_writeScientific {digits : List Char} (solid : Solid digits) (exponent : Int) :
    Solid (writeScientific digits exponent) := by
  have mark : Solid ['e'] := .cons (by decide) .nil
  unfold writeScientific
  refine (((solid.take 1).append ?_).append mark).append ?_
  · split
    · exact .nil
    · exact .cons (by decide) (solid.drop 1)
  · split <;> exact .cons (by decide) (solid_writeNat _)

theorem solid_writeFloat (x : Binary64) : Solid (writeFloat x) := by
  have digits : Solid (Decimal.shortest x).digits := solid_search _ _ _ _
  have magnitude : Solid (if x.isZero then ['0', '.', '0']
      else if positional (Decimal.shortest x).exponent then
        writePositional (Decimal.shortest x).digits (Decimal.shortest x).exponent
      else writeScientific (Decimal.shortest x).digits (Decimal.shortest x).exponent) := by
    split
    · exact .cons (by decide) (.cons (by decide) (.cons (by decide) .nil))
    · split
      · exact solid_writePositional digits _
      · exact solid_writeScientific digits _
  unfold writeFloat
  split
  · exact .cons (by decide) (.cons (by decide) (.cons (by decide) (.cons (by decide) .nil)))
  · dsimp only
    split
    · exact .cons (by decide) magnitude
    · exact magnitude

/-! ## Values -/

theorem digitChar_printable : ∀ n < 16, 0x20 ≤ n.digitChar.toNat := by
  decide

theorem printable_hexPair {n : Nat} (control : n < 0x20) : Printable (hexPair n) := by
  rw [(hexPair_control n control).1]
  have high := digitChar_printable (n / 16) (by omega)
  have low := digitChar_printable (n % 16) (by omega)
  exact .cons high (.cons low .nil)

theorem printable_writeChar (c : Char) : Printable (writeChar c) := by
  unfold writeChar
  split
  case h_8 =>
    split
    · rename_i control
      have mark : Printable ['\\', 'u', '0', '0'] := by simp [Printable]
      exact mark.append (printable_hexPair control)
    · rename_i printable
      exact .cons (Nat.le_of_not_lt printable) .nil
  all_goals exact .cons (by decide) (.cons (by decide) .nil)

theorem printable_writeString (s : String) : Printable (writeString s) := by
  have inside : Printable (s.toList.flatMap writeChar) := by
    intro c member
    obtain ⟨d, -, written⟩ := List.mem_flatMap.1 member
    exact printable_writeChar d c written
  exact .cons (by decide) (inside.append (.cons (by decide) .nil))

mutual

theorem printable_write : (j : Json) → Printable (write j)
  | .null | .unreadable => by simp [write, Printable]
  | .bool true | .bool false => by simp [write, Printable]
  | .integer i => (solid_writeInt i).printable
  | .float x => (solid_writeFloat x).printable
  | .string s => printable_writeString s
  | .array elements =>
    .cons (by decide) ((printable_writeElements elements).append (.cons (by decide) .nil))
  | .object members =>
    .cons (by decide) ((printable_writeMembers members).append (.cons (by decide) .nil))

theorem printable_writeElements : (elements : List Json) → Printable (writeElements elements)
  | [] => .nil
  | [element] => printable_write element
  | element :: second :: rest =>
    (printable_write element).append (.cons (by decide) (printable_writeElements (second :: rest)))

theorem printable_writeMembers :
    (members : List (String × Json)) → Printable (writeMembers members)
  | [] => .nil
  | [(name, value)] =>
    (printable_writeString name).append (.cons (by decide) (printable_write value))
  | (name, value) :: second :: rest =>
    ((printable_writeString name).append (.cons (by decide) (printable_write value))).append
      (.cons (by decide) (printable_writeMembers (second :: rest)))

end

end Testbed.Json
