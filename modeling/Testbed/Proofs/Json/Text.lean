import Testbed.Proofs.Json.Doubles

/-!
# Compact texts read back

The compact text of a value spells that value and no other, as long as containers stay below the
limit of nesting, integers within 64 bits, and doubles among those that the reader gives back.
-/
namespace Testbed.Json

/-- A value whose text spells it: integers of 64 bits, legible doubles, at most so many containers
inside each other, and nothing that is unreadable. -/
inductive Plain : Nat → Json → Prop where
  | null {depth : Nat} : Plain depth .null
  | bool {depth : Nat} (b : Bool) : Plain depth (.bool b)
  | integer {depth : Nat} {i : Int} (low : -0x8000000000000000 ≤ i)
    (high : i ≤ 0xffffffffffffffff) : Plain depth (.integer i)
  | float {depth : Nat} {x : Binary64} (legible : Legible x) : Plain depth (.float x)
  | string {depth : Nat} (s : String) : Plain depth (.string s)
  | array {depth : Nat} {elements : List Json} (all : ∀ j ∈ elements, Plain depth j) :
    Plain (depth + 1) (.array elements)
  | object {depth : Nat} {members : List (String × Json)}
    (all : ∀ member ∈ members, Plain depth member.2) : Plain (depth + 1) (.object members)

/-- Whether a value is read from its text, wherever that stands. -/
def ReadsBack (depth : Nat) (j : Json) : Prop :=
  ∀ fuel level rest, 2 * (write j).length ≤ fuel → level + depth ≤ tooDeep → Follows rest →
    readValue fuel level (write j ++ rest) = some (j, rest)

/-- A text that stands where a value is awaited. -/
def Opens (text : List Char) : Prop := ∃ c rest, text = c :: rest ∧ isBlankChar c = false ∧ c ≠ ']'

theorem opens_write {depth : Nat} {j : Json} (plain : Plain depth j) : Opens (write j) := by
  cases plain with
  | null => exact ⟨'n', _, rfl, rfl, by decide⟩
  | bool b => cases b <;> exact ⟨_, _, rfl, rfl, by decide⟩
  | @integer _ i low high =>
    obtain ⟨c, text, written, number⟩ := writeInt_eq_cons i
    exact ⟨c, text, written, isBlankChar_of_number number, ne_of_number number ']' (by decide)⟩
  | float legible =>
    obtain ⟨⟨c, text, written, number⟩, -⟩ := legible.literal
    exact ⟨c, text, written, isBlankChar_of_number number, ne_of_number number ']' (by decide)⟩
  | string s => exact ⟨'"', _, rfl, rfl, by decide⟩
  | array all => exact ⟨'[', _, rfl, rfl, by decide⟩
  | object all => exact ⟨'\x7b', _, rfl, rfl, by decide⟩

theorem readValue_quote (fuel level : Nat) (rest : List Char) :
    readValue (fuel + 1) level ('"' :: rest) = (do
      let (content, rest) ← readString (rest.length + 1) [] true rest
      return (match content with | some s => .string s | none => .unreadable, rest)) := rfl

theorem readValue_bracket (fuel level : Nat) (rest : List Char) :
    readValue (fuel + 1) level ('[' :: rest) = (do
      let (elements, rest) ← match skipBlanks rest with
        | ']' :: rest => some ([], rest)
        | rest => readElements fuel level rest
      return (if level < tooDeep then .array elements else .unreadable, rest)) := rfl

theorem readValue_brace (fuel level : Nat) (rest : List Char) :
    readValue (fuel + 1) level ('\x7b' :: rest) = (do
      let (members, rest) ← match skipBlanks rest with
        | '\x7d' :: rest => some (some [], rest)
        | rest => readMembers fuel level rest
      return (match members with
        | some members => if level < tooDeep then .object members else .unreadable
        | none => .unreadable, rest)) := rfl

/-- What begins like a number is read as one. -/
theorem readValue_number {c : Char} (number : c.isDigit = true ∨ c = '-') (fuel level : Nat)
    (text : List Char) :
    readValue (fuel + 1) level (c :: text) =
      (Literal.read (c :: text)).map (fun (literal, rest) => (literal.value, rest)) := by
  have apart := ne_of_number number
  have visible : skipBlanks (c :: text) = c :: text := by
    simp [skipBlanks, isBlankChar_of_number number]
  rw [readValue.eq_def, visible]
  cases literal : Literal.read (c :: text) <;>
    simp [apart '"', apart '[', apart '\x7b', apart 'n', apart 't', apart 'f', literal]

theorem readsBack_string (depth : Nat) (s : String) : ReadsBack depth (.string s) := by
  intro fuel level rest enough _ _
  obtain ⟨fuel, rfl⟩ := Nat.exists_eq_add_one_of_ne_zero (n := fuel)
    (by simp [write, writeString] at enough; omega)
  simp only [write, writeString, List.cons_append, List.append_assoc, List.nil_append]
  rw [readValue_quote, readString_text s rest]
  rfl

theorem readsBack_integer (depth : Nat) {i : Int} (low : -0x8000000000000000 ≤ i)
    (high : i ≤ 0xffffffffffffffff) : ReadsBack depth (.integer i) := by
  intro fuel level rest enough _ follows
  obtain ⟨c, text, written, number⟩ := writeInt_eq_cons i
  obtain ⟨fuel, rfl⟩ := Nat.exists_eq_add_one_of_ne_zero (n := fuel)
    (by simp [write, written] at enough; omega)
  have literal := read_writeInt i follows
  rw [write, written, List.cons_append, readValue_number number, ← List.cons_append, ← written,
    literal]
  simp [value_writeNat low high]

theorem readsBack_float (depth : Nat) {x : Binary64} (legible : Legible x) :
    ReadsBack depth (.float x) := by
  intro fuel level rest enough _ follows
  obtain ⟨⟨c, text, written, number⟩, literal, spelled, worth⟩ := legible.literal
  obtain ⟨fuel, rfl⟩ := Nat.exists_eq_add_one_of_ne_zero (n := fuel)
    (by simp [write, written] at enough; omega)
  have within := read_append spelled follows
  rw [List.nil_append] at within
  rw [write, written, List.cons_append, readValue_number number, ← List.cons_append, ← written,
    within]
  simp [worth]

theorem length_write_pos {depth : Nat} {j : Json} (plain : Plain depth j) :
    0 < (write j).length := by
  obtain ⟨c, rest, written, -⟩ := opens_write plain
  simp [written]

theorem writeElements_cons_cons (j k : Json) (others : List Json) :
    writeElements (j :: k :: others) = write j ++ ',' :: writeElements (k :: others) := rfl

/-- The elements of an array are read up to its closing bracket. -/
theorem readElements_write {depth : Nat} {elements : List Json} (nonempty : elements ≠ [])
    (all : ∀ j ∈ elements, ReadsBack depth j) {fuel level : Nat}
    (shallow : level + 1 + depth ≤ tooDeep)
    (enough : 2 * (writeElements elements).length + 1 ≤ fuel) (rest : List Char) :
    readElements fuel level (writeElements elements ++ ']' :: rest) = some (elements, rest) := by
  induction elements generalizing fuel with
  | nil => exact absurd rfl nonempty
  | cons j others ih =>
    obtain ⟨fuel, rfl⟩ := Nat.exists_eq_add_one_of_ne_zero (n := fuel) (by omega)
    have first := all j (.head _) fuel (level + 1)
    cases others with
    | nil =>
      rw [writeElements] at enough ⊢
      rw [readElements, first (']' :: rest) (by omega) shallow (by simp [Follows])]
      rfl
    | cons k others =>
      rw [writeElements_cons_cons, List.length_append, List.length_cons] at enough
      have later : readElements fuel level (writeElements (k :: others) ++ ']' :: rest) = _ :=
        ih (List.cons_ne_nil k others) (fun j member => all j (.tail _ member)) (by omega)
      rw [writeElements_cons_cons, List.append_assoc, List.cons_append, readElements,
        first (',' :: _) (by omega) shallow (by simp [Follows])]
      simp [skipBlanks, isBlankChar, later]

theorem writeMembers_cons_cons (name : String) (j : Json) (member : String × Json)
    (others : List (String × Json)) :
    writeMembers ((name, j) :: member :: others) =
      writeString name ++ ':' :: write j ++ ',' :: writeMembers (member :: others) := rfl

theorem readMembers_quote (fuel level : Nat) (rest : List Char) :
    readMembers (fuel + 1) level ('"' :: rest) = (do
      let (name, rest) ← readString (rest.length + 1) [] true rest
      match skipBlanks rest with
      | ':' :: rest =>
        let (value, rest) ← readValue fuel (level + 1) rest
        match skipBlanks rest with
        | ',' :: rest =>
          let (members, rest) ← readMembers fuel level rest
          return (name.bind (fun name => members.map ((name, value) :: ·)), rest)
        | '\x7d' :: rest => return (name.map (fun name => [(name, value)]), rest)
        | _ => none
      | _ => none) := rfl

/-- The members of an object are read up to its closing brace. -/
theorem readMembers_write {depth : Nat} {members : List (String × Json)} (nonempty : members ≠ [])
    (all : ∀ member ∈ members, ReadsBack depth member.2) {fuel level : Nat}
    (shallow : level + 1 + depth ≤ tooDeep)
    (enough : 2 * (writeMembers members).length + 1 ≤ fuel) (rest : List Char) :
    readMembers fuel level (writeMembers members ++ '\x7d' :: rest) =
      some (some members, rest) := by
  induction members generalizing fuel with
  | nil => exact absurd rfl nonempty
  | cons member others ih =>
    obtain ⟨name, j⟩ := member
    obtain ⟨fuel, rfl⟩ := Nat.exists_eq_add_one_of_ne_zero (n := fuel) (by omega)
    have first (after : List Char) (room : 2 * (write j).length ≤ fuel) (follows : Follows after) :
        readValue fuel (level + 1) (write j ++ after) = some (j, after) :=
      all _ (.head _) fuel (level + 1) after room shallow follows
    cases others with
    | nil =>
      have text := readString_text name (':' :: (write j ++ '\x7d' :: rest))
      have value := first ('\x7d' :: rest) (by simp [writeMembers] at enough; omega)
        (by simp [Follows])
      simp only [writeMembers, writeString, List.append_assoc, List.cons_append, List.nil_append]
      rw [readMembers_quote, text]
      simp [skipBlanks, isBlankChar, value]
    | cons member others =>
      rw [writeMembers_cons_cons] at enough ⊢
      simp only [List.length_append, List.length_cons] at enough
      have later : readMembers fuel level (writeMembers (member :: others) ++ '\x7d' :: rest) =
          some (some (member :: others), rest) :=
        ih (List.cons_ne_nil member others) (fun j listed => all j (.tail _ listed)) (by omega)
      have text := readString_text name
        (':' :: (write j ++ ',' :: (writeMembers (member :: others) ++ '\x7d' :: rest)))
      have value := first (',' :: (writeMembers (member :: others) ++ '\x7d' :: rest)) (by omega)
        (by simp [Follows])
      simp only [writeString, List.append_assoc, List.cons_append, List.nil_append]
      rw [readMembers_quote, text]
      simp [skipBlanks, isBlankChar, value, later]

theorem opens_writeElements {depth : Nat} {elements : List Json} (nonempty : elements ≠ [])
    (all : ∀ j ∈ elements, Plain depth j) : Opens (writeElements elements) := by
  obtain ⟨j, others, rfl⟩ := List.exists_cons_of_ne_nil nonempty
  obtain ⟨c, text, written, visible, apart⟩ := opens_write (all j (.head _))
  cases others with
  | nil => exact ⟨c, text, written, visible, apart⟩
  | cons k others =>
    refine ⟨c, text ++ ',' :: writeElements (k :: others), ?_, visible, apart⟩
    rw [writeElements_cons_cons, written, List.cons_append]

theorem readsBack_array {depth : Nat} {elements : List Json} (plain : ∀ j ∈ elements, Plain depth j)
    (all : ∀ j ∈ elements, ReadsBack depth j) : ReadsBack (depth + 1) (.array elements) := by
  intro fuel level rest enough shallow _
  simp only [write, List.length_append, List.length_cons, List.cons_append] at enough
  obtain ⟨fuel, rfl⟩ := Nat.exists_eq_add_one_of_ne_zero (n := fuel) (by omega)
  have below : level < tooDeep := by omega
  simp only [write, List.append_assoc, List.cons_append, List.nil_append]
  rw [readValue_bracket]
  by_cases empty : elements = []
  · subst empty
    simp [writeElements, skipBlanks, isBlankChar, below]
  · have read : readElements fuel level (writeElements elements ++ ']' :: rest) = _ :=
      readElements_write empty all (by omega) (by omega) rest
    obtain ⟨c, text, written, visible, apart⟩ := opens_writeElements empty plain
    rw [written, List.cons_append] at read ⊢
    simp [skipBlanks, visible, apart, read, below]

theorem readsBack_object {depth : Nat} {members : List (String × Json)}
    (all : ∀ member ∈ members, ReadsBack depth member.2) :
    ReadsBack (depth + 1) (.object members) := by
  intro fuel level rest enough shallow _
  simp only [write, List.length_append, List.length_cons, List.cons_append] at enough
  obtain ⟨fuel, rfl⟩ := Nat.exists_eq_add_one_of_ne_zero (n := fuel) (by omega)
  have below : level < tooDeep := by omega
  simp only [write, List.append_assoc, List.cons_append, List.nil_append]
  rw [readValue_brace]
  cases members with
  | nil => simp [writeMembers, skipBlanks, isBlankChar, below]
  | cons member others =>
    have read : readMembers fuel level (writeMembers (member :: others) ++ '\x7d' :: rest) = _ :=
      readMembers_write (List.cons_ne_nil member others) all (by omega) (by omega) rest
    obtain ⟨text, written⟩ : ∃ text, writeMembers (member :: others) = '"' :: text := by
      cases others with
      | nil => exact ⟨_, rfl⟩
      | cons other others => exact ⟨_, rfl⟩
    rw [written, List.cons_append] at read ⊢
    simp [skipBlanks, isBlankChar, read, below]

/-- Every plain value is read from its text. -/
theorem Plain.readsBack {depth : Nat} {j : Json} (plain : Plain depth j) : ReadsBack depth j := by
  induction plain with
  | null =>
    intro fuel level rest enough _ _
    obtain ⟨fuel, rfl⟩ := Nat.exists_eq_add_one_of_ne_zero (n := fuel)
      (by simp [write] at enough; omega)
    rfl
  | bool b =>
    intro fuel level rest enough _ _
    have := length_write_pos (Plain.bool b : Plain 0 _)
    obtain ⟨fuel, rfl⟩ := Nat.exists_eq_add_one_of_ne_zero (n := fuel) (by omega)
    cases b <;> rfl
  | integer low high => exact readsBack_integer _ low high
  | float legible => exact readsBack_float _ legible
  | string s => exact readsBack_string _ s
  | array all ih => exact readsBack_array all ih
  | object _ ih => exact readsBack_object ih

/-- The compact text of a plain value spells that value. -/
theorem parse_compact {depth : Nat} {j : Json} (plain : Plain depth j) (shallow : depth < tooDeep) :
    parse j.compact = some j := by
  have read := plain.readsBack (2 * (write j).length + 2) 1 [] (by omega) (by omega)
    (by simp [Follows])
  rw [List.append_nil] at read
  simp [parse, Json.read, compact, read, skipBlanks]

end Testbed.Json
