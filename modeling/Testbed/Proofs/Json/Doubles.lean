import Testbed.Proofs.Json.Printable

/-!
# Doubles read back

A double is written with the digits that tell it from all others, but the reader rounds more than
once and does not give every double back. Those that it does give back from their text it gives back
wherever that text stands.
-/
namespace Testbed.Json

open Text (Breaks)

section Digits

variable {text rest : List Char}

theorem takeWhile_append (breaks : Breaks rest) :
    (text ++ rest).takeWhile Char.isDigit = text.takeWhile Char.isDigit := by
  induction text with
  | nil =>
    cases rest with
    | nil => rfl
    | cons c rest => simp [breaks c rfl]
  | cons c text ih =>
    rw [List.cons_append, List.takeWhile_cons, List.takeWhile_cons, ih]

theorem dropWhile_append (breaks : Breaks rest) :
    (text ++ rest).dropWhile Char.isDigit = text.dropWhile Char.isDigit ++ rest := by
  induction text with
  | nil =>
    cases rest with
    | nil => rfl
    | cons c rest => simp [breaks c rfl]
  | cons c text ih =>
    rw [List.cons_append, List.dropWhile_cons, List.dropWhile_cons, ih]
    split <;> rfl

end Digits

section Literals

variable {text rest left : List Char}

theorem spellWhole_cons {c : Char} (nonzero : c ≠ '0') (text : List Char) :
    spellWhole (c :: text) =
      if ((c :: text).takeWhile Char.isDigit).isEmpty then none
      else some ((c :: text).takeWhile Char.isDigit, (c :: text).dropWhile Char.isDigit) := by
  rw [spellWhole.eq_def]
  split
  · rename_i same
    exact absurd (List.cons.inj same).1 nonzero
  · rfl

theorem spellWhole_append {whole : List Char} (read : spellWhole text = some (whole, left))
    (breaks : Breaks rest) : spellWhole (text ++ rest) = some (whole, left ++ rest) := by
  cases text with
  | nil => cases read
  | cons c text =>
    by_cases zero : c = '0'
    · subst zero
      simp only [spellWhole, List.cons_append] at read ⊢
      cases text with
      | nil =>
        obtain ⟨rfl, rfl⟩ := Prod.mk.inj (Option.some.inj read)
        cases rest with
        | nil => rfl
        | cons d rest => simp [breaks d rfl]
      | cons d text =>
        by_cases digit : d.isDigit = true
        · simp [digit] at read
        · simp only [List.head?_cons, Option.map_some, Option.getD_some, digit] at read
          obtain ⟨rfl, rfl⟩ := Prod.mk.inj (Option.some.inj read)
          simp [digit]
    · rw [spellWhole_cons zero] at read
      rw [List.cons_append, spellWhole_cons zero, ← List.cons_append, takeWhile_append breaks,
        dropWhile_append breaks]
      split at read
      · cases read
      · obtain ⟨rfl, rfl⟩ := Prod.mk.inj (Option.some.inj read)
        rw [if_neg ‹_›]

/-- The whole part of a literal begins with a digit. -/
theorem spellWhole_suffix {whole : List Char} (read : spellWhole text = some (whole, left)) :
    (∃ c rest, text = c :: rest ∧ c.isDigit = true) ∧ left <:+ text := by
  cases text with
  | nil => cases read
  | cons c text =>
    by_cases zero : c = '0'
    · subst zero
      simp only [spellWhole] at read
      split at read
      · cases read
      · obtain ⟨rfl, rfl⟩ := Prod.mk.inj (Option.some.inj read)
        exact ⟨⟨'0', text, rfl, rfl⟩, List.suffix_cons ..⟩
    · rw [spellWhole_cons zero] at read
      split at read
      · cases read
      · rename_i nonempty
        obtain ⟨rfl, rfl⟩ := Prod.mk.inj (Option.some.inj read)
        have digit : c.isDigit = true := by simpa [List.takeWhile_cons] using nonempty
        exact ⟨⟨c, text, rfl, digit⟩, List.dropWhile_suffix _⟩

theorem spellFraction_append {fraction : Option (List Char)}
    (read : spellFraction text = some (fraction, left)) (follows : Follows rest) :
    spellFraction (text ++ rest) = some (fraction, left ++ rest) := by
  cases text with
  | nil =>
    obtain ⟨rfl, rfl⟩ := Prod.mk.inj (Option.some.inj read)
    exact spellFraction_follows follows
  | cons c text =>
    by_cases point : c = '.'
    · subst point
      simp only [spellFraction, List.cons_append, takeWhile_append follows.breaks,
        dropWhile_append follows.breaks] at read ⊢
      split at read
      · cases read
      · obtain ⟨rfl, rfl⟩ := Prod.mk.inj (Option.some.inj read)
        rw [if_neg ‹_›]
    · have plain (text : List Char) : spellFraction (c :: text) = some (none, c :: text) := by
        simp [spellFraction, point]
      rw [plain] at read
      obtain ⟨rfl, rfl⟩ := Prod.mk.inj (Option.some.inj read)
      exact plain _

theorem spellFraction_suffix {fraction : Option (List Char)}
    (read : spellFraction text = some (fraction, left)) : left <:+ text := by
  unfold spellFraction at read
  split at read
  · dsimp only at read
    split at read
    · cases read
    · obtain ⟨rfl, rfl⟩ := Prod.mk.inj (Option.some.inj read)
      exact (List.dropWhile_suffix _).trans (List.suffix_cons ..)
  · obtain ⟨rfl, rfl⟩ := Prod.mk.inj (Option.some.inj read)
    exact List.suffix_refl _

/-- The digits of an exponent after its sign. -/
def exponentFrom (downward : Bool) (text : List Char) :
    Option (Option (Bool × List Char) × List Char) :=
  if (text.takeWhile Char.isDigit).isEmpty then none
  else some (some (downward, text.takeWhile Char.isDigit), text.dropWhile Char.isDigit)

theorem exponentFrom_append {downward : Bool} {exponent : Option (Bool × List Char)}
    (read : exponentFrom downward text = some (exponent, left)) (breaks : Breaks rest) :
    exponentFrom downward (text ++ rest) = some (exponent, left ++ rest) := by
  unfold exponentFrom at read ⊢
  rw [takeWhile_append breaks, dropWhile_append breaks]
  split at read
  · cases read
  · obtain ⟨rfl, rfl⟩ := Prod.mk.inj (Option.some.inj read)
    rw [if_neg ‹_›]

theorem exponentFrom_suffix {downward : Bool} {exponent : Option (Bool × List Char)}
    (read : exponentFrom downward text = some (exponent, left)) : left <:+ text := by
  unfold exponentFrom at read
  split at read
  · cases read
  · obtain ⟨rfl, rfl⟩ := Prod.mk.inj (Option.some.inj read)
    exact List.dropWhile_suffix _

theorem spellExponent_unsigned {mark c : Char} (marked : mark = 'e' ∨ mark = 'E') (plus : c ≠ '+')
    (minus : c ≠ '-') (text : List Char) :
    spellExponent (mark :: c :: text) = exponentFrom false (c :: text) := by
  unfold spellExponent
  dsimp only
  rw [if_pos marked]
  split
  · rename_i same
    exact absurd (List.cons.inj same).1 plus
  · rename_i same
    exact absurd (List.cons.inj same).1 minus
  · rfl

/-- After its mark and its sign an exponent goes on with digits, whatever comes after the text. -/
theorem spellExponent_marked {mark : Char} {exponent : Option (Bool × List Char)}
    (marked : mark = 'e' ∨ mark = 'E') (read : spellExponent (mark :: text) = some (exponent, left)) :
    ∃ downward digits, digits <:+ text ∧
      ∀ rest, spellExponent (mark :: text ++ rest) = exponentFrom downward (digits ++ rest) := by
  cases text with
  | nil => simp [spellExponent, marked] at read
  | cons sign text =>
    by_cases plus : sign = '+'
    · subst plus
      exact ⟨false, text, List.suffix_cons .., fun rest => if_pos marked⟩
    · by_cases minus : sign = '-'
      · subst minus
        exact ⟨true, text, List.suffix_cons .., fun rest => if_pos marked⟩
      · exact ⟨false, sign :: text, List.suffix_refl _,
          fun rest => spellExponent_unsigned marked plus minus (text ++ rest)⟩

theorem spellExponent_unmarked {mark : Char} (unmarked : ¬ (mark = 'e' ∨ mark = 'E'))
    (text : List Char) : spellExponent (mark :: text) = some (none, mark :: text) :=
  if_neg unmarked

theorem spellExponent_append {exponent : Option (Bool × List Char)}
    (read : spellExponent text = some (exponent, left)) (follows : Follows rest) :
    spellExponent (text ++ rest) = some (exponent, left ++ rest) := by
  cases text with
  | nil =>
    obtain ⟨rfl, rfl⟩ := Prod.mk.inj (Option.some.inj read)
    exact spellExponent_follows follows
  | cons mark text =>
    by_cases marked : mark = 'e' ∨ mark = 'E'
    · obtain ⟨downward, digits, -, spelled⟩ := spellExponent_marked marked read
      have alone := spelled []
      rw [List.append_nil, List.append_nil] at alone
      rw [alone] at read
      rw [spelled rest]
      exact exponentFrom_append read follows.breaks
    · rw [spellExponent_unmarked marked] at read
      obtain ⟨rfl, rfl⟩ := Prod.mk.inj (Option.some.inj read)
      exact spellExponent_unmarked marked _

theorem spellExponent_suffix {exponent : Option (Bool × List Char)}
    (read : spellExponent text = some (exponent, left)) : left <:+ text := by
  cases text with
  | nil =>
    obtain ⟨rfl, rfl⟩ := Prod.mk.inj (Option.some.inj read)
    exact List.suffix_refl _
  | cons mark text =>
    by_cases marked : mark = 'e' ∨ mark = 'E'
    · obtain ⟨downward, digits, within, spelled⟩ := spellExponent_marked marked read
      have alone := spelled []
      rw [List.append_nil, List.append_nil] at alone
      rw [alone] at read
      exact ((exponentFrom_suffix read).trans within).trans (List.suffix_cons ..)
    · rw [spellExponent_unmarked marked] at read
      obtain ⟨rfl, rfl⟩ := Prod.mk.inj (Option.some.inj read)
      exact List.suffix_refl _

/-- The parts of a literal after its sign. -/
def Literal.readFrom (negative : Bool) (text : List Char) : Option (Literal × List Char) := do
  let (whole, rest) ← spellWhole text
  let (fraction, rest) ← spellFraction rest
  let (exponent, rest) ← spellExponent rest
  return (⟨negative, whole, fraction, exponent⟩, rest)

/-- What was read of the parts of a literal. -/
theorem Literal.readFrom_cases {negative : Bool} {literal : Literal}
    (read : readFrom negative text = some (literal, left)) :
    ∃ whole afterWhole fraction afterFraction exponent,
      literal = ⟨negative, whole, fraction, exponent⟩ ∧
      spellWhole text = some (whole, afterWhole) ∧
      spellFraction afterWhole = some (fraction, afterFraction) ∧
      spellExponent afterFraction = some (exponent, left) := by
  simp only [readFrom, Option.bind_eq_bind, Option.bind_eq_some_iff, Option.pure_def] at read
  obtain ⟨⟨whole, afterWhole⟩, first, ⟨fraction, afterFraction⟩, second, ⟨exponent, last⟩, third,
    same⟩ := read
  obtain ⟨rfl, rfl⟩ := Prod.mk.inj (Option.some.inj same)
  exact ⟨whole, afterWhole, fraction, afterFraction, exponent, rfl, first, second, third⟩

theorem Literal.readFrom_append {negative : Bool} {literal : Literal}
    (read : readFrom negative text = some (literal, left)) (follows : Follows rest) :
    readFrom negative (text ++ rest) = some (literal, left ++ rest) := by
  obtain ⟨whole, afterWhole, fraction, afterFraction, exponent, rfl, first, second, third⟩ :=
    readFrom_cases read
  simp [readFrom, spellWhole_append first follows.breaks, spellFraction_append second follows,
    spellExponent_append third follows]

theorem Literal.readFrom_suffix {negative : Bool} {literal : Literal}
    (read : readFrom negative text = some (literal, left)) :
    (∃ c rest, text = c :: rest ∧ c.isDigit = true) ∧ left <:+ text := by
  obtain ⟨whole, afterWhole, fraction, afterFraction, exponent, -, first, second, third⟩ :=
    readFrom_cases read
  obtain ⟨opens, within⟩ := spellWhole_suffix first
  exact ⟨opens, ((spellExponent_suffix third).trans (spellFraction_suffix second)).trans within⟩

theorem Literal.read_unsigned {c : Char} (unsigned : c ≠ '-') (text : List Char) :
    Literal.read (c :: text) = readFrom false (c :: text) := by
  unfold Literal.read
  split
  rename_i negative rest sign
  split at sign
  · rename_i same
    exact absurd (List.cons.inj same).1 unsigned
  · obtain ⟨rfl, rfl⟩ := Prod.mk.inj sign
    rfl

/-- A literal is read the same in front of what may follow a value. -/
theorem read_append {literal : Literal} (read : Literal.read text = some (literal, left))
    (follows : Follows rest) : Literal.read (text ++ rest) = some (literal, left ++ rest) := by
  cases text with
  | nil => cases read
  | cons sign text =>
    by_cases minus : sign = '-'
    · subst minus
      have signed : Literal.readFrom true text = some (literal, left) := read
      exact Literal.readFrom_append signed follows
    · rw [Literal.read_unsigned minus] at read
      rw [List.cons_append, Literal.read_unsigned minus]
      exact Literal.readFrom_append read follows

/-- A literal begins like a number. -/
theorem read_suffix {literal : Literal} (read : Literal.read text = some (literal, left)) :
    (∃ c rest, text = c :: rest ∧ (c.isDigit = true ∨ c = '-')) ∧ left <:+ text := by
  cases text with
  | nil => cases read
  | cons sign text =>
    by_cases minus : sign = '-'
    · subst minus
      have signed : Literal.readFrom true text = some (literal, left) := read
      obtain ⟨-, within⟩ := Literal.readFrom_suffix signed
      exact ⟨⟨'-', text, rfl, .inr rfl⟩, within.trans (List.suffix_cons ..)⟩
    · rw [Literal.read_unsigned minus] at read
      obtain ⟨⟨c, rest, opens, digit⟩, within⟩ := Literal.readFrom_suffix read
      exact ⟨⟨c, rest, opens, .inl digit⟩, within⟩

end Literals

/-- Whether a double is read from the text that is written for it. The reader does not round
correctly, so there are doubles for which it gives a neighbour. -/
def Legible (x : Binary64) : Prop := parse (Json.float x).compact = some (.float x)

/-- The double that a value is. -/
def double? : Json → Option Binary64
  | .float x => some x
  | _ => none

theorem legible_iff {x : Binary64} :
    Legible x ↔ (parse (Json.float x).compact).bind double? = some x := by
  constructor
  · intro legible
    rw [show parse _ = _ from legible]
    rfl
  · intro found
    obtain ⟨j, read, same⟩ := Option.bind_eq_some_iff.1 found
    cases j with
    | float y => exact read.trans (congrArg (some ∘ float) (Option.some.inj same))
    | _ => cases same

instance (x : Binary64) : Decidable (Legible x) := decidable_of_iff _ legible_iff.symm

/-- The sum of 0.1 and 0.2 is read from its text 0.30000000000000004. The next double above 1.4 is
written as 1.4000000000000001, which is read as 1.4. -/
example : Legible ⟨0x3fd3333333333334⟩ ∧ ¬ Legible ⟨0x3ff6666666666667⟩ := by decide +kernel

/-- What is read and turned into a value leaves the text after it as it is. -/
theorem bind_value {α : Type} {part : Option (α × List Char)} {value : α × List Char → Json}
    {j : Json} {left : List Char}
    (read : (part >>= fun taken => pure (value taken, taken.2)) = some (j, left)) :
    ∃ a, part = some (a, left) ∧ value (a, left) = j := by
  obtain ⟨⟨a, rest⟩, found, made⟩ := Option.bind_eq_some_iff.1 read
  obtain ⟨rfl, rfl⟩ := Prod.mk.inj (Option.some.inj made)
  exact ⟨a, found, rfl⟩

/-- A double is only read from a literal. -/
theorem readValue_float {fuel level : Nat} {c : Char} {text left : List Char} {x : Binary64}
    (visible : isBlankChar c = false)
    (read : readValue fuel level (c :: text) = some (.float x, left)) :
    ∃ literal, Literal.read (c :: text) = some (literal, left) ∧ literal.value = .float x := by
  have unblank : skipBlanks (c :: text) = c :: text := by simp [skipBlanks, visible]
  rw [readValue.eq_def, unblank] at read
  -- Strings, containers and the three words are values of their own; only what is left is a number.
  split at read
  case h_3 =>
    obtain ⟨content, -, made⟩ := bind_value read
    dsimp only at made
    split at made <;> cases made
  case h_4 =>
    dsimp only at read
    split at read
    all_goals
      obtain ⟨elements, -, made⟩ := bind_value read
      split at made <;> cases made
  case h_5 =>
    dsimp only at read
    split at read
    all_goals
      obtain ⟨members, -, made⟩ := bind_value read
      dsimp only at made
      split at made
      · split at made <;> cases made
      · cases made
  case h_9 => exact bind_value read
  all_goals cases read

/-- The text of a legible double is a literal that is worth the double. -/
theorem Legible.literal {x : Binary64} (legible : Legible x) :
    (∃ c text, writeFloat x = c :: text ∧ (c.isDigit = true ∨ c = '-')) ∧
      ∃ literal, Literal.read (writeFloat x) = some (literal, []) ∧ literal.value = .float x := by
  have solid := solid_writeFloat x
  have visible {c : Char} (within : c ∈ writeFloat x) : isBlankChar c = false := by
    have above := solid c within
    simp only [isBlankChar, Bool.or_eq_false_iff, beq_eq_false_iff_ne]
    refine ⟨⟨⟨?_, ?_⟩, ?_⟩, ?_⟩ <;> rintro rfl <;> exact absurd above (by decide)
  have whole : read (writeFloat x) = some (.float x) := by
    simpa [Legible, parse, compact, write] using legible
  unfold read at whole
  split at whole
  · rename_i value left first
    split at whole
    · rename_i blank
      obtain rfl := Option.some.inj whole
      cases written : writeFloat x with
      | nil => rw [written] at first; cases first
      | cons c text =>
        rw [written] at first
        obtain ⟨literal, spelled, worth⟩ := readValue_float (visible (by simp [written])) first
        obtain ⟨opens, within⟩ := read_suffix spelled
        -- The reader passes over blanks after a value, but the text of a double has none.
        cases left with
        | nil => exact ⟨by simpa using opens, literal, spelled, worth⟩
        | cons d left =>
          have last : d ∈ writeFloat x := written ▸ within.subset (.head left)
          simp [skipBlanks, visible last] at blank
    · cases whole
  · cases whole

end Testbed.Json
