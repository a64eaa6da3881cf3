import Testbed.Json.Reader
import Testbed.Json.Writer
import Testbed.Proofs.Text.Digits

/-!
# Strings and integers read back

A string goes through escapes and an integer through a literal of 64 bits. What is written of either
is read again, whatever comes after it in a text.
-/
namespace Testbed.Json

/-! ## Strings -/

theorem hexPair_control : ∀ n < 0x20,
    hexPair n = [(n / 16).digitChar, (n % 16).digitChar] ∧
      unit? '0' '0' (n / 16).digitChar (n % 16).digitChar = some n := by
  decide

/-- A character that needs no escape stands for itself. -/
theorem readString_plain {c : Char} (printable : ¬ c.toNat < 0x20) (quote : c ≠ '"')
    (backslash : c ≠ '\\') (fuel : Nat) (done text : List Char) :
    readString (fuel + 1) done true (c :: text) = readString fuel (c :: done) true text := by
  rw [readString.eq_def]
  split
  case h_6 fuels same =>
    cases fuels
    obtain ⟨rfl, rfl⟩ := List.cons.inj same
    rw [if_neg printable]
  all_goals simp_all

/-- One character is read back from however it was written. -/
theorem readString_writeChar (c : Char) (fuel : Nat) (done text : List Char) :
    readString (fuel + 1) done true (writeChar c ++ text) =
      readString fuel (c :: done) true text := by
  unfold writeChar
  split
  case h_8 quote backslash _ _ _ _ _ =>
    split
    · rename_i control
      obtain ⟨pair, unit⟩ := hexPair_control c.toNat control
      have leading : isLeading c.toNat = false := by simp [isLeading]; omega
      have trailing : isTrailing c.toNat = false := by simp [isTrailing]; omega
      simp [readString, pair, unit, leading, trailing]
    · rename_i printable
      exact readString_plain printable quote backslash fuel done text
  all_goals simp [readString, escaped?]

theorem length_writeChar_pos (c : Char) : 0 < (writeChar c).length := by
  unfold writeChar
  split
  case h_8 => split <;> simp
  all_goals simp

/-- The characters of a string are read back up to the quote that closes it. -/
theorem readString_flatMap (s : List Char) {fuel : Nat} (done rest : List Char)
    (enough : (s.flatMap writeChar).length < fuel) :
    readString fuel done true (s.flatMap writeChar ++ '"' :: rest) =
      some (some (String.ofList (done.reverse ++ s)), rest) := by
  induction s generalizing fuel done with
  | nil =>
    obtain ⟨fuel, rfl⟩ : ∃ n, fuel = n + 1 := ⟨fuel - 1, by omega⟩
    simp [readString]
  | cons c s ih =>
    have taken := length_writeChar_pos c
    rw [List.flatMap_cons, List.length_append] at enough
    obtain ⟨fuel, rfl⟩ : ∃ n, fuel = n + 1 := ⟨fuel - 1, by omega⟩
    rw [List.flatMap_cons, List.append_assoc, readString_writeChar]
    simpa using ih (c :: done) (by omega)

/-- A string is read back from after its opening quote on. -/
theorem readString_text (s : String) (rest : List Char) :
    readString ((s.toList.flatMap writeChar ++ '"' :: rest).length + 1) [] true
        (s.toList.flatMap writeChar ++ '"' :: rest) = some (some s, rest) := by
  have enough : (s.toList.flatMap writeChar).length <
      (s.toList.flatMap writeChar ++ '"' :: rest).length + 1 := by
    rw [List.length_append]
    omega
  rw [readString_flatMap s.toList [] rest enough]
  simp

/-! ## Integers -/

theorem le_ofDigitChars (digits : List Char) (n : Nat) : n ≤ Nat.ofDigitChars 10 digits n := by
  induction digits generalizing n with
  | nil => exact Nat.le_refl n
  | cons c digits ih =>
    rw [Nat.ofDigitChars_cons]
    exact Nat.le_trans (by omega) (ih _)

/-- Digits are all taken into a number that stays within the bound. -/
theorem accumulate_eq {bound : Nat} {digits : List Char} {n : Nat}
    (fits : Nat.ofDigitChars 10 digits n ≤ bound) :
    accumulate bound digits n = (Nat.ofDigitChars 10 digits n, []) := by
  induction digits generalizing n with
  | nil => rfl
  | cons c digits ih =>
    have next : 10 * n + (c.toNat - '0'.toNat) = n * 10 + digitValue c := by
      rw [Nat.mul_comm]
      rfl
    rw [Nat.ofDigitChars_cons, next] at fits ⊢
    rw [accumulate, if_pos (Nat.le_trans (le_ofDigitChars digits _) fits)]
    exact ih fits

/-- A positive number is not written with a zero in front. -/
theorem writeNat_head {n : Nat} (positive : 0 < n) :
    ∃ c rest, writeNat n = c :: rest ∧ c ≠ '0' := by
  induction n using Nat.strongRecOn with
  | ind n ih =>
    unfold writeNat at ih ⊢
    by_cases small : n < 10
    · rw [Nat.toDigits_of_lt_base small]
      refine ⟨n.digitChar, [], rfl, fun zero => ?_⟩
      have value := congrArg Char.toNat zero
      rw [Nat.toNat_digitChar_of_lt_ten small] at value
      simp at value
      omega
    · obtain ⟨c, rest, digits, apart⟩ := ih (n / 10) (by omega) (by omega)
      rw [Nat.toDigits_of_base_le (by decide) (by omega), digits]
      exact ⟨c, _, rfl, apart⟩

theorem isDigit_of_mem_writeNat {n : Nat} {c : Char} (member : c ∈ writeNat n) :
    c.isDigit = true :=
  Nat.isDigit_of_mem_toDigits (by decide) (by decide) member

/-- What comes after a value inside of a text, or nothing. -/
def Follows (rest : List Char) : Prop := ∀ c ∈ rest.head?, c = ',' ∨ c = ']' ∨ c = '\x7d'

theorem Follows.breaks {rest : List Char} (follows : Follows rest) : Text.Breaks rest := by
  intro c first
  rcases follows c first with rfl | rfl | rfl <;> rfl

/-- The digits of a number are the whole part of a literal. -/
theorem spellWhole_writeNat (n : Nat) {rest : List Char} (follows : Follows rest) :
    spellWhole (writeNat n ++ rest) = some (writeNat n, rest) := by
  rcases Nat.eq_zero_or_pos n with rfl | positive
  · cases rest with
    | nil => rfl
    | cons c rest => simp [writeNat, spellWhole, follows.breaks c rfl]
  · obtain ⟨c, digits, written, apart⟩ := writeNat_head positive
    have all : ∀ c ∈ writeNat n, c.isDigit = true := fun c => isDigit_of_mem_writeNat
    have taken := Text.takeWhile_digits all follows.breaks
    have left := Text.dropWhile_digits all follows.breaks
    rw [written] at taken left ⊢
    rw [List.cons_append] at taken left ⊢
    rw [spellWhole.eq_def]
    split
    · simp_all
    · simp only [taken, left, List.isEmpty_cons]
      rfl

theorem spellFraction_follows {rest : List Char} (follows : Follows rest) :
    spellFraction rest = some (none, rest) := by
  unfold spellFraction
  split
  · exact absurd (follows '.' rfl) (by decide)
  · rfl

theorem spellExponent_follows {rest : List Char} (follows : Follows rest) :
    spellExponent rest = some (none, rest) := by
  cases rest with
  | nil => rfl
  | cons c rest =>
    have plain : ¬ (c = 'e' ∨ c = 'E') := by
      rcases follows c rfl with rfl | rfl | rfl <;> decide
    simp [spellExponent, plain]

theorem writeNat_eq_cons (n : Nat) :
    ∃ c digits, writeNat n = c :: digits ∧ c.isDigit = true := by
  have some_digit : Nat.toDigits 10 n ≠ [] := Nat.toDigits_ne_nil
  obtain ⟨c, digits, written⟩ := List.exists_cons_of_ne_nil some_digit
  exact ⟨c, digits, written, isDigit_of_mem_writeNat (n := n) (by simp [writeNat, written])⟩

/-- An integer is spelled by its sign and its digits. -/
theorem read_writeInt (i : Int) {rest : List Char} (follows : Follows rest) :
    Literal.read (writeInt i ++ rest) =
      some (⟨decide (i < 0), writeNat i.natAbs, none, none⟩, rest) := by
  have whole := spellWhole_writeNat i.natAbs follows
  have fraction := spellFraction_follows follows
  have exponent := spellExponent_follows follows
  unfold writeInt
  split
  · rename_i negative
    simp [Literal.read, whole, fraction, exponent, negative]
  · rename_i natural
    obtain ⟨c, digits, written, digit⟩ := writeNat_eq_cons i.natAbs
    have unsigned : c ≠ '-' := by
      rintro rfl
      exact absurd digit (by decide)
    rw [written] at whole ⊢
    rw [List.cons_append] at whole ⊢
    simp [Literal.read, unsigned, whole, fraction, exponent, natural]

/-- The literal of an integer is worth that integer, if it fits into 64 bits. -/
theorem value_writeNat {i : Int} (low : -0x8000000000000000 ≤ i) (high : i ≤ 0xffffffffffffffff) :
    Literal.value ⟨decide (i < 0), writeNat i.natAbs, none, none⟩ = .integer i := by
  have digits : Nat.ofDigitChars 10 (writeNat i.natAbs) 0 = i.natAbs :=
    Nat.ofDigitChars_toDigits (by decide) (Nat.le_refl 10)
  have fits : Nat.ofDigitChars 10 (writeNat i.natAbs) 0 ≤ maxSignificand := by
    rw [digits, maxSignificand]
    omega
  have taken := accumulate_eq fits
  rw [digits] at taken
  by_cases negative : i < 0
  · have machine : ¬ (i.natAbs = 0 ∨ 0x8000000000000000 < i.natAbs) := by omega
    have value : -(i.natAbs : Int) = i := by omega
    simp only [Literal.value, taken, negative, machine]
    exact congrArg Json.integer value
  · have value : (i.natAbs : Int) = i := by omega
    simp [Literal.value, taken, negative, value]

theorem writeInt_eq_cons (i : Int) :
    ∃ c text, writeInt i = c :: text ∧ (c.isDigit = true ∨ c = '-') := by
  unfold writeInt
  split
  · exact ⟨'-', _, rfl, .inr rfl⟩
  · obtain ⟨c, digits, written, digit⟩ := writeNat_eq_cons i.natAbs
    exact ⟨c, digits, written, .inl digit⟩

theorem ne_of_number {c : Char} (number : c.isDigit = true ∨ c = '-') (d : Char)
    (other : ¬ (d.isDigit = true ∨ d = '-')) : c ≠ d :=
  fun same => other (same ▸ number)

theorem isBlankChar_of_number {c : Char} (number : c.isDigit = true ∨ c = '-') :
    isBlankChar c = false := by
  have apart := ne_of_number number
  simp [isBlankChar, apart ' ', apart '\n', apart '\t', apart '\r']

end Testbed.Json
