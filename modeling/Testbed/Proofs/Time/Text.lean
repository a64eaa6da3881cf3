import Mathlib.Algebra.Group.Nat.Defs
import Testbed.Proofs.Data.Gives
import Testbed.Proofs.Text.Digits
import Testbed.Time.Text

/-!
# Timestamps are read back from their texts

Every moment of the calendar is read back from the text that is written for it, leap seconds and
years of more than four digits included; and whatever is read is a moment of the calendar.
-/
namespace Testbed.Timestamp

open Text (Breaks)

/-- A moment of the calendar: a valid day and time, at most a leap second past the minute. -/
structure Valid (t : Timestamp) : Prop where
  date : t.date.isValid = true
  hour : t.hour < 24
  minute : t.minute < 60
  second : t.second ≤ 60
  nanosecond : t.nanosecond < 1000000000

/-! ## Digits -/

theorem valueOf_eq (digits : List Char) : valueOf digits = Nat.ofDigitChars 10 digits 0 := by
  unfold valueOf
  rw [Nat.ofDigitChars_eq_foldl]
  congr
  funext n c
  rw [Nat.mul_comm]
  rfl

theorem valueOf_padded (width n : Nat) : valueOf (padded width n) = n := by
  rw [valueOf_eq, padded, Nat.ofDigitChars_append, Nat.ofDigitChars_replicate_zero]
  exact Nat.ofDigitChars_toDigits (by decide) (Nat.le_refl 10)

theorem isDigit_of_mem_padded {width n : Nat} {c : Char} (member : c ∈ padded width n) :
    c.isDigit = true := by
  rcases List.mem_append.1 member with zero | digit
  · rw [List.eq_of_mem_replicate zero]
    rfl
  · exact Nat.isDigit_of_mem_toDigits (by decide) (Nat.le_refl 10) digit

theorem length_padded {width n : Nat} (positive : 0 < width) (fits : n < 10 ^ width) :
    (padded width n).length = width := by
  have short : (digits n).length ≤ width :=
    (Nat.length_toDigits_le_iff (by decide) positive).2 fits
  rw [padded, List.length_append, List.length_replicate]
  omega

theorem padded_eq_cons (width n : Nat) :
    ∃ c rest, padded width n = c :: rest ∧ c.isDigit = true := by
  have nonempty : padded width n ≠ [] := by simp [padded, digits, Nat.toDigits_ne_nil]
  obtain ⟨c, rest, written⟩ := List.exists_cons_of_ne_nil nonempty
  have first : c ∈ padded width n := by simp [written]
  exact ⟨c, rest, written, isDigit_of_mem_padded first⟩

/-- A number that is not wider than awaited is read up to the first character after it. -/
theorem number_padded {width n most : Nat} {rest : List Char} (breaks : Breaks rest)
    (room : (padded width n).length ≤ most) :
    number most (padded width n ++ rest) = some (n, rest) := by
  obtain ⟨c, others, written, -⟩ := padded_eq_cons width n
  have nonempty : (padded width n).isEmpty = false := by simp [written]
  unfold number
  rw [Text.takeWhile_digits (fun c => isDigit_of_mem_padded) breaks, List.take_of_length_le room]
  simp [nonempty, valueOf_padded]

/-! ## Fields -/

theorem isBlankChar_of_isDigit {c : Char} (digit : c.isDigit = true) :
    Text.isBlankChar c = false := by
  have range : 48 ≤ c.toNat ∧ c.toNat ≤ 57 := by
    simpa [Char.isDigit, UInt32.le_iff_toNat_le] using digit
  simp [Text.isBlankChar, Text.blankRanges]
  omega

theorem skipBlanks_cons {c : Char} (visible : Text.isBlankChar c = false) (rest : List Char) :
    skipBlanks (c :: rest) = c :: rest := by
  simp [skipBlanks, visible]

theorem skipBlanks_padded (width n : Nat) (rest : List Char) :
    skipBlanks (padded width n ++ rest) = padded width n ++ rest := by
  obtain ⟨c, others, written, digit⟩ := padded_eq_cons width n
  rw [written, List.cons_append, skipBlanks_cons (isBlankChar_of_isDigit digit)]

theorem field_padded {low high n : Nat} {rest : List Char} (above : low ≤ n) (below : n ≤ high)
    (fits : n < 100) (breaks : Breaks rest) :
    field low high (padded 2 n ++ rest) = some (n, rest) := by
  have two : (padded 2 n).length = 2 := length_padded (by decide) fits
  simp [field, skipBlanks_padded, number_padded breaks (Nat.le_of_eq two), above, below]

theorem readYear_writeYear {year : Int} {rest : List Char} (breaks : Breaks rest) :
    readYear (writeYear year ++ rest) = some (year, rest) := by
  obtain ⟨c, others, written, digit⟩ := padded_eq_cons 4 year.natAbs
  unfold writeYear
  split
  · rename_i short
    have four : (padded 4 year.natAbs).length = 4 := length_padded (by decide) (by omega)
    have read := number_padded breaks (Nat.le_of_eq four)
    have unsigned : c ≠ '-' ∧ c ≠ '+' := by
      constructor <;> (rintro rfl; exact absurd digit (by decide))
    have value : (year.natAbs : Int) = year := by omega
    unfold readYear
    rw [skipBlanks_padded]
    rw [written, List.cons_append] at read ⊢
    simp [unsigned, read, value]
  · rename_i long
    have read : number (padded 4 year.natAbs ++ rest).length (padded 4 year.natAbs ++ rest) =
        some (year.natAbs, rest) := number_padded breaks (by simp)
    rw [List.length_append] at read
    split
    · have value : -(year.natAbs : Int) = year := by omega
      have visible : Text.isBlankChar '-' = false := by decide
      simp only [List.cons_append, readYear, skipBlanks_cons visible, List.length_append, read,
        Option.map_some, value]
    · have value : (year.natAbs : Int) = year := by omega
      have visible : Text.isBlankChar '+' = false := by decide
      simp [readYear, skipBlanks_cons visible, read, value]

theorem mark_cons {c : Char} (visible : Text.isBlankChar c = false) (rest : List Char) :
    mark c (c :: rest) = some rest := by
  simp [mark, skipBlanks_cons visible]

theorem readFraction_writeFraction {nanosecond : Nat} (fits : nanosecond < 1000000000) :
    readFraction (writeFraction nanosecond ++ ['Z']) = some (nanosecond, ['Z']) := by
  have some_digits {width n : Nat} (positive : 0 < width) (most : width ≤ 9)
      (short : n < 10 ^ width) (scaled : n * 10 ^ (9 - width) = nanosecond) :
      readFraction ('.' :: padded width n ++ ['Z']) = some (nanosecond, ['Z']) := by
    have all : ∀ c ∈ padded width n, c.isDigit = true := fun c => isDigit_of_mem_padded
    have breaks : Breaks ['Z'] := .cons rfl []
    have taken := Text.takeWhile_digits all breaks
    have length := length_padded positive short
    obtain ⟨c, others, written, -⟩ := padded_eq_cons width n
    have nonempty : (padded width n).isEmpty = false := by simp [written]
    have kept : (padded width n).take 9 = padded width n := List.take_of_length_le (by omega)
    simp [readFraction, taken, kept, nonempty, valueOf_padded, length, scaled]
  unfold writeFraction
  split
  · rename_i zero
    rw [zero]
    rfl
  · split
    · exact some_digits (by decide) (by decide) (by omega) (by omega)
    · split
      · exact some_digits (by decide) (by decide) (by omega) (by omega)
      · exact some_digits (by decide) (by decide) (by omega) (by omega)

theorem breaks_writeFraction (nanosecond : Nat) : Breaks (writeFraction nanosecond ++ ['Z']) := by
  unfold writeFraction
  split
  · exact .cons rfl []
  · split
    · exact .cons rfl _
    · split <;> exact .cons rfl _

/-- Without an offset a moment of the calendar stays as it is. -/
theorem toUniversal_zero {t : Timestamp} (valid : t.Valid) : toUniversal t 0 = some t := by
  obtain ⟨date, hour, minute, second, nanosecond⟩ := t
  have below : hour < 24 := valid.hour
  have sixty : minute < 60 := valid.minute
  have today : ¬ ((hour : Int) * 60 + minute < 0) := by omega
  have tomorrow : ¬ (1440 ≤ (hour : Int) * 60 + minute) := by omega
  have ofDay : ((hour * 60 + minute : Int) % 1440).toNat = hour * 60 + minute := by omega
  have hours : (hour * 60 + minute) / 60 = hour := by omega
  have minutes : (hour * 60 + minute) % 60 = minute := by omega
  simp [toUniversal, today, tomorrow, ofDay, hours, minutes, valid.date]

theorem daysInMonth_le (year : Int) (month : Nat) : Date.daysInMonth year month ≤ 31 := by
  unfold Date.daysInMonth
  split
  · split <;> decide
  · split <;> decide

/-- Every moment of the calendar is read back from its text. -/
theorem read_write {t : Timestamp} (valid : t.Valid) : read (write t) = some t := by
  have same := toUniversal_zero valid
  obtain ⟨⟨year, month, day⟩, hour, minute, second, nanosecond⟩ := t
  obtain ⟨date, hours, minutes, seconds, nanoseconds⟩ := valid
  dsimp only at date hours minutes seconds nanoseconds
  have calendar : 1 ≤ month ∧ month ≤ 12 ∧ 1 ≤ day ∧ day ≤ 31 := by
    have := daysInMonth_le year month
    simp only [Date.isValid, Bool.and_eq_true, decide_eq_true_eq] at date
    omega
  have dash (rest : List Char) : mark '-' ('-' :: rest) = some rest := mark_cons (by decide) rest
  have colon (rest : List Char) : mark ':' (':' :: rest) = some rest := mark_cons (by decide) rest
  have year_read (rest : List Char) :
      readYear (writeYear year ++ '-' :: rest) = some (year, '-' :: rest) :=
    readYear_writeYear (.cons rfl rest)
  have month_read (rest : List Char) :
      field 1 12 (padded 2 month ++ '-' :: rest) = some (month, '-' :: rest) :=
    field_padded (by omega) (by omega) (by omega) (.cons rfl rest)
  have day_read (rest : List Char) :
      field 1 31 (padded 2 day ++ 'T' :: rest) = some (day, 'T' :: rest) :=
    field_padded (by omega) (by omega) (by omega) (.cons rfl rest)
  have hour_read (rest : List Char) :
      field 0 23 (padded 2 hour ++ ':' :: rest) = some (hour, ':' :: rest) :=
    field_padded (by omega) (by omega) (by omega) (.cons rfl rest)
  have minute_read (rest : List Char) :
      field 0 59 (padded 2 minute ++ ':' :: rest) = some (minute, ':' :: rest) :=
    field_padded (by omega) (by omega) (by omega) (.cons rfl rest)
  have second_read : field 0 60 (padded 2 second ++ (writeFraction nanosecond ++ ['Z'])) =
      some (second, writeFraction nanosecond ++ ['Z']) :=
    field_padded (by omega) (by omega) (by omega) (breaks_writeFraction nanosecond)
  have offset : readOffset (skipBlanks ['Z']) = some (0, []) := by decide
  have finished : skipBlanks [] = [] := rfl
  simp only [write, List.append_assoc, List.cons_append]
  refine Option.bind_eq_some_iff.2 ⟨_, year_read _, ?_⟩
  refine Option.bind_eq_some_iff.2 ⟨_, dash _, Option.bind_eq_some_iff.2 ⟨_, month_read _, ?_⟩⟩
  refine Option.bind_eq_some_iff.2 ⟨_, dash _, Option.bind_eq_some_iff.2 ⟨_, day_read _, ?_⟩⟩
  refine Option.bind_eq_some_iff.2 ⟨_, rfl, Option.bind_eq_some_iff.2 ⟨_, hour_read _, ?_⟩⟩
  refine Option.bind_eq_some_iff.2 ⟨_, colon _, Option.bind_eq_some_iff.2 ⟨_, minute_read _, ?_⟩⟩
  refine Option.bind_eq_some_iff.2 ⟨_, colon _, Option.bind_eq_some_iff.2 ⟨_, second_read, ?_⟩⟩
  refine Option.bind_eq_some_iff.2 ⟨_, readFraction_writeFraction nanoseconds, ?_⟩
  refine Option.bind_eq_some_iff.2 ⟨_, offset, ?_⟩
  simp [finished, date, same]

/-! ## What is read is a moment of the calendar -/

theorem digit_le {c : Char} (digit : c.isDigit = true) : c.toNat - '0'.toNat ≤ 9 := by
  have range : 48 ≤ c.toNat ∧ c.toNat ≤ 57 := by
    simpa [Char.isDigit, UInt32.le_iff_toNat_le] using digit
  have zero : '0'.toNat = 48 := rfl
  omega

theorem ofDigitChars_lt {digits : List Char} (all : ∀ c ∈ digits, c.isDigit = true) (n : Nat) :
    Nat.ofDigitChars 10 digits n < (n + 1) * 10 ^ digits.length := by
  induction digits generalizing n with
  | nil => simp
  | cons c digits ih =>
    have first := digit_le (all c (.head _))
    have later := ih (fun c member => all c (.tail _ member)) (10 * n + (c.toNat - '0'.toNat))
    rw [Nat.ofDigitChars_cons, List.length_cons, Nat.pow_succ']
    refine Nat.lt_of_lt_of_le later ?_
    rw [← Nat.mul_assoc]
    exact Nat.mul_le_mul_right _ (by omega)

theorem valueOf_lt {digits : List Char} (all : ∀ c ∈ digits, c.isDigit = true) :
    valueOf digits < 10 ^ digits.length := by
  simpa [valueOf_eq] using ofDigitChars_lt all 0

theorem field_gives (low high : Nat) (text : List Char) :
    Gives (fun field => field.1 ≤ high) (field low high text) := by
  refine .after (fun number => ?_)
  dsimp only
  split
  · exact .some (And.right ‹_›)
  · exact .none

theorem readFraction_gives (text : List Char) :
    Gives (fun fraction => fraction.1 < 1000000000) (readFraction text) := by
  unfold readFraction
  split
  · rename_i rest
    dsimp only
    split
    · exact .none
    · refine .some ?_
      dsimp only
      generalize kept : (rest.takeWhile Char.isDigit).take 9 = digits
      have all : ∀ c ∈ digits, c.isDigit = true := by
        intro c member
        rw [← kept] at member
        exact List.all_eq_true.1 List.all_takeWhile c (List.mem_of_mem_take member)
      have length : digits.length ≤ 9 := by
        rw [← kept]
        exact List.length_take_le ..
      calc valueOf digits * Nat.pow 10 (9 - digits.length)
        _ < 10 ^ digits.length * 10 ^ (9 - digits.length) :=
          Nat.mul_lt_mul_of_pos_right (valueOf_lt all) (Nat.pow_pos (by decide))
        _ = 1000000000 := by rw [← Nat.pow_add, Nat.add_sub_cancel' length]
  · exact .some (Nat.zero_lt_succ _)

/-- Universal time is a moment of the calendar if the seconds of the local time are. -/
theorem toUniversal_gives {t : Timestamp} (second : t.second ≤ 60)
    (nanosecond : t.nanosecond < 1000000000) (aheadMinutes : Int) :
    Gives Valid (toUniversal t aheadMinutes) := by
  unfold toUniversal
  extract_lets minutes date ofDay shifted
  have today : ofDay < 1440 := by
    have := Int.emod_lt_of_pos minutes (b := 1440) (by decide)
    omega
  split
  · rename_i valid
    refine .some ⟨valid, ?_, ?_, second, nanosecond⟩
    · change ofDay / 60 < 24
      omega
    · change ofDay % 60 < 60
      omega
  · exact .none

/-- Whatever is read is a moment of the calendar. -/
theorem read_gives (text : List Char) : Gives Valid (read text) := by
  unfold read
  refine .after fun (year, rest) => .after fun rest => .after fun (month, rest) => ?_
  refine .after fun rest => .after fun (day, rest) => ?_
  dsimp -zeta only
  extract_lets date goesOn
  have on (rest : List Char) : Gives Valid (goesOn rest) := by
    refine .after fun (hour, rest) => .after fun rest => .after fun (minute, rest) => ?_
    refine .after fun rest => .bind (field_gives 0 60 rest) fun (second, rest) sixty => ?_
    refine .bind (readFraction_gives rest) fun (nanosecond, rest) billion => ?_
    refine .after fun (offset, rest) => ?_
    dsimp only
    have universal : Gives Valid
        (toUniversal ⟨⟨year, month, day⟩, hour, minute, second, nanosecond⟩ offset) :=
      toUniversal_gives sixty billion offset
    split
    · exact .none
    · split
      · exact .none
      · exact universal
  split
  · exact on _
  · exact on _
  · exact on _
  · exact .none

end Testbed.Timestamp
