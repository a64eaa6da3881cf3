import Testbed.BareMetal.IpGetter

/-!
# The first address in a text

An address is a number and then, at least once, a dot and a number. What is found in a text begins
where a run of digits begins that a dot and a digit follow, in the first such run, and goes on as
far as an address can.
-/
namespace Testbed.BareMetal

open Text

/-- Digits, at least one. -/
structure IsNumber (text : List Char) : Prop where
  nonempty : text ≠ []
  digits : ∀ c ∈ text, isDecimalDigit c = true

/-- Numbers with a dot before each. -/
def dotNumbers (numbers : List (List Char)) : List Char := numbers.flatMap ('.' :: ·)

/-- A number, and then numbers with a dot before each, at least one. -/
def IsAddress (text : List Char) : Prop :=
  ∃ first numbers, IsNumber first ∧ numbers ≠ [] ∧ (∀ number ∈ numbers, IsNumber number) ∧
    text = first ++ dotNumbers numbers

/-- Whether a text begins with a dot and a digit. -/
def DotDigit (text : List Char) : Prop :=
  ∃ c rest, isDecimalDigit c = true ∧ text = '.' :: c :: rest

/-- Whether an address cannot be made longer with the text after it. -/
structure Stops (after : List Char) : Prop where
  noDigit : ∀ c ∈ after.head?, isDecimalDigit c = false
  noNumber : ¬ DotDigit after

/-- Whether a text begins with digits that a dot and a digit follow directly. -/
def StartsAddress (text : List Char) : Prop :=
  ∃ number rest, IsNumber number ∧ DotDigit rest ∧ text = number ++ rest

theorem isDecimalDigit_dot : isDecimalDigit '.' = false := by decide

section Parts

variable {first after text : List Char} {numbers : List (List Char)}

theorem IsNumber.exists_cons (h : IsNumber text) :
    ∃ c rest, isDecimalDigit c = true ∧ text = c :: rest := by
  cases text with
  | nil => exact absurd rfl h.nonempty
  | cons c rest => exact ⟨c, rest, h.digits c List.mem_cons_self, rfl⟩

/-- What comes after the first number of an address is no digit. -/
theorem noDigit_dotNumbers (numbers : List (List Char)) (stops : Stops after) :
    ∀ c ∈ (dotNumbers numbers ++ after).head?, isDecimalDigit c = false := by
  cases numbers with
  | nil => exact stops.noDigit
  | cons number numbers =>
    rintro c ⟨⟩
    exact isDecimalDigit_dot

theorem isDecimalDigit_of_dotNumbers {c : Char} {rest : List Char} (stops : Stops after)
    (begins : dotNumbers numbers ++ after = c :: rest) : isDecimalDigit c = false :=
  noDigit_dotNumbers numbers stops c (by rw [begins]; rfl)

theorem dotDigit_dotNumbers (all : ∀ number ∈ numbers, IsNumber number) (stops : Stops after) :
    DotDigit (dotNumbers numbers ++ after) ↔ numbers ≠ [] := by
  cases numbers with
  | nil => exact iff_of_false stops.noNumber (absurd rfl)
  | cons number numbers =>
    obtain ⟨c, rest, digit, rfl⟩ := (all number List.mem_cons_self).exists_cons
    exact iff_of_true ⟨c, _, digit, rfl⟩ (List.cons_ne_nil _ _)

variable (text) in
/-- Every text is digits, if any, then numbers with a dot before each, if any, and then something
that stops there. -/
theorem exists_parts : ∃ first numbers after, text = first ++ (dotNumbers numbers ++ after) ∧
    (∀ c ∈ first, isDecimalDigit c = true) ∧ (∀ number ∈ numbers, IsNumber number) ∧
    Stops after := by
  induction text with
  | nil => exact ⟨[], [], [], rfl, nofun, nofun, ⟨nofun, nofun⟩⟩
  | cons c rest ih =>
    obtain ⟨first, numbers, after, rfl, digits, all, stops⟩ := ih
    by_cases digit : isDecimalDigit c = true
    · exact ⟨c :: first, numbers, after, rfl, List.forall_mem_cons.2 ⟨digit, digits⟩, all, stops⟩
    -- a dot makes a number of the digits after it; anything else ends the parts
    by_cases dot : c = '.' ∧ first ≠ []
    · obtain ⟨rfl, nonempty⟩ := dot
      refine ⟨[], first :: numbers, after, ?_, nofun,
        List.forall_mem_cons.2 ⟨⟨nonempty, digits⟩, all⟩, stops⟩
      simp [dotNumbers]
    · refine ⟨[], [], _, rfl, nofun, nofun, ⟨by simpa using digit, ?_⟩⟩
      rintro ⟨d, more, isDigit, same⟩
      obtain ⟨rfl, next⟩ := List.cons.inj same
      obtain rfl : first = [] := by simpa using dot
      cases isDigit.symm.trans (isDecimalDigit_of_dotNumbers stops next)

end Parts

section Dotted

variable {first after text : List Char} {numbers : List (List Char)}

theorem dotted_stops (stops : Stops after) : dotted after = [] := by
  cases after with
  | nil => rfl
  | cons c rest =>
    have other := stops.noDigit c rfl
    have nothing : ¬ (c = '.' ∧ rest.head?.any isDecimalDigit = true) := by
      rintro ⟨rfl, digit⟩
      cases rest with
      | nil => cases digit
      | cons d rest => exact stops.noNumber ⟨d, rest, digit, rfl⟩
    simp [dotted, other, nothing]

theorem dotted_digits_append (digits : ∀ c ∈ first, isDecimalDigit c = true) (rest : List Char) :
    dotted (first ++ rest) = first ++ dotted rest := by
  induction first with
  | nil => rfl
  | cons c first ih =>
    obtain ⟨digit, digits⟩ := List.forall_mem_cons.1 digits
    simp [dotted, digit, ih digits]

theorem dotted_dotNumbers_append (all : ∀ number ∈ numbers, IsNumber number) (rest : List Char) :
    dotted (dotNumbers numbers ++ rest) = dotNumbers numbers ++ dotted rest := by
  induction numbers with
  | nil => rfl
  | cons number numbers ih =>
    obtain ⟨isNumber, all⟩ := List.forall_mem_cons.1 all
    have dot : dotted ('.' :: (number ++ (dotNumbers numbers ++ rest))) =
        '.' :: dotted (number ++ (dotNumbers numbers ++ rest)) := by
      obtain ⟨c, more, digit, rfl⟩ := isNumber.exists_cons
      simp [dotted, digit]
    have split : dotNumbers (number :: numbers) = '.' :: (number ++ dotNumbers numbers) := rfl
    rw [split, List.cons_append, List.append_assoc, dot, dotted_digits_append isNumber.digits,
      ih all, List.cons_append, List.append_assoc]

theorem dotted_parts (digits : ∀ c ∈ first, isDecimalDigit c = true)
    (all : ∀ number ∈ numbers, IsNumber number) (stops : Stops after) :
    dotted (first ++ (dotNumbers numbers ++ after)) = first ++ dotNumbers numbers := by
  rw [dotted_digits_append digits, dotted_dotNumbers_append all, dotted_stops stops,
    List.append_nil]

theorem dotted_prefix (text : List Char) : dotted text <+: text := by
  obtain ⟨first, numbers, after, rfl, digits, all, stops⟩ := exists_parts text
  rw [dotted_parts digits all stops, ← List.append_assoc]
  exact List.prefix_append _ _

/-- No address at the beginning of a text is longer than what is taken. -/
theorem IsAddress.prefix_dotted {address : List Char} (h : IsAddress address)
    (begins : address <+: text) : address <+: dotted text := by
  obtain ⟨first, numbers, isNumber, -, all, rfl⟩ := h
  obtain ⟨rest, rfl⟩ := begins
  rw [List.append_assoc, dotted_digits_append isNumber.digits, dotted_dotNumbers_append all,
    ← List.append_assoc]
  exact List.prefix_append _ _

/-- Where an address starts, the parts of the text are those of an address and what comes after. -/
theorem StartsAddress.exists_parts (h : StartsAddress text) : ∃ first numbers after,
    text = first ++ (dotNumbers numbers ++ after) ∧ IsNumber first ∧ numbers ≠ [] ∧
    (∀ number ∈ numbers, IsNumber number) ∧ Stops after := by
  obtain ⟨number, rest, isNumber, dot, rfl⟩ := h
  obtain ⟨first, numbers, after, rfl, digits, all, stops⟩ := BareMetal.exists_parts rest
  -- the rest begins with a dot, so there are no further digits
  obtain rfl : first = [] := by
    cases first with
    | nil => rfl
    | cons c first =>
      obtain ⟨d, more, -, same⟩ := dot
      obtain ⟨rfl, -⟩ := List.cons.inj same
      cases digits '.' List.mem_cons_self
  exact ⟨number, numbers, after, rfl, isNumber, (dotDigit_dotNumbers all stops).1 dot, all, stops⟩

theorem startsAddress_cons_iff (c : Char) (rest : List Char) :
    StartsAddress (c :: rest) ↔ isDecimalDigit c = true ∧ '.' ∈ dotted (c :: rest) := by
  constructor
  · intro starts
    obtain ⟨first, numbers, after, same, isNumber, some, all, stops⟩ := starts.exists_parts
    rw [same, dotted_parts isNumber.digits all stops]
    obtain ⟨d, more, digit, rfl⟩ := isNumber.exists_cons
    obtain ⟨rfl, -⟩ := List.cons.inj same
    obtain ⟨number, numbers, rfl⟩ := List.exists_cons_of_ne_nil some
    exact ⟨digit, by simp [dotNumbers]⟩
  · rintro ⟨digit, dot⟩
    obtain ⟨first, numbers, after, same, digits, all, stops⟩ := exists_parts (c :: rest)
    rw [same, dotted_parts digits all stops] at dot
    have nonempty : first ≠ [] := by
      rintro rfl
      cases digit.symm.trans (isDecimalDigit_of_dotNumbers stops same.symm)
    have some : numbers ≠ [] := by
      rintro rfl
      cases digits '.' (by simpa [dotNumbers] using dot)
    rw [same]
    exact ⟨first, _, ⟨nonempty, digits⟩, (dotDigit_dotNumbers all stops).2 some, rfl⟩

instance : DecidablePred StartsAddress
  | [] => isFalse (by
    rintro ⟨number, rest, isNumber, -, same⟩
    exact isNumber.nonempty (List.append_eq_nil_iff.1 same.symm).1)
  | c :: rest => decidable_of_iff' _ (startsAddress_cons_iff c rest)

theorem findAddress_cons (c : Char) (rest : List Char) :
    findAddress (c :: rest) =
      if StartsAddress (c :: rest) then some (dotted (c :: rest)) else findAddress rest := by
  simp only [findAddress, startsAddress_cons_iff]

/-- What is found is what is taken at the first place where an address starts. -/
theorem exists_of_findAddress {found : List Char} (h : findAddress text = some found) :
    ∃ before onward, text = before ++ onward ∧ StartsAddress onward ∧
      (∀ earlier later, text = earlier ++ later → StartsAddress later →
        before.length ≤ earlier.length) ∧ found = dotted onward := by
  induction text with
  | nil => cases h
  | cons c rest ih =>
    rw [findAddress_cons] at h
    split at h
    · rename_i starts
      exact ⟨[], _, rfl, starts, fun _ _ _ _ => Nat.zero_le _, (Option.some.inj h).symm⟩
    · rename_i not
      obtain ⟨before, onward, rfl, starts, first, rfl⟩ := ih h
      refine ⟨c :: before, onward, rfl, starts, fun earlier later same starts => ?_, rfl⟩
      cases earlier with
      | nil => exact absurd (by rw [same]; exact starts) not
      | cons d earlier =>
        exact Nat.succ_le_succ (first earlier later (List.cons.inj same).2 starts)

/-- When nothing is found, an address starts nowhere. -/
theorem not_startsAddress_of_findAddress (h : findAddress text = none) :
    ∀ before onward, text = before ++ onward → ¬ StartsAddress onward := by
  induction text with
  | nil =>
    intro before onward same
    obtain ⟨rfl, rfl⟩ := List.append_eq_nil_iff.1 same.symm
    decide
  | cons c rest ih =>
    rw [findAddress_cons] at h
    split at h
    · cases h
    · rename_i not
      intro before onward same
      cases before with
      | nil => rwa [← show c :: rest = onward from same]
      | cons d before => exact ih h before onward (List.cons.inj same).2

/-- An address starts somewhere exactly if there are a digit, a dot and a digit in a row. -/
theorem startsAddress_somewhere :
    (∃ before onward, text = before ++ onward ∧ StartsAddress onward) ↔
      ∃ c d, isDecimalDigit c = true ∧ isDecimalDigit d = true ∧ [c, '.', d] <:+: text := by
  constructor
  · rintro ⟨before, onward, rfl, number, rest, isNumber, ⟨d, more, digit, rfl⟩, rfl⟩
    obtain ⟨early, c, rfl⟩ := (List.eq_nil_or_concat number).resolve_left isNumber.nonempty
    exact ⟨c, d, isNumber.digits c (by simp), digit, before ++ early, more, by simp⟩
  · rintro ⟨c, d, first, second, before, after, rfl⟩
    have isNumber : IsNumber [c] := ⟨nofun, List.forall_mem_singleton.2 first⟩
    exact ⟨before, c :: '.' :: d :: after, by simp, [c], _, isNumber, ⟨d, after, second, rfl⟩, rfl⟩

end Dotted

/-- A place where a run of digits begins that a dot and a digit follow directly. -/
structure BeginsRun (before onward : List Char) : Prop where
  noDigit : ∀ c ∈ before.getLast?, isDecimalDigit c = false
  starts : StartsAddress onward

/-- An address in a text: the longest one at the first place where a run of digits begins that a dot
and a digit follow directly. It is as long as it can be on both sides. -/
structure FirstAddress (text before found after : List Char) : Prop where
  split : text = before ++ (found ++ after)
  begins : BeginsRun before (found ++ after)
  leftmost : ∀ earlier later, text = earlier ++ later → BeginsRun earlier later →
    before.length ≤ earlier.length
  isAddress : IsAddress found
  longest : ∀ address, IsAddress address → address <+: found ++ after → address <+: found
  stops : Stops after

section First

variable {text found : List Char}

/-- Among the places where an address starts, the first one is where the run of digits begins. -/
theorem noDigit_before {before onward : List Char} (starts : StartsAddress onward)
    (first : ∀ earlier later, before ++ onward = earlier ++ later → StartsAddress later →
      before.length ≤ earlier.length) : ∀ c ∈ before.getLast?, isDecimalDigit c = false := by
  intro c last
  obtain ⟨earlier, rfl⟩ := List.getLast?_eq_some_iff.1 last
  rw [← Bool.not_eq_true]
  intro digit
  obtain ⟨number, rest, isNumber, dot, rfl⟩ := starts
  have sooner := first earlier (c :: number ++ rest) (by simp)
    ⟨c :: number, rest, ⟨nofun, List.forall_mem_cons.2 ⟨digit, isNumber.digits⟩⟩, dot, rfl⟩
  rw [List.length_append] at sooner
  exact absurd sooner (Nat.not_succ_le_self _)

theorem firstAddress_of_findAddress (h : findAddress text = some found) :
    ∃ before after, FirstAddress text before found after := by
  obtain ⟨before, onward, rfl, starts, first, rfl⟩ := exists_of_findAddress h
  obtain ⟨number, numbers, after, rfl, isNumber, some, all, stops⟩ := starts.exists_parts
  have taken := dotted_parts isNumber.digits all stops
  have whole : number ++ (dotNumbers numbers ++ after) =
      dotted (number ++ (dotNumbers numbers ++ after)) ++ after := by
    rw [taken, List.append_assoc]
  refine ⟨before, after, ?_⟩
  constructor
  case split => rw [← whole]
  case begins => exact ⟨noDigit_before starts first, by rwa [← whole]⟩
  case leftmost => exact fun earlier later same begins => first earlier later same begins.starts
  case isAddress => exact ⟨number, numbers, isNumber, some, all, taken⟩
  case longest =>
    intro address isAddress start
    rw [← whole] at start
    exact isAddress.prefix_dotted start
  case stops => exact stops

/-- There is only one such address. -/
theorem FirstAddress.unique {before after found' before' after' : List Char}
    (one : FirstAddress text before found after)
    (other : FirstAddress text before' found' after') : found = found' := by
  have same : before ++ (found ++ after) = before' ++ (found' ++ after') :=
    one.split.symm.trans other.split
  have place : before.length = before'.length :=
    Nat.le_antisymm (one.leftmost _ _ other.split other.begins)
      (other.leftmost _ _ one.split one.begins)
  have onward := (List.append_inj same place).2
  have forth := other.longest found one.isAddress (onward ▸ List.prefix_append found after)
  have back := one.longest found' other.isAddress (onward ▸ List.prefix_append found' after')
  exact forth.eq_of_length_le back.length_le

theorem findAddress_eq_some_iff : findAddress text = some found ↔
    ∃ before after, FirstAddress text before found after := by
  refine ⟨firstAddress_of_findAddress, ?_⟩
  rintro ⟨before, after, first⟩
  cases result : findAddress text with
  | none =>
    have nowhere := not_startsAddress_of_findAddress result
    exact absurd first.begins.starts (nowhere before _ first.split)
  | some found' =>
    obtain ⟨_, _, first'⟩ := firstAddress_of_findAddress result
    rw [first'.unique first]

end First

end Testbed.BareMetal
