import Testbed.Proofs.BareMetal.Addresses
import Testbed.Proofs.Lifecycle.Traffic
import Testbed.Proofs.Text.Patterns

/-!
# The pattern of an address

What an address getter finds in a file is what the pattern "digits, and once or more often a dot and
digits" finds: every repetition takes as much as it can, and nothing has to be given back where an
address starts.
-/
namespace Testbed.BareMetal

open Text

section Patterns

variable {after text : List Char} {numbers : List (List Char)}

def numberPattern : Pattern := .plus (.one isDecimalDigit)

def dotNumberPattern : Pattern := .seq (.one (· == '.')) numberPattern

/-- Digits, and once or more often a dot and digits. -/
def addressPattern : Pattern := .seq numberPattern (.plus dotNumberPattern)

theorem dotNumberPattern_ends_cons (rest : List Char) :
    dotNumberPattern.ends ('.' :: rest) = numberPattern.ends rest := by
  rw [dotNumberPattern, Pattern.ends_seq, Pattern.ends_one_cons, if_pos (beq_self_eq_true '.'),
    List.flatMap_singleton]

theorem dotNumberPattern_ends_eq_nil (no : ¬ DotDigit text) : dotNumberPattern.ends text = [] := by
  cases text with
  | nil => rw [dotNumberPattern, Pattern.ends_seq, Pattern.ends_one_nil, List.flatMap_nil]
  | cons c rest =>
    by_cases dot : c = '.'
    · subst dot
      rw [dotNumberPattern_ends_cons]
      refine Pattern.ends_plus_one_eq_nil _ (fun d next => ?_)
      obtain ⟨more, rfl⟩ := List.head?_eq_some_iff.1 next
      exact Bool.eq_false_iff.2 (fun digit => no ⟨d, more, digit, rfl⟩)
    · rw [dotNumberPattern, Pattern.ends_seq, Pattern.ends_one_cons, if_neg (by simpa using dot),
        List.flatMap_nil]

/-- Numbers with a dot before each are preferred up to the last one. -/
theorem numbersPattern_ends_head (nonempty : numbers ≠ [])
    (all : ∀ number ∈ numbers, IsNumber number) (stops : Stops after) :
    (dotNumberPattern.plus.ends (dotNumbers numbers ++ after)).head? = some after := by
  induction numbers with
  | nil => exact absurd rfl nonempty
  | cons number numbers ih =>
    obtain ⟨isNumber, all⟩ := List.forall_mem_cons.1 all
    obtain ⟨others, ends, -⟩ := Pattern.ends_plus_run isDecimalDigit isNumber.nonempty
      isNumber.digits (noDigit_dotNumbers numbers stops)
    have once : dotNumberPattern.ends (dotNumbers (number :: numbers) ++ after) =
        (dotNumbers numbers ++ after) :: others := by
      rw [← ends, ← numberPattern, ← dotNumberPattern_ends_cons]
      simp [dotNumbers]
    rw [Pattern.ends_plus, once, List.flatMap_cons, List.append_assoc, List.head?_append]
    by_cases last : numbers = []
    · subst last
      have alone : dotNumberPattern.plus.ends (dotNumbers [] ++ after) = [] :=
        Pattern.ends_plus_eq_nil (dotNumberPattern_ends_eq_nil stops.noNumber)
      rw [alone]
      rfl
    · rw [ih last all]
      rfl

/-- Where no address starts, no run of digits can be matched so that a dot and a digit follow. -/
theorem numberPattern_ends_noNumber (not : ¬ StartsAddress text) :
    ∀ left ∈ numberPattern.ends text, ¬ DotDigit left := by
  obtain ⟨first, numbers, after, rfl, digits, all, stops⟩ := exists_parts text
  have other := noDigit_dotNumbers numbers stops
  by_cases nothing : first = []
  · subst nothing
    rw [List.nil_append, numberPattern, Pattern.ends_plus_one_eq_nil _ other]
    exact nofun
  · obtain ⟨others, ends, given⟩ := Pattern.ends_plus_run isDecimalDigit nothing digits other
    rw [numberPattern, ends]
    -- the whole run comes first; after less of it there is a digit, and no dot
    refine List.forall_mem_cons.2 ⟨fun dot => not ⟨first, _, ⟨nothing, digits⟩, dot, rfl⟩, ?_⟩
    rintro left member ⟨d, more, -, rfl⟩
    obtain ⟨c, isHead, digit⟩ := given _ member
    obtain rfl := Option.some.inj isHead
    cases digit

/-- The pattern matches where an address starts, and prefers to match what is taken. -/
theorem addressPattern_ends_head (text : List Char) : (addressPattern.ends text).head? =
    if StartsAddress text then some (text.drop (dotted text).length) else none := by
  rw [addressPattern, Pattern.ends_seq]
  split
  · rename_i starts
    obtain ⟨first, numbers, after, rfl, isNumber, some, all, stops⟩ := starts.exists_parts
    obtain ⟨others, ends, -⟩ := Pattern.ends_plus_run isDecimalDigit isNumber.nonempty
      isNumber.digits (noDigit_dotNumbers numbers stops)
    rw [numberPattern, ends, List.flatMap_cons, List.head?_append,
      numbersPattern_ends_head some all stops, dotted_parts isNumber.digits all stops,
      ← List.append_assoc, List.drop_left]
    rfl
  · rename_i not
    rw [List.flatMap_eq_nil_iff.2 fun left member => Pattern.ends_plus_eq_nil
      (dotNumberPattern_ends_eq_nil (numberPattern_ends_noNumber not left member))]
    rfl

/-- The pattern finds the address. -/
theorem addressPattern_find (text : List Char) : addressPattern.find text = findAddress text := by
  induction text with
  | nil => rfl
  | cons c rest ih =>
    rw [Pattern.find, addressPattern_ends_head, findAddress_cons]
    by_cases starts : StartsAddress (c :: rest)
    · have taken := dotted_prefix (c :: rest)
      rw [if_pos starts, if_pos starts]
      dsimp only
      rw [List.length_drop, Nat.sub_sub_self taken.length_le, ← List.prefix_iff_eq_take.1 taken]
    · rw [if_neg starts, if_neg starts]
      exact ih

end Patterns

theorem IpGetter.address_eq (g : IpGetter) (content : String) :
    g.address content = match findAddress content.toList with
      | some found => .ok (String.ofList found)
      | none => .error (.ipNotFound g.file) := rfl

theorem IpGetter.address_eq_ok_iff (g : IpGetter) (content found : String) :
    g.address content = .ok found ↔ findAddress content.toList = some found.toList := by
  rw [address_eq]
  cases findAddress content.toList with
  | none => exact iff_of_false nofun nofun
  | some taken =>
    rw [Except.ok.injEq, Option.some.injEq, ← String.toList_inj, String.toList_ofList]

theorem IpGetter.exists_address_iff (g : IpGetter) (content : String) :
    (∃ found, g.address content = .ok found) ↔
      ∃ before onward, content.toList = before ++ onward ∧ StartsAddress onward := by
  rw [address_eq]
  cases result : findAddress content.toList with
  | none =>
    refine iff_of_false (fun ⟨_, found⟩ => nomatch found) ?_
    rintro ⟨before, onward, split, starts⟩
    exact not_startsAddress_of_findAddress result before onward split starts
  | some found =>
    obtain ⟨before, onward, split, starts, -, -⟩ := exists_of_findAddress result
    exact iff_of_true ⟨_, rfl⟩ ⟨before, onward, split, starts⟩

/-- Answers of an outside world in which every file has this content. -/
def leased (content : String) : (c : Call) → Unit → Unit → c.Reply × Unit × Unit
  | .readFile _, s, w => (.ok content, s, w)
  | call, s, w => (call.obliging, s, w)

end Testbed.BareMetal
