/-!
# Runs of digits

A number in a text ends where something other than a digit follows.
-/
namespace Testbed.Text

/-- A text that does not go on with a digit. -/
def Breaks (rest : List Char) : Prop := ∀ c ∈ rest.head?, c.isDigit = false

theorem Breaks.cons {c : Char} (other : c.isDigit = false) (rest : List Char) :
    Breaks (c :: rest) := by
  simpa [Breaks] using other

variable {digits rest : List Char}

theorem takeWhile_digits (all : ∀ c ∈ digits, c.isDigit = true) (breaks : Breaks rest) :
    (digits ++ rest).takeWhile Char.isDigit = digits := by
  rw [List.takeWhile_append_of_pos all]
  cases rest with
  | nil => simp
  | cons c rest => simp [breaks c rfl]

theorem dropWhile_digits (all : ∀ c ∈ digits, c.isDigit = true) (breaks : Breaks rest) :
    (digits ++ rest).dropWhile Char.isDigit = rest := by
  rw [List.dropWhile_append_of_pos all]
  cases rest with
  | nil => rfl
  | cons c rest => simp [breaks c rfl]

end Testbed.Text
