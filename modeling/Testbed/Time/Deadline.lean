/-!
# Deadlines and timers

The running clock counts seconds in 63 bits, and a deadline is one of its moments. A time to wait may
be too long for that: then there is no deadline. A timer that is set for such a time goes off in the
far future instead.
-/
namespace Testbed

/-- The end of the running clock, in milliseconds. -/
def clockEnd : Nat := 0x8000000000000000 * 1000

/-- The moment so many milliseconds after one of the running clock, unless the clock has ended by
then. -/
def deadline? (now ms : Nat) : Option Nat :=
  if now + ms < clockEnd then some (now + ms) else none

/-- Thirty years, in milliseconds. -/
def farFuture : Nat := 30 * 365 * 86400 * 1000

/-- How long a timer lasts that is set at a moment of the running clock, unless not even the far
future is one of its moments. -/
def timer? (now ms : Nat) : Option Nat :=
  if (deadline? now ms).isSome then some ms
  else if (deadline? now farFuture).isSome then some farFuture
  else none

section Timers

variable {now ms : Nat}

theorem deadline?_of_fits (fits : now + ms < clockEnd) : deadline? now ms = some (now + ms) :=
  if_pos fits

theorem deadline?_of_late (late : clockEnd ≤ now + ms) : deadline? now ms = none :=
  if_neg (Nat.not_lt.2 late)

theorem timer?_of_fits (fits : now + ms < clockEnd) : timer? now ms = some ms := by
  simp [timer?, deadline?_of_fits fits]

theorem timer?_of_far (late : clockEnd ≤ now + ms) (far : now + farFuture < clockEnd) :
    timer? now ms = some farFuture := by
  simp [timer?, deadline?_of_late late, deadline?_of_fits far]

theorem timer?_of_late (late : clockEnd ≤ now + ms) (none_far : clockEnd ≤ now + farFuture) :
    timer? now ms = none := by
  simp [timer?, deadline?_of_late late, deadline?_of_late none_far]

/-- A timer that does not last as long as it was set for goes off early. -/
theorem timer?_early {lasts : Nat} (late : clockEnd ≤ now + ms) (set : timer? now ms = some lasts) :
    now + lasts < now + ms := by
  by_cases far : now + farFuture < clockEnd
  · rw [timer?_of_far late far] at set
    exact Option.some.inj set ▸ Nat.lt_of_lt_of_le far late
  · rw [timer?_of_late late (Nat.not_lt.1 far)] at set
    cases set

end Timers

/-- The wording for a deadline that there is not. -/
def noDeadlineMessage : String := "overflow when adding duration to instant"

end Testbed
