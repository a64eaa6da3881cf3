/-!
# Timestamps

Moments in universal time as calendar fields, to the nanosecond. A leap second is the sixtieth
second of a minute. Shifting by an offset moves a moment by less than a day, so it needs no more
than the day before and the day after.
-/
namespace Testbed

/-- A day of the Gregorian calendar. -/
structure Date where
  year : Int
  month : Nat
  day : Nat
  deriving DecidableEq

namespace Date

def isLeapYear (year : Int) : Bool := year % 4 = 0 && (year % 100 ≠ 0 || year % 400 = 0)

def daysInMonth (year : Int) (month : Nat) : Nat :=
  if month = 2 then (if isLeapYear year then 29 else 28)
  else if month = 4 ∨ month = 6 ∨ month = 9 ∨ month = 11 then 30
  else 31

/-- The years that timestamps can have. -/
def minYear : Int := -262143
def maxYear : Int := 262142

def isValid (d : Date) : Bool :=
  minYear ≤ d.year && d.year ≤ maxYear && 1 ≤ d.month && d.month ≤ 12 && 1 ≤ d.day &&
    d.day ≤ daysInMonth d.year d.month

def next (d : Date) : Date :=
  if d.day < daysInMonth d.year d.month then { d with day := d.day + 1 }
  else if d.month < 12 then { d with month := d.month + 1, day := 1 }
  else ⟨d.year + 1, 1, 1⟩

def previous (d : Date) : Date :=
  if 1 < d.day then { d with day := d.day - 1 }
  else if 1 < d.month then { d with month := d.month - 1, day := daysInMonth d.year (d.month - 1) }
  else ⟨d.year - 1, 12, 31⟩

end Date

/-- A moment in universal time. -/
structure Timestamp where
  date : Date
  hour : Nat
  minute : Nat
  /-- Sixty in a leap second. -/
  second : Nat
  nanosecond : Nat
  deriving DecidableEq

namespace Timestamp

/-- The moment that timestamps are zero at by default. -/
def epoch : Timestamp := ⟨⟨1970, 1, 1⟩, 0, 0, 0, 0⟩

instance : Inhabited Timestamp := ⟨epoch⟩

/-- Turn a local moment into universal time: subtract the minutes by which the local clock is
ahead, less than a day either way. None when the year leaves the range of timestamps. -/
def toUniversal (t : Timestamp) (aheadMinutes : Int) : Option Timestamp :=
  let minutes : Int := t.hour * 60 + t.minute - aheadMinutes
  let date :=
    if minutes < 0 then t.date.previous else if 1440 ≤ minutes then t.date.next else t.date
  let ofDay := (minutes % 1440).toNat
  let shifted : Timestamp := { t with date, hour := ofDay / 60, minute := ofDay % 60 }
  if date.isValid then some shifted else none

end Timestamp

end Testbed
