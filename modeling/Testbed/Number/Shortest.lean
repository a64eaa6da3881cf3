import Testbed.Number.Binary64

/-!
# Shortest decimal digits

The fewest decimal digits that still round to a given double. A double owns the interval of reals
that round to it; on the grid of one digit, of two, and so on, the first grid with a point in the
interval wins, of two such points the nearer one, and of two equally near ones the even one.
-/
namespace Testbed

/-- A positive decimal `0.d₁d₂… * 10 ^ (exponent + 1)`: digits without zeros at either end. -/
structure Decimal where
  digits : List Char
  exponent : Int
  deriving DecidableEq

namespace Decimal

def digitsOf (n : Nat) : List Char := Nat.toDigits 10 n

/-- The exponent of the leading decimal digit of a positive quotient. -/
def leadingExponent (num den : Nat) : Int :=
  if den ≤ num then ((digitsOf (num / den)).length : Int) - 1
  else -((digitsOf ((den - 1) / num)).length : Int)

/-- The interval of reals that round to a double, its middle and ends as numerators over a common
denominator, and whether the ends belong to it. -/
structure Owned where
  lower : Nat
  middle : Nat
  upper : Nat
  den : Nat
  closed : Bool

def Owned.of (x : Binary64) : Owned :=
  let m := x.significand
  let below := if m = Nat.pow 2 52 ∧ 1 < x.biased then 1 else 2
  let up := Nat.pow 2 (x.scale - 1075)
  { lower := (4 * m - below) * up
    middle := 4 * m * up
    upper := (4 * m + 2) * up
    den := 4 * Nat.pow 2 (1075 - x.scale)
    closed := m % 2 = 0 }

/-- Whether `point * 10 ^ place` lies in the interval. -/
def Owned.contains (owned : Owned) (point : Nat) (place : Int) : Bool :=
  let value := point * Nat.pow 10 place.toNat * owned.den
  let unit := Nat.pow 10 (-place).toNat
  if owned.closed then owned.lower * unit ≤ value && value ≤ owned.upper * unit
  else owned.lower * unit < value && value < owned.upper * unit

/-- The point of the grid `10 ^ place` that stands for the double, when the grid has one. -/
def Owned.pick? (owned : Owned) (place : Int) : Option Nat :=
  let num := owned.middle * Nat.pow 10 (-place).toNat
  let den := owned.den * Nat.pow 10 place.toNat
  let low := num / den
  let rest := num % den
  match owned.contains low place, owned.contains (low + 1) place with
  | false, false => none
  | true, false => some low
  | false, true => some (low + 1)
  | true, true =>
    some (if 2 * rest < den then low else if den < 2 * rest then low + 1 else low + low % 2)

/-- Try grids from one digit up; seventeen digits tell all doubles apart. -/
def search (owned : Owned) (exponent : Int) : (tries digits : Nat) → Decimal
  | 0, _ => ⟨['0'], 0⟩
  | tries + 1, digits =>
    let place := exponent - digits
    match owned.pick? place with
    | some point =>
      let text := digitsOf point
      ⟨(text.reverse.dropWhile (· == '0')).reverse, place + ((text.length : Int) - 1)⟩
    | none => search owned exponent tries (digits + 1)

/-- The shortest decimal that rounds to a finite double other than zero, without its sign. -/
def shortest (x : Binary64) : Decimal :=
  let owned := Owned.of x
  search owned (leadingExponent owned.middle owned.den) 17 0

end Decimal

end Testbed
