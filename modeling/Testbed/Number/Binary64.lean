/-!
# Double-precision numbers

A double is its 64-bit pattern, so equality tells the two zeros apart and no operation is hidden
from a proof. Arithmetic goes through exact quotients of natural numbers: an operation forms the
exact result and rounds it once, to the nearest double, a half to the even neighbour.
-/
namespace Testbed

/-- A double-precision number, by its bit pattern. -/
structure Binary64 where
  bits : UInt64
  deriving DecidableEq

namespace Binary64

def negative (x : Binary64) : Bool := x.bits.toNat / Nat.pow 2 63 == 1

/-- The exponent field. -/
def biased (x : Binary64) : Nat := x.bits.toNat / Nat.pow 2 52 % Nat.pow 2 11

/-- The fraction field. -/
def fraction (x : Binary64) : Nat := x.bits.toNat % Nat.pow 2 52

def isFinite (x : Binary64) : Bool := x.biased < 2047

/-- A finite double is `significand * 2 ^ (scale - 1075)`, up to its sign. -/
def significand (x : Binary64) : Nat :=
  if x.biased = 0 then x.fraction else Nat.pow 2 52 + x.fraction

def scale (x : Binary64) : Nat := max x.biased 1

def isZero (x : Binary64) : Bool := x.bits.toNat % Nat.pow 2 63 == 0

/-- Numerator and denominator of the magnitude of a finite double. -/
def ratio (x : Binary64) : Nat × Nat :=
  (x.significand * Nat.pow 2 (x.scale - 1075), Nat.pow 2 (1075 - x.scale))

/-- The quotient rounded to the nearest number, a half to the even one. -/
def roundDiv (num den : Nat) : Nat :=
  let quotient := num / den
  let rest := num % den
  if 2 * rest < den then quotient
  else if den < 2 * rest then quotient + 1
  else quotient + quotient % 2

/-- The power of two just below or at a positive quotient, moved up by 1074. -/
def leadingPower (num den : Nat) : Nat :=
  let up := num.log2 + 1074
  let guess := up - den.log2
  if up < den.log2 then 0
  else if den * Nat.pow 2 guess ≤ num * Nat.pow 2 1074 then guess else guess - 1

/-- The bits of the double nearest to a quotient, without a sign; too large a quotient gives those
of infinity. -/
def magnitudeBits (num den : Nat) : Nat :=
  if num = 0 then 0
  else
    let place := leadingPower num den - 52
    let rounded := roundDiv (num * Nat.pow 2 (1074 - place)) (den * Nat.pow 2 (place - 1074))
    min (place * Nat.pow 2 52 + rounded) (2047 * Nat.pow 2 52)

/-- The double nearest to a quotient, with a sign. -/
def ofRatio (negative : Bool) (num den : Nat) : Binary64 :=
  ⟨((if negative then Nat.pow 2 63 else 0) + magnitudeBits num den).toUInt64⟩

def ofNat (n : Nat) : Binary64 := ofRatio false n 1

def ofInt (i : Int) : Binary64 := ofRatio (i < 0) i.natAbs 1

def zero : Binary64 := ⟨0⟩

instance : Inhabited Binary64 := ⟨zero⟩

def neg (x : Binary64) : Binary64 := ⟨x.bits ^^^ 0x8000000000000000⟩

/-- The rounded sum of two finite doubles. It is the negative zero only if both of them are. -/
def add (x y : Binary64) : Binary64 :=
  let numerator (z : Binary64) : Int := if z.negative then -z.ratio.1 else z.ratio.1
  let sum := numerator x * y.ratio.2 + numerator y * x.ratio.2
  ofRatio (if sum = 0 then x.negative && y.negative else sum < 0) sum.natAbs
    (x.ratio.2 * y.ratio.2)

/-- The rounded product of two finite doubles. -/
def mul (x y : Binary64) : Binary64 :=
  ofRatio (x.negative != y.negative) (x.ratio.1 * y.ratio.1) (x.ratio.2 * y.ratio.2)

/-- The rounded quotient of two finite doubles. -/
def div (x y : Binary64) : Binary64 :=
  ofRatio (x.negative != y.negative) (x.ratio.1 * y.ratio.2) (x.ratio.2 * y.ratio.1)

end Binary64

end Testbed
