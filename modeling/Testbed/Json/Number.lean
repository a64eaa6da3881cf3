import Testbed.Json.Basic

/-!
# Number literals

A literal is read as a 64-bit significand and a power of ten. Digits are taken into the
significand from the left while it fits into 64 bits; whole digits after that count as powers of
ten, fraction digits are dropped. Literals without point and exponent that fit a 64-bit machine
integer are integers, all others are doubles.
-/
namespace Testbed.Json

/-- A number as it is spelled. -/
structure Literal where
  negative : Bool
  whole : List Char
  fraction : Option (List Char)
  /-- Whether the exponent is negative, and its digits. -/
  exponent : Option (Bool × List Char)

def digitValue (c : Char) : Nat := c.toNat - 48

/-- Take digits into a number as long as it stays within a bound; the digits that are left. -/
def accumulate (bound : Nat) : List Char → Nat → Nat × List Char
  | [], n => (n, [])
  | c :: rest, n =>
    if n * 10 + digitValue c ≤ bound then accumulate bound rest (n * 10 + digitValue c)
    else (n, c :: rest)

def maxSignificand : Nat := 0xffffffffffffffff

def maxExponent : Nat := 0x7fffffff

/-- The double of a significand times a power of ten, by one multiplication or by divisions that
each take off at most 308 powers; none when it is too large. -/
def scaled (x : Binary64) (exponent : Int) : Option Binary64 :=
  if exponent.natAbs ≤ 308 then
    if 0 ≤ exponent then
      let y := x.mul (.ofNat (Nat.pow 10 exponent.natAbs))
      if y.isFinite then some y else none
    else some (x.div (.ofNat (Nat.pow 10 exponent.natAbs)))
  else if x.isZero then some x
  else if 0 ≤ exponent then none
  else scaled (x.div (.ofNat (Nat.pow 10 308))) (exponent + 308)
termination_by exponent.natAbs
decreasing_by omega

/-- The double of a signed significand and exponent. -/
def assemble (negative : Bool) (significand : Nat) (exponent : Int) : Json :=
  match scaled (.ofNat significand) exponent with
  | some x => .float (if negative then x.neg else x)
  | none => .unreadable

/-- What a spelled number is worth. -/
def Literal.value (literal : Literal) : Json :=
  let (whole, left) := accumulate maxSignificand literal.whole 0
  match literal.fraction, literal.exponent with
  | none, none =>
    if left ≠ [] then assemble literal.negative whole left.length
    else if !literal.negative then .integer whole
    else if whole = 0 ∨ 0x8000000000000000 < whole then .float (Binary64.ofNat whole).neg
    else .integer (-whole)
  | fraction, exponent =>
    let digits := fraction.getD []
    let (significand, dropped) := accumulate maxSignificand digits whole
    let start : Int := left.length - (digits.length - dropped.length)
    match exponent with
    | none => assemble literal.negative significand start
    | some (downward, exponentDigits) =>
      let (power, tooMany) := accumulate maxExponent exponentDigits 0
      if tooMany ≠ [] then
        if significand ≠ 0 ∧ !downward then .unreadable
        else .float (if literal.negative then Binary64.zero.neg else Binary64.zero)
      else assemble literal.negative significand (if downward then start - power else start + power)

/-- The optional exponent of a literal. -/
def spellExponent : List Char → Option (Option (Bool × List Char) × List Char)
  | mark :: rest =>
    if mark = 'e' ∨ mark = 'E' then
      let (downward, rest) := match rest with
        | '+' :: rest => (false, rest)
        | '-' :: rest => (true, rest)
        | rest => (false, rest)
      let digits := rest.takeWhile Char.isDigit
      if digits.isEmpty then none else some (some (downward, digits), rest.dropWhile Char.isDigit)
    else some (none, mark :: rest)
  | [] => some (none, [])

/-- The optional fraction of a literal. -/
def spellFraction : List Char → Option (Option (List Char) × List Char)
  | '.' :: rest =>
    let digits := rest.takeWhile Char.isDigit
    if digits.isEmpty then none else some (some digits, rest.dropWhile Char.isDigit)
  | rest => some (none, rest)

/-- The whole part of a literal: one zero, or digits that do not begin with a zero. -/
def spellWhole : List Char → Option (List Char × List Char)
  | '0' :: rest => if (rest.head?.map Char.isDigit).getD false then none else some (['0'], rest)
  | rest =>
    let digits := rest.takeWhile Char.isDigit
    if digits.isEmpty then none else some (digits, rest.dropWhile Char.isDigit)

/-- Read a literal from the front of a text. -/
def Literal.read (text : List Char) : Option (Literal × List Char) := do
  let (negative, rest) := match text with
    | '-' :: rest => (true, rest)
    | rest => (false, rest)
  let (whole, rest) ← spellWhole rest
  let (fraction, rest) ← spellFraction rest
  let (exponent, rest) ← spellExponent rest
  return (⟨negative, whole, fraction, exponent⟩, rest)

end Testbed.Json
