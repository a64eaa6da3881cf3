import Testbed.Json.Basic
import Testbed.Number.Shortest

/-!
# Writing JSON texts

The compact form without blanks and the indented form with two blanks a level. Doubles are written
with the fewest digits that read back, always with a point or an exponent.
-/
namespace Testbed.Json

/-- Where positional notation ends: exponents of the leading digit that are written with a point
only. -/
def positional (exponent : Int) : Bool := -5 ≤ exponent && exponent < 16

/-- Digits with a point, and zeros where the point stands outside of them. -/
def writePositional (digits : List Char) (exponent : Int) : List Char :=
  if exponent < 0 then
    ['0', '.'] ++ List.replicate (exponent.natAbs - 1) '0' ++ digits
  else
    let whole := exponent.toNat + 1
    let fraction := digits.drop whole
    digits.take whole ++ List.replicate (whole - digits.length) '0' ++ ['.'] ++
      (if fraction.isEmpty then ['0'] else fraction)

def writeNat (n : Nat) : List Char := Nat.toDigits 10 n

def writeInt (i : Int) : List Char :=
  if i < 0 then '-' :: writeNat i.natAbs else writeNat i.natAbs

/-- One digit, a point when others follow, and a signed exponent. -/
def writeScientific (digits : List Char) (exponent : Int) : List Char :=
  let fraction := digits.drop 1
  digits.take 1 ++ (if fraction.isEmpty then [] else '.' :: fraction) ++ ['e'] ++
    (if exponent < 0 then '-' :: writeNat exponent.natAbs else '+' :: writeNat exponent.natAbs)

/-- The text of a double. What is not finite has no number and is written as null. -/
def writeFloat (x : Binary64) : List Char :=
  if !x.isFinite then ['n', 'u', 'l', 'l']
  else
    let magnitude :=
      if x.isZero then ['0', '.', '0']
      else
        let decimal := Decimal.shortest x
        if positional decimal.exponent then writePositional decimal.digits decimal.exponent
        else writeScientific decimal.digits decimal.exponent
    if x.negative then '-' :: magnitude else magnitude

/-- Two lower-case hexadecimal digits. -/
def hexPair (n : Nat) : List Char :=
  let digits := Nat.toDigits 16 n
  List.replicate (2 - digits.length) '0' ++ digits

/-- One character inside a string. -/
def writeChar (c : Char) : List Char :=
  match c with
  | '"' => ['\\', '"']
  | '\\' => ['\\', '\\']
  | '\n' => ['\\', 'n']
  | '\r' => ['\\', 'r']
  | '\t' => ['\\', 't']
  | '\x08' => ['\\', 'b']
  | '\x0c' => ['\\', 'f']
  | c => if c.toNat < 0x20 then ['\\', 'u', '0', '0'] ++ hexPair c.toNat else [c]

def writeString (s : String) : List Char := '"' :: s.toList.flatMap writeChar ++ ['"']

mutual

/-- The compact form. -/
def write : Json → List Char
  | .null => ['n', 'u', 'l', 'l']
  | .bool true => ['t', 'r', 'u', 'e']
  | .bool false => ['f', 'a', 'l', 's', 'e']
  | .integer i => writeInt i
  | .float x => writeFloat x
  | .string s => writeString s
  | .array elements => '[' :: writeElements elements ++ [']']
  | .object members => '\x7b' :: writeMembers members ++ ['\x7d']
  | .unreadable => ['n', 'u', 'l', 'l']

def writeElements : List Json → List Char
  | [] => []
  | [element] => write element
  | element :: rest => write element ++ ',' :: writeElements rest

def writeMembers : List (String × Json) → List Char
  | [] => []
  | [(name, value)] => writeString name ++ ':' :: write value
  | (name, value) :: rest => writeString name ++ ':' :: write value ++ ',' :: writeMembers rest

end

/-- A new line at a level of indentation. -/
def newLine (level : Nat) : List Char := '\n' :: List.replicate (2 * level) ' '

mutual

/-- The indented form, for a value at a level. -/
def writeIndented (level : Nat) : Json → List Char
  | .array [] => ['[', ']']
  | .array elements =>
    '[' :: writeIndentedElements (level + 1) elements ++ newLine level ++ [']']
  | .object [] => ['\x7b', '\x7d']
  | .object members =>
    '\x7b' :: writeIndentedMembers (level + 1) members ++ newLine level ++ ['\x7d']
  | value => write value

def writeIndentedElements (level : Nat) : List Json → List Char
  | [] => []
  | [element] => newLine level ++ writeIndented level element
  | element :: rest =>
    newLine level ++ writeIndented level element ++ ',' :: writeIndentedElements level rest

def writeIndentedMembers (level : Nat) : List (String × Json) → List Char
  | [] => []
  | [(name, value)] => newLine level ++ writeString name ++ [':', ' '] ++ writeIndented level value
  | (name, value) :: rest =>
    newLine level ++ writeString name ++ [':', ' '] ++ writeIndented level value ++
      ',' :: writeIndentedMembers level rest

end

/-- The compact text of a value. -/
def compact (value : Json) : String := String.ofList (write value)

/-- The indented text of a value. -/
def indented (value : Json) : String := String.ofList (writeIndented 0 value)

end Testbed.Json
