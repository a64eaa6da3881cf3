import Testbed.Json.Number

/-!
# Reading JSON texts

The strict grammar: no comments, no trailing data, no raw control characters in strings. Fuel is
twice the length of the text, since two calls take at least one character.
-/
namespace Testbed.Json

def isBlankChar (c : Char) : Bool := c == ' ' || c == '\n' || c == '\t' || c == '\r'

def skipBlanks (text : List Char) : List Char := text.dropWhile isBlankChar

def hexValue? (c : Char) : Option Nat :=
  if '0' ≤ c ∧ c ≤ '9' then some (c.toNat - 48)
  else if 'a' ≤ c ∧ c ≤ 'f' then some (c.toNat - 87)
  else if 'A' ≤ c ∧ c ≤ 'F' then some (c.toNat - 55)
  else none

/-- The UTF-16 unit of four hexadecimal digits. -/
def unit? (a b c d : Char) : Option Nat := do
  return (((← hexValue? a) * 16 + (← hexValue? b)) * 16 + (← hexValue? c)) * 16 + (← hexValue? d)

def isLeading (unit : Nat) : Bool := 0xd800 ≤ unit && unit < 0xdc00

def isTrailing (unit : Nat) : Bool := 0xdc00 ≤ unit && unit < 0xe000

/-- The character of a surrogate pair. -/
def pairChar (leading trailing : Nat) : Char :=
  Char.ofNat (0x10000 + (leading - 0xd800) * 0x400 + (trailing - 0xdc00))

/-- The character of a one-letter escape. -/
def escaped? : Char → Option Char
  | '"' => some '"'
  | '\\' => some '\\'
  | '/' => some '/'
  | 'b' => some '\x08'
  | 'f' => some '\x0c'
  | 'n' => some '\n'
  | 'r' => some '\r'
  | 't' => some '\t'
  | _ => none

/-- A string from after its opening quote: its characters, or `none` for them when a surrogate
stands alone, and the text after its closing quote. -/
def readString (fuel : Nat) (done : List Char) (sound : Bool) (text : List Char) :
    Option (Option String × List Char) :=
  match fuel, text with
  | 0, _ => none
  | _, [] => none
  | _ + 1, '"' :: rest => some (if sound then some (String.ofList done.reverse) else none, rest)
  | fuel + 1, '\\' :: 'u' :: a :: b :: c :: d :: rest => do
    let unit ← unit? a b c d
    if isLeading unit then
      match rest with
      | '\\' :: 'u' :: e :: f :: g :: h :: rest' =>
        let second ← unit? e f g h
        if isTrailing second then readString fuel (pairChar unit second :: done) sound rest'
        else readString fuel done false rest
      | rest => readString fuel done false rest
    else if isTrailing unit then readString fuel done false rest
    else readString fuel (Char.ofNat unit :: done) sound rest
  | fuel + 1, '\\' :: c :: rest => do
    let c ← escaped? c
    readString fuel (c :: done) sound rest
  | fuel + 1, c :: rest =>
    if c.toNat < 0x20 then none else readString fuel (c :: done) sound rest

/-- The level of nesting at which a container can no longer be read. -/
def tooDeep : Nat := 128

mutual

/-- A value from the front of a text; `level` counts the containers around it and itself. -/
def readValue (fuel level : Nat) (text : List Char) : Option (Json × List Char) :=
  match fuel, skipBlanks text with
  | 0, _ => none
  | _, [] => none
  | _ + 1, '"' :: rest => do
    let (content, rest) ← readString (rest.length + 1) [] true rest
    return (match content with | some s => .string s | none => .unreadable, rest)
  | fuel + 1, '[' :: rest => do
    let (elements, rest) ← match skipBlanks rest with
      | ']' :: rest => some ([], rest)
      | rest => readElements fuel level rest
    return (if level < tooDeep then .array elements else .unreadable, rest)
  | fuel + 1, '\x7b' :: rest => do
    let (members, rest) ← match skipBlanks rest with
      | '\x7d' :: rest => some (some [], rest)
      | rest => readMembers fuel level rest
    return (match members with
      | some members => if level < tooDeep then .object members else .unreadable
      | none => .unreadable, rest)
  | _ + 1, 'n' :: 'u' :: 'l' :: 'l' :: rest => some (.null, rest)
  | _ + 1, 't' :: 'r' :: 'u' :: 'e' :: rest => some (.bool true, rest)
  | _ + 1, 'f' :: 'a' :: 'l' :: 's' :: 'e' :: rest => some (.bool false, rest)
  | _ + 1, text => do
    let (literal, rest) ← Literal.read text
    return (literal.value, rest)

/-- The elements of an array up to its closing bracket; at least one. -/
def readElements (fuel level : Nat) (text : List Char) : Option (List Json × List Char) :=
  match fuel with
  | 0 => none
  | fuel + 1 => do
    let (element, rest) ← readValue fuel (level + 1) text
    match skipBlanks rest with
    | ',' :: rest =>
      let (elements, rest) ← readElements fuel level rest
      return (element :: elements, rest)
    | ']' :: rest => return ([element], rest)
    | _ => none

/-- The members of an object up to its closing brace; at least one. Without members when one of
the names cannot be read. -/
def readMembers (fuel level : Nat) (text : List Char) :
    Option (Option (List (String × Json)) × List Char) :=
  match fuel, skipBlanks text with
  | fuel + 1, '"' :: rest => do
    let (name, rest) ← readString (rest.length + 1) [] true rest
    match skipBlanks rest with
    | ':' :: rest =>
      let (value, rest) ← readValue fuel (level + 1) rest
      match skipBlanks rest with
      | ',' :: rest =>
        let (members, rest) ← readMembers fuel level rest
        return (name.bind (fun name => members.map ((name, value) :: ·)), rest)
      | '\x7d' :: rest => return (name.map (fun name => [(name, value)]), rest)
      | _ => none
    | _ => none
  | _, _ => none

end

/-- The value that a text spells, with nothing but blanks around it. -/
def read (text : List Char) : Option Json :=
  match readValue (2 * text.length + 2) 1 text with
  | some (value, rest) => if skipBlanks rest = [] then some value else none
  | none => none

/-- The value that a text spells. -/
def parse (text : String) : Option Json := read text.toList

end Testbed.Json
