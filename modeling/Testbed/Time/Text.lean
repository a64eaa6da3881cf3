import Testbed.Json.Wire
import Testbed.Text.Blank
import Testbed.Time.Timestamp

/-!
# Timestamps as text

The profile RFC 3339 of ISO 8601. Timestamps are written in universal time with `Z` and as many
groups of three fraction digits as they need. Reading is more lenient: fields may have fewer
digits, blanks may stand between them, and any offset of less than a day is accepted.
-/
namespace Testbed.Timestamp

def digits (n : Nat) : List Char := Nat.toDigits 10 n

/-- A number with zeros in front, at least so many digits wide. -/
def padded (width n : Nat) : List Char :=
  List.replicate (width - (digits n).length) '0' ++ digits n

/-- Four digits; years outside of 0 to 9999 carry a sign. -/
def writeYear (year : Int) : List Char :=
  if 0 ≤ year ∧ year ≤ 9999 then padded 4 year.natAbs
  else (if year < 0 then '-' else '+') :: padded 4 year.natAbs

def writeFraction (nanosecond : Nat) : List Char :=
  if nanosecond = 0 then []
  else if nanosecond % 1000000 = 0 then '.' :: padded 3 (nanosecond / 1000000)
  else if nanosecond % 1000 = 0 then '.' :: padded 6 (nanosecond / 1000)
  else '.' :: padded 9 nanosecond

def write (t : Timestamp) : List Char :=
  writeYear t.date.year ++ '-' :: padded 2 t.date.month ++ '-' :: padded 2 t.date.day ++
    'T' :: padded 2 t.hour ++ ':' :: padded 2 t.minute ++ ':' :: padded 2 t.second ++
    writeFraction t.nanosecond ++ ['Z']

def text (t : Timestamp) : String := String.ofList (write t)

def skipBlanks (text : List Char) : List Char := text.dropWhile Text.isBlankChar

def valueOf (digits : List Char) : Nat :=
  digits.foldl (fun n c => n * 10 + (c.toNat - 48)) 0

/-- A number of at least one and at most `width` digits. -/
def number (width : Nat) (text : List Char) : Option (Nat × List Char) :=
  let run := (text.takeWhile Char.isDigit).take width
  if run.isEmpty then none else some (valueOf run, text.drop run.length)

/-- A field of one or two digits within bounds, after blanks. -/
def field (low high : Nat) (text : List Char) : Option (Nat × List Char) := do
  let (n, rest) ← number 2 (skipBlanks text)
  if low ≤ n ∧ n ≤ high then some (n, rest) else none

/-- A mark, after blanks. -/
def mark (c : Char) (text : List Char) : Option (List Char) :=
  match skipBlanks text with
  | d :: rest => if d = c then some rest else none
  | [] => none

/-- A year of up to four digits, or of any number of digits after a sign. -/
def readYear (text : List Char) : Option (Int × List Char) :=
  match skipBlanks text with
  | '-' :: rest => (number rest.length rest).map (fun (n, rest) => (-n, rest))
  | '+' :: rest => (number rest.length rest).map (fun (n, rest) => (n, rest))
  | rest => (number 4 rest).map (fun (n, rest) => (n, rest))

/-- An optional fraction in nanoseconds; digits after the ninth are passed over. -/
def readFraction : List Char → Option (Nat × List Char)
  | '.' :: rest =>
    let run := rest.takeWhile Char.isDigit
    let kept := run.take 9
    if run.isEmpty then none
    else some (valueOf kept * Nat.pow 10 (9 - kept.length), rest.drop run.length)
  | rest => some (0, rest)

/-- Two digits. -/
def twoDigits : List Char → Option (Nat × List Char)
  | a :: b :: rest => if a.isDigit ∧ b.isDigit then some (valueOf [a, b], rest) else none
  | _ => none

/-- An offset in minutes: `Z`, `UTC` or signed hours and minutes with colons or blanks between. -/
def readOffset (text : List Char) : Option (Int × List Char) :=
  match text with
  | u :: t :: c :: rest =>
    if [u, t, c].map Char.toUpper = ['U', 'T', 'C'] then some (0, rest) else readSigned text
  | _ => readSigned text
where
  readSigned : List Char → Option (Int × List Char)
    | 'Z' :: rest => some (0, rest)
    | 'z' :: rest => some (0, rest)
    | '+' :: rest => amount rest
    | '-' :: rest => (amount rest).map (fun (n, rest) => (-n, rest))
    | '−' :: rest => (amount rest).map (fun (n, rest) => (-n, rest))
    | _ => none
  amount (text : List Char) : Option (Int × List Char) := do
    let (hours, rest) ← twoDigits text
    let (minutes, rest) ← twoDigits (rest.dropWhile (fun c => c == ':' || Text.isBlankChar c))
    if minutes < 60 ∧ hours < 24 then some (hours * 60 + minutes, rest) else none

def read (text : List Char) : Option Timestamp := do
  let (year, rest) ← readYear text
  let (month, rest) ← field 1 12 (← mark '-' rest)
  let (day, rest) ← field 1 31 (← mark '-' rest)
  let rest ← match rest with
    | 't' :: rest => some rest
    | 'T' :: rest => some rest
    | ' ' :: rest => some rest
    | _ => none
  let (hour, rest) ← field 0 23 rest
  let (minute, rest) ← field 0 59 (← mark ':' rest)
  let (second, rest) ← field 0 60 (← mark ':' rest)
  let (nanosecond, rest) ← readFraction rest
  let (offset, rest) ← readOffset (skipBlanks rest)
  if skipBlanks rest ≠ [] then none
  let date : Date := ⟨year, month, day⟩
  if !date.isValid then none
  toUniversal ⟨date, hour, minute, second, nanosecond⟩ offset

instance : Wire Timestamp where
  encode t := .string t.text
  decode
    | .string s => read s.toList
    | _ => none

end Testbed.Timestamp
