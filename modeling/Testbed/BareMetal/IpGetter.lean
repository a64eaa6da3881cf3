import Testbed.BareMetal.Config
import Testbed.BareMetal.Registry
import Testbed.Platform.Call
import Testbed.Text.Digit

/-!
# Address getters

An address getter finds the address that a freshly booted machine picked up. The one kind there is
reads a file and takes the first dotted address in it: digits, and then at least once a dot with
digits after it, as far as that goes.
-/
namespace Testbed.BareMetal

open Text (isDecimalDigit)

/-- The longest beginning of a text that consists of digits and of dots that a digit follows. -/
def dotted : List Char → List Char
  | [] => []
  | c :: rest =>
    if isDecimalDigit c ∨ c = '.' ∧ rest.head?.any isDecimalDigit then c :: dotted rest else []

/-- The first dotted address in a text. -/
def findAddress : List Char → Option (List Char)
  | [] => none
  | c :: rest =>
    if isDecimalDigit c ∧ '.' ∈ dotted (c :: rest) then some (dotted (c :: rest))
    else findAddress rest

/-- An address getter, by the file that it reads. -/
structure IpGetter where
  file : String
  deriving DecidableEq

namespace IpGetter

def typeName : String := "file_single"

def ofConfig (config : IpGetterConfig) : Except BareMetalError IpGetter :=
  match config.settings.file? with
  | some file => .ok { file }
  | none => .error (.invalidSettings .ipGetter typeName)

/-- The address in the content of the file. -/
def address (g : IpGetter) (content : String) : Except BareMetalError String :=
  match findAddress content.toList with
  | some address => .ok (String.ofList address)
  | none => .error (.ipNotFound g.file)

/-- Read the address. -/
def getIp {σ : Type} (g : IpGetter) : Caller σ (Except BareMetalError String) := do
  match ← Program.request (Call.readFile g.file) with
  | .ok content => return g.address content
  | .error cause => return .error (.io g.file cause)

end IpGetter

/-- The types of address getters. -/
def ipGetters : Registry IpGetterConfig IpGetter :=
  { kind := .ipGetter, factories := .ofList [(IpGetter.typeName, IpGetter.ofConfig)] }

end Testbed.BareMetal
