import Testbed.Json.Wire

/-!
# Secrets

A credential that is never shown. Display, diagnostics and the wire form are all the same row of
asterisks; the text is only available as `exposed`.
-/
namespace Testbed

structure Secret where
  exposed : String
  deriving DecidableEq

namespace Secret

/-- What stands for every secret. -/
def redacted : String := "******"

def display (_ : Secret) : String := redacted

def isEmpty (s : Secret) : Bool := s.exposed.isEmpty

/-- A secret is read from its text and written without it. -/
instance : Wire Secret where
  encode s := .string s.display
  decode j := (decode j).map Secret.mk

end Secret

end Testbed
