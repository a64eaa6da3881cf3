import Testbed.Digest.Sha256
import Testbed.Json.Writer
import Testbed.Space.Wire

/-!
# Canonical texts and digests

The canonical text of a space is its compact JSON text: the fields are in a fixed order and maps
ascend by name, so equal spaces have equal texts and equal digests.
-/
namespace Testbed

/-- The compact text of a value's wire form. -/
def canonicalText {α : Type} [Wire α] (value : α) : String := (encode value).compact

/-- The SHA-256 of the canonical text. -/
def digest {α : Type} [Wire α] (value : α) : String := Sha256.hexDigest (canonicalText value)

end Testbed
