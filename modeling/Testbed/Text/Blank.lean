/-!
# Blank characters

The characters with the property `White_Space`, and texts made of nothing else.
-/
namespace Testbed.Text

/-- Ranges of white space, both ends included, ascending. -/
def blankRanges : List (Nat × Nat) := [
  (0x9, 0xd), (0x20, 0x20), (0x85, 0x85), (0xa0, 0xa0), (0x1680, 0x1680), (0x2000, 0x200a),
  (0x2028, 0x2029), (0x202f, 0x202f), (0x205f, 0x205f), (0x3000, 0x3000)]

def isBlankChar (c : Char) : Bool :=
  blankRanges.any (fun range => range.1 ≤ c.toNat && c.toNat ≤ range.2)

/-- Whether a text is empty or white space throughout. -/
def isBlank (text : String) : Bool := text.toList.all isBlankChar

end Testbed.Text
