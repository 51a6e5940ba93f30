/-
# Responder.Text.Blank -- white space

The Unicode property White_Space.
-/
import Responder.Text.Ranges

namespace Responder.Text

set_option autoImplicit false

/-- The code points with the property White_Space. -/
def whiteSpace : Ranges := [
  (0x9, 0xD), (0x20, 0x20), (0x85, 0x85), (0xA0, 0xA0), (0x1680, 0x1680), (0x2000, 0x200A),
  (0x2028, 0x2029), (0x202F, 0x202F), (0x205F, 0x205F), (0x3000, 0x3000)]

/-- Whether a character is white space. -/
def isBlank (c : Char) : Bool := whiteSpace.contains c.toNat

end Responder.Text
