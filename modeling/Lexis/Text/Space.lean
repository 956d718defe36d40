import Lexis.Text.Ranges

/-!
# White space

The white space of Unicode, with the four ASCII separators.
-/

namespace Lexis.Space

/-- The ranges of white space. -/
def ranges : List (Nat × Nat) := [
  (0x09, 0x0D), (0x1C, 0x20), (0x85, 0x85), (0xA0, 0xA0), (0x1680, 0x1680), (0x2000, 0x200A),
  (0x2028, 0x2029), (0x202F, 0x202F), (0x205F, 0x205F), (0x3000, 0x3000)]

/-- The character is white space. -/
def isSpace (c : Char) : Bool := Ranges.contains ranges c.toNat

/-- The text without the white space around it. -/
def trim (t : List Char) : List Char := ((t.dropWhile isSpace).reverse.dropWhile isSpace).reverse

end Lexis.Space
