import GoXref.Unicode.Ranges

/-!
# `GoXref.Unicode.Blank`: white space

The property White_Space: the ASCII blanks, the separators of lines and
paragraphs, and the spaces of every width.
-/

set_option autoImplicit false
set_option maxRecDepth 8000

namespace GoXref.Unicode

/-- The white space of Unicode 17.0. -/
def blankRanges : Ranges :=
  [(0x9, 0xD), (0x20, 0x20), (0x85, 0x85), (0xA0, 0xA0), (0x1680, 0x1680), (0x2000, 0x200A),
   (0x2028, 0x2029), (0x202F, 0x202F), (0x205F, 0x205F), (0x3000, 0x3000)]

example : blankRanges.isAscending := by decide

/-- Whether the character is white space. -/
def isBlank (c : Char) : Bool := blankRanges.contains c.toNat

end GoXref.Unicode
