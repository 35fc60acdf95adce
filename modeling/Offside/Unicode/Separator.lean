import Offside.Unicode.Ranges

/-!
# Separators and white space

The categories Zs, Zl and Zp of Unicode 17, and the property White_Space, which adds the control
characters that move to another column or line.
-/

namespace Offside.Unicode

/-- The code points of category Zs. -/
def spaceSeparatorRanges : List (Nat × Nat) :=
  [(0x20, 0x20), (0xA0, 0xA0), (0x1680, 0x1680), (0x2000, 0x200A), (0x202F, 0x202F),
   (0x205F, 0x205F), (0x3000, 0x3000)]

def isSpaceSeparator (c : Char) : Bool := covers spaceSeparatorRanges c

/-- The line separator and the paragraph separator, all there is of categories Zl and Zp. -/
def isLineSeparator (c : Char) : Bool := covers [(0x2028, 0x2029)] c

/-- The code points with the property White_Space. -/
def whitespaceRanges : List (Nat × Nat) :=
  [(0x9, 0xD), (0x20, 0x20), (0x85, 0x85), (0xA0, 0xA0), (0x1680, 0x1680), (0x2000, 0x200A),
   (0x2028, 0x2029), (0x202F, 0x202F), (0x205F, 0x205F), (0x3000, 0x3000)]

def isWhitespace (c : Char) : Bool := covers whitespaceRanges c

end Offside.Unicode
