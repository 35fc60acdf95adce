import Offside.Unicode.Mark
import Offside.Unicode.Other
import Offside.Unicode.Separator

/-!
# Characters that show themselves

A character is printable when it can stand for itself in a quoted text: it leaves ink or a plain
space, and it does so without leaning on the character before it. Standard libraries differ about a
few characters, and each version of Unicode adds some. What quotes a text therefore takes the choice
as a parameter, for which the one made here stands by default.
-/

namespace Offside.Text

open Unicode

/-- Letters of category Lo that have no glyph: the Hangul fillers. -/
def isFiller (c : Char) : Bool :=
  covers [(0x115F, 0x1160), (0x3164, 0x3164), (0xFFA0, 0xFFA0)] c

/-- Spacing marks that nevertheless belong to the character before them: the vowel signs and length
marks that compose with it, and the stems and flags of musical notes. -/
def isExtendingMark (c : Char) : Bool :=
  covers
    [(0x9BE, 0x9BE), (0x9D7, 0x9D7), (0xB3E, 0xB3E), (0xB57, 0xB57), (0xBBE, 0xBBE), (0xBD7, 0xBD7),
     (0xCC0, 0xCC0), (0xCC2, 0xCC2), (0xCC7, 0xCC8), (0xCCA, 0xCCB), (0xCD5, 0xCD6), (0xD3E, 0xD3E),
     (0xD57, 0xD57), (0xDCF, 0xDCF), (0xDDF, 0xDDF), (0x1715, 0x1715), (0x1734, 0x1734),
     (0x1B35, 0x1B35), (0x1B3B, 0x1B3B), (0x1B3D, 0x1B3D), (0x1B43, 0x1B44), (0x1BAA, 0x1BAA),
     (0x1BF2, 0x1BF3), (0x302E, 0x302F), (0xA953, 0xA953), (0xA9C0, 0xA9C0), (0x111C0, 0x111C0),
     (0x11235, 0x11235), (0x1133E, 0x1133E), (0x1134D, 0x1134D), (0x11357, 0x11357),
     (0x114B0, 0x114B0), (0x114BD, 0x114BD), (0x115AF, 0x115AF), (0x116B6, 0x116B6),
     (0x11930, 0x11930), (0x1193D, 0x1193D), (0x16FF0, 0x16FF1), (0x1D165, 0x1D166),
     (0x1D16D, 0x1D172)] c

def isUnseen (c : Char) : Bool :=
  isControl c || isFormat c || isPrivateUse c || isUnassigned c

def isOddSpace (c : Char) : Bool :=
  isLineSeparator c || (isSpaceSeparator c && c != ' ')

def isCombining (c : Char) : Bool :=
  isNonspacingMark c || isEnclosingMark c || isExtendingMark c

/-- The character can stand for itself in a quoted text. -/
def isPrintable (c : Char) : Bool :=
  !(isUnseen c || isOddSpace c || isCombining c || isFiller c)

end Offside.Text
