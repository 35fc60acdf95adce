import Offside.Unicode.Letter
import Offside.Unicode.Mark
import Offside.Unicode.Number
import Offside.Unicode.Other
import Offside.Unicode.Punctuation

/-!
# Identifiers

Identifiers may be written in any script. They start with a letter or a low line, and go on with
letters, digits, marks, format characters and connecting punctuation. Which characters these are is
laid down by Unicode, and each version of it adds some.
-/

namespace Offside

namespace Unicode

/-- The categories of characters that identifiers are made of, in one version of Unicode. -/
structure Classes where
  isLetter : Char → Bool
  isLetterNumber : Char → Bool
  isDecimalDigit : Char → Bool
  isNonspacingMark : Char → Bool
  isSpacingMark : Char → Bool
  isFormat : Char → Bool
  isConnector : Char → Bool

/-- The categories by the tables of this library. -/
def classes : Classes :=
  { isLetter, isLetterNumber, isDecimalDigit, isNonspacingMark, isSpacingMark, isFormat,
    isConnector }

end Unicode

namespace Text

variable (classes : Unicode.Classes) (c : Char)

def isIdentifierStart : Bool :=
  classes.isLetter c || classes.isLetterNumber c || c == '_'

def isIdentifierPart : Bool :=
  classes.isLetter c || classes.isLetterNumber c || classes.isDecimalDigit c
    || classes.isNonspacingMark c || classes.isSpacingMark c || classes.isFormat c
    || classes.isConnector c

end Text

end Offside
