import Offside.Text.Printable
import Offside.Text.Quote

/-!
# Quoted texts

The quoted form of a text stands on one line and shows every character in it: what is not printable
is written as an escape, and so are the backslash and the mark that encloses the text. Which
characters are printable changes with each version of Unicode.
-/

namespace Offside.Text

def codePointEscape (c : Char) : List Char :=
  ['\\', 'u', '{'] ++ Nat.toDigits 16 c.toNat ++ ['}']

namespace Quote

variable (quote : Quote) (isPrintable : Char → Bool)

def encodeChar (c : Char) : List Char :=
  if c = '\x00' then ['\\', '0']
  else if c = '\t' then ['\\', 't']
  else if c = '\r' then ['\\', 'r']
  else if c = '\n' then ['\\', 'n']
  else if c = '\\' ∨ c = quote.mark then ['\\', c]
  else if isPrintable c then [c]
  else codePointEscape c

/-- What is written between the marks of `quote` for the text. -/
def encode (text : List Char) : List Char := text.flatMap (quote.encodeChar isPrintable)

def enclose (text : List Char) : List Char :=
  quote.mark :: (quote.encode isPrintable text ++ [quote.mark])

end Quote

def quoted (text : String) (isPrintable : Char → Bool := Text.isPrintable) : String :=
  String.ofList (Quote.double.enclose isPrintable text.toList)

def quotedRune (c : Char) (isPrintable : Char → Bool := Text.isPrintable) : String :=
  String.ofList (Quote.single.enclose isPrintable [c])

end Offside.Text
