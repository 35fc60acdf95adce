import Offside.Literal.Integer
import Offside.Text.Identifier

/-!
# Words

A word is a row of characters without blanks, quotes and symbols. Its first character decides what
it can be: a keyword, a boolean or an identifier, or else an integer.
-/

namespace Offside.Literal

def name (word : String) : TokenKind :=
  match Keyword.ofText? word with
  | some keyword => .keyword keyword
  | none =>
    if word = "true" then .boolean true
    else if word = "false" then .boolean false
    else .ofName word

/-- Reads a word. The categories decide which characters an identifier may hold. -/
def word (lexeme : String) (classes : Unicode.Classes := Unicode.classes) :
    Except Fault TokenKind :=
  match lexeme.toList with
  | [] => .error (.unrecognisedLexeme lexeme)
  | first :: rest =>
    if Text.isIdentifierStart classes first then
      if rest.all (Text.isIdentifierPart classes) then .ok (name lexeme)
      else .error (.invalidIdentifier lexeme)
    else if first.isDigit then number lexeme
    else .error (.unrecognisedLexeme lexeme)

end Offside.Literal
