import Offside.Span
import Offside.Text.Quoted

/-!
# Diagnostics

A diagnostic says what is wrong with a span of the source text. The fault is the cause; its name,
its message and the tip for a cure are texts made from it.
-/

namespace Offside

/-- How much a fault matters: an error leaves a literal unread, a warning leaves nothing out. -/
inductive Severity where
  | error
  | warning
deriving DecidableEq, Repr

def Severity.render : Severity → String
  | .error => "error"
  | .warning => "warning"

inductive Fault where
  | unrecognisedLexeme (lexeme : String)
  | invalidIdentifier (lexeme : String)
  | invalidNumber (lexeme : String)
  | integerOverflow (lexeme : String)
  | invalidEscape (escape : String)
  | invalidRune (payload : String)
  | unterminatedString
  | unterminatedRune
  | ambiguousIndentation (width unit : Nat)
deriving DecidableEq, Repr

namespace Fault

/-- Only ambiguous indentation is a warning, since its line is read all the same. -/
def severity : Fault → Severity
  | ambiguousIndentation _ _ => .warning
  | _ => .error

def name : Fault → String
  | unrecognisedLexeme _ => "UnrecognisedLexeme"
  | invalidIdentifier _ => "InvalidIdentifier"
  | invalidNumber _ => "InvalidNumber"
  | integerOverflow _ => "IntegerOverflow"
  | invalidEscape _ => "InvalidEscape"
  | invalidRune _ => "InvalidRune"
  | unterminatedString => "UnterminatedString"
  | unterminatedRune => "UnterminatedRune"
  | ambiguousIndentation _ _ => "AmbiguousIndentation"

def message (fault : Fault) (isPrintable : Char → Bool := Text.isPrintable) : String :=
  match fault with
  | unrecognisedLexeme lexeme => "unrecognised lexeme: " ++ Text.quoted lexeme isPrintable
  | invalidIdentifier lexeme => "invalid identifier: " ++ Text.quoted lexeme isPrintable
  | invalidNumber lexeme => "invalid number: " ++ Text.quoted lexeme isPrintable
  | integerOverflow lexeme => "integer literal out of range: " ++ Text.quoted lexeme isPrintable
  | invalidEscape escape => "invalid escape sequence: " ++ Text.quoted escape isPrintable
  | invalidRune payload => "invalid rune literal: " ++ Text.quoted payload isPrintable
  | unterminatedString => "unterminated string literal"
  | unterminatedRune => "unterminated rune literal"
  | ambiguousIndentation width unit =>
    "ambiguous indentation: width " ++ toString width ++ " is not a multiple of " ++ toString unit

/-- What the reader may do about the fault. The text at fault stands in it as it is. -/
def tip? : Fault → Option String
  | unrecognisedLexeme _ => none
  | invalidIdentifier lexeme =>
    some ("`" ++ lexeme ++ "` contains a character that cannot appear in an identifier")
  | invalidNumber lexeme =>
    some ("Invalid number: `" ++ lexeme
      ++ "`, only `i32`, `i64`, `u32` and `u64` suffixes are allowed")
  | integerOverflow lexeme =>
    some ("Invalid number: `" ++ lexeme ++ "`, is it above the integer limit?")
  | invalidEscape escape => some ("Unknown escape sequence `" ++ escape ++ "`")
  | invalidRune _ =>
    some "A rune literal holds exactly one character, use double quotes for strings"
  | unterminatedString => some "Missing closing `\"`"
  | unterminatedRune => some "Missing closing `'`"
  | ambiguousIndentation width unit =>
    some ("Indentation of width " ++ toString width ++ " is not a multiple of " ++ toString unit
      ++ ", the line keeps the previous level")

end Fault

structure Diagnostic where
  fault : Fault
  span : Span
deriving DecidableEq, Repr

namespace Diagnostic

def severity (diagnostic : Diagnostic) : Severity := diagnostic.fault.severity

def isError (diagnostic : Diagnostic) : Bool := diagnostic.severity = .error

def render (diagnostic : Diagnostic) (isPrintable : Char → Bool := Text.isPrintable) : String :=
  diagnostic.fault.message isPrintable ++ " at " ++ diagnostic.span.render

end Diagnostic

end Offside
