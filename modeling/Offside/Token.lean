import Offside.Span
import Offside.Token.Kind

/-!
# Tokens

A token covers its literal together with the blanks and comments that belong to it, the trivia:
some before the literal and some behind it. A change of indentation covers nothing.
-/

namespace Offside

/-- One unit of the source text. The span runs from the first character of leading trivia to the
last one of trailing trivia. -/
structure Token where
  kind : TokenKind
  span : Span
  leading : Nat
  trailing : Nat
deriving DecidableEq, Repr

namespace Token

def content (token : Token) : Span :=
  ⟨token.span.start + token.leading, token.span.stop - token.trailing⟩

def extend (token : Token) (count : Nat) : Token :=
  { token with
    span := ⟨token.span.start, token.span.stop + count⟩
    trailing := token.trailing + count }

@[simp] theorem content_extend (token : Token) (count : Nat) :
    (token.extend count).content = token.content := by
  simp [content, extend, Nat.add_sub_add_right]

def isIndentation (token : Token) : Bool :=
  match token.kind with
  | .indentation _ => true
  | _ => false

def levelChange (token : Token) : Int :=
  match token.kind with
  | .indentation direction => direction.sign
  | _ => 0

def isKeyword (token : Token) (keyword : Keyword) : Bool := token.kind = .keyword keyword

def isSymbol (token : Token) (symbol : Symbol) : Bool := token.kind = .symbol symbol

def comparisons : List Symbol :=
  [.equals, .notEquals, .less, .lessEquals, .greater, .greaterEquals]

def isComparison (token : Token) : Bool := comparisons.any token.isSymbol

/-- The token as it is shown to a reader, under its whole span. -/
def render (token : Token) (isPrintable : Char → Bool := Text.isPrintable) : String :=
  token.span.render ++ " " ++ token.kind.render isPrintable

end Token

end Offside
