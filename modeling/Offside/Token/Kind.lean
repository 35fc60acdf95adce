import Offside.Indentation.Direction
import Offside.IntegerType
import Offside.Keyword
import Offside.Symbol
import Offside.Text.Quoted

/-!
# Kinds of tokens

The kind of a token says what was read, without where: a word, a number, a quoted text, a symbol,
or a change of indentation.
-/

namespace Offside

open Indentation (Direction)

/-- What a token stands for. The value of an integer keeps the lowest 64 bits of its number, so that
a large number of an unsigned type is negative in it. -/
inductive TokenKind where
  | keyword (word : Keyword)
  | identifier (name : String) (contextual : Option ContextualKeyword)
  | boolean (value : Bool)
  | integer (value : Int64) (type : IntegerType) (suffixed : Bool)
  | string (text : String)
  | rune (c : Char)
  | symbol (mark : Symbol)
  | indentation (direction : Direction)
deriving DecidableEq, Repr

namespace TokenKind

def ofName (name : String) : TokenKind := identifier name (ContextualKeyword.ofText? name)

def asUnsigned? : TokenKind → Option Nat
  | integer value _ _ => some value.toUInt64.toNat
  | _ => none

/-- The digits of an integer: a value of the unsigned type with 64 bits that carries its suffix is
shown without a sign. -/
def integerDigits (value : Int64) (type : IntegerType) (suffixed : Bool) : String :=
  if type = .uint64 ∧ suffixed = true then toString value.toUInt64.toNat
  else toString value.toInt

/-- The literal as it may be written in a source text. A change of indentation has no text. -/
def written (kind : TokenKind) (isPrintable : Char → Bool := Text.isPrintable) : String :=
  match kind with
  | keyword word => word.text
  | identifier name _ => name
  | boolean value => if value then "true" else "false"
  | integer value type suffixed =>
    integerDigits value type suffixed ++ (if suffixed then type.suffix else "")
  | string text => Text.quoted text isPrintable
  | rune c => Text.quotedRune c isPrintable
  | symbol mark => mark.text
  | indentation _ => ""

def render (kind : TokenKind) (isPrintable : Char → Bool := Text.isPrintable) : String :=
  let literal := kind.written isPrintable
  match kind with
  | keyword _ => "Keyword(" ++ literal ++ ")"
  | identifier _ none => "Identifier(" ++ literal ++ ")"
  | identifier _ (some _) => "Identifier(" ++ literal ++ ", contextual)"
  | boolean _ => "Boolean(" ++ literal ++ ")"
  | integer _ _ _ => "Integer(" ++ literal ++ ")"
  | string _ => "String(" ++ literal ++ ")"
  | rune _ => "Rune(" ++ literal ++ ")"
  | symbol _ => "Symbol(" ++ literal ++ ")"
  | indentation direction => direction.render

theorem render_indentation (direction : Direction) (isPrintable : Char → Bool) :
    (indentation direction).render isPrintable = direction.render := rfl

end TokenKind

end Offside
