import Offside.Diagnostic
import Offside.Token

/-!
# Events

A pass over a source text keeps a log of what it does, in order.
-/

namespace Offside

open Indentation (Direction)

inductive LogLevel where
  | debug
  | trace
deriving DecidableEq, Repr

def LogLevel.render : LogLevel → String
  | .debug => "DEBUG"
  | .trace => "TRACE"

inductive Event where
  | started (characters : Nat)
  /-- A literal has become a token. Its trailing trivia is still to come. -/
  | token (made : Token)
  | indentation (direction : Direction) (position : Nat)
  | diagnostic (found : Diagnostic)
  /-- Trivia at the end of the text belongs to no token. -/
  | unattributed (pending : Nat)
  | finished (tokens diagnostics : Nat)
deriving DecidableEq, Repr

namespace Event

/-- The level at which the event is shown: what concerns the pass as a whole and what is wrong count
for more than a single token. -/
def level : Event → LogLevel
  | started _ => .debug
  | token _ => .trace
  | indentation _ _ => .trace
  | diagnostic _ => .debug
  | unattributed _ => .trace
  | finished _ _ => .debug

def message : Event → String
  | started characters => "lexing code_points=" ++ toString characters
  | token made => "token token=" ++ made.render
  | indentation direction position =>
    "indentation direction=" ++ direction.render ++ " at=" ++ toString position
  | diagnostic found => "lex diagnostic error=" ++ found.render
  | unattributed pending => "unattributed trailing trivia pending=" ++ toString pending
  | finished tokens diagnostics =>
    "lexing complete tokens=" ++ toString tokens ++ " errors=" ++ toString diagnostics

def render (event : Event) : String := event.level.render ++ " " ++ event.message

end Event

end Offside
