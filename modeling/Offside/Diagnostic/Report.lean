import Offside.Diagnostic
import Offside.Text.Line

/-!
# Reports

A report draws a diagnostic under the line in which it starts:

    error: InvalidNumber (Invalid number: …)
    -> main.src
      |
    7 | x = 12ab
      | ----^

The line is shown without the blanks at its start and the white space at its end, and the caret
stands below the character at which the span starts. A diagnostic past the end of the text has no
line, and its message stands in the place of one. A caret too far to the right cannot be drawn.
-/

namespace Offside.Diagnostic

def header (diagnostic : Diagnostic) : String :=
  diagnostic.severity.render ++ ": " ++ diagnostic.fault.name
    ++ (match diagnostic.fault.tip? with
      | some tip => " (" ++ tip ++ ")"
      | none => "")

/-- The bar that stands to the left of a row, below the number of the line. -/
def gutter (number : Nat) : String :=
  String.ofList (List.replicate ((toString number).length + 1) ' ') ++ "|"

def sourceRow (place : Text.Place) : String :=
  toString place.number ++ " | "
    ++ String.ofList (Text.trimRight (place.line.drop (Text.indentLength place.line)))

/-- The caret. A place within the blanks that are not shown is drawn at their end. -/
def caretRow (place : Text.Place) : String :=
  gutter place.number ++ " "
    ++ String.ofList (List.replicate (place.column - Text.indentLength place.line) '-') ++ "^"

def report (diagnostic : Diagnostic) (source file : String)
    (isPrintable : Char → Bool := Text.isPrintable) : String :=
  diagnostic.header ++ "\n-> " ++ file ++ "\n"
    ++ (match Text.place? source.toList diagnostic.span.start with
      | some place =>
        gutter place.number ++ "\n" ++ sourceRow place ++ "\n" ++ caretRow place
      | none => "   at end of input (" ++ diagnostic.render isPrintable ++ ")")

def caretWidth (place : Text.Place) : Nat := place.column - Text.indentLength place.line + 1

/-- The longest row of dashes with a caret that can be drawn. -/
def maxCaretWidth : Nat := 65535

def fits (diagnostic : Diagnostic) (source : String) : Bool :=
  (Text.place? source.toList diagnostic.span.start).all (caretWidth · ≤ maxCaretWidth)

end Offside.Diagnostic
