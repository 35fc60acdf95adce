import Offside.Options
import Offside.Scan.State

/-!
# One step of a pass

A step reads one literal mark, one blank, one line break or one character of a word, of a comment or
of a quoted text. Two steps read nothing: the one that measures the indentation of a line, and the
one that leaves a comment at the end of its line.
-/

namespace Offside.Scan

open Text (Quote)

def openQuote (scan : Scan) (quote : Quote) : Scan :=
  (scan.clearOwner.enter (.quoted quote scan.position "")).advance 1

def readSymbol (scan : Scan) (symbol : Symbol) : Scan :=
  (scan.clearOwner.advance symbol.width).addToken (.symbol symbol) scan.position

def readWord (scan : Scan) (c : Char) : Scan :=
  match scan.mode with
  | .word start text => (scan.enter (.word start (text.push c))).advance 1
  | _ => (scan.clearOwner.enter (.word scan.position c.toString)).advance 1

/-- Reads a line break of the given length. It is the last trivia that a token before it owns. -/
def readLineBreak (scan : Scan) (length : Nat) : Scan :=
  ((scan.skip length).clearOwner).enter .lineStart

def stepCode (scan : Scan) (c : Char) : Scan :=
  if Text.lineBreakLength scan.rest ≠ 0 then
    scan.endWord.readLineBreak (Text.lineBreakLength scan.rest)
  else if Text.startsBlank scan.rest then scan.endWord.skip 1
  else if c = '#' then (scan.endWord.enter .comment).skip 1
  else if c = Quote.double.mark then scan.endWord.openQuote .double
  else if c = Quote.single.mark then scan.endWord.openQuote .single
  else
    match Symbol.longest? scan.rest with
    | some symbol => scan.endWord.readSymbol symbol
    | none => scan.readWord c

def stepComment (scan : Scan) : Scan :=
  if Text.lineBreakLength scan.rest ≠ 0 then scan.enter .between else scan.skip 1

/-- A step in a quoted literal. A backslash takes the next character with it, whatever it is. -/
def stepQuoted (scan : Scan) (quote : Quote) (start : Nat) (body : String) (c : Char) : Scan :=
  if c = '\\' then
    let pair := scan.rest.take 2
    (scan.enter (.quoted quote start (pair.foldl String.push body))).advance pair.length
  else if c = quote.mark then
    (scan.advance 1).settle (Literal.quoted quote body) start
  else
    (scan.enter (.quoted quote start (body.push c))).advance 1

/-- Measures the indentation of the line that starts here. The changes of indentation lie before the
trivia that leads to the line. -/
def measureLine (scan : Scan) (options : Options) : Scan :=
  let (reading, gauge) := scan.gauge.measure scan.rest
  let measured := { scan with mode := .between, gauge }
  match reading with
  | .blank => measured
  | .ambiguous width unit run =>
    if options.warnAmbiguous then
      measured.addDiagnostic (.ambiguousIndentation width unit) ⟨scan.position, scan.position + run⟩
    else measured
  | .level previous current =>
    measured.addIndentation previous current (scan.position - scan.staging.pending)

def step (options : Options) (scan : Scan) : Scan :=
  match scan.rest with
  | [] => scan
  | c :: _ =>
    match scan.mode with
    | .lineStart => scan.measureLine options
    | .comment => scan.stepComment
    | .quoted quote start body => scan.stepQuoted quote start body c
    | .between => scan.stepCode c
    | .word _ _ => scan.stepCode c

end Offside.Scan
