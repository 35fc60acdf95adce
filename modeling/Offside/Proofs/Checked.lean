import Offside.Tokenize

/-!
# The pass with its bounds checked

The pass once more, on the source text itself and the position in it. It has no result where it
would read a character behind the end of the text, move past the end, go below zero in a difference,
or divide by zero. So whatever it has a result for is in bounds.
-/

namespace Offside

open Indentation (Gauge Reading)
open Text (Quote)

def difference? (first second : Nat) : Option Nat :=
  if second ≤ first then some (first - second) else none

def quotient? (number divisor : Nat) : Option Nat :=
  if divisor = 0 then none else some (number / divisor)

def remainder? (number divisor : Nat) : Option Nat :=
  if divisor = 0 then none else some (number % divisor)

namespace Indentation.Gauge

def enter? (gauge : Gauge) (width run : Nat) : Option (Reading × Gauge) :=
  if width = 0 then some (.level gauge.level 0, { gauge with level := 0 })
  else if width % 2 ≠ 0 then
    some (.ambiguous width (if gauge.level = 0 then 2 else gauge.unit) run, gauge)
  else if gauge.level = 0 then some (.level 0 1, ⟨1, width⟩)
  else do
    let remainder ← remainder? width gauge.unit
    if remainder ≠ 0 then
      return (.ambiguous width gauge.unit run, gauge)
    else
      let level ← quotient? width gauge.unit
      return (.level gauge.level level, { gauge with level })

def measure? (gauge : Gauge) (line : List Char) : Option (Reading × Gauge) :=
  let blanks := Text.leadingBlanks line
  if Text.atLineEnd (line.drop blanks.length) then some (.blank, gauge)
  else gauge.enter? (width blanks) blanks.length

end Indentation.Gauge

namespace Scan

section Source

variable (source : List Char)

def line? (scan : Scan) : Option (List Char) :=
  if scan.position ≤ source.length then some (source.drop scan.position) else none

def advance? (scan : Scan) (count : Nat) : Option Scan :=
  if scan.position + count ≤ source.length then some (scan.advance count) else none

def skip? (scan : Scan) (count : Nat) : Option Scan := do
  let moved ← scan.advance? source count
  return { moved with staging := moved.staging.addTrivia count }

def addToken? (scan : Scan) (kind : TokenKind) (start : Nat) : Option Scan := do
  let (leading, staging) := scan.staging.takePending
  let first ← difference? start leading
  let token : Token := ⟨kind, ⟨first, scan.position⟩, leading, 0⟩
  let staging := staging.push token
  let index ← difference? staging.tokens.size 1
  return { scan with
    staging := staging.setOwner index
    log := scan.log.push (.token token) }

def settle? (scan : Scan) (literal : Except Fault TokenKind) (start : Nat) : Option Scan :=
  match literal with
  | .ok kind => do
    let settled ← scan.addToken? kind start
    return settled.enter .between
  | .error _ => some (scan.settle literal start)

def endWord? (scan : Scan) : Option Scan :=
  match scan.mode with
  | .word start text => scan.settle? (Literal.word text) start
  | _ => some (scan.enter .between)

def openQuote? (scan : Scan) (quote : Quote) : Option Scan :=
  (scan.clearOwner.enter (.quoted quote scan.position "")).advance? source 1

def readSymbol? (scan : Scan) (symbol : Symbol) : Option Scan := do
  let moved ← scan.clearOwner.advance? source symbol.width
  moved.addToken? (.symbol symbol) scan.position

def readWord? (scan : Scan) (c : Char) : Option Scan :=
  match scan.mode with
  | .word start text => (scan.enter (.word start (text.push c))).advance? source 1
  | _ => (scan.clearOwner.enter (.word scan.position c.toString)).advance? source 1

def readLineBreak? (scan : Scan) (length : Nat) : Option Scan := do
  let skipped ← scan.skip? source length
  return skipped.clearOwner.enter .lineStart

/-- A character is there. The one behind it is looked at only if it is there too. -/
def stepCode? (scan : Scan) : Option Scan := do
  let c ← source[scan.position]?
  let text := source.drop scan.position
  if Text.lineBreakLength text ≠ 0 then
    (← scan.endWord?).readLineBreak? source (Text.lineBreakLength text)
  else if Text.startsBlank text then (← scan.endWord?).skip? source 1
  else if c = '#' then ((← scan.endWord?).enter .comment).skip? source 1
  else if c = Quote.double.mark then (← scan.endWord?).openQuote? source .double
  else if c = Quote.single.mark then (← scan.endWord?).openQuote? source .single
  else
    match Symbol.longest? text with
    | some symbol => (← scan.endWord?).readSymbol? source symbol
    | none => scan.readWord? source c

def stepComment? (scan : Scan) : Option Scan := do
  let _ ← source[scan.position]?
  if Text.lineBreakLength (source.drop scan.position) ≠ 0 then return scan.enter .between
  else scan.skip? source 1

def readEscape? (scan : Scan) (quote : Quote) (start : Nat) (body : String) : Option Scan := do
  let taken ← (scan.enter (.quoted quote start (body.push '\\'))).advance? source 1
  match source[taken.position]? with
  | some next =>
    (taken.enter (.quoted quote start ((body.push '\\').push next))).advance? source 1
  | none => return taken

def stepQuoted? (scan : Scan) (quote : Quote) (start : Nat) (body : String) : Option Scan := do
  let c ← source[scan.position]?
  if c = '\\' then scan.readEscape? source quote start body
  else if c = quote.mark then
    (← scan.advance? source 1).settle? (Literal.quoted quote body) start
  else
    (scan.enter (.quoted quote start (body.push c))).advance? source 1

def measureLine? (scan : Scan) (options : Options) : Option Scan := do
  let line ← scan.line? source
  let (reading, gauge) ← scan.gauge.measure? line
  let measured := { scan with mode := .between, gauge }
  match reading with
  | .blank => return measured
  | .ambiguous width unit run =>
    if options.warnAmbiguous then
      return measured.addDiagnostic (.ambiguousIndentation width unit)
        ⟨scan.position, scan.position + run⟩
    else return measured
  | .level previous current =>
    let place ← difference? scan.position scan.staging.pending
    return measured.addIndentation previous current place

def step? (options : Options) (scan : Scan) : Option Scan :=
  match scan.mode with
  | .lineStart => scan.measureLine? source options
  | .comment => scan.stepComment? source
  | .quoted quote start body => scan.stepQuoted? source quote start body
  | .between => scan.stepCode? source
  | .word _ _ => scan.stepCode? source

end Source

def finish? (scan : Scan) : Option Findings := do
  let last ←
    match scan.mode with
    | .word _ _ => scan.endWord?
    | _ => some scan.settleLast
  return (last.enter .between).finish

/-- The checked pass goes on from the scan to the end of the text, and ends with the findings. -/
inductive EndsIn (source : List Char) (options : Options) : Scan → Findings → Prop where
  | finish {scan : Scan} {findings : Findings} (hend : source.length ≤ scan.position)
      (hfinish : scan.finish? = some findings) : EndsIn source options scan findings
  | step {scan next : Scan} {findings : Findings} (hmore : scan.position < source.length)
      (hstep : scan.step? source options = some next)
      (hnext : EndsIn source options next findings) :
      EndsIn source options scan findings

end Scan

/-! ### In bounds -/

theorem difference?_of_le {first second : Nat} (h : second ≤ first) :
    difference? first second = some (first - second) := if_pos h

namespace Indentation.Gauge

theorem enter?_eq {gauge : Gauge} (h : gauge.level ≠ 0 → gauge.unit ≠ 0) (width run : Nat) :
    gauge.enter? width run = some (gauge.enter width run) := by
  unfold enter? Gauge.enter
  by_cases hzero : width = 0
  · rw [if_pos hzero, if_pos hzero]
  · rw [if_neg hzero, if_neg hzero]
    by_cases hodd : width % 2 ≠ 0
    · rw [if_pos hodd, if_pos hodd]
    · rw [if_neg hodd, if_neg hodd]
      by_cases hlevel : gauge.level = 0
      · rw [if_pos hlevel, if_pos hlevel]
      · rw [if_neg hlevel, if_neg hlevel, remainder?, quotient?, if_neg (h hlevel),
          if_neg (h hlevel)]
        by_cases hmultiple : width % gauge.unit ≠ 0
        · rw [if_pos hmultiple]
          exact if_pos hmultiple
        · rw [if_neg hmultiple]
          exact if_neg hmultiple

theorem measure?_eq {gauge : Gauge} (h : gauge.level ≠ 0 → gauge.unit ≠ 0) (line : List Char) :
    gauge.measure? line = some (gauge.measure line) := by
  unfold measure? Gauge.measure
  dsimp only
  split
  · rfl
  · exact enter?_eq h _ _

end Indentation.Gauge

end Offside
