import Offside.Event
import Offside.Indentation.Gauge
import Offside.Literal.Quoted
import Offside.Literal.Word
import Offside.Staging

/-!
# A pass under way

The state of a pass over a source text: the characters still to be read, the position of the first
of them, the literal or comment in which it lies, and all that has been found before it.
-/

namespace Offside

open Indentation (Direction Gauge)
open Text (Quote)

namespace Scan

/-- Where the next character lies. -/
inductive Mode where
  | between
  | word (start : Nat) (text : String)
  | quoted (quote : Quote) (start : Nat) (body : String)
  | comment
  | lineStart
deriving DecidableEq, Repr

end Scan

structure Scan where
  rest : List Char
  position : Nat := 0
  mode : Scan.Mode := .between
  staging : Staging := {}
  gauge : Gauge := {}
  diagnostics : Array Diagnostic := #[]
  log : Array Event := #[]
deriving DecidableEq, Repr

namespace Scan

def start (source : List Char) : Scan :=
  { rest := source, log := #[.started source.length] }

def atEnd (scan : Scan) : Bool := scan.rest.isEmpty

def advance (scan : Scan) (count : Nat) : Scan :=
  { scan with rest := scan.rest.drop count, position := scan.position + count }

def enter (scan : Scan) (mode : Mode) : Scan := { scan with mode }

def clearOwner (scan : Scan) : Scan := { scan with staging := scan.staging.clearOwner }

def skip (scan : Scan) (count : Nat) : Scan :=
  { scan.advance count with staging := scan.staging.addTrivia count }

def dropPending (scan : Scan) : Scan :=
  { scan with staging := scan.staging.takePending.2 }

def addDiagnostic (scan : Scan) (fault : Fault) (span : Span) : Scan :=
  { scan with
    diagnostics := scan.diagnostics.push ⟨fault, span⟩
    log := scan.log.push (.diagnostic ⟨fault, span⟩) }

/-- Makes a token of the literal that runs from `start` up to the position. The pending trivia leads
it, and what follows is its own. -/
def addToken (scan : Scan) (kind : TokenKind) (start : Nat) : Scan :=
  let (leading, staging) := scan.staging.takePending
  let token : Token := ⟨kind, ⟨start - leading, scan.position⟩, leading, 0⟩
  let index := staging.tokens.size
  { scan with
    staging := (staging.push token).setOwner index
    log := scan.log.push (.token token) }

/-- Ends the literal that started at `start`: a token if it could be read, and a diagnostic
otherwise, which takes the pending trivia with it. -/
def settle (scan : Scan) (literal : Except Fault TokenKind) (start : Nat) : Scan :=
  let settled :=
    match literal with
    | .ok kind => scan.addToken kind start
    | .error fault => scan.dropPending.addDiagnostic fault ⟨start, scan.position⟩
  settled.enter .between

def endWord (scan : Scan) : Scan :=
  match scan.mode with
  | .word start text => scan.settle (Literal.word text) start
  | _ => scan.enter .between

/-- Puts changes of indentation at `position`, one for each level between `previous` and
`current`. -/
def addIndentation (scan : Scan) (previous current position : Nat) : Scan :=
  let direction : Direction := if previous < current then .indent else .dedent
  let count := (current - previous) + (previous - current)
  let token : Token := ⟨.indentation direction, ⟨position, position⟩, 0, 0⟩
  { scan with
    staging :=
      { scan.staging with
        tokens := scan.staging.tokens ++ Array.replicate count token }
    log := scan.log ++ Array.replicate count (.indentation direction position) }

end Scan

end Offside
