import Offside.Findings
import Offside.Scan.State

/-!
# The end of a pass

Once nothing is left to be read, the literal that is still open is settled, the trivia behind the
last literal is given to it, and the open levels of indentation are closed.
-/

namespace Offside.Scan

/-- Settles the literal that the end of the text cuts off. A word is whole there, and a quoted
literal is not. -/
def settleLast (scan : Scan) : Scan :=
  match scan.mode with
  | .quoted quote start _ =>
    scan.dropPending.addDiagnostic (Literal.unterminated quote) ⟨start, scan.position⟩
  | .comment => scan
  | .lineStart => scan
  | .between => scan
  | .word _ _ => scan.endWord

/-- Gives the pending trivia to the last literal, or notes that it has no owner. -/
def settleTrailing (scan : Scan) : Scan :=
  let (settled, staging) := scan.staging.settleTrailing scan.position
  let log := if settled then scan.log else scan.log.push (.unattributed staging.pending)
  { scan with staging, log }

def closeLevels (scan : Scan) : Scan :=
  let (levels, gauge) := scan.gauge.close
  { scan with gauge }.addIndentation levels 0 scan.position

def finish (scan : Scan) : Findings :=
  let last := scan.settleLast.settleTrailing.closeLevels
  { tokens := last.staging.tokens.toList
    diagnostics := last.diagnostics.toList
    log := last.log.toList ++ [.finished last.staging.tokens.size last.diagnostics.size] }

end Offside.Scan
