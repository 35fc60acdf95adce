import Offside.Event

/-!
# What a pass finds

All literals that could be read are tokens, and a diagnostic stands for each of the others, so a
fault stops nothing.
-/

namespace Offside

/-- The tokens and the diagnostics of a text, each in the order of their finding, and the log of
both. -/
structure Findings where
  tokens : List Token
  diagnostics : List Diagnostic
  log : List Event
deriving DecidableEq, Repr

namespace Findings

def hasErrors (findings : Findings) : Bool := findings.diagnostics.any (·.isError)

/-- The tokens, unless there is an error, and then the first one. -/
def result (findings : Findings) : Except Diagnostic (List Token) :=
  match findings.diagnostics.find? (·.isError) with
  | some diagnostic => .error diagnostic
  | none => .ok findings.tokens

end Findings

end Offside
