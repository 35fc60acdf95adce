/-!
# Spans

A span is a half-open range of positions in a source text. Positions count characters from the
start of the text, never bytes.
-/

namespace Offside

/-- The positions from `start` up to, and without, `stop`. -/
structure Span where
  start : Nat
  stop : Nat
deriving DecidableEq, Repr

namespace Span

def length (span : Span) : Nat := span.stop - span.start

def isEmpty (span : Span) : Bool := span.start == span.stop

def render (span : Span) : String :=
  toString span.start ++ ".." ++ toString span.stop

end Span

end Offside
