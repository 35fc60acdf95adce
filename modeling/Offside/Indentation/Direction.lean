/-!
# Directions of indentation
-/

namespace Offside.Indentation

inductive Direction where
  | indent
  | dedent
deriving DecidableEq, Repr

namespace Direction

def sign : Direction → Int
  | indent => 1
  | dedent => -1

def render : Direction → String
  | indent => "Indent"
  | dedent => "Dedent"

end Direction

end Offside.Indentation
