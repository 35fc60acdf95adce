import Offside.Unicode.Ranges

/-!
# Connecting punctuation

The category Pc of Unicode 17, the low line and its relatives.
-/

namespace Offside.Unicode

/-- The code points of category Pc. -/
def connectorRanges : List (Nat × Nat) :=
  [(0x5F, 0x5F), (0x203F, 0x2040), (0x2054, 0x2054), (0xFE33, 0xFE34), (0xFE4D, 0xFE4F),
   (0xFF3F, 0xFF3F)]

def isConnector (c : Char) : Bool := covers connectorRanges c

end Offside.Unicode
