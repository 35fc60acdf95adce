/-!
# Options
-/

namespace Offside

structure Options where
  warnAmbiguous : Bool := true
deriving DecidableEq, Repr

end Offside
