/-!
# Quotation marks

Strings stand between double quotes and runes between single ones.
-/

namespace Offside.Text

/-- The two marks that open and close a quoted literal. -/
inductive Quote where
  | double
  | single
deriving DecidableEq, Repr

def Quote.mark : Quote → Char
  | .double => '"'
  | .single => '\''

theorem Quote.mark_ne_backslash (quote : Quote) : quote.mark ≠ '\\' := by
  cases quote <;> decide

end Offside.Text
