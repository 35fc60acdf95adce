/-!
# Blanks and line breaks

A line ends with a line feed, and a carriage return right before the feed belongs to the break. Any
other carriage return is a blank like a space or a tab.
-/

namespace Offside.Text

/-- The length of the line break at the start of the text, `0` if there is none. -/
def lineBreakLength : List Char → Nat
  | '\n' :: _ => 1
  | '\r' :: '\n' :: _ => 2
  | _ => 0

def startsBlank : List Char → Bool
  | ' ' :: _ => true
  | '\t' :: _ => true
  | '\r' :: rest => rest.head? != some '\n'
  | _ => false

def leadingBlanks : List Char → List Char
  | [] => []
  | c :: rest => if startsBlank (c :: rest) then c :: leadingBlanks rest else []

def atLineEnd : List Char → Bool
  | [] => true
  | c :: rest => c == '#' || lineBreakLength (c :: rest) != 0

theorem lineBreakLength_le (text : List Char) : lineBreakLength text ≤ text.length := by
  unfold lineBreakLength
  split <;> simp

theorem leadingBlanks_append_drop (text : List Char) :
    leadingBlanks text ++ text.drop (leadingBlanks text).length = text := by
  induction text with
  | nil => rfl
  | cons c rest ih =>
    rw [leadingBlanks]
    split
    · simp [ih]
    · rfl

end Offside.Text
