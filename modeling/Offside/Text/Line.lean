import Offside.Unicode.Separator

/-!
# Lines of a text

A line ends with its line feed, which belongs to it. The last line of a text may lack one, and no
line is empty.
-/

namespace Offside.Text

def lines : List Char → List (List Char)
  | [] => []
  | c :: rest =>
    if c = '\n' then [c] :: lines rest
    else
      match lines rest with
      | [] => [[c]]
      | line :: others => (c :: line) :: others

/-- Where a position lies: the number of its line, counted from `1`, the line with its line feed,
and the number of characters before the position in it. -/
structure Place where
  number : Nat
  line : List Char
  column : Nat
deriving DecidableEq, Repr

def placeIn? (number position : Nat) : List (List Char) → Option Place
  | [] => none
  | line :: others =>
    if position < line.length then some ⟨number, line, position⟩
    else placeIn? (number + 1) (position - line.length) others

def place? (text : List Char) (position : Nat) : Option Place :=
  placeIn? 1 position (lines text)

def trimRight (text : List Char) : List Char :=
  (text.reverse.dropWhile Unicode.isWhitespace).reverse

def indentLength (text : List Char) : Nat :=
  (text.takeWhile fun c => c == ' ' || c == '\t').length

theorem flatten_lines (text : List Char) : (lines text).flatten = text := by
  induction text with
  | nil => rfl
  | cons c rest ih =>
    rw [lines]
    split
    · rw [List.flatten_cons, ih, List.singleton_append]
    · split
      next h =>
        rw [h] at ih
        simp [← ih]
      next line others h =>
        rw [h, List.flatten_cons] at ih
        rw [List.flatten_cons, List.cons_append, ih]

end Offside.Text
