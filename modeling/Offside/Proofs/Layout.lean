import Offside.Indentation.Gauge
import Offside.Proofs.Piece

/-!
# The layout of a text

The literals of a text, each with the gap of blanks and comments in front of it, and the gap behind
the last one. Where a line starts inside a gap, the blanks at the end of the gap indent the literal.
-/

namespace Offside

open Indentation (Gauge Reading)

namespace Text

/-- The length of the first line, with its line break. Every line break ends with a line feed. -/
def lineLength : List Char → Nat
  | [] => 0
  | c :: rest => if c = '\n' then 1 else lineLength rest + 1

/-- What stands behind the last line feed, or the whole text if there is none. -/
def lastLine : List Char → List Char
  | [] => []
  | c :: rest => if '\n' ∈ c :: rest then lastLine rest else c :: rest

theorem lineLength_eq_length {text : List Char} (h : '\n' ∉ text) :
    lineLength text = text.length := by
  induction text with
  | nil => rfl
  | cons c rest ih =>
    rw [List.mem_cons, not_or] at h
    rw [lineLength, if_neg (Ne.symm h.1), ih h.2, List.length_cons]

theorem lastLine_eq_self {text : List Char} (h : '\n' ∉ text) : lastLine text = text := by
  cases text with
  | nil => rfl
  | cons c rest => rw [lastLine, if_neg h]

theorem lineLength_append {first rest : List Char} (h : '\n' ∉ first) :
    lineLength (first ++ rest) = first.length + lineLength rest := by
  induction first with
  | nil => simp
  | cons c others ih =>
    rw [List.mem_cons, not_or] at h
    rw [List.cons_append, lineLength, if_neg (Ne.symm h.1), ih h.2, List.length_cons]
    omega

theorem lastLine_append {first rest : List Char} (h : '\n' ∈ rest) :
    lastLine (first ++ rest) = lastLine rest := by
  induction first with
  | nil => rfl
  | cons c others ih =>
    rw [List.cons_append, lastLine, if_pos (by simp [h]), ih]

theorem lineLength_add_length_lastLine_le {text : List Char} (h : '\n' ∈ text) :
    lineLength text + (lastLine text).length ≤ text.length := by
  induction text with
  | nil => simp at h
  | cons c rest ih =>
    rw [lineLength, lastLine, if_pos h, List.length_cons]
    by_cases hrest : '\n' ∈ rest
    · have hle := ih hrest
      split_ifs <;> omega
    · have hc : c = '\n' := ((List.mem_cons.1 h).resolve_right hrest).symm
      rw [if_pos hc, lastLine_eq_self hrest]
      omega

theorem lastLine_suffix (text : List Char) : lastLine text <:+ text := by
  induction text with
  | nil => exact List.suffix_rfl
  | cons c rest ih =>
    rw [lastLine]
    split_ifs
    · exact ih.trans (List.suffix_cons c rest)
    · exact List.suffix_rfl

theorem lastLine_suffix_append (first rest : List Char) :
    lastLine rest <:+ lastLine (first ++ rest) := by
  induction first with
  | nil => exact List.suffix_rfl
  | cons c others ih =>
    rw [List.cons_append, lastLine]
    split_ifs
    · exact ih
    · have hrest := (List.suffix_append others rest).trans (List.suffix_cons c _)
      exact (lastLine_suffix rest).trans hrest

theorem exists_drop_eq_lastLine {text : List Char} (h : '\n' ∈ text) :
    ∃ middle, text.length = lineLength text + middle + (lastLine text).length ∧
      ∀ after, (text ++ after).drop (lineLength text + middle) = lastLine text ++ after := by
  obtain ⟨middle, hmiddle⟩ := Nat.exists_eq_add_of_le (lineLength_add_length_lastLine_le h)
  have hdrop := List.suffix_iff_eq_drop.1 (lastLine_suffix text)
  have hcount : text.length - (lastLine text).length = lineLength text + middle := by
    omega
  rw [hcount] at hdrop
  refine ⟨middle, by omega, ?_⟩
  intro after
  have hle : lineLength text + middle ≤ text.length := by
    omega
  rw [List.drop_append_of_le_length hle, ← hdrop]

theorem lineLength_le (text : List Char) : lineLength text ≤ text.length := by
  by_cases h : '\n' ∈ text
  · have hle := lineLength_add_length_lastLine_le h
    omega
  · rw [lineLength_eq_length h]

end Text

def Trivia.text (gap : List Trivia) : List Char := gap.flatMap Trivia.chars

theorem Trivia.text_cons (part : Trivia) (rest : List Trivia) :
    text (part :: rest) = part.chars ++ text rest := List.flatMap_cons

theorem Trivia.text_append (first second : List Trivia) :
    text (first ++ second) = text first ++ text second := List.flatMap_append

theorem Trivia.length_text_cons (part : Trivia) (rest : List Trivia) :
    (text (part :: rest)).length = (Piece.trivia part).length + (text rest).length := by
  rw [text_cons, List.length_append]
  rfl

structure Item where
  gap : List Trivia
  lexeme : Lexeme
deriving DecidableEq, Repr

namespace Item

def text (item : Item) : List Char := Trivia.text item.gap

/-- What the line of the literal tells the gauge, if it starts in the gap. -/
def measure (item : Item) (gauge : Gauge) : Reading × Gauge :=
  if '\n' ∈ item.text then
    gauge.enter (Indentation.width (Text.lastLine item.text)) (Text.lastLine item.text).length
  else (.blank, gauge)

end Item

/-- The literals of a text with the gaps before them, and the gap behind the last one. -/
structure Layout where
  items : List Item
  tail : List Trivia
deriving DecidableEq, Repr

namespace Layout

def addTrivia (part : Trivia) : Layout → Layout
  | ⟨[], tail⟩ => ⟨[], part :: tail⟩
  | ⟨item :: items, tail⟩ => ⟨{ item with gap := part :: item.gap } :: items, tail⟩

def addLexeme (lexeme : Lexeme) (layout : Layout) : Layout :=
  ⟨⟨[], lexeme⟩ :: layout.items, layout.tail⟩

def addPiece : Piece → Layout → Layout
  | .trivia part => addTrivia part
  | .lexeme part => addLexeme part

def ofPieces (pieces : List Piece) : Layout := pieces.foldr addPiece ⟨[], []⟩

def ofText (text : List Char) : Layout := ofPieces (Offside.pieces text)

def itemPieces (item : Item) : List Piece := item.gap.map .trivia ++ [.lexeme item.lexeme]

def pieces (layout : Layout) : List Piece :=
  layout.items.flatMap itemPieces ++ layout.tail.map .trivia

theorem flatMap_chars_trivia (gap : List Trivia) :
    (gap.map Piece.trivia).flatMap Piece.chars = Trivia.text gap := by
  rw [List.flatMap_map]
  rfl

theorem flatMap_chars_itemPieces (item : Item) :
    (itemPieces item).flatMap Piece.chars = item.text ++ item.lexeme.chars := by
  rw [itemPieces, List.flatMap_append, List.flatMap_singleton, flatMap_chars_trivia]
  rfl

theorem placed_itemPieces (position : Nat) (item : Item) :
    placed position (itemPieces item) = placed position (item.gap.map .trivia) ++
      [(.lexeme item.lexeme, ⟨position + item.text.length,
        position + item.text.length + item.lexeme.length⟩)] := by
  rw [itemPieces, placed_append, flatMap_chars_trivia]
  rfl

theorem pieces_mk_cons (item : Item) (items : List Item) (tail : List Trivia) :
    pieces ⟨item :: items, tail⟩ = itemPieces item ++ pieces ⟨items, tail⟩ := by
  rw [pieces, List.flatMap_cons, List.append_assoc]
  rfl

theorem placed_mk_cons (position : Nat) (item : Item) (items : List Item) (tail : List Trivia) :
    placed position (pieces ⟨item :: items, tail⟩) = placed position (item.gap.map .trivia) ++
      (.lexeme item.lexeme, ⟨position + item.text.length,
        position + item.text.length + item.lexeme.length⟩) ::
          placed (position + item.text.length + item.lexeme.length) (pieces ⟨items, tail⟩) := by
  rw [pieces_mk_cons, placed_append, placed_itemPieces, flatMap_chars_itemPieces,
    List.length_append, List.append_assoc, ← Nat.add_assoc]
  rfl

theorem pieces_addPiece (piece : Piece) (layout : Layout) :
    (layout.addPiece piece).pieces = piece :: layout.pieces := by
  obtain ⟨items, tail⟩ := layout
  cases piece with
  | lexeme part => rfl
  | trivia part => cases items <;> rfl

theorem pieces_ofPieces (pieces : List Piece) : (ofPieces pieces).pieces = pieces := by
  induction pieces with
  | nil => rfl
  | cons piece rest ih =>
    have hcons : ofPieces (piece :: rest) = (ofPieces rest).addPiece piece := rfl
    rw [hcons, pieces_addPiece, ih]

theorem ofPieces_trivia_append (gap : List Trivia) (pieces : List Piece) :
    ofPieces (gap.map .trivia ++ pieces) = gap.foldr addTrivia (ofPieces pieces) := by
  induction gap with
  | nil => rfl
  | cons part rest ih =>
    rw [List.foldr_cons, ← ih]
    rfl

theorem foldr_addTrivia_cons (gap : List Trivia) (item : Item) (items : List Item)
    (tail : List Trivia) :
    gap.foldr addTrivia ⟨item :: items, tail⟩ =
      ⟨{ item with gap := gap ++ item.gap } :: items, tail⟩ := by
  induction gap with
  | nil => rfl
  | cons part rest ih =>
    rw [List.foldr_cons, ih]
    rfl

theorem foldr_addTrivia_nil (gap tail : List Trivia) :
    gap.foldr addTrivia ⟨[], tail⟩ = ⟨[], gap ++ tail⟩ := by
  induction gap with
  | nil => rfl
  | cons part rest ih =>
    rw [List.foldr_cons, ih]
    rfl

theorem ofPieces_pieces (layout : Layout) : ofPieces layout.pieces = layout := by
  obtain ⟨items, tail⟩ := layout
  induction items with
  | nil =>
    have hpieces : pieces ⟨[], tail⟩ = tail.map .trivia ++ [] := (List.append_nil _).symm
    rw [hpieces, ofPieces_trivia_append]
    exact (foldr_addTrivia_nil tail []).trans (by rw [List.append_nil])
  | cons item items ih =>
    have hlexeme : ofPieces (.lexeme item.lexeme :: pieces ⟨items, tail⟩) =
        ⟨⟨[], item.lexeme⟩ :: items, tail⟩ := congrArg (addLexeme item.lexeme) ih
    rw [pieces_mk_cons, itemPieces, List.append_assoc, List.singleton_append,
      ofPieces_trivia_append, hlexeme, foldr_addTrivia_cons, List.append_nil]

theorem pieces_ofText (text : List Char) : (ofText text).pieces = Offside.pieces text :=
  pieces_ofPieces _

end Layout

end Offside
