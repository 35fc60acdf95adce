import Offside.Proofs.Context
import Offside.Proofs.Literals

/-!
# Outlines

What is seen of the tokens when their trivia is left aside. Which token owns a run of trivia makes
no difference to it, and where a literal stands only moves it. So what comes behind a literal has
the same outlines and the same diagnostics, whatever stands in front of it, as long as the levels of
indentation agree.
-/

namespace Offside

open Indentation (Direction Gauge Reading)

def Span.shift (span : Span) (count : Nat) : Span := ⟨span.start + count, span.stop + count⟩

def Diagnostic.shift (diagnostic : Diagnostic) (count : Nat) : Diagnostic :=
  { diagnostic with span := diagnostic.span.shift count }

/-- A token without its trivia. A change of indentation has no place of its own: it stands where the
trivia in front of the next literal starts. -/
structure Outline where
  kind : TokenKind
  content? : Option Span
deriving DecidableEq, Repr

def Outline.shift (outline : Outline) (count : Nat) : Outline :=
  { outline with content? := outline.content?.map (·.shift count) }

theorem Outline.shift_zero (outline : Outline) : outline.shift 0 = outline := by
  obtain ⟨kind, content?⟩ := outline
  cases content? <;> rfl

def Token.outline (token : Token) : Outline :=
  ⟨token.kind, if token.isIndentation then none else some token.content⟩

def Findings.outlines (findings : Findings) : List Outline := findings.tokens.map (·.outline)

def levelOutlines (previous current : Nat) : List Outline :=
  let direction : Direction := if previous < current then .indent else .dedent
  List.replicate ((current - previous) + (previous - current)) ⟨.indentation direction, none⟩

theorem map_outline_levelTokens (previous current position : Nat) :
    (levelTokens previous current position).map (·.outline) = levelOutlines previous current := by
  rw [levelTokens, List.map_replicate]
  rfl

theorem map_shift_levelOutlines (previous current count : Nat) :
    (levelOutlines previous current).map (·.shift count) = levelOutlines previous current := by
  rw [levelOutlines, List.map_replicate]
  rfl

namespace Indentation.Reading

def outlines : Reading → List Outline
  | level previous current => levelOutlines previous current
  | blank => []
  | ambiguous _ _ _ => []

theorem map_outline_tokens (reading : Reading) (position : Nat) :
    (reading.tokens position).map (·.outline) = reading.outlines := by
  cases reading with
  | level previous current => exact map_outline_levelTokens previous current position
  | blank => rfl
  | ambiguous width unit run => rfl

theorem map_shift_outlines (reading : Reading) (count : Nat) :
    reading.outlines.map (·.shift count) = reading.outlines := by
  cases reading with
  | level previous current => exact map_shift_levelOutlines previous current count
  | blank => rfl
  | ambiguous width unit run => rfl

theorem diagnostics_add (reading : Reading) (options : Options) (position count : Nat) :
    reading.diagnostics options (position + count) =
      (reading.diagnostics options position).map (·.shift count) := by
  cases reading with
  | level previous current => rfl
  | blank => rfl
  | ambiguous width unit run =>
    unfold diagnostics
    split_ifs
    · rw [List.map_singleton, Diagnostic.shift, Span.shift, Nat.add_right_comm]
    · rfl

end Indentation.Reading

namespace Cursor

variable (cursor : Cursor)

def behind (items : List Item) : Cursor := items.foldl next cursor

def outlines (item : Item) : List Outline :=
  (cursor.changes item ++ (cursor.token? item).toList).map (·.outline)

theorem behind_append (first second : List Item) :
    cursor.behind (first ++ second) = (cursor.behind first).behind second := List.foldl_append

theorem outlines_eq (item : Item) :
    cursor.outlines item = (item.measure cursor.gauge).1.outlines ++
      (item.lexeme.reading.toOption.map fun kind =>
        (⟨kind, some ⟨cursor.start item, (cursor.next item).position⟩⟩ : Outline)).toList := by
  rw [outlines, List.map_append, changes, Reading.map_outline_tokens]
  cases hreading : item.lexeme.reading with
  | error fault =>
    rw [cursor.token?_of_error hreading]
    rfl
  | ok kind =>
    have hliteral := Lexeme.isIndentation_of_reading hreading
    rw [cursor.token?_of_ok hreading, Option.toList_some, List.map_singleton, Token.outline,
      hliteral, Token.content, cursor.start_eq item]
    rfl

theorem position_behind (items : List Item) :
    (cursor.behind items).position =
      cursor.position + (Piece.text (items.flatMap Layout.itemPieces)).length := by
  induction items generalizing cursor with
  | nil => rfl
  | cons item items ih =>
    have hnext : (cursor.next item).position =
        cursor.position + item.text.length + item.lexeme.chars.length := rfl
    rw [behind, List.foldl_cons, ← behind, ih, List.flatMap_cons, Piece.text_append,
      Piece.text_itemPieces, List.length_append, List.length_append, hnext]
    omega

end Cursor

def outlinesFrom (cursor : Cursor) : List Item → List Outline
  | [] => []
  | item :: items => cursor.outlines item ++ outlinesFrom (cursor.next item) items

theorem outline_extend (token : Token) (count : Nat) :
    (token.extend count).outline = token.outline := by
  rw [Token.outline, token.content_extend, token.isIndentation_extend]
  rfl

theorem map_outline_tokensFrom (tail : List Trivia) (cursor : Cursor) (items : List Item) :
    (tokensFrom tail cursor items).map (·.outline) =
      outlinesFrom cursor items ++ levelOutlines (cursor.behind items).gauge.level 0 := by
  induction items generalizing cursor with
  | nil => exact map_outline_levelTokens _ _ _
  | cons item items ih =>
    have hgrown : (((cursor.token? item).map (·.extend (trailing tail items))).toList).map
        (·.outline) = ((cursor.token? item).toList).map (·.outline) := by
      cases cursor.token? item with
      | none => rfl
      | some token => exact congrArg (fun outline => [outline]) (outline_extend token _)
    rw [tokensFrom, List.map_append, List.map_append, ih, hgrown, outlinesFrom, Cursor.outlines,
      List.map_append, List.append_assoc, List.append_assoc, List.append_assoc]
    rfl

theorem outlinesFrom_append (cursor : Cursor) (first second : List Item) :
    outlinesFrom cursor (first ++ second) =
      outlinesFrom cursor first ++ outlinesFrom (cursor.behind first) second := by
  induction first generalizing cursor with
  | nil => rfl
  | cons item items ih =>
    rw [List.cons_append, outlinesFrom, outlinesFrom, ih, List.append_assoc]
    rfl

theorem diagnosticsFrom_append (options : Options) (cursor : Cursor) (first second : List Item) :
    diagnosticsFrom options cursor (first ++ second) =
      diagnosticsFrom options cursor first ++
        diagnosticsFrom options (cursor.behind first) second := by
  induction first generalizing cursor with
  | nil => rfl
  | cons item items ih =>
    rw [List.cons_append, diagnosticsFrom, ih, diagnosticsFrom, ← List.append_assoc]
    rfl

namespace Layout

def outlines (layout : Layout) : List Outline :=
  outlinesFrom {} layout.items ++ levelOutlines (Cursor.behind {} layout.items).gauge.level 0

variable {source : String} {layout : Layout}

theorem outlines_tokenize (options : Options) (h : ofText source.toList = layout) :
    (tokenize source options).outlines = layout.outlines := by
  rw [Findings.outlines, Offside.tokens_tokenize, h]
  exact map_outline_tokensFrom layout.tail {} layout.items

theorem tokens_tokenize (options : Options) (h : ofText source.toList = layout) :
    (tokenize source options).tokens = tokensFrom layout.tail {} layout.items := by
  rw [Offside.tokens_tokenize, h]
  rfl

theorem diagnostics_tokenize (options : Options) (h : ofText source.toList = layout) :
    (tokenize source options).diagnostics = diagnosticsFrom options {} layout.items := by
  rw [Offside.diagnostics_tokenize, h]
  rfl

end Layout

/-! ### A literal among others -/

namespace Layout

def leadingPieces (before : List Item) (gap : List Trivia) : List Piece :=
  before.flatMap itemPieces ++ gap.map .trivia

theorem pieces_mk_append (before after : List Item) (item : Item) (tail : List Trivia) :
    pieces ⟨before ++ item :: after, tail⟩ =
      leadingPieces before item.gap ++ .lexeme item.lexeme :: pieces ⟨after, tail⟩ := by
  rw [pieces, List.flatMap_append, List.flatMap_cons, itemPieces, leadingPieces, pieces]
  simp only [List.append_assoc, List.cons_append, List.nil_append]

end Layout

theorem Cursor.position_behind_add (cursor : Cursor) (before : List Item) (gap : List Trivia) :
    (cursor.behind before).position + (Trivia.text gap).length =
      cursor.position + (Piece.text (Layout.leadingPieces before gap)).length := by
  rw [cursor.position_behind, Layout.leadingPieces, Piece.text_append, List.length_append,
    Piece.text_trivia, Nat.add_assoc]

theorem Layout.position_add_tail {text : List Char} {items : List Item} {tail : List Trivia}
    (h : ofText text = ⟨items, tail⟩) :
    (Cursor.behind {} items).position + (Trivia.text tail).length = text.length := by
  have htext := text_ofText text
  rw [h, text_mk] at htext
  rw [← htext, Cursor.position_behind, List.length_append]
  exact congrArg (· + _) (Nat.zero_add _)

/-! ### Places that match -/

/-- Both gauges read all lines in the same way: the unit counts only while a level is open. -/
structure Indentation.Gauge.Agrees (first second : Gauge) : Prop where
  level : first.level = second.level
  unit : first.level ≠ 0 → first.unit = second.unit

namespace Indentation.Gauge.Agrees

variable {first second : Gauge}

theorem refl (gauge : Gauge) : gauge.Agrees gauge := ⟨rfl, fun _ => rfl⟩

theorem enter (h : first.Agrees second) (width run : Nat) :
    (first.enter width run).1 = (second.enter width run).1 ∧
      (first.enter width run).2.Agrees (second.enter width run).2 := by
  unfold Gauge.enter
  rw [← h.level]
  by_cases hlevel : first.level = 0
  · simp only [hlevel, if_true]
    split_ifs
    · exact ⟨rfl, rfl, fun hne => absurd rfl hne⟩
    · exact ⟨rfl, h⟩
    · exact ⟨rfl, refl _⟩
  · rw [← h.unit hlevel]
    simp only [if_neg hlevel]
    split_ifs
    · exact ⟨rfl, rfl, fun hne => absurd rfl hne⟩
    · exact ⟨rfl, h⟩
    · exact ⟨rfl, h⟩
    · exact ⟨rfl, rfl, fun _ => rfl⟩

theorem measure (h : first.Agrees second) (item : Item) :
    (item.measure first).1 = (item.measure second).1 ∧
      (item.measure first).2.Agrees (item.measure second).2 := by
  unfold Item.measure
  split_ifs
  · exact h.enter _ _
  · exact ⟨rfl, h⟩

end Indentation.Gauge.Agrees

/-- The second place is `count` characters behind the first one, at the same level. Whether a token
stands right before it does not matter. -/
structure Cursor.Matches (count : Nat) (first second : Cursor) : Prop where
  position : second.position = first.position + count
  gauge : first.gauge.Agrees second.gauge

namespace Cursor.Matches

variable {count : Nat} {first second : Cursor}

theorem start (h : Matches count first second) (item : Item) :
    second.start item = first.start item + count := by
  rw [Cursor.start, Cursor.start, h.position]
  omega

theorem next (h : Matches count first second) (item : Item) :
    Matches count (first.next item) (second.next item) := by
  refine ⟨?_, (h.gauge.measure item).2⟩
  simp only [Cursor.next, h.start item]
  omega

theorem warnings (h : Matches count first second) (item : Item) (options : Options) :
    second.warnings item options = (first.warnings item options).map (·.shift count) := by
  have hlength := (Text.lastLine_suffix item.text).length_le
  have hposition : second.start item - (Text.lastLine item.text).length =
      first.start item - (Text.lastLine item.text).length + count := by
    have hle : item.text.length ≤ first.start item := Nat.le_add_left _ _
    rw [h.start item]
    omega
  rw [Cursor.warnings, Cursor.warnings, hposition, Reading.diagnostics_add,
    (h.gauge.measure item).1]

theorem fault? (h : Matches count first second) (item : Item) :
    second.fault? item = (first.fault? item).map (·.shift count) := by
  cases hreading : item.lexeme.reading with
  | ok kind =>
    rw [first.fault?_of_ok hreading, second.fault?_of_ok hreading]
    rfl
  | error fault =>
    rw [first.fault?_of_error hreading, second.fault?_of_error hreading, h.start item,
      (h.next item).position]
    rfl

theorem outlines (h : Matches count first second) (item : Item) :
    second.outlines item = (first.outlines item).map (·.shift count) := by
  rw [Cursor.outlines_eq, Cursor.outlines_eq, List.map_append, Reading.map_shift_outlines,
    (h.gauge.measure item).1, h.start item, (h.next item).position]
  cases item.lexeme.reading <;> rfl

theorem outlinesFrom (h : Matches count first second) (items : List Item) :
    outlinesFrom second items = (outlinesFrom first items).map (·.shift count) := by
  induction items generalizing first second with
  | nil => rfl
  | cons item items ih =>
    rw [Offside.outlinesFrom, Offside.outlinesFrom, List.map_append, h.outlines item,
      ih (h.next item)]

theorem diagnosticsFrom (h : Matches count first second) (options : Options) (items : List Item) :
    diagnosticsFrom options second items =
      (diagnosticsFrom options first items).map (·.shift count) := by
  induction items generalizing first second with
  | nil => rfl
  | cons item items ih =>
    have hfault : (second.fault? item).toList =
        ((first.fault? item).toList).map (·.shift count) := by
      rw [h.fault? item]
      cases first.fault? item <;> rfl
    rw [Offside.diagnosticsFrom, Offside.diagnosticsFrom, List.map_append, List.map_append,
      h.warnings item, hfault, ih (h.next item)]

theorem outlinesFrom_eq (h : Matches 0 first second) (items : List Item) :
    Offside.outlinesFrom second items = Offside.outlinesFrom first items := by
  rw [h.outlinesFrom items]
  exact List.map_id'' Outline.shift_zero _

theorem diagnosticsFrom_eq (h : Matches 0 first second) (options : Options) (items : List Item) :
    Offside.diagnosticsFrom options second items = Offside.diagnosticsFrom options first items := by
  rw [h.diagnosticsFrom options items]
  exact List.map_id'' (fun _ => rfl) _

theorem behind (h : Matches count first second) (items : List Item) :
    Matches count (first.behind items) (second.behind items) := by
  induction items generalizing first second with
  | nil => exact h
  | cons item items ih => exact ih (h.next item)

end Cursor.Matches

end Offside
