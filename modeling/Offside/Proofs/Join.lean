import Offside.Proofs.Outline
import Offside.Text.Line

/-!
# Texts joined at a line break

Nothing but the levels of indentation is carried over a line break. So where a text ends and another
one starts in a new line, each has the literals that it has alone, and also the same changes of
indentation if the second text starts at the first level.
-/

namespace Offside

open Indentation (Gauge Reading)
open Text (Quote)

namespace Text

/-! ### The first line that is not blank -/

/-- The first line that is not blank, if there is one, is not indented. -/
def StartsFlush (text : List Char) : Prop :=
  ∀ line ∈ (lines text).find? (!isBlankLine ·), Indentation.width (leadingBlanks line) = 0

theorem lines_append_lineFeed {line : List Char} (h : '\n' ∉ line) (rest : List Char) :
    lines (line ++ '\n' :: rest) = (line ++ ['\n']) :: lines rest := by
  induction line with
  | nil => rfl
  | cons c others ih =>
    rw [List.mem_cons, not_or] at h
    rw [List.cons_append, lines, if_neg (Ne.symm h.1), ih h.2]
    rfl

theorem exists_lines_append {start : List Char} (h : '\n' ∉ start) (hne : start ≠ [])
    (rest : List Char) : ∃ more others, lines (start ++ rest) = (start ++ more) :: others := by
  induction start with
  | nil => exact absurd rfl hne
  | cons c behind ih =>
    rw [List.mem_cons, not_or] at h
    rw [List.cons_append, lines, if_neg (Ne.symm h.1)]
    cases behind with
    | nil =>
      cases hlines : lines ([] ++ rest) with
      | nil => exact ⟨[], [], rfl⟩
      | cons line others => exact ⟨line, others, rfl⟩
    | cons d behind =>
      obtain ⟨more, others, hlines⟩ := ih h.2 (List.cons_ne_nil _ _)
      rw [hlines]
      exact ⟨more, others, rfl⟩

theorem lastLine_append_lineFeed (first rest : List Char) :
    lastLine (first ++ '\n' :: rest) = lastLine rest := by
  rw [lastLine_append List.mem_cons_self, lastLine, if_pos List.mem_cons_self]

theorem not_mem_text {gap : List Trivia} (hgap : ∀ part ∈ gap, part.IsValid)
    (h : .blank '\n' ∉ gap) : '\n' ∉ Trivia.text gap := by
  intro hmem
  obtain ⟨part, hpart, hfeed⟩ := List.mem_flatMap.1 hmem
  refine Trivia.not_mem_chars (hgap part hpart) ?_ hfeed
  rintro rfl
  exact h hpart

theorem exists_find?_lines {gap : List Trivia} (hgap : ∀ part ∈ gap, part.IsValid)
    (hindent : ∀ c ∈ lastLine (Trivia.text gap), isSpace c = true) {c : Char}
    (hc : isSpace c = false) (hsign : c ≠ '#') (rest : List Char) :
    ∃ line, (lines (Trivia.text gap ++ c :: rest)).find? (!isBlankLine ·) = some line ∧
      leadingBlanks line = lastLine (Trivia.text gap) := by
  by_cases hmem : Trivia.blank '\n' ∈ gap
  · obtain ⟨first, others, hsplit, hfirst⟩ := List.eq_append_cons_of_mem hmem
    rw [hsplit] at hgap hindent ⊢
    obtain ⟨hbefore, hbehind⟩ := List.forall_mem_append.1 hgap
    obtain ⟨hfeed, hothers⟩ := List.forall_mem_cons.1 hbehind
    have htext : Trivia.text (first ++ .blank '\n' :: others) =
        Trivia.text first ++ '\n' :: Trivia.text others := by
      rw [Trivia.text_append, Trivia.text_cons]
      rfl
    have hblank : isBlankLine (Trivia.text first ++ ['\n']) = true := by
      have hline := isBlankLine_append (List.forall_mem_append.2 ⟨hbefore,
        List.forall_mem_singleton.2 hfeed⟩) (.inr (Eq.refl []))
      rw [Trivia.text_append, List.append_nil] at hline
      exact hline
    rw [htext, lastLine_append_lineFeed] at hindent ⊢
    rw [List.append_assoc, List.cons_append, lines_append_lineFeed (not_mem_text hbefore hfirst),
      List.find?_cons_of_neg (by simp [hblank])]
    -- The first line is passed over as a blank one, and the gap behind it is shorter.
    exact exists_find?_lines hothers hindent hc hsign rest
  · have hnot := not_mem_text hgap hmem
    have hstart : '\n' ∉ Trivia.text gap ++ [c] := by
      rw [List.mem_append, List.mem_singleton, not_or]
      refine ⟨hnot, ?_⟩
      rintro rfl
      cases hc
    rw [lastLine_eq_self hnot] at hindent ⊢
    obtain ⟨more, others, hlines⟩ := exists_lines_append hstart (by simp) rest
    rw [List.append_assoc, List.singleton_append] at hlines
    rw [hlines, List.append_assoc, List.singleton_append]
    refine ⟨_, List.find?_cons_of_pos ?_, leadingBlanks_append hindent hnot hc⟩
    rw [isBlankLine_append_of_isSpace hindent hnot hc hsign]
    rfl
termination_by gap.length
decreasing_by
  rw [hsplit, List.length_append, List.length_cons]
  omega

theorem beforeLineBreak_append {text rest : List Char} (h : '\n' ∉ text)
    (hseam : rest.head? = some '\n' → text.getLast? ≠ some '\r')
    (hbreak : lineBreakLength rest ≠ 0) : beforeLineBreak (text ++ rest) = text := by
  induction text with
  | nil => exact beforeLineBreak_eq_nil hbreak
  | cons c others ih =>
    rw [List.mem_cons, not_or] at h
    have hzero : lineBreakLength (c :: (others ++ rest)) = 0 := by
      rw [lineBreakLength_cons, if_neg (Ne.symm h.1), if_neg]
      rintro ⟨rfl, hhead⟩
      cases others with
      | nil => exact hseam hhead rfl
      | cons d others => exact h.2 (List.mem_cons.2 (.inl (Option.some.inj hhead).symm))
    rw [List.cons_append, beforeLineBreak_cons hzero, ih h.2]
    intro hhead hlast
    apply hseam hhead
    rw [List.getLast?_cons, hlast]
    rfl

end Text

/-! ### The layout of both texts -/

theorem exists_comment {text : List Char} (h : '\n' ∉ text) (rest : List Char) :
    ∃ gap, Trivia.text gap = '#' :: text ∧ AreRead ('\n' :: rest) (gap.map .trivia) := by
  by_cases hlast : text.getLast? = some '\r'
  · obtain ⟨start, rfl⟩ := List.getLast?_eq_some_iff.1 hlast
    have hstart : '\n' ∉ start := fun hmem => h (List.mem_append_left _ hmem)
    refine ⟨[.comment start, .blank '\r'], rfl, ?_, (rfl : Text.isSpace '\r' = true), trivial⟩
    exact Text.beforeLineBreak_append hstart (fun hhead => nomatch hhead) (Nat.succ_ne_zero 1)
  · refine ⟨[.comment text], List.append_nil _, ?_, trivial⟩
    exact Text.beforeLineBreak_append h (fun _ => hlast) (Nat.succ_ne_zero 0)

theorem AreRead.of_lineFeed {parts : List Piece} (rest : List Char)
    (hcomment : ∀ text, .trivia (.comment text) ∉ parts.getLast?)
    (hclosed : ∀ quote body, .lexeme (.unclosed quote body) ∉ parts.getLast?)
    (h : AreRead [] parts) : AreRead ('\n' :: rest) parts := by
  rcases List.eq_nil_or_concat parts with rfl | ⟨others, piece, rfl⟩
  · exact trivial
  · rw [List.concat_eq_append] at *
    rw [List.getLast?_concat] at hcomment hclosed
    have hpiece : piece.StandsBefore [] := (areRead_append.1 h).2.1
    refine h.of_last (hpiece.of_head ?_ ?_ ?_ ?_) ?_
    · rintro text rfl
      exact hcomment text rfl
    · rintro quote body rfl
      exact hclosed quote body rfl
    · rintro _ ⟨⟩
      decide
    · rintro _ ⟨⟩ hpart
      exact absurd hpart (by decide)
    · rintro - ⟨⟩

namespace Layout

theorem pieces_mk_concat (items : List Item) (first second : List Trivia) :
    pieces ⟨items, first ++ second⟩ = pieces ⟨items, first⟩ ++ second.map .trivia := by
  rw [pieces, List.map_append, ← List.append_assoc]
  rfl

theorem exists_of_mem_getLast? {items : List Item} {piece : Piece}
    (h : piece ∈ (pieces ⟨items, []⟩).getLast?) :
    ∃ item ∈ items, piece = .lexeme item.lexeme := by
  rcases List.eq_nil_or_concat items with rfl | ⟨others, item, rfl⟩
  · cases h
  · rw [List.concat_eq_append, pieces_mk_append, List.getLast?_append] at h
    cases h
    exact ⟨item, by simp, rfl⟩

/-- A text whose quotes are closed is read as before where a line break follows, but for a carriage
return at the end of a comment. -/
theorem exists_areRead_lineFeed {text : List Char} {items : List Item} {tail : List Trivia}
    (hlayout : ofText text = ⟨items, tail⟩)
    (hclosed : ∀ item ∈ items, ∀ quote body, item.lexeme ≠ .unclosed quote body)
    (rest : List Char) :
    ∃ gap, Trivia.text gap = Trivia.text tail ∧ AreRead ('\n' :: rest) (pieces ⟨items, gap⟩) := by
  have hread : AreRead [] (pieces ⟨items, tail⟩) := by
    rw [← hlayout, pieces_ofText]
    exact areRead_pieces text
  rcases List.eq_nil_or_concat tail with rfl | ⟨others, part, rfl⟩
  · refine ⟨[], rfl, hread.of_lineFeed rest ?_ ?_⟩
    · intro text hmem
      obtain ⟨item, -, hlast⟩ := exists_of_mem_getLast? hmem
      cases hlast
    · intro quote body hmem
      obtain ⟨item, hitem, hlast⟩ := exists_of_mem_getLast? hmem
      exact hclosed item hitem quote body (Piece.lexeme.inj hlast).symm
  · rw [List.concat_eq_append] at *
    rw [pieces_mk_concat] at hread
    cases part with
    | blank c =>
      refine ⟨others ++ [.blank c], rfl, ?_⟩
      rw [pieces_mk_concat]
      apply hread.of_lineFeed rest
      · intro text hmem
        rw [List.map_singleton, List.getLast?_concat] at hmem
        cases hmem
      · intro quote body hmem
        rw [List.map_singleton, List.getLast?_concat] at hmem
        cases hmem
    | comment comment =>
      -- A carriage return at the end of the comment belongs to the line break from now on.
      obtain ⟨hfront, hcomment, -⟩ := areRead_append.1 hread
      have hself : Text.beforeLineBreak (comment ++ []) = comment := hcomment
      have hfeed : '\n' ∉ comment := by
        rw [← hself]
        exact Text.not_mem_beforeLineBreak _
      obtain ⟨gap, hgap, hgapRead⟩ := exists_comment hfeed rest
      have htext : Piece.text (gap.map .trivia) = '#' :: comment :=
        (Piece.text_trivia gap).trans hgap
      refine ⟨others ++ gap, ?_, ?_⟩
      · have hsign : Trivia.text [.comment comment] = '#' :: comment := List.append_nil _
        rw [Trivia.text_append, Trivia.text_append, hgap, hsign]
      · rw [pieces_mk_concat, areRead_append, htext]
        exact ⟨hfront.of_cons (fun h => nomatch h), hgapRead⟩

def putBehind (items : List Item) (gap : List Trivia) : Layout → Layout
  | ⟨[], tail⟩ => ⟨items, gap ++ tail⟩
  | ⟨item :: others, tail⟩ => ⟨items ++ { item with gap := gap ++ item.gap } :: others, tail⟩

theorem pieces_putBehind (items : List Item) (gap : List Trivia) (layout : Layout) :
    (layout.putBehind items gap).pieces = pieces ⟨items, gap⟩ ++ layout.pieces := by
  obtain ⟨others, tail⟩ := layout
  cases others with
  | nil => exact pieces_mk_concat items gap tail
  | cons item others =>
    have hfirst : pieces ⟨items, gap⟩ = items.flatMap itemPieces ++ gap.map .trivia := rfl
    rw [putBehind, pieces_mk_append, leadingPieces, pieces_mk_cons, itemPieces, hfirst,
      List.map_append]
    simp only [List.append_assoc, List.singleton_append]

theorem exists_ofText_lineFeed {text : List Char} {items : List Item} {tail : List Trivia}
    (hlayout : ofText text = ⟨items, tail⟩)
    (hclosed : ∀ item ∈ items, ∀ quote body, item.lexeme ≠ .unclosed quote body)
    (second : List Char) :
    ∃ gap, Trivia.text gap = Trivia.text tail ++ ['\n'] ∧
      ofText (text ++ '\n' :: second) = (ofText second).putBehind items gap := by
  obtain ⟨gap, hgap, hread⟩ := exists_areRead_lineFeed hlayout hclosed second
  refine ⟨gap ++ [.blank '\n'], ?_, ?_⟩
  · rw [Trivia.text_append, hgap]
    rfl
  · have hpieces : ((ofText second).putBehind items (gap ++ [.blank '\n'])).pieces =
        pieces ⟨items, gap⟩ ++ .trivia (.blank '\n') :: Offside.pieces second := by
      rw [pieces_putBehind, pieces_mk_concat, pieces_ofText, List.append_assoc]
      rfl
    have hfirst : Piece.text (pieces ⟨items, gap⟩) = text := by
      rw [text_mk, hgap, ← text_mk, ← hlayout, text_ofText]
    have hsecond : Piece.text (.trivia (.blank '\n') :: Offside.pieces second) = '\n' :: second :=
      congrArg ('\n' :: ·) (Piece.text_pieces second)
    have hjoined : AreRead [] ((ofText second).putBehind items (gap ++ [.blank '\n'])).pieces := by
      rw [hpieces, areRead_append, hsecond, List.append_nil]
      exact ⟨hread, (rfl : Text.isSpace '\n' = true), areRead_pieces second⟩
    rw [← ofText_text hjoined, hpieces, Piece.text_append, hfirst, hsecond]

end Layout

/-! ### What the literals are -/

def selected {β : Type} (select : Piece → Option β) (position : Nat) (parts : List Piece) :
    List (β × Span) :=
  (placed position parts).filterMap fun (piece, span) => (select piece).map (·, span)

section Selected

variable {β : Type} {select : Piece → Option β}

theorem selected_append (position : Nat) (first second : List Piece) :
    selected select position (first ++ second) = selected select position first ++
      selected select (position + (Piece.text first).length) second := by
  rw [selected, placed_append, List.filterMap_append]
  rfl

theorem selected_trivia (hselect : ∀ part, select (.trivia part) = none) (position : Nat)
    (gap : List Trivia) : selected select position (gap.map .trivia) = [] := by
  apply filterMap_placed_trivia
  intro part span
  simp only [hselect, Option.map_none]

theorem selected_pieces (hselect : ∀ part, select (.trivia part) = none) (position : Nat)
    (items : List Item) (tail : List Trivia) :
    selected select position (Layout.pieces ⟨items, tail⟩) =
      selected select position (items.flatMap Layout.itemPieces) := by
  rw [Layout.pieces, selected_append, selected_trivia hselect, List.append_nil]

theorem selected_add (position count : Nat) (parts : List Piece) :
    selected select (position + count) parts =
      (selected select position parts).map fun (value, span) => (value, span.shift count) := by
  induction parts generalizing position with
  | nil => rfl
  | cons piece rest ih =>
    have hrest := ih (position + piece.length)
    rw [Nat.add_right_comm] at hrest
    unfold selected at hrest ⊢
    rw [placed, placed, List.filterMap_cons, List.filterMap_cons, hrest]
    cases hvalue : select piece with
    | none => simp only [hvalue, Option.map_none]
    | some value =>
      simp only [hvalue, Option.map_some, List.map_cons, Span.shift, Nat.add_right_comm]

end Selected

theorem selected_putBehind {β : Type} {select : Piece → Option β}
    (hselect : ∀ part, select (.trivia part) = none) {items : List Item} {gap : List Trivia}
    {count : Nat} (hposition : (Cursor.behind {} items).position + (Trivia.text gap).length = count)
    (tail : List Trivia) (layout : Layout) :
    selected select 0 (layout.putBehind items gap).pieces =
      selected select 0 (Layout.pieces ⟨items, tail⟩) ++
        (selected select 0 layout.pieces).map fun (value, span) => (value, span.shift count) := by
  have hlength : (Piece.text (Layout.pieces ⟨items, gap⟩)).length = count := by
    rw [← hposition, Cursor.position_behind, Layout.text_mk, List.length_append]
    exact congrArg (· + _) (Nat.zero_add _).symm
  rw [Layout.pieces_putBehind, selected_append, selected_add, hlength,
    selected_pieces hselect 0 items gap, selected_pieces hselect 0 items tail]

section Layout

variable {source : String} {layout : Layout}

theorem map_literals_of_layout (options : Options) (h : Layout.ofText source.toList = layout) :
    ((tokenize source options).literals.map fun token => (token.kind, token.content)) =
      selected Piece.kind? 0 layout.pieces := by
  rw [literals_of_layout options h]
  exact map_filter_tokensFrom layout.tail {} layout.items

theorem errors_eq_map_selected (options : Options) (h : Layout.ofText source.toList = layout) :
    (tokenize source options).errors =
      (selected Piece.fault? 0 layout.pieces).map fun (fault, span) => ⟨fault, span⟩ := by
  have herrors := map_filter_diagnosticsFrom options layout.tail {} layout.items
  rw [← errors_of_layout options h] at herrors
  rw [selected, ← herrors, List.map_map]
  exact (List.map_id _).symm

end Layout

/-! ### What the levels are -/

theorem Indentation.Gauge.enter_zero (gauge : Gauge) (run : Nat) :
    gauge.enter 0 run = (.level gauge.level 0, { gauge with level := 0 }) := if_pos rfl

namespace Item

variable {item : Item}

theorem measure_start (h : Indentation.width (Text.lastLine item.text) = 0) :
    item.measure {} = (.blank, {}) ∨ item.measure {} = (.level 0 0, {}) := by
  unfold measure
  split_ifs
  · rw [h, Gauge.enter_zero]
    exact .inr rfl
  · exact .inl rfl

theorem measure_lineFeed {before : List Char} {gap : List Trivia}
    (hgap : Trivia.text gap = before ++ ['\n'])
    (h : Indentation.width (Text.lastLine item.text) = 0) (gauge : Gauge) :
    measure { item with gap := gap ++ item.gap } gauge =
      (.level gauge.level 0, { gauge with level := 0 }) := by
  have htext : text { item with gap := gap ++ item.gap } = before ++ '\n' :: item.text := by
    rw [text, Trivia.text_append, hgap, List.append_assoc]
    rfl
  rw [measure, htext, if_pos (List.mem_append_right _ List.mem_cons_self),
    Text.lastLine_append_lineFeed, h, Gauge.enter_zero]

end Item

theorem width_lastLine_of_startsFlush {text : List Char} (h : Text.StartsFlush text) :
    ∀ item ∈ (Layout.ofText text).items.head?,
      Indentation.width (Text.lastLine item.text) = 0 := by
  intro item hmem
  obtain ⟨items, tail, hlayout⟩ :
      ∃ items tail, Layout.ofText text = ⟨item :: items, tail⟩ := by
    obtain ⟨items, hitems⟩ := List.head?_eq_some_iff.1 hmem
    exact ⟨items, (Layout.ofText text).tail, by rw [← hitems]⟩
  have hvalid := Layout.isValid_ofText text
  rw [hlayout] at hvalid
  have hitem := hvalid.items item List.mem_cons_self
  obtain ⟨c, others, hchars, hc, hsign⟩ := hitem.lexeme
  have htext : text = item.text ++ c :: (others ++ Piece.text (Layout.pieces ⟨items, tail⟩)) := by
    conv_lhs => rw [← Layout.text_ofText text]
    rw [hlayout, Layout.pieces_mk_cons, Piece.text_append, Piece.text_itemPieces, hchars,
      List.append_assoc]
    rfl
  obtain ⟨line, hline, hblanks⟩ := Text.exists_find?_lines hitem.gap hitem.indent hc hsign
    (others ++ Piece.text (Layout.pieces ⟨items, tail⟩))
  have hwidth := h line (by rw [htext]; exact hline)
  rw [hblanks] at hwidth
  exact hwidth

namespace Cursor

variable {cursor : Cursor} {item : Item} {before : List Char} {gap : List Trivia} {count : Nat}

theorem start_lineFeed (hposition : cursor.position + (Trivia.text gap).length = count) :
    cursor.start { item with gap := gap ++ item.gap } = start {} item + count := by
  have htext : Item.text { item with gap := gap ++ item.gap } = Trivia.text gap ++ item.text :=
    Trivia.text_append gap item.gap
  have hstart : start {} item = item.text.length := Nat.zero_add _
  rw [start, htext, List.length_append, hstart]
  omega

theorem matches_next_lineFeed (hgap : Trivia.text gap = before ++ ['\n'])
    (hposition : cursor.position + (Trivia.text gap).length = count)
    (hwidth : Indentation.width (Text.lastLine item.text) = 0) :
    Matches count (next {} item) (cursor.next { item with gap := gap ++ item.gap }) := by
  constructor
  · simp only [next, start_lineFeed hposition]
    omega
  · have hlater : (cursor.next { item with gap := gap ++ item.gap }).gauge =
        { cursor.gauge with level := 0 } :=
      congrArg Prod.snd (Item.measure_lineFeed hgap hwidth cursor.gauge)
    have hfirst : (next {} item).gauge = {} := by
      rcases Item.measure_start hwidth with h | h <;> exact congrArg Prod.snd h
    rw [hlater, hfirst]
    exact ⟨rfl, fun hne => absurd rfl hne⟩

theorem outlines_lineFeed (hgap : Trivia.text gap = before ++ ['\n'])
    (hposition : cursor.position + (Trivia.text gap).length = count)
    (hwidth : Indentation.width (Text.lastLine item.text) = 0) :
    cursor.outlines { item with gap := gap ++ item.gap } =
      levelOutlines cursor.gauge.level 0 ++ (outlines {} item).map (·.shift count) := by
  have hfirst : (item.measure {}).1.outlines = [] := by
    rcases Item.measure_start hwidth with h | h <;> rw [h] <;> rfl
  rw [outlines_eq, outlines_eq, Item.measure_lineFeed hgap hwidth, start_lineFeed hposition,
    (matches_next_lineFeed hgap hposition hwidth).position, hfirst]
  cases item.lexeme.reading <;> rfl

theorem warnings_lineFeed (hgap : Trivia.text gap = before ++ ['\n'])
    (hwidth : Indentation.width (Text.lastLine item.text) = 0) (options : Options) :
    cursor.warnings { item with gap := gap ++ item.gap } options = [] ∧
      warnings {} item options = [] := by
  constructor
  · rw [warnings, Item.measure_lineFeed hgap hwidth]
    rfl
  · rcases Item.measure_start hwidth with h | h <;> rw [warnings, h] <;> rfl

theorem fault?_lineFeed (hgap : Trivia.text gap = before ++ ['\n'])
    (hposition : cursor.position + (Trivia.text gap).length = count)
    (hwidth : Indentation.width (Text.lastLine item.text) = 0) :
    cursor.fault? { item with gap := gap ++ item.gap } =
      (fault? {} item).map (·.shift count) := by
  have hposition := (matches_next_lineFeed hgap hposition hwidth).position
  have hlexeme : (Item.mk (gap ++ item.gap) item.lexeme).lexeme.reading = item.lexeme.reading := rfl
  cases hreading : item.lexeme.reading with
  | ok kind =>
    rw [fault?_of_ok _ hreading, fault?_of_ok _ (hlexeme.trans hreading)]
    rfl
  | error fault =>
    rw [fault?_of_error _ hreading, fault?_of_error _ (hlexeme.trans hreading),
      start_lineFeed ‹_›, hposition]
    rfl

end Cursor

/-! ### Both texts together -/

namespace Layout

variable {items : List Item} {gap : List Trivia} {before : List Char} {count : Nat}
  {layout : Layout}

theorem outlines_putBehind (tail : List Trivia) (hgap : Trivia.text gap = before ++ ['\n'])
    (hposition : (Cursor.behind {} items).position + (Trivia.text gap).length = count)
    (hwidth : ∀ item ∈ layout.items.head?, Indentation.width (Text.lastLine item.text) = 0) :
    (layout.putBehind items gap).outlines =
      outlines ⟨items, tail⟩ ++ layout.outlines.map (·.shift count) := by
  obtain ⟨others, rest⟩ := layout
  cases others with
  | nil => exact (List.append_nil _).symm
  | cons item others =>
    have hitem := hwidth item rfl
    have hmatches := Cursor.matches_next_lineFeed hgap hposition hitem
    have hlevel := (hmatches.behind others).gauge.level
    have hsecond : (outlines ⟨item :: others, rest⟩).map (·.shift count) =
        (Cursor.outlines {} item).map (·.shift count) ++
          ((outlinesFrom (Cursor.next {} item) others).map (·.shift count) ++
            levelOutlines ((Cursor.next {} item).behind others).gauge.level 0) := by
      rw [outlines, outlinesFrom, List.map_append, List.map_append, map_shift_levelOutlines,
        List.append_assoc]
      rfl
    rw [hsecond, hlevel, putBehind, outlines, outlinesFrom_append, Cursor.behind_append,
      outlinesFrom, Cursor.outlines_lineFeed hgap hposition hitem, hmatches.outlinesFrom, outlines]
    simp only [List.append_assoc]
    rfl

theorem diagnosticsFrom_putBehind (options : Options) (hgap : Trivia.text gap = before ++ ['\n'])
    (hposition : (Cursor.behind {} items).position + (Trivia.text gap).length = count)
    (hwidth : ∀ item ∈ layout.items.head?, Indentation.width (Text.lastLine item.text) = 0) :
    diagnosticsFrom options {} (layout.putBehind items gap).items =
      diagnosticsFrom options {} items ++
        (diagnosticsFrom options {} layout.items).map (·.shift count) := by
  obtain ⟨others, rest⟩ := layout
  cases others with
  | nil => exact (List.append_nil _).symm
  | cons item others =>
    have hitem := hwidth item rfl
    have hmatches := Cursor.matches_next_lineFeed hgap hposition hitem
    obtain ⟨hlater, hfirst⟩ := Cursor.warnings_lineFeed hgap hitem options
    have hfault := Cursor.fault?_lineFeed hgap hposition hitem
    rw [putBehind, diagnosticsFrom_append, diagnosticsFrom, diagnosticsFrom, hlater, hfirst,
      hfault, hmatches.diagnosticsFrom, List.nil_append, List.nil_append, List.map_append]
    cases Cursor.fault? {} item <;> rfl

end Layout

theorem exists_diagnostic_of_mem {items : List Item} {item : Item} {fault : Fault}
    (hmem : item ∈ items) (h : item.lexeme.reading = .error fault) (options : Options)
    (cursor : Cursor) :
    ∃ diagnostic ∈ diagnosticsFrom options cursor items, diagnostic.fault = fault := by
  induction items generalizing cursor with
  | nil => cases hmem
  | cons first items ih =>
    rw [diagnosticsFrom]
    rcases List.mem_cons.1 hmem with rfl | hrest
    · have hfault := cursor.fault?_of_error h
      exact ⟨⟨fault, _⟩, List.mem_append_left _ (List.mem_append_right _
        (Option.mem_toList.2 hfault)), rfl⟩
    · obtain ⟨diagnostic, hdiagnostic, heq⟩ := ih hrest (cursor.next first)
      exact ⟨diagnostic, List.mem_append_right _ hdiagnostic, heq⟩

/-- What is found in two texts with a line break between them, where the second one starts `count`
characters behind the start of the first one. -/
structure Findings.IsJoinOf (joined first second : Findings) (count : Nat) (flush : Prop) :
    Prop where
  literals : (joined.literals.map fun token => (token.kind, token.content)) =
    (first.literals.map fun token => (token.kind, token.content)) ++
      second.literals.map fun token => (token.kind, token.content.shift count)
  errors : joined.errors = first.errors ++ second.errors.map (·.shift count)
  kinds : flush → joined.tokens.map (·.kind) =
    first.tokens.map (·.kind) ++ second.tokens.map (·.kind)
  diagnostics : flush →
    joined.diagnostics = first.diagnostics ++ second.diagnostics.map (·.shift count)

theorem ne_unclosed_of_diagnostics {source : String} {options : Options} {items : List Item}
    {tail : List Trivia} (hlayout : Layout.ofText source.toList = ⟨items, tail⟩)
    (hclosed : ∀ diagnostic ∈ (tokenize source options).diagnostics,
      diagnostic.fault ≠ .unterminatedString ∧ diagnostic.fault ≠ .unterminatedRune) :
    ∀ item ∈ items, ∀ quote body, item.lexeme ≠ .unclosed quote body := by
  intro item hitem quote body hlexeme
  have hreading : item.lexeme.reading = .error (Literal.unterminated quote) := by
    rw [hlexeme]
    rfl
  obtain ⟨diagnostic, hdiagnostic, hfault⟩ := exists_diagnostic_of_mem hitem hreading options {}
  rw [Layout.diagnostics_tokenize options hlayout] at hclosed
  obtain ⟨hstring, hrune⟩ := hclosed diagnostic hdiagnostic
  cases quote with
  | double => exact hstring hfault
  | single => exact hrune hfault

/-- Where a text without open quotes ends, another one can start in a new line: each has the
literals that it has alone. -/
theorem isJoinOf_tokenize (first second : String) (options : Options)
    (hclosed : ∀ diagnostic ∈ (tokenize first options).diagnostics,
      diagnostic.fault ≠ .unterminatedString ∧ diagnostic.fault ≠ .unterminatedRune) :
    (tokenize (first ++ "\n" ++ second) options).IsJoinOf (tokenize first options)
      (tokenize second options) (first.toList.length + 1) (Text.StartsFlush second.toList) := by
  obtain ⟨items, tail, hfirst⟩ : ∃ items tail, Layout.ofText first.toList = ⟨items, tail⟩ :=
    ⟨_, _, rfl⟩
  obtain ⟨gap, hgap, hjoined⟩ := Layout.exists_ofText_lineFeed hfirst
    (ne_unclosed_of_diagnostics hfirst hclosed) second.toList
  have htext : (first ++ "\n" ++ second).toList = first.toList ++ '\n' :: second.toList := by
    rw [String.toList_append, String.toList_append, List.append_assoc]
    rfl
  rw [← htext] at hjoined
  have hposition : (Cursor.behind {} items).position + (Trivia.text gap).length =
      first.toList.length + 1 := by
    rw [← Layout.position_add_tail hfirst, hgap, List.length_append, ← Nat.add_assoc]
    rfl
  refine ⟨?literals, ?errors, ?kinds, ?diagnostics⟩
  case literals =>
    rw [map_literals_of_layout options hjoined, map_literals_of_layout options hfirst,
      selected_putBehind (fun _ => rfl) hposition tail, ← map_literals_of_layout options rfl,
      List.map_map]
    rfl
  case errors =>
    rw [errors_eq_map_selected options hjoined, errors_eq_map_selected options hfirst,
      errors_eq_map_selected options (Eq.refl (Layout.ofText second.toList)),
      selected_putBehind (fun _ => rfl) hposition tail, List.map_append, List.map_map,
      List.map_map]
    rfl
  case kinds =>
    intro hflush
    have houtlines := Layout.outlines_putBehind tail hgap hposition
      (width_lastLine_of_startsFlush hflush)
    rw [← Layout.outlines_tokenize options hjoined, ← Layout.outlines_tokenize options hfirst,
      ← Layout.outlines_tokenize options rfl] at houtlines
    have hkinds := congrArg (List.map Outline.kind) houtlines
    simp only [Findings.outlines, List.map_append, List.map_map] at hkinds
    exact hkinds
  case diagnostics =>
    intro hflush
    rw [Layout.diagnostics_tokenize options hjoined, Layout.diagnostics_tokenize options hfirst,
      Layout.diagnostics_tokenize options rfl,
      Layout.diagnosticsFrom_putBehind options hgap hposition
        (width_lastLine_of_startsFlush hflush)]

/-- The carriage return that ends the first text is part of the line break, and the level that is
open in it is closed before the second text. -/
theorem isJoinOf_comment :
    Text.StartsFlush " \n]".toList ∧ (tokenize "(\n  [ #\r").diagnostics = [] ∧
      (tokenize "(\n  [ #\r\n \n]").tokens.map (·.kind) =
        [.symbol .openParen, .indentation .indent, .symbol .openBracket, .indentation .dedent] ++
          [.symbol .closeBracket] := by
  have hflush : Text.StartsFlush " \n]".toList := by
    unfold Text.StartsFlush
    decide +kernel
  have hnone : (tokenize "(\n  [ #\r").diagnostics = [] := by
    decide +kernel
  have hclosed : ∀ diagnostic ∈ (tokenize "(\n  [ #\r").diagnostics,
      diagnostic.fault ≠ .unterminatedString ∧ diagnostic.fault ≠ .unterminatedRune := by
    rw [hnone]
    exact List.forall_mem_nil _
  have hkinds := (isJoinOf_tokenize "(\n  [ #\r" " \n]" {} hclosed).kinds hflush
  refine ⟨hflush, hnone, hkinds.trans ?_⟩
  decide +kernel

end Offside
