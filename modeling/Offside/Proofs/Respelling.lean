import Mathlib.Data.List.Basic
import Mathlib.Data.List.Forall2
import Offside.Proofs.Join
import Offside.Proofs.Slice

/-!
# Other spellings of the trivia

What lies between two literals says no more than whether the second one starts a line, and how wide
its indentation is. So where blanks and comments are spelled in another way, and no line with a
literal gets another width, the kinds and the texts of the literals, the changes of indentation and
the faults are as before. Only the spans move.
-/

namespace Offside

open Indentation (Gauge Reading)
open Text (Quote)

/-- Who looks at no trivia and no span finds the same in the second text as in the first one. -/
structure ReadAlike (options : Options) (first second : String) : Prop where
  kinds : (tokenize second options).tokens.map (·.kind) =
    (tokenize first options).tokens.map (·.kind)
  texts : (tokenize second options).literals.map (·.content.slice second.toList) =
    (tokenize first options).literals.map (·.content.slice first.toList)
  faults : (tokenize second options).diagnostics.map (·.fault) =
    (tokenize first options).diagnostics.map (·.fault)

/-! ### Lines of the same width -/

namespace Indentation

theorem width_append (first second : List Char) :
    width (first ++ second) = width first + width second := by
  unfold width
  rw [List.count_append, List.count_append]
  omega

def Reading.fault? : Reading → Option Fault
  | ambiguous width unit _ => some (.ambiguousIndentation width unit)
  | blank => none
  | level _ _ => none

theorem Reading.map_fault_diagnostics (reading : Reading) (options : Options) (position : Nat) :
    (reading.diagnostics options position).map (·.fault) =
      if options.warnAmbiguous then reading.fault?.toList else [] := by
  cases reading with
  | blank => simp [diagnostics, fault?]
  | level previous current => simp [diagnostics, fault?]
  | ambiguous width unit run =>
    unfold diagnostics
    split_ifs <;> rfl

structure Reading.Agrees (first second : Reading) : Prop where
  outlines : second.outlines = first.outlines
  fault : second.fault? = first.fault?

theorem Gauge.enter_agrees (gauge : Gauge) (width first second : Nat) :
    (gauge.enter width first).1.Agrees (gauge.enter width second).1 ∧
      (gauge.enter width second).2 = (gauge.enter width first).2 := by
  unfold enter
  split_ifs <;> exact ⟨⟨rfl, rfl⟩, rfl⟩

end Indentation

structure Item.IsLike (first second : Item) : Prop where
  lexeme : second.lexeme = first.lexeme
  feed : '\n' ∈ second.text ↔ '\n' ∈ first.text
  width : Indentation.width (Text.lastLine second.text) =
    Indentation.width (Text.lastLine first.text)

section Alike

variable {first second : Item} {items others : List Item} {cursor other : Cursor}

theorem Item.IsLike.measure (h : first.IsLike second) (gauge : Gauge) :
    (first.measure gauge).1.Agrees (second.measure gauge).1 ∧
      (second.measure gauge).2 = (first.measure gauge).2 := by
  unfold Item.measure
  by_cases hfeed : '\n' ∈ first.text
  · rw [if_pos hfeed, if_pos (h.feed.2 hfeed), h.width]
    exact gauge.enter_agrees _ _ _
  · rw [if_neg hfeed, if_neg (mt h.feed.1 hfeed)]
    exact ⟨⟨rfl, rfl⟩, rfl⟩

namespace Cursor

theorem gauge_next_of_isLike (hgauge : other.gauge = cursor.gauge) (h : first.IsLike second) :
    (other.next second).gauge = (cursor.next first).gauge := by
  show (second.measure other.gauge).2 = (first.measure cursor.gauge).2
  rw [hgauge, (h.measure cursor.gauge).2]

theorem kinds_of_isLike (hgauge : other.gauge = cursor.gauge) (h : first.IsLike second) :
    (other.outlines second).map (·.kind) = (cursor.outlines first).map (·.kind) := by
  have hchanges := (h.measure cursor.gauge).1.outlines
  rw [outlines_eq, outlines_eq, hgauge, h.lexeme, hchanges, List.map_append, List.map_append]
  cases first.lexeme.reading <;> rfl

theorem map_fault_fault? (cursor : Cursor) (item : Item) :
    ((cursor.fault? item).toList).map (·.fault) = (Piece.lexeme item.lexeme).fault?.toList := by
  cases hreading : item.lexeme.reading with
  | ok kind =>
    rw [cursor.fault?_of_ok hreading, Piece.fault?_of_ok hreading]
    rfl
  | error fault =>
    rw [cursor.fault?_of_error hreading, Piece.fault?_of_error hreading]
    rfl

theorem faults_of_isLike (hgauge : other.gauge = cursor.gauge) (h : first.IsLike second)
    (options : Options) :
    (other.warnings second options ++ (other.fault? second).toList).map (·.fault) =
      (cursor.warnings first options ++ (cursor.fault? first).toList).map (·.fault) := by
  have hfault := (h.measure cursor.gauge).1.fault
  rw [List.map_append, List.map_append, map_fault_fault?, map_fault_fault?, warnings, warnings,
    Reading.map_fault_diagnostics, Reading.map_fault_diagnostics, hgauge, h.lexeme, hfault]

end Cursor

theorem kinds_outlinesFrom (h : List.Forall₂ Item.IsLike items others)
    (hgauge : other.gauge = cursor.gauge) :
    (outlinesFrom other others).map (·.kind) = (outlinesFrom cursor items).map (·.kind) ∧
      (other.behind others).gauge = (cursor.behind items).gauge := by
  induction h generalizing cursor other with
  | nil => exact ⟨rfl, hgauge⟩
  | cons hitem _ ih =>
    obtain ⟨hkinds, hbehind⟩ := ih (Cursor.gauge_next_of_isLike hgauge hitem)
    refine ⟨?_, hbehind⟩
    rw [outlinesFrom, outlinesFrom, List.map_append, List.map_append, hkinds,
      Cursor.kinds_of_isLike hgauge hitem]

theorem faults_diagnosticsFrom (h : List.Forall₂ Item.IsLike items others)
    (hgauge : other.gauge = cursor.gauge) (options : Options) :
    (diagnosticsFrom options other others).map (·.fault) =
      (diagnosticsFrom options cursor items).map (·.fault) := by
  induction h generalizing cursor other with
  | nil => rfl
  | cons hitem _ ih =>
    rw [diagnosticsFrom, diagnosticsFrom, List.map_append, Cursor.faults_of_isLike hgauge hitem,
      ih (Cursor.gauge_next_of_isLike hgauge hitem), ← List.map_append]

end Alike

/-! ### The texts of the literals -/

theorem map_slice_selected {β : Type} (select : Piece → Option β) (before : List Char)
    (parts : List Piece) :
    (selected select before.length parts).map
        (fun (value, span) => (value, span.slice (before ++ Piece.text parts))) =
      parts.filterMap fun piece => (select piece).map (·, piece.chars) := by
  induction parts generalizing before with
  | nil => rfl
  | cons piece rest ih =>
    have hlength : before.length + piece.length = (before ++ piece.chars).length := by
      rw [List.length_append]
      rfl
    have htext : before ++ Piece.text (piece :: rest) = before ++ piece.chars ++ Piece.text rest :=
      (List.append_assoc _ _ _).symm
    have hslice : Span.slice ⟨before.length, before.length + piece.length⟩
        (before ++ Piece.text (piece :: rest)) = piece.chars :=
      Span.slice_append (Piece.text rest) rfl rfl
    have hrest := ih (before ++ piece.chars)
    rw [← htext, ← hlength] at hrest
    unfold selected at hrest ⊢
    rw [placed, List.filterMap_cons, List.filterMap_cons]
    cases hvalue : select piece with
    | none => simpa only [hvalue, Option.map_none] using hrest
    | some value =>
      simp only [hvalue, Option.map_some, List.map_cons, hslice]
      exact congrArg (List.cons _) hrest

theorem map_slice_literals (source : String) (options : Options) :
    ((tokenize source options).literals.map fun token =>
        (token.kind, token.content.slice source.toList)) =
      (pieces source.toList).filterMap fun piece => piece.kind?.map (·, piece.chars) := by
  have hpairs := congrArg
    (List.map fun (kind, span) => (kind, Span.slice span source.toList))
    (map_literals_of_layout options (Eq.refl (Layout.ofText source.toList)))
  have hslices := map_slice_selected Piece.kind? [] (pieces source.toList)
  rw [List.nil_append, Piece.text_pieces] at hslices
  rw [List.map_map, Layout.pieces_ofText] at hpairs
  exact hpairs.trans hslices

/-! ### Spellings -/

/-- A way to spell trivia: white space in the place of each blank, and another text in the place of
a comment, or nothing. What takes the place of a line feed ends with one, and nothing else takes a
line apart or makes its indentation wider. -/
structure Spelling where
  blanks : Char → List Char
  comment? : List Char → Option (List Char)
  blanks_ne_nil (c : Char) : blanks c ≠ []
  isSpace_of_mem {c d : Char} : Text.isSpace c = true → d ∈ blanks c → Text.isSpace d = true
  lineFeed : ∃ before, blanks '\n' = before ++ ['\n']
  not_mem_blanks {c : Char} : c ≠ '\n' → '\n' ∉ blanks c
  width_blanks {c : Char} : c ≠ '\n' → Indentation.width (blanks c) = Indentation.width [c]
  not_mem_comment {text other : List Char} : other ∈ comment? text → '\n' ∉ text → '\n' ∉ other

namespace Spelling

variable (spelling : Spelling)

def trivia : Trivia → List Trivia
  | .blank c => (spelling.blanks c).map .blank
  | .comment text => (spelling.comment? text).toList.map .comment

def gap (parts : List Trivia) : List Trivia := parts.flatMap spelling.trivia

def item (item : Item) : Item := { item with gap := spelling.gap item.gap }

def layout (layout : Layout) : Layout :=
  ⟨layout.items.map spelling.item, spelling.gap layout.tail⟩

def piece : Piece → List Piece
  | .trivia part => (spelling.trivia part).map .trivia
  | .lexeme part => [.lexeme part]

def pieces (parts : List Piece) : List Piece := parts.flatMap spelling.piece

def text (source : List Char) : List Char := Piece.text (spelling.pieces (Offside.pieces source))

theorem pieces_trivia (parts : List Trivia) :
    spelling.pieces (parts.map .trivia) = (spelling.gap parts).map .trivia := by
  rw [pieces, gap, List.flatMap_map, List.map_flatMap]
  rfl

theorem pieces_itemPieces (item : Item) :
    spelling.pieces (Layout.itemPieces item) = Layout.itemPieces (spelling.item item) := by
  rw [Layout.itemPieces, pieces, List.flatMap_append, ← pieces, pieces_trivia]
  rfl

theorem pieces_layout (layout : Layout) :
    (spelling.layout layout).pieces = spelling.pieces layout.pieces := by
  have hitems : (layout.items.map spelling.item).flatMap Layout.itemPieces =
      spelling.pieces (layout.items.flatMap Layout.itemPieces) := by
    rw [pieces, List.flatMap_map, List.flatMap_assoc]
    exact List.flatMap_congr fun item _ => (spelling.pieces_itemPieces item).symm
  rw [Layout.pieces, Layout.pieces, Spelling.layout, hitems, ← pieces_trivia]
  exact List.flatMap_append.symm

/-! ### A line is as wide in the other spelling -/

theorem text_trivia_blank (c : Char) :
    Trivia.text (spelling.trivia (.blank c)) = spelling.blanks c := by
  rw [trivia, Trivia.text, List.flatMap_map]
  exact List.flatMap_singleton' _

theorem text_gap_cons (part : Trivia) (rest : List Trivia) :
    Trivia.text (spelling.gap (part :: rest)) =
      Trivia.text (spelling.trivia part) ++ Trivia.text (spelling.gap rest) := by
  rw [gap, List.flatMap_cons, Trivia.text_append]
  rfl

theorem lineFeed_mem_trivia {part : Trivia} (hpart : part.IsValid) :
    '\n' ∈ Trivia.text (spelling.trivia part) ↔ '\n' ∈ part.chars := by
  cases part with
  | blank c =>
    rw [text_trivia_blank, Trivia.chars, List.mem_singleton]
    constructor
    · intro hmem
      by_contra hc
      exact spelling.not_mem_blanks (Ne.symm hc) hmem
    · rintro rfl
      obtain ⟨before, hblanks⟩ := spelling.lineFeed
      rw [hblanks]
      exact List.mem_append_right _ (List.mem_singleton.2 rfl)
  | comment text =>
    have hnot : '\n' ∉ (Trivia.comment text).chars :=
      Trivia.not_mem_chars hpart Trivia.noConfusion
    refine iff_of_false ?_ hnot
    intro hmem
    obtain ⟨part, hother, hfeed⟩ := List.mem_flatMap.1 hmem
    obtain ⟨other, hsome, rfl⟩ := List.mem_map.1 hother
    rcases List.mem_cons.1 hfeed with hsign | hbody
    · cases hsign
    · exact spelling.not_mem_comment (Option.mem_toList.1 hsome) hpart hbody

theorem lineFeed_mem_gap {parts : List Trivia} (hparts : ∀ part ∈ parts, part.IsValid) :
    '\n' ∈ Trivia.text (spelling.gap parts) ↔ '\n' ∈ Trivia.text parts := by
  induction parts with
  | nil => rfl
  | cons part rest ih =>
    obtain ⟨hpart, hrest⟩ := List.forall_mem_cons.1 hparts
    rw [text_gap_cons, Trivia.text_cons, List.mem_append, List.mem_append,
      spelling.lineFeed_mem_trivia hpart, ih hrest]

theorem width_lastLine_gap {parts : List Trivia} (hparts : ∀ part ∈ parts, part.IsValid)
    (hindent : ∀ c ∈ Text.lastLine (Trivia.text parts), Text.isSpace c = true) :
    Indentation.width (Text.lastLine (Trivia.text (spelling.gap parts))) =
      Indentation.width (Text.lastLine (Trivia.text parts)) := by
  -- The last line starts behind the last line feed of the gap, from where there are blanks alone.
  induction parts with
  | nil => rfl
  | cons part rest ih =>
    obtain ⟨hpart, hrest⟩ := List.forall_mem_cons.1 hparts
    have hfeed := spelling.lineFeed_mem_gap hrest
    rw [text_gap_cons]
    rw [Trivia.text_cons] at hindent ⊢
    by_cases hmem : '\n' ∈ Trivia.text rest
    · rw [Text.lastLine_append hmem] at hindent ⊢
      rw [Text.lastLine_append (hfeed.2 hmem), ih hrest hindent]
    · have hnot := mt hfeed.1 hmem
      cases part with
      | comment text =>
        -- The number sign would stand in front of the literal, in the same line.
        have hnone : '\n' ∉ (Trivia.comment text).chars ++ Trivia.text rest := by
          rw [List.mem_append, not_or]
          exact ⟨Trivia.not_mem_chars hpart Trivia.noConfusion, hmem⟩
        rw [Text.lastLine_eq_self hnone] at hindent
        exact absurd (hindent '#' List.mem_cons_self) (by decide)
      | blank c =>
        rw [text_trivia_blank]
        by_cases hc : c = '\n'
        · subst hc
          obtain ⟨before, hblanks⟩ := spelling.lineFeed
          have hline : Text.lastLine ((Trivia.blank '\n').chars ++ Trivia.text rest) =
              Text.lastLine (Trivia.text rest) := Text.lastLine_append_lineFeed [] _
          rw [hline] at hindent ⊢
          rw [hblanks, List.append_assoc, List.singleton_append, Text.lastLine_append_lineFeed,
            ih hrest hindent]
        · have hnone : '\n' ∉ [c] ++ Trivia.text rest := by
            rw [List.mem_append, List.mem_singleton, not_or]
            exact ⟨Ne.symm hc, hmem⟩
          have hother : '\n' ∉ spelling.blanks c ++ Trivia.text (spelling.gap rest) := by
            rw [List.mem_append, not_or]
            exact ⟨spelling.not_mem_blanks hc, hnot⟩
          have hwidth := ih hrest
          rw [Text.lastLine_eq_self hmem, Text.lastLine_eq_self hnot] at hwidth
          rw [Trivia.chars, Text.lastLine_eq_self hnone] at hindent ⊢
          rw [Text.lastLine_eq_self hother, Indentation.width_append, Indentation.width_append,
            spelling.width_blanks hc, hwidth (List.forall_mem_append.1 hindent).2]

theorem isLike_item {item : Item} (hitem : item.IsValid) : item.IsLike (spelling.item item) where
  lexeme := rfl
  feed := spelling.lineFeed_mem_gap hitem.gap
  width := spelling.width_lastLine_gap hitem.gap hitem.indent

end Spelling

/-! ### Literals before trivia in the other spelling -/

/-- The second text starts with the same character, or with white space, or it has ended too. -/
structure Text.StartsLike (first second : List Char) : Prop where
  nil : first = [] → second = []
  head : ∀ d ∈ second.head?, d ∈ first.head? ∨ isSpace d = true

namespace Text.StartsLike

variable {first second : List Char}

theorem append {chars : List Char} (hne : chars ≠ []) :
    StartsLike (chars ++ first) (chars ++ second) := by
  obtain ⟨c, others, rfl⟩ := List.exists_cons_of_ne_nil hne
  exact ⟨fun h => absurd h (List.cons_ne_nil _ _), fun d hd => .inl hd⟩

theorem of_isSpace (hne : first ≠ []) (h : ∀ d ∈ second.head?, isSpace d = true) :
    StartsLike first second :=
  ⟨fun hnil => absurd hnil hne, fun d hd => .inr (h d hd)⟩

end Text.StartsLike

theorem Symbol.isGlyph_of_isSpace {c : Char} (h : Text.isSpace c = true) : isGlyph c = false := by
  simp only [Text.isSpace, Bool.or_eq_true, beq_iff_eq] at h
  rcases h with ((rfl | rfl) | rfl) | rfl <;> decide

/-- What stands behind a literal touches it by its first character only. White space never goes on
with it. -/
theorem Lexeme.StandsBefore.of_startsLike {lexeme : Lexeme} {first second : List Char}
    (hstarts : Text.StartsLike first second) (h : lexeme.StandsBefore first) :
    lexeme.StandsBefore second := by
  cases lexeme with
  | word letter rest =>
    refine ⟨h.1, ?_⟩
    intro d hd
    rcases hstarts.head d hd with hsame | hspace
    · exact h.2 d hsame
    · simp [Text.isWordPart, hspace]
  | symbol mark =>
    intro d hd other hother
    rcases hstarts.head d hd with hsame | hspace
    · exact h d hsame other hother
    · have hmem : d ∈ other.chars := by
        rw [hother]
        exact List.mem_append_right _ List.mem_cons_self
      have hglyph := Symbol.isGlyph_of_mem hmem
      rw [Symbol.isGlyph_of_isSpace hspace] at hglyph
      cases hglyph
  | quoted quote body => exact h
  | unclosed quote body => exact ⟨h.1, hstarts.nil h.2⟩

namespace Spelling

variable (spelling : Spelling)

theorem text_pieces_cons (piece : Piece) (rest : List Piece) :
    Piece.text (spelling.pieces (piece :: rest)) =
      Piece.text (spelling.piece piece) ++ Piece.text (spelling.pieces rest) := by
  rw [pieces, List.flatMap_cons, Piece.text_append]
  rfl

theorem text_piece_trivia (part : Trivia) :
    Piece.text (spelling.piece (.trivia part)) = Trivia.text (spelling.trivia part) :=
  Piece.text_trivia _

theorem startsLike_pieces {parts : List Piece} (h : AreRead [] parts) :
    Text.StartsLike (Piece.text parts) (Piece.text (spelling.pieces parts)) := by
  induction parts with
  | nil => exact ⟨id, fun d hd => .inl hd⟩
  | cons piece rest ih =>
    obtain ⟨hpiece, hrest⟩ := h
    have hne : Piece.text (piece :: rest) ≠ [] :=
      List.append_ne_nil_of_left_ne_nil piece.chars_ne_nil _
    have hstarts := ih hrest
    rw [text_pieces_cons]
    cases piece with
    | lexeme part =>
      have hself : Piece.text (spelling.piece (.lexeme part)) = part.chars := List.append_nil _
      rw [hself]
      exact .append (Piece.lexeme part).chars_ne_nil
    | trivia part =>
      rw [text_piece_trivia]
      cases part with
      | blank c =>
        obtain ⟨d, others, hblanks⟩ := List.exists_cons_of_ne_nil (spelling.blanks_ne_nil c)
        rw [text_trivia_blank, hblanks]
        apply Text.StartsLike.of_isSpace hne
        rintro _ ⟨⟩
        exact spelling.isSpace_of_mem hpiece (by rw [hblanks]; exact List.mem_cons_self)
      | comment text =>
        rw [trivia]
        cases spelling.comment? text with
        | some other => exact ⟨fun hnil => absurd hnil hne, fun d hd => .inl hd⟩
        | none =>
          -- The comment that is left out stood at the end of its line, so white space comes next.
          apply Text.StartsLike.of_isSpace hne
          intro d hd
          rcases hstarts.head d hd with hsame | hspace
          · obtain ⟨others, htext⟩ := List.head?_eq_some_iff.1 hsame
            rw [List.append_nil, htext] at hpiece
            by_contra hspace
            exact hpiece.ne_comment (Bool.eq_false_of_not_eq_true hspace) text rfl
          · exact hspace

theorem areRead_blanks (after : List Char) {chars : List Char}
    (h : ∀ c ∈ chars, Text.isSpace c = true) :
    AreRead after ((chars.map Trivia.blank).map .trivia) := by
  induction chars with
  | nil => exact trivial
  | cons c others ih =>
    obtain ⟨hc, hothers⟩ := List.forall_mem_cons.1 h
    exact ⟨hc, ih hothers⟩

/-- Where every comment still ends at the end of its line, all pieces are read as they are spelled,
and so nothing but the trivia has changed. -/
theorem areRead_pieces {parts : List Piece} (h : AreRead [] parts)
    (hcomment : ∀ text behind, .trivia (.comment text) :: behind <:+ parts →
      ∀ other ∈ spelling.comment? text,
        Text.beforeLineBreak (other ++ Piece.text (spelling.pieces behind)) = other) :
    AreRead [] (spelling.pieces parts) := by
  induction parts with
  | nil => exact trivial
  | cons piece rest ih =>
    have hrest := ih h.2 fun text behind hsuffix =>
      hcomment text behind (hsuffix.trans (List.suffix_cons piece rest))
    rw [pieces, List.flatMap_cons, ← pieces, areRead_append, List.append_nil]
    refine ⟨?_, hrest⟩
    have hpiece := h.1
    rw [List.append_nil] at hpiece
    cases piece with
    | lexeme part =>
      refine ⟨?_, trivial⟩
      exact hpiece.of_startsLike (spelling.startsLike_pieces h.2)
    | trivia part =>
      cases part with
      | blank c => exact areRead_blanks _ fun d => spelling.isSpace_of_mem hpiece
      | comment text =>
        have hother := hcomment text rest List.suffix_rfl
        rw [piece, trivia]
        cases hspelled : spelling.comment? text with
        | none => exact trivial
        | some other => exact ⟨hother other hspelled, trivial⟩

section Text

variable {source : List Char}

theorem pieces_text (h : AreRead [] (spelling.pieces (Offside.pieces source))) :
    Offside.pieces (spelling.text source) = spelling.pieces (Offside.pieces source) :=
  pieces_text_of_areRead h

theorem ofText_text (h : AreRead [] (spelling.pieces (Offside.pieces source))) :
    Layout.ofText (spelling.text source) = spelling.layout (Layout.ofText source) := by
  have hpieces : (spelling.layout (Layout.ofText source)).pieces =
      spelling.pieces (Offside.pieces source) := by
    rw [pieces_layout, Layout.pieces_ofText]
  rw [← hpieces] at h
  rw [text, ← hpieces, Layout.ofText_text h]

theorem filterMap_pieces {β : Type} {select : Piece → Option β}
    (hselect : ∀ part, select (.trivia part) = none) (parts : List Piece) :
    (spelling.pieces parts).filterMap select = parts.filterMap select := by
  rw [pieces, List.filterMap_flatMap, List.filterMap_eq_flatMap_toList]
  refine List.flatMap_congr fun piece _ => ?_
  cases piece with
  | lexeme part => rfl
  | trivia part =>
    rw [Spelling.piece, List.filterMap_map, hselect, Option.toList_none,
      List.filterMap_eq_nil_iff]
    exact fun other _ => hselect other

end Text

/-- What a text tells does not depend on the spelling of its trivia. -/
theorem readAlike (source : String) (options : Options)
    (h : AreRead [] (spelling.pieces (Offside.pieces source.toList))) :
    ReadAlike options source (String.ofList (spelling.text source.toList)) := by
  obtain ⟨items, tail, hlayout⟩ : ∃ items tail, Layout.ofText source.toList = ⟨items, tail⟩ :=
    ⟨_, _, rfl⟩
  have hother : Layout.ofText (String.ofList (spelling.text source.toList)).toList =
      ⟨items.map spelling.item, spelling.gap tail⟩ := by
    rw [String.toList_ofList, spelling.ofText_text h, hlayout, layout]
  have hvalid := Layout.isValid_ofText source.toList
  rw [hlayout] at hvalid
  have hlike : List.Forall₂ Item.IsLike items (items.map spelling.item) := by
    rw [List.forall₂_map_right_iff, List.forall₂_same]
    exact fun item hitem => spelling.isLike_item (hvalid.items item hitem)
  refine ⟨?kinds, ?texts, ?faults⟩
  case kinds =>
    obtain ⟨hkinds, hgauge⟩ := kinds_outlinesFrom hlike (Eq.refl (Cursor.gauge {}))
    have hfirst := congrArg (List.map Outline.kind) (Layout.outlines_tokenize options hlayout)
    have hsecond := congrArg (List.map Outline.kind) (Layout.outlines_tokenize options hother)
    rw [Findings.outlines, List.map_map, Layout.outlines, List.map_append] at hfirst hsecond
    rw [hkinds, hgauge] at hsecond
    exact hsecond.trans hfirst.symm
  case texts =>
    have hfirst := congrArg (List.map Prod.snd) (map_slice_literals source options)
    have hsecond := congrArg (List.map Prod.snd)
      (map_slice_literals (String.ofList (spelling.text source.toList)) options)
    rw [String.toList_ofList, spelling.pieces_text h, spelling.filterMap_pieces fun _ => rfl,
      ← hfirst, List.map_map, List.map_map] at hsecond
    rw [String.toList_ofList]
    exact hsecond
  case faults =>
    rw [Layout.diagnostics_tokenize options hother, Layout.diagnostics_tokenize options hlayout]
    exact faults_diagnosticsFrom hlike rfl options

end Spelling

end Offside
