import Offside.Proofs.Changes
import Offside.Proofs.Levels
import Offside.Proofs.Repair
import Offside.Proofs.Slice
import Offside.Proofs.Units

/-!
# Diagnostics in the order of the text

The diagnostics of a pass lie in the order of the text and never overlap. An error covers the
literal that it leaves unread, which no token reaches into. A warning covers the blanks in front of
the first literal of a line, and it says the truth about them. An error about a missing mark is the
last diagnostic of all.
-/

namespace Offside

open Indentation (Gauge)

/-! ### Lines -/

section Lines

variable {position start : Nat} {line : List Char}

theorem mem_linesFrom_append {first second : List Piece} {line : Nat × List Char}
    (h : line ∈ linesFrom (position + (Piece.text first).length) second) :
    line ∈ linesFrom position (first ++ second) := by
  induction first generalizing position with
  | nil => exact h
  | cons piece rest ih =>
    have hlength : (Piece.text (piece :: rest)).length =
        piece.length + (Piece.text rest).length := List.length_append
    rw [hlength, ← Nat.add_assoc] at h
    rw [List.cons_append, linesFrom]
    split_ifs
    · exact List.mem_cons_of_mem _ (ih h)
    · exact ih h

theorem eq_drop_of_mem_linesFrom {parts : List Piece}
    (h : (start, line) ∈ linesFrom position parts) :
    line = (Piece.text parts).drop (start - position) := by
  induction parts generalizing position with
  | nil => cases h
  | cons piece rest ih =>
    have htext : Piece.text (piece :: rest) = piece.chars ++ Piece.text rest := List.flatMap_cons
    have hlater : (start, line) ∈ linesFrom (position + piece.length) rest →
        line = (Piece.text (piece :: rest)).drop (start - position) := by
      intro hrest
      have hlt : position + piece.length < start := lt_of_mem_linesFrom _ hrest
      have hlength : piece.length = piece.chars.length := rfl
      have hcount : start - position =
          piece.chars.length + (start - (position + piece.length)) := by
        omega
      rw [htext, hcount, List.drop_length_add_append]
      exact ih hrest
    rw [linesFrom] at h
    split_ifs at h
    · rcases List.mem_cons.1 h with hhere | hrest
      · obtain ⟨rfl, rfl⟩ := Prod.mk.inj hhere
        rw [htext, Nat.add_sub_cancel_left]
        exact List.drop_left.symm
      · exact hlater hrest
    · exact hlater h

theorem lastLine_mem_linesFrom {gap : List Trivia} (hgap : ∀ part ∈ gap, part.IsValid)
    (hfeed : '\n' ∈ Trivia.text gap) (others : List Piece) :
    (start + (Trivia.text gap).length - (Text.lastLine (Trivia.text gap)).length,
      Text.lastLine (Trivia.text gap) ++ Piece.text others) ∈
        linesFrom start (gap.map .trivia ++ others) := by
  induction gap generalizing start with
  | nil => cases hfeed
  | cons part rest ih =>
    obtain ⟨hpart, hrest⟩ := List.forall_mem_cons.1 hgap
    have hlength := Trivia.length_text_cons part rest
    by_cases hlater : '\n' ∈ Trivia.text rest
    · have hlast : Text.lastLine (Trivia.text (part :: rest)) =
          Text.lastLine (Trivia.text rest) := Text.lastLine_append hlater
      have hmem := @ih (start + (Piece.trivia part).length) hrest hlater
      rw [hlast, hlength, ← Nat.add_assoc, List.map_cons, List.cons_append, linesFrom]
      split_ifs
      · exact List.mem_cons_of_mem _ hmem
      · exact hmem
    · have hpartFeed : part = .blank '\n' := by
        by_contra hne
        rcases List.mem_append.1 hfeed with hchars | htext
        · exact Trivia.not_mem_chars hpart hne hchars
        · exact hlater htext
      have hlast : Text.lastLine (Trivia.text (part :: rest)) = Trivia.text rest := by
        rw [hpartFeed]
        exact (if_pos List.mem_cons_self).trans (Text.lastLine_eq_self hlater)
      have hline : (rest.map Piece.trivia ++ others).flatMap Piece.chars =
          Trivia.text rest ++ Piece.text others := by
        rw [List.flatMap_append, Layout.flatMap_chars_trivia]
        rfl
      rw [hlast, hlength, ← Nat.add_assoc, Nat.add_sub_cancel, List.map_cons, List.cons_append,
        linesFrom, hline, hpartFeed]
      exact List.mem_cons_self

end Lines

/-! ### Where diagnostics lie -/

namespace Cursor

variable {cursor : Cursor} {item : Item} {options : Options} {diagnostic : Diagnostic}

/-- A warning covers the blanks between the start of the line and the literal. -/
theorem eq_of_mem_warnings (hfit : cursor.gauge.IsFit)
    (h : diagnostic ∈ cursor.warnings item options) :
    '\n' ∈ item.text ∧ ∃ unit, 2 ≤ unit ∧
      Indentation.width (Text.lastLine item.text) % unit ≠ 0 ∧
      diagnostic = ⟨.ambiguousIndentation (Indentation.width (Text.lastLine item.text)) unit,
        ⟨cursor.start item - (Text.lastLine item.text).length, cursor.start item⟩⟩ := by
  unfold warnings Item.measure at h
  split_ifs at h with hfeed
  · refine ⟨hfeed, ?_⟩
    cases hreading : (cursor.gauge.enter (Indentation.width (Text.lastLine item.text))
        (Text.lastLine item.text).length).1 with
    | blank =>
      rw [hreading] at h
      cases h
    | level previous current =>
      rw [hreading] at h
      cases h
    | ambiguous width unit run =>
      obtain ⟨rfl, rfl, hunit, hmultiple⟩ := hfit.of_ambiguous hreading
      have hle := Text.lineLength_add_length_lastLine_le hfeed
      have hstop : cursor.start item - (Text.lastLine item.text).length +
          (Text.lastLine item.text).length = cursor.start item := by
        unfold start
        omega
      rw [hreading, Indentation.Reading.diagnostics, hstop] at h
      split_ifs at h
      · exact ⟨unit, hunit, hmultiple, List.mem_singleton.1 h⟩
      · cases h
  · cases h

theorem bounds_of_mem_warnings (hfit : cursor.gauge.IsFit)
    (h : diagnostic ∈ cursor.warnings item options) (items : List Item) (tail : List Trivia) :
    cursor.bound (item :: items) tail ≤ diagnostic.span.start ∧
      diagnostic.span.start < diagnostic.span.stop ∧
      diagnostic.span.stop = cursor.start item := by
  obtain ⟨hfeed, unit, -, hmultiple, rfl⟩ := eq_of_mem_warnings hfit h
  have hle := Text.lineLength_add_length_lastLine_le hfeed
  have htaken := cursor.taken_le_lineLength item.text
  have hpos : 0 < (Text.lastLine item.text).length := by
    apply List.length_pos_iff.2
    intro hnil
    rw [hnil] at hmultiple
    exact hmultiple (Nat.zero_mod unit)
  rw [bound_cons]
  unfold start
  refine ⟨?_, ?_, rfl⟩
  · show cursor.position + cursor.taken item.text ≤
      cursor.position + item.text.length - (Text.lastLine item.text).length
    omega
  · show cursor.position + item.text.length - (Text.lastLine item.text).length <
      cursor.position + item.text.length
    omega

theorem pairwise_warnings (cursor : Cursor) (item : Item) (options : Options) :
    (cursor.warnings item options).Pairwise fun before after =>
      before.span.stop ≤ after.span.start := by
  unfold warnings Indentation.Reading.diagnostics
  split
  · split_ifs
    · exact List.pairwise_singleton _ _
    · exact List.Pairwise.nil
  · exact List.Pairwise.nil
  · exact List.Pairwise.nil

end Cursor

theorem within_diagnosticsFrom (options : Options) (tail : List Trivia) {cursor : Cursor}
    (hfit : cursor.gauge.IsFit) (items : List Item) :
    ∀ diagnostic ∈ diagnosticsFrom options cursor items,
      cursor.position ≤ diagnostic.span.start ∧ diagnostic.span.start < diagnostic.span.stop ∧
        diagnostic.span.stop ≤ endFrom tail cursor items := by
  induction items generalizing cursor with
  | nil =>
    intro diagnostic hmem
    cases hmem
  | cons item items ih =>
    intro diagnostic hmem
    have hposition := cursor.position_le_bound (item :: items) tail
    have hstart := cursor.bound_cons_le_start item items tail
    have hnext := cursor.start_lt_position_next item
    have hbound := (cursor.next item).position_le_bound items tail
    have hend := bound_le_endFrom tail (cursor.next item) items
    rw [diagnosticsFrom, List.mem_append, List.mem_append, Option.mem_toList] at hmem
    rw [endFrom]
    obtain (hwarning | hfault) | hrest := hmem
    · obtain ⟨hlow, hlt, hhigh⟩ := Cursor.bounds_of_mem_warnings hfit hwarning items tail
      omega
    · rw [(Cursor.eq_of_mem_fault? hfault).2]
      dsimp only
      omega
    · obtain ⟨hlow, hlt, hhigh⟩ := ih (item.isFit_measure hfit) diagnostic hrest
      omega

theorem pairwise_diagnosticsFrom (options : Options) {cursor : Cursor} (hfit : cursor.gauge.IsFit)
    (items : List Item) :
    (diagnosticsFrom options cursor items).Pairwise fun before after =>
      before.span.stop ≤ after.span.start := by
  induction items generalizing cursor with
  | nil => exact List.Pairwise.nil
  | cons item items ih =>
    have hstart := cursor.start_lt_position_next item
    have hnext := item.isFit_measure hfit
    have hrest := @within_diagnosticsFrom options [] (cursor.next item) hnext items
    have hwarning : ∀ warning ∈ cursor.warnings item options,
        warning.span.start < warning.span.stop ∧ warning.span.stop = cursor.start item :=
      fun _ hmem => (Cursor.bounds_of_mem_warnings hfit hmem items []).2
    have hfault : ∀ fault ∈ (cursor.fault? item).toList,
        fault.span = ⟨cursor.start item, (cursor.next item).position⟩ :=
      fun _ hmem => (Cursor.eq_of_mem_fault? (Option.mem_toList.1 hmem)).2
    rw [diagnosticsFrom, List.pairwise_append, List.pairwise_append]
    refine ⟨⟨?warnings, ?fault, ?between⟩, ih hnext, ?rest⟩
    case warnings => exact Cursor.pairwise_warnings cursor item options
    case fault =>
      cases cursor.fault? item with
      | none => exact List.Pairwise.nil
      | some fault => exact List.pairwise_singleton _ fault
    case between =>
      intro before hbefore after hafter
      rw [(hwarning before hbefore).2, hfault after hafter]
    case rest =>
      intro before hbefore after hafter
      have hlow := (hrest after hafter).1
      rcases List.mem_append.1 hbefore with hmem | hmem
      · rw [(hwarning before hmem).2]
        omega
      · rw [hfault before hmem]
        exact hlow

/-! ### What a warning says -/

/-- The span holds all the blanks at the start of a line, behind which the line goes on with more
than a comment. Their width is no multiple of the unit. -/
structure IsTrueWarning (text : List Char) (width unit : Nat) (span : Span) : Prop where
  line : (span.start, text.drop span.start) ∈ linesFrom 0 (pieces text)
  inhabited : Text.isBlankLine (text.drop span.start) = false
  stop_eq : span.stop = span.start + (Text.leadingBlanks (text.drop span.start)).length
  width_eq : width = Indentation.width (Text.leadingBlanks (text.drop span.start))
  two_le_unit : 2 ≤ unit
  not_multiple : width % unit ≠ 0

section Item

variable {text : List Char} {before after : List Item} {item : Item} {tail : List Trivia}

theorem isValid_of_layout (hlayout : Layout.ofText text = ⟨before ++ item :: after, tail⟩) :
    item.IsValid := by
  have hvalid := (Layout.isValid_ofText text).items
  rw [hlayout] at hvalid
  exact hvalid item (List.mem_append_right _ List.mem_cons_self)

theorem pieces_of_layout (hlayout : Layout.ofText text = ⟨before ++ item :: after, tail⟩) :
    pieces text = before.flatMap Layout.itemPieces ++
      (item.gap.map .trivia ++ .lexeme item.lexeme :: Layout.pieces ⟨after, tail⟩) := by
  rw [← Layout.pieces_ofText, hlayout, Layout.pieces_mk_append, Layout.leadingPieces,
    List.append_assoc]

theorem position_behind_start (before : List Item) :
    (Cursor.behind {} before).position =
      0 + (Piece.text (before.flatMap Layout.itemPieces)).length :=
  Cursor.position_behind {} before

theorem exists_line_of_layout (hlayout : Layout.ofText text = ⟨before ++ item :: after, tail⟩)
    (hfeed : '\n' ∈ item.text) :
    ∃ c rest, Text.isSpace c = false ∧ c ≠ '#' ∧
      text.drop ((Cursor.behind {} before).start item - (Text.lastLine item.text).length) =
        Text.lastLine item.text ++ c :: rest ∧
      ((Cursor.behind {} before).start item - (Text.lastLine item.text).length,
        Text.lastLine item.text ++ c :: rest) ∈ linesFrom 0 (pieces text) := by
  have hitem := isValid_of_layout hlayout
  obtain ⟨c, others, hchars, hspace, hsign⟩ := hitem.lexeme
  have hbehind : Piece.text (.lexeme item.lexeme :: Layout.pieces ⟨after, tail⟩) =
      c :: (others ++ Piece.text (Layout.pieces ⟨after, tail⟩)) := by
    rw [Piece.text, List.flatMap_cons, Piece.chars, hchars]
    rfl
  have hline := @lastLine_mem_linesFrom (Cursor.behind {} before).position item.gap hitem.gap hfeed
    (.lexeme item.lexeme :: Layout.pieces ⟨after, tail⟩)
  rw [hbehind, position_behind_start] at hline
  have hmem := mem_linesFrom_append hline
  rw [← pieces_of_layout hlayout, ← position_behind_start] at hmem
  have hdrop := eq_drop_of_mem_linesFrom hmem
  rw [Piece.text_pieces] at hdrop
  exact ⟨c, _, hspace, hsign, hdrop.symm, hmem⟩

theorem isTrueWarning_of_layout (hlayout : Layout.ofText text = ⟨before ++ item :: after, tail⟩)
    (hfeed : '\n' ∈ item.text) {unit : Nat} (hunit : 2 ≤ unit)
    (hmultiple : Indentation.width (Text.lastLine item.text) % unit ≠ 0) :
    IsTrueWarning text (Indentation.width (Text.lastLine item.text)) unit
      ⟨(Cursor.behind {} before).start item - (Text.lastLine item.text).length,
        (Cursor.behind {} before).start item⟩ := by
  have hindent := (isValid_of_layout hlayout).indent
  have hnot := Text.not_mem_lastLine item.text
  obtain ⟨c, rest, hspace, hsign, hdrop, hmem⟩ := exists_line_of_layout hlayout hfeed
  have hblanks : Text.leadingBlanks (Text.lastLine item.text ++ c :: rest) =
      Text.lastLine item.text := Text.leadingBlanks_append hindent hnot hspace
  refine ⟨?line, ?inhabited, ?stop, ?width, hunit, hmultiple⟩ <;> dsimp only
  case line =>
    rw [hdrop]
    exact hmem
  case inhabited =>
    rw [hdrop]
    exact Text.isBlankLine_append_of_isSpace hindent hnot hspace hsign
  case stop =>
    have hle := Text.lineLength_add_length_lastLine_le hfeed
    rw [hdrop, hblanks]
    unfold Cursor.start
    omega
  case width => rw [hdrop, hblanks]

/-! ### The trivia that a warning is about -/

theorem mem_tokensFrom_of_item {cursor : Cursor} {token : Token}
    (h : token ∈ ((cursor.behind before).token? item).map (·.extend (trailing tail after))) :
    token ∈ tokensFrom tail cursor (before ++ item :: after) := by
  induction before generalizing cursor with
  | nil =>
    rw [List.nil_append, tokensFrom, List.mem_append, List.mem_append, Option.mem_toList]
    exact .inl (.inr h)
  | cons first before ih =>
    rw [List.cons_append, tokensFrom]
    exact List.mem_append_right _ (ih h)

theorem mem_diagnosticsFrom_of_item {cursor : Cursor} {options : Options} {diagnostic : Diagnostic}
    (h : diagnostic ∈ (cursor.behind before).fault? item) :
    diagnostic ∈ diagnosticsFrom options cursor (before ++ item :: after) := by
  rw [diagnosticsFrom_append, diagnosticsFrom]
  exact List.mem_append_right _
    (List.mem_append_left _ (List.mem_append_right _ (Option.mem_toList.2 h)))

theorem exists_stop_eq_bound (tail : List Trivia) (cursor : Cursor) {before : List Item}
    (h : before ≠ []) (rest : List Item) :
    ∃ span ∈ coveredFrom tail cursor (before ++ rest),
      span.stop = (cursor.behind before).bound rest tail := by
  induction before generalizing cursor with
  | nil => exact absurd rfl h
  | cons item others ih =>
    cases others with
    | nil => exact ⟨cursor.covered item rest tail, List.mem_cons_self, rfl⟩
    | cons other others =>
      obtain ⟨span, hmem, hstop⟩ := ih (cursor.next item) (List.cons_ne_nil other others)
      exact ⟨span, List.mem_cons_of_mem _ hmem, hstop⟩

theorem dropsFrom_of_layout (hlayout : Layout.ofText text = ⟨before ++ item :: after, tail⟩)
    (fault : Fault) :
    DropsFrom (coveredFrom tail {} (before ++ item :: after)) (placed 0 (pieces text))
      ((Cursor.behind {} before).bound (item :: after) tail)
      ⟨fault, ⟨(Cursor.behind {} before).start item,
        ((Cursor.behind {} before).next item).position⟩⟩ := by
  refine ⟨Cursor.bound_cons_le_start _ item after tail, ?_, ?_⟩
  · have hrun : IsTriviaRun (placed (Cursor.behind {} before).position (item.gap.map .trivia))
        ((Cursor.behind {} before).bound (item :: after) tail)
        ((Cursor.behind {} before).start item) :=
      isTriviaRun_gap (Cursor.position_le_bound _ (item :: after) tail)
    apply hrun.mono
    rw [position_behind_start, pieces_of_layout hlayout, placed_append, placed_append]
    exact List.Subset.trans (List.subset_append_left _ _) (List.subset_append_right _ _)
  · cases before with
    | nil => exact .inl rfl
    | cons first others =>
      exact .inr (exists_stop_eq_bound tail {} (List.cons_ne_nil first others) (item :: after))

end Item

namespace Findings

variable (findings : Findings)

/-- The span lies in the trivia that leads a token, or in the trivia that is dropped with an error,
and the literal comes right behind it. -/
def LeadsUp (text : List Char) (span : Span) : Prop :=
  (∃ token ∈ findings.literals, token.span.start ≤ span.start ∧ token.content.start = span.stop) ∨
    ∃ error ∈ findings.errors, error.span.start = span.stop ∧ ∃ start ≤ span.start,
      DropsFrom (findings.literalSpans ++ findings.errorSpans) (placed 0 (pieces text)) start error

end Findings

section Findings

variable {source : String} {items before after : List Item} {item : Item} {tail : List Trivia}

theorem mem_literals_of_layout (options : Options)
    (hlayout : Layout.ofText source.toList = ⟨items, tail⟩) {token : Token}
    (hmem : token ∈ tokensFrom tail {} items) (hliteral : token.isIndentation = false) :
    token ∈ (tokenize source options).literals := by
  rw [literals_of_layout options hlayout, List.mem_filter, Bool.not_eq_true']
  exact ⟨hmem, hliteral⟩

theorem leadsUp_of_layout (options : Options)
    (hlayout : Layout.ofText source.toList = ⟨before ++ item :: after, tail⟩) {span : Span}
    (hstart : (Cursor.behind {} before).bound (item :: after) tail ≤ span.start)
    (hstop : span.stop = (Cursor.behind {} before).start item) :
    (tokenize source options).LeadsUp source.toList span := by
  cases hreading : item.lexeme.reading with
  | ok kind =>
    have htoken := Option.mem_map_of_mem (·.extend (trailing tail after))
      (Cursor.token?_of_ok (Cursor.behind {} before) hreading)
    have hmem := mem_literals_of_layout options hlayout (mem_tokensFrom_of_item htoken)
      (Lexeme.isIndentation_of_reading hreading _ _ _)
    refine .inl ⟨_, hmem, hstart, ?_⟩
    rw [Token.content_extend, hstop]
    exact Cursor.start_eq _ item
  | error fault =>
    have hfault := Cursor.fault?_of_error (Cursor.behind {} before) hreading
    have hdrops := dropsFrom_of_layout hlayout fault
    refine .inr ⟨_, ?_, hstop.symm, _, hstart, hdrops.le, hdrops.trivia, ?_⟩
    · rw [errors_of_layout options hlayout, List.mem_filter]
      exact ⟨mem_diagnosticsFrom_of_item hfault, Cursor.isError_of_mem_fault? hfault⟩
    · simp only [(perm_spans_of_layout options hlayout).mem_iff]
      exact hdrops.boundary

end Findings

/-! ### The last diagnostic -/

def Fault.IsOfEnd : Fault → Prop
  | unterminatedString | unterminatedRune => True
  | _ => False

theorem Fault.IsOfEnd.isError {fault : Fault} (h : fault.IsOfEnd) (span : Span) :
    (⟨fault, span⟩ : Diagnostic).isError = true :=
  match fault, h with
  | unterminatedString, _ => rfl
  | unterminatedRune, _ => rfl

theorem Fault.IsOfEnd.not_isOf {fault : Fault} (h : fault.IsOfEnd) :
    ¬fault.IsOfWord ∧ ¬fault.IsOfQuoted := by
  cases fault <;> simp_all [IsOfEnd, IsOfWord, IsOfQuoted]

theorem Lexeme.eq_unclosed_of_reading {lexeme : Lexeme} {fault : Fault}
    (h : lexeme.reading = .error fault) (hfault : fault.IsOfEnd) :
    ∃ quote body, lexeme = .unclosed quote body := by
  cases lexeme with
  | word first rest => exact absurd (Literal.isOfWord_of_word h) hfault.not_isOf.1
  | symbol mark => cases h
  | quoted quote body => exact absurd (Literal.isOfQuoted_of_quoted h) hfault.not_isOf.2
  | unclosed quote body => exact ⟨quote, body, rfl⟩

theorem position_next_of_isOfEnd {text : List Char} {before after : List Item} {item : Item}
    {tail : List Trivia} (hlayout : Layout.ofText text = ⟨before ++ item :: after, tail⟩)
    {fault : Fault} (hreading : item.lexeme.reading = .error fault) (hfault : fault.IsOfEnd) :
    ((Cursor.behind {} before).next item).position = text.length := by
  obtain ⟨quote, body, hlexeme⟩ := Lexeme.eq_unclosed_of_reading hreading hfault
  have hpieces := Layout.pieces_ofText text
  rw [hlayout, Layout.pieces_mk_append] at hpieces
  have hread := (areRead_of_pieces_eq_append hpieces.symm).2.1
  rw [hlexeme] at hread
  have hnil : Piece.text (Layout.pieces ⟨after, tail⟩) = [] := by
    simpa using hread.2
  have hcons : Piece.text (.lexeme item.lexeme :: Layout.pieces ⟨after, tail⟩) =
      item.lexeme.chars ++ Piece.text (Layout.pieces ⟨after, tail⟩) := List.flatMap_cons
  have hlength := congrArg List.length (Piece.text_pieces text)
  rw [← hpieces, Piece.text_append, hcons, hnil, List.append_nil, List.length_append] at hlength
  have hposition := Cursor.position_behind_add {} before item.gap
  have hnext : ((Cursor.behind {} before).next item).position =
      (Cursor.behind {} before).position + (Trivia.text item.gap).length +
        item.lexeme.chars.length := rfl
  rw [hnext, hposition, ← hlength, Nat.zero_add]

/-! ### The diagnostics of a pass -/

structure Findings.DiagnosticsFit (findings : Findings) (text : List Char) : Prop where
  within : ∀ diagnostic ∈ findings.diagnostics,
    diagnostic.span.start < diagnostic.span.stop ∧ diagnostic.span.stop ≤ text.length
  ordered : findings.diagnostics.Pairwise fun before after => before.span.stop ≤ after.span.start
  apart : ∀ error ∈ findings.errors, ∀ token ∈ findings.tokens, error.span.Disjoint token.span
  warning : ∀ width unit span, ⟨.ambiguousIndentation width unit, span⟩ ∈ findings.diagnostics →
    IsTrueWarning text width unit span ∧ findings.LeadsUp text span
  /-- Where a mark is missing, nothing else is found. -/
  last : ∀ before diagnostic after, findings.diagnostics = before ++ diagnostic :: after →
    diagnostic.fault.IsOfEnd → after = [] ∧ diagnostic.span.stop = text.length

theorem diagnosticsFit_tokenize (source : String) (options : Options) :
    (tokenize source options).DiagnosticsFit source.toList := by
  obtain ⟨items, tail, hlayout⟩ : ∃ items tail, Layout.ofText source.toList = ⟨items, tail⟩ :=
    ⟨_, _, rfl⟩
  have htokens : (tokenize source options).tokens = tokensFrom tail {} items := by
    rw [tokens_tokenize, hlayout]
    rfl
  have hdiagnostics := Layout.diagnostics_tokenize options hlayout
  have hfit : Gauge.IsFit (Cursor.gauge {}) := Gauge.isFit_start
  have hend : endFrom tail {} items = source.toList.length := by
    rw [endFrom_eq, ← Piece.text, ← hlayout, Layout.text_ofText]
    exact Nat.zero_add _
  have hwithin : ∀ diagnostic ∈ (tokenize source options).diagnostics,
      diagnostic.span.start < diagnostic.span.stop ∧
        diagnostic.span.stop ≤ source.toList.length := by
    rw [hdiagnostics, ← hend]
    exact fun diagnostic hmem => (within_diagnosticsFrom options tail hfit items diagnostic hmem).2
  have hordered : (tokenize source options).diagnostics.Pairwise fun before after =>
      before.span.stop ≤ after.span.start := by
    rw [hdiagnostics]
    exact pairwise_diagnosticsFrom options hfit items
  refine ⟨hwithin, hordered, ?apart, ?warning, ?last⟩
  case apart =>
    have hdisjoint : ((tokenize source options).literalSpans ++
        (tokenize source options).errorSpans).Pairwise Span.Disjoint := by
      rw [(perm_spans_of_layout options hlayout).pairwise_iff Span.Disjoint.symm]
      exact (pairwise_coveredFrom items {}).imp Span.Disjoint.of_stop_le_start
    intro error herror token htoken
    rw [htokens] at htoken
    cases hindentation : token.isIndentation with
    | true =>
      have hempty := (empty_of_mem_tokensFrom tail {} items token htoken hindentation).1
      rintro position ⟨-, hlow, hhigh⟩
      omega
    | false =>
      have hliteral := mem_literals_of_layout options hlayout htoken hindentation
      exact ((List.pairwise_append.1 hdisjoint).2.2 _ (List.mem_map_of_mem hliteral) _
        (List.mem_map_of_mem herror)).symm
  case warning =>
    intro width unit span hmem
    rw [hdiagnostics] at hmem
    obtain ⟨before, item, after, rfl, hwarning | hfault⟩ := exists_item_of_diagnostic hmem
    · have hgauge := Cursor.isFit_behind hfit before
      obtain ⟨hstart, -, hstop⟩ := Cursor.bounds_of_mem_warnings hgauge hwarning after tail
      obtain ⟨hfeed, known, hunit, hmultiple, heq⟩ := Cursor.eq_of_mem_warnings hgauge hwarning
      obtain ⟨hwarned, rfl⟩ := Diagnostic.mk.inj heq
      obtain ⟨rfl, rfl⟩ := Fault.ambiguousIndentation.inj hwarned
      exact ⟨isTrueWarning_of_layout hlayout hfeed hunit hmultiple,
        leadsUp_of_layout options hlayout hstart hstop⟩
    · cases Cursor.isError_of_mem_fault? hfault
  case last =>
    intro before diagnostic after hsplit hfault
    have hmem : diagnostic ∈ (tokenize source options).diagnostics := by
      rw [hsplit]
      exact List.mem_append_right _ List.mem_cons_self
    have hstop : diagnostic.span.stop = source.toList.length := by
      rw [hdiagnostics] at hmem
      have herror : diagnostic.isError = true := hfault.isError diagnostic.span
      obtain ⟨front, item, rest, rfl, hitem⟩ := exists_item_of_mem_diagnosticsFrom hmem herror
      obtain ⟨hreading, hspan⟩ := Cursor.eq_of_mem_fault? hitem
      rw [hspan]
      exact position_next_of_isOfEnd hlayout hreading hfault
    refine ⟨?_, hstop⟩
    rw [List.eq_nil_iff_forall_not_mem]
    intro other hother
    rw [hsplit] at hordered hwithin
    have hlater := (List.pairwise_cons.1 (List.pairwise_append.1 hordered).2.1).1 other hother
    have hinside := hwithin other (List.mem_append_right _ (List.mem_cons_of_mem _ hother))
    omega

/-- The third line is too deep by one blank, and the quoted text in it is never closed. -/
theorem diagnosticsFit_third_line :
    (tokenize "(\n  a\n   \"b").diagnostics =
        [⟨.ambiguousIndentation 3 2, ⟨6, 9⟩⟩, ⟨.unterminatedString, ⟨9, 11⟩⟩] ∧
      IsTrueWarning "(\n  a\n   \"b".toList 3 2 ⟨6, 9⟩ ∧
      (tokenize "(\n  a\n   \"b").LeadsUp "(\n  a\n   \"b".toList ⟨6, 9⟩ := by
  have hall : (tokenize "(\n  a\n   \"b").diagnostics =
      [⟨.ambiguousIndentation 3 2, ⟨6, 9⟩⟩, ⟨.unterminatedString, ⟨9, 11⟩⟩] := by
    decide +kernel
  refine ⟨hall, (diagnosticsFit_tokenize "(\n  a\n   \"b" {}).warning 3 2 ⟨6, 9⟩ ?_⟩
  rw [hall]
  exact List.mem_cons_self

end Offside
