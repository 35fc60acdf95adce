import Mathlib.Data.List.DropRight
import Offside.Diagnostic.Report
import Offside.Proofs.Diagnostics
import Offside.Proofs.Dump
import Offside.Proofs.Places

/-!
# Reports point at the literal

The last two rows of a report are the line in which the diagnostic starts and the caret below it.
For an error the caret stands below the first character of the literal, and for a warning below the
first character of the line that is shown.
-/

namespace Offside

open Indentation (Gauge)

namespace Diagnostic

/-! ### Rows -/

def isIndent (c : Char) : Bool := c == ' ' || c == '\t'

def label (number : Nat) : List Char := (toString number).toList ++ " | ".toList

def margin (number dashes : Nat) : List Char :=
  List.replicate ((toString number).length + 1) ' ' ++ '|' :: ' ' :: List.replicate dashes '-'

def shown (line : List Char) : List Char :=
  (line.dropWhile isIndent).rdropWhile Unicode.isWhitespace

theorem lineFeed_not_mem_label (number : Nat) : '\n' ∉ label number := by
  have hdigits := lineFeed_not_mem_toDigits number
  simp [label, Nat.toString_eq_repr, Nat.toList_repr, hdigits]

theorem not_mem_margin (number dashes : Nat) {c : Char} (hspace : c ≠ ' ') (hbar : c ≠ '|')
    (hdash : c ≠ '-') : c ∉ margin number dashes := by
  simp [margin, hspace, hbar, hdash]

theorem length_margin (number dashes : Nat) :
    (margin number dashes).length = (label number).length + dashes := by
  have hbar : " | ".toList.length = 3 := rfl
  rw [margin, label, List.length_append, List.length_append, String.length_toList, hbar]
  simp only [List.length_replicate, List.length_cons]
  omega

theorem lineFeed_not_mem_shown {line : List Char} (h : '\n' ∉ line) : '\n' ∉ shown line := by
  intro hmem
  have htrimmed := List.rdropWhile_prefix Unicode.isWhitespace (line.dropWhile isIndent)
  exact h ((List.dropWhile_sublist isIndent).mem (htrimmed.mem hmem))

theorem drop_length_takeWhile (line : List Char) :
    line.drop (line.takeWhile isIndent).length = line.dropWhile isIndent := by
  calc line.drop (line.takeWhile isIndent).length
      = (line.takeWhile isIndent ++ line.dropWhile isIndent).drop
          (line.takeWhile isIndent).length := by rw [List.takeWhile_append_dropWhile]
    _ = line.dropWhile isIndent := List.drop_left

variable {line feed : List Char}

theorem indentLength_append (hfeed : feed = [] ∨ feed = ['\n']) :
    Text.indentLength (line ++ feed) = (line.takeWhile isIndent).length := by
  have htake : (line ++ feed).takeWhile isIndent = line.takeWhile isIndent := by
    rcases hfeed with rfl | rfl
    · rw [List.append_nil]
    · rw [List.takeWhile_append]
      split_ifs with hall
      · rw [(List.takeWhile_prefix isIndent).eq_of_length hall]
        exact List.append_nil line
      · rfl
  exact congrArg List.length htake

theorem toList_sourceRow (hfeed : feed = [] ∨ feed = ['\n']) (number column : Nat) :
    (sourceRow ⟨number, line ++ feed, column⟩).toList = label number ++ shown line := by
  have hle := (List.takeWhile_prefix isIndent (l := line)).length_le
  have hdrop : (line ++ feed).drop (Text.indentLength (line ++ feed)) =
      line.dropWhile isIndent ++ feed := by
    rw [indentLength_append hfeed, List.drop_append_of_le_length hle, drop_length_takeWhile]
  have htrim : Text.trimRight (line.dropWhile isIndent ++ feed) = shown line := by
    rcases hfeed with rfl | rfl
    · rw [List.append_nil]
      rfl
    · exact List.rdropWhile_concat_pos _ _ _ (by decide)
  unfold sourceRow
  dsimp only
  rw [hdrop, htrim, label, String.toList_append, String.toList_append,
    @String.toList_ofList (shown line)]

theorem toList_caretRow (hfeed : feed = [] ∨ feed = ['\n']) (number column : Nat) :
    (caretRow ⟨number, line ++ feed, column⟩).toList =
      margin number (column - (line.takeWhile isIndent).length) ++ ['^'] := by
  rw [← indentLength_append hfeed]
  simp [caretRow, gutter, margin]

theorem splitOn_rows (above : List Char) {row below : List Char} (hrow : '\n' ∉ row)
    (hbelow : '\n' ∉ below) :
    ∃ rows, (above ++ '\n' :: (row ++ '\n' :: below)).splitOn '\n' = rows ++ [row, below] := by
  refine ⟨above.splitOn '\n', ?_⟩
  rw [List.splitOn_append_cons_self, List.splitOn_append_cons_self_of_not_mem hrow,
    List.splitOn_eq_singleton hbelow]

theorem toList_report {text : String} {number column : Nat} {diagnostic : Diagnostic}
    (hplace : Text.place? text.toList diagnostic.span.start = some ⟨number, line ++ feed, column⟩)
    (hfeed : feed = [] ∨ feed = ['\n']) (file : String) :
    (diagnostic.report text file).toList =
      (diagnostic.header ++ "\n-> " ++ file ++ "\n" ++ gutter number).toList ++
        '\n' :: (label number ++ shown line ++
          '\n' :: (margin number (column - (line.takeWhile isIndent).length) ++ ['^'])) := by
  have hfeeds : "\n".toList = ['\n'] := rfl
  rw [report, hplace]
  simp only [String.toList_append, toList_sourceRow hfeed, toList_caretRow hfeed, hfeeds,
    List.append_assoc, List.cons_append, List.nil_append]

theorem exists_rows {text : String} {number column : Nat} {diagnostic : Diagnostic}
    (hplace : Text.place? text.toList diagnostic.span.start = some ⟨number, line ++ feed, column⟩)
    (hfeed : feed = [] ∨ feed = ['\n']) (hline : '\n' ∉ line) (file : String) :
    ∃ rows, (diagnostic.report text file).toList.splitOn '\n' =
      rows ++ [label number ++ shown line,
        margin number (column - (line.takeWhile isIndent).length) ++ ['^']] := by
  rw [toList_report hplace hfeed]
  apply splitOn_rows
  · rw [List.mem_append, not_or]
    exact ⟨lineFeed_not_mem_label number, lineFeed_not_mem_shown hline⟩
  · rw [List.mem_append, not_or]
    exact ⟨not_mem_margin number _ (by decide) (by decide) (by decide), by decide⟩

/-! ### Characters of a row -/

theorem length_takeWhile_le {front back : List Char} {c : Char} (hc : isIndent c = false) :
    ((front ++ c :: back).takeWhile isIndent).length ≤ front.length := by
  have hnil : (c :: back).takeWhile isIndent = [] :=
    List.takeWhile_cons_of_neg (by simp [hc])
  rw [List.takeWhile_append, hnil, List.append_nil]
  split_ifs
  · exact Nat.le_refl front.length
  · exact (List.takeWhile_prefix isIndent).length_le

theorem getElem?_dropWhile (text : List Char) (index : Nat) :
    (text.dropWhile isIndent)[index]? = text[(text.takeWhile isIndent).length + index]? := by
  rw [← drop_length_takeWhile, List.getElem?_drop]

theorem getElem?_rdropWhile {text : List Char} {index : Nat} {c : Char}
    (h : text[index]? = some c) (hc : Unicode.isWhitespace c = false) :
    (text.rdropWhile Unicode.isWhitespace)[index]? = some c := by
  have hsplit := List.rdropWhile_append_rtakeWhile (p := Unicode.isWhitespace) (l := text)
  by_cases hlt : index < (text.rdropWhile Unicode.isWhitespace).length
  · rw [← hsplit, List.getElem?_append_left hlt] at h
    exact h
  · rw [← hsplit, List.getElem?_append_right (Nat.le_of_not_lt hlt)] at h
    have hwhite := List.mem_rtakeWhile_imp (List.mem_of_getElem? h)
    rw [hc] at hwhite
    cases hwhite

end Diagnostic

/-! ### Where diagnostics start -/

section Layout

variable {text : List Char} {before after : List Item} {item : Item} {tail : List Trivia}

theorem exists_split_of_layout (hlayout : Layout.ofText text = ⟨before ++ item :: after, tail⟩) :
    ∃ front c rest, text = front ++ item.text ++ c :: rest ∧
      (front ++ item.text).length = (Cursor.behind {} before).start item ∧
      Text.isSpace c = false := by
  obtain ⟨c, others, hchars, hspace, -⟩ := (isValid_of_layout hlayout).lexeme
  refine ⟨Piece.text (before.flatMap Layout.itemPieces), c,
    others ++ Piece.text (Layout.pieces ⟨after, tail⟩), ?_, ?_, hspace⟩
  · have hlexeme : Piece.text (.lexeme item.lexeme :: Layout.pieces ⟨after, tail⟩) =
        item.lexeme.chars ++ Piece.text (Layout.pieces ⟨after, tail⟩) := List.flatMap_cons
    calc text
        = Piece.text (pieces text) := (Piece.text_pieces text).symm
      _ = _ := by
        rw [pieces_of_layout hlayout, Piece.text_append, Piece.text_append, Piece.text_trivia,
          hlexeme, hchars, List.cons_append, List.append_assoc]
        rfl
  · have hposition := position_behind_start before
    rw [List.length_append, Cursor.start, hposition, Nat.zero_add]

theorem exists_drop_of_layout (hlayout : Layout.ofText text = ⟨before ++ item :: after, tail⟩) :
    ∃ c rest, text.drop ((Cursor.behind {} before).start item) = c :: rest ∧
      Text.isSpace c = false := by
  obtain ⟨front, c, rest, htext, hlength, hspace⟩ := exists_split_of_layout hlayout
  refine ⟨c, rest, ?_, hspace⟩
  rw [htext, ← hlength, List.drop_left]

theorem lastLine_of_layout (hlayout : Layout.ofText text = ⟨before ++ item :: after, tail⟩)
    (hfeed : '\n' ∈ item.text) :
    Text.lastLine (text.take ((Cursor.behind {} before).start item -
      (Text.lastLine item.text).length)) = [] := by
  obtain ⟨front, c, rest, htext, hlength, -⟩ := exists_split_of_layout hlayout
  obtain ⟨others, hothers⟩ := Text.exists_append_lastLine hfeed
  have hstart : (Cursor.behind {} before).start item - (Text.lastLine item.text).length =
      (front ++ others ++ ['\n']).length := by
    have hcount := congrArg List.length hothers
    rw [← hlength]
    simp only [List.length_append, List.length_cons, List.length_nil] at hcount ⊢
    omega
  have hsplit : text =
      (front ++ others ++ ['\n']) ++ (Text.lastLine item.text ++ c :: rest) := by
    rw [htext]
    conv_lhs => rw [hothers]
    simp only [List.append_assoc, List.cons_append, List.nil_append]
  rw [hstart]
  conv_lhs => rw [hsplit, List.take_left]
  exact Text.lastLine_append_lineFeed (front ++ others) []

end Layout

namespace Diagnostic

/-! ### The caret -/

/-- The caret stands, behind `front`, below the character at the position. That character is no part
of the indentation that is left out, and it is seen unless it is white space at the end. -/
structure PointsAt (text : List Char) (position : Nat) (front : List Char) : Prop where
  indent_le : ((Text.lineAt text position).takeWhile isIndent).length ≤ Text.column text position
  offset : front.length = (label (Text.lineNumber text position)).length +
    (Text.column text position - ((Text.lineAt text position).takeWhile isIndent).length)
  below : ∃ c, text[position]? = some c ∧
    (label (Text.lineNumber text position) ++
      (Text.lineAt text position).dropWhile isIndent)[front.length]? = some c ∧
    (Unicode.isWhitespace c = false →
      (label (Text.lineNumber text position) ++
        shown (Text.lineAt text position))[front.length]? = some c)

/-- The last two rows of a report, the second of which is a caret behind `front`. -/
structure IsDrawn (diagnostic : Diagnostic) (text row front : List Char) : Prop where
  row_eq : row = label (Text.lineNumber text diagnostic.span.start) ++
    shown (Text.lineAt text diagnostic.span.start)
  caret : '^' ∉ front
  error : diagnostic.severity = .error → PointsAt text diagnostic.span.start front
  warning : ∀ width unit, diagnostic.fault = .ambiguousIndentation width unit →
    front.length = (label (Text.lineNumber text diagnostic.span.start)).length

theorem pointsAt_margin {text : List Char} {position : Nat} {c : Char} {rest : List Char}
    (hdrop : text.drop position = c :: rest) (hspace : Text.isSpace c = false) :
    PointsAt text position (margin (Text.lineNumber text position) (Text.column text position -
      ((Text.lineAt text position).takeWhile isIndent).length)) := by
  have hfeed : c ≠ '\n' := by
    rintro rfl
    exact absurd hspace (by decide)
  have hindent : isIndent c = false := by
    rw [Text.isSpace, Bool.or_eq_false_iff, Bool.or_eq_false_iff] at hspace
    exact hspace.1.1
  have hline : Text.lineAt text position =
      Text.lastLine (text.take position) ++ c :: rest.takeWhile (· != '\n') := by
    rw [Text.lineAt, hdrop, List.takeWhile_cons_of_pos (by simpa using hfeed)]
  -- The character is no blank, so the indentation ends in front of it.
  have hle : ((Text.lineAt text position).takeWhile isIndent).length ≤
      Text.column text position := by
    rw [hline]
    exact length_takeWhile_le hindent
  have hget : (Text.lineAt text position)[Text.column text position]? = some c := by
    rw [hline, Text.column]
    simp
  obtain ⟨dashes, hdashes⟩ := Nat.exists_eq_add_of_le hle
  have hunindented : ((Text.lineAt text position).dropWhile isIndent)[dashes]? = some c := by
    rw [getElem?_dropWhile, ← hdashes, hget]
  have hlabel : ∀ row : List Char, (label (Text.lineNumber text position) ++ row)[
      (margin (Text.lineNumber text position) dashes).length]? = row[dashes]? := by
    intro row
    rw [length_margin, List.getElem?_append_right (Nat.le_add_right _ _), Nat.add_sub_cancel_left]
  refine ⟨hle, length_margin _ _, c, ?_, ?_, ?_⟩
  · rw [← List.head?_drop, hdrop]
    rfl
  · rw [hdashes, Nat.add_sub_cancel_left, hlabel]
    exact hunindented
  · intro hwhite
    rw [hdashes, Nat.add_sub_cancel_left, hlabel]
    exact getElem?_rdropWhile hunindented hwhite

/-- A diagnostic starts at a literal if it is an error, and with a line if it is a warning. -/
theorem start_of_mem {source : String} {options : Options} {diagnostic : Diagnostic}
    (hmem : diagnostic ∈ (tokenize source options).diagnostics) :
    diagnostic.span.start < source.toList.length ∧
      (diagnostic.severity = .error → ∃ c rest,
        source.toList.drop diagnostic.span.start = c :: rest ∧ Text.isSpace c = false) ∧
      (diagnostic.severity = .warning →
        Text.lastLine (source.toList.take diagnostic.span.start) = []) := by
  obtain ⟨items, tail, hlayout⟩ : ∃ items tail, Layout.ofText source.toList = ⟨items, tail⟩ :=
    ⟨_, _, rfl⟩
  have hfit : Gauge.IsFit (Cursor.gauge {}) := Gauge.isFit_start
  have hend : endFrom tail {} items = source.toList.length := by
    rw [endFrom_eq, ← Piece.text, ← hlayout, Layout.text_ofText]
    exact Nat.zero_add _
  rw [Layout.diagnostics_tokenize options hlayout] at hmem
  obtain ⟨-, hlt, hle⟩ := within_diagnosticsFrom options tail hfit items diagnostic hmem
  refine ⟨by omega, ?_⟩
  obtain ⟨before, item, after, rfl, hwarning | hfault⟩ := exists_item_of_diagnostic hmem
  · have hseverity := Cursor.isError_of_mem_warnings hwarning
    obtain ⟨hfeed, unit, -, -, hdiagnostic⟩ :=
      Cursor.eq_of_mem_warnings (Cursor.isFit_behind hfit before) hwarning
    refine ⟨fun herror => absurd herror (of_decide_eq_false hseverity), fun _ => ?_⟩
    rw [hdiagnostic]
    exact lastLine_of_layout hlayout hfeed
  · have hseverity := of_decide_eq_true (Cursor.isError_of_mem_fault? hfault)
    refine ⟨fun _ => ?_, fun hwarning => ?_⟩
    · rw [(Cursor.eq_of_mem_fault? hfault).2]
      exact exists_drop_of_layout hlayout
    · rw [hseverity] at hwarning
      cases hwarning

/-- Each diagnostic has a line to be drawn under, and the last two rows of its report show the line
and where in it the diagnostic starts. -/
theorem isDrawn_report (source file : String) (options : Options) {diagnostic : Diagnostic}
    (hmem : diagnostic ∈ (tokenize source options).diagnostics) :
    (Text.place? source.toList diagnostic.span.start).isSome = true ∧
      ∃ above row front, (diagnostic.report source file).toList.splitOn '\n' =
        above ++ [row, front ++ ['^']] ∧ diagnostic.IsDrawn source.toList row front := by
  obtain ⟨hlt, herror, hwarning⟩ := start_of_mem hmem
  have hplace := Text.place?_of_lt hlt
  have hfeed := Text.feedAt_cases source.toList diagnostic.span.start
  have hline := Text.lineFeed_not_mem_lineAt source.toList diagnostic.span.start
  obtain ⟨above, hrows⟩ := exists_rows hplace hfeed hline file
  refine ⟨by rw [hplace]; rfl, above, _, _, hrows, rfl, ?caret, ?error, ?warning⟩
  case caret => exact not_mem_margin _ _ (by decide) (by decide) (by decide)
  case error =>
    intro hseverity
    obtain ⟨c, rest, hdrop, hspace⟩ := herror hseverity
    exact pointsAt_margin hdrop hspace
  case warning =>
    intro width unit hfault
    have hseverity : diagnostic.severity = .warning := by
      rw [severity, hfault, Fault.severity]
    have hcolumn : Text.column source.toList diagnostic.span.start = 0 :=
      congrArg List.length (hwarning hseverity)
    rw [length_margin, hcolumn, Nat.zero_sub, Nat.add_zero]

/-- The mark that opens the quoted text stands behind three blanks, which are left out. -/
theorem isDrawn_quoted_line :
    ⟨.unterminatedString, ⟨9, 11⟩⟩ ∈ (tokenize "(\n  a\n   \"b").diagnostics ∧
      ∃ above row front,
        (report ⟨.unterminatedString, ⟨9, 11⟩⟩ "(\n  a\n   \"b" "a.src").toList.splitOn '\n' =
          above ++ [row, front ++ ['^']] ∧
        IsDrawn ⟨.unterminatedString, ⟨9, 11⟩⟩ "(\n  a\n   \"b".toList row front := by
  have hmem : ⟨.unterminatedString, ⟨9, 11⟩⟩ ∈ (tokenize "(\n  a\n   \"b").diagnostics := by
    decide +kernel
  exact ⟨hmem, (isDrawn_report "(\n  a\n   \"b" "a.src" {} hmem).2⟩

end Diagnostic

end Offside
