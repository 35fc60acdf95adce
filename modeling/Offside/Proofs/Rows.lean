import Offside.Proofs.Pairing
import Offside.Proofs.Reports
import Offside.Proofs.Words

/-!
# The rows of a report

Below its header a report has four rows: the file, an empty gutter, the line, and the caret. The
header is one row unless the text that it quotes holds a line feed. One fault of a source quotes
such a text, the escape of a backslash right before a line feed, and its header is two rows.
-/

namespace Offside

/-! ### Quoted texts -/

namespace Text

theorem attempt_of_lineFeed_mem {text : List Char} (h : '\n' ∈ attempt text) :
    attempt text = ['\n'] := by
  have hdigits : ∀ rest : List Char, '\n' ∉ rest.takeWhile isHexDigit := by
    intro rest hmem
    exact absurd (List.mem_takeWhile_imp hmem) (by decide)
  revert h
  fun_cases attempt text with
  | case1 => simp
  | case2 rest => simp [hdigits]
  | case3 rest => simp [hdigits]
  | case4 c rest => simp [eq_comm]

theorem eq_of_decode_error {text bad : List Char} (h : decode text = .error bad)
    (hfeed : '\n' ∈ bad) : bad = ['\\', '\n'] := by
  obtain ⟨-, rest, -, more, -, rfl, -, hread⟩ := exists_of_decode_error h
  have hmore : '\n' ∈ more := (List.mem_cons.1 hfeed).resolve_left (by decide)
  rw [eq_attempt_of_readEscape hread] at hmore ⊢
  rw [attempt_of_lineFeed_mem hmore]

end Text

/-- The text that stands in the tip as it is. -/
def Fault.quotation : Fault → List Char
  | invalidIdentifier lexeme | invalidNumber lexeme | integerOverflow lexeme => lexeme.toList
  | invalidEscape escape => escape.toList
  | _ => []

theorem Literal.quotation_of_word {lexeme : String} {fault : Fault}
    (h : word lexeme = .error fault) : fault.quotation ⊆ lexeme.toList := by
  have hreads := reads_word Unicode.classes lexeme
  rw [h] at hreads
  cases hreads with
  | invalidIdentifier => exact List.Subset.refl _
  | overflow => exact List.Subset.refl _
  | invalidNumber => exact List.Subset.refl _
  | unrecognised => exact List.nil_subset _

theorem Literal.eq_of_lineFeed_mem_quotation {quote : Text.Quote} {body : String} {fault : Fault}
    (h : quoted quote body = .error fault) (hfeed : '\n' ∈ fault.quotation) :
    fault = .invalidEscape "\\\n" := by
  have hfault := isOfQuoted_of_quoted h
  cases fault with
  | invalidEscape bad =>
    have hdecode := decodeBody_eq_error_iff.1 (decodeBody_of_quoted h)
    have hbad : bad.toList = "\\\n".toList := Text.eq_of_decode_error hdecode hfeed
    rw [String.toList_inj.1 hbad]
  | invalidRune payload => cases hfeed
  | _ => cases hfault

theorem Lexeme.eq_of_lineFeed_mem_quotation {lexeme : Lexeme} {after : List Char} {fault : Fault}
    (hstands : lexeme.StandsBefore after) (h : lexeme.reading = .error fault)
    (hfeed : '\n' ∈ fault.quotation) : fault = .invalidEscape "\\\n" := by
  cases lexeme with
  | word first rest =>
    -- A word ends in front of the first blank, so there is no line feed to be quoted.
    have hmem := Literal.quotation_of_word h hfeed
    rw [String.toList_ofList] at hmem
    exact absurd (hstands.1 '\n' hmem) (by decide)
  | symbol mark => cases h
  | quoted quote body => exact Literal.eq_of_lineFeed_mem_quotation h hfeed
  | unclosed quote body => cases quote <;> (cases h; cases hfeed)

theorem Fault.severity_of_mem_quotation {fault : Fault} {c : Char} (h : c ∈ fault.quotation) :
    fault.severity = .error := by
  cases fault with
  | ambiguousIndentation width unit => cases h
  | _ => rfl

namespace Diagnostic

variable {source file : String} {options : Options} {diagnostic : Diagnostic}

/-- What a report of a pass quotes stands in one line, but for one escape. -/
theorem eq_of_lineFeed_mem_quotation
    (hmem : diagnostic ∈ (tokenize source options).diagnostics)
    (hfeed : '\n' ∈ diagnostic.fault.quotation) : diagnostic.fault = .invalidEscape "\\\n" := by
  obtain ⟨items, tail, hlayout⟩ : ∃ items tail, Layout.ofText source.toList = ⟨items, tail⟩ :=
    ⟨_, _, rfl⟩
  have herror : diagnostic.isError = true :=
    decide_eq_true (Fault.severity_of_mem_quotation hfeed)
  rw [Layout.diagnostics_tokenize options hlayout] at hmem
  obtain ⟨before, item, after, rfl, hfault⟩ := exists_item_of_mem_diagnosticsFrom hmem herror
  have hpieces := Layout.pieces_ofText source.toList
  rw [hlayout, Layout.pieces_mk_append] at hpieces
  have hread := (areRead_of_pieces_eq_append hpieces.symm).2.1
  exact Lexeme.eq_of_lineFeed_mem_quotation hread (Cursor.eq_of_mem_fault? hfault).1 hfeed

/-! ### Headers -/

theorem lineFeed_not_mem_tip {fault : Fault} {tip : String} (h : '\n' ∉ fault.quotation)
    (htip : tip ∈ fault.tip?) : '\n' ∉ tip.toList := by
  cases fault with
  | unrecognisedLexeme lexeme => cases htip
  | ambiguousIndentation width unit =>
    have hwidth := lineFeed_not_mem_toDigits width
    have hunit := lineFeed_not_mem_toDigits unit
    obtain rfl := Option.some.inj htip
    simp [Nat.toString_eq_repr, Nat.toList_repr, hwidth, hunit]
  | _ =>
    obtain rfl := Option.some.inj htip
    simp_all [Fault.quotation]

theorem lineFeed_not_mem_header (h : '\n' ∉ diagnostic.fault.quotation) :
    '\n' ∉ diagnostic.header.toList := by
  have hseverity : '\n' ∉ diagnostic.severity.render.toList := by
    cases diagnostic.severity <;> decide
  have hname : '\n' ∉ diagnostic.fault.name.toList := by
    cases diagnostic.fault <;> simp [Fault.name]
  unfold header
  split
  next tip htip =>
    have htext := lineFeed_not_mem_tip h htip
    simp [hseverity, hname, htext]
  next => simp [hseverity, hname]

/-- The rows of the header. The escape at a line feed is quoted over the end of the first row. -/
def headerRows (diagnostic : Diagnostic) : List (List Char) :=
  if diagnostic.fault = .invalidEscape "\\\n" then
    ["error: InvalidEscape (Unknown escape sequence `\\".toList, "`)".toList]
  else [diagnostic.header.toList]

theorem splitOn_header (hmem : diagnostic ∈ (tokenize source options).diagnostics) :
    diagnostic.header.toList.splitOn '\n' = diagnostic.headerRows := by
  unfold headerRows
  split_ifs with hfault
  · rw [header, severity, hfault]
    decide +kernel
  · apply List.splitOn_eq_singleton
    exact lineFeed_not_mem_header (mt (eq_of_lineFeed_mem_quotation hmem) hfault)

/-! ### Rows below the header -/

def rowsBelow (file : String) (place : Text.Place) : List (List Char) :=
  [("-> " ++ file).toList, (gutter place.number).toList, (sourceRow place).toList,
    (caretRow place).toList]

theorem lineFeed_not_mem_rowsBelow {text : List Char} {position : Nat} {place : Text.Place}
    (hplace : Text.place? text position = some place) (hfile : '\n' ∉ file.toList) :
    ∀ row ∈ rowsBelow file place, '\n' ∉ row := by
  have hlt := (Text.place?_eq_some_iff.1 hplace).lt
  have hfeed := Text.feedAt_cases text position
  have hline := Text.lineFeed_not_mem_lineAt text position
  rw [Text.place?_of_lt hlt, Option.some.injEq] at hplace
  subst hplace
  have hgutter : '\n' ∉ (gutter (Text.lineNumber text position)).toList := by
    simp [gutter]
  have hsource := lineFeed_not_mem_label (Text.lineNumber text position)
  have hcaret := not_mem_margin (Text.lineNumber text position) (Text.column text position -
    ((Text.lineAt text position).takeWhile isIndent).length) (c := '\n') (by decide) (by decide)
    (by decide)
  rw [rowsBelow, toList_sourceRow hfeed, toList_caretRow hfeed]
  simp [hfile, hgutter, hsource, hcaret, lineFeed_not_mem_shown hline]

theorem splitOn_report_of_place? {place : Text.Place}
    (hplace : Text.place? source.toList diagnostic.span.start = some place)
    (hfile : '\n' ∉ file.toList) :
    (diagnostic.report source file).toList.splitOn '\n' =
      diagnostic.header.toList.splitOn '\n' ++ rowsBelow file place := by
  have hreport : (diagnostic.report source file).toList =
      diagnostic.header.toList ++ '\n' :: ['\n'].intercalate (rowsBelow file place) := by
    rw [report, hplace]
    simp [rowsBelow, List.intercalate]
  rw [hreport, List.splitOn_append_cons_self, List.splitOn_intercalate '\n'
    (lineFeed_not_mem_rowsBelow hplace hfile) (List.cons_ne_nil _ _)]

/-- A report has five rows: the header, the file, an empty gutter, the line and the caret. Only for
the escape that ends with a line feed there are six, since the header is then two rows. -/
theorem splitOn_report (source file : String) (options : Options) {diagnostic : Diagnostic}
    (hmem : diagnostic ∈ (tokenize source options).diagnostics) (hfile : '\n' ∉ file.toList) :
    ∃ place, Text.place? source.toList diagnostic.span.start = some place ∧
      (diagnostic.report source file).toList.splitOn '\n' =
        diagnostic.headerRows ++ rowsBelow file place ∧
      ((diagnostic.report source file).toList.splitOn '\n').length =
        if diagnostic.fault = .invalidEscape "\\\n" then 6 else 5 := by
  have hplace := Text.place?_of_lt (start_of_mem hmem).1
  have hrows := splitOn_report_of_place? hplace hfile
  rw [splitOn_header hmem] at hrows
  refine ⟨_, hplace, hrows, ?_⟩
  rw [hrows, headerRows]
  split_ifs <;> rfl

/-- The header and the four rows below it, for a number that is none. -/
theorem five_rows_of_invalid_number :
    ⟨.invalidNumber "1x", ⟨2, 4⟩⟩ ∈ (tokenize "a 1x").diagnostics ∧ '\n' ∉ "a.src".toList ∧
      ∃ place, Text.place? "a 1x".toList 2 = some place ∧
        (report ⟨.invalidNumber "1x", ⟨2, 4⟩⟩ "a 1x" "a.src").toList.splitOn '\n' =
          (header ⟨.invalidNumber "1x", ⟨2, 4⟩⟩).toList :: rowsBelow "a.src" place ∧
        ((report ⟨.invalidNumber "1x", ⟨2, 4⟩⟩ "a 1x" "a.src").toList.splitOn '\n').length = 5 := by
  have hmem : ⟨.invalidNumber "1x", ⟨2, 4⟩⟩ ∈ (tokenize "a 1x").diagnostics := by
    decide +kernel
  have hfile : '\n' ∉ "a.src".toList := by
    decide
  have hfault : Fault.invalidNumber "1x" ≠ .invalidEscape "\\\n" := nofun
  have hrows := splitOn_report "a 1x" "a.src" {} hmem hfile
  simp only [headerRows, if_neg hfault, List.singleton_append] at hrows
  exact ⟨hmem, hfile, hrows⟩

/-- The escape is quoted with the line feed that it ends with, and the report is one row longer. -/
theorem six_rows_of_escaped_line_feed :
    ⟨.invalidEscape "\\\n", ⟨0, 4⟩⟩ ∈ (tokenize "\"\\\n\"").diagnostics ∧ '\n' ∉ "a.src".toList ∧
      ((report ⟨.invalidEscape "\\\n", ⟨0, 4⟩⟩ "\"\\\n\"" "a.src").toList.splitOn
        '\n').length = 6 := by
  have hmem : ⟨.invalidEscape "\\\n", ⟨0, 4⟩⟩ ∈ (tokenize "\"\\\n\"").diagnostics := by
    decide +kernel
  have hfile : '\n' ∉ "a.src".toList := by
    decide
  have hplace := Text.place?_of_lt (start_of_mem hmem).1
  refine ⟨hmem, hfile, ?_⟩
  rw [splitOn_report_of_place? hplace hfile, splitOn_header hmem, headerRows, if_pos rfl]
  rfl

end Diagnostic

end Offside
