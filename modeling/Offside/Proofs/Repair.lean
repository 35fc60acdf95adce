import Offside.Proofs.Outline

/-!
# Failures are local

Where a literal fails, another one of the same length can take its place. All that changes is that
the error is gone and a token is there instead.
-/

namespace Offside

open Text (Quote)

/-! ### Faults and literals -/

namespace Fault

def IsOfWord : Fault → Prop
  | unrecognisedLexeme _ | invalidIdentifier _ | invalidNumber _ | integerOverflow _ => True
  | _ => False

def IsOfQuoted : Fault → Prop
  | invalidEscape _ | invalidRune _ => True
  | _ => False

theorem not_isOfQuoted {fault : Fault} (h : fault.IsOfWord) : ¬fault.IsOfQuoted := by
  cases fault <;> simp_all [IsOfWord, IsOfQuoted]

/-- The characters are a literal of the given kind that can take the place of one with the fault: a
word takes the place of a word, and a quoted text that of a quoted text. -/
def IsCuredBy (fault : Fault) (replacement : List Char) (kind : TokenKind) : Prop :=
  fault.IsOfWord ∧ (∀ c ∈ replacement, Text.isWordPart c = true) ∧
      Literal.word (String.ofList replacement) = .ok kind ∨
    fault.IsOfQuoted ∧ ∃ quote body, replacement = (Lexeme.quoted quote body).chars ∧
      Text.quotedBody? quote.mark (body ++ [quote.mark]) = some body ∧
        Literal.quoted quote (String.ofList body) = .ok kind

end Fault

theorem Fault.IsCuredBy.isError {diagnostic : Diagnostic} {replacement : List Char}
    {kind : TokenKind} (h : diagnostic.fault.IsCuredBy replacement kind) :
    diagnostic.isError = true := by
  obtain ⟨fault, span⟩ := diagnostic
  rcases h with ⟨hfault, -⟩ | ⟨hfault, -⟩
  · cases fault <;> first | rfl | cases hfault
  · cases fault <;> first | rfl | cases hfault

namespace Literal

theorem isOfWord_of_integer {lexeme : String} {digits : List Char} {type : IntegerType}
    {suffixed : Bool} {fault : Fault} (h : integer lexeme digits type suffixed = .error fault) :
    fault.IsOfWord := by
  simp only [integer] at h
  split_ifs at h
  rw [← Except.error.inj h]
  trivial

theorem isOfWord_of_number {lexeme : String} {fault : Fault} (h : number lexeme = .error fault) :
    fault.IsOfWord := by
  rw [number_eq] at h
  split_ifs at h
  · exact isOfWord_of_integer h
  · split at h
    · exact isOfWord_of_integer h
    · rw [← Except.error.inj h]
      trivial

theorem isOfWord_of_word {lexeme : String} {fault : Fault} (h : word lexeme = .error fault) :
    fault.IsOfWord := by
  have hunknown : Fault.IsOfWord (.unrecognisedLexeme lexeme) := trivial
  have hinvalid : Fault.IsOfWord (.invalidIdentifier lexeme) := trivial
  unfold word at h
  split at h
  · rwa [← Except.error.inj h]
  · split_ifs at h
    · rwa [← Except.error.inj h]
    · exact isOfWord_of_number h
    · rwa [← Except.error.inj h]

theorem isOfQuoted_of_decodeBody {body : String} {fault : Fault}
    (h : decodeBody body = .error fault) : fault.IsOfQuoted := by
  unfold decodeBody at h
  split at h
  · cases h
  · rw [← Except.error.inj h]
    trivial

theorem isOfQuoted_of_quoted {quote : Quote} {body : String} {fault : Fault}
    (h : quoted quote body = .error fault) : fault.IsOfQuoted := by
  cases hdecode : decodeBody body with
  | error bad =>
    have hbad := isOfQuoted_of_decodeBody hdecode
    cases quote with
    | double =>
      rw [quoted, string, hdecode] at h
      rwa [← Except.error.inj h]
    | single =>
      rw [quoted, rune, hdecode] at h
      rwa [← Except.error.inj h]
  | ok text =>
    cases quote with
    | double =>
      rw [quoted, string, hdecode] at h
      cases h
    | single =>
      simp only [quoted, rune, hdecode] at h
      split at h
      · cases h
      · rw [← Except.error.inj h]
        trivial

theorem ne_nil_of_word {text : List Char} {kind : TokenKind}
    (h : word (String.ofList text) = .ok kind) : text ≠ [] := by
  rintro rfl
  cases h

end Literal

theorem Fault.IsCuredBy.exists_lexeme {fault : Fault} {replacement after : List Char}
    {kind : TokenKind} {lexeme : Lexeme} {parts : List Piece}
    (h : fault.IsCuredBy replacement kind) (hreading : lexeme.reading = .error fault)
    (hstands : lexeme.StandsBefore after) (hparts : AreRead (lexeme.chars ++ after) parts) :
    ∃ other : Lexeme, other.chars = replacement ∧ other.reading = .ok kind ∧
      other.StandsBefore after ∧ AreRead (other.chars ++ after) parts := by
  cases lexeme with
  | word first rest =>
    have hfault := Literal.isOfWord_of_word hreading
    rcases h with ⟨-, hword, hkind⟩ | ⟨hquoted, -⟩
    · obtain ⟨c, others, rfl⟩ := List.exists_cons_of_ne_nil (Literal.ne_nil_of_word hkind)
      have hfirst := Text.isWordPart_eq_true_iff.1 (hstands.1 first List.mem_cons_self)
      have hc := Text.isWordPart_eq_true_iff.1 (hword c List.mem_cons_self)
      refine ⟨.word c others, rfl, hkind, ⟨hword, hstands.2⟩, ?_⟩
      exact hparts.of_literal hfirst.1 hc.2.2.2.2 fun _ => hstands.1 first List.mem_cons_self
    · exact absurd hquoted (Fault.not_isOfQuoted hfault)
  | symbol mark => cases hreading
  | quoted quote body =>
    have hfault := Literal.isOfQuoted_of_quoted hreading
    rcases h with ⟨hword, -⟩ | ⟨-, other, text, rfl, hclosed, hkind⟩
    · exact absurd hfault (Fault.not_isOfQuoted hword)
    · refine ⟨.quoted other text, rfl, hkind, hclosed, ?_⟩
      have hquote : Text.isSpace quote.mark = false := by
        cases quote <;> decide
      have hother : Symbol.isGlyph other.mark = false ∧ Text.isWordPart other.mark = false := by
        cases other <;> decide
      refine hparts.of_literal hquote hother.1 ?_
      intro hpart
      rw [hother.2] at hpart
      cases hpart
  | unclosed quote body =>
    have hfault := Except.error.inj hreading
    rcases h with ⟨hword, -⟩ | ⟨hquoted, -⟩
    · rw [← hfault] at hword
      cases quote <;> cases hword
    · rw [← hfault] at hquoted
      cases quote <;> cases hquoted

/-! ### The layout with another literal -/

theorem exists_item_of_diagnostic {options : Options} {cursor : Cursor} {items : List Item}
    {diagnostic : Diagnostic} (h : diagnostic ∈ diagnosticsFrom options cursor items) :
    ∃ before item after, items = before ++ item :: after ∧
      (diagnostic ∈ (cursor.behind before).warnings item options ∨
        diagnostic ∈ (cursor.behind before).fault? item) := by
  induction items generalizing cursor with
  | nil => cases h
  | cons item items ih =>
    rw [diagnosticsFrom, List.mem_append, List.mem_append, Option.mem_toList] at h
    rcases h with hhere | hrest
    · exact ⟨[], item, items, rfl, hhere⟩
    · obtain ⟨before, other, after, rfl, hfound⟩ := ih hrest
      exact ⟨item :: before, other, after, rfl, hfound⟩

theorem exists_item_of_mem_diagnosticsFrom {options : Options} {cursor : Cursor}
    {items : List Item} {diagnostic : Diagnostic}
    (h : diagnostic ∈ diagnosticsFrom options cursor items) (herror : diagnostic.isError = true) :
    ∃ before item after, items = before ++ item :: after ∧
      diagnostic ∈ (cursor.behind before).fault? item := by
  obtain ⟨before, item, after, hitems, hwarning | hfault⟩ := exists_item_of_diagnostic h
  · rw [Cursor.isError_of_mem_warnings hwarning] at herror
    cases herror
  · exact ⟨before, item, after, hitems, hfault⟩

theorem Cursor.eq_of_mem_fault? {cursor : Cursor} {item : Item} {diagnostic : Diagnostic}
    (h : diagnostic ∈ cursor.fault? item) : item.lexeme.reading = .error diagnostic.fault ∧
      diagnostic.span = ⟨cursor.start item, (cursor.next item).position⟩ := by
  cases hreading : item.lexeme.reading with
  | ok kind =>
    rw [cursor.fault?_of_ok hreading] at h
    cases h
  | error fault =>
    rw [cursor.fault?_of_error hreading] at h
    cases h
    exact ⟨rfl, rfl⟩

def Text.overwrite (text : List Char) (span : Span) (replacement : List Char) : List Char :=
  text.take span.start ++ (replacement ++ text.drop span.stop)

theorem Text.overwrite_append (front middle rest replacement : List Char) :
    overwrite (front ++ (middle ++ rest)) ⟨front.length, front.length + middle.length⟩ replacement =
      front ++ (replacement ++ rest) := by
  have hdrop : (front ++ middle ++ rest).drop (front ++ middle).length = rest := List.drop_left
  rw [List.length_append, List.append_assoc] at hdrop
  rw [overwrite, List.take_left, hdrop]

namespace Layout

variable {text : List Char} {before after : List Item} {item : Item} {tail : List Trivia}

theorem overwrite_eq (hlayout : ofText text = ⟨before ++ item :: after, tail⟩) (other : Lexeme) :
    Text.overwrite text ⟨(Cursor.behind {} before).start item,
        ((Cursor.behind {} before).next item).position⟩ other.chars =
      Piece.text (pieces ⟨before ++ { item with lexeme := other } :: after, tail⟩) := by
  have htext : text = Piece.text (leadingPieces before item.gap) ++
      (item.lexeme.chars ++ Piece.text (pieces ⟨after, tail⟩)) := by
    conv_lhs => rw [← text_ofText text]
    rw [hlayout, pieces_mk_append, Piece.text_append]
    rfl
  have hstart : (Cursor.behind {} before).start item =
      (Piece.text (leadingPieces before item.gap)).length :=
    (Cursor.position_behind_add {} before item.gap).trans (Nat.zero_add _)
  have hstop : ((Cursor.behind {} before).next item).position =
      (Piece.text (leadingPieces before item.gap)).length + item.lexeme.chars.length := by
    rw [← hstart]
    rfl
  rw [hstart, hstop, htext, Text.overwrite_append, pieces_mk_append, Piece.text_append]
  rfl

/-- A literal that can take the place of one that fails is read there. -/
theorem exists_areRead {replacement : List Char} {fault : Fault} {kind : TokenKind}
    (hlayout : ofText text = ⟨before ++ item :: after, tail⟩)
    (hreading : item.lexeme.reading = .error fault) (hcure : fault.IsCuredBy replacement kind) :
    ∃ other : Lexeme, other.chars = replacement ∧ other.reading = .ok kind ∧
      AreRead [] (pieces ⟨before ++ { item with lexeme := other } :: after, tail⟩) := by
  have hpieces : Offside.pieces text =
      leadingPieces before item.gap ++ .lexeme item.lexeme :: pieces ⟨after, tail⟩ := by
    rw [← pieces_ofText, hlayout, pieces_mk_append]
  obtain ⟨hfront, hstands, hrest⟩ := areRead_of_pieces_eq_append hpieces
  rw [List.append_nil] at hstands
  obtain ⟨other, hchars, hkind, hother, hparts⟩ := hcure.exists_lexeme hreading hstands hfront
  refine ⟨other, hchars, hkind, ?_⟩
  rw [pieces_mk_append, areRead_append, List.append_nil]
  refine ⟨hparts, ?_, hrest⟩
  rw [List.append_nil]
  exact hother

end Layout

namespace Cursor

variable {cursor : Cursor} {item : Item} {other : Lexeme} {kind : TokenKind}

theorem matches_next_of_length (h : other.length = item.lexeme.length) :
    Matches 0 (cursor.next item) (cursor.next { item with lexeme := other }) := by
  refine ⟨?_, Indentation.Gauge.Agrees.refl _⟩
  simp only [next, h]
  rfl

theorem outlines_of_error {fault : Fault} (h : item.lexeme.reading = .error fault) :
    cursor.outlines item = (item.measure cursor.gauge).1.outlines := by
  rw [outlines_eq, h]
  exact List.append_nil _

theorem outlines_of_ok (h : item.lexeme.reading = .ok kind) :
    cursor.outlines item = (item.measure cursor.gauge).1.outlines ++
      [⟨kind, some ⟨cursor.start item, (cursor.next item).position⟩⟩] := by
  rw [outlines_eq, h]
  rfl

end Cursor

section Repair

variable {before after : List Item} {item : Item} {other : Lexeme} {kind : TokenKind}
  {diagnostic : Diagnostic}

theorem exists_diagnosticsFrom (options : Options) (hlength : other.length = item.lexeme.length)
    (hfault : diagnostic ∈ (Cursor.behind {} before).fault? item)
    (hkind : other.reading = .ok kind) :
    ∃ first last,
      diagnosticsFrom options {} (before ++ item :: after) = first ++ diagnostic :: last ∧
        diagnosticsFrom options {} (before ++ { item with lexeme := other } :: after) =
          first ++ last := by
  generalize hcursor : Cursor.behind {} before = cursor at hfault
  -- Behind both literals the pass is at the same place and level.
  have hmatches : Cursor.Matches 0 (cursor.next item)
      (cursor.next { item with lexeme := other }) := Cursor.matches_next_of_length hlength
  refine ⟨diagnosticsFrom options {} before ++ cursor.warnings item options,
    diagnosticsFrom options (cursor.next item) after, ?_, ?_⟩
  · rw [diagnosticsFrom_append, hcursor, diagnosticsFrom, hfault]
    simp only [List.append_assoc]
    rfl
  · rw [diagnosticsFrom_append, hcursor, diagnosticsFrom, cursor.fault?_of_ok hkind,
      hmatches.diagnosticsFrom_eq]
    simp only [List.append_assoc]
    rfl

theorem exists_outlines (tail : List Trivia) (hlength : other.length = item.lexeme.length)
    (hfault : diagnostic ∈ (Cursor.behind {} before).fault? item)
    (hkind : other.reading = .ok kind) :
    ∃ first last, Layout.outlines ⟨before ++ item :: after, tail⟩ = first ++ last ∧
      Layout.outlines ⟨before ++ { item with lexeme := other } :: after, tail⟩ =
        first ++ ⟨kind, some diagnostic.span⟩ :: last := by
  obtain ⟨hreading, hspan⟩ := Cursor.eq_of_mem_fault? hfault
  generalize hcursor : Cursor.behind {} before = cursor at hspan
  have hmatches : Cursor.Matches 0 (cursor.next item)
      (cursor.next { item with lexeme := other }) := Cursor.matches_next_of_length hlength
  refine ⟨outlinesFrom {} before ++ (item.measure cursor.gauge).1.outlines,
    outlinesFrom (cursor.next item) after ++
      levelOutlines ((cursor.next item).behind after).gauge.level 0, ?_, ?_⟩
  · rw [Layout.outlines, outlinesFrom_append, Cursor.behind_append, hcursor, outlinesFrom,
      Cursor.outlines_of_error hreading]
    simp only [List.append_assoc]
    rfl
  · rw [Layout.outlines, outlinesFrom_append, Cursor.behind_append, hcursor, outlinesFrom,
      Cursor.outlines_of_ok hkind, hmatches.outlinesFrom_eq, hmatches.position, hspan,
      (hmatches.behind after).gauge.level]
    simp only [List.append_assoc]
    rfl

end Repair

/-- A literal that fails in one text is a token in the other one, and there is no other difference
but in who owns the trivia. -/
structure Findings.IsRepairOf (repaired broken : Findings) (diagnostic : Diagnostic)
    (kind : TokenKind) : Prop where
  diagnostics : ∃ before after, broken.diagnostics = before ++ diagnostic :: after ∧
    repaired.diagnostics = before ++ after
  outlines : ∃ before after, broken.outlines = before ++ after ∧
    repaired.outlines = before ++ ⟨kind, some diagnostic.span⟩ :: after

/-- Failures are local: where a literal of the same length takes the place of one that fails,
nothing else changes. -/
theorem isRepairOf_tokenize (source : String) (options : Options) {diagnostic : Diagnostic}
    {replacement : List Char} {kind : TokenKind}
    (hmem : diagnostic ∈ (tokenize source options).diagnostics)
    (hlength : replacement.length = diagnostic.span.length)
    (hcure : diagnostic.fault.IsCuredBy replacement kind) :
    (tokenize (String.ofList (Text.overwrite source.toList diagnostic.span replacement))
      options).IsRepairOf (tokenize source options) diagnostic kind := by
  obtain ⟨items, tail, hlayout⟩ : ∃ items tail, Layout.ofText source.toList = ⟨items, tail⟩ :=
    ⟨_, _, rfl⟩
  rw [Layout.diagnostics_tokenize options hlayout] at hmem
  obtain ⟨before, item, after, rfl, hfault⟩ :=
    exists_item_of_mem_diagnosticsFrom hmem hcure.isError
  obtain ⟨hreading, hspan⟩ := Cursor.eq_of_mem_fault? hfault
  obtain ⟨other, rfl, hkind, hread⟩ := Layout.exists_areRead hlayout hreading hcure
  have hrepaired := Layout.ofText_text hread
  rw [← Layout.overwrite_eq hlayout, ← hspan, ← String.toList_ofList (l := Text.overwrite _ _ _)]
    at hrepaired
  have hsame : other.length = item.lexeme.length := by
    have hnext : ((Cursor.behind {} before).next item).position =
        (Cursor.behind {} before).start item + item.lexeme.length := rfl
    rw [hspan, Span.length, hnext, Nat.add_sub_cancel_left] at hlength
    exact hlength
  constructor
  · rw [Layout.diagnostics_tokenize options hlayout, Layout.diagnostics_tokenize options hrepaired]
    exact exists_diagnosticsFrom options hsame hfault hkind
  · rw [Layout.outlines_tokenize options hlayout, Layout.outlines_tokenize options hrepaired]
    exact exists_outlines tail hsame hfault hkind

/-- The line keeps its warning when the word in it is cured. -/
theorem isRepairOf_second_line :
    (tokenize "(\n   $").diagnostics =
        [⟨.ambiguousIndentation 3 2, ⟨2, 5⟩⟩, ⟨.unrecognisedLexeme "$", ⟨5, 6⟩⟩] ∧
      (tokenize "(\n   x").IsRepairOf (tokenize "(\n   $") ⟨.unrecognisedLexeme "$", ⟨5, 6⟩⟩
        (.ofName "x") := by
  have hfound : (tokenize "(\n   $").diagnostics =
      [⟨.ambiguousIndentation 3 2, ⟨2, 5⟩⟩, ⟨.unrecognisedLexeme "$", ⟨5, 6⟩⟩] := by
    decide +kernel
  have hmem : ⟨.unrecognisedLexeme "$", ⟨5, 6⟩⟩ ∈ (tokenize "(\n   $").diagnostics := by
    rw [hfound]
    decide
  have hcure : Fault.IsCuredBy (.unrecognisedLexeme "$") ['x'] (.ofName "x") :=
    .inl ⟨trivial, List.forall_mem_singleton.2 (by decide +kernel), by decide +kernel⟩
  have htext : String.ofList (Text.overwrite "(\n   $".toList ⟨5, 6⟩ ['x']) = "(\n   x" := by
    decide +kernel
  have hrepair := isRepairOf_tokenize "(\n   $" {} hmem rfl hcure
  rw [htext] at hrepair
  exact ⟨hfound, hrepair⟩

end Offside
