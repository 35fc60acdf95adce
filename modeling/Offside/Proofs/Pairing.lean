import Offside.Proofs.BadEscapes
import Offside.Proofs.Diagnostics
import Offside.Proofs.Safety

/-!
# Backslashes come in pairs

A pass looks for the end of a quoted text by taking every backslash together with the character
behind it, and decoding reads longer escapes. Both agree on where the pairs are. So the body of a
quoted text holds no mark that could have closed it, and no backslash is left over at its end.
-/

namespace Offside

open Text (Quote)

namespace Text

/-! ### Pairs -/

/-- The characters that belong to no pair of a backslash and the character that it takes. A
backslash is one of them only as the last character of the text. -/
def unpaired : List Char → List Char
  | [] => []
  | '\\' :: _ :: rest => unpaired rest
  | c :: rest => c :: unpaired rest

/-- In no place could the mark close the text, and no backslash lacks a character to take. -/
structure IsPaired (mark : Char) (body : List Char) : Prop where
  mark : mark ∉ unpaired body
  backslash : '\\' ∉ unpaired body

theorem unpaired_cons {c : Char} (h : c ≠ '\\') (rest : List Char) :
    unpaired (c :: rest) = c :: unpaired rest := by
  rw [unpaired.eq_def]
  split <;> simp_all

theorem unpaired_append_of_not_mem {text : List Char} (h : '\\' ∉ text) (rest : List Char) :
    unpaired (text ++ rest) = text ++ unpaired rest := by
  induction text with
  | nil => rfl
  | cons c others ih =>
    rw [List.mem_cons, not_or] at h
    rw [List.cons_append, unpaired_cons (Ne.symm h.1), ih h.2, List.cons_append]

theorem isPaired_of_quotedBody? {mark : Char} {text body : List Char}
    (h : quotedBody? mark text = some body) : IsPaired mark body := by
  fun_induction quotedBody? mark text generalizing body with
  | case1 => cases h
  | case2 c rest ih =>
    obtain ⟨inner, hinner, rfl⟩ := Option.map_eq_some_iff.1 h
    exact ⟨(ih hinner).mark, (ih hinner).backslash⟩
  | case3 rest hbackslash =>
    cases h
    exact ⟨List.not_mem_nil, List.not_mem_nil⟩
  | case4 c rest hbackslash hother ih =>
    obtain ⟨inner, hinner, rfl⟩ := Option.map_eq_some_iff.1 h
    have hc : c ≠ '\\' := by
      rintro rfl
      cases rest with
      | nil => cases hinner
      | cons d others => exact hbackslash d others rfl rfl
    constructor
    · rw [unpaired_cons hc, List.mem_cons, not_or]
      exact ⟨Ne.symm hother, (ih hinner).mark⟩
    · rw [unpaired_cons hc, List.mem_cons, not_or]
      exact ⟨Ne.symm hc, (ih hinner).backslash⟩

/-! ### Pairs and escapes -/

theorem not_mem_of_spells {text : List Char} {number : Nat} (h : Spells 16 text number) :
    '\\' ∉ text := by
  intro hmem
  exact absurd (((spells_sixteen_iff text number).1 h).1 '\\' hmem) (by decide)

theorem Stands.unpaired_append {text : List Char} {c : Char} (h : Stands text c)
    (rest : List Char) : unpaired (text ++ rest) = unpaired text ++ unpaired rest := by
  have hescape : ∀ letter more, '\\' ∉ more →
      unpaired ('\\' :: letter :: more ++ rest) =
        unpaired ('\\' :: letter :: more) ++ unpaired rest := by
    intro letter more hmore
    show unpaired (more ++ rest) = unpaired more ++ unpaired rest
    have hself := unpaired_append_of_not_mem hmore []
    rw [List.append_nil] at hself
    rw [unpaired_append_of_not_mem hmore, hself]
    exact congrArg (· ++ unpaired rest) (List.append_nil more).symm
  cases h with
  | plain hc =>
    rw [List.singleton_append, unpaired_cons hc, unpaired_cons hc]
    rfl
  | named => rfl
  | ascii hdigits hle => exact hescape 'x' _ (not_mem_of_spells hdigits)
  | codePoint hdigits hpos hle =>
    refine hescape 'u' _ ?_
    simp [not_mem_of_spells hdigits]

theorem unpaired_append_of_decode {front decoded : List Char} (h : decode front = .ok decoded)
    (rest : List Char) : unpaired (front ++ rest) = unpaired front ++ unpaired rest := by
  -- No escape ends in the middle of a pair, so the front is cut into pieces between pairs.
  refine decode_induction (motive := fun front _ =>
    unpaired (front ++ rest) = unpaired front ++ unpaired rest) rfl ?cons h
  case cons =>
    intro part others decoded c hpart ih
    rw [List.append_assoc, hpart.unpaired_append, ih, hpart.unpaired_append, List.append_assoc]

theorem backslash_mem_unpaired {text : List Char} (h : decode text = .error ['\\']) :
    '\\' ∈ unpaired text := by
  obtain ⟨front, rest, decoded, more, rfl, hbad, hfront, hread⟩ := exists_of_decode_error h
  obtain rfl : [] = more := (List.cons.inj hbad).2
  obtain rfl : rest = [] := eq_nil_of_attempt_eq_nil (eq_attempt_of_readEscape hread).symm
  rw [unpaired_append_of_decode hfront]
  exact List.mem_append_right _ List.mem_cons_self

end Text

/-! ### Quoted texts of a source -/

namespace Literal

theorem decodeBody_of_quoted {quote : Quote} {body bad : String}
    (h : quoted quote body = .error (.invalidEscape bad)) :
    decodeBody body = .error (.invalidEscape bad) := by
  cases quote with
  | double => exact Text.eq_error_of_map h
  | single =>
    have hreads := readsRune_rune body
    rw [quoted] at h
    rw [h] at hreads
    cases hreads with
    | invalidEscape hdecode => exact hdecode

theorem quoted_ne_of_isPaired {quote : Quote} {body : String}
    (h : Text.IsPaired quote.mark body.toList) :
    quoted quote body ≠ .error (.invalidEscape "\\") := by
  intro hbad
  have hdecode := decodeBody_eq_error_iff.1 (decodeBody_of_quoted hbad)
  exact h.backslash (Text.backslash_mem_unpaired hdecode)

end Literal

theorem Lexeme.eq_quoted_of_reading {lexeme : Lexeme} {bad : String}
    (h : lexeme.reading = .error (.invalidEscape bad)) :
    ∃ quote body, lexeme = .quoted quote body := by
  cases lexeme with
  | word first rest => cases Literal.isOfWord_of_word h
  | symbol mark => cases h
  | quoted quote body => exact ⟨quote, body, rfl⟩
  | unclosed quote body => cases quote <;> cases h

theorem isPaired_of_layout {text : List Char} {before after : List Item} {item : Item}
    {tail : List Trivia} (hlayout : Layout.ofText text = ⟨before ++ item :: after, tail⟩)
    {quote : Quote} {body : List Char} (hquoted : item.lexeme = .quoted quote body) :
    Text.IsPaired quote.mark body := by
  have hpieces := Layout.pieces_ofText text
  rw [hlayout, Layout.pieces_mk_append] at hpieces
  have hread := (areRead_of_pieces_eq_append hpieces.symm).2.1
  rw [hquoted] at hread
  exact Text.isPaired_of_quotedBody? hread

/-- Where a pass stands before the mark that closes a quoted text, the body is paired. -/
theorem Scan.Holds.isPaired {source rest : List Char} {scan : Scan} (h : scan.Holds source)
    {quote : Quote} {start : Nat} {body : String} (hmode : scan.mode = .quoted quote start body)
    (hrest : scan.rest = quote.mark :: rest) : Text.IsPaired quote.mark body.toList := by
  obtain ⟨hplace, ⟨-, -, -, hbody⟩, -⟩ := (holds_iff hmode).1 h
  rw [← hplace.rest, hrest, Text.quotedBody?_cons quote.mark_ne_backslash, if_pos rfl,
    Option.map_some, List.append_nil] at hbody
  exact Text.isPaired_of_quotedBody? hbody

theorem Scan.step_of_closing {scan : Scan} {quote : Quote} {start : Nat} {body : String}
    {rest : List Char} (hmode : scan.mode = .quoted quote start body)
    (hrest : scan.rest = quote.mark :: rest) (options : Options) :
    scan.step options = (scan.advance 1).settle (Literal.quoted quote body) start := by
  rw [step, hrest, hmode]
  dsimp only
  rw [stepQuoted, if_neg quote.mark_ne_backslash, if_pos rfl]

/-- Whatever is decoded in a pass is paired. So no error is about a backslash alone. -/
theorem isPaired_tokenize (source : String) (options : Options) :
    (∀ scan quote start body rest, Scan.Reaches options (.start source.toList) scan →
        scan.mode = .quoted quote start body → scan.rest = quote.mark :: rest →
          scan.step options = (scan.advance 1).settle (Literal.quoted quote body) start ∧
            Text.IsPaired quote.mark body.toList) ∧
      ∀ diagnostic ∈ (tokenize source options).diagnostics,
        diagnostic.fault ≠ .invalidEscape "\\" := by
  constructor
  · intro scan quote start body rest hreach hmode hrest
    have hholds := (Scan.holds_start source.toList).of_reaches hreach
    exact ⟨Scan.step_of_closing hmode hrest options, hholds.isPaired hmode hrest⟩
  · intro diagnostic hmem hfault
    obtain ⟨items, tail, hlayout⟩ : ∃ items tail, Layout.ofText source.toList = ⟨items, tail⟩ :=
      ⟨_, _, rfl⟩
    rw [Layout.diagnostics_tokenize options hlayout] at hmem
    have herror : diagnostic.isError = true := by
      rw [Diagnostic.isError, Diagnostic.severity, hfault]
      rfl
    obtain ⟨before, item, after, rfl, hitem⟩ := exists_item_of_mem_diagnosticsFrom hmem herror
    obtain ⟨hreading, -⟩ := Cursor.eq_of_mem_fault? hitem
    rw [hfault] at hreading
    obtain ⟨quote, body, hquoted⟩ := Lexeme.eq_quoted_of_reading hreading
    have hpaired := isPaired_of_layout hlayout hquoted
    rw [hquoted] at hreading
    rw [← String.toList_ofList (l := body)] at hpaired
    exact Literal.quoted_ne_of_isPaired hpaired hreading

/-- The mark inside the rune is taken by a backslash, and so is the letter at its end. -/
theorem isPaired_inner_mark :
    (∃ scan, Scan.Reaches {} (.start "'\\'\\q'".toList) scan ∧
        scan.mode = .quoted .single 0 "\\'\\q" ∧ scan.rest = [Quote.single.mark] ∧
        Text.IsPaired Quote.single.mark "\\'\\q".toList) ∧
      ⟨.invalidEscape "\\q", ⟨0, 6⟩⟩ ∈ (tokenize "'\\'\\q'").diagnostics ∧
      Fault.invalidEscape "\\q" ≠ .invalidEscape "\\" := by
  obtain ⟨hpaired, hfault⟩ := isPaired_tokenize "'\\'\\q'" {}
  let opened := (Scan.start "'\\'\\q'".toList).step {}
  have hreach : Scan.Reaches {} (.start "'\\'\\q'".toList) ((opened.step {}).step {}) :=
    ((Relation.ReflTransGen.single ⟨by decide, rfl⟩).tail ⟨by decide, rfl⟩).tail ⟨by decide, rfl⟩
  have hmode : ((opened.step {}).step {}).mode = .quoted .single 0 "\\'\\q" := by
    decide
  have hrest : ((opened.step {}).step {}).rest = [Quote.single.mark] := by
    decide
  have hmem : ⟨.invalidEscape "\\q", ⟨0, 6⟩⟩ ∈ (tokenize "'\\'\\q'").diagnostics := by
    decide +kernel
  exact ⟨⟨_, hreach, hmode, hrest, (hpaired _ _ _ _ _ hreach hmode hrest).2⟩, hmem, hfault _ hmem⟩

end Offside
