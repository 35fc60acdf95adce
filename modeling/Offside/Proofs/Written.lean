import Offside.Proofs.Quoting
import Offside.Proofs.Repair
import Offside.Proofs.Slice

/-!
# Shown literals are read back

A token shows its literal between parentheses, and the shown literal makes up a text in which the
same token is found again, and nothing else. Numbers are shown without leading zeros and quoted
texts in their quoted form, so it need not be the literal that was read.
-/

namespace Offside

open Text (Quote)

/-! ### What is shown -/

def Text.insideParentheses (text : List Char) : List Char :=
  let behind := (text.dropWhile (· != '(')).tail
  (behind.reverse.dropWhile (· != ')')).tail.reverse

def TokenKind.tag : TokenKind → String
  | .identifier _ (some _) => ", contextual"
  | _ => ""

/-- The literal that the shown form of a kind holds between its parentheses, without the tag. -/
def TokenKind.shown (kind : TokenKind) (isPrintable : Char → Bool := Text.isPrintable) : String :=
  let inside := Text.insideParentheses (kind.render isPrintable).toList
  String.ofList (inside.take (inside.length - kind.tag.length))

theorem Text.insideParentheses_append {label : List Char} (h : '(' ∉ label) (text : List Char) :
    insideParentheses (label ++ '(' :: (text ++ [')'])) = text := by
  have hlabel : ∀ c ∈ label, (c != '(') = true := by
    intro c hc
    rw [bne_iff_ne]
    rintro rfl
    exact h hc
  simp [insideParentheses, List.dropWhile_append_of_pos hlabel]

namespace TokenKind

def label : TokenKind → String
  | keyword _ => "Keyword"
  | identifier _ _ => "Identifier"
  | boolean _ => "Boolean"
  | integer _ _ _ => "Integer"
  | string _ => "String"
  | rune _ => "Rune"
  | symbol _ => "Symbol"
  | indentation direction => direction.render

theorem isAlpha_of_mem_label (kind : TokenKind) {c : Char} (h : c ∈ kind.label.toList) :
    c.isAlpha = true := by
  have hall : kind.label.toList.all Char.isAlpha = true := by
    cases kind with
    | indentation direction => cases direction <;> decide
    | _ => simp only [label]; decide
  exact List.all_eq_true.1 hall c h

theorem render_eq (isPrintable : Char → Bool) {kind : TokenKind}
    (h : ∀ direction, kind ≠ .indentation direction) :
    kind.render isPrintable =
      kind.label ++ "(" ++ (kind.written isPrintable ++ (kind.tag ++ ")")) := by
  cases kind with
  | identifier name contextual =>
    cases contextual <;> simp [render, label, tag, String.append_assoc]
  | indentation direction => exact absurd rfl (h direction)
  | _ => simp [render, label, tag, String.append_assoc]

theorem shown_eq_written (isPrintable : Char → Bool) {kind : TokenKind}
    (h : ∀ direction, kind ≠ .indentation direction) :
    kind.shown isPrintable = kind.written isPrintable := by
  have hlabel : '(' ∉ kind.label.toList := fun hmem => nomatch kind.isAlpha_of_mem_label hmem
  have htext : (kind.render isPrintable).toList = kind.label.toList ++
      '(' :: ((kind.written isPrintable).toList ++ kind.tag.toList ++ [')']) := by
    simp [render_eq isPrintable h]
  rw [shown, htext, Text.insideParentheses_append hlabel, List.length_append,
    String.length_toList, String.length_toList, Nat.add_sub_cancel_right]
  rw [← String.length_toList, List.take_left, String.ofList_toList]

end TokenKind

/-! ### Words -/

namespace Literal

theorem written_name (isPrintable : Char → Bool) (word : String) :
    (name word).written isPrintable = word := by
  unfold name
  split
  next keyword hkeyword => exact Keyword.ofText?_eq_some_iff.1 hkeyword
  next =>
    split_ifs with htrue hfalse
    · exact htrue.symm
    · exact hfalse.symm
    · rfl

theorem exists_of_integer {lexeme : String} {digits : List Char} {type : IntegerType}
    {suffixed : Bool} {kind : TokenKind} (h : integer lexeme digits type suffixed = .ok kind) :
    ∃ number < type.bound, kind = .integer (Int64.ofNat number) type suffixed := by
  simp only [integer] at h
  split_ifs at h with hbound
  exact ⟨_, hbound, (Except.ok.inj h).symm⟩

theorem exists_of_number {lexeme : String} {kind : TokenKind} (h : number lexeme = .ok kind) :
    ∃ type suffixed, (suffixed = false → type = .int64) ∧
      ∃ number < type.bound, kind = .integer (Int64.ofNat number) type suffixed := by
  rw [number_eq] at h
  split_ifs at h
  · exact ⟨.int64, false, fun _ => rfl, exists_of_integer h⟩
  · split at h
    next digits type _ => exact ⟨type, true, Bool.noConfusion, exists_of_integer h⟩
    next => cases h

theorem cases_of_word (isPrintable : Char → Bool) {lexeme : String} {kind : TokenKind}
    (h : word lexeme = .ok kind) :
    kind.written isPrintable = lexeme ∨ ∃ type suffixed, (suffixed = false → type = .int64) ∧
      ∃ number < type.bound, kind = .integer (Int64.ofNat number) type suffixed := by
  unfold word at h
  split at h
  · cases h
  · split_ifs at h
    · rw [← Except.ok.inj h]
      exact .inl (written_name isPrintable lexeme)
    · exact .inr (exists_of_number h)

end Literal

/-! ### Integers -/

section Integer

variable {type : IntegerType} {suffixed : Bool} {number : Nat}

def IntegerType.suffixChars (type : IntegerType) (suffixed : Bool) : List Char :=
  if suffixed then type.suffix.toList else []

theorem integerDigits_ofNat (hbound : number < type.bound)
    (htype : suffixed = false → type = .int64) :
    TokenKind.integerDigits (Int64.ofNat number) type suffixed = toString number := by
  unfold TokenKind.integerDigits
  split_ifs with hunsigned
  · rw [hunsigned.1] at hbound
    have hvalue : (Int64.ofNat number).toUInt64.toNat = number := by
      have hmod : (Int64.ofNat number).toUInt64.toNat = number % 2 ^ 64 := by
        simp
      rw [hmod]
      exact Nat.mod_eq_of_lt hbound
    rw [hvalue]
  · have hsigned : number < 2 ^ 63 := by
      cases type with
      | int32 => exact hbound.trans (by decide)
      | int64 => exact hbound
      | uint32 => exact hbound.trans (by decide)
      | uint64 =>
        cases suffixed with
        | false => cases htype rfl
        | true => exact absurd ⟨rfl, rfl⟩ hunsigned
    rw [Int64.toInt_ofNat_of_lt hsigned]
    rfl

theorem written_integer (isPrintable : Char → Bool) (hbound : number < type.bound)
    (htype : suffixed = false → type = .int64) :
    ((TokenKind.integer (Int64.ofNat number) type suffixed).written isPrintable).toList =
      Nat.toDigits 10 number ++ type.suffixChars suffixed := by
  have hdigits := integerDigits_ofNat hbound htype
  simp only [TokenKind.written, hdigits, String.toList_append, Nat.toString_eq_repr,
    Nat.toList_repr, IntegerType.suffixChars]
  cases suffixed <;> rfl

theorem digitChar_starts_number : ∀ digit < 10,
    Text.isWordPart (Nat.digitChar digit) = true ∧
      Text.isIdentifierStart Unicode.classes (Nat.digitChar digit) = false ∧
      (Nat.digitChar digit).isDigit = true := by
  decide +kernel

theorem isWordPart_of_mem_suffixChars {c : Char} (h : c ∈ type.suffixChars suffixed) :
    Text.isWordPart c = true := by
  have hsuffix : type.suffix.toList.all Text.isWordPart = true := by
    cases type <;> decide
  unfold IntegerType.suffixChars at h
  split_ifs at h
  · exact List.all_eq_true.1 hsuffix c h
  · cases h

theorem isDigit_toDigits (number : Nat) : ∀ c ∈ Nat.toDigits 10 number, c.isDigit = true :=
  fun _ => Nat.isDigit_of_mem_toDigits (by decide) (by decide)

theorem number_append_suffixChars {digits : List Char} (hrun : Literal.isDigitRun digits = true)
    (htype : suffixed = false → type = .int64) :
    Literal.number (String.ofList (digits ++ type.suffixChars suffixed)) =
      Literal.integer (String.ofList (digits ++ type.suffixChars suffixed)) digits type
        suffixed := by
  rw [Literal.number_eq, String.toList_ofList]
  cases suffixed with
  | false =>
    obtain rfl := htype rfl
    rw [IntegerType.suffixChars, if_neg Bool.false_ne_true, List.append_nil, if_pos hrun]
  | true =>
    have hsplit : Literal.splitSuffix? (digits ++ type.suffix.toList) = some (digits, type) :=
      Literal.splitSuffix?_eq_some_iff.2 ⟨rfl, hrun⟩
    have hnot : ¬Literal.isDigitRun (digits ++ type.suffix.toList) = true := by
      intro hall
      rw [Literal.splitSuffix?_of_isDigitRun hall] at hsplit
      cases hsplit
    rw [IntegerType.suffixChars, if_pos rfl, if_neg hnot, hsplit]

theorem isDigitRun_iff {text : List Char} :
    Literal.isDigitRun text = true ↔ text ≠ [] ∧ ∀ c ∈ text, c.isDigit = true := by
  rw [Literal.isDigitRun, Bool.and_eq_true, Bool.not_eq_true', List.isEmpty_eq_false_iff,
    List.all_eq_true]

theorem number_toDigits (hbound : number < type.bound)
    (htype : suffixed = false → type = .int64) :
    Literal.number (String.ofList (Nat.toDigits 10 number ++ type.suffixChars suffixed)) =
      .ok (.integer (Int64.ofNat number) type suffixed) := by
  have hrun := isDigitRun_iff.2 ⟨Nat.toDigits_ne_nil, isDigit_toDigits number⟩
  rw [number_append_suffixChars hrun htype, Literal.integer, Nat.ofDigitChars_ten_toDigits]
  exact if_pos hbound

theorem word_toDigits (hbound : number < type.bound) (htype : suffixed = false → type = .int64) :
    Literal.word (String.ofList (Nat.toDigits 10 number ++ type.suffixChars suffixed)) =
      .ok (.integer (Int64.ofNat number) type suffixed) := by
  have hnumber := number_toDigits hbound htype
  obtain ⟨first, rest, hdigits⟩ :=
    List.exists_cons_of_ne_nil (Nat.toDigits_ne_nil : Nat.toDigits 10 number ≠ [])
  obtain ⟨digit, hdigit, hfirst⟩ : ∃ digit < 10, first = Nat.digitChar digit := by
    apply exists_digitChar_of_mem_toDigits (by decide)
    rw [hdigits]
    exact List.mem_cons_self
  obtain ⟨-, hstart, hnumeral⟩ := digitChar_starts_number digit hdigit
  rw [← hfirst] at hstart hnumeral
  rw [hdigits] at hnumber ⊢
  simp only [Literal.word, String.toList_ofList, List.cons_append, hstart, hnumeral,
    Bool.false_eq_true, if_false, if_true]
  exact hnumber

theorem isWordPart_toDigits {c : Char}
    (h : c ∈ Nat.toDigits 10 number ++ type.suffixChars suffixed) :
    Text.isWordPart c = true := by
  rcases List.mem_append.1 h with hdigits | hsuffix
  · obtain ⟨digit, hdigit, rfl⟩ := exists_digitChar_of_mem_toDigits (by decide) hdigits
    exact (digitChar_starts_number digit hdigit).1
  · exact isWordPart_of_mem_suffixChars hsuffix

end Integer

/-! ### Quoted texts -/

namespace Literal

theorem exists_of_string {body : String} {kind : TokenKind} (h : string body = .ok kind) :
    ∃ text, kind = .string text := by
  unfold string at h
  cases hdecode : decodeBody body with
  | error fault =>
    rw [hdecode] at h
    cases h
  | ok text =>
    rw [hdecode] at h
    exact ⟨text, (Except.ok.inj h).symm⟩

theorem exists_of_rune {body : String} {kind : TokenKind} (h : rune body = .ok kind) :
    ∃ c, kind = .rune c := by
  unfold rune at h
  split at h
  · cases h
  · split at h
    next c _ => exact ⟨c, (Except.ok.inj h).symm⟩
    next => cases h

end Literal

/-! ### Literals alone in a text -/

/-- The text is the literal of one token of this kind, and nothing else is found in it. -/
def ReadsAs (options : Options) (text : String) (kind : TokenKind) : Prop :=
  (tokenize text options).diagnostics = [] ∧
    (tokenize text options).tokens.map (·.kind) = [kind]

namespace Lexeme

variable {kind : TokenKind}

theorem pieces_chars {lexeme : Lexeme} (hstands : lexeme.StandsBefore []) :
    pieces lexeme.chars = [.lexeme lexeme] := by
  have hread : AreRead [] [.lexeme lexeme] := ⟨hstands, trivial⟩
  have htext : Piece.text [.lexeme lexeme] = lexeme.chars := List.append_nil _
  rw [← htext, pieces_text_of_areRead hread]

theorem readsAs {lexeme : Lexeme} (hstands : lexeme.StandsBefore [])
    (hkind : lexeme.reading = .ok kind) (options : Options) :
    ReadsAs options (String.ofList lexeme.chars) kind := by
  have hlayout : Layout.ofText (String.ofList lexeme.chars).toList = ⟨[⟨[], lexeme⟩], []⟩ := by
    rw [String.toList_ofList, Layout.ofText, pieces_chars hstands]
    rfl
  constructor
  · rw [Layout.diagnostics_tokenize options hlayout]
    show _ ++ (Cursor.fault? {} ⟨[], lexeme⟩).toList ++ [] = []
    rw [Cursor.fault?_of_ok {} hkind]
    rfl
  · rw [Layout.tokens_tokenize options hlayout]
    show List.map _ (_ ++ ((Cursor.token? {} ⟨[], lexeme⟩).map _).toList ++ []) = _
    rw [Cursor.token?_of_ok {} hkind]
    rfl

theorem standsBefore_encode (quote : Quote) (isPrintable : Char → Bool) (text : List Char) :
    (quoted quote (quote.encode isPrintable text)).StandsBefore [] :=
  Text.quotedBody?_encode quote isPrintable text

/-- Where a literal can be read, the same kind can be read from the text that shows it. -/
theorem exists_written (isPrintable : Char → Bool) {lexeme : Lexeme}
    (hstands : lexeme.StandsBefore []) (hkind : lexeme.reading = .ok kind) :
    ∃ other : Lexeme, other.chars = (kind.written isPrintable).toList ∧ other.StandsBefore [] ∧
      other.reading = .ok kind := by
  cases lexeme with
  | word first rest =>
    obtain hsame | ⟨type, suffixed, htype, number, hbound, rfl⟩ :=
      Literal.cases_of_word isPrintable hkind
    · refine ⟨.word first rest, ?_, hstands, hkind⟩
      rw [hsame, String.toList_ofList]
      rfl
    · -- The digits that are shown need not be those that were read: leading zeros are gone.
      have hword := word_toDigits hbound htype
      have hpart := fun c => @isWordPart_toDigits type suffixed number c
      rw [← written_integer isPrintable hbound htype] at hword hpart
      obtain ⟨c, others, hchars⟩ :=
        List.exists_cons_of_ne_nil (Literal.ne_nil_of_word hword)
      rw [hchars] at hword hpart ⊢
      exact ⟨.word c others, rfl, ⟨hpart, by simp⟩, hword⟩
  | symbol mark =>
    obtain rfl := Except.ok.inj hkind
    exact ⟨.symbol mark, String.toList_ofList.symm, hstands, rfl⟩
  | quoted quote body =>
    cases quote with
    | double =>
      obtain ⟨text, rfl⟩ := Literal.exists_of_string hkind
      exact ⟨.quoted .double (Quote.double.encode isPrintable text.toList),
        String.toList_ofList.symm, standsBefore_encode .double isPrintable text.toList,
        Literal.string_encode isPrintable text⟩
    | single =>
      obtain ⟨c, rfl⟩ := Literal.exists_of_rune hkind
      exact ⟨.quoted .single (Quote.single.encode isPrintable [c]), String.toList_ofList.symm,
        standsBefore_encode .single isPrintable [c], Literal.rune_encode isPrintable c⟩
  | unclosed quote body => cases hkind

end Lexeme

theorem exists_lexeme_of_mem_literals {source : String} {options : Options} {token : Token}
    (h : token ∈ (tokenize source options).literals) :
    ∃ lexeme : Lexeme, lexeme.StandsBefore [] ∧ lexeme.reading = .ok token.kind := by
  obtain ⟨items, tail, hlayout⟩ : ∃ items tail, Layout.ofText source.toList = ⟨items, tail⟩ :=
    ⟨_, _, rfl⟩
  rw [literals_of_layout options hlayout, List.mem_filter, Bool.not_eq_true'] at h
  obtain ⟨before, item, after, rfl, htoken⟩ := exists_item_of_mem_tokensFrom h.1 h.2
  obtain ⟨kind, hkind, rfl⟩ := Cursor.eq_of_mem_token? htoken
  have hpieces := Layout.pieces_ofText source.toList
  rw [hlayout, Layout.pieces_mk_append] at hpieces
  have hread := (areRead_of_pieces_eq_append hpieces.symm).2.1
  exact ⟨item.lexeme, Piece.StandsBefore.of_nil hread, hkind⟩

/-- What is shown of a token between its parentheses reads as a token of the same kind, and so does
the quoted form of every text and of every character, whichever characters are taken to be
printable. -/
theorem readsAs_shown (isPrintable : Char → Bool) (options : Options) :
    (∀ source sourceOptions, ∀ token ∈ (tokenize source sourceOptions).literals,
        ReadsAs options (token.kind.shown isPrintable) token.kind) ∧
      (∀ text, ReadsAs options (Text.quoted text isPrintable) (.string text)) ∧
      ∀ c, ReadsAs options (Text.quotedRune c isPrintable) (.rune c) := by
  refine ⟨?_, ?_, ?_⟩
  · intro source sourceOptions token hmem
    obtain ⟨lexeme, hstands, hkind⟩ := exists_lexeme_of_mem_literals hmem
    have houtcome := lexeme.isOutcome_reading
    rw [hkind] at houtcome
    obtain ⟨other, hchars, hother, hreading⟩ := Lexeme.exists_written isPrintable hstands hkind
    have htext : token.kind.shown isPrintable = String.ofList other.chars := by
      rw [TokenKind.shown_eq_written isPrintable houtcome, hchars, String.ofList_toList]
    rw [htext]
    exact Lexeme.readsAs hother hreading options
  · intro text
    exact Lexeme.readsAs (Lexeme.standsBefore_encode .double isPrintable text.toList)
      (Literal.string_encode isPrintable text) options
  · intro c
    exact Lexeme.readsAs (Lexeme.standsBefore_encode .single isPrintable [c])
      (Literal.rune_encode isPrintable c) options

/-- The greatest number of all is kept as a negative value. It is shown without its sign, and
without the zeros that were written in front of it. -/
theorem readsAs_greatest_number :
    ⟨.integer (-1) .uint64 true, ⟨0, 25⟩, 0, 0⟩ ∈
        (tokenize "0018446744073709551615u64").literals ∧
      ReadsAs {} "18446744073709551615u64" (.integer (-1) .uint64 true) := by
  have hmem : ⟨.integer (-1) .uint64 true, ⟨0, 25⟩, 0, 0⟩ ∈
      (tokenize "0018446744073709551615u64").literals := by
    decide +kernel
  have htext : TokenKind.shown (.integer (-1) .uint64 true) = "18446744073709551615u64" := by
    decide +kernel
  have hshown := (readsAs_shown Text.isPrintable {}).1 "0018446744073709551615u64" {} _ hmem
  rw [htext] at hshown
  exact ⟨hmem, hshown⟩

end Offside
