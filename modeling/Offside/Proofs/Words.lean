import Mathlib.Data.Int.ModEq
import Offside.Proofs.Numerals
import Offside.Proofs.Written

/-!
# The grammar of words

What a word may be, told apart from the way it is read. A word that starts like a name is a name or
nothing, one that starts with a digit is a number or nothing, and no other word is anything. Reading
a word agrees with the grammar for all words, those that are refused included, in any version of
Unicode in which the decimal digits of ASCII are no letters.
-/

namespace Offside

def IntegerType.greatest : IntegerType → Nat
  | int32 => 2 ^ 31 - 1
  | int64 => 2 ^ 63 - 1
  | uint32 => 2 ^ 32 - 1
  | uint64 => 2 ^ 64 - 1

namespace Literal

/-! ### Names -/

def StartsName (classes : Unicode.Classes) (c : Char) : Prop :=
  classes.isLetter c ∨ classes.isLetterNumber c ∨ c = '_'

def ContinuesName (classes : Unicode.Classes) (c : Char) : Prop :=
  classes.isLetter c ∨ classes.isLetterNumber c ∨ classes.isDecimalDigit c ∨
    classes.isNonspacingMark c ∨ classes.isSpacingMark c ∨ classes.isFormat c ∨
    classes.isConnector c

/-- What the name stands for. No two names stand for the same. -/
inductive IsName : String → TokenKind → Prop
  | keyword (word : Keyword) : IsName word.text (.keyword word)
  | true : IsName "true" (.boolean true)
  | false : IsName "false" (.boolean false)
  | identifier {name : String} {contextual : Option ContextualKeyword}
      (hkeyword : ∀ word : Keyword, word.text ≠ name) (htrue : name ≠ "true")
      (hfalse : name ≠ "false") (hcontextual : ∀ word, contextual = some word ↔ word.text = name) :
      IsName name (.identifier name contextual)

theorem isIdentifierStart_iff {classes : Unicode.Classes} {c : Char} :
    Text.isIdentifierStart classes c = true ↔ StartsName classes c := by
  simp [Text.isIdentifierStart, StartsName, or_assoc]

theorem isIdentifierPart_iff {classes : Unicode.Classes} {c : Char} :
    Text.isIdentifierPart classes c = true ↔ ContinuesName classes c := by
  simp [Text.isIdentifierPart, ContinuesName, or_assoc]

theorem isName_name (word : String) : IsName word (name word) := by
  unfold name
  split
  next keyword hkeyword =>
    rw [← Keyword.ofText?_eq_some_iff.1 hkeyword]
    exact .keyword keyword
  next hnone =>
    have hkeyword : ∀ keyword : Keyword, keyword.text ≠ word := by
      intro keyword htext
      rw [Keyword.ofText?_eq_some_iff.2 htext] at hnone
      cases hnone
    split_ifs with htrue hfalse
    · subst htrue
      exact .true
    · subst hfalse
      exact .false
    · exact .identifier hkeyword htrue hfalse fun _ => ContextualKeyword.ofText?_eq_some_iff

theorem IsName.name_eq {word : String} {kind : TokenKind} (h : IsName word kind) :
    name word = kind := by
  cases h with
  | keyword keyword =>
    have hkeyword : Keyword.ofText? keyword.text = some keyword := Keyword.ofText?_eq_some_iff.2 rfl
    rw [name, hkeyword]
  | true => decide +kernel
  | false => decide +kernel
  | @identifier _ contextual hkeyword htrue hfalse hcontextual =>
    have hnone : Keyword.ofText? word = none := by
      rw [Option.eq_none_iff_forall_ne_some]
      exact fun keyword htext => hkeyword keyword (Keyword.ofText?_eq_some_iff.1 htext)
    have htag : ContextualKeyword.ofText? word = contextual := by
      apply Option.ext
      intro keyword
      rw [ContextualKeyword.ofText?_eq_some_iff, hcontextual]
    rw [name, hnone]
    dsimp only
    rw [if_neg htrue, if_neg hfalse, TokenKind.ofName, htag]

/-! ### Numbers -/

/-- The text is the number in decimal digits, as a number of the type. Without a suffix the type is
the one of 64 bits with a sign. -/
inductive IsNumeral : List Char → Nat → IntegerType → Bool → Prop
  | bare {digits : List Char} {number : Nat} (hdigits : digits ≠ [])
      (hnumber : Text.Spells 10 digits number) : IsNumeral digits number .int64 false
  | suffixed {digits : List Char} {number : Nat} (type : IntegerType) (hdigits : digits ≠ [])
      (hnumber : Text.Spells 10 digits number) :
      IsNumeral (digits ++ type.suffix.toList) number type true

section Numeral

variable {text : List Char} {word : String} {number : Nat} {type : IntegerType} {suffixed : Bool}

theorem lt_bound_iff : number < type.bound ↔ number ≤ type.greatest := by
  cases type with
  | int32 => exact Nat.lt_iff_le_pred (by decide)
  | int64 => exact Nat.lt_iff_le_pred (by decide)
  | uint32 => exact Nat.lt_iff_le_pred (by decide)
  | uint64 => exact Nat.lt_iff_le_pred (by decide)

theorem exists_spells {digits : List Char} (h : isDigitRun digits = true) :
    digits ≠ [] ∧ ∃ number, Text.Spells 10 digits number := by
  obtain ⟨hne, hall⟩ := isDigitRun_iff.1 h
  exact ⟨hne, _, (Text.spells_ten_iff digits _).2 ⟨hall, rfl⟩⟩

theorem IsNumeral.exists_digits (h : IsNumeral text number type suffixed) :
    ∃ digits, text = digits ++ type.suffixChars suffixed ∧ digits ≠ [] ∧
      Text.Spells 10 digits number ∧ (suffixed = false → type = .int64) := by
  cases h with
  | bare hdigits hnumber =>
    exact ⟨text, (List.append_nil text).symm, hdigits, hnumber, fun _ => rfl⟩
  | suffixed _ hdigits hnumber => exact ⟨_, rfl, hdigits, hnumber, Bool.noConfusion⟩

theorem IsNumeral.isDigit_head (h : IsNumeral text number type suffixed) :
    ∃ first rest, text = first :: rest ∧ first.isDigit = true := by
  obtain ⟨digits, rfl, hdigits, hnumber, -⟩ := h.exists_digits
  obtain ⟨first, rest, rfl⟩ := List.exists_cons_of_ne_nil hdigits
  have hall := ((Text.spells_ten_iff _ number).1 hnumber).1
  exact ⟨first, _, rfl, hall first List.mem_cons_self⟩

theorem IsNumeral.number_eq (h : IsNumeral word.toList number type suffixed) :
    Literal.number word =
      if number ≤ type.greatest then .ok (.integer (Int64.ofNat number) type suffixed)
      else .error (.integerOverflow word) := by
  obtain ⟨digits, htext, hdigits, hnumber, htype⟩ := h.exists_digits
  obtain ⟨hall, hvalue⟩ := (Text.spells_ten_iff digits number).1 hnumber
  have hread := number_append_suffixChars (isDigitRun_iff.2 ⟨hdigits, hall⟩) htype
  rw [← htext, String.ofList_toList] at hread
  rw [hread, integer, hvalue]
  simp only [lt_bound_iff]

theorem number_of_not_isNumeral
    (h : ¬∃ number type suffixed, IsNumeral word.toList number type suffixed) :
    Literal.number word = .error (.invalidNumber word) := by
  rw [number_eq]
  split_ifs with hrun
  · obtain ⟨hdigits, number, hnumber⟩ := exists_spells hrun
    exact absurd ⟨number, _, _, .bare hdigits hnumber⟩ h
  · split
    next digits type hsplit =>
      obtain ⟨htext, hrun⟩ := splitSuffix?_eq_some_iff.1 hsplit
      obtain ⟨hdigits, number, hnumber⟩ := exists_spells hrun
      rw [htext] at h
      exact absurd ⟨number, type, true, .suffixed type hdigits hnumber⟩ h
    next => rfl

/-! ### Values -/

theorem asUnsigned?_ofNat (hnumber : number ≤ type.greatest) :
    (TokenKind.integer (Int64.ofNat number) type suffixed).asUnsigned? = some number := by
  have hlt : number < 2 ^ 64 := by
    cases type <;> simp only [IntegerType.greatest] at hnumber <;> omega
  have hvalue : (Int64.ofNat number).toUInt64.toNat = number % 2 ^ 64 := by
    simp
  rw [TokenKind.asUnsigned?, hvalue, Nat.mod_eq_of_lt hlt]

theorem toInt_ofNat_modEq (number : Nat) :
    (Int64.ofNat number).toInt ≡ number [ZMOD 2 ^ 64] := by
  rw [Int64.toInt_ofNat']
  exact Int.bmod_emod

theorem eq_ofNat_of_modEq {value : Int64} (h : value.toInt ≡ number [ZMOD 2 ^ 64]) :
    value = Int64.ofNat number := by
  rw [← Int64.toInt_inj, Int64.toInt_ofNat', ← Int64.toInt_bmod_size value, ← Int.emod_bmod,
    ← Int.emod_bmod (number : Int)]
  exact congrArg (Int.bmod · Int64.size) h

end Numeral

/-! ### Words -/

/-- What the word is read as: the kind of a token, or the fault of a word that is none. -/
inductive Reads (classes : Unicode.Classes) (word : String) : Except Fault TokenKind → Prop
  | name {first : Char} {rest : List Char} {kind : TokenKind} (htext : word.toList = first :: rest)
      (hfirst : StartsName classes first) (hrest : ∀ c ∈ rest, ContinuesName classes c)
      (hkind : IsName word kind) :
      Reads classes word (.ok kind)
  | invalidIdentifier {first : Char} {rest : List Char} (htext : word.toList = first :: rest)
      (hfirst : StartsName classes first) (hrest : ∃ c ∈ rest, ¬ContinuesName classes c) :
      Reads classes word (.error (.invalidIdentifier word))
  | integer {number : Nat} {type : IntegerType} {suffixed : Bool} {value : Int64}
      (hnumeral : IsNumeral word.toList number type suffixed) (hnumber : number ≤ type.greatest)
      (hunsigned : (TokenKind.integer value type suffixed).asUnsigned? = some number)
      (hsigned : value.toInt ≡ number [ZMOD 2 ^ 64]) :
      Reads classes word (.ok (.integer value type suffixed))
  | overflow {number : Nat} {type : IntegerType} {suffixed : Bool}
      (hnumeral : IsNumeral word.toList number type suffixed) (hnumber : type.greatest < number) :
      Reads classes word (.error (.integerOverflow word))
  | invalidNumber {first : Char} {rest : List Char} (htext : word.toList = first :: rest)
      (hfirst : first.isDigit = true)
      (hnumeral : ¬∃ number type suffixed, IsNumeral word.toList number type suffixed) :
      Reads classes word (.error (.invalidNumber word))
  | unrecognised
      (hfirst : ∀ first ∈ word.toList.head?, ¬StartsName classes first ∧ first.isDigit = false) :
      Reads classes word (.error (.unrecognisedLexeme word))

section Word

variable {classes : Unicode.Classes} {word : String} {first : Char} {rest : List Char}

theorem not_startsName_of_isDigit
    (hdigits : ∀ c, c.isDigit = true →
      classes.isLetter c = false ∧ classes.isLetterNumber c = false)
    (h : first.isDigit = true) : ¬StartsName classes first := by
  obtain ⟨hletter, hnumber⟩ := hdigits first h
  rintro (hstart | hstart | rfl)
  · exact absurd hstart (by simp [hletter])
  · exact absurd hstart (by simp [hnumber])
  · exact absurd h (by decide)

theorem word_of_startsName (htext : word.toList = first :: rest)
    (hfirst : StartsName classes first) :
    Literal.word word classes =
      if rest.all (Text.isIdentifierPart classes) then .ok (name word)
      else .error (.invalidIdentifier word) := by
  rw [Literal.word, htext]
  exact if_pos (isIdentifierStart_iff.2 hfirst)

theorem word_of_isDigit (htext : word.toList = first :: rest)
    (hstart : ¬StartsName classes first) (hfirst : first.isDigit = true) :
    Literal.word word classes = number word := by
  rw [Literal.word, htext]
  dsimp only
  rw [if_neg (mt isIdentifierStart_iff.1 hstart), if_pos hfirst]

theorem word_of_neither
    (h : ∀ first ∈ word.toList.head?, ¬StartsName classes first ∧ first.isDigit = false) :
    Literal.word word classes = .error (.unrecognisedLexeme word) := by
  rw [Literal.word]
  cases htext : word.toList with
  | nil => rfl
  | cons first rest =>
    rw [htext] at h
    obtain ⟨hname, hdigit⟩ := h first rfl
    dsimp only
    rw [if_neg (mt isIdentifierStart_iff.1 hname), if_neg (by simp [hdigit])]

theorem all_isIdentifierPart_iff :
    rest.all (Text.isIdentifierPart classes) = true ↔ ∀ c ∈ rest, ContinuesName classes c := by
  simp only [List.all_eq_true, isIdentifierPart_iff]

theorem reads_number (htext : word.toList = first :: rest) (hfirst : first.isDigit = true) :
    Reads classes word (number word) := by
  by_cases hnumeral : ∃ number type suffixed, IsNumeral word.toList number type suffixed
  · obtain ⟨number, type, suffixed, hnumeral⟩ := hnumeral
    rw [hnumeral.number_eq]
    split_ifs with hnumber
    · exact .integer hnumeral hnumber (asUnsigned?_ofNat hnumber) (toInt_ofNat_modEq number)
    · exact .overflow hnumeral (Nat.lt_of_not_le hnumber)
  · rw [number_of_not_isNumeral hnumeral]
    exact .invalidNumber htext hfirst hnumeral

theorem reads_word (classes : Unicode.Classes) (word : String) :
    Reads classes word (Literal.word word classes) := by
  by_cases hneither :
      ∀ first ∈ word.toList.head?, ¬StartsName classes first ∧ first.isDigit = false
  · rw [word_of_neither hneither]
    exact .unrecognised hneither
  · cases htext : word.toList with
    | nil => exact absurd (by simp [htext]) hneither
    | cons first rest =>
      by_cases hname : StartsName classes first
      · rw [word_of_startsName htext hname]
        split_ifs with hrest
        · exact .name htext hname (all_isIdentifierPart_iff.1 hrest) (isName_name word)
        · refine .invalidIdentifier htext hname ?_
          simpa only [all_isIdentifierPart_iff, not_forall, exists_prop] using hrest
      · have hdigit : first.isDigit = true := by
          by_contra hdigit
          simp [htext, hname, hdigit] at hneither
        rw [word_of_isDigit htext hname hdigit]
        exact reads_number htext hdigit

theorem Reads.word_eq {outcome : Except Fault TokenKind}
    (hdigits : ∀ c, c.isDigit = true →
      classes.isLetter c = false ∧ classes.isLetterNumber c = false)
    (h : Reads classes word outcome) : Literal.word word classes = outcome := by
  cases h with
  | name htext hfirst hrest hkind =>
    rw [word_of_startsName htext hfirst, if_pos (all_isIdentifierPart_iff.2 hrest), hkind.name_eq]
  | invalidIdentifier htext hfirst hrest =>
    obtain ⟨c, hc, hnot⟩ := hrest
    have hall := mt all_isIdentifierPart_iff.1 fun hall => hnot (hall c hc)
    rw [word_of_startsName htext hfirst, if_neg hall]
  | integer hnumeral hnumber _ hsigned =>
    obtain ⟨first, rest, htext, hfirst⟩ := hnumeral.isDigit_head
    rw [word_of_isDigit htext (not_startsName_of_isDigit hdigits hfirst) hfirst,
      hnumeral.number_eq, if_pos hnumber, ← eq_ofNat_of_modEq hsigned]
  | overflow hnumeral hnumber =>
    obtain ⟨first, rest, htext, hfirst⟩ := hnumeral.isDigit_head
    rw [word_of_isDigit htext (not_startsName_of_isDigit hdigits hfirst) hfirst,
      hnumeral.number_eq, if_neg (Nat.not_le_of_lt hnumber)]
  | invalidNumber htext hfirst hnumeral =>
    rw [word_of_isDigit htext (not_startsName_of_isDigit hdigits hfirst) hfirst,
      number_of_not_isNumeral hnumeral]
  | unrecognised hfirst => exact word_of_neither hfirst

end Word

/-- A word is read as the grammar says and in no other way, whatever the tables of categories hold,
as long as they do not take a decimal digit of ASCII for a letter. -/
theorem word_eq_iff_reads (classes : Unicode.Classes)
    (hdigits : ∀ c, c.isDigit = true →
      classes.isLetter c = false ∧ classes.isLetterNumber c = false)
    (word : String) (outcome : Except Fault TokenKind) :
    Literal.word word classes = outcome ↔ Reads classes word outcome := by
  constructor
  · rintro rfl
    exact reads_word classes word
  · exact Reads.word_eq hdigits

/-- Leading zeros do not make a number larger, and a suffix makes it no smaller. -/
theorem word_eq_iff_reads_leading_zeros :
    (∀ c : Char, c.isDigit = true →
        Unicode.classes.isLetter c = false ∧ Unicode.classes.isLetterNumber c = false) ∧
      Reads Unicode.classes "0004294967295u32" (.ok (.integer 4294967295 .uint32 true)) ∧
      Reads Unicode.classes "4294967296u32" (.error (.integerOverflow "4294967296u32")) := by
  have hdigits : ∀ c : Char, c.isDigit = true →
      Unicode.classes.isLetter c = false ∧ Unicode.classes.isLetterNumber c = false := by
    intro c hc
    have hlt : c.toNat < 128 := Text.toNat_lt_of_isHexDigit (by simp [Text.isHexDigit, hc])
    have hall : ∀ point < 128, (Char.ofNat point).isDigit = true →
        Unicode.classes.isLetter (Char.ofNat point) = false ∧
          Unicode.classes.isLetterNumber (Char.ofNat point) = false := by
      decide +kernel
    have hpoint := hall c.toNat hlt
    rw [Char.ofNat_toNat] at hpoint
    exact hpoint hc
  refine ⟨hdigits, ?_, ?_⟩
  · exact (word_eq_iff_reads Unicode.classes hdigits _ _).1 (by decide +kernel)
  · exact (word_eq_iff_reads Unicode.classes hdigits _ _).1 (by decide +kernel)

end Literal

end Offside
