import Offside.Proofs.Context

/-!
# Quoted texts are read back

What is written between two marks ends at the second one, since every mark and every backslash in it
comes behind a backslash. Decoding it gives back the text, one character after the other.
-/

namespace Offside

open Text (Quote)

theorem exists_digitChar_of_mem_toDigits {base number : Nat} {c : Char} (hbase : 1 < base)
    (h : c ∈ Nat.toDigits base number) : ∃ digit < base, c = Nat.digitChar digit := by
  induction number using Nat.strongRecOn with
  | ind number ih =>
    rw [Nat.toDigits_eq_if hbase] at h
    split_ifs at h with hsmall
    · exact ⟨number, hsmall, List.mem_singleton.1 h⟩
    · rcases List.mem_append.1 h with hfront | hlast
      · exact ih (number / base) (Nat.div_lt_self (by omega) hbase) hfront
      · exact ⟨number % base, Nat.mod_lt _ (by omega), List.mem_singleton.1 hlast⟩

namespace Text

/-! ### Escapes by code point -/

theorem isHexDigit_digitChar : ∀ digit < 16, isHexDigit (Nat.digitChar digit) = true := by
  decide

theorem hexDigitValue_digitChar : ∀ digit < 16, hexDigitValue (Nat.digitChar digit) = digit := by
  decide

theorem isHexDigit_of_mem_toDigits {point : Nat} {c : Char} (h : c ∈ Nat.toDigits 16 point) :
    isHexDigit c = true := by
  obtain ⟨digit, hdigit, rfl⟩ := exists_digitChar_of_mem_toDigits (by decide) h
  exact isHexDigit_digitChar digit hdigit

theorem ofHexDigits_toDigits (point : Nat) : ofHexDigits (Nat.toDigits 16 point) = point := by
  induction point using Nat.strongRecOn with
  | ind point ih =>
    rw [Nat.toDigits_eq_if (by decide)]
    split_ifs with hsmall
    · have hvalue := hexDigitValue_digitChar point hsmall
      simp [ofHexDigits, hvalue]
    · have hfront := ih (point / 16) (Nat.div_lt_self (by omega) (by decide))
      have hvalue := hexDigitValue_digitChar (point % 16) (Nat.mod_lt _ (by decide))
      unfold ofHexDigits at hfront ⊢
      rw [List.foldl_append, hfront, List.foldl_cons, List.foldl_nil, hvalue]
      omega

theorem scalar?_toNat (c : Char) : scalar? c.toNat = some c := by
  have hvalid : c.toNat.isValidChar := c.valid
  rw [scalar?, dif_pos hvalid]
  rfl

theorem length_toDigits_toNat_le (c : Char) : (Nat.toDigits 16 c.toNat).length ≤ 6 := by
  rw [Nat.length_toDigits_le_iff (by decide) (by decide)]
  have hvalid : c.toNat.isValidChar := c.valid
  unfold Nat.isValidChar at hvalid
  omega

theorem readCodePointEscape_append {digits : List Char} {c : Char}
    (hdigits : ∀ digit ∈ digits, isHexDigit digit = true) (hpos : 1 ≤ digits.length)
    (hle : digits.length ≤ 6) (hc : ofHexDigits digits = c.toNat) (rest : List Char) :
    readCodePointEscape (digits ++ '}' :: rest) = .ok (c, rest) := by
  have hbrace : ¬isHexDigit '}' = true := by
    decide
  have htake : (digits ++ '}' :: rest).takeWhile isHexDigit = digits := by
    rw [List.takeWhile_append_of_pos hdigits, List.takeWhile_cons_of_neg hbrace, List.append_nil]
  have hdrop : (digits ++ '}' :: rest).dropWhile isHexDigit = '}' :: rest := by
    rw [List.dropWhile_append_of_pos hdigits, List.dropWhile_cons_of_neg hbrace]
  simp only [readCodePointEscape, htake, hdrop, hc, scalar?_toNat, if_pos (And.intro hpos hle)]

theorem readCodePointEscape_toDigits (c : Char) (rest : List Char) :
    readCodePointEscape (Nat.toDigits 16 c.toNat ++ '}' :: rest) = .ok (c, rest) := by
  have hpos : 1 ≤ (Nat.toDigits 16 c.toNat).length :=
    List.length_pos_iff.2 Nat.toDigits_ne_nil
  exact readCodePointEscape_append (fun _ => isHexDigit_of_mem_toDigits) hpos
    (length_toDigits_toNat_le c) (ofHexDigits_toDigits c.toNat) rest

variable (quote : Quote) (isPrintable : Char → Bool)

/-! ### Written characters -/

/-- The character ends no quoted text and starts no escape. -/
def Quote.IsPlain (quote : Quote) (c : Char) : Prop := c ≠ '\\' ∧ c ≠ quote.mark

instance (quote : Quote) (c : Char) : Decidable (quote.IsPlain c) :=
  inferInstanceAs (Decidable (c ≠ '\\' ∧ c ≠ quote.mark))

theorem Quote.isPlain_of_isHexDigit {c : Char} (h : isHexDigit c = true) :
    quote.IsPlain c := by
  constructor
  · rintro rfl
    revert h
    decide
  · rintro rfl
    revert h
    cases quote <;> decide

/-- A character is written as itself or as an escape. Behind the backslash of an escape and the
character that it takes, there is neither a mark nor a backslash. -/
theorem Quote.encodeChar_cases (c : Char) :
    quote.encodeChar isPrintable c = [c] ∧ quote.IsPlain c ∨
      ∃ letter more, quote.encodeChar isPrintable c = '\\' :: letter :: more ∧
        (∀ d ∈ more, quote.IsPlain d) ∧
        ∀ rest, readEscape (letter :: (more ++ rest)) = .ok (c, rest) := by
  have hnamed : ∀ letter, quote.encodeChar isPrintable c = ['\\', letter] →
      (∀ rest, readEscape (letter :: rest) = .ok (c, rest)) →
      ∃ letter more, quote.encodeChar isPrintable c = '\\' :: letter :: more ∧
        (∀ d ∈ more, quote.IsPlain d) ∧
        ∀ rest, readEscape (letter :: (more ++ rest)) = .ok (c, rest) := by
    intro letter hchar hread
    exact ⟨letter, [], hchar, by simp, hread⟩
  unfold encodeChar at hnamed ⊢
  split_ifs at hnamed ⊢ with hnull htab hreturn hfeed hmark hprintable
  · exact .inr (hnamed _ rfl fun rest => by rw [hnull]; rfl)
  · exact .inr (hnamed _ rfl fun rest => by rw [htab]; rfl)
  · exact .inr (hnamed _ rfl fun rest => by rw [hreturn]; rfl)
  · exact .inr (hnamed _ rfl fun rest => by rw [hfeed]; rfl)
  · refine .inr (hnamed _ rfl fun rest => ?_)
    rcases hmark with rfl | rfl
    · rfl
    · cases quote <;> rfl
  · exact .inl ⟨rfl, not_or.1 hmark⟩
  · refine .inr ⟨'u', '{' :: (Nat.toDigits 16 c.toNat ++ ['}']), rfl, ?_, ?_⟩
    · have hbraces : quote.IsPlain '{' ∧ quote.IsPlain '}' := by
        cases quote <;> decide
      intro d hd
      rw [List.mem_cons, List.mem_append, List.mem_singleton] at hd
      obtain rfl | hdigit | rfl := hd
      · exact hbraces.1
      · exact quote.isPlain_of_isHexDigit (isHexDigit_of_mem_toDigits hdigit)
      · exact hbraces.2
    · intro rest
      rw [List.cons_append, List.append_assoc]
      exact readCodePointEscape_toDigits c rest

/-! ### Written texts -/

theorem quotedBody?_append_of_isPlain {quote : Quote} {text : List Char}
    (h : ∀ c ∈ text, quote.IsPlain c) (rest : List Char) :
    quotedBody? quote.mark (text ++ rest) = (quotedBody? quote.mark rest).map (text ++ ·) := by
  induction text with
  | nil => simp
  | cons c others ih =>
    obtain ⟨hc, hothers⟩ := List.forall_mem_cons.1 h
    rw [List.cons_append, quotedBody?_cons hc.1, if_neg hc.2, ih hothers, Option.map_map]
    rfl

theorem quotedBody?_encodeChar (c : Char) (rest : List Char) :
    quotedBody? quote.mark (quote.encodeChar isPrintable c ++ rest) =
      (quotedBody? quote.mark rest).map (quote.encodeChar isPrintable c ++ ·) := by
  obtain ⟨hchar, hplain⟩ | ⟨letter, more, hchar, hplain, -⟩ := quote.encodeChar_cases isPrintable c
  · rw [hchar]
    exact quotedBody?_append_of_isPlain (List.forall_mem_singleton.2 hplain) rest
  · rw [hchar, List.cons_append, List.cons_append, quotedBody?,
      quotedBody?_append_of_isPlain hplain, Option.map_map]
    rfl

theorem decode_encodeChar (c : Char) (rest : List Char) :
    decode (quote.encodeChar isPrintable c ++ rest) = (decode rest).map (c :: ·) := by
  obtain ⟨hchar, hplain⟩ | ⟨letter, more, hchar, -, hread⟩ := quote.encodeChar_cases isPrintable c
  · rw [hchar]
    exact decode_cons hplain.1 rest
  · rw [hchar]
    exact decode_escape (hread rest)

theorem Quote.encode_cons (c : Char) (rest : List Char) :
    quote.encode isPrintable (c :: rest) =
      quote.encodeChar isPrintable c ++ quote.encode isPrintable rest :=
  List.flatMap_cons

theorem quotedBody?_encode (text : List Char) :
    quotedBody? quote.mark (quote.encode isPrintable text ++ [quote.mark]) =
      some (quote.encode isPrintable text) := by
  induction text with
  | nil =>
    rw [Quote.encode, List.flatMap_nil, List.nil_append,
      quotedBody?_cons quote.mark_ne_backslash, if_pos rfl]
  | cons c rest ih =>
    rw [quote.encode_cons, List.append_assoc, quotedBody?_encodeChar, ih, Option.map_some]

theorem decode_encode (text : List Char) :
    decode (quote.encode isPrintable text) = .ok text := by
  induction text with
  | nil => exact decode_nil
  | cons c rest ih =>
    rw [quote.encode_cons, decode_encodeChar, ih]
    rfl

/-! ### One line -/

theorem Quote.lineFeed_not_mem_encodeChar (c : Char) : '\n' ∉ quote.encodeChar isPrintable c := by
  have hdigits : '\n' ∉ Nat.toDigits 16 c.toNat := by
    intro hmem
    exact absurd (isHexDigit_of_mem_toDigits hmem) (by decide)
  unfold encodeChar codePointEscape
  split_ifs with hnull htab hreturn hfeed
  · decide
  · decide
  · decide
  · decide
  · simp [Ne.symm hfeed]
  · simp [Ne.symm hfeed]
  · simp [hdigits]

theorem Quote.lineFeed_not_mem_enclose (text : List Char) :
    '\n' ∉ quote.enclose isPrintable text := by
  have hmark : '\n' ≠ quote.mark := by
    cases quote <;> decide
  have hbody : '\n' ∉ quote.encode isPrintable text := by
    intro hmem
    obtain ⟨c, -, hc⟩ := List.mem_flatMap.1 hmem
    exact quote.lineFeed_not_mem_encodeChar isPrintable c hc
  simp [enclose, hmark, hbody]

end Text

namespace Literal

variable (isPrintable : Char → Bool)

theorem decodeBody_encode (quote : Quote) (text : List Char) :
    decodeBody (String.ofList (quote.encode isPrintable text)) = .ok (String.ofList text) := by
  rw [decodeBody, String.toList_ofList, Text.decode_encode]

theorem string_encode (text : String) :
    string (String.ofList (Quote.double.encode isPrintable text.toList)) = .ok (.string text) := by
  rw [string, decodeBody_encode, String.ofList_toList]
  rfl

theorem rune_encode (c : Char) :
    rune (String.ofList (Quote.single.encode isPrintable [c])) = .ok (.rune c) := by
  simp only [rune, decodeBody_encode, String.toList_ofList]

end Literal

end Offside
