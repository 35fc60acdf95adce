import Mathlib.Data.Set.Subsingleton
import Offside.Proofs.Numerals
import Offside.Proofs.Quoting

/-!
# The grammar of escapes

The body of a quoted literal can be decoded if and only if it can be cut into pieces that each stand
for one character, and then there is one cut. No piece is the start of another, so the first one
can be told from the text alone.
-/

namespace Offside

namespace Text

def namedEscapes : List (Char × Char) :=
  [('n', '\n'), ('r', '\r'), ('t', '\t'), ('0', '\x00'), ('\\', '\\'), ('"', '"'), ('\'', '\'')]

inductive Stands : List Char → Char → Prop
  | plain {c : Char} (hc : c ≠ '\\') : Stands [c] c
  | named {letter c : Char} (hc : (letter, c) ∈ namedEscapes) : Stands ['\\', letter] c
  | ascii {first second c : Char} (hc : Spells 16 [first, second] c.toNat) (hle : c.toNat ≤ 0x7F) :
      Stands ['\\', 'x', first, second] c
  | codePoint {digits : List Char} {c : Char} (hc : Spells 16 digits c.toNat)
      (hpos : 1 ≤ digits.length) (hle : digits.length ≤ 6) :
      Stands ('\\' :: 'u' :: '{' :: (digits ++ ['}'])) c

/-- The text is made up of the pieces, and each of them stands for the character beside it. -/
structure IsCut (text : List Char) (pieces : List (List Char × Char)) : Prop where
  stands : ∀ piece ∈ pieces, Stands piece.1 piece.2
  text_eq : pieces.flatMap (·.1) = text

/-! ### Single escapes -/

section Escape

variable {text after : List Char} {c : Char}

theorem namedEscape?_eq_some_iff {letter : Char} :
    namedEscape? letter = some c ↔ (letter, c) ∈ namedEscapes := by
  constructor
  · intro h
    unfold namedEscape? at h
    split_ifs at h with hn ht hr hzero hmark
    · obtain rfl := Option.some.inj h
      simp [hn, namedEscapes]
    · obtain rfl := Option.some.inj h
      simp [ht, namedEscapes]
    · obtain rfl := Option.some.inj h
      simp [hr, namedEscapes]
    · obtain rfl := Option.some.inj h
      simp [hzero, namedEscapes]
    · obtain rfl := Option.some.inj h
      obtain rfl | rfl | rfl := hmark <;> simp [namedEscapes]
  · have hall : ∀ entry ∈ namedEscapes, namedEscape? entry.1 = some entry.2 := by
      decide
    exact hall (letter, c)

theorem readEscape_named {letter : Char} (h : (letter, c) ∈ namedEscapes) (after : List Char) :
    readEscape (letter :: after) = .ok (c, after) := by
  have hall : ∀ entry ∈ namedEscapes, readEscape (entry.1 :: after) = .ok (entry.2, after) := by
    rw [namedEscapes]
    simp only [List.forall_mem_cons]
    exact ⟨rfl, rfl, rfl, rfl, rfl, rfl, rfl, fun entry hentry => nomatch hentry⟩
  exact hall (letter, c) h

theorem toNat_ofNat_of_lt {point : Nat} (h : point < 0x80) : (Char.ofNat point).toNat = point := by
  have hvalid : point.isValidChar := .inl (by omega)
  rw [Char.ofNat, dif_pos hvalid]
  rfl

theorem readAsciiEscape_cons (first second : Char) (rest : List Char) :
    readAsciiEscape (first :: second :: rest) = .ok (c, after) ↔
      rest = after ∧ Spells 16 [first, second] c.toNat ∧ c.toNat ≤ 0x7F := by
  rw [spells_sixteen_iff, List.forall_mem_cons, List.forall_mem_singleton]
  cases hfirst : isHexDigit first with
  | false => simp [readAsciiEscape, hfirst]
  | true =>
    cases hsecond : isHexDigit second with
    | false => simp [readAsciiEscape, hfirst, hsecond]
    | true =>
      have hread : readAsciiEscape (first :: second :: rest) =
          if ofHexDigits [first, second] < 0x80 then
            .ok (Char.ofNat (ofHexDigits [first, second]), rest)
          else .error ['x', first, second] := by
        simp [readAsciiEscape, hfirst, hsecond]
      rw [hread]
      generalize ofHexDigits [first, second] = point
      split_ifs with hpoint
      · constructor
        · intro h
          cases h
          refine ⟨rfl, ⟨⟨rfl, rfl⟩, (toNat_ofNat_of_lt hpoint).symm⟩, ?_⟩
          rw [toNat_ofNat_of_lt hpoint]
          omega
        · rintro ⟨rfl, ⟨-, rfl⟩, -⟩
          rw [Char.ofNat_toNat]
      · constructor
        · intro h
          cases h
        · rintro ⟨-, ⟨-, rfl⟩, hle⟩
          omega

theorem readAsciiEscape_iff :
    readAsciiEscape text = .ok (c, after) ↔ ∃ first second, text = first :: second :: after ∧
      Spells 16 [first, second] c.toNat ∧ c.toNat ≤ 0x7F := by
  constructor
  · intro h
    match text with
    | [] => simp [readAsciiEscape] at h
    | [first] =>
      have hshort : (([first].take 2).takeWhile isHexDigit).length ≤ 1 :=
        (List.takeWhile_sublist isHexDigit).length_le
      simp only [readAsciiEscape] at h
      split at h
      next hdigits => omega
      next => cases h
    | first :: second :: rest =>
      obtain ⟨rfl, hc⟩ := (readAsciiEscape_cons first second rest).1 h
      exact ⟨first, second, rfl, hc⟩
  · rintro ⟨first, second, rfl, hc⟩
    exact (readAsciiEscape_cons first second after).2 ⟨rfl, hc⟩

theorem eq_toNat_of_scalar? {point : Nat} (h : scalar? point = some c) : point = c.toNat := by
  obtain ⟨hvalid, hchar⟩ := Option.dite_none_right_eq_some.1 h
  obtain rfl := Option.some.inj hchar
  rfl

theorem readCodePointEscape_iff :
    readCodePointEscape text = .ok (c, after) ↔ ∃ digits, text = digits ++ '}' :: after ∧
      Spells 16 digits c.toNat ∧ 1 ≤ digits.length ∧ digits.length ≤ 6 := by
  constructor
  · intro h
    have hsplit := List.takeWhile_append_dropWhile (p := isHexDigit) (l := text)
    simp only [readCodePointEscape] at h
    split at h
    next rest hrest =>
      split at h
      next hlength =>
        split at h
        next decoded hscalar =>
          cases h
          refine ⟨text.takeWhile isHexDigit, ?_, ?_, hlength⟩
          · rw [← hrest, hsplit]
          · rw [spells_sixteen_iff]
            exact ⟨fun _ => List.mem_takeWhile_imp, eq_toNat_of_scalar? hscalar⟩
        next => cases h
      next => cases h
    next => cases h
  · rintro ⟨digits, rfl, hc, hpos, hle⟩
    obtain ⟨hdigits, hvalue⟩ := (spells_sixteen_iff digits c.toNat).1 hc
    exact readCodePointEscape_append hdigits hpos hle hvalue after

theorem readEscape_iff :
    readEscape text = .ok (c, after) ↔ ∃ more, text = more ++ after ∧ Stands ('\\' :: more) c := by
  constructor
  · intro h
    unfold readEscape at h
    split at h
    · cases h
    · obtain ⟨first, second, rfl, hc, hle⟩ := readAsciiEscape_iff.1 h
      exact ⟨['x', first, second], rfl, .ascii hc hle⟩
    · obtain ⟨digits, rfl, hc, hpos, hle⟩ := readCodePointEscape_iff.1 h
      exact ⟨'u' :: '{' :: (digits ++ ['}']), by simp, .codePoint hc hpos hle⟩
    · cases h
    next letter rest _ _ _ =>
      split at h
      next decoded hnamed =>
        cases h
        exact ⟨[letter], rfl, .named (namedEscape?_eq_some_iff.1 hnamed)⟩
      next => cases h
  · rintro ⟨more, rfl, hstands⟩
    cases hstands with
    | plain hc => exact absurd rfl hc
    | named hc => exact readEscape_named hc after
    | ascii hc hle => exact readAsciiEscape_iff.2 ⟨_, _, rfl, hc, hle⟩
    | codePoint hc hpos hle =>
      exact readCodePointEscape_iff.2 ⟨_, by simp, hc, hpos, hle⟩

end Escape

/-! ### Cuts -/

theorem exists_of_map_eq_ok {ε α β : Type} {f : α → β} {result : Except ε α} {value : β}
    (h : result.map f = .ok value) : ∃ found, result = .ok found ∧ f found = value := by
  cases result with
  | error fault => cases h
  | ok found => exact ⟨found, rfl, Except.ok.inj h⟩

section Cut

variable {text first second rest : List Char} {c d : Char}

theorem Stands.eq_singleton_or (h : Stands text c) :
    text = [c] ∧ c ≠ '\\' ∨ ∃ more, text = '\\' :: more := by
  cases h with
  | plain hc => exact .inl ⟨rfl, hc⟩
  | named => exact .inr ⟨_, rfl⟩
  | ascii => exact .inr ⟨_, rfl⟩
  | codePoint => exact .inr ⟨_, rfl⟩

theorem Stands.decode_append (h : Stands text c) (after : List Char) :
    decode (text ++ after) = (decode after).map (c :: ·) := by
  obtain ⟨rfl, hc⟩ | ⟨more, rfl⟩ := h.eq_singleton_or
  · exact decode_cons hc after
  · exact decode_escape (readEscape_iff.2 ⟨more, rfl, h⟩)

/-- No piece is the start of another one. -/
theorem Stands.append_inj {after behind : List Char} (hfirst : Stands first c)
    (hsecond : Stands second d) (htext : first ++ after = second ++ behind) :
    first = second ∧ c = d ∧ after = behind := by
  obtain ⟨rfl, hc⟩ | ⟨more, rfl⟩ := hfirst.eq_singleton_or
  · obtain ⟨rfl, -⟩ | ⟨others, rfl⟩ := hsecond.eq_singleton_or
    · obtain ⟨rfl, rfl⟩ := List.cons.inj htext
      exact ⟨rfl, rfl, rfl⟩
    · exact absurd (List.cons.inj htext).1 hc
  · obtain ⟨rfl, hd⟩ | ⟨others, rfl⟩ := hsecond.eq_singleton_or
    · exact absurd (List.cons.inj htext).1.symm hd
    · -- Both start with a backslash, and the reader finds one character there.
      have hrest : more ++ after = others ++ behind := (List.cons.inj htext).2
      have hread : readEscape (more ++ after) = .ok (c, after) :=
        readEscape_iff.2 ⟨more, rfl, hfirst⟩
      have hreread : readEscape (more ++ after) = .ok (d, behind) :=
        readEscape_iff.2 ⟨others, hrest, hsecond⟩
      rw [hread] at hreread
      cases hreread
      rw [List.append_cancel_right hrest]
      exact ⟨rfl, rfl, rfl⟩

theorem Stands.ne_nil (h : Stands text c) : text ≠ [] := by
  cases h <;> exact List.cons_ne_nil _ _

theorem isCut_nil : IsCut [] [] := ⟨fun _ hpiece => (List.not_mem_nil hpiece).elim, rfl⟩

theorem isCut_cons_iff {pieces : List (List Char × Char)} :
    IsCut text ((first, c) :: pieces) ↔
      ∃ after, text = first ++ after ∧ Stands first c ∧ IsCut after pieces := by
  constructor
  · rintro ⟨hstands, rfl⟩
    obtain ⟨hfirst, hothers⟩ := List.forall_mem_cons.1 hstands
    exact ⟨_, rfl, hfirst, hothers, rfl⟩
  · rintro ⟨_, rfl, hfirst, hothers, rfl⟩
    exact ⟨List.forall_mem_cons.2 ⟨hfirst, hothers⟩, rfl⟩

theorem subsingleton_isCut (text : List Char) : {pieces | IsCut text pieces}.Subsingleton := by
  intro pieces
  induction pieces generalizing text with
  | nil =>
    rintro ⟨-, rfl⟩ others hothers
    cases others with
    | nil => rfl
    | cons other others =>
      obtain ⟨after, hempty, hother, -⟩ := isCut_cons_iff.1 hothers
      exact absurd (List.append_eq_nil_iff.1 hempty.symm).1 hother.ne_nil
  | cons piece pieces ih =>
    intro hpieces others hothers
    obtain ⟨after, rfl, hpiece, hbehind⟩ := isCut_cons_iff.1 hpieces
    cases others with
    | nil =>
      have hempty := hothers.text_eq
      exact absurd (List.append_eq_nil_iff.1 hempty.symm).1 hpiece.ne_nil
    | cons other others =>
      obtain ⟨behind, htext, hother, hlast⟩ := isCut_cons_iff.1 hothers
      obtain ⟨hfirst, hsecond, rfl⟩ := hpiece.append_inj hother htext
      rw [Prod.ext hfirst hsecond, ih after hbehind hlast]

theorem decode_iff_isCut {decoded : List Char} :
    decode text = .ok decoded ↔ ∃ pieces, IsCut text pieces ∧ pieces.map (·.2) = decoded := by
  constructor
  · intro h
    fun_induction decode text generalizing decoded with
    | case1 =>
      cases h
      exact ⟨[], isCut_nil, rfl⟩
    | case2 rest c after hread ih =>
      obtain ⟨others, hothers, rfl⟩ := exists_of_map_eq_ok h
      obtain ⟨pieces, hpieces, rfl⟩ := ih hothers
      obtain ⟨more, rfl, hstands⟩ := readEscape_iff.1 hread
      exact ⟨('\\' :: more, c) :: pieces, isCut_cons_iff.2 ⟨after, rfl, hstands, hpieces⟩, rfl⟩
    | case3 => cases h
    | case4 c rest hc ih =>
      obtain ⟨others, hothers, rfl⟩ := exists_of_map_eq_ok h
      obtain ⟨pieces, hpieces, rfl⟩ := ih hothers
      exact ⟨([c], c) :: pieces, isCut_cons_iff.2 ⟨rest, rfl, .plain hc, hpieces⟩, rfl⟩
  · rintro ⟨pieces, hpieces, rfl⟩
    induction pieces generalizing text with
    | nil =>
      rw [← hpieces.text_eq]
      exact decode_nil
    | cons piece pieces ih =>
      obtain ⟨after, rfl, hpiece, hbehind⟩ := isCut_cons_iff.1 hpieces
      rw [hpiece.decode_append, ih hbehind]
      rfl

end Cut

end Text

/-! ### Bodies -/

namespace Literal

open Text (IsCut)

variable {body : String}

theorem decodeBody_iff_isCut {text : String} :
    decodeBody body = .ok text ↔
      ∃ pieces, IsCut body.toList pieces ∧ pieces.map (·.2) = text.toList := by
  rw [← Text.decode_iff_isCut, decodeBody]
  cases Text.decode body.toList with
  | ok decoded =>
    constructor
    · intro h
      rw [← Except.ok.inj h, String.toList_ofList]
    · intro h
      obtain rfl := Except.ok.inj h
      exact congrArg Except.ok String.ofList_toList
  | error bad =>
    constructor
    · intro h
      cases h
    · intro h
      cases h

theorem decodeBody_of_isCut {pieces : List (List Char × Char)} (h : IsCut body.toList pieces) :
    decodeBody body = .ok (String.ofList (pieces.map (·.2))) :=
  decodeBody_iff_isCut.2 ⟨pieces, h, String.toList_ofList.symm⟩

theorem eq_invalidEscape_of_decodeBody {fault : Fault} (h : decodeBody body = .error fault) :
    ∃ bad, fault = .invalidEscape bad := by
  unfold decodeBody at h
  split at h
  next => cases h
  next bad _ => exact ⟨_, (Except.error.inj h).symm⟩

theorem exists_invalidEscape_iff :
    (∃ bad, decodeBody body = .error (.invalidEscape bad)) ↔
      ¬∃ pieces, IsCut body.toList pieces := by
  constructor
  · rintro ⟨bad, hbad⟩ ⟨pieces, hpieces⟩
    rw [decodeBody_of_isCut hpieces] at hbad
    cases hbad
  · intro hnone
    cases hdecode : decodeBody body with
    | ok text =>
      obtain ⟨pieces, hpieces, -⟩ := decodeBody_iff_isCut.1 hdecode
      exact absurd ⟨pieces, hpieces⟩ hnone
    | error fault =>
      obtain ⟨bad, rfl⟩ := eq_invalidEscape_of_decodeBody hdecode
      exact ⟨bad, rfl⟩

/-- What the body is read as between single quotes. -/
inductive ReadsRune (body : String) : Except Fault TokenKind → Prop
  | rune {c : Char} (h : decodeBody body = .ok (String.singleton c)) :
      ReadsRune body (.ok (.rune c))
  | invalidRune {text : String} (h : decodeBody body = .ok text) (hlength : text.length ≠ 1) :
      ReadsRune body (.error (.invalidRune body))
  | invalidEscape {bad : String} (h : decodeBody body = .error (.invalidEscape bad)) :
      ReadsRune body (.error (.invalidEscape bad))

theorem rune_of_singleton {c : Char} (h : decodeBody body = .ok (String.singleton c)) :
    rune body = .ok (.rune c) := by
  simp only [rune, h, String.toList_singleton]

theorem rune_of_length_ne {text : String} (h : decodeBody body = .ok text)
    (hlength : text.length ≠ 1) : rune body = .error (.invalidRune body) := by
  simp only [rune, h]
  split
  next c htext =>
    rw [← String.length_toList, htext] at hlength
    exact absurd rfl hlength
  next => rfl

theorem rune_of_invalidEscape {bad : String} (h : decodeBody body = .error (.invalidEscape bad)) :
    rune body = .error (.invalidEscape bad) := by
  rw [rune, h]

theorem readsRune_rune (body : String) : ReadsRune body (rune body) := by
  cases hdecode : decodeBody body with
  | error fault =>
    obtain ⟨bad, rfl⟩ := eq_invalidEscape_of_decodeBody hdecode
    rw [rune_of_invalidEscape hdecode]
    exact .invalidEscape hdecode
  | ok text =>
    by_cases hlength : text.length = 1
    · rw [← String.length_toList, List.length_eq_one_iff] at hlength
      obtain ⟨c, hc⟩ := hlength
      obtain rfl : text = String.singleton c := by
        rw [← String.toList_inj, hc, String.toList_singleton]
      rw [rune_of_singleton hdecode]
      exact .rune hdecode
    · rw [rune_of_length_ne hdecode hlength]
      exact .invalidRune hdecode hlength

theorem ReadsRune.rune_eq {outcome : Except Fault TokenKind} (h : ReadsRune body outcome) :
    Literal.rune body = outcome := by
  cases h with
  | rune h => exact rune_of_singleton h
  | invalidRune h hlength => exact rune_of_length_ne h hlength
  | invalidEscape h => exact rune_of_invalidEscape h

/-- A body stands for a text if and only if it can be cut into characters and escapes that do, and
it can be cut in one way only. Between single quotes the text must be one character. -/
theorem isCut_decodeBody (body : String) :
    (∀ text, decodeBody body = .ok text ↔
        ∃ pieces, IsCut body.toList pieces ∧ pieces.map (·.2) = text.toList) ∧
      ((∃ bad, decodeBody body = .error (.invalidEscape bad)) ↔
        ¬∃ pieces, IsCut body.toList pieces) ∧
      {pieces | IsCut body.toList pieces}.Subsingleton ∧
      ∀ outcome, rune body = outcome ↔ ReadsRune body outcome := by
  refine ⟨fun _ => decodeBody_iff_isCut, exists_invalidEscape_iff,
    Text.subsingleton_isCut body.toList, fun outcome => ⟨?_, ReadsRune.rune_eq⟩⟩
  rintro rfl
  exact readsRune_rune body

/-- An escape by two digits ends behind them, whatever follows. -/
example : decodeBody "\\x4a4a" = .ok "J4a" := by
  decide +kernel

end Literal

end Offside
