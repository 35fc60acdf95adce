import Mathlib.Data.List.Infix
import Offside.Proofs.Escapes

/-!
# Where decoding gets stuck

Decoding goes from left to right: what has been decoded stays what it is, whatever follows. The
escape that is reported stands in the text as it is. The front before it is the most that can be
decoded, and as soon as the escape is in sight, what comes behind it changes nothing.
-/

namespace Offside

namespace Text

/-! ### A decoded front -/

theorem decode_induction {motive : List Char → List Char → Prop} (nil : motive [] [])
    (cons : ∀ {part rest decoded : List Char} {c : Char}, Stands part c → motive rest decoded →
      motive (part ++ rest) (c :: decoded))
    {text decoded : List Char} (h : decode text = .ok decoded) : motive text decoded := by
  obtain ⟨pieces, hpieces, rfl⟩ := decode_iff_isCut.1 h
  clear h
  induction pieces generalizing text with
  | nil =>
    obtain rfl : [] = text := hpieces.text_eq
    exact nil
  | cons piece pieces ih =>
    obtain ⟨after, rfl, hpiece, hbehind⟩ := isCut_cons_iff.1 hpieces
    exact cons hpiece (ih hbehind)

theorem decode_append {first decoded : List Char} (h : decode first = .ok decoded)
    (second : List Char) : decode (first ++ second) = (decode second).map (decoded ++ ·) := by
  refine decode_induction (motive := fun first decoded =>
    decode (first ++ second) = (decode second).map (decoded ++ ·)) ?nil ?cons h
  case nil =>
    rw [List.nil_append]
    cases decode second <;> rfl
  case cons =>
    intro part rest decoded c hpart ih
    rw [List.append_assoc, hpart.decode_append, ih]
    cases decode second <;> rfl

/-! ### The escape at fault -/

section Escape

variable {text rest bad : List Char}

theorem takeWhile_of_isPrefix {p : Char → Bool} {front : List Char}
    (hrow : text.takeWhile p <+: front) (hfront : front <+: text) :
    front.takeWhile p = text.takeWhile p := by
  obtain ⟨rest, rfl⟩ := hfront
  rw [List.takeWhile_append] at hrow ⊢
  split_ifs at hrow ⊢ with hall
  · have hself : front.takeWhile p = front := (List.takeWhile_prefix p).eq_of_length hall
    have hle : (front ++ rest.takeWhile p).length ≤ front.length := hrow.length_le
    have hnil : rest.takeWhile p = [] := by
      apply List.eq_nil_of_length_eq_zero
      rw [List.length_append] at hle
      omega
    rw [hself, hnil, List.append_nil]
  · rfl

/-- What is read behind a backslash before the escape is given up. -/
def attempt : List Char → List Char
  | [] => []
  | 'x' :: rest => 'x' :: (rest.take 2).takeWhile isHexDigit
  | 'u' :: '{' :: rest => 'u' :: '{' :: rest.takeWhile isHexDigit
  | c :: _ => [c]

theorem attempt_cons {c : Char} (hx : c ≠ 'x') (hbrace : ∀ others, c = 'u' → rest ≠ '{' :: others) :
    attempt (c :: rest) = [c] :=
  attempt.eq_4 c rest hx hbrace

theorem attempt_isPrefix (text : List Char) : attempt text <+: text := by
  fun_cases attempt text with
  | case1 => exact List.prefix_rfl
  | case2 rest =>
    have hdigits : (rest.take 2).takeWhile isHexDigit <+: rest :=
      (List.takeWhile_prefix _).trans (List.take_prefix 2 rest)
    exact List.cons_prefix_cons.2 ⟨rfl, hdigits⟩
  | case3 rest =>
    exact List.cons_prefix_cons.2 ⟨rfl, List.cons_prefix_cons.2 ⟨rfl, List.takeWhile_prefix _⟩⟩
  | case4 c rest => exact List.cons_prefix_cons.2 ⟨rfl, List.nil_prefix⟩

theorem eq_nil_of_attempt_eq_nil (h : attempt text = []) : text = [] := by
  revert h
  fun_cases attempt text with
  | case1 => exact fun _ => rfl
  | case2 rest => exact fun h => nomatch h
  | case3 rest => exact fun h => nomatch h
  | case4 c rest => exact fun h => nomatch h

theorem attempt_of_isPrefix {front : List Char} (hreach : attempt text <+: front)
    (hfront : front <+: text) : attempt front = attempt text := by
  fun_cases attempt text with
  | case1 => rw [List.prefix_nil.1 hfront, attempt]
  | case2 rest =>
    rw [attempt] at hreach
    obtain ⟨more, rfl⟩ := hreach
    rw [List.cons_append, List.cons_prefix_cons] at hfront
    have hdigits : (rest.take 2).takeWhile isHexDigit <+: rest.take 2 := List.takeWhile_prefix _
    have hlength : ((rest.take 2).takeWhile isHexDigit).length ≤ 2 :=
      hdigits.length_le.trans (List.length_take_le 2 rest)
    rw [List.cons_append, attempt, takeWhile_of_isPrefix
      (List.prefix_take_iff.2 ⟨List.prefix_append _ more, hlength⟩) (hfront.2.take 2)]
  | case3 rest =>
    rw [attempt] at hreach
    obtain ⟨more, rfl⟩ := hreach
    rw [List.cons_append, List.cons_append, List.cons_prefix_cons, List.cons_prefix_cons] at hfront
    rw [List.cons_append, List.cons_append, attempt,
      takeWhile_of_isPrefix (List.prefix_append _ more) hfront.2.2]
  | case4 c rest hx hbrace =>
    rw [attempt_cons hx hbrace] at hreach
    obtain ⟨more, rfl⟩ := hreach
    obtain ⟨others, rfl⟩ := (List.cons_prefix_cons.1 hfront).2
    refine attempt_cons hx fun inner hc hinner => ?_
    exact hbrace (inner ++ others) hc (congrArg (· ++ others) hinner)

theorem eq_attempt_of_readEscape (h : readEscape text = .error bad) : bad = attempt text := by
  unfold readEscape at h
  split at h
  next => exact (Except.error.inj h).symm
  next rest =>
    simp only [readAsciiEscape] at h
    split at h
    next => cases h
    next => exact (Except.error.inj h).symm
  next rest =>
    simp only [readCodePointEscape] at h
    split at h
    next =>
      split at h
      next =>
        split at h
        next => cases h
        next => exact (Except.error.inj h).symm
      next => exact (Except.error.inj h).symm
    next => exact (Except.error.inj h).symm
  next rest hbrace =>
    rw [attempt_cons (by decide) fun others _ => hbrace others]
    exact (Except.error.inj h).symm
  next c rest hx hbrace _ =>
    rw [attempt_cons hx hbrace]
    split at h
    next => cases h
    next => exact (Except.error.inj h).symm

theorem readEscape_append {after : List Char} {c : Char} (h : readEscape text = .ok (c, after))
    (more : List Char) : readEscape (text ++ more) = .ok (c, after ++ more) := by
  obtain ⟨escape, rfl, hstands⟩ := readEscape_iff.1 h
  exact readEscape_iff.2 ⟨escape, List.append_assoc _ _ _, hstands⟩

/-- No front of the text is an escape either, and the report is the same for all of them that hold
what was read. -/
theorem exists_of_readEscape_error (h : readEscape text = .error bad) {front : List Char}
    (hfront : front <+: text) :
    ∃ other, readEscape front = .error other ∧ (bad <+: front → other = bad) := by
  cases hread : readEscape front with
  | ok result =>
    obtain ⟨more, rfl⟩ := hfront
    rw [readEscape_append hread more] at h
    cases h
  | error other =>
    refine ⟨other, rfl, fun hreach => ?_⟩
    rw [eq_attempt_of_readEscape h] at hreach ⊢
    rw [eq_attempt_of_readEscape hread, attempt_of_isPrefix hreach hfront]

end Escape

theorem eq_error_of_map {ε α β : Type} {f : α → β} {result : Except ε α} {fault : ε}
    (h : result.map f = .error fault) : result = .error fault := by
  cases result with
  | ok found => cases h
  | error other => exact congrArg Except.error (Except.error.inj h)

theorem exists_of_decode_error {text bad : List Char} (h : decode text = .error bad) :
    ∃ front rest decoded more, text = front ++ '\\' :: rest ∧ bad = '\\' :: more ∧
      decode front = .ok decoded ∧ readEscape rest = .error more := by
  fun_induction decode text with
  | case1 => cases h
  | case2 rest c after hread ih =>
    obtain ⟨behind, last, decoded, more, rfl, rfl, hdecoded, hlast⟩ := ih (eq_error_of_map h)
    obtain ⟨escape, rfl, hstands⟩ := readEscape_iff.1 hread
    refine ⟨'\\' :: (escape ++ behind), last, c :: decoded, more, ?_, rfl, ?_, hlast⟩
    · rw [List.cons_append, List.append_assoc]
    · have hfront := hstands.decode_append behind
      rwa [hdecoded] at hfront
  | case3 rest more hread =>
    exact ⟨[], rest, [], more, rfl, (Except.error.inj h).symm, decode_nil, hread⟩
  | case4 c rest hc ih =>
    obtain ⟨behind, last, decoded, more, rfl, rfl, hdecoded, hlast⟩ := ih (eq_error_of_map h)
    refine ⟨c :: behind, last, c :: decoded, more, rfl, rfl, ?_, hlast⟩
    rw [decode_cons hc, hdecoded]
    rfl

theorem exists_part {front rest longer : List Char} {c : Char}
    (h : longer <+: front ++ c :: rest) (hlength : front.length < longer.length) :
    ∃ part, longer = front ++ c :: part ∧ part <+: rest := by
  have hfront : front <+: longer :=
    List.prefix_of_prefix_length_le (List.prefix_append _ _) h hlength.le
  obtain ⟨more, rfl⟩ := hfront
  rw [List.prefix_append_right_inj] at h
  cases more with
  | nil =>
    rw [List.append_nil] at hlength
    exact absurd hlength (Nat.lt_irrefl _)
  | cons d part =>
    obtain ⟨rfl, hpart⟩ := List.cons_prefix_cons.1 h
    exact ⟨part, rfl, hpart⟩

/-- The front before the reported escape is the most of the text that can be decoded. -/
theorem exists_front_of_decode_error {text bad : List Char} (h : decode text = .error bad) :
    ∃ front last decoded, text = front ++ bad ++ last ∧ bad.head? = some '\\' ∧
      decode front = .ok decoded ∧
      ∀ longer, longer <+: text → front.length < longer.length →
        ∃ other, decode longer = .error other ∧
          (front.length + bad.length ≤ longer.length → other = bad) := by
  obtain ⟨front, rest, decoded, more, rfl, rfl, hfront, hread⟩ := exists_of_decode_error h
  have hmore : more <+: rest := by
    rw [eq_attempt_of_readEscape hread]
    exact attempt_isPrefix rest
  obtain ⟨last, hlast⟩ := hmore
  refine ⟨front, last, decoded, ?_, rfl, hfront, fun longer hlonger hlength => ?_⟩
  · rw [← hlast, List.append_assoc, List.cons_append]
  · -- What is longer goes on with the backslash and a part of what follows it.
    obtain ⟨part, rfl, hpart⟩ := exists_part hlonger hlength
    obtain ⟨other, hother, hsame⟩ := exists_of_readEscape_error hread hpart
    refine ⟨'\\' :: other, ?_, fun hreach => ?_⟩
    · rw [decode_append hfront, decode_bad_escape hother]
      rfl
    · have hlength : more.length ≤ part.length := by
        simpa using hreach
      rw [hsame (List.prefix_of_prefix_length_le ⟨last, hlast⟩ hpart hlength)]

end Text

/-! ### Bodies -/

namespace Literal

variable {body text : String}

theorem decodeBody_eq_ok_iff : decodeBody body = .ok text ↔
    Text.decode body.toList = .ok text.toList := by
  rw [decodeBody_iff_isCut, Text.decode_iff_isCut]

theorem decodeBody_eq_error_iff {bad : String} : decodeBody body = .error (.invalidEscape bad) ↔
    Text.decode body.toList = .error bad.toList := by
  unfold decodeBody
  split
  next decoded hdecode =>
    rw [hdecode]
    constructor <;> intro h <;> cases h
  next other hdecode =>
    rw [hdecode, Except.error.injEq, Except.error.injEq, Fault.invalidEscape.injEq]
    constructor
    · rintro rfl
      rw [String.toList_ofList]
    · rintro rfl
      rw [String.ofList_toList]

theorem decodeBody_append (h : decodeBody body = .ok text) (rest : String) :
    decodeBody (body ++ rest) = (decodeBody rest).map (text ++ ·) := by
  have happend : Text.decode (body ++ rest).toList =
      (Text.decode rest.toList).map (text.toList ++ ·) := by
    rw [String.toList_append, Text.decode_append (decodeBody_eq_ok_iff.1 h)]
  cases hrest : decodeBody rest with
  | ok other =>
    rw [decodeBody_eq_ok_iff.1 hrest] at happend
    exact decodeBody_eq_ok_iff.2 (happend.trans (congrArg Except.ok String.toList_append.symm))
  | error fault =>
    obtain ⟨bad, rfl⟩ := eq_invalidEscape_of_decodeBody hrest
    rw [decodeBody_eq_error_iff.1 hrest] at happend
    exact decodeBody_eq_error_iff.2 happend

/-- The escape stands in the body, right behind the front at whose end decoding gets stuck. -/
structure IsStuck (body front bad rest : String) : Prop where
  body_eq : body = front ++ bad ++ rest
  backslash : bad.toList.head? = some '\\'
  decodes : ∃ text, decodeBody front = .ok text
  stuck : ∀ longer others, body = longer ++ others → front.length < longer.length →
    ∃ other, decodeBody longer = .error (.invalidEscape other)
  /-- Once all of the escape is in sight, it is the one that is reported. -/
  reported : ∀ longer others, body = longer ++ others → (front ++ bad).length ≤ longer.length →
    decodeBody longer = .error (.invalidEscape bad)

theorem exists_isStuck {bad : String} (h : decodeBody body = .error (.invalidEscape bad)) :
    ∃ front rest, IsStuck body front bad rest := by
  obtain ⟨front, last, decoded, hbody, hbackslash, hfront, hstuck⟩ :=
    Text.exists_front_of_decode_error (decodeBody_eq_error_iff.1 h)
  have hlonger : ∀ longer others : String, body = longer ++ others →
      front.length < longer.length → ∃ other, decodeBody longer = .error (.invalidEscape other) ∧
        (front.length + bad.length ≤ longer.length → other = bad) := by
    intro longer others hsplit hlength
    have hprefix : longer.toList <+: body.toList := by
      rw [hsplit, String.toList_append]
      exact List.prefix_append _ _
    obtain ⟨other, hother, hsame⟩ := hstuck longer.toList hprefix hlength
    refine ⟨String.ofList other, decodeBody_eq_error_iff.2 ?_, fun hreach => ?_⟩
    · rw [hother, String.toList_ofList]
    · rw [hsame hreach, String.ofList_toList]
  refine ⟨String.ofList front, String.ofList last, ?body, hbackslash, ?decodes, ?stuck, ?reported⟩
  case body =>
    rw [← String.toList_inj, String.toList_append, String.toList_append, String.toList_ofList,
      String.toList_ofList, hbody]
  case decodes =>
    refine ⟨String.ofList decoded, decodeBody_eq_ok_iff.2 ?_⟩
    rw [String.toList_ofList, String.toList_ofList, hfront]
  case stuck =>
    intro longer others hsplit hlength
    rw [String.length_ofList] at hlength
    obtain ⟨other, hother, -⟩ := hlonger longer others hsplit hlength
    exact ⟨other, hother⟩
  case reported =>
    intro longer others hsplit hlength
    rw [String.length_append, String.length_ofList] at hlength
    have hpos : 0 < bad.length := List.length_pos_of_mem (List.mem_of_mem_head? hbackslash)
    obtain ⟨other, hother, hsame⟩ := hlonger longer others hsplit (by omega)
    rw [hother, hsame hlength]

/-- Decoding goes from left to right. What has been decoded stays in front of what comes next, or
the report about what comes next is the report about all. The escape that is reported stands in the
body as it is, at the place where decoding gets stuck. -/
theorem isStuck_decodeBody (body : String) :
    (∀ text, decodeBody body = .ok text →
        ∀ rest, decodeBody (body ++ rest) = (decodeBody rest).map (text ++ ·)) ∧
      ∀ bad, decodeBody body = .error (.invalidEscape bad) →
        ∃ front rest, IsStuck body front bad rest := by
  constructor
  · intro text htext rest
    exact decodeBody_append htext rest
  · intro bad hbad
    exact exists_isStuck hbad

/-- The second escape lacks a digit. What stands in the place of the digit is not reported. -/
theorem isStuck_second_escape :
    decodeBody "\\n\\x4g" = .error (.invalidEscape "\\x4") ∧
      ∃ front rest, IsStuck "\\n\\x4g" front "\\x4" rest := by
  have hbad : decodeBody "\\n\\x4g" = .error (.invalidEscape "\\x4") := by
    decide +kernel
  exact ⟨hbad, (isStuck_decodeBody _).2 _ hbad⟩

end Literal

end Offside
