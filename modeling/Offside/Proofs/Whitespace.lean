import Offside.Proofs.Respelling

/-!
# Line breaks and tabs in another encoding

A line break may have a carriage return, and a tab is as wide as two spaces. So a text without
carriage returns has the same literals, changes of indentation and faults when all its line breaks
get one and spaces take the place of its tabs. Quoted texts have to be left alone by that, since the
white space in them is part of the literal.
-/

namespace Offside

def Piece.isQuoted : Piece → Bool
  | lexeme (.quoted _ _) => true
  | lexeme (.unclosed _ _) => true
  | lexeme (.word _ _) => false
  | lexeme (.symbol _) => false
  | trivia _ => false

namespace Text

/-- The text with other characters in the place of each `mark`. -/
def substitute (mark : Char) (others text : List Char) : List Char :=
  text.flatMap fun c => if c = mark then others else [c]

def withReturns (text : List Char) : List Char := substitute '\n' ['\r', '\n'] text

def withSpaces (text : List Char) : List Char := substitute '\t' [' ', ' '] text

/-- The text with two spaces in the place of each tab outside quoted texts. -/
def expandTabs (text : List Char) : List Char :=
  (pieces text).flatMap fun piece =>
    if piece.isQuoted then piece.chars else withSpaces piece.chars

example : withReturns (expandTabs "(\t\"\t\"\n\t'\t' #\t'".toList) =
    "(  \"\t\"\r\n  '\t' #  '".toList := by
  decide +kernel

variable {mark : Char} {others text : List Char}

theorem substitute_append (mark : Char) (others first second : List Char) :
    substitute mark others (first ++ second) =
      substitute mark others first ++ substitute mark others second := List.flatMap_append

theorem substitute_eq_self (h : mark ∉ text) : substitute mark others text = text := by
  induction text with
  | nil => rfl
  | cons c rest ih =>
    rw [List.mem_cons, not_or] at h
    rw [substitute, List.flatMap_cons, if_neg (Ne.symm h.1), ← substitute, ih h.2]
    rfl

theorem not_mem_substitute {c : Char} (hothers : c ∉ others) (h : c ∉ text) :
    c ∉ substitute mark others text := by
  intro hmem
  obtain ⟨d, hd, hc⟩ := List.mem_flatMap.1 hmem
  split_ifs at hc
  · exact hothers hc
  · rw [List.mem_singleton.1 hc] at h
    exact h hd

theorem not_mem_withSpaces (h : '\n' ∉ text) : '\n' ∉ withSpaces text :=
  not_mem_substitute (by decide) h

theorem withReturns_withSpaces (h : '\n' ∉ text) :
    withReturns (withSpaces text) = withSpaces text :=
  substitute_eq_self (not_mem_withSpaces h)

theorem cases_of_blank (c : Char) :
    (c = '\n' ∧ withReturns (withSpaces [c]) = ['\r', '\n']) ∨
      (c = '\t' ∧ withReturns (withSpaces [c]) = [' ', ' ']) ∨
        c ≠ '\n' ∧ c ≠ '\t' ∧ withReturns (withSpaces [c]) = [c] := by
  by_cases hfeed : c = '\n'
  · subst hfeed
    exact .inl ⟨rfl, rfl⟩
  · by_cases htab : c = '\t'
    · subst htab
      exact .inr (.inl ⟨rfl, rfl⟩)
    · refine .inr (.inr ⟨hfeed, htab, ?_⟩)
      rw [withSpaces, substitute_eq_self (by simpa using Ne.symm htab), withReturns,
        substitute_eq_self (by simpa using Ne.symm hfeed)]

theorem beforeLineBreak_eq_self (h : '\n' ∉ text) : beforeLineBreak text = text := by
  have hread : beforeLineBreak (text ++ ['\r', '\n']) = text :=
    beforeLineBreak_append h (fun hhead => nomatch hhead) (Nat.succ_ne_zero 1)
  exact beforeLineBreak_self hread

end Text

theorem Lexeme.isSpace_of_mem_chars {lexeme : Lexeme} {after : List Char}
    (h : lexeme.StandsBefore after) (hquoted : (Piece.lexeme lexeme).isQuoted = false) {c : Char}
    (hc : c ∈ lexeme.chars) : Text.isSpace c = false := by
  cases lexeme with
  | word first rest => exact (Text.isWordPart_eq_true_iff.1 (h.1 c hc)).1
  | symbol mark =>
    have hglyph := Symbol.isGlyph_of_mem hc
    by_contra hspace
    rw [Symbol.isGlyph_of_isSpace (Bool.eq_true_of_not_eq_false hspace)] at hglyph
    cases hglyph
  | quoted quote body => cases hquoted
  | unclosed quote body => cases hquoted

namespace Spelling

def respaced : Spelling where
  blanks c := Text.withReturns (Text.withSpaces [c])
  comment? text := some (Text.withReturns (Text.withSpaces text))
  blanks_ne_nil c := by
    obtain ⟨-, h⟩ | ⟨-, h⟩ | ⟨-, -, h⟩ := Text.cases_of_blank c <;> simp [h]
  isSpace_of_mem {c d} hspace hmem := by
    obtain ⟨-, h⟩ | ⟨-, h⟩ | ⟨-, -, h⟩ := Text.cases_of_blank c
    · rw [h, List.mem_pair] at hmem
      obtain rfl | rfl := hmem <;> rfl
    · rw [h, List.mem_pair] at hmem
      obtain rfl | rfl := hmem <;> rfl
    · rw [h, List.mem_singleton] at hmem
      rwa [hmem]
  lineFeed := ⟨['\r'], rfl⟩
  not_mem_blanks {c} hc := by
    obtain ⟨h, -⟩ | ⟨-, h⟩ | ⟨-, -, h⟩ := Text.cases_of_blank c
    · exact absurd h hc
    · simp [h]
    · simp [h, Ne.symm hc]
  width_blanks {c} hc := by
    obtain ⟨h, -⟩ | ⟨rfl, h⟩ | ⟨-, -, h⟩ := Text.cases_of_blank c
    · exact absurd h hc
    · rfl
    · rw [h]
  not_mem_comment hother hfeed := by
    cases hother
    rw [Text.withReturns_withSpaces hfeed]
    exact Text.not_mem_withSpaces hfeed

/-- Word by word the pieces are spelled as the encoding asks for: a quoted text holds no line feed,
a symbol and a word hold no white space at all. -/
theorem text_respaced_piece {piece : Piece} {after : List Char} (h : piece.StandsBefore after)
    (hquoted : piece.isQuoted = true → '\n' ∉ piece.chars) :
    Piece.text (respaced.piece piece) =
      Text.withReturns (if piece.isQuoted then piece.chars else Text.withSpaces piece.chars) := by
  cases piece with
  | trivia part =>
    rw [text_piece_trivia]
    cases part with
    | blank c => exact respaced.text_trivia_blank c
    | comment text => exact List.append_nil _
  | lexeme part =>
    have hself : Piece.text (respaced.piece (.lexeme part)) = part.chars := List.append_nil _
    rw [hself]
    by_cases hmark : (Piece.lexeme part).isQuoted = true
    · rw [if_pos hmark, Text.withReturns, Text.substitute_eq_self (hquoted hmark)]
      rfl
    · have hnone : ∀ c ∈ part.chars, Text.isSpace c = false := fun c =>
        Lexeme.isSpace_of_mem_chars h (Bool.eq_false_of_not_eq_true hmark)
      have htab : '\t' ∉ part.chars := fun hmem => nomatch hnone _ hmem
      have hfeed : '\n' ∉ part.chars := fun hmem => nomatch hnone _ hmem
      rw [if_neg hmark, Piece.chars, Text.withReturns_withSpaces hfeed, Text.withSpaces,
        Text.substitute_eq_self htab]

theorem text_respaced {parts : List Piece} (h : AreRead [] parts)
    (hquoted : ∀ piece ∈ parts, piece.isQuoted = true → '\n' ∉ piece.chars) :
    Piece.text (respaced.pieces parts) = Text.withReturns (parts.flatMap fun piece =>
      if piece.isQuoted then piece.chars else Text.withSpaces piece.chars) := by
  induction parts with
  | nil => rfl
  | cons piece rest ih =>
    obtain ⟨hpiece, hrest⟩ := List.forall_mem_cons.1 hquoted
    rw [text_pieces_cons, text_respaced_piece h.1 hpiece, ih h.2 hrest, List.flatMap_cons,
      Text.withReturns, Text.withReturns, Text.withReturns, Text.substitute_append]

theorem beforeLineBreak_respaced {text : List Char} {behind : List Piece}
    (h : AreRead [] (.trivia (.comment text) :: behind)) (hreturn : '\r' ∉ Piece.text behind) :
    Text.beforeLineBreak (Text.withReturns (Text.withSpaces text) ++
      Piece.text (respaced.pieces behind)) = Text.withReturns (Text.withSpaces text) := by
  have hread : Text.beforeLineBreak (text ++ (Piece.text behind ++ [])) = text := h.1
  rw [List.append_nil] at hread
  have hfeed : '\n' ∉ text := by
    rw [← hread]
    exact Text.not_mem_beforeLineBreak _
  rw [Text.withReturns_withSpaces hfeed]
  have hnone := Text.not_mem_withSpaces hfeed
  cases behind with
  | nil =>
    have hnil : Piece.text (respaced.pieces []) = [] := rfl
    rw [hnil, List.append_nil, Text.beforeLineBreak_eq_self hnone]
  | cons piece rest =>
    obtain ⟨c, others, htext⟩ := List.exists_cons_of_ne_nil
      (List.append_ne_nil_of_left_ne_nil piece.chars_ne_nil (Piece.text rest))
    have hbehind : Piece.text (piece :: rest) = c :: others := htext
    have hend := Text.drop_beforeLineBreak (text ++ Piece.text (piece :: rest))
    rw [hread, List.drop_left, hbehind, Text.lineBreakLength_cons] at hend
    rw [hbehind, List.mem_cons, not_or] at hreturn
    have hc : c = '\n' := by
      rcases hend with hnil | hbreak
      · cases hnil
      · by_contra hc
        rw [if_neg hc, if_neg fun hpair => hreturn.1 hpair.1.symm] at hbreak
        exact hbreak rfl
    subst hc
    have hpieces := pieces_text_of_areRead h.2
    rw [hbehind, pieces_cons] at hpieces
    have hpiece : piece = .trivia (.blank '\n') := (List.cons.inj hpieces).1.symm
    rw [hpiece, text_pieces_cons]
    exact Text.beforeLineBreak_append hnone (fun hhead => nomatch hhead) (Nat.succ_ne_zero 1)

end Spelling

/-- Where no carriage return stands in a text and no line feed in its quoted texts, it does not
matter how line breaks and tabs are encoded. -/
theorem readAlike_withReturns_expandTabs (source : String) (options : Options)
    (hreturn : '\r' ∉ source.toList)
    (hquoted : ∀ piece ∈ pieces source.toList, piece.isQuoted = true → '\n' ∉ piece.chars) :
    ReadAlike options source
      (String.ofList (Text.withReturns (Text.expandTabs source.toList))) := by
  have hpieces := areRead_pieces source.toList
  have htext : Spelling.respaced.text source.toList =
      Text.withReturns (Text.expandTabs source.toList) :=
    Spelling.text_respaced hpieces hquoted
  have hread : AreRead [] (Spelling.respaced.pieces (pieces source.toList)) := by
    apply Spelling.respaced.areRead_pieces hpieces
    rintro text behind ⟨front, hfront⟩ _ ⟨⟩
    apply Spelling.beforeLineBreak_respaced (areRead_of_pieces_eq_append hfront.symm).2
    intro hmem
    apply hreturn
    rw [← Piece.text_pieces source.toList, ← hfront, Piece.text_append]
    exact List.mem_append_right _ (List.mem_append_right _ hmem)
  rw [← htext]
  exact Spelling.respaced.readAlike source options hread

/-- The tab between the quotes stays, since it is the literal. -/
theorem readAlike_tabbed_lines :
    '\r' ∉ "(\n\t[ #\t]\n   '\t'\n".toList ∧
      (∀ piece ∈ pieces "(\n\t[ #\t]\n   '\t'\n".toList,
        piece.isQuoted = true → '\n' ∉ piece.chars) ∧
      ReadAlike {} "(\n\t[ #\t]\n   '\t'\n" "(\r\n  [ #  ]\r\n   '\t'\r\n" := by
  have hreturn : '\r' ∉ "(\n\t[ #\t]\n   '\t'\n".toList := by
    decide +kernel
  have hquoted : ∀ piece ∈ pieces "(\n\t[ #\t]\n   '\t'\n".toList,
      piece.isQuoted = true → '\n' ∉ piece.chars := by
    decide +kernel
  have htext : String.ofList (Text.withReturns (Text.expandTabs
      "(\n\t[ #\t]\n   '\t'\n".toList)) = "(\r\n  [ #  ]\r\n   '\t'\r\n" := by
    decide +kernel
  have halike := readAlike_withReturns_expandTabs "(\n\t[ #\t]\n   '\t'\n" {} hreturn hquoted
  rw [htext] at halike
  exact ⟨hreturn, hquoted, halike⟩

end Offside
