import Mathlib.Data.List.TakeWhile
import Offside.Proofs.Layout.Valid

/-!
# Pieces in their context

Where a piece ends depends on the text behind it, and on nothing in front of it. So the pieces of a
text stay what they are when the text is cut, or when another text takes the place of what stands
behind them, as long as the piece at the seam still ends there.
-/

namespace Offside

open Text (Quote)

/-! ### Comments -/

namespace Text

theorem lineBreakLength_cons (c : Char) (rest : List Char) :
    lineBreakLength (c :: rest) =
      if c = '\n' then 1 else if c = '\r' ∧ rest.head? = some '\n' then 2 else 0 := by
  unfold lineBreakLength
  split
  · simp_all
  · simp_all
  next hfeed hreturn =>
    rw [if_neg, if_neg]
    · rintro ⟨rfl, hhead⟩
      obtain ⟨others, rfl⟩ := List.head?_eq_some_iff.1 hhead
      exact hreturn others rfl
    · rintro rfl
      exact hfeed rest rfl

theorem lineBreakLength_of_beforeLineBreak_cons {c : Char} {rest text : List Char}
    (h : beforeLineBreak (c :: rest) = c :: text) : lineBreakLength (c :: rest) = 0 := by
  by_contra hbreak
  rw [beforeLineBreak_eq_nil hbreak] at h
  cases h

theorem beforeLineBreak_append_cons {text : List Char} {c : Char} {first second : List Char}
    (hfeed : c = '\r' → first.head? = some '\n' → second.head? = some '\n')
    (h : beforeLineBreak (text ++ c :: first) = text) :
    beforeLineBreak (text ++ c :: second) = text := by
  induction text with
  | nil =>
    apply beforeLineBreak_eq_nil
    intro hzero
    rw [List.nil_append, lineBreakLength_cons] at hzero
    have hbreak : lineBreakLength (c :: first) = 0 := by
      rw [lineBreakLength_cons]
      split_ifs at hzero ⊢ <;> simp_all
    rw [List.nil_append, beforeLineBreak_cons hbreak] at h
    cases h
  | cons d others ih =>
    rw [List.cons_append] at h
    have hzero := lineBreakLength_of_beforeLineBreak_cons h
    rw [beforeLineBreak_cons hzero] at h
    have hhead : (others ++ c :: first).head? = (others ++ c :: second).head? := by
      cases others <;> rfl
    rw [lineBreakLength_cons, hhead, ← lineBreakLength_cons] at hzero
    rw [List.cons_append, beforeLineBreak_cons hzero, ih (List.cons.inj h).2]

theorem beforeLineBreak_self {text after : List Char}
    (h : beforeLineBreak (text ++ after) = text) : beforeLineBreak text = text := by
  induction text with
  | nil => rfl
  | cons c others ih =>
    rw [List.cons_append] at h
    have hzero := lineBreakLength_of_beforeLineBreak_cons h
    rw [beforeLineBreak_cons hzero] at h
    have hothers := ih (List.cons.inj h).2
    have hbreak : lineBreakLength (c :: others) = 0 := by
      rw [lineBreakLength_cons] at hzero ⊢
      split_ifs at hzero ⊢ <;> cases others <;> simp_all
    rw [beforeLineBreak_cons hbreak, hothers]

/-! ### Quoted texts -/

theorem quotedBody?_cons {mark c : Char} (h : c ≠ '\\') (rest : List Char) :
    quotedBody? mark (c :: rest) =
      if c = mark then some [] else (quotedBody? mark rest).map (c :: ·) := by
  rw [quotedBody?.eq_def]
  split <;> simp_all

theorem quotedBody?_append {quote : Quote} {text body : List Char}
    (h : quotedBody? quote.mark text = some body) (after : List Char) :
    quotedBody? quote.mark (body ++ quote.mark :: after) = some body := by
  have hmark := quote.mark_ne_backslash
  fun_induction quotedBody? quote.mark text generalizing body with
  | case1 => cases h
  | case2 c rest ih =>
    obtain ⟨inner, hinner, rfl⟩ := Option.map_eq_some_iff.1 h
    rw [List.cons_append, List.cons_append, quotedBody?, ih hinner, Option.map_some]
  | case3 rest hbackslash =>
    cases h
    rw [List.nil_append, quotedBody?_cons hmark, if_pos rfl]
  | case4 c rest hbackslash hother ih =>
    obtain ⟨inner, hinner, rfl⟩ := Option.map_eq_some_iff.1 h
    have hc : c ≠ '\\' := by
      rintro rfl
      cases rest with
      | nil => cases hinner
      | cons d others => exact hbackslash d others rfl rfl
    rw [List.cons_append, quotedBody?_cons hc, if_neg hother, ih hinner, Option.map_some]

end Text

/-! ### Where a piece ends -/

def Trivia.StandsBefore (after : List Char) : Trivia → Prop
  | blank c => Text.isSpace c = true
  | comment text => Text.beforeLineBreak (text ++ after) = text

/-- The literal is read as it is where `after` stands behind it: a word does not go on, no longer
symbol is there, and a quoted text ends with its closing mark, or else with the whole text. -/
def Lexeme.StandsBefore (after : List Char) : Lexeme → Prop
  | word first rest =>
    (∀ c ∈ first :: rest, Text.isWordPart c = true) ∧ ∀ c ∈ after.head?, Text.isWordPart c = false
  | symbol mark => ∀ c ∈ after.head?, ∀ other : Symbol, other.chars ≠ mark.chars ++ [c]
  | quoted quote body => Text.quotedBody? quote.mark (body ++ [quote.mark]) = some body
  | unclosed quote body => Text.quotedBody? quote.mark body = none ∧ after = []

def Piece.StandsBefore (after : List Char) : Piece → Prop
  | trivia part => part.StandsBefore after
  | lexeme part => part.StandsBefore after

namespace Symbol

theorem isGlyph_of_mem {symbol : Symbol} {c : Char} (h : c ∈ symbol.chars) : isGlyph c = true := by
  have hall : symbol.chars.all isGlyph = true := by
    cases symbol <;> decide
  exact List.all_eq_true.1 hall c h

theorem longestPrefix?_eq_some {symbol : Symbol} {after : List Char}
    (h : ∀ c ∈ after.head?, ∀ other : Symbol, other.chars ≠ symbol.chars ++ [c]) :
    longestPrefix? (symbol.chars ++ after) = some symbol := by
  rw [longestPrefix?_eq_longest?]
  apply longest?_eq_some (List.prefix_append _ _)
  intro other hother
  by_contra hlonger
  have hpos := symbol.width_pos
  have htwo := other.width_le_two
  have hchars : symbol.chars <+: other.chars :=
    List.prefix_of_prefix_length_le (List.prefix_append _ _) hother
      (Nat.le_of_lt (Nat.lt_of_not_le hlonger))
  obtain ⟨more, hmore⟩ := hchars
  have hlength : other.width = symbol.width + more.length := by
    rw [width, width, ← hmore, List.length_append]
  obtain ⟨c, rfl⟩ := List.length_eq_one_iff.1 (show more.length = 1 by omega)
  rw [← hmore, List.prefix_append_right_inj] at hother
  obtain ⟨behind, rfl⟩ := hother
  exact h c rfl other hmore.symm

end Symbol

namespace Text

theorem takeWhile_isWordPart {word after : List Char} (hword : ∀ c ∈ word, isWordPart c = true)
    (hafter : ∀ c ∈ after.head?, isWordPart c = false) :
    (word ++ after).takeWhile isWordPart = word := by
  rw [List.takeWhile_append_of_pos hword]
  cases after with
  | nil => exact List.append_nil word
  | cons c rest => rw [List.takeWhile_cons_of_neg (by simp [hafter c rfl]), List.append_nil]

end Text

namespace Piece

theorem first_quote (quote : Quote) (rest : List Char) :
    first quote.mark rest = lexeme (.ofQuote quote rest) := by
  cases quote <;> rfl

theorem first_symbol {symbol : Symbol} {c : Char} {rest : List Char}
    (h : Symbol.longestPrefix? (c :: rest) = some symbol) :
    first c rest = lexeme (.symbol symbol) := by
  obtain ⟨head, others, hchars, hspace, hsign, hdouble, hsingle⟩ := symbol.head_of_chars
  obtain ⟨behind, hbehind⟩ := Symbol.mem_prefixes.1 (List.argmax_mem h)
  rw [hchars] at hbehind
  obtain ⟨rfl, -⟩ := List.cons.inj hbehind
  rw [first, if_neg (by simp [hspace]), if_neg hsign, if_neg hdouble, if_neg hsingle, h]

theorem first_word {c : Char} (h : Text.isWordPart c = true) (rest : List Char) :
    first c rest = lexeme (.word c (rest.takeWhile Text.isWordPart)) := by
  obtain ⟨hspace, hsign, hdouble, hsingle, hglyph⟩ := Text.isWordPart_eq_true_iff.1 h
  have hnone : Symbol.longestPrefix? (c :: rest) = none := by
    rw [Symbol.longestPrefix?_eq_longest?, Symbol.longest?_eq_none_iff]
    exact hglyph
  rw [first, if_neg (by simp [hspace]), if_neg hsign, if_neg hdouble, if_neg hsingle, hnone]

theorem first_of_standsBefore {piece : Piece} {after rest : List Char} {c : Char}
    (h : piece.StandsBefore after) (htext : piece.chars ++ after = c :: rest) :
    first c rest = piece := by
  cases piece with
  | trivia part =>
    cases part with
    | blank d =>
      obtain ⟨rfl, rfl⟩ := List.cons.inj htext
      exact if_pos h
    | comment text =>
      obtain ⟨rfl, rfl⟩ := List.cons.inj htext
      have hread : Text.beforeLineBreak (text ++ after) = text := h
      rw [first, if_neg (by decide), if_pos rfl, List.append_eq, hread]
  | lexeme part =>
    cases part with
    | word first others =>
      obtain ⟨rfl, rfl⟩ := List.cons.inj htext
      obtain ⟨hword, hafter⟩ := h
      obtain ⟨hfirst, hothers⟩ := List.forall_mem_cons.1 hword
      rw [first_word hfirst, List.append_eq, Text.takeWhile_isWordPart hothers hafter]
    | symbol mark =>
      apply first_symbol
      rw [← htext]
      exact Symbol.longestPrefix?_eq_some h
    | quoted quote body =>
      obtain ⟨rfl, rfl⟩ := List.cons.inj htext
      have hread : Text.quotedBody? quote.mark (body ++ [quote.mark] ++ after) = some body := by
        rw [List.append_assoc]
        exact Text.quotedBody?_append h after
      rw [first_quote, List.append_eq, Lexeme.ofQuote, hread]
    | unclosed quote body =>
      obtain ⟨rfl, rfl⟩ := List.cons.inj htext
      obtain ⟨hnone, rfl⟩ := h
      rw [first_quote, List.append_eq, List.append_nil, Lexeme.ofQuote, hnone]

theorem standsBefore_of_first {piece : Piece} {after rest : List Char} {c : Char}
    (h : first c rest = piece) (htext : piece.chars ++ after = c :: rest) :
    piece.StandsBefore after := by
  cases piece with
  | trivia part =>
    obtain ⟨rfl, hspace⟩ | ⟨rfl, -⟩ := first_trivia h
    · exact hspace
    · have hrest : Text.beforeLineBreak rest ++ after = rest := (List.cons.inj htext).2
      exact congrArg Text.beforeLineBreak hrest
  | lexeme part =>
    obtain ⟨quote, rfl, rfl⟩ | ⟨symbol, hsymbol, rfl⟩ | ⟨hword, rfl⟩ := cases_of_first_lexeme h
    · unfold Lexeme.ofQuote at htext ⊢
      split at htext
      next body hbody => exact Text.quotedBody?_append hbody []
      next hnone =>
        have hrest : rest ++ after = rest := (List.cons.inj htext).2
        exact ⟨hnone, List.append_right_eq_self.1 hrest⟩
    · intro d hd other hother
      obtain ⟨behind, rfl⟩ := List.head?_eq_some_iff.1 hd
      have hprefix : other.chars <+: c :: rest := by
        rw [← htext, hother]
        exact ⟨behind, List.append_assoc _ _ _⟩
      have hle := List.le_of_mem_argmax (Symbol.mem_prefixes.2 hprefix) hsymbol
      have hlength := congrArg List.length hother
      rw [List.length_append, List.length_singleton] at hlength
      unfold Symbol.width at hle
      omega
    · have hrest : rest.takeWhile Text.isWordPart ++ after = rest := (List.cons.inj htext).2
      have hafter : after = rest.dropWhile Text.isWordPart := by
        have hsplit := List.takeWhile_append_dropWhile (p := Text.isWordPart) (l := rest)
        exact List.append_cancel_left (hrest.trans hsplit.symm)
      refine ⟨List.forall_mem_cons.2 ⟨hword, fun d => List.mem_takeWhile_imp⟩, ?_⟩
      intro d hd
      rw [hafter] at hd
      have hnot := List.head?_dropWhile_not Text.isWordPart rest
      rw [hd] at hnot
      simpa using hnot

theorem chars_ne_nil (piece : Piece) : piece.chars ≠ [] :=
  List.ne_nil_of_length_pos piece.length_pos

end Piece

/-! ### Rows of pieces -/

def Piece.text (parts : List Piece) : List Char := parts.flatMap Piece.chars

namespace Piece

theorem text_append (first second : List Piece) :
    text (first ++ second) = text first ++ text second := List.flatMap_append

theorem text_trivia (gap : List Trivia) : text (gap.map .trivia) = Trivia.text gap :=
  Layout.flatMap_chars_trivia gap

theorem text_itemPieces (item : Item) :
    text (Layout.itemPieces item) = item.text ++ item.lexeme.chars :=
  Layout.flatMap_chars_itemPieces item

theorem text_pieces (source : List Char) : text (pieces source) = source :=
  flatMap_chars_pieces source

end Piece

namespace Layout

theorem text_ofText (text : List Char) : Piece.text (ofText text).pieces = text := by
  rw [pieces_ofText, Piece.text_pieces]

theorem text_mk (items : List Item) (tail : List Trivia) :
    Piece.text (pieces ⟨items, tail⟩) =
      Piece.text (items.flatMap itemPieces) ++ Trivia.text tail := by
  rw [pieces, Piece.text_append, Piece.text_trivia]

end Layout

/-- Each piece is read as it is where `after` stands behind them all. -/
def AreRead (after : List Char) : List Piece → Prop
  | [] => True
  | piece :: rest => piece.StandsBefore (Piece.text rest ++ after) ∧ AreRead after rest

theorem areRead_append {first second : List Piece} {after : List Char} :
    AreRead after (first ++ second) ↔
      AreRead (Piece.text second ++ after) first ∧ AreRead after second := by
  induction first with
  | nil => simp [AreRead]
  | cons piece rest ih =>
    rw [List.cons_append, AreRead, AreRead, ih, Piece.text_append, List.append_assoc, and_assoc]

theorem AreRead.pieces_append {parts : List Piece} {after : List Char}
    (h : AreRead after parts) : pieces (Piece.text parts ++ after) = parts ++ pieces after := by
  induction parts with
  | nil => rfl
  | cons piece rest ih =>
    obtain ⟨hpiece, hrest⟩ := h
    have htext : Piece.text (piece :: rest) ++ after =
        piece.chars ++ (Piece.text rest ++ after) := List.append_assoc _ _ _
    obtain ⟨c, others, hchars⟩ := List.exists_cons_of_ne_nil
      (List.append_ne_nil_of_left_ne_nil piece.chars_ne_nil (Piece.text rest ++ after))
    have hfirst := Piece.first_of_standsBefore hpiece hchars
    rw [htext, hchars, pieces_cons, hfirst, ← hchars, Piece.length, List.drop_left, ih hrest]
    rfl

theorem areRead_pieces (text : List Char) : AreRead [] (pieces text) := by
  fun_induction pieces text with
  | case1 => exact trivial
  | case2 c rest ih =>
    refine ⟨Piece.standsBefore_of_first rfl ?_, ih⟩
    rw [List.append_nil, Piece.text_pieces]
    exact List.prefix_iff_eq_append.1 (Piece.chars_first_isPrefix c rest)

/-- Cutting off the front of a text changes nothing behind it. -/
theorem areRead_of_pieces_eq_append {text : List Char} {first second : List Piece}
    (h : pieces text = first ++ second) :
    AreRead (Piece.text second) first ∧ AreRead [] second := by
  have hread := areRead_pieces text
  rw [h, areRead_append, List.append_nil] at hread
  exact hread

theorem pieces_text_of_areRead {parts : List Piece} (h : AreRead [] parts) :
    pieces (Piece.text parts) = parts := by
  have hpieces := h.pieces_append
  rwa [List.append_nil, pieces_nil, List.append_nil] at hpieces

theorem Layout.ofText_text {layout : Layout} (h : AreRead [] layout.pieces) :
    ofText (Piece.text layout.pieces) = layout := by
  rw [ofText, pieces_text_of_areRead h, ofPieces_pieces]

namespace Piece.StandsBefore

variable {piece : Piece} {c d : Char} {first second : List Char}

theorem of_cons (hfeed : c = '\r' → first.head? = some '\n' → second.head? = some '\n')
    (h : piece.StandsBefore (c :: first)) : piece.StandsBefore (c :: second) := by
  cases piece with
  | trivia part =>
    cases part with
    | blank d => exact h
    | comment text => exact Text.beforeLineBreak_append_cons hfeed h
  | lexeme part =>
    cases part with
    | word first rest => exact h
    | symbol mark => exact h
    | quoted quote body => exact h
    | unclosed quote body => cases h.2

theorem of_nil (h : piece.StandsBefore first) : piece.StandsBefore [] := by
  cases piece with
  | trivia part =>
    cases part with
    | blank d => exact h
    | comment text =>
      have hself : Text.beforeLineBreak text = text := Text.beforeLineBreak_self h
      rw [StandsBefore, Trivia.StandsBefore, List.append_nil, hself]
  | lexeme part =>
    cases part with
    | word first rest => exact ⟨h.1, by simp⟩
    | symbol mark =>
      intro c hc
      cases hc
    | quoted quote body => exact h
    | unclosed quote body => exact ⟨h.1, rfl⟩

theorem of_head (hcomment : ∀ text, piece ≠ .trivia (.comment text))
    (hunclosed : ∀ quote body, piece ≠ .lexeme (.unclosed quote body))
    (hglyph : ∀ d ∈ second.head?, Symbol.isGlyph d = false)
    (hword : ∀ d ∈ second.head?, Text.isWordPart d = true →
      ∃ c ∈ first.head?, Text.isWordPart c = true)
    (h : piece.StandsBefore first) : piece.StandsBefore second := by
  cases piece with
  | trivia part =>
    cases part with
    | blank c => exact h
    | comment text => exact absurd rfl (hcomment text)
  | lexeme part =>
    cases part with
    | word letter rest =>
      refine ⟨h.1, ?_⟩
      intro d hd
      rw [← Bool.not_eq_true]
      intro hpart
      obtain ⟨c, hc, hgoes⟩ := hword d hd hpart
      rw [h.2 c hc] at hgoes
      cases hgoes
    | symbol mark =>
      intro d hd other hother
      have hmem : d ∈ other.chars := by
        rw [hother]
        exact List.mem_append_right _ List.mem_cons_self
      have hnot := hglyph d hd
      rw [Symbol.isGlyph_of_mem hmem] at hnot
      cases hnot
    | quoted quote body => exact h
    | unclosed quote body => exact absurd rfl (hunclosed quote body)

theorem ne_comment (hc : Text.isSpace c = false) (h : piece.StandsBefore (c :: first))
    (text : List Char) : piece ≠ .trivia (.comment text) := by
  rintro rfl
  have hread : Text.beforeLineBreak (text ++ c :: first) = text := h
  have hend := Text.drop_beforeLineBreak (text ++ c :: first)
  rw [hread, List.drop_left] at hend
  rcases hend with hnil | hbreak
  · cases hnil
  · rw [(Text.isSpace_iff first).2 (.inl hbreak)] at hc
    cases hc

theorem ne_unclosed (h : piece.StandsBefore (c :: first)) (quote : Quote) (body : List Char) :
    piece ≠ .lexeme (.unclosed quote body) := by
  rintro rfl
  cases h.2

end Piece.StandsBefore

namespace AreRead

variable {parts : List Piece} {piece : Piece} {c d : Char} {first second : List Char}

theorem of_cons (hfeed : c = '\r' → first.head? = some '\n' → second.head? = some '\n')
    (h : AreRead (c :: first) parts) : AreRead (c :: second) parts := by
  induction parts with
  | nil => exact trivial
  | cons piece rest ih =>
    refine ⟨?_, ih h.2⟩
    have hpiece := h.1
    cases htext : Piece.text rest with
    | nil =>
      rw [htext] at hpiece
      exact hpiece.of_cons hfeed
    | cons d others =>
      rw [htext] at hpiece
      apply hpiece.of_cons
      intro _ hhead
      cases others <;> exact hhead

/-- What stands behind a row of pieces touches the last one alone, unless it tears a line break
apart. -/
theorem of_last (hpiece : piece.StandsBefore second)
    (hfeed : piece.chars = ['\r'] → first.head? = some '\n' → second.head? = some '\n')
    (h : AreRead first (parts ++ [piece])) : AreRead second (parts ++ [piece]) := by
  rw [areRead_append, Piece.text, List.flatMap_singleton] at h ⊢
  obtain ⟨c, others, hchars⟩ := List.exists_cons_of_ne_nil piece.chars_ne_nil
  rw [hchars] at h hfeed ⊢
  refine ⟨h.1.of_cons ?_, hpiece, trivial⟩
  rintro rfl hhead
  cases others with
  | nil => exact hfeed rfl hhead
  | cons d others => exact hhead

theorem of_nil (hseam : first.head? = some '\n' → (Piece.text parts).getLast? ≠ some '\r')
    (h : AreRead first parts) : AreRead [] parts := by
  rcases List.eq_nil_or_concat parts with rfl | ⟨others, piece, rfl⟩
  · exact trivial
  · rw [List.concat_eq_append] at h hseam ⊢
    have hpiece := (areRead_append.1 h).2.1
    refine h.of_last hpiece.of_nil ?_
    intro hreturn hfeed
    have hlast : (Piece.text (others ++ [piece])).getLast? = some '\r' := by
      have hpieceText : Piece.text [piece] = ['\r'] := by
        rw [Piece.text, List.flatMap_singleton, hreturn]
      rw [Piece.text_append, hpieceText, List.getLast?_concat]
    exact absurd hlast (hseam hfeed)

theorem of_literal (hc : Text.isSpace c = false) (hd : Symbol.isGlyph d = false)
    (hword : Text.isWordPart d = true → Text.isWordPart c = true)
    (h : AreRead (c :: first) parts) : AreRead (d :: second) parts := by
  rcases List.eq_nil_or_concat parts with rfl | ⟨others, piece, rfl⟩
  · exact trivial
  · rw [List.concat_eq_append] at h ⊢
    have hpiece := (areRead_append.1 h).2.1
    refine h.of_last (hpiece.of_head (hpiece.ne_comment hc) hpiece.ne_unclosed ?_ ?_) ?_
    · rintro _ ⟨⟩
      exact hd
    · rintro _ ⟨⟩ hpart
      exact ⟨c, rfl, hword hpart⟩
    · rintro - ⟨⟩
      cases hc

end AreRead

end Offside
