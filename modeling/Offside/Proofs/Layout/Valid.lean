import Offside.Proofs.Layout

/-!
# Gaps hold blanks and comments

What the pieces of a text are known to hold. A comment runs to the end of its line, so no literal
stands behind one in the same line: from the start of its line, or of the text, up to a literal
there is only white space.
-/

namespace Offside

open Text (Quote)

namespace Text

theorem not_mem_beforeLineBreak (text : List Char) : '\n' ∉ beforeLineBreak text := by
  fun_induction beforeLineBreak text with
  | case1 => exact List.not_mem_nil
  | case2 rest => exact List.not_mem_nil
  | case3 rest => exact List.not_mem_nil
  | case4 c rest hfeed _ ih =>
    rw [List.mem_cons, not_or]
    exact ⟨fun h => hfeed h.symm, ih⟩

theorem drop_beforeLineBreak (text : List Char) :
    text.drop (beforeLineBreak text).length = [] ∨
      lineBreakLength (text.drop (beforeLineBreak text).length) ≠ 0 := by
  fun_induction beforeLineBreak text with
  | case1 => exact .inl rfl
  | case2 rest => exact .inr (by simp [lineBreakLength])
  | case3 rest => exact .inr (by simp [lineBreakLength])
  | case4 c rest _ _ ih => exact ih

end Text

def Trivia.IsValid : Trivia → Prop
  | blank c => Text.isSpace c = true
  | comment text => '\n' ∉ text

theorem Trivia.not_mem_chars {part : Trivia} (hpart : part.IsValid) (h : part ≠ .blank '\n') :
    '\n' ∉ part.chars := by
  cases part with
  | blank c =>
    intro hmem
    rw [chars, List.mem_singleton] at hmem
    exact h (by rw [hmem])
  | comment text =>
    intro hmem
    rcases List.mem_cons.1 hmem with hsign | htext
    · cases hsign
    · exact hpart htext

/-- A literal starts with a character that starts no trivia. -/
def Lexeme.IsValid (lexeme : Lexeme) : Prop :=
  ∃ c rest, lexeme.chars = c :: rest ∧ Text.isSpace c = false ∧ c ≠ '#'

/-- Between the start of its line and a literal there is nothing but white space. -/
structure Item.IsValid (item : Item) : Prop where
  gap : ∀ part ∈ item.gap, part.IsValid
  indent : ∀ c ∈ Text.lastLine item.text, Text.isSpace c = true
  lexeme : item.lexeme.IsValid

namespace Symbol

theorem head_of_chars (symbol : Symbol) : ∃ c rest, symbol.chars = c :: rest ∧
    Text.isSpace c = false ∧ c ≠ '#' ∧ c ≠ Quote.double.mark ∧ c ≠ Quote.single.mark := by
  cases symbol <;> exact ⟨_, _, rfl, by decide⟩

end Symbol

namespace Piece

theorem first_trivia {c : Char} {rest : List Char} {part : Trivia}
    (h : first c rest = trivia part) :
    part = .blank c ∧ Text.isSpace c = true ∨
      part = .comment (Text.beforeLineBreak rest) ∧ c = '#' := by
  unfold first at h
  split_ifs at h with hspace hsign
  · exact .inl ⟨(Piece.trivia.inj h).symm, hspace⟩
  · exact .inr ⟨(Piece.trivia.inj h).symm, hsign⟩
  · split at h <;> cases h

theorem chars_ofQuote (quote : Text.Quote) (rest : List Char) :
    ∃ others, (Lexeme.ofQuote quote rest).chars = quote.mark :: others := by
  unfold Lexeme.ofQuote
  split
  · exact ⟨_, rfl⟩
  · exact ⟨_, rfl⟩

theorem cases_of_first_lexeme {c : Char} {rest : List Char} {part : Lexeme}
    (h : first c rest = lexeme part) :
    (∃ quote : Quote, c = quote.mark ∧ part = .ofQuote quote rest) ∨
      (∃ symbol, Symbol.longestPrefix? (c :: rest) = some symbol ∧ part = .symbol symbol) ∨
      Text.isWordPart c = true ∧ part = .word c (rest.takeWhile Text.isWordPart) := by
  unfold first at h
  split_ifs at h with hspace hsign hdouble hsingle
  · exact .inl ⟨.double, hdouble, (Piece.lexeme.inj h).symm⟩
  · exact .inl ⟨.single, hsingle, (Piece.lexeme.inj h).symm⟩
  · split at h
    next symbol hsymbol => exact .inr (.inl ⟨symbol, hsymbol, (Piece.lexeme.inj h).symm⟩)
    next hnone =>
      rw [Symbol.longestPrefix?_eq_longest?, Symbol.longest?_eq_none_iff] at hnone
      exact .inr (.inr ⟨Text.isWordPart_eq_true_iff.2 ⟨by simpa using hspace, hsign, hdouble,
        hsingle, hnone⟩, (Piece.lexeme.inj h).symm⟩)

theorem first_lexeme {c : Char} {rest : List Char} {part : Lexeme}
    (h : first c rest = lexeme part) : part.IsValid := by
  obtain ⟨quote, rfl, rfl⟩ | ⟨symbol, -, rfl⟩ | ⟨hword, rfl⟩ := cases_of_first_lexeme h
  · obtain ⟨others, hchars⟩ := chars_ofQuote quote rest
    exact ⟨_, others, hchars, by cases quote <;> decide⟩
  · obtain ⟨head, others, hchars, hspace, hsign, -⟩ := symbol.head_of_chars
    exact ⟨head, others, hchars, hspace, hsign⟩
  · obtain ⟨hspace, hsign, -⟩ := Text.isWordPart_eq_true_iff.1 hword
    exact ⟨c, _, rfl, hspace, hsign⟩

end Piece

namespace Layout

structure IsValid (layout : Layout) : Prop where
  items : ∀ item ∈ layout.items, item.IsValid
  tail : ∀ part ∈ layout.tail, part.IsValid

theorem ofText_nil : ofText [] = ⟨[], []⟩ := by
  rw [ofText, pieces_nil]
  rfl

theorem ofText_cons (c : Char) (rest : List Char) :
    ofText (c :: rest) =
      (ofText ((c :: rest).drop (Piece.first c rest).length)).addPiece (Piece.first c rest) := by
  rw [ofText, pieces_cons]
  rfl

theorem items_addTrivia {part : Trivia} {layout : Layout} {item : Item} {items : List Item}
    (h : (layout.addTrivia part).items = item :: items) :
    ∃ behind, layout.items = behind :: items ∧
      item = { behind with gap := part :: behind.gap } := by
  obtain ⟨items', tail⟩ := layout
  cases items' with
  | nil => cases h
  | cons behind others =>
    rw [addTrivia, List.cons.injEq] at h
    exact ⟨behind, by rw [h.2], h.1.symm⟩

theorem text_addTrivia (part : Trivia) (item : Item) :
    Item.text { item with gap := part :: item.gap } = part.chars ++ item.text :=
  List.flatMap_cons

theorem ofText_blank {c : Char} {rest : List Char} (h : Text.isSpace c = true) :
    ofText (c :: rest) = (ofText rest).addTrivia (.blank c) := by
  have hfirst : Piece.first c rest = .trivia (.blank c) := by rw [Piece.first, if_pos h]
  rw [ofText_cons, hfirst]
  rfl

theorem mem_text_of_lineBreak {text : List Char} {item : Item} {items : List Item}
    (h : Text.lineBreakLength text ≠ 0) (hitems : (ofText text).items = item :: items) :
    '\n' ∈ item.text := by
  have hfeed : ∀ {rest : List Char} {item : Item} {items : List Item},
      (ofText ('\n' :: rest)).items = item :: items → '\n' ∈ item.text := by
    intro rest item items hitems
    rw [ofText_blank (by decide)] at hitems
    obtain ⟨behind, -, rfl⟩ := items_addTrivia hitems
    rw [text_addTrivia]
    exact List.mem_append_left _ (List.mem_singleton.2 rfl)
  unfold Text.lineBreakLength at h
  split at h
  · exact hfeed hitems
  · rw [ofText_blank (by decide)] at hitems
    obtain ⟨behind, hbehind, rfl⟩ := items_addTrivia hitems
    rw [text_addTrivia]
    exact List.mem_append_right _ (hfeed hbehind)
  · exact absurd rfl h

theorem isValid_addTrivia {part : Trivia} {layout : Layout} (h : layout.IsValid)
    (hpart : part.IsValid)
    (hcomment : ∀ text item items, part = .comment text → layout.items = item :: items →
      '\n' ∈ item.text) : (layout.addTrivia part).IsValid := by
  obtain ⟨items, tail⟩ := layout
  cases items with
  | nil => exact ⟨by simp [addTrivia], List.forall_mem_cons.2 ⟨hpart, h.tail⟩⟩
  | cons item others =>
    obtain ⟨hitem, hothers⟩ := List.forall_mem_cons.1 h.items
    refine ⟨List.forall_mem_cons.2 ⟨⟨List.forall_mem_cons.2 ⟨hpart, hitem.gap⟩, ?_, hitem.lexeme⟩,
      hothers⟩, h.tail⟩
    rw [text_addTrivia]
    by_cases hmem : '\n' ∈ item.text
    · rw [Text.lastLine_append hmem]
      exact hitem.indent
    · cases part with
      -- A comment would leave its line without a line feed.
      | comment text => exact absurd (hcomment text item others rfl rfl) hmem
      | blank c =>
        have hindent := hitem.indent
        rw [Text.lastLine_eq_self hmem] at hindent
        have hcons : (Trivia.blank c).chars ++ item.text = c :: item.text := rfl
        rw [hcons, Text.lastLine, Text.lastLine_eq_self hmem]
        split_ifs
        · exact hindent
        · exact List.forall_mem_cons.2 ⟨hpart, hindent⟩

theorem isValid_ofText (text : List Char) : (ofText text).IsValid := by
  fun_induction Offside.pieces text with
  | case1 =>
    rw [ofText_nil]
    exact ⟨by simp, by simp⟩
  | case2 c rest ih =>
    rw [ofText_cons]
    cases hfirst : Piece.first c rest with
    | lexeme part =>
      rw [hfirst] at ih
      have hitem : Item.IsValid ⟨[], part⟩ :=
        ⟨by simp, by simp [Item.text, Trivia.text, Text.lastLine], Piece.first_lexeme hfirst⟩
      exact ⟨List.forall_mem_cons.2 ⟨hitem, ih.items⟩, ih.tail⟩
    | trivia part =>
      rw [hfirst] at ih
      apply isValid_addTrivia ih
      · obtain ⟨rfl, hspace⟩ | ⟨rfl, -⟩ := Piece.first_trivia hfirst
        · exact hspace
        · exact Text.not_mem_beforeLineBreak rest
      · rintro text item items rfl hitems
        obtain ⟨hblank, -⟩ | ⟨htext, rfl⟩ := Piece.first_trivia hfirst
        · cases hblank
        · have hdrop : ('#' :: rest).drop (Piece.trivia (.comment text)).length =
              rest.drop (Text.beforeLineBreak rest).length := by
            rw [htext]
            rfl
          rw [hdrop] at hitems
          rcases Text.drop_beforeLineBreak rest with hnil | hbreak
          · rw [hnil, ofText_nil] at hitems
            cases hitems
          · exact mem_text_of_lineBreak hbreak hitems

end Layout

end Offside
