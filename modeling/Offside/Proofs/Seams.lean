import Offside.Proofs.Context
import Offside.Proofs.Pass
import Offside.Proofs.Spans

/-!
# In the middle of a piece

A pass stops at every character, and so in the middle of words, quoted texts and comments. What it
has read by then is the front of one piece of the text, and all that stands before it are whole
pieces. Where the piece ends, the pass is at a seam between two pieces again.
-/

namespace Offside

open Text (Quote)

/-! ### Runs of trivia -/

section Run

variable {parts : List (Piece × Span)} {start middle stop : Nat}

theorem isTriviaRun_self (parts : List (Piece × Span)) (position : Nat) :
    IsTriviaRun parts position position := by
  intro other hlow hhigh
  omega

theorem IsTriviaRun.append (hfirst : IsTriviaRun parts start middle)
    (hsecond : IsTriviaRun parts middle stop) : IsTriviaRun parts start stop := by
  intro position hlow hhigh
  by_cases hmiddle : position < middle
  · exact hfirst position hlow hmiddle
  · exact hsecond position (Nat.le_of_not_lt hmiddle) hhigh

theorem isTriviaRun_of_mem {part : Trivia} {span : Span} (h : (Piece.trivia part, span) ∈ parts)
    (hstart : span.start ≤ start) (hstop : stop ≤ span.stop) : IsTriviaRun parts start stop := by
  intro position hlow hhigh
  exact ⟨part, span, h, by omega, by omega⟩

end Run

/-! ### Seams -/

/-- A piece starts at the position, unless the text ends there. -/
def IsSeam (source : List Char) (position : Nat) : Prop :=
  ∃ before, pieces source = before ++ pieces (source.drop position) ∧
    (Piece.text before).length = position

namespace IsSeam

variable {source rest : List Char} {position : Nat} {c : Char}

theorem start (source : List Char) : IsSeam source 0 := ⟨[], rfl, rfl⟩

theorem next (h : IsSeam source position) (htext : source.drop position = c :: rest) :
    IsSeam source (position + (Piece.first c rest).length) ∧
      (Piece.first c rest, ⟨position, position + (Piece.first c rest).length⟩) ∈
        placed 0 (pieces source) := by
  obtain ⟨before, hpieces, hlength⟩ := h
  rw [htext, pieces_cons] at hpieces
  constructor
  · refine ⟨before ++ [Piece.first c rest], ?_, ?_⟩
    · rw [hpieces, ← List.drop_drop, htext, List.append_assoc, List.singleton_append]
    · rw [Piece.text_append, List.length_append, hlength, Piece.text, List.flatMap_singleton]
      rfl
  · have hplace : 0 + (before.flatMap Piece.chars).length = position :=
      (Nat.zero_add _).trans hlength
    rw [hpieces, placed_append, placed, hplace]
    exact List.mem_append_right _ List.mem_cons_self

theorem piece {piece : Piece} {after : List Char} (h : IsSeam source position)
    (hstands : piece.StandsBefore after) (htext : source.drop position = piece.chars ++ after) :
    IsSeam source (position + piece.length) ∧
      (piece, ⟨position, position + piece.length⟩) ∈ placed 0 (pieces source) := by
  obtain ⟨c, others, hchars⟩ := List.exists_cons_of_ne_nil
    (List.append_ne_nil_of_left_ne_nil piece.chars_ne_nil after)
  have hnext := h.next (htext.trans hchars)
  rw [Piece.first_of_standsBefore hstands hchars] at hnext
  exact hnext

theorem blank (h : IsSeam source position) (htext : source.drop position = c :: rest)
    (hspace : Text.isSpace c = true) :
    IsSeam source (position + 1) ∧
      IsTriviaRun (placed 0 (pieces source)) position (position + 1) := by
  have hpiece : Piece.StandsBefore rest (.trivia (.blank c)) := hspace
  obtain ⟨hseam, hmem⟩ := h.piece hpiece htext
  exact ⟨hseam, isTriviaRun_of_mem hmem (Nat.le_refl _) (Nat.le_refl _)⟩

theorem lineBreak (h : IsSeam source position)
    (hbreak : Text.lineBreakLength (source.drop position) ≠ 0) :
    IsSeam source (position + Text.lineBreakLength (source.drop position)) ∧
      IsTriviaRun (placed 0 (pieces source)) position
        (position + Text.lineBreakLength (source.drop position)) := by
  unfold Text.lineBreakLength at hbreak ⊢
  split at hbreak
  next rest hfeed => exact h.blank hfeed rfl
  next rest hreturn =>
    have hfeed : source.drop (position + 1) = '\n' :: rest := by
      rw [← List.drop_drop, hreturn]
      rfl
    obtain ⟨hseam, hrun⟩ := h.blank hreturn rfl
    obtain ⟨hnext, hmore⟩ := hseam.blank hfeed rfl
    exact ⟨hnext, hrun.append hmore⟩
  next => exact absurd rfl hbreak

theorem symbol {symbol : Symbol} (h : IsSeam source position)
    (hlongest : Symbol.longest? (source.drop position) = some symbol) :
    IsSeam source (position + symbol.width) := by
  obtain ⟨after, htext⟩ := Symbol.eq_append_of_longest? hlongest
  obtain ⟨c, others, hchars⟩ := List.exists_cons_of_ne_nil
    (List.append_ne_nil_of_left_ne_nil (Piece.lexeme (.symbol symbol)).chars_ne_nil after)
  have hcons := htext.trans hchars
  rw [hcons, ← Symbol.longestPrefix?_eq_longest?] at hlongest
  have hnext := h.next hcons
  rw [Piece.first_symbol hlongest] at hnext
  exact hnext.1

theorem word {word after : List Char} (h : IsSeam source position)
    (htext : source.drop position = word ++ after) (hne : word ≠ [])
    (hword : ∀ c ∈ word, Text.isWordPart c = true)
    (hend : ∀ c ∈ after.head?, Text.isWordPart c = false) :
    IsSeam source (position + word.length) := by
  obtain ⟨c, others, rfl⟩ := List.exists_cons_of_ne_nil hne
  have hpiece : Piece.StandsBefore after (.lexeme (.word c others)) := ⟨hword, hend⟩
  exact (h.piece hpiece htext).1

theorem quoted {quote : Quote} {body after : List Char} (h : IsSeam source position)
    (htext : source.drop position = quote.mark :: (body ++ quote.mark :: after))
    (hbody : Text.quotedBody? quote.mark (body ++ quote.mark :: after) = some body) :
    IsSeam source (position + 1 + body.length + 1) := by
  have hpiece : Piece.StandsBefore after (.lexeme (.quoted quote body)) :=
    Text.quotedBody?_append hbody []
  have hchars : (Piece.lexeme (.quoted quote body)).chars ++ after =
      quote.mark :: (body ++ quote.mark :: after) := by
    simp [Piece.chars, Lexeme.chars]
  have hseam := (h.piece hpiece (htext.trans hchars.symm)).1
  have hlength : (Piece.lexeme (.quoted quote body)).length = 1 + body.length + 1 := by
    simp [Piece.length, Piece.chars, Lexeme.chars, Nat.add_comm]
  rw [hlength, ← Nat.add_assoc, ← Nat.add_assoc] at hseam
  exact hseam

theorem comment {text after : List Char} (h : IsSeam source position)
    (htext : source.drop position = '#' :: (text ++ after))
    (hread : Text.beforeLineBreak (text ++ after) = text) :
    IsSeam source (position + 1 + text.length) := by
  have hpiece : Piece.StandsBefore after (.trivia (.comment text)) := hread
  have hseam := (h.piece hpiece htext).1
  have hlength : (Piece.trivia (.comment text)).length = 1 + text.length := Nat.add_comm _ _
  rw [hlength, ← Nat.add_assoc] at hseam
  exact hseam

end IsSeam

/-! ### What a mode tells of the text -/

theorem drop_add_length {source front after : List Char} {position : Nat}
    (h : source.drop position = front ++ after) :
    source.drop (position + front.length) = after := by
  rw [← List.drop_drop, h, List.drop_left]

theorem drop_succ {source rest : List Char} {position : Nat} {c : Char}
    (h : source.drop position = c :: rest) : source.drop (position + 1) = rest := by
  rw [← List.drop_drop, h]
  rfl

namespace Scan.Mode

/-- What has been read of the piece that the pass is in the middle of stands right in front of the
position, and the piece goes on with what stands behind it. -/
def Fits (source : List Char) (position : Nat) : Mode → Prop
  | between => IsSeam source position
  | lineStart => IsSeam source position
  | comment => ∃ start text, IsSeam source start ∧ position = start + 1 + text.length ∧
      source.drop start = '#' :: (text ++ source.drop position) ∧
      Text.beforeLineBreak (text ++ source.drop position) =
        text ++ Text.beforeLineBreak (source.drop position)
  | word start text => IsSeam source start ∧ position = start + text.toList.length ∧
      source.drop start = text.toList ++ source.drop position ∧ text.toList ≠ [] ∧
      ∀ c ∈ text.toList, Text.isWordPart c = true
  | quoted quote start body => IsSeam source start ∧ position = start + 1 + body.toList.length ∧
      source.drop start = quote.mark :: (body.toList ++ source.drop position) ∧
      Text.quotedBody? quote.mark (body.toList ++ source.drop position) =
        (Text.quotedBody? quote.mark (source.drop position)).map (body.toList ++ ·)

variable {source rest : List Char} {position start : Nat} {c : Char} {text body : String}
  {quote : Quote}

/-! #### Comments -/

theorem fits_comment_open (h : IsSeam source position)
    (htext : source.drop position = '#' :: rest) :
    Fits source (position + 1) comment ∧
      IsTriviaRun (placed 0 (pieces source)) position (position + 1) := by
  have hrest : source.drop (position + 1) = rest := drop_succ htext
  refine ⟨⟨position, [], h, rfl, ?_, rfl⟩, ?_⟩
  · rw [htext, hrest]
    rfl
  · have hfirst : Piece.first '#' rest = .trivia (.comment (Text.beforeLineBreak rest)) := rfl
    have hmem := (h.next htext).2
    rw [hfirst] at hmem
    refine isTriviaRun_of_mem hmem (Nat.le_refl _) ?_
    exact Nat.add_le_add_left (Piece.length_pos _) position

theorem Fits.comment_step (h : Fits source position comment)
    (htext : source.drop position = c :: rest) (hbreak : Text.lineBreakLength (c :: rest) = 0) :
    Fits source (position + 1) comment ∧
      IsTriviaRun (placed 0 (pieces source)) position (position + 1) := by
  obtain ⟨start, text, hseam, hposition, hstart, hread⟩ := h
  have hrest : source.drop (position + 1) = rest := drop_succ htext
  rw [htext, Text.beforeLineBreak_cons hbreak] at hread
  constructor
  · refine ⟨start, text ++ [c], hseam, ?_, ?_, ?_⟩
    · rw [hposition, List.length_append, List.length_singleton, Nat.add_assoc]
    · rw [hstart, htext, hrest, List.append_assoc]
      rfl
    · rw [hrest, List.append_assoc, List.append_assoc]
      exact hread
  · have hfirst : Piece.first '#' (text ++ source.drop position) =
        .trivia (.comment (text ++ c :: Text.beforeLineBreak rest)) := by
      rw [htext, ← hread]
      rfl
    have hlength : (Piece.trivia (.comment (text ++ c :: Text.beforeLineBreak rest))).length =
        text.length + ((Text.beforeLineBreak rest).length + 1) + 1 := by
      simp [Piece.length, Piece.chars, Trivia.chars]
    have hmem := (hseam.next hstart).2
    rw [hfirst] at hmem
    apply isTriviaRun_of_mem hmem
    · dsimp only
      omega
    · dsimp only
      omega

theorem Fits.comment_close (h : Fits source position comment)
    (hbreak : Text.lineBreakLength (source.drop position) ≠ 0) : IsSeam source position := by
  obtain ⟨start, text, hseam, hposition, hstart, hread⟩ := h
  rw [Text.beforeLineBreak_eq_nil hbreak, List.append_nil] at hread
  rw [hposition]
  exact hseam.comment hstart hread

/-! #### Words -/

theorem fits_word_open (h : IsSeam source position) (htext : source.drop position = c :: rest)
    (hc : Text.isWordPart c = true) : Fits source (position + 1) (word position c.toString) := by
  have hrest : source.drop (position + 1) = rest := drop_succ htext
  have hchars : c.toString.toList = [c] := String.toList_singleton c
  refine ⟨h, ?_, ?_, ?_, ?_⟩
  · rw [hchars]
    rfl
  · rw [hchars, htext, hrest]
    rfl
  · rw [hchars]
    exact List.cons_ne_nil c []
  · rw [hchars]
    exact List.forall_mem_singleton.2 hc

theorem Fits.word_push (h : Fits source position (word start text))
    (htext : source.drop position = c :: rest) (hc : Text.isWordPart c = true) :
    Fits source (position + 1) (word start (text.push c)) := by
  obtain ⟨hseam, hposition, hstart, hne, hword⟩ := h
  have hrest : source.drop (position + 1) = rest := drop_succ htext
  refine ⟨hseam, ?_, ?_, ?_, ?_⟩
  · rw [hposition, String.toList_push, List.length_append, List.length_singleton, Nat.add_assoc]
  · rw [hstart, htext, hrest, String.toList_push, List.append_assoc]
    rfl
  · rw [String.toList_push]
    exact List.append_ne_nil_of_left_ne_nil hne [c]
  · rw [String.toList_push, List.forall_mem_append]
    exact ⟨hword, List.forall_mem_singleton.2 hc⟩

theorem Fits.word_close (h : Fits source position (word start text))
    (hend : ∀ c ∈ (source.drop position).head?, Text.isWordPart c = false) :
    IsSeam source position := by
  obtain ⟨hseam, hposition, hstart, hne, hword⟩ := h
  rw [hposition]
  exact hseam.word hstart hne hword hend

/-! #### Quoted texts -/

theorem fits_quoted_open (h : IsSeam source position)
    (htext : source.drop position = quote.mark :: rest) :
    Fits source (position + 1) (quoted quote position "") := by
  have hrest : source.drop (position + 1) = rest := drop_succ htext
  have hchars : "".toList = [] := rfl
  refine ⟨h, ?_, ?_, ?_⟩
  · rw [hchars]
    rfl
  · rw [hchars, htext, hrest]
    rfl
  · rw [hchars]
    simp

theorem Fits.quoted_append {front : List Char} {longer : String}
    (h : Fits source position (quoted quote start body))
    (htext : source.drop position = front ++ rest) (hlonger : longer.toList = body.toList ++ front)
    (hread : Text.quotedBody? quote.mark (front ++ rest) =
      (Text.quotedBody? quote.mark rest).map (front ++ ·)) :
    Fits source (position + front.length) (quoted quote start longer) := by
  obtain ⟨hseam, hposition, hstart, hbody⟩ := h
  have hrest : source.drop (position + front.length) = rest := drop_add_length htext
  refine ⟨hseam, ?_, ?_, ?_⟩
  · rw [hposition, hlonger, List.length_append, Nat.add_assoc]
  · rw [hstart, htext, hrest, hlonger, List.append_assoc]
  · rw [htext, hread, Option.map_map] at hbody
    rw [hrest, hlonger, List.append_assoc, hbody]
    congr 1
    funext more
    exact (List.append_assoc _ _ _).symm

theorem Fits.quoted_close (h : Fits source position (quoted quote start body))
    (htext : source.drop position = quote.mark :: rest) : IsSeam source (position + 1) := by
  obtain ⟨hseam, hposition, hstart, hbody⟩ := h
  rw [htext, Text.quotedBody?_cons quote.mark_ne_backslash, if_pos rfl, Option.map_some,
    List.append_nil] at hbody
  rw [htext] at hstart
  rw [hposition]
  exact hseam.quoted hstart hbody

end Scan.Mode

end Offside
