import Offside.Proofs.Respelling

/-!
# Texts without their comments

A comment is trivia. With all comments taken out, a text still has the same literals, the same
changes of indentation and the same faults: a line that held nothing but a comment is blank with it
and without it.
-/

namespace Offside

/-- The piece is a number sign outside all quoted texts, and what stands behind it up to the line
break, or the end of the text. -/
def Piece.isComment : Piece → Bool
  | trivia (.comment _) => true
  | trivia (.blank _) => false
  | lexeme _ => false

/-- The text without its comments. The line breaks behind them stay. -/
def Text.withoutComments (text : List Char) : List Char :=
  Piece.text ((pieces text).filter (!·.isComment))

example : Text.withoutComments "a#b\r\n'#' # '\n\"\\\"#\" #".toList =
    "a\r\n'#' \n\"\\\"#\" ".toList := by
  decide +kernel

namespace Spelling

def uncommented : Spelling where
  blanks c := [c]
  comment? _ := none
  blanks_ne_nil c := List.cons_ne_nil c []
  isSpace_of_mem hspace hmem := by rwa [List.mem_singleton.1 hmem]
  lineFeed := ⟨[], rfl⟩
  not_mem_blanks hc hmem := hc (List.mem_singleton.1 hmem).symm
  width_blanks _ := rfl
  not_mem_comment hother := nomatch hother

theorem pieces_uncommented (parts : List Piece) :
    uncommented.pieces parts = parts.filter (!·.isComment) := by
  induction parts with
  | nil => rfl
  | cons piece rest ih =>
    rw [pieces, List.flatMap_cons, ← pieces, ih]
    cases piece with
    | lexeme part => rfl
    | trivia part => cases part <;> rfl

end Spelling

/-- Comments are seen in nothing but trivia. -/
theorem readAlike_withoutComments (source : String) (options : Options) :
    ReadAlike options source (String.ofList (Text.withoutComments source.toList)) := by
  have htext : Spelling.uncommented.text source.toList = Text.withoutComments source.toList := by
    rw [Spelling.text, Spelling.pieces_uncommented, Text.withoutComments]
  have hread : AreRead [] (Spelling.uncommented.pieces (pieces source.toList)) := by
    apply Spelling.uncommented.areRead_pieces (areRead_pieces source.toList)
    rintro text behind - other ⟨⟩
  rw [← htext]
  exact Spelling.uncommented.readAlike source options hread

end Offside
