import Offside.Proofs.Piece
import Offside.Token

/-!
# What a literal is read as

No literal stands for a change of indentation, and whatever is wrong with a literal is an error.
-/

namespace Offside

namespace Literal

/-- A kind that some literal may have, or a fault that leaves the literal unread. -/
def IsOutcome : Except Fault TokenKind → Prop
  | .ok kind => ∀ direction, kind ≠ .indentation direction
  | .error fault => fault.severity = .error

theorem isOutcome_integer (lexeme : String) (digits : List Char) (type : IntegerType)
    (suffixed : Bool) : IsOutcome (integer lexeme digits type suffixed) := by
  simp only [integer]
  split_ifs
  · intro direction h
    cases h
  · rfl

theorem isOutcome_number (lexeme : String) : IsOutcome (number lexeme) := by
  rw [number_eq]
  split_ifs
  · exact isOutcome_integer _ _ _ _
  · split
    · exact isOutcome_integer _ _ _ _
    · rfl

theorem isOutcome_name (word : String) : IsOutcome (.ok (name word)) := by
  intro direction
  unfold name TokenKind.ofName
  split
  · exact TokenKind.noConfusion
  · split_ifs <;> exact TokenKind.noConfusion

theorem isOutcome_word (lexeme : String) : IsOutcome (word lexeme) := by
  unfold word
  split
  · rfl
  · split_ifs
    · exact isOutcome_name lexeme
    · rfl
    · exact isOutcome_number lexeme
    · rfl

theorem severity_of_decodeBody {body : String} {fault : Fault}
    (h : decodeBody body = .error fault) : fault.severity = .error := by
  unfold decodeBody at h
  split at h
  · cases h
  · cases h
    rfl

theorem isOutcome_string (body : String) : IsOutcome (string body) := by
  unfold string
  cases h : decodeBody body with
  | error fault => exact severity_of_decodeBody h
  | ok text =>
    intro direction hkind
    cases hkind

theorem isOutcome_rune (body : String) : IsOutcome (rune body) := by
  unfold rune
  cases h : decodeBody body with
  | error fault => exact severity_of_decodeBody h
  | ok text =>
    dsimp only
    split
    · intro direction hkind
      cases hkind
    · rfl

theorem isOutcome_quoted (quote : Text.Quote) (body : String) : IsOutcome (quoted quote body) := by
  cases quote with
  | double => exact isOutcome_string body
  | single => exact isOutcome_rune body

end Literal

namespace Lexeme

theorem isOutcome_reading (lexeme : Lexeme) : Literal.IsOutcome lexeme.reading := by
  cases lexeme with
  | word first rest => exact Literal.isOutcome_word _
  | symbol mark =>
    intro direction hkind
    cases hkind
  | quoted quote body => exact Literal.isOutcome_quoted quote _
  | unclosed quote body => cases quote <;> rfl

theorem severity_of_reading {lexeme : Lexeme} {fault : Fault} (h : lexeme.reading = .error fault) :
    fault.severity = .error := by
  have houtcome := lexeme.isOutcome_reading
  rwa [h] at houtcome

theorem isIndentation_of_reading {lexeme : Lexeme} {kind : TokenKind}
    (h : lexeme.reading = .ok kind) (span : Span) (leading trailing : Nat) :
    Token.isIndentation ⟨kind, span, leading, trailing⟩ = false := by
  have houtcome := lexeme.isOutcome_reading
  rw [h] at houtcome
  cases kind with
  | indentation direction => exact absurd rfl (houtcome direction)
  | _ => rfl

end Lexeme

namespace Piece

variable {lexeme : Lexeme} {kind : TokenKind} {fault : Fault}

theorem kind?_of_ok (h : lexeme.reading = .ok kind) : (Piece.lexeme lexeme).kind? = some kind := by
  rw [kind?, h]
  rfl

theorem kind?_of_error (h : lexeme.reading = .error fault) :
    (Piece.lexeme lexeme).kind? = none := by
  rw [kind?, h]
  rfl

theorem fault?_of_ok (h : lexeme.reading = .ok kind) : (Piece.lexeme lexeme).fault? = none := by
  rw [fault?, h]

theorem fault?_of_error (h : lexeme.reading = .error fault) :
    (Piece.lexeme lexeme).fault? = some fault := by
  rw [fault?, h]

end Piece

end Offside
