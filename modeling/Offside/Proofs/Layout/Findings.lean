import Offside.Options
import Offside.Proofs.Layout
import Offside.Token

/-!
# What a layout holds

The tokens and the diagnostics of a text, from its layout alone. Three things go from one literal to
the next: the place, whether a token stands right before it, and the levels of indentation.
-/

namespace Offside

open Indentation (Direction Gauge Reading)

namespace Token

theorem extend_extend (token : Token) (first second : Nat) :
    (token.extend first).extend second = token.extend (first + second) := by
  simp [extend, Nat.add_assoc]

theorem isIndentation_extend (token : Token) (count : Nat) :
    (token.extend count).isIndentation = token.isIndentation := rfl

end Token

def levelTokens (previous current position : Nat) : List Token :=
  let direction : Direction := if previous < current then .indent else .dedent
  List.replicate ((current - previous) + (previous - current))
    ⟨.indentation direction, ⟨position, position⟩, 0, 0⟩

theorem isIndentation_of_mem_levelTokens {previous current position : Nat} {token : Token}
    (h : token ∈ levelTokens previous current position) : token.isIndentation = true := by
  rw [List.eq_of_mem_replicate h]
  rfl

namespace Indentation.Reading

def tokens (position : Nat) : Reading → List Token
  | level previous current => levelTokens previous current position
  | blank => []
  | ambiguous _ _ _ => []

def diagnostics (options : Options) (position : Nat) : Reading → List Diagnostic
  | ambiguous width unit run =>
    if options.warnAmbiguous then
      [⟨.ambiguousIndentation width unit, ⟨position, position + run⟩⟩]
    else []
  | blank => []
  | level _ _ => []

end Indentation.Reading

/-- A place behind a literal, or at the start of the text. -/
structure Cursor where
  position : Nat := 0
  owned : Bool := false
  gauge : Gauge := {}
deriving DecidableEq, Repr

namespace Cursor

variable (cursor : Cursor) (item : Item)

def start : Nat := cursor.position + item.text.length

def taken (gap : List Char) : Nat := if cursor.owned then Text.lineLength gap else 0

def leading : Nat := item.text.length - cursor.taken item.text

def next : Cursor :=
  { position := cursor.start item + item.lexeme.length
    owned := item.lexeme.reading.isOk
    gauge := (item.measure cursor.gauge).2 }

/-- The changes of indentation before the next literal. They lie before its leading trivia. -/
def changes : List Token :=
  (item.measure cursor.gauge).1.tokens (cursor.position + cursor.taken item.text)

def warnings (options : Options) : List Diagnostic :=
  (item.measure cursor.gauge).1.diagnostics options
    (cursor.start item - (Text.lastLine item.text).length)

def token? : Option Token :=
  item.lexeme.reading.toOption.map fun kind =>
    ⟨kind, ⟨cursor.position + cursor.taken item.text, (cursor.next item).position⟩,
      cursor.leading item, 0⟩

def fault? : Option Diagnostic :=
  match item.lexeme.reading with
  | .ok _ => none
  | .error fault => some ⟨fault, ⟨cursor.start item, (cursor.next item).position⟩⟩

end Cursor

/-- The trivia behind a token that belongs to it: the rest of the line, or all that is left. -/
def trailing (tail : List Trivia) : List Item → Nat
  | [] => (Trivia.text tail).length
  | item :: _ => Text.lineLength item.text

def tokensFrom (tail : List Trivia) (cursor : Cursor) : List Item → List Token
  | [] => levelTokens cursor.gauge.level 0 (cursor.position + (Trivia.text tail).length)
  | item :: items =>
    cursor.changes item ++ ((cursor.token? item).map (·.extend (trailing tail items))).toList
      ++ tokensFrom tail (cursor.next item) items

def diagnosticsFrom (options : Options) (cursor : Cursor) : List Item → List Diagnostic
  | [] => []
  | item :: items =>
    cursor.warnings item options ++ (cursor.fault? item).toList
      ++ diagnosticsFrom options (cursor.next item) items

namespace Layout

def tokens (layout : Layout) : List Token := tokensFrom layout.tail {} layout.items

def diagnostics (layout : Layout) (options : Options) : List Diagnostic :=
  diagnosticsFrom options {} layout.items

end Layout

namespace Cursor

variable (cursor : Cursor) (item : Item)

section Outcome

variable {item}

theorem token?_of_ok {kind : TokenKind} (h : item.lexeme.reading = .ok kind) :
    cursor.token? item = some ⟨kind, ⟨cursor.position + cursor.taken item.text,
      (cursor.next item).position⟩, cursor.leading item, 0⟩ := by
  rw [token?, h]
  rfl

theorem token?_of_error {fault : Fault} (h : item.lexeme.reading = .error fault) :
    cursor.token? item = none := by
  rw [token?, h]
  rfl

theorem fault?_of_ok {kind : TokenKind} (h : item.lexeme.reading = .ok kind) :
    cursor.fault? item = none := by
  rw [fault?, h]

theorem fault?_of_error {fault : Fault} (h : item.lexeme.reading = .error fault) :
    cursor.fault? item = some ⟨fault, ⟨cursor.start item, (cursor.next item).position⟩⟩ := by
  rw [fault?, h]

theorem owned_next_of_ok {kind : TokenKind} (h : item.lexeme.reading = .ok kind) :
    (cursor.next item).owned = true := by
  rw [next, h]
  rfl

theorem owned_next_of_error {fault : Fault} (h : item.lexeme.reading = .error fault) :
    (cursor.next item).owned = false := by
  rw [next, h]
  rfl

end Outcome

theorem isIndentation_of_mem_changes {token : Token} (h : token ∈ cursor.changes item) :
    token.isIndentation = true := by
  unfold changes Reading.tokens at h
  split at h
  · exact isIndentation_of_mem_levelTokens h
  · cases h
  · cases h

theorem taken_le_lineLength (gap : List Char) : cursor.taken gap ≤ Text.lineLength gap := by
  unfold taken
  split <;> omega

theorem taken_le (gap : List Char) : cursor.taken gap ≤ gap.length :=
  (cursor.taken_le_lineLength gap).trans (Text.lineLength_le gap)

theorem start_eq :
    cursor.position + cursor.taken item.text + cursor.leading item = cursor.start item := by
  have hle := cursor.taken_le item.text
  unfold leading start
  omega

theorem start_lt_position_next : cursor.start item < (cursor.next item).position := by
  have hpos := (Piece.lexeme item.lexeme).length_pos
  have hlength : (Piece.lexeme item.lexeme).length = item.lexeme.length := rfl
  simp only [next]
  omega

end Cursor

end Offside
