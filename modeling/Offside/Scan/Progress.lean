import Offside.Scan.Step

/-!
# Every step makes progress

A step that reads nothing leaves its mode, and the next one reads. So a pass over `n` characters
takes at most `2 * n` steps, which `stepsLeft` counts down.
-/

namespace Offside.Scan

/-- The steps that a mode may take before the next character is read. -/
def Mode.pauses : Mode → Nat
  | .comment => 1
  | .lineStart => 1
  | _ => 0

/-- A bound on the number of steps up to the end of the text. -/
def stepsLeft (scan : Scan) : Nat := 2 * scan.rest.length + scan.mode.pauses

/-! ### What is left to be read -/

@[simp] theorem rest_enter (scan : Scan) (mode : Mode) : (scan.enter mode).rest = scan.rest := rfl

@[simp] theorem rest_clearOwner (scan : Scan) : scan.clearOwner.rest = scan.rest := rfl

@[simp] theorem rest_advance (scan : Scan) (count : Nat) :
    (scan.advance count).rest = scan.rest.drop count := rfl

@[simp] theorem rest_skip (scan : Scan) (count : Nat) :
    (scan.skip count).rest = scan.rest.drop count := rfl

@[simp] theorem rest_addToken (scan : Scan) (kind : TokenKind) (start : Nat) :
    (scan.addToken kind start).rest = scan.rest := rfl

@[simp] theorem rest_settle (scan : Scan) (literal : Except Fault TokenKind) (start : Nat) :
    (scan.settle literal start).rest = scan.rest := by
  cases literal <;> rfl

@[simp] theorem rest_endWord (scan : Scan) : scan.endWord.rest = scan.rest := by
  unfold endWord
  split <;> simp

/-! ### Modes -/

@[simp] theorem mode_enter (scan : Scan) (mode : Mode) : (scan.enter mode).mode = mode := rfl

@[simp] theorem mode_settle (scan : Scan) (literal : Except Fault TokenKind) (start : Nat) :
    (scan.settle literal start).mode = .between := rfl

@[simp] theorem mode_endWord (scan : Scan) : scan.endWord.mode = .between := by
  unfold endWord
  split <;> simp

/-! ### Steps -/

theorem pauses_le_one (mode : Mode) : mode.pauses ≤ 1 := by
  cases mode <;> simp [Mode.pauses]

theorem stepsLeft_lt_of_rest {scan next : Scan}
    (h : next.rest.length < scan.rest.length) : next.stepsLeft < scan.stepsLeft := by
  have := pauses_le_one next.mode
  unfold stepsLeft
  omega

theorem rest_stepCode {scan : Scan} (c : Char) (h : scan.rest ≠ []) :
    (scan.stepCode c).rest.length < scan.rest.length := by
  have hlen := List.length_pos_iff.2 h
  unfold stepCode
  split
  · simp only [readLineBreak, rest_enter, rest_clearOwner, rest_skip, rest_endWord,
      List.length_drop]
    omega
  · split
    · simp only [rest_skip, rest_endWord, List.length_drop]
      omega
    · split
      · simp only [rest_skip, rest_enter, rest_endWord, List.length_drop]
        omega
      · split
        · simp only [openQuote, rest_advance, rest_enter, rest_clearOwner, rest_endWord,
            List.length_drop]
          omega
        · split
          · simp only [openQuote, rest_advance, rest_enter, rest_clearOwner, rest_endWord,
              List.length_drop]
            omega
          · split
            next symbol _ =>
              have := symbol.width_pos
              simp only [readSymbol, rest_addToken, rest_advance, rest_clearOwner, rest_endWord,
                List.length_drop]
              omega
            · unfold readWord
              split <;> simp only [rest_advance, rest_enter, rest_clearOwner, List.length_drop] <;>
                omega

theorem rest_stepQuoted {scan : Scan} (quote : Text.Quote) (start : Nat) (body : String) (c : Char)
    (h : scan.rest ≠ []) :
    (scan.stepQuoted quote start body c).rest.length < scan.rest.length := by
  have hlen := List.length_pos_iff.2 h
  unfold stepQuoted
  split
  · simp only [rest_advance, rest_enter, List.length_drop, List.length_take]
    omega
  · split
    · simp only [rest_settle, rest_advance, List.length_drop]
      omega
    · simp only [rest_advance, rest_enter, List.length_drop]
      omega

theorem stepsLeft_stepComment {scan : Scan} (h : scan.rest ≠ []) (hmode : scan.mode = .comment) :
    scan.stepComment.stepsLeft < scan.stepsLeft := by
  have hlen := List.length_pos_iff.2 h
  unfold stepComment
  split
  · simp [stepsLeft, hmode, Mode.pauses]
  · apply stepsLeft_lt_of_rest
    simp only [rest_skip, List.length_drop]
    omega

theorem rest_measureLine (scan : Scan) (options : Options) :
    (scan.measureLine options).rest = scan.rest := by
  unfold measureLine
  dsimp only
  split
  · rfl
  · split <;> rfl
  · rfl

theorem mode_measureLine (scan : Scan) (options : Options) :
    (scan.measureLine options).mode = .between := by
  unfold measureLine
  dsimp only
  split
  · rfl
  · split <;> rfl
  · rfl

theorem stepsLeft_measureLine {scan : Scan} (options : Options) (hmode : scan.mode = .lineStart) :
    (scan.measureLine options).stepsLeft < scan.stepsLeft := by
  simp [stepsLeft, rest_measureLine, mode_measureLine, hmode, Mode.pauses]

/-- Up to the end of the text, every step leaves fewer steps to be taken. -/
theorem stepsLeft_step {scan : Scan} (options : Options) (h : scan.rest ≠ []) :
    (scan.step options).stepsLeft < scan.stepsLeft := by
  unfold step
  split
  next heq => exact absurd heq h
  next c _ _ =>
    split
    next hmode => exact stepsLeft_measureLine options hmode
    next hmode => exact stepsLeft_stepComment h hmode
    next quote start body _ => exact stepsLeft_lt_of_rest (rest_stepQuoted quote start body c h)
    · exact stepsLeft_lt_of_rest (rest_stepCode c h)
    · exact stepsLeft_lt_of_rest (rest_stepCode c h)

end Offside.Scan
