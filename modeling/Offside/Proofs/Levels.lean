import Mathlib.Algebra.Ring.Int.Defs
import Offside.Proofs.Spans

/-!
# Changes of indentation add up to levels

The level of a line is found again from the starts of the lines alone. In front of every literal,
the changes of indentation so far add up to the level of its line, they never go below the first
level, and at the end of the text all levels are closed.
-/

namespace Offside

open Indentation (Gauge Reading)

/-! ### Levels from the starts of lines -/

/-- The level of a line, and the width of one level, once it is known. -/
structure Depth where
  level : Nat := 0
  unit : Option Nat := none
deriving DecidableEq, Repr

def Depth.enter (depth : Depth) (width : Nat) : Depth :=
  if width = 0 then { depth with level := 0 }
  else if width % 2 = 1 then depth
  else if depth.level = 0 then ⟨1, some width⟩
  else
    match depth.unit with
    | some unit => if width % unit = 0 then { depth with level := width / unit } else depth
    | none => depth

def Piece.isLineFeed (piece : Piece) : Bool := piece = .trivia (.blank '\n')

def linesFrom (position : Nat) : List Piece → List (Nat × List Char)
  | [] => []
  | piece :: rest =>
    let stop := position + piece.length
    if piece.isLineFeed then (stop, rest.flatMap Piece.chars) :: linesFrom stop rest
    else linesFrom stop rest

/-- The depth at `position`, from the lines up to there that are not blank. -/
def depthAt (position : Nat) (depth : Depth) (lines : List (Nat × List Char)) : Depth :=
  (lines.filter fun (start, text) => start ≤ position ∧ Text.isBlankLine text = false).foldl
    (fun depth (_, text) => depth.enter (Indentation.width (Text.leadingBlanks text))) depth

/-- The level of the line in which a text is at `position`. -/
def levelAt (text : List Char) (position : Nat) : Nat :=
  (depthAt position {} (linesFrom 0 (pieces text))).level

/-! ### The gauge keeps the depth -/

/-- The gauge shows the depth. Its unit counts only where some level is open. -/
structure Depth.IsShown (depth : Depth) (gauge : Gauge) : Prop where
  level : depth.level = gauge.level
  unit : depth.level ≠ 0 → depth.unit = some gauge.unit

theorem Depth.IsShown.enter {depth : Depth} {gauge : Gauge} (h : depth.IsShown gauge)
    (width run : Nat) : (depth.enter width).IsShown (gauge.enter width run).2 := by
  unfold Depth.enter Gauge.enter
  by_cases hzero : width = 0
  · rw [if_pos hzero, if_pos hzero]
    exact ⟨rfl, fun hne => absurd rfl hne⟩
  · rw [if_neg hzero, if_neg hzero]
    by_cases hodd : width % 2 = 1
    · have hne : width % 2 ≠ 0 := by
        omega
      rw [if_pos hodd, if_pos hne]
      exact h
    · have heven : ¬width % 2 ≠ 0 := by
        omega
      rw [if_neg hodd, if_neg heven, ← h.level]
      by_cases hlevel : depth.level = 0
      · rw [if_pos hlevel, if_pos hlevel]
        exact ⟨rfl, fun _ => rfl⟩
      · rw [if_neg hlevel, if_neg hlevel, h.unit hlevel]
        dsimp only
        by_cases hmultiple : width % gauge.unit = 0
        · rw [if_pos hmultiple, if_neg (not_not.2 hmultiple)]
          exact ⟨rfl, fun _ => rfl⟩
        · rw [if_neg hmultiple, if_pos hmultiple]
          exact h

/-! ### The lines of a gap -/

section Lines

variable {position : Nat} {depth : Depth} {start : Nat} {text : List Char}
  {lines : List (Nat × List Char)}

theorem depthAt_cons_of_blank (h : Text.isBlankLine text = true) :
    depthAt position depth ((start, text) :: lines) = depthAt position depth lines := by
  simp [depthAt, h]

theorem depthAt_cons_of_le (hstart : start ≤ position) (h : Text.isBlankLine text = false) :
    depthAt position depth ((start, text) :: lines) =
      depthAt position (depth.enter (Indentation.width (Text.leadingBlanks text))) lines := by
  simp [depthAt, h, hstart]

theorem depthAt_of_forall_lt (h : ∀ line ∈ lines, position < line.1) :
    depthAt position depth lines = depth := by
  have hnone : lines.filter (fun (start, text) =>
      start ≤ position ∧ Text.isBlankLine text = false) = [] := by
    rw [List.filter_eq_nil_iff]
    intro line hmem
    have hlt := h line hmem
    simp only [decide_eq_true_eq]
    omega
  rw [depthAt, hnone]
  rfl

theorem lt_of_mem_linesFrom {pieces : List Piece} :
    ∀ line ∈ linesFrom position pieces, position < line.1 := by
  induction pieces generalizing position with
  | nil =>
    intro line hmem
    cases hmem
  | cons piece rest ih =>
    have hpos := piece.length_pos
    intro line hmem
    have hlater : line ∈ linesFrom (position + piece.length) rest → position < line.1 := by
      intro hrest
      have hlt := ih line hrest
      omega
    rw [linesFrom] at hmem
    split_ifs at hmem
    · rcases List.mem_cons.1 hmem with rfl | hrest
      · exact Nat.lt_add_of_pos_right hpos
      · exact hlater hrest
    · exact hlater hmem

end Lines

section Gap

variable {others : List Piece} {after : List Char} {c : Char} {start position : Nat}

theorem depthAt_line {rest : List Trivia} {lines : List (Nat × List Char)} (depth : Depth)
    (hrest : ∀ part ∈ rest, part.IsValid)
    (hindent : ∀ b ∈ Text.lastLine (Trivia.text rest), Text.isSpace b = true)
    (hspace : Text.isSpace c = false) (hsign : c ≠ '#') (hstart : start ≤ position) :
    depthAt position depth ((start, Trivia.text rest ++ c :: after) :: lines) =
      depthAt position
        (if '\n' ∈ Trivia.text rest then depth
        else depth.enter (Indentation.width (Trivia.text rest))) lines := by
  by_cases hfeed : '\n' ∈ Trivia.text rest
  · rw [if_pos hfeed, depthAt_cons_of_blank (Text.isBlankLine_append hrest (.inl hfeed))]
  · rw [Text.lastLine_eq_self hfeed] at hindent
    rw [if_neg hfeed, depthAt_cons_of_le hstart
      (Text.isBlankLine_append_of_isSpace hindent hfeed hspace hsign),
      Text.leadingBlanks_append hindent hfeed hspace]

/-- Of the lines in a gap, the one of the literal behind it is all that counts. -/
theorem depthAt_gap {gap : List Trivia} (depth : Depth) (hgap : ∀ part ∈ gap, part.IsValid)
    (hindent : ∀ b ∈ Text.lastLine (Trivia.text gap), Text.isSpace b = true)
    (hothers : others.flatMap Piece.chars = c :: after) (hspace : Text.isSpace c = false)
    (hsign : c ≠ '#') (hposition : start + (Trivia.text gap).length ≤ position) :
    depthAt position depth (linesFrom start (gap.map .trivia ++ others)) =
      depthAt position
        (if '\n' ∈ Trivia.text gap then
          depth.enter (Indentation.width (Text.lastLine (Trivia.text gap)))
        else depth)
        (linesFrom (start + (Trivia.text gap).length) others) := by
  induction gap generalizing start depth with
  | nil => rfl
  | cons part rest ih =>
    obtain ⟨hpart, hrest⟩ := List.forall_mem_cons.1 hgap
    have htext := Trivia.text_cons part rest
    have hlength := Trivia.length_text_cons part rest
    have hrestIndent : ∀ b ∈ Text.lastLine (Trivia.text rest), Text.isSpace b = true := by
      intro b hmem
      apply hindent b
      rw [htext]
      exact (Text.lastLine_suffix_append part.chars (Trivia.text rest)).subset hmem
    have hstop : start + (Piece.trivia part).length + (Trivia.text rest).length ≤ position := by
      omega
    have hstart : start + (Piece.trivia part).length ≤ position := by
      omega
    have hline : (rest.map Piece.trivia ++ others).flatMap Piece.chars =
        Trivia.text rest ++ c :: after := by
      rw [List.flatMap_append, Layout.flatMap_chars_trivia, hothers]
    rw [hlength, ← Nat.add_assoc, List.map_cons, List.cons_append, linesFrom, hline]
    by_cases hfeed : part = .blank '\n'
    · have hisFeed : (Piece.trivia part).isLineFeed = true := by
        rw [hfeed]
        rfl
      have hmem : '\n' ∈ Trivia.text (part :: rest) := by
        rw [hfeed]
        exact List.mem_cons_self
      have hlast : Text.lastLine (Trivia.text (part :: rest)) =
          Text.lastLine (Trivia.text rest) := by
        rw [hfeed]
        exact if_pos List.mem_cons_self
      -- If the line that starts here is blank, the rest of the gap decides, and if not, nothing in
      -- the rest changes the depth any more.
      rw [if_pos hisFeed, if_pos hmem, depthAt_line depth hrest hrestIndent hspace hsign hstart,
        ih _ hrest hrestIndent hstop, hlast]
      by_cases hlater : '\n' ∈ Trivia.text rest
      · rw [if_pos hlater, if_pos hlater]
      · rw [if_neg hlater, if_neg hlater, Text.lastLine_eq_self hlater]
    · have hnotFeed : ¬(Piece.trivia part).isLineFeed = true := by
        simpa [Piece.isLineFeed] using hfeed
      have hiff : '\n' ∈ Trivia.text (part :: rest) ↔ '\n' ∈ Trivia.text rest := by
        rw [htext, List.mem_append, or_iff_right (Trivia.not_mem_chars hpart hfeed)]
      rw [if_neg hnotFeed, ih depth hrest hrestIndent hstop]
      by_cases hlater : '\n' ∈ Trivia.text rest
      · rw [if_pos hlater, if_pos (hiff.2 hlater), htext, Text.lastLine_append hlater]
      · rw [if_neg hlater, if_neg (mt hiff.1 hlater)]

end Gap

/-! ### Changes of level -/

theorem Token.levelChange_of_literal {token : Token} (h : token.isIndentation = false) :
    token.levelChange = 0 := by
  unfold isIndentation at h
  unfold levelChange
  split at h
  · cases h
  · rfl

/-- From one level to another by way of the tokens. No level on the way is negative, and every
literal stands at the level that `reference` has for its place. -/
inductive LevelPath (reference : Nat → Nat) : Nat → List Token → Nat → Prop where
  | nil (level : Nat) : LevelPath reference level [] level
  | cons {level next last : Nat} {token : Token} {rest : List Token}
      (change : (next : Int) = level + token.levelChange)
      (literal : token.isIndentation = false → level = reference token.content.start)
      (tail : LevelPath reference next rest last) : LevelPath reference level (token :: rest) last

namespace LevelPath

variable {reference : Nat → Nat} {level middle last : Nat} {tokens others : List Token}

theorem append (hfirst : LevelPath reference level tokens middle)
    (hsecond : LevelPath reference middle others last) :
    LevelPath reference level (tokens ++ others) last := by
  induction hfirst with
  | nil level => exact hsecond
  | cons change literal tail ih => exact .cons change literal (ih hsecond)

theorem sum_eq (h : LevelPath reference level tokens last) :
    (level : Int) + (tokens.map (·.levelChange)).sum = last := by
  induction h with
  | nil level => simp
  | cons change literal tail ih =>
    rw [List.map_cons, List.sum_cons, ← Int.add_assoc, ← change, ih]

theorem exists_take (h : LevelPath reference level tokens last) (count : Nat) :
    ∃ reached : Nat, (level : Int) + ((tokens.take count).map (·.levelChange)).sum = reached := by
  induction h generalizing count with
  | nil level => exact ⟨level, by simp⟩
  | @cons level next last token rest change literal tail ih =>
    cases count with
    | zero => exact ⟨level, by simp⟩
    | succ count =>
      obtain ⟨reached, hreached⟩ := ih count
      refine ⟨reached, ?_⟩
      rw [List.take_succ_cons, List.map_cons, List.sum_cons, ← Int.add_assoc, ← change, hreached]

theorem level_eq {before after : List Token} {token : Token}
    (h : LevelPath reference level (before ++ token :: after) last)
    (hliteral : token.isIndentation = false) :
    (level : Int) + (before.map (·.levelChange)).sum = reference token.content.start := by
  induction before generalizing level with
  | nil =>
    cases h with
    | cons change literal tail => simp [literal hliteral]
  | cons first before ih =>
    cases h with
    | cons change literal tail =>
      rw [List.map_cons, List.sum_cons, ← Int.add_assoc, ← change, ih tail]

theorem congr {other : Nat → Nat} (h : LevelPath reference level tokens last)
    (hagree : ∀ token ∈ tokens, token.isIndentation = false →
      reference token.content.start = other token.content.start) :
    LevelPath other level tokens last := by
  induction h with
  | nil level => exact .nil level
  | cons change literal tail ih =>
    obtain ⟨hhere, hrest⟩ := List.forall_mem_cons.1 hagree
    exact .cons change (fun hliteral => (literal hliteral).trans (hhere hliteral)) (ih hrest)

theorem replicate_indent (reference : Nat → Nat) (position level count : Nat) :
    LevelPath reference level
      (List.replicate count ⟨.indentation .indent, ⟨position, position⟩, 0, 0⟩)
      (level + count) := by
  induction count generalizing level with
  | zero => exact .nil level
  | succ count ih =>
    have hrest := ih (level + 1)
    rw [Nat.add_right_comm] at hrest
    exact .cons (Int.natCast_succ level) Bool.noConfusion hrest

theorem replicate_dedent (reference : Nat → Nat) (position level count : Nat) :
    LevelPath reference (level + count)
      (List.replicate count ⟨.indentation .dedent, ⟨position, position⟩, 0, 0⟩) level := by
  induction count with
  | zero => exact .nil level
  | succ count ih =>
    have hchange : ((level + count : Nat) : Int) = ((level + (count + 1) : Nat) : Int) + (-1) := by
      omega
    exact .cons hchange Bool.noConfusion ih

theorem levelTokens (reference : Nat → Nat) (previous current position : Nat) :
    LevelPath reference previous (levelTokens previous current position) current := by
  unfold Offside.levelTokens
  by_cases h : previous < current
  · have hindent := replicate_indent reference position previous (current - previous)
    rw [Nat.add_sub_cancel' (Nat.le_of_lt h)] at hindent
    simpa [h, Nat.sub_eq_zero_of_le (Nat.le_of_lt h)] using hindent
  · have hle : current ≤ previous := Nat.le_of_not_lt h
    have hdedent := replicate_dedent reference position current (previous - current)
    rw [Nat.add_sub_cancel' hle] at hdedent
    simpa [h, Nat.sub_eq_zero_of_le hle] using hdedent

theorem enter (reference : Nat → Nat) (gauge : Gauge) (width run position : Nat) :
    LevelPath reference gauge.level ((gauge.enter width run).1.tokens position)
      (gauge.enter width run).2.level := by
  unfold Gauge.enter
  by_cases hzero : width = 0
  · rw [if_pos hzero]
    exact levelTokens reference gauge.level 0 position
  · rw [if_neg hzero]
    by_cases hodd : width % 2 ≠ 0
    · rw [if_pos hodd]
      exact .nil gauge.level
    · rw [if_neg hodd]
      by_cases hlevel : gauge.level = 0
      · rw [if_pos hlevel, hlevel]
        exact levelTokens reference 0 1 position
      · rw [if_neg hlevel]
        by_cases hmultiple : width % gauge.unit ≠ 0
        · rw [if_pos hmultiple]
          exact .nil gauge.level
        · rw [if_neg hmultiple]
          exact levelTokens reference gauge.level (width / gauge.unit) position

theorem changes (reference : Nat → Nat) (cursor : Cursor) (item : Item) :
    LevelPath reference cursor.gauge.level (cursor.changes item)
      (cursor.next item).gauge.level := by
  unfold Cursor.changes Cursor.next Item.measure
  split_ifs
  · exact enter reference cursor.gauge _ _ _
  · exact .nil cursor.gauge.level

end LevelPath

/-! ### Levels in front of literals -/

theorem linesFrom_lexeme (position : Nat) (lexeme : Lexeme) (rest : List Piece) :
    linesFrom position (.lexeme lexeme :: rest) = linesFrom (position + lexeme.length) rest := rfl

def Depth.next (depth : Depth) (gap : List Char) : Depth :=
  if '\n' ∈ gap then depth.enter (Indentation.width (Text.lastLine gap)) else depth

theorem Depth.IsShown.next {depth : Depth} {cursor : Cursor} (h : depth.IsShown cursor.gauge)
    (item : Item) : (depth.next item.text).IsShown (cursor.next item).gauge := by
  unfold Depth.next Cursor.next Item.measure
  split_ifs
  · exact h.enter _ _
  · exact h

def levelFrom (tail : List Trivia) (items : List Item) (cursor : Cursor) (depth : Depth)
    (position : Nat) : Nat :=
  (depthAt position depth (linesFrom cursor.position (Layout.pieces ⟨items, tail⟩))).level

section Item

variable {item : Item} {items : List Item} {tail : List Trivia} {cursor : Cursor}

theorem levelFrom_cons {position : Nat} (depth : Depth) (hitem : item.IsValid)
    (hposition : cursor.start item ≤ position) :
    levelFrom tail (item :: items) cursor depth position =
      levelFrom tail items (cursor.next item) (depth.next item.text) position := by
  obtain ⟨c, rest, hchars, hspace, hsign⟩ := hitem.lexeme
  have hpieces : Layout.pieces ⟨item :: items, tail⟩ =
      item.gap.map .trivia ++ .lexeme item.lexeme :: Layout.pieces ⟨items, tail⟩ := by
    rw [Layout.pieces_mk_cons, Layout.itemPieces, List.append_assoc]
    rfl
  have hothers : (Piece.lexeme item.lexeme :: Layout.pieces ⟨items, tail⟩).flatMap Piece.chars =
      c :: (rest ++ (Layout.pieces ⟨items, tail⟩).flatMap Piece.chars) := by
    have hlexeme : (Piece.lexeme item.lexeme).chars = c :: rest := hchars
    rw [List.flatMap_cons, hlexeme, List.cons_append]
  have hgap := depthAt_gap depth hitem.gap hitem.indent hothers hspace hsign hposition
  rw [levelFrom, hpieces, hgap, linesFrom_lexeme]
  rfl

theorem levelFrom_start (depth : Depth) (hitem : item.IsValid) :
    levelFrom tail (item :: items) cursor depth (cursor.start item) =
      (depth.next item.text).level := by
  have hstart := cursor.start_lt_position_next item
  have hlines : ∀ line ∈ linesFrom (cursor.next item).position (Layout.pieces ⟨items, tail⟩),
      cursor.start item < line.1 := by
    intro line hline
    have hlt := lt_of_mem_linesFrom line hline
    omega
  rw [levelFrom_cons depth hitem (Nat.le_refl _), levelFrom, depthAt_of_forall_lt hlines]

theorem position_le_content {token : Token} (h : token ∈ tokensFrom tail cursor items) :
    cursor.position ≤ token.content.start := by
  have hwithin := isWithin_tokensFrom tail cursor items token h
  have hbound := cursor.position_le_bound items tail
  calc
    cursor.position ≤ cursor.bound items tail := hbound
    _ ≤ token.span.start := hwithin.start_le
    _ ≤ token.content.start := Nat.le_add_right _ _

theorem LevelPath.token {reference : Nat → Nat} {level : Nat}
    (h : level = reference (cursor.start item)) :
    LevelPath reference level
      ((cursor.token? item).map (·.extend (trailing tail items))).toList level := by
  cases htoken : (cursor.token? item).map (·.extend (trailing tail items)) with
  | none => exact .nil level
  | some token =>
    obtain ⟨kind, hreading, rfl⟩ := Cursor.eq_of_mem_token? htoken
    have hliteral := Lexeme.isIndentation_of_reading hreading
    refine .cons ?_ ?_ (.nil level)
    · rw [Token.levelChange_of_literal (hliteral _ _ _), Int.add_zero]
    · intro _
      rw [h, Token.content, Cursor.bound_cons, cursor.start_eq item]

end Item

/-- The tokens behind a cursor keep to the levels of the lines behind it. -/
theorem levelPath_tokensFrom {tail : List Trivia} {items : List Item}
    (hitems : ∀ item ∈ items, item.IsValid) {cursor : Cursor} {depth : Depth}
    (hdepth : depth.IsShown cursor.gauge) :
    LevelPath (levelFrom tail items cursor depth) cursor.gauge.level
      (tokensFrom tail cursor items) 0 := by
  induction items generalizing cursor depth with
  | nil => exact LevelPath.levelTokens _ cursor.gauge.level 0 _
  | cons item items ih =>
    obtain ⟨hitem, hothers⟩ := List.forall_mem_cons.1 hitems
    have hnext := hdepth.next item
    have hlevel : (cursor.next item).gauge.level =
        levelFrom tail (item :: items) cursor depth (cursor.start item) := by
      rw [levelFrom_start depth hitem, hnext.level]
    have hrest : LevelPath (levelFrom tail (item :: items) cursor depth)
        (cursor.next item).gauge.level (tokensFrom tail (cursor.next item) items) 0 := by
      -- Behind the item, the lines in its gap count only by the depth that they lead to.
      apply (ih hothers hnext).congr
      intro token hmem _
      have hstart := cursor.start_lt_position_next item
      have hcontent := position_le_content hmem
      exact (levelFrom_cons depth hitem (by omega)).symm
    rw [tokensFrom]
    exact ((LevelPath.changes _ cursor item).append (LevelPath.token hlevel)).append hrest

/-- The changes of indentation are those of the lines. In front of every literal they add up to the
level of its line, no part of them takes away more than is there, and together they cancel out. -/
theorem levels_tokenize (source : String) (options : Options) :
    (∀ before token after, (tokenize source options).tokens = before ++ token :: after →
      token.isIndentation = false →
        (before.map (·.levelChange)).sum = (levelAt source.toList token.content.start : Int)) ∧
    (∀ count, 0 ≤ (((tokenize source options).tokens.take count).map (·.levelChange)).sum) ∧
    ((tokenize source options).tokens.map (·.levelChange)).sum = 0 := by
  have hpath : LevelPath (levelAt source.toList) 0 (tokenize source options).tokens 0 := by
    have hshown : Depth.IsShown {} ({} : Cursor).gauge := ⟨rfl, fun hne => absurd rfl hne⟩
    unfold levelAt
    rw [tokens_tokenize, ← Layout.pieces_ofText]
    exact levelPath_tokensFrom (Layout.isValid_ofText source.toList).items hshown
  refine ⟨?literals, ?parts, ?total⟩
  case literals =>
    intro before token after htokens hliteral
    rw [htokens] at hpath
    have hlevel := hpath.level_eq hliteral
    rw [Int.natCast_zero, Int.zero_add] at hlevel
    exact hlevel
  case parts =>
    intro count
    obtain ⟨reached, hreached⟩ := hpath.exists_take count
    rw [Int.natCast_zero, Int.zero_add] at hreached
    rw [hreached]
    exact Int.natCast_nonneg reached
  case total =>
    have hsum := hpath.sum_eq
    rw [Int.natCast_zero, Int.zero_add] at hsum
    exact hsum

/-- The second line opens the first level. -/
theorem levels_second_line :
    (((tokenize "(\n  )").tokens.take 2).map (·.levelChange)).sum =
        (levelAt "(\n  )".toList 4 : Int) ∧
      levelAt "(\n  )".toList 4 = 1 :=
  ⟨(levels_tokenize "(\n  )" {}).1 _ ⟨.symbol .closeParen, ⟨2, 5⟩, 2, 0⟩
    [⟨.indentation .dedent, ⟨5, 5⟩, 0, 0⟩] (by decide +kernel) rfl, by decide +kernel⟩

end Offside
