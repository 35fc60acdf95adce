import Offside.Proofs.Piece
import Offside.Tokenize

/-!
# A pass reads piece by piece

A pass goes from character to character and keeps in its mode what it is in the middle of. Behind a
whole piece it is always between two literals, and what it has done to its state by then depends on
the piece alone. So a pass over a text is the fold of one function over the pieces of the text.
-/

namespace Offside

namespace Staging

theorem addTrivia_zero (staging : Staging) : staging.addTrivia 0 = staging := by
  have hextend : (fun token : Token => token.extend 0) = id := by
    funext token
    rfl
  unfold addTrivia
  split
  · split
    · rw [hextend]
      have hmodify : ∀ index, staging.tokens.modify index id = staging.tokens := by
        intro index
        apply Array.toList_inj.1
        rw [Array.toList_modify, List.modify_id]
      rw [hmodify]
    · rfl
  · rfl

theorem addTrivia_addTrivia (staging : Staging) (first second : Nat) :
    (staging.addTrivia first).addTrivia second = staging.addTrivia (first + second) := by
  unfold addTrivia
  cases howner : staging.owner with
  | none => simp [Nat.add_assoc]
  | some index =>
    by_cases hindex : index < staging.tokens.size
    · simp only [if_pos hindex, Array.size_modify]
      have hmodify : (staging.tokens.modify index (·.extend first)).modify index (·.extend second) =
          staging.tokens.modify index (·.extend (first + second)) := by
        apply Array.toList_inj.1
        rw [Array.toList_modify, Array.toList_modify, Array.toList_modify, List.modify_modify_eq]
        congr 1
        funext token
        simp [Token.extend, Nat.add_assoc]
      rw [hmodify]
    · simp [hindex, Nat.add_assoc]

end Staging

namespace Scan

/-- Moves over blanks or a comment. A line feed takes the trivia behind it from the token before,
and the next line is measured. -/
def readTrivia (options : Options) (scan : Scan) : Trivia → Scan
  | .blank c =>
    if c = '\n' then (scan.skip 1).clearOwner.measureLine options else scan.skip 1
  | .comment text => scan.skip (text.length + 1)

def readLexeme (scan : Scan) (lexeme : Lexeme) : Scan :=
  (scan.clearOwner.advance lexeme.length).settle lexeme.reading scan.position

def readPiece (options : Options) (scan : Scan) : Piece → Scan
  | .trivia part => scan.readTrivia options part
  | .lexeme part => scan.readLexeme part

/-- The pass once nothing is left to be read and the last literal is settled. -/
def settled (options : Options) (scan : Scan) : Scan :=
  (scan.run options).settleLast.enter .between

/-! ### Moves -/

theorem skip_zero (scan : Scan) : scan.skip 0 = scan := by
  simp [skip, advance, Staging.addTrivia_zero]

theorem skip_skip (scan : Scan) (first second : Nat) :
    (scan.skip first).skip second = scan.skip (first + second) := by
  simp [skip, advance, Staging.addTrivia_addTrivia, Nat.add_assoc]

theorem advance_advance (scan : Scan) (first second : Nat) :
    (scan.advance first).advance second = scan.advance (first + second) := by
  simp [advance, Nat.add_assoc]

theorem settle_enter (scan : Scan) (mode : Mode) (literal : Except Fault TokenKind) (start : Nat) :
    (scan.enter mode).settle literal start = scan.settle literal start := by
  cases literal <;> rfl

theorem advance_enter (scan : Scan) (mode : Mode) (count : Nat) :
    (scan.enter mode).advance count = (scan.advance count).enter mode := rfl

theorem enter_of_mode {scan : Scan} {mode : Mode} (h : scan.mode = mode) :
    scan.enter mode = scan := by
  rw [← h]
  rfl

theorem endWord_of_between {scan : Scan} (h : scan.mode = .between) : scan.endWord = scan := by
  unfold endWord
  rw [h]
  exact enter_of_mode h

theorem endWord_endWord (scan : Scan) : scan.endWord.endWord = scan.endWord :=
  endWord_of_between (mode_endWord scan)

/-! ### Steps that leave the end of the pass as it is -/

section Settled

variable (options : Options)

theorem settled_step {scan : Scan} (h : scan.rest ≠ []) :
    (scan.step options).settled options = scan.settled options := by
  rw [settled, run_step options h, settled]

theorem settled_of_rest_eq_nil {scan : Scan} (h : scan.rest = []) :
    scan.settled options = scan.settleLast.enter .between := by
  rw [settled, run_of_rest_eq_nil options h]

theorem settled_enter_of_nil {scan : Scan} (mode : Mode) (h : scan.rest = []) :
    (scan.enter mode).settled options = (scan.enter mode).settleLast.enter .between :=
  settled_of_rest_eq_nil options h

theorem settled_enter_of_cons {scan : Scan} {c : Char} {rest : List Char} (mode : Mode)
    (h : scan.rest = c :: rest) :
    (scan.enter mode).settled options =
      (match mode with
      | .lineStart => scan.measureLine options
      | .comment => (scan.enter mode).stepComment
      | .quoted quote start body => (scan.enter mode).stepQuoted quote start body c
      | .between => (scan.enter mode).stepCode c
      | .word _ _ => (scan.enter mode).stepCode c).settled options := by
  have hne : (scan.enter mode).rest ≠ [] := by simp [h]
  rw [← settled_step options hne, step, rest_enter, h]
  cases mode <;> rfl

theorem settled_lineStart (scan : Scan) :
    (scan.enter .lineStart).settled options = (scan.measureLine options).settled options := by
  cases hrest : scan.rest with
  | nil =>
    have hmeasured : scan.measureLine options = scan.enter .between := by
      simp [measureLine, Indentation.Gauge.measure, hrest, Text.leadingBlanks, Text.atLineEnd,
        enter]
    rw [hmeasured, settled_enter_of_nil options _ hrest, settled_enter_of_nil options _ hrest]
    rfl
  | cons c rest => rw [settled_enter_of_cons options _ hrest]

theorem settled_comment (text : List Char) (scan : Scan) (h : scan.rest = text) :
    (scan.enter .comment).settled options =
      ((scan.skip (Text.beforeLineBreak text).length).enter .between).settled options := by
  induction text generalizing scan with
  | nil =>
    rw [Text.beforeLineBreak, List.length_nil, skip_zero, settled_enter_of_nil options _ h,
      settled_enter_of_nil options _ h]
    rfl
  | cons c rest ih =>
    rw [settled_enter_of_cons options _ h]
    dsimp only
    rw [stepComment, rest_enter, h]
    by_cases hbreak : Text.lineBreakLength (c :: rest) = 0
    · rw [if_neg (not_not.2 hbreak), Text.beforeLineBreak_cons hbreak, List.length_cons,
        Nat.add_comm, ← skip_skip]
      exact ih (scan.skip 1) (by simp [h])
    · rw [if_pos hbreak, Text.beforeLineBreak_eq_nil hbreak, List.length_nil, skip_zero]
      rfl

theorem push_ofList (text : List Char) (c : Char) :
    (String.ofList text).push c = String.ofList (text ++ [c]) := by
  apply String.toList_inj.1
  rw [String.toList_push, String.toList_ofList, String.toList_ofList]

section Quoted

variable {quote : Text.Quote} {scan : Scan} {c : Char} {rest body : List Char}

theorem stepQuoted_pair (start : Nat) (h : scan.rest = '\\' :: c :: rest) :
    (scan.enter (.quoted quote start (String.ofList body))).stepQuoted quote start
        (String.ofList body) '\\' =
      (scan.advance 2).enter (.quoted quote start (String.ofList (body ++ ['\\', c]))) := by
  rw [stepQuoted, if_pos rfl, rest_enter, h]
  simp only [List.take_succ_cons, List.take_zero, List.foldl_cons, List.foldl_nil, push_ofList,
    List.append_assoc, List.singleton_append, List.length_cons, List.length_nil]
  rfl

theorem stepQuoted_single (start : Nat) (h : scan.rest = c :: rest) (hclose : c ≠ quote.mark)
    (hpair : c = '\\' → rest = []) :
    (scan.enter (.quoted quote start (String.ofList body))).stepQuoted quote start
        (String.ofList body) c =
      (scan.advance 1).enter (.quoted quote start (String.ofList (body ++ [c]))) := by
  rw [stepQuoted]
  by_cases hbackslash : c = '\\'
  · rw [if_pos hbackslash, rest_enter, h, hpair hbackslash]
    simp only [List.take_succ_cons, List.take_nil, List.foldl_cons, List.foldl_nil, push_ofList,
      List.length_cons, List.length_nil]
    rfl
  · rw [if_neg hbackslash, if_neg hclose, push_ofList]
    rfl

end Quoted

theorem settled_quoted (quote : Text.Quote) (start : Nat) (text : List Char) (scan : Scan)
    (body : List Char) (h : scan.rest = text) :
    (scan.enter (.quoted quote start (String.ofList body))).settled options =
      match Text.quotedBody? quote.mark text with
      | some more =>
        ((scan.advance (more.length + 1)).settle
          (Literal.quoted quote (String.ofList (body ++ more))) start).settled options
      | none =>
        ((scan.advance text.length).settle (.error (Literal.unterminated quote)) start).settled
          options := by
  -- The pass has `body` in its mode already, so the induction has to hold for every body.
  fun_induction Text.quotedBody? quote.mark text generalizing scan body with
  | case1 =>
    rw [settled_enter_of_nil options _ h, settled_of_rest_eq_nil options (by simp [h])]
    rfl
  | case2 c rest ih =>
    -- A backslash and the character that it takes are passed over together.
    rw [settled_enter_of_cons options _ h]
    dsimp only
    rw [stepQuoted_pair start h, ih (scan.advance 2) (body ++ ['\\', c]) (by simp [h])]
    cases Text.quotedBody? quote.mark rest with
    | none =>
      have hlength : 2 + rest.length = ('\\' :: c :: rest).length := by
        simp only [List.length_cons]
        omega
      simp only [Option.map_none, advance_advance, hlength]
    | some more =>
      have hlength : 2 + (more.length + 1) = ('\\' :: c :: more).length + 1 := by
        simp only [List.length_cons]
        omega
      simp only [Option.map_some, advance_advance, hlength, List.append_assoc, List.cons_append,
        List.nil_append]
  | case3 rest hpair =>
    -- The mark closes the text.
    rw [settled_enter_of_cons options _ h]
    dsimp only
    rw [stepQuoted, if_neg quote.mark_ne_backslash, if_pos rfl, advance_enter, settle_enter,
      List.append_nil]
    rfl
  | case4 c rest hpair hclose ih =>
    have hend : c = '\\' → rest = [] := by
      intro hbackslash
      cases rest with
      | nil => rfl
      | cons next others => exact absurd rfl (hpair next others hbackslash)
    rw [settled_enter_of_cons options _ h]
    dsimp only
    rw [stepQuoted_single start h hclose hend, ih (scan.advance 1) (body ++ [c]) (by simp [h])]
    cases Text.quotedBody? quote.mark rest with
    | none => simp only [Option.map_none, advance_advance, List.length_cons, Nat.add_comm 1]
    | some more =>
      simp only [Option.map_some, advance_advance, List.length_cons, Nat.add_comm 1,
        List.append_assoc, List.cons_append, List.nil_append]

theorem isWordPart_iff {c : Char} (rest : List Char) :
    Text.isWordPart c = true ↔
      Text.lineBreakLength (c :: rest) = 0 ∧ Text.startsBlank (c :: rest) = false ∧ c ≠ '#' ∧
        c ≠ Text.Quote.double.mark ∧ c ≠ Text.Quote.single.mark ∧
          Symbol.longest? (c :: rest) = none := by
  have hspace : Text.isSpace c = false ↔
      Text.lineBreakLength (c :: rest) = 0 ∧ Text.startsBlank (c :: rest) = false := by
    rw [← Bool.not_eq_true, Text.isSpace_iff rest, not_or, not_not, Bool.not_eq_true]
  rw [Text.isWordPart_eq_true_iff, hspace, Symbol.longest?_eq_none_iff, and_assoc]

theorem stepCode_of_isWordPart {scan : Scan} {c : Char} {rest : List Char}
    (h : scan.rest = c :: rest) (hc : Text.isWordPart c = true) :
    scan.stepCode c = scan.readWord c := by
  obtain ⟨hbreak, hblank, hsign, hdouble, hsingle, hsymbol⟩ := (isWordPart_iff rest).1 hc
  rw [stepCode, h, if_neg (not_not.2 hbreak), if_neg (by simp [hblank]), if_neg hsign,
    if_neg hdouble, if_neg hsingle, hsymbol]

theorem stepCode_endWord {scan : Scan} {c : Char} {rest : List Char} (h : scan.rest = c :: rest)
    (hc : Text.isWordPart c = false) : scan.endWord.stepCode c = scan.stepCode c := by
  unfold stepCode
  rw [rest_endWord, endWord_endWord, h]
  split_ifs with hbreak hblank hsign hdouble hsingle
  · rfl
  · rfl
  · rfl
  · rfl
  · rfl
  · split
    · rfl
    next hsymbol =>
      have hpart := (isWordPart_iff rest).2 ⟨not_not.1 hbreak, by simpa using hblank, hsign,
        hdouble, hsingle, hsymbol⟩
      simp [hpart] at hc

theorem settled_stepCode {scan : Scan} {c : Char} {rest : List Char} (hmode : scan.mode = .between)
    (h : scan.rest = c :: rest) : (scan.stepCode c).settled options = scan.settled options := by
  have hstep := settled_enter_of_cons options .between h
  rw [enter_of_mode hmode] at hstep
  exact hstep.symm

theorem settled_word (start : Nat) (text : List Char) (scan : Scan) (word : List Char)
    (h : scan.rest = text) :
    (scan.enter (.word start (String.ofList word))).settled options =
      ((scan.advance (text.takeWhile Text.isWordPart).length).settle
        (Literal.word (String.ofList (word ++ text.takeWhile Text.isWordPart))) start).settled
          options := by
  induction text generalizing scan word with
  | nil =>
    have hlast : (scan.enter (.word start (String.ofList word))).settleLast =
        scan.settle (Literal.word (String.ofList word)) start := settle_enter scan _ _ _
    rw [settled_enter_of_nil options _ h, hlast, List.takeWhile_nil, List.append_nil,
      settled_of_rest_eq_nil options (by simp [h])]
    cases Literal.word (String.ofList word) <;> rfl
  | cons c rest ih =>
    have hrest : (scan.enter (.word start (String.ofList word))).rest = c :: rest := h
    rw [settled_enter_of_cons options _ h]
    dsimp only
    cases hc : Text.isWordPart c with
    | true =>
      have hread : (scan.enter (.word start (String.ofList word))).readWord c =
          (scan.advance 1).enter (.word start (String.ofList (word ++ [c]))) := by
        rw [← push_ofList]
        rfl
      rw [stepCode_of_isWordPart hrest hc, hread, ih (scan.advance 1) (word ++ [c]) (by simp [h]),
        List.takeWhile_cons_of_pos hc, advance_advance, List.length_cons, Nat.add_comm 1,
        List.append_assoc, List.singleton_append]
    | false =>
      -- The step that meets the end of the word also reads the character behind it.
      have hend : (scan.enter (.word start (String.ofList word))).endWord =
          scan.settle (Literal.word (String.ofList word)) start := settle_enter scan _ _ _
      rw [← stepCode_endWord hrest hc, hend, List.takeWhile_cons_of_neg (by simp [hc]),
        List.append_nil]
      exact settled_stepCode options (mode_settle scan _ _) (by rw [rest_settle, h])

/-! ### Pieces -/

theorem stepCode_lineFeed {scan : Scan} {rest : List Char} (hmode : scan.mode = .between)
    (h : scan.rest = '\n' :: rest) :
    scan.stepCode '\n' = ((scan.skip 1).clearOwner).enter .lineStart := by
  rw [stepCode, h, if_pos (by simp [Text.lineBreakLength]), endWord_of_between hmode]
  rfl

theorem settled_readTrivia_blank {scan : Scan} {c : Char} {rest : List Char}
    (hmode : scan.mode = .between) (h : scan.rest = c :: rest) (hc : Text.isSpace c = true) :
    (scan.readTrivia options (.blank c)).settled options = scan.settled options := by
  rw [readTrivia, ← settled_stepCode options hmode h]
  by_cases hfeed : c = '\n'
  · subst hfeed
    rw [if_pos rfl, stepCode_lineFeed hmode h, settled_lineStart]
  · rw [if_neg hfeed, stepCode, h, endWord_of_between hmode]
    by_cases hbreak : Text.lineBreakLength (c :: rest) = 0
    · have hblank : Text.startsBlank (c :: rest) = true :=
        ((Text.isSpace_iff rest).1 hc).resolve_left (not_not.2 hbreak)
      rw [if_neg (not_not.2 hbreak), if_pos hblank]
    · -- The break is a carriage return with its line feed, which are two pieces.
      obtain ⟨rfl, others, rfl⟩ : c = '\r' ∧ ∃ others, rest = '\n' :: others := by
        unfold Text.lineBreakLength at hbreak
        split at hbreak <;> simp_all
      have hskip : (scan.skip 1).rest = '\n' :: others := by simp [h]
      have hskipMode : (scan.skip 1).mode = .between := hmode
      rw [if_pos hbreak, ← settled_stepCode options hskipMode hskip,
        stepCode_lineFeed hskipMode hskip, skip_skip]
      rfl

theorem settled_readTrivia_comment {scan : Scan} {rest : List Char} (hmode : scan.mode = .between)
    (h : scan.rest = '#' :: rest) :
    (scan.readTrivia options (.comment (Text.beforeLineBreak rest))).settled options =
      scan.settled options := by
  have hstep : scan.stepCode '#' = (scan.skip 1).enter .comment := by
    rw [stepCode, h, if_neg (by simp [Text.lineBreakLength]), if_neg (by simp [Text.startsBlank]),
      if_pos rfl, endWord_of_between hmode]
    rfl
  have hskip : ∀ count, (scan.skip count).mode = .between := fun _ => hmode
  rw [← settled_stepCode options hmode h, hstep, settled_comment options rest _ (by simp [h]),
    skip_skip, enter_of_mode (hskip _), readTrivia, Nat.add_comm]

theorem settled_readLexeme_ofQuote {scan : Scan} {c : Char} {rest : List Char}
    (h : scan.rest = c :: rest) (quote : Text.Quote) :
    (scan.readLexeme (.ofQuote quote rest)).settled options =
      (scan.openQuote quote).settled options := by
  have hopen : scan.openQuote quote =
      (scan.clearOwner.advance 1).enter (.quoted quote scan.position (String.ofList [])) := rfl
  rw [hopen, settled_quoted options quote scan.position rest _ [] (by simp [h]), Lexeme.ofQuote]
  cases Text.quotedBody? quote.mark rest with
  | none =>
    dsimp only
    rw [advance_advance, Nat.add_comm]
    rfl
  | some body =>
    have hlength : (Lexeme.quoted quote body).length = 1 + (body.length + 1) := by
      simp only [Lexeme.length, Lexeme.chars, List.length_cons, List.length_append, List.length_nil]
      omega
    dsimp only
    rw [advance_advance, ← hlength, List.nil_append]
    rfl

theorem settled_readLexeme_word {scan : Scan} {c : Char} {rest : List Char}
    (hmode : scan.mode = .between) (h : scan.rest = c :: rest) :
    (scan.readLexeme (.word c (rest.takeWhile Text.isWordPart))).settled options =
      (scan.readWord c).settled options := by
  have hread : scan.readWord c =
      (scan.clearOwner.advance 1).enter (.word scan.position (String.ofList [c])) := by
    rw [readWord, hmode]
    rfl
  rw [hread, settled_word options scan.position rest _ [c] (by simp [h]), advance_advance,
    Nat.add_comm]
  rfl

/-- A piece that is read at once leaves the end of the pass as it is. -/
theorem settled_readPiece {scan : Scan} {c : Char} {rest : List Char} (hmode : scan.mode = .between)
    (h : scan.rest = c :: rest) :
    (scan.readPiece options (Piece.first c rest)).settled options = scan.settled options := by
  unfold Piece.first
  split_ifs with hspace hsign hdouble hsingle
  · exact settled_readTrivia_blank options hmode h hspace
  · subst hsign
    exact settled_readTrivia_comment options hmode h
  all_goals
    have hbreak := mt (Text.isSpace_iff (c := c) rest).2 hspace
    rw [not_or, not_not, Bool.not_eq_true] at hbreak
    rw [← settled_stepCode options hmode h, stepCode, h, if_neg (not_not.2 hbreak.1),
      if_neg (by simp [hbreak.2]), if_neg hsign, endWord_of_between hmode]
  · rw [if_pos hdouble]
    exact settled_readLexeme_ofQuote options h .double
  · rw [if_neg hdouble, if_pos hsingle]
    exact settled_readLexeme_ofQuote options h .single
  · rw [if_neg hdouble, if_neg hsingle, Symbol.longestPrefix?_eq_longest?]
    cases hsymbol : Symbol.longest? (c :: rest) with
    | some symbol =>
      have hread : scan.readLexeme (.symbol symbol) = scan.readSymbol symbol := enter_of_mode hmode
      exact congrArg (settled options) hread
    | none => exact settled_readLexeme_word options hmode h

theorem rest_readPiece (scan : Scan) (piece : Piece) :
    (scan.readPiece options piece).rest = scan.rest.drop piece.length := by
  cases piece with
  | trivia part =>
    cases part with
    | blank c =>
      simp only [readPiece, readTrivia]
      split_ifs
      · rw [rest_measureLine]
        rfl
      · rfl
    | comment text => rfl
  | lexeme part =>
    rw [readPiece, readLexeme, rest_settle]
    rfl

theorem rest_foldl_readPiece {pieces : List Piece} {after : List Char} {scan : Scan}
    (h : scan.rest = pieces.flatMap Piece.chars ++ after) :
    (pieces.foldl (readPiece options) scan).rest = after := by
  induction pieces generalizing scan with
  | nil => exact h
  | cons piece others ih =>
    rw [List.flatMap_cons, List.append_assoc] at h
    apply ih
    rw [rest_readPiece, h]
    exact List.drop_left

theorem mode_readPiece {scan : Scan} (piece : Piece) (hmode : scan.mode = .between) :
    (scan.readPiece options piece).mode = .between := by
  cases piece with
  | trivia part =>
    cases part with
    | blank c =>
      simp only [readPiece, readTrivia]
      split_ifs
      · exact mode_measureLine _ _
      · exact hmode
    | comment text => exact hmode
  | lexeme part => exact mode_settle _ _ _

/-- A pass reads the pieces of the text one after the other. -/
theorem settled_eq_foldl (text : List Char) (scan : Scan) (hmode : scan.mode = .between)
    (h : scan.rest = text) :
    scan.settled options = (pieces text).foldl (readPiece options) scan := by
  fun_induction pieces text generalizing scan with
  | case1 =>
    rw [settled_of_rest_eq_nil options h, settleLast, hmode]
    exact enter_of_mode hmode
  | case2 c rest ih =>
    -- Behind the first piece the pass is between two literals again.
    rw [List.foldl_cons, ← ih _ (mode_readPiece options _ hmode) (by rw [rest_readPiece, h]),
      settled_readPiece options hmode h]

end Settled

theorem finish_run (options : Options) (scan : Scan) :
    (scan.run options).finish = (scan.settled options).finish := rfl

end Scan

theorem tokenize_eq_foldl (source : String) (options : Options) :
    tokenize source options =
      ((pieces source.toList).foldl (Scan.readPiece options)
        (Scan.start source.toList)).finish := by
  rw [tokenize, Scan.finish_run, Scan.settled_eq_foldl options source.toList _ rfl rfl]

end Offside
