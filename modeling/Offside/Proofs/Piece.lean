import Mathlib.Data.List.MinMax
import Offside.Literal.Quoted
import Offside.Literal.Word
import Offside.Text.Blank

/-!
# The pieces of a text

A text read without modes: at every place it starts with a blank, a comment, a quoted text, a symbol
or a word, and what comes behind is read in the same way. A piece keeps its characters, so the
pieces of a text give back the text.
-/

namespace Offside

open Text (Quote)

/-! ## Where a piece ends -/

namespace Text

def isSpace (c : Char) : Bool := c == ' ' || c == '\t' || c == '\r' || c == '\n'

def beforeLineBreak : List Char → List Char
  | [] => []
  | '\n' :: _ => []
  | '\r' :: '\n' :: _ => []
  | c :: rest => c :: beforeLineBreak rest

/-- What stands before the first `mark` that no backslash has taken. A backslash takes the character
behind it, whatever it is. -/
def quotedBody? (mark : Char) : List Char → Option (List Char)
  | [] => none
  | '\\' :: c :: rest => (quotedBody? mark rest).map fun body => '\\' :: c :: body
  | c :: rest => if c = mark then some [] else (quotedBody? mark rest).map (c :: ·)

theorem isSpace_iff {c : Char} (rest : List Char) :
    isSpace c = true ↔ lineBreakLength (c :: rest) ≠ 0 ∨ startsBlank (c :: rest) = true := by
  simp only [isSpace, Bool.or_eq_true, beq_iff_eq]
  constructor
  · rintro (((rfl | rfl) | rfl) | rfl)
    · exact .inr rfl
    · exact .inr rfl
    · by_cases h : rest.head? = some '\n'
      · obtain ⟨others, rfl⟩ := List.head?_eq_some_iff.1 h
        exact .inl (by simp [lineBreakLength])
      · exact .inr (by simp [startsBlank, h])
    · exact .inl (by simp [lineBreakLength])
  · unfold lineBreakLength startsBlank
    rintro (h | h) <;> split at h <;> simp_all

theorem beforeLineBreak_eq_nil {text : List Char} (h : lineBreakLength text ≠ 0) :
    beforeLineBreak text = [] := by
  unfold lineBreakLength at h
  unfold beforeLineBreak
  split at h <;> simp_all

theorem beforeLineBreak_cons {c : Char} {rest : List Char} (h : lineBreakLength (c :: rest) = 0) :
    beforeLineBreak (c :: rest) = c :: beforeLineBreak rest := by
  rw [beforeLineBreak.eq_def]
  unfold lineBreakLength at h
  split <;> simp_all

theorem beforeLineBreak_isPrefix (text : List Char) : beforeLineBreak text <+: text := by
  fun_induction beforeLineBreak text with
  | case1 => exact List.nil_prefix
  | case2 rest => exact List.nil_prefix
  | case3 rest => exact List.nil_prefix
  | case4 c rest _ _ ih => exact List.cons_prefix_cons.2 ⟨rfl, ih⟩

theorem append_isPrefix_of_quotedBody? {mark : Char} {text body : List Char}
    (h : quotedBody? mark text = some body) : body ++ [mark] <+: text := by
  fun_induction quotedBody? mark text generalizing body with
  | case1 => cases h
  | case2 c rest ih =>
    obtain ⟨inner, hinner, rfl⟩ := Option.map_eq_some_iff.1 h
    exact List.cons_prefix_cons.2 ⟨rfl, List.cons_prefix_cons.2 ⟨rfl, ih hinner⟩⟩
  | case3 rest hbackslash =>
    cases h
    exact List.cons_prefix_cons.2 ⟨rfl, List.nil_prefix⟩
  | case4 c rest hbackslash hmark ih =>
    obtain ⟨inner, hinner, rfl⟩ := Option.map_eq_some_iff.1 h
    exact List.cons_prefix_cons.2 ⟨rfl, ih hinner⟩

end Text

namespace Symbol

def isGlyph (c : Char) : Bool := all.any fun symbol => symbol.chars.head? == some c

def longestPrefix? (text : List Char) : Option Symbol :=
  (all.filter fun symbol => symbol.chars.isPrefixOf text).argmax width

theorem mem_prefixes {text : List Char} {symbol : Symbol} :
    symbol ∈ all.filter (fun symbol => symbol.chars.isPrefixOf text) ↔ symbol.chars <+: text := by
  simp [mem_all]

theorem width_le_two (symbol : Symbol) : symbol.width ≤ 2 := by
  cases symbol <;> decide

theorem longest?_eq_some {text : List Char} {symbol : Symbol} (hpre : symbol.chars <+: text)
    (hlongest : ∀ other : Symbol, other.chars <+: text → other.width ≤ symbol.width) :
    longest? text = some symbol := by
  obtain ⟨rest, rfl⟩ := hpre
  have hpos := symbol.width_pos
  have htwo := symbol.width_le_two
  have hself : ofChars? symbol.chars = some symbol := ofChars?_eq_some_iff.2 rfl
  unfold width at hpos htwo
  match hchars : symbol.chars, hpos, htwo with
  | [first], _, _ =>
    rw [hchars] at hself
    rw [List.singleton_append, longest?, ofStart?_eq_or, hself]
    cases rest with
    | nil => rfl
    | cons second rest =>
      have hnone : ofChars? [first, second] = none := by
        by_contra hsome
        obtain ⟨other, hother⟩ := Option.ne_none_iff_exists'.1 hsome
        have hpair := ofChars?_eq_some_iff.1 hother
        have hle := hlongest other ⟨rest, by rw [hchars, hpair]; rfl⟩
        rw [width, width, hchars, hpair] at hle
        simp at hle
      rw [List.head?_cons, Option.bind_some, hnone, Option.none_or]
  | [first, second], _, _ =>
    rw [List.cons_append, longest?]
    exact ofStart?_of_chars_pair hchars

theorem longestPrefix?_eq_longest? (text : List Char) : longestPrefix? text = longest? text := by
  cases h : longestPrefix? text with
  | none =>
    have hnil := List.argmax_eq_none.1 h
    cases hread : longest? text with
    | none => rfl
    | some symbol =>
      obtain ⟨rest, htext⟩ := eq_append_of_longest? hread
      have hmem := mem_prefixes.2 ⟨rest, htext.symm⟩
      rw [hnil] at hmem
      exact absurd hmem List.not_mem_nil
  | some symbol =>
    have hmem := List.argmax_mem h
    exact (longest?_eq_some (mem_prefixes.1 hmem) fun other hother =>
      List.le_of_mem_argmax (mem_prefixes.2 hother) h).symm

theorem exists_chars_eq_take_one (symbol : Symbol) :
    ∃ single : Symbol, single.chars = symbol.chars.take 1 := by
  have hsome : (ofChars? (symbol.chars.take 1)).isSome = true := by
    cases symbol <;> decide
  obtain ⟨single, hsingle⟩ := Option.isSome_iff_exists.1 hsome
  exact ⟨single, ofChars?_eq_some_iff.1 hsingle⟩

theorem isGlyph_eq_true_iff {c : Char} {rest : List Char} :
    isGlyph c = true ↔ ∃ symbol : Symbol, symbol.chars <+: c :: rest := by
  simp only [isGlyph, List.any_eq_true, mem_all, true_and, beq_iff_eq]
  constructor
  · rintro ⟨symbol, hhead⟩
    obtain ⟨single, hsingle⟩ := symbol.exists_chars_eq_take_one
    obtain ⟨others, hchars⟩ := List.head?_eq_some_iff.1 hhead
    rw [hchars] at hsingle
    exact ⟨single, rest, by rw [hsingle]; rfl⟩
  · rintro ⟨symbol, others, hchars⟩
    have hpos := symbol.width_pos
    refine ⟨symbol, ?_⟩
    cases hsymbol : symbol.chars with
    | nil => simp [width, hsymbol] at hpos
    | cons first _ =>
      rw [hsymbol] at hchars
      rw [(List.cons.inj hchars).1, List.head?_cons]

theorem longest?_eq_none_iff {c : Char} {rest : List Char} :
    longest? (c :: rest) = none ↔ isGlyph c = false := by
  rw [← longestPrefix?_eq_longest?, longestPrefix?, List.argmax_eq_none,
    List.eq_nil_iff_forall_not_mem, ← Bool.not_eq_true, isGlyph_eq_true_iff, not_exists]
  exact forall_congr' fun symbol => not_congr mem_prefixes

end Symbol

def Text.isWordPart (c : Char) : Bool :=
  !(isSpace c || c == '#' || c == Quote.double.mark || c == Quote.single.mark || Symbol.isGlyph c)

theorem Text.isWordPart_eq_true_iff {c : Char} :
    isWordPart c = true ↔ isSpace c = false ∧ c ≠ '#' ∧ c ≠ Quote.double.mark ∧
      c ≠ Quote.single.mark ∧ Symbol.isGlyph c = false := by
  simp [isWordPart, and_assoc]

/-! ## Pieces -/

/-- What may stand between two literals: one character of white space, or a comment, whose text
comes behind a number sign. -/
inductive Trivia where
  | blank (c : Char)
  | comment (text : List Char)
deriving DecidableEq, Repr

inductive Lexeme where
  | word (first : Char) (rest : List Char)
  | symbol (mark : Symbol)
  | quoted (quote : Quote) (body : List Char)
  /-- A quoted text that the end of the source cuts off. -/
  | unclosed (quote : Quote) (body : List Char)
deriving DecidableEq, Repr

inductive Piece where
  | trivia (part : Trivia)
  | lexeme (part : Lexeme)
deriving DecidableEq, Repr

def Trivia.chars : Trivia → List Char
  | blank c => [c]
  | comment text => '#' :: text

namespace Lexeme

def chars : Lexeme → List Char
  | word first rest => first :: rest
  | symbol mark => mark.chars
  | quoted quote body => quote.mark :: (body ++ [quote.mark])
  | unclosed quote body => quote.mark :: body

def length (lexeme : Lexeme) : Nat := lexeme.chars.length

def reading : Lexeme → Except Fault TokenKind
  | word first rest => Literal.word (String.ofList (first :: rest))
  | symbol mark => .ok (.symbol mark)
  | quoted quote body => Literal.quoted quote (String.ofList body)
  | unclosed quote _ => .error (Literal.unterminated quote)

def ofQuote (quote : Quote) (rest : List Char) : Lexeme :=
  match Text.quotedBody? quote.mark rest with
  | some body => quoted quote body
  | none => unclosed quote rest

end Lexeme

namespace Piece

def chars : Piece → List Char
  | trivia part => part.chars
  | lexeme part => part.chars

def length (piece : Piece) : Nat := piece.chars.length

def isTrivia : Piece → Bool
  | trivia _ => true
  | lexeme _ => false

def kind? : Piece → Option TokenKind
  | trivia _ => none
  | lexeme part => part.reading.toOption

def fault? : Piece → Option Fault
  | trivia _ => none
  | lexeme part =>
    match part.reading with
    | .ok _ => none
    | .error fault => some fault

def first (c : Char) (rest : List Char) : Piece :=
  if Text.isSpace c then trivia (.blank c)
  else if c = '#' then trivia (.comment (Text.beforeLineBreak rest))
  else if c = Quote.double.mark then lexeme (.ofQuote .double rest)
  else if c = Quote.single.mark then lexeme (.ofQuote .single rest)
  else
    match Symbol.longestPrefix? (c :: rest) with
    | some symbol => lexeme (.symbol symbol)
    | none => lexeme (.word c (rest.takeWhile Text.isWordPart))

theorem length_pos (piece : Piece) : 0 < piece.length := by
  cases piece with
  | trivia part => cases part <;> simp [length, chars, Trivia.chars]
  | lexeme part =>
    cases part with
    | symbol mark => exact mark.width_pos
    | word _ _ => simp [length, chars, Lexeme.chars]
    | quoted _ _ => simp [length, chars, Lexeme.chars]
    | unclosed _ _ => simp [length, chars, Lexeme.chars]

theorem chars_first_isPrefix (c : Char) (rest : List Char) :
    (first c rest).chars <+: c :: rest := by
  have hquote : ∀ quote : Quote, (Lexeme.ofQuote quote rest).chars <+: quote.mark :: rest := by
    intro quote
    unfold Lexeme.ofQuote
    split
    next body hbody =>
      exact List.cons_prefix_cons.2 ⟨rfl, Text.append_isPrefix_of_quotedBody? hbody⟩
    next => exact List.prefix_rfl
  unfold first
  split_ifs with hspace hsign hdouble hsingle
  · exact List.cons_prefix_cons.2 ⟨rfl, List.nil_prefix⟩
  · exact List.cons_prefix_cons.2 ⟨hsign.symm, Text.beforeLineBreak_isPrefix rest⟩
  · rw [hdouble]
    exact hquote .double
  · rw [hsingle]
    exact hquote .single
  · split
    next symbol hsymbol => exact Symbol.mem_prefixes.1 (List.argmax_mem hsymbol)
    next => exact List.cons_prefix_cons.2 ⟨rfl, List.takeWhile_prefix _⟩

end Piece

def pieces : List Char → List Piece
  | [] => []
  | c :: rest => Piece.first c rest :: pieces ((c :: rest).drop (Piece.first c rest).length)
termination_by text => text.length
decreasing_by
  have := (Piece.first c rest).length_pos
  simp only [List.length_drop, List.length_cons]
  omega

theorem pieces_nil : pieces [] = [] := by
  rw [pieces]

theorem pieces_cons (c : Char) (rest : List Char) :
    pieces (c :: rest) =
      Piece.first c rest :: pieces ((c :: rest).drop (Piece.first c rest).length) := by
  rw [pieces]

/-- The pieces of a text give back the text. -/
theorem flatMap_chars_pieces (text : List Char) : (pieces text).flatMap Piece.chars = text := by
  fun_induction pieces text with
  | case1 => rfl
  | case2 c rest ih =>
    rw [List.flatMap_cons, ih]
    exact List.prefix_iff_eq_append.1 (Piece.chars_first_isPrefix c rest)

def placed (position : Nat) : List Piece → List (Piece × Span)
  | [] => []
  | piece :: rest =>
    (piece, ⟨position, position + piece.length⟩) :: placed (position + piece.length) rest

theorem placed_append (position : Nat) (first second : List Piece) :
    placed position (first ++ second) =
      placed position first ++ placed (position + (first.flatMap Piece.chars).length) second := by
  induction first generalizing position with
  | nil => rfl
  | cons piece rest ih =>
    rw [List.cons_append, placed, placed, ih, List.flatMap_cons, List.length_append,
      ← Nat.add_assoc, List.cons_append]
    rfl

end Offside
