/-!
# Symbols

Operators and punctuation are one or two characters long. Where two symbols start at the same place,
the longer one is read.
-/

namespace Offside

/-- The operators and the punctuation marks. -/
inductive Symbol where
  | assignment
  | equals
  | not
  | notEquals
  | less
  | lessEquals
  | shiftLeft
  | subtype
  | greater
  | greaterEquals
  | shiftRight
  | dot
  | comma
  | colon
  | question
  | plus
  | dash
  | star
  | slash
  | percent
  | tilde
  | ampersand
  | pipe
  | caret
  | openBracket
  | closeBracket
  | openParen
  | closeParen
deriving DecidableEq, Repr

namespace Symbol

def chars : Symbol → List Char
  | assignment => ['=']
  | equals => ['=', '=']
  | not => ['!']
  | notEquals => ['!', '=']
  | less => ['<']
  | lessEquals => ['<', '=']
  | shiftLeft => ['<', '<']
  | subtype => ['<', ':']
  | greater => ['>']
  | greaterEquals => ['>', '=']
  | shiftRight => ['>', '>']
  | dot => ['.']
  | comma => [',']
  | colon => [':']
  | question => ['?']
  | plus => ['+']
  | dash => ['-']
  | star => ['*']
  | slash => ['/']
  | percent => ['%']
  | tilde => ['~']
  | ampersand => ['&']
  | pipe => ['|']
  | caret => ['^']
  | openBracket => ['[']
  | closeBracket => [']']
  | openParen => ['(']
  | closeParen => [')']

def text (symbol : Symbol) : String := String.ofList symbol.chars

def width (symbol : Symbol) : Nat := symbol.chars.length

def all : List Symbol :=
  [assignment, equals, not, notEquals, less, lessEquals, shiftLeft, subtype, greater,
   greaterEquals, shiftRight, dot, comma, colon, question, plus, dash, star, slash, percent,
   tilde, ampersand, pipe, caret, openBracket, closeBracket, openParen, closeParen]

def ofChars? (chars : List Char) : Option Symbol := all.find? (·.chars == chars)

/-- The symbol that starts with `first` where `next` is the character behind it. -/
def ofStart? (first : Char) (next : Option Char) : Option Symbol :=
  match first, next with
  | '>', some '=' => some greaterEquals
  | '>', some '>' => some shiftRight
  | '>', _ => some greater
  | '<', some '=' => some lessEquals
  | '<', some '<' => some shiftLeft
  | '<', some ':' => some subtype
  | '<', _ => some less
  | '=', some '=' => some equals
  | '=', _ => some assignment
  | '!', some '=' => some notEquals
  | '!', _ => some not
  | '.', _ => some dot
  | ',', _ => some comma
  | ':', _ => some colon
  | '-', _ => some dash
  | '+', _ => some plus
  | '*', _ => some star
  | '/', _ => some slash
  | '%', _ => some percent
  | '~', _ => some tilde
  | '&', _ => some ampersand
  | '|', _ => some pipe
  | '^', _ => some caret
  | '[', _ => some openBracket
  | ']', _ => some closeBracket
  | '(', _ => some openParen
  | ')', _ => some closeParen
  | '?', _ => some question
  | _, _ => none

def longest? : List Char → Option Symbol
  | [] => none
  | first :: rest => ofStart? first rest.head?

theorem mem_all (symbol : Symbol) : symbol ∈ all := by
  cases symbol <;> decide

theorem ofChars?_eq_some_iff {chars : List Char} {symbol : Symbol} :
    ofChars? chars = some symbol ↔ symbol.chars = chars := by
  constructor
  · intro h
    simpa using List.find?_some h
  · rintro rfl
    cases symbol <;> rfl

theorem chars_of_ofStart? {first : Char} {next : Option Char} {symbol : Symbol}
    (h : ofStart? first next = some symbol) :
    symbol.chars = [first] ∨ ∃ second, next = some second ∧ symbol.chars = [first, second] := by
  unfold ofStart? at h
  split at h <;> cases h <;> simp [chars]

theorem ofStart?_of_chars_pair {first second : Char} {symbol : Symbol}
    (h : symbol.chars = [first, second]) : ofStart? first (some second) = some symbol := by
  cases symbol <;> cases h <;> rfl

theorem ofStart?_ne_none {first : Char} {symbol : Symbol} (h : symbol.chars = [first])
    (next : Option Char) : ofStart? first next ≠ none := by
  cases symbol <;> cases h <;> unfold ofStart? <;> split <;> simp_all

/-- A symbol of two characters comes before the one that its first character is. -/
theorem ofStart?_eq_or (first : Char) (next : Option Char) :
    ofStart? first next =
      (next.bind fun second => ofChars? [first, second]).or (ofChars? [first]) := by
  cases hpair : next.bind fun second => ofChars? [first, second] with
  | some symbol =>
    obtain ⟨second, rfl, hsymbol⟩ := Option.bind_eq_some_iff.1 hpair
    exact ofStart?_of_chars_pair (ofChars?_eq_some_iff.1 hsymbol)
  | none =>
    rw [Option.none_or]
    cases hstart : ofStart? first next with
    | some symbol =>
      obtain hsingle | ⟨second, rfl, hsymbol⟩ := chars_of_ofStart? hstart
      · exact (ofChars?_eq_some_iff.2 hsingle).symm
      · rw [Option.bind_some, ofChars?_eq_some_iff.2 hsymbol] at hpair
        cases hpair
    | none =>
      cases hsingle : ofChars? [first] with
      | some symbol => exact absurd hstart (ofStart?_ne_none (ofChars?_eq_some_iff.1 hsingle) next)
      | none => rfl

theorem eq_append_of_longest? {text : List Char} {symbol : Symbol}
    (h : longest? text = some symbol) : ∃ rest, text = symbol.chars ++ rest := by
  cases text with
  | nil => cases h
  | cons first others =>
    obtain hchars | ⟨second, hnext, hchars⟩ := chars_of_ofStart? h
    · exact ⟨others, by rw [hchars, List.singleton_append]⟩
    · obtain ⟨rest, rfl⟩ := List.head?_eq_some_iff.1 hnext
      exact ⟨rest, by rw [hchars]; rfl⟩

theorem width_pos (symbol : Symbol) : 0 < symbol.width := by
  cases symbol <;> decide

end Symbol

end Offside
