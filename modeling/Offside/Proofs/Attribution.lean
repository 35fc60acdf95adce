import Mathlib.Algebra.GroupWithZero.Nat
import Offside.Proofs.Literals

/-!
# Who owns the trivia

Each gap lies between two neighbours: the start of the text or a literal in front of it, and a
literal or the end of the text behind it. A token in front takes the rest of its line, or the whole
gap if no literal follows. A token behind takes what is left, and a literal that cannot be read
takes nothing.
-/

namespace Offside

def Lexeme.isToken (lexeme : Lexeme) : Bool := lexeme.reading.isOk

/-! ### The rule for one gap -/

section Shares

variable (previous : Option Lexeme) (gap : List Char) (next : Option Lexeme)

/-- The trivia of a gap that the literal in front of it takes. -/
def trailingShare : Nat :=
  if previous.any (·.isToken) then
    if next.isSome then Text.lineLength gap else gap.length
  else 0

/-- The trivia of a gap that the literal behind it takes. -/
def leadingShare : Nat :=
  if next.any (·.isToken) then gap.length - trailingShare previous gap next else 0

/-- The trivia of a gap that belongs to no token. -/
def lostShare : Nat :=
  gap.length - trailingShare previous gap next - leadingShare previous gap next

theorem trailingShare_le : trailingShare previous gap next ≤ gap.length := by
  unfold trailingShare
  split_ifs
  · exact Text.lineLength_le gap
  · exact Nat.le_refl _
  · exact Nat.zero_le _

theorem add_shares :
    trailingShare previous gap next + leadingShare previous gap next +
      lostShare previous gap next = gap.length := by
  have hle := trailingShare_le previous gap next
  unfold lostShare leadingShare
  split_ifs <;> omega

end Shares

/-! ### The rule for a text -/

/-- A literal in its place, with the amounts of trivia that belong to it. -/
structure Attributed where
  reading : Except Fault TokenKind
  content : Span
  leading : Nat
  trailing : Nat

def trailingFrom (tail : List Trivia) (previous : Option Lexeme) : List Item → Nat
  | [] => trailingShare previous (Trivia.text tail) none
  | item :: _ => trailingShare previous item.text (some item.lexeme)

def attributedFrom (tail : List Trivia) (position : Nat) (previous : Option Lexeme) :
    List Item → List Attributed
  | [] => []
  | item :: items =>
    let start := position + item.text.length
    let stop := start + item.lexeme.length
    { reading := item.lexeme.reading
      content := ⟨start, stop⟩
      leading := leadingShare previous item.text (some item.lexeme)
      trailing := trailingFrom tail (some item.lexeme) items } ::
        attributedFrom tail stop (some item.lexeme) items

def lostFrom (tail : List Trivia) (previous : Option Lexeme) : List Item → Nat
  | [] => lostShare previous (Trivia.text tail) none
  | item :: items =>
    lostShare previous item.text (some item.lexeme) + lostFrom tail (some item.lexeme) items

def triviaLength (pieces : List Piece) : Nat := ((pieces.filter (·.isTrivia)).map (·.length)).sum

namespace Layout

def attributed (layout : Layout) : List Attributed := attributedFrom layout.tail 0 none layout.items

def lost (layout : Layout) : Nat := lostFrom layout.tail none layout.items

end Layout

/-! ### Tokens follow the rule -/

theorem isToken_of_ok {lexeme : Lexeme} {kind : TokenKind} (h : lexeme.reading = .ok kind) :
    lexeme.isToken = true := by
  rw [Lexeme.isToken, h]
  rfl

theorem isToken_of_error {lexeme : Lexeme} {fault : Fault} (h : lexeme.reading = .error fault) :
    lexeme.isToken = false := by
  rw [Lexeme.isToken, h]
  rfl

theorem trailingShare_eq_taken {cursor : Cursor} {previous : Option Lexeme}
    (h : previous.any (·.isToken) = cursor.owned) (gap : List Char) (lexeme : Lexeme) :
    trailingShare previous gap (some lexeme) = cursor.taken gap := by
  rw [trailingShare, h]
  rfl

theorem leadingShare_of_ok {cursor : Cursor} {item : Item} {kind : TokenKind}
    {previous : Option Lexeme} (hprevious : previous.any (·.isToken) = cursor.owned)
    (h : item.lexeme.reading = .ok kind) :
    leadingShare previous item.text (some item.lexeme) = cursor.leading item := by
  rw [leadingShare, trailingShare_eq_taken hprevious]
  exact if_pos (isToken_of_ok h)

theorem leadingShare_of_error {lexeme : Lexeme} {fault : Fault} (h : lexeme.reading = .error fault)
    (previous : Option Lexeme) (gap : List Char) :
    leadingShare previous gap (some lexeme) = 0 :=
  if_neg (by simp [isToken_of_error h])

theorem trailingFrom_of_ok {lexeme : Lexeme} {kind : TokenKind} (h : lexeme.reading = .ok kind)
    (tail : List Trivia) (items : List Item) :
    trailingFrom tail (some lexeme) items = trailing tail items := by
  cases items with
  | nil => exact if_pos (isToken_of_ok h)
  | cons item items => exact if_pos (isToken_of_ok h)

theorem trailingFrom_of_error {lexeme : Lexeme} {fault : Fault} (h : lexeme.reading = .error fault)
    (tail : List Trivia) (items : List Item) : trailingFrom tail (some lexeme) items = 0 := by
  have hnot : ¬(some lexeme).any (·.isToken) = true := by
    simp [isToken_of_error h]
  cases items with
  | nil => exact if_neg hnot
  | cons item items => exact if_neg hnot

theorem map_filter_tokensFrom_eq_attributed (tail : List Trivia) (items : List Item)
    (cursor : Cursor) (previous : Option Lexeme)
    (hprevious : previous.any (·.isToken) = cursor.owned) :
    ((tokensFrom tail cursor items).filter (!·.isIndentation)).map
        (fun token => (token.kind, token.content, token.leading, token.trailing)) =
      (attributedFrom tail cursor.position previous items).filterMap fun literal =>
        literal.reading.toOption.map (·, literal.content, literal.leading, literal.trailing) := by
  induction items generalizing cursor previous with
  | nil =>
    rw [filter_tokensFrom_nil]
    rfl
  | cons item items ih =>
    have hnext : (some item.lexeme).any (·.isToken) = (cursor.next item).owned := rfl
    have hrest := ih (cursor.next item) (some item.lexeme) hnext
    rw [filter_tokensFrom_cons, List.map_append, hrest, attributedFrom]
    cases hreading : item.lexeme.reading with
    | error fault =>
      rw [cursor.token?_of_error hreading]
      rfl
    | ok kind =>
      have hstart := cursor.start_eq item
      rw [cursor.token?_of_ok hreading, leadingShare_of_ok hprevious hreading,
        trailingFrom_of_ok hreading, Option.map_some, Option.toList_some, List.map_singleton,
        Token.content_extend, Token.content, hstart, Token.extend, Nat.zero_add]
      rfl

theorem map_filter_diagnosticsFrom_eq_attributed (options : Options) (tail : List Trivia)
    (items : List Item) (cursor : Cursor) (previous : Option Lexeme) :
    ((diagnosticsFrom options cursor items).filter (·.isError)).map
        (fun diagnostic => (Except.error diagnostic.fault, diagnostic.span)) =
      ((attributedFrom tail cursor.position previous items).filter (!·.reading.isOk)).map
        fun literal => (literal.reading, literal.content) := by
  induction items generalizing cursor previous with
  | nil => rfl
  | cons item items ih =>
    have hrest := ih (cursor.next item) (some item.lexeme)
    rw [filter_diagnosticsFrom_cons, List.map_append, hrest, attributedFrom]
    cases hreading : item.lexeme.reading with
    | error fault =>
      rw [cursor.fault?_of_error hreading]
      rfl
    | ok kind =>
      rw [cursor.fault?_of_ok hreading]
      rfl

/-! ### The amount of trivia -/

theorem triviaLength_append (first second : List Piece) :
    triviaLength (first ++ second) = triviaLength first + triviaLength second := by
  rw [triviaLength, List.filter_append, List.map_append, List.sum_append]
  rfl

theorem triviaLength_trivia (gap : List Trivia) :
    triviaLength (gap.map .trivia) = (Trivia.text gap).length := by
  induction gap with
  | nil => rfl
  | cons part rest ih =>
    have hcons : triviaLength ((part :: rest).map .trivia) =
        (Piece.trivia part).length + triviaLength (rest.map .trivia) := rfl
    rw [hcons, Trivia.length_text_cons, ih]

theorem triviaLength_itemPieces (item : Item) :
    triviaLength (Layout.itemPieces item) = item.text.length := by
  have hlexeme : triviaLength [.lexeme item.lexeme] = 0 := rfl
  rw [Layout.itemPieces, triviaLength_append, triviaLength_trivia, hlexeme]
  rfl

theorem sum_attributedFrom (tail : List Trivia) (items : List Item) (position : Nat)
    (previous : Option Lexeme) :
    trailingFrom tail previous items +
        ((attributedFrom tail position previous items).map fun literal =>
          literal.leading + literal.trailing).sum + lostFrom tail previous items =
      triviaLength (Layout.pieces ⟨items, tail⟩) := by
  -- What `previous` takes of the first gap is counted apart, since `previous` is no item here.
  induction items generalizing position previous with
  | nil =>
    have hshares := add_shares previous (Trivia.text tail) none
    have hleading : leadingShare previous (Trivia.text tail) none = 0 := rfl
    have hpieces : Layout.pieces ⟨[], tail⟩ = tail.map .trivia := rfl
    rw [hpieces, triviaLength_trivia, attributedFrom, trailingFrom, lostFrom, List.map_nil,
      List.sum_nil]
    omega
  | cons item items ih =>
    have hshares := add_shares previous item.text (some item.lexeme)
    have hrest := ih (position + item.text.length + item.lexeme.length) (some item.lexeme)
    rw [Layout.pieces_mk_cons, triviaLength_append, triviaLength_itemPieces, attributedFrom,
      trailingFrom, lostFrom, List.map_cons, List.sum_cons]
    dsimp only
    omega

theorem sum_filter_tokensFrom (tail : List Trivia) (items : List Item) (cursor : Cursor)
    (previous : Option Lexeme) (hprevious : previous.any (·.isToken) = cursor.owned) :
    (((tokensFrom tail cursor items).filter (!·.isIndentation)).map
        fun token => token.leading + token.trailing).sum =
      ((attributedFrom tail cursor.position previous items).map fun literal =>
        literal.leading + literal.trailing).sum := by
  induction items generalizing cursor previous with
  | nil =>
    rw [filter_tokensFrom_nil]
    rfl
  | cons item items ih =>
    have hnext : (some item.lexeme).any (·.isToken) = (cursor.next item).owned := rfl
    have hrest := ih (cursor.next item) (some item.lexeme) hnext
    have hposition : (cursor.next item).position =
        cursor.position + item.text.length + item.lexeme.length := rfl
    rw [filter_tokensFrom_cons, List.map_append, List.sum_append, hrest, attributedFrom,
      List.map_cons, List.sum_cons, hposition]
    cases hreading : item.lexeme.reading with
    | error fault =>
      rw [cursor.token?_of_error hreading, leadingShare_of_error hreading,
        trailingFrom_of_error hreading]
      rfl
    | ok kind =>
      rw [cursor.token?_of_ok hreading, leadingShare_of_ok hprevious hreading,
        trailingFrom_of_ok hreading, Option.map_some, Option.toList_some, List.map_singleton,
        List.sum_singleton, Token.extend, Nat.zero_add]

theorem lostFrom_eq_zero (options : Options) (tail : List Trivia) (items : List Item)
    (cursor : Cursor) (previous : Option Lexeme)
    (herrors : (diagnosticsFrom options cursor items).filter (·.isError) = [])
    (htaken : previous.any (·.isToken) = true ∨ items ≠ []) : lostFrom tail previous items = 0 := by
  induction items generalizing cursor previous with
  | nil =>
    have hprevious := htaken.resolve_right fun h => h rfl
    have htrailing : trailingShare previous (Trivia.text tail) none =
        (Trivia.text tail).length := if_pos hprevious
    rw [lostFrom, lostShare, htrailing, Nat.sub_self, Nat.zero_sub]
  | cons item items ih =>
    rw [filter_diagnosticsFrom_cons, List.append_eq_nil_iff] at herrors
    cases hreading : item.lexeme.reading with
    | error fault =>
      rw [cursor.fault?_of_error hreading] at herrors
      cases herrors.1
    | ok kind =>
      have hleading : leadingShare previous item.text (some item.lexeme) =
          item.text.length - trailingShare previous item.text (some item.lexeme) :=
        if_pos (isToken_of_ok hreading)
      rw [lostFrom, lostShare, hleading, Nat.sub_self,
        ih (cursor.next item) (some item.lexeme) herrors.2 (.inl (isToken_of_ok hreading))]

/-- Every token owns the trivia that the rule gives to it, and the errors are the other literals. A
text in which nothing is wrong leaves no trivia over, unless it holds no literal. -/
theorem attribution_tokenize (source : String) (options : Options) :
    (tokenize source options).literals.map
        (fun token => (token.kind, token.content, token.leading, token.trailing)) =
      (Layout.ofText source.toList).attributed.filterMap (fun literal =>
        literal.reading.toOption.map (·, literal.content, literal.leading, literal.trailing)) ∧
    (tokenize source options).errors.map
        (fun diagnostic => (Except.error diagnostic.fault, diagnostic.span)) =
      ((Layout.ofText source.toList).attributed.filter (!·.reading.isOk)).map
        (fun literal => (literal.reading, literal.content)) ∧
    ((tokenize source options).literals.map fun token => token.leading + token.trailing).sum +
        (Layout.ofText source.toList).lost =
      triviaLength (pieces source.toList) ∧
    ((tokenize source options).errors = [] → (tokenize source options).literals ≠ [] →
      ((tokenize source options).literals.map fun token => token.leading + token.trailing).sum =
        triviaLength (pieces source.toList)) := by
  obtain ⟨items, tail, hlayout⟩ : ∃ items tail, Layout.ofText source.toList = ⟨items, tail⟩ :=
    ⟨_, _, rfl⟩
  have htotal : (((tokensFrom tail {} items).filter (!·.isIndentation)).map fun token =>
      token.leading + token.trailing).sum + lostFrom tail none items =
        triviaLength (pieces source.toList) := by
    have hsum := sum_attributedFrom tail items 0 none
    have hnone : trailingFrom tail none items = 0 := by
      cases items <;> rfl
    have hpieces := Layout.pieces_ofText source.toList
    rw [hlayout] at hpieces
    rw [hnone, Nat.zero_add, hpieces] at hsum
    rw [sum_filter_tokensFrom tail items {} none rfl]
    exact hsum
  rw [literals_of_layout options hlayout, errors_of_layout options hlayout, hlayout]
  refine ⟨?tokens, ?errors, htotal, ?total⟩
  case tokens => exact map_filter_tokensFrom_eq_attributed tail items {} none rfl
  case errors => exact map_filter_diagnosticsFrom_eq_attributed options tail items {} none
  case total =>
    intro hnone hsome
    have hitems : items ≠ [] := by
      rintro rfl
      exact hsome (filter_tokensFrom_nil tail {})
    rw [lostFrom_eq_zero options tail items {} none hnone (.inr hitems)] at htotal
    exact htotal

/-- The comment and the line feed belong to the token in front of them, and the blank behind to the
one that follows. -/
theorem attribution_two_lines :
    (tokenize "(# open\n )\n").literals.map (fun token => (token.leading, token.trailing)) =
      [(0, 7), (1, 1)] ∧
    ((tokenize "(# open\n )\n").literals.map fun token => token.leading + token.trailing).sum =
      triviaLength (pieces "(# open\n )\n".toList) :=
  ⟨by decide +kernel,
    (attribution_tokenize "(# open\n )\n" {}).2.2.2 (by decide +kernel) (by decide +kernel)⟩

end Offside
