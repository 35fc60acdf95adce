import Offside.Proofs.Literals

/-!
# How tokens and errors cover a text

The literals, with the trivia that belongs to them, come one behind the other and never overlap.
What they leave out is the trivia in front of a literal that cannot be read, and the trivia at the
end of a text behind such a literal or without any. If nothing is wrong, they fill the text.
-/

namespace Offside

namespace Span

def Covers (span : Span) (position : Nat) : Prop := span.start ≤ position ∧ position < span.stop

def Disjoint (first second : Span) : Prop :=
  ∀ position, ¬(first.Covers position ∧ second.Covers position)

/-- The spans lie end to end, from `start` to `stop`. -/
def Tile (start stop : Nat) : List Span → Prop
  | [] => start = stop
  | span :: rest => span.start = start ∧ Tile span.stop stop rest

end Span

namespace Findings

variable (findings : Findings)

def literalSpans : List Span := findings.literals.map (·.span)

def errorSpans : List Span := findings.errors.map (·.span)

end Findings

/-- Nothing but blanks and comments stands from `start` to `stop`. -/
def IsTriviaRun (parts : List (Piece × Span)) (start stop : Nat) : Prop :=
  ∀ position, start ≤ position → position < stop →
    ∃ part span, (Piece.trivia part, span) ∈ parts ∧ span.Covers position

/-! ### Where the trivia behind a literal ends -/

namespace Cursor

variable (cursor : Cursor) (item : Item) (items : List Item) (tail : List Trivia)

def bound : Nat := cursor.position + if cursor.owned then trailing tail items else 0

theorem bound_cons : cursor.bound (item :: items) tail = cursor.position + cursor.taken item.text :=
  rfl

theorem position_le_bound : cursor.position ≤ cursor.bound items tail := Nat.le_add_right _ _

theorem bound_cons_le_start : cursor.bound (item :: items) tail ≤ cursor.start item := by
  have hle := cursor.taken_le item.text
  rw [bound_cons, start]
  omega

theorem bound_cons_lt_bound_next :
    cursor.bound (item :: items) tail < (cursor.next item).bound items tail := by
  have hstart := cursor.bound_cons_le_start item items tail
  have hnext := cursor.start_lt_position_next item
  have hbound := (cursor.next item).position_le_bound items tail
  omega

variable {cursor item items tail}

theorem bound_next_of_error {fault : Fault} (h : item.lexeme.reading = .error fault) :
    (cursor.next item).bound items tail = (cursor.next item).position := by
  rw [bound, cursor.owned_next_of_error h]
  rfl

theorem bound_next_of_ok {kind : TokenKind} (h : item.lexeme.reading = .ok kind) :
    (cursor.next item).bound items tail = (cursor.next item).position + trailing tail items := by
  rw [bound, cursor.owned_next_of_ok h]
  rfl

end Cursor

def endFrom (tail : List Trivia) (cursor : Cursor) : List Item → Nat
  | [] => cursor.position + (Trivia.text tail).length
  | item :: items => endFrom tail (cursor.next item) items

theorem endFrom_eq (tail : List Trivia) (cursor : Cursor) (items : List Item) :
    endFrom tail cursor items =
      cursor.position + ((Layout.pieces ⟨items, tail⟩).flatMap Piece.chars).length := by
  induction items generalizing cursor with
  | nil =>
    have hpieces : Layout.pieces ⟨[], tail⟩ = tail.map .trivia := rfl
    rw [endFrom, hpieces, Layout.flatMap_chars_trivia]
  | cons item items ih =>
    have hnext : (cursor.next item).position =
        cursor.position + item.text.length + item.lexeme.length := rfl
    have hlexeme : item.lexeme.length = item.lexeme.chars.length := rfl
    rw [endFrom, ih, Layout.pieces_mk_cons, List.flatMap_append, Layout.flatMap_chars_itemPieces,
      List.length_append, List.length_append, hnext, hlexeme]
    omega

theorem bound_le_endFrom (tail : List Trivia) (cursor : Cursor) (items : List Item) :
    cursor.bound items tail ≤ endFrom tail cursor items := by
  induction items generalizing cursor with
  | nil =>
    have htrailing : trailing tail [] = (Trivia.text tail).length := rfl
    rw [Cursor.bound, endFrom, htrailing]
    split_ifs <;> omega
  | cons item items ih =>
    have hnext := cursor.bound_cons_lt_bound_next item items tail
    have hend := ih (cursor.next item)
    rw [endFrom]
    omega

/-! ### Every token in its place -/

structure Token.IsWithin (token : Token) (start stop : Nat) : Prop where
  start_le : start ≤ token.span.start
  ordered : token.span.start ≤ token.span.stop
  le_stop : token.span.stop ≤ stop
  trivia_le : token.leading + token.trailing ≤ token.span.length
  trivia_lt : token.isIndentation = false → token.leading + token.trailing < token.span.length

theorem Token.IsWithin.mono {token : Token} {start stop first last : Nat}
    (h : token.IsWithin start stop) (hfirst : first ≤ start) (hlast : stop ≤ last) :
    token.IsWithin first last :=
  ⟨hfirst.trans h.start_le, h.ordered, h.le_stop.trans hlast, h.trivia_le, h.trivia_lt⟩

theorem Token.IsWithin.stop_le_start {before after : Token} {start middle stop : Nat}
    (hbefore : before.IsWithin start middle) (hafter : after.IsWithin middle stop) :
    before.span.stop ≤ after.span.start :=
  hbefore.le_stop.trans hafter.start_le

theorem span_of_mem_levelTokens {previous current position : Nat} {token : Token}
    (h : token ∈ levelTokens previous current position) : token.span = ⟨position, position⟩ := by
  rw [List.eq_of_mem_replicate h]

theorem isWithin_of_mem_levelTokens {previous current position : Nat} {token : Token}
    (h : token ∈ levelTokens previous current position) : token.IsWithin position position := by
  have hindentation := isIndentation_of_mem_levelTokens h
  rw [List.eq_of_mem_replicate h] at hindentation ⊢
  refine ⟨Nat.le_refl _, Nat.le_refl _, Nat.le_refl _, Nat.zero_le _, ?_⟩
  intro hliteral
  rw [hliteral] at hindentation
  cases hindentation

namespace Cursor

variable {cursor : Cursor} {item : Item} {token : Token} {tail : List Trivia} {items : List Item}

theorem isWithin_of_mem_changes (items : List Item) (tail : List Trivia)
    (h : token ∈ cursor.changes item) :
    token.IsWithin (cursor.bound (item :: items) tail) (cursor.bound (item :: items) tail) := by
  unfold changes Indentation.Reading.tokens at h
  split at h
  · exact isWithin_of_mem_levelTokens h
  · cases h
  · cases h

theorem eq_of_mem_token? (h : token ∈ (cursor.token? item).map (·.extend (trailing tail items))) :
    ∃ kind, item.lexeme.reading = .ok kind ∧
      token = ⟨kind,
        ⟨cursor.bound (item :: items) tail, (cursor.next item).bound items tail⟩,
        cursor.leading item, trailing tail items⟩ := by
  obtain ⟨short, hshort, rfl⟩ := Option.map_eq_some_iff.1 h
  cases hreading : item.lexeme.reading with
  | error fault =>
    rw [cursor.token?_of_error hreading] at hshort
    cases hshort
  | ok kind =>
    rw [cursor.token?_of_ok hreading] at hshort
    cases hshort
    refine ⟨kind, rfl, ?_⟩
    rw [bound_next_of_ok hreading, Token.extend, Nat.zero_add]
    rfl

theorem isWithin_of_mem_token?
    (h : token ∈ (cursor.token? item).map (·.extend (trailing tail items))) :
    token.IsWithin (cursor.bound (item :: items) tail) ((cursor.next item).bound items tail) := by
  obtain ⟨kind, hreading, rfl⟩ := eq_of_mem_token? h
  have hbound := cursor.bound_cons_lt_bound_next item items tail
  have hlength : cursor.leading item + trailing tail items <
      (cursor.next item).bound items tail - cursor.bound (item :: items) tail := by
    have hstart := cursor.start_eq item
    have hnext := cursor.start_lt_position_next item
    rw [bound_next_of_ok hreading, bound_cons]
    omega
  exact ⟨Nat.le_refl _, Nat.le_of_lt hbound, Nat.le_refl _, Nat.le_of_lt hlength, fun _ => hlength⟩

end Cursor

theorem isWithin_tokensFrom (tail : List Trivia) (cursor : Cursor) (items : List Item) :
    ∀ token ∈ tokensFrom tail cursor items,
      token.IsWithin (cursor.bound items tail) (endFrom tail cursor items) := by
  induction items generalizing cursor with
  | nil =>
    intro token hmem
    have hbound := bound_le_endFrom tail cursor []
    exact (isWithin_of_mem_levelTokens hmem).mono hbound (Nat.le_refl _)
  | cons item items ih =>
    intro token hmem
    have hnext := cursor.bound_cons_lt_bound_next item items tail
    have hend := bound_le_endFrom tail (cursor.next item) items
    rw [tokensFrom, List.mem_append, List.mem_append, Option.mem_toList] at hmem
    rw [endFrom]
    obtain (hchange | htoken) | hrest := hmem
    · exact (Cursor.isWithin_of_mem_changes items tail hchange).mono (Nat.le_refl _) (by omega)
    · exact (Cursor.isWithin_of_mem_token? htoken).mono (Nat.le_refl _) hend
    · exact (ih (cursor.next item) token hrest).mono (Nat.le_of_lt hnext) (Nat.le_refl _)

theorem pairwise_tokensFrom (tail : List Trivia) (cursor : Cursor) (items : List Item) :
    (tokensFrom tail cursor items).Pairwise fun before after =>
      before.span.stop ≤ after.span.start := by
  -- What an item leads to ends at the bound of the next cursor, where everything behind it starts.
  induction items generalizing cursor with
  | nil =>
    apply List.pairwise_of_forall_mem_list
    intro before hbefore after hafter
    rw [span_of_mem_levelTokens hbefore, span_of_mem_levelTokens hafter]
  | cons item items ih =>
    have hnext := cursor.bound_cons_lt_bound_next item items tail
    have hchange : ∀ change ∈ cursor.changes item, change.IsWithin
        (cursor.bound (item :: items) tail) (cursor.bound (item :: items) tail) :=
      fun _ => Cursor.isWithin_of_mem_changes items tail
    have hrest := isWithin_tokensFrom tail (cursor.next item) items
    rw [tokensFrom, List.pairwise_append, List.pairwise_append]
    refine ⟨⟨?changes, ?token, ?between⟩, ih (cursor.next item), ?rest⟩
    case changes =>
      apply List.pairwise_of_forall_mem_list
      intro before hbefore after hafter
      exact (hchange before hbefore).stop_le_start (hchange after hafter)
    case token =>
      cases (cursor.token? item).map (·.extend (trailing tail items)) with
      | none => exact List.Pairwise.nil
      | some token => exact List.pairwise_singleton _ token
    case between =>
      intro before hbefore after hafter
      exact (hchange before hbefore).stop_le_start
        (Cursor.isWithin_of_mem_token? (Option.mem_toList.1 hafter))
    case rest =>
      intro before hbefore after hafter
      rcases List.mem_append.1 hbefore with hmem | hmem
      · exact ((hchange before hmem).mono (Nat.le_refl _) (Nat.le_of_lt hnext)).stop_le_start
          (hrest after hafter)
      · exact (Cursor.isWithin_of_mem_token? (Option.mem_toList.1 hmem)).stop_le_start
          (hrest after hafter)

/-! ### Tokens and errors together -/

def Cursor.covered (cursor : Cursor) (item : Item) (items : List Item) (tail : List Trivia) :
    Span :=
  ⟨if item.lexeme.reading.isOk then cursor.bound (item :: items) tail else cursor.start item,
    (cursor.next item).bound items tail⟩

def coveredFrom (tail : List Trivia) (cursor : Cursor) : List Item → List Span
  | [] => []
  | item :: items => cursor.covered item items tail :: coveredFrom tail (cursor.next item) items

namespace Cursor

variable {cursor : Cursor} {item : Item} {items : List Item} {tail : List Trivia}

theorem covered_of_ok {kind : TokenKind} (h : item.lexeme.reading = .ok kind) :
    cursor.covered item items tail =
      ⟨cursor.bound (item :: items) tail, (cursor.next item).bound items tail⟩ := by
  rw [covered, h]
  rfl

theorem covered_of_error {fault : Fault} (h : item.lexeme.reading = .error fault) :
    cursor.covered item items tail = ⟨cursor.start item, (cursor.next item).position⟩ := by
  rw [covered, bound_next_of_error h, h]
  rfl

end Cursor

section Covered

variable (options : Options) (tail : List Trivia) (cursor : Cursor) (items : List Item)

def literalSpansFrom : List Span :=
  ((tokensFrom tail cursor items).filter (!·.isIndentation)).map (·.span)

def errorSpansFrom : List Span :=
  ((diagnosticsFrom options cursor items).filter (·.isError)).map (·.span)

variable {tail cursor} {item : Item}

theorem literalSpansFrom_of_ok {kind : TokenKind} (h : item.lexeme.reading = .ok kind) :
    literalSpansFrom tail cursor (item :: items) =
      cursor.covered item items tail :: literalSpansFrom tail (cursor.next item) items := by
  unfold literalSpansFrom
  rw [filter_tokensFrom_cons, cursor.token?_of_ok h, Cursor.covered_of_ok h,
    Cursor.bound_next_of_ok h]
  rfl

theorem literalSpansFrom_of_error {fault : Fault} (h : item.lexeme.reading = .error fault) :
    literalSpansFrom tail cursor (item :: items) =
      literalSpansFrom tail (cursor.next item) items := by
  unfold literalSpansFrom
  rw [filter_tokensFrom_cons, cursor.token?_of_error h]
  rfl

theorem errorSpansFrom_of_ok {kind : TokenKind} (h : item.lexeme.reading = .ok kind) :
    errorSpansFrom options cursor (item :: items) =
      errorSpansFrom options (cursor.next item) items := by
  unfold errorSpansFrom
  rw [filter_diagnosticsFrom_cons, cursor.fault?_of_ok h]
  rfl

theorem errorSpansFrom_of_error {fault : Fault} (h : item.lexeme.reading = .error fault) :
    errorSpansFrom options cursor (item :: items) =
      cursor.covered item items tail :: errorSpansFrom options (cursor.next item) items := by
  unfold errorSpansFrom
  rw [filter_diagnosticsFrom_cons, cursor.fault?_of_error h, Cursor.covered_of_error h]
  rfl

theorem errorSpansFrom_subset (item : Item) (cursor : Cursor) :
    errorSpansFrom options (cursor.next item) items ⊆
      errorSpansFrom options cursor (item :: items) := by
  intro span hmem
  unfold errorSpansFrom at hmem ⊢
  rw [filter_diagnosticsFrom_cons, List.map_append]
  exact List.mem_append_right _ hmem

theorem perm_coveredFrom (cursor : Cursor) :
    (literalSpansFrom tail cursor items ++ errorSpansFrom options cursor items).Perm
      (coveredFrom tail cursor items) := by
  induction items generalizing cursor with
  | nil =>
    unfold literalSpansFrom
    rw [filter_tokensFrom_nil]
    exact List.Perm.refl _
  | cons item items ih =>
    rw [coveredFrom]
    cases hreading : item.lexeme.reading with
    | ok kind =>
      rw [literalSpansFrom_of_ok items hreading, errorSpansFrom_of_ok options items hreading]
      exact (ih (cursor.next item)).cons _
    | error fault =>
      rw [literalSpansFrom_of_error items hreading, errorSpansFrom_of_error options items hreading]
      exact List.perm_middle.trans ((ih (cursor.next item)).cons _)

theorem bound_le_start_of_mem_coveredFrom (cursor : Cursor) :
    ∀ span ∈ coveredFrom tail cursor items, cursor.bound items tail ≤ span.start := by
  induction items generalizing cursor with
  | nil =>
    intro span hmem
    cases hmem
  | cons item items ih =>
    intro span hmem
    have hstart := cursor.bound_cons_le_start item items tail
    have hnext := cursor.bound_cons_lt_bound_next item items tail
    rcases List.mem_cons.1 hmem with rfl | hrest
    · unfold Cursor.covered
      split_ifs
      · exact Nat.le_refl _
      · exact hstart
    · have hle := ih (cursor.next item) span hrest
      omega

theorem pairwise_coveredFrom (cursor : Cursor) :
    (coveredFrom tail cursor items).Pairwise fun before after => before.stop ≤ after.start := by
  induction items generalizing cursor with
  | nil => exact List.Pairwise.nil
  | cons item items ih =>
    rw [coveredFrom, List.pairwise_cons]
    exact ⟨bound_le_start_of_mem_coveredFrom items (cursor.next item), ih (cursor.next item)⟩

end Covered

/-! ### What is left out -/

theorem exists_placed_of_lt {gap : List Trivia} {start position : Nat} (hlow : start ≤ position)
    (hhigh : position < start + (Trivia.text gap).length) :
    ∃ part span, (Piece.trivia part, span) ∈ placed start (gap.map .trivia) ∧
      span.Covers position := by
  induction gap generalizing start with
  | nil =>
    have hlength : (Trivia.text []).length = 0 := rfl
    omega
  | cons part rest ih =>
    have hlength := Trivia.length_text_cons part rest
    rw [List.map_cons, placed]
    by_cases hfirst : position < start + (Piece.trivia part).length
    · exact ⟨part, _, List.mem_cons_self, hlow, hfirst⟩
    · have hlater : start + (Piece.trivia part).length ≤ position := by
        omega
      have hbefore : position <
          start + (Piece.trivia part).length + (Trivia.text rest).length := by
        omega
      obtain ⟨other, span, hmem, hcovers⟩ := ih hlater hbefore
      exact ⟨other, span, List.mem_cons_of_mem _ hmem, hcovers⟩

theorem IsTriviaRun.mono {parts others : List (Piece × Span)} {start stop : Nat}
    (h : IsTriviaRun parts start stop) (hsubset : parts ⊆ others) :
    IsTriviaRun others start stop := by
  intro position hlow hhigh
  obtain ⟨part, span, hmem, hcovers⟩ := h position hlow hhigh
  exact ⟨part, span, hsubset hmem, hcovers⟩

theorem isTriviaRun_gap {gap : List Trivia} {start position : Nat} (h : start ≤ position) :
    IsTriviaRun (placed start (gap.map .trivia)) position
      (start + (Trivia.text gap).length) := by
  intro other hlow hhigh
  exact exists_placed_of_lt (h.trans hlow) hhigh

/-- The position lies in a run of trivia that ends where a literal fails, or at the end of the text,
either behind a literal that fails or behind the cursor where nothing follows. -/
def LeavesOut (options : Options) (tail : List Trivia) (items : List Item) (cursor : Cursor)
    (position : Nat) : Prop :=
  ∃ start stop, start ≤ position ∧ position < stop ∧ stop ≤ endFrom tail cursor items ∧
    IsTriviaRun (placed cursor.position (Layout.pieces ⟨items, tail⟩)) start stop ∧
    ((∃ error ∈ errorSpansFrom options cursor items, error.start = stop) ∨
      stop = endFrom tail cursor items ∧
        ((∃ error ∈ errorSpansFrom options cursor items, error.stop = start) ∨
          start = cursor.position ∧ cursor.owned = false ∧ items = []))

section LeavesOut

variable (options : Options) {tail : List Trivia} {items : List Item} {item : Item}
  {cursor : Cursor} {position : Nat}

theorem leavesOut_nil (hlow : cursor.bound [] tail ≤ position)
    (hhigh : position < endFrom tail cursor []) : LeavesOut options tail [] cursor position := by
  have hposition := cursor.position_le_bound [] tail
  have howned : cursor.owned = false := by
    by_contra h
    have hbound : cursor.bound [] tail = endFrom tail cursor [] := by
      rw [Cursor.bound, if_pos (by simpa using h)]
      rfl
    omega
  exact ⟨cursor.position, endFrom tail cursor [], hposition.trans hlow, hhigh, Nat.le_refl _,
    isTriviaRun_gap (Nat.le_refl _), .inr ⟨rfl, .inr ⟨rfl, howned, rfl⟩⟩⟩

theorem mem_errorSpansFrom_of_error {fault : Fault} (h : item.lexeme.reading = .error fault) :
    (⟨cursor.start item, (cursor.next item).position⟩ : Span) ∈
      errorSpansFrom options cursor (item :: items) := by
  unfold errorSpansFrom
  rw [filter_diagnosticsFrom_cons, cursor.fault?_of_error h]
  exact List.mem_cons_self

theorem leavesOut_gap (hlow : cursor.bound (item :: items) tail ≤ position)
    (hhigh : position < (cursor.next item).bound items tail)
    (hout : ¬(cursor.covered item items tail).Covers position) :
    LeavesOut options tail (item :: items) cursor position := by
  cases hreading : item.lexeme.reading with
  | ok kind =>
    rw [Cursor.covered_of_ok hreading] at hout
    exact absurd ⟨hlow, hhigh⟩ hout
  | error fault =>
    rw [Cursor.covered_of_error hreading] at hout
    rw [Cursor.bound_next_of_error hreading] at hhigh
    have hgap : position < cursor.start item := by
      by_contra hge
      exact hout ⟨Nat.le_of_not_lt hge, hhigh⟩
    have hend : cursor.start item ≤ endFrom tail cursor (item :: items) := by
      have hbound := bound_le_endFrom tail (cursor.next item) items
      have hstart := cursor.start_lt_position_next item
      have hnext := (cursor.next item).position_le_bound items tail
      rw [endFrom]
      omega
    have hposition := cursor.position_le_bound (item :: items) tail
    have hrun : IsTriviaRun (placed cursor.position (item.gap.map .trivia)) position
        (cursor.start item) := isTriviaRun_gap (hposition.trans hlow)
    have hsubset : placed cursor.position (item.gap.map .trivia) ⊆
        placed cursor.position (Layout.pieces ⟨item :: items, tail⟩) := by
      rw [Layout.placed_mk_cons]
      exact List.subset_append_left _ _
    exact ⟨position, cursor.start item, Nat.le_refl _, hgap, hend, hrun.mono hsubset,
      .inl ⟨_, mem_errorSpansFrom_of_error options hreading, rfl⟩⟩

theorem LeavesOut.of_next (h : LeavesOut options tail items (cursor.next item) position) :
    LeavesOut options tail (item :: items) cursor position := by
  obtain ⟨start, stop, hstart, hstop, hend, hrun, hreason⟩ := h
  have herrors := errorSpansFrom_subset options items item cursor
  have hsubset : placed (cursor.next item).position (Layout.pieces ⟨items, tail⟩) ⊆
      placed cursor.position (Layout.pieces ⟨item :: items, tail⟩) := by
    intro part hmem
    rw [Layout.placed_mk_cons]
    exact List.mem_append_right _ (List.mem_cons_of_mem _ hmem)
  refine ⟨start, stop, hstart, hstop, hend, hrun.mono hsubset, ?_⟩
  obtain ⟨error, hmem, herror⟩ | ⟨hlast, ⟨error, hmem, herror⟩ | ⟨hfirst, howned, -⟩⟩ := hreason
  · exact .inl ⟨error, herrors hmem, herror⟩
  · exact .inr ⟨hlast, .inl ⟨error, herrors hmem, herror⟩⟩
  · cases hreading : item.lexeme.reading with
    | ok kind =>
      rw [cursor.owned_next_of_ok hreading] at howned
      cases howned
    | error fault =>
      exact .inr ⟨hlast, .inl ⟨_, mem_errorSpansFrom_of_error options hreading, hfirst.symm⟩⟩

end LeavesOut

theorem leavesOut_of_not_covered (options : Options) {tail : List Trivia} (items : List Item)
    (cursor : Cursor) {position : Nat} (hlow : cursor.bound items tail ≤ position)
    (hhigh : position < endFrom tail cursor items)
    (hout : ∀ span ∈ coveredFrom tail cursor items, ¬span.Covers position) :
    LeavesOut options tail items cursor position := by
  induction items generalizing cursor with
  | nil => exact leavesOut_nil options hlow hhigh
  | cons item items ih =>
    obtain ⟨hhere, hlater⟩ := List.forall_mem_cons.1 hout
    by_cases hnext : (cursor.next item).bound items tail ≤ position
    · exact (ih (cursor.next item) hnext hhigh hlater).of_next
    · -- The position lies in front of what the next literal covers, or in it.
      exact leavesOut_gap options hlow (Nat.lt_of_not_le hnext) hhere

/-! ### A text without errors -/

theorem tile_literalSpansFrom (options : Options) {tail : List Trivia} (items : List Item)
    (cursor : Cursor) (herrors : errorSpansFrom options cursor items = [])
    (htaken : cursor.owned = true ∨ items ≠ []) :
    Span.Tile (cursor.bound items tail) (endFrom tail cursor items)
      (literalSpansFrom tail cursor items) := by
  induction items generalizing cursor with
  | nil =>
    have howned : cursor.owned = true := htaken.resolve_right fun h => h rfl
    have hbound : cursor.bound [] tail = endFrom tail cursor [] := by
      rw [Cursor.bound, howned]
      rfl
    unfold literalSpansFrom
    rw [filter_tokensFrom_nil]
    exact hbound
  | cons item items ih =>
    cases hreading : item.lexeme.reading with
    | error fault =>
      have hcons : errorSpansFrom options cursor (item :: items) =
          cursor.covered item items tail :: errorSpansFrom options (cursor.next item) items :=
        errorSpansFrom_of_error options items hreading
      rw [herrors] at hcons
      cases hcons
    | ok kind =>
      rw [errorSpansFrom_of_ok options items hreading] at herrors
      rw [literalSpansFrom_of_ok items hreading, Cursor.covered_of_ok hreading]
      exact ⟨rfl, ih (cursor.next item) herrors (.inl (cursor.owned_next_of_ok hreading))⟩

/-! ### The spans of a pass -/

/-- The spans of tokens and errors, as they lie in the text. -/
structure Findings.SpansFit (findings : Findings) (text : List Char) : Prop where
  within : ∀ token ∈ findings.tokens, token.IsWithin 0 text.length
  ordered : findings.tokens.Pairwise fun before after => before.span.stop ≤ after.span.start
  disjoint : (findings.literalSpans ++ findings.errorSpans).Pairwise Span.Disjoint
  /-- What no literal covers is trivia that ends where a literal fails, or at the end of the text,
  behind a literal that fails or where there is none at all. -/
  uncovered : ∀ position < text.length,
    (∀ span ∈ findings.literalSpans ++ findings.errorSpans, ¬span.Covers position) →
      ∃ start stop, start ≤ position ∧ position < stop ∧ stop ≤ text.length ∧
        IsTriviaRun (placed 0 (pieces text)) start stop ∧
        ((∃ error ∈ findings.errorSpans, error.start = stop) ∨
          stop = text.length ∧
            ((∃ error ∈ findings.errorSpans, error.stop = start) ∨
              findings.literalSpans ++ findings.errorSpans = []))
  tile : findings.errorSpans = [] → findings.literalSpans ≠ [] →
    Span.Tile 0 text.length findings.literalSpans

theorem Span.Disjoint.of_stop_le_start {first second : Span} (h : first.stop ≤ second.start) :
    first.Disjoint second := by
  rintro position ⟨⟨-, hfirst⟩, hsecond, -⟩
  omega

theorem Span.Disjoint.symm {first second : Span} (h : first.Disjoint second) :
    second.Disjoint first :=
  fun position hboth => h position hboth.symm

/-- Tokens and errors cover what the literals of the text cover. -/
theorem perm_spans_of_layout (options : Options) {source : String} {items : List Item}
    {tail : List Trivia} (hlayout : Layout.ofText source.toList = ⟨items, tail⟩) :
    ((tokenize source options).literalSpans ++ (tokenize source options).errorSpans).Perm
      (coveredFrom tail {} items) := by
  rw [Findings.literalSpans, literals_of_layout options hlayout, Findings.errorSpans,
    errors_of_layout options hlayout]
  exact perm_coveredFrom options items {}

/-- The spans that a pass finds fit the text, whatever is wrong with it. -/
theorem spansFit_tokenize (source : String) (options : Options) :
    (tokenize source options).SpansFit source.toList := by
  obtain ⟨items, tail, hlayout⟩ : ∃ items tail, Layout.ofText source.toList = ⟨items, tail⟩ :=
    ⟨_, _, rfl⟩
  have htokens : (tokenize source options).tokens = tokensFrom tail {} items := by
    rw [tokens_tokenize, hlayout]
    rfl
  have hliterals : (tokenize source options).literalSpans = literalSpansFrom tail {} items := by
    rw [Findings.literalSpans, literals_of_layout options hlayout]
    rfl
  have herrors : (tokenize source options).errorSpans = errorSpansFrom options {} items := by
    rw [Findings.errorSpans, errors_of_layout options hlayout]
    rfl
  have hpieces : Layout.pieces ⟨items, tail⟩ = pieces source.toList := by
    rw [← hlayout, Layout.pieces_ofText]
  have hend : endFrom tail {} items = source.toList.length := by
    rw [endFrom_eq, hpieces, flatMap_chars_pieces]
    exact Nat.zero_add _
  have hperm : ((tokenize source options).literalSpans ++
      (tokenize source options).errorSpans).Perm (coveredFrom tail {} items) := by
    rw [hliterals, herrors]
    exact perm_coveredFrom options items {}
  refine ⟨?within, ?ordered, ?disjoint, ?uncovered, ?tile⟩
  case within =>
    rw [htokens, ← hend]
    exact isWithin_tokensFrom tail {} items
  case ordered =>
    rw [htokens]
    exact pairwise_tokensFrom tail {} items
  case disjoint =>
    rw [hperm.pairwise_iff Span.Disjoint.symm]
    exact (pairwise_coveredFrom items {}).imp Span.Disjoint.of_stop_le_start
  case uncovered =>
    intro position hposition hout
    rw [← hend] at hposition
    obtain ⟨start, stop, hstart, hstop, hle, hrun, hreason⟩ :=
      leavesOut_of_not_covered options items {} (Nat.zero_le _) hposition
        fun span hmem => hout span (hperm.mem_iff.2 hmem)
    rw [hend] at hle hreason
    rw [hpieces] at hrun
    rw [← herrors] at hreason
    refine ⟨start, stop, hstart, hstop, hle, hrun, hreason.imp_right ?_⟩
    rintro ⟨hlast, herror | ⟨-, -, rfl⟩⟩
    · exact ⟨hlast, .inl herror⟩
    · exact ⟨hlast, .inr hperm.eq_nil⟩
  case tile =>
    intro hnone hsome
    rw [herrors] at hnone
    rw [hliterals] at hsome ⊢
    rw [← hend]
    apply tile_literalSpansFrom options items {} hnone
    refine .inr ?_
    rintro rfl
    apply hsome
    unfold literalSpansFrom
    rw [filter_tokensFrom_nil]
    rfl

/-- Two literals and the trivia of both make up a text. -/
theorem tile_two_literals : (tokenize "( # open\n a\n").literalSpans = [⟨0, 9⟩, ⟨9, 12⟩] ∧
    Span.Tile 0 12 (tokenize "( # open\n a\n").literalSpans :=
  ⟨by decide +kernel, (spansFit_tokenize "( # open\n a\n" {}).tile (by decide +kernel)
    (by decide +kernel)⟩

end Offside
