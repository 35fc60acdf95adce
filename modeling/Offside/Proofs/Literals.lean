import Offside.Proofs.Layout.Pass

/-!
# The literals of a text

The tokens that are no change of indentation are the literals that can be read, and the errors are
the literals that cannot, each where it stands in the text.
-/

namespace Offside

namespace Findings

variable (findings : Findings)

/-- The tokens that are no changes of indentation. -/
def literals : List Token := findings.tokens.filter (!·.isIndentation)

/-- The diagnostics that are no warnings, one for each literal that cannot be read. -/
def errors : List Diagnostic := findings.diagnostics.filter (·.isError)

end Findings

namespace Cursor

variable {cursor : Cursor} {item : Item} {token : Token}

theorem isIndentation_of_mem_token? (h : token ∈ cursor.token? item) :
    token.isIndentation = false := by
  cases hreading : item.lexeme.reading with
  | ok kind =>
    rw [cursor.token?_of_ok hreading] at h
    cases h
    exact Lexeme.isIndentation_of_reading hreading _ _ _
  | error fault =>
    rw [cursor.token?_of_error hreading] at h
    cases h

theorem filter_changes : (cursor.changes item).filter (!·.isIndentation) = [] := by
  rw [List.filter_eq_nil_iff]
  intro token hmem
  simp [cursor.isIndentation_of_mem_changes item hmem]

theorem filter_warnings (options : Options) :
    (cursor.warnings item options).filter (·.isError) = [] := by
  unfold warnings Indentation.Reading.diagnostics
  split
  · split_ifs
    · rfl
    · rfl
  · rfl
  · rfl

theorem isError_of_mem_warnings {options : Options} {diagnostic : Diagnostic}
    (h : diagnostic ∈ cursor.warnings item options) : diagnostic.isError = false := by
  have hnone := List.filter_eq_nil_iff.1 (filter_warnings options) diagnostic h
  simpa using hnone

theorem isError_of_mem_fault? {diagnostic : Diagnostic} (h : diagnostic ∈ cursor.fault? item) :
    diagnostic.isError = true := by
  cases hreading : item.lexeme.reading with
  | ok kind =>
    rw [cursor.fault?_of_ok hreading] at h
    cases h
  | error fault =>
    rw [cursor.fault?_of_error hreading] at h
    cases h
    simp [Diagnostic.isError, Diagnostic.severity, Lexeme.severity_of_reading hreading]

end Cursor

theorem filter_tokensFrom_nil (tail : List Trivia) (cursor : Cursor) :
    (tokensFrom tail cursor []).filter (!·.isIndentation) = [] := by
  rw [List.filter_eq_nil_iff]
  intro token hmem
  simp [isIndentation_of_mem_levelTokens hmem]

theorem filter_tokensFrom_cons (tail : List Trivia) (cursor : Cursor) (item : Item)
    (items : List Item) :
    (tokensFrom tail cursor (item :: items)).filter (!·.isIndentation) =
      ((cursor.token? item).map (·.extend (trailing tail items))).toList ++
        (tokensFrom tail (cursor.next item) items).filter (!·.isIndentation) := by
  have hliteral : (((cursor.token? item).map (·.extend (trailing tail items))).toList).filter
      (!·.isIndentation) = ((cursor.token? item).map (·.extend (trailing tail items))).toList := by
    rw [List.filter_eq_self]
    intro token hmem
    obtain ⟨short, hshort, rfl⟩ := Option.map_eq_some_iff.1 (Option.mem_toList.1 hmem)
    rw [short.isIndentation_extend, Cursor.isIndentation_of_mem_token? hshort]
    rfl
  rw [tokensFrom, List.filter_append, List.filter_append, Cursor.filter_changes, hliteral,
    List.nil_append]

theorem filter_diagnosticsFrom_cons (options : Options) (cursor : Cursor) (item : Item)
    (items : List Item) :
    (diagnosticsFrom options cursor (item :: items)).filter (·.isError) =
      (cursor.fault? item).toList ++
        (diagnosticsFrom options (cursor.next item) items).filter (·.isError) := by
  have herror : ((cursor.fault? item).toList).filter (·.isError) = (cursor.fault? item).toList := by
    rw [List.filter_eq_self]
    intro diagnostic hmem
    exact Cursor.isError_of_mem_fault? (Option.mem_toList.1 hmem)
  rw [diagnosticsFrom, List.filter_append, List.filter_append, Cursor.filter_warnings, herror,
    List.nil_append]

section Layout

variable {source : String} {items : List Item} {tail : List Trivia}

theorem literals_of_layout (options : Options) (h : Layout.ofText source.toList = ⟨items, tail⟩) :
    (tokenize source options).literals =
      (tokensFrom tail {} items).filter (!·.isIndentation) := by
  rw [Findings.literals, tokens_tokenize, h]
  rfl

theorem errors_of_layout (options : Options) (h : Layout.ofText source.toList = ⟨items, tail⟩) :
    (tokenize source options).errors =
      (diagnosticsFrom options {} items).filter (·.isError) := by
  rw [Findings.errors, diagnostics_tokenize, h]
  rfl

end Layout

/-! ### Literals and pieces -/

theorem filterMap_placed_trivia {β : Type} {select : Piece × Span → Option β}
    (hselect : ∀ part span, select (.trivia part, span) = none) (position : Nat)
    (gap : List Trivia) : (placed position (gap.map .trivia)).filterMap select = [] := by
  induction gap generalizing position with
  | nil => rfl
  | cons part rest ih =>
    rw [List.map_cons, placed, List.filterMap_cons_none (hselect _ _), ih]

theorem filterMap_placed_cons {β : Type} {select : Piece × Span → Option β}
    (hselect : ∀ part span, select (.trivia part, span) = none) (cursor : Cursor) (item : Item)
    (items : List Item) (tail : List Trivia) :
    (placed cursor.position (Layout.pieces ⟨item :: items, tail⟩)).filterMap select =
      (select (.lexeme item.lexeme, ⟨cursor.start item, (cursor.next item).position⟩)).toList ++
        (placed (cursor.next item).position (Layout.pieces ⟨items, tail⟩)).filterMap select := by
  have hstart : cursor.position + item.text.length = cursor.start item := rfl
  have hnext : cursor.start item + item.lexeme.length = (cursor.next item).position := rfl
  rw [Layout.placed_mk_cons, List.filterMap_append, filterMap_placed_trivia hselect,
    List.nil_append, List.filterMap_cons, hstart, hnext]
  cases select (.lexeme item.lexeme, ⟨cursor.start item, (cursor.next item).position⟩) <;> rfl

theorem map_token?_eq (cursor : Cursor) (item : Item) (count : Nat) :
    (((cursor.token? item).map (·.extend count)).toList).map
        (fun token => (token.kind, token.content)) =
      (((Piece.lexeme item.lexeme).kind?).map
        (·, (⟨cursor.start item, (cursor.next item).position⟩ : Span))).toList := by
  have hstart := cursor.start_eq item
  cases hreading : item.lexeme.reading with
  | error fault =>
    rw [cursor.token?_of_error hreading, Piece.kind?_of_error hreading]
    rfl
  | ok kind =>
    rw [cursor.token?_of_ok hreading, Piece.kind?_of_ok hreading, Option.map_some,
      Option.toList_some, List.map_singleton, Token.content_extend, Token.content, hstart]
    rfl

theorem map_fault?_eq (cursor : Cursor) (item : Item) :
    ((cursor.fault? item).toList).map (fun diagnostic => (diagnostic.fault, diagnostic.span)) =
      (((Piece.lexeme item.lexeme).fault?).map
        (·, (⟨cursor.start item, (cursor.next item).position⟩ : Span))).toList := by
  cases hreading : item.lexeme.reading with
  | error fault =>
    rw [cursor.fault?_of_error hreading, Piece.fault?_of_error hreading]
    rfl
  | ok kind =>
    rw [cursor.fault?_of_ok hreading, Piece.fault?_of_ok hreading]
    rfl

theorem map_filter_tokensFrom (tail : List Trivia) (cursor : Cursor) (items : List Item) :
    ((tokensFrom tail cursor items).filter (!·.isIndentation)).map
        (fun token => (token.kind, token.content)) =
      (placed cursor.position (Layout.pieces ⟨items, tail⟩)).filterMap
        fun (piece, span) => piece.kind?.map (·, span) := by
  induction items generalizing cursor with
  | nil =>
    rw [filter_tokensFrom_nil]
    exact (filterMap_placed_trivia (fun _ _ => rfl) _ tail).symm
  | cons item items ih =>
    rw [filter_tokensFrom_cons, List.map_append, ih, map_token?_eq,
      filterMap_placed_cons fun _ _ => rfl]

theorem map_filter_diagnosticsFrom (options : Options) (tail : List Trivia) (cursor : Cursor)
    (items : List Item) :
    ((diagnosticsFrom options cursor items).filter (·.isError)).map
        (fun diagnostic => (diagnostic.fault, diagnostic.span)) =
      (placed cursor.position (Layout.pieces ⟨items, tail⟩)).filterMap
        fun (piece, span) => piece.fault?.map (·, span) := by
  induction items generalizing cursor with
  | nil => exact (filterMap_placed_trivia (fun _ _ => rfl) _ tail).symm
  | cons item items ih =>
    rw [filter_diagnosticsFrom_cons, List.map_append, ih, map_fault?_eq,
      filterMap_placed_cons fun _ _ => rfl]

/-- The literals that a pass finds are those of the pieces of the text: the tokens are the ones that
can be read, and the errors are the others, each with the span of its piece. -/
theorem literals_tokenize (source : String) (options : Options) :
    ((tokenize source options).literals.map fun token => (token.kind, token.content)) =
      ((placed 0 (pieces source.toList)).filterMap
        fun (piece, span) => piece.kind?.map (·, span)) ∧
    ((tokenize source options).errors.map fun diagnostic => (diagnostic.fault, diagnostic.span)) =
      ((placed 0 (pieces source.toList)).filterMap
        fun (piece, span) => piece.fault?.map (·, span)) := by
  obtain ⟨items, tail, hlayout⟩ : ∃ items tail, Layout.ofText source.toList = ⟨items, tail⟩ :=
    ⟨_, _, rfl⟩
  rw [literals_of_layout options hlayout, errors_of_layout options hlayout,
    ← Layout.pieces_ofText, hlayout]
  constructor
  · exact map_filter_tokensFrom tail {} items
  · exact map_filter_diagnosticsFrom options tail {} items

end Offside
