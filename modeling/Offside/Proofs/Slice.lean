import Offside.Proofs.Outline
import Offside.Proofs.Spans

/-!
# A token on its own

The characters that a token covers make up a text of their own. In it the token is found again, with
the same trivia around the same literal, and nothing else.
-/

namespace Offside

def Span.slice (span : Span) (text : List Char) : List Char :=
  (text.drop span.start).take span.length

theorem Span.slice_append {span : Span} {first middle : List Char} (last : List Char)
    (hstart : span.start = first.length) (hstop : span.stop = first.length + middle.length) :
    span.slice (first ++ (middle ++ last)) = middle := by
  have hlength : span.length = middle.length := by
    rw [length, hstart, hstop, Nat.add_sub_cancel_left]
  rw [slice, hstart, hlength, List.drop_left, List.take_left]

theorem Trivia.exists_line {gap : List Trivia} (hgap : ∀ part ∈ gap, part.IsValid) :
    ∃ line rest, gap = line ++ rest ∧ (text line).length = Text.lineLength (text gap) ∧
      (rest ≠ [] → (text line).getLast? = some '\n') := by
  induction gap with
  | nil => exact ⟨[], [], rfl, rfl, fun h => absurd rfl h⟩
  | cons part others ih =>
    obtain ⟨hpart, hothers⟩ := List.forall_mem_cons.1 hgap
    by_cases hfeed : part = .blank '\n'
    · subst hfeed
      exact ⟨[.blank '\n'], others, rfl, rfl, fun _ => rfl⟩
    · obtain ⟨line, rest, rfl, hlength, hlast⟩ := ih hothers
      refine ⟨part :: line, rest, rfl, ?_, ?_⟩
      · rw [text_cons, text_cons, Text.lineLength_append (not_mem_chars hpart hfeed),
          List.length_append, hlength]
      · intro hrest
        rw [text_cons, List.getLast?_append, hlast hrest]
        rfl

theorem Cursor.exists_taken (cursor : Cursor) {gap : List Trivia}
    (hgap : ∀ part ∈ gap, part.IsValid) :
    ∃ others own, gap = others ++ own ∧
      (Trivia.text others).length = cursor.taken (Trivia.text gap) := by
  unfold taken
  split_ifs
  · obtain ⟨line, rest, hsplit, hlength, -⟩ := Trivia.exists_line hgap
    exact ⟨line, rest, hsplit, hlength⟩
  · exact ⟨[], gap, rfl, rfl⟩

/-- What stands behind a literal starts with the trivia that it owns if it is a token. No line break
is torn apart where that trivia ends. -/
theorem exists_trailing {tail : List Trivia} {items : List Item}
    (h : Layout.IsValid ⟨items, tail⟩) :
    ∃ own rest, Layout.pieces ⟨items, tail⟩ = own.map .trivia ++ rest ∧
      (Trivia.text own).length = trailing tail items ∧
      ((Piece.text rest).head? = some '\n' → (Trivia.text own).getLast? = some '\n') := by
  cases items with
  | nil => exact ⟨tail, [], (List.append_nil _).symm, rfl, fun h => nomatch h⟩
  | cons item items =>
    obtain ⟨hitem, -⟩ := List.forall_mem_cons.1 h.items
    obtain ⟨line, rest, hgap, hlength, hlast⟩ := Trivia.exists_line hitem.gap
    refine ⟨line, rest.map .trivia ++ .lexeme item.lexeme :: Layout.pieces ⟨items, tail⟩, ?_,
      hlength, ?_⟩
    · rw [Layout.pieces_mk_cons, Layout.itemPieces, hgap, List.map_append]
      simp only [List.append_assoc, List.singleton_append]
    · -- A literal starts with no line feed, so one that comes next is still in the gap.
      intro hhead
      apply hlast
      rintro rfl
      obtain ⟨c, others, hchars, hspace, -⟩ := hitem.lexeme
      have hfirst : (Piece.text (.lexeme item.lexeme :: Layout.pieces ⟨items, tail⟩)).head? =
          some c := by
        rw [Piece.text, List.flatMap_cons, Piece.chars, hchars]
        rfl
      rw [List.map_nil, List.nil_append, hfirst, Option.some_inj] at hhead
      rw [hhead] at hspace
      cases hspace

theorem exists_item_of_mem_tokensFrom {tail : List Trivia} {cursor : Cursor} {items : List Item}
    {token : Token} (h : token ∈ tokensFrom tail cursor items)
    (hliteral : token.isIndentation = false) :
    ∃ before item after, items = before ++ item :: after ∧
      token ∈ ((cursor.behind before).token? item).map (·.extend (trailing tail after)) := by
  induction items generalizing cursor with
  | nil =>
    rw [isIndentation_of_mem_levelTokens h] at hliteral
    cases hliteral
  | cons item items ih =>
    rw [tokensFrom, List.mem_append, List.mem_append, Option.mem_toList] at h
    obtain (hchange | htoken) | hrest := h
    · rw [cursor.isIndentation_of_mem_changes item hchange] at hliteral
      cases hliteral
    · exact ⟨[], item, items, rfl, htoken⟩
    · obtain ⟨before, other, after, rfl, htoken⟩ := ih hrest
      exact ⟨item :: before, other, after, rfl, htoken⟩

theorem findings_singleton {source : String} (options : Options) {gap tail : List Trivia}
    {lexeme : Lexeme} {kind : TokenKind} (hkind : lexeme.reading = .ok kind)
    (hlayout : Layout.ofText source.toList = ⟨[⟨gap, lexeme⟩], tail⟩) :
    (tokenize source options).literals =
        [⟨kind, ⟨0, (Trivia.text gap).length + lexeme.length + (Trivia.text tail).length⟩,
          (Trivia.text gap).length, (Trivia.text tail).length⟩] ∧
      (tokenize source options).errors = [] := by
  constructor
  · have hstart : Cursor.start {} ⟨gap, lexeme⟩ = (Trivia.text gap).length := Nat.zero_add _
    have hnext : (Cursor.next {} ⟨gap, lexeme⟩).position =
        (Trivia.text gap).length + lexeme.length := congrArg (· + lexeme.length) hstart
    have htoken := @Cursor.token?_of_ok {} ⟨gap, lexeme⟩ kind hkind
    rw [hnext] at htoken
    rw [literals_of_layout options hlayout, filter_tokensFrom_cons, filter_tokensFrom_nil, htoken,
      Option.map_some, Option.toList_some, List.append_nil, Token.extend]
    simp only [Nat.zero_add]
    rfl
  · rw [errors_of_layout options hlayout, filter_diagnosticsFrom_cons,
      Cursor.fault?_of_ok _ hkind]
    rfl

theorem text_singleton (gap tail : List Trivia) (lexeme : Lexeme) :
    Piece.text (Layout.pieces ⟨[⟨gap, lexeme⟩], tail⟩) =
      Trivia.text gap ++ lexeme.chars ++ Trivia.text tail := by
  rw [Layout.text_mk, List.flatMap_singleton, Piece.text_itemPieces]
  rfl

theorem areRead_alone {text : List Char} {before behind : List Piece} {own tail : List Trivia}
    {lexeme : Lexeme}
    (hpieces : pieces text = before ++ (Layout.pieces ⟨[⟨own, lexeme⟩], tail⟩ ++ behind))
    (hseam : (Piece.text behind).head? = some '\n' → (Trivia.text tail).getLast? = some '\n') :
    AreRead [] (Layout.pieces ⟨[⟨own, lexeme⟩], tail⟩) := by
  obtain ⟨-, hrest⟩ := areRead_of_pieces_eq_append hpieces
  rw [areRead_append, List.append_nil] at hrest
  refine hrest.1.of_nil ?_
  intro hhead hreturn
  rw [text_singleton, List.getLast?_append, hseam hhead] at hreturn
  cases hreturn

theorem exists_covered_pieces {text : List Char} {before after : List Item} {item : Item}
    {tail : List Trivia} (hlayout : Layout.ofText text = ⟨before ++ item :: after, tail⟩) :
    ∃ front own mine rest,
      pieces text = front ++ (Layout.pieces ⟨[⟨own, item.lexeme⟩], mine⟩ ++ rest) ∧
        ((Piece.text rest).head? = some '\n' → (Trivia.text mine).getLast? = some '\n') ∧
        (Piece.text front).length = (Cursor.behind {} before).bound (item :: after) tail ∧
        (Trivia.text own).length = (Cursor.behind {} before).leading item ∧
        (Trivia.text mine).length = trailing tail after := by
  have hvalid := Layout.isValid_ofText text
  rw [hlayout] at hvalid
  have hitem := hvalid.items item (by simp)
  have hafter : Layout.IsValid ⟨after, tail⟩ :=
    ⟨fun other hother => hvalid.items other (by simp [hother]), hvalid.tail⟩
  obtain ⟨taken, own, hgap, htaken⟩ : ∃ taken own, item.gap = taken ++ own ∧
      (Trivia.text taken).length = (Cursor.behind {} before).taken item.text :=
    (Cursor.behind {} before).exists_taken hitem.gap
  obtain ⟨mine, rest, hrest, hmine, hseam⟩ := exists_trailing hafter
  have htext : item.text = Trivia.text taken ++ Trivia.text own := by
    rw [Item.text, hgap, Trivia.text_append]
  refine ⟨Layout.leadingPieces before taken, own, mine, rest, ?_, hseam, ?_, ?_, hmine⟩
  · rw [← Layout.pieces_ofText, hlayout, Layout.pieces_mk_append, hrest, Layout.leadingPieces,
      Layout.leadingPieces, hgap, Layout.pieces_mk_cons, Layout.itemPieces, List.map_append]
    simp only [List.append_assoc, List.cons_append, List.nil_append]
    rfl
  · have hposition := Cursor.position_behind_add {} before taken
    rw [htaken] at hposition
    exact ((Nat.zero_add _).symm.trans hposition.symm)
  · rw [Cursor.leading, ← htaken, htext, List.length_append, Nat.add_sub_cancel_left]

/-- A token is found again in the characters that it covers, with the same trivia, and nothing else
is found in them. -/
theorem slice_tokenize (source : String) (options : Options) {token : Token}
    (hmem : token ∈ (tokenize source options).literals) (others : Options) :
    (tokenize (String.ofList (token.span.slice source.toList)) others).literals =
        [⟨token.kind, ⟨0, token.span.length⟩, token.leading, token.trailing⟩] ∧
      (tokenize (String.ofList (token.span.slice source.toList)) others).errors = [] := by
  obtain ⟨items, tail, hlayout⟩ : ∃ items tail, Layout.ofText source.toList = ⟨items, tail⟩ :=
    ⟨_, _, rfl⟩
  rw [literals_of_layout options hlayout, List.mem_filter, Bool.not_eq_true'] at hmem
  obtain ⟨before, item, after, rfl, htoken⟩ := exists_item_of_mem_tokensFrom hmem.1 hmem.2
  obtain ⟨kind, hkind, rfl⟩ := Cursor.eq_of_mem_token? htoken
  obtain ⟨front, own, mine, rest, hpieces, hseam, hfront, hown, hmine⟩ :=
    exists_covered_pieces hlayout
  have hcovered := areRead_alone hpieces hseam
  have htext : source.toList = Piece.text front ++
      (Piece.text (Layout.pieces ⟨[⟨own, item.lexeme⟩], mine⟩) ++ Piece.text rest) := by
    rw [← Piece.text_append, ← Piece.text_append, ← hpieces, Piece.text_pieces]
  have hlength : (Piece.text (Layout.pieces ⟨[⟨own, item.lexeme⟩], mine⟩)).length =
      (Trivia.text own).length + item.lexeme.length + (Trivia.text mine).length := by
    rw [text_singleton, List.length_append, List.length_append]
    rfl
  have hstop : ((Cursor.behind {} before).next item).bound after tail = (Piece.text front).length +
      (Piece.text (Layout.pieces ⟨[⟨own, item.lexeme⟩], mine⟩)).length := by
    have hstart := (Cursor.behind {} before).start_eq item
    have hnext : ((Cursor.behind {} before).next item).position =
        (Cursor.behind {} before).start item + item.lexeme.length := rfl
    rw [Cursor.bound_next_of_ok hkind, hnext, hfront, hlength, hown, hmine, Cursor.bound_cons]
    omega
  dsimp only
  rw [htext, Span.slice_append (Piece.text rest) hfront.symm hstop]
  have hlayoutAlone : Layout.ofText (String.ofList
      (Piece.text (Layout.pieces ⟨[⟨own, item.lexeme⟩], mine⟩))).toList =
        ⟨[⟨own, item.lexeme⟩], mine⟩ := by
    rw [String.toList_ofList, Layout.ofText_text hcovered]
  have hspan : Span.length ⟨(Cursor.behind {} before).bound (item :: after) tail,
      ((Cursor.behind {} before).next item).bound after tail⟩ =
        (Trivia.text own).length + item.lexeme.length + (Trivia.text mine).length := by
    rw [Span.length, hstop, ← hfront, Nat.add_sub_cancel_left, hlength]
  rw [hspan, ← hown, ← hmine]
  exact findings_singleton others hkind hlayoutAlone

/-- The second token takes along the blanks in front of it and the comment behind it. -/
theorem slice_second_line :
    ⟨.symbol .closeParen, ⟨2, 12⟩, 2, 7⟩ ∈ (tokenize "(\n  ) # end\n$").literals ∧
      (tokenize "  ) # end\n").literals = [⟨.symbol .closeParen, ⟨0, 10⟩, 2, 7⟩] ∧
      (tokenize "  ) # end\n").errors = [] := by
  have hmem : ⟨.symbol .closeParen, ⟨2, 12⟩, 2, 7⟩ ∈ (tokenize "(\n  ) # end\n$").literals := by
    decide +kernel
  have htext : String.ofList (Span.slice ⟨2, 12⟩ "(\n  ) # end\n$".toList) = "  ) # end\n" := by
    decide +kernel
  have hslice := slice_tokenize "(\n  ) # end\n$" {} hmem {}
  rw [htext] at hslice
  exact ⟨hmem, hslice⟩

end Offside
