import Mathlib.Data.List.Chain
import Offside.Proofs.Layout.Trace
import Offside.Proofs.Spans

/-!
# Where the indentation changes

A change of indentation is logged before the literal whose line asks for it, and stands where the
trivia starts that leads up to that literal, or at the end of the text. Where no literal fails, all
changes between two tokens go in one direction.
-/

namespace Offside

open Indentation (Direction Gauge Reading)

/-! ### The log tells of all tokens and diagnostics -/

namespace Event

def opening? : Event → Option (TokenKind × Nat)
  | token made => some (made.kind, made.span.start)
  | indentation direction position => some (.indentation direction, position)
  | _ => none

def diagnostic? : Event → Option Diagnostic
  | diagnostic found => some found
  | _ => none

def isLiteral : Event → Bool
  | token _ => true
  | diagnostic found => found.isError
  | _ => false

end Event

@[simp] theorem opening?_event (token : Token) :
    token.event.opening? = some (token.kind, token.span.start) := by
  unfold Token.event
  split
  next direction hkind => rw [hkind]; rfl
  · rfl

@[simp] theorem diagnostic?_event (token : Token) : token.event.diagnostic? = none := by
  unfold Token.event
  split <;> rfl

theorem filterMap_diagnostic?_event (tokens : List Token) :
    (tokens.map (·.event)).filterMap Event.diagnostic? = [] := by
  simp

theorem filterMap_diagnostic?_diagnostic (diagnostics : List Diagnostic) :
    (diagnostics.map Event.diagnostic).filterMap Event.diagnostic? = diagnostics := by
  simp [List.filterMap_map, Function.comp_def, Event.diagnostic?]

theorem exists_of_mem_leftOver {cursor : Cursor} {tail : List Trivia} {event : Event}
    (h : event ∈ cursor.leftOver tail) : ∃ pending, event = .unattributed pending := by
  unfold Cursor.leftOver at h
  split_ifs at h
  · cases h
  · exact ⟨_, List.mem_singleton.1 h⟩

def Token.bare (token : Token) : Token :=
  ⟨token.kind, ⟨token.span.start, token.content.stop⟩, token.leading, 0⟩

namespace Token

theorem bare_eq_self {token : Token} (h : token.trailing = 0) : token.bare = token := by
  obtain ⟨kind, span, leading, trailing⟩ := token
  cases h
  rfl

theorem bare_extend (token : Token) (count : Nat) : (token.extend count).bare = token.bare := by
  rw [bare, token.content_extend]
  rfl

end Token

theorem bare_of_mem_levelTokens {previous current position : Nat} {token : Token}
    (h : token ∈ levelTokens previous current position) : token.bare = token := by
  apply Token.bare_eq_self
  rw [List.eq_of_mem_replicate h]

theorem Cursor.bare_of_mem_changes {cursor : Cursor} {item : Item} {token : Token}
    (h : token ∈ cursor.changes item) : token.bare = token := by
  unfold changes Reading.tokens at h
  split at h
  · exact bare_of_mem_levelTokens h
  · cases h
  · cases h

theorem Cursor.bare_of_mem_token? {cursor : Cursor} {item : Item} {token : Token}
    (h : token ∈ cursor.token? item) : token.bare = token := by
  obtain ⟨kind, -, rfl⟩ := Option.map_eq_some_iff.1 h
  rfl

section Select

variable {β : Type} {select : Event → Option β}

theorem filterMap_event {tokens : List Token} (h : ∀ token ∈ tokens, token.bare = token) :
    (tokens.map (·.event)).filterMap select =
      tokens.filterMap fun token => select token.bare.event := by
  rw [List.filterMap_map]
  refine List.filterMap_congr fun token hmem => ?_
  rw [h token hmem]
  rfl

/-- What the log tells of the tokens, it tells of all of them in order, each without the trivia that
was found behind it later on. -/
theorem filterMap_eventsFrom (hdiagnostic : ∀ found, select (.diagnostic found) = none)
    (hleftOver : ∀ pending, select (.unattributed pending) = none) (options : Options)
    (tail : List Trivia) (cursor : Cursor) (items : List Item) :
    (eventsFrom options tail cursor items).filterMap select =
      (tokensFrom tail cursor items).filterMap fun token => select token.bare.event := by
  have hnone : ∀ diagnostics : List Diagnostic,
      (diagnostics.map Event.diagnostic).filterMap select = [] := by
    intro diagnostics
    rw [List.filterMap_map]
    exact List.filterMap_eq_nil_iff.2 fun found _ => hdiagnostic found
  induction items generalizing cursor with
  | nil =>
    have hleft : (cursor.leftOver tail).filterMap select = [] := by
      rw [List.filterMap_eq_nil_iff]
      intro event hmem
      obtain ⟨pending, rfl⟩ := exists_of_mem_leftOver hmem
      exact hleftOver pending
    rw [eventsFrom, List.filterMap_append, hleft, Cursor.closing,
      filterMap_event fun _ => bare_of_mem_levelTokens]
    rfl
  | cons item items ih =>
    have hgrown : (((cursor.token? item).map (·.extend (trailing tail items))).toList).filterMap
        (fun token => select token.bare.event) =
          ((cursor.token? item).toList).filterMap fun token => select token.bare.event := by
      cases cursor.token? item with
      | none => rfl
      | some token =>
        rw [Option.map_some, Option.toList_some, List.filterMap_cons, token.bare_extend]
        rfl
    rw [eventsFrom, tokensFrom, List.filterMap_append, List.filterMap_append,
      List.filterMap_append, ih, hgrown, Cursor.events, Cursor.found, List.filterMap_append,
      List.filterMap_append, List.filterMap_append, hnone, hnone, List.append_nil, List.append_nil,
      filterMap_event fun _ => Cursor.bare_of_mem_changes,
      filterMap_event fun token hmem => Cursor.bare_of_mem_token? (Option.mem_toList.1 hmem)]

end Select

theorem filterMap_opening?_eventsFrom (options : Options) (tail : List Trivia) (cursor : Cursor)
    (items : List Item) :
    (eventsFrom options tail cursor items).filterMap Event.opening? =
      (tokensFrom tail cursor items).map fun token => (token.kind, token.span.start) := by
  rw [filterMap_eventsFrom (fun _ => rfl) fun _ => rfl, ← List.filterMap_eq_map]
  exact List.filterMap_congr fun token _ => opening?_event token.bare

theorem filterMap_diagnostic?_eventsFrom (options : Options) (tail : List Trivia)
    (cursor : Cursor) (items : List Item) :
    (eventsFrom options tail cursor items).filterMap Event.diagnostic? =
      diagnosticsFrom options cursor items := by
  induction items generalizing cursor with
  | nil =>
    have hleft : (cursor.leftOver tail).filterMap Event.diagnostic? = [] := by
      rw [List.filterMap_eq_nil_iff]
      intro event hmem
      obtain ⟨pending, rfl⟩ := exists_of_mem_leftOver hmem
      rfl
    rw [eventsFrom, List.filterMap_append, hleft, Cursor.closing, filterMap_diagnostic?_event]
    rfl
  | cons item items ih =>
    rw [eventsFrom, diagnosticsFrom, List.filterMap_append, ih, Cursor.events,
      Cursor.found, List.filterMap_append, List.filterMap_append, List.filterMap_append,
      filterMap_diagnostic?_event, filterMap_diagnostic?_event, filterMap_diagnostic?_diagnostic,
      filterMap_diagnostic?_diagnostic, List.nil_append, List.nil_append]

/-! ### Places -/

/-- The trivia that is dropped together with the error starts at `start`: only trivia stands from
there up to the error, and a literal with its trivia ends there, unless the text starts there. -/
structure DropsFrom (spans : List Span) (parts : List (Piece × Span)) (start : Nat)
    (error : Diagnostic) : Prop where
  le : start ≤ error.span.start
  trivia : IsTriviaRun parts start error.span.start
  boundary : start = 0 ∨ ∃ span ∈ spans, span.stop = start

/-- Where a change of indentation has to stand, given the literal that is found next. -/
def ChangeStands (spans : List Span) (parts : List (Piece × Span)) (endOfText : Nat)
    (direction : Direction) (position : Nat) : Option Event → Prop
  | some (.token next) => position = next.span.start
  | some (.diagnostic error) => DropsFrom spans parts position error
  | _ => direction = .dedent ∧ position = endOfText

def ChangesStand (spans : List Span) (parts : List (Piece × Span)) (endOfText : Nat)
    (events : List Event) : Prop :=
  ∀ direction position after, .indentation direction position :: after <:+ events →
    ChangeStands spans parts endOfText direction position (after.find? (·.isLiteral))

section Stand

variable {spans : List Span} {parts : List (Piece × Span)} {endOfText : Nat}

theorem ChangesStand.cons {event : Event} {rest : List Event}
    (h : ChangesStand spans parts endOfText rest)
    (hevent : ∀ direction position, event = .indentation direction position →
      ChangeStands spans parts endOfText direction position (rest.find? (·.isLiteral))) :
    ChangesStand spans parts endOfText (event :: rest) := by
  intro direction position after hsuffix
  rcases List.suffix_cons_iff.1 hsuffix with heq | hrest
  · obtain ⟨hhere, rfl⟩ := List.cons.inj heq
    exact hevent direction position hhere.symm
  · exact h direction position after hrest

theorem ChangesStand.append_of_forall {events rest : List Event}
    (h : ChangesStand spans parts endOfText rest)
    (hevents : ∀ event ∈ events, ∀ direction position, event ≠ .indentation direction position) :
    ChangesStand spans parts endOfText (events ++ rest) := by
  induction events with
  | nil => exact h
  | cons event events ih =>
    obtain ⟨hevent, hothers⟩ := List.forall_mem_cons.1 hevents
    exact (ih hothers).cons fun direction position heq => absurd heq (hevent direction position)

theorem ChangesStand.append_changes {changes : List Token} {rest : List Event} {place : Nat}
    (h : ChangesStand spans parts endOfText rest)
    (hchanges : ∀ change ∈ changes, ∃ direction, change.event = .indentation direction place ∧
      ChangeStands spans parts endOfText direction place (rest.find? (·.isLiteral))) :
    ChangesStand spans parts endOfText (changes.map (·.event) ++ rest) := by
  induction changes with
  | nil => exact h
  | cons change changes ih =>
    obtain ⟨⟨direction, hevent, hstands⟩, hothers⟩ := List.forall_mem_cons.1 hchanges
    have hfind : (changes.map (·.event) ++ rest).find? (·.isLiteral) =
        rest.find? (·.isLiteral) := by
      have hnone : (changes.map (·.event)).find? (·.isLiteral) = none := by
        rw [List.find?_eq_none]
        intro event hmem
        obtain ⟨other, hother, rfl⟩ := List.mem_map.1 hmem
        obtain ⟨direction, hevent, -⟩ := hothers other hother
        simp [hevent, Event.isLiteral]
      rw [List.find?_append, hnone, Option.none_or]
    refine (ih hothers).cons ?_
    intro other position heq
    obtain ⟨rfl, rfl⟩ := Event.indentation.inj (hevent.symm.trans heq)
    rw [hfind]
    exact hstands

end Stand

theorem event_of_mem_levelTokens {previous current position : Nat} {token : Token}
    (h : token ∈ levelTokens previous current position) :
    token.event =
      .indentation (if previous < current then .indent else .dedent) position := by
  rw [List.eq_of_mem_replicate h]
  rfl

namespace Cursor

variable {cursor : Cursor} {item : Item}

theorem event_of_mem_changes {token : Token} (h : token ∈ cursor.changes item) :
    ∃ direction, token.event =
      .indentation direction (cursor.position + cursor.taken item.text) := by
  unfold changes Reading.tokens at h
  split at h
  · exact ⟨_, event_of_mem_levelTokens h⟩
  · cases h
  · cases h

theorem find?_warnings (options : Options) (rest : List Event) :
    ((cursor.warnings item options).map Event.diagnostic ++ rest).find? (·.isLiteral) =
      rest.find? (·.isLiteral) := by
  have hnone : ((cursor.warnings item options).map Event.diagnostic).find? (·.isLiteral) =
      none := by
    rw [List.find?_eq_none]
    intro event hmem
    obtain ⟨diagnostic, hdiagnostic, rfl⟩ := List.mem_map.1 hmem
    simp [Event.isLiteral, isError_of_mem_warnings hdiagnostic]
  rw [List.find?_append, hnone, Option.none_or]

theorem found_of_ok {kind : TokenKind} (h : item.lexeme.reading = .ok kind) :
    cursor.found item = [.token ⟨kind, ⟨cursor.position + cursor.taken item.text,
      (cursor.next item).position⟩, cursor.leading item, 0⟩] := by
  rw [found, cursor.token?_of_ok h, cursor.fault?_of_ok h, Option.toList_some, List.map_singleton,
    Token.event_of_literal (Lexeme.isIndentation_of_reading h _ _ _)]
  rfl

theorem found_of_error {fault : Fault} (h : item.lexeme.reading = .error fault) :
    cursor.found item =
      [.diagnostic ⟨fault, ⟨cursor.start item, (cursor.next item).position⟩⟩] := by
  rw [found, cursor.token?_of_error h, cursor.fault?_of_error h]
  rfl

theorem ne_indentation_of_mem_found {event : Event} (h : event ∈ cursor.found item)
    (direction : Direction) (position : Nat) : event ≠ .indentation direction position := by
  cases hreading : item.lexeme.reading with
  | ok kind =>
    rw [found_of_ok hreading, List.mem_singleton] at h
    rw [h]
    exact Event.noConfusion
  | error fault =>
    rw [found_of_error hreading, List.mem_singleton] at h
    rw [h]
    exact Event.noConfusion

end Cursor

section Stand

variable {spans : List Span} {parts : List (Piece × Span)} {endOfText : Nat}
  {cursor : Cursor} {item : Item} {items : List Item} {tail : List Trivia}

theorem changeStands_item (options : Options) (direction : Direction) (rest : List Event)
    (hbound : cursor.bound (item :: items) tail = 0 ∨
      ∃ span ∈ spans, span.stop = cursor.bound (item :: items) tail)
    (hparts : placed cursor.position (item.gap.map .trivia) ⊆ parts) :
    ChangeStands spans parts endOfText direction (cursor.position + cursor.taken item.text)
      (((cursor.warnings item options).map Event.diagnostic ++
        (cursor.found item ++ rest)).find? (·.isLiteral)) := by
  rw [Cursor.find?_warnings]
  cases hreading : item.lexeme.reading with
  | ok kind =>
    rw [Cursor.found_of_ok hreading]
    exact rfl
  | error fault =>
    have hfault : (⟨fault, ⟨cursor.start item, (cursor.next item).position⟩⟩ : Diagnostic) ∈
        cursor.fault? item := cursor.fault?_of_error hreading
    have hrun : IsTriviaRun (placed cursor.position (item.gap.map .trivia))
        (cursor.position + cursor.taken item.text) (cursor.start item) :=
      isTriviaRun_gap (Nat.le_add_right _ _)
    rw [Cursor.found_of_error hreading, List.singleton_append, List.find?_cons_of_pos]
    · exact ⟨cursor.bound_cons_le_start item items tail, hrun.mono hparts, hbound⟩
    · exact Cursor.isError_of_mem_fault? hfault

theorem changesStand_eventsFrom (options : Options) {rest : List Event}
    (hrest : ChangesStand spans parts endOfText rest) (hnone : rest.find? (·.isLiteral) = none)
    (hend : endFrom tail cursor items = endOfText)
    (hbound : cursor.bound items tail = 0 ∨ ∃ span ∈ spans, span.stop = cursor.bound items tail)
    (hspans : coveredFrom tail cursor items ⊆ spans)
    (hparts : placed cursor.position (Layout.pieces ⟨items, tail⟩) ⊆ parts) :
    ChangesStand spans parts endOfText (eventsFrom options tail cursor items ++ rest) := by
  -- The literal before the cursor bounds the trivia of the first item, so the induction has to know
  -- that its end is the end of one of the spans.
  induction items generalizing cursor with
  | nil =>
    have hclosing : ChangesStand spans parts endOfText (cursor.closing tail ++ rest) := by
      apply hrest.append_changes
      intro change hmem
      rw [hnone]
      exact ⟨.dedent, event_of_mem_levelTokens hmem, rfl, hend⟩
    rw [eventsFrom, List.append_assoc]
    apply hclosing.append_of_forall
    intro event hmem direction position heq
    obtain ⟨pending, hpending⟩ := exists_of_mem_leftOver hmem
    rw [hpending] at heq
    cases heq
  | cons item items ih =>
    rw [Layout.placed_mk_cons] at hparts
    obtain ⟨hgap, hothers⟩ := List.append_subset.1 hparts
    obtain ⟨-, hlater⟩ := List.cons_subset.1 hothers
    obtain ⟨hcovered, hcoveredLater⟩ := List.cons_subset.1 hspans
    have hnext : ChangesStand spans parts endOfText
        (eventsFrom options tail (cursor.next item) items ++ rest) :=
      ih hend (.inr ⟨_, hcovered, rfl⟩) hcoveredLater hlater
    rw [eventsFrom, Cursor.events, List.append_assoc, List.append_assoc, List.append_assoc]
    apply ChangesStand.append_changes
    · have hfound : ChangesStand spans parts endOfText
          (cursor.found item ++ (eventsFrom options tail (cursor.next item) items ++ rest)) :=
        hnext.append_of_forall fun event => Cursor.ne_indentation_of_mem_found
      apply hfound.append_of_forall
      intro event hmem direction position heq
      obtain ⟨diagnostic, -, rfl⟩ := List.mem_map.1 hmem
      cases heq
    · intro change hmem
      obtain ⟨direction, hevent⟩ := Cursor.event_of_mem_changes hmem
      exact ⟨direction, hevent, changeStands_item options direction _ hbound hgap⟩

end Stand

/-! ### Directions -/

def Token.GoesOn (first second : Token) : Prop :=
  first.isIndentation = true → second.isIndentation = true → first.kind = second.kind

theorem Token.GoesOn.of_left {first : Token} (h : first.isIndentation = false) (second : Token) :
    first.GoesOn second := by
  intro hfirst
  rw [h] at hfirst
  cases hfirst

theorem Token.GoesOn.of_right (first : Token) {second : Token} (h : second.isIndentation = false) :
    first.GoesOn second := by
  intro _ hsecond
  rw [h] at hsecond
  cases hsecond

theorem exists_direction {changes : List Token} (h : changes.IsChain Token.GoesOn)
    (hall : ∀ change ∈ changes, change.isIndentation = true) :
    ∃ direction, ∀ change ∈ changes, change.kind = .indentation direction := by
  induction changes with
  | nil => exact ⟨.indent, by simp⟩
  | cons change changes ih =>
    obtain ⟨hchange, hothers⟩ := List.forall_mem_cons.1 hall
    obtain ⟨hhead, hrest⟩ := List.isChain_cons.1 h
    cases changes with
    | nil =>
      unfold Token.isIndentation at hchange
      split at hchange
      next direction hkind => exact ⟨direction, by simpa using hkind⟩
      · cases hchange
    | cons second changes =>
      obtain ⟨direction, hdirection⟩ := ih hrest hothers
      obtain ⟨hsecond, -⟩ := List.forall_mem_cons.1 hdirection
      have hkind := hhead second rfl hchange (hothers second List.mem_cons_self)
      exact ⟨direction, List.forall_mem_cons.2 ⟨hkind.trans hsecond, hdirection⟩⟩

theorem kind_of_mem_levelTokens {previous current position : Nat} {token : Token}
    (h : token ∈ levelTokens previous current position) :
    token.kind = .indentation (if previous < current then .indent else .dedent) := by
  rw [List.eq_of_mem_replicate h]

theorem isChain_levelTokens (previous current position : Nat) :
    (levelTokens previous current position).IsChain Token.GoesOn := by
  apply List.Pairwise.isChain
  apply List.pairwise_of_forall_mem_list
  intro first hfirst second hsecond _ _
  rw [kind_of_mem_levelTokens hfirst, kind_of_mem_levelTokens hsecond]

theorem Cursor.isChain_changes (cursor : Cursor) (item : Item) :
    (cursor.changes item).IsChain Token.GoesOn := by
  unfold changes Reading.tokens
  split
  · exact isChain_levelTokens _ _ _
  · exact List.IsChain.nil
  · exact List.IsChain.nil

theorem Item.previous_of_measure (item : Item) {gauge : Gauge} {previous current : Nat}
    (h : (item.measure gauge).1 = .level previous current) : previous = gauge.level := by
  unfold measure Gauge.enter at h
  split_ifs at h with hfeed hzero hodd hlevel hmultiple
  · exact (Reading.level.inj h).1.symm
  · rw [hlevel]
    exact (Reading.level.inj h).1.symm
  · exact (Reading.level.inj h).1.symm

section Directions

variable {tail : List Trivia} {items : List Item}

theorem tokensFrom_cons_of_ok (tail : List Trivia) (cursor : Cursor) {item : Item}
    (items : List Item) {kind : TokenKind} (h : item.lexeme.reading = .ok kind) :
    tokensFrom tail cursor (item :: items) = cursor.changes item ++
      ⟨kind, ⟨cursor.bound (item :: items) tail, (cursor.next item).bound items tail⟩,
        cursor.leading item, trailing tail items⟩ :: tokensFrom tail (cursor.next item) items := by
  rw [tokensFrom, cursor.token?_of_ok h, Cursor.bound_next_of_ok h, Option.map_some,
    Option.toList_some, List.append_assoc, Token.extend, Nat.zero_add]
  rfl

theorem isChain_tokensFrom (hitems : ∀ item ∈ items, ∃ kind, item.lexeme.reading = .ok kind)
    (cursor : Cursor) : (tokensFrom tail cursor items).IsChain Token.GoesOn := by
  induction items generalizing cursor with
  | nil => exact isChain_levelTokens _ _ _
  | cons item items ih =>
    obtain ⟨⟨kind, hreading⟩, hothers⟩ := List.forall_mem_cons.1 hitems
    have hliteral := Lexeme.isIndentation_of_reading hreading
    rw [tokensFrom_cons_of_ok tail cursor items hreading]
    refine (cursor.isChain_changes item).append (List.isChain_cons.2 ⟨?_, ih hothers _⟩) ?_
    · intro second _
      exact Token.GoesOn.of_left (hliteral _ _ _) second
    · intro first _ second hsecond
      cases hsecond
      exact Token.GoesOn.of_right first (hliteral _ _ _)

theorem kind_of_mem_changes {cursor : Cursor} {item : Item} {token : Token}
    (hlevel : cursor.gauge.level = 0) (h : token ∈ cursor.changes item) :
    token.kind = .indentation .indent := by
  unfold Cursor.changes at h
  cases hreading : (item.measure cursor.gauge).1 with
  | blank =>
    rw [hreading] at h
    cases h
  | ambiguous width unit run =>
    rw [hreading] at h
    cases h
  | level previous current =>
    have hprevious : previous = 0 := (item.previous_of_measure hreading).trans hlevel
    rw [hreading, hprevious] at h
    have hpos : 0 < current := by
      by_contra hzero
      rw [Nat.eq_zero_of_not_pos hzero] at h
      cases h
    rw [kind_of_mem_levelTokens h, if_pos hpos]

theorem kind_of_mem_head? (hitems : ∀ item ∈ items, ∃ kind, item.lexeme.reading = .ok kind)
    {cursor : Cursor} (hlevel : cursor.gauge.level = 0) :
    ∀ token ∈ (tokensFrom tail cursor items).head?, token.isIndentation = true →
      token.kind = .indentation .indent := by
  intro token hmem hindentation
  cases items with
  | nil =>
    have hnil : tokensFrom tail cursor [] = [] := by
      rw [tokensFrom, hlevel]
      rfl
    rw [hnil] at hmem
    cases hmem
  | cons item items =>
    obtain ⟨kind, hreading⟩ := hitems item List.mem_cons_self
    rw [tokensFrom_cons_of_ok tail cursor items hreading, List.head?_append,
      Option.mem_def, Option.or_eq_some_iff] at hmem
    rcases hmem with hchange | ⟨-, hliteral⟩
    · exact kind_of_mem_changes hlevel (List.mem_of_mem_head? hchange)
    · cases hliteral
      rw [Lexeme.isIndentation_of_reading hreading] at hindentation
      cases hindentation

theorem kind_of_mem_getLast? (hitems : ∀ item ∈ items, ∃ kind, item.lexeme.reading = .ok kind)
    (cursor : Cursor) :
    ∀ token ∈ (tokensFrom tail cursor items).getLast?, token.isIndentation = true →
      token.kind = .indentation .dedent := by
  induction items generalizing cursor with
  | nil =>
    intro token hmem _
    exact kind_of_mem_levelTokens (List.mem_of_mem_getLast? hmem)
  | cons item items ih =>
    obtain ⟨⟨kind, hreading⟩, hothers⟩ := List.forall_mem_cons.1 hitems
    intro token hmem hindentation
    rw [tokensFrom_cons_of_ok tail cursor items hreading, List.getLast?_append, List.getLast?_cons,
      Option.some_or, Option.mem_def, Option.some_inj] at hmem
    cases hlast : (tokensFrom tail (cursor.next item) items).getLast? with
    | none =>
      rw [hlast, Option.getD_none] at hmem
      rw [← hmem, Lexeme.isIndentation_of_reading hreading] at hindentation
      cases hindentation
    | some last =>
      rw [hlast, Option.getD_some] at hmem
      rw [← hmem] at hindentation ⊢
      exact ih hothers (cursor.next item) last hlast hindentation

end Directions

theorem exists_reading_of_errors_eq_nil {options : Options} {items : List Item} {cursor : Cursor}
    (h : (diagnosticsFrom options cursor items).filter (·.isError) = []) :
    ∀ item ∈ items, ∃ kind, item.lexeme.reading = .ok kind := by
  induction items generalizing cursor with
  | nil =>
    intro item hmem
    cases hmem
  | cons item items ih =>
    rw [filter_diagnosticsFrom_cons, List.append_eq_nil_iff] at h
    refine List.forall_mem_cons.2 ⟨?_, ih h.2⟩
    cases hreading : item.lexeme.reading with
    | ok kind => exact ⟨kind, rfl⟩
    | error fault =>
      rw [cursor.fault?_of_error hreading] at h
      cases h.1

/-! ### The changes of a pass -/

/-- A run of changes between two parts of the tokens goes in one direction: deeper if no literal
comes before it, and back if none comes after it. -/
structure OneWay (before changes after : List Token) : Prop where
  direction : ∃ direction, ∀ change ∈ changes, change.kind = .indentation direction
  first : (∀ token ∈ before, token.isIndentation = true) →
    ∀ change ∈ changes, change.kind = .indentation .indent
  last : (∀ token ∈ after, token.isIndentation = true) →
    ∀ change ∈ changes, change.kind = .indentation .dedent

theorem OneWay.ne_dedent {before after : List Token} {first second : Token}
    (h : OneWay before [first, second] after) (hfirst : first.kind = .indentation .indent) :
    second.kind ≠ .indentation .dedent := by
  obtain ⟨direction, hdirection⟩ := h.direction
  have hindent := (hdirection first List.mem_cons_self).symm.trans hfirst
  rw [hdirection second (List.mem_cons_of_mem _ List.mem_cons_self), hindent]
  exact nofun

/-- The changes of indentation that a pass over the text finds. -/
structure Findings.ChangesFit (findings : Findings) (text : List Char) : Prop where
  empty : ∀ token ∈ findings.tokens, token.isIndentation = true →
    token.span.start = token.span.stop ∧ token.leading = 0 ∧ token.trailing = 0
  tokens : findings.log.filterMap Event.opening? =
    findings.tokens.map fun token => (token.kind, token.span.start)
  diagnostics : findings.log.filterMap Event.diagnostic? = findings.diagnostics
  /-- A change stands where the next token starts with its leading trivia, or where the trivia
  starts that is dropped with the next literal if that one fails. The others close the text. -/
  stand : ∀ direction position after,
    .indentation direction position :: after <:+ findings.log →
      ChangeStands (findings.literalSpans ++ findings.errorSpans) (placed 0 (pieces text))
        text.length direction position (after.find? (·.isLiteral))
  /-- Where nothing fails, every run of changes goes in one direction. -/
  directed : findings.errors = [] → ∀ before changes after,
    findings.tokens = before ++ changes ++ after →
    (∀ change ∈ changes, change.isIndentation = true) →
      OneWay before changes after
  inhabited : findings.errors = [] → ∀ before first second after,
    findings.tokens = before ++ first :: second :: after →
      first.kind = .indentation .indent → second.kind ≠ .indentation .dedent

theorem empty_of_mem_tokensFrom (tail : List Trivia) (cursor : Cursor) (items : List Item) :
    ∀ token ∈ tokensFrom tail cursor items, token.isIndentation = true →
      token.span.start = token.span.stop ∧ token.leading = 0 ∧ token.trailing = 0 := by
  have hempty : ∀ {previous current position : Nat} {token : Token},
      token ∈ levelTokens previous current position →
        token.span.start = token.span.stop ∧ token.leading = 0 ∧ token.trailing = 0 := by
    intro previous current position token hmem
    rw [List.eq_of_mem_replicate hmem]
    exact ⟨rfl, rfl, rfl⟩
  induction items generalizing cursor with
  | nil => exact fun token hmem _ => hempty hmem
  | cons item items ih =>
    intro token hmem hindentation
    rw [tokensFrom, List.mem_append, List.mem_append, Option.mem_toList] at hmem
    obtain (hchange | htoken) | hrest := hmem
    · unfold Cursor.changes Reading.tokens at hchange
      split at hchange
      · exact hempty hchange
      · cases hchange
      · cases hchange
    · obtain ⟨kind, hreading, rfl⟩ := Cursor.eq_of_mem_token? htoken
      rw [Lexeme.isIndentation_of_reading hreading] at hindentation
      cases hindentation
    · exact ih (cursor.next item) token hrest hindentation

/-- Where no literal fails, every run of changes goes in one direction. -/
theorem directed_tokensFrom {items : List Item} (tail : List Trivia)
    (hitems : ∀ item ∈ items, ∃ kind, item.lexeme.reading = .ok kind)
    {before changes after : List Token}
    (htokens : tokensFrom tail {} items = before ++ changes ++ after)
    (hchanges : ∀ change ∈ changes, change.isIndentation = true) :
    OneWay before changes after := by
  have hchain : (before ++ changes ++ after).IsChain Token.GoesOn := by
    rw [← htokens]
    exact isChain_tokensFrom hitems {}
  -- Without a literal before it the run reaches back to the first token, and without one after it
  -- up to the last one. Of these two the direction is known.
  have hkinds : ∀ {run : List Token}, run.IsChain Token.GoesOn →
      (∀ token ∈ run, token.isIndentation = true) → ∀ first ∈ run, ∀ second ∈ run,
        first.kind = second.kind := by
    intro run hrun hall first hfirst second hsecond
    obtain ⟨direction, hdirection⟩ := exists_direction hrun hall
    rw [hdirection first hfirst, hdirection second hsecond]
  refine ⟨exists_direction hchain.left_of_append.right_of_append hchanges, ?first, ?last⟩
  case first =>
    intro hbefore change hmem
    have hall : ∀ token ∈ before ++ changes, token.isIndentation = true :=
      List.forall_mem_append.2 ⟨hbefore, hchanges⟩
    obtain ⟨head, rest, hhead⟩ := List.exists_cons_of_ne_nil
      (List.ne_nil_of_mem (List.mem_append_right before hmem))
    have hmemHead : head ∈ before ++ changes := hhead ▸ List.mem_cons_self
    have hfirst : head ∈ (tokensFrom tail {} items).head? := by
      rw [htokens, hhead]
      rfl
    rw [← hkinds hchain.left_of_append hall head hmemHead change (List.mem_append_right _ hmem)]
    exact kind_of_mem_head? hitems rfl head hfirst (hall head hmemHead)
  case last =>
    intro hafter change hmem
    have hall : ∀ token ∈ changes ++ after, token.isIndentation = true :=
      List.forall_mem_append.2 ⟨hchanges, hafter⟩
    have hne := List.ne_nil_of_mem (List.mem_append_left after hmem)
    have hmemLast := List.getLast_mem hne
    have hlast : (changes ++ after).getLast hne ∈ (tokensFrom tail {} items).getLast? := by
      rw [htokens, List.append_assoc, List.getLast?_append_of_ne_nil _ hne]
      exact List.getLast?_eq_some_getLast hne
    rw [List.append_assoc] at hchain
    rw [hkinds hchain.right_of_append hall change (List.mem_append_left _ hmem) _ hmemLast]
    exact kind_of_mem_getLast? hitems {} _ hlast (hall _ hmemLast)

theorem changesStand_tokenize (source : String) (options : Options) :
    ChangesStand ((tokenize source options).literalSpans ++ (tokenize source options).errorSpans)
      (placed 0 (pieces source.toList)) source.toList.length (tokenize source options).log := by
  obtain ⟨items, tail, hlayout⟩ : ∃ items tail, Layout.ofText source.toList = ⟨items, tail⟩ :=
    ⟨_, _, rfl⟩
  have hpieces : Layout.pieces ⟨items, tail⟩ = pieces source.toList := by
    rw [← hlayout, Layout.pieces_ofText]
  have hend : endFrom tail {} items = source.toList.length := by
    rw [endFrom_eq, hpieces, flatMap_chars_pieces]
    exact Nat.zero_add _
  have hspans : coveredFrom tail {} items ⊆
      (tokenize source options).literalSpans ++ (tokenize source options).errorSpans := by
    unfold Findings.literalSpans Findings.errorSpans Findings.literals Findings.errors
    rw [tokens_tokenize, diagnostics_tokenize, hlayout]
    exact (perm_coveredFrom options items {}).symm.subset
  have hparts : placed 0 (Layout.pieces ⟨items, tail⟩) ⊆ placed 0 (pieces source.toList) := by
    rw [hpieces]
    exact List.Subset.refl _
  rw [log_tokenize source options hlayout]
  refine ChangesStand.cons (changesStand_eventsFrom options ?_ rfl hend (.inl rfl) hspans hparts) ?_
  · intro direction position after hsuffix
    rcases List.suffix_cons_iff.1 hsuffix with heq | hrest
    · cases heq
    · cases List.eq_nil_of_suffix_nil hrest
  · intro direction position heq
    cases heq

/-- The changes of indentation that a pass finds fit the text. -/
theorem changesFit_tokenize (source : String) (options : Options) :
    (tokenize source options).ChangesFit source.toList := by
  obtain ⟨items, tail, hlayout⟩ : ∃ items tail, Layout.ofText source.toList = ⟨items, tail⟩ :=
    ⟨_, _, rfl⟩
  have htokens : (tokenize source options).tokens = tokensFrom tail {} items := by
    rw [tokens_tokenize, hlayout]
    rfl
  have hdiagnostics : (tokenize source options).diagnostics = diagnosticsFrom options {} items := by
    rw [diagnostics_tokenize, hlayout]
    rfl
  have hdirected : (tokenize source options).errors = [] → ∀ before changes after,
      (tokenize source options).tokens = before ++ changes ++ after →
      (∀ change ∈ changes, change.isIndentation = true) → OneWay before changes after := by
    intro hnone before changes after hsplit hchanges
    rw [Findings.errors, hdiagnostics] at hnone
    exact directed_tokensFrom tail (exists_reading_of_errors_eq_nil hnone)
      (htokens.symm.trans hsplit) hchanges
  refine ⟨?empty, ?tokens, ?diagnostics, changesStand_tokenize source options, hdirected,
    ?inhabited⟩
  case empty =>
    rw [htokens]
    exact empty_of_mem_tokensFrom tail {} items
  case tokens =>
    rw [log_tokenize source options hlayout, htokens,
      ← filterMap_opening?_eventsFrom options tail {} items, List.filterMap_cons_none rfl,
      List.filterMap_append]
    exact List.append_nil _
  case diagnostics =>
    rw [log_tokenize source options hlayout, hdiagnostics,
      ← filterMap_diagnostic?_eventsFrom options tail {} items, List.filterMap_cons_none rfl,
      List.filterMap_append]
    exact List.append_nil _
  case inhabited =>
    intro hnone before first second after hsplit hfirst hsecond
    have hchanges : ∀ change ∈ [first, second], change.isIndentation = true := by
      simp [Token.isIndentation, hfirst, hsecond]
    have hrun : (tokenize source options).tokens = before ++ [first, second] ++ after := by
      rw [hsplit, List.append_assoc]
      rfl
    exact (hdirected hnone before [first, second] after hrun hchanges).ne_dedent hfirst hsecond

/-- The line that fails is indented all the same, behind the line break that the literal before it
owns. -/
theorem stand_before_failing_literal :
    .indentation .indent 2 ∈ (tokenize "(\n  @").log ∧
      DropsFrom [⟨0, 2⟩, ⟨4, 5⟩] (placed 0 (pieces "(\n  @".toList)) 2
        ⟨.unrecognisedLexeme "@", ⟨4, 5⟩⟩ := by
  have hspans : (tokenize "(\n  @").literalSpans ++ (tokenize "(\n  @").errorSpans =
      [⟨0, 2⟩, ⟨4, 5⟩] := by decide +kernel
  have hsuffix : .indentation .indent 2 ::
      [.diagnostic ⟨.unrecognisedLexeme "@", ⟨4, 5⟩⟩, .indentation .dedent 5, .finished 3 1] <:+
        (tokenize "(\n  @").log :=
    List.isSuffixOf_iff_suffix.1 (by decide +kernel)
  have hstands := (changesFit_tokenize "(\n  @" {}).stand _ _ _ hsuffix
  rw [hspans] at hstands
  exact ⟨hsuffix.mem List.mem_cons_self, hstands⟩

end Offside
