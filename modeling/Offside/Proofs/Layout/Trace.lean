import Offside.Proofs.Layout.Pass

/-!
# What a pass logs

The log keeps the order of the pass: for every literal first the changes of indentation in front of
it, or the warning about its line, and then the literal itself, be it a token or an error. What the
end of the text settles comes last.
-/

namespace Offside

open Indentation (Gauge Reading)

def Token.event (token : Token) : Event :=
  match token.kind with
  | .indentation direction => .indentation direction token.span.start
  | _ => .token token

theorem Token.event_of_literal {token : Token} (h : token.isIndentation = false) :
    token.event = .token token := by
  obtain ⟨kind, span, leading, trailing⟩ := token
  cases kind with
  | indentation direction => cases h
  | _ => rfl

namespace Cursor

variable (cursor : Cursor)

def found (item : Item) : List Event :=
  (cursor.token? item).toList.map (·.event) ++ (cursor.fault? item).toList.map .diagnostic

def events (item : Item) (options : Options) : List Event :=
  (cursor.changes item).map (·.event) ++ (cursor.warnings item options).map .diagnostic ++
    cursor.found item

def leftOver (tail : List Trivia) : List Event :=
  if cursor.owned || decide ((Trivia.text tail).length = 0) then []
  else [.unattributed (Trivia.text tail).length]

def closing (tail : List Trivia) : List Event :=
  (levelTokens cursor.gauge.level 0 (cursor.position + (Trivia.text tail).length)).map (·.event)

end Cursor

def eventsFrom (options : Options) (tail : List Trivia) (cursor : Cursor) : List Item → List Event
  | [] => cursor.leftOver tail ++ cursor.closing tail
  | item :: items => cursor.events item options ++ eventsFrom options tail (cursor.next item) items

namespace Scan

theorem log_addIndentation (scan : Scan) (previous current place : Nat) :
    (scan.addIndentation previous current place).log.toList =
      scan.log.toList ++ (levelTokens previous current place).map (·.event) := by
  simp [addIndentation, levelTokens, Token.event]

theorem log_addDiagnostic (scan : Scan) (fault : Fault) (span : Span) :
    (scan.addDiagnostic fault span).log.toList = scan.log.toList ++ [.diagnostic ⟨fault, span⟩] :=
  Array.toList_push

variable {scan : Scan} {cursor : Cursor} {position pending : Nat} {gauge : Gauge}
  {done tokens : List Token} {last : Option Token} {found : List Diagnostic}

theorem IsBefore.log_measureLine (options : Options)
    (h : scan.IsBefore position gauge tokens pending found) :
    (scan.measureLine options).log.toList = scan.log.toList ++
      (((gauge.measure scan.rest).1.tokens (position - pending)).map (·.event) ++
        ((gauge.measure scan.rest).1.diagnostics options position).map .diagnostic) := by
  have hpending : scan.staging.pending = pending := by
    rw [h.staging]
    rfl
  unfold Scan.measureLine
  rw [h.gauge, hpending, ← h.position]
  obtain ⟨reading, next⟩ := gauge.measure scan.rest
  cases reading with
  | blank => simp [Reading.tokens, Reading.diagnostics]
  | level previous current => simp [Reading.tokens, Reading.diagnostics, log_addIndentation]
  | ambiguous width unit run =>
    by_cases hwarn : options.warnAmbiguous = true
    · simp [Reading.tokens, Reading.diagnostics, hwarn, log_addDiagnostic]
    · simp [Reading.tokens, Reading.diagnostics, hwarn]

theorem IsBehind.log_readGap (options : Options) {text after : List Char}
    {measured : Reading × Gauge} (h : scan.IsBehind cursor done last found)
    (hrest : scan.rest = text ++ after)
    (hmeasure : measured = if '\n' ∈ text then
      cursor.gauge.measure (Text.lastLine text ++ after) else (.blank, cursor.gauge)) :
    (scan.readGap options text).log.toList = scan.log.toList ++
      ((measured.1.tokens (cursor.position + cursor.taken text)).map (·.event) ++
        (measured.1.diagnostics options
          (cursor.position + text.length - (Text.lastLine text).length)).map .diagnostic) := by
  by_cases hfeed : '\n' ∈ text
  · obtain ⟨hline, hlineRest⟩ := h.lineStart hrest hfeed
    have hlog := hline.log_measureLine options
    have hle := Text.lineLength_add_length_lastLine_le hfeed
    have htaken := cursor.taken_le_lineLength text
    have hplace : cursor.position + text.length - (Text.lastLine text).length -
        (text.length - (Text.lastLine text).length - cursor.taken text) =
          cursor.position + cursor.taken text := by
      omega
    rw [hlineRest, hplace] at hlog
    rw [hmeasure, if_pos hfeed, Scan.readGap, if_pos hfeed]
    exact hlog
  · rw [hmeasure, if_neg hfeed, Scan.readGap, if_neg hfeed]
    exact (List.append_nil _).symm

theorem IsBefore.log_settle (item : Item)
    (h : scan.IsBefore (cursor.start item) gauge tokens (cursor.leading item) found) :
    ((scan.advance item.lexeme.length).settle item.lexeme.reading scan.position).log.toList =
      scan.log.toList ++ cursor.found item := by
  have hposition : scan.position + item.lexeme.length = (cursor.next item).position := by
    rw [h.position]
    rfl
  cases hreading : item.lexeme.reading with
  | ok kind =>
    have hstart := cursor.start_eq item
    have hpending : scan.staging.pending = cursor.leading item := by
      rw [h.staging]
      rfl
    have hlog : ((scan.advance item.lexeme.length).settle (.ok kind) scan.position).log.toList =
        scan.log.toList ++ [.token ⟨kind, ⟨scan.position - scan.staging.pending,
          scan.position + item.lexeme.length⟩, scan.staging.pending, 0⟩] := Array.toList_push
    rw [hlog, Cursor.found, cursor.token?_of_ok hreading, cursor.fault?_of_ok hreading, hposition,
      hpending, h.position, ← hstart, Nat.add_sub_cancel, Option.toList_some, List.map_singleton,
      Token.event_of_literal (Lexeme.isIndentation_of_reading hreading _ _ _)]
    rfl
  | error fault =>
    have hlog : ((scan.advance item.lexeme.length).settle (.error fault)
        scan.position).log.toList = scan.log.toList ++
          [.diagnostic ⟨fault, ⟨scan.position, scan.position + item.lexeme.length⟩⟩] :=
      Array.toList_push
    rw [hlog, Cursor.found, cursor.token?_of_error hreading, cursor.fault?_of_error hreading,
      hposition, h.position]
    rfl

variable (options : Options)

theorem IsBehind.log_readItem {item : Item} {after : List Char}
    (h : scan.IsBehind cursor done last found) (hitem : item.IsValid)
    (hrest : scan.rest = item.text ++ (item.lexeme.chars ++ after)) :
    ((Layout.itemPieces item).foldl (readPiece options) scan).log.toList =
      scan.log.toList ++ cursor.events item options := by
  have hmeasure := measure_item cursor.gauge hitem after
  have hgap := h.log_readGap options hrest hmeasure
  have hsettle := (h.readGap options hrest hmeasure).log_settle item
  have hread : (scan.readGap options item.text).readLexeme item.lexeme =
      ((scan.readGap options item.text).clearOwner.advance item.lexeme.length).settle
        item.lexeme.reading (scan.readGap options item.text).clearOwner.position := rfl
  have hclear : (scan.readGap options item.text).clearOwner.log =
      (scan.readGap options item.text).log := rfl
  rw [foldl_itemPieces options hitem.gap h.mode hrest, hread, hsettle, hclear, hgap,
    List.append_assoc]
  rfl

theorem log_settleTrailing (scan : Scan) :
    scan.settleTrailing.log.toList = scan.log.toList ++
      if (scan.staging.settleTrailing scan.position).1 then []
      else [.unattributed (scan.staging.settleTrailing scan.position).2.pending] := by
  unfold settleTrailing
  dsimp only
  split_ifs
  · exact (List.append_nil _).symm
  · exact Array.toList_push

theorem log_closeLevels (scan : Scan) :
    scan.closeLevels.log.toList = scan.log.toList ++
      (levelTokens scan.gauge.level 0 scan.position).map (·.event) :=
  log_addIndentation _ _ _ _

def closedLog (scan : Scan) : List Event :=
  scan.settleLast.settleTrailing.closeLevels.log.toList

theorem log_finish (scan : Scan) :
    scan.finish.log = scan.closedLog ++
      [.finished scan.finish.tokens.length scan.finish.diagnostics.length] := rfl

theorem IsBehind.leftOver_eq {tail : List Trivia} {final : Scan}
    (h : scan.IsBehind cursor done last found)
    (hposition : final.position = cursor.position + (Trivia.text tail).length)
    (hstaging : final.staging.clearOwner = .waiting
      (done ++ (last.map (·.extend (Text.lineLength (Trivia.text tail)))).toList)
      ((Trivia.text tail).length - cursor.taken (Trivia.text tail))) :
    (if (final.staging.settleTrailing final.position).1 then []
      else [.unattributed (final.staging.settleTrailing final.position).2.pending]) =
        cursor.leftOver tail := by
  have hsettled := Staging.settleTrailing_clearOwner final.staging final.position
  rw [hstaging, hposition, h.settleTrailing, Prod.mk.injEq] at hsettled
  obtain ⟨hnone, hleft⟩ := hsettled
  have hpending : (if cursor.owned then 0 else (Trivia.text tail).length) =
      (final.staging.settleTrailing (cursor.position + (Trivia.text tail).length)).2.pending :=
    congrArg Staging.pending hleft
  rw [hposition, ← hnone, ← hpending, Cursor.leftOver]
  cases cursor.owned <;> rfl

theorem IsBehind.closedLog_tail {tail : List Trivia} (h : scan.IsBehind cursor done last found)
    (htail : ∀ part ∈ tail, part.IsValid) (hrest : scan.rest = Trivia.text tail) :
    ((tail.map Piece.trivia).foldl (readPiece options) scan).closedLog =
      scan.log.toList ++ eventsFrom options tail cursor [] := by
  have hend : scan.rest = Trivia.text tail ++ [] := by
    rw [hrest, List.append_nil]
  have hgap := h.log_readGap options hend (measure_tail cursor.gauge htail)
  have hbefore := h.readTail options htail hrest
  rw [foldl_tail options htail h.mode hrest] at hbefore ⊢
  generalize scan.readGap options (Trivia.text tail) = final at hbefore hgap ⊢
  have hmode : final.mode = .between := hbefore.mode
  have hsettled : final.settleLast = final := by
    rw [settleLast, hmode]
  have hgauge : final.settleTrailing.gauge = cursor.gauge := hbefore.gauge
  have hposition : final.position = cursor.position + (Trivia.text tail).length := hbefore.position
  have hlast : final.settleTrailing.position = final.position := rfl
  rw [closedLog, hsettled, log_closeLevels, log_settleTrailing,
    h.leftOver_eq hposition hbefore.staging, hgauge, hlast, hposition, hgap, List.append_assoc]
  exact congrArg (· ++ _) (List.append_nil _)

theorem IsBehind.closedLog {items : List Item} {tail : List Trivia}
    (h : scan.IsBehind cursor done last found) (hvalid : Layout.IsValid ⟨items, tail⟩)
    (hrest : scan.rest = (Layout.pieces ⟨items, tail⟩).flatMap Piece.chars) :
    ((Layout.pieces ⟨items, tail⟩).foldl (readPiece options) scan).closedLog =
      scan.log.toList ++ eventsFrom options tail cursor items := by
  induction items generalizing scan cursor done last found with
  | nil =>
    have hpieces : Layout.pieces ⟨[], tail⟩ = tail.map .trivia := rfl
    rw [hpieces, Layout.flatMap_chars_trivia] at hrest
    exact h.closedLog_tail options hvalid.tail hrest
  | cons item items ih =>
    obtain ⟨hitem, hitems⟩ := List.forall_mem_cons.1 hvalid.items
    obtain ⟨hhere, hnext⟩ := rest_readItem options hrest
    have hlog := ih (h.readItem options hitem hhere) ⟨hitems, hvalid.tail⟩ hnext
    rw [Layout.pieces_mk_cons, List.foldl_append, hlog, h.log_readItem options hitem hhere,
      List.append_assoc]
    rfl

end Scan

/-- The log of a pass follows the layout of the text. -/
theorem log_tokenize (source : String) (options : Options) {items : List Item}
    {tail : List Trivia} (hlayout : Layout.ofText source.toList = ⟨items, tail⟩) :
    (tokenize source options).log =
      .started source.toList.length :: (eventsFrom options tail {} items ++
        [.finished (tokenize source options).tokens.length
          (tokenize source options).diagnostics.length]) := by
  have hvalid := Layout.isValid_ofText source.toList
  have hpieces := Layout.pieces_ofText source.toList
  rw [hlayout] at hvalid hpieces
  have hrest : (Scan.start source.toList).rest =
      (Layout.pieces ⟨items, tail⟩).flatMap Piece.chars := by
    rw [hpieces, flatMap_chars_pieces]
    rfl
  have hlog := (Scan.isBehind_start source.toList).closedLog options hvalid hrest
  rw [hpieces] at hlog
  rw [tokenize_eq_foldl, Scan.log_finish, hlog]
  rfl

end Offside
