import Offside.Proofs.Layout.Findings
import Offside.Proofs.Layout.Gap
import Offside.Proofs.Reading

/-!
# A pass finds what the layout holds

Behind a literal the state of a pass is known from the cursor: the tokens so far, the last of which
may still grow, no pending trivia, and the gauge. Reading the gap and the literal of an item takes
such a state to the next one.
-/

namespace Offside

open Indentation (Gauge Reading)

namespace Staging

/-- The tokens `done` cannot change any more. The trivia that follows belongs to `last`. -/
def behind (done : List Token) (last : Option Token) : Staging where
  tokens := (done ++ last.toList).toArray
  owner := last.map fun _ => done.length

def waiting (tokens : List Token) (pending : Nat) : Staging where
  tokens := tokens.toArray
  pending := pending

theorem addTrivia_waiting (tokens : List Token) (pending count : Nat) :
    (waiting tokens pending).addTrivia count = waiting tokens (pending + count) := rfl

theorem modify_concat (done : List Token) (token : Token) (change : Token → Token) :
    (done ++ [token]).modify done.length change = done ++ [change token] := by
  induction done with
  | nil => rfl
  | cons first others ih =>
    rw [List.cons_append, List.length_cons, List.modify_succ_cons, ih, List.cons_append]

theorem addTrivia_behind (done : List Token) (last : Option Token) (count : Nat) :
    ((behind done last).addTrivia count).clearOwner =
      waiting (done ++ (last.map (·.extend count)).toList) (if last.isSome then 0 else count) := by
  cases last with
  | none => simp [behind, waiting, addTrivia, clearOwner]
  | some token =>
    have hmodify : (done ++ [token]).toArray.modify done.length (·.extend count) =
        (done ++ [token.extend count]).toArray := by
      apply Array.toList_inj.1
      rw [Array.toList_modify]
      exact modify_concat done token _
    simp [behind, waiting, addTrivia, clearOwner, hmodify]

/-! ### The trivia behind the last literal -/

theorem lastLiteral?_concat (done : List Token) {token : Token} (h : token.isIndentation = false) :
    lastLiteral? (done ++ [token]).toArray (done.length + 1) = some done.length := by
  simp [lastLiteral?, h]

theorem exists_of_lastLiteral? {tokens : Array Token} {count index : Nat}
    (h : lastLiteral? tokens count = some index) :
    ∃ token, tokens[index]? = some token ∧ token.isIndentation = false := by
  induction count with
  | zero => cases h
  | succ count ih =>
    rw [lastLiteral?] at h
    split_ifs at h with hliteral
    · cases h
      simpa [Option.any_eq_true] using hliteral
    · exact ih h

theorem settleTrailing_clearOwner (staging : Staging) (endOfText : Nat) :
    staging.clearOwner.settleTrailing endOfText =
      ((staging.settleTrailing endOfText).1,
        (staging.settleTrailing endOfText).2.clearOwner) := by
  unfold settleTrailing clearOwner
  dsimp only
  split_ifs
  · rfl
  · cases lastLiteral? staging.tokens staging.tokens.size with
    | none => rfl
    | some index =>
      dsimp only
      split_ifs <;> rfl

theorem settleTrailing_concat (done : List Token) {token : Token} {pending endOfText : Nat}
    (hliteral : token.isIndentation = false) (hstop : token.span.stop + pending = endOfText) :
    (waiting (done ++ [token]) pending).settleTrailing endOfText =
      (true, waiting (done ++ [token.extend pending]) 0) := by
  have hlast : lastLiteral? (waiting (done ++ [token]) pending).tokens
      (waiting (done ++ [token]) pending).tokens.size = some done.length := by
    simpa [waiting] using lastLiteral?_concat done hliteral
  have hmodify := modify_concat done token (·.extend pending)
  unfold settleTrailing
  split_ifs with hpending
  · have hzero : pending = 0 := hpending
    rw [hzero]
    rfl
  · rw [hlast]
    simp [waiting, hstop, hmodify]

theorem settleTrailing_of_lt {done : List Token} {position pending : Nat}
    (hstop : ∀ token ∈ done, token.isIndentation = false → token.span.stop < position) :
    (waiting done pending).settleTrailing (position + pending) =
      (decide (pending = 0), waiting done pending) := by
  unfold settleTrailing
  split_ifs with hpending
  · have hzero : pending = 0 := hpending
    simp [hzero]
  · have hne : pending ≠ 0 := hpending
    cases hlast : lastLiteral? (waiting done pending).tokens (waiting done pending).tokens.size with
    | none => simp [hne]
    | some index =>
      obtain ⟨token, htoken, hliteral⟩ := exists_of_lastLiteral? hlast
      have hmem : token ∈ done := by
        simpa [waiting] using Array.mem_of_getElem? htoken
      have hlt := hstop token hmem hliteral
      have hstart : token.span.stop + pending ≠ position + pending := by
        omega
      have hany : (((waiting done pending).tokens)[index]?).any (fun token =>
          token.span.stop + (waiting done pending).pending = position + pending) = false := by
        rw [htoken]
        simpa [waiting] using hstart
      dsimp only
      rw [hany]
      simp [hne]

end Staging

namespace Scan

/-! ### Between two literals -/

/-- The state in front of a literal, once no token owns what follows. -/
structure IsBefore (scan : Scan) (position : Nat) (gauge : Gauge) (tokens : List Token)
    (pending : Nat) (found : List Diagnostic) : Prop where
  mode : scan.mode = .between
  position : scan.position = position
  gauge : scan.gauge = gauge
  staging : scan.staging = .waiting tokens pending
  diagnostics : scan.diagnostics.toList = found

/-- The state behind a literal. The token `last`, if the literal is one, may still grow. -/
structure IsBehind (scan : Scan) (cursor : Cursor) (done : List Token) (last : Option Token)
    (found : List Diagnostic) : Prop where
  mode : scan.mode = .between
  position : scan.position = cursor.position
  gauge : scan.gauge = cursor.gauge
  staging : scan.staging = .behind done last
  diagnostics : scan.diagnostics.toList = found
  owned : last.isSome = cursor.owned
  last : ∀ token ∈ last, token.isIndentation = false ∧ token.span.stop = cursor.position
  done : ∀ token ∈ done, token.isIndentation = false → token.span.stop < cursor.position

variable {scan : Scan} {cursor : Cursor} {position pending : Nat} {gauge : Gauge}
  {done tokens : List Token} {last : Option Token} {found : List Diagnostic}

theorem IsBehind.skip (h : scan.IsBehind cursor done last found) (count : Nat) :
    (scan.skip count).clearOwner.IsBefore (cursor.position + count) cursor.gauge
      (done ++ (last.map (·.extend count)).toList) (if cursor.owned then 0 else count) found where
  mode := h.mode
  position := by rw [← h.position]; rfl
  gauge := h.gauge
  staging := by
    have hstaging := Staging.addTrivia_behind done last count
    rw [← h.staging, h.owned] at hstaging
    exact hstaging
  diagnostics := h.diagnostics

theorem IsBefore.skip (h : scan.IsBefore position gauge tokens pending found) (count : Nat) :
    (scan.skip count).IsBefore (position + count) gauge tokens (pending + count) found where
  mode := h.mode
  position := by rw [← h.position]; rfl
  gauge := h.gauge
  staging := by
    rw [← Staging.addTrivia_waiting, ← h.staging]
    rfl
  diagnostics := h.diagnostics

theorem IsBefore.clearOwner (h : scan.IsBefore position gauge tokens pending found) :
    scan.clearOwner.IsBefore position gauge tokens pending found where
  mode := h.mode
  position := h.position
  gauge := h.gauge
  staging := by
    have hclear : (Staging.waiting tokens pending).clearOwner = .waiting tokens pending := rfl
    rw [← hclear, ← h.staging]
    rfl
  diagnostics := h.diagnostics

theorem IsBefore.addDiagnostic (h : scan.IsBefore position gauge tokens pending found)
    (fault : Fault) (span : Span) :
    (scan.addDiagnostic fault span).IsBefore position gauge tokens pending
      (found ++ [⟨fault, span⟩]) where
  mode := h.mode
  position := h.position
  gauge := h.gauge
  staging := h.staging
  diagnostics := by
    rw [← h.diagnostics]
    exact Array.toList_push

theorem tokens_addIndentation (scan : Scan) (previous current place : Nat) :
    (scan.addIndentation previous current place).staging.tokens.toList =
      scan.staging.tokens.toList ++ levelTokens previous current place := by
  simp [addIndentation, levelTokens]

theorem IsBefore.addIndentation (h : scan.IsBefore position gauge tokens pending found)
    (previous current place : Nat) :
    (scan.addIndentation previous current place).IsBefore position gauge
      (tokens ++ levelTokens previous current place) pending found where
  mode := h.mode
  position := h.position
  gauge := h.gauge
  staging := by
    simp [Scan.addIndentation, h.staging, Staging.waiting, levelTokens]
  diagnostics := h.diagnostics

theorem IsBefore.measureLine (options : Options)
    (h : scan.IsBefore position gauge tokens pending found) :
    (scan.measureLine options).IsBefore position (gauge.measure scan.rest).2
      (tokens ++ (gauge.measure scan.rest).1.tokens (position - pending)) pending
      (found ++ (gauge.measure scan.rest).1.diagnostics options position) := by
  have hpending : scan.staging.pending = pending := by
    rw [h.staging]
    rfl
  have hposition := h.position
  subst hposition
  unfold Scan.measureLine
  rw [h.gauge, hpending]
  obtain ⟨reading, next⟩ := gauge.measure scan.rest
  have hmeasured : IsBefore { scan with mode := .between, gauge := next } scan.position next tokens
      pending found := ⟨rfl, rfl, rfl, h.staging, h.diagnostics⟩
  cases reading with
  | blank => simpa [Reading.tokens, Reading.diagnostics] using hmeasured
  | level previous current =>
    simpa [Reading.tokens, Reading.diagnostics] using
      hmeasured.addIndentation previous current (scan.position - pending)
  | ambiguous width unit run =>
    by_cases hwarn : options.warnAmbiguous = true
    · simpa [Reading.tokens, Reading.diagnostics, hwarn] using
        hmeasured.addDiagnostic (.ambiguousIndentation width unit)
          ⟨scan.position, scan.position + run⟩
    · simpa [Reading.tokens, Reading.diagnostics, hwarn] using hmeasured

/-! ### The gap of an item -/

theorem IsBehind.readGap_of_not_mem (options : Options) {text : List Char}
    (h : scan.IsBehind cursor done last found) (hfeed : '\n' ∉ text) :
    (scan.readGap options text).clearOwner.IsBefore (cursor.position + text.length) cursor.gauge
      (done ++ (last.map (·.extend (Text.lineLength text))).toList)
      (text.length - cursor.taken text) found := by
  have hpending : (if cursor.owned then 0 else text.length) =
      text.length - (if cursor.owned then text.length else 0) := by
    split_ifs <;> omega
  unfold Scan.readGap Cursor.taken
  rw [if_neg hfeed, Text.lineLength_eq_length hfeed, ← hpending]
  exact h.skip text.length

theorem IsBehind.lineStart {text after : List Char} (h : scan.IsBehind cursor done last found)
    (hrest : scan.rest = text ++ after) (hfeed : '\n' ∈ text) :
    ((scan.skip (Text.lineLength text)).clearOwner.skip
        (text.length - (Text.lineLength text + (Text.lastLine text).length))).IsBefore
      (cursor.position + text.length - (Text.lastLine text).length) cursor.gauge
      (done ++ (last.map (·.extend (Text.lineLength text))).toList)
      (text.length - (Text.lastLine text).length - cursor.taken text) found ∧
    ((scan.skip (Text.lineLength text)).clearOwner.skip
        (text.length - (Text.lineLength text + (Text.lastLine text).length))).rest =
      Text.lastLine text ++ after := by
  obtain ⟨middle, hlength, hdrop⟩ := Text.exists_drop_eq_lastLine hfeed
  have hsub : text.length - (Text.lineLength text + (Text.lastLine text).length) = middle := by
    omega
  rw [hsub]
  constructor
  · have hposition : cursor.position + Text.lineLength text + middle =
        cursor.position + text.length - (Text.lastLine text).length := by
      omega
    have hpending : (if cursor.owned then 0 else Text.lineLength text) + middle =
        text.length - (Text.lastLine text).length -
          (if cursor.owned then Text.lineLength text else 0) := by
      split_ifs <;> omega
    have hline := (h.skip (Text.lineLength text)).skip middle
    rw [hposition, hpending] at hline
    exact hline
  · rw [rest_skip, rest_clearOwner, rest_skip, List.drop_drop, hrest, hdrop]

theorem IsBehind.readGap_of_mem (options : Options) {text after : List Char}
    (h : scan.IsBehind cursor done last found) (hrest : scan.rest = text ++ after)
    (hfeed : '\n' ∈ text) :
    (scan.readGap options text).clearOwner.IsBefore (cursor.position + text.length)
      (cursor.gauge.measure (Text.lastLine text ++ after)).2
      (done ++ (last.map (·.extend (Text.lineLength text))).toList ++
        (cursor.gauge.measure (Text.lastLine text ++ after)).1.tokens
          (cursor.position + cursor.taken text))
      (text.length - cursor.taken text)
      (found ++ (cursor.gauge.measure (Text.lastLine text ++ after)).1.diagnostics options
        (cursor.position + text.length - (Text.lastLine text).length)) := by
  obtain ⟨hline, hlineRest⟩ := h.lineStart hrest hfeed
  have hafter := ((hline.measureLine options).skip (Text.lastLine text).length).clearOwner
  have hle := Text.lineLength_add_length_lastLine_le hfeed
  have htaken := cursor.taken_le_lineLength text
  have hposition : cursor.position + text.length - (Text.lastLine text).length +
      (Text.lastLine text).length = cursor.position + text.length := by
    omega
  have hpending : text.length - (Text.lastLine text).length - cursor.taken text +
      (Text.lastLine text).length = text.length - cursor.taken text := by
    omega
  have hplace : cursor.position + text.length - (Text.lastLine text).length -
      (text.length - (Text.lastLine text).length - cursor.taken text) =
        cursor.position + cursor.taken text := by
    omega
  rw [hlineRest, hplace, hposition, hpending] at hafter
  unfold Scan.readGap
  rw [if_pos hfeed]
  exact hafter

/-- A gap is given out to the token before it and to what comes behind, and its last line is
measured. -/
theorem IsBehind.readGap (options : Options) {text after : List Char} {measured : Reading × Gauge}
    (h : scan.IsBehind cursor done last found) (hrest : scan.rest = text ++ after)
    (hmeasure : measured = if '\n' ∈ text then
      cursor.gauge.measure (Text.lastLine text ++ after) else (.blank, cursor.gauge)) :
    (scan.readGap options text).clearOwner.IsBefore (cursor.position + text.length) measured.2
      (done ++ (last.map (·.extend (Text.lineLength text))).toList ++
        measured.1.tokens (cursor.position + cursor.taken text))
      (text.length - cursor.taken text)
      (found ++ measured.1.diagnostics options
        (cursor.position + text.length - (Text.lastLine text).length)) := by
  by_cases hfeed : '\n' ∈ text
  · rw [hmeasure, if_pos hfeed]
    exact h.readGap_of_mem options hrest hfeed
  · rw [hmeasure, if_neg hfeed]
    simpa [Reading.tokens, Reading.diagnostics] using h.readGap_of_not_mem options hfeed

/-! ### The literal of an item -/

theorem IsBefore.settle_ok (kind : TokenKind) (length : Nat) {start leading : Nat}
    (h : scan.IsBefore (start + leading) gauge tokens leading found) :
    ((scan.advance length).settle (.ok kind) scan.position).staging =
      .behind tokens (some ⟨kind, ⟨start, start + leading + length⟩, leading, 0⟩) := by
  have hpending : scan.staging.pending = leading := by
    rw [h.staging]
    rfl
  have hpush : ((scan.advance length).settle (.ok kind) scan.position).staging =
      ((scan.staging.takePending.2.push ⟨kind, ⟨scan.position - scan.staging.pending,
        scan.position + length⟩, scan.staging.pending, 0⟩).setOwner
          scan.staging.tokens.size) := rfl
  rw [hpush, hpending, h.position, Nat.add_sub_cancel, h.staging]
  simp [Staging.waiting, Staging.takePending, Staging.push, Staging.setOwner, Staging.behind]

theorem IsBefore.settle_error (fault : Fault) (length : Nat)
    (h : scan.IsBefore position gauge tokens pending found) :
    ((scan.advance length).settle (.error fault) scan.position).staging = .behind tokens none ∧
      ((scan.advance length).settle (.error fault) scan.position).diagnostics.toList =
        found ++ [⟨fault, ⟨position, position + length⟩⟩] := by
  constructor
  · have hdrop : ((scan.advance length).settle (.error fault) scan.position).staging =
        scan.staging.takePending.2 := rfl
    rw [hdrop, h.staging]
    simp [Staging.waiting, Staging.takePending, Staging.behind]
  · rw [← h.diagnostics, ← h.position]
    exact Array.toList_push

theorem IsBefore.settle {item : Item}
    (h : scan.IsBefore (cursor.start item) (cursor.next item).gauge tokens (cursor.leading item)
      found)
    (hstop : ∀ token ∈ tokens, token.isIndentation = false → token.span.stop ≤ cursor.start item) :
    ((scan.advance item.lexeme.length).settle item.lexeme.reading scan.position).IsBehind
      (cursor.next item) tokens (cursor.token? item) (found ++ (cursor.fault? item).toList) := by
  have hnext := cursor.start_lt_position_next item
  have hdone : ∀ token ∈ tokens, token.isIndentation = false →
      token.span.stop < (cursor.next item).position := by
    intro token hmem hliteral
    have hle := hstop token hmem hliteral
    omega
  have hposition : scan.position + item.lexeme.length = (cursor.next item).position := by
    rw [h.position]
    rfl
  cases hreading : item.lexeme.reading with
  | ok kind =>
    have hstart := cursor.start_eq item
    have hstaging : ((scan.advance item.lexeme.length).settle (.ok kind) scan.position).staging =
        .behind tokens (cursor.token? item) := by
      rw [← hstart] at h
      rw [h.settle_ok kind item.lexeme.length, hstart, cursor.token?_of_ok hreading]
      rfl
    rw [cursor.token?_of_ok hreading] at hstaging ⊢
    rw [cursor.fault?_of_ok hreading]
    refine ⟨rfl, hposition, h.gauge, hstaging, ?diagnostics, ?owned, ?last, hdone⟩
    case diagnostics =>
      rw [Option.toList_none, List.append_nil]
      exact h.diagnostics
    case owned => exact (cursor.owned_next_of_ok hreading).symm
    case last =>
      intro token hmem
      cases hmem
      exact ⟨Lexeme.isIndentation_of_reading hreading _ _ _, rfl⟩
  | error fault =>
    obtain ⟨hstaging, hdiagnostics⟩ := h.settle_error fault item.lexeme.length
    rw [cursor.token?_of_error hreading, cursor.fault?_of_error hreading]
    refine ⟨rfl, hposition, h.gauge, hstaging, hdiagnostics, ?owned, ?last, hdone⟩
    case owned => exact (cursor.owned_next_of_error hreading).symm
    case last =>
      intro token hmem
      cases hmem

/-! ### Items and the tail -/

variable (options : Options)

theorem IsBehind.readItem {item : Item} {after : List Char}
    (h : scan.IsBehind cursor done last found) (hitem : item.IsValid)
    (hrest : scan.rest = item.text ++ (item.lexeme.chars ++ after)) :
    ((Layout.itemPieces item).foldl (readPiece options) scan).IsBehind (cursor.next item)
      (done ++ (last.map (·.extend (Text.lineLength item.text))).toList ++ cursor.changes item)
      (cursor.token? item)
      (found ++ cursor.warnings item options ++ (cursor.fault? item).toList) := by
  have hbefore := h.readGap options hrest (measure_item cursor.gauge hitem after)
  rw [foldl_itemPieces options hitem.gap h.mode hrest]
  apply hbefore.settle
  intro token hmem hliteral
  rw [List.mem_append, List.mem_append, Option.mem_toList,
    Option.map_eq_some_iff] at hmem
  obtain (hdone | ⟨grown, hgrown, rfl⟩) | hchange := hmem
  · have hlt := h.done token hdone hliteral
    unfold Cursor.start
    omega
  · have hstop := (h.last grown hgrown).2
    have hle := Text.lineLength_le item.text
    simp only [Token.extend, Cursor.start]
    omega
  · rw [cursor.isIndentation_of_mem_changes item hchange] at hliteral
    cases hliteral

theorem IsBehind.readTail {tail : List Trivia} (h : scan.IsBehind cursor done last found)
    (htail : ∀ part ∈ tail, part.IsValid) (hrest : scan.rest = Trivia.text tail) :
    ((tail.map Piece.trivia).foldl (readPiece options) scan).clearOwner.IsBefore
      (cursor.position + (Trivia.text tail).length) cursor.gauge
      (done ++ (last.map (·.extend (Text.lineLength (Trivia.text tail)))).toList)
      ((Trivia.text tail).length - cursor.taken (Trivia.text tail)) found := by
  have hend : scan.rest = Trivia.text tail ++ [] := by
    rw [hrest, List.append_nil]
  have hbefore := h.readGap options hend (measure_tail cursor.gauge htail)
  rw [foldl_tail options htail h.mode hrest]
  simpa [Reading.tokens, Reading.diagnostics] using hbefore

theorem IsBefore.finish (h : scan.clearOwner.IsBefore position gauge tokens pending found) :
    scan.finish.tokens =
        ((Staging.waiting tokens pending).settleTrailing position).2.tokens.toList ++
          levelTokens gauge.level 0 position ∧
      scan.finish.diagnostics = found := by
  have hmode : scan.mode = .between := h.mode
  have hsettled : scan.settleLast = scan := by
    rw [settleLast, hmode]
  have hstaging : scan.staging.clearOwner = .waiting tokens pending := h.staging
  have hposition : scan.position = position := h.position
  have hgauge : scan.gauge = gauge := h.gauge
  constructor
  · have htokens : scan.finish.tokens = (scan.settleLast.staging.settleTrailing
        scan.settleLast.position).2.tokens.toList ++ levelTokens scan.settleLast.gauge.level 0
          scan.settleLast.position := tokens_addIndentation _ _ _ _
    have howner := Staging.settleTrailing_clearOwner scan.staging scan.position
    rw [hstaging] at howner
    rw [htokens, hsettled, ← hposition, howner, hgauge]
    rfl
  · have hdiagnostics : scan.finish.diagnostics = scan.settleLast.diagnostics.toList := rfl
    rw [hdiagnostics, hsettled]
    exact h.diagnostics

theorem IsBehind.settleTrailing (h : scan.IsBehind cursor done last found) (gap : List Char) :
    (Staging.waiting (done ++ (last.map (·.extend (Text.lineLength gap))).toList)
        (gap.length - cursor.taken gap)).settleTrailing (cursor.position + gap.length) =
      (cursor.owned || decide (gap.length = 0),
        .waiting (done ++ (last.map (·.extend gap.length)).toList)
          (if cursor.owned then 0 else gap.length)) := by
  have howned := h.owned
  have hle := Text.lineLength_le gap
  cases last with
  | none =>
    have hnot : cursor.owned = false := howned.symm
    have htaken : cursor.taken gap = 0 := if_neg (by simp [hnot])
    rw [htaken, Nat.sub_zero, Option.map_none, Option.map_none, Option.toList_none,
      List.append_nil, Staging.settleTrailing_of_lt h.done, hnot]
    rfl
  | some token =>
    obtain ⟨hliteral, hstop⟩ := h.last token rfl
    have htrue : cursor.owned = true := howned.symm
    have htaken : cursor.taken gap = Text.lineLength gap := if_pos htrue
    -- The token has its first line of trivia by now and gets the rest.
    have hgrown : (token.extend (Text.lineLength gap)).span.stop +
        (gap.length - Text.lineLength gap) = cursor.position + gap.length := by
      simp only [Token.extend]
      omega
    rw [← token.isIndentation_extend (Text.lineLength gap)] at hliteral
    rw [htaken, Option.map_some, Option.toList_some,
      Staging.settleTrailing_concat done hliteral hgrown, Token.extend_extend,
      Nat.add_sub_cancel' hle, htrue]
    rfl

/-! ### The rest of a text -/

theorem rest_readItem {item : Item} {items : List Item} {tail : List Trivia}
    (hrest : scan.rest = (Layout.pieces ⟨item :: items, tail⟩).flatMap Piece.chars) :
    scan.rest = item.text ++ (item.lexeme.chars ++
        (Layout.pieces ⟨items, tail⟩).flatMap Piece.chars) ∧
      ((Layout.itemPieces item).foldl (readPiece options) scan).rest =
        (Layout.pieces ⟨items, tail⟩).flatMap Piece.chars := by
  rw [Layout.pieces_mk_cons, List.flatMap_append] at hrest
  have hnext := rest_foldl_readPiece options hrest
  rw [Layout.flatMap_chars_itemPieces, List.append_assoc] at hrest
  exact ⟨hrest, hnext⟩

/-- From any state behind a literal, the pass finds what the rest of the layout holds. -/
theorem IsBehind.finish {items : List Item} {tail : List Trivia}
    (h : scan.IsBehind cursor done last found) (hvalid : Layout.IsValid ⟨items, tail⟩)
    (hrest : scan.rest = (Layout.pieces ⟨items, tail⟩).flatMap Piece.chars) :
    ((Layout.pieces ⟨items, tail⟩).foldl (readPiece options) scan).finish.tokens =
        done ++ (last.map (·.extend (trailing tail items))).toList ++
          tokensFrom tail cursor items ∧
      ((Layout.pieces ⟨items, tail⟩).foldl (readPiece options) scan).finish.diagnostics =
        found ++ diagnosticsFrom options cursor items := by
  -- `IsBehind` is the invariant: it holds again behind each item, at the cursor that is next.
  induction items generalizing scan cursor done last found with
  | nil =>
    have hpieces : Layout.pieces ⟨[], tail⟩ = tail.map .trivia := rfl
    rw [hpieces, Layout.flatMap_chars_trivia] at hrest
    have htail : ∀ part ∈ tail, part.IsValid := hvalid.tail
    have hfinish := (h.readTail options htail hrest).finish
    rw [hpieces, hfinish.1, hfinish.2, h.settleTrailing]
    exact ⟨rfl, (List.append_nil found).symm⟩
  | cons item items ih =>
    obtain ⟨hitem, hitems⟩ := List.forall_mem_cons.1 hvalid.items
    obtain ⟨hhere, hnext⟩ := rest_readItem options hrest
    obtain ⟨htokens, hdiagnostics⟩ :=
      ih (h.readItem options hitem hhere) ⟨hitems, hvalid.tail⟩ hnext
    rw [Layout.pieces_mk_cons, List.foldl_append, htokens, hdiagnostics]
    constructor
    · simp [tokensFrom, trailing]
    · simp [diagnosticsFrom]

theorem isBehind_start (source : List Char) : (start source).IsBehind {} [] none [] :=
  ⟨rfl, rfl, rfl, rfl, rfl, rfl, by simp, by simp⟩

end Scan

theorem tokenize_eq_layout (source : String) (options : Options) :
    (tokenize source options).tokens = (Layout.ofText source.toList).tokens ∧
      (tokenize source options).diagnostics =
        (Layout.ofText source.toList).diagnostics options := by
  have hrest : (Scan.start source.toList).rest =
      (Layout.ofText source.toList).pieces.flatMap Piece.chars := by
    rw [Layout.pieces_ofText, flatMap_chars_pieces]
    rfl
  have hfinish := (Scan.isBehind_start source.toList).finish options
    (Layout.isValid_ofText source.toList) hrest
  rw [tokenize_eq_foldl, ← Layout.pieces_ofText]
  exact hfinish

theorem tokens_tokenize (source : String) (options : Options) :
    (tokenize source options).tokens = (Layout.ofText source.toList).tokens :=
  (tokenize_eq_layout source options).1

theorem diagnostics_tokenize (source : String) (options : Options) :
    (tokenize source options).diagnostics = (Layout.ofText source.toList).diagnostics options :=
  (tokenize_eq_layout source options).2

end Offside
