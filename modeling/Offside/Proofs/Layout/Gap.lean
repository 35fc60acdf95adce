import Offside.Proofs.Layout.Valid
import Offside.Proofs.Pass

/-!
# A pass through a gap

Every line feed in a gap starts a line, which is measured. All but the last of these lines are blank
and tell nothing. The last one is blank as well unless a literal stands behind the gap.
-/

namespace Offside

open Indentation (Gauge Reading)

namespace Text

def isBlankLine (text : List Char) : Bool := atLineEnd (text.drop (leadingBlanks text).length)

theorem isBlankLine_cons_of_startsBlank {c : Char} {rest : List Char}
    (h : startsBlank (c :: rest) = true) : isBlankLine (c :: rest) = isBlankLine rest := by
  simp [isBlankLine, leadingBlanks, h]

theorem isBlankLine_cons_of_not_startsBlank {c : Char} {rest : List Char}
    (h : startsBlank (c :: rest) = false) : isBlankLine (c :: rest) = atLineEnd (c :: rest) := by
  simp [isBlankLine, leadingBlanks, h]

theorem isBlankLine_append {gap : List Trivia} {after : List Char}
    (hgap : ∀ part ∈ gap, part.IsValid) (h : '\n' ∈ Trivia.text gap ∨ after = []) :
    isBlankLine (Trivia.text gap ++ after) = true := by
  induction gap with
  | nil =>
    have hafter : after = [] := h.resolve_left List.not_mem_nil
    rw [hafter]
    rfl
  | cons part others ih =>
    obtain ⟨hpart, hothers⟩ := List.forall_mem_cons.1 hgap
    cases part with
    | comment text =>
      exact isBlankLine_cons_of_not_startsBlank rfl
    | blank c =>
      have hcons : Trivia.text (.blank c :: others) ++ after =
          c :: (Trivia.text others ++ after) := rfl
      have hmem : '\n' ∈ Trivia.text (.blank c :: others) ↔
          '\n' = c ∨ '\n' ∈ Trivia.text others := List.mem_cons
      rw [hcons]
      cases hstart : startsBlank (c :: (Trivia.text others ++ after)) with
      | false =>
        have hbreak := ((isSpace_iff (Trivia.text others ++ after)).1 hpart).resolve_right
          (by simp [hstart])
        rw [isBlankLine_cons_of_not_startsBlank hstart]
        simp [atLineEnd, hbreak]
      | true =>
        have hfeed : '\n' ≠ c := by
          rintro rfl
          simp [startsBlank] at hstart
        rw [hmem, or_iff_right hfeed] at h
        rw [isBlankLine_cons_of_startsBlank hstart]
        exact ih hothers h

theorem isBlankLine_lastLine {gap : List Trivia} (hgap : ∀ part ∈ gap, part.IsValid) :
    isBlankLine (lastLine (Trivia.text gap)) = true := by
  have hblank : ∀ gap : List Trivia, (∀ part ∈ gap, part.IsValid) →
      isBlankLine (Trivia.text gap) = true := by
    intro gap hvalid
    rw [← List.append_nil (Trivia.text gap)]
    exact isBlankLine_append hvalid (.inr rfl)
  induction gap with
  | nil => rfl
  | cons part others ih =>
    obtain ⟨hpart, hothers⟩ := List.forall_mem_cons.1 hgap
    have htext := Trivia.text_cons part others
    by_cases hmem : '\n' ∈ Trivia.text others
    · rw [htext, lastLine_append hmem]
      exact ih hothers
    · cases part with
      | comment text =>
        have hfeed : '\n' ∉ Trivia.text (.comment text :: others) := by
          simpa [htext, Trivia.chars, hmem, Trivia.IsValid] using hpart
        rw [lastLine_eq_self hfeed]
        exact hblank _ hgap
      | blank c =>
        have hcons : Trivia.text (.blank c :: others) = c :: Trivia.text others := rfl
        have hall := hblank _ hgap
        rw [hcons] at hall ⊢
        rw [lastLine, lastLine_eq_self hmem]
        split_ifs
        · exact hblank _ hothers
        · exact hall

theorem startsBlank_of_isSpace {c : Char} {rest : List Char} (hc : isSpace c = true)
    (hfeed : c ≠ '\n') (hrest : rest.head? ≠ some '\n') : startsBlank (c :: rest) = true := by
  apply ((isSpace_iff rest).1 hc).resolve_left
  unfold lineBreakLength
  split <;> simp_all

theorem leadingBlanks_append {blanks after : List Char} {c : Char}
    (hblanks : ∀ b ∈ blanks, isSpace b = true) (hfeed : '\n' ∉ blanks) (hc : isSpace c = false) :
    leadingBlanks (blanks ++ c :: after) = blanks := by
  have hne : c ≠ '\n' := by
    rintro rfl
    simp [isSpace] at hc
  induction blanks with
  | nil =>
    have hnot := mt (isSpace_iff after).2 (by rw [hc]; exact Bool.false_ne_true)
    rw [List.nil_append, leadingBlanks, if_neg fun h => hnot (.inr h)]
  | cons b others ih =>
    obtain ⟨hb, hothers⟩ := List.forall_mem_cons.1 hblanks
    rw [List.mem_cons, not_or] at hfeed
    have hhead : (others ++ c :: after).head? ≠ some '\n' := by
      cases others with
      | nil => simpa using hne
      | cons d ds =>
        rw [List.mem_cons, not_or] at hfeed
        simpa using Ne.symm hfeed.2.1
    rw [List.cons_append, leadingBlanks,
      if_pos (startsBlank_of_isSpace hb (Ne.symm hfeed.1) hhead), ih hothers hfeed.2]

theorem isBlankLine_append_of_isSpace {blanks after : List Char} {c : Char}
    (hblanks : ∀ b ∈ blanks, isSpace b = true) (hfeed : '\n' ∉ blanks) (hc : isSpace c = false)
    (hsign : c ≠ '#') : isBlankLine (blanks ++ c :: after) = false := by
  have hbreak : lineBreakLength (c :: after) = 0 := by
    by_contra h
    rw [(isSpace_iff after).2 (.inl h)] at hc
    cases hc
  rw [isBlankLine, leadingBlanks_append hblanks hfeed hc, List.drop_left]
  simp [atLineEnd, hsign, hbreak]

theorem not_mem_lastLine (text : List Char) : '\n' ∉ lastLine text := by
  induction text with
  | nil => exact List.not_mem_nil
  | cons c rest ih =>
    rw [lastLine]
    split_ifs with h
    · exact ih
    · exact h

end Text

namespace Scan

theorem measureLine_of_isBlankLine {options : Options} {scan : Scan} (hmode : scan.mode = .between)
    (h : Text.isBlankLine scan.rest = true) : scan.measureLine options = scan := by
  have hmeasure : scan.gauge.measure scan.rest = (.blank, scan.gauge) := if_pos h
  rw [measureLine, hmeasure]
  exact enter_of_mode hmode

/-- Reads the characters of a gap at once. Only the last line that starts in the gap is measured. -/
def readGap (options : Options) (scan : Scan) (text : List Char) : Scan :=
  if '\n' ∈ text then
    ((((scan.skip (Text.lineLength text)).clearOwner.skip
      (text.length - (Text.lineLength text + (Text.lastLine text).length))).measureLine
        options).skip (Text.lastLine text).length)
  else scan.skip text.length

variable (options : Options)

theorem readGap_skip {scan : Scan} {first rest : List Char} (h : '\n' ∉ first) :
    (scan.skip first.length).readGap options rest = scan.readGap options (first ++ rest) := by
  unfold readGap
  by_cases hrest : '\n' ∈ rest
  · have hlength : (first ++ rest).length - (first.length + Text.lineLength rest +
        (Text.lastLine rest).length) =
          rest.length - (Text.lineLength rest + (Text.lastLine rest).length) := by
      rw [List.length_append]
      omega
    rw [if_pos hrest, if_pos (List.mem_append_right _ hrest), Text.lineLength_append h,
      Text.lastLine_append hrest, skip_skip, hlength]
  · rw [if_neg hrest, if_neg (by simp [h, hrest]), skip_skip, List.length_append]

theorem clearOwner_skip_clearOwner (scan : Scan) (count : Nat) :
    (scan.clearOwner.skip count).clearOwner = scan.clearOwner.skip count := rfl

theorem readGap_lineFeed_of_not_mem (scan : Scan) {text : List Char} (h : '\n' ∉ text) :
    scan.readGap options ('\n' :: text) =
      ((scan.skip 1).clearOwner.measureLine options).skip text.length := by
  have hfirst : Text.lineLength ('\n' :: text) = 1 := if_pos rfl
  have hlast : Text.lastLine ('\n' :: text) = text := by
    rw [Text.lastLine, if_pos List.mem_cons_self, Text.lastLine_eq_self h]
  have hlength : ('\n' :: text).length - (1 + text.length) = 0 := by
    rw [List.length_cons]
    omega
  rw [readGap, if_pos List.mem_cons_self, hfirst, hlast, hlength, skip_zero]

theorem readGap_lineFeed_of_mem (scan : Scan) {text : List Char} (h : '\n' ∈ text) :
    scan.readGap options ('\n' :: text) = (scan.skip 1).clearOwner.readGap options text := by
  have hfirst : Text.lineLength ('\n' :: text) = 1 := if_pos rfl
  have hlast : Text.lastLine ('\n' :: text) = Text.lastLine text := by
    rw [Text.lastLine, if_pos List.mem_cons_self]
  have hle := Text.lineLength_add_length_lastLine_le h
  have hlength : ('\n' :: text).length - (1 + (Text.lastLine text).length) =
      Text.lineLength text +
        (text.length - (Text.lineLength text + (Text.lastLine text).length)) := by
    rw [List.length_cons]
    omega
  rw [readGap, if_pos List.mem_cons_self, hfirst, hlast, hlength, readGap, if_pos h,
    clearOwner_skip_clearOwner, skip_skip]

theorem foldl_readTrivia {gap : List Trivia} {after : List Char} {scan : Scan}
    (hgap : ∀ part ∈ gap, part.IsValid) (hmode : scan.mode = .between)
    (hrest : scan.rest = Trivia.text gap ++ after) :
    gap.foldl (readTrivia options) scan = scan.readGap options (Trivia.text gap) := by
  induction gap generalizing scan with
  | nil => exact (skip_zero scan).symm
  | cons part others ih =>
    obtain ⟨hpart, hothers⟩ := List.forall_mem_cons.1 hgap
    have htext := Trivia.text_cons part others
    rw [htext] at hrest
    rw [List.foldl_cons, htext]
    cases part with
    | comment text =>
      have hfeed : '\n' ∉ (Trivia.comment text).chars := by
        simpa [Trivia.chars, Trivia.IsValid] using hpart
      have hread : scan.readTrivia options (.comment text) =
          scan.skip (Trivia.comment text).chars.length := rfl
      rw [hread, ← readGap_skip options hfeed]
      exact ih hothers hmode (by simp [hrest])
    | blank c =>
      by_cases hc : c = '\n'
      · subst hc
        have hread : scan.readTrivia options (.blank '\n') =
            (scan.skip 1).clearOwner.measureLine options := by rw [readTrivia, if_pos rfl]
        have hskip : ((scan.skip 1).clearOwner).mode = .between := hmode
        have hafter : ((scan.skip 1).clearOwner).rest = Trivia.text others ++ after := by
          simp [hrest, Trivia.chars]
        have hcons : (Trivia.blank '\n').chars ++ Trivia.text others =
            '\n' :: Trivia.text others := rfl
        rw [hread, hcons, ih hothers (mode_measureLine _ _) (by rw [rest_measureLine, hafter])]
        by_cases hmem : '\n' ∈ Trivia.text others
        · -- The line that starts here is blank, so it is as good as not measured.
          have hblank : Text.isBlankLine (Trivia.text others ++ after) = true :=
            Text.isBlankLine_append hothers (.inl hmem)
          rw [measureLine_of_isBlankLine hskip (by rw [hafter, hblank]),
            readGap_lineFeed_of_mem options scan hmem]
        · rw [readGap, if_neg hmem, readGap_lineFeed_of_not_mem options scan hmem]
      · have hfeed : '\n' ∉ (Trivia.blank c).chars := by
          simpa [Trivia.chars] using Ne.symm hc
        have hread : scan.readTrivia options (.blank c) =
            scan.skip (Trivia.blank c).chars.length := if_neg hc
        rw [hread, ← readGap_skip options hfeed]
        exact ih hothers hmode (by simp [hrest])

theorem foldl_itemPieces {item : Item} {after : List Char} {scan : Scan}
    (hgap : ∀ part ∈ item.gap, part.IsValid) (hmode : scan.mode = .between)
    (hrest : scan.rest = item.text ++ after) :
    (Layout.itemPieces item).foldl (readPiece options) scan =
      (scan.readGap options item.text).readLexeme item.lexeme := by
  have hfold : (Layout.itemPieces item).foldl (readPiece options) scan =
      (item.gap.foldl (readTrivia options) scan).readLexeme item.lexeme := by
    rw [Layout.itemPieces, List.foldl_append, List.foldl_map]
    rfl
  rw [hfold, foldl_readTrivia options hgap hmode hrest]
  rfl

theorem foldl_tail {tail : List Trivia} {scan : Scan} (htail : ∀ part ∈ tail, part.IsValid)
    (hmode : scan.mode = .between) (hrest : scan.rest = Trivia.text tail) :
    (tail.map Piece.trivia).foldl (readPiece options) scan =
      scan.readGap options (Trivia.text tail) := by
  rw [← List.append_nil (Trivia.text tail)] at hrest
  rw [List.foldl_map]
  exact foldl_readTrivia options htail hmode hrest

theorem measure_append (gauge : Gauge) {blanks after : List Char} {c : Char}
    (hblanks : ∀ b ∈ blanks, Text.isSpace b = true) (hfeed : '\n' ∉ blanks)
    (hspace : Text.isSpace c = false) (hsign : c ≠ '#') :
    gauge.measure (blanks ++ c :: after) =
      gauge.enter (Indentation.width blanks) blanks.length := by
  have hblank : ¬Text.isBlankLine (blanks ++ c :: after) = true := by
    rw [Text.isBlankLine_append_of_isSpace hblanks hfeed hspace hsign]
    exact Bool.false_ne_true
  have hmeasure : gauge.measure (blanks ++ c :: after) =
      gauge.enter (Indentation.width (Text.leadingBlanks (blanks ++ c :: after)))
        (Text.leadingBlanks (blanks ++ c :: after)).length := if_neg hblank
  rw [hmeasure, Text.leadingBlanks_append hblanks hfeed hspace]

/-- What the line of a literal tells the gauge is what the pass measures there. -/
theorem measure_item (gauge : Gauge) {item : Item} (hitem : item.IsValid) (after : List Char) :
    item.measure gauge = if '\n' ∈ item.text then
      gauge.measure (Text.lastLine item.text ++ (item.lexeme.chars ++ after))
        else (.blank, gauge) := by
  obtain ⟨c, rest, hchars, hspace, hsign⟩ := hitem.lexeme
  rw [hchars, List.cons_append,
    measure_append gauge hitem.indent (Text.not_mem_lastLine _) hspace hsign]
  rfl

theorem measure_tail (gauge : Gauge) {tail : List Trivia} (htail : ∀ part ∈ tail, part.IsValid) :
    (Reading.blank, gauge) = if '\n' ∈ Trivia.text tail then
      gauge.measure (Text.lastLine (Trivia.text tail) ++ []) else (.blank, gauge) := by
  have hblank := Text.isBlankLine_lastLine htail
  have hline : gauge.measure (Text.lastLine (Trivia.text tail)) = (.blank, gauge) :=
    if_pos hblank
  rw [List.append_nil, hline, ite_self]

end Scan

end Offside
