import Mathlib.Algebra.BigOperators.Group.List.Basic
import Mathlib.Algebra.Ring.Int.Defs
import Mathlib.Data.List.DropRight
import Offside.Proofs.Units

/-!
# The readings of a gauge

A gauge may be asked about any lines and closed at any time. Each of its readings tells the truth
about the line and about the level before it and behind it, so between two times that the gauge is
closed the changes of level add up to the number of levels that are then open.
-/

namespace Offside.Indentation

/-! ### Single lines -/

/-- The line is indented by its first `run` characters: they are blanks, and no blank follows. -/
structure IsIndent (line : List Char) (run : Nat) : Prop where
  blank : ∀ index < run, Text.startsBlank (line.drop index) = true
  stop : Text.startsBlank (line.drop run) = false

theorem isIndent_leadingBlanks (line : List Char) :
    IsIndent line (Text.leadingBlanks line).length := by
  induction line with
  | nil => exact ⟨fun index hlt => absurd hlt (Nat.not_lt_zero index), rfl⟩
  | cons c rest ih =>
    rw [Text.leadingBlanks]
    split
    next hblank =>
      refine ⟨?_, ih.stop⟩
      intro index hlt
      cases index with
      | zero => exact hblank
      | succ index => exact ih.blank index (Nat.lt_of_succ_lt_succ hlt)
    next hblank =>
      exact ⟨fun index hlt => absurd hlt (Nat.not_lt_zero index), Bool.eq_false_iff.2 hblank⟩

theorem take_length_leadingBlanks (line : List Char) :
    line.take (Text.leadingBlanks line).length = Text.leadingBlanks line := by
  have hsplit := Text.leadingBlanks_append_drop line
  calc line.take (Text.leadingBlanks line).length
      = (Text.leadingBlanks line ++ line.drop (Text.leadingBlanks line).length).take
          (Text.leadingBlanks line).length := by rw [hsplit]
    _ = Text.leadingBlanks line := List.take_left

/-- What a reading says about the line, and about the gauge before it and behind it. -/
def Reading.Fits (line : List Char) (before behind : Gauge) : Reading → Prop
  -- Nothing but blanks and perhaps a comment is there, and the gauge stays as it is.
  | .blank => behind = before ∧ ∃ run, IsIndent line run ∧ Text.atLineEnd (line.drop run) = true
  -- The width is the one of the line, and no multiple of the unit. The gauge stays as it is.
  | .ambiguous found unit run =>
    behind = before ∧ IsIndent line run ∧ Text.atLineEnd (line.drop run) = false ∧
      found = width (line.take run) ∧ 2 ≤ unit ∧ found % unit ≠ 0 ∧
      unit = if before.level = 0 then 2 else before.unit
  -- The line is as wide as its level asks for. The unit is a new one only if no level was open.
  | .level previous current =>
    previous = before.level ∧ current = behind.level ∧
      (∃ run, IsIndent line run ∧ Text.atLineEnd (line.drop run) = false ∧
        width (line.take run) = current * behind.unit) ∧
      if before.level = 0 then current ≤ 1 else behind.unit = before.unit

namespace Gauge

variable {gauge : Gauge}

theorem IsFit.fits_measure (h : gauge.IsFit) (line : List Char) :
    (gauge.measure line).1.Fits line gauge (gauge.measure line).2 := by
  have hindent := isIndent_leadingBlanks line
  have hwidth := congrArg width (take_length_leadingBlanks line)
  unfold Gauge.measure
  dsimp only
  generalize (Text.leadingBlanks line).length = run at hindent hwidth ⊢
  split_ifs with hend
  · exact ⟨rfl, run, hindent, hend⟩
  · have hmore := Bool.eq_false_iff.2 hend
    rw [← hwidth]
    generalize hfound : width (line.take run) = found
    unfold Gauge.enter
    split_ifs with hzero hodd hclosed hlevel hmultiple
    · refine ⟨rfl, rfl, ⟨run, hindent, hmore, ?_⟩, ?_⟩
      · rw [hfound, hzero, Nat.zero_mul]
      · split_ifs
        · exact Nat.zero_le 1
        · rfl
    · refine ⟨rfl, hindent, hmore, hfound.symm, Nat.le_refl 2, hodd, (if_pos hclosed).symm⟩
    · obtain ⟨hunit, heven⟩ := h hclosed
      refine ⟨rfl, hindent, hmore, hfound.symm, hunit, ?_, (if_neg hclosed).symm⟩
      exact mod_ne_zero_of_odd hodd heven
    · refine ⟨hlevel.symm, rfl, ⟨run, hindent, hmore, ?_⟩, ?_⟩
      · rw [hfound, Nat.one_mul]
      · rw [if_pos hlevel]
    · refine ⟨rfl, hindent, hmore, hfound.symm, (h hlevel).1, hmultiple, (if_neg hlevel).symm⟩
    · refine ⟨rfl, rfl, ⟨run, hindent, hmore, ?_⟩, ?_⟩
      · rw [hfound]
        exact (Nat.div_mul_cancel (Nat.dvd_of_mod_eq_zero (not_not.1 hmultiple))).symm
      · rw [if_neg hlevel]

end Gauge

/-! ### Calls -/

inductive Call where
  | measure (line : List Char)
  | close
deriving DecidableEq, Repr

inductive Answer where
  | reading (reading : Reading)
  | closed (levels : Nat)
deriving DecidableEq, Repr

namespace Answer

def isReading : Answer → Bool
  | reading _ => true
  | closed _ => false

def change : Answer → Int
  | reading (.level previous current) => (current : Int) - previous
  | _ => 0

end Answer

/-- The levels by which the lines have gone up since the gauge was closed for the last time. -/
def climb (answers : List Answer) : Int :=
  ((answers.rtakeWhile Answer.isReading).map Answer.change).sum

@[simp] theorem climb_concat_reading (answers : List Answer) (reading : Reading) :
    climb (answers ++ [.reading reading]) = climb answers + Answer.change (.reading reading) := by
  rw [climb, List.rtakeWhile_concat_pos _ _ _ rfl]
  simp [climb]

@[simp] theorem climb_concat_closed (answers : List Answer) (levels : Nat) :
    climb (answers ++ [.closed levels]) = 0 := by
  rw [climb, List.rtakeWhile_concat_neg _ _ _ Bool.false_ne_true]
  rfl

namespace Gauge

def answer (gauge : Gauge) : Call → Answer × Gauge
  | .measure line => (.reading (gauge.measure line).1, (gauge.measure line).2)
  | .close => (.closed gauge.close.1, gauge.close.2)

/-- The answers to the calls, one after the other, and the gauge behind the last one. -/
def answers (gauge : Gauge) (calls : List Call) : List Answer × Gauge :=
  calls.foldl (fun (told, gauge) call => (told ++ [(gauge.answer call).1], (gauge.answer call).2))
    ([], gauge)

variable {gauge : Gauge}

theorem answers_concat (gauge : Gauge) (calls : List Call) (call : Call) :
    gauge.answers (calls ++ [call]) =
      ((gauge.answers calls).1 ++ [((gauge.answers calls).2.answer call).1],
        ((gauge.answers calls).2.answer call).2) := by
  simp only [answers, List.foldl_append, List.foldl_cons, List.foldl_nil]

theorem IsFit.answer (h : gauge.IsFit) (call : Call) : (gauge.answer call).2.IsFit := by
  cases call with
  | measure line => exact h.measure line
  | close => exact fun hlevel => absurd rfl hlevel

theorem isFit_answers (calls : List Call) : (answers {} calls).2.IsFit := by
  induction calls using List.reverseRecOn with
  | nil => exact isFit_start
  | append_singleton calls call ih =>
    rw [answers_concat]
    exact ih.answer call

theorem IsFit.level_measure (h : gauge.IsFit) (line : List Char) :
    ((gauge.measure line).2.level : Int) =
      gauge.level + Answer.change (.reading (gauge.measure line).1) := by
  have hfits := h.fits_measure line
  generalize gauge.measure line = measured at hfits ⊢
  obtain ⟨reading, behind⟩ := measured
  cases reading with
  | blank =>
    obtain ⟨rfl, -⟩ := hfits
    exact (Int.add_zero _).symm
  | ambiguous found unit run =>
    obtain ⟨rfl, -⟩ := hfits
    exact (Int.add_zero _).symm
  | level previous current =>
    obtain ⟨hprevious, hcurrent, -⟩ : previous = gauge.level ∧ current = behind.level ∧ _ := hfits
    show (behind.level : Int) = gauge.level + ((current : Int) - previous)
    rw [hprevious, hcurrent]
    omega

theorem level_answers (calls : List Call) :
    ((answers {} calls).2.level : Int) = climb (answers {} calls).1 := by
  induction calls using List.reverseRecOn with
  | nil => rfl
  | append_singleton calls call ih =>
    rw [answers_concat]
    cases call with
    | measure line =>
      show (((answers {} calls).2.measure line).2.level : Int) =
        climb ((answers {} calls).1 ++ [.reading ((answers {} calls).2.measure line).1])
      rw [climb_concat_reading, ← ih, (isFit_answers calls).level_measure line]
    | close =>
      show ((0 : Nat) : Int) =
        climb ((answers {} calls).1 ++ [.closed (answers {} calls).2.close.1])
      rw [climb_concat_closed, Int.ofNat_zero]

/-- Whatever a new gauge has been asked before: its unit can be divided by, what it tells about the
next line is true, and when it is closed it tells the sum of the changes since the last time. -/
theorem fits_answers (calls : List Call) :
    (answers {} calls).2.IsFit ∧
      (∀ line, ((answers {} calls).2.measure line).1.Fits line (answers {} calls).2
        ((answers {} calls).2.measure line).2) ∧
      ((answers {} calls).2.close.1 : Int) = climb (answers {} calls).1 := by
  have hfit := isFit_answers calls
  exact ⟨hfit, hfit.fits_measure, level_answers calls⟩

/-- The unit is the width of the first line, and is replaced once the level is back at `0`. -/
example :
    (answers {} [.measure "    a".toList, .measure "b".toList, .measure "  c".toList, .close]).1 =
      [.reading (.level 0 1), .reading (.level 1 0), .reading (.level 0 1), .closed 1] := by
  decide

end Gauge

end Offside.Indentation
