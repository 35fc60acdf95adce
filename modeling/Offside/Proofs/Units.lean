import Offside.Proofs.Outline

/-!
# The unit of indentation is even

The unit is the width of the first line that is indented, and no line of an odd width is taken. So
while some level is open its unit is even and greater than zero, and a line of an odd width is no
multiple of it.
-/

namespace Offside

namespace Indentation.Gauge

/-- The gauge has a unit that widths can be divided by, as far as some level is open. -/
def IsFit (gauge : Gauge) : Prop := gauge.level ≠ 0 → 2 ≤ gauge.unit ∧ gauge.unit % 2 = 0

variable {gauge : Gauge}

theorem isFit_start : IsFit {} := fun h => absurd rfl h

theorem IsFit.enter (h : gauge.IsFit) (width run : Nat) : (gauge.enter width run).2.IsFit := by
  unfold Gauge.enter
  split_ifs with hzero hodd hclosed hlevel hmultiple
  · exact fun hne => absurd rfl hne
  · exact h
  · exact h
  · intro _
    show 2 ≤ width ∧ width % 2 = 0
    omega
  · exact h
  · exact fun _ => h hlevel

theorem IsFit.measure (h : gauge.IsFit) (line : List Char) : (gauge.measure line).2.IsFit := by
  unfold Gauge.measure
  dsimp only
  split_ifs
  · exact h
  · exact h.enter _ _

theorem mod_ne_zero_of_odd {width unit : Nat} (hodd : width % 2 ≠ 0) (heven : unit % 2 = 0) :
    width % unit ≠ 0 := by
  intro hmultiple
  have hdvd : 2 ∣ width :=
    Nat.dvd_trans (Nat.dvd_of_mod_eq_zero heven) (Nat.dvd_of_mod_eq_zero hmultiple)
  exact hodd (Nat.mod_eq_zero_of_dvd hdvd)

/-- A line that is told to be ambiguous fits no multiple of the unit that it is told. -/
theorem IsFit.of_ambiguous (h : gauge.IsFit) {width run found unit length : Nat}
    (henter : (gauge.enter width run).1 = .ambiguous found unit length) :
    found = width ∧ length = run ∧ 2 ≤ unit ∧ width % unit ≠ 0 := by
  unfold Gauge.enter at henter
  split_ifs at henter with hzero hodd hclosed hlevel hmultiple
  · cases henter
    exact ⟨rfl, rfl, Nat.le_refl 2, hodd⟩
  · cases henter
    obtain ⟨hunit, heven⟩ := h hclosed
    exact ⟨rfl, rfl, hunit, mod_ne_zero_of_odd hodd heven⟩
  · cases henter
    exact ⟨rfl, rfl, (h hlevel).1, hmultiple⟩

end Indentation.Gauge

open Indentation (Gauge)

theorem Item.isFit_measure (item : Item) {gauge : Gauge} (h : gauge.IsFit) :
    (item.measure gauge).2.IsFit := by
  unfold Item.measure
  split_ifs
  · exact h.enter _ _
  · exact h

theorem Cursor.isFit_behind {cursor : Cursor} (h : cursor.gauge.IsFit) (items : List Item) :
    (cursor.behind items).gauge.IsFit := by
  induction items generalizing cursor with
  | nil => exact h
  | cons item items ih => exact ih (item.isFit_measure h)

end Offside
