import Mathlib.Logic.Function.Iterate
import Offside.Proofs.Safety

/-!
# The pace of a pass

A pass over a text of `n` characters takes at most `2 * n` steps. Two kinds of steps pause, which is
to say that they read nothing: the one that measures a line, and the one that leaves a comment at
the end of its line. Both lead to a mode in which the next step reads.
-/

namespace Offside

namespace Scan

variable {source : List Char} {options : Options} {scan next : Scan}

def Pauses (scan : Scan) : Prop :=
  scan.mode = .lineStart ∨ scan.mode = .comment ∧ Text.lineBreakLength scan.rest ≠ 0

/-! ### What a step leaves to be read -/

theorem not_pauses_of_between (hmode : scan.mode = .between) : ¬scan.Pauses := by
  rintro (hline | ⟨hcomment, -⟩)
  · rw [hmode] at hline
    cases hline
  · rw [hmode] at hcomment
    cases hcomment

theorem step_of_pauses (options : Options) (h : scan.Pauses) (hrest : scan.rest ≠ []) :
    (scan.step options).rest = scan.rest ∧ (scan.step options).mode = .between := by
  obtain ⟨c, rest, hcons⟩ := List.exists_cons_of_ne_nil hrest
  rw [step, hcons]
  obtain hmode | ⟨hmode, hbreak⟩ := h
  · rw [hmode]
    exact ⟨(rest_measureLine scan options).trans hcons, mode_measureLine scan options⟩
  · rw [hmode]
    show scan.stepComment.rest = c :: rest ∧ scan.stepComment.mode = .between
    rw [stepComment, if_pos hbreak]
    exact ⟨hcons, rfl⟩

theorem rest_step_of_not_pauses (options : Options) (h : ¬scan.Pauses) (hrest : scan.rest ≠ []) :
    (scan.step options).rest.length < scan.rest.length := by
  obtain ⟨c, rest, hcons⟩ := List.exists_cons_of_ne_nil hrest
  have hcode := rest_stepCode c hrest
  rw [step, hcons]
  rw [hcons] at hcode
  cases hmode : scan.mode with
  | lineStart => exact absurd (.inl hmode) h
  | comment =>
    have hbreak : ¬Text.lineBreakLength scan.rest ≠ 0 := fun hbreak => h (.inr ⟨hmode, hbreak⟩)
    show scan.stepComment.rest.length < (c :: rest).length
    rw [stepComment, if_neg hbreak, rest_skip, hcons]
    simp
  | quoted quote start body =>
    have hquoted := rest_stepQuoted quote start body c hrest
    rw [hcons] at hquoted
    exact hquoted
  | between => exact hcode
  | word start text => exact hcode

/-! ### Positions -/

theorem Holds.position_add (h : scan.Holds source) :
    scan.position + scan.rest.length = source.length := by
  have hle := h.place.le
  rw [h.place.rest, List.length_drop]
  omega

/-- What the next step does to the position. It never goes back, and where it stays the mode changes
and the step behind the next one goes on. -/
structure IsPaced (options : Options) (scan : Scan) : Prop where
  le : scan.position ≤ (scan.step options).position
  stays_iff : (scan.step options).position = scan.position ↔ scan.Pauses
  goesOn : (scan.step options).position = scan.position →
    (scan.step options).mode ≠ scan.mode ∧
      scan.position < ((scan.step options).step options).position

theorem Holds.position_step_of_not_pauses (options : Options) (h : scan.Holds source)
    (hrest : scan.rest ≠ []) (hreads : ¬scan.Pauses) :
    scan.position < (scan.step options).position := by
  have hshorter := rest_step_of_not_pauses options hreads hrest
  have hplace := h.position_add
  have hnext := (takes_step options h hrest).2.position_add
  omega

theorem Holds.position_step_of_pauses (options : Options) (h : scan.Holds source)
    (hrest : scan.rest ≠ []) (hpauses : scan.Pauses) :
    (scan.step options).position = scan.position := by
  have hsame := congrArg List.length (step_of_pauses options hpauses hrest).1
  have hplace := h.position_add
  have hnext := (takes_step options h hrest).2.position_add
  omega

theorem Holds.isPaced (options : Options) (h : scan.Holds source) (hrest : scan.rest ≠ []) :
    scan.IsPaced options := by
  by_cases hpauses : scan.Pauses
  · have hstays := h.position_step_of_pauses options hrest hpauses
    obtain ⟨hsame, hmode⟩ := step_of_pauses options hpauses hrest
    refine ⟨hstays.ge, iff_of_true hstays hpauses, fun _ => ⟨?_, ?_⟩⟩
    · rw [hmode]
      intro heq
      exact not_pauses_of_between heq.symm hpauses
    · have hmore : (scan.step options).rest ≠ [] := by
        rwa [hsame]
      rw [← hstays]
      apply (takes_step options h hrest).2.position_step_of_not_pauses options hmore
      exact not_pauses_of_between hmode
  · have hlt := h.position_step_of_not_pauses options hrest hpauses
    exact ⟨hlt.le, iff_of_false hlt.ne' hpauses, fun hstays => absurd hstays hlt.ne'⟩

/-! ### Runs -/

theorem Holds.position_le_of_reaches (h : scan.Holds source) (hreach : Reaches options scan next) :
    scan.position ≤ next.position := by
  induction hreach with
  | refl => exact Nat.le_refl _
  | tail hbefore hstep ih =>
    obtain ⟨hrest, rfl⟩ := hstep
    exact ih.trans ((h.of_reaches hbefore).isPaced options hrest).le

theorem exists_iterate_step (options : Options) (scan : Scan) :
    ∃ count ≤ scan.stepsLeft, (∀ earlier < count, ((step options)^[earlier] scan).rest ≠ []) ∧
      (step options)^[count] scan = scan.run options := by
  fun_induction Scan.run options scan with
  | case1 scan hrest => exact ⟨0, Nat.zero_le _, fun _ hlt => absurd hlt (Nat.not_lt_zero _), rfl⟩
  | case2 scan hrest ih =>
    obtain ⟨count, hcount, hmore, hrun⟩ := ih
    have hless := stepsLeft_step options hrest
    refine ⟨count + 1, by omega, ?_, hrun⟩
    intro earlier hearlier
    cases earlier with
    | zero => exact hrest
    | succ earlier => exact hmore earlier (Nat.lt_of_succ_lt_succ hearlier)

theorem reaches_iterate {count : Nat}
    (hmore : ∀ earlier < count, ((step options)^[earlier] scan).rest ≠ []) :
    Reaches options scan ((step options)^[count] scan) := by
  induction count with
  | zero => exact .refl
  | succ count ih =>
    rw [Function.iterate_succ_apply']
    refine (ih fun earlier hearlier => hmore earlier (Nat.lt_succ_of_lt hearlier)).tail ?_
    exact ⟨hmore count (Nat.lt_succ_self count), rfl⟩

/-- The pass over the text takes this many steps: before each of them it is not at the end of the
text, and after them it is. -/
structure EndsAfter (source : List Char) (options : Options) (count : Nat) : Prop where
  before : ∀ earlier < count,
    ((step options)^[earlier] (.start source)).position < source.length
  atEnd : ((step options)^[count] (.start source)).position = source.length

theorem stepsLeft_start (source : List Char) : (start source).stepsLeft = 2 * source.length := rfl

theorem exists_endsAfter (source : List Char) (options : Options) :
    ∃ count ≤ 2 * source.length, EndsAfter source options count ∧
      (step options)^[count] (.start source) = (start source).run options := by
  obtain ⟨count, hcount, hmore, hrun⟩ := exists_iterate_step options (start source)
  have hholds : ∀ reached ≤ count, ((step options)^[reached] (.start source)).Holds source :=
    fun reached hreached => (holds_start source).of_reaches
      (reaches_iterate fun earlier hearlier => hmore earlier (by omega))
  rw [stepsLeft_start] at hcount
  refine ⟨count, hcount, ⟨?_, ?_⟩, hrun⟩
  · intro earlier hearlier
    have hplace := (hholds earlier hearlier.le).position_add
    have hrest := List.length_pos_iff.2 (hmore earlier hearlier)
    omega
  · have hplace := (hholds count le_rfl).position_add
    have hrest := congrArg List.length (congrArg Scan.rest hrun)
    rw [rest_run, List.length_nil] at hrest
    omega

end Scan

/-- A pass over `n` characters takes at most `2 * n` steps. The position never goes back. Only a
step that measures a line or leaves a comment keeps it, and then the next step does not. -/
theorem pace_tokenize (source : String) (options : Options) :
    (∃ count ≤ 2 * source.length, Scan.EndsAfter source.toList options count ∧
      tokenize source options =
        ((Scan.step options)^[count] (.start source.toList)).finish) ∧
      ∀ scan, Scan.Reaches options (.start source.toList) scan →
        (scan.rest ≠ [] → scan.IsPaced options) ∧
          ∀ next, Scan.Reaches options scan next → scan.position ≤ next.position := by
  have hstart := Scan.holds_start source.toList
  refine ⟨?_, ?_⟩
  · obtain ⟨count, hcount, hends, hrun⟩ := Scan.exists_endsAfter source.toList options
    refine ⟨count, ?_, hends, ?_⟩
    · rwa [← String.length_toList]
    · rw [tokenize, hrun]
  · intro scan hreach
    have hholds := hstart.of_reaches hreach
    exact ⟨hholds.isPaced options, fun next => hholds.position_le_of_reaches⟩

/-- The pass leaves the comment at the end of its line, and measures the line behind it. -/
theorem pace_comment_line :
    (∃ count ≤ 2 * "#\nx".length, Scan.EndsAfter "#\nx".toList {} count ∧
      tokenize "#\nx" = ((Scan.step {})^[count] (.start "#\nx".toList)).finish) ∧
      ∃ scan, Scan.Reaches {} (.start "#\nx".toList) scan ∧ scan.Pauses ∧ scan.IsPaced {} := by
  obtain ⟨hends, hpace⟩ := pace_tokenize "#\nx" {}
  let inComment := (Scan.start "#\nx".toList).step {}
  have hreach : Scan.Reaches {} (.start "#\nx".toList) inComment :=
    .single ⟨by decide, rfl⟩
  have hpauses : inComment.Pauses := .inr ⟨by decide, by decide⟩
  exact ⟨hends, inComment, hreach, hpauses, (hpace inComment hreach).1 (by decide)⟩

end Offside
