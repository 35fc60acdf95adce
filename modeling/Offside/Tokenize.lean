import Offside.Scan.Finish
import Offside.Scan.Progress

/-!
# Cutting a text into tokens

A text is read in one pass from its start to its end. Whatever is wrong with it, the pass goes on.
-/

namespace Offside

def Scan.run (options : Options) (scan : Scan) : Scan :=
  if _h : scan.rest = [] then scan else run options (scan.step options)
termination_by scan.stepsLeft
decreasing_by exact Scan.stepsLeft_step options _h

@[simp] theorem Scan.run_of_rest_eq_nil {scan : Scan} (options : Options) (h : scan.rest = []) :
    scan.run options = scan := by
  rw [run, dif_pos h]

theorem Scan.run_step {scan : Scan} (options : Options) (h : scan.rest ≠ []) :
    (scan.step options).run options = scan.run options := by
  rw [run.eq_def options scan, dif_neg h]

@[simp] theorem Scan.rest_run (options : Options) (scan : Scan) :
    (scan.run options).rest = [] := by
  fun_induction Scan.run options scan with
  | case1 scan h => exact h
  | case2 scan h ih => exact ih

def tokenize (source : String) (options : Options := {}) : Findings :=
  ((Scan.start source.toList).run options).finish

def tokensOf (source : String) : List Token := (tokenize source).tokens

end Offside
