import Offside.CommandLine.Outcome
import Offside.Proofs.Outline
import Offside.Proofs.Reports

/-!
# Warnings on their own

The options decide about warnings and about nothing else: a pass without warnings finds the same
tokens and the same errors, and so the command, when it is told to leave them out, writes the same
tokens, fails for the same texts, and reports the errors alone.
-/

namespace Offside

/-! ### The pass without warnings -/

theorem Cursor.warnings_of_quiet (cursor : Cursor) (item : Item) :
    cursor.warnings item ⟨false⟩ = [] := by
  unfold warnings Indentation.Reading.diagnostics
  split
  · exact if_neg Bool.false_ne_true
  · rfl
  · rfl

theorem diagnosticsFrom_of_quiet (options : Options) (cursor : Cursor) (items : List Item) :
    diagnosticsFrom ⟨false⟩ cursor items =
      (diagnosticsFrom options cursor items).filter (·.isError) := by
  induction items generalizing cursor with
  | nil => rfl
  | cons item items ih =>
    rw [filter_diagnosticsFrom_cons, diagnosticsFrom, Cursor.warnings_of_quiet, List.nil_append, ih]

namespace Findings

/-- The findings are those of the other pass, less its warnings. -/
structure AreErrorsOf (quiet full : Findings) : Prop where
  tokens : quiet.tokens = full.tokens
  diagnostics : quiet.diagnostics = full.errors
  hasErrors : quiet.hasErrors = full.hasErrors
  error : full.hasErrors = true → ∃ diagnostic, full.errors.head? = some diagnostic ∧
    quiet.result = .error diagnostic ∧ full.result = .error diagnostic
  ok : full.hasErrors = false →
    quiet.result = .ok full.tokens ∧ full.result = .ok full.tokens

variable (findings : Findings)

theorem find?_isError : findings.diagnostics.find? (·.isError) = findings.errors.head? :=
  List.head?_filter.symm

theorem hasErrors_eq : findings.hasErrors = findings.errors.head?.isSome := by
  rw [← find?_isError, hasErrors, Bool.eq_iff_iff, List.any_eq_true, List.find?_isSome]

variable {findings}

theorem result_of_head?_eq_some {diagnostic : Diagnostic}
    (h : findings.errors.head? = some diagnostic) : findings.result = .error diagnostic := by
  rw [result, find?_isError, h]

theorem result_of_head?_eq_none (h : findings.errors.head? = none) :
    findings.result = .ok findings.tokens := by
  rw [result, find?_isError, h]

theorem exists_error_iff :
    (∃ diagnostic, findings.result = .error diagnostic) ↔ findings.hasErrors = true := by
  rw [hasErrors_eq]
  cases h : findings.errors.head? with
  | some diagnostic => simp [result_of_head?_eq_some h]
  | none => simp [result_of_head?_eq_none h]

theorem AreErrorsOf.of_eq {quiet full : Findings} (htokens : quiet.tokens = full.tokens)
    (hdiagnostics : quiet.diagnostics = full.errors) : quiet.AreErrorsOf full := by
  have herrors : quiet.errors = full.errors := by
    rw [errors, hdiagnostics, errors, List.filter_filter]
    simp only [Bool.and_self]
  refine ⟨htokens, hdiagnostics, ?_, ?_, ?_⟩
  · rw [hasErrors_eq, hasErrors_eq, herrors]
  · intro h
    rw [hasErrors_eq, Option.isSome_iff_exists] at h
    obtain ⟨diagnostic, hhead⟩ := h
    exact ⟨diagnostic, hhead, result_of_head?_eq_some (herrors ▸ hhead),
      result_of_head?_eq_some hhead⟩
  · intro h
    rw [hasErrors_eq, Option.isSome_eq_false_iff, Option.isNone_iff_eq_none] at h
    rw [← htokens]
    exact ⟨result_of_head?_eq_none (herrors ▸ h), htokens ▸ result_of_head?_eq_none h⟩

end Findings

theorem areErrorsOf_of_quiet (source : String) (options : Options) :
    (tokenize source ⟨false⟩).AreErrorsOf (tokenize source options) := by
  apply Findings.AreErrorsOf.of_eq
  · rw [tokens_tokenize, tokens_tokenize]
  · rw [errors_of_layout options rfl, Layout.diagnostics_tokenize ⟨false⟩ rfl]
    exact diagnosticsFrom_of_quiet options {} _

/-! ### The command without warnings -/

/-- A caret under the start of a line can always be drawn. -/
theorem Diagnostic.fits_of_isError_eq_false {source : String} {options : Options}
    {diagnostic : Diagnostic} (hmem : diagnostic ∈ (tokenize source options).diagnostics)
    (h : diagnostic.isError = false) : diagnostic.fits source = true := by
  obtain ⟨hlt, -, hwarning⟩ := start_of_mem hmem
  have hseverity : diagnostic.severity = .warning := by
    cases hother : diagnostic.severity with
    | error => exact absurd hother (of_decide_eq_false h)
    | warning => rfl
  have hcolumn : Text.column source.toList diagnostic.span.start = 0 :=
    congrArg List.length (hwarning hseverity)
  rw [fits, Text.place?_of_lt hlt, hcolumn]
  simp [caretWidth, maxCaretWidth]

theorem all_fits_errors (source : String) (options : Options) :
    (tokenize source options).errors.all (·.fits source) =
      (tokenize source options).diagnostics.all (·.fits source) := by
  rw [Bool.eq_iff_iff, List.all_eq_true, List.all_eq_true]
  constructor
  · intro h diagnostic hmem
    cases herror : diagnostic.isError with
    | true => exact h diagnostic (List.mem_filter.2 ⟨hmem, herror⟩)
    | false => exact diagnostic.fits_of_isError_eq_false hmem herror
  · exact fun h diagnostic hmem => h diagnostic (List.mem_filter.1 hmem).1

namespace CommandLine

def Flags.quiet (flags : Flags) : Flags := { flags with allowAmbiguous := true }

variable (isPrintable : Char → Bool)

/-- The outcome is that of the other run on the text, less the reports of its warnings: the reports
of the errors are left, all of them if they can be drawn. -/
structure Outcome.IsQuieted (quiet full : Outcome) (file text : String) : Prop where
  output : quiet.output = full.output
  exitCode : quiet.exitCode = full.exitCode
  failure : full.exitCode ≠ 0 ↔ ∃ diagnostic, (tokenize text).result = .error diagnostic
  errors : (∀ diagnostic ∈ (tokenize text).errors, diagnostic.fits text = true) →
    quiet.errors = String.join ((tokenize text).errors.map fun diagnostic =>
      diagnostic.report text file isPrintable ++ "\n\n")
  drawn : quiet.errors = reports file text (tokenize text).errors isPrintable

theorem exitCode_dumpText (file text : String) (flags : Flags) :
    (dumpText file text flags isPrintable).exitCode =
      if (tokenize text ⟨false⟩).diagnostics.all (·.fits text) then
        if (tokenize text ⟨false⟩).hasErrors then 1 else 0
      else 101 := by
  have hquiet := areErrorsOf_of_quiet text ⟨!flags.allowAmbiguous⟩
  rw [dumpText, hquiet.diagnostics, hquiet.hasErrors, all_fits_errors]

theorem exitCode_ne_zero_iff (file text : String) (flags : Flags) :
    (dumpText file text flags isPrintable).exitCode ≠ 0 ↔
      ∃ diagnostic, (tokenize text).result = .error diagnostic := by
  have hquiet := areErrorsOf_of_quiet text {}
  rw [Findings.exists_error_iff, exitCode_dumpText, ← hquiet.hasErrors]
  split_ifs with hfits herrors
  · simp [herrors]
  · simp [herrors]
  · -- A report that cannot be drawn is that of an error.
    suffices herrors : (tokenize text ⟨false⟩).hasErrors = true by simp [herrors]
    simp only [List.all_eq_true, not_forall] at hfits
    obtain ⟨diagnostic, hmem, -⟩ := hfits
    have herror := hmem
    rw [hquiet.diagnostics] at herror
    exact List.any_eq_true.2 ⟨diagnostic, hmem, (List.mem_filter.1 herror).2⟩

theorem isQuieted_dumpText (file text : String) (flags : Flags) :
    (dumpText file text flags.quiet isPrintable).IsQuieted isPrintable
      (dumpText file text flags isPrintable) file text := by
  have hdrawn : (dumpText file text flags.quiet isPrintable).errors =
      reports file text (tokenize text).errors isPrintable := by
    rw [← (areErrorsOf_of_quiet text {}).diagnostics]
    rfl
  refine ⟨?output, ?exitCode, exitCode_ne_zero_iff isPrintable file text flags, ?errors, hdrawn⟩
  case output =>
    have htokens := (areErrorsOf_of_quiet text ⟨!flags.allowAmbiguous⟩).tokens
    simp only [dumpText, ← htokens]
    rfl
  case exitCode => rw [exitCode_dumpText, exitCode_dumpText]
  case errors =>
    intro hfits
    rw [hdrawn, reports, List.takeWhile_eq_self_iff.2 hfits]

end CommandLine

/-- Without its warnings a pass finds the same tokens, the same errors, and the same result. So the
flag that leaves them out changes neither what the command writes nor whether it fails, and what it
reports are the errors. -/
theorem areErrorsOf_tokenize :
    (∀ source, (tokenize source ⟨false⟩).AreErrorsOf (tokenize source ⟨true⟩)) ∧
      ∀ (isPrintable : Char → Bool) (file text : String) (flags : CommandLine.Flags),
        (CommandLine.dumpText file text flags.quiet isPrintable).IsQuieted isPrintable
          (CommandLine.dumpText file text flags isPrintable) file text :=
  ⟨fun source => areErrorsOf_of_quiet source ⟨true⟩, CommandLine.isQuieted_dumpText⟩

/-- The third line has a warning, and the fourth one an error, whose report alone is left. -/
theorem areErrorsOf_third_line :
    (tokenize "(\n  a\n   b\n12ab").diagnostics.map (·.isError) = [false, true] ∧
      (CommandLine.dumpText "main.src" "(\n  a\n   b\n12ab" ⟨true, true⟩).errors =
        Diagnostic.report ⟨.invalidNumber "12ab", ⟨11, 15⟩⟩ "(\n  a\n   b\n12ab" "main.src"
          ++ "\n\n" := by
  have herrors : (tokenize "(\n  a\n   b\n12ab").errors =
      [⟨.invalidNumber "12ab", ⟨11, 15⟩⟩] := by
    decide +kernel
  have hquiet :=
    areErrorsOf_tokenize.2 Text.isPrintable "main.src" "(\n  a\n   b\n12ab" ⟨true, false⟩
  refine ⟨by decide +kernel, ?_⟩
  have hreports := hquiet.errors fun diagnostic hmem => by
    rw [herrors, List.mem_singleton] at hmem
    subst hmem
    decide +kernel
  refine hreports.trans ?_
  rw [herrors]
  simp [String.join]

end Offside
