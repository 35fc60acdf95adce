import Offside.Diagnostic
import Offside.Token.Kind

/-!
# Integer literals

An integer is written in decimal digits, which the suffix of a type may follow. Without a suffix it
is a signed number of 64 bits.
-/

namespace Offside.Literal

def isDigitRun (text : List Char) : Bool := !text.isEmpty && text.all Char.isDigit

def value? (text : List Char) (type : IntegerType) : Option Int64 :=
  let number := Nat.ofDigitChars 10 text 0
  if isDigitRun text ∧ number < type.bound then some (Int64.ofNat number) else none

/-- The digits and the type of a word whose last three characters name one. -/
def splitSuffix? (text : List Char) : Option (List Char × IntegerType) :=
  let digits := text.take (text.length - 3)
  if text.length < 3 then none
  else
    match IntegerType.ofSuffix? (String.ofList (text.drop (text.length - 3))) with
    | some type => if isDigitRun digits then some (digits, type) else none
    | none => none

/-- Reads a word that starts with a digit: as a number without a suffix, or else as one with a
suffix. What is left is too large, or is no number at all. -/
def number (lexeme : String) : Except Fault TokenKind :=
  match value? lexeme.toList .int64 with
  | some value => .ok (.integer value .int64 false)
  | none =>
    match splitSuffix? lexeme.toList with
    | some (digits, type) =>
      match value? digits type with
      | some value => .ok (.integer value type true)
      | none => .error (.integerOverflow lexeme)
    | none =>
      if isDigitRun lexeme.toList then .error (.integerOverflow lexeme)
      else .error (.invalidNumber lexeme)

/-! ### A suffix is there or not -/

def integer (lexeme : String) (digits : List Char) (type : IntegerType) (suffixed : Bool) :
    Except Fault TokenKind :=
  let number := Nat.ofDigitChars 10 digits 0
  if number < type.bound then .ok (.integer (Int64.ofNat number) type suffixed)
  else .error (.integerOverflow lexeme)

theorem length_toList_suffix (type : IntegerType) : type.suffix.toList.length = 3 := by
  cases type <;> rfl

theorem splitSuffix?_eq_some_iff {text digits : List Char} {type : IntegerType} :
    splitSuffix? text = some (digits, type) ↔
      text = digits ++ type.suffix.toList ∧ isDigitRun digits = true := by
  constructor
  · intro h
    simp only [splitSuffix?] at h
    split at h
    · cases h
    · split at h
      next found hfound =>
        split at h
        next hrun =>
          cases h
          have hsuffix := congrArg String.toList (IntegerType.ofSuffix?_eq_some_iff.1 hfound)
          rw [String.toList_ofList] at hsuffix
          exact ⟨by rw [hsuffix, List.take_append_drop], hrun⟩
        next => cases h
      next => cases h
  · rintro ⟨rfl, hrun⟩
    have hlength := length_toList_suffix type
    have hsuffix : IntegerType.ofSuffix? type.suffix = some type :=
      IntegerType.ofSuffix?_eq_some_iff.2 rfl
    simp [splitSuffix?, hlength, hsuffix, hrun]

theorem splitSuffix?_of_isDigitRun {text : List Char} (h : isDigitRun text = true) :
    splitSuffix? text = none := by
  rw [Option.eq_none_iff_forall_ne_some]
  rintro ⟨digits, type⟩ hsplit
  obtain ⟨rfl, -⟩ := splitSuffix?_eq_some_iff.1 hsplit
  rw [isDigitRun, List.all_append, Bool.and_eq_true, Bool.and_eq_true] at h
  revert h
  cases type <;> simp [IntegerType.suffix]

theorem value?_of_isDigitRun {text : List Char} (h : isDigitRun text = true) (type : IntegerType) :
    value? text type =
      if Nat.ofDigitChars 10 text 0 < type.bound then
        some (Int64.ofNat (Nat.ofDigitChars 10 text 0))
      else none := by
  simp [value?, h]

/-- The order of the tests does not matter: a word is a row of digits, or ends in a suffix, or is no
number. -/
theorem number_eq (lexeme : String) :
    number lexeme =
      if isDigitRun lexeme.toList then integer lexeme lexeme.toList .int64 false
      else
        match splitSuffix? lexeme.toList with
        | some (digits, type) => integer lexeme digits type true
        | none => .error (.invalidNumber lexeme) := by
  simp only [number, integer]
  by_cases hrun : isDigitRun lexeme.toList = true
  · rw [if_pos hrun, value?_of_isDigitRun hrun, splitSuffix?_of_isDigitRun hrun]
    split <;> simp_all
  · have hnone : value? lexeme.toList .int64 = none := by
      simp [value?, hrun]
    rw [if_neg hrun, hnone]
    cases hsplit : splitSuffix? lexeme.toList with
    | none => simp [hrun]
    | some split =>
      obtain ⟨digits, type⟩ := split
      simp only
      rw [value?_of_isDigitRun (splitSuffix?_eq_some_iff.1 hsplit).2]
      split <;> simp_all

end Offside.Literal
