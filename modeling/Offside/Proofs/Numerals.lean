import Mathlib.Data.List.Forall2
import Mathlib.Data.List.Induction
import Mathlib.Data.Nat.Digits.Defs
import Offside.Text.Hex

/-!
# Rows of digits

What number a row of digits stands for, in any base up to sixteen. Leading zeros do not count, and
neither does the case of a letter.
-/

namespace Offside.Text

def IsDigitOf (base : Nat) (c : Char) (digit : Nat) : Prop :=
  digit < base ∧ (c = Nat.digitChar digit ∨ c = (Nat.digitChar digit).toUpper)

instance (base : Nat) (c : Char) (digit : Nat) : Decidable (IsDigitOf base c digit) :=
  inferInstanceAs (Decidable (_ ∧ (_ ∨ _)))

/-- The characters are the digits of the number, the leading one first. -/
def Spells (base : Nat) (text : List Char) (number : Nat) : Prop :=
  ∃ digits, List.Forall₂ (IsDigitOf base) text digits ∧ Nat.ofDigits base digits.reverse = number

/-! ### Reading digit by digit -/

theorem foldl_eq_ofDigits (base : Nat) (value : Char → Nat) (text : List Char) :
    text.foldl (fun number c => base * number + value c) 0 =
      Nat.ofDigits base (text.map value).reverse := by
  induction text using List.reverseRecOn with
  | nil => rfl
  | append_singleton text c ih =>
    rw [List.foldl_append, ih, List.map_append, List.reverse_append, List.map_singleton,
      List.reverse_singleton, List.singleton_append, Nat.ofDigits_cons, List.foldl_cons,
      List.foldl_nil, Nat.add_comm]

theorem forall₂_isDigitOf_iff {base : Nat} {isDigit : Char → Bool} {value : Char → Nat}
    (h : ∀ c digit, IsDigitOf base c digit ↔ isDigit c = true ∧ value c = digit)
    {text : List Char} {digits : List Nat} :
    List.Forall₂ (IsDigitOf base) text digits ↔
      (∀ c ∈ text, isDigit c = true) ∧ text.map value = digits := by
  induction text generalizing digits with
  | nil => cases digits <;> simp
  | cons c rest ih =>
    cases digits with
    | nil => simp
    | cons digit digits =>
      rw [List.forall₂_cons, h, ih, List.forall_mem_cons, List.map_cons, List.cons.injEq]
      exact and_and_and_comm

theorem spells_iff_foldl {base : Nat} {isDigit : Char → Bool} {value : Char → Nat}
    (h : ∀ c digit, IsDigitOf base c digit ↔ isDigit c = true ∧ value c = digit)
    (text : List Char) (number : Nat) :
    Spells base text number ↔ (∀ c ∈ text, isDigit c = true) ∧
      text.foldl (fun number c => base * number + value c) 0 = number := by
  rw [foldl_eq_ofDigits, Spells]
  constructor
  · rintro ⟨digits, hdigits, hnumber⟩
    obtain ⟨hall, rfl⟩ := (forall₂_isDigitOf_iff h).1 hdigits
    exact ⟨hall, hnumber⟩
  · rintro ⟨hall, hnumber⟩
    exact ⟨text.map value, (forall₂_isDigitOf_iff h).2 ⟨hall, rfl⟩, hnumber⟩

/-! ### The bases ten and sixteen -/

theorem toNat_lt_of_isHexDigit {c : Char} (h : isHexDigit c = true) : c.toNat < 128 := by
  simp only [isHexDigit, Char.isDigit, Bool.or_eq_true, Bool.and_eq_true, decide_eq_true_eq,
    Char.le_def, UInt32.le_iff_toNat_le, ge_iff_le] at h
  have hnine : '9'.val.toNat = 57 := rfl
  have hlower : 'f'.val.toNat = 102 := rfl
  have hupper : 'F'.val.toNat = 70 := rfl
  show c.val.toNat < 128
  omega

theorem isDigitOf_sixteen_iff (c : Char) (digit : Nat) :
    IsDigitOf 16 c digit ↔ isHexDigit c = true ∧ hexDigitValue c = digit := by
  constructor
  · rintro ⟨hlt, hc⟩
    have hlower : ∀ digit < 16, isHexDigit (Nat.digitChar digit) = true ∧
        hexDigitValue (Nat.digitChar digit) = digit := by
      decide
    have hupper : ∀ digit < 16, isHexDigit (Nat.digitChar digit).toUpper = true ∧
        hexDigitValue (Nat.digitChar digit).toUpper = digit := by
      decide
    rcases hc with rfl | rfl
    · exact hlower digit hlt
    · exact hupper digit hlt
  · rintro ⟨hc, rfl⟩
    have hall : ∀ point < 128, isHexDigit (Char.ofNat point) = true →
        IsDigitOf 16 (Char.ofNat point) (hexDigitValue (Char.ofNat point)) := by
      decide +kernel
    have hdigit := hall c.toNat (toNat_lt_of_isHexDigit hc)
    rw [Char.ofNat_toNat] at hdigit
    exact hdigit hc

theorem isDigitOf_ten_iff (c : Char) (digit : Nat) :
    IsDigitOf 10 c digit ↔ c.isDigit = true ∧ c.toNat - '0'.toNat = digit := by
  constructor
  · rintro ⟨hlt, hc⟩
    have hdigits : ∀ digit < 10, (Nat.digitChar digit).toUpper = Nat.digitChar digit ∧
        (Nat.digitChar digit).isDigit = true ∧
        (Nat.digitChar digit).toNat - '0'.toNat = digit := by
      decide
    obtain ⟨hsame, hdigit⟩ := hdigits digit hlt
    rw [hsame, or_self] at hc
    rwa [hc]
  · rintro ⟨hc, rfl⟩
    have hvalue : hexDigitValue c = c.toNat - '0'.toNat := if_pos hc
    have hhex : isHexDigit c = true := by
      simp [isHexDigit, hc]
    obtain ⟨-, hspelled⟩ := (isDigitOf_sixteen_iff c _).2 ⟨hhex, rfl⟩
    rw [hvalue] at hspelled
    refine ⟨?_, hspelled⟩
    simp only [Char.isDigit, Bool.and_eq_true, decide_eq_true_eq, UInt32.le_iff_toNat_le,
      ge_iff_le] at hc
    have hnine : '9'.val.toNat = 57 := rfl
    show c.val.toNat - 48 < 10
    omega

theorem spells_sixteen_iff (text : List Char) (number : Nat) :
    Spells 16 text number ↔ (∀ c ∈ text, isHexDigit c = true) ∧ ofHexDigits text = number :=
  spells_iff_foldl isDigitOf_sixteen_iff text number

theorem spells_ten_iff (text : List Char) (number : Nat) :
    Spells 10 text number ↔
      (∀ c ∈ text, c.isDigit = true) ∧ Nat.ofDigitChars 10 text 0 = number :=
  spells_iff_foldl isDigitOf_ten_iff text number

end Offside.Text
