import Mathlib.Algebra.Group.Nat.Defs
import LogLens.Text.Numeral

/-!
# Integers that are written and read

An integer is written with ASCII digits, without blanks or separators, and is
read as itself again, unless it has more digits than are accepted.
-/

namespace LogLens

theorem decimal_natCast (value : Nat) :
    decimal (value : Int) = Nat.toDigits 10 value := by
  have notNegative : ¬(value : Int) < 0 := by omega
  rw [decimal, if_neg notNegative, Int.natAbs_natCast]

theorem decimal_ne_nil (value : Nat) : decimal (value : Int) ≠ [] := by
  rw [decimal_natCast]
  exact Nat.toDigits_ne_nil

theorem isDigit_of_mem_decimal {value : Nat} {char : Char}
    (member : char ∈ decimal (value : Int)) : char.isDigit = true := by
  rw [decimal_natCast] at member
  exact Nat.isDigit_of_mem_toDigits (by decide) (by decide) member

theorem length_decimal_le_iff {value width : Nat} (positive : 0 < width) :
    (decimal (value : Int)).length ≤ width ↔ value < 10 ^ width := by
  rw [decimal_natCast]
  exact Nat.length_toDigits_le_iff (by decide) positive

section Digit

variable {char : Char} (digit : char.isDigit = true)

include digit

theorem toNat_of_isDigit : 0x30 ≤ char.toNat ∧ char.toNat ≤ 0x39 := by
  simp only [Char.isDigit, Bool.and_eq_true, decide_eq_true_eq, ge_iff_le,
    UInt32.le_iff_toNat_le] at digit
  exact digit

theorem decimalDigit?_of_isDigit :
    decimalDigit? char = some (char.toNat - 0x30) := by
  obtain ⟨low, high⟩ := toNat_of_isDigit digit
  have zeros : decimalZeros = 0x30 :: decimalZeros.tail := rfl
  have within : char.toNat < 0x30 + 10 := by omega
  rw [decimalDigit?, zeros, List.find?_cons_of_pos]
  · rfl
  · simp [low, within]

theorem isBlank_of_isDigit : isBlank char = false := by
  obtain ⟨low, high⟩ := toNat_of_isDigit digit
  have outside : ∀ code ≤ 0x39, 0x30 ≤ code →
      isBlank (Char.ofNat code) = false := by
    decide
  have kept := outside char.toNat high low
  rwa [Char.ofNat_toNat] at kept

theorem isNumeralPadding_of_isDigit : isNumeralPadding char = false := by
  rw [isNumeralPadding, isBlank_of_isDigit digit]
  rfl

end Digit

section Digits

variable {digits : Text} (all : ∀ char ∈ digits, char.isDigit = true)

include all

theorem ofDigits_of_isDigit :
    digits.mapM decimalDigit? = some (digits.map fun char => char.toNat - 0x30) ∧
      ofDigits (digits.map fun char => char.toNat - 0x30) =
        Nat.ofDigitChars 10 digits 0 := by
  constructor
  · induction digits with
    | nil => rfl
    | cons char rest induction =>
        rw [List.mapM_cons, decimalDigit?_of_isDigit (all char List.mem_cons_self),
          induction fun other member => all other (List.mem_cons_of_mem _ member)]
        rfl
  · rw [ofDigits, List.foldl_map, Nat.ofDigitChars_eq_foldl]
    simp only [Nat.mul_comm 10]
    rfl

theorem unsigned?_of_isDigit (filled : digits ≠ [])
    (short : digits.length ≤ maxIntegerDigits) :
    unsigned? digits = some (Nat.ofDigitChars 10 digits 0) := by
  obtain ⟨read, value⟩ := ofDigits_of_isDigit all
  have noSeparator : '_' ∉ digits := by
    intro member
    exact absurd (all '_' member) (by decide)
  have group : digitGroup? digits =
      some (digits.map fun char => char.toNat - 0x30) := by
    rw [digitGroup?, if_neg (by simpa using filled), read]
  rw [unsigned?, List.splitOn_eq_singleton noSeparator, List.mapM_cons, group,
    ← value]
  simp [short]

theorem trimBy_of_isDigit : digits.trimBy isNumeralPadding = digits := by
  apply Text.trimBy_of_kept
  · intro char first
    exact isNumeralPadding_of_isDigit (all char (List.mem_of_mem_head? first))
  · intro char last
    exact isNumeralPadding_of_isDigit (all char (List.mem_of_getLast? last))

end Digits

/-- A natural number is read as it was written. -/
theorem integer?_decimal {value : Nat}
    (short : (decimal (value : Int)).length ≤ maxIntegerDigits) :
    integer? (decimal (value : Int)) = some (value : Int) := by
  have digits : ∀ char ∈ decimal (value : Int), char.isDigit = true :=
    fun char => isDigit_of_mem_decimal
  have value_eq : Nat.ofDigitChars 10 (decimal (value : Int)) 0 = value := by
    rw [decimal_natCast, Nat.ofDigitChars_ten_toDigits]
  have read := unsigned?_of_isDigit digits (decimal_ne_nil value) short
  rw [integer?, trimBy_of_isDigit digits]
  split
  · rename_i rest signed
    exact absurd (digits '-' (signed ▸ List.mem_cons_self)) (by decide)
  · rename_i rest signed
    exact absurd (digits '+' (signed ▸ List.mem_cons_self)) (by decide)
  · rw [read, value_eq]
    rfl

end LogLens
