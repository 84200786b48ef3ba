/-
This file reads runs of decimal digits back as the numbers that they write.
-/

import GuestPod.Text.Word

namespace GuestPod.Text

theorem isDigit_iff_toNat {c : Char} : c.isDigit = true ↔ 48 ≤ c.toNat ∧ c.toNat ≤ 57 := by
  simp only [Char.isDigit, Bool.and_eq_true, decide_eq_true_eq, ge_iff_le, UInt32.le_iff_toNat_le]
  exact Iff.rfl

/-- No digit follows. -/
def DigitsEnd (rest : List Char) : Prop :=
  ∀ c tail, rest = c :: tail → c.isDigit = false

theorem digitsEnd_nil : DigitsEnd [] := by
  intro c tail same
  cases same

theorem digitsEnd_cons {c : Char} {rest : List Char} (other : c.isDigit = false) :
    DigitsEnd (c :: rest) := by
  intro c tail same
  cases same
  exact other

theorem DigitsEnd.takeWhile_eq_nil {rest : List Char} (ended : DigitsEnd rest) :
    rest.takeWhile Char.isDigit = [] := by
  cases rest with
  | nil => rfl
  | cons c tail => rw [List.takeWhile_cons_of_neg (by simp [ended c tail rfl])]

theorem DigitsEnd.dropWhile_eq_self {rest : List Char} (ended : DigitsEnd rest) :
    rest.dropWhile Char.isDigit = rest := by
  cases rest with
  | nil => rfl
  | cons c tail => rw [List.dropWhile_cons_of_neg (by simp [ended c tail rfl])]

section Run

variable {digits rest : List Char}

theorem takeWhile_isDigit_append (run : ∀ c ∈ digits, c.isDigit = true) (ended : DigitsEnd rest) :
    (digits ++ rest).takeWhile Char.isDigit = digits := by
  rw [List.takeWhile_append_of_pos run, ended.takeWhile_eq_nil, List.append_nil]

theorem dropWhile_isDigit_append (run : ∀ c ∈ digits, c.isDigit = true) (ended : DigitsEnd rest) :
    (digits ++ rest).dropWhile Char.isDigit = rest := by
  rw [List.dropWhile_append_of_pos run, ended.dropWhile_eq_self]

end Run

theorem isDigit_of_mem_toDigits {n : Nat} {c : Char} (member : c ∈ Nat.toDigits 10 n) :
    c.isDigit = true :=
  Nat.isDigit_of_mem_toDigits (by decide) (by decide) member

/-- Only zero itself is written with a leading zero. -/
theorem tail_eq_nil_of_toDigits {n : Nat} {rest : List Char}
    (text : Nat.toDigits 10 n = '0' :: rest) : rest = [] := by
  induction n using Nat.strongRecOn generalizing rest with
  | ind n ih =>
      by_cases small : n < 10
      · rw [Nat.toDigits_of_lt_base small] at text
        exact (List.cons.inj text).2.symm
      · rw [Nat.toDigits_of_base_le (by decide) (by omega)] at text
        have positive : 0 < n / 10 := by omega
        cases front : Nat.toDigits 10 (n / 10) with
        | nil => exact absurd front Nat.toDigits_ne_nil
        | cons first more =>
            rw [front, List.cons_append, List.cons.injEq] at text
            obtain ⟨rfl, -⟩ := text
            have alone := ih (n / 10) (by omega) front
            have value := @Nat.ofDigitChars_ten_toDigits (n / 10)
            rw [front, alone] at value
            have zero : Nat.ofDigitChars 10 ['0'] 0 = 0 := by decide
            omega

/-- Further digits make a number no smaller. -/
theorem le_ofDigitChars (digits : List Char) (value : Nat) :
    value ≤ Nat.ofDigitChars 10 digits value := by
  rw [Nat.ofDigitChars_eq_ofDigitChars_zero]
  have : 1 * value ≤ 10 ^ digits.length * value :=
    Nat.mul_le_mul_right value (Nat.one_le_pow _ _ (by decide))
  omega

theorem ofDigitChars_cons_digitValue (c : Char) (rest : List Char) (value : Nat) :
    Nat.ofDigitChars 10 (c :: rest) value =
      Nat.ofDigitChars 10 rest (10 * value + digitValue c) :=
  Nat.ofDigitChars_cons

theorem uint16_lt (n : UInt16) : n.toNat < wordBound 16 :=
  n.toNat_lt

theorem uint32_lt (n : UInt32) : n.toNat < wordBound 32 :=
  n.toNat_lt

end GuestPod.Text
