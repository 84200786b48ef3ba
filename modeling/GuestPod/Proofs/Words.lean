/-
This file says which texts are words in decimal, and what the others fail at.
-/

import GuestPod.Proofs.Digits

namespace GuestPod.Text

/-- At least one digit, with a plus before the first or not, and the number that they write. -/
def Denotes (text : List Char) (n : Nat) : Prop :=
  ∃ digits, (text = digits ∨ text = '+' :: digits) ∧ digits ≠ [] ∧
    (∀ c ∈ digits, c.isDigit = true) ∧ Nat.ofDigitChars 10 digits 0 = n

/-- The digits at the front, behind a plus or not, write the bound or more.  Anything may follow. -/
def Exceeds (bound : Nat) (text : List Char) : Prop :=
  ∃ digits rest, (text = digits ++ rest ∨ text = '+' :: (digits ++ rest)) ∧
    (∀ c ∈ digits, c.isDigit = true) ∧ bound ≤ Nat.ofDigitChars 10 digits 0

/-- A number is denoted by its own digits. -/
theorem denotes_toDigits (n : Nat) : Denotes (Nat.toDigits 10 n) n :=
  ⟨_, .inl rfl, Nat.toDigits_ne_nil, fun _ => isDigit_of_mem_toDigits,
    Nat.ofDigitChars_ten_toDigits⟩

section Digits

variable {bound value n : Nat} {text : List Char}

/-- Digits below the bound are read to their end. -/
theorem wordDigits_eq_ok_iff (small : value < bound) :
    wordDigits bound value text = .ok n ↔
      (∀ c ∈ text, c.isDigit = true) ∧ Nat.ofDigitChars 10 text value = n ∧ n < bound := by
  induction text generalizing value with
  | nil =>
      simp only [wordDigits, Nat.ofDigitChars_nil, Except.ok.injEq]
      constructor
      · rintro rfl
        exact ⟨by simp, rfl, small⟩
      · exact fun denoted => denoted.2.1
  | cons c rest ih =>
      rw [wordDigits, List.forall_mem_cons, ofDigitChars_cons_digitValue]
      by_cases digit : c.isDigit = true
      · by_cases below : 10 * value + digitValue c < bound
        · simp [digit, below, ih below]
        · have more := le_ofDigitChars rest (10 * value + digitValue c)
          simp only [digit, below, if_true, if_false, reduceCtorEq, false_iff]
          rintro ⟨-, denoted, small⟩
          omega
      · simp [digit]

/-- An overflow is met at a digit, before anything behind it is looked at. -/
theorem wordDigits_eq_overflow_iff (small : value < bound) :
    wordDigits bound value text = .error .overflow ↔
      ∃ digits rest, text = digits ++ rest ∧ (∀ c ∈ digits, c.isDigit = true) ∧
        bound ≤ Nat.ofDigitChars 10 digits value := by
  induction text generalizing value with
  | nil =>
      simp only [wordDigits, reduceCtorEq, false_iff]
      rintro ⟨digits, rest, empty, -, large⟩
      obtain ⟨rfl, -⟩ := List.append_eq_nil_iff.1 empty.symm
      exact absurd large (Nat.not_le.2 small)
  | cons c rest ih =>
      -- A longer run of digits begins with the digit at hand, since the value so far is small.
      have first : (∃ digits more, c :: rest = digits ++ more ∧
          (∀ d ∈ digits, d.isDigit = true) ∧ bound ≤ Nat.ofDigitChars 10 digits value) ↔
          c.isDigit = true ∧ ∃ digits more, rest = digits ++ more ∧
            (∀ d ∈ digits, d.isDigit = true) ∧
              bound ≤ Nat.ofDigitChars 10 digits (10 * value + digitValue c) := by
        constructor
        · rintro ⟨_ | ⟨d, digits⟩, more, same, run, large⟩
          · exact absurd large (Nat.not_le.2 small)
          · obtain ⟨rfl, rfl⟩ := List.cons.inj same
            rw [List.forall_mem_cons] at run
            rw [ofDigitChars_cons_digitValue] at large
            exact ⟨run.1, digits, more, rfl, run.2, large⟩
        · rintro ⟨digit, digits, more, rfl, run, large⟩
          refine ⟨c :: digits, more, rfl, List.forall_mem_cons.2 ⟨digit, run⟩, ?_⟩
          rwa [ofDigitChars_cons_digitValue]
      rw [first, wordDigits]
      by_cases digit : c.isDigit = true
      · by_cases below : 10 * value + digitValue c < bound
        · simp [digit, below, ih below]
        · simp only [digit, below, if_true, if_false, true_and, true_iff]
          exact ⟨[], rest, rfl, by simp, Nat.not_lt.1 below⟩
      · simp [digit]

theorem wordDigits_ne_empty : wordDigits bound value text ≠ .error .empty := by
  induction text generalizing value with
  | nil => simp [wordDigits]
  | cons c rest ih =>
      simp only [wordDigits]
      split
      · split
        · exact ih
        · simp
      · simp

end Digits

section Word

variable {bound n : Nat} {text : List Char}

/-- Unless the text is empty or a lone plus, its digits are read from zero. -/
theorem readWord_cases (bound : Nat) (text : List Char) :
    (text = [] ∧ readWord bound text = .error .empty) ∨
      (text = ['+'] ∧ readWord bound text = .error .badDigit) ∨
      ∃ digits, digits ≠ [] ∧ (text = digits ∧ text.head? ≠ some '+' ∨ text = '+' :: digits) ∧
        readWord bound text = wordDigits bound 0 digits := by
  unfold readWord
  split
  · exact .inl ⟨rfl, rfl⟩
  · exact .inr (.inl ⟨rfl, rfl⟩)
  · rename_i digits more
    exact .inr (.inr ⟨digits, more, .inr rfl, rfl⟩)
  · rename_i filled lone signed
    refine .inr (.inr ⟨text, filled, .inl ⟨rfl, ?_⟩, rfl⟩)
    intro plus
    obtain ⟨rest, rfl⟩ := List.head?_eq_some_iff.1 plus
    exact signed rest rfl

/-- A plus is no digit, so what follows it or the whole text are the digits. -/
theorem eq_of_sign {digits other : List Char}
    (front : text = digits ∧ text.head? ≠ some '+' ∨ text = '+' :: digits)
    (split : text = other ∨ text = '+' :: other) (run : ∀ c ∈ other.head?, c.isDigit = true) :
    other = digits := by
  rcases front with ⟨rfl, unsigned⟩ | rfl <;> rcases split with rfl | same
  · rfl
  · rw [same] at unsigned
    exact absurd rfl unsigned
  · exact absurd (run '+' rfl) (by decide)
  · exact (List.cons.inj same).2.symm

theorem readWord_eq_ok_iff (positive : 0 < bound) :
    readWord bound text = .ok n ↔ Denotes text n ∧ n < bound := by
  rcases readWord_cases bound text with ⟨rfl, read⟩ | ⟨rfl, read⟩ | ⟨digits, filled, front, read⟩
  · simp [read, Denotes]
  · simp only [read, reduceCtorEq, false_iff]
    rintro ⟨⟨digits, split, filled, run, -⟩, -⟩
    have alone := eq_of_sign (.inr rfl) split fun c first => run c (List.mem_of_head? first)
    exact filled alone
  · rw [read, wordDigits_eq_ok_iff positive]
    constructor
    · rintro ⟨run, denoted, small⟩
      exact ⟨⟨digits, front.imp_left And.left, filled, run, denoted⟩, small⟩
    · rintro ⟨⟨other, split, -, run, denoted⟩, small⟩
      obtain rfl := eq_of_sign front split fun c first => run c (List.mem_of_head? first)
      exact ⟨run, denoted, small⟩

theorem readWord_eq_overflow_iff (positive : 0 < bound) :
    readWord bound text = .error .overflow ↔ Exceeds bound text := by
  -- Without a digit there is nothing that could be too large.
  have filled (digits : List Char) (large : bound ≤ Nat.ofDigitChars 10 digits 0) :
      digits ≠ [] := by
    rintro rfl
    exact absurd large (Nat.not_le.2 positive)
  rcases readWord_cases bound text with ⟨rfl, read⟩ | ⟨rfl, read⟩ | ⟨digits, -, front, read⟩
  · simp only [read, Except.error.injEq, reduceCtorEq, false_iff]
    rintro ⟨digits, rest, split, -, large⟩
    have := filled digits large
    simp_all
  · simp only [read, Except.error.injEq, reduceCtorEq, false_iff]
    rintro ⟨digits, rest, split, run, large⟩
    obtain ⟨c, more, rfl⟩ := List.exists_cons_of_ne_nil (filled digits large)
    have first := run c List.mem_cons_self
    have alone := eq_of_sign (.inr rfl) split (by simpa using first)
    simp at alone
  · rw [read, wordDigits_eq_overflow_iff positive]
    constructor
    · rintro ⟨run, rest, rfl, digit, large⟩
      exact ⟨run, rest, front.imp_left And.left, digit, large⟩
    · rintro ⟨run, rest, split, digit, large⟩
      obtain ⟨c, more, rfl⟩ := List.exists_cons_of_ne_nil (filled run large)
      have first := digit c List.mem_cons_self
      obtain rfl := eq_of_sign front split (by simpa using first)
      exact ⟨c :: more, rest, rfl, digit, large⟩

theorem readWord_eq_empty_iff : readWord bound text = .error .empty ↔ text = [] := by
  rcases readWord_cases bound text with ⟨rfl, read⟩ | ⟨rfl, read⟩ | ⟨digits, filled, front, read⟩
  · simp [read]
  · simp [read]
  · have nonempty : text ≠ [] := by rcases front with ⟨rfl, -⟩ | rfl <;> simp [filled]
    simp [read, wordDigits_ne_empty, nonempty]

/-- A text denotes one number only. -/
theorem Denotes.unique {m : Nat} (one : Denotes text m) (two : Denotes text n) : m = n := by
  have positive : 0 < m + n + 1 := by omega
  have first := (readWord_eq_ok_iff positive).2 ⟨one, by omega⟩
  have second := (readWord_eq_ok_iff positive).2 ⟨two, by omega⟩
  exact Except.ok.inj (first.symm.trans second)

theorem Denotes.exists_digit (denoted : Denotes text n) : ∃ c ∈ text, c.isDigit = true := by
  obtain ⟨digits, split, filled, run, -⟩ := denoted
  obtain ⟨c, rest, rfl⟩ := List.exists_cons_of_ne_nil filled
  refine ⟨c, ?_, run c List.mem_cons_self⟩
  rcases split with rfl | rfl <;> simp

end Word

end GuestPod.Text
