/-
This file reads a printed point in time back.
-/

import GuestPod.Proofs.Digits
import GuestPod.Time.Text
import Mathlib.Algebra.Group.Nat.Defs

namespace GuestPod.Time

open Text

/-- The years of four digits without leap seconds. -/
def DateTime.Plain (time : DateTime) : Prop :=
  (1 ≤ time.date.year ∧ time.date.year ≤ 9999) ∧ time.nanosecond.val < 1000000000

theorem isBlank_of_isDigit {c : Char} (digit : c.isDigit = true) : isBlank c = false := by
  rw [isDigit_iff_toNat] at digit
  simp only [isBlank, Bool.or_eq_false_iff, Bool.and_eq_false_iff, decide_eq_false_iff_not,
    beq_eq_false_iff_ne]
  omega

section Padded

variable {width n : Nat}

theorem padded_digits (width n : Nat) : ∀ c ∈ padded width n, c.isDigit = true := by
  intro c member
  rcases List.mem_append.1 member with zero | digit
  · rw [List.eq_of_mem_replicate zero]
    decide
  · exact isDigit_of_mem_toDigits digit

theorem length_padded (positive : 0 < width) (small : n < 10 ^ width) :
    (padded width n).length = width := by
  have := (Nat.length_toDigits_le_iff (b := 10) (by decide) positive).2 small
  simp only [padded, List.length_append, List.length_replicate]
  omega

theorem ofDigitChars_padded (width n : Nat) : Nat.ofDigitChars 10 (padded width n) 0 = n := by
  rw [padded, Nat.ofDigitChars_append, Nat.ofDigitChars_replicate_zero, Nat.mul_zero,
    Nat.ofDigitChars_ten_toDigits]

/-- A number of a fixed width is taken whole. -/
theorem takeNumber_padded (positive : 0 < width) (small : n < 10 ^ width) (rest : List Char) :
    takeNumber width (padded width n ++ rest) = some (n, rest) := by
  have length := length_padded positive small
  have front : (padded width n ++ rest).take width = padded width n := by
    rw [List.take_left' length]
  have run : (padded width n).takeWhile Char.isDigit = padded width n := by
    simpa using takeWhile_isDigit_append (padded_digits width n) digitsEnd_nil
  have value := ofDigitChars_padded width n
  unfold takeNumber
  rw [front, run]
  split
  · rename_i empty
    rw [empty, List.length_nil] at length
    omega
  · rw [value, List.drop_left' rfl]

theorem trimLeft_padded (positive : 0 < width) (small : n < 10 ^ width) (rest : List Char) :
    trimLeft (padded width n ++ rest) = padded width n ++ rest := by
  have length := length_padded positive small
  cases text : padded width n with
  | nil => simp [text] at length; omega
  | cons c tail =>
      have digit := padded_digits width n c (by rw [text]; exact List.mem_cons_self ..)
      rw [List.cons_append, trimLeft,
        List.dropWhile_cons_of_neg (by simp [isBlank_of_isDigit digit])]

theorem component_padded (small : n < 100) (rest : List Char) :
    component (padded 2 n ++ rest) = some (n, rest) := by
  rw [component, trimLeft_padded (by decide) small, takeNumber_padded (by decide) small]

end Padded

theorem mark_cons {c : Char} (solid : isBlank c = false) (rest : List Char) :
    mark c (c :: rest) = some rest := by
  rw [mark, trimLeft, List.dropWhile_cons_of_neg (by simp [solid])]
  exact if_pos rfl

/-- A year of four digits has no sign. -/
theorem signedYear_padded {year : Nat} (small : year < 10000) (rest : List Char) :
    signedYear (padded 4 year ++ rest) = some ((year : Int), rest) := by
  have number := takeNumber_padded (by decide : 0 < 4) small rest
  have digits := padded_digits 4 year
  have length := length_padded (by decide : 0 < 4) small
  unfold signedYear
  rw [trimLeft_padded (by decide) small]
  cases text : padded 4 year with
  | nil => simp [text] at length
  | cons c tail =>
      rw [text] at number digits
      have digit := digits c (List.mem_cons_self ..)
      split
      · rename_i same
        rw [(List.cons.inj same).1] at digit
        exact absurd digit (by decide)
      · rename_i same
        rw [(List.cons.inj same).1] at digit
        exact absurd digit (by decide)
      · rw [number]
        rfl

/-- A group of digits behind the point counts in units of its own. -/
theorem fraction_padded {width n : Nat} (positive : 0 < width) (within : width ≤ 9)
    (small : n < 10 ^ width) {rest : List Char} (ended : DigitsEnd rest) :
    fraction ('.' :: padded width n ++ rest) = some (n * 10 ^ (9 - width), rest) := by
  have length := length_padded positive small
  have run := takeWhile_isDigit_append (padded_digits width n) ended
  unfold fraction
  simp only [List.cons_append]
  rw [run]
  split
  · rename_i empty
    rw [empty, List.length_nil] at length
    omega
  · rw [List.take_of_length_le (by omega), ofDigitChars_padded, length, List.drop_left' length]
    rfl

theorem fraction_fractionText {nanosecond : Nat} (small : nanosecond < 1000000000) :
    fraction (fractionText nanosecond ++ ['Z']) = some (nanosecond, ['Z']) := by
  have ended : DigitsEnd ['Z'] := digitsEnd_cons (by decide)
  unfold fractionText
  split
  · rename_i zero
    subst zero
    rfl
  split
  · rw [fraction_padded (by decide) (by decide) (by omega) ended]
    simp only [Option.some.injEq, Prod.mk.injEq, and_true]
    omega
  split
  · rw [fraction_padded (by decide) (by decide) (by omega) ended]
    simp only [Option.some.injEq, Prod.mk.injEq, and_true]
    omega
  · rw [fraction_padded (by decide) (by decide) (by omega) ended]
    simp

theorem shift_zero (time : DateTime) : time.shift 0 = time := by
  obtain ⟨date, ⟨hour, hourLt⟩, ⟨minute, minuteLt⟩, second, nanosecond⟩ := time
  simp only [DateTime.shift, DateTime.minuteOfDay, Int.add_zero, DateTime.mk.injEq, Fin.mk.injEq,
    and_true]
  refine ⟨?_, by omega, by omega⟩
  rw [if_neg (by omega), if_neg (by omega)]

/-- The second of a point in time is never the sixtieth. -/
theorem ofParts_parts (time : DateTime) :
    ofParts time.date time.hour.val time.minute.val time.second.val time.nanosecond.val =
      some time := by
  have second := time.second.isLt
  unfold ofParts
  simp only [if_neg (by omega : ¬time.second.val = 60), Nat.sub_zero, Nat.zero_mul, Nat.add_zero]
  rw [dif_pos ⟨⟨time.hour.isLt, time.minute.isLt⟩, second, time.nanosecond.isLt⟩]

theorem bind_of_some {α β : Type} {first : Option α} {value : α} {next : α → Option β}
    (found : first = some value) : (first >>= next) = next value := by
  rw [found]
  rfl

theorem guard_of {condition : Prop} [Decidable condition] (holds : condition) :
    (guard condition : Option Unit) = some () := if_pos holds

theorem parse?_print {time : DateTime} (plain : time.Plain) :
    DateTime.parse? time.print = some time := by
  obtain ⟨⟨low, high⟩, fine⟩ := plain
  obtain ⟨year, sameYear⟩ := Int.eq_ofNat_of_zero_le (by omega : 0 ≤ time.date.year)
  have yearText : yearText time.date.year = padded 4 year := by
    rw [yearText, if_pos ⟨by omega, by omega⟩, sameYear, Int.toNat_natCast]
  have text : time.print = padded 4 year ++ ('-' :: (padded 2 time.date.month ++ ('-' ::
      (padded 2 time.date.day ++ ('T' :: (padded 2 time.hour.val ++ (':' ::
        (padded 2 time.minute.val ++ (':' :: (padded 2 time.second.val ++
          (fractionText time.nanosecond.val ++ ['Z']))))))))))) := by
    have whole : time.nanosecond.val / 1000000000 = 0 := Nat.div_eq_of_lt fine
    have part : time.nanosecond.val % 1000000000 = time.nanosecond.val := Nat.mod_eq_of_lt fine
    simp [DateTime.print, yearText, whole, part]
  have month := time.date.month_le
  have day := Nat.le_trans time.date.day_le (daysIn_le _ _)
  have hour := time.hour.isLt
  have minute := time.minute.isLt
  have second := time.second.isLt
  have zone : offset (trimLeft ['Z']) = some (0, []) := by decide
  have range : time.date.inRange = true := by
    simp only [Date.inRange, Bool.and_eq_true, decide_eq_true_eq]
    omega
  have dash (rest : List Char) : mark '-' ('-' :: rest) = some rest := mark_cons (by decide) rest
  have colon (rest : List Char) : mark ':' (':' :: rest) = some rest := mark_cons (by decide) rest
  have separated (rest : List Char) : separator ('T' :: rest) = some rest := rfl
  rw [text]
  have year := signedYear_padded (by omega : year < 10000)
  refine (bind_of_some (year _)).trans ((bind_of_some (dash _)).trans ?_)
  refine (bind_of_some (component_padded (by omega) _)).trans ((bind_of_some (dash _)).trans ?_)
  refine (bind_of_some (component_padded (by omega) _)).trans
    ((bind_of_some (separated _)).trans ?_)
  refine (bind_of_some (component_padded (by omega) _)).trans ((bind_of_some (colon _)).trans ?_)
  refine (bind_of_some (component_padded (by omega) _)).trans ((bind_of_some (colon _)).trans ?_)
  refine (bind_of_some (component_padded (by omega) _)).trans ?_
  refine (bind_of_some (fraction_fractionText fine)).trans ((bind_of_some zone).trans ?_)
  refine (bind_of_some (guard_of rfl)).trans ((bind_of_some (guard_of (by decide))).trans ?_)
  rw [← sameYear]
  refine (bind_of_some (Date.of?_date _)).trans ((bind_of_some (guard_of range)).trans ?_)
  refine (bind_of_some (ofParts_parts time)).trans ?_
  rw [Int.neg_zero, shift_zero]
  exact bind_of_some (guard_of range)

end GuestPod.Time
