/-
This file holds dates of the Gregorian calendar and the steps between neighbouring days.
-/

namespace GuestPod.Time

def isLeap (year : Int) : Bool :=
  year % 4 = 0 && (year % 100 ≠ 0 || year % 400 = 0)

def daysIn (year : Int) (month : Nat) : Nat :=
  if month = 2 then (if isLeap year then 29 else 28)
  else if month = 4 ∨ month = 6 ∨ month = 9 ∨ month = 11 then 30
  else 31

theorem daysIn_pos (year : Int) (month : Nat) : 1 ≤ daysIn year month := by
  unfold daysIn
  split
  · split <;> decide
  · split <;> decide

theorem daysIn_le (year : Int) (month : Nat) : daysIn year month ≤ 31 := by
  unfold daysIn
  split
  · split <;> decide
  · split <;> decide

/-- A date names a day that its month has. -/
structure Date where
  year : Int
  month : Nat
  day : Nat
  month_pos : 1 ≤ month
  month_le : month ≤ 12
  day_pos : 1 ≤ day
  day_le : day ≤ daysIn year month
  deriving DecidableEq, Repr

namespace Date

def of? (year : Int) (month day : Nat) : Option Date :=
  if h : (1 ≤ month ∧ month ≤ 12) ∧ (1 ≤ day ∧ day ≤ daysIn year month) then
    some ⟨year, month, day, h.1.1, h.1.2, h.2.1, h.2.2⟩
  else none

theorem of?_date (date : Date) : of? date.year date.month date.day = some date := by
  unfold of?
  rw [dif_pos ⟨⟨date.month_pos, date.month_le⟩, date.day_pos, date.day_le⟩]

def firstOf (year : Int) (month : Nat) (low : 1 ≤ month) (high : month ≤ 12) : Date :=
  ⟨year, month, 1, low, high, Nat.le_refl 1, daysIn_pos year month⟩

def lastOf (year : Int) (month : Nat) (low : 1 ≤ month) (high : month ≤ 12) : Date :=
  ⟨year, month, daysIn year month, low, high, daysIn_pos year month, Nat.le_refl _⟩

/-- The first day of the epoch. -/
def epoch : Date :=
  firstOf 1970 1 (Nat.le_refl 1) (Nat.le_add_left 1 11)

/-- The day after the last of a month is the first of the next. -/
def next (date : Date) : Date :=
  if more : date.day < daysIn date.year date.month then
    { date with day := date.day + 1, day_pos := by omega, day_le := more }
  else if room : date.month < 12 then
    firstOf date.year (date.month + 1) (by omega) (by omega)
  else firstOf (date.year + 1) 1 (by decide) (by decide)

/-- The day before the first of a month is the last of the one before. -/
def previous (date : Date) : Date :=
  if more : 1 < date.day then
    { date with
      day := date.day - 1
      day_pos := by omega
      day_le := by have := date.day_le; omega }
  else if room : 1 < date.month then
    lastOf date.year (date.month - 1) (by omega) (by have := date.month_le; omega)
  else lastOf (date.year - 1) 12 (by decide) (by decide)

/-- Years reach a quarter of a million in both directions. -/
def inRange (date : Date) : Bool :=
  -262143 ≤ date.year && date.year ≤ 262142

end Date

end GuestPod.Time
