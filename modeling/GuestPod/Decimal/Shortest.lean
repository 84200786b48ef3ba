/-
This file finds the fewest decimal digits that read back as a given binary64 number.
-/

import GuestPod.Decimal.Binary64

namespace GuestPod.Decimal

/-- The number is `digits * 10 ^ exponent`. -/
structure Numeral where
  digits : Nat
  exponent : Int
  deriving DecidableEq, Repr

namespace Numeral

/-- Trailing zeros move into the exponent. -/
def trim (fuel : Nat) (x : Numeral) : Numeral :=
  match fuel with
  | 0 => x
  | fuel + 1 =>
      if x.digits ≠ 0 ∧ x.digits % 10 = 0 then trim fuel ⟨x.digits / 10, x.exponent + 1⟩ else x

/-- The exponent of the first digit. -/
def leading (x : Numeral) : Int :=
  x.exponent + (Nat.toDigits 10 x.digits).length - 1

end Numeral

namespace Binary64

/-- A step up is taken while the power of ten does not exceed the ratio. -/
def climb (numerator denominator : Nat) : Nat → Int → Int
  | 0, power => power
  | fuel + 1, power =>
      let (above, below) := scaled 10 (-(power + 1)) numerator denominator
      if below ≤ above then climb numerator denominator fuel (power + 1) else power

/-- The greatest power of ten that does not exceed a positive ratio. -/
def decimalExponent (numerator denominator : Nat) : Int :=
  let spread : Int := (numerator.log2 : Int) - denominator.log2
  climb numerator denominator 6 ((spread * 30103) / 100000 - 3)

/--
The numbers that round to a given one form an interval; its ends count in quarters of the last
place, and they belong to it when the significand is even.
-/
structure Interval where
  low : Nat
  middle : Nat
  high : Nat
  closed : Bool

/-- The gap below a power of two is half the gap above it. -/
def interval (x : Binary64) : Interval where
  low := 4 * x.significand - (if x.significand = leastNormal ∧ minExponent < x.exponent then 1 else 2)
  middle := 4 * x.significand
  high := 4 * x.significand + 2
  closed := x.significand % 2 = 0

/-- The nearer neighbour on the decimal grid, if one of the two lies in the interval. -/
def onGrid (x : Binary64) (step : Int) : Option Nat :=
  let range := x.interval
  let place (quarters : Nat) : Nat :=
    quarters * Nat.pow 2 (x.exponent - 2).toNat * Nat.pow 10 (-step).toNat
  let unit := Nat.pow 2 (2 - x.exponent).toNat * Nat.pow 10 step.toNat
  let inside (candidate : Nat) : Bool :=
    if range.closed then
      place range.low ≤ candidate * unit && candidate * unit ≤ place range.high
    else
      place range.low < candidate * unit && candidate * unit < place range.high
  let below := place range.middle / unit
  let remainder := 2 * (place range.middle % unit)
  match inside below, inside (below + 1) with
  | true, true =>
      if remainder < unit ∨ (remainder = unit ∧ below % 2 = 0) then some below
      else some (below + 1)
  | true, false => some below
  | false, true => some (below + 1)
  | false, false => none

/-- The coarsest grid with a hit gives the digits. -/
def searchGrid (x : Binary64) : Nat → Int → Numeral
  | 0, step => ⟨(x.onGrid step).getD 0, step⟩
  | fuel + 1, step =>
      match x.onGrid step with
      | some digits => ⟨digits, step⟩
      | none => searchGrid x fuel (step - 1)

/-- The fewest digits that read back, and of those the nearest. -/
def shortest (x : Binary64) : Numeral :=
  if x.isZero then ⟨0, 0⟩
  else
    let (above, below) := x.ratio
    (x.searchGrid 20 (decimalExponent above below)).trim 20

end Binary64

end GuestPod.Decimal
