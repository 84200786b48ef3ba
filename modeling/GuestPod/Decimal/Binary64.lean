/-
This file holds finite binary64 numbers and the rounding of a ratio to the nearest of them.
-/

namespace GuestPod.Decimal

/-- The quotient is the nearest integer, and a tie goes to the even one. -/
def divideToNearest (numerator denominator : Nat) : Nat :=
  let quotient := numerator / denominator
  let remainder := 2 * (numerator % denominator)
  if denominator < remainder ∨ (denominator = remainder ∧ quotient % 2 = 1) then quotient + 1
  else quotient

/-- The magnitude is `significand * 2 ^ exponent`. -/
structure Binary64 where
  negative : Bool
  significand : Nat
  exponent : Int
  deriving DecidableEq, Repr

namespace Binary64

/-- The least exponent serves zero and the subnormal numbers. -/
def minExponent : Int := -1074

def maxExponent : Int := 971

/-- The significand of a normal number has 53 bits. -/
def leastNormal : Nat := Nat.pow 2 52

def zero (negative : Bool) : Binary64 := ⟨negative, 0, minExponent⟩

def isZero (x : Binary64) : Bool := x.significand == 0

/-- A positive power goes above the line and a negative one below it. -/
def scaled (base : Nat) (power : Int) (numerator denominator : Nat) : Nat × Nat :=
  (numerator * Nat.pow base power.toNat, denominator * Nat.pow base (-power).toNat)

/-- The magnitude is a ratio of natural numbers. -/
def ratio (x : Binary64) : Nat × Nat :=
  scaled 2 x.exponent x.significand 1

/-- The exponent leaves at most 53 bits before the point. -/
def exponentFor (numerator denominator : Nat) : Int :=
  let spread : Int := (numerator.log2 : Int) - denominator.log2
  let first := max (spread - 53) minExponent
  let (above, below) := scaled 2 (-first) numerator denominator
  if below * (2 * leastNormal) ≤ above then first + 1 else first

/-- A ratio above the greatest number has no rounding. -/
def round (negative : Bool) (numerator denominator : Nat) : Option Binary64 :=
  if numerator = 0 then some (zero negative)
  else
    let exponent := exponentFor numerator denominator
    let (above, below) := scaled 2 (-exponent) numerator denominator
    let significand := divideToNearest above below
    let x : Binary64 :=
      if significand = 2 * leastNormal then ⟨negative, leastNormal, exponent + 1⟩
      else ⟨negative, significand, exponent⟩
    if x.exponent ≤ maxExponent then some x else none

/-- The product of two magnitudes is rounded once; the sign is that of the first. -/
def mul (x y : Binary64) : Option Binary64 :=
  round x.negative (x.ratio.1 * y.ratio.1) (x.ratio.2 * y.ratio.2)

/-- The quotient of two magnitudes is rounded once; the sign is that of the first. -/
def div (x y : Binary64) : Option Binary64 :=
  round x.negative (x.ratio.1 * y.ratio.2) (x.ratio.2 * y.ratio.1)

def ofNat (n : Nat) : Option Binary64 := round false n 1

end Binary64

end GuestPod.Decimal
