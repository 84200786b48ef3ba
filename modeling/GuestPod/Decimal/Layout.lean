/-
This file lays out the shortest digits of a number as text.
-/

import GuestPod.Decimal.Shortest

namespace GuestPod.Decimal

/-- A layout says which leading exponents are written with a point alone. -/
structure Layout where
  positional : Int → Bool

namespace Layout

/-- Every number is written out in full. -/
def full : Layout := ⟨fun _ => true⟩

/-- From a hundred thousandth to below ten quadrillion the point suffices. -/
def compact : Layout := ⟨fun leading => -5 ≤ leading && leading ≤ 15⟩

end Layout

namespace Numeral

/-- A whole number keeps one zero after the point. -/
def positional (x : Numeral) : List Char :=
  let digits := Nat.toDigits 10 x.digits
  let count : Int := digits.length
  if 0 ≤ x.exponent then
    digits ++ List.replicate x.exponent.toNat '0' ++ ['.', '0']
  else if 0 < count + x.exponent then
    digits.take (count + x.exponent).toNat ++ '.' :: digits.drop (count + x.exponent).toNat
  else
    '0' :: '.' :: List.replicate (-(count + x.exponent)).toNat '0' ++ digits

/-- The exponent has a sign. -/
def exponentText (exponent : Int) : List Char :=
  'e' :: (if exponent < 0 then '-' else '+') :: Nat.toDigits 10 exponent.natAbs

/-- One digit stands before the point, and the point only before further digits. -/
def scientific (x : Numeral) : List Char :=
  match Nat.toDigits 10 x.digits with
  | [] => []
  | [digit] => digit :: exponentText x.leading
  | digit :: rest => digit :: '.' :: rest ++ exponentText x.leading

def render (layout : Layout) (x : Numeral) : List Char :=
  if layout.positional x.leading then x.positional else x.scientific

end Numeral

/-- The sign of zero is kept. -/
def Binary64.render (layout : Layout) (x : Binary64) : List Char :=
  let magnitude := x.shortest.render layout
  if x.negative then '-' :: magnitude else magnitude

end GuestPod.Decimal
