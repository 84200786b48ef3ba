/-
This file reads decimal numerals as the nearest binary64 number.
-/

import GuestPod.Decimal.Shortest

namespace GuestPod.Decimal

/--
A numeral is rounded once.  Far outside the range of binary64 the answer needs no arithmetic:
the number is too great, or it is zero.
-/
def Numeral.nearest (negative : Bool) (x : Numeral) : Option Binary64 :=
  if x.digits = 0 then some (Binary64.zero negative)
  else if 400 < x.leading then none
  else if x.leading < -400 then some (Binary64.zero negative)
  else
    let (above, below) := Binary64.scaled 10 x.exponent x.digits 1
    Binary64.round negative above below

end GuestPod.Decimal
