/-
This file adds the infinities and the undefined number to binary64.
-/

import GuestPod.Decimal.Layout

namespace GuestPod.Decimal

inductive Extended where
  | finite (x : Binary64)
  | infinite (negative : Bool)
  | undefined
  deriving DecidableEq, Repr

def Extended.render (layout : Layout) : Extended → List Char
  | .finite x => x.render layout
  | .infinite false => ['i', 'n', 'f']
  | .infinite true => ['-', 'i', 'n', 'f']
  | .undefined => ['N', 'a', 'N']

end GuestPod.Decimal
