/-
This file reads unsigned words written in decimal.
-/

namespace GuestPod.Text

/-- A text fails to be a word for one of three reasons. -/
inductive WordFault where
  | empty
  | badDigit
  | overflow
  deriving DecidableEq, Repr

def WordFault.message : WordFault → String
  | .empty => "cannot parse integer from empty string"
  | .badDigit => "invalid digit found in string"
  | .overflow => "number too large to fit in target type"

/-- A word of so many bits lies below this bound. -/
def wordBound (bits : Nat) : Nat :=
  Nat.pow 2 bits

def digitValue (c : Char) : Nat :=
  c.toNat - 48

/-- The digits are read from left to right, and the value stays below the bound throughout. -/
def wordDigits (bound : Nat) : Nat → List Char → Except WordFault Nat
  | value, [] => .ok value
  | value, c :: rest =>
      if c.isDigit then
        let next := 10 * value + digitValue c
        if next < bound then wordDigits bound next rest else .error .overflow
      else .error .badDigit

/-- A word is an optional plus followed by at least one digit. -/
def readWord (bound : Nat) : List Char → Except WordFault Nat
  | [] => .error .empty
  | ['+'] => .error .badDigit
  | '+' :: digits => wordDigits bound 0 digits
  | digits => wordDigits bound 0 digits

end GuestPod.Text
