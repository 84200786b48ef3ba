/-
This file reads the numerals of JSON.
-/

import GuestPod.Decimal.Nearest
import GuestPod.Json.Value
import GuestPod.Text.Word

namespace GuestPod.Json

/-- Reading stops where the text is malformed or where it ends too early. -/
inductive Fault where
  | malformed
  | ended
  deriving DecidableEq, Repr

/--
The fault that stops a reader of values may differ from the one that stops a reader that skips
them.
-/
structure Halt where
  reading : Fault
  skipping : Fault
  deriving DecidableEq, Repr

def Halt.both (fault : Fault) : Halt := ⟨fault, fault⟩

/-- A numeral is kept in its parts. -/
structure Numeral where
  negative : Bool
  whole : List Char
  fraction : Option (List Char)
  exponent : Option (Bool × List Char)
  deriving DecidableEq, Repr

namespace Numeral

/-- A skipped numeral that ends too early counts as malformed. -/
def cutShort (rest : List Char) : Halt :=
  if rest.isEmpty then ⟨.ended, .malformed⟩ else .both .malformed

def digitsOf (text : List Char) : Except Halt (List Char × List Char) :=
  match text.takeWhile Char.isDigit with
  | [] => .error (cutShort text)
  | digits => .ok (digits, text.dropWhile Char.isDigit)

/-- A leading zero stands alone. -/
def wholeOf (text : List Char) : Except Halt (List Char × List Char) :=
  match text with
  | '0' :: rest =>
      if (rest.takeWhile Char.isDigit).isEmpty then .ok (['0'], rest)
      else .error (.both .malformed)
  | text => digitsOf text

def fractionOf (text : List Char) : Except Halt (Option (List Char) × List Char) :=
  match text with
  | '.' :: rest => do
      let (digits, rest) ← digitsOf rest
      return (some digits, rest)
  | text => .ok (none, text)

def signOf (text : List Char) : Bool × List Char :=
  match text with
  | '-' :: rest => (true, rest)
  | '+' :: rest => (false, rest)
  | rest => (false, rest)

def exponentOf (text : List Char) :
    Except Halt (Option (Bool × List Char) × List Char) :=
  match text with
  | c :: rest =>
      if c = 'e' ∨ c = 'E' then do
        let (negative, rest) := signOf rest
        let (digits, rest) ← digitsOf rest
        return (some (negative, digits), rest)
      else .ok (none, c :: rest)
  | [] => .ok (none, [])

/-- The parts follow one another, and the text after the last is left over. -/
def scan (text : List Char) : Except Halt (Numeral × List Char) := do
  let (negative, text) := match text with
    | '-' :: rest => (true, rest)
    | rest => (false, rest)
  let (whole, text) ← wholeOf text
  let (fraction, text) ← fractionOf text
  let (exponent, text) ← exponentOf text
  return (⟨negative, whole, fraction, exponent⟩, text)

/-- Digits are taken as long as the significand fits 64 bits; the rest is left over. -/
def fit : Nat → List Char → Nat × List Char
  | significand, [] => (significand, [])
  | significand, c :: rest =>
      let next := 10 * significand + Text.digitValue c
      if next < Text.wordBound 64 then fit next rest else (significand, c :: rest)

def powerOfTen (exponent : Nat) : Decimal.Binary64 :=
  ((Decimal.Numeral.mk 1 exponent).nearest false).getD (.zero false)

/--
The significand is rounded first and then multiplied or divided by a rounded power of ten, at
most 308 places at a time.
-/
def place : Nat → Decimal.Binary64 → Int → Option Decimal.Binary64
  | 0, x, _ => some x
  | fuel + 1, x, exponent =>
      if exponent.natAbs ≤ 308 then
        if 0 ≤ exponent then x.mul (powerOfTen exponent.natAbs)
        else x.div (powerOfTen exponent.natAbs)
      else if x.isZero then some x
      else if 0 ≤ exponent then none
      else do place fuel (← x.div (powerOfTen 308)) (exponent + 308)

/-- Three divisions by the greatest power bring every 64-bit significand to zero. -/
def real (negative : Bool) (significand : Nat) (exponent : Int) : Option Number := do
  let x ← Decimal.Binary64.round negative significand 1
  return .real (← place 4 x exponent)

/-- A whole number outside 64 bits and the negative zero are real. -/
def integer (negative : Bool) (significand : Nat) : Option Number :=
  if !negative then some (.integer significand)
  else if significand = 0 ∨ Text.wordBound 63 < significand then real true significand 0
  else some (.integer (-significand))

def exponentValue : Option (Bool × List Char) → Int
  | none => 0
  | some (negative, digits) =>
      let value : Int := Nat.ofDigitChars 10 digits 0
      if negative then -value else value

/-- A number whose magnitude is beyond binary64 has no value. -/
def value (x : Numeral) : Option Number :=
  let (significand, dropped) := fit 0 x.whole
  match x.fraction, x.exponent with
  | none, none =>
      if dropped.isEmpty then integer x.negative significand
      else real x.negative significand dropped.length
  | fraction, exponent =>
      let digits := fraction.getD []
      let (significand, left) := fit significand digits
      let taken := digits.length - left.length
      real x.negative significand (dropped.length - taken + exponentValue exponent)

end Numeral

end GuestPod.Json
