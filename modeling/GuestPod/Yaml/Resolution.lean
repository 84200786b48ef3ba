/-
This file tells what a scalar stands for.  Plain text is sorted by its form, and a tag may ask
for a certain kind.
-/

import GuestPod.Decimal.Nearest
import GuestPod.Decoding.Mismatch
import GuestPod.Text.Hex
import GuestPod.Text.Word
import GuestPod.Yaml.Document

namespace GuestPod.Yaml

open Decoding

namespace Resolution

def isNothing (text : String) : Bool :=
  ["~", "null", "Null", "NULL"].contains text

def boolean (text : String) : Option Bool :=
  if ["true", "True", "TRUE"].contains text then some true
  else if ["false", "False", "FALSE"].contains text then some false
  else none

/-- Every digit is below the radix, and there is at least one. -/
def digits (radix : Nat) : List Char → Option Nat
  | [] => none
  | text =>
      text.foldlM (fun value c =>
        ((Text.hexValue c).filter (· < radix)).map (radix * value + ·)) 0

def unsign : List Char → List Char
  | '+' :: rest => rest
  | '-' :: rest => rest
  | rest => rest

/-- Digits behind a zero are no decimal number. -/
def isPadded : List Char → Bool
  | '0' :: rest => !rest.isEmpty && rest.all Char.isDigit
  | _ => false

/-- A letter behind a zero gives the radix, which is ten otherwise. -/
def magnitude (text : List Char) : Option Nat :=
  match text with
  | '0' :: 'x' :: rest => digits 16 rest
  | '0' :: 'o' :: rest => digits 8 rest
  | '0' :: 'b' :: rest => digits 2 rest
  | text => if isPadded text then none else digits 10 text

/-- A number with a minus is signed, even if it is zero. -/
def unsigned : List Char → Option Nat
  | '+' :: rest => magnitude rest
  | rest => magnitude rest

def whole : List Char → Option Int
  | '-' :: rest => (magnitude rest).map fun n => -(n : Int)
  | rest => (unsigned rest).map fun n => (n : Int)

/-- Sixty-four bits hold most whole numbers, and twice as many hold the others. -/
def integer (text : List Char) : Option Found :=
  match whole text with
  | none => none
  | some n =>
      if -(Text.wordBound 63 : Int) ≤ n ∧ n < Text.wordBound 64 then some (.integer n)
      else if -(Text.wordBound 127 : Int) ≤ n ∧ n < Text.wordBound 128 then some (.wide n)
      else none

/-- A word fits sixty-four bits and has no minus. -/
def word (text : List Char) : Option Nat :=
  (unsigned text).filter (· < Text.wordBound 64)

/-- An exponent has a digit; without one there is none. -/
def exponent : List Char → Option Int
  | [] => some 0
  | c :: rest =>
      if c = 'e' ∨ c = 'E' then
        match rest with
        | '-' :: power => (digits 10 power).map fun n => -(n : Int)
        | power => (unsign power |> digits 10).map fun n => (n : Int)
      else none

/-- A point may stand before, within or behind the digits. -/
def numeral (text : List Char) : Option Decimal.Numeral := do
  let whole := text.takeWhile Char.isDigit
  let (fraction, rest) := match text.dropWhile Char.isDigit with
    | '.' :: rest => (rest.takeWhile Char.isDigit, rest.dropWhile Char.isDigit)
    | rest => ([], rest)
  let significand ← digits 10 (whole ++ fraction)
  return ⟨significand, (← exponent rest) - fraction.length⟩

def real (text : List Char) : Option Decimal.Extended :=
  if [".nan", ".NaN", ".NAN"].contains (String.ofList text) then some .undefined
  else if [".inf", ".Inf", ".INF"].contains (String.ofList (unsign text)) then
    some (.infinite (text.head? = some '-'))
  else do
    let x ← (← numeral (unsign text)).nearest (text.head? = some '-')
    return .finite x

/-- The kinds are tried in a fixed order, and text is the last. -/
def plain (text : String) : Found :=
  if text.isEmpty || isNothing text then .nothing
  else
    match boolean text with
    | some b => .boolean b
    | none =>
        match integer text.toList with
        | some found => found
        | none =>
            match (if isPadded (unsign text.toList) then none else real text.toList) with
            | some x => .real x
            | none => .string text

end Resolution

namespace Scalar

def tagged (name : String) : Option String :=
  some ("tag:yaml.org,2002:" ++ name)

/-- Quoted text and text with a foreign tag are strings. -/
def found (scalar : Scalar) : Found :=
  let isPlain := scalar.style = .plain
  match scalar.tag with
  | none => if isPlain then Resolution.plain scalar.text else .string scalar.text
  | some tag =>
      if isPlain && tag.startsWith "!" then Resolution.plain scalar.text
      else .string scalar.text

/-- The text under a tag has to be of the kind that the tag names. -/
def demanded {α : Type} (scalar : Scalar) (wanted kind : Wanted) (found : α → Found) :
    Option α → Mismatch
  | some value => .wrongType (found value) wanted
  | none => .wrongValue (.string scalar.text) kind

/-- A scalar of a wrong kind is described by its own kind. -/
def refuse (scalar : Scalar) (wanted : Wanted) : Mismatch :=
  let text := scalar.text
  if scalar.tag = tagged "bool" then
    scalar.demanded wanted .boolean .boolean (Resolution.boolean text)
  else if scalar.tag = tagged "int" then
    scalar.demanded wanted .integer id (Resolution.integer text.toList)
  else if scalar.tag = tagged "float" then
    scalar.demanded wanted .real .real (Resolution.real text.toList)
  else if scalar.tag = tagged "null" then
    scalar.demanded wanted .nothing (fun _ => .nothing)
      (if Resolution.isNothing text then some () else none)
  else .wrongType scalar.found wanted

/-- A plain scalar is read by its form, a literal one only under the right tag. -/
def isReadAs (scalar : Scalar) (kind : String) : Bool :=
  scalar.style = .plain || (scalar.style = .literal && scalar.tag = tagged kind)

def word? (scalar : Scalar) : Option Nat :=
  if scalar.isReadAs "int" then Resolution.word scalar.text.toList else none

def boolean? (scalar : Scalar) : Option Bool :=
  if scalar.isReadAs "bool" then Resolution.boolean scalar.text else none

end Scalar

end GuestPod.Yaml
