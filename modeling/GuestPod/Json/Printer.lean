/-
This file prints JSON values without blanks.
-/

import GuestPod.Decimal.Layout
import GuestPod.Json.Value
import GuestPod.Text.Hex

namespace GuestPod.Json

/-- Five controls have escapes of their own; the others below the space go by number. -/
def escaped (c : Char) : List Char :=
  if c = '"' then ['\\', '"']
  else if c = '\\' then ['\\', '\\']
  else if 0x20 ≤ c.toNat then [c]
  else if c.toNat = 8 then ['\\', 'b']
  else if c.toNat = 9 then ['\\', 't']
  else if c.toNat = 10 then ['\\', 'n']
  else if c.toNat = 12 then ['\\', 'f']
  else if c.toNat = 13 then ['\\', 'r']
  else ['\\', 'u', '0', '0', Text.hexDigit (c.toNat / 16), Text.hexDigit (c.toNat % 16)]

def printString (s : String) : List Char :=
  '"' :: s.toList.flatMap escaped ++ ['"']

def Number.print : Number → List Char
  | .integer (.ofNat n) => Nat.toDigits 10 n
  | .integer (.negSucc n) => '-' :: Nat.toDigits 10 (n + 1)
  | .real x => x.render .compact

mutual

/-- The members of an object stand in the order they have. -/
def print : Json → List Char
  | .null => ['n', 'u', 'l', 'l']
  | .boolean true => ['t', 'r', 'u', 'e']
  | .boolean false => ['f', 'a', 'l', 's', 'e']
  | .number n => n.print
  | .string s => printString s
  | .array items => '[' :: printItems items ++ [']']
  | .object members => '\x7b' :: printMembers members ++ ['\x7d']
termination_by structural value => value

def printItems : List Json → List Char
  | [] => []
  | [item] => print item
  | item :: rest => print item ++ ',' :: printItems rest
termination_by structural items => items

def printMembers : List (String × Json) → List Char
  | [] => []
  | [member] => printMember member
  | member :: rest => printMember member ++ ',' :: printMembers rest
termination_by structural members => members

def printMember : String × Json → List Char
  | (name, value) => printString name ++ ':' :: print value
termination_by structural member => member

end

/-- The compact text of a value. -/
def compact (value : Json) : String :=
  String.ofList value.print

end GuestPod.Json
