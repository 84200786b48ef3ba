/-
This file reads and writes points in time in the manner of RFC 3339.
-/

import GuestPod.Text.Blank
import GuestPod.Text.Word
import GuestPod.Time.DateTime

namespace GuestPod.Time

open Text

/-- A number takes up to a given count of digits, and at least one. -/
def takeNumber (count : Nat) (text : List Char) : Option (Nat × List Char) :=
  match (text.take count).takeWhile Char.isDigit with
  | [] => none
  | digits => some (Nat.ofDigitChars 10 digits 0, text.drop digits.length)

/-- A component may stand after blanks. -/
def component (text : List Char) : Option (Nat × List Char) :=
  takeNumber 2 (trimLeft text)

/-- Only a signed year has more than four digits. -/
def signedYear (text : List Char) : Option (Int × List Char) :=
  match trimLeft text with
  | '-' :: rest => do
      let (year, rest) ← takeNumber rest.length rest
      return (-(year : Int), rest)
  | '+' :: rest => do
      let (year, rest) ← takeNumber rest.length rest
      return ((year : Int), rest)
  | rest => do
      let (year, rest) ← takeNumber 4 rest
      return ((year : Int), rest)

/-- A mark between components may stand after blanks. -/
def mark (c : Char) (text : List Char) : Option (List Char) :=
  match trimLeft text with
  | first :: rest => if first = c then some rest else none
  | [] => none

def separator : List Char → Option (List Char)
  | c :: rest => if c = 'T' ∨ c = 't' ∨ c = ' ' then some rest else none
  | [] => none

/-- Digits beyond the ninth are dropped. -/
def fraction : List Char → Option (Nat × List Char)
  | '.' :: rest =>
      match rest.takeWhile Char.isDigit with
      | [] => none
      | digits =>
          let kept := digits.take 9
          some (Nat.ofDigitChars 10 kept 0 * Nat.pow 10 (9 - kept.length), rest.drop digits.length)
  | text => some (0, text)

def digitPair : List Char → Option (Nat × List Char)
  | first :: second :: rest =>
      if first.isDigit ∧ second.isDigit then
        some (10 * digitValue first + digitValue second, rest)
      else none
  | _ => none

def signedOffset (text : List Char) : Option (Int × List Char) := do
  let (hours, rest) ← digitPair text
  let (minutes, rest) ← digitPair (rest.dropWhile fun c => c = ':' || isBlank c)
  if minutes < 60 then return ((hours * 60 + minutes : Nat), rest) else none

/-- The distance from universal time in minutes, east being positive. -/
def offset (text : List Char) : Option (Int × List Char) :=
  match text with
  | c :: rest =>
      if c = 'Z' ∨ c = 'z' then some (0, rest)
      else if (text.take 3).map Char.toLower = ['u', 't', 'c'] then some (0, text.drop 3)
      else if c = '+' then signedOffset rest
      else if c = '-' ∨ c = '−' then do
        let (minutes, rest) ← signedOffset rest
        return (-minutes, rest)
      else none
  | [] => none

/-- The sixtieth second is the fifty-ninth and a thousand million nanoseconds more. -/
def ofParts (date : Date) (hour minute second nanosecond : Nat) : Option DateTime :=
  let leap := if second = 60 then 1 else 0
  let second := second - leap
  let nanosecond := nanosecond + leap * 1000000000
  if h : (hour < 24 ∧ minute < 60) ∧ (second < 60 ∧ nanosecond < 2000000000) then
    some ⟨date, ⟨hour, h.1.1⟩, ⟨minute, h.1.2⟩, ⟨second, h.2.1⟩, ⟨nanosecond, h.2.2⟩⟩
  else none

namespace DateTime

/-- Local time is read first and then moved to universal time. -/
def parse? (text : List Char) : Option DateTime := do
  let (year, rest) ← signedYear text
  let (month, rest) ← component (← mark '-' rest)
  let (day, rest) ← component (← mark '-' rest)
  let rest ← separator rest
  let (hour, rest) ← component rest
  let (minute, rest) ← component (← mark ':' rest)
  let (second, rest) ← component (← mark ':' rest)
  let (nanosecond, rest) ← fraction rest
  let (minutes, rest) ← offset (trimLeft rest)
  guard (allBlank rest)
  guard (minutes.natAbs < 1440)
  let date ← Date.of? year month day
  guard date.inRange
  let time ← ofParts date hour minute second nanosecond
  let universal := time.shift (-minutes)
  guard universal.date.inRange
  return universal

end DateTime

/-- A number is padded with zeros on the left. -/
def padded (width n : Nat) : List Char :=
  let digits := Nat.toDigits 10 n
  List.replicate (width - digits.length) '0' ++ digits

/-- Years outside four digits have a sign. -/
def yearText (year : Int) : List Char :=
  if 0 ≤ year ∧ year ≤ 9999 then padded 4 year.toNat
  else (if year < 0 then '-' else '+') :: padded 4 year.natAbs

/-- The fraction has the fewest groups of three digits that are exact. -/
def fractionText (nanosecond : Nat) : List Char :=
  if nanosecond = 0 then []
  else if nanosecond % 1000000 = 0 then '.' :: padded 3 (nanosecond / 1000000)
  else if nanosecond % 1000 = 0 then '.' :: padded 6 (nanosecond / 1000)
  else '.' :: padded 9 nanosecond

/-- A leap second is written as the sixtieth. -/
def DateTime.print (time : DateTime) : List Char :=
  let nanosecond := time.nanosecond.val
  let leap := nanosecond / 1000000000
  yearText time.date.year ++ '-' :: padded 2 time.date.month ++ '-' :: padded 2 time.date.day ++
    'T' :: padded 2 time.hour.val ++ ':' :: padded 2 time.minute.val ++
    ':' :: padded 2 (time.second.val + leap) ++ fractionText (nanosecond % 1000000000) ++ ['Z']

end GuestPod.Time
