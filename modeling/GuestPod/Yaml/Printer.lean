/-
This file writes a text as a scalar that reads back as the same text.
-/

import GuestPod.Yaml.Resolution

namespace GuestPod.Yaml.Printer

/-- Words that older readers take for booleans. -/
def oldBooleans : List String :=
  ["y", "Y", "yes", "Yes", "YES", "n", "N", "no", "No", "NO", "true", "True", "TRUE", "false",
    "False", "FALSE", "on", "On", "ON", "off", "Off", "OFF"]

/-- A text that stands for something else when it has no quotes. -/
def isAmbiguous (text : String) : Bool :=
  oldBooleans.contains text || Resolution.plain text ≠ .string text ||
    Resolution.isPadded (Resolution.unsign text.toList)

/-- Single quotes hold what neither breaks the line nor is hidden. -/
def isQuotable (c : Char) : Bool :=
  c ≠ '\t' && c ≠ byteOrderMark && isAdmitted c && !isBreak c

/-- Three of the indicators begin a plain scalar in a block unless a blank follows. -/
def opensPlain : List Char → Bool
  | [] => false
  | c :: rest =>
      if ['-', '?', ':'].contains c then !spaceAhead rest else !Scanner.isIndicator c

/-- A colon before a blank would end a key, and a mark after a blank would begin a comment. -/
def hidesText : Bool → List Char → Bool
  | _, [] => false
  | afterBlank, c :: rest =>
      (c = ':' && spaceAhead rest) || (c = '#' && afterBlank) || hidesText (isBlank c) rest

/-- Three dashes or three dots at the start might separate documents. -/
def startsMark (text : List Char) : Bool :=
  text.take 3 = ['-', '-', '-'] || text.take 3 = ['.', '.', '.']

/-- A text in a block may go without quotes if it is read as it stands. -/
def isPlain (text : List Char) : Bool :=
  opensPlain text && !startsMark text && !hidesText true text && text.head? ≠ some ' ' &&
    text.getLast? ≠ some ' ' && text.all isQuotable

def single (text : List Char) : List Char :=
  '\'' :: text.flatMap (fun c => if c = '\'' then ['\'', '\''] else [c]) ++ ['\'']

/-- The lowest hexadecimal digits of a number, the highest first. -/
def hexDigits : Nat → Nat → List Char
  | 0, _ => []
  | width + 1, n => hexDigits width (n / 16) ++ [Text.hexDigit (n % 16)]

/-- An escape by number has two, four or eight digits. -/
def escape (c : Char) : List Char :=
  if c.toNat < 0x100 then '\\' :: 'x' :: hexDigits 2 c.toNat
  else if c.toNat < 0x10000 then '\\' :: 'u' :: hexDigits 4 c.toNat
  else '\\' :: 'U' :: hexDigits 8 c.toNat

def doubleChar (c : Char) : List Char :=
  if c = '"' then ['\\', '"']
  else if c = '\\' then ['\\', '\\']
  else if isQuotable c then [c]
  else escape c

def double (text : List Char) : List Char :=
  '"' :: text.flatMap doubleChar ++ ['"']

/-- Double quotes hold every text that single quotes cannot hold.  A text with a line feed is among
them: the literal block that would be written for it is left out here, and so are the escapes by
letter. -/
def print (text : String) : List Char :=
  if !isAmbiguous text && isPlain text.toList then text.toList
  else if text.toList.all isQuotable then single text.toList
  else double text.toList

end GuestPod.Yaml.Printer
