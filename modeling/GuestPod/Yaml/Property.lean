/-
This file reads anchors, aliases, tags and directives.
-/

import GuestPod.Text.Hex
import GuestPod.Yaml.Cursor
import GuestPod.Yaml.Token

namespace GuestPod.Yaml.Property

/-- The longest word at the cursor, which may be empty. -/
def word (cursor : Cursor) : List Char × Cursor :=
  (cursor.rest.takeWhile isWordChar, cursor.skipWhile isWordChar)

def endsName : List Char → Bool
  | [] => true
  | c :: rest => spaceAhead (c :: rest) || ['?', ':', ',', ']', '\x7d', '%', '@', '\x60'].contains c

/-- The name of an anchor or alias follows its indicator. -/
def readName (cursor : Cursor) : Option (List Char × Cursor) := do
  let (name, cursor) := word (cursor.skip 1)
  if name.isEmpty || !endsName cursor.rest then none else return (name, ← cursor.ahead? 1)

def isUriChar (verbatim : Bool) (c : Char) : Bool :=
  isWordChar c ||
    [';', '/', '?', ':', '@', '&', '=', '+', '$', '.', '!', '~', '*', '\'', '(', ')'].contains c ||
    (verbatim && [',', '[', ']'].contains c)

/-- One escaped byte is a percent sign and two digits. -/
def escapedByte : List Char → Option (Nat × List Char)
  | '%' :: high :: low :: rest => do return (← Text.hexNumber [high, low], rest)
  | _ => none

/-- The first byte of a character says how many follow, and holds its highest bits. -/
def leadByte (byte : Nat) : Option (Nat × Nat) :=
  if byte < 0x80 then some (0, byte)
  else if byte < 0xC0 then none
  else if byte < 0xE0 then some (1, byte - 0xC0)
  else if byte < 0xF0 then some (2, byte - 0xE0)
  else if byte < 0xF8 then some (3, byte - 0xF0)
  else none

def trailBytes : Nat → Nat → List Char → Option (Nat × List Char)
  | 0, code, text => some (code, text)
  | count + 1, code, text => do
      let (byte, rest) ← escapedByte text
      if 0x80 ≤ byte ∧ byte < 0xC0 then trailBytes count (code * 64 + (byte - 0x80)) rest else none

/-- The character that so many bytes after the first stand for in the shortest form. -/
def charOf? (count code : Nat) : Option Char :=
  let c := Char.ofNat code
  if c.toNat = code ∧ c.utf8Size = count + 1 then some c else none

/--
The bytes of one character are escaped one after another.  Bytes that are no character stand as
one that no known tag holds.
-/
def escapedChar (text : List Char) : Option (Char × List Char) := do
  let (byte, rest) ← escapedByte text
  let (count, code) ← leadByte byte
  let (code, rest) ← trailBytes count code rest
  return ((charOf? count code).getD (Char.ofNat 0xFFFD), rest)

def uriChars (verbatim : Bool) : Nat → List Char → List Char → Option (List Char × List Char)
  | 0, done, text => some (done.reverse, text)
  | _ + 1, done, [] => some (done.reverse, [])
  | fuel + 1, done, c :: rest =>
      if c = '%' then do
        let (plain, left) ← escapedChar (c :: rest)
        uriChars verbatim fuel (plain :: done) left
      else if isUriChar verbatim c then uriChars verbatim fuel (c :: done) rest
      else some (done.reverse, c :: rest)

/--
A URI may be empty only if something stands before it.  What follows an escaped zero is dropped,
and so is the zero.
-/
def readUri (verbatim : Bool) (begun : Bool) (cursor : Cursor) :
    Option (List Char × Cursor) := do
  let (uri, left) ← uriChars verbatim (cursor.rest.length + 1) [] cursor.rest
  if uri.isEmpty && !begun then none
  else
    return (uri.takeWhile fun c => c.toNat != 0,
      cursor.advance (cursor.rest.length - left.length) left)

/-- A handle is a word between two exclamation marks; the second may be missing. -/
def readHandle (cursor : Cursor) : Option (List Char × Cursor) :=
  match cursor.rest with
  | '!' :: _ =>
      let (name, cursor) := word (cursor.skip 1)
      match cursor.rest with
      | '!' :: _ => some ('!' :: name ++ ['!'], cursor.skip 1)
      | _ => some ('!' :: name, cursor)
  | _ => none

/-- A whole handle ends in a mark of its own. -/
def isWhole (handle : List Char) : Bool :=
  1 < handle.length && handle.getLast? = some '!'

def readTagParts (cursor : Cursor) : Option (List Char × List Char × Cursor) :=
  match cursor.rest with
  | '!' :: '<' :: _ => do
      let (uri, cursor) ← readUri true false (cursor.skip 2)
      match cursor.rest with
      | '>' :: _ => return ([], uri, cursor.skip 1)
      | _ => none
  | _ => do
      let (handle, cursor) ← readHandle cursor
      if isWhole handle then
        let (suffix, cursor) ← readUri false false cursor
        return (handle, suffix, cursor)
      else
        let (suffix, cursor) ← readUri false true cursor
        let suffix := handle.drop 1 ++ suffix
        if suffix.isEmpty then return ([], ['!'], cursor) else return (['!'], suffix, cursor)

/-- Inside a flow a comma may follow a tag. -/
def readTag (flow : Bool) (cursor : Cursor) : Option (Token × Cursor) := do
  let (handle, suffix, cursor) ← readTagParts cursor
  let cursor ← cursor.ahead? 1
  let ended := spaceAhead cursor.rest || (flow && cursor.rest.head? = some ',')
  if ended then return (.tag handle suffix, cursor) else none

/-- The parts of a version have at most nine digits. -/
def versionPart (cursor : Cursor) : Option (Nat × Cursor) :=
  let digits := cursor.rest.takeWhile Char.isDigit
  if digits.isEmpty || 9 < digits.length then none
  else some (Nat.ofDigitChars 10 digits 0, cursor.skip digits.length)

def readVersion (cursor : Cursor) : Option (Token × Cursor) := do
  let (major, cursor) ← versionPart cursor.skipBlanks
  match cursor.rest with
  | '.' :: _ =>
      let (minor, cursor) ← versionPart (cursor.skip 1)
      return (.version major minor, cursor)
  | _ => none

def readShorthand (cursor : Cursor) : Option (Token × Cursor) := do
  let (handle, cursor) ← readHandle cursor.skipBlanks
  if handle ≠ ['!'] && !isWhole handle then none
  match cursor.rest with
  | c :: _ =>
      if isBlank c then
        let (expansion, cursor) ← readUri true false cursor.skipBlanks
        if spaceAhead cursor.rest then return (.tagShorthand handle expansion, cursor) else none
      else none
  | [] => none

/-- Two directives are known, and either fills its line. -/
def readDirective (cursor : Cursor) : Option (Token × Cursor) := do
  let (name, cursor) := word (cursor.skip 1)
  if name.isEmpty || !spaceAhead cursor.rest then none
  let (token, cursor) ←
    if name = ['Y', 'A', 'M', 'L'] then readVersion cursor
    else if name = ['T', 'A', 'G'] then readShorthand cursor
    else none
  return (token, ← cursor.endLine?)

end GuestPod.Yaml.Property
