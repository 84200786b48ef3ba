/-
This file reads scalars in single and in double quotes.
-/

import GuestPod.Text.Hex
import GuestPod.Yaml.Cursor

namespace GuestPod.Yaml.Quoted

/-- A quote within single quotes is written twice. -/
def singleStretch (done : List Char) (count : Nat) : List Char → List Char × Nat × List Char
  | '\'' :: '\'' :: rest => singleStretch ('\'' :: done) (count + 2) rest
  | c :: rest =>
      if c = '\'' || isBlank c || isBreak c then (done, count, c :: rest)
      else singleStretch (c :: done) (count + 1) rest
  | [] => (done, count, [])

/-- The escapes of one letter within double quotes. -/
def simpleEscape (c : Char) : Option Char :=
  match c with
  | '0' => some (Char.ofNat 0)
  | 'a' => some (Char.ofNat 7)
  | 'b' => some (Char.ofNat 8)
  | 't' => some '\t'
  | '\t' => some '\t'
  | 'n' => some '\n'
  | 'v' => some (Char.ofNat 11)
  | 'f' => some (Char.ofNat 12)
  | 'r' => some '\r'
  | 'e' => some (Char.ofNat 27)
  | ' ' => some ' '
  | '"' => some '"'
  | '/' => some '/'
  | '\\' => some '\\'
  | 'N' => some (Char.ofNat 0x85)
  | '_' => some (Char.ofNat 0xA0)
  | 'L' => some (Char.ofNat 0x2028)
  | 'P' => some (Char.ofNat 0x2029)
  | _ => none

/-- The number of digits of an escape by number. -/
def escapeLength (c : Char) : Option Nat :=
  match c with
  | 'x' => some 2
  | 'u' => some 4
  | 'U' => some 8
  | _ => none

/-- A surrogate and a number beyond the last plane are no characters. -/
def charOf (code : Nat) : Option Char :=
  if (0xD800 ≤ code ∧ code ≤ 0xDFFF) ∨ 0x10FFFF < code then none else some (Char.ofNat code)

/-- An escape after its backslash: the character, its length and the text behind it. -/
def escape : List Char → Option (Char × Nat × List Char)
  | [] => none
  | letter :: rest =>
      match simpleEscape letter with
      | some c => some (c, 1, rest)
      | none => do
          let length ← escapeLength letter
          let digits := rest.take length
          if digits.length < length then none
          let c ← charOf (← Text.hexNumber digits)
          return (c, length + 1, rest.drop length)

/-- A stretch may end in an escaped break, whose backslash is passed. -/
def doubleStretch : Nat → List Char → Nat → List Char →
    Option (List Char × Nat × List Char × Bool)
  | 0, done, count, text => some (done, count, text, false)
  | _ + 1, done, count, [] => some (done, count, [], false)
  | fuel + 1, done, count, c :: rest =>
      if c = '"' || isBlank c || isBreak c then some (done, count, c :: rest, false)
      else if c = '\\' then
        if rest.head?.any isBreak then some (done, count + 1, rest, true)
        else do
          let (plain, length, left) ← escape rest
          doubleStretch fuel (plain :: done) (count + 1 + length) left
      else doubleStretch fuel (c :: done) (count + 1) rest

def stretch (single : Bool) (done : List Char) (cursor : Cursor) :
    Option (List Char × Cursor × Bool) :=
  if single then
    let (done, count, rest) := singleStretch done 0 cursor.rest
    some (done, cursor.advance count rest, false)
  else do
    let (done, count, rest, escaped) ←
      doubleStretch (cursor.rest.length + 1) done 0 cursor.rest
    return (done, cursor.advance count rest, escaped)

/--
Stretches and gaps alternate up to the closing quote.  Four characters are in view before a
stretch and two behind it.
-/
def scan (single : Bool) : Nat → List Char → Cursor → Option (List Char × Cursor)
  | 0, _, _ => none
  | fuel + 1, done, cursor => do
      let cursor ← cursor.ahead? 4
      if cursor.atDocumentMark || cursor.rest.isEmpty then none
      let (done, cursor, escaped) ← stretch single done cursor
      let cursor ← if escaped then cursor.skipBreak.ahead? 1 else cursor.ahead? 2
      let quote := if single then '\'' else '"'
      if cursor.rest.head? = some quote then return (done.reverse, cursor.skip 1)
      let (gap, cursor) ← Gap.read 0 (if escaped then .escaped else .none) cursor
      scan single fuel (gap.fold.reverse ++ done) cursor

/-- The cursor stands at the opening quote. -/
def read (single : Bool) (cursor : Cursor) : Option (List Char × Cursor) :=
  scan single (cursor.rest.length + 1) [] (cursor.skip 1)

end GuestPod.Yaml.Quoted
