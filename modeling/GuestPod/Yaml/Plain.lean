/-
This file reads plain scalars, which stand without quotes.
-/

import GuestPod.Yaml.Cursor

namespace GuestPod.Yaml.Plain

def isFlowMark (c : Char) : Bool :=
  c = ',' || c = '[' || c = ']' || c = '\x7b' || c = '\x7d'

/-- Inside a flow a colon may not be followed by one of these. -/
def confusesColon : List Char → Bool
  | c :: _ => isFlowMark c || c = '?'
  | [] => false

/-- A word goes up to a blank or to an indicator; its characters are gathered in reverse. -/
def word (flow : Bool) (done : List Char) (count : Nat) :
    List Char → Option (List Char × Nat × List Char)
  | [] => some (done, count, [])
  | c :: rest =>
      if isBlank c || isBreak c then some (done, count, c :: rest)
      else if flow && c = ':' && confusesColon rest then none
      else if (c = ':' && spaceAhead rest) || (flow && isFlowMark c) then
        some (done, count, c :: rest)
      else word flow (c :: done) (count + 1) rest

/-- The text, the place behind it, and whether a break was passed after its last word. -/
abbrev Result := List Char × Cursor × Bool

/--
After a gap another word is due unless something ends the scalar.  Four characters are in view
before a word and two behind it.
-/
def further (flow : Bool) (column : Int) : Nat → List Char → Cursor → Option Result
  | 0, done, cursor => some (done, cursor, false)
  | fuel + 1, done, cursor => do
      let (gap, cursor) ← Gap.none.read column cursor
      let cursor ← cursor.ahead? 1
      let ended : Result := (done, cursor, gap.broken)
      if !flow && (cursor.column : Int) < column then return ended
      let cursor ← cursor.ahead? 4
      if cursor.atDocumentMark then return ended
      match cursor.rest with
      | [] => return ended
      | '#' :: _ => return ended
      | rest =>
          let (text, count, left) ← word flow (gap.fold.reverse ++ done) 0 rest
          if count = 0 then return ended
          let cursor ← (cursor.advance count left).ahead? 2
          if spaceAhead left && !left.isEmpty then further flow column fuel text cursor
          else return (text, cursor, false)

/-- A scalar in a block stands right of the block's indentation. -/
def read (flow : Bool) (indent : Int) (cursor : Cursor) : Option Result := do
  let (text, count, left) ← word flow [] 0 cursor.rest
  let cursor ← (cursor.advance count left).ahead? 2
  let (text, cursor, broken) ←
    if spaceAhead left && !left.isEmpty then
      further flow (indent + 1) (left.length + 1) text cursor
    else some (text, cursor, false)
  return (text.reverse, cursor, broken)

end GuestPod.Yaml.Plain
