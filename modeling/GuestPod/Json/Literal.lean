/-
This file reads the string literals of JSON.
-/

import GuestPod.Json.Numeral
import GuestPod.Text.Hex

namespace GuestPod.Json

namespace Literal

/-- An escape by number gives a unit of sixteen bits, which need not be a character. -/
inductive Piece where
  | plain (c : Char)
  | unit (code : Nat)
  deriving DecidableEq, Repr

/-- A literal ends at its closing quote or where the text stops being one. -/
inductive Ending where
  | closed (rest : List Char)
  | stopped (fault : Fault)
  deriving DecidableEq, Repr

/-- The escapes of one letter. -/
def simpleEscape (c : Char) : Option Char :=
  if c = '"' ∨ c = '\\' ∨ c = '/' then some c
  else if c = 'b' then some (Char.ofNat 8)
  else if c = 'f' then some (Char.ofNat 12)
  else if c = 'n' then some '\n'
  else if c = 'r' then some '\r'
  else if c = 't' then some '\t'
  else none

/-- Fewer than four bytes before the end cannot hold the digits of an escape. -/
def shortFault (rest : List Char) : Fault :=
  if (String.ofList (rest.take 4)).utf8ByteSize < 4 then .ended else .malformed

/-- The pieces are gathered in reverse. -/
def scan (done : List Piece) : List Char → List Piece × Ending
  | [] => (done, .stopped .ended)
  | c :: rest =>
      if c = '"' then (done, .closed rest)
      else if c = '\\' then
        match rest with
        | [] => (done, .stopped .ended)
        | letter :: rest =>
            if letter = 'u' then
              match rest with
              | h :: i :: j :: k :: rest =>
                  match Text.hexNumber [h, i, j, k] with
                  | some code => scan (.unit code :: done) rest
                  | none => (done, .stopped .malformed)
              | short => (done, .stopped (shortFault short))
            else
              match simpleEscape letter with
              | some plain => scan (.plain plain :: done) rest
              | none => (done, .stopped .malformed)
      else if c.toNat < 0x20 then (done, .stopped .malformed)
      else scan (.plain c :: done) rest

def isHigh (code : Nat) : Bool := 0xD800 ≤ code && code ≤ 0xDBFF

def isLow (code : Nat) : Bool := 0xDC00 ≤ code && code ≤ 0xDFFF

/-- The two halves give a character beyond the first plane. -/
def joined (high low : Nat) : Char :=
  Char.ofNat ((high - 0xD800) * 0x400 + (low - 0xDC00) + 0x10000)

/-- The characters of a literal, unless half a surrogate pair stands alone in it. -/
def join (content : List Char) : List Piece → Option (List Char)
  | [] => some content.reverse
  | .plain c :: rest => join (c :: content) rest
  | .unit code :: rest =>
      if isLow code then none
      else if isHigh code then
        match rest with
        | .unit low :: rest =>
            if isLow low then join (joined code low :: content) rest else none
        | _ => none
      else join (Char.ofNat code :: content) rest

/-- A high half at the very end of a stopped literal may still find its other half. -/
def openEnd : List Piece → List Piece
  | .unit code :: rest => if isHigh code then rest else .unit code :: rest
  | done => done

end Literal

/--
A literal may hold half a surrogate pair.  It then has no content, though a reader that skips it
finds its end.
-/
inductive Literal where
  | whole (content : List Char) (rest : List Char)
  | unpaired (rest : List Char)
  | halted (halt : Halt)
  deriving DecidableEq, Repr

/-- The text begins after the opening quote. -/
def Literal.read (text : List Char) : Literal :=
  match scan [] text with
  | (done, .closed rest) =>
      match join [] done.reverse with
      | some content => .whole content rest
      | none => .unpaired rest
  | (done, .stopped fault) =>
      match join [] (openEnd done).reverse with
      | some _ => .halted (.both fault)
      | none => .halted ⟨.malformed, fault⟩

end GuestPod.Json
