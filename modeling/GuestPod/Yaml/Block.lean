/-
This file reads literal and folded scalars, which are told by their indentation.
-/

import GuestPod.Yaml.Cursor

namespace GuestPod.Yaml.Block

/-- What becomes of the breaks at the end. -/
inductive Chomping where
  | strip
  | clip
  | keep
  deriving DecidableEq, Repr

def chompingOf (c : Char) : Option Chomping :=
  if c = '+' then some .keep else if c = '-' then some .strip else none

def readChomping (cursor : Cursor) : Option Chomping × Cursor :=
  match cursor.rest with
  | c :: _ =>
      match chompingOf c with
      | some chomping => (some chomping, cursor.skip 1)
      | none => (none, cursor)
  | [] => (none, cursor)

/-- An indentation is one digit other than zero; none at all stands as zero. -/
def readIncrement (cursor : Cursor) : Option (Nat × Cursor) :=
  match cursor.rest with
  | c :: _ =>
      if c = '0' then none
      else if c.isDigit then some (c.toNat - 48, cursor.skip 1)
      else some (0, cursor)
  | [] => some (0, cursor)

/-- The two indicators come in either order, and each may be absent. -/
def readHeader (cursor : Cursor) : Option (Chomping × Nat × Cursor) := do
  match readChomping cursor with
  | (some chomping, cursor) =>
      let (increment, cursor) ← readIncrement cursor
      return (chomping, increment, cursor)
  | (none, cursor) =>
      let (increment, cursor) ← readIncrement cursor
      if increment = 0 then return (.clip, 0, cursor)
      let (chomping, cursor) := readChomping cursor
      return (chomping.getD .clip, increment, cursor)

/--
Empty lines are gathered in reverse, with the widest column seen.  While the indentation is not
known it is zero, and blanks count as indentation.
-/
def emptyLines (indent : Nat) : Nat → Nat → List Char → Cursor →
    Option (Nat × List Char × Cursor)
  | 0, widest, breaks, cursor => some (widest, breaks, cursor)
  | fuel + 1, widest, breaks, cursor =>
      let line := if indent = 0 then cursor.rest else cursor.rest.take (indent - cursor.column)
      let cursor := cursor.skip (line.takeWhile (· = ' ')).length
      let widest := max widest cursor.column
      match cursor.rest with
      | [] => some (widest, breaks, cursor)
      | c :: _ =>
          if (indent = 0 ∨ cursor.column < indent) ∧ c = '\t' then none
          else if isBreak c then
            emptyLines indent fuel widest (Cursor.breakText c :: breaks) cursor.skipBreak
          else some (widest, breaks, cursor)

def readEmptyLines (indent : Nat) (cursor : Cursor) : Option (Nat × List Char × Cursor) :=
  emptyLines indent (cursor.rest.length + 1) 0 [] cursor

/-- A known indentation is kept; else the widest empty line counts, within bounds. -/
def settle (indent : Nat) (widest : Nat) (outer : Int) : Nat :=
  if indent = 0 then max (max widest (outer + 1).toNat) 1 else indent

/-- What has been read: the text in reverse, the pending break, and the empty lines after it. -/
structure State where
  text : List Char
  pending : List Char
  breaks : List Char
  indented : Bool

/-- A line that starts with a blank does not fold with its neighbours. -/
def State.join (state : State) (literal blank : Bool) : List Char :=
  if !literal && state.pending = ['\n'] && !state.indented && !blank then
    if state.breaks.isEmpty then ' ' :: state.text else state.breaks ++ state.text
  else state.breaks ++ state.pending ++ state.text

def lines (literal : Bool) (indent : Nat) : Nat → State → Cursor → Option (State × Cursor)
  | 0, state, cursor => some (state, cursor)
  | fuel + 1, state, cursor => do
      if cursor.column ≠ indent then return (state, cursor)
      match cursor.rest with
      | [] => return (state, cursor)
      | c :: _ =>
          let blank := isBlank c
          let joined := state.join literal blank
          let line := cursor.rest.takeWhile fun c => !isBreak c
          let cursor := cursor.skip line.length
          let text := line.reverse ++ joined
          match cursor.rest with
          | [] => return (⟨text, [], [], blank⟩, cursor)
          | c :: _ =>
              let (_, breaks, cursor) ← readEmptyLines indent cursor.skipBreak
              lines literal indent fuel ⟨text, [Cursor.breakText c], breaks, blank⟩ cursor

/-- The breaks at the end are chomped. -/
def State.finish (state : State) : Chomping → List Char
  | .strip => state.text.reverse
  | .clip => (state.pending ++ state.text).reverse
  | .keep => (state.breaks ++ state.pending ++ state.text).reverse

/-- The cursor stands at the indicator, and `outer` is the indentation around the scalar. -/
def read (literal : Bool) (outer : Int) (cursor : Cursor) : Option (List Char × Cursor) := do
  let (chomping, increment, cursor) ← readHeader (cursor.skip 1)
  let cursor ← cursor.endLine?
  let indent := if increment = 0 then 0 else (max outer 0).toNat + increment
  let (widest, breaks, cursor) ← readEmptyLines indent cursor
  let indent := settle indent widest outer
  let (state, cursor) ←
    lines literal indent (cursor.rest.length + 1) ⟨[], [], breaks, false⟩ cursor
  return (state.finish chomping, ← cursor.ahead? 1)

end GuestPod.Yaml.Block
