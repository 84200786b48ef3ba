/-
This file reads drafts as values of a wanted shape.  The first problem in the order of the text
is the one reported.
-/

import GuestPod.Decoding.Record
import GuestPod.Json.Draft

namespace GuestPod.Json

open Decoding

/-- Reading fails at a fault of the text or at a value of the wrong shape. -/
inductive Problem where
  | fault (fault : Fault)
  | mismatch (mismatch : Mismatch)
  deriving DecidableEq, Repr

/-- JSON calls nothing `null` and writes numbers as its printer does. -/
def style : Style := ⟨"null", .compact⟩

/-- A text may nest to a limited depth; a value that is already at hand may nest at will. -/
inductive Frame where
  | text (room : Nat)
  | value
  deriving DecidableEq, Repr

namespace Frame

/-- A whole text may nest 127 deep. -/
def whole : Frame := .text 128

def enter : Frame → Except Problem Frame
  | .text room => if room ≤ 1 then .error (.fault .malformed) else .ok (.text (room - 1))
  | .value => .ok .value

/-- An item too many breaks the grammar of a text, and the length of a value. -/
def excess : Frame → Nat → Problem
  | .text _, _ => .fault .malformed
  | .value, length => .mismatch (.wrongLength length .fewerElements)

end Frame

/-- A draft and the frame it is read in. -/
structure Node where
  frame : Frame
  draft : Draft

def checkHalt : Option Halt → Except Problem Unit
  | none => .ok ()
  | some halt => .error (.fault halt.reading)

/-- A scalar is read whole before it is refused; a list is refused at its first character. -/
def Draft.found : Draft → Except Problem Found
  | .null => .ok .nothing
  | .boolean b => .ok (.boolean b)
  | .number (.integer n) => .ok (.integer n)
  | .number (.real x) => .ok (.real (.finite x))
  | .string s => .ok (.string s)
  | .tooGreat => .error (.fault .malformed)
  | .unpaired => .error (.fault .malformed)
  | .array _ _ => .ok .sequence
  | .object _ _ => .ok .map
  | .halted halt => .error (.fault halt.reading)

def refuse {α : Type} (wanted : Wanted) (draft : Draft) : Except Problem α := do
  throw (.mismatch (.wrongType (← draft.found) wanted))

mutual

/-- Any value is read; of members with one name the last stays. -/
def Draft.value (frame : Frame) : Draft → Except Problem Json
  | .null => .ok .null
  | .boolean b => .ok (.boolean b)
  | .number n => .ok (.number n)
  | .string s => .ok (.string s)
  | .tooGreat => .error (.fault .malformed)
  | .unpaired => .error (.fault .malformed)
  | .array items halt => do
      let items ← itemValues (← frame.enter) items
      checkHalt halt
      return .array items
  | .object members halt => do
      let members ← memberValues (← frame.enter) [] members
      checkHalt halt
      return .object members
  | .halted halt => .error (.fault halt.reading)
termination_by structural draft => draft

def itemValues (frame : Frame) : List Draft → Except Problem (List Json)
  | [] => .ok []
  | item :: rest => do
      let value ← item.value frame
      return value :: (← itemValues frame rest)
termination_by structural items => items

def memberValues (frame : Frame) (done : Members) :
    List (Option String × Draft) → Except Problem Members
  | [] => .ok done
  | member :: rest => do
      let (name, value) ← memberValue frame member
      memberValues frame (done.insert name value) rest
termination_by structural members => members

def memberValue (frame : Frame) : Option String × Draft → Except Problem (String × Json)
  | (none, _) => .error (.fault .malformed)
  | (some name, draft) => do return (name, ← draft.value frame)
termination_by structural member => member

end

mutual

/-- A skipped value is checked for its grammar alone. -/
def Draft.skip : Draft → Except Problem Unit
  | .array items halt => do
      skipItems items
      match halt with
      | none => return
      | some halt => throw (.fault halt.skipping)
  | .object members halt => do
      skipMembers members
      match halt with
      | none => return
      | some halt => throw (.fault halt.skipping)
  | .halted halt => .error (.fault halt.skipping)
  | _ => .ok ()
termination_by structural draft => draft

def skipItems : List Draft → Except Problem Unit
  | [] => .ok ()
  | item :: rest => do
      item.skip
      skipItems rest
termination_by structural items => items

def skipMembers : List (Option String × Draft) → Except Problem Unit
  | [] => .ok ()
  | member :: rest => do
      skipMember member
      skipMembers rest
termination_by structural members => members

def skipMember : Option String × Draft → Except Problem Unit
  | (_, draft) => draft.skip
termination_by structural member => member

end

namespace Node

def text (node : Node) : Except Problem String :=
  match node.draft with
  | .string s => .ok s
  | draft => refuse .text draft

def boolean (node : Node) : Except Problem Bool :=
  match node.draft with
  | .boolean b => .ok b
  | draft => refuse .boolean draft

/-- A whole number outside the word is a wrong value; every other number is of the wrong type. -/
def word (bits : Nat) (node : Node) : Except Problem Nat :=
  match node.draft with
  | .number (.integer n) =>
      if 0 ≤ n ∧ n < Text.wordBound bits then .ok n.toNat
      else .error (.mismatch (.wrongValue (.integer n) (.word bits)))
  | draft => refuse (.word bits) draft

def list {α : Type} (item : Node → Except Problem α) (node : Node) :
    Except Problem (List α) :=
  match node.draft with
  | .array items halt => do
      let frame ← node.frame.enter
      let values ← items.mapM fun draft => item ⟨frame, draft⟩
      checkHalt halt
      return values
  | draft => refuse .sequence draft

end Node

/-- Members that are no fields are skipped, refused or kept. -/
inductive Others (σ : Type) where
  | skipped
  | refused
  | kept (store : String → Json → σ → σ)

/-- A shape fills a record from nothing and ends with a value. -/
structure Shape (σ α : Type) where
  record : Record Problem Node σ
  empty : σ
  others : Others σ
  finish : σ → Except Problem α

namespace Shape

variable {σ α : Type}

def member (shape : Shape σ α) (name : String) (node : Node) (filled : σ) :
    Except Problem σ :=
  match shape.record.field? name with
  | some field => shape.record.store field node filled
  | none =>
      match shape.others with
      | .skipped => do
          node.draft.skip
          return filled
      | .refused => .error (shape.record.unknown name)
      | .kept store => do return store name (← node.draft.value node.frame) filled

def members (shape : Shape σ α) (frame : Frame) :
    List (Option String × Draft) → σ → Except Problem σ
  | [], filled => .ok filled
  | (none, _) :: _, _ => .error (.fault .malformed)
  | (some name, draft) :: rest, filled => do
      shape.members frame rest (← shape.member name ⟨frame, draft⟩ filled)

/-- The fields in order, the first standing at the given place. -/
def elements (shape : Shape σ α) (frame : Frame) (halt : Option Halt) (length : Nat) :
    Nat → List (Field Problem Node σ) → List Draft → σ → Except Problem σ
  | _, [], [], filled => do
      checkHalt halt
      return filled
  | _, [], _ :: _, _ => .error (frame.excess length)
  | place, field :: fields, [], filled => do
      checkHalt halt
      match (field :: fields).findIdx? (·.required) with
      | none => return filled
      | some ahead =>
          throw (.mismatch (.wrongLength (place + ahead)
            (.elements shape.record.name shape.record.fields.length)))
  | place, field :: fields, draft :: rest, filled => do
      shape.elements frame halt length (place + 1) fields rest
        (← field.read ⟨frame, draft⟩ filled)

/-- A record is an object; one that keeps nothing else may also be the list of its fields. -/
def read (shape : Shape σ α) (node : Node) : Except Problem α :=
  match node.draft, shape.others with
  | .object members halt, _ => do
      let filled ← shape.members (← node.frame.enter) members shape.empty
      checkHalt halt
      shape.finish filled
  | .array items _, .kept _ => refuse (.record shape.record.name) (.array items none)
  | .array items halt, _ => do
      let filled ← shape.elements (← node.frame.enter) halt items.length 0
        shape.record.fields items shape.empty
      shape.finish filled
  | draft, _ => refuse (.record shape.record.name) draft

/-- Text after the value is met last. -/
def decode (shape : Shape σ α) (text : String) : Except Problem α := do
  let document := Document.read text.toList
  let value ← shape.read ⟨.whole, document.body⟩
  if document.alone then return value else throw (.fault .malformed)

/-- A value at hand is decoded without its text. -/
def ofValue (shape : Shape σ α) (value : Json) : Except Problem α :=
  shape.read ⟨.value, .ofValue value⟩

end Shape

def field {σ β : Type} (name : String) (required : Bool) (get : σ → Option β)
    (set : β → σ → σ) (read : Node → Except Problem β) : Field Problem Node σ where
  name := name
  required := required
  filled filled := (get filled).isSome
  read node filled := do return set (← read node) filled

def demand {β : Type} (name : String) : Option β → Except Problem β
  | some value => .ok value
  | none => .error (.mismatch (.missingField name))

/-- A text that holds one value and nothing else. -/
def parse? (text : String) : Option Json :=
  let document := Document.read text.toList
  match document.body.value .value with
  | .ok value => if document.alone then some value else none
  | .error _ => none

end GuestPod.Json
