/-
This file reads settings from YAML and writes them.  The first problem in the order of the
document is the one reported, and what was read is validated.
-/

import GuestPod.Text.Blank
import GuestPod.Wire.Settings
import GuestPod.Yaml.Printer

namespace GuestPod.Settings

open Decoding Yaml

/-- Reading fails at a value of the wrong shape or where the document breaks off. -/
inductive DocumentFault where
  | mismatch (place : Option String) (found : Mismatch)
  | broken
  deriving DecidableEq, Repr

namespace DocumentFault

/-- YAML calls nothing a unit value and writes numbers out in full. -/
def style : Decoding.Style := ⟨"unit value", .full⟩

/-- A mismatch inside of a field names the field.  The line and the column at which it was met
are left out. -/
def message : DocumentFault → String
  | .mismatch place found =>
      let text := (found.message? style).getD ""
      match place with
      | some field => field ++ ": " ++ text
      | none => text
  | .broken => "malformed document"

end DocumentFault

namespace Reader

/-- An alias stands for the node that it refers to. -/
def resolve (anchors : Anchors) : Yaml.Event → Yaml.Event
  | .alias number => (anchors.node? number).getD (.alias number)
  | event => event

def refuse (wanted : Wanted) : Yaml.Event → Mismatch
  | .scalar scalar => scalar.refuse wanted
  | .mappingStart => .wrongType .map wanted
  | _ => .wrongType .sequence wanted

/-- A scalar is read by a function of its own; nothing can be read where the events end. -/
def scalar {α : Type} (anchors : Anchors) (place : String) (wanted : Wanted)
    (read : Scalar → Except Mismatch α) : Option Yaml.Event → Except DocumentFault α
  | none => .error .broken
  | some event =>
      (match resolve anchors event with
        | .scalar scalar => read scalar
        | event => .error (refuse wanted event)).mapError (.mismatch (some place))

def readWord (bits : Nat) (scalar : Scalar) : Except Mismatch Nat :=
  match scalar.word? with
  | some n =>
      if n < Text.wordBound bits then .ok n else .error (.wrongValue (.integer n) (.word bits))
  | none => .error (scalar.refuse (.word bits))

def readBoolean (scalar : Scalar) : Except Mismatch Bool :=
  match scalar.boolean? with
  | some b => .ok b
  | none => .error (scalar.refuse .boolean)

/-- Any scalar serves as a text. -/
def scalars (anchors : Anchors) (place : String) : Scalars DocumentFault (Option Yaml.Event) where
  word bits := scalar anchors place (.word bits) (readWord bits)
  boolean := scalar anchors place .boolean readBoolean
  text := scalar anchors place .text fun scalar => .ok scalar.text

/-- The name of a field, and the place under which its value is reported. -/
def fieldName (anchors : Anchors) (key : Yaml.Event) : Except DocumentFault (String × String) :=
  match key, resolve anchors key with
  | .scalar _, .scalar scalar => .ok (scalar.text, scalar.text)
  | _, .scalar scalar => .ok (scalar.text, "?")
  | _, event => .error (.mismatch none (refuse .fieldName event))

def member (anchors : Anchors) (key : Yaml.Event) (value : Option Yaml.Event) (filled : Partial) :
    Except DocumentFault Partial := do
  let (name, place) ← fieldName anchors key
  let fields := record (scalars anchors place) (.mismatch none)
  match fields.field? name with
  | some field => fields.store field value filled
  | none => throw (fields.unknown name)

/-- Keys and values alternate up to the end of the mapping. -/
def members (anchors : Anchors) : List Yaml.Event → Partial → Except DocumentFault Partial
  | .mappingEnd :: _, filled => .ok filled
  | key :: value :: rest, filled => do
      members anchors rest (← member anchors key (some value) filled)
  | [key], filled => do
      let _ ← member anchors key none filled
      throw .broken
  | [], _ => .error .broken

/-- A document without content holds no field. -/
def body (document : Document) : Except DocumentFault Partial :=
  match document.events with
  | .mappingStart :: rest => members document.anchors rest .empty
  | .scalar ⟨"", .plain, _⟩ :: _ => .ok .empty
  | event :: _ => .error (.mismatch none (refuse (.record recordName) event))
  | [] => .error .broken

def ofDocument (document : Document) : Except DocumentFault Settings := do
  let filled ← body document
  if document.whole then return filled.complete else throw .broken

end Reader

/-- A blank text leaves every setting at its standard value. -/
def readYaml (text : String) : Except Error Settings := do
  let settings ←
    if Text.allBlank text.toList then pure standard
    else
      (Reader.ofDocument (Document.read text.toList)).mapError fun fault =>
        .serialization fault.message
  settings.validate
  return settings

/-- Every field has a line of its own. -/
def printYaml (settings : Settings) : String :=
  let line (name : String) (value : List Char) : List Char :=
    name.toList ++ ':' :: ' ' :: value ++ ['\n']
  String.ofList
    (line "guest_port" (Nat.toDigits 10 settings.guestPort.toNat) ++
      line "default_memory_mib" (Nat.toDigits 10 settings.defaultMemoryMib.toNat) ++
      line "default_vcpu_count" (Nat.toDigits 10 settings.defaultVcpuCount.toNat) ++
      line "reap_orphaned_vms" (if settings.reapOrphanedVms then "true" else "false").toList ++
      line "log_level" (Printer.print settings.logLevel))

end GuestPod.Settings
