/-
This file names the fields of the settings and gives them their JSON form.
-/

import GuestPod.Json.Decoder
import GuestPod.Settings

namespace GuestPod.Settings

open Decoding

structure Partial where
  guestPort : Option UInt16
  defaultMemoryMib : Option UInt32
  defaultVcpuCount : Option UInt32
  reapOrphanedVms : Option Bool
  logLevel : Option String

namespace Partial

def empty : Partial := ⟨none, none, none, none, none⟩

/-- What was not given keeps its standard value. -/
def complete (filled : Partial) : Settings where
  guestPort := filled.guestPort.getD standard.guestPort
  defaultMemoryMib := filled.defaultMemoryMib.getD standard.defaultMemoryMib
  defaultVcpuCount := filled.defaultVcpuCount.getD standard.defaultVcpuCount
  reapOrphanedVms := filled.reapOrphanedVms.getD standard.reapOrphanedVms
  logLevel := filled.logLevel.getD standard.logLevel

@[simp] theorem complete_empty : empty.complete = standard := rfl

end Partial

/-- A data format reads words, booleans and texts in its own way. -/
structure Scalars (ε δ : Type) where
  word : Nat → δ → Except ε Nat
  boolean : δ → Except ε Bool
  text : δ → Except ε String

/-- The name of the record stands in messages. -/
def recordName : String := "ShimConfig"

/-- All formats of the settings share their fields, and none of these is required. -/
def record {ε δ : Type} (scalars : Scalars ε δ) (fault : Mismatch → ε) :
    Record ε δ Partial where
  name := recordName
  fields := [
    { name := "guest_port"
      required := false
      filled := fun filled => filled.guestPort.isSome
      read := fun node filled => do
        return { filled with guestPort := some (UInt16.ofNat (← scalars.word 16 node)) } },
    { name := "default_memory_mib"
      required := false
      filled := fun filled => filled.defaultMemoryMib.isSome
      read := fun node filled => do
        return { filled with defaultMemoryMib := some (UInt32.ofNat (← scalars.word 32 node)) } },
    { name := "default_vcpu_count"
      required := false
      filled := fun filled => filled.defaultVcpuCount.isSome
      read := fun node filled => do
        return { filled with defaultVcpuCount := some (UInt32.ofNat (← scalars.word 32 node)) } },
    { name := "reap_orphaned_vms"
      required := false
      filled := fun filled => filled.reapOrphanedVms.isSome
      read := fun node filled => do
        return { filled with reapOrphanedVms := some (← scalars.boolean node) } },
    { name := "log_level"
      required := false
      filled := fun filled => filled.logLevel.isSome
      read := fun node filled => do
        return { filled with logLevel := some (← scalars.text node) } }]
  fault := fault

/-- Unknown members are refused. -/
def shape : Json.Shape Partial Settings where
  record := record ⟨Json.Node.word, Json.Node.boolean, Json.Node.text⟩ Json.Problem.mismatch
  empty := .empty
  others := .refused
  finish filled := .ok filled.complete

def toJson (settings : Settings) : Json :=
  .object [("guest_port", .ofNat settings.guestPort.toNat),
    ("default_memory_mib", .ofNat settings.defaultMemoryMib.toNat),
    ("default_vcpu_count", .ofNat settings.defaultVcpuCount.toNat),
    ("reap_orphaned_vms", .boolean settings.reapOrphanedVms),
    ("log_level", .string settings.logLevel)]

end GuestPod.Settings
