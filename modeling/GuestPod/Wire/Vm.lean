/-
This file gives virtual machines, their boots and their endpoints a JSON form.
-/

import GuestPod.Json.Decoder
import GuestPod.Time.Text
import GuestPod.Vm

namespace GuestPod

open Json

namespace BootRequest

structure Partial where
  image : Option String
  revision : Option String
  memoryMib : Option UInt32
  vcpuCount : Option UInt32

def shape : Shape Partial BootRequest where
  record := {
    name := "VmBootRequest"
    fields := [
      field "image" true Partial.image (fun image filled => { filled with image := some image })
        Node.text,
      field "revision" true Partial.revision
        (fun revision filled => { filled with revision := some revision }) Node.text,
      field "memory_mib" true Partial.memoryMib
        (fun memoryMib filled => { filled with memoryMib := some memoryMib })
        fun node => UInt32.ofNat <$> node.word 32,
      field "vcpu_count" true Partial.vcpuCount
        (fun vcpuCount filled => { filled with vcpuCount := some vcpuCount })
        fun node => UInt32.ofNat <$> node.word 32]
    fault := .mismatch }
  empty := ⟨none, none, none, none⟩
  others := .skipped
  finish filled := do
    return ⟨← demand "image" filled.image, ← demand "revision" filled.revision,
      ← demand "memory_mib" filled.memoryMib, ← demand "vcpu_count" filled.vcpuCount⟩

def toJson (boot : BootRequest) : Json :=
  .object [("image", .string boot.image), ("revision", .string boot.revision),
    ("memory_mib", .ofNat boot.memoryMib.toNat), ("vcpu_count", .ofNat boot.vcpuCount.toNat)]

end BootRequest

namespace Endpoint

structure Partial where
  address : Option String
  port : Option UInt16

def shape : Shape Partial Endpoint where
  record := {
    name := "PodVmConfig"
    fields := [
      field "guest_address" true Partial.address
        (fun address filled => { filled with address := some address }) Node.text,
      field "guest_port" true Partial.port (fun port filled => { filled with port := some port })
        fun node => UInt16.ofNat <$> node.word 16]
    fault := .mismatch }
  empty := ⟨none, none⟩
  others := .skipped
  finish filled := do
    return ⟨← demand "guest_address" filled.address, ← demand "guest_port" filled.port⟩

def toJson (endpoint : Endpoint) : Json :=
  .object [("guest_address", .string endpoint.address),
    ("guest_port", .ofNat endpoint.port.toNat)]

end Endpoint

namespace Vm

structure Partial where
  id : Option String
  address : Option String
  revision : Option String
  image : Option String
  startedAt : Option Time.DateTime

/-- A text that is no date and time is refused without a wording. -/
def dateTime (node : Node) : Except Problem Time.DateTime :=
  match node.draft with
  | .string s =>
      match Time.DateTime.parse? s.toList with
      | some time => .ok time
      | none => .error (.mismatch .notADateTime)
  | draft => refuse .dateTime draft

def shape : Shape Partial Vm where
  record := {
    name := "VmInstance"
    fields := [
      field "vm_id" true Partial.id (fun id filled => { filled with id := some id }) Node.text,
      field "guest_address" true Partial.address
        (fun address filled => { filled with address := some address }) Node.text,
      field "revision" true Partial.revision
        (fun revision filled => { filled with revision := some revision }) Node.text,
      field "image" true Partial.image (fun image filled => { filled with image := some image })
        Node.text,
      field "started_at" true Partial.startedAt
        (fun startedAt filled => { filled with startedAt := some startedAt }) dateTime]
    fault := .mismatch }
  empty := ⟨none, none, none, none, none⟩
  others := .skipped
  finish filled := do
    return ⟨← demand "vm_id" filled.id, ← demand "guest_address" filled.address,
      ← demand "revision" filled.revision, ← demand "image" filled.image,
      ← demand "started_at" filled.startedAt⟩

def toJson (vm : Vm) : Json :=
  .object [("vm_id", .string vm.id), ("guest_address", .string vm.address),
    ("revision", .string vm.revision), ("image", .string vm.image),
    ("started_at", .string (String.ofList vm.startedAt.print))]

end Vm

end GuestPod
