/-
This file reads the parameters of a boot from the environment of a workload.
-/

import GuestPod.Container
import GuestPod.Settings
import GuestPod.Vm

namespace GuestPod.Launch

/-- A required variable that is present but empty counts as missing. -/
def required (config : ContainerConfig) (key : String) : Except Error String :=
  match config.lookup key with
  | some value => if value = "" then .error (.missingVariable key) else .ok value
  | none => .error (.missingVariable key)

/-- Only an absent variable takes the default. -/
def numeric (config : ContainerConfig) (key : String) (default : UInt32) :
    Except Error UInt32 :=
  match config.lookup key with
  | none => .ok default
  | some value =>
      match Text.readWord (Text.wordBound 32) value.toList with
      | .ok n => .ok (UInt32.ofNat n)
      | .error fault => .error (.invalidVariable key value fault.message)

def extract (config : ContainerConfig) (settings : Settings) : Except Error BootRequest := do
  let image ← required config Contract.imageVariable
  let revision ← required config Contract.revisionVariable
  let memoryMib ← numeric config Contract.memoryVariable settings.defaultMemoryMib
  let vcpuCount ← numeric config Contract.vcpuVariable settings.defaultVcpuCount
  return ⟨image, revision, memoryMib, vcpuCount⟩

end GuestPod.Launch
