/-
This file words the log entries of calls.
-/

import GuestPod.Collaborator
import GuestPod.Log
import GuestPod.Role

namespace GuestPod.Note

def creation (runtime : String) (request : CreateRequest) : Log.Entry :=
  ⟨.debug, "CreateContainer",
    [("pod_sandbox", request.sandbox), ("container", request.containerName),
      ("role", (Role.classify request.containerName).describe), ("runtime", runtime)]⟩

def invalidWorkload (sandbox : String) (error : Error) : Log.Entry :=
  ⟨.error, "Invalid workload container config",
    [("pod_sandbox", sandbox), ("error", error.message)]⟩

def booting (sandbox : String) (boot : BootRequest) : Log.Entry :=
  ⟨.debug, "Booting VM for workload container",
    [("pod_sandbox", sandbox), ("image", boot.image), ("revision", boot.revision),
      ("memory_mib", toString boot.memoryMib.toNat), ("vcpus", toString boot.vcpuCount.toNat)]⟩

def bootFailed (sandbox : String) (error : Error) : Log.Entry :=
  ⟨.error, "Failed to start VM", [("pod_sandbox", sandbox), ("error", error.message)]⟩

def booted (sandbox : String) (vm : Vm) : Log.Entry :=
  ⟨.info, "VM started",
    [("pod_sandbox", sandbox), ("vm_id", vm.id), ("guest_address", vm.address)]⟩

def placeholderFailed (sandbox : String) (error : Error) : Log.Entry :=
  ⟨.error, "Failed to create placeholder container",
    [("pod_sandbox", sandbox), ("error", error.message)]⟩

def taskFailed (task reason : String) : Log.Entry :=
  ⟨.error, "Creation task did not complete", [("task", task), ("error", reason)]⟩

def orphanLeft (sandbox : String) (vm : Vm) : Log.Entry :=
  ⟨.warn, "Leaving VM running without a registered container",
    [("pod_sandbox", sandbox), ("vm_id", vm.id)]⟩

def orphanStopped (sandbox : String) (vm : Vm) : Log.Entry :=
  ⟨.info, "Stopped orphaned VM", [("pod_sandbox", sandbox), ("vm_id", vm.id)]⟩

def orphanNotStopped (sandbox : String) (vm : Vm) (error : Error) : Log.Entry :=
  ⟨.warn, "Failed to stop orphaned VM",
    [("pod_sandbox", sandbox), ("vm_id", vm.id), ("error", error.message)]⟩

def notRegistered (sandbox : String) (error : Error) : Log.Entry :=
  ⟨.error, "Failed to register active VM", [("pod_sandbox", sandbox), ("error", error.message)]⟩

def workloadCreated (sandbox container : String) (vm : Vm) : Log.Entry :=
  ⟨.info, "Workload container created",
    [("pod_sandbox", sandbox), ("container_id", container), ("vm_id", vm.id)]⟩

def sidecarTooEarly (sandbox : String) (error : Error) : Log.Entry :=
  ⟨.error, "Sidecar created before workload VM",
    [("pod_sandbox", sandbox), ("error", error.message)]⟩

def injecting (sandbox : String) (endpoint : Endpoint) : Log.Entry :=
  ⟨.debug, "Injecting guest address into sidecar",
    [("pod_sandbox", sandbox), ("guest_address", endpoint.address),
      ("guest_port", toString endpoint.port.toNat)]⟩

def sidecarFailed (sandbox : String) (error : Error) : Log.Entry :=
  ⟨.error, "Stock runtime failed to create sidecar",
    [("pod_sandbox", sandbox), ("error", error.message)]⟩

def stopFailed (container : String) (vm : Vm) (error : Error) : Log.Entry :=
  ⟨.error, "Failed to stop VM",
    [("container_id", container), ("vm_id", vm.id), ("error", error.message)]⟩

def stopped (container : String) (vm : Vm) : Log.Entry :=
  ⟨.info, "VM stopped", [("container_id", container), ("vm_id", vm.id)]⟩

def endpointDropped (sandbox : String) : Log.Entry :=
  ⟨.debug, "Dropped unconsumed VM config", [("pod_sandbox", sandbox)]⟩

end GuestPod.Note
