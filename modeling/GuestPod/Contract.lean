/-
This file holds the names and defaults on which the platform and its nodes agree.
-/

namespace GuestPod.Contract

/-- The container that runs in a virtual machine. -/
def workloadName : String := "user-container"

/-- The container that routes requests to the workload. -/
def sidecarName : String := "queue-proxy"

/-! The workload's environment names the machine to boot. -/

def imageVariable : String := "GUEST_IMAGE"

def revisionVariable : String := "K_REVISION"

def memoryVariable : String := "GUEST_MEM_SIZE_MIB"

def vcpuVariable : String := "GUEST_VCPU_COUNT"

/-! The sidecar's environment names the machine that was booted. -/

def addressVariable : String := "GUEST_ADDR"

def portVariable : String := "GUEST_PORT"

/-! A request that is silent gets the defaults. -/

def defaultMemoryMib : UInt32 := 256

def defaultVcpuCount : UInt32 := 1

def defaultGuestPort : UInt16 := 50051

def defaultLogLevel : String := "info"

/-- A settings file has at most 64 KiB. -/
def settingsFileLimit : Nat := 65536

end GuestPod.Contract
