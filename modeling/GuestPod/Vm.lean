/-
This file holds the virtual machines behind workload containers.
-/

import GuestPod.Time.DateTime

namespace GuestPod

/-- The parameters of one boot. -/
structure BootRequest where
  image : String
  revision : String
  memoryMib : UInt32
  vcpuCount : UInt32
  deriving DecidableEq, Repr

/-- A machine that the supervisor reported as running. -/
structure Vm where
  id : String
  address : String
  revision : String
  image : String
  startedAt : Time.DateTime
  deriving DecidableEq, Repr

/-- The place where the workload of a pod can be reached. -/
structure Endpoint where
  address : String
  port : UInt16
  deriving DecidableEq, Repr

end GuestPod
