/-
This file holds the settings of a coordinator.
-/

import GuestPod.Contract
import GuestPod.Log

namespace GuestPod

structure Settings where
  guestPort : UInt16
  defaultMemoryMib : UInt32
  defaultVcpuCount : UInt32
  reapOrphanedVms : Bool
  logLevel : String
  deriving DecidableEq, Repr

namespace Settings

def standard : Settings where
  guestPort := Contract.defaultGuestPort
  defaultMemoryMib := Contract.defaultMemoryMib
  defaultVcpuCount := Contract.defaultVcpuCount
  reapOrphanedVms := false
  logLevel := Contract.defaultLogLevel

def badLevel (text : String) : Error :=
  .invalidSetting "log_level" ("'" ++ text ++ "': error parsing level: expected one of " ++
    "\"error\", \"warn\", \"info\", \"debug\", \"trace\", or a number 1-5")

def level (settings : Settings) : Except Error Level :=
  match Level.parse? settings.logLevel with
  | some level => .ok level
  | none => .error (badLevel settings.logLevel)

def mustBePositive (field : String) : Error :=
  .invalidSetting field "must be non-zero"

/-- The fields are checked in the order of their declaration. -/
def validate (settings : Settings) : Except Error Unit :=
  if settings.guestPort = 0 then .error (mustBePositive "guest_port")
  else if settings.defaultMemoryMib = 0 then .error (mustBePositive "default_memory_mib")
  else if settings.defaultVcpuCount = 0 then .error (mustBePositive "default_vcpu_count")
  else settings.level.map fun _ => ()

end Settings

end GuestPod
