/-
This file holds the two stores that creations and removals share.
-/

import GuestPod.Error
import GuestPod.Table
import GuestPod.Vm

namespace GuestPod

/-- The endpoint of each sandbox whose sidecar has not come yet. -/
abbrev EndpointStore := Table String Endpoint

namespace EndpointStore

/-- Publishing overwrites and hands back what was there. -/
def publish (store : EndpointStore) (sandbox : String) (endpoint : Endpoint) :
    Option Endpoint × EndpointStore :=
  (store.get? sandbox, store.put sandbox endpoint)

/-- Taking hands out the endpoint and clears it in one step. -/
def take (store : EndpointStore) (sandbox : String) : Option Endpoint × EndpointStore :=
  (store.get? sandbox, store.remove sandbox)

/-- Forgetting says whether there was something to forget. -/
def forget (store : EndpointStore) (sandbox : String) : Bool × EndpointStore :=
  (store.contains sandbox, store.remove sandbox)

end EndpointStore

/-- The machine behind each live workload container. -/
abbrev VmRegistry := Table String Vm

namespace VmRegistry

/-- A container is registered once; a second machine for it is refused. -/
def register (registry : VmRegistry) (container : String) (vm : Vm) :
    Except Error VmRegistry :=
  if registry.contains container then .error (.alreadyRegistered container)
  else .ok (registry.put container vm)

/-- Dropping hands out the machine that was registered. -/
def drop (registry : VmRegistry) (container : String) : Option Vm × VmRegistry :=
  (registry.get? container, registry.remove container)

def vmFor (registry : VmRegistry) (container : String) : Except Error Vm :=
  match registry.get? container with
  | some vm => .ok vm
  | none => .error (.notRegistered container)

end VmRegistry

end GuestPod
