/-
This file holds what happens while calls run: questions and answers, accesses to the stores, and
results.
-/

import GuestPod.Collaborator
import GuestPod.Log
import GuestPod.Store

namespace GuestPod

/-- What a call comes to. -/
inductive Result where
  | created (outcome : Outcome CreateResponse)
  | removed (outcome : Outcome Unit)
  | forgotten (present : Bool)
  deriving DecidableEq, Repr

/-- Every access to a store is an event that says what it met. -/
inductive Event where
  | asked (request : Request)
  | answered (reply : Reply)
  | published (sandbox : String) (endpoint : Endpoint) (previous : Option Endpoint)
  | taken (sandbox : String) (endpoint : Option Endpoint)
  | forgot (sandbox : String) (present : Bool)
  | found (container : String) (vm : Option Vm)
  | registered (container : String) (vm : Vm) (accepted : Bool)
  | dropped (container : String) (vm : Option Vm)
  | finished (result : Result)
  deriving DecidableEq, Repr

structure Stores where
  endpoints : EndpointStore
  vms : VmRegistry
  deriving DecidableEq, Repr

namespace Stores

def empty : Stores := ⟨.empty, .empty⟩

def publish (stores : Stores) (sandbox : String) (endpoint : Endpoint) : Event × Stores :=
  let (previous, endpoints) := stores.endpoints.publish sandbox endpoint
  (.published sandbox endpoint previous, { stores with endpoints := endpoints })

def take (stores : Stores) (sandbox : String) : Option Endpoint × Event × Stores :=
  let (endpoint, endpoints) := stores.endpoints.take sandbox
  (endpoint, .taken sandbox endpoint, { stores with endpoints := endpoints })

def forget (stores : Stores) (sandbox : String) : Bool × Event × Stores :=
  let (present, endpoints) := stores.endpoints.forget sandbox
  (present, .forgot sandbox present, { stores with endpoints := endpoints })

/-- A refused registration leaves the stores as they are. -/
def register (stores : Stores) (container : String) (vm : Vm) :
    Except Error Unit × Event × Stores :=
  match stores.vms.register container vm with
  | .ok vms => (.ok (), .registered container vm true, { stores with vms := vms })
  | .error e => (.error e, .registered container vm false, stores)

def find (stores : Stores) (container : String) : Option Vm × Event :=
  let vm := stores.vms.get? container
  (vm, .found container vm)

def drop (stores : Stores) (container : String) : Event × Stores :=
  let (vm, vms) := stores.vms.drop container
  (.dropped container vm, { stores with vms := vms })

end Stores

/-- A turn of a call moves it on; its events and log entries stand in their order. -/
structure Turn (σ : Type) where
  next : σ
  stores : Stores
  events : List Event
  entries : List Log.Entry
  deriving DecidableEq, Repr

def Turn.map {σ τ : Type} (f : σ → τ) (turn : Turn σ) : Turn τ :=
  ⟨f turn.next, turn.stores, turn.events, turn.entries⟩

end GuestPod
