/-
This file passes the creation of every other container on to the stock runtime.  A sidecar takes
the endpoint of its sandbox along.
-/

import GuestPod.Contract
import GuestPod.Coordinator.Event
import GuestPod.Coordinator.Note

namespace GuestPod

/-- Only a sidecar has an endpoint. -/
inductive Relay.Stage where
  | taking
  | forwarding (endpoint : Option Endpoint)
  | awaiting (endpoint : Option Endpoint)
  | finished (outcome : Outcome CreateResponse)
  deriving DecidableEq, Repr

structure Relay where
  request : CreateRequest
  stage : Relay.Stage
  deriving DecidableEq, Repr

namespace Relay

/-- The endpoint goes to the end of the environment, its address first. -/
def wire (request : CreateRequest) (endpoint : Endpoint) : CreateRequest :=
  (request.append Contract.addressVariable endpoint.address).append Contract.portVariable
    (toString endpoint.port.toNat)

theorem wire_eq (request : CreateRequest) (endpoint : Endpoint) :
    wire request endpoint = { request with config := { request.config with
      environment := request.config.environment ++
        [⟨Contract.addressVariable, endpoint.address⟩,
          ⟨Contract.portVariable, toString endpoint.port.toNat⟩] } } := by
  simp [wire, CreateRequest.append, ContainerConfig.append]

def forwarded (request : CreateRequest) : Option Endpoint → CreateRequest
  | some endpoint => wire request endpoint
  | none => request

/-- A sidecar without an endpoint is not created. -/
def take (r : Relay) (stores : Stores) : Turn Relay :=
  match stores.take r.request.sandbox with
  | (some endpoint, event, stores) =>
      { next := { r with stage := .forwarding (some endpoint) }
        stores := stores
        events := [event]
        entries := [Note.injecting r.request.sandbox endpoint] }
  | (none, event, stores) =>
      let error : Error := .noEndpoint r.request.sandbox
      { next := { r with stage := .finished (.error error) }
        stores := stores
        events := [event, .finished (.created (.error error))]
        entries := [Note.sidecarTooEarly r.request.sandbox error] }

def proceed (r : Relay) (stores : Stores) : Option (Turn Relay) :=
  match r.stage with
  | .taking => some (r.take stores)
  | .forwarding endpoint => some {
      next := { r with stage := .awaiting endpoint }
      stores := stores
      events := [.asked (.create (forwarded r.request endpoint))]
      entries := [] }
  | _ => none

/-- The failure of a sidecar is logged, that of another container is not. -/
def failures (r : Relay) : Option Endpoint → Outcome CreateResponse → List Log.Entry
  | some _, .error e => [Note.sidecarFailed r.request.sandbox e]
  | _, _ => []

def receive (r : Relay) (stores : Stores) : Reply → Option (Turn Relay)
  | .created outcome =>
      match r.stage with
      | .awaiting endpoint => some {
          next := { r with stage := .finished outcome }
          stores := stores
          events := [.answered (.created outcome), .finished (.created outcome)]
          entries := r.failures endpoint outcome }
      | _ => none
  | _ => none

end Relay

end GuestPod
