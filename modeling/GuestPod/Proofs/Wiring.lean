/-
This file says what a sidecar finds in its environment.  An entry of its own hides the endpoint
that it has been given.
-/

import GuestPod.Proofs.Forwarding

namespace GuestPod

theorem Contract.addressVariable_ne_portVariable :
    Contract.addressVariable ≠ Contract.portVariable := by decide

namespace Relay

variable {request : CreateRequest} {endpoint : Endpoint}

/-- The two new entries stand behind all others. -/
theorem lookup_wire (request : CreateRequest) (endpoint : Endpoint) (key : String) :
    (wire request endpoint).config.lookup key =
      ((request.config.lookup key).or
        (if Contract.addressVariable = key then some endpoint.address else none)).or
          (if Contract.portVariable = key then some (toString endpoint.port.toNat) else none) := by
  simp only [wire, CreateRequest.append, ContainerConfig.lookup_append]

/-- An entry that comes last is found when no other entry says otherwise. -/
theorem or_some_eq_some_iff {found : Option String} {value : String} :
    found.or (some value) = some value ↔ ∀ other, found = some other → other = value := by
  cases found <;> simp

theorem lookup_wire_address :
    (wire request endpoint).config.lookup Contract.addressVariable =
      (request.config.lookup Contract.addressVariable).or (some endpoint.address) := by
  rw [lookup_wire, if_pos rfl, if_neg Contract.addressVariable_ne_portVariable.symm,
    Option.or_none]

theorem lookup_wire_port :
    (wire request endpoint).config.lookup Contract.portVariable =
      (request.config.lookup Contract.portVariable).or (some (toString endpoint.port.toNat)) := by
  rw [lookup_wire, if_pos rfl, if_neg Contract.addressVariable_ne_portVariable, Option.or_none]

theorem lookup_wire_other {key : String} (address : key ≠ Contract.addressVariable)
    (port : key ≠ Contract.portVariable) :
    (wire request endpoint).config.lookup key = request.config.lookup key := by
  rw [lookup_wire, if_neg address.symm, if_neg port.symm, Option.or_none, Option.or_none]

/-- An entry of the request itself is found first. -/
theorem lookup_wire_own {key value : String} (own : request.config.lookup key = some value) :
    (wire request endpoint).config.lookup key = some value := by
  rw [lookup_wire, own, Option.some_or, Option.some_or]

/-- A sidecar asks for its container with the endpoint that it took. -/
theorem Story.forwarded_eq {r : Relay} {trail : List Event} {sandbox : String}
    {forwarded : CreateRequest} (story : r.Story .sidecar trail)
    (taken : .taken sandbox (some endpoint) ∈ trail)
    (asked : .asked (.create forwarded) ∈ trail) : forwarded = wire r.request endpoint := by
  cases story with
  | taking => cases taken
  | forwarding known => cases known <;> simp [prelude] at asked
  | missed => simp at taken
  | @awaiting known stage brings =>
      cases known with
      | none => cases brings
      | some known =>
          obtain ⟨-, rfl⟩ : sandbox = r.request.sandbox ∧ endpoint = known := by
            simpa [prelude] using taken
          simpa [prelude, Relay.forwarded] using asked
  | @answered known outcome stage brings =>
      cases known with
      | none => cases brings
      | some known =>
          obtain ⟨-, rfl⟩ : sandbox = r.request.sandbox ∧ endpoint = known := by
            simpa [prelude] using taken
          simpa [prelude, Relay.forwarded] using asked

end Relay

namespace System

/-- What a sidecar finds in the request that was passed on for it. -/
structure Wired (request forwarded : CreateRequest) (endpoint : Endpoint) : Prop where
  /-- It finds the endpoint that it took exactly when no entry of its own says otherwise. -/
  shown : (forwarded.config.lookup Contract.addressVariable = some endpoint.address ∧
      forwarded.config.lookup Contract.portVariable = some (toString endpoint.port.toNat)) ↔
    (∀ value, request.config.lookup Contract.addressVariable = some value →
      value = endpoint.address) ∧
    ∀ value, request.config.lookup Contract.portVariable = some value →
      value = toString endpoint.port.toNat
  /-- What it finds in its own environment hides every later entry. -/
  own : ∀ key value, request.config.lookup key = some value →
    forwarded.config.lookup key = some value
  /-- All other keys and all other fields are as they were. -/
  others : ∀ key, key ≠ Contract.addressVariable → key ≠ Contract.portVariable →
    forwarded.config.lookup key = request.config.lookup key
  fields : forwarded = { request with config := { request.config with
    environment := forwarded.config.environment } }

theorem wired_of_wire (request : CreateRequest) (endpoint : Endpoint) :
    Wired request (Relay.wire request endpoint) endpoint where
  shown := by
    rw [Relay.lookup_wire_address, Relay.lookup_wire_port]
    exact and_congr Relay.or_some_eq_some_iff Relay.or_some_eq_some_iff
  own key value := Relay.lookup_wire_own
  others key address port := Relay.lookup_wire_other address port
  fields := rfl

variable {moves : List Move} {s : System} {id : Nat} {coordinator : Coordinator}
  {request forwarded : CreateRequest} {endpoint : Endpoint}

/-- A sidecar finds its machine in its environment unless an entry of its own hides it. -/
theorem machine_shown_iff (reached : empty.run moves = some s)
    (created : .create id coordinator request ∈ moves)
    (role : Role.classify request.containerName = .sidecar)
    (taken : .taken request.sandbox (some endpoint) ∈ s.trail id)
    (asked : .asked (.create forwarded) ∈ s.trail id) : Wired request forwarded endpoint := by
  obtain ⟨r, rfl, story⟩ := relay_of_created reached created (by simp [role])
  rw [role] at story
  rw [story.forwarded_eq taken asked]
  exact wired_of_wire r.request endpoint

/-- A workload boots its machine, and a sidecar of its sandbox takes the endpoint. -/
def introduction (sidecar : CreateRequest) : List Move :=
  Sample.started 0 true "pod" ++
    [.receive 0 (.booted (.ok (Sample.machine "vm-1" "10.0.0.2"))), .proceed 0,
      .create 1 (Sample.coordinator true) sidecar, .proceed 1, .proceed 1]

/-- This sidecar has an environment of its own. -/
def serving : CreateRequest := (Sample.sidecar "pod").append "SERVING_PORT" "8012"

theorem machine_shown_iff_serving :
    ∃ s forwarded, empty.run (introduction serving) = some s ∧
      .create 1 (Sample.coordinator true) serving ∈ introduction serving ∧
        Role.classify serving.containerName = .sidecar ∧
          .taken "pod" (some ⟨"10.0.0.2", 50051⟩) ∈ s.trail 1 ∧
            .asked (.create forwarded) ∈ s.trail 1 ∧
              Wired serving forwarded ⟨"10.0.0.2", 50051⟩ := by
  let forwarded := Relay.wire serving ⟨"10.0.0.2", 50051⟩
  have facts : (empty.run (introduction serving)).map (·.trail 1) =
      some [.taken "pod" (some ⟨"10.0.0.2", 50051⟩), .asked (.create forwarded)] := by decide
  obtain ⟨s, reached, told⟩ := Option.map_eq_some_iff.1 facts
  have created : .create 1 (Sample.coordinator true) serving ∈ introduction serving := by decide
  have role : Role.classify serving.containerName = .sidecar := by decide
  have taken : .taken "pod" (some ⟨"10.0.0.2", 50051⟩) ∈ s.trail 1 := by simp [told]
  have asked : .asked (.create forwarded) ∈ s.trail 1 := by simp [told]
  exact ⟨s, forwarded, reached, created, role, taken, asked,
    machine_shown_iff reached created role taken asked⟩

/-- This sidecar comes with an address already. -/
def preset : CreateRequest :=
  (Sample.sidecar "pod").append Contract.addressVariable "192.0.2.1"

/-- The address that a sidecar brings along hides the one of its machine. -/
theorem machine_hidden_preset :
    ∃ s forwarded, empty.run (introduction preset) = some s ∧
      .create 1 (Sample.coordinator true) preset ∈ introduction preset ∧
        Role.classify preset.containerName = .sidecar ∧
          .taken "pod" (some ⟨"10.0.0.2", 50051⟩) ∈ s.trail 1 ∧
            .asked (.create forwarded) ∈ s.trail 1 ∧
              forwarded.config.lookup Contract.addressVariable = some "192.0.2.1" ∧
                forwarded.config.lookup Contract.addressVariable ≠ some "10.0.0.2" := by
  let forwarded := Relay.wire preset ⟨"10.0.0.2", 50051⟩
  have facts : (empty.run (introduction preset)).map (·.trail 1) =
      some [.taken "pod" (some ⟨"10.0.0.2", 50051⟩), .asked (.create forwarded)] := by decide
  obtain ⟨s, reached, told⟩ := Option.map_eq_some_iff.1 facts
  exact ⟨s, forwarded, reached, by decide, by decide, by simp [told], by simp [told], by decide,
    by decide⟩

end System

end GuestPod
