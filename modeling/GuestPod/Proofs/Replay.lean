/-
This file plays a history again.  The stores are what the history makes them, and every event
tells what it met.
-/

import GuestPod.Proofs.Step

namespace GuestPod

namespace Event

/-- What an event does to the stores. -/
def effect (stores : Stores) : Event → Stores
  | .published sandbox endpoint _ =>
      { stores with endpoints := stores.endpoints.put sandbox endpoint }
  | .taken sandbox _ => { stores with endpoints := stores.endpoints.remove sandbox }
  | .forgot sandbox _ => { stores with endpoints := stores.endpoints.remove sandbox }
  | .registered container vm true => { stores with vms := stores.vms.put container vm }
  | .dropped container _ => { stores with vms := stores.vms.remove container }
  | _ => stores

/-- What an event tells about the stores is true of them. -/
def Meets (stores : Stores) : Event → Prop
  | .published sandbox _ previous => previous = stores.endpoints.get? sandbox
  | .taken sandbox endpoint => endpoint = stores.endpoints.get? sandbox
  | .forgot sandbox present => present = (stores.endpoints.get? sandbox).isSome
  | .found container vm => vm = stores.vms.get? container
  | .registered container _ accepted => accepted = (stores.vms.get? container).isNone
  | .dropped container vm => vm = stores.vms.get? container
  | _ => True

/-- The events that write to the endpoint of a sandbox. -/
def touches (sandbox : String) : Event → Bool
  | .published other _ _ => other = sandbox
  | .taken other _ => other = sandbox
  | .forgot other _ => other = sandbox
  | _ => false

/-- The events that write to the entry of a container. -/
def changes (container : String) : Event → Bool
  | .registered other _ accepted => accepted && other = container
  | .dropped other _ => other = container
  | _ => false

theorem endpoint_effect {event : Event} {sandbox : String}
    (apart : event.touches sandbox = false) (stores : Stores) :
    (event.effect stores).endpoints.get? sandbox = stores.endpoints.get? sandbox := by
  cases event with
  | published other endpoint previous =>
      have differ : other ≠ sandbox := by simpa [touches] using apart
      simp [effect, Table.get?_put, differ]
  | taken other endpoint =>
      have differ : other ≠ sandbox := by simpa [touches] using apart
      simp [effect, Table.get?_remove, differ]
  | forgot other present =>
      have differ : other ≠ sandbox := by simpa [touches] using apart
      simp [effect, Table.get?_remove, differ]
  | registered container vm accepted => cases accepted <;> rfl
  | asked request => rfl
  | answered reply => rfl
  | found container vm => rfl
  | dropped container vm => rfl
  | finished result => rfl

theorem vm_effect {event : Event} {container : String}
    (apart : event.changes container = false) (stores : Stores) :
    (event.effect stores).vms.get? container = stores.vms.get? container := by
  cases event with
  | registered other vm accepted =>
      cases accepted with
      | false => rfl
      | true =>
          have differ : other ≠ container := by simpa [changes] using apart
          simp [effect, Table.get?_put, differ]
  | dropped other vm =>
      have differ : other ≠ container := by simpa [changes] using apart
      simp [effect, Table.get?_remove, differ]
  | published sandbox endpoint previous => rfl
  | taken sandbox endpoint => rfl
  | forgot sandbox present => rfl
  | asked request => rfl
  | answered reply => rfl
  | found container vm => rfl
  | finished result => rfl

/-- What an event does to one endpoint depends on this endpoint only. -/
theorem endpoint_effect_congr {first second : Stores} {sandbox : String}
    (same : first.endpoints.get? sandbox = second.endpoints.get? sandbox) (event : Event) :
    (event.effect first).endpoints.get? sandbox =
      (event.effect second).endpoints.get? sandbox := by
  cases touched : event.touches sandbox with
  | false => rw [endpoint_effect touched, endpoint_effect touched, same]
  | true =>
      cases event with
      | published other endpoint previous => simp [effect, Table.get?_put, same]
      | taken other endpoint => simp [effect, Table.get?_remove, same]
      | forgot other present => simp [effect, Table.get?_remove, same]
      | _ => simp [touches] at touched

/-- What an event does to one entry depends on this entry only. -/
theorem vm_effect_congr {first second : Stores} {container : String}
    (same : first.vms.get? container = second.vms.get? container) (event : Event) :
    (event.effect first).vms.get? container = (event.effect second).vms.get? container := by
  cases changed : event.changes container with
  | false => rw [vm_effect changed, vm_effect changed, same]
  | true =>
      cases event with
      | registered other vm accepted =>
          obtain ⟨rfl, rfl⟩ : accepted = true ∧ other = container := by
            simpa [changes] using changed
          simp [effect, Table.get?_put]
      | dropped other vm => simp [effect, Table.get?_remove, same]
      | _ => simp [changes] at changed

/-- An event that touches no sandbox leaves all endpoints as they are. -/
theorem endpoints_effect {event : Event} (apart : ∀ sandbox, event.touches sandbox = false)
    (stores : Stores) : (event.effect stores).endpoints = stores.endpoints := by
  cases event with
  | published sandbox endpoint previous => simpa [touches] using apart sandbox
  | taken sandbox endpoint => simpa [touches] using apart sandbox
  | forgot sandbox present => simpa [touches] using apart sandbox
  | registered container vm accepted => cases accepted <;> rfl
  | _ => rfl

/-- An event that changes no container leaves the registry as it is. -/
theorem vms_effect {event : Event} (apart : ∀ container, event.changes container = false)
    (stores : Stores) : (event.effect stores).vms = stores.vms := by
  cases event with
  | registered container vm accepted =>
      have refused : accepted = false := by simpa [changes] using apart container
      rw [refused]
      rfl
  | dropped container vm => simpa [changes] using apart container
  | _ => rfl

/-- What an event does to one store does not depend on the other. -/
theorem endpoints_effect_congr {first second : Stores}
    (same : first.endpoints = second.endpoints) (event : Event) :
    (event.effect first).endpoints = (event.effect second).endpoints := by
  cases event with
  | registered container vm accepted => cases accepted <;> exact same
  | _ => simp [effect, same]

theorem vms_effect_congr {first second : Stores} (same : first.vms = second.vms)
    (event : Event) : (event.effect first).vms = (event.effect second).vms := by
  cases event with
  | registered container vm accepted => cases accepted <;> simp [effect, same]
  | _ => simp [effect, same]

end Event

namespace System

/-- A history is played from its oldest occurrence on. -/
def replay : List Occurrence → Stores
  | [] => .empty
  | newest :: earlier => newest.event.effect (replay earlier)

/-- A history without the part of one call. -/
def without (id : Nat) (history : List Occurrence) : List Occurrence :=
  history.filter (·.source ≠ some id)

/-- Occurrences that leave a part of the stores as it is can be left out of the history. -/
theorem replay_filter {β : Type} (part : Stores → β)
    (congr : ∀ {first second : Stores}, part first = part second → ∀ event : Event,
      part (event.effect first) = part (event.effect second))
    {keep : Occurrence → Bool} {history : List Occurrence}
    (idle : ∀ occurrence ∈ history, keep occurrence = false → ∀ stores,
      part (occurrence.event.effect stores) = part stores) :
    part (replay (history.filter keep)) = part (replay history) := by
  induction history with
  | nil => rfl
  | cons newest earlier ih =>
      have before := ih fun occurrence member => idle occurrence (List.mem_cons_of_mem _ member)
      cases kept : keep newest with
      | false =>
          rw [List.filter_cons_of_neg (by simp [kept]), replay,
            idle newest List.mem_cons_self kept]
          exact before
      | true =>
          rw [List.filter_cons_of_pos kept, replay, replay]
          exact congr before newest.event

/-- A call that touches no sandbox can be left out of the history of the endpoints. -/
theorem endpoints_without {id : Nat} {history : List Occurrence}
    (apart : ∀ event, ⟨some id, event⟩ ∈ history → ∀ sandbox, event.touches sandbox = false) :
    (replay (without id history)).endpoints = (replay history).endpoints := by
  refine replay_filter (·.endpoints) Event.endpoints_effect_congr fun occurrence member own => ?_
  obtain ⟨source, event⟩ := occurrence
  obtain rfl : source = some id := by simpa using own
  exact Event.endpoints_effect (apart event member)

/-- A call that changes no container can be left out of the history of the registry. -/
theorem vms_without {id : Nat} {history : List Occurrence}
    (apart : ∀ event, ⟨some id, event⟩ ∈ history →
      ∀ container, event.changes container = false) :
    (replay (without id history)).vms = (replay history).vms := by
  refine replay_filter (·.vms) Event.vms_effect_congr fun occurrence member own => ?_
  obtain ⟨source, event⟩ := occurrence
  obtain rfl : source = some id := by simpa using own
  exact Event.vms_effect (apart event member)

/-- Every event tells what it met. -/
def Truthful : List Occurrence → Prop
  | [] => True
  | newest :: earlier => newest.event.Meets (replay earlier) ∧ Truthful earlier

theorem Truthful.of_append {newer earlier : List Occurrence}
    (truthful : Truthful (newer ++ earlier)) : Truthful earlier := by
  induction newer with
  | nil => exact truthful
  | cons newest rest ih => exact ih truthful.2

/-- The events of a turn lead to its stores, and each of them tells what it met. -/
def Honest {σ : Type} (stores : Stores) (turn : Turn σ) : Prop :=
  ∀ source history, replay history = stores → Truthful history →
    replay ((occurrences source turn.events).reverse ++ history) = turn.stores ∧
      Truthful ((occurrences source turn.events).reverse ++ history)

theorem workload_honest {w : Workload} {stores : Stores} {turn : Turn Workload}
    (takes : w.Takes stores turn) : Honest stores turn := by
  rintro source history rfl truthful
  cases takes <;>
    simp_all [occurrences, replay, Truthful, Event.effect, Event.Meets]

theorem relay_honest {r : Relay} {stores : Stores} {turn : Turn Relay}
    (takes : r.Takes stores turn) : Honest stores turn := by
  rintro source history rfl truthful
  cases takes <;>
    simp_all [occurrences, replay, Truthful, Event.effect, Event.Meets]

theorem removal_honest {r : Removal} {stores : Stores} {turn : Turn Removal}
    (takes : r.Takes stores turn) : Honest stores turn := by
  rintro source history rfl truthful
  cases takes <;>
    simp_all [occurrences, replay, Truthful, Event.effect, Event.Meets]

theorem call_honest {call : Call} {stores : Stores} {turn : Turn Call}
    (takes : call.Takes stores turn) : Honest stores turn := by
  cases takes with
  | workload takes => exact workload_honest takes
  | relay takes => exact relay_honest takes
  | removal takes => exact removal_honest takes

theorem opening_honest {move : Move} {stores : Stores} {turn : Turn Call}
    (opens : move.Opens stores turn) : Honest stores turn := by
  rintro source history rfl truthful
  cases opens <;>
    simp_all [occurrences, replay, Truthful, Event.effect, Event.Meets]

theorem access_honest {move : Move} {stores after : Stores} {event : Event}
    (accesses : move.Accesses stores event after) :
    event.effect stores = after ∧ event.Meets stores := by
  cases accesses <;> simp_all [Event.effect, Event.Meets]

/-- The stores of a system are its history played again. -/
theorem replay_history {moves : List Move} {s : System} (reached : empty.run moves = some s) :
    replay s.history = s.stores ∧ Truthful s.history := by
  refine run_induction (motive := fun _ s => replay s.history = s.stores ∧ Truthful s.history)
    ⟨rfl, trivial⟩ ?_ reached
  rintro moves s next move news - ⟨played, truthful⟩ - step
  rw [step.history_eq]
  cases step with
  | opened fresh number opens => exact opening_honest opens _ _ played truthful
  | advanced present number takes => exact call_honest takes _ _ played truthful
  | accessed number accesses =>
      obtain ⟨made, met⟩ := access_honest accesses
      rw [← played] at made met
      exact ⟨made, met, truthful⟩

theorem truthful_history {moves : List Move} {s : System} (reached : empty.run moves = some s) :
    Truthful s.history := (replay_history reached).2

/-- Two places of one history are the same, or one of them is the newer one. -/
theorem place_cases {newer earlier later sooner : List Occurrence} {first second : Occurrence}
    (same : newer ++ first :: earlier = later ++ second :: sooner) :
    newer = later ∧ first = second ∧ earlier = sooner ∨
      (∃ between, newer = later ++ second :: between ∧ sooner = between ++ first :: earlier) ∨
        ∃ between, later = newer ++ first :: between ∧ earlier = between ++ second :: sooner := by
  rcases List.append_eq_append_iff.1 same with ⟨rest, rfl, tail⟩ | ⟨rest, rfl, tail⟩
  · cases rest with
    | nil =>
        obtain ⟨rfl, rfl⟩ := List.cons_eq_cons.1 tail
        exact .inl ⟨by simp, rfl, rfl⟩
    | cons newest between =>
        obtain ⟨rfl, rfl⟩ := List.cons_eq_cons.1 tail
        exact .inr (.inr ⟨between, rfl, rfl⟩)
  · cases rest with
    | nil =>
        obtain ⟨rfl, rfl⟩ := List.cons_eq_cons.1 tail
        exact .inl ⟨by simp, rfl, rfl⟩
    | cons newest between =>
        obtain ⟨rfl, rfl⟩ := List.cons_eq_cons.1 tail
        exact .inr (.inl ⟨between, rfl, rfl⟩)

/-- The endpoint was published last, and nothing has touched its sandbox since. -/
def LastPublished (sandbox : String) (endpoint : Endpoint) (history : List Occurrence) : Prop :=
  ∃ gap source previous older,
    history = gap ++ ⟨source, .published sandbox endpoint previous⟩ :: older ∧
      ∀ between ∈ gap, between.event.touches sandbox = false

/-- The machine was registered last, and nothing has changed its entry since. -/
def LastRegistered (container : String) (vm : Vm) (history : List Occurrence) : Prop :=
  ∃ gap source older,
    history = gap ++ ⟨source, .registered container vm true⟩ :: older ∧
      ∀ between ∈ gap, between.event.changes container = false

/-- A store holds an endpoint exactly when it was published last. -/
theorem lastPublished_of_get? {history : List Occurrence} {sandbox : String}
    {endpoint : Endpoint}
    (present : (replay history).endpoints.get? sandbox = some endpoint) :
    LastPublished sandbox endpoint history := by
  induction history with
  | nil => cases present
  | cons newest earlier ih =>
      cases touched : newest.event.touches sandbox with
      | false =>
          rw [replay, Event.endpoint_effect touched] at present
          obtain ⟨gap, source, previous, older, rfl, apart⟩ := ih present
          exact ⟨newest :: gap, source, previous, older, rfl, by simpa [touched] using apart⟩
      | true =>
          obtain ⟨source, event⟩ := newest
          cases event with
          | published other given previous =>
              obtain rfl : other = sandbox := by simpa [Event.touches] using touched
              obtain rfl : given = endpoint := by
                simpa [replay, Event.effect, Table.get?_put] using present
              exact ⟨[], source, previous, earlier, rfl, by simp⟩
          | taken other met =>
              obtain rfl : other = sandbox := by simpa [Event.touches] using touched
              simp [replay, Event.effect, Table.get?_remove] at present
          | forgot other met =>
              obtain rfl : other = sandbox := by simpa [Event.touches] using touched
              simp [replay, Event.effect, Table.get?_remove] at present
          | _ => simp [Event.touches] at touched

theorem get?_of_lastPublished {history : List Occurrence} {sandbox : String}
    {endpoint : Endpoint} (last : LastPublished sandbox endpoint history) :
    (replay history).endpoints.get? sandbox = some endpoint := by
  obtain ⟨gap, source, previous, older, rfl, apart⟩ := last
  induction gap with
  | nil => simp [replay, Event.effect, Table.get?_put]
  | cons newest between ih =>
      rw [List.cons_append, replay, Event.endpoint_effect (apart newest List.mem_cons_self)]
      exact ih fun occurrence member => apart occurrence (List.mem_cons_of_mem _ member)

theorem lastRegistered_of_get? {history : List Occurrence} {container : String} {vm : Vm}
    (present : (replay history).vms.get? container = some vm) :
    LastRegistered container vm history := by
  induction history with
  | nil => cases present
  | cons newest earlier ih =>
      cases changed : newest.event.changes container with
      | false =>
          rw [replay, Event.vm_effect changed] at present
          obtain ⟨gap, source, older, rfl, apart⟩ := ih present
          exact ⟨newest :: gap, source, older, rfl, by simpa [changed] using apart⟩
      | true =>
          obtain ⟨source, event⟩ := newest
          cases event with
          | registered other given accepted =>
              obtain ⟨rfl, rfl⟩ : accepted = true ∧ other = container := by
                simpa [Event.changes] using changed
              obtain rfl : given = vm := by
                simpa [replay, Event.effect, Table.get?_put] using present
              exact ⟨[], source, earlier, rfl, by simp⟩
          | dropped other met =>
              obtain rfl : other = container := by simpa [Event.changes] using changed
              simp [replay, Event.effect, Table.get?_remove] at present
          | _ => simp [Event.changes] at changed

end System

end GuestPod
