/-
This file follows the endpoint of a sandbox from its publication to its end.  Every publication is
overwritten, taken or forgotten, or it is still there, and no publication has two ends.
-/

import GuestPod.Proofs.Author
import GuestPod.Proofs.Replay

namespace GuestPod

namespace Event

def publishes (sandbox : String) : Event → Bool
  | .published other _ _ => other = sandbox
  | _ => false

/-- A publication overwrites one that is still there. -/
def overwrites (sandbox : String) : Event → Bool
  | .published other _ previous => other = sandbox && previous.isSome
  | _ => false

/-- A take delivers a publication that is still there. -/
def delivers (sandbox : String) : Event → Bool
  | .taken other endpoint => other = sandbox && endpoint.isSome
  | _ => false

/-- Forgetting discards a publication that is still there. -/
def discards (sandbox : String) : Event → Bool
  | .forgot other present => other = sandbox && present
  | _ => false

/-- The three ends of a publication. -/
def ends (sandbox : String) (event : Event) : Bool :=
  event.overwrites sandbox || event.delivers sandbox || event.discards sandbox

end Event

/-- The publications for a sandbox that are still there: one or none. -/
def Stores.pending (stores : Stores) (sandbox : String) : Nat :=
  if stores.endpoints.contains sandbox then 1 else 0

namespace Stores

theorem pending_eq (stores : Stores) (sandbox : String) :
    stores.pending sandbox = (stores.endpoints.get? sandbox).isSome.toNat := by
  rw [pending, Table.contains]
  cases stores.endpoints.get? sandbox <;> rfl

end Stores

namespace Event

variable {event : Event} {stores : Stores} {sandbox : String}

/-- An event of another sandbox is no publication and no end. -/
theorem apart_of_not_touches (apart : event.touches sandbox = false) :
    event.publishes sandbox = false ∧ event.overwrites sandbox = false ∧
      event.delivers sandbox = false ∧ event.discards sandbox = false := by
  cases event <;> simp_all [touches, publishes, overwrites, delivers, discards]

/-- One event changes what is there by what it publishes and what it ends. -/
theorem pending_effect (met : event.Meets stores) (sandbox : String) :
    (event.effect stores).pending sandbox +
        ((event.overwrites sandbox).toNat + (event.delivers sandbox).toNat +
          (event.discards sandbox).toNat) =
      stores.pending sandbox + (event.publishes sandbox).toNat := by
  rw [Stores.pending_eq, Stores.pending_eq]
  cases touched : event.touches sandbox with
  | false =>
      obtain ⟨publishes, overwrites, delivers, discards⟩ := apart_of_not_touches touched
      rw [publishes, overwrites, delivers, discards, endpoint_effect touched stores]
      rfl
  | true =>
      cases event with
      | published other endpoint previous =>
          obtain rfl : other = sandbox := by simpa [touches] using touched
          obtain rfl : previous = stores.endpoints.get? other := met
          simp [effect, Table.get?_put, overwrites, delivers, discards, publishes, Nat.add_comm]
      | taken other endpoint =>
          obtain rfl : other = sandbox := by simpa [touches] using touched
          obtain rfl : endpoint = stores.endpoints.get? other := met
          simp [effect, Table.get?_remove, overwrites, delivers, discards, publishes]
      | forgot other present =>
          obtain rfl : other = sandbox := by simpa [touches] using touched
          obtain rfl : present = (stores.endpoints.get? other).isSome := met
          simp [effect, Table.get?_remove, overwrites, delivers, discards, publishes]
      | _ => simp [touches] at touched

end Event

namespace System

/-- The number of events of one kind in a history. -/
def tally (kind : Event → Bool) (history : List Occurrence) : Nat :=
  history.countP fun occurrence => kind occurrence.event

theorem tally_cons (kind : Event → Bool) (newest : Occurrence) (earlier : List Occurrence) :
    tally kind (newest :: earlier) = tally kind earlier + (kind newest.event).toNat := by
  rw [tally, List.countP_cons]
  cases kind newest.event <;> rfl

/-- Publications are conserved along every truthful history. -/
theorem tally_publishes {history : List Occurrence} (truthful : Truthful history)
    (sandbox : String) :
    tally (·.publishes sandbox) history =
      tally (·.overwrites sandbox) history + tally (·.delivers sandbox) history +
        tally (·.discards sandbox) history + (replay history).pending sandbox := by
  induction history with
  | nil => rfl
  | cons newest earlier ih =>
      have balance := Event.pending_effect truthful.1 sandbox
      have before := ih truthful.2
      simp only [tally_cons, replay]
      omega

/-- An end of a publication finds it as the last one, untouched since. -/
theorem lastPublished_of_ends {newer earlier : List Occurrence} {occurrence : Occurrence}
    {sandbox : String} (truthful : Truthful (newer ++ occurrence :: earlier))
    (ended : occurrence.event.ends sandbox = true) :
    ∃ endpoint, LastPublished sandbox endpoint earlier := by
  have met : occurrence.event.Meets (replay earlier) := truthful.of_append.1
  have present : ((replay earlier).endpoints.get? sandbox).isSome := by
    obtain ⟨source, event⟩ := occurrence
    cases event <;>
      simp_all [Event.ends, Event.overwrites, Event.delivers, Event.discards, Event.Meets]
  obtain ⟨endpoint, found⟩ := Option.isSome_iff_exists.1 present
  exact ⟨endpoint, lastPublished_of_get? found⟩

/-- A take that delivers an endpoint finds it as the last one, untouched since. -/
theorem lastPublished_of_taken {newer earlier : List Occurrence} {source : Option Nat}
    {sandbox : String} {endpoint : Endpoint}
    (truthful : Truthful (newer ++ ⟨source, .taken sandbox (some endpoint)⟩ :: earlier)) :
    LastPublished sandbox endpoint earlier :=
  lastPublished_of_get? truthful.of_append.1.symm

/-- What was published last was published behind every event that touched the sandbox. -/
theorem LastPublished.mem_of_touched {middle older : List Occurrence} {occurrence : Occurrence}
    {sandbox : String} {endpoint : Endpoint}
    (last : LastPublished sandbox endpoint (middle ++ occurrence :: older))
    (touched : occurrence.event.touches sandbox = true)
    (differs : occurrence.event.publishes sandbox = false) :
    ∃ source previous, ⟨source, .published sandbox endpoint previous⟩ ∈ middle := by
  obtain ⟨gap, source, previous, before, same, apart⟩ := last
  rcases place_cases same with ⟨-, rfl, -⟩ | ⟨between, rfl, -⟩ | ⟨between, rfl, -⟩
  · simp [Event.publishes] at differs
  · exact ⟨source, previous, by simp⟩
  · have untouched := apart occurrence (by simp)
    rw [touched] at untouched
    cases untouched

variable {moves : List Move} {s : System} {newer earlier : List Occurrence} {id : Nat}

/-- A call publishes the address of its own machine and the port of its own coordinator. -/
theorem author_of_published {sandbox : String} {endpoint : Endpoint} {previous : Option Endpoint}
    (reached : empty.run moves = some s)
    (split : s.history = newer ++ ⟨some id, .published sandbox endpoint previous⟩ :: earlier) :
    ∃ coordinator request vm, .create id coordinator request ∈ moves ∧
      Role.classify request.containerName = .workload ∧ request.sandbox = sandbox ∧
        endpoint = ⟨vm.address, coordinator.settings.guestPort⟩ ∧
          ⟨some id, .answered (.booted (.ok vm))⟩ ∈ earlier := by
  obtain ⟨created, role, settings, asks, story, takes, authored⟩ :=
    workload_author reached split rfl
  have added := authored.mem
  cases takes with
  | @booted vm stage done entries =>
      obtain ⟨rfl, rfl, rfl⟩ := Event.published.inj (List.mem_singleton.1 added)
      refine ⟨_, _, vm, created, role, ?_, ?_, ?_⟩
      · rw [← asks]
        rfl
      · rw [← settings]
      · exact authored.older (mem_trail.1 (story.booted_mem done))
  | _ => simp at added

/-- A direct publication is a move of the run. -/
theorem move_of_published {sandbox : String} {endpoint : Endpoint} {previous : Option Endpoint}
    (reached : empty.run moves = some s)
    (split : s.history = newer ++ ⟨none, .published sandbox endpoint previous⟩ :: earlier) :
    .publish sandbox endpoint ∈ moves := by
  obtain ⟨prior, move, stores, member, accesses⟩ := exists_access reached split
  cases accesses with
  | publish => exact member

/-- A sidecar asks for its container with the endpoint that it took before. -/
theorem author_of_sidecar {coordinator : Coordinator} {request forwarded : CreateRequest}
    (reached : empty.run moves = some s) (created : .create id coordinator request ∈ moves)
    (role : Role.classify request.containerName = .sidecar)
    (split : s.history = newer ++ ⟨some id, .asked (.create forwarded)⟩ :: earlier) :
    ∃ endpoint between before,
      earlier = between ++ ⟨some id, .taken request.sandbox (some endpoint)⟩ :: before ∧
        forwarded = Relay.wire request endpoint := by
  cases exists_later_author reached split (by simp) (by simp) with
  | workload opened workload settings asks extracted story takes authored =>
      obtain ⟨-, -, rfl⟩ := Move.create.inj (origin_unique reached opened rfl created rfl)
      rw [role] at workload
      cases workload
  | @relay prior _ _ r _ opened asks story takes authored =>
      obtain ⟨-, -, rfl⟩ := Move.create.inj (origin_unique reached opened rfl created rfl)
      have added := authored.mem
      cases takes with
      | @forwarded endpoint stage =>
          obtain rfl := Request.create.inj (Event.asked.inj (List.mem_singleton.1 added))
          obtain ⟨brings, told⟩ := story.of_forwarding stage
          rw [role] at brings
          cases endpoint with
          | none => cases brings
          | some endpoint =>
              have taken : .taken r.request.sandbox (some endpoint) ∈ prior.trail id := by
                rw [told]
                exact List.mem_singleton_self _
              obtain ⟨between, before, same⟩ :=
                List.append_of_mem (authored.older (mem_trail.1 taken))
              rw [asks] at same
              exact ⟨endpoint, between, before, same, by rw [asks]; rfl⟩
      | _ => simp at added
  | removal removed asks story takes authored =>
      have added := authored.mem
      cases takes <;> simp at added

/-- A sidecar that met no endpoint has failed and asked for nothing. -/
theorem trail_of_missed {coordinator : Coordinator} {request : CreateRequest} {sandbox : String}
    (reached : empty.run moves = some s) (created : .create id coordinator request ∈ moves)
    (met : .taken sandbox none ∈ s.trail id) :
    s.trail id = [.taken request.sandbox none,
      .finished (.created (.error (.noEndpoint request.sandbox)))] := by
  obtain ⟨call, -, story⟩ := story_of_mem reached created rfl
  generalize s.trail id = trail at met story
  cases story with
  | workload role settings asks extracted story =>
      have deed := mem_deeds met rfl
      have course := story.course
      generalize deeds trail = events at deed course
      cases course <;> simp [Workload.publication] at deed
  | refusal role extracted => simp at met
  | relay asks story =>
      subst asks
      cases story with
      | taking => cases met
      | forwarding endpoint => cases endpoint <;> simp [Relay.prelude] at met
      | @awaiting endpoint => cases endpoint <;> simp [Relay.prelude] at met
      | @answered endpoint => cases endpoint <;> simp [Relay.prelude] at met
      | missed => rfl

/-- The ways of the publications for one sandbox. -/
structure Delivered (moves : List Move) (s : System) (sandbox : String) : Prop where
  /-- Every publication is overwritten, taken, forgotten or still there. -/
  conserved : tally (·.publishes sandbox) s.history =
    tally (·.overwrites sandbox) s.history + tally (·.delivers sandbox) s.history +
      tally (·.discards sandbox) s.history +
        if s.stores.endpoints.contains sandbox then 1 else 0
  /-- Each of the three ends is the end of the last publication, untouched until then. -/
  ended : ∀ newer occurrence earlier, s.history = newer ++ occurrence :: earlier →
    occurrence.event.ends sandbox = true → ∃ endpoint, LastPublished sandbox endpoint earlier
  /-- A take hands out the last publication, untouched until then. -/
  taken : ∀ newer source endpoint earlier,
    s.history = newer ++ ⟨source, .taken sandbox (some endpoint)⟩ :: earlier →
      LastPublished sandbox endpoint earlier
  /-- No two takes share a publication. -/
  apart : ∀ newer later second middle sooner first older,
    s.history = newer ++ ⟨later, .taken sandbox (some second)⟩ ::
      (middle ++ ⟨sooner, .taken sandbox (some first)⟩ :: older) →
        ∃ source previous, ⟨source, .published sandbox second previous⟩ ∈ middle
  /-- A sidecar that reaches the stock runtime brings the last publication when it took it. -/
  wired : ∀ id coordinator request forwarded newer earlier,
    .create id coordinator request ∈ moves →
      Role.classify request.containerName = .sidecar → request.sandbox = sandbox →
        s.history = newer ++ ⟨some id, .asked (.create forwarded)⟩ :: earlier →
          ∃ endpoint between before,
            earlier = between ++ ⟨some id, .taken sandbox (some endpoint)⟩ :: before ∧
              LastPublished sandbox endpoint before ∧
                forwarded = { request with config := { request.config with
                  environment := request.config.environment ++
                    [⟨Contract.addressVariable, endpoint.address⟩,
                      ⟨Contract.portVariable, toString endpoint.port.toNat⟩] } }
  /-- A sidecar that takes nothing fails and asks for nothing. -/
  missed : ∀ id coordinator request, .create id coordinator request ∈ moves →
    .taken sandbox none ∈ s.trail id →
      s.trail id = [.taken sandbox none, .finished (.created (.error (.noEndpoint sandbox)))]
  /-- A workload publishes its booted machine and the port of its own coordinator. -/
  authored : ∀ id endpoint previous newer earlier,
    s.history = newer ++ ⟨some id, .published sandbox endpoint previous⟩ :: earlier →
      ∃ coordinator request vm, .create id coordinator request ∈ moves ∧
        Role.classify request.containerName = .workload ∧ request.sandbox = sandbox ∧
          endpoint = ⟨vm.address, coordinator.settings.guestPort⟩ ∧
            ⟨some id, .answered (.booted (.ok vm))⟩ ∈ earlier
  /-- All other publications are direct. -/
  direct : ∀ endpoint previous, ⟨none, .published sandbox endpoint previous⟩ ∈ s.history →
    .publish sandbox endpoint ∈ moves

/-- In every run the endpoint of a machine is delivered to one sidecar at most. -/
theorem endpoint_delivered_once (reached : empty.run moves = some s) (sandbox : String) :
    Delivered moves s sandbox where
  conserved := by
    obtain ⟨played, truthful⟩ := replay_history reached
    have balance := tally_publishes truthful sandbox
    rw [played] at balance
    exact balance
  ended newer occurrence earlier split :=
    lastPublished_of_ends (split ▸ truthful_history reached)
  taken newer source endpoint earlier split :=
    lastPublished_of_taken (split ▸ truthful_history reached)
  apart newer later second middle sooner first older split := by
    have last : LastPublished sandbox second
        (middle ++ ⟨sooner, .taken sandbox (some first)⟩ :: older) :=
      lastPublished_of_taken (split ▸ truthful_history reached)
    exact last.mem_of_touched (by simp [Event.touches]) rfl
  wired id coordinator request forwarded newer earlier created role asks split := by
    subst asks
    obtain ⟨endpoint, between, before, rfl, rfl⟩ :=
      author_of_sidecar reached created role split
    refine ⟨endpoint, between, before, rfl, ?_, ?_⟩
    · have truthful := truthful_history reached
      rw [split] at truthful
      exact lastPublished_of_taken (truthful.of_append.2)
    · exact Relay.wire_eq request endpoint
  missed id coordinator request created met := by
    have told := trail_of_missed reached created met
    rw [told] at met
    obtain rfl : sandbox = request.sandbox := by simpa using met
    exact told
  authored id endpoint previous newer earlier split := author_of_published reached split
  direct endpoint previous member := by
    obtain ⟨newer, earlier, split⟩ := List.append_of_mem member
    exact move_of_published reached split

/-- Two workloads publish for one sandbox, and two sidecars come for it. -/
def handover : List Move :=
  Sample.started 0 false "pod" ++ Sample.started 1 false "pod" ++
    [.receive 0 (.booted (.ok (Sample.machine "vm-1" "10.0.0.2"))), .proceed 0,
      .receive 1 (.booted (.ok (Sample.machine "vm-2" "10.0.0.3"))), .proceed 1,
      .create 2 (Sample.coordinator false) (Sample.sidecar "pod"),
      .create 3 (Sample.coordinator false) (Sample.sidecar "pod"),
      .proceed 3, .proceed 3, .proceed 2]

theorem endpoint_delivered_once_handover :
    ∃ s, empty.run handover = some s ∧ tally (·.publishes "pod") s.history = 2 ∧
      tally (·.delivers "pod") s.history = 1 ∧ Delivered handover s "pod" := by
  have counts : (empty.run handover).map (fun s =>
      (tally (·.publishes "pod") s.history, tally (·.delivers "pod") s.history)) =
        some (2, 1) := by decide
  obtain ⟨s, reached, same⟩ := Option.map_eq_some_iff.1 counts
  obtain ⟨published, delivered⟩ := Prod.mk.inj same
  exact ⟨s, reached, published, delivered, endpoint_delivered_once reached "pod"⟩

end System

end GuestPod
