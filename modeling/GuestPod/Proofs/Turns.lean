/-
This file lists the turns of each call.  All arguments about calls go by these cases.
-/

import GuestPod.Coordinator.System

namespace GuestPod

/-- A task that has failed leaves an error behind. -/
def Outcome.failure? {α : Type} (task : String) : Outcome α → Option Error
  | .ok _ => none
  | .error e => some e
  | .panic text => some (.taskFailed task (Workload.panicReason text))

namespace Stores

theorem register_free {stores : Stores} {container : String}
    (free : stores.vms.get? container = none) (vm : Vm) :
    stores.register container vm = (.ok (), .registered container vm true,
      { stores with vms := stores.vms.put container vm }) := by
  simp [register, VmRegistry.register, Table.contains, free]

/-- A container that is registered already is refused. -/
theorem register_taken {stores : Stores} {container : String} {holder : Vm}
    (taken : stores.vms.get? container = some holder) (vm : Vm) :
    stores.register container vm =
      (.error (.alreadyRegistered container), .registered container vm false, stores) := by
  simp [register, VmRegistry.register, Table.contains, taken]

end Stores

namespace Workload

/-- The turns of a workload.  Each one names the stage that allows it. -/
inductive Takes (w : Workload) (stores : Stores) : Turn Workload → Prop where
  | placeholderStarted (ready : w.placeholder = .ready) :
      Takes w stores
        ⟨{ w with placeholder := .running }, stores, [.asked (.create w.request)], []⟩
  | bootStarted (ready : w.machine = .ready) :
      Takes w stores ⟨{ w with machine := .running }, stores, [.asked (.boot w.boot)], []⟩
  | placeholderAnswered (running : w.placeholder = .running) (outcome : Outcome CreateResponse) :
      Takes w stores
        ⟨{ w with placeholder := .done outcome }, stores, [.answered (.created outcome)], []⟩
  | bootAnswered (running : w.machine = .running) (outcome : Outcome Vm) :
      Takes w stores
        ⟨{ w with machine := .done outcome }, stores, [.answered (.booted outcome)], []⟩
  | booted {vm : Vm} (stage : w.stage = .awaitingBoot) (done : w.machine = .done (.ok vm))
      (entries : List Log.Entry) :
      Takes w stores
        ⟨{ w with stage := .awaitingPlaceholder vm },
          { stores with
            endpoints := stores.endpoints.put w.sandbox ⟨vm.address, w.settings.guestPort⟩ },
          [.published w.sandbox ⟨vm.address, w.settings.guestPort⟩
            (stores.endpoints.get? w.sandbox)], entries⟩
  | bootFailed {outcome : Outcome Vm} {error : Error} (stage : w.stage = .awaitingBoot)
      (done : w.machine = .done outcome) (failed : outcome.failure? "VM boot" = some error)
      (entries : List Log.Entry) :
      Takes w stores
        ⟨{ w with stage := .finished (.error error) }, stores,
          [.finished (.created (.error error))], entries⟩
  | registered {vm : Vm} {response : CreateResponse}
      (stage : w.stage = .awaitingPlaceholder vm) (done : w.placeholder = .done (.ok response))
      (free : stores.vms.get? response.container = none) (entries : List Log.Entry) :
      Takes w stores
        ⟨{ w with stage := .finished (.ok response) },
          { stores with vms := stores.vms.put response.container vm },
          [.registered response.container vm true, .finished (.created (.ok response))], entries⟩
  | refused {vm holder : Vm} {response : CreateResponse}
      (stage : w.stage = .awaitingPlaceholder vm) (done : w.placeholder = .done (.ok response))
      (taken : stores.vms.get? response.container = some holder) (entries : List Log.Entry) :
      Takes w stores
        ⟨{ w with stage := .finished (.error (.alreadyRegistered response.container)) }, stores,
          [.registered response.container vm false,
            .finished (.created (.error (.alreadyRegistered response.container)))], entries⟩
  | orphanLeft {vm : Vm} {outcome : Outcome CreateResponse} {error : Error}
      (stage : w.stage = .awaitingPlaceholder vm) (done : w.placeholder = .done outcome)
      (failed : outcome.failure? "placeholder container" = some error)
      (lenient : w.settings.reapOrphanedVms = false) (entries : List Log.Entry) :
      Takes w stores
        ⟨{ w with stage := .finished (.error error) }, stores,
          [.finished (.created (.error error))], entries⟩
  | orphanReaped {vm : Vm} {outcome : Outcome CreateResponse} {error : Error}
      (stage : w.stage = .awaitingPlaceholder vm) (done : w.placeholder = .done outcome)
      (failed : outcome.failure? "placeholder container" = some error)
      (strict : w.settings.reapOrphanedVms = true) (entries : List Log.Entry) :
      Takes w stores
        ⟨{ w with stage := .reaping vm error }, stores, [.asked (.stop vm)], entries⟩
  | released {vm : Vm} {error : Error} (stage : w.stage = .reaping vm error)
      {outcome : Outcome Unit} (calm : ∀ text, outcome ≠ .panic text)
      (entries : List Log.Entry) :
      Takes w stores
        ⟨{ w with stage := .finished (.error error) }, stores,
          [.answered (.stopped outcome), .finished (.created (.error error))], entries⟩
  | interrupted {vm : Vm} {error : Error} (stage : w.stage = .reaping vm error) (text : String) :
      Takes w stores
        ⟨{ w with stage := .finished (.panic text) }, stores,
          [.answered (.stopped (.panic text)), .finished (.created (.panic text))], []⟩

variable {w : Workload} {stores : Stores}

theorem afterBoot_takes {outcome : Outcome Vm} (stage : w.stage = .awaitingBoot)
    (done : w.machine = .done outcome) : w.Takes stores (w.afterBoot stores outcome) := by
  cases outcome with
  | ok vm => exact .booted stage done _
  | error e => exact .bootFailed stage done rfl _
  | panic text => exact .bootFailed stage done rfl _

theorem release_takes {vm : Vm} {outcome : Outcome CreateResponse} {error : Error}
    (stage : w.stage = .awaitingPlaceholder vm) (done : w.placeholder = .done outcome)
    (failed : outcome.failure? "placeholder container" = some error)
    (entries : List Log.Entry) : w.Takes stores (w.release stores vm error entries) := by
  unfold release
  split
  · next strict => exact .orphanReaped stage done failed strict _
  · next lenient => exact .orphanLeft stage done failed (by simpa using lenient) _

theorem afterPlaceholder_takes {vm : Vm} {outcome : Outcome CreateResponse}
    (stage : w.stage = .awaitingPlaceholder vm) (done : w.placeholder = .done outcome) :
    w.Takes stores (w.afterPlaceholder stores vm outcome) := by
  cases outcome with
  | ok response =>
      cases found : stores.vms.get? response.container with
      | none =>
          simp only [afterPlaceholder, Stores.register_free found]
          exact .registered stage done found _
      | some holder =>
          simp only [afterPlaceholder, Stores.register_taken found]
          exact .refused stage done found _
  | error e => exact release_takes stage done rfl _
  | panic text => exact release_takes stage done rfl _

theorem afterReaping_takes {vm : Vm} {error : Error} (stage : w.stage = .reaping vm error)
    (outcome : Outcome Unit) : w.Takes stores (w.afterReaping stores vm error outcome) := by
  cases outcome with
  | ok value => exact .released stage (by simp) _
  | error e => exact .released stage (by simp) _
  | panic text => exact .interrupted stage text

theorem proceed_takes {turn : Turn Workload} (turned : w.proceed stores = some turn) :
    w.Takes stores turn := by
  unfold proceed at turned
  split at turned
  · next stage =>
      split at turned
      · next done =>
          cases turned
          exact afterBoot_takes stage done
      · cases turned
  · next stage =>
      split at turned
      · next done =>
          cases turned
          exact afterPlaceholder_takes stage done
      · cases turned
  · cases turned

theorem startPlaceholder_takes {turn : Turn Workload}
    (turned : w.startPlaceholder stores = some turn) : w.Takes stores turn := by
  unfold startPlaceholder at turned
  split at turned
  · next ready =>
      cases turned
      exact .placeholderStarted ready
  · cases turned

theorem startBoot_takes {turn : Turn Workload} (turned : w.startBoot stores = some turn) :
    w.Takes stores turn := by
  unfold startBoot at turned
  split at turned
  · next ready =>
      cases turned
      exact .bootStarted ready
  · cases turned

theorem receive_takes {reply : Reply} {turn : Turn Workload}
    (turned : w.receive stores reply = some turn) : w.Takes stores turn := by
  unfold receive at turned
  split at turned
  · split at turned
    · next running =>
        cases turned
        exact .placeholderAnswered running _
    · cases turned
  · split at turned
    · next running =>
        cases turned
        exact .bootAnswered running _
    · cases turned
  · split at turned
    · next stage =>
        cases turned
        exact afterReaping_takes stage _
    · cases turned
  · cases turned

end Workload

namespace Relay

/-- The turns of a creation that is passed on. -/
inductive Takes (r : Relay) (stores : Stores) : Turn Relay → Prop where
  | taken {endpoint : Endpoint} (stage : r.stage = .taking)
      (present : stores.endpoints.get? r.request.sandbox = some endpoint)
      (entries : List Log.Entry) :
      Takes r stores
        ⟨{ r with stage := .forwarding (some endpoint) },
          { stores with endpoints := stores.endpoints.remove r.request.sandbox },
          [.taken r.request.sandbox (some endpoint)], entries⟩
  | missed (stage : r.stage = .taking)
      (absent : stores.endpoints.get? r.request.sandbox = none) (entries : List Log.Entry) :
      Takes r stores
        ⟨{ r with stage := .finished (.error (.noEndpoint r.request.sandbox)) },
          { stores with endpoints := stores.endpoints.remove r.request.sandbox },
          [.taken r.request.sandbox none,
            .finished (.created (.error (.noEndpoint r.request.sandbox)))], entries⟩
  | forwarded {endpoint : Option Endpoint} (stage : r.stage = .forwarding endpoint) :
      Takes r stores
        ⟨{ r with stage := .awaiting endpoint }, stores,
          [.asked (.create (Relay.forwarded r.request endpoint))], []⟩
  | answered {endpoint : Option Endpoint} (stage : r.stage = .awaiting endpoint)
      (outcome : Outcome CreateResponse) (entries : List Log.Entry) :
      Takes r stores
        ⟨{ r with stage := .finished outcome }, stores,
          [.answered (.created outcome), .finished (.created outcome)], entries⟩

variable {r : Relay} {stores : Stores}

theorem take_takes (stage : r.stage = .taking) : r.Takes stores (r.take stores) := by
  cases found : stores.endpoints.get? r.request.sandbox with
  | none =>
      simp only [take, Stores.take, EndpointStore.take, found]
      exact .missed stage found _
  | some endpoint =>
      simp only [take, Stores.take, EndpointStore.take, found]
      exact .taken stage found _

theorem proceed_takes {turn : Turn Relay} (turned : r.proceed stores = some turn) :
    r.Takes stores turn := by
  unfold proceed at turned
  split at turned
  · next stage =>
      cases turned
      exact take_takes stage
  · next stage =>
      cases turned
      exact .forwarded stage
  · cases turned

theorem receive_takes {reply : Reply} {turn : Turn Relay}
    (turned : r.receive stores reply = some turn) : r.Takes stores turn := by
  unfold receive at turned
  split at turned
  · split at turned
    · next stage =>
        cases turned
        exact .answered stage _ _
    · cases turned
  · cases turned

end Relay

namespace Removal

/-- The turns of a removal. -/
inductive Takes (r : Removal) (stores : Stores) : Turn Removal → Prop where
  | found {vm : Vm} (stage : r.stage = .finding)
      (present : stores.vms.get? r.container = some vm) :
      Takes r stores
        ⟨{ r with stage := .stopping vm }, stores, [.found r.container (some vm)], []⟩
  | missed (stage : r.stage = .finding) (absent : stores.vms.get? r.container = none) :
      Takes r stores ⟨{ r with stage := .removing }, stores, [.found r.container none], []⟩
  | stopAsked {vm : Vm} (stage : r.stage = .stopping vm) :
      Takes r stores ⟨{ r with stage := .awaitingStop vm }, stores, [.asked (.stop vm)], []⟩
  | stopped {vm : Vm} (stage : r.stage = .awaitingStop vm) :
      Takes r stores
        ⟨{ r with stage := .dropping vm }, stores, [.answered (.stopped (.ok ()))], []⟩
  | stopFailed {vm : Vm} (stage : r.stage = .awaitingStop vm) {outcome : Outcome Unit}
      (failed : outcome ≠ .ok ()) (entries : List Log.Entry) :
      Takes r stores
        ⟨{ r with stage := .finished outcome }, stores,
          [.answered (.stopped outcome), .finished (.removed outcome)], entries⟩
  | dropped {vm : Vm} (stage : r.stage = .dropping vm) (entries : List Log.Entry) :
      Takes r stores
        ⟨{ r with stage := .removing }, { stores with vms := stores.vms.remove r.container },
          [.dropped r.container (stores.vms.get? r.container)], entries⟩
  | removalAsked (stage : r.stage = .removing) :
      Takes r stores
        ⟨{ r with stage := .awaitingRemoval }, stores, [.asked (.remove r.request)], []⟩
  | removed (stage : r.stage = .awaitingRemoval) (outcome : Outcome Unit) :
      Takes r stores
        ⟨{ r with stage := .finished outcome }, stores,
          [.answered (.removed outcome), .finished (.removed outcome)], []⟩

variable {r : Removal} {stores : Stores}

theorem find_takes (stage : r.stage = .finding) : r.Takes stores (r.find stores) := by
  cases found : stores.vms.get? r.container with
  | none =>
      simp only [find, Stores.find, found]
      exact .missed stage found
  | some vm =>
      simp only [find, Stores.find, found]
      exact .found stage found

theorem afterStop_takes {vm : Vm} (stage : r.stage = .awaitingStop vm)
    (outcome : Outcome Unit) : r.Takes stores (r.afterStop vm stores outcome) := by
  cases outcome with
  | ok value => exact .stopped stage
  | error e => exact .stopFailed stage (by simp) _
  | panic text => exact .stopFailed stage (by simp) _

theorem proceed_takes {turn : Turn Removal} (turned : r.proceed stores = some turn) :
    r.Takes stores turn := by
  unfold proceed at turned
  split at turned
  · next stage =>
      cases turned
      exact find_takes stage
  · next stage =>
      cases turned
      exact .stopAsked stage
  · next stage =>
      cases turned
      exact .dropped stage _
  · next stage =>
      cases turned
      exact .removalAsked stage
  · cases turned

theorem receive_takes {reply : Reply} {turn : Turn Removal}
    (turned : r.receive stores reply = some turn) : r.Takes stores turn := by
  unfold receive at turned
  split at turned
  · split at turned
    · next stage =>
        cases turned
        exact afterStop_takes stage _
    · cases turned
  · split at turned
    · next stage =>
        cases turned
        exact .removed stage _
    · cases turned
  · cases turned

end Removal

namespace Call

/-- A call takes the turns of its kind. -/
inductive Takes (stores : Stores) : Call → Turn Call → Prop where
  | workload {w : Workload} {turn : Turn Workload} (takes : w.Takes stores turn) :
      Takes stores (.workload w) (turn.map .workload)
  | relay {r : Relay} {turn : Turn Relay} (takes : r.Takes stores turn) :
      Takes stores (.relay r) (turn.map .relay)
  | removal {r : Removal} {turn : Turn Removal} (takes : r.Takes stores turn) :
      Takes stores (.removal r) (turn.map .removal)

variable {call : Call} {stores : Stores} {turn : Turn Call}

theorem proceed_takes (turned : call.proceed stores = some turn) :
    Takes stores call turn := by
  cases call with
  | workload w =>
      obtain ⟨inner, taken, rfl⟩ := Option.map_eq_some_iff.1 turned
      exact .workload (Workload.proceed_takes taken)
  | relay r =>
      obtain ⟨inner, taken, rfl⟩ := Option.map_eq_some_iff.1 turned
      exact .relay (Relay.proceed_takes taken)
  | removal r =>
      obtain ⟨inner, taken, rfl⟩ := Option.map_eq_some_iff.1 turned
      exact .removal (Removal.proceed_takes taken)
  | refusal request error => cases turned
  | forgetting sandbox present => cases turned

theorem startPlaceholder_takes (turned : call.startPlaceholder stores = some turn) :
    Takes stores call turn := by
  cases call with
  | workload w =>
      obtain ⟨inner, taken, rfl⟩ := Option.map_eq_some_iff.1 turned
      exact .workload (Workload.startPlaceholder_takes taken)
  | relay r => cases turned
  | removal r => cases turned
  | refusal request error => cases turned
  | forgetting sandbox present => cases turned

theorem startBoot_takes (turned : call.startBoot stores = some turn) :
    Takes stores call turn := by
  cases call with
  | workload w =>
      obtain ⟨inner, taken, rfl⟩ := Option.map_eq_some_iff.1 turned
      exact .workload (Workload.startBoot_takes taken)
  | relay r => cases turned
  | removal r => cases turned
  | refusal request error => cases turned
  | forgetting sandbox present => cases turned

theorem receive_takes {reply : Reply} (turned : call.receive reply stores = some turn) :
    Takes stores call turn := by
  cases call with
  | workload w =>
      obtain ⟨inner, taken, rfl⟩ := Option.map_eq_some_iff.1 turned
      exact .workload (Workload.receive_takes taken)
  | relay r =>
      obtain ⟨inner, taken, rfl⟩ := Option.map_eq_some_iff.1 turned
      exact .relay (Relay.receive_takes taken)
  | removal r =>
      obtain ⟨inner, taken, rfl⟩ := Option.map_eq_some_iff.1 turned
      exact .removal (Removal.receive_takes taken)
  | refusal request error => cases turned
  | forgetting sandbox present => cases turned

end Call

end GuestPod
