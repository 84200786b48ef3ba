/-
This file joins the two tasks of a workload.  What the call comes to depends on the outcomes of
its boot and of its placeholder, never on their order.
-/

import GuestPod.Proofs.Author
import GuestPod.Proofs.Replay

namespace GuestPod

namespace Workload

namespace Story

variable {w : Workload} {trail : List Event}

/-- The answer to the boot is in the trail exactly when the boot task is done with it. -/
theorem booted_iff (story : w.Story trail) (outcome : Outcome Vm) :
    .answered (.booted outcome) ∈ trail ↔ w.machine = .done outcome := by
  constructor
  · intro member
    have told := story.machine
    have inside : .answered (.booted outcome) ∈ dialogue .boot trail := mem_dialogue member rfl
    rw [told] at inside
    cases machine : w.machine with
    | ready => simp [machine, Task.dialogue] at inside
    | running => simp [machine, Task.dialogue] at inside
    | done known => simpa [machine, Task.dialogue, eq_comm] using inside
  · exact story.booted_mem

/-- The answer to the placeholder is in the trail exactly when its task is done with it. -/
theorem created_iff (story : w.Story trail) (outcome : Outcome CreateResponse) :
    .answered (.created outcome) ∈ trail ↔ w.placeholder = .done outcome := by
  constructor
  · intro member
    have told := story.placeholder
    have inside : .answered (.created outcome) ∈ dialogue .create trail := mem_dialogue member rfl
    rw [told] at inside
    cases placeholder : w.placeholder with
    | ready => simp [placeholder, Task.dialogue] at inside
    | running => simp [placeholder, Task.dialogue] at inside
    | done known => simpa [placeholder, Task.dialogue, eq_comm] using inside
  · exact story.created_mem

end Story

namespace Course

variable {w : Workload} {events : List Event} {outcome : Outcome CreateResponse}

/-- A finished workload has waited for its boot. -/
theorem machine_of_finished (course : w.Course events) (stage : w.stage = .finished outcome) :
    ∃ machine, w.machine = .done machine := by
  cases course <;> simp_all

/-- A finished workload with a machine has waited for its placeholder too. -/
theorem placeholder_of_finished (course : w.Course events)
    (stage : w.stage = .finished outcome) {vm : Vm} (booted : w.machine = .done (.ok vm)) :
    ∃ placeholder, w.placeholder = .done placeholder := by
  cases course <;> simp_all [Outcome.failure?]

/-- A finished workload with a machine has published it once, and first of all. -/
theorem of_booted (course : w.Course events) (stage : w.stage = .finished outcome) {vm : Vm}
    (booted : w.machine = .done (.ok vm)) :
    ∃ previous rest, events = w.publication vm previous :: rest ∧
      ∀ event ∈ rest, ∀ sandbox endpoint older, event ≠ .published sandbox endpoint older := by
  cases course with
  | waiting here => cases stage.symm.trans here
  | published here => cases stage.symm.trans here
  | reaping here => cases stage.symm.trans here
  | bootFailed here known reason =>
      obtain rfl := Task.done.inj (booted.symm.trans known)
      cases reason
  | registered here known created previous =>
      obtain rfl := Outcome.ok.inj (Task.done.inj (booted.symm.trans known))
      exact ⟨previous, _, rfl, by simp⟩
  | refused here known created previous =>
      obtain rfl := Outcome.ok.inj (Task.done.inj (booted.symm.trans known))
      exact ⟨previous, _, rfl, by simp⟩
  | orphanLeft here known answered reason lenient previous =>
      obtain rfl := Outcome.ok.inj (Task.done.inj (booted.symm.trans known))
      exact ⟨previous, _, rfl, by simp⟩
  | released here known answered reason strict quiet previous =>
      obtain rfl := Outcome.ok.inj (Task.done.inj (booted.symm.trans known))
      exact ⟨previous, _, rfl, by simp⟩
  | interrupted here known answered reason strict previous =>
      obtain rfl := Outcome.ok.inj (Task.done.inj (booted.symm.trans known))
      exact ⟨previous, _, rfl, by simp⟩

/-- A failed boot ends the call with its error. -/
theorem of_bootFailed (course : w.Course events) (stage : w.stage = .finished outcome)
    {machine : Outcome Vm} {error : Error} (done : w.machine = .done machine)
    (failed : machine.failure? "VM boot" = some error) :
    outcome = .error error ∧ events = [.finished (.created (.error error))] := by
  have broken : ∀ vm, w.machine ≠ .done (.ok vm) := by
    intro vm booted
    obtain rfl := Task.done.inj (done.symm.trans booted)
    cases failed
  cases course with
  | bootFailed here known reason =>
      obtain rfl := Task.done.inj (done.symm.trans known)
      obtain rfl := Option.some.inj (failed.symm.trans reason)
      exact ⟨Stage.finished.inj (stage.symm.trans here), rfl⟩
  | waiting here => cases stage.symm.trans here
  | published here => cases stage.symm.trans here
  | reaping here => cases stage.symm.trans here
  | registered here booted => exact absurd booted (broken _)
  | refused here booted => exact absurd booted (broken _)
  | orphanLeft here booted => exact absurd booted (broken _)
  | released here booted => exact absurd booted (broken _)
  | interrupted here booted => exact absurd booted (broken _)

/-- A failed placeholder ends the call with its error, and the machine is stopped if wanted. -/
theorem of_placeholderFailed (course : w.Course events) (stage : w.stage = .finished outcome)
    (calm : ∀ text, .answered (.stopped (.panic text)) ∉ events) {vm : Vm}
    {placeholder : Outcome CreateResponse} {error : Error} (booted : w.machine = .done (.ok vm))
    (done : w.placeholder = .done placeholder)
    (failed : placeholder.failure? "placeholder container" = some error) :
    outcome = .error error ∧ ∃ previous stop, events = w.publication vm previous ::
      (if w.settings.reapOrphanedVms then [.asked (.stop vm), .answered (.stopped stop)] else []) ++
        [.finished (.created outcome)] := by
  have broken : ∀ response, w.placeholder ≠ .done (.ok response) := by
    intro response created
    obtain rfl := Task.done.inj (done.symm.trans created)
    cases failed
  cases course with
  | orphanLeft here known stopped reason lenient previous =>
      obtain rfl := Outcome.ok.inj (Task.done.inj (booted.symm.trans known))
      obtain rfl := Task.done.inj (done.symm.trans stopped)
      obtain rfl := Option.some.inj (failed.symm.trans reason)
      obtain rfl := Stage.finished.inj (stage.symm.trans here)
      exact ⟨rfl, previous, .ok (), by simp [lenient]⟩
  | @released _ _ _ here known stopped reason strict stop quiet previous =>
      obtain rfl := Outcome.ok.inj (Task.done.inj (booted.symm.trans known))
      obtain rfl := Task.done.inj (done.symm.trans stopped)
      obtain rfl := Option.some.inj (failed.symm.trans reason)
      obtain rfl := Stage.finished.inj (stage.symm.trans here)
      exact ⟨rfl, previous, stop, by simp [strict]⟩
  | @interrupted _ _ _ text => exact absurd (by simp) (calm text)
  | waiting here => cases stage.symm.trans here
  | published here => cases stage.symm.trans here
  | reaping here => cases stage.symm.trans here
  | bootFailed here known reason =>
      obtain rfl := Task.done.inj (booted.symm.trans known)
      cases reason
  | registered here known created => exact absurd created (broken _)
  | refused here known created => exact absurd created (broken _)

/-- A created placeholder leads to a registration, which decides the result. -/
theorem of_placeholderCreated (course : w.Course events)
    (stage : w.stage = .finished outcome) {vm : Vm} {response : CreateResponse}
    (booted : w.machine = .done (.ok vm)) (done : w.placeholder = .done (.ok response)) :
    ∃ previous accepted, events = [w.publication vm previous,
        .registered response.container vm accepted, .finished (.created outcome)] ∧
      outcome = if accepted then .ok response else .error (.alreadyRegistered response.container)
      := by
  cases course with
  | registered here known created previous =>
      obtain rfl := Outcome.ok.inj (Task.done.inj (booted.symm.trans known))
      obtain rfl := Outcome.ok.inj (Task.done.inj (done.symm.trans created))
      obtain rfl := Stage.finished.inj (stage.symm.trans here)
      exact ⟨previous, true, rfl, rfl⟩
  | refused here known created previous =>
      obtain rfl := Outcome.ok.inj (Task.done.inj (booted.symm.trans known))
      obtain rfl := Outcome.ok.inj (Task.done.inj (done.symm.trans created))
      obtain rfl := Stage.finished.inj (stage.symm.trans here)
      exact ⟨previous, false, rfl, rfl⟩
  | waiting here => cases stage.symm.trans here
  | published here => cases stage.symm.trans here
  | reaping here => cases stage.symm.trans here
  | bootFailed here known reason =>
      obtain rfl := Task.done.inj (booted.symm.trans known)
      cases reason
  | orphanLeft here known answered reason =>
      obtain rfl := Task.done.inj (done.symm.trans answered)
      cases reason
  | released here known answered reason =>
      obtain rfl := Task.done.inj (done.symm.trans answered)
      cases reason
  | interrupted here known answered reason =>
      obtain rfl := Task.done.inj (done.symm.trans answered)
      cases reason

end Course

end Workload

/-- Only a workload asks for a boot or hears from it. -/
theorem Call.Story.workload_of_boot {origin : Move} {call : Call} {trail : List Event}
    {event : Event} (story : Call.Story origin call trail) (member : event ∈ trail)
    (own : event.concerns .boot = true) : ∃ w, call = .workload w ∧ w.Story trail := by
  have foreign : ¬∀ other ∈ trail, other.concerns .boot = false := by
    intro silent
    rw [silent event member] at own
    cases own
  simp only [Event.concerns] at foreign
  cases story with
  | workload role settings asks extracted story => exact ⟨_, rfl, story⟩
  | refusal role extracted => simp at foreign
  | relay asks story =>
      cases story with
      | forwarding endpoint => cases endpoint <;> simp [Relay.prelude] at foreign
      | @awaiting endpoint => cases endpoint <;> simp [Relay.prelude, Request.service] at foreign
      | @answered endpoint =>
          cases endpoint <;> simp [Relay.prelude, Request.service, Reply.service] at foreign
      | _ => simp at foreign
  | removal asks story =>
      cases story with
      | removing stage cleared =>
          cases cleared <;> simp [Request.service, Reply.service] at foreign
      | awaitingRemoval stage cleared =>
          cases cleared <;> simp [Request.service, Reply.service] at foreign
      | removed stage cleared =>
          cases cleared <;> simp [Request.service, Reply.service] at foreign
      | _ => simp [Request.service, Reply.service] at foreign
  | forgetting => simp at foreign

namespace System

variable {moves : List Move} {s : System} {id : Nat} {coordinator : Coordinator}
  {request : CreateRequest} {boot : BootRequest} {result : Result}

/-- A call that has heard from its boot is a workload, and the boot is done. -/
theorem workload_of_booted (reached : empty.run moves = some s) {outcome : Outcome Vm}
    (booted : .answered (.booted outcome) ∈ s.trail id) :
    ∃ w, s.calls.get? id = some (.workload w) ∧ w.Story (s.trail id) ∧
      w.machine = .done outcome := by
  obtain ⟨origin, -, member, number, -⟩ := story_of_event reached booted
  obtain ⟨call, present, story⟩ := story_of_mem reached member number
  obtain ⟨w, rfl, told⟩ := story.workload_of_boot booted rfl
  exact ⟨w, present, told, (told.booted_iff outcome).1 booted⟩

/-- A boot has one outcome. -/
theorem booted_unique (reached : empty.run moves = some s) {first second : Outcome Vm}
    (one : .answered (.booted first) ∈ s.trail id)
    (other : .answered (.booted second) ∈ s.trail id) : first = second := by
  obtain ⟨w, present, -, machine⟩ := workload_of_booted reached one
  obtain ⟨same, there, -, again⟩ := workload_of_booted reached other
  obtain rfl := Call.workload.inj (Option.some.inj (present.symm.trans there))
  exact Task.done.inj (machine.symm.trans again)

/-- A finished workload keeps the story of its two tasks. -/
theorem workload_of_finished (reached : empty.run moves = some s)
    (created : .create id coordinator request ∈ moves)
    (role : Role.classify request.containerName = .workload)
    (extracted : Launch.extract request.config coordinator.settings = .ok boot)
    (finished : .finished result ∈ s.trail id) :
    ∃ (w : Workload) (outcome : Outcome CreateResponse), w.settings = coordinator.settings ∧
      w.request = request ∧ w.boot = boot ∧ w.Story (s.trail id) ∧
        w.stage = .finished outcome ∧ result = .created outcome := by
  obtain ⟨call, present, told⟩ := story_of_mem reached created rfl
  have known := (told.finished_iff result).1 finished
  generalize s.trail id = trail at told ⊢
  cases told with
  | @workload _ _ _ w _ workload settings asks extraction story =>
      obtain rfl := Except.ok.inj (extraction.symm.trans extracted)
      cases stage : w.stage with
      | finished outcome =>
          have same : some (Result.created outcome) = some result := by
            simpa [Call.result?, stage] using known
          exact ⟨w, outcome, settings, asks, rfl, story, stage, (Option.some.inj same).symm⟩
      | _ => simp [Call.result?, stage] at known
  | refusal workload extraction => cases extraction.symm.trans extracted
  | relay asks story => exact absurd role story.not_workload

/-- The step at which a call publishes an endpoint. -/
structure Publication (moves : List Move) (id : Nat) (sandbox : String) (endpoint : Endpoint)
    (previous : Option Endpoint) (prior next : System) : Prop where
  step : Paces moves id prior next
  told : next.history = ⟨some id, .published sandbox endpoint previous⟩ :: prior.history
  met : previous = prior.stores.endpoints.get? sandbox
  stored : next.stores.endpoints.get? sandbox = some endpoint
  others : ∀ other, other ≠ sandbox →
    next.stores.endpoints.get? other = prior.stores.endpoints.get? other
  vms : next.stores.vms = prior.stores.vms

/-- The step at which a call registers a machine or is refused, which is its last.  The machine is
registered exactly when its container is free. -/
structure Registration (moves : List Move) (id : Nat) (container : String) (vm : Vm)
    (accepted : Bool) (result : Result) (prior next : System) : Prop where
  step : Paces moves id prior next
  told : next.history = ⟨some id, .finished result⟩ ::
    ⟨some id, .registered container vm accepted⟩ :: prior.history
  free : accepted = true ↔ prior.stores.vms.get? container = none
  stored : accepted = true → next.stores.vms.get? container = some vm
  others : ∀ other, other ≠ container →
    next.stores.vms.get? other = prior.stores.vms.get? other
  endpoints : next.stores.endpoints = prior.stores.endpoints
  refused : accepted = false → next.stores = prior.stores

/-- Every publication of a call is made at a step of its own. -/
theorem exists_publication (reached : empty.run moves = some s) {sandbox : String}
    {endpoint : Endpoint} {previous : Option Endpoint}
    (member : .published sandbox endpoint previous ∈ s.trail id) :
    ∃ prior next, Publication moves id sandbox endpoint previous prior next := by
  obtain @⟨prior, w, turn, paces, takes, there⟩ := exists_workload_step reached member rfl
  refine ⟨prior, prior.record id (turn.map .workload), ?_⟩
  cases takes with
  | booted stage done entries =>
      obtain ⟨rfl, rfl, rfl⟩ := Event.published.inj (List.mem_singleton.1 there)
      exact {
        step := paces
        told := rfl
        met := rfl
        stored := by simp [record, Turn.map, Table.get?_put]
        others := fun other differ => by simp [record, Turn.map, Table.get?_put, differ.symm]
        vms := rfl }
  | _ => simp at there

/-- Every registration of a call is made or refused at a step of its own. -/
theorem exists_registration (reached : empty.run moves = some s) {container : String} {vm : Vm}
    {accepted : Bool} (member : .registered container vm accepted ∈ s.trail id)
    (finished : .finished result ∈ s.trail id) :
    ∃ prior next, Registration moves id container vm accepted result prior next := by
  obtain @⟨prior, w, turn, paces, takes, there⟩ := exists_workload_step reached member rfl
  refine ⟨prior, prior.record id (turn.map .workload), ?_⟩
  -- The turn that registers also ends the call, and a call ends once.
  have last : ∀ {known : Result} {older : List Occurrence},
      ⟨some id, .finished known⟩ :: older <:+ s.history → known = result :=
    fun within => finished_unique reached (mem_trail.2 (within.subset List.mem_cons_self)) finished
  have within := paces.suffix reached
  cases takes with
  | @registered booted response stage done free entries =>
      obtain ⟨rfl, rfl, rfl⟩ : response.container = container ∧ booted = vm ∧ true = accepted := by
        simpa [eq_comm] using there
      obtain rfl := last within
      exact {
        step := paces
        told := rfl
        free := by simp [free]
        stored := fun _ => by simp [record, Turn.map, Table.get?_put]
        others := fun other differ => by simp [record, Turn.map, Table.get?_put, differ.symm]
        endpoints := rfl
        refused := by simp }
  | @refused booted holder response stage done taken entries =>
      obtain ⟨rfl, rfl, rfl⟩ : response.container = container ∧ booted = vm ∧ false = accepted := by
        simpa [eq_comm] using there
      obtain rfl := last within
      exact {
        step := paces
        told := rfl
        free := by simp [taken]
        stored := by simp
        others := fun _ _ => rfl
        endpoints := rfl
        refused := fun _ => rfl }
  | _ => simp at there

/-- What a finished workload came to, told by the outcomes of its two tasks. -/
structure Joined (moves : List Move) (s : System) (id : Nat) (settings : Settings)
    (request : CreateRequest) (boot : BootRequest) (result : Result) : Prop where
  /-- The call has waited for its boot. -/
  booted : ∃ machine,
    dialogue .boot (s.trail id) = [.asked (.boot boot), .answered (.booted machine)]
  /-- The error of the boot is the error of the call. -/
  bootError : ∀ error, .answered (.booted (.error error)) ∈ s.trail id →
    result = .created (.error error)
  bootPanic : ∀ text, .answered (.booted (.panic text)) ∈ s.trail id →
    result = .created (.error (.taskFailed "VM boot" (Workload.panicReason text)))
  /-- Without a machine the call does nothing, and both stores are as if it had never been. -/
  idle : (∀ vm, .answered (.booted (.ok vm)) ∉ s.trail id) →
    deeds (s.trail id) = [.finished result] ∧ replay (without id s.history) = s.stores
  /-- With a machine the call publishes once, and first of all, and waits for its placeholder. -/
  published : ∀ vm, .answered (.booted (.ok vm)) ∈ s.trail id →
    (∃ placeholder, dialogue .create (s.trail id) =
      [.asked (.create request), .answered (.created placeholder)]) ∧
    ∃ previous rest, deeds (s.trail id) =
      .published request.sandbox ⟨vm.address, settings.guestPort⟩ previous :: rest ∧
        (∀ event ∈ rest, ∀ sandbox endpoint older, event ≠ .published sandbox endpoint older) ∧
          ∃ prior next, Publication moves id request.sandbox ⟨vm.address, settings.guestPort⟩
            previous prior next
  /-- The error of the placeholder is then the error of the call. -/
  placeholderError : ∀ vm error, .answered (.booted (.ok vm)) ∈ s.trail id →
    .answered (.created (.error error)) ∈ s.trail id → result = .created (.error error)
  placeholderPanic : ∀ vm text, .answered (.booted (.ok vm)) ∈ s.trail id →
    .answered (.created (.panic text)) ∈ s.trail id →
      result = .created (.error (.taskFailed "placeholder container" (Workload.panicReason text)))
  /-- The machine of a failed placeholder is stopped once or left, and never registered. -/
  orphaned : ∀ vm, .answered (.booted (.ok vm)) ∈ s.trail id →
    (∀ response, .answered (.created (.ok response)) ∉ s.trail id) →
      (∃ previous stop, deeds (s.trail id) =
        .published request.sandbox ⟨vm.address, settings.guestPort⟩ previous ::
          (if settings.reapOrphanedVms then [.asked (.stop vm), .answered (.stopped stop)]
            else []) ++ [.finished result]) ∧
      (replay (without id s.history)).vms = s.stores.vms
  /-- The machine of a created placeholder is never stopped.  It is registered if the container is
  free at this step, and otherwise refused. -/
  registered : ∀ vm response, .answered (.booted (.ok vm)) ∈ s.trail id →
    .answered (.created (.ok response)) ∈ s.trail id →
      ∃ previous accepted, deeds (s.trail id) =
        [.published request.sandbox ⟨vm.address, settings.guestPort⟩ previous,
          .registered response.container vm accepted, .finished result] ∧
        result = .created (if accepted then .ok response
          else .error (.alreadyRegistered response.container)) ∧
        ∃ prior next, Registration moves id response.container vm accepted result prior next

/-- An outcome that is not good is a failure. -/
theorem failure_of_not_ok {α : Type} {outcome : Outcome α} (bad : ∀ value, outcome ≠ .ok value)
    (task : String) : ∃ error, outcome.failure? task = some error := by
  cases outcome with
  | ok value => exact absurd rfl (bad value)
  | error e => exact ⟨e, rfl⟩
  | panic text => exact ⟨_, rfl⟩

/-- What a call does not count as a deed writes to no store. -/
theorem deed_or_quiet {event : Event} (member : ⟨some id, event⟩ ∈ s.history) :
    event ∈ deeds (s.trail id) ∨
      (∀ sandbox, event.touches sandbox = false) ∧
        ∀ container, event.changes container = false := by
  cases own : event.concerns .create || event.concerns .boot with
  | false => exact .inl (mem_deeds (mem_trail.2 member) own)
  | true =>
      cases event with
      | asked request => exact .inr ⟨fun _ => rfl, fun _ => rfl⟩
      | answered reply => exact .inr ⟨fun _ => rfl, fun _ => rfl⟩
      | _ => cases own

/-- The endpoints are as if a call had never been when no deed of it touches a sandbox. -/
theorem endpoints_of_deeds
    (apart : ∀ event ∈ deeds (s.trail id), ∀ sandbox, event.touches sandbox = false) :
    (replay (without id s.history)).endpoints = (replay s.history).endpoints := by
  apply endpoints_without
  intro event member
  rcases deed_or_quiet member with deed | ⟨untouched, unchanged⟩
  · exact apart event deed
  · exact untouched

/-- The registry is as if a call had never been when no deed of it changes a container. -/
theorem vms_of_deeds
    (apart : ∀ event ∈ deeds (s.trail id), ∀ container, event.changes container = false) :
    (replay (without id s.history)).vms = (replay s.history).vms := by
  apply vms_without
  intro event member
  rcases deed_or_quiet member with deed | ⟨untouched, unchanged⟩
  · exact apart event deed
  · exact unchanged

/-- A call that only finishes leaves both stores as if it had never been. -/
theorem stores_of_idle (reached : empty.run moves = some s)
    (alone : deeds (s.trail id) = [.finished result]) :
    replay (without id s.history) = s.stores := by
  have endpoints : (replay (without id s.history)).endpoints = (replay s.history).endpoints := by
    apply endpoints_of_deeds
    rw [alone]
    simp [Event.touches]
  have vms : (replay (without id s.history)).vms = (replay s.history).vms := by
    apply vms_of_deeds
    rw [alone]
    simp [Event.changes]
  rw [← (replay_history reached).1]
  exact congrArg₂ Stores.mk endpoints vms

/-- A call that only publishes and stops leaves the registry as if it had never been. -/
theorem vms_of_orphan (reached : empty.run moves = some s) {w : Workload} {vm : Vm}
    {previous : Option Endpoint} {stop : Outcome Unit}
    (told : deeds (s.trail id) = w.publication vm previous ::
      (if w.settings.reapOrphanedVms then [.asked (.stop vm), .answered (.stopped stop)] else []) ++
        [.finished result]) :
    (replay (without id s.history)).vms = s.stores.vms := by
  rw [← (replay_history reached).1]
  apply vms_of_deeds
  rw [told]
  cases w.settings.reapOrphanedVms <;> simp [Workload.publication, Event.changes]

theorem joined_of_story (reached : empty.run moves = some s) {w : Workload}
    {outcome : Outcome CreateResponse} (story : w.Story (s.trail id))
    (stage : w.stage = .finished outcome)
    (calm : ∀ text, .answered (.stopped (.panic text)) ∉ s.trail id) :
    Joined moves s id w.settings w.request w.boot (.created outcome) := by
  have quiet : ∀ text, .answered (.stopped (.panic text)) ∉ deeds (s.trail id) :=
    fun text member => calm text (mem_of_mem_deeds member)
  have course := story.course
  constructor
  case booted =>
    obtain ⟨machine, done⟩ := course.machine_of_finished stage
    refine ⟨machine, ?_⟩
    rw [story.machine, done]
    rfl
  case bootError =>
    intro error member
    rw [(course.of_bootFailed stage ((story.booted_iff _).1 member) rfl).1]
  case bootPanic =>
    intro text member
    rw [(course.of_bootFailed stage ((story.booted_iff _).1 member) rfl).1]
  case idle =>
    intro broken
    obtain ⟨machine, done⟩ := course.machine_of_finished stage
    obtain ⟨error, failed⟩ : ∃ error, machine.failure? "VM boot" = some error := by
      apply failure_of_not_ok
      rintro vm rfl
      exact broken vm (story.booted_mem done)
    obtain ⟨rfl, alone⟩ := course.of_bootFailed stage done failed
    exact ⟨alone, stores_of_idle reached alone⟩
  case published =>
    intro vm member
    have machine := (story.booted_iff _).1 member
    obtain ⟨placeholder, done⟩ := course.placeholder_of_finished stage machine
    obtain ⟨previous, rest, told, silent⟩ := course.of_booted stage machine
    refine ⟨⟨placeholder, ?_⟩, previous, rest, told, silent, ?_⟩
    · rw [story.placeholder, done]
      rfl
    · refine exists_publication reached (mem_of_mem_deeds ?_)
      rw [told]
      exact List.mem_cons_self
  case placeholderError =>
    intro vm error booted created
    rw [(course.of_placeholderFailed stage quiet ((story.booted_iff _).1 booted)
      ((story.created_iff _).1 created) rfl).1]
  case placeholderPanic =>
    intro vm text booted created
    rw [(course.of_placeholderFailed stage quiet ((story.booted_iff _).1 booted)
      ((story.created_iff _).1 created) rfl).1]
  case orphaned =>
    intro vm booted broken
    have machine := (story.booted_iff _).1 booted
    obtain ⟨placeholder, done⟩ := course.placeholder_of_finished stage machine
    obtain ⟨error, failed⟩ :
        ∃ error, placeholder.failure? "placeholder container" = some error := by
      apply failure_of_not_ok
      rintro response rfl
      exact broken response (story.created_mem done)
    obtain ⟨rfl, previous, stop, told⟩ :=
      course.of_placeholderFailed stage quiet machine done failed
    exact ⟨⟨previous, stop, told⟩, vms_of_orphan reached told⟩
  case registered =>
    intro vm response booted created
    obtain ⟨previous, accepted, told, same⟩ := course.of_placeholderCreated stage
      ((story.booted_iff _).1 booted) ((story.created_iff _).1 created)
    have finished : .finished (.created outcome) ∈ s.trail id :=
      mem_of_mem_deeds (by simp [told])
    have member : .registered response.container vm accepted ∈ s.trail id :=
      mem_of_mem_deeds (by simp [told])
    exact ⟨previous, accepted, told, by rw [same], exists_registration reached member finished⟩

/-- The outcomes of its two tasks decide what a workload comes to, whatever their order. -/
theorem join_outcome (reached : empty.run moves = some s)
    (created : .create id coordinator request ∈ moves)
    (role : Role.classify request.containerName = .workload)
    (extracted : Launch.extract request.config coordinator.settings = .ok boot)
    (finished : .finished result ∈ s.trail id)
    (calm : ∀ text, .answered (.stopped (.panic text)) ∉ s.trail id) :
    Joined moves s id coordinator.settings request boot result := by
  obtain ⟨w, outcome, settings, rfl, rfl, story, stage, rfl⟩ :=
    workload_of_finished reached created role extracted finished
  rw [← settings]
  exact joined_of_story reached story stage calm

/-- Three workloads of one sandbox.  The placeholder of the first fails before its boot is back, and
the other two are given the same container. -/
def rivals : List Move :=
  Sample.started 0 true "pod" ++ Sample.started 1 true "pod" ++ Sample.started 2 true "pod" ++
    [.receive 0 (.created (.panic "gone")), .receive 2 (.created (.ok ⟨"c", []⟩)),
      .receive 1 (.booted (.ok (Sample.machine "vm-1" "10.0.0.2"))),
      .receive 0 (.booted (.ok (Sample.machine "vm-0" "10.0.0.3"))), .proceed 1, .proceed 0,
      .receive 1 (.created (.ok ⟨"c", []⟩)), .proceed 0, .proceed 1,
      .receive 2 (.booted (.ok (Sample.machine "vm-2" "10.0.0.4"))),
      .receive 0 (.stopped (.error (.supervisor "stop" "busy"))), .proceed 2, .proceed 2]

/-- What each of the rivals comes to. -/
def verdicts : List (Nat × Result) :=
  [(0, .created (.error (.taskFailed "placeholder container" (Workload.panicReason "gone")))),
    (1, .created (.ok ⟨"c", []⟩)), (2, .created (.error (.alreadyRegistered "c")))]

theorem join_outcome_rivals :
    ∃ s, empty.run rivals = some s ∧
      Role.classify (Sample.workload "pod").containerName = .workload ∧
        Launch.extract (Sample.workload "pod").config (Sample.coordinator true).settings =
          .ok Sample.boot ∧
        (∀ verdict ∈ verdicts,
          .create verdict.1 (Sample.coordinator true) (Sample.workload "pod") ∈ rivals ∧
            .finished verdict.2 ∈ s.trail verdict.1 ∧
              (∀ text, .answered (.stopped (.panic text)) ∉ s.trail verdict.1) ∧
                Joined rivals s verdict.1 (Sample.coordinator true).settings
                  (Sample.workload "pod") Sample.boot verdict.2) ∧
          s.stores.vms.get? "c" = some (Sample.machine "vm-1" "10.0.0.2") := by
  let busy : Outcome Unit := .error (.supervisor "stop" "busy")
  have facts : (empty.run rivals).map (fun s => decide
      ((∀ verdict ∈ verdicts, .finished verdict.2 ∈ s.trail verdict.1 ∧
        dialogue .stop (s.trail verdict.1) ⊆
          [.asked (.stop (Sample.machine "vm-0" "10.0.0.3")), .answered (.stopped busy)]) ∧
        s.stores.vms.get? "c" = some (Sample.machine "vm-1" "10.0.0.2"))) = some true := by
    decide
  obtain ⟨s, reached, same⟩ := Option.map_eq_some_iff.1 facts
  obtain ⟨ended, entry⟩ := of_decide_eq_true same
  have created : ∀ verdict ∈ verdicts,
      .create verdict.1 (Sample.coordinator true) (Sample.workload "pod") ∈ rivals := by decide
  have role : Role.classify (Sample.workload "pod").containerName = .workload := by decide
  have extracted : Launch.extract (Sample.workload "pod").config
      (Sample.coordinator true).settings = .ok Sample.boot := by decide
  refine ⟨s, reached, role, extracted, fun verdict listed => ?_, entry⟩
  obtain ⟨finished, stops⟩ := ended verdict listed
  have calm : ∀ text, .answered (.stopped (.panic text)) ∉ s.trail verdict.1 := by
    intro text member
    simpa [busy] using stops (mem_dialogue member rfl)
  exact ⟨created verdict listed, finished, calm,
    join_outcome reached (created verdict listed) role extracted finished calm⟩

end System

end GuestPod
