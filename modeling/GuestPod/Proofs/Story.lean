/-
This file tells the story of single calls.  The stage of a call says which events are behind it.
-/

import GuestPod.Proofs.Step

namespace GuestPod

/-- The questions to a service and the answers from it. -/
def Event.concerns (service : Service) : Event → Bool
  | .asked request => request.service = service
  | .answered reply => reply.service = service
  | _ => false

def dialogue (service : Service) (trail : List Event) : List Event :=
  trail.filter (·.concerns service)

/-- What a call did apart from the questions of its two tasks. -/
def deeds (trail : List Event) : List Event :=
  trail.filter fun event => !(event.concerns .create || event.concerns .boot)

theorem dialogue_append (service : Service) (first second : List Event) :
    dialogue service (first ++ second) = dialogue service first ++ dialogue service second :=
  List.filter_append _ _

theorem deeds_append (first second : List Event) :
    deeds (first ++ second) = deeds first ++ deeds second := List.filter_append _ _

theorem mem_of_mem_dialogue {service : Service} {trail : List Event} {event : Event}
    (member : event ∈ dialogue service trail) : event ∈ trail := (List.mem_filter.1 member).1

theorem mem_dialogue {service : Service} {trail : List Event} {event : Event}
    (member : event ∈ trail) (own : event.concerns service = true) :
    event ∈ dialogue service trail := List.mem_filter.2 ⟨member, own⟩

theorem mem_deeds {trail : List Event} {event : Event} (member : event ∈ trail)
    (own : (event.concerns .create || event.concerns .boot) = false) : event ∈ deeds trail :=
  List.mem_filter.2 ⟨member, by simp only [own, Bool.not_false]⟩

theorem mem_of_mem_deeds {trail : List Event} {event : Event}
    (member : event ∈ deeds trail) : event ∈ trail := (List.mem_filter.1 member).1

/-- A task asks once and hears one answer. -/
def Task.dialogue {α : Type} (question : Request) (answer : Outcome α → Reply) :
    Task α → List Event
  | .ready => []
  | .running => [.asked question]
  | .done outcome => [.asked question, .answered (answer outcome)]

namespace Workload

/-- The endpoint of a booted machine is published under the sandbox of the call. -/
def publication (w : Workload) (vm : Vm) (previous : Option Endpoint) : Event :=
  .published w.sandbox ⟨vm.address, w.settings.guestPort⟩ previous

/-- The deeds of a workload at each of its stages. -/
inductive Course (w : Workload) : List Event → Prop where
  | waiting (stage : w.stage = .awaitingBoot) : Course w []
  | published {vm : Vm} (stage : w.stage = .awaitingPlaceholder vm)
      (booted : w.machine = .done (.ok vm)) (previous : Option Endpoint) :
      Course w [w.publication vm previous]
  | reaping {vm : Vm} {outcome : Outcome CreateResponse} {error : Error}
      (stage : w.stage = .reaping vm error) (booted : w.machine = .done (.ok vm))
      (done : w.placeholder = .done outcome)
      (failed : outcome.failure? "placeholder container" = some error)
      (strict : w.settings.reapOrphanedVms = true) (previous : Option Endpoint) :
      Course w [w.publication vm previous, .asked (.stop vm)]
  | bootFailed {outcome : Outcome Vm} {error : Error}
      (stage : w.stage = .finished (.error error)) (done : w.machine = .done outcome)
      (failed : outcome.failure? "VM boot" = some error) :
      Course w [.finished (.created (.error error))]
  | registered {vm : Vm} {response : CreateResponse} (stage : w.stage = .finished (.ok response))
      (booted : w.machine = .done (.ok vm)) (done : w.placeholder = .done (.ok response))
      (previous : Option Endpoint) :
      Course w [w.publication vm previous, .registered response.container vm true,
        .finished (.created (.ok response))]
  | refused {vm : Vm} {response : CreateResponse}
      (stage : w.stage = .finished (.error (.alreadyRegistered response.container)))
      (booted : w.machine = .done (.ok vm)) (done : w.placeholder = .done (.ok response))
      (previous : Option Endpoint) :
      Course w [w.publication vm previous, .registered response.container vm false,
        .finished (.created (.error (.alreadyRegistered response.container)))]
  | orphanLeft {vm : Vm} {outcome : Outcome CreateResponse} {error : Error}
      (stage : w.stage = .finished (.error error)) (booted : w.machine = .done (.ok vm))
      (done : w.placeholder = .done outcome)
      (failed : outcome.failure? "placeholder container" = some error)
      (lenient : w.settings.reapOrphanedVms = false) (previous : Option Endpoint) :
      Course w [w.publication vm previous, .finished (.created (.error error))]
  | released {vm : Vm} {outcome : Outcome CreateResponse} {error : Error}
      (stage : w.stage = .finished (.error error)) (booted : w.machine = .done (.ok vm))
      (done : w.placeholder = .done outcome)
      (failed : outcome.failure? "placeholder container" = some error)
      (strict : w.settings.reapOrphanedVms = true) {stop : Outcome Unit}
      (calm : ∀ text, stop ≠ .panic text) (previous : Option Endpoint) :
      Course w [w.publication vm previous, .asked (.stop vm), .answered (.stopped stop),
        .finished (.created (.error error))]
  | interrupted {vm : Vm} {outcome : Outcome CreateResponse} {error : Error} {text : String}
      (stage : w.stage = .finished (.panic text)) (booted : w.machine = .done (.ok vm))
      (done : w.placeholder = .done outcome)
      (failed : outcome.failure? "placeholder container" = some error)
      (strict : w.settings.reapOrphanedVms = true) (previous : Option Endpoint) :
      Course w [w.publication vm previous, .asked (.stop vm), .answered (.stopped (.panic text)),
        .finished (.created (.panic text))]

namespace Course

variable {w : Workload} {events : List Event}

theorem of_awaitingBoot (course : w.Course events) (stage : w.stage = .awaitingBoot) :
    events = [] := by
  cases course <;> simp_all

theorem of_awaitingPlaceholder {vm : Vm} (course : w.Course events)
    (stage : w.stage = .awaitingPlaceholder vm) :
    w.machine = .done (.ok vm) ∧ ∃ previous, events = [w.publication vm previous] := by
  cases course <;> simp_all

theorem of_reaping {vm : Vm} {error : Error} (course : w.Course events)
    (stage : w.stage = .reaping vm error) :
    w.machine = .done (.ok vm) ∧ w.settings.reapOrphanedVms = true ∧
      (∃ outcome, w.placeholder = .done outcome ∧
        outcome.failure? "placeholder container" = some error) ∧
      ∃ previous, events = [w.publication vm previous, .asked (.stop vm)] := by
  cases course <;> simp_all

/-- An open placeholder has no part in the course so far. -/
theorem with_placeholder (course : w.Course events)
    (pending : ∀ outcome, w.placeholder ≠ .done outcome) (task : Task CreateResponse) :
    Course { w with placeholder := task } events := by
  cases course with
  | waiting stage => exact .waiting stage
  | published stage booted previous =>
      exact Course.published (w := { w with placeholder := task }) stage booted previous
  | bootFailed stage done failed => exact .bootFailed stage done failed
  | reaping stage booted done => exact absurd done (pending _)
  | registered stage booted done => exact absurd done (pending _)
  | refused stage booted done => exact absurd done (pending _)
  | orphanLeft stage booted done => exact absurd done (pending _)
  | released stage booted done => exact absurd done (pending _)
  | interrupted stage booted done => exact absurd done (pending _)

/-- An open boot has no part in the course so far. -/
theorem with_machine (course : w.Course events)
    (pending : ∀ outcome, w.machine ≠ .done outcome) (task : Task Vm) :
    Course { w with machine := task } events := by
  cases course with
  | waiting stage => exact .waiting stage
  | bootFailed stage done => exact absurd done (pending _)
  | published stage booted => exact absurd booted (pending _)
  | reaping stage booted => exact absurd booted (pending _)
  | registered stage booted => exact absurd booted (pending _)
  | refused stage booted => exact absurd booted (pending _)
  | orphanLeft stage booted => exact absurd booted (pending _)
  | released stage booted => exact absurd booted (pending _)
  | interrupted stage booted => exact absurd booted (pending _)

end Course

/-- The trail of a workload is that of two tasks and of the call that waits for them. -/
structure Story (w : Workload) (trail : List Event) : Prop where
  placeholder : dialogue .create trail = w.placeholder.dialogue (.create w.request) .created
  machine : dialogue .boot trail = w.machine.dialogue (.boot w.boot) .booted
  course : w.Course (deeds trail)

namespace Story

variable {w : Workload} {trail : List Event} {event : Event}

/-- A step of the placeholder task adds to its own dialogue only. -/
theorem with_placeholder (story : w.Story trail)
    (pending : ∀ outcome, w.placeholder ≠ .done outcome) {task : Task CreateResponse}
    (own : event.concerns .create = true) (other : event.concerns .boot = false)
    (grows : task.dialogue (.create w.request) .created =
      w.placeholder.dialogue (.create w.request) .created ++ [event]) :
    Story { w with placeholder := task } (trail ++ [event]) := by
  refine ⟨?_, ?_, ?_⟩
  · rw [dialogue_append, story.placeholder, grows]
    simp only [dialogue, List.filter_cons, own, if_true, List.filter_nil]
  · rw [dialogue_append, story.machine]
    simp only [dialogue, List.filter_cons, other, Bool.false_eq_true, if_false, List.filter_nil,
      List.append_nil]
  · rw [deeds_append]
    simpa [deeds, own] using story.course.with_placeholder pending task

/-- A step of the boot task adds to its own dialogue only. -/
theorem with_machine (story : w.Story trail)
    (pending : ∀ outcome, w.machine ≠ .done outcome) {task : Task Vm}
    (own : event.concerns .boot = true) (other : event.concerns .create = false)
    (grows : task.dialogue (.boot w.boot) .booted =
      w.machine.dialogue (.boot w.boot) .booted ++ [event]) :
    Story { w with machine := task } (trail ++ [event]) := by
  refine ⟨?_, ?_, ?_⟩
  · rw [dialogue_append, story.placeholder]
    simp only [dialogue, List.filter_cons, other, Bool.false_eq_true, if_false, List.filter_nil,
      List.append_nil]
  · rw [dialogue_append, story.machine, grows]
    simp only [dialogue, List.filter_cons, own, if_true, List.filter_nil]
  · rw [deeds_append]
    simpa [deeds, own] using story.course.with_machine pending task

/-- A step of the call itself adds to its deeds only. -/
theorem with_stage (story : w.Story trail) {stage : Stage} {events : List Event}
    (own : ∀ event ∈ events, (event.concerns .create || event.concerns .boot) = false)
    (course : Course { w with stage := stage } (deeds trail ++ events)) :
    Story { w with stage := stage } (trail ++ events) := by
  have silent : ∀ service, service = .create ∨ service = .boot → dialogue service events = [] := by
    intro service asked
    apply List.filter_eq_nil_iff.2
    intro event member
    have none := own event member
    rcases asked with rfl | rfl <;> simp_all
  have kept : deeds events = events := by
    apply List.filter_eq_self.2
    intro event member
    rw [own event member]
    rfl
  refine ⟨?_, ?_, ?_⟩
  · rw [dialogue_append, silent .create (.inl rfl), List.append_nil]
    exact story.placeholder
  · rw [dialogue_append, silent .boot (.inr rfl), List.append_nil]
    exact story.machine
  · rw [deeds_append, kept]
    exact course

theorem booted_mem (story : w.Story trail) {outcome : Outcome Vm}
    (done : w.machine = .done outcome) : .answered (.booted outcome) ∈ trail := by
  have told : dialogue .boot trail = w.machine.dialogue (.boot w.boot) .booted := story.machine
  apply mem_of_mem_dialogue
  rw [told, done]
  exact List.mem_cons_of_mem _ List.mem_cons_self

theorem created_mem (story : w.Story trail) {outcome : Outcome CreateResponse}
    (done : w.placeholder = .done outcome) : .answered (.created outcome) ∈ trail := by
  have told : dialogue .create trail = w.placeholder.dialogue (.create w.request) .created :=
    story.placeholder
  apply mem_of_mem_dialogue
  rw [told, done]
  exact List.mem_cons_of_mem _ List.mem_cons_self

/-- Every turn of a workload continues its story. -/
theorem takes {stores : Stores} {turn : Turn Workload} (story : w.Story trail)
    (takes : w.Takes stores turn) : turn.next.Story (trail ++ turn.events) := by
  cases takes with
  | placeholderStarted ready =>
      exact story.with_placeholder (by simp [ready]) rfl rfl (by rw [ready]; rfl)
  | bootStarted ready =>
      exact story.with_machine (by simp [ready]) rfl rfl (by rw [ready]; rfl)
  | placeholderAnswered running outcome =>
      exact story.with_placeholder (by simp [running]) rfl rfl (by rw [running]; rfl)
  | bootAnswered running outcome =>
      exact story.with_machine (by simp [running]) rfl rfl (by rw [running]; rfl)
  | booted stage done entries =>
      refine story.with_stage (by simp [Event.concerns]) ?_
      rw [story.course.of_awaitingBoot stage]
      exact Course.published (w := { w with stage := _ }) rfl done _
  | bootFailed stage done failed entries =>
      refine story.with_stage (by simp [Event.concerns]) ?_
      rw [story.course.of_awaitingBoot stage]
      exact .bootFailed rfl done failed
  | registered stage done free entries =>
      obtain ⟨booted, previous, same⟩ := story.course.of_awaitingPlaceholder stage
      refine story.with_stage (by simp [Event.concerns]) ?_
      rw [same]
      exact Course.registered (w := { w with stage := _ }) rfl booted done previous
  | refused stage done taken entries =>
      obtain ⟨booted, previous, same⟩ := story.course.of_awaitingPlaceholder stage
      refine story.with_stage (by simp [Event.concerns]) ?_
      rw [same]
      exact Course.refused (w := { w with stage := _ }) rfl booted done previous
  | orphanLeft stage done failed lenient entries =>
      obtain ⟨booted, previous, same⟩ := story.course.of_awaitingPlaceholder stage
      refine story.with_stage (by simp [Event.concerns]) ?_
      rw [same]
      exact Course.orphanLeft (w := { w with stage := _ }) rfl booted done failed lenient previous
  | orphanReaped stage done failed strict entries =>
      obtain ⟨booted, previous, same⟩ := story.course.of_awaitingPlaceholder stage
      refine story.with_stage (by simp [Event.concerns, Request.service]) ?_
      rw [same]
      exact Course.reaping (w := { w with stage := _ }) rfl booted done failed strict previous
  | released stage calm entries =>
      obtain ⟨booted, strict, ⟨outcome, done, failed⟩, previous, same⟩ :=
        story.course.of_reaping stage
      refine story.with_stage (by simp [Event.concerns, Reply.service]) ?_
      rw [same]
      exact Course.released (w := { w with stage := _ }) rfl booted done failed strict calm previous
  | interrupted stage text =>
      obtain ⟨booted, strict, ⟨outcome, done, failed⟩, previous, same⟩ :=
        story.course.of_reaping stage
      refine story.with_stage (by simp [Event.concerns, Reply.service]) ?_
      rw [same]
      exact Course.interrupted (w := { w with stage := _ }) rfl booted done failed strict previous

end Story

end Workload

namespace Relay

/-- Only a sidecar has an endpoint to bring. -/
def bringer : Option Endpoint → Role
  | some _ => .sidecar
  | none => .other

/-- What a creation did before it asked for the container. -/
def prelude (r : Relay) : Option Endpoint → List Event
  | some endpoint => [.taken r.request.sandbox (some endpoint)]
  | none => []

/-- The events of a creation that is passed on, at each of its stages. -/
inductive Story (role : Role) (r : Relay) : List Event → Prop where
  | taking (stage : r.stage = .taking) (sidecar : role = .sidecar) : Story role r []
  | forwarding (endpoint : Option Endpoint) (stage : r.stage = .forwarding endpoint)
      (brings : role = bringer endpoint) : Story role r (r.prelude endpoint)
  | awaiting {endpoint : Option Endpoint} (stage : r.stage = .awaiting endpoint)
      (brings : role = bringer endpoint) :
      Story role r (r.prelude endpoint ++ [.asked (.create (forwarded r.request endpoint))])
  | missed (stage : r.stage = .finished (.error (.noEndpoint r.request.sandbox)))
      (sidecar : role = .sidecar) :
      Story role r [.taken r.request.sandbox none,
        .finished (.created (.error (.noEndpoint r.request.sandbox)))]
  | answered {endpoint : Option Endpoint} {outcome : Outcome CreateResponse}
      (stage : r.stage = .finished outcome) (brings : role = bringer endpoint) :
      Story role r (r.prelude endpoint ++ [.asked (.create (forwarded r.request endpoint)),
        .answered (.created outcome), .finished (.created outcome)])

theorem Story.of_forwarding {role : Role} {r : Relay} {trail : List Event}
    {endpoint : Option Endpoint} (story : r.Story role trail)
    (stage : r.stage = .forwarding endpoint) :
    role = bringer endpoint ∧ trail = r.prelude endpoint := by
  cases story with
  | forwarding known here brings =>
      obtain rfl := Stage.forwarding.inj (stage.symm.trans here)
      exact ⟨brings, rfl⟩
  | _ => simp_all

/-- No workload is passed on to the stock runtime. -/
theorem Story.not_workload {role : Role} {r : Relay} {trail : List Event}
    (story : r.Story role trail) : role ≠ .workload := by
  rintro rfl
  cases story with
  | taking stage sidecar => cases sidecar
  | missed stage sidecar => cases sidecar
  | forwarding endpoint stage brings => cases endpoint <;> cases brings
  | @awaiting endpoint stage brings => cases endpoint <;> cases brings
  | @answered endpoint outcome stage brings => cases endpoint <;> cases brings

/-- Every turn of a creation that is passed on continues its story. -/
theorem Story.takes {role : Role} {r : Relay} {trail : List Event} {stores : Stores}
    {turn : Turn Relay} (story : r.Story role trail) (takes : r.Takes stores turn) :
    turn.next.Story role (trail ++ turn.events) := by
  cases takes with
  | @taken endpoint stage present entries =>
      cases story with
      | taking _ sidecar =>
          exact Story.forwarding (r := { r with stage := _ }) (some endpoint) rfl sidecar
      | _ => simp_all
  | missed stage absent entries =>
      cases story with
      | taking _ sidecar => exact Story.missed (r := { r with stage := _ }) rfl sidecar
      | _ => simp_all
  | forwarded stage =>
      obtain ⟨brings, rfl⟩ := story.of_forwarding stage
      exact Story.awaiting (r := { r with stage := _ }) rfl brings
  | answered stage outcome entries =>
      cases story with
      | awaiting here brings =>
          obtain rfl := Stage.awaiting.inj (stage.symm.trans here)
          rw [List.append_assoc]
          exact Story.answered (r := { r with stage := _ }) rfl brings
      | _ => simp_all

end Relay

namespace Removal

/-- A removal goes on to the stock runtime without a machine or behind a stopped one. -/
inductive Cleared (container : String) : List Event → Prop where
  | absent : Cleared container [.found container none]
  | dropped (vm : Vm) (entry : Option Vm) :
      Cleared container [.found container (some vm), .asked (.stop vm),
        .answered (.stopped (.ok ())), .dropped container entry]

/-- The events of a removal, at each of its stages. -/
inductive Story (r : Removal) : List Event → Prop where
  | finding (stage : r.stage = .finding) : Story r []
  | stopping {vm : Vm} (stage : r.stage = .stopping vm) : Story r [.found r.container (some vm)]
  | awaitingStop {vm : Vm} (stage : r.stage = .awaitingStop vm) :
      Story r [.found r.container (some vm), .asked (.stop vm)]
  | dropping {vm : Vm} (stage : r.stage = .dropping vm) :
      Story r [.found r.container (some vm), .asked (.stop vm), .answered (.stopped (.ok ()))]
  | stopFailed {outcome : Outcome Unit} (stage : r.stage = .finished outcome)
      (failed : outcome ≠ .ok ()) (vm : Vm) :
      Story r [.found r.container (some vm), .asked (.stop vm), .answered (.stopped outcome),
        .finished (.removed outcome)]
  | removing {first : List Event} (stage : r.stage = .removing)
      (cleared : Cleared r.container first) : Story r first
  | awaitingRemoval {first : List Event} (stage : r.stage = .awaitingRemoval)
      (cleared : Cleared r.container first) : Story r (first ++ [.asked (.remove r.request)])
  | removed {first : List Event} {outcome : Outcome Unit} (stage : r.stage = .finished outcome)
      (cleared : Cleared r.container first) :
      Story r (first ++ [.asked (.remove r.request), .answered (.removed outcome),
        .finished (.removed outcome)])

/-- Every turn of a removal continues its story. -/
theorem Story.takes {r : Removal} {trail : List Event} {stores : Stores} {turn : Turn Removal}
    (story : r.Story trail) (takes : r.Takes stores turn) :
    turn.next.Story (trail ++ turn.events) := by
  cases takes with
  | found stage present =>
      cases story with
      | finding => exact Story.stopping (r := { r with stage := _ }) rfl
      | _ => simp_all
  | missed stage absent =>
      cases story with
      | finding => exact Story.removing (r := { r with stage := _ }) rfl .absent
      | _ => simp_all
  | stopAsked stage =>
      cases story with
      | stopping here =>
          obtain rfl := Stage.stopping.inj (stage.symm.trans here)
          exact Story.awaitingStop (r := { r with stage := _ }) rfl
      | _ => simp_all
  | stopped stage =>
      cases story with
      | awaitingStop here =>
          obtain rfl := Stage.awaitingStop.inj (stage.symm.trans here)
          exact Story.dropping (r := { r with stage := _ }) rfl
      | _ => simp_all
  | stopFailed stage failed entries =>
      cases story with
      | awaitingStop here =>
          exact Story.stopFailed (r := { r with stage := _ }) rfl failed _
      | _ => simp_all
  | dropped stage entries =>
      cases story with
      | dropping here => exact Story.removing (r := { r with stage := _ }) rfl (.dropped _ _)
      | _ => simp_all
  | removalAsked stage =>
      cases story with
      | removing here cleared =>
          exact Story.awaitingRemoval (r := { r with stage := _ }) rfl cleared
      | _ => simp_all
  | removed stage outcome =>
      cases story with
      | awaitingRemoval here cleared =>
          rw [List.append_assoc]
          exact Story.removed (r := { r with stage := _ }) rfl cleared
      | _ => simp_all

end Removal

namespace Call

/-- The story of a call, from the move that opened it. -/
inductive Story : Move → Call → List Event → Prop where
  | workload {id : Nat} {coordinator : Coordinator} {request : CreateRequest} {w : Workload}
      {trail : List Event} (role : Role.classify request.containerName = .workload)
      (settings : w.settings = coordinator.settings) (asks : w.request = request)
      (extracted : Launch.extract request.config coordinator.settings = .ok w.boot)
      (story : w.Story trail) : Story (.create id coordinator request) (.workload w) trail
  | refusal {id : Nat} {coordinator : Coordinator} {request : CreateRequest} {error : Error}
      (role : Role.classify request.containerName = .workload)
      (extracted : Launch.extract request.config coordinator.settings = .error error) :
      Story (.create id coordinator request) (.refusal request error)
        [.finished (.created (.error error))]
  | relay {id : Nat} {coordinator : Coordinator} {request : CreateRequest} {r : Relay}
      {trail : List Event} (asks : r.request = request)
      (story : r.Story (Role.classify request.containerName) trail) :
      Story (.create id coordinator request) (.relay r) trail
  | removal {id : Nat} {request : RemoveRequest} {r : Removal} {trail : List Event}
      (asks : r.request = request) (story : r.Story trail) :
      Story (.remove id request) (.removal r) trail
  | forgetting (id : Nat) (sandbox : String) (present : Bool) :
      Story (.forget id sandbox) (.forgetting sandbox present)
        [.forgot sandbox present, .finished (.forgotten present)]

/-- The first turn of a call begins its story. -/
theorem story_of_opens {move : Move} {stores : Stores} {turn : Turn Call}
    (opens : move.Opens stores turn) : Story move turn.next turn.events := by
  cases opens with
  | workload role extracted entries =>
      refine .workload role rfl rfl extracted ⟨rfl, rfl, ?_⟩
      exact Workload.Course.waiting rfl
  | refusal role extracted entries => exact .refusal role extracted
  | sidecar role entries => exact .relay rfl (.taking rfl role)
  | @other id coordinator request role entries =>
      exact .relay rfl (Relay.Story.forwarding (r := ⟨request, _⟩) none rfl role)
  | removal => exact .removal rfl (.finding rfl)
  | forgetting entries => exact .forgetting _ _ _

end Call

theorem Workload.Takes.fixed {w : Workload} {stores : Stores} {turn : Turn Workload}
    (takes : w.Takes stores turn) :
    turn.next.settings = w.settings ∧ turn.next.request = w.request ∧
      turn.next.boot = w.boot := by
  cases takes <;> exact ⟨rfl, rfl, rfl⟩

theorem Relay.Takes.fixed {r : Relay} {stores : Stores} {turn : Turn Relay}
    (takes : r.Takes stores turn) : turn.next.request = r.request := by
  cases takes <;> rfl

theorem Removal.Takes.fixed {r : Removal} {stores : Stores} {turn : Turn Removal}
    (takes : r.Takes stores turn) : turn.next.request = r.request := by
  cases takes <;> rfl

/-- Every turn of a call continues its story. -/
theorem Call.Story.takes {origin : Move} {call : Call} {trail : List Event} {stores : Stores}
    {turn : Turn Call} (story : Call.Story origin call trail) (takes : call.Takes stores turn) :
    Call.Story origin turn.next (trail ++ turn.events) := by
  cases takes with
  | workload takes =>
      cases story with
      | workload role settings asks extracted story =>
          obtain ⟨sameSettings, sameRequest, sameBoot⟩ := takes.fixed
          rw [← sameBoot] at extracted
          exact .workload role (sameSettings.trans settings) (sameRequest.trans asks) extracted
            (story.takes takes)
  | relay takes =>
      cases story with
      | relay asks story => exact .relay (takes.fixed.trans asks) (story.takes takes)
  | removal takes =>
      cases story with
      | removal asks story => exact .removal (takes.fixed.trans asks) (story.takes takes)

/-- A call has finished exactly when it has a result. -/
theorem Call.Story.finished_iff {origin : Move} {call : Call} {trail : List Event}
    (story : Call.Story origin call trail) (result : Result) :
    .finished result ∈ trail ↔ call.result? = some result := by
  rw [@eq_comm _ call.result?]
  cases story with
  | workload role settings asks extracted story =>
      have kept : .finished result ∈ trail ↔ .finished result ∈ deeds trail :=
        ⟨fun member => mem_deeds member rfl, mem_of_mem_deeds⟩
      have course := story.course
      rw [kept]
      generalize deeds trail = events at course
      cases course <;> simp [Call.result?, Workload.publication, *]
  | refusal role extracted => simp [Call.result?]
  | relay asks story =>
      cases story with
      | taking stage => simp [Call.result?, stage]
      | missed stage => simp [Call.result?, stage]
      | forwarding endpoint stage => cases endpoint <;> simp [Call.result?, stage, Relay.prelude]
      | @awaiting endpoint stage =>
          cases endpoint <;> simp [Call.result?, stage, Relay.prelude]
      | @answered endpoint outcome stage =>
          cases endpoint <;> simp [Call.result?, stage, Relay.prelude]
  | removal asks story =>
      cases story with
      | removing stage cleared => cases cleared <;> simp [Call.result?, stage]
      | awaitingRemoval stage cleared => cases cleared <;> simp [Call.result?, stage]
      | removed stage cleared => cases cleared <;> simp [Call.result?, stage]
      | _ => simp [Call.result?, *]
  | forgetting => simp [Call.result?]

end GuestPod
