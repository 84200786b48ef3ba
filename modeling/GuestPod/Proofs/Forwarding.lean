/-
This file says what a creation asks of the stock runtime and of the supervisor.  The request is
passed on as it came, and no question is asked twice.
-/

import GuestPod.Proofs.Delivery
import GuestPod.Proofs.Waiting

namespace GuestPod

def Event.question? : Event → Option Request
  | .asked request => some request
  | _ => none

/-- All that a trail asks of a service, in its order. -/
def questions (service : Service) (trail : List Event) : List Request :=
  (dialogue service trail).filterMap Event.question?

/-- A task that has started has asked its question once. -/
theorem Task.question_dialogue {α : Type} {task : Task α} (question : Request)
    (answer : Outcome α → Reply) (started : task ≠ .ready) :
    (task.dialogue question answer).filterMap Event.question? = [question] := by
  cases task with
  | ready => exact absurd rfl started
  | running => rfl
  | done outcome => rfl

namespace Workload

namespace Course

variable {w : Workload} {events : List Event}

/-- Besides its tasks a workload asks for nothing but one stop of its machine. -/
theorem questions_stop (course : w.Course events) :
    questions .stop events = [] ∨
      ∃ vm, w.machine = .done (.ok vm) ∧ questions .stop events = [.stop vm] := by
  cases course with
  | reaping stage booted => exact .inr ⟨_, booted, rfl⟩
  | released stage booted => exact .inr ⟨_, booted, rfl⟩
  | interrupted stage booted => exact .inr ⟨_, booted, rfl⟩
  | _ => exact .inl rfl

theorem questions_remove (course : w.Course events) : questions .remove events = [] := by
  cases course <;> rfl

end Course

namespace Story

variable {w : Workload} {trail : List Event}

theorem questions_create (story : w.Story trail) (started : w.placeholder ≠ .ready) :
    questions .create trail = [.create w.request] := by
  rw [questions, story.placeholder]
  exact Task.question_dialogue _ _ started

theorem questions_boot (story : w.Story trail) (started : w.machine ≠ .ready) :
    questions .boot trail = [.boot w.boot] := by
  rw [questions, story.machine]
  exact Task.question_dialogue _ _ started

theorem questions_stop (story : w.Story trail) :
    questions .stop trail = [] ∨
      ∃ vm, .answered (.booted (.ok vm)) ∈ trail ∧ questions .stop trail = [.stop vm] := by
  rw [questions, ← dialogue_deeds (.inl rfl)]
  refine story.course.questions_stop.imp id ?_
  rintro ⟨vm, booted, asked⟩
  exact ⟨vm, story.booted_mem booted, asked⟩

theorem questions_remove (story : w.Story trail) : questions .remove trail = [] := by
  rw [questions, ← dialogue_deeds (.inr rfl)]
  exact story.course.questions_remove

end Story

end Workload

/-- A finished creation of another kind has one of two trails. -/
theorem Relay.Story.of_finished {role : Role} {r : Relay} {trail : List Event} {result : Result}
    (story : r.Story role trail) (finished : .finished result ∈ trail) :
    (role = .sidecar ∧ result = .created (.error (.noEndpoint r.request.sandbox)) ∧
      trail = [.taken r.request.sandbox none, .finished result]) ∨
    ∃ endpoint outcome, role = bringer endpoint ∧ result = .created outcome ∧
      trail = r.prelude endpoint ++ [.asked (.create (forwarded r.request endpoint)),
        .answered (.created outcome), .finished result] := by
  cases story with
  | taking => cases finished
  | forwarding endpoint => cases endpoint <;> simp [prelude] at finished
  | @awaiting endpoint => cases endpoint <;> simp [prelude] at finished
  | missed stage sidecar =>
      obtain rfl : result = .created (.error (.noEndpoint r.request.sandbox)) := by
        simpa using finished
      exact .inl ⟨sidecar, rfl, rfl⟩
  | @answered endpoint outcome stage brings =>
      obtain rfl : result = .created outcome := by
        cases endpoint <;> simpa [prelude] using finished
      exact .inr ⟨endpoint, outcome, brings, rfl, rfl⟩

namespace System

variable {moves : List Move} {s : System} {id : Nat} {coordinator : Coordinator}
  {request : CreateRequest} {result : Result}

/-- In an idle system both tasks of a workload have started. -/
theorem Idle.tasks_started (idle : s.Idle) {w : Workload}
    (present : s.calls.get? id = some (.workload w)) :
    w.placeholder ≠ .ready ∧ w.machine ≠ .ready := by
  obtain ⟨placeholder, machine, -⟩ := idle.still present
  constructor
  · intro ready
    simp [Call.startPlaceholder, Workload.startPlaceholder, ready] at placeholder
  · intro ready
    simp [Call.startBoot, Workload.startBoot, ready] at machine

/-- What a finished creation has asked for, by the kind of its container. -/
structure Forwarded (s : System) (id : Nat) (coordinator : Coordinator) (request : CreateRequest)
    (result : Result) : Prop where
  /-- A workload that cannot be launched fails with this error.  It asks nobody and changes
  nothing. -/
  refused : ∀ error, Role.classify request.containerName = .workload →
    Launch.extract request.config coordinator.settings = .error error →
      result = .created (.error error) ∧ s.trail id = [.finished result] ∧
        replay (without id s.history) = s.stores
  /-- Every other workload asks once for its container and once for its machine, whatever comes
  of them.  It can ask once more, to stop the machine that it has booted. -/
  launched : ∀ boot, Role.classify request.containerName = .workload →
    Launch.extract request.config coordinator.settings = .ok boot →
      questions .create (s.trail id) = [.create request] ∧
        questions .boot (s.trail id) = [.boot boot] ∧ questions .remove (s.trail id) = [] ∧
          (questions .stop (s.trail id) = [] ∨ ∃ vm, .answered (.booted (.ok vm)) ∈ s.trail id ∧
            questions .stop (s.trail id) = [.stop vm])
  /-- A sidecar fails without a question, or asks once for its container with the endpoint that
  it took at the end of the environment.  The answer is its result. -/
  wired : Role.classify request.containerName = .sidecar →
    (result = .created (.error (.noEndpoint request.sandbox)) ∧
      s.trail id = [.taken request.sandbox none, .finished result]) ∨
    ∃ endpoint outcome, result = .created outcome ∧
      s.trail id = [.taken request.sandbox (some endpoint),
        .asked (.create { request with config := { request.config with
          environment := request.config.environment ++
            [⟨Contract.addressVariable, endpoint.address⟩,
              ⟨Contract.portVariable, toString endpoint.port.toNat⟩] } }),
        .answered (.created outcome), .finished result]
  /-- What a sidecar has taken does not come back: an endpoint that is there was published
  later. -/
  consumed : ∀ newer endpoint earlier,
    s.history = newer ++ ⟨some id, .taken request.sandbox (some endpoint)⟩ :: earlier →
      ∀ present, s.stores.endpoints.get? request.sandbox = some present →
        ∃ source previous, ⟨source, .published request.sandbox present previous⟩ ∈ newer
  /-- Every other container is asked for once, and the answer is the result.  The stores do not
  change. -/
  other : Role.classify request.containerName = .other →
    ∃ outcome, result = .created outcome ∧
      s.trail id = [.asked (.create request), .answered (.created outcome), .finished result] ∧
        replay (without id s.history) = s.stores

theorem trail_of_refused (reached : empty.run moves = some s)
    (created : .create id coordinator request ∈ moves)
    (role : Role.classify request.containerName = .workload) {error : Error}
    (extracted : Launch.extract request.config coordinator.settings = .error error) :
    s.trail id = [.finished (.created (.error error))] := by
  obtain ⟨call, -, story⟩ := story_of_mem reached created rfl
  generalize s.trail id = trail at story
  cases story with
  | workload workload settings asks extraction => cases extracted.symm.trans extraction
  | refusal workload extraction =>
      obtain rfl := Except.error.inj (extracted.symm.trans extraction)
      rfl
  | relay asks story => exact absurd role story.not_workload

/-- A workload that can be launched has a story of two tasks. -/
theorem workload_of_launched (reached : empty.run moves = some s)
    (created : .create id coordinator request ∈ moves)
    (role : Role.classify request.containerName = .workload) {boot : BootRequest}
    (extracted : Launch.extract request.config coordinator.settings = .ok boot) :
    ∃ w, s.calls.get? id = some (.workload w) ∧ w.request = request ∧ w.boot = boot ∧
      w.Story (s.trail id) := by
  obtain ⟨call, present, story⟩ := story_of_mem reached created rfl
  generalize s.trail id = trail at story ⊢
  cases story with
  | workload workload settings asks extraction story =>
      exact ⟨_, present, asks, Except.ok.inj (extraction.symm.trans extracted), story⟩
  | refusal workload extraction => cases extraction.symm.trans extracted
  | relay asks story => exact absurd role story.not_workload

theorem relay_of_created (reached : empty.run moves = some s)
    (created : .create id coordinator request ∈ moves)
    (role : Role.classify request.containerName ≠ .workload) :
    ∃ r : Relay, r.request = request ∧
      r.Story (Role.classify request.containerName) (s.trail id) := by
  obtain ⟨call, -, story⟩ := story_of_mem reached created rfl
  generalize s.trail id = trail at story ⊢
  cases story with
  | workload workload => exact absurd workload role
  | refusal workload => exact absurd workload role
  | relay asks story => exact ⟨_, asks, story⟩

/-- A creation passes its request on unchanged, apart from the endpoint of a sidecar, and asks
nothing twice. -/
theorem requests_forwarded_once (reached : empty.run moves = some s)
    (created : .create id coordinator request ∈ moves) (finished : .finished result ∈ s.trail id)
    (idle : s.Idle) : Forwarded s id coordinator request result where
  refused error role extracted := by
    have told := trail_of_refused reached created role extracted
    obtain rfl : result = .created (.error error) := by simpa [told] using finished
    exact ⟨rfl, told, stores_of_idle reached (by rw [told]; rfl)⟩
  launched boot role extracted := by
    obtain ⟨w, present, rfl, rfl, story⟩ := workload_of_launched reached created role extracted
    obtain ⟨placeholder, machine⟩ := idle.tasks_started present
    exact ⟨story.questions_create placeholder, story.questions_boot machine,
      story.questions_remove, story.questions_stop⟩
  wired role := by
    obtain ⟨r, rfl, story⟩ := relay_of_created reached created (by simp [role])
    rcases story.of_finished finished with ⟨-, missed⟩ | ⟨endpoint, outcome, brings, same, told⟩
    · exact .inl missed
    · rw [role] at brings
      cases endpoint with
      | none => cases brings
      | some endpoint =>
          refine .inr ⟨endpoint, outcome, same, ?_⟩
          simpa [Relay.prelude, Relay.forwarded, Relay.wire_eq] using told
  consumed newer endpoint earlier split present there := by
    -- The take has touched the sandbox, so the last publication comes behind it.
    rw [← (replay_history reached).1, split] at there
    exact (lastPublished_of_get? there).mem_of_touched (by simp [Event.touches]) rfl
  other role := by
    obtain ⟨r, rfl, story⟩ := relay_of_created reached created (by simp [role])
    rcases story.of_finished finished with ⟨sidecar, -⟩ | ⟨endpoint, outcome, brings, same, told⟩
    · cases role.symm.trans sidecar
    · rw [role] at brings
      cases endpoint with
      | some endpoint => cases brings
      | none => exact ⟨outcome, same, told, stores_of_idle reached (by rw [told]; rfl)⟩

/-- The boot of a workload fails before its placeholder does, and a sidecar meets a panic. -/
def setbacks : List Move :=
  Sample.started 0 true "pod-1" ++
    [.publish "pod-2" ⟨"10.0.0.2", 50051⟩, .receive 0 (.booted (.error (.supervisor "boot" "busy"))),
      .create 1 (Sample.coordinator true) (Sample.sidecar "pod-2"), .proceed 0, .proceed 1,
      .proceed 1, .receive 0 (.created (.panic "gone")), .receive 1 (.created (.panic "gone"))]

theorem requests_forwarded_once_setbacks :
    ∃ s first second, empty.run setbacks = some s ∧ s.Idle ∧
      (.create 0 (Sample.coordinator true) (Sample.workload "pod-1") ∈ setbacks ∧
        .finished first ∈ s.trail 0 ∧
          Forwarded s 0 (Sample.coordinator true) (Sample.workload "pod-1") first) ∧
      (.create 1 (Sample.coordinator true) (Sample.sidecar "pod-2") ∈ setbacks ∧
        .finished second ∈ s.trail 1 ∧
          Forwarded s 1 (Sample.coordinator true) (Sample.sidecar "pod-2") second) := by
  let first : Result := .created (.error (.supervisor "boot" "busy"))
  let second : Result := .created (.panic "gone")
  have facts : (empty.run setbacks).map (fun s => decide
      (s.Idle ∧ .finished first ∈ s.trail 0 ∧ .finished second ∈ s.trail 1)) = some true := by
    decide
  obtain ⟨s, reached, same⟩ := Option.map_eq_some_iff.1 facts
  obtain ⟨idle, workload, sidecar⟩ := of_decide_eq_true same
  have opened : .create 0 (Sample.coordinator true) (Sample.workload "pod-1") ∈ setbacks := by
    decide
  have joined : .create 1 (Sample.coordinator true) (Sample.sidecar "pod-2") ∈ setbacks := by
    decide
  exact ⟨s, first, second, reached, idle,
    ⟨opened, workload, requests_forwarded_once reached opened workload idle⟩,
    ⟨joined, sidecar, requests_forwarded_once reached joined sidecar idle⟩⟩

end System

end GuestPod
