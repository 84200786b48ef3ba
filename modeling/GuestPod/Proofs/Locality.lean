/-
This file says what a call reads and writes.  It meets the endpoint of its own sandbox and the
entry of its own container and nothing else.
-/

import GuestPod.Proofs.Author
import GuestPod.Proofs.Replay

namespace GuestPod

/-- A turn as it looks from outside of the stores. -/
def Turn.outline {σ : Type} (turn : Turn σ) : σ × List Event × List Log.Entry :=
  (turn.next, turn.events, turn.entries)

/-- Turns that look alike still do when their calls are wrapped. -/
theorem Turn.outline_lift {σ τ : Type} (f : σ → τ) {first second : Option (Turn σ)}
    (same : first.map Turn.outline = second.map Turn.outline) :
    (first.map (·.map f)).map Turn.outline = (second.map (·.map f)).map Turn.outline := by
  have lifted := congrArg (Option.map fun outline => (f outline.1, outline.2)) same
  rw [Option.map_map, Option.map_map] at lifted ⊢
  exact lifted

/-- A registration tells of the entry of its own container only. -/
theorem Stores.register_event {first second : Stores} {container : String}
    (same : first.vms.get? container = second.vms.get? container) (vm : Vm) :
    (first.register container vm).2.1 = (second.register container vm).2.1 := by
  cases found : second.vms.get? container with
  | none => rw [register_free (same.trans found), register_free found]
  | some holder => rw [register_taken (same.trans found), register_taken found]

namespace Workload

variable {w : Workload} {first second : Stores}

theorem afterBoot_outline
    (sandbox : first.endpoints.get? w.sandbox = second.endpoints.get? w.sandbox)
    (outcome : Outcome Vm) :
    (w.afterBoot first outcome).outline = (w.afterBoot second outcome).outline := by
  cases outcome with
  | ok vm =>
      simp only [afterBoot, Stores.publish, EndpointStore.publish, Turn.outline, sandbox]
  | error e => rfl
  | panic text => rfl

theorem release_outline (vm : Vm) (error : Error) (entries : List Log.Entry) :
    (w.release first vm error entries).outline = (w.release second vm error entries).outline := by
  unfold release
  split <;> rfl

theorem afterPlaceholder_outline (vm : Vm) (outcome : Outcome CreateResponse)
    (container : ∀ response, outcome = .ok response →
      first.vms.get? response.container = second.vms.get? response.container) :
    (w.afterPlaceholder first vm outcome).outline =
      (w.afterPlaceholder second vm outcome).outline := by
  cases outcome with
  | ok response =>
      have same := container response rfl
      cases found : second.vms.get? response.container with
      | none =>
          simp only [afterPlaceholder, Stores.register_free found,
            Stores.register_free (same.trans found)]
          rfl
      | some holder =>
          simp only [afterPlaceholder, Stores.register_taken found,
            Stores.register_taken (same.trans found)]
          rfl
  | error e => exact release_outline vm e _
  | panic text => exact release_outline vm _ _

theorem afterReaping_outline (vm : Vm) (error : Error) (outcome : Outcome Unit) :
    (w.afterReaping first vm error outcome).outline =
      (w.afterReaping second vm error outcome).outline := by
  cases outcome <;> rfl

theorem proceed_outline
    (sandbox : first.endpoints.get? w.sandbox = second.endpoints.get? w.sandbox)
    (container : ∀ response, w.placeholder = .done (.ok response) →
      first.vms.get? response.container = second.vms.get? response.container) :
    (w.proceed first).map Turn.outline = (w.proceed second).map Turn.outline := by
  unfold proceed
  split
  · split
    · next outcome done => exact congrArg some (afterBoot_outline sandbox outcome)
    · rfl
  · next vm stage =>
      split
      · next outcome done =>
          refine congrArg some (afterPlaceholder_outline vm outcome fun response same => ?_)
          exact container response (same ▸ done)
      · rfl
  · rfl

theorem startPlaceholder_outline :
    (w.startPlaceholder first).map Turn.outline = (w.startPlaceholder second).map Turn.outline := by
  unfold startPlaceholder
  split <;> rfl

theorem startBoot_outline :
    (w.startBoot first).map Turn.outline = (w.startBoot second).map Turn.outline := by
  unfold startBoot
  split <;> rfl

theorem receive_outline (reply : Reply) :
    (w.receive first reply).map Turn.outline = (w.receive second reply).map Turn.outline := by
  unfold receive
  split
  · split <;> rfl
  · split <;> rfl
  · split
    · exact congrArg some (afterReaping_outline _ _ _)
    · rfl
  · rfl

end Workload

namespace Relay

variable {r : Relay} {first second : Stores}

theorem proceed_outline
    (sandbox : first.endpoints.get? r.request.sandbox = second.endpoints.get? r.request.sandbox) :
    (r.proceed first).map Turn.outline = (r.proceed second).map Turn.outline := by
  unfold proceed
  split
  · refine congrArg some ?_
    cases found : second.endpoints.get? r.request.sandbox with
    | none => simp [take, Stores.take, EndpointStore.take, Turn.outline, sandbox, found]
    | some endpoint => simp [take, Stores.take, EndpointStore.take, Turn.outline, sandbox, found]
  · rfl
  · rfl

theorem receive_outline (reply : Reply) :
    (r.receive first reply).map Turn.outline = (r.receive second reply).map Turn.outline := by
  unfold receive
  split
  · split <;> rfl
  · rfl

end Relay

namespace Removal

variable {r : Removal} {first second : Stores}

theorem find_outline
    (container : first.vms.get? r.container = second.vms.get? r.container) :
    (r.find first).outline = (r.find second).outline := by
  cases found : second.vms.get? r.container with
  | none => simp [find, Stores.find, move, Turn.outline, container, found]
  | some vm => simp [find, Stores.find, move, Turn.outline, container, found]

theorem proceed_outline
    (container : first.vms.get? r.container = second.vms.get? r.container) :
    (r.proceed first).map Turn.outline = (r.proceed second).map Turn.outline := by
  unfold proceed
  split
  · exact congrArg some (find_outline container)
  · rfl
  · simp [drop, Stores.drop, VmRegistry.drop, move, Turn.outline, container]
  · rfl
  · rfl

theorem receive_outline (reply : Reply) :
    (r.receive first reply).map Turn.outline = (r.receive second reply).map Turn.outline := by
  unfold receive
  split
  · next outcome =>
      split
      · cases outcome <;> rfl
      · rfl
  · split <;> rfl
  · rfl

end Removal

namespace Call

/-- Two pairs of stores agree on everything that a call can meet next. -/
def Agrees (first second : Stores) : Call → Prop
  | .workload w => first.endpoints.get? w.sandbox = second.endpoints.get? w.sandbox ∧
      ∀ response, w.placeholder = .done (.ok response) →
        first.vms.get? response.container = second.vms.get? response.container
  | .relay r => first.endpoints.get? r.request.sandbox = second.endpoints.get? r.request.sandbox
  | .removal r => first.vms.get? r.container = second.vms.get? r.container
  | _ => True

variable {call : Call} {first second : Stores}

theorem proceed_outline (agrees : call.Agrees first second) :
    (call.proceed first).map Turn.outline = (call.proceed second).map Turn.outline := by
  cases call with
  | workload w => exact Turn.outline_lift _ (Workload.proceed_outline agrees.1 agrees.2)
  | relay r => exact Turn.outline_lift _ (Relay.proceed_outline agrees)
  | removal r => exact Turn.outline_lift _ (Removal.proceed_outline agrees)
  | refusal request error => rfl
  | forgetting sandbox present => rfl

theorem startPlaceholder_outline :
    (call.startPlaceholder first).map Turn.outline =
      (call.startPlaceholder second).map Turn.outline := by
  cases call with
  | workload w => exact Turn.outline_lift _ Workload.startPlaceholder_outline
  | _ => rfl

theorem startBoot_outline :
    (call.startBoot first).map Turn.outline = (call.startBoot second).map Turn.outline := by
  cases call with
  | workload w => exact Turn.outline_lift _ Workload.startBoot_outline
  | _ => rfl

theorem receive_outline (reply : Reply) :
    (call.receive reply first).map Turn.outline = (call.receive reply second).map Turn.outline := by
  cases call with
  | workload w => exact Turn.outline_lift _ (Workload.receive_outline reply)
  | relay r => exact Turn.outline_lift _ (Relay.receive_outline reply)
  | removal r => exact Turn.outline_lift _ (Removal.receive_outline reply)
  | refusal request error => rfl
  | forgetting sandbox present => rfl

theorem create_outline (coordinator : Coordinator) (request : CreateRequest) :
    (create coordinator request first).outline = (create coordinator request second).outline := by
  unfold create
  split
  · split <;> rfl
  · rfl
  · rfl

theorem forget_outline {sandbox : String}
    (same : first.endpoints.get? sandbox = second.endpoints.get? sandbox) :
    (forget sandbox first).outline = (forget sandbox second).outline := by
  cases found : second.endpoints.get? sandbox with
  | none => simp [forget, Stores.forget, EndpointStore.forget, Table.contains, Turn.outline,
      same, found]
  | some endpoint => simp [forget, Stores.forget, EndpointStore.forget, Table.contains,
      Turn.outline, same, found]

end Call

namespace Move

/-- The sandbox that a move names. -/
def sandbox? : Move → Option String
  | .create _ _ request => some request.sandbox
  | .forget _ sandbox => some sandbox
  | .publish sandbox _ => some sandbox
  | .take sandbox => some sandbox
  | _ => none

/-- The container that a move names. -/
def container? : Move → Option String
  | .remove _ request => some request.container
  | .register container _ => some container
  | .drop container => some container
  | _ => none

/-- The number of the call that creates a workload. -/
def workload? : Move → Option Nat
  | .create id _ request =>
      if Role.classify request.containerName = .workload then some id else none
  | _ => none

theorem opened?_of_workload? (move : Move) {id : Nat} (number : move.workload? = some id) :
    move.opened? = some id := by
  cases move with
  | create other coordinator request =>
      obtain ⟨role, same⟩ := Option.ite_none_right_eq_some.1 number
      exact same
  | _ => cases number

/-- A call names the container that it removes, or the one that its placeholder has come to. -/
def NamesContainer (origin : Move) (trail : List Event) (container : String) : Prop :=
  origin.container? = some container ∨ origin.workload?.isSome ∧
    ∃ response, .answered (.created (.ok response)) ∈ trail ∧ response.container = container

theorem NamesContainer.mono {origin : Move} {trail longer : List Event} {container : String}
    (named : origin.NamesContainer trail container) (within : trail ⊆ longer) :
    origin.NamesContainer longer container := by
  rcases named with own | ⟨workload, response, answered, same⟩
  · exact .inl own
  · exact .inr ⟨workload, response, within answered, same⟩

end Move

/-- A workload touches its own sandbox only. -/
theorem Workload.Course.touches {w : Workload} {events : List Event} (course : w.Course events)
    (sandbox : String) : ∀ event ∈ events, event.touches sandbox = true → w.sandbox = sandbox := by
  cases course <;> simp [Workload.publication, Event.touches]

/-- A workload changes the entry of its own placeholder only. -/
theorem Workload.Course.changes {w : Workload} {events : List Event} (course : w.Course events)
    (container : String) : ∀ event ∈ events, event.changes container = true →
      ∃ response, w.placeholder = .done (.ok response) ∧ response.container = container := by
  cases course <;> simp_all [Workload.publication, Event.changes]

/-- Another creation touches its own sandbox and changes nothing. -/
theorem Relay.Story.confined {role : Role} {r : Relay} {trail : List Event}
    (story : r.Story role trail) : ∀ event ∈ trail,
      (∀ sandbox, event.touches sandbox = true → r.request.sandbox = sandbox) ∧
        ∀ container, event.changes container = false := by
  cases story with
  | forwarding endpoint => cases endpoint <;> simp [Relay.prelude, Event.touches, Event.changes]
  | @awaiting endpoint => cases endpoint <;> simp [Relay.prelude, Event.touches, Event.changes]
  | @answered endpoint => cases endpoint <;> simp [Relay.prelude, Event.touches, Event.changes]
  | _ => simp [Event.touches, Event.changes]

/-- A removal touches nothing and changes the entry of its own container. -/
theorem Removal.Story.confined {r : Removal} {trail : List Event} (story : r.Story trail) :
    ∀ event ∈ trail, (∀ sandbox, event.touches sandbox = false) ∧
      ∀ container, event.changes container = true → r.container = container := by
  cases story with
  | removing stage cleared => cases cleared <;> simp [Event.touches, Event.changes]
  | awaitingRemoval stage cleared => cases cleared <;> simp [Event.touches, Event.changes]
  | removed stage cleared => cases cleared <;> simp [Event.touches, Event.changes]
  | _ => simp [Event.touches, Event.changes]

namespace Call.Story

variable {origin : Move} {call : Call} {trail : List Event} {event : Event}

/-- A call touches the sandbox that it names. -/
theorem sandbox_of_touches (story : Call.Story origin call trail) (member : event ∈ trail)
    {sandbox : String} (touched : event.touches sandbox = true) :
    origin.sandbox? = some sandbox := by
  cases story with
  | workload role settings asks extracted story =>
      have deed : event ∈ deeds trail := by
        apply mem_deeds member
        cases event <;> simp_all [Event.touches, Event.concerns]
      have own := story.course.touches sandbox event deed touched
      rw [Workload.sandbox, asks] at own
      exact congrArg some own
  | refusal role extracted =>
      obtain rfl := List.mem_singleton.1 member
      cases touched
  | relay asks story =>
      have own := (story.confined event member).1 sandbox touched
      rw [asks] at own
      exact congrArg some own
  | removal asks story =>
      have untouched := (story.confined event member).1 sandbox
      rw [touched] at untouched
      cases untouched
  | forgetting =>
      rcases List.mem_cons.1 member with rfl | last
      · simpa [Event.touches, Move.sandbox?] using touched
      · obtain rfl := List.mem_singleton.1 last
        cases touched

/-- A call changes the entry of a container that it names. -/
theorem container_of_changes (story : Call.Story origin call trail) (member : event ∈ trail)
    {container : String} (changed : event.changes container = true) :
    origin.NamesContainer trail container := by
  cases story with
  | workload role settings asks extracted story =>
      have deed : event ∈ deeds trail := by
        apply mem_deeds member
        cases event <;> simp_all [Event.changes, Event.concerns]
      obtain ⟨response, done, same⟩ := story.course.changes container event deed changed
      refine .inr ⟨?_, response, story.created_mem done, same⟩
      simp [Move.workload?, role]
  | refusal role extracted =>
      obtain rfl := List.mem_singleton.1 member
      cases changed
  | relay asks story =>
      have unchanged := (story.confined event member).2 container
      rw [changed] at unchanged
      cases unchanged
  | removal asks story =>
      have own := (story.confined event member).2 container changed
      rw [Removal.container, asks] at own
      exact .inl (congrArg some own)
  | forgetting =>
      rcases List.mem_cons.1 member with rfl | last
      · cases changed
      · obtain rfl := List.mem_singleton.1 last
        cases changed

/-- What a call can meet next belongs to the names of the call. -/
theorem agrees (story : Call.Story origin call trail) {first second : Stores}
    (endpoints : ∀ sandbox, origin.sandbox? = some sandbox →
      first.endpoints.get? sandbox = second.endpoints.get? sandbox)
    (vms : ∀ container, origin.NamesContainer trail container →
      first.vms.get? container = second.vms.get? container) : call.Agrees first second := by
  cases story with
  | workload role settings asks extracted story =>
      subst asks
      refine ⟨endpoints _ rfl, fun response done => vms _ (.inr ⟨?_, response, ?_, rfl⟩)⟩
      · simp [Move.workload?, role]
      · exact story.created_mem done
  | refusal role extracted => trivial
  | relay asks story =>
      subst asks
      exact endpoints _ rfl
  | removal asks story =>
      subst asks
      exact vms _ (.inl rfl)
  | forgetting => trivial

end Call.Story

end GuestPod
