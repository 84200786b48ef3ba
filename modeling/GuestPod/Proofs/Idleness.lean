/-
This file says how the calls of an idle system stand.  No call waits for another call, and a sidecar
is served while the placeholder of its workload is still out.
-/

import GuestPod.Proofs.Delivery
import GuestPod.Proofs.Locality
import GuestPod.Proofs.Waiting

namespace GuestPod

namespace System

/-- What a call can wait for in the end, by the move that opened it. -/
inductive Pending (s : System) (id : Nat) : Move → Request → Prop where
  | boot {coordinator : Coordinator} {request : CreateRequest} {boot : BootRequest}
      (role : Role.classify request.containerName = .workload)
      (extracted : Launch.extract request.config coordinator.settings = .ok boot)
      (out : ∀ outcome, .answered (.booted outcome) ∉ s.trail id) :
      Pending s id (.create id coordinator request) (.boot boot)
  | placeholder {coordinator : Coordinator} {request : CreateRequest} {vm : Vm}
      (role : Role.classify request.containerName = .workload)
      (booted : .answered (.booted (.ok vm)) ∈ s.trail id)
      (out : ∀ outcome, .answered (.created outcome) ∉ s.trail id) :
      Pending s id (.create id coordinator request) (.create request)
  | reaping {coordinator : Coordinator} {request : CreateRequest} {vm : Vm}
      {outcome : Outcome CreateResponse}
      (role : Role.classify request.containerName = .workload)
      (booted : .answered (.booted (.ok vm)) ∈ s.trail id)
      (created : .answered (.created outcome) ∈ s.trail id)
      (failed : ∀ response, outcome ≠ .ok response)
      (strict : coordinator.settings.reapOrphanedVms = true) :
      Pending s id (.create id coordinator request) (.stop vm)
  | sidecar {coordinator : Coordinator} {request forwarded : CreateRequest}
      {endpoint : Endpoint} (role : Role.classify request.containerName = .sidecar)
      (taken : .taken request.sandbox (some endpoint) ∈ s.trail id)
      (wired : forwarded = { request with config := { request.config with
        environment := request.config.environment ++
          [⟨Contract.addressVariable, endpoint.address⟩,
            ⟨Contract.portVariable, toString endpoint.port.toNat⟩] } }) :
      Pending s id (.create id coordinator request) (.create forwarded)
  | other {coordinator : Coordinator} {request : CreateRequest}
      (role : Role.classify request.containerName = .other) :
      Pending s id (.create id coordinator request) (.create request)
  | stop {request : RemoveRequest} {vm : Vm}
      (found : .found request.container (some vm) ∈ s.trail id) :
      Pending s id (.remove id request) (.stop vm)
  | removal {request : RemoveRequest}
      (cleared : .found request.container none ∈ s.trail id ∨
        .answered (.stopped (.ok ())) ∈ s.trail id) :
      Pending s id (.remove id request) (.remove request)

variable {moves : List Move} {s next : System} {id : Nat} {request : Request}

theorem pending_of_workload {coordinator : Coordinator} {w : Workload}
    (role : Role.classify w.request.containerName = .workload)
    (settings : w.settings = coordinator.settings)
    (extracted : Launch.extract w.request.config coordinator.settings = .ok w.boot)
    (story : w.Story (s.trail id)) (awaits : w.Awaits request) :
    s.Pending id (.create id coordinator w.request) request := by
  cases awaits with
  | boot stage running =>
      refine .boot role extracted fun outcome member => ?_
      cases running.symm.trans ((story.booted_iff outcome).1 member)
  | placeholder stage running =>
      obtain ⟨booted, -⟩ := story.course.of_awaitingPlaceholder stage
      refine .placeholder role (story.booted_mem booted) fun outcome member => ?_
      cases running.symm.trans ((story.created_iff outcome).1 member)
  | stop stage =>
      obtain ⟨booted, strict, ⟨outcome, done, failed⟩, -⟩ := story.course.of_reaping stage
      refine .reaping role (story.booted_mem booted) (story.created_mem done) ?_
        (settings ▸ strict)
      rintro response rfl
      cases failed

theorem pending_of_relay {coordinator : Coordinator} {r : Relay}
    (story : r.Story (Role.classify r.request.containerName) (s.trail id))
    (awaits : r.Awaits request) : s.Pending id (.create id coordinator r.request) request := by
  cases awaits with
  | @container endpoint stage =>
      generalize told : s.trail id = trail at story
      cases story with
      | @awaiting known here brings =>
          obtain rfl := Relay.Stage.awaiting.inj (stage.symm.trans here)
          cases endpoint with
          | none => exact .other brings
          | some endpoint =>
              exact .sidecar brings (by simp [told, Relay.prelude])
                (Relay.wire_eq r.request endpoint)
      | _ => simp_all

theorem pending_of_removal {r : Removal} (story : r.Story (s.trail id))
    (awaits : r.Awaits request) : s.Pending id (.remove id r.request) request := by
  generalize told : s.trail id = trail at story
  cases awaits with
  | stop stage =>
      cases story with
      | awaitingStop here =>
          obtain rfl := Removal.Stage.awaitingStop.inj (stage.symm.trans here)
          exact .stop (by simp [told, Removal.container])
      | _ => simp_all
  | removal stage =>
      cases story with
      | awaitingRemoval here cleared =>
          refine .removal ?_
          cases cleared <;> simp [told, Removal.container]
      | _ => simp_all

/-- The story of a call tells which question is out. -/
theorem pending_of_story {origin : Move} {call : Call}
    (story : Call.Story origin call (s.trail id)) (number : origin.opened? = some id)
    (awaits : call.Awaits request) : s.Pending id origin request := by
  generalize told : s.trail id = trail at story
  cases awaits with
  | workload awaits =>
      cases story with
      | workload role settings asks extracted story =>
          obtain rfl := Option.some.inj number
          subst asks told
          exact pending_of_workload role settings extracted story awaits
  | relay awaits =>
      cases story with
      | relay asks story =>
          obtain rfl := Option.some.inj number
          subst asks told
          exact pending_of_relay story awaits
  | removal awaits =>
      cases story with
      | removal asks story =>
          obtain rfl := Option.some.inj number
          subst asks told
          exact pending_of_removal story awaits

/-- A failed boot ends its call, whatever the placeholder does. -/
theorem finished_of_bootFailed (reached : empty.run moves = some s) (idle : s.Idle)
    {outcome : Outcome Vm} (booted : .answered (.booted outcome) ∈ s.trail id)
    (failed : ∀ vm, outcome ≠ .ok vm) : ∃ result, .finished result ∈ s.trail id := by
  by_contra unfinished
  push Not at unfinished
  obtain ⟨w, present, told, machine⟩ := workload_of_booted reached booted
  obtain ⟨request, known, here, awaits⟩ :=
    idle.awaiting present ((unfinished_iff reached present).1 unfinished)
  obtain rfl := Option.some.inj (here.symm.trans present)
  cases awaits with
  | workload awaits =>
      cases awaits with
      | boot stage running => cases running.symm.trans machine
      | placeholder stage running =>
          obtain ⟨good, -⟩ := told.course.of_awaitingPlaceholder stage
          exact failed _ (Task.done.inj (machine.symm.trans good))
      | stop stage =>
          obtain ⟨good, -⟩ := told.course.of_reaping stage
          exact failed _ (Task.done.inj (machine.symm.trans good))

/-- The last publication for a sandbox is that of the call, and nothing has touched it since. -/
def Offers (s : System) (id : Nat) (sandbox : String) (endpoint : Endpoint) : Prop :=
  ∃ gap previous older,
    s.history = gap ++ ⟨some id, .published sandbox endpoint previous⟩ :: older ∧
      ∀ between ∈ gap, between.event.touches sandbox = false

section Offers

variable {sandbox : String} {endpoint : Endpoint}

/-- What is offered is there. -/
theorem Offers.get? (offers : s.Offers id sandbox endpoint)
    (reached : empty.run moves = some s) : s.stores.endpoints.get? sandbox = some endpoint := by
  obtain ⟨gap, previous, older, split, apart⟩ := offers
  rw [← (replay_history reached).1]
  exact get?_of_lastPublished ⟨gap, some id, previous, older, split, apart⟩

/-- A workload offers its own machine. -/
theorem Offers.endpoint_eq (offers : s.Offers id sandbox endpoint)
    (reached : empty.run moves = some s) {coordinator : Coordinator} {request : CreateRequest}
    (created : .create id coordinator request ∈ moves) {vm : Vm}
    (booted : .answered (.booted (.ok vm)) ∈ s.trail id) :
    endpoint = ⟨vm.address, coordinator.settings.guestPort⟩ := by
  obtain ⟨gap, previous, older, split, -⟩ := offers
  obtain ⟨_, _, known, opened, -, -, rfl, answered⟩ := author_of_published reached split
  obtain ⟨-, rfl, -⟩ := Move.create.inj (origin_unique reached opened rfl created rfl)
  have here : .answered (.booted (.ok known)) ∈ s.trail id := by
    rw [mem_trail, split]
    exact List.mem_append_right _ (List.mem_cons_of_mem _ answered)
  obtain rfl := Outcome.ok.inj (booted_unique reached here booted)
  rfl

end Offers

/-- Whether a call can go on by itself does not depend on the stores. -/
theorem proceed_eq_none_of_still {call : Call} {first : Stores} (second : Stores)
    (still : call.proceed first = none) : call.proceed second = none := by
  cases call with
  | workload w =>
      cases stage : w.stage with
      | awaitingBoot => cases task : w.machine <;> simp_all [Call.proceed, Workload.proceed]
      | awaitingPlaceholder vm =>
          cases task : w.placeholder <;> simp_all [Call.proceed, Workload.proceed]
      | _ => simp_all [Call.proceed, Workload.proceed]
  | relay r => cases stage : r.stage <;> simp_all [Call.proceed, Relay.proceed]
  | removal r => cases stage : r.stage <;> simp_all [Call.proceed, Removal.proceed]
  | _ => rfl

theorem eq_none_of_outline {first second : Option (Turn Call)}
    (same : first.map Turn.outline = second.map Turn.outline) (still : first = none) :
    second = none := by
  rw [still] at same
  exact Option.map_eq_none_iff.1 same.symm

section Sidecar

variable {middle : System} {later number : Nat} {move : Move} {r : Relay} {endpoint : Endpoint}

/-- A call that is new in an idle system is the only one that can go on. -/
theorem Idle.number_of_own (idle : s.Idle)
    (others : ∀ known, known ≠ later → middle.calls.get? known = s.calls.get? known)
    (own : move ∈ Rehearsal.ownMoves number) (moved : middle.apply move = some next) :
    number = later := by
  by_contra differ
  have still := idle number move own
  have same := others number differ
  cases present : s.calls.get? number with
  | none =>
      rw [apply_own_of_absent (same.trans present) own] at moved
      cases moved
  | some call =>
      have stuck : ∀ step : Stores → Call → Option (Turn Call),
          (step s.stores call = none → step middle.stores call = none) →
            s.advance number step = none → middle.advance number step = none := by
        intro step keeps here
        rw [advance_eq_none_iff present] at here
        exact (advance_eq_none_iff (same.trans present) _).2 (keeps here)
      rw [mem_ownMoves] at own
      suffices none : middle.apply move = none by
        rw [none] at moved
        cases moved
      rcases own with rfl | rfl | rfl
      · exact stuck _ (eq_none_of_outline Call.startPlaceholder_outline) still
      · exact stuck _ (eq_none_of_outline Call.startBoot_outline) still
      · exact stuck _ (proceed_eq_none_of_still _) still

/-- Another creation has no tasks of its own. -/
theorem proceed_of_relay (present : middle.calls.get? number = some (.relay r))
    (own : move ∈ Rehearsal.ownMoves number) (moved : middle.apply move = some next) :
    move = .proceed number := by
  rw [mem_ownMoves] at own
  rcases own with rfl | rfl | rfl
  · simp [apply, advance, present, Call.startPlaceholder] at moved
  · simp [apply, advance, present, Call.startBoot] at moved
  · rfl

/-- How far a sidecar has come for which an endpoint is there. -/
inductive Serving (sidecar : CreateRequest) (endpoint : Endpoint) (later : Nat) (s : System) :
    Prop where
  | taking (present : s.calls.get? later = some (.relay ⟨sidecar, .taking⟩))
      (quiet : s.trail later = [])
      (there : s.stores.endpoints.get? sidecar.sandbox = some endpoint) :
      Serving sidecar endpoint later s
  | forwarding (present : s.calls.get? later = some (.relay ⟨sidecar, .forwarding (some endpoint)⟩))
      (told : s.trail later = [.taken sidecar.sandbox (some endpoint)]) :
      Serving sidecar endpoint later s
  | awaiting (present : s.calls.get? later = some (.relay ⟨sidecar, .awaiting (some endpoint)⟩))
      (told : s.trail later = [.taken sidecar.sandbox (some endpoint),
        .asked (.create (Relay.wire sidecar endpoint))]) : Serving sidecar endpoint later s

namespace Serving

variable {sidecar : CreateRequest} {coordinator : Coordinator}

theorem of_create (reached : empty.run moves = some s) (fresh : s.calls.get? later = none)
    (role : Role.classify sidecar.containerName = .sidecar)
    (there : s.stores.endpoints.get? sidecar.sandbox = some endpoint)
    (moved : s.apply (.create later coordinator sidecar) = some next) :
    Serving sidecar endpoint later next := by
  have quiet : s.trail later = [] := by
    cases told reached later with
    | silent free quiet unopened => exact quiet
    | called origin call present => simp [fresh] at present
  obtain ⟨-, rfl⟩ := begin_fresh moved
  refine .taking ?_ ?_ ?_
  · simp [record, Table.get?_put, Call.create, role]
  · rw [trail_record_self, quiet]
    simp [Call.create, role]
  · simpa [record, Call.create, role] using there

/-- Its next step takes the endpoint or asks for the container. -/
theorem of_proceed (serving : Serving sidecar endpoint later middle)
    (moved : middle.apply (.proceed later) = some next) :
    Serving sidecar endpoint later next := by
  obtain ⟨call, turn, here, turned, rfl⟩ := advance_some moved
  have kept : (middle.record later turn).calls.get? later = some turn.next := by
    simp [record, Table.get?_put]
  cases serving with
  | taking present quiet there =>
      obtain rfl := Option.some.inj (here.symm.trans present)
      cases Call.proceed_takes turned with
      | relay takes =>
          cases takes with
          | taken stage found entries =>
              obtain rfl := Option.some.inj (found.symm.trans there)
              exact .forwarding kept (by rw [trail_record_self, quiet]; rfl)
          | missed stage absent entries => cases absent.symm.trans there
          | forwarded stage => cases stage
          | answered stage => cases stage
  | forwarding present told =>
      obtain rfl := Option.some.inj (here.symm.trans present)
      cases Call.proceed_takes turned with
      | relay takes =>
          cases takes with
          | forwarded stage =>
              cases stage
              exact .awaiting kept (by rw [trail_record_self, told]; rfl)
          | taken stage => cases stage
          | missed stage => cases stage
          | answered stage => cases stage
  | awaiting present told =>
      obtain rfl := Option.some.inj (here.symm.trans present)
      cases turned

theorem exists_relay (serving : Serving sidecar endpoint later middle) :
    ∃ r, middle.calls.get? later = some (.relay r) := by
  cases serving <;> exact ⟨_, by assumption⟩

/-- While the other calls rest, only the sidecar goes on. -/
theorem of_run (serving : Serving sidecar endpoint later middle) (idle : s.Idle)
    (others : ∀ known, known ≠ later → middle.calls.get? known = s.calls.get? known)
    {steps : List Move} (own : OwnSteps steps) (ran : middle.run steps = some next) :
    Serving sidecar endpoint later next ∧
      ∀ known, known ≠ later → next.calls.get? known = s.calls.get? known := by
  induction steps generalizing middle with
  | nil =>
      obtain rfl := Option.some.inj ran
      exact ⟨serving, others⟩
  | cons step rest ih =>
      rw [run_cons, Option.bind_eq_some_iff] at ran
      obtain ⟨after, moved, further⟩ := ran
      -- The other calls stood still before the sidecar came, and nothing has reached them since.
      obtain ⟨number, here⟩ := own step List.mem_cons_self
      obtain rfl := idle.number_of_own others here moved
      obtain ⟨r, present⟩ := serving.exists_relay
      obtain rfl := proceed_of_relay present here moved
      refine ih (serving.of_proceed moved) (fun known differ => ?_)
        (fun other member => own other (List.mem_cons_of_mem _ member)) further
      rw [call_of_apply moved (fun same => differ (Option.some.inj same).symm)]
      exact others known differ

/-- At rest the sidecar has asked for its container. -/
theorem of_idle (serving : Serving sidecar endpoint later next) (idle : next.Idle) :
    next.Awaiting later (.create (Relay.wire sidecar endpoint)) ∧
      next.trail later = [.taken sidecar.sandbox (some endpoint),
        .asked (.create (Relay.wire sidecar endpoint))] := by
  cases serving with
  | taking present quiet there => cases (idle.still present).2.2
  | forwarding present told => cases (idle.still present).2.2
  | awaiting present told =>
      have awaits : Relay.Awaits ⟨sidecar, .awaiting (some endpoint)⟩
          (.create (Relay.forwarded sidecar (some endpoint))) := .container rfl
      exact ⟨⟨_, present, .relay awaits⟩, told⟩

end Serving

end Sidecar

/-- How the calls of an idle system stand. -/
structure Standing (moves : List Move) (s : System) : Prop where
  /-- Each call without a result waits for the answer to one question, and to one of its own. -/
  waits : ∀ origin ∈ moves, ∀ id, origin.opened? = some id →
    (∀ result, .finished result ∉ s.trail id) →
      ∃ request, s.Pending id origin request ∧ s.Waits id request ∧
        ∀ other, s.Waits id other → other = request
  /-- A workload whose boot has failed is finished, whatever its placeholder does. -/
  bootFailed : ∀ id outcome, .answered (.booted outcome) ∈ s.trail id →
    (∀ vm, outcome ≠ .ok vm) → ∃ result, .finished result ∈ s.trail id
  /-- A sidecar that comes while the placeholder of a workload is out, and whose workload still
  offers its machine, asks for its container with this machine before anything else happens. -/
  served : ∀ id coordinator request vm endpoint, .create id coordinator request ∈ moves →
    .answered (.booted (.ok vm)) ∈ s.trail id → s.Waits id (.create request) →
      s.Offers id request.sandbox endpoint →
        endpoint = ⟨vm.address, coordinator.settings.guestPort⟩ ∧
          ∀ later other sidecar, s.calls.get? later = none →
            Role.classify sidecar.containerName = .sidecar → sidecar.sandbox = request.sandbox →
              (∃ steps next, OwnSteps steps ∧
                s.run (.create later other sidecar :: steps) = some next ∧ next.Idle) ∧
              ∀ steps next, OwnSteps steps →
                s.run (.create later other sidecar :: steps) = some next → next.Idle →
                  ∃ forwarded, forwarded = { sidecar with config := { sidecar.config with
                    environment := sidecar.config.environment ++
                      [⟨Contract.addressVariable, endpoint.address⟩,
                        ⟨Contract.portVariable, toString endpoint.port.toNat⟩] } } ∧
                  next.trail later = [.taken request.sandbox (some endpoint),
                    .asked (.create forwarded)] ∧
                  next.Waits later (.create forwarded) ∧ next.Waits id (.create request)

/-- In an idle system no call waits for anything but its own collaborator. -/
theorem idle_calls_wait (reached : empty.run moves = some s) (idle : s.Idle) :
    Standing moves s where
  waits origin member id number unfinished := by
    obtain ⟨call, present, story⟩ := story_of_mem reached member number
    obtain ⟨request, awaiting⟩ :=
      idle.awaiting present ((unfinished_iff reached present).1 unfinished)
    have waits := awaiting.waits reached
    obtain ⟨known, here, awaits⟩ := awaiting
    obtain rfl := Option.some.inj (here.symm.trans present)
    exact ⟨request, pending_of_story story number awaits, waits, fun other => waits.unique⟩
  bootFailed id outcome booted failed := finished_of_bootFailed reached idle booted failed
  served id coordinator request vm endpoint created booted waits offers := by
    refine ⟨offers.endpoint_eq reached created booted, ?_⟩
    intro later other sidecar fresh role same
    obtain ⟨middle, moved⟩ : ∃ middle, s.apply (.create later other sidecar) = some middle :=
      ⟨_, begin_of_fresh fresh _⟩
    have there : s.stores.endpoints.get? sidecar.sandbox = some endpoint := by
      rw [same]
      exact offers.get? reached
    have serving := Serving.of_create reached fresh role there moved
    have others : ∀ known, known ≠ later → middle.calls.get? known = s.calls.get? known :=
      fun known differ => call_of_apply moved fun clash => differ (Option.some.inj clash).symm
    refine ⟨?_, fun steps next own ran rest => ?_⟩
    · obtain ⟨steps, next, own, ran, rest⟩ := exists_idle middle
      exact ⟨steps, next, own, by simp [moved, ran], rest⟩
    · have further : middle.run steps = some next := by simpa [moved] using ran
      have arrived : empty.run (moves ++ .create later other sidecar :: steps) = some next := by
        rw [run_append, reached, Option.bind_some, ran]
      obtain ⟨served, kept⟩ := serving.of_run idle others own further
      obtain ⟨awaiting, told⟩ := served.of_idle rest
      rw [same] at told
      refine ⟨_, Relay.wire_eq sidecar endpoint, told, awaiting.waits arrived, ?_⟩
      refine ((idle.awaiting_of_waits reached waits).of_run ran fun reply member => ?_).waits arrived
      rcases List.mem_cons.1 member with clash | inside
      · cases clash
      · obtain ⟨number, step⟩ := own _ inside
        simp [mem_ownMoves] at step

/-- Six calls at once.  The last step of all publishes the machine of the first one. -/
def crowd : List Move :=
  Sample.started 0 true "pod-1" ++ Sample.started 1 false "pod-2" ++
    Sample.started 2 true "pod-3" ++ Sample.started 3 false "pod-4" ++
    [.receive 1 (.created (.error (.internal "full"))),
      .receive 2 (.created (.panic "gone")),
      .receive 2 (.booted (.ok (Sample.machine "vm-2" "10.0.0.3"))), .proceed 2, .proceed 2,
      .receive 3 (.booted (.panic "gone")), .proceed 3,
      .register "c" (Sample.machine "vm-3" "10.0.0.4"), .remove 4 ⟨"c"⟩, .proceed 4, .proceed 4,
      .create 5 (Sample.coordinator true) (CreateRequest.named "pod-5" "logger"), .proceed 5,
      .receive 0 (.booted (.ok (Sample.machine "vm-1" "10.0.0.2"))), .proceed 0]

theorem idle_calls_wait_crowd :
    ∃ s, empty.run crowd = some s ∧ s.Idle ∧
      s.Waits 0 (.create (Sample.workload "pod-1")) ∧
        s.Offers 0 "pod-1" ⟨"10.0.0.2", 50051⟩ ∧ Standing crowd s := by
  let vm := Sample.machine "vm-1" "10.0.0.2"
  let first : Call := .workload ⟨(Sample.coordinator true).settings, Sample.workload "pod-1",
    Sample.boot, .running, .done (.ok vm), .awaitingPlaceholder vm⟩
  have facts : (empty.run crowd).map (fun s =>
      (decide s.Idle, s.calls.get? 0, s.history.head?)) =
        some (true, some first, some ⟨some 0, .published "pod-1" ⟨"10.0.0.2", 50051⟩ none⟩) := by
    decide
  obtain ⟨s, reached, same⟩ := Option.map_eq_some_iff.1 facts
  obtain ⟨idle, rest⟩ := Prod.mk.inj same
  obtain ⟨present, newest⟩ := Prod.mk.inj rest
  have still := of_decide_eq_true idle
  have awaiting : s.Awaiting 0 (.create (Sample.workload "pod-1")) :=
    ⟨first, present, .workload (.placeholder rfl rfl)⟩
  obtain ⟨older, split⟩ := List.head?_eq_some_iff.1 newest
  exact ⟨s, reached, still, awaiting.waits reached, ⟨[], none, older, split, by simp⟩,
    idle_calls_wait reached still⟩

end System

end GuestPod
