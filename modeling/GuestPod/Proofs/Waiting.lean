/-
This file says what a call waits for.  In an idle system each call without a result waits for the
answer to one question of its own.
-/

import GuestPod.Proofs.Join
import GuestPod.Proofs.Rest

namespace GuestPod

/-- The questions of the two tasks are the only ones that are no deeds. -/
theorem dialogue_deeds {service : Service} (own : service = .stop ∨ service = .remove)
    (trail : List Event) : dialogue service (deeds trail) = dialogue service trail := by
  rw [dialogue, deeds, List.filter_filter]
  apply List.filter_congr
  intro event member
  cases event with
  | asked request => cases request <;> rcases own with rfl | rfl <;> rfl
  | answered reply => cases reply <;> rcases own with rfl | rfl <;> rfl
  | _ => rfl

namespace Workload

/-- A workload stands still until one of its questions is answered. -/
inductive Awaits (w : Workload) : Request → Prop where
  | boot (stage : w.stage = .awaitingBoot) (running : w.machine = .running) :
      Awaits w (.boot w.boot)
  | placeholder {vm : Vm} (stage : w.stage = .awaitingPlaceholder vm)
      (running : w.placeholder = .running) : Awaits w (.create w.request)
  | stop {vm : Vm} {error : Error} (stage : w.stage = .reaping vm error) : Awaits w (.stop vm)

namespace Awaits

variable {w : Workload} {request : Request} {stores : Stores} {turn : Turn Workload}

theorem unfinished (awaits : w.Awaits request) (outcome : Outcome CreateResponse) :
    w.stage ≠ .finished outcome := by
  cases awaits <;> simp_all

theorem proceed_eq_none (awaits : w.Awaits request) (stores : Stores) :
    w.proceed stores = none := by
  cases awaits <;> simp_all [proceed]

/-- The two tasks start without the call. -/
theorem of_startPlaceholder (awaits : w.Awaits request)
    (turned : w.startPlaceholder stores = some turn) : turn.next.Awaits request := by
  unfold startPlaceholder at turned
  split at turned
  · next ready =>
      cases turned
      cases awaits with
      | boot stage running => exact .boot stage running
      | placeholder stage running => cases ready.symm.trans running
      | stop stage => exact .stop stage
  · cases turned

theorem of_startBoot (awaits : w.Awaits request)
    (turned : w.startBoot stores = some turn) : turn.next.Awaits request := by
  unfold startBoot at turned
  split at turned
  · next ready =>
      cases turned
      cases awaits with
      | boot stage running => cases ready.symm.trans running
      | placeholder stage running =>
          exact Awaits.placeholder (w := { w with machine := _ }) stage running
      | stop stage => exact .stop stage
  · cases turned

/-- An answer from another service does not reach the call. -/
theorem of_receive (awaits : w.Awaits request) {reply : Reply}
    (foreign : reply.service ≠ request.service) (turned : w.receive stores reply = some turn) :
    turn.next.Awaits request := by
  unfold receive at turned
  split at turned
  · split at turned
    · cases turned
      cases awaits with
      | boot stage running => exact .boot stage running
      | placeholder stage running => exact absurd rfl foreign
      | stop stage => exact .stop stage
    · cases turned
  · split at turned
    · cases turned
      cases awaits with
      | boot stage running => exact absurd rfl foreign
      | placeholder stage running =>
          exact Awaits.placeholder (w := { w with machine := _ }) stage running
      | stop stage => exact .stop stage
    · cases turned
  · split at turned
    · next reaping =>
        cases awaits with
        | boot stage running => cases reaping.symm.trans stage
        | placeholder stage running => cases reaping.symm.trans stage
        | stop stage => exact absurd rfl foreign
    · cases turned
  · cases turned

/-- Every answer from the service that was asked lets the call go on or ends it. -/
theorem freed (awaits : w.Awaits request) {reply : Reply}
    (own : reply.service = request.service) (stores : Stores) :
    ∃ turn, w.receive stores reply = some turn ∧
      ((∃ outcome, turn.next.stage = .finished outcome) ∨
        (turn.next.proceed turn.stores).isSome) := by
  cases awaits with
  | boot stage running =>
      cases reply with
      | booted outcome =>
          refine ⟨_, by simp only [receive, running]; rfl, .inr ?_⟩
          simp [proceed, stage]
      | _ => cases own
  | placeholder stage running =>
      cases reply with
      | created outcome =>
          refine ⟨_, by simp only [receive, running]; rfl, .inr ?_⟩
          simp [proceed, stage]
      | _ => cases own
  | stop stage =>
      cases reply with
      | stopped outcome =>
          refine ⟨_, by simp only [receive, stage]; rfl, .inl ?_⟩
          cases outcome <;> exact ⟨_, rfl⟩
      | _ => cases own

/-- The question is asked, and its answer is still out. -/
theorem asked {trail : List Event} (awaits : w.Awaits request) (story : w.Story trail) :
    dialogue request.service trail = [.asked request] := by
  cases awaits with
  | boot stage running =>
      rw [Request.service, story.machine, running]
      rfl
  | placeholder stage running =>
      rw [Request.service, story.placeholder, running]
      rfl
  | @stop vm error stage =>
      obtain ⟨-, -, -, previous, told⟩ := story.course.of_reaping stage
      rw [Request.service, ← dialogue_deeds (.inl rfl), told]
      rfl

end Awaits

/-- A workload that cannot go on by itself is finished or waits for an answer. -/
theorem awaits_of_still {w : Workload} {stores : Stores} (call : w.proceed stores = none)
    (placeholder : w.startPlaceholder stores = none) (machine : w.startBoot stores = none)
    (unfinished : ∀ outcome, w.stage ≠ .finished outcome) : ∃ request, w.Awaits request := by
  cases stage : w.stage with
  | awaitingBoot =>
      cases task : w.machine with
      | ready => simp [startBoot, task] at machine
      | running => exact ⟨_, .boot stage task⟩
      | done outcome => simp [proceed, stage, task] at call
  | awaitingPlaceholder vm =>
      cases task : w.placeholder with
      | ready => simp [startPlaceholder, task] at placeholder
      | running => exact ⟨_, .placeholder stage task⟩
      | done outcome => simp [proceed, stage, task] at call
  | reaping vm error => exact ⟨_, .stop stage⟩
  | finished outcome => exact absurd stage (unfinished outcome)

end Workload

namespace Relay

/-- Another creation stands still until its container is there. -/
inductive Awaits (r : Relay) : Request → Prop where
  | container {endpoint : Option Endpoint} (stage : r.stage = .awaiting endpoint) :
      Awaits r (.create (forwarded r.request endpoint))

namespace Awaits

variable {r : Relay} {request : Request}

theorem unfinished (awaits : r.Awaits request) (outcome : Outcome CreateResponse) :
    r.stage ≠ .finished outcome := by
  cases awaits
  simp_all

theorem proceed_eq_none (awaits : r.Awaits request) (stores : Stores) :
    r.proceed stores = none := by
  cases awaits
  simp_all [proceed]

theorem of_receive (awaits : r.Awaits request) {reply : Reply}
    (foreign : reply.service ≠ request.service) (stores : Stores) :
    r.receive stores reply = none := by
  cases awaits
  cases reply with
  | created outcome => exact absurd rfl foreign
  | _ => rfl

theorem freed (awaits : r.Awaits request) {reply : Reply}
    (own : reply.service = request.service) (stores : Stores) :
    ∃ turn outcome, r.receive stores reply = some turn ∧ turn.next.stage = .finished outcome := by
  cases awaits with
  | container stage =>
      cases reply with
      | created outcome => exact ⟨_, outcome, by simp only [receive, stage]; rfl, rfl⟩
      | _ => cases own

theorem asked {role : Role} {trail : List Event} (awaits : r.Awaits request)
    (story : r.Story role trail) : dialogue request.service trail = [.asked request] := by
  cases awaits with
  | @container endpoint stage =>
      cases story with
      | awaiting here brings =>
          obtain rfl := Stage.awaiting.inj (stage.symm.trans here)
          cases endpoint <;> rfl
      | _ => simp_all

end Awaits

/-- A creation that cannot go on by itself is finished or waits for its container. -/
theorem awaits_of_still {r : Relay} {stores : Stores} (call : r.proceed stores = none)
    (unfinished : ∀ outcome, r.stage ≠ .finished outcome) : ∃ request, r.Awaits request := by
  cases stage : r.stage with
  | taking => simp [proceed, stage] at call
  | forwarding endpoint => simp [proceed, stage] at call
  | awaiting endpoint => exact ⟨_, .container stage⟩
  | finished outcome => exact absurd stage (unfinished outcome)

end Relay

namespace Removal

/-- A removal stands still until the machine has stopped, and until the container is gone. -/
inductive Awaits (r : Removal) : Request → Prop where
  | stop {vm : Vm} (stage : r.stage = .awaitingStop vm) : Awaits r (.stop vm)
  | removal (stage : r.stage = .awaitingRemoval) : Awaits r (.remove r.request)

namespace Awaits

variable {r : Removal} {request : Request}

theorem unfinished (awaits : r.Awaits request) (outcome : Outcome Unit) :
    r.stage ≠ .finished outcome := by
  cases awaits <;> simp_all

theorem proceed_eq_none (awaits : r.Awaits request) (stores : Stores) :
    r.proceed stores = none := by
  cases awaits <;> simp_all [proceed]

theorem of_receive (awaits : r.Awaits request) {reply : Reply}
    (foreign : reply.service ≠ request.service) (stores : Stores) :
    r.receive stores reply = none := by
  cases awaits with
  | stop stage =>
      cases reply with
      | stopped outcome => exact absurd rfl foreign
      | removed outcome => simp only [receive, stage]
      | _ => rfl
  | removal stage =>
      cases reply with
      | stopped outcome => simp only [receive, stage]
      | removed outcome => exact absurd rfl foreign
      | _ => rfl

theorem freed (awaits : r.Awaits request) {reply : Reply}
    (own : reply.service = request.service) (stores : Stores) :
    ∃ turn, r.receive stores reply = some turn ∧
      ((∃ outcome, turn.next.stage = .finished outcome) ∨
        (turn.next.proceed turn.stores).isSome) := by
  cases awaits with
  | @stop vm stage =>
      cases reply with
      | stopped outcome =>
          refine ⟨_, by simp only [receive, stage]; rfl, ?_⟩
          cases outcome with
          | ok value => exact .inr rfl
          | error e => exact .inl ⟨_, rfl⟩
          | panic text => exact .inl ⟨_, rfl⟩
      | _ => cases own
  | removal stage =>
      cases reply with
      | removed outcome =>
          exact ⟨_, by simp only [receive, stage]; rfl, .inl ⟨outcome, rfl⟩⟩
      | _ => cases own

theorem asked {trail : List Event} (awaits : r.Awaits request) (story : r.Story trail) :
    dialogue request.service trail = [.asked request] := by
  cases awaits with
  | stop stage =>
      cases story with
      | awaitingStop here =>
          obtain rfl := Stage.awaitingStop.inj (stage.symm.trans here)
          rfl
      | _ => simp_all
  | removal stage =>
      cases story with
      | awaitingRemoval here cleared => cases cleared <;> rfl
      | _ => simp_all

end Awaits

/-- A removal that cannot go on by itself is finished or waits for an answer. -/
theorem awaits_of_still {r : Removal} {stores : Stores} (call : r.proceed stores = none)
    (unfinished : ∀ outcome, r.stage ≠ .finished outcome) : ∃ request, r.Awaits request := by
  cases stage : r.stage with
  | awaitingStop vm => exact ⟨_, .stop stage⟩
  | awaitingRemoval => exact ⟨_, .removal stage⟩
  | finished outcome => exact absurd stage (unfinished outcome)
  | _ => simp [proceed, stage] at call

end Removal

namespace Call

/-- A call waits as its kind does. -/
inductive Awaits : Call → Request → Prop where
  | workload {w : Workload} {request : Request} (awaits : w.Awaits request) :
      Awaits (.workload w) request
  | relay {r : Relay} {request : Request} (awaits : r.Awaits request) : Awaits (.relay r) request
  | removal {r : Removal} {request : Request} (awaits : r.Awaits request) :
      Awaits (.removal r) request

namespace Awaits

variable {call : Call} {request : Request} {stores : Stores} {turn : Turn Call}

theorem result?_eq_none (awaits : call.Awaits request) : call.result? = none := by
  cases awaits with
  | @workload w _ awaits =>
      cases stage : w.stage with
      | finished outcome => exact absurd stage (awaits.unfinished outcome)
      | _ => simp only [result?, stage]
  | @relay r _ awaits =>
      cases stage : r.stage with
      | finished outcome => exact absurd stage (awaits.unfinished outcome)
      | _ => simp only [result?, stage]
  | @removal r _ awaits =>
      cases stage : r.stage with
      | finished outcome => exact absurd stage (awaits.unfinished outcome)
      | _ => simp only [result?, stage]

theorem proceed_eq_none (awaits : call.Awaits request) (stores : Stores) :
    call.proceed stores = none := by
  cases awaits with
  | workload awaits => simp only [proceed, awaits.proceed_eq_none, Option.map_none]
  | relay awaits => simp only [proceed, awaits.proceed_eq_none, Option.map_none]
  | removal awaits => simp only [proceed, awaits.proceed_eq_none, Option.map_none]

theorem of_startPlaceholder (awaits : call.Awaits request)
    (turned : call.startPlaceholder stores = some turn) : turn.next.Awaits request := by
  cases awaits with
  | workload awaits =>
      obtain ⟨inner, taken, rfl⟩ := Option.map_eq_some_iff.1 turned
      exact .workload (awaits.of_startPlaceholder taken)
  | relay awaits => cases turned
  | removal awaits => cases turned

theorem of_startBoot (awaits : call.Awaits request)
    (turned : call.startBoot stores = some turn) : turn.next.Awaits request := by
  cases awaits with
  | workload awaits =>
      obtain ⟨inner, taken, rfl⟩ := Option.map_eq_some_iff.1 turned
      exact .workload (awaits.of_startBoot taken)
  | relay awaits => cases turned
  | removal awaits => cases turned

theorem of_receive (awaits : call.Awaits request) {reply : Reply}
    (foreign : reply.service ≠ request.service)
    (turned : call.receive reply stores = some turn) : turn.next.Awaits request := by
  cases awaits with
  | workload awaits =>
      obtain ⟨inner, taken, rfl⟩ := Option.map_eq_some_iff.1 turned
      exact .workload (awaits.of_receive foreign taken)
  | relay awaits => simp [receive, awaits.of_receive foreign] at turned
  | removal awaits => simp [receive, awaits.of_receive foreign] at turned

/-- Every answer from the service that was asked ends the call or lets it go on. -/
theorem freed (awaits : call.Awaits request) {reply : Reply}
    (own : reply.service = request.service) (stores : Stores) :
    ∃ turn, call.receive reply stores = some turn ∧
      (turn.next.result?.isSome ∨ (turn.next.proceed turn.stores).isSome) := by
  cases awaits with
  | workload awaits =>
      obtain ⟨turn, turned, free⟩ := awaits.freed own stores
      refine ⟨turn.map .workload, by simp only [receive, turned, Option.map_some], ?_⟩
      rcases free with ⟨outcome, stage⟩ | further
      · exact .inl (by simp [Turn.map, result?, stage])
      · exact .inr (by simpa [Turn.map, proceed] using further)
  | relay awaits =>
      obtain ⟨turn, outcome, turned, stage⟩ := awaits.freed own stores
      refine ⟨turn.map .relay, by simp only [receive, turned, Option.map_some], .inl ?_⟩
      simp [Turn.map, result?, stage]
  | removal awaits =>
      obtain ⟨turn, turned, free⟩ := awaits.freed own stores
      refine ⟨turn.map .removal, by simp only [receive, turned, Option.map_some], ?_⟩
      rcases free with ⟨outcome, stage⟩ | further
      · exact .inl (by simp [Turn.map, result?, stage])
      · exact .inr (by simpa [Turn.map, proceed] using further)

theorem asked {origin : Move} {trail : List Event} (awaits : call.Awaits request)
    (story : Call.Story origin call trail) :
    dialogue request.service trail = [.asked request] := by
  cases awaits with
  | workload awaits =>
      cases story with
      | workload role settings asks extracted story => exact awaits.asked story
  | relay awaits =>
      cases story with
      | relay asks story => exact awaits.asked story
  | removal awaits =>
      cases story with
      | removal asks story => exact awaits.asked story

end Awaits

/-- A call that cannot go on by itself has a result or waits for an answer. -/
theorem awaits_of_still {call : Call} {stores : Stores} (own : call.proceed stores = none)
    (placeholder : call.startPlaceholder stores = none) (machine : call.startBoot stores = none)
    (unfinished : call.result? = none) : ∃ request, call.Awaits request := by
  cases call with
  | workload w =>
      obtain ⟨request, awaits⟩ := Workload.awaits_of_still (Option.map_eq_none_iff.1 own)
        (Option.map_eq_none_iff.1 placeholder) (Option.map_eq_none_iff.1 machine)
        fun outcome stage => by simp [result?, stage] at unfinished
      exact ⟨request, .workload awaits⟩
  | relay r =>
      obtain ⟨request, awaits⟩ := Relay.awaits_of_still (Option.map_eq_none_iff.1 own)
        fun outcome stage => by simp [result?, stage] at unfinished
      exact ⟨request, .relay awaits⟩
  | removal r =>
      obtain ⟨request, awaits⟩ := Removal.awaits_of_still (Option.map_eq_none_iff.1 own)
        fun outcome stage => by simp [result?, stage] at unfinished
      exact ⟨request, .removal awaits⟩
  | refusal request error => cases unfinished
  | forgetting sandbox present => cases unfinished

end Call

namespace System

/-- A call has no result and cannot go on by itself. -/
def Blocked (s : System) (id : Nat) : Prop :=
  (∀ result, .finished result ∉ s.trail id) ∧ s.apply (.proceed id) = none

/-- A call waits for the answer to one question. -/
structure Waits (s : System) (id : Nat) (request : Request) : Prop where
  /-- The call has asked this service once, and the answer is still out. -/
  asked : dialogue request.service (s.trail id) = [.asked request]
  /-- Without the answer the call stays blocked, whatever else happens. -/
  blocked : ∀ moves next, s.run moves = some next →
    (∀ reply, .receive id reply ∈ moves → reply.service ≠ request.service) → next.Blocked id
  /-- Any answer can come at once, and it ends the call or lets it go on. -/
  freed : ∀ reply, reply.service = request.service →
    ∃ next, s.apply (.receive id reply) = some next ∧ ¬next.Blocked id

/-- The call with this number waits for an answer, as its stage tells. -/
def Awaiting (s : System) (id : Nat) (request : Request) : Prop :=
  ∃ call, s.calls.get? id = some call ∧ call.Awaits request

theorem exists_reply (service : Service) : ∃ reply : Reply, reply.service = service := by
  cases service with
  | create => exact ⟨.created (.panic ""), rfl⟩
  | remove => exact ⟨.removed (.panic ""), rfl⟩
  | boot => exact ⟨.booted (.panic ""), rfl⟩
  | stop => exact ⟨.stopped (.panic ""), rfl⟩

variable {moves : List Move} {s next : System} {move : Move} {id : Nat} {request : Request}

/-- No call waits for two answers. -/
theorem Waits.unique {other : Request} (first : s.Waits id request) (second : s.Waits id other) :
    other = request := by
  by_cases same : request.service = other.service
  · have asked := second.asked
    rw [← same, first.asked] at asked
    exact (Event.asked.inj (List.cons_eq_cons.1 asked).1).symm
  · -- The answer to one question would free a call that is blocked until the other is answered.
    obtain ⟨reply, own⟩ := exists_reply request.service
    obtain ⟨next, moved, free⟩ := first.freed reply own
    refine absurd (second.blocked [.receive id reply] next (by simp [moved]) ?_) free
    intro known member
    obtain ⟨-, rfl⟩ := Move.receive.inj (List.mem_singleton.1 member)
    rw [own]
    exact same

/-- A move of another call leaves a call where it is. -/
theorem call_of_apply (moved : s.apply move = some next) (foreign : move.caller? ≠ some id) :
    next.calls.get? id = s.calls.get? id := by
  cases caller : move.caller? with
  | some number =>
      have differ : number ≠ id := fun same => foreign (same ▸ caller)
      cases acts_of_apply moved caller with
      | opened fresh known opens same => simp [same, record, Table.get?_put, differ]
      | advanced present known takes same => simp [same, record, Table.get?_put, differ]
  | none =>
      obtain ⟨event, stores, accesses, rfl⟩ := accesses_of_apply moved caller
      rfl

/-- A waiting call goes on waiting until its own answer comes. -/
theorem Awaiting.of_apply (awaiting : s.Awaiting id request) (moved : s.apply move = some next)
    (foreign : ∀ reply, move = .receive id reply → reply.service ≠ request.service) :
    next.Awaiting id request := by
  obtain ⟨call, present, awaits⟩ := awaiting
  by_cases own : move.caller? = some id
  · have advanced : ∀ {step : Stores → Call → Option (Turn Call)},
        s.advance id step = some next →
          (∀ turn, step s.stores call = some turn → turn.next.Awaits request) →
            next.Awaiting id request := by
      intro step moved keeps
      obtain ⟨known, turn, here, turned, rfl⟩ := advance_some moved
      obtain rfl := Option.some.inj (here.symm.trans present)
      exact ⟨turn.next, by simp [record, Table.get?_put], keeps turn turned⟩
    have begun : ∀ {opening : Stores → Turn Call}, s.begin id opening = some next →
        next.Awaiting id request := by
      intro opening moved
      rw [(begin_fresh moved).1] at present
      cases present
    cases move with
    | create number coordinator request =>
        obtain rfl := Option.some.inj own
        exact begun moved
    | remove number request =>
        obtain rfl := Option.some.inj own
        exact begun moved
    | forget number sandbox =>
        obtain rfl := Option.some.inj own
        exact begun moved
    | proceed number =>
        obtain rfl := Option.some.inj own
        refine advanced moved fun turn turned => ?_
        rw [awaits.proceed_eq_none] at turned
        cases turned
    | startPlaceholder number =>
        obtain rfl := Option.some.inj own
        exact advanced moved fun turn turned => awaits.of_startPlaceholder turned
    | startBoot number =>
        obtain rfl := Option.some.inj own
        exact advanced moved fun turn turned => awaits.of_startBoot turned
    | receive number reply =>
        obtain rfl := Option.some.inj own
        exact advanced moved fun turn turned => awaits.of_receive (foreign reply rfl) turned
    | _ => cases own
  · exact ⟨call, (call_of_apply moved own).trans present, awaits⟩

theorem Awaiting.of_run (awaiting : s.Awaiting id request) (ran : s.run moves = some next)
    (foreign : ∀ reply, .receive id reply ∈ moves → reply.service ≠ request.service) :
    next.Awaiting id request := by
  induction moves generalizing s with
  | nil =>
      obtain rfl := Option.some.inj ran
      exact awaiting
  | cons move rest ih =>
      rw [run_cons, Option.bind_eq_some_iff] at ran
      obtain ⟨middle, moved, further⟩ := ran
      have kept : middle.Awaiting id request :=
        awaiting.of_apply moved fun reply same => foreign reply (same ▸ List.mem_cons_self)
      exact ih kept further fun reply member => foreign reply (List.mem_cons_of_mem _ member)

/-- The result of a call is the one that its trail tells. -/
theorem unfinished_iff (reached : empty.run moves = some s) {call : Call}
    (present : s.calls.get? id = some call) :
    (∀ result, .finished result ∉ s.trail id) ↔ call.result? = none := by
  obtain ⟨origin, -, -, story⟩ := origin_of_call reached present
  rw [Option.eq_none_iff_forall_ne_some]
  exact forall_congr' fun result => not_congr (story.finished_iff result)

theorem Awaiting.blocked (awaiting : s.Awaiting id request) (reached : empty.run moves = some s) :
    s.Blocked id := by
  obtain ⟨call, present, awaits⟩ := awaiting
  refine ⟨(unfinished_iff reached present).2 awaits.result?_eq_none, ?_⟩
  simp [apply, advance, present, awaits.proceed_eq_none]

/-- What the stage of a call awaits is what the call waits for. -/
theorem Awaiting.waits (awaiting : s.Awaiting id request) (reached : empty.run moves = some s) :
    s.Waits id request := by
  have ⟨call, present, awaits⟩ := awaiting
  obtain ⟨origin, -, -, story⟩ := origin_of_call reached present
  refine ⟨awaits.asked story, fun later next ran foreign => ?_, fun reply own => ?_⟩
  · have arrived : empty.run (moves ++ later) = some next := by simp [run_append, reached, ran]
    exact (awaiting.of_run ran foreign).blocked arrived
  · obtain ⟨turn, turned, free⟩ := awaits.freed own s.stores
    have moved : s.apply (.receive id reply) = some (s.record id turn) := by
      simp [apply, advance, present, turned]
    have arrived : empty.run (moves ++ [.receive id reply]) = some (s.record id turn) := by
      simp [run_append, reached, moved]
    have here : (s.record id turn).calls.get? id = some turn.next := by
      simp [record, Table.get?_put]
    refine ⟨_, moved, fun blocked => ?_⟩
    obtain ⟨unfinished, stuck⟩ := blocked
    rw [unfinished_iff arrived here] at unfinished
    have still : turn.next.proceed turn.stores = none := (advance_eq_none_iff here _).1 stuck
    simp [unfinished, still] at free

/-- In an idle system every call without a result waits for an answer. -/
theorem Idle.awaiting (idle : s.Idle) {call : Call} (present : s.calls.get? id = some call)
    (unfinished : call.result? = none) : ∃ request, s.Awaiting id request := by
  obtain ⟨placeholder, machine, own⟩ := idle.still present
  obtain ⟨request, awaits⟩ := Call.awaits_of_still own placeholder machine unfinished
  exact ⟨request, call, present, awaits⟩

/-- In an idle system the stage of a call tells what the call waits for. -/
theorem Idle.awaiting_of_waits (idle : s.Idle) (reached : empty.run moves = some s)
    (waits : s.Waits id request) : s.Awaiting id request := by
  have unfinished := (waits.blocked [] s rfl (by simp)).1
  obtain ⟨call, present⟩ : ∃ call, s.calls.get? id = some call := by
    cases told reached id with
    | silent free quiet unopened =>
        have asked := waits.asked
        rw [quiet] at asked
        cases asked
    | called origin call present => exact ⟨call, present⟩
  obtain ⟨other, awaiting⟩ := idle.awaiting present ((unfinished_iff reached present).1 unfinished)
  obtain rfl := waits.unique (awaiting.waits reached)
  exact awaiting

end System

end GuestPod
