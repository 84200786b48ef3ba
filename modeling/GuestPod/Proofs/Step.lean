/-
This file lists what each move of a system can do.  All arguments about runs go by these cases.
-/

import GuestPod.Proofs.Turns
import Mathlib.Data.List.Induction

namespace GuestPod

namespace Move

/-- The number that a move gives to the call it opens. -/
def opened? : Move → Option Nat
  | .create id _ _ => some id
  | .remove id _ => some id
  | .forget id _ => some id
  | _ => none

/-- The call that a move belongs to. -/
def caller? : Move → Option Nat
  | .create id _ _ => some id
  | .remove id _ => some id
  | .forget id _ => some id
  | .proceed id => some id
  | .startPlaceholder id => some id
  | .startBoot id => some id
  | .receive id _ => some id
  | _ => none

/-- The first turn of a call. -/
inductive Opens (stores : Stores) : Move → Turn Call → Prop where
  | workload {id : Nat} {coordinator : Coordinator} {request : CreateRequest}
      {boot : BootRequest} (role : Role.classify request.containerName = .workload)
      (extracted : Launch.extract request.config coordinator.settings = .ok boot)
      (entries : List Log.Entry) :
      Opens stores (.create id coordinator request)
        ⟨.workload (.start coordinator.settings request boot), stores, [], entries⟩
  | refusal {id : Nat} {coordinator : Coordinator} {request : CreateRequest} {error : Error}
      (role : Role.classify request.containerName = .workload)
      (extracted : Launch.extract request.config coordinator.settings = .error error)
      (entries : List Log.Entry) :
      Opens stores (.create id coordinator request)
        ⟨.refusal request error, stores, [.finished (.created (.error error))], entries⟩
  | sidecar {id : Nat} {coordinator : Coordinator} {request : CreateRequest}
      (role : Role.classify request.containerName = .sidecar) (entries : List Log.Entry) :
      Opens stores (.create id coordinator request)
        ⟨.relay ⟨request, .taking⟩, stores, [], entries⟩
  | other {id : Nat} {coordinator : Coordinator} {request : CreateRequest}
      (role : Role.classify request.containerName = .other) (entries : List Log.Entry) :
      Opens stores (.create id coordinator request)
        ⟨.relay ⟨request, .forwarding none⟩, stores, [], entries⟩
  | removal {id : Nat} {request : RemoveRequest} :
      Opens stores (.remove id request) ⟨.removal ⟨request, .finding⟩, stores, [], []⟩
  | forgetting {id : Nat} {sandbox : String} (entries : List Log.Entry) :
      Opens stores (.forget id sandbox)
        ⟨.forgetting sandbox (stores.endpoints.get? sandbox).isSome,
          { stores with endpoints := stores.endpoints.remove sandbox },
          [.forgot sandbox (stores.endpoints.get? sandbox).isSome,
            .finished (.forgotten (stores.endpoints.get? sandbox).isSome)], entries⟩

/-- A direct access to a store, the event it leaves and the stores behind it. -/
inductive Accesses (stores : Stores) : Move → Event → Stores → Prop where
  | publish (sandbox : String) (endpoint : Endpoint) :
      Accesses stores (.publish sandbox endpoint)
        (.published sandbox endpoint (stores.endpoints.get? sandbox))
        { stores with endpoints := stores.endpoints.put sandbox endpoint }
  | take (sandbox : String) :
      Accesses stores (.take sandbox) (.taken sandbox (stores.endpoints.get? sandbox))
        { stores with endpoints := stores.endpoints.remove sandbox }
  | register {container : String} (free : stores.vms.get? container = none) (vm : Vm) :
      Accesses stores (.register container vm) (.registered container vm true)
        { stores with vms := stores.vms.put container vm }
  | refuse {container : String} {holder : Vm}
      (taken : stores.vms.get? container = some holder) (vm : Vm) :
      Accesses stores (.register container vm) (.registered container vm false) stores
  | drop (container : String) :
      Accesses stores (.drop container) (.dropped container (stores.vms.get? container))
        { stores with vms := stores.vms.remove container }

variable {stores : Stores}

theorem create_opens (id : Nat) (coordinator : Coordinator) (request : CreateRequest) :
    Opens stores (.create id coordinator request) (Call.create coordinator request stores) := by
  unfold Call.create
  split
  · next role =>
      split
      · next extracted => exact .workload role extracted _
      · next extracted => exact .refusal role extracted _
  · next role => exact .sidecar role _
  · next role => exact .other role _

theorem register_accesses (container : String) (vm : Vm) :
    Accesses stores (.register container vm) (stores.register container vm).2.1
      (stores.register container vm).2.2 := by
  cases found : stores.vms.get? container with
  | none =>
      rw [Stores.register_free found]
      exact .register found vm
  | some holder =>
      rw [Stores.register_taken found]
      exact .refuse found vm

/-- The first move of a call belongs to the call. -/
theorem caller?_of_opened? (move : Move) {id : Nat} (number : move.opened? = some id) :
    move.caller? = some id := by
  cases move with
  | create other coordinator request => exact number
  | remove other request => exact number
  | forget other sandbox => exact number
  | _ => cases number

theorem Accesses.unopened {move : Move} {after : Stores} {event : Event}
    (accesses : move.Accesses stores event after) : move.opened? = none := by
  cases accesses <;> rfl

theorem Accesses.direct {move : Move} {after : Stores} {event : Event}
    (accesses : move.Accesses stores event after) : move.caller? = none := by
  cases accesses <;> rfl

end Move

namespace System

/-- One move, with the occurrences that it adds to the history. -/
inductive Step (s : System) (move : Move) : List Occurrence → System → Prop where
  | opened {id : Nat} {turn : Turn Call} (fresh : s.calls.get? id = none)
      (number : move.opened? = some id) (opens : move.Opens s.stores turn) :
      Step s move (occurrences (some id) turn.events).reverse (s.record id turn)
  | advanced {id : Nat} {call : Call} {turn : Turn Call}
      (present : s.calls.get? id = some call) (number : move.opened? = none)
      (takes : call.Takes s.stores turn) :
      Step s move (occurrences (some id) turn.events).reverse (s.record id turn)
  | accessed {event : Event} {stores : Stores} (number : move.opened? = none)
      (accesses : move.Accesses s.stores event stores) :
      Step s move [⟨none, event⟩] (s.access event stores)

variable {s next : System}

theorem begin_fresh {id : Nat} {call : Stores → Turn Call} (moved : s.begin id call = some next) :
    s.calls.get? id = none ∧ next = s.record id (call s.stores) := by
  unfold begin at moved
  split at moved
  · cases moved
  · next fresh =>
      cases moved
      exact ⟨by simpa [Table.contains] using fresh, rfl⟩

theorem begin_of_fresh {id : Nat} (fresh : s.calls.get? id = none) (call : Stores → Turn Call) :
    s.begin id call = some (s.record id (call s.stores)) := by
  simp [begin, Table.contains, fresh]

theorem advance_some {id : Nat} {step : Stores → Call → Option (Turn Call)}
    (moved : s.advance id step = some next) :
    ∃ call turn, s.calls.get? id = some call ∧ step s.stores call = some turn ∧
      next = s.record id turn := by
  obtain ⟨call, present, rest⟩ := Option.bind_eq_some_iff.1 moved
  obtain ⟨turn, turned, same⟩ := Option.bind_eq_some_iff.1 rest
  cases same
  exact ⟨call, turn, present, turned, rfl⟩

theorem advance_of_some {id : Nat} {step : Stores → Call → Option (Turn Call)} {call : Call}
    {turn : Turn Call} (present : s.calls.get? id = some call)
    (turned : step s.stores call = some turn) : s.advance id step = some (s.record id turn) := by
  simp [advance, present, turned]

/-- A move of a call opens this call or takes one of its turns. -/
inductive Acts (s : System) (id : Nat) (move : Move) (next : System) : Prop where
  | opened {turn : Turn Call} (fresh : s.calls.get? id = none) (number : move.opened? = some id)
      (opens : move.Opens s.stores turn) (same : next = s.record id turn) : Acts s id move next
  | advanced {call : Call} {turn : Turn Call} (present : s.calls.get? id = some call)
      (number : move.opened? = none) (takes : call.Takes s.stores turn)
      (same : next = s.record id turn) : Acts s id move next

theorem acts_of_apply {move : Move} {id : Nat} (moved : s.apply move = some next)
    (caller : move.caller? = some id) : s.Acts id move next := by
  cases move with
  | create number coordinator request =>
      obtain rfl := Option.some.inj caller
      obtain ⟨fresh, same⟩ := begin_fresh moved
      exact .opened fresh rfl (Move.create_opens number coordinator request) same
  | remove number request =>
      obtain rfl := Option.some.inj caller
      obtain ⟨fresh, same⟩ := begin_fresh moved
      exact .opened fresh rfl .removal same
  | forget number sandbox =>
      obtain rfl := Option.some.inj caller
      obtain ⟨fresh, same⟩ := begin_fresh moved
      exact .opened fresh rfl (.forgetting _) same
  | proceed number =>
      obtain rfl := Option.some.inj caller
      obtain ⟨call, turn, present, turned, same⟩ := advance_some moved
      exact .advanced present rfl (Call.proceed_takes turned) same
  | startPlaceholder number =>
      obtain rfl := Option.some.inj caller
      obtain ⟨call, turn, present, turned, same⟩ := advance_some moved
      exact .advanced present rfl (Call.startPlaceholder_takes turned) same
  | startBoot number =>
      obtain rfl := Option.some.inj caller
      obtain ⟨call, turn, present, turned, same⟩ := advance_some moved
      exact .advanced present rfl (Call.startBoot_takes turned) same
  | receive number reply =>
      obtain rfl := Option.some.inj caller
      obtain ⟨call, turn, present, turned, same⟩ := advance_some moved
      exact .advanced present rfl (Call.receive_takes turned) same
  | publish sandbox endpoint => cases caller
  | take sandbox => cases caller
  | register container vm => cases caller
  | drop container => cases caller

/-- A move of no call accesses a store. -/
theorem accesses_of_apply {move : Move} (moved : s.apply move = some next)
    (direct : move.caller? = none) :
    ∃ event stores, move.Accesses s.stores event stores ∧ next = s.access event stores := by
  cases move with
  | publish sandbox endpoint =>
      cases moved
      exact ⟨_, _, .publish sandbox endpoint, rfl⟩
  | take sandbox =>
      cases moved
      exact ⟨_, _, .take sandbox, rfl⟩
  | register container vm =>
      cases moved
      exact ⟨_, _, Move.register_accesses container vm, rfl⟩
  | drop container =>
      cases moved
      exact ⟨_, _, .drop container, rfl⟩
  | _ => cases direct

/-- Every possible move is one of the steps. -/
theorem step_of_apply {move : Move} (moved : s.apply move = some next) :
    ∃ news, s.Step move news next := by
  cases caller : move.caller? with
  | some id =>
      cases acts_of_apply moved caller with
      | opened fresh number opens same =>
          subst same
          exact ⟨_, .opened fresh number opens⟩
      | advanced present number takes same =>
          subst same
          exact ⟨_, .advanced present number takes⟩
  | none =>
      obtain ⟨event, stores, accesses, rfl⟩ := accesses_of_apply moved caller
      exact ⟨_, .accessed accesses.unopened accesses⟩

/-- A step of a run that belongs to a call. -/
inductive Paces (moves : List Move) (id : Nat) (prior next : System) : Prop where
  | intro {before : List Move} {move : Move} (within : before ++ [move] <+: moves)
      (caller : move.caller? = some id) (reached : empty.run before = some prior)
      (moved : prior.apply move = some next) : Paces moves id prior next

/-- The history grows by what the step adds. -/
theorem Step.history_eq {move : Move} {news : List Occurrence} (step : s.Step move news next) :
    next.history = news ++ s.history := by
  cases step <;> rfl

/-- A run only adds to the history. -/
theorem suffix_of_run {moves : List Move} (ran : s.run moves = some next) :
    s.history <:+ next.history := by
  induction moves generalizing s with
  | nil =>
      obtain rfl := Option.some.inj ran
      exact List.suffix_rfl
  | cons move rest ih =>
      rw [run_cons, Option.bind_eq_some_iff] at ran
      obtain ⟨middle, moved, further⟩ := ran
      obtain ⟨news, step⟩ := step_of_apply moved
      have grown : s.history <:+ middle.history := step.history_eq ▸ List.suffix_append news _
      exact grown.trans (ih further)

/-- A part of a run is a run. -/
theorem exists_within {before moves : List Move} (within : before <+: moves)
    (whole : empty.run moves = some s) : ∃ prior, empty.run before = some prior := by
  obtain ⟨rest, rfl⟩ := within
  rw [run_append, Option.bind_eq_some_iff] at whole
  obtain ⟨prior, reached, -⟩ := whole
  exact ⟨prior, reached⟩

/-- The history of a part of a run is a part of its history. -/
theorem suffix_of_within {before moves : List Move} {prior : System} (within : before <+: moves)
    (reached : empty.run before = some prior) (whole : empty.run moves = some s) :
    prior.history <:+ s.history := by
  obtain ⟨rest, rfl⟩ := within
  rw [run_append, reached, Option.bind_some] at whole
  exact suffix_of_run whole

/-- The history behind a step of a run is a part of the history of the run. -/
theorem Paces.suffix {moves : List Move} {id : Nat} {prior next : System}
    (paces : Paces moves id prior next) (whole : empty.run moves = some s) :
    next.history <:+ s.history := by
  obtain @⟨before, move, within, -, reached, moved⟩ := paces
  exact suffix_of_within within (by simp [run_append, reached, moved]) whole

/-- What holds at the start and is kept by every step holds after every run. -/
theorem run_induction {motive : List Move → System → Prop} (start : motive [] empty)
    (keeps : ∀ {moves : List Move} {s next : System} {move : Move} {news : List Occurrence},
      empty.run moves = some s → motive moves s → s.apply move = some next →
        s.Step move news next → motive (moves ++ [move]) next)
    {moves : List Move} {s : System} (reached : empty.run moves = some s) : motive moves s := by
  induction moves using List.reverseRecOn generalizing s with
  | nil =>
      cases reached
      exact start
  | append_singleton before last ih =>
      rw [run_append, Option.bind_eq_some_iff] at reached
      obtain ⟨middle, first, second⟩ := reached
      rw [run_cons, Option.bind_eq_some_iff] at second
      obtain ⟨final, moved, same⟩ := second
      cases same
      obtain ⟨news, step⟩ := step_of_apply moved
      exact keeps first (ih first) moved step

/-- The step of a run at which an occurrence came up, and the history before it. -/
inductive Moment (moves : List Move) (s : System) (occurrence : Occurrence)
    (earlier : List Occurrence) : Prop where
  | intro {before : List Move} {move : Move} {prior next : System}
      {news later first : List Occurrence} (within : before ++ [move] <+: moves)
      (reached : empty.run before = some prior) (moved : prior.apply move = some next)
      (step : prior.Step move news next) (kept : next.history <:+ s.history)
      (added : news = later ++ occurrence :: first)
      (same : earlier = first ++ prior.history) : Moment moves s occurrence earlier

/-- Every occurrence of a history has its moment in the run. -/
theorem exists_moment {moves : List Move} {s : System} (reached : empty.run moves = some s)
    {occurrence : Occurrence} {newer earlier : List Occurrence}
    (split : s.history = newer ++ occurrence :: earlier) :
    Moment moves s occurrence earlier := by
  refine run_induction (motive := fun moves s => ∀ newer,
    s.history = newer ++ occurrence :: earlier → Moment moves s occurrence earlier)
    ?_ ?_ reached newer split
  · intro newer split
    simp [empty] at split
  · intro moves s next move news reached ih moved step newer split
    have grown := step.history_eq
    have older : ∀ rest, s.history = rest ++ occurrence :: earlier →
        Moment (moves ++ [move]) next occurrence earlier := by
      intro rest here
      obtain ⟨within, first, made, same, kept, added, before⟩ := ih rest here
      exact ⟨within.trans (List.prefix_append _ _), first, made, same,
        kept.trans (grown ▸ List.suffix_append _ _), added, before⟩
    rw [grown, List.append_eq_append_iff] at split
    rcases split with ⟨gap, rfl, here⟩ | ⟨gap, rfl, here⟩
    · exact older gap here
    · cases gap with
      | nil => exact older [] here.symm
      | cons first rest =>
          obtain ⟨rfl, rfl⟩ := List.cons_eq_cons.1 here
          exact ⟨List.prefix_rfl, reached, moved, step, List.suffix_rfl, rfl, rfl⟩

end System

end GuestPod
