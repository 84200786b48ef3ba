/-
This file separates pods that share no name.  A run without the steps of all other pods is a run
again, and a pod cannot tell it from the whole one.
-/

import GuestPod.Proofs.Locality

namespace GuestPod.System

/-- The sandboxes that the moves of a run name, each with the call that names it. -/
def sandboxes (moves : List Move) : List (Option Nat × String) :=
  moves.filterMap fun move => move.sandbox?.map (move.caller?, ·)

/-- The containers that the placeholders of workloads have come to. -/
def placeholders (moves : List Move) (history : List Occurrence) : List (Option Nat × String) :=
  history.filterMap fun
    | ⟨some id, .answered (.created (.ok response))⟩ =>
        if id ∈ moves.filterMap Move.workload? then some (some id, response.container) else none
    | _ => none

/-- The containers that a run names, each with the call that names it. -/
def containers (moves : List Move) (history : List Occurrence) : List (Option Nat × String) :=
  moves.filterMap (fun move => move.container?.map (move.caller?, ·)) ++
    placeholders moves history

variable {moves : List Move} {s t next : System} {move : Move} {id : Nat}

theorem mem_sandboxes {sandbox : String} (member : move ∈ moves)
    (named : move.sandbox? = some sandbox) : (move.caller?, sandbox) ∈ sandboxes moves :=
  List.mem_filterMap.2 ⟨move, member, by simp [named]⟩

theorem mem_containers {history : List Occurrence} {container : String} (member : move ∈ moves)
    (named : move.container? = some container) :
    (move.caller?, container) ∈ containers moves history :=
  List.mem_append_left _ (List.mem_filterMap.2 ⟨move, member, by simp [named]⟩)

/-- A call names a container by its first move or by its placeholder. -/
theorem mem_containers_of_names {container : String} (member : move ∈ moves)
    (number : move.opened? = some id) (named : move.NamesContainer (s.trail id) container) :
    (some id, container) ∈ containers moves s.history := by
  rcases named with own | ⟨workload, response, answered, rfl⟩
  · have caller : move.caller? = some id := move.caller?_of_opened? number
    rw [← caller]
    exact mem_containers member own
  · refine List.mem_append_right _ (List.mem_filterMap.2 ⟨_, mem_trail.1 answered, ?_⟩)
    have opener : id ∈ moves.filterMap Move.workload? := by
      refine List.mem_filterMap.2 ⟨move, member, ?_⟩
      obtain ⟨known, same⟩ := Option.isSome_iff_exists.1 workload
      rw [same, ← number, move.opened?_of_workload? same]
    simp [opener]

/-- What touches a sandbox belongs to a call that names it. -/
theorem sandbox_named (reached : empty.run moves = some s) {source : Option Nat} {event : Event}
    (member : ⟨source, event⟩ ∈ s.history) {sandbox : String}
    (touched : event.touches sandbox = true) : (source, sandbox) ∈ sandboxes moves := by
  cases source with
  | some id =>
      have own : event ∈ s.trail id := mem_trail.2 member
      obtain ⟨origin, call, opening, number, story⟩ := story_of_event reached own
      rw [← origin.caller?_of_opened? number]
      exact mem_sandboxes opening (story.sandbox_of_touches own touched)
  | none =>
      obtain ⟨newer, earlier, split⟩ := List.append_of_mem member
      obtain ⟨prior, move, stores, opening, accesses⟩ := exists_access reached split
      have direct := accesses.direct
      rw [← direct]
      refine mem_sandboxes opening ?_
      cases accesses <;> simp_all [Event.touches, Move.sandbox?]

/-- What changes an entry belongs to a call that names its container. -/
theorem container_named (reached : empty.run moves = some s) {source : Option Nat} {event : Event}
    (member : ⟨source, event⟩ ∈ s.history) {container : String}
    (changed : event.changes container = true) :
    (source, container) ∈ containers moves s.history := by
  cases source with
  | some id =>
      have own : event ∈ s.trail id := mem_trail.2 member
      obtain ⟨origin, call, opening, number, story⟩ := story_of_event reached own
      exact mem_containers_of_names opening number (story.container_of_changes own changed)
  | none =>
      obtain ⟨newer, earlier, split⟩ := List.append_of_mem member
      obtain ⟨prior, move, stores, opening, accesses⟩ := exists_access reached split
      have direct := accesses.direct
      rw [← direct]
      refine mem_containers opening ?_
      cases accesses <;> simp_all [Event.changes, Move.container?]

/-- No name is used on both sides of a group.  A group holds calls by their numbers, and all
direct accesses or none of them. -/
def Apart (group : Option Nat → Bool) (names : List (Option Nat × String)) : Prop :=
  ∀ first ∈ names, ∀ second ∈ names, first.2 = second.2 → group first.1 = group second.1
  deriving Decidable

/-- The steps of a group of calls. -/
def restrict (group : Option Nat → Bool) (moves : List Move) : List Move :=
  moves.filter fun move => group move.caller?

/-- The occurrences of a group of calls. -/
def visible (group : Option Nat → Bool) (history : List Occurrence) : List Occurrence :=
  history.filter fun occurrence => group occurrence.source

section Visible

variable {group : Option Nat → Bool} {source : Option Nat}

/-- Everything that a call of the group does is visible. -/
theorem visible_own (own : group source = true) (events : List Event) (history : List Occurrence) :
    visible group ((occurrences source events).reverse ++ history) =
      (occurrences source events).reverse ++ visible group history := by
  rw [visible, List.filter_append, List.filter_eq_self.2]
  · rfl
  · intro occurrence member
    obtain ⟨event, -, rfl⟩ := List.mem_map.1 (List.mem_reverse.1 member)
    exact own

/-- Nothing that another call does is visible. -/
theorem visible_foreign (foreign : group source = false) (events : List Event)
    (history : List Occurrence) :
    visible group ((occurrences source events).reverse ++ history) = visible group history := by
  rw [visible, List.filter_append, List.filter_eq_nil_iff.2]
  · rfl
  · intro occurrence member
    obtain ⟨event, -, rfl⟩ := List.mem_map.1 (List.mem_reverse.1 member)
    simp [foreign]

end Visible

/-- The second system is the first one without everything outside of a group. -/
structure Projects (group : Option Nat → Bool) (s t : System) : Prop where
  calls : ∀ id, t.calls.get? id = if group (some id) then s.calls.get? id else none
  history : t.history = visible group s.history

namespace Projects

variable {group : Option Nat → Bool} (projects : Projects group s t)

include projects

theorem record_own {turn other : Turn Call} (own : group (some id) = true)
    (same : turn.outline = other.outline) :
    Projects group (s.record id turn) (t.record id other) := by
  obtain ⟨calls, events, -⟩ : turn.next = other.next ∧ turn.events = other.events ∧
      turn.entries = other.entries := by simpa [Turn.outline] using same
  refine ⟨fun known => ?_, ?_⟩
  · simp only [System.record, Table.get?_put, projects.calls, calls]
    by_cases here : id = known
    · simp [here, here ▸ own]
    · simp [here]
  · show (occurrences (some id) other.events).reverse ++ t.history =
      visible group ((occurrences (some id) turn.events).reverse ++ s.history)
    rw [visible_own own, projects.history, events]

theorem record_foreign (turn : Turn Call) (foreign : group (some id) = false) :
    Projects group (s.record id turn) t := by
  refine ⟨fun known => ?_, ?_⟩
  · simp only [System.record, Table.get?_put, projects.calls]
    by_cases here : id = known
    · simp [← here, foreign]
    · simp [here]
  · show t.history = visible group ((occurrences (some id) turn.events).reverse ++ s.history)
    rw [visible_foreign foreign, projects.history]

theorem access_own (own : group none = true) {event other : Event} (same : event = other)
    (stores others : Stores) : Projects group (s.access event stores) (t.access other others) := by
  refine ⟨projects.calls, ?_⟩
  show ⟨none, other⟩ :: t.history = visible group (⟨none, event⟩ :: s.history)
  rw [projects.history, same]
  exact (visible_own own [other] s.history).symm

theorem access_foreign (foreign : group none = false) (event : Event) (stores : Stores) :
    Projects group (s.access event stores) t :=
  ⟨projects.calls, projects.history.trans (visible_foreign foreign [event] s.history).symm⟩

/-- The other side does not see the step of a call outside of the group. -/
theorem foreign (moved : s.apply move = some next) (foreign : group move.caller? = false) :
    Projects group next t := by
  cases caller : move.caller? with
  | some id =>
      rw [caller] at foreign
      cases acts_of_apply moved caller with
      | opened fresh number opens same => exact same ▸ projects.record_foreign _ foreign
      | advanced present number takes same => exact same ▸ projects.record_foreign _ foreign
  | none =>
      rw [caller] at foreign
      obtain ⟨event, stores, accesses, rfl⟩ := accesses_of_apply moved caller
      exact projects.access_foreign foreign event stores

theorem begins {call : Stores → Turn Call} (own : group (some id) = true)
    (same : (call s.stores).outline = (call t.stores).outline)
    (moved : s.begin id call = some next) :
    ∃ other, t.begin id call = some other ∧ Projects group next other := by
  obtain ⟨fresh, rfl⟩ := begin_fresh moved
  have free : t.calls.get? id = none := by
    rw [projects.calls, if_pos own]
    exact fresh
  exact ⟨_, begin_of_fresh free call, projects.record_own own same⟩

theorem advances {step : Stores → Call → Option (Turn Call)} (own : group (some id) = true)
    (same : ∀ call, s.calls.get? id = some call →
      (step s.stores call).map Turn.outline = (step t.stores call).map Turn.outline)
    (moved : s.advance id step = some next) :
    ∃ other, t.advance id step = some other ∧ Projects group next other := by
  obtain ⟨call, turn, present, turned, rfl⟩ := advance_some moved
  have there : t.calls.get? id = some call := by
    rw [projects.calls, if_pos own]
    exact present
  have alike := same call present
  rw [turned] at alike
  obtain ⟨other, taken, outline⟩ := Option.map_eq_some_iff.1 alike.symm
  exact ⟨_, advance_of_some there taken, projects.record_own own outline.symm⟩

/-- The other side takes the same step of a call inside of the group when it agrees on what the
step can meet. -/
theorem own (moved : s.apply move = some next) (own : group move.caller? = true)
    (endpoints : ∀ sandbox, move.sandbox? = some sandbox →
      s.stores.endpoints.get? sandbox = t.stores.endpoints.get? sandbox)
    (vms : ∀ container, move.container? = some container →
      s.stores.vms.get? container = t.stores.vms.get? container)
    (calls : ∀ id call, move.caller? = some id → s.calls.get? id = some call →
      call.Agrees s.stores t.stores) :
    ∃ other, t.apply move = some other ∧ Projects group next other := by
  cases move with
  | create id coordinator request =>
      exact projects.begins own (Call.create_outline coordinator request) moved
  | remove id request => exact projects.begins own rfl moved
  | forget id sandbox => exact projects.begins own (Call.forget_outline (endpoints sandbox rfl)) moved
  | proceed id =>
      exact projects.advances own
        (fun call present => Call.proceed_outline (calls id call rfl present)) moved
  | startPlaceholder id =>
      exact projects.advances own (fun call present => Call.startPlaceholder_outline) moved
  | startBoot id => exact projects.advances own (fun call present => Call.startBoot_outline) moved
  | receive id reply =>
      exact projects.advances own (fun call present => Call.receive_outline reply) moved
  | publish sandbox endpoint =>
      cases moved
      have same := congrArg (Event.published sandbox endpoint) (endpoints sandbox rfl)
      exact ⟨_, rfl, projects.access_own own same _ _⟩
  | take sandbox =>
      cases moved
      have same := congrArg (Event.taken sandbox) (endpoints sandbox rfl)
      exact ⟨_, rfl, projects.access_own own same _ _⟩
  | register container vm =>
      cases moved
      have same := Stores.register_event (vms container rfl) vm
      exact ⟨_, rfl, projects.access_own own same _ _⟩
  | drop container =>
      cases moved
      have same := congrArg (Event.dropped container) (vms container rfl)
      exact ⟨_, rfl, projects.access_own own same _ _⟩

/-- A call of the group has the same trail on both sides. -/
theorem trail (own : group (some id) = true) : t.trail id = s.trail id := by
  have kept : (visible group s.history).reverse.filter (·.source = some id) =
      s.history.reverse.filter (·.source = some id) := by
    rw [visible, ← List.filter_reverse, List.filter_filter]
    apply List.filter_congr
    intro occurrence member
    by_cases here : occurrence.source = some id
    · simp [here, own]
    · simp [here]
  rw [System.trail, projects.history, kept]
  rfl

end Projects

section Isolation

variable {group : Option Nat → Bool} {u : System} {before : List Move}

/-- Both sides hold the same behind every name of the group. -/
structure Shares (group : Option Nat → Bool) (moves : List Move) (s u t : System) : Prop where
  endpoints : ∀ source sandbox, (source, sandbox) ∈ sandboxes moves → group source = true →
    t.stores.endpoints.get? sandbox = u.stores.endpoints.get? sandbox
  vms : ∀ source container, (source, container) ∈ containers moves s.history →
    group source = true → t.stores.vms.get? container = u.stores.vms.get? container

/-- Nothing outside of the group writes behind a name of the group. -/
theorem Projects.shares (projects : Projects group u t) (reached : empty.run moves = some s)
    (apartSandboxes : Apart group (sandboxes moves))
    (apartContainers : Apart group (containers moves s.history)) (within : before <+: moves)
    (here : empty.run before = some u) (there : empty.run (restrict group before) = some t) :
    Shares group moves s u t := by
  have kept : u.history ⊆ s.history := (suffix_of_within within here reached).subset
  have played := (replay_history here).1
  have again := (replay_history there).1
  rw [projects.history] at again
  refine ⟨fun source sandbox named own => ?_, fun source container named own => ?_⟩
  · rw [← again, ← played]
    refine replay_filter (·.endpoints.get? sandbox) Event.endpoint_effect_congr
      fun occurrence member foreign => Event.endpoint_effect (Bool.eq_false_iff.2 ?_)
    intro touched
    have other := sandbox_named reached (kept member) touched
    rw [apartSandboxes _ other _ named rfl, own] at foreign
    cases foreign
  · rw [← again, ← played]
    refine replay_filter (·.vms.get? container) Event.vm_effect_congr
      fun occurrence member foreign => Event.vm_effect (Bool.eq_false_iff.2 ?_)
    intro changed
    have other := container_named reached (kept member) changed
    rw [apartContainers _ other _ named rfl, own] at foreign
    cases foreign

/-- What a call of the group can meet next is the same on both sides. -/
theorem Shares.agrees (shares : Shares group moves s u t) (reached : empty.run moves = some s)
    (within : before <+: moves) (here : empty.run before = some u) {call : Call}
    (own : group (some id) = true) (present : u.calls.get? id = some call) :
    call.Agrees u.stores t.stores := by
  obtain ⟨origin, opening, number, story⟩ := origin_of_call here present
  have member := within.subset opening
  refine story.agrees (fun sandbox named => ?_) (fun container named => ?_)
  · have known := mem_sandboxes member named
    rw [origin.caller?_of_opened? number] at known
    exact (shares.endpoints _ sandbox known own).symm
  · have later := named.mono fun event => trail_subset (suffix_of_within within here reached)
    exact (shares.vms _ container (mem_containers_of_names member number later) own).symm

/-- Every part of a run is a run without the steps outside of a group that shares no name. -/
theorem exists_projection (reached : empty.run moves = some s)
    (apartSandboxes : Apart group (sandboxes moves))
    (apartContainers : Apart group (containers moves s.history)) (within : before <+: moves) :
    ∃ u t, empty.run before = some u ∧ empty.run (restrict group before) = some t ∧
      Projects group u t := by
  induction before using List.reverseRecOn with
  | nil =>
      refine ⟨empty, empty, rfl, rfl, fun id => ?_, rfl⟩
      cases group (some id) <;> rfl
  | append_singleton before last ih =>
      have inside : before <+: moves := (List.prefix_append _ _).trans within
      have member : last ∈ moves := within.subset (by simp)
      obtain ⟨u, t, here, there, projects⟩ := ih inside
      obtain ⟨next, arrived⟩ := exists_within within reached
      have moved : u.apply last = some next := by simpa [run_append, here] using arrived
      cases own : group last.caller? with
      | false =>
          have left : restrict group (before ++ [last]) = restrict group before := by
            simp [restrict, own]
          exact ⟨next, t, arrived, left ▸ there, projects.foreign moved own⟩
      | true =>
          have shares := projects.shares reached apartSandboxes apartContainers inside here there
          obtain ⟨other, taken, further⟩ := projects.own moved own
            (fun sandbox named => (shares.endpoints _ sandbox (mem_sandboxes member named) own).symm)
            (fun container named => (shares.vms _ container (mem_containers member named) own).symm)
            (fun id call caller present => shares.agrees reached inside here (caller ▸ own) present)
          have kept : restrict group (before ++ [last]) = restrict group before ++ [last] := by
            simp [restrict, own]
          refine ⟨next, other, arrived, ?_, further⟩
          rw [kept, run_append, there]
          simp [taken]

/-- A part of a run, and the same part without everything outside of a group. -/
structure Unaffected (group : Option Nat → Bool) (moves : List Move) (s u t : System) : Prop where
  /-- Each call of the group is where it was, so it has the same result. -/
  calls : ∀ id, group (some id) = true → t.calls.get? id = u.calls.get? id
  /-- There are no other calls. -/
  alone : ∀ id, group (some id) = false → t.calls.get? id = none
  /-- Each call of the group did the same: it asked the same, in the same order, and heard and
  met the same. -/
  trails : ∀ id, group (some id) = true → t.trail id = u.trail id
  /-- The group as a whole did the same in the same order. -/
  history : t.history = visible group u.history
  /-- Both stores hold the same behind every name of the group. -/
  shares : Shares group moves s u t

/-- Pods that share no sandbox and no container do not interfere: every part of a run without the
steps of the other pods is a run in which the pod fares as before. -/
theorem pods_isolated (reached : empty.run moves = some s)
    (apartSandboxes : Apart group (sandboxes moves))
    (apartContainers : Apart group (containers moves s.history)) (within : before <+: moves) :
    ∃ u t, empty.run before = some u ∧ empty.run (restrict group before) = some t ∧
      Unaffected group moves s u t := by
  obtain ⟨u, t, here, there, projects⟩ :=
    exists_projection reached apartSandboxes apartContainers within
  refine ⟨u, t, here, there, fun id own => ?_, fun id foreign => ?_, fun id own => ?_,
    projects.history, projects.shares reached apartSandboxes apartContainers within here there⟩
  · rw [projects.calls, if_pos own]
  · rw [projects.calls, foreign]
    rfl
  · exact projects.trail own

/-- Two pods side by side.  In the first one the placeholder fails, the machine is reaped and the
sidecar comes meanwhile.  In the second one the removal comes while the first one works. -/
def neighbours : List Move :=
  Sample.started 0 true "pod-1" ++ Sample.started 1 false "pod-2" ++
    [.receive 1 (.created (.ok ⟨"c", []⟩)), .receive 0 (.created (.error (.internal "full"))),
      .receive 1 (.booted (.ok (Sample.machine "vm-2" "10.0.0.3"))), .proceed 1,
      .receive 0 (.booted (.ok (Sample.machine "vm-1" "10.0.0.2"))), .proceed 0,
      .create 2 (Sample.coordinator true) (Sample.sidecar "pod-1"), .proceed 1, .proceed 2,
      .proceed 0, .remove 3 ⟨"c"⟩, .proceed 3, .proceed 2, .receive 0 (.stopped (.ok ())),
      .proceed 3, .receive 2 (.created (.ok ⟨"c", []⟩)), .receive 3 (.stopped (.panic "gone"))]

/-- These are the calls of the first pod. -/
def firstPod (source : Option Nat) : Bool := source ∈ [some 0, some 2]

theorem pods_isolated_neighbours :
    ∃ s, empty.run neighbours = some s ∧ Apart firstPod (sandboxes neighbours) ∧
      Apart firstPod (containers neighbours s.history) ∧ neighbours <+: neighbours ∧
        ∃ u t, empty.run neighbours = some u ∧
          empty.run (restrict firstPod neighbours) = some t ∧
            Unaffected firstPod neighbours s u t := by
  have facts : (empty.run neighbours).map (fun s =>
      decide (Apart firstPod (containers neighbours s.history))) = some true := by decide
  have apart : Apart firstPod (sandboxes neighbours) := by decide
  obtain ⟨s, reached, same⟩ := Option.map_eq_some_iff.1 facts
  have containers := of_decide_eq_true same
  exact ⟨s, reached, apart, containers, List.prefix_rfl,
    pods_isolated reached apart containers List.prefix_rfl⟩

end Isolation

end GuestPod.System
