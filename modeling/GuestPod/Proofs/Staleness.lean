/-
This file asks which machine stands behind an endpoint that a sidecar takes.  A stop withdraws no
endpoint, so the machine may be stopped by then, but only since its endpoint was published and
only when nothing has touched the sandbox from the stop on.
-/

import GuestPod.Proofs.Delivery
import GuestPod.Proofs.Reuse

namespace GuestPod

theorem mem_stops {trail : List Event} {vm : Vm} :
    vm ∈ stops trail ↔ .asked (.stop vm) ∈ trail := by
  simp only [stops, List.mem_filterMap]
  constructor
  · rintro ⟨event, member, same⟩
    split at same
    · obtain rfl := Option.some.inj same
      exact member
    · cases same
  · intro member
    exact ⟨_, member, rfl⟩

/-- A call stops one machine at most. -/
theorem Call.Story.length_stops_le {origin : Move} {call : Call} {trail : List Event}
    (story : Call.Story origin call trail) : (stops trail).length ≤ 1 := by
  cases story with
  | workload role settings asks extracted story =>
      have course := story.course
      rw [← stops_deeds]
      generalize deeds trail = events at course
      cases course <;> simp [stops, Workload.publication]
  | refusal role extracted => simp [stops]
  | relay asks story =>
      cases story with
      | forwarding endpoint => cases endpoint <;> simp [stops, Relay.prelude]
      | @awaiting endpoint => cases endpoint <;> simp [stops, Relay.prelude]
      | @answered endpoint => cases endpoint <;> simp [stops, Relay.prelude]
      | _ => simp [stops]
  | removal asks story => exact story.stops_iff.1
  | forgetting => simp [stops]

namespace System

/-- The machines that the supervisor has booted. -/
def boots (history : List Occurrence) : List Vm :=
  history.filterMap fun occurrence =>
    match occurrence.event with
    | .answered (.booted (.ok vm)) => some vm
    | _ => none

theorem mem_boots {history : List Occurrence} {source : Option Nat} {vm : Vm}
    (member : ⟨source, .answered (.booted (.ok vm))⟩ ∈ history) : vm ∈ boots history :=
  List.mem_filterMap.2 ⟨_, member, rfl⟩

/-- A machine that was booted once was booted by one call. -/
theorem booter_unique {history : List Occurrence} {first second : Option Nat} {vm : Vm}
    (distinct : (boots history).Nodup)
    (one : ⟨first, .answered (.booted (.ok vm))⟩ ∈ history)
    (other : ⟨second, .answered (.booted (.ok vm))⟩ ∈ history) : first = second := by
  induction history with
  | nil => cases one
  | cons newest earlier ih =>
      have fewer : (boots earlier).Nodup := by
        refine distinct.sublist ?_
        exact (List.sublist_cons_self newest earlier).filterMap _
      have fresh : ∀ source, newest = ⟨source, .answered (.booted (.ok vm))⟩ →
          vm ∉ boots earlier := by
        rintro source rfl
        exact (List.nodup_cons.1 distinct).1
      rcases List.mem_cons.1 one with here | sooner
      · rcases List.mem_cons.1 other with there | later
        · exact congrArg Occurrence.source (here.trans there.symm)
        · exact absurd (mem_boots later) (fresh first here.symm)
      · rcases List.mem_cons.1 other with there | later
        · exact absurd (mem_boots sooner) (fresh second there.symm)
        · exact ih fewer sooner later

variable {moves : List Move} {s : System} {newer earlier : List Occurrence} {id : Nat}
  {container sandbox : String} {vm : Vm} {endpoint : Endpoint}

/-- When all moves belong to calls, so do all occurrences. -/
theorem caller_of_occurrence {source : Option Nat} {event : Event}
    (reached : empty.run moves = some s) (own : ∀ move ∈ moves, move.caller?.isSome)
    (split : s.history = newer ++ ⟨source, event⟩ :: earlier) : ∃ caller, source = some caller := by
  cases source with
  | some caller => exact ⟨caller, rfl⟩
  | none =>
      obtain ⟨prior, move, stores, member, accesses⟩ := exists_access reached split
      have called := own move member
      rw [accesses.direct] at called
      cases called

/-- A call publishes once. -/
theorem published_notMem {previous : Option Endpoint} (reached : empty.run moves = some s)
    (split : s.history = newer ++ ⟨some id, .published sandbox endpoint previous⟩ :: earlier)
    (place : String) (other : Endpoint) (met : Option Endpoint) :
    ⟨some id, .published place other met⟩ ∉ earlier := by
  intro member
  obtain ⟨created, role, settings, asks, story, takes, authored⟩ :=
    workload_author reached split rfl
  have added := authored.mem
  cases takes with
  | booted stage done entries =>
      obtain ⟨-, rfl⟩ := authored.alone
      have deed := mem_deeds (mem_trail.2 member) rfl
      rw [story.course.of_awaitingBoot stage] at deed
      cases deed
  | _ => simp at added

/-- The call that has booted the machine has published an endpoint. -/
def Announced (vm : Vm) (history : List Occurrence) : Prop :=
  ∃ id sandbox endpoint previous, ⟨some id, .answered (.booted (.ok vm))⟩ ∈ history ∧
    ⟨some id, .published sandbox endpoint previous⟩ ∈ history

theorem Announced.mono {history larger : List Occurrence} (announced : Announced vm history)
    (within : history ⊆ larger) : Announced vm larger := by
  obtain ⟨id, sandbox, endpoint, previous, booted, published⟩ := announced
  exact ⟨id, sandbox, endpoint, previous, within booted, within published⟩

/-- A workload that is behind its boot has announced its machine. -/
theorem announced_of_deeds {prior : System} {w : Workload} {previous : Option Endpoint}
    (story : w.Story (prior.trail id)) (booted : w.machine = .done (.ok vm))
    (deed : w.publication vm previous ∈ deeds (prior.trail id)) : Announced vm prior.history :=
  ⟨id, _, _, previous, mem_trail.1 (story.booted_mem booted),
    mem_trail.1 (mem_of_mem_deeds deed)⟩

/-- A machine is announced before it is registered. -/
theorem announced_of_registered (reached : empty.run moves = some s)
    (split : s.history = newer ++ ⟨some id, .registered container vm true⟩ :: earlier) :
    Announced vm earlier := by
  obtain @⟨prior, _, _, w, _, created, role, settings, asks, story, takes, authored⟩ :=
    workload_author reached split rfl
  have added := authored.mem
  cases takes with
  | @registered booted response stage done free entries =>
      obtain ⟨-, rfl⟩ : response.container = container ∧ booted = vm := by
        simpa [eq_comm] using added
      obtain ⟨machine, previous, told⟩ := story.course.of_awaitingPlaceholder stage
      have deed : w.publication booted previous ∈ deeds (prior.trail id) := by simp [told]
      exact (announced_of_deeds story machine deed).mono fun _ member => authored.older member
  | _ => simp at added

/-- A machine is announced before a removal finds it. -/
theorem announced_of_found (reached : empty.run moves = some s)
    (own : ∀ move ∈ moves, move.caller?.isSome) {source : Option Nat}
    (split : s.history = newer ++ ⟨source, .found container (some vm)⟩ :: earlier) :
    Announced vm earlier := by
  obtain ⟨later, writer, older, place, within⟩ := registered_of_found reached split
  obtain ⟨creator, rfl⟩ := caller_of_occurrence reached own place
  exact (announced_of_registered reached place).mono within

/-- A call stops one machine at most. -/
theorem stopped_unique {first second : Vm} (reached : empty.run moves = some s)
    (one : .asked (.stop first) ∈ s.trail id) (other : .asked (.stop second) ∈ s.trail id) :
    first = second := by
  obtain ⟨origin, call, opening, number, story⟩ := story_of_event reached one
  have short := story.length_stops_le
  have sooner := mem_stops.2 one
  have later := mem_stops.2 other
  generalize stops (s.trail id) = machines at short sooner later
  match machines with
  | [] => cases sooner
  | [only] => exact (List.mem_singleton.1 sooner).trans (List.mem_singleton.1 later).symm
  | _ :: _ :: _ => simp at short

/-- A machine is announced before an answer says that it is stopped. -/
theorem announced_of_stopped {outcome : Outcome Unit} (reached : empty.run moves = some s)
    (own : ∀ move ∈ moves, move.caller?.isSome)
    (split : s.history = newer ++ ⟨some id, .answered (.stopped outcome)⟩ :: earlier)
    (asked : .asked (.stop vm) ∈ s.trail id) : Announced vm earlier := by
  have only : ∀ other, ⟨some id, .asked (.stop other)⟩ ∈ earlier → other = vm :=
    fun other member => stopped_unique reached (mem_trail.2 (mem_history split member)) asked
  cases exists_later_author reached split (by simp) (by simp) with
  | @workload prior _ _ w _ created role settings asks extracted story takes authored =>
      have reaped : ∀ {machine : Vm} {error : Error}, w.stage = .reaping machine error →
          Announced vm earlier := by
        intro machine error stage
        obtain ⟨booted, -, -, previous, told⟩ := story.course.of_reaping stage
        have question : .asked (.stop machine) ∈ prior.trail id :=
          mem_of_mem_deeds (by simp [told])
        obtain rfl := only machine (authored.older (mem_trail.1 question))
        have deed : w.publication machine previous ∈ deeds (prior.trail id) := by simp [told]
        exact (announced_of_deeds story booted deed).mono fun _ member => authored.older member
      have added := authored.mem
      cases takes with
      | released stage calm entries => exact reaped stage
      | interrupted stage text => exact reaped stage
      | _ => simp at added
  | relay created asks story takes authored =>
      have added := authored.mem
      cases takes <;> simp at added
  | @removal prior _ r _ removed asks story takes authored =>
      have looked : ∀ {machine : Vm}, r.stage = .awaitingStop machine → Announced vm earlier := by
        intro machine stage
        have told := story.of_awaitingStop stage
        have question : .asked (.stop machine) ∈ prior.trail id := by simp [told]
        have found : .found r.container (some machine) ∈ prior.trail id := by simp [told]
        obtain rfl := only machine (authored.older (mem_trail.1 question))
        obtain ⟨middle, older, rfl⟩ := List.append_of_mem (authored.older (mem_trail.1 found))
        have place : s.history = (newer ++ ⟨some id, .answered (.stopped outcome)⟩ :: middle) ++
            ⟨some id, .found r.container (some machine)⟩ :: older := by
          rw [split, List.append_assoc, List.cons_append]
        refine (announced_of_found reached own place).mono fun _ member => ?_
        exact List.mem_append_right _ (List.mem_cons_of_mem _ member)
      have added := authored.mem
      cases takes with
      | stopped stage => exact looked stage
      | stopFailed stage failed entries => exact looked stage
      | _ => simp at added

/-- The machine behind an endpoint that a sidecar takes, and the gap since its publication. -/
structure Backed (moves : List Move) (s : System) (sandbox : String) (endpoint : Endpoint)
    (publisher : Nat) (vm : Vm) (earlier gap older : List Occurrence) : Prop where
  place : ∃ previous,
    earlier = gap ++ ⟨some publisher, .published sandbox endpoint previous⟩ :: older
  /-- The endpoint is that of the machine that the publisher has booted. -/
  created : ∃ coordinator request, .create publisher coordinator request ∈ moves ∧
    Role.classify request.containerName = .workload ∧ request.sandbox = sandbox ∧
      endpoint = ⟨vm.address, coordinator.settings.guestPort⟩
  booted : ⟨some publisher, .answered (.booted (.ok vm))⟩ ∈ older
  /-- Since then nothing has been published, taken or forgotten for the sandbox. -/
  untouched : ∀ between ∈ gap, between.event.touches sandbox = false
  /-- A stop of the machine has come back since then or not at all. -/
  stopped : ∀ later stopper sooner,
    earlier = later ++ ⟨some stopper, .answered (.stopped (.ok ()))⟩ :: sooner →
      .asked (.stop vm) ∈ s.trail stopper →
        ∃ rest, gap = later ++ ⟨some stopper, .answered (.stopped (.ok ()))⟩ :: rest

/-- In every run of calls with distinct machines a sidecar takes the endpoint of a machine that
was not stopped before the endpoint was published.  A machine that was stopped since then is one
whose sandbox nothing has touched. -/
theorem taken_backed (reached : empty.run moves = some s)
    (own : ∀ move ∈ moves, move.caller?.isSome) (distinct : (boots s.history).Nodup)
    (split : s.history = newer ++ ⟨some id, .taken sandbox (some endpoint)⟩ :: earlier) :
    ∃ publisher vm gap older, Backed moves s sandbox endpoint publisher vm earlier gap older := by
  have last : LastPublished sandbox endpoint earlier :=
    lastPublished_of_taken (split ▸ truthful_history reached)
  obtain ⟨gap, source, previous, older, rfl, untouched⟩ := last
  have place : s.history = (newer ++ ⟨some id, .taken sandbox (some endpoint)⟩ :: gap) ++
      ⟨source, .published sandbox endpoint previous⟩ :: older := by
    rw [split, List.append_assoc, List.cons_append]
  obtain ⟨publisher, rfl⟩ := caller_of_occurrence reached own place
  obtain ⟨coordinator, request, vm, created, role, same, wired, booted⟩ :=
    author_of_published reached place
  refine ⟨publisher, vm, gap, older, ⟨previous, rfl⟩, ⟨coordinator, request, created, role, same,
    wired⟩, booted, untouched, fun later stopper sooner halted asked => ?_⟩
  have stop : s.history = (newer ++ ⟨some id, .taken sandbox (some endpoint)⟩ :: later) ++
      ⟨some stopper, .answered (.stopped (.ok ()))⟩ :: sooner := by
    rw [split, halted, List.append_assoc, List.cons_append]
  -- The publisher has announced the machine before the stop, and it publishes only once.
  obtain ⟨booter, sandbox', endpoint', previous', again, announced⟩ :=
    announced_of_stopped reached own stop asked
  obtain rfl : booter = publisher := by
    have there := mem_history place booted
    have here := mem_history stop again
    exact Option.some.inj (booter_unique distinct here there)
  rcases place_cases halted with ⟨-, clash, -⟩ | ⟨between, behind, -⟩ | ⟨between, -, before⟩
  · cases clash
  · exact ⟨between, behind⟩
  · refine absurd ?_ (published_notMem reached place sandbox' endpoint' previous')
    rw [before]
    exact List.mem_append_right _ (List.mem_cons_of_mem _ announced)

/-- Two workloads boot.  One loses its placeholder and is reaped, the other is removed, and then
their sidecars come. -/
def leftovers : List Move :=
  Sample.started 0 true "pod-1" ++
    [.receive 0 (.booted (.ok (Sample.machine "vm-1" "10.0.0.2"))), .proceed 0,
      .receive 0 (.created (.error (.runtime "create" "no space"))), .proceed 0,
      .receive 0 (.stopped (.ok ()))] ++
    Sample.started 1 true "pod-2" ++
    [.receive 1 (.booted (.ok (Sample.machine "vm-2" "10.0.0.3"))), .proceed 1,
      .receive 1 (.created (.ok ⟨"c", []⟩)), .proceed 1, .remove 2 ⟨"c"⟩, .proceed 2, .proceed 2,
      .receive 2 (.stopped (.ok ())), .proceed 2, .proceed 2, .receive 2 (.removed (.ok ())),
      .create 3 (Sample.coordinator true) (Sample.sidecar "pod-1"), .proceed 3,
      .create 4 (Sample.coordinator true) (Sample.sidecar "pod-2"), .proceed 4]

theorem taken_backed_leftovers :
    ∃ s newer earlier, empty.run leftovers = some s ∧
      (∀ move ∈ leftovers, move.caller?.isSome) ∧ (boots s.history).Nodup ∧
        s.history = newer ++ ⟨some 3, .taken "pod-1" (some ⟨"10.0.0.2", 50051⟩)⟩ :: earlier ∧
          ∃ publisher vm gap older, Backed leftovers s "pod-1" ⟨"10.0.0.2", 50051⟩ publisher vm
            earlier gap older := by
  have own : ∀ move ∈ leftovers, move.caller?.isSome := by decide
  have facts : (empty.run leftovers).map (fun s => (decide (boots s.history).Nodup,
      decide (⟨some 3, .taken "pod-1" (some ⟨"10.0.0.2", 50051⟩)⟩ ∈ s.history))) =
        some (true, true) := by decide
  obtain ⟨s, reached, same⟩ := Option.map_eq_some_iff.1 facts
  simp only [Prod.mk.injEq, decide_eq_true_eq] at same
  obtain ⟨distinct, member⟩ := same
  obtain ⟨newer, earlier, split⟩ := List.append_of_mem member
  exact ⟨s, newer, earlier, reached, own, distinct, split,
    taken_backed reached own distinct split⟩

/-- The machine behind the endpoint that was published last has been stopped. -/
def Stale (sandbox : String) (endpoint : Endpoint) (publisher : Nat) (vm : Vm)
    (history : List Occurrence) : Prop :=
  ∃ gap previous older,
    history = gap ++ ⟨some publisher, .published sandbox endpoint previous⟩ :: older ∧
      (∀ between ∈ gap, between.event.touches sandbox = false) ∧
        ⟨some publisher, .answered (.booted (.ok vm))⟩ ∈ older ∧ Halted vm history

/-- A list is cut at one of its elements. -/
theorem split_of_getElem? {history : List Occurrence} {n : Nat} {occurrence : Occurrence}
    (here : history[n]? = some occurrence) :
    history = history.take n ++ occurrence :: history.drop (n + 1) := by
  obtain ⟨bound, rfl⟩ := List.getElem?_eq_some_iff.1 here
  rw [← List.drop_eq_getElem_cons bound, List.take_append_drop]

/-- The stale endpoint was published at one place of the history, and one call made the stop. -/
def StaleAt (place stopper : Nat) (sandbox : String) (endpoint : Endpoint) (publisher : Nat)
    (vm : Vm) (history : List Occurrence) : Prop :=
  history[place]? = some ⟨some publisher, .published sandbox endpoint none⟩ ∧
    (∀ between ∈ history.take place, between.event.touches sandbox = false) ∧
      ⟨some publisher, .answered (.booted (.ok vm))⟩ ∈ history.drop (place + 1) ∧
        ⟨some stopper, .asked (.stop vm)⟩ ∈ history ∧
          ⟨some stopper, .answered (.stopped (.ok ()))⟩ ∈ history
  deriving Decidable

theorem StaleAt.stale {place stopper publisher : Nat} {history : List Occurrence}
    (stale : StaleAt place stopper sandbox endpoint publisher vm history) :
    Stale sandbox endpoint publisher vm history := by
  obtain ⟨published, untouched, booted, asked, stopped⟩ := stale
  exact ⟨_, _, _, split_of_getElem? published, untouched, booted, stopper, asked, stopped⟩

/-- Both sidecars take the endpoints of stopped machines: one was reaped, the other removed. -/
theorem stopped_machines_taken :
    ∃ s, empty.run leftovers = some s ∧ (∀ move ∈ leftovers, move.caller?.isSome) ∧
      (boots s.history).Nodup ∧
        (∃ newer earlier,
          s.history = newer ++ ⟨some 3, .taken "pod-1" (some ⟨"10.0.0.2", 50051⟩)⟩ :: earlier ∧
            Stale "pod-1" ⟨"10.0.0.2", 50051⟩ 0 (Sample.machine "vm-1" "10.0.0.2") earlier) ∧
        ∃ newer earlier,
          s.history = newer ++ ⟨some 4, .taken "pod-2" (some ⟨"10.0.0.3", 50051⟩)⟩ :: earlier ∧
            Stale "pod-2" ⟨"10.0.0.3", 50051⟩ 1 (Sample.machine "vm-2" "10.0.0.3") earlier := by
  -- The history stands newest first: the sidecars took last, the workloads published early.
  have facts : (empty.run leftovers).map (fun s => decide ((boots s.history).Nodup ∧
      (s.history[1]? = some ⟨some 3, .taken "pod-1" (some ⟨"10.0.0.2", 50051⟩)⟩ ∧
        StaleAt 18 0 "pod-1" ⟨"10.0.0.2", 50051⟩ 0 (Sample.machine "vm-1" "10.0.0.2")
          (s.history.drop 2)) ∧
      s.history[0]? = some ⟨some 4, .taken "pod-2" (some ⟨"10.0.0.3", 50051⟩)⟩ ∧
        StaleAt 11 2 "pod-2" ⟨"10.0.0.3", 50051⟩ 1 (Sample.machine "vm-2" "10.0.0.3")
          (s.history.drop 1))) = some true := by decide
  obtain ⟨s, reached, same⟩ := Option.map_eq_some_iff.1 facts
  obtain ⟨distinct, ⟨first, reaped⟩, second, removed⟩ := of_decide_eq_true same
  exact ⟨s, reached, by decide, distinct,
    ⟨_, _, split_of_getElem? first, reaped.stale⟩, ⟨_, _, split_of_getElem? second, removed.stale⟩⟩

end System

end GuestPod
