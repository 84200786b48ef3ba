/-
This file follows the entry of a container in the registry.  Only a finished creation makes it,
and only a removal of the container ends it.
-/

import GuestPod.Proofs.Author
import GuestPod.Proofs.Replay

namespace GuestPod

/-- Only a coordinator writes to the registry when no move of the run does so by itself. -/
def Move.writesRegistry : Move → Bool
  | .register _ _ => true
  | .drop _ => true
  | _ => false

/-- A removal that stops a machine has found it. -/
theorem Removal.Story.of_stopping {r : Removal} {trail : List Event} {vm : Vm}
    (story : r.Story trail) (stage : r.stage = .stopping vm) :
    trail = [.found r.container (some vm)] := by
  cases story with
  | stopping here =>
      obtain rfl := Stage.stopping.inj (stage.symm.trans here)
      rfl
  | _ => simp_all

/-- A removal that waits for a stop has found the machine and has asked. -/
theorem Removal.Story.of_awaitingStop {r : Removal} {trail : List Event} {vm : Vm}
    (story : r.Story trail) (stage : r.stage = .awaitingStop vm) :
    trail = [.found r.container (some vm), .asked (.stop vm)] := by
  cases story with
  | awaitingStop here =>
      obtain rfl := Stage.awaitingStop.inj (stage.symm.trans here)
      rfl
  | _ => simp_all

/-- A removal that drops an entry has found a machine and has stopped it. -/
theorem Removal.Story.of_dropping {r : Removal} {trail : List Event} {vm : Vm}
    (story : r.Story trail) (stage : r.stage = .dropping vm) :
    trail = [.found r.container (some vm), .asked (.stop vm), .answered (.stopped (.ok ()))] := by
  cases story with
  | dropping here =>
      obtain rfl := Stage.dropping.inj (stage.symm.trans here)
      rfl
  | _ => simp_all

namespace System

/-- The entry of a container outlives everything but its drop. -/
theorem entry_until_dropped {newer earlier : List Occurrence} {container : String} {vm : Vm}
    (truthful : Truthful (newer ++ earlier))
    (present : (replay earlier).vms.get? container = some vm) :
    ((∀ between ∈ newer, between.event.changes container = false) ∧
      (replay (newer ++ earlier)).vms.get? container = some vm) ∨
    ∃ later source kept, newer = later ++ ⟨source, .dropped container (some vm)⟩ :: kept ∧
      ∀ between ∈ kept, between.event.changes container = false := by
  induction newer with
  | nil => exact .inl ⟨by simp, present⟩
  | cons newest rest ih =>
      obtain ⟨met, before⟩ := truthful
      rcases ih before with ⟨apart, there⟩ | ⟨later, source, kept, rfl, apart⟩
      · cases changed : newest.event.changes container with
        | false =>
            refine .inl ⟨by simpa [changed] using apart, ?_⟩
            rw [List.cons_append, replay, Event.vm_effect changed]
            exact there
        | true =>
            obtain ⟨source, event⟩ := newest
            cases event with
            | registered other given accepted =>
                obtain ⟨rfl, rfl⟩ : accepted = true ∧ other = container := by
                  simpa [Event.changes] using changed
                have free : true = ((replay (rest ++ earlier)).vms.get? other).isNone := met
                rw [there] at free
                cases free
            | dropped other entry =>
                obtain rfl : other = container := by simpa [Event.changes] using changed
                have dropped : entry = (replay (rest ++ earlier)).vms.get? other := met
                rw [there] at dropped
                subst dropped
                exact .inr ⟨[], source, rest, rfl, apart⟩
            | _ => simp [Event.changes] at changed
      · exact .inr ⟨newest :: later, source, kept, rfl, apart⟩

variable {moves : List Move} {s : System} {newer earlier : List Occurrence} {id : Nat}

/-- What stands behind a place of the history stands in the history. -/
theorem mem_history {occurrence other : Occurrence}
    (split : s.history = newer ++ occurrence :: earlier) (member : other ∈ earlier) :
    other ∈ s.history := by
  rw [split]
  exact List.mem_append_right _ (List.mem_cons_of_mem _ member)

/-- Every change of an entry comes from a call when no move writes to the registry by itself. -/
theorem caller_of_change (container : String) {writer : Option Nat} {event : Event}
    (reached : empty.run moves = some s) (own : ∀ move ∈ moves, move.writesRegistry = false)
    (split : s.history = newer ++ ⟨writer, event⟩ :: earlier)
    (changed : event.changes container = true) : ∃ caller, writer = some caller := by
  cases writer with
  | some caller => exact ⟨caller, rfl⟩
  | none =>
      obtain ⟨prior, move, stores, member, accesses⟩ := exists_access reached split
      have silent := own move member
      cases accesses <;> simp [Move.writesRegistry, Event.changes] at silent changed

/-- A call that registers a machine has booted it and has created the container. -/
theorem author_of_registered {container : String} {vm : Vm} (reached : empty.run moves = some s)
    (split : s.history = newer ++ ⟨some id, .registered container vm true⟩ :: earlier) :
    ∃ coordinator request response, .create id coordinator request ∈ moves ∧
      Role.classify request.containerName = .workload ∧ response.container = container ∧
        ⟨some id, .answered (.created (.ok response))⟩ ∈ earlier ∧
          ⟨some id, .answered (.booted (.ok vm))⟩ ∈ earlier ∧
            ⟨some id, .finished (.created (.ok response))⟩ ∈ s.history := by
  obtain ⟨created, role, settings, asks, story, takes, authored⟩ :=
    workload_author reached split rfl
  have added := authored.mem
  cases takes with
  | @registered booted response stage done free entries =>
      obtain ⟨rfl, rfl⟩ : response.container = container ∧ booted = vm := by
        simpa [eq_comm] using added
      obtain ⟨machine, -⟩ := story.course.of_awaitingPlaceholder stage
      refine ⟨_, _, response, created, role, rfl, ?_, ?_, ?_⟩
      · exact authored.older (mem_trail.1 (story.created_mem done))
      · exact authored.older (mem_trail.1 (story.booted_mem machine))
      · exact authored.kept _ (by simp)
  | _ => simp at added

/-- A call that drops the entry of a container removes this container.  Until then it has found a
machine and has stopped it. -/
theorem dropping_of_dropped {container : String} {entry : Option Vm}
    (reached : empty.run moves = some s)
    (split : s.history = newer ++ ⟨some id, .dropped container entry⟩ :: earlier) :
    ∃ before prior vm, before <+: moves ∧ empty.run before = some prior ∧
      prior.history = earlier ∧ .remove id ⟨container⟩ ∈ moves ∧
        entry = prior.stores.vms.get? container ∧
          prior.trail id =
            [.found container (some vm), .asked (.stop vm), .answered (.stopped (.ok ()))] := by
  obtain ⟨removed, asks, story, takes, authored⟩ := removal_author reached split rfl
  have added := authored.mem
  cases takes with
  | @dropped vm stage entries =>
      obtain ⟨before, inside, started⟩ := authored.reached
      obtain ⟨same, rfl⟩ := authored.alone
      obtain ⟨rfl, rfl⟩ := Event.dropped.inj same
      subst asks
      exact ⟨before, _, vm, inside, started, rfl, removed, rfl, story.of_dropping stage⟩
  | _ => simp at added

theorem author_of_dropped {container : String} {entry : Option Vm}
    (reached : empty.run moves = some s)
    (split : s.history = newer ++ ⟨some id, .dropped container entry⟩ :: earlier) :
    .remove id ⟨container⟩ ∈ moves := by
  obtain ⟨before, prior, vm, -, -, -, removed, -⟩ := dropping_of_dropped reached split
  exact removed

/-- A call that stops a machine has booted it or has found it in the registry. -/
theorem author_of_stop {vm : Vm} (reached : empty.run moves = some s)
    (split : s.history = newer ++ ⟨some id, .asked (.stop vm)⟩ :: earlier) :
    ⟨some id, .answered (.booted (.ok vm))⟩ ∈ earlier ∨
      ∃ container, ⟨some id, .found container (some vm)⟩ ∈ earlier := by
  cases exists_later_author reached split (by simp) (by simp) with
  | workload created role settings asks extracted story takes authored =>
      have added := authored.mem
      cases takes with
      | orphanReaped stage done failed strict entries =>
          obtain rfl := Request.stop.inj (Event.asked.inj (List.mem_singleton.1 added))
          obtain ⟨machine, -⟩ := story.course.of_awaitingPlaceholder stage
          exact .inl (authored.older (mem_trail.1 (story.booted_mem machine)))
      | _ => simp at added
  | relay created asks story takes authored =>
      have added := authored.mem
      cases takes <;> simp at added
  | @removal prior _ r _ removed asks story takes authored =>
      have added := authored.mem
      cases takes with
      | stopAsked stage =>
          obtain rfl := Request.stop.inj (Event.asked.inj (List.mem_singleton.1 added))
          have found : .found r.container (some vm) ∈ prior.trail id := by
            rw [story.of_stopping stage]
            exact List.mem_singleton_self _
          exact .inr ⟨r.container, authored.older (mem_trail.1 found)⟩
      | _ => simp at added

/-- A workload that finishes well has registered its machine just before. -/
theorem author_of_success {coordinator : Coordinator} {request : CreateRequest}
    {response : CreateResponse} (reached : empty.run moves = some s)
    (created : .create id coordinator request ∈ moves)
    (workload : Role.classify request.containerName = .workload)
    (split : s.history = newer ++ ⟨some id, .finished (.created (.ok response))⟩ :: earlier) :
    ∃ vm older, earlier = ⟨some id, .registered response.container vm true⟩ :: older ∧
      ⟨some id, .answered (.created (.ok response))⟩ ∈ older ∧
        ⟨some id, .answered (.booted (.ok vm))⟩ ∈ older := by
  rcases exists_author reached split with ⟨prior, move, turn, opens, authored⟩ | later
  · have added := authored.mem
    cases opens <;> simp at added
  · cases later with
    | @workload prior _ _ w turn opened role settings asks extracted story takes authored =>
        have added := authored.mem
        cases takes with
        | @registered vm answered stage done free entries =>
            obtain ⟨first, last, events, rfl⟩ := authored.place
            obtain rfl : response = answered := by simpa using added
            obtain ⟨machine, -⟩ := story.course.of_awaitingPlaceholder stage
            have alone : first = [.registered response.container vm true] := by
              cases first with
              | nil => simp at events
              | cons event rest =>
                  obtain ⟨rfl, tail⟩ := List.cons_eq_cons.1 events
                  cases rest with
                  | nil => rfl
                  | cons => simp at tail
            subst alone
            exact ⟨vm, prior.history, rfl, mem_trail.1 (story.created_mem done),
              mem_trail.1 (story.booted_mem machine)⟩
        | _ => simp at added
    | relay opened asks story takes authored =>
        obtain ⟨-, -, rfl⟩ := Move.create.inj (origin_unique reached opened rfl created rfl)
        exact absurd workload story.not_workload
    | removal removed asks story takes authored =>
        have added := authored.mem
        cases takes <;> simp at added

/-- A creation that finishes with an error or a panic has registered nothing. -/
theorem unregistered_of_failure {outcome : Outcome CreateResponse}
    (reached : empty.run moves = some s) (finished : .finished (.created outcome) ∈ s.trail id)
    (failed : ∀ response, outcome ≠ .ok response) (container : String) (vm : Vm) :
    .registered container vm true ∉ s.trail id := by
  intro registered
  obtain ⟨newer, earlier, split⟩ := List.append_of_mem (mem_trail.1 registered)
  obtain ⟨_, _, response, _, _, _, _, _, succeeded⟩ := author_of_registered reached split
  have same := finished_unique reached finished (mem_trail.2 succeeded)
  exact failed response (Result.created.inj same)

/-- A machine that is found was registered before. -/
theorem registered_of_found {container : String} {vm : Vm} {source : Option Nat}
    (reached : empty.run moves = some s)
    (split : s.history = newer ++ ⟨source, .found container (some vm)⟩ :: earlier) :
    ∃ later writer older, s.history = later ++ ⟨writer, .registered container vm true⟩ :: older ∧
      older ⊆ earlier := by
  have truthful := truthful_history reached
  rw [split] at truthful
  have met : some vm = (replay earlier).vms.get? container := truthful.of_append.1
  obtain ⟨gap, writer, older, rfl, -⟩ := lastRegistered_of_get? met.symm
  refine ⟨newer ++ ⟨source, .found container (some vm)⟩ :: gap, writer, older, ?_, ?_⟩
  · rw [split, List.append_assoc, List.cons_append]
  · exact fun _ member => List.mem_append_right _ (List.mem_cons_of_mem _ member)

/-- A machine that a removal finds was registered by a creation that booted it. -/
theorem booted_of_found {container : String} {vm : Vm} (reached : empty.run moves = some s)
    (own : ∀ move ∈ moves, move.writesRegistry = false) {source : Option Nat}
    (split : s.history = newer ++ ⟨source, .found container (some vm)⟩ :: earlier) :
    ∃ booter, ⟨some booter, .answered (.booted (.ok vm))⟩ ∈ earlier := by
  obtain ⟨later, writer, older, place, within⟩ := registered_of_found reached split
  obtain ⟨booter, rfl⟩ := caller_of_change container reached own place (by simp [Event.changes])
  obtain ⟨_, _, _, _, _, _, _, booted, _⟩ := author_of_registered reached place
  exact ⟨booter, within booted⟩

/-- A machine is stopped after it was booted. -/
theorem booted_of_stop {vm : Vm} (reached : empty.run moves = some s)
    (own : ∀ move ∈ moves, move.writesRegistry = false) {source : Option Nat}
    (split : s.history = newer ++ ⟨source, .asked (.stop vm)⟩ :: earlier) :
    ∃ booter, ⟨some booter, .answered (.booted (.ok vm))⟩ ∈ earlier := by
  cases source with
  | none =>
      obtain ⟨prior, move, stores, member, accesses⟩ := exists_access reached split
      cases accesses
  | some id =>
      rcases author_of_stop reached split with booted | ⟨container, found⟩
      · exact ⟨id, booted⟩
      · obtain ⟨middle, older, rfl⟩ := List.append_of_mem found
        have place : s.history = (newer ++ ⟨some id, .asked (.stop vm)⟩ :: middle) ++
            ⟨some id, .found container (some vm)⟩ :: older := by
          rw [split, List.append_assoc, List.cons_append]
        obtain ⟨booter, booted⟩ := booted_of_found reached own place
        exact ⟨booter, List.mem_append_right _ (List.mem_cons_of_mem _ booted)⟩

/-- The entries of the registry and the machines behind them.  Registering and returning are one
move, and so the creation of an entry has finished wherever the entry is there. -/
structure Accounted (moves : List Move) (s : System) : Prop where
  /-- An entry belongs to a finished creation, its container and its machine. -/
  origin : ∀ container vm, s.stores.vms.get? container = some vm →
    ∃ id coordinator request response, .create id coordinator request ∈ moves ∧
      Role.classify request.containerName = .workload ∧ response.container = container ∧
        .answered (.created (.ok response)) ∈ s.trail id ∧
          .answered (.booted (.ok vm)) ∈ s.trail id ∧
            .finished (.created (.ok response)) ∈ s.trail id
  /-- A finished creation keeps its entry until its container is removed. -/
  kept : ∀ id coordinator request response newer earlier,
    .create id coordinator request ∈ moves →
      Role.classify request.containerName = .workload →
        s.history = newer ++ ⟨some id, .finished (.created (.ok response))⟩ :: earlier →
          ∃ vm, .answered (.created (.ok response)) ∈ s.trail id ∧
            .answered (.booted (.ok vm)) ∈ s.trail id ∧
              ((∀ between ∈ newer, between.event.changes response.container = false) ∧
                s.stores.vms.get? response.container = some vm ∨
              ∃ later remover middle,
                newer = later ++ ⟨some remover, .dropped response.container (some vm)⟩ :: middle ∧
                  (∀ between ∈ middle, between.event.changes response.container = false) ∧
                    .remove remover ⟨response.container⟩ ∈ moves)
  /-- A creation that fails has registered nothing. -/
  failed : ∀ id outcome, .finished (.created outcome) ∈ s.trail id →
    (∀ response, outcome ≠ .ok response) →
      ∀ container vm, .registered container vm true ∉ s.trail id
  /-- Every machine that is stopped was booted before. -/
  stopped : ∀ newer source vm earlier,
    s.history = newer ++ ⟨source, .asked (.stop vm)⟩ :: earlier →
      ∃ booter, ⟨some booter, .answered (.booted (.ok vm))⟩ ∈ earlier

/-- In every run the registry holds what the calls have created and not yet removed. -/
theorem registry_accounted (reached : empty.run moves = some s)
    (own : ∀ move ∈ moves, move.writesRegistry = false) : Accounted moves s where
  origin container vm present := by
    rw [← (replay_history reached).1] at present
    obtain ⟨gap, writer, older, split, -⟩ := lastRegistered_of_get? present
    obtain ⟨id, rfl⟩ := caller_of_change container reached own split (by simp [Event.changes])
    obtain ⟨coordinator, request, response, member, role, same, created, booted, finished⟩ :=
      author_of_registered reached split
    exact ⟨id, coordinator, request, response, member, role, same,
      mem_trail.2 (mem_history split created), mem_trail.2 (mem_history split booted),
      mem_trail.2 finished⟩
  kept id coordinator request response newer earlier created role split := by
    obtain ⟨vm, older, rfl, answered, booted⟩ := author_of_success reached created role split
    refine ⟨vm, mem_trail.2 (mem_history split (List.mem_cons_of_mem _ answered)),
      mem_trail.2 (mem_history split (List.mem_cons_of_mem _ booted)), ?_⟩
    obtain ⟨played, truthful⟩ := replay_history reached
    have entered : (replay (⟨some id, .finished (.created (.ok response))⟩ ::
        ⟨some id, .registered response.container vm true⟩ :: older)).vms.get?
          response.container = some vm := by
      simp [replay, Event.effect, Table.get?_put]
    rcases entry_until_dropped (split ▸ truthful) entered with ⟨apart, there⟩ |
      ⟨later, source, middle, rfl, apart⟩
    · rw [← split, played] at there
      exact .inl ⟨apart, there⟩
    · rw [List.append_assoc] at split
      obtain ⟨remover, rfl⟩ :=
        caller_of_change response.container reached own split (by simp [Event.changes])
      exact .inr ⟨later, remover, middle, rfl, apart, author_of_dropped reached split⟩
  failed id outcome finished failed := unregistered_of_failure reached finished failed
  stopped newer source vm earlier split := booted_of_stop reached own split

/-- Two workloads are created, and the container of the first is removed again. -/
def turnover : List Move :=
  Sample.started 0 false "pod" ++ Sample.started 1 true "pod" ++
    [.receive 1 (.created (.ok ⟨"c-2", []⟩)), .receive 0 (.created (.ok ⟨"c-1", []⟩)),
      .receive 0 (.booted (.ok (Sample.machine "vm-1" "10.0.0.2"))), .proceed 0, .proceed 0,
      .remove 2 ⟨"c-1"⟩, .proceed 2, .receive 1 (.booted (.ok (Sample.machine "vm-2" "10.0.0.3"))),
      .proceed 1, .proceed 2, .receive 2 (.stopped (.ok ())), .proceed 1, .proceed 2]

theorem registry_accounted_turnover :
    ∃ s, empty.run turnover = some s ∧
      (∀ move ∈ turnover, move.writesRegistry = false) ∧
        s.stores.vms.get? "c-1" = none ∧
          s.stores.vms.get? "c-2" = some (Sample.machine "vm-2" "10.0.0.3") ∧
            Accounted turnover s := by
  have entries : (empty.run turnover).map (fun s =>
      (s.stores.vms.get? "c-1", s.stores.vms.get? "c-2")) =
        some (none, some (Sample.machine "vm-2" "10.0.0.3")) := by decide
  have own : ∀ move ∈ turnover, move.writesRegistry = false := by decide
  obtain ⟨s, reached, same⟩ := Option.map_eq_some_iff.1 entries
  obtain ⟨first, second⟩ := Prod.mk.inj same
  exact ⟨s, reached, own, first, second, registry_accounted reached own⟩

end System

end GuestPod
