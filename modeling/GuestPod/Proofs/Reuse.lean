/-
This file asks which machine a removal drops.  It is the machine that the removal has stopped,
unless the container was registered anew while the removal waited for its stop.
-/

import GuestPod.Proofs.Retry

namespace GuestPod.System

/-- A stop of the machine has come back well. -/
def Halted (vm : Vm) (history : List Occurrence) : Prop :=
  ∃ id, ⟨some id, .asked (.stop vm)⟩ ∈ history ∧
    ⟨some id, .answered (.stopped (.ok ()))⟩ ∈ history

/-- A machine was registered for the container. -/
def Renewed (container : String) (history : List Occurrence) : Prop :=
  ∃ occurrence ∈ history, ∃ vm, occurrence.event = .registered container vm true

variable {moves : List Move} {s : System} {newer earlier middle before : List Occurrence} {id : Nat}
  {container : String} {vm seen : Vm}

/-- Without a new registration the entry is still that of the lookup. -/
theorem seen_of_not_renewed
    (truthful : Truthful (middle ++ ⟨some id, .found container (some seen)⟩ :: before))
    (fixed : ¬Renewed container middle)
    (present : (replay (middle ++ ⟨some id, .found container (some seen)⟩ ::
      before)).vms.get? container = some vm) : vm = seen := by
  have met : some seen = (replay before).vms.get? container := truthful.of_append.1
  have silent : ∀ between ∈ middle, ∀ other, between.event ≠ .registered container other true :=
    fun between member other same => fixed ⟨between, member, other, same⟩
  rcases entry_of_unregistered silent with gone | kept
  · rw [present] at gone
    cases gone
  · have old : (replay before).vms.get? container = some vm := kept.symm.trans present
    rw [old] at met
    exact (Option.some.inj met).symm

/-- A new registration comes behind the drop of the entry that the lookup met. -/
theorem dropped_of_renewed
    (truthful : Truthful (middle ++ ⟨some id, .found container (some seen)⟩ :: before))
    (renewed : Renewed container middle)
    (present : (replay (middle ++ ⟨some id, .found container (some seen)⟩ ::
      before)).vms.get? container = some vm) :
    ∃ later creator gap ender, middle = later ++ ⟨creator, .registered container vm true⟩ :: gap ∧
      (∀ between ∈ later, between.event.changes container = false) ∧
        ⟨ender, .dropped container (some seen)⟩ ∈ gap := by
  obtain ⟨later, creator, older, split, apart⟩ := lastRegistered_of_get? present
  rcases place_cases split with ⟨-, clash, -⟩ | ⟨gap, rfl, sooner⟩ | ⟨gap, rfl, -⟩
  · cases clash
  · rw [split] at truthful
    obtain ⟨free, behind⟩ := truthful.of_append
    rw [sooner] at free behind
    have met : some seen = (replay before).vms.get? container := behind.of_append.1
    rcases entry_until_dropped behind met.symm with ⟨-, there⟩ | ⟨after, ender, kept, rfl, -⟩
    · have none : true = ((replay (gap ++ ⟨some id, .found container (some seen)⟩ ::
          before)).vms.get? container).isNone := free
      rw [there] at none
      cases none
    · exact ⟨later, creator, _, ender, rfl, apart, by simp⟩
  · -- The last registration cannot be older than the one behind the lookup.
    obtain ⟨between, member, other, same⟩ := renewed
    have untouched := apart between (List.mem_append_left _ member)
    simp [same, Event.changes] at untouched

/-- What a removal that drops a machine has done about it. -/
structure Released (moves : List Move) (id : Nat) (container : String) (vm : Vm)
    (earlier : List Occurrence) : Prop where
  removed : .remove id ⟨container⟩ ∈ moves
  /-- It drops the machine that it has stopped when its container was not registered anew since
  its lookup.  Otherwise it drops what was registered last, and its own machine is gone. -/
  window : ∃ seen middle before,
    earlier = middle ++ ⟨some id, .found container (some seen)⟩ :: before ∧
      Halted seen earlier ∧ (¬Renewed container middle → vm = seen) ∧
        (Renewed container middle → ∃ later creator gap ender,
          middle = later ++ ⟨creator, .registered container vm true⟩ :: gap ∧
            (∀ between ∈ later, between.event.changes container = false) ∧
              ⟨ender, .dropped container (some seen)⟩ ∈ gap)
  /-- So a machine that was registered before the lookup has been stopped. -/
  halted : ∀ middle looked before, earlier = middle ++ ⟨some id, .found container looked⟩ :: before →
    ¬Renewed container middle → Halted vm earlier

/-- In every run a removal drops a machine that was stopped, unless its container was registered
anew since its lookup. -/
theorem dropped_halted_or_renewed (reached : empty.run moves = some s)
    (split : s.history = newer ++ ⟨some id, .dropped container (some vm)⟩ :: earlier) :
    Released moves id container vm earlier := by
  obtain ⟨_, prior, seen, -, arrived, rfl, removed, entry, trail⟩ :=
    dropping_of_dropped reached split
  have found : .found container (some seen) ∈ prior.trail id := by simp [trail]
  have asked : .asked (.stop seen) ∈ prior.trail id := by simp [trail]
  have stopped : .answered (.stopped (.ok ())) ∈ prior.trail id := by simp [trail]
  obtain ⟨played, truthful⟩ := replay_history arrived
  have present : (replay prior.history).vms.get? container = some vm := by rw [played, ← entry]
  have halted : Halted seen prior.history := ⟨id, mem_trail.1 asked, mem_trail.1 stopped⟩
  refine ⟨removed, ?_, ?_⟩
  · obtain ⟨middle, before, here⟩ := List.append_of_mem (mem_trail.1 found)
    refine ⟨seen, middle, before, here, halted, fun fixed => ?_, fun renewed => ?_⟩
    · exact seen_of_not_renewed (here ▸ truthful) fixed (here ▸ present)
    · exact dropped_of_renewed (here ▸ truthful) renewed (here ▸ present)
  · intro middle looked before here fixed
    have again : .found container looked ∈ prior.trail id := by
      rw [mem_trail, here]
      exact List.mem_append_right _ List.mem_cons_self
    obtain rfl : looked = some seen := by simpa [trail] using again
    obtain rfl := seen_of_not_renewed (here ▸ truthful) fixed (here ▸ present)
    exact halted

/-- Two removals look up the same machine.  The container is used again between their drops. -/
def recycling : List Move :=
  settling ++ [.remove 1 ⟨"c"⟩, .proceed 1, .proceed 1, .remove 2 ⟨"c"⟩, .proceed 2, .proceed 2,
    .receive 1 (.stopped (.ok ())), .proceed 1, .proceed 1, .receive 1 (.removed (.ok ()))] ++
    Sample.started 3 false "pod-2" ++
    [.receive 3 (.booted (.ok (Sample.machine "vm-2" "10.0.0.3"))), .proceed 3,
      .receive 3 (.created (.ok ⟨"c", []⟩)), .proceed 3, .receive 2 (.stopped (.ok ())),
      .proceed 2]

theorem dropped_halted_or_renewed_recycling :
    ∃ s newer earlier, empty.run recycling = some s ∧
      s.history = newer ++
        ⟨some 1, .dropped "c" (some (Sample.machine "vm-1" "10.0.0.2"))⟩ :: earlier ∧
          Released recycling 1 "c" (Sample.machine "vm-1" "10.0.0.2") earlier := by
  have place : (empty.run recycling).map (fun s => decide
      (⟨some 1, .dropped "c" (some (Sample.machine "vm-1" "10.0.0.2"))⟩ ∈ s.history)) =
        some true := by decide
  obtain ⟨s, reached, member⟩ := Option.map_eq_some_iff.1 place
  obtain ⟨newer, earlier, split⟩ := List.append_of_mem (of_decide_eq_true member)
  exact ⟨s, newer, earlier, reached, split, dropped_halted_or_renewed reached split⟩

/-- The second removal drops a machine that nobody has stopped. -/
theorem running_machine_dropped :
    ∃ s earlier vm, empty.run recycling = some s ∧
      (∀ move ∈ recycling, move.writesRegistry = false) ∧
        .answered (.booted (.ok vm)) ∈ s.trail 3 ∧
          s.history = ⟨some 2, .dropped "c" (some vm)⟩ :: earlier ∧ ¬Halted vm earlier := by
  let vm := Sample.machine "vm-2" "10.0.0.3"
  have facts : (empty.run recycling).map (fun s => (s.history.head?,
      decide (.answered (.booted (.ok vm)) ∈ s.trail 3),
      s.history.all fun occurrence => occurrence.event ≠ .asked (.stop vm))) =
        some (some ⟨some 2, .dropped "c" (some vm)⟩, true, true) := by decide
  obtain ⟨s, reached, same⟩ := Option.map_eq_some_iff.1 facts
  simp only [Prod.mk.injEq, decide_eq_true_eq] at same
  obtain ⟨first, booted, running⟩ := same
  obtain ⟨earlier, split⟩ := List.head?_eq_some_iff.1 first
  refine ⟨s, earlier, vm, reached, by decide, booted, split, ?_⟩
  rintro ⟨id, asked, -⟩
  have member : ⟨some id, .asked (.stop vm)⟩ ∈ s.history := by
    rw [split]
    exact List.mem_cons_of_mem _ asked
  simpa using List.all_eq_true.1 running _ member

end GuestPod.System
