/-
This file shows that calls come to rest.  A call goes on by itself a few times only, so every system
becomes idle when nothing comes from outside.
-/

import GuestPod.Proofs.Step
import GuestPod.Rehearsal
import Mathlib.Algebra.GroupWithZero.Nat

namespace GuestPod

/-- The value of a key counts once in a sum over a table. -/
theorem Table.sum_put {κ α : Type} [DecidableEq κ] (table : Table κ α) (weight : α → Nat)
    {key : κ} {old : α} (present : table.get? key = some old) (new : α) :
    ((table.put key new).entries.map (weight ·.2)).sum + weight old =
      (table.entries.map (weight ·.2)).sum + weight new := by
  obtain ⟨entries, distinct⟩ := table
  suffices kept : ((entries.filter (·.1 ≠ key)).map (weight ·.2)).sum + weight old =
      (entries.map (weight ·.2)).sum by
    simp only [put, List.map_cons, List.sum_cons]
    omega
  simp only [get?] at present
  induction entries with
  | nil => cases present
  | cons entry rest ih =>
      obtain ⟨fresh, distinct⟩ := List.nodup_cons.1 distinct
      by_cases here : entry.1 = key
      · have others : rest.filter (·.1 ≠ key) = rest := by
          refine List.filter_eq_self.2 fun other member => decide_eq_true ?_
          rintro same
          exact fresh (List.mem_map.2 ⟨other, member, same.trans here.symm⟩)
        obtain rfl : entry.2 = old := by simpa [here] using present
        rw [List.filter_cons_of_neg (by simpa using here), others, List.map_cons, List.sum_cons]
        omega
      · have behind := ih distinct (by simpa [here] using present)
        rw [List.filter_cons_of_pos (by simpa using here), List.map_cons, List.map_cons,
          List.sum_cons, List.sum_cons]
        omega

/-! The steps that a call can still take by itself before an answer comes, at most. -/

def Task.ahead {α : Type} : Task α → Nat
  | .ready => 1
  | .running => 0
  | .done _ => 0

namespace Workload

def Stage.ahead : Stage → Nat
  | .awaitingBoot => 2
  | .awaitingPlaceholder _ => 1
  | .reaping _ _ => 0
  | .finished _ => 0

def ahead (w : Workload) : Nat := w.placeholder.ahead + w.machine.ahead + w.stage.ahead

variable {w : Workload} {stores : Stores} {turn : Turn Workload}

theorem ahead_afterBoot (w : Workload) (stores : Stores) (outcome : Outcome Vm) :
    (w.afterBoot stores outcome).next.ahead ≤ w.placeholder.ahead + w.machine.ahead + 1 := by
  cases outcome <;> simp [afterBoot, finish, ahead, Stage.ahead]

theorem ahead_release (vm : Vm) (error : Error) (entries : List Log.Entry) :
    (w.release stores vm error entries).next.ahead = w.placeholder.ahead + w.machine.ahead := by
  unfold release
  split <;> rfl

theorem ahead_afterPlaceholder (w : Workload) (stores : Stores) (vm : Vm)
    (outcome : Outcome CreateResponse) :
    (w.afterPlaceholder stores vm outcome).next.ahead =
      w.placeholder.ahead + w.machine.ahead := by
  cases outcome with
  | ok response =>
      cases found : stores.vms.get? response.container with
      | none =>
          rw [afterPlaceholder, Stores.register_free found]
          rfl
      | some holder =>
          rw [afterPlaceholder, Stores.register_taken found]
          rfl
  | error e => exact ahead_release vm e _
  | panic text => exact ahead_release vm _ _

theorem ahead_proceed (turned : w.proceed stores = some turn) : turn.next.ahead < w.ahead := by
  unfold proceed at turned
  split at turned
  · next stage =>
      split at turned
      · next outcome done =>
          cases turned
          have bound := ahead_afterBoot w stores outcome
          simp only [ahead, stage, Stage.ahead] at bound ⊢
          omega
      · cases turned
  · next vm stage =>
      split at turned
      · next outcome done =>
          cases turned
          have same := ahead_afterPlaceholder w stores vm outcome
          simp only [ahead, stage, Stage.ahead] at same ⊢
          omega
      · cases turned
  · cases turned

theorem ahead_startPlaceholder (turned : w.startPlaceholder stores = some turn) :
    turn.next.ahead < w.ahead := by
  unfold startPlaceholder at turned
  split at turned
  · next ready =>
      cases turned
      simp only [ahead, ready, Task.ahead]
      omega
  · cases turned

theorem ahead_startBoot (turned : w.startBoot stores = some turn) :
    turn.next.ahead < w.ahead := by
  unfold startBoot at turned
  split at turned
  · next ready =>
      cases turned
      simp only [ahead, ready, Task.ahead]
      omega
  · cases turned

end Workload

namespace Relay

def ahead (r : Relay) : Nat :=
  match r.stage with
  | .taking => 2
  | .forwarding _ => 1
  | .awaiting _ => 0
  | .finished _ => 0

theorem ahead_proceed {r : Relay} {stores : Stores} {turn : Turn Relay}
    (turned : r.proceed stores = some turn) : turn.next.ahead < r.ahead := by
  unfold proceed at turned
  split at turned
  · next stage =>
      cases turned
      cases found : stores.endpoints.get? r.request.sandbox <;>
        simp [take, Stores.take, EndpointStore.take, found, ahead, stage]
  · next stage =>
      cases turned
      simp [ahead, stage]
  · cases turned

end Relay

namespace Removal

def ahead (r : Removal) : Nat :=
  match r.stage with
  | .finding => 2
  | .stopping _ => 1
  | .awaitingStop _ => 0
  | .dropping _ => 2
  | .removing => 1
  | .awaitingRemoval => 0
  | .finished _ => 0

theorem ahead_proceed {r : Removal} {stores : Stores} {turn : Turn Removal}
    (turned : r.proceed stores = some turn) : turn.next.ahead < r.ahead := by
  unfold proceed at turned
  split at turned
  · next stage =>
      cases turned
      cases found : stores.vms.get? r.container <;>
        simp [find, Stores.find, found, move, ahead, stage]
  · next stage =>
      cases turned
      simp [move, ahead, stage]
  · next stage =>
      cases turned
      simp [drop, Stores.drop, move, ahead, stage]
  · next stage =>
      cases turned
      simp [move, ahead, stage]
  · cases turned

end Removal

namespace Call

def ahead : Call → Nat
  | .workload w => w.ahead
  | .relay r => r.ahead
  | .removal r => r.ahead
  | .refusal _ _ => 0
  | .forgetting _ _ => 0

variable {call : Call} {stores : Stores} {turn : Turn Call}

theorem ahead_proceed (turned : call.proceed stores = some turn) :
    turn.next.ahead < call.ahead := by
  cases call with
  | workload w =>
      obtain ⟨inner, taken, rfl⟩ := Option.map_eq_some_iff.1 turned
      exact Workload.ahead_proceed taken
  | relay r =>
      obtain ⟨inner, taken, rfl⟩ := Option.map_eq_some_iff.1 turned
      exact Relay.ahead_proceed taken
  | removal r =>
      obtain ⟨inner, taken, rfl⟩ := Option.map_eq_some_iff.1 turned
      exact Removal.ahead_proceed taken
  | refusal request error => cases turned
  | forgetting sandbox present => cases turned

theorem ahead_startPlaceholder (turned : call.startPlaceholder stores = some turn) :
    turn.next.ahead < call.ahead := by
  cases call with
  | workload w =>
      obtain ⟨inner, taken, rfl⟩ := Option.map_eq_some_iff.1 turned
      exact Workload.ahead_startPlaceholder taken
  | _ => cases turned

theorem ahead_startBoot (turned : call.startBoot stores = some turn) :
    turn.next.ahead < call.ahead := by
  cases call with
  | workload w =>
      obtain ⟨inner, taken, rfl⟩ := Option.map_eq_some_iff.1 turned
      exact Workload.ahead_startBoot taken
  | _ => cases turned

end Call

namespace System

/-- No call and no task can go on by itself: whatever happens next comes from outside. -/
def Idle (s : System) : Prop :=
  ∀ id, ∀ move ∈ Rehearsal.ownMoves id, s.apply move = none

/-- Calls and tasks go on by themselves. -/
def OwnSteps (steps : List Move) : Prop :=
  ∀ step ∈ steps, ∃ id, step ∈ Rehearsal.ownMoves id

variable {s next : System} {move : Move} {id : Nat}

theorem mem_ownMoves : move ∈ Rehearsal.ownMoves id ↔
    move = .startPlaceholder id ∨ move = .startBoot id ∨ move = .proceed id := by
  simp only [Rehearsal.ownMoves, List.mem_cons, List.not_mem_nil, or_false]

theorem advance_eq_none_iff {call : Call} (present : s.calls.get? id = some call)
    (step : Stores → Call → Option (Turn Call)) :
    s.advance id step = none ↔ step s.stores call = none := by
  cases turned : step s.stores call <;> simp [advance, present, turned]

/-- In an idle system every call stands still, and so do its tasks. -/
theorem Idle.still (idle : s.Idle) {call : Call} (present : s.calls.get? id = some call) :
    call.startPlaceholder s.stores = none ∧ call.startBoot s.stores = none ∧
      call.proceed s.stores = none := by
  have steps : ∀ move ∈ Rehearsal.ownMoves id, s.apply move = none := idle id
  simp only [Rehearsal.ownMoves, List.forall_mem_cons] at steps
  obtain ⟨placeholder, machine, own, -⟩ := steps
  exact ⟨(advance_eq_none_iff present _).1 placeholder, (advance_eq_none_iff present _).1 machine,
    (advance_eq_none_iff present _).1 own⟩

theorem apply_own_of_absent (absent : s.calls.get? id = none)
    (own : move ∈ Rehearsal.ownMoves id) : s.apply move = none := by
  rw [mem_ownMoves] at own
  rcases own with rfl | rfl | rfl <;> simp [apply, advance, absent]

/-- Only the calls that are there can go on. -/
theorem idle_iff : s.Idle ↔
    ∀ entry ∈ s.calls.entries, ∀ move ∈ Rehearsal.ownMoves entry.1, s.apply move = none := by
  constructor
  · intro idle entry member
    exact idle entry.1
  · intro still id move own
    cases present : s.calls.get? id with
    | none => exact apply_own_of_absent present own
    | some call =>
        have member : id ∈ s.calls.keys := (s.calls.mem_keys_iff id).2 (by simp [present])
        obtain ⟨entry, inside, rfl⟩ := List.mem_map.1 member
        exact still entry inside move own

instance (s : System) : Decidable s.Idle := decidable_of_iff _ idle_iff.symm

/-- The steps that all calls together can still take by themselves, at most. -/
def ahead (s : System) : Nat :=
  (s.calls.entries.map (·.2.ahead)).sum

theorem ahead_record {call : Call} {turn : Turn Call} (present : s.calls.get? id = some call)
    (fewer : turn.next.ahead < call.ahead) : (s.record id turn).ahead < s.ahead := by
  have balance := s.calls.sum_put Call.ahead present turn.next
  show ((s.calls.put id turn.next).entries.map (·.2.ahead)).sum <
    (s.calls.entries.map (·.2.ahead)).sum
  omega

/-- Each own step uses one up. -/
theorem ahead_own (own : move ∈ Rehearsal.ownMoves id) (moved : s.apply move = some next) :
    next.ahead < s.ahead := by
  rw [mem_ownMoves] at own
  rcases own with rfl | rfl | rfl <;>
    obtain ⟨call, turn, present, turned, rfl⟩ := advance_some moved
  · exact ahead_record present (Call.ahead_startPlaceholder turned)
  · exact ahead_record present (Call.ahead_startBoot turned)
  · exact ahead_record present (Call.ahead_proceed turned)

/-- A system becomes idle by own steps alone. -/
theorem exists_idle (s : System) :
    ∃ steps next, OwnSteps steps ∧ s.run steps = some next ∧ next.Idle := by
  -- Every own step uses up one of the steps that are left.
  induction bound : s.ahead using Nat.strongRecOn generalizing s with
  | ind bound ih =>
      by_cases idle : s.Idle
      · exact ⟨[], s, by simp [OwnSteps], rfl, idle⟩
      · unfold Idle at idle
        push Not at idle
        obtain ⟨id, move, own, possible⟩ := idle
        obtain ⟨middle, moved⟩ := Option.ne_none_iff_exists'.1 possible
        have used := ahead_own own moved
        obtain ⟨steps, next, rest, ran, still⟩ := ih middle.ahead (bound ▸ used) middle rfl
        refine ⟨move :: steps, next, ?_, by simp [moved, ran], still⟩
        intro step member
        rcases List.mem_cons.1 member with rfl | later
        · exact ⟨id, own⟩
        · exact rest step later

end System

end GuestPod
