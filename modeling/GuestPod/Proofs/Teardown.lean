/-
This file asks what becomes of a booted machine when orphans are reaped.  A workload either keeps
a way to stop its machine or stops it, except when its container is registered already.
-/

import GuestPod.Proofs.Join

namespace GuestPod

/-- The machines that a trail asks to stop. -/
def stops (trail : List Event) : List Vm :=
  trail.filterMap fun
    | .asked (.stop vm) => some vm
    | _ => none

theorem stops_append (first second : List Event) :
    stops (first ++ second) = stops first ++ stops second := List.filterMap_append

/-- To stop a machine is a deed. -/
theorem stops_deeds (trail : List Event) : stops (deeds trail) = stops trail := by
  rw [stops, deeds, List.filterMap_filter]
  congr 1
  funext event
  cases event with
  | asked request => cases request <;> rfl
  | answered reply => cases reply <;> rfl
  | _ => rfl

/-- A place among the deeds is a place in the trail. -/
theorem split_deeds {trail first second : List Event} {event : Event}
    (split : deeds trail = first ++ event :: second) :
    ∃ before after, trail = before ++ event :: after ∧ deeds before = first ∧
      deeds after = second := by
  obtain ⟨before, rest, rfl, sooner, later⟩ := List.filter_eq_append_iff.1 split
  obtain ⟨skipped, after, rfl, foreign, -, last⟩ := List.filter_eq_cons_iff.1 later
  refine ⟨before ++ skipped, after, by rw [List.append_assoc], ?_, last⟩
  have none : deeds skipped = [] := List.filter_eq_nil_iff.2 foreign
  rw [deeds_append, none, List.append_nil]
  exact sooner

/-- A machine is settled when it is registered for the caller, or when the call has stopped it
once before its end and no other machine at all. -/
def Settled (trail : List Event) (vm : Vm) (result : Result) : Prop :=
  (∃ response, result = .created (.ok response) ∧
    .registered response.container vm true ∈ trail) ∨
  ∃ before after, trail = before ++ .finished result :: after ∧ stops before = [vm] ∧
    stops after = []

section Settled

variable {trail : List Event} {vm : Vm} {result : Result}

/-- A machine that is stopped before the end is settled. -/
theorem settled_of_stopped {stop : Outcome Unit} {sandbox : String} {endpoint : Endpoint}
    {previous : Option Endpoint}
    (told : deeds trail = [.published sandbox endpoint previous, .asked (.stop vm),
      .answered (.stopped stop), .finished result]) : Settled trail vm result := by
  have place : deeds trail = [.published sandbox endpoint previous, .asked (.stop vm),
      .answered (.stopped stop)] ++ [.finished result] := told
  obtain ⟨before, after, split, sooner, later⟩ := split_deeds place
  refine .inr ⟨before, after, split, ?_, ?_⟩
  · rw [← stops_deeds, sooner]
    rfl
  · rw [← stops_deeds, later]
    rfl

/-- A machine is not settled when the call fails and stops nothing. -/
theorem not_settled {error : Error} (failed : result = .created (.error error))
    (silent : stops trail = []) : ¬Settled trail vm result := by
  rintro (⟨response, succeeded, -⟩ | ⟨before, after, rfl, stopped, -⟩)
  · rw [failed] at succeeded
    cases succeeded
  · rw [stops_append, stopped] at silent
    cases silent

end Settled

namespace System

variable {moves : List Move} {s : System} {id : Nat} {coordinator : Coordinator}
  {request : CreateRequest} {result : Result}

/-- A workload that has booted a machine was well configured. -/
theorem extracted_of_booted {machine : Outcome Vm} (reached : empty.run moves = some s)
    (created : .create id coordinator request ∈ moves)
    (role : Role.classify request.containerName = .workload)
    (booted : .answered (.booted machine) ∈ s.trail id) :
    ∃ boot, Launch.extract request.config coordinator.settings = .ok boot := by
  obtain ⟨call, present, told⟩ := story_of_mem reached created rfl
  generalize s.trail id = trail at told booted
  cases told with
  | workload workload settings asks extracted story => exact ⟨_, extracted⟩
  | refusal workload extracted => simp at booted
  | relay asks story => exact absurd role story.not_workload

/-- With reaping on, a machine is settled exactly when its registration was not refused. -/
theorem settled_iff_not_refused (reached : empty.run moves = some s)
    (created : .create id coordinator request ∈ moves)
    (role : Role.classify request.containerName = .workload)
    (reaps : coordinator.settings.reapOrphanedVms = true) {vm : Vm}
    (booted : .answered (.booted (.ok vm)) ∈ s.trail id)
    (finished : .finished result ∈ s.trail id)
    (calm : ∀ text, .answered (.stopped (.panic text)) ∉ s.trail id) :
    (Settled (s.trail id) vm result ↔ ∀ container, .registered container vm false ∉ s.trail id) ∧
      ∀ container, .registered container vm false ∈ s.trail id →
        result = .created (.error (.alreadyRegistered container)) ∧ stops (s.trail id) = [] := by
  obtain ⟨boot, extracted⟩ := extracted_of_booted reached created role booted
  obtain ⟨w, outcome, settings, rfl, rfl, story, stage, rfl⟩ :=
    workload_of_finished reached created role extracted finished
  rw [← settings] at reaps
  have joined := joined_of_story reached story stage calm
  have seen : ∀ container, .registered container vm false ∈ s.trail id ↔
      .registered container vm false ∈ deeds (s.trail id) :=
    fun container => ⟨fun member => mem_deeds member rfl, mem_of_mem_deeds⟩
  simp only [seen]
  by_cases successful : ∃ response, .answered (.created (.ok response)) ∈ s.trail id
  · obtain ⟨response, answered⟩ := successful
    obtain ⟨previous, accepted, told, same, -⟩ := joined.registered vm response booted answered
    rw [told]
    cases accepted with
    | true =>
        have entered : .registered response.container vm true ∈ s.trail id := by
          apply mem_of_mem_deeds
          rw [told]
          simp
        have settled : Settled (s.trail id) vm _ := .inl ⟨response, same, entered⟩
        exact ⟨⟨fun _ => by simp, fun _ => settled⟩, by simp⟩
    | false =>
        have silent : stops (s.trail id) = [] := by
          rw [← stops_deeds, told]
          rfl
        refine ⟨⟨fun settled => absurd settled (not_settled same silent), fun apart => ?_⟩, ?_⟩
        · exact absurd (by simp) (apart response.container)
        · intro container member
          obtain rfl : container = response.container := by simpa using member
          exact ⟨same, silent⟩
  · have broken : ∀ response, .answered (.created (.ok response)) ∉ s.trail id :=
      fun response member => successful ⟨response, member⟩
    obtain ⟨⟨previous, stop, told⟩, -⟩ := joined.orphaned vm booted broken
    rw [if_pos reaps] at told
    have settled := settled_of_stopped told
    rw [told]
    exact ⟨⟨fun _ => by simp, fun _ => settled⟩, by simp⟩

/-- Two workloads that reap get the same container, so the second machine is refused. -/
def duplicates : List Move :=
  Sample.started 0 true "pod-1" ++
    [.receive 0 (.booted (.ok (Sample.machine "vm-1" "10.0.0.2"))), .proceed 0,
      .receive 0 (.created (.ok ⟨"c", []⟩)), .proceed 0] ++
    Sample.started 1 true "pod-2" ++
    [.receive 1 (.booted (.ok (Sample.machine "vm-2" "10.0.0.3"))), .proceed 1,
      .receive 1 (.created (.ok ⟨"c", []⟩)), .proceed 1]

theorem settled_iff_not_refused_duplicates :
    ∃ s result, empty.run duplicates = some s ∧
      .create 0 (Sample.coordinator true) (Sample.workload "pod-1") ∈ duplicates ∧
        Role.classify (Sample.workload "pod-1").containerName = .workload ∧
          (Sample.coordinator true).settings.reapOrphanedVms = true ∧
            .answered (.booted (.ok (Sample.machine "vm-1" "10.0.0.2"))) ∈ s.trail 0 ∧
              .finished result ∈ s.trail 0 ∧
                (∀ text, .answered (.stopped (.panic text)) ∉ s.trail 0) ∧
                  Settled (s.trail 0) (Sample.machine "vm-1" "10.0.0.2") result := by
  let vm := Sample.machine "vm-1" "10.0.0.2"
  let result : Result := .created (.ok ⟨"c", []⟩)
  have trails : (empty.run duplicates).map (·.trail 0) =
      some [.asked (.create (Sample.workload "pod-1")), .asked (.boot Sample.boot),
        .answered (.booted (.ok vm)), .published "pod-1" ⟨"10.0.0.2", 50051⟩ none,
        .answered (.created (.ok ⟨"c", []⟩)), .registered "c" vm true, .finished result] := by
    decide
  obtain ⟨s, reached, told⟩ := Option.map_eq_some_iff.1 trails
  have created : .create 0 (Sample.coordinator true) (Sample.workload "pod-1") ∈ duplicates := by
    decide
  have role : Role.classify (Sample.workload "pod-1").containerName = .workload := by decide
  have booted : .answered (.booted (.ok vm)) ∈ s.trail 0 := by
    rw [told]
    simp
  have finished : .finished result ∈ s.trail 0 := by
    rw [told]
    simp
  have calm : ∀ text, .answered (.stopped (.panic text)) ∉ s.trail 0 := by
    rw [told]
    simp [result]
  have accepted : ∀ container, .registered container vm false ∉ s.trail 0 := by
    rw [told]
    simp [result]
  exact ⟨s, result, reached, created, role, rfl, booted, finished, calm,
    (settled_iff_not_refused reached created role rfl booted finished calm).1.2 accepted⟩

/-- All workloads reap and no stop panics, but a booted machine is neither registered nor
stopped. -/
theorem unsettled_of_duplicate :
    ∃ s vm result, empty.run duplicates = some s ∧
      (∀ id coordinator request, .create id coordinator request ∈ duplicates →
        coordinator.settings.reapOrphanedVms = true) ∧
      (∀ id text, .answered (.stopped (.panic text)) ∉ s.trail id) ∧
      .create 1 (Sample.coordinator true) (Sample.workload "pod-2") ∈ duplicates ∧
        Role.classify (Sample.workload "pod-2").containerName = .workload ∧
          .answered (.booted (.ok vm)) ∈ s.trail 1 ∧ .finished result ∈ s.trail 1 ∧
            ¬Settled (s.trail 1) vm result := by
  let vm := Sample.machine "vm-2" "10.0.0.3"
  let result : Result := .created (.error (.alreadyRegistered "c"))
  have facts : (empty.run duplicates).map (fun s =>
      (s.trail 1, s.history.all fun occurrence => !occurrence.event.concerns .stop)) =
        some ([.asked (.create (Sample.workload "pod-2")), .asked (.boot Sample.boot),
          .answered (.booted (.ok vm)), .published "pod-2" ⟨"10.0.0.3", 50051⟩ none,
          .answered (.created (.ok ⟨"c", []⟩)), .registered "c" vm false, .finished result],
          true) := by
    decide
  obtain ⟨s, reached, same⟩ := Option.map_eq_some_iff.1 facts
  obtain ⟨told, quiet⟩ := Prod.mk.inj same
  refine ⟨s, vm, result, reached, ?_, ?_, by decide, by decide, ?_, ?_, ?_⟩
  · intro id coordinator request member
    simp only [duplicates, Sample.started, List.cons_append, List.nil_append, List.mem_cons,
      Move.create.injEq, reduceCtorEq, false_or, or_false, List.not_mem_nil] at member
    rcases member with ⟨-, rfl, -⟩ | ⟨-, rfl, -⟩ <;> rfl
  · intro id text member
    have silent := List.all_eq_true.1 quiet _ (mem_trail.1 member)
    cases silent
  · rw [told]
    simp
  · rw [told]
    simp
  · rw [told]
    exact not_settled rfl rfl

end System

end GuestPod
