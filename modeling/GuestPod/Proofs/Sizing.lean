/-
This file says when a machine is asked for without memory or without processors.  The settings are
checked for that, and the environment of a workload is not.
-/

import GuestPod.Proofs.Forwarding
import GuestPod.Proofs.Launching
import GuestPod.Proofs.Levels

namespace GuestPod

namespace Launch

/-- The first value of the variable is a zero, in any number of digits. -/
def AsksZero (environment : List Variable) (key : String) : Prop :=
  ∃ text, FirstValue environment key text ∧ Text.Denotes text.toList 0

variable {environment : List Variable} {settings : Settings}

/-- Where the default is no zero, a zero is always asked for. -/
theorem NumberOf.eq_zero_iff {key : String} {default n : UInt32}
    (number : NumberOf environment key default n) (sound : default ≠ 0) :
    n = 0 ↔ AsksZero environment key := by
  constructor
  · rintro rfl
    cases number with
    | given first denoted => exact ⟨_, first, denoted⟩
    | absent => exact absurd rfl sound
  · rintro ⟨text, first, zero⟩
    cases number with
    | given own denoted =>
        obtain rfl := firstValue_unique first own
        exact UInt32.toNat_inj.1 (denoted.unique zero)
    | absent none => exact absurd first (not_firstValue_of_absent none)

theorem Describes.numberOf {boot : BootRequest} (describes : Describes environment settings boot)
    (quantity : Quantity) :
    NumberOf environment quantity.key (quantity.default settings) (quantity.number boot) := by
  cases quantity with
  | memory => exact describes.memory
  | vcpus => exact describes.vcpus

theorem Quantity.default_ne_zero (accepted : settings.validate = .ok ()) (quantity : Quantity) :
    quantity.default settings ≠ 0 := by
  have met := Settings.validate_eq_ok_iff.1 accepted
  simp only [Settings.demands, List.forall_mem_cons] at met
  cases quantity with
  | memory => exact met.2.1
  | vcpus => exact met.2.2.1

/-- Under settings that are accepted, a number of a boot is positive unless a zero is asked for. -/
theorem Describes.one_le_iff {boot : BootRequest} (describes : Describes environment settings boot)
    (accepted : settings.validate = .ok ()) (quantity : Quantity) :
    1 ≤ quantity.number boot ↔ ¬AsksZero environment quantity.key := by
  have positive : 1 ≤ quantity.number boot ↔ quantity.number boot ≠ 0 := by grind
  rw [positive, ne_eq,
    (describes.numberOf quantity).eq_zero_iff (quantity.default_ne_zero accepted)]

end Launch

/-- A task asks its own question only. -/
theorem Task.eq_of_asked {α : Type} {task : Task α} {question request : Request}
    {answer : Outcome α → Reply} (asked : .asked request ∈ task.dialogue question answer) :
    request = question := by
  cases task with
  | ready => cases asked
  | running => simpa [dialogue] using asked
  | done outcome => simpa [dialogue] using asked

namespace System

variable {moves : List Move} {s : System} {id : Nat} {coordinator : Coordinator}
  {request : CreateRequest} {boot : BootRequest}

/-- The environment of a creation describes the boot that the creation asks for. -/
theorem describes_of_asked (reached : empty.run moves = some s)
    (created : .create id coordinator request ∈ moves)
    (asked : .asked (.boot boot) ∈ s.trail id) :
    Launch.Describes request.config.environment coordinator.settings boot := by
  obtain ⟨call, -, told⟩ := story_of_mem reached created rfl
  obtain ⟨w, rfl, story⟩ := told.workload_of_boot asked rfl
  have own : .asked (.boot boot) ∈ dialogue .boot (s.trail id) := mem_dialogue asked rfl
  rw [story.machine] at own
  obtain rfl := Request.boot.inj (Task.eq_of_asked own)
  cases told with
  | workload role settings asks extracted => exact Launch.extract_eq_ok_iff_describes.1 extracted

/-- Under settings that are accepted, a number of a boot is positive unless the first value of its
variable is a zero. -/
theorem boot_positive_iff (reached : empty.run moves = some s)
    (created : .create id coordinator request ∈ moves)
    (accepted : coordinator.settings.validate = .ok ())
    (asked : .asked (.boot boot) ∈ s.trail id) :
    (1 ≤ boot.memoryMib ↔
      ¬Launch.AsksZero request.config.environment Contract.memoryVariable) ∧
    (1 ≤ boot.vcpuCount ↔
      ¬Launch.AsksZero request.config.environment Contract.vcpuVariable) := by
  have describes := describes_of_asked reached created asked
  exact ⟨describes.one_le_iff accepted .memory, describes.one_le_iff accepted .vcpus⟩

/-- A workload is created and boots its machine. -/
def sizing (request : CreateRequest) : List Move :=
  [.create 0 (Sample.coordinator true) request, .startBoot 0, .startPlaceholder 0,
    .receive 0 (.booted (.ok (Sample.machine "vm-1" "10.0.0.2"))), .proceed 0,
    .receive 0 (.created (.ok ⟨"c", []⟩)), .proceed 0]

/-- The first value for the memory counts, and the number of processors is left to the settings. -/
def sized : CreateRequest :=
  ((Sample.workload "pod").append Contract.memoryVariable "+00512").append
    Contract.memoryVariable "0"

theorem boot_positive_iff_padded :
    ∃ s, empty.run (sizing sized) = some s ∧
      .create 0 (Sample.coordinator true) sized ∈ sizing sized ∧
        (Sample.coordinator true).settings.validate = .ok () ∧
          .asked (.boot ⟨"fn:v1", "rev-1", 512, 1⟩) ∈ s.trail 0 ∧
            ¬Launch.AsksZero sized.config.environment Contract.memoryVariable ∧
              ¬Launch.AsksZero sized.config.environment Contract.vcpuVariable := by
  let boot : BootRequest := ⟨"fn:v1", "rev-1", 512, 1⟩
  have facts : (empty.run (sizing sized)).map (fun s => decide (.asked (.boot boot) ∈ s.trail 0)) =
      some true := by decide
  obtain ⟨s, reached, same⟩ := Option.map_eq_some_iff.1 facts
  have created : .create 0 (Sample.coordinator true) sized ∈ sizing sized := by decide
  have accepted : (Sample.coordinator true).settings.validate = .ok () := by decide +kernel
  have asked : .asked (.boot boot) ∈ s.trail 0 := of_decide_eq_true same
  obtain ⟨memory, vcpus⟩ := boot_positive_iff reached created accepted asked
  exact ⟨s, reached, created, accepted, asked, memory.1 (by decide), vcpus.1 (by decide)⟩

/-- This workload asks for no memory. -/
def unsized : CreateRequest :=
  (Sample.workload "pod").append Contract.memoryVariable "0"

/-- A machine without memory is booted and registered under settings that are accepted. -/
theorem empty_machine_booted :
    ∃ s boot, empty.run (sizing unsized) = some s ∧
      .create 0 (Sample.coordinator true) unsized ∈ sizing unsized ∧
        (Sample.coordinator true).settings.validate = .ok () ∧
          .asked (.boot boot) ∈ s.trail 0 ∧ ¬(1 ≤ boot.memoryMib ∧ 1 ≤ boot.vcpuCount) ∧
            .finished (.created (.ok ⟨"c", []⟩)) ∈ s.trail 0 ∧
              s.stores.vms.get? "c" = some (Sample.machine "vm-1" "10.0.0.2") := by
  let boot : BootRequest := ⟨"fn:v1", "rev-1", 0, 1⟩
  let created : Result := .created (.ok ⟨"c", []⟩)
  have facts : (empty.run (sizing unsized)).map (fun s => decide (.asked (.boot boot) ∈ s.trail 0 ∧
      .finished created ∈ s.trail 0 ∧
        s.stores.vms.get? "c" = some (Sample.machine "vm-1" "10.0.0.2"))) = some true := by decide
  obtain ⟨s, reached, same⟩ := Option.map_eq_some_iff.1 facts
  obtain ⟨asked, finished, registered⟩ := of_decide_eq_true same
  exact ⟨s, boot, reached, by decide, by decide +kernel, asked, by decide, finished, registered⟩

end System

end GuestPod
