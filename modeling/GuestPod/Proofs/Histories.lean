/-
This file follows the two stores through their histories.  A store is a function from keys to
entries, and an operation changes it at one key.
-/

import Mathlib.Data.Set.Card
import GuestPod.Store

namespace GuestPod

/-- The log of a history has the answer of each operation beside it. -/
def history {ω ρ σ : Type} (perform : ω → σ → ρ × σ) : List ω → σ → List (ω × ρ) × σ
  | [], state => ([], state)
  | operation :: rest, state =>
      let (answer, state) := perform operation state
      let (log, state) := history perform rest state
      ((operation, answer) :: log, state)

section History

variable {ω ρ σ τ : Type} {perform : ω → σ → ρ × σ}

theorem history_append (first second : List ω) (state : σ) :
    history perform (first ++ second) state =
      ((history perform first state).1 ++
        (history perform second (history perform first state).2).1,
      (history perform second (history perform first state).2).2) := by
  induction first generalizing state with
  | nil => rfl
  | cons operation rest ih => simp only [List.cons_append, history, ih]

/-- A view of the states that each step respects is respected by every history. -/
theorem history_view {view : σ → τ} {refer : ω → τ → ρ × τ}
    (step : ∀ operation state,
      Prod.map id view (perform operation state) = refer operation (view state))
    (operations : List ω) (state : σ) :
    Prod.map id view (history perform operations state) =
      history refer operations (view state) := by
  induction operations generalizing state with
  | nil => rfl
  | cons operation rest ih =>
      have answer := congrArg Prod.fst (step operation state)
      have next := congrArg Prod.snd (step operation state)
      simp only [Prod.map_fst, Prod.map_snd, id] at answer next
      simp only [history, ← answer, ← next, ← ih]
      rfl

end History

/-- The last writer of an entry decides it; the value it leaves may be none. -/
def lastWritten {β α : Type} (writes : β → Option (Option α)) (log : List β) : Option α :=
  log.foldl (fun entry item => (writes item).getD entry) none

theorem lastWritten_concat {β α : Type} (writes : β → Option (Option α)) (log : List β)
    (item : β) :
    lastWritten writes (log ++ [item]) = (writes item).getD (lastWritten writes log) := by
  simp [lastWritten]

theorem lastWritten_eq_some_iff {β α : Type} {writes : β → Option (Option α)} {log : List β}
    {value : α} :
    lastWritten writes log = some value ↔
      ∃ earlier item later, log = earlier ++ item :: later ∧ writes item = some (some value) ∧
        ∀ other ∈ later, writes other = none := by
  induction log using List.reverseRecOn with
  | nil => simp [lastWritten]
  | append_singleton log newest ih =>
      rw [lastWritten_concat]
      constructor
      · intro found
        cases wrote : writes newest with
        | some entry =>
            rw [wrote, Option.getD_some] at found
            exact ⟨log, newest, [], rfl, by rw [wrote, found], by simp⟩
        | none =>
            rw [wrote, Option.getD_none] at found
            obtain ⟨earlier, item, later, rfl, writer, silent⟩ := ih.1 found
            refine ⟨earlier, item, later ++ [newest], by simp, writer, ?_⟩
            intro other member
            rcases List.mem_append.1 member with old | new
            · exact silent other old
            · rwa [List.mem_singleton.1 new]
      · rintro ⟨earlier, item, later, split, writer, silent⟩
        rcases List.eq_nil_or_concat' later with rfl | ⟨before, last, rfl⟩
        · obtain ⟨-, same⟩ := List.append_inj' split rfl
          obtain rfl : newest = item := List.singleton_injective same
          rw [writer, Option.getD_some]
        · rw [← List.cons_append, ← List.append_assoc] at split
          obtain ⟨rfl, same⟩ := List.append_inj' split rfl
          obtain rfl : newest = last := List.singleton_injective same
          rw [silent newest (by simp), Option.getD_none]
          exact ih.2 ⟨earlier, item, before, rfl, writer, fun other member =>
            silent other (List.mem_append_left _ member)⟩

/-- An entry is there if it was written with a value and has not been cleared since. -/
theorem isSome_lastWritten_iff {β α : Type} {writes : β → Option (Option α)} {log : List β} :
    (lastWritten writes log).isSome = true ↔
      ∃ earlier item later, log = earlier ++ item :: later ∧
        (∃ value, writes item = some (some value)) ∧
          ∀ other ∈ later, writes other ≠ some none := by
  constructor
  · intro present
    obtain ⟨value, found⟩ := Option.isSome_iff_exists.1 present
    obtain ⟨earlier, item, later, split, writer, silent⟩ := lastWritten_eq_some_iff.1 found
    exact ⟨earlier, item, later, split, ⟨value, writer⟩, fun other member => by
      rw [silent other member]
      exact (Option.some_ne_none none).symm⟩
  · rintro ⟨earlier, item, later, rfl, ⟨value, writer⟩, kept⟩
    induction later using List.reverseRecOn with
    | nil => rw [lastWritten_concat, writer]; rfl
    | append_singleton later newest ih =>
        have before := ih fun other member => kept other (List.mem_append_left _ member)
        have newestKept := kept newest (by simp)
        rw [← List.cons_append, ← List.append_assoc, lastWritten_concat]
        cases wrote : writes newest with
        | none => exact before
        | some entry =>
            cases entry with
            | none => exact absurd wrote newestKept
            | some value => rfl

/-- Each operation has one key; what it answers and what it leaves there depend on what it finds
there. -/
structure Law (ω ρ α : Type) where
  key : ω → String
  act : ω → Option α → ρ × Option α

namespace Law

variable {ω ρ α : Type} (law : Law ω ρ α)

/-- The law on all entries at once. -/
def refer (operation : ω) (entries : String → Option α) : ρ × (String → Option α) :=
  let (answer, entry) := law.act operation (entries (law.key operation))
  (answer, Function.update entries (law.key operation) entry)

/-- A table follows the law if every operation answers and writes by it. -/
def Governs (perform : ω → Table String α → ρ × Table String α) : Prop :=
  ∀ operation table,
    Prod.map id Table.get? (perform operation table) = law.refer operation table.get?

variable {law}

theorem refer_apply_of_ne {operation : ω} {other : String} (differ : law.key operation ≠ other)
    (entries : String → Option α) : (law.refer operation entries).2 other = entries other :=
  Function.update_of_ne differ.symm _ _

/-- Only the operations on a key have a part in what becomes of it. -/
theorem history_filter (operations : List ω) (key : String) {first second : String → Option α}
    (agree : first key = second key) :
    ((history law.refer operations first).1.filter (law.key ·.1 = key) =
      (history law.refer (operations.filter (law.key · = key)) second).1) ∧
    (history law.refer operations first).2 key =
      (history law.refer (operations.filter (law.key · = key)) second).2 key := by
  induction operations generalizing first second with
  | nil => exact ⟨rfl, agree⟩
  | cons operation rest ih =>
      by_cases own : law.key operation = key
      · have answer : (law.refer operation first).1 = (law.refer operation second).1 := by
          simp only [refer, own, agree]
        have entry : (law.refer operation first).2 key = (law.refer operation second).2 key := by
          simp only [refer, own, agree, Function.update_self]
        obtain ⟨log, left⟩ := ih entry
        rw [List.filter_cons_of_pos (by simpa using own)]
        simp only [history]
        rw [List.filter_cons_of_pos (by simpa using own), log, answer]
        exact ⟨rfl, left⟩
      · have entry := (refer_apply_of_ne own first).trans agree
        obtain ⟨log, left⟩ := ih entry
        rw [List.filter_cons_of_neg (by simpa using own)]
        simp only [history]
        rw [List.filter_cons_of_neg (by simpa using own)]
        exact ⟨log, left⟩

/-- Operations on two keys may change places. -/
theorem refer_comm {first second : ω} (differ : law.key first ≠ law.key second)
    (entries : String → Option α) :
    (law.refer first (law.refer second entries).2).1 = (law.refer first entries).1 ∧
      (law.refer second (law.refer first entries).2).1 = (law.refer second entries).1 ∧
        (law.refer first (law.refer second entries).2).2 =
          (law.refer second (law.refer first entries).2).2 := by
  simp only [refer, Function.update_of_ne differ, Function.update_of_ne differ.symm, true_and]
  exact Function.update_comm differ.symm _ _ _

end Law

namespace Table

variable {α : Type}

theorem get?_put_eq_update (table : Table String α) (key : String) (value : α) :
    (table.put key value).get? = Function.update table.get? key (some value) := by
  funext other
  rw [get?_put, Function.update_apply]
  simp only [eq_comm]

theorem get?_remove_eq_update (table : Table String α) (key : String) :
    (table.remove key).get? = Function.update table.get? key none := by
  funext other
  rw [get?_remove, Function.update_apply]
  simp only [eq_comm]

/-- The size counts the keys that have an entry. -/
theorem size_eq_ncard (table : Table String α) :
    table.size = {key | (table.get? key).isSome}.ncard := by
  have present : {key | (table.get? key).isSome} = (table.keys.toFinset : Set String) := by
    ext key
    simp [mem_keys_iff]
  rw [present, Set.ncard_coe_finset, List.toFinset_card_of_nodup table.nodup_keys,
    length_keys]

theorem isEmpty_iff_size (table : Table String α) : table.isEmpty = true ↔ table.size = 0 := by
  rw [isEmpty, List.isEmpty_iff, size, List.length_eq_zero_iff]

end Table

/-- What a history of operations on an empty table comes to under a law. -/
structure Law.Followed {ω ρ α : Type} (law : Law ω ρ α)
    (perform : ω → Table String α → ρ × Table String α) (operations : List ω)
    (log : List (ω × ρ)) (table : Table String α) : Prop where
  /-- The answers and the entries are those of a function that starts without entries. -/
  reference : (log, table.get?) = history law.refer operations fun _ => none
  size : table.size = {key | (table.get? key).isSome}.ncard
  isEmpty : table.isEmpty = true ↔ table.size = 0
  keys_distinct : table.keys.Nodup
  keys_present : ∀ key, key ∈ table.keys ↔ (table.get? key).isSome
  /-- A key has the answers and the entry that its own operations alone give it. -/
  apart : ∀ key,
    log.filter (law.key ·.1 = key) =
        (history perform (operations.filter (law.key · = key)) .empty).1 ∧
      table.get? key =
        (history perform (operations.filter (law.key · = key)) .empty).2.get? key
  /-- Operations on two keys may change places. -/
  exchange : ∀ first second, law.key first ≠ law.key second →
    (perform first (perform second table).2).1 = (perform first table).1 ∧
      (perform second (perform first table).2).1 = (perform second table).1 ∧
        (perform first (perform second table).2).2.get? =
          (perform second (perform first table).2).2.get?

/-- A table that is governed by a law follows it through every history. -/
theorem Law.Governs.followed {ω ρ α : Type} {law : Law ω ρ α}
    {perform : ω → Table String α → ρ × Table String α} (governs : law.Governs perform)
    (operations : List ω) :
    law.Followed perform operations (history perform operations .empty).1
      (history perform operations .empty).2 := by
  have view : ∀ operations table, Prod.map id Table.get? (history perform operations table) =
      history law.refer operations table.get? := history_view governs
  have answer (operation : ω) (table : Table String α) :
      (perform operation table).1 = (law.refer operation table.get?).1 :=
    congrArg Prod.fst (governs operation table)
  have entries (operation : ω) (table : Table String α) :
      (perform operation table).2.get? = (law.refer operation table.get?).2 :=
    congrArg Prod.snd (governs operation table)
  refine ⟨view operations .empty, Table.size_eq_ncard _, Table.isEmpty_iff_size _,
    Table.nodup_keys _, Table.mem_keys_iff _, ?_, ?_⟩
  · intro key
    have whole := view operations .empty
    have part := view (operations.filter (law.key · = key)) .empty
    have same : (Table.empty : Table String α).get? key = Table.empty.get? key := rfl
    obtain ⟨log, entry⟩ := law.history_filter operations key same
    rw [← whole, ← part] at log entry
    exact ⟨log, entry⟩
  · intro first second differ
    simp only [answer, entries]
    exact Law.refer_comm differ _

namespace EndpointStore

inductive Operation where
  | publish (sandbox : String) (endpoint : Endpoint)
  | look (sandbox : String)
  | take (sandbox : String)
  | forget (sandbox : String)
  | contains (sandbox : String)

inductive Answer where
  | entry (found : Option Endpoint)
  | present (present : Bool)

def perform : Operation → EndpointStore → Answer × EndpointStore
  | .publish sandbox endpoint, store =>
      let (old, store) := store.publish sandbox endpoint
      (.entry old, store)
  | .look sandbox, store => (.entry (store.get? sandbox), store)
  | .take sandbox, store =>
      let (found, store) := store.take sandbox
      (.entry found, store)
  | .forget sandbox, store =>
      let (present, store) := store.forget sandbox
      (.present present, store)
  | .contains sandbox, store => (.present (store.contains sandbox), store)

/-- A publication overwrites and tells what was there; what is taken or forgotten is gone. -/
def law : Law Operation Answer Endpoint where
  key
    | .publish sandbox _ | .look sandbox | .take sandbox | .forget sandbox
    | .contains sandbox => sandbox
  act
    | .publish _ endpoint, entry => (.entry entry, some endpoint)
    | .look _, entry => (.entry entry, entry)
    | .take _, entry => (.entry entry, none)
    | .forget _, entry => (.present entry.isSome, none)
    | .contains _, entry => (.present entry.isSome, entry)

theorem law_governs : law.Governs perform := by
  intro operation store
  cases operation with
  | publish sandbox endpoint =>
      exact Prod.ext rfl (Table.get?_put_eq_update store sandbox endpoint)
  | take sandbox => exact Prod.ext rfl (Table.get?_remove_eq_update store sandbox)
  | forget sandbox => exact Prod.ext rfl (Table.get?_remove_eq_update store sandbox)
  | look sandbox => exact Prod.ext rfl (Function.update_eq_self sandbox store.get?).symm
  | contains sandbox => exact Prod.ext rfl (Function.update_eq_self sandbox store.get?).symm

/-- What an operation leaves in the entry of a sandbox, if it writes there. -/
def Operation.writes (sandbox : String) : Operation → Option (Option Endpoint)
  | .publish other endpoint => if other = sandbox then some (some endpoint) else none
  | .take other | .forget other => if other = sandbox then some none else none
  | .look _ | .contains _ => none

theorem get?_perform (operation : Operation) (store : EndpointStore) (sandbox : String) :
    (perform operation store).2.get? sandbox =
      (operation.writes sandbox).getD (store.get? sandbox) := by
  cases operation with
  | publish other endpoint =>
      simp only [perform, publish, Table.get?_put, Operation.writes]
      split <;> rfl
  | take other | forget other =>
      simp only [perform, take, forget, Table.get?_remove, Operation.writes]
      split <;> rfl
  | look other | contains other => rfl

/-- An entry holds what was written last. -/
theorem get?_history (operations : List Operation) (sandbox : String) :
    (history perform operations .empty).2.get? sandbox =
      lastWritten (Operation.writes sandbox) operations := by
  induction operations using List.reverseRecOn with
  | nil => rfl
  | append_singleton operations newest ih =>
      rw [history_append, lastWritten_concat, ← ih]
      exact get?_perform newest _ sandbox

/-- What every history of a fresh store comes to. -/
structure Kept (operations : List Operation) (log : List (Operation × Answer))
    (store : EndpointStore) : Prop where
  followed : law.Followed perform operations log store
  /-- An entry holds what was published last, unless it has been taken or forgotten since. -/
  latest : ∀ sandbox endpoint, store.get? sandbox = some endpoint ↔
    ∃ earlier later, operations = earlier ++ .publish sandbox endpoint :: later ∧
      (∀ newer, .publish sandbox newer ∉ later) ∧ .take sandbox ∉ later ∧ .forget sandbox ∉ later

theorem writes_eq_some_iff {operation : Operation} {sandbox : String} {endpoint : Endpoint} :
    operation.writes sandbox = some (some endpoint) ↔ operation = .publish sandbox endpoint := by
  cases operation <;> simp [Operation.writes]

/-- Three operations write to an entry. -/
theorem forall_writes_eq_none_iff {operations : List Operation} {sandbox : String} :
    (∀ operation ∈ operations, operation.writes sandbox = none) ↔
      (∀ newer, .publish sandbox newer ∉ operations) ∧ .take sandbox ∉ operations ∧
        .forget sandbox ∉ operations := by
  constructor
  · intro silent
    refine ⟨fun newer member => ?_, fun member => ?_, fun member => ?_⟩ <;>
      simpa [Operation.writes] using silent _ member
  · rintro ⟨published, taken, forgotten⟩ operation member
    cases operation with
    | publish other endpoint =>
        exact if_neg fun (same : other = sandbox) => published endpoint (same ▸ member)
    | take other => exact if_neg fun (same : other = sandbox) => taken (same ▸ member)
    | forget other => exact if_neg fun (same : other = sandbox) => forgotten (same ▸ member)
    | look other | contains other => rfl

theorem kept_history (operations : List Operation) :
    Kept operations (history perform operations .empty).1
      (history perform operations .empty).2 where
  followed := law_governs.followed operations
  latest sandbox endpoint := by
    rw [get?_history, lastWritten_eq_some_iff]
    constructor
    · rintro ⟨earlier, item, later, split, writer, silent⟩
      obtain rfl := writes_eq_some_iff.1 writer
      exact ⟨earlier, later, split, forall_writes_eq_none_iff.1 silent⟩
    · rintro ⟨earlier, later, split, silent⟩
      exact ⟨earlier, _, later, split, writes_eq_some_iff.2 rfl,
        forall_writes_eq_none_iff.2 silent⟩

end EndpointStore

namespace VmRegistry

inductive Operation where
  | register (container : String) (vm : Vm)
  | look (container : String)
  | drop (container : String)
  | contains (container : String)

inductive Answer where
  | registered (outcome : Except Error Unit)
  | entry (found : Option Vm)
  | present (present : Bool)

/-- A refused machine leaves the registry as it is. -/
def perform : Operation → VmRegistry → Answer × VmRegistry
  | .register container vm, registry =>
      match registry.register container vm with
      | .ok registry => (.registered (.ok ()), registry)
      | .error error => (.registered (.error error), registry)
  | .look container, registry => (.entry (registry.get? container), registry)
  | .drop container, registry =>
      let (found, registry) := registry.drop container
      (.entry found, registry)
  | .contains container, registry => (.present (registry.contains container), registry)

/-- An entry is written only where there is none. -/
def law : Law Operation Answer Vm where
  key
    | .register container _ | .look container | .drop container | .contains container => container
  act
    | .register _ vm, none => (.registered (.ok ()), some vm)
    | .register container _, some older =>
        (.registered (.error (.alreadyRegistered container)), some older)
    | .look _, entry => (.entry entry, entry)
    | .drop _, entry => (.entry entry, none)
    | .contains _, entry => (.present entry.isSome, entry)

/-- A second machine is refused whatever it is. -/
theorem perform_register_of_present {registry : VmRegistry} {container : String}
    (present : (registry.get? container).isSome) (vm : Vm) :
    perform (.register container vm) registry =
      (.registered (.error (.alreadyRegistered container)), registry) := by
  simp [perform, register, Table.contains, present]

theorem perform_register_of_absent {registry : VmRegistry} {container : String}
    (absent : registry.get? container = none) (vm : Vm) :
    perform (.register container vm) registry =
      (.registered (.ok ()), registry.put container vm) := by
  simp [perform, register, Table.contains, absent]

theorem law_governs : law.Governs perform := by
  intro operation registry
  cases operation with
  | register container vm =>
      cases found : registry.get? container with
      | none =>
          rw [perform_register_of_absent found]
          simp only [Prod.map_apply, id, Table.get?_put_eq_update, Law.refer, law, found]
      | some older =>
          rw [perform_register_of_present (by simp [found])]
          simp only [Prod.map_apply, id, Law.refer, law, found]
          rw [← found, Function.update_eq_self]
  | drop container => exact Prod.ext rfl (Table.get?_remove_eq_update registry container)
  | look container => exact Prod.ext rfl (Function.update_eq_self container registry.get?).symm
  | contains container =>
      exact Prod.ext rfl (Function.update_eq_self container registry.get?).symm

/-- What an operation with its answer leaves in the entry of a container, if it writes there. -/
def writes (container : String) : Operation × Answer → Option (Option Vm)
  | (.register other vm, .registered (.ok ())) =>
      if other = container then some (some vm) else none
  | (.drop other, _) => if other = container then some none else none
  | _ => none

theorem get?_perform (operation : Operation) (registry : VmRegistry) (container : String) :
    (perform operation registry).2.get? container =
      (writes container (operation, (perform operation registry).1)).getD
        (registry.get? container) := by
  cases operation with
  | register other vm =>
      cases found : registry.get? other with
      | none =>
          rw [perform_register_of_absent found]
          simp only [Table.get?_put, writes]
          split <;> rfl
      | some older =>
          rw [perform_register_of_present (by simp [found])]
          rfl
  | drop other =>
      simp only [perform, drop, Table.get?_remove, writes]
      split <;> rfl
  | look other | contains other => rfl

/-- An entry holds what was written last. -/
theorem get?_history (operations : List Operation) (container : String) :
    (history perform operations .empty).2.get? container =
      lastWritten (writes container) (history perform operations .empty).1 := by
  induction operations using List.reverseRecOn with
  | nil => rfl
  | append_singleton operations newest ih =>
      rw [history_append]
      refine (get?_perform newest _ container).trans ?_
      rw [ih]
      exact (lastWritten_concat ..).symm

theorem writes_eq_some_iff {entry : Operation × Answer} {container : String} {vm : Vm} :
    writes container entry = some (some vm) ↔
      entry = (.register container vm, .registered (.ok ())) := by
  unfold writes
  split
  · simp
  · simp
  · rename_i other unlike
    exact iff_of_false (by simp) fun same => other container vm same

theorem writes_eq_clear_iff {entry : Operation × Answer} {container : String} :
    writes container entry = some none ↔ entry.1 = .drop container := by
  unfold writes
  split
  · simp
  · simp
  · rename_i other unlike
    exact iff_of_false (by simp) fun same => unlike container entry.2 (Prod.ext same rfl)

/-- The outcomes of the registrations of one container, in their order. -/
def outcomes (container : String) (log : List (Operation × Answer)) : List (Except Error Unit) :=
  log.filterMap fun
    | (.register other _, .registered outcome) => if other = container then some outcome else none
    | _ => none

theorem outcomes_register (container : String) (log : List (Operation × Answer)) (vm : Vm)
    (outcome : Except Error Unit) :
    outcomes container (log ++ [(.register container vm, .registered outcome)]) =
      outcomes container log ++ [outcome] := by
  simp [outcomes, List.filterMap_append]

theorem outcomes_other {container : String} {operation : Operation}
    (other : ∀ vm, operation ≠ .register container vm) (log : List (Operation × Answer))
    (answer : Answer) :
    outcomes container (log ++ [(operation, answer)]) = outcomes container log := by
  cases operation with
  | register unlike vm =>
      have differ : unlike ≠ container := fun same => other vm (same ▸ rfl)
      cases answer <;> simp [outcomes, List.filterMap_append, differ]
  | look unlike | drop unlike | contains unlike => simp [outcomes, List.filterMap_append]

/-- The registry keeps an entry through every operation but two. -/
theorem get?_perform_other {container : String} {operation : Operation}
    (unlike : ∀ vm, operation ≠ .register container vm) (kept : operation ≠ .drop container)
    (registry : VmRegistry) :
    (perform operation registry).2.get? container = registry.get? container := by
  rw [get?_perform]
  cases wrote : writes container (operation, (perform operation registry).1) with
  | none => rfl
  | some entry =>
      cases entry with
      | none => exact absurd (writes_eq_clear_iff.1 wrote) kept
      | some vm => exact absurd (congrArg Prod.fst (writes_eq_some_iff.1 wrote)) (unlike vm)

/-- As long as nothing is dropped, a container without an entry has seen no registration, and one
with an entry has accepted the first alone. -/
theorem outcomes_history {operations : List Operation} {container : String}
    (kept : .drop container ∉ operations) :
    ((history perform operations .empty).2.get? container = none ∧
      outcomes container (history perform operations .empty).1 = []) ∨
    (((history perform operations .empty).2.get? container).isSome ∧
      ∃ count, outcomes container (history perform operations .empty).1 =
        .ok () :: List.replicate count (.error (.alreadyRegistered container))) := by
  induction operations using List.reverseRecOn with
  | nil => exact .inl ⟨rfl, rfl⟩
  | append_singleton operations newest ih =>
      have before := ih fun member => kept (List.mem_append_left _ member)
      have newestKept : newest ≠ .drop container := fun same => kept (by simp [same])
      rw [history_append]
      simp only [history]
      by_cases registers : ∃ vm, newest = .register container vm
      · obtain ⟨vm, rfl⟩ := registers
        right
        rcases before with ⟨absent, silent⟩ | ⟨present, count, told⟩
        · rw [perform_register_of_absent absent, outcomes_register, silent]
          exact ⟨by simp [Table.get?_put], 0, rfl⟩
        · rw [perform_register_of_present present, outcomes_register, told]
          refine ⟨present, count + 1, ?_⟩
          rw [List.replicate_succ', List.cons_append]
      · have unlike : ∀ vm, newest ≠ .register container vm := not_exists.1 registers
        rw [get?_perform_other unlike newestKept, outcomes_other unlike]
        exact before

/-- What every history of a fresh registry comes to. -/
structure Kept (operations : List Operation) (log : List (Operation × Answer))
    (registry : VmRegistry) : Prop where
  followed : law.Followed perform operations log registry
  /-- A machine is accepted exactly when none was accepted since the last drop. -/
  accepted : ∀ container vm,
    (perform (.register container vm) registry).1 = .registered (.ok ()) ↔
      ¬ ∃ earlier older later,
        log = earlier ++ (.register container older, .registered (.ok ())) :: later ∧
          ∀ answer, (.drop container, answer) ∉ later
  refused : ∀ container vm,
    (perform (.register container vm) registry).1 ≠ .registered (.ok ()) →
      perform (.register container vm) registry =
        (.registered (.error (.alreadyRegistered container)), registry)
  /-- An entry holds what was accepted last, unless it has been dropped since. -/
  latest : ∀ container vm, registry.get? container = some vm ↔
    ∃ earlier later,
      log = earlier ++ (.register container vm, .registered (.ok ())) :: later ∧
        (∀ newer, (.register container newer, .registered (.ok ())) ∉ later) ∧
          ∀ answer, (.drop container, answer) ∉ later
  /-- Of all registrations without a drop the first alone is accepted. -/
  winner : ∀ container, .drop container ∉ operations → outcomes container log ≠ [] →
    ∃ count, outcomes container log =
      .ok () :: List.replicate count (.error (.alreadyRegistered container))

theorem kept_history (operations : List Operation) :
    Kept operations (history perform operations .empty).1
      (history perform operations .empty).2 where
  followed := law_governs.followed operations
  accepted container vm := by
    have present : ((history perform operations .empty).2.get? container).isSome = true ↔
        ∃ earlier older later, (history perform operations .empty).1 =
          earlier ++ (.register container older, .registered (.ok ())) :: later ∧
            ∀ answer, (.drop container, answer) ∉ later := by
      rw [get?_history, isSome_lastWritten_iff]
      constructor
      · rintro ⟨earlier, item, later, split, ⟨vm, writer⟩, lasting⟩
        obtain rfl := writes_eq_some_iff.1 writer
        exact ⟨earlier, vm, later, split, fun answer member =>
          lasting _ member (writes_eq_clear_iff.2 rfl)⟩
      · rintro ⟨earlier, older, later, split, lasting⟩
        refine ⟨earlier, _, later, split, ⟨older, writes_eq_some_iff.2 rfl⟩, ?_⟩
        rintro ⟨operation, answer⟩ member clears
        obtain rfl : operation = .drop container := writes_eq_clear_iff.1 clears
        exact lasting answer member
    rw [← present]
    cases found : (history perform operations .empty).2.get? container with
    | none => simp [perform_register_of_absent found]
    | some older =>
        rw [perform_register_of_present (by simp [found])]
        simp
  refused container vm unlike := by
    cases found : (history perform operations .empty).2.get? container with
    | none => exact absurd (congrArg Prod.fst (perform_register_of_absent found vm)) unlike
    | some older => exact perform_register_of_present (by simp [found]) vm
  latest container vm := by
    rw [get?_history, lastWritten_eq_some_iff]
    constructor
    · rintro ⟨earlier, item, later, split, writer, silent⟩
      obtain rfl := writes_eq_some_iff.1 writer
      refine ⟨earlier, later, split, fun newer member => ?_, fun answer member => ?_⟩
      · have := (silent _ member).symm.trans (writes_eq_some_iff.2 rfl)
        cases this
      · have := (silent _ member).symm.trans (writes_eq_clear_iff.2 rfl)
        cases this
    · rintro ⟨earlier, later, split, accepted, lasting⟩
      refine ⟨earlier, _, later, split, writes_eq_some_iff.2 rfl, ?_⟩
      rintro ⟨operation, answer⟩ member
      cases wrote : writes container (operation, answer) with
      | none => rfl
      | some entry =>
          cases entry with
          | none =>
              obtain rfl : operation = .drop container := writes_eq_clear_iff.1 wrote
              exact absurd member (lasting answer)
          | some newer =>
              rw [writes_eq_some_iff.1 wrote] at member
              exact absurd member (accepted newer)
  winner container kept some := by
    rcases outcomes_history kept with ⟨-, silent⟩ | ⟨-, told⟩
    · exact absurd silent some
    · exact told

end VmRegistry

/-- Every history of the two stores is one of a function from keys to entries.  One of them
overwrites and the other refuses. -/
theorem histories_kept (publications : List EndpointStore.Operation)
    (registrations : List VmRegistry.Operation) :
    EndpointStore.Kept publications
      (history EndpointStore.perform publications .empty).1
      (history EndpointStore.perform publications .empty).2 ∧
    VmRegistry.Kept registrations
      (history VmRegistry.perform registrations .empty).1
      (history VmRegistry.perform registrations .empty).2 :=
  ⟨EndpointStore.kept_history publications, VmRegistry.kept_history registrations⟩

end GuestPod
