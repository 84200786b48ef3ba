/-
This file compares what a message was read from with what it is written as.  Members without a
meaning here survive at every depth.
-/

import GuestPod.Proofs.Messages
import GuestPod.Proofs.Slots

namespace GuestPod

open Decoding Json

namespace Variable

theorem slot_key : shape.Slot 0 "key" Node.text Partial.key where
  others := by simp +contextual [shape, Shape.Spares, field_read_eq_ok_iff]
  kept := by simp [shape]

theorem slot_value : shape.Slot 1 "value" Node.text Partial.value where
  others := by simp +contextual [shape, Shape.Spares, field_read_eq_ok_iff]
  kept := by simp [shape]

/-- An entry holds the key and the value that its draft shows. -/
theorem kinds_of_read {frame : Frame} {draft : Draft} {entry : Variable} (distinct : draft.Distinct)
    (read : shape.read ⟨frame, draft⟩ = .ok entry) :
    (draft.field? "key" 0).map Draft.kind = some (.string entry.key) ∧
      (draft.field? "value" 1).map Draft.kind = some (.string entry.value) := by
  obtain ⟨-, inner, filled, finished, slots⟩ := Shape.slots_of_read (by decide) distinct read
  obtain ⟨key, given, finished⟩ := bind_eq_ok_iff.1 finished
  obtain ⟨value, set, finished⟩ := bind_eq_ok_iff.1 finished
  obtain rfl := Except.ok.inj finished
  have named := slots slot_key
  have valued := slots slot_value
  rw [demand_eq_ok_iff.1 given] at named
  rw [demand_eq_ok_iff.1 set] at valued
  obtain ⟨first, there, isKey⟩ := exists_of_rel_some named
  obtain ⟨second, here, isValue⟩ := exists_of_rel_some valued
  rw [there, here]
  exact ⟨congrArg (some ∘ Draft.kind) (text_eq_ok isKey),
    congrArg (some ∘ Draft.kind) (text_eq_ok isValue)⟩

/-- Of an entry, only members that are no fields go missing. -/
theorem undeclared_of_missing {frame : Frame} {draft : Draft} {entry : Variable}
    (distinct : draft.Distinct) (read : shape.read ⟨frame, draft⟩ = .ok entry)
    {path : List Step} {name : String} (seen : draft.view (path ++ [.member name]) ≠ none)
    (gone : (Draft.ofValue entry.toJson).view (path ++ [.member name]) = none) :
    ∃ undeclared ∉ ["key", "value"], ∃ rest,
      path ++ [.member name] = .member undeclared :: rest := by
  obtain ⟨short, inner, filled, -, slots⟩ := Shape.slots_of_read (by decide) distinct read
  have scalar (place : Nat) (name : String) (its : ["key", "value"][place]? = some name)
      (part : Draft) (found : draft.field? name place = some part) (step : Step) :
      part.enter? step = none := by
    rcases place with _ | _ | place <;> cases its
    · have rel := slots slot_key
      rw [found] at rel
      obtain ⟨key, -, read⟩ := exists_of_some_rel rel
      exact enter?_of_text read step
    · have rel := slots slot_value
      rw [found] at rel
      obtain ⟨value, -, read⟩ := exists_of_some_rel rel
      exact enter?_of_text read step
  rcases Draft.path_of_seen short scalar seen with ⟨rfl, declared⟩ | dropped
  · simp only [List.mem_cons, List.not_mem_nil, or_false] at declared
    rcases declared with rfl | rfl <;> simp [toJson, Draft.view_cons] at gone
  · exact dropped

theorem view_other (entry : Variable) (path : List Step) {name : String}
    (undeclared : name ∉ ["key", "value"]) :
    (Draft.ofValue entry.toJson).view (.member name :: path) = none := by
  simp only [List.mem_cons, List.not_mem_nil, or_false, not_or] at undeclared
  simp [toJson, Draft.view_cons, Ne.symm undeclared.1, Ne.symm undeclared.2]

end Variable

namespace Metadata

theorem slot_name : shape.Slot 0 "name" Node.text Partial.name where
  others := by simp +contextual [shape, Shape.Spares, field_read_eq_ok_iff]
  kept := by simp [shape]

theorem slot_attempt :
    shape.Slot 1 "attempt" (fun node => UInt32.ofNat <$> node.word 32) Partial.attempt where
  others := by simp +contextual [shape, Shape.Spares, field_read_eq_ok_iff]
  kept := by simp [shape]

/-- The metadata hold the name that their draft shows, and the attempt unless that is left out. -/
theorem kinds_of_read {frame : Frame} {draft : Draft} {metadata : Metadata}
    (distinct : draft.Distinct) (read : shape.read ⟨frame, draft⟩ = .ok metadata) :
    (draft.field? "name" 0).map Draft.kind = some (.string metadata.name) ∧
      ((draft.field? "attempt" 1).map Draft.kind).getD (.number (.integer 0)) =
        .number (.integer metadata.attempt.toNat) := by
  obtain ⟨-, inner, filled, finished, slots⟩ := Shape.slots_of_read (by decide) distinct read
  obtain ⟨name, given, finished⟩ := bind_eq_ok_iff.1 finished
  obtain rfl := Except.ok.inj finished
  have named := slots slot_name
  rw [demand_eq_ok_iff.1 given] at named
  obtain ⟨first, there, isName⟩ := exists_of_rel_some named
  refine ⟨by rw [there]; exact congrArg (some ∘ Draft.kind) (text_eq_ok isName), ?_⟩
  rcases rel_cases (slots slot_attempt) with
    ⟨absent, unset⟩ | ⟨second, attempt, here, set, isAttempt⟩
  · rw [absent, unset]
    rfl
  · rw [here, set]
    exact congrArg Draft.kind (uint32_eq_ok isAttempt)

/-- Of the metadata, only members that are no fields go missing. -/
theorem undeclared_of_missing {frame : Frame} {draft : Draft} {metadata : Metadata}
    (distinct : draft.Distinct) (read : shape.read ⟨frame, draft⟩ = .ok metadata)
    {path : List Step} {name : String} (seen : draft.view (path ++ [.member name]) ≠ none)
    (gone : (Draft.ofValue metadata.toJson).view (path ++ [.member name]) = none) :
    ∃ undeclared ∉ ["name", "attempt"], ∃ rest,
      path ++ [.member name] = .member undeclared :: rest := by
  obtain ⟨short, inner, filled, -, slots⟩ := Shape.slots_of_read (by decide) distinct read
  have scalar (place : Nat) (name : String) (its : ["name", "attempt"][place]? = some name)
      (part : Draft) (found : draft.field? name place = some part) (step : Step) :
      part.enter? step = none := by
    rcases place with _ | _ | place <;> cases its
    · have rel := slots slot_name
      rw [found] at rel
      obtain ⟨name, -, read⟩ := exists_of_some_rel rel
      exact enter?_of_text read step
    · have rel := slots slot_attempt
      rw [found] at rel
      obtain ⟨attempt, -, read⟩ := exists_of_some_rel rel
      exact enter?_of_uint32 read step
  rcases Draft.path_of_seen short scalar seen with ⟨rfl, declared⟩ | dropped
  · simp only [List.mem_cons, List.not_mem_nil, or_false] at declared
    rcases declared with rfl | rfl <;> simp [toJson, Draft.view_cons] at gone
  · exact dropped

theorem view_other (metadata : Metadata) (path : List Step) {name : String}
    (undeclared : name ∉ ["name", "attempt"]) :
    (Draft.ofValue metadata.toJson).view (.member name :: path) = none := by
  simp only [List.mem_cons, List.not_mem_nil, or_false, not_or] at undeclared
  simp [toJson, Draft.view_cons, Ne.symm undeclared.1, Ne.symm undeclared.2]

end Metadata

namespace ContainerConfig

theorem slot_metadata : shape.Slot 0 "metadata" Metadata.shape.read Partial.metadata where
  others := by simp +contextual [shape, Shape.Spares, field_read_eq_ok_iff]
  kept := by simp [shape]

theorem slot_environment :
    shape.Slot 1 "envs" (Node.list Variable.shape.read) Partial.environment where
  others := by simp +contextual [shape, Shape.Spares, field_read_eq_ok_iff]
  kept := by simp [shape]

/-- A path to a member without a meaning, or below one, inside of the metadata or of an entry. -/
def Dropped (path : List Step) : Prop :=
  (∃ name ∉ ["name", "attempt"], ∃ rest, path = .member "metadata" :: .member name :: rest) ∨
    ∃ place, ∃ name ∉ ["key", "value"], ∃ rest,
      path = .member "envs" :: .item place :: .member name :: rest

/-- What a configuration is written as, next to what it was read from: every member that is no
field looks the same along every path, the fields show the same values in one fixed form, what was
left out has its default, and there is nothing else. -/
structure Survives (before after : Draft) : Prop where
  object : after.view [] = some .object
  others : ∀ name ∉ ["metadata", "envs"], ∀ path,
    after.view (.member name :: path) = before.view (.member name :: path)
  metadata : after.view [.member "metadata"] = some .object
  metadata_name : after.view [.member "metadata", .member "name"] =
    some ((before.fieldView [.member "metadata"] "name" 0).getD (.string ""))
  metadata_attempt : after.view [.member "metadata", .member "attempt"] =
    some ((before.fieldView [.member "metadata"] "attempt" 1).getD (.number (.integer 0)))
  metadata_only : ∀ name ∉ ["name", "attempt"], ∀ path,
    after.view (.member "metadata" :: .member name :: path) = none
  entries : after.view [.member "envs"] =
    some ((before.view [.member "envs"]).getD (.array 0))
  entry : ∀ place, after.view [.member "envs", .item place] =
    (before.view [.member "envs", .item place]).map fun _ => .object
  entry_key : ∀ place, after.view [.member "envs", .item place, .member "key"] =
    before.fieldView [.member "envs", .item place] "key" 0
  entry_value : ∀ place, after.view [.member "envs", .item place, .member "value"] =
    before.fieldView [.member "envs", .item place] "value" 1
  entry_only : ∀ place, ∀ name ∉ ["key", "value"], ∀ path,
    after.view (.member "envs" :: .item place :: .member name :: path) = none
  missing : ∀ path name, before.view (path ++ [.member name]) ≠ none →
    after.view (path ++ [.member name]) = none → Dropped (path ++ [.member name])

section Rel

variable {frame : Frame} {draft : Option Draft}

/-- Metadata that are left out have the empty name and attempt zero. -/
theorem metadata_of_rel {metadata : Option Metadata} (distinct : ∀ inner ∈ draft, inner.Distinct)
    (rel : Option.Rel (fun draft metadata => Metadata.shape.read ⟨frame, draft⟩ = .ok metadata)
      draft metadata) :
    ((draft.bind (·.field? "name" 0)).map Draft.kind).getD (.string "") =
        .string (metadata.getD empty.metadata).name ∧
      ((draft.bind (·.field? "attempt" 1)).map Draft.kind).getD (.number (.integer 0)) =
        .number (.integer (metadata.getD empty.metadata).attempt.toNat) := by
  cases rel with
  | none => exact ⟨rfl, rfl⟩
  | some read =>
      obtain ⟨name, attempt⟩ := Metadata.kinds_of_read (distinct _ rfl) read
      rw [Option.bind_some, Option.bind_some, name]
      exact ⟨rfl, attempt⟩

variable {environment : Option (List Variable)}

theorem length_of_rel
    (rel : Option.Rel (fun draft entries =>
      Node.list Variable.shape.read ⟨frame, draft⟩ = .ok entries) draft environment) :
    (draft.bind (·.view [])).getD (.array 0) = .array (environment.getD []).length := by
  cases rel with
  | none => rfl
  | some read =>
      obtain ⟨items, inner, same, all⟩ := list_eq_ok read
      obtain rfl : _ = Draft.array items none := same
      exact congrArg Kind.array all.length_eq

/-- The entries of the environment stand in the order of the text. -/
theorem entries_of_rel (distinct : ∀ inner ∈ draft, inner.Distinct)
    (rel : Option.Rel (fun draft entries =>
      Node.list Variable.shape.read ⟨frame, draft⟩ = .ok entries) draft environment)
    (place : Nat) :
    Option.Rel (fun item entry => item.Distinct ∧
        ∃ inner, Variable.shape.read ⟨inner, item⟩ = .ok entry)
      (draft.bind (·.enter? (.item place))) (environment.getD [])[place]? := by
  cases rel with
  | none => exact .none
  | some read =>
      obtain ⟨items, inner, same, all⟩ := list_eq_ok read
      obtain rfl : _ = Draft.array items none := same
      refine rel_imp (rel_getElem? all place) fun item entry found read => ?_
      exact ⟨(distinct _ rfl).enter (.item place) found, inner, read⟩

end Rel

/-- Inside of the metadata, what goes missing is dropped. -/
theorem dropped_of_metadata {frame : Frame} {part : Draft} {metadata : Option Metadata}
    (distinct : part.Distinct)
    (rel : Option.Rel (fun draft metadata => Metadata.shape.read ⟨frame, draft⟩ = .ok metadata)
      (some part) metadata) {path : List Step} {name : String}
    (seen : part.view (path ++ [.member name]) ≠ none)
    (gone : (Draft.ofValue (metadata.getD empty.metadata).toJson).view
      (path ++ [.member name]) = none) :
    Dropped (.member "metadata" :: (path ++ [.member name])) := by
  obtain ⟨metadata, rfl, read⟩ := exists_of_some_rel rel
  obtain ⟨undeclared, other, rest, same⟩ :=
    Metadata.undeclared_of_missing distinct read seen gone
  exact .inl ⟨undeclared, other, rest, by rw [same]⟩

/-- Inside of the entries, what goes missing is dropped. -/
theorem dropped_of_environment {frame : Frame} {part : Draft}
    {environment : Option (List Variable)} (distinct : part.Distinct)
    (rel : Option.Rel (fun draft entries =>
      Node.list Variable.shape.read ⟨frame, draft⟩ = .ok entries) (some part) environment)
    {path : List Step} {name : String} (seen : part.view (path ++ [.member name]) ≠ none)
    (gone : (Draft.ofValue (.array ((environment.getD []).map Variable.toJson))).view
      (path ++ [.member name]) = none) :
    Dropped (.member "envs" :: (path ++ [.member name])) := by
  obtain ⟨entries, rfl, read⟩ := exists_of_some_rel rel
  obtain ⟨items, inner, same, all⟩ := list_eq_ok read
  obtain rfl : part = .array items none := same
  rcases path with _ | ⟨step, path⟩
  · obtain ⟨item, entered, -⟩ := Draft.exists_of_view_cons seen
    cases entered
  obtain ⟨item, entered, below⟩ := Draft.exists_of_view_cons seen
  cases step with
  | member other => cases entered
  | item place =>
      have present : items[place]? = some item := entered
      have its := rel_getElem? all place
      rw [present] at its
      obtain ⟨entry, written, read⟩ := exists_of_some_rel its
      rw [Option.getD_some, List.cons_append, Draft.view_cons, Draft.enter?_array,
        List.getElem?_map, written] at gone
      obtain ⟨undeclared, other, rest, same⟩ :=
        Variable.undeclared_of_missing (distinct.enter _ entered) read below gone
      exact .inr ⟨place, undeclared, other, rest, by rw [List.cons_append, same]⟩

theorem distinct_toJson {config : ContainerConfig} (clean : config.Clean) :
    (Draft.ofValue config.toJson).Distinct := by
  refine Shape.Travelling.distinct clean [("metadata", config.metadata.toJson),
    ("envs", .array (config.environment.map Variable.toJson))] rfl (by decide) ?_
  have metadata : (Draft.ofValue config.metadata.toJson).Distinct :=
    Draft.distinct_ofValue_object (by simp) (by simp [ofNat, Draft.distinct_ofValue])
  have environment :
      (Draft.ofValue (.array (config.environment.map Variable.toJson))).Distinct :=
    Draft.distinct_ofValue_array (List.forall_mem_map.2 fun entry _ =>
      Draft.distinct_ofValue_object (by simp) (by simp [Draft.distinct_ofValue]))
  simp [metadata, environment]

section Written

variable (config : ContainerConfig) (path : List Step)

theorem view_metadata :
    (Draft.ofValue config.toJson).view (.member "metadata" :: path) =
      (Draft.ofValue config.metadata.toJson).view path := by
  simp [toJson, Draft.view_cons]

theorem view_environment :
    (Draft.ofValue config.toJson).view (.member "envs" :: path) =
      (Draft.ofValue (.array (config.environment.map Variable.toJson))).view path := by
  simp [toJson, Draft.view_cons]

theorem view_entry (place : Nat) :
    (Draft.ofValue config.toJson).view (.member "envs" :: .item place :: path) =
      config.environment[place]?.bind fun entry => (Draft.ofValue entry.toJson).view path := by
  rw [view_environment, Draft.view_cons, Draft.enter?_array, List.getElem?_map]
  simp [Option.bind_map, Function.comp_def]

theorem view_other {name : String} (undeclared : name ∉ ["metadata", "envs"]) :
    (Draft.ofValue config.toJson).view (.member name :: path) =
      ((config.extra.get? name).map Draft.ofValue).bind fun inner => inner.view path := by
  simp only [List.mem_cons, List.not_mem_nil, or_false, not_or] at undeclared
  simp [toJson, Draft.view_cons, Ne.symm undeclared.1, Ne.symm undeclared.2]

end Written

theorem finish_eq_ok {filled : Partial} {config : ContainerConfig}
    (finished : shape.finish filled = .ok config) :
    config.metadata = filled.metadata.getD empty.metadata ∧
      config.environment = filled.environment.getD [] ∧ config.extra = filled.extra := by
  obtain rfl := Except.ok.inj finished
  exact ⟨rfl, rfl, rfl⟩

theorem survives {frame : Frame} {draft : Draft} {config : ContainerConfig}
    (distinct : draft.Distinct) (read : shape.read ⟨frame, draft⟩ = .ok config) :
    Survives draft (.ofValue config.toJson) := by
  obtain ⟨members, inner, filled, rfl, -, gathered, finished⟩ := Shape.read_kept rfl read
  obtain ⟨sameMetadata, sameEnvironment, extra⟩ := finish_eq_ok finished
  have gathered := Shape.gathered_of_members gathered
  have metadataRel := slot_metadata.rel_of_gathered distinct.names gathered
  have metadata := metadata_of_rel
    (fun inner found => distinct.enter (.member "metadata") found) metadataRel
  have environment := slot_environment.rel_of_gathered distinct.names gathered
  have entries := entries_of_rel
    (fun inner found => distinct.enter (.member "envs") found) environment
  rw [← sameMetadata] at metadata
  rw [← sameEnvironment] at entries
  have others (name : String) (undeclared : name ∉ ["metadata", "envs"]) (path : List Step) :
      (Draft.ofValue config.toJson).view (.member name :: path) =
        (Draft.object members none).view (.member name :: path) := by
    rw [view_other _ _ undeclared, Draft.view_cons, extra]
    exact bind_view_eq (shape.sameView_of_gathered rfl Partial.extra rfl
      (fun _ _ _ => rfl) (by simp [shape, Shape.Spares, field_read_eq_ok_iff]) distinct gathered
      undeclared) path
  constructor
  case object => rfl
  case others => exact others
  case metadata => rfl
  case metadata_name =>
    rw [view_metadata, Draft.fieldView, Draft.at?_one]
    exact congrArg some metadata.1.symm
  case metadata_attempt =>
    rw [view_metadata, Draft.fieldView, Draft.at?_one]
    exact congrArg some metadata.2.symm
  case metadata_only =>
    intro name undeclared path
    rw [view_metadata, Metadata.view_other _ _ undeclared]
  case entries =>
    rw [view_environment, Draft.view_nil, Draft.kind_array, List.length_map, Draft.view_cons,
      sameEnvironment]
    exact congrArg some (length_of_rel environment).symm
  case entry =>
    intro place
    rw [view_entry, Draft.view, Draft.at?_two]
    rcases rel_cases (entries place) with ⟨absent, unset⟩ | ⟨item, entry, present, set, -⟩
    · exact absent ▸ unset ▸ rfl
    · exact present ▸ set ▸ rfl
  case entry_key =>
    intro place
    rw [view_entry, Draft.fieldView, Draft.at?_two]
    rcases rel_cases (entries place) with
      ⟨absent, unset⟩ | ⟨item, entry, present, set, apart, inner, read⟩
    · exact absent ▸ unset ▸ rfl
    · exact present ▸ set ▸ (Variable.kinds_of_read apart read).1.symm
  case entry_value =>
    intro place
    rw [view_entry, Draft.fieldView, Draft.at?_two]
    rcases rel_cases (entries place) with
      ⟨absent, unset⟩ | ⟨item, entry, present, set, apart, inner, read⟩
    · exact absent ▸ unset ▸ rfl
    · exact present ▸ set ▸ (Variable.kinds_of_read apart read).2.symm
  case entry_only =>
    intro place name undeclared path
    rw [view_entry, Option.bind_eq_none_iff]
    exact fun entry _ => Variable.view_other entry path undeclared
  case missing =>
    intro path name seen gone
    obtain ⟨step, rest, same⟩ : ∃ step rest, path ++ [.member name] = step :: rest := by
      cases path <;> exact ⟨_, _, rfl⟩
    rw [same] at seen gone
    obtain ⟨part, entered, below⟩ := Draft.exists_of_view_cons seen
    cases step with
    | item place => cases entered
    | member first =>
        by_cases declared : first ∈ ["metadata", "envs"]
        · simp only [List.mem_cons, List.not_mem_nil, or_false] at declared
          have apart := distinct.enter _ entered
          rcases declared with rfl | rfl <;> cases path <;> cases same
          · cases gone
          · rw [show Draft.named? "metadata" members = some part from entered] at metadataRel
            rw [view_metadata, sameMetadata] at gone
            exact dropped_of_metadata apart metadataRel below gone
          · cases gone
          · rw [show Draft.named? "envs" members = some part from entered] at environment
            rw [view_environment, sameEnvironment] at gone
            exact dropped_of_environment apart environment below gone
        · exact absurd (others first declared rest ▸ gone) seen

end ContainerConfig

namespace CreateRequest

theorem slot_sandbox : shape.Slot 0 "podSandboxId" Node.text Partial.sandbox where
  others := by simp +contextual [shape, Shape.Spares, field_read_eq_ok_iff]
  kept := by simp [shape]

theorem slot_config : shape.Slot 1 "config" ContainerConfig.shape.read Partial.config where
  others := by simp +contextual [shape, Shape.Spares, field_read_eq_ok_iff]
  kept := by simp [shape]

/-- What a request is written as, next to what it was read from.  A configuration that was left out
counts as the empty object. -/
structure Survives (before after : Draft) : Prop where
  object : after.view [] = some .object
  distinct : after.Distinct
  others : ∀ name ∉ ["podSandboxId", "config"], ∀ path,
    after.view (.member name :: path) = before.view (.member name :: path)
  sandbox : ∀ path, after.view (.member "podSandboxId" :: path) =
    before.view (.member "podSandboxId" :: path)
  config : ∃ config, after.at? [.member "config"] = some config ∧
    ContainerConfig.Survives ((before.at? [.member "config"]).getD (.object [] none)) config
  missing : ∀ path name, before.view (path ++ [.member name]) ≠ none →
    after.view (path ++ [.member name]) = none →
      ∃ inner, path ++ [.member name] = .member "config" :: inner ∧ ContainerConfig.Dropped inner

theorem distinct_toJson {request : CreateRequest} (clean : request.Clean) :
    (Draft.ofValue request.toJson).Distinct :=
  clean.extra.distinct [("podSandboxId", .string request.sandbox),
    ("config", request.config.toJson)] rfl (by decide) (by
      simp [Draft.distinct_ofValue (ordered_string _),
        ContainerConfig.distinct_toJson clean.config])

theorem finish_eq_ok {filled : Partial} {request : CreateRequest}
    (finished : shape.finish filled = .ok request) :
    filled.sandbox = some request.sandbox ∧ request.config = filled.config.getD .empty ∧
      request.extra = filled.extra := by
  obtain ⟨sandbox, given, finished⟩ := bind_eq_ok_iff.1 finished
  obtain rfl := Except.ok.inj finished
  exact ⟨demand_eq_ok_iff.1 given, rfl, rfl⟩

theorem view_other (request : CreateRequest) (path : List Step) {name : String}
    (undeclared : name ∉ ["podSandboxId", "config"]) :
    (Draft.ofValue request.toJson).view (.member name :: path) =
      ((request.extra.get? name).map Draft.ofValue).bind fun inner => inner.view path := by
  simp only [List.mem_cons, List.not_mem_nil, or_false, not_or] at undeclared
  simp [toJson, Draft.view_cons, Ne.symm undeclared.1, Ne.symm undeclared.2]

/-- A configuration that was left out is read like the empty object. -/
theorem config_of_rel {frame : Frame} {draft : Option Draft} {config : Option ContainerConfig}
    (distinct : ∀ inner ∈ draft, inner.Distinct)
    (rel : Option.Rel (fun draft config => ContainerConfig.shape.read ⟨frame, draft⟩ = .ok config)
      draft config) :
    ContainerConfig.Survives (draft.getD (.object [] none))
      (.ofValue (config.getD .empty).toJson) := by
  cases rel with
  | none =>
      have empty : (Draft.object [] none).Distinct := Draft.distinct_object .nil (by simp)
      have read : ContainerConfig.shape.read ⟨.value, .object [] none⟩ = .ok .empty := rfl
      exact ContainerConfig.survives empty read
  | some read => exact ContainerConfig.survives (distinct _ rfl) read

theorem survives {frame : Frame} (room : frame.Admits 4) {draft : Draft} {request : CreateRequest}
    (distinct : draft.Distinct) (read : shape.read ⟨frame, draft⟩ = .ok request) :
    Survives draft (.ofValue request.toJson) := by
  have clean := (clean_of_read room read).1
  obtain ⟨members, inner, filled, rfl, -, gathered, finished⟩ := Shape.read_kept rfl read
  obtain ⟨sandboxed, configured, extra⟩ := finish_eq_ok finished
  have gathered := Shape.gathered_of_members gathered
  have others (name : String) (undeclared : name ∉ ["podSandboxId", "config"])
      (path : List Step) : (Draft.ofValue request.toJson).view (.member name :: path) =
        (Draft.object members none).view (.member name :: path) := by
    rw [view_other _ _ undeclared, Draft.view_cons, extra]
    exact bind_view_eq (shape.sameView_of_gathered rfl Partial.extra rfl
      (fun _ _ _ => rfl) (by simp [shape, Shape.Spares, field_read_eq_ok_iff]) distinct gathered
      undeclared) path
  have sandbox (path : List Step) :
      (Draft.ofValue request.toJson).view (.member "podSandboxId" :: path) =
        (Draft.object members none).view (.member "podSandboxId" :: path) := by
    have slot := slot_sandbox.rel_of_gathered distinct.names gathered
    rw [sandboxed] at slot
    obtain ⟨own, present, read⟩ := exists_of_rel_some slot
    rw [Draft.view_cons, Draft.view_cons, Draft.enter?, present]
    exact sameView_of_text read path
  have config := config_of_rel (fun inner found => distinct.enter (.member "config") found)
    (slot_config.rel_of_gathered distinct.names gathered)
  rw [← configured] at config
  refine ⟨rfl, distinct_toJson clean, others, sandbox, ⟨_, rfl, by rwa [Draft.at?_one]⟩, ?_⟩
  intro path name seen gone
  obtain ⟨step, rest, same⟩ : ∃ step rest, path ++ [.member name] = step :: rest := by
    cases path <;> exact ⟨_, _, rfl⟩
  rw [same] at seen gone
  obtain ⟨part, entered, below⟩ := Draft.exists_of_view_cons seen
  cases step with
  | item place => cases entered
  | member first =>
      by_cases declared : first ∈ ["podSandboxId", "config"]
      · simp only [List.mem_cons, List.not_mem_nil, or_false] at declared
        rcases declared with rfl | rfl
        · exact absurd (sandbox rest ▸ gone) seen
        · cases path with
          | nil =>
              cases same
              cases gone
          | cons step path =>
              cases same
              rw [entered] at config
              exact ⟨_, rfl, config.missing path name below gone⟩
      · exact absurd (others first declared rest ▸ gone) seen

end CreateRequest

namespace CreateResponse

theorem slot_container : shape.Slot 0 "containerId" Node.text Partial.container where
  others := by simp +contextual [shape, Shape.Spares, field_read_eq_ok_iff]
  kept := by simp [shape]

/-- A response is written as it was read. -/
structure Survives (before after : Draft) : Prop where
  object : after.view [] = some .object
  distinct : after.Distinct
  all : ∀ path, after.view path = before.view path

theorem distinct_toJson {response : CreateResponse} (clean : response.Clean) :
    (Draft.ofValue response.toJson).Distinct :=
  clean.distinct [("containerId", .string response.container)] rfl (by decide)
    (by simpa using Draft.distinct_ofValue (ordered_string _))

theorem survives {frame : Frame} {draft : Draft} {response : CreateResponse}
    (distinct : draft.Distinct) (read : shape.read ⟨frame, draft⟩ = .ok response) :
    Survives draft (.ofValue response.toJson) := by
  have clean := (clean_of_read read).1
  obtain ⟨members, inner, filled, rfl, -, gathered, finished⟩ := Shape.read_kept rfl read
  obtain ⟨container, given, finished⟩ := bind_eq_ok_iff.1 finished
  obtain rfl := Except.ok.inj finished
  have gathered := Shape.gathered_of_members gathered
  have slot := slot_container.rel_of_gathered distinct.names gathered
  refine ⟨rfl, distinct_toJson clean, ?_⟩
  rintro (_ | ⟨name | place, path⟩)
  · rfl
  · rw [toJson, Draft.view_cons, Draft.view_cons, Draft.enter?_object, Members.get?_cons]
    refine bind_view_eq ?_ path
    by_cases same : "containerId" = name
    · subst same
      rw [demand_eq_ok_iff.1 given] at slot
      obtain ⟨own, present, read⟩ := exists_of_rel_some slot
      rw [if_pos rfl, Draft.enter?, present]
      exact .some (sameView_of_text read)
    · rw [if_neg same]
      exact shape.sameView_of_gathered rfl Partial.extra rfl
        (fun _ _ _ => rfl) (by simp [shape, Shape.Spares, field_read_eq_ok_iff]) distinct gathered
        (by simpa [shape, Record.names] using Ne.symm same)
  · rfl

end CreateResponse

/-- Whether a message is read from a text or from a value at hand, what it is written as holds
everything that it was read from, apart from members without a meaning inside of the metadata and
of the entries. -/
theorem opaque_members_survive :
    (∀ text request, (Document.read text.toList).body.Distinct →
      CreateRequest.shape.decode text = .ok request →
        CreateRequest.Survives (Document.read text.toList).body (.ofValue request.toJson)) ∧
    (∀ value request, (Draft.ofValue value).Distinct →
      CreateRequest.shape.ofValue value = .ok request →
        CreateRequest.Survives (.ofValue value) (.ofValue request.toJson)) ∧
    (∀ text response, (Document.read text.toList).body.Distinct →
      CreateResponse.shape.decode text = .ok response →
        CreateResponse.Survives (Document.read text.toList).body (.ofValue response.toJson)) ∧
    (∀ value response, (Draft.ofValue value).Distinct →
      CreateResponse.shape.ofValue value = .ok response →
        CreateResponse.Survives (.ofValue value) (.ofValue response.toJson)) :=
  ⟨fun _ _ distinct decoded => CreateRequest.survives (Frame.whole_admits (by decide)) distinct
      (Shape.read_of_decode decoded),
    fun _ _ distinct read =>
      CreateRequest.survives (show Frame.value.Admits 4 from trivial) distinct read,
    fun _ _ distinct decoded => CreateResponse.survives distinct (Shape.read_of_decode decoded),
    fun _ _ distinct read => CreateResponse.survives distinct read⟩

namespace CreateRequest

/-- A request with a member of its own, an entry in the form of a list, metadata without an
attempt but with a member that has no meaning. -/
def loose : Json :=
  .object [
    ("x", .array [.ofNat 1, .object [("y", .null)]]),
    ("config", .object [
      ("envs", .array [.array [.string "A", .string "1"]]),
      ("metadata", .object [("name", .string "c"), ("z", .object [])])]),
    ("podSandboxId", .string "p")]

def tight : CreateRequest where
  sandbox := "p"
  config := ⟨⟨"c", 0⟩, [⟨"A", "1"⟩], []⟩
  extra := [("x", .array [.ofNat 1, .object [("y", .null)]])]

theorem exact_loose : loose.Exact := by
  simp [loose, exact_object, exact_array, exact_ofNat (n := 1) (by decide)]

theorem distinct_loose : (Draft.ofValue loose).Distinct := by
  have ordered {value : Json} (ordered : value.Ordered) := Draft.distinct_ofValue ordered
  have metadata : (Draft.ofValue (.object [("name", .string "c"), ("z", .object [])])).Distinct :=
    Draft.distinct_ofValue_object (by decide)
      (by simp [ordered, ordered_object, Members.Ascending])
  have config : (Draft.ofValue (.object [("envs", .array [.array [.string "A", .string "1"]]),
      ("metadata", .object [("name", .string "c"), ("z", .object [])])])).Distinct :=
    Draft.distinct_ofValue_object (by decide) (by simp [metadata, ordered, ordered_array])
  refine Draft.distinct_ofValue_object (by decide) ?_
  simp [config, ordered, ordered_array, ordered_object, Members.Ascending, ofNat]

end CreateRequest

theorem opaque_members_survive_loose :
    (Document.read CreateRequest.loose.compact.toList).body.Distinct ∧
      CreateRequest.shape.decode CreateRequest.loose.compact = .ok .tight ∧
      CreateRequest.Survives (Document.read CreateRequest.loose.compact.toList).body
        (.ofValue CreateRequest.tight.toJson) := by
  have body : Document.read CreateRequest.loose.compact.toList =
      ⟨.ofValue CreateRequest.loose, true⟩ := by
    rw [compact, String.toList_ofList, Document.read_print CreateRequest.exact_loose]
  have distinct : (Document.read CreateRequest.loose.compact.toList).body.Distinct := by
    rw [body]
    exact CreateRequest.distinct_loose
  have decoded : CreateRequest.shape.decode CreateRequest.loose.compact = .ok .tight :=
    (Shape.decode_compact CreateRequest.exact_loose).trans rfl
  exact ⟨distinct, decoded, opaque_members_survive.1 _ _ distinct decoded⟩

end GuestPod
