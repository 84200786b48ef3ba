/-
This file rearranges the text of a container message.  The order of the members of its objects and
the form of its inner records have no bearing on the message.
-/

import GuestPod.Launch
import GuestPod.Proofs.Derivation
import GuestPod.Proofs.Order
import GuestPod.Proofs.Survival
import GuestPod.Role

namespace GuestPod

open Decoding Json

/-- The part that a draft plays in a container message. -/
inductive Place where
  | request
  | config
  | response
  | metadata
  | environment
  | entry
  | other

namespace Place

/-- The place of a member of an object. -/
def member : Place → Option String → Place
  | .request, name => if name = some "config" then .config else .other
  | .config, name =>
      if name = some "metadata" then .metadata
      else if name = some "envs" then .environment
      else .other
  | _, _ => .other

/-- The place of an item of a list. -/
def item : Place → Place
  | .environment => .entry
  | _ => .other

end Place

/-- One text of a message goes over into another: members change their order at any depth, and the
metadata and the entries become lists of their fields.  The attempt may be left out of the list as
it may of the object. -/
inductive Rearranged : Place → Draft → Draft → Prop
  | refl (place : Place) (draft : Draft) : Rearranged place draft draft
  | trans {place : Place} {draft other third : Draft} (first : Rearranged place draft other)
      (second : Rearranged place other third) : Rearranged place draft third
  | permute {place : Place} {members others : List (Option String × Draft)}
      (perm : members.Perm others) :
      Rearranged place (.object members none) (.object others none)
  | member {place : Place} {before after : List (Option String × Draft)} {name : Option String}
      {draft other : Draft} (change : Rearranged (place.member name) draft other) :
      Rearranged place (.object (before ++ (name, draft) :: after) none)
        (.object (before ++ (name, other) :: after) none)
  | item {place : Place} {before after : List Draft} {draft other : Draft}
      (change : Rearranged place.item draft other) :
      Rearranged place (.array (before ++ draft :: after) none)
        (.array (before ++ other :: after) none)
  | metadata {members : List (Option String × Draft)} {name attempt : Draft}
      (named : Draft.named? "name" members = some name)
      (tried : Draft.named? "attempt" members = some attempt) :
      Rearranged .metadata (.object members none) (.array [name, attempt] none)
  | untried {members : List (Option String × Draft)} {name : Draft}
      (named : Draft.named? "name" members = some name)
      (untried : Draft.named? "attempt" members = none) :
      Rearranged .metadata (.object members none) (.array [name] none)
  | filled {members : List (Option String × Draft)} {name : Draft}
      (named : Draft.named? "name" members = some name)
      (untried : Draft.named? "attempt" members = none) :
      Rearranged .metadata (.object members none) (.array [name, .number (.integer 0)] none)
  | entry {members : List (Option String × Draft)} {key value : Draft}
      (keyed : Draft.named? "key" members = some key)
      (valued : Draft.named? "value" members = some value) :
      Rearranged .entry (.object members none) (.array [key, value] none)

namespace Rearranged

variable {place : Place} {draft other : Draft}

/-- Only lists and objects can be rearranged. -/
theorem eq_of_scalar (rearranged : Rearranged place draft other)
    (array : ∀ items, draft ≠ .array items none)
    (object : ∀ members, draft ≠ .object members none) : other = draft := by
  induction rearranged with
  | refl => rfl
  | trans _ _ first second =>
      obtain rfl := first array object
      exact second array object
  | item => exact absurd rfl (array _)
  | _ => exact absurd rfl (object _)

theorem sameTo_text (rearranged : Rearranged place draft other) :
    SameTo Node.text draft other := by
  intro frame s read
  obtain rfl : draft = .string s := text_eq_ok read
  rwa [rearranged.eq_of_scalar (by simp) (by simp)]

theorem sameTo_word (rearranged : Rearranged place draft other) :
    SameTo (fun node => UInt32.ofNat <$> node.word 32) draft other := by
  intro frame word read
  obtain rfl : draft = .number (.integer word.toNat) := uint32_eq_ok read
  rwa [rearranged.eq_of_scalar (by simp) (by simp)]

/-- What can be skipped can be skipped in every arrangement. -/
theorem skip (rearranged : Rearranged place draft other) (skips : draft.skip = .ok ()) :
    other.skip = .ok () := by
  induction rearranged with
  | refl => exact skips
  | trans _ _ first second => exact second (first skips)
  | permute perm =>
      rw [Draft.skip_object] at skips ⊢
      exact fun member inside => skips member (perm.mem_iff.2 inside)
  | member _ ih =>
      rw [Draft.skip_object, List.forall_mem_append, List.forall_mem_cons] at skips ⊢
      exact ⟨skips.1, ih skips.2.1, skips.2.2⟩
  | item _ ih =>
      rw [Draft.skip_array, List.forall_mem_append, List.forall_mem_cons] at skips ⊢
      exact ⟨skips.1, ih skips.2.1, skips.2.2⟩
  | metadata first second | entry first second =>
      rw [Draft.skip_object] at skips
      rw [Draft.skip_array]
      simp [skips _ (Draft.mem_of_named? first), skips _ (Draft.mem_of_named? second)]
  | untried first =>
      rw [Draft.skip_object] at skips
      rw [Draft.skip_array]
      simp [skips _ (Draft.mem_of_named? first)]
  | filled first =>
      rw [Draft.skip_object] at skips
      rw [Draft.skip_array]
      simp [skips _ (Draft.mem_of_named? first), Draft.skip]

/-- No arrangement repeats a name. -/
theorem distinct (rearranged : Rearranged place draft other) (distinct : draft.Distinct) :
    other.Distinct := by
  have inside {members : List (Option String × Draft)} {name : String} {part : Draft}
      (distinct : (Draft.object members none).Distinct)
      (found : Draft.named? name members = some part) : part.Distinct :=
    distinct.enter (.member name) found
  induction rearranged with
  | refl => exact distinct
  | trans _ _ first second => exact second (first distinct)
  | permute perm =>
      rw [Draft.distinct_object_iff] at distinct ⊢
      exact ⟨(perm.filterMap _).nodup_iff.1 distinct.1,
        fun name part member => distinct.2 name part (perm.mem_iff.2 member)⟩
  | @member _ before after name draft other _ ih =>
      rw [Draft.distinct_object_iff] at distinct ⊢
      obtain ⟨names, parts⟩ := distinct
      refine ⟨?_, fun label part member => ?_⟩
      · rw [List.filterMap_append, List.filterMap_cons] at names ⊢
        exact names
      · rcases List.mem_append.1 member with front | back
        · exact parts label part (List.mem_append_left _ front)
        · rcases List.mem_cons.1 back with same | back
          · obtain ⟨rfl, rfl⟩ := Prod.mk.inj same
            exact ih (parts label draft (by simp))
          · exact parts label part (by simp [back])
  | item _ ih =>
      rw [Draft.distinct_array_iff, List.forall_mem_append, List.forall_mem_cons] at distinct ⊢
      exact ⟨distinct.1, ih distinct.2.1, distinct.2.2⟩
  | metadata first second | entry first second =>
      exact Draft.distinct_array (by simp [inside distinct first, inside distinct second])
  | untried first => exact Draft.distinct_array (by simp [inside distinct first])
  | filled first =>
      have zero : (Draft.number (.integer 0)).Distinct :=
        Draft.distinct_of_enter (by simp) (by simp [Draft.enter?_number])
      exact Draft.distinct_array (by simp [inside distinct first, zero])

/-- Whatever can be written can be written in every arrangement. -/
theorem written (rearranged : Rearranged place draft other) (written : draft.Written) :
    other.Written := by
  have inside {members : List (Option String × Draft)} {name : String} {part : Draft}
      (written : (Draft.object members none).Written)
      (found : Draft.named? name members = some part) : part.Written := by
    obtain ⟨_, writes⟩ := Draft.written_object.1 written _ (Draft.mem_of_named? found)
    exact Draft.written_of_member writes
  induction rearranged with
  | refl => exact written
  | trans _ _ first second => exact second (first written)
  | permute perm =>
      rw [Draft.written_object] at written ⊢
      exact fun member inside => written member (perm.mem_iff.2 inside)
  | member _ ih =>
      rw [Draft.written_object, List.forall_mem_append, List.forall_mem_cons] at written ⊢
      obtain ⟨front, ⟨_, member⟩, back⟩ := written
      exact ⟨front, Draft.exists_member_of_value member (ih (Draft.written_of_member member)),
        back⟩
  | item _ ih =>
      rw [Draft.written_array, List.forall_mem_append, List.forall_mem_cons] at written ⊢
      exact ⟨written.1, ih written.2.1, written.2.2⟩
  | metadata first second | entry first second =>
      exact Draft.written_array.2 (by simp [inside written first, inside written second])
  | untried first => exact Draft.written_array.2 (by simp [inside written first])
  | filled first =>
      exact Draft.written_array.2 (by simp [inside written first, Draft.written_zero])

end Rearranged

/-- Two drafts in one place say the same to whoever reads that place. -/
def Place.Agrees (draft other : Draft) : Place → Prop
  | .request => SameTo CreateRequest.shape.read draft other
  | .config => SameTo ContainerConfig.shape.read draft other
  | .response => SameTo CreateResponse.shape.read draft other
  | .metadata => SameTo Metadata.shape.read draft other
  | .environment => SameTo (Node.list Variable.shape.read) draft other
  | .entry => SameTo Variable.shape.read draft other
  | .other => SameTo Node.value draft other

section Member

variable {name : String} {draft other : Draft}

namespace Variable

theorem orderless : shape.Orderless := by
  refine Shape.orderless_of_apart ?_ (by simp [shape]) (by simp [shape])
  simp [shape, apart_field]

theorem sameTo_member {place : Place} (change : Rearranged place draft other) (filled : Partial) :
    SameTo (fun node => shape.member name node filled) draft other := by
  refine Shape.sameTo_member ?_ (fun _ => change.skip) (by simp [shape]) filled
  simp [shape, sameTo_field change.sameTo_text]

theorem sameTo_item {place : Place} (change : Rearranged place draft other)
    {before after : List Draft} {halt : Option Halt} :
    SameTo shape.read (.array (before ++ draft :: after) halt)
      (.array (before ++ other :: after) halt) := by
  refine Shape.sameTo_of_item rfl ?_
  simp [shape, sameTo_field change.sameTo_text]

/-- An entry may be the list of its key and its value. -/
theorem sameTo_listed {members : List (Option String × Draft)} {key value : Draft}
    (distinct : (Draft.object members none).Distinct)
    (keyed : Draft.named? "key" members = some key)
    (valued : Draft.named? "value" members = some value) :
    SameTo shape.read (.object members none) (.array [key, value] none) := by
  intro frame entry read
  obtain ⟨inner, entered, -⟩ := bind_eq_ok_iff.1 read
  obtain ⟨first, second⟩ := kinds_of_read distinct read
  rw [Draft.field?, keyed, Option.map_some, Option.some.injEq] at first
  rw [Draft.field?, valued, Option.map_some, Option.some.injEq] at second
  obtain rfl := Draft.eq_string_of_kind first
  obtain rfl := Draft.eq_string_of_kind second
  rw [Shape.read_array rfl, entered]
  rfl

end Variable

namespace Metadata

theorem orderless : shape.Orderless := by
  refine Shape.orderless_of_apart ?_ (by simp [shape]) (by simp [shape])
  simp [shape, apart_field]

theorem sameTo_member {place : Place} (change : Rearranged place draft other) (filled : Partial) :
    SameTo (fun node => shape.member name node filled) draft other := by
  refine Shape.sameTo_member ?_ (fun _ => change.skip) (by simp [shape]) filled
  simp [shape, sameTo_field change.sameTo_text, sameTo_field change.sameTo_word]

theorem sameTo_item {place : Place} (change : Rearranged place draft other)
    {before after : List Draft} {halt : Option Halt} :
    SameTo shape.read (.array (before ++ draft :: after) halt)
      (.array (before ++ other :: after) halt) := by
  refine Shape.sameTo_of_item rfl ?_
  simp [shape, sameTo_field change.sameTo_text, sameTo_field change.sameTo_word]

section Listed

variable {frame inner : Frame} {members : List (Option String × Draft)}

theorem read_pair (entered : frame.enter = .ok inner) (metadata : Metadata) :
    shape.read ⟨frame, .array
      [.string metadata.name, .number (.integer metadata.attempt.toNat)] none⟩ = .ok metadata := by
  have attempt : Node.word 32 ⟨inner, .number (.integer metadata.attempt.toNat)⟩ =
      .ok metadata.attempt.toNat := word_uint32 metadata.attempt
  rw [Shape.read_array rfl, entered]
  simp [shape, Shape.elements, field, Node.text, attempt, checkHalt]

theorem read_single (entered : frame.enter = .ok inner) (name : String) :
    shape.read ⟨frame, .array [.string name] none⟩ = .ok ⟨name, 0⟩ := by
  rw [Shape.read_array rfl, entered]
  rfl

/-- Metadata may be the list of their name and their attempt. -/
theorem sameTo_listed {name attempt : Draft} (distinct : (Draft.object members none).Distinct)
    (named : Draft.named? "name" members = some name)
    (tried : Draft.named? "attempt" members = some attempt) :
    SameTo shape.read (.object members none) (.array [name, attempt] none) := by
  intro frame metadata read
  obtain ⟨inner, entered, -⟩ := bind_eq_ok_iff.1 read
  obtain ⟨first, second⟩ := kinds_of_read distinct read
  rw [Draft.field?, named, Option.map_some, Option.some.injEq] at first
  rw [Draft.field?, tried, Option.map_some, Option.getD_some] at second
  obtain rfl := Draft.eq_string_of_kind first
  obtain rfl := Draft.eq_number_of_kind second
  exact read_pair entered metadata

theorem eq_of_untried {name : Draft} {metadata : Metadata}
    (distinct : (Draft.object members none).Distinct)
    (named : Draft.named? "name" members = some name)
    (untried : Draft.named? "attempt" members = none)
    (read : shape.read ⟨frame, .object members none⟩ = .ok metadata) :
    name = .string metadata.name ∧ metadata = ⟨metadata.name, 0⟩ := by
  obtain ⟨first, second⟩ := kinds_of_read distinct read
  rw [Draft.field?, named, Option.map_some, Option.some.injEq] at first
  rw [Draft.field?, untried, Option.map_none, Option.getD_none] at second
  have none : metadata.attempt.toNat = 0 := by simpa using second.symm
  have zero : metadata.attempt = 0 := UInt32.toNat_inj.1 none
  exact ⟨Draft.eq_string_of_kind first, by rw [← zero]⟩

/-- Without an attempt they may be the list of their name alone. -/
theorem sameTo_untried {name : Draft} (distinct : (Draft.object members none).Distinct)
    (named : Draft.named? "name" members = some name)
    (untried : Draft.named? "attempt" members = none) :
    SameTo shape.read (.object members none) (.array [name] none) := by
  intro frame metadata read
  obtain ⟨inner, entered, -⟩ := bind_eq_ok_iff.1 read
  obtain ⟨rfl, same⟩ := eq_of_untried distinct named untried read
  rw [read_single entered, ← same]

/-- They may also be the list of their name and of no attempts. -/
theorem sameTo_filled {name : Draft} (distinct : (Draft.object members none).Distinct)
    (named : Draft.named? "name" members = some name)
    (untried : Draft.named? "attempt" members = none) :
    SameTo shape.read (.object members none) (.array [name, .number (.integer 0)] none) := by
  intro frame metadata read
  obtain ⟨inner, entered, -⟩ := bind_eq_ok_iff.1 read
  obtain ⟨rfl, same⟩ := eq_of_untried distinct named untried read
  rw [same]
  exact read_pair entered ⟨metadata.name, 0⟩

end Listed

end Metadata

namespace ContainerConfig

theorem orderless : shape.Orderless := by
  refine Shape.orderless_of_apart ?_ ?_ ?_
  · simp [shape, apart_field]
  · rintro store ⟨⟩
    simp [shape, beside_field]
  · rintro store ⟨⟩ first second differ one other filled
    exact congrArg (fun extra => { filled with extra }) (Members.insert_comm differ one other _)

theorem sameTo_member (agrees : (Place.config.member (some name)).Agrees draft other)
    (filled : Partial) : SameTo (fun node => shape.member name node filled) draft other := by
  refine Shape.sameTo_member ?_ (by simp [shape]) ?_ filled
  · simp only [shape, List.forall_mem_cons, field_name]
    refine ⟨?_, ?_, by simp⟩
    · rintro rfl
      exact sameTo_field agrees
    · rintro rfl
      exact sameTo_field agrees
  · rintro store - undeclared
    simp only [shape, Record.names, List.map_cons, List.map_nil, field_name, List.mem_cons,
      List.not_mem_nil, or_false, not_or] at undeclared
    have place : Place.config.member (some name) = .other := by
      simp [Place.member, undeclared]
    rw [place] at agrees
    exact agrees

end ContainerConfig

namespace CreateRequest

theorem orderless : shape.Orderless := by
  refine Shape.orderless_of_apart ?_ ?_ ?_
  · simp [shape, apart_field]
  · rintro store ⟨⟩
    simp [shape, beside_field]
  · rintro store ⟨⟩ first second differ one other filled
    exact congrArg (fun extra => { filled with extra }) (Members.insert_comm differ one other _)

theorem sameTo_member (change : Rearranged (Place.request.member (some name)) draft other)
    (agrees : (Place.request.member (some name)).Agrees draft other)
    (filled : Partial) : SameTo (fun node => shape.member name node filled) draft other := by
  refine Shape.sameTo_member ?_ (by simp [shape]) ?_ filled
  · simp only [shape, List.forall_mem_cons, field_name]
    refine ⟨?_, ?_, by simp⟩
    · exact fun _ => sameTo_field change.sameTo_text
    · rintro rfl
      exact sameTo_field agrees
  · rintro store - undeclared
    simp only [shape, Record.names, List.map_cons, List.map_nil, field_name, List.mem_cons,
      List.not_mem_nil, or_false, not_or] at undeclared
    have place : Place.request.member (some name) = .other := by
      simp [Place.member, undeclared]
    rw [place] at agrees
    exact agrees

end CreateRequest

namespace CreateResponse

theorem orderless : shape.Orderless := by
  refine Shape.orderless_of_apart ?_ ?_ ?_
  · simp [shape]
  · rintro store ⟨⟩
    simp [shape, beside_field]
  · rintro store ⟨⟩ first second differ one other filled
    exact congrArg (fun extra => { filled with extra }) (Members.insert_comm differ one other _)

theorem sameTo_member (change : Rearranged (Place.response.member (some name)) draft other)
    (agrees : (Place.response.member (some name)).Agrees draft other)
    (filled : Partial) : SameTo (fun node => shape.member name node filled) draft other := by
  refine Shape.sameTo_member ?_ (by simp [shape]) (fun _ _ _ => agrees) filled
  simp [shape, sameTo_field change.sameTo_text]

end CreateResponse

end Member

section Agreement

variable {place : Place} {draft other third : Draft}

theorem Place.Agrees.refl (place : Place) (draft : Draft) : place.Agrees draft draft := by
  cases place <;> exact SameTo.refl _ _

theorem Place.Agrees.trans (first : place.Agrees draft other) (second : place.Agrees other third) :
    place.Agrees draft third := by
  cases place <;> exact SameTo.trans first second

theorem Place.agrees_of_perm {members others : List (Option String × Draft)}
    (perm : members.Perm others) (names : (members.filterMap (·.1)).Nodup) :
    place.Agrees (.object members none) (.object others none) := by
  cases place with
  | request => exact CreateRequest.orderless.sameTo_of_perm perm names
  | config => exact ContainerConfig.orderless.sameTo_of_perm perm names
  | response => exact CreateResponse.orderless.sameTo_of_perm perm names
  | metadata => exact Metadata.orderless.sameTo_of_perm perm names
  | environment => exact sameTo_list_of_object
  | entry => exact Variable.orderless.sameTo_of_perm perm names
  | other => exact sameTo_value_of_object (Members.orderless.sameTo_of_perm perm names)

theorem Place.agrees_of_member {name : String} {before after : List (Option String × Draft)}
    (change : Rearranged (place.member (some name)) draft other)
    (agrees : (place.member (some name)).Agrees draft other) :
    place.Agrees (.object (before ++ (some name, draft) :: after) none)
      (.object (before ++ (some name, other) :: after) none) := by
  cases place with
  | request => exact Shape.sameTo_of_member (CreateRequest.sameTo_member change agrees)
  | config => exact Shape.sameTo_of_member (ContainerConfig.sameTo_member agrees)
  | response => exact Shape.sameTo_of_member (CreateResponse.sameTo_member change agrees)
  | metadata => exact Shape.sameTo_of_member (Metadata.sameTo_member change)
  | environment => exact sameTo_list_of_object
  | entry => exact Shape.sameTo_of_member (Variable.sameTo_member change)
  | other =>
      refine sameTo_value_of_object (Shape.sameTo_of_member (Shape.sameTo_member ?_ ?_ ?_))
      · simp [Members.shape]
      · simp [Members.shape]
      · exact fun _ _ _ => agrees

theorem Place.agrees_of_unnamed {before after : List (Option String × Draft)} :
    place.Agrees (.object (before ++ (none, draft) :: after) none)
      (.object (before ++ (none, other) :: after) none) := by
  cases place with
  | environment => exact sameTo_list_of_object
  | other => exact sameTo_value_of_object Shape.sameTo_of_unnamed
  | _ => exact Shape.sameTo_of_unnamed

theorem Place.agrees_of_item {before after : List Draft}
    (change : Rearranged place.item draft other) (agrees : place.item.Agrees draft other) :
    place.Agrees (.array (before ++ draft :: after) none)
      (.array (before ++ other :: after) none) := by
  cases place with
  | request => exact Shape.sameTo_of_array rfl
  | config => exact Shape.sameTo_of_array rfl
  | response => exact Shape.sameTo_of_array rfl
  | metadata => exact Metadata.sameTo_item change
  | environment => exact sameTo_list agrees
  | entry => exact Variable.sameTo_item change
  | other => exact sameTo_value_of_item agrees

/-- A rearranged draft says the same in its place. -/
theorem Rearranged.agrees (rearranged : Rearranged place draft other)
    (distinct : draft.Distinct) : place.Agrees draft other := by
  induction rearranged with
  | refl place draft => exact .refl place draft
  | trans change _ first second => exact (first distinct).trans (second (change.distinct distinct))
  | permute perm => exact Place.agrees_of_perm perm distinct.names
  | @member _ before after name draft other change ih =>
      cases name with
      -- Nothing is known of the names below such a member, but whoever reads it fails.
      | none => exact Place.agrees_of_unnamed
      | some name =>
          rw [Draft.distinct_object_iff] at distinct
          exact Place.agrees_of_member change (ih (distinct.2 name draft (by simp)))
  | item change ih =>
      rw [Draft.distinct_array_iff] at distinct
      exact Place.agrees_of_item change (ih (distinct _ (by simp)))
  | metadata named tried => exact Metadata.sameTo_listed distinct named tried
  | untried named untried => exact Metadata.sameTo_untried distinct named untried
  | filled named untried => exact Metadata.sameTo_filled distinct named untried
  | entry keyed valued => exact Variable.sameTo_listed distinct keyed valued

end Agreement

namespace Json.Shape

variable {σ α : Type} {shape : Shape σ α} {text : String} {draft : Draft} {message : α}

theorem decode_of_writes (writes : Document.Writes draft text) :
    shape.decode text = shape.read ⟨.whole, draft⟩ := by
  simp only [decode, writes.read, if_true]
  cases shape.read ⟨.whole, draft⟩ <;> rfl

/-- A text that is decoded follows the grammar. -/
theorem exists_writes {store : String → Json → σ → σ} (keeps : shape.others = .kept store)
    (decoded : shape.decode text = .ok message) : ∃ draft, Document.Writes draft text := by
  obtain ⟨value, read, whole⟩ := bind_eq_ok_iff.1 decoded
  obtain ⟨members, -, -, same, -⟩ := read_kept keeps read
  refine ⟨.object members none, Document.writes_of_object ?_⟩
  split at whole
  case isTrue alone => rw [← same, ← alone]
  case isFalse => cases whole

end Json.Shape

/-- What is asked of a configuration. -/
structure ContainerConfig.Alike (config other : ContainerConfig) : Prop where
  role : Role.classify config.metadata.name = Role.classify other.metadata.name
  lookup : ∀ key, config.lookup key = other.lookup key
  extract : ∀ settings, Launch.extract config settings = Launch.extract other settings

/-- Every text of a message follows the grammar, and unless it repeats a name it can be rearranged:
there are texts of each arrangement, and all of them are decoded to the same message. -/
structure Format.Orderless {σ α : Type} (format : Format σ α) (place : Place)
    (alike : α → α → Prop) : Prop where
  writes : ∀ text message, format.shape.decode text = .ok message →
    ∃ draft, Document.Writes draft text
  rearranges : ∀ text message, format.shape.decode text = .ok message →
    ∀ draft, Document.Writes draft text → draft.Distinct → ∀ other, Rearranged place draft other →
      (∃ again, Document.Writes other again) ∧
      ∀ again, Document.Writes other again → ∃ same, format.shape.decode again = .ok same ∧
        same = message ∧ alike same message ∧ format.text same = format.text message

theorem Format.orderless_of_agrees {σ α : Type} {format : Format σ α} {place : Place}
    {alike : α → α → Prop} (refl : ∀ message, alike message message)
    {store : String → Json → σ → σ} (keeps : format.shape.others = .kept store)
    (reads : ∀ draft other, place.Agrees draft other → SameTo format.shape.read draft other) :
    format.Orderless place alike where
  writes _ _ decoded := Shape.exists_writes keeps decoded
  rearranges text message decoded draft writes distinct other rearranged := by
    constructor
    · obtain ⟨front, blanks, -, written, -⟩ := writes
      obtain ⟨text, written⟩ := rearranged.written ⟨front, written⟩
      exact ⟨String.ofList text, text, [], by simp, written, .nil⟩
    · intro again rewrites
      rw [Shape.decode_of_writes writes] at decoded
      have same := reads _ _ (rearranged.agrees distinct) decoded
      exact ⟨message, (Shape.decode_of_writes rewrites).trans same, rfl, refl message, rfl⟩

/-- The meaning of a container message depends neither on the order of members nor on the form of
the metadata and of the entries. -/
theorem container_messages_orderless :
    CreateRequest.format.Orderless .request (fun one other => one.config.Alike other.config) ∧
      ContainerConfig.format.Orderless .config ContainerConfig.Alike ∧
      CreateResponse.format.Orderless .response Eq := by
  have alike (config : ContainerConfig) : config.Alike config :=
    ⟨rfl, fun _ => rfl, fun _ => rfl⟩
  refine ⟨?_, ?_, ?_⟩
  · exact Format.orderless_of_agrees (fun request => alike request.config) rfl fun _ _ => id
  · exact Format.orderless_of_agrees alike rfl fun _ _ => id
  · exact Format.orderless_of_agrees (fun _ => rfl) rfl fun _ _ => id

/-- The loose request in another order, with its metadata as a list. -/
def CreateRequest.settled : Json :=
  .object [
    ("podSandboxId", .string "p"),
    ("config", .object [
      ("metadata", .array [.string "c"]),
      ("envs", .array [.array [.string "A", .string "1"]])]),
    ("x", .array [.ofNat 1, .object [("y", .null)]])]

theorem Json.writes_compact {value : Json} (exact : value.Exact) {members : Members}
    (object : value = .object members) : Document.Writes (.ofValue value) value.compact := by
  subst object
  apply Document.writes_of_object
  rw [compact, String.toList_ofList, Document.read_print exact]
  rfl

theorem container_messages_orderless_loose :
    CreateRequest.shape.decode CreateRequest.loose.compact = .ok .tight ∧
      Document.Writes (.ofValue CreateRequest.loose) CreateRequest.loose.compact ∧
      (Draft.ofValue CreateRequest.loose).Distinct ∧
      Rearranged .request (.ofValue CreateRequest.loose) (.ofValue CreateRequest.settled) ∧
      Document.Writes (.ofValue CreateRequest.settled) CreateRequest.settled.compact ∧
      CreateRequest.shape.decode CreateRequest.settled.compact = .ok .tight := by
  have exact : CreateRequest.settled.Exact := by
    simp [CreateRequest.settled, exact_object, exact_array, exact_ofNat (n := 1) (by decide)]
  have decoded : CreateRequest.shape.decode CreateRequest.loose.compact = .ok .tight :=
    (Shape.decode_compact CreateRequest.exact_loose).trans rfl
  have metadata : Rearranged .metadata
      (.ofValue (.object [("name", .string "c"), ("z", .object [])]))
      (.ofValue (.array [.string "c"])) := .untried rfl rfl
  have config : Rearranged .config
      (.ofValue (.object [
        ("envs", .array [.array [.string "A", .string "1"]]),
        ("metadata", .object [("name", .string "c"), ("z", .object [])])]))
      (.ofValue (.object [
        ("metadata", .array [.string "c"]),
        ("envs", .array [.array [.string "A", .string "1"]])])) :=
    .trans (@Rearranged.member .config [(some "envs", _)] [] (some "metadata") _ _ metadata)
      (.permute (.swap _ _ _))
  have request : Rearranged .request (.ofValue CreateRequest.loose)
      (.ofValue CreateRequest.settled) := by
    refine .trans
      (@Rearranged.member .request [(some "x", _)] [(some "podSandboxId", _)] (some "config") _ _
        config)
      (.permute ?_)
    exact List.reverse_perm [_, _, _] |>.symm
  have loose := writes_compact CreateRequest.exact_loose rfl
  have settled := writes_compact exact rfl
  obtain ⟨-, again⟩ := container_messages_orderless.1.rearranges _ _ decoded _ loose
    CreateRequest.distinct_loose _ request
  obtain ⟨same, read, rfl, -⟩ := again _ settled
  exact ⟨decoded, loose, CreateRequest.distinct_loose, request, settled, read⟩

end GuestPod
