/-
This file follows a record through the reading of its members.
-/

import GuestPod.Proofs.Values

namespace GuestPod.Json

open Decoding

@[simp] theorem Node.text_string (frame : Frame) (s : String) :
    Node.text ⟨frame, .ofValue (.string s)⟩ = .ok s := rfl

@[simp] theorem Node.boolean_boolean (frame : Frame) (b : Bool) :
    Node.boolean ⟨frame, .ofValue (.boolean b)⟩ = .ok b := rfl

@[simp] theorem demand_some {β : Type} (name : String) (value : β) :
    demand name (some value) = .ok value := rfl

@[simp] theorem field_name {σ β : Type} (name : String) (required : Bool) (get : σ → Option β)
    (set : β → σ → σ) (read : Node → Except Problem β) :
    (field name required get set read).name = name := rfl

theorem field_read_eq_ok_iff {σ β : Type} {name : String} {required : Bool} {get : σ → Option β}
    {set : β → σ → σ} {read : Node → Except Problem β} {node : Node} {filled next : σ} :
    (field name required get set read).read node filled = .ok next ↔
      ∃ value, read node = .ok value ∧ set value filled = next := by
  simp [field, bind_eq_ok_iff]

/-- Members are gathered one after another; each step sees a name and a draft. -/
inductive Gathered {σ : Type} (step : String → Draft → σ → σ → Prop) :
    List (Option String × Draft) → σ → σ → Prop where
  | nil (filled : σ) : Gathered step [] filled filled
  | cons {name : String} {draft : Draft} {rest : List (Option String × Draft)}
      {filled middle next : σ} (first : step name draft filled middle)
      (others : Gathered step rest middle next) :
      Gathered step ((some name, draft) :: rest) filled next

theorem demand_eq_ok_iff {β : Type} {name : String} {part : Option β} {value : β} :
    demand name part = .ok value ↔ part = some value := by
  cases part <;> simp [demand]

namespace Shape

variable {σ α : Type} {shape : Shape σ α} {frame inner : Frame}

/-- A value is read member by member. -/
@[simp] theorem read_object (members : Members) :
    shape.read ⟨frame, .ofValue (.object members)⟩ =
      (frame.enter >>= fun inner =>
        shape.members inner (Draft.ofMembers members) shape.empty >>= shape.finish) := by
  simp only [read, Draft.ofValue, checkHalt, ok_bind]

@[simp] theorem members_nil (filled : σ) :
    shape.members frame (Draft.ofMembers []) filled = .ok filled := rfl

@[simp] theorem members_cons (name : String) (value : Json) (rest : Members) (filled : σ) :
    shape.members frame (Draft.ofMembers ((name, value) :: rest)) filled =
      (shape.member name ⟨frame, .ofValue value⟩ filled >>=
        shape.members frame (Draft.ofMembers rest)) := by
  simp only [Draft.ofMembers, Draft.ofMember, members]

theorem field?_eq_none_iff {name : String} :
    shape.record.field? name = none ↔ name ∉ shape.record.names := by
  simp [Record.field?, Record.names]

theorem members_append (first second : List (Option String × Draft)) (filled : σ) :
    shape.members frame (first ++ second) filled =
      shape.members frame first filled >>= shape.members frame second := by
  induction first generalizing filled with
  | nil => rfl
  | cons member rest ih =>
      obtain ⟨_ | name, draft⟩ := member
      · rfl
      · simp only [List.cons_append, members]
        cases shape.member name ⟨frame, draft⟩ filled with
        | error problem => rfl
        | ok next => exact ih next

/-- Members that are no fields are stored one after another. -/
theorem members_kept {store : String → Json → σ → σ} (kept : shape.others = .kept store)
    {extra : Members} (undeclared : ∀ member ∈ extra, member.1 ∉ shape.record.names)
    (read : ∀ member ∈ extra, (Draft.ofValue member.2).value frame = .ok member.2) (filled : σ) :
    shape.members frame (Draft.ofMembers extra) filled =
      .ok (extra.foldl (fun filled member => store member.1 member.2 filled) filled) := by
  induction extra generalizing filled with
  | nil => rfl
  | cons member rest ih =>
      obtain ⟨name, value⟩ := member
      have other := field?_eq_none_iff.2 (undeclared _ (List.mem_cons_self ..))
      have here : (Draft.ofValue value).value frame = .ok value := read _ (List.mem_cons_self ..)
      rw [Draft.ofMembers, Draft.ofMember, members, member, other]
      simp only [kept, here, ok_bind, pure_eq_ok]
      exact ih (fun member inside => undeclared member (List.mem_cons_of_mem _ inside))
        (fun member inside => read member (List.mem_cons_of_mem _ inside)) _

/-- Members that travel along are in order at every level, as a sorted map holds them, and none of
them has the name of a field. -/
structure Travelling (shape : Shape σ α) (extra : Members) : Prop where
  ascending : extra.Ascending
  ordered : ∀ member ∈ extra, member.2.Ordered
  undeclared : ∀ member ∈ extra, member.1 ∉ shape.record.names

namespace Travelling

variable {extra : Members}

theorem nil : Travelling shape [] :=
  ⟨.nil, by simp, by simp⟩

theorem insert (travelling : Travelling shape extra) {name : String} {value : Json}
    (other : name ∉ shape.record.names) (ordered : value.Ordered) :
    Travelling shape (extra.insert name value) where
  ascending := travelling.ascending.insert name value
  ordered member inside := by
    rcases Members.mem_insert inside with rfl | before
    · exact ordered
    · exact travelling.ordered member before
  undeclared member inside := by
    rcases Members.mem_insert inside with rfl | before
    · exact other
    · exact travelling.undeclared member before

theorem read (travelling : Travelling shape extra) (room : frame.Admits (depthMembers extra)) :
    ∀ member ∈ extra, (Draft.ofValue member.2).value frame = .ok member.2 := by
  intro member inside
  have low := (depthMembers_le_iff extra _).1 le_rfl member inside
  exact Draft.value_ofValue (travelling.ordered member inside) (room.mono low)

end Travelling

/-- A value is read field by field, and then the members that travel along take their place. -/
theorem read_declared_append {store : String → Json → σ → σ} (kept : shape.others = .kept store)
    (place : Members → σ) (stores : ∀ name value done,
      store name value (place done) = place (done.insert name value))
    (declared : Members) {extra : Members} (travelling : Travelling shape extra)
    (entered : frame.enter = .ok inner) (room : inner.Admits (depthMembers extra))
    (fields : shape.members inner (Draft.ofMembers declared) shape.empty = .ok (place [])) :
    shape.read ⟨frame, .ofValue (.object (declared ++ extra))⟩ = shape.finish (place extra) := by
  have gathered (done : Members) :
      extra.foldl (fun filled member => store member.1 member.2 filled) (place done) =
        place (extra.foldl (fun done member => done.insert member.1 member.2) done) := by
    rw [List.foldl_hom place]
    exact fun done member => stores member.1 member.2 done
  rw [read_object, entered, ok_bind, Draft.ofMembers_eq_map, List.map_append, members_append,
    ← Draft.ofMembers_eq_map, ← Draft.ofMembers_eq_map, fields, ok_bind,
    members_kept kept travelling.undeclared (travelling.read room), ok_bind, gathered,
    Members.foldl_insert (by simpa using travelling.ascending), List.nil_append]

/-- What is done with one member. -/
inductive Takes (shape : Shape σ α) (frame : Frame) (name : String) (draft : Draft) (filled : σ) :
    σ → Prop where
  | field {field : Field Problem Node σ} {next : σ}
      (declared : shape.record.field? name = some field)
      (read : field.read ⟨frame, draft⟩ filled = .ok next) :
      Takes shape frame name draft filled next
  | skipped (other : name ∉ shape.record.names) (skips : shape.others = .skipped) :
      Takes shape frame name draft filled filled
  | kept {store : String → Json → σ → σ} {value : Json} (other : name ∉ shape.record.names)
      (keeps : shape.others = .kept store) (read : draft.value frame = .ok value) :
      Takes shape frame name draft filled (store name value filled)

theorem takes_of_member {name : String} {draft : Draft} {filled next : σ}
    (read : shape.member name ⟨frame, draft⟩ filled = .ok next) :
    Takes shape frame name draft filled next := by
  unfold member at read
  split at read
  · rename_i field declared
    unfold Record.store at read
    split at read
    · cases read
    · exact .field declared read
  · rename_i other
    have other := field?_eq_none_iff.1 other
    split at read
    · rename_i skips
      obtain ⟨-, -, same⟩ := bind_eq_ok_iff.1 read
      obtain rfl := Except.ok.inj same
      exact .skipped other skips
    · cases read
    · rename_i store keeps
      obtain ⟨value, its, same⟩ := bind_eq_ok_iff.1 read
      obtain rfl := Except.ok.inj same
      exact .kept other keeps its

theorem gathered_of_members {members : List (Option String × Draft)} {filled next : σ}
    (read : shape.members frame members filled = .ok next) :
    Gathered (Takes shape frame) members filled next := by
  induction members generalizing filled with
  | nil =>
      obtain rfl := Except.ok.inj read
      exact .nil _
  | cons first rest ih =>
      obtain ⟨_ | name, draft⟩ := first
      · cases read
      · obtain ⟨middle, here, more⟩ := bind_eq_ok_iff.1 read
        exact .cons (takes_of_member here) (ih more)

/-- What each field and each other member preserves holds of the record in the end. -/
theorem members_preserve (shape : Shape σ α) {P : σ → Prop}
    (fields : ∀ field ∈ shape.record.fields, ∀ (draft : Draft) filled next, P filled →
      field.read ⟨frame, draft⟩ filled = .ok next → P next)
    (others : ∀ store, shape.others = .kept store → ∀ name (draft : Draft) value filled,
      name ∉ shape.record.names → draft.value frame = .ok value → P filled →
        P (store name value filled))
    {members : List (Option String × Draft)} {filled next : σ}
    (read : shape.members frame members filled = .ok next) (holds : P filled) : P next := by
  have gathered := gathered_of_members read
  clear read
  induction gathered with
  | nil filled => exact holds
  | cons first _ ih =>
      refine ih ?_
      cases first with
      | field declared read =>
          exact fields _ (List.mem_of_find?_eq_some declared) _ _ _ holds read
      | skipped => exact holds
      | kept other keeps read => exact others _ keeps _ _ _ _ other read holds

/-- The members that travel along after a reading are in order, have other names than the fields
and nest no deeper than the frame admits. -/
theorem travelling_of_members (shape : Shape σ α) {store : String → Json → σ → σ}
    (kept : shape.others = .kept store)
    (extra : σ → Members) (start : extra shape.empty = [])
    (stores : ∀ name value filled,
      extra (store name value filled) = (extra filled).insert name value)
    (fields : ∀ field ∈ shape.record.fields, ∀ node filled next,
      field.read node filled = .ok next → extra next = extra filled)
    (room : frame.Admits 0) {members : List (Option String × Draft)} {filled : σ}
    (read : shape.members frame members shape.empty = .ok filled) :
    Travelling shape (extra filled) ∧ frame.Admits (depthMembers (extra filled)) := by
  have each : Travelling shape (extra filled) ∧
      ∀ member ∈ extra filled, frame.Admits member.2.depth := by
    refine shape.members_preserve (P := fun filled => Travelling shape (extra filled) ∧
      ∀ member ∈ extra filled, frame.Admits member.2.depth) ?_ ?_ read ?_
    · intro field declared draft filled next holds read
      rwa [fields field declared _ filled next read]
    · intro other its name draft value filled undeclared read ⟨travelling, low⟩
      obtain rfl : other = store := Others.kept.inj (its.symm.trans kept)
      obtain ⟨ordered, admits⟩ := Draft.ordered_of_value room read
      rw [stores]
      refine ⟨travelling.insert undeclared ordered, fun member inside => ?_⟩
      rcases Members.mem_insert inside with rfl | before
      · exact admits
      · exact low member before
    · rw [start]
      exact ⟨.nil, by simp⟩
  exact ⟨each.1, room.depthMembers each.2⟩

/-- A record that keeps other members is read from an object. -/
theorem read_kept {store : String → Json → σ → σ} (kept : shape.others = .kept store)
    {draft : Draft} {message : α} (read : shape.read ⟨frame, draft⟩ = .ok message) :
    ∃ members inner filled, draft = .object members none ∧ frame.enter = .ok inner ∧
      shape.members inner members shape.empty = .ok filled ∧ shape.finish filled = .ok message := by
  have refused (wanted : Wanted) (draft : Draft) : refuse wanted draft ≠ (.ok message) := by
    intro impossible
    obtain ⟨found, -, impossible⟩ := bind_eq_ok_iff.1 impossible
    cases impossible
  cases draft with
  | object members halt =>
      obtain ⟨inner, entered, read⟩ := bind_eq_ok_iff.1 read
      obtain ⟨filled, gathered, read⟩ := bind_eq_ok_iff.1 read
      obtain ⟨done, checked, finished⟩ := bind_eq_ok_iff.1 read
      cases halt with
      | none => exact ⟨members, inner, filled, rfl, entered, gathered, finished⟩
      | some halt => cases checked
  | array items halt =>
      simp only [Shape.read, kept] at read
      exact absurd read (refused _ _)
  | _ => exact absurd read (refused _ _)

/-- The text of an exact value is decoded as the value is read. -/
theorem decode_compact {value : Json} (exact : value.Exact) :
    shape.decode value.compact = shape.read ⟨.whole, .ofValue value⟩ := by
  simp only [decode, compact, String.toList_ofList, Document.read_print exact, if_true]
  cases shape.read ⟨.whole, .ofValue value⟩ <;> rfl

theorem read_of_decode {text : String} {message : α} (decoded : shape.decode text = .ok message) :
    shape.read ⟨.whole, (Document.read text.toList).body⟩ = .ok message := by
  obtain ⟨value, read, rest⟩ := bind_eq_ok_iff.1 decoded
  split at rest
  · obtain rfl := Except.ok.inj rest
    exact read
  · cases rest

end Shape

end GuestPod.Json
