/-
This file ties each part of a record to the draft that it was read from, in whatever form the
record came.
-/

import Mathlib.Data.List.Nodup
import GuestPod.Proofs.Paths

namespace GuestPod.Json

open Decoding

/-- A scalar has nothing inside. -/
theorem Draft.enter?_string (s : String) (step : Step) : (Draft.string s).enter? step = none := by
  cases step <;> rfl

theorem Draft.enter?_number (n : Number) (step : Step) : (Draft.number n).enter? step = none := by
  cases step <;> rfl

theorem text_eq_ok {node : Node} {s : String} (read : node.text = .ok s) :
    node.draft = .string s := by
  unfold Node.text at read
  split at read
  · rename_i same
    rw [same, Except.ok.inj read]
  · obtain ⟨found, -, impossible⟩ := bind_eq_ok_iff.1 read
    cases impossible

theorem sameView_of_text {frame : Frame} {draft : Draft} {s : String}
    (read : Node.text ⟨frame, draft⟩ = .ok s) : SameView draft (.string s) := by
  rw [show draft = .string s from text_eq_ok read]
  exact fun path => rfl

theorem enter?_of_text {frame : Frame} {draft : Draft} {s : String}
    (read : Node.text ⟨frame, draft⟩ = .ok s) (step : Step) : draft.enter? step = none := by
  rw [show draft = .string s from text_eq_ok read, Draft.enter?_string]

theorem word_eq_ok {node : Node} {bits n : Nat} (read : node.word bits = .ok n) :
    node.draft = .number (.integer n) ∧ n < Text.wordBound bits := by
  unfold Node.word at read
  split at read
  · rename_i number same
    split at read
    · rename_i small
      obtain rfl := Except.ok.inj read
      exact ⟨by rw [same, Int.toNat_of_nonneg small.1], by omega⟩
    · cases read
  · obtain ⟨found, -, impossible⟩ := bind_eq_ok_iff.1 read
    cases impossible

/-- A number that is read as a word is the number of that word. -/
theorem uint32_eq_ok {node : Node} {word : UInt32}
    (read : UInt32.ofNat <$> node.word 32 = .ok word) :
    node.draft = .number (.integer word.toNat) := by
  obtain ⟨n, its, rfl⟩ := map_eq_ok_iff.1 read
  obtain ⟨same, small⟩ := word_eq_ok its
  rw [same, UInt32.toNat_ofNat_of_lt' small]

theorem enter?_of_uint32 {frame : Frame} {draft : Draft} {word : UInt32}
    (read : UInt32.ofNat <$> Node.word 32 ⟨frame, draft⟩ = .ok word) (step : Step) :
    draft.enter? step = none := by
  rw [show draft = .number (.integer word.toNat) from uint32_eq_ok read, Draft.enter?_number]

theorem list_eq_ok {α : Type} {item : Node → Except Problem α} {node : Node} {values : List α}
    (read : node.list item = .ok values) :
    ∃ items inner, node.draft = .array items none ∧
      List.Forall₂ (fun draft value => item ⟨inner, draft⟩ = .ok value) items values := by
  unfold Node.list at read
  split at read
  · rename_i items halt same
    obtain ⟨inner, -, read⟩ := bind_eq_ok_iff.1 read
    obtain ⟨gathered, all, read⟩ := bind_eq_ok_iff.1 read
    obtain ⟨done, checked, finished⟩ := bind_eq_ok_iff.1 read
    obtain rfl := Except.ok.inj finished
    cases halt with
    | none => exact ⟨items, inner, same, forall₂_of_mapM all⟩
    | some halt => cases checked
  · obtain ⟨found, -, impossible⟩ := bind_eq_ok_iff.1 read
    cases impossible

namespace Shape

variable {σ α β : Type} {shape : Shape σ α} {frame inner : Frame} {place : Nat} {name : String}
  {read : Node → Except Problem β} {get : σ → Option β}

/-- The items of a list under the names of the fields at their places. -/
def listed : List (Field Problem Node σ) → List Draft → List (Option String × Draft)
  | field :: fields, item :: items => (some field.name, item) :: listed fields items
  | _, _ => []

theorem listed_sublist (fields : List (Field Problem Node σ)) (items : List Draft) :
    ((listed fields items).filterMap (·.1)).Sublist (fields.map (·.name)) := by
  induction fields generalizing items with
  | nil => exact List.nil_sublist _
  | cons field fields ih =>
      cases items with
      | nil => exact List.nil_sublist _
      | cons item items => exact (ih items).cons_cons _

/-- The item at the place of a field stands under its name. -/
theorem named?_listed {fields : List (Field Problem Node σ)} (names : (fields.map (·.name)).Nodup)
    {field : Field Problem Node σ} (own : fields[place]? = some field) (items : List Draft) :
    Draft.named? field.name (listed fields items) = items[place]? := by
  induction fields generalizing place items with
  | nil => cases own
  | cons first fields ih =>
      obtain ⟨new, names⟩ := List.nodup_cons.1 names
      cases items with
      | nil => rfl
      | cons item items =>
          rw [listed, Draft.named?_cons]
          cases place with
          | zero =>
              obtain rfl := Option.some.inj own
              exact if_pos rfl
          | succ place =>
              have own : fields[place]? = some field := own
              rw [if_neg, ih names own items, List.getElem?_cons_succ]
              intro same
              exact new (List.mem_map.2
                ⟨field, List.mem_of_getElem? own, (Option.some.inj same).symm⟩)

/-- A list is read like the object that gives each item the name of its field. -/
theorem gathered_of_elements {halt : Option Halt} {length place : Nat}
    {fields : List (Field Problem Node σ)} {items : List Draft} {filled next : σ}
    (declared : ∀ field ∈ fields, shape.record.field? field.name = some field)
    (read : shape.elements frame halt length place fields items filled = .ok next) :
    Gathered (shape.Takes frame) (listed fields items) filled next := by
  induction items generalizing place fields filled with
  | nil =>
      have same : next = filled := by
        cases fields with
        | nil =>
            obtain ⟨-, -, same⟩ := bind_eq_ok_iff.1 read
            exact (Except.ok.inj same).symm
        | cons field fields =>
            obtain ⟨-, -, read⟩ := bind_eq_ok_iff.1 read
            split at read
            · exact (Except.ok.inj read).symm
            · cases read
      subst same
      cases fields <;> exact .nil _
  | cons item items ih =>
      cases fields with
      | nil => cases read
      | cons field fields =>
          obtain ⟨middle, taken, read⟩ := bind_eq_ok_iff.1 read
          exact .cons (.field (declared field (List.mem_cons_self ..)) taken)
            (ih (fun other inside => declared other (List.mem_cons_of_mem _ inside)) read)

theorem length_le_of_elements {halt : Option Halt} {length place : Nat}
    {fields : List (Field Problem Node σ)} {items : List Draft} {filled next : σ}
    (read : shape.elements frame halt length place fields items filled = .ok next) :
    items.length ≤ fields.length := by
  induction items generalizing place fields filled with
  | nil => exact Nat.zero_le _
  | cons item items ih =>
      cases fields with
      | nil => cases read
      | cons field fields =>
          obtain ⟨middle, taken, read⟩ := bind_eq_ok_iff.1 read
          exact Nat.succ_le_succ (ih read)

/-- A reading of a field that leaves the part of the record alone. -/
def Spares {β : Type} (get : σ → β) (field : Field Problem Node σ) : Prop :=
  ∀ node filled next, field.read node filled = .ok next → get next = get filled

/-- A part of a record that one field fills, and nothing else touches. -/
structure Slot (shape : Shape σ α) (place : Nat) (name : String)
    (read : Node → Except Problem β) (get : σ → Option β) : Prop where
  start : get shape.empty = none := by rfl
  names : shape.record.names.Nodup := by decide
  own : ∃ required set, shape.record.fields[place]? = some (field name required get set read) ∧
    ∀ value filled, get (set value filled) = some value := by exact ⟨_, _, rfl, fun _ _ => rfl⟩
  others : ∀ field ∈ shape.record.fields, field.name ≠ name → Spares get field
  kept : ∀ store, shape.others = .kept store → ∀ name value filled,
    get (store name value filled) = get filled

namespace Slot

/-- There is only one field of the name. -/
theorem reads_own (slot : shape.Slot place name read get) {field : Field Problem Node σ}
    (inside : field ∈ shape.record.fields) (its : field.name = name) {node : Node}
    {filled next : σ} (taken : field.read node filled = .ok next) :
    ∃ value, read node = .ok value ∧ get next = some value := by
  obtain ⟨required, set, own, gets⟩ := slot.own
  obtain rfl := List.inj_on_of_nodup_map slot.names inside (List.mem_of_getElem? own) its
  obtain ⟨value, read, rfl⟩ := field_read_eq_ok_iff.1 taken
  exact ⟨value, read, gets value filled⟩

/-- The part is filled from the member of the field's name. -/
theorem rel_of_gathered (slot : shape.Slot place name read get)
    {members : List (Option String × Draft)} {filled : σ}
    (names : (members.filterMap (·.1)).Nodup)
    (gathered : Gathered (shape.Takes frame) members shape.empty filled) :
    Option.Rel (fun draft value => read ⟨frame, draft⟩ = .ok value)
      (Draft.named? name members) (get filled) := by
  refine gathered.rel_of_watch get _ _ ?_ ?_ names slot.start
  · rintro draft filled next (⟨declared, taken⟩ | ⟨other⟩ | ⟨other⟩)
    · exact slot.reads_own (List.mem_of_find?_eq_some declared)
        (by simpa using List.find?_some declared) taken
    all_goals
      obtain ⟨required, set, own, -⟩ := slot.own
      exact absurd (List.mem_map_of_mem (List.mem_of_getElem? own)) other
  · intro other draft filled next differ takes
    cases takes with
    | @field field _ declared taken =>
        have its : field.name = other := by simpa using List.find?_some declared
        exact slot.others _ (List.mem_of_find?_eq_some declared) (its.trans_ne differ) _ _ _ taken
    | skipped => rfl
    | kept _ keeps _ => exact slot.kept _ keeps _ _ _

end Slot

theorem field?_of_mem (names : shape.record.names.Nodup) {field : Field Problem Node σ}
    (inside : field ∈ shape.record.fields) : shape.record.field? field.name = some field := by
  cases found : shape.record.field? field.name with
  | none => exact absurd (List.mem_map_of_mem inside) (field?_eq_none_iff.1 found)
  | some other =>
      have its : other.name = field.name := by simpa using List.find?_some found
      rw [List.inj_on_of_nodup_map names (List.mem_of_find?_eq_some found) inside its]

/-- Members that are no fields look the same after their reading. -/
theorem sameView_of_gathered (shape : Shape σ α) {store : String → Json → σ → σ}
    (kept : shape.others = .kept store)
    (extra : σ → Members) (start : extra shape.empty = [])
    (stores : ∀ name value filled,
      extra (store name value filled) = (extra filled).insert name value)
    (fields : ∀ field ∈ shape.record.fields, Spares extra field)
    {members : List (Option String × Draft)} {halt : Option Halt} {filled : σ}
    (distinct : (Draft.object members halt).Distinct)
    (gathered : Gathered (shape.Takes frame) members shape.empty filled)
    (undeclared : name ∉ shape.record.names) :
    Option.Rel SameView (Draft.named? name members) ((extra filled).get? name) := by
  have rel := gathered.rel_of_watch (fun filled => (extra filled).get? name) name
    (fun draft value => draft.value frame = .ok value) ?_ ?_ distinct.names
    (by rw [start, Members.get?_nil])
  · exact rel_imp rel fun draft value found read =>
      sameView_of_value (distinct.enter (.member name) found) read
  · intro draft filled next takes
    cases takes with
    | field declared _ =>
        rw [field?_eq_none_iff.2 undeclared] at declared
        cases declared
    | skipped _ skips => cases kept.symm.trans skips
    | kept _ keeps read =>
        cases kept.symm.trans keeps
        exact ⟨_, read, by rw [stores, Members.get?_insert, if_pos rfl]⟩
  · intro other draft filled next differ takes
    cases takes with
    | field declared taken =>
        rw [fields _ (List.mem_of_find?_eq_some declared) _ _ _ taken]
    | skipped => rfl
    | kept _ keeps _ =>
        cases kept.symm.trans keeps
        rw [stores, Members.get?_insert, if_neg differ]

theorem refuse_ne_ok {γ : Type} (wanted : Wanted) (draft : Draft) (value : γ) :
    refuse wanted draft ≠ .ok value := by
  intro impossible
  obtain ⟨found, -, impossible⟩ := bind_eq_ok_iff.1 impossible
  cases impossible

/--
A list has no more items than the record has fields.  In either form of a record, each part comes
from the field at its place or of its name.
-/
theorem slots_of_read {draft : Draft} {message : α} (names : shape.record.names.Nodup)
    (distinct : draft.Distinct) (read : shape.read ⟨frame, draft⟩ = .ok message) :
    (∀ items halt, draft = .array items halt → items.length ≤ shape.record.fields.length) ∧
    ∃ inner filled, shape.finish filled = .ok message ∧
      ∀ {β : Type} {place : Nat} {name : String} {read : Node → Except Problem β}
        {get : σ → Option β}, shape.Slot place name read get →
        Option.Rel (fun part value => read ⟨inner, part⟩ = .ok value)
          (draft.field? name place) (get filled) := by
  cases draft with
  | object members halt =>
      obtain ⟨inner, -, read⟩ := bind_eq_ok_iff.1 read
      obtain ⟨filled, gathered, read⟩ := bind_eq_ok_iff.1 read
      obtain ⟨-, -, finished⟩ := bind_eq_ok_iff.1 read
      exact ⟨by simp, inner, filled, finished, fun slot =>
        slot.rel_of_gathered distinct.names (gathered_of_members gathered)⟩
  | array items halt =>
      have plain : ∀ store, shape.others ≠ .kept store := by
        intro store keeps
        simp only [Shape.read, keeps] at read
        exact refuse_ne_ok _ _ _ read
      have read : (frame.enter >>= fun inner =>
          shape.elements inner halt items.length 0 shape.record.fields items shape.empty >>=
            shape.finish) = .ok message := by
        rw [← read]
        unfold Shape.read
        split <;> simp_all
      obtain ⟨inner, -, read⟩ := bind_eq_ok_iff.1 read
      obtain ⟨filled, gathered, finished⟩ := bind_eq_ok_iff.1 read
      have short := length_le_of_elements gathered
      have gathered := gathered_of_elements (fun _ => field?_of_mem names) gathered
      refine ⟨by rintro _ _ ⟨⟩; exact short, inner, filled, finished, fun slot => ?_⟩
      obtain ⟨required, set, own, -⟩ := slot.own
      have same := named?_listed names own items
      have rel := slot.rel_of_gathered (names.sublist (listed_sublist _ _)) gathered
      rw [field_name] at same
      rwa [same] at rel
  | _ => exact absurd read (refuse_ne_ok _ _ _)

end Shape

end GuestPod.Json
