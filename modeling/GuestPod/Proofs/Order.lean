/-
This file reads records whose members come in another order, or hold drafts that say the same.
-/

import GuestPod.Proofs.Slots

namespace GuestPod.Json

open Decoding

/-- Members of different names find their places in either order. -/
theorem Members.insert_comm {first second : String} (differ : first ≠ second) (one other : Json)
    (members : Members) :
    (members.insert first one).insert second other =
      (members.insert second other).insert first one := by
  induction members with
  | nil =>
      rcases lt_or_gt_of_ne differ with less | greater
      · simp [insert, differ, differ.symm, less, less.not_gt]
      · simp [insert, differ, differ.symm, greater, greater.not_gt]
  | cons member rest ih =>
      obtain ⟨name, value⟩ := member
      grind [insert]

/-- Whatever a reader makes of one draft, it makes of the other. -/
def SameTo {α : Type} (read : Node → Except Problem α) (draft other : Draft) : Prop :=
  ∀ ⦃frame value⦄, read ⟨frame, draft⟩ = .ok value → read ⟨frame, other⟩ = .ok value

/-- A value of any kind is read from its draft. -/
def Node.value (node : Node) : Except Problem Json :=
  node.draft.value node.frame

namespace SameTo

variable {α : Type} {read : Node → Except Problem α} {draft other third : Draft}

theorem refl (read : Node → Except Problem α) (draft : Draft) : SameTo read draft draft :=
  fun _ _ done => done

theorem trans (first : SameTo read draft other) (second : SameTo read other third) :
    SameTo read draft third :=
  fun _ _ done => second (first done)

end SameTo

/-- Two fields that fill different parts of a record. -/
structure Apart {σ : Type} (first second : Field Problem Node σ) : Prop where
  filled : ∀ {node filled next}, first.read node filled = .ok next →
    second.filled next = second.filled filled
  swap : ∀ {node other filled middle next}, first.read node filled = .ok middle →
    second.read other middle = .ok next →
      ∃ between, second.read other filled = .ok between ∧ first.read node between = .ok next

/-- A field and a store for all other members that fill different parts of a record. -/
structure Beside {σ : Type} (store : String → Json → σ → σ) (field : Field Problem Node σ) :
    Prop where
  filled : ∀ name value filled, field.filled (store name value filled) = field.filled filled
  swap : ∀ name value node filled,
    field.read node (store name value filled) = store name value <$> field.read node filled

section Field

variable {σ β γ : Type} {name label : String} {required needed : Bool} {get : σ → Option β}
  {set : β → σ → σ} {read : Node → Except Problem β} {look : σ → Option γ} {put : γ → σ → σ}
  {take : Node → Except Problem γ}

theorem apart_field (gets : ∀ value filled, look (set value filled) = look filled)
    (sets : ∀ value other filled, put other (set value filled) = set value (put other filled)) :
    Apart (field name required get set read) (field label needed look put take) where
  filled taken := by
    obtain ⟨value, -, rfl⟩ := field_read_eq_ok_iff.1 taken
    exact congrArg Option.isSome (gets _ _)
  swap taken given := by
    obtain ⟨value, its, rfl⟩ := field_read_eq_ok_iff.1 taken
    obtain ⟨other, there, rfl⟩ := field_read_eq_ok_iff.1 given
    exact ⟨put other _, field_read_eq_ok_iff.2 ⟨other, there, rfl⟩,
      field_read_eq_ok_iff.2 ⟨value, its, (sets value other _).symm⟩⟩

theorem beside_field {store : String → Json → σ → σ}
    (gets : ∀ name value filled, get (store name value filled) = get filled)
    (sets : ∀ name value part filled,
      set part (store name value filled) = store name value (set part filled)) :
    Beside store (field name required get set read) where
  filled _ _ _ := congrArg Option.isSome (gets _ _ _)
  swap label value node filled := by
    cases its : read node <;> simp [field, its, sets, Functor.map, Except.map]

theorem sameTo_field {draft other : Draft} (same : SameTo read draft other) (filled : σ) :
    SameTo (fun node => (field name required get set read).read node filled) draft other := by
  intro frame next taken
  obtain ⟨value, its, rfl⟩ := field_read_eq_ok_iff.1 taken
  exact field_read_eq_ok_iff.2 ⟨value, same its, rfl⟩

end Field

namespace Shape

variable {σ α : Type} {shape : Shape σ α} {frame : Frame} {name : String} {draft other : Draft}
  {filled next : σ} {members others : List (Option String × Draft)}

theorem member_declared {field : Field Problem Node σ}
    (declared : shape.record.field? name = some field) :
    shape.member name ⟨frame, draft⟩ filled = .ok next ↔
      field.filled filled = false ∧ field.read ⟨frame, draft⟩ filled = .ok next := by
  rw [member, declared]
  simp only [Record.store]
  split <;> simp_all

theorem member_skipped (undeclared : shape.record.field? name = none)
    (skips : shape.others = .skipped) :
    shape.member name ⟨frame, draft⟩ filled = .ok next ↔
      draft.skip = .ok () ∧ filled = next := by
  rw [member, undeclared]
  simp only [skips, unit_bind_eq_ok_iff, pure_eq_ok, Except.ok.injEq]

theorem member_kept {store : String → Json → σ → σ}
    (undeclared : shape.record.field? name = none) (keeps : shape.others = .kept store) :
    shape.member name ⟨frame, draft⟩ filled = .ok next ↔
      ∃ value, draft.value frame = .ok value ∧ store name value filled = next := by
  rw [member, undeclared]
  simp [keeps, bind_eq_ok_iff]

theorem field_of_declared {field : Field Problem Node σ}
    (declared : shape.record.field? name = some field) :
    field ∈ shape.record.fields ∧ field.name = name :=
  ⟨List.mem_of_find?_eq_some declared, by simpa using List.find?_some declared⟩

/-- A member of the one name and a member of the other are taken in either order. -/
def Swaps (shape : Shape σ α) (first second : String) : Prop :=
  ∀ ⦃frame one other filled middle next⦄, shape.member first ⟨frame, one⟩ filled = .ok middle →
    shape.member second ⟨frame, other⟩ middle = .ok next →
      ∃ between, shape.member second ⟨frame, other⟩ filled = .ok between ∧
        shape.member first ⟨frame, one⟩ between = .ok next

section Swaps

variable {first second : String} {field another : Field Problem Node σ}
  {store : String → Json → σ → σ}

theorem swaps_fields (here : shape.record.field? first = some field)
    (there : shape.record.field? second = some another) (apart : Apart field another)
    (back : Apart another field) : shape.Swaps first second := by
  intro frame one other filled middle next taken given
  obtain ⟨free, read⟩ := (member_declared here).1 taken
  obtain ⟨empty, reads⟩ := (member_declared there).1 given
  obtain ⟨between, before, after⟩ := apart.swap read reads
  refine ⟨between, (member_declared there).2 ⟨?_, before⟩, (member_declared here).2 ⟨?_, after⟩⟩
  · rw [← apart.filled read, empty]
  · rw [back.filled before, free]

theorem swaps_skipped_first (undeclared : shape.record.field? first = none)
    (skips : shape.others = .skipped) : shape.Swaps first second := by
  intro frame one other filled middle next taken given
  obtain ⟨skip, rfl⟩ := (member_skipped undeclared skips).1 taken
  exact ⟨next, given, (member_skipped undeclared skips).2 ⟨skip, rfl⟩⟩

theorem swaps_skipped_second (undeclared : shape.record.field? second = none)
    (skips : shape.others = .skipped) : shape.Swaps first second := by
  intro frame one other filled middle next taken given
  obtain ⟨skip, rfl⟩ := (member_skipped undeclared skips).1 given
  exact ⟨filled, (member_skipped undeclared skips).2 ⟨skip, rfl⟩, taken⟩

theorem swaps_field_kept (here : shape.record.field? first = some field)
    (there : shape.record.field? second = none) (keeps : shape.others = .kept store)
    (beside : Beside store field) : shape.Swaps first second := by
  intro frame one other filled middle next taken given
  obtain ⟨free, read⟩ := (member_declared here).1 taken
  obtain ⟨value, its, rfl⟩ := (member_kept there keeps).1 given
  refine ⟨store second value filled, (member_kept there keeps).2 ⟨value, its, rfl⟩,
    (member_declared here).2 ⟨?_, ?_⟩⟩
  · rw [beside.filled, free]
  · rw [beside.swap, read, map_ok]

theorem swaps_kept_field (here : shape.record.field? first = none)
    (there : shape.record.field? second = some another) (keeps : shape.others = .kept store)
    (beside : Beside store another) : shape.Swaps first second := by
  intro frame one other filled middle next taken given
  obtain ⟨value, its, rfl⟩ := (member_kept here keeps).1 taken
  obtain ⟨empty, reads⟩ := (member_declared there).1 given
  rw [beside.filled] at empty
  rw [beside.swap, map_eq_ok_iff] at reads
  obtain ⟨between, reads, rfl⟩ := reads
  exact ⟨between, (member_declared there).2 ⟨empty, reads⟩,
    (member_kept here keeps).2 ⟨value, its, rfl⟩⟩

theorem swaps_kept (here : shape.record.field? first = none)
    (there : shape.record.field? second = none) (keeps : shape.others = .kept store)
    (stores : ∀ one other filled,
      store second other (store first one filled) = store first one (store second other filled)) :
    shape.Swaps first second := by
  intro frame one other filled middle next taken given
  obtain ⟨value, its, rfl⟩ := (member_kept here keeps).1 taken
  obtain ⟨another, reads, rfl⟩ := (member_kept there keeps).1 given
  rw [stores]
  exact ⟨store second another filled, (member_kept there keeps).2 ⟨another, reads, rfl⟩,
    (member_kept here keeps).2 ⟨value, its, rfl⟩⟩

theorem swaps_refused (undeclared : shape.record.field? first = none ∨
    shape.record.field? second = none) (refuses : shape.others = .refused) :
    shape.Swaps first second := by
  intro frame one other filled middle next taken given
  rcases undeclared with here | there
  · simp [member, here, refuses] at taken
  · simp [member, there, refuses] at given

end Swaps

/-- Members of different names are taken in either order. -/
def Orderless (shape : Shape σ α) : Prop :=
  ∀ first second, first ≠ second → shape.Swaps first second

theorem orderless_of_apart
    (fields : ∀ first ∈ shape.record.fields, ∀ second ∈ shape.record.fields,
      first.name ≠ second.name → Apart first second)
    (beside : ∀ store, shape.others = .kept store →
      ∀ field ∈ shape.record.fields, Beside store field)
    (stores : ∀ store, shape.others = .kept store → ∀ {first second : String}, first ≠ second →
      ∀ one other filled,
        store second other (store first one filled) = store first one (store second other filled)) :
    shape.Orderless := by
  intro first second differ
  cases here : shape.record.field? first with
  | some field =>
      obtain ⟨inside, rfl⟩ := field_of_declared here
      cases there : shape.record.field? second with
      | some another =>
          obtain ⟨within, rfl⟩ := field_of_declared there
          exact swaps_fields here there (fields _ inside _ within differ)
            (fields _ within _ inside differ.symm)
      | none =>
          cases keeps : shape.others with
          | skipped => exact swaps_skipped_second there keeps
          | refused => exact swaps_refused (.inr there) keeps
          | kept store => exact swaps_field_kept here there keeps (beside store keeps _ inside)
  | none =>
      cases keeps : shape.others with
      | skipped => exact swaps_skipped_first here keeps
      | refused => exact swaps_refused (.inl here) keeps
      | kept store =>
          cases there : shape.record.field? second with
          | some another =>
              obtain ⟨within, rfl⟩ := field_of_declared there
              exact swaps_kept_field here there keeps (beside store keeps _ within)
          | none => exact swaps_kept here there keeps (stores store keeps differ)

/-- The members of a record may come in any order. -/
theorem Orderless.members_perm (orderless : shape.Orderless) (perm : members.Perm others)
    (names : (members.filterMap (·.1)).Nodup)
    (read : shape.members frame members filled = .ok next) :
    shape.members frame others filled = .ok next := by
  induction perm generalizing filled with
  | nil => exact read
  | cons member _ ih =>
      obtain ⟨_ | name, draft⟩ := member
      · cases read
      · obtain ⟨middle, first, read⟩ := bind_eq_ok_iff.1 read
        exact bind_eq_ok_iff.2 ⟨middle, first, ih (List.nodup_cons.1 names).2 read⟩
  | swap one other rest =>
      obtain ⟨_ | first, draft⟩ := other
      · cases read
      obtain ⟨middle, taken, read⟩ := bind_eq_ok_iff.1 read
      obtain ⟨_ | second, part⟩ := one
      · cases read
      obtain ⟨last, given, read⟩ := bind_eq_ok_iff.1 read
      -- Two neighbours change places; here alone the names have to differ.
      have differ : first ≠ second := by
        rintro rfl
        simp at names
      obtain ⟨between, given, taken⟩ := orderless _ _ differ taken given
      exact bind_eq_ok_iff.2 ⟨between, given, bind_eq_ok_iff.2 ⟨last, taken, read⟩⟩
  | trans first _ ih again =>
      exact again ((first.filterMap _).nodup_iff.1 names) (ih names read)

/-- An object reads like another one whose members do. -/
theorem sameTo_of_members {halt : Option Halt} (same : ∀ frame filled next,
      shape.members frame members filled = .ok next →
        shape.members frame others filled = .ok next) :
    SameTo shape.read (.object members halt) (.object others halt) := by
  intro frame value read
  obtain ⟨inner, entered, read⟩ := bind_eq_ok_iff.1 read
  obtain ⟨filled, gathered, finished⟩ := bind_eq_ok_iff.1 read
  exact bind_eq_ok_iff.2 ⟨inner, entered, bind_eq_ok_iff.2 ⟨filled, same _ _ _ gathered, finished⟩⟩

theorem Orderless.sameTo_of_perm (orderless : shape.Orderless) {halt : Option Halt}
    (perm : members.Perm others) (names : (members.filterMap (·.1)).Nodup) :
    SameTo shape.read (.object members halt) (.object others halt) :=
  sameTo_of_members fun _ _ _ => orderless.members_perm perm names

/-- What is made of a member depends on its field, or on what is done with other members. -/
theorem sameTo_member
    (fields : ∀ field ∈ shape.record.fields, field.name = name →
      ∀ filled, SameTo (fun node => field.read node filled) draft other)
    (skips : shape.others = .skipped → draft.skip = .ok () → other.skip = .ok ())
    (keeps : ∀ store, shape.others = .kept store → name ∉ shape.record.names →
      SameTo Node.value draft other) (filled : σ) :
    SameTo (fun node => shape.member name node filled) draft other := by
  intro frame next taken
  cases declared : shape.record.field? name with
  | some field =>
      obtain ⟨inside, its⟩ := field_of_declared declared
      obtain ⟨free, read⟩ := (member_declared declared).1 taken
      exact (member_declared declared).2 ⟨free, fields field inside its filled read⟩
  | none =>
      cases treats : shape.others with
      | skipped =>
          obtain ⟨skip, same⟩ := (member_skipped declared treats).1 taken
          exact (member_skipped declared treats).2 ⟨skips treats skip, same⟩
      | refused => simp [member, declared, treats] at taken
      | kept store =>
          obtain ⟨value, its, same⟩ := (member_kept declared treats).1 taken
          exact (member_kept declared treats).2
            ⟨value, keeps store treats (field?_eq_none_iff.1 declared) its, same⟩

/-- One member gives way to another that says the same. -/
theorem sameTo_of_member {before after : List (Option String × Draft)} {halt : Option Halt}
    (same : ∀ filled, SameTo (fun node => shape.member name node filled) draft other) :
    SameTo shape.read (.object (before ++ (some name, draft) :: after) halt)
      (.object (before ++ (some name, other) :: after) halt) := by
  refine sameTo_of_members fun frame filled next read => ?_
  rw [members_append] at read ⊢
  obtain ⟨middle, front, read⟩ := bind_eq_ok_iff.1 read
  obtain ⟨last, taken, back⟩ := bind_eq_ok_iff.1 read
  exact bind_eq_ok_iff.2 ⟨middle, front, bind_eq_ok_iff.2 ⟨last, same middle taken, back⟩⟩

/-- A member whose name holds half a surrogate pair is not read. -/
theorem sameTo_of_unnamed {before after : List (Option String × Draft)} {halt : Option Halt} :
    SameTo shape.read (.object (before ++ (none, draft) :: after) halt)
      (.object (before ++ (none, other) :: after) halt) := by
  refine sameTo_of_members fun frame filled next read => ?_
  rw [members_append] at read
  obtain ⟨middle, -, impossible⟩ := bind_eq_ok_iff.1 read
  cases impossible

theorem elements_congr {halt : Option Halt} {length place : Nat}
    {fields : List (Field Problem Node σ)} {before after : List Draft}
    (same : ∀ field ∈ fields, ∀ filled,
      SameTo (fun node => field.read node filled) draft other)
    (read : shape.elements frame halt length place fields (before ++ draft :: after) filled =
      .ok next) :
    shape.elements frame halt length place fields (before ++ other :: after) filled = .ok next := by
  induction before generalizing place fields filled with
  | nil =>
      cases fields with
      | nil => cases read
      | cons field fields =>
          obtain ⟨middle, taken, read⟩ := bind_eq_ok_iff.1 read
          exact bind_eq_ok_iff.2 ⟨middle, same field List.mem_cons_self filled taken, read⟩
  | cons item before ih =>
      cases fields with
      | nil => cases read
      | cons field fields =>
          obtain ⟨middle, taken, read⟩ := bind_eq_ok_iff.1 read
          exact bind_eq_ok_iff.2 ⟨middle, taken,
            ih (fun field inside => same field (List.mem_cons_of_mem _ inside)) read⟩

theorem read_array (skips : shape.others = .skipped) (items : List Draft) (halt : Option Halt) :
    shape.read ⟨frame, .array items halt⟩ = (frame.enter >>= fun inner =>
      shape.elements inner halt items.length 0 shape.record.fields items shape.empty >>=
        shape.finish) := by
  simp only [read, skips]

theorem sameTo_of_item (skips : shape.others = .skipped) {before after : List Draft}
    {halt : Option Halt} (same : ∀ field ∈ shape.record.fields, ∀ filled,
      SameTo (fun node => field.read node filled) draft other) :
    SameTo shape.read (.array (before ++ draft :: after) halt)
      (.array (before ++ other :: after) halt) := by
  intro frame value read
  rw [read_array skips] at read ⊢
  obtain ⟨inner, entered, read⟩ := bind_eq_ok_iff.1 read
  obtain ⟨filled, gathered, finished⟩ := bind_eq_ok_iff.1 read
  have again := elements_congr same gathered
  rw [List.length_append, List.length_cons] at again ⊢
  exact bind_eq_ok_iff.2 ⟨inner, entered, bind_eq_ok_iff.2 ⟨filled, again, finished⟩⟩

/-- A record that keeps other members is not read from a list. -/
theorem sameTo_of_array {store : String → Json → σ → σ} (keeps : shape.others = .kept store)
    {items : List Draft} {halt : Option Halt} : SameTo shape.read (.array items halt) other := by
  intro frame value read
  obtain ⟨_, _, _, impossible, -⟩ := read_kept keeps read
  cases impossible

end Shape

section List

variable {α : Type} {draft other : Draft}

theorem mapM_congr {read : Draft → Except Problem α} {before after : List Draft} {values : List α}
    (same : ∀ value, read draft = .ok value → read other = .ok value)
    (all : (before ++ draft :: after).mapM read = .ok values) :
    (before ++ other :: after).mapM read = .ok values := by
  rw [List.mapM_append] at all ⊢
  obtain ⟨front, first, all⟩ := bind_eq_ok_iff.1 all
  obtain ⟨back, rest, finished⟩ := bind_eq_ok_iff.1 all
  rw [List.mapM_cons] at rest
  obtain ⟨value, its, rest⟩ := bind_eq_ok_iff.1 rest
  refine bind_eq_ok_iff.2 ⟨front, first, bind_eq_ok_iff.2 ⟨back, ?_, finished⟩⟩
  rw [List.mapM_cons]
  exact bind_eq_ok_iff.2 ⟨value, same value its, rest⟩

theorem sameTo_list {item : Node → Except Problem α} {before after : List Draft}
    {halt : Option Halt} (same : SameTo item draft other) :
    SameTo (Node.list item) (.array (before ++ draft :: after) halt)
      (.array (before ++ other :: after) halt) := by
  intro frame values read
  obtain ⟨inner, entered, read⟩ := bind_eq_ok_iff.1 read
  obtain ⟨gathered, all, finished⟩ := bind_eq_ok_iff.1 read
  exact bind_eq_ok_iff.2 ⟨inner, entered,
    bind_eq_ok_iff.2 ⟨gathered, mapM_congr (fun _ => (same ·)) all, finished⟩⟩

theorem sameTo_list_of_object {item : Node → Except Problem α}
    {members : List (Option String × Draft)} {halt : Option Halt} :
    SameTo (Node.list item) (.object members halt) other := by
  intro frame values read
  exact absurd read (Shape.refuse_ne_ok _ _ _)

end List

/-- An object of no kind is a record without fields. -/
def Members.shape : Shape Members Members where
  record := { name := "", fields := [], fault := .mismatch }
  empty := []
  others := .kept fun name value done => done.insert name value
  finish := .ok

theorem Members.orderless : shape.Orderless :=
  Shape.orderless_of_apart (by simp [shape]) (by simp [shape]) (by
    rintro store ⟨⟩ first second differ one other done
    exact insert_comm differ one other done)

theorem memberValues_eq_members (frame : Frame) (done : Members)
    (members : List (Option String × Draft)) :
    memberValues frame done members = Members.shape.members frame members done := by
  induction members generalizing done with
  | nil => rfl
  | cons member rest ih =>
      obtain ⟨_ | name, draft⟩ := member
      · rfl
      · simp only [memberValues, memberValue, Shape.members, Shape.member, Record.field?,
          Members.shape, List.find?_nil]
        cases draft.value frame with
        | error problem => rfl
        | ok value => exact ih _

theorem value_object (frame : Frame) (members : List (Option String × Draft))
    (halt : Option Halt) :
    Node.value ⟨frame, .object members halt⟩ =
      Json.object <$> Members.shape.read ⟨frame, .object members halt⟩ := by
  simp only [Node.value, Draft.value, Shape.read, memberValues_eq_members,
    show Members.shape.empty = [] from rfl]
  cases frame.enter with
  | error problem => rfl
  | ok inner =>
      simp only [ok_bind]
      cases Members.shape.members inner members [] with
      | error problem => rfl
      | ok values => cases halt <;> rfl

theorem sameTo_value_of_object {members others : List (Option String × Draft)}
    {halt : Option Halt}
    (same : SameTo Members.shape.read (.object members halt) (.object others halt)) :
    SameTo Node.value (.object members halt) (.object others halt) := by
  intro frame value read
  rw [value_object, map_eq_ok_iff] at read ⊢
  obtain ⟨values, gathered, its⟩ := read
  exact ⟨values, same gathered, its⟩

theorem sameTo_value_of_item {draft other : Draft} {before after : List Draft}
    {halt : Option Halt} (same : SameTo Node.value draft other) :
    SameTo Node.value (.array (before ++ draft :: after) halt)
      (.array (before ++ other :: after) halt) := by
  intro frame value read
  obtain ⟨inner, entered, read⟩ := bind_eq_ok_iff.1 read
  obtain ⟨values, all, finished⟩ := bind_eq_ok_iff.1 read
  refine bind_eq_ok_iff.2 ⟨inner, entered, bind_eq_ok_iff.2 ⟨values, ?_, finished⟩⟩
  rw [itemValues_eq_mapM] at all ⊢
  exact mapM_congr (fun _ => (same ·)) all

namespace Draft

/-- A list is skipped when every value in it is. -/
theorem skip_array {items : List Draft} :
    (array items none).skip = .ok () ↔ ∀ item ∈ items, item.skip = .ok () := by
  have all : skipItems items = .ok () ↔ ∀ item ∈ items, item.skip = .ok () := by
    induction items with
    | nil => simp [skipItems]
    | cons item rest ih =>
        rw [skipItems, List.forall_mem_cons, ← ih, unit_bind_eq_ok_iff]
  rw [← all, skip]
  cases skipItems items <;> simp

theorem skip_object {members : List (Option String × Draft)} :
    (object members none).skip = .ok () ↔ ∀ member ∈ members, member.2.skip = .ok () := by
  have all : skipMembers members = .ok () ↔ ∀ member ∈ members, member.2.skip = .ok () := by
    induction members with
    | nil => simp [skipMembers]
    | cons member rest ih =>
        rw [skipMembers, List.forall_mem_cons, ← ih, unit_bind_eq_ok_iff, skipMember]
  rw [← all, skip]
  cases skipMembers members <;> simp

theorem eq_string_of_kind {draft : Draft} {s : String} (same : draft.kind = .string s) :
    draft = .string s := by
  cases draft <;> cases same
  rfl

theorem eq_number_of_kind {draft : Draft} {n : Number} (same : draft.kind = .number n) :
    draft = .number n := by
  cases draft <;> cases same
  rfl

theorem named?_of_mem {members : List (Option String × Draft)}
    (names : (members.filterMap (·.1)).Nodup) {name : String} {draft : Draft}
    (inside : (some name, draft) ∈ members) : named? name members = some draft := by
  induction members with
  | nil => cases inside
  | cons member rest ih =>
      obtain ⟨other, first⟩ := member
      rw [named?_cons]
      rcases List.mem_cons.1 inside with same | later
      · cases same
        exact if_pos rfl
      · have apart : other ≠ some name := by
          rintro rfl
          exact (List.nodup_cons.1 names).1 (List.mem_filterMap.2 ⟨_, later, rfl⟩)
        rw [if_neg apart]
        refine ih ?_ later
        cases other with
        | none => exact names
        | some other => exact (List.nodup_cons.1 names).2

theorem distinct_object_iff {members : List (Option String × Draft)} {halt : Option Halt} :
    (object members halt).Distinct ↔ (members.filterMap (·.1)).Nodup ∧
      ∀ name draft, (some name, draft) ∈ members → draft.Distinct := by
  constructor
  · intro distinct
    exact ⟨distinct.names, fun name draft inside =>
      distinct.enter (.member name) (named?_of_mem distinct.names inside)⟩
  · rintro ⟨names, within⟩
    refine distinct_of_enter ?_ ?_
    · rintro _ _ ⟨⟩
      exact names
    · rintro (name | place) draft entered
      · exact within name draft (mem_of_named? entered)
      · cases entered

theorem distinct_array_iff {items : List Draft} {halt : Option Halt} :
    (array items halt).Distinct ↔ ∀ item ∈ items, item.Distinct := by
  refine ⟨fun distinct item inside => ?_, distinct_array⟩
  obtain ⟨place, found⟩ := List.mem_iff_getElem?.1 inside
  exact distinct.enter (.item place) found

end Draft

end GuestPod.Json
