/-
This file looks into drafts along paths.  Two drafts that look the same along every path hold the
same value, up to the order of members.
-/

import Mathlib.Data.List.Forall2
import GuestPod.Proofs.Shapes

namespace GuestPod.Json

/-- A step leads to a member of an object or to an item of a list. -/
inductive Step where
  | member (name : String)
  | item (place : Nat)
  deriving DecidableEq, Repr

/-- What is seen of a draft from outside: a scalar, the length of a list, or no more than that
there is an object. -/
inductive Kind where
  | null
  | boolean (b : Bool)
  | number (n : Number)
  | string (s : String)
  | array (length : Nat)
  | object
  | faulty
  deriving DecidableEq, Repr

/-- Names that grow do not repeat. -/
theorem Members.Ascending.names {members : Members} (ascending : members.Ascending) :
    (members.map (·.1)).Nodup :=
  List.pairwise_map.2 (ascending.imp ne_of_lt)

namespace Draft

def kind : Draft → Kind
  | .null => .null
  | .boolean b => .boolean b
  | .number n => .number n
  | .string s => .string s
  | .array items _ => .array items.length
  | .object _ _ => .object
  | .tooGreat | .unpaired | .halted _ => .faulty

def named? (name : String) (members : List (Option String × Draft)) : Option Draft :=
  (members.find? (·.1 = some name)).map (·.2)

def enter? : Draft → Step → Option Draft
  | .object members _, .member name => named? name members
  | .array items _, .item place => items[place]?
  | _, _ => none

def at? : Draft → List Step → Option Draft
  | draft, [] => some draft
  | draft, step :: path => (draft.enter? step).bind fun inner => inner.at? path

def view (draft : Draft) (path : List Step) : Option Kind :=
  (draft.at? path).map kind

/-- A field of a record is a member of an object, or the item at its place in a list. -/
def field? (name : String) (place : Nat) : Draft → Option Draft
  | .object members _ => named? name members
  | .array items _ => items[place]?
  | _ => none

def fieldView (draft : Draft) (path : List Step) (name : String) (place : Nat) : Option Kind :=
  ((draft.at? path).bind (field? name place)).map kind

/-- No name is repeated in any object. -/
def Distinct (draft : Draft) : Prop :=
  ∀ path members halt, draft.at? path = some (.object members halt) →
    (members.filterMap (·.1)).Nodup

@[simp] theorem named?_cons (name : String) (other : Option String) (draft : Draft)
    (rest : List (Option String × Draft)) :
    named? name ((other, draft) :: rest) =
      if other = some name then some draft else named? name rest := by
  by_cases same : other = some name <;> simp [named?, same]

theorem mem_of_named? {name : String} {members : List (Option String × Draft)} {draft : Draft}
    (found : named? name members = some draft) : (some name, draft) ∈ members := by
  induction members with
  | nil => cases found
  | cons member rest ih =>
      obtain ⟨other, first⟩ := member
      rw [named?_cons] at found
      split at found
      · rename_i same
        cases same
        cases found
        exact List.mem_cons_self ..
      · exact List.mem_cons_of_mem _ (ih found)

@[simp] theorem view_nil (draft : Draft) : draft.view [] = some draft.kind := rfl

theorem view_cons (draft : Draft) (step : Step) (path : List Step) :
    draft.view (step :: path) = (draft.enter? step).bind fun inner => inner.view path := by
  rw [view, at?, Option.map_bind]
  rfl

theorem exists_of_view_cons {draft : Draft} {step : Step} {path : List Step}
    (seen : draft.view (step :: path) ≠ none) :
    ∃ part, draft.enter? step = some part ∧ part.view path ≠ none := by
  rw [view_cons] at seen
  cases entered : draft.enter? step with
  | none => simp [entered] at seen
  | some part => exact ⟨part, rfl, by simpa [entered] using seen⟩

theorem at?_one (draft : Draft) (step : Step) : draft.at? [step] = draft.enter? step := by
  simp [at?]

theorem at?_two (draft : Draft) (first second : Step) :
    draft.at? [first, second] = (draft.enter? first).bind fun inner => inner.enter? second := by
  simp [at?]

/-- In a record whose fields are scalars, a member that is seen is a field, or it is no field or
stands below one that is none. -/
theorem path_of_seen {draft : Draft} {names : List String}
    (short : ∀ items halt, draft = .array items halt → items.length ≤ names.length)
    (scalar : ∀ place name, names[place]? = some name → ∀ part,
      draft.field? name place = some part → ∀ step, part.enter? step = none)
    {path : List Step} {name : String} (seen : draft.view (path ++ [.member name]) ≠ none) :
    (path = [] ∧ name ∈ names) ∨
      ∃ undeclared ∉ names, ∃ rest, path ++ [.member name] = .member undeclared :: rest := by
  rcases path with _ | ⟨step, rest⟩
  · by_cases declared : name ∈ names
    · exact .inl ⟨rfl, declared⟩
    · exact .inr ⟨name, declared, [], rfl⟩
  obtain ⟨part, entered, seen⟩ := exists_of_view_cons seen
  have closed (place : Nat) (given : String) (its : names[place]? = some given)
      (found : draft.field? given place = some part) : False := by
    refine seen ?_
    cases rest <;> simp [view_cons, scalar place given its part found]
  cases step with
  | member given =>
      refine .inr ⟨given, fun declared => ?_, _, rfl⟩
      obtain ⟨place, its⟩ := List.mem_iff_getElem?.1 declared
      cases draft with
      | object members halt => exact closed place given its entered
      | _ => cases entered
  | item place =>
      cases draft with
      | array items halt =>
          have within : place < items.length := (List.getElem?_eq_some_iff.1 entered).1
          have its := List.getElem?_eq_getElem (within.trans_le (short items halt rfl))
          exact (closed place _ its entered).elim
      | _ => cases entered

section Distinct

variable {draft inner : Draft}

theorem Distinct.enter (distinct : draft.Distinct) (step : Step)
    (entered : draft.enter? step = some inner) : inner.Distinct := by
  intro path members halt found
  exact distinct (step :: path) members halt (by rw [at?, entered]; exact found)

theorem Distinct.names {members : List (Option String × Draft)} {halt : Option Halt}
    (distinct : (object members halt).Distinct) : (members.filterMap (·.1)).Nodup :=
  distinct [] members halt rfl

theorem distinct_of_enter
    (names : ∀ members halt, draft = .object members halt → (members.filterMap (·.1)).Nodup)
    (inside : ∀ step inner, draft.enter? step = some inner → inner.Distinct) :
    draft.Distinct := by
  intro path members halt found
  cases path with
  | nil => exact names members halt (Option.some.inj found)
  | cons step path =>
      obtain ⟨inner, entered, found⟩ := Option.bind_eq_some_iff.1 found
      exact inside step inner entered path members halt found

theorem distinct_object {members : List (Option String × Draft)} {halt : Option Halt}
    (names : (members.filterMap (·.1)).Nodup)
    (inside : ∀ member ∈ members, member.2.Distinct) : (object members halt).Distinct := by
  refine distinct_of_enter ?_ ?_
  · rintro _ _ ⟨⟩
    exact names
  · rintro (name | place) inner entered
    · exact inside _ (mem_of_named? entered)
    · cases entered

theorem distinct_array {items : List Draft} {halt : Option Halt}
    (inside : ∀ item ∈ items, item.Distinct) : (array items halt).Distinct := by
  refine distinct_of_enter (by simp) ?_
  rintro (name | place) inner entered
  · cases entered
  · exact inside _ (List.mem_of_getElem? entered)

end Distinct

section OfValue

@[simp] theorem named?_ofMembers (name : String) (members : Members) :
    named? name (ofMembers members) = (Members.get? name members).map ofValue := by
  induction members with
  | nil => rfl
  | cons member rest ih =>
      obtain ⟨other, value⟩ := member
      rw [ofMembers, ofMember, named?_cons, Members.get?_cons, ih]
      by_cases same : other = name <;> simp [same]

@[simp] theorem getElem?_ofItems (items : List Json) (place : Nat) :
    (ofItems items)[place]? = items[place]?.map ofValue := by
  rw [ofItems_eq_map, List.getElem?_map]

@[simp] theorem enter?_object (members : Members) (name : String) :
    (ofValue (.object members)).enter? (.member name) =
      (Members.get? name members).map ofValue := by
  rw [ofValue, enter?, named?_ofMembers]

@[simp] theorem enter?_array (items : List Json) (place : Nat) :
    (ofValue (.array items)).enter? (.item place) = items[place]?.map ofValue := by
  rw [ofValue, enter?, getElem?_ofItems]

@[simp] theorem kind_array (items : List Json) :
    (ofValue (.array items)).kind = .array items.length := by
  simp [ofValue, kind, ofItems_eq_map]

theorem names_ofMembers (members : Members) :
    (ofMembers members).filterMap (·.1) = members.map (·.1) := by
  rw [ofMembers_eq_map, List.filterMap_map]
  exact congrFun (List.filterMap_eq_map (f := Prod.fst)) members

theorem distinct_ofValue_object {members : Members} (names : (members.map (·.1)).Nodup)
    (inside : ∀ member ∈ members, (ofValue member.2).Distinct) :
    (ofValue (.object members)).Distinct := by
  rw [ofValue]
  refine distinct_object (by rwa [names_ofMembers]) ?_
  rw [ofMembers_eq_map]
  exact List.forall_mem_map.2 inside

theorem distinct_ofValue_array {items : List Json}
    (inside : ∀ item ∈ items, (ofValue item).Distinct) : (ofValue (.array items)).Distinct := by
  rw [ofValue, ofItems_eq_map]
  exact distinct_array (List.forall_mem_map.2 inside)

/-- Members in order have no name twice. -/
theorem distinct_ofValue {value : Json} (ordered : value.Ordered) :
    (ofValue value).Distinct := by
  induction value using Json.byNesting with
  | null | boolean b | number n | string s =>
      exact distinct_of_enter (by simp [ofValue])
        (by rintro (_ | _) inner entered <;> cases entered)
  | array items ih =>
      have inside := (ordered_array items).1 ordered
      exact distinct_ofValue_array fun item member => ih item member (inside item member)
  | object members ih =>
      obtain ⟨ascending, inside⟩ := (ordered_object members).1 ordered
      exact distinct_ofValue_object ascending.names fun member within =>
        ih member within (inside member within)

end OfValue

end Draft

namespace Gathered

variable {σ β : Type} {step : String → Draft → σ → σ → Prop} (look : σ → Option β)
  (name : String) {members : List (Option String × Draft)} {filled next : σ}

/-- What one name decides stays as it is while others are gathered. -/
theorem look_eq_of_absent
    (miss : ∀ other draft filled next, other ≠ name → step other draft filled next →
      look next = look filled)
    (gathered : Gathered step members filled next)
    (absent : name ∉ members.filterMap (·.1)) : look next = look filled := by
  induction gathered with
  | nil filled => rfl
  | cons first others ih =>
      simp only [List.filterMap_cons, List.mem_cons, not_or] at absent
      rw [ih absent.2]
      exact miss _ _ _ _ (Ne.symm absent.1) first

/-- What one name decides comes from the draft of that name. -/
theorem rel_of_watch (related : Draft → β → Prop)
    (hit : ∀ draft filled next, step name draft filled next →
      ∃ value, related draft value ∧ look next = some value)
    (miss : ∀ other draft filled next, other ≠ name → step other draft filled next →
      look next = look filled)
    (gathered : Gathered step members filled next)
    (names : (members.filterMap (·.1)).Nodup) (start : look filled = none) :
    Option.Rel related (Draft.named? name members) (look next) := by
  induction gathered with
  | nil filled =>
      rw [start]
      exact .none
  | @cons other draft rest filled middle next first others ih =>
      obtain ⟨new, names⟩ := List.nodup_cons.1 names
      rw [Draft.named?_cons]
      split
      · rename_i same
        obtain rfl := Option.some.inj same
        obtain ⟨value, its, seen⟩ := hit draft filled middle first
        rw [look_eq_of_absent look _ miss others new, seen]
        exact .some its
      · rename_i differ
        refine ih names ?_
        rw [miss other draft filled middle (fun same => differ (congrArg some same)) first, start]

end Gathered

/-- A value looks the same as the draft it was read from. -/
abbrev SameView (draft : Draft) (value : Json) : Prop :=
  ∀ path, (Draft.ofValue value).view path = draft.view path

theorem itemValues_eq_mapM (frame : Frame) (items : List Draft) :
    itemValues frame items = items.mapM (Draft.value frame) := by
  induction items with
  | nil => rfl
  | cons item rest ih => rw [itemValues, List.mapM_cons, ih]

/-- A list that is read item by item keeps its length and its order. -/
theorem forall₂_of_mapM {δ ε α : Type} {read : δ → Except ε α} {items : List δ} {values : List α}
    (all : items.mapM read = .ok values) :
    List.Forall₂ (fun item value => read item = .ok value) items values := by
  induction items generalizing values with
  | nil =>
      obtain rfl := Except.ok.inj all
      exact .nil
  | cons item rest ih =>
      rw [List.mapM_cons] at all
      obtain ⟨value, here, all⟩ := bind_eq_ok_iff.1 all
      obtain ⟨others, there, same⟩ := bind_eq_ok_iff.1 all
      obtain rfl := Except.ok.inj same
      exact .cons here (ih there)

theorem rel_getElem? {α β : Type} {related : α → β → Prop} {first : List α} {second : List β}
    (all : List.Forall₂ related first second) (place : Nat) :
    Option.Rel related first[place]? second[place]? := by
  induction all generalizing place with
  | nil => exact .none
  | cons here _ ih =>
      cases place with
      | zero => exact .some here
      | succ place => exact ih place

theorem rel_cases {α β : Type} {related : α → β → Prop} {first : Option α} {second : Option β}
    (both : Option.Rel related first second) :
    (first = none ∧ second = none) ∨
      ∃ one two, first = some one ∧ second = some two ∧ related one two := by
  cases both with
  | none => exact .inl ⟨rfl, rfl⟩
  | some here => exact .inr ⟨_, _, rfl, rfl, here⟩

theorem exists_of_rel_some {α β : Type} {related : α → β → Prop} {first : Option α} {two : β}
    (both : Option.Rel related first (some two)) : ∃ one, first = some one ∧ related one two := by
  cases both with
  | some here => exact ⟨_, rfl, here⟩

theorem exists_of_some_rel {α β : Type} {related : α → β → Prop} {one : α} {second : Option β}
    (both : Option.Rel related (some one) second) : ∃ two, second = some two ∧ related one two := by
  cases both with
  | some here => exact ⟨_, rfl, here⟩

theorem rel_imp {α β : Type} {related other : α → β → Prop} {first : Option α} {second : Option β}
    (both : Option.Rel related first second)
    (imp : ∀ one two, first = some one → related one two → other one two) :
    Option.Rel other first second := by
  cases both with
  | none => exact .none
  | some here => exact .some (imp _ _ rfl here)

theorem gathered_memberValues {frame : Frame} {members : List (Option String × Draft)}
    {done values : Members} (read : memberValues frame done members = .ok values) :
    Gathered (fun name draft done next =>
      ∃ value, draft.value frame = .ok value ∧ next = done.insert name value)
      members done values := by
  induction members generalizing done with
  | nil =>
      obtain rfl := Except.ok.inj read
      exact .nil _
  | cons member rest ih =>
      obtain ⟨⟨name, value⟩, here, more⟩ := bind_eq_ok_iff.1 read
      obtain ⟨_ | given, draft⟩ := member
      · cases here
      · obtain ⟨value, here, same⟩ := bind_eq_ok_iff.1 here
        cases same
        exact .cons ⟨value, here, rfl⟩ (ih more)

/-- Fields and the members that travel along share no name. -/
theorem Shape.Travelling.distinct {σ α : Type} {shape : Shape σ α} {extra : Members}
    (travelling : Travelling shape extra) (declared : Members)
    (names : declared.map (·.1) = shape.record.names)
    (apart : shape.record.names.Nodup)
    (inside : ∀ member ∈ declared, (Draft.ofValue member.2).Distinct) :
    (Draft.ofValue (.object (declared ++ extra))).Distinct := by
  refine Draft.distinct_ofValue_object ?_ (List.forall_mem_append.2
    ⟨inside, fun member within => Draft.distinct_ofValue (travelling.ordered member within)⟩)
  rw [List.map_append, names]
  refine List.nodup_append.2 ⟨apart, travelling.ascending.names, ?_⟩
  rintro name declared _ member rfl
  obtain ⟨other, within, rfl⟩ := List.mem_map.1 member
  exact travelling.undeclared other within declared

/-- Equal views on both sides make equal views one step above. -/
theorem bind_view_eq {draft : Option Draft} {value : Option Json}
    (same : Option.Rel SameView draft value) (path : List Step) :
    ((value.map Draft.ofValue).bind fun inner => inner.view path) =
      draft.bind fun inner => inner.view path := by
  cases same with
  | none => rfl
  | some same => exact same path

/-- A value that was read looks the same as its draft along every path. -/
theorem sameView_of_value {frame : Frame} {draft : Draft} {value : Json}
    (distinct : draft.Distinct) (read : draft.value frame = .ok value) : SameView draft value := by
  induction draft using Draft.byNesting generalizing frame value with
  | null | boolean b | number n | string s =>
      obtain rfl := Except.ok.inj read
      exact fun path => rfl
  | tooGreat | unpaired | halted halt => cases read
  | array items halt ih =>
      obtain ⟨inner, entered, read⟩ := bind_eq_ok_iff.1 read
      obtain ⟨values, gathered, read⟩ := bind_eq_ok_iff.1 read
      obtain ⟨-, -, same⟩ := bind_eq_ok_iff.1 read
      obtain rfl := Except.ok.inj same
      rw [itemValues_eq_mapM] at gathered
      have all := forall₂_of_mapM gathered
      have each (place : Nat) : Option.Rel SameView items[place]? values[place]? :=
        rel_imp (rel_getElem? all place) fun item value found its =>
          ih item (List.mem_of_getElem? found) (distinct.enter (.item place) found) its
      rintro (_ | ⟨name | place, path⟩)
      · rw [Draft.view_nil, Draft.view_nil, Draft.kind_array, Draft.kind, all.length_eq]
      · rfl
      · rw [Draft.view_cons, Draft.view_cons, Draft.enter?_array, Draft.enter?]
        exact bind_view_eq (each place) path
  | object members halt ih =>
      obtain ⟨inner, entered, read⟩ := bind_eq_ok_iff.1 read
      obtain ⟨values, gathered, read⟩ := bind_eq_ok_iff.1 read
      obtain ⟨-, -, same⟩ := bind_eq_ok_iff.1 read
      obtain rfl := Except.ok.inj same
      have each (name : String) :
          Option.Rel SameView (Draft.named? name members) (values.get? name) := by
        have watched := (gathered_memberValues gathered).rel_of_watch (Members.get? name) name
          (fun draft value => draft.value inner = .ok value) ?_ ?_ distinct.names rfl
        · exact rel_imp watched fun draft value found its =>
            ih _ (Draft.mem_of_named? found) (distinct.enter (.member name) found) its
        · rintro draft done next ⟨value, its, rfl⟩
          exact ⟨value, its, by rw [Members.get?_insert, if_pos rfl]⟩
        · rintro other draft done next differ ⟨value, -, rfl⟩
          rw [Members.get?_insert, if_neg differ]
      rintro (_ | ⟨name | place, path⟩)
      · rfl
      · rw [Draft.view_cons, Draft.view_cons, Draft.enter?_object, Draft.enter?]
        exact bind_view_eq (each name) path
      · rfl

end GuestPod.Json
