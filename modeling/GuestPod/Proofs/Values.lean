/-
This file reads drafts as values.  A value in order survives as it is, and every value that is
read is in order and nests no deeper than its frame admits.
-/

import GuestPod.Json.Decoder
import GuestPod.Proofs.Failure
import GuestPod.Proofs.Printing

namespace GuestPod.Json

/-- A text has room for values up to a depth, and a value at hand for values of every depth. -/
def Frame.Admits : Frame → Nat → Prop
  | .text room, depth => depth < room
  | .value, _ => True

namespace Frame

variable {frame inner : Frame} {depth lesser : Nat}

theorem whole_admits (low : depth ≤ 127) : whole.Admits depth :=
  Nat.lt_succ_of_le low

theorem Admits.mono (admits : frame.Admits depth) (below : lesser ≤ depth) :
    frame.Admits lesser := by
  cases frame with
  | text room => exact Nat.lt_of_le_of_lt below admits
  | value => trivial

theorem Admits.enter (admits : frame.Admits (depth + 1)) :
    ∃ inner, frame.enter = .ok inner ∧ inner.Admits depth := by
  cases frame with
  | text room =>
      have room : depth + 1 < room := admits
      exact ⟨.text (_ - 1), if_neg (by omega), (by omega : depth < _ - 1)⟩
  | value => exact ⟨.value, rfl, trivial⟩

theorem admits_of_enter (entered : frame.enter = .ok inner) (admits : inner.Admits depth) :
    frame.Admits (depth + 1) := by
  cases frame with
  | text room =>
      simp only [Frame.enter] at entered
      split at entered
      · cases entered
      · obtain rfl := Except.ok.inj entered
        have below : depth < room - 1 := admits
        exact (by omega : depth + 1 < room)
  | value => trivial

/-- An open frame admits at least one more level, so a scalar fits in. -/
theorem admits_zero_of_enter (entered : frame.enter = .ok inner) : inner.Admits 0 := by
  cases frame with
  | text room =>
      simp only [Frame.enter] at entered
      split at entered
      · cases entered
      · obtain rfl := Except.ok.inj entered
        exact (by omega : 0 < room - 1)
  | value =>
      obtain rfl := Except.ok.inj entered
      trivial

theorem Admits.max {first second : Nat} (one : frame.Admits first) (other : frame.Admits second) :
    frame.Admits (max first second) := by
  rcases max_choice first second with same | same <;> rw [same] <;> assumption

theorem Admits.depthItems {items : List Json} (room : frame.Admits 0)
    (each : ∀ item ∈ items, frame.Admits item.depth) : frame.Admits (depthItems items) := by
  cases frame with
  | text limit =>
      have positive : 0 < limit := room
      have below : Json.depthItems items ≤ limit - 1 :=
        (depthItems_le_iff items _).2 fun item member => Nat.le_sub_one_of_lt (each item member)
      exact (by omega : Json.depthItems items < limit)
  | value => trivial

theorem Admits.depthMembers {members : Members} (room : frame.Admits 0)
    (each : ∀ member ∈ members, frame.Admits member.2.depth) :
    frame.Admits (depthMembers members) := by
  cases frame with
  | text limit =>
      have positive : 0 < limit := room
      have below : Json.depthMembers members ≤ limit - 1 :=
        (depthMembers_le_iff members _).2 fun member inside =>
          Nat.le_sub_one_of_lt (each member inside)
      exact (by omega : Json.depthMembers members < limit)
  | value => trivial

end Frame

namespace Members

variable {members : Members} {name : String} {value : Json}

/-- A greater name goes to the end. -/
theorem insert_of_forall_lt (last : ∀ member ∈ members, member.1 < name) :
    members.insert name value = members ++ [(name, value)] := by
  induction members with
  | nil => rfl
  | cons member rest ih =>
      obtain ⟨other, old⟩ := member
      have greater : other < name := last _ (List.mem_cons_self ..)
      rw [insert, if_neg greater.ne', if_neg greater.not_gt,
        ih fun member inside => last member (List.mem_cons_of_mem _ inside), List.cons_append]

theorem mem_insert {member : String × Json} (inside : member ∈ members.insert name value) :
    member = (name, value) ∨ member ∈ members := by
  induction members with
  | nil => simpa [insert] using inside
  | cons first rest ih =>
      obtain ⟨other, old⟩ := first
      simp only [insert] at inside
      split at inside
      · rcases List.mem_cons.1 inside with new | later
        · exact .inl new
        · exact .inr (List.mem_cons_of_mem _ later)
      · split at inside
        · exact List.mem_cons.1 inside
        · rcases List.mem_cons.1 inside with rfl | later
          · exact .inr (List.mem_cons_self ..)
          · exact (ih later).imp_right (List.mem_cons_of_mem _)

/-- The order of names is kept. -/
theorem Ascending.insert (ascending : members.Ascending) (name : String) (value : Json) :
    (members.insert name value).Ascending := by
  induction members with
  | nil => exact List.pairwise_singleton _ _
  | cons first rest ih =>
      obtain ⟨other, old⟩ := first
      obtain ⟨least, later⟩ := List.pairwise_cons.1 ascending
      simp only [Members.insert]
      split
      · rename_i same
        subst same
        exact List.pairwise_cons.2 ⟨least, later⟩
      · rename_i differ
        split
        · rename_i before
          refine List.pairwise_cons.2 ⟨?_, ascending⟩
          intro member inside
          rcases List.mem_cons.1 inside with rfl | inside
          · exact before
          · exact before.trans (least member inside)
        · rename_i behind
          refine List.pairwise_cons.2 ⟨?_, ih later⟩
          intro member inside
          rcases mem_insert inside with rfl | inside
          · exact lt_of_le_of_ne (not_lt.1 behind) (Ne.symm differ)
          · exact least member inside

/-- Members in order are gathered as they stand. -/
theorem foldl_insert {more : Members} (ascending : (members ++ more).Ascending) :
    more.foldl (fun gathered member => gathered.insert member.1 member.2) members =
      members ++ more := by
  induction more generalizing members with
  | nil => simp
  | cons member more ih =>
      have last : ∀ other ∈ members, other.1 < member.1 := fun other inside =>
        (List.pairwise_append.1 ascending).2.2 other inside member (List.mem_cons_self ..)
      rw [List.foldl_cons, insert_of_forall_lt last, ih (by simpa using ascending)]
      simp

end Members

section OfValue

variable {frame : Frame}

theorem itemValues_ofValue {items : List Json}
    (read : ∀ item ∈ items, (Draft.ofValue item).value frame = .ok item) :
    itemValues frame (Draft.ofItems items) = .ok items := by
  induction items with
  | nil => rfl
  | cons item rest ih =>
      rw [Draft.ofItems, itemValues, read item (List.mem_cons_self ..),
        ih fun item member => read item (List.mem_cons_of_mem _ member)]
      rfl

theorem memberValues_ofValue {members : Members}
    (read : ∀ member ∈ members, (Draft.ofValue member.2).value frame = .ok member.2)
    (done : Members) :
    memberValues frame done (Draft.ofMembers members) =
      .ok (members.foldl (fun gathered member => gathered.insert member.1 member.2) done) := by
  induction members generalizing done with
  | nil => rfl
  | cons member rest ih =>
      obtain ⟨name, value⟩ := member
      rw [Draft.ofMembers, Draft.ofMember, memberValues, memberValue,
        read _ (List.mem_cons_self ..)]
      exact ih (fun member inside => read member (List.mem_cons_of_mem _ inside)) _

/-- A value in order survives its reading. -/
theorem Draft.value_ofValue {value : Json} (ordered : value.Ordered)
    (admits : frame.Admits value.depth) : (Draft.ofValue value).value frame = .ok value := by
  induction value using byNesting generalizing frame with
  | null | boolean b | number n | string s => rfl
  | array items ih =>
      have inside := (ordered_array items).1 ordered
      obtain ⟨inner, entered, room⟩ :=
        Frame.Admits.enter (show frame.Admits (depthItems items + 1) from admits)
      have each := (depthItems_le_iff items _).1 le_rfl
      have read := itemValues_ofValue fun item member =>
        ih item member (inside item member) (room.mono (each item member))
      rw [Draft.ofValue, Draft.value, entered, ok_bind, read]
      rfl
  | object members ih =>
      obtain ⟨ascending, inside⟩ := (ordered_object members).1 ordered
      obtain ⟨inner, entered, room⟩ :=
        Frame.Admits.enter (show frame.Admits (depthMembers members + 1) from admits)
      have each := (depthMembers_le_iff members _).1 le_rfl
      have read := memberValues_ofValue (fun member within =>
        ih member within (inside member within) (room.mono (each member within))) []
      rw [Members.foldl_insert (by simpa using ascending)] at read
      rw [Draft.ofValue, Draft.value, entered, ok_bind, read]
      rfl

end OfValue

/-- What holds of the items of a list or of the members of an object goes over to the whole. -/
@[elab_as_elim]
theorem Draft.byNesting {motive : Draft → Prop} (null : motive .null)
    (boolean : ∀ b, motive (.boolean b)) (number : ∀ n, motive (.number n))
    (string : ∀ s, motive (.string s)) (tooGreat : motive .tooGreat)
    (unpaired : motive .unpaired)
    (array : ∀ items halt, (∀ item ∈ items, motive item) → motive (.array items halt))
    (object : ∀ members halt, (∀ member ∈ members, motive member.2) →
      motive (.object members halt))
    (halted : ∀ halt, motive (.halted halt)) (draft : Draft) : motive draft :=
  draft.rec null boolean number string tooGreat unpaired (fun items halt => array items halt)
    (fun members halt => object members halt) halted (by simp)
    (fun _ _ first rest => by
      intro item member
      rcases List.mem_cons.1 member with rfl | later
      · exact first
      · exact rest item later)
    (by simp)
    (fun _ _ first rest => by
      intro entry member
      rcases List.mem_cons.1 member with rfl | later
      · exact first
      · exact rest entry later)
    (fun _ _ inner => inner)

section Sound

variable {frame inner : Frame}

/-- Each item comes from a draft of the list. -/
theorem mem_itemValues {items : List Draft} {values : List Json}
    (read : itemValues frame items = .ok values) {value : Json} (member : value ∈ values) :
    ∃ item ∈ items, item.value frame = .ok value := by
  induction items generalizing values with
  | nil =>
      obtain rfl := Except.ok.inj read
      cases member
  | cons item rest ih =>
      rw [itemValues, bind_eq_ok_iff] at read
      obtain ⟨first, here, read⟩ := read
      obtain ⟨others, there, same⟩ := bind_eq_ok_iff.1 read
      obtain rfl := Except.ok.inj same
      rcases List.mem_cons.1 member with rfl | later
      · exact ⟨item, List.mem_cons_self .., here⟩
      · obtain ⟨origin, within, its⟩ := ih there later
        exact ⟨origin, List.mem_cons_of_mem _ within, its⟩

/-- Each member comes from one that was there before or from a draft of the list. -/
theorem mem_memberValues {members : List (Option String × Draft)} {done values : Members}
    (read : memberValues frame done members = .ok values) {member : String × Json}
    (inside : member ∈ values) :
    member ∈ done ∨ ∃ origin ∈ members, origin.2.value frame = .ok member.2 := by
  induction members generalizing done with
  | nil =>
      obtain rfl := Except.ok.inj read
      exact .inl inside
  | cons first rest ih =>
      rw [memberValues, bind_eq_ok_iff] at read
      obtain ⟨⟨name, value⟩, here, read⟩ := read
      rcases ih read with before | ⟨origin, within, its⟩
      · rcases Members.mem_insert before with rfl | before
        · refine .inr ⟨first, List.mem_cons_self .., ?_⟩
          obtain ⟨_ | given, draft⟩ := first
          · cases here
          · obtain ⟨value, here, same⟩ := bind_eq_ok_iff.1 here
            cases same
            exact here
        · exact .inl before
      · exact .inr ⟨origin, List.mem_cons_of_mem _ within, its⟩

theorem ascending_memberValues {members : List (Option String × Draft)} {done values : Members}
    (ascending : done.Ascending) (read : memberValues frame done members = .ok values) :
    values.Ascending := by
  induction members generalizing done with
  | nil =>
      obtain rfl := Except.ok.inj read
      exact ascending
  | cons first rest ih =>
      rw [memberValues, bind_eq_ok_iff] at read
      obtain ⟨⟨name, value⟩, -, read⟩ := read
      exact ih (ascending.insert name value) read

/-- A value that was read is in order and nests no deeper than its frame admits. -/
theorem Draft.ordered_of_value {draft : Draft} {value : Json} (room : frame.Admits 0)
    (read : draft.value frame = .ok value) : value.Ordered ∧ frame.Admits value.depth := by
  induction draft using Draft.byNesting generalizing frame value with
  | null | boolean b | number n | string s =>
      obtain rfl := Except.ok.inj read
      exact ⟨trivial, room⟩
  | tooGreat | unpaired | halted halt => cases read
  | array items halt ih =>
      obtain ⟨inner, entered, read⟩ := bind_eq_ok_iff.1 read
      obtain ⟨values, items, read⟩ := bind_eq_ok_iff.1 read
      obtain ⟨-, -, same⟩ := bind_eq_ok_iff.1 read
      obtain rfl := Except.ok.inj same
      have within := Frame.admits_zero_of_enter entered
      have each : ∀ value ∈ values, value.Ordered ∧ inner.Admits value.depth := by
        intro value member
        obtain ⟨item, origin, its⟩ := mem_itemValues items member
        exact ih item origin within its
      exact ⟨(ordered_array values).2 fun value member => (each value member).1,
        Frame.admits_of_enter entered (within.depthItems fun value member => (each value member).2)⟩
  | object members halt ih =>
      obtain ⟨inner, entered, read⟩ := bind_eq_ok_iff.1 read
      obtain ⟨values, members, read⟩ := bind_eq_ok_iff.1 read
      obtain ⟨-, -, same⟩ := bind_eq_ok_iff.1 read
      obtain rfl := Except.ok.inj same
      have within := Frame.admits_zero_of_enter entered
      have each : ∀ member ∈ values, member.2.Ordered ∧ inner.Admits member.2.depth := by
        intro member inside
        rcases mem_memberValues members inside with before | ⟨origin, inside, its⟩
        · cases before
        · exact ih origin inside within its
      exact ⟨(ordered_object values).2 ⟨ascending_memberValues .nil members,
        fun member inside => (each member inside).1⟩,
        Frame.admits_of_enter entered
          (within.depthMembers fun member inside => (each member inside).2)⟩

end Sound

end GuestPod.Json
