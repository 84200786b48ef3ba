/-
This file goes through JSON values level by level: what holds everywhere inside of a value, and
how deep it nests.
-/

import Mathlib.Data.String.Basic
import GuestPod.Json.Draft
import GuestPod.Json.Printer
import GuestPod.Text.Word

namespace GuestPod.Json

/-- What holds of the items of an array or of the members of an object goes over to the whole. -/
@[elab_as_elim]
theorem byNesting {motive : Json → Prop} (null : motive .null)
    (boolean : ∀ b, motive (.boolean b)) (number : ∀ n, motive (.number n))
    (string : ∀ s, motive (.string s))
    (array : ∀ items, (∀ item ∈ items, motive item) → motive (.array items))
    (object : ∀ members, (∀ member ∈ members, motive member.2) → motive (.object members))
    (value : Json) : motive value :=
  value.rec null boolean number string array object (by simp)
    (fun _ _ first rest => by
      intro item member
      rcases List.mem_cons.1 member with rfl | later
      · exact first
      · exact rest item later)
    (by simp)
    (fun _ _ first rest => by
      intro entry member
      rcases List.mem_cons.1 member with rfl | later
      · exact first
      · exact rest entry later)
    (fun _ _ inner => inner)

mutual

/-- A property of a value and of all values inside of it. -/
def Everywhere (p : Json → Prop) : Json → Prop
  | .array items => p (.array items) ∧ EveryItem p items
  | .object members => p (.object members) ∧ EveryMember p members
  | value => p value
termination_by structural value => value

def EveryItem (p : Json → Prop) : List Json → Prop
  | [] => True
  | item :: rest => Everywhere p item ∧ EveryItem p rest
termination_by structural items => items

def EveryMember (p : Json → Prop) : List (String × Json) → Prop
  | [] => True
  | member :: rest => OneMember p member ∧ EveryMember p rest
termination_by structural members => members

def OneMember (p : Json → Prop) : String × Json → Prop
  | (_, value) => Everywhere p value
termination_by structural member => member

end

variable {p : Json → Prop}

theorem everyItem_iff (items : List Json) :
    EveryItem p items ↔ ∀ item ∈ items, Everywhere p item := by
  induction items with
  | nil => simp [EveryItem]
  | cons item rest ih => simp [EveryItem, ih]

theorem everyMember_iff (members : Members) :
    EveryMember p members ↔ ∀ member ∈ members, Everywhere p member.2 := by
  induction members with
  | nil => simp [EveryMember]
  | cons member rest ih =>
      obtain ⟨name, value⟩ := member
      rw [EveryMember, OneMember, ih, List.forall_mem_cons]

theorem everywhere_array (items : List Json) :
    Everywhere p (.array items) ↔ p (.array items) ∧ ∀ item ∈ items, Everywhere p item := by
  rw [Everywhere, everyItem_iff]

theorem everywhere_object (members : Members) :
    Everywhere p (.object members) ↔
      p (.object members) ∧ ∀ member ∈ members, Everywhere p member.2 := by
  rw [Everywhere, everyMember_iff]

mutual

/-- A scalar does not nest. -/
def depth : Json → Nat
  | .array items => depthItems items + 1
  | .object members => depthMembers members + 1
  | _ => 0
termination_by structural value => value

def depthItems : List Json → Nat
  | [] => 0
  | item :: rest => max (depth item) (depthItems rest)
termination_by structural items => items

def depthMembers : List (String × Json) → Nat
  | [] => 0
  | member :: rest => max (depthMember member) (depthMembers rest)
termination_by structural members => members

def depthMember : String × Json → Nat
  | (_, value) => depth value
termination_by structural member => member

end

theorem depthItems_le_iff (items : List Json) (bound : Nat) :
    depthItems items ≤ bound ↔ ∀ item ∈ items, item.depth ≤ bound := by
  induction items with
  | nil => simp [depthItems]
  | cons item rest ih => simp [depthItems, ih]

theorem depthMembers_le_iff (members : Members) (bound : Nat) :
    depthMembers members ≤ bound ↔ ∀ member ∈ members, member.2.depth ≤ bound := by
  induction members with
  | nil => simp [depthMembers]
  | cons member rest ih =>
      obtain ⟨name, value⟩ := member
      rw [depthMembers, depthMember, Nat.max_le, ih, List.forall_mem_cons]

/-- Whole numbers of 64 bits, signed or unsigned, are kept to the last digit. -/
def Number.Exact : Number → Prop
  | .integer n => -(Text.wordBound 63 : Int) ≤ n ∧ n < Text.wordBound 64
  | .real _ => False

/-- Every number inside of the value is exact. -/
def Exact : Json → Prop :=
  Everywhere fun
    | .number n => n.Exact
    | _ => True

/-- The names of the members grow from each to the next. -/
def Members.Ascending (members : Members) : Prop :=
  members.Pairwise fun first second => first.1 < second.1

/-- Every object inside of the value has its members in order. -/
def Ordered : Json → Prop :=
  Everywhere fun
    | .object members => Members.Ascending members
    | _ => True

@[simp] theorem exact_null : Exact .null := trivial

@[simp] theorem exact_boolean (b : Bool) : Exact (.boolean b) := trivial

@[simp] theorem exact_string (s : String) : Exact (.string s) := trivial

theorem exact_array (items : List Json) : Exact (.array items) ↔ ∀ item ∈ items, item.Exact := by
  rw [Exact, everywhere_array]
  exact ⟨And.right, And.intro trivial⟩

theorem exact_object (members : Members) :
    Exact (.object members) ↔ ∀ member ∈ members, member.2.Exact := by
  rw [Exact, everywhere_object]
  exact ⟨And.right, And.intro trivial⟩

@[simp] theorem ordered_null : Ordered .null := trivial

@[simp] theorem ordered_boolean (b : Bool) : Ordered (.boolean b) := trivial

@[simp] theorem ordered_number (n : Number) : Ordered (.number n) := trivial

@[simp] theorem ordered_string (s : String) : Ordered (.string s) := trivial

theorem ordered_array (items : List Json) :
    Ordered (.array items) ↔ ∀ item ∈ items, item.Ordered := by
  rw [Ordered, everywhere_array]
  exact ⟨And.right, And.intro trivial⟩

theorem ordered_object (members : Members) :
    Ordered (.object members) ↔
      members.Ascending ∧ ∀ member ∈ members, member.2.Ordered := by
  rw [Ordered, everywhere_object]

end GuestPod.Json
