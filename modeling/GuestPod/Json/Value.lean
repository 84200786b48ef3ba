/-
This file holds JSON values and the order of their members.
-/

import GuestPod.Decimal.Binary64

namespace GuestPod

/-- Whole numbers are exact; all others are binary64. -/
inductive Json.Number where
  | integer (n : Int)
  | real (x : Decimal.Binary64)
  deriving DecidableEq, Repr

inductive Json where
  | null
  | boolean (b : Bool)
  | number (n : Json.Number)
  | string (s : String)
  | array (items : List Json)
  | object (members : List (String × Json))
  deriving Repr

namespace Json

mutual

def decideEq : (a b : Json) → Decidable (a = b)
  | .null, .null => isTrue rfl
  | .boolean b, .boolean c => decidable_of_iff (b = c) (by simp)
  | .number m, .number n => decidable_of_iff (m = n) (by simp)
  | .string s, .string t => decidable_of_iff (s = t) (by simp)
  | .array items, .array others =>
      match decideItems items others with
      | isTrue h => isTrue (by rw [h])
      | isFalse h => isFalse (by simpa using h)
  | .object members, .object others =>
      match decideMembers members others with
      | isTrue h => isTrue (by rw [h])
      | isFalse h => isFalse (by simpa using h)
  | .null, .boolean _ | .null, .number _ | .null, .string _ | .null, .array _
  | .null, .object _ => isFalse (by simp)
  | .boolean _, .null | .boolean _, .number _ | .boolean _, .string _ | .boolean _, .array _
  | .boolean _, .object _ => isFalse (by simp)
  | .number _, .null | .number _, .boolean _ | .number _, .string _ | .number _, .array _
  | .number _, .object _ => isFalse (by simp)
  | .string _, .null | .string _, .boolean _ | .string _, .number _ | .string _, .array _
  | .string _, .object _ => isFalse (by simp)
  | .array _, .null | .array _, .boolean _ | .array _, .number _ | .array _, .string _
  | .array _, .object _ => isFalse (by simp)
  | .object _, .null | .object _, .boolean _ | .object _, .number _ | .object _, .string _
  | .object _, .array _ => isFalse (by simp)
termination_by structural a => a

def decideItems : (a b : List Json) → Decidable (a = b)
  | [], [] => isTrue rfl
  | [], _ :: _ | _ :: _, [] => isFalse (by simp)
  | item :: rest, other :: others =>
      match decideEq item other, decideItems rest others with
      | isTrue h, isTrue g => isTrue (by rw [h, g])
      | isFalse h, _ => isFalse (by simp [h])
      | _, isFalse h => isFalse (by simp [h])
termination_by structural a => a

def decideMembers : (a b : List (String × Json)) → Decidable (a = b)
  | [], [] => isTrue rfl
  | [], _ :: _ | _ :: _, [] => isFalse (by simp)
  | member :: rest, other :: others =>
      match decideMember member other, decideMembers rest others with
      | isTrue h, isTrue g => isTrue (by rw [h, g])
      | isFalse h, _ => isFalse (by simp [h])
      | _, isFalse h => isFalse (by simp [h])
termination_by structural a => a

def decideMember : (a b : String × Json) → Decidable (a = b)
  | (name, value), (other, second) =>
      match decEq name other, decideEq value second with
      | isTrue h, isTrue g => isTrue (by rw [h, g])
      | isFalse h, _ => isFalse (by simp [h])
      | _, isFalse h => isFalse (by simp [h])
termination_by structural a => a

end

instance : DecidableEq Json := decideEq

/-- The members of an object, in order. -/
abbrev Members := List (String × Json)

namespace Members

def get? (name : String) (members : Members) : Option Json :=
  (members.find? (·.1 = name)).map (·.2)

/-- A member goes to its place in the order of names and replaces one of the same name. -/
def insert (name : String) (value : Json) : Members → Members
  | [] => [(name, value)]
  | (other, old) :: rest =>
      if name = other then (name, value) :: rest
      else if name < other then (name, value) :: (other, old) :: rest
      else (other, old) :: insert name value rest

@[simp] theorem get?_nil (name : String) : get? name [] = none := rfl

@[simp] theorem get?_cons (name other : String) (value : Json) (rest : Members) :
    get? name ((other, value) :: rest) = if other = name then some value else get? name rest := by
  by_cases h : other = name <;> simp [get?, h]

theorem get?_insert (name other : String) (value : Json) (members : Members) :
    get? other (members.insert name value) =
      if name = other then some value else get? other members := by
  induction members with
  | nil => simp [insert]
  | cons member rest ih =>
      obtain ⟨third, old⟩ := member
      simp only [insert]
      split
      · subst third; simp only [get?_cons]; split <;> rfl
      · split
        · simp only [get?_cons]
        · simp only [get?_cons, ih]
          by_cases h : third = other <;> by_cases g : name = other <;> simp_all

end Members

/-- The value of a member, absent for every other kind of value. -/
def member? (name : String) : Json → Option Json
  | .object members => Members.get? name members
  | _ => none

def ofNat (n : Nat) : Json := .number (.integer n)

end Json

end GuestPod
