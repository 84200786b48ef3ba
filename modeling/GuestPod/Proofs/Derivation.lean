/-
This file finds the derivation of a text that was read: what the reader of drafts reads to its end
was written by the grammar, and its parts may be written in another arrangement.
-/

import GuestPod.Proofs.Syntax

namespace GuestPod.Json

section Found

variable {draft : Draft} {text rest blanks : List Char} {fuel : Nat}

theorem Writes.spaced (value : Writes (.value draft) text) (blank : Blank blanks) :
    Writes (.value draft) (blanks ++ text) := by
  induction blanks with
  | nil => exact value
  | cons c blanks ih =>
      obtain ⟨space, blank⟩ := List.forall_mem_cons.1 blank
      exact .space space (ih blank)

namespace Draft

theorem exists_blanks (text : List Char) :
    ∃ blanks, Blank blanks ∧ text = blanks ++ skipSpace text :=
  ⟨text.takeWhile isSpace, List.all_eq_true.1 List.all_takeWhile,
    List.takeWhile_append_dropWhile.symm⟩

theorem keyword_eq_some {value : Draft} {letters : List Char}
    (read : keyword value letters text = (draft, some rest)) :
    text = letters ++ rest ∧ draft = value := by
  induction letters generalizing text with
  | nil =>
      obtain ⟨rfl, same⟩ := Prod.mk.inj read
      exact ⟨Option.some.inj same, rfl⟩
  | cons letter letters ih =>
      cases text with
      | nil => cases read
      | cons c text =>
          rw [keyword] at read
          split at read
          case isTrue same =>
            obtain ⟨rfl, its⟩ := ih read
            exact ⟨by rw [same, List.cons_append], its⟩
          case isFalse => cases read

theorem numeral_eq_some (read : numeral text = (draft, some rest)) :
    ∃ front, text = front ++ rest ∧ Writes (.value draft) front := by
  unfold numeral at read
  split at read
  case h_1 => cases read
  case h_2 parts left scanned =>
    obtain ⟨front, rfl, spells, -⟩ := Numeral.spells_of_scan scanned
    have written := Writes.number spells
    unfold Numeral.draft at written
    split at read <;> rename_i value <;> rw [value] at written <;> cases read <;>
      exact ⟨front, rfl, written⟩

theorem literal_eq_some (read : literal text = (draft, some rest)) :
    ∃ front, text = front ++ rest ∧ Writes (.value draft) ('"' :: front) := by
  unfold literal at read
  split at read
  case h_1 content left whole =>
    cases read
    obtain ⟨front, rfl, spells⟩ := Literal.spells_of_whole whole
    exact ⟨front, rfl, .string spells⟩
  case h_2 left unpaired =>
    cases read
    obtain ⟨front, rfl, spells⟩ := Literal.spells_of_unpaired unpaired
    exact ⟨front, rfl, .string spells⟩
  case h_3 => cases read

theorem afterColon_eq_ok (read : afterColon text = .ok rest) :
    ∃ blanks, Blank blanks ∧ text = blanks ++ ':' :: rest := by
  obtain ⟨blanks, blank, same⟩ := exists_blanks text
  unfold afterColon at read
  split at read
  case h_2 left colon =>
    obtain rfl := Except.ok.inj read
    exact ⟨blanks, blank, by rw [same, colon]⟩
  all_goals cases read

/-- A list goes on behind an item or ends there. -/
theorem readItems_eq_some {done : List Draft}
    (read : readItems (fuel + 1) done text = (draft, some rest)) :
    ∃ item after blanks, readValue fuel text = (item, some after) ∧ Blank blanks ∧
      ((after = blanks ++ ']' :: rest ∧ draft = .array (done.reverse ++ [item]) none) ∨
        ∃ more, after = blanks ++ ',' :: more ∧
          readItems fuel (item :: done) more = (draft, some rest)) := by
  rw [readItems] at read
  split at read
  case h_1 => cases read
  case h_2 item after first =>
    obtain ⟨blanks, blank, same⟩ := exists_blanks after
    refine ⟨item, after, blanks, first, blank, ?_⟩
    split at read
    case h_2 left mark =>
      cases read
      exact .inl ⟨by rw [same, mark], by rw [List.reverse_cons]⟩
    case h_3 more mark => exact .inr ⟨more, by rw [same, mark], read⟩
    all_goals cases read

theorem behindMember_eq_some {done : List (Option String × Draft)}
    (read : behindMember fuel done text = (draft, some rest)) :
    ∃ blanks, Blank blanks ∧
      ((text = blanks ++ '\x7d' :: rest ∧ draft = .object done.reverse none) ∨
        ∃ more, text = blanks ++ ',' :: more ∧
          readMembers fuel done more = (draft, some rest)) := by
  obtain ⟨blanks, blank, same⟩ := exists_blanks text
  refine ⟨blanks, blank, ?_⟩
  unfold behindMember at read
  split at read
  case h_2 left mark =>
    cases read
    exact .inl ⟨by rw [same, mark], rfl⟩
  case h_3 more mark => exact .inr ⟨more, by rw [same, mark], read⟩
  all_goals cases read

theorem behindName_eq_some {done : List (Option String × Draft)} {name : Option String}
    (read : behindName fuel done name text = (draft, some rest)) :
    ∃ back tail value after, Blank back ∧ text = back ++ ':' :: tail ∧
      readValue fuel tail = (value, some after) ∧
      behindMember fuel ((name, value) :: done) after = (draft, some rest) := by
  unfold behindName at read
  split at read
  case h_1 => cases read
  case h_2 tail colon =>
    obtain ⟨back, behind, same⟩ := afterColon_eq_ok colon
    split at read
    case h_1 => cases read
    case h_2 value after its => exact ⟨back, tail, value, after, behind, same, its, read⟩

theorem readMembers_eq_some {done : List (Option String × Draft)}
    (read : readMembers (fuel + 1) done text = (draft, some rest)) :
    ∃ front label name tail, Blank front ∧ Literal.Spells name label ∧
      text = front ++ '"' :: (label ++ tail) ∧
      behindName fuel done name tail = (draft, some rest) := by
  obtain ⟨front, blank, same⟩ := exists_blanks text
  rw [readMembers_succ] at read
  split at read
  case h_2 tail quoted =>
    split at read
    case h_1 content left whole =>
      obtain ⟨label, rfl, spells⟩ := Literal.spells_of_whole whole
      exact ⟨front, label, _, left, blank, spells, by rw [same, quoted], read⟩
    case h_2 left unpaired =>
      obtain ⟨label, rfl, spells⟩ := Literal.spells_of_unpaired unpaired
      exact ⟨front, label, _, left, blank, spells, by rw [same, quoted], read⟩
    case h_3 => cases read
  all_goals cases read

/-- What is read to its end with so much fuel was written there. -/
structure Sound (fuel : Nat) : Prop where
  value {text rest : List Char} {draft : Draft} : readValue fuel text = (draft, some rest) →
    ∃ front, text = front ++ rest ∧ Writes (.value draft) front
  items {done : List Draft} {text rest : List Char} {draft : Draft} :
    readItems fuel done text = (draft, some rest) →
      ∃ items front, text = front ++ rest ∧ draft = .array (done.reverse ++ items) none ∧
        Writes (.items items) front
  members {done : List (Option String × Draft)} {text rest : List Char} {draft : Draft} :
    readMembers fuel done text = (draft, some rest) →
      ∃ members front, text = front ++ rest ∧ draft = .object (done.reverse ++ members) none ∧
        Writes (.members members) front

namespace Sound

theorem value_succ (sound : Sound fuel)
    (read : readValue (fuel + 1) text = (draft, some rest)) :
    ∃ front, text = front ++ rest ∧ Writes (.value draft) front := by
  -- The blanks in front are put back once for all kinds of values.
  suffices ∃ front, skipSpace text = front ++ rest ∧ Writes (.value draft) front by
    obtain ⟨blanks, blank, same⟩ := exists_blanks text
    obtain ⟨front, solid, written⟩ := this
    exact ⟨blanks ++ front, by rw [same, solid, List.append_assoc], written.spaced blank⟩
  rw [readValue] at read
  split at read
  case h_1 => cases read
  case h_2 tail same =>
    obtain ⟨rfl, rfl⟩ := keyword_eq_some read
    exact ⟨_, same, .null⟩
  case h_3 tail same =>
    obtain ⟨rfl, rfl⟩ := keyword_eq_some read
    exact ⟨_, same, .yes⟩
  case h_4 tail same =>
    obtain ⟨rfl, rfl⟩ := keyword_eq_some read
    exact ⟨_, same, .no⟩
  case h_5 tail same =>
    obtain ⟨front, rfl, written⟩ := literal_eq_some read
    exact ⟨_, same, written⟩
  case h_6 tail same =>
    obtain ⟨blanks, blank, inside⟩ := exists_blanks tail
    split at read
    case h_1 => cases read
    case h_2 left mark =>
      cases read
      refine ⟨_, ?_, .emptyArray blank⟩
      rw [same, inside, mark]
      simp
    case h_3 =>
      rw [readItems_skipSpace] at read
      obtain ⟨items, front, rfl, rfl, listed⟩ := sound.items read
      exact ⟨_, same, .array listed⟩
  case h_7 tail same =>
    obtain ⟨blanks, blank, inside⟩ := exists_blanks tail
    split at read
    case h_1 => cases read
    case h_2 left mark =>
      cases read
      refine ⟨_, ?_, .emptyObject blank⟩
      rw [same, inside, mark]
      simp
    case h_3 =>
      rw [readMembers_skipSpace] at read
      obtain ⟨members, front, rfl, rfl, listed⟩ := sound.members read
      exact ⟨_, same, .object listed⟩
  case h_8 c tail _ _ _ _ _ _ same =>
    split at read
    case isTrue =>
      obtain ⟨front, its, written⟩ := numeral_eq_some read
      exact ⟨front, same.trans its, written⟩
    case isFalse => cases read

theorem items_succ (sound : Sound fuel) {done : List Draft}
    (read : readItems (fuel + 1) done text = (draft, some rest)) :
    ∃ items front, text = front ++ rest ∧ draft = .array (done.reverse ++ items) none ∧
      Writes (.items items) front := by
  obtain ⟨item, after, blanks, first, blank, behind⟩ := readItems_eq_some read
  obtain ⟨front, rfl, written⟩ := sound.value first
  rcases behind with ⟨rfl, rfl⟩ | ⟨more, rfl, others⟩
  · exact ⟨[item], _, by simp, rfl, .lastItem written blank⟩
  · obtain ⟨items, text, rfl, rfl, listed⟩ := sound.items others
    exact ⟨item :: items, _, by simp, by simp, .nextItem written blank listed⟩

theorem members_succ (sound : Sound fuel) {done : List (Option String × Draft)}
    (read : readMembers (fuel + 1) done text = (draft, some rest)) :
    ∃ members front, text = front ++ rest ∧ draft = .object (done.reverse ++ members) none ∧
      Writes (.members members) front := by
  obtain ⟨front, label, name, left, before, spells, rfl, named⟩ := readMembers_eq_some read
  obtain ⟨back, tail, value, after, behind, rfl, its, next⟩ := behindName_eq_some named
  obtain ⟨text, rfl, written⟩ := sound.value its
  have first := Writes.member before spells behind written
  obtain ⟨blanks, blank, ⟨rfl, rfl⟩ | ⟨more, rfl, others⟩⟩ := behindMember_eq_some next
  · exact ⟨[(name, value)], _, by simp, by simp, .lastMember first blank⟩
  · obtain ⟨members, text, rfl, rfl, listed⟩ := sound.members others
    exact ⟨(name, value) :: members, _, by simp, by simp, .nextMember first blank listed⟩

end Sound

theorem sound (fuel : Nat) : Sound fuel := by
  induction fuel with
  | zero => exact ⟨nofun, nofun, nofun⟩
  | succ fuel ih => exact ⟨ih.value_succ, ih.items_succ, ih.members_succ⟩

/-- A value that was begun and did not end. -/
def Broken : Draft → Prop
  | .halted _ | .array _ (some _) | .object _ (some _) => True
  | _ => False

theorem broken_of_keyword {value : Draft} {letters : List Char}
    (stopped : keyword value letters text = (draft, none)) : draft.Broken := by
  induction letters generalizing text with
  | nil => cases stopped
  | cons letter letters ih =>
      cases text with
      | nil =>
          cases stopped
          trivial
      | cons c text =>
          rw [keyword] at stopped
          split at stopped
          · exact ih stopped
          · cases stopped
            trivial

theorem broken_of_numeral (stopped : numeral text = (draft, none)) : draft.Broken := by
  unfold numeral at stopped
  split at stopped
  · cases stopped
    trivial
  · split at stopped <;> cases stopped

theorem broken_of_literal (stopped : literal text = (draft, none)) : draft.Broken := by
  unfold literal at stopped
  split at stopped <;> cases stopped
  trivial

/-- What leaves no text over, read with so much fuel, has not ended. -/
structure Stops (fuel : Nat) : Prop where
  value {text : List Char} {draft : Draft} :
    readValue fuel text = (draft, none) → draft.Broken
  items {done : List Draft} {text : List Char} {draft : Draft} :
    readItems fuel done text = (draft, none) → draft.Broken
  members {done : List (Option String × Draft)} {text : List Char} {draft : Draft} :
    readMembers fuel done text = (draft, none) → draft.Broken

namespace Stops

theorem value_succ (stops : Stops fuel) (stopped : readValue (fuel + 1) text = (draft, none)) :
    draft.Broken := by
  rw [readValue] at stopped
  split at stopped
  case h_1 =>
    cases stopped
    trivial
  case h_2 => exact broken_of_keyword stopped
  case h_3 => exact broken_of_keyword stopped
  case h_4 => exact broken_of_keyword stopped
  case h_5 => exact broken_of_literal stopped
  case h_6 =>
    split at stopped
    · cases stopped
      trivial
    · cases stopped
    · exact stops.items stopped
  case h_7 =>
    split at stopped
    · cases stopped
      trivial
    · cases stopped
    · exact stops.members stopped
  case h_8 =>
    split at stopped
    · exact broken_of_numeral stopped
    · cases stopped
      trivial

theorem items_succ (stops : Stops fuel) {done : List Draft}
    (stopped : readItems (fuel + 1) done text = (draft, none)) : draft.Broken := by
  rw [readItems] at stopped
  split at stopped
  · cases stopped
    trivial
  · split at stopped
    case h_2 => cases stopped
    case h_3 => exact stops.items stopped
    all_goals
      cases stopped
      trivial

theorem behindMember (stops : Stops fuel) {done : List (Option String × Draft)}
    (stopped : Draft.behindMember fuel done text = (draft, none)) : draft.Broken := by
  unfold Draft.behindMember at stopped
  split at stopped
  case h_2 => cases stopped
  case h_3 => exact stops.members stopped
  all_goals
    cases stopped
    trivial

theorem behindName (stops : Stops fuel) {done : List (Option String × Draft)}
    {name : Option String} (stopped : Draft.behindName fuel done name text = (draft, none)) :
    draft.Broken := by
  unfold Draft.behindName at stopped
  split at stopped
  · cases stopped
    trivial
  · split at stopped
    · cases stopped
      trivial
    · exact stops.behindMember stopped

theorem members_succ (stops : Stops fuel) {done : List (Option String × Draft)}
    (stopped : readMembers (fuel + 1) done text = (draft, none)) : draft.Broken := by
  rw [readMembers_succ] at stopped
  split at stopped
  case h_2 =>
    split at stopped
    · exact stops.behindName stopped
    · exact stops.behindName stopped
    · cases stopped
      trivial
  all_goals
    cases stopped
    trivial

end Stops

theorem stops (fuel : Nat) : Stops fuel := by
  have out {draft : Draft} (stopped : stopAt (.both .malformed) = (draft, none)) :
      draft.Broken := by
    cases stopped
    trivial
  induction fuel with
  | zero => exact ⟨out, out, out⟩
  | succ fuel ih => exact ⟨ih.value_succ, ih.items_succ, ih.members_succ⟩

end Draft

end Found

section Written

/-- What the parts of a text leave for another arrangement: a text for each of them. -/
def Part.Pieces : Part → Prop
  | .value (.array all none) | .items all => ∀ item ∈ all, ∃ text, Writes (.value item) text
  | .value (.object all none) | .members all => ∀ one ∈ all, ∃ text, Writes (.member one) text
  | _ => True

theorem Writes.pieces {part : Part} {text : List Char} (writes : Writes part text) :
    part.Pieces := by
  induction writes with
  | null | yes | no | member => trivial
  | @number parts =>
      unfold Numeral.draft
      cases parts.value <;> trivial
  | @string content => cases content <;> trivial
  | space _ _ ih => exact ih
  | emptyArray | emptyObject => exact fun _ inside => absurd inside List.not_mem_nil
  | array _ ih => exact ih
  | object _ ih => exact ih
  | lastItem value => exact List.forall_mem_singleton.2 ⟨_, value⟩
  | nextItem value _ _ _ ih => exact List.forall_mem_cons.2 ⟨⟨_, value⟩, ih⟩
  | lastMember first => exact List.forall_mem_singleton.2 ⟨_, first⟩
  | nextMember first _ _ _ ih => exact List.forall_mem_cons.2 ⟨⟨_, first⟩, ih⟩

namespace Draft

def Written (draft : Draft) : Prop :=
  ∃ text, Writes (.value draft) text

theorem exists_items {items : List Draft} (filled : items ≠ [])
    (each : ∀ item ∈ items, item.Written) : ∃ text, Writes (.items items) text := by
  induction items with
  | nil => exact absurd rfl filled
  | cons item rest ih =>
      obtain ⟨⟨text, value⟩, others⟩ := List.forall_mem_cons.1 each
      cases rest with
      | nil => exact ⟨_, .lastItem value .nil⟩
      | cons next rest =>
          obtain ⟨more, listed⟩ := ih (List.cons_ne_nil _ _) others
          exact ⟨_, .nextItem value .nil listed⟩

theorem written_array {items : List Draft} :
    (array items none).Written ↔ ∀ item ∈ items, item.Written := by
  refine ⟨fun ⟨_, writes⟩ => writes.pieces, fun each => ?_⟩
  cases items with
  | nil => exact ⟨_, .emptyArray .nil⟩
  | cons item rest =>
      obtain ⟨text, listed⟩ := exists_items (List.cons_ne_nil _ _) each
      exact ⟨_, .array listed⟩

theorem exists_members {members : List (Option String × Draft)} (filled : members ≠ [])
    (each : ∀ member ∈ members, ∃ text, Writes (.member member) text) :
    ∃ text, Writes (.members members) text := by
  induction members with
  | nil => exact absurd rfl filled
  | cons member rest ih =>
      obtain ⟨⟨text, first⟩, others⟩ := List.forall_mem_cons.1 each
      cases rest with
      | nil => exact ⟨_, .lastMember first .nil⟩
      | cons next rest =>
          obtain ⟨more, listed⟩ := ih (List.cons_ne_nil _ _) others
          exact ⟨_, .nextMember first .nil listed⟩

theorem written_object {members : List (Option String × Draft)} :
    (object members none).Written ↔ ∀ member ∈ members, ∃ text, Writes (.member member) text := by
  refine ⟨fun ⟨_, writes⟩ => writes.pieces, fun each => ?_⟩
  cases members with
  | nil => exact ⟨_, .emptyObject .nil⟩
  | cons member rest =>
      obtain ⟨text, listed⟩ := exists_members (List.cons_ne_nil _ _) each
      exact ⟨_, .object listed⟩

/-- A member keeps its name when it is given another value. -/
theorem exists_member_of_value {name : Option String} {draft other : Draft} {text : List Char}
    (writes : Writes (.member (name, draft)) text) (value : other.Written) :
    ∃ text, Writes (.member (name, other)) text := by
  obtain ⟨label, value⟩ := value
  cases writes with
  | member before spells behind _ => exact ⟨_, .member before spells behind value⟩

theorem written_of_member {name : Option String} {draft : Draft} {text : List Char}
    (writes : Writes (.member (name, draft)) text) : draft.Written := by
  cases writes with
  | member _ _ _ value => exact ⟨_, value⟩

theorem written_zero : (number (.integer 0)).Written := by
  obtain ⟨front, same, spells, -⟩ :=
    Numeral.spells_of_scan (rfl : Numeral.scan ['0'] = .ok (⟨false, ['0'], none, none⟩, []))
  exact ⟨front, .number spells⟩

end Draft

end Written

namespace Document

variable {draft : Draft} {text : String}

/-- An object that was read whole was written so. -/
theorem writes_of_object {members : List (Option String × Draft)}
    (read : Document.read text.toList = ⟨.object members none, true⟩) :
    Document.Writes (.object members none) text := by
  unfold Document.read at read
  split at read
  case h_1 body stopped =>
    obtain ⟨rfl, -⟩ := Document.mk.inj read
    exact ((Draft.stops _).value stopped).elim
  case h_2 body rest ended =>
    obtain ⟨rfl, alone⟩ := Document.mk.inj read
    obtain ⟨front, same, written⟩ := (Draft.sound _).value ended
    exact ⟨front, rest, same, written, List.dropWhile_eq_nil_iff.1 (List.isEmpty_iff.1 alone)⟩

end Document

end GuestPod.Json
