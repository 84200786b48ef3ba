/-
This file gives the grammar of JSON texts.  What is written by it is read as it was written.
-/

import Mathlib.Data.List.TakeWhile
import GuestPod.Proofs.Spelling

namespace GuestPod.Json

/-- A part of a text.  Items and members go up to the end of their list, which is not empty. -/
inductive Part where
  | value (draft : Draft)
  | items (items : List Draft)
  | member (member : Option String × Draft)
  | members (members : List (Option String × Draft))

def Blank (text : List Char) : Prop := ∀ c ∈ text, Draft.isSpace c = true

theorem Blank.nil : Blank [] := List.forall_mem_nil _

/-- A number beyond binary64 is well-formed. -/
def Numeral.draft (parts : Numeral) : Draft :=
  match parts.value with
  | some n => .number n
  | none => .tooGreat

/-- The text of a string or of a name behind its opening quote. -/
def Literal.draft : Option String → Draft
  | some s => .string s
  | none => .unpaired

/-- How a part is written.  Blanks may stand around every value, name and mark. -/
inductive Writes : Part → List Char → Prop
  | null : Writes (.value .null) ['n', 'u', 'l', 'l']
  | yes : Writes (.value (.boolean true)) ['t', 'r', 'u', 'e']
  | no : Writes (.value (.boolean false)) ['f', 'a', 'l', 's', 'e']
  | number {parts : Numeral} {text : List Char} (spells : parts.Spells text) :
      Writes (.value parts.draft) text
  | string {content : Option String} {text : List Char} (spells : Literal.Spells content text) :
      Writes (.value (Literal.draft content)) ('"' :: text)
  | space {c : Char} {draft : Draft} {text : List Char} (space : Draft.isSpace c = true)
      (value : Writes (.value draft) text) : Writes (.value draft) (c :: text)
  | emptyArray {blanks : List Char} (blank : Blank blanks) :
      Writes (.value (.array [] none)) ('[' :: (blanks ++ [']']))
  | array {items : List Draft} {text : List Char} (listed : Writes (.items items) text) :
      Writes (.value (.array items none)) ('[' :: text)
  | emptyObject {blanks : List Char} (blank : Blank blanks) :
      Writes (.value (.object [] none)) ('\x7b' :: (blanks ++ ['\x7d']))
  | object {members : List (Option String × Draft)} {text : List Char}
      (listed : Writes (.members members) text) :
      Writes (.value (.object members none)) ('\x7b' :: text)
  | lastItem {item : Draft} {text blanks : List Char} (value : Writes (.value item) text)
      (blank : Blank blanks) : Writes (.items [item]) (text ++ (blanks ++ [']']))
  | nextItem {item : Draft} {items : List Draft} {text blanks more : List Char}
      (value : Writes (.value item) text) (blank : Blank blanks)
      (others : Writes (.items items) more) :
      Writes (.items (item :: items)) (text ++ (blanks ++ ',' :: more))
  | member {name : Option String} {draft : Draft} {front label back text : List Char}
      (before : Blank front) (spells : Literal.Spells name label) (behind : Blank back)
      (value : Writes (.value draft) text) :
      Writes (.member (name, draft)) (front ++ '"' :: (label ++ (back ++ ':' :: text)))
  | lastMember {member : Option String × Draft} {text blanks : List Char}
      (first : Writes (.member member) text) (blank : Blank blanks) :
      Writes (.members [member]) (text ++ (blanks ++ ['\x7d']))
  | nextMember {member : Option String × Draft} {members : List (Option String × Draft)}
      {text blanks more : List Char} (first : Writes (.member member) text) (blank : Blank blanks)
      (others : Writes (.members members) more) :
      Writes (.members (member :: members)) (text ++ (blanks ++ ',' :: more))

/-- A document is one value with blanks around it. -/
def Document.Writes (draft : Draft) (text : String) : Prop :=
  ∃ front blanks, text.toList = front ++ blanks ∧ Json.Writes (.value draft) front ∧ Blank blanks

namespace Draft

variable {text rest blanks : List Char} {c : Char}

theorem skipSpace_blanks (blank : Blank blanks) : skipSpace (blanks ++ text) = skipSpace text :=
  List.dropWhile_append_of_pos blank

theorem skipSpace_space (space : isSpace c = true) : skipSpace (c :: text) = skipSpace text :=
  List.dropWhile_cons_of_pos space

theorem skipSpace_solid (blank : Blank blanks) (solid : isSpace c = false) :
    skipSpace (blanks ++ c :: text) = c :: text := by
  rw [skipSpace_blanks blank, skipSpace_cons solid]

theorem skipSpace_idem (text : List Char) : skipSpace (skipSpace text) = skipSpace text := by
  induction text with
  | nil => rfl
  | cons c text ih =>
      cases solid : isSpace c with
      | true =>
          rwa [skipSpace_space solid]
      | false => rw [skipSpace_cons solid, skipSpace_cons solid]

theorem readValue_skipSpace (fuel : Nat) (text : List Char) :
    readValue fuel (skipSpace text) = readValue fuel text := by
  cases fuel with
  | zero => rfl
  | succ fuel => simp only [readValue, skipSpace_idem]

theorem readItems_skipSpace (fuel : Nat) (done : List Draft) (text : List Char) :
    readItems fuel done (skipSpace text) = readItems fuel done text := by
  cases fuel with
  | zero => rfl
  | succ fuel => simp only [readItems, readValue_skipSpace]

theorem readMembers_skipSpace (fuel : Nat) (done : List (Option String × Draft))
    (text : List Char) : readMembers fuel done (skipSpace text) = readMembers fuel done text := by
  cases fuel with
  | zero => rfl
  | succ fuel => simp only [readMembers, skipSpace_idem]

end Draft

theorem Numeral.Spells.sign {parts : Numeral} {text : List Char} (spells : parts.Spells text) :
    ∃ c tail, text = c :: tail ∧ (c = '-' ∨ c.isDigit = true) := by
  have scanned := spells [] (by simp [Delimited])
  obtain ⟨front, same, -, c, first, sign⟩ := spells_of_scan scanned
  obtain ⟨tail, rfl⟩ := List.head?_eq_some_iff.1 (Option.mem_def.1 first)
  simp only [List.append_nil] at same
  exact ⟨c, tail, same, sign⟩

section Reading

variable {part : Part} {text rest blanks : List Char}

/-- No part begins like the end of a list. -/
theorem Writes.exists_front (writes : Writes part text) :
    ∃ blanks c tail, text = blanks ++ c :: tail ∧ Blank blanks ∧ Draft.isSpace c = false ∧
      c ≠ ']' ∧ c ≠ '\x7d' := by
  have solid {c : Char} (text : List Char) (solid : Draft.isSpace c = false)
      (other : c ≠ ']' ∧ c ≠ '\x7d') : ∃ blanks first tail, c :: text = blanks ++ first :: tail ∧
      Blank blanks ∧ Draft.isSpace first = false ∧ first ≠ ']' ∧ first ≠ '\x7d' :=
    ⟨[], c, text, rfl, by simp [Blank], solid, other⟩
  have append {text : List Char} (more : List Char)
      (front : ∃ blanks c tail, text = blanks ++ c :: tail ∧ Blank blanks ∧
        Draft.isSpace c = false ∧ c ≠ ']' ∧ c ≠ '\x7d') :
      ∃ blanks c tail, text ++ more = blanks ++ c :: tail ∧ Blank blanks ∧
        Draft.isSpace c = false ∧ c ≠ ']' ∧ c ≠ '\x7d' := by
    obtain ⟨blanks, c, tail, rfl, its⟩ := front
    exact ⟨blanks, c, tail ++ more, by simp, its⟩
  induction writes with
  | null | yes | no => exact solid _ (by decide) (by decide)
  | number spells =>
      obtain ⟨c, tail, rfl, sign⟩ := spells.sign
      refine solid _ (Draft.isSpace_eq_false_of_sign sign) ⟨?_, ?_⟩ <;>
        (rintro rfl; exact absurd sign (by decide))
  | string | emptyArray | array | emptyObject | object => exact solid _ (by decide) (by decide)
  | space space _ ih =>
      obtain ⟨blanks, first, tail, rfl, blank, its⟩ := ih
      exact ⟨_ :: blanks, first, tail, rfl, List.forall_mem_cons.2 ⟨space, blank⟩, its⟩
  | lastItem _ _ ih => exact append _ ih
  | nextItem _ _ _ ih _ => exact append _ ih
  | member before =>
      exact ⟨_, '"', _, rfl, before, by decide, by decide, by decide⟩
  | lastMember _ _ ih => exact append _ ih
  | nextMember _ _ _ ih _ => exact append _ ih

/-- What the reader of drafts goes on with behind a member. -/
def Draft.behindMember (fuel : Nat) (done : List (Option String × Draft)) (rest : List Char) :
    Draft.Reading :=
  match skipSpace rest with
  | [] => (.object done.reverse (some (.both .ended)), none)
  | '\x7d' :: rest => (.object done.reverse none, some rest)
  | ',' :: rest => readMembers fuel done rest
  | _ => (.object done.reverse (some (.both .malformed)), none)

/-- What it goes on with behind the name of a member. -/
def Draft.behindName (fuel : Nat) (done : List (Option String × Draft)) (name : Option String)
    (rest : List Char) : Draft.Reading :=
  match afterColon rest with
  | .error halt => (.object ((name, .halted halt) :: done).reverse (some halt), none)
  | .ok rest =>
      match readValue fuel rest with
      | (value, none) =>
          (.object ((name, value) :: done).reverse (some (.both .malformed)), none)
      | (value, some rest) => behindMember fuel ((name, value) :: done) rest

theorem Draft.readMembers_succ (fuel : Nat) (done : List (Option String × Draft))
    (text : List Char) :
    readMembers (fuel + 1) done text = match skipSpace text with
      | [] => (.object done.reverse (some (.both .ended)), none)
      | '"' :: rest =>
          match Literal.read rest with
          | .whole content rest => behindName fuel done (some (String.ofList content)) rest
          | .unpaired rest => behindName fuel done none rest
          | .halted halt => (.object done.reverse (some halt), none)
      | _ => (.object done.reverse (some (.both .malformed)), none) :=
  rfl

/-- With enough fuel a part is read as it is written, whatever is behind it. -/
def Part.Reads (text : List Char) : Part → Prop
  | .value draft => ∀ fuel rest, 2 * text.length ≤ fuel → Delimited rest →
      Draft.readValue fuel (text ++ rest) = (draft, some rest)
  | .items all => ∀ fuel done rest, 2 * text.length ≤ fuel →
      Draft.readItems fuel done (text ++ rest) = (.array (done.reverse ++ all) none, some rest)
  | .member one => ∀ fuel done rest, 2 * text.length ≤ fuel → Delimited rest →
      Draft.readMembers (fuel + 1) done (text ++ rest) =
        Draft.behindMember fuel (one :: done) rest
  | .members all => ∀ fuel done rest, 2 * text.length ≤ fuel →
      Draft.readMembers fuel done (text ++ rest) =
        (.object (done.reverse ++ all) none, some rest)

theorem delimited_blanks (blank : Blank blanks) {c : Char}
    (mark : c = ',' ∨ c = ']' ∨ c = '\x7d') : Delimited (blanks ++ c :: rest) := by
  cases blanks with
  | nil => simpa [Delimited] using .inr mark
  | cons first blanks => simpa [Delimited] using .inl (blank first List.mem_cons_self)

namespace Draft

variable {c : Char} {fuel : Nat}

theorem readValue_items (blank : Blank blanks) (solid : isSpace c = false) (filled : c ≠ ']') :
    readValue (fuel + 1) ('[' :: (blanks ++ c :: rest)) =
      readItems fuel [] (blanks ++ c :: rest) := by
  rw [← readItems_skipSpace]
  simp only [readValue, skipSpace_cons (by decide : isSpace '[' = false),
    skipSpace_solid blank solid]
  split
  · rename_i same
    cases same
  · rename_i same
    exact absurd (List.cons.inj same).1 filled
  · rfl

theorem readValue_members (blank : Blank blanks) (solid : isSpace c = false)
    (filled : c ≠ '\x7d') :
    readValue (fuel + 1) ('\x7b' :: (blanks ++ c :: rest)) =
      readMembers fuel [] (blanks ++ c :: rest) := by
  rw [← readMembers_skipSpace]
  simp only [readValue, skipSpace_cons (by decide : isSpace '\x7b' = false),
    skipSpace_solid blank solid]
  split
  · rename_i same
    cases same
  · rename_i same
    exact absurd (List.cons.inj same).1 filled
  · rfl

theorem readValue_numeral {parts : Numeral} (spells : parts.Spells text)
    (delimited : Delimited rest) :
    readValue (fuel + 1) (text ++ rest) = (parts.draft, some rest) := by
  obtain ⟨c, tail, rfl, sign⟩ := spells.sign
  have scanned := spells rest delimited
  rw [List.cons_append] at scanned ⊢
  rw [readValue_sign sign, numeral, scanned]
  cases number : parts.value <;> simp [number, Numeral.draft]

theorem readValue_literal {content : Option String} (spells : Literal.Spells content text) :
    readValue (fuel + 1) ('"' :: (text ++ rest)) = (Literal.draft content, some rest) := by
  have read := spells rest
  simp only [readValue, skipSpace_cons (by decide : isSpace '"' = false), literal]
  cases content with
  | none => rw [read]; rfl
  | some s => rw [read]; simp [Literal.draft]

theorem readMembers_member {name : Option String} {draft : Draft} {front label back : List Char}
    (before : Blank front) (spells : Literal.Spells name label) (behind : Blank back)
    (read : readValue fuel (text ++ rest) = (draft, some rest))
    (done : List (Option String × Draft)) :
    readMembers (fuel + 1) done
        (front ++ '"' :: (label ++ (back ++ ':' :: (text ++ rest)))) =
      behindMember fuel ((name, draft) :: done) rest := by
  have named := spells (back ++ ':' :: (text ++ rest))
  have follows (name : Option String) (same : readValue fuel (text ++ rest) = (draft, some rest)) :
      behindName fuel done name (back ++ ':' :: (text ++ rest)) =
        behindMember fuel ((name, draft) :: done) rest := by
    simp only [behindName, afterColon, skipSpace_solid behind (by decide : isSpace ':' = false),
      same]
  simp only [readMembers_succ, skipSpace_solid before (by decide : isSpace '"' = false), named]
  cases name with
  | none => exact follows none read
  | some s => simpa only [String.ofList_toList] using follows (some s) read

end Draft

/-- What is written is read. -/
theorem Writes.reads (writes : Writes part text) : part.Reads text := by
  have succ {fuel size : Nat} (enough : 2 * (size + 1) ≤ fuel) :
      ∃ less, fuel = less + 1 ∧ 2 * size ≤ less := ⟨fuel - 1, by omega, by omega⟩
  induction writes with
  | null | yes | no =>
      rintro fuel rest enough -
      obtain ⟨fuel, rfl, -⟩ := succ enough
      rfl
  | number spells =>
      rintro fuel rest enough delimited
      obtain ⟨c, tail, rfl, -⟩ := spells.sign
      obtain ⟨fuel, rfl, -⟩ := succ enough
      exact Draft.readValue_numeral spells delimited
  | string spells =>
      rintro fuel rest enough -
      obtain ⟨fuel, rfl, -⟩ := succ enough
      exact Draft.readValue_literal spells
  | space space _ ih =>
      rintro fuel rest enough delimited
      rw [List.cons_append, ← Draft.readValue_skipSpace, Draft.skipSpace_space space,
        Draft.readValue_skipSpace]
      rw [List.length_cons] at enough
      exact ih fuel rest (by omega) delimited
  | emptyArray blank =>
      rintro fuel rest enough -
      obtain ⟨fuel, rfl, -⟩ := succ enough
      simp only [List.cons_append, List.append_assoc, List.nil_append, Draft.readValue,
        Draft.skipSpace_cons (by decide : Draft.isSpace '[' = false),
        Draft.skipSpace_solid blank (by decide : Draft.isSpace ']' = false)]
  | emptyObject blank =>
      rintro fuel rest enough -
      obtain ⟨fuel, rfl, -⟩ := succ enough
      simp only [List.cons_append, List.append_assoc, List.nil_append, Draft.readValue,
        Draft.skipSpace_cons (by decide : Draft.isSpace '\x7b' = false),
        Draft.skipSpace_solid blank (by decide : Draft.isSpace '\x7d' = false)]
  | array listed ih =>
      rintro fuel rest enough -
      obtain ⟨fuel, rfl, room⟩ := succ enough
      have read := ih fuel [] rest room
      obtain ⟨blanks, c, tail, rfl, blank, solid, filled, -⟩ := listed.exists_front
      rw [List.append_assoc, List.cons_append] at read
      rw [List.cons_append, List.append_assoc, List.cons_append,
        Draft.readValue_items blank solid filled, read]
      rfl
  | object listed ih =>
      rintro fuel rest enough -
      obtain ⟨fuel, rfl, room⟩ := succ enough
      have read := ih fuel [] rest room
      obtain ⟨blanks, c, tail, rfl, blank, solid, -, filled⟩ := listed.exists_front
      rw [List.append_assoc, List.cons_append] at read
      rw [List.cons_append, List.append_assoc, List.cons_append,
        Draft.readValue_members blank solid filled, read]
      rfl
  | @lastItem item text blanks _ blank ih =>
      intro fuel done rest enough
      simp only [List.length_append, List.length_cons, List.length_nil] at enough
      obtain ⟨fuel, rfl⟩ : ∃ less, fuel = less + 1 := ⟨fuel - 1, by omega⟩
      have read := ih fuel (blanks ++ ']' :: rest) (by omega) (delimited_blanks blank (by simp))
      rw [List.append_assoc, List.append_assoc, List.singleton_append, Draft.readItems, read]
      simp only [Draft.skipSpace_solid blank (by decide : Draft.isSpace ']' = false),
        List.reverse_cons]
  | @nextItem item items text blanks more _ blank _ ih others =>
      intro fuel done rest enough
      simp only [List.length_append, List.length_cons] at enough
      obtain ⟨fuel, rfl⟩ : ∃ less, fuel = less + 1 := ⟨fuel - 1, by omega⟩
      have read := ih fuel (blanks ++ ',' :: (more ++ rest)) (by omega)
        (delimited_blanks blank (by simp))
      rw [List.append_assoc, List.append_assoc, List.cons_append, Draft.readItems, read]
      simp only [Draft.skipSpace_solid blank (by decide : Draft.isSpace ',' = false)]
      rw [others fuel (item :: done) rest (by omega)]
      simp
  | @member name draft front label back text before spells behind _ ih =>
      intro fuel done rest enough delimited
      simp only [List.length_append, List.length_cons] at enough
      have read := Draft.readMembers_member before spells behind
        (ih fuel rest (by omega) delimited) done
      simpa only [List.append_assoc, List.cons_append] using read
  | @lastMember one text blanks _ blank ih =>
      intro fuel done rest enough
      simp only [List.length_append, List.length_cons, List.length_nil] at enough
      obtain ⟨fuel, rfl⟩ : ∃ less, fuel = less + 1 := ⟨fuel - 1, by omega⟩
      have read := ih fuel done (blanks ++ '\x7d' :: rest) (by omega)
        (delimited_blanks blank (by simp))
      rw [List.append_assoc, List.append_assoc, List.singleton_append, read, Draft.behindMember]
      simp only [Draft.skipSpace_solid blank (by decide : Draft.isSpace '\x7d' = false),
        List.reverse_cons]
  | @nextMember one members text blanks more _ blank _ ih others =>
      intro fuel done rest enough
      simp only [List.length_append, List.length_cons] at enough
      obtain ⟨fuel, rfl⟩ : ∃ less, fuel = less + 1 := ⟨fuel - 1, by omega⟩
      have read := ih fuel done (blanks ++ ',' :: (more ++ rest)) (by omega)
        (delimited_blanks blank (by simp))
      rw [List.append_assoc, List.append_assoc, List.cons_append, read, Draft.behindMember]
      simp only [Draft.skipSpace_solid blank (by decide : Draft.isSpace ',' = false)]
      rw [others fuel (one :: done) rest (by omega)]
      simp

end Reading

namespace Document

variable {draft : Draft} {text : String}

/-- A document is read as it is written. -/
theorem Writes.read (writes : Document.Writes draft text) :
    Document.read text.toList = ⟨draft, true⟩ := by
  obtain ⟨front, blanks, same, writes, blank⟩ := writes
  have delimited : Delimited blanks := fun c first => .inl (blank c (List.mem_of_head? first))
  have enough : 2 * front.length ≤ 2 * (front ++ blanks).length + 2 := by
    rw [List.length_append]
    omega
  have last : Draft.skipSpace blanks = [] := List.dropWhile_eq_nil_iff.2 blank
  rw [same, Document.read, writes.reads _ blanks enough delimited]
  simp only [last, List.isEmpty_nil]

end Document

end GuestPod.Json
