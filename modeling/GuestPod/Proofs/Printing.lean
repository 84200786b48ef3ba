/-
This file reads a printed JSON text back.  The draft of the text is the value that was printed,
provided that the numbers are exact.
-/

import GuestPod.Proofs.Digits
import GuestPod.Proofs.Failure
import GuestPod.Proofs.Nesting
import GuestPod.Proofs.Quotation

namespace GuestPod.Json

/-- What may follow a value: the end of the text, a comma or the end of a list. -/
def Ends (rest : List Char) : Prop :=
  ∀ c tail, rest = c :: tail → c = ',' ∨ c = ']' ∨ c = '\x7d'

theorem ends_nil : Ends [] := by
  intro c tail same
  cases same

theorem ends_cons {c : Char} {rest : List Char} (mark : c = ',' ∨ c = ']' ∨ c = '\x7d') :
    Ends (c :: rest) := by
  intro other tail same
  cases same
  exact mark

namespace Numeral

variable {rest : List Char}

theorem digitsEnd_of_ends (ended : Ends rest) : Text.DigitsEnd rest := by
  intro c tail same
  rcases ended c tail same with rfl | rfl | rfl <;> decide

theorem fractionOf_of_ends (ended : Ends rest) : fractionOf rest = .ok (none, rest) := by
  unfold fractionOf
  split
  · rename_i tail
    rcases ended '.' tail rfl with mark | mark | mark <;> exact absurd mark (by decide)
  · rfl

theorem exponentOf_of_ends (ended : Ends rest) : exponentOf rest = .ok (none, rest) := by
  cases rest with
  | nil => rfl
  | cons c tail => rcases ended c tail rfl with rfl | rfl | rfl <;> rfl

/-- The digits of a number are its whole part. -/
theorem wholeOf_toDigits (n : Nat) (ended : Ends rest) :
    wholeOf (Nat.toDigits 10 n ++ rest) = .ok (Nat.toDigits 10 n, rest) := by
  have run : ∀ c ∈ Nat.toDigits 10 n, c.isDigit = true := fun c => Text.isDigit_of_mem_toDigits
  have stop := digitsEnd_of_ends ended
  unfold wholeOf
  split
  · rename_i tail text
    cases digits : Nat.toDigits 10 n with
    | nil => exact absurd digits Nat.toDigits_ne_nil
    | cons first more =>
        rw [digits, List.cons_append, List.cons.injEq] at text
        obtain ⟨rfl, rfl⟩ := text
        obtain rfl := Text.tail_eq_nil_of_toDigits digits
        simp [stop.takeWhile_eq_nil]
  · unfold digitsOf
    rw [Text.takeWhile_isDigit_append run stop, Text.dropWhile_isDigit_append run stop]
    split
    · rename_i digits
      exact absurd digits Nat.toDigits_ne_nil
    · rfl

theorem scan_toDigits (n : Nat) (ended : Ends rest) :
    scan (Nat.toDigits 10 n ++ rest) = .ok (⟨false, Nat.toDigits 10 n, none, none⟩, rest) := by
  have unsigned : ∀ tail, Nat.toDigits 10 n ++ rest ≠ '-' :: tail := by
    intro tail same
    cases digits : Nat.toDigits 10 n with
    | nil => exact absurd digits Nat.toDigits_ne_nil
    | cons first more =>
        rw [digits, List.cons_append, List.cons.injEq] at same
        have digit : first.isDigit = true :=
          Text.isDigit_of_mem_toDigits (n := n) (by rw [digits]; exact List.mem_cons_self ..)
        rw [same.1] at digit
        exact absurd digit (by decide)
  unfold scan
  split
  · rename_i negative tail sign
    obtain ⟨rfl, rfl⟩ : false = negative ∧ Nat.toDigits 10 n ++ rest = tail := by
      split at sign
      · rename_i tail same
        exact absurd same (unsigned tail)
      · exact Prod.mk.inj sign
    simp only [wholeOf_toDigits n ended, fractionOf_of_ends ended, exponentOf_of_ends ended,
      ok_bind, pure_eq_ok]

theorem scan_minus (n : Nat) (ended : Ends rest) :
    scan ('-' :: Nat.toDigits 10 n ++ rest) =
      .ok (⟨true, Nat.toDigits 10 n, none, none⟩, rest) := by
  simp only [scan, List.cons_append, wholeOf_toDigits n ended, fractionOf_of_ends ended,
    exponentOf_of_ends ended, ok_bind, pure_eq_ok]

/-- A number below the bound takes all its digits. -/
theorem fit_of_lt {digits : List Char} {value : Nat}
    (below : Nat.ofDigitChars 10 digits value < Text.wordBound 64) :
    fit value digits = (Nat.ofDigitChars 10 digits value, []) := by
  induction digits generalizing value with
  | nil => rfl
  | cons c rest ih =>
      rw [Text.ofDigitChars_cons_digitValue] at below ⊢
      have next := Nat.lt_of_le_of_lt (Text.le_ofDigitChars rest _) below
      rw [fit, if_pos next, ih below]

theorem value_whole (negative : Bool) {n : Nat} (below : n < Text.wordBound 64) :
    (Numeral.mk negative (Nat.toDigits 10 n) none none).value = integer negative n := by
  have fits : fit 0 (Nat.toDigits 10 n) = (n, []) := by
    rw [fit_of_lt (by rwa [Nat.ofDigitChars_ten_toDigits]), Nat.ofDigitChars_ten_toDigits]
  simp [value, fits]

end Numeral

theorem wordBound_eq (bits : Nat) : Text.wordBound bits = 2 ^ bits := rfl

/-- An exact number is read as it was printed. -/
theorem Draft.numeral_print {n : Number} (exact : n.Exact) {rest : List Char} (ended : Ends rest) :
    Draft.numeral (n.print ++ rest) = (.number n, some rest) := by
  cases n with
  | real x => exact exact.elim
  | integer n =>
      obtain ⟨low, high⟩ := exact
      rw [wordBound_eq] at low high
      cases n with
      | ofNat n =>
          have below : n < Text.wordBound 64 := by
            rw [wordBound_eq]
            simp only [Int.ofNat_eq_natCast] at high
            omega
          simp [numeral, Number.print, Numeral.scan_toDigits n ended,
            Numeral.value_whole false below, Numeral.integer]
      | negSucc n =>
          have small : n + 1 ≤ Text.wordBound 63 := by
            rw [wordBound_eq]
            omega
          have below : n + 1 < Text.wordBound 64 := by
            rw [wordBound_eq] at small ⊢
            omega
          have whole : Numeral.integer true (n + 1) = some (.integer (Int.negSucc n)) := by
            simp [Numeral.integer, Nat.not_lt.2 small]
            omega
          simp only [numeral, Number.print, Numeral.scan_minus (n + 1) ended,
            Numeral.value_whole true below, whole]

theorem Draft.ofItems_eq_map (items : List Json) : ofItems items = items.map ofValue := by
  induction items with
  | nil => rfl
  | cons item rest ih => rw [ofItems, ih, List.map_cons]

theorem Draft.ofMembers_eq_map (members : Members) :
    ofMembers members = members.map fun member => (some member.1, ofValue member.2) := by
  induction members with
  | nil => rfl
  | cons member rest ih =>
      obtain ⟨name, value⟩ := member
      rw [ofMembers, ofMember, ih, List.map_cons]

theorem printItems_cons (item next : Json) (rest : List Json) :
    printItems (item :: next :: rest) = item.print ++ ',' :: printItems (next :: rest) := rfl

theorem printMembers_cons (member next : String × Json) (rest : Members) :
    printMembers (member :: next :: rest) =
      printMember member ++ ',' :: printMembers (next :: rest) := rfl

/-- The first character of a printed number is a digit or a minus. -/
theorem Number.exists_print_cons {n : Number} (exact : n.Exact) :
    ∃ c tail, n.print = c :: tail ∧ (c = '-' ∨ c.isDigit = true) := by
  cases n with
  | real x => exact exact.elim
  | integer n =>
      cases n with
      | negSucc n => exact ⟨'-', _, rfl, .inl rfl⟩
      | ofNat n =>
          cases digits : Nat.toDigits 10 n with
          | nil => exact absurd digits Nat.toDigits_ne_nil
          | cons first more =>
              exact ⟨first, more, digits, .inr (Text.isDigit_of_mem_toDigits (n := n)
                (by rw [digits]; exact List.mem_cons_self ..))⟩

theorem Draft.isSpace_eq_false_of_sign {c : Char} (sign : c = '-' ∨ c.isDigit = true) :
    isSpace c = false := by
  rcases sign with rfl | digit
  · decide
  · by_contra space
    simp only [isSpace, Bool.or_eq_true, decide_eq_true_eq, Bool.not_eq_false] at space
    rcases space with ((rfl | rfl) | rfl) | rfl <;> exact absurd digit (by decide)

/-- No text of a value begins like a blank or like the end of a list. -/
theorem exists_print_cons {value : Json} (exact : value.Exact) :
    ∃ c tail, value.print = c :: tail ∧ Draft.isSpace c = false ∧ c ≠ ']' := by
  cases value with
  | null => exact ⟨_, _, rfl, by decide, by decide⟩
  | boolean b => cases b <;> exact ⟨_, _, rfl, by decide, by decide⟩
  | number n =>
      obtain ⟨c, tail, text, sign⟩ := Number.exists_print_cons exact
      refine ⟨c, tail, text, Draft.isSpace_eq_false_of_sign sign, ?_⟩
      rintro rfl
      exact absurd sign (by decide)
  | string s => exact ⟨_, _, rfl, by decide, by decide⟩
  | array items => exact ⟨_, _, rfl, by decide, by decide⟩
  | object members => exact ⟨_, _, rfl, by decide, by decide⟩

theorem Draft.skipSpace_cons {c : Char} (solid : isSpace c = false) (rest : List Char) :
    skipSpace (c :: rest) = c :: rest := by
  rw [skipSpace, List.dropWhile_cons_of_neg (by simp [solid])]

namespace Draft

section Lists

variable {fuel : Nat} {text body rest : List Char} {item value : Draft}

theorem readItems_last (read : readValue fuel text = (item, some (']' :: rest)))
    (done : List Draft) :
    readItems (fuel + 1) done text = (.array (item :: done).reverse none, some rest) := by
  rw [readItems, read]
  rfl

theorem readItems_next (read : readValue fuel text = (item, some (',' :: rest)))
    (done : List Draft) :
    readItems (fuel + 1) done text = readItems fuel (item :: done) rest := by
  rw [readItems, read]
  rfl

variable {content : List Char} {done : List (Option String × Draft)}

theorem readMembers_last (named : Literal.read text = .whole content (':' :: body))
    (read : readValue fuel body = (value, some ('\x7d' :: rest))) :
    readMembers (fuel + 1) done ('"' :: text) =
      (.object ((some (String.ofList content), value) :: done).reverse none, some rest) := by
  simp only [readMembers, skipSpace_cons (by decide : isSpace '"' = false), named, afterColon,
    skipSpace_cons (by decide : isSpace ':' = false), read,
    skipSpace_cons (by decide : isSpace '\x7d' = false)]

theorem readMembers_next (named : Literal.read text = .whole content (':' :: body))
    (read : readValue fuel body = (value, some (',' :: rest))) :
    readMembers (fuel + 1) done ('"' :: text) =
      readMembers fuel ((some (String.ofList content), value) :: done) rest := by
  simp only [readMembers, skipSpace_cons (by decide : isSpace '"' = false), named, afterColon,
    skipSpace_cons (by decide : isSpace ':' = false), read,
    skipSpace_cons (by decide : isSpace ',' = false)]

end Lists

/-- With enough fuel the text of a value is read as the draft of the value. -/
def Reads (value : Json) : Prop :=
  ∀ fuel rest, 2 * value.print.length ≤ fuel → Ends rest →
    readValue fuel (value.print ++ rest) = (ofValue value, some rest)

theorem readItems_print {items : List Json} (reads : ∀ item ∈ items, Reads item)
    (filled : items ≠ []) (done : List Draft) (fuel : Nat) (rest : List Char)
    (enough : 2 * (printItems items).length + 1 ≤ fuel) :
    readItems fuel done (printItems items ++ ']' :: rest) =
      (.array (done.reverse ++ items.map ofValue) none, some rest) := by
  induction items generalizing done fuel with
  | nil => exact absurd rfl filled
  | cons item items ih =>
      obtain ⟨fuel, rfl⟩ : ∃ less, fuel = less + 1 := ⟨fuel - 1, by omega⟩
      have first := reads item (List.mem_cons_self ..) fuel
      cases items with
      | nil =>
          have room : 2 * item.print.length ≤ fuel := by
            simp only [printItems] at enough
            omega
          rw [printItems, readItems_last (first _ room (ends_cons (by simp)))]
          simp
      | cons next items =>
          rw [printItems_cons, List.length_append, List.length_cons] at enough
          rw [printItems_cons, List.append_assoc, List.cons_append,
            readItems_next (first _ (by omega) (ends_cons (by simp))),
            ih (fun item member => reads item (List.mem_cons_of_mem _ member)) (by simp) _
              fuel (by omega)]
          simp

theorem printMember_append (name : String) (value : Json) (rest : List Char) :
    printMember (name, value) ++ rest =
      '"' :: (name.toList.flatMap escaped ++ '"' :: ':' :: (value.print ++ rest)) := by
  simp [printMember, printString]

theorem length_print_lt (name : String) (value : Json) :
    value.print.length < (printMember (name, value)).length := by
  simp [printMember]
  omega

theorem readMembers_print {members : Members} (reads : ∀ member ∈ members, Reads member.2)
    (filled : members ≠ []) (done : List (Option String × Draft)) (fuel : Nat) (rest : List Char)
    (enough : 2 * (printMembers members).length + 1 ≤ fuel) :
    readMembers fuel done (printMembers members ++ '\x7d' :: rest) =
      (.object (done.reverse ++ members.map fun member => (some member.1, ofValue member.2)) none,
        some rest) := by
  induction members generalizing done fuel with
  | nil => exact absurd rfl filled
  | cons member members ih =>
      obtain ⟨name, value⟩ := member
      obtain ⟨fuel, rfl⟩ : ∃ less, fuel = less + 1 := ⟨fuel - 1, by omega⟩
      have first : Reads value := reads (name, value) (List.mem_cons_self ..)
      have size := length_print_lt name value
      cases members with
      | nil =>
          simp only [printMembers] at enough
          rw [printMembers, printMember_append, readMembers_last (Literal.read_printed _ _)
            (first fuel _ (by omega) (ends_cons (by simp)))]
          simp
      | cons next members =>
          rw [printMembers_cons, List.length_append, List.length_cons] at enough
          rw [printMembers_cons, List.append_assoc, List.cons_append, printMember_append,
            readMembers_next (Literal.read_printed _ _)
              (first fuel _ (by omega) (ends_cons (by simp))),
            ih (fun member inside => reads member (List.mem_cons_of_mem _ inside)) (by simp) _
              fuel (by omega)]
          simp

theorem readValue_sign {c : Char} (sign : c = '-' ∨ c.isDigit = true) (fuel : Nat)
    (rest : List Char) : readValue (fuel + 1) (c :: rest) = numeral (c :: rest) := by
  rw [readValue, skipSpace_cons (isSpace_eq_false_of_sign sign)]
  split
  · rename_i same
    cases same
  iterate 6
    · rename_i same
      obtain rfl := (List.cons.inj same).1
      exact absurd sign (by decide)
  · rename_i same
    obtain ⟨rfl, rfl⟩ := List.cons.inj same
    exact if_pos sign

theorem readValue_array {c : Char} (solid : isSpace c = false) (filled : c ≠ ']') (fuel : Nat)
    (rest : List Char) :
    readValue (fuel + 1) ('[' :: c :: rest) = readItems fuel [] (c :: rest) := by
  simp only [readValue, skipSpace_cons (by decide : isSpace '[' = false), skipSpace_cons solid]
  split
  · rename_i same
    cases same
  · rename_i same
    exact absurd (List.cons.inj same).1 filled
  · rfl

theorem readValue_object (fuel : Nat) (rest : List Char) :
    readValue (fuel + 1) ('\x7b' :: '"' :: rest) = readMembers fuel [] ('"' :: rest) := by
  simp only [readValue, skipSpace_cons (by decide : isSpace '\x7b' = false),
    skipSpace_cons (by decide : isSpace '"' = false)]
  rfl

theorem print_array_append (items : List Json) (rest : List Char) :
    (Json.array items).print ++ rest = '[' :: (printItems items ++ ']' :: rest) := by
  simp [print]

theorem print_object_append (members : Members) (rest : List Char) :
    (Json.object members).print ++ rest = '\x7b' :: (printMembers members ++ '\x7d' :: rest) := by
  simp [print]

theorem exists_printItems_cons {item : Json} (exact : item.Exact) (rest : List Json) :
    ∃ c tail, printItems (item :: rest) = c :: tail ∧ isSpace c = false ∧ c ≠ ']' := by
  obtain ⟨c, tail, text, solid, filled⟩ := exists_print_cons exact
  cases rest with
  | nil => exact ⟨c, tail, text, solid, filled⟩
  | cons next rest =>
      exact ⟨c, tail ++ ',' :: printItems (next :: rest), by rw [printItems_cons, text]; rfl, solid,
        filled⟩

theorem exists_printMembers_cons (member : String × Json) (rest : Members) :
    ∃ tail, printMembers (member :: rest) = '"' :: tail := by
  obtain ⟨name, value⟩ := member
  have text := printMember_append name value
  cases rest with
  | nil => exact ⟨_, (List.append_nil _).symm.trans (text [])⟩
  | cons next rest => exact ⟨_, (printMembers_cons ..).trans (text _)⟩

/-- The text of an exact value is read as the draft of the value. -/
theorem readValue_print {value : Json} (exact : value.Exact) : Reads value := by
  induction value using byNesting with
  | null =>
      intro fuel rest enough _
      obtain ⟨fuel, rfl⟩ : ∃ less, fuel = less + 1 := ⟨fuel - 1, by simp [print] at enough; omega⟩
      rfl
  | boolean b =>
      intro fuel rest enough _
      cases b <;>
        (obtain ⟨fuel, rfl⟩ : ∃ less, fuel = less + 1 :=
          ⟨fuel - 1, by simp [print] at enough; omega⟩
         rfl)
  | number n =>
      intro fuel rest enough ended
      obtain ⟨c, tail, text, sign⟩ := Number.exists_print_cons exact
      obtain ⟨fuel, rfl⟩ : ∃ less, fuel = less + 1 :=
        ⟨fuel - 1, by simp [print, text] at enough; omega⟩
      have numeral := numeral_print exact ended
      rw [text, List.cons_append] at numeral
      rw [print, text, List.cons_append, readValue_sign sign, numeral]
      rfl
  | string s =>
      intro fuel rest enough _
      obtain ⟨fuel, rfl⟩ : ∃ less, fuel = less + 1 :=
        ⟨fuel - 1, by simp [print, printString] at enough; omega⟩
      rw [print, printString_append]
      simp only [readValue, skipSpace_cons (by decide : isSpace '"' = false), literal,
        Literal.read_printed, String.ofList_toList, ofValue]
  | array items ih =>
      intro fuel rest enough _
      have inner := (exact_array items).1 exact
      obtain ⟨fuel, rfl⟩ : ∃ less, fuel = less + 1 := ⟨fuel - 1, by simp [print] at enough; omega⟩
      cases items with
      | nil => rfl
      | cons item items =>
          simp only [print, List.length_cons, List.length_append, List.length_nil] at enough
          obtain ⟨c, tail, text, solid, filled⟩ :=
            exists_printItems_cons (inner item (List.mem_cons_self ..)) items
          have read := readItems_print (fun item member => ih item member (inner item member))
            (by simp) [] fuel rest (by omega)
          rw [text, List.cons_append] at read
          rw [print_array_append, text, List.cons_append, readValue_array solid filled, read,
            ofValue, ofItems_eq_map]
          rfl
  | object members ih =>
      intro fuel rest enough _
      have inner := (exact_object members).1 exact
      obtain ⟨fuel, rfl⟩ : ∃ less, fuel = less + 1 := ⟨fuel - 1, by simp [print] at enough; omega⟩
      cases members with
      | nil => rfl
      | cons member members =>
          simp only [print, List.length_cons, List.length_append, List.length_nil] at enough
          obtain ⟨tail, text⟩ := exists_printMembers_cons member members
          have read := readMembers_print
            (fun member inside => ih member inside (inner member inside)) (by simp) []
            fuel rest (by omega)
          rw [text, List.cons_append] at read
          rw [print_object_append, text, List.cons_append, readValue_object, read, ofValue,
            ofMembers_eq_map]
          rfl

end Draft

/-- A document that holds the text of an exact value is the draft of the value. -/
theorem Document.read_print {value : Json} (exact : value.Exact) :
    Document.read value.print = ⟨.ofValue value, true⟩ := by
  have read := Draft.readValue_print exact (2 * value.print.length + 2) [] (by omega) ends_nil
  rw [List.append_nil] at read
  rw [Document.read, read]
  rfl

end GuestPod.Json
