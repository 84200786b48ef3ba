/-
This file takes the literals and numerals of JSON out of the texts that they stand in: what was read
of one text is read of every other, whatever follows.
-/

import GuestPod.Proofs.Printing

namespace GuestPod.Json

/-- What may stand behind a value: a blank, a comma or the end of a list, or nothing at all. -/
def Delimited (rest : List Char) : Prop :=
  ∀ c ∈ rest.head?, Draft.isSpace c = true ∨ c = ',' ∨ c = ']' ∨ c = '\x7d'

namespace Literal

/-- The text of a literal behind its opening quote.  A literal that holds half a surrogate pair has
no content. -/
def Spells (content : Option String) (text : List Char) : Prop :=
  ∀ rest, read (text ++ rest) = match content with
    | some s => .whole s.toList rest
    | none => .unpaired rest

/-- The scanner looks no further than the closing quote. -/
theorem scan_closed {done pieces : List Piece} {text rest : List Char}
    (scanned : scan done text = (pieces, .closed rest)) :
    ∃ front, text = front ++ rest ∧
      ∀ other, scan done (front ++ other) = (pieces, .closed other) := by
  fun_induction scan done text with
  | case2 done closed =>
      obtain ⟨rfl, same⟩ := Prod.mk.inj scanned
      obtain rfl := Ending.closed.inj same
      exact ⟨['"'], rfl, fun other => scan_quote⟩
  | case4 done high second third low text code number _ ih =>
      obtain ⟨front, rfl, again⟩ := ih scanned
      exact ⟨'\\' :: 'u' :: high :: second :: third :: low :: front, rfl,
        fun other => (scan_unit number).trans (again other)⟩
  | case7 done letter text named plain escape _ ih =>
      obtain ⟨front, rfl, again⟩ := ih scanned
      exact ⟨'\\' :: letter :: front, rfl,
        fun other => (scan_letter named escape).trans (again other)⟩
  | case10 done c text quote backslash visible ih =>
      obtain ⟨front, rfl, again⟩ := ih scanned
      exact ⟨c :: front, rfl,
        fun other => (scan_plain quote backslash (Nat.not_lt.1 visible)).trans (again other)⟩
  | _ => cases scanned

theorem spells_of_whole {text content rest : List Char} (whole : read text = .whole content rest) :
    ∃ front, text = front ++ rest ∧ Spells (some (String.ofList content)) front := by
  unfold read at whole
  split at whole
  case h_1 pieces closed scanned =>
    split at whole
    case h_1 joined =>
      obtain ⟨rfl, rfl⟩ := Literal.whole.inj whole
      obtain ⟨front, rfl, again⟩ := scan_closed scanned
      refine ⟨front, rfl, fun other => ?_⟩
      simp only [read, again, joined, String.toList_ofList]
    case h_2 => cases whole
  case h_2 => split at whole <;> cases whole

theorem spells_of_unpaired {text rest : List Char} (unpaired : read text = .unpaired rest) :
    ∃ front, text = front ++ rest ∧ Spells none front := by
  unfold read at unpaired
  split at unpaired
  case h_1 pieces closed scanned =>
    split at unpaired
    case h_1 => cases unpaired
    case h_2 joined =>
      obtain rfl := Literal.unpaired.inj unpaired
      obtain ⟨front, rfl, again⟩ := scan_closed scanned
      refine ⟨front, rfl, fun other => ?_⟩
      simp only [read, again, joined]
  case h_2 => split at unpaired <;> cases unpaired

end Literal

namespace Numeral

/-- The text of a numeral, wherever a value may stand. -/
def Spells (parts : Numeral) (text : List Char) : Prop :=
  ∀ rest, Delimited rest → scan (text ++ rest) = .ok (parts, rest)

variable {text rest digits : List Char}

/-- What may stand behind the fraction of a numeral: neither a digit nor a point. -/
def FractionEnd (rest : List Char) : Prop :=
  Text.DigitsEnd rest ∧ rest.head? ≠ some '.'

theorem digitsOf_eq_ok_iff : digitsOf text = .ok (digits, rest) ↔
    text = digits ++ rest ∧ digits ≠ [] ∧ (∀ c ∈ digits, c.isDigit = true) ∧
      Text.DigitsEnd rest := by
  unfold digitsOf
  constructor
  · intro read
    split at read
    case h_1 => cases read
    case h_2 run nonempty =>
      obtain ⟨rfl, rfl⟩ := Prod.mk.inj (Except.ok.inj read)
      refine ⟨List.takeWhile_append_dropWhile.symm, nonempty,
        List.all_eq_true.1 List.all_takeWhile, ?_⟩
      intro c tail same
      have stop := List.head?_dropWhile_not Char.isDigit text
      rw [same] at stop
      exact stop
  · rintro ⟨rfl, nonempty, run, stop⟩
    rw [Text.takeWhile_isDigit_append run stop, Text.dropWhile_isDigit_append run stop]
    split
    case h_1 => exact absurd rfl nonempty
    case h_2 => rfl

theorem wholeOf_local (read : wholeOf text = .ok (digits, rest)) :
    text = digits ++ rest ∧ (∃ c ∈ digits.head?, c.isDigit = true) ∧
      ∀ other, Text.DigitsEnd other → wholeOf (digits ++ other) = .ok (digits, other) := by
  unfold wholeOf at read
  split at read
  case h_1 tail =>
    split at read
    case isTrue =>
      obtain ⟨rfl, rfl⟩ := Prod.mk.inj (Except.ok.inj read)
      refine ⟨rfl, ⟨'0', rfl, rfl⟩, fun other stop => ?_⟩
      simp [wholeOf, stop.takeWhile_eq_nil]
    case isFalse => cases read
  case h_2 nonzero =>
    obtain ⟨rfl, nonempty, run, -⟩ := digitsOf_eq_ok_iff.1 read
    obtain ⟨c, more, rfl⟩ := List.exists_cons_of_ne_nil nonempty
    refine ⟨rfl, ⟨c, rfl, run c List.mem_cons_self⟩, fun other stop => ?_⟩
    have unpadded : c ≠ '0' := by
      rintro rfl
      exact nonzero _ rfl
    unfold wholeOf
    split
    case h_1 same => exact absurd (List.cons.inj same).1 unpadded
    case h_2 => exact digitsOf_eq_ok_iff.2 ⟨rfl, nonempty, run, stop⟩

theorem fractionOf_local {fraction : Option (List Char)}
    (read : fractionOf text = .ok (fraction, rest)) :
    ∃ front, text = front ++ rest ∧ ∀ other, FractionEnd other →
      fractionOf (front ++ other) = .ok (fraction, other) ∧ Text.DigitsEnd (front ++ other) := by
  unfold fractionOf at read
  split at read
  case h_1 tail =>
    obtain ⟨⟨digits, left⟩, taken, same⟩ := bind_eq_ok_iff.1 read
    obtain ⟨rfl, rfl⟩ := Prod.mk.inj (Except.ok.inj same)
    obtain ⟨rfl, nonempty, run, -⟩ := digitsOf_eq_ok_iff.1 taken
    refine ⟨'.' :: digits, rfl, fun other stop => ⟨?_, Text.digitsEnd_cons (by decide)⟩⟩
    have again := digitsOf_eq_ok_iff.2 ⟨rfl, nonempty, run, stop.1⟩
    simp [fractionOf, again]
  case h_2 =>
    obtain ⟨rfl, rfl⟩ := Prod.mk.inj (Except.ok.inj read)
    refine ⟨[], rfl, fun other stop => ⟨?_, stop.1⟩⟩
    unfold fractionOf
    split
    case h_1 tail same =>
      obtain rfl : other = '.' :: tail := same
      exact absurd rfl stop.2
    case h_2 => rfl

theorem fractionEnd_of_delimited (delimited : Delimited rest) : FractionEnd rest := by
  constructor
  · intro c tail same
    subst same
    rcases delimited c rfl with space | rfl | rfl | rfl
    · by_contra digit
      rw [Draft.isSpace_eq_false_of_sign (.inr (Bool.eq_true_of_not_eq_false digit))] at space
      cases space
    · decide
    · decide
    · decide
  · intro point
    exact absurd (delimited '.' point) (by decide)

theorem signOf_digit {c : Char} (digit : c.isDigit = true) :
    signOf (c :: rest) = (false, c :: rest) := by
  unfold signOf
  split
  case h_1 same =>
    obtain ⟨rfl, -⟩ := List.cons.inj same
    exact absurd digit (by decide)
  case h_2 same =>
    obtain ⟨rfl, -⟩ := List.cons.inj same
    exact absurd digit (by decide)
  case h_3 => rfl

/-- A sign may stand in front of the digits. -/
theorem signed_local {negative : Bool} {signed : List Char}
    (sign : signOf text = (negative, signed)) (read : digitsOf signed = .ok (digits, rest)) :
    ∃ front, text = front ++ rest ∧ ∀ other, Text.DigitsEnd other → ∃ signed,
      signOf (front ++ other) = (negative, signed) ∧ digitsOf signed = .ok (digits, other) := by
  obtain ⟨rfl, nonempty, run, -⟩ := digitsOf_eq_ok_iff.1 read
  have again {other : List Char} (stop : Text.DigitsEnd other) :
      digitsOf (digits ++ other) = .ok (digits, other) :=
    digitsOf_eq_ok_iff.2 ⟨rfl, nonempty, run, stop⟩
  unfold signOf at sign
  split at sign
  case h_1 =>
    obtain ⟨rfl, rfl⟩ := Prod.mk.inj sign
    exact ⟨'-' :: digits, rfl, fun other stop => ⟨_, rfl, again stop⟩⟩
  case h_2 =>
    obtain ⟨rfl, rfl⟩ := Prod.mk.inj sign
    exact ⟨'+' :: digits, rfl, fun other stop => ⟨_, rfl, again stop⟩⟩
  case h_3 =>
    obtain ⟨rfl, rfl⟩ := Prod.mk.inj sign
    obtain ⟨c, more, rfl⟩ := List.exists_cons_of_ne_nil nonempty
    exact ⟨c :: more, rfl, fun other stop =>
      ⟨_, signOf_digit (run c List.mem_cons_self), again stop⟩⟩

theorem exponentOf_local {exponent : Option (Bool × List Char)}
    (read : exponentOf text = .ok (exponent, rest)) :
    ∃ front, text = front ++ rest ∧ ∀ other, Delimited other →
      exponentOf (front ++ other) = .ok (exponent, other) ∧ FractionEnd (front ++ other) := by
  have none {other : List Char} (delimited : Delimited other) :
      exponentOf other = .ok (none, other) := by
    cases other with
    | nil => rfl
    | cons c tail =>
        have unmarked : ¬(c = 'e' ∨ c = 'E') := by
          rintro (rfl | rfl) <;> exact absurd (delimited _ rfl) (by decide)
        rw [exponentOf, if_neg unmarked]
  unfold exponentOf at read
  split at read
  case h_1 c tail =>
    split at read
    case isTrue mark =>
      obtain ⟨⟨digits, left⟩, taken, same⟩ := bind_eq_ok_iff.1 read
      obtain ⟨rfl, rfl⟩ := Prod.mk.inj (Except.ok.inj same)
      obtain ⟨front, rfl, again⟩ := signed_local rfl taken
      refine ⟨c :: front, rfl, fun other delimited => ?_⟩
      obtain ⟨signed, sign, digits⟩ := again other (fractionEnd_of_delimited delimited).1
      refine ⟨?_, ?_⟩
      · rw [List.cons_append, exponentOf, if_pos mark, sign]
        simp [digits]
      · rcases mark with rfl | rfl <;> exact ⟨Text.digitsEnd_cons (by decide), by simp⟩
    case isFalse =>
      obtain ⟨rfl, rfl⟩ := Prod.mk.inj (Except.ok.inj read)
      exact ⟨[], rfl, fun other delimited => ⟨none delimited, fractionEnd_of_delimited delimited⟩⟩
  case h_2 =>
    obtain ⟨rfl, rfl⟩ := Prod.mk.inj (Except.ok.inj read)
    exact ⟨[], rfl, fun other delimited => ⟨none delimited, fractionEnd_of_delimited delimited⟩⟩

/-- A numeral behind its sign. -/
def unsigned (negative : Bool) (text : List Char) : Except Halt (Numeral × List Char) := do
  let (whole, text) ← wholeOf text
  let (fraction, text) ← fractionOf text
  let (exponent, text) ← exponentOf text
  return (⟨negative, whole, fraction, exponent⟩, text)

theorem scan_negative : scan ('-' :: text) = unsigned true text := rfl

theorem scan_positive (bare : text.head? ≠ some '-') : scan text = unsigned false text := by
  unfold scan
  split
  case h_1 negative left sign =>
    split at sign
    case h_1 => exact absurd rfl bare
    case h_2 =>
      obtain ⟨rfl, rfl⟩ := Prod.mk.inj sign
      rfl

/-- The parts follow one another without a gap, so each ends where the next one begins. -/
theorem unsigned_local {negative : Bool} {parts : Numeral}
    (read : unsigned negative text = .ok (parts, rest)) :
    ∃ front, text = front ++ rest ∧ (∃ c ∈ front.head?, c.isDigit = true) ∧
      ∀ other, Delimited other → unsigned negative (front ++ other) = .ok (parts, other) := by
  obtain ⟨⟨whole, text'⟩, integer, read⟩ := bind_eq_ok_iff.1 read
  obtain ⟨⟨fraction, text''⟩, fractional, read⟩ := bind_eq_ok_iff.1 read
  obtain ⟨⟨exponent, left⟩, exponential, same⟩ := bind_eq_ok_iff.1 read
  obtain ⟨rfl, rfl⟩ := Prod.mk.inj (Except.ok.inj same)
  obtain ⟨rfl, ⟨c, first, digit⟩, wholly⟩ := wholeOf_local integer
  obtain ⟨middle, rfl, partly⟩ := fractionOf_local fractional
  obtain ⟨last, rfl, lastly⟩ := exponentOf_local exponential
  refine ⟨whole ++ (middle ++ last), by simp, ⟨c, ?_, digit⟩, fun other delimited => ?_⟩
  · rw [List.head?_append, Option.mem_def.1 first, Option.some_or]
    rfl
  · obtain ⟨exponential, ended⟩ := lastly other delimited
    obtain ⟨fractional, ended⟩ := partly _ ended
    have integer := wholly _ ended
    simp only [unsigned, List.append_assoc, integer, fractional, exponential, ok_bind, pure_eq_ok]

/-- A numeral reads the same before every delimiter. -/
theorem spells_of_scan {parts : Numeral} (scanned : scan text = .ok (parts, rest)) :
    ∃ front, text = front ++ rest ∧ Spells parts front ∧
      ∃ c ∈ front.head?, c = '-' ∨ c.isDigit = true := by
  by_cases bare : text.head? = some '-'
  · obtain ⟨tail, rfl⟩ := List.head?_eq_some_iff.1 bare
    rw [scan_negative] at scanned
    obtain ⟨front, rfl, -, again⟩ := unsigned_local scanned
    exact ⟨'-' :: front, rfl, again, '-', rfl, .inl rfl⟩
  · rw [scan_positive bare] at scanned
    obtain ⟨front, rfl, ⟨c, first, digit⟩, again⟩ := unsigned_local scanned
    refine ⟨front, rfl, fun other delimited => ?_, c, first, .inr digit⟩
    rw [scan_positive, again other delimited]
    rw [List.head?_append, Option.mem_def.1 first, Option.some_or]
    rintro ⟨⟩
    cases digit

end Numeral

end GuestPod.Json
