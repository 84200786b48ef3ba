/-
This file says which plain texts of YAML are unsigned integers, and which numbers they write.
-/

import GuestPod.Proofs.Digits
import GuestPod.Yaml.Resolution

namespace GuestPod.Yaml

/-- Digits below the radix, at least one, and the number that they write. -/
def Numeral (radix : Nat) (text : List Char) (n : Nat) : Prop :=
  text ≠ [] ∧ ∃ values : List Nat, text.map Text.hexValue = values.map some ∧
    (∀ value ∈ values, value < radix) ∧
      values.foldl (fun number value => radix * number + value) 0 = n

/-- Without a sign: in decimal with no zero in front, or in a radix that a letter behind a zero
names. -/
inductive Magnitude : List Char → Nat → Prop
  | decimal {text : List Char} {n : Nat} (numeral : Numeral 10 text n)
      (unpadded : text.head? = some '0' → text.length = 1) : Magnitude text n
  | hexadecimal {text : List Char} {n : Nat} (numeral : Numeral 16 text n) :
      Magnitude ('0' :: 'x' :: text) n
  | octal {text : List Char} {n : Nat} (numeral : Numeral 8 text n) :
      Magnitude ('0' :: 'o' :: text) n
  | binary {text : List Char} {n : Nat} (numeral : Numeral 2 text n) :
      Magnitude ('0' :: 'b' :: text) n

/-- A plus may stand in front, and nothing else. -/
inductive Unsigned : List Char → Nat → Prop
  | bare {text : List Char} {n : Nat} (magnitude : Magnitude text n) : Unsigned text n
  | plus {text : List Char} {n : Nat} (magnitude : Magnitude text n) : Unsigned ('+' :: text) n

/-- What the core schema of YAML lists: zeros may stand in front of a decimal, a plus goes with
decimals only, and there is no binary form. -/
inductive CoreUnsigned : List Char → Nat → Prop
  | decimal {text : List Char} {n : Nat} (numeral : Numeral 10 text n) : CoreUnsigned text n
  | plus {text : List Char} {n : Nat} (numeral : Numeral 10 text n) : CoreUnsigned ('+' :: text) n
  | hexadecimal {text : List Char} {n : Nat} (numeral : Numeral 16 text n) :
      CoreUnsigned ('0' :: 'x' :: text) n
  | octal {text : List Char} {n : Nat} (numeral : Numeral 8 text n) :
      CoreUnsigned ('0' :: 'o' :: text) n

namespace Resolution

variable {radix n : Nat} {text : List Char}

theorem foldlM_eq_some_iff {value : Nat} :
    text.foldlM (fun value c =>
        ((Text.hexValue c).filter (· < radix)).map (radix * value + ·)) value = some n ↔
      ∃ values : List Nat, text.map Text.hexValue = values.map some ∧
        (∀ value ∈ values, value < radix) ∧
          values.foldl (fun number value => radix * number + value) value = n := by
  induction text generalizing value with
  | nil =>
      constructor
      · intro read
        exact ⟨[], rfl, by simp, Option.some.inj read⟩
      · rintro ⟨values, same, -, total⟩
        obtain rfl := List.map_eq_nil_iff.1 same.symm
        exact congrArg some total
  | cons c text ih =>
      rw [List.foldlM_cons, Option.bind_eq_bind, Option.bind_eq_some_iff]
      constructor
      · rintro ⟨next, first, read⟩
        obtain ⟨digit, found, rfl⟩ := Option.map_eq_some_iff.1 first
        obtain ⟨known, small⟩ := Option.filter_eq_some_iff.1 found
        obtain ⟨values, same, below, total⟩ := ih.1 read
        refine ⟨digit :: values, by simp [known, same], ?_, total⟩
        exact List.forall_mem_cons.2 ⟨of_decide_eq_true small, below⟩
      · rintro ⟨_ | ⟨digit, values⟩, same, below, total⟩
        · cases same
        · obtain ⟨known, same⟩ := List.cons.inj same
          rw [List.forall_mem_cons] at below
          refine ⟨radix * value + digit, ?_, ih.2 ⟨values, same, below.2, total⟩⟩
          rw [known, Option.filter_some, if_pos (decide_eq_true below.1), Option.map_some]

theorem digits_eq_some_iff : digits radix text = some n ↔ Numeral radix text n := by
  cases text with
  | nil => simp [digits, Numeral]
  | cons c text =>
      rw [digits, Numeral, foldlM_eq_some_iff]
      · simp
      · simp

theorem isDigit_of_hexValue {c : Char} {value : Nat} (known : Text.hexValue c = some value)
    (small : value < 10) : c.isDigit = true := by
  rw [Text.isDigit_iff_toNat]
  simp only [Text.hexValue, Char.le_def, UInt32.le_iff_toNat_le] at known
  split at known
  case isTrue digit => exact digit
  case isFalse =>
    -- The value of a letter is ten at least.
    split at known
    case isTrue lower =>
      have first : 97 ≤ c.toNat := lower.1
      have := Option.some.inj known
      omega
    case isFalse =>
      split at known
      case isTrue upper =>
        have first : 65 ≤ c.toNat := upper.1
        have := Option.some.inj known
        omega
      case isFalse => cases known

theorem isDigit_of_numeral (numeral : Numeral 10 text n) : ∀ c ∈ text, c.isDigit = true := by
  obtain ⟨-, values, same, below, -⟩ := numeral
  intro c member
  have listed : Text.hexValue c ∈ values.map some := same ▸ List.mem_map_of_mem member
  obtain ⟨value, inside, known⟩ := List.mem_map.1 listed
  exact isDigit_of_hexValue known.symm (below value inside)

theorem isPadded_eq_false_iff (run : ∀ c ∈ text, c.isDigit = true) :
    isPadded text = false ↔ (text.head? = some '0' → text.length = 1) := by
  rw [isPadded.eq_def]
  split
  case h_1 rest =>
    have run : rest.all Char.isDigit = true :=
      List.all_eq_true.2 fun c member => run c (List.mem_cons_of_mem _ member)
    simp [run]
  case h_2 other =>
    have unpadded : text.head? ≠ some '0' := by
      intro zero
      obtain ⟨rest, rfl⟩ := List.head?_eq_some_iff.1 zero
      exact other rest rfl
    simp [unpadded]

/-- The letter behind a zero tells the radix, since no letter of a prefix is a decimal digit. -/
theorem magnitude_eq_some_iff : magnitude text = some n ↔ Magnitude text n := by
  have prefixed {c : Char} {rest : List Char} (letter : c.isDigit = false) :
      ¬Numeral 10 ('0' :: c :: rest) n := by
    intro numeral
    have digit := isDigit_of_numeral numeral c (by simp)
    exact absurd digit (by simp [letter])
  rw [magnitude.eq_def]
  split
  case h_1 rest =>
    rw [digits_eq_some_iff]
    refine ⟨.hexadecimal, fun magnitude => ?_⟩
    cases magnitude with
    | decimal numeral => exact absurd numeral (prefixed (by decide))
    | hexadecimal numeral => exact numeral
  case h_2 rest =>
    rw [digits_eq_some_iff]
    refine ⟨.octal, fun magnitude => ?_⟩
    cases magnitude with
    | decimal numeral => exact absurd numeral (prefixed (by decide))
    | octal numeral => exact numeral
  case h_3 rest =>
    rw [digits_eq_some_iff]
    refine ⟨.binary, fun magnitude => ?_⟩
    cases magnitude with
    | decimal numeral => exact absurd numeral (prefixed (by decide))
    | binary numeral => exact numeral
  case h_4 noHexadecimal noOctal noBinary =>
    rw [Option.ite_none_left_eq_some, Bool.not_eq_true, digits_eq_some_iff]
    constructor
    · rintro ⟨unpadded, numeral⟩
      exact .decimal numeral ((isPadded_eq_false_iff (isDigit_of_numeral numeral)).1 unpadded)
    · intro magnitude
      cases magnitude with
      | decimal numeral unpadded =>
          exact ⟨(isPadded_eq_false_iff (isDigit_of_numeral numeral)).2 unpadded, numeral⟩
      | hexadecimal => exact absurd rfl (noHexadecimal _)
      | octal => exact absurd rfl (noOctal _)
      | binary => exact absurd rfl (noBinary _)

theorem unsigned_eq_some_iff : unsigned text = some n ↔ Unsigned text n := by
  have signless {rest : List Char} : ¬Magnitude ('+' :: rest) n := by
    intro magnitude
    cases magnitude with
    | decimal numeral => exact absurd (isDigit_of_numeral numeral '+' (by simp)) (by decide)
  rw [unsigned.eq_def]
  split
  case h_1 rest =>
    rw [magnitude_eq_some_iff]
    refine ⟨.plus, fun unsigned => ?_⟩
    cases unsigned with
    | bare magnitude => exact absurd magnitude signless
    | plus magnitude => exact magnitude
  case h_2 bare =>
    rw [magnitude_eq_some_iff]
    refine ⟨.bare, fun unsigned => ?_⟩
    cases unsigned with
    | bare magnitude => exact magnitude
    | plus => exact absurd rfl (bare _)

/-- Words are the unsigned integers of sixty-four bits. -/
theorem word_eq_some_iff : word text = some n ↔ Unsigned text n ∧ n < Text.wordBound 64 := by
  rw [word, Option.filter_eq_some_iff, unsigned_eq_some_iff, decide_eq_true_eq]

end Resolution

end GuestPod.Yaml
