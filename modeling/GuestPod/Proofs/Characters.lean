/-
This file holds the printable characters, the places between them, and the gaps between words.
-/

import GuestPod.Yaml.Stream

namespace GuestPod.Yaml

/-- The characters of a text are checked one after another, not all characters that there are. -/
theorem forall_of_all {p : Char → Prop} [DecidablePred p] {text : List Char}
    (checked : text.all (p ·) = true) : ∀ c ∈ text, p c := by
  simpa using checked

/-- The characters from the space to the tilde. -/
def Printable (c : Char) : Prop := 0x20 ≤ c.toNat ∧ c.toNat ≤ 0x7E

instance : DecidablePred Printable := fun _ => inferInstanceAs (Decidable (_ ∧ _))

namespace Printable

variable {c : Char}

theorem ne_of_toNat_lt {other : Char} (printable : Printable c) (below : other.toNat < 0x20) :
    c ≠ other := by
  rintro rfl
  exact absurd printable.1 (by omega)

theorem isBreak (printable : Printable c) : isBreak c = false := by
  have feed : c ≠ '\n' := printable.ne_of_toNat_lt (by decide)
  have back : c ≠ '\r' := printable.ne_of_toNat_lt (by decide)
  have := printable.2
  simp only [Yaml.isBreak, feed, back, decide_false, Bool.false_or, Bool.or_eq_false_iff,
    decide_eq_false_iff_not]
  omega

theorem isBlank (printable : Printable c) : isBlank c = decide (c = ' ') := by
  have tab : c ≠ '\t' := printable.ne_of_toNat_lt (by decide)
  simp [Yaml.isBlank, tab]

theorem isAdmitted (printable : Printable c) : isAdmitted c = true := by
  obtain ⟨lower, upper⟩ := printable
  simp [Yaml.isAdmitted, lower, upper]

theorem utf8Size (printable : Printable c) : c.utf8Size = 1 := by
  have := printable.2
  rw [Char.utf8Size_eq_one_iff]
  exact UInt32.le_iff_toNat_le.2 (show c.toNat ≤ 127 by omega)

end Printable

/-- The characters within a line: no break, no tab and no byte order mark. -/
structure Inline (c : Char) : Prop where
  admitted : isAdmitted c = true
  unbroken : Yaml.isBreak c = false
  untabbed : c ≠ '\t'
  unmarked : c ≠ byteOrderMark

theorem Inline.isBlank {c : Char} (inline : Inline c) : isBlank c = decide (c = ' ') := by
  simp [Yaml.isBlank, inline.untabbed]

theorem Printable.inline {c : Char} (printable : Printable c) : Inline c where
  admitted := printable.isAdmitted
  unbroken := printable.isBreak
  untabbed := printable.ne_of_toNat_lt (by decide)
  unmarked := by
    rintro rfl
    exact absurd printable (by decide)

/-- The characters of names and numbers. -/
def Wordy (c : Char) : Prop := isWordChar c = true ∧ c ≠ '-'

instance : DecidablePred Wordy := fun _ => inferInstanceAs (Decidable (_ ∧ _))

namespace Wordy

variable {c : Char}

theorem ne {other : Char} (wordy : Wordy c) (foreign : ¬Wordy other) : c ≠ other := by
  rintro rfl
  exact foreign wordy

theorem printable (wordy : Wordy c) : Printable c := by
  have kind := wordy.1
  simp only [isWordChar, Bool.or_eq_true, Bool.and_eq_true, decide_eq_true_eq, Char.le_def,
    UInt32.le_iff_toNat_le] at kind
  rcases kind with (((digit | capital) | letter) | rfl) | rfl
  · exact ⟨Nat.le_trans (by decide) digit.1, Nat.le_trans digit.2 (by decide)⟩
  · exact ⟨Nat.le_trans (by decide) capital.1, Nat.le_trans capital.2 (by decide)⟩
  · exact ⟨Nat.le_trans (by decide) letter.1, Nat.le_trans letter.2 (by decide)⟩
  · decide
  · decide

theorem isBlank (wordy : Wordy c) : isBlank c = false := by
  rw [wordy.printable.isBlank]
  exact decide_eq_false (wordy.ne (by decide))

theorem isBreak (wordy : Wordy c) : isBreak c = false := wordy.printable.isBreak

theorem isIndicator (wordy : Wordy c) : Scanner.isIndicator c = false := by
  rw [Scanner.isIndicator, List.contains_eq_mem, decide_eq_false_iff_not]
  have foreign : ∀ other ∈ ['-', '?', ':', ',', '[', ']', '\x7b', '\x7d', '#', '&', '*', '!', '|',
      '>', '\'', '"', '%', '@', '\x60'], ¬Wordy other := forall_of_all (by decide)
  exact fun member => foreign c member wordy

theorem isFlowMark (wordy : Wordy c) : Plain.isFlowMark c = false := by
  simp only [Plain.isFlowMark, Bool.or_eq_false_iff, decide_eq_false_iff_not]
  exact ⟨⟨⟨⟨wordy.ne (by decide), wordy.ne (by decide)⟩, wordy.ne (by decide)⟩,
    wordy.ne (by decide)⟩, wordy.ne (by decide)⟩

end Wordy

/-- The characters of names in any script. -/
def Lettered (c : Char) : Prop := Wordy c ∨ (0xA0 ≤ c.toNat ∧ Inline c)

namespace Lettered

variable {c : Char}

theorem inline (lettered : Lettered c) : Inline c := by
  rcases lettered with wordy | ⟨-, inline⟩
  · exact wordy.printable.inline
  · exact inline

theorem ne {other : Char} (lettered : Lettered c) (low : other.toNat < 0xA0)
    (foreign : ¬Wordy other) : c ≠ other := by
  rintro rfl
  rcases lettered with wordy | ⟨high, -⟩
  · exact foreign wordy
  · omega

theorem isBlank (lettered : Lettered c) : isBlank c = false := by
  rw [lettered.inline.isBlank]
  exact decide_eq_false (lettered.ne (by decide) (by decide))

theorem isBreak (lettered : Lettered c) : isBreak c = false := lettered.inline.unbroken

/-- All indicators are among the first characters. -/
theorem isIndicator (lettered : Lettered c) : Scanner.isIndicator c = false := by
  rw [Scanner.isIndicator, List.contains_eq_mem, decide_eq_false_iff_not]
  have foreign : ∀ other ∈ ['-', '?', ':', ',', '[', ']', '\x7b', '\x7d', '#', '&', '*', '!', '|',
      '>', '\'', '"', '%', '@', '\x60'], other.toNat < 0xA0 ∧ ¬Wordy other :=
    forall_of_all (by decide)
  exact fun member => lettered.ne (foreign c member).1 (foreign c member).2 rfl

end Lettered

theorem byteCount_cons (c : Char) (text : List Char) :
    byteCount (c :: text) = c.utf8Size + byteCount text := by
  have counted : ∀ (text : List Char) (start : Nat),
      text.foldl (fun count c => count + c.utf8Size) start = start + byteCount text := by
    intro text
    induction text with
    | nil => exact fun start => rfl
    | cons c text ih =>
        intro start
        rw [byteCount, List.foldl_cons, List.foldl_cons, ih, ih (0 + c.utf8Size)]
        omega
  exact (counted text (0 + c.utf8Size)).trans (by rw [Nat.zero_add])

theorem byteCount_append (text more : List Char) :
    byteCount (text ++ more) = byteCount text + byteCount more := by
  induction text with
  | nil => exact (Nat.zero_add _).symm
  | cons c text ih => rw [List.cons_append, byteCount_cons, byteCount_cons, ih, Nat.add_assoc]

/-- No character takes more than four bytes. -/
theorem byteCount_le (text : List Char) : byteCount text ≤ 4 * text.length := by
  induction text with
  | nil => exact Nat.le_refl _
  | cons c text ih =>
      have := Char.utf8Size_le_four c
      rw [byteCount_cons, List.length_cons]
      omega

/-- Each printable character takes one byte. -/
theorem byteCount_of_printable {text : List Char} (printable : ∀ c ∈ text, Printable c) :
    byteCount text = text.length := by
  induction text with
  | nil => rfl
  | cons c text ih =>
      rw [List.forall_mem_cons] at printable
      rw [byteCount_cons, printable.1.utf8Size, ih printable.2, List.length_cons, Nat.add_comm]

theorem byteCount_spaces (count : Nat) : byteCount (List.replicate count ' ') = count := by
  have printable : ∀ c ∈ List.replicate count ' ', Printable c := by
    simpa [List.mem_replicate] using fun _ => by decide
  rw [byteCount_of_printable printable, List.length_replicate]

namespace Cursor

variable {rest : List Char} {index line column : Nat}

@[simp] theorem ahead?_uncut (count : Nat) :
    (⟨rest, false, index, line, column⟩ : Cursor).ahead? count =
      some ⟨rest, false, index, line, column⟩ := rfl

theorem advance_text (text : List Char) :
    (⟨text ++ rest, false, index, line, column⟩ : Cursor).advance text.length rest =
      ⟨rest, false, index + byteCount text, line, column + text.length⟩ := by
  simp [advance]

theorem advance_append {text : List Char} (printable : ∀ c ∈ text, Printable c) :
    (⟨text ++ rest, false, index, line, column⟩ : Cursor).advance text.length rest =
      ⟨rest, false, index + text.length, line, column + text.length⟩ := by
  rw [advance_text, byteCount_of_printable printable]

theorem skip_cons {c : Char} (printable : Printable c) :
    (⟨c :: rest, false, index, line, column⟩ : Cursor).skip 1 =
      ⟨rest, false, index + 1, line, column + 1⟩ := by
  simp [skip, advance, byteCount, printable.utf8Size]

theorem skipBreak_feed :
    (⟨'\n' :: rest, false, index, line, column⟩ : Cursor).skipBreak =
      ⟨rest, false, index + 1, line + 1, 0⟩ := by
  simp [skipBreak, Char.utf8Size]

theorem atDocumentMark_of_column {cursor : Cursor} (right : 0 < cursor.column) :
    cursor.atDocumentMark = false := by
  have differ : (cursor.column == 0) = false := by simpa using Nat.ne_of_gt right
  simp [atDocumentMark, atMark, differ]

end Cursor

/-- Neither a blank nor a break stands at the front. -/
def Solid (rest : List Char) : Prop :=
  ∀ c ∈ rest.head?, isBlank c = false ∧ isBreak c = false

namespace Solid

theorem nil : Solid [] := by simp [Solid]

theorem cons {c : Char} {rest : List Char} (blank : isBlank c = false) (other : isBreak c = false) :
    Solid (c :: rest) := by simp [Solid, blank, other]

end Solid

namespace Gap

variable {rest : List Char} {index line column : Nat} {least : Int}

theorem scan_solid (fuel : Nat) (gap : Gap) (solid : Solid rest) :
    scan least fuel gap ⟨rest, false, index, line, column⟩ =
      some (gap, ⟨rest, false, index, line, column⟩) := by
  cases fuel with
  | zero => rfl
  | succ fuel =>
      cases rest with
      | nil => rfl
      | cons c rest =>
          obtain ⟨blank, other⟩ := solid c rfl
          simp [scan, blank, other]

@[simp] theorem broken_blanks (blanks : List Char) :
    (⟨blanks, .none, []⟩ : Gap).broken = false := rfl

@[simp] theorem addBlank_blanks (blanks : List Char) (c : Char) :
    (⟨blanks, .none, []⟩ : Gap).addBlank c = ⟨c :: blanks, .none, []⟩ := rfl

theorem scan_spaces (count fuel : Nat) (solid : Solid rest) (blanks : List Char) :
    scan least (count + fuel) ⟨blanks, .none, []⟩
        ⟨List.replicate count ' ' ++ rest, false, index, line, column⟩ =
      some (⟨List.replicate count ' ' ++ blanks, .none, []⟩,
        ⟨rest, false, index + count, line, column + count⟩) := by
  induction count generalizing blanks index column with
  | zero => exact scan_solid _ _ solid
  | succ count ih =>
      have space : isBlank ' ' = true := by decide
      have printable : Printable ' ' := by decide
      rw [Nat.add_right_comm, List.replicate_succ, List.cons_append, scan]
      simp only [space, if_true, broken_blanks, Bool.false_eq_true, false_and, if_false,
        addBlank_blanks, Cursor.skip_cons printable, ih, Nat.add_assoc, Nat.add_comm 1 count]
      rw [← List.replicate_succ, List.replicate_succ', List.append_assoc, List.singleton_append]

theorem read_spaces (count : Nat) (solid : Solid rest) :
    read least .none ⟨List.replicate count ' ' ++ rest, false, index, line, column⟩ =
      some (⟨List.replicate count ' ', .none, []⟩,
        ⟨rest, false, index + count, line, column + count⟩) := by
  have enough : (List.replicate count ' ' ++ rest).length + 1 = count + (rest.length + 1) := by
    simp [Nat.add_assoc]
  rw [read, enough, none, scan_spaces _ _ solid, List.append_nil]

theorem fold_spaces (count : Nat) :
    (⟨List.replicate count ' ', .none, []⟩ : Gap).fold = List.replicate count ' ' := by
  simp [fold]

theorem read_feed (solid : Solid rest) :
    read least .none ⟨'\n' :: rest, false, index, line, column⟩ =
      some (⟨[], some ['\n'], []⟩, ⟨rest, false, index + 1, line + 1, 0⟩) := by
  have feed : isBlank '\n' = false := by decide
  have other : isBreak '\n' = true := by decide
  simp only [read, List.length_cons, scan, feed, other, Bool.false_eq_true, if_false, if_true,
    addBreak, none, broken, Option.isSome_none, Cursor.skipBreak_feed, scan_solid _ _ solid]
  rfl

end Gap

theorem exists_spaces (text : List Char) :
    ∃ count rest, text = List.replicate count ' ' ++ rest ∧ rest.head? ≠ some ' ' := by
  induction text with
  | nil => exact ⟨0, [], rfl, by simp⟩
  | cons c text ih =>
      by_cases space : c = ' '
      · subst space
        obtain ⟨count, rest, rfl, ended⟩ := ih
        exact ⟨count + 1, rest, rfl, ended⟩
      · exact ⟨0, c :: text, rfl, by simpa using space⟩

theorem exists_word (text : List Char) :
    ∃ word left, text = word ++ left ∧ ' ' ∉ word ∧ (left = [] ∨ ∃ rest, left = ' ' :: rest) := by
  induction text with
  | nil => exact ⟨[], [], rfl, by simp, .inl rfl⟩
  | cons c text ih =>
      by_cases space : c = ' '
      · exact ⟨[], c :: text, rfl, by simp, .inr ⟨text, by rw [space]⟩⟩
      · obtain ⟨word, left, rfl, noSpace, ended⟩ := ih
        exact ⟨c :: word, left, rfl, by simpa [Ne.symm space] using noSpace, ended⟩

/-- A text is a word, or a word and a text that spaces keep apart from it. -/
theorem words_induction {motive : List Char → Prop}
    (word : ∀ word, ' ' ∉ word → motive word)
    (spaced : ∀ word count rest, ' ' ∉ word → rest.head? ≠ some ' ' → motive rest →
      motive (word ++ (List.replicate (count + 1) ' ' ++ rest)))
    (text : List Char) : motive text := by
  induction size : text.length using Nat.strongRecOn generalizing text with
  | ind size ih =>
      subst size
      obtain ⟨front, left, rfl, noSpace, ended⟩ := exists_word text
      rcases ended with rfl | ⟨more, rfl⟩
      · rw [List.append_nil]
        exact word front noSpace
      · obtain ⟨count, rest, rfl, solid⟩ := exists_spaces more
        refine spaced front count rest noSpace solid (ih _ ?_ rest rfl)
        simp only [List.length_append, List.length_cons]
        omega

end GuestPod.Yaml
