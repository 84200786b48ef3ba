/-
This file reads plain and quoted scalars of printable characters back, up to the character behind
them.
-/

import GuestPod.Json.Printer
import GuestPod.Proofs.Characters
import GuestPod.Yaml.Printer

namespace GuestPod.Yaml

namespace Printer

variable {after : Bool} {c : Char} {text more : List Char}

theorem hidesText_cons (shown : hidesText after (c :: text) = false) :
    ¬(c = ':' ∧ spaceAhead text = true) ∧ ¬(c = '#' ∧ after = true) ∧
      hidesText (isBlank c) text = false := by
  simpa only [hidesText, Bool.or_eq_false_iff, Bool.and_eq_false_iff, decide_eq_false_iff_not,
    Bool.not_eq_true, not_and, Decidable.imp_iff_not_or, and_assoc] using shown

/-- A text is in sight if no colon and no mark is in it. -/
theorem hidesText_eq_false (after : Bool) (plain : ∀ c ∈ text, c ≠ ':' ∧ c ≠ '#') :
    hidesText after text = false := by
  induction text generalizing after with
  | nil => rfl
  | cons c text ih =>
      rw [List.forall_mem_cons] at plain
      simp [hidesText, plain.1.1, plain.1.2, ih _ plain.2]

theorem hidesText_wordy (after : Bool) (wordy : ∀ c ∈ text, Wordy c) :
    hidesText after text = false :=
  hidesText_eq_false after fun c member =>
    ⟨(wordy c member).ne (by decide), (wordy c member).ne (by decide)⟩

/-- What follows a space stands for itself if the whole does. -/
theorem hidesText_spaces (count : Nat) (after : Bool)
    (shown : hidesText after (List.replicate (count + 1) ' ' ++ text) = false) :
    hidesText true text = false := by
  induction count generalizing after with
  | zero => exact (hidesText_cons shown).2.2
  | succ count ih => exact ih true (hidesText_cons shown).2.2

theorem spaceAhead_append (ended : spaceAhead more = true) :
    spaceAhead (text ++ more) = spaceAhead text := by
  cases text with
  | nil => exact ended
  | cons c text => rfl

theorem hidesText_left (ended : spaceAhead more = true)
    (shown : hidesText after (text ++ more) = false) : hidesText after text = false := by
  induction text generalizing after with
  | nil => rfl
  | cons c text ih =>
      obtain ⟨colon, mark, later⟩ := hidesText_cons shown
      have colon : ¬(c = ':' ∧ spaceAhead text = true) := spaceAhead_append ended ▸ colon
      simp only [hidesText, Bool.or_eq_false_iff, Bool.and_eq_false_iff, decide_eq_false_iff_not]
      exact ⟨⟨by simpa [Decidable.imp_iff_not_or] using colon,
        by simpa [Decidable.imp_iff_not_or] using mark⟩, ih later⟩

theorem hidesText_right (word : ' ' ∉ text)
    (shown : hidesText after (text ++ more) = false) : ∃ after, hidesText after more = false := by
  induction text generalizing after with
  | nil => exact ⟨after, shown⟩
  | cons c text ih =>
      exact ih (fun member => word (List.mem_cons_of_mem _ member)) (hidesText_cons shown).2.2

/-- A text that reads the same without quotes once it has begun. -/
structure Legible (text : List Char) : Prop where
  inline : ∀ c ∈ text, Inline c
  shown : hidesText true text = false
  nonempty : text ≠ []
  first : text.head? ≠ some ' '
  last : text.getLast? ≠ some ' '

namespace Legible

variable {word text : List Char} {count : Nat}

theorem left (legible : Legible (word ++ (List.replicate (count + 1) ' ' ++ text)))
    (noSpace : ' ' ∉ word) : Legible word where
  inline c member := legible.inline c (List.mem_append_left _ member)
  shown := hidesText_left (show spaceAhead (List.replicate (count + 1) ' ' ++ text) = true from rfl)
    legible.shown
  nonempty := by
    rintro rfl
    exact legible.first rfl
  first same := noSpace (List.mem_of_head? same)
  last same := noSpace (List.mem_of_getLast? same)

theorem right (legible : Legible (word ++ (List.replicate (count + 1) ' ' ++ text)))
    (noSpace : ' ' ∉ word) (first : text.head? ≠ some ' ') : Legible text := by
  have nonempty : text ≠ [] := by
    rintro rfl
    apply legible.last
    rw [List.append_nil, List.replicate_succ', ← List.append_assoc, List.getLast?_concat]
  obtain ⟨after, shown⟩ := hidesText_right noSpace legible.shown
  refine ⟨fun c member => legible.inline c ?_, hidesText_spaces count after shown, nonempty,
    first, fun same => legible.last ?_⟩
  · exact List.mem_append_right _ (List.mem_append_right _ member)
  · rw [← List.append_assoc, List.getLast?_append, same, Option.some_or]

end Legible

end Printer

namespace Plain

open Printer

variable {flow after : Bool} {text more done rest : List Char} {count index line column : Nat}

/-- Nothing ends a word before its text does. -/
theorem word_append
    (goesOn : ∀ c ∈ text, isBlank c = false ∧ isBreak c = false ∧ c ≠ ':' ∧
      (flow && isFlowMark c) = false) :
    word flow done count (text ++ more) =
      word flow (text.reverse ++ done) (count + text.length) more := by
  induction text generalizing done count with
  | nil => rfl
  | cons c text ih =>
      rw [List.forall_mem_cons] at goesOn
      obtain ⟨⟨blank, unbroken, colon, unmarked⟩, others⟩ := goesOn
      rw [List.cons_append, word]
      simp only [blank, unbroken, unmarked, colon, decide_false, Bool.or_self, Bool.and_false,
        Bool.false_and, Bool.false_eq_true, if_false]
      rw [ih others]
      simp [Nat.add_assoc, Nat.add_comm 1]

/-- Characters of names belong to a word wherever it stands. -/
theorem word_wordy (wordy : ∀ c ∈ text, Wordy c) :
    word flow done count (text ++ more) =
      word flow (text.reverse ++ done) (count + text.length) more := by
  refine word_append fun c member => ?_
  have first := wordy c member
  exact ⟨first.isBlank, first.isBreak, first.ne (by decide), by simp [first.isFlowMark]⟩

theorem word_lettered (lettered : ∀ c ∈ text, Lettered c) :
    word false done count (text ++ more) =
      word false (text.reverse ++ done) (count + text.length) more := by
  refine word_append fun c member => ?_
  have first := lettered c member
  exact ⟨first.isBlank, first.isBreak, first.ne (by decide) (by decide), rfl⟩

theorem word_ended (ended : spaceAhead more = true) :
    word flow done count more = some (done, count, more) := by
  cases more with
  | nil => rfl
  | cons c more =>
      rw [word, if_pos (show (isBlank c || isBreak c) = true from ended)]

/-- A word in a block goes on to the next space unless it hides something. -/
theorem word_shown (inline : ∀ c ∈ text, Inline c) (noSpace : ' ' ∉ text)
    (shown : hidesText after text = false) (ended : spaceAhead more = true) :
    word false done count (text ++ more) =
      some (text.reverse ++ done, count + text.length, more) := by
  induction text generalizing after done count with
  | nil => exact word_ended ended
  | cons c text ih =>
      rw [List.mem_cons, not_or] at noSpace
      rw [List.forall_mem_cons] at inline
      obtain ⟨first, others⟩ := inline
      obtain ⟨colon, -, later⟩ := hidesText_cons shown
      have blank : isBlank c = false := by rw [first.isBlank, decide_eq_false (Ne.symm noSpace.1)]
      rw [List.cons_append, word]
      simp only [blank, first.unbroken, Bool.or_self, Bool.false_and, Bool.false_eq_true, if_false,
        Bool.or_false, Bool.and_eq_true, decide_eq_true_eq, spaceAhead_append ended, colon]
      rw [ih others noSpace.2 later]
      simp [Nat.add_assoc, Nat.add_comm 1]

/-- A break that leads back to the margin ends the scalar. -/
theorem further_feed (fuel : Nat) (solid : Solid rest) :
    further false 1 (fuel + 1) done ⟨'\n' :: rest, false, index, line, column⟩ =
      some (done, ⟨rest, false, index + 1, line + 1, 0⟩, true) := by
  simp [further, Gap.read_feed solid, Gap.broken]

/-- Another word follows the spaces. -/
theorem further_word (fuel : Nat) (legible : Legible text) (noSpace : ' ' ∉ text)
    (ended : spaceAhead more = true) (follows : more ≠ []) :
    further false 1 (fuel + 1) done
        ⟨List.replicate (count + 1) ' ' ++ (text ++ more), false, index, line, column⟩ =
      further false 1 fuel (text.reverse ++ (List.replicate (count + 1) ' ' ++ done))
        ⟨more, false, index + (count + 1) + byteCount text, line,
          column + (count + 1) + text.length⟩ := by
  obtain ⟨inline, shown, nonempty, -, -⟩ := legible
  obtain ⟨c, text, rfl⟩ := List.exists_cons_of_ne_nil nonempty
  have taken : word false (List.replicate (count + 1) ' ' ++ done) 0 ((c :: text) ++ more) =
      some ((c :: text).reverse ++ (List.replicate (count + 1) ' ' ++ done),
        0 + (c :: text).length, more) :=
    word_shown inline noSpace shown ended
  obtain ⟨first, -⟩ := List.forall_mem_cons.1 inline
  have blank : isBlank c = false := by
    rw [first.isBlank]
    exact decide_eq_false fun same => noSpace (same ▸ List.mem_cons_self)
  have comment : c ≠ '#' := fun same => (hidesText_cons shown).2.1 ⟨same, rfl⟩
  have solid : Solid ((c :: text) ++ more) := Solid.cons blank first.unbroken
  have right : ¬((column + (count + 1) : Nat) : Int) < 1 := by omega
  have unmarked : (⟨(c :: text) ++ more, false, index + (count + 1), line,
      column + (count + 1)⟩ : Cursor).atDocumentMark = false :=
    Cursor.atDocumentMark_of_column (Nat.succ_pos _)
  have goesOn : (spaceAhead more && !more.isEmpty) = true := by simp [ended, follows]
  rw [further, Gap.read_spaces _ solid]
  simp only [Gap.fold_spaces, List.reverse_replicate, Cursor.ahead?_uncut, Option.bind_eq_bind,
    Option.bind_some, right, decide_false, Bool.and_false, Bool.false_eq_true, if_false, unmarked]
  split
  case h_1 empty => cases empty
  case h_2 same => exact absurd (List.cons.inj same).1 comment
  case h_3 =>
    simp only [taken, Nat.zero_add, List.length_cons, Nat.succ_ne_zero, if_false,
      Option.bind_some, goesOn, if_true]
    rw [← List.length_cons, Cursor.advance_text, Cursor.ahead?_uncut,
      Option.bind_some]

/-- What follows the first word is read up to the end of the line. -/
theorem further_text (solid : Solid rest) (fuel : Nat) (enough : text.length < fuel)
    (legible : Legible text) :
    further false 1 fuel done
        ⟨List.replicate (count + 1) ' ' ++ (text ++ '\n' :: rest), false, index, line, column⟩ =
      some (text.reverse ++ (List.replicate (count + 1) ' ' ++ done),
        ⟨rest, false, index + (count + 1) + byteCount text + 1, line + 1, 0⟩, true) := by
  induction text using words_induction generalizing fuel done count index column with
  | word word noSpace =>
      have := List.length_pos_iff.2 legible.nonempty
      obtain ⟨fuel, rfl⟩ : ∃ less, fuel = less + 2 := ⟨fuel - 2, by omega⟩
      rw [further_word _ legible noSpace rfl (List.cons_ne_nil _ _), further_feed _ solid]
  | spaced word spaces text noSpace first ih =>
      simp only [List.length_append, List.length_replicate] at enough
      obtain ⟨fuel, rfl⟩ : ∃ less, fuel = less + 1 := ⟨fuel - 1, by omega⟩
      rw [List.append_assoc, List.append_assoc,
        further_word _ (legible.left noSpace) noSpace rfl (by simp),
        ih fuel (by omega) (legible.right noSpace first)]
      simp [byteCount_append, byteCount_spaces, Nat.add_assoc]

section Read

variable {indent : Int}
  (taken : word flow [] 0 (text ++ more) = some (text.reverse, text.length, more))
include taken

theorem read_stops (stops : (spaceAhead more && !more.isEmpty) = false) :
    read flow indent ⟨text ++ more, false, index, line, column⟩ =
      some (text, ⟨more, false, index + byteCount text, line, column + text.length⟩, false) := by
  rw [read, taken, Option.bind_eq_bind, Option.bind_some]
  simp [Cursor.advance_text, stops]

theorem read_goesOn (goesOn : (spaceAhead more && !more.isEmpty) = true) :
    read flow indent ⟨text ++ more, false, index, line, column⟩ =
      (further flow (indent + 1) (more.length + 1) text.reverse
        ⟨more, false, index + byteCount text, line, column + text.length⟩).map
          fun found => (found.1.reverse, found.2) := by
  rw [read, taken, Option.bind_eq_bind, Option.bind_some]
  simp only [Cursor.advance_text, Cursor.ahead?_uncut, Option.bind_eq_bind,
    Option.bind_some, goesOn, if_true, Option.map_eq_bind]
  rfl

end Read

/-- A legible text is read up to the end of its line, whose break is passed. -/
theorem read_legible (solid : Solid rest) (legible : Legible text) :
    read false 0 ⟨text ++ '\n' :: rest, false, index, line, column⟩ =
      some (text, ⟨rest, false, index + byteCount text + 1, line + 1, 0⟩, true) := by
  cases text using words_induction with
  | word word noSpace =>
      have taken : Plain.word false [] 0 (text ++ '\n' :: rest) =
          some (text.reverse, text.length, '\n' :: rest) := by
        rw [word_shown legible.inline noSpace legible.shown rfl, List.append_nil, Nat.zero_add]
      rw [read_goesOn taken rfl, Int.zero_add, further_feed _ solid]
      simp
  | spaced word spaces text noSpace first =>
      have front := legible.left noSpace
      have taken : Plain.word false [] 0
          (word ++ (List.replicate (spaces + 1) ' ' ++ (text ++ '\n' :: rest))) =
          some (word.reverse, word.length,
            List.replicate (spaces + 1) ' ' ++ (text ++ '\n' :: rest)) := by
        rw [word_shown front.inline noSpace front.shown rfl, List.append_nil, Nat.zero_add]
      rw [List.append_assoc, List.append_assoc, read_goesOn taken rfl,
        Int.zero_add, further_text solid _ ?_ (legible.right noSpace first)]
      · simp [byteCount_append, byteCount_spaces, Nat.add_assoc]
      · simp only [List.length_append, List.length_replicate]
        omega

/-- A word in a flow ends at the next mark. -/
theorem read_wordy {mark : Char} (marked : isFlowMark mark = true) (indent : Int)
    (wordy : ∀ c ∈ text, Wordy c) :
    read true indent ⟨text ++ mark :: rest, false, index, line, column⟩ =
      some (text, ⟨mark :: rest, false, index + text.length, line, column + text.length⟩,
        false) := by
  obtain ⟨blank, other, colon⟩ : isBlank mark = false ∧ isBreak mark = false ∧ mark ≠ ':' := by
    simp only [isFlowMark, Bool.or_eq_true, decide_eq_true_eq] at marked
    rcases marked with (((rfl | rfl) | rfl) | rfl) | rfl <;> decide
  have taken : word true [] 0 (text ++ mark :: rest) =
      some (text.reverse, text.length, mark :: rest) := by
    rw [word_wordy wordy, word]
    simp [blank, other, marked, colon]
  have stopped := @read_stops true text (mark :: rest) index line column indent taken (by
    simp [spaceAhead, blank, other])
  rwa [byteCount_of_printable fun c member => (wordy c member).printable] at stopped

/-- A name in a block ends at its colon. -/
theorem read_name (indent : Int) (lettered : ∀ c ∈ text, Lettered c) :
    read false indent ⟨text ++ ':' :: ' ' :: rest, false, index, line, column⟩ =
      some (text, ⟨':' :: ' ' :: rest, false, index + byteCount text, line,
        column + text.length⟩, false) := by
  have taken : word false [] 0 (text ++ ':' :: ' ' :: rest) =
      some (text.reverse, text.length, ':' :: ' ' :: rest) := by
    rw [word_lettered lettered, word]
    simp [isBlank, isBreak, spaceAhead]
  exact read_stops taken rfl

end Plain

namespace Quoted

def quote (single : Bool) : Char := if single then '\'' else '"'

/-- Within single quotes only the quote itself is written in another way. -/
def written (single : Bool) (c : Char) : List Char :=
  if single then if c = '\'' then ['\'', '\''] else [c] else Json.escaped c

theorem quote_printable (single : Bool) : Printable (quote single) := by cases single <;> decide

/-- The text between the quotes. -/
def enclosed (single : Bool) (text : List Char) : List Char := text.flatMap (written single)

/-- A space or the closing quote, which is not written twice. -/
def Closing (single : Bool) (rest : List Char) : Prop :=
  (∃ more, rest = ' ' :: more) ∨
    ∃ more, rest = quote single :: more ∧ more.head? ≠ some '\''

variable {single : Bool} {c : Char} {text more done rest : List Char}
  {count index line column : Nat}

@[simp] theorem enclosed_cons :
    enclosed single (c :: text) = written single c ++ enclosed single text := rfl

theorem enclosed_append :
    enclosed single (text ++ more) = enclosed single text ++ enclosed single more :=
  List.flatMap_append

theorem written_space : written single ' ' = [' '] := by cases single <;> decide

theorem enclosed_spaces :
    enclosed single (List.replicate count ' ') = List.replicate count ' ' := by
  induction count with
  | zero => rfl
  | succ count ih => rw [List.replicate_succ, enclosed_cons, ih, written_space]; rfl

theorem written_self (printable : Printable c) (quote : c ≠ '"') (backslash : c ≠ '\\') :
    written false c = [c] := by
  simp [written, Json.escaped, quote, backslash, printable.1]

theorem written_printable (printable : Printable c) : ∀ d ∈ written single c, Printable d := by
  cases single with
  | true =>
      simp only [written, if_true]
      split
      · exact forall_of_all (by decide)
      · simpa using printable
  | false =>
      by_cases quote : c = '"'
      · subst quote; exact forall_of_all (by decide)
      by_cases backslash : c = '\\'
      · subst backslash; exact forall_of_all (by decide)
      rw [written_self printable quote backslash]
      simpa using printable

theorem enclosed_printable (printable : ∀ c ∈ text, Printable c) :
    ∀ c ∈ enclosed single text, Printable c := by
  simp only [enclosed, List.mem_flatMap, forall_exists_index, and_imp]
  exact fun c origin member => written_printable (printable origin member) c

/-- What is written begins with a space only for the space itself. -/
theorem written_eq_cons (printable : Printable c) :
    ∃ d more, written single c = d :: more ∧ (d = ' ' → c = ' ') := by
  cases single with
  | true =>
      by_cases twice : c = '\''
      · exact ⟨'\'', ['\''], by simp [written, twice], by simp⟩
      · exact ⟨c, [], by simp [written, twice], id⟩
  | false =>
      by_cases quote : c = '"'
      · exact ⟨'\\', ['"'], by simp [written, Json.escaped, quote], by simp⟩
      by_cases backslash : c = '\\'
      · exact ⟨'\\', ['\\'], by simp [written, Json.escaped, backslash], by simp⟩
      · exact ⟨c, [], written_self printable quote backslash, id⟩

theorem length_le_enclosed (printable : ∀ c ∈ text, Printable c) :
    text.length ≤ (enclosed single text).length := by
  induction text with
  | nil => simp
  | cons c text ih =>
      rw [List.forall_mem_cons] at printable
      obtain ⟨d, more, text, -⟩ := @written_eq_cons single c printable.1
      have := ih printable.2
      rw [enclosed_cons, text, List.length_append, List.length_cons, List.length_cons]
      omega

section Single

theorem singleStretch_twice :
    singleStretch done count ('\'' :: '\'' :: rest) =
      singleStretch ('\'' :: done) (count + 2) rest := by
  rw [singleStretch]

theorem singleStretch_other (other : c ≠ '\'') (blank : isBlank c = false)
    (unbroken : isBreak c = false) :
    singleStretch done count (c :: rest) = singleStretch (c :: done) (count + 1) rest := by
  rw [singleStretch]
  · simp [other, blank, unbroken]
  · exact fun _ same _ => other same

theorem singleStretch_closing (closing : Closing true more) :
    singleStretch done count more = (done, count, more) := by
  rcases closing with ⟨rest, rfl⟩ | ⟨rest, rfl, closed⟩
  · simp [singleStretch, isBlank]
  · rw [quote, if_pos rfl, singleStretch]
    · simp
    · rintro left - rfl
      exact closed rfl

theorem singleStretch_text (printable : ∀ c ∈ text, Printable c) (noSpace : ' ' ∉ text)
    (closing : Closing true more) :
    singleStretch done count (enclosed true text ++ more) =
      (text.reverse ++ done, count + (enclosed true text).length, more) := by
  induction text generalizing done count with
  | nil => exact singleStretch_closing closing
  | cons c text ih =>
      rw [List.forall_mem_cons] at printable
      rw [List.mem_cons, not_or] at noSpace
      rw [enclosed_cons, List.append_assoc, List.length_append, ← Nat.add_assoc,
        List.reverse_cons, List.append_assoc, List.singleton_append]
      by_cases twice : c = '\''
      · subst twice
        exact singleStretch_twice.trans (ih printable.2 noSpace.2)
      · have alone : written true c = [c] := by simp [written, twice]
        have blank : isBlank c = false := by
          rw [printable.1.isBlank, decide_eq_false (Ne.symm noSpace.1)]
        rw [alone]
        exact (singleStretch_other twice blank printable.1.isBreak).trans (ih printable.2 noSpace.2)

end Single

section Double

theorem doubleStretch_escape {letter : Char} (fuel : Nat) (unbroken : isBreak letter = false)
    (escape : simpleEscape letter = some c) :
    doubleStretch (fuel + 1) done count ('\\' :: letter :: rest) =
      doubleStretch fuel (c :: done) (count + 2) rest := by
  have blank : isBlank '\\' = false := by decide
  have other : isBreak '\\' = false := by decide
  rw [doubleStretch, if_neg (by simp [blank, other])]
  simp [unbroken, Quoted.escape, escape]

theorem doubleStretch_other (fuel : Nat) (quote : c ≠ '"') (backslash : c ≠ '\\')
    (blank : isBlank c = false) (unbroken : isBreak c = false) :
    doubleStretch (fuel + 1) done count (c :: rest) =
      doubleStretch fuel (c :: done) (count + 1) rest := by
  simp [doubleStretch, quote, backslash, blank, unbroken]

theorem doubleStretch_closing (fuel : Nat) (closing : Closing false more) :
    doubleStretch fuel done count more = some (done, count, more, false) := by
  cases fuel with
  | zero => rfl
  | succ fuel =>
      rcases closing with ⟨rest, rfl⟩ | ⟨rest, rfl, -⟩ <;>
        simp [doubleStretch, quote, isBlank]

theorem doubleStretch_text (fuel : Nat) (enough : text.length < fuel)
    (printable : ∀ c ∈ text, Printable c) (noSpace : ' ' ∉ text)
    (closing : Closing false more) :
    doubleStretch fuel done count (enclosed false text ++ more) =
      some (text.reverse ++ done, count + (enclosed false text).length, more, false) := by
  induction text generalizing done count fuel with
  | nil => exact doubleStretch_closing fuel closing
  | cons c text ih =>
      rw [List.forall_mem_cons] at printable
      rw [List.mem_cons, not_or] at noSpace
      obtain ⟨fuel, rfl⟩ : ∃ less, fuel = less + 1 := ⟨fuel - 1, by omega⟩
      have later := fun count =>
        @ih (c :: done) count fuel (Nat.lt_of_succ_lt_succ enough) printable.2 noSpace.2
      rw [enclosed_cons, List.append_assoc, List.length_append, ← Nat.add_assoc,
        List.reverse_cons, List.append_assoc, List.singleton_append]
      by_cases quote : c = '"'
      · subst quote
        exact (doubleStretch_escape fuel (by decide) (by decide)).trans (later _)
      by_cases backslash : c = '\\'
      · subst backslash
        exact (doubleStretch_escape fuel (by decide) (by decide)).trans (later _)
      · have blank : isBlank c = false := by
          rw [printable.1.isBlank, decide_eq_false (Ne.symm noSpace.1)]
        rw [written_self printable.1 quote backslash]
        exact (doubleStretch_other fuel quote backslash blank printable.1.isBreak).trans (later _)

end Double

/-- A stretch holds the characters up to the next space or the closing quote. -/
theorem stretch_text (printable : ∀ c ∈ text, Printable c) (noSpace : ' ' ∉ text)
    (closing : Closing single more) :
    stretch single done ⟨enclosed single text ++ more, false, index, line, column⟩ =
      some (text.reverse ++ done,
        ⟨more, false, index + (enclosed single text).length, line,
          column + (enclosed single text).length⟩, false) := by
  cases single with
  | true =>
      simp only [stretch, if_true, singleStretch_text printable noSpace closing, Nat.zero_add,
        Cursor.advance_append (enclosed_printable printable)]
  | false =>
      have enough : text.length < (enclosed false text ++ more).length + 1 := by
        have := @length_le_enclosed false text printable
        rw [List.length_append]
        omega
      rw [stretch, if_neg (by simp), doubleStretch_text _ enough printable noSpace closing]
      simp [Cursor.advance_append (enclosed_printable printable)]

section Scan

variable (right : 0 < column) (printable : ∀ c ∈ text, Printable c) (noSpace : ' ' ∉ text)
include right printable noSpace

/-- Behind a stretch stands the closing quote or a gap. -/
theorem scan_stretch (fuel : Nat) (closing : Closing single more) :
    scan single (fuel + 1) done ⟨enclosed single text ++ more, false, index, line, column⟩ =
      if more.head? = some (quote single) then
        some ((text.reverse ++ done).reverse,
          (⟨more, false, index + (enclosed single text).length, line,
            column + (enclosed single text).length⟩ : Cursor).skip 1)
      else
        (Gap.read 0 .none ⟨more, false, index + (enclosed single text).length, line,
          column + (enclosed single text).length⟩).bind fun passed =>
            scan single fuel (passed.1.fold.reverse ++ (text.reverse ++ done)) passed.2 := by
  have follows : more ≠ [] := by
    rcases closing with ⟨rest, rfl⟩ | ⟨rest, rfl, -⟩ <;> exact List.cons_ne_nil _ _
  have nonempty : (enclosed single text ++ more).isEmpty = false := by simp [follows]
  have unmarked : (⟨enclosed single text ++ more, false, index, line, column⟩ :
      Cursor).atDocumentMark = false := Cursor.atDocumentMark_of_column right
  rw [scan, Cursor.ahead?_uncut, Option.bind_eq_bind, Option.bind_some,
    if_neg (by rw [unmarked, nonempty]; decide), Option.bind_eq_bind,
    stretch_text printable noSpace closing]
  rfl

theorem scan_last (fuel : Nat) (closed : rest.head? ≠ some '\'') :
    scan single (fuel + 1) done
        ⟨enclosed single text ++ quote single :: rest, false, index, line, column⟩ =
      some ((text.reverse ++ done).reverse,
        ⟨rest, false, index + (enclosed single text).length + 1, line,
          column + (enclosed single text).length + 1⟩) := by
  rw [scan_stretch right printable noSpace fuel (.inr ⟨rest, rfl, closed⟩),
    if_pos List.head?_cons, Cursor.skip_cons (quote_printable single)]

theorem scan_spaced (fuel : Nat) (solid : Solid more) :
    scan single (fuel + 1) done
        ⟨enclosed single text ++ (List.replicate (count + 1) ' ' ++ more), false, index, line,
          column⟩ =
      scan single fuel (List.replicate (count + 1) ' ' ++ (text.reverse ++ done))
        ⟨more, false, index + (enclosed single text).length + (count + 1), line,
          column + (enclosed single text).length + (count + 1)⟩ := by
  have closing : Closing single (List.replicate (count + 1) ' ' ++ more) := .inl ⟨_, rfl⟩
  have another : ¬(List.replicate (count + 1) ' ' ++ more).head? = some (quote single) := by
    show ¬some ' ' = some (quote single)
    cases single <;> decide
  rw [scan_stretch right printable noSpace fuel closing, if_neg another, Gap.read_spaces _ solid,
    Option.bind_some, Gap.fold_spaces, List.reverse_replicate]

end Scan

theorem solid_enclosed (printable : ∀ c ∈ text, Printable c) (first : text.head? ≠ some ' ') :
    Solid (enclosed single text ++ quote single :: rest) := by
  cases text with
  | nil => cases single <;> exact Solid.cons (by decide) (by decide)
  | cons c text =>
      rw [List.forall_mem_cons] at printable
      obtain ⟨d, more, start, space⟩ := @written_eq_cons single c printable.1
      have printed : Printable d := written_printable printable.1 d (start ▸ List.mem_cons_self)
      have blank : isBlank d = false := by
        rw [printed.isBlank]
        exact decide_eq_false fun same => first (by rw [space same]; rfl)
      rw [enclosed_cons, start]
      exact Solid.cons blank printed.isBreak

/-- The characters up to the closing quote are those that were enclosed. -/
theorem scan_text (fuel : Nat) (enough : text.length < fuel) (right : 0 < column)
    (printable : ∀ c ∈ text, Printable c) (closed : rest.head? ≠ some '\'') :
    scan single fuel done
        ⟨enclosed single text ++ quote single :: rest, false, index, line, column⟩ =
      some ((text.reverse ++ done).reverse,
        ⟨rest, false, index + (enclosed single text).length + 1, line,
          column + (enclosed single text).length + 1⟩) := by
  induction text using words_induction generalizing fuel done index column with
  | word word noSpace =>
      obtain ⟨fuel, rfl⟩ : ∃ less, fuel = less + 1 := ⟨fuel - 1, by omega⟩
      exact scan_last right printable noSpace fuel closed
  | spaced word spaces text noSpace first ih =>
      simp only [List.mem_append, or_imp, forall_and] at printable
      simp only [List.length_append, List.length_replicate] at enough
      obtain ⟨front, -, back⟩ := printable
      obtain ⟨fuel, rfl⟩ : ∃ less, fuel = less + 1 := ⟨fuel - 1, by omega⟩
      rw [enclosed_append, enclosed_append, enclosed_spaces, List.append_assoc, List.append_assoc,
        scan_spaced right front noSpace fuel (solid_enclosed back first),
        ih fuel (by omega) (by omega) back]
      simp [Nat.add_assoc]

/-- A text within its quotes. -/
def inQuotes (single : Bool) (text : List Char) : List Char :=
  quote single :: (enclosed single text ++ [quote single])

theorem inQuotes_append :
    inQuotes single text ++ rest =
      quote single :: (enclosed single text ++ quote single :: rest) := by
  simp [inQuotes]

theorem length_inQuotes :
    (inQuotes single text).length = 1 + (enclosed single text).length + 1 := by
  simp [inQuotes]
  omega

theorem inQuotes_printable (printable : ∀ c ∈ text, Printable c) :
    ∀ c ∈ inQuotes single text, Printable c := by
  rw [inQuotes, List.forall_mem_cons, List.forall_mem_append, List.forall_mem_singleton]
  exact ⟨quote_printable single, enclosed_printable printable, quote_printable single⟩

/-- A quoted text is read with its quotes. -/
theorem read_inQuotes (printable : ∀ c ∈ text, Printable c) (closed : rest.head? ≠ some '\'') :
    read single ⟨inQuotes single text ++ rest, false, index, line, column⟩ =
      some (text, ⟨rest, false, index + (inQuotes single text).length, line,
        column + (inQuotes single text).length⟩) := by
  have enough := @length_le_enclosed single text printable
  rw [inQuotes_append, read, Cursor.skip_cons (quote_printable single),
    scan_text _ ?_ (Nat.succ_pos _) printable closed, length_inQuotes]
  · simp [Nat.add_assoc]
  · simp only [List.length_cons, List.length_append]
    omega

end Quoted

end GuestPod.Yaml
