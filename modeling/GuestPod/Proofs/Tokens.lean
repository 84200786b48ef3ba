/-
This file follows the scanner through the lines of a block and through the members of a flow.
-/

import GuestPod.Proofs.Scalars

namespace GuestPod.Yaml

namespace Cursor

variable {c mark : Char} {rest : List Char} {index line column : Nat}

theorem atMark_of_ne (other : c ≠ mark) :
    (⟨c :: rest, false, index, line, column⟩ : Cursor).atMark mark = false := by
  have differ : (c == mark) = false := by simpa using other
  rw [atMark]
  split
  · rename_i same
    cases same
    simp [differ]
  · simp

theorem atDocumentMark_of_ne (dash : c ≠ '-') (dot : c ≠ '.') :
    (⟨c :: rest, false, index, line, column⟩ : Cursor).atDocumentMark = false := by
  rw [atDocumentMark, atMark_of_ne dash, atMark_of_ne dot, Bool.or_self]

end Cursor

/-- A token may begin at the front, or nothing is left. -/
def Begins (rest : List Char) : Prop :=
  ∀ c ∈ rest.head?, Inline c ∧ c ≠ ' ' ∧ c ≠ '#'

namespace Begins

theorem nil : Begins [] := by simp [Begins]

theorem cons {c : Char} {rest : List Char} (inline : Inline c) (space : c ≠ ' ')
    (comment : c ≠ '#') : Begins (c :: rest) := by
  simpa [Begins] using ⟨inline, space, comment⟩

theorem lettered {c : Char} {rest : List Char} (lettered : Lettered c) : Begins (c :: rest) :=
  .cons lettered.inline (lettered.ne (by decide) (by decide)) (lettered.ne (by decide) (by decide))

theorem printable {c : Char} {rest : List Char} (printable : Printable c) (space : c ≠ ' ')
    (comment : c ≠ '#') : Begins (c :: rest) :=
  .cons printable.inline space comment

theorem inQuotes {single : Bool} {text rest : List Char} :
    Begins (Quoted.inQuotes single text ++ rest) := by
  cases single <;> exact .printable (by decide) (by decide) (by decide)

end Begins

namespace Cursor

variable {rest : List Char} {index line column : Nat}

theorem skipWhile_spaces {p : Char → Bool} (count : Nat) (space : p ' ' = true)
    (ended : ∀ c ∈ rest.head?, p c = false) :
    (⟨List.replicate count ' ' ++ rest, false, index, line, column⟩ : Cursor).skipWhile p =
      ⟨rest, false, index + count, line, column + count⟩ := by
  have spaces : ∀ c ∈ List.replicate count ' ', p c = true := by
    simpa [List.mem_replicate] using fun _ => space
  have printable : ∀ c ∈ List.replicate count ' ', Printable c := by
    simpa [List.mem_replicate] using fun _ => by decide
  have stop : rest.takeWhile p = [] ∧ rest.dropWhile p = rest := by
    cases rest with
    | nil => simp
    | cons c rest => simp [ended c rfl]
  have moved := @advance_append rest index line column _ printable
  rw [List.length_replicate] at moved
  rw [skipWhile, List.takeWhile_append_of_pos spaces, List.dropWhile_append_of_pos spaces, stop.1,
    stop.2, List.append_nil, List.length_replicate, moved]

theorem skipComment_begins (begins : Begins rest) :
    (⟨rest, false, index, line, column⟩ : Cursor).skipComment =
      ⟨rest, false, index, line, column⟩ := by
  rw [skipComment]
  split
  · rename_i comment
    subst comment
    exact absurd rfl (begins '#' rfl).2.2
  · rfl

end Cursor

/-- A name is short enough to be a key, even within quotes. -/
structure Named (name : List Char) : Prop where
  wordy : ∀ c ∈ name, Wordy c
  nonempty : name ≠ []
  short : name.length + 2 ≤ 1024

/-- A name before a colon in a block: its bytes are few enough for a key. -/
structure Titled (name : List Char) : Prop where
  lettered : ∀ c ∈ name, Lettered c
  nonempty : name ≠ []
  short : byteCount name ≤ 1024

theorem Titled.near {name : List Char} (titled : Titled name) (index : Nat) :
    index + byteCount name ≤ index + 1024 :=
  Nat.add_le_add_left titled.short index

/-- Within quotes a name looks the same. -/
theorem Quoted.enclosed_wordy {name : List Char} (wordy : ∀ c ∈ name, Wordy c) :
    enclosed false name = name := by
  induction name with
  | nil => rfl
  | cons c name ih =>
      rw [List.forall_mem_cons] at wordy
      have first := wordy.1
      rw [enclosed_cons, ih wordy.2,
        written_self first.printable (first.ne (by decide)) (first.ne (by decide))]
      rfl

namespace Named

variable {name : List Char}

theorem printable (named : Named name) : ∀ c ∈ name, Printable c :=
  fun c member => (named.wordy c member).printable

theorem titled (named : Named name) : Titled name where
  lettered c member := .inl (named.wordy c member)
  nonempty := named.nonempty
  short := by
    have := named.short
    rw [byteCount_of_printable named.printable]
    omega

theorem length_inQuotes_le (named : Named name) :
    (Quoted.inQuotes false name).length ≤ 1024 := by
  have := named.short
  rw [Quoted.length_inQuotes, Quoted.enclosed_wordy named.wordy]
  omega

end Named

namespace Scanner

variable {rest : List Char} {index line column : Nat} {allowed flow : Bool}

/-- Spaces are passed up to the next token or to the end. -/
theorem passSpace_spaces (count fuel : Nat) (begins : Begins rest) :
    passSpace flow (fuel + 1) allowed
        ⟨List.replicate count ' ' ++ rest, false, index, line, column⟩ =
      (allowed, ⟨rest, false, index + count, line, column + count⟩) := by
  have unmarked : (List.replicate count ' ' ++ rest).head? ≠ some byteOrderMark := by
    cases count with
    | zero =>
        intro same
        exact (begins byteOrderMark same).1.unmarked rfl
    | succ count => exact fun same => absurd (Option.some.inj same) (by decide)
  rw [passSpace, if_neg fun mark => unmarked mark.2]
  have stop : ∀ c ∈ rest.head?,
      (decide (c = ' ') || (decide (c = '\t') && (flow || !allowed))) = false := by
    intro c front
    obtain ⟨inline, space, -⟩ := begins c front
    simp [space, inline.untabbed]
  rw [Cursor.skipWhile_spaces count (by simp) stop, Cursor.skipComment_begins begins]
  cases rest with
  | nil => rfl
  | cons c rest =>
      have unbroken := (begins c rfl).1.unbroken
      simp [unbroken]

/-- The break at the end of a line is passed, and a key may begin behind it. -/
theorem passSpace_feed (fuel : Nat) :
    passSpace false (fuel + 1) allowed ⟨'\n' :: rest, false, index, line, column⟩ =
      passSpace false fuel true ⟨rest, false, index + 1, line + 1, 0⟩ := by
  have unmarked : ('\n' :: rest).head? ≠ some byteOrderMark := by
    exact fun same => absurd (Option.some.inj same) (by decide)
  have solid : ∀ c ∈ ('\n' :: rest).head?,
      (decide (c = ' ') || (decide (c = '\t') && (false || !allowed))) = false := by
    simp
  have still := @Cursor.skipWhile_spaces ('\n' :: rest) index line column _ 0 (by simp) solid
  rw [List.replicate_zero, List.nil_append] at still
  rw [passSpace, if_neg fun mark => unmarked mark.2, still]
  simp [Cursor.skipComment, isBreak, Cursor.skipBreak_feed]

section Dispatch

variable {s : Scanner} {c : Char} (front : s.cursor.rest = c :: rest)
include front

theorem token_plainScalar (unmarked : s.cursor.atDocumentMark = false) (blank : isBlank c = false)
    (unbroken : isBreak c = false) (visible : isIndicator c = false) :
    s.token = s.plainScalar := by
  simp only [isIndicator, List.contains_eq_mem, List.mem_cons, List.not_mem_nil, or_false,
    decide_eq_false_iff_not, not_or] at visible
  simp only [Cursor.atDocumentMark, Bool.or_eq_false_iff] at unmarked
  have starts : startsPlain s.inFlow c rest = true := by
    simp [startsPlain, blank, unbroken, isIndicator, visible]
  simp [token, front, visible, unmarked, starts]

/-- Three of the indicators begin a plain scalar in a block. -/
theorem token_plainScalar_opens (outside : s.flowKeys = [])
    (unmarked : s.cursor.atDocumentMark = false) (opens : ['-', '?', ':'].contains c = true)
    (follows : spaceAhead rest = false) : s.token = s.plainScalar := by
  simp only [List.contains_eq_mem, List.mem_cons, List.not_mem_nil, or_false,
    decide_eq_true_eq] at opens
  simp only [Cursor.atDocumentMark, Bool.or_eq_false_iff] at unmarked
  have text : rest.head?.any isBlank = false := by
    cases rest with
    | nil => rfl
    | cons d rest => exact (Bool.or_eq_false_iff.1 follows).1
  have starts : startsPlain s.inFlow c rest = true := by
    rcases opens with rfl | rfl | rfl <;> simp [startsPlain, inFlow, outside, text, follows]
  have inFlow : s.inFlow = false := by simp [inFlow, outside]
  rcases opens with rfl | rfl | rfl <;>
    simp [token, front, unmarked, follows, inFlow, inFlow ▸ starts]

theorem token_value (unmarked : s.cursor.atDocumentMark = false) (colon : c = ':')
    (applies : s.inFlow = true ∨ spaceAhead rest = true) : s.token = s.value := by
  subst colon
  simp only [Cursor.atDocumentMark, Bool.or_eq_false_iff] at unmarked
  simp [token, front, unmarked, applies]

end Dispatch

theorem token_inQuotes {s : Scanner} {single : Bool} {text : List Char}
    (front : s.cursor.rest = Quoted.inQuotes single text ++ rest)
    (unmarked : s.cursor.atDocumentMark = false) : s.token = s.quotedScalar single := by
  simp only [Cursor.atDocumentMark, Bool.or_eq_false_iff] at unmarked
  rw [Quoted.inQuotes_append] at front
  cases single <;> simp [token, front, unmarked, Quoted.quote]

/-- A scanner outside of any flow, whose block is open or not. -/
def outside (opened allowed : Bool) (key : Option PossibleKey) (tokens : List Token)
    (cursor : Cursor) : Scanner where
  cursor := cursor
  indent := if opened then 0 else -1
  outerIndents := if opened then [-1] else []
  keyAllowed := allowed
  blockKey := key
  flowKeys := []
  tokens := tokens
  count := tokens.length

/-- A scanner within one flow. -/
def inside (allowed : Bool) (outer key : Option PossibleKey) (tokens : List Token)
    (cursor : Cursor) : Scanner where
  cursor := cursor
  indent := -1
  outerIndents := []
  keyAllowed := allowed
  blockKey := outer
  flowKeys := [key]
  tokens := tokens
  count := tokens.length

/-- The first entry of a block stands behind the start of the block. -/
def begun (opened : Bool) (tokens : List Token) : List Token :=
  if opened then tokens else .blockMappingStart :: tokens

variable {opened : Bool} {tokens : List Token} {text name : List Char}

theorem toNextToken_of {s : Scanner} {cursor : Cursor} (uncut : cursor.cut = false)
    (passed : passSpace s.inFlow (s.cursor.rest.length + 1) s.keyAllowed s.cursor =
      (allowed, cursor)) :
    s.toNextToken =
      ((s.allowKey allowed).moveTo cursor).expireKeys.map fun s => s.close s.column := by
  have ahead : cursor.ahead? 4 = some cursor := by simp [Cursor.ahead?, uncut]
  rw [toNextToken, passed]
  simp only [ahead, Option.bind_eq_bind, Option.bind_some, Option.map_eq_bind]
  rfl

/-- A key is possible on its own line for as long as it is near. -/
theorem current_of_near {number start place : Nat} {required : Bool}
    (near : index ≤ start + 1024) :
    ∀ found ∈ some (⟨number, required, start, line, place⟩ : PossibleKey),
      found.isStale ⟨rest, false, index, line, column⟩ = false := by
  simpa [PossibleKey.isStale] using near

section Outside

variable {key : Option PossibleKey} {cursor : Cursor}

theorem close_outside (column : Nat) :
    (outside opened allowed key tokens cursor).close column =
      outside opened allowed key tokens cursor := by
  cases opened
  · rfl
  · have margin : ¬(column : Int) < 0 := by omega
    simp [close, outside, inFlow, closeBlocks, margin]

theorem expireKeys_outside (current : ∀ found ∈ key, found.isStale cursor = false) :
    (outside opened allowed key tokens cursor).expireKeys =
      some (outside opened allowed key tokens cursor) := by
  cases key with
  | none => rfl
  | some key => simp [expireKeys, outside, fresh, current key rfl]

/-- Behind the spaces the next token is taken. -/
theorem next_outside_eq {left : Option PossibleKey} {after : Scanner} (count : Nat)
    (begins : Begins rest)
    (kept : (outside opened allowed key tokens
      ⟨rest, false, index + count, line, column + count⟩).expireKeys =
        some (outside opened allowed left tokens
          ⟨rest, false, index + count, line, column + count⟩))
    (taken : (outside opened allowed left tokens
      ⟨rest, false, index + count, line, column + count⟩).token = some after) :
    (outside opened allowed key tokens
        ⟨List.replicate count ' ' ++ rest, false, index, line, column⟩).next =
      after.expireKeys := by
  have passed := toNextToken_of rfl (s := outside opened allowed key tokens
    ⟨List.replicate count ' ' ++ rest, false, index, line, column⟩)
    (passSpace_spaces count _ begins)
  have arrived := (passed.trans (congrArg (Option.map fun s => s.close s.column) kept)).trans
    (congrArg some (close_outside (column + count)))
  rw [next, arrived]
  exact congrArg (·.bind expireKeys) taken

theorem next_outside {key' : Option PossibleKey} {opened' allowed' : Bool}
    {tokens' : List Token} (count : Nat) (begins : Begins rest)
    (current : ∀ found ∈ key,
      found.isStale ⟨rest, false, index + count, line, column + count⟩ = false)
    (taken : (outside opened allowed key tokens
      ⟨rest, false, index + count, line, column + count⟩).token =
        some (outside opened' allowed' key' tokens' cursor))
    (later : ∀ found ∈ key', found.isStale cursor = false) :
    (outside opened allowed key tokens
        ⟨List.replicate count ' ' ++ rest, false, index, line, column⟩).next =
      some (outside opened' allowed' key' tokens' cursor) :=
  (next_outside_eq count begins (expireKeys_outside current) taken).trans (expireKeys_outside later)

/-- A name at the margin may begin a key, and must in a block that is open. -/
theorem next_name (titled : Titled name) :
    (outside opened true none tokens
        ⟨name ++ ':' :: ' ' :: rest, false, index, line, 0⟩).next =
      some (outside opened false (some ⟨tokens.length, opened, index, line, 0⟩)
        (.scalar name .plain :: tokens)
        ⟨':' :: ' ' :: rest, false, index + byteCount name, line, name.length⟩) := by
  have saved : (outside opened true none tokens
      ⟨name ++ ':' :: ' ' :: rest, false, index, line, 0⟩).saveKey =
      some (outside opened true (some ⟨tokens.length, opened, index, line, 0⟩) tokens
        ⟨name ++ ':' :: ' ' :: rest, false, index, line, 0⟩) := by
    cases opened <;> rfl
  have scalar : (outside opened true none tokens
      ⟨name ++ ':' :: ' ' :: rest, false, index, line, 0⟩).plainScalar =
      some (outside opened false (some ⟨tokens.length, opened, index, line, 0⟩)
        (.scalar name .plain :: tokens)
        ⟨':' :: ' ' :: rest, false, index + byteCount name, line, name.length⟩) := by
    rw [plainScalar, saved, Option.bind_eq_bind, Option.bind_some]
    simp only [outside, inFlow, List.isEmpty_nil, Bool.not_true, Plain.read_name _ titled.lettered,
      Nat.zero_add]
    rfl
  obtain ⟨c, more, rfl⟩ := List.exists_cons_of_ne_nil titled.nonempty
  have first := titled.lettered c List.mem_cons_self
  have unmarked := @Cursor.atDocumentMark_of_ne c (more ++ ':' :: ' ' :: rest) index line 0
    (first.ne (by decide) (by decide)) (first.ne (by decide) (by decide))
  refine next_outside 0 (.lettered first) (by simp) (Eq.trans ?_ scalar) (current_of_near (titled.near _))
  exact token_plainScalar rfl unmarked first.isBlank first.isBreak first.isIndicator

/-- The colon makes a key of the name, and the first one opens the block. -/
theorem next_colon (titled : Titled name) :
    (outside opened false (some ⟨tokens.length, opened, index, line, 0⟩)
        (.scalar name .plain :: tokens)
        ⟨':' :: ' ' :: rest, false, index + byteCount name, line, name.length⟩).next =
      some (outside true false none
        (.value :: .scalar name .plain :: .key :: begun opened tokens)
        ⟨' ' :: rest, false, index + byteCount name + 1, line, name.length + 1⟩) := by
  have printable : Printable ':' := by decide
  have value : (outside opened false (some ⟨tokens.length, opened, index, line, 0⟩)
      (.scalar name .plain :: tokens)
      ⟨':' :: ' ' :: rest, false, index + byteCount name, line, name.length⟩).value =
      some (outside true false none
        (.value :: .scalar name .plain :: .key :: begun opened tokens)
        ⟨' ' :: rest, false, index + byteCount name + 1, line, name.length + 1⟩) := by
    have skipped := @Cursor.skip_cons (' ' :: rest) (index + byteCount name) line name.length ':'
      printable
    have behind : tokens.length + 1 + 1 - tokens.length = 2 := by omega
    cases opened <;>
      simp [value, key, outside, insert, openBlock, inFlow, setKey, allowKey, Scanner.skip, push,
        begun, skipped, behind]
  have begins : Begins (':' :: ' ' :: rest) := .printable printable (by decide) (by decide)
  have right : 0 < name.length := List.length_pos_iff.2 titled.nonempty
  refine next_outside 0 begins (current_of_near (titled.near _)) (Eq.trans ?_ value) (by simp)
  exact token_value rfl (Cursor.atDocumentMark_of_column right) rfl (.inr rfl)

/-- A plain value goes up to the end of its line, and a key may follow. -/
theorem next_plain (solid : Solid rest) (legible : Printer.Legible text)
    (opens : Printer.opensPlain text = true) :
    (outside true false none tokens
        ⟨' ' :: (text ++ '\n' :: rest), false, index, line, column⟩).next =
      some (outside true true none (.scalar text .plain :: tokens)
        ⟨rest, false, index + 1 + byteCount text + 1, line + 1, 0⟩) := by
  have scalar : (outside true false none tokens
      ⟨text ++ '\n' :: rest, false, index + 1, line, column + 1⟩).plainScalar =
      some (outside true true none (.scalar text .plain :: tokens)
        ⟨rest, false, index + 1 + byteCount text + 1, line + 1, 0⟩) := by
    have taken := @Plain.read_legible text rest (index + 1) line (column + 1) solid legible
    simp [plainScalar, saveKey, outside, inFlow, taken, push, allowKey, moveTo]
  have unmarked : (⟨text ++ '\n' :: rest, false, index + 1, line, column + 1⟩ :
      Cursor).atDocumentMark = false := Cursor.atDocumentMark_of_column (Nat.succ_pos _)
  obtain ⟨c, more, rfl⟩ := List.exists_cons_of_ne_nil legible.nonempty
  have inline := legible.inline c List.mem_cons_self
  have space : c ≠ ' ' := fun same => legible.first (by rw [same]; rfl)
  have blank : isBlank c = false := by rw [inline.isBlank, decide_eq_false space]
  have comment : c ≠ '#' := fun same => (Printer.hidesText_cons legible.shown).2.1 ⟨same, rfl⟩
  refine next_outside 1 (.cons inline space comment) (by simp) (Eq.trans ?_ scalar) (by simp)
  simp only [Printer.opensPlain] at opens
  split at opens
  case isTrue mark =>
    have follows : spaceAhead (more ++ '\n' :: rest) = false := by
      rw [Printer.spaceAhead_append rfl]
      simpa using opens
    exact token_plainScalar_opens rfl rfl unmarked mark follows
  case isFalse =>
    exact token_plainScalar rfl unmarked blank inline.unbroken (by simpa using opens)

/-- A quoted value stops before the end of its line. -/
theorem next_quoted (printable : ∀ c ∈ text, Printable c) :
    (outside true false none tokens
        ⟨' ' :: (Quoted.inQuotes true text ++ '\n' :: rest), false, index, line, column⟩).next =
      some (outside true false none (.scalar text .singleQuoted :: tokens)
        ⟨'\n' :: rest, false, index + 1 + (Quoted.inQuotes true text).length, line,
          column + 1 + (Quoted.inQuotes true text).length⟩) := by
  have closed : ('\n' :: rest).head? ≠ some '\'' :=
    fun same => absurd (Option.some.inj same) (by decide)
  have taken := @Quoted.read_inQuotes true text ('\n' :: rest) (index + 1) line (column + 1)
    printable closed
  have scalar : (outside true false none tokens
      ⟨Quoted.inQuotes true text ++ '\n' :: rest, false, index + 1, line,
        column + 1⟩).quotedScalar true =
      some (outside true false none (.scalar text .singleQuoted :: tokens)
        ⟨'\n' :: rest, false, index + 1 + (Quoted.inQuotes true text).length, line,
          column + 1 + (Quoted.inQuotes true text).length⟩) := by
    simp [quotedScalar, saveKey, outside, taken, push, allowKey, moveTo]
  refine next_outside 1 .inQuotes (by simp) (Eq.trans ?_ scalar) (by simp)
  exact token_inQuotes rfl (Cursor.atDocumentMark_of_column (Nat.succ_pos column))

/-- The end of a line leads to the margin. -/
theorem next_feed :
    (outside true false none tokens ⟨'\n' :: rest, false, index, line, column⟩).next =
      (outside true true none tokens ⟨rest, false, index + 1, line + 1, 0⟩).next := by
  have arrived : (outside true false none tokens
      ⟨'\n' :: rest, false, index, line, column⟩).toNextToken =
      (outside true true none tokens ⟨rest, false, index + 1, line + 1, 0⟩).toNextToken := by
    simp only [toNextToken, outside, inFlow, List.isEmpty_nil, Bool.not_true, List.length_cons,
      passSpace_feed]
  rw [next, next, arrived]

/-- The end closes the block. -/
theorem next_end :
    (outside true true none tokens ⟨[], false, index, line, 0⟩).next =
      some (outside false false none (.streamEnd :: .blockEnd :: tokens)
        ⟨[], false, index, line, 0⟩) :=
  next_outside 0 .nil (by simp) rfl (by simp)

end Outside

section Inside

variable {outer key : Option PossibleKey} {cursor : Cursor}

/-- A key that need not be one may be given up without harm. -/
def Loose (key : Option PossibleKey) : Prop := ∀ found ∈ key, found.required = false

theorem Loose.fresh (loose : Loose key) (cursor : Cursor) : Loose (fresh cursor key) := by
  intro found member
  exact loose found (Option.mem_filter_iff.1 member).1

theorem Loose.any_eq_false (loose : Loose key) (p : PossibleKey → Bool) :
    key.any (fun found => found.required && p found) = false := by
  cases key with
  | none => rfl
  | some found => simp [loose found rfl]

theorem expireKeys_inside (loose : Loose outer)
    (current : ∀ found ∈ key, found.isStale cursor = false) :
    (inside allowed outer key tokens cursor).expireKeys =
      some (inside allowed (fresh cursor outer) key tokens cursor) := by
  have kept : fresh cursor key = key := by
    cases key with
    | none => rfl
    | some found => simp [fresh, current found rfl]
  simp [expireKeys, inside, loose.any_eq_false, kept]

theorem expireKeys_loose (loose : Loose key) :
    (outside opened allowed key tokens cursor).expireKeys =
      some (outside opened allowed (fresh cursor key) tokens cursor) := by
  simp [expireKeys, outside, loose.any_eq_false]

/-- In a flow the next token stands at once. -/
theorem next_inside_eq {after : Scanner} (begins : Begins rest)
    (loose : Loose outer)
    (current : ∀ found ∈ key, found.isStale ⟨rest, false, index, line, column⟩ = false)
    (taken : (inside allowed (fresh ⟨rest, false, index, line, column⟩ outer) key tokens
      ⟨rest, false, index, line, column⟩).token = some after) :
    (inside allowed outer key tokens ⟨rest, false, index, line, column⟩).next =
      after.expireKeys := by
  have passed := toNextToken_of rfl (s := inside allowed outer key tokens
    ⟨rest, false, index, line, column⟩) (passSpace_spaces 0 _ begins)
  have kept : (inside allowed outer key tokens
      ⟨rest, false, index, line, column⟩).expireKeys = some _ :=
    expireKeys_inside loose current
  have arrived := passed.trans (congrArg (Option.map fun s => s.close s.column) kept)
  rw [next, arrived]
  exact congrArg (·.bind expireKeys) taken

theorem next_inside {key' : Option PossibleKey} {allowed' : Bool} {tokens' : List Token}
    (begins : Begins rest) (loose : Loose outer)
    (current : ∀ found ∈ key, found.isStale ⟨rest, false, index, line, column⟩ = false)
    (taken : ∀ outer,
      (inside allowed outer key tokens ⟨rest, false, index, line, column⟩).token =
        some (inside allowed' outer key' tokens' cursor))
    (later : ∀ found ∈ key', found.isStale cursor = false) :
    ∃ outer', Loose outer' ∧
      (inside allowed outer key tokens ⟨rest, false, index, line, column⟩).next =
        some (inside allowed' outer' key' tokens' cursor) :=
  have kept := loose.fresh _
  ⟨_, kept.fresh _, (next_inside_eq begins loose current (taken _)).trans
    (expireKeys_inside kept later)⟩

/-- The opening brace might begin a key, but need not. -/
theorem next_open :
    ∃ outer, Loose outer ∧
      (outside false true none [] ⟨'\x7b' :: rest, false, 0, 0, 0⟩).next =
        some (inside true outer none [.flowMappingStart] ⟨rest, false, 1, 0, 1⟩) := by
  have printable : Printable '\x7b' := by decide
  have skipped := @Cursor.skip_cons rest 0 0 0 '\x7b' printable
  have begins : Begins ('\x7b' :: rest) := .printable printable (by decide) (by decide)
  have opened : (outside false true none [] ⟨'\x7b' :: rest, false, 0, 0, 0⟩).token =
      some (inside true (some ⟨0, false, 0, 0, 0⟩) none [.flowMappingStart]
        ⟨rest, false, 1, 0, 1⟩) := by
    have dash := @Cursor.atMark_of_ne '\x7b' '-' rest 0 0 0 (by decide)
    have dot := @Cursor.atMark_of_ne '\x7b' '.' rest 0 0 0 (by decide)
    simp [token, outside, dash, dot, openFlow, saveKey, removeKey, Scanner.key, setKey, allowKey,
      Scanner.skip, push, inside, inFlow, Scanner.column, skipped]
  have loose : Loose (some ⟨0, false, 0, 0, 0⟩) := by simp [Loose]
  exact ⟨_, loose.fresh _, (next_outside_eq 0 begins (expireKeys_outside (by simp)) opened).trans
    (expireKeys_inside loose (by simp))⟩

theorem next_flowName (loose : Loose outer) (named : Named name) (right : 0 < column) :
    ∃ outer', Loose outer' ∧
      (inside true outer none tokens
          ⟨Quoted.inQuotes false name ++ ':' :: rest, false, index, line, column⟩).next =
        some (inside false outer' (some ⟨tokens.length, false, index, line, column⟩)
          (.scalar name .doubleQuoted :: tokens)
          ⟨':' :: rest, false, index + (Quoted.inQuotes false name).length, line,
            column + (Quoted.inQuotes false name).length⟩) := by
  have closed : (':' :: rest).head? ≠ some '\'' :=
    fun same => absurd (Option.some.inj same) (by decide)
  have taken := @Quoted.read_inQuotes false name (':' :: rest) index line column named.printable
    closed
  have near := Nat.add_le_add_left named.length_inQuotes_le index
  refine next_inside .inQuotes loose (by simp) (fun outer => ?_) (current_of_near near)
  have saved (cursor : Cursor) : (inside true outer none tokens cursor).saveKey =
      some (inside true outer
        (some ⟨tokens.length, false, cursor.index, cursor.line, cursor.column⟩) tokens cursor) :=
    rfl
  refine (token_inQuotes rfl (Cursor.atDocumentMark_of_column right)).trans ?_
  rw [quotedScalar, saved]
  simp [inside, taken, push, allowKey, moveTo]

theorem next_flowColon {number start : Nat} (loose : Loose outer) (right : 0 < column)
    (near : index ≤ start + 1024) :
    ∃ outer', Loose outer' ∧
      (inside false outer (some ⟨tokens.length, false, start, line, number⟩)
        (.scalar name .doubleQuoted :: tokens) ⟨':' :: rest, false, index, line, column⟩).next =
        some (inside false outer' none
          (.value :: .scalar name .doubleQuoted :: .key :: tokens)
          ⟨rest, false, index + 1, line, column + 1⟩) := by
  have printable : Printable ':' := by decide
  have skipped := @Cursor.skip_cons rest index line column ':' printable
  refine next_inside (.printable printable (by decide) (by decide)) loose (current_of_near near)
    (fun outer => ?_) (by simp)
  refine (token_value rfl (Cursor.atDocumentMark_of_column right) rfl (.inl rfl)).trans ?_
  simp [value, Scanner.key, inside, insert, openBlock, inFlow, setKey, allowKey, Scanner.skip,
    push, skipped]

/-- A number or a boolean ends at the mark behind it. -/
theorem next_flowWord {mark : Char} (marked : Plain.isFlowMark mark = true)
    (loose : Loose outer) (wordy : ∀ c ∈ text, Wordy c) (nonempty : text ≠ [])
    (right : 0 < column) :
    ∃ outer', Loose outer' ∧
      (inside false outer none tokens ⟨text ++ mark :: rest, false, index, line, column⟩).next =
        some (inside false outer' none (.scalar text .plain :: tokens)
          ⟨mark :: rest, false, index + text.length, line, column + text.length⟩) := by
  have taken := @Plain.read_wordy text rest index line column mark marked (-1) wordy
  have unmarked : (⟨text ++ mark :: rest, false, index, line, column⟩ :
      Cursor).atDocumentMark = false := Cursor.atDocumentMark_of_column right
  obtain ⟨c, more, rfl⟩ := List.exists_cons_of_ne_nil nonempty
  have first := wordy c List.mem_cons_self
  have begins : Begins ((c :: more) ++ mark :: rest) :=
    .printable first.printable (first.ne (by decide)) (first.ne (by decide))
  refine next_inside begins loose (by simp) (fun outer => ?_) (by simp)
  refine (token_plainScalar rfl unmarked first.isBlank first.isBreak first.isIndicator).trans ?_
  rw [plainScalar, show (inside false outer none tokens _).saveKey = some _ from rfl]
  simp only [inside, inFlow, List.isEmpty_cons, Bool.not_false, taken, Option.bind_eq_bind,
    Option.bind_some]
  rfl

theorem next_flowQuoted {mark : Char} (other : mark ≠ '\'') (loose : Loose outer)
    (printable : ∀ c ∈ text, Printable c) (right : 0 < column) :
    ∃ outer', Loose outer' ∧
      (inside false outer none tokens
          ⟨Quoted.inQuotes false text ++ mark :: rest, false, index, line, column⟩).next =
        some (inside false outer' none (.scalar text .doubleQuoted :: tokens)
          ⟨mark :: rest, false, index + (Quoted.inQuotes false text).length, line,
            column + (Quoted.inQuotes false text).length⟩) := by
  have closed : (mark :: rest).head? ≠ some '\'' := fun same => other (Option.some.inj same)
  have taken := @Quoted.read_inQuotes false text (mark :: rest) index line column printable closed
  refine next_inside .inQuotes loose (by simp) (fun outer => ?_) (by simp)
  refine (token_inQuotes rfl (Cursor.atDocumentMark_of_column right)).trans ?_
  simp [quotedScalar, saveKey, inside, taken, push, allowKey, moveTo]

theorem next_comma (loose : Loose outer) (right : 0 < column) :
    ∃ outer', Loose outer' ∧
      (inside false outer none tokens ⟨',' :: rest, false, index, line, column⟩).next =
        some (inside true outer' none (.flowEntry :: tokens)
          ⟨rest, false, index + 1, line, column + 1⟩) := by
  have printable : Printable ',' := by decide
  have skipped := @Cursor.skip_cons rest index line column ',' printable
  have unmarked : (⟨',' :: rest, false, index, line, column⟩ : Cursor).atDocumentMark = false :=
    Cursor.atDocumentMark_of_column right
  simp only [Cursor.atDocumentMark, Bool.or_eq_false_iff] at unmarked
  refine next_inside (.printable printable (by decide) (by decide)) loose (by simp) (fun outer => ?_)
    (by simp)
  simp [token, inside, unmarked, flowEntry, removeKey, Scanner.key, setKey, allowKey, Scanner.skip,
    push, skipped]

theorem next_close (loose : Loose outer) (right : 0 < column) :
    ∃ outer', Loose outer' ∧
      (inside false outer none tokens ⟨'\x7d' :: rest, false, index, line, column⟩).next =
        some (outside false false outer' (.flowMappingEnd :: tokens)
          ⟨rest, false, index + 1, line, column + 1⟩) := by
  have printable : Printable '\x7d' := by decide
  have skipped := @Cursor.skip_cons rest index line column '\x7d' printable
  have unmarked : (⟨'\x7d' :: rest, false, index, line, column⟩ : Cursor).atDocumentMark = false :=
    Cursor.atDocumentMark_of_column right
  simp only [Cursor.atDocumentMark, Bool.or_eq_false_iff] at unmarked
  have closed : (inside false (fresh ⟨'\x7d' :: rest, false, index, line, column⟩ outer) none
      tokens ⟨'\x7d' :: rest, false, index, line, column⟩).token =
      some (outside false false (fresh ⟨'\x7d' :: rest, false, index, line, column⟩ outer)
        (.flowMappingEnd :: tokens) ⟨rest, false, index + 1, line, column + 1⟩) := by
    simp [token, inside, outside, unmarked, closeFlow, removeKey, Scanner.key, setKey, allowKey,
      Scanner.skip, push, skipped]
  have kept := loose.fresh ⟨'\x7d' :: rest, false, index, line, column⟩
  have begins : Begins ('\x7d' :: rest) := .printable printable (by decide) (by decide)
  exact ⟨_, kept.fresh _,
    (next_inside_eq begins loose (by simp) closed).trans (expireKeys_loose kept)⟩

theorem next_end_loose (loose : Loose key) :
    ∃ after,
      (outside false false key tokens ⟨[], false, index, line, column⟩).next = some after ∧
      after.tokens = .streamEnd :: tokens := by
  have kept := loose.fresh ⟨[], false, index, line, column⟩
  have ended : ∃ cursor, (outside false false (fresh ⟨[], false, index, line, column⟩ key)
      tokens ⟨[], false, index, line, column⟩).token =
        some (outside false false none (.streamEnd :: tokens) cursor) := by
    have spared : (fresh ⟨[], false, index, line, column⟩ key).any (·.required) = false := by
      simpa using kept.any_eq_false fun _ => true
    refine ⟨if column = 0 then ⟨[], false, index, line, column⟩
      else ⟨[], false, index, line + 1, 0⟩, ?_⟩
    simp [token, outside, atEnd, moveTo, close, inFlow, closeBlocks, removeKey, Scanner.key, setKey,
      allowKey, push, spared]
  obtain ⟨cursor, ended⟩ := ended
  exact ⟨_, (next_outside_eq 0 .nil (expireKeys_loose loose) ended).trans
    (expireKeys_outside (by simp)), rfl⟩

end Inside

end Scanner

end GuestPod.Yaml
