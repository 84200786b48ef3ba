/-
This file reads settings from a list of fields, one on each line, up to the first line that is
refused.
-/

import Mathlib.Data.List.Forall2
import Mathlib.Data.List.Induction
import GuestPod.Proofs.Integers
import GuestPod.Proofs.RoundTrip

namespace GuestPod.Settings

open Yaml

/-- A field by its name, and the text that is given for it. -/
structure Line where
  name : String
  value : String

/-- The fields in the order of their declaration. -/
def fieldNames : List String :=
  ["guest_port", "default_memory_mib", "default_vcpu_count", "reap_orphaned_vms", "log_level"]

namespace Line

def entry (line : Line) : Entry := ⟨line.name.toList, line.value.toList, .plain⟩

/-- Letters of any script beyond the first characters, and other signs that a line may hold. -/
def Foreign (c : Char) : Prop :=
  0xA0 ≤ c.toNat ∧ c.toNat ∉ [0x2028, 0x2029, 0xFEFF, 0xFFFE, 0xFFFF]

instance : DecidablePred Foreign := fun _ => inferInstanceAs (Decidable (_ ∧ _))

/-- A name of small letters and underscores, and a value that goes without quotes. -/
structure Bare (line : Line) : Prop where
  named : line.name.toList ≠ []
  short : line.name.toList.length ≤ 100
  letters : ∀ c ∈ line.name.toList, c.isLower = true ∨ c = '_' ∨ Foreign c
  written : ∃ sign first rest, line.value.toList = sign ++ first :: rest ∧
    (sign = [] ∨ sign = ['+'] ∨ sign = ['-']) ∧ first.isAlphanum = true ∧
    ∀ c ∈ rest, c.isAlphanum = true ∨ c = '_' ∨ c = '.' ∨ Foreign c

theorem Foreign.inline {c : Char} (foreign : Foreign c) : Inline c := by
  obtain ⟨high, others⟩ := foreign
  simp only [List.mem_cons, List.not_mem_nil, or_false, not_or] at others
  obtain ⟨line, paragraph, mark, last, after⟩ := others
  have tab : c ≠ '\t' := by rintro rfl; exact absurd high (by decide)
  have feed : c ≠ '\n' := by rintro rfl; exact absurd high (by decide)
  have back : c ≠ '\r' := by rintro rfl; exact absurd high (by decide)
  refine ⟨?_, ?_, tab, ?_⟩
  · have valid : c.toNat < 0xD800 ∨ 0xDFFF < c.toNat ∧ c.toNat < 0x110000 := c.valid
    simp only [Yaml.isAdmitted, Bool.or_eq_true, Bool.and_eq_true, decide_eq_true_eq]
    omega
  · simp only [Yaml.isBreak, feed, back, decide_false, Bool.false_or, Bool.or_eq_false_iff,
      decide_eq_false_iff_not]
    omega
  · rintro rfl
    exact mark rfl

theorem wordy_of_isAlphanum {c : Char} (alphanumeric : c.isAlphanum = true) : Wordy c := by
  refine ⟨?_, ?_⟩
  · have kinds : (decide ('A' ≤ c ∧ c ≤ 'Z') || ('a' ≤ c && c ≤ 'z') || ('0' ≤ c && c ≤ '9')) =
        true := alphanumeric
    simp only [Bool.or_eq_true, decide_eq_true_eq] at kinds
    simp only [Yaml.isWordChar, Bool.or_eq_true]
    rcases kinds with (upper | lower) | digit
    · exact .inl (.inl (.inl (.inr (by simpa using upper))))
    · exact .inl (.inl (.inr lower))
    · exact .inl (.inl (.inl (.inl digit)))
  · rintro rfl
    exact absurd alphanumeric (by decide)

theorem wordy_of_isLower {c : Char} (lower : c.isLower = true) : Wordy c := by
  apply wordy_of_isAlphanum
  show ((c.isUpper || c.isLower) || c.isDigit) = true
  rw [lower, Bool.or_true, Bool.true_or]

namespace Bare

variable {line : Line}

theorem lettered (bare : line.Bare) : ∀ c ∈ line.name.toList, Lettered c := by
  intro c member
  rcases bare.letters c member with lower | rfl | foreign
  · exact .inl (wordy_of_isLower lower)
  · exact .inl (by decide)
  · exact .inr ⟨foreign.1, foreign.inline⟩

theorem titled (bare : line.Bare) : Titled line.name.toList where
  lettered := bare.lettered
  nonempty := bare.named
  short := by
    have := byteCount_le line.name.toList
    have := bare.short
    omega

/-- Nothing in a value is taken for a gap, for the end of a key or for a comment. -/
theorem value_inline (bare : line.Bare) :
    ∀ c ∈ line.value.toList, Inline c ∧ c ≠ ' ' ∧ c ≠ ':' ∧ c ≠ '#' := by
  have low {c : Char} (printable : Printable c) (other : c ∉ [' ', ':', '#']) :
      Inline c ∧ c ≠ ' ' ∧ c ≠ ':' ∧ c ≠ '#' := ⟨printable.inline, by simpa using other⟩
  have lettered {c : Char} (lettered : Lettered c) : Inline c ∧ c ≠ ' ' ∧ c ≠ ':' ∧ c ≠ '#' :=
    ⟨lettered.inline, lettered.ne (by decide) (by decide), lettered.ne (by decide) (by decide),
      lettered.ne (by decide) (by decide)⟩
  obtain ⟨sign, first, rest, value, signed, opened, others⟩ := bare.written
  rw [value, List.forall_mem_append, List.forall_mem_cons]
  refine ⟨?_, lettered (.inl (wordy_of_isAlphanum opened)), fun c member => ?_⟩
  · rcases signed with rfl | rfl | rfl
    · simp
    · exact List.forall_mem_singleton.2 (low (by decide) (by decide))
    · exact List.forall_mem_singleton.2 (low (by decide) (by decide))
  · rcases others c member with alphanumeric | rfl | rfl | foreign
    · exact lettered (.inl (wordy_of_isAlphanum alphanumeric))
    · exact low (by decide) (by decide)
    · exact low (by decide) (by decide)
    · exact lettered (.inr ⟨foreign.1, foreign.inline⟩)

theorem value_ne_nil (bare : line.Bare) : line.value.toList ≠ [] := by
  obtain ⟨sign, first, rest, value, -⟩ := bare.written
  rw [value]
  exact List.append_ne_nil_of_right_ne_nil _ (List.cons_ne_nil _ _)

/-- A minus begins no list, since no blank follows it. -/
theorem opensPlain (bare : line.Bare) : Printer.opensPlain line.value.toList = true := by
  obtain ⟨sign, first, rest, value, signed, opened, -⟩ := bare.written
  have wordy := wordy_of_isAlphanum opened
  have dash : first ≠ '-' := wordy.ne (by decide)
  have mark : first ≠ '?' := wordy.ne (by decide)
  have colon : first ≠ ':' := wordy.ne (by decide)
  rw [value]
  rcases signed with rfl | rfl | rfl
  · simp [Printer.opensPlain, dash, mark, colon, wordy.isIndicator]
  · rfl
  · simp [Printer.opensPlain, spaceAhead, wordy.isBlank, wordy.isBreak]

theorem fitsBlock (bare : line.Bare) : line.entry.FitsBlock := by
  have value := bare.value_inline
  have shown := Printer.hidesText_eq_false true fun c member => (value c member).2.2
  refine ⟨bare.titled, .inl ⟨rfl, ⟨fun c member => (value c member).1, shown, bare.value_ne_nil,
    ?_, ?_⟩, bare.opensPlain⟩⟩
  · exact fun same => (value ' ' (List.mem_of_head? same)).2.1 rfl
  · exact fun same => (value ' ' (List.mem_of_getLast? same)).2.1 rfl

end Bare

end Line

/-- Each pair has a line of its own. -/
def document : List Line → String
  | [] => ""
  | line :: lines => line.name ++ ": " ++ line.value ++ "\n" ++ document lines

/-- The words for a boolean. -/
def Spells (text : String) : Bool → Prop
  | true => text ∈ ["true", "True", "TRUE"]
  | false => text ∈ ["false", "False", "FALSE"]

/-- What a line that names a field and gives an admissible value does to the settings. -/
inductive Means (line : Line) : (Settings → Settings) → Prop
  | guestPort {n : Nat} (named : line.name = "guest_port") (number : Unsigned line.value.toList n)
      (fits : n < Text.wordBound 16) :
      Means line fun settings => { settings with guestPort := UInt16.ofNat n }
  | defaultMemoryMib {n : Nat} (named : line.name = "default_memory_mib")
      (number : Unsigned line.value.toList n) (fits : n < Text.wordBound 32) :
      Means line fun settings => { settings with defaultMemoryMib := UInt32.ofNat n }
  | defaultVcpuCount {n : Nat} (named : line.name = "default_vcpu_count")
      (number : Unsigned line.value.toList n) (fits : n < Text.wordBound 32) :
      Means line fun settings => { settings with defaultVcpuCount := UInt32.ofNat n }
  | reapOrphanedVms {b : Bool} (named : line.name = "reap_orphaned_vms")
      (spelt : Spells line.value b) :
      Means line fun settings => { settings with reapOrphanedVms := b }
  | logLevel (named : line.name = "log_level") :
      Means line fun settings => { settings with logLevel := line.value }

/-- No field is named twice, and each line does what it means. -/
def Fills (lines : List Line) (settings : Settings) : Prop :=
  (lines.map (·.name)).Nodup ∧ ∃ changes, List.Forall₂ Means lines changes ∧
    changes.foldl (fun settings change => change settings) standard = settings

namespace Reader

section Scalars

variable {place text : String}

/-- A plain text as a value. -/
def plain (text : String) : Scalar := ⟨text, .plain, none⟩

theorem word?_plain : (plain text).word? = Resolution.word text.toList := by
  simp [plain, Scalar.word?, Scalar.isReadAs]

theorem readWord_eq_ok_iff {bits n : Nat} (narrow : bits ≤ 64) :
    readWord bits (plain text) = .ok n ↔
      Unsigned text.toList n ∧ n < Text.wordBound bits := by
  have wide {n : Nat} (below : n < Text.wordBound bits) : n < Text.wordBound 64 :=
    Nat.lt_of_lt_of_le below (Nat.pow_le_pow_right (by decide) narrow)
  rw [readWord, word?_plain]
  constructor
  · intro read
    split at read
    case h_1 m found =>
      split at read
      case isTrue below =>
        obtain rfl := Except.ok.inj read
        exact ⟨(Resolution.word_eq_some_iff.1 found).1, below⟩
      case isFalse => cases read
    case h_2 => cases read
  · rintro ⟨number, below⟩
    rw [Resolution.word_eq_some_iff.2 ⟨number, wide below⟩]
    exact if_pos below

theorem boolean_eq_some_iff {b : Bool} : Resolution.boolean text = some b ↔ Spells text b := by
  have apart : text ∈ ["false", "False", "FALSE"] → text ∉ ["true", "True", "TRUE"] := by
    simp only [List.mem_cons, List.not_mem_nil, or_false]
    rintro (rfl | rfl | rfl) <;> decide
  simp only [Resolution.boolean, List.contains_eq_mem, decide_eq_true_eq]
  cases b with
  | true => by_cases yes : text ∈ ["true", "True", "TRUE"] <;> simp [Spells, yes]
  | false =>
      by_cases no : text ∈ ["false", "False", "FALSE"]
      · simp [Spells, no, apart no]
      · simp [Spells, no]

theorem readBoolean_eq_ok_iff {b : Bool} :
    readBoolean (plain text) = .ok b ↔ Spells text b := by
  have read : (plain text).boolean? = Resolution.boolean text := by
    simp [plain, Scalar.boolean?, Scalar.isReadAs]
  rw [readBoolean, read, ← boolean_eq_some_iff]
  cases Resolution.boolean text <;> simp

/-- A value of the wrong kind is reported under its field. -/
theorem scalar_eq {α : Type} (wanted : Decoding.Wanted)
    (read : Scalar → Except Decoding.Mismatch α) :
    scalar .none place wanted read (some (.scalar (plain text))) =
      (read (plain text)).mapError (.mismatch (some place)) := rfl

theorem scalar_of_ok {α : Type} {wanted : Decoding.Wanted}
    {read : Scalar → Except Decoding.Mismatch α} {a : α} (taken : read (plain text) = .ok a) :
    scalar .none place wanted read (some (.scalar (plain text))) = .ok a := by
  rw [scalar_eq, taken, mapError_ok]

theorem scalar_of_not_ok {α : Type} (place : String) (wanted : Decoding.Wanted)
    {read : Scalar → Except Decoding.Mismatch α} (barred : ∀ a, read (plain text) ≠ .ok a) :
    ∃ found, scalar .none place wanted read (some (.scalar (plain text))) =
      .error (.mismatch (some place) found) := by
  rw [scalar_eq]
  cases taken : read (plain text) with
  | ok a => exact absurd taken (barred a)
  | error found => exact ⟨found, rfl⟩

theorem word_fails {bits : Nat} (place : String) (narrow : bits ≤ 64)
    (barred : ∀ n, Unsigned text.toList n → ¬n < Text.wordBound bits) :
    ∃ found, (scalars .none place).word bits (some (.scalar (plain text))) =
      .error (.mismatch (some place) found) := by
  refine scalar_of_not_ok place (.word bits) fun n taken => ?_
  obtain ⟨number, fits⟩ := (readWord_eq_ok_iff narrow).1 taken
  exact barred n number fits

theorem boolean_fails (place : String) (barred : ∀ b, ¬Spells text b) :
    ∃ found, (scalars .none place).boolean (some (.scalar (plain text))) =
      .error (.mismatch (some place) found) :=
  scalar_of_not_ok place .boolean fun b taken => barred b (readBoolean_eq_ok_iff.1 taken)

end Scalars

/-- What was read of some lines: the fields that they named, and the settings that they gave. -/
structure Tracks (seen : List String) (filled : Partial) (settings : Settings) : Prop where
  guestPort : filled.guestPort.isSome = true ↔ "guest_port" ∈ seen
  defaultMemoryMib : filled.defaultMemoryMib.isSome = true ↔ "default_memory_mib" ∈ seen
  defaultVcpuCount : filled.defaultVcpuCount.isSome = true ↔ "default_vcpu_count" ∈ seen
  reapOrphanedVms : filled.reapOrphanedVms.isSome = true ↔ "reap_orphaned_vms" ∈ seen
  logLevel : filled.logLevel.isSome = true ↔ "log_level" ∈ seen
  complete : filled.complete = settings

/-- The fields for the line that names one of them. -/
abbrev fields (place : String) : Decoding.Record DocumentFault (Option Yaml.Event) Partial :=
  record (scalars .none place) (.mismatch none)

section Member

variable {line : Line} {seen : List String} {filled : Partial} {settings : Settings}

def key (line : Line) : Yaml.Event := .scalar (plain line.name)

def value (line : Line) : Option Yaml.Event := some (.scalar (plain line.value))

theorem member_of_field {field : Decoding.Field DocumentFault (Option Yaml.Event) Partial}
    (known : (fields line.name).field? line.name = some field) :
    member .none (key line) (value line) filled =
      (fields line.name).store field (value line) filled := by
  simp [member, fieldName, resolve, key, plain, known]

theorem member_stores {field : Decoding.Field DocumentFault (Option Yaml.Event) Partial}
    {next : Partial} (known : (fields line.name).field? line.name = some field)
    (vacant : ¬field.filled filled = true) (read : field.read (value line) filled = .ok next) :
    member .none (key line) (value line) filled = .ok next := by
  rw [member_of_field known, Decoding.Record.store, if_neg vacant, read]

/-- A line that means something does it, unless its field is there already. -/
theorem member_means {change : Settings → Settings} (tracks : Tracks seen filled settings)
    (means : Means line change) (fresh : line.name ∉ seen) :
    ∃ next, member .none (key line) (value line) filled = .ok next ∧
      Tracks (seen ++ [line.name]) next (change settings) := by
  obtain ⟨port, memory, count, reap, level, rfl⟩ := tracks
  obtain ⟨name, text⟩ := line
  cases means with
  | @guestPort n named number fits =>
      obtain rfl : name = "guest_port" := named
      have taken := (readWord_eq_ok_iff (by decide)).2 ⟨number, fits⟩
      refine ⟨{ filled with guestPort := some (UInt16.ofNat n) }, ?_, ?_⟩
      · exact member_stores rfl (port.not.2 fresh) (by simp [value, scalars, scalar_of_ok taken])
      · exact ⟨by simp, by simpa using memory, by simpa using count, by simpa using reap,
          by simpa using level, rfl⟩
  | @defaultMemoryMib n named number fits =>
      obtain rfl : name = "default_memory_mib" := named
      have taken := (readWord_eq_ok_iff (by decide)).2 ⟨number, fits⟩
      refine ⟨{ filled with defaultMemoryMib := some (UInt32.ofNat n) }, ?_, ?_⟩
      · exact member_stores rfl (memory.not.2 fresh) (by simp [value, scalars, scalar_of_ok taken])
      · exact ⟨by simpa using port, by simp, by simpa using count, by simpa using reap,
          by simpa using level, rfl⟩
  | @defaultVcpuCount n named number fits =>
      obtain rfl : name = "default_vcpu_count" := named
      have taken := (readWord_eq_ok_iff (by decide)).2 ⟨number, fits⟩
      refine ⟨{ filled with defaultVcpuCount := some (UInt32.ofNat n) }, ?_, ?_⟩
      · exact member_stores rfl (count.not.2 fresh) (by simp [value, scalars, scalar_of_ok taken])
      · exact ⟨by simpa using port, by simpa using memory, by simp, by simpa using reap,
          by simpa using level, rfl⟩
  | @reapOrphanedVms b named spelt =>
      obtain rfl : name = "reap_orphaned_vms" := named
      have taken := readBoolean_eq_ok_iff.2 spelt
      refine ⟨{ filled with reapOrphanedVms := some b }, ?_, ?_⟩
      · exact member_stores rfl (reap.not.2 fresh) (by simp [value, scalars, scalar_of_ok taken])
      · exact ⟨by simpa using port, by simpa using memory, by simpa using count, by simp,
          by simpa using level, rfl⟩
  | logLevel named =>
      obtain rfl : name = "log_level" := named
      refine ⟨{ filled with logLevel := some text }, ?_, ?_⟩
      · exact member_stores rfl (level.not.2 fresh) rfl
      · exact ⟨by simpa using port, by simpa using memory, by simpa using count,
          by simpa using reap, by simp, rfl⟩

theorem member_unknown (foreign : line.name ∉ fieldNames) :
    member .none (key line) (value line) filled =
      .error (.mismatch none (.unknownField line.name fieldNames)) := by
  have none : (fields line.name).field? line.name = none := by
    simp only [fieldNames, List.mem_cons, List.not_mem_nil, or_false, not_or] at foreign
    obtain ⟨port, memory, count, reap, level⟩ := foreign
    simp [Decoding.Record.field?, record, Ne.symm port, Ne.symm memory, Ne.symm count,
      Ne.symm reap, Ne.symm level]
  simp [member, fieldName, resolve, key, plain, none]
  rfl

/-- A second value for a field is refused unread, and a first one for what it is. -/
theorem member_refuses {field : Decoding.Field DocumentFault (Option Yaml.Event) Partial}
    (known : (fields line.name).field? line.name = some field) (named : field.name = line.name)
    (tracked : field.filled filled = true ↔ line.name ∈ seen)
    (read : (∀ change, ¬Means line change) → ∃ found,
      field.read (value line) filled = .error (.mismatch (some line.name) found)) :
    (line.name ∈ seen → member .none (key line) (value line) filled =
        .error (.mismatch none (.duplicateField line.name))) ∧
      (line.name ∉ seen → (∀ change, ¬Means line change) →
        ∃ found, member .none (key line) (value line) filled =
          .error (.mismatch (some line.name) found)) := by
  rw [member_of_field known, Decoding.Record.store]
  constructor
  · intro again
    rw [if_pos (tracked.2 again), named]
    rfl
  · intro fresh barred
    rw [if_neg (tracked.not.2 fresh)]
    exact read barred

theorem member_known (tracks : Tracks seen filled settings) (known : line.name ∈ fieldNames) :
    (line.name ∈ seen → member .none (key line) (value line) filled =
        .error (.mismatch none (.duplicateField line.name))) ∧
      (line.name ∉ seen → (∀ change, ¬Means line change) →
        ∃ found, member .none (key line) (value line) filled =
          .error (.mismatch (some line.name) found)) := by
  obtain ⟨name, text⟩ := line
  simp only [fieldNames, List.mem_cons, List.not_mem_nil, or_false] at known
  rcases known with rfl | rfl | rfl | rfl | rfl
  · refine member_refuses rfl rfl tracks.guestPort fun barred => ?_
    obtain ⟨found, failed⟩ := @word_fails text 16 "guest_port" (by decide) fun n number fits =>
      barred _ (.guestPort rfl number fits)
    exact ⟨found, by simp [value, failed]⟩
  · refine member_refuses rfl rfl tracks.defaultMemoryMib fun barred => ?_
    obtain ⟨found, failed⟩ := @word_fails text 32 "default_memory_mib" (by decide) fun n number fits =>
      barred _ (.defaultMemoryMib rfl number fits)
    exact ⟨found, by simp [value, failed]⟩
  · refine member_refuses rfl rfl tracks.defaultVcpuCount fun barred => ?_
    obtain ⟨found, failed⟩ := @word_fails text 32 "default_vcpu_count" (by decide) fun n number fits =>
      barred _ (.defaultVcpuCount rfl number fits)
    exact ⟨found, by simp [value, failed]⟩
  · refine member_refuses rfl rfl tracks.reapOrphanedVms fun barred => ?_
    obtain ⟨found, failed⟩ := @boolean_fails text "reap_orphaned_vms" fun b spelt =>
      barred _ (.reapOrphanedVms rfl spelt)
    exact ⟨found, by simp [value, failed]⟩
  · exact member_refuses rfl rfl tracks.logLevel fun barred => absurd (.logLevel rfl) (barred _)

theorem members_line (rest : List Yaml.Event) :
    members .none (line.entry.events .plain ++ rest) filled =
      member .none (key line) (value line) filled >>= members .none rest := by
  simp only [Entry.events, Line.entry, String.ofList_toList, List.cons_append, List.nil_append,
    members]
  rfl

end Member

variable {lines : List Line} {changes : List (Settings → Settings)}

/-- Line after line, the fields are filled as the lines say. -/
theorem members_lines (means : List.Forall₂ Means lines changes) {seen : List String}
    (fresh : (seen ++ lines.map (·.name)).Nodup) {filled : Partial} {settings : Settings}
    (tracks : Tracks seen filled settings) (rest : List Yaml.Event) :
    ∃ next, members .none (lines.flatMap (fun line => line.entry.events .plain) ++ rest) filled =
        members .none rest next ∧
      Tracks (seen ++ lines.map (·.name)) next
        (changes.foldl (fun settings change => change settings) settings) := by
  induction means generalizing seen filled settings with
  | nil => exact ⟨filled, rfl, by simpa using tracks⟩
  | @cons line change lines changes first others ih =>
      rw [List.map_cons, List.append_cons] at fresh
      have apart := List.nodup_append.1 (List.nodup_append.1 fresh).1
      have new : line.name ∉ seen := fun again =>
        apart.2.2 _ again _ (List.mem_singleton_self _) rfl
      obtain ⟨middle, taken, tracks⟩ := member_means tracks first new
      obtain ⟨next, run, tracks⟩ := ih fresh tracks
      refine ⟨next, ?_, ?_⟩
      · rw [List.flatMap_cons, List.append_assoc, members_line, taken, ok_bind, run]
      · rwa [List.map_cons, List.append_cons]

theorem tracks_empty : Tracks [] .empty standard :=
  ⟨by simp [Partial.empty], by simp [Partial.empty], by simp [Partial.empty],
    by simp [Partial.empty], by simp [Partial.empty], rfl⟩

end Reader

section Document

variable {lines : List Line}

theorem document_toList :
    (document lines).toList = lines.flatMap (fun line => line.entry.line) := by
  induction lines with
  | nil => rfl
  | cons line lines ih =>
      simp [document, ih, Line.entry, Entry.line, Entry.shown_plain]

/-- The colon behind a name is no blank. -/
theorem document_filled (filled : lines ≠ []) : Text.allBlank (document lines).toList = false := by
  obtain ⟨line, lines, rfl⟩ := List.exists_cons_of_ne_nil filled
  rw [Text.allBlank, List.all_eq_false]
  refine ⟨':', ?_, by decide⟩
  simp [document_toList, Entry.line]

theorem document_read (bare : ∀ line ∈ lines, line.Bare) (filled : lines ≠ []) :
    Document.read (document lines).toList =
      ⟨.mappingStart :: lines.flatMap (fun line => line.entry.events .plain) ++ [.mappingEnd],
        .none, true⟩ := by
  have fits : ∀ entry ∈ lines.map (·.entry), entry.FitsBlock :=
    List.forall_mem_map.2 fun line member => (bare line member).fitsBlock
  have read := Document.read_lines fits (by simpa using filled)
  rwa [List.flatMap_map, List.flatMap_map, ← document_toList] at read

/-- Fields that are all taken make up the settings. -/
theorem readYaml_of_members (bare : ∀ line ∈ lines, line.Bare) {filled : Partial}
    (read : Reader.members .none
      (lines.flatMap (fun line => line.entry.events .plain) ++ [.mappingEnd]) .empty =
        .ok filled) :
    readYaml (document lines) = filled.complete.validate.map fun _ => filled.complete := by
  by_cases empty : lines = []
  · subst empty
    obtain rfl : Partial.empty = filled := Except.ok.inj read
    rfl
  · have settings : Reader.ofDocument (Document.read (document lines).toList) =
        .ok filled.complete := by
      rw [document_read bare empty, Reader.ofDocument]
      exact congrArg (· >>= fun filled => .ok filled.complete) read
    simp only [readYaml, document_filled empty, Bool.false_eq_true, if_false, settings, mapError_ok,
      ok_bind]
    cases filled.complete.validate <;> rfl

/-- The first fault is the one that is reported. -/
theorem readYaml_of_fault (bare : ∀ line ∈ lines, line.Bare) {fault : DocumentFault}
    (read : Reader.members .none
      (lines.flatMap (fun line => line.entry.events .plain) ++ [.mappingEnd]) .empty =
        .error fault) :
    readYaml (document lines) = .error (.serialization fault.message) := by
  have filled : lines ≠ [] := by
    rintro rfl
    cases read
  have refused : Reader.ofDocument (Document.read (document lines).toList) = .error fault := by
    rw [document_read bare filled, Reader.ofDocument]
    exact congrArg (· >>= fun filled => .ok filled.complete) read
  simp only [readYaml, document_filled filled, Bool.false_eq_true, if_false, refused]
  rfl

end Document

section Lists

variable {lines before after : List Line} {line : Line}

theorem Means.known {change : Settings → Settings} (means : Means line change) :
    line.name ∈ fieldNames := by
  cases means <;> simp [fieldNames, *]

theorem Fills.known {settings : Settings} (fills : Fills lines settings) :
    ∀ name ∈ lines.map (·.name), name ∈ fieldNames := by
  obtain ⟨-, changes, means, -⟩ := fills
  rw [List.forall_mem_map]
  induction means with
  | nil => simp
  | cons first others ih => exact List.forall_mem_cons.2 ⟨first.known, ih⟩

theorem Fills.append {settings : Settings} (fills : Fills before settings)
    (fresh : line.name ∉ before.map (·.name)) {change : Settings → Settings}
    (means : Means line change) : Fills (before ++ [line]) (change settings) := by
  obtain ⟨distinct, changes, all, rfl⟩ := fills
  refine ⟨?_, changes ++ [change], List.rel_append all (.cons means .nil), by simp⟩
  rw [List.map_append, List.map_singleton, List.nodup_append]
  refine ⟨distinct, by simp, ?_⟩
  intro name seen other this same
  rw [List.mem_singleton.1 this] at same
  exact fresh (same ▸ seen)

/-- A list either gives settings or has a first line that stops it. -/
theorem fills_or_stops (lines : List Line) :
    (∃ settings, Fills lines settings) ∨
      ∃ before line after, lines = before ++ line :: after ∧ (∃ settings, Fills before settings) ∧
        (line.name ∉ fieldNames ∨ line.name ∈ before.map (·.name) ∨
          ∀ change, ¬Means line change) := by
  induction lines using List.reverseRecOn with
  | nil => exact .inl ⟨standard, List.nodup_nil, [], .nil, rfl⟩
  | append_singleton lines line ih =>
      rcases ih with ⟨settings, fills⟩ | ⟨before, other, after, rfl, fills, stops⟩
      · by_cases seen : line.name ∈ lines.map (·.name)
        · exact .inr ⟨lines, line, [], rfl, ⟨settings, fills⟩, .inr (.inl seen)⟩
        · by_cases means : ∃ change, Means line change
          · obtain ⟨change, means⟩ := means
            exact .inl ⟨_, fills.append seen means⟩
          · exact .inr ⟨lines, line, [], rfl, ⟨settings, fills⟩,
              .inr (.inr (not_exists.1 means))⟩
      · exact .inr ⟨before, other, after ++ [line], by simp, fills, stops⟩

theorem members_of_fills {settings : Settings} (fills : Fills lines settings)
    (rest : List Yaml.Event) :
    ∃ filled, Reader.members .none
        (lines.flatMap (fun line => line.entry.events .plain) ++ rest) .empty =
          Reader.members .none rest filled ∧
      Reader.Tracks (lines.map (·.name)) filled settings := by
  obtain ⟨distinct, changes, means, rfl⟩ := fills
  exact Reader.members_lines means distinct Reader.tracks_empty rest

/-- Behind lines that are taken, the fault of a line is the fault of the list. -/
theorem readYaml_stops (bare : ∀ each ∈ before ++ line :: after, each.Bare)
    {settings : Settings} (fills : Fills before settings) :
    ∃ filled, Reader.Tracks (before.map (·.name)) filled settings ∧ ∀ fault,
      Reader.member .none (Reader.key line) (Reader.value line) filled = .error fault →
        readYaml (document (before ++ line :: after)) = .error (.serialization fault.message) := by
  obtain ⟨filled, run, tracks⟩ := members_of_fills fills
    (line.entry.events .plain ++ (after.flatMap (fun line => line.entry.events .plain) ++
      [.mappingEnd]))
  refine ⟨filled, tracks, fun fault stops => readYaml_of_fault bare ?_⟩
  rw [List.flatMap_append, List.flatMap_cons, List.append_assoc, List.append_assoc, run,
    Reader.members_line, stops, error_bind]

end Lists

/-- The first line that names no field, names a field again or gives a value that does not fit is
reported, and without such a line the settings are those of all lines together. -/
theorem fields_read_in_order (lines : List Line) (bare : ∀ line ∈ lines, line.Bare) :
    (∀ settings, Fills lines settings →
      readYaml (document lines) = settings.validate.map fun _ => settings) ∧
    (∀ before line after, lines = before ++ line :: after → (∃ settings, Fills before settings) →
      (line.name ∉ fieldNames →
        readYaml (document lines) = .error (.serialization ("unknown field `" ++ line.name ++
          "`, expected one of " ++
          ", ".intercalate (fieldNames.map fun field => "`" ++ field ++ "`")))) ∧
      (line.name ∈ before.map (·.name) →
        readYaml (document lines) =
          .error (.serialization ("duplicate field `" ++ line.name ++ "`"))) ∧
      (line.name ∈ fieldNames → line.name ∉ before.map (·.name) →
        (∀ change, ¬Means line change) → ∃ text,
          readYaml (document lines) = .error (.serialization (line.name ++ ": " ++ text)))) ∧
    ((∃ settings, Fills lines settings) ∨
      ∃ before line after, lines = before ++ line :: after ∧ (∃ settings, Fills before settings) ∧
        (line.name ∉ fieldNames ∨ line.name ∈ before.map (·.name) ∨
          ∀ change, ¬Means line change)) := by
  refine ⟨?_, ?_, fills_or_stops lines⟩
  · intro settings fills
    obtain ⟨filled, run, tracks⟩ := members_of_fills fills [.mappingEnd]
    rw [readYaml_of_members bare run, tracks.complete]
  · rintro before line after rfl ⟨settings, fills⟩
    obtain ⟨filled, tracks, stops⟩ := readYaml_stops bare fills
    refine ⟨fun foreign => ?_, fun again => ?_, fun known fresh barred => ?_⟩
    · exact stops _ (Reader.member_unknown foreign)
    · exact stops _ ((Reader.member_known tracks (fills.known _ again)).1 again)
    · obtain ⟨found, refused⟩ := (Reader.member_known tracks known).2 fresh barred
      exact ⟨_, stops _ refused⟩

/-- A port in hexadecimal and a level make up settings with the standard for all else. -/
theorem fields_read_in_order_hexadecimal :
    (∀ line ∈ [(⟨"guest_port", "+0x1F90"⟩ : Line), ⟨"log_level", "debug"⟩], line.Bare) ∧
      readYaml (document [⟨"guest_port", "+0x1F90"⟩, ⟨"log_level", "debug"⟩]) =
        .ok { standard with guestPort := 8080, logLevel := "debug" } := by
  have port : (⟨"guest_port", "+0x1F90"⟩ : Line).Bare :=
    ⟨by decide, by decide, forall_of_all (by decide),
      ['+'], '0', "x1F90".toList, rfl, by simp, by decide, forall_of_all (by decide)⟩
  have level : (⟨"log_level", "debug"⟩ : Line).Bare :=
    ⟨by decide, by decide, forall_of_all (by decide),
      [], 'd', "ebug".toList, rfl, by simp, by decide, forall_of_all (by decide)⟩
  have bare : ∀ line ∈ [(⟨"guest_port", "+0x1F90"⟩ : Line), ⟨"log_level", "debug"⟩],
      line.Bare := by
    simpa using ⟨port, level⟩
  have number : Unsigned "+0x1F90".toList 8080 :=
    .plus (.hexadecimal ⟨by decide, [1, 15, 9, 0], by decide, by decide, by decide⟩)
  have fills : Fills [⟨"guest_port", "+0x1F90"⟩, ⟨"log_level", "debug"⟩]
      { standard with guestPort := 8080, logLevel := "debug" } :=
    ⟨by decide, _, .cons (.guestPort rfl number (by decide)) (.cons (.logLevel rfl) .nil), rfl⟩
  exact ⟨bare, (fields_read_in_order _ bare).1 _ fills⟩

/-- The core schema allows zeros in front of a decimal, which make no number here, and it has
neither a binary form nor a plus in front of a prefix, which do. -/
theorem core_schema_not_read :
    (CoreUnsigned "007".toList 7 ∧ readYaml (document [⟨"guest_port", "007"⟩]) =
      .error (.serialization "guest_port: invalid type: string \"007\", expected u16")) ∧
    ((∀ n, ¬CoreUnsigned "0b11".toList n) ∧ readYaml (document [⟨"guest_port", "0b11"⟩]) =
      .ok { standard with guestPort := 3 }) ∧
    ((∀ n, ¬CoreUnsigned "+0x10".toList n) ∧ readYaml (document [⟨"guest_port", "+0x10"⟩]) =
      .ok { standard with guestPort := 16 }) := by
  have padded : CoreUnsigned "007".toList 7 :=
    .decimal ⟨by decide, [0, 0, 7], by decide, by decide, by decide⟩
  have foreign {text : List Char} {n : Nat} (numeral : Numeral 10 text n) :=
    Resolution.isDigit_of_numeral numeral
  refine ⟨⟨padded, by rfl⟩, ⟨fun n core => ?_, by rfl⟩, ⟨fun n core => ?_, by rfl⟩⟩
  · cases core with
    | decimal numeral => exact absurd (foreign numeral 'b' (by decide)) (by decide)
  · cases core with
    | decimal numeral => exact absurd (foreign numeral '+' (by decide)) (by decide)
    | plus numeral => exact absurd (foreign numeral 'x' (by decide)) (by decide)

end GuestPod.Settings
