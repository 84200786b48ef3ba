/-
This file reads settings back from their YAML lines and from their JSON text.
-/

import GuestPod.Proofs.Digits
import GuestPod.Proofs.Documents
import GuestPod.Proofs.Failure
import GuestPod.Proofs.Quotation
import GuestPod.Wire.SettingsYaml

namespace GuestPod

namespace Yaml.Resolution

theorem hexValue_digit {c : Char} (digit : c.isDigit = true) :
    Text.hexValue c = some (Text.digitValue c) := by
  rw [Text.isDigit_iff_toNat] at digit
  exact if_pos ⟨UInt32.le_iff_toNat_le.2 digit.1, UInt32.le_iff_toNat_le.2 digit.2⟩

theorem foldlM_digits {text : List Char} (run : ∀ c ∈ text, c.isDigit = true) (value : Nat) :
    text.foldlM (fun value c =>
        ((Text.hexValue c).filter (· < 10)).map (10 * value + ·)) value =
      some (Nat.ofDigitChars 10 text value) := by
  induction text generalizing value with
  | nil => rfl
  | cons c text ih =>
      rw [List.forall_mem_cons] at run
      have small : Text.digitValue c < 10 := by
        have := Text.isDigit_iff_toNat.1 run.1
        rw [Text.digitValue]
        omega
      rw [List.foldlM_cons, hexValue_digit run.1, Text.ofDigitChars_cons_digitValue,
        Option.filter_some, if_pos (decide_eq_true small), Option.map_some, Option.bind_eq_bind,
        Option.bind_some, ih run.2]

theorem digits_toDigits (n : Nat) : digits 10 (Nat.toDigits 10 n) = some n := by
  have run : ∀ c ∈ Nat.toDigits 10 n, c.isDigit = true :=
    fun _ member => Text.isDigit_of_mem_toDigits member
  have value := foldlM_digits run 0
  rw [Nat.ofDigitChars_ten_toDigits] at value
  rw [digits]
  · exact value
  · exact Nat.toDigits_ne_nil

theorem isPadded_toDigits (n : Nat) : isPadded (Nat.toDigits 10 n) = false := by
  rw [isPadded.eq_def]
  split
  · rename_i rest text
    simp [Text.tail_eq_nil_of_toDigits text]
  · rfl

/-- A decimal number that fits the word is read back. -/
theorem word_toDigits {n : Nat} (below : n < Text.wordBound 64) :
    word (Nat.toDigits 10 n) = some n := by
  have foreign : ∀ c ∈ Nat.toDigits 10 n, c.isDigit = true :=
    fun _ member => Text.isDigit_of_mem_toDigits member
  have magnitude : magnitude (Nat.toDigits 10 n) = some n := by
    rw [magnitude.eq_def]
    split
    case h_4 => rw [isPadded_toDigits, if_neg (by simp), digits_toDigits]
    all_goals
      rename_i text
      exact absurd (foreign _ (text ▸ List.mem_cons_of_mem _ List.mem_cons_self)) (by decide)
  have unsigned : unsigned (Nat.toDigits 10 n) = some n := by
    rw [unsigned.eq_def]
    split
    case h_1 text => exact absurd (foreign _ (text ▸ List.mem_cons_self)) (by decide)
    case h_2 => exact magnitude
  rw [word, unsigned, Option.filter_some, if_pos (decide_eq_true below)]

end Yaml.Resolution

namespace Settings

open Yaml

/-- The settings field by field, with the form in which the level is written. -/
def entries (settings : Settings) (style : Style) : List Entry :=
  [⟨"guest_port".toList, Nat.toDigits 10 settings.guestPort.toNat, .plain⟩,
    ⟨"default_memory_mib".toList, Nat.toDigits 10 settings.defaultMemoryMib.toNat, .plain⟩,
    ⟨"default_vcpu_count".toList, Nat.toDigits 10 settings.defaultVcpuCount.toNat, .plain⟩,
    ⟨"reap_orphaned_vms".toList,
      (if settings.reapOrphanedVms then "true" else "false").toList, .plain⟩,
    ⟨"log_level".toList, settings.logLevel.toList, style⟩]

variable {settings : Settings}

namespace Reader

theorem readWord_toDigits {bits n : Nat} (below : n < Text.wordBound bits) (fits : bits ≤ 64) :
    readWord bits ⟨String.ofList (Nat.toDigits 10 n), .plain, none⟩ = .ok n := by
  have wide : n < Text.wordBound 64 :=
    Nat.lt_of_lt_of_le below (Nat.pow_le_pow_right (by decide) fits)
  have word : Scalar.word? ⟨String.ofList (Nat.toDigits 10 n), .plain, none⟩ = some n := by
    rw [Scalar.word?, if_pos (by simp [Scalar.isReadAs]), String.toList_ofList,
      Resolution.word_toDigits wide]
  simp [readWord, word, below]

section Fields

variable (place : String)

theorem word_toDigits {bits n : Nat} (below : n < Text.wordBound bits) (fits : bits ≤ 64) :
    (scalars .none place).word bits
        (some (.scalar ⟨String.ofList (Nat.toDigits 10 n), .plain, none⟩)) = .ok n := by
  simp [scalars, scalar, resolve, readWord_toDigits below fits, mapError_ok]

theorem boolean_name (b : Bool) :
    (scalars .none place).boolean
        (some (.scalar ⟨if b then "true" else "false", .plain, none⟩)) = .ok b := by
  cases b <;> rfl

end Fields

/-- One name with its value fills one field. -/
theorem members_step {name : String} {nameStyle : Style} {value : Scalar} {rest : List Yaml.Event}
    {filled next : Partial} {field : Decoding.Field DocumentFault (Option Yaml.Event) Partial}
    (known : (record (scalars .none name) (.mismatch none)).field? name = some field)
    (vacant : field.filled filled = false)
    (read : field.read (some (.scalar value)) filled = .ok next) :
    members .none (.scalar ⟨name, nameStyle, none⟩ :: .scalar value :: rest) filled =
      members .none rest next := by
  have stored : member .none (.scalar ⟨name, nameStyle, none⟩) (some (.scalar value)) filled =
      .ok next := by
    simp [member, fieldName, resolve, known, Decoding.Record.store, vacant, read]
  simp [members, stored]

theorem members_entries (nameStyle style : Style) :
    members .none ((settings.entries style).flatMap (Entry.events nameStyle) ++ [.mappingEnd])
        .empty =
      .ok ⟨some settings.guestPort, some settings.defaultMemoryMib,
        some settings.defaultVcpuCount, some settings.reapOrphanedVms,
        some settings.logLevel⟩ := by
  simp only [entries, Entry.events, List.flatMap_cons, List.flatMap_nil, List.cons_append,
    List.nil_append, String.ofList_toList]
  have port := word_toDigits "guest_port" (Text.uint16_lt settings.guestPort) (by decide)
  have memory := word_toDigits "default_memory_mib" (Text.uint32_lt settings.defaultMemoryMib)
    (by decide)
  have count := word_toDigits "default_vcpu_count" (Text.uint32_lt settings.defaultVcpuCount)
    (by decide)
  have reap := boolean_name "reap_orphaned_vms" settings.reapOrphanedVms
  calc _ = members .none _ { Partial.empty with guestPort := some settings.guestPort } :=
        members_step rfl rfl (by simp [port])
    _ = members .none _ { Partial.empty with
          guestPort := some settings.guestPort
          defaultMemoryMib := some settings.defaultMemoryMib } :=
        members_step rfl rfl (by simp [memory])
    _ = members .none _ { Partial.empty with
          guestPort := some settings.guestPort
          defaultMemoryMib := some settings.defaultMemoryMib
          defaultVcpuCount := some settings.defaultVcpuCount } :=
        members_step rfl rfl (by simp [count])
    _ = members .none _ { Partial.empty with
          guestPort := some settings.guestPort
          defaultMemoryMib := some settings.defaultMemoryMib
          defaultVcpuCount := some settings.defaultVcpuCount
          reapOrphanedVms := some settings.reapOrphanedVms } :=
        members_step rfl rfl (by simp [reap])
    _ = members .none [.mappingEnd] ⟨some settings.guestPort, some settings.defaultMemoryMib,
          some settings.defaultVcpuCount, some settings.reapOrphanedVms,
          some settings.logLevel⟩ :=
        members_step rfl rfl rfl
    _ = _ := rfl

theorem ofDocument_entries (nameStyle style : Style) :
    ofDocument ⟨.mappingStart :: (settings.entries style).flatMap (Entry.events nameStyle) ++
        [.mappingEnd], .none, true⟩ = .ok settings := by
  simp only [ofDocument, body, List.cons_append, members_entries, ok_bind, if_true, pure_eq_ok]
  rfl

end Reader

/-- A document with the fields of the settings is validated as they are. -/
theorem readYaml_of_document {text : String} {nameStyle style : Style}
    (filled : Text.allBlank text.toList = false)
    (document : Document.read text.toList =
      ⟨.mappingStart :: (settings.entries style).flatMap (Entry.events nameStyle) ++ [.mappingEnd],
        .none, true⟩) :
    readYaml text = settings.validate.map fun _ => settings := by
  simp only [readYaml, filled, Bool.false_eq_true, if_false, document, Reader.ofDocument_entries,
    mapError_ok, ok_bind]
  cases settings.validate <;> rfl

theorem named_fields {style : Style} : ∀ entry ∈ settings.entries style, Named entry.name := by
  simp only [entries, List.forall_mem_cons]
  exact ⟨⟨forall_of_all (by decide), by decide, by decide⟩,
    ⟨forall_of_all (by decide), by decide, by decide⟩,
    ⟨forall_of_all (by decide), by decide, by decide⟩,
    ⟨forall_of_all (by decide), by decide, by decide⟩,
    ⟨forall_of_all (by decide), by decide, by decide⟩, by simp⟩

section Fits

theorem wordy_of_isDigit {c : Char} (digit : c.isDigit = true) : Wordy c := by
  rw [Text.isDigit_iff_toNat] at digit
  refine ⟨?_, ?_⟩
  · have between : '0' ≤ c ∧ c ≤ '9' :=
      ⟨UInt32.le_iff_toNat_le.2 digit.1, UInt32.le_iff_toNat_le.2 digit.2⟩
    simp [isWordChar, between]
  · rintro rfl
    exact absurd digit.1 (by decide)

theorem wordy_toDigits (n : Nat) : ∀ c ∈ Nat.toDigits 10 n, Wordy c :=
  fun _ member => wordy_of_isDigit (Text.isDigit_of_mem_toDigits member)

theorem wordy_boolean (b : Bool) : ∀ c ∈ (if b then "true" else "false").toList, Wordy c := by
  cases b <;> exact forall_of_all (by decide)

theorem boolean_ne_nil (b : Bool) : (if b then "true" else "false").toList ≠ [] := by
  cases b <;> decide

/-- A word goes without quotes anywhere. -/
theorem fitsBlock_of_wordy {name text : List Char} (titled : Titled name)
    (wordy : ∀ c ∈ text, Wordy c) (nonempty : text ≠ []) :
    (⟨name, text, .plain⟩ : Entry).FitsBlock := by
  have shown := Printer.hidesText_wordy true wordy
  have inline := fun c member => (wordy c member).printable.inline
  refine ⟨titled, .inl ⟨rfl, ⟨inline, shown, nonempty, ?_, ?_⟩, ?_⟩⟩
  · exact fun same => absurd (wordy ' ' (List.mem_of_head? same)) (by decide)
  · exact fun same => absurd (wordy ' ' (List.mem_of_getLast? same)) (by decide)
  · obtain ⟨c, more, rfl⟩ := List.exists_cons_of_ne_nil nonempty
    have first := wordy c List.mem_cons_self
    have dash : c ≠ '-' := first.ne (by decide)
    have mark : c ≠ '?' := first.ne (by decide)
    have colon : c ≠ ':' := first.ne (by decide)
    simp [Printer.opensPlain, dash, mark, colon, first.isIndicator]

theorem isQuotable_of_printable {c : Char} (printable : Printable c) :
    Printer.isQuotable c = true := by
  have tab : c ≠ '\t' := printable.ne_of_toNat_lt (by decide)
  have mark : c ≠ byteOrderMark := by
    rintro rfl
    exact absurd printable (by decide)
  simp [Printer.isQuotable, tab, mark, printable.isAdmitted, printable.isBreak]

theorem legible_of_isPlain {text : List Char} (printable : ∀ c ∈ text, Printable c)
    (plain : Printer.isPlain text = true) :
    Printer.Legible text ∧ Printer.opensPlain text = true := by
  simp only [Printer.isPlain, Bool.and_eq_true, Bool.not_eq_true', decide_eq_true_eq] at plain
  obtain ⟨⟨⟨⟨⟨opens, -⟩, shown⟩, first⟩, last⟩, -⟩ := plain
  refine ⟨⟨fun c member => (printable c member).inline, shown, ?_, first, last⟩, opens⟩
  rintro rfl
  cases opens

end Fits

/-- The level goes without quotes where that is safe. -/
def levelStyle (level : String) : Style :=
  if !Printer.isAmbiguous level && Printer.isPlain level.toList then .plain else .singleQuoted

theorem print_eq_shown (name : List Char) {text : String}
    (printable : ∀ c ∈ text.toList, Printable c) :
    Printer.print text = (⟨name, text.toList, levelStyle text⟩ : Entry).shown := by
  have quotable : text.toList.all Printer.isQuotable = true :=
    List.all_eq_true.2 fun c member => isQuotable_of_printable (printable c member)
  rw [Printer.print, quotable]
  simp only [levelStyle, Entry.shown]
  split
  · rfl
  · rw [if_pos trivial]
    rfl

section Printable

variable (printable : ∀ c ∈ settings.logLevel.toList, Printable c)
include printable

theorem fitsBlock : ∀ entry ∈ settings.entries (levelStyle settings.logLevel), entry.FitsBlock := by
  have named := @named_fields settings (levelStyle settings.logLevel)
  simp only [entries, List.forall_mem_cons] at named ⊢
  obtain ⟨port, memory, count, reap, level, -⟩ := named
  refine ⟨fitsBlock_of_wordy port.titled (wordy_toDigits _) Nat.toDigits_ne_nil,
    fitsBlock_of_wordy memory.titled (wordy_toDigits _) Nat.toDigits_ne_nil,
    fitsBlock_of_wordy count.titled (wordy_toDigits _) Nat.toDigits_ne_nil,
    fitsBlock_of_wordy reap.titled (wordy_boolean _) (boolean_ne_nil _), ⟨level.titled, ?_⟩, by simp⟩
  simp only [levelStyle]
  split
  · rename_i plain
    rw [Bool.and_eq_true] at plain
    exact .inl ⟨rfl, legible_of_isPlain printable plain.2⟩
  · exact .inr ⟨rfl, printable⟩

theorem fitsFlow : ∀ entry ∈ settings.entries .doubleQuoted, entry.FitsFlow := by
  have named := @named_fields settings .doubleQuoted
  simp only [entries, List.forall_mem_cons] at named ⊢
  obtain ⟨port, memory, count, reap, level, -⟩ := named
  exact ⟨⟨port, .inl ⟨rfl, wordy_toDigits _, Nat.toDigits_ne_nil⟩⟩,
    ⟨memory, .inl ⟨rfl, wordy_toDigits _, Nat.toDigits_ne_nil⟩⟩,
    ⟨count, .inl ⟨rfl, wordy_toDigits _, Nat.toDigits_ne_nil⟩⟩,
    ⟨reap, .inl ⟨rfl, wordy_boolean _, boolean_ne_nil _⟩⟩, ⟨level, .inr ⟨rfl, printable⟩⟩, by simp⟩

theorem printYaml_toList : settings.printYaml.toList =
    (settings.entries (levelStyle settings.logLevel)).flatMap Entry.line := by
  have level := print_eq_shown "log_level".toList printable
  unfold printYaml
  rw [String.toList_ofList, level]
  simp only [entries, List.flatMap_cons, List.flatMap_nil, Entry.line, Entry.shown_plain,
    List.append_assoc, List.cons_append, List.nil_append, List.append_nil]

end Printable

theorem compact_toList : (Json.compact settings.toJson).toList =
    '\x7b' :: (Entry.members (settings.entries .doubleQuoted) ++ ['\x7d']) := by
  have number (n : Nat) : (Json.ofNat n).print = Nat.toDigits 10 n := rfl
  have boolean (b : Bool) : (Json.boolean b).print = (if b then "true" else "false").toList := by
    cases b <;> rfl
  have string (text : String) : (Json.string text).print = Quoted.inQuotes false text.toList := rfl
  have member (name : String) (value : Json) : Json.printMember (name, value) =
      Quoted.inQuotes false name.toList ++ ':' :: value.print := rfl
  have object : settings.toJson.print = '\x7b' :: Json.printMembers _ ++ ['\x7d'] := rfl
  unfold Json.compact
  rw [String.toList_ofList, object]
  simp only [Json.printMembers, member, number, boolean, string, entries, Entry.members,
    Entry.member, Entry.shown_plain, Entry.shown_doubleQuoted, List.cons_append]

/-- Both texts of settings are read as the settings that they were written from. -/
theorem texts_read_back (settings : Settings)
    (printable : ∀ c ∈ settings.logLevel.toList, 0x20 ≤ c.toNat ∧ c.toNat ≤ 0x7E) :
    readYaml settings.printYaml = settings.validate.map (fun _ => settings) ∧
      readYaml (Json.compact settings.toJson) = settings.validate.map (fun _ => settings) := by
  constructor
  · have document := Document.read_lines (fitsBlock printable) (List.cons_ne_nil _ _)
    rw [← printYaml_toList printable] at document
    refine readYaml_of_document ?_ document
    rw [printYaml_toList printable]
    rfl
  · have document := Document.read_members (fitsFlow printable) (List.cons_ne_nil _ _)
    rw [← compact_toList] at document
    refine readYaml_of_document ?_ document
    rw [compact_toList]
    rfl

/-- The standard settings come back, and a level that is none is refused with its text. -/
theorem texts_read_back_standard_and_odd :
    (readYaml standard.printYaml = .ok standard ∧
        readYaml (Json.compact standard.toJson) = .ok standard) ∧
      readYaml { standard with logLevel := " it's: #no " }.printYaml =
        .error (badLevel " it's: #no ") :=
  ⟨texts_read_back standard (forall_of_all (by decide)),
    (texts_read_back { standard with logLevel := " it's: #no " } (forall_of_all (by decide))).1⟩

end Settings

end GuestPod
