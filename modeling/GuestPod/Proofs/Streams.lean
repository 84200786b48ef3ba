/-
This file puts the tokens of a text with one mapping in order, in a block and in a flow.
-/

import GuestPod.Proofs.Tokens

namespace GuestPod.Yaml

/-- A name and a value of a mapping, with the form that the value is written in. -/
structure Entry where
  name : List Char
  text : List Char
  style : Style

namespace Entry

def shown (entry : Entry) : List Char :=
  match entry.style with
  | .plain => entry.text
  | .singleQuoted => Quoted.inQuotes true entry.text
  | _ => Quoted.inQuotes false entry.text

def line (entry : Entry) : List Char := entry.name ++ ':' :: ' ' :: (entry.shown ++ ['\n'])

def tokens (nameStyle : Style) (entry : Entry) : List Token :=
  [.key, .scalar entry.name nameStyle, .value, .scalar entry.text entry.style]

/-- In a block a value is legible or stands in single quotes. -/
structure FitsBlock (entry : Entry) : Prop where
  titled : Titled entry.name
  value : (entry.style = .plain ∧ Printer.Legible entry.text ∧
      Printer.opensPlain entry.text = true) ∨
    (entry.style = .singleQuoted ∧ ∀ c ∈ entry.text, Printable c)

/-- In a flow a value is a word or stands in double quotes. -/
structure FitsFlow (entry : Entry) : Prop where
  named : Named entry.name
  value : (entry.style = .plain ∧ (∀ c ∈ entry.text, Wordy c) ∧ entry.text ≠ []) ∨
    (entry.style = .doubleQuoted ∧ ∀ c ∈ entry.text, Printable c)

def member (entry : Entry) : List Char :=
  Quoted.inQuotes false entry.name ++ ':' :: entry.shown

/-- Commas stand between the members of a flow. -/
def members : List Entry → List Char
  | [] => []
  | [entry] => entry.member
  | entry :: entries => entry.member ++ ',' :: members entries

def memberTokens : List Entry → List Token
  | [] => []
  | [entry] => entry.tokens .doubleQuoted
  | entry :: entries => entry.tokens .doubleQuoted ++ .flowEntry :: memberTokens entries

section Text

theorem shown_plain (name text : List Char) : (⟨name, text, .plain⟩ : Entry).shown = text := rfl

theorem shown_doubleQuoted (name text : List Char) :
    (⟨name, text, .doubleQuoted⟩ : Entry).shown = Quoted.inQuotes false text := rfl

theorem members_cons (entry another : Entry) (entries : List Entry) :
    members (entry :: another :: entries) =
      entry.member ++ ',' :: members (another :: entries) := rfl

theorem memberTokens_cons (entry another : Entry) (entries : List Entry) :
    memberTokens (entry :: another :: entries) =
      entry.tokens .doubleQuoted ++ .flowEntry :: memberTokens (another :: entries) := rfl

variable {entry : Entry} {entries : List Entry}

theorem FitsFlow.printable (fits : entry.FitsFlow) : ∀ c ∈ entry.text, Printable c := by
  obtain ⟨-, ⟨-, wordy, -⟩ | ⟨-, printable⟩⟩ := fits
  · exact fun c member => (wordy c member).printable
  · exact printable

theorem shown_printable (printable : ∀ c ∈ entry.text, Printable c) :
    ∀ c ∈ entry.shown, Printable c := by
  rw [shown]
  split
  · exact printable
  · exact Quoted.inQuotes_printable printable
  · exact Quoted.inQuotes_printable printable

theorem FitsBlock.shown_admitted (fits : entry.FitsBlock) :
    ∀ c ∈ entry.shown, isAdmitted c = true := by
  obtain ⟨name, text, style⟩ := entry
  obtain ⟨-, ⟨rfl, legible, -⟩ | ⟨rfl, printable⟩⟩ := fits
  · exact fun c member => (legible.inline c member).admitted
  · exact fun c member => (shown_printable printable c member).isAdmitted

theorem FitsBlock.line_admitted (fits : entry.FitsBlock) :
    ∀ c ∈ entry.line, isAdmitted c = true := by
  simp only [line, List.forall_mem_append, List.forall_mem_cons]
  exact ⟨fun c member => (fits.titled.lettered c member).inline.admitted, by decide, by decide,
    fits.shown_admitted, by decide, by simp⟩

theorem FitsFlow.member_printable (fits : entry.FitsFlow) :
    ∀ c ∈ entry.member, Printable c := by
  rw [member, List.forall_mem_append, List.forall_mem_cons]
  exact ⟨Quoted.inQuotes_printable fits.named.printable, by decide,
    shown_printable fits.printable⟩

theorem members_printable (fits : ∀ entry ∈ entries, entry.FitsFlow) :
    ∀ c ∈ members entries, Printable c := by
  induction entries with
  | nil => simp [members]
  | cons entry entries ih =>
      rw [List.forall_mem_cons] at fits
      cases entries with
      | nil => exact fits.1.member_printable
      | cons another entries =>
          rw [members_cons, List.forall_mem_append, List.forall_mem_cons]
          exact ⟨fits.1.member_printable, by decide, ih fits.2⟩

theorem length_le_lines (fits : ∀ entry ∈ entries, entry.FitsBlock) :
    3 * entries.length ≤ (entries.flatMap line).length := by
  induction entries with
  | nil => simp
  | cons entry entries ih =>
      rw [List.forall_mem_cons] at fits
      have := ih fits.2
      simp only [List.flatMap_cons, line, List.length_append, List.length_cons, List.length_nil]
      omega

theorem length_le_members (fits : ∀ entry ∈ entries, entry.FitsFlow) :
    4 * entries.length ≤ (members entries).length := by
  induction entries with
  | nil => simp
  | cons entry entries ih =>
      rw [List.forall_mem_cons] at fits
      have short : 4 ≤ entry.member.length := by
        have := List.length_pos_iff.2 fits.1.named.nonempty
        rw [member, List.length_append, Quoted.length_inQuotes,
          Quoted.enclosed_wordy fits.1.named.wordy, List.length_cons]
        omega
      have := ih fits.2
      cases entries with
      | nil => simpa [members] using short
      | cons another entries =>
          rw [members_cons]
          simp only [List.length_append, List.length_cons] at this ⊢
          omega

theorem solid_lines (fits : ∀ entry ∈ entries, entry.FitsBlock) :
    Solid (entries.flatMap line) := by
  cases entries with
  | nil => exact .nil
  | cons entry entries =>
      have titled := (fits entry List.mem_cons_self).titled
      obtain ⟨c, more, name⟩ := List.exists_cons_of_ne_nil titled.nonempty
      have first := titled.lettered c (name ▸ List.mem_cons_self)
      rw [List.flatMap_cons, line, name]
      exact .cons first.isBlank first.isBreak

end Text

end Entry

namespace Stream

open Scanner

variable {s t : Scanner}

theorem scan_next (fuel : Nat) (next : s.next = some t)
    (more : t.tokens.head? ≠ some .streamEnd) : scan (fuel + 1) s = scan fuel t := by
  simp [scan, next, more]

theorem scan_last (fuel : Nat) {tokens : List Token} (next : s.next = some t)
    (last : t.tokens = .streamEnd :: tokens) :
    scan (fuel + 1) s = ⟨(.streamEnd :: tokens).reverse, true⟩ := by
  simp [scan, next, last]

/-- The scanner is about to read a line of a block. -/
def AtLine (opened : Bool) (tokens : List Token) (rest : List Char) (s : Scanner) : Prop :=
  ∃ index line, s.next = (outside opened true none tokens ⟨rest, false, index, line, 0⟩).next

variable {opened : Bool} {tokens : List Token} {rest : List Char}

theorem next_value {entry : Entry} {index line column : Nat} (fits : entry.FitsBlock)
    (solid : Solid rest) :
    ∃ t, (outside true false none tokens
        ⟨' ' :: (entry.shown ++ '\n' :: rest), false, index, line, column⟩).next = some t ∧
      t.tokens.head? = some (.scalar entry.text entry.style) ∧
      AtLine true (.scalar entry.text entry.style :: tokens) rest t := by
  obtain ⟨name, text, style⟩ := entry
  obtain ⟨-, ⟨rfl, legible, opens⟩ | ⟨rfl, printable⟩⟩ := fits
  · exact ⟨_, next_plain solid legible opens, rfl, _, _, rfl⟩
  · exact ⟨_, next_quoted printable, rfl, _, _, next_feed⟩

/-- Three tokens make a line, and the key between them is put in afterwards. -/
theorem scan_line {entry : Entry} (fits : entry.FitsBlock) (solid : Solid rest)
    (atLine : AtLine opened tokens (entry.line ++ rest) s) :
    ∃ t, AtLine true ((entry.tokens .plain).reverse ++ begun opened tokens) rest t ∧
      ∀ fuel, scan (fuel + 3) s = scan fuel t := by
  obtain ⟨index, line, start⟩ := atLine
  simp only [Entry.line, List.append_assoc, List.cons_append, List.nil_append] at start
  have titled := fits.titled
  obtain ⟨t, value, head, further⟩ := @next_value
    (.value :: .scalar entry.name .plain :: .key :: begun opened tokens) rest entry
    (index + byteCount entry.name + 1) line (entry.name.length + 1) fits solid
  refine ⟨t, further, fun fuel => ?_⟩
  rw [scan_next _ (start.trans (next_name titled)) (by simp [outside]),
    scan_next _ (next_colon titled) (by simp [outside]), scan_next _ value (by simp [head])]

/-- Line after line, the tokens of a block come out in order. -/
theorem scan_lines (entries : List Entry) (fits : ∀ entry ∈ entries, entry.FitsBlock)
    (filled : opened = true ∨ entries ≠ [])
    (atLine : AtLine opened tokens (entries.flatMap Entry.line) s) (fuel : Nat)
    (enough : 3 * entries.length + 1 ≤ fuel) :
    scan fuel s =
      ⟨(begun opened tokens).reverse ++ entries.flatMap (Entry.tokens .plain) ++
        [.blockEnd, .streamEnd], true⟩ := by
  induction entries generalizing s opened tokens fuel with
  | nil =>
      obtain rfl := filled.resolve_right (fun more => more rfl)
      obtain ⟨index, line, start⟩ := atLine
      obtain ⟨fuel, rfl⟩ : ∃ less, fuel = less + 1 := ⟨fuel - 1, by omega⟩
      rw [scan_last fuel (start.trans next_end) rfl]
      simp [begun]
  | cons entry entries ih =>
      rw [List.forall_mem_cons] at fits
      rw [List.length_cons] at enough
      have solid := Entry.solid_lines fits.2
      obtain ⟨t, further, same⟩ := scan_line fits.1 solid atLine
      obtain ⟨fuel, rfl⟩ : ∃ less, fuel = less + 3 := ⟨fuel - 3, by omega⟩
      rw [same, ih fits.2 (.inl rfl) further fuel (by omega)]
      simp [begun]

section Flow

variable {mark : Char}

/-- The scanner stands within a flow and holds no key there. -/
def Within (allowed : Bool) (tokens : List Token) (rest : List Char) (s : Scanner) : Prop :=
  ∃ outer index line column, Loose outer ∧ 0 < column ∧
    s = inside allowed outer none tokens ⟨rest, false, index, line, column⟩

theorem next_member {entry : Entry} (fits : entry.FitsFlow)
    (marked : Plain.isFlowMark mark = true)
    (within : Within false tokens (entry.shown ++ mark :: rest) s) :
    ∃ t, s.next = some t ∧
      Within false (.scalar entry.text entry.style :: tokens) (mark :: rest) t := by
  obtain ⟨name, text, style⟩ := entry
  obtain ⟨outer, index, line, column, loose, right, rfl⟩ := within
  obtain ⟨-, ⟨rfl, wordy, nonempty⟩ | ⟨rfl, printable⟩⟩ := fits
  · obtain ⟨outer, kept, next⟩ := next_flowWord marked loose wordy nonempty right
    exact ⟨_, next, outer, _, _, _, kept, by omega, rfl⟩
  · have other : mark ≠ '\'' := by rintro rfl; cases marked
    obtain ⟨outer, kept, next⟩ := next_flowQuoted other loose printable right
    exact ⟨_, next, outer, _, _, _, kept, by omega, rfl⟩

/-- The key is put in before the name once its colon is there. -/
theorem scan_name {name : List Char} (named : Named name)
    (within : Within true tokens (Quoted.inQuotes false name ++ ':' :: rest) s) :
    ∃ t, Within false (.value :: .scalar name .doubleQuoted :: .key :: tokens) rest t ∧
      ∀ fuel, scan (fuel + 2) s = scan fuel t := by
  obtain ⟨outer, index, line, column, loose, right, rfl⟩ := within
  have near := Nat.add_le_add_left named.length_inQuotes_le index
  obtain ⟨behindName, loose, opened⟩ := next_flowName loose named right
  obtain ⟨behindColon, loose, colon⟩ := next_flowColon loose (Nat.add_pos_left right _) near
  refine ⟨_, ?_, fun fuel => (scan_next _ opened (by simp [inside])).trans
    (scan_next _ colon (by simp [inside]))⟩
  exact ⟨behindColon, _, _, _, loose, Nat.succ_pos _, rfl⟩

theorem scan_member {entry : Entry} (fits : entry.FitsFlow)
    (marked : Plain.isFlowMark mark = true)
    (within : Within true tokens (entry.member ++ mark :: rest) s) :
    ∃ t, Within false ((entry.tokens .doubleQuoted).reverse ++ tokens) (mark :: rest) t ∧
      ∀ fuel, scan (fuel + 3) s = scan fuel t := by
  rw [Entry.member, List.append_assoc, List.cons_append] at within
  obtain ⟨behind, there, named⟩ := scan_name fits.named within
  obtain ⟨t, value, within⟩ := next_member fits marked there
  refine ⟨t, within, fun fuel => ?_⟩
  obtain ⟨outer, index, line, column, -, -, rfl⟩ := within
  rw [named, scan_next _ value (by simp [inside])]

/-- Member after member, the tokens of a flow come out in order. -/
theorem scan_members (entries : List Entry) (fits : ∀ entry ∈ entries, entry.FitsFlow)
    (filled : entries ≠ []) (within : Within true tokens (Entry.members entries ++ ['\x7d']) s)
    (fuel : Nat) (enough : 4 * entries.length + 1 ≤ fuel) :
    scan fuel s =
      ⟨tokens.reverse ++ Entry.memberTokens entries ++ [.flowMappingEnd, .streamEnd], true⟩ := by
  induction entries generalizing s tokens fuel with
  | nil => exact absurd rfl filled
  | cons entry entries ih =>
      rw [List.forall_mem_cons] at fits
      rw [List.length_cons] at enough
      cases entries with
      | nil =>
          obtain ⟨fuel, rfl⟩ : ∃ less, fuel = less + 2 + 3 :=
            ⟨fuel - 5, by simp at enough; omega⟩
          obtain ⟨t, within, same⟩ := scan_member fits.1 (by decide) within
          obtain ⟨outer, index, line, column, loose, right, rfl⟩ := within
          obtain ⟨outer, loose, close⟩ := next_close loose right
          obtain ⟨after, ended, found⟩ := next_end_loose loose
          rw [same, scan_next _ close (by simp [outside]), scan_last _ ended found]
          simp [Entry.memberTokens]
      | cons another entries =>
          obtain ⟨fuel, rfl⟩ : ∃ less, fuel = less + 1 + 3 := ⟨fuel - 4, by omega⟩
          rw [Entry.members_cons, List.append_assoc, List.cons_append] at within
          obtain ⟨t, within, same⟩ := scan_member fits.1 (by decide) within
          obtain ⟨outer, index, line, column, loose, right, rfl⟩ := within
          obtain ⟨outer, loose, comma⟩ := next_comma loose right
          rw [same, scan_next _ comma (by simp [inside]), ih fits.2 (List.cons_ne_nil _ _)
            ⟨outer, _, _, _, loose, Nat.succ_pos _, rfl⟩ fuel (by omega),
            Entry.memberTokens_cons]
          simp

end Flow

section Accept

theorem splitBytes_append (room : Nat) (done text : List Char) :
    (splitBytes room done text).1 ++ (splitBytes room done text).2 = done.reverse ++ text := by
  induction text generalizing room done with
  | nil => rfl
  | cons c text ih =>
      rw [splitBytes]
      split
      · rw [ih, List.reverse_cons, List.append_assoc, List.singleton_append]
      · rfl

theorem length_le_splitBytes (room : Nat) (done text : List Char) :
    done.length ≤ (splitBytes room done text).1.length := by
  induction text generalizing room done with
  | nil => simp [splitBytes]
  | cons c text ih =>
      rw [splitBytes]
      split
      · exact Nat.le_trans (by simp) (ih _ (c :: done))
      · simp

/-- A text without a forbidden character is taken as a whole. -/
theorem accept_admitted (fuel : Nat) {text : List Char}
    (admitted : ∀ c ∈ text, isAdmitted c = true) :
    accept fuel text = (text, false) := by
  induction fuel generalizing text with
  | zero => rfl
  | succ fuel ih =>
      have cut := splitBytes_append 16384 [] text
      rw [accept]
      split
      case h_1 rest same =>
        cases text with
        | nil => rfl
        | cons c text =>
            have room : c.utf8Size ≤ 16384 := Nat.le_trans (Char.utf8Size_le_four c) (by decide)
            have taken := length_le_splitBytes (16384 - c.utf8Size) [c] text
            rw [splitBytes, if_pos room] at same
            rw [same] at taken
            exact absurd taken (by simp)
      case h_2 block rest nonempty same =>
        rw [same] at cut
        obtain rfl : block ++ rest = text := cut
        rw [if_pos (List.all_eq_true.2 fun c member => admitted c (List.mem_append_left _ member)),
          ih fun c member => admitted c (List.mem_append_right _ member)]

end Accept

/-- The lines of a block read as one mapping. -/
theorem read_lines {entries : List Entry} (fits : ∀ entry ∈ entries, entry.FitsBlock)
    (filled : entries ≠ []) :
    read (entries.flatMap Entry.line) =
      ⟨.blockMappingStart :: entries.flatMap (Entry.tokens .plain) ++ [.blockEnd, .streamEnd],
        true⟩ := by
  have admitted : ∀ c ∈ entries.flatMap Entry.line, isAdmitted c = true := by
    intro c member
    obtain ⟨entry, listed, member⟩ := List.mem_flatMap.1 member
    exact (fits entry listed).line_admitted c member
  have long := Entry.length_le_lines fits
  have atLine : AtLine false [] (entries.flatMap Entry.line)
      (.start (entries.flatMap Entry.line) false) := ⟨0, 0, rfl⟩
  rw [read, accept_admitted _ admitted]
  refine scan_lines entries fits (.inr filled) atLine _ ?_
  omega

/-- The members of a flow read as one mapping. -/
theorem read_members {entries : List Entry} (fits : ∀ entry ∈ entries, entry.FitsFlow)
    (filled : entries ≠ []) :
    read ('\x7b' :: (Entry.members entries ++ ['\x7d'])) =
      ⟨.flowMappingStart :: Entry.memberTokens entries ++ [.flowMappingEnd, .streamEnd], true⟩ := by
  have printable : ∀ c ∈ '\x7b' :: (Entry.members entries ++ ['\x7d']), Printable c := by
    rw [List.forall_mem_cons, List.forall_mem_append, List.forall_mem_singleton]
    exact ⟨by decide, Entry.members_printable fits, by decide⟩
  have admitted := fun c member => (printable c member).isAdmitted
  have long := Entry.length_le_members fits
  rw [read, accept_admitted _ admitted]
  obtain ⟨outer, loose, opened⟩ := @next_open (Entry.members entries ++ ['\x7d'])
  refine (scan_next _ opened (by simp [inside])).trans ?_
  exact scan_members entries fits filled ⟨outer, _, _, _, loose, Nat.one_pos, rfl⟩ _ (by
    simp only [List.length_cons, List.length_append]; omega)

end Stream

end GuestPod.Yaml
