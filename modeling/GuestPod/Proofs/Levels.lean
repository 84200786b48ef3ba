/-
This file says which texts give a log level, and which settings are accepted.
-/

import Mathlib.Data.List.Forall2
import Mathlib.Data.List.Nodup
import GuestPod.Settings
import GuestPod.Proofs.Words

namespace GuestPod

namespace Text

/-- A capital letter and the small letter that goes with it.  Only the letters of ASCII have a case
here. -/
def Capital (capital small : Char) : Prop :=
  65 ≤ capital.toNat ∧ capital.toNat ≤ 90 ∧ small.toNat = capital.toNat + 32

/-- The same character, or the same letter in the other case. -/
def SameLetter (first second : Char) : Prop :=
  first = second ∨ Capital first second ∨ Capital second first

/-- Letter by letter, two texts differ in nothing but case. -/
def SameWord (first second : List Char) : Prop :=
  List.Forall₂ SameLetter first second

theorem toNat_toLower (c : Char) :
    c.toLower.toNat = if 65 ≤ c.toNat ∧ c.toNat ≤ 90 then c.toNat + 32 else c.toNat := by
  have bounds : (c.val ≥ 'A'.val ∧ c.val ≤ 'Z'.val) ↔ 65 ≤ c.toNat ∧ c.toNat ≤ 90 := by
    simp only [ge_iff_le, UInt32.le_iff_toNat_le]
    exact Iff.rfl
  unfold Char.toLower
  split
  case isTrue capital =>
    have small := bounds.1 capital
    rw [if_pos small]
    have sum : (c.val + ('a'.val - 'A'.val)).toNat = (c.toNat + 32) % 2 ^ 32 := rfl
    show (c.val + ('a'.val - 'A'.val)).toNat = c.toNat + 32
    omega
  case isFalse other => rw [if_neg (bounds.not.1 other)]

theorem toLower_eq_iff {first second : Char} :
    first.toLower = second.toLower ↔ SameLetter first second := by
  rw [← Char.toNat_inj, toNat_toLower, toNat_toLower, SameLetter, ← Char.toNat_inj, Capital,
    Capital]
  split <;> split <;> omega

theorem map_toLower_eq_iff {first second : List Char} :
    first.map Char.toLower = second.map Char.toLower ↔ SameWord first second := by
  rw [← List.forall₂_eq_eq_eq, List.forall₂_map_left_iff, List.forall₂_map_right_iff, SameWord]
  simp only [toLower_eq_iff]

theorem toLower_of_isDigit {c : Char} (digit : c.isDigit = true) : c.toLower = c := by
  rw [isDigit_iff_toNat] at digit
  rw [← Char.toNat_inj, toNat_toLower, if_neg (by omega)]

end Text

namespace Level

/-- Each level with its number and its name. -/
def titles : List (Level × Nat × String) :=
  [(.error, 1, "error"), (.warn, 2, "warn"), (.info, 3, "info"), (.debug, 4, "debug"),
    (.trace, 5, "trace")]

/-- A text gives a level by its number or by its name, and case does not count in a name. -/
def Spells (text : String) (level : Level) : Prop :=
  ∃ number name, (level, number, name) ∈ titles ∧
    (Text.Denotes text.toList number ∨ Text.SameWord text.toList name.toList)

/-- The name of a level in small letters. -/
def smallName (level : Level) : List Char :=
  level.name.toList.map Char.toLower

theorem titles_eq :
    titles = all.map fun level => (level, level.rank, String.ofList level.smallName) := by
  decide

theorem mem_all (level : Level) : level ∈ all := by
  cases level <;> decide

/-- Every level is listed, so it is found by whatever tells the levels apart. -/
theorem find?_all_eq_some_iff {α : Type} [DecidableEq α] {feature : Level → α}
    (distinct : (all.map feature).Nodup) {wanted : α} {level : Level} :
    all.find? (fun each => feature each = wanted) = some level ↔ feature level = wanted := by
  constructor
  · intro found
    simpa using List.find?_some found
  · rintro rfl
    cases found : all.find? (fun each => feature each = feature level) with
    | none => simpa using List.find?_eq_none.1 found level (mem_all level)
    | some other =>
        have same : feature other = feature level := by simpa using List.find?_some found
        rw [List.inj_on_of_nodup_map distinct (mem_all other) (mem_all level) same]

theorem isDigit_of_mem_smallName {level : Level} {c : Char} (member : c ∈ level.smallName) :
    c.isDigit = false := by
  have letters : level.smallName.all (fun c => !c.isDigit) = true := by
    cases level <;> rfl
  simpa using List.all_eq_true.1 letters c member

theorem rank_lt_wordBound (level : Level) : level.rank < Text.wordBound 64 := by
  cases level <;> decide

section Parse

variable {text : String} {level : Level}

theorem spells_iff :
    Spells text level ↔
      Text.Denotes text.toList level.rank ∨ text.toList.map Char.toLower = level.smallName := by
  have small : level.smallName.map Char.toLower = level.smallName := by
    cases level <;> decide
  simp only [Spells, titles_eq, List.mem_map, Prod.mk.injEq, ← Text.map_toLower_eq_iff]
  constructor
  · rintro ⟨_, _, ⟨_, -, rfl, rfl, rfl⟩, given⟩
    rwa [String.toList_ofList, small] at given
  · intro given
    refine ⟨_, _, ⟨level, mem_all level, rfl, rfl, rfl⟩, ?_⟩
    rwa [String.toList_ofList, small]

def byNumber? (text : String) : Option Level :=
  match Text.readWord (Text.wordBound 64) text.toList with
  | .ok number => all.find? (·.rank = number)
  | .error _ => none

def byName? (text : String) : Option Level :=
  all.find? (·.smallName = text.toList.map Char.toLower)

theorem parse?_eq (text : String) : parse? text = (byNumber? text).or (byName? text) := rfl

theorem byNumber?_eq_some_iff :
    byNumber? text = some level ↔ Text.Denotes text.toList level.rank := by
  have read : Text.readWord (Text.wordBound 64) text.toList = .ok level.rank ↔
      Text.Denotes text.toList level.rank := by
    rw [Text.readWord_eq_ok_iff (by decide), and_iff_left (rank_lt_wordBound level)]
  rw [← read, byNumber?]
  cases Text.readWord (Text.wordBound 64) text.toList with
  | ok number =>
      rw [Except.ok.injEq, @eq_comm _ number]
      exact find?_all_eq_some_iff (by decide)
  | error fault => simp

theorem byName?_eq_some_iff :
    byName? text = some level ↔ text.toList.map Char.toLower = level.smallName := by
  rw [byName?, find?_all_eq_some_iff (by decide), eq_comm]

/-- No name has a digit, so a name is never taken for a number. -/
theorem byNumber?_of_name (named : text.toList.map Char.toLower = level.smallName) :
    byNumber? text = none := by
  rw [Option.eq_none_iff_forall_ne_some]
  intro other found
  obtain ⟨c, member, digit⟩ := (byNumber?_eq_some_iff.1 found).exists_digit
  have listed : c.toLower ∈ level.smallName := named ▸ List.mem_map_of_mem member
  rw [Text.toLower_of_isDigit digit] at listed
  have letter := isDigit_of_mem_smallName listed
  rw [digit] at letter
  cases letter

theorem parse?_eq_some_iff : parse? text = some level ↔ Spells text level := by
  rw [spells_iff, parse?_eq, Option.or_eq_some_iff, byNumber?_eq_some_iff, byName?_eq_some_iff]
  constructor
  · exact Or.imp_right And.right
  · exact Or.imp_right fun named => ⟨byNumber?_of_name named, named⟩

example : parse? "+0003" = some .info := by decide +kernel

-- The first character is a capital of full width.
example : parse? "Ｉnfo" = none := by decide +kernel

end Parse

end Level

namespace Settings

/-- What a field has to meet, and the complaint where it does not. -/
structure Demand where
  field : String
  Met : Prop
  complaint : String

def Demand.error (demand : Demand) : Error :=
  .invalidSetting demand.field demand.complaint

/-- The error is that of the first demand that is not met. -/
inductive Reports : List Demand → Error → Prop where
  | first {demand : Demand} {rest : List Demand} (unmet : ¬demand.Met) :
      Reports (demand :: rest) demand.error
  | later {demand : Demand} {rest : List Demand} {error : Error} (met : demand.Met)
      (reports : Reports rest error) : Reports (demand :: rest) error

/-- The demands in the order in which they are checked. -/
def demands (settings : Settings) : List Demand :=
  [⟨"guest_port", settings.guestPort ≠ 0, "must be non-zero"⟩,
    ⟨"default_memory_mib", settings.defaultMemoryMib ≠ 0, "must be non-zero"⟩,
    ⟨"default_vcpu_count", settings.defaultVcpuCount ≠ 0, "must be non-zero"⟩,
    ⟨"log_level", ∃ level, Level.Spells settings.logLevel level,
      "'" ++ settings.logLevel ++ "': error parsing level: expected one of " ++
        "\"error\", \"warn\", \"info\", \"debug\", \"trace\", or a number 1-5"⟩]

theorem not_reports_nil {error : Error} : ¬Reports [] error := by
  rintro ⟨⟩

theorem reports_cons {demand : Demand} {rest : List Demand} {error : Error} :
    Reports (demand :: rest) error ↔
      ¬demand.Met ∧ error = demand.error ∨ demand.Met ∧ Reports rest error := by
  constructor
  · rintro (unmet | ⟨met, reports⟩)
    · exact .inl ⟨unmet, rfl⟩
    · exact .inr ⟨met, reports⟩
  · rintro (⟨unmet, rfl⟩ | ⟨met, reports⟩)
    · exact .first unmet
    · exact .later met reports

/-- Some demand is reported unless all are met. -/
theorem exists_reports_iff {demands : List Demand} :
    (∃ error, Reports demands error) ↔ ∃ demand ∈ demands, ¬demand.Met := by
  induction demands with
  | nil => simp [not_reports_nil]
  | cons demand rest ih =>
      simp only [reports_cons, exists_or, exists_and_left, ih, List.exists_mem_cons_iff,
        exists_eq, and_true]
      by_cases met : demand.Met <;> simp [met]

variable {settings : Settings}

theorem level_eq_ok_iff {level : Level} :
    settings.level = .ok level ↔ Level.Spells settings.logLevel level := by
  rw [← Level.parse?_eq_some_iff, Settings.level]
  cases Level.parse? settings.logLevel <;> simp

theorem level_eq_error_iff {error : Error} :
    settings.level = .error error ↔
      (¬∃ level, Level.Spells settings.logLevel level) ∧ error = badLevel settings.logLevel := by
  simp only [← Level.parse?_eq_some_iff, Settings.level]
  cases Level.parse? settings.logLevel <;> simp [eq_comm]

/-- The checks follow the list of demands. -/
theorem validate_eq_error_iff {error : Error} :
    settings.validate = .error error ↔ Reports settings.demands error := by
  have level : (settings.level.map fun _ => ()) = .error error ↔
      settings.level = .error error := by
    cases settings.level <;> simp [Except.map]
  simp only [demands, reports_cons, not_reports_nil, Demand.error, validate, mustBePositive]
  -- Each case takes the demands before its own as met.
  by_cases port : settings.guestPort = 0
  · simp [port, eq_comm]
  by_cases memory : settings.defaultMemoryMib = 0
  · simp [port, memory, eq_comm]
  by_cases count : settings.defaultVcpuCount = 0
  · simp [port, memory, count, eq_comm]
  simp [port, memory, count, level, level_eq_error_iff, badLevel]

theorem validate_eq_ok_iff :
    settings.validate = .ok () ↔ ∀ demand ∈ settings.demands, demand.Met := by
  have refused := @exists_reports_iff settings.demands
  simp only [← validate_eq_error_iff] at refused
  rw [← not_iff_not]
  simp only [not_forall, exists_prop, ← refused]
  cases settings.validate <;> simp

/-- A text that gives no level is quoted in the refusal.  The settings are accepted when their
three numbers are not zero and their level is known, and otherwise the first of these four that is
wrong is reported. -/
theorem accepted_or_first_fault (settings : Settings) :
    (∀ level, settings.level = .ok level ↔ Level.Spells settings.logLevel level) ∧
    (∀ error, settings.level = .error error ↔
      (¬∃ level, Level.Spells settings.logLevel level) ∧
        error = .invalidSetting "log_level" ("'" ++ settings.logLevel ++
          "': error parsing level: expected one of " ++
          "\"error\", \"warn\", \"info\", \"debug\", \"trace\", or a number 1-5")) ∧
    (settings.validate = .ok () ↔ settings.guestPort ≠ 0 ∧ settings.defaultMemoryMib ≠ 0 ∧
      settings.defaultVcpuCount ≠ 0 ∧ ∃ level, settings.level = .ok level) ∧
    (∀ error, settings.validate = .error error ↔ Reports settings.demands error) := by
  refine ⟨fun level => level_eq_ok_iff, fun error => level_eq_error_iff, ?_,
    fun error => validate_eq_error_iff⟩
  simp [validate_eq_ok_iff, demands, level_eq_ok_iff]

end Settings

end GuestPod
