/-
This file says what a boot is read from: the first value of each of four variables, checked in a
fixed order.
-/

import Mathlib.Logic.Basic
import GuestPod.Launch
import GuestPod.Proofs.Failure
import GuestPod.Proofs.Words

namespace GuestPod

/-- No entry before this one has the key. -/
def FirstValue (environment : List Variable) (key value : String) : Prop :=
  ∃ before after, environment = before ++ ⟨key, value⟩ :: after ∧
    ∀ entry ∈ before, entry.key ≠ key

namespace ContainerConfig

variable {config : ContainerConfig} {key value : String}

theorem lookup_eq_some_iff :
    config.lookup key = some value ↔ FirstValue config.environment key value := by
  simp only [lookup, Option.map_eq_some_iff, List.find?_eq_some_iff_append, decide_eq_true_eq,
    Bool.not_eq_true', decide_eq_false_iff_not]
  constructor
  · rintro ⟨entry, ⟨rfl, before, after, split, others⟩, rfl⟩
    exact ⟨before, after, split, others⟩
  · rintro ⟨before, after, split, others⟩
    exact ⟨⟨key, value⟩, ⟨rfl, before, after, split, others⟩, rfl⟩

theorem lookup_eq_none_iff :
    config.lookup key = none ↔ ∀ entry ∈ config.environment, entry.key ≠ key := by
  simp [lookup]

end ContainerConfig

namespace Launch

/-- A variable that is required is there, and its first value is not empty. -/
def Given (environment : List Variable) (key : String) : Prop :=
  ∃ value, FirstValue environment key value ∧ value ≠ ""

def IsWord (text : String) : Prop :=
  ∃ n, Text.Denotes text.toList n ∧ n < Text.wordBound 32

/-- A variable that may be absent is a word if it is there. -/
def Readable (environment : List Variable) (key : String) : Prop :=
  ∀ text, FirstValue environment key text → IsWord text

/-- The number of a variable, which is the default only where the variable is absent. -/
inductive NumberOf (environment : List Variable) (key : String) (default : UInt32) :
    UInt32 → Prop where
  | given {text : String} {n : UInt32} (first : FirstValue environment key text)
      (denoted : Text.Denotes text.toList n.toNat) : NumberOf environment key default n
  | absent (none : ∀ entry ∈ environment, entry.key ≠ key) :
      NumberOf environment key default default

section Variables

variable {config : ContainerConfig} {key : String}

theorem required_eq_ok_iff {value : String} :
    required config key = .ok value ↔ FirstValue config.environment key value ∧ value ≠ "" := by
  rw [← ContainerConfig.lookup_eq_some_iff]
  unfold required
  split
  · rename_i found first
    by_cases empty : found = ""
    · simp only [empty, if_true, reduceCtorEq, first, Option.some.injEq, false_iff]
      rintro ⟨rfl, filled⟩
      exact filled rfl
    · simp only [empty, if_false, Except.ok.injEq, first, Option.some.injEq]
      constructor
      · rintro rfl
        exact ⟨rfl, empty⟩
      · exact And.left
  · rename_i absent
    simp [absent]

theorem given_iff : Given config.environment key ↔ ∃ value, required config key = .ok value := by
  simp only [Given, required_eq_ok_iff]

theorem required_of_not_given (missing : ¬Given config.environment key) :
    required config key = .error (.missingVariable key) := by
  have failed : ∀ value, required config key ≠ .ok value :=
    fun value found => missing (given_iff.2 ⟨value, found⟩)
  unfold required at failed ⊢
  split
  · rename_i value first
    split
    · rfl
    · rename_i filled
      rw [first] at failed
      exact absurd (if_neg filled) (failed value)
  · rfl

variable {default : UInt32}

theorem wordBound_pos (bits : Nat) : 0 < Text.wordBound bits :=
  Nat.pow_pos (by decide)

theorem numeric_of_denotes {text : String} (first : FirstValue config.environment key text) {n : Nat}
    (denoted : Text.Denotes text.toList n) (small : n < Text.wordBound 32) :
    numeric config key default = .ok (UInt32.ofNat n) := by
  have read := (Text.readWord_eq_ok_iff (wordBound_pos 32)).2 ⟨denoted, small⟩
  rw [numeric, ContainerConfig.lookup_eq_some_iff.2 first]
  simp only [read]

/-- A text that is no word is refused with the reason at which its reading stops. -/
theorem numeric_of_not_isWord {text : String} (first : FirstValue config.environment key text)
    (malformed : ¬IsWord text) :
    ∃ fault, Text.readWord (Text.wordBound 32) text.toList = .error fault ∧
      numeric config key default = .error (.invalidVariable key text fault.message) := by
  cases read : Text.readWord (Text.wordBound 32) text.toList with
  | ok n => exact absurd ⟨n, (Text.readWord_eq_ok_iff (wordBound_pos 32)).1 read⟩ malformed
  | error fault =>
      refine ⟨fault, rfl, ?_⟩
      rw [numeric, ContainerConfig.lookup_eq_some_iff.2 first]
      simp only [read]

theorem numeric_of_absent (absent : ∀ entry ∈ config.environment, entry.key ≠ key) :
    numeric config key default = .ok default := by
  rw [numeric, ContainerConfig.lookup_eq_none_iff.2 absent]

/-- A variable is absent, or it is a word, or its first value is none. -/
theorem numeric_cases (config : ContainerConfig) (key : String) :
    (∀ entry ∈ config.environment, entry.key ≠ key) ∨
      ∃ text, FirstValue config.environment key text ∧ (IsWord text ∨ ¬IsWord text) := by
  cases found : config.lookup key with
  | none => exact .inl (ContainerConfig.lookup_eq_none_iff.1 found)
  | some text =>
      exact .inr ⟨text, ContainerConfig.lookup_eq_some_iff.1 found, Classical.em _⟩

theorem firstValue_unique {environment : List Variable} {first second : String}
    (one : FirstValue environment key first) (two : FirstValue environment key second) :
    first = second := by
  have found := @ContainerConfig.lookup_eq_some_iff ⟨⟨"", 0⟩, environment, []⟩ key
  exact Option.some.inj ((found.2 one).symm.trans (found.2 two))

theorem not_firstValue_of_absent {environment : List Variable} {text : String}
    (absent : ∀ entry ∈ environment, entry.key ≠ key) : ¬FirstValue environment key text := by
  rintro ⟨before, after, rfl, -⟩
  exact absent ⟨key, text⟩ (by simp) rfl

theorem numeric_eq_ok_iff {n : UInt32} :
    numeric config key default = .ok n ↔ NumberOf config.environment key default n := by
  constructor
  · intro read
    rcases numeric_cases config key with absent | ⟨text, first, ⟨value, denoted, small⟩ | malformed⟩
    · rw [numeric_of_absent absent] at read
      obtain rfl := Except.ok.inj read
      exact .absent absent
    · rw [numeric_of_denotes first denoted small] at read
      obtain rfl := Except.ok.inj read
      refine .given first ?_
      rwa [UInt32.toNat_ofNat_of_lt' small]
    · obtain ⟨fault, -, refused⟩ := @numeric_of_not_isWord config key default text first malformed
      cases refused.symm.trans read
  · rintro (⟨first, denoted⟩ | ⟨absent⟩)
    · rw [numeric_of_denotes first denoted (Text.uint32_lt n), UInt32.ofNat_toNat]
    · exact numeric_of_absent absent

theorem readable_iff (default : UInt32) :
    Readable config.environment key ↔ ∃ n, numeric config key default = .ok n := by
  constructor
  · intro readable
    rcases numeric_cases config key with absent | ⟨text, first, -⟩
    · exact ⟨default, numeric_of_absent absent⟩
    · obtain ⟨value, denoted, small⟩ := readable text first
      exact ⟨_, numeric_of_denotes first denoted small⟩
  · rintro ⟨n, read⟩ text first
    rcases numeric_eq_ok_iff.1 read with ⟨its, denoted⟩ | ⟨absent⟩
    · obtain rfl := firstValue_unique first its
      exact ⟨n.toNat, denoted, Text.uint32_lt n⟩
    · exact absurd first (not_firstValue_of_absent absent)

end Variables

section Extract

variable {config : ContainerConfig} {settings : Settings}

theorem extract_eq_ok_iff {boot : BootRequest} :
    extract config settings = .ok boot ↔
      required config Contract.imageVariable = .ok boot.image ∧
      required config Contract.revisionVariable = .ok boot.revision ∧
      numeric config Contract.memoryVariable settings.defaultMemoryMib = .ok boot.memoryMib ∧
      numeric config Contract.vcpuVariable settings.defaultVcpuCount = .ok boot.vcpuCount := by
  simp only [extract, bind_eq_ok_iff, pure_eq_ok, Except.ok.injEq]
  constructor
  · rintro ⟨image, hasImage, revision, hasRevision, memory, hasMemory, count, hasCount, rfl⟩
    exact ⟨hasImage, hasRevision, hasMemory, hasCount⟩
  · rintro ⟨hasImage, hasRevision, hasMemory, hasCount⟩
    exact ⟨_, hasImage, _, hasRevision, _, hasMemory, _, hasCount, rfl⟩

/-- What each part of a boot is read from. -/
structure Describes (environment : List Variable) (settings : Settings) (boot : BootRequest) :
    Prop where
  image : FirstValue environment Contract.imageVariable boot.image
  image_ne : boot.image ≠ ""
  revision : FirstValue environment Contract.revisionVariable boot.revision
  revision_ne : boot.revision ≠ ""
  memory : NumberOf environment Contract.memoryVariable settings.defaultMemoryMib boot.memoryMib
  vcpus : NumberOf environment Contract.vcpuVariable settings.defaultVcpuCount boot.vcpuCount

theorem extract_eq_ok_iff_describes {boot : BootRequest} :
    extract config settings = .ok boot ↔ Describes config.environment settings boot := by
  rw [extract_eq_ok_iff, required_eq_ok_iff, required_eq_ok_iff, numeric_eq_ok_iff,
    numeric_eq_ok_iff]
  constructor
  · rintro ⟨⟨image, image_ne⟩, ⟨revision, revision_ne⟩, memory, vcpus⟩
    exact ⟨image, image_ne, revision, revision_ne, memory, vcpus⟩
  · rintro ⟨image, image_ne, revision, revision_ne, memory, vcpus⟩
    exact ⟨⟨image, image_ne⟩, ⟨revision, revision_ne⟩, memory, vcpus⟩

/-- The first thing that is wrong, in the order image, revision, memory, count.  The text of a
number is quoted as it stands. -/
inductive FirstFault (environment : List Variable) : Error → Prop where
  | image (missing : ¬Given environment Contract.imageVariable) :
      FirstFault environment (.missingVariable Contract.imageVariable)
  | revision (image : Given environment Contract.imageVariable)
      (missing : ¬Given environment Contract.revisionVariable) :
      FirstFault environment (.missingVariable Contract.revisionVariable)
  | memory {text : String} (image : Given environment Contract.imageVariable)
      (revision : Given environment Contract.revisionVariable)
      (first : FirstValue environment Contract.memoryVariable text) (malformed : ¬IsWord text)
      (reason : String) :
      FirstFault environment (.invalidVariable Contract.memoryVariable text reason)
  | vcpus {text : String} (image : Given environment Contract.imageVariable)
      (revision : Given environment Contract.revisionVariable)
      (memory : Readable environment Contract.memoryVariable)
      (first : FirstValue environment Contract.vcpuVariable text) (malformed : ¬IsWord text)
      (reason : String) :
      FirstFault environment (.invalidVariable Contract.vcpuVariable text reason)

/-- A number that cannot be read is there with a first value that is no word. -/
theorem exists_malformed {environment : List Variable} {key : String}
    (unreadable : ¬Readable environment key) :
    ∃ text, FirstValue environment key text ∧ ¬IsWord text := by
  simpa only [Readable, not_forall, exists_prop] using unreadable

/-- The variables are checked one after another, so the first fault is the one reported. -/
theorem firstFault_of_error {error : Error} (failed : extract config settings = .error error) :
    FirstFault config.environment error := by
  by_cases image : Given config.environment Contract.imageVariable
  case neg =>
    rw [extract, required_of_not_given image, error_bind] at failed
    obtain rfl := Except.error.inj failed
    exact .image image
  by_cases revision : Given config.environment Contract.revisionVariable
  case neg =>
    obtain ⟨value, found⟩ := given_iff.1 image
    rw [extract, found, ok_bind, required_of_not_given revision, error_bind] at failed
    obtain rfl := Except.error.inj failed
    exact .revision image revision
  obtain ⟨_, hasImage⟩ := given_iff.1 image
  obtain ⟨_, hasRevision⟩ := given_iff.1 revision
  rw [extract, hasImage, ok_bind, hasRevision, ok_bind] at failed
  by_cases memory : Readable config.environment Contract.memoryVariable
  case neg =>
    obtain ⟨text, first, malformed⟩ := exists_malformed memory
    obtain ⟨fault, -, refused⟩ := numeric_of_not_isWord first malformed
    rw [refused, error_bind] at failed
    obtain rfl := Except.error.inj failed
    exact .memory image revision first malformed _
  obtain ⟨_, hasMemory⟩ := (readable_iff settings.defaultMemoryMib).1 memory
  rw [hasMemory, ok_bind] at failed
  by_cases vcpus : Readable config.environment Contract.vcpuVariable
  case neg =>
    obtain ⟨text, first, malformed⟩ := exists_malformed vcpus
    obtain ⟨fault, -, refused⟩ := numeric_of_not_isWord first malformed
    rw [refused, error_bind] at failed
    obtain rfl := Except.error.inj failed
    exact .vcpus image revision memory first malformed _
  obtain ⟨_, hasCount⟩ := (readable_iff settings.defaultVcpuCount).1 vcpus
  rw [hasCount] at failed
  cases failed

/-- The variables that a boot is read from. -/
def consulted : List String :=
  [Contract.imageVariable, Contract.revisionVariable, Contract.memoryVariable,
    Contract.vcpuVariable]

theorem extract_congr {first second : ContainerConfig} (settings : Settings)
    (same : ∀ key ∈ consulted, first.lookup key = second.lookup key) :
    extract first settings = extract second settings := by
  simp only [consulted, List.forall_mem_cons] at same
  obtain ⟨image, revision, memory, vcpus, -⟩ := same
  simp only [extract, required, numeric, image, revision, memory, vcpus]

/-- Only the first value of each variable counts.  A boot is read from these values exactly when
all of them are good, and otherwise the first bad one is reported. -/
theorem first_values_decide (config : ContainerConfig) (settings : Settings) :
    (∀ boot, extract config settings = .ok boot ↔
      Describes config.environment settings boot) ∧
    ((∃ boot, extract config settings = .ok boot) ↔
      Given config.environment Contract.imageVariable ∧
        Given config.environment Contract.revisionVariable ∧
        Readable config.environment Contract.memoryVariable ∧
        Readable config.environment Contract.vcpuVariable) ∧
    (∀ error, extract config settings = .error error →
      FirstFault config.environment error) ∧
    (∀ other : ContainerConfig,
      (∀ key ∈ consulted, ∀ value,
        FirstValue config.environment key value ↔ FirstValue other.environment key value) →
      extract config settings = extract other settings) := by
  refine ⟨fun boot => extract_eq_ok_iff_describes, ?_, fun error => firstFault_of_error, ?_⟩
  · rw [given_iff, given_iff, readable_iff settings.defaultMemoryMib,
      readable_iff settings.defaultVcpuCount]
    simp only [extract_eq_ok_iff]
    constructor
    · rintro ⟨boot, image, revision, memory, vcpus⟩
      exact ⟨⟨_, image⟩, ⟨_, revision⟩, ⟨_, memory⟩, ⟨_, vcpus⟩⟩
    · rintro ⟨⟨image, hasImage⟩, ⟨revision, hasRevision⟩, ⟨memory, hasMemory⟩, ⟨vcpus, hasCount⟩⟩
      exact ⟨⟨image, revision, memory, vcpus⟩, hasImage, hasRevision, hasMemory, hasCount⟩
  · intro other same
    apply extract_congr
    intro key listed
    apply Option.ext
    intro value
    simp only [ContainerConfig.lookup_eq_some_iff, same key listed value]

/-- The two numbers of a boot. -/
inductive Quantity where
  | memory
  | vcpus
  deriving DecidableEq, Repr

namespace Quantity

def key : Quantity → String
  | .memory => Contract.memoryVariable
  | .vcpus => Contract.vcpuVariable

def number : Quantity → BootRequest → UInt32
  | .memory, boot => boot.memoryMib
  | .vcpus, boot => boot.vcpuCount

def default : Quantity → Settings → UInt32
  | .memory, settings => settings.defaultMemoryMib
  | .vcpus, settings => settings.defaultVcpuCount

end Quantity

/-- Nothing but the number in question could be wrong. -/
structure ValidBut (quantity : Quantity) (environment : List Variable) : Prop where
  image : Given environment Contract.imageVariable
  revision : Given environment Contract.revisionVariable
  others : ∀ other, other ≠ quantity → Readable environment other.key

/-- Where all else is valid, the one number decides. -/
theorem extract_of_validBut {quantity : Quantity} {config : ContainerConfig}
    (valid : ValidBut quantity config.environment) (settings : Settings) :
    ∃ complete : UInt32 → BootRequest, (∀ n, quantity.number (complete n) = n) ∧
      extract config settings =
        complete <$> numeric config quantity.key (quantity.default settings) := by
  obtain ⟨image, hasImage⟩ := given_iff.1 valid.image
  obtain ⟨revision, hasRevision⟩ := given_iff.1 valid.revision
  cases quantity with
  | memory =>
      obtain ⟨count, hasCount⟩ := (readable_iff settings.defaultVcpuCount).1
        (valid.others .vcpus (by decide))
      refine ⟨fun memory => ⟨image, revision, memory, count⟩, fun n => rfl, ?_⟩
      have hasCount : numeric config Contract.vcpuVariable settings.defaultVcpuCount = .ok count :=
        hasCount
      simp only [extract, hasImage, hasRevision, ok_bind]
      show _ = _ <$> numeric config Contract.memoryVariable settings.defaultMemoryMib
      cases numeric config Contract.memoryVariable settings.defaultMemoryMib with
      | ok memory => rw [ok_bind, hasCount]; rfl
      | error fault => rfl
  | vcpus =>
      obtain ⟨memory, hasMemory⟩ := (readable_iff settings.defaultMemoryMib).1
        (valid.others .memory (by decide))
      refine ⟨fun count => ⟨image, revision, memory, count⟩, fun n => rfl, ?_⟩
      have hasMemory : numeric config Contract.memoryVariable settings.defaultMemoryMib =
          .ok memory := hasMemory
      simp only [extract, hasImage, hasRevision, hasMemory, ok_bind]
      rfl

/-- The reason of a refusal tells the three faults apart. -/
theorem message_injective {first second : Text.WordFault} (same : first.message = second.message) :
    first = second := by
  cases first <;> cases second <;> first | rfl | exact absurd same (by decide)

/-- A number is read exactly when it is a word in decimal.  Otherwise the reason is that nothing is
there, that the digits at the front are too large already, or else that something is no digit. -/
theorem numbers_read_exactly (config : ContainerConfig) (settings : Settings)
    (quantity : Quantity) (text : String) (valid : ValidBut quantity config.environment)
    (given : FirstValue config.environment quantity.key text) :
    (∀ n, (∃ boot, extract config settings = .ok boot ∧ (quantity.number boot).toNat = n) ↔
      Text.Denotes text.toList n ∧ n < Text.wordBound 32) ∧
    (∀ n, n < Text.wordBound 32 → text = toString n →
      ∃ boot, extract config settings = .ok boot ∧ (quantity.number boot).toNat = n) ∧
    (¬IsWord text → ∃ reason,
      extract config settings = .error (.invalidVariable quantity.key text reason) ∧
      (reason = "cannot parse integer from empty string" ↔ text = "") ∧
      (reason = "number too large to fit in target type" ↔
        Text.Exceeds (Text.wordBound 32) text.toList) ∧
      (reason = "invalid digit found in string" ↔
        text ≠ "" ∧ ¬Text.Exceeds (Text.wordBound 32) text.toList)) := by
  obtain ⟨complete, number, read⟩ := extract_of_validBut valid settings
  have exact (n : Nat) : (∃ boot, extract config settings = .ok boot ∧
      (quantity.number boot).toNat = n) ↔
        Text.Denotes text.toList n ∧ n < Text.wordBound 32 := by
    simp only [read, map_eq_ok_iff]
    constructor
    · rintro ⟨_, ⟨word, its, rfl⟩, rfl⟩
      rw [number]
      rcases numeric_eq_ok_iff.1 its with ⟨first, denoted⟩ | ⟨absent⟩
      · obtain rfl := firstValue_unique given first
        exact ⟨denoted, Text.uint32_lt word⟩
      · exact absurd given (not_firstValue_of_absent absent)
    · rintro ⟨denoted, small⟩
      refine ⟨_, ⟨_, numeric_of_denotes given denoted small, rfl⟩, ?_⟩
      rw [number, UInt32.toNat_ofNat_of_lt' small]
  refine ⟨exact, ?_, ?_⟩
  · rintro n small rfl
    apply (exact n).2
    rw [Nat.toString_eq_repr, Nat.toList_repr]
    exact ⟨Text.denotes_toDigits n, small⟩
  · intro malformed
    obtain ⟨fault, stopped, refused⟩ := @numeric_of_not_isWord config quantity.key
      (quantity.default settings) text given malformed
    have named (other : Text.WordFault) : fault.message = other.message ↔
        Text.readWord (Text.wordBound 32) text.toList = .error other := by
      rw [stopped, Except.error.injEq]
      exact ⟨message_injective, congrArg _⟩
    have empty : fault.message = Text.WordFault.empty.message ↔ text = "" := by
      rw [named, Text.readWord_eq_empty_iff, String.toList_eq_nil_iff]
    have large : fault.message = Text.WordFault.overflow.message ↔
        Text.Exceeds (Text.wordBound 32) text.toList := by
      rw [named, Text.readWord_eq_overflow_iff (wordBound_pos 32)]
    refine ⟨fault.message, by rw [read, refused]; rfl, empty, large, ?_⟩
    rw [ne_eq, ← empty, ← large]
    cases fault <;> decide

end Extract

/-- An environment in which entries repeat. -/
def repeated : List Variable :=
  [⟨"K_REVISION", "r"⟩, ⟨"GUEST_MEM_SIZE_MIB", "42949672960x"⟩, ⟨"GUEST_IMAGE", "fn"⟩,
    ⟨"GUEST_MEM_SIZE_MIB", "512"⟩, ⟨"GUEST_VCPU_COUNT", "+004"⟩, ⟨"GUEST_IMAGE", ""⟩]

/-- A later good value does not stand in for the first, and the digits at the front decide before
the letter behind them is met. -/
theorem numbers_read_exactly_repeated :
    (ValidBut .memory repeated ∧
      FirstValue repeated Contract.memoryVariable "42949672960x") ∧
    extract ⟨⟨"", 0⟩, repeated, []⟩ .standard = .error (.invalidVariable
      "GUEST_MEM_SIZE_MIB" "42949672960x" "number too large to fit in target type") := by
  have image : Given repeated Contract.imageVariable :=
    ⟨"fn", ⟨repeated.take 2, repeated.drop 3, rfl, by decide⟩, by decide⟩
  have revision : Given repeated Contract.revisionVariable :=
    ⟨"r", ⟨[], repeated.drop 1, rfl, by simp⟩, by decide⟩
  have first : FirstValue repeated Contract.memoryVariable "42949672960x" :=
    ⟨repeated.take 1, repeated.drop 2, rfl, by decide⟩
  have count : FirstValue repeated Contract.vcpuVariable "+004" :=
    ⟨repeated.take 4, repeated.drop 5, rfl, by decide⟩
  have valid : ValidBut .memory repeated := by
    refine ⟨image, revision, fun other differs text given => ?_⟩
    cases other with
    | memory => exact absurd rfl differs
    | vcpus =>
        obtain rfl := firstValue_unique count given
        exact ⟨4, ⟨"004".toList, .inr rfl, by decide, List.all_eq_true.1 rfl, by decide⟩,
          by decide⟩
  have large : Text.Exceeds (Text.wordBound 32) "42949672960x".toList :=
    ⟨"42949672960".toList, ['x'], .inl rfl, List.all_eq_true.1 rfl, by decide⟩
  have malformed : ¬IsWord "42949672960x" := by
    rintro ⟨n, read⟩
    have positive := wordBound_pos 32
    have stopped := (Text.readWord_eq_overflow_iff positive).2 large
    rw [(Text.readWord_eq_ok_iff positive).2 read] at stopped
    cases stopped
  obtain ⟨reason, refused, -, isLarge, -⟩ :=
    (numbers_read_exactly ⟨⟨"", 0⟩, repeated, []⟩ .standard .memory _ valid first).2.2 malformed
  rw [isLarge.2 large] at refused
  exact ⟨⟨valid, first⟩, refused⟩

end Launch

end GuestPod
