/-
This file reads the JSON form of every message back as the message.
-/

import GuestPod.Proofs.Moment
import GuestPod.Proofs.Shapes
import GuestPod.Wire.Container
import GuestPod.Wire.Settings
import GuestPod.Wire.Vm

namespace GuestPod

open Decoding Json

/-- The JSON form of a type of messages, and what the members that travel along in a message have
to satisfy: `clean` holds of the messages that can be read, and `exact` and `shallow` of those that
a text holds without loss. -/
structure Format (σ α : Type) where
  shape : Shape σ α
  encode : α → Json
  clean : α → Prop
  exact : α → Prop
  shallow : α → Prop

namespace Format

variable {σ α : Type}

def text (format : Format σ α) (message : α) : String :=
  (format.encode message).compact

/-- A message without other members is written as it is. -/
def plain (shape : Shape σ α) (encode : α → Json) : Format σ α :=
  ⟨shape, encode, fun _ => True, fun _ => True, fun _ => True⟩

/-- Reading undoes writing, and writing what was read loses nothing. -/
structure Faithful (format : Format σ α) : Prop where
  decode_text : ∀ message, format.clean message → format.exact message →
    format.shallow message → format.shape.decode (format.text message) = .ok message
  clean_of_decode : ∀ text message, format.shape.decode text = .ok message →
    format.clean message
  decode_again : ∀ text message, format.shape.decode text = .ok message →
    format.exact message →
      ∃ again, format.shape.decode (format.text message) = .ok again ∧
        again = message ∧ format.text again = format.text message

/-- It is enough to read values in place of texts. -/
theorem faithful_of_read {format : Format σ α}
    (exact : ∀ message, format.exact message → (format.encode message).Exact)
    (shallow : ∀ message, format.shallow message →
      Frame.whole.Admits (format.encode message).depth)
    (read : ∀ message, format.clean message → format.exact message →
      Frame.whole.Admits (format.encode message).depth →
        format.shape.read ⟨.whole, .ofValue (format.encode message)⟩ = .ok message)
    (sound : ∀ draft message, format.shape.read ⟨.whole, draft⟩ = .ok message →
      format.clean message ∧ Frame.whole.Admits (format.encode message).depth) :
    format.Faithful where
  decode_text message clean lossless low :=
    (Shape.decode_compact (exact message lossless)).trans
      (read message clean lossless (shallow message low))
  clean_of_decode _ message decoded := (sound _ message (Shape.read_of_decode decoded)).1
  decode_again _ message decoded lossless := by
    obtain ⟨clean, admits⟩ := sound _ message (Shape.read_of_decode decoded)
    have again := (Shape.decode_compact (exact message lossless)).trans
      (read message clean lossless admits)
    exact ⟨message, again, rfl, rfl⟩

theorem faithful_plain {shape : Shape σ α} {encode : α → Json}
    (exact : ∀ message, (encode message).Exact)
    (low : ∀ message, (encode message).depth ≤ 1)
    (read : ∀ {frame : Frame}, frame.Admits 1 → ∀ message,
      shape.read ⟨frame, .ofValue (encode message)⟩ = .ok message) :
    (plain shape encode).Faithful :=
  have admits message : Frame.whole.Admits (encode message).depth :=
    Frame.whole_admits ((low message).trans (by decide))
  faithful_of_read (fun message _ => exact message) (fun message _ => admits message)
    (fun message _ _ _ => read (Frame.whole_admits (by decide)) message)
    fun _ message _ => ⟨trivial, admits message⟩

end Format

namespace Json

/-- A word is an exact number. -/
theorem exact_ofNat {n : Nat} (small : n < Text.wordBound 64) : (ofNat n).Exact :=
  ⟨by simp, by simpa using small⟩

theorem exact_uint16 (n : UInt16) : (ofNat n.toNat).Exact :=
  exact_ofNat ((Text.uint16_lt n).trans (by decide))

theorem exact_uint32 (n : UInt32) : (ofNat n.toNat).Exact :=
  exact_ofNat ((Text.uint32_lt n).trans (by decide))

variable {frame : Frame}

theorem word_ofNat {bits n : Nat} (small : n < Text.wordBound bits) :
    Node.word bits ⟨frame, .ofValue (ofNat n)⟩ = .ok n := by
  simp [Node.word, ofNat, Draft.ofValue, small]

@[simp] theorem word_uint16 (n : UInt16) :
    Node.word 16 ⟨frame, .ofValue (ofNat n.toNat)⟩ = .ok n.toNat :=
  word_ofNat (Text.uint16_lt n)

@[simp] theorem word_uint32 (n : UInt32) :
    Node.word 32 ⟨frame, .ofValue (ofNat n.toNat)⟩ = .ok n.toNat :=
  word_ofNat (Text.uint32_lt n)

end Json

section Plain

variable {frame : Frame}

theorem Variable.read_toJson (room : frame.Admits 1) (entry : Variable) :
    shape.read ⟨frame, .ofValue entry.toJson⟩ = .ok entry := by
  obtain ⟨inner, entered, -⟩ := room.enter
  simp [toJson, shape, Shape.member, Record.field?, Record.store, field, entered]

theorem Metadata.read_toJson (room : frame.Admits 1) (metadata : Metadata) :
    shape.read ⟨frame, .ofValue metadata.toJson⟩ = .ok metadata := by
  obtain ⟨inner, entered, -⟩ := room.enter
  simp [toJson, shape, Shape.member, Record.field?, Record.store, field, entered]

theorem RemoveRequest.read_toJson (room : frame.Admits 1) (request : RemoveRequest) :
    shape.read ⟨frame, .ofValue request.toJson⟩ = .ok request := by
  obtain ⟨inner, entered, -⟩ := room.enter
  simp [toJson, shape, Shape.member, Record.field?, Record.store, field, entered]

theorem BootRequest.read_toJson (room : frame.Admits 1) (boot : BootRequest) :
    shape.read ⟨frame, .ofValue boot.toJson⟩ = .ok boot := by
  obtain ⟨inner, entered, -⟩ := room.enter
  simp [toJson, shape, Shape.member, Record.field?, Record.store, field, entered]

theorem Endpoint.read_toJson (room : frame.Admits 1) (endpoint : Endpoint) :
    shape.read ⟨frame, .ofValue endpoint.toJson⟩ = .ok endpoint := by
  obtain ⟨inner, entered, -⟩ := room.enter
  simp [toJson, shape, Shape.member, Record.field?, Record.store, field, entered]

theorem Settings.read_toJson (room : frame.Admits 1) (settings : Settings) :
    shape.read ⟨frame, .ofValue settings.toJson⟩ = .ok settings := by
  obtain ⟨inner, entered, -⟩ := room.enter
  simp [toJson, shape, record, Shape.member, Record.field?, Record.store, Partial.empty,
    Partial.complete, entered]

/-- A point in time is read when its print can be. -/
theorem Vm.dateTime_print {time : Time.DateTime} (plain : time.Plain) :
    dateTime ⟨frame, .ofValue (.string (String.ofList time.print))⟩ = .ok time := by
  simp [dateTime, Draft.ofValue, Time.parse?_print plain]

theorem Vm.read_toJson (room : frame.Admits 1) {vm : Vm} (plain : vm.startedAt.Plain) :
    shape.read ⟨frame, .ofValue vm.toJson⟩ = .ok vm := by
  obtain ⟨inner, entered, -⟩ := room.enter
  simp [toJson, shape, Shape.member, Record.field?, Record.store, field, dateTime_print plain,
    entered]

end Plain

namespace Json

section List

variable {α : Type} {frame : Frame} {item : Node → Except Problem α} (encode : α → Json)
  (values : List α)

theorem mapM_ofItems (room : frame.Admits (depthItems (values.map encode)))
    (read : ∀ value {inner : Frame}, inner.Admits (encode value).depth →
      item ⟨inner, .ofValue (encode value)⟩ = .ok value) :
    (Draft.ofItems (values.map encode)).mapM (fun draft => item ⟨frame, draft⟩) =
      .ok values := by
  induction values with
  | nil => rfl
  | cons value rest ih =>
      have first := read value (room.mono (le_max_left ..))
      have others := ih (room.mono (le_max_right ..))
      simp [Draft.ofItems, List.mapM_cons, first, others]

/-- A list is read item by item. -/
theorem list_ofValue (room : frame.Admits (Json.array (values.map encode)).depth)
    (read : ∀ value {inner : Frame}, inner.Admits (encode value).depth →
      item ⟨inner, .ofValue (encode value)⟩ = .ok value) :
    Node.list item ⟨frame, .ofValue (.array (values.map encode))⟩ = .ok values := by
  obtain ⟨inner, entered, room⟩ :=
    Frame.Admits.enter (show frame.Admits (depthItems _ + 1) from room)
  simp [Node.list, Draft.ofValue, entered, mapM_ofItems encode values room read, checkHalt]

end List

end Json

namespace ContainerConfig

variable {frame inner : Frame}

abbrev Clean (config : ContainerConfig) : Prop :=
  Shape.Travelling shape config.extra

theorem depth_toJson (config : ContainerConfig) :
    config.toJson.depth = max 1 (max (depthItems (config.environment.map Variable.toJson) + 1)
      (depthMembers config.extra)) + 1 := rfl

/-- The metadata and the environment alone nest three deep. -/
theorem depth_toJson_le (config : ContainerConfig) :
    config.toJson.depth ≤ max 2 (depthMembers config.extra) + 1 := by
  have entries : depthItems (config.environment.map Variable.toJson) ≤ 1 := by
    rw [depthItems_le_iff, List.forall_mem_map]
    exact fun entry _ => le_rfl
  rw [depth_toJson]
  omega

theorem read_toJson {config : ContainerConfig} (clean : config.Clean)
    (room : frame.Admits config.toJson.depth) :
    shape.read ⟨frame, .ofValue config.toJson⟩ = .ok config := by
  rw [depth_toJson] at room
  obtain ⟨inner, entered, room⟩ := room.enter
  have metadata := Metadata.read_toJson (room.mono (by omega)) config.metadata
  have environment := list_ofValue Variable.toJson config.environment
    (room.mono (show _ ≤ _ by rw [depth]; omega))
    fun entry _ room => Variable.read_toJson room entry
  refine Shape.read_declared_append rfl
    (fun extra => ⟨some config.metadata, some config.environment, extra⟩)
    (fun _ _ _ => rfl) _ clean entered (room.mono (by omega)) ?_
  simp [shape, Shape.member, Record.field?, Record.store, field, metadata, environment]

theorem clean_of_read (room : frame.Admits 3) {draft : Draft} {config : ContainerConfig}
    (read : shape.read ⟨frame, draft⟩ = .ok config) :
    config.Clean ∧ frame.Admits config.toJson.depth := by
  obtain ⟨members, inner, filled, -, entered, gathered, finished⟩ := Shape.read_kept rfl read
  obtain rfl := Except.ok.inj finished
  obtain ⟨other, same, room⟩ := room.enter
  obtain rfl := Except.ok.inj (same.symm.trans entered)
  obtain ⟨travelling, low⟩ := shape.travelling_of_members rfl Partial.extra rfl
    (fun _ _ _ => rfl) (by simp [shape, field_read_eq_ok_iff]) (room.mono (by omega)) gathered
  have admits := Frame.admits_of_enter entered (Frame.Admits.max room low)
  exact ⟨travelling, admits.mono (depth_toJson_le _)⟩

end ContainerConfig

namespace CreateRequest

variable {frame : Frame}

structure Clean (request : CreateRequest) : Prop where
  config : request.config.Clean
  extra : Shape.Travelling shape request.extra

theorem depth_toJson (request : CreateRequest) :
    request.toJson.depth = max request.config.toJson.depth (depthMembers request.extra) + 1 :=
  congrArg (· + 1) (Nat.zero_max _)

theorem read_toJson {request : CreateRequest} (clean : request.Clean)
    (room : frame.Admits request.toJson.depth) :
    shape.read ⟨frame, .ofValue request.toJson⟩ = .ok request := by
  rw [depth_toJson] at room
  obtain ⟨inner, entered, room⟩ := room.enter
  have config := ContainerConfig.read_toJson clean.config (room.mono (le_max_left ..))
  refine (Shape.read_declared_append rfl
    (fun extra => ⟨some request.sandbox, some request.config, extra⟩)
    (fun _ _ _ => rfl) _ clean.extra entered (room.mono (le_max_right ..)) ?_).trans ?_
  · simp [shape, Shape.member, Record.field?, Record.store, field, config]
  · simp [shape]

theorem clean_of_read (room : frame.Admits 4) {draft : Draft} {request : CreateRequest}
    (read : shape.read ⟨frame, draft⟩ = .ok request) :
    request.Clean ∧ frame.Admits request.toJson.depth := by
  obtain ⟨members, inner, filled, -, entered, gathered, finished⟩ := Shape.read_kept rfl read
  obtain ⟨other, same, room⟩ := room.enter
  obtain rfl := Except.ok.inj (same.symm.trans entered)
  obtain ⟨travelling, low⟩ := shape.travelling_of_members rfl Partial.extra rfl
    (fun _ _ _ => rfl) (by simp [shape, field_read_eq_ok_iff]) (room.mono (by omega)) gathered
  have config := shape.members_preserve
    (P := fun filled => ∀ config ∈ filled.config,
      config.Clean ∧ other.Admits config.toJson.depth)
    (by
      simp only [shape, List.forall_mem_cons, field_read_eq_ok_iff]
      refine ⟨?_, ?_, by simp⟩
      · rintro draft filled next holds ⟨sandbox, -, rfl⟩
        exact holds
      · rintro draft filled next - ⟨config, its, rfl⟩ chosen ⟨⟩
        exact ContainerConfig.clean_of_read room its)
    (by
      rintro store ⟨⟩ name draft value filled - - holds
      exact holds)
    gathered (by simp [shape])
  obtain ⟨sandbox, -, same⟩ := bind_eq_ok_iff.1 finished
  obtain rfl := Except.ok.inj same
  rw [depth_toJson]
  have whole : (filled.config.getD .empty).Clean ∧
      other.Admits (filled.config.getD .empty).toJson.depth := by
    cases given : filled.config with
    | none => exact ⟨.nil, room.mono (by decide)⟩
    | some chosen => exact config chosen given
  exact ⟨⟨whole.1, travelling⟩, Frame.admits_of_enter entered (whole.2.max low)⟩

end CreateRequest

namespace CreateResponse

variable {frame : Frame}

abbrev Clean (response : CreateResponse) : Prop :=
  Shape.Travelling shape response.extra

theorem depth_toJson (response : CreateResponse) :
    response.toJson.depth = depthMembers response.extra + 1 :=
  congrArg (· + 1) (Nat.zero_max _)

theorem read_toJson {response : CreateResponse} (clean : response.Clean)
    (room : frame.Admits response.toJson.depth) :
    shape.read ⟨frame, .ofValue response.toJson⟩ = .ok response := by
  rw [depth_toJson] at room
  obtain ⟨inner, entered, room⟩ := room.enter
  refine (Shape.read_declared_append rfl (fun extra => ⟨some response.container, extra⟩)
    (fun _ _ _ => rfl) [("containerId", .string response.container)] clean entered room ?_).trans ?_
  · simp [shape, Shape.member, Record.field?, Record.store, field]
  · simp [shape]

theorem clean_of_read {draft : Draft} {response : CreateResponse}
    (read : shape.read ⟨frame, draft⟩ = .ok response) :
    response.Clean ∧ frame.Admits response.toJson.depth := by
  obtain ⟨members, inner, filled, -, entered, gathered, finished⟩ := Shape.read_kept rfl read
  obtain ⟨travelling, low⟩ := shape.travelling_of_members rfl Partial.extra rfl
    (fun _ _ _ => rfl) (by simp [shape, field_read_eq_ok_iff])
    (Frame.admits_zero_of_enter entered) gathered
  obtain ⟨container, -, same⟩ := bind_eq_ok_iff.1 finished
  obtain rfl := Except.ok.inj same
  rw [depth_toJson]
  exact ⟨travelling, Frame.admits_of_enter entered low⟩

end CreateResponse

/-! The forms of all messages. -/

namespace Json

theorem exact_of_members (declared : Members) {extra : Members}
    (fields : ∀ member ∈ declared, member.2.Exact)
    (others : ∀ member ∈ extra, member.2.Exact) : (Json.object (declared ++ extra)).Exact := by
  rw [exact_object]
  exact List.forall_mem_append.2 ⟨fields, others⟩

end Json

def Variable.format : Format Partial Variable := .plain shape toJson

def Metadata.format : Format Partial Metadata := .plain shape toJson

def RemoveRequest.format : Format (Option String) RemoveRequest := .plain shape toJson

def Endpoint.format : Format Partial Endpoint := .plain shape toJson

def BootRequest.format : Format Partial BootRequest := .plain shape toJson

def Settings.format : Format Partial Settings := .plain shape toJson

/-- The start of a machine is printed to the nanosecond. -/
def Vm.format : Format Partial Vm where
  shape := shape
  encode := toJson
  clean _ := True
  exact vm := vm.startedAt.Plain
  shallow _ := True

def ContainerConfig.format : Format Partial ContainerConfig where
  shape := shape
  encode := toJson
  clean := Clean
  exact config := ∀ member ∈ config.extra, member.2.Exact
  shallow config := ∀ member ∈ config.extra, member.2.depth ≤ 100

def CreateRequest.format : Format Partial CreateRequest where
  shape := shape
  encode := toJson
  clean := Clean
  exact request := ContainerConfig.format.exact request.config ∧
    ∀ member ∈ request.extra, member.2.Exact
  shallow request := ContainerConfig.format.shallow request.config ∧
    ∀ member ∈ request.extra, member.2.depth ≤ 100

def CreateResponse.format : Format Partial CreateResponse where
  shape := shape
  encode := toJson
  clean := Clean
  exact response := ∀ member ∈ response.extra, member.2.Exact
  shallow response := ∀ member ∈ response.extra, member.2.depth ≤ 100

theorem Variable.faithful : format.Faithful :=
  Format.faithful_plain (by simp [toJson, exact_object]) (fun _ => le_rfl)
    read_toJson

theorem Metadata.faithful : format.Faithful :=
  Format.faithful_plain (by simp [toJson, exact_object, exact_uint32]) (fun _ => le_rfl)
    read_toJson

theorem RemoveRequest.faithful : format.Faithful :=
  Format.faithful_plain (by simp [toJson, exact_object]) (fun _ => le_rfl)
    read_toJson

theorem Endpoint.faithful : format.Faithful :=
  Format.faithful_plain (by simp [toJson, exact_object, exact_uint16]) (fun _ => le_rfl)
    read_toJson

theorem BootRequest.faithful : format.Faithful :=
  Format.faithful_plain (by simp [toJson, exact_object, exact_uint32]) (fun _ => le_rfl)
    read_toJson

theorem Settings.faithful : format.Faithful :=
  Format.faithful_plain (by simp [toJson, exact_object, exact_uint16, exact_uint32])
    (fun _ => le_rfl) read_toJson

theorem Vm.faithful : format.Faithful :=
  have admits (vm : Vm) : Frame.whole.Admits vm.toJson.depth :=
    Frame.whole_admits (show 1 ≤ 127 by decide)
  Format.faithful_of_read (fun vm _ => by simp [format, toJson, exact_object])
    (fun vm _ => admits vm) (fun vm _ plain room => read_toJson room plain)
    fun _ vm _ => ⟨trivial, admits vm⟩

namespace ContainerConfig

theorem exact_toJson {config : ContainerConfig}
    (exact : ∀ member ∈ config.extra, member.2.Exact) : config.toJson.Exact := by
  refine exact_of_members _ ?_ exact
  simp [Metadata.toJson, Variable.toJson, exact_object, exact_array, exact_uint32]

theorem depth_toJson_le_of_shallow {config : ContainerConfig}
    (shallow : ∀ member ∈ config.extra, member.2.depth ≤ 100) : config.toJson.depth ≤ 101 := by
  have extra := (depthMembers_le_iff _ _).2 shallow
  have := depth_toJson_le config
  omega

theorem faithful : format.Faithful :=
  Format.faithful_of_read (fun _ => exact_toJson)
    (fun _ shallow => Frame.whole_admits ((depth_toJson_le_of_shallow shallow).trans (by decide)))
    (fun _ clean _ => read_toJson clean)
    fun _ _ => clean_of_read (Frame.whole_admits (by decide))

end ContainerConfig

namespace CreateRequest

theorem exact_toJson {request : CreateRequest} (exact : format.exact request) :
    request.toJson.Exact := by
  refine exact_of_members _ ?_ exact.2
  simp [ContainerConfig.exact_toJson exact.1]

theorem depth_toJson_le_of_shallow {request : CreateRequest} (shallow : format.shallow request) :
    request.toJson.depth ≤ 102 := by
  have config := ContainerConfig.depth_toJson_le_of_shallow shallow.1
  have extra := (depthMembers_le_iff _ _).2 shallow.2
  rw [depth_toJson]
  omega

theorem faithful : format.Faithful :=
  Format.faithful_of_read (fun _ => exact_toJson)
    (fun _ shallow => Frame.whole_admits ((depth_toJson_le_of_shallow shallow).trans (by decide)))
    (fun _ clean _ => read_toJson clean)
    fun _ _ => clean_of_read (Frame.whole_admits (by decide))

end CreateRequest

namespace CreateResponse

theorem exact_toJson {response : CreateResponse} (exact : format.exact response) :
    response.toJson.Exact :=
  exact_of_members [("containerId", .string response.container)] (by simp) exact

theorem depth_toJson_le_of_shallow {response : CreateResponse} (shallow : format.shallow response) :
    response.toJson.depth ≤ 101 := by
  have extra := (depthMembers_le_iff _ _).2 shallow
  rw [depth_toJson]
  omega

theorem faithful : format.Faithful :=
  Format.faithful_of_read (fun _ => exact_toJson)
    (fun _ shallow => Frame.whole_admits ((depth_toJson_le_of_shallow shallow).trans (by decide)))
    (fun _ clean _ => read_toJson clean) fun _ _ => clean_of_read

end CreateResponse

/-- Every message is read back from its text as it was written, and a message that was read is
written again without loss. -/
theorem messages_faithful :
    Variable.format.Faithful ∧ Metadata.format.Faithful ∧ ContainerConfig.format.Faithful ∧
      CreateRequest.format.Faithful ∧ CreateResponse.format.Faithful ∧
      RemoveRequest.format.Faithful ∧ Endpoint.format.Faithful ∧ BootRequest.format.Faithful ∧
      Vm.format.Faithful ∧ Settings.format.Faithful :=
  ⟨Variable.faithful, Metadata.faithful, ContainerConfig.faithful, CreateRequest.faithful,
    CreateResponse.faithful, RemoveRequest.faithful, Endpoint.faithful, BootRequest.faithful,
    Vm.faithful, Settings.faithful⟩

/-- A request with a member of its own at both levels. -/
def CreateRequest.nested : CreateRequest where
  sandbox := "pod-1"
  config := {
    metadata := ⟨"worker", 1⟩
    environment := [⟨"MODE", "\"fast\""⟩]
    extra := [("image", .object [("image", .string "a\nb")])] }
  extra := [("sandbox_config", .array [.ofNat 5, .null])]

theorem messages_faithful_nested :
    (CreateRequest.nested.Clean ∧ CreateRequest.format.exact .nested ∧
      CreateRequest.format.shallow .nested) ∧
    CreateRequest.shape.decode (CreateRequest.format.text .nested) = .ok .nested := by
  have clean : CreateRequest.nested.Clean := by
    refine ⟨⟨?_, ?_, ?_⟩, ⟨?_, ?_, ?_⟩⟩ <;>
      simp [CreateRequest.nested, Members.Ascending, ordered_object, ordered_array, ofNat,
        Record.names, field, ContainerConfig.shape, CreateRequest.shape]
  have exact : CreateRequest.format.exact .nested := by
    simp [CreateRequest.nested, CreateRequest.format, ContainerConfig.format, exact_object,
      exact_array, exact_ofNat (n := 5) (by decide)]
  have shallow : CreateRequest.format.shallow .nested := by
    simp [CreateRequest.nested, CreateRequest.format, ContainerConfig.format, depth, depthItems,
      depthMembers, depthMember, ofNat]
  exact ⟨⟨clean, exact, shallow⟩,
    messages_faithful.2.2.2.1.decode_text CreateRequest.nested clean exact shallow⟩

end GuestPod
