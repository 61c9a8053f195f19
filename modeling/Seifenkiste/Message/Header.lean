import Seifenkiste.Message.Basic

/-!
# Messages and their TCP headers

The messages a client can build, the 37 bytes their header consists of, and what the header
constructor reads back from them.
-/

namespace Seifenkiste

open Memory LittleEndian

namespace MessageClass

/-! ### Built messages -/

/-- A message made by the parameter constructor and changed through its member functions; the
data buffer may be filled with as many bytes as it has. -/
inductive Built : MessageClass → Prop
  | new (sender : SenderTypeDef) (senderTime : UInt32) (sensorPlatform : SenderTypeDef)
      (sensorType : SensorTypeDef) (sensorTime dataLength : UInt32) (heap : Nat → UInt8) :
      Built (new sender senderTime sensorPlatform sensorType sensorTime dataLength heap)
  | setId {m : MessageClass} (hm : Built m) (id : UInt32) : Built (m.setId id)
  | setSenderTime {m : MessageClass} (hm : Built m) (t : UInt32) : Built (m.setSenderTime t)
  | setSpecialParams {m m' : MessageClass} {paramBuffer : Bytes} {length result : Int}
      (hm : Built m) (h : m.setSpecialParams paramBuffer length = some (result, m')) : Built m'
  | fillDataBuffer {m : MessageClass} (hm : Built m) (data : Bytes)
      (hlen : data.length = m.dataLength.toNat) : Built (m.fillDataBuffer data)

/-- What every built message satisfies. -/
structure WellFormed (m : MessageClass) : Prop where
  state : m.state = MessageStateDef.initialized.toUInt32
  sender : m.sender.toNat < 256
  sensorPlatform : m.sensorPlatform.toNat < 256
  sensorType : m.sensorType.toNat < 256
  params : ∃ params, m.specialParamBuffer = some params ∧
    params.length = specialParamsBufferLength
  data : ∃ data, m.dataBuffer = some data ∧ data.length = m.dataLength.toNat

/-- A call of `setSpecialParams` that returns keeps the message or overlays its parameters. -/
lemma setSpecialParams_cases {m m' : MessageClass} {paramBuffer : Bytes} {length result : Int}
    (h : m.setSpecialParams paramBuffer length = some (result, m')) :
    (result = -1 ∧ m' = m) ∨
      ∃ block size, m.specialParamBuffer = some block ∧ size ≤ block.length ∧
        size ≤ paramBuffer.length ∧ result = 0 ∧
        m' = { m with specialParamBuffer := some (memcpy block 0 (paramBuffer.take size)) } := by
  unfold setSpecialParams at h
  split at h
  · simp only [Option.some.injEq, Prod.mk.injEq] at h
    exact Or.inl ⟨h.1.symm, h.2.symm⟩
  · cases hb : m.specialParamBuffer with
    | none => simp [hb] at h
    | some block =>
      simp only [hb] at h
      split at h
      · rename_i hsize
        simp only [Option.some.injEq, Prod.mk.injEq] at h
        exact Or.inr ⟨block, _, rfl, hsize.1, hsize.2, h.1.symm, h.2.symm⟩
      · exact absurd h (by simp)

theorem Built.wellFormed {m : MessageClass} (hm : Built m) : WellFormed m := by
  induction hm with
  | new sender _ sensorPlatform sensorType _ _ _ =>
    exact ⟨rfl, sender.toNat_lt, sensorPlatform.toNat_lt, sensorType.toNat_lt,
      ⟨_, rfl, List.length_replicate⟩, ⟨_, rfl, length_malloc _ _⟩⟩
  | setId _ _ ih =>
    exact ⟨ih.state, ih.sender, ih.sensorPlatform, ih.sensorType, ih.params, ih.data⟩
  | setSenderTime _ _ ih =>
    exact ⟨ih.state, ih.sender, ih.sensorPlatform, ih.sensorType, ih.params, ih.data⟩
  | setSpecialParams _ h ih =>
    rcases setSpecialParams_cases h with ⟨_, rfl⟩ | ⟨block, size, hb, hsize, _, _, rfl⟩
    · exact ih
    · obtain ⟨params, hparams, hlen⟩ := ih.params
      obtain rfl : block = params := Option.some.inj (hb.symm.trans hparams)
      refine ⟨ih.state, ih.sender, ih.sensorPlatform, ih.sensorType, ⟨_, rfl, ?_⟩, ih.data⟩
      rw [length_memcpy, hlen]
      simp only [List.length_take, Nat.zero_add]
      exact (Nat.min_le_left _ _).trans hsize
  | fillDataBuffer _ data hlen ih =>
    obtain ⟨block, hblock, hblocklen⟩ := ih.data
    refine ⟨ih.state, ih.sender, ih.sensorPlatform, ih.sensorType, ih.params, ⟨data, ?_, hlen⟩⟩
    simp only [MessageClass.fillDataBuffer, hblock, Option.map_some]
    rw [memcpy_zero_of_length_eq (hlen.trans hblocklen.symm)]

end MessageClass

/-! ### Outgoing messages -/

/-- A message that is ready to be sent: it has its parameters and exactly the announced number
of data bytes. The enum members may hold any value. -/
structure Outgoing where
  message : MessageClass
  params : Bytes
  data : Bytes
  params_eq : message.specialParamBuffer = some params
  params_length : params.length = specialParamsBufferLength
  data_eq : message.dataBuffer = some data
  data_length : data.length = message.dataLength.toNat

/-- A well-formed message is ready to be sent. -/
def MessageClass.WellFormed.outgoing {m : MessageClass} (hm : m.WellFormed) : Outgoing where
  message := m
  params := m.specialParamBuffer.getD []
  data := m.dataBuffer.getD []
  params_eq := by
    obtain ⟨params, hparams, _⟩ := hm.params
    rw [hparams, Option.getD_some]
  params_length := by
    obtain ⟨params, hparams, hlen⟩ := hm.params
    rw [hparams, Option.getD_some, hlen]
  data_eq := by
    obtain ⟨data, hdata, _⟩ := hm.data
    rw [hdata, Option.getD_some]
  data_length := by
    obtain ⟨data, hdata, hlen⟩ := hm.data
    rw [hdata, Option.getD_some, hlen]

namespace Outgoing

/-- The fields of the header in their order on the wire. -/
def fields (o : Outgoing) : List Bytes :=
  [conSegStart, slice (bytes o.message.sender) 0 1, bytes o.message.senderTime,
    bytes o.message.messageId, slice (bytes o.message.sensorPlatform) 0 1,
    slice (bytes o.message.sensorType) 0 1, bytes o.message.sensorTime,
    bytes o.message.dataLength, o.params, conSegEnd]

/-- The 37 bytes of the header. -/
def header (o : Outgoing) : Bytes := o.fields.flatten

/-- What a message looks like on the connection. -/
def frame (o : Outgoing) : Bytes := o.header ++ o.data

variable (o : Outgoing)

lemma length_slice_bytes (x : UInt32) : (slice (bytes x) 0 1).length = 1 := by
  rw [slice_bytes_one, List.length_singleton]

/-- The widths of the fields: a field starts where the widths before it add up to. -/
lemma map_length_fields : o.fields.map List.length = [3, 1, 4, 4, 1, 1, 4, 4, 12, 3] := by
  simp [fields, length_slice_bytes, o.params_length, specialParamsBufferLength]

@[simp] lemma length_header : o.header.length = tcpHeaderLength := by
  rw [header, List.length_flatten, map_length_fields]
  rfl

/-- `createTCPHeader` writes the first 37 bytes of its destination and leaves those behind. -/
theorem createTCPHeader_append (headerBuffer : Bytes) :
    o.message.createTCPHeader headerBuffer
      = some (o.header ++ headerBuffer.drop tcpHeaderLength) := by
  have hparams : slice o.params 0 specialParamsBufferLength = o.params :=
    slice_eq_self o.params_length
  have hplen : o.params.length = 12 := o.params_length
  have himage : memcpy headerBuffer 0 o.header = o.header ++ headerBuffer.drop tcpHeaderLength := by
    rw [memcpy_zero, length_header]
  simp only [MessageClass.createTCPHeader, o.params_eq, Option.map_some, hparams]
  simp (disch := simp [length_slice_bytes, hplen]) only [memcpy_zero_memcpy]
  rw [← himage]
  simp [header, fields]

/-- `createTCPHeader` writes every byte of its destination. -/
theorem createTCPHeader_eq {headerBuffer : Bytes} (h : headerBuffer.length = tcpHeaderLength) :
    o.message.createTCPHeader headerBuffer = some o.header := by
  rw [createTCPHeader_append, List.drop_of_length_le h.le, List.append_nil]

/-- The header that was created is the header of the message. -/
lemma header_eq_of_create {headerBuffer header : Bytes} (h : headerBuffer.length = tcpHeaderLength)
    (hcreate : o.message.createTCPHeader headerBuffer = some header) : o.header = header :=
  Option.some.inj ((o.createTCPHeader_eq h).symm.trans hcreate)

/-- The `i`-th field of a header is read back from its offset. -/
lemma slice_header {i off n : Nat} {field : Bytes} (hi : o.fields[i]? = some field)
    (hoff : ([3, 1, 4, 4, 1, 1, 4, 4, 12, 3].take i).sum = off)
    (hn : [3, 1, 4, 4, 1, 1, 4, 4, 12, 3][i]? = some n) : slice o.header off n = field := by
  rw [← map_length_fields, List.getElem?_map, hi, Option.map_some, Option.some.injEq] at hn
  rw [← map_length_fields, ← List.map_take] at hoff
  exact slice_flatten hi hoff hn

lemma hasControlSegments_header : HasControlSegments o.header :=
  ⟨o.slice_header (i := 0) rfl rfl rfl, o.slice_header (i := 9) rfl rfl rfl⟩

/-- The header constructor applied to the header of an outgoing message, in memory that does not
hold `invalid`: all words are restored, the enum members up to their upper bytes. -/
theorem ofHeaderMessage_header {memory : MessageClass}
    (hmem : memory.state ≠ MessageStateDef.invalid.toUInt32) (heap : Nat → UInt8) :
    MessageClass.ofHeaderMessage memory heap o.header =
      { state := MessageStateDef.initialized.toUInt32
        sender := store memory.sender (slice (bytes o.message.sender) 0 1)
        senderTime := o.message.senderTime
        messageId := o.message.messageId
        sensorPlatform := store memory.sensorPlatform (slice (bytes o.message.sensorPlatform) 0 1)
        sensorType := store memory.sensorType (slice (bytes o.message.sensorType) 0 1)
        sensorTime := o.message.sensorTime
        dataLength := o.message.dataLength
        dataBuffer := some (malloc heap o.message.dataLength.toNat)
        specialParamBuffer := some o.params } := by
  have hsender : slice o.header 3 1 = slice (bytes o.message.sender) 0 1 :=
    o.slice_header (i := 1) rfl rfl rfl
  have hsenderTime : slice o.header 4 4 = bytes o.message.senderTime :=
    o.slice_header (i := 2) rfl rfl rfl
  have hmessageId : slice o.header 8 4 = bytes o.message.messageId :=
    o.slice_header (i := 3) rfl rfl rfl
  have hplatform : slice o.header 12 1 = slice (bytes o.message.sensorPlatform) 0 1 :=
    o.slice_header (i := 4) rfl rfl rfl
  have htype : slice o.header 13 1 = slice (bytes o.message.sensorType) 0 1 :=
    o.slice_header (i := 5) rfl rfl rfl
  have hsensorTime : slice o.header 14 4 = bytes o.message.sensorTime :=
    o.slice_header (i := 6) rfl rfl rfl
  have hdataLength : slice o.header 18 4 = bytes o.message.dataLength :=
    o.slice_header (i := 7) rfl rfl rfl
  have hparams : slice o.header 22 specialParamsBufferLength = o.params :=
    o.slice_header (i := 8) rfl rfl rfl
  rw [MessageClass.ofHeaderMessage_of_accepts ⟨o.hasControlSegments_header, hmem⟩ o.length_header,
    hsender, hsenderTime, hmessageId, hplatform, htype, hsensorTime, hdataLength, hparams]
  simp only [word_bytes]

end Outgoing

/-! ### Decoding what was encoded -/

/-- The message parameters that a header carries, as the members store them. -/
structure Metadata where
  sender : UInt32
  senderTime : UInt32
  messageId : UInt32
  sensorPlatform : UInt32
  sensorType : UInt32
  sensorTime : UInt32
  dataLength : UInt32
  specialParams : Option Bytes
  deriving DecidableEq, Repr

def MessageClass.metadata (m : MessageClass) : Metadata where
  sender := m.sender
  senderTime := m.senderTime
  messageId := m.messageId
  sensorPlatform := m.sensorPlatform
  sensorType := m.sensorType
  sensorTime := m.sensorTime
  dataLength := m.dataLength
  specialParams := m.specialParamBuffer

/-- Memory whose three enum members hold nothing above their lowest byte. -/
def MessageClass.EnumsSmall (memory : MessageClass) : Prop :=
  memory.sender.toNat < 256 ∧ memory.sensorPlatform.toNat < 256 ∧ memory.sensorType.toNat < 256

instance (memory : MessageClass) : Decidable memory.EnumsSmall :=
  inferInstanceAs (Decidable (_ ∧ _))

lemma Outgoing.metadata_header_iff {o : Outgoing} (ho : o.message.WellFormed)
    {memory : MessageClass} (hmem : memory.state ≠ MessageStateDef.invalid.toUInt32)
    (heap : Nat → UInt8) :
    (MessageClass.ofHeaderMessage memory heap o.header).metadata = o.message.metadata
      ↔ memory.EnumsSmall := by
  rw [o.ofHeaderMessage_header hmem]
  simp only [MessageClass.metadata, o.params_eq, Metadata.mk.injEq, and_true, true_and,
    store_slice_eq_iff ho.sender, store_slice_eq_iff ho.sensorPlatform,
    store_slice_eq_iff ho.sensorType, MessageClass.EnumsSmall]

/-- The receiver gets the sender's metadata back exactly when the memory it builds the message
in has no upper bytes left in the enum members. -/
theorem metadata_ofHeaderMessage_iff {m : MessageClass} (hm : m.Built)
    {headerBuffer header : Bytes} (hbuf : headerBuffer.length = tcpHeaderLength)
    (hcreate : m.createTCPHeader headerBuffer = some header)
    {memory : MessageClass} {heap : Nat → UInt8}
    (haccept : (MessageClass.ofHeaderMessage memory heap header).getState
      = MessageStateDef.initialized.toUInt32) :
    (MessageClass.ofHeaderMessage memory heap header).metadata = m.metadata
      ↔ memory.EnumsSmall := by
  let o := hm.wellFormed.outgoing
  obtain rfl : o.header = header := o.header_eq_of_create hbuf hcreate
  have hmem := ((MessageClass.accepts_iff o.length_header).mp haccept).2
  exact o.metadata_header_iff hm.wellFormed hmem heap

/-- A pixel as the camera sends it, with the dimensions of the image as its parameters. -/
def pixelMessage (id : UInt32) : MessageClass :=
  { MessageClass.new .rpi 7 .rpi .camera1 9 3 fun _ => 0 with
    messageId := id
    specialParamBuffer := some [1, 0, 0, 0, 1, 0, 0, 0, 3, 0, 0, 0]
    dataBuffer := some [10, 20, 30] }

lemma pixelMessage_built (id : UInt32) : (pixelMessage id).Built := by
  have hnew := MessageClass.Built.new .rpi 7 .rpi .camera1 9 3 fun _ => 0
  have hparams := @MessageClass.Built.setSpecialParams _ _ [1, 0, 0, 0, 1, 0, 0, 0, 3, 0, 0, 0] 12 0
    (hnew.setId id) rfl
  exact hparams.fillDataBuffer [10, 20, 30] rfl

/-- The theorem at memory that has not been used. -/
theorem metadata_in_cleared :
    ∃ header, (pixelMessage 5).createTCPHeader (List.replicate tcpHeaderLength 0) = some header ∧
      (MessageClass.ofHeaderMessage .cleared (fun _ => 0) header).metadata
        = (pixelMessage 5).metadata := by
  obtain ⟨header, hcreate⟩ : ∃ header, (pixelMessage 5).createTCPHeader
    (List.replicate tcpHeaderLength 0) = some header := ⟨_, rfl⟩
  have haccept : (MessageClass.ofHeaderMessage .cleared (fun _ => 0) header).getState
      = MessageStateDef.initialized.toUInt32 := by
    obtain rfl := Option.some.inj hcreate
    decide +kernel
  refine ⟨header, hcreate, ?_⟩
  exact (metadata_ofHeaderMessage_iff (pixelMessage_built 5) List.length_replicate hcreate
    haccept).mpr (by decide)

/-- A camera message without data. -/
def plainMessage : MessageClass := .new .rpi 0 .rpi .camera1 0 0 fun _ => 0

def plainHeader : Bytes := (plainMessage.createTCPHeader (List.replicate tcpHeaderLength 0)).getD []

/-- Memory that held a larger word where the sender goes. -/
def usedMemory : MessageClass := { MessageClass.cleared with sender := 0x100 }

/-- The header is accepted there, and the sender is not the one that was sent. -/
theorem metadata_in_used :
    plainMessage.Built ∧
    plainMessage.createTCPHeader (List.replicate tcpHeaderLength 0) = some plainHeader ∧
    (MessageClass.ofHeaderMessage usedMemory (fun _ => 0) plainHeader).getState
      = MessageStateDef.initialized.toUInt32 ∧
    (MessageClass.ofHeaderMessage usedMemory (fun _ => 0) plainHeader).metadata
      ≠ plainMessage.metadata := by
  refine ⟨.new _ _ _ _ _ _ _, ?_, ?_, ?_⟩
  all_goals decide +kernel

end Seifenkiste
