import Seifenkiste.Message.Header

/-!
# The other two header decoders

`process_header_message` of the server and `extract_TCP_header_info1` read a header from a string
of 37 characters. They convert single characters, which are signed, where the header constructor
copies bytes, and they do not read the special parameters.
-/

namespace Seifenkiste

open Memory LittleEndian

/-- A character converted to an enumeration: its sign fills the upper three bytes. -/
def enumOfChar (c : UInt8) : UInt32 := c.toInt8.toInt32.toUInt32

/-- The variables that both functions read a header into. -/
structure HeaderInfo where
  sender : UInt32
  senderTime : UInt32
  messageId : UInt32
  sensorPlatform : UInt32
  sensorType : UInt32
  sensorTime : UInt32
  dataLength : UInt32
  deriving DecidableEq, Repr

def headerInfo (headerMessage : Bytes) : HeaderInfo where
  sender := enumOfChar (headerMessage.getD 3 0)
  senderTime := word (slice headerMessage 4 4)
  messageId := word (slice headerMessage 8 4)
  sensorPlatform := enumOfChar (headerMessage.getD 12 0)
  sensorType := enumOfChar (headerMessage.getD 13 0)
  sensorTime := word (slice headerMessage 14 4)
  dataLength := word (slice headerMessage 18 4)

namespace MessageClass

/-- The constructor from message parameters, `new`, on stored values that need not be
enumerators. -/
def ofWords (sender senderTime sensorPlatform sensorType sensorTime dataLength : UInt32)
    (heap : Nat → UInt8) : MessageClass where
  state := MessageStateDef.initialized.toUInt32
  messageId := 0
  sender := sender
  senderTime := senderTime
  sensorPlatform := sensorPlatform
  sensorType := sensorType
  sensorTime := sensorTime
  dataLength := dataLength
  dataBuffer := some (malloc heap dataLength.toNat)
  specialParamBuffer := some (List.replicate specialParamsBufferLength 0)

/-- What a call of `extractTCPHeaderInfo1` returns, leaves and prints. -/
structure Extracted where
  result : Int
  message : MessageClass
  printed : Option HeaderInfo
  deriving DecidableEq, Repr

/-- The values are read into variables that hide the members of the same names, so they are
printed and nothing else becomes of them. -/
def extractTCPHeaderInfo1 (m : MessageClass) (headerMessage : Bytes) : Extracted :=
  if slice headerMessage 0 3 ≠ conSegStart then
    ⟨-1, { m with state := MessageStateDef.invalid.toUInt32 }, none⟩
  else if slice headerMessage (tcpHeaderLength - 3) 3 ≠ conSegEnd then
    ⟨-2, { m with state := MessageStateDef.invalid.toUInt32 }, none⟩
  else ⟨0, m, some (headerInfo headerMessage)⟩

end MessageClass

/-- `none` when the call leaves the program. -/
def Server.processHeaderMessage (heap : Nat → UInt8) (headerMessage : Bytes) :
    Option MessageClass :=
  if slice headerMessage 0 3 ≠ conSegStart then none
  else if slice headerMessage (tcpHeaderLength - 3) 3 ≠ conSegEnd then none
  else
    let info := headerInfo headerMessage
    let newMessage := MessageClass.ofWords info.sender info.senderTime info.sensorPlatform
      info.sensorType info.sensorTime info.dataLength heap
    some (newMessage.setId info.messageId)

/-! ### What a header carries -/

/-- The metadata of a header whose characters are signed. -/
def signedMetadata (header : Bytes) : Metadata where
  sender := enumOfChar (header.getD 3 0)
  senderTime := word (slice header 4 4)
  messageId := word (slice header 8 4)
  sensorPlatform := enumOfChar (header.getD 12 0)
  sensorType := enumOfChar (header.getD 13 0)
  sensorTime := word (slice header 14 4)
  dataLength := word (slice header 18 4)
  specialParams := some (slice header 22 specialParamsBufferLength)

/-- The upper three bytes of a word are copies of the sign of a character. -/
def Extends (x : UInt32) (c : UInt8) : Prop :=
  x.toNat / 256 = if c.toNat < 128 then 0 else 0xffffff

instance (x : UInt32) (c : UInt8) : Decidable (Extends x c) :=
  inferInstanceAs (Decidable (_ = _))

lemma toNat_enumOfChar (c : UInt8) :
    (enumOfChar c).toNat = c.toNat + 256 * if c.toNat < 128 then 0 else 0xffffff := by
  have hc := c.toNat_lt
  have hsign : c.toBitVec.msb = decide (128 ≤ c.toNat) := by
    rw [BitVec.msb_eq_decide]
    rfl
  have himage : (enumOfChar c).toBitVec = c.toBitVec.signExtend 32 := rfl
  rw [← UInt32.toNat_toBitVec, himage, BitVec.toNat_signExtend, hsign, BitVec.toNat_setWidth,
    UInt8.toNat_toBitVec]
  simp only [decide_eq_true_eq]
  split_ifs <;> omega

/-- A copied byte and a converted character are the same value in memory whose upper bytes are
the sign of the character already. -/
lemma store_eq_enumOfChar_iff (x : UInt32) (c : UInt8) :
    store x [c] = enumOfChar c ↔ Extends x c := by
  rw [← UInt32.toNat_inj, toNat_store_singleton, toNat_enumOfChar, Extends, Nat.add_left_cancel_iff]
  exact Nat.mul_right_inj (by decide)

section Agreement

variable {memory object : MessageClass} {heap heap' : Nat → UInt8} {header : Bytes}

lemma metadata_signed_iff (haccept : memory.Accepts header)
    (hlen : header.length = tcpHeaderLength) (heap : Nat → UInt8) :
    (MessageClass.ofHeaderMessage memory heap header).metadata = signedMetadata header ↔
      Extends memory.sender (header.getD 3 0) ∧ Extends memory.sensorPlatform (header.getD 12 0) ∧
        Extends memory.sensorType (header.getD 13 0) := by
  have hchar (x : UInt32) {off : Nat} (hoff : off < 37) :
      store x (slice header off 1) = enumOfChar (header.getD off 0) ↔
        Extends x (header.getD off 0) := by
    rw [slice_one (hlen.symm ▸ hoff) 0, store_eq_enumOfChar_iff]
  rw [MessageClass.ofHeaderMessage_of_accepts haccept hlen]
  simp only [MessageClass.metadata, signedMetadata, Metadata.mk.injEq, true_and, and_true]
  rw [hchar _ (by decide), hchar _ (by decide), hchar _ (by decide)]

/-- `processHeaderMessage` gives everything but the special parameters. -/
lemma processHeaderMessage_of_has (heap : Nat → UInt8) (h : HasControlSegments header) :
    ∃ m, Server.processHeaderMessage heap header = some m ∧
      m.metadata = { signedMetadata header with
        specialParams := some (List.replicate specialParamsBufferLength 0) } := by
  obtain ⟨hs, he⟩ := h
  simp only [Server.processHeaderMessage, tcpHeaderLength, Nat.reduceSub, hs, he, ne_eq, not_true,
    if_false, Option.some.injEq, exists_eq_left']
  rfl

lemma extractTCPHeaderInfo1_of_has (h : HasControlSegments header) (object : MessageClass) :
    object.extractTCPHeaderInfo1 header = ⟨0, object, some (headerInfo header)⟩ := by
  obtain ⟨hs, he⟩ := h
  simp only [MessageClass.extractTCPHeaderInfo1, tcpHeaderLength, Nat.reduceSub, hs, he, ne_eq,
    not_true, if_false]

/-- The three decoders accept a header and leave the same metadata: `memory` is what the header
constructor finds, and `object` is the message that `extractTCPHeaderInfo1` is called on. -/
structure DecodersAgree (memory object : MessageClass) (heap heap' : Nat → UInt8)
    (header : Bytes) : Prop where
  constructed : (MessageClass.ofHeaderMessage memory heap header).getState
    = MessageStateDef.initialized.toUInt32
  processed : ∃ m, Server.processHeaderMessage heap' header = some m ∧
    m.metadata = (MessageClass.ofHeaderMessage memory heap header).metadata
  extracted : (object.extractTCPHeaderInfo1 header).result = 0 ∧
    (object.extractTCPHeaderInfo1 header).message.metadata
      = (MessageClass.ofHeaderMessage memory heap header).metadata

/-- They agree exactly when the memory brings along what the header constructor does not write,
the header has no special parameters, and the object holds its metadata already. -/
theorem decodersAgree_iff (hlen : header.length = tcpHeaderLength)
    (hsegments : HasControlSegments header) :
    DecodersAgree memory object heap heap' header ↔
      memory.state ≠ MessageStateDef.invalid.toUInt32 ∧
      (Extends memory.sender (header.getD 3 0) ∧ Extends memory.sensorPlatform (header.getD 12 0) ∧
        Extends memory.sensorType (header.getD 13 0)) ∧
      slice header 22 specialParamsBufferLength = List.replicate specialParamsBufferLength 0 ∧
      object.metadata = signedMetadata header := by
  obtain ⟨m, hprocess, hm⟩ := processHeaderMessage_of_has heap' hsegments
  have hextract := extractTCPHeaderInfo1_of_has hsegments object
  constructor
  · rintro ⟨hconstructed, ⟨m', hm', hprocessed⟩, -, hextracted⟩
    have haccept := (MessageClass.accepts_iff hlen).mp hconstructed
    obtain rfl : m = m' := Option.some.inj (hprocess.symm.trans hm')
    have hcarried : (MessageClass.ofHeaderMessage memory heap header).metadata.specialParams
        = some (slice header 22 specialParamsBufferLength) := by
      rw [MessageClass.ofHeaderMessage_of_accepts haccept hlen]
      rfl
    rw [hm] at hprocessed
    have hparams : slice header 22 specialParamsBufferLength
        = List.replicate specialParamsBufferLength 0 :=
      Option.some.inj (hcarried.symm.trans (congrArg Metadata.specialParams hprocessed).symm)
    have hsigned : (MessageClass.ofHeaderMessage memory heap header).metadata
        = signedMetadata header := by
      rw [← hprocessed, ← hparams]
      rfl
    rw [hextract] at hextracted
    exact ⟨haccept.2, (metadata_signed_iff haccept hlen heap).mp hsigned, hparams,
      hextracted.trans hsigned⟩
  · rintro ⟨hstate, hextends, hparams, hobject⟩
    have haccept : memory.Accepts header := ⟨hsegments, hstate⟩
    have hsigned := (metadata_signed_iff haccept hlen heap).mpr hextends
    refine ⟨(MessageClass.accepts_iff hlen).mpr haccept, ⟨m, hprocess, ?_⟩, ?_, ?_⟩
    · rw [hsigned, hm, ← hparams]
      rfl
    · rw [hextract]
    · rw [hextract, hobject, hsigned]

/-- The theorem at a header without special parameters, in memory that has not been used. -/
theorem decodersAgree_plain :
    DecodersAgree .cleared (.ofHeaderMessage .cleared (fun _ => 0) plainHeader) (fun _ => 0)
      (fun _ => 0) plainHeader :=
  (decodersAgree_iff (by decide +kernel) (by decide +kernel)).mpr (by decide +kernel)

/-- A header with special parameters. -/
def paramsHeader : Bytes :=
  plainHeader.take 22 ++ List.replicate specialParamsBufferLength 1 ++ conSegEnd

/-- Only the header constructor gets the special parameters. -/
theorem paramsHeader_disagree :
    paramsHeader.length = tcpHeaderLength ∧ HasControlSegments paramsHeader ∧
    ¬ DecodersAgree .cleared (.ofHeaderMessage .cleared (fun _ => 0) paramsHeader) (fun _ => 0)
      (fun _ => 0) paramsHeader := by
  refine ⟨by decide +kernel, by decide +kernel, ?_⟩
  intro h
  obtain ⟨m, hprocess, hm⟩ := h.processed
  have hsame : (Server.processHeaderMessage (fun _ => 0) paramsHeader).map MessageClass.metadata
      = some (MessageClass.ofHeaderMessage .cleared (fun _ => 0) paramsHeader).metadata := by
    rw [hprocess, Option.map_some, hm]
  exact absurd hsame (by decide +kernel)

end Agreement

end Seifenkiste
