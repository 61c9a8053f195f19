import Seifenkiste.Defs
import Seifenkiste.Library.Memory

/-!
# The message class

A message object as its memory holds it: every member is a stored word, and a pointer member is
`none` for NULL or the bytes that lie behind it. Both constructors, the setters and getters and
the TCP header are here; the header constructor takes the former content of the memory it builds
the object in, since it assigns some members in one branch only.
-/

namespace Seifenkiste

open Memory LittleEndian

inductive MessageStateDef where
  | initialized
  | complete
  | invalid
  deriving DecidableEq, Repr

/-- The stored value of an enumerator. -/
def MessageStateDef.toUInt32 : MessageStateDef → UInt32
  | .initialized => 0
  | .complete    => 1
  | .invalid     => 2

@[ext]
structure MessageClass where
  state : UInt32
  messageId : UInt32
  sender : UInt32
  senderTime : UInt32
  sensorPlatform : UInt32
  sensorType : UInt32
  sensorTime : UInt32
  dataLength : UInt32
  dataBuffer : Option Bytes
  specialParamBuffer : Option Bytes
  deriving DecidableEq, Repr

namespace MessageClass

/-- Memory that has not been used. -/
def cleared : MessageClass where
  state := 0
  messageId := 0
  sender := 0
  senderTime := 0
  sensorPlatform := 0
  sensorType := 0
  sensorTime := 0
  dataLength := 0
  dataBuffer := none
  specialParamBuffer := none

/-- The constructor from message parameters. It assigns every member; the data buffer is
allocated but not filled. -/
def new (sender : SenderTypeDef) (senderTime : UInt32) (sensorPlatform : SenderTypeDef)
    (sensorType : SensorTypeDef) (sensorTime dataLength : UInt32) (heap : Nat → UInt8) :
    MessageClass where
  state := MessageStateDef.initialized.toUInt32
  messageId := 0
  sender := sender.toUInt32
  senderTime := senderTime
  sensorPlatform := sensorPlatform.toUInt32
  sensorType := sensorType.toUInt32
  sensorTime := sensorTime
  dataLength := dataLength
  dataBuffer := some (malloc heap dataLength.toNat)
  specialParamBuffer := some (List.replicate specialParamsBufferLength 0)

/-- The first part of the header constructor: a control segment that does not match assigns
`state`, and nothing else does. -/
def validateControlSegments (m : MessageClass) (headerMessage : Bytes) : MessageClass :=
  let startMatch := slice headerMessage 0 3 = conSegStart
  let endMatch := slice headerMessage (tcpHeaderLength - 3) 3 = conSegEnd
  let m := if startMatch then m else { m with state := MessageStateDef.invalid.toUInt32 }
  if endMatch then m else { m with state := MessageStateDef.invalid.toUInt32 }

/-- The constructor from raw TCP header data, in the memory that held `memory` before: `state`
is tested without having been assigned when both segments match. -/
def ofHeaderMessage (memory : MessageClass) (heap : Nat → UInt8) (headerMessage : Bytes) :
    MessageClass :=
  let m := memory.validateControlSegments headerMessage
  if m.state = MessageStateDef.invalid.toUInt32 then m
  else
    let length := store m.dataLength (slice headerMessage 18 4)
    { state := MessageStateDef.initialized.toUInt32
      -- the enum members are four bytes wide, but only one byte is copied into each
      sender := store m.sender (slice headerMessage 3 1)
      senderTime := store m.senderTime (slice headerMessage 4 4)
      messageId := store m.messageId (slice headerMessage 8 4)
      sensorPlatform := store m.sensorPlatform (slice headerMessage 12 1)
      sensorType := store m.sensorType (slice headerMessage 13 1)
      sensorTime := store m.sensorTime (slice headerMessage 14 4)
      dataLength := length
      dataBuffer := some (malloc heap length.toNat)
      specialParamBuffer := some (memcpy (malloc heap specialParamsBufferLength) 0
        (slice headerMessage 22 specialParamsBufferLength)) }

/-- Fill a TCP header from the message parameters, `none` when the parameters are to be copied
from a NULL pointer. -/
def createTCPHeader (m : MessageClass) (headerBuffer : Bytes) : Option Bytes :=
  m.specialParamBuffer.map fun specialParamBuffer =>
    let buffer := memcpy headerBuffer 0 conSegStart
    let buffer := memcpy buffer 3 (slice (bytes m.sender) 0 1)
    let buffer := memcpy buffer 4 (bytes m.senderTime)
    let buffer := memcpy buffer 8 (bytes m.messageId)
    let buffer := memcpy buffer 12 (slice (bytes m.sensorPlatform) 0 1)
    let buffer := memcpy buffer 13 (slice (bytes m.sensorType) 0 1)
    let buffer := memcpy buffer 14 (bytes m.sensorTime)
    let buffer := memcpy buffer 18 (bytes m.dataLength)
    let buffer := memcpy buffer 22 (slice specialParamBuffer 0 specialParamsBufferLength)
    memcpy buffer 34 conSegEnd

def setSenderTime (m : MessageClass) (t : UInt32) : MessageClass := { m with senderTime := t }

def setId (m : MessageClass) (id : UInt32) : MessageClass := { m with messageId := id }

/-- The result and the message afterwards, `none` when the copy leaves one of the two buffers.
A negative length passes the check and is then a huge `size_t`. A message without a block has
nothing to copy to, not even no bytes; `Placed.call` lets these pass. -/
def setSpecialParams (m : MessageClass) (paramBuffer : Bytes) (length : Int) :
    Option (Int × MessageClass) :=
  if length > specialParamsBufferLength then some (-1, m)
  else
    let size := (length % 2 ^ 64).toNat
    match m.specialParamBuffer with
    | none => none
    | some block =>
      if size ≤ block.length ∧ size ≤ paramBuffer.length then
        some (0, { m with specialParamBuffer := some (memcpy block 0 (paramBuffer.take size)) })
      else none

def getId (m : MessageClass) : UInt32 := m.messageId

def getState (m : MessageClass) : UInt32 := m.state

def getDataLength (m : MessageClass) : UInt32 := m.dataLength

def getDataBufferPtr (m : MessageClass) : Option Bytes := m.dataBuffer

/-- The three integers of the special parameters, `none` for the result -1, which leaves the
caller's variables as they were. -/
def extractSpecialParamBuffer (m : MessageClass) : Option (UInt32 × UInt32 × UInt32) :=
  m.specialParamBuffer.map fun specialParamBuffer =>
    (word (slice specialParamBuffer 0 4), word (slice specialParamBuffer 4 4),
      word (slice specialParamBuffer 8 4))

/-- The caller's copy of the data into the buffer that `getDataBufferPtr` names. -/
def fillDataBuffer (m : MessageClass) (data : Bytes) : MessageClass :=
  { m with dataBuffer := m.dataBuffer.map fun block => memcpy block 0 data }

end MessageClass

/-! ### Acceptance of a header -/

/-- Both control segments of a header are in place. -/
def HasControlSegments (header : Bytes) : Prop :=
  slice header 0 3 = conSegStart ∧ slice header 34 3 = conSegEnd

instance (header : Bytes) : Decidable (HasControlSegments header) :=
  inferInstanceAs (Decidable (_ ∧ _))

namespace MessageClass

/-- The constructor's own test: the segments match, and the memory does not hold the value
`invalid` in the member that is tested before it is assigned. -/
def Accepts (memory : MessageClass) (header : Bytes) : Prop :=
  HasControlSegments header ∧ memory.state ≠ MessageStateDef.invalid.toUInt32

instance (memory : MessageClass) (header : Bytes) : Decidable (memory.Accepts header) :=
  inferInstanceAs (Decidable (_ ∧ _))

lemma validateControlSegments_of_has {header : Bytes} (h : HasControlSegments header)
    (m : MessageClass) : m.validateControlSegments header = m := by
  obtain ⟨hs, he⟩ := h
  simp only [validateControlSegments, tcpHeaderLength, Nat.reduceSub, hs, he, if_true]

lemma validateControlSegments_of_not_has {header : Bytes} (h : ¬ HasControlSegments header)
    (m : MessageClass) :
    m.validateControlSegments header
      = { m with state := MessageStateDef.invalid.toUInt32 } := by
  simp only [validateControlSegments, tcpHeaderLength, Nat.reduceSub]
  by_cases he : slice header 34 3 = conSegEnd
  · have hs : slice header 0 3 ≠ conSegStart := fun hs => h ⟨hs, he⟩
    simp only [hs, he, if_true, if_false]
  · split_ifs <;> rfl

/-- A rejected header leaves every member but `state` as the memory held it. -/
lemma ofHeaderMessage_of_not_accepts {memory : MessageClass} {header : Bytes}
    (h : ¬ memory.Accepts header) (heap : Nat → UInt8) :
    ofHeaderMessage memory heap header
      = { memory with state := MessageStateDef.invalid.toUInt32 } := by
  by_cases hc : HasControlSegments header
  · have hst : memory.state = MessageStateDef.invalid.toUInt32 := by
      by_contra hst
      exact h ⟨hc, hst⟩
    simp only [ofHeaderMessage, validateControlSegments_of_has hc, hst, if_true]
    rw [← hst]
  · simp only [ofHeaderMessage, validateControlSegments_of_not_has hc, if_true]

/-- An accepted header, 37 bytes long, gives every field of the message but the upper bytes of
the enum members. -/
lemma ofHeaderMessage_of_accepts {memory : MessageClass} {header : Bytes}
    (h : memory.Accepts header) (hlen : header.length = tcpHeaderLength) (heap : Nat → UInt8) :
    ofHeaderMessage memory heap header =
      { state := MessageStateDef.initialized.toUInt32
        sender := store memory.sender (slice header 3 1)
        senderTime := word (slice header 4 4)
        messageId := word (slice header 8 4)
        sensorPlatform := store memory.sensorPlatform (slice header 12 1)
        sensorType := store memory.sensorType (slice header 13 1)
        sensorTime := word (slice header 14 4)
        dataLength := word (slice header 18 4)
        dataBuffer := some (malloc heap (word (slice header 18 4)).toNat)
        specialParamBuffer := some (slice header 22 specialParamsBufferLength) } := by
  obtain ⟨hc, hst⟩ := h
  replace hlen : header.length = 37 := hlen
  have hword (x : UInt32) {off : Nat} (hoff : off + 4 ≤ header.length) :
      store x (slice header off 4) = word (slice header off 4) :=
    store_of_length_eq_four x (length_slice hoff)
  have hparams : memcpy (malloc heap specialParamsBufferLength) 0
      (slice header 22 specialParamsBufferLength) = slice header 22 specialParamsBufferLength := by
    apply memcpy_zero_of_length_eq
    rw [length_slice (show 22 + 12 ≤ header.length by omega), length_malloc]
  simp only [ofHeaderMessage, validateControlSegments_of_has hc, hst, if_false, hparams]
  rw [hword _ (by omega), hword _ (by omega), hword _ (by omega), hword _ (by omega)]

lemma state_ofHeaderMessage (memory : MessageClass) (heap : Nat → UInt8) {header : Bytes}
    (hlen : header.length = tcpHeaderLength) :
    (ofHeaderMessage memory heap header).state
      = if memory.Accepts header then MessageStateDef.initialized.toUInt32
        else MessageStateDef.invalid.toUInt32 := by
  split_ifs with h
  · rw [ofHeaderMessage_of_accepts h hlen]
  · rw [ofHeaderMessage_of_not_accepts h]

/-- The state of the new message tells whether the header was accepted. -/
lemma accepts_iff {memory : MessageClass} {heap : Nat → UInt8} {header : Bytes}
    (hlen : header.length = tcpHeaderLength) :
    (ofHeaderMessage memory heap header).getState = MessageStateDef.initialized.toUInt32
      ↔ memory.Accepts header := by
  rw [getState, state_ofHeaderMessage memory heap hlen]
  constructor
  · intro h
    by_contra hnot
    rw [if_neg hnot] at h
    exact absurd h (by decide)
  · intro h
    rw [if_pos h]

end MessageClass
end Seifenkiste
