import Seifenkiste.Client.Camera
import Seifenkiste.Server.BodyRead

/-!
# An image on its way

An image of the camera from the client to the server: packed into a message, sent as a header and
data, and unpacked again by the header constructor and the body read.
-/

namespace Seifenkiste

open Memory LittleEndian

variable {messageId sensorTime rows cols depth : UInt32} {image : Bytes} {heap heap' : Nat → UInt8}
  {memory : MessageClass} {m : MessageClass}

/-- The header constructor finds in the header of an image what the camera put into it. -/
lemma received_of_createMessage
    (h : createMessage messageId sensorTime rows cols depth image heap = some m)
    {headerBuffer header : Bytes} (hbuf : headerBuffer.length = tcpHeaderLength)
    (hcreate : m.createTCPHeader headerBuffer = some header)
    (haccept : (MessageClass.ofHeaderMessage memory heap' header).getState
      = MessageStateDef.initialized.toUInt32) :
    let received := MessageClass.ofHeaderMessage memory heap' header
    received.messageId = messageId ∧ received.sensorTime = sensorTime ∧
      received.dataLength = rows * cols * depth ∧
      received.dataBuffer = some (malloc heap' (rows * cols * depth).toNat) ∧
      received.specialParamBuffer = some (bytes rows ++ (bytes cols ++ bytes depth)) := by
  have heq := (createMessage_eq (length_of_createMessage h)).symm.trans h
  let o := (createMessage_built h).wellFormed.outgoing
  obtain rfl : o.header = header := o.header_eq_of_create hbuf hcreate
  have hmem := ((MessageClass.accepts_iff o.length_header).mp haccept).2
  obtain rfl := Option.some.inj heq
  rw [o.ofHeaderMessage_header hmem]
  exact ⟨rfl, rfl, rfl, rfl, rfl⟩

/-- An image of fewer than 2 ^ 32 bytes makes a message, and from its header and its data the
server gets back the dimensions, the id, the length and, once the body read has returned, the
image; an image without bytes has nothing to be read. -/
theorem image_received
    (hsmall : rows.toNat * cols.toNat * depth.toNat < 2 ^ 32)
    (himage : image.length = rows.toNat * cols.toNat * depth.toNat)
    {headerBuffer : Bytes} (hbuf : headerBuffer.length = tcpHeaderLength) :
    ∃ m header, createMessage messageId sensorTime rows cols depth image heap = some m ∧
      m.createTCPHeader headerBuffer = some header ∧
      ∀ memory heap', (MessageClass.ofHeaderMessage memory heap' header).getState
          = MessageStateDef.initialized.toUInt32 →
        let received := MessageClass.ofHeaderMessage memory heap' header
        received.extractSpecialParamBuffer = some (rows, cols, depth) ∧
        received.getId = messageId ∧ received.getDataLength.toNat = image.length ∧
        (image = [] → received.getDataBufferPtr = some image) ∧
        ∀ rest schedule trace result buffer w,
          readTCPData (received.getDataBufferPtr.getD []) received.getDataLength
              ⟨m.getDataBufferPtr.getD [] ++ rest, schedule, trace⟩ = .ok (result, buffer) w →
            buffer.take received.getDataLength.toNat = image := by
  have hlength : (rows * cols * depth).toNat = image.length := by
    rw [toNat_mul_mul, Nat.mod_eq_of_lt hsmall, himage]
  have hcreated : createMessage messageId sensorTime rows cols depth image heap = some _ :=
    createMessage_eq hlength.le
  have hbuilt := createMessage_built hcreated
  let o := hbuilt.wellFormed.outgoing
  refine ⟨o.message, o.header, hcreated, o.createTCPHeader_eq hbuf, ?_⟩
  intro memory heap' haccept received
  obtain ⟨hid, -, hdataLength, hdataBuffer, hparams⟩ :=
    received_of_createMessage hcreated hbuf (o.createTCPHeader_eq hbuf) haccept
  have hreceived : received.getDataLength.toNat = image.length := by
    rw [MessageClass.getDataLength, hdataLength, hlength]
  obtain ⟨hrows, hcols, hdepth⟩ := slice_dimensions rows cols depth
  refine ⟨?_, hid, hreceived, ?_, ?_⟩
  · rw [MessageClass.extractSpecialParamBuffer, hparams, Option.map_some, hrows, hcols, hdepth,
      word_bytes, word_bytes, word_bytes]
  · intro hempty
    rw [MessageClass.getDataBufferPtr, hdataBuffer, hlength, hempty]
    rfl
  · intro rest schedule trace result buffer w hread
    have htaken := Server.take_of_readTCPData_ok hread
    have hsent : (o.message.getDataBufferPtr.getD []) = image := by
      show image.take (rows * cols * depth).toNat = image
      rw [hlength, List.take_length]
    rw [htaken, hreceived, hsent, List.take_left]

/-- The theorem at a single pixel, in memory that has not been used, with a body read that gets its
three bytes in two parts. -/
theorem pixel_received : ∃ m header,
    createMessage 5 9 1 1 3 [1, 2, 3] (fun _ => 0) = some m ∧
    m.createTCPHeader (List.replicate tcpHeaderLength 0) = some header ∧
    let received := MessageClass.ofHeaderMessage .cleared (fun _ => 0) header
    received.extractSpecialParamBuffer = some (1, 1, 3) ∧
      ∃ result buffer w,
        readTCPData (received.getDataBufferPtr.getD []) received.getDataLength
            ⟨m.getDataBufferPtr.getD [] ++ [67], [2, 1], []⟩ = .ok (result, buffer) w ∧
          buffer.take received.getDataLength.toNat = [1, 2, 3] := by
  have hbuf : (List.replicate tcpHeaderLength (0 : UInt8)).length = tcpHeaderLength :=
    List.length_replicate
  obtain ⟨m, header, hm, hheader, hreceived⟩ :=
    @image_received 5 9 1 1 3 [1, 2, 3] (fun _ => 0) (by decide) (by decide) _ hbuf
  obtain rfl := Option.some.inj ((createMessage_eq (length_of_createMessage hm)).symm.trans hm)
  obtain rfl := Option.some.inj hheader
  obtain ⟨hdimensions, -, -, -, hdata⟩ := hreceived .cleared (fun _ => 0) (by decide +kernel)
  refine ⟨_, _, hm, rfl, hdimensions, _, _, _, rfl, ?_⟩
  exact hdata [67] [2, 1] [] _ _ _ rfl

end Seifenkiste
