import Seifenkiste.Client.Basic
import Seifenkiste.Server.Protocol

/-!
# The test image

`send_test_image` has a send path of its own: it sends 25 bytes of the header, the length that a
header once had, and the image behind them. The server cuts the stream by the present length.
-/

namespace Seifenkiste

open Memory

/-- The message of a test image; the times are two readings of the clock, narrowed to 32 bits. -/
def testMessage (currentTime timestamp : UInt64) (dataLength : UInt32) (heap : Nat → UInt8) :
    MessageClass :=
  let sensorTime := timestamp - 1000
  let message := MessageClass.new .rpi currentTime.toUInt32 .rpi .camera1 sensorTime.toUInt32
    dataLength heap
  message.setId 256

namespace TcpClient

/-- The header buffer has 26 bytes; `behind` is the memory behind them, into which the header is
written as well. -/
def sendTestImage (client : TcpClient) (image : Bytes) (imagelen currentTime timestamp : UInt64)
    (heap : Nat → UInt8) (behind : Bytes) (writes : Writes) : Option Sent :=
  let dataLength := imagelen.toUInt32
  let message := testMessage currentTime timestamp dataLength heap
  let header := List.replicate 26 0 ++ behind
  (message.createTCPHeader header).map fun header =>
    let sendResult := client.send header 25 writes.header
    if sendResult.result < 0 then { sendResult with result := -2 }
    else
      let sendResult' := sendResult.client.send image dataLength writes.data
      { result := if sendResult'.result < 0 then -2 else 0
        client := sendResult'.client
        placed := sendResult.placed ++ sendResult'.placed }

section TestImage

variable {client : TcpClient} {image : Bytes} {heap : Nat → UInt8}

/-- The message that `sendMessage` would need: the same metadata, and the image as its data. -/
def imageMessage (image : Bytes) (currentTime timestamp : UInt64) (heap : Nat → UInt8) :
    MessageClass :=
  (testMessage currentTime timestamp (UInt32.ofNat image.length) heap).fillDataBuffer image

lemma imageMessage_built (hlen : image.length < 2 ^ 32) (currentTime timestamp : UInt64)
    (heap : Nat → UInt8) : (imageMessage image currentTime timestamp heap).Built := by
  refine .fillDataBuffer (.setId (.new _ _ _ _ _ _ _) _) image ?_
  exact (UInt32.toNat_ofNat_of_lt' hlen).symm

/-- With two full writes the test image is on the connection behind 25 bytes of its header. -/
lemma sendTestImage_full (hready : client.tcpState = .connectionReady)
    (hlen : image.length < 2 ^ 32) {currentTime timestamp : UInt64} {o : Outgoing}
    (ho : o.message = imageMessage image currentTime timestamp heap) (behind : Bytes) :
    ∃ result, client.sendTestImage image (UInt64.ofNat image.length) currentTime timestamp heap
        behind ⟨25, image.length⟩ = some ⟨result, client, o.header.take 25 ++ image⟩ := by
  have hnarrow : (UInt64.ofNat image.length).toUInt32 = UInt32.ofNat image.length :=
    UInt64.toUInt32_ofNat' _
  have hcreate (headerBuffer : Bytes) :
      (testMessage currentTime timestamp (UInt32.ofNat image.length) heap).createTCPHeader
        headerBuffer = some (o.header ++ headerBuffer.drop tcpHeaderLength) := by
    rw [← o.createTCPHeader_append, ho]
    rfl
  have hheader (rest : Bytes) : (o.header ++ rest).take (25 : UInt32).toNat = o.header.take 25 :=
    List.take_append_of_le_length (by rw [o.length_header]; decide)
  have himage : image.take (UInt32.ofNat image.length).toNat = image := by
    rw [UInt32.toNat_ofNat_of_lt' hlen, List.take_length]
  have hwritten : ¬ toInt 25 < 0 := by decide
  have htwice : (o.header.take 25).take (25 : Int).toNat = o.header.take 25 := by
    rw [List.take_take]
    rfl
  simp only [sendTestImage, hnarrow, hcreate, Option.map_some, send, hready, ne_eq, not_true,
    if_false, hheader, himage, hwritten, htwice, Int.toNat_natCast, List.take_length]
  exact ⟨_, rfl⟩

lemma length_testImage (o : Outgoing) (image : Bytes) :
    (o.header.take 25 ++ image).length < tcpHeaderLength + image.length := by
  have hshort : (o.header.take 25).length ≤ 25 := List.length_take_le _ _
  rw [List.length_append]
  exact Nat.add_lt_add_right (hshort.trans_lt (by decide)) _

/-- The two send paths put different bytes on the connection for every image: that of the test
image is no header with the image behind it, and no server gets the image back from it. -/
theorem sendTestImage_ne_sendMessage (hready : client.tcpState = .connectionReady)
    (hlen : image.length < 2 ^ 32) (currentTime timestamp : UInt64) (heap heap' : Nat → UInt8)
    (behind : Bytes) :
    let message := imageMessage image currentTime timestamp heap
    ∃ sent sent', client.sendTestImage image (UInt64.ofNat image.length) currentTime timestamp heap
        behind ⟨25, image.length⟩ = some sent ∧
      client.sendMessage message heap' ⟨tcpHeaderLength, image.length⟩ = some sent' ∧
      sent'.placed = message.frame ∧ sent.placed ≠ sent'.placed ∧
      (∀ header, header.length = tcpHeaderLength → sent.placed ≠ header ++ image) ∧
      ∀ memory schedule header,
        (header, image) ∉ Trace.processed (serve memory sent.placed schedule).trace := by
  intro message
  let o := (imageMessage_built hlen currentTime timestamp heap).wellFormed.outgoing
  obtain ⟨result, hsent⟩ := sendTestImage_full hready hlen (o := o) rfl behind
  have hlength : o.message.dataLength.toNat = image.length := UInt32.toNat_ofNat_of_lt' hlen
  have hdata : o.data = image := by
    apply memcpy_zero_of_length_eq
    rw [length_malloc]
    exact hlength.symm
  have hframe : message.frame = o.header ++ image :=
    o.frame_message.trans (congrArg (o.header ++ ·) hdata)
  have htaken : o.header.take tcpHeaderLength ++ o.data.take image.length = message.frame := by
    rw [hframe, ← o.length_header, List.take_length, hdata, List.take_length]
  have hwritten : Written tcpHeaderLength (Writes.mk tcpHeaderLength image.length).header :=
    ⟨(by decide : (-1 : Int) ≤ tcpHeaderLength), le_rfl⟩
  have hmessage := client.sendMessage_eq o heap' hwritten
  simp only [hready, Int.natCast_nonneg, and_self, if_true, Int.toNat_natCast, htaken] at hmessage
  have hshort := length_testImage o image
  have hdiffers {header : Bytes} (h : header.length = tcpHeaderLength) :
      o.header.take 25 ++ image ≠ header ++ image := by
    intro hsame
    rw [hsame, List.length_append, h] at hshort
    exact lt_irrefl _ hshort
  refine ⟨_, _, hsent, hmessage, rfl, ?_, fun header h => hdiffers h, ?_⟩
  · show o.header.take 25 ++ image ≠ message.frame
    rw [hframe]
    exact hdiffers o.length_header
  · intro memory schedule header hprocessed
    exact hshort.not_ge (Server.length_of_processed hprocessed)

/-- The theorem at an image of one byte. -/
theorem sendTestImage_one : ∃ sent,
    connected.sendTestImage [7] 1 0 0 (fun _ => 0) [] ⟨25, 1⟩ = some sent ∧
    ∀ memory schedule header,
      (header, [7]) ∉ Trace.processed (serve memory sent.placed schedule).trace := by
  obtain ⟨sent, -, hsent, -, -, -, -, hserve⟩ :=
    @sendTestImage_ne_sendMessage connected [7] rfl (by decide) 0 0 (fun _ => 0) (fun _ => 0) []
  exact ⟨sent, hsent, hserve⟩

/-- The bytes of both paths for that image, and what the server makes of the first: it exits at
the short header. -/
theorem sendTestImage_short :
    (connected.sendTestImage [7] 1 0 0 (fun _ => 0) [] ⟨25, 1⟩).map Sent.placed
      ≠ (connected.sendMessage (imageMessage [7] 0 0 fun _ => 0) (fun _ => 0) ⟨37, 1⟩).map
        Sent.placed ∧
    (connected.sendTestImage [7] 1 0 0 (fun _ => 0) [] ⟨25, 1⟩).map
        (fun sent => (serve (fun _ => .cleared) sent.placed [26]).stop)
      = some (.exit "ERROR message header too short") := by
  refine ⟨?_, ?_⟩
  all_goals decide +kernel

end TestImage

end TcpClient
end Seifenkiste
