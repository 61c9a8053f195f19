import Seifenkiste.System.ImageTrip

/-!
# The order of the captures

The stamps of the camera's frames as the server reads them from the headers. They are in the order
of the captures as long as the 32 bits of a stamp do not wrap around between them.
-/

namespace Seifenkiste

/-- The way of a frame that was stamped at a given time: the message made of it, the header created
from the message, and the memory and the heap of a server that accepts this header. -/
structure Delivery (start : Timeval) where
  capture : Capture
  imageCounter : UInt32
  message : MessageClass
  headerBuffer : Bytes
  header : Bytes
  memory : MessageClass
  heap : Nat → UInt8
  time_eq : capture.time = start
  message_eq : capture.message imageCounter = some message
  length_headerBuffer : headerBuffer.length = tcpHeaderLength
  header_eq : message.createTCPHeader headerBuffer = some header
  accepted : (MessageClass.ofHeaderMessage memory heap header).getState
    = MessageStateDef.initialized.toUInt32

namespace Delivery

variable {s t : Timeval}

/-- The stamp that the header constructor reads back. -/
def sensorTime (d : Delivery t) : UInt32 :=
  (MessageClass.ofHeaderMessage d.memory d.heap d.header).sensorTime

/-- It is the stamp that was given to the frame. -/
lemma sensorTime_eq (d : Delivery t) : d.sensorTime = (getTimestamp t).toUInt32 := by
  obtain ⟨-, htime, -⟩ :=
    received_of_createMessage d.message_eq d.length_headerBuffer d.header_eq d.accepted
  rw [sensorTime, htime, d.time_eq]

/-- Two stamps are in the order of the captures exactly when the time in between, up to whole turns
of 2 ^ 32 milliseconds, does not wrap the first one around. For captures that are less than a turn
apart, this is so exactly when no turn ends between them. -/
theorem sensorTime_le_iff (h : s ≤ t) (d : Delivery s) (e : Delivery t) :
    (d.sensorTime ≤ e.sensorTime
      ↔ s.millis % 2 ^ 32 + (t.millis - s.millis) % 2 ^ 32 < 2 ^ 32) ∧
    (t.millis - s.millis < 2 ^ 32 →
      (d.sensorTime ≤ e.sensorTime ↔ s.millis / 2 ^ 32 = t.millis / 2 ^ 32)) := by
  rw [d.sensorTime_eq, e.sensorTime_eq]
  exact ⟨toUInt32_getTimestamp_le_iff h, toUInt32_getTimestamp_le_iff_of_lt h⟩

/-- Every frame with all its bytes can be delivered, to memory that has not been used. -/
def ofCapture (c : Capture)
    (h : (c.frame.rows * c.frame.cols * c.frame.channels).toNat ≤ c.frame.data.length) :
    Delivery c.time :=
  let message := (c.message 1).get (isSome_message h 1)
  have hmessage : c.message 1 = some message := (Option.some_get _).symm
  let o := (createMessage_built hmessage).wellFormed.outgoing
  { capture := c
    imageCounter := 1
    message := message
    headerBuffer := List.replicate tcpHeaderLength 0
    header := o.header
    memory := .cleared
    heap := fun _ => 0
    time_eq := rfl
    message_eq := hmessage
    length_headerBuffer := List.length_replicate
    header_eq := o.createTCPHeader_eq List.length_replicate
    accepted := (MessageClass.accepts_iff o.length_header).mpr
      ⟨o.hasControlSegments_header, by decide⟩ }

/-- A frame of one pixel. -/
def pixelDelivery (t : Timeval) : Delivery t :=
  ofCapture ⟨⟨1, 1, 3, [1, 2, 3]⟩, t, fun _ => 0, false⟩
    (show (1 * 1 * 3 : UInt32).toNat ≤ 3 by decide)

/-- The last millisecond of a turn, and the first one of the next, in November 2018. -/
def turnEnds : Timeval := ⟨1541893259, 263000, by decide⟩

def turnBegins : Timeval := ⟨1541893259, 264000, by decide⟩

/-- The theorem at two frames in the last second of a turn. -/
theorem sensorTime_le_before : (pixelDelivery ⟨1541893258, 300000, by decide⟩).sensorTime
    ≤ (pixelDelivery turnEnds).sensorTime :=
  ((sensorTime_le_iff (by decide) _ _).2 (by decide)).mpr (by decide)

/-- A frame that is stamped a millisecond later has the stamp 0. -/
theorem sensorTime_not_le_after :
    turnEnds ≤ turnBegins ∧
    ¬ (pixelDelivery turnEnds).sensorTime ≤ (pixelDelivery turnBegins).sensorTime := by
  refine ⟨by decide, ?_⟩
  rw [sensorTime_eq, sensorTime_eq, toUInt32_getTimestamp_le]
  decide

end Delivery

/-- In a run of the camera loop within one turn, the messages carry their stamps in order, if the
clock does not go back. -/
theorem cameraLoop_inOrder {captures : List Capture} {messages : List MessageClass} {turn : Nat}
    (h : cameraLoop 0 captures = some messages)
    (hclock : captures.Pairwise fun c d => c.time ≤ d.time)
    (hturn : ∀ c ∈ captures, c.time.millis / 2 ^ 32 = turn) :
    (messages.map MessageClass.sensorTime).Pairwise (· ≤ ·) := by
  have hstamps : (captures.map fun c => (getTimestamp c.time).toUInt32).Pairwise (· ≤ ·) := by
    rw [List.pairwise_map]
    apply hclock.imp_of_mem
    intro c d hc hd hle
    rw [toUInt32_getTimestamp_le]
    exact Wraparound.mod_le_mod_of_div_eq (Timeval.millis_le_millis hle)
      ((hturn c hc).trans (hturn d hd).symm)
  exact hstamps.sublist (sensorTime_cameraLoop h).sublist

end Seifenkiste
