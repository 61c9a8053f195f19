import Seifenkiste.Library.PrefixCode
import Seifenkiste.Message.Header

/-!
# Frames

A frame is what `sendMessage` puts on the connection for one message: the 37 bytes of the header
and the data behind them. The data may contain anything, the control segments included; the
length in the header is what tells where a frame ends.
-/

namespace Seifenkiste

open Memory LittleEndian PrefixCode

/-- The frame of a message. The destination of the header is overwritten as a whole
(`Outgoing.createTCPHeader_eq`), so zeros stand for its former content. -/
def MessageClass.frame (m : MessageClass) : Bytes :=
  (m.createTCPHeader (List.replicate tcpHeaderLength 0)).getD []
    ++ (m.getDataBufferPtr.getD []).take m.getDataLength.toNat

lemma Outgoing.frame_message (o : Outgoing) : o.message.frame = o.frame := by
  have hdata : o.data.take o.message.dataLength.toNat = o.data := by
    rw [← o.data_length, List.take_length]
  rw [MessageClass.frame, o.createTCPHeader_eq List.length_replicate, MessageClass.getDataBufferPtr,
    MessageClass.getDataLength, o.data_eq, Option.getD_some, Option.getD_some, hdata,
    Outgoing.frame]

/-- What `sendMessage` puts on the connection for a list of messages. -/
def Outgoing.stream (sent : List Outgoing) : Bytes := sent.flatMap fun o => o.message.frame

lemma Outgoing.stream_eq (sent : List Outgoing) :
    stream sent = sent.flatMap fun o => o.header ++ o.data := by
  simp only [stream, frame_message, frame]

/-! ### The header determines the message -/

/-- Messages with the same header have the same number of data bytes. -/
lemma Outgoing.length_data_of_header {o p : Outgoing} (h : o.header = p.header) :
    o.data.length = p.data.length := by
  have hfield (q : Outgoing) : slice q.header 18 4 = bytes q.message.dataLength :=
    q.slice_header (i := 7) rfl rfl rfl
  have hlength : o.message.dataLength = p.message.dataLength := by
    apply bytes_injective
    rw [← hfield, ← hfield, h]
  rw [o.data_length, p.data_length, hlength]

/-- Messages whose enum members hold no upper bytes agree when their headers and data do. -/
lemma Outgoing.message_eq_of_header {o p : Outgoing} (ho : o.message.WellFormed)
    (hp : p.message.WellFormed) (hheader : o.header = p.header) (hdata : o.data = p.data) :
    o.message = p.message := by
  -- the common header decodes to both messages in cleared memory
  have hcleared : MessageClass.cleared.state ≠ MessageStateDef.invalid.toUInt32 := by decide
  have hsmall : MessageClass.cleared.EnumsSmall := by decide
  have hdecode : o.message.metadata = p.message.metadata := by
    rw [← (Outgoing.metadata_header_iff ho hcleared fun _ => 0).mpr hsmall,
      ← (Outgoing.metadata_header_iff hp hcleared fun _ => 0).mpr hsmall, hheader]
  have hbuffer : o.message.dataBuffer = p.message.dataBuffer := by
    rw [o.data_eq, p.data_eq, hdata]
  have hstate : o.message.state = p.message.state := ho.state.trans hp.state.symm
  simp only [MessageClass.metadata, Metadata.mk.injEq] at hdecode
  obtain ⟨hs, hst, hid, hpl, hty, hse, hl, hsp⟩ := hdecode
  exact MessageClass.ext hstate hid hs hst hpl hty hse hl hbuffer hsp

/-! ### Unique decodability -/

/-- A message together with the way it was built. -/
abbrev BuiltMessage := { m : MessageClass // m.Built }

namespace BuiltMessage

/-- A built message as it goes out. -/
def outgoing (m : BuiltMessage) : Outgoing := m.property.wellFormed.outgoing

/-- A pixel of the camera. -/
def pixel (id : UInt32) : BuiltMessage := ⟨pixelMessage id, pixelMessage_built id⟩

/-- A camera message of zeros. -/
def camera (dataLength : UInt32) : BuiltMessage :=
  ⟨.new .rpi 0 .rpi .camera1 0 dataLength fun _ => 0, .new _ _ _ _ _ _ _⟩

lemma frame_eq (m : BuiltMessage) : m.val.frame = m.outgoing.header ++ m.outgoing.data :=
  m.outgoing.frame_message

lemma eq_of_header {m n : BuiltMessage} (hheader : m.outgoing.header = n.outgoing.header)
    (hdata : m.outgoing.data = n.outgoing.data) : m = n :=
  Subtype.ext <|
    Outgoing.message_eq_of_header m.property.wellFormed n.property.wellFormed hheader hdata

theorem selfDelimiting_frame : SelfDelimiting fun m : BuiltMessage => m.val.frame := by
  have hpair : SelfDelimiting fun m : BuiltMessage => m.outgoing.header ++ m.outgoing.data :=
    selfDelimiting_of_header tcpHeaderLength (fun m => m.outgoing.length_header)
      (fun _ _ => Outgoing.length_data_of_header) (fun _ _ => eq_of_header)
  simpa only [frame_eq] using hpair

lemma frame_ne_nil (m : BuiltMessage) : m.val.frame ≠ [] := by
  rw [frame_eq]
  intro h
  have hlen := m.outgoing.length_header
  rw [(List.append_eq_nil_iff.mp h).1] at hlen
  exact absurd hlen (by decide)

/-- The frames of a list of messages back to back. -/
def stream (l : List BuiltMessage) : Bytes := l.flatMap fun m => m.val.frame

end BuiltMessage

/-- A camera message of zeros as it goes out. -/
def Outgoing.camera (dataLength : UInt32) : Outgoing := (BuiltMessage.camera dataLength).outgoing

open BuiltMessage in
/-- A stream of frames that begins another stream of frames comes from a prefix of the other's
messages, and equal streams come from equal lists. -/
theorem frames_uniquely_decodable (l₁ l₂ : List BuiltMessage) :
    (stream l₁ <+: stream l₂ → l₁ <+: l₂) ∧ (stream l₁ = stream l₂ → l₁ = l₂) := by
  have hdecode (k₁ k₂ : List BuiltMessage) (h : stream k₁ <+: stream k₂) : k₁ <+: k₂ :=
    selfDelimiting_frame.prefix_of_flatMap frame_ne_nil k₁ k₂ h
  refine ⟨hdecode l₁ l₂, ?_⟩
  intro heq
  have hinitial : l₁ <+: l₂ := hdecode l₁ l₂ (by rw [heq])
  have hle : l₂.length ≤ l₁.length := (hdecode l₂ l₁ (by rw [heq])).length_le
  exact hinitial.eq_of_length_le hle

/-- The theorem at streams of one and of two messages. -/
theorem frames_of_one_and_two :
    [BuiltMessage.pixel 1] <+: [BuiltMessage.pixel 1, BuiltMessage.pixel 2] :=
  (frames_uniquely_decodable [.pixel 1] [.pixel 1, .pixel 2]).1 (by decide +kernel)

end Seifenkiste
