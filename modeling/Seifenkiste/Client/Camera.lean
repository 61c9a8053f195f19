import Seifenkiste.Message.Frame
import Seifenkiste.Timestamp

/-!
# Messages of the camera

How the camera client makes a message of an image: the length is the number of elements times the
number of channels, and all three dimensions go into the special parameters. Its loop stamps every
frame and counts the images, which gives the messages their ids.
-/

namespace Seifenkiste

open Memory LittleEndian

/-- The message of an image, `none` when the image has fewer bytes than are copied. -/
def createMessage (messageId sensorTime rows cols depth : UInt32) (imageDataBuffer : Bytes)
    (heap : Nat → UInt8) : Option MessageClass :=
  let dataLength := rows * cols * depth
  let message := MessageClass.new .rpi 0 .rpi .camera1 sensorTime dataLength heap
  let message := message.setId messageId
  if imageDataBuffer.length < dataLength.toNat then none
  else
    let message := message.fillDataBuffer (imageDataBuffer.take dataLength.toNat)
    let paramBuffer := malloc heap specialParamsBufferLength
    let paramBuffer := memcpy paramBuffer 0 (bytes rows)
    let paramBuffer := memcpy paramBuffer 4 (bytes cols)
    let paramBuffer := memcpy paramBuffer 8 (bytes depth)
    (message.setSpecialParams paramBuffer specialParamsBufferLength).map Prod.snd

variable {messageId sensorTime rows cols depth : UInt32} {image : Bytes} {heap : Nat → UInt8}

lemma length_dimensions (rows cols depth : UInt32) :
    (bytes rows ++ (bytes cols ++ bytes depth)).length = specialParamsBufferLength := by
  simp [specialParamsBufferLength]

/-- The three dimensions are found where they were put. -/
lemma slice_dimensions (rows cols depth : UInt32) :
    slice (bytes rows ++ (bytes cols ++ bytes depth)) 0 4 = bytes rows ∧
      slice (bytes rows ++ (bytes cols ++ bytes depth)) 4 4 = bytes cols ∧
      slice (bytes rows ++ (bytes cols ++ bytes depth)) 8 4 = bytes depth := by
  refine ⟨?_, ?_, ?_⟩
  · rw [slice_append_left (by simp), slice_eq_self (by simp)]
  · rw [slice_append_right (by simp), slice_append_left (by simp), length_bytes,
      slice_eq_self (by simp)]
  · rw [slice_append_right (by simp), slice_append_right (by simp), length_bytes, length_bytes,
      slice_eq_self (by simp)]

/-- The length of an image wraps around at 2 ^ 32. -/
lemma toNat_mul_mul (a b c : UInt32) :
    (a * b * c).toNat = a.toNat * b.toNat * c.toNat % 2 ^ 32 := by
  rw [UInt32.toNat_mul, UInt32.toNat_mul, Nat.mod_mul_mod]

/-- An image that is large enough becomes a message with its dimensions as parameters. -/
theorem createMessage_eq (h : (rows * cols * depth).toNat ≤ image.length) :
    createMessage messageId sensorTime rows cols depth image heap = some
      { state := MessageStateDef.initialized.toUInt32
        messageId := messageId
        sender := SenderTypeDef.rpi.toUInt32
        senderTime := 0
        sensorPlatform := SenderTypeDef.rpi.toUInt32
        sensorType := SensorTypeDef.camera1.toUInt32
        sensorTime := sensorTime
        dataLength := rows * cols * depth
        dataBuffer := some (image.take (rows * cols * depth).toNat)
        specialParamBuffer := some (bytes rows ++ (bytes cols ++ bytes depth)) } := by
  have hlen := length_dimensions rows cols depth
  have hparams : memcpy (memcpy (memcpy (malloc heap specialParamsBufferLength) 0 (bytes rows)) 4
      (bytes cols)) 8 (bytes depth) = bytes rows ++ (bytes cols ++ bytes depth) := by
    rw [memcpy_zero_memcpy (length_bytes rows).symm, memcpy_zero_memcpy (by simp),
      List.append_assoc, memcpy_zero_of_length_eq]
    rw [hlen, length_malloc]
  have hdata : memcpy (malloc heap (rows * cols * depth).toNat) 0
      (image.take (rows * cols * depth).toNat) = image.take (rows * cols * depth).toNat := by
    apply memcpy_zero_of_length_eq
    rw [List.length_take_of_le h, length_malloc]
  have hcopy : memcpy (List.replicate specialParamsBufferLength 0) 0
      ((bytes rows ++ (bytes cols ++ bytes depth)).take 12)
      = bytes rows ++ (bytes cols ++ bytes depth) := by
    rw [List.take_of_length_le hlen.le]
    apply memcpy_zero_of_length_eq
    rw [hlen, List.length_replicate]
  have hset (m : MessageClass)
      (hm : m.specialParamBuffer = some (List.replicate specialParamsBufferLength 0)) :
      m.setSpecialParams (bytes rows ++ (bytes cols ++ bytes depth)) specialParamsBufferLength
        = some (0, { m with
            specialParamBuffer := some (bytes rows ++ (bytes cols ++ bytes depth)) }) := by
    have hsize : (((specialParamsBufferLength : Nat) : Int) % 2 ^ 64).toNat = 12 := by decide
    simp only [MessageClass.setSpecialParams, gt_iff_lt, lt_irrefl, if_false, hm, hsize,
      List.length_replicate, hlen, le_refl, and_self, if_true, hcopy]
  simp only [createMessage, h.not_gt, if_false, hparams]
  rw [hset _ rfl]
  simp only [MessageClass.fillDataBuffer, MessageClass.setId, MessageClass.new, Option.map_some,
    hdata]

/-- The camera builds its messages through the constructor and the member functions. -/
theorem createMessage_built {m : MessageClass}
    (h : createMessage messageId sensorTime rows cols depth image heap = some m) : m.Built := by
  simp only [createMessage] at h
  split_ifs at h with hshort
  obtain ⟨⟨result, m'⟩, hparams, rfl⟩ := Option.map_eq_some_iff.mp h
  refine .setSpecialParams (.fillDataBuffer (.setId (.new _ _ _ _ _ _ _) _) _ ?_) hparams
  exact List.length_take_of_le (not_lt.mp hshort)

lemma length_of_createMessage {m : MessageClass}
    (h : createMessage messageId sensorTime rows cols depth image heap = some m) :
    (rows * cols * depth).toNat ≤ image.length := by
  simp only [createMessage] at h
  split_ifs at h with hshort
  exact not_lt.mp hshort

/-! ### The header of an image -/

def headerDataLength (header : Bytes) : UInt32 := word (slice header 18 4)

def headerRows (header : Bytes) : UInt32 := word (slice header 22 4)

def headerCols (header : Bytes) : UInt32 := word (slice header 26 4)

def headerDepth (header : Bytes) : UInt32 := word (slice header 30 4)

/-- The header of an image carries its dimensions, and their product as data length. -/
theorem headerFields_createMessage {m : MessageClass}
    (h : createMessage messageId sensorTime rows cols depth image heap = some m)
    {headerBuffer header : Bytes} (hbuf : headerBuffer.length = tcpHeaderLength)
    (hcreate : m.createTCPHeader headerBuffer = some header) :
    headerRows header = rows ∧ headerCols header = cols ∧ headerDepth header = depth ∧
      headerDataLength header = rows * cols * depth := by
  have heq := (createMessage_eq (length_of_createMessage h)).symm.trans h
  let o := (createMessage_built h).wellFormed.outgoing
  obtain rfl : o.header = header := o.header_eq_of_create hbuf hcreate
  obtain rfl := Option.some.inj heq
  have hparams : slice o.header 22 12 = bytes rows ++ (bytes cols ++ bytes depth) :=
    o.slice_header (i := 8) rfl rfl rfl
  have hlength : slice o.header 18 4 = bytes (rows * cols * depth) :=
    o.slice_header (i := 7) rfl rfl rfl
  have hfield (off : Nat) (hoff : off + 4 ≤ 12) :
      slice o.header (22 + off) 4 = slice (bytes rows ++ (bytes cols ++ bytes depth)) off 4 := by
    rw [← hparams, slice_slice hoff]
  obtain ⟨hrows, hcols, hdepth⟩ := slice_dimensions rows cols depth
  refine ⟨?_, ?_, ?_, ?_⟩
  · rw [headerRows, hfield 0 (by decide), hrows, word_bytes]
  · rw [headerCols, hfield 4 (by decide), hcols, word_bytes]
  · rw [headerDepth, hfield 8 (by decide), hdepth, word_bytes]
  · rw [headerDataLength, hlength, word_bytes]

/-! ### The camera loop -/

/-- A frame as `prep` uses it. -/
structure CameraFrame where
  rows : UInt32
  cols : UInt32
  channels : UInt32
  data : Bytes

/-- The message that `prep` sends. -/
def prep (currentTime imageCounter : UInt32) (frame : CameraFrame) (heap : Nat → UInt8) :
    Option MessageClass :=
  createMessage imageCounter currentTime frame.rows frame.cols frame.channels frame.data heap

/-- What an iteration of the loop finds: the frame, the time at which it is stamped, the heap, and
whether a key is pressed. -/
structure Capture where
  frame : CameraFrame
  time : Timeval
  heap : Nat → UInt8
  keyPressed : Bool

/-- The message of an iteration; `imageCounter` counts the image already. -/
def Capture.message (c : Capture) (imageCounter : UInt32) : Option MessageClass :=
  -- the stamp is narrowed to `time_format`
  let currentTime := (getTimestamp c.time).toUInt32
  prep currentTime imageCounter c.frame c.heap

/-- The messages of the loop, `none` when a frame has fewer bytes than are copied. -/
def cameraLoop : UInt32 → List Capture → Option (List MessageClass)
  | _, []                        => some []
  | imageCounter, c :: captures => do
    let imageCounter := imageCounter + 1
    let message ← c.message imageCounter
    if imageCounter > 1000 ∨ c.keyPressed then return [message]
    let messages ← cameraLoop imageCounter captures
    return message :: messages

/-- A frame with all its bytes becomes a message. -/
lemma isSome_message {c : Capture}
    (h : (c.frame.rows * c.frame.cols * c.frame.channels).toNat ≤ c.frame.data.length)
    (imageCounter : UInt32) : (c.message imageCounter).isSome := by
  simp only [Capture.message, prep, createMessage_eq h, Option.isSome_some]

lemma sensorTime_message {c : Capture} {imageCounter : UInt32} {m : MessageClass}
    (h : c.message imageCounter = some m) : m.sensorTime = (getTimestamp c.time).toUInt32 := by
  obtain rfl := Option.some.inj ((createMessage_eq (length_of_createMessage h)).symm.trans h)
  rfl

/-- The messages carry the stamps of the frames, one after the other. -/
lemma sensorTime_cameraLoop {imageCounter : UInt32} {captures : List Capture}
    {messages : List MessageClass} (h : cameraLoop imageCounter captures = some messages) :
    messages.map MessageClass.sensorTime
      <+: captures.map fun c => (getTimestamp c.time).toUInt32 := by
  induction captures generalizing imageCounter messages with
  | nil =>
    obtain rfl := Option.some.inj h
    exact List.prefix_rfl
  | cons c captures ih =>
    obtain ⟨message, hmessage, h⟩ := Option.bind_eq_some_iff.mp h
    have htime := sensorTime_message hmessage
    split_ifs at h with hlast
    · obtain rfl := Option.some.inj h
      rw [List.map_cons, List.map_cons, htime]
      exact (List.prefix_cons_inj _).mpr List.nil_prefix
    · obtain ⟨rest, hrest, h⟩ := Option.bind_eq_some_iff.mp h
      obtain rfl := Option.some.inj h
      rw [List.map_cons, List.map_cons, htime]
      exact (List.prefix_cons_inj _).mpr (ih hrest)

end Seifenkiste
