import Seifenkiste.Client.Camera
import Seifenkiste.Server.Acknowledgement

/-!
# The displayed image

The server shows the data of every message as an image of three bytes per pixel. The dimensions
come from the special parameters and the memory from the length of the message; the third
dimension, which tells how many bytes a pixel really has, is read and then not used.
-/

namespace Seifenkiste

open Memory LittleEndian Transition Trace

/-- The number of bytes that an image covers. -/
def Mat.viewed (frame : Mat) : Nat := frame.rows.toNat * frame.cols.toNat * frame.elemSize

/-- The number of pixels that a header announces. -/
def pixels (header : Bytes) : Nat := (headerRows header).toNat * (headerCols header).toNat

namespace Turn

variable {env : Environment} {t : Turn}

/-- The image of an accepted turn has the dimensions from the header. -/
lemma viewed_frame (hbegun : t.Begun env) (haccepts : env.object.Accepts t.header) :
    t.frame.viewed = pixels t.header * 3 := by
  obtain ⟨-, -, -, hslice⟩ := hbegun.message_of_accepts haccepts
  have hparams : t.params = slice t.header 22 specialParamsBufferLength := by
    rw [params, hslice, Option.getD_some]
  rw [Mat.viewed, pixels, headerRows, headerCols, frame, hparams, slice_slice (by decide),
    slice_slice (by decide)]
  rfl

/-- The data buffer of an accepted turn has the length from the header. -/
lemma length_dataBuffer (hbegun : t.Begun env) (haccepts : env.object.Accepts t.header) :
    (t.message.getDataBufferPtr.getD []).length = (headerDataLength t.header).toNat := by
  obtain ⟨-, -, hblock, -⟩ := hbegun.message_of_accepts haccepts
  rw [MessageClass.getDataBufferPtr, hblock, Option.getD_some, length_malloc, headerDataLength]

end Turn

/-- Three bytes for each pixel fit in when so many are announced for each pixel. -/
lemma mul_three_le_iff (n length : Nat) : n * 3 ≤ length ↔ n = 0 ∨ 3 ≤ length / n := by
  rcases Nat.eq_zero_or_pos n with rfl | hpos
  · simp
  · rw [Nat.le_div_iff_mul_le hpos, Nat.mul_comm, or_iff_right hpos.ne']

/-- A number that is not larger than its remainder was not reduced. -/
lemma le_mod_iff {n k : Nat} (hk : 0 < k) : n ≤ n % k ↔ n < k := by
  constructor
  · intro h
    exact h.trans_lt (Nat.mod_lt n hk)
  · intro h
    rw [Nat.mod_eq_of_lt h]

namespace Server

/-- What is displayed for an accepted header, and the memory that was allocated for it. -/
lemma viewed_of_displayed {memory : Nat → Environment} {input : Bytes} {schedule : List Int}
    {t : List Event} {frame : Mat} {header : Bytes} {message : MessageClass}
    (hdisplayed : t ++ [.displayed frame] <+: (serve memory input schedule).trace)
    (hheader : (headers t).getLast? = some header)
    (hmessage : (messages t).getLast? = some message)
    (haccepted : message.getState = MessageStateDef.initialized.toUInt32) :
    frame.viewed = pixels header * 3 ∧
      (message.getDataBufferPtr.getD []).length = (headerDataLength header).toNat := by
  obtain ⟨q, hrun, -⟩ := serve_run memory input schedule
  obtain ⟨p', hp'⟩ := hrun.of_prefix hdisplayed
  obtain ⟨p, hp, hmove⟩ := hp'.exists_last
  obtain ⟨rfl, hvalid⟩ := run_spec hp
  cases hmove with
  | @display ts turn hcomplete =>
    have hbegun : turn.Begun (memory ts.length) := hvalid.stage
    rw [headers_of_turn (t := turn) rfl, List.getLast?_concat, Option.some.injEq] at hheader
    rw [messages_of_turn (t := turn) rfl, List.getLast?_concat, Option.some.injEq] at hmessage
    subst hheader hmessage
    have haccepts : (memory ts.length).object.Accepts turn.header :=
      hbegun.getState_iff.mp haccepted
    exact ⟨Turn.viewed_frame hbegun haccepts, Turn.length_dataBuffer hbegun haccepts⟩

/-- The displayed image lies inside the data buffer exactly when it is empty or the header
announces at least three bytes for each pixel. A header with the data length that the camera
computes must have three channels at least, and for three channels the product must not have
overflown. -/
theorem viewed_le_iff (memory : Nat → Environment) (input : Bytes) (schedule : List Int)
    {t : List Event} {frame : Mat} {header : Bytes} {message : MessageClass}
    (hdisplayed : t ++ [.displayed frame] <+: (serve memory input schedule).trace)
    (hheader : (headers t).getLast? = some header)
    (hmessage : (messages t).getLast? = some message)
    (haccepted : message.getState = MessageStateDef.initialized.toUInt32) :
    (frame.viewed ≤ (message.getDataBufferPtr.getD []).length
      ↔ pixels header = 0 ∨ 3 ≤ (headerDataLength header).toNat / pixels header) ∧
    (headerDataLength header = headerRows header * headerCols header * headerDepth header →
      (pixels header * (headerDepth header).toNat < 2 ^ 32 →
        (frame.viewed ≤ (message.getDataBufferPtr.getD []).length
          ↔ pixels header = 0 ∨ 3 ≤ (headerDepth header).toNat)) ∧
      (headerDepth header = 3 →
        (frame.viewed ≤ (message.getDataBufferPtr.getD []).length
          ↔ pixels header * 3 < 2 ^ 32))) := by
  obtain ⟨hviewed, hlength⟩ := viewed_of_displayed hdisplayed hheader hmessage haccepted
  rw [hviewed, hlength]
  refine ⟨mul_three_le_iff _ _, ?_⟩
  intro hcamera
  have hproduct : (headerDataLength header).toNat
      = pixels header * (headerDepth header).toNat % 2 ^ 32 := by
    rw [hcamera, toNat_mul_mul, pixels]
  constructor
  · intro hsmall
    rw [hproduct, Nat.mod_eq_of_lt hsmall]
    rcases Nat.eq_zero_or_pos (pixels header) with hzero | hpos
    · simp [hzero]
    · rw [Nat.mul_le_mul_left_iff hpos, or_iff_right hpos.ne']
  · intro hthree
    rw [hproduct, hthree]
    exact le_mod_iff (by decide)

/-- An image of one pixel as the camera sends it. -/
def pixelMessage (depth : UInt32) (data : Bytes) : MessageClass :=
  (createMessage 0 0 1 1 depth data fun _ => 0).getD .cleared

/-- The run of the server on an image of one pixel. -/
def pixelRun (depth : UInt32) (data : Bytes) : Outcome :=
  serve (fun _ => .cleared) (pixelMessage depth data).frame [37, data.length]

/-- What the server makes of the header of an image of one pixel. -/
def receivedPixel (depth : UInt32) (data : Bytes) : MessageClass :=
  MessageClass.ofHeaderMessage .cleared (fun _ => 0) ((pixelMessage depth data).frame.take 37)

/-- The theorem at a pixel with three channels. -/
theorem viewed_colour :
    (Mat.mk 1 1 3 [7, 8, 9]).viewed
      ≤ ((receivedPixel 3 [7, 8, 9]).getDataBufferPtr.getD []).length := by
  have hdisplayed : (pixelRun 3 [7, 8, 9]).trace.take 3 ++ [.displayed ⟨1, 1, 3, [7, 8, 9]⟩]
      <+: (pixelRun 3 [7, 8, 9]).trace := by decide +kernel
  have hheader : (headers ((pixelRun 3 [7, 8, 9]).trace.take 3)).getLast?
      = some ((pixelMessage 3 [7, 8, 9]).frame.take 37) := by decide +kernel
  have hmessage : (messages ((pixelRun 3 [7, 8, 9]).trace.take 3)).getLast?
      = some (receivedPixel 3 [7, 8, 9]) := by decide +kernel
  have hfits := viewed_le_iff _ _ _ hdisplayed hheader hmessage (by decide +kernel)
  exact hfits.1.mpr (by decide +kernel)

/-- A pixel with one channel, of which the server shows three bytes. -/
theorem viewed_grey :
    createMessage 0 0 1 1 1 [7] (fun _ => 0) = some (pixelMessage 1 [7]) ∧
    (pixelRun 1 [7]).trace.take 3 ++ [.displayed ⟨1, 1, 3, [7]⟩] <+: (pixelRun 1 [7]).trace ∧
    (messages ((pixelRun 1 [7]).trace.take 3)).getLast? = some (receivedPixel 1 [7]) ∧
    (receivedPixel 1 [7]).getState = MessageStateDef.initialized.toUInt32 ∧
    ¬ (Mat.mk 1 1 3 [7]).viewed ≤ ((receivedPixel 1 [7]).getDataBufferPtr.getD []).length := by
  refine ⟨?_, ?_, ?_, ?_, ?_⟩
  all_goals decide +kernel

end Server
end Seifenkiste
