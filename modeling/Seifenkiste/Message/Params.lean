import Seifenkiste.Message.Header

/-!
# The special parameters

Sequences of calls of `setSpecialParams` on one message, and what they leave in the parameters
and in the header. The check of the length has no lower bound: a negative length gets past it and
is a huge size in the copy behind it.
-/

namespace Seifenkiste

open Memory LittleEndian

/-- A call of `setSpecialParams`, whose buffer holds at least as many bytes as the call names. -/
structure ParamCall where
  paramBuffer : Bytes
  length : Int32
  enough : length.toInt ≤ paramBuffer.length

namespace ParamCall

/-- The bytes that the call names fit into the parameters. -/
def InBounds (c : ParamCall) : Prop :=
  0 ≤ c.length.toInt ∧ c.length.toInt ≤ specialParamsBufferLength

instance (c : ParamCall) : Decidable c.InBounds := inferInstanceAs (Decidable (_ ∧ _))

/-- The result that the length of the call dictates. -/
def result (c : ParamCall) : Int := if c.InBounds then 0 else -1

/-- The parameters that the call is to leave. -/
def overlay (params : Bytes) (c : ParamCall) : Bytes :=
  if c.InBounds then memcpy params 0 (c.paramBuffer.take c.length.toInt.toNat) else params

lemma length_overlay {params : Bytes} (h : params.length = specialParamsBufferLength)
    (c : ParamCall) : (overlay params c).length = specialParamsBufferLength := by
  rw [overlay]
  split_ifs with hc
  · rw [length_memcpy, h]
    rw [Nat.zero_add, h]
    exact (List.length_take_le _ _).trans (Int.toNat_le.mpr hc.2)
  · exact h

end ParamCall

namespace MessageClass

/-- The results of the calls and the message after them, `none` when one of them copies beyond
the end of a buffer. -/
def setAll : MessageClass → List ParamCall → Option (List Int × MessageClass)
  | m, []         => some ([], m)
  | m, c :: calls => do
    let (result, m) ← m.setSpecialParams c.paramBuffer c.length.toInt
    let (results, m) ← setAll m calls
    return (result :: results, m)

/-- After every call the results are those that the lengths dictate, the parameters are the
calls laid over zeros, and the header carries them in front of its end segment. -/
def UpdatedAtomically (m : MessageClass) (calls : List ParamCall) : Prop :=
  ∀ n (headerBuffer : Bytes), headerBuffer.length = tcpHeaderLength →
    let made := calls.take n
    let params := made.foldl ParamCall.overlay (List.replicate specialParamsBufferLength 0)
    ∃ m' header, m.setAll made = some (made.map ParamCall.result, m') ∧
      m'.specialParamBuffer = some params ∧ m'.createTCPHeader headerBuffer = some header ∧
      slice header 22 specialParamsBufferLength = params ∧ slice header 34 3 = conSegEnd

/-! ### One call -/

section Call

variable {m : MessageClass} {params : Bytes} {c : ParamCall}

lemma setSpecialParams_of_nonneg (hm : m.specialParamBuffer = some params)
    (hlen : params.length = specialParamsBufferLength) (hc : 0 ≤ c.length.toInt) :
    m.setSpecialParams c.paramBuffer c.length.toInt
      = some (c.result, { m with specialParamBuffer := some (c.overlay params) }) := by
  by_cases hle : c.length.toInt ≤ specialParamsBufferLength
  · have hbounds : c.InBounds := ⟨hc, hle⟩
    have hsize : (c.length.toInt % 2 ^ 64).toNat = c.length.toInt.toNat := by
      rw [Int.emod_eq_of_lt hc (hle.trans_lt (by decide))]
    have hblock : c.length.toInt.toNat ≤ params.length := hlen ▸ Int.toNat_le.mpr hle
    have hbuffer : c.length.toInt.toNat ≤ c.paramBuffer.length := Int.toNat_le.mpr c.enough
    simp only [setSpecialParams, gt_iff_lt, hle.not_gt, hsize, hm, hblock, hbuffer, and_self,
      if_true, if_false, ParamCall.result, ParamCall.overlay, hbounds]
  · have hbounds : ¬ c.InBounds := fun h => hle h.2
    simp only [setSpecialParams, gt_iff_lt, not_le.mp hle, if_true, if_false, ParamCall.result,
      ParamCall.overlay, hbounds, ← hm]

/-- A negative length is a size that no buffer has. -/
lemma setSpecialParams_of_neg (hm : m.specialParamBuffer = some params)
    (hlen : params.length = specialParamsBufferLength) (hc : c.length.toInt < 0) :
    m.setSpecialParams c.paramBuffer c.length.toInt = none := by
  have hlow := c.length.le_toInt
  have hle : ¬ c.length.toInt > specialParamsBufferLength := (hc.trans_le (by decide)).not_gt
  have hsize : ¬ (c.length.toInt % 2 ^ 64).toNat ≤ params.length := by
    rw [hlen, specialParamsBufferLength]
    omega
  simp only [setSpecialParams, hle, hm, hsize, false_and, if_false]

end Call

/-! ### Sequences of calls -/

section Calls

variable {m : MessageClass} {params : Bytes} {calls : List ParamCall}

lemma setAll_cons {c : ParamCall} {result : Int} {m' : MessageClass}
    (h : m.setSpecialParams c.paramBuffer c.length.toInt = some (result, m')) :
    m.setAll (c :: calls) = (m'.setAll calls).map (Prod.map (result :: ·) id) := by
  simp only [setAll, h, Option.bind_eq_bind, Option.bind_some]
  cases m'.setAll calls with
  | none => rfl
  | some _ => rfl

lemma setAll_of_nonneg (hm : m.specialParamBuffer = some params)
    (hlen : params.length = specialParamsBufferLength) (hcalls : ∀ c ∈ calls, 0 ≤ c.length.toInt) :
    m.setAll calls = some (calls.map ParamCall.result,
      { m with specialParamBuffer := some (calls.foldl ParamCall.overlay params) }) := by
  induction calls generalizing m params with
  | nil => simp only [setAll, List.map_nil, List.foldl_nil, ← hm]
  | cons c calls ih =>
    obtain ⟨hc, hcalls⟩ := List.forall_mem_cons.mp hcalls
    rw [setAll_cons (setSpecialParams_of_nonneg hm hlen hc), ih rfl (c.length_overlay hlen) hcalls,
      Option.map_some, List.map_cons, List.foldl_cons]
    rfl

/-- The calls get no further than to the first negative length. -/
lemma setAll_of_neg (hm : m.specialParamBuffer = some params)
    (hlen : params.length = specialParamsBufferLength) {c : ParamCall} (hmem : c ∈ calls)
    (hc : c.length.toInt < 0) : m.setAll calls = none := by
  induction calls generalizing m params with
  | nil => exact absurd hmem List.not_mem_nil
  | cons d calls ih =>
    by_cases hd : 0 ≤ d.length.toInt
    · have hmem : c ∈ calls := (List.mem_cons.mp hmem).resolve_left fun h => hd.not_gt (h ▸ hc)
      rw [setAll_cons (setSpecialParams_of_nonneg hm hlen hd), ih rfl (d.length_overlay hlen) hmem,
        Option.map_none]
    · simp only [setAll, setSpecialParams_of_neg hm hlen (not_le.mp hd), Option.bind_eq_bind,
        Option.bind_none]

lemma Built.setAll {m' : MessageClass} {results : List Int} (hm : m.Built)
    (h : m.setAll calls = some (results, m')) : m'.Built := by
  induction calls generalizing m results with
  | nil =>
    obtain ⟨-, rfl⟩ := Prod.mk.inj (Option.some.inj h)
    exact hm
  | cons c calls ih =>
    cases hcall : m.setSpecialParams c.paramBuffer c.length.toInt with
    | none => simp [MessageClass.setAll, hcall] at h
    | some next =>
      obtain ⟨result, next⟩ := next
      rw [setAll_cons hcall] at h
      obtain ⟨rest, hrest, hpair⟩ := Option.map_eq_some_iff.mp h
      obtain ⟨-, rfl⟩ := Prod.mk.inj hpair
      exact ih (.setSpecialParams hm hcall) hrest

/-- The parameters are updated as they should be exactly when no call has a negative length. -/
theorem updatedAtomically_iff (sender : SenderTypeDef) (senderTime : UInt32)
    (sensorPlatform : SenderTypeDef) (sensorType : SensorTypeDef)
    (sensorTime dataLength : UInt32) (heap : Nat → UInt8) (calls : List ParamCall) :
    (new sender senderTime sensorPlatform sensorType sensorTime dataLength heap).UpdatedAtomically
        calls ↔ ∀ c ∈ calls, 0 ≤ c.length.toInt := by
  let m := new sender senderTime sensorPlatform sensorType sensorTime dataLength heap
  have hzeros : (List.replicate specialParamsBufferLength (0 : UInt8)).length
      = specialParamsBufferLength := List.length_replicate
  constructor
  · intro h c hc
    by_contra hneg
    obtain ⟨m', header, hset, -⟩ := h calls.length _ (List.length_replicate (a := (0 : UInt8)))
    rw [List.take_length, setAll_of_neg (m := m) rfl hzeros hc (not_le.mp hneg)] at hset
    cases hset
  · intro hcalls n headerBuffer hbuffer
    have hmade : ∀ c ∈ calls.take n, 0 ≤ c.length.toInt :=
      fun c hc => hcalls c (List.mem_of_mem_take hc)
    have hset := setAll_of_nonneg (m := m) rfl hzeros hmade
    let o := ((Built.new _ _ _ _ _ _ _ : m.Built).setAll hset).wellFormed.outgoing
    exact ⟨o.message, o.header, hset, rfl, o.createTCPHeader_eq hbuffer,
      o.slice_header (i := 8) rfl rfl rfl, o.slice_header (i := 9) rfl rfl rfl⟩

/-- A call with the length -1. -/
def negativeCall : ParamCall := ⟨[1], -1, by decide⟩

/-- It does not return -1: it copies more than the parameters hold. -/
theorem negativeCall_not_atomic : ¬ plainMessage.UpdatedAtomically [negativeCall] := by
  intro h
  obtain ⟨m', header, hset, -⟩ := h 1 _ (List.length_replicate (a := (0 : UInt8)))
  have hnone : plainMessage.setAll ([negativeCall].take 1) = none := by decide +kernel
  rw [hnone] at hset
  cases hset

end Calls

end MessageClass
end Seifenkiste
