import Seifenkiste.Library.Heap
import Seifenkiste.Message.Header

/-!
# The buffers of a message

A message object with its two pointers as the addresses they are, on the heap they point into:
which blocks it reads, writes and frees. The bytes behind the pointers give the message of
`MessageClass` back (`view_construct`).
-/

namespace Seifenkiste

open Memory LittleEndian

/-- The members as the memory of the object holds them; address 0 is NULL. -/
structure MessageObject where
  state : UInt32
  messageId : UInt32
  sender : UInt32
  senderTime : UInt32
  sensorPlatform : UInt32
  sensorType : UInt32
  sensorTime : UInt32
  dataLength : UInt32
  dataBuffer : Nat
  specialParamBuffer : Nat
  deriving DecidableEq, Repr

/-- An object and the heap. -/
structure Placed where
  object : MessageObject
  heap : Heap UInt8

/-- What the two calls of `malloc` return, and what the blocks hold. -/
structure Mallocs where
  dataBuffer : Nat
  specialParamBuffer : Nat
  content : Nat → UInt8

/-- Both calls succeed: they return addresses that are not in use. -/
structure Mallocs.Succeed (mallocs : Mallocs) (heap : Heap UInt8) : Prop where
  dataBuffer : heap.Fresh mallocs.dataBuffer
  specialParamBuffer : heap.Fresh mallocs.specialParamBuffer
  ne : mallocs.dataBuffer ≠ mallocs.specialParamBuffer

namespace MessageObject

def validateControlSegments (o : MessageObject) (headerMessage : Bytes) : MessageObject :=
  let startMatch := slice headerMessage 0 3 = conSegStart
  let endMatch := slice headerMessage (tcpHeaderLength - 3) 3 = conSegEnd
  let o := if startMatch then o else { o with state := MessageStateDef.invalid.toUInt32 }
  if endMatch then o else { o with state := MessageStateDef.invalid.toUInt32 }

/-- The constructor from raw TCP header data, in the memory that held `memory` before. -/
def ofHeaderMessage (memory : MessageObject) (heap : Heap UInt8) (mallocs : Mallocs)
    (headerMessage : Bytes) : Placed :=
  let o := memory.validateControlSegments headerMessage
  if o.state = MessageStateDef.invalid.toUInt32 then ⟨o, heap⟩
  else
    let length := store o.dataLength (slice headerMessage 18 4)
    let heap := heap.alloc mallocs.dataBuffer (malloc mallocs.content length.toNat)
    let params := memcpy (malloc mallocs.content specialParamsBufferLength) 0
      (slice headerMessage 22 specialParamsBufferLength)
    { object :=
        { state := MessageStateDef.initialized.toUInt32
          sender := store o.sender (slice headerMessage 3 1)
          senderTime := store o.senderTime (slice headerMessage 4 4)
          messageId := store o.messageId (slice headerMessage 8 4)
          sensorPlatform := store o.sensorPlatform (slice headerMessage 12 1)
          sensorType := store o.sensorType (slice headerMessage 13 1)
          sensorTime := store o.sensorTime (slice headerMessage 14 4)
          dataLength := length
          dataBuffer := mallocs.dataBuffer
          specialParamBuffer := mallocs.specialParamBuffer }
      heap := heap.alloc mallocs.specialParamBuffer params }

end MessageObject

/-- A call of a public member function. The four getters read no memory but the object's; filling
the data buffer is what the caller does with the pointer that it gets from one of them. -/
inductive MemberCall where
  | get
  | setId (id : UInt32)
  | setSenderTime (t : UInt32)
  | setSpecialParams (paramBuffer : Bytes) (length : Int)
  | fillDataBuffer (data : Bytes)
  | createTCPHeader
  | extractSpecialParamBuffer
  | printMetaData
  | writeToFile

namespace Placed

/-- A call, `none` when it accesses memory outside of the live blocks. Copying no bytes accesses
none, whatever the pointer. -/
def call (p : Placed) : MemberCall → Option Placed
  | .get                                 => some p
  | .setId id                            => some { p with object.messageId := id }
  | .setSenderTime t                     => some { p with object.senderTime := t }
  | .setSpecialParams paramBuffer length =>
    if length > specialParamsBufferLength then some p
    else
      let size := (length % 2 ^ 64).toNat
      if size ≤ paramBuffer.length then
        (p.heap.write p.object.specialParamBuffer (paramBuffer.take size)).map
          fun heap => { p with heap := heap }
      else none
  | .fillDataBuffer data                 =>
    (p.heap.write p.object.dataBuffer data).map fun heap => { p with heap := heap }
  | .createTCPHeader                     =>
    (p.heap.read p.object.specialParamBuffer specialParamsBufferLength).map fun _ => p
  | .extractSpecialParamBuffer           =>
    if p.object.specialParamBuffer = 0 then some p
    else (p.heap.read p.object.specialParamBuffer specialParamsBufferLength).map fun _ => p
  | .printMetaData                       =>
    (p.heap.read p.object.specialParamBuffer specialParamsBufferLength).map fun _ => p
  | .writeToFile                         =>
    (p.heap.read p.object.dataBuffer p.object.dataLength.toNat).map fun _ => p

def callAll : Placed → List MemberCall → Option Placed
  | p, []         => some p
  | p, c :: calls => (p.call c).bind fun p => callAll p calls

/-- The destructor: the heap afterwards, `none` when a block is freed that is not live. -/
def destroy (p : Placed) : Option (Heap UInt8) := do
  let heap ← p.heap.free p.object.specialParamBuffer
  if p.object.dataBuffer ≠ 0 then heap.free p.object.dataBuffer else some heap

/-- The message with the bytes behind its pointers. -/
def view (p : Placed) : MessageClass where
  state := p.object.state
  messageId := p.object.messageId
  sender := p.object.sender
  senderTime := p.object.senderTime
  sensorPlatform := p.object.sensorPlatform
  sensorType := p.object.sensorType
  sensorTime := p.object.sensorTime
  dataLength := p.object.dataLength
  dataBuffer := p.heap.block p.object.dataBuffer
  specialParamBuffer := p.heap.block p.object.specialParamBuffer

/-- What the message is to have of its pointers: they are NULL or name blocks of its own, reading
the parameters stays in them, and the destructor frees these blocks and nothing else, so that the
heap is what it was before the message was constructed. -/
structure OwnsBuffers (before : Heap UInt8) (p : Placed) : Prop where
  data : p.object.dataBuffer = 0 ∨
    Heap.Owned before p.heap p.object.dataBuffer p.object.dataLength.toNat
  params : p.object.specialParamBuffer = 0 ∨
    Heap.Owned before p.heap p.object.specialParamBuffer specialParamsBufferLength
  extract : p.call .extractSpecialParamBuffer = some p
  destroy : p.destroy = some before

end Placed

/-! ### The constructor -/

section Construction

variable {memory : MessageObject} {heap : Heap UInt8} {mallocs : Mallocs} {header : Bytes}

/-- The constructor's own test, on the object. -/
def MessageObject.Accepts (memory : MessageObject) (header : Bytes) : Prop :=
  HasControlSegments header ∧ memory.state ≠ MessageStateDef.invalid.toUInt32

instance (memory : MessageObject) (header : Bytes) : Decidable (memory.Accepts header) :=
  inferInstanceAs (Decidable (_ ∧ _))

namespace MessageObject

lemma validateControlSegments_eq (o : MessageObject) (header : Bytes) :
    o.validateControlSegments header =
      if HasControlSegments header then o
      else { o with state := MessageStateDef.invalid.toUInt32 } := by
  simp only [validateControlSegments, HasControlSegments, tcpHeaderLength, Nat.reduceSub]
  by_cases hs : slice header 0 3 = conSegStart
  · by_cases he : slice header 34 3 = conSegEnd
    · simp [hs, he]
    · simp [hs, he]
  · by_cases he : slice header 34 3 = conSegEnd
    · simp [hs, he]
    · simp [hs, he]

/-- A rejected header leaves the pointers that the memory held. -/
lemma ofHeaderMessage_of_not_accepts (h : ¬ memory.Accepts header) :
    memory.ofHeaderMessage heap mallocs header
      = ⟨{ memory with state := MessageStateDef.invalid.toUInt32 }, heap⟩ := by
  by_cases hc : HasControlSegments header
  · have hst : memory.state = MessageStateDef.invalid.toUInt32 := by
      by_contra hst
      exact h ⟨hc, hst⟩
    simp only [ofHeaderMessage, validateControlSegments_eq, hc, hst, if_true]
    rw [← hst]
  · simp only [ofHeaderMessage, validateControlSegments_eq, hc, if_true, if_false]

/-- An accepted header makes the object point to the blocks that were allocated for it. -/
lemma ofHeaderMessage_of_accepts (h : memory.Accepts header) :
    let p := memory.ofHeaderMessage heap mallocs header
    p.object.dataBuffer = mallocs.dataBuffer ∧
      p.object.specialParamBuffer = mallocs.specialParamBuffer ∧
      p.heap = (heap.alloc mallocs.dataBuffer
          (malloc mallocs.content p.object.dataLength.toNat)).alloc mallocs.specialParamBuffer
        (memcpy (malloc mallocs.content specialParamsBufferLength) 0
          (slice header 22 specialParamsBufferLength)) := by
  simp [ofHeaderMessage, validateControlSegments_eq, h.1, h.2]

lemma view_validateControlSegments (o : MessageObject) (heap : Heap UInt8) (header : Bytes) :
    (Placed.mk (o.validateControlSegments header) heap).view
      = (Placed.mk o heap).view.validateControlSegments header := by
  simp only [validateControlSegments, MessageClass.validateControlSegments]
  split_ifs <;> rfl

/-- Seen with the bytes behind its pointers, the constructor is the one of `MessageClass`. -/
theorem view_ofHeaderMessage (hmallocs : mallocs.Succeed heap) :
    (memory.ofHeaderMessage heap mallocs header).view
      = MessageClass.ofHeaderMessage (Placed.mk memory heap).view mallocs.content header := by
  rw [MessageClass.ofHeaderMessage, ← view_validateControlSegments, ofHeaderMessage]
  generalize memory.validateControlSegments header = o
  by_cases hst : o.state = MessageStateDef.invalid.toUInt32
  · simp only [Placed.view, hst, if_true]
  · simp only [Placed.view, hst, if_false]
    rw [Heap.block_alloc_of_ne _ hmallocs.ne, Heap.block_alloc_self _ hmallocs.dataBuffer.1,
      Heap.block_alloc_self _ hmallocs.specialParamBuffer.1]

end MessageObject

end Construction

/-! ### The member functions -/

namespace Placed

variable {before : Heap UInt8} {p p' : Placed}

/-- The invariant behind `OwnsBuffers`: the two pointers do not name the same block, and every
block that is not theirs is what it was before. -/
structure Kept (before : Heap UInt8) (p : Placed) : Prop where
  data : p.object.dataBuffer = 0 ∨
    Heap.Owned before p.heap p.object.dataBuffer p.object.dataLength.toNat
  params : p.object.specialParamBuffer = 0 ∨
    Heap.Owned before p.heap p.object.specialParamBuffer specialParamsBufferLength
  distinct : p.object.dataBuffer ≠ 0 → p.object.dataBuffer ≠ p.object.specialParamBuffer
  frame : ∀ a, (a ≠ 0 → a ≠ p.object.dataBuffer ∧ a ≠ p.object.specialParamBuffer) →
    p.heap.blocks a = before.blocks a

/-- A write through one of the two pointers keeps the invariant. -/
lemma Kept.write (hp : Kept before p) {c : Nat} {src : Bytes} {heap : Heap UInt8}
    (hc : c = p.object.dataBuffer ∨ c = p.object.specialParamBuffer)
    (hw : p.heap.write c src = some heap) : Kept before { p with heap := heap } := by
  refine ⟨hp.data.imp_right fun ho => ho.write hw, hp.params.imp_right fun ho => ho.write hw,
    hp.distinct, ?_⟩
  intro a ha
  rw [← hp.frame a ha]
  apply Heap.write_frame hw
  intro hnull
  rcases hc with rfl | rfl
  · exact (ha hnull).1
  · exact (ha hnull).2

/-- A call changes neither the pointers nor the length, and writes only through the pointers. -/
lemma Kept.call (hp : Kept before p) {c : MemberCall} (h : p.call c = some p') :
    Kept before p' := by
  cases c with
  | get =>
    obtain rfl := Option.some.inj h
    exact hp
  | setId id =>
    obtain rfl := Option.some.inj h
    exact ⟨hp.data, hp.params, hp.distinct, hp.frame⟩
  | setSenderTime t =>
    obtain rfl := Option.some.inj h
    exact ⟨hp.data, hp.params, hp.distinct, hp.frame⟩
  | setSpecialParams paramBuffer length =>
    simp only [Placed.call] at h
    split_ifs at h
    · obtain rfl := Option.some.inj h
      exact hp
    · obtain ⟨heap, hw, rfl⟩ := Option.map_eq_some_iff.mp h
      exact hp.write (Or.inr rfl) hw
  | fillDataBuffer data =>
    obtain ⟨heap, hw, rfl⟩ := Option.map_eq_some_iff.mp h
    exact hp.write (Or.inl rfl) hw
  | createTCPHeader =>
    obtain ⟨-, -, rfl⟩ := Option.map_eq_some_iff.mp h
    exact hp
  | extractSpecialParamBuffer =>
    rw [Placed.call] at h
    split_ifs at h
    · obtain rfl := Option.some.inj h
      exact hp
    · obtain ⟨-, -, rfl⟩ := Option.map_eq_some_iff.mp h
      exact hp
  | printMetaData =>
    obtain ⟨-, -, rfl⟩ := Option.map_eq_some_iff.mp h
    exact hp
  | writeToFile =>
    obtain ⟨-, -, rfl⟩ := Option.map_eq_some_iff.mp h
    exact hp

lemma Kept.callAll (hp : Kept before p) {calls : List MemberCall}
    (h : p.callAll calls = some p') : Kept before p' := by
  induction calls generalizing p with
  | nil =>
    obtain rfl := Option.some.inj h
    exact hp
  | cons c calls ih =>
    obtain ⟨next, hcall, hrest⟩ := Option.bind_eq_some_iff.mp h
    exact ih (hp.call hcall) hrest

lemma Kept.extract (hp : Kept before p) : p.call .extractSpecialParamBuffer = some p := by
  rcases hp.params with hnull | ho
  · rw [Placed.call, if_pos hnull]
  · obtain ⟨content, hread⟩ := ho.read_eq
    rw [Placed.call, if_neg ho.ne_null, hread, Option.map_some]

/-- The destructor frees the two blocks, and what is left is the heap from before. -/
lemma Kept.destroy (hp : Kept before p) : p.destroy = some before := by
  obtain ⟨h₁, hfree₁, hblocks₁⟩ := Heap.free_spec hp.params
  have hdata : p.object.dataBuffer = 0 ∨
      Heap.Owned before h₁ p.object.dataBuffer p.object.dataLength.toNat := by
    refine hp.data.imp_right fun ho => ho.of_blocks_eq ?_
    rw [hblocks₁, if_neg fun h => hp.distinct ho.ne_null h.2]
  obtain ⟨h₂, hfree₂, hblocks₂⟩ := Heap.free_spec hdata
  have hlast : (if p.object.dataBuffer ≠ 0 then h₁.free p.object.dataBuffer else some h₁)
      = some h₂ := by
    rw [← hfree₂]
    split_ifs with hnull
    · rfl
    · rw [not_not.mp hnull, Heap.free, if_pos rfl]
  have hrestored : h₂ = before := by
    apply Heap.ext
    funext a
    rw [hblocks₂, hblocks₁]
    split_ifs with hd hs
    · rw [hd.2, (hp.data.resolve_left hd.1).new]
    · rw [hs.2, (hp.params.resolve_left hs.1).new]
    · apply hp.frame
      intro hnull
      exact ⟨fun h => hd ⟨h ▸ hnull, h⟩, fun h => hs ⟨h ▸ hnull, h⟩⟩
  rw [Placed.destroy, hfree₁, ← hrestored, ← hlast]
  rfl

lemma Kept.ownsBuffers (hp : Kept before p) : p.OwnsBuffers before :=
  ⟨hp.data, hp.params, hp.extract, hp.destroy⟩

/-! ### Calls that a message of one's own allows -/

/-- A block that is allocated for something else does not matter. -/
lemma Kept.alloc (hp : Kept before p) {a : Nat} (hfresh : p.heap.Fresh a) (content : Bytes) :
    Kept (before.alloc a content) { p with heap := p.heap.alloc a content } := by
  refine ⟨hp.data.imp_right fun ho => ho.alloc hfresh content,
    hp.params.imp_right fun ho => ho.alloc hfresh content, hp.distinct, ?_⟩
  intro b hb
  by_cases hsame : b = a
  · rw [hsame, Heap.alloc, Heap.alloc, Heap.blocks_set_self, Heap.blocks_set_self]
  · rw [Heap.alloc, Heap.alloc, Heap.blocks_set_of_ne _ hsame, Heap.blocks_set_of_ne _ hsame]
    exact hp.frame b hb

/-- Data that is not longer than the message says can be filled in. -/
lemma Kept.exists_fill (hp : Kept before p) (hnull : p.object.dataBuffer ≠ 0) {data : Bytes}
    (hlen : data.length ≤ p.object.dataLength.toNat) :
    ∃ heap, p.call (.fillDataBuffer data) = some { p with heap := heap } := by
  obtain ⟨b, hb, hlength⟩ := (hp.data.resolve_left hnull).block_eq
  obtain ⟨heap, hw⟩ :=
    Option.isSome_iff_exists.mp ((Heap.isSome_write_iff hb data).mpr (hlength.symm ▸ hlen))
  exact ⟨heap, by rw [Placed.call, hw, Option.map_some]⟩

/-- All twelve parameters can be set. -/
lemma Kept.exists_setParams (hp : Kept before p) (hnull : p.object.specialParamBuffer ≠ 0)
    {params : Bytes} (hlen : params.length = specialParamsBufferLength) :
    ∃ heap, p.call (.setSpecialParams params specialParamsBufferLength)
      = some { p with heap := heap } := by
  obtain ⟨b, hb, hlength⟩ := (hp.params.resolve_left hnull).block_eq
  have hsize : (((specialParamsBufferLength : Nat) : Int) % 2 ^ 64).toNat
      = specialParamsBufferLength := by decide
  have htake : (params.take specialParamsBufferLength).length ≤ b.length := by
    rw [List.length_take_of_le hlen.ge, hlength]
  obtain ⟨heap, hw⟩ := Option.isSome_iff_exists.mp ((Heap.isSome_write_iff hb _).mpr htake)
  refine ⟨heap, ?_⟩
  simp only [Placed.call, gt_iff_lt, lt_irrefl, if_false, hsize, hlen, le_refl, if_true, hw,
    Option.map_some]

lemma Kept.printMetaData (hp : Kept before p) (hnull : p.object.specialParamBuffer ≠ 0) :
    p.call .printMetaData = some p := by
  obtain ⟨params, hread⟩ := (hp.params.resolve_left hnull).read_eq
  rw [Placed.call, hread, Option.map_some]

/-- Only the addresses of the message itself have been taken. -/
lemma Kept.fresh (hp : Kept before p) {a : Nat} (hfresh : before.Fresh a)
    (hdata : a ≠ p.object.dataBuffer) (hparams : a ≠ p.object.specialParamBuffer) :
    p.heap.Fresh a :=
  ⟨hfresh.1, (hp.frame a fun _ => ⟨hdata, hparams⟩).trans hfresh.2⟩

/-! ### The bytes behind the pointers -/

lemma view_alloc {a : Nat} (hdata : p.object.dataBuffer ≠ a)
    (hparams : p.object.specialParamBuffer ≠ a) (content : Bytes) :
    ({ p with heap := p.heap.alloc a content } : Placed).view = p.view := by
  simp only [Placed.view, Heap.block_alloc_of_ne _ hdata, Heap.block_alloc_of_ne _ hparams]

lemma block_write_of_ne {heap : Heap UInt8} {a b : Nat} {src : Bytes}
    (hw : p.heap.write a src = some heap) (hne : b ≠ 0 → b ≠ a) :
    heap.block b = p.heap.block b := by
  rw [Heap.block, Heap.block, Heap.write_frame hw hne]

/-- Writing through the data pointer is filling the data buffer of the message. -/
theorem Kept.view_fillDataBuffer (hp : Kept before p) {data : Bytes}
    (hpointer : p.object.dataBuffer ≠ 0) (h : p.call (.fillDataBuffer data) = some p') :
    p'.view = p.view.fillDataBuffer data := by
  obtain ⟨heap, hw, rfl⟩ := Option.map_eq_some_iff.mp h
  obtain ⟨b, hb, -⟩ := (hp.data.resolve_left hpointer).block_eq
  have hparams : heap.block p.object.specialParamBuffer
      = p.heap.block p.object.specialParamBuffer :=
    block_write_of_ne hw fun _ => (hp.distinct hpointer).symm
  simp only [view, MessageClass.fillDataBuffer, hparams, (Heap.block_write hw hb).2, hb,
    Option.map_some]

/-- Setting the special parameters does to the block what `setSpecialParams` does to the message
with these bytes. -/
theorem Kept.view_setSpecialParams (hp : Kept before p) {paramBuffer : Bytes} {length : Int}
    (hpointer : p.object.specialParamBuffer ≠ 0)
    (h : p.call (.setSpecialParams paramBuffer length) = some p') :
    ∃ result, p.view.setSpecialParams paramBuffer length = some (result, p'.view) := by
  simp only [Placed.call] at h
  by_cases hlong : length > specialParamsBufferLength
  · rw [if_pos hlong] at h
    obtain rfl := Option.some.inj h
    exact ⟨-1, by rw [MessageClass.setSpecialParams, if_pos hlong]⟩
  · rw [if_neg hlong] at h
    split_ifs at h with hsize
    obtain ⟨heap, hw, rfl⟩ := Option.map_eq_some_iff.mp h
    obtain ⟨b, hb, -⟩ := (hp.params.resolve_left hpointer).block_eq
    obtain ⟨hfits, hwritten⟩ := Heap.block_write hw hb
    rw [List.length_take_of_le hsize] at hfits
    have hdata : heap.block p.object.dataBuffer = p.heap.block p.object.dataBuffer :=
      block_write_of_ne hw hp.distinct
    refine ⟨0, ?_⟩
    simp only [MessageClass.setSpecialParams, hlong, if_false, view, hb, hfits, hsize, and_self,
      if_true, hdata, hwritten]

end Placed

/-! ### Headers of any kind -/

section Ownership

variable {memory : MessageObject} {heap : Heap UInt8} {mallocs : Mallocs} {header : Bytes}

lemma kept_of_accepts (haccept : memory.Accepts header) (hlen : header.length = tcpHeaderLength)
    (hmallocs : mallocs.Succeed heap) :
    (memory.ofHeaderMessage heap mallocs header).Kept heap := by
  obtain ⟨hdata, hparams, hheap⟩ :=
    @MessageObject.ofHeaderMessage_of_accepts memory heap mallocs header haccept
  have hlength : (memcpy (malloc mallocs.content specialParamsBufferLength) 0
      (slice header 22 specialParamsBufferLength)).length = specialParamsBufferLength := by
    rw [length_memcpy]
    · exact length_malloc _ _
    · rw [length_slice (by rw [hlen]; decide), length_malloc, Nat.zero_add]
  refine ⟨Or.inr ?_, Or.inr ?_, ?_, ?_⟩
  · rw [hdata, hheap]
    have howned := Heap.owned_alloc (h := heap) hmallocs.dataBuffer
      (length_malloc mallocs.content
        (memory.ofHeaderMessage heap mallocs header).object.dataLength.toNat)
    exact howned.of_blocks_eq (Heap.blocks_set_of_ne _ hmallocs.ne _)
  · rw [hparams, hheap]
    exact Heap.owned_alloc hmallocs.specialParamBuffer hlength
  · intro _
    rw [hdata, hparams]
    exact hmallocs.ne
  · intro a ha
    rw [hdata, hparams] at ha
    have hother : a ≠ mallocs.dataBuffer ∧ a ≠ mallocs.specialParamBuffer := by
      by_cases hnull : a = 0
      · rw [hnull]
        exact ⟨hmallocs.dataBuffer.1.symm, hmallocs.specialParamBuffer.1.symm⟩
      · exact ha hnull
    rw [hheap, Heap.alloc, Heap.alloc, Heap.blocks_set_of_ne _ hother.2,
      Heap.blocks_set_of_ne _ hother.1]

/-- A message owns what its pointers name exactly when its header was accepted, or the memory
that it was constructed in held no pointers. -/
theorem ownsBuffers_iff (hlen : header.length = tcpHeaderLength)
    (hmallocs : mallocs.Succeed heap) :
    (∀ calls p, (memory.ofHeaderMessage heap mallocs header).callAll calls = some p →
        p.OwnsBuffers heap) ↔
      memory.Accepts header ∨ memory.dataBuffer = 0 ∧ memory.specialParamBuffer = 0 := by
  constructor
  · intro h
    by_contra hneither
    obtain ⟨hreject, hpointer⟩ := not_or.mp hneither
    have howns := h [] _ rfl
    rw [MessageObject.ofHeaderMessage_of_not_accepts hreject] at howns
    -- nothing was allocated, so a pointer that is not NULL names nothing of the message's own
    have hnothing (a n : Nat) : ¬ Heap.Owned heap heap a n := by
      intro ho
      obtain ⟨b, hb, -⟩ := ho.live
      rw [ho.new] at hb
      cases hb
    exact hpointer ⟨howns.data.resolve_right (hnothing _ _),
      howns.params.resolve_right (hnothing _ _)⟩
  · intro h calls p hp
    refine (Placed.Kept.callAll ?_ hp).ownsBuffers
    by_cases haccept : memory.Accepts header
    · exact kept_of_accepts haccept hlen hmallocs
    · obtain ⟨hdata, hparams⟩ := h.resolve_left haccept
      rw [MessageObject.ofHeaderMessage_of_not_accepts haccept]
      exact ⟨Or.inl hdata, Or.inl hparams, fun hne => absurd hdata hne, fun a _ => rfl⟩

/-- A heap without blocks. -/
def emptyHeap : Heap UInt8 := ⟨fun _ => none⟩

/-- Memory that holds the pointers of a message that was destroyed there. -/
def staleObject : MessageObject := ⟨0, 0, 0, 0, 0, 0, 0, 0, 16, 32⟩

def twoBlocks : Mallocs := ⟨16, 32, fun _ => 0⟩

lemma twoBlocks_succeed : twoBlocks.Succeed emptyHeap :=
  ⟨⟨by decide, rfl⟩, ⟨by decide, rfl⟩, by decide⟩

/-- The theorem at an accepted header in the same memory. -/
theorem ownsBuffers_accepted :
    (staleObject.ofHeaderMessage emptyHeap twoBlocks plainHeader).OwnsBuffers emptyHeap :=
  (ownsBuffers_iff (by decide +kernel) twoBlocks_succeed).mpr (Or.inl (by decide +kernel)) [] _ rfl

/-- A malformed header: the destructor frees what has been freed before. -/
theorem ownsBuffers_rejected :
    (List.replicate tcpHeaderLength (0 : UInt8)).length = tcpHeaderLength ∧
    twoBlocks.Succeed emptyHeap ∧
    ¬ ∀ calls p, (staleObject.ofHeaderMessage emptyHeap twoBlocks
        (List.replicate tcpHeaderLength 0)).callAll calls = some p → p.OwnsBuffers emptyHeap := by
  refine ⟨List.length_replicate, twoBlocks_succeed, ?_⟩
  intro h
  have hdestroy := congrArg Option.isSome (h [] _ rfl).destroy
  exact absurd hdestroy (by decide +kernel)

end Ownership
end Seifenkiste
