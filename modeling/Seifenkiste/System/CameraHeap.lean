import Seifenkiste.Message.Ownership
import Seifenkiste.System.CameraRun

/-!
# The memory of the camera

The main program of the camera on the heap: in each iteration a message is allocated, filled,
sent and deleted. It does what it does without (`camera_on_heap`), never outside of its memory, and
gives back the message, but neither the buffer in which the parameters were put together nor the
one for the header.
-/

namespace Seifenkiste

open Memory LittleEndian Transition

/-! ### The main program -/

/-- The constructor from message parameters, on the heap. -/
def MessageObject.new (sender : SenderTypeDef) (senderTime : UInt32)
    (sensorPlatform : SenderTypeDef) (sensorType : SensorTypeDef) (sensorTime dataLength : UInt32)
    (heap : Heap UInt8) (mallocs : Mallocs) : Placed :=
  let heap := heap.alloc mallocs.dataBuffer (malloc mallocs.content dataLength.toNat)
  { object :=
      { state := MessageStateDef.initialized.toUInt32
        messageId := 0
        sender := sender.toUInt32
        senderTime := senderTime
        sensorPlatform := sensorPlatform.toUInt32
        sensorType := sensorType.toUInt32
        sensorTime := sensorTime
        dataLength := dataLength
        dataBuffer := mallocs.dataBuffer
        specialParamBuffer := mallocs.specialParamBuffer }
    heap := heap.alloc mallocs.specialParamBuffer (List.replicate specialParamsBufferLength 0) }

/-- What the calls of `malloc` in an iteration return. -/
structure ShotMallocs where
  dataBuffer : Nat
  specialParamBuffer : Nat
  paramBuffer : Nat
  header : Nat

/-- All calls succeed: they return addresses that are not in use. -/
structure ShotMallocs.Succeed (mallocs : ShotMallocs) (heap : Heap UInt8) : Prop where
  dataBuffer : heap.Fresh mallocs.dataBuffer
  specialParamBuffer : heap.Fresh mallocs.specialParamBuffer
  paramBuffer : heap.Fresh mallocs.paramBuffer
  header : heap.Fresh mallocs.header
  nodup : [mallocs.dataBuffer, mallocs.specialParamBuffer, mallocs.paramBuffer,
    mallocs.header].Nodup

instance (mallocs : ShotMallocs) (heap : Heap UInt8) : Decidable (mallocs.Succeed heap) :=
  decidable_of_iff (heap.Fresh mallocs.dataBuffer ∧ heap.Fresh mallocs.specialParamBuffer ∧
      heap.Fresh mallocs.paramBuffer ∧ heap.Fresh mallocs.header ∧
      [mallocs.dataBuffer, mallocs.specialParamBuffer, mallocs.paramBuffer, mallocs.header].Nodup)
    ⟨fun h => ⟨h.1, h.2.1, h.2.2.1, h.2.2.2.1, h.2.2.2.2⟩, fun h => ⟨h.1, h.2, h.3, h.4, h.5⟩⟩

inductive CameraPhase where
  | running
  | finished
  /-- Memory was accessed or freed that is not live. -/
  | undefined
  deriving DecidableEq, Repr

structure CameraProcess where
  phase : CameraPhase
  client : TcpClient
  imageCounter : UInt32
  heap : Heap UInt8

namespace CameraProcess

def start (client : TcpClient) (heap : Heap UInt8) : CameraProcess := ⟨.running, client, 0, heap⟩

/-- The message of an image. The buffer of the parameters is not freed. -/
def createMessage (messageId sensorTime rows cols depth : UInt32) (imageDataBuffer : Bytes)
    (heap : Heap UInt8) (mallocs : ShotMallocs) (content : Nat → UInt8) : Option Placed :=
  let dataLength := rows * cols * depth
  let message := MessageObject.new .rpi 0 .rpi .camera1 sensorTime dataLength heap
    ⟨mallocs.dataBuffer, mallocs.specialParamBuffer, content⟩
  let message := { message with object.messageId := messageId }
  if imageDataBuffer.length < dataLength.toNat then none
  else do
    let message ← message.call (.fillDataBuffer (imageDataBuffer.take dataLength.toNat))
    let paramBuffer := malloc content specialParamsBufferLength
    let paramBuffer := memcpy paramBuffer 0 (bytes rows)
    let paramBuffer := memcpy paramBuffer 4 (bytes cols)
    let paramBuffer := memcpy paramBuffer 8 (bytes depth)
    let message :=
      { message with heap := message.heap.alloc mallocs.paramBuffer paramBuffer }
    let message ← message.call (.setSpecialParams paramBuffer specialParamsBufferLength)
    message.call .printMetaData

/-- The header has to fit into its block, which is not freed. -/
def sendMessage (client : TcpClient) (message : Placed) (header : Nat) (content : Nat → UInt8)
    (writes : Writes) : Option (Sent × Placed) := do
  let message ← message.call .createTCPHeader
  let filled ← message.view.createTCPHeader (malloc content tcpHeaderLength)
  if filled.length ≠ tcpHeaderLength then none
  else
    let message := { message with heap := message.heap.alloc header filled }
    let sendResult := client.send filled 37 writes.header
    if sendResult.result < 0 then some ({ sendResult with result := -2 }, message)
    else
      let dataLength := message.object.dataLength
      let dataBuffer ← message.heap.read message.object.dataBuffer dataLength.toNat
      let sendResult' := sendResult.client.send dataBuffer dataLength writes.data
      let sent : Sent :=
        { result := if sendResult'.result < 0 then -2 else 0
          client := sendResult'.client
          placed := sendResult.placed ++ sendResult'.placed }
      some (sent, message)

/-- The client, the bytes on its connection and the heap after an iteration. -/
def prep (client : TcpClient) (currentTime imageCounter : UInt32) (shot : Shot)
    (heap : Heap UInt8) (mallocs : ShotMallocs) : Option (TcpClient × Bytes × Heap UInt8) := do
  let frame := shot.capture.frame
  let newMessage ← createMessage imageCounter currentTime frame.rows frame.cols frame.channels
    frame.data heap mallocs shot.capture.heap
  let (sent, newMessage) ← sendMessage client newMessage mallocs.header shot.heap shot.writes
  let newMessage ← newMessage.call .printMetaData
  let heap ← newMessage.destroy
  return (sent.client, sent.placed, heap)

/-- An iteration of the main program, and the bytes that it leaves on the connection. -/
def step (p : CameraProcess) (i : Shot × ShotMallocs) : CameraProcess × Bytes :=
  match p.phase with
  | .finished | .undefined => (p, [])
  | .running               =>
    let (shot, mallocs) := i
    let currentTime := (getTimestamp shot.capture.time).toUInt32
    let imageCounter := p.imageCounter + 1
    match prep p.client currentTime imageCounter shot p.heap mallocs with
    | none                        => ({ p with phase := .undefined }, [])
    | some (client, placed, heap) =>
      let last := imageCounter > 1000 ∨ shot.capture.keyPressed
      (⟨if last then .finished else .running, client, imageCounter, heap⟩, placed)

abbrev machine : Machine CameraProcess (Shot × ShotMallocs) UInt8 := ⟨step⟩

/-- The allocator hands out addresses that are not in use. -/
def Supplied (p : CameraProcess) (i : Shot × ShotMallocs) : Prop :=
  p.phase = .running → i.2.Succeed p.heap

instance (p : CameraProcess) (i : Shot × ShotMallocs) : Decidable (p.Supplied i) :=
  inferInstanceAs (Decidable (_ → _))

end CameraProcess

/-! ### An iteration -/

namespace MessageObject

variable {sender : SenderTypeDef} {senderTime : UInt32} {sensorPlatform : SenderTypeDef}
  {sensorType : SensorTypeDef} {sensorTime dataLength : UInt32} {heap : Heap UInt8}
  {mallocs : Mallocs}

/-- The message owns the two blocks that were allocated for it. -/
lemma kept_new (hmallocs : mallocs.Succeed heap) :
    (MessageObject.new sender senderTime sensorPlatform sensorType sensorTime dataLength heap
      mallocs).Kept heap := by
  refine ⟨Or.inr ?_, Or.inr ?_, fun _ => hmallocs.ne, ?_⟩
  · have howned := Heap.owned_alloc (h := heap) hmallocs.dataBuffer
      (length_malloc mallocs.content dataLength.toNat)
    exact howned.of_blocks_eq (Heap.blocks_set_of_ne _ hmallocs.ne _)
  · exact Heap.owned_alloc hmallocs.specialParamBuffer List.length_replicate
  · intro a ha
    have hother : a ≠ mallocs.dataBuffer ∧ a ≠ mallocs.specialParamBuffer := by
      by_cases hnull : a = 0
      · rw [hnull]
        exact ⟨hmallocs.dataBuffer.1.symm, hmallocs.specialParamBuffer.1.symm⟩
      · exact ha hnull
    exact (Heap.blocks_set_of_ne _ hother.2 _).trans (Heap.blocks_set_of_ne _ hother.1 _)

/-- Seen with the bytes behind its pointers, the constructor is the one of `MessageClass`. -/
lemma view_new (hmallocs : mallocs.Succeed heap) :
    (MessageObject.new sender senderTime sensorPlatform sensorType sensorTime dataLength heap
        mallocs).view
      = MessageClass.new sender senderTime sensorPlatform sensorType sensorTime dataLength
        mallocs.content := by
  simp only [MessageObject.new, Placed.view, MessageClass.new,
    Heap.block_alloc_of_ne _ hmallocs.ne, Heap.block_alloc_self _ hmallocs.dataBuffer.1,
    Heap.block_alloc_self _ hmallocs.specialParamBuffer.1]

end MessageObject

namespace CameraProcess

variable {heap before : Heap UInt8} {mallocs : ShotMallocs} {content : Nat → UInt8}
  {messageId sensorTime rows cols depth : UInt32} {image : Bytes} {p : Placed}
  {client client' : TcpClient} {writes : Writes}

lemma createMessage_spec (hmallocs : mallocs.Succeed heap)
    (hlen : (rows * cols * depth).toNat ≤ image.length) :
    ∃ p paramBuffer,
      createMessage messageId sensorTime rows cols depth image heap mallocs content = some p ∧
      paramBuffer.length = specialParamsBufferLength ∧
      p.Kept (heap.alloc mallocs.paramBuffer paramBuffer) ∧
      p.object.dataBuffer = mallocs.dataBuffer ∧
      p.object.specialParamBuffer = mallocs.specialParamBuffer ∧
      Seifenkiste.createMessage messageId sensorTime rows cols depth image content
        = some p.view := by
  obtain ⟨hdata, hspecial, hparam, -, hnodup⟩ := hmallocs
  simp only [List.nodup_cons, List.mem_cons, not_or, List.not_mem_nil, not_false_eq_true,
    and_true] at hnodup
  obtain ⟨⟨hds, hdp, -⟩, ⟨hsp, -⟩, -⟩ := hnodup
  have hmessage : Mallocs.Succeed ⟨mallocs.dataBuffer, mallocs.specialParamBuffer, content⟩ heap :=
    ⟨hdata, hspecial, hds⟩
  -- the message with its id
  obtain ⟨p₁, hp₁⟩ : ∃ p₁ : Placed, p₁ = { MessageObject.new .rpi 0 .rpi .camera1 sensorTime
    (rows * cols * depth) heap ⟨mallocs.dataBuffer, mallocs.specialParamBuffer, content⟩ with
    object.messageId := messageId } := ⟨_, rfl⟩
  have hkept₁ : p₁.Kept heap := by
    rw [hp₁]
    exact (MessageObject.kept_new hmessage).call (c := .setId messageId) rfl
  have hview₁ : p₁.view = (MessageClass.new .rpi 0 .rpi .camera1 sensorTime (rows * cols * depth)
      content).setId messageId := by
    rw [hp₁, ← MessageObject.view_new hmessage]
    rfl
  have hdata₁ : p₁.object.dataBuffer = mallocs.dataBuffer := by
    rw [hp₁]
    rfl
  have hspecial₁ : p₁.object.specialParamBuffer = mallocs.specialParamBuffer := by
    rw [hp₁]
    rfl
  have hlength₁ : p₁.object.dataLength = rows * cols * depth := by
    rw [hp₁]
    rfl
  have hdata_ne : p₁.object.dataBuffer ≠ 0 := hdata₁ ▸ hdata.1
  have hspecial_ne : p₁.object.specialParamBuffer ≠ 0 := hspecial₁ ▸ hspecial.1
  -- the data is filled in
  have hfits : (image.take (rows * cols * depth).toNat).length ≤ p₁.object.dataLength.toNat := by
    rw [hlength₁, List.length_take_of_le hlen]
  obtain ⟨heap₂, hfill⟩ := hkept₁.exists_fill hdata_ne hfits
  have hkept₂ := hkept₁.call hfill
  have hview₂ := hkept₁.view_fillDataBuffer hdata_ne hfill
  -- the parameters are put together in a block of their own
  obtain ⟨params, hparams⟩ : ∃ params : Bytes, params = memcpy (memcpy (memcpy
    (malloc content specialParamsBufferLength) 0 (bytes rows)) 4 (bytes cols)) 8 (bytes depth) :=
    ⟨_, rfl⟩
  have hparams_length : params.length = specialParamsBufferLength := by
    rw [hparams, length_memcpy, length_memcpy, length_memcpy, length_malloc]
    all_goals simp [specialParamsBufferLength, length_memcpy]
  have hfresh := hkept₂.fresh hparam (hdata₁ ▸ Ne.symm hdp) (hspecial₁ ▸ Ne.symm hsp)
  have hkept₃ := hkept₂.alloc hfresh params
  have hview₃ := @Placed.view_alloc { p₁ with heap := heap₂ } mallocs.paramBuffer
    (hdata₁ ▸ hdp) (hspecial₁ ▸ hsp) params
  -- and copied into the message
  obtain ⟨heap₄, hset⟩ := hkept₃.exists_setParams hspecial_ne hparams_length
  have hkept₄ := hkept₃.call hset
  obtain ⟨result, hview₄⟩ := hkept₃.view_setSpecialParams hspecial_ne hset
  refine ⟨_, params, ?_, hparams_length, hkept₄, hdata₁, hspecial₁, ?_⟩
  · simp only [createMessage, hlen.not_gt, if_false, ← hp₁, hfill, Option.bind_eq_bind,
      Option.bind_some, ← hparams, hset]
    exact hkept₄.printMetaData hspecial_ne
  · simp only [Seifenkiste.createMessage, hlen.not_gt, if_false, ← hview₁, ← hview₂, ← hparams,
      ← hview₃, hview₄, Option.map_some]

/-- What a message that is ready to be sent places on the connection does not depend on where its
buffers are. -/
lemma sendMessage_spec (hkept : p.Kept before) (hspecial : p.object.specialParamBuffer ≠ 0)
    {o : Outgoing} (ho : o.message = p.view) {header : Nat}
    (hheader : p.object.dataBuffer ≠ header) :
    sendMessage client p header content writes
      = (client.sendMessage p.view content writes).map fun sent =>
        (sent, { p with heap := p.heap.alloc header o.header }) := by
  have hcall : p.call .createTCPHeader = some p := by
    obtain ⟨params, hread⟩ := (hkept.params.resolve_left hspecial).read_eq
    rw [Placed.call, hread, Option.map_some]
  have hcreate : p.view.createTCPHeader (malloc content tcpHeaderLength) = some o.header := by
    rw [← ho]
    exact o.createTCPHeader_eq (length_malloc content tcpHeaderLength)
  have hdata : p.view.dataBuffer = some o.data := ho ▸ o.data_eq
  have hlength : p.object.dataLength.toNat = o.data.length := by
    rw [o.data_length, ho]
    rfl
  have hread : (p.heap.alloc header o.header).read p.object.dataBuffer p.object.dataLength.toNat
      = some o.data := by
    rw [hlength]
    exact Heap.read_block ((p.heap.block_alloc_of_ne hheader _).trans hdata)
  simp only [sendMessage, hcall, hcreate, o.length_header, hread, TcpClient.sendMessage,
    MessageClass.getDataBufferPtr, hdata, Option.bind_eq_bind, Option.bind_some, Option.map_some,
    Option.getD_some, ne_eq, not_true, if_false]
  by_cases hfailed : (client.send o.header 37 writes.header).result < 0
  · simp only [hfailed, if_true]
  · simp only [hfailed, if_false]
    rfl

/-- The two buffers that an iteration does not free. -/
def lostBuffers : List Nat := [specialParamsBufferLength, tcpHeaderLength]

lemma prep_spec {shot : Shot} {currentTime imageCounter : UInt32} (hmallocs : mallocs.Succeed heap)
    (hlen : shot.length ≤ shot.capture.frame.data.length) :
    ∃ client' placed heap',
      prep client currentTime imageCounter shot heap mallocs = some (client', placed, heap') ∧
      client.prep currentTime imageCounter shot.capture.frame shot.capture.heap shot.heap
        shot.writes = some (client', placed) ∧
      heap.Grows lostBuffers heap' := by
  obtain ⟨p, paramBuffer, hcreate, hlength, hkept, hdata, hspecial, hmessage⟩ :=
    @createMessage_spec heap mallocs shot.capture.heap imageCounter currentTime
      shot.capture.frame.rows shot.capture.frame.cols shot.capture.frame.channels
      shot.capture.frame.data hmallocs hlen
  obtain ⟨-, hspecial_fresh, hparam, hheader, hnodup⟩ := hmallocs
  simp only [List.nodup_cons, List.mem_cons, not_or, List.not_mem_nil, not_false_eq_true,
    and_true] at hnodup
  obtain ⟨⟨-, -, hdh⟩, ⟨-, hsh⟩, hph, -⟩ := hnodup
  have hnull : p.object.specialParamBuffer ≠ 0 := hspecial ▸ hspecial_fresh.1
  let o := (createMessage_built hmessage).wellFormed.outgoing
  have hsend := @sendMessage_spec _ shot.heap p client shot.writes hkept hnull o rfl mallocs.header
    (hdata ▸ hdh)
  obtain ⟨sent, hsent⟩ : ∃ sent, client.sendMessage p.view shot.heap shot.writes = some sent := by
    rw [TcpClient.sendMessage, show p.view = o.message from rfl,
      o.createTCPHeader_eq (length_malloc shot.heap tcpHeaderLength)]
    exact ⟨_, rfl⟩
  -- the header gets an address that neither the message nor the parameters have
  have hbefore : (heap.alloc mallocs.paramBuffer paramBuffer).Fresh mallocs.header :=
    hheader.alloc_of_ne (Ne.symm hph) paramBuffer
  have hfresh : p.heap.Fresh mallocs.header :=
    hkept.fresh hbefore (hdata ▸ Ne.symm hdh) (hspecial ▸ Ne.symm hsh)
  have hlast := hkept.alloc hfresh o.header
  refine ⟨sent.client, sent.placed,
    (heap.alloc mallocs.paramBuffer paramBuffer).alloc mallocs.header o.header, ?_, ?_, ?_⟩
  · simp only [prep, hcreate, hsend, hsent, hlast.printMetaData hnull, hlast.destroy,
      Option.map_some, Option.bind_eq_bind, Option.bind_some]
    rfl
  · simp only [TcpClient.prep, Seifenkiste.prep, hmessage, hsent, Option.bind_eq_bind,
      Option.bind_some]
    rfl
  · have hgrows := ((Heap.Grows.refl heap).alloc hparam paramBuffer).alloc hbefore o.header
    rw [hlength, o.length_header] at hgrows
    exact hgrows

/-! ### Whole runs -/

section Runs

variable {q : CameraProcess} {i : Shot × ShotMallocs} {inputs : List (Shot × ShotMallocs)}

lemma step_running (hrunning : q.phase = .running) (hsupplied : q.Supplied i)
    (hlen : i.1.length ≤ i.1.capture.frame.data.length) :
    ∃ client' placed heap',
      q.step i = (⟨if q.imageCounter + 1 > 1000 ∨ i.1.capture.keyPressed then .finished
        else .running, client', q.imageCounter + 1, heap'⟩, placed) ∧
      q.client.prep (getTimestamp i.1.capture.time).toUInt32 (q.imageCounter + 1)
        i.1.capture.frame i.1.capture.heap i.1.heap i.1.writes = some (client', placed) ∧
      q.heap.Grows lostBuffers heap' := by
  obtain ⟨client', placed, heap', hstep, hprep, hgrows⟩ :=
    @prep_spec q.heap i.2 q.client i.1 (getTimestamp i.1.capture.time).toUInt32
      (q.imageCounter + 1) (hsupplied hrunning) hlen
  refine ⟨client', placed, heap', ?_, hprep, hgrows⟩
  simp only [step, hrunning, hstep]

lemma run_finished (h : q.phase = .finished) (inputs : List (Shot × ShotMallocs)) :
    machine.state q inputs = q ∧ machine.output q inputs = [] := by
  apply machine.state_of_fixed
  intro i
  simp only [step, h]

/-- What the loop does from any iteration on. -/
lemma run_running (hrunning : q.phase = .running)
    (hframes : ∀ i ∈ inputs, i.1.length ≤ i.1.capture.frame.data.length)
    (hsupplied : machine.Along Supplied q inputs) :
    (machine.state q inputs).phase ≠ .undefined ∧
      cameraMain q.client q.imageCounter (inputs.map Prod.fst)
        = some ((machine.state q inputs).client, machine.output q inputs) ∧
      q.heap.Grows (List.replicate (numbered q.imageCounter (inputs.map Prod.fst)).length
        lostBuffers).flatten (machine.state q inputs).heap := by
  induction inputs generalizing q with
  | nil =>
    refine ⟨?_, rfl, Heap.Grows.refl _⟩
    rw [Machine.state_nil, hrunning]
    decide
  | cons i inputs ih =>
    obtain ⟨hlen, hframes⟩ := List.forall_mem_cons.mp hframes
    obtain ⟨hsupply, hsupplied⟩ := hsupplied
    obtain ⟨client', placed, heap', hstep, hprep, hgrows⟩ := step_running hrunning hsupply hlen
    rw [Machine.state_cons, Machine.output_cons, List.map_cons, cameraMain, numbered]
    simp only [hstep, hprep, Option.bind_eq_bind, Option.bind_some] at hsupplied ⊢
    by_cases hlast : q.imageCounter + 1 > 1000 ∨ i.1.capture.keyPressed
    · obtain ⟨hstate, houtput⟩ := @run_finished ⟨.finished, client', q.imageCounter + 1, heap'⟩
        rfl inputs
      simp only [hlast, if_true, hstate, houtput, List.append_nil]
      refine ⟨by decide, rfl, ?_⟩
      simpa using hgrows
    · simp only [hlast, if_false] at hsupplied ⊢
      obtain ⟨hdefined, hcamera, hrest⟩ :=
        @ih ⟨.running, client', q.imageCounter + 1, heap'⟩ rfl hframes hsupplied
      refine ⟨hdefined, ?_, ?_⟩
      · rw [hcamera]
        rfl
      · rw [List.length_cons, List.replicate_succ, List.flatten_cons]
        exact hgrows.trans hrest

/-- When every frame has its pixels, the main program of the camera stays in its memory whatever
the connection does, leaves on it what `cameraMain` says, and loses two buffers with each image. -/
theorem camera_on_heap (client : TcpClient) (heap : Heap UInt8)
    (hframes : ∀ i ∈ inputs, i.1.length ≤ i.1.capture.frame.data.length)
    (hsupplied : machine.Along Supplied (start client heap) inputs) :
    let q := machine.state (start client heap) inputs
    let shots := inputs.map Prod.fst
    q.phase ≠ .undefined ∧
      cameraMain client 0 shots = some (q.client, machine.output (start client heap) inputs) ∧
      heap.Grows (List.replicate (numbered 0 shots).length lostBuffers).flatten q.heap :=
  run_running rfl hframes hsupplied

/-- Two pixels, the second of which is allocated where the first has been freed. -/
def placedPixels : List (Shot × ShotMallocs) :=
  [(Server.pixelShot ⟨37, 3⟩, ⟨16, 32, 48, 64⟩), (Server.pixelShot ⟨-1, 0⟩, ⟨16, 32, 80, 96⟩)]

/-- The theorem at two pixels the second of which cannot be sent. -/
theorem camera_on_heap_pixels :
    emptyHeap.Grows [12, 37, 12, 37]
      (machine.state (start .connected emptyHeap) placedPixels).heap :=
  (@camera_on_heap placedPixels .connected emptyHeap (by decide +kernel) (by decide +kernel)).2.2

end Runs

end CameraProcess
end Seifenkiste
