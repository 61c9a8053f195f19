import Seifenkiste.Message.Ownership
import Seifenkiste.Server.Alignment
import Seifenkiste.Server.Display

/-!
# The memory of the receiver loop

The receiver loop with its message object and the heap, which both go on from one turn to the
next: the object of a turn is built where the last one was destroyed, and holds its pointers. An
access outside of the live blocks leaves nothing that could be said about the rest of the run.
`memorySafe_iff` tells which runs have none, and `agrees_with_serve` that those do what `serve`
says, and what they leave on the heap.
-/

namespace Seifenkiste

open Memory LittleEndian Transition

/-- Everything but the construction of a message can be seen from outside. -/
def Event.isOutward : Event → Bool
  | .constructed _ => false
  | _              => true

namespace Server

/-- What the calls of `malloc` in a turn return. -/
structure TurnMallocs where
  message : Mallocs
  response : Nat

/-- The local variables of a turn that reads its body. -/
structure Locals where
  headerBuffer : Bytes
  rows : UInt32
  cols : UInt32
  countBytes : Nat
  deriving DecidableEq, Repr

inductive ProcessPhase where
  | idle
  | receiving (locals : Locals)
  | stopped (stop : Stop)
  /-- Memory was accessed or freed that is not live. -/
  | undefined
  deriving DecidableEq, Repr

/-- The process that serves a connection. -/
structure Process where
  phase : ProcessPhase
  /-- The place of `new_message`, and the heap. -/
  memory : Placed
  input : Bytes
  turns : Nat

namespace Process

def start (memory : Placed) (input : Bytes) : Process := ⟨.idle, memory, input, 0⟩

/-- From the header to the first read of the body: the message is constructed and printed, and the
dimensions are taken from its parameters. -/
def beginTurn (mallocs : TurnMallocs) (p : Process) (headerBuffer : Bytes) : Process :=
  let newMessage := p.memory.object.ofHeaderMessage p.memory.heap mallocs.message headerBuffer
  let p := { p with memory := newMessage }
  match newMessage.callAll [.printMetaData, .extractSpecialParamBuffer],
      newMessage.view.extractSpecialParamBuffer with
  | some _, some (rows, cols, _) =>
    if newMessage.object.dataLength.toNat < 1 then
      { p with
        phase := .stopped (.exit "ERROR waiting for data but expecting data of length <1 !") }
    else { p with phase := .receiving ⟨headerBuffer, rows, cols, 0⟩ }
  -- the parameters have just been printed, so there is no third case
  | _, _ => { p with phase := .undefined }

/-- The message is destroyed at the end of its block, and the loop begins again. -/
def endTurn (p : Process) : Process :=
  match p.memory.destroy with
  | some heap => { p with phase := .idle, memory.heap := heap, turns := p.turns + 1 }
  | none      => { p with phase := .undefined }

/-- The image is displayed, which reads all of its pixels, and the response is written from a
block that nobody frees. -/
def displayAndRespond (mallocs : TurnMallocs) (p : Process) (locals : Locals) :
    Process × List Event :=
  let newMessage := p.memory
  let block := (newMessage.heap.block newMessage.object.dataBuffer).getD []
  let frame : Mat := ⟨locals.rows, locals.cols, cv8UC3, block⟩
  match newMessage.heap.read newMessage.object.dataBuffer frame.viewed with
  | none   => ({ p with phase := .undefined }, [])
  | some _ =>
    -- of the environment only the content of the fresh block matters
    let env := { Environment.cleared with heap := mallocs.message.content }
    let response := response env true newMessage.object.messageId
    let heap := newMessage.heap.alloc mallocs.response response
    let data := block.take newMessage.object.dataLength.toNat
    (endTurn { p with memory.heap := heap },
      [.displayed frame, .responded response, .processed locals.headerBuffer data])

/-- The answer to the result of a header read that leaves `input`. -/
def headerRead (mallocs : TurnMallocs) (p : Process) (result : Int) (received input : Bytes) :
    Process × List Event :=
  let p := { p with input := input }
  if result < 0 then
    ({ p with phase := .stopped (.exit "ERROR reading message header from connection") },
      [.readHeader result received])
  else if result ≠ tcpHeaderLength then
    ({ p with phase := .stopped (.exit "ERROR message header too short") },
      [.readHeader result received])
  else (p.beginTurn mallocs received, [.readHeader result received])

/-- The answer to the result of a body read that leaves `input`. The kernel stores what it read
behind the bytes that are there. -/
def dataRead (mallocs : TurnMallocs) (p : Process) (locals : Locals) (result : Int)
    (received input : Bytes) : Process × List Event :=
  let p := { p with input := input }
  if result < 0 then
    ({ p with phase := .stopped (.exit "ERROR reading data from socket") },
      [.readData result received])
  else
    match p.memory.heap.writeAt p.memory.object.dataBuffer locals.countBytes received with
    | none      => ({ p with phase := .undefined }, [.readData result received])
    | some heap =>
      let p := { p with memory.heap := heap }
      let locals := { locals with countBytes := locals.countBytes + result.toNat }
      if locals.countBytes < p.memory.object.dataLength.toNat then
        ({ p with phase := .receiving locals }, [.readData result received])
      else
        let (p, events) := p.displayAndRespond mallocs locals
        (p, .readData result received :: events)

def step (supply : Nat → TurnMallocs) (p : Process) (result : Int) : Process × List Event :=
  let received := p.input.take result.toNat
  let input := p.input.drop result.toNat
  match p.phase with
  | .undefined | .stopped _ => (p, [])
  | .idle                   =>
    if Granted tcpHeaderLength p.input.length result then
      p.headerRead (supply p.turns) result received input
    else ({ p with phase := .stopped (.blocked tcpHeaderLength) }, [])
  | .receiving locals       =>
    let length := p.memory.object.dataLength.toNat
    if Granted length p.input.length result then
      p.dataRead (supply p.turns) locals result received input
    else ({ p with phase := .stopped (.blocked length) }, [])

abbrev machine (supply : Nat → TurnMallocs) : Machine Process Int Event := ⟨step supply⟩

lemma machine_step (supply : Nat → TurnMallocs) : (machine supply).step = step supply := rfl

/-- Why a run that reads no more stays where it is, `none` when nothing can be said. -/
def stop (p : Process) : Option Stop :=
  match p.phase with
  | .idle         => some (.blocked tcpHeaderLength)
  | .receiving _  => some (.blocked p.memory.object.dataLength.toNat)
  | .stopped stop => some stop
  | .undefined    => none

/-- The allocator hands out addresses that are not in use. -/
def Supplied (supply : Nat → TurnMallocs) (p : Process) (_ : Int) : Prop :=
  match p.phase with
  | .idle        => (supply p.turns).message.Succeed p.memory.heap
  | .receiving _ => p.memory.heap.Fresh (supply p.turns).response
  | _            => True

instance (mallocs : Mallocs) (heap : Heap UInt8) : Decidable (mallocs.Succeed heap) :=
  decidable_of_iff (heap.Fresh mallocs.dataBuffer ∧ heap.Fresh mallocs.specialParamBuffer ∧
      mallocs.dataBuffer ≠ mallocs.specialParamBuffer)
    ⟨fun h => ⟨h.1, h.2.1, h.2.2⟩, fun h => ⟨h.1, h.2, h.3⟩⟩

instance (supply : Nat → TurnMallocs) (p : Process) (result : Int) :
    Decidable (p.Supplied supply result) :=
  match p with
  | ⟨.idle, memory, _, turns⟩        =>
    inferInstanceAs (Decidable ((supply turns).message.Succeed memory.heap))
  | ⟨.receiving _, memory, _, turns⟩ =>
    inferInstanceAs (Decidable (memory.heap.Fresh (supply turns).response))
  | ⟨.stopped _, _, _, _⟩            => isTrue trivial
  | ⟨.undefined, _, _, _⟩            => isTrue trivial

end Process

/-- The next read does not take the turn out of the memory of its message: a header has its
control segments, a body ends where the message does, and the image is not larger. -/
def Conforms (s : State) (result : Int) : Prop :=
  let received := s.input.take result.toNat
  match s.phase with
  | .idle        => Granted tcpHeaderLength s.input.length result → result = tcpHeaderLength →
      HasControlSegments received
  | .receiving t => Granted t.length s.input.length result →
      (t.receive received).data.length ≤ t.length ∧
        ((t.receive received).data.length = t.length → t.frame.viewed ≤ t.length)
  | .stopped _   => True

instance (s : State) (result : Int) : Decidable (Conforms s result) :=
  match s with
  | ⟨.idle, input, _⟩        => inferInstanceAs (Decidable (
      Granted tcpHeaderLength input.length result → result = tcpHeaderLength →
        HasControlSegments (input.take result.toNat)))
  | ⟨.receiving t, input, _⟩ => inferInstanceAs (Decidable (
      Granted t.length input.length result →
        (t.receive (input.take result.toNat)).data.length ≤ t.length ∧
          ((t.receive (input.take result.toNat)).data.length = t.length →
            t.frame.viewed ≤ t.length)))
  | ⟨.stopped _, _, _⟩       => isTrue trivial

/-! ### What the loop leaves on the heap -/

/-- The heap with a block for each response. -/
def withResponses (supply : Nat → TurnMallocs) (heap : Heap UInt8) (responses : List Bytes) :
    Heap UInt8 :=
  responses.zipIdx.foldl
    (fun heap response => heap.alloc (supply response.2).response response.1) heap

lemma withResponses_concat (supply : Nat → TurnMallocs) (heap : Heap UInt8)
    (responses : List Bytes) (response : Bytes) :
    withResponses supply heap (responses ++ [response]) =
      (withResponses supply heap responses).alloc (supply responses.length).response response := by
  simp [withResponses, List.zipIdx_append]

end Server

/-! ### The message of a turn -/

namespace Placed

variable {before : Heap UInt8} {p : Placed}

lemma Kept.writeAt (hp : Kept before p) {off : Nat} {b src : Bytes} {heap : Heap UInt8}
    (hb : p.heap.block p.object.dataBuffer = some b) (hoff : off ≤ b.length)
    (hw : p.heap.writeAt p.object.dataBuffer off src = some heap) :
    Kept before { p with heap := heap } := by
  rw [Heap.writeAt_eq_write hb hoff] at hw
  exact hp.write (Or.inl rfl) hw

/-- The parameters of a message that owns them can be printed and taken. -/
lemma Kept.callAll_params (hp : Kept before p) (hnull : p.object.specialParamBuffer ≠ 0) :
    p.callAll [.printMetaData, .extractSpecialParamBuffer] = some p := by
  simp only [Placed.callAll, hp.printMetaData hnull, hp.extract, Option.bind_some]

/-- Printing the parameters behind a pointer that names no block is an access outside. -/
lemma callAll_params_of_stale (h : p.heap.block p.object.specialParamBuffer = none) :
    p.callAll [.printMetaData, .extractSpecialParamBuffer] = none := by
  have hread : p.heap.read p.object.specialParamBuffer specialParamsBufferLength = none := by
    rw [Heap.read, if_neg (by decide), h, Option.bind_none]
  simp only [callAll, call, hread, Option.map_none, Option.bind_none]

end Placed

namespace Server

/-- The message of a turn on the heap, and the turn as it is without. -/
structure Holds (before : Heap UInt8) (memory : Placed) (t : Turn) : Prop where
  kept : memory.Kept before
  dataBuffer_ne : memory.object.dataBuffer ≠ 0
  specialParamBuffer_ne : memory.object.specialParamBuffer ≠ 0
  state_eq : memory.object.state = MessageStateDef.initialized.toUInt32
  accepted : t.message.getState = MessageStateDef.initialized.toUInt32
  messageId_eq : memory.object.messageId = t.message.messageId
  dataLength_eq : memory.object.dataLength = t.message.dataLength
  length_dataBuffer : (t.message.dataBuffer.getD []).length = t.length
  block : ∃ b, memory.heap.block memory.object.dataBuffer = some b ∧ b.length = t.length ∧
    b.take t.data.length = t.data

variable {before : Heap UInt8} {memory : Placed} {t : Turn}

/-- An accepted header gives the same message on the heap and without. -/
lemma holds_of_accepts {env : Environment} {mallocs : Mallocs} (hbegun : t.Begun env)
    (hchunks : t.chunks = []) (hsegments : HasControlSegments t.header)
    (henv : env.object.state ≠ MessageStateDef.invalid.toUInt32)
    (hstate : memory.object.state ≠ MessageStateDef.invalid.toUInt32)
    (hmallocs : mallocs.Succeed memory.heap) :
    let newMessage := memory.object.ofHeaderMessage memory.heap mallocs t.header
    Holds memory.heap newMessage t ∧
      newMessage.view.specialParamBuffer = t.message.specialParamBuffer ∧
      t.message.specialParamBuffer ≠ none := by
  intro newMessage
  have hkept : newMessage.Kept memory.heap :=
    kept_of_accepts ⟨hsegments, hstate⟩ hbegun.length_header hmallocs
  obtain ⟨hdata, hparams, -⟩ :=
    @MessageObject.ofHeaderMessage_of_accepts memory.object memory.heap mallocs t.header
      ⟨hsegments, hstate⟩
  -- the turn in which the message is the one on the heap
  let placed : Turn := ⟨t.header, newMessage.view, []⟩
  let env' : Environment :=
    { Environment.cleared with object := memory.view, heap := mallocs.content }
  have hplaced : placed.Begun env' :=
    ⟨hbegun.length_header, MessageObject.view_ofHeaderMessage hmallocs⟩
  obtain ⟨hid, hlength, hbuffer, hslice⟩ := hbegun.message_of_accepts ⟨hsegments, henv⟩
  obtain ⟨hid', hlength', hbuffer', hslice'⟩ := hplaced.message_of_accepts ⟨hsegments, hstate⟩
  have hempty : t.data = [] := by rw [Turn.data, hchunks, List.flatten_nil]
  refine ⟨⟨hkept, ?_, ?_, hplaced.getState_iff.mpr ⟨hsegments, hstate⟩,
    hbegun.getState_iff.mpr ⟨hsegments, henv⟩, hid'.trans hid.symm, hlength'.trans hlength.symm,
    ?_, ?_⟩, hslice'.trans hslice.symm, ?_⟩
  · rw [hdata]
    exact hmallocs.dataBuffer.1
  · rw [hparams]
    exact hmallocs.specialParamBuffer.1
  · rw [hbuffer, Option.getD_some, length_malloc, Turn.length, hlength]
  · refine ⟨_, hbuffer', ?_, ?_⟩
    · rw [length_malloc, Turn.length, hlength]
    · rw [hempty]
      rfl
  · rw [hslice]
    exact Option.some_ne_none _

/-- A chunk that stays in the block. -/
lemma Holds.receive (h : Holds before memory t) {chunk : Bytes} {heap : Heap UInt8}
    (hle : t.data.length ≤ t.length)
    (hw : memory.heap.writeAt memory.object.dataBuffer t.data.length chunk = some heap) :
    Holds before { memory with heap := heap } (t.receive chunk) := by
  obtain ⟨b, hb, hlen, htake⟩ := h.block
  have hoff : t.data.length ≤ b.length := hlen ▸ hle
  have hfits : t.data.length + chunk.length ≤ b.length :=
    (Heap.isSome_writeAt_iff hb hoff chunk).mp (by rw [hw]; rfl)
  refine ⟨h.kept.writeAt hb hoff hw, h.dataBuffer_ne, h.specialParamBuffer_ne, h.state_eq,
    h.accepted, h.messageId_eq, h.dataLength_eq, h.length_dataBuffer, _,
    Heap.block_writeAt hb hoff hw, ?_, ?_⟩
  · rw [length_memcpy hfits, hlen, Turn.length_receive]
  · rw [Turn.data_receive, List.length_append, take_memcpy hoff, htake]

/-- The image of a complete turn is the block. -/
lemma Holds.frame_eq (h : Holds before memory t) (hlen : t.data.length = t.length) :
    memory.heap.block memory.object.dataBuffer = some t.data ∧ t.frame.data = t.data := by
  obtain ⟨b, hb, hblock, htake⟩ := h.block
  constructor
  · rw [hb, ← htake, hlen, ← hblock, List.take_length]
  · rw [Turn.frame, memcpy_zero_of_length_eq]
    rw [h.length_dataBuffer, hlen]

/-! ### One read -/

/-- A turn that reads its body, on the heap and without. -/
structure Reads (before : Heap UInt8) (memory : Placed) (locals : Locals) (t : Turn) : Prop where
  holds : Holds before memory t
  headerBuffer : locals.headerBuffer = t.header
  rows : locals.rows = t.frame.rows
  cols : locals.cols = t.frame.cols
  countBytes : locals.countBytes = t.data.length
  lt : t.data.length < t.length

/-- The phases, when `before` is the heap that the turn has found. Between two turns the object
holds a pointer that names no block. -/
def InPhase (before : Heap UInt8) (memory : Placed) : ProcessPhase → Phase → Prop
  | .idle, .idle                     => memory.heap = before ∧
      memory.object.state ≠ MessageStateDef.invalid.toUInt32 ∧
      memory.heap.block memory.object.specialParamBuffer = none
  | .receiving locals, .receiving t  => Reads before memory locals t
  | .stopped stop, .stopped stop'    => stop = stop'
  | _, _                             => False

/-- The loop on its memory stands where the one without does, after the events `t`. -/
structure Agrees (supply : Nat → TurnMallocs) (before : Heap UInt8) (t : List Event) (p : Process)
    (s : State) : Prop where
  input : p.input = s.input
  turns : p.turns = s.turns
  responses : (Trace.responses t).length = s.turns
  phase : InPhase (withResponses supply before (Trace.responses t)) p.memory p.phase s.phase

section Step

variable {p : Process} {mallocs : TurnMallocs} {locals : Locals} {env : Environment}

lemma inPhase_beginTurn (hbegun : t.Begun env) (hchunks : t.chunks = [])
    (hsegments : HasControlSegments t.header)
    (henv : env.object.state ≠ MessageStateDef.invalid.toUInt32)
    (hstate : p.memory.object.state ≠ MessageStateDef.invalid.toUInt32)
    (hmallocs : mallocs.message.Succeed p.memory.heap) :
    InPhase p.memory.heap (p.beginTurn mallocs t.header).memory
        (p.beginTurn mallocs t.header).phase (enter t) ∧
      (p.beginTurn mallocs t.header).input = p.input ∧
      (p.beginTurn mallocs t.header).turns = p.turns := by
  obtain ⟨hholds, hview, hparams⟩ :=
    holds_of_accepts hbegun hchunks hsegments henv hstate hmallocs
  obtain ⟨params, hsome⟩ := Option.ne_none_iff_exists'.mp hparams
  have hcall := hholds.kept.callAll_params hholds.specialParamBuffer_ne
  have hlength := hholds.dataLength_eq
  rw [hsome] at hview
  simp only [Process.beginTurn, MessageClass.extractSpecialParamBuffer, hcall, hview, hlength,
    Option.map_some]
  have hdata : t.data.length = 0 := by rw [Turn.data, hchunks, List.flatten_nil, List.length_nil]
  have hframe : t.params = params := by rw [Turn.params, hsome, Option.getD_some]
  by_cases hzero : t.message.dataLength.toNat < 1
  · have hshort : t.length < 1 := hzero
    simp only [hzero, hshort, if_true, enter, hparams, if_false, and_true]
    rfl
  · have hlong : ¬ t.length < 1 := hzero
    simp only [hzero, hlong, if_false, enter, hparams, and_true]
    refine ⟨hholds, rfl, ?_, ?_, hdata.symm, ?_⟩
    · rw [Turn.frame, hframe]
    · rw [Turn.frame, hframe]
    · rw [hdata]
      exact not_lt.mp hlong

/-- A header that is rejected leaves the pointer of the message before. -/
lemma beginTurn_of_not_segments {header : Bytes}
    (hstale : p.memory.heap.block p.memory.object.specialParamBuffer = none)
    (hsegments : ¬ HasControlSegments header) :
    (p.beginTurn mallocs header).phase = .undefined := by
  have hreject : ¬ p.memory.object.Accepts header := fun h => hsegments h.1
  have hcall := @Placed.callAll_params_of_stale
    ⟨{ p.memory.object with state := MessageStateDef.invalid.toUInt32 }, p.memory.heap⟩ hstale
  simp only [Process.beginTurn, MessageObject.ofHeaderMessage_of_not_accepts hreject, hcall]

/-- The pixels are read from the block, which holds the body. -/
lemma read_viewed_iff (h : Holds before memory t) (hlen : t.data.length = t.length) (viewed : Nat) :
    (memory.heap.read memory.object.dataBuffer viewed).isSome ↔ viewed ≤ t.length := by
  rw [Heap.isSome_read_iff (h.frame_eq hlen).1, hlen]

/-- The end of a turn whose image fits into its message. -/
lemma displayAndRespond_of_fits (h : Holds before p.memory t) (hlen : t.data.length = t.length)
    (hheader : locals.headerBuffer = t.header) (hrows : locals.rows = t.frame.rows)
    (hcols : locals.cols = t.frame.cols) (hresponse : p.memory.heap.Fresh mallocs.response)
    (hfits : t.frame.viewed ≤ t.length) :
    p.displayAndRespond mallocs locals
      = (⟨.idle, ⟨p.memory.object, before.alloc mallocs.response t.response⟩, p.input, p.turns + 1⟩,
        t.closing) := by
  obtain ⟨hblock, hdata⟩ := h.frame_eq hlen
  have hframe : Mat.mk locals.rows locals.cols cv8UC3 t.data = t.frame := by
    rw [hrows, hcols, ← hdata]
    rfl
  obtain ⟨pixels, hread⟩ := Option.isSome_iff_exists.mp ((read_viewed_iff h hlen _).mpr hfits)
  have hletters : okokok ++ bytes p.memory.object.messageId = t.response := by
    rw [h.messageId_eq]
    rfl
  have hdestroy := (h.kept.alloc hresponse t.response).destroy
  simp only [Process.displayAndRespond, hblock, Option.getD_some, hframe, hread, response_true,
    hletters, Process.endTurn, hdestroy, hheader, h.dataLength_eq, Turn.closing, Turn.length]

/-- The pixels of a larger image are not all there. -/
lemma displayAndRespond_of_not_fits (h : Holds before p.memory t)
    (hlen : t.data.length = t.length) (hrows : locals.rows = t.frame.rows)
    (hcols : locals.cols = t.frame.cols) (hlarge : ¬ t.frame.viewed ≤ t.length) :
    (p.displayAndRespond mallocs locals).1.phase = .undefined := by
  have hviewed (data : Bytes) : (Mat.mk locals.rows locals.cols cv8UC3 data).viewed
      = t.frame.viewed := by
    rw [hrows, hcols]
    rfl
  have hread : p.memory.heap.read p.memory.object.dataBuffer t.frame.viewed = none := by
    rw [← Option.not_isSome_iff_eq_none, read_viewed_iff h hlen]
    exact hlarge
  simp only [Process.displayAndRespond, hviewed, hread]

variable {supply : Nat → TurnMallocs} {envs : Nat → Environment} {events more : List Event}
  {s : State} {input : Bytes} {turns : Nat} {result : Int}

lemma responses_append (t u : List Event) :
    Trace.responses (t ++ u) = Trace.responses t ++ Trace.responses u :=
  List.filterMap_append

/-- Without a response the heap that the turn has found stays the same. -/
lemma Agrees.quiet (h : Agrees supply before events p s) {p' : Process} {s' : State}
    (hmore : Trace.responses more = []) (hinput : p'.input = s'.input)
    (hturns : p'.turns = s'.turns) (hsame : s'.turns = s.turns)
    (hphase : InPhase (withResponses supply before (Trace.responses events)) p'.memory p'.phase
      s'.phase) : Agrees supply before (events ++ more) p' s' := by
  have hresponses : Trace.responses (events ++ more) = Trace.responses events := by
    rw [responses_append, hmore, List.append_nil]
  refine ⟨hinput, hturns, ?_, ?_⟩
  · rw [hresponses, hsame, h.responses]
  · rw [hresponses]
    exact hphase

/-- The answers of the two loops to a read, when they are the same. -/
def SameAnswer (supply : Nat → TurnMallocs) (before : Heap UInt8) (events : List Event)
    (p : Process × List Event) (s : State × List Event) : Prop :=
  p.2 = s.2.filter Event.isOutward ∧ Agrees supply before (events ++ p.2) p.1 s.1

lemma sameAnswer_headerRead
    (h : Agrees supply before events ⟨.idle, memory, input, turns⟩ ⟨.idle, input, turns⟩)
    (henv : (envs turns).object.state ≠ MessageStateDef.invalid.toUInt32)
    (hmallocs : (supply turns).message.Succeed memory.heap)
    (hgranted : Granted tcpHeaderLength input.length result)
    (hsegments : result = tcpHeaderLength → HasControlSegments (input.take result.toNat)) :
    SameAnswer supply before events
      (Process.step supply ⟨.idle, memory, input, turns⟩ result)
      (step envs ⟨.idle, input, turns⟩ result) := by
  rw [step_idle hgranted]
  simp only [Process.step, hgranted, if_true, Process.headerRead]
  by_cases hneg : result < 0
  · rw [headerRead_of_neg hneg, if_pos hneg]
    exact ⟨rfl, h.quiet rfl rfl rfl rfl rfl⟩
  by_cases hfull : result = tcpHeaderLength
  · obtain ⟨hheap, hstate, hstale⟩ := h.phase
    have hlen := length_take_of_granted hgranted
    rw [hfull, headerRead_full rfl, if_neg (by decide), if_neg (not_not.mpr rfl)]
    rw [hfull, Int.toNat_natCast] at hlen hsegments
    obtain ⟨t, ht⟩ : ∃ t : Turn, t = ⟨input.take tcpHeaderLength, MessageClass.ofHeaderMessage
      (envs turns).object (envs turns).heap (input.take tcpHeaderLength), []⟩ := ⟨_, rfl⟩
    have hbegun : t.Begun (envs turns) := by
      rw [ht]
      exact ⟨hlen, rfl⟩
    have hheader : t.header = input.take tcpHeaderLength := by rw [ht]
    have hchunks : t.chunks = [] := by rw [ht]
    rw [Int.toNat_natCast, ← ht, ← hheader]
    rw [← hheader] at hsegments
    obtain ⟨hphase, hinput, hturns⟩ := @inPhase_beginTurn _
      ⟨.idle, memory, input.drop tcpHeaderLength, turns⟩ (supply turns) _ hbegun hchunks
      (hsegments rfl) henv hstate hmallocs
    refine ⟨rfl, h.quiet rfl hinput hturns rfl ?_⟩
    rw [← hheap]
    exact hphase
  · rw [headerRead_of_ne hneg hfull, if_neg hneg, if_pos hfull]
    exact ⟨rfl, h.quiet rfl rfl rfl rfl rfl⟩

/-- The chunk is stored exactly when the body does not get longer than the message. -/
lemma Reads.isSome_writeAt_iff (h : Reads before memory locals t) (chunk : Bytes) :
    (memory.heap.writeAt memory.object.dataBuffer locals.countBytes chunk).isSome
      ↔ (t.receive chunk).data.length ≤ t.length := by
  obtain ⟨b, hb, hlen, -⟩ := h.holds.block
  have hoff : t.data.length ≤ b.length := hlen ▸ h.lt.le
  rw [h.countBytes, Heap.isSome_writeAt_iff hb hoff, hlen, Turn.data_receive, List.length_append]

lemma sameAnswer_dataRead
    (h : Agrees supply before events ⟨.receiving locals, memory, input, turns⟩
      ⟨.receiving t, input, turns⟩)
    (hresponse : memory.heap.Fresh (supply turns).response)
    (hgranted : Granted t.length input.length result)
    (hwithin : (t.receive (input.take result.toNat)).data.length ≤ t.length)
    (hfits : (t.receive (input.take result.toNat)).data.length = t.length →
      t.frame.viewed ≤ t.length) :
    SameAnswer supply before events
      (Process.step supply ⟨.receiving locals, memory, input, turns⟩ result)
      (step envs ⟨.receiving t, input, turns⟩ result) := by
  have hreads : Reads _ memory locals t := h.phase
  have hlength : memory.object.dataLength.toNat = t.length :=
    congrArg UInt32.toNat hreads.holds.dataLength_eq
  rw [step_receiving hgranted]
  simp only [Process.step, hlength, hgranted, if_true, Process.dataRead]
  by_cases hneg : result < 0
  · rw [dataRead_of_neg hneg, if_pos hneg]
    exact ⟨rfl, h.quiet rfl rfl rfl rfl rfl⟩
  have hchunk := length_take_of_granted hgranted
  set received := input.take result.toNat
  obtain ⟨heap, hw⟩ :=
    Option.isSome_iff_exists.mp ((hreads.isSome_writeAt_iff received).mpr hwithin)
  have hcount : locals.countBytes + result.toNat = (t.receive received).data.length := by
    rw [hreads.countBytes, ← hchunk, Turn.data_receive, List.length_append]
  have hstored : Holds _ { memory with heap := heap } (t.receive received) :=
    hreads.holds.receive hreads.lt.le (hreads.countBytes ▸ hw)
  simp only [hneg, if_false, hw, hcount]
  by_cases hmore : (t.receive received).data.length < t.length
  · rw [dataRead_of_lt hneg hmore, if_pos hmore]
    exact ⟨rfl, h.quiet rfl rfl rfl rfl
      ⟨hstored, hreads.headerBuffer, hreads.rows, hreads.cols, rfl, hmore⟩⟩
  · have hfull : (t.receive received).data.length = t.length :=
      hwithin.antisymm (not_lt.mp hmore)
    have haccepted := hreads.holds.accepted
    have hidle : leave (envs turns) (t.receive received) = .idle := by
      have hdistinct : MessageStateDef.initialized.toUInt32 ≠ MessageStateDef.invalid.toUInt32 := by
        decide
      simp only [leave, Turn.receive, haccepted, hdistinct, false_and, if_false]
    rw [dataRead_of_le hneg hfull.ge, if_neg hmore, hidle]
    have hend := @displayAndRespond_of_fits _ (t.receive received)
      ⟨.receiving locals, { memory with heap := heap }, input.drop result.toNat, turns⟩
      (supply turns) { locals with countBytes := (t.receive received).data.length } hstored hfull
      hreads.headerBuffer hreads.rows hreads.cols (hresponse.writeAt hw) (hfits hfull)
    rw [hend]
    have hresponses : Trace.responses
        (events ++ .readData result received :: (t.receive received).closing)
        = Trace.responses events ++ [(t.receive received).response] :=
      responses_append _ _
    have hfresh := hresponse.writeAt hw
    refine ⟨rfl, rfl, rfl, ?_, ?_⟩
    · rw [hresponses, List.length_append, h.responses]
      rfl
    · rw [hresponses, withResponses_concat, h.responses]
      refine ⟨rfl, ?_, ?_⟩
      · rw [hstored.state_eq]
        decide
      · have hkept := hstored.kept.alloc hfresh (t.receive received).response
        exact (hkept.params.resolve_left hstored.specialParamBuffer_ne).block_before

/-- A read that conforms is answered in the same way. -/
lemma sameAnswer_of_conforms (h : Agrees supply before events p s)
    (henvs : NeverInvalid envs)
    (hsupplied : p.Supplied supply result) (hconforms : Conforms s result) :
    SameAnswer supply before events (p.step supply result) (step envs s result) := by
  obtain ⟨phase, memory, input, turns⟩ := p
  obtain ⟨phase', input', turns'⟩ := s
  obtain rfl : input = input' := h.input
  obtain rfl : turns = turns' := h.turns
  have hphase := h.phase
  cases phase' with
  | idle =>
    cases phase with
    | idle =>
      by_cases hgranted : Granted tcpHeaderLength input.length result
      · exact sameAnswer_headerRead h (henvs turns) hsupplied hgranted (hconforms hgranted)
      · rw [step_idle_refused hgranted]
        simp only [Process.step, hgranted, if_false]
        exact ⟨rfl, h.quiet rfl rfl rfl rfl rfl⟩
    | _ => exact absurd hphase id
  | receiving t =>
    cases phase with
    | receiving locals =>
      by_cases hgranted : Granted t.length input.length result
      · obtain ⟨hwithin, hfits⟩ := hconforms hgranted
        exact sameAnswer_dataRead h hsupplied hgranted hwithin hfits
      · have hlength : memory.object.dataLength.toNat = t.length :=
          congrArg UInt32.toNat (show Reads _ memory locals t from hphase).holds.dataLength_eq
        rw [step_receiving_refused hgranted]
        simp only [Process.step, hlength, hgranted, if_false]
        exact ⟨rfl, h.quiet rfl rfl rfl rfl rfl⟩
    | _ => exact absurd hphase id
  | stopped stop =>
    cases phase with
    | stopped stop' => exact ⟨rfl, h.quiet rfl rfl rfl rfl hphase⟩
    | _ => exact absurd hphase id

/-- A read that does not conform takes the turn out of its memory. -/
lemma undefined_of_not_conforms (h : Agrees supply before events p s)
    (hconforms : ¬ Conforms s result) : (p.step supply result).1.phase = .undefined := by
  obtain ⟨phase, memory, input, turns⟩ := p
  obtain ⟨phase', input', turns'⟩ := s
  obtain rfl : input = input' := h.input
  obtain rfl : turns = turns' := h.turns
  have hphase := h.phase
  cases phase' with
  | idle =>
    cases phase with
    | idle =>
      simp only [Conforms, Classical.not_imp] at hconforms
      obtain ⟨hgranted, rfl, hsegments⟩ := hconforms
      obtain ⟨-, -, hstale⟩ := hphase
      have hpos : ¬ (tcpHeaderLength : Int) < 0 := by decide
      simp only [Process.step, hgranted, if_true, Process.headerRead, hpos, ne_eq, not_true,
        if_false]
      exact beginTurn_of_not_segments hstale hsegments
    | _ => exact absurd hphase id
  | receiving t =>
    cases phase with
    | receiving locals =>
      have hreads : Reads _ memory locals t := hphase
      have hlength : memory.object.dataLength.toNat = t.length :=
        congrArg UInt32.toNat hreads.holds.dataLength_eq
      simp only [Conforms, Classical.not_imp] at hconforms
      obtain ⟨hgranted, hoverrun⟩ := hconforms
      simp only [Process.step, hlength, hgranted, if_true, Process.dataRead]
      have hchunk := length_take_of_granted hgranted
      set received := input.take result.toNat
      have hcount : locals.countBytes + result.toNat = (t.receive received).data.length := by
        rw [hreads.countBytes, ← hchunk, Turn.data_receive, List.length_append]
      have hneg : ¬ result < 0 := by
        -- nothing is stored when the read fails
        intro hneg
        have hsame : (t.receive received).data.length = t.data.length := by
          rw [Turn.data_receive, List.length_append, hchunk, Int.toNat_of_nonpos hneg.le,
            Nat.add_zero]
        rw [hsame] at hoverrun
        exact hoverrun ⟨hreads.lt.le, fun h => absurd h hreads.lt.ne⟩
      by_cases hwithin : (t.receive received).data.length ≤ t.length
      · obtain ⟨heap, hw⟩ :=
          Option.isSome_iff_exists.mp ((hreads.isSome_writeAt_iff received).mpr hwithin)
        have hstored : Holds _ { memory with heap := heap } (t.receive received) :=
          hreads.holds.receive hreads.lt.le (hreads.countBytes ▸ hw)
        have hlarge : (t.receive received).data.length = t.length ∧ ¬ t.frame.viewed ≤ t.length :=
          Classical.not_imp.mp fun hfits => hoverrun ⟨hwithin, hfits⟩
        obtain ⟨hfull, hlarge⟩ := hlarge
        simp only [hneg, if_false, hw, hcount, hfull, lt_irrefl]
        exact @displayAndRespond_of_not_fits _ (t.receive received)
          ⟨.receiving locals, { memory with heap := heap }, input.drop result.toNat, turns⟩
          (supply turns) _ hstored hfull hreads.rows hreads.cols hlarge
      · have hw : memory.heap.writeAt memory.object.dataBuffer locals.countBytes received
            = none := by
          rw [← Option.not_isSome_iff_eq_none, hreads.isSome_writeAt_iff]
          exact hwithin
        simp only [hneg, if_false, hw]
    | _ => exact absurd hphase id
  | stopped stop => exact absurd trivial hconforms

end Step

/-! ### Whole runs -/

section Runs

variable {supply : Nat → TurnMallocs} {envs : Nat → Environment} {events : List Event}
  {p : Process} {s : State} {input : Bytes} {schedule : List Int}

lemma agrees_start (hstate : memory.object.state ≠ MessageStateDef.invalid.toUInt32)
    (hstale : memory.heap.block memory.object.specialParamBuffer = none) :
    Agrees supply memory.heap [] (Process.start memory input) (start input) :=
  ⟨rfl, rfl, rfl, rfl, hstate, hstale⟩

lemma Agrees.phase_ne (h : Agrees supply before events p s) : p.phase ≠ .undefined := by
  obtain ⟨phase, memory, input, turns⟩ := p
  have hphase := h.phase
  rintro rfl
  cases hs : s.phase <;> exact absurd hphase (by rw [hs]; exact id)

/-- Both loops wait for the same, or stopped for the same reason. -/
lemma Agrees.stop_eq (h : Agrees supply before events p s) : p.stop = some s.phase.stop := by
  obtain ⟨phase, memory, input, turns⟩ := p
  have hphase := h.phase
  cases hs : s.phase with
  | idle =>
    rw [hs] at hphase
    cases phase with
    | idle => rfl
    | _ => exact absurd hphase id
  | receiving t =>
    rw [hs] at hphase
    cases phase with
    | receiving locals =>
      have hreads : Reads _ memory locals t := hphase
      simp only [Process.stop, Phase.stop, hreads.holds.dataLength_eq, Turn.length]
    | _ => exact absurd hphase id
  | stopped stop =>
    rw [hs] at hphase
    cases phase with
    | stopped stop' => exact congrArg some hphase
    | _ => exact absurd hphase id

/-- The construction of a message is no response. -/
lemma responses_filter (t : List Event) :
    Trace.responses (t.filter Event.isOutward) = Trace.responses t := by
  induction t with
  | nil => rfl
  | cons e t ih =>
    cases e with
    | constructed message => exact ih
    | responded response => exact congrArg (response :: ·) ih
    | _ => exact ih

lemma Agrees.phase_of_idle (h : Agrees supply before events p s) (hidle : s.phase = .idle) :
    p.phase = .idle := by
  have hphase := h.phase
  rw [hidle] at hphase
  cases hp : p.phase with
  | idle => rfl
  | _ =>
    rw [hp] at hphase
    exact absurd hphase id

lemma Agrees.heap_of_idle (h : Agrees supply before events p s) (hidle : p.phase = .idle) :
    p.memory.heap = withResponses supply before (Trace.responses events) := by
  have hphase := h.phase
  rw [hidle] at hphase
  cases hs : s.phase with
  | idle =>
    rw [hs] at hphase
    exact hphase.1
  | _ =>
    rw [hs] at hphase
    exact absurd hphase id

lemma state_of_undefined (h : p.phase = .undefined) (schedule : List Int) :
    (Process.machine supply).state p schedule = p := by
  apply ((Process.machine supply).state_of_fixed _ schedule).1
  intro result
  simp only [Process.step, h]

/-- As long as every read conforms the two loops give the same answers. -/
lemma agrees_run (h : Agrees supply before events p s)
    (henvs : NeverInvalid envs)
    (hsupplied : (Process.machine supply).Along (Process.Supplied supply) p schedule)
    (hconforms : (machine envs).Along Conforms s schedule) :
    (Process.machine supply).output p schedule
        = ((machine envs).output s schedule).filter Event.isOutward ∧
      Agrees supply before (events ++ (Process.machine supply).output p schedule)
        ((Process.machine supply).state p schedule) ((machine envs).state s schedule) := by
  induction schedule generalizing events p s with
  | nil =>
    rw [Machine.output_nil, List.append_nil]
    exact ⟨rfl, h⟩
  | cons result schedule ih =>
    obtain ⟨hsupply, hsupplied⟩ := hsupplied
    obtain ⟨hconform, hconforms⟩ := hconforms
    obtain ⟨hevents, hagrees⟩ := sameAnswer_of_conforms h henvs hsupply hconform
    obtain ⟨hrest, hend⟩ := ih hagrees hsupplied hconforms
    rw [Machine.output_cons, Machine.output_cons, List.filter_append, hrest, ← List.append_assoc]
    exact ⟨congrArg (· ++ _) hevents, hrest ▸ hend⟩

/-- The run is defined exactly as long as every read conforms. -/
lemma defined_iff (h : Agrees supply before events p s)
    (henvs : NeverInvalid envs)
    (hsupplied : (Process.machine supply).Along (Process.Supplied supply) p schedule) :
    ((Process.machine supply).state p schedule).phase ≠ .undefined
      ↔ (machine envs).Along Conforms s schedule := by
  induction schedule generalizing events p s with
  | nil => exact ⟨fun _ => trivial, fun _ => h.phase_ne⟩
  | cons result schedule ih =>
    obtain ⟨hsupply, hsupplied⟩ := hsupplied
    by_cases hconform : Conforms s result
    · obtain ⟨-, hagrees⟩ := sameAnswer_of_conforms h henvs hsupply hconform
      rw [Machine.Along, and_iff_right hconform]
      exact ih hagrees hsupplied
    · have hundefined : (p.step supply result).1.phase = .undefined :=
        undefined_of_not_conforms h hconform
      rw [Machine.state_cons, Process.machine_step, state_of_undefined hundefined]
      exact ⟨fun hdefined => absurd hundefined hdefined, fun halong => absurd halong.1 hconform⟩

/-- When the object does not begin in the state `invalid` and its pointer names no block, the loop
stays in the memory that is its own exactly as long as every header has its control segments,
every body ends where its message ends, and no image has more pixels than its message has room
for. What the memory held otherwise does not matter. -/
theorem memorySafe_iff
    (hstate : memory.object.state ≠ MessageStateDef.invalid.toUInt32)
    (hstale : memory.heap.block memory.object.specialParamBuffer = none)
    (henvs : NeverInvalid envs)
    (hsupplied : (Process.machine supply).Along (Process.Supplied supply)
      (Process.start memory input) schedule) :
    ((Process.machine supply).state (Process.start memory input) schedule).phase ≠ .undefined
      ↔ (machine envs).Along Conforms (start input) schedule :=
  defined_iff (agrees_start hstate hstale) henvs hsupplied

/-- A run that stays in its memory is the run of `serve`, up to the construction of messages. Each
message is given back to the heap, and of each response the block is left. -/
theorem agrees_with_serve
    (hstate : memory.object.state ≠ MessageStateDef.invalid.toUInt32)
    (hstale : memory.heap.block memory.object.specialParamBuffer = none)
    (henvs : NeverInvalid envs)
    (hsupplied : (Process.machine supply).Along (Process.Supplied supply)
      (Process.start memory input) schedule)
    (hdefined : ((Process.machine supply).state (Process.start memory input) schedule).phase
      ≠ .undefined) :
    let p := (Process.machine supply).state (Process.start memory input) schedule
    let t := (Process.machine supply).output (Process.start memory input) schedule
    p.stop = some (serve envs input schedule).stop ∧
      p.input = (serve envs input schedule).input ∧
      t = (serve envs input schedule).trace.filter Event.isOutward ∧
      (p.phase = .idle →
        p.memory.heap = withResponses supply memory.heap (Trace.responses t)) := by
  intro p t
  have hstart : Agrees supply memory.heap [] (Process.start memory input) (start input) :=
    agrees_start hstate hstale
  have hconforms := (defined_iff hstart henvs hsupplied).mp hdefined
  obtain ⟨hevents, hagrees⟩ := agrees_run hstart henvs hsupplied hconforms
  rw [serve_eq]
  refine ⟨hagrees.stop_eq, hagrees.input, hevents, ?_⟩
  intro hidle
  exact hagrees.heap_of_idle hidle

/-- Blocks for the messages and the responses of any number of turns. -/
def spreadBlocks (k : Nat) : TurnMallocs := ⟨twoBlocks, 48 + k⟩

/-- Two images of one pixel, each read in two pieces. -/
def twoPixels : Bytes := (pixelMessage 3 [7, 8, 9]).frame ++ (pixelMessage 3 [4, 5, 6]).frame

/-- The theorem at two messages in the memory of one that was destroyed. -/
theorem memorySafe_two_pixels :
    ((Process.machine spreadBlocks).state (Process.start ⟨staleObject, emptyHeap⟩ twoPixels)
      [37, 3, 37, 3]).phase ≠ .undefined :=
  (@memorySafe_iff ⟨staleObject, emptyHeap⟩ spreadBlocks (fun _ => .cleared) twoPixels
    [37, 3, 37, 3] (by decide) rfl neverInvalid_cleared (by decide +kernel)).mpr
    (by decide +kernel)

/-- The theorem at the same run: the blocks of two responses are left. -/
theorem agrees_with_serve_two_pixels :
    ((Process.machine spreadBlocks).state (Process.start ⟨staleObject, emptyHeap⟩ twoPixels)
        [37, 3, 37, 3]).memory.heap
      = withResponses spreadBlocks emptyHeap [okokok ++ bytes 0, okokok ++ bytes 0] := by
  have hrun := @agrees_with_serve ⟨staleObject, emptyHeap⟩ spreadBlocks (fun _ => .cleared)
    twoPixels [37, 3, 37, 3] (by decide) rfl neverInvalid_cleared (by decide +kernel)
    (by decide +kernel)
  have hresponses : Trace.responses ((Process.machine spreadBlocks).output
      (Process.start ⟨staleObject, emptyHeap⟩ twoPixels) [37, 3, 37, 3])
      = [okokok ++ bytes 0, okokok ++ bytes 0] := by decide +kernel
  rw [hrun.2.2.2 (by decide +kernel), hresponses]

end Runs

end Server
end Seifenkiste
