import Seifenkiste.Library.Transition
import Seifenkiste.Server.Program

/-!
# The server as a reactive machine

The receiver loop seen from the connection: between two reads the server is idle, inside a body,
or stopped, and a read result moves it from one of these phases to the next. `serve_eq` shows
that the program does exactly what the machine does.
-/

namespace Seifenkiste

open Memory LittleEndian Transition

/-! ### Turns -/

/-- One turn of the receiver loop: the header it read, the message it built, and the chunks that
the body reads delivered so far. -/
structure Turn where
  header : Bytes
  message : MessageClass
  chunks : List Bytes

namespace Turn

def data (t : Turn) : Bytes := t.chunks.flatten

/-- The number of bytes that the body loop waits for. -/
def length (t : Turn) : Nat := t.message.dataLength.toNat

def receive (t : Turn) (chunk : Bytes) : Turn := { t with chunks := t.chunks ++ [chunk] }

@[simp] lemma data_receive (t : Turn) (chunk : Bytes) :
    (t.receive chunk).data = t.data ++ chunk := by
  simp [data, receive]

@[simp] lemma length_receive (t : Turn) (chunk : Bytes) : (t.receive chunk).length = t.length := rfl

/-- The special parameters; the turn has got past printing them, so they are there. -/
def params (t : Turn) : Bytes := t.message.specialParamBuffer.getD []

/-- The image that is displayed at the end of the turn. -/
def frame (t : Turn) : Mat where
  rows := word (slice t.params 0 4)
  cols := word (slice t.params 4 4)
  elemSize := cv8UC3
  data := memcpy (t.message.dataBuffer.getD []) 0 t.data

/-- The response that is written at the end of the turn. -/
def response (t : Turn) : Bytes := okokok ++ bytes t.message.messageId

/-- What happens once the body is there. -/
def closing (t : Turn) : List Event :=
  [.displayed t.frame, .responded t.response, .processed t.header (t.data.take t.length)]

end Turn

/-! ### The machine -/

namespace Server

inductive Phase where
  | idle
  | receiving (turn : Turn)
  | stopped (stop : Stop)

/-- Why a run that reads no more stays in a phase. -/
def Phase.stop : Phase → Stop
  | idle           => .blocked tcpHeaderLength
  | receiving turn => .blocked turn.length
  | stopped stop   => stop

structure State where
  phase : Phase
  /-- The bytes that are still to come. -/
  input : Bytes
  /-- The number of turns that are over. -/
  turns : Nat

/-- The phase after a complete header was read. -/
def enter (t : Turn) : Phase :=
  if t.message.specialParamBuffer = none then .stopped .segmentationFault
  else if t.length < 1 then
    .stopped (.exit "ERROR waiting for data but expecting data of length <1 !")
  else .receiving t

/-- The phase after the message was destroyed. -/
def leave (env : Environment) (t : Turn) : Phase :=
  if t.message.getState = MessageStateDef.invalid.toUInt32 ∧ env.dangling then .stopped .abort
  else .idle

/-- The answer to the result of a header read that leaves `input`. -/
def headerRead (env : Environment) (turns : Nat) (result : Int) (received input : Bytes) :
    State × List Event :=
  if result < 0 then
    (⟨.stopped (.exit "ERROR reading message header from connection"), input, turns⟩,
      [.readHeader result received])
  else if result ≠ tcpHeaderLength then
    (⟨.stopped (.exit "ERROR message header too short"), input, turns⟩,
      [.readHeader result received])
  else
    let message := MessageClass.ofHeaderMessage env.object env.heap received
    (⟨enter ⟨received, message, []⟩, input, turns⟩,
      [.readHeader result received, .constructed message])

/-- The answer to the result of a body read that leaves `input`. -/
def dataRead (env : Environment) (t : Turn) (turns : Nat) (result : Int) (received input : Bytes) :
    State × List Event :=
  if result < 0 then
    (⟨.stopped (.exit "ERROR reading data from socket"), input, turns⟩,
      [.readData result received])
  else if (t.receive received).data.length < t.length then
    (⟨.receiving (t.receive received), input, turns⟩, [.readData result received])
  else
    (⟨leave env (t.receive received), input, turns + 1⟩,
      .readData result received :: (t.receive received).closing)

def step (memory : Nat → Environment) (s : State) (result : Int) : State × List Event :=
  let received := s.input.take result.toNat
  let input := s.input.drop result.toNat
  match s.phase with
  | .stopped _ => (s, [])
  | .idle =>
    if Granted tcpHeaderLength s.input.length result then
      headerRead (memory s.turns) s.turns result received input
    else (⟨.stopped (.blocked tcpHeaderLength), s.input, s.turns⟩, [])
  | .receiving t =>
    if Granted t.length s.input.length result then
      dataRead (memory s.turns) t s.turns result received input
    else (⟨.stopped (.blocked t.length), s.input, s.turns⟩, [])

abbrev machine (memory : Nat → Environment) : Machine State Int Event := ⟨step memory⟩

@[simp] lemma machine_step (memory : Nat → Environment) : (machine memory).step = step memory := rfl

/-! ### What a step does -/

section Step

variable {memory : Nat → Environment} {env : Environment} {t : Turn} {turns : Nat} {result : Int}
  {received input : Bytes}

lemma headerRead_of_neg (h : result < 0) :
    headerRead env turns result received input
      = (⟨.stopped (.exit "ERROR reading message header from connection"), input, turns⟩,
        [.readHeader result received]) := by
  rw [headerRead, if_pos h]

lemma headerRead_of_ne (hneg : ¬ result < 0) (h : result ≠ tcpHeaderLength) :
    headerRead env turns result received input
      = (⟨.stopped (.exit "ERROR message header too short"), input, turns⟩,
        [.readHeader result received]) := by
  rw [headerRead, if_neg hneg, if_pos h]

lemma headerRead_full {message : MessageClass}
    (h : message = MessageClass.ofHeaderMessage env.object env.heap received) :
    headerRead env turns tcpHeaderLength received input
      = (⟨enter ⟨received, message, []⟩, input, turns⟩,
        [.readHeader tcpHeaderLength received, .constructed message]) := by
  have hpos : ¬ (tcpHeaderLength : Int) < 0 := by decide
  rw [headerRead, if_neg hpos, if_neg (not_not.mpr rfl), h]

lemma dataRead_of_neg (h : result < 0) :
    dataRead env t turns result received input
      = (⟨.stopped (.exit "ERROR reading data from socket"), input, turns⟩,
        [.readData result received]) := by
  rw [dataRead, if_pos h]

lemma dataRead_of_lt (hneg : ¬ result < 0) (h : (t.receive received).data.length < t.length) :
    dataRead env t turns result received input
      = (⟨.receiving (t.receive received), input, turns⟩, [.readData result received]) := by
  rw [dataRead, if_neg hneg, if_pos h]

lemma dataRead_of_le (hneg : ¬ result < 0) (h : t.length ≤ (t.receive received).data.length) :
    dataRead env t turns result received input
      = (⟨leave env (t.receive received), input, turns + 1⟩,
        .readData result received :: (t.receive received).closing) := by
  rw [dataRead, if_neg hneg, if_neg h.not_gt]

lemma step_idle (h : Granted tcpHeaderLength input.length result) :
    step memory ⟨.idle, input, turns⟩ result
      = headerRead (memory turns) turns result (input.take result.toNat)
        (input.drop result.toNat) := by
  simp only [step, h, if_true]

lemma step_idle_refused (h : ¬ Granted tcpHeaderLength input.length result) :
    step memory ⟨.idle, input, turns⟩ result
      = (⟨.stopped (.blocked tcpHeaderLength), input, turns⟩, []) := by
  simp only [step, h, if_false]

lemma step_receiving (h : Granted t.length input.length result) :
    step memory ⟨.receiving t, input, turns⟩ result
      = dataRead (memory turns) t turns result (input.take result.toNat)
        (input.drop result.toNat) := by
  simp only [step, h, if_true]

lemma step_receiving_refused (h : ¬ Granted t.length input.length result) :
    step memory ⟨.receiving t, input, turns⟩ result
      = (⟨.stopped (.blocked t.length), input, turns⟩, []) := by
  simp only [step, h, if_false]

end Step

/-- A server that has stopped reads no more. -/
lemma step_stopped {memory : Nat → Environment} {s : State} {stop : Stop}
    (h : s.phase = .stopped stop) (result : Int) : step memory s result = (s, []) := by
  simp only [step, h]

/-- The server at the beginning of a connection. -/
def start (input : Bytes) : State := ⟨.idle, input, 0⟩

/-! ### The program does what the machine does -/

section Refinement

variable (memory : Nat → Environment)

/-- What the machine makes of a world, from a phase and a turn on. -/
def expected (phase : Phase) (turns : Nat) (w : World) : Outcome :=
  let s : State := (machine memory).state ⟨phase, w.input, turns⟩ w.schedule
  { stop := s.phase.stop
    input := s.input
    trace := w.trace ++ (machine memory).output ⟨phase, w.input, turns⟩ w.schedule }

variable {memory}

lemma expected_nil {phase : Phase} {turns : Nat} {w : World} (h : w.schedule = []) :
    expected memory phase turns w = ⟨phase.stop, w.input, w.trace⟩ := by
  simp [expected, h]

lemma expected_cons {phase : Phase} {turns : Nat} {w : World} {result : Int} {rest : List Int}
    (h : w.schedule = result :: rest) {s : State} {events : List Event}
    (hstep : step memory ⟨phase, w.input, turns⟩ result = (s, events)) :
    expected memory phase turns w
      = expected memory s.phase s.turns ⟨s.input, rest, w.trace ++ events⟩ := by
  simp [expected, h, hstep]

lemma expected_stopped (stop : Stop) (turns : Nat) (w : World) :
    expected memory (.stopped stop) turns w = ⟨stop, w.input, w.trace⟩ := by
  have hfixed := (machine memory).state_of_fixed (s := ⟨.stopped stop, w.input, turns⟩)
    (fun _ => rfl) w.schedule
  simp only [expected, hfixed, Phase.stop, List.append_nil]

/-- Where the program waits, the machine does. -/
lemma expected_of_waits {phase : Phase} {turns asked : Nat} {w : World}
    (hasked : phase.stop = .blocked asked)
    (hrefused : ∀ result, ¬ Granted asked w.input.length result →
      step memory ⟨phase, w.input, turns⟩ result
        = (⟨.stopped (.blocked asked), w.input, turns⟩, []))
    (h : w.Waits asked) :
    expected memory phase turns w = ⟨.blocked asked, w.input, w.trace⟩ := by
  cases hs : w.schedule with
  | nil => rw [expected_nil hs, hasked]
  | cons result rest =>
    have hresult : ¬ Granted asked w.input.length result := (World.waits_of_cons hs).mp h
    rw [expected_cons hs (hrefused result hresult), expected_stopped, List.append_nil]

/-- The body loop followed by `k`, when `k` continues the turn once the body is complete. -/
lemma outcome_dataLoop_bind {t : Turn} {block : Bytes} {k : Bytes → ServerM Empty}
    {turns bound : Nat}
    (hk : ∀ (t' : Turn) (w : World), t'.header = t.header → t'.message = t.message →
      t.length ≤ t'.data.length → w.schedule.length < bound →
      outcome (k (memcpy block 0 t'.data) w)
        = expected memory (leave (memory turns) t') (turns + 1)
          { w with trace := w.trace ++ t'.closing })
    {fuel : Nat} {w : World} (hlt : t.data.length < t.length) (hbound : w.schedule.length ≤ bound)
    (hfuel : w.schedule.length < fuel) :
    outcome ((readTCPDataLoop t.length fuel (memcpy block 0 t.data) t.data.length >>= k) w)
      = expected memory (.receiving t) turns w := by
  induction fuel generalizing t w with
  | zero => exact absurd hfuel (Nat.not_lt_zero _)
  | succ fuel ih =>
    rcases w.waits_or_granted t.length with hwaits | ⟨result, rest, hs, h⟩
    · rw [expected_of_waits rfl (fun _ h => step_receiving_refused h) hwaits,
        bind_of_error (dataLoop_blocked hlt hwaits)]
      rfl
    have hrest : rest.length < w.schedule.length := by simp [hs]
    have hshort : rest.length < fuel := hrest.trans_le (Nat.lt_succ_iff.mp hfuel)
    let received := w.input.take result.toNat
    have hstep : step memory ⟨.receiving t, w.input, turns⟩ result
        = dataRead (memory turns) t turns result received (w.input.drop result.toNat) :=
      step_receiving h
    rw [bind_apply_congr (dataLoop_read hlt hs h)]
    by_cases hneg : result < 0
    · rw [expected_cons hs (hstep.trans (dataRead_of_neg hneg)), expected_stopped, if_pos hneg]
      rfl
    -- the counter and the buffer after this read
    have hcount : t.data.length + result.toNat = (t.receive received).data.length := by
      rw [Turn.data_receive, List.length_append, length_take_of_granted h]
    have hbuffer : memcpy (memcpy block 0 t.data) t.data.length received
        = memcpy block 0 (t.receive received).data := by
      rw [memcpy_zero_memcpy rfl, Turn.data_receive]
    rw [if_neg hneg, hcount, hbuffer]
    by_cases hmore : (t.receive received).data.length < t.length
    · rw [expected_cons hs (hstep.trans (dataRead_of_lt hneg hmore))]
      exact ih (t := t.receive received) hk hmore (hrest.le.trans hbound) hshort
    · obtain ⟨fuel, rfl⟩ := Nat.exists_eq_add_one_of_ne_zero (Nat.ne_zero_of_lt hshort)
      have hdone : t.length ≤ (t.receive received).data.length := not_lt.mp hmore
      rw [expected_cons hs (hstep.trans (dataRead_of_le hneg hdone)),
        bind_of_ok (dataLoop_done hdone)]
      have hclose := hk (t.receive received) (w.received result rest) rfl rfl hdone
        (hrest.trans_le hbound)
      rw [World.received, List.append_assoc] at hclose
      exact hclose

/-- The response is overwritten as a whole, so the heap does not show in it. -/
lemma response_true (env : Environment) (messageId : UInt32) :
    response env true messageId = okokok ++ bytes messageId := by
  have hlen : okokok.length = 6 := by decide
  simp only [response, if_true]
  rw [memcpy_zero_memcpy hlen.symm, memcpy_zero_of_length_eq]
  rw [List.length_append, hlen, length_bytes, length_malloc]

lemma displayAndRespond_apply {env : Environment} {t : Turn} {block : Bytes}
    (hparams : t.message.specialParamBuffer ≠ none) (hblock : t.message.dataBuffer.getD [] = block)
    (hlen : t.length ≤ t.data.length) (w : World) :
    displayAndRespond env t.header t.message (memcpy block 0 t.data) w
      = .ok () { w with trace := w.trace ++ t.closing } := by
  obtain ⟨params, hparams⟩ := Option.ne_none_iff_exists'.mp hparams
  have htake : (memcpy block 0 t.data).take t.length = t.data.take t.length := by
    rw [memcpy_zero, List.take_append_of_le_length hlen]
  have hdims : t.message.extractSpecialParamBuffer.getD (env.rows, env.cols, env.depth)
      = (word (slice t.params 0 4), word (slice t.params 4 4), word (slice t.params 8 4)) := by
    rw [MessageClass.extractSpecialParamBuffer, Turn.params, hparams]
    rfl
  have hclosing : t.closing = [.displayed ⟨word (slice t.params 0 4), word (slice t.params 4 4),
      cv8UC3, memcpy block 0 t.data⟩, .responded (response env true t.message.getId),
      .processed t.header ((memcpy block 0 t.data).take t.message.getDataLength.toNat)] := by
    rw [response_true, ← hblock]
    rw [← hblock] at htake
    simp only [Turn.closing, Turn.frame, Turn.response, MessageClass.getId,
      MessageClass.getDataLength]
    rw [← Turn.length, htake]
  simp only [displayAndRespond, sendResponse, hdims, hclosing, bind_assoc, pure_bind, record_bind,
    record_apply, List.append_assoc, List.cons_append, List.nil_append]

/-- A turn whose header is there, followed by `k`. -/
lemma outcome_body_bind {t : Turn} {k : ServerM Empty} {turns : Nat} {w : World}
    (hchunks : t.chunks = [])
    (hk : ∀ w' : World, w'.schedule.length < w.schedule.length →
      outcome (k w') = expected memory .idle (turns + 1) w') :
    outcome ((do
        printMetaData t.message
        let (_, dataBuffer) ←
          readTCPData (t.message.getDataBufferPtr.getD []) t.message.getDataLength
        displayAndRespond (memory turns) t.header t.message dataBuffer
        destroy (memory turns) t.message
        k) w)
      = expected memory (enter t) turns w := by
  have hdata : t.data = [] := by rw [Turn.data, hchunks, List.flatten_nil]
  cases hparams : t.message.specialParamBuffer with
  | none =>
    simp only [enter, hparams, if_true, expected_stopped, printMetaData]
    rfl
  | some params =>
    by_cases hzero : t.length < 1
    · have hlength : t.message.getDataLength.toNat < 1 := hzero
      simp only [enter, hparams, reduceCtorEq, hzero, if_true, if_false, expected_stopped,
        printMetaData, readTCPData, hlength]
      rfl
    · have hlength : ¬ t.message.getDataLength.toNat < 1 := hzero
      simp only [enter, hparams, reduceCtorEq, hzero, if_false, printMetaData, readTCPData, hlength,
        pure_bind, bind_assoc, get_bind]
      let block := t.message.dataBuffer.getD []
      have hlt : t.data.length < t.length := by
        rw [hdata, List.length_nil]
        exact Nat.pos_of_ne_zero fun h => hzero (by simp [h])
      have hinit (fuel : Nat) : readTCPDataLoop t.length fuel block 0
          = readTCPDataLoop t.length fuel (memcpy block 0 t.data) t.data.length := by
        rw [hdata, memcpy_zero]
        rfl
      have hlast (t' : Turn) (w' : World) (hheader : t'.header = t.header)
          (hmessage : t'.message = t.message) (hlen : t.length ≤ t'.data.length) :
          displayAndRespond (memory turns) t.header t.message (memcpy block 0 t'.data) w'
            = .ok () { w' with trace := w'.trace ++ t'.closing } := by
        rw [← hheader, ← hmessage]
        refine displayAndRespond_apply ?_ (by rw [hmessage]) (by rwa [Turn.length, hmessage]) w'
        rw [hmessage, hparams]
        exact Option.some_ne_none params
      show outcome ((readTCPDataLoop t.length (w.schedule.length + 1) block 0 >>= fun buffer =>
        displayAndRespond (memory turns) t.header t.message buffer >>= fun _ =>
        destroy (memory turns) t.message >>= fun _ => k) w) = _
      rw [hinit]
      refine outcome_dataLoop_bind ?_ hlt le_rfl (Nat.lt_succ_self _)
      intro t' w' hheader hmessage hlen hshort
      have hdestroy : leave (memory turns) t' = leave (memory turns) t := by
        simp only [leave, hmessage]
      rw [hdestroy]
      simp only [bind, EStateM.bind, hlast t' w' hheader hmessage hlen]
      by_cases habort : t.message.getState = MessageStateDef.invalid.toUInt32
          ∧ (memory turns).dangling
      · simp only [destroy, leave, habort, and_self, if_true, expected_stopped]
        rfl
      · simp only [destroy, leave, habort, if_false]
        exact hk _ hshort

lemma processMessages_eq {fuel turns : Nat} {w : World} (hfuel : w.schedule.length < fuel) :
    outcome (processMessages memory fuel turns w) = expected memory .idle turns w := by
  induction fuel generalizing turns w with
  | zero => exact absurd hfuel (Nat.not_lt_zero _)
  | succ fuel ih =>
    simp only [processMessages, receiverTurn, readTCPHeader, bind_assoc]
    rcases w.waits_or_granted tcpHeaderLength with hwaits | ⟨result, rest, hs, h⟩
    · rw [expected_of_waits rfl (fun _ h => step_idle_refused h) hwaits,
        bind_of_error (read_of_waits hwaits)]
      rfl
    rw [bind_of_ok (read_of_granted hs h)]
    have htake := length_take_of_granted h
    set received := w.input.take result.toNat
    have hstep : step memory ⟨.idle, w.input, turns⟩ result
        = headerRead (memory turns) turns result received (w.input.drop result.toNat) :=
      step_idle h
    simp only [toInt_of_granted h]
    by_cases hneg : result < 0
    · rw [expected_cons hs (hstep.trans (headerRead_of_neg hneg)), expected_stopped]
      simp only [hneg, if_true]
      rfl
    by_cases hfull : result = tcpHeaderLength
    · have hlen : received.length = tcpHeaderLength := by
        rw [htake, hfull, Int.toNat_natCast]
      have hbuffer : memcpy (List.replicate tcpHeaderLength 0) 0 received = received := by
        apply memcpy_zero_of_length_eq
        rw [hlen, List.length_replicate]
      have hrest : rest.length < fuel := by simpa [hs] using hfuel
      have hread := hstep
      rw [hfull, headerRead_full rfl, ← hfull] at hread
      simp only [expected_cons hs hread, hneg, eq_true hfull, ne_eq, not_true, if_false, hbuffer,
        pure_bind, record_bind, List.append_assoc]
      exact outcome_body_bind (t := ⟨received, _, []⟩) rfl
        fun w' hw' => ih (lt_trans hw' hrest)
    · rw [expected_cons hs (hstep.trans (headerRead_of_ne hneg hfull)), expected_stopped]
      simp only [hneg, hfull, ne_eq, not_false_eq_true, if_true, if_false]
      rfl

/-- The run of the server is the run of the machine. -/
theorem serve_eq (memory : Nat → Environment) (input : Bytes) (schedule : List Int) :
    serve memory input schedule =
      { stop := ((machine memory).state (start input) schedule).phase.stop
        input := ((machine memory).state (start input) schedule).input
        trace := (machine memory).output (start input) schedule } := by
  exact processMessages_eq (w := ⟨input, schedule, []⟩) (Nat.lt_succ_self schedule.length)

end Refinement

end Server
end Seifenkiste
