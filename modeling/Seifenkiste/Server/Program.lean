import Seifenkiste.Message.Basic

/-!
# The receiver loop of the server

`process_messages` and what it calls, as a program over the connection. The kernel is a schedule
of read results together with the bytes that are still to come; what the program does towards
the outside is recorded in a trace.
-/

namespace Seifenkiste

open Memory LittleEndian

/-! ### The connection -/

/-- An image over memory that it does not own. -/
structure Mat where
  rows : UInt32
  cols : UInt32
  /-- The bytes of one element, 3 for `CV_8UC3`. -/
  elemSize : Nat
  /-- The memory at the data pointer. -/
  data : Bytes
  deriving DecidableEq, Repr

def cv8UC3 : Nat := 3

inductive Event where
  | readHeader (result : Int) (received : Bytes)
  | constructed (message : MessageClass)
  | readData (result : Int) (received : Bytes)
  | displayed (frame : Mat)
  | responded (response : Bytes)
  /-- The end of a turn: the header buffer and the first `data_length` bytes of the data
  buffer. -/
  | processed (header data : Bytes)
  deriving DecidableEq, Repr

/-- Why a run goes no further. -/
inductive Stop where
  /-- It waits in a `read` that asks for so many bytes. -/
  | blocked (asked : Nat)
  | exit (message : String)
  | segmentationFault
  /-- The heap detected that a block was freed that it had not handed out. -/
  | abort
  | outOfFuel
  deriving DecidableEq, Repr

/-- The connection and the reads to come. -/
structure World where
  /-- The bytes that the peer sent and the server has not read yet. -/
  input : Bytes
  /-- What the kernel answers to the reads to come, -1 for an error. -/
  schedule : List Int
  trace : List Event

abbrev ServerM := EStateM Stop World

/-- The largest number of bytes that one `read` or `write` transfers on Linux. -/
def transferMax : Nat := 0x7ffff000

/-- A result that the kernel can give to a read. -/
def Granted (asked available : Nat) (result : Int) : Prop :=
  -1 ≤ result ∧ result ≤ asked ∧ result ≤ available ∧ result ≤ transferMax

instance (asked available : Nat) (result : Int) : Decidable (Granted asked available result) :=
  inferInstanceAs (Decidable (_ ∧ _))

/-- The system call: the result and the bytes that are stored at the destination. The server
waits when the kernel has no result, or none that is possible. -/
def read (event : Int → Bytes → Event) (asked : Nat) : ServerM (Int × Bytes) := fun w =>
  match w.schedule with
  | [] => .error (.blocked asked) w
  | result :: schedule =>
    if Granted asked w.input.length result then
      let received := w.input.take result.toNat
      .ok (result, received)
        { input := w.input.drop result.toNat
          schedule := schedule
          trace := w.trace ++ [event result received] }
    else .error (.blocked asked) w

def record (event : Event) : ServerM Unit :=
  modify fun w => { w with trace := w.trace ++ [event] }

/-- `perror` and `exit(1)`. -/
def error {α : Type} (message : String) : ServerM α := throw (.exit message)

/-! ### The server -/

/-- What one turn of the receiver loop finds besides the connection. -/
structure Environment where
  /-- The former content of the memory that `new_message` is built in. -/
  object : MessageClass
  /-- The content of fresh heap blocks. -/
  heap : Nat → UInt8
  /-- The uninitialised image dimensions. -/
  rows : UInt32
  cols : UInt32
  depth : UInt32
  /-- What the kernel answers to the write of the response. -/
  written : Int
  /-- The pointers that `object` holds are not blocks of the heap, as after the destruction of a
  message in the same place. -/
  dangling : Bool

/-- A turn in memory that has not been used. -/
def Environment.cleared : Environment where
  object := .cleared
  heap := fun _ => 0
  rows := 0
  cols := 0
  depth := 0
  written := 10
  dangling := false

def sendResponse (env : Environment) (response : Bytes) : ServerM Int := do
  record (.responded response)
  return toInt env.written

/-- Read the next header message; only the first 37 bytes of the buffer are ever used. -/
def readTCPHeader : ServerM (Int × Bytes) := do
  let headerBuffer := List.replicate tcpHeaderLength 0
  let (result, received) ← read .readHeader tcpHeaderLength
  let headerBuffer := memcpy headerBuffer 0 received
  let headerLength := toInt result
  if headerLength < 0 then
    error "ERROR reading message header from connection"
  else if headerLength ≠ tcpHeaderLength then
    error "ERROR message header too short"
  else
    return (headerLength, headerBuffer)

/-- The loop of `readTCPData`: `count` bytes have been stored at the beginning of the buffer.
Every read asks for the whole length again. -/
def readTCPDataLoop (remainingMessageLength : Nat) : Nat → Bytes → Nat → ServerM Bytes
  | 0, _, _ => throw .outOfFuel
  | fuel + 1, dataBuffer, count =>
    if count < remainingMessageLength then do
      let (result, received) ← read .readData remainingMessageLength
      let dataBuffer := memcpy dataBuffer count received
      let n := toInt result
      if n < 0 then
        error "ERROR reading data from socket"
      else if n = 0 then
        readTCPDataLoop remainingMessageLength fuel dataBuffer count
      else
        readTCPDataLoop remainingMessageLength fuel dataBuffer (count + n.toNat)
    else
      return dataBuffer

/-- Read the data message into the buffer. An iteration takes one read result, so the reads to
come bound the number of iterations. -/
def readTCPData (dataBuffer : Bytes) (dataLength : UInt32) : ServerM (Int × Bytes) := do
  let messageLength := dataLength.toNat
  if messageLength < 1 then
    error "ERROR waiting for data but expecting data of length <1 !"
  else
    let w ← get
    let dataBuffer ← readTCPDataLoop messageLength (w.schedule.length + 1) dataBuffer 0
    return (0, dataBuffer)

/-- `print_meta_data` reads all special parameters, whatever the state of the message is. -/
def printMetaData (m : MessageClass) : ServerM Unit :=
  match m.specialParamBuffer with
  | none   => throw .segmentationFault
  | some _ => return ()

/-- The letters of a positive response. -/
def okokok : Bytes := ['o', 'k', 'o', 'k', 'o', 'k'].map Char.toUInt8

/-- The letters of a request for retransmission. -/
def resend : Bytes := ['r', 'e', 's', 'e', 'n', 'd'].map Char.toUInt8

/-- The response of ten bytes: six letters and the id of the message. -/
def response (env : Environment) (responseOk : Bool) (messageId : UInt32) : Bytes :=
  let response := malloc env.heap 10
  let response := if responseOk then memcpy response 0 okokok else memcpy response 0 resend
  memcpy response 6 (bytes messageId)

/-- The end of a turn: the image is displayed and the response written. A failed write is only
reported. `imshow` and `waitKey` are taken to return; an image without rows or columns would make
`imshow` throw. -/
def displayAndRespond (env : Environment) (headerBuffer : Bytes) (newMessage : MessageClass)
    (dataBuffer : Bytes) : ServerM Unit := do
  let (rows, cols, _) := newMessage.extractSpecialParamBuffer.getD (env.rows, env.cols, env.depth)
  record (.displayed { rows := rows, cols := cols, elemSize := cv8UC3, data := dataBuffer })
  let responseOk := true
  let _ ← sendResponse env (response env responseOk newMessage.getId)
  record (.processed headerBuffer (dataBuffer.take newMessage.getDataLength.toNat))

/-- The destructor at the end of a turn. A rejected message still has the pointers that the
memory held. -/
def destroy (env : Environment) (m : MessageClass) : ServerM Unit :=
  if m.getState = MessageStateDef.invalid.toUInt32 ∧ env.dangling then throw .abort else return ()

/-- One turn of the receiver loop. The results of the two read functions are negative only in
branches that have left the program already. -/
def receiverTurn (env : Environment) : ServerM Unit := do
  let (_, headerBuffer) ← readTCPHeader
  let newMessage := MessageClass.ofHeaderMessage env.object env.heap headerBuffer
  record (.constructed newMessage)
  printMetaData newMessage
  -- a pointer that cannot be written through lets `read` fail, which is a result like any other
  let dataBuffer := newMessage.getDataBufferPtr.getD []
  let (_, dataBuffer) ← readTCPData dataBuffer newMessage.getDataLength
  displayAndRespond env headerBuffer newMessage dataBuffer
  destroy env newMessage

/-- The endless loop, from a turn on. -/
def processMessages (memory : Nat → Environment) : Nat → Nat → ServerM Empty
  | 0, _ => throw .outOfFuel
  | fuel + 1, turn => do
    receiverTurn (memory turn)
    processMessages memory fuel (turn + 1)

/-! ### Whole runs -/

/-- How far a run got: why it stopped, the bytes it has not read, and what it did. -/
structure Outcome where
  stop : Stop
  input : Bytes
  trace : List Event
  deriving DecidableEq, Repr

def outcome : EStateM.Result Stop World Empty → Outcome
  | .error stop w => { stop := stop, input := w.input, trace := w.trace }

/-- The run of the server on a stream of bytes, up to the end of the schedule. -/
def serve (memory : Nat → Environment) (input : Bytes) (schedule : List Int) : Outcome :=
  outcome ((processMessages memory (schedule.length + 1) 0).run
    { input := input, schedule := schedule, trace := [] })

/-! ### Reads -/

namespace World

/-- A read for so many bytes waits: the kernel has no result, or none that is possible. -/
def Waits (w : World) (asked : Nat) : Prop :=
  ∀ result ∈ w.schedule.head?, ¬ Granted asked w.input.length result

variable {w : World} {asked : Nat} {result : Int} {rest : List Int}

lemma waits_of_nil (h : w.schedule = []) : w.Waits asked := by
  simp [Waits, h]

lemma waits_of_cons (h : w.schedule = result :: rest) :
    w.Waits asked ↔ ¬ Granted asked w.input.length result := by
  simp [Waits, h]

lemma waits_or_granted (w : World) (asked : Nat) :
    w.Waits asked ∨
      ∃ result rest, w.schedule = result :: rest ∧ Granted asked w.input.length result := by
  cases hs : w.schedule with
  | nil => exact Or.inl (waits_of_nil hs)
  | cons result rest =>
    rw [waits_of_cons hs]
    by_cases h : Granted asked w.input.length result
    · exact Or.inr ⟨result, rest, rfl, h⟩
    · exact Or.inl h

/-- The world after a read of the body. -/
def received (w : World) (result : Int) (rest : List Int) : World :=
  ⟨w.input.drop result.toNat, rest,
    w.trace ++ [.readData result (w.input.take result.toNat)]⟩

end World

namespace Server

lemma error_apply {α : Type} (message : String) (w : World) :
    (error message : ServerM α) w = .error (.exit message) w := rfl

lemma record_apply (event : Event) (w : World) :
    record event w = .ok () { w with trace := w.trace ++ [event] } := rfl

lemma record_bind {α : Type} (event : Event) (k : Unit → ServerM α) (w : World) :
    (record event >>= k) w = k () { w with trace := w.trace ++ [event] } := rfl

lemma get_bind {α : Type} (k : World → ServerM α) (w : World) :
    ((get : ServerM World) >>= k) w = k w w := rfl

/-- What follows a computation depends on its result only. -/
lemma bind_apply_congr {α β : Type} {x y : ServerM α} {w w' : World} (h : x w = y w')
    (k : α → ServerM β) : (x >>= k) w = (y >>= k) w' := by
  simp only [bind, EStateM.bind, h]

lemma bind_of_ok {α β : Type} {x : ServerM α} {a : α} {w w' : World} (h : x w = .ok a w')
    (k : α → ServerM β) : (x >>= k) w = k a w' :=
  bind_apply_congr (y := pure a) h k

lemma bind_of_error {α β : Type} {x : ServerM α} {stop : Stop} {w w' : World}
    (h : x w = .error stop w') (k : α → ServerM β) : (x >>= k) w = .error stop w' :=
  bind_apply_congr (y := throw stop) h k

section Read

variable {event : Int → Bytes → Event} {asked : Nat} {w : World} {result : Int} {rest : List Int}

lemma read_of_waits (h : w.Waits asked) : read event asked w = .error (.blocked asked) w := by
  cases hs : w.schedule with
  | nil => simp only [read, hs]
  | cons result rest =>
    have hrefused : ¬ Granted asked w.input.length result := (World.waits_of_cons hs).mp h
    simp only [read, hs, hrefused, if_false]

lemma read_of_granted (hs : w.schedule = result :: rest)
    (h : Granted asked w.input.length result) :
    read event asked w = .ok (result, w.input.take result.toNat)
      ⟨w.input.drop result.toNat, rest, w.trace ++ [event result (w.input.take result.toNat)]⟩ := by
  simp only [read, hs, h, if_true]

lemma toInt_of_granted {asked available : Nat} {result : Int}
    (h : Granted asked available result) : toInt result = result := by
  obtain ⟨hlow, -, -, hhigh⟩ := h
  have hmax : (transferMax : Int) < 2 ^ 31 := by decide
  exact toInt_eq_self (by omega) (by omega)

lemma length_take_of_granted {asked : Nat} {input : Bytes} {result : Int}
    (h : Granted asked input.length result) : (input.take result.toNat).length = result.toNat := by
  obtain ⟨-, -, havail, -⟩ := h
  rw [List.length_take]
  omega

end Read

/-! ### One iteration of the body read -/

section Iteration

variable {length fuel count : Nat} {buffer : Bytes} {w : World} {result : Int} {rest : List Int}

lemma dataLoop_done (h : length ≤ count) :
    readTCPDataLoop length (fuel + 1) buffer count w = .ok buffer w := by
  simp only [readTCPDataLoop, h.not_gt, if_false]
  rfl

/-- Without a result that is possible the loop waits in its read. -/
lemma dataLoop_blocked (hlt : count < length) (h : w.Waits length) :
    readTCPDataLoop length (fuel + 1) buffer count w = .error (.blocked length) w := by
  simp only [readTCPDataLoop, hlt, if_true]
  exact bind_of_error (read_of_waits h) _

/-- A result that is not an error moves the counter on by the bytes it brought, also by none. -/
lemma dataLoop_read (hlt : count < length) (hs : w.schedule = result :: rest)
    (h : Granted length w.input.length result) :
    readTCPDataLoop length (fuel + 1) buffer count w
      = (if result < 0 then error "ERROR reading data from socket"
        else readTCPDataLoop length fuel (memcpy buffer count (w.input.take result.toNat))
          (count + result.toNat)) (w.received result rest) := by
  simp only [readTCPDataLoop, hlt, if_true]
  rw [bind_of_ok (read_of_granted hs h), ← World.received]
  simp only [toInt_of_granted h]
  split_ifs with hneg hzero
  · rfl
  · rw [hzero, Int.toNat_zero, Nat.add_zero]
  · rfl

end Iteration

end Server
end Seifenkiste
