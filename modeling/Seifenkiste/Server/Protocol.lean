import Seifenkiste.Server.Trace

/-!
# The protocol of a connection

What the server may do on a connection, one event at a time: read a header, build the message,
read the body, display, respond, and start over. A `Ledger` keeps the turns that are over and
the stage of the present one. The machine emits only runs of this protocol
(`serve_run`), and the events of a run are those of the ledger it ends in (`run_spec`), so a
property of traces is a property of ledgers.
-/

namespace Seifenkiste

open Memory LittleEndian Transition

namespace Turn

/-- The turn read a header of full length, and built the message from it. -/
structure Begun (env : Environment) (t : Turn) : Prop where
  length_header : t.header.length = tcpHeaderLength
  message_eq : t.message = MessageClass.ofHeaderMessage env.object env.heap t.header

/-- The body of the turn is there. -/
structure Complete (t : Turn) : Prop where
  params : t.message.specialParamBuffer ≠ none
  length_pos : 0 < t.length
  length_le : t.length ≤ t.data.length

variable {env : Environment} {t : Turn}

lemma Begun.getState_iff (hbegun : t.Begun env) :
    t.message.getState = MessageStateDef.initialized.toUInt32 ↔ env.object.Accepts t.header := by
  rw [hbegun.message_eq, MessageClass.accepts_iff hbegun.length_header]

/-- What the turn of an accepted header works with. -/
lemma Begun.message_of_accepts (hbegun : t.Begun env) (haccepts : env.object.Accepts t.header) :
    t.message.messageId = word (slice t.header 8 4) ∧
      t.message.dataLength = word (slice t.header 18 4) ∧
      t.message.dataBuffer = some (malloc env.heap (word (slice t.header 18 4)).toNat) ∧
      t.message.specialParamBuffer = some (slice t.header 22 specialParamsBufferLength) := by
  rw [hbegun.message_eq, MessageClass.ofHeaderMessage_of_accepts haccepts hbegun.length_header]
  exact ⟨rfl, rfl, rfl, rfl⟩

/-- The turn of a rejected header works with the message that the memory held before. -/
lemma Begun.message_of_not_accepts (hbegun : t.Begun env)
    (haccepts : ¬ env.object.Accepts t.header) :
    t.message.specialParamBuffer = env.object.specialParamBuffer ∧
      t.length = env.object.dataLength.toNat := by
  rw [Turn.length, hbegun.message_eq, MessageClass.ofHeaderMessage_of_not_accepts haccepts]
  exact ⟨rfl, rfl⟩

/-- A message that was accepted is destroyed, and the next turn begins. -/
lemma Begun.leave_of_accepts (hbegun : t.Begun env) (haccepts : env.object.Accepts t.header) :
    Server.leave env t = .idle := by
  have hdistinct : MessageStateDef.initialized.toUInt32 ≠ MessageStateDef.invalid.toUInt32 := by
    decide
  simp only [Server.leave, hbegun.getState_iff.mpr haccepts, hdistinct, false_and, if_false]

end Turn

namespace Server

inductive Stage where
  | idle
  | headed (header : Bytes)
  | receiving (t : Turn)
  | displayed (t : Turn)
  | responded (t : Turn)
  | failedHeader (result : Int) (received : Bytes)
  | failedData (t : Turn) (result : Int)

/-- The events since the last turn that is over. -/
def Stage.events : Stage → List Event
  | idle                         => []
  | headed header                => [.readHeader tcpHeaderLength header]
  | receiving t                  => t.opening ++ t.reads
  | displayed t                  => t.opening ++ t.reads ++ [.displayed t.frame]
  | responded t                  =>
    t.opening ++ t.reads ++ [.displayed t.frame, .responded t.response]
  | failedHeader result received => [.readHeader result received]
  | failedData t result          => t.opening ++ t.reads ++ [.readData result []]

structure Ledger where
  closed : List Turn
  stage : Stage

def Ledger.start : Ledger := ⟨[], .idle⟩

def Ledger.events (q : Ledger) : List Event := q.closed.flatMap Turn.events ++ q.stage.events

/-- One event of the protocol. -/
inductive Move (memory : Nat → Environment) : Ledger → Event → Ledger → Prop
  | readHeader {ts : List Turn} {header : Bytes} (hlen : header.length = tcpHeaderLength) :
      Move memory ⟨ts, .idle⟩ (.readHeader tcpHeaderLength header) ⟨ts, .headed header⟩
  | failHeader {ts : List Turn} {result : Int} {received : Bytes}
      (hresult : result ≠ tcpHeaderLength) (hlen : received.length = result.toNat) :
      Move memory ⟨ts, .idle⟩ (.readHeader result received) ⟨ts, .failedHeader result received⟩
  | construct {ts : List Turn} {header : Bytes} {message : MessageClass}
      (hmessage : message = MessageClass.ofHeaderMessage (memory ts.length).object
        (memory ts.length).heap header) :
      Move memory ⟨ts, .headed header⟩ (.constructed message) ⟨ts, .receiving ⟨header, message, []⟩⟩
  | readData {ts : List Turn} {t : Turn} {chunk : Bytes}
      (hparams : t.message.specialParamBuffer ≠ none) (hlt : t.data.length < t.length) :
      Move memory ⟨ts, .receiving t⟩ (.readData chunk.length chunk)
        ⟨ts, .receiving (t.receive chunk)⟩
  | failData {ts : List Turn} {t : Turn} {result : Int}
      (hresult : result < 0) (hlt : t.data.length < t.length) :
      Move memory ⟨ts, .receiving t⟩ (.readData result []) ⟨ts, .failedData t result⟩
  | display {ts : List Turn} {t : Turn} (hcomplete : t.Complete) :
      Move memory ⟨ts, .receiving t⟩ (.displayed t.frame) ⟨ts, .displayed t⟩
  | respond {ts : List Turn} {t : Turn} :
      Move memory ⟨ts, .displayed t⟩ (.responded t.response) ⟨ts, .responded t⟩
  | process {ts : List Turn} {t : Turn} :
      Move memory ⟨ts, .responded t⟩ (.processed t.header (t.data.take t.length))
        ⟨ts ++ [t], .idle⟩

/-! ### What every ledger satisfies -/

/-- What the stage of a reachable ledger satisfies, in the environment of its turn. -/
def Stage.Valid (env : Environment) : Stage → Prop
  | idle                         => True
  | headed header                => header.length = tcpHeaderLength
  | receiving t                  => t.Begun env
  | displayed t                  => t.Begun env ∧ t.Complete
  | responded t                  => t.Begun env ∧ t.Complete
  | failedHeader result received => result ≠ tcpHeaderLength ∧ received.length = result.toNat
  | failedData t result          => t.Begun env ∧ result < 0 ∧ t.data.length < t.length

/-- What a reachable ledger satisfies. -/
structure Ledger.Valid (memory : Nat → Environment) (q : Ledger) : Prop where
  closed : ∀ k (t : Turn), q.closed[k]? = some t → t.Begun (memory k) ∧ t.Complete
  stage : q.stage.Valid (memory q.closed.length)

variable {memory : Nat → Environment}

lemma Ledger.Valid.of_mem {q : Ledger} (hq : q.Valid memory) {t : Turn} (ht : t ∈ q.closed) :
    ∃ k, t.Begun (memory k) ∧ t.Complete := by
  obtain ⟨k, hk⟩ := List.mem_iff_getElem?.mp ht
  exact ⟨k, hq.closed k t hk⟩

lemma Ledger.Valid.length_header {q : Ledger} (hq : q.Valid memory) :
    ∀ t ∈ q.closed, t.header.length = tcpHeaderLength := by
  intro t ht
  obtain ⟨k, hbegun, -⟩ := hq.of_mem ht
  exact hbegun.length_header

lemma Move.events_eq {q q' : Ledger} {e : Event} (h : Move memory q e q') :
    q'.events = q.events ++ [e] := by
  cases h with
  | process => simp [Ledger.events, Stage.events, Turn.events, Turn.closing]
  | _ => simp [Ledger.events, Stage.events, Turn.opening, Turn.reads, Turn.receive]

lemma Move.valid {q q' : Ledger} {e : Event} (h : Move memory q e q') (hq : q.Valid memory) :
    q'.Valid memory := by
  obtain ⟨hclosed, hstage⟩ := hq
  cases h with
  | readHeader hlen => exact ⟨hclosed, hlen⟩
  | failHeader hresult hlen => exact ⟨hclosed, hresult, hlen⟩
  | construct hmessage => exact ⟨hclosed, hstage, hmessage⟩
  | readData => exact ⟨hclosed, hstage.length_header, hstage.message_eq⟩
  | failData hresult hlt => exact ⟨hclosed, hstage, hresult, hlt⟩
  | display hcomplete => exact ⟨hclosed, hstage, hcomplete⟩
  | respond => exact ⟨hclosed, hstage⟩
  | @process ts t =>
    refine ⟨fun k t' hk => ?_, trivial⟩
    rcases Nat.lt_trichotomy k ts.length with hlt | rfl | hgt
    · rw [List.getElem?_append_left hlt] at hk
      exact hclosed k t' hk
    · rw [List.getElem?_concat_length] at hk
      exact Option.some.inj hk ▸ hstage
    · rw [List.getElem?_eq_none (by simpa [Nat.succ_le_iff] using hgt)] at hk
      exact absurd hk (by simp)

/-- A run of the protocol leaves a ledger with exactly its events. -/
theorem run_spec {t : List Event} {q : Ledger} (h : Run (Move memory) Ledger.start t q) :
    q.events = t ∧ q.Valid memory := by
  have hstart : Ledger.start.Valid memory :=
    ⟨fun k t hk => absurd hk (by simp [Ledger.start]), trivial⟩
  refine h.invariant (I := fun t q => q.events = t ∧ q.Valid memory) ⟨rfl, hstart⟩ ?_
  rintro t q₁ e q₂ ⟨rfl, hvalid⟩ hmove
  exact ⟨hmove.events_eq, hmove.valid hvalid⟩

/-! ### The server follows the protocol -/

/-- A server that waits or has stopped is not between a complete body and the response. -/
def Stage.AtRest : Stage → Prop
  | headed _    => False
  | receiving t => ¬ t.Complete
  | displayed _ => False
  | responded _ => False
  | _           => True

/-- The ledger of a machine state. -/
def Follows (s : State) (q : Ledger) : Prop :=
  s.turns = q.closed.length ∧ q.stage.AtRest ∧
    match s.phase with
    | .idle        => q.stage = .idle
    | .receiving t => q.stage = .receiving t ∧ t.message.specialParamBuffer ≠ none ∧
        t.data.length < t.length
    | .stopped _   => True

lemma Follows.stage_of_idle {input : Bytes} {turns : Nat} {q : Ledger}
    (h : Follows ⟨.idle, input, turns⟩ q) : q.stage = .idle := h.2.2

lemma Follows.stage_of_receiving {t : Turn} {input : Bytes} {turns : Nat} {q : Ledger}
    (h : Follows ⟨.receiving t, input, turns⟩ q) :
    q.stage = .receiving t ∧ t.message.specialParamBuffer ≠ none ∧ t.data.length < t.length := h.2.2

/-- A turn that begins is receiving, or does not get to its body. -/
lemma follows_enter (ts : List Turn) {t : Turn} (hchunks : t.chunks = []) (input : Bytes) :
    Follows ⟨enter t, input, ts.length⟩ ⟨ts, .receiving t⟩ := by
  have hdata : t.data.length = 0 := by rw [Turn.data, hchunks, List.flatten_nil, List.length_nil]
  refine ⟨rfl, ?_⟩
  by_cases hparams : t.message.specialParamBuffer = none
  · simp only [enter, hparams, if_true]
    exact ⟨fun h => h.params hparams, trivial⟩
  by_cases hpos : t.length < 1
  · simp only [enter, hparams, hpos, if_true, if_false]
    exact ⟨fun h => hpos.not_ge h.length_pos, trivial⟩
  · simp only [enter, hparams, hpos, if_false]
    have hlt : t.data.length < t.length := hdata ▸ not_lt.mp hpos
    exact ⟨fun h => h.length_le.not_gt hlt, trivial, hparams, hlt⟩

lemma follows_leave (env : Environment) (ts : List Turn) (t : Turn) (input : Bytes) :
    Follows ⟨leave env t, input, ts.length + 1⟩ ⟨ts ++ [t], .idle⟩ := by
  refine ⟨by rw [List.length_append, List.length_singleton], trivial, ?_⟩
  unfold leave
  split_ifs
  · trivial
  · rfl

/-- The answer to a header read is a run of the protocol. -/
lemma follows_headerRead {ts : List Turn} {result : Int} {received input : Bytes}
    (hlen : received.length = result.toNat) :
    ∃ q, Run (Move memory) ⟨ts, .idle⟩
        (headerRead (memory ts.length) ts.length result received input).2 q ∧
      Follows (headerRead (memory ts.length) ts.length result received input).1 q := by
  by_cases hfull : result = tcpHeaderLength
  · have hheader : received.length = tcpHeaderLength := by rw [hlen, hfull, Int.toNat_natCast]
    rw [hfull, headerRead_full rfl]
    exact ⟨_, (Run.single (.readHeader hheader)).snoc (.construct rfl), follows_enter ts rfl input⟩
  · have hrun : Run (Move memory) ⟨ts, .idle⟩ [.readHeader result received]
        ⟨ts, .failedHeader result received⟩ := Run.single (.failHeader hfull hlen)
    refine ⟨⟨ts, .failedHeader result received⟩, ?_⟩
    by_cases hneg : result < 0
    · rw [headerRead_of_neg hneg]
      exact ⟨hrun, rfl, trivial, trivial⟩
    · rw [headerRead_of_ne hneg hfull]
      exact ⟨hrun, rfl, trivial, trivial⟩

/-- The answer to a body read is a run of the protocol. -/
lemma follows_dataRead {env : Environment} {ts : List Turn} {t : Turn} {result : Int}
    {received input : Bytes} (hlen : received.length = result.toNat)
    (hparams : t.message.specialParamBuffer ≠ none) (hlt : t.data.length < t.length) :
    ∃ q, Run (Move memory) ⟨ts, .receiving t⟩
        (dataRead env t ts.length result received input).2 q ∧
      Follows (dataRead env t ts.length result received input).1 q := by
  by_cases hneg : result < 0
  · have hnil : received = [] := by
      rw [← List.length_eq_zero_iff, hlen]
      exact Int.toNat_of_nonpos hneg.le
    rw [dataRead_of_neg hneg, hnil]
    exact ⟨_, Run.single (.failData hneg hlt), rfl, trivial, trivial⟩
  have hresult : result = received.length := by
    rw [hlen, Int.toNat_of_nonneg (not_lt.mp hneg)]
  have hread : Run (Move memory) ⟨ts, .receiving t⟩ [.readData result received]
      ⟨ts, .receiving (t.receive received)⟩ := by
    rw [hresult]
    exact Run.single (.readData hparams hlt)
  by_cases hmore : (t.receive received).data.length < t.length
  · rw [dataRead_of_lt hneg hmore]
    exact ⟨_, hread, rfl, fun h => h.length_le.not_gt hmore, rfl, hparams, hmore⟩
  · have hcomplete : (t.receive received).Complete :=
      ⟨hparams, Nat.zero_lt_of_lt hlt, not_lt.mp hmore⟩
    rw [dataRead_of_le hneg hcomplete.length_le]
    exact ⟨_, ((hread.snoc (.display hcomplete)).snoc .respond).snoc .process,
      follows_leave env ts _ input⟩

/-- The answer to any read is a run of the protocol. -/
lemma follows_step {s : State} {q : Ledger} (h : Follows s q) (result : Int) :
    ∃ q', Run (Move memory) q (step memory s result).2 q' ∧
      Follows (step memory s result).1 q' := by
  obtain ⟨ts, stage⟩ := q
  obtain ⟨phase, input, turns⟩ := s
  have hturns : turns = ts.length := h.1
  subst hturns
  cases phase with
  | stopped stop => exact ⟨_, Run.refl _, h⟩
  | idle =>
    obtain rfl : stage = .idle := h.stage_of_idle
    by_cases hgranted : Granted tcpHeaderLength input.length result
    · rw [step_idle hgranted]
      exact follows_headerRead (length_take_of_granted hgranted)
    · rw [step_idle_refused hgranted]
      exact ⟨_, Run.refl _, rfl, trivial, trivial⟩
  | receiving t =>
    obtain ⟨rfl, hparams, hlt⟩ := h.stage_of_receiving
    by_cases hgranted : Granted t.length input.length result
    · rw [step_receiving hgranted]
      exact follows_dataRead (length_take_of_granted hgranted) hparams hlt
    · rw [step_receiving_refused hgranted]
      exact ⟨_, Run.refl _, rfl, h.2.1, trivial⟩

/-- Every run of the machine is a run of the protocol. -/
lemma machine_follows (memory : Nat → Environment) (input : Bytes) (schedule : List Int) :
    ∃ q, Run (Move memory) Ledger.start ((machine memory).output (start input) schedule) q ∧
      Follows ((machine memory).state (start input) schedule) q := by
  have hstart : Follows (start input) Ledger.start := ⟨rfl, trivial, rfl⟩
  exact (machine memory).simulates (fun _ _ i h => follows_step h i) hstart schedule

/-- Every run of the server is a run of the protocol that ends at rest. -/
theorem serve_run (memory : Nat → Environment) (input : Bytes) (schedule : List Int) :
    ∃ q, Run (Move memory) Ledger.start (serve memory input schedule).trace q ∧
      q.stage.AtRest := by
  obtain ⟨q, hrun, -, hrest, -⟩ := machine_follows memory input schedule
  rw [serve_eq]
  exact ⟨q, hrun, hrest⟩

/-! ### Bytes read and bytes to come -/

lemma consumed_step (s : State) (result : Int) :
    (step memory s result).2.flatMap Event.received ++ (step memory s result).1.input
      = s.input := by
  obtain ⟨phase, input, turns⟩ := s
  cases phase with
  | stopped stop => rfl
  | idle =>
    by_cases hgranted : Granted tcpHeaderLength input.length result
    · rw [step_idle hgranted, headerRead]
      split_ifs
      · simp [Event.received]
      · simp [Event.received]
      · simp [Event.received]
    · rw [step_idle_refused hgranted]
      rfl
  | receiving t =>
    by_cases hgranted : Granted t.length input.length result
    · rw [step_receiving hgranted, dataRead]
      split_ifs
      · simp [Event.received]
      · simp [Event.received]
      · simp [Event.received, Turn.closing]
    · rw [step_receiving_refused hgranted]
      rfl

/-- What the server has read and what is still to come make up the stream. -/
theorem consumed_append_input (memory : Nat → Environment) (input : Bytes) (schedule : List Int) :
    Trace.consumed (serve memory input schedule).trace ++ (serve memory input schedule).input
      = input := by
  rw [serve_eq]
  exact (machine memory).conserves consumed_step (start input) schedule

/-! ### Messages that were processed -/

/-- Only at its end a turn counts as processed. -/
lemma processed_stage (stage : Stage) : Trace.processed stage.events = [] := by
  cases stage <;>
    simp [Trace.processed, Stage.events, Turn.opening, Turn.reads, List.filterMap_map]

/-- At rest every turn that has displayed its image has responded, and is over. -/
lemma displayed_of_atRest {stage : Stage} (h : stage.AtRest) :
    Trace.displayed stage.events = [] ∧ Trace.responses stage.events = [] := by
  cases stage with
  | displayed t => exact absurd h id
  | responded t => exact absurd h id
  | idle | headed | failedHeader => exact ⟨rfl, rfl⟩
  | receiving t =>
    simp [Trace.displayed, Trace.responses, Stage.events, Turn.opening, Turn.reads,
      List.filterMap_map]
  | failedData t result =>
    simp [Trace.displayed, Trace.responses, Stage.events, Turn.opening, Turn.reads,
      List.filterMap_map]

/-- What was processed was read before: the header, and at least the data. -/
lemma length_of_processed {input header data : Bytes} {schedule : List Int}
    (h : (header, data) ∈ Trace.processed (serve memory input schedule).trace) :
    tcpHeaderLength + data.length ≤ input.length := by
  obtain ⟨q, hrun, -⟩ := serve_run memory input schedule
  obtain ⟨hevents, hvalid⟩ := run_spec hrun
  have hconsumed := congrArg List.length (consumed_append_input memory input schedule)
  rw [← hevents, Ledger.events, Turn.processed_flatMap, processed_stage, List.append_nil,
    List.mem_map] at h
  obtain ⟨t, ht, hprocessed⟩ := h
  obtain ⟨rfl, rfl⟩ := Prod.mk.inj hprocessed
  have hturn : (t.header ++ t.data).length
      ≤ (q.closed.flatMap fun t => t.header ++ t.data).length := by
    have hmem : t.header ++ t.data ∈ q.closed.map fun t => t.header ++ t.data :=
      List.mem_map.mpr ⟨t, ht, rfl⟩
    exact (List.sublist_flatten_of_mem hmem).length_le
  rw [← hevents, Ledger.events, Turn.consumed_flatMap, List.length_append, List.length_append]
    at hconsumed
  rw [List.length_append, hvalid.length_header t ht] at hturn
  have hdata : (t.data.take t.length).length ≤ t.data.length := List.length_take_le' _ _
  omega

end Server
end Seifenkiste
