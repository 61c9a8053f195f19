import Mathlib.Algebra.Order.BigOperators.Group.List
import Seifenkiste.Message.Frame
import Seifenkiste.Server.Protocol

/-!
# Acknowledgements

The server writes one response for each header, after the body and before the next header. What
the response says does not depend on whether the header was accepted.
-/

namespace Seifenkiste

open Memory LittleEndian Transition Trace

/-- The memory holds a message with parameters and a data length that these bytes reach. -/
def MessageClass.CompletedBy (object : MessageClass) (data : Bytes) : Prop :=
  object.specialParamBuffer ≠ none ∧ 0 < object.dataLength.toNat ∧
    object.dataLength.toNat ≤ data.length

namespace Server

/-! ### Counting -/

/-- A closed turn takes at least 38 bytes from the connection. -/
lemma length_consumed_turn {memory : Nat → Environment} {k : Nat} {t : Turn}
    (hbegun : t.Begun (memory k)) (hcomplete : t.Complete) :
    38 ≤ (t.header ++ t.data).length := by
  have hheader : t.header.length = 37 := hbegun.length_header
  have hdata : 0 < t.data.length := hcomplete.length_pos.trans_le hcomplete.length_le
  rw [List.length_append, hheader]
  omega

lemma length_consumed_closed {memory : Nat → Environment} {q : Ledger} (hq : q.Valid memory) :
    38 * q.closed.length ≤ (q.closed.flatMap fun t => t.header ++ t.data).length := by
  have hall : ∀ t ∈ q.closed, 38 ≤ (t.header ++ t.data).length := by
    intro t ht
    obtain ⟨k, hbegun, hcomplete⟩ := hq.of_mem ht
    exact length_consumed_turn hbegun hcomplete
  have hsum := List.card_nsmul_le_sum (q.closed.map fun t => (t.header ++ t.data).length) 38
    (by simpa using hall)
  rw [List.length_map, Nat.nsmul_eq_mul, mul_comm] at hsum
  rwa [List.length_flatMap]

/-- The complete header and the response that belong to a stage. -/
lemma headers_stage {env : Environment} {stage : Stage} (h : stage.Valid env) :
    headers stage.events =
      match stage with
      | .headed header => [header]
      | .receiving t => [t.header]
      | .displayed t => [t.header]
      | .responded t => [t.header]
      | .failedData t _ => [t.header]
      | _ => [] := by
  cases stage with
  | failedHeader result received => simpa [headers, Stage.events] using h.1
  | _ => simp [headers, Stage.events, Turn.opening, Turn.reads, List.filterMap_map]

lemma responses_stage (stage : Stage) :
    responses stage.events =
      match stage with
      | .responded t => [t.response]
      | _ => [] := by
  cases stage <;> simp [responses, Stage.events, Turn.opening, Turn.reads, List.filterMap_map]

/-- The turn that the server is in, from the message on. -/
def Stage.turn : Stage → Option Turn
  | receiving t    => some t
  | displayed t    => some t
  | responded t    => some t
  | failedData t _ => some t
  | _              => none

section Turn

variable {q : Ledger} {t : Turn} (h : q.stage.turn = some t)

include h

lemma headers_of_turn : headers q.events = q.closed.map Turn.header ++ [t.header] := by
  obtain ⟨ts, stage⟩ := q
  rw [Ledger.events, Turn.headers_flatMap]
  cases stage with
  | idle | headed | failedHeader => exact absurd h (by simp [Stage.turn])
  | _ =>
    obtain rfl : _ = t := Option.some.inj h
    simp [headers, Stage.events, Turn.opening, Turn.reads, List.filterMap_map]

lemma messages_of_turn : messages q.events = q.closed.map Turn.message ++ [t.message] := by
  obtain ⟨ts, stage⟩ := q
  rw [Ledger.events, Turn.messages_flatMap]
  cases stage with
  | idle | headed | failedHeader => exact absurd h (by simp [Stage.turn])
  | _ =>
    obtain rfl : _ = t := Option.some.inj h
    simp [messages, Stage.events, Turn.opening, Turn.reads, List.filterMap_map]

lemma sinceHeader_of_turn : sinceHeader q.events = t.data := by
  obtain ⟨ts, stage⟩ := q
  rw [← Turn.sinceHeader_opening_reads t (ts.flatMap Turn.events)]
  cases stage with
  | idle | headed | failedHeader => exact absurd h (by simp [Stage.turn])
  | _ =>
    obtain rfl : _ = t := Option.some.inj h
    simp [Ledger.events, Stage.events, sinceHeader]

end Turn

/-- The responses and the headers of a ledger differ by the stage alone. -/
lemma counts_of_valid {memory : Nat → Environment} {q : Ledger} (hq : q.Valid memory) :
    (responses q.events).length ≤ (headers q.events).length ∧
      (headers q.events).length ≤ (responses q.events).length + 1 ∧
      38 * (responses q.events).length ≤ (consumed q.events).length := by
  obtain ⟨ts, stage⟩ := q
  have hclosed : 38 * ts.length ≤ (ts.flatMap fun t => t.header ++ t.data).length :=
    length_consumed_closed hq
  have hstage : stage.Valid (memory ts.length) := hq.stage
  rw [Ledger.events, Turn.responses_flatMap, Turn.headers_flatMap, Turn.consumed_flatMap,
    headers_stage hstage, responses_stage]
  simp only [List.length_append, List.length_map]
  cases stage with
  | responded t =>
    have hturn := length_consumed_turn hstage.1 hstage.2
    have hevents : consumed (Stage.responded t).events = t.header ++ t.data := by
      simp [consumed, Stage.events, Turn.opening, Turn.reads, Event.received, Turn.data,
        List.flatMap_map]
    rw [hevents]
    simp only [List.length_singleton]
    omega
  | _ =>
    simp only [List.length_singleton, List.length_nil]
    omega

/-! ### The discipline -/

/-- At every point of every run there are as many responses as headers, or one less, and 38 bytes
were read for each response. When a response is written, it is the one to the last header; if
that header was accepted, the response carries its id, and its data is there. -/
theorem acknowledgement_discipline (memory : Nat → Environment) (input : Bytes)
    (schedule : List Int) :
    (∀ t, t <+: (serve memory input schedule).trace →
      (responses t).length ≤ (headers t).length ∧
      (headers t).length ≤ (responses t).length + 1 ∧
      38 * (responses t).length ≤ (consumed t).length) ∧
    (∀ t response, t ++ [.responded response] <+: (serve memory input schedule).trace →
      ∃ header message,
        (headers t).length = (responses t).length + 1 ∧
        (headers t)[(responses t).length]? = some header ∧
        (messages t)[(responses t).length]? = some message ∧
        (message.getState = MessageStateDef.initialized.toUInt32 →
          response = okokok ++ slice header 8 4 ∧
          (word (slice header 18 4)).toNat ≤ (sinceHeader t).length)) := by
  obtain ⟨q, hrun, -⟩ := serve_run memory input schedule
  constructor
  · intro t ht
    obtain ⟨p, hp⟩ := hrun.of_prefix ht
    obtain ⟨rfl, hvalid⟩ := run_spec hp
    exact counts_of_valid hvalid
  · intro t response ht
    obtain ⟨p', hp'⟩ := hrun.of_prefix ht
    obtain ⟨p, hp, hmove⟩ := hp'.exists_last
    obtain ⟨rfl, hvalid⟩ := run_spec hp
    cases hmove with
    | @respond ts turn =>
      have hstage : (Stage.displayed turn).Valid (memory ts.length) := hvalid.stage
      obtain ⟨hbegun, hcomplete⟩ := hstage
      have hresponses : (responses (Ledger.events ⟨ts, .displayed turn⟩)).length = ts.length := by
        rw [Ledger.events, Turn.responses_flatMap, responses_stage, List.append_nil,
          List.length_map]
      have hheaders := headers_of_turn (q := ⟨ts, .displayed turn⟩) rfl
      have hmessages := messages_of_turn (q := ⟨ts, .displayed turn⟩) rfl
      refine ⟨turn.header, turn.message, ?_, ?_, ?_, ?_⟩
      · simp [hheaders, hresponses]
      · simp [hheaders, hresponses]
      · simp [hmessages, hresponses]
      · intro hstate
        have hlen : turn.header.length = 37 := hbegun.length_header
        obtain ⟨hid, hdata, -, -⟩ := hbegun.message_of_accepts (hbegun.getState_iff.mp hstate)
        constructor
        · rw [Turn.response, hid, bytes_word (length_slice (by omega))]
        · rw [sinceHeader_of_turn (q := ⟨ts, .displayed turn⟩) rfl, ← hdata]
          exact hcomplete.length_le

/-! ### What a positive response says -/

/-- The server shows an image or writes a positive response. -/
inductive Approves : Event → Prop
  | displayed (frame : Mat) : Approves (.displayed frame)
  | responded (rest : Bytes) : Approves (.responded (okokok ++ rest))

/-- A header with both control segments, and all the data it announces. -/
def Received (header data : Bytes) : Prop :=
  HasControlSegments header ∧ (word (slice header 18 4)).toNat ≤ data.length

/-- The server approves of a header only if the message built from it was accepted and all of its
data is there. -/
def Truthful (trace : List Event) : Prop :=
  ∀ t event, t ++ [event] <+: trace → Approves event →
    ∃ k header message, (headers t).length = k + 1 ∧ (headers t)[k]? = some header ∧
      (messages t)[k]? = some message ∧
      message.getState = MessageStateDef.initialized.toUInt32 ∧ Received header (sinceHeader t)

/-- No rejected header finds a message in the memory that its body reads complete. -/
def NoStaleMessage (memory : Nat → Environment) (trace : List Event) : Prop :=
  ∀ t k header, t <+: trace → (headers t).length = k + 1 → (headers t)[k]? = some header →
    ¬ (memory k).object.Accepts header → ¬ (memory k).object.CompletedBy (sinceHeader t)

/-- A complete turn received its header and data, if the header was accepted. -/
lemma received_of_accepts {env : Environment} {t : Turn} (hbegun : t.Begun env)
    (hcomplete : t.Complete) (haccepts : env.object.Accepts t.header) :
    Received t.header t.data := by
  refine ⟨haccepts.1, ?_⟩
  obtain ⟨-, hdata, -, -⟩ := hbegun.message_of_accepts haccepts
  rw [← hdata]
  exact hcomplete.length_le

lemma Move.stage_of_approves {memory : Nat → Environment} {q q' : Ledger} {e : Event}
    (h : Move memory q e q') (he : Approves e) (hq : q.Valid memory) :
    ∃ t, q.stage.turn = some t ∧ t.Begun (memory q.closed.length) ∧ t.Complete := by
  cases h with
  | display hcomplete => exact ⟨_, rfl, hq.stage, hcomplete⟩
  | respond => exact ⟨_, rfl, hq.stage.1, hq.stage.2⟩
  | _ => cases he

/-- What a rejected header completes is the message that the memory held before. -/
lemma complete_iff_of_not_accepts {env : Environment} {t : Turn} (hbegun : t.Begun env)
    (haccepts : ¬ env.object.Accepts t.header) :
    t.Complete ↔ env.object.CompletedBy t.data := by
  obtain ⟨hparams, hlength⟩ := hbegun.message_of_not_accepts haccepts
  rw [MessageClass.CompletedBy, ← hparams, ← hlength]
  constructor
  · rintro ⟨hsome, hpos, hle⟩
    exact ⟨hsome, hpos, hle⟩
  · rintro ⟨hsome, hpos, hle⟩
    exact ⟨hsome, hpos, hle⟩

lemma truthful_of_noStaleMessage {memory : Nat → Environment} {trace : List Event} {q : Ledger}
    (hrun : Run (Move memory) Ledger.start trace q) (h : NoStaleMessage memory trace) :
    Truthful trace := by
  intro t event ht happroves
  obtain ⟨p', hp'⟩ := hrun.of_prefix ht
  obtain ⟨p, hp, hmove⟩ := hp'.exists_last
  obtain ⟨rfl, hvalid⟩ := run_spec hp
  obtain ⟨turn, hturn, hbegun, hcomplete⟩ := hmove.stage_of_approves happroves hvalid
  have hheaders := headers_of_turn hturn
  have hlen : (headers p.events).length = p.closed.length + 1 := by simp [hheaders]
  have hheader : (headers p.events)[p.closed.length]? = some turn.header := by simp [hheaders]
  have hmessage : (messages p.events)[p.closed.length]? = some turn.message := by
    simp [messages_of_turn hturn]
  -- a turn that is complete although its header was rejected is one of a stale message
  have haccepts : (memory p.closed.length).object.Accepts turn.header := by
    by_contra hrejected
    have hinitial : p.events <+: trace := (List.prefix_append _ _).trans ht
    apply h p.events p.closed.length turn.header hinitial hlen hheader hrejected
    rw [sinceHeader_of_turn hturn]
    exact (complete_iff_of_not_accepts hbegun hrejected).mp hcomplete
  refine ⟨p.closed.length, turn.header, turn.message, hlen, hheader, hmessage, ?_, ?_⟩
  · exact hbegun.getState_iff.mpr haccepts
  · rw [sinceHeader_of_turn hturn]
    exact received_of_accepts hbegun hcomplete haccepts

lemma accepts_of_truthful {memory : Nat → Environment} {trace : List Event} (h : Truthful trace)
    {ts : List Turn} {t : Turn} (hbegun : t.Begun (memory ts.length))
    (ht : Ledger.events ⟨ts, .receiving t⟩ ++ [.displayed t.frame] <+: trace) :
    (memory ts.length).object.Accepts t.header := by
  obtain ⟨k, header, message, hlen, -, hmessage, hstate, -⟩ := h _ _ ht (.displayed t.frame)
  rw [headers_of_turn (t := t) rfl] at hlen
  obtain rfl : ts.length = k := by simpa using hlen
  rw [messages_of_turn (t := t) rfl] at hmessage
  obtain rfl : t.message = message := by simpa using hmessage
  exact hbegun.getState_iff.mp hstate

/-- The ledger at some point of a run: the server is at rest there or goes on. -/
lemma exists_ledger {memory : Nat → Environment} {trace : List Event} {q : Ledger}
    (hrun : Run (Move memory) Ledger.start trace q) (hrest : q.stage.AtRest) {t : List Event}
    (ht : t <+: trace) :
    ∃ p : Ledger, p.events = t ∧ p.Valid memory ∧
      (p.stage.AtRest ∨ ∃ e p', Move memory p e p' ∧ t ++ [e] <+: trace) := by
  obtain ⟨rest, rfl⟩ := ht
  cases rest with
  | nil =>
    rw [List.append_nil] at hrun
    obtain ⟨hevents, hvalid⟩ := run_spec hrun
    exact ⟨q, hevents, hvalid, Or.inl hrest⟩
  | cons e rest =>
    have hnext : t ++ [e] <+: t ++ e :: rest := ⟨rest, by simp⟩
    obtain ⟨p', hp'⟩ := hrun.of_prefix hnext
    obtain ⟨p, hp, hmove⟩ := hp'.exists_last
    obtain ⟨hevents, hvalid⟩ := run_spec hp
    exact ⟨p, hevents, hvalid, Or.inr ⟨e, p', hmove, hnext⟩⟩

/-- The turn that the last header belongs to, unless nothing was read since that header. If the
turn is complete, its image was displayed or is about to be. -/
lemma exists_turn {memory : Nat → Environment} {q : Ledger} (hq : q.Valid memory) :
    sinceHeader q.events = [] ∨
      ∃ us t, headers q.events = us.map Turn.header ++ [t.header] ∧
        sinceHeader q.events = t.data ∧ t.Begun (memory us.length) ∧
        (t.Complete → q = ⟨us, .receiving t⟩ ∨
          Ledger.events ⟨us, .receiving t⟩ ++ [.displayed t.frame] <+: q.events) := by
  obtain ⟨ts, stage⟩ := q
  have hstage : stage.Valid (memory ts.length) := hq.stage
  cases stage with
  | headed header =>
    left
    simp [Ledger.events, Stage.events, sinceHeader]
  | failedHeader result received =>
    left
    simp [Ledger.events, Stage.events, sinceHeader]
  | idle =>
    rcases List.eq_nil_or_concat' ts with rfl | ⟨us, t, rfl⟩
    · left
      rfl
    · right
      obtain ⟨hbegun, -⟩ := hq.closed us.length t (by simp)
      refine ⟨us, t, ?_, ?_, hbegun, fun _ => Or.inr ?_⟩
      · rw [Ledger.events, Turn.headers_flatMap]
        simp [Stage.events, headers]
      · rw [← Turn.sinceHeader_opening_reads t (us.flatMap Turn.events)]
        simp [Ledger.events, Stage.events, Turn.events, Turn.closing, sinceHeader]
      · simp [Ledger.events, Stage.events, Turn.events, Turn.closing]
  | receiving t =>
    right
    exact ⟨ts, t, headers_of_turn rfl, sinceHeader_of_turn rfl, hstage, fun _ => Or.inl rfl⟩
  | displayed t =>
    right
    refine ⟨ts, t, headers_of_turn rfl, sinceHeader_of_turn rfl, hstage.1, fun _ => Or.inr ?_⟩
    simp [Ledger.events, Stage.events]
  | responded t =>
    right
    refine ⟨ts, t, headers_of_turn rfl, sinceHeader_of_turn rfl, hstage.1, fun _ => Or.inr ?_⟩
    simp [Ledger.events, Stage.events]
  | failedData t result =>
    right
    refine ⟨ts, t, headers_of_turn rfl, sinceHeader_of_turn rfl, hstage.1, ?_⟩
    intro hcomplete
    exact absurd hcomplete.length_le hstage.2.2.not_ge

lemma noStaleMessage_of_truthful {memory : Nat → Environment} {trace : List Event} {q : Ledger}
    (hrun : Run (Move memory) Ledger.start trace q) (hrest : q.stage.AtRest)
    (h : Truthful trace) : NoStaleMessage memory trace := by
  intro t k header ht hlen hget hrejected hstale
  obtain ⟨p, rfl, hvalid, hgoes⟩ := exists_ledger hrun hrest ht
  rcases exists_turn hvalid with hnil | ⟨us, turn, hheaders, hsince, hbegun, hdisplayed⟩
  · rw [hnil] at hstale
    exact absurd (hstale.2.1.trans_le hstale.2.2) (lt_irrefl 0)
  · obtain rfl : us.length = k := by simpa [hheaders] using hlen
    obtain rfl : turn.header = header := by simpa [hheaders] using hget
    rw [hsince] at hstale
    have hcomplete : turn.Complete := (complete_iff_of_not_accepts hbegun hrejected).mpr hstale
    apply hrejected
    rcases hdisplayed hcomplete with rfl | hinitial
    · rcases hgoes with hrest' | ⟨e, p', hmove, hnext⟩
      · exact absurd hcomplete hrest'
      · cases hmove with
        | display => exact accepts_of_truthful h hbegun hnext
        | readData _ hlt => exact absurd hcomplete.length_le hlt.not_ge
        | failData _ hlt => exact absurd hcomplete.length_le hlt.not_ge
    · exact accepts_of_truthful h hbegun (hinitial.trans ht)

/-- The server approves only of messages that were accepted and received exactly in the runs in
which no rejected header finds a message in memory that its body reads complete. -/
theorem truthful_iff (memory : Nat → Environment) (input : Bytes) (schedule : List Int) :
    Truthful (serve memory input schedule).trace
      ↔ NoStaleMessage memory (serve memory input schedule).trace := by
  obtain ⟨q, hrun, hrest⟩ := serve_run memory input schedule
  exact ⟨noStaleMessage_of_truthful hrun hrest, truthful_of_noStaleMessage hrun⟩

/-- The second message is built where the first one was destroyed. -/
def staleMemory : Nat → Environment
  | 0     => .cleared
  | _ + 1 =>
    { Environment.cleared with
      object := MessageClass.ofHeaderMessage .cleared (fun _ => 0) (Outgoing.camera 1).header
      dangling := true }

/-- One message, then 37 zeros in the place of a header and one more byte. -/
def staleRun : Outcome :=
  serve staleMemory ((Outgoing.camera 1).frame ++ List.replicate 38 0) [37, 1, 37, 1]

theorem staleRun_not_truthful : ¬ Truthful staleRun.trace := by
  intro h
  have hinitial : staleRun.trace.take 10 ++ [.responded (okokok ++ [0, 0, 0, 0])]
      <+: staleRun.trace := by decide +kernel
  obtain ⟨k, header, -, hlen, hget, -, -, hsegments, -⟩ := h _ _ hinitial (.responded _)
  have hzeros : headers (staleRun.trace.take 10)
      = [(Outgoing.camera 1).header, List.replicate 37 0] := by
    decide +kernel
  rw [hzeros] at hlen hget
  obtain rfl : 1 = k := Nat.succ.inj hlen
  obtain rfl : List.replicate 37 0 = header := Option.some.inj hget
  exact absurd hsegments (by decide)

end Server
end Seifenkiste
