import Mathlib.Data.List.Forall2
import Seifenkiste.Message.Frame
import Seifenkiste.Server.Protocol

/-!
# Staying aligned with the frames

The server knows where a frame ends from the header alone, and a body read may run into the next
frame. It gets back the messages that were sent exactly when no read crosses the boundaries of
the frames.
-/

namespace Seifenkiste

open Memory LittleEndian Transition Trace PrefixCode

namespace Server

variable {memory : Nat → Environment} {sent : List Outgoing} {q : Ledger}

/-- The memory that the messages are built in never holds the value `invalid` in `state`. -/
def NeverInvalid (memory : Nat → Environment) : Prop :=
  ∀ k, (memory k).object.state ≠ MessageStateDef.invalid.toUInt32

lemma neverInvalid_cleared : NeverInvalid fun _ => .cleared := by
  intro _
  have hstate : MessageClass.cleared.state ≠ MessageStateDef.invalid.toUInt32 := by decide
  exact hstate

/-! ### Turns that read a header which was sent -/

/-- A turn that read the header of an outgoing message works with its parameters. -/
lemma turn_of_sent {env : Environment} {t : Turn} {o : Outgoing} (hbegun : t.Begun env)
    (hmem : env.object.state ≠ MessageStateDef.invalid.toUInt32) (hheader : t.header = o.header) :
    t.length = o.data.length ∧ t.message.specialParamBuffer ≠ none := by
  rw [Turn.length, hbegun.message_eq, hheader, o.ofHeaderMessage_header hmem, o.data_length]
  exact ⟨rfl, Option.some_ne_none _⟩

/-- The closed turns that read the headers of the messages read at least their data. -/
lemma frames_le_closed (hq : q.Valid memory) (hmem : NeverInvalid memory)
    (hheader : List.Forall₂ (fun t o => t.header = o.header) q.closed sent) :
    List.Forall₂ (fun (t : Turn) (o : Outgoing) =>
      (o.header ++ o.data).length ≤ (t.header ++ t.data).length) q.closed sent := by
  have hclosed : ∀ t ∈ q.closed, ∀ o : Outgoing, t.header = o.header →
      o.data.length ≤ t.data.length := by
    intro t ht o ho
    obtain ⟨k, hbegun, hcomplete⟩ := hq.of_mem ht
    rw [← (turn_of_sent hbegun (hmem k) ho).1]
    exact hcomplete.length_le
  refine ((List.forall₂_and_left _ _).mpr ⟨hclosed, hheader⟩).imp ?_
  rintro t o ⟨hdata, ho⟩
  rw [List.length_append, List.length_append, ho]
  exact Nat.add_le_add_left (hdata o ho) _

/-- As many bytes were read as were sent, so the closed turns read no more than the data. -/
lemma length_data_of_headers (hq : q.Valid memory) (hmem : NeverInvalid memory)
    (hconsumed : consumed q.events <+: Outgoing.stream sent)
    (hheader : List.Forall₂ (fun t o => t.header = o.header) q.closed sent) :
    List.Forall₂ (fun (t : Turn) (o : Outgoing) => t.data.length = o.data.length)
      q.closed sent := by
  have hsum : (q.closed.flatMap fun t => t.header ++ t.data).length
      ≤ (sent.flatMap fun o => o.header ++ o.data).length := by
    have hlen := hconsumed.length_le
    rw [Ledger.events, Turn.consumed_flatMap, Outgoing.stream_eq, List.length_append] at hlen
    exact (Nat.le_add_right _ _).trans hlen
  have hpieces := lengths_eq_of_le (frames_le_closed hq hmem hheader) hsum
  refine ((List.forall₂_and_left _ _).mpr ⟨hq.length_header, hpieces⟩).imp ?_
  rintro t o ⟨ht, hlen⟩
  rw [List.length_append, List.length_append, ht, o.length_header] at hlen
  exact Nat.add_left_cancel hlen

lemma map_eq_map_iff {α β γ : Type*} {f : α → γ} {g : β → γ} {as : List α} {bs : List β} :
    as.map f = bs.map g ↔ List.Forall₂ (fun a b => f a = g b) as bs := by
  rw [← List.forall₂_eq_eq_eq, List.forall₂_map_left_iff, List.forall₂_map_right_iff]

/-- The turn of the trace that is not over, if there is one. -/
def Stage.present : Stage → List (List Event)
  | idle  => []
  | stage => [stage.events]

lemma Stage.present_cases (stage : Stage) :
    stage.present = [] ∨ stage.present = [stage.events] := by
  cases stage <;> simp [present]

lemma cut_stage (stage : Stage) : cut stage.events = ([], stage.present) := by
  cases stage with
  | idle | headed | failedHeader => rfl
  | receiving t =>
    have hcut := t.cut_begun (u := []) (by simp)
    rw [List.append_nil] at hcut
    exact hcut
  | displayed t => exact t.cut_begun (by simp [Event.isHeaderRead])
  | responded t => exact t.cut_begun (by simp [Event.isHeaderRead])
  | failedData t result => exact t.cut_begun (by simp [Event.isHeaderRead])

/-- The turns of a ledger are the closed ones and the present one. -/
lemma turns_events (q : Ledger) :
    turns q.events = q.closed.map Turn.events ++ q.stage.present := by
  have hcut := cut_stage q.stage
  rw [turns, Ledger.events, Turn.cut_flatMap _ (by rw [hcut]), turns, hcut]

/-- One direction: the sent messages were processed, so the reads were as long as the frames. -/
lemma readSums_of_processed (hq : q.Valid memory) (hmem : NeverInvalid memory)
    (hconsumed : consumed q.events <+: Outgoing.stream sent)
    (h : processed q.events = sent.map fun o => (o.header, o.data)) :
    ((turns q.events).take sent.length).map readSums
      = sent.map fun o => ([(tcpHeaderLength : Int)], (o.data.length : Int)) := by
  rw [Ledger.events, Turn.processed_flatMap, processed_stage, List.append_nil, map_eq_map_iff] at h
  have hheader : List.Forall₂ (fun (t : Turn) (o : Outgoing) => t.header = o.header)
      q.closed sent :=
    h.imp fun t o hto => congrArg Prod.fst hto
  have hdata := length_data_of_headers hq hmem hconsumed hheader
  rw [turns_events, List.take_left' (by rw [List.length_map, h.length_eq]), List.map_map,
    map_eq_map_iff]
  apply hdata.imp
  intro t o hto
  rw [Function.comp_apply, Turn.readSums_events, hto]

/-- Bodies as long as the data are the data. -/
lemma frames_of_lengths {ts : List Turn} {rest rest' : Bytes}
    (hheaders : ∀ t ∈ ts, t.header.length = tcpHeaderLength)
    (hdata : List.Forall₂ (fun (t : Turn) (o : Outgoing) => t.data.length = o.data.length) ts sent)
    (h : (ts.flatMap fun t => t.header ++ t.data) ++ rest = Outgoing.stream sent ++ rest') :
    List.Forall₂ (fun (t : Turn) (o : Outgoing) => t.header = o.header ∧ t.data = o.data) ts sent
      ∧ rest = rest' := by
  have hall := (List.forall₂_and_left _ _).mpr ⟨hheaders, hdata⟩
  rw [Outgoing.stream_eq] at h
  obtain ⟨hpieces, hrest⟩ := pieces_eq (hall.imp fun t o hto => by
    rw [List.length_append, List.length_append, hto.1, o.length_header, hto.2]) h
  refine ⟨((List.forall₂_and_left _ _).mpr ⟨hheaders, hpieces⟩).imp ?_, hrest⟩
  rintro t o ⟨ht, hto⟩
  exact List.append_inj hto (ht.trans o.length_header.symm)

/-- A turn that read the header of a frame knows how long the body is. -/
lemma length_of_frame {env : Environment} {t : Turn} {o : Outgoing} {rest : Bytes}
    (hbegun : t.Begun env) (hmem : env.object.state ≠ MessageStateDef.invalid.toUInt32)
    (h : t.header ++ t.data ++ rest = o.header ++ o.data) :
    t.length = o.data.length ∧ t.message.specialParamBuffer ≠ none := by
  rw [List.append_assoc] at h
  have hheader := List.append_inj_left h (hbegun.length_header.trans o.length_header.symm)
  exact turn_of_sent hbegun hmem hheader

/-- A stage at rest does not wait behind a frame that was read to its end. -/
lemma not_atRest_of_frame {env : Environment} {stage : Stage} {o : Outgoing} {rest : Bytes}
    (hvalid : stage.Valid env) (hmem : env.object.state ≠ MessageStateDef.invalid.toUInt32)
    (hpos : 0 < o.data.length) (hconsumed : consumed stage.events ++ rest = o.header ++ o.data)
    (hreads : readSums stage.events = ([(tcpHeaderLength : Int)], (o.data.length : Int))) :
    ¬ stage.AtRest := by
  intro hrest
  cases stage with
  | idle =>
    have hresults := congrArg Prod.fst hreads
    simp [Stage.events, readSums, headerResults] at hresults
  | headed | displayed | responded => exact hrest
  | failedHeader result received =>
    have hresult := congrArg Prod.fst hreads
    simp only [Stage.events, readSums, headerResults, List.filterMap_cons, List.filterMap_nil,
      List.cons.injEq, and_true] at hresult
    exact hvalid.1 hresult
  | receiving t =>
    have hevents : (Stage.receiving t).events = t.opening ++ t.reads ++ [] := by
      rw [List.append_nil]
      rfl
    rw [hevents, Turn.consumed_opening_reads, List.append_assoc] at hconsumed
    obtain ⟨hlength, hparams⟩ := length_of_frame hvalid hmem hconsumed
    rw [hevents, Turn.readSums_opening_reads] at hreads
    have hdata : (t.data.length : Int) = o.data.length := by
      simpa [readSums, dataResults] using congrArg Prod.snd hreads
    refine hrest ⟨hparams, ?_, ?_⟩
    · rwa [hlength]
    · rw [hlength]
      exact (Int.ofNat_inj.mp hdata).ge
  | failedData t result =>
    obtain ⟨hbegun, hresult, hlt⟩ := hvalid
    rw [Stage.events, Turn.consumed_opening_reads, List.append_assoc] at hconsumed
    obtain ⟨hlength, -⟩ := length_of_frame hbegun hmem hconsumed
    rw [Stage.events, Turn.readSums_opening_reads] at hreads
    have hdata : (t.data.length : Int) + result = o.data.length := by
      simpa [readSums, dataResults] using congrArg Prod.snd hreads
    omega

/-- What the reads of closed turns add up to is the length of their bodies. -/
lemma length_data_of_readSums {ts : List Turn}
    (h : (ts.map Turn.events).map readSums
      = sent.map fun o => ([(tcpHeaderLength : Int)], (o.data.length : Int))) :
    List.Forall₂ (fun (t : Turn) (o : Outgoing) => t.data.length = o.data.length) ts sent := by
  rw [List.map_map, map_eq_map_iff] at h
  apply h.imp
  intro t o hto
  rw [Function.comp_apply, Turn.readSums_events] at hto
  exact Int.ofNat_inj.mp (congrArg Prod.snd hto)

/-- Reads as long as the frames close a turn for every message: a turn that is not over would
have its body. -/
lemma length_le_closed (hq : q.Valid memory) (hrest : q.stage.AtRest)
    (hmem : NeverInvalid memory) (hpos : ∀ o ∈ sent, 0 < o.data.length) {rest : Bytes}
    (hconsumed : consumed q.events ++ rest = Outgoing.stream sent)
    (h : ((turns q.events).take sent.length).map readSums
      = sent.map fun o => ([(tcpHeaderLength : Int)], (o.data.length : Int))) :
    sent.length ≤ q.closed.length := by
  by_contra hlt
  rw [not_le] at hlt
  rw [Ledger.events, Turn.consumed_flatMap, List.append_assoc] at hconsumed
  rw [turns_events] at h
  rcases q.stage.present_cases with hnone | hpresent
  · have hlen := congrArg List.length h
    simp only [hnone, List.append_nil, List.length_map, List.length_take] at hlen
    exact absurd hlen (min_eq_left_iff.not.mpr hlt.not_ge)
  · rw [hpresent, List.take_of_length_le (by simpa [Nat.succ_le_iff] using hlt)] at h
    rcases List.eq_nil_or_concat' sent with rfl | ⟨us, o, rfl⟩
    · exact absurd hlt (Nat.not_lt_zero _)
    rw [List.map_append, List.map_append] at h
    obtain ⟨hclosed, hlast⟩ := List.append_inj' h rfl
    have hstream : Outgoing.stream (us ++ [o]) = Outgoing.stream us ++ (o.header ++ o.data) := by
      simp only [Outgoing.stream_eq, List.flatMap_append, List.flatMap_singleton]
    rw [hstream] at hconsumed
    obtain ⟨-, hframe⟩ :=
      frames_of_lengths hq.length_header (length_data_of_readSums hclosed) hconsumed
    exact not_atRest_of_frame hq.stage (hmem _) (hpos o (by simp)) hframe
      (List.singleton_inj.mp hlast) hrest

/-- The other direction: the reads were as long as the frames, so the messages were processed. -/
lemma processed_of_readSums (hq : q.Valid memory) (hrest : q.stage.AtRest)
    (hmem : NeverInvalid memory) (hpos : ∀ o ∈ sent, 0 < o.data.length) {rest : Bytes}
    (hconsumed : consumed q.events ++ rest = Outgoing.stream sent)
    (h : ((turns q.events).take sent.length).map readSums
      = sent.map fun o => ([(tcpHeaderLength : Int)], (o.data.length : Int))) :
    processed q.events = sent.map fun o => (o.header, o.data) := by
  have hle := length_le_closed hq hrest hmem hpos hconsumed h
  obtain ⟨ts, stage⟩ := q
  rw [turns_events, List.take_append_of_le_length (by rwa [List.length_map]), ← List.map_take] at h
  rw [Ledger.events, Turn.consumed_flatMap, List.append_assoc] at hconsumed
  dsimp only at h hconsumed
  rw [← List.take_append_drop sent.length ts, List.flatMap_append, List.append_assoc,
    ← List.append_nil (Outgoing.stream sent)] at hconsumed
  obtain ⟨hframes, hnil⟩ := frames_of_lengths
    (fun t ht => hq.length_header t (List.mem_of_mem_take ht)) (length_data_of_readSums h) hconsumed
  -- a further turn would have read another header
  have hdrop : ts.drop sent.length = [] := by
    cases hts : ts.drop sent.length with
    | nil => rfl
    | cons t us =>
      have hheader := hq.length_header t (List.mem_of_mem_drop (hts ▸ List.mem_cons_self))
      rw [hts, List.flatMap_cons] at hnil
      simp only [List.append_eq_nil_iff] at hnil
      rw [hnil.1.1.1] at hheader
      exact absurd hheader (by decide)
  rw [List.take_of_length_le (List.drop_eq_nil_iff.mp hdrop)] at hframes
  have hlength : ∀ t ∈ ts, ∀ o : Outgoing, t.header = o.header → t.length = o.data.length := by
    intro t ht o ho
    obtain ⟨k, hbegun, -⟩ := hq.of_mem ht
    exact (turn_of_sent hbegun (hmem k) ho).1
  rw [Ledger.events, Turn.processed_flatMap, processed_stage, List.append_nil, map_eq_map_iff]
  refine ((List.forall₂_and_left _ _).mpr ⟨hlength, hframes⟩).imp ?_
  rintro t o ⟨hlength, hheader, hdata⟩
  rw [hlength o hheader, hheader, hdata, List.take_length]

/-- The server processes exactly the messages that were sent if and only if every header read for
them was complete and the body reads for every message add up to its data length. -/
theorem processed_eq_sent_iff {memory : Nat → Environment} (hmem : NeverInvalid memory)
    {sent : List Outgoing} (hpos : ∀ o ∈ sent, 1 ≤ o.message.getDataLength.toNat)
    (schedule : List Int) :
    processed (serve memory (Outgoing.stream sent) schedule).trace
        = sent.map (fun o => (o.header, o.data))
      ↔ ((turns (serve memory (Outgoing.stream sent) schedule).trace).take sent.length).map readSums
        = sent.map fun o => ([(tcpHeaderLength : Int)], (o.message.getDataLength.toNat : Int)) := by
  obtain ⟨q, hrun, hrest⟩ := serve_run memory (Outgoing.stream sent) schedule
  obtain ⟨hevents, hvalid⟩ := run_spec hrun
  have hconsumed := consumed_append_input memory (Outgoing.stream sent) schedule
  have hlength (o : Outgoing) : o.message.getDataLength.toNat = o.data.length := o.data_length.symm
  simp only [hlength] at hpos ⊢
  rw [← hevents] at hconsumed ⊢
  constructor
  · exact readSums_of_processed hvalid hmem ⟨_, hconsumed⟩
  · exact processed_of_readSums hvalid hrest hmem hpos hconsumed

def twoMessages : List Outgoing := [.camera 2, .camera 1]

/-- The theorem at two messages, one of which arrives in two reads. -/
theorem processed_two :
    processed (serve (fun _ => .cleared) (Outgoing.stream twoMessages) [37, 1, 1, 37, 1, 0]).trace
      = twoMessages.map fun o => (o.header, o.data) :=
  (processed_eq_sent_iff neverInvalid_cleared (by decide) [37, 1, 1, 37, 1, 0]).mpr
    (by decide +kernel)

/-! ### Schedules that keep the server aligned -/

/-- Every header is read at once, and the body reads that follow add up to the data. -/
def CutsAtFrames (sent : List Outgoing) (schedule : List Int) : Prop :=
  ∃ (bodies : List (List Int)) (rest : List Int),
    schedule = (bodies.flatMap fun body => (tcpHeaderLength : Int) :: body) ++ rest ∧
    (∀ body ∈ bodies, ∀ result ∈ body, result ≤ transferMax) ∧
    bodies.map List.sum = sent.map fun o => (o.message.getDataLength.toNat : Int)

lemma length_le_sum {body : List Int} (hbody : ∀ result ∈ body, 1 ≤ result) :
    (body.length : Int) ≤ body.sum := by
  induction body with
  | nil => exact le_rfl
  | cons result body ih =>
    obtain ⟨hone, hbody⟩ := List.forall_mem_cons.mp hbody
    rw [List.length_cons, List.sum_cons, Nat.cast_succ, add_comm]
    exact add_le_add hone (ih hbody)

/-- Body reads that deliver the rest of the body close the turn. -/
lemma run_body (turns : Nat) (t : Turn) (data more : Bytes) {body : List Int}
    (hlt : t.data.length < t.length) (hlen : t.length = (t.data ++ data).length)
    (hbody : ∀ result ∈ body, 1 ≤ result ∧ result ≤ transferMax) (hsum : body.sum = data.length) :
    (machine memory).state ⟨.receiving t, data ++ more, turns⟩ body
        = ⟨leave (memory turns) t, more, turns + 1⟩ ∧
      processed ((machine memory).output ⟨.receiving t, data ++ more, turns⟩ body)
        = [(t.header, t.data ++ data)] := by
  induction body generalizing t data with
  | nil =>
    have hnil : data.length = 0 := by simpa using hsum.symm
    rw [List.length_append, hnil, Nat.add_zero] at hlen
    exact absurd hlt (Nat.lt_irrefl _ ∘ (hlen ▸ ·))
  | cons result body ih =>
    obtain ⟨⟨hone, hmax⟩, htail⟩ := List.forall_mem_cons.mp hbody
    have hrest := length_le_sum fun r hr => (htail r hr).1
    rw [List.sum_cons] at hsum
    rw [List.length_append] at hlen
    obtain ⟨n, rfl⟩ := Int.eq_ofNat_of_zero_le (show 0 ≤ result by omega)
    have hle : n ≤ data.length := by omega
    have hgranted : Granted t.length (data ++ more).length n := by
      refine ⟨by omega, by omega, ?_, hmax⟩
      rw [List.length_append]
      omega
    have hstep : step memory ⟨.receiving t, data ++ more, turns⟩ n
        = dataRead (memory turns) t turns n (data.take n) (data.drop n ++ more) := by
      rw [step_receiving hgranted, Int.toNat_natCast, List.take_append_of_le_length hle,
        List.drop_append_of_le_length hle]
    have hneg : ¬ (n : Int) < 0 := by omega
    have hdata : (t.receive (data.take n)).data ++ data.drop n = t.data ++ data := by
      rw [Turn.data_receive, List.append_assoc, List.take_append_drop]
    rw [Machine.state_cons, Machine.output_cons, machine_step, hstep]
    by_cases hmore : (t.receive (data.take n)).data.length < t.length
    · rw [dataRead_of_lt hneg hmore]
      obtain ⟨hstate, hprocessed⟩ := ih (t.receive (data.take n)) (data.drop n) hmore
        (by rw [hdata, List.length_append]; exact hlen) htail (by rw [List.length_drop]; omega)
      refine ⟨hstate, ?_⟩
      rw [hdata] at hprocessed
      exact hprocessed
    · -- nothing of the body is left for another read
      have hlong := hmore
      rw [Turn.data_receive, List.length_append, List.length_take] at hlong
      obtain rfl : n = data.length := by omega
      obtain rfl : body = [] := List.length_eq_zero_iff.mp (by omega)
      have hinitial : (t.data ++ data).take t.length = t.data ++ data := by
        rw [hlen, ← List.length_append, List.take_length]
      rw [dataRead_of_le hneg (not_lt.mp hmore)]
      simp only [List.take_length, List.drop_length, Machine.state_nil, Machine.output_nil,
        List.append_nil]
      refine ⟨rfl, ?_⟩
      simp only [processed, Turn.closing, Turn.data_receive, Turn.length_receive, hinitial,
        List.filterMap_cons, List.filterMap_nil]
      rfl

/-- The header of a message that was sent is read at once, and the turn waits for its data. -/
lemma step_header {turns : Nat} {o : Outgoing} (rest : Bytes)
    (hmem : (memory turns).object.state ≠ MessageStateDef.invalid.toUInt32)
    (hpos : 0 < o.data.length) :
    ∃ t : Turn, t.header = o.header ∧ t.chunks = [] ∧ t.Begun (memory turns) ∧
      step memory ⟨.idle, o.header ++ rest, turns⟩ tcpHeaderLength
        = (⟨.receiving t, rest, turns⟩,
          [.readHeader tcpHeaderLength o.header, .constructed t.message]) := by
  obtain ⟨message, hmessage⟩ : ∃ message, message = MessageClass.ofHeaderMessage
    (memory turns).object (memory turns).heap o.header := ⟨_, rfl⟩
  let t : Turn := ⟨o.header, message, []⟩
  have hbegun : t.Begun (memory turns) := ⟨o.length_header, hmessage⟩
  obtain ⟨hlength, hparams⟩ := turn_of_sent hbegun hmem rfl
  have hgranted : Granted tcpHeaderLength (o.header ++ rest).length tcpHeaderLength := by
    refine ⟨by decide, le_rfl, ?_, by decide⟩
    rw [List.length_append, o.length_header]
    exact Int.ofNat_le.mpr (Nat.le_add_right _ _)
  have htake : (o.header ++ rest).take tcpHeaderLength = o.header :=
    List.take_left' o.length_header
  have hdrop : (o.header ++ rest).drop tcpHeaderLength = rest :=
    List.drop_left' o.length_header
  have henter : enter t = .receiving t := by
    have hlong : ¬ t.length < 1 := by
      rw [hlength]
      exact Nat.not_lt.mpr hpos
    simp only [enter, hparams, hlong, if_false]
  refine ⟨t, rfl, rfl, hbegun, ?_⟩
  rw [← henter, step_idle hgranted, Int.toNat_natCast, htake, hdrop]
  exact headerRead_full hmessage

/-- A header read of 37 bytes and body reads that add up to the data process one frame. -/
lemma run_frame {turns : Nat} {o : Outgoing} (more : Bytes) {body : List Int}
    (hmem : (memory turns).object.state ≠ MessageStateDef.invalid.toUInt32)
    (hpos : 0 < o.data.length) (hbody : ∀ result ∈ body, 1 ≤ result ∧ result ≤ transferMax)
    (hsum : body.sum = o.data.length) :
    (machine memory).state ⟨.idle, o.header ++ (o.data ++ more), turns⟩ (tcpHeaderLength :: body)
        = ⟨.idle, more, turns + 1⟩ ∧
      processed ((machine memory).output ⟨.idle, o.header ++ (o.data ++ more), turns⟩
          (tcpHeaderLength :: body))
        = [(o.header, o.data)] := by
  obtain ⟨t, hheader, hchunks, hbegun, hstep⟩ := step_header (o.data ++ more) hmem hpos
  obtain ⟨hlength, -⟩ := turn_of_sent hbegun hmem hheader
  have hnone : t.data = [] := by rw [Turn.data, hchunks, List.flatten_nil]
  have haccepts : (memory turns).object.Accepts t.header :=
    ⟨hheader ▸ o.hasControlSegments_header, hmem⟩
  obtain ⟨hstate, hprocessed⟩ := run_body turns t o.data more (by rwa [hnone, hlength])
    (by rw [hnone, hlength, List.nil_append]) hbody hsum
  rw [hnone, hheader, List.nil_append] at hprocessed
  rw [Machine.state_cons, Machine.output_cons, machine_step, hstep, hstate,
    hbegun.leave_of_accepts haccepts]
  exact ⟨rfl, hprocessed⟩

/-- A schedule that cuts at the frames brings the server to the end of the stream. -/
lemma run_frames (hmem : NeverInvalid memory) (hpos : ∀ o ∈ sent, 0 < o.data.length) (turns : Nat)
    {bodies : List (List Int)}
    (hbodies : ∀ body ∈ bodies, ∀ result ∈ body, 1 ≤ result ∧ result ≤ transferMax)
    (hsums : bodies.map List.sum = sent.map fun o => (o.data.length : Int)) :
    (machine memory).state ⟨.idle, Outgoing.stream sent, turns⟩
        (bodies.flatMap fun body => (tcpHeaderLength : Int) :: body)
        = ⟨.idle, [], turns + sent.length⟩ ∧
      processed ((machine memory).output ⟨.idle, Outgoing.stream sent, turns⟩
          (bodies.flatMap fun body => (tcpHeaderLength : Int) :: body))
        = sent.map fun o => (o.header, o.data) := by
  induction sent generalizing bodies turns with
  | nil =>
    obtain rfl : bodies = [] := by simpa using hsums
    exact ⟨rfl, rfl⟩
  | cons o sent ih =>
    cases bodies with
    | nil => exact absurd hsums (by simp)
    | cons body bodies =>
      obtain ⟨hbody, hbodies⟩ := List.forall_mem_cons.mp hbodies
      obtain ⟨ho, hpos⟩ := List.forall_mem_cons.mp hpos
      rw [List.map_cons, List.map_cons] at hsums
      obtain ⟨hsum, hsums⟩ := List.cons_eq_cons.mp hsums
      have hstream : Outgoing.stream (o :: sent)
          = o.header ++ (o.data ++ Outgoing.stream sent) := by
        rw [Outgoing.stream_eq, List.flatMap_cons, List.append_assoc, ← Outgoing.stream_eq]
      obtain ⟨hstate, hprocessed⟩ := run_frame (Outgoing.stream sent) (hmem turns) ho hbody hsum
      obtain ⟨hstate', hprocessed'⟩ := ih hpos (turns + 1) hbodies hsums
      rw [hstream, List.flatMap_cons, Machine.state_append, Machine.output_append, hstate]
      refine ⟨?_, ?_⟩
      · rw [hstate', List.length_cons, Nat.add_assoc, Nat.add_comm 1]
      · rw [processed, List.filterMap_append, List.map_cons]
        exact congrArg₂ (· ++ ·) hprocessed hprocessed'

/-- The results of all reads of a trace. -/
def readResults (t : List Event) : List Int :=
  t.filterMap fun
    | .readHeader result _ => some result
    | .readData result _ => some result
    | _ => none

lemma readResults_step (s : State) (result : Int) :
    (readResults (step memory s result).2 = [result] ∧ result ≤ transferMax) ∨
      (step memory s result).2 = [] ∧ ∃ stop, (step memory s result).1.phase = .stopped stop := by
  obtain ⟨phase, input, turns⟩ := s
  cases phase with
  | stopped stop => exact Or.inr ⟨rfl, stop, rfl⟩
  | idle =>
    by_cases hgranted : Granted tcpHeaderLength input.length result
    · left
      refine ⟨?_, hgranted.2.2.2⟩
      rw [step_idle hgranted, headerRead]
      split_ifs <;> rfl
    · right
      rw [step_idle_refused hgranted]
      exact ⟨rfl, _, rfl⟩
  | receiving t =>
    by_cases hgranted : Granted t.length input.length result
    · left
      refine ⟨?_, hgranted.2.2.2⟩
      rw [step_receiving hgranted, dataRead]
      split_ifs <;> rfl
    · right
      rw [step_receiving_refused hgranted]
      exact ⟨rfl, _, rfl⟩

/-- The server uses the results of the schedule one after the other. -/
lemma readResults_output (s : State) (schedule : List Int) :
    readResults ((machine memory).output s schedule) <+: schedule ∧
      ∀ result ∈ readResults ((machine memory).output s schedule), result ≤ transferMax := by
  induction schedule generalizing s with
  | nil => exact ⟨List.nil_prefix, by simp [readResults]⟩
  | cons result schedule ih =>
    rw [Machine.output_cons, machine_step, readResults, List.filterMap_append]
    rcases readResults_step s result with ⟨hone, hmax⟩ | ⟨hnone, stop, hstop⟩
    · rw [← readResults, hone]
      obtain ⟨hinitial, hall⟩ := ih (step memory s result).1
      exact ⟨List.cons_prefix_cons.mpr ⟨rfl, hinitial⟩, List.forall_mem_cons.mpr ⟨hmax, hall⟩⟩
    · rw [hnone, ((machine memory).state_of_fixed (fun i => step_stopped hstop i) schedule).2]
      exact ⟨List.nil_prefix, by simp⟩

lemma readResults_closed (ts : List Turn) :
    readResults (ts.flatMap Turn.events)
      = (ts.map fun t => t.chunks.map fun chunk => (chunk.length : Int)).flatMap
        fun body => (tcpHeaderLength : Int) :: body := by
  induction ts with
  | nil => rfl
  | cons t ts ih =>
    have hturn : readResults t.events
        = (tcpHeaderLength : Int) :: t.chunks.map fun chunk => (chunk.length : Int) := by
      simp [readResults, Turn.events, Turn.opening, Turn.reads, Turn.closing, List.filterMap_map]
    rw [List.flatMap_cons, readResults, List.filterMap_append, List.map_cons, List.flatMap_cons]
    exact congrArg₂ (· ++ ·) hturn ih

/-- A stage that has read nothing, from a schedule of positive results, is idle. -/
lemma idle_of_consumed_eq_nil {env : Environment} {stage : Stage} (hvalid : stage.Valid env)
    (hresults : ∀ result ∈ readResults stage.events, 1 ≤ result)
    (h : consumed stage.events = []) : stage = .idle := by
  have hbegun {t : Turn} {u : List Event} (ht : t.Begun env)
      (hu : consumed (t.opening ++ t.reads ++ u) = []) : False := by
    rw [Turn.consumed_opening_reads, List.append_assoc] at hu
    have hlen := ht.length_header
    rw [(List.append_eq_nil_iff.mp hu).1] at hlen
    exact absurd hlen (by decide)
  cases stage with
  | idle => rfl
  | headed header =>
    have hlen : header.length = tcpHeaderLength := hvalid
    have hnil : header = [] := by simpa [consumed, Stage.events, Event.received] using h
    rw [hnil] at hlen
    exact absurd hlen (by decide)
  | failedHeader result received =>
    have hone : 1 ≤ result := hresults result (by simp [readResults, Stage.events])
    have hnil : received = [] := by simpa [consumed, Stage.events, Event.received] using h
    have hlen := hvalid.2
    rw [hnil, List.length_nil] at hlen
    omega
  | receiving t => exact (hbegun (u := []) hvalid (by rwa [List.append_nil])).elim
  | displayed t => exact (hbegun hvalid.1 h).elim
  | responded t => exact (hbegun hvalid.1 h).elim
  | failedData t result => exact (hbegun hvalid.1 h).elim

/-- At the end of the stream the server waits for a header, and nothing can come. -/
lemma run_end (turns : Nat) {rest : List Int} (hrest : ∀ result ∈ rest, 1 ≤ result) :
    ((machine memory).state ⟨.idle, [], turns⟩ rest).phase.stop = .blocked tcpHeaderLength ∧
      ((machine memory).state ⟨.idle, [], turns⟩ rest).input = [] ∧
      (machine memory).output ⟨.idle, [], turns⟩ rest = [] := by
  cases rest with
  | nil => exact ⟨rfl, rfl, rfl⟩
  | cons result rest =>
    have hone := hrest result List.mem_cons_self
    have hrefused : ¬ Granted tcpHeaderLength ([] : Bytes).length result := by
      rintro ⟨-, -, havailable, -⟩
      exact absurd (hone.trans havailable) (by decide)
    have hstep : step memory ⟨.idle, [], turns⟩ result
        = (⟨.stopped (.blocked tcpHeaderLength), [], turns⟩, []) := step_idle_refused hrefused
    obtain ⟨hstate, houtput⟩ := (machine memory).state_of_fixed
      (s := ⟨.stopped (.blocked tcpHeaderLength), [], turns⟩) (fun _ => rfl) rest
    rw [Machine.state_cons, Machine.output_cons, machine_step, hstep, hstate, houtput]
    exact ⟨rfl, rfl, rfl⟩

/-- A run that got all messages has read the schedule frame by frame. -/
lemma cutsAtFrames_of_processed (hmem : NeverInvalid memory) {schedule : List Int}
    (hschedule : ∀ result ∈ schedule, 1 ≤ result)
    (hprocessed : processed (serve memory (Outgoing.stream sent) schedule).trace
      = sent.map fun o => (o.header, o.data)) : CutsAtFrames sent schedule := by
  obtain ⟨⟨ts, stage⟩, hrun, -⟩ := serve_run memory (Outgoing.stream sent) schedule
  obtain ⟨hevents, hvalid⟩ := run_spec hrun
  have hconsumed := consumed_append_input memory (Outgoing.stream sent) schedule
  have htrace : (machine memory).output (start (Outgoing.stream sent)) schedule
      = Ledger.events ⟨ts, stage⟩ := by
    rw [hevents, serve_eq]
  obtain ⟨hinitial, hmax⟩ := htrace ▸ readResults_output (start (Outgoing.stream sent)) schedule
  rw [← hevents] at hconsumed hprocessed
  -- the closed turns have the headers and the lengths of the messages
  have hdata : List.Forall₂ (fun (t : Turn) (o : Outgoing) => t.data.length = o.data.length)
      ts sent := by
    refine length_data_of_headers hvalid hmem ⟨_, hconsumed⟩ ?_
    rw [Ledger.events, Turn.processed_flatMap, processed_stage, List.append_nil, map_eq_map_iff]
      at hprocessed
    exact hprocessed.imp fun t o hto => congrArg Prod.fst hto
  -- so nothing is left for the present turn
  have hidle : stage = .idle := by
    rw [Ledger.events, Turn.consumed_flatMap, List.append_assoc] at hconsumed
    rw [← List.append_nil (Outgoing.stream sent)] at hconsumed
    obtain ⟨-, hnil⟩ := frames_of_lengths hvalid.length_header hdata hconsumed
    have hnone := (List.append_eq_nil_iff.mp hnil).1
    refine idle_of_consumed_eq_nil hvalid.stage (fun result hresult => ?_) hnone
    refine hschedule result (hinitial.subset ?_)
    rw [Ledger.events, readResults, List.filterMap_append]
    exact List.mem_append_right _ hresult
  subst hidle
  rw [Ledger.events, Stage.events, List.append_nil, readResults_closed] at hinitial hmax
  obtain ⟨rest, hrest⟩ := hinitial
  refine ⟨_, rest, hrest.symm, ?_, ?_⟩
  · intro body hbody result hresult
    exact hmax result (List.mem_flatMap.mpr ⟨body, hbody, List.mem_cons_of_mem _ hresult⟩)
  · rw [List.map_map, map_eq_map_iff]
    apply hdata.imp
    intro t o hto
    rw [Function.comp_apply, t.sum_chunks, hto, o.data_length]
    rfl

/-- Along a schedule that cuts at the frames the server gets all messages. -/
lemma receives_of_cutsAtFrames (hmem : NeverInvalid memory)
    (hpos : ∀ o ∈ sent, 1 ≤ o.message.getDataLength.toNat) {schedule : List Int}
    (hschedule : ∀ result ∈ schedule, 1 ≤ result) (h : CutsAtFrames sent schedule) :
    (serve memory (Outgoing.stream sent) schedule).stop = .blocked tcpHeaderLength ∧
      (serve memory (Outgoing.stream sent) schedule).input = [] ∧
      processed (serve memory (Outgoing.stream sent) schedule).trace
        = sent.map fun o => (o.header, o.data) := by
  obtain ⟨bodies, rest, rfl, hmax, hsums⟩ := h
  have hlength (o : Outgoing) : o.message.getDataLength.toNat = o.data.length :=
    o.data_length.symm
  simp only [hlength] at hpos hsums
  have hbodies : ∀ body ∈ bodies, ∀ result ∈ body, 1 ≤ result ∧ result ≤ transferMax := by
    intro body hbody result hresult
    refine ⟨hschedule result (List.mem_append_left _ ?_), hmax body hbody result hresult⟩
    exact List.mem_flatMap.mpr ⟨body, hbody, List.mem_cons_of_mem _ hresult⟩
  obtain ⟨hstate, hprocessed⟩ := run_frames hmem hpos 0 hbodies hsums
  obtain ⟨hstop, hinput, houtput⟩ := run_end (0 + sent.length)
    fun result hresult => hschedule result (List.mem_append_right _ hresult)
  rw [serve_eq, start, Machine.state_append, Machine.output_append, hstate, houtput,
    List.append_nil]
  exact ⟨hstop, hinput, hprocessed⟩

/-- The same of the schedule alone: without empty reads the messages sent are processed exactly when
the schedule cuts at their frames. Then the server does not stop before the last of them. -/
theorem processed_iff_cutsAtFrames (hmem : NeverInvalid memory)
    (hpos : ∀ o ∈ sent, 1 ≤ o.message.getDataLength.toNat) {schedule : List Int}
    (hschedule : ∀ result ∈ schedule, 1 ≤ result) :
    processed (serve memory (Outgoing.stream sent) schedule).trace
        = sent.map (fun o => (o.header, o.data)) ↔ CutsAtFrames sent schedule := by
  constructor
  · exact cutsAtFrames_of_processed hmem hschedule
  · intro h
    exact (receives_of_cutsAtFrames hmem hpos hschedule h).2.2

/-- On a schedule without empty reads the server gets all messages and waits for the next header
exactly when the schedule cuts the stream at the frames. -/
theorem receives_all_iff {memory : Nat → Environment} (hmem : NeverInvalid memory)
    {sent : List Outgoing} (hpos : ∀ o ∈ sent, 1 ≤ o.message.getDataLength.toNat)
    {schedule : List Int} (hschedule : ∀ result ∈ schedule, 1 ≤ result) :
    ((serve memory (Outgoing.stream sent) schedule).stop = .blocked tcpHeaderLength ∧
      (serve memory (Outgoing.stream sent) schedule).input = [] ∧
      processed (serve memory (Outgoing.stream sent) schedule).trace
        = sent.map fun o => (o.header, o.data))
      ↔ CutsAtFrames sent schedule := by
  constructor
  · rintro ⟨-, -, hprocessed⟩
    exact cutsAtFrames_of_processed hmem hschedule hprocessed
  · exact receives_of_cutsAtFrames hmem hpos hschedule

/-- The theorem at two messages whose reads end where the frames end. -/
theorem receives_all_two :
    (serve (fun _ => .cleared) (Outgoing.stream twoMessages) [37, 1, 1, 37, 1]).stop
        = .blocked tcpHeaderLength ∧
      (serve (fun _ => .cleared) (Outgoing.stream twoMessages) [37, 1, 1, 37, 1]).input = [] ∧
      processed (serve (fun _ => .cleared) (Outgoing.stream twoMessages) [37, 1, 1, 37, 1]).trace
        = twoMessages.map fun o => (o.header, o.data) :=
  (receives_all_iff neverInvalid_cleared (by decide) (by decide)).mpr
    ⟨[[1, 1], [1]], [], by decide, by decide, by decide⟩

/-- The first body read returns one byte of two, and the second one runs into the next frame. -/
def shortReadRun : Outcome :=
  serve (fun _ => .cleared) (Outgoing.stream [.camera 2, .camera 2]) [37, 1, 2, 36]

theorem shortReadRun_loses_alignment :
    readResults shortReadRun.trace = [37, 1, 2, 36] ∧
      shortReadRun.stop = .exit "ERROR message header too short" ∧ shortReadRun.input = [0, 0] ∧
      (processed shortReadRun.trace).length = 1 := by
  decide +kernel

end Server
end Seifenkiste
