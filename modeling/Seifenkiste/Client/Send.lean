import Seifenkiste.Client.Basic
import Seifenkiste.Library.Framing
import Seifenkiste.Library.Transition

/-!
# What a client leaves on its connection

A call of `sendMessage` is two writes, and its result tells whether one of them failed. A short
write does not count as a failure, and a failed write does not change the state of the client, so
the client neither notices a frame that was cut off nor stops behind one.
-/

namespace Seifenkiste

open Transition Framing

namespace TcpClient

/-! ### A single call -/

/-- Two initial parts make up a frame when both are the whole. -/
lemma take_append_take_eq_iff {a b : Bytes} {m n : Nat} (hm : m ≤ a.length) (hn : n ≤ b.length) :
    a.take m ++ b.take n = a ++ b ↔ m = a.length ∧ n = b.length := by
  constructor
  · intro h
    have hlen := congrArg List.length h
    rw [List.length_append, List.length_append, List.length_take_of_le hm,
      List.length_take_of_le hn] at hlen
    omega
  · rintro ⟨rfl, rfl⟩
    rw [List.take_length, List.take_length]

/-- What a call reports as a success is the whole frame exactly when there is nothing to report,
a write is reported as failed, or both writes took everything. -/
theorem success_iff (client : TcpClient) (o : Outgoing) (heap : Nat → UInt8) {writes : Writes}
    (hheader : Written tcpHeaderLength writes.header)
    (hdata : Written o.message.dataLength.toNat writes.data) :
    (∀ sent, client.sendMessage o.message heap writes = some sent → sent.result = 0 →
        sent.placed = o.message.frame)
      ↔ client.tcpState ≠ .connectionReady ∨ writes.header < 0 ∨ writes.data < 0 ∨
        2 ^ 31 ≤ writes.data ∨
        (writes.header = tcpHeaderLength ∧ writes.data = o.message.dataLength.toNat) := by
  have hfailed := toInt_neg_iff hdata o.message.dataLength.toNat_lt
  simp only [client.sendMessage_eq o heap hheader, Option.some.injEq, forall_eq',
    o.frame_message, Outgoing.frame]
  by_cases hready : client.tcpState = .connectionReady
  · by_cases hneg : writes.header < 0
    · simp [hneg, not_le.mpr hneg]
    · by_cases hlost : toInt writes.data < 0
      · simp only [hready, not_lt.mp hneg, hlost, and_self, if_true]
        refine iff_of_true (fun h => absurd h (by decide)) ?_
        exact Or.inr (Or.inr ((hfailed.mp hlost).imp_right Or.inl))
      · obtain ⟨hpos, hsmall⟩ := not_or.mp (mt hfailed.mpr hlost)
        obtain ⟨-, hheader⟩ := hheader
        obtain ⟨-, hdata⟩ := hdata
        have hm : writes.header.toNat ≤ o.header.length := by
          rw [o.length_header]
          exact Int.toNat_le.mpr hheader
        have hn : writes.data.toNat ≤ o.data.length := by
          rw [o.data_length]
          exact Int.toNat_le.mpr hdata
        simp only [hready, not_lt.mp hneg, hlost, hneg, hpos, hsmall, and_self, if_true, if_false,
          true_implies, ne_eq, not_true, false_or]
        rw [take_append_take_eq_iff hm hn, o.length_header, o.data_length]
        have hnat := Int.toNat_of_nonneg (not_lt.mp hneg)
        have hnat' := Int.toNat_of_nonneg (not_lt.mp hpos)
        constructor
        · rintro ⟨hall, hall'⟩
          rw [← hnat, ← hnat', hall, hall']
          exact ⟨rfl, rfl⟩
        · rintro ⟨hall, hall'⟩
          rw [hall, hall']
          exact ⟨Int.toNat_natCast _, Int.toNat_natCast _⟩
  · simp [hready]

/-- The theorem at a call both of whose writes take everything. -/
theorem success_full :
    ∃ sent, connected.sendMessage (Outgoing.camera 2).message (fun _ => 0) ⟨37, 2⟩
        = some sent ∧
      sent.result = 0 ∧ sent.placed = (Outgoing.camera 2).message.frame := by
  have hheader : Written tcpHeaderLength (Writes.mk 37 2).header := by decide
  have hdata : Written (Outgoing.camera 2).message.dataLength.toNat
    (Writes.mk 37 2).data := by decide
  have hplaced := (success_iff connected _ (fun _ => 0) hheader hdata).mpr (by decide)
  have hsent : connected.sendMessage (Outgoing.camera 2).message (fun _ => 0) ⟨37, 2⟩
      = some ⟨0, connected, (Outgoing.camera 2).message.frame⟩ := by decide +kernel
  exact ⟨_, hsent, rfl, hplaced _ hsent rfl⟩

/-- A write that takes one of two data bytes is reported as a success. -/
theorem shortWrite_is_success :
    Written tcpHeaderLength 37 ∧ Written (Outgoing.camera 2).message.dataLength.toNat 1 ∧
    ¬ ∀ sent, connected.sendMessage (Outgoing.camera 2).message (fun _ => 0) ⟨37, 1⟩
        = some sent → sent.result = 0 → sent.placed = (Outgoing.camera 2).message.frame := by
  refine ⟨by decide, by decide, ?_⟩
  intro h
  have hplaced := h ⟨0, connected, (Outgoing.camera 2).message.frame.take 38⟩
    (by decide +kernel) rfl
  exact absurd hplaced (by decide +kernel)

/-- Two full writes place the frame of the message. -/
theorem sendMessage_full {client : TcpClient} (hready : client.tcpState = .connectionReady)
    {o : Outgoing} (hsmall : o.message.dataLength.toNat < 2 ^ 31) (heap : Nat → UInt8) :
    client.sendMessage o.message heap ⟨tcpHeaderLength, o.message.dataLength.toNat⟩
      = some ⟨0, client, o.message.frame⟩ := by
  have hheader : Written tcpHeaderLength tcpHeaderLength := ⟨by decide, le_rfl⟩
  have hdata : Written o.message.dataLength.toNat o.message.dataLength.toNat :=
    ⟨(by decide : (-1 : Int) ≤ 0).trans (Int.natCast_nonneg _), le_rfl⟩
  rw [client.sendMessage_eq o heap hheader, toInt_of_written hdata hsmall, o.frame_message,
    Outgoing.frame]
  simp only [hready, Int.natCast_nonneg, and_self, if_true, Int.toNat_natCast,
    (Int.natCast_nonneg _).not_gt, if_false]
  rw [← o.data_length, List.take_length, ← o.length_header, List.take_length]

/-! ### Sequences of calls -/

/-- A call of `sendMessage`: what is sent, the heap that the header buffer comes from, and what
the kernel answers to the writes. -/
structure Call where
  message : Outgoing
  heap : Nat → UInt8
  writes : Writes

namespace Call

/-- Each write takes everything or fails. -/
def AllOrNothing (c : Call) : Prop :=
  (c.writes.header = -1 ∨ c.writes.header = tcpHeaderLength) ∧
    (c.writes.data = -1 ∨ c.writes.data = c.message.message.dataLength.toNat)

/-- The header is taken, and the data behind it is not. -/
def HalfSent (c : Call) : Prop :=
  0 ≤ c.writes.header ∧ c.writes.data < 0 ∧ c.message.message.dataLength ≠ 0

instance (c : Call) : Decidable c.AllOrNothing := inferInstanceAs (Decidable (_ ∧ _))

instance (c : Call) : Decidable c.HalfSent := inferInstanceAs (Decidable (_ ∧ _))

def frame (c : Call) : Bytes := c.message.message.frame

end Call

/-- The client after a call, and what the call placed on the connection. -/
def sendCall (client : TcpClient) (c : Call) : TcpClient × Bytes :=
  match client.sendMessage c.message.message c.heap c.writes with
  | some sent => (sent.client, sent.placed)
  | none      => (client, [])

abbrev sender : Machine TcpClient Call UInt8 := ⟨sendCall⟩

/-- The stream of bytes that the client leaves on the connection. -/
def wire (client : TcpClient) (calls : List Call) : Bytes := sender.output client calls

/-- The messages whose frame was placed as a whole. -/
def completed : TcpClient → List Call → List Outgoing
  | _, []               => []
  | client, c :: calls =>
    let (client', placed) := client.sendCall c
    if placed = c.frame then c.message :: completed client' calls else completed client' calls

/-- After every call the stream consists of the frames that were completed, and possibly of the
beginning of one more frame, behind which no byte is sent any more. -/
def StaysFramed (client : TcpClient) (calls : List Call) : Prop :=
  ∀ n, ∃ rest,
    client.wire (calls.take n) = Outgoing.stream (client.completed (calls.take n)) ++ rest ∧
    (rest = [] ∨
      (∃ o : Outgoing, rest <+: o.message.frame ∧ rest ≠ o.message.frame) ∧
        ∀ m, n ≤ m → client.wire (calls.take m) = client.wire (calls.take n))

lemma send_client (client : TcpClient) (buffer : Bytes) (bufferLength : UInt32) (written : Int) :
    (client.send buffer bufferLength written).client = client := by
  unfold send
  split_ifs <;> rfl

/-- Whatever happens to the writes, the client does not take note of it. -/
lemma sendMessage_client {client : TcpClient} {m : MessageClass} {heap : Nat → UInt8}
    {writes : Writes} {sent : Sent} (h : client.sendMessage m heap writes = some sent) :
    sent.client = client := by
  obtain ⟨header, -, rfl⟩ := Option.map_eq_some_iff.mp h
  dsimp only
  split
  · exact send_client _ _ _ _
  · dsimp only
    rw [send_client, send_client]

lemma sendCall_fst (client : TcpClient) (c : Call) : (client.sendCall c).1 = client := by
  unfold sendCall
  split
  · rename_i h
    exact sendMessage_client h
  · rfl

/-- What a call places on the connection. -/
def placed (client : TcpClient) (c : Call) : Bytes := (client.sendCall c).2

lemma wire_eq (client : TcpClient) (calls : List Call) :
    client.wire calls = calls.flatMap client.placed :=
  sender.output_of_const client.sendCall_fst calls

lemma completed_eq (client : TcpClient) (calls : List Call) :
    client.completed calls = (complete Call.frame client.placed calls).map Call.message := by
  induction calls with
  | nil => rfl
  | cons c calls ih =>
    simp only [completed, sendCall_fst, ih, complete, List.filter_cons, decide_eq_true_eq]
    rw [← placed]
    split_ifs <;> rfl

/-- The stream of a client is a stream of frames in the general sense. -/
lemma staysFramed_iff_framed (client : TcpClient) (calls : List Call) :
    client.StaysFramed calls ↔ Framed Call.frame client.placed calls := by
  have hbegun (rest : Bytes) : (∃ o : Outgoing, rest <+: o.message.frame ∧ rest ≠ o.message.frame)
      ↔ ∃ c : Call, rest <+: c.frame ∧ rest ≠ c.frame := by
    constructor
    · rintro ⟨o, ho⟩
      exact ⟨⟨o, fun _ => 0, ⟨0, 0⟩⟩, ho⟩
    · rintro ⟨c, hc⟩
      exact ⟨c.message, hc⟩
  simp only [StaysFramed, Framed, wire_eq, completed_eq, Outgoing.stream, List.flatMap_map, hbegun]
  rfl

section AllOrNothing

variable {client : TcpClient} {c : Call}

lemma Call.AllOrNothing.written (hc : c.AllOrNothing) :
    Written tcpHeaderLength c.writes.header := by
  rcases hc.1 with hheader | hheader
  · rw [hheader]
    decide
  · rw [hheader]
    decide

lemma placed_of_not_ready (h : client.tcpState ≠ .connectionReady) (hc : c.AllOrNothing) :
    client.placed c = [] := by
  simp [placed, sendCall, client.sendMessage_eq c.message c.heap hc.written, h]

lemma placed_of_ready (h : client.tcpState = .connectionReady) (hc : c.AllOrNothing) :
    client.placed c =
      if c.writes.header < 0 then []
      else c.message.header ++ if c.writes.data < 0 then [] else c.message.data := by
  rw [placed, sendCall, client.sendMessage_eq c.message c.heap hc.written]
  obtain ⟨hheader, hdata⟩ := hc
  by_cases hneg : c.writes.header < 0
  · simp [hneg, not_le.mpr hneg]
  · have hfull : c.message.header.take c.writes.header.toNat = c.message.header := by
      have hall := hheader.resolve_left fun h => hneg (by rw [h]; decide)
      rw [hall, Int.toNat_natCast, ← c.message.length_header, List.take_length]
    have htaken : c.message.data.take c.writes.data.toNat
        = if c.writes.data < 0 then [] else c.message.data := by
      rcases hdata with hdata | hdata
      · rw [hdata]
        rfl
      · rw [hdata, Int.toNat_natCast, ← c.message.data_length, List.take_length,
          if_neg (Int.natCast_nonneg _).not_gt]
    simp only [h, not_lt.mp hneg, hneg, and_self, if_true, if_false, hfull, htaken]

lemma Call.frame_eq (c : Call) : c.frame = c.message.header ++ c.message.data :=
  c.message.frame_message

lemma placed_initial (hc : c.AllOrNothing) : client.placed c <+: c.frame := by
  by_cases hready : client.tcpState = .connectionReady
  · rw [placed_of_ready hready hc, c.frame_eq]
    split_ifs
    · exact List.nil_prefix
    · rw [List.append_nil]
      exact List.prefix_append _ _
    · exact List.prefix_rfl
  · rw [placed_of_not_ready hready hc]
    exact List.nil_prefix

lemma header_append_ne_nil (o : Outgoing) (data : Bytes) : o.header ++ data ≠ [] := by
  intro h
  have hlen := o.length_header
  rw [(List.append_eq_nil_iff.mp h).1] at hlen
  exact absurd hlen (by decide)

lemma placed_eq_nil_iff (h : client.tcpState = .connectionReady) (hc : c.AllOrNothing) :
    client.placed c = [] ↔ c.writes.header < 0 := by
  rw [placed_of_ready h hc]
  split_ifs with hneg
  · exact iff_of_true rfl hneg
  · exact iff_of_false (header_append_ne_nil _ _) hneg
  · exact iff_of_false (header_append_ne_nil _ _) hneg

lemma cut_iff (h : client.tcpState = .connectionReady) (hc : c.AllOrNothing) :
    Cut Call.frame client.placed c ↔ c.HalfSent := by
  have hempty : c.message.data = [] ↔ c.message.message.dataLength = 0 := by
    rw [← List.length_eq_zero_iff, c.message.data_length, ← UInt32.toNat_inj]
    rfl
  rw [Cut, Ne, placed_eq_nil_iff h hc, placed_of_ready h hc, c.frame_eq, Call.HalfSent, not_lt,
    Ne, Ne, ← hempty]
  by_cases hneg : c.writes.header < 0
  · simp [hneg, not_le.mpr hneg]
  · by_cases hfailed : c.writes.data < 0
    · simp [hneg, hfailed]
    · simp [hneg, hfailed]

/-- The stream stays framed exactly when no header is taken behind a message that was sent half:
the client does nothing towards that, as its state does not change. -/
theorem staysFramed_iff (client : TcpClient) {calls : List Call}
    (hcalls : ∀ c ∈ calls, c.AllOrNothing) :
    client.StaysFramed calls ↔
      (client.tcpState = .connectionReady →
        calls.Pairwise fun c d => c.HalfSent → d.writes.header < 0) := by
  rw [staysFramed_iff_framed, framed_iff fun c hc => placed_initial (hcalls c hc)]
  by_cases hready : client.tcpState = .connectionReady
  · rw [eq_true hready, true_implies]
    apply List.Pairwise.iff_of_mem
    intro c d hc hd
    rw [cut_iff hready (hcalls c hc), placed_eq_nil_iff hready (hcalls d hd)]
  · refine iff_of_true ?_ fun h => absurd h hready
    apply List.pairwise_of_forall_mem_list
    intro c hc d hd _
    exact placed_of_not_ready hready (hcalls d hd)

end AllOrNothing

/-! ### Two calls, the first of which fails behind its header -/

/-- A call that sends `length` bytes of data in two writes. -/
def cameraCall (length : UInt32) (writes : Writes) : Call :=
  ⟨Outgoing.camera length, fun _ => 0, writes⟩

/-- The theorem at two calls that fail at different places. -/
theorem staysFramed_last :
    connected.StaysFramed [cameraCall 1 ⟨-1, 1⟩, cameraCall 1 ⟨37, -1⟩] :=
  (staysFramed_iff connected (by decide)).mpr (by decide)

/-- Two messages, the data of the first one lost. -/
def halfSentCalls : List Call := [cameraCall 1 ⟨37, -1⟩, cameraCall 1 ⟨37, 1⟩]

lemma frame_cons (o : Outgoing) : ∃ tail, o.message.frame = 99 :: tail := by
  rw [o.frame_message]
  exact ⟨_, rfl⟩

/-- Frames and the beginning of one more start with the letter c. -/
lemma eq_of_frames {sent : List Outgoing} {o : Outgoing} {rest tail : Bytes} {b : UInt8}
    (h : b :: tail = Outgoing.stream sent ++ rest) (hrest : rest <+: o.message.frame) : b = 99 := by
  cases sent with
  | nil =>
    obtain ⟨tail', ho⟩ := frame_cons o
    rw [Outgoing.stream, List.flatMap_nil, List.nil_append] at h
    rw [ho, ← h, List.cons_prefix_cons] at hrest
    exact hrest.1
  | cons q sent =>
    obtain ⟨tail', hq⟩ := frame_cons q
    rw [Outgoing.stream, List.flatMap_cons, hq, List.cons_append, List.cons_append,
      List.cons.injEq] at h
    exact h.1

/-- Behind the header without data the stream is not made of frames any more, whatever messages
one takes them for. -/
theorem halfSentCalls_not_framed :
    (∀ c ∈ halfSentCalls, c.AllOrNothing) ∧
    ¬ connected.StaysFramed halfSentCalls ∧
    ¬ ∃ (sent : List Outgoing) (o : Outgoing) (rest : Bytes),
      connected.wire halfSentCalls = Outgoing.stream sent ++ rest ∧
        rest <+: o.message.frame := by
  let o₁ := Outgoing.camera 1
  have hwire : connected.wire halfSentCalls
      = o₁.header ++ (o₁.header ++ [0]) := by decide +kernel
  -- whatever has the first header takes the first letter of the second one for its data
  have hlong {o : Outgoing} (h : o.header = o₁.header) : o.data.length = 1 :=
    Outgoing.length_data_of_header h
  have hsame (o : Outgoing) : o.header.length = o₁.header.length := by
    rw [o.length_header, o₁.length_header]
  have hframes : ¬ ∃ (sent : List Outgoing) (o : Outgoing) (rest : Bytes),
      connected.wire halfSentCalls = Outgoing.stream sent ++ rest ∧
        rest <+: o.message.frame := by
    rintro ⟨sent, o, rest, hstream, hrest⟩
    rw [hwire] at hstream
    cases sent with
    | nil =>
      rw [Outgoing.stream, List.flatMap_nil, List.nil_append] at hstream
      obtain ⟨more, hmore⟩ := hrest
      rw [← hstream, o.frame_message, Outgoing.frame, List.append_assoc] at hmore
      obtain ⟨hheader, hdata⟩ := List.append_inj hmore (hsame o).symm
      have hlen : (o₁.header ++ [0] ++ more).length = 1 := by rw [hdata, hlong hheader.symm]
      rw [List.append_assoc, List.length_append, o₁.length_header] at hlen
      exact absurd hlen (Nat.ne_of_gt (Nat.lt_add_right _ (by decide)))
    | cons q sent =>
      rw [Outgoing.stream, List.flatMap_cons, q.frame_message, Outgoing.frame, List.append_assoc,
        List.append_assoc] at hstream
      obtain ⟨hheader, hdata⟩ := List.append_inj hstream (hsame q).symm
      obtain ⟨c, hc⟩ := List.length_eq_one_iff.mp (hlong hheader.symm)
      rw [hc] at hdata
      have hnext : 111 = (99 : UInt8) := eq_of_frames (List.cons.inj hdata).2 hrest
      exact absurd hnext (by decide)
  refine ⟨by decide, fun hframed => ?_, hframes⟩
  obtain ⟨rest, hstream, hrest⟩ := hframed 2
  rcases hrest with rfl | ⟨⟨o, hrest, -⟩, -⟩
  · exact hframes ⟨_, o₁, _, hstream, List.nil_prefix⟩
  · exact hframes ⟨_, o, _, hstream, hrest⟩

end TcpClient
end Seifenkiste
