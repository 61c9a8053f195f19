import Seifenkiste.Message.Frame
import Seifenkiste.Server.Protocol

/-!
# The end of the stream

At the end of the stream `read` returns 0. A header read takes that for a header that is too
short and leaves the program; a body read takes it for nothing and reads again. The server
leaves the loop unless the stream ends inside a body.
-/

namespace Seifenkiste

open Transition Machine Trace

namespace Server

section

variable (memory : Nat → Environment) (input : Bytes) (answers : Nat → Int)

/-- The server after the first `n` answers of the kernel. -/
def after (n : Nat) : Outcome := serve memory input (first answers n)

/-- The kernel gives answers that are possible, and 0 only at the end of the stream. -/
def KernelAnswers : Prop :=
  ∀ n asked, (after memory input answers n).stop = .blocked asked →
    Granted asked (after memory input answers n).input.length (answers n) ∧
      (answers n = 0 → (after memory input answers n).input = [])

/-- The server leaves the loop after finitely many reads. -/
def Leaves : Prop := ∃ n, ∀ asked, (after memory input answers n).stop ≠ .blocked asked

/-- The server starts to read a body that is longer than what is still to come. -/
def Starves (n : Nat) : Prop :=
  ∃ message, (after memory input answers n).trace.getLast? = some (.constructed message) ∧
    (after memory input answers n).stop = .blocked message.getDataLength.toNat ∧
    (after memory input answers n).input.length < message.getDataLength.toNat

/-- The state of the machine after the first `n` answers. -/
def stateAt (n : Nat) : State := (machine memory).state (start input) (first answers n)

variable {memory input answers}

lemma stop_after (n : Nat) :
    (after memory input answers n).stop = (stateAt memory input answers n).phase.stop := by
  rw [after, serve_eq, stateAt]

lemma input_after (n : Nat) :
    (after memory input answers n).input = (stateAt memory input answers n).input := by
  rw [after, serve_eq, stateAt]

lemma stateAt_succ (n : Nat) :
    stateAt memory input answers (n + 1)
      = (step memory (stateAt memory input answers n) (answers n)).1 :=
  (machine memory).state_first_succ _ _ _

/-! ### Phases of a running server -/

/-- A server that has been refused nothing is stopped only for good. -/
def Phase.Running : Phase → Prop
  | stopped stop => ∀ asked, stop ≠ .blocked asked
  | _            => True

lemma exit_ne_blocked (message : String) (asked : Nat) : Stop.exit message ≠ .blocked asked := by
  intro h
  cases h

lemma running_enter (t : Turn) : (enter t).Running := by
  unfold enter
  split_ifs
  · intro asked h
    cases h
  · exact exit_ne_blocked _
  · trivial

lemma running_leave (env : Environment) (t : Turn) : (leave env t).Running := by
  unfold leave
  split_ifs
  · intro asked h
    cases h
  · trivial

lemma running_headerRead (env : Environment) (turns : Nat) (result : Int) (received rest : Bytes) :
    (headerRead env turns result received rest).1.phase.Running := by
  unfold headerRead
  split_ifs
  · exact exit_ne_blocked _
  · exact exit_ne_blocked _
  · exact running_enter _

lemma running_dataRead (env : Environment) (t : Turn) (turns : Nat) (result : Int)
    (received rest : Bytes) : (dataRead env t turns result received rest).1.phase.Running := by
  unfold dataRead
  split_ifs
  · exact exit_ne_blocked _
  · trivial
  · exact running_leave _ _

lemma running_stateAt (hkernel : KernelAnswers memory input answers) (n : Nat) :
    (stateAt memory input answers n).phase.Running := by
  induction n with
  | zero => trivial
  | succ n ih =>
    have hanswer := fun asked hstop => (hkernel n asked ((stop_after n).trans hstop)).1
    rw [input_after] at hanswer
    rw [stateAt_succ]
    generalize stateAt memory input answers n = s at ih hanswer
    obtain ⟨phase, rest, turns⟩ := s
    cases phase with
    | stopped stop => exact ih
    | idle =>
      rw [step_idle (hanswer tcpHeaderLength rfl)]
      exact running_headerRead _ _ _ _ _
    | receiving t =>
      rw [step_receiving (hanswer t.length rfl)]
      exact running_dataRead _ _ _ _ _ _

/-! ### Bodies that the stream does not complete -/

/-- The server is in a body of which not enough is still to come. -/
def Starving (s : State) : Prop :=
  ∃ t, s.phase = .receiving t ∧ t.data.length + s.input.length < t.length

/-- Reading what is there does not help a starving server. -/
lemma starving_step {s : State} {result : Int} (h : Starving s) (hresult : 0 ≤ result)
    (hgranted : ∀ t, s.phase = .receiving t → Granted t.length s.input.length result) :
    Starving (step memory s result).1 := by
  obtain ⟨phase, rest, turns⟩ := s
  obtain ⟨t, rfl, hlt⟩ := h
  have hneg : ¬ result < 0 := not_lt.mpr hresult
  have htotal : (t.receive (rest.take result.toNat)).data.length
      + (rest.drop result.toNat).length < t.length := by
    rw [Turn.data_receive, List.length_append, Nat.add_assoc, ← List.length_append,
      List.take_append_drop]
    exact hlt
  have hmore := (Nat.le_add_right _ _).trans_lt htotal
  rw [step_receiving (hgranted t rfl), dataRead_of_lt hneg hmore]
  exact ⟨_, rfl, htotal⟩

/-- When the message was built last, the body of its turn is still empty. -/
lemma starving_of_starves {n : Nat} (hkernel : KernelAnswers memory input answers)
    (h : Starves memory input answers n) : Starving (stateAt memory input answers n) := by
  obtain ⟨message, hlast, hstop, hlt⟩ := h
  have hrunning := running_stateAt hkernel n
  obtain ⟨⟨ts, stage⟩, hrun, hfollows⟩ := machine_follows memory input (first answers n)
  obtain ⟨hevents, -⟩ := run_spec hrun
  rw [stop_after] at hstop
  rw [input_after] at hlt
  rw [after, serve_eq, ← hevents] at hlast
  rw [← stateAt] at hfollows
  generalize stateAt memory input answers n = s at *
  obtain ⟨phase, rest, turns⟩ := s
  cases phase with
  | stopped stop => exact absurd hstop (hrunning _)
  | idle =>
    obtain rfl : stage = .idle := hfollows.stage_of_idle
    exfalso
    rcases List.eq_nil_or_concat' ts with rfl | ⟨us, t, rfl⟩
    · exact absurd hlast (by simp [Ledger.events, Stage.events])
    · simp [Ledger.events, Stage.events, Turn.events, Turn.closing] at hlast
  | receiving t =>
    obtain ⟨rfl, -, -⟩ := hfollows.stage_of_receiving
    obtain ⟨header, message', chunks⟩ := t
    rcases List.eq_nil_or_concat' chunks with rfl | ⟨chunks, chunk, rfl⟩
    · have hmessage : message' = message := by
        simpa [Ledger.events, Stage.events, Turn.opening, Turn.reads] using hlast
      refine ⟨_, rfl, ?_⟩
      rw [Turn.length, hmessage, Turn.data, List.flatten_nil, List.length_nil, Nat.zero_add]
      exact hlt
    · simp only [Ledger.events, Stage.events, Turn.reads, List.map_append, List.map_cons,
        List.map_nil, ← List.append_assoc, List.getLast?_concat] at hlast
      exact absurd hlast (by simp)

lemma stateAt_of_stopped {n : Nat} {stop : Stop}
    (h : (stateAt memory input answers n).phase = .stopped stop) (k : Nat) :
    stateAt memory input answers (n + k) = stateAt memory input answers n := by
  induction k with
  | zero => rfl
  | succ k ih => rw [← Nat.add_assoc, stateAt_succ, ih, step_stopped h]

/-- Without errors from the kernel a starving server reads for ever. -/
lemma blocked_of_starves {m : Nat} (hkernel : KernelAnswers memory input answers)
    (hanswers : ∀ n asked, (after memory input answers n).stop = .blocked asked → 0 ≤ answers n)
    (h : Starves memory input answers m) (n : Nat) :
    ∃ asked, (after memory input answers n).stop = .blocked asked := by
  have hlater : ∀ k, Starving (stateAt memory input answers (m + k)) := by
    intro k
    induction k with
    | zero => exact starving_of_starves hkernel h
    | succ k ih =>
      have hstop {t : Turn} (ht : (stateAt memory input answers (m + k)).phase = .receiving t) :
          (after memory input answers (m + k)).stop = .blocked t.length := by
        rw [stop_after, ht]
        rfl
      obtain ⟨t, ht, -⟩ := id ih
      rw [← Nat.add_assoc, stateAt_succ]
      apply starving_step ih (hanswers _ _ (hstop ht))
      intro t ht
      rw [← input_after]
      exact (hkernel _ _ (hstop ht)).1
  rcases Nat.le_total m n with hle | hle
  · obtain ⟨k, rfl⟩ := Nat.exists_eq_add_of_le hle
    obtain ⟨t, ht, -⟩ := hlater k
    exact ⟨t.length, by rw [stop_after, ht]; rfl⟩
  · obtain ⟨k, rfl⟩ := Nat.exists_eq_add_of_le hle
    rw [stop_after]
    cases hphase : (stateAt memory input answers n).phase with
    | idle => exact ⟨_, rfl⟩
    | receiving t => exact ⟨_, rfl⟩
    | stopped stop =>
      obtain ⟨t, ht, -⟩ := hlater 0
      rw [Nat.add_zero, stateAt_of_stopped hphase, hphase] at ht
      cases ht

/-! ### Bodies that the stream completes -/

/-- A body that the server is in will be complete. -/
def Sated (s : State) : Prop :=
  ∀ t, s.phase = .receiving t → t.length ≤ t.data.length + s.input.length

lemma sated_dataRead {env : Environment} {t : Turn} {turns : Nat} {result : Int}
    {received rest : Bytes} (h : t.length ≤ t.data.length + (received ++ rest).length) :
    Sated (dataRead env t turns result received rest).1 := by
  unfold dataRead
  split_ifs with hneg hmore
  · intro t' ht'
    cases ht'
  · rintro t' ⟨⟩
    rw [Turn.data_receive, Turn.length_receive, List.length_append, Nat.add_assoc,
      ← List.length_append]
    exact h
  · intro t' ht'
    simp only [leave] at ht'
    split_ifs at ht'

lemma eq_of_enter {t t' : Turn} (h : enter t = .receiving t') : t = t' := by
  unfold enter at h
  split_ifs at h
  exact Phase.receiving.inj h

lemma phase_headerRead {env : Environment} {turns : Nat} {result : Int} {received rest : Bytes}
    {t : Turn} (h : (headerRead env turns result received rest).1.phase = .receiving t) :
    t.data = [] ∧ (headerRead env turns result received rest).1.input = rest ∧
      (headerRead env turns result received rest).2
        = [.readHeader result received, .constructed t.message] := by
  by_cases hneg : result < 0
  · rw [headerRead_of_neg hneg] at h
    cases h
  by_cases hfull : result = tcpHeaderLength
  · rw [hfull, headerRead_full rfl] at h ⊢
    obtain rfl := eq_of_enter h
    exact ⟨rfl, rfl, rfl⟩
  · rw [headerRead_of_ne hneg hfull] at h
    cases h

lemma trace_after_succ (n : Nat) :
    (after memory input answers (n + 1)).trace = (after memory input answers n).trace
      ++ (step memory (stateAt memory input answers n) (answers n)).2 := by
  simp only [after, serve_eq, stateAt]
  exact (machine memory).output_first_succ _ _ _

/-- A body that is not longer than the rest of the stream when it is begun stays so. -/
lemma sated_stateAt (hkernel : KernelAnswers memory input answers)
    (h : ∀ n, ¬ Starves memory input answers n) (n : Nat) :
    Sated (stateAt memory input answers n) := by
  induction n with
  | zero =>
    intro t ht
    cases ht
  | succ n ih =>
    have hanswer := fun asked hstop => (hkernel n asked ((stop_after n).trans hstop)).1
    have hstop : (after memory input answers (n + 1)).stop = _ := stop_after (n + 1)
    have hinput : (after memory input answers (n + 1)).input = _ := input_after (n + 1)
    have htrace : (after memory input answers (n + 1)).trace = _ := trace_after_succ n
    rw [input_after] at hanswer
    rw [stateAt_succ] at hstop hinput ⊢
    generalize stateAt memory input answers n = s at *
    obtain ⟨phase, rest, turns⟩ := s
    cases phase with
    | stopped stop => exact ih
    | receiving t =>
      rw [step_receiving (hanswer t.length rfl)]
      apply sated_dataRead
      rw [List.take_append_drop]
      exact ih t rfl
    | idle =>
      intro t ht
      rw [step_idle (hanswer tcpHeaderLength rfl)] at ht hstop hinput htrace ⊢
      obtain ⟨hdata, hrest, hevents⟩ := phase_headerRead ht
      rw [ht] at hstop
      rw [hevents] at htrace
      by_contra hshort
      rw [hdata, List.length_nil, Nat.zero_add, not_le, ← hinput] at hshort
      exact h (n + 1) ⟨t.message, by rw [htrace]; simp, hstop, hshort⟩

/-- A read that is answered is that of a header or one of a body. -/
lemma step_of_granted {s : State} {asked : Nat} {result : Int} (hrunning : s.phase.Running)
    (hstop : s.phase.stop = .blocked asked) (hgranted : Granted asked s.input.length result) :
    step memory s result = headerRead (memory s.turns) s.turns result
        (s.input.take result.toNat) (s.input.drop result.toNat) ∨
      ∃ t, step memory s result = dataRead (memory s.turns) t s.turns result
        (s.input.take result.toNat) (s.input.drop result.toNat) := by
  obtain ⟨phase, rest, turns⟩ := s
  cases phase with
  | stopped stop => exact absurd hstop (hrunning asked)
  | idle =>
    obtain rfl : tcpHeaderLength = asked := Stop.blocked.inj hstop
    exact Or.inl (step_idle hgranted)
  | receiving t =>
    obtain rfl : t.length = asked := Stop.blocked.inj hstop
    exact Or.inr ⟨t, step_receiving hgranted⟩

/-- It takes its bytes from the stream. -/
lemma input_step {s : State} {asked : Nat} {result : Int} (hrunning : s.phase.Running)
    (hstop : s.phase.stop = .blocked asked) (hgranted : Granted asked s.input.length result) :
    (step memory s result).1.input = s.input.drop result.toNat := by
  rcases step_of_granted hrunning hstop hgranted with hstep | ⟨t, hstep⟩
  · rw [hstep, headerRead]
    split_ifs <;> rfl
  · rw [hstep, dataRead]
    split_ifs <;> rfl

/-- As long as the server waits, it reads the stream to its end. -/
lemma exists_input_eq_nil (hkernel : KernelAnswers memory input answers)
    (hblocked : ∀ n, ∃ asked, (after memory input answers n).stop = .blocked asked)
    (hanswers : ∀ n, 0 ≤ answers n) : ∃ n, (stateAt memory input answers n).input = [] := by
  have hzero : ∃ n, (stateAt memory input answers n).input.length = 0 := by
    refine (machine memory).exists_measure_eq_zero (fun s => s.input.length) ?_
    intro n hne
    change (stateAt memory input answers n).input.length ≠ 0 at hne
    obtain ⟨asked, hstop⟩ := hblocked n
    obtain ⟨hgranted, hend⟩ := hkernel n asked hstop
    rw [input_after] at hgranted hend
    rw [stop_after] at hstop
    have hpos : answers n ≠ 0 := fun h => hne (by rw [hend h, List.length_nil])
    have hnonneg := hanswers n
    have hinput : (stateAt memory input answers (n + 1)).input
        = (stateAt memory input answers n).input.drop (answers n).toNat := by
      rw [stateAt_succ]
      exact input_step (running_stateAt hkernel n) hstop hgranted
    show (stateAt memory input answers (n + 1)).input.length
      < (stateAt memory input answers n).input.length
    have hle : answers n ≤ (stateAt memory input answers n).input.length := hgranted.2.2.1
    rw [hinput, List.length_drop]
    omega
  obtain ⟨n, hn⟩ := hzero
  exact ⟨n, List.length_eq_zero_iff.mp hn⟩

/-- A failed read leaves the program. -/
lemma leaves_of_neg {n asked : Nat} (hkernel : KernelAnswers memory input answers)
    (hstop : (after memory input answers n).stop = .blocked asked) (hneg : answers n < 0) :
    Leaves memory input answers := by
  refine ⟨n + 1, ?_⟩
  intro asked'
  have hgranted := (hkernel n asked hstop).1
  have hrunning := running_stateAt hkernel n
  rw [input_after] at hgranted
  rw [stop_after] at hstop ⊢
  rw [stateAt_succ]
  rcases step_of_granted hrunning hstop hgranted with hstep | ⟨t, hstep⟩
  · rw [hstep, headerRead_of_neg hneg]
    exact exit_ne_blocked _ _
  · rw [hstep, dataRead_of_neg hneg]
    exact exit_ne_blocked _ _

/-- Inside a body the server has not got all of it. -/
lemma length_data_lt {n : Nat} {t : Turn}
    (h : (stateAt memory input answers n).phase = .receiving t) : t.data.length < t.length := by
  obtain ⟨q, -, hfollows⟩ := machine_follows memory input (first answers n)
  rw [← stateAt] at hfollows
  generalize stateAt memory input answers n = s at *
  obtain ⟨phase, rest, turns⟩ := s
  obtain rfl : phase = .receiving t := h
  exact hfollows.stage_of_receiving.2.2

/-- At the end of the stream a server that is not inside a body leaves. -/
lemma leaves_of_input_eq_nil {n : Nat} (hkernel : KernelAnswers memory input answers)
    (hsated : Sated (stateAt memory input answers n))
    (hinput : (stateAt memory input answers n).input = []) : Leaves memory input answers := by
  cases hphase : (stateAt memory input answers n).phase with
  | stopped stop =>
    refine ⟨n, ?_⟩
    intro asked
    have hrunning := running_stateAt hkernel n
    rw [hphase] at hrunning
    rw [stop_after, hphase]
    exact hrunning asked
  | receiving t =>
    have henough := hsated t hphase
    rw [hinput, List.length_nil, Nat.add_zero] at henough
    exact absurd (length_data_lt hphase) henough.not_gt
  | idle =>
    have hstop : (after memory input answers n).stop = .blocked tcpHeaderLength := by
      rw [stop_after, hphase]
      rfl
    by_cases hneg : answers n < 0
    · exact leaves_of_neg hkernel hstop hneg
    · refine ⟨n + 1, ?_⟩
      intro asked
      have hgranted := (hkernel n _ hstop).1
      rw [input_after] at hgranted
      have hshort : answers n ≠ tcpHeaderLength := by
        intro hfull
        have havailable := hgranted.2.2.1
        rw [hfull, hinput] at havailable
        exact absurd havailable (by decide)
      rw [stop_after, stateAt_succ]
      generalize stateAt memory input answers n = s at *
      obtain ⟨phase, rest, turns⟩ := s
      obtain rfl : phase = .idle := hphase
      rw [step_idle hgranted, headerRead_of_ne hneg hshort]
      exact exit_ne_blocked _ _

/-- The server leaves the loop exactly when a read fails, or no body is longer than what is still
to come when the server starts to read it. -/
theorem leaves_iff (hkernel : KernelAnswers memory input answers) :
    Leaves memory input answers ↔
      (∃ n asked, (after memory input answers n).stop = .blocked asked ∧ answers n < 0) ∨
        ∀ n, ¬ Starves memory input answers n := by
  constructor
  · rintro ⟨n, hn⟩
    by_contra hnone
    simp only [not_or, not_exists, not_and, not_forall, not_not, not_lt] at hnone
    obtain ⟨hanswers, m, hstarves⟩ := hnone
    obtain ⟨asked, hstop⟩ := blocked_of_starves hkernel hanswers hstarves n
    exact hn asked hstop
  · rintro (⟨n, asked, hstop, hneg⟩ | hnever)
    · exact leaves_of_neg hkernel hstop hneg
    · by_contra hwaits
      have hblocked : ∀ n, ∃ asked, (after memory input answers n).stop = .blocked asked := by
        intro n
        by_contra hn
        exact hwaits ⟨n, fun asked hasked => hn ⟨asked, hasked⟩⟩
      have hanswers : ∀ n, 0 ≤ answers n := by
        intro n
        obtain ⟨asked, hstop⟩ := hblocked n
        by_contra hneg
        exact hwaits (leaves_of_neg hkernel hstop (not_le.mp hneg))
      obtain ⟨n, hn⟩ := exists_input_eq_nil hkernel hblocked hanswers
      exact hwaits (leaves_of_input_eq_nil hkernel (sated_stateAt hkernel hnever n) hn)

end

/-! ### A stream that ends after a frame, and one that ends inside a body -/

/-- Frames of zeros whose body is announced to have `length` bytes, cut off behind `sent` bytes of
the body. -/
def cutFrame (length : UInt32) (sent : Nat) : Bytes :=
  (Outgoing.camera length).frame.take (tcpHeaderLength + sent)

/-- The answers to the reads of a header and of one byte, then 0. -/
def cutAnswers : Nat → Int
  | 0 => 37
  | 1 => 1
  | _ => 0

/-- What the kernel has to answer in a run that waits for a known number of bytes. -/
lemma answer_of_stop {memory : Nat → Environment} {input : Bytes} {answers : Nat → Int} {n : Nat}
    (asked : Nat) (hstop : (after memory input answers n).stop = .blocked asked)
    (hgranted : Granted asked (after memory input answers n).input.length (answers n))
    (hend : answers n = 0 → (after memory input answers n).input = []) (asked' : Nat)
    (hstop' : (after memory input answers n).stop = .blocked asked') :
    Granted asked' (after memory input answers n).input.length (answers n) ∧
      (answers n = 0 → (after memory input answers n).input = []) := by
  obtain rfl := Stop.blocked.inj (hstop.symm.trans hstop')
  exact ⟨hgranted, hend⟩

/-- The theorem at a stream that ends behind a frame. -/
theorem leaves_or_never_starves :
    (∃ n asked, (after (fun _ => .cleared) (cutFrame 1 1) cutAnswers n).stop = .blocked asked ∧
        cutAnswers n < 0) ∨
      ∀ n, ¬ Starves (fun _ => .cleared) (cutFrame 1 1) cutAnswers n := by
  have hexit : (stateAt (fun _ => .cleared) (cutFrame 1 1) cutAnswers 3).phase
      = .stopped (.exit "ERROR message header too short") := by rfl
  have hkernel : KernelAnswers (fun _ => .cleared) (cutFrame 1 1) cutAnswers := by
    intro n
    match n with
    | 0 => exact answer_of_stop 37 (by decide +kernel) (by decide +kernel) (by decide +kernel)
    | 1 => exact answer_of_stop 1 (by decide +kernel) (by decide +kernel) (by decide +kernel)
    | 2 => exact answer_of_stop 37 (by decide +kernel) (by decide +kernel) (by decide +kernel)
    | n + 3 =>
      intro asked hstop
      rw [stop_after, Nat.add_comm, stateAt_of_stopped hexit, hexit] at hstop
      exact absurd hstop (exit_ne_blocked _ _)
  refine (leaves_iff hkernel).mp ⟨3, ?_⟩
  intro asked
  rw [stop_after, hexit]
  exact exit_ne_blocked _ _

/-- Inside a body the end of the stream leaves everything as it is. -/
lemma stateAt_cutFrame (n : Nat) :
    ∃ t : Turn,
      (stateAt (fun _ => .cleared) (cutFrame 2 1) cutAnswers (n + 2)).phase = .receiving t ∧
      (stateAt (fun _ => .cleared) (cutFrame 2 1) cutAnswers (n + 2)).input = [] ∧
      t.length = 2 ∧ t.data.length = 1 := by
  induction n with
  | zero => exact ⟨_, rfl, rfl, by decide +kernel, by decide +kernel⟩
  | succ n ih =>
    obtain ⟨t, hphase, hinput, hlength, hdata⟩ := ih
    have hanswer : cutAnswers (n + 2) = 0 := rfl
    rw [Nat.add_right_comm, stateAt_succ, hanswer]
    generalize stateAt (fun _ => .cleared) (cutFrame 2 1) cutAnswers (n + 2) = s at *
    obtain ⟨phase, rest, turns⟩ := s
    obtain rfl : phase = .receiving t := hphase
    obtain rfl : rest = [] := hinput
    have hgranted : Granted t.length ([] : Bytes).length 0 := by
      rw [hlength]
      decide
    have hmore : (t.receive []).data.length < t.length := by
      rw [Turn.data_receive, List.append_nil, hlength, hdata]
      exact Nat.one_lt_two
    rw [step_receiving hgranted, Int.toNat_zero, List.take_zero, List.drop_zero,
      dataRead_of_lt (lt_irrefl 0) hmore]
    refine ⟨_, rfl, rfl, hlength, ?_⟩
    rw [Turn.data_receive, List.append_nil, hdata]

/-- The server spins on a body that is cut off. -/
theorem cutFrame_not_leaves :
    KernelAnswers (fun _ => .cleared) (cutFrame 2 1) cutAnswers ∧
      ¬ Leaves (fun _ => .cleared) (cutFrame 2 1) cutAnswers := by
  have hlater (n : Nat) : (after (fun _ => .cleared) (cutFrame 2 1) cutAnswers (n + 2)).stop
      = .blocked 2 ∧ (after (fun _ => .cleared) (cutFrame 2 1) cutAnswers (n + 2)).input = [] := by
    obtain ⟨t, hphase, hinput, hlength, -⟩ := stateAt_cutFrame n
    rw [stop_after, input_after, hphase, hinput, ← hlength]
    exact ⟨rfl, rfl⟩
  constructor
  · intro n
    match n with
    | 0 => exact answer_of_stop 37 (by decide +kernel) (by decide +kernel) (by decide +kernel)
    | 1 => exact answer_of_stop 2 (by decide +kernel) (by decide +kernel) (by decide +kernel)
    | n + 2 =>
      obtain ⟨hstop, hinput⟩ := hlater n
      refine answer_of_stop 2 hstop ?_ fun _ => hinput
      rw [hinput]
      exact (by decide : Granted 2 0 0)
  · rintro ⟨n, hn⟩
    match n with
    | 0 => exact hn 37 (by decide +kernel)
    | 1 => exact hn 2 (by decide +kernel)
    | n + 2 => exact hn 2 (hlater n).1

end Server
end Seifenkiste
