import Seifenkiste.Server.Trace

/-!
# The body read

`read_TCP_data` on its own, over a whole schedule of results: when a call stays within the body,
and what it has received when it returns. Every iteration of its loop asks for the length of the
whole body, however much of it is there.
-/

namespace Seifenkiste

open Memory

namespace Server

/-! ### Whole calls -/

/-- The world in which a call ended. -/
def worldAfter {α : Type} : EStateM.Result Stop World α → World
  | .ok _ w    => w
  | .error _ w => w

/-- The number of bytes that the read asks for in which a call waits, 0 when it waits in none. -/
def waiting {α : Type} : EStateM.Result Stop World α → Nat
  | .error (.blocked asked) _ => asked
  | _                         => 0

/-- The bytes that a call has taken from the connection, and those it asks for. -/
def claimed {α : Type} (result : EStateM.Result Stop World α) : Nat :=
  (Trace.consumed (worldAfter result).trace).length + waiting result

/-- At every iteration the bytes read so far and those asked for next are no more than the body
has. An iteration is where the loop waits behind some of the results. -/
def WithinBody (block : Bytes) (dataLength : UInt32) (input : Bytes) (schedule : List Int) :
    Prop :=
  ∀ n, claimed (readTCPData block dataLength ⟨input, schedule.take n, []⟩) ≤ dataLength.toNat

lemma claimed_map {α β : Type} (f : α → β) (x : ServerM α) (w : World) :
    claimed (EStateM.map f x w) = claimed (x w) := by
  simp only [EStateM.map]
  cases x w with
  | ok a w'    => rfl
  | error e w' => cases e <;> rfl

lemma readTCPData_eq {dataLength : UInt32} (hpos : 0 < dataLength.toNat) (block : Bytes)
    (w : World) : readTCPData block dataLength w
      = EStateM.map (fun buffer => ((0 : Int), buffer))
        (readTCPDataLoop dataLength.toNat (w.schedule.length + 1) block 0) w := by
  have hzero : ¬ dataLength.toNat < 1 := by omega
  simp only [readTCPData, hzero, if_false]
  rfl

section Bounds

variable {length fuel : Nat} {buffer input : Bytes} {schedule : List Int} {trace : List Event}

lemma consumed_readData (trace : List Event) (result : Int) (received : Bytes) :
    Trace.consumed (trace ++ [.readData result received]) = Trace.consumed trace ++ received := by
  simp [Trace.consumed, Event.received]

lemma granted_zero (asked available : Nat) : Granted asked available 0 :=
  ⟨by decide, by simp, by simp, by decide⟩

/-- A body that comes in one piece is read within its bounds. -/
lemma claimed_of_whole (hpos : 0 < length) (hfuel : schedule.length < fuel)
    (htrace : Trace.consumed trace = [])
    (h : ∀ result, schedule.find? (· ≠ 0) = some result → 0 < result →
      Granted length input.length result → result = length) :
    claimed (readTCPDataLoop length fuel buffer 0 ⟨input, schedule, trace⟩) ≤ length := by
  induction schedule generalizing fuel buffer trace with
  | nil =>
    obtain ⟨fuel, rfl⟩ := Nat.exists_eq_add_one_of_ne_zero (Nat.ne_zero_of_lt hfuel)
    rw [dataLoop_blocked hpos (World.waits_of_nil rfl)]
    simp [claimed, worldAfter, waiting, htrace]
  | cons result rest ih =>
    obtain ⟨fuel, rfl⟩ := Nat.exists_eq_add_one_of_ne_zero (Nat.ne_zero_of_lt hfuel)
    have hrest : rest.length < fuel := by simpa using hfuel
    by_cases hgranted : Granted length input.length result
    · rw [dataLoop_read hpos rfl hgranted]
      by_cases hneg : result < 0
      · have hnone : result.toNat = 0 := Int.toNat_of_nonpos hneg.le
        rw [if_pos hneg, error_apply]
        simp [claimed, worldAfter, waiting, World.received, consumed_readData, htrace, hnone]
      by_cases hzero : result = 0
      · subst hzero
        simp only [lt_irrefl, if_false, Int.toNat_zero, List.take_zero, Nat.add_zero]
        apply ih hrest
        · simpa [World.received, consumed_readData] using htrace
        · simpa using h
      · have hpositive : 0 < result := by omega
        have hwhole : result.toNat = length := by
          rw [h result (by simp [hzero]) hpositive hgranted, Int.toNat_natCast]
        obtain ⟨fuel, rfl⟩ := Nat.exists_eq_add_one_of_ne_zero (Nat.ne_zero_of_lt hrest)
        rw [if_neg hneg, dataLoop_done (by omega)]
        simp only [claimed, worldAfter, waiting, World.received, consumed_readData, htrace,
          List.nil_append, hwhole, Nat.add_zero]
        exact List.length_take_le _ _
    · rw [dataLoop_blocked hpos ((World.waits_of_cons rfl).mpr hgranted)]
      simp [claimed, worldAfter, waiting, htrace]

/-- A first piece that is not the whole body leaves the loop asking for more than is left. -/
lemma claimed_of_part {result : Int} (hpos : 0 < length)
    (hfirst : schedule.find? (· ≠ 0) = some result) (hpositive : 0 < result)
    (hgranted : Granted length input.length result) (hpart : result < length) :
    ∃ n, ∀ fuel, (schedule.take n).length < fuel → ∀ buffer trace,
      claimed (readTCPDataLoop length fuel buffer 0 ⟨input, schedule.take n, trace⟩)
        = (Trace.consumed trace).length + result.toNat + length := by
  induction schedule with
  | nil => simp at hfirst
  | cons first rest ih =>
    by_cases hzero : first = 0
    · subst hzero
      obtain ⟨n, hn⟩ := ih (by simpa using hfirst)
      refine ⟨n + 1, ?_⟩
      intro fuel hfuel buffer trace
      obtain ⟨fuel, rfl⟩ := Nat.exists_eq_add_one_of_ne_zero (Nat.ne_zero_of_lt hfuel)
      have hrest : (rest.take n).length < fuel := by simpa using hfuel
      rw [List.take_succ_cons, dataLoop_read hpos rfl (granted_zero _ _), if_neg (lt_irrefl 0),
        World.received]
      simp only [Int.toNat_zero, List.take_zero, List.drop_zero, Nat.add_zero]
      rw [hn fuel hrest, consumed_readData, List.append_nil]
    · obtain rfl : first = result := by simpa [hzero] using hfirst
      refine ⟨1, ?_⟩
      intro fuel hfuel buffer trace
      obtain ⟨fuel, rfl⟩ : ∃ k, fuel = k + 2 := ⟨fuel - 2, by simp at hfuel; omega⟩
      rw [List.take_succ_cons, List.take_zero, dataLoop_read hpos rfl hgranted,
        if_neg hpositive.not_gt, dataLoop_blocked (by omega) (World.waits_of_nil rfl)]
      simp only [claimed, worldAfter, waiting, World.received, consumed_readData,
        List.length_append, length_take_of_granted hgranted]

/-- The body read stays within the body exactly when the first result that is not zero is the
whole length, if it is a number of bytes at all. -/
theorem withinBody_iff {dataLength : UInt32} (hpos : 0 < dataLength.toNat) (block : Bytes) :
    WithinBody block dataLength input schedule ↔
      ∀ result, schedule.find? (· ≠ 0) = some result → 0 < result →
        Granted dataLength.toNat input.length result → result = dataLength.toNat := by
  constructor
  · intro h result hfirst hpositive hgranted
    by_contra hne
    have hpart : result < dataLength.toNat := lt_of_le_of_ne hgranted.2.1 hne
    obtain ⟨n, hn⟩ := claimed_of_part hpos hfirst hpositive hgranted hpart
    have hclaimed := h n
    rw [readTCPData_eq hpos, claimed_map, hn _ (Nat.lt_succ_self _)] at hclaimed
    omega
  · intro h n
    rw [readTCPData_eq hpos, claimed_map]
    apply claimed_of_whole hpos (Nat.lt_succ_self _) rfl
    intro result hfirst
    apply h
    rw [← List.take_append_drop n schedule, List.find?_append, hfirst, Option.some_or]

/-- The theorem at a body that arrives late, but in one piece. -/
theorem withinBody_whole : WithinBody [0, 0] 2 [1, 2, 3] [0, 2] :=
  (withinBody_iff (by decide) [0, 0]).mpr fun result hfirst _ _ =>
    (Option.some.inj hfirst).symm

/-- A body of two bytes that arrives in two pieces: the second read takes a byte too much. -/
theorem claimed_in_two_pieces :
    Granted 2 3 1 ∧ Granted 2 2 2 ∧ ¬ WithinBody [0, 0] 2 [1, 2, 3] [1, 2] := by
  refine ⟨by decide, by decide, ?_⟩
  intro h
  exact absurd (h 2) (by decide)

end Bounds

/-! ### Calls that return -/

/-- What a loop that returns has received: the bytes come from the front of the connection, they
lie behind the data that was there before, and only the last read runs past the body. -/
lemma dataLoop_ok {length fuel : Nat} {block data buffer : Bytes} {w w' : World}
    (hdata : data.length < 2 * length)
    (h : readTCPDataLoop length fuel (memcpy block 0 data) data.length w = .ok buffer w') :
    ∃ received results, w.input = received ++ w'.input ∧ w.schedule = results ++ w'.schedule ∧
      results.sum = (received.length : Int) ∧ buffer = memcpy block 0 (data ++ received) ∧
      length ≤ (data ++ received).length ∧ (data ++ received).length < 2 * length := by
  induction fuel generalizing data w with
  | zero => cases h
  | succ fuel ih =>
    by_cases hlt : data.length < length
    · rcases w.waits_or_granted length with hwaits | ⟨result, rest, hs, hgranted⟩
      · rw [dataLoop_blocked hlt hwaits] at h
        cases h
      rw [dataLoop_read hlt hs hgranted] at h
      split_ifs at h with hneg
      · cases h
      let chunk := w.input.take result.toNat
      have hchunk : chunk.length = result.toNat := length_take_of_granted hgranted
      have hasked : result.toNat ≤ length := Int.toNat_le.mpr hgranted.2.1
      have hcount : data.length + result.toNat = (data ++ chunk).length := by
        rw [List.length_append, hchunk]
      rw [memcpy_zero_memcpy rfl, hcount] at h
      have hbound : (data ++ chunk).length < 2 * length := by omega
      obtain ⟨received, results, hinput, hschedule, hsum, hbuffer, hlength⟩ := ih hbound h
      refine ⟨chunk ++ received, result :: results, ?_, ?_, ?_, ?_, ?_⟩
      · rw [List.append_assoc, ← hinput]
        exact (List.take_append_drop _ _).symm
      · rw [hs, List.cons_append, ← hschedule]
        rfl
      · rw [List.sum_cons, hsum, List.length_append, Nat.cast_add, hchunk,
          Int.toNat_of_nonneg (not_lt.mp hneg)]
      · rw [hbuffer, List.append_assoc]
      · rwa [← List.append_assoc]
    · rw [dataLoop_done (not_lt.mp hlt)] at h
      obtain ⟨rfl, rfl⟩ : memcpy block 0 data = buffer ∧ w = w' := by simpa using h
      refine ⟨[], [], rfl, rfl, rfl, ?_, ?_, ?_⟩
      · rw [List.append_nil]
      · rw [List.append_nil]
        exact not_lt.mp hlt
      · rwa [List.append_nil]

/-- A call that returns has the bytes it received at the beginning of the block. -/
lemma readTCPData_ok {block buffer : Bytes} {dataLength : UInt32} {result : Int} {w w' : World}
    (h : readTCPData block dataLength w = .ok (result, buffer) w') :
    ∃ received results, w.input = received ++ w'.input ∧ w.schedule = results ++ w'.schedule ∧
      results.sum = (received.length : Int) ∧ buffer = memcpy block 0 received ∧
      dataLength.toNat ≤ received.length ∧ received.length < 2 * dataLength.toNat := by
  have hpos : 0 < dataLength.toNat := by
    by_contra hzero
    have hlength : dataLength.toNat < 1 := by omega
    simp only [readTCPData, hlength, if_true] at h
    cases h
  have hnone : memcpy block 0 [] = block := by
    rw [memcpy_zero, List.nil_append]
    rfl
  rw [readTCPData_eq hpos, EStateM.map] at h
  cases hloop : readTCPDataLoop dataLength.toNat (w.schedule.length + 1) block 0 w with
  | error e w'' =>
    rw [hloop] at h
    cases h
  | ok buffer' w'' =>
    rw [hloop] at h
    cases h
    rw [← hnone] at hloop
    have hfilled := dataLoop_ok (Nat.mul_pos two_pos hpos) hloop
    simpa only [List.nil_append] using hfilled

/-- It has filled the block from the front of the connection. -/
lemma take_of_readTCPData_ok {block buffer : Bytes} {dataLength : UInt32} {result : Int}
    {w w' : World} (h : readTCPData block dataLength w = .ok (result, buffer) w') :
    buffer.take dataLength.toNat = w.input.take dataLength.toNat := by
  obtain ⟨received, -, hinput, -, -, hbuffer, hlength, -⟩ := readTCPData_ok h
  rw [hbuffer, hinput, memcpy_zero, List.take_append_of_le_length hlength,
    List.take_append_of_le_length hlength]

/-- Every iteration takes a result of the schedule, so the loop ends before its fuel does. -/
lemma dataLoop_ne_outOfFuel {length fuel count : Nat} {buffer : Bytes} {w : World}
    (hfuel : w.schedule.length < fuel) (w' : World) :
    readTCPDataLoop length fuel buffer count w ≠ .error .outOfFuel w' := by
  induction fuel generalizing buffer count w with
  | zero => exact absurd hfuel (Nat.not_lt_zero _)
  | succ fuel ih =>
    by_cases hlt : count < length
    · rcases w.waits_or_granted length with hwaits | ⟨result, rest, hs, hgranted⟩
      · rw [dataLoop_blocked hlt hwaits]
        simp
      rw [dataLoop_read hlt hs hgranted]
      split_ifs
      · simp [error_apply]
      · apply ih
        have hrest : rest.length < w.schedule.length := by simp [hs]
        exact hrest.trans_le (Nat.lt_succ_iff.mp hfuel)
    · rw [dataLoop_done (not_lt.mp hlt)]
      simp

/-- A call that does not return waits for the kernel or leaves the program. -/
theorem readTCPData_ne_outOfFuel (block : Bytes) (dataLength : UInt32) (w w' : World) :
    readTCPData block dataLength w ≠ .error .outOfFuel w' := by
  by_cases hpos : 0 < dataLength.toNat
  · intro h
    rw [readTCPData_eq hpos, EStateM.map] at h
    cases hloop : readTCPDataLoop dataLength.toNat (w.schedule.length + 1) block 0 w with
    | ok buffer w'' =>
      rw [hloop] at h
      cases h
    | error e w'' =>
      rw [hloop] at h
      cases h
      exact dataLoop_ne_outOfFuel (Nat.lt_succ_self _) _ hloop
  · have hlength : dataLength.toNat < 1 := by omega
    simp only [readTCPData, hlength, if_true]
    simp [error_apply]

/-- A call that returns 0 has taken bytes from the front of the connection, as many as the results
of its reads say: at least the data, and less than twice as many. They lie at the beginning of the
block in their order, and the block is as it was behind them. -/
theorem readTCPData_reassembles {block buffer : Bytes} {dataLength : UInt32} {w w' : World}
    (h : readTCPData block dataLength w = .ok (0, buffer) w') :
    buffer.take dataLength.toNat = w.input.take dataLength.toNat ∧
    ∃ received results, w.input = received ++ w'.input ∧ w.schedule = results ++ w'.schedule ∧
      buffer = received ++ block.drop received.length ∧ (received.length : Int) = results.sum ∧
      dataLength.toNat ≤ received.length ∧ received.length < 2 * dataLength.toNat := by
  refine ⟨take_of_readTCPData_ok h, ?_⟩
  obtain ⟨received, results, hinput, hschedule, hsum, hbuffer, hlength⟩ := readTCPData_ok h
  rw [memcpy_zero] at hbuffer
  exact ⟨received, results, hinput, hschedule, hbuffer, hsum.symm, hlength⟩

/-- The theorem at a body of three bytes that comes as one, none and three. -/
theorem reassembles_one_none_three :
    ∃ w', readTCPData [0, 0, 0] 3 ⟨[9, 8, 7, 6, 5], [1, 0, 3], []⟩ = .ok (0, [9, 8, 7, 6]) w' ∧
      ∃ received results, [9, 8, 7, 6, 5] = received ++ w'.input ∧
        [1, 0, 3] = results ++ w'.schedule ∧
        [9, 8, 7, 6] = received ++ ([0, 0, 0] : Bytes).drop received.length ∧
        (received.length : Int) = results.sum ∧ 3 ≤ received.length ∧ received.length < 2 * 3 := by
  have hread : readTCPData [0, 0, 0] 3 ⟨[9, 8, 7, 6, 5], [1, 0, 3], []⟩ = .ok (0, [9, 8, 7, 6])
      ⟨[5], [], [.readData 1 [9], .readData 0 [], .readData 3 [8, 7, 6]]⟩ := rfl
  exact ⟨_, hread, (readTCPData_reassembles hread).2⟩

end Server
end Seifenkiste
