import Mathlib.Data.List.Infix

/-!
# Streams of frames with gaps

Senders take turns to place a frame on a stream, and each of them places some initial part of
its frame: all of it, nothing, or less than all. `Framed` says that the stream stays a
concatenation of complete frames, except for a part at its end behind which nothing is placed.
-/

namespace Framing

variable {α β : Type*} [DecidableEq β] (frame placed : α → List β)

/-- The senders that place their whole frame. -/
def complete (as : List α) : List α := as.filter fun a => placed a = frame a

/-- At every point the stream consists of complete frames and at most the beginning of one more
frame, behind which nothing is placed any more. -/
def Framed (as : List α) : Prop :=
  ∀ n, ∃ rest,
    (as.take n).flatMap placed = (complete frame placed (as.take n)).flatMap frame ++ rest ∧
    (rest = [] ∨
      (∃ a, rest <+: frame a ∧ rest ≠ frame a) ∧
        ∀ m, n ≤ m → (as.take m).flatMap placed = (as.take n).flatMap placed)

/-- A sender that places a part of its frame, but not all of it. -/
def Cut (a : α) : Prop := placed a ≠ [] ∧ placed a ≠ frame a

variable {frame placed} {a : α} {as : List α}

/-- A sender that does not cut its frame places what is counted as complete. -/
lemma complete_cons_of_not_cut (h : ¬ Cut frame placed a) (as : List α) :
    (complete frame placed (a :: as)).flatMap frame
      = placed a ++ (complete frame placed as).flatMap frame := by
  by_cases heq : placed a = frame a
  · simp [complete, heq]
  · have hnil : placed a = [] := by
      by_contra hne
      exact h ⟨hne, heq⟩
    rw [hnil] at heq
    simp [complete, hnil, heq]

lemma complete_cons_of_cut (h : Cut frame placed a) (as : List α) :
    complete frame placed (a :: as) = complete frame placed as := by
  simp [complete, h.2]

lemma framed_nil : Framed frame placed [] := fun _ => ⟨[], by simp [complete], Or.inl rfl⟩

/-- A sender that places its whole frame or nothing does not matter. -/
lemma framed_cons_of_not_cut (h : ¬ Cut frame placed a) :
    Framed frame placed (a :: as) ↔ Framed frame placed as := by
  constructor
  · intro hframed n
    obtain ⟨rest, hstream, hrest⟩ := hframed (n + 1)
    rw [List.take_succ_cons, complete_cons_of_not_cut h, List.flatMap_cons,
      List.append_assoc] at hstream
    refine ⟨rest, List.append_cancel_left hstream, hrest.imp_right ?_⟩
    rintro ⟨hbegun, hfrozen⟩
    refine ⟨hbegun, ?_⟩
    intro m hm
    have hlater := hfrozen (m + 1) (Nat.succ_le_succ hm)
    rw [List.take_succ_cons, List.take_succ_cons, List.flatMap_cons, List.flatMap_cons] at hlater
    exact List.append_cancel_left hlater
  · intro hframed n
    cases n with
    | zero => exact ⟨[], by simp [complete], Or.inl rfl⟩
    | succ n =>
      obtain ⟨rest, hstream, hrest⟩ := hframed n
      refine ⟨rest, ?_, hrest.imp_right ?_⟩
      · rw [List.take_succ_cons, complete_cons_of_not_cut h, List.flatMap_cons, hstream,
          List.append_assoc]
      · rintro ⟨hbegun, hfrozen⟩
        refine ⟨hbegun, ?_⟩
        intro m hm
        obtain ⟨k, rfl⟩ := Nat.exists_eq_add_of_le' ((Nat.succ_le_succ (Nat.zero_le n)).trans hm)
        rw [List.take_succ_cons, List.take_succ_cons, List.flatMap_cons, List.flatMap_cons,
          hfrozen k (Nat.succ_le_succ_iff.mp hm)]

/-- Behind a cut frame the stream has to stay as it is. -/
lemma framed_cons_of_cut (h : Cut frame placed a) (hinitial : placed a <+: frame a) :
    Framed frame placed (a :: as) ↔ ∀ b ∈ as, placed b = [] := by
  constructor
  · intro hframed
    obtain ⟨rest, hstream, hrest⟩ := hframed 1
    rw [List.take_succ_cons, List.take_zero, complete_cons_of_cut h,
      List.flatMap_singleton] at hstream
    obtain rfl : placed a = rest := hstream
    obtain ⟨-, hfrozen⟩ := hrest.resolve_left h.1
    have hall := hfrozen (as.length + 1) (Nat.succ_le_succ (Nat.zero_le _))
    rw [List.take_succ_cons, List.take_succ_cons, List.take_length, List.take_zero,
      List.flatMap_cons, List.flatMap_singleton] at hall
    exact List.flatMap_eq_nil_iff.mp (List.append_right_eq_self.mp hall)
  · intro hnil
    have hquiet (n : Nat) : (as.take n).flatMap placed = [] :=
      List.flatMap_eq_nil_iff.mpr fun b hb => hnil b (List.mem_of_mem_take hb)
    have hcomplete (n : Nat) : (complete frame placed (as.take n)).flatMap frame = [] := by
      apply List.flatMap_eq_nil_iff.mpr
      intro b hb
      obtain ⟨hb, heq⟩ := List.mem_filter.mp hb
      rw [← of_decide_eq_true heq]
      exact hnil b (List.mem_of_mem_take hb)
    intro n
    cases n with
    | zero => exact ⟨[], by simp [complete], Or.inl rfl⟩
    | succ n =>
      refine ⟨placed a, ?_, Or.inr ⟨⟨a, hinitial, h.2⟩, fun m hm => ?_⟩⟩
      · rw [List.take_succ_cons, complete_cons_of_cut h, hcomplete, List.flatMap_cons, hquiet,
          List.append_nil, List.nil_append]
      · obtain ⟨k, rfl⟩ := Nat.exists_eq_add_of_le' ((Nat.succ_le_succ (Nat.zero_le n)).trans hm)
        rw [List.take_succ_cons, List.take_succ_cons, List.flatMap_cons, List.flatMap_cons, hquiet,
          hquiet]

/-- The stream stays framed exactly when nothing is placed behind a cut frame. -/
theorem framed_iff (hinitial : ∀ a ∈ as, placed a <+: frame a) :
    Framed frame placed as ↔ as.Pairwise fun a b => Cut frame placed a → placed b = [] := by
  induction as with
  | nil => exact iff_of_true framed_nil List.Pairwise.nil
  | cons a as ih =>
    obtain ⟨hhead, htail⟩ := List.forall_mem_cons.mp hinitial
    rw [List.pairwise_cons]
    by_cases hcut : Cut frame placed a
    · rw [framed_cons_of_cut hcut hhead]
      constructor
      · intro hnil
        refine ⟨fun b hb _ => hnil b hb, ?_⟩
        exact List.pairwise_of_forall_mem_list fun b hb c _ hbcut => absurd (hnil b hb) hbcut.1
      · rintro ⟨hbehind, -⟩ b hb
        exact hbehind b hb hcut
    · rw [framed_cons_of_not_cut hcut, ih htail]
      constructor
      · exact fun h => ⟨fun b _ hb => absurd hb hcut, h⟩
      · exact fun h => h.2

end Framing
