import Mathlib.Data.List.Infix

/-!
# Labelled runs and reactive machines

`Run Step s t s'`: the transition system `Step` leads from `s` to `s'` while emitting the
events `t`. `Machine`: a deterministic system that consumes one input at a time and answers it
with a list of events. A machine whose every step is a run of a transition system emits only
runs of it (`Machine.simulates`).
-/

namespace Transition

variable {σ ε ι κ : Type*}

inductive Run (Step : σ → ε → σ → Prop) : σ → List ε → σ → Prop
  | refl (s : σ) : Run Step s [] s
  | snoc {s s' s'' : σ} {t : List ε} {e : ε}
      (h : Run Step s t s') (he : Step s' e s'') : Run Step s (t ++ [e]) s''

namespace Run

variable {Step : σ → ε → σ → Prop} {s s' s'' : σ} {t u : List ε} {e : ε}

lemma single (h : Step s e s') : Run Step s [e] s' := (Run.refl s).snoc h

lemma trans (h : Run Step s t s') (h' : Run Step s' u s'') : Run Step s (t ++ u) s'' := by
  induction h' with
  | refl => simpa using h
  | snoc _ he ih =>
    rw [← List.append_assoc]
    exact ih.snoc he

/-- What holds at the start and is kept by every step holds at the end of every run. -/
theorem invariant {I : List ε → σ → Prop} (hrun : Run Step s t s') (h0 : I [] s)
    (hstep : ∀ t s₁ e s₂, I t s₁ → Step s₁ e s₂ → I (t ++ [e]) s₂) : I t s' := by
  induction hrun with
  | refl => exact h0
  | snoc _ he ih => exact hstep _ _ _ _ ih he

/-- Every prefix of the events of a run is emitted by a run. -/
theorem of_prefix (h : Run Step s t s') (hu : u <+: t) : ∃ q, Run Step s u q := by
  induction h with
  | refl => exact ⟨s, List.prefix_nil.mp hu ▸ Run.refl s⟩
  | @snoc _ q t e h he ih =>
    rcases List.prefix_concat_iff.mp hu with rfl | hu
    · exact ⟨q, h.snoc he⟩
    · exact ih hu

/-- The last event of a run was emitted by a step. -/
theorem exists_last (h : Run Step s (t ++ [e]) s'') :
    ∃ s', Run Step s t s' ∧ Step s' e s'' := by
  generalize hte : t ++ [e] = u at h
  cases h with
  | refl => simp at hte
  | snoc h he =>
    obtain ⟨rfl, rfl⟩ := List.append_inj' hte rfl |>.imp_right List.singleton_inj.mp
    exact ⟨_, h, he⟩

end Run

/-! ### Machines -/

structure Machine (σ ι ε : Type*) where
  step : σ → ι → σ × List ε

namespace Machine

/-- The state after a list of inputs. -/
def state (M : Machine σ ι ε) : σ → List ι → σ
  | s, []      => s
  | s, i :: is => state M (M.step s i).1 is

/-- The events emitted on a list of inputs. -/
def output (M : Machine σ ι ε) : σ → List ι → List ε
  | _, []      => []
  | s, i :: is => (M.step s i).2 ++ output M (M.step s i).1 is

variable (M : Machine σ ι ε)

@[simp] lemma state_nil (s : σ) : M.state s [] = s := rfl

@[simp] lemma state_cons (s : σ) (i : ι) (is : List ι) :
    M.state s (i :: is) = M.state (M.step s i).1 is := rfl

@[simp] lemma output_nil (s : σ) : M.output s [] = [] := rfl

@[simp] lemma output_cons (s : σ) (i : ι) (is : List ι) :
    M.output s (i :: is) = (M.step s i).2 ++ M.output (M.step s i).1 is := rfl

lemma state_append (s : σ) (is js : List ι) :
    M.state s (is ++ js) = M.state (M.state s is) js := by
  induction is generalizing s with
  | nil => rfl
  | cons i is ih => simp [ih]

lemma output_append (s : σ) (is js : List ι) :
    M.output s (is ++ js) = M.output s is ++ M.output (M.state s is) js := by
  induction is generalizing s with
  | nil => rfl
  | cons i is ih => simp [ih]

/-- A state that every input leaves as it is, without an event, is the end of the run. -/
lemma state_of_fixed {s : σ} (h : ∀ i, M.step s i = (s, [])) (is : List ι) :
    M.state s is = s ∧ M.output s is = [] := by
  induction is with
  | nil => simp
  | cons i is ih => simp [h i, ih]

/-- A state that no input changes answers every input in the same way. -/
lemma output_of_const {s : σ} (h : ∀ i, (M.step s i).1 = s) (is : List ι) :
    M.output s is = is.flatMap fun i => (M.step s i).2 := by
  induction is with
  | nil => rfl
  | cons i is ih => rw [output_cons, h i, ih, List.flatMap_cons]

/-- Step lemma to run lemma: a property of states that every step keeps. -/
theorem invariant {I : σ → Prop} (hstep : ∀ s i, I s → I (M.step s i).1) {s : σ} (hs : I s)
    (is : List ι) : I (M.state s is) := by
  induction is generalizing s with
  | nil => exact hs
  | cons i is ih => exact ih (hstep s i hs)

/-- Step lemma to run lemma: a property of what was emitted so far and of the state. -/
theorem invariant_output {I : List ε → σ → Prop}
    (hstep : ∀ t s i, I t s → I (t ++ (M.step s i).2) (M.step s i).1) {t : List ε} {s : σ}
    (hs : I t s) (is : List ι) : I (t ++ M.output s is) (M.state s is) := by
  induction is generalizing t s with
  | nil => simpa using hs
  | cons i is ih =>
    rw [output_cons, state_cons, ← List.append_assoc]
    exact ih (hstep t s i hs)

/-- What a machine emits and what it keeps make up what it had, when this holds of every step. -/
theorem conserves {f : ε → List κ} {g : σ → List κ}
    (hstep : ∀ s i, (M.step s i).2.flatMap f ++ g (M.step s i).1 = g s) (s : σ) (is : List ι) :
    (M.output s is).flatMap f ++ g (M.state s is) = g s := by
  induction is generalizing s with
  | nil => rfl
  | cons i is ih =>
    rw [output_cons, state_cons, List.flatMap_append, List.append_assoc, ih, hstep]

/-- A machine simulated step by step by a transition system emits runs of it. -/
theorem simulates {Step : κ → ε → κ → Prop} {R : σ → κ → Prop}
    (hstep : ∀ s q i, R s q → ∃ q', Run Step q (M.step s i).2 q' ∧ R (M.step s i).1 q')
    {s : σ} {q : κ} (h : R s q) (is : List ι) :
    ∃ q', Run Step q (M.output s is) q' ∧ R (M.state s is) q' := by
  induction is generalizing s q with
  | nil => exact ⟨q, Run.refl q, h⟩
  | cons i is ih =>
    obtain ⟨q₁, hrun₁, h₁⟩ := hstep s q i h
    obtain ⟨q₂, hrun₂, h₂⟩ := ih h₁
    exact ⟨q₂, hrun₁.trans hrun₂, h₂⟩

/-- Every input satisfies `P` in the state that it meets. -/
def Along (P : σ → ι → Prop) : σ → List ι → Prop
  | _, []      => True
  | s, i :: is => P s i ∧ Along P (M.step s i).1 is

instance decidableAlong {P : σ → ι → Prop} [∀ s i, Decidable (P s i)] :
    ∀ (s : σ) (is : List ι), Decidable (M.Along P s is)
  | _, []      => inferInstanceAs (Decidable True)
  | s, i :: is =>
    have : Decidable (M.Along P (M.step s i).1 is) := decidableAlong _ is
    inferInstanceAs (Decidable (P s i ∧ M.Along P (M.step s i).1 is))

lemma along_append {P : σ → ι → Prop} (s : σ) (is js : List ι) :
    M.Along P s (is ++ js) ↔ M.Along P s is ∧ M.Along P (M.state s is) js := by
  induction is generalizing s with
  | nil => exact (and_iff_right trivial).symm
  | cons i is ih => rw [List.cons_append, Along, Along, ih, state_cons, and_assoc]

/-- A property that every admitted step keeps holds all along an admitted run. -/
theorem invariant_along {P : σ → ι → Prop} {I : σ → Prop}
    (hstep : ∀ s i, I s → P s i → I (M.step s i).1) {s : σ} {is : List ι} (hs : I s)
    (hP : M.Along P s is) (n : Nat) : I (M.state s (is.take n)) := by
  induction is generalizing s n with
  | nil => simpa using hs
  | cons i is ih =>
    cases n with
    | zero => exact hs
    | succ n => exact ih (hstep s i hs hP.1) hP.2 n

/-- Step equivalence to run equivalence: when an admitted step keeps `I` exactly if its
input satisfies `Q`, all states of an admitted run have `I` exactly if `Q` holds along it. -/
theorem forall_state_iff {P Q : σ → ι → Prop} {I : σ → Prop}
    (hstep : ∀ s i, I s → P s i → (I (M.step s i).1 ↔ Q s i)) {s : σ} {is : List ι}
    (hs : I s) (hP : M.Along P s is) :
    (∀ n, I (M.state s (is.take n))) ↔ M.Along Q s is := by
  induction is generalizing s with
  | nil => simp [Along, hs]
  | cons i is ih =>
    obtain ⟨hi, hP⟩ := hP
    rw [Along, ← hstep s i hs hi]
    constructor
    · intro h
      have hnext : I (M.step s i).1 := h 1
      exact ⟨hnext, (ih hnext hP).mp fun n => h (n + 1)⟩
    · rintro ⟨hnext, hQ⟩ n
      cases n with
      | zero => exact hs
      | succ n => exact (ih hnext hP).mpr hQ n

/-- A run whose every admitted step makes a measure smaller is no longer than the measure. -/
theorem length_add_measure_le {P : σ → ι → Prop} (measure : σ → Nat)
    (hstep : ∀ s i, P s i → measure (M.step s i).1 < measure s) {s : σ} {is : List ι}
    (hP : M.Along P s is) : is.length + measure (M.state s is) ≤ measure s := by
  induction is generalizing s with
  | nil => simp
  | cons i is ih =>
    obtain ⟨hi, hP⟩ := hP
    have hfirst := hstep s i hi
    have hrest := ih hP
    rw [List.length_cons, state_cons]
    omega

/-! ### Unbounded inputs -/

/-- The first inputs of an infinite sequence. -/
def first (i : Nat → ι) (n : Nat) : List ι := (List.range n).map i

lemma first_succ (i : Nat → ι) (n : Nat) : first i (n + 1) = first i n ++ [i n] := by
  simp [first, List.range_succ]

lemma state_first_succ (s : σ) (i : Nat → ι) (n : Nat) :
    M.state s (first i (n + 1)) = (M.step (M.state s (first i n)) (i n)).1 := by
  rw [first_succ, state_append]
  rfl

lemma output_first_succ (s : σ) (i : Nat → ι) (n : Nat) :
    M.output s (first i (n + 1))
      = M.output s (first i n) ++ (M.step (M.state s (first i n)) (i n)).2 := by
  rw [first_succ, output_append]
  simp

/-- A measure that decreases as long as it is positive reaches zero. -/
theorem exists_measure_eq_zero {s : σ} {i : Nat → ι} (measure : σ → Nat)
    (h : ∀ n, measure (M.state s (first i n)) ≠ 0 →
      measure (M.state s (first i (n + 1))) < measure (M.state s (first i n))) :
    ∃ n, measure (M.state s (first i n)) = 0 := by
  have hbound : ∀ k n, measure (M.state s (first i n)) ≤ k →
      ∃ n, measure (M.state s (first i n)) = 0 := by
    intro k
    induction k with
    | zero => exact fun n hn => ⟨n, Nat.le_zero.mp hn⟩
    | succ k ih =>
      intro n hn
      by_cases hzero : measure (M.state s (first i n)) = 0
      · exact ⟨n, hzero⟩
      · exact ih (n + 1) (Nat.le_of_lt_succ ((h n hzero).trans_le hn))
  exact hbound _ 0 le_rfl

end Machine
end Transition
