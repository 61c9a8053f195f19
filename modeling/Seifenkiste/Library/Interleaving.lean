import Seifenkiste.Library.Transition

/-!
# Interleaved machines

Two ways in which a machine does not run alone. `Feed`: what a machine works on arrives while it
is running; it does what it would do if everything had been there from the beginning
(`Feed.fed_spec`). `forking`: a parent starts other machines, and all of them take turns; each of
them does what it would do alone (`forking_parent`, `forking_child`).
-/

namespace Transition

variable {σ ε ι κ π α : Type*}

/-! ### A machine that is fed -/

/-- How the states of a machine are fed, and the inputs that a state admits: an admitted input is
answered in the same way whatever is still to arrive. -/
structure Feed (M : Machine σ ι ε) (κ : Type*) where
  feed : σ → List κ → σ
  Admits : σ → ι → Prop
  feed_append : ∀ s arrived more, feed (feed s arrived) more = feed s (arrived ++ more)
  step_feed : ∀ s i more, Admits s i →
    M.step (feed s more) i = (feed (M.step s i).1 more, (M.step s i).2)

inductive Fed (κ ι : Type*) where
  | arrive (more : List κ)
  | input (i : ι)

namespace Fed

/-- Everything that arrives. -/
def arrived (is : List (Fed κ ι)) : List κ :=
  is.flatMap fun
    | .arrive more => more
    | .input _     => []

/-- The inputs among the arrivals. -/
def inputs (is : List (Fed κ ι)) : List ι :=
  is.filterMap fun
    | .arrive _ => none
    | .input i  => some i

@[simp] lemma arrived_cons_arrive (more : List κ) (is : List (Fed κ ι)) :
    arrived (.arrive more :: is) = more ++ arrived is := rfl

@[simp] lemma arrived_cons_input (i : ι) (is : List (Fed κ ι)) :
    arrived (.input i :: is) = arrived is := rfl

@[simp] lemma inputs_cons_arrive (more : List κ) (is : List (Fed κ ι)) :
    inputs (.arrive more :: is) = inputs is := rfl

@[simp] lemma inputs_cons_input (i : ι) (is : List (Fed κ ι)) :
    inputs (.input i :: is) = i :: inputs is := rfl

end Fed

namespace Feed

variable {M : Machine σ ι ε}

/-- Admitted inputs are answered in the same way whatever is fed behind them. -/
theorem run_feed (F : Feed M κ) {s : σ} {is : List ι} (h : M.Along F.Admits s is) (more : List κ) :
    M.state (F.feed s more) is = F.feed (M.state s is) more ∧
      M.output (F.feed s more) is = M.output s is := by
  induction is generalizing s with
  | nil => exact ⟨rfl, rfl⟩
  | cons i is ih =>
    obtain ⟨hi, h⟩ := h
    obtain ⟨hstate, houtput⟩ := ih h
    simp only [Machine.state_cons, Machine.output_cons, F.step_feed s i more hi, hstate, houtput,
      and_self]

/-- The machine that is fed while it runs. -/
def fed (F : Feed M κ) : Machine σ (Fed κ ι) ε where
  step s
    | .arrive more => (F.feed s more, [])
    | .input i     => M.step s i

/-- Anything may arrive; an input has to be admitted. -/
def Possible (F : Feed M κ) (s : σ) : Fed κ ι → Prop
  | .arrive _ => True
  | .input i  => F.Admits s i

instance (F : Feed M κ) [∀ s i, Decidable (F.Admits s i)] (s : σ) (i : Fed κ ι) :
    Decidable (F.Possible s i) :=
  match i with
  | .arrive _ => inferInstanceAs (Decidable True)
  | .input i  => inferInstanceAs (Decidable (F.Admits s i))

/-- A machine that is fed while it runs does what it does on everything that ever arrives, also
on what has not been looked at yet. -/
theorem fed_spec (F : Feed M κ) {s : σ} {is : List (Fed κ ι)} (h : F.fed.Along F.Possible s is)
    (more : List κ) :
    M.state (F.feed s (Fed.arrived is ++ more)) (Fed.inputs is)
        = F.feed (F.fed.state s is) more ∧
      M.output (F.feed s (Fed.arrived is ++ more)) (Fed.inputs is) = F.fed.output s is := by
  induction is generalizing s with
  | nil => exact ⟨rfl, rfl⟩
  | cons i is ih =>
    obtain ⟨hi, h⟩ := h
    obtain ⟨hstate, houtput⟩ := ih h
    rw [Machine.state_cons, Machine.output_cons, ← hstate, ← houtput]
    cases i with
    | arrive arrived =>
      simp only [fed, Fed.arrived_cons_arrive, Fed.inputs_cons_arrive, F.feed_append,
        List.append_assoc, List.nil_append, and_self]
    | input i =>
      simp only [fed, Fed.arrived_cons_input, Fed.inputs_cons_input, Machine.state_cons,
        Machine.output_cons, F.step_feed s i _ hi, and_self]

end Feed

/-! ### A machine that starts others -/

/-- A parent and the machines that it has started, the oldest first. -/
structure Family (π σ : Type*) where
  parent : π
  children : List σ

inductive Scheduled (α ι : Type*) where
  | parent (a : α)
  | child (k : Nat) (i : ι)

namespace Scheduled

/-- What the parent gets to see. -/
def forParent (is : List (Scheduled α ι)) : List α :=
  is.filterMap fun
    | .parent a  => some a
    | .child _ _ => none

/-- What the `k`-th child gets to see. -/
def forChild (k : Nat) (is : List (Scheduled α ι)) : List ι :=
  is.filterMap fun
    | .parent _   => none
    | .child k' i => if k' = k then some i else none

@[simp] lemma forParent_cons_parent (a : α) (is : List (Scheduled α ι)) :
    forParent (.parent a :: is) = a :: forParent is := rfl

@[simp] lemma forParent_cons_child (k : Nat) (i : ι) (is : List (Scheduled α ι)) :
    forParent (.child k i :: is) = forParent is := rfl

@[simp] lemma forChild_cons_self (k : Nat) (i : ι) (is : List (Scheduled α ι)) :
    forChild k (.child k i :: is) = i :: forChild k is := by
  simp [forChild]

lemma forChild_cons_of_ne {k k' : Nat} (h : k' ≠ k) (i : ι) (is : List (Scheduled α ι)) :
    forChild k (.child k' i :: is) = forChild k is := by
  simp [forChild, h]

end Scheduled

/-- The events of the `k`-th child. -/
def emittedBy (k : Nat) (events : List (Nat × ε)) : List ε :=
  events.filterMap fun event => if event.1 = k then some event.2 else none

lemma emittedBy_append (k : Nat) (events more : List (Nat × ε)) :
    emittedBy k (events ++ more) = emittedBy k events ++ emittedBy k more :=
  List.filterMap_append

lemma emittedBy_map_self (k : Nat) (events : List ε) :
    emittedBy k (events.map (Prod.mk k)) = events := by
  simp [emittedBy, List.filterMap_map]

lemma emittedBy_map_of_ne {k k' : Nat} (h : k' ≠ k) (events : List ε) :
    emittedBy k (events.map (Prod.mk k')) = [] := by
  simp [emittedBy, List.filterMap_map, h]

/-- The parent emits the children that it starts; the `k`-th one runs on `M k`. -/
def forking (P : Machine π α σ) (M : Nat → Machine σ ι ε) :
    Machine (Family π σ) (Scheduled α ι) (Nat × ε) where
  step s
    | .parent a  =>
      let (parent, started) := P.step s.parent a
      (⟨parent, s.children ++ started⟩, [])
    | .child k i =>
      match s.children[k]? with
      | some child =>
        let (child, events) := (M k).step child i
        (⟨s.parent, s.children.set k child⟩, events.map (Prod.mk k))
      | none       => (s, [])

section Forking

variable {P : Machine π α σ} {M : Nat → Machine σ ι ε}

lemma forking_step_parent (s : Family π σ) (a : α) :
    (forking P M).step s (.parent a)
      = (⟨(P.step s.parent a).1, s.children ++ (P.step s.parent a).2⟩, []) := rfl

lemma forking_step_child {s : Family π σ} {k : Nat} {child : σ} (h : s.children[k]? = some child)
    (i : ι) :
    (forking P M).step s (.child k i)
      = (⟨s.parent, s.children.set k ((M k).step child i).1⟩,
        ((M k).step child i).2.map (Prod.mk k)) := by
  simp only [forking, h]

/-- An input that the parent may get, or one that a child may get which has been started. -/
def FamilyPossible (PP : π → α → Prop) (PM : Nat → σ → ι → Prop) (s : Family π σ) :
    Scheduled α ι → Prop
  | .parent a  => PP s.parent a
  | .child k i => ∃ child, s.children[k]? = some child ∧ PM k child i

variable {PP : π → α → Prop} {PM : Nat → σ → ι → Prop}

instance [∀ p a, Decidable (PP p a)] [∀ k s i, Decidable (PM k s i)] (s : Family π σ)
    (i : Scheduled α ι) : Decidable (FamilyPossible PP PM s i) :=
  match i with
  | .parent a  => inferInstanceAs (Decidable (PP s.parent a))
  | .child k i =>
    match h : s.children[k]? with
    | some child => decidable_of_iff (PM k child i) (by simp [FamilyPossible, h])
    | none       => isFalse (by simp [FamilyPossible, h])

/-- The parent does what it would do without its children. -/
theorem forking_parent {s : Family π σ} {is : List (Scheduled α ι)}
    (h : (forking P M).Along (FamilyPossible PP PM) s is) :
    ((forking P M).state s is).parent = P.state s.parent (Scheduled.forParent is) ∧
      P.Along PP s.parent (Scheduled.forParent is) := by
  induction is generalizing s with
  | nil => exact ⟨rfl, trivial⟩
  | cons i is ih =>
    obtain ⟨hi, h⟩ := h
    obtain ⟨hparent, halong⟩ := ih h
    cases i with
    | parent a => exact ⟨hparent, hi, halong⟩
    | child k i =>
      obtain ⟨child, hchild, -⟩ := hi
      rw [forking_step_child hchild] at hparent halong
      rw [Machine.state_cons, forking_step_child hchild]
      exact ⟨hparent, halong⟩

/-- A child does what it would do alone on the inputs that are addressed to it. -/
theorem forking_child {s : Family π σ} {is : List (Scheduled α ι)}
    (h : (forking P M).Along (FamilyPossible PP PM) s is) {k : Nat} {child : σ}
    (hchild : (s.children ++ P.output s.parent (Scheduled.forParent is))[k]? = some child) :
    ((forking P M).state s is).children[k]?
        = some ((M k).state child (Scheduled.forChild k is)) ∧
      emittedBy k ((forking P M).output s is) = (M k).output child (Scheduled.forChild k is) ∧
      (M k).Along (PM k) child (Scheduled.forChild k is) := by
  induction is generalizing s child with
  | nil =>
    rw [Scheduled.forParent, List.filterMap_nil, Machine.output_nil, List.append_nil] at hchild
    exact ⟨hchild, rfl, trivial⟩
  | cons i is ih =>
    obtain ⟨hi, h⟩ := h
    rw [Machine.state_cons, Machine.output_cons, emittedBy_append]
    cases i with
    | parent a =>
      rw [forking_step_parent] at h ⊢
      rw [Scheduled.forParent_cons_parent, Machine.output_cons, ← List.append_assoc] at hchild
      exact ih h hchild
    | child k' i =>
      obtain ⟨child', hchild', hadmitted⟩ := hi
      have hlt : k' < s.children.length := (List.getElem?_eq_some_iff.mp hchild').1
      rw [forking_step_child hchild'] at h ⊢
      rw [Scheduled.forParent_cons_child] at hchild
      by_cases hk : k' = k
      · subst hk
        rw [List.getElem?_append_left hlt, hchild', Option.some.injEq] at hchild
        subst hchild
        have hnext : (s.children.set k' ((M k').step child' i).1
            ++ P.output s.parent (Scheduled.forParent is))[k']?
            = some ((M k').step child' i).1 := by
          rw [List.getElem?_append_left (by rwa [List.length_set]), List.getElem?_set_self hlt]
        obtain ⟨hstate, houtput, halong⟩ := ih h hnext
        rw [Scheduled.forChild_cons_self, emittedBy_map_self, houtput]
        exact ⟨hstate, rfl, hadmitted, halong⟩
      · have hsame : (s.children.set k' ((M k').step child' i).1
            ++ P.output s.parent (Scheduled.forParent is))[k]? = some child := by
          rw [← hchild, List.getElem?_append, List.getElem?_append, List.length_set,
            List.getElem?_set_ne hk]
        obtain ⟨hstate, houtput, halong⟩ := ih h hsame
        rw [Scheduled.forChild_cons_of_ne hk, emittedBy_map_of_ne hk, houtput]
        exact ⟨hstate, rfl, halong⟩

/-- Nobody but the parent starts children, and none of them is ever removed. -/
theorem length_forking {s : Family π σ} {is : List (Scheduled α ι)}
    (h : (forking P M).Along (FamilyPossible PP PM) s is) :
    ((forking P M).state s is).children.length
      = (s.children ++ P.output s.parent (Scheduled.forParent is)).length := by
  induction is generalizing s with
  | nil => simp [Scheduled.forParent]
  | cons i is ih =>
    obtain ⟨hi, h⟩ := h
    rw [Machine.state_cons, ih h]
    cases i with
    | parent a =>
      rw [forking_step_parent, Scheduled.forParent_cons_parent, Machine.output_cons,
        List.append_assoc]
    | child k i =>
      obtain ⟨child, hchild, -⟩ := hi
      rw [forking_step_child hchild, Scheduled.forParent_cons_child, List.length_append,
        List.length_set, ← List.length_append]

end Forking

end Transition
