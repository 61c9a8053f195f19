import Mathlib.Data.List.Infix
import Seifenkiste.Library.Transition

/-!
# The message queue

`message_queue` over any type of pointers: `add_message` puts a pointer behind the others, and
`get_next_message` reads the first one. A history is a list of calls, judged against the order in
which the messages were added.
-/

namespace Seifenkiste

open Transition

structure MessageQueue (Ptr : Type*) where
  /-- The queue, its front first. -/
  messageQ : List Ptr
  deriving DecidableEq, Repr

namespace MessageQueue

variable {Ptr : Type*}

/-- The only instance, as it is created. -/
def new : MessageQueue Ptr := ⟨[]⟩

def addMessage (q : MessageQueue Ptr) (mp : Ptr) : MessageQueue Ptr := ⟨q.messageQ ++ [mp]⟩

/-- The front of the queue, `none` where `front()` is undefined. Nothing is removed. -/
def getNextMessage (q : MessageQueue Ptr) : Option Ptr := q.messageQ.head?

/-! ### Histories -/

inductive Call (Ptr : Type*) where
  | addMessage (mp : Ptr)
  | getNextMessage
  deriving DecidableEq, Repr

def step (q : MessageQueue Ptr) : Call Ptr → MessageQueue Ptr × List Ptr
  | .addMessage mp  => (q.addMessage mp, [])
  | .getNextMessage => (q, q.getNextMessage.toList)

/-- The queue as a machine that emits the messages it hands out. -/
abbrev machine : Machine (MessageQueue Ptr) (Call Ptr) Ptr := ⟨step⟩

/-- The messages that were added, in their order. -/
def added (calls : List (Call Ptr)) : List Ptr :=
  calls.filterMap fun
    | .addMessage mp  => some mp
    | .getNextMessage => none

/-- The number of messages that were asked for. -/
def gets : List (Call Ptr) → Nat
  | []                       => 0
  | .addMessage _ :: calls   => gets calls
  | .getNextMessage :: calls => gets calls + 1

/-- No message is asked for while every added one has been handed out. -/
def Served (calls : List (Call Ptr)) : Prop :=
  ∀ n ≤ calls.length, gets (calls.take n) ≤ (added (calls.take n)).length

instance (calls : List (Call Ptr)) : Decidable (Served calls) :=
  inferInstanceAs (Decidable (∀ n ≤ calls.length, _))

/-- The messages handed out are the first ones that were added. -/
def HandsOutInOrder (calls : List (Call Ptr)) : Prop :=
  machine.output new calls = (added calls).take (gets calls)

/-- The messages still to come are the added ones without those handed out. -/
def KeepsTheRest (calls : List (Call Ptr)) : Prop :=
  (machine.state new calls).messageQ = (added calls).drop (gets calls)

/-! ### What the queue does -/

variable {calls : List (Call Ptr)}

@[simp] lemma added_addMessage (mp : Ptr) : added (.addMessage mp :: calls) = mp :: added calls :=
  rfl

@[simp] lemma added_getNextMessage : added (.getNextMessage :: calls) = added calls := rfl

lemma Served.gets_le (h : Served calls) : gets calls ≤ (added calls).length := by
  have hall := h calls.length le_rfl
  rwa [List.take_length] at hall

/-- Everything that was added stays in the queue. -/
lemma messageQ_state (q : MessageQueue Ptr) (calls : List (Call Ptr)) :
    (machine.state q calls).messageQ = q.messageQ ++ added calls := by
  induction calls generalizing q with
  | nil => exact (List.append_nil _).symm
  | cons c calls ih =>
    rw [Machine.state_cons, ih]
    cases c with
    | addMessage mp => simp [step, addMessage]
    | getNextMessage => simp [step]

/-- A queue that has a front hands it out at every call. -/
lemma output_of_front {q : MessageQueue Ptr} {front : Ptr} (h : q.messageQ.head? = some front)
    (calls : List (Call Ptr)) : machine.output q calls = List.replicate (gets calls) front := by
  induction calls generalizing q with
  | nil => rfl
  | cons c calls ih =>
    rw [Machine.output_cons]
    cases c with
    | addMessage mp =>
      have hfront : (q.addMessage mp).messageQ.head? = some front := by
        rw [addMessage, List.head?_append, h, Option.some_or]
      simp [step, gets, ih hfront]
    | getNextMessage => simp [step, gets, getNextMessage, h, ih h, List.replicate_succ]

/-- A history that is served begins with a message, and that one is handed out every time. -/
lemma Served.output_eq (h : Served calls) (hcalls : calls ≠ []) :
    ∃ front, (added calls).head? = some front ∧
      machine.output new calls = List.replicate (gets calls) front := by
  cases calls with
  | nil => exact absurd rfl hcalls
  | cons c calls =>
    cases c with
    | addMessage mp =>
      refine ⟨mp, rfl, ?_⟩
      exact output_of_front (q := new.addMessage mp) rfl calls
    | getNextMessage => exact absurd (h 1 (by simp)) (by simp [gets, added])

lemma Served.handsOutInOrder_iff (h : Served calls) :
    HandsOutInOrder calls ↔
      ∀ mp ∈ (added calls).take (gets calls), (added calls).head? = some mp := by
  by_cases hcalls : calls = []
  · subst hcalls
    exact iff_of_true rfl (by simp [added])
  · obtain ⟨front, hfront, houtput⟩ := h.output_eq hcalls
    rw [HandsOutInOrder, houtput, hfront, eq_comm, List.eq_replicate_iff,
      List.length_take_of_le h.gets_le]
    simp [eq_comm]

lemma Served.keepsTheRest_iff (h : Served calls) : KeepsTheRest calls ↔ gets calls = 0 := by
  rw [KeepsTheRest, messageQ_state, new, List.nil_append]
  constructor
  · intro hrest
    have hlen := congrArg List.length hrest
    have hle := h.gets_le
    rw [List.length_drop] at hlen
    omega
  · intro hnone
    rw [hnone, List.drop_zero]

/-- The queue hands out the messages in order exactly as long as these are the first one again
and again, and it is a queue without the messages it handed out only before it hands out one. -/
theorem isFifo_iff (h : Served calls) :
    (HandsOutInOrder calls ↔
      ∀ mp ∈ (added calls).take (gets calls), (added calls).head? = some mp) ∧
    (HandsOutInOrder calls ∧ KeepsTheRest calls ↔ gets calls = 0) := by
  refine ⟨h.handsOutInOrder_iff, ?_⟩
  rw [h.keepsTheRest_iff, h.handsOutInOrder_iff, and_iff_right_iff_imp]
  intro hnone mp hmp
  rw [hnone, List.take_zero] at hmp
  exact absurd hmp List.not_mem_nil

/-- Two messages are added, and one is asked for. -/
def oneOfTwo : List (Call Nat) := [.addMessage 1, .addMessage 2, .getNextMessage]

/-- The theorem at these calls: the first message is handed out, and it stays in the queue. -/
theorem isFifo_oneOfTwo : HandsOutInOrder oneOfTwo ∧ ¬ KeepsTheRest oneOfTwo := by
  have hserved : Served oneOfTwo := by decide
  obtain ⟨horder, hfifo⟩ := isFifo_iff hserved
  have hfirst : HandsOutInOrder oneOfTwo := horder.mpr (by decide)
  refine ⟨hfirst, ?_⟩
  intro hrest
  have hnone : gets oneOfTwo = 0 := hfifo.mp ⟨hfirst, hrest⟩
  exact absurd hnone (by decide)

/-- Two messages are added and asked for: the first one comes twice. -/
def twoMessages : List (Call Nat) :=
  [.addMessage 1, .addMessage 2, .getNextMessage, .getNextMessage]

theorem twoMessages_not_in_order : Served twoMessages ∧ ¬ HandsOutInOrder twoMessages := by
  refine ⟨by decide, ?_⟩
  rw [HandsOutInOrder]
  decide

end MessageQueue
end Seifenkiste
