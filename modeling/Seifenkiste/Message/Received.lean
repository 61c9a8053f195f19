import Seifenkiste.Message.Header

/-!
# Messages made from a header

The header constructor over a sequence of headers, each of which is constructed in the memory
that the message before it left, and the way back: an accepted header is written again as it was
read, whatever its bytes are.
-/

namespace Seifenkiste

open Memory LittleEndian

/-! ### Acceptance over a sequence of headers -/

/-- The state that a header alone dictates. -/
def headerState (header : Bytes) : MessageStateDef :=
  if HasControlSegments header then .initialized else .invalid

namespace MessageClass

/-- Messages constructed one after another in the same memory, from headers and the heaps that
their buffers come from. The destructor in between leaves the members as they are. -/
def constructEach (memory : MessageClass) : List (Bytes × (Nat → UInt8)) → List MessageClass
  | []                     => []
  | (header, heap) :: rest =>
    let message := ofHeaderMessage memory heap header
    message :: constructEach message rest

/-- Every message has the state that its own header dictates exactly when the memory does not
hold `invalid` before a well-formed header, neither at first nor from a malformed header. -/
theorem getState_constructEach_iff (memory : MessageClass)
    {headers : List (Bytes × (Nat → UInt8))} (hlen : ∀ c ∈ headers, c.1.length = tcpHeaderLength) :
    (memory.constructEach headers).map getState
        = headers.map (fun c => (headerState c.1).toUInt32)
      ↔ (memory.state = MessageStateDef.invalid.toUInt32 →
          ∀ c ∈ headers, ¬ HasControlSegments c.1) ∧
        headers.Pairwise fun c d => HasControlSegments d.1 → HasControlSegments c.1 := by
  induction headers generalizing memory with
  | nil => simp [constructEach]
  | cons c headers ih =>
    obtain ⟨header, heap⟩ := c
    obtain ⟨hheader, hlen⟩ := List.forall_mem_cons.mp hlen
    have hstate := state_ofHeaderMessage memory heap hheader
    have hdistinct : MessageStateDef.initialized.toUInt32 ≠ MessageStateDef.invalid.toUInt32 := by
      decide
    rw [constructEach, List.map_cons, List.map_cons, List.cons.injEq, getState, ih _ hlen, hstate,
      List.pairwise_cons, List.forall_mem_cons]
    by_cases hsegments : HasControlSegments header
    · by_cases hmem : memory.state = MessageStateDef.invalid.toUInt32
      · have hrejected : ¬ memory.Accepts header := fun h => h.2 hmem
        simp [headerState, hsegments, hmem, hrejected, hdistinct.symm]
      · have haccepted : memory.Accepts header := ⟨hsegments, hmem⟩
        simp [headerState, hsegments, hmem, haccepted, hdistinct]
    · have hrejected : ¬ memory.Accepts header := fun h => hsegments h.1
      simp only [headerState, hsegments, hrejected, if_false, true_and, not_false_eq_true,
        true_implies, imp_false]
      exact ⟨fun h => ⟨fun _ => h.1, h⟩, fun h => h.2⟩

end MessageClass

/-- A well-formed header and one of zeros. -/
def wellFormedFirst : List (Bytes × (Nat → UInt8)) :=
  [(plainHeader, fun _ => 0), (List.replicate tcpHeaderLength 0, fun _ => 0)]

/-- The theorem at a malformed header behind a well-formed one. -/
theorem getState_wellFormedFirst :
    (MessageClass.cleared.constructEach wellFormedFirst).map MessageClass.getState
      = wellFormedFirst.map fun c => (headerState c.1).toUInt32 :=
  (MessageClass.getState_constructEach_iff .cleared (by decide +kernel)).mpr (by decide +kernel)

/-- Behind the malformed header the well-formed one is rejected. -/
theorem getState_malformedFirst :
    (∀ c ∈ wellFormedFirst.reverse, c.1.length = tcpHeaderLength) ∧
    (MessageClass.cleared.constructEach wellFormedFirst.reverse).map MessageClass.getState
      ≠ wellFormedFirst.reverse.map fun c => (headerState c.1).toUInt32 := by
  refine ⟨?_, ?_⟩
  all_goals decide +kernel

/-! ### Writing a header back -/

section Reencoding

variable {memory : MessageClass} {heap : Nat → UInt8} {header : Bytes}

/-- An accepted header makes a message that could be sent on. -/
def Outgoing.received (haccept : memory.Accepts header) (hlen : header.length = tcpHeaderLength)
    (heap : Nat → UInt8) : Outgoing where
  message := .ofHeaderMessage memory heap header
  params := slice header 22 specialParamsBufferLength
  data := malloc heap (word (slice header 18 4)).toNat
  params_eq := by rw [MessageClass.ofHeaderMessage_of_accepts haccept hlen]
  params_length := length_slice (by rw [hlen]; decide)
  data_eq := by rw [MessageClass.ofHeaderMessage_of_accepts haccept hlen]
  data_length := by rw [length_malloc, MessageClass.ofHeaderMessage_of_accepts haccept hlen]

/-- The fields of the header lie side by side, so copying them out and in again restores it; of
an enum member only the byte that was copied in is copied out. -/
lemma Outgoing.header_received (haccept : memory.Accepts header)
    (hlen : header.length = tcpHeaderLength) :
    (received haccept hlen heap).header = header := by
  have hword (off : Nat) (h : off + 4 ≤ 37) :
      bytes (word (slice header off 4)) = slice header off 4 :=
    bytes_word (length_slice (hlen.symm ▸ h))
  have hbyte (x : UInt32) (off : Nat) (h : off + 1 ≤ 37) :
      slice (bytes (store x (slice header off 1))) 0 1 = slice header off 1 :=
    slice_bytes_store x (length_slice (hlen.symm ▸ h))
  have hfields : (received haccept hlen heap).fields
      = pieces header 0 [3, 1, 4, 4, 1, 1, 4, 4, 12, 3] := by
    obtain ⟨hstart, hend⟩ := haccept.1
    simp only [fields, received, MessageClass.ofHeaderMessage_of_accepts haccept hlen, pieces]
    rw [hword 4 (by decide), hword 8 (by decide), hword 14 (by decide), hword 18 (by decide),
      hbyte _ 3 (by decide), hbyte _ 12 (by decide), hbyte _ 13 (by decide), ← hstart, ← hend]
  rw [Outgoing.header, hfields, flatten_pieces]
  exact slice_eq_self hlen

/-- An accepted header is written back as it was, over anything, and nothing else is written. -/
theorem createTCPHeader_ofHeaderMessage (hlen : header.length = tcpHeaderLength)
    (haccept : (MessageClass.ofHeaderMessage memory heap header).getState
      = MessageStateDef.initialized.toUInt32) (headerBuffer : Bytes) :
    (MessageClass.ofHeaderMessage memory heap header).createTCPHeader headerBuffer
      = some (header ++ headerBuffer.drop tcpHeaderLength) := by
  have haccepts : memory.Accepts header := (MessageClass.accepts_iff hlen).mp haccept
  have hcreate := (Outgoing.received haccepts hlen heap).createTCPHeader_append headerBuffer
  rwa [Outgoing.header_received] at hcreate

/-- A header none of whose bytes between the control segments the client would write. -/
def foreignHeader : Bytes := conSegStart ++ List.replicate 31 200 ++ conSegEnd

/-- The theorem at that header, in used memory and over a longer buffer. -/
theorem createTCPHeader_foreign :
    (MessageClass.ofHeaderMessage usedMemory (fun _ => 1) foreignHeader).createTCPHeader
      (List.replicate 40 7) = some (foreignHeader ++ [7, 7, 7]) :=
  createTCPHeader_ofHeaderMessage (by decide)
    ((MessageClass.accepts_iff (by decide)).mpr (by decide)) (List.replicate 40 7)

end Reencoding
end Seifenkiste
