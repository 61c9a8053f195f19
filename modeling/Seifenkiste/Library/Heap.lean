import Mathlib.Logic.Function.Basic
import Seifenkiste.Library.Memory

/-!
# Heaps

The blocks that an allocator has handed out and that have not been freed, by their addresses;
address 0 is NULL and no block. Accesses and frees outside of a live block have no result.
`Owned before h a n` says that the block at `a` came into being since the heap was `before`, so
that freeing it gives nothing away that was there then.
-/

@[ext]
structure Heap (α : Type*) where
  blocks : Nat → Option (List α)

namespace Heap

open Memory

variable {α : Type*}

def set (h : Heap α) (a : Nat) (block : Option (List α)) : Heap α :=
  ⟨Function.update h.blocks a block⟩

@[simp] lemma blocks_set_self (h : Heap α) (a : Nat) (block : Option (List α)) :
    (h.set a block).blocks a = block := Function.update_self _ _ _

@[simp] lemma blocks_set_of_ne (h : Heap α) {a b : Nat} (hne : b ≠ a)
    (block : Option (List α)) : (h.set a block).blocks b = h.blocks b :=
  Function.update_of_ne hne _ _

/-- An address that an allocation can return. -/
def Fresh (h : Heap α) (a : Nat) : Prop := a ≠ 0 ∧ h.blocks a = none

instance (h : Heap α) (a : Nat) : Decidable (h.Fresh a) := inferInstanceAs (Decidable (_ ∧ _))

def alloc (h : Heap α) (a : Nat) (content : List α) : Heap α := h.set a (some content)

/-- The block that a pointer names. -/
def block (h : Heap α) (a : Nat) : Option (List α) := if a = 0 then none else h.blocks a

lemma block_alloc_self (h : Heap α) {a : Nat} (hnull : a ≠ 0) (content : List α) :
    (h.alloc a content).block a = some content := by
  rw [block, if_neg hnull, alloc, blocks_set_self]

lemma block_alloc_of_ne (h : Heap α) {a b : Nat} (hne : b ≠ a) (content : List α) :
    (h.alloc a content).block b = h.block b := by
  rw [block, block, alloc, blocks_set_of_ne _ hne]

lemma Fresh.alloc_of_ne {h : Heap α} {a b : Nat} (hfresh : h.Fresh b) (hne : b ≠ a)
    (content : List α) : (h.alloc a content).Fresh b :=
  ⟨hfresh.1, (h.blocks_set_of_ne hne _).trans hfresh.2⟩

/-- Read `n` elements; nothing is accessed when `n` is 0. -/
def read (h : Heap α) (a n : Nat) : Option (List α) :=
  if n = 0 then some []
  else (h.block a).bind fun b => if n ≤ b.length then some (b.take n) else none

/-- Copy `src` to an address; nothing is accessed when `src` is empty. -/
def write (h : Heap α) (a : Nat) (src : List α) : Option (Heap α) :=
  if src.length = 0 then some h
  else (h.block a).bind fun b =>
    if src.length ≤ b.length then some (h.set a (some (memcpy b 0 src))) else none

/-- Copy `src` to an offset behind an address; nothing is accessed when `src` is empty. -/
def writeAt (h : Heap α) (a off : Nat) (src : List α) : Option (Heap α) :=
  if src.length = 0 then some h
  else (h.block a).bind fun b =>
    if off + src.length ≤ b.length then some (h.set a (some (memcpy b off src))) else none

/-- Freeing NULL does nothing. -/
def free (h : Heap α) (a : Nat) : Option (Heap α) :=
  if a = 0 then some h else (h.blocks a).map fun _ => h.set a none

/-! ### Ownership -/

/-- The block at `a` has been allocated since the heap was `before`, and has `n` elements. -/
structure Owned (before h : Heap α) (a n : Nat) : Prop where
  ne_null : a ≠ 0
  new : before.blocks a = none
  live : ∃ b, h.blocks a = some b ∧ b.length = n

variable {before h h' : Heap α} {a n : Nat}

lemma owned_alloc (hfresh : before.Fresh a) {content : List α} (hlen : content.length = n) :
    Owned before (h.alloc a content) a n :=
  ⟨hfresh.1, hfresh.2, content, h.blocks_set_self _ _, hlen⟩

/-- Other blocks do not matter. -/
lemma Owned.of_blocks_eq (ho : Owned before h a n) (heq : h'.blocks a = h.blocks a) :
    Owned before h' a n := by
  obtain ⟨b, hb, hlen⟩ := ho.live
  exact ⟨ho.ne_null, ho.new, b, heq.trans hb, hlen⟩

lemma Owned.block_eq (ho : Owned before h a n) : ∃ b, h.block a = some b ∧ b.length = n := by
  obtain ⟨b, hb, hlen⟩ := ho.live
  exact ⟨b, by rw [block, if_neg ho.ne_null, hb], hlen⟩

lemma Owned.read_eq (ho : Owned before h a n) : ∃ content, h.read a n = some content := by
  obtain ⟨b, hb, hlen⟩ := ho.block_eq
  by_cases hn : n = 0
  · exact ⟨[], by rw [read, if_pos hn]⟩
  · exact ⟨b.take n, by rw [read, if_neg hn, hb, Option.bind_some, if_pos hlen.ge]⟩

/-- A read has a result exactly when it stays in the block. -/
lemma isSome_read_iff {b : List α} (hb : h.block a = some b) (n : Nat) :
    (h.read a n).isSome ↔ n ≤ b.length := by
  rw [read, hb, Option.bind_some]
  by_cases hn : n = 0
  · simp [hn]
  · by_cases hfits : n ≤ b.length
    · simp [hn, hfits]
    · simp [hn, hfits]

lemma read_block {b : List α} (hb : h.block a = some b) : h.read a b.length = some b := by
  rw [read, hb, Option.bind_some, if_pos le_rfl, List.take_length]
  split_ifs with hempty
  · rw [List.length_eq_zero_iff.mp hempty]
  · rfl

/-- What is owned was not there before. -/
lemma Owned.block_before (ho : Owned before h a n) : before.block a = none := by
  rw [block, if_neg ho.ne_null, ho.new]

/-- Freeing NULL or a block of one's own takes that block away and nothing else. -/
lemma free_spec (ho : a = 0 ∨ Owned before h a n) :
    ∃ h', h.free a = some h' ∧
      ∀ b, h'.blocks b = if a ≠ 0 ∧ b = a then none else h.blocks b := by
  rcases ho with hnull | ho
  · exact ⟨h, by rw [free, if_pos hnull], fun b => by simp [hnull]⟩
  · obtain ⟨content, hcontent, -⟩ := ho.live
    refine ⟨h.set a none, by rw [free, if_neg ho.ne_null, hcontent, Option.map_some], ?_⟩
    intro b
    by_cases hb : b = a
    · subst hb
      simp [ho.ne_null]
    · simp [hb]

/-- A write changes at most the block it goes to, and not the length of that one. -/
lemma blocks_of_write {src : List α} (hw : h.write a src = some h') :
    h' = h ∨ ∃ b, a ≠ 0 ∧ h.blocks a = some b ∧ src.length ≤ b.length ∧
      h' = h.set a (some (memcpy b 0 src)) := by
  rw [write] at hw
  split_ifs at hw with hempty
  · exact Or.inl (Option.some.inj hw).symm
  · obtain ⟨b, hb, hw⟩ := Option.bind_eq_some_iff.mp hw
    rw [block] at hb
    split_ifs at hb with hnull
    split_ifs at hw with hlen
    exact Or.inr ⟨b, hnull, hb, hlen, (Option.some.inj hw).symm⟩

lemma write_frame {src : List α} (hw : h.write a src = some h') {b : Nat} (hne : b ≠ 0 → b ≠ a) :
    h'.blocks b = h.blocks b := by
  rcases blocks_of_write hw with rfl | ⟨block, hnull, -, -, rfl⟩
  · rfl
  · apply blocks_set_of_ne
    rintro rfl
    exact hne hnull rfl

/-- What a write leaves at the address it goes to. -/
lemma block_write {src b : List α} (hw : h.write a src = some h') (hb : h.block a = some b) :
    src.length ≤ b.length ∧ h'.block a = some (memcpy b 0 src) := by
  rw [write] at hw
  split_ifs at hw with hempty
  · obtain rfl := Option.some.inj hw
    rw [List.length_eq_zero_iff.mp hempty, memcpy_zero, hb]
    exact ⟨Nat.zero_le _, rfl⟩
  · rw [hb, Option.bind_some] at hw
    split_ifs at hw with hlen
    obtain rfl := Option.some.inj hw
    rw [block] at hb ⊢
    split_ifs at hb ⊢
    exact ⟨hlen, h.blocks_set_self _ _⟩

lemma set_block {b : List α} (hb : h.block a = some b) : h.set a (some b) = h := by
  rw [block] at hb
  split_ifs at hb
  rw [set, ← hb, Function.update_eq_self]

/-- Copying behind what is there is copying all of it again. -/
lemma writeAt_eq_write {b : List α} (hb : h.block a = some b) {off : Nat} (hoff : off ≤ b.length)
    (src : List α) : h.writeAt a off src = h.write a (b.take off ++ src) := by
  have hlen : (b.take off ++ src).length = off + src.length := by simp [hoff]
  have hcopy : memcpy b 0 (b.take off ++ src) = memcpy b off src := by
    rw [memcpy_zero, hlen, memcpy]
  rw [writeAt, write, hb, Option.bind_some, Option.bind_some, hlen, hcopy]
  by_cases hsrc : src.length = 0
  · have hsame : memcpy b off src = b := by
      rw [List.length_eq_zero_iff.mp hsrc, memcpy, List.append_nil, List.length_nil, Nat.add_zero,
        List.take_append_drop]
    rw [if_pos hsrc, hsrc, Nat.add_zero, if_pos hoff, hsame, set_block hb]
    split_ifs <;> rfl
  · rw [if_neg hsrc, if_neg fun h => hsrc (Nat.eq_zero_of_add_eq_zero_left h)]

/-- A copy has a result exactly when it stays in the block. -/
lemma isSome_writeAt_iff {b : List α} (hb : h.block a = some b) {off : Nat} (hoff : off ≤ b.length)
    (src : List α) : (h.writeAt a off src).isSome ↔ off + src.length ≤ b.length := by
  rw [writeAt, hb, Option.bind_some]
  by_cases hsrc : src.length = 0
  · simp [hsrc, hoff]
  · by_cases hfits : off + src.length ≤ b.length
    · simp [hsrc, hfits]
    · simp [hsrc, hfits]

lemma isSome_write_iff {b : List α} (hb : h.block a = some b) (src : List α) :
    (h.write a src).isSome ↔ src.length ≤ b.length := by
  rw [← List.nil_append src, ← List.take_zero (l := b), ← writeAt_eq_write hb (Nat.zero_le _),
    isSome_writeAt_iff hb (Nat.zero_le _), Nat.zero_add, List.take_zero, List.nil_append]

/-- What a copy leaves at the address it goes to. -/
lemma block_writeAt {b src : List α} {off : Nat} (hb : h.block a = some b) (hoff : off ≤ b.length)
    (hw : h.writeAt a off src = some h') : h'.block a = some (memcpy b off src) := by
  have hlen : (b.take off ++ src).length = off + src.length := by simp [hoff]
  rw [writeAt_eq_write hb hoff] at hw
  rw [(block_write hw hb).2, memcpy_zero, hlen, memcpy]

/-- No block is made by a copy. -/
lemma Fresh.writeAt {c : Nat} (hfresh : h.Fresh c) {off : Nat} {src : List α}
    (hw : h.writeAt a off src = some h') : h'.Fresh c := by
  rw [Heap.writeAt] at hw
  split_ifs at hw with hempty
  · obtain rfl := Option.some.inj hw
    exact hfresh
  · obtain ⟨b, hb, hw⟩ := Option.bind_eq_some_iff.mp hw
    rw [block] at hb
    split_ifs at hb with hnull
    split_ifs at hw with hlen
    obtain rfl := Option.some.inj hw
    have hne : c ≠ a := by
      rintro rfl
      rw [hfresh.2] at hb
      cases hb
    exact ⟨hfresh.1, by rw [blocks_set_of_ne _ hne, hfresh.2]⟩

/-- A write keeps every block, with its length. -/
lemma Owned.write {src : List α} {c : Nat} (ho : Owned before h a n)
    (hw : h.write c src = some h') : Owned before h' a n := by
  by_cases hne : a = c
  · subst hne
    rcases blocks_of_write hw with rfl | ⟨b, -, hb, hlen, rfl⟩
    · exact ho
    · obtain ⟨b', hb', hlen'⟩ := ho.live
      obtain rfl : b = b' := Option.some.inj (hb.symm.trans hb')
      refine ⟨ho.ne_null, ho.new, _, h.blocks_set_self _ _, ?_⟩
      rw [length_memcpy (by rwa [Nat.zero_add]), hlen']
  · exact ho.of_blocks_eq (write_frame hw fun _ => hne)

/-- A block that somebody else gets is none of those that are owned. -/
lemma Owned.alloc (ho : Owned before h a n) {c : Nat} (hfresh : h.Fresh c) (content : List α) :
    Owned (before.alloc c content) (h.alloc c content) a n := by
  obtain ⟨b, hb, hlen⟩ := ho.live
  have hne : a ≠ c := by
    rintro rfl
    rw [hfresh.2] at hb
    cases hb
  refine ⟨ho.ne_null, ?_, b, ?_, hlen⟩
  · rw [Heap.alloc, blocks_set_of_ne _ hne, ho.new]
  · rw [Heap.alloc, blocks_set_of_ne _ hne, hb]

/-! ### Leaks -/

/-- `h'` has what `h` has, and new blocks of these sizes. -/
inductive Grows : Heap α → List Nat → Heap α → Prop
  | refl (h : Heap α) : Grows h [] h
  | alloc {h h' : Heap α} {sizes : List Nat} (hgrows : Grows h sizes h') {a : Nat}
      (hfresh : h'.Fresh a) (content : List α) :
      Grows h (sizes ++ [content.length]) (h'.alloc a content)

lemma Grows.trans {h'' : Heap α} {sizes more : List Nat} (hfirst : Grows h sizes h')
    (hsecond : Grows h' more h'') : Grows h (sizes ++ more) h'' := by
  induction hsecond with
  | refl => rwa [List.append_nil]
  | alloc _ hfresh content ih =>
    rw [← List.append_assoc]
    exact ih.alloc hfresh content

end Heap
