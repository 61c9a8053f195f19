import Mathlib.Data.List.Basic
import Seifenkiste.Library.LittleEndian

/-!
# Raw copies between byte buffers

`memcpy` into a buffer at an offset and `slice`, the bytes a copy takes out of one. A run of
copies to adjacent offsets is one copy of the concatenation (`memcpy_memcpy`), which is how a
packed layout written field by field is read as one list.
-/

namespace Memory

variable {α : Type*}

/-- The buffer `dst` after `src` was copied over it from offset `off` on. -/
def memcpy (dst : List α) (off : Nat) (src : List α) : List α :=
  dst.take off ++ src ++ dst.drop (off + src.length)

/-- The `n` elements of `src` from offset `off` on. -/
def slice (src : List α) (off n : Nat) : List α := (src.drop off).take n

lemma length_memcpy {dst src : List α} {off : Nat} (h : off + src.length ≤ dst.length) :
    (memcpy dst off src).length = dst.length := by
  simp only [memcpy, List.length_append, List.length_take, List.length_drop]
  omega

lemma memcpy_zero (dst src : List α) : memcpy dst 0 src = src ++ dst.drop src.length := by
  simp [memcpy]

/-- Overwriting a whole buffer leaves nothing of its former content. -/
lemma memcpy_zero_of_length_eq {dst src : List α} (h : src.length = dst.length) :
    memcpy dst 0 src = src := by
  simp [memcpy_zero, h]

lemma take_memcpy {dst src : List α} {off : Nat} (h : off ≤ dst.length) :
    (memcpy dst off src).take (off + src.length) = dst.take off ++ src := by
  have hlen : (dst.take off ++ src).length = off + src.length := by simp [h]
  rw [memcpy, ← hlen, List.take_left']
  rfl

/-- Two copies to adjacent offsets are one copy of both sources. -/
lemma memcpy_memcpy {dst a b : List α} {off : Nat} (h : off ≤ dst.length) :
    memcpy (memcpy dst off a) (off + a.length) b = memcpy dst off (a ++ b) := by
  have hdrop : (memcpy dst off a).drop (off + a.length + b.length)
      = dst.drop (off + (a ++ b).length) := by
    have hlen : (dst.take off ++ a).length = off + a.length := by simp [h]
    rw [memcpy, ← hlen, List.drop_append, List.drop_eq_nil_of_le (by omega), hlen]
    simp [Nat.add_assoc]
  rw [memcpy, take_memcpy h, hdrop]
  simp [memcpy, List.append_assoc]

/-- The case of `memcpy_memcpy` in which a buffer is filled from its start. -/
lemma memcpy_zero_memcpy {dst a b : List α} {n : Nat} (h : n = a.length) :
    memcpy (memcpy dst 0 a) n b = memcpy dst 0 (a ++ b) := by
  have hmerge := memcpy_memcpy (a := a) (b := b) (Nat.zero_le dst.length)
  rwa [Nat.zero_add, ← h] at hmerge

lemma length_slice {src : List α} {off n : Nat} (h : off + n ≤ src.length) :
    (slice src off n).length = n := by
  simp only [slice, List.length_take, List.length_drop]
  omega

lemma slice_append_left {a b : List α} {off n : Nat} (h : off + n ≤ a.length) :
    slice (a ++ b) off n = slice a off n := by
  rw [slice, slice, List.drop_append_of_le_length (by omega), List.take_append_of_le_length]
  simp only [List.length_drop]
  omega

lemma slice_append_right {a b : List α} {off n : Nat} (h : a.length ≤ off) :
    slice (a ++ b) off n = slice b (off - a.length) n := by
  rw [slice, slice, List.drop_append, List.drop_eq_nil_of_le h, List.nil_append]

/-- A part of a part is a part. -/
lemma slice_slice {src : List α} {off n i k : Nat} (h : i + k ≤ n) :
    slice (slice src off n) i k = slice src (off + i) k := by
  rw [slice, slice, slice, List.drop_take, List.take_take, List.drop_drop, Nat.min_eq_left]
  omega

/-- Adjacent parts make up a part. -/
lemma slice_append_slice (src : List α) (off m n : Nat) :
    slice src off m ++ slice src (off + m) n = slice src off (m + n) := by
  rw [slice, slice, slice, ← List.drop_drop, List.take_add]

lemma slice_eq_self {a : List α} {n : Nat} (h : a.length = n) : slice a 0 n = a := by
  rw [slice, List.drop_zero, ← h, List.take_length]

lemma slice_one {src : List α} {off : Nat} (h : off < src.length) (d : α) :
    slice src off 1 = [src.getD off d] := by
  rw [slice, List.drop_eq_getElem_cons h, List.take_succ_cons, List.take_zero,
    List.getD_eq_getElem?_getD, List.getElem?_eq_getElem h, Option.getD_some]

/-- In a record packed without gaps every field lies behind the fields before it. -/
lemma slice_flatten {fields : List (List α)} {field : List α} {i off n : Nat}
    (hi : fields[i]? = some field) (hoff : ((fields.take i).map List.length).sum = off)
    (hn : field.length = n) : slice fields.flatten off n = field := by
  have hlt : i < fields.length := (List.getElem?_eq_some_iff.mp hi).1
  have hsplit : fields = fields.take i ++ field :: fields.drop (i + 1) := by
    rw [← (List.getElem?_eq_some_iff.mp hi).2, ← List.drop_eq_getElem_cons hlt,
      List.take_append_drop]
  have hlen : (fields.take i).flatten.length = off := by rw [List.length_flatten, hoff]
  rw [hsplit, List.flatten_append, List.flatten_cons, slice_append_right hlen.le, hlen,
    Nat.sub_self, slice_append_left (by omega), slice_eq_self hn]

/-- The parts of `src` from offset `off` on whose widths are given. -/
def pieces (src : List α) : Nat → List Nat → List (List α)
  | _, []            => []
  | off, n :: widths => slice src off n :: pieces src (off + n) widths

/-- A record is cut into its fields without loss. -/
lemma flatten_pieces (src : List α) (off : Nat) (widths : List Nat) :
    (pieces src off widths).flatten = slice src off widths.sum := by
  induction widths generalizing off with
  | nil => rw [pieces, List.flatten_nil, List.sum_nil, slice, List.take_zero]
  | cons n widths ih => rw [pieces, List.flatten_cons, ih, slice_append_slice, List.sum_cons]

/-! ### Copies into a word -/

open LittleEndian

/-- A 32-bit word in memory after `src` was copied to its address. -/
def store (x : UInt32) (src : List UInt8) : UInt32 := word (memcpy (bytes x) 0 src)

lemma store_of_length_eq_four (x : UInt32) {src : List UInt8} (h : src.length = 4) :
    store x src = word src := by
  rw [store, memcpy_zero_of_length_eq]
  simpa using h

/-- The byte at the address of a word is its lowest one. -/
lemma slice_bytes_one (x : UInt32) : slice (bytes x) 0 1 = [UInt8.ofNat x.toNat] := by
  simp [slice, bytes, encode]

/-- Copying a single byte changes the lowest byte of the word and keeps the others. -/
lemma toNat_store_singleton (x : UInt32) (b : UInt8) :
    (store x [b]).toNat = b.toNat + 256 * (x.toNat / 256) := by
  have hx : x.toNat < 2 ^ 32 := x.toNat_lt
  have hb : b.toNat < 256 := b.toNat_lt
  have himage : memcpy (bytes x) 0 [b] = b :: encode 3 (x.toNat / 256) := by
    simp [memcpy_zero, bytes, encode]
  have hhigh : x.toNat / 256 < 256 ^ 3 := by omega
  rw [store, himage, word, decode, decode_encode hhigh, UInt32.toNat_ofNat_of_lt']
  simp only [UInt32.size]
  omega

/-- The byte that was copied into a word is the one that is copied out of it. -/
lemma slice_bytes_store (x : UInt32) {src : List UInt8} (h : src.length = 1) :
    slice (bytes (store x src)) 0 1 = src := by
  obtain ⟨b, rfl⟩ := List.length_eq_one_iff.mp h
  rw [slice_bytes_one, toNat_store_singleton, ofNat_add_mul]

/-- A word below 256 is restored from its lowest byte exactly in memory that holds such a word
already. -/
lemma store_slice_eq_iff {x y : UInt32} (hy : y.toNat < 256) :
    store x (slice (bytes y) 0 1) = y ↔ x.toNat < 256 := by
  have hbyte : (UInt8.ofNat y.toNat).toNat = y.toNat := by
    rw [UInt8.toNat_ofNat']
    exact Nat.mod_eq_of_lt hy
  rw [← UInt32.toNat_inj, slice_bytes_one, toNat_store_singleton, hbyte]
  omega

end Memory
