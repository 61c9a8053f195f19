import Mathlib.Algebra.Order.Ring.Nat
import Mathlib.Tactic.Ring

/-!
# Little-endian images of numbers

A number laid out in `w` bytes, least significant byte first, and the number that `w` bytes
hold. The two maps undo each other; they are specialised to 32-bit words at the end.
-/

namespace LittleEndian

/-- The `w` lowest bytes of `n`, least significant first. -/
def encode : Nat → Nat → List UInt8
  | 0, _     => []
  | w + 1, n => UInt8.ofNat n :: encode w (n / 256)

/-- The number held by a list of bytes, least significant first. -/
def decode : List UInt8 → Nat
  | []      => 0
  | b :: bs => b.toNat + 256 * decode bs

@[simp] lemma length_encode (w n : Nat) : (encode w n).length = w := by
  induction w generalizing n with
  | zero => rfl
  | succ w ih => simp [encode, ih]

lemma decode_lt (bs : List UInt8) : decode bs < 256 ^ bs.length := by
  induction bs with
  | nil => simp [decode]
  | cons b bs ih =>
    have hb : b.toNat < 256 := b.toNat_lt
    rw [decode, List.length_cons, Nat.pow_succ]
    omega

lemma decode_encode {w n : Nat} (h : n < 256 ^ w) : decode (encode w n) = n := by
  induction w generalizing n with
  | zero => simp_all [encode, decode]
  | succ w ih =>
    have hdiv : n / 256 < 256 ^ w := by
      rw [Nat.div_lt_iff_lt_mul (by decide), ← Nat.pow_succ]
      exact h
    rw [encode, decode, ih hdiv, UInt8.toNat_ofNat']
    exact Nat.mod_add_div n 256

/-- The lowest byte of a number with a given lowest byte. -/
lemma ofNat_add_mul (b : UInt8) (n : Nat) : UInt8.ofNat (b.toNat + 256 * n) = b := by
  have hb : b.toNat < 256 := b.toNat_lt
  apply UInt8.toNat_inj.mp
  rw [UInt8.toNat_ofNat']
  omega

lemma encode_decode (bs : List UInt8) : encode bs.length (decode bs) = bs := by
  induction bs with
  | nil => rfl
  | cons b bs ih =>
    have hb : b.toNat < 256 := b.toNat_lt
    have hdiv : (b.toNat + 256 * decode bs) / 256 = decode bs := by omega
    rw [List.length_cons, decode, encode, hdiv, ih, ofNat_add_mul]

/-! ### Words of 32 bits -/

/-- The four bytes of a 32-bit word as they lie in memory. -/
def bytes (x : UInt32) : List UInt8 := encode 4 x.toNat

/-- The 32-bit word that four bytes of memory hold. -/
def word (bs : List UInt8) : UInt32 := UInt32.ofNat (decode bs)

@[simp] lemma length_bytes (x : UInt32) : (bytes x).length = 4 := length_encode 4 _

@[simp] lemma word_bytes (x : UInt32) : word (bytes x) = x := by
  have hx : x.toNat < 256 ^ 4 := x.toNat_lt
  rw [word, bytes, decode_encode hx, UInt32.ofNat_toNat]

lemma bytes_word {bs : List UInt8} (h : bs.length = 4) : bytes (word bs) = bs := by
  have hlt : decode bs < 2 ^ 32 := by simpa [h] using decode_lt bs
  have hnat : (word bs).toNat = decode bs := UInt32.toNat_ofNat_of_lt' hlt
  rw [bytes, hnat, ← h, encode_decode]

lemma bytes_injective : Function.Injective bytes :=
  Function.LeftInverse.injective word_bytes

end LittleEndian
