import Mathlib.Algebra.Order.Floor.Semifield
import Mathlib.Data.Rat.Floor
import Mathlib.Tactic.Ring
import Seifenkiste.Library.Wraparound

/-!
# Time stamps

`get_timestamp` counts the milliseconds of the clock in 64 bits. A stamp in a message is a
`time_format` and keeps the lowest 32 of them, so it starts again at 0 after every 2 ^ 32
milliseconds, which is after 49.7 days.
-/

namespace Seifenkiste

/-- What `gettimeofday` delivers. -/
structure Timeval where
  tvSec : Nat
  tvUsec : Nat
  tvUsec_lt : tvUsec < 10 ^ 6
  deriving DecidableEq, Repr

namespace Timeval

instance : LE Timeval where
  le s t := s.tvSec < t.tvSec ∨ s.tvSec = t.tvSec ∧ s.tvUsec ≤ t.tvUsec

instance (s t : Timeval) : Decidable (s ≤ t) := inferInstanceAs (Decidable (_ ∨ _))

/-- The microseconds since the epoch. -/
def micros (t : Timeval) : Nat := t.tvSec * 10 ^ 6 + t.tvUsec

/-- The milliseconds since the epoch, to the nearest. -/
def millis (t : Timeval) : Nat := (t.micros + 500) / 1000

variable {s t : Timeval}

lemma le_iff_micros : s ≤ t ↔ s.micros ≤ t.micros := by
  have hs := s.tvUsec_lt
  have ht := t.tvUsec_lt
  have hle : s ≤ t ↔ s.tvSec < t.tvSec ∨ s.tvSec = t.tvSec ∧ s.tvUsec ≤ t.tvUsec := Iff.rfl
  rw [hle, micros, micros]
  omega

lemma millis_le_millis (h : s ≤ t) : s.millis ≤ t.millis :=
  Nat.div_le_div_right (Nat.add_le_add_right (le_iff_micros.mp h) _)

end Timeval

/-- The stamp of an instant, computed exactly; the conversion to `long` cuts the fraction off. -/
def getTimestamp (start : Timeval) : UInt64 :=
  let mtime := ⌊(start.tvSec * 1000 + start.tvUsec / 1000 + 1 / 2 : ℚ)⌋₊
  UInt64.ofNat mtime

lemma getTimestamp_eq (start : Timeval) : getTimestamp start = UInt64.ofNat start.millis := by
  have hquotient : (start.tvSec * 1000 + start.tvUsec / 1000 + 1 / 2 : ℚ)
      = ((start.micros + 500 : ℕ) : ℚ) / (1000 : ℕ) := by
    rw [Timeval.micros]
    push_cast
    ring
  rw [getTimestamp, hquotient, Nat.floor_div_natCast, Nat.floor_natCast, Timeval.millis]

example : getTimestamp ⟨1, 500, by decide⟩ = 1001 := by decide +kernel

/-- A stamp after its conversion to `time_format`. -/
lemma toUInt32_getTimestamp (start : Timeval) :
    (getTimestamp start).toUInt32 = UInt32.ofNat start.millis := by
  rw [getTimestamp_eq, UInt64.toUInt32_ofNat']

section Order

variable {s t : Timeval}

/-- The stamps of two instants are in order when the remainders of their milliseconds are. -/
lemma toUInt32_getTimestamp_le :
    (getTimestamp s).toUInt32 ≤ (getTimestamp t).toUInt32
      ↔ s.millis % 2 ^ 32 ≤ t.millis % 2 ^ 32 := by
  rw [toUInt32_getTimestamp, toUInt32_getTimestamp, UInt32.le_iff_toNat_le, UInt32.toNat_ofNat',
    UInt32.toNat_ofNat']

/-- They are exactly when the time between them does not wrap the first stamp around. -/
lemma toUInt32_getTimestamp_le_iff (h : s ≤ t) :
    (getTimestamp s).toUInt32 ≤ (getTimestamp t).toUInt32
      ↔ s.millis % 2 ^ 32 + (t.millis - s.millis) % 2 ^ 32 < 2 ^ 32 :=
  toUInt32_getTimestamp_le.trans
    (Wraparound.mod_le_mod_iff (Nat.two_pow_pos 32) (Timeval.millis_le_millis h))

/-- For instants less than a turn apart, this means that they lie in the same turn. -/
lemma toUInt32_getTimestamp_le_iff_of_lt (h : s ≤ t) (hnear : t.millis - s.millis < 2 ^ 32) :
    (getTimestamp s).toUInt32 ≤ (getTimestamp t).toUInt32
      ↔ s.millis / 2 ^ 32 = t.millis / 2 ^ 32 :=
  toUInt32_getTimestamp_le.trans
    (Wraparound.mod_le_mod_iff_div_eq (Timeval.millis_le_millis h) hnear)

/-- The difference of two stamps is the time between them, up to whole turns. -/
theorem toNat_sub_getTimestamp (h : s ≤ t) :
    ((getTimestamp t).toUInt32 - (getTimestamp s).toUInt32).toNat
      = (t.millis - s.millis) % 2 ^ 32 := by
  rw [toUInt32_getTimestamp, toUInt32_getTimestamp,
    ← UInt32.ofNat_sub (Timeval.millis_le_millis h), UInt32.toNat_ofNat']

end Order

end Seifenkiste
