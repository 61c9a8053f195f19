import Mathlib.Data.Nat.ModEq

/-!
# Counters that wrap around

Of a count only the remainder modulo `m` is kept. Whether the remainders of two counts are in the
order of the counts depends on the first remainder and on what has passed between the two.
-/

namespace Wraparound

variable {m a b : Nat}

/-- The later remainder is the earlier one with what has passed, less `m` if that is too much. -/
lemma mod_eq_ite (h : a ≤ b) :
    b % m = if m ≤ a % m + (b - a) % m then a % m + (b - a) % m - m else a % m + (b - a) % m := by
  rw [← Nat.add_mod_eq_ite, Nat.add_sub_cancel' h]

/-- Two remainders are in order exactly when what has passed does not wrap the first one
around. -/
lemma mod_le_mod_iff (hm : 0 < m) (h : a ≤ b) : a % m ≤ b % m ↔ a % m + (b - a) % m < m := by
  have hpassed : (b - a) % m < m := Nat.mod_lt _ hm
  rw [mod_eq_ite h]
  split_ifs with hwrap
  · exact iff_of_false (by omega) hwrap.not_gt
  · exact iff_of_true (Nat.le_add_right _ _) (not_le.mp hwrap)

/-- A count that is less than `m` ahead of another is in the same turn or in the next one. -/
lemma div_eq_ite (h : a ≤ b) (hnear : b - a < m) :
    b / m = a / m + if m ≤ a % m + (b - a) % m then 1 else 0 := by
  have hm : 0 < m := Nat.zero_lt_of_lt hnear
  have hb : b / m = (a + (b - a)) / m := by rw [Nat.add_sub_cancel' h]
  rw [hb, Nat.add_div hm, Nat.div_eq_of_lt hnear, Nat.add_zero]

/-- The remainders of counts that are less than `m` apart are in order within a turn only. -/
lemma mod_le_mod_iff_div_eq (h : a ≤ b) (hnear : b - a < m) :
    a % m ≤ b % m ↔ a / m = b / m := by
  rw [mod_le_mod_iff (Nat.zero_lt_of_lt hnear) h, div_eq_ite h hnear]
  split_ifs with hwrap
  · exact iff_of_false hwrap.not_gt (Nat.succ_ne_self _).symm
  · exact iff_of_true (not_le.mp hwrap) rfl

/-- Within a turn the remainders are in order. -/
lemma mod_le_mod_of_div_eq (h : a ≤ b) (hturn : a / m = b / m) : a % m ≤ b % m := by
  rw [← Nat.div_add_mod a m, ← Nat.div_add_mod b m, hturn] at h
  exact Nat.le_of_add_le_add_left h

end Wraparound
