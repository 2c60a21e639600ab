import Mathlib.Tactic.Ring
import Mathlib.Tactic.Common
import Mathlib.Data.BitVec
/-!
# Serial-number arithmetic

The wrap-around order of `w`-bit counters: `c` is after `r` when the difference
`c - r`, read as a signed `w`-bit number, is positive. The order agrees with the
numeric one as long as the two counters are at most half the range apart, and
contradicts it beyond (`after_iff`). Numbers of a counter that was never reset are
`position`s, whose distance the difference gives back.
-/

namespace Serial

variable {w : Nat} {c r : BitVec w}

/-- `(intN_t)(c - r) > 0`. -/
def after (c r : BitVec w) : Bool := decide (0 < (c - r).toInt)

theorem after_iff_sub : after c r ↔ 0 < (c - r).toNat ∧ 2 * (c - r).toNat < 2 ^ w := by
  unfold after
  rw [decide_eq_true_iff, BitVec.toInt_eq_toNat_cond]
  have := (c - r).isLt
  split <;> omega

theorem sub_toNat_of_le (h : r.toNat ≤ c.toNat) : (c - r).toNat = c.toNat - r.toNat :=
  BitVec.toNat_sub_of_le h

theorem sub_toNat_of_lt (h : c.toNat < r.toNat) : (c - r).toNat = 2 ^ w - (r.toNat - c.toNat) := by
  have hc := c.isLt
  have hr := r.isLt
  rw [BitVec.toNat_sub, Nat.mod_eq_of_lt (by omega)]
  omega

/-- The serial order in plain numbers: ahead by less than half the range, or behind by more. -/
theorem after_iff : after c r ↔
    (r.toNat < c.toNat ∧ 2 * (c.toNat - r.toNat) < 2 ^ w) ∨
      (c.toNat < r.toNat ∧ 2 ^ w < 2 * (r.toNat - c.toNat)) := by
  have hc := c.isLt
  have hr := r.isLt
  rw [after_iff_sub]
  rcases Nat.lt_or_ge c.toNat r.toNat with h | h
  · rw [sub_toNat_of_lt h]; omega
  · rw [sub_toNat_of_le h]; omega

/-- The number at position `k` of a counter that starts at `s`. -/
def position (s : BitVec w) (k : Nat) : BitVec w := s + BitVec.ofNat w k

theorem position_succ (s : BitVec w) (k : Nat) : position s (k + 1) = position s k + 1 := by
  unfold position
  rw [BitVec.ofNat_add, ← add_assoc]
  rfl

theorem position_sub (s : BitVec w) {j k : Nat} (h : k ≤ j) (hw : j - k < 2 ^ w) :
    (position s j - position s k).toNat = j - k := by
  have hj : position s j - position s k = BitVec.ofNat w (j - k) := by
    unfold position
    rw [add_sub_add_left_eq_sub, sub_eq_iff_eq_add, ← BitVec.ofNat_add, Nat.sub_add_cancel h]
  rw [hj, BitVec.toNat_ofNat, Nat.mod_eq_of_lt hw]

theorem position_sub_of_lt (s : BitVec w) {j k : Nat} (h : j < k) (hw : k - j < 2 ^ w) :
    (position s j - position s k).toNat = 2 ^ w - (k - j) := by
  have hneg : position s j - position s k = - (position s k - position s j) := (neg_sub _ _).symm
  rw [hneg, BitVec.toNat_neg, position_sub s h.le hw, Nat.mod_eq_of_lt (by omega)]

/-- Positions less than half the range apart differ by their distance. -/
theorem toInt_position_sub (s : BitVec w) {j k : Nat} (hj : 2 * j < 2 * k + 2 ^ w) (hk : 2 * k < 2 * j + 2 ^ w) :
    (position s j - position s k).toInt = (j : Int) - k := by
  rw [BitVec.toInt_eq_toNat_cond]
  rcases Nat.lt_or_ge j k with h | h
  · rw [position_sub_of_lt s h (by omega), if_neg (by omega)]
    omega
  · rw [position_sub s h (by omega), if_pos (by omega)]
    omega

end Serial
