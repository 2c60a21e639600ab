import Mathlib.Tactic.Ring
import Mathlib.Tactic.Common
/-!
# A truncated clock

True time is a natural number; a `w`-bit counter shows its low `w` bits and
starts over at every multiple of `2 ^ w`. Within one lap the readings keep the
order and the differences of true time (`reading_add_sub`); from one
lap to the next, less than a lap later, the reading goes back (`reading_lt_of_lap_lt`).
-/

namespace Clock

variable {w : Nat} {a b : Nat}

/-- What the counter shows at true time `t`. -/
def reading (w t : Nat) : BitVec w := BitVec.ofNat w t

/-- How often the counter has started over. -/
def lap (w t : Nat) : Nat := t / 2 ^ w

@[simp] theorem toNat_reading (w t : Nat) : (reading w t).toNat = t % 2 ^ w := BitVec.toNat_ofNat t w

theorem lap_add_reading (w t : Nat) : 2 ^ w * lap w t + (reading w t).toNat = t := by
  rw [toNat_reading, lap, Nat.div_add_mod]

theorem lap_mono (h : a ≤ b) : lap w a ≤ lap w b := Nat.div_le_div_right h

/-- A stretch of time within one lap stays in it. -/
theorem lap_eq_of_between {t : Nat} (hl : lap w b = lap w a) (ha : a ≤ t) (hb : t ≤ b) :
    lap w t = lap w a :=
  Nat.le_antisymm (hl ▸ lap_mono hb) (lap_mono ha)

theorem reading_add_sub (hl : lap w b = lap w a) (h : a ≤ b) :
    (reading w b).toNat = (reading w a).toNat + (b - a) := by
  have ha := lap_add_reading w a
  have hb := lap_add_reading w b
  rw [hl] at hb
  omega

/-- After the counter has started over, less than a lap later, it shows less than before. -/
theorem reading_lt_of_lap_lt (hl : lap w a < lap w b) (h : b < a + 2 ^ w) :
    (reading w b).toNat + 2 ^ w = (reading w a).toNat + (b - a) := by
  have ha := lap_add_reading w a
  have hb := lap_add_reading w b
  have hr := (reading w a).isLt
  have hq : lap w b = lap w a + 1 := by
    by_contra hne
    have : 2 ^ w * (lap w a + 2) ≤ 2 ^ w * lap w b := Nat.mul_le_mul_left _ (by omega)
    rw [Nat.mul_add] at this
    omega
  rw [hq, Nat.mul_add] at hb
  omega

/-- Readings differ by true time, modulo a lap. -/
theorem sub_reading (h : a ≤ b) : reading w b - reading w a = reading w (b - a) := by
  have : reading w b = reading w a + reading w (b - a) := by
    rw [reading, reading, reading, ← BitVec.ofNat_add]
    congr 1; omega
  rw [this, BitVec.add_comm, BitVec.add_sub_cancel]

theorem toNat_sub_reading (h : a ≤ b) (hlt : b < a + 2 ^ w) : (reading w b - reading w a).toNat = b - a := by
  rw [sub_reading h, toNat_reading, Nat.mod_eq_of_lt (by omega)]

/-- Going back, the reading differs by what is left of a lap. -/
theorem toNat_sub_reading_back (h : a < b) (hlt : b ≤ a + 2 ^ w) :
    (reading w a - reading w b).toNat = 2 ^ w - (b - a) := by
  have hlap : reading w a = reading w (a + 2 ^ w) := by
    rw [← BitVec.toNat_inj, toNat_reading, toNat_reading, Nat.add_mod_right]
  rw [hlap, sub_reading hlt, toNat_reading, Nat.mod_eq_of_lt (by omega)]
  omega

end Clock
