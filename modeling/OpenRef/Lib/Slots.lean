import Mathlib.Tactic.LinearCombination
import Mathlib.Tactic.Ring
/-!
# Slots of a frame

Time is cut into frames of one period, and a place of the frame has one slot in each. `Slots.next` is the first
slot of a place from a time on. The slots of two places keep a distance from one another exactly when the places
keep it on both sides of the frame (`apart_iff`).
-/

namespace Slots

/-- Two intervals of one width, given by their starts, do not overlap. -/
def Apart (width a b : ℤ) : Prop := a + width ≤ b ∨ b + width ≤ a

instance decidableApart (width a b : ℤ) : Decidable (Apart width a b) :=
  inferInstanceAs (Decidable (_ ∨ _))

/-- A slot of a place starts here. -/
def At (period place start : ℤ) : Prop := ∃ frame : ℤ, start = place + frame * period

theorem At.sub {period place start : ℤ} (h : At period place start) (offset : ℤ) :
    At period (place - offset) (start - offset) := by
  obtain ⟨frame, rfl⟩ := h
  exact ⟨frame, by ring⟩

theorem At.next {period place start : ℤ} (h : At period place start) : At period place (start + period) := by
  obtain ⟨frame, rfl⟩ := h
  exact ⟨frame + 1, by ring⟩

/-- **Two places keep their distance** in every pair of frames exactly when they keep it within one. -/
theorem apart_iff {period width x y : ℤ} (hp : 0 < period) (hw : 0 < width) :
    (∀ a b, At period x a → At period y b → Apart width a b) ↔
      width ≤ (x - y) % period ∧ (x - y) % period ≤ period - width := by
  have hdiv : (x - y) % period + (x - y) / period * period = x - y := Int.emod_add_ediv_mul _ _
  have hpos := Int.emod_nonneg (x - y) hp.ne'
  have hlt := Int.emod_lt_of_pos (x - y) hp
  constructor
  · intro h
    -- the slot of `x` next after, and next before, one of `y`
    have hafter := h (x - (x - y) / period * period) y ⟨-((x - y) / period), by ring⟩ ⟨0, by ring⟩
    have hbefore := h (x - (x - y) / period * period - period) y ⟨-((x - y) / period) - 1, by ring⟩ ⟨0, by ring⟩
    rcases hafter with ha | ha <;> rcases hbefore with hb | hb <;> constructor <;> omega
  · rintro ⟨hlow, hhigh⟩ a b ⟨k, rfl⟩ ⟨l, rfl⟩
    have hsub : x + k * period - (y + l * period) = (x - y) % period + ((x - y) / period + k - l) * period := by
      linear_combination -hdiv
    rcases lt_or_ge ((x - y) / period + k - l) 0 with hneg | hnonneg
    · have hle : ((x - y) / period + k - l) * period ≤ -1 * period :=
        Int.mul_le_mul_of_nonneg_right (by omega) hp.le
      exact .inl (by omega)
    · have hle : 0 ≤ ((x - y) / period + k - l) * period := Int.mul_nonneg hnonneg hp.le
      exact .inr (by omega)

/-- The first slot from a time on, of the slots that start at `first` and every period after. -/
def next (first period notBefore : Nat) : Nat :=
  if first < notBefore then first + (notBefore - first + period - 1) / period * period else first

theorem next_at (first period notBefore : Nat) : At period first (next first period notBefore) := by
  unfold next
  split
  · exact ⟨((notBefore - first + period - 1) / period : Nat), by push_cast; rfl⟩
  · exact ⟨0, by ring⟩

theorem le_next (first period notBefore : Nat) : first ≤ next first period notBefore := by
  unfold next
  split
  · exact Nat.le_add_right _ _
  · exact Nat.le_refl _

theorem notBefore_le_next {period : Nat} (hp : 0 < period) (first notBefore : Nat) :
    notBefore ≤ next first period notBefore := by
  unfold next
  split
  · have hround := Nat.lt_div_mul_add (a := notBefore - first + period - 1) hp
    omega
  · omega

/-- No slot of the place from `first` on, at or after the time, comes before `next`. -/
theorem next_le {first period notBefore start : Nat} (hp : 0 < period) (hat : At period first start)
    (hfirst : first ≤ start) (hstart : notBefore ≤ start) : next first period notBefore ≤ start := by
  obtain ⟨frame, hframe⟩ := hat
  have hnonneg : 0 ≤ frame := by
    by_contra hneg
    have hle : frame * period ≤ -1 * period := Int.mul_le_mul_of_nonneg_right (by omega) (by omega)
    omega
  obtain ⟨k, rfl⟩ := Int.eq_ofNat_of_zero_le hnonneg
  have hk : start = first + k * period := by exact_mod_cast hframe
  unfold next
  split
  · have hdiv : (notBefore - first + period - 1) / period ≤ k := by
      rw [← Nat.lt_succ_iff, Nat.div_lt_iff_lt_mul hp, Nat.succ_mul]
      omega
    have hmul := Nat.mul_le_mul_right period hdiv
    omega
  · exact hfirst

/-- On fixed-width times, where the last one and a period do not overflow. -/
theorem toNat_next {w : Nat} {first period notBefore : BitVec w}
    (hfit : notBefore.toNat + period.toNat < 2 ^ w) :
    (if first < notBefore then first + (notBefore - first + period - 1) / period * period else first).toNat =
      next first.toNat period.toNat notBefore.toNat := by
  unfold next
  by_cases hlt : first < notBefore
  · have hnat := BitVec.lt_def.1 hlt
    have hone : (1 : BitVec w).toNat = 1 := (BitVec.toNat_ofNat 1 w).trans (Nat.mod_eq_of_lt (by omega))
    have hsub : (notBefore - first).toNat = notBefore.toNat - first.toNat :=
      BitVec.toNat_sub_of_le (BitVec.le_def.2 (by omega))
    have hadd : (notBefore - first + period).toNat = notBefore.toNat - first.toNat + period.toNat := by
      rw [BitVec.toNat_add, hsub, Nat.mod_eq_of_lt (by omega)]
    have hround : (notBefore - first + period - 1).toNat = notBefore.toNat - first.toNat + period.toNat - 1 := by
      rw [BitVec.toNat_sub_of_le (by rw [BitVec.le_def, hone]; omega), hadd, hone]
    have hmul := Nat.div_mul_le_self (notBefore.toNat - first.toNat + period.toNat - 1) period.toNat
    have hsteps : ((notBefore - first + period - 1) / period * period).toNat =
        (notBefore.toNat - first.toNat + period.toNat - 1) / period.toNat * period.toNat := by
      rw [BitVec.toNat_mul, BitVec.toNat_udiv, hround, Nat.mod_eq_of_lt (by omega)]
    rw [if_pos hlt, if_pos hnat, BitVec.toNat_add, hsteps, Nat.mod_eq_of_lt (by omega)]
  · rw [if_neg hlt, if_neg (mt BitVec.lt_def.2 hlt)]

end Slots
