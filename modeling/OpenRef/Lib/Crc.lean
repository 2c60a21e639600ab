import Mathlib.Data.List.Induction
import OpenRef.Lib.XorSum
/-!
# Cyclic redundancy checks

A register of `w` bits stands for a polynomial over the field with two elements, of a degree below
`w`; `step` multiplies it by `x` modulo `x ^ w + poly`. The register after a byte string, the most
significant bit of each byte first, is a sum of powers of `x`, one for each bit that is set
(`foldl_byteStep`): so two strings have one remainder exactly when the powers at their differing bits
add up to zero.

What that says of errors is a fact about powers: they differ below the order of `x` (`power_ne`), and
an odd number of them does not vanish when `x + 1` divides the polynomial (`parity_sum_power`).
-/

namespace Crc

open XorSum

variable {w : Nat} (poly : BitVec w)

theorem getLsbD_shiftLeft_succ (c : BitVec w) {i : Nat} (h : i + 1 < w) : (c <<< 1).getLsbD (i + 1) = c.getLsbD i := by
  rw [BitVec.getLsbD_shiftLeft, decide_eq_true h, Nat.add_sub_cancel]
  rfl

/-- Multiplication by `x`. -/
def step (c : BitVec w) : BitVec w := if c.msb then (c <<< 1) ^^^ poly else c <<< 1

theorem step_linear : Linear (step poly) := by
  intro a b
  unfold step
  rw [BitVec.msb_xor, BitVec.shiftLeft_xor_distrib]
  cases a.msb <;> cases b.msb <;> simp only [Bool.xor_self, Bool.xor_false, Bool.false_xor, if_true, if_false,
    Bool.false_eq_true]
  · ac_rfl
  · ac_rfl
  · -- the polynomial comes in twice
    rw [BitVec.xor_assoc, BitVec.xor_comm poly, BitVec.xor_assoc, BitVec.xor_self, BitVec.xor_zero]

/-- With a constant term, nothing but zero is sent to zero. -/
theorem eq_zero_of_step {c : BitVec w} (h0 : poly.getLsbD 0 = true) (h : step poly c = 0#w) : c = 0#w := by
  unfold step at h
  cases hm : c.msb with
  | true =>
    rw [hm, if_pos rfl] at h
    have hbit := congrArg (fun v => v.getLsbD 0) h
    simp [h0] at hbit
  | false =>
    rw [hm, if_neg Bool.false_ne_true] at h
    refine BitVec.eq_of_getLsbD_eq fun i hi => ?_
    rw [BitVec.getLsbD_zero]
    rcases Nat.lt_or_ge (i + 1) w with hlt | hge
    · have hbit := congrArg (fun v => v.getLsbD (i + 1)) h
      rwa [getLsbD_shiftLeft_succ c hlt, BitVec.getLsbD_zero] at hbit
    · rw [BitVec.msb_eq_getLsbD_last, show w - 1 = i by omega] at hm
      exact hm

theorem step_injective (h0 : poly.getLsbD 0 = true) : Function.Injective (step poly) :=
  (step_linear poly).injective fun _ => eq_zero_of_step poly h0

/-! ## Powers of x -/

/-- `x ^ k`. -/
def power (k : Nat) : BitVec w := (step poly)^[k] 1#w

theorem power_add (m n : Nat) : power poly (m + n) = (step poly)^[m] (power poly n) :=
  Function.iterate_add_apply _ m n _

theorem power_succ (k : Nat) : power poly (k + 1) = step poly (power poly k) :=
  Function.iterate_succ_apply' _ k _

/-- Below the degree a power is one bit. -/
theorem power_of_lt {k : Nat} (h : k < w) : power poly k = 1#w <<< k := by
  induction k with
  | zero => exact (BitVec.shiftLeft_zero _).symm
  | succ k ih =>
    have hmsb : (1#w <<< k).msb = false := by
      rw [BitVec.msb_eq_getLsbD_last, BitVec.getLsbD_shiftLeft, BitVec.getLsbD_one]
      have : w - 1 - k ≠ 0 := by omega
      simp [this]
    rw [power_succ, ih (by omega), step, hmsb, if_neg Bool.false_ne_true, ← BitVec.shiftLeft_add]

/-- The register does not come back to one within `n` more steps. -/
def noReturn : Nat → BitVec w → Bool
  | 0, _ => true
  | n + 1, c => c ≠ 1#w && noReturn n (step poly c)

theorem noReturn_spec : ∀ {n k : Nat}, noReturn poly n (power poly k) = true →
    ∀ d, k ≤ d → d < k + n → power poly d ≠ 1#w
  | 0, _, _, d, hk, hd => absurd hd (by omega)
  | n + 1, k, h, d, hk, hd => by
    rw [noReturn, Bool.and_eq_true, decide_eq_true_eq, ← power_succ] at h
    rcases Nat.eq_or_lt_of_le hk with rfl | hlt
    · exact h.1
    · exact noReturn_spec h.2 d hlt (by omega)

/-- Two powers less than the order of `x` apart differ. -/
theorem power_ne (h0 : poly.getLsbD 0 = true) {n : Nat} (horder : noReturn poly n (power poly 1) = true) {i j : Nat}
    (hij : i < j) (hn : j ≤ i + n) : power poly i ≠ power poly j := by
  intro h
  obtain ⟨d, rfl⟩ := Nat.exists_eq_add_of_lt hij
  have hreturn : power poly 0 = power poly (d + 1) := by
    refine (step_injective poly h0).iterate i ?_
    rw [← power_add, ← power_add]
    exact h
  exact noReturn_spec poly horder (d + 1) (by omega) (by omega) hreturn.symm

/-! ## Parity -/

/-- The number of bits that are set, modulo two: the value of the polynomial at one. -/
def parity (c : BitVec w) : BitVec 1 := sum (fun i => bit i c) (List.range w)

theorem parity_linear : Linear (parity (w := w)) := by
  intro a b
  unfold parity
  rw [← sum_xor]
  exact sum_congr fun i _ => bit_linear i a b

theorem parity_shiftLeft (c : BitVec w) : parity (c <<< 1) = parity c ^^^ BitVec.ofBool c.msb := by
  cases w with
  | zero => rw [BitVec.eq_nil c]; rfl
  | succ n =>
    have hlow : parity (c <<< 1) = sum (fun i => bit i c) (List.range n) := by
      unfold parity
      rw [List.range_succ_eq_map, sum_cons, sum_map]
      have hzero : bit 0 (c <<< 1) = 0#1 := by simp [bit]
      rw [hzero, BitVec.zero_xor]
      refine sum_congr fun i hi => ?_
      have hlt := List.mem_range.1 hi
      exact congrArg BitVec.ofBool (getLsbD_shiftLeft_succ c (by omega))
    have hall : parity c = sum (fun i => bit i c) (List.range n) ^^^ BitVec.ofBool c.msb := by
      unfold parity
      rw [List.range_succ, sum_append, sum_cons, sum_nil, BitVec.xor_zero, BitVec.msb_eq_getLsbD_last,
        Nat.add_sub_cancel, bit]
    rw [hlow, hall, BitVec.xor_assoc, BitVec.xor_self, BitVec.xor_zero]

/-- Where `x + 1` divides `x ^ w + poly`, multiplying by `x` keeps the parity. -/
theorem parity_step (hodd : parity poly = 1#1) (c : BitVec w) : parity (step poly c) = parity c := by
  unfold step
  cases hm : c.msb with
  | true =>
    rw [if_pos rfl, parity_linear, parity_shiftLeft, hm, hodd, BitVec.xor_assoc]
    exact BitVec.xor_zero
  | false =>
    rw [if_neg Bool.false_ne_true, parity_shiftLeft, hm]
    exact BitVec.xor_zero

theorem parity_power (hodd : parity poly = 1#1) (hone : parity 1#w = 1#1) (k : Nat) : parity (power poly k) = 1#1 := by
  induction k with
  | zero => exact hone
  | succ k ih => rw [power_succ, parity_step poly hodd, ih]

/-- A sum of an odd number of powers is odd. -/
theorem parity_sum_power (hodd : parity poly = 1#1) (hone : parity 1#w = 1#1) {ι : Type*} (f : ι → Nat) (l : List ι) :
    parity (sum (fun i => power poly (f i)) l) = BitVec.ofNat 1 l.length := by
  rw [parity_linear.sum]
  induction l with
  | nil => rfl
  | cons i l ih =>
    rw [sum_cons, ih, parity_power poly hodd hone, List.length_cons, BitVec.ofNat_add]
    generalize BitVec.ofNat 1 l.length = n
    revert n
    decide

/-! ## Bytes -/

/-- Bit `p` of a byte string, the most significant bit of each byte first. -/
def bitAt (bytes : List (BitVec 8)) (p : Nat) : Bool := (bytes.getD (p / 8) 0#8).getMsbD (p % 8)

/-- The register after one more byte. -/
def byteStep (c : BitVec w) (b : BitVec 8) : BitVec w := (step poly)^[8] (c ^^^ b.setWidth w <<< (w - 8))

theorem bit_shiftLeft_one {k j : Nat} (hk : k < w) : bit j (1#w <<< k) = if j = k then 1#1 else 0#1 := by
  have hbit : (1#w <<< k).getLsbD j = decide (j = k) := by
    rw [← BitVec.twoPow_eq, BitVec.getLsbD_twoPow, decide_eq_true hk, Bool.true_and]
    exact decide_eq_decide.2 eq_comm
  unfold bit
  rw [hbit]
  by_cases he : j = k
  · rw [decide_eq_true he, if_pos he]
    rfl
  · rw [decide_eq_false he, if_neg he]
    rfl

/-- A byte inside a register is the sum of its bits. -/
theorem setWidth_shiftLeft_eq_sum (b : BitVec 8) {s : Nat} (hs : s + 8 ≤ w) :
    b.setWidth w <<< s = sum (fun k => if b.getMsbD k then 1#w <<< (s + 7 - k) else 0#w) (List.range 8) := by
  refine eq_of_bit fun j hj => ?_
  rw [(bit_linear j).sum]
  by_cases hin : s ≤ j ∧ j < s + 8
  · have hone : ∀ k ∈ List.range 8, bit j (if b.getMsbD k then 1#w <<< (s + 7 - k) else 0#w) =
        if k = s + 7 - j then BitVec.ofBool (b.getMsbD k) else 0#1 := by
      intro k hk
      have hk8 := List.mem_range.1 hk
      have heq : j = s + 7 - k ↔ k = s + 7 - j := by omega
      cases hb : b.getMsbD k with
      | true => rw [if_pos rfl, bit_shiftLeft_one (by omega), if_congr heq rfl rfl]; rfl
      | false => rw [if_neg Bool.false_ne_true, (bit_linear j).zero]; exact (ite_self _).symm
    rw [sum_congr hone, sum_ite_eq (fun k => BitVec.ofBool (b.getMsbD k)), if_pos (by omega), bit,
      BitVec.getLsbD_shiftLeft, BitVec.getLsbD_setWidth, BitVec.getMsbD_eq_getLsbD]
    have hindex : 8 - 1 - (s + 7 - j) = j - s := by omega
    rw [hindex]
    simp [hj, show ¬ j < s by omega, show j - s < w by omega, show s + 7 - j < 8 by omega]
  · have hnone : ∀ k ∈ List.range 8, bit j (if b.getMsbD k then 1#w <<< (s + 7 - k) else 0#w) =
        if k = 8 then 0#1 else 0#1 := by
      intro k hk
      have hk8 := List.mem_range.1 hk
      rw [ite_self]
      split
      · rw [bit_shiftLeft_one (by omega), if_neg (by omega)]
      · exact (bit_linear j).zero
    rw [sum_congr hnone, sum_ite_eq (fun _ => 0#1), ite_self, bit, BitVec.getLsbD_shiftLeft, BitVec.getLsbD_setWidth]
    rcases Nat.lt_or_ge j s with hlt | hge
    · simp [hlt]
    · rw [BitVec.getLsbD_of_ge b (j - s) (by omega)]
      simp

/-- **The register is a sum of powers**: of what it held before, moved up, and of one power for each bit. -/
theorem foldl_byteStep (hw : 8 ≤ w) (c : BitVec w) (bytes : List (BitVec 8)) :
    bytes.foldl (byteStep poly) c = (step poly)^[8 * bytes.length] c ^^^
      sum (fun p => if bitAt bytes p then power poly (w + 8 * bytes.length - 1 - p) else 0#w)
        (List.range (8 * bytes.length)) := by
  induction bytes using List.reverseRecOn with
  | nil => exact (BitVec.xor_zero).symm
  | append_singleton bytes b ih =>
    have hlen : 8 * (bytes ++ [b]).length = 8 + 8 * bytes.length := by
      rw [List.length_append, List.length_singleton]
      omega
    have hlinear := (step_linear poly).iterate 8
    -- the bits before the byte move up by eight, those of the byte come in below the top
    have hearlier : ∀ p ∈ List.range (8 * bytes.length),
        (step poly)^[8] (if bitAt bytes p then power poly (w + 8 * bytes.length - 1 - p) else 0#w) =
          if bitAt (bytes ++ [b]) p then power poly (w + (8 + 8 * bytes.length) - 1 - p) else 0#w := by
      intro p hp
      have hlt := List.mem_range.1 hp
      have hbit : bitAt (bytes ++ [b]) p = bitAt bytes p := by
        unfold bitAt
        rw [List.getD_eq_getElem?_getD, List.getElem?_append_left (by omega), ← List.getD_eq_getElem?_getD]
      rw [hbit]
      split
      · rw [← power_add]
        congr 1
        omega
      · exact hlinear.zero
    have hbyte : ∀ k ∈ List.range 8,
        (step poly)^[8] (if b.getMsbD k then 1#w <<< (w - 8 + 7 - k) else 0#w) =
          if bitAt (bytes ++ [b]) (8 * bytes.length + k) then
            power poly (w + (8 + 8 * bytes.length) - 1 - (8 * bytes.length + k)) else 0#w := by
      intro k hk
      have hk8 := List.mem_range.1 hk
      have hbit : bitAt (bytes ++ [b]) (8 * bytes.length + k) = b.getMsbD k := by
        unfold bitAt
        rw [show (8 * bytes.length + k) / 8 = bytes.length by omega, show (8 * bytes.length + k) % 8 = k by omega]
        simp
      rw [hbit]
      split
      · rw [← power_of_lt poly (by omega), ← power_add]
        congr 1
        omega
      · exact hlinear.zero
    rw [List.foldl_append, List.foldl_cons, List.foldl_nil, ih, byteStep, hlinear, hlinear, hlinear.sum,
      setWidth_shiftLeft_eq_sum b (by omega), hlinear.sum, sum_congr hearlier, sum_congr hbyte,
      ← Function.iterate_add_apply, hlen, Nat.add_comm 8 (8 * bytes.length), List.range_add, sum_append, sum_map,
      BitVec.xor_assoc]

end Crc
