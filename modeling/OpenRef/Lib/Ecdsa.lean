import Mathlib.Algebra.Field.ZMod
import Mathlib.GroupTheory.OrderOfElement
import Mathlib.Tactic.LinearCombination
/-!
# ECDSA in a group of prime order

`G` is a point with `n • G = 0` for a prime `n`. Multiples of `G` depend on residues only
(`zsmul_congr`), and the point that a verifier computes from a signature is the signer's nonce
point, or its opposite where the signature was negated (`verifier_point`).
-/

namespace Ecdsa

variable {A : Type*} [AddCommGroup A] {n : ℕ} {G : A}

theorem zsmul_congr (hG : n • G = 0) {i j : ℤ} (h : (i : ZMod n) = j) : i • G = j • G := by
  obtain ⟨c, hc⟩ := (ZMod.intCast_eq_intCast_iff_dvd_sub i j n).1 h
  have hzero : (j - i) • G = 0 := by rw [hc, mul_comm, mul_smul, natCast_zsmul, hG, smul_zero]
  rw [sub_smul, sub_eq_zero] at hzero
  exact hzero.symm

/-- A multiple that does not reach the order is not zero. -/
theorem nsmul_ne_zero [Fact n.Prime] (hG : n • G = 0) (hne : G ≠ 0) {k : ℕ} (hpos : 0 < k) (hlt : k < n) : k • G ≠ 0 := by
  intro hk
  have horder : addOrderOf G = n := addOrderOf_eq_prime hG hne
  have hdvd := addOrderOf_dvd_of_nsmul_eq_zero hk
  rw [horder] at hdvd
  exact absurd (Nat.le_of_dvd hpos hdvd) (Nat.not_le.2 hlt)

/-- **The verifier's point.** `s` is `(z + r * d) / k` or its opposite, and `w` its inverse. -/
theorem verifier_point (hG : n • G = 0) {d k z r s w : ℤ} (hw : (w : ZMod n) * s = 1)
    (hs : (s : ZMod n) * k = z + r * d ∨ (s : ZMod n) * k = -(z + r * d)) :
    (z * w) • G + (r * w) • d • G = k • G ∨ (z * w) • G + (r * w) • d • G = -(k • G) := by
  have hsum : (z * w) • G + (r * w) • d • G = (z * w + r * w * d) • G := by rw [smul_smul, add_smul]
  rw [hsum]
  rcases hs with hs | hs
  · left
    refine zsmul_congr hG ?_
    push_cast
    linear_combination (k : ZMod n) * hw - w * hs
  · right
    rw [← neg_smul]
    refine zsmul_congr hG ?_
    push_cast
    linear_combination -(k : ZMod n) * hw + w * hs

end Ecdsa
