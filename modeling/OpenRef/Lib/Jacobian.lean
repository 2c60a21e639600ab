import Mathlib.AlgebraicGeometry.EllipticCurve.Jacobian.Point
import OpenRef.Lib.ShortCurve
/-!
# Multiples of a point without inverses

A multiple by chord and tangent takes a modular inverse at every step, which is slow to evaluate. A triple `(x, y, z)` of
Jacobian coordinates stands for the point `(x / z ^ 2, y / z ^ 3)`, and doubling it or adding the base point to it takes
products only. `multiple` is double-and-add on triples, from the high bit, and stands for the multiple in the group
(`multiple_stands`); so `mul` can be checked against a result that is known (`mul_of_isMultiple`, `nsmul_of_isZero`).
-/

namespace ShortCurve

open WeierstrassCurve WeierstrassCurve.Jacobian

/-- Jacobian coordinates. -/
structure Triple where
  x : ℤ
  y : ℤ
  z : ℤ

section Arithmetic

variable (p : ℕ) (a b : ℤ)

/-- The triple of the doubled point. -/
def Triple.double : Triple → Triple
  | ⟨x, y, z⟩ =>
    let u := -(3 * (x * x) + a * (z * z * (z * z))) % p
    let v := 2 * y % p
    let w := v * v % p
    let x' := (u * u - 2 * x * w) % p
    ⟨x', (u * (x' - x * w) - y * (w * v)) % p, z * v % p⟩

/-- The triple of the point with the base point added. -/
def Triple.addBase (x₀ y₀ : ℤ) : Triple → Triple
  | ⟨x, y, z⟩ =>
    let z2 := z * z % p
    let z3 := z2 * z % p
    let z4 := z2 * z2 % p
    ⟨(x * (x₀ * x₀) * z2 - 2 * (y * y₀ * z) + x * x * x₀ + a * x₀ * z4 + a * x * z2 + 2 * b * z4) % p,
      (y * (x₀ * x₀ * x₀) * z3 - 2 * (y * (y₀ * y₀) * z3) + 3 * (x * x * x₀ * y₀ * z2) - 3 * (x * y * (x₀ * x₀) * z) -
        x * x * x * y₀ + 2 * (y * y * y₀) + a * x₀ * y₀ * (z2 * z4) + a * x * y₀ * z4 - a * y * x₀ * z3 - a * x * y * z +
        2 * b * y₀ * (z2 * z4) - 2 * b * y * z3) % p, (x - x₀ * z2) % p⟩

/-- Whether the triple stands for the base point. -/
def Triple.isBase (x₀ y₀ : ℤ) : Triple → Bool
  | ⟨x, y, z⟩ => (x - x₀ * (z * z)) % p = 0 && (y - y₀ * (z * z * z)) % p = 0

/-- Double-and-add, from the high bit; `turns` bounds the bits. -/
def multiple (x₀ y₀ : ℤ) : ℕ → ℕ → Option Triple
  | 0, k => if k = 0 then some ⟨1, 1, 0⟩ else none
  | turns + 1, k =>
    if k = 0 then some ⟨1, 1, 0⟩
    else if k = 1 then some ⟨x₀, y₀, 1⟩
    else
      (multiple x₀ y₀ turns (k / 2)).bind fun t =>
        let t := t.double p a
        if k % 2 = 0 then some t
        else if t.isBase p x₀ y₀ then none
        else some (t.addBase p a b x₀ y₀)

/-- Whether the multiple is infinity. -/
def isZero (base : ℤ × ℤ) (turns k : ℕ) : Bool :=
  match multiple p a b base.1 base.2 turns k with
  | none => false
  | some t => t.z % p = 0

/-- Whether the multiple is this point. -/
def isMultiple (base : ℤ × ℤ) (turns k : ℕ) (x y : ℤ) : Bool :=
  match multiple p a b base.1 base.2 turns k with
  | none => false
  | some t => t.z % p ≠ 0 && t.isBase p x y

end Arithmetic

/-! ## The group -/

variable {p : ℕ} [Fact p.Prime] {a b : ℤ}

/-- The triple over the field. -/
def Triple.vec (p : ℕ) (t : Triple) : Fin 3 → ZMod p := ![t.x, t.y, t.z]

/-- The triple stands for the point. -/
structure Represents (b : ℤ) (t : Triple) (P : (curve p a b).Point) : Prop where
  nonsingular : (curve p a b).toJacobian.Nonsingular (t.vec p)
  point : Point.toAffine (curve p a b).toJacobian (t.vec p) = P

theorem double_vec (b : ℤ) (t : Triple) : (t.double p a).vec p = (curve p a b).toJacobian.dblXYZ (t.vec p) := by
  obtain ⟨x, y, z⟩ := t
  have hX : (curve p a b).toJacobian.dblX ![(x : ZMod p), y, z] =
      (3 * x ^ 2 + a * z ^ 4) ^ 2 - 2 * x * (2 * y) ^ 2 := by
    rw [dblX, dblU_eq]
    simp only [negY, fin3_def_ext, curve]
    ring
  unfold Triple.double Triple.vec
  rw [dblXYZ, dblY, negDblY, dblZ, hX]
  simp only [dblU_eq, negY, fin3_def_ext, curve]
  congr 1
  · push_cast [cast_emod]
    ring
  congr 1
  · push_cast [cast_emod]
    ring
  congr 1
  · push_cast [cast_emod]
    ring

theorem addBase_vec (x₀ y₀ : ℤ) (t : Triple) :
    (t.addBase p a b x₀ y₀).vec p = (curve p a b).toJacobian.addXYZ (t.vec p) ![x₀, y₀, 1] := by
  obtain ⟨x, y, z⟩ := t
  unfold Triple.addBase Triple.vec
  rw [addXYZ, addX, addY, negAddY, addZ]
  simp only [negY, fin3_def_ext, curve]
  congr 1
  · push_cast [cast_emod]
    ring
  congr 1
  · push_cast [cast_emod]
    ring
  congr 1
  · push_cast [cast_emod]
    ring

theorem isBase_iff (x₀ y₀ : ℤ) (t : Triple) :
    t.isBase p x₀ y₀ = true ↔ (t.x : ZMod p) = x₀ * t.z ^ 2 ∧ (t.y : ZMod p) = y₀ * t.z ^ 3 := by
  obtain ⟨x, y, z⟩ := t
  unfold Triple.isBase
  rw [Bool.and_eq_true, decide_eq_true_eq, decide_eq_true_eq, emod_eq_zero, emod_eq_zero]
  push_cast
  rw [sub_eq_zero, sub_eq_zero, sq, pow_succ, sq]

theorem Represents.infinity : Represents (p := p) (a := a) b ⟨1, 1, 0⟩ 0 := by
  have hvec : Triple.vec p ⟨1, 1, 0⟩ = ![1, 1, 0] := by simp [Triple.vec]
  refine ⟨?_, ?_⟩
  · rw [hvec]
    exact nonsingular_zero
  · rw [hvec]
    exact Point.toAffine_zero

theorem Represents.double {t : Triple} {P : (curve p a b).Point} (h : Represents b t P) :
    Represents b (t.double p a) (P + P) := by
  refine ⟨?_, ?_⟩
  · rw [double_vec b, ← add_self]
    exact nonsingular_add h.nonsingular h.nonsingular
  · rw [double_vec b, ← add_self, Point.toAffine_add h.nonsingular h.nonsingular, h.point]

section Base

variable {x₀ y₀ : ℤ} (h₀ : (curve p a b).Nonsingular (x₀ : ZMod p) (y₀ : ZMod p))

theorem Represents.base : Represents b ⟨x₀, y₀, 1⟩ (.some _ _ h₀) := by
  have hvec : Triple.vec p ⟨x₀, y₀, 1⟩ = ![(x₀ : ZMod p), y₀, 1] := by simp [Triple.vec]
  refine ⟨?_, ?_⟩
  · rw [hvec]
    exact (nonsingular_some _ _).2 h₀
  · rw [hvec]
    exact Point.toAffine_some ((nonsingular_some _ _).2 h₀)

theorem Represents.addBase {t : Triple} {P : (curve p a b).Point} (h : Represents b t P) (hne : ¬ t.isBase p x₀ y₀ = true) :
    Represents b (t.addBase p a b x₀ y₀) (P + .some _ _ h₀) := by
  have hbase : (curve p a b).toJacobian.Nonsingular ![(x₀ : ZMod p), y₀, 1] := (nonsingular_some _ _).2 h₀
  have hapart : ¬ t.vec p ≈ ![(x₀ : ZMod p), y₀, 1] := by
    intro hequiv
    refine hne ((isBase_iff (p := p) x₀ y₀ t).2 ⟨?_, ?_⟩)
    · simpa [Triple.vec, fin3_def_ext] using X_eq_of_equiv hequiv
    · simpa [Triple.vec, fin3_def_ext] using Y_eq_of_equiv hequiv
  have hvec : (t.addBase p a b x₀ y₀).vec p = (curve p a b).toJacobian.addXYZ (t.vec p) ![x₀, y₀, 1] := addBase_vec x₀ y₀ t
  rw [← add_of_not_equiv hapart] at hvec
  refine ⟨?_, ?_⟩
  · rw [hvec]
    exact nonsingular_add h.nonsingular hbase
  · rw [hvec, Point.toAffine_add h.nonsingular hbase, h.point, Point.toAffine_some hbase]

/-- **Multiples.** -/
theorem multiple_stands (turns k : ℕ) {t : Triple} (h : multiple p a b x₀ y₀ turns k = some t) :
    Represents b t (k • (.some _ _ h₀ : (curve p a b).Point)) := by
  induction turns generalizing k t with
  | zero =>
    unfold multiple at h
    split at h
    · next h0 =>
      cases h
      rw [h0, zero_nsmul]
      exact .infinity
    · cases h
  | succ turns ih =>
    unfold multiple at h
    split at h
    · next h0 =>
      cases h
      rw [h0, zero_nsmul]
      exact .infinity
    split at h
    · next h1 =>
      cases h
      rw [h1, one_nsmul]
      exact .base h₀
    obtain ⟨t', ht', hstep⟩ := Option.bind_eq_some_iff.1 h
    have hdouble := (ih _ ht').double
    rw [← add_nsmul] at hdouble
    dsimp only at hstep
    split at hstep
    · next heven =>
      cases hstep
      rwa [show k / 2 + k / 2 = k by omega] at hdouble
    · next hodd =>
      split at hstep
      · cases hstep
      · next hne =>
        cases hstep
        have hadd := hdouble.addBase h₀ hne
        rwa [← succ_nsmul, show k / 2 + k / 2 + 1 = k by omega] at hadd

/-- A multiple that is infinity. -/
theorem nsmul_of_isZero {turns k : ℕ} (h : isZero p a b (x₀, y₀) turns k = true) :
    k • (.some _ _ h₀ : (curve p a b).Point) = 0 := by
  unfold isZero at h
  split at h
  · cases h
  · next t ht =>
    rw [decide_eq_true_eq, emod_eq_zero] at h
    rw [← (multiple_stands h₀ turns k ht).point]
    exact Point.toAffine_of_Z_eq_zero h

/-- A multiple that is this pair. -/
theorem mul_of_isMultiple (h₀ : (curve p a b).Nonsingular (x₀ : ZMod p) (y₀ : ZMod p)) (hx₀ : 0 ≤ x₀ ∧ x₀ < p) (hy₀ : 0 ≤ y₀ ∧ y₀ < p) {turns k : ℕ} {x y : ℤ} (hx : 0 ≤ x ∧ x < p)
    (hy : 0 ≤ y ∧ y < p) (h : isMultiple p a b (x₀, y₀) turns k x y = true) :
    mul p a k (some (x₀, y₀)) = some (some (x, y)) := by
  unfold isMultiple at h
  split at h
  · cases h
  · next t ht =>
    rw [Bool.and_eq_true, decide_eq_true_eq, ne_eq, emod_eq_zero, isBase_iff] at h
    obtain ⟨hz, hX, hY⟩ := h
    have hrepresents := multiple_stands h₀ turns k ht
    have hpoint := hrepresents.point
    rw [Point.toAffine_of_Z_ne_zero hrepresents.nonsingular hz] at hpoint
    obtain ⟨w, hw, hstands⟩ := mul_stands (b := b) (.affine h₀ hx₀ hy₀ rfl rfl) k
    rw [← hpoint] at hstands
    have hz2 : (t.z : ZMod p) ^ 2 ≠ 0 := pow_ne_zero 2 hz
    have hz3 : (t.z : ZMod p) ^ 3 ≠ 0 := pow_ne_zero 3 hz
    rw [hw, hstands.eq_some hx hy ((eq_div_iff hz2).2 hX.symm) ((eq_div_iff hz3).2 hY.symm)]

end Base

end ShortCurve
