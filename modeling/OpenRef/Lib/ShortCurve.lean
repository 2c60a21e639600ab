import Mathlib.AlgebraicGeometry.EllipticCurve.Affine.Point
import OpenRef.Lib.ModInverse
/-!
# Points of a short Weierstrass curve by their coordinates

Points of `y ^ 2 = x ^ 3 + a * x + b` over a prime field are handled as pairs of residues, with
`none` for the point at infinity. `add` is the addition by chord and tangent and `mul` is
double-and-add, as they are written over integers with `%` and modular inverses; an inverse that is
not there leaves nothing. On points of the curve none is missing, and they are the addition and the
multiples of the curve's group (`add_stands`, `mul_stands`).
-/

namespace ShortCurve

/-- The coordinates of a point, or infinity. -/
abbrev Coords := Option (ℤ × ℤ)

section Arithmetic

variable (p : ℕ) (a : ℤ)

/-- The slope of the chord, or of the tangent. -/
def slope (x₁ y₁ x₂ y₂ : ℤ) : Option ℤ :=
  if (x₁, y₁) = (x₂, y₂) then (modInverse (2 * y₁) p).map fun i => (3 * x₁ * x₁ + a) * i % p
  else (modInverse ((x₂ - x₁) % p) p).map fun i => (y₂ - y₁) * i % p

/-- The third point of the line, mirrored. -/
def third (x₁ y₁ x₂ s : ℤ) : ℤ × ℤ := ((s * s - x₁ - x₂) % p, (s * (x₁ - (s * s - x₁ - x₂) % p) - y₁) % p)

def add : Coords → Coords → Option Coords
  | none, v => some v
  | u, none => some u
  | some (x₁, y₁), some (x₂, y₂) =>
    if x₁ = x₂ ∧ (y₁ + y₂) % p = 0 then some none
    else (slope p a x₁ y₁ x₂ y₂).map fun s => some (third p x₁ y₁ x₂ s)

/-- Double-and-add, from the low bit; `turns` bounds the bits. -/
def mulLoop : ℕ → ℕ → Coords → Coords → Option Coords
  | 0, _, result, _ => some result
  | turns + 1, k, result, point =>
    if k = 0 then some result
    else
      (if k % 2 = 1 then add p a result point else some result).bind fun result =>
        (add p a point point).bind fun point => mulLoop turns (k / 2) result point

def mul (k : ℕ) (u : Coords) : Option Coords := mulLoop p a k k none u

end Arithmetic

/-! ## The group -/

variable {p : ℕ} [Fact p.Prime] {a b : ℤ}

/-- The curve. -/
def curve (p : ℕ) (a b : ℤ) : WeierstrassCurve.Affine (ZMod p) := ⟨0, 0, 0, a, b⟩

theorem negY_eq (x y : ZMod p) : (curve p a b).negY x y = -y := by simp [curve, WeierstrassCurve.Affine.negY]

/-- The coordinates are the residues of the point's. -/
inductive Stands (b : ℤ) : Coords → (curve p a b).Point → Prop
  | infinity : Stands b none 0
  | affine {x y : ℤ} {X Y : ZMod p} (h : (curve p a b).Nonsingular X Y) (hx : 0 ≤ x ∧ x < p) (hy : 0 ≤ y ∧ y < p)
    (hX : (x : ZMod p) = X) (hY : (y : ZMod p) = Y) : Stands b (some (x, y)) (.some X Y h)

theorem residue_inj {x y : ℤ} (hx : 0 ≤ x ∧ x < p) (hy : 0 ≤ y ∧ y < p) (h : (x : ZMod p) = y) : x = y := by
  have hmod : x % p = y % p := (ZMod.intCast_eq_intCast_iff x y p).1 h
  rwa [Int.emod_eq_of_lt hx.1 hx.2, Int.emod_eq_of_lt hy.1 hy.2] at hmod

theorem emod_eq_zero {x : ℤ} : x % p = 0 ↔ (x : ZMod p) = 0 := by
  rw [ZMod.intCast_zmod_eq_zero_iff_dvd, Int.dvd_iff_emod_eq_zero]

theorem cast_emod (x : ℤ) : ((x % p : ℤ) : ZMod p) = x :=
  (ZMod.intCast_eq_intCast_iff _ _ _).2 (Int.mod_modEq x p)

theorem emod_range (x : ℤ) : 0 ≤ x % p ∧ x % p < p := by
  have hpos : (0 : ℤ) < p := Int.natCast_pos.2 (Fact.out : p.Prime).pos
  exact ⟨Int.emod_nonneg x hpos.ne', Int.emod_lt_of_pos x hpos⟩

theorem equation_iff (x y : ℤ) : (curve p a b).Equation x y ↔ (y ^ 2 - x ^ 3 - a * x - b) % p = 0 := by
  rw [emod_eq_zero, WeierstrassCurve.Affine.equation_iff']
  simp only [curve]
  push_cast
  ring_nf

theorem discriminant_eq : (curve p a b).Δ = ((-(16 * (4 * a ^ 3 + 27 * b ^ 2)) : ℤ) : ZMod p) := by
  simp only [WeierstrassCurve.Δ, WeierstrassCurve.b₂, WeierstrassCurve.b₄, WeierstrassCurve.b₆, WeierstrassCurve.b₈, curve]
  push_cast
  ring

/-- Where the discriminant does not vanish, a pair that satisfies the equation is a point. -/
theorem nonsingular_iff (hdiscriminant : -(16 * (4 * a ^ 3 + 27 * b ^ 2)) % p ≠ 0) (x y : ℤ) :
    (curve p a b).Nonsingular x y ↔ (y ^ 2 - x ^ 3 - a * x - b) % p = 0 := by
  have hne : (curve p a b).Δ ≠ 0 := by
    rw [discriminant_eq]
    exact fun h => hdiscriminant (emod_eq_zero.2 h)
  rw [← WeierstrassCurve.Affine.equation_iff_nonsingular_of_Δ_ne_zero hne, equation_iff]

/-- Infinity stands for nothing but zero. -/
theorem Stands.eq_zero {P : (curve p a b).Point} (h : Stands b none P) : P = 0 := by
  generalize hu : (none : Coords) = u at h
  cases h with
  | infinity => rfl
  | affine => cases hu

/-- What stands for another point is a pair of residues on the curve. -/
theorem Stands.exists_pair {u : Coords} {P : (curve p a b).Point} (h : Stands b u P) (hne : P ≠ 0) :
    ∃ x y : ℤ, u = some (x, y) ∧ (0 ≤ x ∧ x < p) ∧ (0 ≤ y ∧ y < p) ∧ (curve p a b).Nonsingular x y := by
  cases h with
  | infinity => exact absurd rfl hne
  | affine h hx hy hX hY =>
    subst hX hY
    exact ⟨_, _, rfl, hx, hy, h⟩

/-- Residues of a point's coordinates are what stands for it. -/
theorem Stands.eq_some {w : Coords} {X Y : ZMod p} {h : (curve p a b).Nonsingular X Y} (hw : Stands b w (.some X Y h))
    {x y : ℤ} (hx : 0 ≤ x ∧ x < p) (hy : 0 ≤ y ∧ y < p) (hX : (x : ZMod p) = X) (hY : (y : ZMod p) = Y) :
    w = some (x, y) := by
  cases hw with
  | affine _ hx' hy' hX' hY' => rw [residue_inj hx' hx (hX'.trans hX.symm), residue_inj hy' hy (hY'.trans hY.symm)]

/-- A point and its opposite have one `x`. -/
theorem Stands.same_x {x y : ℤ} {v : Coords} {P Q : (curve p a b).Point} (hP : Stands b (some (x, y)) P)
    (hQ : Stands b v Q) (h : Q = P ∨ Q = -P) : ∃ y', v = some (x, y') := by
  generalize hu : (some (x, y) : Coords) = u at hP
  cases hP with
  | infinity => cases hu
  | affine h₁ hx₁ _ hX₁ _ =>
    cases hu
    cases hQ with
    | infinity =>
      rcases h with h | h
      · exact absurd h.symm (WeierstrassCurve.Affine.Point.some_ne_zero h₁)
      · exact absurd (neg_eq_zero.1 h.symm) (WeierstrassCurve.Affine.Point.some_ne_zero h₁)
    | @affine x₂ y₂ X₂ Y₂ h₂ hx₂ _ hX₂ _ =>
      have hX : (x₂ : ZMod p) = x := by
        rw [hX₂, hX₁]
        rcases h with h | h
        · exact (WeierstrassCurve.Affine.Point.some.inj h).1
        · rw [WeierstrassCurve.Affine.Point.neg_some] at h
          exact (WeierstrassCurve.Affine.Point.some.inj h).1
      exact ⟨y₂, by rw [residue_inj hx₂ hx₁ hX]⟩

/-- The third point, of a line with this slope. -/
theorem third_stands {x₁ y₁ x₂ s : ℤ} {L : ZMod p} (hs : (s : ZMod p) = L)
    (h : (curve p a b).Nonsingular ((curve p a b).addX x₁ x₂ L) ((curve p a b).addY x₁ x₂ y₁ L)) :
    Stands b (some (third p x₁ y₁ x₂ s)) (.some _ _ h) := by
  have hx : (((s * s - x₁ - x₂) % p : ℤ) : ZMod p) = (curve p a b).addX x₁ x₂ L := by
    rw [cast_emod, Int.cast_sub, Int.cast_sub, Int.cast_mul, hs, WeierstrassCurve.Affine.addX]
    simp only [curve]
    ring
  refine .affine h (emod_range _) (emod_range _) hx ?_
  rw [cast_emod, Int.cast_sub, Int.cast_mul, Int.cast_sub, hx, hs, WeierstrassCurve.Affine.addY, negY_eq,
    WeierstrassCurve.Affine.negAddY]
  ring

/-- **Addition.** -/
theorem add_stands {u v : Coords} {P Q : (curve p a b).Point} (hu : Stands b u P) (hv : Stands b v Q) :
    ∃ w, add p a u v = some w ∧ Stands b w (P + Q) := by
  cases hu with
  | infinity =>
    refine ⟨v, rfl, ?_⟩
    rwa [zero_add]
  | @affine x₁ y₁ X₁ Y₁ h₁ hx₁ hy₁ hX₁ hY₁ =>
    cases hv with
    | infinity =>
      refine ⟨some (x₁, y₁), rfl, ?_⟩
      rw [add_zero]
      exact .affine h₁ hx₁ hy₁ hX₁ hY₁
    | @affine x₂ y₂ X₂ Y₂ h₂ hx₂ hy₂ hX₂ hY₂ =>
      subst hX₁ hY₁ hX₂ hY₂
      have hopposite : (y₁ + y₂) % p = 0 ↔ (y₁ : ZMod p) = (curve p a b).negY x₂ y₂ := by
        rw [emod_eq_zero, Int.cast_add, negY_eq, add_eq_zero_iff_eq_neg]
      unfold add
      dsimp only
      by_cases hinfinite : x₁ = x₂ ∧ (y₁ + y₂) % p = 0
      · rw [if_pos hinfinite]
        refine ⟨none, rfl, ?_⟩
        rw [WeierstrassCurve.Affine.Point.add_of_Y_eq (congrArg _ hinfinite.1) (hopposite.1 hinfinite.2)]
        exact .infinity
      · rw [if_neg hinfinite]
        have hgeneric : ¬ ((x₁ : ZMod p) = x₂ ∧ (y₁ : ZMod p) = (curve p a b).negY x₂ y₂) := fun h =>
          hinfinite ⟨residue_inj hx₁ hx₂ h.1, hopposite.2 h.2⟩
        obtain ⟨s, hs, hslope⟩ : ∃ s, slope p a x₁ y₁ x₂ y₂ = some s ∧
            (s : ZMod p) = (curve p a b).slope x₁ x₂ y₁ y₂ := by
          unfold slope
          by_cases hx : x₁ = x₂
          · -- two points over one `x` that are not opposite are the same
            subst hx
            obtain rfl : y₁ = y₂ := by
              rcases WeierstrassCurve.Affine.Y_eq_of_X_eq h₁.1 h₂.1 rfl with h | h
              · exact residue_inj hy₁ hy₂ h
              · exact absurd ⟨rfl, h⟩ hgeneric
            have hne : ((2 * y₁ : ℤ) : ZMod p) ≠ 0 := by
              intro h0
              refine hinfinite ⟨rfl, ?_⟩
              rw [← two_mul]
              exact emod_eq_zero.2 h0
            obtain ⟨i, hi, hinv⟩ := modInverse_prime hne
            rw [if_pos rfl, hi]
            refine ⟨_, rfl, ?_⟩
            rw [WeierstrassCurve.Affine.slope_of_Y_ne rfl fun h => hgeneric ⟨rfl, h⟩, negY_eq, cast_emod, Int.cast_mul, hinv]
            simp only [curve]
            push_cast
            rw [div_eq_mul_inv]
            ring_nf
          · have hne : (((x₂ - x₁) % p : ℤ) : ZMod p) ≠ 0 := by
              rw [cast_emod, Int.cast_sub, sub_ne_zero]
              exact fun h => hx (residue_inj hx₂ hx₁ h).symm
            obtain ⟨i, hi, hinv⟩ := modInverse_prime hne
            rw [if_neg fun h => hx (Prod.mk.inj h).1, hi]
            refine ⟨_, rfl, ?_⟩
            rw [WeierstrassCurve.Affine.slope_of_X_ne fun h => hx (residue_inj hx₁ hx₂ h), cast_emod, Int.cast_mul, hinv,
              cast_emod, Int.cast_sub, Int.cast_sub, ← neg_sub (x₁ : ZMod p), ← neg_sub (y₁ : ZMod p), inv_neg, neg_mul_neg,
              div_eq_mul_inv]
        rw [hs, WeierstrassCurve.Affine.Point.add_some hgeneric]
        exact ⟨_, rfl, third_stands hslope _⟩

theorem mulLoop_stands {point : Coords} {Q : (curve p a b).Point} (hpoint : Stands b point Q) (turns k : ℕ) (hk : k ≤ turns)
    {result : Coords} {R : (curve p a b).Point} (hresult : Stands b result R) :
    ∃ w, mulLoop p a turns k result point = some w ∧ Stands b w (R + k • Q) := by
  induction turns generalizing k point Q result R with
  | zero =>
    obtain rfl := Nat.le_zero.1 hk
    refine ⟨result, rfl, ?_⟩
    rwa [zero_nsmul, add_zero]
  | succ turns ih =>
    unfold mulLoop
    by_cases h0 : k = 0
    · rw [if_pos h0, h0, zero_nsmul, add_zero]
      exact ⟨result, rfl, hresult⟩
    · obtain ⟨doubled, hdoubled, hdouble⟩ := add_stands hpoint hpoint
      rw [if_neg h0]
      rcases Nat.mod_two_eq_zero_or_one k with heven | hodd
      · obtain ⟨w, hw, hstands⟩ := ih hdouble (k / 2) (by omega) hresult
        rw [if_neg (by omega), Option.bind_some, hdoubled]
        refine ⟨w, hw, ?_⟩
        have hsum : k • Q = (k / 2) • (Q + Q) := by
          rw [← two_nsmul, ← mul_nsmul', show k / 2 * 2 = k by omega]
        rwa [hsum]
      · obtain ⟨added, hadded, hadd⟩ := add_stands hresult hpoint
        obtain ⟨w, hw, hstands⟩ := ih hdouble (k / 2) (by omega) hadd
        rw [if_pos hodd, hadded, Option.bind_some, hdoubled]
        refine ⟨w, hw, ?_⟩
        have hsum : R + k • Q = R + Q + (k / 2) • (Q + Q) := by
          rw [add_assoc, ← two_nsmul, ← mul_nsmul', ← succ_nsmul', show k / 2 * 2 + 1 = k by omega]
        rwa [hsum]

/-- **Multiples.** -/
theorem mul_stands {u : Coords} {P : (curve p a b).Point} (hu : Stands b u P) (k : ℕ) :
    ∃ w, mul p a k u = some w ∧ Stands b w (k • P) := by
  obtain ⟨w, hw, hstands⟩ := mulLoop_stands hu k k le_rfl (.infinity (b := b))
  rw [zero_add] at hstands
  exact ⟨w, hw, hstands⟩

end ShortCurve
