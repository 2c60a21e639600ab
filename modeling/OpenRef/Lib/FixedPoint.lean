import Mathlib.Tactic.Linarith
import Mathlib.Tactic.Ring
import Mathlib.Tactic.Common
/-!
# Fixed-point scaling

A gain with `n` fraction bits is a natural number, `2 ^ n` being unity. `scale n x g`
is the product shifted right arithmetically: rounding goes towards minus infinity, so
the two bounds on a scaled value are not symmetric (`scale_le_iff`, `le_scale_iff`).

`largest` is the running maximum of a loop that starts at zero.
-/

namespace FixedPoint

variable {n : Nat} {x b : Int} {g : Nat}

/-- `(x * g) >> n` on a signed integer. -/
def scale (n : Nat) (x : Int) (g : Nat) : Int := x * g / 2 ^ n

theorem scale_le_iff : scale n x g ≤ b ↔ x * g < (b + 1) * 2 ^ n := by
  have hpos : (0 : Int) < 2 ^ n := by positivity
  rw [scale, ← Int.lt_add_one_iff, Int.ediv_lt_iff_lt_mul hpos]

theorem le_scale_iff : b ≤ scale n x g ↔ b * 2 ^ n ≤ x * g := by
  have hpos : (0 : Int) < 2 ^ n := by positivity
  rw [scale, Int.le_ediv_iff_mul_le hpos]

/-- A gain of at most unity does not amplify. -/
theorem scale_bounds (hg : g ≤ 2 ^ n) (hlo : -b ≤ x) (hhi : x ≤ b) : -b ≤ scale n x g ∧ scale n x g ≤ b := by
  have hg' : (g : Int) ≤ 2 ^ n := by exact_mod_cast hg
  have hg0 : (0 : Int) ≤ g := Int.natCast_nonneg g
  have hb : 0 ≤ b := by omega
  have hup : b * g ≤ b * 2 ^ n := mul_le_mul_of_nonneg_left hg' hb
  constructor
  · rw [le_scale_iff]
    calc -b * 2 ^ n = -(b * 2 ^ n) := by ring
      _ ≤ -(b * g) := by linarith
      _ = -b * g := by ring
      _ ≤ x * g := mul_le_mul_of_nonneg_right hlo hg0
  · rw [scale_le_iff]
    have hpos : (0 : Int) < 2 ^ n := by positivity
    calc x * g ≤ b * g := mul_le_mul_of_nonneg_right hhi hg0
      _ ≤ b * 2 ^ n := hup
      _ < (b + 1) * 2 ^ n := by linarith

/-- The maximum a loop keeps that starts from zero. -/
def largest {α : Type*} (f : α → Int) (l : List α) : Int := l.foldl (fun m a => if m < f a then f a else m) 0

section Largest

variable {α : Type*} {f : α → Int}

theorem foldl_largest_le_iff {c : Int} : ∀ (l : List α) (m : Int),
    l.foldl (fun m a => if m < f a then f a else m) m ≤ c ↔ m ≤ c ∧ ∀ a ∈ l, f a ≤ c
  | [], m => by simp
  | a :: l, m => by
    simp only [List.foldl_cons, List.mem_cons, forall_eq_or_imp]
    rw [foldl_largest_le_iff l]
    constructor
    · rintro ⟨h1, h2⟩
      split at h1
      · exact ⟨by omega, h1, h2⟩
      · exact ⟨h1, by omega, h2⟩
    · rintro ⟨h1, h2, h3⟩
      split
      · exact ⟨h2, h3⟩
      · exact ⟨h1, h3⟩

theorem largest_le_iff {c : Int} {l : List α} : largest f l ≤ c ↔ 0 ≤ c ∧ ∀ a ∈ l, f a ≤ c :=
  foldl_largest_le_iff l 0

theorem le_largest {l : List α} {a : α} (ha : a ∈ l) : f a ≤ largest f l :=
  (largest_le_iff.1 (Int.le_refl _)).2 a ha

/-- The maximum is zero or one of the values. -/
theorem largest_mem : ∀ l : List α, largest f l = 0 ∨ ∃ a ∈ l, largest f l = f a := by
  have hfold : ∀ (l : List α) (m : Int), l.foldl (fun m a => if m < f a then f a else m) m = m ∨
      ∃ a ∈ l, l.foldl (fun m a => if m < f a then f a else m) m = f a := by
    intro l
    induction l with
    | nil => intro m; exact .inl rfl
    | cons a l ih =>
      intro m
      rw [List.foldl_cons]
      rcases ih (if m < f a then f a else m) with h | ⟨c, hc, h⟩
      · rw [h]
        split
        · exact .inr ⟨a, List.mem_cons_self, rfl⟩
        · exact .inl rfl
      · exact .inr ⟨c, List.mem_cons_of_mem a hc, h⟩
  intro l
  exact hfold l 0

/-- What holds of zero and of everything below a value it holds of, holds of the maximum exactly when it
holds of every value. -/
theorem largest_forall {P : Int → Prop} (h0 : P 0) (hdown : ∀ x y, x ≤ y → P y → P x) {l : List α} :
    P (largest f l) ↔ ∀ a ∈ l, P (f a) := by
  constructor
  · intro h a ha
    exact hdown _ _ (le_largest ha) h
  · intro h
    rcases largest_mem (f := f) l with hl | ⟨a, ha, hl⟩
    · rw [hl]
      exact h0
    · rw [hl]
      exact h a ha

end Largest

end FixedPoint
