import Mathlib.Algebra.Field.ZMod
import Mathlib.Tactic.Ring
/-!
# Modular inverses

`modInverse a m` is Python's `pow(a, -1, m)`: Euclid's algorithm on `m` and `a % m`, with the coefficient of `a` carried
along modulo `m`. `modInverse_prime`: modulo a prime it finds the inverse of everything but zero.
-/

/-- Euclid's algorithm on `r` and `s`, which are `t * a` and `u * a` modulo `m`; `turns` bounds the divisions. -/
def euclid (m : ℕ) : ℕ → ℕ → ℕ → ℕ → ℕ → ℕ × ℕ
  | 0, r, _, t, _ => (r, t)
  | turns + 1, r, s, t, u => if s = 0 then (r, t) else euclid m turns s (r % s) u ((t + (m - u) * (r / s)) % m)

/-- `pow(a, -1, m)`; nothing where `a` has no inverse. -/
def modInverse (a : ℤ) (m : ℕ) : Option ℤ :=
  let e := euclid m m m (a % m).toNat 0 1
  if e.1 = 1 then some e.2 else none

/-- It ends with the greatest common divisor and its coefficient. -/
theorem euclid_spec {m : ℕ} (hm : 0 < m) (a : ZMod m) : ∀ (turns r s t u : ℕ), s ≤ turns → u ≤ m →
    (r : ZMod m) = t * a → (s : ZMod m) = u * a →
    (euclid m turns r s t u).1 = Nat.gcd r s ∧ ((euclid m turns r s t u).1 : ZMod m) = (euclid m turns r s t u).2 * a
  | 0, r, s, t, u, hs, _, hr, _ => by
    rw [Nat.le_zero.1 hs, Nat.gcd_zero_right]
    exact ⟨rfl, hr⟩
  | turns + 1, r, s, t, u, hs, hu, hr, hsu => by
    rw [euclid]
    by_cases h0 : s = 0
    · rw [if_pos h0, h0, Nat.gcd_zero_right]
      exact ⟨rfl, hr⟩
    · have hpos : 0 < s := Nat.pos_of_ne_zero h0
      have hlt := Nat.mod_lt r hpos
      have hrest : ((r % s : ℕ) : ZMod m) = (((t + (m - u) * (r / s)) % m : ℕ) : ZMod m) * a := by
        have hsplit : ((r % s : ℕ) : ZMod m) = r - s * (r / s : ℕ) := by
          rw [eq_sub_iff_add_eq, ← Nat.cast_mul, ← Nat.cast_add, Nat.mod_add_div]
        rw [hsplit, ZMod.natCast_mod, Nat.cast_add, Nat.cast_mul, Nat.cast_sub hu, ZMod.natCast_self, hr, hsu]
        ring
      obtain ⟨hgcd, hcoefficient⟩ := euclid_spec hm a turns s (r % s) u _ (by omega) (Nat.mod_lt _ hm).le hsu hrest
      rw [if_neg h0]
      refine ⟨?_, hcoefficient⟩
      rw [hgcd, Nat.gcd_comm r s, Nat.gcd_rec s r, Nat.gcd_comm]

/-- **Modulo a prime** everything but zero has its inverse found. -/
theorem modInverse_prime {p : ℕ} [Fact p.Prime] {a : ℤ} (ha : (a : ZMod p) ≠ 0) :
    ∃ i, modInverse a p = some i ∧ (i : ZMod p) = (a : ZMod p)⁻¹ := by
  have hpos : 0 < p := (Fact.out : p.Prime).pos
  have hnonneg : 0 ≤ a % p := Int.emod_nonneg a (Int.natCast_ne_zero.2 hpos.ne')
  have hlt : a % p < p := Int.emod_lt_of_pos a (Int.natCast_pos.2 hpos)
  have hcast : (((a % p).toNat : ℕ) : ZMod p) = a := by
    rw [← Int.cast_natCast, Int.toNat_of_nonneg hnonneg]
    exact (ZMod.intCast_eq_intCast_iff _ _ _).2 (Int.mod_modEq a p)
  obtain ⟨hgcd, hcoefficient⟩ := euclid_spec hpos (a : ZMod p) p p (a % p).toNat 0 1 (by omega) hpos
    (by rw [ZMod.natCast_self, Nat.cast_zero, zero_mul]) (by rw [hcast, Nat.cast_one, one_mul])
  have hcoprime : Nat.gcd p (a % p).toNat = 1 := by
    refine ((Fact.out : p.Prime).coprime_iff_not_dvd).2 fun hdvd => ha ?_
    rw [← hcast]
    exact (ZMod.natCast_eq_zero_iff _ _).2 hdvd
  rw [hgcd, hcoprime, Nat.cast_one] at hcoefficient
  refine ⟨_, if_pos (hgcd.trans hcoprime), ?_⟩
  rw [Int.cast_natCast]
  exact eq_inv_of_mul_eq_one_left (a := (_ : ZMod p)) hcoefficient.symm
