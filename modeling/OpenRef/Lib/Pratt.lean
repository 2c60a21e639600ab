import Mathlib.Data.List.Prime
import Mathlib.NumberTheory.LucasPrimality
/-!
# Primality certificates

By Lucas's test `p` is prime when some number has order `p - 1` modulo `p`, which takes a power for
each prime factor of `p - 1`. A certificate is a list of such tests, in which the factors of each
line are two or stand on an earlier line; `proves` runs it, and every number it lists is prime
(`prime_of_proves`).
-/

namespace Pratt

/-- `acc * base ^ e`, with every product reduced modulo `m`; `turns` bounds the bits of `e`. -/
def powMod (m : ℕ) : ℕ → ℕ → ℕ → ℕ → ℕ
  | 0, acc, _, _ => acc
  | turns + 1, acc, base, e =>
    if e = 0 then acc
    else powMod m turns (if e % 2 = 1 then acc * base % m else acc) (base * base % m) (e / 2)

theorem powMod_spec (m : ℕ) : ∀ (turns acc base e : ℕ), e ≤ turns →
    (powMod m turns acc base e : ZMod m) = acc * (base : ZMod m) ^ e
  | 0, acc, base, e, h => by
    rw [Nat.le_zero.1 h, pow_zero, mul_one]
    rfl
  | turns + 1, acc, base, e, h => by
    unfold powMod
    by_cases h0 : e = 0
    · rw [if_pos h0, h0, pow_zero, mul_one]
    · have hsquare : ((base * base % m : ℕ) : ZMod m) ^ (e / 2) = (base : ZMod m) ^ (2 * (e / 2)) := by
        rw [ZMod.natCast_mod, Nat.cast_mul, ← sq, ← pow_mul]
      rw [if_neg h0, powMod_spec m turns _ _ _ (by omega), hsquare]
      rcases Nat.mod_two_eq_zero_or_one e with heven | hodd
      · rw [if_neg (by omega), show 2 * (e / 2) = e by omega]
      · rw [if_pos hodd, ZMod.natCast_mod, Nat.cast_mul, mul_assoc, ← pow_succ', show 2 * (e / 2) + 1 = e by omega]

/-- A number, one whose powers are taken, and the prime factors of the number before. -/
structure Line where
  number : ℕ
  base : ℕ
  factors : List ℕ

/-- Whether `base ^ e` is one. -/
def Line.isOne (l : Line) (e : ℕ) : Bool := powMod l.number e 1 l.base e % l.number = 1

/-- Lucas's test, after primes that are known. -/
def Line.passes (l : Line) (known : List ℕ) : Bool :=
  1 < l.number && l.factors.prod = l.number - 1 && l.isOne (l.number - 1) &&
    l.factors.all fun q => known.contains q && !l.isOne ((l.number - 1) / q)

theorem Line.isOne_iff {l : Line} (h : 1 < l.number) (e : ℕ) :
    l.isOne e = true ↔ (l.base : ZMod l.number) ^ e = 1 := by
  have hspec := powMod_spec l.number e 1 l.base e le_rfl
  rw [Nat.cast_one, one_mul] at hspec
  unfold isOne
  have hmod := ZMod.natCast_eq_natCast_iff' (powMod l.number e 1 l.base e) 1 l.number
  rw [Nat.cast_one, Nat.mod_eq_of_lt h] at hmod
  rw [decide_eq_true_eq, ← hspec]
  exact hmod.symm

theorem Line.prime {l : Line} {known : List ℕ} (hknown : ∀ q ∈ known, q.Prime) (h : l.passes known = true) :
    l.number.Prime := by
  unfold passes at h
  simp only [Bool.and_eq_true, decide_eq_true_eq, List.all_eq_true, List.contains_iff_mem, Bool.not_eq_true'] at h
  obtain ⟨⟨⟨hone, hprod⟩, hpower⟩, hfactors⟩ := h
  refine lucas_primality l.number (l.base : ZMod l.number) ((l.isOne_iff hone _).1 hpower) fun q hq hdvd => ?_
  rw [← hprod] at hdvd
  obtain ⟨r, hr, hqr⟩ := (Prime.dvd_prod_iff hq.prime).1 hdvd
  obtain ⟨hmem, hne⟩ := hfactors r hr
  obtain rfl : q = r := (Nat.prime_dvd_prime_iff_eq hq (hknown r hmem)).1 hqr
  intro hpow
  rw [(l.isOne_iff hone _).2 hpow] at hne
  cases hne

/-- The lines pass one after the other. -/
def proves (known : List ℕ) : List Line → Bool
  | [] => true
  | l :: lines => l.passes known && proves (l.number :: known) lines

/-- **Soundness.** The numbers of a certificate are prime. -/
theorem prime_of_proves {known : List ℕ} {lines : List Line} (hknown : ∀ q ∈ known, q.Prime)
    (h : proves known lines = true) : ∀ l ∈ lines, l.number.Prime := by
  induction lines generalizing known with
  | nil => exact fun l hl => absurd hl List.not_mem_nil
  | cons l lines ih =>
    rw [proves, Bool.and_eq_true] at h
    have hprime := l.prime hknown h.1
    have hknown' : ∀ q ∈ l.number :: known, q.Prime := by
      intro q hq
      rcases List.mem_cons.1 hq with rfl | hq
      · exact hprime
      · exact hknown q hq
    intro l' hl'
    rcases List.mem_cons.1 hl' with rfl | hl'
    · exact hprime
    · exact ih hknown' h.2 l' hl'

end Pratt
