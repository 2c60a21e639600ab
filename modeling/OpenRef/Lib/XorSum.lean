import Mathlib.Data.BitVec
import Mathlib.Logic.Function.Iterate
import Mathlib.Tactic.Common
/-!
# Sums under exclusive or

Words of one width are a vector space over the field with two elements. `sum f l` adds the
words `f i` of a list; a map that is `Linear` passes through it. `solve` lists the sublists that
add up to a word, cutting off where the word has a bit that no remaining summand has
(`mem_solve`); it runs on naturals, whose bit operations evaluate fast.
-/

namespace XorSum

variable {ι : Type*} {v w : Nat}

/-- The exclusive or of the words of a list. -/
def sum (f : ι → BitVec w) (l : List ι) : BitVec w := l.foldr (fun i acc => f i ^^^ acc) 0#w

@[simp] theorem sum_nil (f : ι → BitVec w) : sum f [] = 0#w := rfl

@[simp] theorem sum_cons (f : ι → BitVec w) (i : ι) (l : List ι) : sum f (i :: l) = f i ^^^ sum f l := rfl

theorem sum_append (f : ι → BitVec w) (l m : List ι) : sum f (l ++ m) = sum f l ^^^ sum f m := by
  induction l with
  | nil => exact (BitVec.zero_xor).symm
  | cons i l ih => rw [List.cons_append, sum_cons, sum_cons, ih, BitVec.xor_assoc]

theorem sum_map {κ : Type*} (f : ι → BitVec w) (g : κ → ι) (l : List κ) : sum f (l.map g) = sum (fun k => f (g k)) l := by
  induction l with
  | nil => rfl
  | cons k l ih => rw [List.map_cons, sum_cons, sum_cons, ih]

theorem sum_congr {f g : ι → BitVec w} {l : List ι} (h : ∀ i ∈ l, f i = g i) : sum f l = sum g l := by
  induction l with
  | nil => rfl
  | cons i l ih =>
    rw [sum_cons, sum_cons, h i List.mem_cons_self, ih fun j hj => h j (List.mem_cons_of_mem i hj)]

/-- Leaving elements out is adding zero for them. -/
theorem sum_filter (f : ι → BitVec w) (p : ι → Bool) (l : List ι) :
    sum f (l.filter p) = sum (fun i => if p i then f i else 0#w) l := by
  induction l with
  | nil => rfl
  | cons i l ih =>
    rw [List.filter_cons, sum_cons]
    split
    · rw [sum_cons, ih]
    · rw [ih, BitVec.zero_xor]

theorem sum_xor (f g : ι → BitVec w) (l : List ι) : sum (fun i => f i ^^^ g i) l = sum f l ^^^ sum g l := by
  induction l with
  | nil => exact (BitVec.xor_zero).symm
  | cons i l ih =>
    rw [sum_cons, sum_cons, sum_cons, ih]
    ac_rfl

/-- A sum with one summand. -/
theorem sum_ite_eq (f : Nat → BitVec w) (n k : Nat) :
    sum (fun i => if i = k then f i else 0#w) (List.range n) = if k < n then f k else 0#w := by
  induction n with
  | zero => rfl
  | succ n ih =>
    rw [List.range_succ, sum_append, sum_cons, sum_nil, BitVec.xor_zero, ih]
    rcases Nat.lt_trichotomy k n with hlt | rfl | hgt
    · rw [if_pos hlt, if_neg (by omega), if_pos (by omega), BitVec.xor_zero]
    · rw [if_neg (Nat.lt_irrefl k), if_pos rfl, if_pos (Nat.lt_succ_self k), BitVec.zero_xor]
    · rw [if_neg (by omega), if_neg (by omega), if_neg (by omega), BitVec.xor_zero]

/-! ## Linear maps -/

/-- The map respects exclusive or. -/
def Linear (L : BitVec v → BitVec w) : Prop := ∀ a b, L (a ^^^ b) = L a ^^^ L b

variable {L : BitVec v → BitVec w}

theorem Linear.zero (h : Linear L) : L 0#v = 0#w := by
  have hdouble := h 0#v 0#v
  rwa [BitVec.xor_zero, BitVec.xor_self] at hdouble

theorem Linear.sum (h : Linear L) (f : ι → BitVec v) (l : List ι) : L (sum f l) = sum (fun i => L (f i)) l := by
  induction l with
  | nil => exact h.zero
  | cons i l ih => rw [sum_cons, sum_cons, h, ih]

theorem Linear.iterate {L : BitVec w → BitVec w} (h : Linear L) (n : Nat) : Linear L^[n] := by
  induction n with
  | zero => exact fun _ _ => rfl
  | succ n ih =>
    intro a b
    rw [Function.iterate_succ_apply', Function.iterate_succ_apply', Function.iterate_succ_apply', ih, h]

/-- A linear map that sends nothing but zero to zero is injective. -/
theorem Linear.injective (h : Linear L) (hzero : ∀ a, L a = 0#w → a = 0#v) : Function.Injective L := by
  intro a b hab
  have : L (a ^^^ b) = 0#w := by rw [h, hab, BitVec.xor_self]
  exact BitVec.xor_eq_zero_iff.1 (hzero _ this)

/-- An injective linear map sends nothing but zero to zero. -/
theorem Linear.eq_zero (h : Linear L) (hinj : Function.Injective L) {a : BitVec v} (ha : L a = 0#w) : a = 0#v :=
  hinj (ha.trans h.zero.symm)

/-- Bit `j` of a word. -/
def bit (j : Nat) (a : BitVec w) : BitVec 1 := BitVec.ofBool (a.getLsbD j)

theorem bit_linear (j : Nat) : Linear (bit j : BitVec w → BitVec 1) := by
  intro a b
  unfold bit
  rw [BitVec.getLsbD_xor, BitVec.ofBool_xor_ofBool]

theorem eq_of_bit {a b : BitVec w} (h : ∀ j < w, bit j a = bit j b) : a = b :=
  BitVec.eq_of_getLsbD_eq fun j hj => (BitVec.ofBool_eq_iff_eq).1 (h j hj)

/-! ## Sublists with a given sum -/

/-- The bits that some word of the list has. -/
def cover (f : ι → BitVec w) : List ι → BitVec w
  | [] => 0#w
  | i :: l => f i ||| cover f l

/-- Each element with its word, and with the bits that neither its word nor a later one has. -/
def columns (f : ι → BitVec w) : List ι → List (ι × Nat × Nat)
  | [] => []
  | i :: l => (i, (f i).toNat, (~~~cover f (i :: l)).toNat) :: columns f l

/-- The sublists that add up to `t`. -/
def solve : List (ι × Nat × Nat) → Nat → List (List ι)
  | [], t => if t = 0 then [[]] else []
  | (i, word, missing) :: l, t =>
    if t &&& missing = 0 then solve l t ++ (solve l (t ^^^ word)).map (i :: ·) else []

/-- A sum has only bits that some word has. -/
theorem sum_and_not_cover (f : ι → BitVec w) (p : ι → Bool) (l : List ι) :
    sum f (l.filter p) &&& ~~~cover f l = 0#w := by
  have hbit : ∀ (l : List ι) (j : Nat), (sum f (l.filter p)).getLsbD j = true → (cover f l).getLsbD j = true := by
    intro l j
    induction l with
    | nil => exact fun h => h
    | cons i l ih =>
      rw [List.filter_cons, cover, BitVec.getLsbD_or]
      split
      · rw [sum_cons, BitVec.getLsbD_xor]
        cases hword : (f i).getLsbD j with
        | true => simp
        | false => simpa using ih
      · exact fun h => by rw [ih h, Bool.or_true]
  refine BitVec.eq_of_getLsbD_eq fun j hj => ?_
  rw [BitVec.getLsbD_and, BitVec.getLsbD_not]
  cases h : (sum f (l.filter p)).getLsbD j with
  | false => simp
  | true => simp [hbit l j h]

/-- **Completeness.** Every sublist that a test picks out and that adds up to `t` is listed. -/
theorem mem_solve {f : ι → BitVec w} (p : ι → Bool) : ∀ {l : List ι} {t : BitVec w}, sum f (l.filter p) = t →
    l.filter p ∈ solve (columns f l) t.toNat
  | [], t, h => by
    obtain rfl : 0#w = t := h
    rw [columns, solve, BitVec.toNat_zero, if_pos rfl, List.filter_nil]
    exact List.mem_singleton_self _
  | i :: l, t, h => by
    have hcover : t.toNat &&& (~~~cover f (i :: l)).toNat = 0 := by
      have hzero := congrArg BitVec.toNat (sum_and_not_cover f p (i :: l))
      rwa [h, BitVec.toNat_and, BitVec.toNat_zero] at hzero
    rw [List.filter_cons] at h ⊢
    rw [columns, solve, if_pos hcover, List.mem_append]
    split
    · next hp =>
      rw [if_pos hp, sum_cons] at h
      have hrest : sum f (l.filter p) = t ^^^ f i := by
        rw [← h, BitVec.xor_comm (f i), BitVec.xor_assoc, BitVec.xor_self, BitVec.xor_zero]
      have hmem := mem_solve p hrest
      rw [BitVec.toNat_xor] at hmem
      exact .inr (List.mem_map_of_mem hmem)
    · next hp =>
      rw [if_neg hp] at h
      exact .inl (mem_solve p h)

end XorSum
