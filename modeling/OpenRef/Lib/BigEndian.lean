import Mathlib.Tactic.Common
import Mathlib.Tactic.Ring
/-!
# Big-endian byte strings

`ofBytes` is the number a byte string stands for, its first byte the most significant one, and
`toBytes n k` is a number in `n` bytes. They are inverse up to the length (`ofBytes_toBytes`).
-/

namespace BigEndian

/-- `int.from_bytes(bytes, "big")`. -/
def ofBytes (bytes : List (BitVec 8)) : ℕ := bytes.foldl (fun k b => 256 * k + b.toNat) 0

/-- `k.to_bytes(n, "big")` of a number that fits. -/
def toBytes : ℕ → ℕ → List (BitVec 8)
  | 0, _ => []
  | n + 1, k => toBytes n (k / 256) ++ [BitVec.ofNat 8 k]

@[simp] theorem length_toBytes (n k : ℕ) : (toBytes n k).length = n := by
  induction n generalizing k with
  | zero => rfl
  | succ n ih => rw [toBytes, List.length_append, ih, List.length_singleton]

theorem ofBytes_concat (bytes : List (BitVec 8)) (b : BitVec 8) :
    ofBytes (bytes ++ [b]) = 256 * ofBytes bytes + b.toNat := by
  unfold ofBytes
  rw [List.foldl_append, List.foldl_cons, List.foldl_nil]

theorem ofBytes_toBytes {n k : ℕ} (h : k < 256 ^ n) : ofBytes (toBytes n k) = k := by
  induction n generalizing k with
  | zero => exact (Nat.lt_one_iff.1 h).symm
  | succ n ih =>
    rw [pow_succ] at h
    rw [toBytes, ofBytes_concat, ih (Nat.div_lt_of_lt_mul (by rwa [mul_comm])), BitVec.toNat_ofNat]
    omega

end BigEndian
