import Mathlib.Tactic.Common
/-!
# Little-endian byte strings

`write n v` is the `n` low bytes of `v`, least significant first; `read w bs`
puts a byte string back together. The two are inverse on words of exactly
`8 * n` bits (`read_write`, `write_read`), so `write n` is injective there.
-/

namespace LittleEndian

variable {w : Nat}

/-- Byte `i` of a word: `(uint8_t)(value >> (8 * i))`. -/
def byte (v : BitVec w) (i : Nat) : BitVec 8 := (v >>> (8 * i)).setWidth 8

/-- The `n` low bytes of a word. -/
def write (n : Nat) (v : BitVec w) : List (BitVec 8) := (List.range n).map (byte v)

/-- `value |= (uintW_t)buffer[i] << (k + 8 * i)`. -/
def readFrom (w : Nat) : Nat → List (BitVec 8) → BitVec w
  | _, [] => 0
  | k, b :: bs => (b.setWidth w <<< k) ||| readFrom w (k + 8) bs

/-- A word from its bytes. -/
def read (w : Nat) (bs : List (BitVec 8)) : BitVec w := readFrom w 0 bs

@[simp] theorem length_write (n : Nat) (v : BitVec w) : (write n v).length = n := by simp [write]

theorem getLsbD_byte (v : BitVec w) (i j : Nat) :
    (byte v i).getLsbD j = (decide (j < 8) && v.getLsbD (8 * i + j)) := by
  simp [byte, BitVec.getLsbD_setWidth]

theorem getLsbD_readFrom : ∀ (bs : List (BitVec 8)) (k j : Nat), j < w →
    (readFrom w k bs).getLsbD j = (decide (k ≤ j) && (bs.getD ((j - k) / 8) 0).getLsbD ((j - k) % 8))
  | [], _, _, _ => by simp [readFrom]
  | b :: bs, k, j, hj => by
    rw [readFrom, BitVec.getLsbD_or, getLsbD_readFrom bs (k + 8) j hj, BitVec.getLsbD_shiftLeft,
      BitVec.getLsbD_setWidth]
    rcases Nat.lt_or_ge j k with h | h
    · have : ¬ k ≤ j := by omega
      have : ¬ k + 8 ≤ j := by omega
      simp [*]
    · rcases Nat.lt_or_ge (j - k) 8 with h8 | h8
      · have h1 : (j - k) / 8 = 0 := by omega
        have h2 : (j - k) % 8 = j - k := by omega
        have : ¬ k + 8 ≤ j := by omega
        have : j - k < w := by omega
        simp [*]
      · have h1 : (j - k) / 8 = (j - (k + 8)) / 8 + 1 := by omega
        have h2 : (j - k) % 8 = (j - (k + 8)) % 8 := by omega
        have h3 : k + 8 ≤ j := by omega
        have h4 : b.getLsbD (j - k) = false := BitVec.getLsbD_of_ge _ _ h8
        simp [h1, h2, h3, h4, h]

theorem getD_write (n i : Nat) (v : BitVec w) (hi : i < n) : (write n v).getD i 0 = byte v i := by
  simp [write, List.getD_eq_getElem?_getD, hi]

/-- **Round trip on words.** -/
theorem read_write (n : Nat) (v : BitVec (8 * n)) : read (8 * n) (write n v) = v := by
  refine BitVec.eq_of_getLsbD_eq fun j hj => ?_
  rw [read, getLsbD_readFrom _ _ _ hj, Nat.sub_zero, getD_write _ _ _ (by omega), getLsbD_byte]
  have : 8 * (j / 8) + j % 8 = j := by omega
  have : j % 8 < 8 := by omega
  simp [*]

/-- **Round trip on byte strings.** -/
theorem write_read (bs : List (BitVec 8)) : write bs.length (read (8 * bs.length) bs) = bs := by
  refine List.ext_getElem (by simp) fun i hi hi' => ?_
  have hlen : i < bs.length := hi'
  have hb : (write bs.length (read (8 * bs.length) bs))[i] = byte (read (8 * bs.length) bs) i := by
    simp [write]
  rw [hb]
  refine BitVec.eq_of_getLsbD_eq fun j hj => ?_
  rw [getLsbD_byte, read, getLsbD_readFrom _ _ _ (by omega)]
  have h1 : (8 * i + j) / 8 = i := by omega
  have h2 : (8 * i + j) % 8 = j := by omega
  simp [h1, h2, hj, List.getD_eq_getElem?_getD, hlen]

theorem write_injective {n : Nat} {u v : BitVec (8 * n)} (h : write n u = write n v) : u = v := by
  rw [← read_write n u, h, read_write]

end LittleEndian
