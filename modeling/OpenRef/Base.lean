import Mathlib.Tactic.Ring
/-!
# Fixed-width types of the firmware

`uintN_t` is `BitVec N`: unsigned, wrapping. A byte array of `n` bytes is `Bytes n`.
-/

namespace OpenRef

abbrev U8 := BitVec 8
abbrev U16 := BitVec 16
abbrev U32 := BitVec 32
abbrev U64 := BitVec 64

/-- `(uint64_t)x` keeps the value. -/
theorem toNat_setWidth_64 (x : U32) : (x.setWidth 64).toNat = x.toNat := BitVec.toNat_setWidth_of_le (by decide)

/-- `uint8_t bytes[n]`. -/
structure Bytes (n : Nat) where
  bytes : List U8
  length_eq : bytes.length = n
deriving DecidableEq, Repr

/-- What `memset(bytes, b, n)` leaves. -/
def Bytes.filled (n : Nat) (b : U8) : Bytes n := ⟨List.replicate n b, List.length_replicate⟩

/-- What `memset(bytes, 0, n)` leaves. -/
def Bytes.zero (n : Nat) : Bytes n := Bytes.filled n 0

namespace Bytes

variable {m n : Nat}

theorem ext_bytes : ∀ {a b : Bytes n}, a.bytes = b.bytes → a = b
  | ⟨_, _⟩, ⟨_, _⟩, rfl => rfl

/-- Two arrays side by side in one buffer. -/
def append (a : Bytes m) (b : Bytes n) : Bytes (m + n) :=
  ⟨a.bytes ++ b.bytes, by rw [List.length_append, a.length_eq, b.length_eq]⟩

/-- `&buffer[0]`. -/
def left (a : Bytes (m + n)) : Bytes m := ⟨a.bytes.take m, by rw [List.length_take, a.length_eq]; omega⟩

/-- `&buffer[m]`. -/
def right (a : Bytes (m + n)) : Bytes n := ⟨a.bytes.drop m, by rw [List.length_drop, a.length_eq]; omega⟩

@[simp] theorem left_append (a : Bytes m) (b : Bytes n) : (a.append b).left = a :=
  ext_bytes (List.take_left' a.length_eq)

@[simp] theorem right_append (a : Bytes m) (b : Bytes n) : (a.append b).right = b :=
  ext_bytes (List.drop_left' a.length_eq)

@[simp] theorem append_left_right (a : Bytes (m + n)) : a.left.append a.right = a :=
  ext_bytes (List.take_append_drop m a.bytes)

end Bytes

/-! ## Comparison without early exit -/

/-- `difference |= left[i] ^ right[i]` over two arrays. -/
def difference (left right : List U8) : U8 := (left.zip right).foldl (fun difference b => difference ||| (b.1 ^^^ b.2)) 0

theorem foldl_or_map_eq_zero {α : Type} (f : α → U8) : ∀ (l : List α) (d : U8),
    l.foldl (fun d a => d ||| f a) d = 0 ↔ d = 0 ∧ ∀ a ∈ l, f a = 0
  | [], d => by simp
  | a :: l, d => by
    have hor : d ||| f a = 0 ↔ d = 0 ∧ f a = 0 := BitVec.or_eq_zero_iff
    rw [List.foldl_cons, foldl_or_map_eq_zero f l, hor, List.forall_mem_cons, and_assoc]

/-- Two arrays of one length without a difference are equal. -/
theorem difference_eq_zero {left right : List U8} (h : left.length = right.length) :
    difference left right = 0 ↔ left = right := by
  unfold difference
  rw [foldl_or_map_eq_zero fun b : U8 × U8 => b.1 ^^^ b.2]
  have hxor (x y : U8) : x ^^^ y = 0 ↔ x = y := BitVec.xor_eq_zero_iff
  simp only [hxor, true_and]
  induction left generalizing right with
  | nil => cases right <;> simp_all
  | cons a as ih =>
    cases right with
    | nil => simp at h
    | cons b bs =>
      simp only [List.zip_cons_cons, List.forall_mem_cons, List.cons.injEq]
      exact and_congr_right fun _ => ih (by simpa using h)

/-- The literals of `Fin 2`, the index of one of two slots or halves, use this instance by name. -/
instance neZeroTwo : NeZero (2 : Nat) := ⟨by decide⟩

/-- `sources[source_id - 1]` for a source id from 1 to 6. -/
def sourceIndex (sourceId : U8) : Option (Fin 6) :=
  if h : 1 ≤ sourceId.toNat ∧ sourceId.toNat ≤ 6 then some ⟨sourceId.toNat - 1, by omega⟩ else none

/-- A request to something that can fail: it was done, it was not done, or it was done and the answer
was a failure all the same. -/
inductive Exchange where
  | done
  | failed
  | unanswered
deriving DecidableEq, Repr

namespace Exchange

/-- The request took effect. -/
def landed : Exchange → Bool
  | done | unanswered => true
  | failed => false

/-- The answer that came back. -/
def reported : Exchange → Bool
  | done => true
  | failed | unanswered => false

end Exchange

/-- The flash callbacks of a driver over a context `κ` (`openref_rt595_update_flash_t`,
`openref_rt595_config_driver_t`): a read that fails gives nothing. -/
structure FlashDriver (κ : Type) where
  read : κ → U32 → U32 → κ × Option (List U8)
  erase : κ → U32 → U32 → κ × Bool
  program : κ → U32 → List U8 → κ × Bool

/-- Counting up is seen, also where the counter wraps. -/
theorem counter_ne (n : U32) : n + 1 ≠ n := by
  rw [Ne, BitVec.add_right_eq_self]
  exact (by decide : ¬ (1 : U32) = 0)

/-- `UINT32_MAX`. -/
def uint32Max : U32 := 0xffffffff

/-- `increment_saturating`: a statistics counter that stops at `UINT32_MAX`. -/
def incrementSaturating (n : U32) : U32 := if n ≠ uint32Max then n + 1 else n

theorem toNat_incrementSaturating (n : U32) : (incrementSaturating n).toNat = min (n.toNat + 1) (2 ^ 32 - 1) := by
  have hmax : uint32Max.toNat = 2 ^ 32 - 1 := rfl
  have hn := n.isLt
  unfold incrementSaturating
  by_cases h : n = uint32Max
  · rw [if_neg (not_not.2 h), h]
    omega
  · have hne : n.toNat ≠ 2 ^ 32 - 1 := fun he => h (BitVec.eq_of_toNat_eq (he.trans hmax.symm))
    have hone : (1 : U32).toNat = 1 := rfl
    rw [if_pos h, BitVec.toNat_add, hone]
    omega

end OpenRef
