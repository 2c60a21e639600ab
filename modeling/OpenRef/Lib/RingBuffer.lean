import Mathlib.Data.List.DropRight
import Mathlib.Tactic.Common
/-!
# Ring buffers

`n` cells, the index of the oldest entry and the number of entries; entry `i` is
in cell `(head + i) % n`. `toList` is the queue the ring stands for, and the two
operations are the ones of a list: `toList_popFront`, `toList_pushBack`.
-/

/-- A ring of `n` cells. -/
structure RingBuffer (α : Type*) (n : Nat) where
  cells : Fin n → α
  head : Fin n
  count : Nat
  count_le : count ≤ n

namespace RingBuffer

variable {α : Type*} {n : Nat}

/-- The cell that is `i` places behind the head. -/
def index (r : RingBuffer α n) (i : Nat) : Fin n := ⟨(r.head.val + i) % n, Nat.mod_lt _ r.head.pos⟩

/-- The entries, the oldest first. -/
def toList (r : RingBuffer α n) : List α := (List.range r.count).map fun i => r.cells (r.index i)

/-- An empty ring whose cells hold `a`. -/
def empty (a : α) (hn : 0 < n) : RingBuffer α n := ⟨fun _ => a, ⟨0, hn⟩, 0, Nat.zero_le n⟩

/-- The oldest entry. -/
def front (r : RingBuffer α n) : α := r.cells r.head

/-- `head = (head + 1) % n; count--`. -/
def popFront (r : RingBuffer α n) : RingBuffer α n :=
  ⟨r.cells, r.index 1, r.count - 1, Nat.le_trans (Nat.sub_le _ _) r.count_le⟩

/-- `tail = (head + count) % n; entries[tail] = a; count++`, for a ring with room. -/
def pushBack (r : RingBuffer α n) (a : α) : RingBuffer α n :=
  if h : r.count < n then
    ⟨fun c => if c = r.index r.count then a else r.cells c, r.head, r.count + 1, h⟩
  else r

/-- An entry pushed after the oldest one of a full ring was dropped. -/
def pushDropping (r : RingBuffer α n) (a : α) : RingBuffer α n :=
  if r.count = n then r.popFront.pushBack a else r.pushBack a

@[simp] theorem length_toList (r : RingBuffer α n) : r.toList.length = r.count := by simp [toList]

@[simp] theorem toList_empty (a : α) (hn : 0 < n) : (empty a hn).toList = [] := rfl

theorem toList_eq_nil (r : RingBuffer α n) : r.toList = [] ↔ r.count = 0 := by
  rw [← List.length_eq_zero_iff, length_toList]

theorem index_inj (r : RingBuffer α n) {i j : Nat} (hi : i < n) (hj : j < n) (h : r.index i = r.index j) :
    i = j := by
  have hv : (r.head.val + i) % n = (r.head.val + j) % n := congrArg Fin.val h
  have hh := r.head.isLt
  rcases Nat.lt_or_ge (r.head.val + i) n with h1 | h1 <;> rcases Nat.lt_or_ge (r.head.val + j) n with h2 | h2
  · rw [Nat.mod_eq_of_lt h1, Nat.mod_eq_of_lt h2] at hv; omega
  · rw [Nat.mod_eq_of_lt h1, Nat.mod_eq_sub_mod h2, Nat.mod_eq_of_lt (by omega)] at hv; omega
  · rw [Nat.mod_eq_of_lt h2, Nat.mod_eq_sub_mod h1, Nat.mod_eq_of_lt (by omega)] at hv; omega
  · rw [Nat.mod_eq_sub_mod h1, Nat.mod_eq_sub_mod h2, Nat.mod_eq_of_lt (by omega),
      Nat.mod_eq_of_lt (by omega)] at hv
    omega

theorem index_popFront (r : RingBuffer α n) (i : Nat) : r.popFront.index i = r.index (i + 1) := by
  refine Fin.ext ?_
  change ((r.head.val + 1) % n + i) % n = (r.head.val + (i + 1)) % n
  rw [Nat.mod_add_mod]
  congr 1; omega

theorem count_popFront (r : RingBuffer α n) (h : 0 < r.count) : r.popFront.count + 1 = r.count := Nat.sub_add_cancel h

theorem toList_popFront (r : RingBuffer α n) (h : 0 < r.count) : r.toList = r.front :: r.popFront.toList := by
  obtain ⟨k, hk⟩ := Nat.exists_eq_add_of_lt h
  have h0 : r.index 0 = r.head := Fin.ext (Nat.mod_eq_of_lt r.head.isLt)
  have hc : r.popFront.count = k := by simp [popFront, hk]
  rw [toList, toList, hc, hk, Nat.zero_add, List.range_succ_eq_map, List.map_cons, List.map_map]
  refine congrArg₂ _ (by rw [h0, front]) (List.map_congr_left fun i _ => ?_)
  rw [Function.comp_apply, index_popFront]
  rfl

theorem toList_pushBack (r : RingBuffer α n) (a : α) (h : r.count < n) :
    (r.pushBack a).toList = r.toList ++ [a] := by
  have hi (i : Nat) : (r.pushBack a).index i = r.index i := by
    unfold pushBack; rw [dif_pos h]; rfl
  have hcount : (r.pushBack a).count = r.count + 1 := by unfold pushBack; rw [dif_pos h]
  have hcells (c : Fin n) : (r.pushBack a).cells c = if c = r.index r.count then a else r.cells c := by
    unfold pushBack; rw [dif_pos h]
  rw [toList, hcount, List.range_succ, List.map_append, toList]
  refine congrArg₂ _ (List.map_congr_left fun i him => ?_) (by simp [hi, hcells])
  have hne : r.index i ≠ r.index r.count := fun he => by
    have hlt := List.mem_range.1 him
    have := index_inj r (by omega) h he
    omega
  rw [hi, hcells, if_neg hne]

/-- A dropping push keeps the `n` latest entries. -/
theorem toList_pushDropping (r : RingBuffer α n) (a : α) : (r.pushDropping a).toList = (r.toList ++ [a]).rtake n := by
  have hle := r.count_le
  have hn := r.head.pos
  unfold pushDropping
  split
  · rename_i hfull
    have hpop := toList_popFront r (by omega)
    have hlt : r.popFront.count < n := by simp only [popFront]; omega
    have hlen := length_toList r
    rw [toList_pushBack _ _ hlt, List.rtake, List.length_append, hlen, hpop]
    simp [hfull]
  · rw [toList_pushBack _ _ (by omega), List.rtake, List.length_append, length_toList]
    have : r.count + [a].length - n = 0 := by simp; omega
    rw [this, List.drop_zero]

end RingBuffer
