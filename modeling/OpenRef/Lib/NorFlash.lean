import Mathlib.Tactic.Common
/-!
# NOR flash

A byte memory with erase, program and read calls, each of which may be refused or
cut short: what a call that did not do its work leaves in its range is scripted.
Every erase and program is recorded. `Confined R` is the frame relation: what
happened between two states stayed in `R`. It is reflexive and transitive, and
each call is confined to its own range.
-/

/-- One erase or program: its first address and the number of bytes. -/
structure FlashOp where
  address : Nat
  length : Nat
deriving DecidableEq, Repr

namespace FlashOp

/-- An address in the range of an operation. -/
def Touches (op : FlashOp) (x : Nat) : Prop := op.address ≤ x ∧ x < op.address + op.length

instance (op : FlashOp) (x : Nat) : Decidable (op.Touches x) :=
  inferInstanceAs (Decidable (_ ∧ _))

end FlashOp

/-- How a call ends: what it reports, and what it leaves in its range when it did not do its work. -/
structure FlashCall where
  reported : Bool
  spoiled : Option (Nat → BitVec 8)

/-- The memory, the erases and programs so far, the latest first, and how the next calls end. -/
structure Flash where
  mem : Nat → BitVec 8
  ops : List FlashOp
  calls : List FlashCall

namespace Flash

/-- A range of the memory replaced. -/
def overwrite (mem : Nat → BitVec 8) (op : FlashOp) (content : Nat → BitVec 8) : Nat → BitVec 8 :=
  fun x => if op.Touches x then content x else mem x

theorem overwrite_inside {op : FlashOp} {x : Nat} (h : op.Touches x) (mem content : Nat → BitVec 8) :
    overwrite mem op content x = content x := if_pos h

theorem overwrite_outside {op : FlashOp} {x : Nat} (h : ¬ op.Touches x) (mem content : Nat → BitVec 8) :
    overwrite mem op content x = mem x := if_neg h

/-- The next call's end; a call beyond the script does its work. -/
def nextCall (f : Flash) : FlashCall := f.calls.headD ⟨true, none⟩

/-- An erase or program with the content it makes. -/
def write (f : Flash) (op : FlashOp) (content : Nat → BitVec 8) : Flash × Bool :=
  (⟨overwrite f.mem op (f.nextCall.spoiled.getD content), op :: f.ops, f.calls.tail⟩, f.nextCall.reported)

/-- Erased bytes are 0xff. -/
def erase (f : Flash) (address length : Nat) : Flash × Bool := f.write ⟨address, length⟩ fun _ => 0xff

/-- Programming clears bits. -/
def program (f : Flash) (address : Nat) (data : List (BitVec 8)) : Flash × Bool :=
  f.write ⟨address, data.length⟩ fun x => f.mem x &&& data.getD (x - address) 0xff

/-- The bytes from an address on. -/
def bytesAt (mem : Nat → BitVec 8) (address length : Nat) : List (BitVec 8) :=
  (List.range length).map fun i => mem (address + i)

@[simp] theorem length_bytesAt (mem : Nat → BitVec 8) (address length : Nat) :
    (bytesAt mem address length).length = length := by
  rw [bytesAt, List.length_map, List.length_range]

theorem bytesAt_append (mem : Nat → BitVec 8) (address m n : Nat) :
    bytesAt mem address (m + n) = bytesAt mem address m ++ bytesAt mem (address + m) n := by
  unfold bytesAt
  rw [List.range_add, List.map_append, List.map_map]
  simp only [Function.comp_def, Nat.add_assoc]

/-- A prefix and the rest of what is read at an address. -/
theorem bytesAt_split (mem : Nat → BitVec 8) (address : Nat) {n k : Nat} (h : k ≤ n) :
    (bytesAt mem address n).take k = bytesAt mem address k ∧
      (bytesAt mem address n).drop k = bytesAt mem (address + k) (n - k) := by
  have hlength := length_bytesAt mem address k
  have happend := bytesAt_append mem address k (n - k)
  rw [Nat.add_sub_of_le h] at happend
  rw [happend]
  exact ⟨List.take_left' hlength, List.drop_left' hlength⟩

theorem bytesAt_congr {mem mem' : Nat → BitVec 8} {address length : Nat}
    (h : ∀ x, address ≤ x → x < address + length → mem' x = mem x) :
    bytesAt mem' address length = bytesAt mem address length := by
  refine List.map_congr_left fun i hi => ?_
  exact h _ (Nat.le_add_right _ _) (Nat.add_lt_add_left (List.mem_range.1 hi) _)

/-- A list whose bytes stand in the memory one after the other is what is read there. -/
theorem bytesAt_eq {mem : Nat → BitVec 8} {address n : Nat} {data : List (BitVec 8)} (hn : data.length = n)
    (h : ∀ i (hi : i < data.length), mem (address + i) = data[i]) : bytesAt mem address n = data := by
  have hlength := length_bytesAt mem address n
  unfold bytesAt at hlength ⊢
  refine List.ext_getElem (hlength.trans hn.symm) fun i hi hi' => ?_
  rw [List.getElem_map, List.getElem_range, h i hi']

/-- A read that is answered gives the bytes. -/
def read (f : Flash) (address length : Nat) : Flash × Option (List (BitVec 8)) :=
  ({ f with calls := f.calls.tail }, if f.nextCall.reported then some (bytesAt f.mem address length) else none)

/-- What happened from `f` to `g` stayed in `R`. -/
structure Confined (R : Nat → Prop) (f g : Flash) : Prop where
  ops : ∃ new, g.ops = new ++ f.ops ∧ ∀ op ∈ new, ∀ x, op.Touches x → R x
  mem : ∀ x, ¬ R x → g.mem x = f.mem x

namespace Confined

variable {R : Nat → Prop} {f g h : Flash}

theorem refl (R : Nat → Prop) (f : Flash) : Confined R f f :=
  ⟨⟨[], rfl, fun op hop => by cases hop⟩, fun _ _ => rfl⟩

theorem trans (hfg : Confined R f g) (hgh : Confined R g h) : Confined R f h := by
  obtain ⟨n₁, h₁, hn₁⟩ := hfg.ops
  obtain ⟨n₂, h₂, hn₂⟩ := hgh.ops
  refine ⟨⟨n₂ ++ n₁, by rw [h₂, h₁, List.append_assoc], ?_⟩, fun x hx => ?_⟩
  · intro op hop
    rcases List.mem_append.1 hop with hop | hop
    · exact hn₂ op hop
    · exact hn₁ op hop
  · rw [hgh.mem x hx, hfg.mem x hx]

/-- An erase or program is confined to its own range. -/
theorem write {op : FlashOp} (hop : ∀ x, op.Touches x → R x) (f : Flash) (content : Nat → BitVec 8) :
    Confined R f (f.write op content).1 := by
  refine ⟨⟨[op], rfl, ?_⟩, fun x hx => ?_⟩
  · intro op' h'
    rw [List.mem_singleton.1 h']
    exact hop
  · exact if_neg fun ht => hx (hop x ht)

/-- A read changes nothing. -/
theorem read (R : Nat → Prop) (f : Flash) (address length : Nat) :
    Confined R f (f.read address length).1 := ⟨⟨[], rfl, fun op hop => by cases hop⟩, fun _ _ => rfl⟩

/-- A region outside `R` is neither touched nor changed. -/
theorem avoids (hc : Confined R f g) (hf : ∀ op ∈ f.ops, ∀ x, op.Touches x → R x) :
    ∀ op ∈ g.ops, ∀ x, op.Touches x → R x := by
  obtain ⟨new, hnew, hin⟩ := hc.ops
  intro op hop
  rw [hnew] at hop
  rcases List.mem_append.1 hop with hop | hop
  · exact hin op hop
  · exact hf op hop

end Confined

end Flash
