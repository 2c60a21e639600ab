import OpenRef.Base
/-!
# The persisted boot counter (openref_boot_counter.c)

`advance` reads the counter, writes its successor and reads it back.
`advance_value`: over storage that keeps what it was given, the stored counter
never falls, and a counter that `advance` hands out is above all before it.
-/

namespace OpenRef.Security

/-- The storage callbacks: a read may fail or find nothing, a write may fail. -/
structure CounterBackend (κ : Type) where
  read : κ → κ × Option (Option U32)
  write : κ → U32 → κ × Bool

/-- `openref_boot_counter_advance` (:5-33). -/
def advanceBootCounter {κ : Type} (be : CounterBackend κ) (k : κ) : κ × Option U32 :=
  let r := be.read k
  match r.2 with
  | none => (r.1, none)
  | some previous =>
    if previous = some uint32Max then (r.1, none)
    else
      let next := match previous with
        | some p => p + 1
        | none => 1
      let w := be.write r.1 next
      if !w.2 then (w.1, none)
      else
        let v := be.read w.1
        if v.2 = some (some next) then (v.1, some next) else (v.1, none)

/-- Storage: the counter it holds, which of the next reads answer and what the next writes do. -/
structure CounterStore where
  value : Option U32
  reads : List Bool
  writes : List Exchange
deriving DecidableEq, Repr

namespace CounterStore

/-- Storage that keeps what it was given. -/
def backend : CounterBackend CounterStore where
  read s := ({ s with reads := s.reads.tail }, if s.reads.headD true then some s.value else none)
  write s v :=
    ({ s with
      value := if (s.writes.headD .done).landed then some v else s.value
      writes := s.writes.tail }, (s.writes.headD .done).reported)

/-- The last boot counter stored, zero before the first. -/
def last (s : CounterStore) : Nat := (s.value.getD 0).toNat

theorem last_write (s : CounterStore) (v : U32) :
    (backend.write s v).1.last = if (s.writes.headD .done).landed then v.toNat else s.last := by
  unfold last backend
  dsimp only
  split <;> rfl

/-- **The stored counter only grows**, and one that is handed out is stored and new. -/
theorem advance_value (s : CounterStore) :
    s.last ≤ (advanceBootCounter backend s).1.last ∧
      ∀ b, (advanceBootCounter backend s).2 = some b →
        s.last < b.toNat ∧ (advanceBootCounter backend s).1.last = b.toNat := by
  have hread (t : CounterStore) : (backend.read t).1.last = t.last := rfl
  unfold advanceBootCounter
  dsimp only
  cases hr : (backend.read s).2 with
  | none => exact ⟨Nat.le_of_eq (hread s).symm, fun b h => by cases h⟩
  | some previous =>
    have hprev : previous = s.value := by
      unfold backend at hr
      dsimp only at hr
      split at hr
      · exact (Option.some.inj hr).symm
      · cases hr
    subst hprev
    dsimp only
    by_cases hmax : s.value = some uint32Max
    · rw [if_pos hmax]
      exact ⟨Nat.le_of_eq (hread s).symm, fun b h => by cases h⟩
    · rw [if_neg hmax]
      -- the counter to write is the next one
      generalize hnext : (match s.value with | some p => p + 1 | none => 1 : U32) = next
      have hlt : s.last < next.toNat := by
        subst hnext
        unfold last
        cases hv : s.value with
        | none => decide
        | some p =>
          rw [hv, Option.some.injEq] at hmax
          have hne : p.toNat ≠ uint32Max.toNat := fun h => hmax (BitVec.eq_of_toNat_eq h)
          have hle := p.isLt
          have hmax' : uint32Max.toNat = 4294967295 := rfl
          have h1 : (1 : U32).toNat = 1 := rfl
          rw [Option.getD_some, BitVec.toNat_add, h1]
          omega
      have hwrite := last_write (backend.read s).1 next
      split
      · -- a write that failed may have landed
        refine ⟨?_, fun b h => by cases h⟩
        rw [hwrite]
        split
        · exact Nat.le_of_lt hlt
        · exact Nat.le_of_eq (hread s).symm
      · rename_i hok
        have hlanded : (((backend.read s).1.writes.headD .done)).landed = true := by
          have hrep : ((backend.read s).1.writes.headD .done).reported = true := by simpa [backend] using hok
          revert hrep
          cases (backend.read s).1.writes.headD .done <;> simp [Exchange.landed, Exchange.reported]
        rw [hlanded, if_pos rfl] at hwrite
        have hlast : (backend.read (backend.write (backend.read s).1 next).1).1.last = next.toNat := hwrite
        split
        · refine ⟨by rw [hlast]; exact Nat.le_of_lt hlt, fun b h => ?_⟩
          cases h
          exact ⟨hlt, hlast⟩
        · exact ⟨by rw [hlast]; exact Nat.le_of_lt hlt, fun b h => by cases h⟩

end CounterStore

end OpenRef.Security
