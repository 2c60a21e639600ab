import Mathlib.Tactic.Common
/-!
# Ledgers of a queue

What a queue took in is what has left it, each entry with one fate, followed by what
still waits. A ledger is the list of the entries gone and their fates, in their
order; `settled` are those of one fate.
-/

namespace Ledger

variable {α φ : Type*} [DecidableEq φ]

/-- The entries that left with this fate. -/
def settled (gone : List (α × φ)) (fate : φ) : List α := (gone.filter fun e => e.2 = fate).map Prod.fst

@[simp] theorem settled_nil (fate : φ) : settled ([] : List (α × φ)) fate = [] := rfl

theorem settled_append (gone more : List (α × φ)) (fate : φ) :
    settled (gone ++ more) fate = settled gone fate ++ settled more fate := by
  simp [settled]

theorem settled_concat_self (gone : List (α × φ)) (a : α) (fate : φ) :
    settled (gone ++ [(a, fate)]) fate = settled gone fate ++ [a] := by
  simp [settled]

theorem settled_concat_of_ne (gone : List (α × φ)) (a : α) {f fate : φ} (h : f ≠ fate) :
    settled (gone ++ [(a, f)]) fate = settled gone fate := by
  simp [settled, h]

/-- Entries that all leave with one fate. -/
theorem settled_map_self (as : List α) (fate : φ) : settled (as.map fun a => (a, fate)) fate = as := by
  induction as with
  | nil => rfl
  | cons a as ih =>
    rw [List.map_cons, ← List.singleton_append, settled_append, ih]
    simp [settled]

theorem settled_map_of_ne (as : List α) {f fate : φ} (h : f ≠ fate) : settled (as.map fun a => (a, f)) fate = [] := by
  induction as with
  | nil => rfl
  | cons a as ih =>
    rw [List.map_cons, ← List.singleton_append, settled_append, ih]
    simp [settled, h]

omit [DecidableEq φ] in
theorem map_fst_map (as : List α) (fate : φ) : (as.map fun a => (a, fate)).map Prod.fst = as := by
  rw [List.map_map]
  exact List.map_id as

end Ledger
