import Mathlib.Tactic.Common
/-!
# Journals

A context beside the calls that were made on it, the first one first. `Wrote new` says which entries were added between
two journals, `Adds P` that those added satisfy `P`.
-/

/-- A context and the entries so far. -/
structure Journal (κ ε : Type*) where
  context : κ
  entries : List ε

namespace Journal

variable {κ ε ρ : Type*}

/-- A call, with an entry about its answer. -/
def call (j : Journal κ ε) (f : κ → κ × ρ) (entry : ρ → ε) : Journal κ ε × ρ :=
  (⟨(f j.context).1, j.entries ++ [entry (f j.context).2]⟩, (f j.context).2)

@[simp] theorem call_answer (j : Journal κ ε) (f : κ → κ × ρ) (entry : ρ → ε) :
    (j.call f entry).2 = (f j.context).2 := rfl

@[simp] theorem call_context (j : Journal κ ε) (f : κ → κ × ρ) (entry : ρ → ε) :
    (j.call f entry).1.context = (f j.context).1 := rfl

/-- These entries were added. -/
def Wrote (j : Journal κ ε) (new : List ε) (j' : Journal κ ε) : Prop := j'.entries = j.entries ++ new

/-- The entries that were added satisfy `P`. -/
def Adds (P : ε → Prop) (j j' : Journal κ ε) : Prop := ∃ new, j.Wrote new j' ∧ ∀ e ∈ new, P e

theorem Wrote.refl (j : Journal κ ε) : j.Wrote [] j := (List.append_nil _).symm

theorem Wrote.trans {j j' j'' : Journal κ ε} {new new' : List ε} (h : j.Wrote new j') (h' : j'.Wrote new' j'') :
    j.Wrote (new ++ new') j'' := by
  unfold Wrote at *
  rw [h', h, List.append_assoc]

theorem Wrote.trans_eq {j j' : Journal κ ε} {new new' : List ε} (h : j.Wrote new j') (hnew : new = new') :
    j.Wrote new' j' := hnew ▸ h

theorem Wrote.unique {j j' : Journal κ ε} {new new' : List ε} (h : j.Wrote new j') (h' : j.Wrote new' j') :
    new = new' := List.append_cancel_left (h.symm.trans h')

theorem call_wrote {j : Journal κ ε} {f : κ → κ × ρ} {entry : ρ → ε} {r : ρ} (h : (j.call f entry).2 = r) :
    j.Wrote [entry r] (j.call f entry).1 := by
  rw [← h]
  rfl

/-- One more call. -/
theorem Wrote.call {j j' : Journal κ ε} {new : List ε} (h : j.Wrote new j') (f : κ → κ × ρ) (entry : ρ → ε) :
    j.Wrote (new ++ [entry (f j'.context).2]) (j'.call f entry).1 := h.trans (call_wrote rfl)

variable {P Q : ε → Prop}

theorem Wrote.adds {j j' : Journal κ ε} {new : List ε} (h : j.Wrote new j') (hP : ∀ e ∈ new, P e) : j.Adds P j' :=
  ⟨new, h, hP⟩

theorem Adds.refl (P : ε → Prop) (j : Journal κ ε) : j.Adds P j := ⟨[], .refl j, fun _ he => by cases he⟩

theorem Adds.trans {j j' j'' : Journal κ ε} (h : j.Adds P j') (h' : j'.Adds P j'') : j.Adds P j'' := by
  obtain ⟨new, hw, hP⟩ := h
  obtain ⟨new', hw', hP'⟩ := h'
  refine ⟨new ++ new', hw.trans hw', fun e he => ?_⟩
  rcases List.mem_append.1 he with he | he
  · exact hP e he
  · exact hP' e he

theorem Adds.mono {j j' : Journal κ ε} (h : j.Adds P j') (hPQ : ∀ e, P e → Q e) : j.Adds Q j' := by
  obtain ⟨new, hw, hP⟩ := h
  exact ⟨new, hw, fun e he => hPQ e (hP e he)⟩

/-- In a journal that was empty, the entries are those added. -/
theorem Wrote.entries {k : κ} {j' : Journal κ ε} {new : List ε} (h : (⟨k, []⟩ : Journal κ ε).Wrote new j') :
    j'.entries = new := h

theorem Adds.entries {k : κ} {j' : Journal κ ε} (h : (⟨k, []⟩ : Journal κ ε).Adds P j') : ∀ e ∈ j'.entries, P e := by
  obtain ⟨new, hw, hP⟩ := h
  rwa [hw.entries]

theorem call_adds {j : Journal κ ε} {f : κ → κ × ρ} {entry : ρ → ε} (h : ∀ r, P (entry r)) :
    j.Adds P (j.call f entry).1 := by
  refine (call_wrote rfl).adds fun e he => ?_
  rw [List.mem_singleton.1 he]
  exact h _

end Journal
