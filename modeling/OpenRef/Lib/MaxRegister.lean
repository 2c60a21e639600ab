import Mathlib.Order.Bounds.Basic
import Mathlib.Order.MinMax
import Mathlib.Tactic.Common
/-!
# Max-registers

A machine holds a `view` from a linear order and takes an input exactly when the
input's `key` is not below it: the view becomes the key, and what else the machine
derives from the view (`derived`) is derived anew. Whatever the order and however
often the inputs arrive, it ends with the greatest of its view and their keys
(`isGreatest_view`), so two runs over the same keys end alike (`agree`).
-/

variable {σ ι α β : Type*} [LinearOrder α]

/-- `step` is a max-register on the states that meet `Inv` and the inputs that meet `Fit`. -/
structure MaxRegister (step : σ → ι → σ) (view : σ → α) (key : ι → α) (derived : σ → β) (derive : α → β)
    (Inv : σ → Prop) (Fit : ι → Prop) : Prop where
  inv : ∀ s i, Inv s → Fit i → Inv (step s i)
  view_step : ∀ s i, Inv s → Fit i → view (step s i) = max (view s) (key i)
  derived_step : ∀ s i, Inv s → Fit i →
    derived (step s i) = if view s ≤ key i then derive (key i) else derived s

namespace MaxRegister

variable {step : σ → ι → σ} {view : σ → α} {key : ι → α} {derived : σ → β} {derive : α → β} {Inv : σ → Prop}
  {Fit : ι → Prop}

theorem inv_foldl (h : MaxRegister step view key derived derive Inv Fit) :
    ∀ {s : σ} {is : List ι}, Inv s → (∀ i ∈ is, Fit i) → Inv (is.foldl step s)
  | _, [], hs, _ => hs
  | s, i :: is, hs, hi => by
    rw [List.foldl_cons]
    exact h.inv_foldl (h.inv s i hs (hi i List.mem_cons_self)) fun j hj => hi j (List.mem_cons_of_mem i hj)

theorem view_foldl (h : MaxRegister step view key derived derive Inv Fit) :
    ∀ {s : σ} {is : List ι}, Inv s → (∀ i ∈ is, Fit i) →
      view (is.foldl step s) = (is.map key).foldl max (view s)
  | _, [], _, _ => rfl
  | s, i :: is, hs, hi => by
    have hf := hi i List.mem_cons_self
    rw [List.foldl_cons, h.view_foldl (h.inv s i hs hf) fun j hj => hi j (List.mem_cons_of_mem i hj),
      h.view_step s i hs hf]
    rfl

theorem isGreatest_foldl_max : ∀ (a : α) (l : List α), IsGreatest (insert a {b | b ∈ l}) (l.foldl max a)
  | a, [] => by simp
  | a, b :: l => by
    obtain ⟨hm, hub⟩ := isGreatest_foldl_max (max a b) l
    rw [List.foldl_cons]
    refine ⟨?_, ?_⟩
    · rcases Set.mem_insert_iff.1 hm with he | hl
      · rcases max_choice a b with hab | hab
        · exact .inl (he.trans hab)
        · exact .inr (List.mem_cons.2 (.inl (he.trans hab)))
      · exact .inr (List.mem_cons_of_mem b hl)
    · have hab : max a b ≤ l.foldl max (max a b) := hub (Set.mem_insert _ _)
      intro c hc
      rcases Set.mem_insert_iff.1 hc with rfl | hc
      · exact (le_max_left c b).trans hab
      · rcases List.mem_cons.1 hc with rfl | hc
        · exact (le_max_right a c).trans hab
        · exact hub (.inr hc)

/-- **The view after a run** is the greatest of the view before it and the keys of its inputs. -/
theorem isGreatest_view (h : MaxRegister step view key derived derive Inv Fit) {s : σ} {is : List ι} (hs : Inv s)
    (hi : ∀ i ∈ is, Fit i) : IsGreatest (insert (view s) {b | b ∈ is.map key}) (view (is.foldl step s)) := by
  rw [h.view_foldl hs hi]
  exact isGreatest_foldl_max _ _

theorem view_le (h : MaxRegister step view key derived derive Inv Fit) {s : σ} {is : List ι} (hs : Inv s)
    (hi : ∀ i ∈ is, Fit i) : view s ≤ view (is.foldl step s) :=
  (h.isGreatest_view hs hi).2 (Set.mem_insert _ _)

/-- What is derived from the view is derived from the last view as soon as one input was taken. -/
theorem derived_foldl (h : MaxRegister step view key derived derive Inv Fit) :
    ∀ {s : σ} {is : List ι}, Inv s → (∀ i ∈ is, Fit i) →
      derived (is.foldl step s) =
        if ∃ i ∈ is, view s ≤ key i then derive (view (is.foldl step s)) else derived s
  | _, [], _, _ => by simp
  | s, i :: is, hs, hi => by
    have hf := hi i List.mem_cons_self
    have hrest : ∀ j ∈ is, Fit j := fun j hj => hi j (List.mem_cons_of_mem i hj)
    have hs' := h.inv s i hs hf
    have hv := h.view_step s i hs hf
    rw [List.foldl_cons, h.derived_foldl hs' hrest]
    by_cases hlater : ∃ j ∈ is, view (step s i) ≤ key j
    · obtain ⟨j, hj, hle⟩ := hlater
      have hsj : view s ≤ key j := ((le_max_left _ _).trans_eq hv.symm).trans hle
      rw [if_pos ⟨j, hj, hle⟩, if_pos ⟨j, List.mem_cons_of_mem i hj, hsj⟩]
    · -- no later input was taken: the view is still the one after `i`
      have hsame : view (is.foldl step (step s i)) = view (step s i) := by
        rcases Set.mem_insert_iff.1 (h.isGreatest_view hs' hrest).1 with he | he
        · exact he
        · obtain ⟨j, hj, he⟩ := List.mem_map.1 he
          exact absurd ⟨j, hj, (h.view_le hs' hrest).trans_eq he.symm⟩ hlater
      rw [if_neg hlater, h.derived_step s i hs hf, hsame, hv]
      by_cases htake : view s ≤ key i
      · rw [if_pos htake, if_pos ⟨i, List.mem_cons_self, htake⟩, max_eq_right htake]
      · rw [if_neg htake, if_neg]
        rintro ⟨j, hj, hle⟩
        rcases List.mem_cons.1 hj with rfl | hj
        · exact htake hle
        · exact hlater ⟨j, hj, by rw [hv, max_eq_left (le_of_not_ge htake)]; exact hle⟩

/-- **Order and duplicates do not matter**: two runs over the same keys end with the same view
and what is derived from it. -/
theorem agree (h : MaxRegister step view key derived derive Inv Fit) {s : σ} {is js : List ι} (hs : Inv s)
    (hi : ∀ i ∈ is, Fit i) (hj : ∀ j ∈ js, Fit j) (hsame : ∀ b, b ∈ is.map key ↔ b ∈ js.map key) :
    view (is.foldl step s) = view (js.foldl step s) ∧ derived (is.foldl step s) = derived (js.foldl step s) := by
  have hset : {b | b ∈ is.map key} = {b | b ∈ js.map key} := Set.ext hsame
  have hview : view (is.foldl step s) = view (js.foldl step s) := by
    have hg := h.isGreatest_view hs hi
    rw [hset] at hg
    exact hg.unique (h.isGreatest_view hs hj)
  refine ⟨hview, ?_⟩
  have htaken : (∃ i ∈ is, view s ≤ key i) ↔ ∃ j ∈ js, view s ≤ key j := by
    have hkeys : ∀ l : List ι, (∃ i ∈ l, view s ≤ key i) ↔ ∃ b ∈ l.map key, view s ≤ b := fun l => by simp
    simp only [hkeys, hsame]
  rw [h.derived_foldl hs hi, h.derived_foldl hs hj, hview]
  simp only [htaken]

end MaxRegister
