import Mathlib.Order.Lattice
import Mathlib.Order.Defs.LinearOrder
import Mathlib.Tactic.Common
/-!
# Spans that start one after the other

Spans `[start, stop)` of a linear order are added in the order of their starts. When one is added, it and
every earlier one that has not stopped are marked as `met`. Nothing is marked at any other time, and still
the marks are exact: a span is marked exactly when it overlaps another one (`Exact`, `add_exact`).
-/

namespace Sweep

variable {τ : Type*} [LinearOrder τ]

/-- A span `[start, stop)`, and whether it is marked. -/
structure Span (τ : Type*) where
  start : τ
  stop : τ
  met : Bool

namespace Span

def Overlaps (a b : Span τ) : Prop := a.start < b.stop ∧ b.start < a.stop

theorem Overlaps.symm {a b : Span τ} (h : a.Overlaps b) : b.Overlaps a := ⟨h.2, h.1⟩

/-- The mark of a span that is there when another one starts. -/
def meet (now : τ) (s : Span τ) : Span τ := { s with met := s.met || decide (now < s.stop) }

theorem meet_overlaps {now : τ} {a b : Span τ} : (a.meet now).Overlaps (b.meet now) ↔ a.Overlaps b := Iff.rfl

end Span

/-- A span `[now, stop)` joins the earlier ones. -/
def add (now stop : τ) (l : List (Span τ)) : List (Span τ) :=
  l.map (Span.meet now) ++ [⟨now, stop, l.any fun s => decide (now < s.stop)⟩]

/-- The marked spans are those that overlap another one. -/
def Exact (l : List (Span τ)) : Prop := ∀ (k : ℕ) (s : Span τ), l[k]? = some s →
  (s.met = true ↔ ∃ j t, j ≠ k ∧ l[j]? = some t ∧ s.Overlaps t)

theorem exact_nil : Exact ([] : List (Span τ)) := by
  intro k s h
  cases h

/-- What is in a mapped list that one more element is put behind. -/
theorem getElem?_map_concat {α β : Type*} {f : α → β} {l : List α} {x y : β} {k : ℕ} :
    (l.map f ++ [x])[k]? = some y ↔ (∃ t, l[k]? = some t ∧ f t = y) ∨ (k = l.length ∧ y = x) := by
  rcases Nat.lt_trichotomy k l.length with hlt | heq | hgt
  · rw [List.getElem?_append_left (by rwa [List.length_map]), List.getElem?_map, Option.map_eq_some_iff]
    exact ⟨.inl, fun h => h.resolve_right fun he => absurd he.1 hlt.ne⟩
  · subst heq
    rw [List.getElem?_append_right (by rw [List.length_map]), List.length_map, Nat.sub_self]
    refine ⟨fun h => .inr ⟨rfl, (Option.some.inj h).symm⟩, fun h => ?_⟩
    rcases h with ⟨t, ht, -⟩ | ⟨-, rfl⟩
    · rw [List.getElem?_eq_none (Nat.le_refl _)] at ht
      cases ht
    · rfl
  · have hnone : (l.map f ++ [x])[k]? = none := by
      rw [List.getElem?_eq_none_iff, List.length_append, List.length_map, List.length_singleton]
      exact hgt
    rw [hnone]
    refine ⟨fun h => (by cases h), fun h => ?_⟩
    rcases h with ⟨t, ht, -⟩ | ⟨rfl, -⟩
    · rw [List.getElem?_eq_none hgt.le] at ht
      cases ht
    · exact absurd hgt (lt_irrefl _)

section
variable {now stop : τ} {l : List (Span τ)} {k : ℕ} {s : Span τ}

/-- The spans after an addition: the earlier ones, and the new one at the end. -/
theorem getElem?_add : (add now stop l)[k]? = some s ↔ (∃ t, l[k]? = some t ∧ t.meet now = s) ∨
    (k = l.length ∧ s = ⟨now, stop, l.any fun t => decide (now < t.stop)⟩) := getElem?_map_concat

theorem getElem?_add_old {t : Span τ} (h : l[k]? = some t) : (add now stop l)[k]? = some (t.meet now) :=
  getElem?_add.2 (.inl ⟨t, h, rfl⟩)

theorem getElem?_add_new : (add now stop l)[l.length]? = some ⟨now, stop, l.any fun t => decide (now < t.stop)⟩ :=
  getElem?_add.2 (.inr ⟨rfl, rfl⟩)

/-- **An addition keeps the marks exact** when no earlier span starts later. -/
theorem add_exact (hl : Exact l) (hstart : ∀ t ∈ l, t.start ≤ now) (hstop : now < stop) :
    Exact (add now stop l) := by
  -- an earlier span overlaps the new one exactly when it has not stopped
  have hnew (t : Span τ) (ht : t ∈ l) (met : Bool) : (t.meet now).Overlaps ⟨now, stop, met⟩ ↔ now < t.stop :=
    ⟨fun h => h.2, fun h => ⟨(hstart t ht).trans_lt hstop, h⟩⟩
  intro k s hs
  rcases getElem?_add.1 hs with ⟨t, ht, rfl⟩ | ⟨rfl, rfl⟩
  · have hmem := List.mem_of_getElem? ht
    have hk : k ≠ l.length := (List.getElem?_eq_some_iff.1 ht).1.ne
    have hmet : (t.meet now).met = true ↔ t.met = true ∨ now < t.stop := by
      unfold Span.meet
      rw [Bool.or_eq_true, decide_eq_true_eq]
    rw [hmet, hl k t ht]
    constructor
    · rintro (⟨j, u, hj, hu, hover⟩ | hrun)
      · exact ⟨j, u.meet now, hj, getElem?_add_old hu, hover⟩
      · exact ⟨l.length, _, hk.symm, getElem?_add_new, (hnew t hmem _).2 hrun⟩
    · rintro ⟨j, u, hj, hu, hover⟩
      rcases getElem?_add.1 hu with ⟨v, hv, rfl⟩ | ⟨-, rfl⟩
      · exact .inl ⟨j, v, hj, hv, Span.meet_overlaps.1 hover⟩
      · exact .inr ((hnew t hmem _).1 hover)
  · dsimp only
    rw [List.any_eq_true]
    constructor
    · rintro ⟨t, ht, hrun⟩
      obtain ⟨j, hj, hget⟩ := List.getElem_of_mem ht
      refine ⟨j, t.meet now, hj.ne, getElem?_add_old (List.getElem?_eq_some_iff.2 ⟨hj, hget⟩), ?_⟩
      exact ((hnew t ht _).2 (of_decide_eq_true hrun)).symm
    · rintro ⟨j, u, hj, hu, hover⟩
      rcases getElem?_add.1 hu with ⟨t, ht, rfl⟩ | ⟨rfl, -⟩
      · have hmem := List.mem_of_getElem? ht
        exact ⟨t, hmem, decide_eq_true ((hnew t hmem _).1 hover.symm)⟩
      · exact absurd rfl hj

end

end Sweep
