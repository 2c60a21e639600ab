import Mathlib.Data.List.DropRight
import Mathlib.Tactic.Common
/-!
# A bounded queue read at a moving position

A reader plays one position a round. The queue holds offsets from the position
that is due; each round one entry arrives at the constant offset `p`, is taken if
it lies ahead of everything queued, and then the oldest entry beyond the capacity
is dropped; entries behind the due position are discarded, and the offsets move
down by one. The round is a hit when offset 0 is queued.

`hits_iff`: within `k` rounds there is a hit exactly when the entry due in one of
the rounds `m < k` is among the latest `c` of the entries queued at the start and
those taken up to that round.
-/

namespace DueQueue

variable {c : Nat} {fresh : Bool} {p : Int}

/-- One arrival at offset `p`, if arrivals are taken at all. -/
def arrive (c : Nat) (fresh : Bool) (p : Int) (q : List Int) : List Int :=
  if fresh = true ∧ ∀ x ∈ q, x < p then (q ++ [p]).rtake c else q

/-- The queue one position later, without what is behind the present one. -/
def advance (q : List Int) : List Int := (q.filter (0 ≤ ·)).map (· - 1)

/-- A hit within the next rounds. -/
def Hits (c : Nat) (fresh : Bool) (p : Int) : Nat → List Int → Prop
  | 0, _ => False
  | k + 1, q => 0 ∈ arrive c fresh p q ∨ Hits c fresh p k (advance (arrive c fresh p q))

/-- The arrivals of `n` rounds that are taken, as offsets from the first due position. -/
def arrivals (fresh : Bool) (p : Int) (q : List Int) (n : Nat) : List Int :=
  if fresh then ((List.range n).map fun j : Nat => p + (j : Int)).filter fun y => decide (∀ x ∈ q, x < y) else []

/-! ## The latest entries of a list -/

theorem rtake_rtake_append (l r : List Int) (c : Nat) : (l.rtake c ++ r).rtake c = (l ++ r).rtake c := by
  simp only [List.rtake, List.length_append, List.length_drop]
  rcases Nat.le_total l.length c with h | h
  · rw [Nat.sub_eq_zero_of_le h, List.drop_zero, Nat.sub_zero]
  · have h1 : l.length - (l.length - c) + r.length - c = r.length := by omega
    have h2 : l.length + r.length - c = (l.length - c) + r.length := by omega
    have h3 : l.length - c ≤ l.length := by omega
    rw [h1, h2, ← List.drop_drop, List.drop_append_of_le_length h3]

theorem mem_rtake_append {s l : List Int} {c : Nat} {v : Int} (hv : v ∉ s) :
    v ∈ (s ++ l).rtake c ↔ v ∈ l.rtake c := by
  simp only [List.rtake, List.length_append, List.drop_append, List.mem_append]
  constructor
  · rintro (h | h)
    · exact absurd (List.mem_of_mem_drop h) hv
    · have : s.length + l.length - c - s.length = l.length - c ∨
          s.length + l.length - c - s.length = 0 ∧ l.length - c = 0 := by omega
      rcases this with he | ⟨he, he'⟩
      · rwa [he] at h
      · rwa [he, ← he'] at h
  · intro h
    have : s.length + l.length - c - s.length ≤ l.length - c := by omega
    exact .inr (List.mem_of_mem_drop (i := l.length - c - (s.length + l.length - c - s.length))
      (by rwa [List.drop_drop, Nat.add_sub_cancel' this]))

theorem rtake_map {α β : Type*} (f : α → β) (l : List α) (c : Nat) : (l.map f).rtake c = (l.rtake c).map f := by
  simp [List.rtake, List.map_drop]

/-- A sorted queue is what is behind the due position followed by what is not. -/
theorem sorted_split : ∀ {q : List Int}, q.Pairwise (· < ·) →
    q = q.filter (· < 0) ++ q.filter (0 ≤ ·)
  | [], _ => rfl
  | x :: q, h => by
    obtain ⟨hx, hq⟩ := List.pairwise_cons.1 h
    rcases Int.lt_or_le x 0 with hneg | hnn
    · have : ¬ 0 ≤ x := by omega
      simp only [List.filter_cons, hneg, this, decide_true, decide_false, if_true, Bool.false_eq_true,
        if_false, List.cons_append]
      rw [← sorted_split hq]
    · have hnot : ¬ x < 0 := by omega
      have hall : q.filter (· < 0) = [] := by
        simp only [List.filter_eq_nil_iff, decide_eq_true_eq]
        intro y hy
        have := hx y hy
        omega
      have hsplit := sorted_split hq
      rw [hall, List.nil_append] at hsplit
      simp only [List.filter_cons, hnot, hnn, decide_true, decide_false, if_true, Bool.false_eq_true,
        if_false, hall, List.nil_append]
      rw [← hsplit]

theorem arrive_sorted {q : List Int} (hq : q.Pairwise (· < ·)) : (arrive c fresh p q).Pairwise (· < ·) := by
  unfold arrive
  split
  · rename_i h
    refine List.Pairwise.sublist (List.drop_sublist _ _) ?_
    exact List.pairwise_append.2 ⟨hq, List.pairwise_singleton _ _, fun x hx y hy => by
      rw [List.mem_singleton.1 hy]; exact h.2 x hx⟩
  · exact hq

theorem advance_sorted {q : List Int} (hq : q.Pairwise (· < ·)) : (advance q).Pairwise (· < ·) :=
  List.pairwise_map.2 ((hq.filter _).imp fun h => by omega)

/-! ## One round -/

theorem mem_advance {q : List Int} {v : Int} : v ∈ advance q ↔ v + 1 ∈ q ∧ 0 ≤ v + 1 := by
  simp only [advance, List.mem_map, List.mem_filter, decide_eq_true_eq]
  constructor
  · rintro ⟨x, ⟨hx, h0⟩, rfl⟩
    rw [Int.sub_add_cancel]
    exact ⟨hx, h0⟩
  · rintro ⟨hx, h0⟩
    exact ⟨v + 1, ⟨hx, h0⟩, by omega⟩

/-- A later arrival is ahead of the queue exactly when it is ahead of the next round's queue. -/
theorem ahead_iff (hp : -1 ≤ p) (q : List Int) {y : Int} (hy : p < y) :
    (∀ x ∈ q, x < y) ↔ ∀ x ∈ advance (arrive c true p q), x < y - 1 := by
  constructor
  · intro h x hx
    have hmem := (mem_advance.1 hx).1
    unfold arrive at hmem
    split at hmem
    · rcases List.mem_append.1 (List.mem_of_mem_drop hmem) with hq | hq
      · have := h _ hq
        omega
      · rw [List.mem_singleton] at hq
        omega
    · have := h _ hmem
      omega
  · intro h x hx
    by_cases hnew : true = true ∧ ∀ x ∈ q, x < p
    · have := hnew.2 x hx
      omega
    · rcases Int.lt_or_le x 0 with hneg | hnn
      · omega
      · have hmem : x - 1 ∈ advance (arrive c true p q) := by
          rw [mem_advance, arrive, if_neg hnew, Int.sub_add_cancel]
          exact ⟨hx, hnn⟩
        have := h _ hmem
        omega

/-- The arrivals of `n + 1` rounds: the first one, then those the next round sees. -/
theorem arrivals_succ (hp : fresh = true → -1 ≤ p) (q : List Int) (n : Nat) :
    arrivals fresh p q (n + 1) =
      (if fresh = true ∧ ∀ x ∈ q, x < p then [p] else []) ++
        (arrivals fresh p (advance (arrive c fresh p q)) n).map (· + 1) := by
  cases fresh with
  | false => simp [arrivals]
  | true =>
    have hrest : (List.range n).filter ((fun y => decide (∀ x ∈ q, x < y)) ∘ (fun j : Nat => p + ((j : Int) + 1))) =
        (List.range n).filter ((fun y => decide (∀ x ∈ advance (arrive c true p q), x < y)) ∘
          (fun j : Nat => p + (j : Int))) := by
      refine List.filter_congr fun j _ => ?_
      have := ahead_iff (c := c) (hp rfl) q (y := p + ((j : Int) + 1)) (by omega)
      rw [Function.comp_apply, Function.comp_apply, decide_eq_decide, this]
      exact forall₂_congr fun x _ => by omega
    simp only [arrivals, if_true, List.range_succ_eq_map, List.map_cons, List.map_map, List.filter_cons,
      List.filter_map]
    have hfun : ((fun j : Nat => p + (j : Int)) ∘ Nat.succ) = fun j : Nat => p + ((j : Int) + 1) := by
      funext j; simp
    have hfun' : ((fun v : Int => v + 1) ∘ fun j : Nat => p + (j : Int)) = fun j : Nat => p + ((j : Int) + 1) := by
      funext j; simp only [Function.comp_apply]; omega
    rw [hfun, hfun', hrest]
    simp only [Int.natCast_zero, Int.add_zero, decide_eq_true_eq, true_and]
    split <;> rfl

/-- What is due later is among the latest entries of this round's view exactly when it is of the
next round's. -/
theorem latest_succ (hp : fresh = true → -1 ≤ p) {q : List Int} (hq : q.Pairwise (· < ·)) (m : Nat) :
    ((m : Int) + 1) ∈ (q ++ arrivals fresh p q (m + 2)).rtake c ↔
      (m : Int) ∈ (advance (arrive c fresh p q) ++
        arrivals fresh p (advance (arrive c fresh p q)) (m + 1)).rtake c := by
  rw [arrivals_succ (c := c) hp q (m + 1)]
  generalize hrest : arrivals fresh p (advance (arrive c fresh p q)) (m + 1) = rest
  have hfront : ((q ++ if fresh = true ∧ ∀ x ∈ q, x < p then [p] else []) ++ rest.map (· + 1)).rtake c =
      (arrive c fresh p q ++ rest.map (· + 1)).rtake c := by
    unfold arrive
    split
    · rw [rtake_rtake_append]
    · rw [List.append_nil]
  have hstale : ((m : Int) + 1) ∉ (arrive c fresh p q).filter (· < 0) := by
    simp only [List.mem_filter, decide_eq_true_eq, not_and]
    omega
  have hshift : (arrive c fresh p q).filter (0 ≤ ·) = (advance (arrive c fresh p q)).map (· + 1) := by
    simp only [advance, List.map_map]
    conv_lhs => rw [← List.map_id ((arrive c fresh p q).filter (0 ≤ ·))]
    refine List.map_congr_left fun x _ => ?_
    simp
  rw [← List.append_assoc, hfront]
  have hsorted : (arrive c fresh p q).Pairwise (· < ·) := arrive_sorted hq
  conv_lhs => rw [sorted_split hsorted, List.append_assoc]
  rw [mem_rtake_append hstale, hshift, ← List.map_append, rtake_map]
  simp

theorem rtake_of_length_le {l : List Int} (h : l.length ≤ c) : l.rtake c = l := by
  rw [List.rtake, Nat.sub_eq_zero_of_le h, List.drop_zero]

theorem length_advance_arrive {q : List Int} (h : q.length ≤ c) :
    (advance (arrive c fresh p q)).length ≤ c := by
  have harrive : (arrive c fresh p q).length ≤ c := by
    unfold arrive
    split
    · simp only [List.rtake, List.length_drop]; omega
    · exact h
  rw [advance, List.length_map]
  exact Nat.le_trans (List.length_filter_le _ _) harrive

/-- **When the reader finds its position queued.** -/
theorem hits_iff (hp : fresh = true → -1 ≤ p) : ∀ (k : Nat) {q : List Int}, q.Pairwise (· < ·) →
    q.length ≤ c →
    (Hits c fresh p k q ↔ ∃ m : Nat, m < k ∧ (m : Int) ∈ (q ++ arrivals fresh p q (m + 1)).rtake c)
  | 0, _, _, _ => by simp [Hits]
  | k + 1, q, hq, hc => by
    have hnow : 0 ∈ arrive c fresh p q ↔ ((0 : Nat) : Int) ∈ (q ++ arrivals fresh p q 1).rtake c := by
      have h0 : arrivals fresh p (advance (arrive c fresh p q)) 0 = [] := by
        cases fresh <;> simp [arrivals]
      rw [arrivals_succ (c := c) hp q 0, h0]
      unfold arrive
      split
      · simp
      · simp [rtake_of_length_le hc]
    rw [Hits, hnow, hits_iff hp k (advance_sorted (arrive_sorted hq)) (length_advance_arrive hc)]
    constructor
    · rintro (h | ⟨m, hm, h⟩)
      · exact ⟨0, by omega, h⟩
      · exact ⟨m + 1, by omega, (latest_succ hp hq m).2 h⟩
    · rintro ⟨_ | m, hm, h⟩
      · exact .inl h
      · exact .inr ⟨m, by omega, (latest_succ hp hq m).1 h⟩

end DueQueue
