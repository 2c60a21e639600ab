import OpenRef.Base
import Mathlib.Tactic.Common
/-!
# The boot policy (openref_boot_policy.c)

The durable boot state names the confirmed slot and, during a trial, the pending
one. `stage`, `select` and `confirm` are its only transitions; each keeps
`stateValid` (`stage_valid`, `select_valid`, `confirm_valid`). The confirmed slot
moves only by a confirmation (`stage_confirmedSlot`, `select_confirmedSlot`).
-/

namespace OpenRef.Boot

/-- `OPENREF_BOOT_SLOT_A`. -/
def slotA : U8 := 0
/-- `OPENREF_BOOT_SLOT_B`. -/
def slotB : U8 := 1
/-- `OPENREF_BOOT_NO_SLOT`. -/
def noSlot : U8 := 0xff

/-- `openref_boot_decision_kind_t`. -/
inductive BootDecisionKind
  | none | confirmed | trial | fallback | recovery
deriving DecidableEq, Repr

/-- `openref_boot_slot_t`. -/
structure BootSlot where
  present : Bool
  authenticated : Bool
  version : U32
deriving DecidableEq, Repr

/-- `openref_boot_slot_t slots[2]`. -/
structure BootSlots where
  a : BootSlot
  b : BootSlot
deriving DecidableEq, Repr

/-- `slots[slot]`, read only for a valid slot id. -/
def BootSlots.get (s : BootSlots) (slot : U8) : BootSlot := if slot = slotA then s.a else s.b

/-- `slots[2] = {{0}}`. -/
def BootSlots.zero : BootSlots := ⟨⟨false, false, 0⟩, ⟨false, false, 0⟩⟩

/-- `slots[slot] = x`. -/
def BootSlots.put (s : BootSlots) (slot : U8) (x : BootSlot) : BootSlots :=
  if slot = slotA then { s with a := x } else { s with b := x }

/-- `openref_boot_state_t`. -/
structure BootState where
  recordVersion : U32
  minimumVersion : U32
  confirmedSlot : U8
  pendingSlot : U8
  pendingAttempts : U8
deriving DecidableEq, Repr

/-- `openref_boot_decision_t`. -/
structure BootDecision where
  slot : U8
  kind : BootDecisionKind
  stateChanged : Bool
deriving DecidableEq, Repr

/-- `slot_id_valid` (:5-8). -/
def slotIdValid (slot : U8) : Bool := slot = slotA || slot = slotB

/-- `eligible` (:10-16). -/
def eligible (state : BootState) (slot : BootSlot) : Bool :=
  slot.present && slot.authenticated && decide (state.minimumVersion ≤ slot.version)

/-- `openref_boot_policy_state_valid` (:18-27). -/
def stateValid (state : BootState) : Bool :=
  state.recordVersion = 1 && slotIdValid state.confirmedSlot &&
    (state.pendingSlot = noSlot ||
      (slotIdValid state.pendingSlot && state.pendingSlot ≠ state.confirmedSlot)) &&
    (state.pendingSlot ≠ noSlot || state.pendingAttempts = 0)

/-- `openref_boot_policy_stage` (:29-42). -/
def stage (state : BootState) (candidate : U8) (slots : BootSlots) : Option BootState :=
  if !stateValid state || !slotIdValid candidate || candidate = state.confirmedSlot ||
      !eligible state (slots.get candidate) then none
  else some { state with pendingSlot := candidate, pendingAttempts := 0 }

/-- The state `select` goes on with once no trial is started: a pending slot is dropped. -/
def dropPending (state : BootState) : BootState :=
  if state.pendingSlot ≠ noSlot then { state with pendingSlot := noSlot, pendingAttempts := 0 } else state

/-- `openref_boot_policy_select` (:44-84). -/
def select (state : BootState) (slots : BootSlots) (maximumTrialAttempts : U8) :
    BootState × BootDecision :=
  if !stateValid state || maximumTrialAttempts = 0 then (state, ⟨noSlot, .none, false⟩)
  else if slotIdValid state.pendingSlot && eligible state (slots.get state.pendingSlot) &&
      decide (state.pendingAttempts < maximumTrialAttempts) then
    ({ state with pendingAttempts := state.pendingAttempts + 1 }, ⟨state.pendingSlot, .trial, true⟩)
  else
    let changed := decide (state.pendingSlot ≠ noSlot)
    let state := dropPending state
    let other := state.confirmedSlot ^^^ 1
    if eligible state (slots.get state.confirmedSlot) then
      (state, ⟨state.confirmedSlot, if changed then .fallback else .confirmed, changed⟩)
    else if eligible state (slots.get other) then (state, ⟨other, .recovery, changed⟩)
    else (state, ⟨noSlot, .none, changed⟩)

/-- `openref_boot_policy_confirm` (:86-104). -/
def confirm (state : BootState) (running : U8) (slots : BootSlots) : Option BootState :=
  if !stateValid state || !slotIdValid running || !eligible state (slots.get running) ||
      (running ≠ state.confirmedSlot && running ≠ state.pendingSlot) then none
  else some { state with
    confirmedSlot := running
    pendingSlot := noSlot
    pendingAttempts := 0
    minimumVersion :=
      if state.minimumVersion < (slots.get running).version then (slots.get running).version
      else state.minimumVersion }

theorem slotIdValid_iff (slot : U8) : slotIdValid slot = true ↔ slot = slotA ∨ slot = slotB := by
  simp [slotIdValid]

theorem noSlot_not_valid : slotIdValid noSlot = false := by decide

/-- The four clauses of a valid state. -/
theorem stateValid_iff (s : BootState) : stateValid s = true ↔
    s.recordVersion = 1 ∧ slotIdValid s.confirmedSlot = true ∧
      (s.pendingSlot = noSlot ∨ slotIdValid s.pendingSlot = true ∧ s.pendingSlot ≠ s.confirmedSlot) ∧
      (s.pendingSlot ≠ noSlot ∨ s.pendingAttempts = 0) := by
  simp [stateValid, and_assoc]

/-- The slot that is not confirmed. -/
theorem other_ne {d : BootState} (hv : stateValid d = true) : d.confirmedSlot ^^^ 1 ≠ d.confirmedSlot ∧
    slotIdValid (d.confirmedSlot ^^^ 1) = true ∧ d.confirmedSlot ^^^ 1 ≠ noSlot := by
  obtain ⟨-, hc, -, -⟩ := (stateValid_iff d).1 hv
  rcases (slotIdValid_iff _).1 hc with hc | hc <;> rw [hc] <;> decide

theorem stage_some {s t : BootState} {c : U8} {slots : BootSlots} (h : stage s c slots = some t) :
    stateValid s = true ∧ slotIdValid c = true ∧ c ≠ s.confirmedSlot ∧
      eligible s (slots.get c) = true ∧ t = { s with pendingSlot := c, pendingAttempts := 0 } := by
  unfold stage at h
  split at h
  · cases h
  · rename_i hc
    simp only [Bool.or_eq_true, Bool.not_eq_true', decide_eq_true_eq, not_or, Bool.not_eq_false] at hc
    exact ⟨hc.1.1.1, hc.1.1.2, hc.1.2, hc.2, (Option.some.inj h).symm⟩

theorem confirm_some {s t : BootState} {r : U8} {slots : BootSlots} (h : confirm s r slots = some t) :
    stateValid s = true ∧ slotIdValid r = true ∧ eligible s (slots.get r) = true ∧
      (r = s.confirmedSlot ∨ r = s.pendingSlot) ∧ t.recordVersion = s.recordVersion ∧
      t.confirmedSlot = r ∧ t.pendingSlot = noSlot ∧ t.pendingAttempts = 0 := by
  unfold confirm at h
  split at h
  · cases h
  · rename_i hc
    simp only [Bool.or_eq_true, Bool.not_eq_true', Bool.and_eq_true, decide_eq_true_eq, not_or,
      Bool.not_eq_false, not_and, ne_eq, Decidable.not_not] at hc
    obtain ⟨⟨⟨hv, hr⟩, he⟩, ho⟩ := hc
    cases h
    exact ⟨hv, hr, he, by by_cases h : r = s.confirmedSlot <;> simp_all, rfl, rfl, rfl, rfl⟩

theorem stage_valid {s t : BootState} {c : U8} {slots : BootSlots} (h : stage s c slots = some t) :
    stateValid t = true := by
  obtain ⟨hv, hc, hne, -, rfl⟩ := stage_some h
  obtain ⟨h1, h2, -, -⟩ := (stateValid_iff s).1 hv
  refine (stateValid_iff _).2 ⟨h1, h2, .inr ⟨hc, hne⟩, .inr rfl⟩

theorem stage_confirmedSlot {s t : BootState} {c : U8} {slots : BootSlots}
    (h : stage s c slots = some t) : t.confirmedSlot = s.confirmedSlot := by
  obtain ⟨-, -, -, -, rfl⟩ := stage_some h
  rfl

theorem confirm_valid {s t : BootState} {r : U8} {slots : BootSlots} (h : confirm s r slots = some t) :
    stateValid t = true := by
  obtain ⟨hv, hr, -, -, h1, h2, h3, h4⟩ := confirm_some h
  exact (stateValid_iff t).2 ⟨h1 ▸ ((stateValid_iff s).1 hv).1, h2 ▸ hr, .inl h3, .inr h4⟩

theorem dropPending_valid {s : BootState} (h : stateValid s = true) : stateValid (dropPending s) = true := by
  unfold dropPending
  split
  · obtain ⟨h1, h2, -, -⟩ := (stateValid_iff s).1 h
    exact (stateValid_iff _).2 ⟨h1, h2, .inl rfl, .inr rfl⟩
  · exact h

@[simp] theorem dropPending_confirmedSlot (s : BootState) :
    (dropPending s).confirmedSlot = s.confirmedSlot := by
  unfold dropPending; split <;> rfl

@[simp] theorem eligible_dropPending (s : BootState) (slot : BootSlot) : eligible (dropPending s) slot = eligible s slot := by
  unfold dropPending
  split <;> rfl

/-- A trial of the pending slot can be started. -/
structure Triable (s : BootState) (slots : BootSlots) (maximum : U8) : Prop where
  valid : slotIdValid s.pendingSlot = true
  eligible : eligible s (slots.get s.pendingSlot) = true
  attempts : s.pendingAttempts < maximum

/-- Everything a selection can do. -/
inductive Selected (s : BootState) (slots : BootSlots) (maximum : U8) : BootState × BootDecision → Prop
  | trial : Triable s slots maximum →
      Selected s slots maximum ({ s with pendingAttempts := s.pendingAttempts + 1 }, ⟨s.pendingSlot, .trial, true⟩)
  | confirmed (kind : BootDecisionKind) : ¬ Triable s slots maximum → eligible s (slots.get s.confirmedSlot) = true →
      kind = .fallback ∨ kind = .confirmed →
      Selected s slots maximum (dropPending s, ⟨s.confirmedSlot, kind, decide (s.pendingSlot ≠ noSlot)⟩)
  | recovery : ¬ Triable s slots maximum → eligible s (slots.get s.confirmedSlot) = false →
      eligible s (slots.get (s.confirmedSlot ^^^ 1)) = true →
      Selected s slots maximum
        (dropPending s, ⟨s.confirmedSlot ^^^ 1, .recovery, decide (s.pendingSlot ≠ noSlot)⟩)
  | none : ¬ Triable s slots maximum → eligible s (slots.get s.confirmedSlot) = false →
      eligible s (slots.get (s.confirmedSlot ^^^ 1)) = false →
      Selected s slots maximum (dropPending s, ⟨noSlot, .none, decide (s.pendingSlot ≠ noSlot)⟩)

theorem select_selected {s : BootState} (hv : stateValid s = true) {maximum : U8} (hm : maximum ≠ 0) (slots : BootSlots) :
    Selected s slots maximum (select s slots maximum) := by
  have hgo : ¬ (!stateValid s || decide (maximum = 0)) = true := by
    rw [hv, decide_eq_false hm]
    exact Bool.false_ne_true
  unfold select
  rw [if_neg hgo]
  split
  · next h =>
    simp only [Bool.and_eq_true, decide_eq_true_eq] at h
    exact .trial ⟨h.1.1, h.1.2, h.2⟩
  · next h =>
    have hno : ¬ Triable s slots maximum := fun ht => h (by simp [ht.valid, ht.eligible, ht.attempts])
    simp only [eligible_dropPending, dropPending_confirmedSlot]
    cases hc : eligible s (slots.get s.confirmedSlot) with
    | true =>
      simp only [if_true]
      refine .confirmed _ hno hc ?_
      split
      · exact .inl rfl
      · exact .inr rfl
    | false =>
      simp only [Bool.false_eq_true, if_false]
      cases ho : eligible s (slots.get (s.confirmedSlot ^^^ 1)) with
      | true => exact .recovery hno hc ho
      | false => exact .none hno hc ho

/-- What `select` leaves of a valid state: one more attempt, or no pending slot. -/
theorem select_state (s : BootState) (slots : BootSlots) (maximum : U8) :
    (select s slots maximum).1 = s ∨
      (select s slots maximum).1 = { s with pendingAttempts := s.pendingAttempts + 1 } ∧
        slotIdValid s.pendingSlot = true ∨
      (select s slots maximum).1 = dropPending s := by
  unfold select
  split
  · exact .inl rfl
  · split
    · rename_i h
      simp only [Bool.and_eq_true] at h
      exact .inr (.inl ⟨rfl, h.1.1⟩)
    · refine .inr (.inr ?_)
      dsimp only
      split
      · rfl
      · split <;> rfl

theorem select_valid {s : BootState} (h : stateValid s = true) (slots : BootSlots) (maximum : U8) :
    stateValid (select s slots maximum).1 = true := by
  rcases select_state s slots maximum with he | ⟨he, hp⟩ | he
  · rwa [he]
  · obtain ⟨h1, h2, h3, -⟩ := (stateValid_iff s).1 h
    rw [he]
    refine (stateValid_iff _).2 ⟨h1, h2, h3, .inl fun hn => ?_⟩
    rw [hn, noSlot_not_valid] at hp
    cases hp
  · rw [he]; exact dropPending_valid h

theorem select_confirmedSlot (s : BootState) (slots : BootSlots) (maximum : U8) :
    (select s slots maximum).1.confirmedSlot = s.confirmedSlot := by
  rcases select_state s slots maximum with he | ⟨he, -⟩ | he <;> simp [he]

end OpenRef.Boot
