import OpenRef.Boot.Coordinator
import OpenRef.Boot.Restart
import OpenRef.Lib.Run
/-!
# The trials of a candidate (openref_rt595_boot_coordinator.c)

Every trial is counted in the durable record before its handoff. `allowance` is what the record still allows: a pending
slot has the attempts it has not used, an unusable confirmed slot lets the other one in with all of them, and nothing
brings back what was used.

`trial_boots_bounded`: over any resets whose saves may be cut short, and a flash that does not change, the slots handed
off are authenticated and not too old, every trial is counted first, and their number is bounded.
-/

namespace OpenRef.Boot

open OpenRef.Update (SlotAuthenticator SlotReader SlotRegion UpdateCrypto UpdatePlatform UpdateManifest Shows verdict answerOf)

/-- The trials the durable state still allows. -/
def allowance (slots : BootSlots) (maximum : U8) (d : BootState) : ℕ :=
  if d.pendingSlot = noSlot then
    if eligible d (slots.get d.confirmedSlot) then 0
    else if eligible d (slots.get (d.confirmedSlot ^^^ 1)) then maximum.toNat else 0
  else if eligible d (slots.get d.pendingSlot) then maximum.toNat - d.pendingAttempts.toNat else 0

/-- The trials a decision makes. -/
def trials (confirmed : U8) (decision : BootDecision) : ℕ :=
  if decision.boots && decision.slot ≠ confirmed then 1 else 0

/-- What a reset does to the durable state, with the decision it makes. -/
structure Advanced (slots : BootSlots) (maximum : U8) (d d' : BootState) (decision : BootDecision) : Prop where
  valid : stateValid d' = true
  minimum : d'.minimumVersion = d.minimumVersion
  confirmed : d'.confirmedSlot = d.confirmedSlot
  paid : trials d.confirmedSlot decision + allowance slots maximum d' ≤ allowance slots maximum d
  eligible : decision.boots = true → eligible d (slots.get decision.slot) = true
  other : decision.boots = true → decision.slot ≠ d.confirmedSlot → decision.kind = .trial
  counted : decision.kind = .trial → d'.pendingSlot = decision.slot ∧
    d'.pendingAttempts.toNat = (if d.pendingSlot = decision.slot then d.pendingAttempts.toNat else 0) + 1

variable {slots : BootSlots} {maximum : U8} {d d' d'' : BootState}

/-! ## The steps of a selection -/

/-- The state stays. -/
theorem Advanced.stay (hv : stateValid d = true) {decision : BootDecision} (hk : decision.kind = .none) :
    Advanced slots maximum d d decision := by
  have hboots : decision.boots = false := by simp [BootDecision.boots, hk]
  refine ⟨hv, rfl, rfl, ?_, (fun h => ?_), (fun h => ?_), fun h => ?_⟩
  · simp [trials, hboots]
  · exact absurd (hboots.symm.trans h) Bool.false_ne_true
  · exact absurd (hboots.symm.trans h) Bool.false_ne_true
  · rw [hk] at h
    cases h

/-- The state moves, and nothing is booted. -/
theorem Advanced.move (hv : stateValid d' = true) (hm : d'.minimumVersion = d.minimumVersion)
    (hc : d'.confirmedSlot = d.confirmedSlot) (ha : allowance slots maximum d' ≤ allowance slots maximum d)
    {decision : BootDecision} (hk : decision.kind = .none) : Advanced slots maximum d d' decision := by
  have hboots : decision.boots = false := by simp [BootDecision.boots, hk]
  refine ⟨hv, hm, hc, ?_, (fun h => ?_), (fun h => ?_), fun h => ?_⟩
  · simpa [trials, hboots] using ha
  · exact absurd (hboots.symm.trans h) Bool.false_ne_true
  · exact absurd (hboots.symm.trans h) Bool.false_ne_true
  · rw [hk] at h
    cases h

theorem pending_valid (hv : stateValid d = true) (hp : d.pendingSlot ≠ noSlot) :
    d.pendingSlot ≤ slotB ∧ d.pendingSlot = d.confirmedSlot ^^^ 1 := by
  obtain ⟨-, hc, hpending, -⟩ := (stateValid_iff d).1 hv
  rcases hpending with h | ⟨hvalid, hne⟩
  · exact absurd h hp
  · rcases (slotIdValid_iff _).1 hc with hc | hc <;> rcases (slotIdValid_iff _).1 hvalid with h | h <;>
      rw [hc, h] at hne ⊢
    · exact absurd rfl hne
    · exact ⟨by decide, by decide⟩
    · exact ⟨by decide, by decide⟩
    · exact absurd rfl hne

@[simp] theorem dropPending_minimumVersion (s : BootState) : (dropPending s).minimumVersion = s.minimumVersion := by
  unfold dropPending
  split <;> rfl

theorem dropPending_pendingSlot (s : BootState) : (dropPending s).pendingSlot = noSlot := by
  unfold dropPending
  split
  · rfl
  · next h => exact not_not.1 h

/-- A trial uses one attempt. -/
theorem allowance_trial (ht : Triable d slots maximum) :
    allowance slots maximum { d with pendingAttempts := d.pendingAttempts + 1 } + 1 = allowance slots maximum d ∧
      (d.pendingAttempts + 1).toNat = d.pendingAttempts.toNat + 1 := by
  have hne : ¬ d.pendingSlot = noSlot := by
    intro h
    have hvalid := ht.valid
    rw [h, noSlot_not_valid] at hvalid
    cases hvalid
  have hlt : d.pendingAttempts.toNat < maximum.toNat := ht.attempts
  have hmax := maximum.isLt
  have hsum : (d.pendingAttempts + 1).toNat = d.pendingAttempts.toNat + 1 := by
    have h1 : (1 : U8).toNat = 1 := rfl
    rw [BitVec.toNat_add, h1, Nat.mod_eq_of_lt (by omega)]
  have he : eligible { d with pendingAttempts := d.pendingAttempts + 1 } (slots.get d.pendingSlot) = true := ht.eligible
  refine ⟨?_, hsum⟩
  unfold allowance
  simp only [if_neg hne, he, ht.eligible, if_true, hsum]
  omega

/-- The latch holds while an exhausted slot is pending and the confirmed one is not eligible. -/
theorem latched_eq (hv : stateValid d = true) : BootCoordinator.latched d slots maximum =
    (decide (BootCoordinator.exhaustedSlot d maximum ≤ slotB) && !eligible d (slots.get d.confirmedSlot)) := by
  obtain ⟨-, hc, -, -⟩ := (stateValid_iff d).1 hv
  have hconfirmed : ¬ slotB < d.confirmedSlot := by
    rcases (slotIdValid_iff _).1 hc with hc | hc <;> rw [hc] <;> decide
  have hversion : decide ((slots.get d.confirmedSlot).version < d.minimumVersion) =
      !decide (d.minimumVersion ≤ (slots.get d.confirmedSlot).version) := by
    rw [← decide_not]
    exact decide_eq_decide.2 BitVec.not_le.symm
  unfold BootCoordinator.latched eligible
  rw [decide_eq_false hconfirmed, hversion, Bool.not_and, Bool.not_and, Bool.false_or]

/-- The latch holds where the pending slot is used up and the confirmed one is not eligible. -/
theorem latched_of_used (hv : stateValid d = true) (hp : d.pendingSlot ≠ noSlot) (hno : ¬ Triable d slots maximum)
    (hc : eligible d (slots.get d.confirmedSlot) = false) (ho : eligible d (slots.get (d.confirmedSlot ^^^ 1)) = true) :
    BootCoordinator.latched d slots maximum = true := by
  obtain ⟨hle, hother⟩ := pending_valid hv hp
  have hvalid : slotIdValid d.pendingSlot = true := by
    rw [hother]
    exact (other_ne hv).2.1
  rw [← hother] at ho
  have hused : maximum ≤ d.pendingAttempts := BitVec.not_lt.1 fun hlt => hno ⟨hvalid, ho, hlt⟩
  have hexhausted : BootCoordinator.exhaustedSlot d maximum = d.pendingSlot := if_pos (by simp [hle, hused])
  rw [latched_eq hv, hexhausted, hc]
  simp [hle]

/-- Dropping a pending slot that cannot be tried allows nothing new, where the latch lets it happen. -/
theorem allowance_drop (hv : stateValid d = true) (hno : ¬ Triable d slots maximum)
    (hlatch : BootCoordinator.latched d slots maximum = false) :
    allowance slots maximum (dropPending d) ≤ allowance slots maximum d := by
  by_cases hp : d.pendingSlot = noSlot
  · have hdrop : dropPending d = d := if_neg (not_not.2 hp)
    rw [hdrop]
  unfold allowance
  rw [dropPending_pendingSlot, if_pos rfl]
  simp only [eligible_dropPending, dropPending_confirmedSlot]
  cases hc : eligible d (slots.get d.confirmedSlot) with
  | true =>
    rw [if_pos rfl]
    exact Nat.zero_le _
  | false =>
    cases ho : eligible d (slots.get (d.confirmedSlot ^^^ 1)) with
    | false =>
      simp only [Bool.false_eq_true, if_false]
      exact Nat.zero_le _
    | true =>
      exact absurd (hlatch.symm.trans (latched_of_used hv hp hno hc ho)) Bool.false_ne_true

/-- A staged slot has all its trials ahead, as it had where the confirmed slot could not be used. -/
theorem allowance_stage (hv : stateValid d = true) (hp : d.pendingSlot = noSlot)
    (hc : eligible d (slots.get d.confirmedSlot) = false) (ho : eligible d (slots.get (d.confirmedSlot ^^^ 1)) = true) :
    allowance slots maximum { d with pendingSlot := d.confirmedSlot ^^^ 1, pendingAttempts := 0 } =
      allowance slots maximum d := by
  have he : eligible { d with pendingSlot := d.confirmedSlot ^^^ 1, pendingAttempts := 0 }
      (slots.get (d.confirmedSlot ^^^ 1)) = true := ho
  unfold allowance
  simp only [if_neg (other_ne hv).2.2, hp, hc, ho, he, if_true, Bool.false_eq_true, if_false]
  exact Nat.sub_zero _

/-! ## A selection -/

/-- What a selection that does not recover does to the state. -/
theorem advanced_select (hv : stateValid d = true) (hm : maximum ≠ 0)
    (hlatch : BootCoordinator.latched d slots maximum = false) (hk : (select d slots maximum).2.kind ≠ .recovery) :
    Advanced slots maximum d (select d slots maximum).1 (select d slots maximum).2 := by
  have hvalid := select_valid hv slots maximum
  have hconfirmed := select_confirmedSlot d slots maximum
  have hselected := select_selected hv hm slots
  generalize select d slots maximum = r at hvalid hconfirmed hselected hk ⊢
  cases hselected with
  | trial ht =>
    obtain ⟨hpaid, hcount⟩ := allowance_trial ht
    refine ⟨hvalid, rfl, rfl, ?_, fun _ => ht.eligible, fun _ _ => rfl, fun _ => ⟨rfl, ?_⟩⟩
    · rw [← hpaid]
      unfold trials
      dsimp only
      split <;> omega
    · rw [if_pos rfl]
      exact hcount
  | confirmed kind hno he hkind =>
    have hdrop := allowance_drop hv hno hlatch
    refine ⟨hvalid, dropPending_minimumVersion d, hconfirmed, ?_, fun _ => he, fun _ hne => absurd rfl hne, fun h => ?_⟩
    · simpa [trials] using hdrop
    · rcases hkind with hkind | hkind <;> simp [hkind] at h
  | recovery => exact absurd rfl hk
  | none hno =>
    exact .move hvalid (dropPending_minimumVersion d) hconfirmed (allowance_drop hv hno hlatch) rfl

/-- A recovery drops nothing: no slot is pending. -/
theorem recovery_cases (hv : stateValid d = true) (hm : maximum ≠ 0)
    (hlatch : BootCoordinator.latched d slots maximum = false) (hk : (select d slots maximum).2.kind = .recovery) :
    (select d slots maximum).1 = d ∧ (select d slots maximum).2.slot = d.confirmedSlot ^^^ 1 ∧ d.pendingSlot = noSlot ∧
      eligible d (slots.get d.confirmedSlot) = false ∧ eligible d (slots.get (d.confirmedSlot ^^^ 1)) = true := by
  have hselected := select_selected hv hm slots
  generalize select d slots maximum = r at hselected hk ⊢
  cases hselected with
  | trial => cases hk
  | confirmed kind _ _ hkind => rcases hkind with hkind | hkind <;> simp [hkind] at hk
  | none => cases hk
  | recovery hno hc ho =>
    have hp : d.pendingSlot = noSlot := by
      by_contra hp
      exact absurd (hlatch.symm.trans (latched_of_used hv hp hno hc ho)) Bool.false_ne_true
    exact ⟨if_neg (not_not.2 hp), rfl, hp, hc, ho⟩

/-- The state moved, but the decision was lost with the answer of the save. -/
theorem Advanced.lost {decision decision' : BootDecision} (h : Advanced slots maximum d d' decision)
    (hk : decision'.kind = .none) : Advanced slots maximum d d' decision' :=
  .move h.valid h.minimum h.confirmed (Nat.le_trans (Nat.le_add_left _ _) h.paid) hk

/-- The state once the other slot is staged. -/
def staged (d : BootState) : BootState := { d with pendingSlot := d.confirmedSlot ^^^ 1, pendingAttempts := 0 }

/-- What follows on the staging of a recovery. -/
theorem Advanced.of_staged (hv : stateValid d = true) (hp : d.pendingSlot = noSlot)
    (hc : Boot.eligible d (slots.get d.confirmedSlot) = false) (ho : Boot.eligible d (slots.get (d.confirmedSlot ^^^ 1)) = true)
    {decision : BootDecision} (h : Advanced slots maximum (staged d) d' decision) : Advanced slots maximum d d' decision := by
  have hattempts : d.pendingAttempts = 0 := by
    obtain ⟨-, -, -, h | h⟩ := (stateValid_iff d).1 hv
    · exact absurd hp h
    · exact h
  have hallowed : allowance slots maximum (staged d) = allowance slots maximum d := allowance_stage hv hp hc ho
  refine ⟨h.valid, h.minimum, h.confirmed, hallowed ▸ h.paid, h.eligible, h.other, fun hk => ?_⟩
  obtain ⟨hslot, hcount⟩ := h.counted hk
  refine ⟨hslot, hcount.trans ?_⟩
  have hzero : (0 : U8).toNat = 0 := rfl
  have hstaged : (staged d).pendingAttempts = 0 := rfl
  rw [hattempts, hstaged, hzero, ite_self, ite_self]

theorem stage_recovery (hv : stateValid d = true) (ho : eligible d (slots.get (d.confirmedSlot ^^^ 1)) = true) :
    stage d (d.confirmedSlot ^^^ 1) slots = some (staged d) := by
  obtain ⟨hne, hvalid, -⟩ := other_ne hv
  unfold stage
  rw [hv, hvalid, ho, decide_eq_false hne]
  rfl

theorem staged_valid (hv : stateValid d = true) (ho : eligible d (slots.get (d.confirmedSlot ^^^ 1)) = true) :
    stateValid (staged d) = true := stage_valid (stage_recovery hv ho)

theorem staged_triable (hv : stateValid d = true) (hm : maximum ≠ 0)
    (ho : eligible d (slots.get (d.confirmedSlot ^^^ 1)) = true) : Triable (staged d) slots maximum :=
  ⟨(other_ne hv).2.1, ho, (BitVec.pos_iff_ne_zero maximum).2 hm⟩

/-- The trial of a slot just staged. -/
theorem advanced_staged (hv : stateValid d = true) (hm : maximum ≠ 0)
    (ho : eligible d (slots.get (d.confirmedSlot ^^^ 1)) = true) :
    Advanced slots maximum (staged d) (select (staged d) slots maximum).1 (select (staged d) slots maximum).2 := by
  have hvalid := staged_valid hv ho
  have htriable := staged_triable hv hm ho
  refine advanced_select hvalid hm ?_ ?_
  · have hfresh : ¬ maximum ≤ (staged d).pendingAttempts := BitVec.not_le.2 htriable.attempts
    rw [latched_eq hvalid, BootCoordinator.exhaustedSlot, if_neg (by simp [hfresh])]
    rfl
  · have hselected := select_selected hvalid hm slots
    generalize select (staged d) slots maximum = r at hselected ⊢
    cases hselected with
    | trial => exact fun h => by cases h
    | confirmed kind hno => exact absurd htriable hno
    | recovery hno => exact absurd htriable hno
    | none hno => exact absurd htriable hno

/-- **What a selection does to the durable state**, whatever becomes of its saves. -/
theorem selectAuthenticated_advanced {b : Rt595BootState} {n : FatedMedium} (h : Synced b n)
    (hv : stateValid b.state = true) (hm : maximum ≠ 0) :
    let r := BootCoordinator.selectAuthenticated FatedMedium.backend n b slots maximum
    ∃ d', durable r.1.medium = some d' ∧ Advanced slots maximum b.state d' r.2.2 := by
  unfold BootCoordinator.selectAuthenticated
  dsimp only
  by_cases hlatch : BootCoordinator.latched b.state slots maximum = true
  · rw [if_pos hlatch]
    exact ⟨b.state, h.durable, .stay hv rfl⟩
  rw [if_neg hlatch]
  rw [Bool.not_eq_true] at hlatch
  have hselect := select_synced h slots maximum
  generalize b.select FatedMedium.backend n slots maximum = r at hselect ⊢
  by_cases hk : (select b.state slots maximum).2.kind = .recovery
  · obtain ⟨hsame, hslot, hp, hc, ho⟩ := recovery_cases hv hm hlatch hk
    rcases hselect with ⟨hsync, hstate, hdecision⟩ | ⟨hnone, hrecord⟩
    · -- the other slot is staged and selected again
      rw [hsame] at hstate
      have hgo : ¬ (b.state.confirmedSlot ^^^ 1 = BootCoordinator.exhaustedSlot b.state maximum) := by
        have hnot : BootCoordinator.exhaustedSlot b.state maximum = noSlot := by
          unfold BootCoordinator.exhaustedSlot
          rw [hp]
          exact if_neg (by simp [show ¬ noSlot ≤ slotB by decide])
        rw [hnot]
        exact (other_ne hv).2.2
      rw [hdecision, if_pos hk, hslot, if_neg hgo]
      have hstage := stage_synced hsync (b.state.confirmedSlot ^^^ 1) slots
      rw [hstate, stage_recovery hv ho] at hstage
      generalize r.2.1.stage FatedMedium.backend r.1 (b.state.confirmedSlot ^^^ 1) slots = s at hstage ⊢
      obtain ⟨hstored, hlost⟩ := hstage
      cases hs : s.2.2 with
      | false =>
        simp only [Bool.not_false, if_true]
        rcases hlost hs with hold | ⟨state, heq, hnew⟩
        · exact ⟨b.state, hold, .stay hv rfl⟩
        · cases heq
          exact ⟨_, hnew, .of_staged hv hp hc ho (.stay (staged_valid hv ho) rfl)⟩
      | true =>
        simp only [Bool.not_true, Bool.false_eq_true, if_false]
        obtain ⟨hsync', hstate'⟩ := hstored hs
        have hstate' : s.2.1.state = staged b.state := (Option.some.inj hstate').symm
        have hagain := select_synced hsync' slots maximum
        rw [hstate'] at hagain
        have hadvanced := advanced_staged hv hm ho
        rcases hagain with ⟨hsync'', hstate'', hdecision''⟩ | ⟨hnone, hold | hnew⟩
        · exact ⟨_, hstate'' ▸ hsync''.durable, hdecision'' ▸ .of_staged hv hp hc ho hadvanced⟩
        · exact ⟨_, hold, .of_staged hv hp hc ho (.stay (staged_valid hv ho) (by rw [hnone]))⟩
        · exact ⟨_, hnew, .of_staged hv hp hc ho (hadvanced.lost (by rw [hnone]))⟩
    · rw [hnone, if_neg (by decide)]
      rw [hsame, or_self] at hrecord
      exact ⟨b.state, hrecord, .stay hv (by rw [hnone])⟩
  · have hadvanced := advanced_select hv hm hlatch hk
    rcases hselect with ⟨hsync, hstate, hdecision⟩ | ⟨hnone, hold | hnew⟩
    · rw [hdecision, if_neg hk, hdecision]
      exact ⟨_, hstate ▸ hsync.durable, hadvanced⟩
    · rw [hnone, if_neg (by decide), hnone]
      exact ⟨_, hold, .stay hv rfl⟩
    · rw [hnone, if_neg (by decide), hnone]
      exact ⟨_, hnew, hadvanced.lost rfl⟩

/-! ## Resets -/

/-- A reset: what the flash driver finds, and the fates of the saves up to the next reset. -/
structure Reset (κ : Type) where
  flash : κ
  fates : List SaveFate

/-- Its saves are stored or cut short. -/
def Reset.Cut {κ : Type} (r : Reset κ) : Prop := ∀ f ∈ r.fates, f.Cut

section Resets

variable {κ π : Type} (rd : SlotReader κ) (cr : UpdateCrypto κ) (prepare : κ → HandoffLayout → κ × Option π) (s : Bootstrap)

/-- From a reset to the handoff (openref_rt595_bootstrap_main.c): the record is loaded, and the bootstrap runs. -/
def restart (m : Medium) (r : Reset κ) : Bootstrap.Outcome κ FatedMedium π :=
  let l := Rt595BootState.init.load FatedMedium.backend ⟨m.faithful, r.fates⟩
  Bootstrap.run rd cr FatedMedium.backend prepare r.flash l.1
    { s with coordinator := { s.coordinator with stateStore := l.2.1 } }

/-- The records a reset leaves to the next one. -/
def afterReset (m : Medium) (r : Reset κ) : Medium := (restart rd cr prepare s m r).records.medium

/-- The handoffs of a slot that is not the confirmed one. -/
def handoffs (confirmed : U8) (m : Medium) (r : Reset κ) : ℕ :=
  if (restart rd cr prepare s m r).handoff.any fun h => h.1 ≠ confirmed then 1 else 0

/-- What holds of one reset of a device that started from `d`. -/
structure CountedBoot (find : U8 → Option UpdateManifest) (d : BootState) (m : Medium)
    (o : Bootstrap.Outcome κ FatedMedium π) : Prop where
  record : ∃ e e', durable m = some e ∧ durable o.records.medium = some e' ∧ e'.minimumVersion = d.minimumVersion ∧
    e'.confirmedSlot = d.confirmedSlot ∧ (o.decision.kind = .trial → e'.pendingSlot = o.decision.slot ∧
      e'.pendingAttempts.toNat = (if e.pendingSlot = o.decision.slot then e.pendingAttempts.toNat else 0) + 1)
  handoff : ∀ slot plan, o.handoff = some (slot, plan) → slot = o.decision.slot ∧
    (slot ≠ d.confirmedSlot → o.decision.kind = .trial) ∧ ∃ manifest, find slot = some manifest ∧
      o.slots.get slot = ⟨true, true, manifest.imageVersion⟩ ∧ d.minimumVersion ≤ manifest.imageVersion

variable {rd cr prepare s} {flash : U32 → (n : Nat) → Option (Bytes n)} {fed : κ → List U8}
variable {verifies : Bytes 80 → Bytes 8 → Bytes 64 → Bool} {digest : List U8 → Bytes 32}

variable (prepare s) in
/-- One reset. -/
theorem restart_advanced (hcr : cr.Faithful verifies digest fed) (hrd : Shows rd flash fed)
    (hp : (Update.UpdateVerifier.init s.coordinator.authenticator.platform).isSome = true)
    (hm : s.coordinator.maximumTrialAttempts ≠ 0) {m : Medium} {d : BootState} (hd : durable m = some d)
    (hv : stateValid d = true) {r : Reset κ} (hcut : r.Cut) :
    let slots := flashSlots flash verifies digest s.coordinator.authenticator d.minimumVersion
    let o := restart rd cr prepare s m r
    o.slots = slots ∧ ∃ d', durable o.records.medium = some d' ∧
      Advanced slots s.coordinator.maximumTrialAttempts d d' o.decision := by
  have hload := load_synced hd hv hcut
  unfold restart
  dsimp only at hload ⊢
  generalize Rt595BootState.init.load FatedMedium.backend ⟨m.faithful, r.fates⟩ = l at hload ⊢
  obtain ⟨hsync, rfl⟩ := hload
  let c : BootCoordinator := { s.coordinator with stateStore := l.2.1 }
  obtain ⟨hslots, hdecision, hrecords⟩ := Bootstrap.run_select rd cr FatedMedium.backend prepare r.flash l.1
    (s := { s with coordinator := c }) hsync.loaded
  obtain ⟨hslots', hrecords', hdecision'⟩ := BootCoordinator.select_slots FatedMedium.backend hcr hrd r.flash
    l.1 c hp hsync.loaded
  rw [hslots, hdecision, hrecords, hslots', hrecords', hdecision']
  exact ⟨rfl, selectAuthenticated_advanced hsync hv hm⟩

theorem handoffs_le (confirmed : U8) (m : Medium) (r : Reset κ) :
    handoffs rd cr prepare s confirmed m r ≤ trials confirmed (restart rd cr prepare s m r).decision := by
  unfold handoffs
  split
  · next h =>
    obtain ⟨⟨slot, plan⟩, hsome, hne⟩ := (Option.any_eq_true _ _).1 h
    have hdone : Bootstrap.HandedOff (restart rd cr prepare s m r).slots (restart rd cr prepare s m r).decision slot :=
      Bootstrap.run_handoff hsome
    rw [hdone.slot_eq] at hne
    unfold trials
    rw [hdone.decided, Bool.true_and, if_pos hne]
  · exact Nat.zero_le _

/-- A slot that is found present is the verdict on it. -/
theorem flashSlots_present {a : SlotAuthenticator} {minimum : U32} {slot : U8}
    (h : ((flashSlots flash verifies digest a minimum).get slot).present = true) :
    ∃ manifest,
      verdict flash verifies digest (BootCoordinator.resetPlatform a.platform minimum) (a.region slot) = some manifest ∧
      (flashSlots flash verifies digest a minimum).get slot = ⟨true, true, manifest.imageVersion⟩ := by
  have hget : (flashSlots flash verifies digest a minimum).get slot = (answerOf (verdict flash verifies digest
      (BootCoordinator.resetPlatform a.platform minimum) (a.region slot))).1 := by
    unfold BootSlots.get SlotAuthenticator.region flashSlots
    split <;> rfl
  rw [hget] at h ⊢
  cases hv : verdict flash verifies digest (BootCoordinator.resetPlatform a.platform minimum) (a.region slot) with
  | none =>
    rw [hv] at h
    cases h
  | some manifest => exact ⟨manifest, rfl, rfl⟩

theorem allowance_le (slots : BootSlots) (maximum : U8) (d : BootState) : allowance slots maximum d ≤
    if d.pendingSlot = noSlot then maximum.toNat else maximum.toNat - d.pendingAttempts.toNat := by
  unfold allowance
  split
  · split
    · exact Nat.zero_le _
    · split
      · exact Nat.le_refl _
      · exact Nat.zero_le _
  · split
    · exact Nat.le_refl _
    · exact Nat.zero_le _

/-- The records of a device that started from `d`. -/
def From (d : BootState) (m : Medium) : Prop :=
  ∃ e, durable m = some e ∧ stateValid e = true ∧ e.minimumVersion = d.minimumVersion ∧ e.confirmedSlot = d.confirmedSlot

/-- **Trial boots are bounded, and durable before they start.** -/
theorem trial_boots_bounded (hcr : cr.Faithful verifies digest fed) (hrd : Shows rd flash fed) {p : UpdatePlatform}
    {r0 r1 : SlotRegion} {a : SlotAuthenticator} (ha : SlotAuthenticator.init p r0 r1 = some a) {maximum : U8}
    (hc : BootCoordinator.init a Rt595BootState.init maximum = some s.coordinator) {m : Medium} {d : BootState}
    (hd : durable m = some d) (hv : stateValid d = true) (resets : List (Reset κ)) (hcut : ∀ r ∈ resets, r.Cut) :
    let find := fun slot =>
      verdict flash verifies digest (BootCoordinator.resetPlatform p d.minimumVersion) (if slot = slotA then r0 else r1)
    let bound := if d.pendingSlot = noSlot then maximum.toNat else maximum.toNat - d.pendingAttempts.toNat
    Run.Along (afterReset rd cr prepare s) (fun m r => CountedBoot find d m (restart rd cr prepare s m r)) m resets ∧
      Run.cost (afterReset rd cr prepare s) (handoffs rd cr prepare s d.confirmedSlot) m resets ≤ bound ∧
      Run.cost (afterReset rd cr prepare s) (fun m r => trials d.confirmedSlot (restart rd cr prepare s m r).decision)
        m resets ≤ bound := by
  obtain ⟨hp, hplatform, hA, hB⟩ := SlotAuthenticator.init_some ha
  have hmax : maximum ≠ 0 ∧ s.coordinator = ⟨a, Rt595BootState.init, maximum⟩ := by
    unfold BootCoordinator.init at hc
    split at hc
    · cases hc
    · next hne => exact ⟨hne, (Option.some.inj hc).symm⟩
  obtain ⟨hmax, hcoordinator⟩ := hmax
  have hmaximum : s.coordinator.maximumTrialAttempts = maximum := by rw [hcoordinator]
  have hauthenticator : s.coordinator.authenticator = a := by rw [hcoordinator]
  let slots := flashSlots flash verifies digest a d.minimumVersion
  -- one reset, from any record the device can have
  have hreset (m : Medium) (r : Reset κ) (hm : From d m) (hr : r.Cut) :
      ∃ e e', durable m = some e ∧ durable (afterReset rd cr prepare s m r) = some e' ∧
        e.minimumVersion = d.minimumVersion ∧ e.confirmedSlot = d.confirmedSlot ∧
        (restart rd cr prepare s m r).slots = slots ∧
        Advanced slots maximum e e' (restart rd cr prepare s m r).decision := by
    obtain ⟨e, he, hvalid, hminimum, hconfirmed⟩ := hm
    have hadvanced := restart_advanced prepare s hcr hrd (by rw [hauthenticator, hplatform]; exact hp)
      (hmaximum ▸ hmax) he hvalid hr
    rw [hauthenticator, hmaximum, hminimum] at hadvanced
    obtain ⟨hslots, e', he', hadv⟩ := hadvanced
    exact ⟨e, e', he, he', hminimum, hconfirmed, hslots, hadv⟩
  have hkept (m : Medium) (r : Reset κ) (hm : From d m) (hr : r.Cut) : From d (afterReset rd cr prepare s m r) := by
    obtain ⟨e, e', -, he', hminimum, hconfirmed, -, hadv⟩ := hreset m r hm hr
    exact ⟨e', he', hadv.valid, hadv.minimum.trans hminimum, hadv.confirmed.trans hconfirmed⟩
  have hstart : From d m := ⟨d, hd, hv, rfl, rfl⟩
  have hcuts : Run.Along (afterReset rd cr prepare s) (fun _ r => r.Cut) m resets := Run.along_iff_forall.2 hcut
  have hpaid : Run.cost (afterReset rd cr prepare s) (fun m r => trials d.confirmedSlot (restart rd cr prepare s m r).decision)
      m resets ≤ allowance slots maximum d := by
    have hrun := Run.cost_le (fun m => ((durable m).map (allowance slots maximum)).getD 0)
      (c := fun m r => trials d.confirmedSlot (restart rd cr prepare s m r).decision)
      (fun m r hm hr => ⟨hkept m r hm hr, by
        obtain ⟨e, e', he, he', -, hconfirmed, -, hadv⟩ := hreset m r hm hr
        rw [he, he']
        exact hconfirmed ▸ hadv.paid⟩) hstart hcuts
    rw [hd] at hrun
    exact Nat.le_trans (Nat.le_add_right _ _) hrun
  have hbound := hpaid.trans (allowance_le slots maximum d)
  refine ⟨Run.along_of_inv hkept (fun m r hm hr => ?_) hstart hcuts,
    (Run.cost_mono (handoffs_le d.confirmedSlot)).trans hbound, hbound⟩
  obtain ⟨e, e', he, he', hminimum, hconfirmed, hslots, hadv⟩ := hreset m r hm hr
  refine ⟨⟨e, e', he, he', hadv.minimum.trans hminimum, hadv.confirmed.trans hconfirmed, hadv.counted⟩,
    fun slot plan hsome => ?_⟩
  have hdone : Bootstrap.HandedOff (restart rd cr prepare s m r).slots (restart rd cr prepare s m r).decision slot :=
    Bootstrap.run_handoff hsome
  have hpresent := hdone.present
  rw [hslots] at hpresent
  obtain ⟨manifest, hverdict, hget⟩ := flashSlots_present hpresent
  have heligible := hadv.eligible hdone.decided
  rw [← hdone.slot_eq, hget] at heligible
  simp only [eligible, Bool.true_and, decide_eq_true_eq, hminimum] at heligible
  refine ⟨hdone.slot_eq, fun hne => hadv.other hdone.decided ?_, manifest, ?_, hslots ▸ hget, heligible⟩
  · rw [hconfirmed, ← hdone.slot_eq]
    exact hne
  · rw [hplatform, SlotAuthenticator.region, hA, hB] at hverdict
    exact hverdict

end Resets

/-! ## A candidate that never confirms -/

open OpenRef.Update (sumCrypto sumDigest ninePlatform)

/-- The manifest of an image of eight nines. -/
def eightManifest : Update.ManifestWire :=
  ⟨[0x4f, 0x52, 0x55, 0x50, 1, 2, 0, 0, 5, 0, 0, 0, 7, 0, 0, 0, 2, 0, 0, 0, 8, 0, 0, 0] ++ List.replicate 32 72 ++
    List.replicate 88 9, rfl⟩

/-- Slot B holds the signed image, everything else is erased. -/
def eightFlash (address : U32) (n : ℕ) : Option (Bytes n) :=
  let byte := fun a =>
    if 0x4000 ≤ a ∧ a < 0x4090 then eightManifest.byte (a - 0x4000) else if 0x5000 ≤ a ∧ a < 0x5008 then 9 else 0xff
  some ⟨(List.range n).map fun i => byte (address.toNat + i), by simp⟩

/-- Its authenticator. -/
def eightAuthenticator : SlotAuthenticator :=
  ⟨ninePlatform, ⟨0x1000, 0x2000, 1024⟩, ⟨0x4000, 0x5000, 1024⟩, 0, 0, 0, 0⟩

/-- Its bootstrap, with three attempts for a trial. -/
def eightBootstrap : Bootstrap :=
  ⟨⟨eightAuthenticator, Rt595BootState.init, 3⟩, 0x2000, 0x5000, 1024, 1024, 0, 0, 0x8000, 0x1000, 128, none⟩

/-- Slot B is pending. -/
def eightPending : Medium :=
  ⟨encodeRecord bootStateSchema 1 (encodeState ⟨1, 7, slotA, slotB, 0⟩), erasedRecord, [], []⟩

/-- Five resets; the save of the first one is cut short. -/
def eightResets : List (Reset (List U8)) :=
  ⟨[], [⟨.torn erasedRecord, false, true⟩]⟩ :: List.replicate 4 ⟨[], []⟩

theorem trial_boots_bounded_eight :
    Run.cost (afterReset (fun k address n => (k, eightFlash address n)) sumCrypto (fun k l => (k, some l)) eightBootstrap)
      (handoffs (fun k address n => (k, eightFlash address n)) sumCrypto (fun k l => (k, some l)) eightBootstrap slotA)
      eightPending eightResets ≤ 3 := by
  have hnone : decode bootStateSchema erasedRecord = none := by decide +kernel
  have hshows : Shows (fun k address n => (k, eightFlash address n)) eightFlash id := ⟨fun _ _ _ => rfl, fun _ _ _ => rfl⟩
  have hinit : SlotAuthenticator.init ninePlatform ⟨0x1000, 0x2000, 1024⟩ ⟨0x4000, 0x5000, 1024⟩ =
      some eightAuthenticator := by decide
  have hcoordinator : BootCoordinator.init eightAuthenticator Rt595BootState.init 3 = some eightBootstrap.coordinator := rfl
  have hdurable : durable eightPending = some ⟨1, 7, slotA, slotB, 0⟩ := by decide +kernel
  refine (trial_boots_bounded Update.sumCrypto_faithful hshows hinit hcoordinator hdurable (by decide) eightResets ?_).2.1
  intro r hr f hf record hrecord
  simp only [eightResets, List.mem_cons, List.mem_replicate] at hr
  rcases hr with rfl | ⟨-, rfl⟩
  · rw [List.mem_singleton.1 hf] at hrecord
    cases hrecord
    exact hnone
  · cases hf

end OpenRef.Boot
