import OpenRef.Boot.StateStore
import OpenRef.Update.SlotAuthenticator
/-!
# From reset to handoff (openref_rt595_boot_coordinator.c, openref_rt595_bootstrap.c)

The coordinator authenticates both slots against the durable minimum version, selects one and, where the confirmed slot
cannot be used, stages the other one on the spot. The bootstrap hands the selected slot off.

`select_slots`: over a flash that does not change the slots it finds are the verdicts on them.
`handoff_some`: what a handoff has checked.
-/

namespace OpenRef.Boot

open OpenRef.Update (SlotAuthenticator SlotReader UpdateCrypto UpdatePlatform UpdateManifest UpdateVerifier)

/-- `openref_rt595_boot_coordinator_t`, with what it points to. -/
structure BootCoordinator where
  authenticator : SlotAuthenticator
  stateStore : Rt595BootState
  maximumTrialAttempts : U8

/-- `no_decision`. -/
def noDecision : BootDecision := ⟨noSlot, .none, false⟩

namespace BootCoordinator

variable {κ μ : Type}

/-- `openref_rt595_boot_coordinator_init` over an initialized authenticator. -/
def init (a : SlotAuthenticator) (b : Rt595BootState) (maximum : U8) : Option BootCoordinator :=
  if maximum = 0 then none else some ⟨a, b, maximum⟩

/-- The pending slot once its attempts are used up. -/
def exhaustedSlot (state : BootState) (maximum : U8) : U8 :=
  if state.pendingSlot ≤ slotB && maximum ≤ state.pendingAttempts then state.pendingSlot else noSlot

/-- The platform a reset authenticates against: the durable minimum is an inclusive floor. -/
def resetPlatform (p : UpdatePlatform) (minimum : U32) : UpdatePlatform :=
  { p with
    antirollbackFloor := minimum
    confirmedImageVersion := if minimum = 0 then 0 else minimum - 1 }

/-- The confirmed slot cannot take over from an exhausted one. -/
def latched (state : BootState) (slots : BootSlots) (maximum : U8) : Bool :=
  exhaustedSlot state maximum ≤ slotB &&
    (slotB < state.confirmedSlot || !(slots.get state.confirmedSlot).present ||
      !(slots.get state.confirmedSlot).authenticated || (slots.get state.confirmedSlot).version < state.minimumVersion)

/-- The selection among authenticated slots. -/
def selectAuthenticated (be : ConfigBackend μ) (n : μ) (b : Rt595BootState) (slots : BootSlots) (maximum : U8) :
    μ × Rt595BootState × BootDecision :=
  let exhausted := exhaustedSlot b.state maximum
  if latched b.state slots maximum then (n, b, noDecision)
  else
    let d := b.select be n slots maximum
    if d.2.2.kind = .recovery then
      if d.2.2.slot = exhausted then (d.1, d.2.1, noDecision)
      else
        let s := d.2.1.stage be d.1 d.2.2.slot slots
        if !s.2.2 then (s.1, s.2.1, noDecision) else s.2.1.select be s.1 slots maximum
    else d

/-- What a selection leaves and gives. -/
structure Selection (κ μ : Type) where
  flash : κ
  records : μ
  coordinator : BootCoordinator
  slots : BootSlots
  decision : BootDecision

/-- `openref_rt595_boot_coordinator_select`. -/
def select (rd : SlotReader κ) (cr : UpdateCrypto κ) (be : ConfigBackend μ) (k : κ) (n : μ) (c : BootCoordinator) :
    Selection κ μ :=
  if !c.stateStore.loaded then ⟨k, n, c, .zero, noDecision⟩
  else
    let authenticator :=
      { c.authenticator with platform := resetPlatform c.authenticator.platform c.stateStore.state.minimumVersion }
    let a := authenticator.authenticate rd cr k slotA noSlot
    let b := a.2.1.authenticate rd cr a.1 slotB noSlot
    let slots : BootSlots := ⟨a.2.2.1, b.2.2.1⟩
    let d := selectAuthenticated be n c.stateStore slots c.maximumTrialAttempts
    ⟨b.1, d.1, { c with authenticator := b.2.1, stateStore := d.2.1 }, slots, d.2.2⟩

end BootCoordinator

/-! ## The bootstrap -/

/-- `OPENREF_RT595_BOOT_VECTOR_BYTES`. -/
def bootVectorBytes : U32 := 8

/-- `openref_rt595_bootstrap_recovery_reason_t`. -/
inductive RecoveryReason where
  | configuration
  | durableState
  | flashRead
  | noAuthenticatedImage
  | policy
  | vector
  | transferReturned
deriving DecidableEq, Repr

/-- `openref_rt595_boot_handoff_layout_t`. -/
structure HandoffLayout where
  authenticated : Bool
  imageBase : U32
  imageSize : U32
  ramBase : U32
  ramSize : U32
  vtorAlignment : U32
deriving DecidableEq, Repr

/-- `openref_rt595_bootstrap_t` with callbacks that are set. -/
structure Bootstrap where
  coordinator : BootCoordinator
  imageBaseA : U32
  imageBaseB : U32
  imageCapacityA : U32
  imageCapacityB : U32
  authenticatedSizeA : U32
  authenticatedSizeB : U32
  ramBase : U32
  ramSize : U32
  vtorAlignment : U32
  lastRecoveryReason : Option RecoveryReason

namespace Bootstrap

variable {κ μ π : Type}

/-- `image_base[slot]`. -/
def imageBase (s : Bootstrap) (slot : U8) : U32 := if slot = slotA then s.imageBaseA else s.imageBaseB

/-- `image_capacity[slot]`. -/
def imageCapacity (s : Bootstrap) (slot : U8) : U32 := if slot = slotA then s.imageCapacityA else s.imageCapacityB

/-- `authenticated_image_size[slot]`. -/
def authenticatedSize (s : Bootstrap) (slot : U8) : U32 :=
  if slot = slotA then s.authenticatedSizeA else s.authenticatedSizeB

/-- `fail`. -/
def fail (s : Bootstrap) (reason : RecoveryReason) : Bootstrap := { s with lastRecoveryReason := some reason }

/-- The layout handed to `prepare`. -/
def layout (s : Bootstrap) (slot : U8) : HandoffLayout :=
  ⟨true, s.imageBase slot, s.authenticatedSize slot, s.ramBase, s.ramSize, s.vtorAlignment⟩

/-- `openref_rt595_bootstrap_handoff`: the slot and the plan given to `transfer`, if it comes to that. -/
def handoff (prepare : κ → HandoffLayout → κ × Option π) (k : κ) (s : Bootstrap) (decision : BootDecision)
    (slots : BootSlots) : κ × Bootstrap × Option (U8 × π) :=
  let slot := decision.slot
  if s.ramSize = 0 then (k, s.fail .configuration, none)
  else if decision.kind = .none || decision.kind = .recovery || slotB < slot || !(slots.get slot).present ||
      !(slots.get slot).authenticated || s.authenticatedSize slot < bootVectorBytes ||
      s.imageCapacity slot < s.authenticatedSize slot then (k, s.fail .policy, none)
  else
    let p := prepare k (s.layout slot)
    match p.2 with
    | none => (p.1, s.fail .vector, none)
    | some plan => (p.1, s.fail .transferReturned, some (slot, plan))

/-- What a run of the bootstrap leaves and does. -/
structure Outcome (κ μ π : Type) where
  flash : κ
  records : μ
  bootstrap : Bootstrap
  slots : BootSlots
  decision : BootDecision
  handoff : Option (U8 × π)

/-- `openref_rt595_bootstrap_run`. -/
def run (rd : SlotReader κ) (cr : UpdateCrypto κ) (be : ConfigBackend μ)
    (prepare : κ → HandoffLayout → κ × Option π) (k : κ) (n : μ) (s : Bootstrap) : Outcome κ μ π :=
  if !s.coordinator.stateStore.loaded then ⟨k, n, s.fail .durableState, .zero, noDecision, none⟩
  else
    let readFailuresBefore := s.coordinator.authenticator.readFailures
    let d := s.coordinator.select rd cr be k n
    let s := { s with
      coordinator := d.coordinator
      authenticatedSizeA := d.coordinator.authenticator.authenticatedSizeA
      authenticatedSizeB := d.coordinator.authenticator.authenticatedSizeB }
    if d.decision.kind = .none then
      let reason : RecoveryReason :=
        if d.coordinator.authenticator.readFailures ≠ readFailuresBefore then .flashRead
        else if !d.slots.a.authenticated && !d.slots.b.authenticated then .noAuthenticatedImage
        else .policy
      ⟨d.flash, d.records, s.fail reason, d.slots, d.decision, none⟩
    else
      let h := handoff prepare d.flash s d.decision d.slots
      ⟨h.1, d.records, h.2.1, d.slots, d.decision, h.2.2⟩

end Bootstrap

/-! ## What a handoff has checked -/

/-- The decision boots its slot. -/
def BootDecision.boots (d : BootDecision) : Bool := d.kind ≠ .none && d.kind ≠ .recovery

/-- The decision of a handoff, and the slot that is handed off. -/
structure Bootstrap.HandedOff (slots : BootSlots) (decision : BootDecision) (slot : U8) : Prop where
  decided : decision.boots = true
  slot_eq : slot = decision.slot
  valid : slot ≤ slotB
  present : (slots.get slot).present = true
  authenticated : (slots.get slot).authenticated = true

variable {κ μ π : Type}

theorem Bootstrap.handoff_some {prepare : κ → HandoffLayout → κ × Option π} {k : κ} {s : Bootstrap}
    {decision : BootDecision} {slots : BootSlots} {slot : U8} {plan : π}
    (h : (s.handoff prepare k decision slots).2.2 = some (slot, plan)) : HandedOff slots decision slot := by
  unfold handoff at h
  dsimp only at h
  split at h
  · cases h
  · split at h
    · cases h
    · next hc =>
      split at h
      · cases h
      · cases h
        simp only [Bool.or_eq_true, decide_eq_true_eq, Bool.not_eq_true', not_or, Bool.not_eq_false,
          BitVec.not_lt] at hc
        obtain ⟨⟨⟨⟨⟨⟨hnone, hrecovery⟩, hslot⟩, hpresent⟩, hauthenticated⟩, -⟩, -⟩ := hc
        refine ⟨?_, rfl, hslot, hpresent, hauthenticated⟩
        simp [BootDecision.boots, hnone, hrecovery]

theorem Bootstrap.run_handoff {rd : SlotReader κ} {cr : UpdateCrypto κ} {be : ConfigBackend μ}
    {prepare : κ → HandoffLayout → κ × Option π} {k : κ} {n : μ} {s : Bootstrap} {slot : U8} {plan : π}
    (h : (s.run rd cr be prepare k n).handoff = some (slot, plan)) :
    HandedOff (s.run rd cr be prepare k n).slots (s.run rd cr be prepare k n).decision slot := by
  unfold run at h ⊢
  split at h
  · cases h
  · next hl =>
    rw [if_neg hl]
    dsimp only at h ⊢
    split at h
    · cases h
    · next hk =>
      rw [if_neg hk]
      exact handoff_some h

/-- A run over a loaded record selects and leaves the records as the selection does. -/
theorem Bootstrap.run_select (rd : SlotReader κ) (cr : UpdateCrypto κ) (be : ConfigBackend μ)
    (prepare : κ → HandoffLayout → κ × Option π) (k : κ) (n : μ) {s : Bootstrap}
    (hl : s.coordinator.stateStore.loaded = true) :
    (s.run rd cr be prepare k n).slots = (s.coordinator.select rd cr be k n).slots ∧
      (s.run rd cr be prepare k n).decision = (s.coordinator.select rd cr be k n).decision ∧
      (s.run rd cr be prepare k n).records = (s.coordinator.select rd cr be k n).records := by
  unfold run
  simp only [hl, Bool.not_true, Bool.false_eq_true, if_false]
  split <;> exact ⟨rfl, rfl, rfl⟩

/-! ## The slots it finds -/

section Faithful

open OpenRef.Update (Shows verdict answerOf authenticate_eq)

variable {rd : SlotReader κ} {cr : UpdateCrypto κ} {flash : U32 → (n : Nat) → Option (Bytes n)}
variable {verifies : Bytes 80 → Bytes 8 → Bytes 64 → Bool} {digest : List U8 → Bytes 32} {fed : κ → List U8}

/-- The slots of a flash, for a minimum version. -/
def flashSlots (flash : U32 → (n : Nat) → Option (Bytes n)) (verifies : Bytes 80 → Bytes 8 → Bytes 64 → Bool)
    (digest : List U8 → Bytes 32) (a : SlotAuthenticator) (minimum : U32) : BootSlots :=
  let p := BootCoordinator.resetPlatform a.platform minimum
  ⟨(answerOf (verdict flash verifies digest p a.regionA)).1, (answerOf (verdict flash verifies digest p a.regionB)).1⟩

theorem init_resetPlatform {p : UpdatePlatform} (h : (UpdateVerifier.init p).isSome = true) (minimum : U32) :
    (UpdateVerifier.init (BootCoordinator.resetPlatform p minimum)).isSome = true := by
  unfold UpdateVerifier.init at h ⊢
  split at h
  · cases h
  · next hc =>
    exact congrArg Option.isSome (if_neg hc)

/-- **The coordinator finds the verdicts on the slots** and selects among them. -/
theorem BootCoordinator.select_slots (be : ConfigBackend μ) (hc : cr.Faithful verifies digest fed) (hrd : Shows rd flash fed)
    (k : κ) (n : μ) (c : BootCoordinator) (hp : (UpdateVerifier.init c.authenticator.platform).isSome = true)
    (hl : c.stateStore.loaded = true) :
    let slots := flashSlots flash verifies digest c.authenticator c.stateStore.state.minimumVersion
    let d := selectAuthenticated be n c.stateStore slots c.maximumTrialAttempts
    (c.select rd cr be k n).slots = slots ∧ (c.select rd cr be k n).records = d.1 ∧
      (c.select rd cr be k n).decision = d.2.2 := by
  have hp' := init_resetPlatform hp c.stateStore.state.minimumVersion
  unfold select flashSlots
  simp only [hl, Bool.not_true, Bool.false_eq_true, if_false]
  generalize ha : ({ c.authenticator with
    platform := resetPlatform c.authenticator.platform c.stateStore.state.minimumVersion } : SlotAuthenticator) = auth
  have hplatform : auth.platform = resetPlatform c.authenticator.platform c.stateStore.state.minimumVersion := by
    rw [← ha]
  have hA : auth.region slotA = c.authenticator.regionA := by rw [← ha]; rfl
  have hB : auth.regionB = c.authenticator.regionB := by rw [← ha]
  rw [← hplatform] at hp' ⊢
  obtain ⟨hfirst, hleft⟩ := authenticate_eq hc hrd k auth hp' (show slotA ≤ 1 by decide)
    (.inl rfl) (show slotA ≠ noSlot by decide)
  have hregion : (auth.authenticate rd cr k slotA noSlot).2.1.region slotB = c.authenticator.regionB := by
    exact hleft.regionB.trans hB
  obtain ⟨hsecond, -⟩ := authenticate_eq hc hrd (auth.authenticate rd cr k slotA noSlot).1
    (auth.authenticate rd cr k slotA noSlot).2.1 (by rw [hleft.platform]; exact hp') 
    (show slotB ≤ 1 by decide) (.inl rfl) (show slotB ≠ noSlot by decide)
  rw [hA] at hfirst
  rw [hregion, hleft.platform] at hsecond
  rw [hfirst, hsecond]
  exact ⟨rfl, rfl, rfl⟩

end Faithful

end OpenRef.Boot
