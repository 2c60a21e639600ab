import OpenRef.Base
import OpenRef.Lib.Run
/-!
# The device lifecycle (openref_device_lifecycle.c)

A unit goes from blank over factory test and identity to production lock and retirement. An anomaly quarantines it, in
memory where nothing was stored.

`stored_terminal_permanent`: within a power cycle, and over any number of them once the record is stored, a quarantined
or retired unit stays one. `unstored_quarantine_revived`, `unstored_retirement_revived`: without a stored record a
reboot brings the old one back.
-/

namespace OpenRef.Device

/-- `openref_device_state_t`. -/
inductive DeviceState where
  | blank
  | factoryTest
  | identityInstalled
  | productionLocked
  | quarantined
  | retired
deriving DecidableEq, Repr

/-- `openref_device_record_t`. -/
structure DeviceRecord where
  state : DeviceState
  deviceId : Bytes 16
  identityFingerprint : Bytes 8
  generation : U32
  failureCode : U32
deriving DecidableEq, Repr

/-- `openref_device_backend_t` over a context `κ`; an identity that cannot be generated has no fingerprint. -/
structure DeviceBackend (κ : Type) where
  storeRecord : κ → DeviceRecord → κ × Bool
  generateIdentity : κ → Bytes 16 → κ × Option (Bytes 8)
  lockDebug : κ → κ × Bool
  retireIdentity : κ → κ × Bool

/-- `openref_device_lifecycle_t` without the callbacks. -/
structure DeviceLifecycle where
  record : DeviceRecord
  rejectedTransitions : U32
  backendFailures : U32
deriving DecidableEq, Repr

/-- `all_zero`. -/
def allZero (data : List U8) : Bool := data.all (· = 0)

/-- The record `memset` leaves. -/
def DeviceRecord.zero : DeviceRecord := ⟨.blank, Bytes.zero _, Bytes.zero _, 0, 0⟩

/-- The record cannot be what a lifecycle stored. -/
def DeviceRecord.inconsistent (r : DeviceRecord) : Bool :=
  let identityRequired := r.state = .identityInstalled || r.state = .productionLocked
  (r.state ≠ .blank && r.generation = 0) ||
    (identityRequired && (allZero r.deviceId.bytes || allZero r.identityFingerprint.bytes))

namespace DeviceLifecycle

variable {κ : Type}

/-- `record.state = state`. -/
def setState (d : DeviceLifecycle) (state : DeviceState) : DeviceLifecycle :=
  { d with record := { d.record with state := state } }

/-- An anomaly of the backend: it is counted and the unit is quarantined. -/
def anomaly (d : DeviceLifecycle) : DeviceLifecycle :=
  { d.setState .quarantined with backendFailures := d.backendFailures + 1 }

/-- `persist`. -/
def persist (be : DeviceBackend κ) (k : κ) (d : DeviceLifecycle) : κ × DeviceLifecycle × Bool :=
  let d := { d with record := { d.record with generation := d.record.generation + 1 } }
  if d.record.generation = 0 then (k, d.anomaly, false)
  else
    let s := be.storeRecord k d.record
    if !s.2 then (s.1, d.anomaly, false) else (s.1, d, true)

/-- `reject`. -/
def reject (d : DeviceLifecycle) : DeviceLifecycle := { d with rejectedTransitions := d.rejectedTransitions + 1 }

/-- `openref_device_lifecycle_init` with callbacks that are set. -/
def init (persisted : Option DeviceRecord) : DeviceLifecycle :=
  match persisted with
  | none => ⟨.zero, 0, 0⟩
  | some r => ⟨if r.inconsistent then { r with state := .quarantined } else r, 0, 0⟩

/-- `openref_device_begin_factory_test`. -/
def beginFactoryTest (be : DeviceBackend κ) (k : κ) (d : DeviceLifecycle) : κ × DeviceLifecycle × Bool :=
  if d.record.state ≠ .blank then (k, d.reject, false) else (d.setState .factoryTest).persist be k

/-- `openref_device_install_identity`. -/
def installIdentity (be : DeviceBackend κ) (k : κ) (d : DeviceLifecycle) (deviceId : Bytes 16)
    (hardwareTestsPassed factoryImagesAuthenticated : Bool) : κ × DeviceLifecycle × Bool :=
  if d.record.state ≠ .factoryTest || !hardwareTestsPassed || !factoryImagesAuthenticated || allZero deviceId.bytes then
    (k, d.reject, false)
  else
    let g := be.generateIdentity k deviceId
    match g.2 with
    | none => (g.1, d.anomaly, false)
    | some fingerprint =>
      if allZero fingerprint.bytes then (g.1, d.anomaly, false)
      else
        persist be g.1 { d with record := { d.record with
          deviceId := deviceId
          identityFingerprint := fingerprint
          state := .identityInstalled } }

/-- `openref_device_apply_production_lock`. -/
def applyProductionLock (be : DeviceBackend κ) (k : κ) (d : DeviceLifecycle)
    (releaseImagesAuthenticated authenticatedBootVerified : Bool) : κ × DeviceLifecycle × Bool :=
  if d.record.state ≠ .identityInstalled || !releaseImagesAuthenticated || !authenticatedBootVerified then
    (k, d.reject, false)
  else
    let l := be.lockDebug k
    if !l.2 then (l.1, d.anomaly, false) else (d.setState .productionLocked).persist be l.1

/-- `openref_device_quarantine`. -/
def quarantine (be : DeviceBackend κ) (k : κ) (d : DeviceLifecycle) (failureCode : U32) : κ × DeviceLifecycle × Bool :=
  if failureCode = 0 || d.record.state = .retired then (k, d.reject, false)
  else persist be k { d with record := { d.record with failureCode := failureCode, state := .quarantined } }

/-- `openref_device_retire`. -/
def retire (be : DeviceBackend κ) (k : κ) (d : DeviceLifecycle) (retirementAuthorized : Bool) :
    κ × DeviceLifecycle × Bool :=
  if d.record.state ≠ .productionLocked || !retirementAuthorized then (k, d.reject, false)
  else
    let e := be.retireIdentity k
    let d := { d with
      record := { d.record with identityFingerprint := Bytes.zero _, state := .retired }
      backendFailures := if e.2 then d.backendFailures else d.backendFailures + 1 }
    let p := d.persist be e.1
    (p.1, p.2.1.setState .retired, e.2 && p.2.2)

end DeviceLifecycle

/-! ## A unit over its power cycles -/

/-- A context and the record of the last store that succeeded. -/
structure Recorded (κ : Type) where
  context : κ
  stored : Option DeviceRecord

/-- The backend, with a note of the last store that succeeded. -/
def DeviceBackend.recording {κ : Type} (be : DeviceBackend κ) : DeviceBackend (Recorded κ) where
  storeRecord k r :=
    let s := be.storeRecord k.context r
    (⟨s.1, if s.2 then some r else k.stored⟩, s.2)
  generateIdentity k id := let g := be.generateIdentity k.context id; ({ k with context := g.1 }, g.2)
  lockDebug k := let l := be.lockDebug k.context; ({ k with context := l.1 }, l.2)
  retireIdentity k := let e := be.retireIdentity k.context; ({ k with context := e.1 }, e.2)

/-- What happens to a unit. -/
inductive DeviceEvent where
  | beginFactoryTest
  | installIdentity (deviceId : Bytes 16) (hardwareTestsPassed factoryImagesAuthenticated : Bool)
  | applyProductionLock (releaseImagesAuthenticated authenticatedBootVerified : Bool)
  | quarantine (failureCode : U32)
  | retire (retirementAuthorized : Bool)
  | reboot
deriving DecidableEq

/-- A powered unit. -/
structure PoweredUnit (κ : Type) where
  records : Recorded κ
  lifecycle : DeviceLifecycle

namespace PoweredUnit

variable {κ : Type} (be : DeviceBackend κ)

/-- What a call gives, and the state it leaves. -/
def call (u : PoweredUnit κ) : DeviceEvent → Recorded κ × DeviceLifecycle × Bool
  | .beginFactoryTest => u.lifecycle.beginFactoryTest be.recording u.records
  | .installIdentity id tests images => u.lifecycle.installIdentity be.recording u.records id tests images
  | .applyProductionLock images boot => u.lifecycle.applyProductionLock be.recording u.records images boot
  | .quarantine code => u.lifecycle.quarantine be.recording u.records code
  | .retire authorized => u.lifecycle.retire be.recording u.records authorized
  | .reboot => (u.records, DeviceLifecycle.init u.records.stored, true)

def step (u : PoweredUnit κ) (e : DeviceEvent) : PoweredUnit κ := ⟨(u.call be e).1, (u.call be e).2.1⟩

/-- A unit that comes up over a record. -/
def powerUp (k : κ) (persisted : Option DeviceRecord) : PoweredUnit κ := ⟨⟨k, persisted⟩, DeviceLifecycle.init persisted⟩

/-- `record.state`. -/
def state (u : PoweredUnit κ) : DeviceState := u.lifecycle.record.state

end PoweredUnit

/-- Quarantined or retired. -/
def DeviceState.terminal (s : DeviceState) : Bool := s = .quarantined || s = .retired

/-- The last record stored is quarantined or retired. -/
def Recorded.terminal {κ : Type} (k : Recorded κ) : Bool := k.stored.any fun r => r.state.terminal

/-! ## One call -/

/-- Everything a call can do: it stores nothing, and then the state stays or is terminal; or what it stores is the
state it leaves. -/
inductive Effect {κ : Type} (k : Recorded κ) (before : DeviceState) : Recorded κ × DeviceLifecycle × Bool → Prop
  | unsaved {k' : Recorded κ} {d' : DeviceLifecycle} : k'.stored = k.stored →
      d'.record.state = before ∨ d'.record.state.terminal = true → Effect k before (k', d', false)
  | saved {k' : Recorded κ} {d' : DeviceLifecycle} {answer : Bool} {r : DeviceRecord} : k'.stored = some r →
      r.state = d'.record.state → (before.terminal = true → r.state.terminal = true) → Effect k before (k', d', answer)

variable {κ : Type} (be : DeviceBackend κ)

theorem effect_reject (k : Recorded κ) (d : DeviceLifecycle) : Effect k d.record.state (k, d.reject, false) :=
  .unsaved rfl (.inl rfl)

theorem effect_anomaly {k k' : Recorded κ} (before : DeviceState) (d : DeviceLifecycle) (hk : k'.stored = k.stored) :
    Effect k before (k', d.anomaly, false) := .unsaved hk (.inr rfl)

/-- A persist stores the record it was given, or quarantines. -/
theorem persist_cases (k : Recorded κ) (d : DeviceLifecycle) :
    (∃ k' d', k'.stored = k.stored ∧ d.persist be.recording k = (k', DeviceLifecycle.anomaly d', false)) ∨
      ∃ k' r, k'.stored = some r ∧ r.state = d.record.state ∧
        d.persist be.recording k = (k', { d with record := r }, true) := by
  unfold DeviceLifecycle.persist
  dsimp only
  split
  · exact .inl ⟨k, _, rfl, rfl⟩
  · generalize hr : ({ d.record with generation := d.record.generation + 1 } : DeviceRecord) = r
    have hstate : r.state = d.record.state := by rw [← hr]
    cases hs : (be.storeRecord k.context r).2 with
    | false =>
      refine .inl ⟨(be.recording.storeRecord k r).1, _, ?_, if_pos (by simp [DeviceBackend.recording, hs])⟩
      simp [DeviceBackend.recording, hs]
    | true =>
      refine .inr ⟨(be.recording.storeRecord k r).1, r, ?_, hstate, if_neg (by simp [DeviceBackend.recording, hs])⟩
      simp [DeviceBackend.recording, hs]

theorem effect_persist {k k' : Recorded κ} {before : DeviceState} (d : DeviceLifecycle) (hk : k'.stored = k.stored)
    (hb : before.terminal = true → d.record.state.terminal = true) : Effect k before (d.persist be.recording k') := by
  rcases persist_cases be k' d with ⟨k'', d', hstored, h⟩ | ⟨k'', r, hstored, hr, h⟩
  · rw [h]
    exact effect_anomaly before d' (hstored.trans hk)
  · rw [h]
    exact .saved hstored rfl fun ht => hr ▸ hb ht

/-- A retirement stores a retired record, or stays retired in memory. -/
theorem effect_retire (k : Recorded κ) (d : DeviceLifecycle) (authorized : Bool) :
    Effect k d.record.state (d.retire be.recording k authorized) := by
  unfold DeviceLifecycle.retire
  split
  · exact effect_reject k d
  · dsimp only
    generalize hd : ({ d with
      record := { d.record with identityFingerprint := Bytes.zero _, state := .retired }
      backendFailures := if (be.recording.retireIdentity k).2 then d.backendFailures else d.backendFailures + 1 } :
        DeviceLifecycle) = d'
    have hretired : d'.record.state = .retired := by rw [← hd]
    rcases persist_cases be (be.recording.retireIdentity k).1 d' with ⟨k', d'', hstored, h⟩ | ⟨k', r, hstored, hr, h⟩
    · rw [h, Bool.and_false]
      exact .unsaved hstored (.inr rfl)
    · rw [h]
      exact .saved hstored (hr.trans hretired) fun _ => by rw [hr, hretired]; rfl

/-- **What a call does.** -/
theorem call_effect (u : PoweredUnit κ) {e : DeviceEvent} (he : e ≠ .reboot) : Effect u.records u.state (u.call be e) := by
  cases e with
  | reboot => exact absurd rfl he
  | beginFactoryTest =>
    simp only [PoweredUnit.call, DeviceLifecycle.beginFactoryTest]
    split
    · exact effect_reject _ _
    · next hs =>
      refine effect_persist be _ rfl fun h => ?_
      rw [PoweredUnit.state, not_not.1 hs] at h
      cases h
  | installIdentity id tests images =>
    simp only [PoweredUnit.call, DeviceLifecycle.installIdentity]
    split
    · exact effect_reject _ _
    · next hs =>
      simp only [Bool.or_eq_true, decide_eq_true_eq, not_or, not_not] at hs
      split
      · exact effect_anomaly _ _ rfl
      · split
        · exact effect_anomaly _ _ rfl
        · refine effect_persist be _ rfl fun h => ?_
          rw [PoweredUnit.state, hs.1.1.1] at h
          cases h
  | applyProductionLock images boot =>
    simp only [PoweredUnit.call, DeviceLifecycle.applyProductionLock]
    split
    · exact effect_reject _ _
    · next hs =>
      simp only [Bool.or_eq_true, decide_eq_true_eq, not_or, not_not] at hs
      split
      · exact effect_anomaly _ _ rfl
      · refine effect_persist be _ rfl fun h => ?_
        rw [PoweredUnit.state, hs.1.1] at h
        cases h
  | quarantine code =>
    simp only [PoweredUnit.call, DeviceLifecycle.quarantine]
    split
    · exact effect_reject _ _
    · exact effect_persist be _ rfl fun _ => rfl
  | retire authorized => exact effect_retire be _ _ _

/-! ## Runs -/

/-- A terminal record is what RAM has. -/
def PoweredUnit.Kept (u : PoweredUnit κ) : Prop := u.records.terminal = true → u.state.terminal = true

theorem terminal_stored {k : Recorded κ} : k.terminal = true ↔ ∃ r, k.stored = some r ∧ r.state.terminal = true := by
  unfold Recorded.terminal
  rw [Option.any_eq_true]

/-- A terminal record comes up terminal. -/
theorem init_terminal {persisted : Option DeviceRecord} (h : persisted.any (fun r => r.state.terminal) = true) :
    (DeviceLifecycle.init persisted).record.state.terminal = true := by
  cases persisted with
  | none => cases h
  | some r =>
    unfold DeviceLifecycle.init
    dsimp only
    split
    · rfl
    · exact h

theorem powerUp_kept (k : κ) (persisted : Option DeviceRecord) : (PoweredUnit.powerUp k persisted).Kept := init_terminal

/-- A call keeps a terminal state. -/
theorem call_terminal {u : PoweredUnit κ} {e : DeviceEvent} (he : e ≠ .reboot) (h : u.state.terminal = true) :
    (u.step be e).state.terminal = true := by
  have heffect := call_effect be u he
  unfold PoweredUnit.step PoweredUnit.state
  generalize u.call be e = r at heffect ⊢
  cases heffect with
  | unsaved _ hstate =>
    rcases hstate with hsame | hterminal
    · dsimp only
      rw [hsame]
      exact h
    · exact hterminal
  | saved _ hstate hkeep =>
    dsimp only
    rw [← hstate]
    exact hkeep h

theorem step_kept (u : PoweredUnit κ) (e : DeviceEvent) (h : u.Kept) : (u.step be e).Kept := by
  by_cases he : e = .reboot
  · subst he
    exact init_terminal
  have hstep := call_terminal be (u := u) he
  have heffect := call_effect be u he
  intro hstored
  unfold PoweredUnit.step at hstored
  unfold PoweredUnit.step PoweredUnit.state at hstep ⊢
  generalize u.call be e = r at heffect hstep hstored ⊢
  cases heffect with
  | unsaved hsame =>
    refine hstep (h ?_)
    unfold Recorded.terminal at hstored ⊢
    rw [← hsame]
    exact hstored
  | saved hr hstate =>
    obtain ⟨r', hr', hterminal⟩ := terminal_stored.1 hstored
    rw [hr] at hr'
    cases hr'
    dsimp only
    rw [← hstate]
    exact hterminal

/-- A terminal record stays, whatever happens to the unit. -/
theorem step_stored {u : PoweredUnit κ} (e : DeviceEvent) (h : u.Kept) (ht : u.records.terminal = true) :
    (u.step be e).records.terminal = true := by
  by_cases he : e = .reboot
  · subst he
    exact ht
  have heffect := call_effect be u he
  have hstate := h ht
  unfold PoweredUnit.step
  generalize u.call be e = r at heffect ⊢
  cases heffect with
  | unsaved hsame =>
    unfold Recorded.terminal at ht ⊢
    rw [hsame]
    exact ht
  | saved hr _ hkeep => exact terminal_stored.2 ⟨_, hr, hkeep hstate⟩

/-- A call that returns true has stored the state it leaves. -/
theorem call_true {u : PoweredUnit κ} {e : DeviceEvent} (he : e ≠ .reboot) (h : (u.call be e).2.2 = true) :
    (u.step be e).records.stored.map DeviceRecord.state = some (u.step be e).state := by
  have heffect := call_effect be u he
  unfold PoweredUnit.step PoweredUnit.state
  generalize u.call be e = r at heffect h ⊢
  cases heffect with
  | unsaved => cases h
  | saved hr hstate =>
    dsimp only
    rw [hr, Option.map_some, hstate]

/-- **A quarantined or retired unit stays one**: across reboots once the record is stored, and up to the next reboot
otherwise. A call that returns true has stored the state it leaves. -/
theorem stored_terminal_permanent (k : κ) (persisted : Option DeviceRecord) (past later : List DeviceEvent) :
    let u := past.foldl (PoweredUnit.step be) (.powerUp k persisted)
    let u' := later.foldl (PoweredUnit.step be) u
    (u.records.terminal = true → u'.state.terminal = true ∧ u'.records.terminal = true) ∧
      (u.state.terminal = true → (∀ e ∈ later, e ≠ .reboot) → u'.state.terminal = true) ∧
      ∀ e, e ≠ .reboot → (u.call be e).2.2 = true →
        (u.step be e).records.stored.map DeviceRecord.state = some (u.step be e).state := by
  intro u u'
  have hkept : u.Kept := Run.inv_run (P := PoweredUnit.Kept) (step_kept be) (powerUp_kept k persisted) past
  refine ⟨fun ht => ?_, fun ht hlater => ?_, fun e he => call_true be he⟩
  · have hrun := Run.inv_run (P := fun u => u.Kept ∧ u.records.terminal = true)
      (fun u e h => ⟨step_kept be u e h.1, step_stored be e h.1 h.2⟩) (s := u) ⟨hkept, ht⟩ later
    exact ⟨hrun.1 hrun.2, hrun.2⟩
  · exact Run.inv_along (C := fun _ e => e ≠ .reboot) (P := fun u => u.state.terminal = true) (fun u e h he => call_terminal be he h) u later ht
      (Run.along_iff_forall.2 hlater)

/-- A backend that cannot generate an identity. -/
def anonymousBackend : DeviceBackend Unit where
  storeRecord _ _ := ((), true)
  generateIdentity _ _ := ((), none)
  lockDebug _ := ((), true)
  retireIdentity _ := ((), true)

/-- A unit whose identity could not be generated is quarantined in memory; a reboot finds it in factory test. -/
theorem unstored_quarantine_revived :
    ¬ ∀ (be : DeviceBackend Unit) (persisted : Option DeviceRecord) (past later : List DeviceEvent),
      let u := past.foldl (PoweredUnit.step be) (.powerUp () persisted)
      u.state.terminal = true → (later.foldl (PoweredUnit.step be) u).state.terminal = true := by
  intro h
  have hrevived := h anonymousBackend none [.beginFactoryTest, .installIdentity (Bytes.filled 16 1) true true] [.reboot]
  revert hrevived
  decide

/-- A backend that retires the identity and then cannot store that it did. -/
def unstoringBackend : DeviceBackend Unit where
  storeRecord _ record := ((), decide (record.state ≠ .retired))
  generateIdentity _ _ := ((), none)
  lockDebug _ := ((), true)
  retireIdentity _ := ((), true)

/-- A unit whose identity was retired comes up locked for production, where the store of that failed. -/
theorem unstored_retirement_revived :
    ¬ ∀ (be : DeviceBackend Unit) (persisted : Option DeviceRecord) (past later : List DeviceEvent),
      let u := past.foldl (PoweredUnit.step be) (.powerUp () persisted)
      (be.retireIdentity ()).2 = true → u.state = .retired →
        (later.foldl (PoweredUnit.step be) u).state ≠ .productionLocked := by
  intro h
  have hrevived := h unstoringBackend (some ⟨.productionLocked, Bytes.filled 16 1, Bytes.filled 8 1, 3, 0⟩)
    [.retire true] [.reboot]
  revert hrevived
  decide

end OpenRef.Device
