import OpenRef.Device.RecordStore
/-!
# A unit whose power fails

The lifecycle stores its record through the record store, as the tests of both put them together, and a write that is
cut leaves its slot torn, as it was or written. A reset loads the record again.

`records_survive_power_cuts`: a unit that came up comes up again whatever write was cut, with the record that was
stored last or with one whose store failed since; and once a quarantine or a retirement is reported as stored, the
unit is quarantined or retired from then on, over all later resets and cut writes.
-/

namespace OpenRef.Device

open Boot

/-- What becomes of the next write and of its read back. -/
structure Fault where
  leftover : Leftover
  written : Bool
  readBack : Bool
deriving DecidableEq

/-- The record store on its medium, and the fault that its next write meets. -/
structure StoredRecords where
  saving : Saving
  semanticFailures : U32
  fault : Fault

namespace StoredRecords

variable (valid : StoredRecord → Bool)

/-- The save of a record. -/
def attemptOf (k : StoredRecords) (r : DeviceRecord) : SaveAttempt :=
  ⟨encodeDeviceRecord r.stored, k.fault.leftover, k.fault.written, k.fault.readBack⟩

/-- `openref_device_record_store_callback` (device_record_store:113-118), with the candidates for a reset. -/
def store (k : StoredRecords) (r : DeviceRecord) : StoredRecords × Bool :=
  let s := DeviceRecordStore.save valid Medium.backend (k.saving.meets (k.attemptOf r))
    ⟨k.saving.store, k.semanticFailures⟩ r
  let payload := (encodeDeviceRecord r.stored).live k.saving.store.schema
  let candidates :=
    if !k.saving.store.loaded || !valid r.stored then k.saving.candidates
    else if s.2.2 then [payload] else k.saving.candidates ++ [payload]
  (⟨⟨s.2.1.records, s.1, candidates⟩, s.2.1.semanticFailures, k.fault⟩, s.2.2)

end StoredRecords

/-- The callbacks beside the store, over an environment `κ`. -/
structure Identity (κ : Type) where
  generateIdentity : κ → Bytes 16 → κ × Option (Bytes 8)
  lockDebug : κ → κ × Bool
  retireIdentity : κ → κ × Bool

/-- `openref_device_backend_t` over the record store. -/
def Identity.backend {κ : Type} (env : Identity κ) (valid : StoredRecord → Bool) :
    DeviceBackend (κ × StoredRecords) where
  storeRecord k r := let s := k.2.store valid r; ((k.1, s.1), s.2)
  generateIdentity k id := let g := env.generateIdentity k.1 id; ((g.1, k.2), g.2)
  lockDebug k := let l := env.lockDebug k.1; ((l.1, k.2), l.2)
  retireIdentity k := let e := env.retireIdentity k.1; ((e.1, k.2), e.2)

/-- A call of the lifecycle; a reboot is none. -/
def DeviceLifecycle.call {κ : Type} (be : DeviceBackend κ) (k : κ) (d : DeviceLifecycle) :
    DeviceEvent → κ × DeviceLifecycle × Bool
  | .beginFactoryTest => d.beginFactoryTest be k
  | .installIdentity id tests images => d.installIdentity be k id tests images
  | .applyProductionLock images boot => d.applyProductionLock be k images boot
  | .quarantine code => d.quarantine be k code
  | .retire authorized => d.retire be k authorized
  | .reboot => (k, d, false)

/-! ## A unit over its resets -/

/-- A unit: its lifecycle, if a record was found. -/
structure StoredUnit (κ : Type) where
  environment : κ
  records : StoredRecords
  lifecycle : Option DeviceLifecycle

/-- What happens to a unit: a call whose write meets a fault, or a reset and whether the slots can be read then. -/
structure StoredEvent where
  event : DeviceEvent
  fault : Fault
  reads : List Bool

namespace StoredEvent

/-- A torn record does not decode. -/
def Cut (e : StoredEvent) : Prop := ∀ r, e.fault.leftover = .torn r → Boot.decode deviceRecordSchema r = none

/-- Both slots can be read when the unit comes up. -/
def Readable (e : StoredEvent) : Prop := ∀ r ∈ e.reads.take 2, r = true

end StoredEvent

namespace StoredUnit

variable {κ : Type} (env : Identity κ) (valid : StoredRecord → Bool)

/-- A reset: the record is loaded and the lifecycle starts from it. -/
def powerUp (u : StoredUnit κ) (reads : List Bool) : StoredUnit κ :=
  let m : Medium := { u.records.saving.medium with reads := reads }
  let r := DeviceRecordStore.init.load valid Medium.backend m
  let loaded := (DeviceRecordStore.init.records.load Medium.backend m).2.2
  { u with
    records := ⟨⟨r.2.1.records, r.1, loaded.toList⟩, r.2.1.semanticFailures, u.records.fault⟩
    lifecycle := (r.2.2.bind StoredRecord.record).map fun record => DeviceLifecycle.init (some record) }

/-- The answer of a call. -/
def answer (u : StoredUnit κ) (e : StoredEvent) : Bool :=
  u.lifecycle.any fun d => (d.call (env.backend valid) (u.environment, { u.records with fault := e.fault }) e.event).2.2

def step (u : StoredUnit κ) (e : StoredEvent) : StoredUnit κ :=
  if e.event = .reboot then u.powerUp valid e.reads
  else match u.lifecycle with
    | none => u
    | some d =>
      let r := d.call (env.backend valid) (u.environment, { u.records with fault := e.fault }) e.event
      ⟨r.1.1, r.1.2, some r.2.1⟩

/-- Quarantined or retired. -/
def Terminal (u : StoredUnit κ) : Prop := u.lifecycle.any (fun d => d.record.state.terminal) = true

instance decidableTerminal (u : StoredUnit κ) : Decidable u.Terminal := inferInstanceAs (Decidable (_ = true))

theorem terminal_iff {u : StoredUnit κ} :
    u.Terminal ↔ ∃ d, u.lifecycle = some d ∧ d.record.state.terminal = true := Option.any_eq_true _ _

end StoredUnit

/-! ## What a call stores -/

variable {κ : Type} {env : Identity κ} {valid : StoredRecord → Bool}

/-- Everything a call can do to the records: it stores nothing; or one record, which is terminal where the unit was,
and whose state is the one it leaves if that was stored. -/
inductive Handled (valid : StoredRecord → Bool) (k : StoredRecords) (before : DeviceState) :
    StoredRecords × DeviceLifecycle × Bool → Prop
  | unsaved {d : DeviceLifecycle} : d.record.state = before ∨ d.record.state.terminal = true →
      Handled valid k before (k, d, false)
  | saved {r : DeviceRecord} {d : DeviceLifecycle} {answer : Bool} :
      (before.terminal = true → r.state.terminal = true) → (k.store valid r).2 = true → d.record.state = r.state →
      Handled valid k before ((k.store valid r).1, d, answer)
  | failed {r : DeviceRecord} {d : DeviceLifecycle} : (before.terminal = true → r.state.terminal = true) →
      (k.store valid r).2 = false → d.record.state.terminal = true →
      Handled valid k before ((k.store valid r).1, d, false)

/-- The records, the lifecycle and the answer of what a call gives. -/
def outcome (r : (κ × StoredRecords) × DeviceLifecycle × Bool) : StoredRecords × DeviceLifecycle × Bool :=
  (r.1.2, r.2)

theorem handled_reject (k : κ × StoredRecords) (d : DeviceLifecycle) :
    Handled valid k.2 d.record.state (outcome (k, d.reject, false)) := .unsaved (.inl rfl)

theorem handled_anomaly (k : κ × StoredRecords) (d : DeviceLifecycle) (before : DeviceState) :
    Handled valid k.2 before (outcome (k, d.anomaly, false)) := .unsaved (.inr rfl)

/-- A persist stores the record with the state it was given, or quarantines. -/
theorem persist_outcome (k : κ × StoredRecords) (d : DeviceLifecycle) :
    (∃ d', outcome (d.persist (env.backend valid) k) = (k.2, DeviceLifecycle.anomaly d', false)) ∨
      ∃ r, r.state = d.record.state ∧ outcome (d.persist (env.backend valid) k) = ((k.2.store valid r).1,
        if (k.2.store valid r).2 then { d with record := r } else ({ d with record := r } : DeviceLifecycle).anomaly,
        (k.2.store valid r).2) := by
  unfold DeviceLifecycle.persist
  dsimp only
  split
  · exact .inl ⟨_, rfl⟩
  · refine .inr ⟨{ d.record with generation := d.record.generation + 1 }, rfl, ?_⟩
    have hstore (r : DeviceRecord) : (env.backend valid).storeRecord k r =
        ((k.1, (k.2.store valid r).1), (k.2.store valid r).2) := rfl
    rw [hstore]
    cases (k.2.store valid { d.record with generation := d.record.generation + 1 }).2 <;> rfl

theorem handled_persist (k : κ × StoredRecords) (d : DeviceLifecycle) {before : DeviceState}
    (hb : before.terminal = true → d.record.state.terminal = true) :
    Handled valid k.2 before (outcome (d.persist (env.backend valid) k)) := by
  rcases persist_outcome k d with ⟨d', h⟩ | ⟨r, hr, h⟩
  · rw [h]
    exact .unsaved (.inr rfl)
  · rw [h]
    cases hs : (k.2.store valid r).2 with
    | true => exact .saved (fun ht => hr ▸ hb ht) hs rfl
    | false => exact .failed (fun ht => hr ▸ hb ht) hs rfl

theorem handled_retire (k : κ × StoredRecords) (d : DeviceLifecycle) (authorized : Bool) :
    Handled valid k.2 d.record.state (outcome (d.retire (env.backend valid) k authorized)) := by
  unfold DeviceLifecycle.retire
  split
  · exact handled_reject k d
  · dsimp only
    generalize hd : ({ d with
      record := { d.record with identityFingerprint := Bytes.zero _, state := .retired }
      backendFailures := if ((env.backend valid).retireIdentity k).2 then d.backendFailures
        else d.backendFailures + 1 } : DeviceLifecycle) = d'
    have hretired : d'.record.state = .retired := by rw [← hd]
    generalize hk : ((env.backend valid).retireIdentity k).1 = k'
    have hrecords : k'.2 = k.2 := by rw [← hk]; rfl
    have hstate (d'' : DeviceLifecycle) : (d''.setState .retired).record.state.terminal = true := rfl
    have houtcome (p : (κ × StoredRecords) × DeviceLifecycle × Bool) (erased : Bool) :
        outcome (p.1, p.2.1.setState .retired, erased && p.2.2) =
          ((outcome p).1, (outcome p).2.1.setState .retired, erased && (outcome p).2.2) := rfl
    rw [houtcome]
    have hcases := @persist_outcome κ env valid k' d'
    generalize outcome (d'.persist (env.backend valid) k') = p at hcases ⊢
    rw [hrecords] at hcases
    rcases hcases with ⟨d'', rfl⟩ | ⟨r, hr, rfl⟩
    · dsimp only
      rw [Bool.and_false]
      exact .unsaved (.inr rfl)
    · have hterminal : d.record.state.terminal = true → r.state.terminal = true := fun _ => by
        rw [hr, hretired]
        rfl
      dsimp only
      cases hs : (k.2.store valid r).2 with
      | true => exact .saved hterminal hs (hretired.symm.trans hr.symm)
      | false =>
        rw [Bool.and_false]
        exact .failed hterminal hs rfl

variable (env valid) in
/-- **What a call does to the records.** -/
theorem call_handled (k : κ × StoredRecords) (d : DeviceLifecycle) {e : DeviceEvent} (he : e ≠ .reboot) :
    Handled valid k.2 d.record.state (outcome (d.call (env.backend valid) k e)) := by
  cases e with
  | reboot => exact absurd rfl he
  | beginFactoryTest =>
    unfold DeviceLifecycle.call DeviceLifecycle.beginFactoryTest
    dsimp only
    split
    · exact handled_reject k d
    · next hs =>
      refine handled_persist k _ fun h => ?_
      rw [not_not.1 hs] at h
      cases h
  | installIdentity id tests images =>
    unfold DeviceLifecycle.call DeviceLifecycle.installIdentity
    dsimp only
    split
    · exact handled_reject k d
    · next hs =>
      simp only [Bool.or_eq_true, decide_eq_true_eq, not_or, not_not] at hs
      have hsame : ((env.backend valid).generateIdentity k id).1.2 = k.2 := rfl
      generalize ((env.backend valid).generateIdentity k id) = g at hsame ⊢
      split
      · exact hsame ▸ handled_anomaly g.1 d _
      · split
        · exact hsame ▸ handled_anomaly g.1 d _
        · rw [← hsame]
          refine handled_persist g.1 _ fun h => ?_
          rw [hs.1.1.1] at h
          cases h
  | applyProductionLock images boot =>
    unfold DeviceLifecycle.call DeviceLifecycle.applyProductionLock
    dsimp only
    split
    · exact handled_reject k d
    · next hs =>
      simp only [Bool.or_eq_true, decide_eq_true_eq, not_or, not_not] at hs
      have hsame : ((env.backend valid).lockDebug k).1.2 = k.2 := rfl
      generalize ((env.backend valid).lockDebug k) = l at hsame ⊢
      split
      · exact hsame ▸ handled_anomaly l.1 d _
      · rw [← hsame]
        refine handled_persist l.1 _ fun h => ?_
        rw [hs.1.1] at h
        cases h
  | quarantine code =>
    unfold DeviceLifecycle.call DeviceLifecycle.quarantine
    dsimp only
    split
    · exact handled_reject k d
    · exact handled_persist k _ fun _ => rfl
  | retire authorized => exact handled_retire k d authorized

/-! ## What the records hold -/

/-- What a reset may find: valid records with a state, of which `P` holds. -/
structure Holds (valid : StoredRecord → Bool) (P : DeviceRecord → Prop) (k : StoredRecords) : Prop where
  schema : k.saving.store.schema = deviceRecordSchema
  safe : k.saving.Safe
  records : ∀ payload ∈ k.saving.candidates, ∃ r : DeviceRecord,
    decodeDeviceRecord valid payload = some r.stored ∧ P r

theorem Holds.weaken {P Q : DeviceRecord → Prop} {k : StoredRecords} (h : Holds valid P k) (hpq : ∀ r, P r → Q r) :
    Holds valid Q k := by
  refine ⟨h.schema, h.safe, fun payload hmem => ?_⟩
  obtain ⟨r, hr, hp⟩ := h.records payload hmem
  exact ⟨r, hr, hpq r hp⟩

/-- The medium that an attempt meets has the same slots. -/
theorem safe_meets {w : Saving} (h : w.Safe) (a : SaveAttempt) : ({ w with medium := w.meets a } : Saving).Safe :=
  ⟨⟨h.tracks.schema_eq, h.tracks.active⟩, h.loaded, h.active, h.keeps⟩

theorem live_candidate (r : DeviceRecord) {schema : Schema} (hs : schema = deviceRecordSchema)
    (hv : valid r.stored = true) :
    decodeDeviceRecord valid ((encodeDeviceRecord r.stored).live schema) = some r.stored := by
  rw [hs, decodeDeviceRecord_encodeDeviceRecord, if_pos hv]

variable (valid) in
/-- A store is an attempt of a save, or it is refused. -/
theorem store_cases {k : StoredRecords} (hl : k.saving.store.loaded = true) (r : DeviceRecord) :
    (valid r.stored = true ∧ (k.store valid r).1.saving = k.saving.attempt (k.attemptOf r) ∧
        ((k.store valid r).2 = true →
          (k.store valid r).1.saving.candidates = [(encodeDeviceRecord r.stored).live k.saving.store.schema])) ∨
      (k.store valid r).2 = false ∧
        (k.store valid r).1.saving = { k.saving with medium := k.saving.meets (k.attemptOf r) } := by
  unfold StoredRecords.store DeviceRecordStore.save
  dsimp only
  rw [hl]
  cases hv : valid r.stored with
  | false => exact .inr ⟨rfl, rfl⟩
  | true =>
    refine .inl ⟨rfl, ?_, fun hok => ?_⟩
    · rfl
    · simp only [Bool.not_true, Bool.or_self, Bool.false_eq_true, if_false] at hok ⊢
      rw [if_pos hok]

theorem store_holds {P : DeviceRecord → Prop} {k : StoredRecords} (h : Holds valid P k) {r : DeviceRecord} (hp : P r)
    (hcut : (k.attemptOf r).Cut deviceRecordSchema) : Holds valid P (k.store valid r).1 := by
  rcases store_cases valid h.safe.loaded r with ⟨hv, hsaving, -⟩ | ⟨-, hsaving⟩
  · refine ⟨?_, ?_, fun payload hmem => ?_⟩
    · rw [hsaving, Saving.attempt_schema]
      exact h.schema
    · rw [hsaving]
      exact Saving.safe_attempt h.safe (h.schema.symm ▸ hcut)
    · rw [hsaving] at hmem
      unfold Saving.attempt at hmem
      dsimp only at hmem
      have hnew : payload = (encodeDeviceRecord r.stored).live k.saving.store.schema →
          ∃ r : DeviceRecord, decodeDeviceRecord valid payload = some r.stored ∧ P r := by
        rintro rfl
        exact ⟨r, live_candidate r h.schema hv, hp⟩
      split at hmem
      · exact hnew (List.mem_singleton.1 hmem)
      · rcases List.mem_append.1 hmem with hold | hmem
        · exact h.records payload hold
        · exact hnew (List.mem_singleton.1 hmem)
  · refine ⟨?_, ?_, ?_⟩
    · rw [hsaving]
      exact h.schema
    · rw [hsaving]
      exact safe_meets h.safe _
    · rw [hsaving]
      exact h.records

/-- After a store that succeeds, a reset finds that record and no other. -/
theorem store_saved {P Q : DeviceRecord → Prop} {k : StoredRecords} (h : Holds valid P k) {r : DeviceRecord} (hq : Q r)
    (hcut : (k.attemptOf r).Cut deviceRecordSchema) (hok : (k.store valid r).2 = true) :
    Holds valid Q (k.store valid r).1 := by
  have hall := store_holds (h.weaken fun _ _ => trivial) (P := fun _ => True) trivial hcut
  refine ⟨hall.schema, hall.safe, ?_⟩
  rcases store_cases valid h.safe.loaded r with ⟨hv, -, hcandidates⟩ | ⟨hfalse, -⟩
  · rw [hcandidates hok]
    exact List.forall_mem_singleton.2 ⟨r, live_candidate r h.schema hv, hq⟩
  · rw [hfalse] at hok
    cases hok

/-! ## Resets -/

/-- What a reset with readable slots finds is what a fresh store loads. -/
theorem powerUp_payload (m : Medium) (hreads : ∀ r ∈ m.reads.take 2, r = true) :
    ((ConfigStore.init deviceRecordSchema).load Medium.backend m).2.2 = reload deviceRecordSchema m := by
  have hreload := reload_of_load (s := ConfigStore.init deviceRecordSchema) hreads
  obtain ⟨hslots, -⟩ := load_medium m (ConfigStore.init deviceRecordSchema)
  rw [← hreload, reload_eq, reload_eq, hslots, hslots]
  rfl

/-- A reset that finds a record. -/
theorem powerUp_loads (u : StoredUnit κ) {reads : List Bool} (hreads : ∀ r ∈ reads.take 2, r = true)
    {payload : List U8} {r : DeviceRecord} {P : DeviceRecord → Prop}
    (hreload : reload deviceRecordSchema u.records.saving.medium = some payload)
    (hr : decodeDeviceRecord valid payload = some r.stored) (hp : P r) :
    (u.powerUp valid reads).lifecycle = some (DeviceLifecycle.init (some r)) ∧
      Holds valid P (u.powerUp valid reads).records := by
  let m : Medium := { u.records.saving.medium with reads := reads }
  have hpayload : ((ConfigStore.init deviceRecordSchema).load Medium.backend m).2.2 = some payload :=
    (powerUp_payload m hreads).trans hreload
  have hfresh : reload deviceRecordSchema ((ConfigStore.init deviceRecordSchema).load Medium.backend m).1 =
      some payload := (reload_of_load hreads).trans hpayload
  have hsafe := safe_loaded hpayload hfresh
  unfold StoredUnit.powerUp DeviceRecordStore.load DeviceRecordStore.init
  dsimp only
  have hfound : (some payload).bind (decodeDeviceRecord valid) = some r.stored := hr
  rw [hpayload]
  split
  · next hnone => rw [hfound] at hnone; cases hnone
  · next record hrecord =>
    rw [hfound] at hrecord
    cases hrecord
    refine ⟨?_, ⟨load_schema _ m, hsafe, ?_⟩⟩
    · dsimp only
      rw [Option.bind_some, DeviceRecord.record_stored, Option.map_some]
    · exact List.forall_mem_singleton.2 ⟨r, hr, hp⟩

/-- A unit that is up, and what its next reset may find. -/
structure Up (valid : StoredRecord → Bool) (P : DeviceRecord → Prop) (u : StoredUnit κ) : Prop where
  lifecycle : u.lifecycle.isSome = true
  holds : Holds valid P u.records

/-- **A reset finds one of the candidates.** -/
theorem up_powerUp {P : DeviceRecord → Prop} {u : StoredUnit κ} (h : Holds valid P u.records) {reads : List Bool}
    (hreads : ∀ r ∈ reads.take 2, r = true) :
    ∃ r, P r ∧ (∃ payload ∈ u.records.saving.candidates, decodeDeviceRecord valid payload = some r.stored) ∧
      (u.powerUp valid reads).lifecycle = some (DeviceLifecycle.init (some r)) ∧ Up valid P (u.powerUp valid reads) := by
  obtain ⟨payload, hmem, hreload⟩ := h.safe.keeps
  obtain ⟨r, hr, hp⟩ := h.records payload hmem
  rw [h.schema] at hreload
  obtain ⟨hlifecycle, hholds⟩ := powerUp_loads u hreads hreload hr hp
  refine ⟨r, hp, ⟨payload, hmem, hr⟩, hlifecycle, ?_, hholds⟩
  rw [hlifecycle]
  rfl

/-- A unit that came up holds the record that it came up with. -/
theorem up_start (u : StoredUnit κ) {reads : List Bool} (hreads : ∀ r ∈ reads.take 2, r = true)
    (hup : (u.powerUp valid reads).lifecycle.isSome = true) : Up valid (fun _ => True) (u.powerUp valid reads) := by
  refine ⟨hup, ?_⟩
  have hpayload := powerUp_payload { u.records.saving.medium with reads := reads } hreads
  unfold StoredUnit.powerUp DeviceRecordStore.load DeviceRecordStore.init at hup
  dsimp only at hup
  rw [Option.isSome_map] at hup
  split at hup
  · cases hup
  · next record hrecord =>
    obtain ⟨payload, hload, hdecode⟩ := Option.bind_eq_some_iff.1 hrecord
    obtain ⟨r, hr⟩ := Option.isSome_iff_exists.1 hup
    have hr : record.record = some r := hr
    rw [StoredRecord.record_some hr] at hdecode
    exact (powerUp_loads u hreads (hpayload.symm.trans hload) hdecode trivial).2

/-! ## Runs -/

theorem step_call {u : StoredUnit κ} {e : StoredEvent} {d : DeviceLifecycle} (hd : u.lifecycle = some d)
    (he : e.event ≠ .reboot) :
    let r := d.call (env.backend valid) (u.environment, { u.records with fault := e.fault }) e.event
    u.step env valid e = ⟨r.1.1, (outcome r).1, some (outcome r).2.1⟩ := by
  unfold StoredUnit.step
  rw [if_neg he, hd]
  rfl

/-- A call keeps what the records hold, if what it stores has it. -/
theorem up_call {P : DeviceRecord → Prop} {u : StoredUnit κ} (h : Up valid P u) {e : StoredEvent} (hcut : e.Cut)
    (he : e.event ≠ .reboot)
    (hp : ∀ d, u.lifecycle = some d → ∀ r : DeviceRecord, (d.record.state.terminal = true → r.state.terminal = true) →
      P r) : Up valid P (u.step env valid e) := by
  obtain ⟨d, hd⟩ := Option.isSome_iff_exists.1 h.lifecycle
  let k : κ × StoredRecords := (u.environment, { u.records with fault := e.fault })
  have hstep : u.step env valid e = _ := step_call hd he
  have hk : Holds valid P k.2 := ⟨h.holds.schema, h.holds.safe, h.holds.records⟩
  have hhandled := call_handled env valid k d he
  refine ⟨?_, ?_⟩
  · rw [hstep]
    rfl
  · rw [hstep]
    dsimp only
    generalize outcome (d.call (env.backend valid) k e.event) = p at hhandled ⊢
    cases hhandled with
    | unsaved => exact hk
    | saved hterminal => exact store_holds hk (hp d hd _ hterminal) hcut
    | failed hterminal => exact store_holds hk (hp d hd _ hterminal) hcut

theorem step_reboot {u : StoredUnit κ} {e : StoredEvent} (he : e.event = .reboot) :
    u.step env valid e = u.powerUp valid e.reads := by
  unfold StoredUnit.step
  rw [if_pos he]

theorem up_step {u : StoredUnit κ} (h : Up valid (fun _ => True) u) (e : StoredEvent) (he : e.Cut ∧ e.Readable) :
    Up valid (fun _ => True) (u.step env valid e) := by
  by_cases hreboot : e.event = .reboot
  · rw [step_reboot hreboot]
    obtain ⟨r, -, -, -, hup⟩ := up_powerUp h.holds he.2
    exact hup
  · exact up_call h he.1 hreboot fun _ _ _ _ => trivial

/-- A quarantined or retired unit whose resets find it so. -/
structure Lasting (valid : StoredRecord → Bool) (u : StoredUnit κ) : Prop where
  up : Up valid (fun r => r.state.terminal = true) u
  terminal : u.Terminal

theorem lasting_step {u : StoredUnit κ} (h : Lasting valid u) (e : StoredEvent) (he : e.Cut ∧ e.Readable) :
    Lasting valid (u.step env valid e) := by
  obtain ⟨d, hd, hterminal⟩ := StoredUnit.terminal_iff.1 h.terminal
  by_cases hreboot : e.event = .reboot
  · rw [step_reboot hreboot]
    obtain ⟨r, hr, -, hlifecycle, hup⟩ := up_powerUp h.up.holds he.2
    exact ⟨hup, StoredUnit.terminal_iff.2 ⟨_, hlifecycle, init_terminal hr⟩⟩
  · refine ⟨up_call h.up he.1 hreboot fun d' hd' r hr => hr ?_, ?_⟩
    · rw [hd] at hd'
      exact Option.some.inj hd' ▸ hterminal
    · let k : κ × StoredRecords := (u.environment, { u.records with fault := e.fault })
      have hhandled := call_handled env valid k d hreboot
      refine StoredUnit.terminal_iff.2 ⟨(outcome (d.call (env.backend valid) k e.event)).2.1, ?_, ?_⟩
      · rw [step_call hd hreboot]
      · generalize outcome (d.call (env.backend valid) k e.event) = p at hhandled ⊢
        cases hhandled with
        | unsaved hstate =>
          rcases hstate with hsame | hquarantined
          · dsimp only
            rw [hsame]
            exact hterminal
          · exact hquarantined
        | saved hr _ hstate =>
          dsimp only
          rw [hstate]
          exact hr hterminal
        | failed _ _ hquarantined => exact hquarantined

/-- A call that reports success and leaves the unit quarantined or retired has stored it. -/
theorem lasting_answer {u : StoredUnit κ} (h : Up valid (fun _ => True) u) {e : StoredEvent} (hcut : e.Cut)
    (he : e.event ≠ .reboot) (hanswer : u.answer env valid e = true) (hterminal : (u.step env valid e).Terminal) :
    Lasting valid (u.step env valid e) := by
  obtain ⟨d, hd⟩ := Option.isSome_iff_exists.1 h.lifecycle
  let k : κ × StoredRecords := (u.environment, { u.records with fault := e.fault })
  have hstep : u.step env valid e = _ := step_call hd he
  have hyes : (outcome (d.call (env.backend valid) k e.event)).2.2 = true := by
    unfold StoredUnit.answer at hanswer
    rw [hd] at hanswer
    exact hanswer
  have hk : Holds valid (fun _ => True) k.2 := ⟨h.holds.schema, h.holds.safe, h.holds.records⟩
  have hhandled := call_handled env valid k d he
  refine ⟨⟨?_, ?_⟩, hterminal⟩
  · rw [hstep]
    rfl
  · obtain ⟨d', hd', hstate'⟩ := StoredUnit.terminal_iff.1 hterminal
    rw [hstep] at hd' ⊢
    dsimp only at hd' ⊢
    cases Option.some.inj hd'
    generalize outcome (d.call (env.backend valid) k e.event) = p at hhandled hyes hstate' ⊢
    cases hhandled with
    | unsaved => cases hyes
    | saved _ hok hstate => exact store_saved hk (hstate ▸ hstate') hcut hok
    | failed => cases hyes

/-- **Main result: the record survives power cuts, and a quarantine or a retirement that was reported lasts.** A unit
came up over any medium. Writes are cut in any way that the CRC sees, and the slots can be read at each reset. Then the
unit is up at any time; a reset finds the record that was loaded or stored last, or one whose store failed since; and
once a call reports success and leaves the unit quarantined or retired, it is that from then on. -/
theorem records_survive_power_cuts (env : Identity κ) (valid : StoredRecord → Bool) (u : StoredUnit κ)
    (reads : List Bool) (hreads : ∀ r ∈ reads.take 2, r = true)
    (hup : (u.powerUp valid reads).lifecycle.isSome = true) (past : List StoredEvent)
    (hpast : ∀ e ∈ past, e.Cut ∧ e.Readable) :
    let now := past.foldl (StoredUnit.step env valid) (u.powerUp valid reads)
    now.lifecycle.isSome = true ∧
      (∀ reads, (∀ r ∈ reads.take 2, r = true) → ∃ r : DeviceRecord,
        (∃ payload ∈ now.records.saving.candidates, decodeDeviceRecord valid payload = some r.stored) ∧
          (now.powerUp valid reads).lifecycle = some (DeviceLifecycle.init (some r))) ∧
      ∀ e, e.Cut → e.event ≠ .reboot → now.answer env valid e = true → (now.step env valid e).Terminal →
        ∀ later : List StoredEvent, (∀ e ∈ later, e.Cut ∧ e.Readable) →
          (later.foldl (StoredUnit.step env valid) (now.step env valid e)).Terminal := by
  intro now
  have hnow : Up valid (fun _ => True) now := Run.inv_along (P := Up valid fun _ => True) (fun _ e h he => up_step h e he) _ past
    (up_start u hreads hup) (Run.along_iff_forall.2 hpast)
  refine ⟨hnow.lifecycle, fun reads hreads => ?_, fun e hcut he hanswer hterminal later hlater => ?_⟩
  · obtain ⟨r, -, hmem, hlifecycle, -⟩ := up_powerUp hnow.holds hreads
    exact ⟨r, hmem, hlifecycle⟩
  · have hlasting := lasting_answer hnow hcut he hanswer hterminal
    exact (Run.inv_along (P := Lasting valid) (fun _ e h he => lasting_step h e he) _ later hlasting
      (Run.along_iff_forall.2 hlater)).terminal

/-- Callbacks that grant everything. -/
def willingIdentity : Identity Unit where
  generateIdentity _ _ := ((), some (Bytes.filled 8 1))
  lockDebug _ := ((), true)
  retireIdentity _ := ((), true)

/-- A record that the lifecycle itself takes for one it stored. -/
def consistentRecord (s : StoredRecord) : Bool := s.record.any fun r => !r.inconsistent

/-- A unit in factory test; its second slot is erased. -/
def factoryTestUnit : StoredUnit Unit where
  environment := ()
  records := ⟨⟨ConfigStore.init deviceRecordSchema,
    ⟨encodeRecord deviceRecordSchema 1 (encodeDeviceRecord ⟨1, Bytes.zero _, Bytes.zero _, 1, 0⟩), erasedRecord, [], []⟩,
    []⟩, 0, ⟨.new, true, true⟩⟩
  lifecycle := none

/-- It is quarantined; after a reset the write of another quarantine is torn, and it is reset again. -/
theorem quarantine_survives_torn_write :
    let e (event : DeviceEvent) (leftover : Leftover) : StoredEvent := ⟨event, ⟨leftover, true, true⟩, []⟩
    ([e .reboot .old, e (.quarantine 8) (.torn erasedRecord), e .reboot .old].foldl
      (StoredUnit.step willingIdentity consistentRecord)
      ((factoryTestUnit.powerUp consistentRecord []).step willingIdentity consistentRecord
        (e (.quarantine 7) .new))).Terminal := by
  intro e
  have hcut (event : DeviceEvent) (leftover : Leftover) (h : ∀ r, leftover = .torn r → r = erasedRecord) :
      (e event leftover).Cut ∧ (e event leftover).Readable := by
    refine ⟨fun r hr => ?_, fun r hr => by cases hr⟩
    rw [h r hr]
    decide +kernel
  have hmain := records_survive_power_cuts willingIdentity consistentRecord factoryTestUnit [] (by decide)
    (by decide +kernel) [] (by intro e he; cases he)
  refine hmain.2.2 (e (.quarantine 7) .new) (hcut _ _ fun r hr => by cases hr).1 nofun (by decide +kernel) (by decide +kernel) _ ?_
  intro e' he'
  simp only [List.mem_cons, List.not_mem_nil, or_false] at he'
  rcases he' with rfl | rfl | rfl
  · exact hcut _ _ fun r hr => by cases hr
  · exact hcut _ _ fun r hr => (Leftover.torn.inj hr).symm
  · exact hcut _ _ fun r hr => by cases hr

end OpenRef.Device
