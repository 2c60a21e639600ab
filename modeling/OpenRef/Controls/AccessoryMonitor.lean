import OpenRef.Base
import OpenRef.Lib.Run
/-!
# The accessory monitor (openref_accessory_monitor.c)

Each sample of the headset's microphone line is classified, with hysteresis around the state the monitor is
in, and a classification that lasts for the confirmation samples becomes the state. Voice goes out only while
both the sample and the state are OK.

A run is seen as the list of its samples, each with the state it met, its classification and what was
reported. `Debounced` says what a report rests on, and `accessory_debounced` that it does in every run.
-/

namespace OpenRef.Controls

/-- `openref_accessory_state_t`. -/
inductive AccessoryState
  | ok
  | disconnected
  | micShort
  | micOpen
  | sensorFault
deriving DecidableEq, Repr

/-- `openref_accessory_config_t`. -/
structure AccessoryConfig where
  shortEnterMv : U16
  shortExitMv : U16
  openExitMv : U16
  openEnterMv : U16
  confirmationSamples : U8
deriving DecidableEq, Repr

/-- `openref_accessory_output_t`. -/
structure AccessoryOutput where
  state : AccessoryState
  muteTransmit : Bool
  mutePlayback : Bool
  stateChanged : Bool
deriving DecidableEq, Repr

/-- The arguments of an update. -/
structure AccessoryInput where
  connectorPresent : Bool
  measurementValid : Bool
  senseMv : U16
deriving DecidableEq, Repr

/-- The configurations that `openref_accessory_monitor_init` accepts (:40-43). -/
def AccessoryConfig.valid (config : AccessoryConfig) : Bool :=
  config.confirmationSamples ≠ 0 && config.shortEnterMv < config.shortExitMv &&
    config.shortExitMv < config.openExitMv && config.openExitMv < config.openEnterMv

/-- `openref_accessory_monitor_t`. -/
structure AccessoryMonitor where
  config : AccessoryConfig
  state : AccessoryState
  candidate : AccessoryState
  candidateSamples : U8
  transitions : U32
  faultSamples : U32
  configValid : config.valid = true

/-- `classify` (:6-33). -/
def classify (config : AccessoryConfig) (state : AccessoryState) (i : AccessoryInput) : AccessoryState :=
  if !i.measurementValid then .sensorFault
  else if !i.connectorPresent then .disconnected
  else if state = .micShort ∧ i.senseMv < config.shortExitMv then .micShort
  else if state = .micOpen ∧ config.openExitMv < i.senseMv then .micOpen
  else if i.senseMv ≤ config.shortEnterMv then .micShort
  else if config.openEnterMv ≤ i.senseMv then .micOpen
  else .ok

namespace AccessoryMonitor

/-- `openref_accessory_monitor_init` (:35-49). -/
def init (config : AccessoryConfig) : Option AccessoryMonitor :=
  if h : config.valid = true then some ⟨config, .sensorFault, .sensorFault, 0, 0, 0, h⟩ else none

/-- `fault_samples` counts every sample that is not OK (:64-66). -/
def noteFault (m : AccessoryMonitor) (raw : AccessoryState) : AccessoryMonitor :=
  if raw ≠ .ok then { m with faultSamples := m.faultSamples + 1 } else m

/-- The candidate and how many samples it has lasted, up to the most a byte counts (:67-72). -/
def count (m : AccessoryMonitor) (raw : AccessoryState) : AccessoryMonitor :=
  if raw ≠ m.candidate then { m with candidate := raw, candidateSamples := 1 }
  else if m.candidateSamples < 255 then { m with candidateSamples := m.candidateSamples + 1 }
  else m

/-- A confirmed candidate becomes the state (:73-78). -/
def confirm (m : AccessoryMonitor) : AccessoryMonitor × Bool :=
  if m.candidate ≠ m.state ∧ m.config.confirmationSamples ≤ m.candidateSamples then
    ({ m with state := m.candidate, transitions := m.transitions + 1 }, true)
  else (m, false)

/-- `openref_accessory_monitor_update` (:53-85). -/
def update (m : AccessoryMonitor) (i : AccessoryInput) : AccessoryMonitor × AccessoryOutput :=
  let raw := classify m.config m.state i
  let r := ((m.noteFault raw).count raw).confirm
  (r.1, ⟨r.1.state, raw ≠ .ok || r.1.state ≠ .ok, !i.connectorPresent || !i.measurementValid, r.2⟩)

end AccessoryMonitor

/-! ## What is seen -/

/-- A sample, the state it met, its classification in that state, and what was reported. -/
structure AccessorySample where
  input : AccessoryInput
  before : AccessoryState
  classified : AccessoryState
  output : AccessoryOutput

/-- A monitor and the samples it took so far. -/
structure AccessoryRun where
  monitor : AccessoryMonitor
  seen : List AccessorySample

namespace AccessoryRun

def sample (r : AccessoryRun) (i : AccessoryInput) : AccessorySample :=
  ⟨i, r.monitor.state, classify r.monitor.config r.monitor.state i, (r.monitor.update i).2⟩

def step (r : AccessoryRun) (i : AccessoryInput) : AccessoryRun :=
  ⟨(r.monitor.update i).1, r.seen ++ [r.sample i]⟩

def run (m : AccessoryMonitor) (inputs : List AccessoryInput) : AccessoryRun := inputs.foldl step ⟨m, []⟩

end AccessoryRun

/-- The state of the last reported change. -/
def lastReported (seen : List AccessorySample) : Option AccessoryState :=
  (seen.filter fun o => o.output.stateChanged).getLast?.map fun o => o.output.state

/-- The last samples, as many as confirm a state, all satisfy a condition. -/
def Confirmed (config : AccessoryConfig) (seen : List AccessorySample) (D : AccessorySample → Prop) : Prop :=
  ∃ earlier last, seen = earlier ++ last ∧ config.confirmationSamples.toNat ≤ last.length ∧ ∀ o ∈ last, D o

/-- A connected microphone with a valid measurement. -/
def AccessoryInput.Measured (i : AccessoryInput) : Prop := i.connectorPresent = true ∧ i.measurementValid = true

/-- What a report rests on, the samples before it being these. -/
structure Debounced (config : AccessoryConfig) (past : List AccessorySample) (o : AccessorySample) : Prop where
  before : o.before = (lastReported past).getD .sensorFault
  classified : o.classified = classify config o.before o.input
  changed : o.output.stateChanged = true ↔ o.output.state ≠ o.before
  confirmed : o.output.state ≠ o.before →
    Confirmed config (past ++ [o]) fun p => p.before = o.before ∧ p.classified = o.output.state
  unmuted : o.output.muteTransmit = false → o.classified = .ok ∧ lastReported (past ++ [o]) = some .ok
  muted : o.classified ≠ .ok → o.output.muteTransmit = true
  fromShort : o.before = .micShort → o.output.state = .ok →
    Confirmed config (past ++ [o]) fun p => p.input.Measured ∧ config.shortExitMv ≤ p.input.senseMv
  fromOpen : o.before = .micOpen → o.output.state = .ok →
    Confirmed config (past ++ [o]) fun p => p.input.Measured ∧ p.input.senseMv ≤ config.openExitMv

/-! ## One update -/

/-- Only a measured level between the limits is OK, and beyond the exit limit of a fault that lasts. -/
theorem classify_ok {config : AccessoryConfig} {state : AccessoryState} {i : AccessoryInput}
    (h : classify config state i = .ok) : i.Measured ∧ (state = .micShort → config.shortExitMv ≤ i.senseMv) ∧
      (state = .micOpen → i.senseMv ≤ config.openExitMv) := by
  unfold classify at h
  split at h
  · cases h
  · next hvalid =>
    split at h
    · cases h
    · next hpresent =>
      rw [Bool.not_eq_true', Bool.not_eq_false] at hvalid hpresent
      split at h
      · cases h
      · next hshort =>
        split at h
        · cases h
        · next hopen =>
          exact ⟨⟨hpresent, hvalid⟩, fun hs => BitVec.not_lt.1 fun hlt => hshort ⟨hs, hlt⟩,
            fun hs => BitVec.not_lt.1 fun hlt => hopen ⟨hs, hlt⟩⟩

namespace AccessoryMonitor

variable (m : AccessoryMonitor)

theorem count_spec (raw : AccessoryState) : (m.count raw).candidate = raw ∧ (m.count raw).state = m.state ∧
    (m.count raw).config = m.config ∧ (m.count raw).candidateSamples.toNat ≤
      if raw = m.candidate then m.candidateSamples.toNat + 1 else 1 := by
  unfold count
  split
  · exact ⟨rfl, rfl, rfl, Nat.le_refl 1⟩
  · next h =>
    rw [ne_eq, not_not] at h
    rw [if_pos h]
    split
    · refine ⟨h.symm, rfl, rfl, ?_⟩
      rw [BitVec.toNat_add]
      exact Nat.mod_le _ _
    · exact ⟨h.symm, rfl, rfl, Nat.le_succ _⟩

theorem noteFault_count (raw : AccessoryState) : ((m.noteFault raw).count raw).candidate = raw ∧
    ((m.noteFault raw).count raw).state = m.state ∧ ((m.noteFault raw).count raw).config = m.config ∧
      ((m.noteFault raw).count raw).candidateSamples.toNat ≤
        if raw = m.candidate then m.candidateSamples.toNat + 1 else 1 := by
  unfold noteFault
  split
  · exact count_spec _ raw
  · exact count_spec _ raw

theorem confirm_cases :
    (m.candidate ≠ m.state ∧ m.config.confirmationSamples ≤ m.candidateSamples ∧ m.confirm.2 = true ∧
      m.confirm.1 = { m with state := m.candidate, transitions := m.transitions + 1 }) ∨
    (m.confirm.2 = false ∧ m.confirm.1 = m) := by
  unfold confirm
  split
  · next h => exact .inl ⟨h.1, h.2, rfl, rfl⟩
  · exact .inr ⟨rfl, rfl⟩

/-- What an update does: the classification is the candidate, and becomes the state when it is confirmed. -/
structure Updated (raw : AccessoryState) (r : AccessoryMonitor × AccessoryOutput) : Prop where
  sameConfig : r.1.config = m.config
  candidate : r.1.candidate = raw
  samples : r.1.candidateSamples.toNat ≤ if raw = m.candidate then m.candidateSamples.toNat + 1 else 1
  reported : r.2.state = r.1.state
  changed : r.2.stateChanged = true → raw ≠ m.state ∧ r.1.state = raw ∧
    m.config.confirmationSamples.toNat ≤ r.1.candidateSamples.toNat
  unchanged : r.2.stateChanged = false → r.1.state = m.state
  mute : r.2.muteTransmit = false ↔ raw = .ok ∧ r.1.state = .ok

theorem update_updated (i : AccessoryInput) : Updated m (classify m.config m.state i) (m.update i) := by
  generalize hraw : classify m.config m.state i = raw
  obtain ⟨hcandidate, hstate, hconfig, hsamples⟩ := m.noteFault_count raw
  have hmute (a b : AccessoryState) : (decide (a ≠ .ok) || decide (b ≠ .ok)) = false ↔ a = .ok ∧ b = .ok := by
    rw [Bool.or_eq_false_iff, decide_eq_false_iff_not, decide_eq_false_iff_not, not_not, not_not]
  unfold update
  rw [hraw]
  dsimp only
  rcases ((m.noteFault raw).count raw).confirm_cases with ⟨hne, hle, hyes, hnext⟩ | ⟨hno, hnext⟩
  · rw [hnext, hyes]
    refine ⟨hconfig, hcandidate, hsamples, rfl, fun _ => ⟨?_, hcandidate, ?_⟩, fun h => Bool.noConfusion h, hmute _ _⟩
    · rw [← hcandidate, ← hstate]
      exact hne
    · rw [← hconfig]
      exact BitVec.le_def.1 hle
  · rw [hnext, hno]
    exact ⟨hconfig, hcandidate, hsamples, rfl, fun h => Bool.noConfusion h, fun _ => hstate, hmute _ _⟩

end AccessoryMonitor

/-! ## The invariant -/

/-- The candidate was the classification of the last samples, while the state lasted that it differs from. -/
structure Counted (config : AccessoryConfig) (r : AccessoryRun) : Prop where
  sameConfig : r.monitor.config = config
  state : r.monitor.state = (lastReported r.seen).getD .sensorFault
  counted : ∃ earlier last, r.seen = earlier ++ last ∧ r.monitor.candidateSamples.toNat ≤ last.length ∧
    ∀ o ∈ last, o.classified = r.monitor.candidate ∧ (r.monitor.candidate ≠ r.monitor.state → o.before = r.monitor.state)
  classified : ∀ o ∈ r.seen, o.classified = classify config o.before o.input
  sound : Run.Each (Debounced config) r.seen

theorem lastReported_concat (seen : List AccessorySample) (o : AccessorySample) :
    lastReported (seen ++ [o]) = if o.output.stateChanged then some o.output.state else lastReported seen := by
  unfold lastReported
  cases h : o.output.stateChanged <;> simp [h]

theorem Confirmed.mono {config : AccessoryConfig} {seen : List AccessorySample} {D E : AccessorySample → Prop}
    (h : Confirmed config seen D) (hDE : ∀ o ∈ seen, D o → E o) : Confirmed config seen E := by
  obtain ⟨earlier, last, rfl, hlen, hall⟩ := h
  exact ⟨earlier, last, rfl, hlen, fun o ho => hDE o (List.mem_append_right _ ho) (hall o ho)⟩

theorem init_counted {config : AccessoryConfig} {m : AccessoryMonitor} (h : AccessoryMonitor.init config = some m) :
    Counted config ⟨m, []⟩ := by
  unfold AccessoryMonitor.init at h
  split at h
  · cases h
    exact ⟨rfl, rfl, ⟨[], [], rfl, Nat.le_refl _, List.forall_mem_nil _⟩, List.forall_mem_nil _, Run.each_nil⟩
  · cases h

theorem sample_updated (r : AccessoryRun) (i : AccessoryInput) :
    r.monitor.Updated (r.sample i).classified (r.monitor.update i) := r.monitor.update_updated i

section
variable {config : AccessoryConfig} {r : AccessoryRun}

theorem Counted.classified_concat (h : Counted config r) (i : AccessoryInput) :
    ∀ p ∈ r.seen ++ [r.sample i], p.classified = classify config p.before p.input := by
  intro p hp
  rcases List.mem_append.1 hp with hp | hp
  · exact h.classified p hp
  · rw [List.mem_singleton.1 hp, ← h.sameConfig]
    rfl

/-- The last samples with the classification of this one. -/
theorem Counted.last_samples (h : Counted config r) (i : AccessoryInput) : ∃ earlier last,
    r.seen ++ [r.sample i] = earlier ++ last ∧ (r.monitor.update i).1.candidateSamples.toNat ≤ last.length ∧
      ∀ p ∈ last, p.classified = (r.sample i).classified ∧
        ((r.sample i).classified ≠ r.monitor.state → p.before = r.monitor.state) := by
  have hsamples := (sample_updated r i).samples
  by_cases hsame : (r.sample i).classified = r.monitor.candidate
  · obtain ⟨earlier, last, hseen, hlen, hlast⟩ := h.counted
    rw [if_pos hsame] at hsamples
    refine ⟨earlier, last ++ [r.sample i], by rw [hseen, List.append_assoc], ?_, fun p hp => ?_⟩
    · rw [List.length_append, List.length_singleton]
      omega
    · rcases List.mem_append.1 hp with hp | hp
      · rw [hsame]
        exact hlast p hp
      · rw [List.mem_singleton.1 hp]
        exact ⟨rfl, fun _ => rfl⟩
  · rw [if_neg hsame] at hsamples
    refine ⟨r.seen, [r.sample i], rfl, hsamples, fun p hp => ?_⟩
    rw [List.mem_singleton.1 hp]
    exact ⟨rfl, fun _ => rfl⟩

theorem sample_changed (r : AccessoryRun) (i : AccessoryInput) :
    (r.sample i).output.stateChanged = true ↔ (r.sample i).output.state ≠ (r.sample i).before := by
  have hu := sample_updated r i
  have hstate : (r.sample i).output.state = (r.monitor.update i).1.state := hu.reported
  rw [hstate]
  refine ⟨fun hc => ?_, fun hne => ?_⟩
  · obtain ⟨hne, hto, -⟩ := hu.changed hc
    rw [hto]
    exact hne
  · by_contra hc
    exact hne (hu.unchanged (Bool.eq_false_iff.2 hc))

/-- A change is confirmed by the last samples. -/
theorem Counted.confirmed (h : Counted config r) {i : AccessoryInput}
    (hc : (r.sample i).output.state ≠ (r.sample i).before) : Confirmed config (r.seen ++ [r.sample i]) fun p =>
      p.before = (r.sample i).before ∧ p.classified = (r.sample i).output.state := by
  have hu := sample_updated r i
  have hstate : (r.sample i).output.state = (r.monitor.update i).1.state := hu.reported
  obtain ⟨hne, hto, hle⟩ := hu.changed ((sample_changed r i).2 hc)
  obtain ⟨earlier, last, hsplit, hlen, hlast⟩ := h.last_samples i
  rw [h.sameConfig] at hle
  refine ⟨earlier, last, hsplit, hle.trans hlen, fun p hp => ⟨(hlast p hp).2 hne, ?_⟩⟩
  rw [hstate, hto]
  exact (hlast p hp).1

theorem Counted.reported (h : Counted config r) (i : AccessoryInput) :
    (r.sample i).output.state = (lastReported (r.seen ++ [r.sample i])).getD .sensorFault := by
  have hu := sample_updated r i
  rw [lastReported_concat]
  cases hc : (r.sample i).output.stateChanged with
  | true => rfl
  | false =>
    have hsame : (r.sample i).output.state = r.monitor.state := hu.reported.trans (hu.unchanged hc)
    rw [if_neg Bool.false_ne_true, hsame]
    exact h.state

theorem sample_unmuted (r : AccessoryRun) (i : AccessoryInput) : (r.sample i).output.muteTransmit = false ↔
    (r.sample i).classified = .ok ∧ (r.sample i).output.state = .ok := by
  have hu := sample_updated r i
  have hstate : (r.sample i).output.state = (r.monitor.update i).1.state := hu.reported
  rw [hstate]
  exact hu.mute

theorem Counted.debounced (h : Counted config r) (i : AccessoryInput) : Debounced config r.seen (r.sample i) := by
  have hall := h.classified_concat i
  -- a change from a fault to OK is confirmed by samples that left the fault's range
  have hleft (fault : AccessoryState) (hfault : fault ≠ .ok) (hb : (r.sample i).before = fault)
      (hok : (r.sample i).output.state = .ok) : Confirmed config (r.seen ++ [r.sample i]) fun p =>
        classify config fault p.input = .ok := by
    have hne : (r.sample i).output.state ≠ (r.sample i).before := by
      rw [hb, hok]
      exact hfault.symm
    refine (h.confirmed hne).mono fun p hp hpp => ?_
    have hclass := hall p hp
    rw [hpp.2, hpp.1, hok, hb] at hclass
    exact hclass.symm
  refine ⟨h.state, hall _ (List.mem_append_right _ List.mem_cons_self), sample_changed r i, h.confirmed, fun hm => ?_,
    fun hne => ?_, fun hb hok => ?_, fun hb hok => ?_⟩
  · obtain ⟨hclass, hok⟩ := (sample_unmuted r i).1 hm
    refine ⟨hclass, ?_⟩
    rw [h.reported i] at hok
    cases hl : lastReported (r.seen ++ [r.sample i]) with
    | none =>
      rw [hl] at hok
      cases hok
    | some state =>
      rw [hl] at hok
      exact congrArg some hok
  · by_contra hm
    exact hne ((sample_unmuted r i).1 (Bool.eq_false_iff.2 hm)).1
  · refine (hleft _ AccessoryState.noConfusion hb hok).mono fun p _ hp => ?_
    obtain ⟨hmeasured, hshort, -⟩ := classify_ok hp
    exact ⟨hmeasured, hshort rfl⟩
  · refine (hleft _ AccessoryState.noConfusion hb hok).mono fun p _ hp => ?_
    obtain ⟨hmeasured, -, hopen⟩ := classify_ok hp
    exact ⟨hmeasured, hopen rfl⟩

end

theorem step_counted {config : AccessoryConfig} (r : AccessoryRun) (i : AccessoryInput) (h : Counted config r) :
    Counted config (r.step i) := by
  have hu := sample_updated r i
  obtain ⟨earlier, last, hsplit, hlen, hlast⟩ := h.last_samples i
  have hcandidate : (r.step i).monitor.candidate = (r.sample i).classified := hu.candidate
  refine ⟨hu.sameConfig.trans h.sameConfig, hu.reported.symm.trans (h.reported i), ⟨earlier, last, hsplit, hlen, ?_⟩,
    h.classified_concat i, h.sound.concat (h.debounced i)⟩
  rw [hcandidate]
  intro p hp
  refine ⟨(hlast p hp).1, fun hne => ?_⟩
  cases hc : (r.monitor.update i).2.stateChanged with
  | true => exact absurd (hu.changed hc).2.1.symm hne
  | false =>
    have hsame : (r.step i).monitor.state = r.monitor.state := hu.unchanged hc
    rw [hsame] at hne ⊢
    exact (hlast p hp).2 hne

/-- **Main result: what is reported is debounced**, for every configuration that is accepted and any samples. -/
theorem accessory_debounced {config : AccessoryConfig} {m : AccessoryMonitor}
    (h : AccessoryMonitor.init config = some m) (inputs : List AccessoryInput) :
    Run.Each (Debounced config) (AccessoryRun.run m inputs).seen :=
  (Run.inv_run step_counted (init_counted h) inputs).sound

/-- The limits of the repository's tests. -/
def testAccessory : AccessoryConfig := ⟨200, 300, 1700, 1800, 3⟩

theorem accessory_debounced_short : ∃ m, AccessoryMonitor.init testAccessory = some m ∧
    Run.Each (Debounced testAccessory) (AccessoryRun.run m [⟨true, true, 50⟩, ⟨true, true, 150⟩, ⟨true, true, 50⟩,
      ⟨true, true, 250⟩, ⟨true, true, 300⟩, ⟨true, true, 310⟩, ⟨true, true, 1000⟩]).seen :=
  ⟨_, rfl, accessory_debounced rfl _⟩

end OpenRef.Controls
