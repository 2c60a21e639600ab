import Mathlib.Data.List.Induction
import OpenRef.Base
import OpenRef.Lib.Run
/-!
# The power supervisor (openref_power_supervisor.c)

Battery samples become warnings and a latched shutdown. An update looks at the pack, at the
latch, at the measurement, the temperature and the voltage, and then at the estimated runtime:
first against the critical band with its grace timer, then against the low band. One state
variable remembers which band the last sample was in, so the hysteresis of the low band is lost
while the critical band is being left.

`update_cases` says what an update can do: one outcome for each branch. `init_spec`: no sum of
thresholds overflows in a configuration that was accepted.
-/

namespace OpenRef.Power

/-- `openref_power_state_t`. -/
inductive PowerState
  | disconnected | normal | low | critical | shutdown | overtemperature | sensorFault
deriving DecidableEq, Repr

/-- `OPENREF_POWER_ACTION_WARN_LOW`. -/
def powerActionWarnLow : U32 := 1 <<< 0
/-- `OPENREF_POWER_ACTION_WARN_CRITICAL`. -/
def powerActionWarnCritical : U32 := 1 <<< 1
/-- `OPENREF_POWER_ACTION_REDUCE_LOAD`. -/
def powerActionReduceLoad : U32 := 1 <<< 2
/-- `OPENREF_POWER_ACTION_MUTE_AUDIO`. -/
def powerActionMuteAudio : U32 := 1 <<< 3
/-- `OPENREF_POWER_ACTION_REQUEST_SHUTDOWN`. -/
def powerActionRequestShutdown : U32 := 1 <<< 4

/-- `UINT16_MAX`. -/
def uint16Max : U16 := 0xffff

/-- `openref_power_config_t`; the temperature is an `int16_t`. -/
structure PowerConfig where
  lowRuntimeMinutes : U16
  criticalRuntimeMinutes : U16
  runtimeHysteresisMinutes : U16
  hardUndervoltageMv : U16
  maximumTemperatureCdeg : BitVec 16
  criticalGraceMs : U32
deriving DecidableEq, Repr

/-- `openref_power_sample_t`. -/
structure PowerSample where
  packPresent : Bool
  measurementValid : Bool
  estimatedRuntimeMinutes : U16
  batteryMv : U16
  temperatureCdeg : BitVec 16
  timestampMs : U64
deriving DecidableEq, Repr

/-- `openref_power_supervisor_t`. -/
structure PowerSupervisor where
  config : PowerConfig
  state : PowerState
  criticalSinceMs : U64
  criticalTimerActive : Bool
  shutdownLatched : Bool
  samples : U32
  transitions : U32
  invalidSamples : U32
  undervoltageEvents : U32
  overtemperatureEvents : U32
deriving DecidableEq, Repr

/-- `critical_exit` (:80-82). -/
def PowerConfig.criticalExit (config : PowerConfig) : U16 :=
  config.criticalRuntimeMinutes + config.runtimeHysteresisMinutes

/-- `low_exit` (:108-110). -/
def PowerConfig.lowExit (config : PowerConfig) : U16 := config.lowRuntimeMinutes + config.runtimeHysteresisMinutes

namespace PowerSupervisor

/-- `set_state` (:5-13). -/
def setState (s : PowerSupervisor) (state : PowerState) : PowerSupervisor :=
  if s.state ≠ state then { s with state := state, transitions := s.transitions + 1 } else s

/-- `openref_power_supervisor_init` (:15-36). -/
def init (config : PowerConfig) : Option PowerSupervisor :=
  if config.criticalRuntimeMinutes = 0 || config.lowRuntimeMinutes ≤ config.criticalRuntimeMinutes ||
      config.runtimeHysteresisMinutes = 0 ||
      uint16Max - config.runtimeHysteresisMinutes < config.lowRuntimeMinutes ||
      uint16Max - config.runtimeHysteresisMinutes < config.criticalRuntimeMinutes ||
      config.hardUndervoltageMv = 0 || config.maximumTemperatureCdeg.toInt ≤ 0 ||
      config.criticalGraceMs = 0 then none
  else some ⟨config, .disconnected, 0, false, false, 0, 0, 0, 0, 0⟩

/-- What every shutdown answers. -/
def muteAndShutdown : U32 := powerActionMuteAudio ||| powerActionRequestShutdown

/-- `critical` (:83-86). -/
def critical (s : PowerSupervisor) (sample : PowerSample) : Bool :=
  sample.estimatedRuntimeMinutes ≤ s.config.criticalRuntimeMinutes ||
    (s.state = PowerState.critical && sample.estimatedRuntimeMinutes < s.config.criticalExit)

/-- `low` (:111-114). -/
def low (s : PowerSupervisor) (sample : PowerSample) : Bool :=
  sample.estimatedRuntimeMinutes ≤ s.config.lowRuntimeMinutes ||
    (s.state = PowerState.low && sample.estimatedRuntimeMinutes < s.config.lowExit)

/-- The bands of an update that found nothing unsafe (:80-119). -/
def updateRuntime (s : PowerSupervisor) (sample : PowerSample) : PowerSupervisor × U32 :=
  if s.critical sample then
    let s := if !s.criticalTimerActive then
        { s with criticalSinceMs := sample.timestampMs, criticalTimerActive := true }
      else s
    let s := s.setState .critical
    if s.config.criticalGraceMs.setWidth 64 ≤ sample.timestampMs - s.criticalSinceMs then
      ({ s with shutdownLatched := true }.setState .shutdown,
        powerActionWarnCritical ||| powerActionMuteAudio ||| powerActionRequestShutdown)
    else (s, powerActionWarnCritical ||| powerActionReduceLoad)
  else
    let s := { s with criticalTimerActive := false }
    if s.low sample then (s.setState .low, powerActionWarnLow)
    else (s.setState .normal, 0)

/-- `openref_power_supervisor_update` (:38-120): the supervisor and its actions. -/
def update (s : PowerSupervisor) (sample : PowerSample) : PowerSupervisor × U32 :=
  let s := { s with samples := s.samples + 1 }
  if !sample.packPresent then
    ({ s with shutdownLatched := false, criticalTimerActive := false }.setState .disconnected, muteAndShutdown)
  else if s.shutdownLatched then (s.setState .shutdown, muteAndShutdown)
  else if !sample.measurementValid then
    ({ s with invalidSamples := s.invalidSamples + 1, shutdownLatched := true }.setState .sensorFault,
      muteAndShutdown)
  else if s.config.maximumTemperatureCdeg.toInt ≤ sample.temperatureCdeg.toInt then
    ({ s with overtemperatureEvents := s.overtemperatureEvents + 1, shutdownLatched := true }.setState
      .overtemperature, muteAndShutdown)
  else if sample.batteryMv ≤ s.config.hardUndervoltageMv then
    ({ s with undervoltageEvents := s.undervoltageEvents + 1, shutdownLatched := true }.setState .shutdown,
      muteAndShutdown)
  else s.updateRuntime sample

/-- The supervisor an update leaves. -/
def next (s : PowerSupervisor) (sample : PowerSample) : PowerSupervisor := (s.update sample).1

/-- The actions an update returns. -/
def actions (s : PowerSupervisor) (sample : PowerSample) : U32 := (s.update sample).2

/-- A run of updates. -/
def run (s : PowerSupervisor) (samples : List PowerSample) : PowerSupervisor := samples.foldl next s

end PowerSupervisor

/-- A sample that shuts down by itself: invalid, over temperature or at the hard undervoltage. -/
def Unsafe (config : PowerConfig) (sample : PowerSample) : Prop :=
  sample.measurementValid = false ∨ config.maximumTemperatureCdeg.toInt ≤ sample.temperatureCdeg.toInt ∨
    sample.batteryMv ≤ config.hardUndervoltageMv

/-! ## What an update can do -/

namespace PowerSupervisor

@[simp] theorem setState_state (s : PowerSupervisor) (state : PowerState) : (s.setState state).state = state := by
  unfold setState
  split
  · rfl
  · next h => exact not_not.1 h

@[simp] theorem setState_config (s : PowerSupervisor) (state : PowerState) :
    (s.setState state).config = s.config := by
  unfold setState
  split <;> rfl

@[simp] theorem setState_criticalSinceMs (s : PowerSupervisor) (state : PowerState) :
    (s.setState state).criticalSinceMs = s.criticalSinceMs := by
  unfold setState
  split <;> rfl

@[simp] theorem setState_criticalTimerActive (s : PowerSupervisor) (state : PowerState) :
    (s.setState state).criticalTimerActive = s.criticalTimerActive := by
  unfold setState
  split <;> rfl

@[simp] theorem setState_shutdownLatched (s : PowerSupervisor) (state : PowerState) :
    (s.setState state).shutdownLatched = s.shutdownLatched := by
  unfold setState
  split <;> rfl

/-- The time the critical timer counts from, after a critical sample. -/
def timerStart (s : PowerSupervisor) (sample : PowerSample) : U64 :=
  if s.criticalTimerActive then s.criticalSinceMs else sample.timestampMs

/-- The outcomes of an update: the branch it took, the actions and what is left in the fields that count. -/
inductive Updated (s : PowerSupervisor) (x : PowerSample) (s' : PowerSupervisor) (actions : U32) : Prop
  | absent : x.packPresent = false → s'.state = .disconnected → s'.criticalTimerActive = false →
    s'.shutdownLatched = false → actions = muteAndShutdown → Updated s x s' actions
  | latched : x.packPresent = true → s.shutdownLatched = true → s'.state ≠ .critical →
    s'.shutdownLatched = true → actions = muteAndShutdown → Updated s x s' actions
  | failed : x.packPresent = true → s.shutdownLatched = false → Unsafe s.config x → s'.state ≠ .critical →
    s'.shutdownLatched = true → actions = muteAndShutdown → Updated s x s' actions
  | expired : x.packPresent = true → s.shutdownLatched = false → ¬ Unsafe s.config x → s.critical x = true →
    s.config.criticalGraceMs.setWidth 64 ≤ x.timestampMs - s.timerStart x → s'.state ≠ .critical →
    s'.shutdownLatched = true → actions = powerActionWarnCritical ||| powerActionMuteAudio ||| powerActionRequestShutdown → Updated s x s' actions
  | critical : x.packPresent = true → s.shutdownLatched = false → ¬ Unsafe s.config x → s.critical x = true →
    ¬ s.config.criticalGraceMs.setWidth 64 ≤ x.timestampMs - s.timerStart x → s'.shutdownLatched = false →
    s'.state = .critical → s'.criticalTimerActive = true → s'.criticalSinceMs = s.timerStart x →
    actions = powerActionWarnCritical ||| powerActionReduceLoad → Updated s x s' actions
  | low : x.packPresent = true → s.shutdownLatched = false → ¬ Unsafe s.config x → s.critical x = false →
    s.low x = true → s'.shutdownLatched = false → s'.state = .low → s'.criticalTimerActive = false →
    actions = powerActionWarnLow → Updated s x s' actions
  | normal : x.packPresent = true → s.shutdownLatched = false → ¬ Unsafe s.config x → s.critical x = false →
    s.low x = false → s'.shutdownLatched = false → s'.state = .normal → s'.criticalTimerActive = false →
    actions = 0 → Updated s x s' actions

/-- The part of an update that looks at the runtime. -/
theorem updateRuntime_cases {s t : PowerSupervisor} {x : PowerSample} (hconfig : t.config = s.config)
    (hstate : t.state = s.state) (hsince : t.criticalSinceMs = s.criticalSinceMs)
    (htimer : t.criticalTimerActive = s.criticalTimerActive) (hlatched : t.shutdownLatched = false)
    (hpack : x.packPresent = true) (hnot : s.shutdownLatched = false) (hsafe : ¬ Unsafe s.config x) :
    Updated s x (t.updateRuntime x).1 (t.updateRuntime x).2 := by
  have hcrit : t.critical x = s.critical x := by
    unfold critical
    rw [hconfig, hstate]
  have hlow : t.low x = s.low x := by
    unfold low
    rw [hconfig, hstate]
  unfold updateRuntime
  rw [hcrit]
  cases hc : s.critical x with
  | true =>
    rw [if_pos rfl]
    -- the timer starts with the first critical sample and is kept by the later ones
    generalize hu : (if !t.criticalTimerActive then
      { t with criticalSinceMs := x.timestampMs, criticalTimerActive := true } else t) = u
    have hfields : u.criticalSinceMs = s.timerStart x ∧ u.criticalTimerActive = true ∧ u.config = s.config ∧
        u.shutdownLatched = false := by
      rw [← hu, timerStart, ← htimer]
      cases ht : t.criticalTimerActive with
      | true => simp [hsince, ht, hconfig, hlatched]
      | false => simp [hconfig, hlatched]
    obtain ⟨hstart, hon, hcfg, hl⟩ := hfields
    dsimp only
    rw [setState_config, setState_criticalSinceMs, hcfg, hstart]
    split
    · next hgrace => exact .expired hpack hnot hsafe hc hgrace (by simp) (by simp) rfl
    · next hgrace =>
      exact .critical hpack hnot hsafe hc hgrace (by simp [hl]) (by simp) (by simp [hon]) (by simp [hstart]) rfl
  | false =>
    rw [if_neg Bool.false_ne_true]
    dsimp only
    have hlow' : ({ t with criticalTimerActive := false } : PowerSupervisor).low x = s.low x := hlow
    rw [hlow']
    cases hl : s.low x with
    | true => exact .low hpack hnot hsafe hc hl (by simp [hlatched]) (by simp) (by simp) rfl
    | false => exact .normal hpack hnot hsafe hc hl (by simp [hlatched]) (by simp) (by simp) rfl

theorem update_cases (s : PowerSupervisor) (x : PowerSample) : Updated s x (s.next x) (s.actions x) := by
  unfold next actions update
  dsimp only
  split
  · next hpack => exact .absent (by simpa using hpack) (by simp) (by simp) (by simp) rfl
  next hpack =>
  have hpresent : x.packPresent = true := by simpa using hpack
  split
  · next hlatched => exact .latched hpresent hlatched (by simp) (by simp [hlatched]) rfl
  next hlatched =>
  have hnot : s.shutdownLatched = false := by simpa using hlatched
  split
  · next hvalid => exact .failed hpresent hnot (.inl (by simpa using hvalid)) (by simp) (by simp) rfl
  next hvalid =>
  split
  · next htemperature => exact .failed hpresent hnot (.inr (.inl htemperature)) (by simp) (by simp) rfl
  next htemperature =>
  split
  · next hvoltage => exact .failed hpresent hnot (.inr (.inr hvoltage)) (by simp) (by simp) rfl
  next hvoltage =>
  have hsafe : ¬ Unsafe s.config x := by
    rintro (h | h | h)
    · exact hvalid (by simp [h])
    · exact htemperature h
    · exact hvoltage h
  exact updateRuntime_cases rfl rfl rfl rfl hnot hpresent hnot hsafe

@[simp] theorem next_config (s : PowerSupervisor) (x : PowerSample) : (s.next x).config = s.config := by
  unfold next update updateRuntime
  dsimp only
  (repeat' split) <;> simp

theorem run_concat (s : PowerSupervisor) (past : List PowerSample) (x : PowerSample) :
    s.run (past ++ [x]) = (s.run past).next x := by
  unfold run
  rw [List.foldl_append, List.foldl_cons, List.foldl_nil]

@[simp] theorem run_config (s : PowerSupervisor) (past : List PowerSample) : (s.run past).config = s.config := by
  induction past using List.reverseRecOn with
  | nil => rfl
  | append_singleton past x ih => rw [run_concat, next_config, ih]

end PowerSupervisor

/-- What the initialisation promises of a configuration: the bands are apart and no sum overflows. -/
theorem init_spec {config : PowerConfig} {s₀ : PowerSupervisor} (h : PowerSupervisor.init config = some s₀) :
    s₀.config = config ∧ s₀.state = .disconnected ∧ s₀.criticalTimerActive = false ∧ s₀.shutdownLatched = false ∧
      0 < config.runtimeHysteresisMinutes.toNat ∧ 0 < config.criticalGraceMs.toNat ∧
      config.lowExit.toNat = config.lowRuntimeMinutes.toNat + config.runtimeHysteresisMinutes.toNat ∧
      config.criticalExit.toNat = config.criticalRuntimeMinutes.toNat + config.runtimeHysteresisMinutes.toNat := by
  unfold PowerSupervisor.init at h
  split at h
  · cases h
  next hok =>
  cases h
  have hzero : (0 : U16).toNat = 0 := rfl
  have hzero32 : (0 : U32).toNat = 0 := rfl
  have hmax : uint16Max.toNat = 2 ^ 16 - 1 := rfl
  have hhyst := config.runtimeHysteresisMinutes.isLt
  have hle : config.runtimeHysteresisMinutes ≤ uint16Max := by
    rw [BitVec.le_def]
    omega
  simp only [Bool.or_eq_true, decide_eq_true_eq, not_or, BitVec.not_lt, BitVec.le_def,
    BitVec.toNat_sub_of_le hle, ← BitVec.toNat_inj, hmax, hzero, hzero32] at hok
  refine ⟨rfl, rfl, rfl, rfl, by omega, by omega, ?_, ?_⟩
  · unfold PowerConfig.lowExit
    rw [BitVec.toNat_add, Nat.mod_eq_of_lt (by omega)]
  · unfold PowerConfig.criticalExit
    rw [BitVec.toNat_add, Nat.mod_eq_of_lt (by omega)]

end OpenRef.Power
