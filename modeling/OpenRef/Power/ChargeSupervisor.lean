import OpenRef.Base
import OpenRef.Lib.Run
import Mathlib.Data.List.Induction
/-!
# The charge supervisor (openref_charge_supervisor.c)

One charging bay. A tick first disables the charger, then looks at the clock, at the pack, at
a fault that is still latched, at identity, sensors, temperature, voltage and the charger's own
fault, at the time spent in ACTIVE and at the charge-complete flag; only the last branch enables
the charger, and from EMPTY it goes to PRECHECK instead. A fault is cleared by a tick without a
pack whose clock has not gone back.

`tick_cases` says what a tick can do. `charging_is_safe`: over every run, when the charger is on
the tick was inside the envelope, the pack was checked on an earlier tick with the charger off,
nothing failed since it was put in, and the charge has not lasted too long; a fault keeps the
charger off until the pack is removed.
-/

namespace OpenRef.Power

/-- `openref_charge_state_t`. -/
inductive ChargeState
  | empty | precheck | active | complete | fault
deriving DecidableEq, Repr

/-- `OPENREF_CHARGE_FAULT_PACK_ID`. -/
def chargeFaultPackId : U32 := 1 <<< 0
/-- `OPENREF_CHARGE_FAULT_SENSOR`. -/
def chargeFaultSensor : U32 := 1 <<< 1
/-- `OPENREF_CHARGE_FAULT_TEMPERATURE`. -/
def chargeFaultTemperature : U32 := 1 <<< 2
/-- `OPENREF_CHARGE_FAULT_VOLTAGE`. -/
def chargeFaultVoltage : U32 := 1 <<< 3
/-- `OPENREF_CHARGE_FAULT_CHARGER`. -/
def chargeFaultCharger : U32 := 1 <<< 4
/-- `OPENREF_CHARGE_FAULT_TIMEOUT`. -/
def chargeFaultTimeout : U32 := 1 <<< 5
/-- `OPENREF_CHARGE_FAULT_CLOCK`. -/
def chargeFaultClock : U32 := 1 <<< 6

/-- `openref_charge_config_t`; the temperatures are `int16_t`. -/
structure ChargeConfig where
  minimumTemperatureDeciC : BitVec 16
  maximumTemperatureDeciC : BitVec 16
  minimumPackMv : U16
  maximumPackMv : U16
  maximumChargeMs : U32
deriving DecidableEq, Repr

/-- `openref_charge_inputs_t`. -/
structure ChargeInputs where
  packPresent : Bool
  packIdentityValid : Bool
  sensorsValid : Bool
  temperatureDeciC : BitVec 16
  packMv : U16
  chargerFault : Bool
  chargeComplete : Bool
deriving DecidableEq, Repr

/-- `openref_charge_supervisor_t`. -/
structure ChargeSupervisor where
  config : ChargeConfig
  state : ChargeState
  stateSinceMs : U64
  lastTickMs : U64
  faultMask : U32
  completedCharges : U32
  faultCount : U32
  chargeEnable : Bool
deriving DecidableEq, Repr

namespace ChargeSupervisor

/-- `set_state` (:6-13). -/
def setState (s : ChargeSupervisor) (state : ChargeState) (nowMs : U64) : ChargeSupervisor :=
  if s.state ≠ state then { s with state := state, stateSinceMs := nowMs } else s

/-- `fault` (:15-24). -/
def fault (s : ChargeSupervisor) (mask : U32) (nowMs : U64) : ChargeSupervisor :=
  let s := if s.state ≠ .fault then { s with faultCount := s.faultCount + 1 } else s
  { s with faultMask := s.faultMask ||| mask, chargeEnable := false }.setState .fault nowMs

/-- `openref_charge_supervisor_init` (:26-42). -/
def init (config : ChargeConfig) (nowMs : U64) : Option ChargeSupervisor :=
  if config.maximumTemperatureDeciC.toInt ≤ config.minimumTemperatureDeciC.toInt ||
      config.maximumPackMv ≤ config.minimumPackMv || config.maximumChargeMs = 0 then none
  else some ⟨config, .empty, nowMs, nowMs, 0, 0, 0, false⟩

/-- The checks of a tick that finds a pack and no latched fault (:66-92). -/
def examine (s : ChargeSupervisor) (inputs : ChargeInputs) (nowMs : U64) : ChargeSupervisor :=
  if !inputs.packIdentityValid then s.fault chargeFaultPackId nowMs
  else if !inputs.sensorsValid then s.fault chargeFaultSensor nowMs
  else if inputs.temperatureDeciC.toInt < s.config.minimumTemperatureDeciC.toInt ||
      s.config.maximumTemperatureDeciC.toInt < inputs.temperatureDeciC.toInt then
    s.fault chargeFaultTemperature nowMs
  else if inputs.packMv < s.config.minimumPackMv || s.config.maximumPackMv < inputs.packMv then
    s.fault chargeFaultVoltage nowMs
  else if inputs.chargerFault then s.fault chargeFaultCharger nowMs
  else if s.state = ChargeState.active && s.config.maximumChargeMs.setWidth 64 < nowMs - s.stateSinceMs then
    s.fault chargeFaultTimeout nowMs
  else if inputs.chargeComplete then
    { s with
      completedCharges := if s.state = ChargeState.active then s.completedCharges + 1 else s.completedCharges
    }.setState .complete nowMs
  else if s.state = .empty then s.setState .precheck nowMs
  else { s.setState .active nowMs with chargeEnable := true }

/-- `openref_charge_supervisor_tick` (:45-94): the state it returns is the one it leaves. -/
def tick (s : ChargeSupervisor) (inputs : ChargeInputs) (nowMs : U64) : ChargeSupervisor :=
  let s := { s with chargeEnable := false }
  if nowMs < s.lastTickMs then s.fault chargeFaultClock nowMs
  else
    let s := { s with lastTickMs := nowMs }
    if !inputs.packPresent then { s with faultMask := 0 }.setState .empty nowMs
    else if s.state = .fault then s
    else s.examine inputs nowMs

/-- A run of ticks. -/
def run (s : ChargeSupervisor) (ticks : List (ChargeInputs × U64)) : ChargeSupervisor :=
  ticks.foldl (fun s t => s.tick t.1 t.2) s

end ChargeSupervisor

/-- The identity, sensor, temperature, voltage and charger checks. -/
structure PassesChecks (config : ChargeConfig) (inputs : ChargeInputs) : Prop where
  identity : inputs.packIdentityValid = true
  sensors : inputs.sensorsValid = true
  temperature : config.minimumTemperatureDeciC.toInt ≤ inputs.temperatureDeciC.toInt ∧
    inputs.temperatureDeciC.toInt ≤ config.maximumTemperatureDeciC.toInt
  voltage : config.minimumPackMv ≤ inputs.packMv ∧ inputs.packMv ≤ config.maximumPackMv
  charger : inputs.chargerFault = false

/-! ## What a tick can do -/

namespace ChargeSupervisor

/-- The supervisor after the first lines of a tick whose clock has not gone back. -/
def disabled (s : ChargeSupervisor) (nowMs : U64) : ChargeSupervisor :=
  { s with chargeEnable := false, lastTickMs := nowMs }

/-- The outcomes of the checks. -/
inductive Examined (s : ChargeSupervisor) (inputs : ChargeInputs) (nowMs : U64) : ChargeSupervisor → Prop
  | raised (mask : U32) : Examined s inputs nowMs (s.fault mask nowMs)
  | completed (charges : U32) : PassesChecks s.config inputs →
    Examined s inputs nowMs ({ s with completedCharges := charges }.setState .complete nowMs)
  | inserted : s.state = .empty → PassesChecks s.config inputs →
    Examined s inputs nowMs (s.setState .precheck nowMs)
  | charging : s.state ≠ .empty → PassesChecks s.config inputs → inputs.chargeComplete = false →
    (s.state = .active → nowMs - s.stateSinceMs ≤ s.config.maximumChargeMs.setWidth 64) →
    Examined s inputs nowMs { s.setState .active nowMs with chargeEnable := true }

theorem examine_cases (s : ChargeSupervisor) (inputs : ChargeInputs) (nowMs : U64) :
    Examined s inputs nowMs (s.examine inputs nowMs) := by
  unfold examine
  split
  · exact .raised _
  next hidentity =>
  split
  · exact .raised _
  next hsensors =>
  split
  · exact .raised _
  next htemperature =>
  split
  · exact .raised _
  next hvoltage =>
  split
  · exact .raised _
  next hcharger =>
  have hchecks : PassesChecks s.config inputs := by
    simp only [Bool.or_eq_true, decide_eq_true_eq, not_or, Int.not_lt, BitVec.not_lt] at htemperature hvoltage
    exact ⟨by simpa using hidentity, by simpa using hsensors, htemperature, hvoltage, by simpa using hcharger⟩
  split
  · exact .raised _
  next htimeout =>
  split
  · exact .completed _ hchecks
  next hcomplete =>
  split
  · next hempty => exact .inserted hempty hchecks
  next hempty =>
  refine .charging hempty hchecks (by simpa using hcomplete) fun hactive => ?_
  simp only [hactive, decide_true, Bool.true_and, decide_eq_true_eq, BitVec.not_lt] at htimeout
  exact htimeout

/-- The outcomes of a tick. -/
inductive Ticked (s : ChargeSupervisor) (inputs : ChargeInputs) (nowMs : U64) : ChargeSupervisor → Prop
  | back : nowMs < s.lastTickMs →
    Ticked s inputs nowMs ({ s with chargeEnable := false }.fault chargeFaultClock nowMs)
  | removed : s.lastTickMs ≤ nowMs → inputs.packPresent = false →
    Ticked s inputs nowMs ({ s.disabled nowMs with faultMask := 0 }.setState .empty nowMs)
  | latched : s.lastTickMs ≤ nowMs → inputs.packPresent = true → s.state = .fault →
    Ticked s inputs nowMs (s.disabled nowMs)
  | examined {s' : ChargeSupervisor} : s.lastTickMs ≤ nowMs → inputs.packPresent = true → s.state ≠ .fault →
    Examined (s.disabled nowMs) inputs nowMs s' → Ticked s inputs nowMs s'

theorem tick_cases (s : ChargeSupervisor) (inputs : ChargeInputs) (nowMs : U64) :
    Ticked s inputs nowMs (s.tick inputs nowMs) := by
  unfold tick
  dsimp only
  split
  · next hback => exact .back hback
  next hback =>
  have hnow : s.lastTickMs ≤ nowMs := BitVec.not_lt.1 hback
  split
  · next hpack => exact .removed hnow (by simpa using hpack)
  next hpack =>
  have hpresent : inputs.packPresent = true := by simpa using hpack
  split
  · next hfault => exact .latched hnow hpresent hfault
  · next hfault => exact .examined hnow hpresent hfault (examine_cases _ _ _)

/-! ## Small facts -/

@[simp] theorem setState_state (s : ChargeSupervisor) (state : ChargeState) (nowMs : U64) :
    (s.setState state nowMs).state = state := by
  unfold setState
  split
  · rfl
  · next h => exact not_not.1 h

@[simp] theorem setState_config (s : ChargeSupervisor) (state : ChargeState) (nowMs : U64) :
    (s.setState state nowMs).config = s.config := by
  unfold setState
  split <;> rfl

@[simp] theorem setState_lastTickMs (s : ChargeSupervisor) (state : ChargeState) (nowMs : U64) :
    (s.setState state nowMs).lastTickMs = s.lastTickMs := by
  unfold setState
  split <;> rfl

@[simp] theorem setState_faultMask (s : ChargeSupervisor) (state : ChargeState) (nowMs : U64) :
    (s.setState state nowMs).faultMask = s.faultMask := by
  unfold setState
  split <;> rfl

@[simp] theorem setState_chargeEnable (s : ChargeSupervisor) (state : ChargeState) (nowMs : U64) :
    (s.setState state nowMs).chargeEnable = s.chargeEnable := by
  unfold setState
  split <;> rfl

@[simp] theorem fault_state (s : ChargeSupervisor) (mask : U32) (nowMs : U64) :
    (s.fault mask nowMs).state = .fault := setState_state _ _ _

@[simp] theorem fault_chargeEnable (s : ChargeSupervisor) (mask : U32) (nowMs : U64) :
    (s.fault mask nowMs).chargeEnable = false := setState_chargeEnable _ _ _

@[simp] theorem fault_config (s : ChargeSupervisor) (mask : U32) (nowMs : U64) :
    (s.fault mask nowMs).config = s.config := by
  unfold fault
  rw [setState_config]
  dsimp only
  split <;> rfl

@[simp] theorem fault_lastTickMs (s : ChargeSupervisor) (mask : U32) (nowMs : U64) :
    (s.fault mask nowMs).lastTickMs = s.lastTickMs := by
  unfold fault
  rw [setState_lastTickMs]
  dsimp only
  split <;> rfl

/-- Entering a state starts its time, staying in it does not. -/
theorem setState_stateSinceMs (s : ChargeSupervisor) (state : ChargeState) (nowMs : U64) :
    (s.setState state nowMs).stateSinceMs = if s.state = state then s.stateSinceMs else nowMs := by
  unfold setState
  by_cases h : s.state = state
  · rw [if_neg (not_not.2 h), if_pos h]
  · rw [if_pos h, if_neg h]

theorem run_concat (s : ChargeSupervisor) (past : List (ChargeInputs × U64)) (t : ChargeInputs × U64) :
    s.run (past ++ [t]) = (s.run past).tick t.1 t.2 := by
  unfold run
  rw [List.foldl_append, List.foldl_cons, List.foldl_nil]

end ChargeSupervisor

/-! ## Histories -/

/-- The time is not before the start or before an earlier tick. -/
def NotBack (t₀ : U64) (past : List (ChargeInputs × U64)) (nowMs : U64) : Prop :=
  t₀ ≤ nowMs ∧ ∀ t ∈ past, t.2 ≤ nowMs

/-- A tick without a pack whose clock has not gone back. -/
def PackRemoved (t₀ : U64) (past : List (ChargeInputs × U64)) (t : ChargeInputs × U64) : Prop :=
  t.1.packPresent = false ∧ NotBack t₀ past t.2

/-- Nothing came yet, or a tick without a pack was the last. -/
def BayEmpty (t₀ : U64) (past : List (ChargeInputs × U64)) : Prop :=
  past = [] ∨ ∃ earlier t, past = earlier ++ [t] ∧ PackRemoved t₀ earlier t

/-- No fault is there after the tick. -/
def NoFault (s₀ : ChargeSupervisor) (past : List (ChargeInputs × U64)) (t : ChargeInputs × U64) : Prop :=
  (s₀.run (past ++ [t])).state ≠ .fault ∧ (s₀.run (past ++ [t])).faultMask = 0

/-- The first tick of a pack: the checks passed with the charger off. -/
def Prechecked (s₀ : ChargeSupervisor) (t₀ : U64) (past : List (ChargeInputs × U64)) (t : ChargeInputs × U64) :
    Prop :=
  BayEmpty t₀ past ∧ PassesChecks s₀.config t.1 ∧ (s₀.run (past ++ [t])).chargeEnable = false ∧ NoFault s₀ past t

/-- The pack stayed in and there was no fault. -/
def Unbroken (s₀ : ChargeSupervisor) (t₀ : U64) (past : List (ChargeInputs × U64)) (t : ChargeInputs × U64) : Prop :=
  ¬ PackRemoved t₀ past t ∧ NoFault s₀ past t

/-- ACTIVE after the tick. -/
def InActive (s₀ : ChargeSupervisor) (past : List (ChargeInputs × U64)) (t : ChargeInputs × U64) : Prop :=
  (s₀.run (past ++ [t])).state = .active

/-- ACTIVE was entered by the tick, at a time that meets `P`. -/
def EnteredActive (s₀ : ChargeSupervisor) (P : U64 → Prop) (past : List (ChargeInputs × U64))
    (t : ChargeInputs × U64) : Prop :=
  (s₀.run past).state ≠ .active ∧ InActive s₀ past t ∧ P t.2

/-- FAULT after the tick. -/
def InFault (s₀ : ChargeSupervisor) (past : List (ChargeInputs × U64)) (t : ChargeInputs × U64) : Prop :=
  (s₀.run (past ++ [t])).state = .fault

theorem notBack_concat {t₀ : U64} {past : List (ChargeInputs × U64)} {t : ChargeInputs × U64} {nowMs : U64} :
    NotBack t₀ (past ++ [t]) nowMs ↔ NotBack t₀ past nowMs ∧ t.2 ≤ nowMs := by
  unfold NotBack
  rw [List.forall_mem_append, List.forall_mem_singleton, and_assoc]

/-- **Invariant.** What the supervisor holds of the ticks so far. -/
structure Supervised (s₀ : ChargeSupervisor) (t₀ : U64) (past : List (ChargeInputs × U64)) (s : ChargeSupervisor) :
    Prop where
  config : s.config = s₀.config
  clock : ∀ nowMs, s.lastTickMs ≤ nowMs ↔ NotBack t₀ past nowMs
  off : s.state = .fault → s.chargeEnable = false
  mask : s.state ≠ .fault → s.faultMask = 0
  empty : s.state = .empty → BayEmpty t₀ past
  checked : s.state ≠ .fault → s.state ≠ .empty → Run.Since (Prechecked s₀ t₀) (Unbroken s₀ t₀) past
  active : s.state = .active → s.stateSinceMs ≤ s.lastTickMs ∧
    Run.Since (EnteredActive s₀ (· = s.stateSinceMs)) (InActive s₀) past

theorem init_supervised {config : ChargeConfig} {t₀ : U64} {s₀ : ChargeSupervisor}
    (h : ChargeSupervisor.init config t₀ = some s₀) : Supervised s₀ t₀ [] s₀ ∧ s₀.config = config := by
  unfold ChargeSupervisor.init at h
  split at h
  · cases h
  cases h
  exact ⟨⟨rfl, fun nowMs => by simp [NotBack], fun _ => rfl, fun _ => rfl, fun _ => .inl rfl,
    fun _ h => absurd rfl h, fun h => by cases h⟩, rfl⟩

section Step

variable {s₀ : ChargeSupervisor} {t₀ : U64} {past : List (ChargeInputs × U64)} {t : ChargeInputs × U64}

/-- The clock part, for a tick whose clock has not gone back. -/
theorem Supervised.clock_forward {s : ChargeSupervisor} (h : Supervised s₀ t₀ past s) (hnow : s.lastTickMs ≤ t.2)
    (nowMs : U64) : t.2 ≤ nowMs ↔ NotBack t₀ (past ++ [t]) nowMs := by
  rw [notBack_concat, ← h.clock]
  exact ⟨fun hle => ⟨BitVec.le_trans hnow hle, hle⟩, fun hboth => hboth.2⟩

/-- A pack that passed the checks on this tick: the first of its ticks, or one more. -/
theorem Supervised.checked_step (h : Supervised s₀ t₀ past (s₀.run past)) (hpack : t.1.packPresent = true)
    (hfault : (s₀.run past).state ≠ .fault) (hchecks : PassesChecks s₀.config t.1) (hno : NoFault s₀ past t)
    (hoff : (s₀.run past).state = .empty → (s₀.run (past ++ [t])).chargeEnable = false) :
    Run.Since (Prechecked s₀ t₀) (Unbroken s₀ t₀) (past ++ [t]) := by
  by_cases hempty : (s₀.run past).state = .empty
  · exact .here ⟨h.empty hempty, hchecks, hoff hempty, hno⟩
  · have hin : ¬ PackRemoved t₀ past t := by
      rintro ⟨habsent, -⟩
      rw [hpack] at habsent
      cases habsent
    exact .later (h.checked hfault hempty) ⟨hin, hno⟩

/-- **Step.** One more tick. -/
theorem Supervised.step (h : Supervised s₀ t₀ past (s₀.run past)) (t : ChargeInputs × U64) :
    Supervised s₀ t₀ (past ++ [t]) (s₀.run (past ++ [t])) := by
  have hcases := ChargeSupervisor.tick_cases (s₀.run past) t.1 t.2
  rw [← ChargeSupervisor.run_concat] at hcases
  generalize hs' : s₀.run (past ++ [t]) = s' at hcases
  cases hcases with
  | back hback =>
    refine ⟨by simp [h.config], fun nowMs => ?_, fun _ => by simp, fun hf => by simp at hf, fun he => by simp at he,
      fun hf => by simp at hf, fun ha => by simp at ha⟩
    have hclock := h.clock nowMs
    rw [notBack_concat, ← hclock, ChargeSupervisor.fault_lastTickMs]
    exact ⟨fun hle => ⟨hle, Nat.le_of_lt (Nat.lt_of_lt_of_le hback hle)⟩, fun hboth => hboth.1⟩
  | removed hnow habsent =>
    refine ⟨by simp [h.config, ChargeSupervisor.disabled], fun nowMs => ?_, fun hf => by simp at hf,
      fun _ => by simp, fun _ => ?_, fun _ he => by simp at he, fun ha => by simp at ha⟩
    · rw [ChargeSupervisor.setState_lastTickMs]
      exact h.clock_forward hnow nowMs
    · exact .inr ⟨past, t, rfl, habsent, (h.clock _).1 hnow⟩
  | latched hnow _ hfault =>
    have hlatched : (ChargeSupervisor.disabled (s₀.run past) t.2).state = .fault := hfault
    refine ⟨h.config, h.clock_forward hnow, fun _ => rfl, fun hf => absurd hlatched hf, fun he => ?_,
      fun hf => absurd hlatched hf, fun ha => ?_⟩
    · rw [hlatched] at he
      cases he
    · rw [hlatched] at ha
      cases ha
  | examined hnow hpack hfault hexamined =>
    have hmask := h.mask hfault
    cases hexamined with
    | raised mask =>
      refine ⟨by simp [h.config, ChargeSupervisor.disabled], fun nowMs => ?_, fun _ => by simp,
        fun hf => by simp at hf, fun he => by simp at he, fun hf => by simp at hf, fun ha => by simp at ha⟩
      rw [ChargeSupervisor.fault_lastTickMs]
      exact h.clock_forward hnow nowMs
    | completed _ hchecks | inserted _ hchecks =>
      refine ⟨by simp [h.config, ChargeSupervisor.disabled], fun nowMs => ?_, fun hf => by simp at hf,
        fun _ => by simp [ChargeSupervisor.disabled, hmask], fun he => by simp at he, fun _ _ => ?_,
        fun ha => by simp at ha⟩
      · rw [ChargeSupervisor.setState_lastTickMs]
        exact h.clock_forward hnow nowMs
      · refine h.checked_step hpack hfault (h.config ▸ hchecks) ?_ fun _ => ?_
        · unfold NoFault
          rw [hs']
          simp [ChargeSupervisor.disabled, hmask]
        · rw [hs']
          simp [ChargeSupervisor.disabled]
    | charging hempty hchecks hcomplete htimeout =>
      have hinactive : InActive s₀ past t := by
        unfold InActive
        rw [hs']
        simp
      refine ⟨by simp [h.config, ChargeSupervisor.disabled], fun nowMs => ?_, fun hf => by simp at hf,
        fun _ => by simp [ChargeSupervisor.disabled, hmask], fun he => by simp at he, fun _ _ => ?_, fun _ => ?_⟩
      · show ((s₀.run past).disabled t.2 |>.setState .active t.2).lastTickMs ≤ nowMs ↔ _
        rw [ChargeSupervisor.setState_lastTickMs]
        exact h.clock_forward hnow nowMs
      · refine h.checked_step hpack hfault (h.config ▸ hchecks) ?_ fun he => absurd he hempty
        unfold NoFault
        rw [hs']
        simp [ChargeSupervisor.disabled, hmask]
      · show ((s₀.run past).disabled t.2 |>.setState .active t.2).stateSinceMs ≤
            ((s₀.run past).disabled t.2 |>.setState .active t.2).lastTickMs ∧
          Run.Since (EnteredActive s₀ (· = ((s₀.run past).disabled t.2 |>.setState .active t.2).stateSinceMs)) _ _
        rw [ChargeSupervisor.setState_stateSinceMs, ChargeSupervisor.setState_lastTickMs]
        by_cases hactive : (s₀.run past).state = .active
        · obtain ⟨hsince, hstretch⟩ := h.active hactive
          rw [if_pos (show ((s₀.run past).disabled t.2).state = .active from hactive)]
          exact ⟨BitVec.le_trans hsince hnow, .later hstretch hinactive⟩
        · rw [if_neg (show ((s₀.run past).disabled t.2).state ≠ .active from hactive)]
          exact ⟨BitVec.le_refl _, .here ⟨hactive, hinactive, rfl⟩⟩

end Step

/-- **Run.** -/
theorem Supervised.run {s₀ : ChargeSupervisor} {t₀ : U64} (h : Supervised s₀ t₀ [] s₀)
    (past : List (ChargeInputs × U64)) : Supervised s₀ t₀ past (s₀.run past) := by
  induction past using List.reverseRecOn with
  | nil => exact h
  | append_singleton past t ih => exact ih.step t

/-- **Latched.** A fault stays, with the charger off, over a tick that does not remove the pack. -/
theorem Supervised.latched {s₀ : ChargeSupervisor} {t₀ : U64} {past : List (ChargeInputs × U64)}
    (h : Supervised s₀ t₀ past (s₀.run past)) {t : ChargeInputs × U64} (hfault : (s₀.run past).state = .fault)
    (hin : ¬ PackRemoved t₀ past t) : InFault s₀ past t := by
  have hcases := ChargeSupervisor.tick_cases (s₀.run past) t.1 t.2
  rw [← ChargeSupervisor.run_concat] at hcases
  unfold InFault
  generalize s₀.run (past ++ [t]) = s' at hcases ⊢
  cases hcases with
  | back _ => simp
  | removed hnow habsent => exact absurd ⟨habsent, (h.clock _).1 hnow⟩ hin
  | latched _ _ _ => exact hfault
  | examined _ _ hno _ => exact absurd hfault hno

/-! ## The charger -/

/-- **The charger is on only inside the safe envelope.** For every run of ticks with any inputs and times,
and its last tick. When the charger is on after it, then at that tick the clock had not gone back, the pack
was in and passed every check, and it was not complete; an earlier tick, the first after the start or after
the last tick without a pack, passed the checks with the charger off, and no tick from there on raised a
fault; and ACTIVE was entered by a tick at most `maximum_charge_ms` before, and not left since. And when a
tick raised a fault and the pack was not removed since, the charger is off. -/
theorem charging_is_safe (config : ChargeConfig) (t₀ : U64) (s₀ : ChargeSupervisor)
    (past : List (ChargeInputs × U64)) (t : ChargeInputs × U64)
    (hinit : ChargeSupervisor.init config t₀ = some s₀) :
    ((s₀.run (past ++ [t])).chargeEnable = true →
      NotBack t₀ past t.2 ∧ t.1.packPresent = true ∧ PassesChecks config t.1 ∧ t.1.chargeComplete = false ∧
      Run.Since (Prechecked s₀ t₀) (Unbroken s₀ t₀) past ∧ NoFault s₀ past t ∧
      Run.Since (EnteredActive s₀ fun entered => t.2.toNat ≤ entered.toNat + config.maximumChargeMs.toNat)
        (InActive s₀) (past ++ [t])) ∧
    (Run.Since (InFault s₀) (fun earlier u => ¬ PackRemoved t₀ earlier u) (past ++ [t]) →
      (s₀.run (past ++ [t])).chargeEnable = false) := by
  obtain ⟨hstart, hconfig⟩ := init_supervised hinit
  have hpast := hstart.run past
  have hthen := hpast.step t
  constructor
  · intro hon
    have hno : NoFault s₀ past t := by
      have hstate : (s₀.run (past ++ [t])).state ≠ .fault := fun hf => by simp [hthen.off hf] at hon
      exact ⟨hstate, hthen.mask hstate⟩
    have hcases := ChargeSupervisor.tick_cases (s₀.run past) t.1 t.2
    rw [← ChargeSupervisor.run_concat] at hcases
    generalize hs' : s₀.run (past ++ [t]) = s' at hcases hon hthen
    cases hcases with
    | back _ => simp at hon
    | removed _ _ => simp [ChargeSupervisor.disabled] at hon
    | latched _ _ _ => cases hon
    | examined hnow hpack hfault hexamined =>
      cases hexamined with
      | raised _ => simp at hon
      | completed _ _ => simp [ChargeSupervisor.disabled] at hon
      | inserted _ _ => simp [ChargeSupervisor.disabled] at hon
      | charging hempty hchecks hcomplete htimeout =>
        have hchecks' : PassesChecks config t.1 := by
          rw [← hconfig, ← hpast.config]
          exact hchecks
        refine ⟨(hpast.clock _).1 hnow, hpack, hchecks', hcomplete, hpast.checked hfault hempty, hno, ?_⟩
        have hin : InActive s₀ past t := by
          unfold InActive
          rw [hs']
          simp
        by_cases hactive : (s₀.run past).state = .active
        · obtain ⟨hsince, hstretch⟩ := hpast.active hactive
          have hlimit := htimeout hactive
          have hle := BitVec.le_trans hsince hnow
          change t.2 - (s₀.run past).stateSinceMs ≤ (s₀.run past).config.maximumChargeMs.setWidth 64 at hlimit
          rw [hpast.config, hconfig, BitVec.le_def, toNat_setWidth_64, BitVec.toNat_sub_of_le hle] at hlimit
          refine .later (hstretch.mono (fun _ _ hentered => ⟨hentered.1, hentered.2.1, ?_⟩) fun _ _ h => h) hin
          rw [hentered.2.2]
          omega
        · exact .here ⟨hactive, hin, by omega⟩
  · intro hraised
    have hfault : ∀ {l : List (ChargeInputs × U64)},
        Run.Since (InFault s₀) (fun earlier u => ¬ PackRemoved t₀ earlier u) l → (s₀.run l).state = .fault := by
      intro l hl
      induction hl with
      | here he => exact he
      | @later l u _ hin ih => exact (hstart.run l).latched ih hin
    exact hthen.off (hfault hraised)

/-- 0 to 45 degrees, 2800 to 4250 mV, one second of charge. -/
def benchCharge : ChargeConfig := ⟨0, 450, 2800, 4250, 1000⟩

/-- A pack at 20 degrees and 3700 mV. -/
def validPack : ChargeInputs := ⟨true, true, true, 200, 3700, false, false⟩

/-- The supervisor that `benchCharge` starts at time 0. -/
def benchSupervisor : ChargeSupervisor := ⟨benchCharge, .empty, 0, 0, 0, 0, 0, false⟩

/-- The second tick of a good pack: the charger is on. -/
theorem charging_is_safe_second_tick :
    (benchSupervisor.run [(validPack, 1), (validPack, 2)]).chargeEnable = true ∧
      NotBack 0 [(validPack, 1)] 2 ∧
      Run.Since (Prechecked benchSupervisor 0) (Unbroken benchSupervisor 0) [(validPack, 1)] := by
  have hon : (benchSupervisor.run [(validPack, 1), (validPack, 2)]).chargeEnable = true := by decide
  have hsafe := (charging_is_safe benchCharge 0 benchSupervisor [(validPack, 1)] (validPack, 2) rfl).1 hon
  exact ⟨hon, hsafe.1, hsafe.2.2.2.2.1⟩

end OpenRef.Power
