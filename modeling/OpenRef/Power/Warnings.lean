import OpenRef.Power.PowerSupervisor
/-!
# Battery warnings (openref_power_supervisor.c:80-119)

Both bands keep their hysteresis in the one variable `state`. While it says CRITICAL it does not
say LOW, so a sample that leaves the critical band is held against the bare low threshold.

`warnings_held_iff`: along a run every warning lasts until its band's hysteresis is passed if and
only if no sample leaves CRITICAL for a runtime above the low threshold and below the low exit.
`warning_lost`: from 10 minutes to 46 with a low threshold of 45 and a hysteresis of 5, and the
warning is gone.
-/

namespace OpenRef.Power

/-- The actions that the update with `t` returns. -/
def actionsAt (s₀ : PowerSupervisor) (past : List PowerSample) (t : PowerSample) : U32 := (s₀.run past).actions t

/-- The update warned of a low or of a critical runtime. -/
def Warned (s₀ : PowerSupervisor) (past : List PowerSample) (t : PowerSample) : Prop :=
  actionsAt s₀ past t &&& powerActionWarnLow ≠ 0 ∨ actionsAt s₀ past t &&& powerActionWarnCritical ≠ 0

/-- The update warned of a critical runtime. -/
def WarnedCritical (s₀ : PowerSupervisor) (past : List PowerSample) (t : PowerSample) : Prop :=
  actionsAt s₀ past t &&& powerActionWarnCritical ≠ 0

/-- The pack stayed in, and the update returned some action. -/
def Unrelieved (s₀ : PowerSupervisor) (past : List PowerSample) (t : PowerSample) : Prop :=
  t.packPresent = true ∧ actionsAt s₀ past t ≠ 0

/-- The pack stayed in, and the update returned neither no action nor the low warning. -/
def UnrelievedCritical (s₀ : PowerSupervisor) (past : List PowerSample) (t : PowerSample) : Prop :=
  t.packPresent = true ∧ actionsAt s₀ past t ≠ 0 ∧ actionsAt s₀ past t ≠ powerActionWarnLow

/-- A warning ends with this sample only where its runtime has passed the hysteresis: after any warning the
low exit where nothing is left to do, after a critical one the critical exit. -/
def WarningHeld (config : PowerConfig) (s₀ : PowerSupervisor) (past : List PowerSample) (t : PowerSample) : Prop :=
  (Run.Since (Warned s₀) (Unrelieved s₀) past → t.packPresent = true → actionsAt s₀ past t = 0 →
    config.lowRuntimeMinutes.toNat + config.runtimeHysteresisMinutes.toNat ≤ t.estimatedRuntimeMinutes.toNat) ∧
  (Run.Since (WarnedCritical s₀) (UnrelievedCritical s₀) past → t.packPresent = true →
    actionsAt s₀ past t = 0 ∨ actionsAt s₀ past t = powerActionWarnLow →
    config.criticalRuntimeMinutes.toNat + config.runtimeHysteresisMinutes.toNat ≤ t.estimatedRuntimeMinutes.toNat)

/-- A safe sample that finds the supervisor in CRITICAL and is past the critical exit and the low threshold,
but not past the low exit. -/
structure LeavesIntoLowBand (config : PowerConfig) (s : PowerSupervisor) (t : PowerSample) : Prop where
  present : t.packPresent = true
  safe : ¬ Unsafe config t
  state : s.state = .critical
  leaves : config.criticalRuntimeMinutes.toNat + config.runtimeHysteresisMinutes.toNat ≤
    t.estimatedRuntimeMinutes.toNat
  above : config.lowRuntimeMinutes.toNat < t.estimatedRuntimeMinutes.toNat
  below : t.estimatedRuntimeMinutes.toNat <
    config.lowRuntimeMinutes.toNat + config.runtimeHysteresisMinutes.toNat

/-! ## What the state remembers -/

/-- After an action with the pack in, the latch is set, the state is CRITICAL, or it is LOW and the action was the
low warning. -/
theorem acted_state {s₀ : PowerSupervisor} {past : List PowerSample} {t : PowerSample} (hpack : t.packPresent = true)
    (hact : actionsAt s₀ past t ≠ 0) :
    (s₀.run (past ++ [t])).shutdownLatched = true ∨ (s₀.run (past ++ [t])).state = .critical ∨
      ((s₀.run (past ++ [t])).state = .low ∧ actionsAt s₀ past t = powerActionWarnLow) := by
  rw [PowerSupervisor.run_concat]
  cases PowerSupervisor.update_cases (s₀.run past) t with
  | absent habsent _ _ _ _ =>
    rw [hpack] at habsent
    cases habsent
  | latched _ _ _ hlatched _ => exact .inl hlatched
  | failed _ _ _ _ hlatched _ => exact .inl hlatched
  | expired _ _ _ _ _ _ hlatched _ => exact .inl hlatched
  | critical _ _ _ _ _ _ hstate _ _ _ => exact .inr (.inl hstate)
  | low _ _ _ _ _ _ hstate _ hwarn => exact .inr (.inr ⟨hstate, hwarn⟩)
  | normal _ _ _ _ _ _ _ _ hzero => exact absurd hzero hact

theorem unrelieved_state {s₀ : PowerSupervisor} {past : List PowerSample} {t : PowerSample}
    (h : Unrelieved s₀ past t) :
    (s₀.run (past ++ [t])).shutdownLatched = true ∨ (s₀.run (past ++ [t])).state = .low ∨
      (s₀.run (past ++ [t])).state = .critical := by
  rcases acted_state h.1 h.2 with hlatched | hcritical | ⟨hlow, -⟩
  · exact .inl hlatched
  · exact .inr (.inr hcritical)
  · exact .inr (.inl hlow)

theorem unrelievedCritical_state {s₀ : PowerSupervisor} {past : List PowerSample} {t : PowerSample}
    (h : UnrelievedCritical s₀ past t) :
    (s₀.run (past ++ [t])).shutdownLatched = true ∨ (s₀.run (past ++ [t])).state = .critical := by
  obtain ⟨hpack, hact, hnotLow⟩ := h
  rcases acted_state hpack hact with hlatched | hcritical | ⟨-, hwarn⟩
  · exact .inl hlatched
  · exact .inr hcritical
  · exact absurd hwarn hnotLow

/-- A pack that is not there gets no warning. -/
theorem Warned.present {s₀ : PowerSupervisor} {past : List PowerSample} {t : PowerSample} (h : Warned s₀ past t) :
    Unrelieved s₀ past t := by
  have hact : actionsAt s₀ past t ≠ 0 := by
    intro hzero
    rw [Warned, hzero] at h
    exact absurd h (by decide)
  refine ⟨?_, hact⟩
  cases PowerSupervisor.update_cases (s₀.run past) t with
  | absent _ _ _ _ hshut =>
    have hshut' : actionsAt s₀ past t = PowerSupervisor.muteAndShutdown := hshut
    rw [Warned, hshut'] at h
    exact absurd h (by decide)
  | latched hpack | failed hpack | expired hpack | critical hpack | low hpack | normal hpack => exact hpack

theorem WarnedCritical.present {s₀ : PowerSupervisor} {past : List PowerSample} {t : PowerSample}
    (h : WarnedCritical s₀ past t) : UnrelievedCritical s₀ past t := by
  obtain ⟨hpack, hact⟩ := Warned.present (.inr h)
  refine ⟨hpack, hact, fun hlow => ?_⟩
  rw [WarnedCritical, hlow] at h
  exact absurd h (by decide)

/-- A warning that has not ended is in the latch or in the state. -/
theorem state_of_warned {s₀ : PowerSupervisor} {past : List PowerSample}
    (h : Run.Since (Warned s₀) (Unrelieved s₀) past) :
    (s₀.run past).shutdownLatched = true ∨ (s₀.run past).state = .low ∨ (s₀.run past).state = .critical := by
  cases h with
  | here hw => exact unrelieved_state hw.present
  | later _ hu => exact unrelieved_state hu

/-- A critical warning that has not ended is in the latch or in the state CRITICAL. -/
theorem state_of_warnedCritical {s₀ : PowerSupervisor} {past : List PowerSample}
    (h : Run.Since (WarnedCritical s₀) (UnrelievedCritical s₀) past) :
    (s₀.run past).shutdownLatched = true ∨ (s₀.run past).state = .critical := by
  cases h with
  | here hw => exact unrelievedCritical_state hw.present
  | later _ hu => exact unrelievedCritical_state hu

/-- In CRITICAL the last update warned of it, and the latch is open. -/
theorem critical_state {s₀ : PowerSupervisor} (hs : s₀.state = .disconnected) {past : List PowerSample}
    (h : (s₀.run past).state = .critical) :
    (s₀.run past).shutdownLatched = false ∧ Run.Since (WarnedCritical s₀) (UnrelievedCritical s₀) past := by
  rcases List.eq_nil_or_concat past with rfl | ⟨past, t, rfl⟩
  · have hinit : (s₀.run []).state = .disconnected := hs
    rw [hinit] at h
    cases h
  rw [List.concat_eq_append] at h ⊢
  rw [PowerSupervisor.run_concat] at h ⊢
  cases PowerSupervisor.update_cases (s₀.run past) t with
  | absent _ hstate _ _ _ =>
    rw [hstate] at h
    cases h
  | latched _ _ hstate _ _ => exact absurd h hstate
  | failed _ _ _ hstate _ _ => exact absurd h hstate
  | expired _ _ _ _ _ hstate _ _ => exact absurd h hstate
  | critical _ _ _ _ _ hlatched _ _ _ hact =>
    refine ⟨hlatched, .here ?_⟩
    have hact' : actionsAt s₀ past t = powerActionWarnCritical ||| powerActionReduceLoad := hact
    unfold WarnedCritical
    rw [hact']
    decide
  | low _ _ _ _ _ _ hstate _ _ =>
    rw [hstate] at h
    cases h
  | normal _ _ _ _ _ _ hstate _ _ =>
    rw [hstate] at h
    cases h

/-! ## One sample -/

/-- Nothing to do: not critical and not low. -/
theorem actions_eq_zero {s : PowerSupervisor} {t : PowerSample} (h : s.actions t = 0) :
    s.shutdownLatched = false ∧ ¬ Unsafe s.config t ∧ s.critical t = false ∧ s.low t = false := by
  cases PowerSupervisor.update_cases s t with
  | normal _ hlatched hsafe hcritical hlow => exact ⟨hlatched, hsafe, hcritical, hlow⟩
  | absent | latched | failed | expired | critical | low =>
    next hact =>
    rw [h] at hact
    exact absurd hact (by decide)

/-- Back in the low band or above: not critical. -/
theorem actions_eq_warnLow {s : PowerSupervisor} {t : PowerSample} (h : s.actions t = powerActionWarnLow) :
    s.shutdownLatched = false ∧ s.critical t = false := by
  cases PowerSupervisor.update_cases s t with
  | low _ hlatched _ hcritical => exact ⟨hlatched, hcritical⟩
  | absent | latched | failed | expired | critical | normal =>
    next hact =>
    rw [h] at hact
    exact absurd hact (by decide)

/-- A safe sample above both bands is answered with nothing. -/
theorem actions_of_normal {s : PowerSupervisor} {t : PowerSample} (hpack : t.packPresent = true)
    (hlatched : s.shutdownLatched = false) (hsafe : ¬ Unsafe s.config t) (hcritical : s.critical t = false)
    (hlow : s.low t = false) : s.actions t = 0 := by
  cases PowerSupervisor.update_cases s t with
  | absent habsent =>
    rw [hpack] at habsent
    cases habsent
  | latched _ hl =>
    rw [hlatched] at hl
    cases hl
  | failed _ _ hdanger => exact absurd hdanger hsafe
  | expired _ _ _ hc | critical _ _ _ hc =>
    rw [hcritical] at hc
    cases hc
  | low _ _ _ _ hl =>
    rw [hlow] at hl
    cases hl
  | normal _ _ _ _ _ _ _ _ hzero => exact hzero

/-- Not critical: the runtime is above the threshold, and in CRITICAL past the exit. -/
theorem critical_eq_false {s : PowerSupervisor} {t : PowerSample} :
    s.critical t = false ↔ s.config.criticalRuntimeMinutes.toNat < t.estimatedRuntimeMinutes.toNat ∧
      (s.state = .critical → s.config.criticalExit.toNat ≤ t.estimatedRuntimeMinutes.toNat) := by
  unfold PowerSupervisor.critical
  simp only [Bool.or_eq_false_iff, Bool.and_eq_false_imp, decide_eq_false_iff_not, decide_eq_true_eq, BitVec.lt_def,
    BitVec.le_def, Nat.not_le, Nat.not_lt]

/-- Not low: the runtime is above the threshold, and in LOW past the exit. -/
theorem low_eq_false {s : PowerSupervisor} {t : PowerSample} :
    s.low t = false ↔ s.config.lowRuntimeMinutes.toNat < t.estimatedRuntimeMinutes.toNat ∧
      (s.state = .low → s.config.lowExit.toNat ≤ t.estimatedRuntimeMinutes.toNat) := by
  unfold PowerSupervisor.low
  simp only [Bool.or_eq_false_iff, Bool.and_eq_false_imp, decide_eq_false_iff_not, decide_eq_true_eq, BitVec.lt_def,
    BitVec.le_def, Nat.not_le, Nat.not_lt]

/-- **Step.** A sample ends no warning early exactly when it does not leave CRITICAL into the low band. -/
theorem warningHeld_iff {config : PowerConfig} {s₀ : PowerSupervisor} (hinit : PowerSupervisor.init config = some s₀)
    (past : List PowerSample) (t : PowerSample) :
    WarningHeld config s₀ past t ↔ ¬ LeavesIntoLowBand config (s₀.run past) t := by
  obtain ⟨hconfig, hstate, -, -, hhyst, -, hlowExit, hcriticalExit⟩ := init_spec hinit
  have hrun : (s₀.run past).config = config := (PowerSupervisor.run_config s₀ past).trans hconfig
  constructor
  · rintro ⟨hheld, -⟩ hleaves
    obtain ⟨hlatched, hwarned⟩ := critical_state hstate hleaves.state
    have hcritical : (s₀.run past).critical t = false := by
      rw [critical_eq_false, hrun, hcriticalExit]
      have := hleaves.leaves
      exact ⟨by omega, fun _ => this⟩
    have hlow : (s₀.run past).low t = false := by
      rw [low_eq_false, hrun]
      refine ⟨hleaves.above, fun hs => ?_⟩
      rw [hleaves.state] at hs
      cases hs
    have hzero : actionsAt s₀ past t = 0 :=
      actions_of_normal hleaves.present hlatched (hrun ▸ hleaves.safe) hcritical hlow
    have hlong := hheld (hwarned.mono (fun _ _ h => .inr h) fun _ _ h => ⟨h.1, h.2.1⟩) hleaves.present hzero
    have := hleaves.below
    omega
  · intro hnot
    constructor
    · intro hwarned hpack hzero
      obtain ⟨hopen, hsafe, hcritical, hlow⟩ := actions_eq_zero hzero
      rw [hrun] at hsafe
      rw [critical_eq_false, hrun, hcriticalExit] at hcritical
      rw [low_eq_false, hrun, hlowExit] at hlow
      rcases state_of_warned hwarned with hlatched | hs | hs
      · rw [hopen] at hlatched
        cases hlatched
      · exact hlow.2 hs
      · -- the only way out of CRITICAL that can be too early
        by_contra hshort
        exact hnot ⟨hpack, hsafe, hs, hcritical.2 hs, hlow.1, by omega⟩
    · intro hwarned hpack hback
      obtain ⟨hopen, hcritical⟩ : (s₀.run past).shutdownLatched = false ∧ (s₀.run past).critical t = false := by
        rcases hback with hzero | hlow
        · obtain ⟨hopen, -, hcritical, -⟩ := actions_eq_zero hzero
          exact ⟨hopen, hcritical⟩
        · exact actions_eq_warnLow hlow
      rw [critical_eq_false, hrun, hcriticalExit] at hcritical
      rcases state_of_warnedCritical hwarned with hlatched | hs
      · rw [hopen] at hlatched
        cases hlatched
      · exact hcritical.2 hs

/-! ## The run -/

/-- **When battery warnings are held.** For every accepted configuration and every run of samples: no warning
ends before its hysteresis is passed, at any sample, if and only if no sample of the run finds the supervisor
in CRITICAL and leaves it for a runtime above the low threshold and below the low exit. -/
theorem warnings_held_iff (config : PowerConfig) (s₀ : PowerSupervisor) (samples : List PowerSample)
    (hinit : PowerSupervisor.init config = some s₀) :
    Run.Each (WarningHeld config s₀) samples ↔
      Run.Each (fun past t => ¬ LeavesIntoLowBand config (s₀.run past) t) samples := by
  have hstep := warningHeld_iff hinit
  constructor
  · intro h past t later he
    exact (hstep past t).1 (h past t later he)
  · intro h past t later he
    exact (hstep past t).2 (h past t later he)

/-- Low at 45 minutes, critical at 10, a hysteresis of 5, ten minutes of grace. -/
def packLimits : PowerConfig := ⟨45, 10, 5, 3000, 6000, 600000⟩

/-- The supervisor that `packLimits` starts. -/
def packSupervisor : PowerSupervisor := ⟨packLimits, .disconnected, 0, false, false, 0, 0, 0, 0, 0⟩

/-- A sample of a good pack. -/
def packSample (minutes : U16) (timestampMs : U64) : PowerSample := ⟨true, true, minutes, 3700, 2500, timestampMs⟩

/-- A pack that falls into the low band and leaves it again. -/
theorem warnings_held_iff_low :
    Run.Each (WarningHeld packLimits packSupervisor) [packSample 45 1000, packSample 48 2000, packSample 51 3000] ↔
      Run.Each (fun past t => ¬ LeavesIntoLowBand packLimits (packSupervisor.run past) t)
        [packSample 45 1000, packSample 48 2000, packSample 51 3000] :=
  warnings_held_iff packLimits packSupervisor _ rfl

/-- 10 minutes, then 46: the critical warning is followed by no warning at all, 4 minutes short of the low
exit. -/
theorem warning_lost :
    PowerSupervisor.init packLimits = some packSupervisor ∧
      ¬ Run.Each (WarningHeld packLimits packSupervisor) [packSample 10 1000, packSample 46 2000] := by
  refine ⟨rfl, fun h => ?_⟩
  have hwarned : Warned packSupervisor [] (packSample 10 1000) := by
    unfold Warned
    decide
  have hsince : Run.Since (Warned packSupervisor) (Unrelieved packSupervisor) [packSample 10 1000] :=
    .here hwarned
  have hshort := (h [packSample 10 1000] (packSample 46 2000) [] rfl).1 hsince rfl (by decide)
  exact absurd hshort (by decide)

end OpenRef.Power
