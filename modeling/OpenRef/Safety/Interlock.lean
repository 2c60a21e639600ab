import OpenRef.Safety.Runtime
/-!
# The interlock chain in front of the radio

The startup supervisor comes up in a fixed order, `below` each state the one it is
entered from, and each entered on inputs that its `gate` lets pass. The arbiter lets
the radio transmit only where the supervisor permits it in the same tick.

`rf_interlocked`: over every run of the runtime, with any inputs, times and answers
of the gate callbacks, a tick that permits the radio has every interlock closed, a
clock that did not go back, and the whole chain behind it since the supervisor was
last safe or at fault; and a fault is left only by a tick without safe power.
-/

namespace OpenRef.Safety

/-- The state that a state is entered from on the way up. -/
def StartupState.below : StartupState → Option StartupState
  | .powerWait => some .safe
  | .processorWait => some .powerWait
  | .localReady => some .processorWait
  | .operational => some .localReady
  | .safe | .fault => none

/-- The inputs a state asks for. -/
def StartupState.gate : StartupState → StartupInputs → Bool
  | .powerWait, i => i.powerSafe
  | .processorWait, i => i.powerSafe && i.railsGood
  | .localReady, i =>
    i.powerSafe && i.railsGood && i.authenticatedBoot && i.configurationValid && i.accessorySafe && i.peerHealthy
  | .operational, i =>
    i.powerSafe && i.railsGood && i.authenticatedBoot && i.configurationValid && i.accessorySafe && i.peerHealthy &&
      i.crewSessionValid
  | .safe, _ | .fault, _ => true

/-- The states on the way up to a state, itself included. -/
def StartupState.rungs : StartupState → List StartupState
  | .powerWait => [.powerWait]
  | .processorWait => [.powerWait, .processorWait]
  | .localReady => [.powerWait, .processorWait, .localReady]
  | .operational => [.powerWait, .processorWait, .localReady, .operational]
  | .safe | .fault => []

/-- Neither safe nor at fault. -/
def StartupState.up (s : StartupState) : Prop := s ≠ .safe ∧ s ≠ .fault

theorem StartupState.rungs_of_below {s t : StartupState} (h : s.below = some t) : s.rungs = t.rungs ++ [s] := by
  cases s <;> cases h <;> rfl

namespace StartupSupervisor

theorem transition_state (s : StartupSupervisor) (state : StartupState) (nowMs : U64) :
    (s.transition state nowMs).state = state ∧ (s.transition state nowMs).lastTickMs = s.lastTickMs := by
  unfold transition
  by_cases h : s.state = state
  · rw [if_neg (not_not.2 h)]
    exact ⟨h, rfl⟩
  · rw [if_pos h]
    exact ⟨rfl, rfl⟩

theorem fail_state (s : StartupSupervisor) (fault : U32) (nowMs : U64) :
    (s.fail fault nowMs).state = .fault ∧ (s.fail fault nowMs).lastTickMs = s.lastTickMs :=
  transition_state _ _ _

/-- What a tick with safe power does to the state. -/
inductive Advanced (state : StartupState) (i : StartupInputs) (state' : StartupState) : Prop
  | fail (hs : state' = .fault)
  | enter (hb : state'.below = some state) (hg : state'.gate i = true)
  | lapse (hs : state = .operational) (hs' : state' = .localReady)
  | stay (hs : state' = state) (hg : state'.gate i = true)

theorem transition_advanced (s : StartupSupervisor) {state next : StartupState} {i : StartupInputs} (nowMs : U64)
    (h : Advanced state i next) :
    Advanced state i (s.transition next nowMs).state ∧ (s.transition next nowMs).lastTickMs = s.lastTickMs := by
  obtain ⟨hs, hl⟩ := s.transition_state next nowMs
  rw [hs]
  exact ⟨h, hl⟩

theorem fail_advanced (s : StartupSupervisor) (state : StartupState) (i : StartupInputs) (fault : U32) (nowMs : U64) :
    Advanced state i (s.fail fault nowMs).state ∧ (s.fail fault nowMs).lastTickMs = s.lastTickMs := by
  obtain ⟨hs, hl⟩ := s.fail_state fault nowMs
  exact ⟨.fail hs, hl⟩

theorem advance_advanced (s : StartupSupervisor) (i : StartupInputs) (nowMs : U64) (hp : i.powerSafe = true) :
    Advanced s.state i (s.advance i nowMs).state ∧ (s.advance i nowMs).lastTickMs = s.lastTickMs := by
  unfold advance
  cases hs : s.state with
  | safe => exact s.transition_advanced nowMs (.enter rfl hp)
  | powerWait =>
    dsimp only
    split
    · next hr => exact s.transition_advanced nowMs (.enter rfl (by simp [StartupState.gate, hp, hr]))
    · split
      · exact s.fail_advanced _ i startupFaultRailTimeout nowMs
      · rw [hs]
        exact ⟨.stay rfl hp, rfl⟩
  | processorWait =>
    dsimp only
    split
    · exact s.fail_advanced _ i startupFaultRuntimeInterlock nowMs
    · next hr =>
      have hr : i.railsGood = true := by simpa using hr
      split
      · next hall =>
        simp only [Bool.and_eq_true] at hall
        obtain ⟨⟨⟨hb, hc⟩, ha⟩, hpeer⟩ := hall
        exact s.transition_advanced nowMs (.enter rfl (by simp [StartupState.gate, hp, hr, hb, hc, ha, hpeer]))
      · split
        · exact s.fail_advanced _ i startupFaultProcessorTimeout nowMs
        · rw [hs]
          exact ⟨.stay rfl (by simp [StartupState.gate, hp, hr]), rfl⟩
  | localReady =>
    dsimp only
    split
    · exact s.fail_advanced _ i startupFaultRuntimeInterlock nowMs
    · next hall =>
      simp only [Bool.or_eq_true, Bool.not_eq_true', not_or, Bool.not_eq_false] at hall
      obtain ⟨⟨⟨⟨hr, hb⟩, hc⟩, ha⟩, hpeer⟩ := hall
      split
      · next hcrew =>
        exact s.transition_advanced nowMs (.enter rfl (by simp [StartupState.gate, hp, hr, hb, hc, ha, hpeer, hcrew]))
      · exact s.transition_advanced nowMs (.stay rfl (by simp [StartupState.gate, hp, hr, hb, hc, ha, hpeer]))
  | operational =>
    dsimp only
    split
    · exact s.fail_advanced _ i startupFaultRuntimeInterlock nowMs
    · next hall =>
      simp only [Bool.or_eq_true, Bool.not_eq_true', not_or, Bool.not_eq_false] at hall
      obtain ⟨⟨⟨⟨hr, hb⟩, hc⟩, ha⟩, hpeer⟩ := hall
      split
      · next hcrew =>
        exact s.transition_advanced nowMs (.stay rfl (by simp [StartupState.gate, hp, hr, hb, hc, ha, hpeer, hcrew]))
      · exact s.transition_advanced nowMs (.lapse rfl rfl)
  | fault =>
    dsimp only
    rw [hs]
    exact ⟨.fail rfl, rfl⟩

/-- What a tick does: the clock went back, power is not safe, or the state advances. -/
inductive Ticked (s : StartupSupervisor) (i : StartupInputs) (nowMs : U64) (s' : StartupSupervisor) : Prop
  | back (hb : nowMs < s.lastTickMs) (hs : s'.state = .fault) (hl : s'.lastTickMs = s.lastTickMs)
  | off (hb : s.lastTickMs ≤ nowMs) (hp : i.powerSafe = false) (hs : s'.state = .safe) (hl : s'.lastTickMs = nowMs)
  | on (hb : s.lastTickMs ≤ nowMs) (hs : Advanced s.state i s'.state) (hl : s'.lastTickMs = nowMs)

theorem tick_ticked (s : StartupSupervisor) (i : StartupInputs) (nowMs : U64) :
    Ticked s i nowMs (s.tick i nowMs).1 := by
  unfold tick
  dsimp only
  split
  · next hb =>
    obtain ⟨hs, hl⟩ := s.fail_state startupFaultClock nowMs
    exact .back hb hs hl
  · next hb =>
    have hle := BitVec.not_lt.1 hb
    split
    · next hp =>
      obtain ⟨hs, hl⟩ := transition_state { s with lastTickMs := nowMs, faultMask := 0 } .safe nowMs
      exact .off hle (by simpa using hp) hs hl
    · next hp =>
      obtain ⟨hs, hl⟩ := advance_advanced { s with lastTickMs := nowMs } i nowMs (by simpa using hp)
      exact .on hle hs hl

/-- Only the operational state permits the radio. -/
theorem actions_permit {s : StartupSupervisor} (h : s.actions &&& startupActionPermitRfTx ≠ 0) :
    s.state = .operational := by
  unfold actions at h
  cases hs : s.state <;> rw [hs] at h <;> first | rfl | exact absurd (by decide) h

end StartupSupervisor

/-- The arbiter lets the radio or voice transmit only under the supervisor's permission. -/
theorem arbitrate_permit {i : SafetyInputs}
    (h : (arbitrate i).networkControlTxEnabled = true ∨ (arbitrate i).voiceUplinkEnabled = true) :
    i.startupActions &&& startupActionPermitRfTx ≠ 0 := by
  have hradio : radioInhibit i = 0 := by
    rcases h with h | h
    · exact of_decide_eq_true h
    · exact of_decide_eq_true (Bool.and_eq_true_iff.1 h).2
  intro hz
  have hor {a b : U32} (hab : a ||| b = 0) : a = 0 ∧ b = 0 := BitVec.or_eq_zero_iff.1 hab
  unfold radioInhibit at hradio
  have hstartup := (hor (hor (hor (hor (hor hradio).1).1).1).1).2
  rw [reasonIf, if_pos (decide_eq_true hz)] at hstartup
  exact absurd hstartup (by decide)

/-! ## Runs of the runtime -/

/-- The arguments of a tick, both pointers set. -/
structure RuntimeTick where
  startup : StartupInputs
  safety : SafetyInputs
  nowMs : U64
deriving DecidableEq, Repr

namespace SystemRuntime

variable {κ : Type}

section Histories

variable (be : GateBackend κ) (w₀ : κ × SystemRuntime)

/-- A tick on any gate callbacks. -/
def runtimeStep (w : κ × SystemRuntime) (t : RuntimeTick) : κ × SystemRuntime :=
  let r := w.2.tick be w.1 ⟨some t.startup, some t.safety, t.nowMs⟩
  (r.1, r.2.1)

/-- The runtime after some ticks. -/
def runtimeAfter (past : List RuntimeTick) : SystemRuntime := (past.foldl (runtimeStep be) w₀).2

/-- The state of the startup supervisor after some ticks. -/
def stateAfter (past : List RuntimeTick) : StartupState := (runtimeAfter be w₀ past).startup.state

/-- The tick permits the radio: by the supervisor's actions, or by an output after it. -/
def PermitsRf (past : List RuntimeTick) (t : RuntimeTick) : Prop :=
  ((runtimeAfter be w₀ past).startup.tick t.startup t.nowMs).2 &&& startupActionPermitRfTx ≠ 0 ∨
    (runtimeAfter be w₀ (past ++ [t])).output.networkControlTxEnabled = true ∨
    (runtimeAfter be w₀ (past ++ [t])).output.voiceUplinkEnabled = true

/-- The tick ended in a state on the way up, entered from the one below it on inputs that its gate lets pass. -/
structure Enters (state : StartupState) (past : List RuntimeTick) (t : RuntimeTick) : Prop where
  before : state.below = some (stateAfter be w₀ past)
  after : stateAfter be w₀ (past ++ [t]) = state
  gate : state.gate t.startup = true

/-- The tick ended neither in the safe state nor in a fault. -/
def StaysUp (past : List RuntimeTick) (t : RuntimeTick) : Prop := (stateAfter be w₀ (past ++ [t])).up

/-- The clock of the tick is not behind the start or an earlier tick. -/
def ClockForward (startMs : U64) (past : List RuntimeTick) (t : RuntimeTick) : Prop :=
  startMs ≤ t.nowMs ∧ ∀ u ∈ past, u.nowMs ≤ t.nowMs

/-- What lies behind a tick that permits the radio. -/
structure Interlocked (startMs : U64) (past : List RuntimeTick) (t : RuntimeTick) : Prop where
  inputs : t.startup = readyInputs
  clock : ClockForward startMs past t
  chain : Run.Climbed (Enters be w₀) (StaysUp be w₀) [.powerWait, .processorWait, .localReady, .operational]
    (past ++ [t])

/-- **Invariant.** The chain up to the present state, and the latest time. -/
structure Chained (startMs : U64) (past : List RuntimeTick) : Prop where
  chain : Run.Climbed (Enters be w₀) (StaysUp be w₀) (stateAfter be w₀ past).rungs past
  clock : startMs ≤ (runtimeAfter be w₀ past).startup.lastTickMs ∧
    ∀ u ∈ past, u.nowMs ≤ (runtimeAfter be w₀ past).startup.lastTickMs

end Histories

section Steps

variable {be : GateBackend κ} {w₀ : κ × SystemRuntime} {startMs : U64} {past : List RuntimeTick} {t : RuntimeTick}

/-- A tick of the runtime is a tick of the supervisor. -/
theorem startup_tick (past : List RuntimeTick) (t : RuntimeTick) :
    (runtimeAfter be w₀ (past ++ [t])).startup = ((runtimeAfter be w₀ past).startup.tick t.startup t.nowMs).1 := by
  unfold runtimeAfter
  rw [List.foldl_append]
  simp only [List.foldl_cons, List.foldl_nil, runtimeStep, tick]
  split <;> rfl

/-- The output after a tick is what the arbiter makes of this tick's actions. -/
theorem output_tick (be : GateBackend κ) (w₀ : κ × SystemRuntime) (past : List RuntimeTick) (t : RuntimeTick) :
    ∃ i : SafetyInputs, (runtimeAfter be w₀ (past ++ [t])).output = arbitrate i ∧
      i.startupActions = ((runtimeAfter be w₀ past).startup.tick t.startup t.nowMs).2 := by
  unfold runtimeAfter
  rw [List.foldl_append]
  simp only [List.foldl_cons, List.foldl_nil, runtimeStep, tick]
  split
  · exact ⟨_, rfl, rfl⟩
  · exact ⟨_, rfl, rfl⟩

/-- A tick that permits the radio ends in the operational state. -/
theorem operational_of_permits (h : PermitsRf be w₀ past t) : stateAfter be w₀ (past ++ [t]) = .operational := by
  have hactions : ((runtimeAfter be w₀ past).startup.tick t.startup t.nowMs).2 &&& startupActionPermitRfTx ≠ 0 := by
    rcases h with h | h
    · exact h
    · obtain ⟨i, hout, hi⟩ := output_tick be w₀ past t
      rw [hout] at h
      rw [← hi]
      exact arbitrate_permit h
  rw [stateAfter, startup_tick]
  exact StartupSupervisor.actions_permit hactions

theorem ticked (be : GateBackend κ) (w₀ : κ × SystemRuntime) (past : List RuntimeTick) (t : RuntimeTick) :
    StartupSupervisor.Ticked (runtimeAfter be w₀ past).startup t.startup t.nowMs
      (runtimeAfter be w₀ (past ++ [t])).startup := by
  rw [startup_tick]
  exact StartupSupervisor.tick_ticked _ _ _

theorem Chained.clockForward (h : Chained be w₀ startMs past)
    (hb : (runtimeAfter be w₀ past).startup.lastTickMs ≤ t.nowMs) : ClockForward startMs past t :=
  ⟨BitVec.le_trans h.clock.1 hb, fun u hu => BitVec.le_trans (h.clock.2 u hu) hb⟩

theorem up_of_below {s s' : StartupState} (h : s.below = some s') : s.up := by
  cases s <;> cases h <;> exact ⟨by decide, by decide⟩

/-- **Step.** A tick extends the chain or drops it. -/
theorem Chained.step (h : Chained be w₀ startMs past) : Chained be w₀ startMs (past ++ [t]) := by
  have hchain := h.chain
  have hticked := ticked be w₀ past t
  have hstay (hup : (stateAfter be w₀ (past ++ [t])).up)
      (heq : (stateAfter be w₀ (past ++ [t])) = stateAfter be w₀ past) :
      Run.Climbed (Enters be w₀) (StaysUp be w₀) (stateAfter be w₀ (past ++ [t])).rungs (past ++ [t]) := by
    rw [heq]
    exact .stay hchain hup
  constructor
  · cases hticked with
    | back _ hs _ =>
      rw [stateAfter, hs]
      exact .start _
    | off _ _ hs _ =>
      rw [stateAfter, hs]
      exact .start _
    | on _ hs _ =>
      cases hs with
      | fail hs =>
        rw [stateAfter, hs]
        exact .start _
      | enter hb hg =>
        have hrungs := StartupState.rungs_of_below hb
        change Run.Climbed _ _ (runtimeAfter be w₀ (past ++ [t])).startup.state.rungs _
        rw [hrungs]
        exact .enter hchain ⟨hb, rfl, hg⟩
      | lapse hs hs' =>
        -- back in local readiness: the operational rung is given up, the chain below it is kept
        rw [stateAfter, hs] at hchain
        have hentered (k : StartupState) (earlier : List RuntimeTick) (u : RuntimeTick)
            (he : Enters be w₀ k earlier u) : StaysUp be w₀ earlier u := by
          rw [StaysUp, he.after]
          exact up_of_below he.before
        have hbelow : Run.Climbed (Enters be w₀) (StaysUp be w₀) StartupState.localReady.rungs past :=
          Run.Climbed.drop (k := StartupState.operational) hentered hchain
        have hup : (stateAfter be w₀ (past ++ [t])).up := by
          rw [stateAfter, hs']
          exact ⟨by decide, by decide⟩
        rw [stateAfter, hs']
        exact .stay hbelow hup
      | stay hs _ =>
        by_cases hup : (stateAfter be w₀ (past ++ [t])).up
        · exact hstay hup hs
        · have hnone : (stateAfter be w₀ (past ++ [t])).rungs = [] := by
            unfold StartupState.up at hup
            cases hst : stateAfter be w₀ (past ++ [t]) <;> rw [hst] at hup <;>
              first | rfl | exact absurd ⟨by decide, by decide⟩ hup
          rw [hnone]
          exact .start _
  · have hlast : (runtimeAfter be w₀ past).startup.lastTickMs ≤
          (runtimeAfter be w₀ (past ++ [t])).startup.lastTickMs ∧
        t.nowMs ≤ (runtimeAfter be w₀ (past ++ [t])).startup.lastTickMs := by
      cases hticked with
      | back hb _ hl =>
        rw [hl]
        exact ⟨BitVec.le_refl _, BitVec.le_of_lt hb⟩
      | off hb _ _ hl | on hb _ hl =>
        rw [hl]
        exact ⟨hb, BitVec.le_refl _⟩
    refine ⟨BitVec.le_trans h.clock.1 hlast.1, fun u hu => ?_⟩
    rcases List.mem_append.1 hu with hu | hu
    · exact BitVec.le_trans (h.clock.2 u hu) hlast.1
    · rw [List.mem_singleton.1 hu]
      exact hlast.2

/-- A tick that ends in the operational state found every interlock closed. -/
theorem Chained.interlocked (h : Chained be w₀ startMs past)
    (hop : stateAfter be w₀ (past ++ [t]) = .operational) : Interlocked be w₀ startMs past t := by
  have hready (hg : StartupState.gate .operational t.startup = true) : t.startup = readyInputs := by
    simp only [StartupState.gate, Bool.and_eq_true] at hg
    obtain ⟨⟨⟨⟨⟨⟨hp, hr⟩, hb⟩, hc⟩, ha⟩, hpeer⟩, hcrew⟩ := hg
    cases hs : t.startup
    simp_all [readyInputs]
  have hchain := (h.step (t := t)).chain
  rw [hop] at hchain
  have hticked := ticked be w₀ past t
  unfold stateAfter at hop
  cases hticked with
  | back _ hs _ => rw [hop] at hs; cases hs
  | off _ _ hs _ => rw [hop] at hs; cases hs
  | on hb hs _ =>
    rw [hop] at hs
    cases hs with
    | fail hs => cases hs
    | enter _ hg => exact ⟨hready hg, h.clockForward hb, hchain⟩
    | lapse _ hs => cases hs
    | stay _ hg => exact ⟨hready hg, h.clockForward hb, hchain⟩

/-- A fault is left only for the safe state, without safe power. -/
theorem Chained.fault_left (h : Chained be w₀ startMs past) (hf : stateAfter be w₀ past = .fault)
    (hne : stateAfter be w₀ (past ++ [t]) ≠ .fault) :
    t.startup.powerSafe = false ∧ ClockForward startMs past t := by
  have hticked := ticked be w₀ past t
  unfold stateAfter at hf hne
  cases hticked with
  | back _ hs _ => exact absurd hs hne
  | off hb hp _ _ => exact ⟨hp, h.clockForward hb⟩
  | on _ hs _ =>
    rw [hf] at hs
    cases hs with
    | fail hs => exact absurd hs hne
    | enter hb _ =>
      generalize (runtimeAfter be w₀ (past ++ [t])).startup.state = state at hb
      cases state <;> cases hb
    | lapse hs _ => cases hs
    | stay hs _ => exact absurd hs hne

end Steps

theorem init_chained {be : GateBackend κ} {k : κ} {config : StartupConfig} {startMs : U64} {w : κ × SystemRuntime}
    (hinit : init be k config startMs = some w) : Chained be w startMs [] := by
  unfold init StartupSupervisor.init at hinit
  split at hinit
  · cases hinit
  · cases hinit
    exact ⟨.start _, BitVec.le_refl _, fun u hu => by cases hu⟩

/-- **RF is never permitted without the full interlock chain.** For every run of the runtime from its
initialisation, with any inputs and times and any answers of the gate callbacks: at a tick whose startup
actions permit the radio, or after which the output enables network control or voice, all seven inputs hold,
the clock has not gone back, and since the supervisor was last safe or at fault it has ended ticks in
`powerWait`, `processorWait`, `localReady` and `operational`, each entered from the one before on inputs that
satisfy its gate. A fault is left only by a tick without safe power whose clock has not gone back. -/
theorem rf_interlocked (be : GateBackend κ) (k : κ) (config : StartupConfig) (startMs : U64)
    (w : κ × SystemRuntime) (ticks : List RuntimeTick) (hinit : init be k config startMs = some w) :
    ∀ past t rest, ticks = past ++ t :: rest →
      (PermitsRf be w past t → Interlocked be w startMs past t) ∧
      (stateAfter be w past = .fault → stateAfter be w (past ++ [t]) ≠ .fault →
        t.startup.powerSafe = false ∧ ClockForward startMs past t) := by
  intro past t rest _
  have hchained : Chained be w startMs past := by
    have hall : Run.Along (runtimeStep be) (fun _ _ => True) w past := Run.along_of_forall fun _ _ => trivial
    exact Run.inv_past (P := fun past _ => Chained be w startMs past) (fun past v u hp _ => hp.step) [] w past
      (init_chained hinit) hall
  exact ⟨fun h => hchained.interlocked (operational_of_permits h), hchained.fault_left⟩

/-- The rule at the fourth tick on the way to full operation. -/
theorem rf_interlocked_ready :
    PermitsRf Gates.backend (forceOff Gates.backend slowVoice, freshRuntime)
        ([1, 2, 3].map fun now => ⟨readyInputs, clearInputs, now⟩) ⟨readyInputs, clearInputs, 4⟩ ∧
      Interlocked Gates.backend (forceOff Gates.backend slowVoice, freshRuntime) 0
        ([1, 2, 3].map fun now => ⟨readyInputs, clearInputs, now⟩) ⟨readyInputs, clearInputs, 4⟩ := by
  have hpermits : PermitsRf Gates.backend (forceOff Gates.backend slowVoice, freshRuntime)
      ([1, 2, 3].map fun now => ⟨readyInputs, clearInputs, now⟩) ⟨readyInputs, clearInputs, 4⟩ := by
    unfold PermitsRf
    decide +kernel
  exact ⟨hpermits, (rf_interlocked Gates.backend slowVoice ⟨100, 100⟩ 0 _
    ([1, 2, 3, 4].map fun now => ⟨readyInputs, clearInputs, now⟩) rfl _ _ [] rfl).1 hpermits⟩

end SystemRuntime

end OpenRef.Safety
