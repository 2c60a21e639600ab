import OpenRef.Safety.GateDriver
import OpenRef.Lib.Run
/-!
# The system runtime (openref_system_runtime.c)

A tick runs the startup supervisor and the arbiter and applies the result to the
gates; a failed application latches a fault that keeps every output disabled from
then on.

The driver remembers all off after a force-safe, granted or not, and only calls
for what differs from its memory. `disabled_gates_off`: in every run in which each
force-safe gets its gates off, what a successful tick reports disabled is
physically off. `stuck_gate_reported_disabled`: a gate that refuses to turn off
stays on under ticks that report it disabled.
-/

namespace OpenRef.Safety

/-- `openref_system_runtime_t` once initialised. -/
structure SystemRuntime where
  startup : StartupSupervisor
  gates : GateDriver
  output : SafetyOutput
  cycles : U32
  actuationFaults : U32
  actuationFaultLatched : Bool
deriving DecidableEq, Repr

/-- The arguments of a tick; a pointer may be null. -/
structure TickInput where
  startup : Option StartupInputs
  safety : Option SafetyInputs
  nowMs : U64
deriving DecidableEq, Repr

namespace SystemRuntime

variable {κ : Type}

/-- `openref_system_runtime_init` (:6-24) with callbacks that are set. -/
def init (be : GateBackend κ) (k : κ) (config : StartupConfig) (nowMs : U64) : Option (κ × SystemRuntime) :=
  (StartupSupervisor.init config nowMs).map fun startup =>
    let r := GateDriver.init be k
    (r.1, ⟨startup, r.2, arbitrateNull, 0, 0, false⟩)

/-- The startup supervisor after a tick and the inputs it makes for the arbiter (:36-41). -/
def combine (rt : SystemRuntime) (si : StartupInputs) (fi : SafetyInputs) (nowMs : U64) :
    StartupSupervisor × SafetyInputs :=
  let r := rt.startup.tick si nowMs
  (r.1, { fi with startupActions := r.2, systemFault := fi.systemFault || rt.actuationFaultLatched })

/-- `openref_system_runtime_tick` (:26-52). -/
def tick (be : GateBackend κ) (k : κ) (rt : SystemRuntime) (i : TickInput) : κ × SystemRuntime × Bool :=
  match i.startup, i.safety with
  | some si, some fi =>
    let c := rt.combine si fi i.nowMs
    let desired := arbitrate c.2
    let a := rt.gates.apply be k desired
    let rt := { rt with startup := c.1, gates := a.2.1, cycles := rt.cycles + 1 }
    if !a.2.2 then
      (a.1, { rt with
        actuationFaultLatched := true
        actuationFaults := rt.actuationFaults + 1
        output := arbitrate { c.2 with systemFault := true } }, false)
    else (a.1, { rt with output := desired }, true)
  | _, _ => (k, rt, false)

/-- The gates as a tick hands them to a force-safe, if it makes one. -/
def forcedAt (be : GateBackend κ) (k : κ) (rt : SystemRuntime) (i : TickInput) : Option κ :=
  match i.startup, i.safety with
  | some si, some fi => rt.gates.forcedAt be k (arbitrate (rt.combine si fi i.nowMs).2)
  | _, _ => none

/-! ## Runs over the hardware bits -/

/-- A tick of the runtime on its gates. -/
def step (w : Gates × SystemRuntime) (i : TickInput) : Gates × SystemRuntime :=
  let r := w.2.tick Gates.backend w.1 i
  (r.1, r.2.1)

/-- If this tick makes a force-safe, each of its off requests is granted or finds its gate off. -/
def ForcedOff (w : Gates × SystemRuntime) (i : TickInput) : Prop :=
  ∀ k, w.2.forcedAt Gates.backend w.1 i = some k → OffHeld k

/-- A tick that returns true has every gate off that the output marks disabled. -/
def DisabledOff (w : Gates × SystemRuntime) (i : TickInput) : Prop :=
  (w.2.tick Gates.backend w.1 i).2.2 = true →
    ∀ g, (step w i).2.output.enabled g = false → (step w i).1.on g = false

instance (w : Gates × SystemRuntime) (i : TickInput) : Decidable (ForcedOff w i) :=
  inferInstanceAs (Decidable (∀ k ∈ w.2.forcedAt Gates.backend w.1 i, OffHeld k))

instance (w : Gates × SystemRuntime) (i : TickInput) : Decidable (DisabledOff w i) :=
  inferInstanceAs (Decidable (_ → ∀ _, _ → _))

theorem covers_off {k : Gates} (h : ∀ g, k.on g = false) : Covers SafetyOutput.off k := by
  intro g hg
  rw [h g] at hg
  cases hg

/-- **Step.** What is on stays covered by what the driver remembers, and a tick that returns true
reports what it applied. -/
theorem step_covers (w : Gates × SystemRuntime) (i : TickInput) (hc : Covers w.2.gates.applied w.1)
    (hf : ForcedOff w i) : Covers (step w i).2.gates.applied (step w i).1 ∧ DisabledOff w i := by
  obtain ⟨k, rt⟩ := w
  obtain ⟨si, fi, now⟩ := i
  unfold ForcedOff forcedAt at hf
  unfold DisabledOff step tick
  cases si with
  | none => exact ⟨hc, fun h => by cases h⟩
  | some si =>
    cases fi with
    | none => exact ⟨hc, fun h => by cases h⟩
    | some fi =>
      simp only at hc hf ⊢
      rcases GateDriver.apply_cases Gates.backend k rt.gates (arbitrate (rt.combine si fi now).2) with
        ⟨k', hk, ha⟩ | ⟨n, -, hs, ha⟩
      · simp only [ha, Bool.not_false, if_true]
        exact ⟨covers_off ((forceOff_off_iff k').2 (hf k' hk)), fun h => by cases h⟩
      · simp only [ha, Bool.not_true, Bool.false_eq_true, if_false, true_implies]
        have hcov := switch_covers hc hs
        refine ⟨hcov, fun g hg => ?_⟩
        by_contra hon
        have := hcov g (by simpa using hon)
        rw [hg] at this
        cases this

theorem init_covers {config : StartupConfig} {nowMs : U64} {k₀ : Gates} {w : Gates × SystemRuntime}
    (hinit : init Gates.backend k₀ config nowMs = some w) (h0 : OffHeld k₀) :
    Covers w.2.gates.applied w.1 := by
  unfold init at hinit
  obtain ⟨startup, -, rfl⟩ := Option.map_eq_some_iff.1 hinit
  exact covers_off ((forceOff_off_iff k₀).2 h0)

/-- **What is reported disabled is off, as long as a force-safe gets its gates off.** In every run
from an initialisation whose off requests hold, if each force-safe of the run does too, then after
every tick that returns true each output marked disabled is physically off. -/
theorem disabled_gates_off (config : StartupConfig) (nowMs : U64) (k₀ : Gates) (w : Gates × SystemRuntime)
    (ticks : List TickInput) (hinit : init Gates.backend k₀ config nowMs = some w) (h0 : OffHeld k₀)
    (hticks : Run.Along step ForcedOff w ticks) : Run.Along step DisabledOff w ticks :=
  Run.along_of_inv (P := fun w => Covers w.2.gates.applied w.1)
    (fun w i hc hf => (step_covers w i hc hf).1) (fun w i hc hf => (step_covers w i hc hf).2)
    (init_covers hinit h0) hticks

/-! ## A gate that refuses to turn off -/

/-- All interlocks closed. -/
def readyInputs : StartupInputs := ⟨true, true, true, true, true, true, true⟩

/-- No reason against any output. -/
def clearInputs : SafetyInputs := ⟨0, 0, false, false, 0, true, false, false, false, false, false⟩

/-- Four ticks to full operation, a system fault, and a quiet tick. -/
def faultTicks : List TickInput :=
  [1, 2, 3, 4].map (fun now => ⟨some readyInputs, some clearInputs, now⟩) ++
    [⟨some readyInputs, some { clearInputs with systemFault := true }, 5⟩,
      ⟨some readyInputs, some clearInputs, 6⟩]

/-- All gates off; the calls up to full operation succeed, the two off requests for voice that the
fault makes do not. -/
def stuckVoice : Gates := ⟨fun _ => false, [true, true, true, true, true, true, false, false]⟩

/-- All gates off; only the first off request that the fault makes fails. -/
def slowVoice : Gates := ⟨fun _ => false, [true, true, true, true, true, true, false]⟩

/-- The runtime after its initialisation. -/
def freshRuntime : SystemRuntime :=
  ⟨⟨⟨100, 100⟩, .safe, 0, 0, 0, 0⟩, ⟨SafetyOutput.off, 0, 0⟩, arbitrateNull, 0, 0, false⟩

/-- The rule at a fault whose force-safe turns voice off after all. -/
theorem disabled_gates_off_slow_voice :
    Run.Along step DisabledOff (forceOff Gates.backend slowVoice, freshRuntime) faultTicks :=
  disabled_gates_off ⟨100, 100⟩ 0 slowVoice _ faultTicks rfl (by decide) (by decide +kernel)

/-- A voice gate that refuses two off requests is on while the next tick, which makes no call,
reports it disabled. -/
theorem stuck_gate_reported_disabled :
    ¬ ∀ (config : StartupConfig) (nowMs : U64) (k₀ : Gates) (w : Gates × SystemRuntime)
      (ticks : List TickInput), init Gates.backend k₀ config nowMs = some w →
      Run.Along step DisabledOff w ticks :=
  fun h => absurd (h ⟨100, 100⟩ 0 stuckVoice (forceOff Gates.backend stuckVoice, freshRuntime) faultTicks rfl)
    (by decide +kernel)

end SystemRuntime

end OpenRef.Safety
