import OpenRef.Watchdog.Driver
import OpenRef.Lib.Clock
/-!
# The FG23 watchdog (openref_watchdog_fg23.c)

The gate runs on milliseconds of a 64-bit microsecond count, unwrapped from a
32-bit counter that every report and every evaluation reads. A step back of less
than 2^31 us latches a clock fault; a step forward of less than 2^31 us never looks
like one.

`extended_clock`: over every run with reads less than 2^31 us apart the count is the
true time, as a 64-bit number, no fault is latched, and as long as the time fits in
64 bits the hardware is fed exactly as by the gate on true milliseconds.
`feeds_differ_after_wrap`: after 2^64 us the count starts over, and the gate with it.
-/

namespace OpenRef.Watchdog

variable {κ : Type}

/-- `openref_watchdog_fg23_config_t`. -/
structure WatchdogFg23Config where
  gate : WatchdogGateConfig
  hardwareTimeoutMs : U32

/-- `openref_watchdog_fg23_t` once initialised, the hooks left out. -/
structure WatchdogFg23 where
  gate : WatchdogGate
  previousClockUs : U32
  extendedClockUs : U64
  hardwareFeedFailures : U32
  clockFaults : U32
  clockInitialized : Bool
  clockFaultLatched : Bool

/-- `INT32_MAX`. -/
def int32Max : U32 := 0x7fffffff

namespace WatchdogFg23

/-- What `memset` leaves. -/
def zero : WatchdogFg23 := ⟨WatchdogGate.zero, 0, 0, 0, 0, false, false⟩

/-- `clock_ms` (:14-37) on what the clock hook returned: the milliseconds. -/
def clockMs (w : WatchdogFg23) (currentUs : U32) : WatchdogFg23 × U64 :=
  if !w.clockInitialized then
    ({ w with previousClockUs := currentUs, extendedClockUs := currentUs.setWidth 64, clockInitialized := true },
      currentUs.setWidth 64 / 1000)
  else
    let deltaUs := currentUs - w.previousClockUs
    if currentUs < w.previousClockUs && int32Max < deltaUs then
      ({ w with
        clockFaults := if !w.clockFaultLatched then incrementSaturating w.clockFaults else w.clockFaults
        clockFaultLatched := true },
        if w.extendedClockUs = 0 then 0 else w.extendedClockUs / 1000 - 1)
    else
      ({ w with previousClockUs := currentUs, extendedClockUs := w.extendedClockUs + deltaUs.setWidth 64 },
        (w.extendedClockUs + deltaUs.setWidth 64) / 1000)

/-- `openref_watchdog_fg23_init` (:39-70). -/
def init (be : WatchdogBackend κ) (k : κ) (config : WatchdogFg23Config) (currentUs : U32) :
    Option (κ × WatchdogFg23) :=
  if config.hardwareTimeoutMs = 0 || config.hardwareTimeoutMs ≤ config.gate.startupGraceMs then none
  else if ∃ task, inMask config.gate.requiredMask task = true ∧
      config.hardwareTimeoutMs ≤ config.gate.taskTimeoutMs task then none
  else
    let r := zero.clockMs currentUs
    match WatchdogGate.init config.gate r.2 with
    | none => none
    | some gate =>
      let hardware := be.configure k config.hardwareTimeoutMs
      if !hardware.2 then none else some (hardware.1, { r.1 with gate := gate })

/-- `openref_watchdog_fg23_report` (:72-82). -/
def report (w : WatchdogFg23) (taskIndex : U8) (currentUs : U32) : WatchdogFg23 × Bool :=
  let r := w.clockMs currentUs
  if r.1.clockFaultLatched then (r.1, false)
  else
    let a := r.1.gate.report taskIndex r.2
    ({ r.1 with gate := a.1 }, a.2)

/-- `openref_watchdog_fg23_process` (:84-99). -/
def process (be : WatchdogBackend κ) (k : κ) (w : WatchdogFg23) (currentUs : U32) : κ × WatchdogFg23 × Bool :=
  let r := w.clockMs currentUs
  if r.1.clockFaultLatched then (k, r.1, false)
  else
    let a := r.1.gate.shouldFeed r.2
    if !a.2 then (k, { r.1 with gate := a.1 }, false)
    else
      let fed := be.feed k
      if !fed.2 then
        (fed.1, { r.1 with
          gate := a.1
          hardwareFeedFailures := incrementSaturating r.1.hardwareFeedFailures }, false)
      else (fed.1, { r.1 with gate := a.1 }, true)

end WatchdogFg23

/-! ## Runs in true time -/

/-- A call of the watchdog. -/
inductive Fg23Call
  | report (taskIndex : U8)
  | process
deriving DecidableEq, Repr

/-- A call made at true time `c.2` microseconds, when the clock hook shows its low 32 bits. -/
def fg23Step (be : WatchdogBackend κ) (s : κ × WatchdogFg23) (c : Fg23Call × Nat) : κ × WatchdogFg23 :=
  match c.1 with
  | .report taskIndex => (s.1, (s.2.report taskIndex (Clock.reading 32 c.2)).1)
  | .process => let r := s.2.process be s.1 (Clock.reading 32 c.2); (r.1, r.2.1)

/-- The plain gate at the same call, on a millisecond clock of its own. -/
def gateStep (be : WatchdogBackend κ) (ms : Nat → U64) (s : κ × WatchdogGate) (c : Fg23Call × Nat) :
    κ × WatchdogGate :=
  match c.1 with
  | .report taskIndex => (s.1, (s.2.report taskIndex (ms c.2)).1)
  | .process =>
    let r := s.2.shouldFeed (ms c.2)
    (if r.2 then (be.feed s.1).1 else s.1, r.1)

/-- The time does not go back, and each call comes less than 2^31 us after the one before. -/
def Spaced : Nat → List (Fg23Call × Nat) → Prop
  | _, [] => True
  | t, (_, u) :: calls => t ≤ u ∧ u < t + 2 ^ 31 ∧ Spaced u calls

/-- The time of the last call. -/
def timeAt : Nat → List (Fg23Call × Nat) → Nat
  | t, [] => t
  | _, (_, u) :: calls => timeAt u calls

/-- The true time, counted from the 32-bit value of the first read at `t₀`. -/
def counted (t₀ t : Nat) : Nat := t₀ % 2 ^ 32 + (t - t₀)

/-- True milliseconds. -/
def trueMs (t₀ t : Nat) : U64 := BitVec.ofNat 64 (counted t₀ t / 1000)

/-- The milliseconds of a 64-bit microsecond counter. -/
def wideMs (t₀ t : Nat) : U64 := BitVec.ofNat 64 (counted t₀ t) / 1000

instance decidableSpaced : ∀ (t : Nat) (calls : List (Fg23Call × Nat)), Decidable (Spaced t calls)
  | _, [] => .isTrue trivial
  | t, (_, u) :: calls =>
    have : Decidable (Spaced u calls) := decidableSpaced u calls
    inferInstanceAs (Decidable (t ≤ u ∧ u < t + 2 ^ 31 ∧ Spaced u calls))

/-- As long as the time fits in 64 bits the two agree. -/
theorem wideMs_eq_trueMs {t₀ t : Nat} (h : counted t₀ t < 2 ^ 64) : wideMs t₀ t = trueMs t₀ t := by
  have h1000 : (1000 : U64).toNat = 1000 := rfl
  have hdiv : counted t₀ t / 1000 < 2 ^ 64 := Nat.lt_of_le_of_lt (Nat.div_le_self _ _) h
  refine BitVec.eq_of_toNat_eq ?_
  rw [wideMs, trueMs, BitVec.toNat_udiv, h1000, BitVec.toNat_ofNat, BitVec.toNat_ofNat, Nat.mod_eq_of_lt h,
    Nat.mod_eq_of_lt hdiv]

theorem le_timeAt : ∀ {t : Nat} {calls : List (Fg23Call × Nat)}, Spaced t calls → t ≤ timeAt t calls
  | _, [], _ => Nat.le_refl _
  | _, (_, _) :: _, h => Nat.le_trans h.1 (le_timeAt h.2.2)

theorem spaced_append {t : Nat} {past later : List (Fg23Call × Nat)} :
    Spaced t (past ++ later) ↔ Spaced t past ∧ Spaced (timeAt t past) later := by
  induction past generalizing t with
  | nil => simp [Spaced, timeAt]
  | cons c past ih =>
    simp only [List.cons_append, Spaced, timeAt, ih, and_assoc]

/-- **Invariant.** The count is the true time as a 64-bit number, and there was no fault. -/
structure Counting (t₀ t : Nat) (w : WatchdogFg23) : Prop where
  initialized : w.clockInitialized = true
  previous : w.previousClockUs = Clock.reading 32 t
  extended : w.extendedClockUs = BitVec.ofNat 64 (counted t₀ t)
  noFault : w.clockFaultLatched = false ∧ w.clockFaults = 0

/-- **Step: a read** of the clock less than 2^31 us after the last one. -/
theorem Counting.clockMs {t₀ t u : Nat} {w : WatchdogFg23} (h : Counting t₀ t w) (h0 : t₀ ≤ t) (htu : t ≤ u)
    (hu : u < t + 2 ^ 31) :
    w.clockMs (Clock.reading 32 u) = ({ w with
      previousClockUs := Clock.reading 32 u
      extendedClockUs := BitVec.ofNat 64 (counted t₀ u) }, wideMs t₀ u) := by
  have hdelta := Clock.toNat_sub_reading (w := 32) htu (by omega)
  have hmax : int32Max.toNat = 2 ^ 31 - 1 := rfl
  have hforward : ¬ int32Max < Clock.reading 32 u - Clock.reading 32 t := by
    rw [BitVec.lt_def, hdelta]
    omega
  have hextended : BitVec.ofNat 64 (counted t₀ t) + (Clock.reading 32 u - Clock.reading 32 t).setWidth 64 =
      BitVec.ofNat 64 (counted t₀ u) := by
    have hwide : (Clock.reading 32 u - Clock.reading 32 t).setWidth 64 = BitVec.ofNat 64 (u - t) := by
      rw [← BitVec.toNat_inj, toNat_setWidth_64, hdelta, BitVec.toNat_ofNat, Nat.mod_eq_of_lt (by omega)]
    rw [hwide, ← BitVec.ofNat_add]
    unfold counted
    congr 1
    omega
  unfold WatchdogFg23.clockMs
  dsimp only
  rw [h.initialized, h.previous, h.extended, hextended]
  simp only [Bool.not_true, Bool.false_eq_true, if_false, hforward, decide_false, Bool.and_false, wideMs]

/-- **Step.** A call keeps the count, and does to the gate and the hardware what the gate on the 64-bit
count does. -/
theorem Counting.step (be : WatchdogBackend κ) (call : Fg23Call) {t₀ t u : Nat} {s : κ × WatchdogFg23}
    (h : Counting t₀ t s.2) (h0 : t₀ ≤ t) (htu : t ≤ u) (hu : u < t + 2 ^ 31) :
    Counting t₀ u (fg23Step be s (call, u)).2 ∧
      ((fg23Step be s (call, u)).1, (fg23Step be s (call, u)).2.gate) =
        gateStep be (wideMs t₀) (s.1, s.2.gate) (call, u) := by
  have hclock := h.clockMs h0 htu hu
  have hfault := h.noFault.1
  cases call with
  | report taskIndex =>
    simp only [fg23Step, gateStep, WatchdogFg23.report, hclock, hfault, Bool.false_eq_true, if_false]
    exact ⟨⟨h.initialized, rfl, rfl, rfl, h.noFault.2⟩, trivial⟩
  | process =>
    simp only [fg23Step, gateStep, WatchdogFg23.process, hclock, hfault, Bool.false_eq_true, if_false]
    cases hfed : (s.2.gate.shouldFeed (wideMs t₀ u)).2 with
    | false =>
      simp only [Bool.not_false, if_true, Bool.false_eq_true, if_false]
      exact ⟨⟨h.initialized, rfl, rfl, rfl, h.noFault.2⟩, trivial⟩
    | true =>
      cases (be.feed s.1).2 <;>
      · simp only [Bool.not_true, Bool.not_false, if_true, Bool.false_eq_true, if_false]
        exact ⟨⟨h.initialized, rfl, rfl, rfl, h.noFault.2⟩, trivial⟩

/-- **Run.** The watchdog is the gate on the 64-bit count. -/
theorem Counting.run (be : WatchdogBackend κ) {t₀ : Nat} : ∀ {t : Nat} {s : κ × WatchdogFg23}
    (calls : List (Fg23Call × Nat)), Counting t₀ t s.2 → t₀ ≤ t → Spaced t calls →
    Counting t₀ (timeAt t calls) (calls.foldl (fg23Step be) s).2 ∧
      ((calls.foldl (fg23Step be) s).1, (calls.foldl (fg23Step be) s).2.gate) =
        calls.foldl (gateStep be (wideMs t₀)) (s.1, s.2.gate)
  | _, _, [], h, _, _ => ⟨h, rfl⟩
  | t, s, (call, u) :: calls, h, h0, ⟨htu, hu, hrest⟩ => by
    obtain ⟨hnext, hgate⟩ := h.step be call h0 htu hu
    have ih := Counting.run be calls hnext (Nat.le_trans h0 htu) hrest
    rw [hgate] at ih
    exact ih

/-- Two millisecond clocks that agree along a run drive the gate alike. -/
theorem gateRun_congr (be : WatchdogBackend κ) {ms ms' : Nat → U64} {s : κ × WatchdogGate}
    {calls : List (Fg23Call × Nat)} (h : ∀ c ∈ calls, ms c.2 = ms' c.2) :
    calls.foldl (gateStep be ms) s = calls.foldl (gateStep be ms') s := by
  induction calls generalizing s with
  | nil => rfl
  | cons c calls ih =>
    have hc : gateStep be ms s c = gateStep be ms' s c := by
      unfold gateStep
      rw [h c List.mem_cons_self]
    rw [List.foldl_cons, List.foldl_cons, hc]
    exact ih fun d hd => h d (List.mem_cons_of_mem _ hd)

/-- No call comes after the last one. -/
theorem le_of_mem_spaced {t : Nat} {calls : List (Fg23Call × Nat)} (h : Spaced t calls) :
    ∀ c ∈ calls, c.2 ≤ timeAt t calls := by
  induction calls generalizing t with
  | nil => intro c hc; cases hc
  | cons c calls ih =>
    intro d hd
    rcases List.mem_cons.1 hd with rfl | hd
    · exact le_timeAt h.2.2
    · exact ih h.2.2 d hd

/-- What the initialisation leaves: the plain gate on the first read's milliseconds. -/
theorem init_counting {be : WatchdogBackend κ} {k : κ} {config : WatchdogFg23Config} {t₀ : Nat}
    {s : κ × WatchdogFg23} (hinit : WatchdogFg23.init be k config (Clock.reading 32 t₀) = some s) :
    Counting t₀ t₀ s.2 ∧ WatchdogGate.init config.gate (trueMs t₀ t₀) = some s.2.gate := by
  have hread : (Clock.reading 32 t₀).setWidth 64 = BitVec.ofNat 64 (counted t₀ t₀) := by
    have hlt : t₀ % 2 ^ 32 < 2 ^ 64 := by omega
    rw [← BitVec.toNat_inj, toNat_setWidth_64, Clock.toNat_reading, BitVec.toNat_ofNat]
    unfold counted
    omega
  have hms : (Clock.reading 32 t₀).setWidth 64 / 1000 = trueMs t₀ t₀ := by
    have hfits : counted t₀ t₀ < 2 ^ 64 := by
      unfold counted
      omega
    rw [hread, ← wideMs_eq_trueMs hfits]
    rfl
  unfold WatchdogFg23.init at hinit
  split at hinit
  · cases hinit
  · split at hinit
    · cases hinit
    · simp only [WatchdogFg23.clockMs, WatchdogFg23.zero, Bool.not_false, if_true, hms] at hinit
      split at hinit
      · cases hinit
      · next gate hgate =>
        split at hinit
        · cases hinit
        · cases hinit
          exact ⟨⟨rfl, rfl, hread, rfl, rfl⟩, hgate⟩

/-- **The watchdog has a 64-bit clock.** For every run with reads less than 2^31 us apart, after every call
the count is the true time as a 64-bit number and no clock fault was ever latched; and as long as the true
time is below 2^64 us, the count is the true time and hardware and gate are what the plain gate on true
milliseconds leaves, whatever the hardware does with a feed. -/
theorem extended_clock (be : WatchdogBackend κ) (k : κ) (config : WatchdogFg23Config) (t₀ : Nat)
    (s : κ × WatchdogFg23) (calls : List (Fg23Call × Nat))
    (hinit : WatchdogFg23.init be k config (Clock.reading 32 t₀) = some s) (hspaced : Spaced t₀ calls) :
    ∃ g, WatchdogGate.init config.gate (trueMs t₀ t₀) = some g ∧ ∀ past later, calls = past ++ later →
      let r := past.foldl (fg23Step be) s
      let now := counted t₀ (timeAt t₀ past)
      r.2.extendedClockUs = BitVec.ofNat 64 now ∧ r.2.clockFaultLatched = false ∧ r.2.clockFaults = 0 ∧
        (now < 2 ^ 64 → r.2.extendedClockUs.toNat = now ∧
          (r.1, r.2.gate) = past.foldl (gateStep be (trueMs t₀)) (s.1, g)) := by
  obtain ⟨hcounting, hgate⟩ := init_counting hinit
  refine ⟨s.2.gate, hgate, ?_⟩
  rintro past later rfl
  have hpast := (spaced_append.1 hspaced).1
  obtain ⟨hend, hrun⟩ := hcounting.run be past (Nat.le_refl _) hpast
  refine ⟨hend.extended, hend.noFault.1, hend.noFault.2, fun hnow => ⟨?_, ?_⟩⟩
  · rw [hend.extended, BitVec.toNat_ofNat, Nat.mod_eq_of_lt hnow]
  · rw [hrun]
    refine gateRun_congr be fun c hc => wideMs_eq_trueMs ?_
    have := le_of_mem_spaced hpast c hc
    unfold counted at hnow ⊢
    omega

/-- One required task; grace and timeout of 50 ms under a hardware timeout of 100 ms. -/
def oneTask : WatchdogFg23Config := ⟨⟨1, 50, fun task => if task = 0 then 50 else 0⟩, 100⟩

/-- The gate it starts with. -/
def oneTaskGate : WatchdogGate := ⟨oneTask.gate, 0, 0, fun _ => 0, 0, 0, 0, 0, 0, 0, false⟩

/-- The watchdog after a first read of 0. -/
def oneTaskStart : WatchdogFg23 := ⟨oneTaskGate, 0, 0, 0, 0, true, false⟩

theorem init_oneTask : WatchdogFg23.init countingBackend 0 oneTask (Clock.reading 32 0) = some (0, oneTaskStart) := rfl

/-- The rule across one wrap of the 32-bit counter. -/
theorem extended_clock_one_wrap :
    ∃ g, WatchdogGate.init oneTask.gate (trueMs 0 0) = some g ∧ ∀ past later,
      [(.process, 2147483647), (.report 0, 4294967290), (.process, 4294967300)] = past ++ later →
      let r := past.foldl (fg23Step countingBackend) (0, oneTaskStart)
      let now := counted 0 (timeAt 0 past)
      r.2.extendedClockUs = BitVec.ofNat 64 now ∧ r.2.clockFaultLatched = false ∧ r.2.clockFaults = 0 ∧
        (now < 2 ^ 64 → r.2.extendedClockUs.toNat = now ∧
          (r.1, r.2.gate) = past.foldl (gateStep countingBackend (trueMs 0)) (0, g)) :=
  extended_clock countingBackend 0 oneTask 0 _ _ init_oneTask (by decide)

/-! ## Past 2^64 us -/

/-- Reads as far apart as they may be, each a report of a task that does not exist. -/
def longReads : Nat → Nat → List (Fg23Call × Nat)
  | _, 0 => []
  | t, n + 1 => (.report 9, t + (2 ^ 31 - 1)) :: longReads (t + (2 ^ 31 - 1)) n

theorem spaced_longReads {t n : Nat} {calls : List (Fg23Call × Nat)} (h : Spaced (t + n * (2 ^ 31 - 1)) calls) :
    Spaced t (longReads t n ++ calls) := by
  induction n generalizing t with
  | zero => simpa [longReads] using h
  | succ n ih =>
    have : t + (2 ^ 31 - 1) + n * (2 ^ 31 - 1) = t + (n + 1) * (2 ^ 31 - 1) := by ring
    rw [longReads, List.cons_append]
    exact ⟨by omega, by omega, ih (by rwa [this])⟩

/-- They only count as invalid reports. -/
theorem gateRun_longReads (be : WatchdogBackend κ) (ms : Nat → U64) (k : κ) (n : Nat) : ∀ (t : Nat) (g : WatchdogGate),
    ∃ invalid, (longReads t n).foldl (gateStep be ms) (k, g) = (k, { g with invalidReportCount := invalid }) ∧
      invalid.toNat = min (g.invalidReportCount.toNat + n) (2 ^ 32 - 1) := by
  induction n with
  | zero =>
    intro t g
    have := g.invalidReportCount.isLt
    exact ⟨g.invalidReportCount, rfl, by omega⟩
  | succ n ih =>
    intro t g
    obtain ⟨invalid, hrun, hcount⟩ := ih (t + (2 ^ 31 - 1))
      { g with invalidReportCount := incrementSaturating g.invalidReportCount }
    rw [toNat_incrementSaturating] at hcount
    exact ⟨invalid, hrun, by omega⟩

/-- Reads up to 4 us below 2^64 us, an evaluation there, and a report and an evaluation after it. -/
def pastWrap : List (Fg23Call × Nat) :=
  longReads 0 8589934596 ++ [(.process, 18446744073709551612), (.report 0, 18446744073709551616),
    (.process, 18446744073709551617)]

/-- On true milliseconds the last evaluation of that run feeds; the watchdog's count has started over and
its gate sees the clock go back. -/
theorem feeds_differ_after_wrap :
    ¬ ∀ (be : WatchdogBackend Nat) (k : Nat) (config : WatchdogFg23Config) (t₀ : Nat) (s : Nat × WatchdogFg23)
      (g : WatchdogGate) (calls : List (Fg23Call × Nat)),
      WatchdogFg23.init be k config (Clock.reading 32 t₀) = some s → Spaced t₀ calls →
      WatchdogGate.init config.gate (trueMs t₀ t₀) = some g →
      (calls.foldl (fg23Step be) s).1 = (calls.foldl (gateStep be (trueMs t₀)) (s.1, g)).1 := by
  intro h
  have hspaced : Spaced 0 pastWrap := spaced_longReads (by decide)
  have hgate : WatchdogGate.init oneTask.gate (trueMs 0 0) = some oneTaskGate := rfl
  have hsame (calls : List (Fg23Call × Nat)) (hs : Spaced 0 calls) :
      (calls.foldl (gateStep countingBackend (wideMs 0)) (0, oneTaskGate)).1 =
        (calls.foldl (gateStep countingBackend (trueMs 0)) (0, oneTaskGate)).1 := by
    have hrun := ((init_counting init_oneTask).1.run countingBackend calls (Nat.le_refl _) hs).2
    exact (congrArg Prod.fst hrun).symm.trans
      (h countingBackend 0 oneTask 0 (0, oneTaskStart) oneTaskGate calls init_oneTask hs hgate)
  -- the count of invalid reports is full by then
  have hreads (ms : Nat → U64) : (longReads 0 8589934596).foldl (gateStep countingBackend ms) (0, oneTaskGate) =
      (0, { oneTaskGate with invalidReportCount := uint32Max }) := by
    obtain ⟨invalid, hrun, hcount⟩ := gateRun_longReads countingBackend ms 0 8589934596 0 oneTaskGate
    have hzero : oneTaskGate.invalidReportCount.toNat = 0 := rfl
    have hmax : uint32Max.toNat = 2 ^ 32 - 1 := rfl
    have hfull : invalid = uint32Max := BitVec.eq_of_toNat_eq (by omega)
    rw [hrun, hfull]
  have hfed : (pastWrap.foldl (gateStep countingBackend (trueMs 0)) (0, oneTaskGate)).1 = 1 := by
    rw [pastWrap, List.foldl_append, hreads]
    decide +kernel
  have hnot : (pastWrap.foldl (gateStep countingBackend (wideMs 0)) (0, oneTaskGate)).1 = 0 := by
    rw [pastWrap, List.foldl_append, hreads]
    decide +kernel
  exact absurd (hnot.symm.trans ((hsame pastWrap hspaced).trans hfed)) (by decide)

end OpenRef.Watchdog
