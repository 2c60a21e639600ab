import OpenRef.Boot.StateStore
import OpenRef.Lib.Clock
/-!
# The trial supervisor (openref_rt595_app_confirmation.c)

While a trial image runs, the application reports its health once per audio
block. 3000 healthy reports in a row, no two of them at the same millisecond or
more than 20 ms apart, make a soak; a soak that took less than 29990 ms is thrown
away as a whole and the count starts over.

`confirmed_iff`: a healthy trial is confirmed at the first report with 3000
reports made and 30 s passed exactly when its first 3000 reports span at least
29990 ms. `fast_blocks_never_confirm`: reports 9 ms apart miss it.
-/

namespace OpenRef.Boot

/-- `OPENREF_RT595_CONFIRMATION_SAMPLE_MS`. -/
def confirmationSampleMs : U32 := 10
/-- `OPENREF_RT595_CONFIRMATION_SOAK_MS`. -/
def confirmationSoakMs : U32 := 30000
/-- `OPENREF_RT595_CONFIRMATION_SOAK_SAMPLES`. -/
def confirmationSoakSamples : U32 := confirmationSoakMs / confirmationSampleMs
/-- `OPENREF_RT595_CONFIRMATION_MAX_SAMPLE_GAP_MS`. -/
def confirmationMaxSampleGapMs : U32 := 20

/-- `openref_rt595_app_health_t`. -/
structure AppHealth where
  clocksOk : Bool
  storageOk : Bool
  watchdogOk : Bool
  audioOk : Bool
  peerOk : Bool
  faultFree : Bool
deriving DecidableEq, Repr

/-- `openref_rt595_confirmation_status_t`. -/
inductive ConfirmationStatus
  | inactive | soaking | confirmed | persistFailed
deriving DecidableEq, Repr

/-- `openref_rt595_app_confirmation_t`; the boot state it points to is passed beside it. -/
structure AppConfirmation where
  slots : BootSlots
  healthySamples : U32
  firstSampleMs : U32
  lastSampleMs : U32
  persistenceFailures : U32
  runningSlot : U8
  sampleTimeValid : Bool
  status : ConfirmationStatus
deriving DecidableEq, Repr

/-- `all_healthy` (:7-11). -/
def allHealthy (h : AppHealth) : Bool :=
  h.clocksOk && h.storageOk && h.watchdogOk && h.audioOk && h.peerOk && h.faultFree

/-- `trial_still_matches` (:13-21). -/
def trialStillMatches (b : Rt595BootState) (running : U8) : Bool :=
  b.loaded && decide (b.state.pendingSlot = running) && decide (0 < b.state.pendingAttempts) &&
    decide (b.state.confirmedSlot ≠ running)

namespace AppConfirmation

/-- The state `memset` leaves, inactive. -/
def zero : AppConfirmation :=
  ⟨⟨⟨false, false, 0⟩, ⟨false, false, 0⟩⟩, 0, 0, 0, 0, 0, false, .inactive⟩

/-- `openref_rt595_app_confirmation_init` (:23-43). -/
def init (b : Rt595BootState) (running : U8) (slots : BootSlots) : AppConfirmation × Bool :=
  if !slotIdValid running then (zero, false)
  else
    let s := { zero with runningSlot := running, slots := slots }
    if !(slots.get running).present || !(slots.get running).authenticated ||
        !trialStillMatches b running then (s, false)
    else ({ s with status := .soaking }, true)

/-- `openref_rt595_app_confirmation_fault` (:45-52). -/
def fault (s : AppConfirmation) : AppConfirmation :=
  if s.status = .confirmed then s
  else { s with
    healthySamples := 0
    sampleTimeValid := false
    status := if s.status ≠ .inactive then .soaking else s.status }

/-- The time checks of a healthy report (:70-79): a bad gap, or the supervisor with the report's time. -/
def sampleTime (s : AppConfirmation) (monotonicMs : U32) : Option AppConfirmation :=
  if s.sampleTimeValid then
    let gapMs := monotonicMs - s.lastSampleMs
    if gapMs = 0 || decide (confirmationMaxSampleGapMs < gapMs) then none
    else some { s with lastSampleMs := monotonicMs }
  else some { s with
    firstSampleMs := monotonicMs
    sampleTimeValid := true
    lastSampleMs := monotonicMs }

/-- `++s->healthy_samples` below the soak's length (:82-83). -/
def countSample (s : AppConfirmation) : AppConfirmation :=
  { s with
    status := .soaking
    healthySamples :=
      if s.healthySamples < confirmationSoakSamples then s.healthySamples + 1 else s.healthySamples }

variable {κ : Type}

/-- `openref_rt595_app_confirmation_observe` (:54-101). -/
def observe (be : ConfigBackend κ) (k : κ) (b : Rt595BootState) (s : AppConfirmation) (health : AppHealth)
    (monotonicMs : U32) : κ × Rt595BootState × AppConfirmation × Bool :=
  if s.status = .inactive then (k, b, s, false)
  else if s.status = .confirmed then (k, b, s, true)
  else if !trialStillMatches b s.runningSlot then
    (k, b, { s with healthySamples := 0, status := .inactive }, false)
  else if !allHealthy health then (k, b, s.fault, false)
  else
    match s.sampleTime monotonicMs with
    | none => (k, b, s.fault, false)
    | some s =>
      let s := s.countSample
      if s.healthySamples < confirmationSoakSamples then (k, b, s, false)
      else if monotonicMs - s.firstSampleMs < confirmationSoakMs - confirmationSampleMs then
        (k, b, s.fault, false)
      else
        let r := b.confirm be k s.runningSlot s.slots
        if !r.2.2 then
          (r.1, r.2.1, { s with
            healthySamples := 0
            persistenceFailures := incrementSaturating s.persistenceFailures
            status := .persistFailed }, false)
        else (r.1, r.2.1, { s with status := .confirmed }, true)

/-! ## One healthy report -/

/-- Every health input true. -/
def healthy : AppHealth := ⟨true, true, true, true, true, true⟩

/-- A healthy report to a supervisor at work whose trial still stands. -/
theorem observe_working (be : ConfigBackend κ) (k : κ) {b : Rt595BootState} {s : AppConfirmation}
    (hi : s.status ≠ .inactive) (hc : s.status ≠ .confirmed) (hm : trialStillMatches b s.runningSlot = true)
    (ms : U32) :
    s.observe be k b healthy ms =
      match s.sampleTime ms with
      | none => (k, b, s.fault, false)
      | some s =>
        if s.countSample.healthySamples < confirmationSoakSamples then (k, b, s.countSample, false)
        else if ms - s.firstSampleMs < confirmationSoakMs - confirmationSampleMs then
          (k, b, s.countSample.fault, false)
        else
          let r := b.confirm be k s.runningSlot s.slots
          if !r.2.2 then
            (r.1, r.2.1, { s.countSample with
              healthySamples := 0
              persistenceFailures := incrementSaturating s.persistenceFailures
              status := .persistFailed }, false)
          else (r.1, r.2.1, { s.countSample with status := .confirmed }, true) := by
  have hh : allHealthy healthy = true := rfl
  unfold observe
  rw [if_neg hi, if_neg hc, hm, hh]
  simp only [Bool.not_true, Bool.false_eq_true, if_false]
  rfl

theorem soaking_at_work {s : AppConfirmation} (hs : s.status = .soaking) :
    s.status ≠ .inactive ∧ s.status ≠ .confirmed := by
  rw [hs]
  decide

theorem fault_of_soaking {s : AppConfirmation} (hs : s.status = .soaking) :
    s.fault = { s with healthySamples := 0, sampleTimeValid := false } := by
  obtain ⟨slots, n, f, l, p, r, v, status⟩ := s
  simp only at hs
  subst hs
  rfl

/-! ## A run of healthy reports -/

section Run

variable (be : ConfigBackend κ) (k : κ) (b : Rt595BootState) (s₀ : AppConfirmation) (t : Nat → Nat)

/-- Everything before report `i` of a run of healthy reports, report `j` made at true time `t j` ms. -/
def reported : Nat → κ × Rt595BootState × AppConfirmation
  | 0 => (k, b, s₀)
  | i + 1 =>
    let w := reported i
    let r := w.2.2.observe be w.1 w.2.1 healthy (Clock.reading 32 (t i))
    (r.1, r.2.1, r.2.2.1)

/-- What report `i` returns. -/
def observed (i : Nat) : Bool :=
  let w := reported be k b s₀ t i
  (w.2.2.observe be w.1 w.2.1 healthy (Clock.reading 32 (t i))).2.2.2

/-- The supervisor after the first `i` reports of a soak. -/
def soak (i : Nat) : AppConfirmation :=
  { s₀ with
    healthySamples := BitVec.ofNat 32 i
    firstSampleMs := if i = 0 then s₀.firstSampleMs else Clock.reading 32 (t 0)
    lastSampleMs := if i = 0 then s₀.lastSampleMs else Clock.reading 32 (t (i - 1))
    sampleTimeValid := decide (i ≠ 0) }

variable {be k b s₀ t}

theorem reported_succ (i : Nat) : reported be k b s₀ t (i + 1) =
    let w := reported be k b s₀ t i
    let r := w.2.2.observe be w.1 w.2.1 healthy (Clock.reading 32 (t i))
    (r.1, r.2.1, r.2.2.1) := rfl

theorem soak_zero (hn : s₀.healthySamples = 0) (hv : s₀.sampleTimeValid = false) : soak s₀ t 0 = s₀ := by
  obtain ⟨slots, n, f, l, p, r, v, status⟩ := s₀
  simp only at hn hv
  subst hn hv
  rfl

/-- Each report is 1 to 20 ms after the one before. -/
def Gapped (t : Nat → Nat) : Prop := ∀ i, t i + 1 ≤ t (i + 1) ∧ t (i + 1) ≤ t i + 20

/-- The gap of two reports of the run is admissible. -/
theorem gap_admissible (hgap : Gapped t) (j : Nat) :
    ¬ (Clock.reading 32 (t (j + 1)) - Clock.reading 32 (t j) = 0 ∨
      confirmationMaxSampleGapMs < Clock.reading 32 (t (j + 1)) - Clock.reading 32 (t j)) := by
  have hsub := Clock.toNat_sub_reading (w := 32) (a := t j) (b := t (j + 1))
    (by have := hgap j; omega) (by have := hgap j; omega)
  have h20 : confirmationMaxSampleGapMs.toNat = 20 := by decide
  rintro (h | h)
  · rw [h] at hsub
    have := hgap j
    simp at hsub; omega
  · rw [BitVec.lt_def, hsub] at h
    have := hgap j
    omega

/-- Report `i` of a soak has an admissible gap and is counted. -/
theorem soak_sample (hs : s₀.status = .soaking) (hgap : Gapped t)
    {i : Nat} (hi : i < 3000) :
    ∃ s, (soak s₀ t i).sampleTime (Clock.reading 32 (t i)) = some s ∧ s.countSample = soak s₀ t (i + 1) ∧
      s.firstSampleMs = Clock.reading 32 (t 0) ∧ s.runningSlot = s₀.runningSlot ∧ s.slots = s₀.slots := by
  have hcount : ((BitVec.ofNat 32 i : U32) < confirmationSoakSamples) := by
    have h1 : confirmationSoakSamples.toNat = 3000 := by decide
    rw [BitVec.lt_def, h1, BitVec.toNat_ofNat, Nat.mod_eq_of_lt (by omega)]
    exact hi
  have hsucc : (BitVec.ofNat 32 i : U32) + 1 = BitVec.ofNat 32 (i + 1) := (BitVec.ofNat_add ..).symm
  cases i with
  | zero =>
    refine ⟨_, rfl, ?_, rfl, rfl, rfl⟩
    simp only [countSample, soak, hcount, if_true, hsucc, hs]
    simp
  | succ j =>
    have hok := gap_admissible hgap j
    refine ⟨{ soak s₀ t (j + 1) with lastSampleMs := Clock.reading 32 (t (j + 1)) }, ?_, ?_, rfl, rfl, rfl⟩
    · simp only [sampleTime, soak]
      simpa using hok
    · simp only [countSample, soak, hcount, if_true, hsucc, hs]
      simp

/-- What `init` accepts is soaking, has counted nothing and stands for a trial. -/
structure Fresh (b : Rt595BootState) (s : AppConfirmation) : Prop where
  soaking : s.status = .soaking
  uncounted : s.healthySamples = 0
  untimed : s.sampleTimeValid = false
  matching : trialStillMatches b s.runningSlot = true

theorem init_fresh {running : U8} {slots : BootSlots} (h : (init b running slots).2 = true) :
    Fresh b (init b running slots).1 ∧ (init b running slots).1.runningSlot = running ∧
      (init b running slots).1.slots = slots := by
  unfold init at h ⊢
  split at h
  · cases h
  · rename_i hv
    rw [if_neg hv]
    dsimp only at h ⊢
    split at h
    · cases h
    · rename_i hm
      rw [if_neg hm]
      simp only [Bool.or_eq_true, Bool.not_eq_true', not_or, Bool.not_eq_false] at hm
      exact ⟨⟨rfl, rfl, rfl, hm.2⟩, rfl, rfl⟩

theorem gapped_add (hgap : Gapped t) (i : Nat) : ∀ d, t i + d ≤ t (i + d) ∧ t (i + d) ≤ t i + 20 * d
  | 0 => by simp
  | d + 1 => by
    have := gapped_add hgap i d
    have := hgap (i + d)
    have : t (i + (d + 1)) = t (i + d + 1) := rfl
    omega

theorem ofNat_lt_soakSamples {i : Nat} (hi : i < 2 ^ 32) :
    (BitVec.ofNat 32 i : U32) < confirmationSoakSamples ↔ i < 3000 := by
  have h1 : confirmationSoakSamples.toNat = 3000 := by decide
  rw [BitVec.lt_def, h1, BitVec.toNat_ofNat, Nat.mod_eq_of_lt hi]

/-- Before the 3000th report the soak only counts. -/
theorem observe_soak (hf : Fresh b s₀) (hgap : Gapped t) {i : Nat} (hi : i < 2999) :
    (soak s₀ t i).observe be k b healthy (Clock.reading 32 (t i)) = (k, b, soak s₀ t (i + 1), false) := by
  obtain ⟨s, hs, hc, -⟩ := soak_sample hf.soaking hgap (i := i) (by omega)
  have hlt : s.countSample.healthySamples < confirmationSoakSamples := by
    rw [hc]; exact (ofNat_lt_soakSamples (by omega)).2 (by omega)
  obtain ⟨hactive, hopen⟩ := soaking_at_work (s := soak s₀ t i) hf.soaking
  rw [observe_working be k hactive hopen hf.matching, hs]
  dsimp only
  rw [if_pos hlt, hc]

theorem reported_soak (hf : Fresh b s₀) (hgap : Gapped t) : ∀ i, i ≤ 2999 →
    reported be k b s₀ t i = (k, b, soak s₀ t i)
  | 0, _ => by rw [soak_zero hf.uncounted hf.untimed]; rfl
  | i + 1, hi => by
    rw [reported_succ, reported_soak hf hgap i (by omega)]
    simp only [observe_soak hf hgap (show i < 2999 by omega)]

theorem not_observed_soak (hf : Fresh b s₀) (hgap : Gapped t) {i : Nat} (hi : i < 2999) :
    observed be k b s₀ t i = false := by
  rw [observed, reported_soak hf hgap i (by omega)]
  simp only [observe_soak hf hgap hi]

/-- The span check on true times. -/
theorem span_lt_iff {u v : Nat} (h : u ≤ v) (hlt : v < u + 2 ^ 32) :
    Clock.reading 32 v - Clock.reading 32 u < confirmationSoakMs - confirmationSampleMs ↔ v < u + 29990 := by
  have h1 : (confirmationSoakMs - confirmationSampleMs).toNat = 29990 := by decide
  rw [BitVec.lt_def, h1, Clock.toNat_sub_reading h hlt]
  omega

/-- The 3000th report of a soak that took long enough confirms the trial. -/
theorem observed_soaked (hf : Fresh b s₀) (hgap : Gapped t)
    (hpersist : (b.confirm be k s₀.runningSlot s₀.slots).2.2 = true) (hspan : t 0 + 29990 ≤ t 2999) :
    observed be k b s₀ t 2999 = true := by
  obtain ⟨s, hs, hc, hfirst, hrun, hslots⟩ := soak_sample hf.soaking hgap (i := 2999) (by omega)
  have hadd := gapped_add hgap 0 2999
  rw [Nat.zero_add] at hadd
  have hfull : ¬ s.countSample.healthySamples < confirmationSoakSamples := by
    rw [hc]
    exact fun h => absurd ((ofNat_lt_soakSamples (by omega)).1 h) (by omega)
  have hlong : ¬ Clock.reading 32 (t 2999) - s.firstSampleMs < confirmationSoakMs - confirmationSampleMs := by
    rw [hfirst, span_lt_iff (by omega) (by omega)]; omega
  rw [observed, reported_soak hf hgap 2999 (Nat.le_refl _)]
  simp only
  obtain ⟨hactive, hopen⟩ := soaking_at_work (s := soak s₀ t 2999) hf.soaking
  rw [observe_working be k hactive hopen hf.matching, hs]
  simp only [if_neg hfull, if_neg hlong, hrun, hslots, hpersist, Bool.not_true, Bool.false_eq_true, if_false]

/-- A supervisor that has thrown a soak away and counts a new one, begun no earlier than report
`j₀`. -/
structure Restarted (k : κ) (b : Rt595BootState) (s₀ : AppConfirmation) (t : Nat → Nat) (j₀ i : Nat)
    (w : κ × Rt595BootState × AppConfirmation) : Prop where
  medium : w.1 = k
  state : w.2.1 = b
  soaking : w.2.2.status = .soaking
  running : w.2.2.runningSlot = s₀.runningSlot
  slots : w.2.2.slots = s₀.slots
  first : w.2.2.sampleTimeValid = true → ∃ j, j₀ ≤ j ∧ j < i ∧ w.2.2.firstSampleMs = Clock.reading 32 (t j)

/-- The report that completes 3000 too soon throws the soak away. -/
theorem restarted_soak (hf : Fresh b s₀) (hgap : Gapped t) {n : Nat} (hn : n = 2999)
    (hspan : t n < t 0 + 29990) :
    observed be k b s₀ t n = false ∧ Restarted k b s₀ t (n + 1) (n + 1) (reported be k b s₀ t (n + 1)) := by
  obtain ⟨s, hs, hc, hfirst, -⟩ := soak_sample hf.soaking hgap (i := n) (by omega)
  have hadd := gapped_add hgap 0 n
  rw [Nat.zero_add] at hadd
  have hfull : ¬ s.countSample.healthySamples < confirmationSoakSamples := by
    rw [hc]
    exact fun h => absurd ((ofNat_lt_soakSamples (by omega)).1 h) (by omega)
  have hshort : Clock.reading 32 (t n) - s.firstSampleMs < confirmationSoakMs - confirmationSampleMs := by
    rw [hfirst, span_lt_iff (by omega) (by omega)]; omega
  have hobs : (soak s₀ t n).observe be k b healthy (Clock.reading 32 (t n)) =
      (k, b, (soak s₀ t (n + 1)).fault, false) := by
    obtain ⟨hactive, hopen⟩ := soaking_at_work (s := soak s₀ t n) hf.soaking
    rw [observe_working be k hactive hopen hf.matching, hs]
    dsimp only
    rw [if_neg hfull, if_pos hshort, hc]
  rw [observed, reported_succ, reported_soak hf hgap n (by omega)]
  simp only [hobs, true_and]
  rw [fault_of_soaking (s := soak s₀ t (n + 1)) hf.soaking]
  exact ⟨rfl, rfl, hf.soaking, rfl, rfl, fun h => by cases h⟩

/-- **Step.** A restarted soak is not confirmed while less than 29990 ms have passed since it can
have begun. -/
theorem restarted_step (hm : trialStillMatches b s₀.runningSlot = true) (hgap : Gapped t) {j₀ i : Nat}
    (hr : Restarted k b s₀ t j₀ i (reported be k b s₀ t i)) (hj : j₀ ≤ i) (hshort : t i < t j₀ + 29990) :
    observed be k b s₀ t i = false ∧ Restarted k b s₀ t j₀ (i + 1) (reported be k b s₀ t (i + 1)) := by
  obtain ⟨hk, hb, hs, hrun, hslots, hfirst⟩ := hr
  rw [observed, reported_succ]
  generalize reported be k b s₀ t i = w at *
  obtain ⟨k', b', s⟩ := w
  simp only at hk hb hs hrun hslots hfirst ⊢
  subst hk hb
  obtain ⟨hactive, hopen⟩ := soaking_at_work hs
  rw [observe_working be k' hactive hopen (by rw [hrun]; exact hm)]
  cases hsample : s.sampleTime (Clock.reading 32 (t i)) with
  | none =>
    simp only
    rw [fault_of_soaking hs]
    exact ⟨trivial, rfl, rfl, hs, hrun, hslots, fun h => by cases h⟩
  | some s' =>
    -- the soak that is running began at some report between `j₀` and now
    obtain ⟨j, hj0, hji, hfirst', hrun', hslots'⟩ : ∃ j, j₀ ≤ j ∧ j ≤ i ∧
        s'.firstSampleMs = Clock.reading 32 (t j) ∧ s'.runningSlot = s.runningSlot ∧ s'.slots = s.slots := by
      unfold sampleTime at hsample
      split at hsample
      · rename_i hv
        dsimp only at hsample
        split at hsample
        · cases hsample
        · obtain ⟨j, h1, h2, h3⟩ := hfirst hv
          cases hsample
          exact ⟨j, h1, by omega, h3, rfl, rfl⟩
      · cases hsample
        exact ⟨i, hj, Nat.le_refl _, rfl, rfl, rfl⟩
    have hadd := gapped_add hgap j (i - j)
    have hadd' := gapped_add hgap j₀ (j - j₀)
    rw [Nat.add_sub_cancel' hji] at hadd
    rw [Nat.add_sub_cancel' hj0] at hadd'
    have hspan : Clock.reading 32 (t i) - s'.firstSampleMs < confirmationSoakMs - confirmationSampleMs := by
      rw [hfirst', span_lt_iff (by omega) (by omega)]; omega
    simp only
    by_cases hlt : s'.countSample.healthySamples < confirmationSoakSamples
    · rw [if_pos hlt]
      exact ⟨rfl, rfl, rfl, rfl, hrun'.trans hrun, hslots'.trans hslots,
        fun _ => ⟨j, hj0, by omega, hfirst'⟩⟩
    · rw [if_neg hlt, if_pos hspan, fault_of_soaking rfl]
      exact ⟨rfl, rfl, rfl, rfl, hrun'.trans hrun, hslots'.trans hslots, fun h => by cases h⟩

/-- No later report confirms while less than 29990 ms have passed since report 3000. -/
theorem not_observed_restarted (hf : Fresh b s₀) (hgap : Gapped t) (hspan : t 2999 < t 0 + 29990) :
    ∀ d, t (3000 + d) < t 3000 + 29990 →
      Restarted k b s₀ t 3000 (3000 + d) (reported be k b s₀ t (3000 + d)) ∧
        observed be k b s₀ t (3000 + d) = false
  | 0, hd =>
    have hr : Restarted k b s₀ t 3000 3000 (reported be k b s₀ t 3000) := (restarted_soak hf hgap rfl hspan).2
    ⟨hr, (restarted_step hf.matching hgap hr (Nat.le_refl _) hd).1⟩
  | d + 1, hd => by
    have hd' : t (3000 + d) < t 3000 + 29990 := by
      have := hgap (3000 + d)
      rw [← Nat.add_assoc] at hd
      omega
    have ih := (not_observed_restarted hf hgap hspan d hd').1
    have hr := (restarted_step hf.matching hgap ih (by omega) hd').2
    exact ⟨hr, (restarted_step hf.matching hgap hr (by omega) hd).1⟩

/-- The first report by which both 3000 reports have been made and 30 s have passed since report 0. -/
def Deadline (t : Nat → Nat) (n : Nat) : Prop :=
  (2999 ≤ n ∧ t 0 + 30000 ≤ t n) ∧ ∀ i, i < n → ¬ (2999 ≤ i ∧ t 0 + 30000 ≤ t i)

/-- Reports that come too fast do not confirm by the deadline. -/
theorem not_observed_by_deadline (hf : Fresh b s₀) (hgap : Gapped t) {n : Nat} (hn : Deadline t n)
    (hspan : t 2999 < t 0 + 29990) : ∀ i, i ≤ n → observed be k b s₀ t i = false := by
  intro i hi
  rcases Nat.lt_trichotomy i 2999 with h | rfl | h
  · exact not_observed_soak hf hgap h
  · exact (restarted_soak hf hgap rfl hspan).1
  · have hstart := gapped_add hgap 0 3000
    have hin := gapped_add hgap i (n - i)
    rw [Nat.zero_add] at hstart
    rw [Nat.add_sub_cancel' hi] at hin
    -- the deadline comes before 30020 ms have passed, the new soak began after 3000
    have hlast : t n < t 0 + 30020 := by
      obtain ⟨⟨h1, -⟩, h2⟩ := hn
      have hprev := h2 (n - 1) (by omega)
      have := hgap (n - 1)
      rw [Nat.sub_add_cancel (by omega)] at this
      omega
    have : observed be k b s₀ t (3000 + (i - 3000)) = false := (not_observed_restarted hf hgap hspan (i - 3000)
      (by rw [Nat.add_sub_cancel' (by omega)]; omega)).2
    rwa [Nat.add_sub_cancel' (by omega)] at this

end Run

variable {κ : Type}

/-- **A healthy trial is confirmed by the deadline exactly when its first 3000 reports span at least
29990 ms.** -/
theorem confirmed_iff (be : ConfigBackend κ) (k : κ) (b : Rt595BootState) (running : U8) (slots : BootSlots)
    (t : Nat → Nat) (n : Nat) (haccept : (init b running slots).2 = true)
    (hpersist : (b.confirm be k running slots).2.2 = true) (hgap : Gapped t) (hn : Deadline t n) :
    (∃ i, i ≤ n ∧ observed be k b (init b running slots).1 t i = true) ↔ t 0 + 29990 ≤ t 2999 := by
  obtain ⟨hf, hrun, hslots⟩ := init_fresh haccept
  constructor
  · rintro ⟨i, hi, ho⟩
    by_contra hspan
    rw [not_observed_by_deadline hf hgap hn (by omega) i hi] at ho
    cases ho
  · intro hspan
    exact ⟨2999, hn.1.1, observed_soaked hf hgap (by rw [hrun, hslots]; exact hpersist) hspan⟩

/-! ## A trial on erased flash -/

/-- Slots with images 10 and 11. -/
def trialSlots : BootSlots := ⟨⟨true, true, 10⟩, ⟨true, true, 11⟩⟩

/-- Slot A confirmed, slot B in its first trial attempt. -/
def trialState : Rt595BootState := ⟨⟨bootStateSchema, 3, 0, 0, 0, true⟩, ⟨1, 10, slotA, slotB, 1⟩, true⟩

def trialMedium : Medium :=
  ⟨Bytes.filled _ 0xff, Bytes.filled _ 0xff, [], []⟩

/-- The rule at reports exactly 10 ms apart. -/
theorem confirmed_every_10ms :
    ∃ i, i ≤ 3000 ∧ observed Medium.backend trialMedium trialState (init trialState slotB trialSlots).1
      (fun i => 10 * i) i = true :=
  (confirmed_iff Medium.backend trialMedium trialState slotB trialSlots (fun i => 10 * i) 3000 (by decide)
    (by decide +kernel) (fun i => ⟨by dsimp only; omega, by dsimp only; omega⟩)
    ⟨by decide, fun i hi => by dsimp only; omega⟩).2 (by decide)

/-- Reports 9 ms apart are not confirmed by the deadline, which is report 3334. -/
theorem fast_blocks_never_confirm :
    ¬ ∀ (m : Medium) (b : Rt595BootState) (running : U8) (slots : BootSlots) (t : Nat → Nat) (n : Nat),
      (init b running slots).2 = true → (b.confirm Medium.backend m running slots).2.2 = true →
      Gapped t → Deadline t n →
      ∃ i, i ≤ n ∧ observed Medium.backend m b (init b running slots).1 t i = true := by
  intro h
  have hgap : Gapped fun i => 9 * i := fun i => ⟨by dsimp only; omega, by dsimp only; omega⟩
  have hn : Deadline (fun i => 9 * i) 3334 := ⟨by decide, fun i hi => by dsimp only; omega⟩
  have haccept : (init trialState slotB trialSlots).2 = true := by decide
  obtain ⟨i, hi, ho⟩ := h trialMedium trialState slotB trialSlots (fun i => 9 * i) 3334 haccept
    (by decide +kernel) hgap hn
  rw [not_observed_by_deadline (init_fresh haccept).1 hgap hn (by decide) i hi] at ho
  cases ho

end AppConfirmation

end OpenRef.Boot
