import Mathlib.Data.List.Chain
import OpenRef.Boot.Confirmation
import OpenRef.Boot.DurableState
/-!
# What a confirmation rests on

Health reports and faults arrive in any order, at any timestamps, over a medium whose
reads and writes may fail. A fault, a bad report and a bad gap clear the soak: count,
start time and continuity. A confirmation that cannot be saved clears the count only
(openref_rt595_app_confirmation.c:92-95), so that the next soak is timed from the
start of the one before it.

`confirmation_rests_on_soak`: in every run in which no healthy report continues after
a failed save, the report that confirms ends 3000 healthy reports, none of them more
than 20 ms after the one before, that span at least 29990 ms.
`confirmed_after_short_soak`: one failed save, then 3000 reports in 3 s.
-/

namespace OpenRef.Boot

/-- A supervised trial: the medium, the boot state on it and the supervisor. -/
structure Trial where
  medium : Medium
  boot : Rt595BootState
  supervisor : AppConfirmation

/-- A health report and its time. -/
abbrev HealthReport := AppHealth × U32

/-- A call of the supervisor. -/
inductive TrialCall
  | observe (health : AppHealth) (monotonicMs : U32)
  | fault

/-- The call that makes a report. -/
def TrialCall.report (r : HealthReport) : TrialCall := .observe r.1 r.2

/-- The gap between two reports of one soak. -/
def SoakGap (before now : U32) : Prop := now - before ≠ 0 ∧ now - before ≤ confirmationMaxSampleGapMs

/-- Healthy reports with admissible gaps. -/
structure Continuous (soak : List HealthReport) : Prop where
  healthy : ∀ r ∈ soak, allHealthy r.1 = true
  gaps : soak.IsChain fun a b => SoakGap a.2 b.2

/-- From the first report of a soak to its last, in ms. -/
def soakSpan (soak : List HealthReport) : U32 :=
  match soak.head?, soak.getLast? with
  | some first, some last => last.2 - first.2
  | _, _ => 0

namespace Trial

/-- One call. -/
def step (w : Trial) : TrialCall → Trial
  | .observe health ms =>
    let r := w.supervisor.observe Medium.backend w.medium w.boot health ms
    ⟨r.1, r.2.1, r.2.2.1⟩
  | .fault => { w with supervisor := w.supervisor.fault }

/-- What the call returns. -/
def answer (w : Trial) : TrialCall → Bool
  | .observe health ms => (w.supervisor.observe Medium.backend w.medium w.boot health ms).2.2.2
  | .fault => false

/-- A healthy report that continues, in time, the soak whose confirmation could not be saved. -/
def Resumes (w : Trial) : TrialCall → Prop
  | .observe health ms =>
    w.supervisor.status = .persistFailed ∧ allHealthy health = true ∧ SoakGap w.supervisor.lastSampleMs ms
  | .fault => False

end Trial

/-- The reports since the supervisor last had nothing counted are `soak`, and no attempt to persist
the confirmation failed among them. -/
structure SoakOf (start : Trial) (past : List TrialCall) (soak : List HealthReport) : Prop where
  continuous : Continuous soak
  suffix : ∃ earlier, past = earlier ++ soak.map TrialCall.report ∧
    (earlier.foldl Trial.step start).supervisor.healthySamples = 0 ∧
    Run.Along Trial.step (fun w call => (w.step call).supervisor.status ≠ .persistFailed)
      (earlier.foldl Trial.step start) (soak.map TrialCall.report)

/-- What a confirmation rests on: a full soak, the pending record and the saved one. -/
structure FullSoak (start : Trial) (calls : List TrialCall) (last : HealthReport) : Prop where
  soak : ∃ soak, SoakOf start (calls ++ [TrialCall.report last]) soak ∧ soak.length = 3000 ∧
    (confirmationSoakMs - confirmationSampleMs) ≤ soakSpan soak
  pending :
    let w := calls.foldl Trial.step start
    (durableState w.boot w.medium).pendingSlot = start.supervisor.runningSlot ∧
      0 < (durableState w.boot w.medium).pendingAttempts ∧
      (durableState w.boot w.medium).confirmedSlot ≠ start.supervisor.runningSlot
  saved :
    let w := (calls ++ [TrialCall.report last]).foldl Trial.step start
    ∃ payload, reload bootStateSchema w.medium = some payload ∧
      (decodeFields payload).confirmedSlot = start.supervisor.runningSlot ∧
      (decodeFields payload).pendingSlot = noSlot ∧ (decodeFields payload).pendingAttempts = 0

namespace AppConfirmation

variable {κ : Type}

/-! ## One report -/

/-- A supervisor that has thrown its soak away. -/
structure Cleared (s s' : AppConfirmation) : Prop where
  uncounted : s'.healthySamples = 0
  untimed : s'.sampleTimeValid = false
  soaking : s'.status = .soaking
  running : s'.runningSlot = s.runningSlot
  slots : s'.slots = s.slots

/-- A report counted in: `s` before it, `s'` after it. -/
structure Counted (s s' : AppConfirmation) (health : AppHealth) (ms : U32) : Prop where
  healthy : allHealthy health = true
  count : s'.healthySamples =
    if s.healthySamples < confirmationSoakSamples then s.healthySamples + 1 else s.healthySamples
  timed : s'.sampleTimeValid = true
  last : s'.lastSampleMs = ms
  first : s'.firstSampleMs = if s.sampleTimeValid then s.firstSampleMs else ms
  gap : s.sampleTimeValid = true → SoakGap s.lastSampleMs ms
  soaking : s'.status = .soaking
  running : s'.runningSlot = s.runningSlot
  slots : s'.slots = s.slots

/-- Everything a report can do. -/
inductive Observed (be : ConfigBackend κ) (k : κ) (b : Rt595BootState) (s : AppConfirmation)
    (health : AppHealth) (ms : U32) : κ × Rt595BootState × AppConfirmation × Bool → Prop
  | inactive : s.status = .inactive → Observed be k b s health ms (k, b, s, false)
  | already : s.status = .confirmed → Observed be k b s health ms (k, b, s, true)
  | lost : trialStillMatches b s.runningSlot = false →
      Observed be k b s health ms (k, b, { s with healthySamples := 0, status := .inactive }, false)
  | cleared (s' : AppConfirmation) : Cleared s s' → Observed be k b s health ms (k, b, s', false)
  | counted (s' : AppConfirmation) : s.status ≠ .inactive → s.status ≠ .confirmed → Counted s s' health ms →
      s'.healthySamples < confirmationSoakSamples → Observed be k b s health ms (k, b, s', false)
  | persistFailed (s' : AppConfirmation) : s.status ≠ .inactive → s.status ≠ .confirmed →
      Counted s s' health ms → (b.confirm be k s'.runningSlot s'.slots).2.2 = false →
      Observed be k b s health ms
        ((b.confirm be k s'.runningSlot s'.slots).1, (b.confirm be k s'.runningSlot s'.slots).2.1,
          { s' with
            healthySamples := 0
            persistenceFailures := incrementSaturating s'.persistenceFailures
            status := .persistFailed }, false)
  | confirmed (s' : AppConfirmation) : s.status ≠ .inactive → s.status ≠ .confirmed →
      trialStillMatches b s.runningSlot = true → Counted s s' health ms →
      ¬ s'.healthySamples < confirmationSoakSamples →
      ¬ ms - s'.firstSampleMs < confirmationSoakMs - confirmationSampleMs →
      (b.confirm be k s'.runningSlot s'.slots).2.2 = true →
      Observed be k b s health ms
        ((b.confirm be k s'.runningSlot s'.slots).1, (b.confirm be k s'.runningSlot s'.slots).2.1,
          { s' with status := .confirmed }, true)

theorem cleared_fault {s : AppConfirmation} (hi : s.status ≠ .inactive) (hc : s.status ≠ .confirmed) :
    Cleared s s.fault := by
  rw [fault, if_neg hc, if_pos hi]
  exact ⟨rfl, rfl, rfl, rfl, rfl⟩

/-- A report whose time is admitted is counted. -/
theorem counted_of_sampleTime {s s₁ : AppConfirmation} {health : AppHealth} {ms : U32}
    (hh : allHealthy health = true) (h : s.sampleTime ms = some s₁) : Counted s s₁.countSample health ms := by
  unfold sampleTime at h
  cases hv : s.sampleTimeValid with
  | true =>
    rw [if_pos hv] at h
    dsimp only at h
    split at h
    · cases h
    next hgap =>
      cases h
      simp only [Bool.or_eq_true, decide_eq_true_eq, not_or, BitVec.not_lt] at hgap
      exact ⟨hh, rfl, hv, rfl, (if_pos hv).symm, fun _ => hgap, rfl, rfl, rfl⟩
  | false =>
    rw [if_neg (by simp [hv])] at h
    cases h
    have hnone : s.sampleTimeValid = true → SoakGap s.lastSampleMs ms := fun hv' => by
      rw [hv] at hv'
      cases hv'
    exact ⟨hh, rfl, rfl, rfl, by simp [hv, countSample], hnone, rfl, rfl, rfl⟩

/-- **A report does one of the seven things.** -/
theorem observe_observed (be : ConfigBackend κ) (k : κ) (b : Rt595BootState) (s : AppConfirmation)
    (health : AppHealth) (ms : U32) : Observed be k b s health ms (s.observe be k b health ms) := by
  unfold observe
  by_cases hi : s.status = .inactive
  · rw [if_pos hi]
    exact .inactive hi
  rw [if_neg hi]
  by_cases hc : s.status = .confirmed
  · rw [if_pos hc]
    exact .already hc
  rw [if_neg hc]
  cases hm : trialStillMatches b s.runningSlot with
  | false => exact .lost hm
  | true =>
    cases hh : allHealthy health with
    | false => exact .cleared _ (cleared_fault hi hc)
    | true =>
      simp only [Bool.not_true, Bool.false_eq_true, if_false]
      cases hs : s.sampleTime ms with
      | none => exact .cleared _ (cleared_fault hi hc)
      | some s₁ =>
        have hcount := counted_of_sampleTime hh hs
        dsimp only
        generalize s₁.countSample = s' at hcount ⊢
        by_cases hlt : s'.healthySamples < confirmationSoakSamples
        · rw [if_pos hlt]
          exact .counted s' hi hc hcount hlt
        rw [if_neg hlt]
        by_cases hshort : ms - s'.firstSampleMs < confirmationSoakMs - confirmationSampleMs
        · rw [if_pos hshort]
          have hclear := cleared_fault (s := s') (by rw [hcount.soaking]; decide) (by rw [hcount.soaking]; decide)
          exact .cleared _ ⟨hclear.uncounted, hclear.untimed, hclear.soaking,
            hclear.running.trans hcount.running, hclear.slots.trans hcount.slots⟩
        rw [if_neg hshort]
        cases hr : (b.confirm be k s'.runningSlot s'.slots).2.2 with
        | false => exact .persistFailed s' hi hc hcount hr
        | true => exact .confirmed s' hi hc hm hcount hlt hshort hr

end AppConfirmation

/-! ## The soak so far -/

open AppConfirmation

/-- What the supervisor remembers of the soak. -/
structure Tally (soak : List HealthReport) (s : AppConfirmation) : Prop where
  count : s.healthySamples.toNat = soak.length
  short : soak.length < 3000
  timed : s.sampleTimeValid = true ↔ soak ≠ []
  first : ∀ r, soak.head? = some r → s.firstSampleMs = r.2
  last : ∀ r, soak.getLast? = some r → s.lastSampleMs = r.2

theorem tally_nil {s s' : AppConfirmation} (h : Cleared s s') : Tally [] s' where
  count := by rw [h.uncounted]; rfl
  short := by decide
  timed := by simp [h.untimed]
  first := nofun
  last := nofun

/-- A cleared supervisor begins a soak. -/
theorem soakOf_nil {start : Trial} {past : List TrialCall} {s : AppConfirmation}
    (h : Cleared s (past.foldl Trial.step start).supervisor) : SoakOf start past [] where
  continuous := ⟨nofun, .nil⟩
  suffix := ⟨past, (List.append_nil past).symm, h.uncounted, trivial⟩

theorem soakSamples_toNat : confirmationSoakSamples.toNat = 3000 := by decide

section Counting

variable {soak : List HealthReport} {s s' : AppConfirmation} {health : AppHealth} {ms : U32}

/-- The count after a report that joins a soak. -/
theorem count_extended (ht : Tally soak s) (hc : Counted s s' health ms) :
    s'.healthySamples.toNat = soak.length + 1 := by
  have hlt : s.healthySamples < confirmationSoakSamples := by
    rw [BitVec.lt_def, soakSamples_toNat, ht.count]
    exact ht.short
  rw [hc.count, if_pos hlt, BitVec.toNat_add, ht.count]
  exact Nat.mod_eq_of_lt (by have := ht.short; simp; omega)

/-- The start of the soak that the report joins. -/
theorem first_extended (ht : Tally soak s) (hc : Counted s s' health ms) (r : HealthReport)
    (hr : (soak ++ [(health, ms)]).head? = some r) : s'.firstSampleMs = r.2 := by
  rw [hc.first]
  cases soak with
  | nil =>
    have hv : ¬ s.sampleTimeValid = true := fun hv => ht.timed.1 hv rfl
    rw [if_neg hv]
    cases hr
    rfl
  | cons a as =>
    rw [if_pos (ht.timed.2 (List.cons_ne_nil a as))]
    exact ht.first r hr

theorem span_extended (ht : Tally soak s) (hc : Counted s s' health ms) :
    soakSpan (soak ++ [(health, ms)]) = ms - s'.firstSampleMs := by
  unfold soakSpan
  cases hhead : (soak ++ [(health, ms)]).head? with
  | none => simp at hhead
  | some r => simp [first_extended ht hc r hhead]

theorem tally_extended (ht : Tally soak s) (hc : Counted s s' health ms)
    (hlt : s'.healthySamples < confirmationSoakSamples) : Tally (soak ++ [(health, ms)]) s' where
  count := by rw [count_extended ht hc, List.length_append]; rfl
  short := by
    rw [BitVec.lt_def, soakSamples_toNat, count_extended ht hc] at hlt
    simpa using hlt
  timed := by simp [hc.timed]
  first := first_extended ht hc
  last r hr := by
    rw [List.getLast?_concat] at hr
    cases hr
    exact hc.last

/-- A counted report joins the soak. -/
theorem soakOf_extended {start : Trial} {past : List TrialCall} {w : Trial} (hw : past.foldl Trial.step start = w)
    (hs : SoakOf start past soak) (ht : Tally soak w.supervisor) (hc : Counted w.supervisor s' health ms)
    (hnext : (w.step (.observe health ms)).supervisor.status ≠ .persistFailed) :
    SoakOf start (past ++ [TrialCall.report (health, ms)]) (soak ++ [(health, ms)]) := by
  obtain ⟨hcont, earlier, hpast, hzero, halong⟩ := hs
  refine ⟨⟨?_, ?_⟩, earlier, ?_, hzero, ?_⟩
  · intro r hr
    rcases List.mem_append.1 hr with hr | hr
    · exact hcont.healthy r hr
    · rw [List.mem_singleton.1 hr]
      exact hc.healthy
  · refine List.isChain_append.2 ⟨hcont.gaps, List.isChain_singleton _, fun a ha b hb => ?_⟩
    cases hb
    have hne : soak ≠ [] := by
      rintro rfl
      cases ha
    have hgap := hc.gap (ht.timed.2 hne)
    rwa [ht.last a ha] at hgap
  · rw [hpast, List.map_append, List.append_assoc]
    rfl
  · rw [List.map_append, Run.along_append]
    refine ⟨halong, ?_, trivial⟩
    rw [← List.foldl_append, ← hpast, hw]
    exact hnext

end Counting

/-! ## Every run -/

/-- What holds after every run without a confirmation in which no report resumes a failed soak. -/
structure Progress (start : Trial) (past : List TrialCall) (w : Trial) : Prop where
  reached : past.foldl Trial.step start = w
  sync : InSync w.boot w.medium
  running : w.supervisor.runningSlot = start.supervisor.runningSlot
  unconfirmed : w.supervisor.status ≠ .confirmed
  timed : w.supervisor.status = .persistFailed → w.supervisor.sampleTimeValid = true
  soaking : w.supervisor.status = .soaking → ∃ soak, SoakOf start past soak ∧ Tally soak w.supervisor

theorem foldl_step_concat {start w : Trial} {past : List TrialCall} (h : past.foldl Trial.step start = w)
    (call : TrialCall) : (past ++ [call]).foldl Trial.step start = w.step call := by
  rw [List.foldl_append, h]
  rfl

/-- A report that is counted while nothing resumes a failed soak finds the supervisor soaking. -/
theorem soaking_of_counted {start w : Trial} {past : List TrialCall} {s' : AppConfirmation}
    {health : AppHealth} {ms : U32} (hp : Progress start past w) (hi : w.supervisor.status ≠ .inactive)
    (hc : Counted w.supervisor s' health ms) (hn : ¬ w.Resumes (.observe health ms)) :
    w.supervisor.status = .soaking := by
  cases hst : w.supervisor.status with
  | inactive => exact absurd hst hi
  | confirmed => exact absurd hst hp.unconfirmed
  | persistFailed => exact absurd ⟨hst, hc.healthy, hc.gap (hp.timed hst)⟩ hn
  | soaking => rfl

theorem progress_step {start : Trial} (past : List TrialCall) (w : Trial) (call : TrialCall)
    (hp : Progress start past w) (hc : ¬ w.Resumes call ∧ w.answer call = false) :
    Progress start (past ++ [call]) (w.step call) := by
  have hreached := foldl_step_concat hp.reached call
  cases call with
  | fault =>
    by_cases hi : w.supervisor.status = .inactive
    · have hstep : (w.step .fault).supervisor.status = .inactive := by
        simp [Trial.step, AppConfirmation.fault, hi]
      refine ⟨hreached, hp.sync, ?_, by rw [hstep]; decide, by rw [hstep]; nofun, by rw [hstep]; nofun⟩
      rw [← hp.running]
      simp [Trial.step, AppConfirmation.fault, hi]
    · have hclear : Cleared w.supervisor (w.step .fault).supervisor := cleared_fault hi hp.unconfirmed
      refine ⟨hreached, hp.sync, hclear.running.trans hp.running, by rw [hclear.soaking]; decide,
        by rw [hclear.soaking]; nofun, fun _ => ⟨[], ?_, tally_nil hclear⟩⟩
      exact soakOf_nil (by rw [hreached]; exact hclear)
  | observe health ms =>
    obtain ⟨hres, hans⟩ := hc
    have ho := observe_observed Medium.backend w.medium w.boot w.supervisor health ms
    simp only [Trial.answer] at hans
    simp only [Trial.step] at hreached ⊢
    generalize w.supervisor.observe Medium.backend w.medium w.boot health ms = r at ho hans hreached ⊢
    cases ho with
    | inactive hi => exact ⟨hreached, hp.sync, hp.running, hp.unconfirmed, hp.timed, by rw [hi]; nofun⟩
    | already hc => exact absurd hc hp.unconfirmed
    | lost hm => exact ⟨hreached, hp.sync, hp.running, nofun, nofun, nofun⟩
    | cleared s' hclear =>
      refine ⟨hreached, hp.sync, hclear.running.trans hp.running, ?_, ?_, fun _ => ⟨[], ?_, tally_nil hclear⟩⟩
      · rw [hclear.soaking]; decide
      · rw [hclear.soaking]; nofun
      · exact soakOf_nil (by rw [hreached]; exact hclear)
    | counted s' hi hnc hcount hlt =>
      have hs := soaking_of_counted hp hi hcount hres
      obtain ⟨soak, hsoak, htally⟩ := hp.soaking hs
      refine ⟨hreached, hp.sync, hcount.running.trans hp.running, ?_, ?_,
        fun _ => ⟨soak ++ [(health, ms)], ?_, tally_extended htally hcount hlt⟩⟩
      · rw [hcount.soaking]; decide
      · rw [hcount.soaking]; nofun
      · refine soakOf_extended hp.reached hsoak htally hcount ?_
        have hstep := foldl_step_concat hp.reached (.observe health ms)
        rw [← hstep, hreached]
        simp only
        rw [hcount.soaking]
        decide
    | persistFailed s' hi hnc hcount hfail =>
      refine ⟨hreached, ?_, hcount.running.trans hp.running, nofun, fun _ => hcount.timed, nofun⟩
      unfold Rt595BootState.confirm
      split
      · exact hp.sync
      · exact inSync_commit hp.sync _
    | confirmed => cases hans

theorem progress_start {b : Rt595BootState} {m : Medium} (hb : Booted b m) {running : U8} {slots : BootSlots}
    (hi : (init b running slots).2 = true) :
    Progress ⟨m, b, (init b running slots).1⟩ [] ⟨m, b, (init b running slots).1⟩ := by
  obtain ⟨hf, -⟩ := init_fresh hi
  refine ⟨rfl, booted_inSync hb, rfl, by rw [hf.soaking]; decide, by rw [hf.soaking]; nofun, fun _ => ⟨[], ?_, ?_⟩⟩
  · exact ⟨⟨nofun, .nil⟩, [], rfl, hf.uncounted, trivial⟩
  · refine ⟨by rw [hf.uncounted]; rfl, by decide, ?_, nofun, nofun⟩
    rw [hf.untimed]
    simp

/-- The report that confirms. -/
theorem fullSoak_of_progress {start w : Trial} {past : List TrialCall} {last : HealthReport}
    (hp : Progress start past w) (hn : ¬ w.Resumes (.report last)) (ha : w.answer (.report last) = true) :
    FullSoak start past last := by
  obtain ⟨health, ms⟩ := last
  have hreached := foldl_step_concat hp.reached (.observe health ms)
  have ho := observe_observed Medium.backend w.medium w.boot w.supervisor health ms
  simp only [TrialCall.report, Trial.answer] at ha
  generalize hr : w.supervisor.observe Medium.backend w.medium w.boot health ms = r at ho ha
  have hstep : w.step (.observe health ms) = ⟨r.1, r.2.1, r.2.2.1⟩ := by rw [← hr]; rfl
  cases ho with
  | inactive | lost | cleared | counted | persistFailed => cases ha
  | already hc => exact absurd hc hp.unconfirmed
  | confirmed s' hi hnc hm hcount hfull hlong hsave =>
    have hs := soaking_of_counted hp hi hcount hn
    obtain ⟨soak, hsoak, htally⟩ := hp.soaking hs
    have hlen := count_extended htally hcount
    rw [BitVec.lt_def, soakSamples_toNat, hlen] at hfull
    rw [hcount.running] at hsave hstep
    refine ⟨⟨soak ++ [(health, ms)], ?_, ?_, ?_⟩, ?_, ?_⟩
    · refine soakOf_extended hp.reached hsoak htally hcount ?_
      rw [hstep]
      nofun
    · have := htally.short
      rw [List.length_append]
      simp only [List.length_singleton]
      omega
    · rw [span_extended htally hcount]
      exact BitVec.not_lt.1 hlong
    · simp only [trialStillMatches, Bool.and_eq_true, decide_eq_true_eq] at hm
      dsimp only
      rw [hp.reached, hp.sync.record, ← hp.running]
      exact ⟨hm.1.1.2, hm.1.2, hm.2⟩
    · obtain ⟨state, hstate, hreload⟩ := reload_confirm hp.sync hsave
      obtain ⟨-, -, -, -, -, hconfirmed, hnone, hattempts⟩ := confirm_some hstate
      have hdecode : decodeFields ((encodeState state).live bootStateSchema) = state :=
        decodeFields_encodeState state
      refine ⟨(encodeState state).live bootStateSchema, ?_, ?_⟩
      · dsimp only [TrialCall.report]
        rw [hreached, hstep, hreload]
      · rw [hdecode, ← hp.running]
        exact ⟨hconfirmed, hnone, hattempts⟩

/-- **Main result.** In every run over every medium in which no healthy report resumes the soak of a
confirmation that could not be saved: when a report is answered with true for the first time, it ends 3000
healthy reports in a row, made since the latest fault and the latest failed save, with admissible gaps and at
least 29990 ms from the first to the last; the durable record named the running slot as pending; and the
confirmed record is the one the next load finds. -/
theorem confirmation_rests_on_soak {b : Rt595BootState} {m : Medium} (hb : Booted b m) {running : U8}
    {slots : BootSlots} (hi : (init b running slots).2 = true) (calls : List TrialCall) (last : HealthReport)
    (hresume : Run.Along Trial.step (fun w call => ¬ w.Resumes call) ⟨m, b, (init b running slots).1⟩
      (calls ++ [TrialCall.report last]))
    (hearlier : Run.Along Trial.step (fun w call => w.answer call = false) ⟨m, b, (init b running slots).1⟩ calls)
    (hlast : (calls.foldl Trial.step ⟨m, b, (init b running slots).1⟩).answer (.report last) = true) :
    FullSoak ⟨m, b, (init b running slots).1⟩ calls last := by
  obtain ⟨hcalls, hend, -⟩ := Run.along_append.1 hresume
  have hp := Run.inv_past progress_step [] _ calls (progress_start hb hi) (Run.along_and.2 ⟨hcalls, hearlier⟩)
  exact fullSoak_of_progress hp hend hlast

/-! ## The soak after a failed save -/

namespace AppConfirmation

/-- Healthy reports at the times given. -/
def reports (t : Nat → Nat) (n : Nat) : List TrialCall :=
  (List.range n).map fun i => .report (healthy, Clock.reading 32 (t i))

/-- The supervisor `j` reports after the save that failed: the start of the failed soak is still its start. -/
def carried (s : AppConfirmation) (t : Nat → Nat) (j : Nat) : AppConfirmation :=
  { s with
    healthySamples := BitVec.ofNat 32 j
    lastSampleMs := Clock.reading 32 (t (2999 + j))
    status := if j = 0 then .persistFailed else .soaking }

/-- The trial after `n` reports. -/
def trialAt (m : Medium) (b : Rt595BootState) (s : AppConfirmation) (t : Nat → Nat) (n : Nat) : Trial :=
  ⟨(reported Medium.backend m b s t n).1, (reported Medium.backend m b s t n).2.1,
    (reported Medium.backend m b s t n).2.2⟩

section Carried

variable {m : Medium} {b : Rt595BootState} {s : AppConfirmation} {t : Nat → Nat}

theorem foldl_reports (n : Nat) : (reports t n).foldl Trial.step ⟨m, b, s⟩ = trialAt m b s t n := by
  induction n with
  | zero => rfl
  | succ n ih =>
    rw [reports, List.range_succ, List.map_append, List.foldl_append, ← reports, ih]
    rfl

theorem answer_reports (n : Nat) : ((reports t n).foldl Trial.step ⟨m, b, s⟩).answer
    (.report (healthy, Clock.reading 32 (t n))) = observed Medium.backend m b s t n := by
  rw [foldl_reports]
  rfl

/-- The reports of a run are told apart by their times. -/
theorem soakSpan_reports {earlier : List TrialCall} {soak : List HealthReport} {n k : Nat}
    (h : reports t (n + k + 1) = earlier ++ soak.map TrialCall.report) (hk : soak.length = k + 1) :
    soakSpan soak = Clock.reading 32 (t (n + k)) - Clock.reading 32 (t n) := by
  have hlen : earlier.length = n := by
    have hl := congrArg List.length h
    simp only [reports, List.length_map, List.length_range, List.length_append, hk] at hl
    omega
  have hat (i : Nat) (hi : i < k + 1) : (soak.map Prod.snd)[i]? = some (Clock.reading 32 (t (n + i))) := by
    have hg := congrArg (fun l => l[n + i]?) h
    simp only [reports, List.getElem?_map] at hg
    rw [List.getElem?_range (by omega), List.getElem?_append_right (by omega), hlen, Nat.add_sub_cancel_left,
      List.getElem?_map] at hg
    rw [List.getElem?_map]
    cases hs : soak[i]? with
    | none =>
      rw [hs] at hg
      cases hg
    | some r =>
      rw [hs] at hg
      have hr := Option.some.inj hg
      injection hr with _ hms
      rw [Option.map_some, ← hms]
  have hfirst := hat 0 (by omega)
  have hlast := hat k (by omega)
  unfold soakSpan
  rw [List.head?_eq_getElem?, List.getLast?_eq_getElem?, hk]
  simp only [List.getElem?_map, Option.map_eq_some_iff] at hfirst hlast
  obtain ⟨a, ha, hta⟩ := hfirst
  obtain ⟨z, hz, htz⟩ := hlast
  rw [ha, Nat.add_sub_cancel, hz]
  dsimp only
  rw [hta, htz, Nat.add_zero]

/-- A condition met by every report is met along the run of the reports. -/
theorem along_reports {C : Trial → TrialCall → Prop} : ∀ n,
    (∀ i, i < n → C (trialAt m b s t i) (.report (healthy, Clock.reading 32 (t i)))) →
    Run.Along Trial.step C ⟨m, b, s⟩ (reports t n)
  | 0, _ => trivial
  | n + 1, h => by
    rw [reports, List.range_succ, List.map_append, Run.along_append, ← reports, foldl_reports]
    exact ⟨along_reports n fun i hi => h i (by omega), h n (Nat.lt_succ_self n), trivial⟩

/-- Nothing resumes a failed save while the first soak goes on. -/
theorem not_resumes_soak (hf : Fresh b s) (hgap : Gapped t) {i : Nat} (hi : i ≤ 2999) (r : HealthReport) :
    ¬ (trialAt m b s t i).Resumes (.report r) := by
  rw [trialAt, reported_soak hf hgap i hi]
  intro hres
  have hfailed : s.status = .persistFailed := hres.1
  rw [hf.soaking] at hfailed
  cases hfailed

theorem carried_working (s : AppConfirmation) (t : Nat → Nat) (j : Nat) :
    (carried s t j).status ≠ .inactive ∧ (carried s t j).status ≠ .confirmed := by
  unfold carried
  dsimp only
  split <;> exact ⟨nofun, nofun⟩

theorem sample_carried (hv : s.sampleTimeValid = true) (hgap : Gapped t) {j : Nat} (hj : j < 3000) :
    ∃ s₁, (carried s t j).sampleTime (Clock.reading 32 (t (2999 + j + 1))) = some s₁ ∧
      s₁.countSample = carried s t (j + 1) ∧ s₁.firstSampleMs = s.firstSampleMs ∧
      s₁.runningSlot = s.runningSlot ∧ s₁.slots = s.slots := by
  have hok := gap_admissible hgap (2999 + j)
  have hcount := (ofNat_lt_soakSamples (i := j) (by omega)).2 hj
  have hsucc : (BitVec.ofNat 32 j : U32) + 1 = BitVec.ofNat 32 (j + 1) := (BitVec.ofNat_add ..).symm
  refine ⟨{ carried s t j with lastSampleMs := Clock.reading 32 (t (2999 + j + 1)) }, ?_, ?_, rfl, rfl, rfl⟩
  · simp only [sampleTime, carried, hv, if_true]
    simpa using hok
  · simp only [countSample, carried, hcount, if_true, hsucc, Nat.add_one_ne_zero, if_false]
    rfl

/-- A report counted in before the 3000th one. -/
theorem observe_carried (hv : s.sampleTimeValid = true) (hm : trialStillMatches b s.runningSlot = true)
    (hgap : Gapped t) {j : Nat} (hj : j < 2999) :
    (carried s t j).observe Medium.backend m b healthy (Clock.reading 32 (t (2999 + j + 1))) =
      (m, b, carried s t (j + 1), false) := by
  obtain ⟨s₁, hs, hc, -⟩ := sample_carried hv hgap (j := j) (by omega)
  have hlt : s₁.countSample.healthySamples < confirmationSoakSamples := by
    rw [hc]
    exact (ofNat_lt_soakSamples (i := j + 1) (by omega)).2 (by omega)
  obtain ⟨hi, hnc⟩ := carried_working s t j
  rw [observe_working Medium.backend m hi hnc hm, hs]
  dsimp only
  rw [if_pos hlt, hc]

/-- The 3000th report after the failed save is timed from the start of the failed soak. -/
theorem observe_carried_last (hv : s.sampleTimeValid = true) (hm : trialStillMatches b s.runningSlot = true)
    (hgap : Gapped t) {u : Nat} (hfirst : s.firstSampleMs = Clock.reading 32 u) (hu : u + 29990 ≤ t 5999)
    (hwrap : t 5999 < u + 2 ^ 32) (hsave : (b.confirm Medium.backend m s.runningSlot s.slots).2.2 = true) :
    ((carried s t 2999).observe Medium.backend m b healthy (Clock.reading 32 (t 5999))).2.2.2 = true := by
  obtain ⟨s₁, hs, hc, hf, hr, hsl⟩ := sample_carried hv hgap (j := 2999) (by omega)
  have hfull : ¬ s₁.countSample.healthySamples < confirmationSoakSamples := by
    rw [hc]
    exact fun h => absurd ((ofNat_lt_soakSamples (i := 2999 + 1) (by omega)).1 h) (by omega)
  have hlong : ¬ Clock.reading 32 (t 5999) - s₁.firstSampleMs < confirmationSoakMs - confirmationSampleMs := by
    rw [hf, hfirst, span_lt_iff (by omega) (by omega)]
    omega
  have hs : (carried s t 2999).sampleTime (Clock.reading 32 (t 5999)) = some s₁ := hs
  obtain ⟨hi, hnc⟩ := carried_working s t 2999
  rw [observe_working Medium.backend m hi hnc hm, hs]
  simp only [if_neg hfull, if_neg hlong, hr, hsl, hsave, Bool.not_true, Bool.false_eq_true, if_false]

end Carried

section FailedSave

variable {m : Medium} {b : Rt595BootState} {s : AppConfirmation} {t : Nat → Nat}

/-- The report that completes the first soak finds that its confirmation cannot be saved. -/
theorem reported_failed (hf : Fresh b s) (hgap : Gapped t) (hspan : t 0 + 29990 ≤ t 2999)
    (hfail : (b.confirm Medium.backend m s.runningSlot s.slots).2.2 = false) {n : Nat} (hn : n = 2999) :
    observed Medium.backend m b s t n = false ∧
      ∃ s₁, reported Medium.backend m b s t (n + 1) = ((b.confirm Medium.backend m s.runningSlot s.slots).1,
          (b.confirm Medium.backend m s.runningSlot s.slots).2.1, carried s₁ t 0) ∧
        s₁.sampleTimeValid = true ∧ s₁.firstSampleMs = Clock.reading 32 (t 0) ∧
        s₁.runningSlot = s.runningSlot ∧ s₁.slots = s.slots := by
  obtain ⟨s₁, hs, hc, hfirst, hrun, hslots⟩ := soak_sample hf.soaking hgap (i := n) (by omega)
  have hadd := gapped_add hgap 0 n
  rw [Nat.zero_add] at hadd
  have hfull : ¬ (soak s t (n + 1)).healthySamples < confirmationSoakSamples :=
    fun h => absurd ((ofNat_lt_soakSamples (by omega)).1 h) (by omega)
  have hlong : ¬ Clock.reading 32 (t n) - s₁.firstSampleMs < confirmationSoakMs - confirmationSampleMs := by
    rw [hfirst, span_lt_iff (by omega) (by rw [hn] at hadd ⊢; omega), hn]
    omega
  obtain ⟨hactive, hopen⟩ := soaking_at_work (s := soak s t n) hf.soaking
  have hobs := observe_working Medium.backend m hactive hopen hf.matching (Clock.reading 32 (t n))
  rw [hs] at hobs
  simp only [hc, if_neg hfull, if_neg hlong, hrun, hslots, hfail, Bool.not_false, if_true] at hobs
  rw [observed, reported_succ, reported_soak hf hgap n (by omega)]
  simp only [hobs, true_and]
  refine ⟨{ soak s t (n + 1) with
    healthySamples := 0
    persistenceFailures := incrementSaturating s₁.persistenceFailures
    status := .persistFailed }, ?_, rfl, rfl, rfl, rfl⟩
  rw [hn]
  rfl

/-- Everything after the failed save, up to the report that confirms. -/
theorem reported_carried {k : Medium} {c : Rt595BootState} {s₁ : AppConfirmation}
    (hstart : reported Medium.backend m b s t 3000 = (k, c, carried s₁ t 0)) (hv : s₁.sampleTimeValid = true)
    (hm : trialStillMatches c s₁.runningSlot = true) (hgap : Gapped t) :
    ∀ j, j ≤ 2999 → reported Medium.backend m b s t (2999 + j + 1) = (k, c, carried s₁ t j)
  | 0, _ => hstart
  | j + 1, hj => by
    have ih := reported_carried hstart hv hm hgap j (by omega)
    rw [← Nat.add_assoc, reported_succ, ih]
    simp only [observe_carried hv hm hgap (show j < 2999 by omega)]

/-- No report before the 6000th returns true. -/
theorem not_observed_carried {k : Medium} {c : Rt595BootState} {s₁ : AppConfirmation}
    (hstart : reported Medium.backend m b s t 3000 = (k, c, carried s₁ t 0)) (hv : s₁.sampleTimeValid = true)
    (hm : trialStillMatches c s₁.runningSlot = true) (hgap : Gapped t) {j : Nat} (hj : j < 2999) :
    observed Medium.backend m b s t (2999 + j + 1) = false := by
  rw [observed, reported_carried hstart hv hm hgap j (by omega)]
  simp only [observe_carried hv hm hgap hj]

/-- **A soak after a failed save is timed from the start of the failed one**: it is confirmed at its
3000th report, however fast its reports came. -/
theorem observed_after_failed_save (hf : Fresh b s) (hgap : Gapped t) (hspan : t 0 + 29990 ≤ t 2999)
    (hfail : (b.confirm Medium.backend m s.runningSlot s.slots).2.2 = false)
    (hm : trialStillMatches (b.confirm Medium.backend m s.runningSlot s.slots).2.1 s.runningSlot = true)
    (hretry : ((b.confirm Medium.backend m s.runningSlot s.slots).2.1.confirm Medium.backend
      (b.confirm Medium.backend m s.runningSlot s.slots).1 s.runningSlot s.slots).2.2 = true) :
    (∀ i, i < 5999 → observed Medium.backend m b s t i = false) ∧
      observed Medium.backend m b s t 5999 = true := by
  obtain ⟨hfailed, s₁, hstart, hv, hfirst, hrun, hslots⟩ := reported_failed hf hgap hspan hfail rfl
  have hm : trialStillMatches (b.confirm Medium.backend m s.runningSlot s.slots).2.1 s₁.runningSlot = true := by
    rw [hrun]
    exact hm
  have hadd := gapped_add hgap 0 5999
  have hmono : t 2999 + 3000 ≤ t 5999 ∧ t 5999 ≤ t 2999 + 20 * 3000 := gapped_add hgap 2999 3000
  rw [Nat.zero_add] at hadd
  constructor
  · intro i hi
    rcases Nat.lt_trichotomy i 2999 with h | h | h
    · exact not_observed_soak hf hgap h
    · rw [h]
      exact hfailed
    · have hat := not_observed_carried hstart hv hm hgap (j := i - 3000) (by omega)
      have hindex : 2999 + (i - 3000) + 1 = i := by omega
      rwa [hindex] at hat
  · have hcarried := reported_carried hstart hv hm hgap 2999 (Nat.le_refl _)
    have hcarried : reported Medium.backend m b s t 5999 = (_, _, carried s₁ t 2999) := hcarried
    rw [observed, hcarried]
    refine observe_carried_last hv hm hgap hfirst (by omega) (by omega) ?_
    rw [hrun, hslots]
    exact hretry

end FailedSave

/-! ## A trial on a medium whose first write may fail -/

/-- The record of a trial of slot B in its first attempt. -/
def trialRecord : Record := encodeRecord bootStateSchema 1 (encodeState ⟨1, 10, slotA, slotB, 1⟩)

/-- The record of the trial, with the next writes as given. -/
def trialOn (writes : List WriteOutcome) : Medium := ⟨trialRecord, erasedRecord, [], writes⟩

/-- The boot state loaded from it. -/
def trialBoot (writes : List WriteOutcome) : Rt595BootState :=
  (Rt595BootState.init.load Medium.backend (trialOn writes)).2.1

theorem booted_trial (writes : List WriteOutcome)
    (hok : (Rt595BootState.init.load Medium.backend (trialOn writes)).2.2 = true)
    (hm : (Rt595BootState.init.load Medium.backend (trialOn writes)).1 = trialOn writes) :
    Booted (trialBoot writes) (trialOn writes) := by
  have hload := Booted.load (trialOn writes) hok
  rwa [hm] at hload

/-- The first 3000 reports every 10 ms, the others every millisecond. -/
def hurriedTimes (i : Nat) : Nat := if i ≤ 2999 then 10 * i else 26991 + i

theorem hurriedTimes_gapped : Gapped hurriedTimes := by
  intro i
  unfold hurriedTimes
  split <;> split <;> omega

end AppConfirmation

open AppConfirmation in
/-- The rule at 3000 reports 10 ms apart over a medium that does not fail. -/
theorem confirmed_by_full_soak :
    FullSoak ⟨trialOn [], trialBoot [], (init (trialBoot []) slotB trialSlots).1⟩
      (reports (fun i => 10 * i) 2999) (healthy, Clock.reading 32 (10 * 2999)) := by
  have hinit : (init (trialBoot []) slotB trialSlots).2 = true := by decide +kernel
  obtain ⟨hf, hrun, hslots⟩ := init_fresh hinit
  have hgap : Gapped fun i => 10 * i := fun i => ⟨by dsimp only; omega, by dsimp only; omega⟩
  have hsave : ((trialBoot []).confirm Medium.backend (trialOn [])
      (init (trialBoot []) slotB trialSlots).1.runningSlot (init (trialBoot []) slotB trialSlots).1.slots).2.2 =
        true := by
    rw [hrun, hslots]
    decide +kernel
  have hlast := observed_soaked hf hgap hsave (by decide)
  generalize hn : 2999 = n at hlast ⊢
  refine confirmation_rests_on_soak (booted_trial [] (by decide +kernel) (by decide +kernel)) hinit _ _ ?_
    (along_reports n fun i hi => not_observed_soak hf hgap (by omega)) ((answer_reports n).trans hlast)
  have hall : Run.Along Trial.step (fun w call => ¬ w.Resumes call) ⟨trialOn [], trialBoot [], _⟩
      (reports (fun i => 10 * i) (n + 1)) :=
    along_reports (n + 1) fun i hi => not_resumes_soak hf hgap (by omega) _
  rwa [reports, List.range_succ, List.map_append] at hall

open AppConfirmation in
/-- **A short soak after a failed save confirms the trial**: 3000 reports in 30 s, a save that fails, and
3000 more reports in 3 s. -/
theorem confirmed_after_short_soak :
    ¬ ∀ (b : Rt595BootState) (m : Medium) (running : U8) (slots : BootSlots) (calls : List TrialCall)
      (last : HealthReport), Booted b m → (init b running slots).2 = true →
      Run.Along Trial.step (fun w call => w.answer call = false) ⟨m, b, (init b running slots).1⟩ calls →
      (calls.foldl Trial.step ⟨m, b, (init b running slots).1⟩).answer (.report last) = true →
      FullSoak ⟨m, b, (init b running slots).1⟩ calls last := by
  intro h
  have hboot := booted_trial [⟨erasedRecord, false⟩] (by decide +kernel) (by decide +kernel)
  have hinit : (init (trialBoot [⟨erasedRecord, false⟩]) slotB trialSlots).2 = true := by decide +kernel
  obtain ⟨hf, hrun, hslots⟩ := init_fresh hinit
  have hall := observed_after_failed_save (m := trialOn [⟨erasedRecord, false⟩]) hf hurriedTimes_gapped
    (by decide) (by rw [hrun, hslots]; decide +kernel) (by rw [hrun, hslots]; decide +kernel)
    (by rw [hrun, hslots]; decide +kernel)
  -- the number of reports stays a variable: the run is not to be computed
  generalize hn : 5999 = n at hall
  obtain ⟨hquiet, htrue⟩ := hall
  have hfull := h _ _ slotB trialSlots _ _ hboot hinit (along_reports n hquiet) ((answer_reports n).trans htrue)
  obtain ⟨soak, ⟨-, earlier, hcalls, -⟩, hlen, hspan⟩ := hfull.soak
  have hreports : reports hurriedTimes (3000 + 2999 + 1) = earlier ++ soak.map TrialCall.report := by
    rw [← hcalls, ← hn, reports, reports, List.range_succ, List.map_append]
    rfl
  rw [soakSpan_reports hreports hlen] at hspan
  revert hspan
  decide

end OpenRef.Boot
