import OpenRef.Watchdog.Gate
import OpenRef.Lib.Run
import OpenRef.Lib.Serial
/-!
# The watchdog driver (openref_watchdog_driver.c)

The driver puts a hardware watchdog behind the gate: a tick feeds it when the gate
allows, and the first feed that the backend refuses latches a fault for good.

`fed_only_fresh`: reports and evaluations come in any order, through the driver or
straight at its gate, with any task index and any time below 2^63. An evaluation
allows a feed only when each required task reported since the last one that did,
no longer ago than its timeout. A time that lies ahead of the evaluation makes the
unsigned age so large that it counts as late.
-/

namespace OpenRef.Watchdog

variable {κ : Type}

/-- `openref_watchdog_backend_t` over a hardware state `κ`. -/
structure WatchdogBackend (κ : Type) where
  configure : κ → U32 → κ × Bool
  feed : κ → κ × Bool

/-- `openref_watchdog_driver_t`, the backend left out. -/
structure WatchdogDriver where
  gate : WatchdogGate
  hardwareTimeoutMs : U32
  hardwareFeedCount : U32
  withheldCount : U32
  backendFailureCount : U32
  faultLatched : Bool
  initialized : Bool

/-- The gate that `memset` leaves. -/
def WatchdogGate.zero : WatchdogGate := ⟨⟨0, 0, fun _ => 0⟩, 0, 0, fun _ => 0, 0, 0, 0, 0, 0, 0, false⟩

/-- A driver and its hardware. -/
structure Driven (κ : Type) where
  hardware : κ
  driver : WatchdogDriver

namespace Driven

/-- `openref_watchdog_driver_init` (:6-30), over whatever the driver's memory holds. -/
def init (be : WatchdogBackend κ) (w : Driven κ) (gateConfig : WatchdogGateConfig) (hardwareTimeoutMs : U32)
    (nowMs : U64) : Driven κ × Bool :=
  if hardwareTimeoutMs = 0 then (w, false)
  else
    match WatchdogGate.init gateConfig nowMs with
    | none => (⟨w.hardware, ⟨WatchdogGate.zero, hardwareTimeoutMs, 0, 0, 0, false, false⟩⟩, false)
    | some gate =>
      let r := be.configure w.hardware hardwareTimeoutMs
      if !r.2 then (⟨r.1, ⟨gate, hardwareTimeoutMs, 0, 0, 1, true, false⟩⟩, false)
      else (⟨r.1, ⟨gate, hardwareTimeoutMs, 0, 0, 0, false, true⟩⟩, true)

/-- `openref_watchdog_driver_report` (:32-41). -/
def report (w : Driven κ) (taskIndex : U8) (nowMs : U64) : Driven κ × Bool :=
  if !w.driver.initialized || w.driver.faultLatched then (w, false)
  else
    let r := w.driver.gate.report taskIndex nowMs
    ({ w with driver := { w.driver with gate := r.1 } }, r.2)

/-- `openref_watchdog_driver_tick` (:43-61). -/
def tick (be : WatchdogBackend κ) (w : Driven κ) (nowMs : U64) : Driven κ × Bool :=
  if !w.driver.initialized || w.driver.faultLatched then (w, false)
  else
    let r := w.driver.gate.shouldFeed nowMs
    let d := { w.driver with gate := r.1 }
    if !r.2 then (⟨w.hardware, { d with withheldCount := d.withheldCount + 1 }⟩, false)
    else
      let fed := be.feed w.hardware
      if !fed.2 then
        (⟨fed.1, { d with backendFailureCount := d.backendFailureCount + 1, faultLatched := true }⟩, false)
      else (⟨fed.1, { d with hardwareFeedCount := d.hardwareFeedCount + 1 }⟩, true)

end Driven

/-! ## Task masks -/

theorem inMask_eq (mask : U8) (task : Fin maxTasks) : inMask mask task = mask.getLsbD task.val := by
  have hbit (i : Nat) : (mask &&& taskBit task).getLsbD i = (decide (i = task.val) && mask.getLsbD i) := by
    have ht := task.isLt
    have hone (j : Nat) : (1 : U8).getLsbD j = decide (j = 0) := BitVec.getLsbD_one
    rw [BitVec.getLsbD_and, taskBit, BitVec.getLsbD_shiftLeft, hone]
    by_cases hi : i = task.val
    · subst hi
      simp [ht]
    · by_cases hle : task.val ≤ i
      · have : i - task.val ≠ 0 := by omega
        simp [hi, this]
      · have : i < task.val := by omega
        simp [hi, this]
  unfold inMask
  cases hm : mask.getLsbD task.val with
  | true =>
    rw [decide_eq_true_iff]
    intro h
    have := hbit task.val
    rw [h, hm] at this
    simp at this
  | false =>
    rw [decide_eq_false_iff_not, not_not]
    refine BitVec.eq_of_getLsbD_eq fun i _ => ?_
    rw [hbit]
    by_cases hi : i = task.val
    · rw [hi, hm]
      simp
    · simp [hi]

theorem inMask_zero (task : Fin maxTasks) : inMask 0 task = false := by simp [inMask_eq]

theorem inMask_or_taskBit (mask : U8) (task t : Fin maxTasks) :
    inMask (mask ||| taskBit task) t = (inMask mask t || decide (t = task)) := by
  have hself : inMask (taskBit task) t = decide (t = task) := by revert task t; decide
  rw [inMask_eq, BitVec.getLsbD_or, ← inMask_eq, ← inMask_eq, hself]

/-- The tasks of one mask that are not in another. -/
theorem inMask_and_not (mask other : U8) (task : Fin maxTasks) :
    inMask (mask &&& ~~~other) task = (inMask mask task && !inMask other task) := by
  have ht := task.isLt
  rw [inMask_eq, inMask_eq, inMask_eq, BitVec.getLsbD_and, BitVec.getLsbD_not]
  simp [ht]

/-- A mask that covers another has its tasks. -/
theorem inMask_of_and_eq {mask other : U8} (h : mask &&& other = other) {task : Fin maxTasks}
    (ho : inMask other task = true) : inMask mask task = true := by
  rw [inMask_eq] at ho ⊢
  rw [← h, BitVec.getLsbD_and, Bool.and_eq_true] at ho
  exact ho.1

/-! ## What the gate does -/

namespace WatchdogGate

/-- A report is refused and counted, or it is the task's latest progress. -/
inductive Reported (g : WatchdogGate) (taskIndex : U8) (nowMs : U64) : WatchdogGate × Bool → Prop
  | refused : Reported g taskIndex nowMs
      ({ g with invalidReportCount := incrementSaturating g.invalidReportCount }, false)
  | accepted (task : Fin maxTasks) (hindex : taskIndex.toNat = task.val)
      (hrequired : inMask g.config.requiredMask task = true) :
      Reported g taskIndex nowMs ({ g with
        lastProgressMs := fun t => if t = task then nowMs else g.lastProgressMs t
        seenMask := g.seenMask ||| taskBit task
        progressMask := g.progressMask ||| taskBit task }, true)

theorem report_reported (g : WatchdogGate) (taskIndex : U8) (nowMs : U64) :
    Reported g taskIndex nowMs (g.report taskIndex nowMs) := by
  unfold report
  split
  · next h =>
    dsimp only
    split
    · exact .refused
    · next hok =>
      simp only [Bool.or_eq_true, Bool.not_eq_true', not_or, Bool.not_eq_false] at hok
      exact .accepted ⟨taskIndex.toNat, h⟩ rfl hok.1
  · exact .refused

/-- What an evaluation leaves as it was, and what it does to the rest. -/
structure Evaluated (g : WatchdogGate) (nowMs : U64) (r : WatchdogGate × Bool) : Prop where
  config : r.1.config = g.config
  started : r.1.startedMs = g.startedMs
  last : r.1.lastProgressMs = g.lastProgressMs
  seen : r.1.seenMask = g.seenMask
  evaluate : r.1.lastEvaluateMs = if g.clockBack nowMs then g.lastEvaluateMs else nowMs
  progress : r.1.progressMask =
    if r.2 then g.progressMask &&& ~~~g.config.requiredMask else g.progressMask
  fed : r.2 = true → g.faultMask nowMs = 0 ∧ g.progressMask &&& g.config.requiredMask = g.config.requiredMask

theorem shouldFeed_evaluated (g : WatchdogGate) (nowMs : U64) : Evaluated g nowMs (g.shouldFeed nowMs) := by
  have hback : (if g.clockBack nowMs then g else { g with lastEvaluateMs := nowMs }) =
      { g with lastEvaluateMs := if g.clockBack nowMs then g.lastEvaluateMs else nowMs } := by
    cases g.clockBack nowMs <;> rfl
  unfold shouldFeed
  dsimp only
  rw [hback]
  by_cases hfault : g.faultMask nowMs = 0
  · rw [if_neg (not_not.2 hfault)]
    by_cases hp : g.progressMask &&& g.config.requiredMask = g.config.requiredMask
    · rw [if_neg (not_not.2 hp)]
      exact ⟨rfl, rfl, rfl, rfl, rfl, rfl, fun _ => ⟨hfault, hp⟩⟩
    · rw [if_pos hp]
      exact ⟨rfl, rfl, rfl, rfl, rfl, rfl, fun h => by cases h⟩
  · rw [if_pos hfault]
    exact ⟨rfl, rfl, rfl, rfl, rfl, rfl, fun h => by cases h⟩

/-- A seen task that is not late was seen before now, within its timeout: of two times below 2^63 a later
one is further ahead than any timeout. -/
theorem age_le_of_not_late {g : WatchdogGate} {nowMs : U64} {task : Fin maxTasks}
    (hr : inMask g.config.requiredMask task = true) (hs : inMask g.seenMask task = true)
    (hl : g.late nowMs task = false) (hnow : nowMs.toNat < 2 ^ 63)
    (hlast : (g.lastProgressMs task).toNat < 2 ^ 63) :
    g.lastProgressMs task ≤ nowMs ∧
      nowMs.toNat - (g.lastProgressMs task).toNat ≤ (g.config.taskTimeoutMs task).toNat := by
  have hage : (nowMs - g.lastProgressMs task).toNat ≤ (g.config.taskTimeoutMs task).toNat := by
    simp only [late, hr, hs, Bool.true_and, Bool.not_true, Bool.false_and, Bool.false_or,
      decide_eq_false_iff_not, BitVec.lt_def, toNat_setWidth_64] at hl
    omega
  have hto := (g.config.taskTimeoutMs task).isLt
  have hle : g.lastProgressMs task ≤ nowMs := by
    by_contra hgt
    rw [BitVec.le_def, not_le] at hgt
    rw [Serial.sub_toNat_of_lt hgt] at hage
    omega
  refine ⟨hle, ?_⟩
  rwa [BitVec.toNat_sub_of_le hle] at hage

end WatchdogGate

/-! ## Histories -/

/-- A call of the driver, or of the gate under it. -/
inductive WatchdogCall
  | report (taskIndex : U8) (nowMs : U64)
  | tick (nowMs : U64)
  | gateReport (taskIndex : U8) (nowMs : U64)
  | gateShouldFeed (nowMs : U64)
deriving DecidableEq, Repr

/-- The time a call is made with. -/
def WatchdogCall.nowMs : WatchdogCall → U64
  | .report _ nowMs | .tick nowMs | .gateReport _ nowMs | .gateShouldFeed nowMs => nowMs

/-- What a call asks of the gate. -/
inductive GateCall
  | report (taskIndex : U8) (nowMs : U64)
  | shouldFeed (nowMs : U64)
deriving DecidableEq, Repr

/-- One gate call: the gate after it and its answer. -/
def WatchdogGate.answer (g : WatchdogGate) : GateCall → WatchdogGate × Bool
  | .report taskIndex nowMs => g.report taskIndex nowMs
  | .shouldFeed nowMs => g.shouldFeed nowMs

namespace Driven

/-- The gate call that a call comes to, if it gets to the gate. -/
def reaches (w : Driven κ) : WatchdogCall → Option GateCall
  | .report taskIndex nowMs =>
    if !w.driver.initialized || w.driver.faultLatched then none else some (.report taskIndex nowMs)
  | .tick nowMs => if !w.driver.initialized || w.driver.faultLatched then none else some (.shouldFeed nowMs)
  | .gateReport taskIndex nowMs => some (.report taskIndex nowMs)
  | .gateShouldFeed nowMs => some (.shouldFeed nowMs)

/-- One call. -/
def step (be : WatchdogBackend κ) (w : Driven κ) : WatchdogCall → Driven κ
  | .report taskIndex nowMs => (w.report taskIndex nowMs).1
  | .tick nowMs => (w.tick be nowMs).1
  | .gateReport taskIndex nowMs => { w with driver := { w.driver with gate := (w.driver.gate.report taskIndex nowMs).1 } }
  | .gateShouldFeed nowMs => { w with driver := { w.driver with gate := (w.driver.gate.shouldFeed nowMs).1 } }

/-- **Step.** A call does to the gate what the gate call it comes to does. -/
theorem step_gate (be : WatchdogBackend κ) (w : Driven κ) (c : WatchdogCall) :
    (w.step be c).driver.gate = (w.reaches c).elim w.driver.gate fun g => (w.driver.gate.answer g).1 := by
  cases c with
  | report taskIndex nowMs =>
    simp only [step, Driven.report, reaches]
    split <;> rfl
  | tick nowMs =>
    simp only [step, tick, reaches]
    split
    · rfl
    · split
      · rfl
      · split <;> rfl
  | gateReport taskIndex nowMs => rfl
  | gateShouldFeed nowMs => rfl

/-- A latched driver leaves its hardware alone. -/
theorem step_latched (be : WatchdogBackend κ) (w : Driven κ) (c : WatchdogCall)
    (h : w.driver.faultLatched = true) :
    (w.step be c).hardware = w.hardware ∧ (w.step be c).driver.faultLatched = true ∧
      (w.step be c).driver.hardwareFeedCount = w.driver.hardwareFeedCount := by
  cases c with
  | report taskIndex nowMs => simp [step, Driven.report, h]
  | tick nowMs => simp [step, tick, h]
  | gateReport taskIndex nowMs => exact ⟨rfl, h, rfl⟩
  | gateShouldFeed nowMs => exact ⟨rfl, h, rfl⟩

end Driven

section Histories

variable (be : WatchdogBackend κ) (w₀ : Driven κ)

/-- The driver after some calls. -/
def Driven.run (past : List WatchdogCall) : Driven κ := past.foldl (Driven.step be) w₀

/-- The call is a report that the gate accepts as this task's progress at this time. -/
def Accepts (task : Fin maxTasks) (t : U64) (past : List WatchdogCall) (c : WatchdogCall) : Prop :=
  ∃ taskIndex : U8, (w₀.run be past).reaches c = some (.report taskIndex t) ∧ taskIndex.toNat = task.val ∧
    ((w₀.run be past).driver.gate.report taskIndex t).2 = true

/-- The call evaluates the gate at this time. -/
def Evaluates (nowMs : U64) (past : List WatchdogCall) (c : WatchdogCall) : Prop :=
  (w₀.run be past).reaches c = some (.shouldFeed nowMs)

/-- The call evaluates the gate at this time, and the gate allows a feed. -/
def Feeds (nowMs : U64) (past : List WatchdogCall) (c : WatchdogCall) : Prop :=
  Evaluates be w₀ nowMs past c ∧ ((w₀.run be past).driver.gate.shouldFeed nowMs).2 = true

/-- The call is neither accepted progress of the task nor a feed. -/
def Unused (task : Fin maxTasks) (past : List WatchdogCall) (c : WatchdogCall) : Prop :=
  (∀ t, ¬ Accepts be w₀ task t past c) ∧ ∀ nowMs, ¬ Feeds be w₀ nowMs past c

/-- What lies behind a feed at a time: the last accepted report of each required task came after the last
feed and not longer ago than the task's timeout, and no evaluation before had a later time. -/
structure FreshFeed (config : WatchdogGateConfig) (nowMs : U64) (past : List WatchdogCall) : Prop where
  progress : ∀ task, inMask config.requiredMask task = true → ∃ t,
    Run.Since (Accepts be w₀ task t) (Unused be w₀ task) past ∧ t ≤ nowMs ∧
      nowMs.toNat - t.toNat ≤ (config.taskTimeoutMs task).toNat
  latest : ∀ earlier c later t, past = earlier ++ c :: later → Evaluates be w₀ t earlier c → t ≤ nowMs

/-- **Invariant.** A task's progress bit stands for its last accepted report, unused since. -/
structure Progress (config : WatchdogGateConfig) (past : List WatchdogCall) (g : WatchdogGate) : Prop where
  config : g.config = config
  required : ∀ task, inMask g.progressMask task = true → inMask g.config.requiredMask task = true
  seen : ∀ task, inMask g.progressMask task = true → inMask g.seenMask task = true
  since : ∀ task, inMask g.progressMask task = true →
    Run.Since (Accepts be w₀ task (g.lastProgressMs task)) (Unused be w₀ task) past
  low : ∀ task, (g.lastProgressMs task).toNat < 2 ^ 63
  started : g.startedMs ≤ g.lastEvaluateMs
  evaluated : Run.Each (fun past c => ∀ t, Evaluates be w₀ t past c → t ≤ g.lastEvaluateMs) past

end Histories

section Steps

variable {be : WatchdogBackend κ} {w₀ : Driven κ} {config : WatchdogGateConfig} {past : List WatchdogCall}
  {c : WatchdogCall}

theorem run_concat (past : List WatchdogCall) (c : WatchdogCall) :
    w₀.run be (past ++ [c]) = (w₀.run be past).step be c := by
  rw [Driven.run, Driven.run, List.foldl_append]
  rfl

/-- A call that gets no answer out of the gate leaves the progress as it is. -/
theorem Progress.skip {g g' : WatchdogGate} (h : Progress be w₀ config past g)
    (hq : ∀ task, Unused be w₀ task past c) (he : ∀ t, ¬ Evaluates be w₀ t past c)
    (hg : g' = { g with invalidReportCount := g'.invalidReportCount }) :
    Progress be w₀ config (past ++ [c]) g' := by
  rw [hg]
  exact ⟨h.config, h.required, h.seen, fun task ht => .later (h.since task ht) (hq task), h.low, h.started,
    h.evaluated.concat fun t ht => absurd ht (he t)⟩

/-- **Step: a report.** -/
theorem Progress.report {taskIndex : U8} {t : U64} (h : Progress be w₀ config past (w₀.run be past).driver.gate)
    (hr : (w₀.run be past).reaches c = some (.report taskIndex t)) (hlow : t.toNat < 2 ^ 63) :
    Progress be w₀ config (past ++ [c]) ((w₀.run be past).driver.gate.report taskIndex t).1 := by
  have hne (nowMs : U64) : ¬ Evaluates be w₀ nowMs past c := by
    rw [Evaluates, hr]
    simp
  have hnofeed (nowMs : U64) : ¬ Feeds be w₀ nowMs past c := fun hf => hne nowMs hf.1
  have hrep := (w₀.run be past).driver.gate.report_reported taskIndex t
  generalize hans : (w₀.run be past).driver.gate.report taskIndex t = r at hrep ⊢
  cases hrep with
  | refused =>
    refine h.skip (fun task => ⟨fun u hu => ?_, hnofeed⟩) hne rfl
    obtain ⟨i, hi, -, hok⟩ := hu
    rw [hr] at hi
    cases hi
    rw [hans] at hok
    cases hok
  | accepted task hindex hrequired =>
    have hmask (u : Fin maxTasks) := inMask_or_taskBit (w₀.run be past).driver.gate.progressMask task u
    have hseen (u : Fin maxTasks) := inMask_or_taskBit (w₀.run be past).driver.gate.seenMask task u
    have hacc : Accepts be w₀ task t past c := ⟨taskIndex, hr, hindex, by rw [hans]⟩
    have hother {u : Fin maxTasks} (hu : u ≠ task) : Unused be w₀ u past c := by
      refine ⟨fun s hs => hu ?_, hnofeed⟩
      obtain ⟨i, hi, hix, -⟩ := hs
      rw [hr] at hi
      cases hi
      exact Fin.ext (hix.symm.trans hindex)
    refine ⟨h.config, ?_, ?_, ?_, ?_, h.started, h.evaluated.concat fun u hu => absurd hu (hne u)⟩
    · intro u hu
      rw [hmask, Bool.or_eq_true, decide_eq_true_iff] at hu
      rcases hu with hu | rfl
      · exact h.required u hu
      · exact hrequired
    · intro u hu
      rw [hmask, Bool.or_eq_true] at hu
      rw [hseen, Bool.or_eq_true]
      exact hu.imp (h.seen u) id
    · intro u hu
      dsimp only at hu ⊢
      by_cases hut : u = task
      · subst hut
        rw [if_pos rfl]
        exact .here hacc
      · rw [hmask, Bool.or_eq_true, decide_eq_true_iff] at hu
        rw [if_neg hut]
        exact .later (h.since u (hu.resolve_right hut)) (hother hut)
    · intro u
      dsimp only
      split
      · exact hlow
      · exact h.low u

/-- **Step: an evaluation.** -/
theorem Progress.shouldFeed {t : U64} (h : Progress be w₀ config past (w₀.run be past).driver.gate)
    (hr : (w₀.run be past).reaches c = some (.shouldFeed t)) :
    Progress be w₀ config (past ++ [c]) ((w₀.run be past).driver.gate.shouldFeed t).1 := by
  have hev := (w₀.run be past).driver.gate.shouldFeed_evaluated t
  have heq {u : U64} (hu : Evaluates be w₀ u past c) : u = t := by
    rw [Evaluates, hr] at hu
    cases hu
    rfl
  have hnoaccept (task : Fin maxTasks) (u : U64) : ¬ Accepts be w₀ task u past c := by
    rintro ⟨i, hi, -⟩
    rw [hr] at hi
    cases hi
  have hmono : (w₀.run be past).driver.gate.lastEvaluateMs ≤
      ((w₀.run be past).driver.gate.shouldFeed t).1.lastEvaluateMs ∧
      t ≤ ((w₀.run be past).driver.gate.shouldFeed t).1.lastEvaluateMs := by
    have hs := h.started
    rw [hev.evaluate]
    cases hb : (w₀.run be past).driver.gate.clockBack t with
    | true =>
      rw [if_pos rfl]
      simp only [WatchdogGate.clockBack, Bool.or_eq_true, decide_eq_true_eq, BitVec.lt_def] at hb
      rw [BitVec.le_def] at hs ⊢
      exact ⟨Nat.le_refl _, by rw [BitVec.le_def]; omega⟩
    | false =>
      rw [if_neg Bool.false_ne_true]
      simp only [WatchdogGate.clockBack, Bool.or_eq_false_iff, decide_eq_false_iff_not, BitVec.lt_def] at hb
      rw [BitVec.le_def]
      exact ⟨by omega, BitVec.le_refl _⟩
  -- after a feed no task has progress, otherwise all of it is kept
  have hkept {task : Fin maxTasks}
      (ht : inMask ((w₀.run be past).driver.gate.shouldFeed t).1.progressMask task = true) :
      inMask (w₀.run be past).driver.gate.progressMask task = true ∧ ∀ u, ¬ Feeds be w₀ u past c := by
    rw [hev.progress] at ht
    cases hfed : ((w₀.run be past).driver.gate.shouldFeed t).2 with
    | true =>
      rw [hfed, if_pos rfl, inMask_and_not, Bool.and_eq_true] at ht
      have := h.required task ht.1
      rw [this] at ht
      exact absurd ht.2 (by simp)
    | false =>
      rw [hfed, if_neg Bool.false_ne_true] at ht
      refine ⟨ht, fun u hu => ?_⟩
      have hut := heq hu.1
      subst hut
      exact absurd (hu.2.symm.trans hfed) (by simp)
  refine ⟨hev.config.trans h.config, ?_, ?_, ?_, ?_, ?_, ?_⟩
  · intro task ht
    rw [hev.config]
    exact h.required task (hkept ht).1
  · intro task ht
    rw [hev.seen]
    exact h.seen task (hkept ht).1
  · intro task ht
    obtain ⟨hp, hno⟩ := hkept ht
    rw [hev.last]
    exact .later (h.since task hp) ⟨hnoaccept task, hno⟩
  · rw [hev.last]
    exact h.low
  · rw [hev.started]
    exact BitVec.le_trans h.started hmono.1
  · refine Run.Each.concat (fun earlier d later he u hu => ?_) fun u hu => ?_
    · exact BitVec.le_trans (h.evaluated earlier d later he u hu) hmono.1
    · rw [heq hu]
      exact hmono.2

/-- **Step.** Every call keeps the meaning of the progress bits. -/
theorem Progress.step (h : Progress be w₀ config past (w₀.run be past).driver.gate) (hlow : c.nowMs.toNat < 2 ^ 63) :
    Progress be w₀ config (past ++ [c]) (w₀.run be (past ++ [c])).driver.gate := by
  rw [run_concat, Driven.step_gate]
  cases hr : (w₀.run be past).reaches c with
  | none =>
    have hunused (task : Fin maxTasks) : Unused be w₀ task past c := by
      constructor
      · rintro t ⟨i, hi, -⟩
        rw [hr] at hi
        cases hi
      · rintro t ⟨hi, -⟩
        rw [Evaluates, hr] at hi
        cases hi
    refine h.skip hunused (fun t ht => ?_) rfl
    rw [Evaluates, hr] at ht
    cases ht
  | some g =>
    cases g with
    | report taskIndex t =>
      have ht : c.nowMs = t := by
        cases c with
        | report i u => simp only [Driven.reaches] at hr; split at hr <;> cases hr; rfl
        | tick u => simp only [Driven.reaches] at hr; split at hr <;> cases hr
        | gateReport i u => cases hr; rfl
        | gateShouldFeed u => cases hr
      exact h.report hr (ht ▸ hlow)
    | shouldFeed t => exact h.shouldFeed hr

/-- A feed at a progressing gate is fresh. -/
theorem Progress.freshFeed {nowMs : U64} (h : Progress be w₀ config past (w₀.run be past).driver.gate)
    (hlow : nowMs.toNat < 2 ^ 63) (hf : Feeds be w₀ nowMs past c) : FreshFeed be w₀ config nowMs past := by
  obtain ⟨hnofault, hall⟩ := ((w₀.run be past).driver.gate.shouldFeed_evaluated nowMs).fed hf.2
  obtain ⟨hback, hlate⟩ := (faultMask_eq_zero _ nowMs).1 hnofault
  constructor
  · intro task hr
    rw [← h.config] at hr
    have hp := inMask_of_and_eq hall hr
    have hage := WatchdogGate.age_le_of_not_late hr (h.seen task hp) (hlate task) hlow (h.low task)
    rw [h.config] at hage
    exact ⟨_, h.since task hp, hage⟩
  · intro earlier d later t he ht
    refine BitVec.le_trans (h.evaluated earlier d later he t ht) ?_
    simp only [WatchdogGate.clockBack, Bool.or_eq_false_iff, decide_eq_false_iff_not] at hback
    exact BitVec.not_lt.1 hback.1

end Steps

/-! ## Runs -/

/-- A latched driver leaves its hardware alone for the rest of the run. -/
theorem run_latched {be : WatchdogBackend κ} (w : Driven κ) (later : List WatchdogCall)
    (h : w.driver.faultLatched = true) :
    (w.run be later).hardware = w.hardware ∧
      (w.run be later).driver.hardwareFeedCount = w.driver.hardwareFeedCount := by
  have hkeep : ∀ (v : Driven κ) (c : WatchdogCall), v.driver.faultLatched = true ∧ v.hardware = w.hardware ∧
      v.driver.hardwareFeedCount = w.driver.hardwareFeedCount →
      (v.step be c).driver.faultLatched = true ∧ (v.step be c).hardware = w.hardware ∧
        (v.step be c).driver.hardwareFeedCount = w.driver.hardwareFeedCount := by
    rintro v c ⟨hl, hh, hc⟩
    obtain ⟨hh', hl', hc'⟩ := v.step_latched be c hl
    exact ⟨hl', hh'.trans hh, hc'.trans hc⟩
  exact (Run.inv_run hkeep ⟨h, rfl, rfl⟩ later).2

/-- The gate of a driver that was initialised. -/
theorem init_gate {be : WatchdogBackend κ} {w : Driven κ} {config : WatchdogGateConfig} {hardwareTimeoutMs : U32}
    {startMs : U64} (hinit : (w.init be config hardwareTimeoutMs startMs).2 = true) :
    (w.init be config hardwareTimeoutMs startMs).1.driver.gate =
      ⟨config, startMs, startMs, fun _ => 0, 0, 0, 0, 0, 0, 0, false⟩ := by
  unfold Driven.init WatchdogGate.init at hinit ⊢
  by_cases hh : hardwareTimeoutMs = 0
  · simp only [hh, if_true, Bool.false_eq_true] at hinit
  · by_cases hm : config.requiredMask = 0
    · simp only [hh, hm, if_true, if_false, Bool.false_eq_true] at hinit
    · by_cases ht : ∃ task, inMask config.requiredMask task = true ∧ config.taskTimeoutMs task = 0
      · simp only [hh, hm, ht, if_true, if_false, Bool.false_eq_true] at hinit
      · simp only [hh, hm, ht, if_false] at hinit ⊢
        split <;> rfl

theorem init_progress {be : WatchdogBackend κ} {w : Driven κ} {config : WatchdogGateConfig} {hardwareTimeoutMs : U32}
    {startMs : U64} (hinit : (w.init be config hardwareTimeoutMs startMs).2 = true) :
    Progress be (w.init be config hardwareTimeoutMs startMs).1 config []
      (w.init be config hardwareTimeoutMs startMs).1.driver.gate := by
  rw [init_gate hinit]
  have hnone (task : Fin maxTasks) : ¬ inMask 0 task = true := fun ht => by
    rw [inMask_zero] at ht
    cases ht
  exact ⟨rfl, fun task ht => absurd ht (hnone task), fun task ht => absurd ht (hnone task),
    fun task ht => absurd ht (hnone task), fun _ => by simp, BitVec.le_refl _, Run.each_nil⟩

/-- **The watchdog is fed only on fresh progress of every task.** For every run of driver and gate calls
with any task indices and any times below 2^63: when an evaluation allows a feed, the last accepted report
of each required task came after the last feed and within its timeout, and the time is not before that of
any earlier evaluation. From a state with a latched backend failure on, whether the initialisation latched
it or a tick, the hardware is not fed. -/
theorem fed_only_fresh (be : WatchdogBackend κ) (w : Driven κ) (config : WatchdogGateConfig)
    (hardwareTimeoutMs : U32) (startMs : U64) (calls : List WatchdogCall)
    (hlow : ∀ c ∈ calls, c.nowMs.toNat < 2 ^ 63) :
    let r := w.init be config hardwareTimeoutMs startMs
    (r.2 = true → ∀ past c rest nowMs, calls = past ++ c :: rest → Feeds be r.1 nowMs past c →
      FreshFeed be r.1 config nowMs past) ∧
    ∀ past later, calls = past ++ later → (r.1.run be past).driver.faultLatched = true →
      (r.1.run be calls).hardware = (r.1.run be past).hardware ∧
        (r.1.run be calls).driver.hardwareFeedCount = (r.1.run be past).driver.hardwareFeedCount := by
  intro r
  constructor
  · rintro hinit past c rest nowMs rfl hf
    have hprogress : Progress be r.1 config past (r.1.run be past).driver.gate := by
      have hpast : Run.Along (Driven.step be) (fun _ c => c.nowMs.toNat < 2 ^ 63) r.1 past :=
        Run.along_iff_forall.2 fun d hd => hlow d (List.mem_append_left _ hd)
      have hrun := Run.inv_past
        (P := fun past w => w = r.1.run be past ∧ Progress be r.1 config past (r.1.run be past).driver.gate)
        (fun past w d ⟨hw, hp⟩ hd => ⟨by rw [run_concat, hw], hp.step hd⟩) [] r.1 past
        ⟨rfl, init_progress hinit⟩ hpast
      exact hrun.2
    have ht : c.nowMs = nowMs := by
      have hr := hf.1
      rw [Evaluates] at hr
      cases c with
      | report i u => simp only [Driven.reaches] at hr; split at hr <;> cases hr
      | tick u => simp only [Driven.reaches] at hr; split at hr <;> cases hr; rfl
      | gateReport i u => cases hr
      | gateShouldFeed u => cases hr; rfl
    exact hprogress.freshFeed (ht ▸ hlow c (by simp)) hf
  · rintro past later rfl hlatched
    have hrun : r.1.run be (past ++ later) = (r.1.run be past).run be later := by
      rw [Driven.run, List.foldl_append]
      rfl
    rw [hrun]
    exact run_latched _ later hlatched

/-- Two required tasks with timeouts of 10 and 20 ms. -/
def twoTasks : WatchdogGateConfig := ⟨3, 5, fun task => if task = 0 then 10 else 20⟩

/-- A backend that counts the feeds. -/
def countingBackend : WatchdogBackend Nat := ⟨fun n _ => (n, true), fun n => (n + 1, true)⟩

/-- The rule at reports of both tasks, one straight at the gate, and a tick. -/
theorem fed_only_fresh_two_tasks :
    let r := (⟨0, ⟨WatchdogGate.zero, 0, 0, 0, 0, false, false⟩⟩ : Driven Nat).init countingBackend twoTasks 50 0
    (r.2 = true → ∀ past c rest nowMs, [.report 0 1, .gateReport 1 4, .tick 5] = past ++ c :: rest →
      Feeds countingBackend r.1 nowMs past c → FreshFeed countingBackend r.1 twoTasks nowMs past) ∧
    ∀ past later, [.report 0 1, .gateReport 1 4, .tick 5] = past ++ later →
      (r.1.run countingBackend past).driver.faultLatched = true →
      (r.1.run countingBackend [.report 0 1, .gateReport 1 4, .tick 5]).hardware =
        (r.1.run countingBackend past).hardware ∧
      (r.1.run countingBackend [.report 0 1, .gateReport 1 4, .tick 5]).driver.hardwareFeedCount =
        (r.1.run countingBackend past).driver.hardwareFeedCount :=
  fed_only_fresh countingBackend _ twoTasks 50 0 _ (by decide)

/-- The tick of that run feeds. -/
example :
    let r := (⟨0, ⟨WatchdogGate.zero, 0, 0, 0, 0, false, false⟩⟩ : Driven Nat).init countingBackend twoTasks 50 0
    (r.1.run countingBackend [.report 0 1, .gateReport 1 4, .tick 5]).hardware = 1 := by decide +kernel

end OpenRef.Watchdog
