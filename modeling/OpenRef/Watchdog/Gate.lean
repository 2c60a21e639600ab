import OpenRef.Base
import Mathlib.Data.List.FinRange
/-!
# The watchdog gate (openref_watchdog_gate.c)

Up to eight tasks report progress; the hardware watchdog may be fed when every
required task has reported since the last feed and none is late. A clock that
goes back is a fault of its own.

`faultMask_eq_zero`: when an evaluation finds no fault. `shouldFeed_spec`: the
three outcomes of an evaluation.
-/

namespace OpenRef.Watchdog

/-- `OPENREF_WATCHDOG_MAX_TASKS`. -/
abbrev maxTasks : Nat := 8

/-- The literals of a task use this instance by name. -/
instance neZeroTasks : NeZero maxTasks := ⟨by decide⟩
/-- `OPENREF_WATCHDOG_CLOCK_FAULT`. -/
def clockFault : U32 := 1 <<< 31

/-- `openref_watchdog_gate_config_t`. -/
structure WatchdogGateConfig where
  requiredMask : U8
  startupGraceMs : U32
  taskTimeoutMs : Fin maxTasks → U32

/-- `openref_watchdog_gate_t`. -/
structure WatchdogGate where
  config : WatchdogGateConfig
  startedMs : U64
  lastEvaluateMs : U64
  lastProgressMs : Fin maxTasks → U64
  seenMask : U8
  progressMask : U8
  lastFaultMask : U32
  feedCount : U32
  faultCount : U32
  invalidReportCount : U32
  healthy : Bool

/-- `(uint8_t)(1u << task)`. -/
def taskBit (task : Fin maxTasks) : U8 := (1 : U8) <<< task.val

/-- A task is in a mask. -/
def inMask (mask : U8) (task : Fin maxTasks) : Bool := decide (mask &&& taskBit task ≠ 0)

/-- `openref_watchdog_gate_init` (:14-33). -/
def WatchdogGate.init (config : WatchdogGateConfig) (nowMs : U64) : Option WatchdogGate :=
  if config.requiredMask = 0 then none
  else if ∃ task, inMask config.requiredMask task = true ∧ config.taskTimeoutMs task = 0 then none
  else some ⟨config, nowMs, nowMs, fun _ => 0, 0, 0, 0, 0, 0, 0, false⟩

/-- `openref_watchdog_gate_report` (:35-54). -/
def WatchdogGate.report (g : WatchdogGate) (taskIndex : U8) (nowMs : U64) : WatchdogGate × Bool :=
  let invalid := { g with invalidReportCount := incrementSaturating g.invalidReportCount }
  if h : taskIndex.toNat < maxTasks then
    let task : Fin maxTasks := ⟨taskIndex.toNat, h⟩
    if !inMask g.config.requiredMask task ||
        (inMask g.seenMask task && decide (nowMs < g.lastProgressMs task)) then (invalid, false)
    else ({ g with
      lastProgressMs := fun t => if t = task then nowMs else g.lastProgressMs t
      seenMask := g.seenMask ||| taskBit task
      progressMask := g.progressMask ||| taskBit task }, true)
  else (invalid, false)

/-- A required task that has not reported within the grace time, or not since its timeout (:73-80). -/
def WatchdogGate.late (g : WatchdogGate) (nowMs : U64) (task : Fin maxTasks) : Bool :=
  inMask g.config.requiredMask task &&
    ((!inMask g.seenMask task && decide (g.config.startupGraceMs.setWidth 64 < nowMs - g.startedMs)) ||
      (inMask g.seenMask task &&
        decide ((g.config.taskTimeoutMs task).setWidth 64 < nowMs - g.lastProgressMs task)))

/-- `now_ms < gate->last_evaluate_ms || now_ms < gate->started_ms` (:64). -/
def WatchdogGate.clockBack (g : WatchdogGate) (nowMs : U64) : Bool :=
  nowMs < g.lastEvaluateMs || nowMs < g.startedMs

/-- The fault mask of an evaluation (:63-83). -/
def WatchdogGate.faultMask (g : WatchdogGate) (nowMs : U64) : U32 :=
  if g.clockBack nowMs then clockFault
  else (List.finRange maxTasks).foldl
    (fun mask task => if g.late nowMs task then mask ||| (taskBit task).setWidth 32 else mask) 0

/-- `openref_watchdog_gate_should_feed` (:56-100). -/
def WatchdogGate.shouldFeed (g : WatchdogGate) (nowMs : U64) : WatchdogGate × Bool :=
  let faultMask := g.faultMask nowMs
  let g := if g.clockBack nowMs then g else { g with lastEvaluateMs := nowMs }
  if faultMask ≠ 0 then
    ({ g with
      faultCount :=
        if g.healthy || g.lastFaultMask ≠ faultMask then incrementSaturating g.faultCount else g.faultCount
      healthy := false
      lastFaultMask := faultMask }, false)
  else if g.progressMask &&& g.config.requiredMask ≠ g.config.requiredMask then (g, false)
  else ({ g with
    progressMask := g.progressMask &&& ~~~g.config.requiredMask
    lastFaultMask := 0
    healthy := true
    feedCount := incrementSaturating g.feedCount }, true)

/-! ## Evaluations -/

theorem taskBit_ne_zero (task : Fin maxTasks) : (taskBit task).setWidth 32 ≠ (0 : U32) := by
  revert task; decide

theorem or_eq_zero {n : Nat} {a b : BitVec n} : a ||| b = 0 ↔ a = 0 ∧ b = 0 := by
  constructor
  · intro h
    have hbit (i : Nat) : a.getLsbD i = false ∧ b.getLsbD i = false := by
      have := congrArg (fun v => v.getLsbD i) h
      simpa using this
    exact ⟨BitVec.eq_of_getLsbD_eq fun i _ => by simp [(hbit i).1],
      BitVec.eq_of_getLsbD_eq fun i _ => by simp [(hbit i).2]⟩
  · rintro ⟨rfl, rfl⟩; simp

/-- The mask of the late tasks is zero when none is late. -/
theorem foldl_or_eq_zero (p : Fin maxTasks → Bool) : ∀ (ts : List (Fin maxTasks)) (mask : U32),
    ts.foldl (fun mask task => if p task then mask ||| (taskBit task).setWidth 32 else mask) mask = 0 ↔
      mask = 0 ∧ ∀ task ∈ ts, p task = false
  | [], mask => by simp
  | task :: ts, mask => by
    rw [List.foldl_cons, foldl_or_eq_zero p ts]
    cases h : p task with
    | true =>
      rw [if_pos rfl, or_eq_zero]
      constructor
      · rintro ⟨⟨-, hbit⟩, -⟩
        exact absurd hbit (taskBit_ne_zero task)
      · rintro ⟨-, hall⟩
        have := hall task List.mem_cons_self
        simp [h] at this
    | false => simp [h]

/-- An evaluation finds no fault when the clock has not gone back and no required task is late. -/
theorem faultMask_eq_zero (g : WatchdogGate) (nowMs : U64) :
    g.faultMask nowMs = 0 ↔ g.clockBack nowMs = false ∧ ∀ task, g.late nowMs task = false := by
  unfold WatchdogGate.faultMask
  cases h : g.clockBack nowMs with
  | true => simp [clockFault]
  | false =>
    rw [if_neg (by simp), foldl_or_eq_zero]
    simp

/-- The three outcomes of an evaluation: a fault, progress still missing, a feed. -/
theorem shouldFeed_spec (g : WatchdogGate) (nowMs : U64) :
    (g.faultMask nowMs ≠ 0 ∧ (g.shouldFeed nowMs).2 = false ∧
      (g.shouldFeed nowMs).1.lastFaultMask = g.faultMask nowMs) ∨
    (g.faultMask nowMs = 0 ∧ g.progressMask &&& g.config.requiredMask ≠ g.config.requiredMask ∧
      g.shouldFeed nowMs = ({ g with lastEvaluateMs := nowMs }, false)) ∨
    (g.faultMask nowMs = 0 ∧ g.progressMask &&& g.config.requiredMask = g.config.requiredMask ∧
      g.shouldFeed nowMs = ({ g with
        lastEvaluateMs := nowMs
        progressMask := g.progressMask &&& ~~~g.config.requiredMask
        lastFaultMask := 0
        healthy := true
        feedCount := incrementSaturating g.feedCount }, true)) := by
  by_cases hm : g.faultMask nowMs = 0
  · have hb := ((faultMask_eq_zero g nowMs).1 hm).1
    unfold WatchdogGate.shouldFeed
    simp only [hm, hb, ne_eq, not_true_eq_false, if_false, Bool.false_eq_true, true_and, false_and,
      false_or]
    by_cases hp : g.progressMask &&& g.config.requiredMask = g.config.requiredMask
    · exact .inr ⟨hp, by rw [if_neg (not_not.2 hp)]⟩
    · exact .inl ⟨hp, by rw [if_pos hp]⟩
  · refine .inl ⟨hm, ?_⟩
    unfold WatchdogGate.shouldFeed
    simp only [ne_eq, hm, not_false_eq_true, if_true, true_and]

end OpenRef.Watchdog
