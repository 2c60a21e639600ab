import OpenRef.Watchdog.Gate
import OpenRef.Lib.Clock
import OpenRef.Lib.Run
/-!
# The watchdog in the integrated RT595 loop (openref_rt595_integrated.c:254-304)

The loop owns one gate with one required task, 50 ms of startup grace and a 50 ms
timeout. After each captured block that was processed it evaluates the gate,
reports the task and evaluates again, and feeds the hardware when the second
evaluation allows it. Its millisecond clock is the free-running 32-bit
microsecond counter divided by 1000.

`fed_iff`: over any run of blocks less than 50 ms apart every block is fed exactly
when the microsecond counter does not start over between the gate's
initialisation and the last block. `starved_after_wrap`: the first block after it
does is a clock fault.
-/

namespace OpenRef.Watchdog

/-- `clock_us` (:206-210): CTIMER0 at true time `t` microseconds. -/
def clockUs (t : Nat) : U32 := Clock.reading 32 t

/-- `(uint64_t)clock_us(NULL) / 1000u` (:256, :297). -/
def nowMs (t : Nat) : U64 := (clockUs t).setWidth 64 / 1000

/-- `(openref_watchdog_gate_config_t){1u, 50u, {50u}}` (:255). -/
def loopConfig : WatchdogGateConfig := ⟨1, 50, fun task => if task = 0 then 50 else 0⟩

/-- The gate that `main` starts with at true time `t` (:254-256). -/
def loopGate (t : Nat) : WatchdogGate :=
  ⟨loopConfig, nowMs t, nowMs t, fun _ => 0, 0, 0, 0, 0, 0, 0, false⟩

/-- One processed block that ends at true time `t` (:297-304): the gate after it, and whether the
hardware was fed. -/
def blockDone (g : WatchdogGate) (t : Nat) : WatchdogGate × Bool :=
  let g := (g.shouldFeed (nowMs t)).1
  if g.lastFaultMask ≠ 0 then (g, false)
  else
    let r := g.report 0 (nowMs t)
    if !r.2 then (r.1, false) else r.1.shouldFeed (nowMs t)

/-- Every block of the run leaves no fault behind and is fed. -/
def AllFed (g : WatchdogGate) (ts : List Nat) : Prop :=
  Run.Along (fun g t => (blockDone g t).1)
    (fun g t => (blockDone g t).1.lastFaultMask = 0 ∧ (blockDone g t).2 = true) g ts

/-- Consecutive times are less than 50 ms apart. -/
def Paced : Nat → List Nat → Prop
  | _, [] => True
  | t, u :: us => t ≤ u ∧ u < t + 50000 ∧ Paced u us

theorem toNat_nowMs (t : Nat) : (nowMs t).toNat = (Clock.reading 32 t).toNat / 1000 := by
  have := (Clock.reading 32 t).isLt
  unfold nowMs clockUs
  rw [BitVec.toNat_udiv, BitVec.toNat_setWidth_of_le (by omega)]
  rfl

/-- The gate after a block at `t`, or just initialised at `t`: evaluated at `t`, its only task seen
last at `t` if at all. -/
structure Fed (t₀ t : Nat) (g : WatchdogGate) : Prop where
  config : g.config = loopConfig
  started : g.startedMs = nowMs t₀
  evaluated : g.lastEvaluateMs = nowMs t
  progress : g.progressMask = 0
  noFault : g.lastFaultMask = 0
  seen : g.seenMask = 1 ∧ g.lastProgressMs 0 = nowMs t ∨ g.seenMask = 0 ∧ t = t₀

theorem fed_loopGate (t : Nat) : Fed t t (loopGate t) :=
  ⟨rfl, rfl, rfl, rfl, rfl, .inr ⟨rfl, rfl⟩⟩

/-- Only task 0 is required, so only task 0 can be late. -/
theorem late_loop {g : WatchdogGate} (hc : g.config = loopConfig) (now : U64) (task : Fin maxTasks)
    (ht : task ≠ 0) : g.late now task = false := by
  have : inMask loopConfig.requiredMask task = false := by revert task; decide
  rw [WatchdogGate.late, hc, this, Bool.false_and]

theorem faultMask_loop {g : WatchdogGate} (hc : g.config = loopConfig) (now : U64) :
    g.faultMask now = 0 ↔ g.clockBack now = false ∧ g.late now 0 = false := by
  rw [faultMask_eq_zero]
  refine and_congr_right fun _ => ⟨fun h => h 0, fun h task => ?_⟩
  by_cases ht : task = 0
  · exact ht ▸ h
  · exact late_loop hc now task ht

theorem clockBack_eq_false {g : WatchdogGate} {now : U64} (he : g.lastEvaluateMs.toNat ≤ now.toNat)
    (hs : g.startedMs.toNat ≤ now.toNat) : g.clockBack now = false := by
  simp only [WatchdogGate.clockBack, Bool.or_eq_false_iff, decide_eq_false_iff_not, BitVec.lt_def]
  omega

/-- The only required task is on time when it was seen at most 50 ms ago, or the gate started then. -/
theorem late_loop_zero {g : WatchdogGate} (hc : g.config = loopConfig) {now : U64}
    (h : inMask g.seenMask 0 = true ∧ (now - g.lastProgressMs 0).toNat ≤ 50 ∨
      inMask g.seenMask 0 = false ∧ (now - g.startedMs).toNat ≤ 50) : g.late now 0 = false := by
  have hg : (g.config.startupGraceMs.setWidth 64).toNat = 50 := by rw [hc]; rfl
  have ho : ((g.config.taskTimeoutMs 0).setWidth 64).toNat = 50 := by rw [hc]; rfl
  rw [WatchdogGate.late]
  rcases h with ⟨hs, hp⟩ | ⟨hs, hp⟩
  · have : ¬ (g.config.taskTimeoutMs 0).setWidth 64 < now - g.lastProgressMs 0 := by
      rw [BitVec.lt_def]; omega
    simp [hs, this]
  · have : ¬ g.config.startupGraceMs.setWidth 64 < now - g.startedMs := by
      rw [BitVec.lt_def]; omega
    simp [hs, this]

/-- The clock at the next block within one lap. -/
theorem nowMs_next {t₀ t u : Nat} (h0 : t₀ ≤ t) (h : t ≤ u) (hgap : u < t + 50000)
    (hlap : Clock.lap 32 u = Clock.lap 32 t₀) :
    (nowMs t).toNat ≤ (nowMs u).toNat ∧ (nowMs t₀).toNat ≤ (nowMs u).toNat ∧
      (nowMs u - nowMs t).toNat ≤ 50 := by
  have hlt : Clock.lap 32 t = Clock.lap 32 t₀ := Clock.lap_eq_of_between hlap h0 h
  have htu := Clock.reading_add_sub (hlap.trans hlt.symm) h
  have h0u := Clock.reading_add_sub hlap (Nat.le_trans h0 h)
  have hu := toNat_nowMs u
  have ht := toNat_nowMs t
  have hz := toNat_nowMs t₀
  refine ⟨by omega, by omega, ?_⟩
  rw [BitVec.toNat_sub_of_le (BitVec.le_def.2 (by omega))]
  omega

section Block

variable {t₀ t u : Nat} {g : WatchdogGate}

/-- The gate after the first evaluation and the report of a block. -/
def reportedAt (g : WatchdogGate) (now : U64) : WatchdogGate :=
  { g with
    lastEvaluateMs := now
    lastProgressMs := fun task => if task = 0 then now else g.lastProgressMs task
    seenMask := g.seenMask ||| taskBit 0
    progressMask := g.progressMask ||| taskBit 0 }

/-- The first evaluation finds no progress and only moves `last_evaluate_ms`. -/
theorem evaluate_next (hf : Fed t₀ t g) (h0 : t₀ ≤ t) (h : t ≤ u) (hgap : u < t + 50000)
    (hlap : Clock.lap 32 u = Clock.lap 32 t₀) :
    g.shouldFeed (nowMs u) = ({ g with lastEvaluateMs := nowMs u }, false) := by
  obtain ⟨htu, h0u, hsub⟩ := nowMs_next h0 h hgap hlap
  have hm : g.faultMask (nowMs u) = 0 := by
    rw [faultMask_loop hf.config]
    refine ⟨clockBack_eq_false (hf.evaluated ▸ htu) (hf.started ▸ h0u), late_loop_zero hf.config ?_⟩
    rcases hf.seen with ⟨hs, hl⟩ | ⟨hs, rfl⟩
    · exact .inl ⟨by rw [hs]; decide, hl ▸ hsub⟩
    · exact .inr ⟨by rw [hs]; decide, hf.started ▸ hsub⟩
  rcases shouldFeed_spec g (nowMs u) with ⟨hne, -⟩ | ⟨-, -, hs⟩ | ⟨-, hfull, -⟩
  · exact absurd hm hne
  · exact hs
  · rw [hf.progress, hf.config] at hfull
    exact absurd hfull (by decide)

/-- The report is accepted: the task's last progress was at `t`. -/
theorem report_next (hf : Fed t₀ t g) (htu : (nowMs t).toNat ≤ (nowMs u).toNat) :
    ({ g with lastEvaluateMs := nowMs u } : WatchdogGate).report 0 (nowMs u) =
      (reportedAt g (nowMs u), true) := by
  have hr : inMask g.config.requiredMask 0 = true := by rw [hf.config]; decide
  have hb : (inMask g.seenMask 0 && decide (nowMs u < g.lastProgressMs 0)) = false := by
    rcases hf.seen with ⟨-, hl⟩ | ⟨hs, -⟩
    · have : ¬ nowMs u < g.lastProgressMs 0 := by rw [hl, BitVec.lt_def]; omega
      simp [this]
    · have : inMask g.seenMask 0 = false := by rw [hs]; decide
      simp [this]
  have ht : (⟨(0 : U8).toNat, by decide⟩ : Fin maxTasks) = 0 := rfl
  rw [WatchdogGate.report, dif_pos (by decide)]
  simp only [ht, hr, hb, Bool.not_true, Bool.or_false, Bool.false_eq_true, if_false, reportedAt]

/-- The second evaluation finds the progress just reported and feeds. -/
theorem feed_next (hf : Fed t₀ t g) (h0u : (nowMs t₀).toNat ≤ (nowMs u).toNat) :
    ((reportedAt g (nowMs u)).shouldFeed (nowMs u)).2 = true ∧
      Fed t₀ u ((reportedAt g (nowMs u)).shouldFeed (nowMs u)).1 := by
  have hseen : (reportedAt g (nowMs u)).seenMask = 1 := by
    rcases hf.seen with ⟨hs, -⟩ | ⟨hs, -⟩ <;> simp only [reportedAt, hs] <;> decide
  have hlast : (reportedAt g (nowMs u)).lastProgressMs 0 = nowMs u := by
    simp [reportedAt]
  have hprogress : (reportedAt g (nowMs u)).progressMask = 1 := by
    simp only [reportedAt, hf.progress]; decide
  have hconfig : (reportedAt g (nowMs u)).config = loopConfig := hf.config
  have hm : (reportedAt g (nowMs u)).faultMask (nowMs u) = 0 := by
    rw [faultMask_loop hconfig]
    refine ⟨clockBack_eq_false (Nat.le_refl _) (hf.started ▸ h0u), late_loop_zero hconfig (.inl ⟨?_, ?_⟩)⟩
    · rw [hseen]; decide
    · rw [hlast, BitVec.sub_self]; decide
  rcases shouldFeed_spec (reportedAt g (nowMs u)) (nowMs u) with ⟨hne, -⟩ | ⟨-, hnot, -⟩ | ⟨-, -, hs⟩
  · exact absurd hm hne
  · rw [hprogress, hconfig] at hnot
    exact absurd rfl hnot
  · rw [hs]
    exact ⟨rfl, hf.config, hf.started, rfl, by simp only [hprogress, hconfig]; decide, rfl,
      .inl ⟨hseen, hlast⟩⟩

/-- **Step.** Within one lap a block is fed and leaves the gate fed. -/
theorem blockDone_fed (hf : Fed t₀ t g) (h0 : t₀ ≤ t) (h : t ≤ u) (hgap : u < t + 50000)
    (hlap : Clock.lap 32 u = Clock.lap 32 t₀) :
    (blockDone g u).2 = true ∧ Fed t₀ u (blockDone g u).1 := by
  obtain ⟨htu, h0u, -⟩ := nowMs_next h0 h hgap hlap
  have hnf : ¬ ({ g with lastEvaluateMs := nowMs u } : WatchdogGate).lastFaultMask ≠ 0 :=
    not_not.2 hf.noFault
  unfold blockDone
  simp only [evaluate_next hf h0 h hgap hlap, report_next hf htu]
  rw [if_neg hnf]
  exact feed_next hf h0u

/-- **Wrap.** The first block after the counter has started over is a clock fault. -/
theorem blockDone_wrapped (hf : Fed t₀ t g) (h : t ≤ u) (hgap : u < t + 50000)
    (hlap : Clock.lap 32 t < Clock.lap 32 u) : (blockDone g u).1.lastFaultMask ≠ 0 := by
  have hr := Clock.reading_lt_of_lap_lt hlap (by omega)
  have hu := toNat_nowMs u
  have ht := toNat_nowMs t
  have hlt := (Clock.reading 32 t).isLt
  have hback : g.clockBack (nowMs u) = true := by
    rw [WatchdogGate.clockBack, hf.evaluated]
    simp only [Bool.or_eq_true, decide_eq_true_eq, BitVec.lt_def]
    omega
  have hm : g.faultMask (nowMs u) = clockFault := by rw [WatchdogGate.faultMask, if_pos hback]
  have hfault : (g.shouldFeed (nowMs u)).1.lastFaultMask ≠ 0 := by
    rcases shouldFeed_spec g (nowMs u) with ⟨-, -, hs⟩ | ⟨hz, -⟩ | ⟨hz, -⟩
    · rw [hs, hm]; decide
    · rw [hm] at hz; exact absurd hz (by decide)
    · rw [hm] at hz; exact absurd hz (by decide)
  unfold blockDone
  dsimp only
  rw [if_pos hfault]
  exact hfault

end Block

/-! ## Runs of blocks -/

/-- Every run from a fed gate: all blocks are fed exactly when none is in a later lap. -/
theorem allFed_iff_lap {t₀ : Nat} : ∀ {t : Nat} {g : WatchdogGate} (us : List Nat), Fed t₀ t g → t₀ ≤ t →
    Clock.lap 32 t = Clock.lap 32 t₀ → Paced t us →
    (AllFed g us ↔ ∀ u ∈ us, Clock.lap 32 u = Clock.lap 32 t₀)
  | _, _, [], _, _, _, _ => by simp [AllFed]
  | t, g, u :: us, hf, h0, hl, ⟨h, hgap, hp⟩ => by
    rw [AllFed, Run.along_cons, List.forall_mem_cons]
    by_cases hlap : Clock.lap 32 u = Clock.lap 32 t₀
    · obtain ⟨hfed, hf'⟩ := blockDone_fed hf h0 h hgap hlap
      have ih := allFed_iff_lap us hf' (Nat.le_trans h0 h) hlap hp
      rw [AllFed] at ih
      rw [ih]
      exact and_congr_left' ⟨fun _ => hlap, fun _ => ⟨hf'.noFault, hfed⟩⟩
    · have hlt : Clock.lap 32 t < Clock.lap 32 u := by
        have := Clock.lap_mono (w := 32) h
        omega
      exact ⟨fun hx => absurd hx.1.1 (blockDone_wrapped hf h hgap hlt), fun hx => absurd hx.1 hlap⟩

/-- **A healthy loop is fed exactly until its clock starts over.** For every run of processed blocks,
the first less than 50 ms after the gate's initialisation and each less than 50 ms after the one
before, the fault mask stays zero and every block is fed exactly when the 32-bit microsecond counter
does not start over between the initialisation and the last block. -/
theorem fed_iff (t₀ : Nat) (ts : List Nat) (hp : Paced t₀ ts) :
    AllFed (loopGate t₀) ts ↔ ∀ t ∈ ts, t / 2 ^ 32 = t₀ / 2 ^ 32 :=
  allFed_iff_lap ts (fed_loopGate t₀) (Nat.le_refl _) rfl hp

/-- The rule at three blocks after a start shortly before the wrap. -/
theorem fed_iff_before_wrap : AllFed (loopGate 4294900000) [4294910000, 4294920000, 4294930000] :=
  (fed_iff _ _ (by simp [Paced])).2 (by decide)

/-- Blocks exactly 10 ms apart across the wrap are not all fed. -/
theorem starved_after_wrap : ¬ ∀ (t₀ : Nat) (ts : List Nat), Paced t₀ ts → AllFed (loopGate t₀) ts := by
  intro h
  have hfed := h 4294957000 [4294967000, 4294977000] (by simp [Paced])
  exact absurd hfed.2.1.1 (by decide +kernel)

end OpenRef.Watchdog
