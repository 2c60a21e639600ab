import OpenRef.Watchdog.Fg23
/-!
# A clock that goes back (openref_watchdog_fg23.c)

`clock_ms` (:14-37) has two 32-bit samples to tell a backward step from a wrap. It takes a
difference above `INT32_MAX` for a backward step only when the new sample is also the smaller
one. Once latched the fault is never cleared, and both entry points return before the gate.

`backward_stops_feeding`: over every run with steps below 2^31 us either way, the first backward
step latches the fault and stops the feeding for good exactly when it does not cross a multiple
of 2^32 us. `wrapped_back_feeds`: a step back over such a multiple shows a larger sample, passes
for a step forward of nearly 2^32 us, and the hardware is fed after it.
-/

namespace OpenRef.Watchdog

variable {κ : Type}

/-- Each call comes less than 2^31 us after or before the last one. -/
def Stepped : Nat → List (Fg23Call × Nat) → Prop
  | _, [] => True
  | t, (_, u) :: calls => u < t + 2 ^ 31 ∧ t < u + 2 ^ 31 ∧ Stepped u calls

instance decidableStepped : ∀ (t : Nat) (calls : List (Fg23Call × Nat)), Decidable (Stepped t calls)
  | _, [] => .isTrue trivial
  | t, (_, u) :: calls =>
    have : Decidable (Stepped u calls) := decidableStepped u calls
    inferInstanceAs (Decidable (u < t + 2 ^ 31 ∧ t < u + 2 ^ 31 ∧ Stepped u calls))

/-- The time does not go back. -/
def Forward : Nat → List (Fg23Call × Nat) → Prop
  | _, [] => True
  | t, (_, u) :: calls => t ≤ u ∧ Forward u calls

/-- From the call after `past` on, the fault is latched and the hardware is left as it was. -/
def FeedingStopped (be : WatchdogBackend κ) (s : κ × WatchdogFg23) (past : List (Fg23Call × Nat))
    (back : Fg23Call × Nat) (later : List (Fg23Call × Nat)) : Prop :=
  ∀ middle rest, later = middle ++ rest →
    let r := (past ++ back :: middle).foldl (fg23Step be) s
    r.2.clockFaultLatched = true ∧ r.1 = (past.foldl (fg23Step be) s).1

theorem stepped_append {t : Nat} {past later : List (Fg23Call × Nat)} :
    Stepped t (past ++ later) ↔ Stepped t past ∧ Stepped (timeAt t past) later := by
  induction past generalizing t with
  | nil => simp [Stepped, timeAt]
  | cons c past ih =>
    simp only [List.cons_append, Stepped, timeAt, ih, and_assoc]

/-- Steps that do not go back are those of a clock that runs. -/
theorem Forward.spaced {t : Nat} {calls : List (Fg23Call × Nat)} (h : Forward t calls) (hs : Stepped t calls) :
    Spaced t calls := by
  induction calls generalizing t with
  | nil => trivial
  | cons c calls ih => exact ⟨h.1, hs.1, ih h.2 hs.2.2⟩

/-! ## One read -/

/-- A step back within one lap of the counter shows a smaller sample, and a difference above `INT32_MAX`. -/
theorem back_seen {t u : Nat} (hlap : Clock.lap 32 u = Clock.lap 32 t) (hback : u < t) (hnear : t < u + 2 ^ 31) :
    Clock.reading 32 u < Clock.reading 32 t ∧ int32Max < Clock.reading 32 u - Clock.reading 32 t := by
  have hreading := Clock.reading_add_sub hlap.symm (Nat.le_of_lt hback)
  have hdelta := Clock.toNat_sub_reading_back (w := 32) hback (by omega)
  have hmax : int32Max.toNat = 2 ^ 31 - 1 := rfl
  constructor
  · rw [BitVec.lt_def]
    omega
  · rw [BitVec.lt_def, hdelta]
    omega

/-- A step back into the lap before shows a larger one. -/
theorem back_unseen {t u : Nat} (hlap : Clock.lap 32 u ≠ Clock.lap 32 t) (hback : u < t) (hnear : t < u + 2 ^ 31) :
    ¬ Clock.reading 32 u < Clock.reading 32 t := by
  have hmono := Clock.lap_mono (w := 32) (Nat.le_of_lt hback)
  have hreading := Clock.reading_lt_of_lap_lt (w := 32) (Nat.lt_of_le_of_ne hmono hlap) (by omega)
  rw [BitVec.lt_def]
  omega

/-- **Step: the clock goes back.** The read latches the fault exactly when it stays in its lap. -/
theorem Counting.clockMs_back {t₀ t u : Nat} {w : WatchdogFg23} (h : Counting t₀ t w) (hback : u < t)
    (hnear : t < u + 2 ^ 31) :
    (w.clockMs (Clock.reading 32 u)).1.clockFaultLatched = true ↔ Clock.lap 32 u = Clock.lap 32 t := by
  unfold WatchdogFg23.clockMs
  dsimp only
  rw [h.initialized, h.previous, Bool.not_true, if_neg Bool.false_ne_true]
  by_cases hlap : Clock.lap 32 u = Clock.lap 32 t
  · obtain ⟨hless, hfar⟩ := back_seen hlap hback hnear
    rw [if_pos (by simp only [hless, hfar, decide_true, Bool.and_true])]
    exact iff_of_true rfl hlap
  · have hnot := back_unseen hlap hback hnear
    rw [if_neg (by simp only [hnot, decide_false, Bool.false_and, Bool.false_eq_true, not_false_eq_true])]
    have hfault : w.clockFaultLatched ≠ true := by simp only [h.noFault.1, ne_eq, Bool.false_eq_true, not_false_eq_true]
    exact iff_of_false hfault hlap

/-- A latched fault stays latched over every read. -/
theorem clockMs_latched {w : WatchdogFg23} (h : w.clockFaultLatched = true) (currentUs : U32) :
    (w.clockMs currentUs).1.clockFaultLatched = true := by
  unfold WatchdogFg23.clockMs
  dsimp only
  split
  · exact h
  · split
    · rfl
    · exact h

/-! ## One call -/

/-- A call latches the fault if and only if its read does. -/
theorem fg23Step_latched (be : WatchdogBackend κ) (s : κ × WatchdogFg23) (c : Fg23Call × Nat) :
    (fg23Step be s c).2.clockFaultLatched = (s.2.clockMs (Clock.reading 32 c.2)).1.clockFaultLatched := by
  obtain ⟨call, u⟩ := c
  cases call with
  | report taskIndex =>
    simp only [fg23Step, WatchdogFg23.report]
    split <;> rfl
  | process =>
    simp only [fg23Step, WatchdogFg23.process]
    split
    · rfl
    · split
      · rfl
      · split <;> rfl

/-- A call whose read finds the fault latched leaves the hardware alone. -/
theorem fg23Step_hardware (be : WatchdogBackend κ) (s : κ × WatchdogFg23) (c : Fg23Call × Nat)
    (h : (s.2.clockMs (Clock.reading 32 c.2)).1.clockFaultLatched = true) : (fg23Step be s c).1 = s.1 := by
  obtain ⟨call, u⟩ := c
  cases call with
  | report taskIndex => rfl
  | process => simp only [fg23Step, WatchdogFg23.process, h, if_true]

/-- **Run: latched.** No later call, at whatever time, clears the fault or feeds. -/
theorem backRun_latched (be : WatchdogBackend κ) {s : κ × WatchdogFg23} (calls : List (Fg23Call × Nat))
    (h : s.2.clockFaultLatched = true) :
    (calls.foldl (fg23Step be) s).2.clockFaultLatched = true ∧ (calls.foldl (fg23Step be) s).1 = s.1 := by
  induction calls generalizing s with
  | nil => exact ⟨h, rfl⟩
  | cons c calls ih =>
    have hread := clockMs_latched h (Clock.reading 32 c.2)
    obtain ⟨hlatched, hsame⟩ := ih ((fg23Step_latched be s c).trans hread)
    exact ⟨hlatched, hsame.trans (fg23Step_hardware be s c hread)⟩

/-- What stops the feeding is the read of the call itself. -/
theorem feedingStopped_iff (be : WatchdogBackend κ) (s : κ × WatchdogFg23) (past : List (Fg23Call × Nat))
    (back : Fg23Call × Nat) (later : List (Fg23Call × Nat)) :
    FeedingStopped be s past back later ↔
      ((past.foldl (fg23Step be) s).2.clockMs (Clock.reading 32 back.2)).1.clockFaultLatched = true := by
  have hlatched := fg23Step_latched be (past.foldl (fg23Step be) s) back
  constructor
  · intro h
    obtain ⟨hnow, -⟩ := h [] later rfl
    rw [List.foldl_append, List.foldl_cons, List.foldl_nil, hlatched] at hnow
    exact hnow
  · rintro h middle rest -
    obtain ⟨hstays, hsame⟩ := backRun_latched be middle (hlatched.trans h)
    rw [List.foldl_append, List.foldl_cons]
    exact ⟨hstays, hsame.trans (fg23Step_hardware be _ back h)⟩

/-! ## The run -/

/-- **When a clock that goes back stops the feeding.** For every run with steps below 2^31 us, forwards or
backwards, up to and past its first backward step: from that call on the fault is latched and the hardware
is never fed again, whatever calls follow, if and only if the step does not cross a multiple of 2^32 us. -/
theorem backward_stops_feeding (be : WatchdogBackend κ) (k : κ) (config : WatchdogFg23Config) (t₀ : Nat)
    (s : κ × WatchdogFg23) (past later : List (Fg23Call × Nat)) (back : Fg23Call × Nat)
    (hinit : WatchdogFg23.init be k config (Clock.reading 32 t₀) = some s)
    (hstepped : Stepped t₀ (past ++ back :: later)) (hforward : Forward t₀ past)
    (hback : back.2 < timeAt t₀ past) :
    FeedingStopped be s past back later ↔ back.2 / 2 ^ 32 = timeAt t₀ past / 2 ^ 32 := by
  obtain ⟨hpast, -, hnear, -⟩ := stepped_append.1 hstepped
  obtain ⟨hcounting, -⟩ := init_counting hinit
  obtain ⟨hcounted, -⟩ := hcounting.run be past (Nat.le_refl _) (hforward.spaced hpast)
  rw [feedingStopped_iff]
  exact hcounted.clockMs_back hback hnear

/-- The clock goes back by 2 us within its lap. -/
theorem backward_stops_feeding_two_us :
    FeedingStopped countingBackend (0, oneTaskStart) [(.report 0, 1000)] (.process, 998) [(.process, 2000)] ↔
      998 / 2 ^ 32 = timeAt 0 [(.report 0, 1000)] / 2 ^ 32 :=
  backward_stops_feeding countingBackend 0 oneTask 0 _ [(.report 0, 1000)] [(.process, 2000)] (.process, 998)
    init_oneTask (by decide) ⟨by decide, trivial⟩ (by decide)

/-- The watchdog after a first read just past a multiple of 2^32 us. -/
def wrappedStart : WatchdogFg23 := ⟨oneTaskGate, 5, 5, 0, 0, true, false⟩

/-- 21 us back over that multiple: the report is taken, and the evaluation 6 us later feeds the hardware. -/
theorem wrapped_back_feeds :
    WatchdogFg23.init countingBackend 0 oneTask (Clock.reading 32 4294967301) = some (0, wrappedStart) ∧
      Stepped 4294967301 [(.report 0, 4294967280), (.process, 4294967286)] ∧
      (4294967280 : Nat) < timeAt 4294967301 [] ∧
      ¬ FeedingStopped countingBackend (0, wrappedStart) [] (.report 0, 4294967280) [(.process, 4294967286)] ∧
      ([(.report 0, 4294967280), (.process, 4294967286)].foldl (fg23Step countingBackend) (0, wrappedStart)).1 = 1 := by
  refine ⟨rfl, by decide, by decide, ?_, by decide +kernel⟩
  intro h
  obtain ⟨hlatched, -⟩ := h [] _ rfl
  exact absurd hlatched (by decide +kernel)

end OpenRef.Watchdog
