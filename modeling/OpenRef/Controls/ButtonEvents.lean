import Mathlib.Data.List.Chain
import OpenRef.Controls.ButtonFilter
/-!
# What stands behind a button event (openref_button_filter.c)

A run of a filter is seen as the list of the updates it accepted, each with the events it emitted. A press
or a release is justified by the raw levels of the last updates (`HeldFor`), a long press by the press before
it and the time that was observed since, counting only forward steps of the clock (`LongPress`).

A clock that goes back takes both apart. The update that finds it back starts every candidate anew without
looking at the levels, so that a level it does not show becomes stable later; and it leaves the time of the
press, so that the unsigned difference to a clock before it is huge (`press_longs_at_once`). In a run in which
neither happens (`ClockSafe`) every event is justified (`buttons_sound`).
-/

namespace OpenRef.Controls

structure ButtonUpdate where
  rawPressed : U8
  nowMs : U64

/-- An accepted update and what it emitted. -/
structure ButtonSample where
  rawPressed : U8
  nowMs : U64
  events : ButtonEvents
deriving DecidableEq

/-- A filter and the updates it accepted so far. -/
structure ButtonRun where
  filter : ButtonFilter
  seen : List ButtonSample

namespace ButtonRun

/-- An update with a mask that is not valid is refused and emits nothing. -/
def step (r : ButtonRun) (u : ButtonUpdate) : ButtonRun :=
  ⟨(r.filter.update u.rawPressed u.nowMs).1,
    if maskValid u.rawPressed then
      r.seen ++ [⟨u.rawPressed, u.nowMs, (r.filter.update u.rawPressed u.nowMs).2⟩]
    else r.seen⟩

def run (filter : ButtonFilter) (updates : List ButtonUpdate) : ButtonRun := updates.foldl step ⟨filter, []⟩

end ButtonRun

/-! ## What is seen -/

/-- The time of the last update. -/
def lastMs (start : U64) (seen : List ButtonSample) : U64 := (seen.getLast?.map ButtonSample.nowMs).getD start

/-- The stable levels after the last update. -/
def stableAfter (initial : U8) (seen : List ButtonSample) : U8 :=
  (seen.getLast?.map fun o => o.events.stablePressed).getD initial

/-- The forward steps of the clock, from a time on. -/
def observedMs : U64 → List ButtonSample → Nat
  | _, [] => 0
  | t, o :: later => (o.nowMs.toNat - t.toNat) + observedMs o.nowMs later

/-- The last updates, from a time on, all show one level of the button, and the clock did not go back between them. -/
def Shown (level : Bool) (since : U64) (b : Fin buttonCount) (seen : List ButtonSample) : Prop :=
  ∃ earlier first later, seen = earlier ++ first :: later ∧ first.nowMs = since ∧
    (∀ o ∈ first :: later, isSet o.rawPressed b = level) ∧ (first :: later).IsChain fun o p => o.nowMs ≤ p.nowMs

/-- They span the given time. -/
def HeldFor (ms : U32) (level : Bool) (b : Fin buttonCount) (seen : List ButtonSample) : Prop :=
  ∃ since, Shown level since b seen ∧ since.toNat + ms.toNat ≤ (lastMs since seen).toNat

/-- The last update emitted a press of the button, or there is none and the button was pressed from the start. -/
def PressedBy (initial : U8) (b : Fin buttonCount) (seen : List ButtonSample) : Prop :=
  (seen = [] ∧ isSet initial b = true) ∨ ∃ earlier o, seen = earlier ++ [o] ∧ isSet o.events.pressed b = true

/-- Nothing is emitted of the button. -/
def ButtonSample.quiet (b : Fin buttonCount) (o : ButtonSample) : Prop :=
  isSet o.events.pressed b = false ∧ isSet o.events.released b = false ∧ isSet o.events.longPressed b = false

/-- The button was pressed, and nothing was emitted of it since. -/
def Waiting (initial : U8) (b : Fin buttonCount) (earlier later : List ButtonSample) : Prop :=
  PressedBy initial b earlier ∧ ∀ o ∈ later, o.quiet b

/-- A long press is the first one since the press, and the time observed since is long enough. -/
def LongPress (config : ButtonFilterConfig) (initial : U8) (start : U64) (b : Fin buttonCount)
    (past : List ButtonSample) (o : ButtonSample) : Prop :=
  ∃ earlier later, past = earlier ++ later ∧ Waiting initial b earlier later ∧
    config.longPressMs.toNat ≤ observedMs (lastMs start earlier) (later ++ [o])

/-- What is emitted of a button in an update is justified by what was seen before and in it. -/
structure Sound (config : ButtonFilterConfig) (initial : U8) (start : U64) (b : Fin buttonCount)
    (past : List ButtonSample) (o : ButtonSample) : Prop where
  pressed : isSet o.events.pressed b = true ↔
    isSet (stableAfter initial past) b = false ∧ isSet o.events.stablePressed b = true
  released : isSet o.events.released b = true ↔
    isSet (stableAfter initial past) b = true ∧ isSet o.events.stablePressed b = false
  pressedHeld : isSet o.events.pressed b = true → HeldFor config.debounceMs true b (past ++ [o])
  releasedHeld : isSet o.events.released b = true → HeldFor config.debounceMs false b (past ++ [o])
  long : isSet o.events.longPressed b = true →
    isSet o.events.stablePressed b = true ∧ LongPress config initial start b past o

/-- A level that waits to become stable is the level that is shown. -/
def Button.ShowsCandidate (v : Button) (raw : Bool) : Prop := v.candidate ≠ v.stable → raw = v.candidate

/-- A button whose long press is looked at was not pressed at a later time than the clock shows. -/
def Button.PressBehind (v : Button) (config : ButtonFilterConfig) (raw : Bool) (nowMs : U64) : Prop :=
  raw = v.candidate → v.stable = true → v.longEmitted = false → ¬ v.Settles config nowMs → v.pressedSince ≤ nowMs

instance (v : Button) (raw : Bool) : Decidable (v.ShowsCandidate raw) := inferInstanceAs (Decidable (_ → _))

instance (v : Button) (config : ButtonFilterConfig) (raw : Bool) (nowMs : U64) :
    Decidable (v.PressBehind config raw nowMs) := inferInstanceAs (Decidable (_ → _ → _ → _ → _))

/-- Where the clock goes back, every button shows its candidate; where it does not, every press is behind the clock. -/
def ClockSafe (r : ButtonRun) (u : ButtonUpdate) : Prop :=
  maskValid u.rawPressed = true → ∀ b : Fin buttonCount,
    if u.nowMs < r.filter.lastTickMs then (r.filter.button b).ShowsCandidate (isSet u.rawPressed b)
    else (r.filter.button b).PressBehind r.filter.config (isSet u.rawPressed b) u.nowMs

instance (r : ButtonRun) (u : ButtonUpdate) : Decidable (ClockSafe r u) := inferInstanceAs (Decidable (_ → _))

/-! ## Lists of updates -/

@[simp] theorem lastMs_nil (start : U64) : lastMs start [] = start := rfl

@[simp] theorem lastMs_concat (start : U64) (seen : List ButtonSample) (o : ButtonSample) :
    lastMs start (seen ++ [o]) = o.nowMs := by
  simp [lastMs]

@[simp] theorem stableAfter_concat (initial : U8) (seen : List ButtonSample) (o : ButtonSample) :
    stableAfter initial (seen ++ [o]) = o.events.stablePressed := by
  simp [stableAfter]

theorem lastMs_append (start : U64) (earlier later : List ButtonSample) :
    lastMs start (earlier ++ later) = lastMs (lastMs start earlier) later := by
  rcases List.eq_nil_or_concat later with rfl | ⟨later, o, rfl⟩
  · rw [List.append_nil, lastMs_nil]
  · rw [List.concat_eq_append, ← List.append_assoc, lastMs_concat, lastMs_concat]

theorem lastMs_cons (start : U64) (o : ButtonSample) (later : List ButtonSample) :
    lastMs start (o :: later) = lastMs o.nowMs later := lastMs_append start [o] later

/-- The clock is no further ahead than it was seen to go. -/
theorem lastMs_le : ∀ (start : U64) (seen : List ButtonSample),
    (lastMs start seen).toNat ≤ start.toNat + observedMs start seen
  | start, [] => Nat.le_refl _
  | start, o :: later => by
    have hrest := lastMs_le o.nowMs later
    rw [lastMs_cons, observedMs]
    omega

theorem observedMs_append : ∀ (start : U64) (earlier later : List ButtonSample),
    observedMs start (earlier ++ later) = observedMs start earlier + observedMs (lastMs start earlier) later
  | _, [], later => by rw [List.nil_append, observedMs, lastMs_nil, Nat.zero_add]
  | start, o :: earlier, later => by
    rw [List.cons_append, observedMs, observedMs_append o.nowMs earlier later, observedMs, lastMs_cons, Nat.add_assoc]

theorem Shown.fresh {level : Bool} {b : Fin buttonCount} (seen : List ButtonSample) {o : ButtonSample}
    (h : isSet o.rawPressed b = level) : Shown level o.nowMs b (seen ++ [o]) := by
  refine ⟨seen, o, [], rfl, rfl, fun p hp => ?_, List.isChain_singleton _⟩
  rw [List.mem_singleton.1 hp, h]

theorem Shown.concat {level : Bool} {since : U64} {b : Fin buttonCount} {seen : List ButtonSample} {o : ButtonSample}
    (h : Shown level since b seen) (ho : isSet o.rawPressed b = level) (ht : lastMs since seen ≤ o.nowMs) :
    Shown level since b (seen ++ [o]) := by
  obtain ⟨earlier, first, later, rfl, hfirst, hlevel, hchain⟩ := h
  refine ⟨earlier, first, later ++ [o], by simp, hfirst, fun p hp => ?_, ?_⟩
  · rw [← List.cons_append, List.mem_append, List.mem_singleton] at hp
    rcases hp with hp | rfl
    · exact hlevel p hp
    · exact ho
  · rw [← List.cons_append]
    refine List.isChain_append.2 ⟨hchain, List.isChain_singleton _, fun x hx _ hy => ?_⟩
    cases Option.some.inj hy
    have hlast : lastMs since (earlier ++ first :: later) = x.nowMs := by
      rw [lastMs_append, lastMs, Option.mem_def.1 hx]
      rfl
    exact hlast ▸ ht

theorem Waiting.concat {initial : U8} {b : Fin buttonCount} {earlier later : List ButtonSample} {o : ButtonSample}
    (h : Waiting initial b earlier later) (ho : o.quiet b) : Waiting initial b earlier (later ++ [o]) := by
  refine ⟨h.1, fun p hp => ?_⟩
  rcases List.mem_append.1 hp with hp | hp
  · exact h.2 p hp
  · rwa [List.mem_singleton.1 hp]

/-! ## The invariant -/

section
variable {config : ButtonFilterConfig} {initial : U8} {start : U64} {b : Fin buttonCount}
  {tick : U64} {v w : Button} {seen : List ButtonSample} {o : ButtonSample}

/-- What the filter keeps of a button is what was seen of it, and every event so far is justified. -/
structure Justified (config : ButtonFilterConfig) (initial : U8) (start : U64) (b : Fin buttonCount) (tick : U64)
    (v : Button) (seen : List ButtonSample) : Prop where
  tick_eq : tick = lastMs start seen
  stable : v.stable = isSet (stableAfter initial seen) b
  since : v.candidateSince ≤ tick
  pending : v.candidate ≠ v.stable → Shown v.candidate v.candidateSince b seen
  waiting : v.stable = true → v.longEmitted = false → ∃ earlier later, seen = earlier ++ later ∧
    Waiting initial b earlier later ∧ lastMs start earlier = v.pressedSince
  sound : Run.Each (Sound config initial start b) seen

/-- The sample of an update that left the button in this state. -/
structure Emitted (b : Fin buttonCount) (w : Button) (o : ButtonSample) : Prop where
  pressed : isSet o.events.pressed b = w.pressed
  released : isSet o.events.released b = w.released
  longPressed : isSet o.events.longPressed b = w.longPressed
  stable : isSet o.events.stablePressed b = w.stable

/-- Nothing has been emitted of the button yet. -/
def Button.Quiet (v : Button) : Prop := v.pressed = false ∧ v.released = false ∧ v.longPressed = false

theorem Emitted.quiet (ho : Emitted b w o) (hq : w.Quiet) : o.quiet b :=
  ⟨ho.pressed.trans hq.1, ho.released.trans hq.2.1, ho.longPressed.trans hq.2.2⟩

theorem Shown.lastMs_eq {level : Bool} {since : U64} (h : Shown level since b seen) (start : U64) :
    lastMs since seen = lastMs start seen := by
  obtain ⟨earlier, first, later, rfl, -⟩ := h
  rw [lastMs_append, lastMs_append start, lastMs_cons, lastMs_cons]

/-- An update that emits nothing and leaves the stable level needs no justification. -/
theorem Justified.sound_quiet (h : Justified config initial start b tick v seen) (ho : Emitted b w o) (hq : w.Quiet)
    (hs : w.stable = v.stable) : Sound config initial start b seen o := by
  have hquiet := ho.quiet hq
  have hstable : isSet o.events.stablePressed b = isSet (stableAfter initial seen) b :=
    ho.stable.trans (hs.trans h.stable)
  refine ⟨?_, ?_, fun hp => ?_, fun hp => ?_, fun hp => ?_⟩
  · rw [hquiet.1, hstable]
    cases isSet (stableAfter initial seen) b <;> simp
  · rw [hquiet.2.1, hstable]
    cases isSet (stableAfter initial seen) b <;> simp
  · exact absurd hp (ne_true_of_eq_false hquiet.1)
  · exact absurd hp (ne_true_of_eq_false hquiet.2.1)
  · exact absurd hp (ne_true_of_eq_false hquiet.2.2)

theorem Justified.waiting_quiet (h : Justified config initial start b tick v seen) (hq : o.quiet b)
    (hs : v.stable = true) (hl : v.longEmitted = false) : ∃ earlier later, seen ++ [o] = earlier ++ later ∧
      Waiting initial b earlier later ∧ lastMs start earlier = v.pressedSince := by
  obtain ⟨earlier, later, rfl, hw, hlast⟩ := h.waiting hs hl
  exact ⟨earlier, later ++ [o], List.append_assoc .., hw.concat hq, hlast⟩

theorem Justified.pending_concat (h : Justified config initial start b tick v seen)
    (hraw : isSet o.rawPressed b = v.candidate) (ht : tick ≤ o.nowMs) (hne : v.candidate ≠ v.stable) :
    Shown v.candidate v.candidateSince b (seen ++ [o]) :=
  (h.pending hne).concat hraw (((h.pending hne).lastMs_eq start).trans h.tick_eq.symm ▸ ht)

/-- A candidate that settles was shown for the debounce time. -/
theorem Justified.heldFor (h : Justified config initial start b tick v seen)
    (hraw : isSet o.rawPressed b = v.candidate) (ht : tick ≤ o.nowMs) (hd : v.Settles config o.nowMs) :
    HeldFor config.debounceMs v.candidate b (seen ++ [o]) := by
  refine ⟨v.candidateSince, h.pending_concat hraw ht hd.1, ?_⟩
  have hle := BitVec.le_def.1 hd.2
  have hsince := h.since
  rw [lastMs_concat]
  rw [toNat_setWidth_64] at hle
  simp only [BitVec.le_def] at hsince ht
  rw [BitVec.toNat_sub_of_le (BitVec.le_def.2 (hsince.trans ht))] at hle
  omega

/-- A long press comes the long press time after the press, by the time that was observed. -/
theorem Justified.longPress (h : Justified config initial start b tick v seen) (hs : v.stable = true)
    (hl : v.longEmitted = false) (hback : v.pressedSince ≤ o.nowMs)
    (hlong : config.longPressMs.setWidth 64 ≤ o.nowMs - v.pressedSince) :
    LongPress config initial start b seen o := by
  obtain ⟨earlier, later, rfl, hw, hlast⟩ := h.waiting hs hl
  refine ⟨earlier, later, rfl, hw, ?_⟩
  have hle := lastMs_le v.pressedSince (later ++ [o])
  rw [lastMs_concat] at hle
  rw [BitVec.le_def, toNat_setWidth_64, BitVec.toNat_sub_of_le hback] at hlong
  rw [hlast]
  omega

/-- **Step.** -/
theorem Justified.update (h : Justified config initial start b tick v seen) (hq : v.Quiet) (ht : tick ≤ o.nowMs)
    (hsafe : v.PressBehind config (isSet o.rawPressed b) o.nowMs)
    (hu : v.Updated config (isSet o.rawPressed b) o.nowMs w) (ho : Emitted b w o) :
    Justified config initial start b o.nowMs w (seen ++ [o]) := by
  have hstable : w.stable = isSet (stableAfter initial (seen ++ [o])) b := by
    rw [stableAfter_concat]
    exact ho.stable.symm
  have hlast : o.nowMs = lastMs start (seen ++ [o]) := (lastMs_concat ..).symm
  have hbefore := h.stable
  cases hu with
  | flips hflip =>
    refine ⟨hlast, hstable, BitVec.le_refl _, fun _ => Shown.fresh seen ?_, h.waiting_quiet (ho.quiet hq),
      h.sound.concat (h.sound_quiet ho hq rfl)⟩
    cases hc : v.candidate <;> simpa [hc] using hflip
  | presses hraw hc hs hd =>
    refine ⟨hlast, hstable, BitVec.le_trans h.since ht, fun hne => absurd hc hne, fun _ _ => ?_, h.sound.concat ?_⟩
    · exact ⟨seen ++ [o], [], (List.append_nil _).symm, ⟨.inr ⟨seen, o, rfl, ho.pressed⟩, fun _ hp => by cases hp⟩,
        lastMs_concat ..⟩
    · have hheld := h.heldFor (hraw.trans hc.symm) ht hd
      rw [hc] at hheld
      rw [hs] at hbefore
      have hreleased : isSet o.events.released b ≠ true := ne_true_of_eq_false (ho.released.trans hq.2.1)
      have hlong : isSet o.events.longPressed b ≠ true := ne_true_of_eq_false (ho.longPressed.trans hq.2.2)
      refine ⟨iff_of_true ho.pressed ⟨hbefore.symm, ho.stable⟩, iff_of_false hreleased fun hr => ?_, fun _ => hheld,
        fun hp => absurd hp hreleased, fun hp => absurd hp hlong⟩
      rw [← hbefore] at hr
      cases hr.1
  | releases hraw hc hs hd =>
    refine ⟨hlast, hstable, BitVec.le_trans h.since ht, fun hne => absurd hc hne, fun hst _ => (Bool.false_ne_true hst).elim,
      h.sound.concat ?_⟩
    have hheld := h.heldFor (hraw.trans hc.symm) ht hd
    rw [hc] at hheld
    rw [hs] at hbefore
    have hpressed : isSet o.events.pressed b ≠ true := ne_true_of_eq_false (ho.pressed.trans hq.1)
    have hlong : isSet o.events.longPressed b ≠ true := ne_true_of_eq_false (ho.longPressed.trans hq.2.2)
    refine ⟨iff_of_false hpressed fun hr => ?_, iff_of_true ho.released ⟨hbefore.symm, ho.stable⟩,
      fun hp => absurd hp hpressed, fun _ => hheld, fun hp => absurd hp hlong⟩
    rw [← hbefore] at hr
    cases hr.1
  | holds hraw hn hs hl hlong =>
    refine ⟨hlast, hstable, BitVec.le_trans h.since ht, h.pending_concat hraw ht, fun _ hl' => (Bool.false_ne_true hl'.symm).elim,
      h.sound.concat ?_⟩
    have hpress := h.longPress hs hl (hsafe hraw hs hl hn) hlong
    have hst : isSet o.events.stablePressed b = true := ho.stable.trans hs
    rw [hs] at hbefore
    have hpressed : isSet o.events.pressed b ≠ true := ne_true_of_eq_false (ho.pressed.trans hq.1)
    have hreleased : isSet o.events.released b ≠ true := ne_true_of_eq_false (ho.released.trans hq.2.1)
    refine ⟨iff_of_false hpressed fun hr => ?_, iff_of_false hreleased fun hr => ?_, fun hp => absurd hp hpressed,
      fun hp => absurd hp hreleased, fun _ => ⟨hst, hpress⟩⟩
    · rw [← hbefore] at hr
      cases hr.1
    · rw [hst] at hr
      cases hr.2
  | stays hraw hn =>
    exact ⟨hlast, hstable, BitVec.le_trans h.since ht, h.pending_concat hraw ht, h.waiting_quiet (ho.quiet hq),
      h.sound.concat (h.sound_quiet ho hq rfl)⟩

/-- A clock that goes back emits nothing, and starts a candidate that is shown anew. -/
theorem Justified.back (h : Justified config initial start b tick v seen) (hq : v.Quiet)
    (hsafe : v.ShowsCandidate (isSet o.rawPressed b)) (ho : Emitted b v o) :
    Justified config initial start b o.nowMs { v with candidateSince := o.nowMs } (seen ++ [o]) := by
  refine ⟨(lastMs_concat ..).symm, ?_, BitVec.le_refl _, fun hne => Shown.fresh seen (hsafe hne),
    h.waiting_quiet (ho.quiet hq), h.sound.concat (h.sound_quiet ho hq rfl)⟩
  rw [stableAfter_concat]
  exact ho.stable.symm

theorem Justified.of_view {e : ButtonFilter × ButtonEvents}
    (h : Justified config initial start b tick (ButtonFilter.view e b) seen) :
    Justified config initial start b tick (e.1.button b) seen :=
  ⟨h.tick_eq, h.stable, h.since, h.pending, h.waiting, h.sound⟩

end

theorem quiet_button (f : ButtonFilter) (b : Fin buttonCount) : (f.button b).Quiet :=
  ⟨isSet_zero b, isSet_zero b, isSet_zero b⟩

/-- Every button is justified. -/
structure Tracked (config : ButtonFilterConfig) (initial : U8) (start : U64) (r : ButtonRun) : Prop where
  sameConfig : r.filter.config = config
  button : ∀ b, Justified config initial start b r.filter.lastTickMs (r.filter.button b) r.seen

theorem init_tracked {config : ButtonFilterConfig} {initial : U8} {start : U64} {filter : ButtonFilter}
    (h : ButtonFilter.init config initial start = some filter) : Tracked config initial start ⟨filter, []⟩ := by
  unfold ButtonFilter.init at h
  split at h
  · cases h
    refine ⟨rfl, fun b => ⟨rfl, rfl, BitVec.le_refl _, fun hne => absurd rfl hne, fun hs _ => ?_, Run.each_nil⟩⟩
    exact ⟨[], [], rfl, ⟨.inl ⟨rfl, hs⟩, fun _ ho => by cases ho⟩, rfl⟩
  · cases h

theorem step_tracked {config : ButtonFilterConfig} {initial : U8} {start : U64} (r : ButtonRun) (u : ButtonUpdate)
    (h : Tracked config initial start r) (hsafe : ClockSafe r u) : Tracked config initial start (r.step u) := by
  cases hv : maskValid u.rawPressed with
  | false =>
    have hstep : r.step u = r := by
      rw [ButtonRun.step, ButtonFilter.update_refused hv, hv, if_neg Bool.false_ne_true]
    rwa [hstep]
  | true =>
    have hmet := hsafe hv
    have hseen : (r.step u).seen =
        r.seen ++ [⟨u.rawPressed, u.nowMs, (r.filter.update u.rawPressed u.nowMs).2⟩] := if_pos hv
    have hconfig := r.filter.configValid
    by_cases hback : u.nowMs < r.filter.lastTickMs
    · refine ⟨?_, fun b => ?_⟩
      · exact (ButtonFilter.update_back hv hback ⟨0, Nat.succ_pos 3⟩).2.2.1.trans h.sameConfig
      · obtain ⟨hview, htick, -, hstable⟩ := ButtonFilter.update_back hv hback b
        have hb := hmet b
        rw [if_pos hback] at hb
        have hemitted : Emitted b (r.filter.button b)
            ⟨u.rawPressed, u.nowMs, (r.filter.update u.rawPressed u.nowMs).2⟩ :=
          ⟨congrArg Button.pressed hview, congrArg Button.released hview, congrArg Button.longPressed hview,
            (congrArg (isSet · b) hstable).trans (congrArg Button.stable hview)⟩
        have hnext := (h.button b).back (quiet_button _ b) hb hemitted
        rw [← hview] at hnext
        have hlast : (r.step u).filter.lastTickMs = u.nowMs := htick
        rw [hseen, hlast]
        exact hnext.of_view
    · refine ⟨?_, fun b => ?_⟩
      · exact (ButtonFilter.update_view hv hback ⟨0, Nat.succ_pos 3⟩).2.2.1.trans h.sameConfig
      · obtain ⟨hview, htick, -, hstable⟩ := ButtonFilter.update_view hv hback b
        have hb := hmet b
        rw [if_neg hback, h.sameConfig] at hb
        have hemitted : Emitted b (ButtonFilter.view (r.filter.update u.rawPressed u.nowMs) b)
            ⟨u.rawPressed, u.nowMs, (r.filter.update u.rawPressed u.nowMs).2⟩ :=
          ⟨rfl, rfl, rfl, congrArg (isSet · b) hstable⟩
        have hupdated := Button.update_updated hconfig (isSet u.rawPressed b) u.nowMs (r.filter.button b)
        rw [← hview, h.sameConfig] at hupdated
        have hnext := (h.button b).update (quiet_button _ b) (BitVec.not_lt.1 hback) hb hupdated hemitted
        have hlast : (r.step u).filter.lastTickMs = u.nowMs := htick
        rw [hseen, hlast]
        exact hnext.of_view

/-- **Main result: every event is justified** in a run whose clock is safe, for any masks and any times. -/
theorem buttons_sound {config : ButtonFilterConfig} {initial : U8} {start : U64} {filter : ButtonFilter}
    (hinit : ButtonFilter.init config initial start = some filter) (updates : List ButtonUpdate)
    (hsafe : Run.Along ButtonRun.step ClockSafe ⟨filter, []⟩ updates) (b : Fin buttonCount) :
    Run.Each (Sound config initial start b) (ButtonRun.run filter updates).seen :=
  ((Run.inv_along step_tracked _ updates (init_tracked hinit) hsafe).button b).sound

/-- The debounce and long press times of the repository's tests. -/
def testButtons : ButtonFilterConfig := ⟨20, 500⟩

/-- Two buttons are pressed and held, the second one with a clock that goes back while it waits. -/
def heldButtons : List ButtonUpdate :=
  [⟨1, 110⟩, ⟨1, 130⟩, ⟨5, 140⟩, ⟨0x15, 150⟩, ⟨5, 131⟩, ⟨5, 160⟩, ⟨5, 640⟩, ⟨4, 650⟩, ⟨4, 680⟩]

theorem buttons_sound_held : ∃ filter, ButtonFilter.init testButtons 0 100 = some filter ∧
    ∀ b, Run.Each (Sound testButtons 0 100 b) (ButtonRun.run filter heldButtons).seen :=
  ⟨_, rfl, buttons_sound rfl heldButtons (by decide +kernel)⟩

/-- A press becomes stable at 140 ms; the clock goes back by a millisecond and stays there. -/
def clockBackPress : List ButtonUpdate := [⟨1, 120⟩, ⟨1, 140⟩, ⟨1, 139⟩, ⟨1, 139⟩]

/-- The difference to the press is below zero, and the long press is emitted after no time at all. -/
theorem press_longs_at_once : ¬ ∀ (config : ButtonFilterConfig) (initial : U8) (start : U64) (filter : ButtonFilter)
    (updates : List ButtonUpdate) (b : Fin buttonCount), ButtonFilter.init config initial start = some filter →
      Run.Each (Sound config initial start b) (ButtonRun.run filter updates).seen := by
  intro h
  have hseen : Run.Each _ (ButtonRun.run _ clockBackPress).seen :=
    h testButtons 0 100 _ clockBackPress ⟨0, Nat.succ_pos 3⟩ rfl
  have hsound := hseen [⟨1, 120, ⟨0, 0, 0, 0⟩⟩, ⟨1, 140, ⟨1, 0, 0, 1⟩⟩, ⟨1, 139, ⟨0, 0, 0, 1⟩⟩]
    ⟨1, 139, ⟨0, 0, 1, 1⟩⟩ [] (by decide +kernel)
  obtain ⟨-, earlier, later, hsplit, -, hlong⟩ := hsound.long (by decide)
  have hall := observedMs_append 100 earlier (later ++ [⟨1, 139, ⟨0, 0, 1, 1⟩⟩])
  rw [← List.append_assoc, ← hsplit] at hall
  have hfew : observedMs 100 ([⟨1, 120, ⟨0, 0, 0, 0⟩⟩, ⟨1, 140, ⟨1, 0, 0, 1⟩⟩, ⟨1, 139, ⟨0, 0, 0, 1⟩⟩] ++
      [⟨1, 139, ⟨0, 0, 1, 1⟩⟩]) = 40 := by decide
  have hmany : testButtons.longPressMs.toNat = 500 := rfl
  omega

end OpenRef.Controls
