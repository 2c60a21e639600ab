import Mathlib.Data.FinEnum
import OpenRef.Base
import OpenRef.Lib.Run
/-!
# The button filter (openref_button_filter.c)

Four buttons come in as one mask of raw levels. A level that differs from the stable one becomes stable when
it has been the candidate for the debounce time, which emits a press or a release, and a button that stays
pressed emits one long press. When the clock goes back, no button is looked at, and every candidate counts
from the new time.

The buttons share the clock and nothing else: `update_view` says that an update takes each of them on as
`Button.update` does, whatever the others do.
-/

namespace OpenRef.Controls

/-- `OPENREF_BUTTON_COUNT`. -/
abbrev buttonCount : Nat := 4

/-- `openref_button_filter_config_t`. -/
structure ButtonFilterConfig where
  debounceMs : U32
  longPressMs : U32
deriving DecidableEq, Repr

/-- The configurations that `openref_button_filter_init` accepts (:10-11). -/
def ButtonFilterConfig.valid (config : ButtonFilterConfig) : Bool :=
  config.debounceMs ≠ 0 && config.debounceMs < config.longPressMs

/-- `openref_button_events_t`. -/
structure ButtonEvents where
  pressed : U8
  released : U8
  longPressed : U8
  stablePressed : U8
deriving DecidableEq, Repr

/-- `openref_button_events_t events = {0}`. -/
def ButtonEvents.zero : ButtonEvents := ⟨0, 0, 0, 0⟩

/-- `openref_button_filter_t`. -/
structure ButtonFilter where
  config : ButtonFilterConfig
  lastTickMs : U64
  candidateSinceMs : Fin buttonCount → U64
  pressedSinceMs : Fin buttonCount → U64
  candidatePressed : U8
  stablePressed : U8
  longEmitted : U8
  clockFaultCount : U32
  configValid : config.valid = true

/-! ## Masks -/

/-- `(mask & 0xf0u) == 0u`: only the four buttons are in the mask. -/
def maskValid (mask : U8) : Bool := mask &&& 0xf0 = 0

/-- `(uint8_t)(1u << button)`. -/
def buttonBit (button : Fin buttonCount) : U8 := 1 <<< button.val

/-- `(mask & bit) != 0u`. -/
def isSet (mask : U8) (button : Fin buttonCount) : Bool := mask &&& buttonBit button ≠ 0

theorem buttonBit_eq (b : Fin buttonCount) : buttonBit b = BitVec.twoPow 8 b.val := (BitVec.twoPow_eq 8 b.val).symm

theorem lt_eight (b : Fin buttonCount) : b.val < 8 := Nat.lt_of_lt_of_le b.isLt (by decide)

theorem getLsbD_buttonBit (b c : Fin buttonCount) : (buttonBit b).getLsbD c.val = decide (c = b) := by
  rw [buttonBit_eq, BitVec.getLsbD_twoPow, decide_eq_true (lt_eight b), Bool.true_and, decide_eq_decide]
  exact ⟨fun h => Fin.ext h.symm, fun h => congrArg Fin.val h.symm⟩

theorem isSet_eq (mask : U8) (b : Fin buttonCount) : isSet mask b = mask.getLsbD b.val := by
  have hbit : BitVec.twoPow 8 b.val ≠ 0 := by
    intro h
    have hb := congrArg (fun v => v.getLsbD b.val) h
    simp [lt_eight b] at hb
  rw [isSet, buttonBit_eq, BitVec.and_twoPow]
  cases mask.getLsbD b.val with
  | true => exact decide_eq_true hbit
  | false => rfl

@[simp] theorem isSet_xor (mask : U8) (b c : Fin buttonCount) :
    isSet (mask ^^^ buttonBit b) c = (isSet mask c ^^ decide (c = b)) := by
  rw [isSet_eq, isSet_eq, BitVec.getLsbD_xor, getLsbD_buttonBit]

@[simp] theorem isSet_or (mask : U8) (b c : Fin buttonCount) :
    isSet (mask ||| buttonBit b) c = (isSet mask c || decide (c = b)) := by
  rw [isSet_eq, isSet_eq, BitVec.getLsbD_or, getLsbD_buttonBit]

@[simp] theorem isSet_clear (mask : U8) (b c : Fin buttonCount) :
    isSet (mask &&& ~~~buttonBit b) c = (isSet mask c && !decide (c = b)) := by
  rw [isSet_eq, isSet_eq, BitVec.getLsbD_and, BitVec.getLsbD_not, getLsbD_buttonBit, decide_eq_true (lt_eight c),
    Bool.true_and]

@[simp] theorem isSet_zero (b : Fin buttonCount) : isSet 0 b = false := by
  rw [isSet_eq]
  exact BitVec.getLsbD_zero

/-! ## The filter -/

namespace ButtonFilter

/-- `openref_button_filter_init` (:6-25). -/
def init (config : ButtonFilterConfig) (initialPressed : U8) (nowMs : U64) : Option ButtonFilter :=
  if h : config.valid = true ∧ maskValid initialPressed = true then
    some ⟨config, nowMs, fun _ => nowMs, fun _ => nowMs, initialPressed, initialPressed, 0, 0, h.1⟩
  else none

/-- A candidate becomes stable (:55-64). -/
def settle (nowMs : U64) (s : ButtonFilter × ButtonEvents) (button : Fin buttonCount) : ButtonFilter × ButtonEvents :=
  let bit := buttonBit button
  let filter := { s.1 with stablePressed := s.1.stablePressed ^^^ bit }
  if isSet filter.candidatePressed button then
    ({ filter with
        pressedSinceMs := Function.update filter.pressedSinceMs button nowMs
        longEmitted := filter.longEmitted &&& ~~~bit }, { s.2 with pressed := s.2.pressed ||| bit })
  else
    ({ filter with longEmitted := filter.longEmitted &&& ~~~bit }, { s.2 with released := s.2.released ||| bit })

/-- A button that is held long enough (:67-72). -/
def hold (nowMs : U64) (stable : Bool) (s : ButtonFilter × ButtonEvents) (button : Fin buttonCount) :
    ButtonFilter × ButtonEvents :=
  let bit := buttonBit button
  if stable && !isSet s.1.longEmitted button &&
      decide (s.1.config.longPressMs.setWidth 64 ≤ nowMs - s.1.pressedSinceMs button) then
    ({ s.1 with longEmitted := s.1.longEmitted ||| bit }, { s.2 with longPressed := s.2.longPressed ||| bit })
  else s

/-- The body of the loop over the buttons (:43-73). -/
def updateButton (rawPressed : U8) (nowMs : U64) (s : ButtonFilter × ButtonEvents) (button : Fin buttonCount) :
    ButtonFilter × ButtonEvents :=
  let raw := isSet rawPressed button
  let candidate := isSet s.1.candidatePressed button
  let stable := isSet s.1.stablePressed button
  if raw ≠ candidate then
    ({ s.1 with
        candidatePressed := s.1.candidatePressed ^^^ buttonBit button
        candidateSinceMs := Function.update s.1.candidateSinceMs button nowMs }, s.2)
  else if candidate ≠ stable ∧ s.1.config.debounceMs.setWidth 64 ≤ nowMs - s.1.candidateSinceMs button then
    hold nowMs candidate (settle nowMs s button) button
  else hold nowMs stable s button

/-- `openref_button_filter_update` (:28-76). -/
def update (f : ButtonFilter) (rawPressed : U8) (nowMs : U64) : ButtonFilter × ButtonEvents :=
  if !maskValid rawPressed then (f, ButtonEvents.zero)
  else if nowMs < f.lastTickMs then
    ({ f with clockFaultCount := f.clockFaultCount + 1, lastTickMs := nowMs, candidateSinceMs := fun _ => nowMs },
      { ButtonEvents.zero with stablePressed := f.stablePressed })
  else
    let s := (List.finRange buttonCount).foldl (updateButton rawPressed nowMs)
      ({ f with lastTickMs := nowMs }, ButtonEvents.zero)
    (s.1, { s.2 with stablePressed := s.1.stablePressed })

end ButtonFilter

/-! ## One button -/

/-- What the filter keeps of one button, and what it has emitted of it in this update. -/
structure Button where
  candidate : Bool
  stable : Bool
  longEmitted : Bool
  candidateSince : U64
  pressedSince : U64
  pressed : Bool
  released : Bool
  longPressed : Bool
deriving DecidableEq, Repr

namespace Button

def settle (nowMs : U64) (b : Button) : Button :=
  if b.candidate then
    { b with stable := !b.stable, longEmitted := false, pressedSince := nowMs, pressed := true }
  else { b with stable := !b.stable, longEmitted := false, released := true }

def hold (config : ButtonFilterConfig) (nowMs : U64) (stable : Bool) (b : Button) : Button :=
  if stable && !b.longEmitted && decide (config.longPressMs.setWidth 64 ≤ nowMs - b.pressedSince) then
    { b with longEmitted := true, longPressed := true }
  else b

/-- The candidate has lasted long enough to become stable. -/
def Settles (b : Button) (config : ButtonFilterConfig) (nowMs : U64) : Prop :=
  b.candidate ≠ b.stable ∧ config.debounceMs.setWidth 64 ≤ nowMs - b.candidateSince

instance (b : Button) (config : ButtonFilterConfig) (nowMs : U64) : Decidable (b.Settles config nowMs) :=
  inferInstanceAs (Decidable (_ ∧ _))

/-- The loop body as one button sees it. -/
def update (config : ButtonFilterConfig) (raw : Bool) (nowMs : U64) (b : Button) : Button :=
  if raw ≠ b.candidate then { b with candidate := !b.candidate, candidateSince := nowMs }
  else if b.Settles config nowMs then
    (b.settle nowMs).hold config nowMs b.candidate
  else b.hold config nowMs b.stable

/-- Everything an update can do to a button of which it has emitted nothing. -/
inductive Updated (config : ButtonFilterConfig) (raw : Bool) (nowMs : U64) (b : Button) : Button → Prop
  | flips (h : raw ≠ b.candidate) :
    Updated config raw nowMs b { b with candidate := !b.candidate, candidateSince := nowMs }
  | presses (hraw : raw = true) (hc : b.candidate = true) (hs : b.stable = false) (hd : b.Settles config nowMs) :
    Updated config raw nowMs b { b with stable := true, longEmitted := false, pressedSince := nowMs, pressed := true }
  | releases (hraw : raw = false) (hc : b.candidate = false) (hs : b.stable = true) (hd : b.Settles config nowMs) :
    Updated config raw nowMs b { b with stable := false, longEmitted := false, released := true }
  | holds (hraw : raw = b.candidate) (hn : ¬ b.Settles config nowMs) (hs : b.stable = true)
    (hl : b.longEmitted = false) (hlong : config.longPressMs.setWidth 64 ≤ nowMs - b.pressedSince) :
    Updated config raw nowMs b { b with longEmitted := true, longPressed := true }
  | stays (hraw : raw = b.candidate) (hn : ¬ b.Settles config nowMs) : Updated config raw nowMs b b

theorem hold_cases (config : ButtonFilterConfig) (nowMs : U64) (stable : Bool) (b : Button) :
    (stable = true ∧ b.longEmitted = false ∧ config.longPressMs.setWidth 64 ≤ nowMs - b.pressedSince ∧
      b.hold config nowMs stable = { b with longEmitted := true, longPressed := true }) ∨
    b.hold config nowMs stable = b := by
  unfold hold
  split
  · next h =>
    rw [Bool.and_eq_true, Bool.and_eq_true, Bool.not_eq_true', decide_eq_true_eq] at h
    exact .inl ⟨h.1.1, h.1.2, h.2, rfl⟩
  · exact .inr rfl

/-- The long press time of a valid configuration is not over when it begins. -/
theorem not_long_at_once {config : ButtonFilterConfig} (hv : config.valid = true) (nowMs : U64) :
    ¬ config.longPressMs.setWidth 64 ≤ nowMs - nowMs := by
  unfold ButtonFilterConfig.valid at hv
  rw [Bool.and_eq_true, decide_eq_true_eq, decide_eq_true_eq, BitVec.lt_def] at hv
  rw [BitVec.sub_self, BitVec.le_def, toNat_setWidth_64]
  simp only [BitVec.toNat_ofNat, Nat.zero_mod]
  omega

theorem update_updated {config : ButtonFilterConfig} (hv : config.valid = true) (raw : Bool) (nowMs : U64)
    (b : Button) : Updated config raw nowMs b (b.update config raw nowMs) := by
  unfold update
  split
  · next h => exact .flips h
  · next h =>
    rw [ne_eq, not_not] at h
    split
    · next hd =>
      have hne := hd.1
      unfold settle
      by_cases hc : b.candidate = true
      · have hs : b.stable = false := by simpa [hc] using hne
        rw [if_pos hc, hs, Bool.not_false]
        rcases hold_cases config nowMs b.candidate
          { b with stable := true, longEmitted := false, pressedSince := nowMs, pressed := true }
          with ⟨-, -, hlong, -⟩ | hhold
        · exact absurd hlong (not_long_at_once hv nowMs)
        · rw [hhold]
          exact .presses (h.trans hc) hc hs hd
      · have hc' : b.candidate = false := Bool.eq_false_iff.2 hc
        have hs : b.stable = true := by simpa [hc'] using hne
        rw [if_neg hc, hs, Bool.not_true]
        rcases hold_cases config nowMs b.candidate { b with stable := false, longEmitted := false, released := true }
          with ⟨hstable, -⟩ | hhold
        · exact absurd hstable hc
        · rw [hhold]
          exact .releases (h.trans hc') hc' hs hd
    · next hn =>
      rcases b.hold_cases config nowMs b.stable with ⟨hs, hl, hlong, hhold⟩ | hhold
      · rw [hhold]
        exact .holds h hn hs hl hlong
      · rw [hhold]
        exact .stays h hn

end Button

namespace ButtonFilter

/-- The view of one button. -/
def view (s : ButtonFilter × ButtonEvents) (b : Fin buttonCount) : Button :=
  ⟨isSet s.1.candidatePressed b, isSet s.1.stablePressed b, isSet s.1.longEmitted b, s.1.candidateSinceMs b,
    s.1.pressedSinceMs b, isSet s.2.pressed b, isSet s.2.released b, isSet s.2.longPressed b⟩

variable {s : ButtonFilter × ButtonEvents} {nowMs : U64}

theorem settle_config (nowMs : U64) (s : ButtonFilter × ButtonEvents) (b : Fin buttonCount) :
    (settle nowMs s b).1.config = s.1.config ∧ (settle nowMs s b).1.lastTickMs = s.1.lastTickMs := by
  unfold settle
  dsimp only
  split <;> exact ⟨rfl, rfl⟩

theorem hold_config (nowMs : U64) (stable : Bool) (s : ButtonFilter × ButtonEvents) (b : Fin buttonCount) :
    (hold nowMs stable s b).1.config = s.1.config ∧ (hold nowMs stable s b).1.lastTickMs = s.1.lastTickMs := by
  unfold hold
  dsimp only
  split <;> exact ⟨rfl, rfl⟩

theorem settle_own (b : Fin buttonCount) : view (settle nowMs s b) b = (view s b).settle nowMs := by
  unfold settle Button.settle
  cases h : isSet s.1.candidatePressed b <;> simp [view, h]

theorem settle_other {b c : Fin buttonCount} (h : c ≠ b) : view (settle nowMs s b) c = view s c := by
  unfold settle
  cases hc : isSet s.1.candidatePressed b <;> simp [view, hc, h]

theorem hold_own (stable : Bool) (b : Fin buttonCount) :
    view (hold nowMs stable s b) b = (view s b).hold s.1.config nowMs stable := by
  unfold hold Button.hold
  dsimp only
  split
  · next h =>
    refine Eq.trans ?_ (if_pos h).symm
    simp [view]
  · next h => exact (if_neg h).symm

theorem hold_other (stable : Bool) {b c : Fin buttonCount} (h : c ≠ b) : view (hold nowMs stable s b) c = view s c := by
  unfold hold
  dsimp only
  split <;> simp [view, h]

theorem updateButton_config (nowMs : U64) (rawPressed : U8) (s : ButtonFilter × ButtonEvents) (b : Fin buttonCount) :
    (updateButton rawPressed nowMs s b).1.config = s.1.config ∧
      (updateButton rawPressed nowMs s b).1.lastTickMs = s.1.lastTickMs := by
  unfold updateButton
  dsimp only
  split
  · exact ⟨rfl, rfl⟩
  · split
    · have hsettle := settle_config nowMs s b
      have hhold := hold_config nowMs (isSet s.1.candidatePressed b) (settle nowMs s b) b
      exact ⟨hhold.1.trans hsettle.1, hhold.2.trans hsettle.2⟩
    · exact hold_config nowMs _ s b

theorem updateButton_own (rawPressed : U8) (b : Fin buttonCount) :
    view (updateButton rawPressed nowMs s b) b = (view s b).update s.1.config (isSet rawPressed b) nowMs := by
  unfold updateButton Button.update
  dsimp only
  split
  · next h =>
    refine Eq.trans ?_ (if_pos h).symm
    simp [view]
  · next h =>
    refine Eq.trans ?_ (if_neg h).symm
    split
    · next hs =>
      refine Eq.trans ?_ (if_pos hs).symm
      rw [hold_own, settle_own, (settle_config nowMs s b).1]
      rfl
    · next hs =>
      refine Eq.trans ?_ (if_neg hs).symm
      rw [hold_own]
      rfl

theorem updateButton_other (rawPressed : U8) {b c : Fin buttonCount} (h : c ≠ b) :
    view (updateButton rawPressed nowMs s b) c = view s c := by
  unfold updateButton
  dsimp only
  split
  · simp [view, h]
  · split
    · rw [hold_other _ h, settle_other h]
    · exact hold_other _ h

/-- The loop takes every button on by itself. -/
theorem loop_view (rawPressed : U8) (c : Fin buttonCount) : ∀ (buttons : List (Fin buttonCount))
    (s : ButtonFilter × ButtonEvents), buttons.Nodup →
    view (buttons.foldl (updateButton rawPressed nowMs) s) c =
      (if c ∈ buttons then (view s c).update s.1.config (isSet rawPressed c) nowMs else view s c) ∧
    (buttons.foldl (updateButton rawPressed nowMs) s).1.config = s.1.config ∧
    (buttons.foldl (updateButton rawPressed nowMs) s).1.lastTickMs = s.1.lastTickMs
  | [], _, _ => ⟨rfl, rfl, rfl⟩
  | b :: buttons, s, hn => by
    obtain ⟨hb, hrest⟩ := List.nodup_cons.1 hn
    obtain ⟨hview, hconfig, htick⟩ := loop_view rawPressed c buttons (updateButton rawPressed nowMs s b) hrest
    obtain ⟨hconfig', htick'⟩ := updateButton_config nowMs rawPressed s b
    refine ⟨?_, hconfig.trans hconfig', htick.trans htick'⟩
    rw [List.foldl_cons, hview, hconfig']
    by_cases hc : c = b
    · subst hc
      rw [if_neg hb, if_pos List.mem_cons_self, updateButton_own]
    · rw [updateButton_other _ hc]
      simp [hc]

/-! ## An update -/

variable {f : ButtonFilter} {rawPressed : U8}

/-- What the filter keeps of one button between updates. -/
def button (f : ButtonFilter) (b : Fin buttonCount) : Button := view (f, ButtonEvents.zero) b

theorem update_refused (h : maskValid rawPressed = false) : f.update rawPressed nowMs = (f, ButtonEvents.zero) := by
  unfold update
  rw [h]
  rfl

/-- A clock that has gone back. -/
theorem update_back (hv : maskValid rawPressed = true) (h : nowMs < f.lastTickMs) (b : Fin buttonCount) :
    view (f.update rawPressed nowMs) b = { f.button b with candidateSince := nowMs } ∧
      (f.update rawPressed nowMs).1.lastTickMs = nowMs ∧ (f.update rawPressed nowMs).1.config = f.config ∧
      (f.update rawPressed nowMs).2.stablePressed = (f.update rawPressed nowMs).1.stablePressed := by
  unfold update
  rw [hv, Bool.not_true, if_neg Bool.false_ne_true, if_pos h]
  exact ⟨rfl, rfl, rfl, rfl⟩

/-- **Every button is taken on by itself.** -/
theorem update_view (hv : maskValid rawPressed = true) (h : ¬ nowMs < f.lastTickMs) (b : Fin buttonCount) :
    view (f.update rawPressed nowMs) b = (f.button b).update f.config (isSet rawPressed b) nowMs ∧
      (f.update rawPressed nowMs).1.lastTickMs = nowMs ∧ (f.update rawPressed nowMs).1.config = f.config ∧
      (f.update rawPressed nowMs).2.stablePressed = (f.update rawPressed nowMs).1.stablePressed := by
  unfold update
  rw [hv, Bool.not_true, if_neg Bool.false_ne_true, if_neg h]
  obtain ⟨hview, hconfig, htick⟩ := loop_view rawPressed b (List.finRange buttonCount)
    ({ f with lastTickMs := nowMs }, ButtonEvents.zero) (List.nodup_finRange _)
  rw [if_pos (List.mem_finRange b)] at hview
  exact ⟨hview, htick, hconfig, rfl⟩

end ButtonFilter

end OpenRef.Controls
