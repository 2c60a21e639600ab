import OpenRef.Boot.Policy
import OpenRef.Lib.Run
/-!
# The confirmation of a boot (openref_boot_confirmation.c)

A pending slot that runs is confirmed once it was healthy for `soak_ms` without a break. A report that is not healthy, and
a clock that goes back, start the soak anew; one attempt is made to persist the confirmed state, and it decides.

`confirmed_iff_soaked`: over every run the record is written once, by the first report with a full soak behind it, and
never before; the slot is confirmed if and only if that write was reported.
-/

namespace OpenRef.Boot

/-- `openref_boot_confirmation_inputs_t`. -/
structure ConfirmationInputs where
  clocksOk : Bool
  storageOk : Bool
  watchdogOk : Bool
  criticalPeripheralsOk : Bool
  peerOk : Bool
  runningImageAuthenticated : Bool
deriving DecidableEq, Repr

/-- `all_healthy` (:6-11). -/
def ConfirmationInputs.allHealthy (i : ConfirmationInputs) : Bool :=
  i.clocksOk && i.storageOk && i.watchdogOk && i.criticalPeripheralsOk && i.peerOk && i.runningImageAuthenticated

/-- `openref_boot_confirmation_persist_fn` over a context `κ`. -/
abbrev PersistFn (κ : Type) := κ → BootState → κ × Bool

/-- `openref_boot_confirmation_t` once initialised. -/
structure BootConfirmation where
  bootState : BootState
  slots : BootSlots
  soakMs : U64
  healthySinceMs : U64
  lastNowMs : U64
  interruptedSoaks : U32
  clockFaults : U32
  persistenceFailures : U32
  runningSlot : U8
  healthyPeriodActive : Bool
  persistenceFaultLatched : Bool
  confirmed : Bool

/-- A call of `tick`: the inputs and the time. -/
abbrev SoakReport := ConfirmationInputs × U64

namespace BootConfirmation

variable {κ : Type} (persist : PersistFn κ)

/-- `openref_boot_confirmation_init` (:13-40) with a backend that is set. -/
def init (bootState : BootState) (slots : BootSlots) (runningSlot : U8) (soakMs nowMs : U64) : Option BootConfirmation :=
  if soakMs = 0 || !stateValid bootState || slotB < runningSlot || bootState.pendingSlot ≠ runningSlot ||
      !(slots.get runningSlot).present || !(slots.get runningSlot).authenticated ||
      (slots.get runningSlot).version < bootState.minimumVersion then none
  else some ⟨bootState, slots, soakMs, 0, nowMs, 0, 0, 0, runningSlot, false, false, false⟩

/-- The attempt to confirm (:73-84). -/
def attempt (k : κ) (s : BootConfirmation) : κ × BootConfirmation × Bool :=
  match confirm s.bootState s.runningSlot s.slots with
  | none => (k, { s with persistenceFailures := s.persistenceFailures + 1, persistenceFaultLatched := true }, false)
  | some confirmedState =>
    let p := persist k confirmedState
    if !p.2 then
      (p.1, { s with persistenceFailures := s.persistenceFailures + 1, persistenceFaultLatched := true }, false)
    else (p.1, { s with bootState := confirmedState, confirmed := true }, true)

/-- `openref_boot_confirmation_tick` (:42-85). -/
def tick (k : κ) (s : BootConfirmation) (inputs : ConfirmationInputs) (nowMs : U64) : κ × BootConfirmation × Bool :=
  if s.confirmed || s.persistenceFaultLatched then (k, s, false)
  else if nowMs < s.lastNowMs then
    (k, { s with clockFaults := s.clockFaults + 1, healthyPeriodActive := false, lastNowMs := nowMs }, false)
  else
    let s := { s with lastNowMs := nowMs }
    if !inputs.allHealthy then
      (k, { s with
        interruptedSoaks := if s.healthyPeriodActive then s.interruptedSoaks + 1 else s.interruptedSoaks
        healthyPeriodActive := false }, false)
    else if !s.healthyPeriodActive then (k, { s with healthyPeriodActive := true, healthySinceMs := nowMs }, false)
    else if nowMs - s.healthySinceMs < s.soakMs then (k, s, false)
    else s.attempt persist k

/-- The supervisor and its backend after a report. -/
def step (w : κ × BootConfirmation) (r : SoakReport) : κ × BootConfirmation :=
  let t := w.2.tick persist w.1 r.1 r.2
  (t.1, t.2.1)

end BootConfirmation

/-! ## Soaks -/

/-- The time of the last report. -/
def lastMs (start : U64) (reports : List SoakReport) : U64 := reports.foldl (fun _ r => r.2) start

/-- Healthy reports whose clock does not go back, from a time on. -/
def Steady : U64 → List SoakReport → Prop
  | _, [] => True
  | before, r :: rest => r.1.allHealthy = true ∧ before ≤ r.2 ∧ Steady r.2 rest

/-- The reports end in a soak of the full time. -/
def Soaked (start soakMs : U64) (reports : List SoakReport) : Prop :=
  ∃ past first rest, reports = past ++ first :: rest ∧ Steady (lastMs start past) (first :: rest) ∧
    first.2.toNat + soakMs.toNat ≤ (lastMs start reports).toNat

theorem lastMs_append (start : U64) (past soak : List SoakReport) :
    lastMs start (past ++ soak) = lastMs (lastMs start past) soak := List.foldl_append

theorem lastMs_concat (start : U64) (reports : List SoakReport) (r : SoakReport) : lastMs start (reports ++ [r]) = r.2 :=
  lastMs_append start reports [r]

theorem steady_concat : ∀ (before : U64) (soak : List SoakReport) (r : SoakReport),
    Steady before (soak ++ [r]) ↔ Steady before soak ∧ r.1.allHealthy = true ∧ lastMs before soak ≤ r.2
  | before, [], r => by simp [Steady, lastMs]
  | before, a :: soak, r => by
    rw [List.cons_append, Steady, Steady, steady_concat a.2 soak r]
    simp only [and_assoc]
    rfl

/-- The clock does not go back within a soak. -/
theorem le_lastMs : ∀ {before : U64} {soak : List SoakReport}, Steady before soak → before ≤ lastMs before soak
  | before, [], _ => BitVec.le_refl before
  | _, _ :: _, h => BitVec.le_trans h.2.1 (le_lastMs h.2.2)

/-- The soaks that end a list with one more report: the report alone, or a soak that it continues. -/
theorem split_concat {reports past rest : List SoakReport} {r first : SoakReport}
    (h : reports ++ [r] = past ++ first :: rest) :
    (past = reports ∧ first = r ∧ rest = []) ∨ ∃ soak, rest = soak ++ [r] ∧ reports = past ++ first :: soak := by
  rcases List.eq_nil_or_concat rest with rfl | ⟨soak, last, rfl⟩
  · obtain ⟨hreports, hr⟩ := List.append_inj' h rfl
    exact .inl ⟨hreports.symm, (List.cons.inj hr).1.symm, rfl⟩
  · rw [List.concat_eq_append, ← List.cons_append, ← List.append_assoc] at h
    obtain ⟨hreports, hr⟩ := List.append_inj' h rfl
    exact .inr ⟨soak, by rw [List.concat_eq_append, (List.cons.inj hr).1], hreports⟩

/-! ## What the supervisor knows -/

/-- The reports as the supervisor holds them: since when the last of them were healthy, if they were. -/
structure Follows (start : U64) (reports : List SoakReport) (s : BootConfirmation) : Prop where
  last : s.lastNowMs = lastMs start reports
  idle : s.healthyPeriodActive = false →
    ∀ past first rest, reports = past ++ first :: rest → ¬ Steady (lastMs start past) (first :: rest)
  active : s.healthyPeriodActive = true → ∃ past first rest, reports = past ++ first :: rest ∧
    Steady (lastMs start past) (first :: rest) ∧ first.2 = s.healthySinceMs
  longest : s.healthyPeriodActive = true → ∀ past first rest, reports = past ++ first :: rest →
    Steady (lastMs start past) (first :: rest) → s.healthySinceMs ≤ first.2

variable {start : U64} {reports : List SoakReport} {s s' : BootConfirmation} {r : SoakReport}

/-- A report that breaks the soak. -/
theorem follows_break (hbreak : r.1.allHealthy = false ∨ r.2 < lastMs start reports) (hlast : s'.lastNowMs = r.2)
    (hidle : s'.healthyPeriodActive = false) : Follows start (reports ++ [r]) s' := by
  refine ⟨hlast.trans (lastMs_concat ..).symm, fun _ past first rest hsplit hsteady => ?_, fun h => ?_, fun h => ?_⟩
  · have hr : r.1.allHealthy = true ∧ lastMs start reports ≤ r.2 := by
      rcases split_concat hsplit with ⟨rfl, rfl, rfl⟩ | ⟨soak, rfl, rfl⟩
      · exact ⟨hsteady.1, hsteady.2.1⟩
      · rw [← List.cons_append] at hsteady
        obtain ⟨-, hhealthy, hle⟩ := (steady_concat ..).1 hsteady
        rw [lastMs_append]
        exact ⟨hhealthy, hle⟩
    rcases hbreak with hb | hb
    · exact absurd (hb.symm.trans hr.1) Bool.false_ne_true
    · exact absurd hr.2 (BitVec.not_le.2 hb)
  · rw [hidle] at h
    cases h
  · rw [hidle] at h
    cases h

/-- The first report of a soak. -/
theorem follows_first (ht : Follows start reports s) (hidle : s.healthyPeriodActive = false)
    (hhealthy : r.1.allHealthy = true) (hle : lastMs start reports ≤ r.2) (hlast : s'.lastNowMs = r.2)
    (hactive : s'.healthyPeriodActive = true) (hsince : s'.healthySinceMs = r.2) : Follows start (reports ++ [r]) s' := by
  refine ⟨hlast.trans (lastMs_concat ..).symm, fun h => ?_, fun _ => ⟨reports, r, [], rfl, ⟨hhealthy, hle, trivial⟩,
    hsince.symm⟩, fun _ past first rest hsplit hsteady => ?_⟩
  · rw [hactive] at h
    cases h
  · rcases split_concat hsplit with ⟨-, rfl, -⟩ | ⟨soak, rfl, rfl⟩
    · rw [hsince]
      exact BitVec.le_refl _
    · rw [← List.cons_append] at hsteady
      exact absurd ((steady_concat ..).1 hsteady).1 (ht.idle hidle past first soak rfl)

/-- A report that continues a soak. -/
theorem follows_continue (ht : Follows start reports s) (hwas : s.healthyPeriodActive = true)
    (hhealthy : r.1.allHealthy = true) (hle : lastMs start reports ≤ r.2) (hlast : s'.lastNowMs = r.2)
    (hactive : s'.healthyPeriodActive = true) (hsince : s'.healthySinceMs = s.healthySinceMs) :
    Follows start (reports ++ [r]) s' := by
  obtain ⟨past₀, first₀, rest₀, hreports, hsteady₀, hfirst⟩ := ht.active hwas
  refine ⟨hlast.trans (lastMs_concat ..).symm, fun h => ?_, fun _ => ⟨past₀, first₀, rest₀ ++ [r], ?_, ?_, ?_⟩,
    fun _ past first rest hsplit hsteady => ?_⟩
  · rw [hactive] at h
    cases h
  · rw [hreports, List.append_assoc]
    rfl
  · rw [← List.cons_append]
    refine (steady_concat ..).2 ⟨hsteady₀, hhealthy, ?_⟩
    rw [← lastMs_append, ← hreports]
    exact hle
  · rw [hsince]
    exact hfirst
  · rw [hsince]
    rcases split_concat hsplit with ⟨-, rfl, -⟩ | ⟨soak, rfl, hsoak⟩
    · have hspan := le_lastMs hsteady₀.2.2
      have hend : lastMs first₀.2 rest₀ = lastMs start reports := by
        rw [hreports, lastMs_append]
        rfl
      rw [hend, hfirst] at hspan
      exact BitVec.le_trans hspan hle
    · rw [← List.cons_append] at hsteady
      exact ht.longest hwas past first soak hsoak ((steady_concat ..).1 hsteady).1

/-- The time since a soak began says whether it is full. -/
theorem soaked_iff (ht : Follows start reports s) (soakMs : U64) :
    Soaked start soakMs reports ↔
      s.healthyPeriodActive = true ∧ soakMs ≤ s.lastNowMs - s.healthySinceMs := by
  constructor
  · rintro ⟨past, first, rest, hsplit, hsteady, hfull⟩
    have hactive : s.healthyPeriodActive = true := by
      by_contra h
      exact ht.idle (Bool.eq_false_iff.2 h) past first rest hsplit hsteady
    have hsince : s.healthySinceMs.toNat ≤ first.2.toNat := ht.longest hactive past first rest hsplit hsteady
    refine ⟨hactive, ?_⟩
    rw [ht.last, BitVec.le_def, BitVec.toNat_sub_of_le (by rw [BitVec.le_def]; omega)]
    omega
  · rintro ⟨hactive, hfull⟩
    obtain ⟨past, first, rest, hsplit, hsteady, hfirst⟩ := ht.active hactive
    have hend : lastMs start reports = lastMs first.2 rest := by
      rw [hsplit, lastMs_append]
      rfl
    have hle := le_lastMs hsteady.2.2
    rw [← hend, hfirst] at hle
    rw [ht.last, BitVec.le_def, BitVec.toNat_sub_of_le hle] at hfull
    have hle' : s.healthySinceMs.toNat ≤ (lastMs start reports).toNat := hle
    refine ⟨past, first, rest, hsplit, hsteady, ?_⟩
    rw [hfirst]
    omega

/-! ## Runs -/

section Runs

variable {κ : Type} (persist : PersistFn κ) (k₀ : κ) (s₀ : BootConfirmation) (confirmed : BootState)

/-- A supervisor that was initialised: its slot can be confirmed. -/
structure Started (s : BootConfirmation) (soakMs nowMs : U64) (state confirmed : BootState) : Prop where
  soak : s.soakMs = soakMs ∧ soakMs ≠ 0
  now : s.lastNowMs = nowMs
  state : s.bootState = state
  confirms : confirm s.bootState s.runningSlot s.slots = some confirmed
  fresh : s.healthyPeriodActive = false ∧ s.persistenceFaultLatched = false ∧ s.confirmed = false

theorem init_started {bootState : BootState} {slots : BootSlots} {runningSlot : U8} {soakMs nowMs : U64}
    (h : BootConfirmation.init bootState slots runningSlot soakMs nowMs = some s) :
    ∃ confirmed, confirm bootState runningSlot slots = some confirmed ∧
      Started s soakMs nowMs bootState confirmed := by
  unfold BootConfirmation.init at h
  split at h
  · cases h
  · next hc =>
    obtain rfl := Option.some.inj h
    simp only [Bool.or_eq_true, decide_eq_true_eq, Bool.not_eq_true', not_or, Bool.not_eq_false, not_not,
      BitVec.not_lt] at hc
    obtain ⟨⟨⟨⟨⟨⟨hsoak, hvalid⟩, hslot⟩, hpending⟩, hpresent⟩, hauthenticated⟩, hversion⟩ := hc
    have hslotValid : slotIdValid runningSlot = true := by
      have hall : ∀ slot : U8, slot ≤ slotB → slotIdValid slot = true := by decide
      exact hall runningSlot hslot
    have heligible : eligible bootState (slots.get runningSlot) = true := by
      simp [eligible, hpresent, hauthenticated, hversion]
    have hconfirm : ∃ confirmed, confirm bootState runningSlot slots = some confirmed := by
      unfold confirm
      rw [if_neg (by simp [hvalid, hslotValid, heligible, hpending])]
      exact ⟨_, rfl⟩
    obtain ⟨confirmed, hconfirm⟩ := hconfirm
    exact ⟨confirmed, hconfirm, ⟨rfl, hsoak⟩, rfl, rfl, hconfirm, rfl, rfl, rfl⟩

/-- What a run leaves before its soak is full: the record is not written. -/
structure Waiting (start : U64) (reports : List SoakReport) (w : κ × BootConfirmation) : Prop where
  backend : w.1 = k₀
  same : w.2.bootState = s₀.bootState ∧ w.2.soakMs = s₀.soakMs ∧ w.2.runningSlot = s₀.runningSlot ∧ w.2.slots = s₀.slots
  undecided : w.2.persistenceFaultLatched = false ∧ w.2.confirmed = false
  follows : Follows start reports w.2

/-- What a run leaves once its soak was full: one write, and what it answered. -/
structure Decided (w : κ × BootConfirmation) : Prop where
  backend : w.1 = (persist k₀ confirmed).1
  answered : w.2.confirmed = (persist k₀ confirmed).2
  latched : w.2.persistenceFaultLatched = !(persist k₀ confirmed).2
  state : w.2.bootState = if (persist k₀ confirmed).2 then confirmed else s₀.bootState

variable {persist k₀ s₀ confirmed} {soakMs : U64} {state : BootState} {past : List SoakReport}
variable {w : κ × BootConfirmation}

/-- A decision stays. -/
theorem decided_step (h : Decided persist k₀ s₀ confirmed w) (r : SoakReport) :
    Decided persist k₀ s₀ confirmed (BootConfirmation.step persist w r) := by
  have hdone : (w.2.confirmed || w.2.persistenceFaultLatched) = true := by
    rw [h.answered, h.latched, Bool.or_not_self]
  unfold BootConfirmation.step BootConfirmation.tick
  rw [if_pos hdone]
  exact h

/-- The attempt decides. -/
theorem attempt_decided (hst : Started s₀ soakMs start state confirmed) (hw : Waiting k₀ s₀ start past w)
    (hs : s.bootState = w.2.bootState ∧ s.runningSlot = w.2.runningSlot ∧ s.slots = w.2.slots ∧
      s.persistenceFaultLatched = false ∧ s.confirmed = false) :
    Decided persist k₀ s₀ confirmed ((s.attempt persist w.1).1, (s.attempt persist w.1).2.1) := by
  obtain ⟨hstate, hrunning, hslots, hlatched, hconfirmed⟩ := hs
  obtain ⟨hstate', -, hrunning', hslots'⟩ := hw.same
  have hconfirm : confirm s.bootState s.runningSlot s.slots = some confirmed := by
    rw [hstate, hrunning, hslots, hstate', hrunning', hslots']
    exact hst.confirms
  unfold BootConfirmation.attempt
  rw [hconfirm, hw.backend]
  dsimp only
  cases hp : (persist k₀ confirmed).2 with
  | false =>
    refine ⟨rfl, hconfirmed.trans hp.symm, ?_, ?_⟩
    · rw [hp]
      rfl
    · rw [hp]
      exact hstate.trans hstate'
  | true =>
    refine ⟨rfl, hp.symm, ?_, ?_⟩
    · rw [hp]
      exact hlatched
    · rw [hp]
      rfl

variable (persist) in
/-- **A report decides if the soak is full with it**; before that nothing is written. -/
theorem waiting_step (hst : Started s₀ soakMs start state confirmed) (hw : Waiting k₀ s₀ start past w) (r : SoakReport) :
    (Soaked start soakMs (past ++ [r]) → Decided persist k₀ s₀ confirmed (BootConfirmation.step persist w r)) ∧
      (¬ Soaked start soakMs (past ++ [r]) → Waiting k₀ s₀ start (past ++ [r]) (BootConfirmation.step persist w r)) := by
  obtain ⟨hlatched, hconfirmed⟩ := hw.undecided
  obtain ⟨hstate, hsoak, hrunning, hslots⟩ := hw.same
  have hsoakMs : w.2.soakMs = soakMs := hsoak.trans hst.soak.1
  have hopen : ¬ (w.2.confirmed || w.2.persistenceFaultLatched) = true := by
    rw [hconfirmed, hlatched]
    exact Bool.false_ne_true
  -- a report after which the supervisor waits
  have hwaits (t : BootConfirmation) (ht : Follows start (past ++ [r]) t)
      (hkept : t.bootState = w.2.bootState ∧ t.soakMs = w.2.soakMs ∧ t.runningSlot = w.2.runningSlot ∧
        t.slots = w.2.slots ∧ t.persistenceFaultLatched = w.2.persistenceFaultLatched ∧ t.confirmed = w.2.confirmed)
      (hnot : t.healthyPeriodActive = true → ¬ soakMs ≤ t.lastNowMs - t.healthySinceMs) :
      (Soaked start soakMs (past ++ [r]) → Decided persist k₀ s₀ confirmed (w.1, t)) ∧
        (¬ Soaked start soakMs (past ++ [r]) → Waiting k₀ s₀ start (past ++ [r]) (w.1, t)) := by
    obtain ⟨h1, h2, h3, h4, h5, h6⟩ := hkept
    refine ⟨fun hfull => ?_, fun _ => ⟨hw.backend, ⟨h1.trans hstate, h2.trans hsoak, h3.trans hrunning,
      h4.trans hslots⟩, ⟨h5.trans hlatched, h6.trans hconfirmed⟩, ht⟩⟩
    obtain ⟨hactive, hfull⟩ := (soaked_iff ht soakMs).1 hfull
    exact absurd hfull (hnot hactive)
  unfold BootConfirmation.step BootConfirmation.tick
  rw [if_neg hopen]
  by_cases hback : r.2 < w.2.lastNowMs
  · rw [if_pos hback]
    exact hwaits _ (follows_break (.inr (hw.follows.last ▸ hback)) rfl rfl) ⟨rfl, rfl, rfl, rfl, rfl, rfl⟩ nofun
  rw [if_neg hback]
  have hle : lastMs start past ≤ r.2 := hw.follows.last ▸ BitVec.not_lt.1 hback
  dsimp only
  cases hhealthy : r.1.allHealthy with
  | false => exact hwaits _ (follows_break (.inl hhealthy) rfl rfl) ⟨rfl, rfl, rfl, rfl, rfl, rfl⟩ nofun
  | true =>
    rw [Bool.not_true, if_neg Bool.false_ne_true]
    by_cases hactive : w.2.healthyPeriodActive = true
    · have hfollows : Follows start (past ++ [r]) { w.2 with lastNowMs := r.2 } :=
        follows_continue hw.follows hactive hhealthy hle rfl hactive rfl
      rw [if_neg (by rw [hactive]; exact Bool.false_ne_true)]
      by_cases hshort : r.2 - w.2.healthySinceMs < w.2.soakMs
      · rw [if_pos hshort]
        refine hwaits _ hfollows ⟨rfl, rfl, rfl, rfl, rfl, rfl⟩ fun _ => ?_
        exact BitVec.not_le.2 (hsoakMs ▸ hshort)
      · rw [if_neg hshort]
        have hfull : soakMs ≤ r.2 - w.2.healthySinceMs := BitVec.not_lt.1 (hsoakMs ▸ hshort)
        refine ⟨fun _ => ?_, fun hno => absurd ((soaked_iff hfollows soakMs).2 ⟨hactive, hfull⟩) hno⟩
        exact attempt_decided hst hw ⟨rfl, rfl, rfl, hlatched, hconfirmed⟩
    · have hidle : w.2.healthyPeriodActive = false := Bool.eq_false_iff.2 hactive
      rw [if_pos (by rw [hidle]; rfl)]
      refine hwaits _ (follows_first hw.follows hidle hhealthy hle rfl rfl rfl) ⟨rfl, rfl, rfl, rfl, rfl, rfl⟩ fun _ h => ?_
      have hzero : r.2 - r.2 = 0 := BitVec.sub_self r.2
      exact hst.soak.2 (BitVec.le_antisymm (hzero ▸ h) (Nat.zero_le _))

/-- **Main result: the record is written once, after a full soak.** Over every run of reports, whatever the backend, a
pending slot is confirmed if and only if some reports of the run end in a full soak and the one write was reported; up to
the first full soak nothing is written, and after it the write decides. -/
theorem confirmed_iff_soaked {bootState : BootState} {slots : BootSlots} {runningSlot : U8} {soakMs nowMs : U64}
    (persist : PersistFn κ) (k : κ)
    (h : BootConfirmation.init bootState slots runningSlot soakMs nowMs = some s) (reports : List SoakReport) :
    let w := reports.foldl (BootConfirmation.step persist) (k, s)
    ∃ confirmed, confirm bootState runningSlot slots = some confirmed ∧
      ((∃ past, past <+: reports ∧ Soaked nowMs soakMs past) → w.1 = (persist k confirmed).1 ∧
        w.2.confirmed = (persist k confirmed).2 ∧
        w.2.bootState = if (persist k confirmed).2 then confirmed else bootState) ∧
      ((¬ ∃ past, past <+: reports ∧ Soaked nowMs soakMs past) →
        w.1 = k ∧ w.2.confirmed = false ∧ w.2.bootState = bootState) := by
  intro w
  obtain ⟨confirmed, hconfirm, hst⟩ := init_started h
  have hrun := @Run.inv_past _ _ (BootConfirmation.step persist) (fun _ _ => True)
    (fun past w => ((∃ p, p <+: past ∧ Soaked nowMs soakMs p) → Decided persist k s confirmed w) ∧
      ((¬ ∃ p, p <+: past ∧ Soaked nowMs soakMs p) → Waiting k s nowMs past w))
    (fun past w r hpast _ => ?_) [] (k, s) reports ⟨fun ⟨p, hp, hsoaked⟩ => ?_, fun _ => ?_⟩
    (Run.along_of_forall fun _ _ => trivial)
  · rw [List.nil_append] at hrun
    refine ⟨confirmed, hconfirm, fun hfull => ?_, fun hno => ?_⟩
    · obtain ⟨hbackend, hanswer, -, hstate⟩ := hrun.1 hfull
      rw [hst.state] at hstate
      exact ⟨hbackend, hanswer, hstate⟩
    · obtain ⟨hbackend, hsame, hundecided, -⟩ := hrun.2 hno
      exact ⟨hbackend, hundecided.2, hsame.1.trans hst.state⟩
  · by_cases hfull : ∃ p, p <+: past ∧ Soaked nowMs soakMs p
    · refine ⟨fun _ => decided_step (hpast.1 hfull) r, fun hno => ?_⟩
      obtain ⟨p, hp, hsoaked⟩ := hfull
      exact absurd ⟨p, hp.trans (List.prefix_append _ _), hsoaked⟩ hno
    · obtain ⟨hdecides, hwaits⟩ := waiting_step persist hst (hpast.2 hfull) r
      refine ⟨fun ⟨p, hp, hsoaked⟩ => ?_, fun hno => hwaits fun hsoaked => hno ⟨_, List.prefix_refl _, hsoaked⟩⟩
      rcases List.prefix_concat_iff.1 hp with rfl | hp
      · exact hdecides hsoaked
      · exact absurd ⟨p, hp, hsoaked⟩ hfull
  · obtain ⟨past, first, rest, hsplit, -⟩ := hsoaked
    rw [List.prefix_nil.1 hp] at hsplit
    exact absurd hsplit.symm (List.append_ne_nil_of_right_ne_nil _ (List.cons_ne_nil _ _))
  · refine ⟨rfl, ⟨rfl, rfl, rfl, rfl⟩, ⟨hst.fresh.2.1, hst.fresh.2.2⟩, hst.now, fun _ past first rest hsplit => ?_,
      fun hactive => ?_, fun hactive => ?_⟩
    · exact absurd hsplit.symm (List.append_ne_nil_of_right_ne_nil _ (List.cons_ne_nil _ _))
    · rw [hst.fresh.1] at hactive
      cases hactive
    · rw [hst.fresh.1] at hactive
      cases hactive

/-- Everything is healthy. -/
def allWell : ConfirmationInputs := ⟨true, true, true, true, true, true⟩

/-- A trial of slot B, over a soak of a second. -/
def trialConfirmation : BootConfirmation :=
  ⟨⟨1, 5, slotA, slotB, 1⟩, ⟨⟨true, true, 6⟩, ⟨true, true, 7⟩⟩, 1000, 0, 0, 0, 0, 0, slotB, false, false, false⟩

/-- The clock goes back after the second report. -/
def trialReports : List SoakReport :=
  [(allWell, 10), (allWell, 400), (allWell, 300), (allWell, 301), (allWell, 1301)]

theorem confirmed_iff_soaked_trial :
    BootConfirmation.init ⟨1, 5, slotA, slotB, 1⟩ ⟨⟨true, true, 6⟩, ⟨true, true, 7⟩⟩ slotB 1000 0 = some trialConfirmation ∧
      (trialReports.foldl (BootConfirmation.step fun n _ => (n + 1, true)) (0, trialConfirmation)).2.confirmed = true := by
  have hinit : BootConfirmation.init ⟨1, 5, slotA, slotB, 1⟩ ⟨⟨true, true, 6⟩, ⟨true, true, 7⟩⟩ slotB 1000 0 =
      some trialConfirmation := rfl
  obtain ⟨_, -, hfull, -⟩ := confirmed_iff_soaked (fun n _ => (n + 1, true)) 0 hinit trialReports
  refine ⟨hinit, (hfull ⟨_, List.prefix_refl _, [(allWell, 10), (allWell, 400), (allWell, 300)], (allWell, 301),
    [(allWell, 1301)], rfl, ⟨rfl, by decide, rfl, by decide, trivial⟩, by decide⟩).2.1⟩

end Runs

end OpenRef.Boot
