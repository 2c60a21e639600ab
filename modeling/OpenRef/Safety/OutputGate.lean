import OpenRef.Safety.GateDriver
import OpenRef.Lib.Run
import Mathlib.Logic.Function.Basic
/-!
# The safety output gate (openref_safety_output_gate.c)

The gate drives the three outputs through callbacks that confirm what they did. It starts with all of them off, removes
permissions before it adds any, and latches a fault after the first callback that fails: then it requests all three off
and makes no call until it is initialised again.

`outputs_guarded`: over every run of requests and initialisations, with callbacks that fail at any time and leave their
output either way, the outputs are what was applied while the gate is live, which is the request it last answered; an
output is switched on only when nothing is on that the request does not want; and a callback that failed leaves on only
what refused to go off.
-/

namespace OpenRef.Safety

/-- `openref_safety_output_gate_t`, the hooks left out. -/
structure OutputGate where
  applied : SafetyOutput
  applyCount : U32
  failureCount : U32
  initialized : Bool
  faultLatched : Bool
deriving DecidableEq, Repr

/-- Set calls in their order; the first that fails is the last. -/
def perform {κ : Type} (be : GateBackend κ) : κ → List (Gate × Bool) → κ × Bool
  | k, [] => (k, true)
  | k, (g, value) :: rest =>
    let r := be.set k g value
    if r.2 then perform be r.1 rest else (r.1, false)

/-- The calls that `apply` needs (:63-101): off before on, the voice off first and on last. -/
def changes (applied requested : Gate → Bool) : List (Gate × Bool) :=
  let off (g : Gate) := if applied g && !requested g then [(g, false)] else []
  let on (g : Gate) := if !applied g && requested g then [(g, true)] else []
  off .voiceUplink ++ (off .playback ++ (off .networkControlTx ++
    (on .networkControlTx ++ (on .playback ++ on .voiceUplink))))

namespace OutputGate

variable {κ : Type} (be : GateBackend κ)

/-- `(openref_safety_output_gate_t){0}`. -/
def zero : OutputGate := ⟨.off, 0, 0, false, false⟩

/-- `force_safe` (:13-20). -/
def forceSafe (k : κ) (d : OutputGate) : κ × OutputGate × Bool :=
  let voice := be.set k .voiceUplink false
  let playback := be.set voice.1 .playback false
  let radio := be.set playback.1 .networkControlTx false
  (radio.1, { d with applied := .off }, voice.2 && playback.2 && radio.2)

/-- `latch_failure` (:22-28). -/
def latchFailure (k : κ) (d : OutputGate) : κ × OutputGate × Bool :=
  let r := forceSafe be k { d with failureCount := incrementSaturating d.failureCount, faultLatched := true }
  (r.1, r.2.1, false)

/-- `openref_safety_output_gate_init` (:30-52), with hooks that are all set or not. -/
def init (k : κ) (hooksSet : Bool) : κ × OutputGate × Bool :=
  if !hooksSet then (k, zero, false)
  else
    let r := forceSafe be k zero
    if !r.2.2 then (r.1, { r.2.1 with faultLatched := true, failureCount := 1 }, false)
    else (r.1, { r.2.1 with initialized := true }, true)

/-- `openref_safety_output_gate_apply` (:54-107); the request may be null. -/
def apply (k : κ) (d : OutputGate) : Option SafetyOutput → κ × OutputGate × Bool
  | none => (k, d, false)
  | some requested =>
    if !d.initialized || d.faultLatched then (k, d, false)
    else
      let r := perform be k (changes d.applied.enabled requested.enabled)
      let counted := { d with applyCount := incrementSaturating d.applyCount }
      if !r.2 then counted.latchFailure be r.1 else (r.1, { counted with applied := requested }, true)

/-- The gate takes requests. -/
def live (d : OutputGate) : Bool := d.initialized && !d.faultLatched

end OutputGate

/-- **The gate driver makes the same calls**, up to the first that fails. -/
theorem switch_eq_perform {κ : Type} (be : GateBackend κ) (k : κ) (applied desired : SafetyOutput) :
    switch be k applied desired = perform be k (changes applied.enabled desired.enabled) := by
  have hfail (r : κ) (needed : Bool) (g : Gate) (value : Bool) : setIf be (r, false) needed g value = (r, false) := rfl
  have hrow (r : κ × Bool) (needed : Bool) (g : Gate) (value : Bool) (rest : List (Gate × Bool)) :
      (if (setIf be r needed g value).2 then perform be (setIf be r needed g value).1 rest
        else ((setIf be r needed g value).1, false)) =
      if r.2 then perform be r.1 ((if needed then [(g, value)] else []) ++ rest) else (r.1, false) := by
    obtain ⟨k, ok⟩ := r
    cases ok <;> cases needed <;> rfl
  have hend (r : κ × Bool) : r = if r.2 then perform be r.1 [] else (r.1, false) := by
    obtain ⟨k, ok⟩ := r
    cases ok <;> rfl
  unfold switch
  dsimp only
  rw [hend (setIf be _ _ .voiceUplink true), hrow, hrow, hrow, hrow, hrow, hrow, List.append_nil]
  rfl

/-! ## Outputs that may refuse -/

/-- A set call: whether it was granted, and the outputs before and after it. -/
structure SetCall where
  gate : Gate
  value : Bool
  granted : Bool
  before : Gate → Bool
  after : Gate → Bool

/-- The outputs, for each of the next calls whether it is granted and where it leaves its output otherwise, and the
calls so far; once the answers run out, every call is granted. -/
structure Outputs where
  on : Gate → Bool
  answers : List (Bool × Bool)
  calls : List SetCall

/-- One output set. -/
def turn (on : Gate → Bool) (s : Gate × Bool) : Gate → Bool := Function.update on s.1 s.2

/-- What a call does, given its answer. -/
def callOf (on : Gate → Bool) (s : Gate × Bool) (answer : Bool × Bool) : SetCall :=
  ⟨s.1, s.2, answer.1, on, turn on (s.1, if answer.1 then s.2 else answer.2)⟩

def Outputs.backend : GateBackend Outputs where
  set w g value :=
    let c := callOf w.on (g, value) (w.answers.headD (true, value))
    (⟨c.after, w.answers.tail, w.calls ++ [c]⟩, c.granted)

/-! ## What changes -/

/-- The outputs from their three bits. -/
def Gate.choose (voice playback radio : Bool) : Gate → Bool
  | .voiceUplink => voice
  | .playback => playback
  | .networkControlTx => radio

theorem Gate.choose_eta (on : Gate → Bool) :
    on = Gate.choose (on .voiceUplink) (on .playback) (on .networkControlTx) := by
  funext g
  cases g <;> rfl

/-- Voice is never open without the radio. -/
def Coupled (on : Gate → Bool) : Prop := on .voiceUplink = true → on .networkControlTx = true

instance decidableCoupled (on : Gate → Bool) : Decidable (Coupled on) := inferInstanceAs (Decidable (_ → _))

/-- A call is allowed when it switches off, or on with nothing on that is not wanted. -/
def Wanted (requested on : Gate → Bool) (s : Gate × Bool) : Prop :=
  s.2 = true → requested s.1 = true ∧ ∀ g, on g = true → requested g = true

instance decidableWanted (requested on : Gate → Bool) (s : Gate × Bool) : Decidable (Wanted requested on s) :=
  inferInstanceAs (Decidable (_ → _))

/-- A call keeps voice and radio coupled, granted or not, unless it refuses to close the voice. -/
def Couples (on : Gate → Bool) (s : Gate × Bool) : Prop :=
  ∀ granted left, (s = (.voiceUplink, false) → granted = true) →
    Coupled (turn on (s.1, if granted then s.2 else left))

instance decidableCouples (on : Gate → Bool) (s : Gate × Bool) : Decidable (Couples on s) :=
  inferInstanceAs (Decidable (∀ _ _, _ → _))

/-- **The calls of a request**: they lead to it, switch off before on, and keep voice and radio coupled. -/
theorem changes_spec (applied requested : Gate → Bool) :
    (changes applied requested).foldl turn applied = requested ∧
      Run.Along turn (Wanted requested) applied (changes applied requested) ∧
      (Coupled applied → Coupled requested → Run.Along turn Couples applied (changes applied requested)) := by
  have hall : ∀ v p n v' p' n' : Bool,
      (∀ g, (changes (Gate.choose v p n) (Gate.choose v' p' n')).foldl turn (Gate.choose v p n) g =
          Gate.choose v' p' n' g) ∧
        Run.Along turn (Wanted (Gate.choose v' p' n')) (Gate.choose v p n)
          (changes (Gate.choose v p n) (Gate.choose v' p' n')) ∧
        (Coupled (Gate.choose v p n) → Coupled (Gate.choose v' p' n') →
          Run.Along turn Couples (Gate.choose v p n) (changes (Gate.choose v p n) (Gate.choose v' p' n'))) := by
    decide
  rw [Gate.choose_eta applied, Gate.choose_eta requested]
  obtain ⟨hfold, hwanted, hcouples⟩ := hall (applied .voiceUplink) (applied .playback) (applied .networkControlTx)
    (requested .voiceUplink) (requested .playback) (requested .networkControlTx)
  exact ⟨funext hfold, hwanted, hcouples⟩

/-! ## What a row of calls leaves -/

/-- **The rule for a row of calls**: what holds of each call that the row can make. -/
theorem perform_calls {C : (Gate → Bool) → Gate × Bool → Prop} {P : SetCall → Prop}
    (hP : ∀ on s answer, C on s → P (callOf on s answer)) :
    ∀ (steps : List (Gate × Bool)) (w : Outputs), Run.Along turn C w.on steps → (∀ c ∈ w.calls, P c) →
      ∀ c ∈ (perform Outputs.backend w steps).1.calls, P c
  | [], _, _, hw => hw
  | (g, value) :: rest, w, hsteps, hw => by
    have hcalls : ∀ c ∈ (Outputs.backend.set w g value).1.calls, P c :=
      List.forall_mem_append.2 ⟨hw, List.forall_mem_singleton.2 (hP w.on (g, value) _ hsteps.1)⟩
    unfold perform
    dsimp only
    split
    · next hgranted =>
      refine perform_calls hP rest _ ?_ hcalls
      have hon : (Outputs.backend.set w g value).1.on = turn w.on (g, value) := by
        have hanswer : (w.answers.headD (true, value)).1 = true := hgranted
        unfold Outputs.backend callOf
        dsimp only
        rw [hanswer, if_pos rfl]
      rw [hon]
      exact hsteps.2
    · exact hcalls

/-- A row that ends has made every change, and every call was granted; otherwise one was not. -/
theorem perform_answer : ∀ (steps : List (Gate × Bool)) (w : Outputs), (∀ c ∈ w.calls, c.granted = true) →
    ((perform Outputs.backend w steps).2 = true →
      (perform Outputs.backend w steps).1.on = steps.foldl turn w.on ∧
        ∀ c ∈ (perform Outputs.backend w steps).1.calls, c.granted = true) ∧
    ((perform Outputs.backend w steps).2 = false →
      ∃ c ∈ (perform Outputs.backend w steps).1.calls, c.granted = false)
  | [], _, hw => ⟨fun _ => ⟨rfl, hw⟩, fun h => by cases h⟩
  | (g, value) :: rest, w, hw => by
    unfold perform
    dsimp only
    split
    · next hgranted =>
      have hanswer : (w.answers.headD (true, value)).1 = true := hgranted
      have hon : (Outputs.backend.set w g value).1.on = turn w.on (g, value) := by
        unfold Outputs.backend callOf
        dsimp only
        rw [hanswer, if_pos rfl]
      have hcalls : ∀ c ∈ (Outputs.backend.set w g value).1.calls, c.granted = true :=
        List.forall_mem_append.2 ⟨hw, List.forall_mem_singleton.2 hanswer⟩
      have hrest := perform_answer rest _ hcalls
      rw [hon] at hrest
      exact hrest
    · next hrefused =>
      have hrefused : (w.answers.headD (true, value)).1 = false := by simpa [Outputs.backend, callOf] using hrefused
      refine ⟨fun h => (by cases h), fun _ => ⟨_, List.mem_append_right _ (List.mem_singleton_self _), hrefused⟩⟩

/-- The three calls of a force-safe. -/
def lastCalls (w : Outputs) : List SetCall :=
  let voice := callOf w.on (.voiceUplink, false) (w.answers.headD (true, false))
  let playback := callOf voice.after (.playback, false) (w.answers.tail.headD (true, false))
  let radio := callOf playback.after (.networkControlTx, false) (w.answers.tail.tail.headD (true, false))
  [voice, playback, radio]

/-- **A force-safe asks all three off**; what is on after it refused. -/
theorem forceSafe_spec (w : Outputs) (d : OutputGate) :
    (OutputGate.forceSafe Outputs.backend w d).1.calls = w.calls ++ lastCalls w ∧
      (lastCalls w).map (fun c => (c.gate, c.value)) =
        [(.voiceUplink, false), (.playback, false), (.networkControlTx, false)] ∧
      (∀ g, (OutputGate.forceSafe Outputs.backend w d).1.on g = true →
        ∃ c ∈ lastCalls w, c.gate = g ∧ c.granted = false) ∧
      ((OutputGate.forceSafe Outputs.backend w d).2.2 = true → ∀ c ∈ lastCalls w, c.granted = true) ∧
      ((OutputGate.forceSafe Outputs.backend w d).2.2 = false → ∃ c ∈ lastCalls w, c.granted = false) := by
  have hafter : (OutputGate.forceSafe Outputs.backend w d).1.on = fun g =>
      match g with
      | .voiceUplink => if (w.answers.headD (true, false)).1 then false else (w.answers.headD (true, false)).2
      | .playback => if (w.answers.tail.headD (true, false)).1 then false else (w.answers.tail.headD (true, false)).2
      | .networkControlTx =>
        if (w.answers.tail.tail.headD (true, false)).1 then false else (w.answers.tail.tail.headD (true, false)).2 := by
    funext g
    cases g <;> rfl
  refine ⟨?_, rfl, ?_, ?_, ?_⟩
  · show w.calls ++ [_] ++ [_] ++ [_] = _
    rw [List.append_assoc, List.append_assoc]
    rfl
  · rw [hafter]
    intro g hg
    cases g with
    | voiceUplink =>
      refine ⟨_, List.mem_cons_self, rfl, ?_⟩
      show (w.answers.headD (true, false)).1 = false
      cases h : (w.answers.headD (true, false)).1 <;> simp_all
    | playback =>
      refine ⟨_, List.mem_cons_of_mem _ List.mem_cons_self, rfl, ?_⟩
      show (w.answers.tail.headD (true, false)).1 = false
      cases h : (w.answers.tail.headD (true, false)).1 <;> simp_all
    | networkControlTx =>
      refine ⟨_, List.mem_cons_of_mem _ (List.mem_cons_of_mem _ List.mem_cons_self), rfl, ?_⟩
      show (w.answers.tail.tail.headD (true, false)).1 = false
      cases h : (w.answers.tail.tail.headD (true, false)).1 <;> simp_all
  · intro h
    have hall : ((w.answers.headD (true, false)).1 && (w.answers.tail.headD (true, false)).1 &&
        (w.answers.tail.tail.headD (true, false)).1) = true := h
    rw [Bool.and_eq_true, Bool.and_eq_true] at hall
    intro c hc
    simp only [lastCalls, List.mem_cons, List.not_mem_nil, or_false] at hc
    rcases hc with rfl | rfl | rfl
    · exact hall.1.1
    · exact hall.1.2
    · exact hall.2
  · intro h
    have hall : ((w.answers.headD (true, false)).1 && (w.answers.tail.headD (true, false)).1 &&
        (w.answers.tail.tail.headD (true, false)).1) = false := h
    rw [Bool.and_eq_false_iff, Bool.and_eq_false_iff] at hall
    rcases hall with (hv | hp) | hr
    · exact ⟨_, List.mem_cons_self, hv⟩
    · exact ⟨_, List.mem_cons_of_mem _ List.mem_cons_self, hp⟩
    · exact ⟨_, List.mem_cons_of_mem _ (List.mem_cons_of_mem _ List.mem_cons_self), hr⟩

/-! ## Runs -/

/-- The gate and its outputs; the calls are those of the last event. -/
structure GuardedOutputs where
  gate : OutputGate
  outputs : Outputs

/-- What is asked of the gate. -/
inductive OutputEvent
  | init (hooksSet : Bool)
  | apply (requested : Option SafetyOutput)

namespace GuardedOutputs

/-- What an event gives. -/
def called (s : GuardedOutputs) : OutputEvent → Outputs × OutputGate × Bool
  | .init hooksSet => OutputGate.init Outputs.backend { s.outputs with calls := [] } hooksSet
  | .apply requested => s.gate.apply Outputs.backend { s.outputs with calls := [] } requested

def step (s : GuardedOutputs) (e : OutputEvent) : GuardedOutputs := ⟨(s.called e).2.1, (s.called e).1⟩

/-- A gate that was never initialised, over outputs that are on or off. -/
def start (on : Gate → Bool) (answers : List (Bool × Bool)) : GuardedOutputs := ⟨.zero, ⟨on, answers, []⟩⟩

/-- Where an event is refused, the gate is dead and all three outputs were asked off. -/
structure Refused (s : GuardedOutputs) : Prop where
  dead : s.gate.live = false
  off : ∃ earlier last, s.outputs.calls = earlier ++ last ∧
    last.map (fun c => (c.gate, c.value)) =
      [(.voiceUplink, false), (.playback, false), (.networkControlTx, false)] ∧
    ∀ g, s.outputs.on g = true → ∃ c ∈ last, c.gate = g ∧ c.granted = false

/-- Everything an event can do. -/
inductive Stepped (s : GuardedOutputs) : OutputEvent → GuardedOutputs → Prop
  | ignored {requested : Option SafetyOutput} : requested = none ∨ s.gate.live = false →
      Stepped s (.apply requested) { s with outputs := { s.outputs with calls := [] } }
  | unhooked : Stepped s (.init false) ⟨.zero, { s.outputs with calls := [] }⟩
  | granted {e : OutputEvent} {s' : GuardedOutputs} : s'.gate.live = true →
      s'.outputs.on = s'.gate.applied.enabled → (∀ c ∈ s'.outputs.calls, c.granted = true) →
      (∀ requested, e = .apply requested → s.gate.live = true ∧ requested = some s'.gate.applied) → Stepped s e s'
  | refused {e : OutputEvent} {s' : GuardedOutputs} : s'.Refused → (∃ c ∈ s'.outputs.calls, c.granted = false) →
      (∀ requested, e = .apply requested → s.gate.live = true) → Stepped s e s'

theorem refused_latch (w : Outputs) (d : OutputGate) (hlatched : d.faultLatched = true)
    (hrefused : ∃ c ∈ (d.forceSafe Outputs.backend w).1.calls, c.granted = false) :
    Refused ⟨(d.forceSafe Outputs.backend w).2.1, (d.forceSafe Outputs.backend w).1⟩ ∧
      ∃ c ∈ (d.forceSafe Outputs.backend w).1.calls, c.granted = false := by
  obtain ⟨hcalls, hlast, hoff, -⟩ := forceSafe_spec w d
  refine ⟨⟨?_, w.calls, lastCalls w, hcalls, hlast, hoff⟩, hrefused⟩
  show (d.initialized && !d.faultLatched) = false
  rw [hlatched, Bool.not_true, Bool.and_false]

/-- The outputs after an initialisation. -/
theorem step_init_outputs (s : GuardedOutputs) : (s.step (.init true)).outputs =
    (OutputGate.zero.forceSafe Outputs.backend { s.outputs with calls := [] }).1 := by
  unfold step called OutputGate.init
  dsimp only
  split
  · next h => cases h
  · split <;> rfl

theorem stepped_init (s : GuardedOutputs) (hooksSet : Bool) : Stepped s (.init hooksSet) (s.step (.init hooksSet)) := by
  cases hooksSet with
  | false => exact .unhooked
  | true =>
    let w : Outputs := { s.outputs with calls := [] }
    obtain ⟨hcalls, hlast, hoff, hgranted, hrefused⟩ := forceSafe_spec w .zero
    cases hsafe : (OutputGate.zero.forceSafe Outputs.backend w).2.2 with
    | true =>
      have hstep : s.step (.init true) = ⟨{ (OutputGate.zero.forceSafe Outputs.backend w).2.1 with initialized := true },
          (OutputGate.zero.forceSafe Outputs.backend w).1⟩ := by
        unfold step called OutputGate.init
        dsimp only
        rw [hsafe]
        rfl
      rw [hstep]
      have hall := hgranted hsafe
      refine .granted rfl ?_ ?_ nofun
      · funext g
        show _ = SafetyOutput.off.enabled g
        have hno : SafetyOutput.off.enabled g = false := by cases g <;> rfl
        rw [hno]
        cases hon : (OutputGate.zero.forceSafe Outputs.backend w).1.on g with
        | false => rfl
        | true =>
          obtain ⟨c, hc, -, hfalse⟩ := hoff g hon
          rw [hall c hc] at hfalse
          cases hfalse
      · rw [hcalls]
        exact hall
    | false =>
      have hstep : s.step (.init true) = ⟨{ (OutputGate.zero.forceSafe Outputs.backend w).2.1 with
          faultLatched := true, failureCount := 1 }, (OutputGate.zero.forceSafe Outputs.backend w).1⟩ := by
        unfold step called OutputGate.init
        dsimp only
        rw [hsafe]
        rfl
      rw [hstep]
      obtain ⟨c, hc, hfalse⟩ := hrefused hsafe
      refine .refused ⟨rfl, w.calls, lastCalls w, hcalls, hlast, hoff⟩ ⟨c, ?_, hfalse⟩ nofun
      rw [hcalls]
      exact List.mem_append_right _ hc

theorem live_iff {d : OutputGate} : d.live = true ↔ (!d.initialized || d.faultLatched) = false := by
  unfold OutputGate.live
  cases d.initialized <;> cases d.faultLatched <;> decide

/-- The calls of a request. -/
def row (s : GuardedOutputs) (requested : SafetyOutput) : Outputs × Bool :=
  perform Outputs.backend { s.outputs with calls := [] } (changes s.gate.applied.enabled requested.enabled)

/-- The gate as `apply` has counted it. -/
def counted (s : GuardedOutputs) : OutputGate := { s.gate with applyCount := incrementSaturating s.gate.applyCount }

theorem called_live {s : GuardedOutputs} (hlive : s.gate.live = true) (requested : SafetyOutput) :
    s.called (.apply (some requested)) =
      if !(s.row requested).2 then s.counted.latchFailure Outputs.backend (s.row requested).1
      else ((s.row requested).1, { s.counted with applied := requested }, true) := by
  unfold called OutputGate.apply
  dsimp only
  rw [live_iff.1 hlive]
  rfl

theorem step_live {s : GuardedOutputs} (hlive : s.gate.live = true) (requested : SafetyOutput) :
    s.step (.apply (some requested)) =
      if (s.row requested).2 then ⟨{ s.counted with applied := requested }, (s.row requested).1⟩
      else ⟨(s.counted.latchFailure Outputs.backend (s.row requested).1).2.1,
        (s.counted.latchFailure Outputs.backend (s.row requested).1).1⟩ := by
  unfold step
  rw [called_live hlive]
  cases (s.row requested).2 <;> rfl

theorem stepped_apply {s : GuardedOutputs} (hm : s.gate.live = true → s.outputs.on = s.gate.applied.enabled)
    (requested : Option SafetyOutput) : Stepped s (.apply requested) (s.step (.apply requested)) := by
  cases requested with
  | none => exact .ignored (.inl rfl)
  | some requested =>
    cases hlive : s.gate.live with
    | false =>
      have hstep : s.step (.apply (some requested)) = { s with outputs := { s.outputs with calls := [] } } := by
        unfold step called OutputGate.apply
        dsimp only
        rw [if_pos]
        rw [← Bool.not_eq_false, ← live_iff, hlive]
        exact Bool.false_ne_true
      rw [hstep]
      exact .ignored (.inr hlive)
    | true =>
      have hanswer := perform_answer (changes s.gate.applied.enabled requested.enabled)
        { s.outputs with calls := [] } nofun
      rw [step_live hlive]
      split
      · next hrow =>
        obtain ⟨hon, hgranted⟩ := hanswer.1 hrow
        refine .granted hlive ?_ hgranted fun _ he => ⟨hlive, ?_⟩
        · show (s.row requested).1.on = requested.enabled
          unfold row
          rw [hon, hm hlive]
          exact (changes_spec _ _).1
        · cases he
          rfl
      · next hrow =>
        obtain ⟨c, hc, hfalse⟩ := hanswer.2 (Bool.not_eq_true _ ▸ hrow)
        let latched : OutputGate :=
          { s.counted with failureCount := incrementSaturating s.counted.failureCount, faultLatched := true }
        have hcalls := (forceSafe_spec (s.row requested).1 latched).1
        obtain ⟨hrefused, hsome⟩ := refused_latch (s.row requested).1 latched rfl
          ⟨c, hcalls ▸ List.mem_append_left _ hc, hfalse⟩
        exact .refused hrefused hsome fun _ _ => hlive

/-- **What an event does.** -/
theorem stepped {s : GuardedOutputs} (hm : s.gate.live = true → s.outputs.on = s.gate.applied.enabled)
    (e : OutputEvent) : Stepped s e (s.step e) := by
  cases e with
  | init hooksSet => exact stepped_init s hooksSet
  | apply requested => exact stepped_apply hm requested

/-- The outputs are what was applied, while the gate is live. -/
theorem matches_step (s : GuardedOutputs) (e : OutputEvent)
    (hm : s.gate.live = true → s.outputs.on = s.gate.applied.enabled) :
    (s.step e).gate.live = true → (s.step e).outputs.on = (s.step e).gate.applied.enabled := by
  have hstep := stepped hm e
  generalize s.step e = s' at hstep ⊢
  cases hstep with
  | ignored => exact hm
  | unhooked => exact fun h => by cases h
  | granted _ hon => exact fun _ => hon
  | refused hrefused => exact fun h => by rw [hrefused.dead] at h; cases h

/-- The calls of an event, one after the other. -/
theorem step_calls {s : GuardedOutputs} (hm : s.gate.live = true → s.outputs.on = s.gate.applied.enabled)
    {e : OutputEvent} {c : SetCall} (hc : c ∈ (s.step e).outputs.calls) (hvalue : c.value = true) :
    ∃ requested, e = .apply (some requested) ∧ requested.enabled c.gate = true ∧
      ∀ g, c.before g = true → requested.enabled g = true := by
  have hlast (w : Outputs) (h : c ∈ lastCalls w) : False := by
    simp only [lastCalls, List.mem_cons, List.not_mem_nil, or_false] at h
    rcases h with rfl | rfl | rfl <;> cases hvalue
  cases e with
  | init hooksSet =>
    cases hooksSet with
    | false => cases hc
    | true =>
      have hcalls := (forceSafe_spec { s.outputs with calls := [] } .zero).1
      rw [step_init_outputs, hcalls] at hc
      exact absurd hc (hlast _)
  | apply requested =>
    cases requested with
    | none => cases hc
    | some requested =>
      refine ⟨requested, rfl, ?_⟩
      have hrow : c ∈ (s.row requested).1.calls → s.gate.live = true →
          requested.enabled c.gate = true ∧ ∀ g, c.before g = true → requested.enabled g = true := by
        intro hc hlive
        have hwanted := (changes_spec s.gate.applied.enabled requested.enabled).2.1
        rw [← hm hlive] at hwanted
        refine perform_calls (P := fun c => c.value = true → requested.enabled c.gate = true ∧
          ∀ g, c.before g = true → requested.enabled g = true) (C := Wanted requested.enabled) (fun on s answer h => h)
          (changes s.gate.applied.enabled requested.enabled) { s.outputs with calls := [] } ?_ nofun c hc hvalue
        exact (hm hlive) ▸ hwanted
      cases hlive : s.gate.live with
      | false =>
        have hstep := stepped_apply hm (some requested)
        generalize s.step (.apply (some requested)) = s' at hstep hc
        cases hstep with
        | ignored => cases hc
        | granted _ _ _ hl =>
          rw [(hl _ rfl).1] at hlive
          cases hlive
        | refused _ _ hl =>
          rw [hl _ rfl] at hlive
          cases hlive
      | true =>
        rw [step_live hlive] at hc
        split at hc
        · exact hrow hc hlive
        · have hcalls := (forceSafe_spec (s.row requested).1
            { s.counted with failureCount := incrementSaturating s.counted.failureCount, faultLatched := true }).1
          have hc : c ∈ (s.row requested).1.calls ++ lastCalls (s.row requested).1 := hcalls ▸ hc
          rcases List.mem_append.1 hc with hc | hc
          · exact hrow hc hlive
          · exact absurd hc (hlast _)

/-- The request in force after an event: an initialisation puts all off, a request counts once it is answered. -/
def inForce (s : GuardedOutputs) (request : SafetyOutput) : OutputEvent → SafetyOutput
  | .init _ => .off
  | .apply requested => if (s.called (.apply requested)).2.2 then requested.getD request else request

/-- The request that a run leaves in force, from the one in force before it. -/
def lastAnswered : GuardedOutputs → SafetyOutput → List OutputEvent → SafetyOutput
  | _, request, [] => request
  | s, request, e :: events => lastAnswered (s.step e) (s.inForce request e) events

theorem applied_step {s : GuardedOutputs} {request : SafetyOutput}
    (h : s.gate.live = true → s.gate.applied = request) (e : OutputEvent) :
    (s.step e).gate.live = true → (s.step e).gate.applied = s.inForce request e := by
  intro hlive
  cases e with
  | init hooksSet =>
    unfold step called OutputGate.init
    dsimp only
    split
    · rfl
    · split <;> rfl
  | apply requested =>
    cases requested with
    | none => exact h hlive
    | some requested =>
      unfold inForce
      by_cases hbefore : s.gate.live = true
      · rw [step_live hbefore] at hlive ⊢
        split
        · next hrow =>
          dsimp only
          rw [called_live hbefore, hrow]
          rfl
        · next hrow =>
          rw [if_neg hrow] at hlive
          have hlatched : (!s.gate.initialized || true) = false := live_iff.1 hlive
          rw [Bool.or_true] at hlatched
          cases hlatched
      · -- a gate that is dead answers no request and stays as it is
        have hdead : (!s.gate.initialized || s.gate.faultLatched) = true := by
          rwa [live_iff, Bool.not_eq_false] at hbefore
        unfold step called OutputGate.apply at hlive
        dsimp only at hlive
        rw [if_pos hdead] at hlive
        exact absurd hlive hbefore

/-- The outputs are what the last answered request wants. -/
theorem applied_lastAnswered : ∀ (events : List OutputEvent) {s : GuardedOutputs} {request : SafetyOutput},
    (s.gate.live = true → s.gate.applied = request) → (events.foldl step s).gate.live = true →
    (events.foldl step s).gate.applied = s.lastAnswered request events
  | [], _, _, h => h
  | e :: events, _, _, h => applied_lastAnswered events (applied_step h e)

/-- **Main result: the outputs are guarded.** From any outputs, with callbacks that refuse at any time and then leave
their output either way: while the gate is live the outputs are what was applied, and that is the request last answered
since the gate was initialised, all off before one; a dead gate makes no call until it is initialised; an output is
switched on by a request alone, when nothing is on that the request does not want; and after a refusal the gate is dead,
all three were asked off, and what is on refused that. -/
theorem outputs_guarded (on : Gate → Bool) (answers : List (Bool × Bool)) (past : List OutputEvent) (e : OutputEvent) :
    let s := past.foldl step (start on answers)
    ((s.step e).gate.live = true → (s.step e).outputs.on = (s.step e).gate.applied.enabled) ∧
      (∀ requested, e = .apply requested → s.gate.live = false →
        s.step e = { s with outputs := { s.outputs with calls := [] } }) ∧
      (∀ c ∈ (s.step e).outputs.calls, c.value = true → ∃ requested, e = .apply (some requested) ∧
        requested.enabled c.gate = true ∧ ∀ g, c.before g = true → requested.enabled g = true) ∧
      ((∃ c ∈ (s.step e).outputs.calls, c.granted = false) → (s.step e).Refused) ∧
      ((s.step e).gate.live = true →
        (s.step e).gate.applied = (start on answers).lastAnswered .off (past ++ [e])) := by
  intro s
  have hm : s.gate.live = true → s.outputs.on = s.gate.applied.enabled :=
    Run.inv_run (P := fun s => s.gate.live = true → s.outputs.on = s.gate.applied.enabled) matches_step
      (s := start on answers) nofun past
  refine ⟨matches_step s e hm, fun requested he hdead => ?_, fun c hc hvalue => step_calls hm hc hvalue, ?_, ?_⟩
  · subst he
    have hstep := stepped_apply hm requested
    generalize s.step (.apply requested) = s' at hstep
    cases hstep with
    | ignored => rfl
    | granted _ _ _ hl =>
      rw [(hl _ rfl).1] at hdead
      cases hdead
    | refused _ _ hl =>
      rw [hl _ rfl] at hdead
      cases hdead
  · rintro ⟨c, hc, hfalse⟩
    have hstep := stepped hm e
    generalize s.step e = s' at hstep hc ⊢
    cases hstep with
    | ignored => cases hc
    | unhooked => cases hc
    | granted _ _ hall =>
      rw [hall c hc] at hfalse
      cases hfalse
    | refused hrefused => exact hrefused
  · have hdead : (start on answers).gate.live = true → (start on answers).gate.applied = .off := nofun
    have happlied := applied_lastAnswered (past ++ [e]) hdead
    rw [List.foldl_append] at happlied
    exact happlied

/-! ## Voice and radio -/

/-- No request to close the voice was refused. -/
def VoiceCloses (calls : List SetCall) : Prop :=
  ∀ c ∈ calls, c.gate = .voiceUplink → c.value = false → c.granted = true

theorem lastCalls_coupled (w : Outputs) (h : VoiceCloses (lastCalls w)) : ∀ c ∈ lastCalls w, Coupled c.after := by
  have hvoice : (w.answers.headD (true, false)).1 = true := h _ List.mem_cons_self rfl rfl
  have hclosed : (callOf w.on (.voiceUplink, false) (w.answers.headD (true, false))).after .voiceUplink = false := by
    show (if (w.answers.headD (true, false)).1 then false else (w.answers.headD (true, false)).2) = false
    rw [hvoice, if_pos rfl]
  have hkept (on : Gate → Bool) (g : Gate) (answer : Bool × Bool) (hg : g ≠ .voiceUplink)
      (hon : on .voiceUplink = false) : (callOf on (g, false) answer).after .voiceUplink = false :=
    (Function.update_of_ne hg.symm _ _).trans hon
  have hplayback := hkept _ .playback (w.answers.tail.headD (true, false)) (by decide) hclosed
  have hradio := hkept _ .networkControlTx (w.answers.tail.tail.headD (true, false)) (by decide) hplayback
  intro c hc hopen
  simp only [lastCalls, List.mem_cons, List.not_mem_nil, or_false] at hc
  rcases hc with rfl | rfl | rfl
  · rw [hclosed] at hopen
    cases hopen
  · rw [hplayback] at hopen
    cases hopen
  · rw [hradio] at hopen
    cases hopen

/-- The state between events, for requests that couple voice and radio. -/
structure CoupledRun (s : GuardedOutputs) : Prop where
  same : s.gate.live = true → s.outputs.on = s.gate.applied.enabled
  applied : s.gate.live = true → Coupled s.gate.applied.enabled
  calls : ∀ c ∈ s.outputs.calls, Coupled c.after

/-- What is asked of an event: a request that opens the voice with the radio only, and a voice that closes. -/
def Fair (s : GuardedOutputs) (e : OutputEvent) : Prop :=
  (∀ requested, e = .apply (some requested) → Coupled requested.enabled) ∧ VoiceCloses (s.step e).outputs.calls

theorem coupled_row {s : GuardedOutputs} (h : s.CoupledRun) (hlive : s.gate.live = true) {requested : SafetyOutput}
    (hr : Coupled requested.enabled) (hv : VoiceCloses (s.row requested).1.calls) :
    ∀ c ∈ (s.row requested).1.calls, Coupled c.after := by
  intro c hc
  have hcouples := (changes_spec s.gate.applied.enabled requested.enabled).2.2 (h.applied hlive) hr
  have hon : ({ s.outputs with calls := [] } : Outputs).on = s.gate.applied.enabled := h.same hlive
  refine perform_calls (P := fun c => (c.gate = .voiceUplink → c.value = false → c.granted = true) → Coupled c.after)
    (C := Couples) (fun on s answer hs hgranted => hs answer.1 answer.2 fun he => ?_)
    (changes s.gate.applied.enabled requested.enabled) { s.outputs with calls := [] } (hon ▸ hcouples) nofun c hc
    (hv c hc)
  exact hgranted (congrArg Prod.fst he) (congrArg Prod.snd he)

theorem coupled_step (s : GuardedOutputs) (e : OutputEvent) (h : s.CoupledRun) (hf : s.Fair e) :
    (s.step e).CoupledRun := by
  have hoff : Coupled SafetyOutput.off.enabled := nofun
  refine ⟨matches_step s e h.same, ?_, ?_⟩
  · have hstep := stepped h.same e
    generalize hs : s.step e = s' at hstep
    cases hstep with
    | ignored => exact h.applied
    | unhooked => exact fun hl => by cases hl
    | granted _ _ _ hrequested =>
      intro _
      cases e with
      | init hooksSet =>
        cases hooksSet with
        | false => rw [← hs]; exact hoff
        | true =>
          have happlied : (s.step (.init true)).gate.applied = SafetyOutput.off := by
            unfold step called OutputGate.init
            dsimp only
            split
            · rfl
            · split <;> rfl
          rw [← hs, happlied]
          exact hoff
      | apply requested => exact hf.1 _ (congrArg OutputEvent.apply (hrequested _ rfl).2)
    | refused hrefused => exact fun hl => by rw [hrefused.dead] at hl; cases hl
  · have hv := hf.2
    cases e with
    | init hooksSet =>
      cases hooksSet with
      | false => exact nofun
      | true =>
        have hcalls := (forceSafe_spec { s.outputs with calls := [] } .zero).1
        rw [step_init_outputs, hcalls] at hv ⊢
        exact lastCalls_coupled _ hv
    | apply requested =>
      cases requested with
      | none => exact nofun
      | some requested =>
        have hr := hf.1 requested rfl
        cases hlive : s.gate.live with
        | false =>
          have hstep := stepped_apply h.same (some requested)
          generalize s.step (.apply (some requested)) = s' at hstep
          cases hstep with
          | ignored => exact nofun
          | granted _ _ _ hl =>
            rw [(hl _ rfl).1] at hlive
            cases hlive
          | refused _ _ hl =>
            rw [hl _ rfl] at hlive
            cases hlive
        | true =>
          rw [step_live hlive] at hv ⊢
          split
          · next hrow =>
            rw [if_pos hrow] at hv
            exact coupled_row h hlive hr hv
          · next hrow =>
            rw [if_neg hrow] at hv
            have hcalls := (forceSafe_spec (s.row requested).1
              { s.counted with failureCount := incrementSaturating s.counted.failureCount, faultLatched := true }).1
            have hcalls : (s.counted.latchFailure Outputs.backend (s.row requested).1).1.calls =
              (s.row requested).1.calls ++ lastCalls (s.row requested).1 := hcalls
            dsimp only at hv ⊢
            rw [hcalls] at hv ⊢
            exact List.forall_mem_append.2 ⟨coupled_row h hlive hr fun c hc => hv c (List.mem_append_left _ hc),
              lastCalls_coupled _ fun c hc => hv c (List.mem_append_right _ hc)⟩

end GuardedOutputs

/-- An output of the arbiter. -/
def Arbitrated (o : SafetyOutput) : Prop := o = arbitrateNull ∨ ∃ i, o = arbitrate i

theorem arbitrated_coupled {o : SafetyOutput} (h : Arbitrated o) : Coupled o.enabled := by
  rcases h with rfl | ⟨i, rfl⟩
  · exact nofun
  · intro hvoice
    have hboth : (decide (transmitMute i = 0) && decide (radioInhibit i = 0)) = true := hvoice
    exact (Bool.and_eq_true_iff.1 hboth).2

/-- **Main result: the voice is never open without the radio**, after any call of any run: not while a request is
carried out, not in the calls that follow a refusal, not while the gate is initialised again; if the requests come from
the arbiter and no request to close the voice is refused. -/
theorem voice_needs_radio (on : Gate → Bool) (answers : List (Bool × Bool)) (events : List OutputEvent)
    (hrequests : ∀ requested, .apply (some requested) ∈ events → Arbitrated requested)
    (hvoice : Run.Along GuardedOutputs.step (fun s e => GuardedOutputs.VoiceCloses (s.step e).outputs.calls)
      (.start on answers) events) :
    ∀ c ∈ (events.foldl GuardedOutputs.step (.start on answers)).outputs.calls, Coupled c.after := by
  have hfair : Run.Along GuardedOutputs.step GuardedOutputs.Fair (.start on answers) events := by
    have harbitrated : Run.Along GuardedOutputs.step
        (fun _ e => ∀ requested, e = .apply (some requested) → Coupled requested.enabled) (.start on answers) events :=
      Run.along_iff_forall.2 fun e he requested heq => arbitrated_coupled (hrequests requested (heq ▸ he))
    exact Run.along_and.2 ⟨harbitrated, hvoice⟩
  have hstart : (GuardedOutputs.start on answers).CoupledRun :=
    ⟨fun h => (by cases h), fun h => (by cases h), fun c hc => (by cases hc)⟩
  exact (Run.inv_along GuardedOutputs.coupled_step _ events hstart hfair).calls

/-- Everything is on before the gate is initialised; then the arbiter permits all, and the radio refuses to come on. -/
theorem voice_needs_radio_refused :
    let inputs : SafetyInputs := ⟨0, startupActionPermitRfTx, false, false, 0, true, false, false, false, false, false⟩
    ∀ c ∈ ([.init true, .apply (some (arbitrate inputs))].foldl GuardedOutputs.step
      (.start (fun _ => true) [(true, true), (true, true), (true, true), (false, true)])).outputs.calls,
      Coupled c.after :=
  voice_needs_radio _ _ _ (by
    intro requested h
    simp only [List.mem_cons, List.not_mem_nil, or_false, reduceCtorEq, false_or] at h
    cases h
    exact .inr ⟨_, rfl⟩) (by
    refine ⟨?_, ?_, trivial⟩
    · intro c hc
      have hall : ∀ c ∈ (GuardedOutputs.step (.start (fun _ => true)
          [(true, true), (true, true), (true, true), (false, true)]) (.init true)).outputs.calls,
          c.granted = true := by decide
      exact fun _ _ => hall c hc
    · unfold GuardedOutputs.VoiceCloses
      decide)

end OpenRef.Safety
