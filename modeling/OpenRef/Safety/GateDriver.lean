import OpenRef.Safety.Arbiter
import Mathlib.Tactic.Common
/-!
# The safety gate driver (openref_safety_gate_driver.c)

The driver remembers the outputs it last applied and calls the three set
callbacks only where the request differs from them, off before on. After a failed
call it requests all three off, whatever these requests return, and remembers all
off.

`switch_covers`: a request that is applied leaves no gate on that it does not
want. `forceSafe_off_iff`: a force-safe turns everything off exactly when each off
request is granted or finds its gate off.
-/

namespace OpenRef.Safety

/-- The three outputs. -/
inductive Gate
  | voiceUplink | playback | networkControlTx
deriving DecidableEq, Repr

instance decidableForallGate {p : Gate → Prop} [DecidablePred p] : Decidable (∀ g, p g) :=
  decidable_of_iff (p .voiceUplink ∧ p .playback ∧ p .networkControlTx)
    ⟨fun h g => by cases g with
      | voiceUplink => exact h.1
      | playback => exact h.2.1
      | networkControlTx => exact h.2.2, fun h => ⟨h _, h _, h _⟩⟩

/-- An output permits a gate. -/
def SafetyOutput.enabled (o : SafetyOutput) : Gate → Bool
  | .voiceUplink => o.voiceUplinkEnabled
  | .playback => o.playbackEnabled
  | .networkControlTx => o.networkControlTxEnabled

/-- `openref_safety_gate_backend_t`: the set callback of each gate over a hardware state `κ`. -/
structure GateBackend (κ : Type) where
  set : κ → Gate → Bool → κ × Bool

/-- `openref_safety_gate_driver_t` once initialised, the callbacks left out. -/
structure GateDriver where
  applied : SafetyOutput
  transitions : U32
  failures : U32
deriving DecidableEq, Repr

variable {κ : Type}

/-- The requests of `force_safe` (:6-12), their results dropped. -/
def forceOff (be : GateBackend κ) (k : κ) : κ :=
  let k := (be.set k .voiceUplink false).1
  let k := (be.set k .playback false).1
  (be.set k .networkControlTx false).1

/-- `if (ok && needed) ok = set(context, value)`. -/
def setIf (be : GateBackend κ) (r : κ × Bool) (needed : Bool) (g : Gate) (value : Bool) : κ × Bool :=
  if r.2 && needed then be.set r.1 g value else r

/-- The ordered calls of `apply` (:43-67). -/
def switch (be : GateBackend κ) (k : κ) (applied desired : SafetyOutput) : κ × Bool :=
  let off (r : κ × Bool) (g : Gate) := setIf be r (applied.enabled g && !desired.enabled g) g false
  let on (r : κ × Bool) (g : Gate) := setIf be r (!applied.enabled g && desired.enabled g) g true
  on (on (on (off (off (off (k, true) .voiceUplink) .playback) .networkControlTx)
    .networkControlTx) .playback) .voiceUplink

namespace GateDriver

/-- `force_safe` (:6-12). -/
def forceSafe (be : GateBackend κ) (k : κ) (d : GateDriver) : κ × GateDriver :=
  (forceOff be k, { d with applied := SafetyOutput.off })

/-- `openref_safety_gate_driver_init` (:14-27). -/
def init (be : GateBackend κ) (k : κ) : κ × GateDriver := forceSafe be k ⟨SafetyOutput.off, 0, 0⟩

/-- The hardware as `apply` hands it to a force-safe, if it makes one. -/
def forcedAt (be : GateBackend κ) (k : κ) (d : GateDriver) (desired : SafetyOutput) : Option κ :=
  if desired.voiceUplinkEnabled && !desired.networkControlTxEnabled then some k
  else
    let r := switch be k d.applied desired
    if r.2 then none else some r.1

/-- `openref_safety_gate_driver_apply` (:29-77). -/
def apply (be : GateBackend κ) (k : κ) (d : GateDriver) (desired : SafetyOutput) : κ × GateDriver × Bool :=
  let failed := { d with failures := d.failures + 1 }
  if desired.voiceUplinkEnabled && !desired.networkControlTxEnabled then
    let r := forceSafe be k failed
    (r.1, r.2, false)
  else
    let r := switch be k d.applied desired
    if !r.2 then
      let r := forceSafe be r.1 failed
      (r.1, r.2, false)
    else
      let changed := d.applied.voiceUplinkEnabled ≠ desired.voiceUplinkEnabled ||
        d.applied.playbackEnabled ≠ desired.playbackEnabled ||
        d.applied.networkControlTxEnabled ≠ desired.networkControlTxEnabled
      (r.1, { d with
        transitions := if changed then d.transitions + 1 else d.transitions
        applied := desired }, true)

/-- The two outcomes of `apply`: a force-safe at `forcedAt`, or the request applied. -/
theorem apply_cases (be : GateBackend κ) (k : κ) (d : GateDriver) (desired : SafetyOutput) :
    (∃ k', forcedAt be k d desired = some k' ∧
      apply be k d desired = (forceOff be k', ⟨SafetyOutput.off, d.transitions, d.failures + 1⟩, false)) ∨
    (∃ n, forcedAt be k d desired = none ∧ (switch be k d.applied desired).2 = true ∧
      apply be k d desired =
        ((switch be k d.applied desired).1, ⟨desired, n, d.failures⟩, true)) := by
  unfold forcedAt apply
  by_cases hv : (desired.voiceUplinkEnabled && !desired.networkControlTxEnabled) = true
  · simp only [hv, if_true]
    exact .inl ⟨k, rfl, rfl⟩
  · simp only [hv, Bool.false_eq_true, if_false]
    cases hs : (switch be k d.applied desired).2 with
    | true => exact .inr ⟨_, rfl, rfl, rfl⟩
    | false => exact .inl ⟨_, rfl, rfl⟩

end GateDriver

/-! ## The gates as hardware bits -/

/-- Three hardware bits, and whether each of the next set calls succeeds; once these run out, every
call does. -/
structure Gates where
  on : Gate → Bool
  replies : List Bool

/-- A call that returns true sets its bit, a call that returns false leaves all as they are. -/
def Gates.backend : GateBackend Gates where
  set k g value :=
    let reply := k.replies.headD true
    (⟨fun g' => if reply && decide (g' = g) then value else k.on g', k.replies.tail⟩, reply)

/-- The position of a gate's call in a force-safe. -/
def Gate.order : Gate → Nat
  | .voiceUplink => 0
  | .playback => 1
  | .networkControlTx => 2

/-- Each off request of a force-safe is granted or finds its gate off. -/
def OffHeld (k : Gates) : Prop := ∀ g, k.on g = true → k.replies.getD g.order true = true

instance (k : Gates) : Decidable (OffHeld k) := inferInstanceAs (Decidable (∀ _, _ → _))

/-- Whatever is on was asked for. -/
def Covers (o : SafetyOutput) (k : Gates) : Prop := ∀ g, k.on g = true → o.enabled g = true

theorem setIf_on {r : Gates × Bool} {needed : Bool} {g : Gate} {value : Bool}
    (h : (setIf Gates.backend r needed g value).2 = true) :
    r.2 = true ∧ ∀ g', (setIf Gates.backend r needed g value).1.on g' =
      if needed && decide (g' = g) then value else r.1.on g' := by
  unfold setIf at h ⊢
  cases hr : r.2 with
  | false => simp [hr] at h
  | true =>
    cases hn : needed with
    | false => simp
    | true =>
      simp only [hr, hn, Bool.and_self, if_true] at h
      simp only [Bool.and_self, if_true, Gates.backend] at h ⊢
      exact ⟨trivial, fun g' => by rw [h]⟩

/-- **An applied request leaves no gate on that it does not want.** -/
theorem switch_covers {k : Gates} {applied desired : SafetyOutput} (hc : Covers applied k)
    (h : (switch Gates.backend k applied desired).2 = true) :
    Covers desired (switch Gates.backend k applied desired).1 := by
  unfold switch at h ⊢
  dsimp only at h ⊢
  obtain ⟨h5, e6⟩ := setIf_on h
  obtain ⟨h4, e5⟩ := setIf_on h5
  obtain ⟨h3, e4⟩ := setIf_on h4
  obtain ⟨h2, e3⟩ := setIf_on h3
  obtain ⟨h1, e2⟩ := setIf_on h2
  obtain ⟨-, e1⟩ := setIf_on h1
  intro g hg
  have hk := hc g
  rw [e6, e5, e4, e3, e2, e1] at hg
  cases hd : desired.enabled g with
  | true => rfl
  | false =>
    cases ha : applied.enabled g with
    | false =>
      have hoff : k.on g = false := by
        by_contra hne
        rw [ha] at hk
        exact absurd (hk (by simpa using hne)) (by decide)
      cases g <;> simp [ha, hd, hoff] at hg
    | true => cases g <;> simp [ha, hd] at hg

/-- What a force-safe leaves of each gate. -/
theorem forceOff_on (k : Gates) (g : Gate) :
    (forceOff Gates.backend k).on g = if k.replies.getD g.order true then false else k.on g := by
  obtain ⟨on, replies⟩ := k
  rcases replies with _ | ⟨a, _ | ⟨b, _ | ⟨c, l⟩⟩⟩ <;> cases g <;>
    simp [forceOff, Gates.backend, Gate.order]

/-- **When a force-safe turns everything off.** -/
theorem forceOff_off_iff (k : Gates) : (∀ g, (forceOff Gates.backend k).on g = false) ↔ OffHeld k := by
  refine forall_congr' fun g => ?_
  rw [forceOff_on]
  cases k.replies.getD g.order true <;> simp

end OpenRef.Safety
