import OpenRef.Crew.Admission
import OpenRef.Lib.Run
/-!
# Who gets into a crew session

Begins, wires, cancellations and leaves arrive in any order and at any times; the
callbacks answer anything. `AdmittedBy` is what a wire that activates a session must
have been: the answer to the latest begin that succeeded, in time, verified, its
counter persisted before the key was installed.

`admission_safe`: every activating wire is one, their counters strictly increase,
and each begin is consumed by at most one wire.
-/

namespace OpenRef.Crew

variable {κ : Type}

/-! ## What the operations do -/

theorem equalConstantTime_iff {left right : List U8} (h : left.length = right.length) :
    equalConstantTime left right = true ↔ left = right := by
  have hdifference : equalConstantTime left right = true ↔ difference left right = 0 := decide_eq_true_iff
  exact hdifference.trans (difference_eq_zero h)

namespace CrewAdmissionProtocol

/-- The protocol at a time that is no regression. -/
def atTime (p : CrewAdmissionProtocol) (nowMs : U64) : CrewAdmissionProtocol := { p with lastTimeMs := nowMs }

/-- The protocol after a call whose clock went back. -/
def regressed (p : CrewAdmissionProtocol) : CrewAdmissionProtocol :=
  { p.cancel with rejectedInvitations := p.rejectedInvitations + 1 }

/-- Everything `begin` can do. -/
inductive Begun (p : CrewAdmissionProtocol) (s : CrewSession) (physical : Bool) (challenge : Challenge)
    (nowMs : U64) : CrewAdmissionProtocol × Bool → Prop
  | regressed : nowMs < p.lastTimeMs → Begun p s physical challenge nowMs (p.regressed, false)
  | refused : ¬ nowMs < p.lastTimeMs →
      (nowMs < p.lockedUntilMs ∨ physical = false ∨ s.active = true ∨ nonzero challenge.bytes = false) →
      Begun p s physical challenge nowMs (p.atTime nowMs, false)
  | opened : ¬ nowMs < p.lastTimeMs → ¬ nowMs < p.lockedUntilMs → physical = true → s.active = false →
      nonzero challenge.bytes = true →
      Begun p s physical challenge nowMs ((p.atTime nowMs).invite challenge nowMs, true)

theorem begin_begun (p : CrewAdmissionProtocol) (s : CrewSession) (physical : Bool) (challenge : Challenge)
    (nowMs : U64) : Begun p s physical challenge nowMs (p.begin s physical challenge nowMs) := by
  unfold begin timeValid
  by_cases ht : nowMs < p.lastTimeMs
  · rw [if_pos ht]
    exact .regressed ht
  · rw [if_neg ht]
    dsimp only
    split
    · next hc =>
      simp only [Bool.not_true, Bool.false_or, Bool.or_eq_true, decide_eq_true_eq, Bool.not_eq_true'] at hc
      refine .refused ht ?_
      rcases hc with ((hl | hp) | ha) | hn
      · exact .inl hl
      · exact .inr (.inl hp)
      · exact .inr (.inr (.inl ha))
      · exact .inr (.inr (.inr hn))
    · next hc =>
      simp only [Bool.not_true, Bool.false_or, Bool.or_eq_true, decide_eq_true_eq, Bool.not_eq_true', not_or,
        Bool.not_eq_true, Bool.not_eq_false] at hc
      exact .opened ht hc.1.1.1 hc.1.1.2 hc.1.2 hc.2

/-- The session a wire activates. -/
def joined (s : CrewSession) (wire : AdmissionWire) : CrewSession :=
  { s with
    activeSessionId := wire.sessionId
    lastSessionId := wire.sessionId
    memberMask := wire.memberMask
    active := true
    activations := s.activations + 1 }

/-- Everything `accept` can do. -/
inductive Accepted (be : AdmissionBackend κ) (keys : CrewKeyBackend κ) (k : κ) (p : CrewAdmissionProtocol)
    (s : CrewSession) (wire : AdmissionWire) (nowMs : U64) : κ × CrewAdmissionProtocol × CrewSession × Bool → Prop
  | regressed : nowMs < p.lastTimeMs → Accepted be keys k p s wire nowMs (k, p.regressed, s, false)
  | rejected (k' : κ) : ¬ nowMs < p.lastTimeMs →
      Accepted be keys k p s wire nowMs (k', (p.atTime nowMs).reject nowMs, s, false)
  | refused (k' : κ) (s' : CrewSession) : ¬ nowMs < p.lastTimeMs → p.answers s wire nowMs = true →
      s'.active = false → s'.localNodeId = s.localNodeId → s'.activations = s.activations →
      Accepted be keys k p s wire nowMs
        (k', { ({ p.atTime nowMs with lastAdmissionCounter := wire.counter } : CrewAdmissionProtocol).cancel with
          rejectedInvitations := p.rejectedInvitations + 1 }, s', false)
  | activated (k₁ k₂ k₃ k₄ : κ) (key : SessionKey) : ¬ nowMs < p.lastTimeMs → p.answers s wire nowMs = true →
      be.verify k wire.signed wire.fingerprint wire.signature = (k₁, true) →
      be.unwrap k₁ wire.wrappedKey p.challenge wire.sessionId = (k₂, some key) →
      be.persistCounter k₂ wire.counter = (k₃, true) → keys.install k₃ wire.sessionId key = (k₄, true) →
      Accepted be keys k p s wire nowMs
        (k₄, { ({ p.atTime nowMs with lastAdmissionCounter := wire.counter } : CrewAdmissionProtocol).cancel with
          consecutiveFailures := 0, acceptedInvitations := p.acceptedInvitations + 1 }, joined s wire, true)

/-- What a wire that passes the checks before the signature says. -/
structure Answers (p : CrewAdmissionProtocol) (s : CrewSession) (wire : AdmissionWire) (nowMs : U64) : Prop where
  opened : p.invitationOpen = true
  inactive : s.active = false
  window : nowMs - p.invitationStartedMs ≤ p.config.invitationWindowMs.setWidth 64
  node : wire.localNodeId = s.localNodeId
  counter : p.lastAdmissionCounter < wire.counter
  challenge : wire.challenge = p.challenge.bytes

theorem answers_true {p : CrewAdmissionProtocol} {s : CrewSession} {wire : AdmissionWire} {nowMs : U64}
    (h : p.answers s wire nowMs = true) : Answers p s wire nowMs := by
  have hlen : wire.challenge.length = p.challenge.bytes.length := by
    rw [AdmissionWire.challenge, AdmissionWire.field, List.length_take, List.length_drop, wire.length_eq,
      p.challenge.length_eq]
    rfl
  simp only [answers, Bool.and_eq_true, Bool.not_eq_true', decide_eq_true_eq, equalConstantTime_iff hlen,
    and_assoc] at h
  obtain ⟨hopened, hinactive, hwindow, -, -, hnode, -, -, -, -, -, hcounter, hchallenge, -, -⟩ := h
  exact ⟨hopened, hinactive, hwindow, hnode, hcounter, hchallenge⟩

/-- An admission that activates no session leaves it inactive. -/
theorem activate_false {keys : CrewKeyBackend κ} {k : κ} {s : CrewSession} {a : CrewAdmission} {key : SessionKey}
    (hf : (s.activate keys k a key).2.2 = false) :
    (s.activate keys k a key).2.1.active = s.active ∧ (s.activate keys k a key).2.1.localNodeId = s.localNodeId ∧
      (s.activate keys k a key).2.1.activations = s.activations := by
  unfold CrewSession.activate at hf ⊢
  split
  · exact ⟨rfl, rfl, rfl⟩
  · next hv =>
    rw [if_neg hv] at hf
    dsimp only at hf ⊢
    split
    · exact ⟨rfl, rfl, rfl⟩
    · next hi =>
      rw [if_neg hi] at hf
      cases hf

theorem activate_true {keys : CrewKeyBackend κ} {k : κ} {s : CrewSession} {wire : AdmissionWire} {key : SessionKey}
    (ht : (s.activate keys k wire.admission key).2.2 = true) :
    ∃ k', keys.install k wire.sessionId key = (k', true) ∧
      s.activate keys k wire.admission key = (k', joined s wire, true) := by
  unfold CrewSession.activate at ht ⊢
  split at ht
  · cases ht
  next hv =>
    rw [if_neg hv]
    dsimp only at ht ⊢
    split at ht
    · cases ht
    next hi =>
      rw [if_neg hi]
      have hok : (keys.install k wire.sessionId key).2 = true := by
        simpa [AdmissionWire.admission] using hi
      exact ⟨_, Prod.ext rfl hok, rfl⟩

theorem accept_accepted (be : AdmissionBackend κ) (keys : CrewKeyBackend κ) (k : κ) (p : CrewAdmissionProtocol)
    (s : CrewSession) (wire : AdmissionWire) (nowMs : U64) :
    Accepted be keys k p s wire nowMs (p.accept be keys k s wire nowMs) := by
  unfold accept timeValid
  by_cases ht : nowMs < p.lastTimeMs
  · rw [if_pos ht]
    exact .regressed ht
  rw [if_neg ht]
  have hanswers : CrewAdmissionProtocol.answers { p with lastTimeMs := nowMs } s wire nowMs =
      p.answers s wire nowMs := rfl
  simp only [Bool.not_true, Bool.false_eq_true, if_false, hanswers]
  cases ha : p.answers s wire nowMs with
  | false => exact .rejected k ht
  | true =>
    have hinactive := (answers_true ha).inactive
    simp only [Bool.not_true, Bool.false_eq_true, if_false]
    cases hv : be.verify k wire.signed wire.fingerprint wire.signature with
    | mk k₁ verified =>
    cases verified with
    | false => exact .rejected k₁ ht
    | true =>
      simp only [Bool.not_true, Bool.false_eq_true, if_false]
      cases hu : be.unwrap k₁ wire.wrappedKey p.challenge wire.sessionId with
      | mk k₂ unwrapped =>
      cases unwrapped with
      | none => exact .rejected k₂ ht
      | some key =>
        dsimp only
        cases hc : be.persistCounter k₂ wire.counter with
        | mk k₃ persisted =>
        cases persisted with
        | false => exact .rejected k₃ ht
        | true =>
          simp only [Bool.not_true, Bool.false_eq_true, if_false]
          cases hr : (s.activate keys k₃ wire.admission key).2.2 with
          | false =>
            obtain ⟨hact, hnode, hcount⟩ := activate_false hr
            exact .refused _ _ ht ha (hact.trans hinactive) hnode hcount
          | true =>
            obtain ⟨k₄, hi, heq⟩ := activate_true hr
            rw [heq]
            exact .activated k₁ k₂ k₃ k₄ key ht ha hv hu hc hi

end CrewAdmissionProtocol

/-! ## Runs -/

/-- A device that may join: the environment of the callbacks, the protocol and the session. -/
structure Joining (κ : Type) where
  context : κ
  protocol : CrewAdmissionProtocol
  session : CrewSession

/-- A call on the device. -/
inductive JoinCall
  | begin (physicalJoinConfirmed : Bool) (challenge : Challenge) (nowMs : U64)
  | accept (wire : AdmissionWire) (nowMs : U64)
  | cancel
  | leave

/-- The time a call carries. -/
def JoinCall.time : JoinCall → Option U64
  | .begin _ _ nowMs | .accept _ nowMs => some nowMs
  | .cancel | .leave => none

namespace Joining

variable (be : AdmissionBackend κ) (keys : CrewKeyBackend κ)

/-- One call. -/
def step (w : Joining κ) : JoinCall → Joining κ
  | .begin physical challenge nowMs => { w with protocol := (w.protocol.begin w.session physical challenge nowMs).1 }
  | .accept wire nowMs =>
    let r := w.protocol.accept be keys w.context w.session wire nowMs
    ⟨r.1, r.2.1, r.2.2.1⟩
  | .cancel => { w with protocol := w.protocol.cancel }
  | .leave =>
    let r := w.session.leave keys w.context
    { w with context := r.1, session := r.2.1 }

/-- What the call returns. -/
def answer (w : Joining κ) : JoinCall → Bool
  | .begin physical challenge nowMs => (w.protocol.begin w.session physical challenge nowMs).2
  | .accept wire nowMs => (w.protocol.accept be keys w.context w.session wire nowMs).2.2.2
  | .cancel => true
  | .leave => (w.session.leave keys w.context).2.2

/-- A `begin` that opens an invitation. -/
def Opens (w : Joining κ) : JoinCall → Prop
  | .begin physical challenge nowMs => w.answer be keys (.begin physical challenge nowMs) = true
  | _ => False

/-- A call that is neither a successful `begin` nor a wire. -/
def Idle (w : Joining κ) (call : JoinCall) : Prop :=
  ¬ w.Opens be keys call ∧ ∀ wire nowMs, call ≠ .accept wire nowMs

end Joining

section Runs

variable (be : AdmissionBackend κ) (keys : CrewKeyBackend κ)

/-- The invitation that `w` has open: the latest `begin` that succeeded opened it, nothing but failing
begins, cancellations and leaves came after it, and the clock never went back. -/
structure Invited (w₀ : Joining κ) (past : List JoinCall) (challenge : Challenge) (began : U64)
    (later : List U64) : Prop where
  opened : ∃ earlier since, past = earlier ++ .begin true challenge began :: since ∧
    (earlier.foldl (Joining.step be keys) w₀).Opens be keys (.begin true challenge began) ∧
    Run.Along (Joining.step be keys) (fun w call => w.Idle be keys call)
      ((earlier.foldl (Joining.step be keys) w₀).step be keys (.begin true challenge began)) since ∧
    since.filterMap JoinCall.time = later
  ordered : (began :: later).Pairwise (· ≤ ·)

/-- The wire was verified, its key unwrapped, its counter persisted and then the key installed. -/
def Persisted (w : Joining κ) (challenge : Challenge) (wire : AdmissionWire) (nowMs : U64) : Prop :=
  ∃ k₁ k₂ k₃ key, be.verify w.context wire.signed wire.fingerprint wire.signature = (k₁, true) ∧
    be.unwrap k₁ wire.wrappedKey challenge wire.sessionId = (k₂, some key) ∧
    be.persistCounter k₂ wire.counter = (k₃, true) ∧
    keys.install k₃ wire.sessionId key = ((w.step be keys (.accept wire nowMs)).context, true)

/-- What a wire that activates a session is. -/
structure AdmittedBy (w₀ : Joining κ) (past : List JoinCall) (wire : AdmissionWire) (nowMs : U64) : Prop where
  invited : ∃ challenge began later, Invited be keys w₀ past challenge began later ∧
    wire.challenge = challenge.bytes ∧ (began :: (later ++ [nowMs])).Pairwise (· ≤ ·) ∧
    nowMs.toNat ≤ began.toNat + w₀.protocol.config.invitationWindowMs.toNat ∧
    Persisted be keys (past.foldl (Joining.step be keys) w₀) challenge wire nowMs
  node : wire.localNodeId = w₀.session.localNodeId

/-- What holds of the device after every run. -/
structure JoinProgress (w₀ : Joining κ) (past : List JoinCall) (w : Joining κ) : Prop where
  reached : past.foldl (Joining.step be keys) w₀ = w
  config : w.protocol.config = w₀.protocol.config
  node : w.session.localNodeId = w₀.session.localNodeId
  invited : w.protocol.invitationOpen = true → ∃ later,
    Invited be keys w₀ past w.protocol.challenge w.protocol.invitationStartedMs later ∧
      ∀ t ∈ w.protocol.invitationStartedMs :: later, t ≤ w.protocol.lastTimeMs

variable {be keys}

theorem foldl_join_concat {w₀ w : Joining κ} {past : List JoinCall}
    (h : past.foldl (Joining.step be keys) w₀ = w) (call : JoinCall) :
    (past ++ [call]).foldl (Joining.step be keys) w₀ = w.step be keys call := by
  rw [List.foldl_append, h]
  rfl

/-- An invitation that stays open over a call. -/
theorem invited_extended {w₀ w : Joining κ} {past : List JoinCall} {challenge : Challenge} {began last : U64}
    {later : List U64} (hreached : past.foldl (Joining.step be keys) w₀ = w)
    (h : Invited be keys w₀ past challenge began later) (hle : ∀ t ∈ began :: later, t ≤ last)
    (call : JoinCall) (hidle : w.Idle be keys call) (htime : ∀ t, call.time = some t → last ≤ t) :
    Invited be keys w₀ (past ++ [call]) challenge began (later ++ call.time.toList) := by
  obtain ⟨⟨earlier, since, hpast, hopens, halong, htimes⟩, hordered⟩ := h
  refine ⟨⟨earlier, since ++ [call], ?_, hopens, ?_, ?_⟩, ?_⟩
  · rw [hpast, List.append_assoc]
    rfl
  · rw [Run.along_append]
    refine ⟨halong, ?_, trivial⟩
    have hw : since.foldl (Joining.step be keys)
        ((earlier.foldl (Joining.step be keys) w₀).step be keys (.begin true challenge began)) = w := by
      rw [← hreached, hpast, List.foldl_append]
      rfl
    rw [hw]
    exact hidle
  · rw [List.filterMap_append, htimes]
    cases ht : call.time <;> simp [ht]
  · rw [← List.cons_append, List.pairwise_append]
    refine ⟨hordered, ?_, ?_⟩
    · cases call.time <;> simp
    · intro a ha b hb
      rw [Option.mem_toList] at hb
      exact BitVec.le_trans (hle a ha) (htime b hb)

/-- A device whose invitation is closed. -/
theorem progress_closed {w₀ w : Joining κ} {past : List JoinCall}
    (hreached : past.foldl (Joining.step be keys) w₀ = w) (hconfig : w.protocol.config = w₀.protocol.config)
    (hnode : w.session.localNodeId = w₀.session.localNodeId) (hclosed : w.protocol.invitationOpen = false) :
    JoinProgress be keys w₀ past w :=
  ⟨hreached, hconfig, hnode, fun h => by rw [hclosed] at h; cases h⟩

theorem leave_localNodeId (k : κ) (s : CrewSession) : (s.leave keys k).2.1.localNodeId = s.localNodeId := by
  unfold CrewSession.leave
  dsimp only
  split <;> rfl

theorem progress_step {w₀ : Joining κ} (past : List JoinCall) (w : Joining κ) (call : JoinCall)
    (hp : JoinProgress be keys w₀ past w) :
    JoinProgress be keys w₀ (past ++ [call]) (w.step be keys call) := by
  have hreached := foldl_join_concat hp.reached call
  cases call with
  | cancel => exact progress_closed hreached hp.config hp.node rfl
  | leave =>
    refine ⟨hreached, hp.config, (leave_localNodeId _ _).trans hp.node, fun hopen => ?_⟩
    obtain ⟨later, hinv, hle⟩ := hp.invited hopen
    have hext := invited_extended hp.reached hinv hle .leave ⟨nofun, nofun⟩ nofun
    rw [JoinCall.time, Option.toList_none, List.append_nil] at hext
    exact ⟨later, hext, hle⟩
  | accept wire nowMs =>
    have ha := CrewAdmissionProtocol.accept_accepted be keys w.context w.protocol w.session wire nowMs
    simp only [Joining.step] at hreached ⊢
    generalize w.protocol.accept be keys w.context w.session wire nowMs = r at ha hreached ⊢
    cases ha with
    | regressed => exact progress_closed hreached hp.config hp.node rfl
    | rejected => exact progress_closed hreached hp.config hp.node rfl
    | refused k' s' _ _ _ hnode => exact progress_closed hreached hp.config (hnode.trans hp.node) rfl
    | activated => exact progress_closed hreached hp.config hp.node rfl
  | begin physical challenge nowMs =>
    have hb := CrewAdmissionProtocol.begin_begun w.protocol w.session physical challenge nowMs
    have hans : w.answer be keys (.begin physical challenge nowMs) =
      (w.protocol.begin w.session physical challenge nowMs).2 := rfl
    simp only [Joining.step] at hreached ⊢
    generalize w.protocol.begin w.session physical challenge nowMs = r at hb hreached hans ⊢
    cases hb with
    | regressed => exact progress_closed hreached hp.config hp.node rfl
    | refused ht =>
      -- the invitation, if there is one, stays as it is
      refine ⟨hreached, hp.config, hp.node, fun hopen => ?_⟩
      obtain ⟨later, hinv, hle⟩ := hp.invited hopen
      have hnot : ¬ w.Opens be keys (.begin physical challenge nowMs) := by
        rw [Joining.Opens, hans]
        nofun
      have hidle : w.Idle be keys (.begin physical challenge nowMs) := ⟨hnot, nofun⟩
      have hlast : w.protocol.lastTimeMs ≤ nowMs := BitVec.not_lt.1 ht
      have hext := invited_extended hp.reached hinv hle _ hidle fun t h => by cases h; exact hlast
      refine ⟨later ++ [nowMs], hext, fun t h => ?_⟩
      rw [← List.cons_append, List.mem_append, List.mem_singleton] at h
      rcases h with h | rfl
      · exact BitVec.le_trans (hle t h) hlast
      · exact BitVec.le_refl _
    | opened _ _ hphysical =>
      subst hphysical
      refine ⟨hreached, hp.config, hp.node, fun _ => ⟨[], ⟨⟨past, [], rfl, ?_, trivial, rfl⟩, ?_⟩, ?_⟩⟩
      · rw [hp.reached]
        exact hans
      · exact List.pairwise_singleton _ _
      · intro t h
        rw [List.mem_singleton.1 h]
        exact BitVec.le_refl _

/-- The counter never falls, and a wire that activates a session raises it to its own. -/
theorem counter_step (w : Joining κ) (call : JoinCall) {c : U32} (h : c ≤ w.protocol.lastAdmissionCounter) :
    c ≤ (w.step be keys call).protocol.lastAdmissionCounter := by
  cases call with
  | cancel => exact h
  | leave => exact h
  | begin physical challenge nowMs =>
    have hb := CrewAdmissionProtocol.begin_begun w.protocol w.session physical challenge nowMs
    simp only [Joining.step]
    generalize w.protocol.begin w.session physical challenge nowMs = r at hb ⊢
    cases hb <;> exact h
  | accept wire nowMs =>
    have ha := CrewAdmissionProtocol.accept_accepted be keys w.context w.protocol w.session wire nowMs
    simp only [Joining.step]
    generalize w.protocol.accept be keys w.context w.session wire nowMs = r at ha ⊢
    cases ha with
    | regressed => exact h
    | rejected => exact h
    | refused k' s' _ hans =>
      exact BitVec.le_trans h (BitVec.le_of_lt (CrewAdmissionProtocol.answers_true hans).counter)
    | activated k₁ k₂ k₃ k₄ key _ hans =>
      exact BitVec.le_trans h (BitVec.le_of_lt (CrewAdmissionProtocol.answers_true hans).counter)

/-- Every wire closes the invitation. -/
theorem closed_after_accept (w : Joining κ) (wire : AdmissionWire) (nowMs : U64) :
    (w.step be keys (.accept wire nowMs)).protocol.invitationOpen = false := by
  have ha := CrewAdmissionProtocol.accept_accepted be keys w.context w.protocol w.session wire nowMs
  simp only [Joining.step]
  generalize w.protocol.accept be keys w.context w.session wire nowMs = r at ha ⊢
  cases ha <;> rfl

/-- Only a `begin` opens an invitation. -/
theorem open_step {w : Joining κ} {call : JoinCall} (hcall : ¬ w.Opens be keys call)
    (hclosed : w.protocol.invitationOpen = false) : (w.step be keys call).protocol.invitationOpen = false := by
  cases call with
  | cancel => rfl
  | leave => exact hclosed
  | accept wire nowMs => exact closed_after_accept w wire nowMs
  | begin physical challenge nowMs =>
    have hb := CrewAdmissionProtocol.begin_begun w.protocol w.session physical challenge nowMs
    simp only [Joining.Opens, Joining.answer] at hcall
    simp only [Joining.step]
    generalize w.protocol.begin w.session physical challenge nowMs = r at hb hcall ⊢
    cases hb with
    | regressed => rfl
    | refused => exact hclosed
    | opened => exact absurd rfl hcall

/-- A session is activated by nothing but a wire that is accepted. -/
theorem active_step {w : Joining κ} {call : JoinCall} (hidle : w.session.active = false)
    (hactive : (w.step be keys call).session.active = true) :
    ∃ wire nowMs, call = .accept wire nowMs ∧ w.answer be keys (.accept wire nowMs) = true := by
  cases call with
  | cancel | begin =>
    have hactive : w.session.active = true := hactive
    rw [hidle] at hactive
    cases hactive
  | leave =>
    have hleft : (w.session.leave keys w.context).2.1.active = false := by
      unfold CrewSession.leave
      dsimp only
      split <;> rfl
    have hactive : (w.session.leave keys w.context).2.1.active = true := hactive
    rw [hleft] at hactive
    cases hactive
  | accept wire nowMs =>
    have ha := CrewAdmissionProtocol.accept_accepted be keys w.context w.protocol w.session wire nowMs
    refine ⟨wire, nowMs, rfl, ?_⟩
    simp only [Joining.step] at hactive
    simp only [Joining.answer]
    generalize w.protocol.accept be keys w.context w.session wire nowMs = r at ha hactive ⊢
    cases ha with
    | regressed | rejected =>
      rw [hidle] at hactive
      cases hactive
    | refused k' s' _ _ hs' =>
      rw [hs'] at hactive
      cases hactive
    | activated => rfl

/-- The call that activates a session. -/
theorem admitted_of_progress {w₀ w : Joining κ} {past : List JoinCall} (hp : JoinProgress be keys w₀ past w)
    {wire : AdmissionWire} {nowMs : U64} (hans : w.answer be keys (.accept wire nowMs) = true) :
    AdmittedBy be keys w₀ past wire nowMs ∧ w.protocol.lastAdmissionCounter < wire.counter ∧
      (w.step be keys (.accept wire nowMs)).protocol.lastAdmissionCounter = wire.counter := by
  have ha := CrewAdmissionProtocol.accept_accepted be keys w.context w.protocol w.session wire nowMs
  simp only [Joining.answer] at hans
  generalize hr : w.protocol.accept be keys w.context w.session wire nowMs = r at ha hans
  have hstep : w.step be keys (.accept wire nowMs) = ⟨r.1, r.2.1, r.2.2.1⟩ := by rw [← hr]; rfl
  cases ha with
  | regressed | rejected | refused => cases hans
  | activated k₁ k₂ k₃ k₄ key ht hvalid hv hu hc hi =>
    have hanswers := CrewAdmissionProtocol.answers_true hvalid
    obtain ⟨later, hinv, hle⟩ := hp.invited hanswers.opened
    have hlast : w.protocol.lastTimeMs ≤ nowMs := BitVec.not_lt.1 ht
    have hbegan : w.protocol.invitationStartedMs ≤ nowMs := BitVec.le_trans (hle _ List.mem_cons_self) hlast
    refine ⟨⟨⟨_, _, later, hinv, hanswers.challenge, ?_, ?_, ?_⟩, hanswers.node.trans hp.node⟩, hanswers.counter, ?_⟩
    · rw [← List.cons_append, List.pairwise_append]
      refine ⟨hinv.ordered, List.pairwise_singleton _ _, fun a ha b hb => ?_⟩
      rw [List.mem_singleton.1 hb]
      exact BitVec.le_trans (hle a ha) hlast
    · have hwindow := hanswers.window
      have hle' : w.protocol.invitationStartedMs.toNat ≤ nowMs.toNat := hbegan
      rw [BitVec.le_def, BitVec.toNat_sub_of_le hbegan, BitVec.toNat_setWidth, hp.config] at hwindow
      have := Nat.mod_le w₀.protocol.config.invitationWindowMs.toNat (2 ^ 64)
      omega
    · rw [hp.reached, Persisted, hstep]
      exact ⟨k₁, k₂, k₃, key, hv, hu, hc, hi⟩
    · rw [hstep]
      rfl

theorem progress_start {config : AdmissionConfig} {persisted : U32} {nowMs : U64} {p : CrewAdmissionProtocol}
    (h : CrewAdmissionProtocol.init config persisted nowMs = some p) (k : κ) (s : CrewSession) :
    JoinProgress be keys ⟨k, p, s⟩ [] ⟨k, p, s⟩ := by
  refine progress_closed rfl rfl rfl ?_
  unfold CrewAdmissionProtocol.init at h
  split at h
  · cases h
  · cases h
    rfl

theorem progress_run {w₀ : Joining κ} (h : JoinProgress be keys w₀ [] w₀) (past : List JoinCall) :
    JoinProgress be keys w₀ past (past.foldl (Joining.step be keys) w₀) :=
  Run.inv_past (C := fun _ _ => True) (fun past w call hp _ => progress_step past w call hp) [] w₀ past h
    (Run.along_of_forall fun _ _ => trivial)

variable (be keys)

/-- **Main result.** Over every sequence of begins, wires, cancellations and leaves: a wire that is accepted
is what `AdmittedBy` says; nothing else activates a session; the counters of accepted wires increase, so that
no wire is accepted twice; and between two wires the second of which meets an open invitation there is a
`begin` that succeeded, so that a begin is consumed by one wire at most. -/
theorem admission_safe {config : AdmissionConfig} {persisted : U32} {nowMs : U64} {p : CrewAdmissionProtocol}
    (hinit : CrewAdmissionProtocol.init config persisted nowMs = some p) (k : κ) (s : CrewSession) :
    let run := fun past : List JoinCall => past.foldl (Joining.step be keys) ⟨k, p, s⟩
    (∀ past wire now, (run past).answer be keys (.accept wire now) = true →
      AdmittedBy be keys ⟨k, p, s⟩ past wire now) ∧
    (∀ past call, (run past).session.active = false → ((run past).step be keys call).session.active = true →
      ∃ wire now, call = .accept wire now ∧ (run past).answer be keys (.accept wire now) = true) ∧
    (∀ past wire now between wire' now', (run past).answer be keys (.accept wire now) = true →
      (run (past ++ .accept wire now :: between)).answer be keys (.accept wire' now') = true →
      wire.counter < wire'.counter ∧ wire ≠ wire') ∧
    (∀ past wire now between, (run (past ++ .accept wire now :: between)).protocol.invitationOpen = true →
      ∃ since call rest, between = since ++ call :: rest ∧
        (run (past ++ .accept wire now :: since)).Opens be keys call) := by
  intro run
  have hp (past : List JoinCall) : JoinProgress be keys ⟨k, p, s⟩ past (run past) :=
    progress_run (progress_start hinit k s) past
  have hrun (past : List JoinCall) (call : JoinCall) (rest : List JoinCall) :
      run (past ++ call :: rest) = rest.foldl (Joining.step be keys) ((run past).step be keys call) := by
    simp only [run, List.foldl_append, List.foldl_cons]
  refine ⟨fun past wire now h => (admitted_of_progress (hp past) h).1, fun past call h h' => active_step h h', ?_, ?_⟩
  · intro past wire now between wire' now' h h'
    have hset := (admitted_of_progress (hp past) h).2.2
    have hkept : wire.counter ≤ (run (past ++ .accept wire now :: between)).protocol.lastAdmissionCounter := by
      rw [hrun]
      exact Run.inv_run (fun w call hw => counter_step w call hw) (hset ▸ BitVec.le_refl _) between
    have hless : wire.counter < wire'.counter := Nat.lt_of_le_of_lt hkept (admitted_of_progress (hp _) h').2.1
    exact ⟨hless, fun heq => BitVec.lt_irrefl _ (heq ▸ hless)⟩
  · intro past wire now between hopen
    rw [hrun] at hopen
    have hbad : ¬ Run.Along (Joining.step be keys) (fun w call => ¬ w.Opens be keys call)
        ((run past).step be keys (.accept wire now)) between := fun halong => by
      have hclosed := Run.inv_along (P := fun w : Joining κ => w.protocol.invitationOpen = false)
        (fun w call hw hc => open_step hc hw) _ between (closed_after_accept (run past) wire now) halong
      rw [hclosed] at hopen
      cases hopen
    obtain ⟨since, call, rest, hsplit, hopens⟩ := Run.exists_of_not_along hbad
    refine ⟨since, call, rest, hsplit, ?_⟩
    rw [hrun]
    exact not_not.1 hopens

end Runs

/-! ## A wire that is accepted -/

/-- Callbacks that agree to everything. -/
def willingBackend : AdmissionBackend Unit where
  verify k _ _ _ := (k, true)
  unwrap k _ _ _ := (k, some (Bytes.filled 16 0x5a))
  persistCounter k _ := (k, true)

def willingKeys : CrewKeyBackend Unit where
  install k _ _ := (k, true)
  erase k := (k, true)

/-- Invitations last 5 s; two failures lock for 10 s. -/
def sampleConfig : AdmissionConfig := ⟨5000, 10000, 2⟩

/-- A protocol that has persisted counter 7. -/
def sampleProtocol : CrewAdmissionProtocol := ⟨sampleConfig, Bytes.zero 32, 0, 0, 100, 7, 0, 0, 0, false⟩

/-- Node 2 in no session. -/
def sampleSession : CrewSession := ⟨0, 0, 2, 0, 0, 0, 0, false⟩

/-- The wire that admits node 2 to session 42 of nodes 1 and 2, with counter 8. -/
def sampleWire : AdmissionWire :=
  Bytes.append (m := 16) (n := 152) ⟨[0x4f, 0x52, 0x4a, 0x4e, 1, 2, 3, 2, 42, 0, 0, 0, 8, 0, 0, 0], rfl⟩
    (Bytes.filled 152 1)

/-- The rule at the wire above. -/
theorem sample_admitted : AdmittedBy willingBackend willingKeys ⟨(), sampleProtocol, sampleSession⟩
    [.begin true (Bytes.filled 32 1) 101] sampleWire 102 :=
  (admission_safe willingBackend willingKeys
    (show CrewAdmissionProtocol.init sampleConfig 7 100 = some sampleProtocol by decide) () sampleSession).1
    [.begin true (Bytes.filled 32 1) 101] sampleWire 102 (by decide +kernel)

end OpenRef.Crew
