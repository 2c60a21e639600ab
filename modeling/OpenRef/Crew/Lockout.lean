import OpenRef.Crew.AdmissionSafety
/-!
# The lockout and wires nobody asked for

`reject` (openref_crew_admission.c:54-66) counts every wire that is refused, also one
that meets no open invitation, and then sets the lockout anew; the service session
returns before that while it is locked (openref_service_session.c:117-120).

`lockout_bounded`: unsolicited wires leave the lockout alone exactly when each of them
is `Harmless`, and then a user who confirms a join gets an invitation from
`lockout_ms` after the last rejection of an open one on.
`unsolicited_wires_lock_out`: otherwise two wires out of the blue lock the device.
-/

namespace OpenRef.Crew

variable {κ : Type}

/-- `consecutive_failures` after one more failure (:58-60). -/
def CrewAdmissionProtocol.failuresAfter (p : CrewAdmissionProtocol) : U8 :=
  if p.consecutiveFailures < 255 then p.consecutiveFailures + 1 else p.consecutiveFailures

/-- A rejection sets the lockout once the failures allowed are used up. -/
theorem CrewAdmissionProtocol.reject_lockedUntilMs (p : CrewAdmissionProtocol) (nowMs : U64) :
    ((p.atTime nowMs).reject nowMs).lockedUntilMs =
      if p.config.maximumFailures ≤ p.failuresAfter then deadline nowMs p.config.lockoutMs else p.lockedUntilMs :=
  rfl

namespace Joining

variable (be : AdmissionBackend κ) (keys : CrewKeyBackend κ)

/-- An unsolicited wire that leaves the lockout alone. -/
def KeepsLock (w : Joining κ) : JoinCall → Prop
  | .accept wire nowMs => w.protocol.invitationOpen = false →
      (w.step be keys (.accept wire nowMs)).protocol.lockedUntilMs = w.protocol.lockedUntilMs
  | _ => True

/-- An unsolicited wire whose clock went back, that does not complete the failures allowed, or that asks for
the deadline in force. -/
def Harmless (w : Joining κ) : JoinCall → Prop
  | .accept _ nowMs => w.protocol.invitationOpen = false →
      nowMs < w.protocol.lastTimeMs ∨ w.protocol.failuresAfter < w.protocol.config.maximumFailures ∨
        deadline nowMs w.protocol.config.lockoutMs = w.protocol.lockedUntilMs
  | _ => True

/-- The rejection of a wire that meets an open invitation. -/
def RejectsOpen (w : Joining κ) : JoinCall → Prop
  | .accept wire nowMs => w.protocol.invitationOpen = true ∧ w.answer be keys (.accept wire nowMs) = false
  | _ => False

/-- **An unsolicited wire leaves the lockout alone exactly when it is harmless.** -/
theorem keepsLock_iff (w : Joining κ) (call : JoinCall) : w.KeepsLock be keys call ↔ w.Harmless call := by
  cases call with
  | cancel => exact Iff.rfl
  | leave => exact Iff.rfl
  | begin => exact Iff.rfl
  | accept wire nowMs =>
    refine imp_congr_right fun hclosed => ?_
    have ha := CrewAdmissionProtocol.accept_accepted be keys w.context w.protocol w.session wire nowMs
    simp only [step]
    generalize w.protocol.accept be keys w.context w.session wire nowMs = r at ha ⊢
    cases ha with
    | regressed ht => exact ⟨fun _ => .inl ht, fun _ => rfl⟩
    | refused _ _ _ hans | activated _ _ _ _ _ _ hans =>
      have hopened := (CrewAdmissionProtocol.answers_true hans).opened
      rw [hclosed] at hopened
      cases hopened
    | rejected k' ht =>
      rw [w.protocol.reject_lockedUntilMs nowMs]
      by_cases hmax : w.protocol.config.maximumFailures ≤ w.protocol.failuresAfter
      · rw [if_pos hmax]
        refine ⟨fun h => .inr (.inr h), fun h => ?_⟩
        rcases h with h | h | h
        · exact absurd h ht
        · exact absurd hmax (BitVec.not_le.2 h)
        · exact h
      · rw [if_neg hmax]
        exact ⟨fun _ => .inr (.inl (BitVec.not_le.1 hmax)), fun _ => rfl⟩

end Joining

section Runs

variable (be : AdmissionBackend κ) (keys : CrewKeyBackend κ)

/-- The last rejection of an open invitation in the run was at time `t`. -/
def LastRejection (w₀ : Joining κ) (past : List JoinCall) (t : U64) : Prop :=
  ∃ earlier wire since, past = earlier ++ .accept wire t :: since ∧
    (earlier.foldl (Joining.step be keys) w₀).RejectsOpen be keys (.accept wire t) ∧
    Run.Along (Joining.step be keys) (fun w call => ¬ w.RejectsOpen be keys call)
      ((earlier.foldl (Joining.step be keys) w₀).step be keys (.accept wire t)) since

/-- What holds of the lockout when no unsolicited wire moves it: it is over, or it was set by the last
rejection of an open invitation. -/
structure LockProgress (w₀ : Joining κ) (past : List JoinCall) (w : Joining κ) : Prop where
  reached : past.foldl (Joining.step be keys) w₀ = w
  config : w.protocol.config = w₀.protocol.config
  expired : w.protocol.invitationOpen = true → w.protocol.lockedUntilMs ≤ w.protocol.lastTimeMs
  bounded : w.protocol.lockedUntilMs ≤ w.protocol.lastTimeMs ∨ ∃ t, LastRejection be keys w₀ past t ∧
    w.protocol.lockedUntilMs = deadline t w₀.protocol.config.lockoutMs

variable {be keys}

theorem lastRejection_extended {w₀ w : Joining κ} {past : List JoinCall} {t : U64}
    (hreached : past.foldl (Joining.step be keys) w₀ = w) (h : LastRejection be keys w₀ past t) {call : JoinCall}
    (hcall : ¬ w.RejectsOpen be keys call) : LastRejection be keys w₀ (past ++ [call]) t := by
  obtain ⟨earlier, wire, since, hpast, hrej, halong⟩ := h
  refine ⟨earlier, wire, since ++ [call], ?_, hrej, ?_⟩
  · rw [hpast, List.append_assoc]
    rfl
  · rw [Run.along_append]
    refine ⟨halong, ?_, trivial⟩
    have hw : since.foldl (Joining.step be keys)
        ((earlier.foldl (Joining.step be keys) w₀).step be keys (.accept wire t)) = w := by
      rw [← hreached, hpast, List.foldl_append]
      rfl
    rwa [hw]

/-- A call that is no rejection of an open invitation and leaves the lockout alone. -/
theorem bounded_extended {w₀ w w' : Joining κ} {past : List JoinCall} (hp : LockProgress be keys w₀ past w)
    {call : JoinCall} (hcall : ¬ w.RejectsOpen be keys call)
    (hlock : w'.protocol.lockedUntilMs = w.protocol.lockedUntilMs)
    (htime : w.protocol.lastTimeMs ≤ w'.protocol.lastTimeMs) :
    w'.protocol.lockedUntilMs ≤ w'.protocol.lastTimeMs ∨ ∃ t, LastRejection be keys w₀ (past ++ [call]) t ∧
      w'.protocol.lockedUntilMs = deadline t w₀.protocol.config.lockoutMs := by
  rw [hlock]
  rcases hp.bounded with h | ⟨t, ht, h⟩
  · exact .inl (BitVec.le_trans h htime)
  · exact .inr ⟨t, lastRejection_extended hp.reached ht hcall, h⟩

theorem config_accept (be : AdmissionBackend κ) (keys : CrewKeyBackend κ) (w : Joining κ) (wire : AdmissionWire) (nowMs : U64) :
    (w.step be keys (.accept wire nowMs)).protocol.config = w.protocol.config ∧
      w.protocol.lastTimeMs ≤ (w.step be keys (.accept wire nowMs)).protocol.lastTimeMs := by
  have ha := CrewAdmissionProtocol.accept_accepted be keys w.context w.protocol w.session wire nowMs
  simp only [Joining.step]
  generalize w.protocol.accept be keys w.context w.session wire nowMs = r at ha ⊢
  cases ha with
  | regressed => exact ⟨rfl, BitVec.le_refl _⟩
  | rejected k' ht => exact ⟨rfl, BitVec.not_lt.1 ht⟩
  | refused k' s' ht => exact ⟨rfl, BitVec.not_lt.1 ht⟩
  | activated k₁ k₂ k₃ k₄ key ht => exact ⟨rfl, BitVec.not_lt.1 ht⟩

/-- A wire that meets an open invitation: the lockout is over, or the wire was rejected and set it. -/
theorem bounded_accept (be : AdmissionBackend κ) (keys : CrewKeyBackend κ) {w : Joining κ} (wire : AdmissionWire) (nowMs : U64)
    (hexpired : w.protocol.lockedUntilMs ≤ w.protocol.lastTimeMs) :
    (w.step be keys (.accept wire nowMs)).protocol.lockedUntilMs ≤
        (w.step be keys (.accept wire nowMs)).protocol.lastTimeMs ∨
      w.answer be keys (.accept wire nowMs) = false ∧
        (w.step be keys (.accept wire nowMs)).protocol.lockedUntilMs =
          deadline nowMs w.protocol.config.lockoutMs := by
  have ha := CrewAdmissionProtocol.accept_accepted be keys w.context w.protocol w.session wire nowMs
  simp only [Joining.step, Joining.answer]
  generalize w.protocol.accept be keys w.context w.session wire nowMs = r at ha ⊢
  cases ha with
  | regressed => exact .inl hexpired
  | refused k' s' ht => exact .inl (BitVec.le_trans hexpired (BitVec.not_lt.1 ht))
  | activated k₁ k₂ k₃ k₄ key ht => exact .inl (BitVec.le_trans hexpired (BitVec.not_lt.1 ht))
  | rejected k' ht =>
    dsimp only
    rw [w.protocol.reject_lockedUntilMs nowMs]
    split
    · exact .inr ⟨rfl, rfl⟩
    · exact .inl (BitVec.le_trans hexpired (BitVec.not_lt.1 ht))

theorem lock_step {w₀ : Joining κ} (past : List JoinCall) (w : Joining κ) (call : JoinCall)
    (hp : LockProgress be keys w₀ past w) (hc : w.Harmless call) :
    LockProgress be keys w₀ (past ++ [call]) (w.step be keys call) := by
  have hreached := foldl_join_concat hp.reached call
  cases call with
  | cancel =>
    exact ⟨hreached, hp.config, fun h => absurd h Bool.false_ne_true,
      bounded_extended hp not_false rfl (BitVec.le_refl _)⟩
  | leave => exact ⟨hreached, hp.config, hp.expired, bounded_extended hp not_false rfl (BitVec.le_refl _)⟩
  | begin physical challenge nowMs =>
    have hb := CrewAdmissionProtocol.begin_begun w.protocol w.session physical challenge nowMs
    simp only [Joining.step] at hreached ⊢
    generalize w.protocol.begin w.session physical challenge nowMs = r at hb hreached ⊢
    cases hb with
    | regressed =>
      exact ⟨hreached, hp.config, fun h => absurd h Bool.false_ne_true,
        bounded_extended hp not_false rfl (BitVec.le_refl _)⟩
    | refused ht =>
      have hle : w.protocol.lastTimeMs ≤ nowMs := BitVec.not_lt.1 ht
      exact ⟨hreached, hp.config, fun h => BitVec.le_trans (hp.expired h) hle, bounded_extended hp not_false rfl hle⟩
    | opened ht hl =>
      exact ⟨hreached, hp.config, fun _ => BitVec.not_lt.1 hl, .inl (BitVec.not_lt.1 hl)⟩
  | accept wire nowMs =>
    obtain ⟨hconfig, htime⟩ := config_accept be keys w wire nowMs
    have hclosed : (w.step be keys (.accept wire nowMs)).protocol.invitationOpen = false :=
      closed_after_accept w wire nowMs
    refine ⟨hreached, hconfig.trans hp.config, fun h => absurd (hclosed.symm.trans h) Bool.false_ne_true, ?_⟩
    cases hopen : w.protocol.invitationOpen with
    | false =>
      have hkeep := (Joining.keepsLock_iff be keys w (.accept wire nowMs)).2 hc hopen
      refine bounded_extended hp (fun h => ?_) hkeep htime
      rw [h.1] at hopen
      cases hopen
    | true =>
      rcases bounded_accept be keys wire nowMs (hp.expired hopen) with h | ⟨hans, hset⟩
      · exact .inl h
      · refine .inr ⟨nowMs, ⟨past, wire, [], rfl, ?_, trivial⟩, by rw [hset, hp.config]⟩
        rw [hp.reached]
        exact ⟨hopen, hans⟩

theorem lockProgress_run {config : AdmissionConfig} {persisted : U32} {nowMs : U64} {p : CrewAdmissionProtocol}
    (h : CrewAdmissionProtocol.init config persisted nowMs = some p) (k : κ) (s : CrewSession)
    {calls : List JoinCall} (hc : Run.Along (Joining.step be keys) Joining.Harmless ⟨k, p, s⟩ calls) :
    LockProgress be keys ⟨k, p, s⟩ calls (calls.foldl (Joining.step be keys) ⟨k, p, s⟩) := by
  have hstart : LockProgress be keys ⟨k, p, s⟩ [] ⟨k, p, s⟩ := by
    unfold CrewAdmissionProtocol.init at h
    split at h
    · cases h
    · cases h
      exact ⟨rfl, rfl, nofun, .inl (Nat.zero_le _)⟩
  exact Run.inv_past lock_step [] _ calls hstart hc

/-- The deadline is the sum, unless that does not fit. -/
theorem deadline_le {t now : U64} {d : U32} (h : t.toNat + d.toNat ≤ now.toNat) : deadline t d ≤ now := by
  unfold deadline
  have hd : (d.setWidth 64).toNat = d.toNat := by
    rw [BitVec.toNat_setWidth]
    exact Nat.mod_eq_of_lt (by have := d.isLt; omega)
  have hnow := now.isLt
  split
  · next hlt =>
    -- the sum would not fit, but `now` is no less
    exfalso
    rw [BitVec.lt_def, hd] at hlt
    have hmax : (-1 - t : U64).toNat = 2 ^ 64 - 1 - t.toNat := by
      have ht := t.isLt
      rw [BitVec.toNat_sub]
      have h1 : (-1 : U64).toNat = 2 ^ 64 - 1 := by decide
      rw [h1]
      omega
    omega
  · rw [BitVec.le_def, BitVec.toNat_add, hd]
    have := Nat.mod_le (t.toNat + d.toNat) (2 ^ 64)
    omega

/-- A user who confirms the join, with the lockout over. -/
theorem begin_succeeds {p : CrewAdmissionProtocol} {s : CrewSession} {challenge : Challenge} {nowMs : U64}
    (htime : p.lastTimeMs ≤ nowMs) (hlock : p.lockedUntilMs ≤ nowMs) (hs : s.active = false)
    (hn : nonzero challenge.bytes = true) : (p.begin s true challenge nowMs).2 = true := by
  have hb := CrewAdmissionProtocol.begin_begun p s true challenge nowMs
  generalize p.begin s true challenge nowMs = r at hb ⊢
  cases hb with
  | regressed ht => exact absurd htime (BitVec.not_le.2 ht)
  | opened => rfl
  | refused _ hwhy =>
    rcases hwhy with h | h | h | h
    · exact absurd hlock (BitVec.not_le.2 h)
    · cases h
    · rw [hs] at h
      cases h
    · rw [hn] at h
      cases h

/-- Where no `begin` has succeeded, no open invitation has been rejected. -/
theorem no_lastRejection {w₀ : Joining κ} (hclosed : w₀.protocol.invitationOpen = false) (calls : List JoinCall)
    (hnone : Run.Along (Joining.step be keys) (fun w call => ¬ w.Opens be keys call) w₀ calls) (t : U64) :
    ¬ LastRejection be keys w₀ calls t := by
  rintro ⟨earlier, wire, since, rfl, hrej, -⟩
  have hstill := Run.inv_along (P := fun w : Joining κ => w.protocol.invitationOpen = false)
    (fun w call hw hc => open_step hc hw) w₀ earlier hclosed (Run.along_append.1 hnone).1
  rw [hrej.1] at hstill
  cases hstill

variable (be keys)

/-- **Main result.** Over every run, unsolicited wires leave the lockout alone exactly when each of them is
harmless; and then a begin with physical confirmation, a nonzero challenge, no active session and a clock
that has not gone back succeeds from the lockout's length after the last rejection of an open invitation
on. -/
theorem lockout_bounded {config : AdmissionConfig} {persisted : U32} {nowMs : U64} {p : CrewAdmissionProtocol}
    (hinit : CrewAdmissionProtocol.init config persisted nowMs = some p) (k : κ) (s : CrewSession)
    (calls : List JoinCall) :
    (Run.Along (Joining.step be keys) (fun w call => w.KeepsLock be keys call) ⟨k, p, s⟩ calls ↔
      Run.Along (Joining.step be keys) Joining.Harmless ⟨k, p, s⟩ calls) ∧
    (Run.Along (Joining.step be keys) Joining.Harmless ⟨k, p, s⟩ calls →
      ∀ challenge now, let w := calls.foldl (Joining.step be keys) ⟨k, p, s⟩
        w.session.active = false → nonzero challenge.bytes = true → w.protocol.lastTimeMs ≤ now →
        (∀ t, LastRejection be keys ⟨k, p, s⟩ calls t → t.toNat + config.lockoutMs.toNat ≤ now.toNat) →
        w.answer be keys (.begin true challenge now) = true) := by
  constructor
  · have hstep : (fun (w : Joining κ) call => w.KeepsLock be keys call) = Joining.Harmless := by
      funext w call
      exact propext (Joining.keepsLock_iff be keys w call)
    rw [hstep]
  · intro hc challenge now w hidle hn htime hlast
    have hp := lockProgress_run hinit k s hc
    have hconfig : p.config = config := by
      unfold CrewAdmissionProtocol.init at hinit
      split at hinit
      · cases hinit
      · cases hinit
        rfl
    refine begin_succeeds htime ?_ hidle hn
    rcases hp.bounded with h | ⟨t, ht, h⟩
    · exact BitVec.le_trans h htime
    · have hdeadline : deadline t config.lockoutMs ≤ now := deadline_le (hlast t ht)
      rw [h]
      exact hconfig ▸ hdeadline

end Runs

/-! ## Two wires out of the blue -/

/-- A wire of zeros. -/
def strayWire : AdmissionWire := Bytes.zero 168

/-- The rule after one stray wire: one failure of the two allowed. -/
theorem invited_after_one_stray_wire :
    Joining.answer willingBackend willingKeys
      ([.accept strayWire 100].foldl (Joining.step willingBackend willingKeys)
        ⟨(), sampleProtocol, sampleSession⟩)
      (.begin true (Bytes.filled 32 1) 101) = true :=
  (lockout_bounded willingBackend willingKeys
    (show CrewAdmissionProtocol.init sampleConfig 7 100 = some sampleProtocol by decide) () sampleSession
    [.accept strayWire 100]).2 ⟨fun _ => .inr (.inl (by decide)), trivial⟩ (Bytes.filled 32 1) 101
      (by decide +kernel) (by decide) (by decide +kernel)
      fun t ht => absurd ht (no_lastRejection rfl [.accept strayWire 100] ⟨nofun, trivial⟩ t)

/-- Two stray wires lock the device, which has never had an invitation open: a join that the user confirms
the next moment is refused. -/
theorem unsolicited_wires_lock_out :
    ¬ ∀ (be : AdmissionBackend Unit) (keys : CrewKeyBackend Unit) (config : AdmissionConfig) (persisted : U32)
      (nowMs : U64) (p : CrewAdmissionProtocol) (s : CrewSession) (calls : List JoinCall),
      CrewAdmissionProtocol.init config persisted nowMs = some p →
      Run.Along (Joining.step be keys) (fun w call => w.KeepsLock be keys call) ⟨(), p, s⟩ calls ∧
      ∀ challenge now, let w := calls.foldl (Joining.step be keys) ⟨(), p, s⟩
        w.session.active = false → nonzero challenge.bytes = true → w.protocol.lastTimeMs ≤ now →
        (∀ t, LastRejection be keys ⟨(), p, s⟩ calls t → t.toNat + config.lockoutMs.toNat ≤ now.toNat) →
        w.answer be keys (.begin true challenge now) = true := by
  intro h
  have hbegin := (h willingBackend willingKeys sampleConfig 7 100 sampleProtocol sampleSession
    [.accept strayWire 100, .accept strayWire 100] (by decide)).2 (Bytes.filled 32 1) 101
    (by decide +kernel) (by decide) (by decide +kernel)
    fun t ht => absurd ht (no_lastRejection rfl [.accept strayWire 100, .accept strayWire 100]
      ⟨nofun, nofun, trivial⟩ t)
  revert hbegin
  decide +kernel

end OpenRef.Crew
