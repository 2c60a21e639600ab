import Mathlib.Data.List.Induction
import OpenRef.Lib.Run
import OpenRef.Service.Session
/-!
# Service permissions are earned

Challenges, authorizations, questions and ends arrive in any order and at any times; the backend answers anything.
`EarnedBy` is what lies behind a permission that the device grants: an authorization that was `Granted`, and
after it nothing that takes a session away.

A challenge is an issuing of it: the same bytes issued again are another challenge.
-/

namespace OpenRef.Service

variable {κ : Type}

/-! ## What it takes -/

section Histories

variable (be : ServiceBackend κ) (w₀ : Serviced κ)

/-- The device after some calls. -/
def Serviced.run (past : List ServiceCall) : Serviced κ := past.foldl (Serviced.step be) w₀

/-- The call carries an earlier time than a call before it, or than the start. -/
def ClockBack (past : List ServiceCall) (c : ServiceCall) : Prop :=
  ∃ t, c.time = some t ∧ (t < w₀.session.lastTimeMs ∨ ∃ d ∈ past, ∃ t', d.time = some t' ∧ t < t')

/-- This challenge was issued. -/
def Issues (challenge : Challenge) (nowMs : U64) (past : List ServiceCall) (c : ServiceCall) : Prop :=
  c = .issue challenge nowMs ∧ (w₀.run be past).answer be c = true

/-- A call that uses no challenge. -/
def NoAuthorization (_ : List ServiceCall) (c : ServiceCall) : Prop := ∀ a, c ≠ .authorize a

/-- A call that leaves a session alone: no challenge is issued, the session is not ended and the clock does
not go back. -/
def Quiet (past : List ServiceCall) (c : ServiceCall) : Prop :=
  (∀ challenge nowMs, ¬ Issues be w₀ challenge nowMs past c) ∧ c ≠ .finish ∧ ¬ ClockBack w₀ past c

/-- The authorization was granted: its response to an unused challenge, in time, was verified, its counter is greater
than every one accepted before and was persisted, the role allows what it asks for, and no lockout was on. -/
structure Granted (a : Authorization) (past : List ServiceCall) : Prop where
  answer : (w₀.run be past).answer be (.authorize a) = true
  challenge : ∃ challenge issuedMs k₁ k₂, Run.Since (Issues be w₀ challenge issuedMs) NoAuthorization past ∧
    issuedMs ≤ a.nowMs ∧ a.nowMs.toNat ≤ issuedMs.toNat + w₀.session.config.challengeTimeoutMs.toNat ∧
    be.verify (w₀.run be past).context challenge a.counter a.role a.requestedPermissions a.response = (k₁, true) ∧
    be.persistCounter k₁ a.counter = (k₂, true)
  counter : w₀.session.lastCounter < a.counter
  counters : ∀ earlier b later, past = earlier ++ .authorize b :: later →
    (w₀.run be earlier).answer be (.authorize b) = true → b.counter < a.counter
  unlocked : ∀ earlier later, past = earlier ++ later → (w₀.run be earlier).session.lockedUntilMs ≤ a.nowMs
  role : a.requestedPermissions &&& ~~~rolePermissions a.role = 0
  presence : a.physicalPresence = true ∨ a.requestedPermissions &&& physicalPermissions = 0

/-- What lies behind a permission. -/
structure EarnedBy (a : Authorization) (past : List ServiceCall) (permission : U32) (nowMs : U64) : Prop where
  since : Run.Since (fun earlier c => c = .authorize a ∧ Granted be w₀ a earlier) (Quiet be w₀) past
  now : ¬ ClockBack w₀ past (.permitted permission nowMs)
  asked : permission ≠ 0 ∧ a.requestedPermissions &&& permission = permission
  role : rolePermissions a.role &&& permission = permission
  presence : physicalPermissions &&& permission ≠ 0 → a.physicalPresence = true
  live : a.nowMs ≤ nowMs ∧ nowMs.toNat ≤ a.nowMs.toNat + w₀.session.config.sessionTimeoutMs.toNat

end Histories

/-! ## One call -/

section Steps

variable {be : ServiceBackend κ}

theorem deadline_le (nowMs : U64) (durationMs : U32) :
    (deadline nowMs durationMs).toNat ≤ nowMs.toNat + durationMs.toNat := by
  have hall : (-1 : U64).toNat = 2 ^ 64 - 1 := rfl
  have hwide := toNat_setWidth_64 durationMs
  unfold deadline Crew.deadline
  split
  · next h =>
    rw [BitVec.lt_def, BitVec.toNat_sub_of_le (by rw [BitVec.le_def, hall]; omega), hall, hwide] at h
    omega
  · rw [BitVec.toNat_add, hwide]
    exact Nat.mod_le _ _

theorem le_deadline (nowMs : U64) (durationMs : U32) : nowMs ≤ deadline nowMs durationMs := by
  have hall : (-1 : U64).toNat = 2 ^ 64 - 1 := rfl
  have hwide := toNat_setWidth_64 durationMs
  rw [BitVec.le_def]
  unfold deadline Crew.deadline
  split
  · omega
  · next h =>
    rw [BitVec.lt_def, BitVec.toNat_sub_of_le (by rw [BitVec.le_def, hall]; omega), hall, hwide] at h
    rw [BitVec.toNat_add, hwide, Nat.mod_eq_of_lt (by omega)]
    omega

/-- A lockout only moves on. -/
theorem reject_locked (s : ServiceSession) {nowMs : U64} (h : s.lockedUntilMs ≤ nowMs) :
    s.lockedUntilMs ≤ (s.reject nowMs).lockedUntilMs := by
  unfold ServiceSession.reject
  dsimp only
  apply iteInduction
  · intro _
    exact BitVec.le_trans h (le_deadline _ _)
  · intro _
    exact BitVec.le_refl _

/-- A bit that a mask has is in it whole. -/
theorem and_eq_of_single {mask bit : U32} (hne : bit ≠ 0) (hsingle : bit &&& (bit - 1) = 0) (h : mask &&& bit ≠ 0) :
    mask &&& bit = bit := by
  have hnat : bit.toNat ≠ 0 := fun h0 => hne (BitVec.eq_of_toNat_eq h0)
  have hone : (1 : U32) ≤ bit := by
    rw [BitVec.le_def]
    exact Nat.one_le_iff_ne_zero.2 hnat
  have hand := congrArg BitVec.toNat hsingle
  rw [BitVec.toNat_and, BitVec.toNat_sub_of_le hone] at hand
  obtain ⟨i, hi⟩ := (Nat.and_sub_one_eq_zero_iff_isPowerOfTwo hnat).1 hand
  have hbit (j : Nat) : bit.getLsbD j = decide (i = j) := by
    rw [BitVec.getLsbD, hi, Nat.testBit_two_pow]
  ext j hj
  rw [BitVec.getElem_and, ← BitVec.getLsbD_eq_getElem, ← BitVec.getLsbD_eq_getElem, hbit]
  by_cases hij : i = j
  · subst hij
    by_contra hmask
    refine h (BitVec.eq_of_getLsbD_eq fun j _ => ?_)
    rw [BitVec.getLsbD_and, hbit]
    by_cases hij : i = j
    · subst hij
      simp at hmask
      simp [hmask]
    · simp [hij]
  · simp [hij]

/-- A bit of a mask is in every mask that has all its bits. -/
theorem and_eq_of_subset {mask other bit : U32} (hsub : mask &&& ~~~other = 0) (h : mask &&& bit = bit) :
    other &&& bit = bit := by
  refine BitVec.eq_of_getLsbD_eq fun i hi => ?_
  have hs := congrArg (BitVec.getLsbD · i) hsub
  have hb := congrArg (BitVec.getLsbD · i) h
  simp only [BitVec.getLsbD_and, BitVec.getLsbD_not, hi, decide_true, Bool.true_and] at hs hb ⊢
  cases hm : mask.getLsbD i <;> simp_all

/-- What a call never takes back. -/
structure Serviced.Later (w w' : Serviced κ) : Prop where
  config : w'.session.config = w.session.config
  time : w.session.lastTimeMs ≤ w'.session.lastTimeMs
  locked : w.session.lockedUntilMs ≤ w'.session.lockedUntilMs
  counter : w.session.lastCounter ≤ w'.session.lastCounter

theorem Serviced.Later.trans {u v w : Serviced κ} (h : u.Later v) (h' : v.Later w) : u.Later w :=
  ⟨h'.config.trans h.config, BitVec.le_trans h.time h'.time, BitVec.le_trans h.locked h'.locked,
    BitVec.le_trans h.counter h'.counter⟩

theorem Serviced.Later.refl (w : Serviced κ) : w.Later w :=
  ⟨rfl, BitVec.le_refl _, BitVec.le_refl _, BitVec.le_refl _⟩

/-- What a request that passes the checks before its response says. -/
structure Admits (s : ServiceSession) (a : Authorization) : Prop where
  active : s.challengeActive = true
  onTime : a.nowMs - s.challengeIssuedMs ≤ s.config.challengeTimeoutMs.setWidth 64
  counter : s.lastCounter < a.counter
  role : a.requestedPermissions &&& ~~~rolePermissions a.role = 0
  presence : a.physicalPresence = true ∨ a.requestedPermissions &&& physicalPermissions = 0

theorem admits_true {s : ServiceSession} {a : Authorization} (h : s.admits a = true) : Admits s a := by
  simp only [ServiceSession.admits, Bool.and_eq_true, Bool.or_eq_true, decide_eq_true_eq, and_assoc] at h
  obtain ⟨hactive, hontime, hcounter, -, -, hrole, hpresence⟩ := h
  exact ⟨hactive, hontime, hcounter, hrole, hpresence⟩

theorem Serviced.step_later (w : Serviced κ) (c : ServiceCall) : w.Later (w.step be c) := by
  have hcall := w.call_called be c
  unfold step
  generalize w.call be c = r at hcall ⊢
  cases hcall with
  | finished => exact ⟨rfl, BitVec.le_refl _, BitVec.le_refl _, BitVec.le_refl _⟩
  | regressed => exact ⟨rfl, BitVec.le_refl _, BitVec.le_refl _, BitVec.le_refl _⟩
  | locked _ ht => exact ⟨rfl, ht, BitVec.le_refl _, BitVec.le_refl _⟩
  | rejected k _ ht hl => exact ⟨rfl, ht, reject_locked (w.session.atTime _) hl, BitVec.le_refl _⟩
  | issued ht => exact ⟨rfl, ht, BitVec.le_refl _, BitVec.le_refl _⟩
  | authorized ht _ ha => exact ⟨rfl, ht, BitVec.le_refl _, BitVec.le_of_lt (admits_true ha).counter⟩
  | permitted ht => exact ⟨rfl, ht, BitVec.le_refl _, BitVec.le_refl _⟩
  | denied ht => exact ⟨rfl, ht, BitVec.le_refl _, BitVec.le_refl _⟩
  | expired ht => exact ⟨rfl, ht, BitVec.le_refl _, BitVec.le_refl _⟩

end Steps

/-! ## Runs -/

section Runs

variable {be : ServiceBackend κ} {w₀ : Serviced κ}

theorem run_concat (past : List ServiceCall) (c : ServiceCall) :
    w₀.run be (past ++ [c]) = (w₀.run be past).step be c := by
  rw [Serviced.run, List.foldl_append]
  rfl

variable (be w₀) in
theorem run_later (past rest : List ServiceCall) : (w₀.run be past).Later (w₀.run be (past ++ rest)) := by
  rw [Serviced.run, Serviced.run, List.foldl_append]
  exact Run.inv_run (fun _ c hw => hw.trans (Serviced.step_later _ c)) (.refl _) rest

/-- The last time is the latest one so far. -/
theorem step_lastTimeMs (w : Serviced κ) (c : ServiceCall) (t : U64) :
    t < (w.step be c).session.lastTimeMs ↔ t < w.session.lastTimeMs ∨ ∃ t', c.time = some t' ∧ t < t' := by
  have hreach {nowMs : U64} (ht : w.session.lastTimeMs ≤ nowMs) :
      t < nowMs ↔ t < w.session.lastTimeMs ∨ ∃ t', some nowMs = some t' ∧ t < t' := by
    constructor
    · intro h
      exact .inr ⟨nowMs, rfl, h⟩
    · rintro (h | ⟨t', he, h⟩)
      · exact Nat.lt_of_lt_of_le h ht
      · cases he
        exact h
  have hcall := w.call_called be c
  unfold Serviced.step
  generalize w.call be c = r at hcall ⊢
  cases hcall with
  | finished => exact ⟨.inl, fun h => h.elim id fun ⟨_, he, _⟩ => by cases he⟩
  | regressed htime hback =>
    constructor
    · exact .inl
    · rintro (h | ⟨t', he, h⟩)
      · exact h
      · rw [htime, Option.some.injEq] at he
        subst he
        exact BitVec.lt_trans h hback
  | locked htime ht =>
    rw [htime]
    exact hreach ht
  | rejected k htime ht =>
    rw [htime]
    exact hreach ht
  | issued ht => exact hreach ht
  | authorized ht => exact hreach ht
  | permitted ht => exact hreach ht
  | denied ht => exact hreach ht
  | expired ht => exact hreach ht

theorem lt_lastTimeMs (past : List ServiceCall) (t : U64) : t < (w₀.run be past).session.lastTimeMs ↔
    t < w₀.session.lastTimeMs ∨ ∃ d ∈ past, ∃ t', d.time = some t' ∧ t < t' := by
  induction past using List.reverseRecOn with
  | nil => simp [Serviced.run]
  | append_singleton past c ih =>
    rw [run_concat, step_lastTimeMs, ih, or_assoc]
    simp only [List.mem_append, List.mem_singleton, or_and_right, exists_or, exists_eq_left]

/-- The device sees the clock go back exactly when it does. -/
theorem not_clockBack {past : List ServiceCall} {c : ServiceCall} {nowMs : U64} (htime : c.time = some nowMs)
    (ht : (w₀.run be past).session.lastTimeMs ≤ nowMs) : ¬ ClockBack w₀ past c := by
  rintro ⟨t, he, hback⟩
  rw [htime, Option.some.injEq] at he
  subst he
  exact BitVec.not_lt.2 ht ((lt_lastTimeMs past nowMs).2 hback)

variable (be w₀)

/-- A challenge that waits for its response. -/
structure Pending (past : List ServiceCall) (s : ServiceSession) : Prop where
  since : Run.Since (Issues be w₀ s.challenge s.challengeIssuedMs) NoAuthorization past
  unlocked : s.lockedUntilMs ≤ s.lastTimeMs
  issued : s.challengeIssuedMs ≤ s.lastTimeMs

/-- A session that is open. -/
structure Held (past : List ServiceCall) (s : ServiceSession) (a : Authorization) : Prop where
  since : Run.Since (fun earlier c => c = .authorize a ∧ Granted be w₀ a earlier) (Quiet be w₀) past
  permissions : s.permissions = a.requestedPermissions
  expires : s.sessionExpiresMs = deadline a.nowMs w₀.session.config.sessionTimeoutMs
  started : a.nowMs ≤ s.lastTimeMs

/-- What holds of the session after every run. -/
structure Progress (past : List ServiceCall) (s : ServiceSession) : Prop where
  pending : s.challengeActive = true → Pending be w₀ past s
  held : s.sessionActive = true → ∃ a, Held be w₀ past s a

variable {be w₀}

/-- No challenge waits and no session is open. -/
theorem progress_closed {past : List ServiceCall} {s : ServiceSession} (hc : s.challengeActive = false)
    (hs : s.sessionActive = false) : Progress be w₀ past s :=
  ⟨fun h => absurd (hc.symm.trans h) Bool.false_ne_true, fun h => absurd (hs.symm.trans h) Bool.false_ne_true⟩

/-- A session stays open over a call that leaves it alone. -/
theorem Held.later {past : List ServiceCall} {a : Authorization} {nowMs : U64} {c : ServiceCall}
    (h : Held be w₀ past (w₀.run be past).session a) (htime : c.time = some nowMs)
    (ht : (w₀.run be past).session.lastTimeMs ≤ nowMs) (hissues : ∀ challenge t, ¬ Issues be w₀ challenge t past c) :
    Held be w₀ (past ++ [c]) ((w₀.run be past).session.atTime nowMs) a := by
  have hquiet : Quiet be w₀ past c := by
    refine ⟨hissues, ?_, not_clockBack htime ht⟩
    rintro rfl
    cases htime
  exact ⟨.later h.since hquiet, h.permissions, h.expires, BitVec.le_trans h.started ht⟩

/-- A challenge waits on over a question. -/
theorem Pending.later {past : List ServiceCall} {permission : U32} {nowMs : U64}
    (h : Pending be w₀ past (w₀.run be past).session) (ht : (w₀.run be past).session.lastTimeMs ≤ nowMs) :
    Pending be w₀ (past ++ [.permitted permission nowMs]) ((w₀.run be past).session.atTime nowMs) :=
  ⟨.later h.since (fun a h => by cases h), BitVec.le_trans h.unlocked ht, BitVec.le_trans h.issued ht⟩

/-- The authorization that the device accepts. -/
theorem granted_of_pending {past : List ServiceCall} {a : Authorization} {k₁ k₂ : κ}
    (h : Pending be w₀ past (w₀.run be past).session) (hanswer : (w₀.run be past).answer be (.authorize a) = true)
    (ht : (w₀.run be past).session.lastTimeMs ≤ a.nowMs) (hl : (w₀.run be past).session.lockedUntilMs ≤ a.nowMs)
    (ha : Admits (w₀.run be past).session a)
    (hv : be.verify (w₀.run be past).context (w₀.run be past).session.challenge a.counter a.role
      a.requestedPermissions a.response = (k₁, true))
    (hp : be.persistCounter k₁ a.counter = (k₂, true)) : Granted be w₀ a past := by
  have hlater : w₀.Later (w₀.run be past) := run_later be w₀ [] past
  have hissued := BitVec.le_trans h.issued ht
  refine ⟨hanswer, ⟨_, _, k₁, k₂, h.since, hissued, ?_, hv, hp⟩, Nat.lt_of_le_of_lt hlater.counter ha.counter, ?_, ?_,
    ha.role, ha.presence⟩
  · have hontime := ha.onTime
    rw [BitVec.le_def, BitVec.toNat_sub_of_le hissued, toNat_setWidth_64, hlater.config] at hontime
    omega
  · rintro earlier b later rfl hb
    have hset : b.counter ≤ ((w₀.run be earlier).step be (.authorize b)).session.lastCounter := by
      have hcall := (w₀.run be earlier).call_called be (.authorize b)
      unfold Serviced.answer at hb
      unfold Serviced.step
      generalize (w₀.run be earlier).call be (.authorize b) = r at hcall hb ⊢
      cases hcall with
      | regressed | locked | rejected => cases hb
      | authorized => exact BitVec.le_refl _
    rw [← run_concat] at hset
    have hkept := (run_later be w₀ (earlier ++ [.authorize b]) later).counter
    rw [List.append_assoc, List.singleton_append] at hkept
    exact Nat.lt_of_le_of_lt (BitVec.le_trans hset hkept) ha.counter
  · rintro earlier later rfl
    exact BitVec.le_trans (run_later be w₀ earlier later).locked hl

theorem progress_step (past : List ServiceCall) (c : ServiceCall)
    (h : Progress be w₀ past (w₀.run be past).session) :
    Progress be w₀ (past ++ [c]) (w₀.run be (past ++ [c])).session := by
  have hcall := (w₀.run be past).call_called be c
  have hanswer : (w₀.run be past).answer be c = ((w₀.run be past).call be c).2 := rfl
  rw [run_concat]
  unfold Serviced.step
  generalize hr : (w₀.run be past).call be c = r at hcall hanswer ⊢
  -- a refused call issues no challenge
  have hrefused (h : r.2 = false) (challenge : Challenge) (t : U64) : ¬ Issues be w₀ challenge t past c := by
    rintro ⟨-, hi⟩
    rw [hanswer, h] at hi
    cases hi
  cases hcall with
  | finished => exact progress_closed rfl rfl
  | regressed => exact progress_closed rfl rfl
  | expired => exact progress_closed rfl rfl
  | locked htime ht hl =>
    refine ⟨fun hc => ?_, fun hs => ?_⟩
    · -- a challenge is only issued when no lockout is on, and a new lockout takes it away
      have hunlocked := BitVec.le_trans (h.pending hc).unlocked ht
      exact absurd hl (BitVec.not_lt.2 hunlocked)
    · obtain ⟨a, ha⟩ := h.held hs
      exact ⟨a, ha.later htime ht (hrefused rfl)⟩
  | rejected k htime ht =>
    refine ⟨(fun hc => by cases hc), fun hs => ?_⟩
    obtain ⟨a, ha⟩ := h.held hs
    have hlater := ha.later htime ht (hrefused rfl)
    exact ⟨a, hlater.since, hlater.permissions, hlater.expires, hlater.started⟩
  | issued ht hl => exact ⟨fun _ => ⟨.here ⟨rfl, hanswer⟩, hl, BitVec.le_refl _⟩, fun hs => by cases hs⟩
  | authorized ht hl ha hv hp =>
    refine ⟨(fun hc => by cases hc), fun _ => ⟨_, .here ⟨rfl, ?_⟩, rfl, ?_, BitVec.le_refl _⟩⟩
    · have hadmits := admits_true ha
      exact granted_of_pending (h.pending hadmits.active) hanswer ht hl hadmits hv hp
    · have hconfig : (w₀.run be past).session.config = w₀.session.config := (run_later be w₀ [] past).config
      exact congrArg (fun config : ServiceConfig => deadline _ config.sessionTimeoutMs) hconfig
  | permitted ht | denied ht =>
    refine ⟨fun hc => (h.pending hc).later ht, fun hs => ?_⟩
    obtain ⟨a, ha⟩ := h.held hs
    exact ⟨a, ha.later rfl ht fun _ _ hi => by cases hi.1⟩

variable (be) in
theorem progress_run {s : ServiceSession} {config : ServiceConfig} {persisted : U32} {nowMs : U64}
    (hinit : ServiceSession.init config persisted nowMs = some s) (k : κ) (past : List ServiceCall) :
    Progress be ⟨k, s⟩ past (Serviced.run be ⟨k, s⟩ past).session := by
  induction past using List.reverseRecOn with
  | nil =>
    unfold ServiceSession.init at hinit
    split at hinit
    · cases hinit
    · cases hinit
      exact progress_closed rfl rfl
  | append_singleton past c ih => exact progress_step past c ih

end Runs

/-- **Service permissions are earned.** Over every sequence of calls, whatever the backend answers: behind a permission
that the device grants there is an authorization that earned it. -/
theorem permissions_earned (be : ServiceBackend κ) {config : ServiceConfig} {persisted : U32} {startMs : U64}
    {s : ServiceSession} (hinit : ServiceSession.init config persisted startMs = some s) (k : κ)
    (past : List ServiceCall) (permission : U32) (nowMs : U64)
    (hpermitted : (Serviced.run be ⟨k, s⟩ past).answer be (.permitted permission nowMs) = true) :
    ∃ a, EarnedBy be ⟨k, s⟩ a past permission nowMs := by
  have h := progress_run be hinit k past
  have hcall := (Serviced.run be ⟨k, s⟩ past).call_called be (.permitted permission nowMs)
  unfold Serviced.answer at hpermitted
  generalize (Serviced.run be ⟨k, s⟩ past).call be (.permitted permission nowMs) = r at hcall hpermitted
  cases hcall with
  | regressed | locked | rejected | denied | expired => cases hpermitted
  | permitted ht hactive hlive hne hsingle hheld =>
    obtain ⟨a, ha⟩ := h.held hactive
    obtain ⟨earlier, c, -, -, ⟨rfl, hgranted⟩, -⟩ := ha.since.split
    have hasked : a.requestedPermissions &&& permission = permission := by
      rw [ha.permissions] at hheld
      exact and_eq_of_single hne hsingle hheld
    refine ⟨a, ha.since, not_clockBack rfl ht, ⟨hne, hasked⟩, and_eq_of_subset hgranted.role hasked, fun hphysical => ?_,
      BitVec.le_trans ha.started ht, ?_⟩
    · rcases hgranted.presence with hpresent | hnone
      · exact hpresent
      · refine absurd ?_ hphysical
        rw [← hasked, ← BitVec.and_assoc, BitVec.and_comm physicalPermissions, hnone]
        exact BitVec.zero_and
    · rw [ha.expires] at hlive
      exact hlive.trans (deadline_le _ _)

/-! ## A permission that is granted -/

/-- A backend that agrees to everything. -/
def willingBackend : ServiceBackend Unit where
  verify k _ _ _ _ _ := (k, true)
  persistCounter k _ := (k, true)

/-- Challenges last 100 ms, sessions 1 s; three failures lock for 500 ms. -/
def sampleConfig : ServiceConfig := ⟨100, 1000, 500, 3⟩

/-- A field tool asks for diagnostics. -/
def sampleAuthorization : Authorization := ⟨11, .field, permissionDiagnostics, false, Bytes.filled 32 0x22, 2⟩

/-- Counter 10 is persisted; a challenge and its response, and then a question. -/
theorem permissions_earned_diagnostics :
    ∃ a, EarnedBy willingBackend ⟨(), ⟨sampleConfig, Bytes.zero 32, 0, 0, 0, 0, 10, 0, 0, 0, 0, false, false⟩⟩ a
      [.issue (Bytes.filled 32 0x11) 1, .authorize sampleAuthorization] permissionDiagnostics 3 :=
  permissions_earned willingBackend
    (show ServiceSession.init sampleConfig 10 0 = some ⟨sampleConfig, Bytes.zero 32, 0, 0, 0, 0, 10, 0, 0, 0, 0, false, false⟩
      by decide) () _ permissionDiagnostics 3 (by decide +kernel)

end OpenRef.Service
