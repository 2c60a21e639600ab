import OpenRef.Crew.Admission
/-!
# Service sessions (openref_service_session.c)

A service tool is given a challenge, and asks for permissions with a response to it. The device checks the role, the
user's presence, a counter that only grows and the response, and then opens a session for a while. Requests that are
refused are counted, and enough of them in a row lock the device for a while.

`call_called` is the specification of all four operations.
-/

namespace OpenRef.Service

/-- `uint8_t challenge[OPENREF_SERVICE_CHALLENGE_BYTES]`. -/
abbrev Challenge := Bytes 32

/-- `uint8_t response[OPENREF_SERVICE_RESPONSE_BYTES]`. -/
abbrev Response := Bytes 32

/-- `openref_service_role_t`, and the values an enumeration can hold beside its names. -/
inductive ServiceRole where
  | field
  | technician
  | factory
  | other (value : U32)
deriving DecidableEq, Repr

/-! `OPENREF_SERVICE_PERMISSION_*`. -/

def permissionDiagnostics : U32 := 1
def permissionConfigRead : U32 := 2
def permissionConfigWrite : U32 := 4
def permissionUpdate : U32 := 8
def permissionFactoryTest : U32 := 16
def permissionIdentity : U32 := 32

/-- `ALL_PERMISSIONS`. -/
def allPermissions : U32 := 63

/-- `PHYSICAL_PERMISSIONS`. -/
def physicalPermissions : U32 := permissionConfigWrite ||| permissionFactoryTest ||| permissionIdentity

/-- `openref_service_backend_t` over a context `κ`. -/
structure ServiceBackend (κ : Type) where
  verify : κ → Challenge → U32 → ServiceRole → U32 → Response → κ × Bool
  persistCounter : κ → U32 → κ × Bool

/-- `openref_service_config_t`. -/
structure ServiceConfig where
  challengeTimeoutMs : U32
  sessionTimeoutMs : U32
  lockoutMs : U32
  maximumFailures : U8
deriving DecidableEq, Repr

/-- `openref_service_session_t`; the backend is passed beside it. -/
structure ServiceSession where
  config : ServiceConfig
  challenge : Challenge
  challengeIssuedMs : U64
  sessionExpiresMs : U64
  lockedUntilMs : U64
  lastTimeMs : U64
  lastCounter : U32
  permissions : U32
  successfulSessions : U32
  rejectedAttempts : U32
  consecutiveFailures : U8
  challengeActive : Bool
  sessionActive : Bool
deriving DecidableEq, Repr

/-- What a tool hands to `openref_service_authorize`. -/
structure Authorization where
  counter : U32
  role : ServiceRole
  requestedPermissions : U32
  physicalPresence : Bool
  response : Response
  nowMs : U64
deriving DecidableEq, Repr

/-- `deadline` (:10-15), the text of the one for admissions. -/
def deadline (nowMs : U64) (durationMs : U32) : U64 := Crew.deadline nowMs durationMs

/-- `role_permissions` (:17-34). -/
def rolePermissions : ServiceRole → U32
  | .field => permissionDiagnostics ||| permissionConfigRead ||| permissionUpdate
  | .technician => permissionDiagnostics ||| permissionConfigRead ||| permissionConfigWrite ||| permissionUpdate
  | .factory => allPermissions
  | .other _ => 0

namespace ServiceSession

variable {κ : Type}

/-- `openref_service_session_init` (:73-89) with callbacks that are set. -/
def init (config : ServiceConfig) (persistedCounter : U32) (nowMs : U64) : Option ServiceSession :=
  if config.challengeTimeoutMs = 0 || config.sessionTimeoutMs = 0 || config.lockoutMs = 0 ||
      config.maximumFailures = 0 then none
  else some ⟨config, Bytes.zero 32, 0, 0, 0, nowMs, persistedCounter, 0, 0, 0, 0, false, false⟩

/-- `openref_service_end` (:36-46). -/
def finish (s : ServiceSession) : ServiceSession :=
  { s with
    challenge := Bytes.zero 32
    challengeActive := false
    sessionActive := false
    permissions := 0
    sessionExpiresMs := 0 }

/-- The session after a call whose clock went back. -/
def regressed (s : ServiceSession) : ServiceSession :=
  { s.finish with rejectedAttempts := s.rejectedAttempts + 1 }

/-- The session at a time that is no regression. -/
def atTime (s : ServiceSession) (nowMs : U64) : ServiceSession := { s with lastTimeMs := nowMs }

@[simp] theorem atTime_lockedUntilMs (s : ServiceSession) (nowMs : U64) :
    (s.atTime nowMs).lockedUntilMs = s.lockedUntilMs := rfl

@[simp] theorem atTime_challenge (s : ServiceSession) (nowMs : U64) : (s.atTime nowMs).challenge = s.challenge := rfl

@[simp] theorem atTime_sessionActive (s : ServiceSession) (nowMs : U64) :
    (s.atTime nowMs).sessionActive = s.sessionActive := rfl

@[simp] theorem atTime_sessionExpiresMs (s : ServiceSession) (nowMs : U64) :
    (s.atTime nowMs).sessionExpiresMs = s.sessionExpiresMs := rfl

@[simp] theorem atTime_permissions (s : ServiceSession) (nowMs : U64) :
    (s.atTime nowMs).permissions = s.permissions := rfl

/-- `time_valid` (:48-57). -/
def timeValid (s : ServiceSession) (nowMs : U64) : ServiceSession × Bool :=
  if nowMs < s.lastTimeMs then (s.regressed, false) else (s.atTime nowMs, true)

/-- `reject` (:59-71). -/
def reject (s : ServiceSession) (nowMs : U64) : ServiceSession :=
  let failures := if s.consecutiveFailures < 255 then s.consecutiveFailures + 1 else s.consecutiveFailures
  { s with
    rejectedAttempts := s.rejectedAttempts + 1
    consecutiveFailures := failures
    challengeActive := false
    challenge := Bytes.zero 32
    lockedUntilMs := if s.config.maximumFailures ≤ failures then deadline nowMs s.config.lockoutMs else s.lockedUntilMs }

/-- The session once a challenge was issued (:105-109). -/
def issued (s : ServiceSession) (challenge : Challenge) (nowMs : U64) : ServiceSession :=
  { s.finish with challenge := challenge, challengeIssuedMs := nowMs, challengeActive := true }

/-- `openref_service_issue_challenge` (:91-110). -/
def issueChallenge (s : ServiceSession) (challenge : Challenge) (nowMs : U64) : ServiceSession × Bool :=
  let t := s.timeValid nowMs
  if !t.2 || nowMs < t.1.lockedUntilMs then (t.1, false)
  else if !Crew.nonzero challenge.bytes then (t.1.reject nowMs, false)
  else (t.1.issued challenge nowMs, true)

/-- The checks of `openref_service_authorize` before the response (:122-130). -/
def admits (s : ServiceSession) (a : Authorization) : Bool :=
  s.challengeActive && a.nowMs - s.challengeIssuedMs ≤ s.config.challengeTimeoutMs.setWidth 64 &&
    s.lastCounter < a.counter && a.requestedPermissions ≠ 0 && a.requestedPermissions &&& ~~~allPermissions = 0 &&
    a.requestedPermissions &&& ~~~rolePermissions a.role = 0 &&
    (a.physicalPresence || a.requestedPermissions &&& physicalPermissions = 0)

@[simp] theorem atTime_admits (s : ServiceSession) (nowMs : U64) (a : Authorization) :
    (s.atTime nowMs).admits a = s.admits a := rfl

/-- The session once permissions were granted (:137-145). -/
def authorized (s : ServiceSession) (a : Authorization) : ServiceSession :=
  { s with
    challenge := Bytes.zero 32
    challengeActive := false
    lastCounter := a.counter
    permissions := a.requestedPermissions
    sessionExpiresMs := deadline a.nowMs s.config.sessionTimeoutMs
    sessionActive := true
    consecutiveFailures := 0
    successfulSessions := s.successfulSessions + 1 }

/-- `openref_service_authorize` (:112-146). -/
def authorize (be : ServiceBackend κ) (k : κ) (s : ServiceSession) (a : Authorization) : κ × ServiceSession × Bool :=
  let t := s.timeValid a.nowMs
  if !t.2 || a.nowMs < t.1.lockedUntilMs then (k, t.1, false)
  else if !t.1.admits a then (k, t.1.reject a.nowMs, false)
  else
    let verified := be.verify k t.1.challenge a.counter a.role a.requestedPermissions a.response
    if !verified.2 then (verified.1, t.1.reject a.nowMs, false)
    else
      let persisted := be.persistCounter verified.1 a.counter
      if !persisted.2 then (persisted.1, t.1.reject a.nowMs, false) else (persisted.1, t.1.authorized a, true)

/-- `openref_service_permitted` (:149-162). -/
def permitted (s : ServiceSession) (permission : U32) (nowMs : U64) : ServiceSession × Bool :=
  let t := s.timeValid nowMs
  if !t.2 || !t.1.sessionActive || t.1.sessionExpiresMs < nowMs || permission = 0 ||
      permission &&& (permission - 1) ≠ 0 || t.1.permissions &&& permission = 0 then
    (if t.1.sessionActive && t.1.sessionExpiresMs < nowMs then t.1.finish else t.1, false)
  else (t.1, true)

end ServiceSession

/-! ## What a call does -/

/-- A device in service: the environment of the backend, and the session. -/
structure Serviced (κ : Type) where
  context : κ
  session : ServiceSession

/-- A call on the device. -/
inductive ServiceCall
  | issue (challenge : Challenge) (nowMs : U64)
  | authorize (a : Authorization)
  | permitted (permission : U32) (nowMs : U64)
  | finish
deriving DecidableEq, Repr

/-- The time a call carries. -/
def ServiceCall.time : ServiceCall → Option U64
  | .issue _ nowMs | .permitted _ nowMs => some nowMs
  | .authorize a => some a.nowMs
  | .finish => none

namespace Serviced

variable {κ : Type} (be : ServiceBackend κ)

/-- The device with another session. -/
def withSession (w : Serviced κ) (s : ServiceSession) : Serviced κ := { w with session := s }

/-- The device after a call, and the answer. -/
def call (w : Serviced κ) : ServiceCall → Serviced κ × Bool
  | .issue challenge nowMs =>
    let r := w.session.issueChallenge challenge nowMs
    (w.withSession r.1, r.2)
  | .authorize a =>
    let r := w.session.authorize be w.context a
    (⟨r.1, r.2.1⟩, r.2.2)
  | .permitted permission nowMs =>
    let r := w.session.permitted permission nowMs
    (w.withSession r.1, r.2)
  | .finish => (w.withSession w.session.finish, true)

/-- One call. -/
def step (w : Serviced κ) (c : ServiceCall) : Serviced κ := (w.call be c).1

/-- What the call returns. -/
def answer (w : Serviced κ) (c : ServiceCall) : Bool := (w.call be c).2

/-- Everything a call can do. -/
inductive Called (w : Serviced κ) : ServiceCall → Serviced κ × Bool → Prop
  | finished : Called w .finish (w.withSession w.session.finish, true)
  | regressed {c : ServiceCall} {nowMs : U64} : c.time = some nowMs → nowMs < w.session.lastTimeMs →
      Called w c (w.withSession w.session.regressed, false)
  | locked {c : ServiceCall} {nowMs : U64} : c.time = some nowMs → w.session.lastTimeMs ≤ nowMs →
      nowMs < w.session.lockedUntilMs → Called w c (w.withSession (w.session.atTime nowMs), false)
  | rejected {c : ServiceCall} {nowMs : U64} (k : κ) : c.time = some nowMs → w.session.lastTimeMs ≤ nowMs →
      w.session.lockedUntilMs ≤ nowMs → Called w c (⟨k, (w.session.atTime nowMs).reject nowMs⟩, false)
  | issued {challenge : Challenge} {nowMs : U64} : w.session.lastTimeMs ≤ nowMs →
      w.session.lockedUntilMs ≤ nowMs →
      Called w (.issue challenge nowMs) (w.withSession ((w.session.atTime nowMs).issued challenge nowMs), true)
  | authorized {a : Authorization} {k₁ k₂ : κ} : w.session.lastTimeMs ≤ a.nowMs → w.session.lockedUntilMs ≤ a.nowMs →
      w.session.admits a = true →
      be.verify w.context w.session.challenge a.counter a.role a.requestedPermissions a.response = (k₁, true) →
      be.persistCounter k₁ a.counter = (k₂, true) →
      Called w (.authorize a) (⟨k₂, (w.session.atTime a.nowMs).authorized a⟩, true)
  | permitted {permission : U32} {nowMs : U64} : w.session.lastTimeMs ≤ nowMs → w.session.sessionActive = true →
      nowMs ≤ w.session.sessionExpiresMs → permission ≠ 0 → permission &&& (permission - 1) = 0 →
      w.session.permissions &&& permission ≠ 0 →
      Called w (.permitted permission nowMs) (w.withSession (w.session.atTime nowMs), true)
  | denied {permission : U32} {nowMs : U64} : w.session.lastTimeMs ≤ nowMs →
      Called w (.permitted permission nowMs) (w.withSession (w.session.atTime nowMs), false)
  | expired {permission : U32} {nowMs : U64} : w.session.lastTimeMs ≤ nowMs →
      Called w (.permitted permission nowMs) (w.withSession (w.session.atTime nowMs).finish, false)

theorem call_issue (w : Serviced κ) (challenge : Challenge) (nowMs : U64) :
    Called be w (.issue challenge nowMs) (w.call be (.issue challenge nowMs)) := by
  unfold call ServiceSession.issueChallenge ServiceSession.timeValid
  by_cases ht : nowMs < w.session.lastTimeMs
  · simp only [if_pos ht, Bool.not_false, Bool.true_or, if_true]
    exact .regressed rfl ht
  simp only [if_neg ht, Bool.not_true, Bool.false_or, decide_eq_true_eq, ServiceSession.atTime_lockedUntilMs]
  have ht := BitVec.not_lt.1 ht
  by_cases hl : nowMs < w.session.lockedUntilMs
  · simp only [if_pos hl]
    exact .locked rfl ht hl
  simp only [if_neg hl]
  have hl := BitVec.not_lt.1 hl
  cases hn : Crew.nonzero challenge.bytes with
  | false => exact .rejected _ rfl ht hl
  | true => exact .issued ht hl

theorem call_authorize (w : Serviced κ) (a : Authorization) :
    Called be w (.authorize a) (w.call be (.authorize a)) := by
  unfold call ServiceSession.authorize ServiceSession.timeValid
  by_cases ht : a.nowMs < w.session.lastTimeMs
  · simp only [if_pos ht, Bool.not_false, Bool.true_or, if_true]
    exact .regressed rfl ht
  simp only [if_neg ht, Bool.not_true, Bool.false_or, decide_eq_true_eq, ServiceSession.atTime_lockedUntilMs,
    ServiceSession.atTime_admits, ServiceSession.atTime_challenge]
  have ht := BitVec.not_lt.1 ht
  by_cases hl : a.nowMs < w.session.lockedUntilMs
  · simp only [if_pos hl]
    exact .locked rfl ht hl
  simp only [if_neg hl]
  have hl := BitVec.not_lt.1 hl
  cases ha : w.session.admits a with
  | false => exact .rejected _ rfl ht hl
  | true =>
    cases hv : be.verify w.context w.session.challenge a.counter a.role a.requestedPermissions a.response with
    | mk k₁ verified =>
    cases verified with
    | false => exact .rejected k₁ rfl ht hl
    | true =>
      cases hp : be.persistCounter k₁ a.counter with
      | mk k₂ persisted =>
      cases persisted with
      | false =>
        simp only
        exact .rejected k₂ rfl ht hl
      | true =>
        simp only
        exact .authorized ht hl ha hv hp

theorem call_permitted (w : Serviced κ) (permission : U32) (nowMs : U64) :
    Called be w (.permitted permission nowMs) (w.call be (.permitted permission nowMs)) := by
  unfold call ServiceSession.permitted ServiceSession.timeValid
  by_cases ht : nowMs < w.session.lastTimeMs
  · simp only [if_pos ht, Bool.not_false, Bool.true_or, if_true]
    exact .regressed rfl ht
  simp only [if_neg ht, Bool.not_true, Bool.false_or, ServiceSession.atTime_sessionActive,
    ServiceSession.atTime_sessionExpiresMs, ServiceSession.atTime_permissions]
  have ht := BitVec.not_lt.1 ht
  split
  · split
    · exact .expired ht
    · exact .denied ht
  · next hc =>
    simp only [Bool.or_eq_true, Bool.not_eq_true', decide_eq_true_eq, not_or, Bool.not_eq_false, BitVec.not_lt,
      not_not] at hc
    obtain ⟨⟨⟨⟨hactive, hlive⟩, hne⟩, hsingle⟩, hheld⟩ := hc
    exact .permitted ht hactive hlive hne hsingle hheld

/-- **Specification of a call.** -/
theorem call_called (w : Serviced κ) (c : ServiceCall) : Called be w c (w.call be c) := by
  cases c with
  | issue challenge nowMs => exact call_issue be w challenge nowMs
  | authorize a => exact call_authorize be w a
  | permitted permission nowMs => exact call_permitted be w permission nowMs
  | finish => exact .finished

end Serviced

end OpenRef.Service
