import OpenRef.Crew.Session
import OpenRef.Lib.LittleEndian
/-!
# Joining a crew (openref_crew_admission.c)

The user confirms a join on the device, which opens an invitation: a challenge and
the time it was made. The next wire closes it, whatever the wire holds, and is
accepted when it answers the challenge in time and every check and callback agrees.
Wires that are rejected are counted, and enough of them in a row lock the device for
a while; the count and the lock do not ask whether an invitation was open.

`accept_accepted` and `begin_begun` are the specifications of the two operations.
-/

namespace OpenRef.Crew

/-- `uint8_t challenge[OPENREF_ADMISSION_CHALLENGE_BYTES]`. -/
abbrev Challenge := Bytes 32

/-- `uint8_t wire[OPENREF_ADMISSION_WIRE_BYTES]`. -/
abbrev AdmissionWire := Bytes 168

/-- `openref_admission_backend_t`: an unwrap that fails gives no key. -/
structure AdmissionBackend (κ : Type) where
  verify : κ → List U8 → List U8 → List U8 → κ × Bool
  unwrap : κ → List U8 → Challenge → U32 → κ × Option SessionKey
  persistCounter : κ → U32 → κ × Bool

/-- `openref_admission_config_t`. -/
structure AdmissionConfig where
  invitationWindowMs : U32
  lockoutMs : U32
  maximumFailures : U8
deriving DecidableEq, Repr

/-- `openref_crew_admission_protocol_t`; the backend and the crew session are passed beside it. -/
structure CrewAdmissionProtocol where
  config : AdmissionConfig
  challenge : Challenge
  invitationStartedMs : U64
  lockedUntilMs : U64
  lastTimeMs : U64
  lastAdmissionCounter : U32
  acceptedInvitations : U32
  rejectedInvitations : U32
  consecutiveFailures : U8
  invitationOpen : Bool
deriving DecidableEq, Repr

/-- `nonzero` (:12-19). -/
def nonzero (data : List U8) : Bool := data.foldl (· ||| ·) 0 ≠ 0

/-- `equal_constant_time` (:21-29). -/
def equalConstantTime (left right : List U8) : Bool :=
  (left.zip right).foldl (fun difference b => difference ||| (b.1 ^^^ b.2)) 0 = 0

/-- `deadline` (:40-44). -/
def deadline (nowMs : U64) (durationMs : U32) : U64 :=
  if -1 - nowMs < durationMs.setWidth 64 then -1 else nowMs + durationMs.setWidth 64

namespace AdmissionWire

/-- `&wire[offset]`, `length` bytes of it. -/
def field (wire : AdmissionWire) (offset length : Nat) : List U8 := (wire.bytes.drop offset).take length

/-- `wire[5]`. -/
def localNodeId (wire : AdmissionWire) : U8 := wire.bytes.getD 5 0
/-- `wire[6]`. -/
def memberMask (wire : AdmissionWire) : U8 := wire.bytes.getD 6 0
/-- `wire[7]`. -/
def memberCount (wire : AdmissionWire) : U8 := wire.bytes.getD 7 0
/-- `read_u32(&wire[8])`. -/
def sessionId (wire : AdmissionWire) : U32 := LittleEndian.read 32 (field wire 8 4)
/-- `read_u32(&wire[12])`. -/
def counter (wire : AdmissionWire) : U32 := LittleEndian.read 32 (field wire 12 4)
/-- The challenge the wire answers. -/
def challenge (wire : AdmissionWire) : List U8 := field wire 16 32
/-- The bytes the signature covers. -/
def signed (wire : AdmissionWire) : List U8 := field wire 0 104
/-- The coordinator's fingerprint. -/
def fingerprint (wire : AdmissionWire) : List U8 := field wire 48 8
/-- The session key under the unit's key. -/
def wrappedKey (wire : AdmissionWire) : List U8 := field wire 72 32
/-- The signature. -/
def signature (wire : AdmissionWire) : List U8 := field wire 104 64

/-- The admission a wire asks for (:157-163). -/
def admission (wire : AdmissionWire) : CrewAdmission :=
  ⟨sessionId wire, memberMask wire, memberCount wire, localNodeId wire, true⟩

end AdmissionWire

open AdmissionWire

namespace CrewAdmissionProtocol

variable {κ : Type}

/-- `openref_crew_admission_cancel` (:46-52). -/
def cancel (p : CrewAdmissionProtocol) : CrewAdmissionProtocol :=
  { p with challenge := Bytes.zero 32, invitationOpen := false }

/-- `reject` (:54-66). -/
def reject (p : CrewAdmissionProtocol) (nowMs : U64) : CrewAdmissionProtocol :=
  let failures := if p.consecutiveFailures < 255 then p.consecutiveFailures + 1 else p.consecutiveFailures
  { p.cancel with
    rejectedInvitations := p.rejectedInvitations + 1
    consecutiveFailures := failures
    lockedUntilMs :=
      if p.config.maximumFailures ≤ failures then deadline nowMs p.config.lockoutMs else p.lockedUntilMs }

/-- `time_valid` (:68-78). -/
def timeValid (p : CrewAdmissionProtocol) (nowMs : U64) : CrewAdmissionProtocol × Bool :=
  if nowMs < p.lastTimeMs then ({ p.cancel with rejectedInvitations := p.rejectedInvitations + 1 }, false)
  else ({ p with lastTimeMs := nowMs }, true)

/-- `openref_crew_admission_init` (:80-98) with callbacks that are set. -/
def init (config : AdmissionConfig) (persistedCounter : U32) (nowMs : U64) : Option CrewAdmissionProtocol :=
  if config.invitationWindowMs = 0 || config.lockoutMs = 0 || config.maximumFailures = 0 then none
  else some ⟨config, Bytes.zero 32, 0, 0, nowMs, persistedCounter, 0, 0, 0, false⟩

/-- The invitation `begin` opens (:110-113). -/
def invite (p : CrewAdmissionProtocol) (challenge : Challenge) (nowMs : U64) : CrewAdmissionProtocol :=
  { p.cancel with challenge := challenge, invitationStartedMs := nowMs, invitationOpen := true }

/-- `openref_crew_admission_begin` (:100-115). -/
def begin (p : CrewAdmissionProtocol) (s : CrewSession) (physicalJoinConfirmed : Bool) (challenge : Challenge)
    (nowMs : U64) : CrewAdmissionProtocol × Bool :=
  let r := p.timeValid nowMs
  if !r.2 || nowMs < p.lockedUntilMs || !physicalJoinConfirmed || s.active || !nonzero challenge.bytes then
    (r.1, false)
  else (r.1.invite challenge nowMs, true)

/-- The checks on a wire before the signature (:129-144). -/
def answers (p : CrewAdmissionProtocol) (s : CrewSession) (wire : AdmissionWire) (nowMs : U64) : Bool :=
  p.invitationOpen && !s.active &&
    nowMs - p.invitationStartedMs ≤ p.config.invitationWindowMs.setWidth 64 &&
    wire.bytes.take 5 = [0x4f, 0x52, 0x4a, 0x4e, 1] && memberBit (localNodeId wire) ≠ 0 &&
    localNodeId wire = s.localNodeId && (memberMask wire &&& memberBit (localNodeId wire)) ≠ 0 &&
    2 ≤ memberCount wire && memberCount wire ≤ crewMaxMembers &&
    population (memberMask wire) = memberCount wire && sessionId wire ≠ 0 &&
    p.lastAdmissionCounter < counter wire &&
    equalConstantTime (AdmissionWire.challenge wire) p.challenge.bytes &&
    nonzero (fingerprint wire) && nonzero (field wire 56 16)

/-- `openref_crew_admission_accept` (:117-172). -/
def accept (be : AdmissionBackend κ) (keys : CrewKeyBackend κ) (k : κ) (p : CrewAdmissionProtocol)
    (s : CrewSession) (wire : AdmissionWire) (nowMs : U64) : κ × CrewAdmissionProtocol × CrewSession × Bool :=
  let r := p.timeValid nowMs
  let p := r.1
  if !r.2 then (k, p, s, false)
  else if !p.answers s wire nowMs then (k, p.reject nowMs, s, false)
  else
    let v := be.verify k (signed wire) (fingerprint wire) (signature wire)
    if !v.2 then (v.1, p.reject nowMs, s, false)
    else
      let u := be.unwrap v.1 (wrappedKey wire) p.challenge (sessionId wire)
      match u.2 with
      | none => (u.1, p.reject nowMs, s, false)
      | some key =>
        let c := be.persistCounter u.1 (counter wire)
        if !c.2 then (c.1, p.reject nowMs, s, false)
        else
          let a := s.activate keys c.1 (admission wire) key
          let p := { p with lastAdmissionCounter := counter wire }.cancel
          if !a.2.2 then (a.1, { p with rejectedInvitations := p.rejectedInvitations + 1 }, a.2.1, false)
          else (a.1, { p with consecutiveFailures := 0, acceptedInvitations := p.acceptedInvitations + 1 },
            a.2.1, true)

end CrewAdmissionProtocol

end OpenRef.Crew
