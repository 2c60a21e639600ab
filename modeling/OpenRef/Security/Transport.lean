import OpenRef.Security.Envelope
/-!
# The secure transport (openref_secure_transport.c)

One session, one boot and one key: the transport numbers the packets it protects
from the initial counter on, and stops for good after the counter `UINT32_MAX`.
`protect_cases` is the specification of `protect`.
-/

namespace OpenRef.Security

/-- `openref_secure_transport_t`; the callbacks and their context are passed to each call. -/
structure SecureTransport where
  crewSessionId : U32
  bootCounter : U32
  nextPacketCounter : U32
  replayBySource : Fin 6 → ReplayState
  protectedPackets : U32
  openedPackets : U32
  protectFailures : U32
  openFailures : U32
  replayRejections : U32
  transmitExhausted : Bool
  initialized : Bool

namespace SecureTransport

variable {κ : Type}

/-- The state `memset` leaves. -/
def zero : SecureTransport := ⟨0, 0, 0, fun _ => ReplayState.zero, 0, 0, 0, 0, 0, false, false⟩

/-- `openref_secure_transport_init` (:6-29). -/
def init (session boot initialPacketCounter : U32) : Option SecureTransport :=
  if session = 0 || boot = 0 || initialPacketCounter = 0 then none
  else some { zero with
    crewSessionId := session, bootCounter := boot, nextPacketCounter := initialPacketCounter
    initialized := true }

theorem init_some {session boot counter : U32} {t : SecureTransport}
    (h : init session boot counter = some t) : { zero with
      crewSessionId := session, bootCounter := boot, nextPacketCounter := counter, initialized := true } = t := by
  unfold init at h
  split at h
  · cases h
  · exact Option.some.inj h

theorem init_session {session boot counter : U32} {t : SecureTransport}
    (h : init session boot counter = some t) : t.crewSessionId = session := by
  rw [← init_some h]

theorem init_boot {session boot counter : U32} {t : SecureTransport}
    (h : init session boot counter = some t) : t.bootCounter = boot := by
  rw [← init_some h]

/-- The failure every function counts, once initialised (:38-40). -/
def protectRefused (t : SecureTransport) : SecureTransport :=
  if t.initialized then { t with protectFailures := t.protectFailures + 1 } else t

/-- `openref_secure_transport_protect` (:31-59). -/
def protect (be : CcmBackend κ) (k : κ) (t : SecureTransport) (plain : Packet.NetworkPacket) :
    κ × SecureTransport × Option SecuredPacket :=
  if !t.initialized || t.transmitExhausted then (k, t.protectRefused, none)
  else
    let counter := t.nextPacketCounter
    let r := secureNetworkWrap be k t.crewSessionId t.bootCounter counter plain
    match r.2 with
    | none => (r.1, { t with protectFailures := t.protectFailures + 1 }, none)
    | some secured =>
      (r.1, if counter = uint32Max then
          { t with protectedPackets := t.protectedPackets + 1, transmitExhausted := true }
        else { t with protectedPackets := t.protectedPackets + 1, nextPacketCounter := counter + 1 },
        some secured)

/-- `openref_secure_transport_open` (:61-90) with the replay result it reports. -/
def openPacket (be : CcmBackend κ) (k : κ) (t : SecureTransport) (secured : SecuredPacket) :
    κ × SecureTransport × ReplayResult × Option Packet.NetworkPacket :=
  if !t.initialized then (k, t, .acceptFirst, none)
  else
    let r := secureNetworkOpen be k t.crewSessionId t.replayBySource secured .acceptFirst
    let t := { t with replayBySource := r.2.1 }
    match r.2.2.2 with
    | none =>
      (r.1, { t with
        openFailures := t.openFailures + 1
        replayRejections := if r.2.2.1.accepted then t.replayRejections else t.replayRejections + 1 },
        r.2.2.1, none)
    | some plain => (r.1, { t with openedPackets := t.openedPackets + 1 }, r.2.2.1, some plain)

/-- What `protect` never changes: the session, the boot, and that the transport is initialised. -/
structure SameStream (t t' : SecureTransport) : Prop where
  session : t'.crewSessionId = t.crewSessionId
  boot : t'.bootCounter = t.bootCounter
  initialized : t'.initialized = t.initialized

/-- **A call of `protect`**: it fails and keeps its place, or it succeeds under the next counter, which
it uses up. -/
theorem protect_cases (be : CcmBackend κ) (k : κ) (t : SecureTransport) (plain : Packet.NetworkPacket) :
    SameStream t (t.protect be k plain).2.1 ∧
    (((t.protect be k plain).2.2 = none ∧
      (t.protect be k plain).2.1.nextPacketCounter = t.nextPacketCounter ∧
      (t.protect be k plain).2.1.transmitExhausted = t.transmitExhausted ∧
      ((t.protect be k plain).1 = k ∨ ∃ nonce aad text, be.encrypt k nonce aad text = ((t.protect be k plain).1, none))) ∨
    (∃ sourceId aad text c secured,
      (t.protect be k plain).2.2 = some secured ∧
      be.encrypt k (buildNonce t.crewSessionId sourceId t.bootCounter t.nextPacketCounter) aad text =
        ((t.protect be k plain).1, some c) ∧
      t.initialized = true ∧ t.transmitExhausted = false ∧
      (if t.nextPacketCounter = uint32Max then (t.protect be k plain).2.1.transmitExhausted = true
        else (t.protect be k plain).2.1.nextPacketCounter = t.nextPacketCounter + 1 ∧
          (t.protect be k plain).2.1.transmitExhausted = false))) := by
  unfold protect
  split
  · -- not initialised, or exhausted
    unfold protectRefused
    split
    · exact ⟨⟨rfl, rfl, rfl⟩, .inl ⟨rfl, rfl, rfl, .inl rfl⟩⟩
    · exact ⟨⟨rfl, rfl, rfl⟩, .inl ⟨rfl, rfl, rfl, .inl rfl⟩⟩
  · rename_i hready
    simp only [Bool.or_eq_true, Bool.not_eq_true', not_or, Bool.not_eq_true, Bool.not_eq_false] at hready
    dsimp only
    rcases secureNetworkWrap_cases be k t.crewSessionId t.bootCounter t.nextPacketCounter plain with
      h | ⟨sourceId, aad, h⟩
    · rw [h]
      exact ⟨⟨rfl, rfl, rfl⟩, .inl ⟨rfl, rfl, rfl, .inl rfl⟩⟩
    · rw [h]
      dsimp only
      generalize henc : be.encrypt k
        (buildNonce t.crewSessionId sourceId t.bootCounter t.nextPacketCounter) aad plain.right = r
      obtain ⟨k', _ | c⟩ := r
      · exact ⟨⟨rfl, rfl, rfl⟩, .inl ⟨rfl, rfl, rfl, .inr ⟨_, _, _, henc⟩⟩⟩
      · dsimp only [Option.map_some]
        by_cases hmax : t.nextPacketCounter = uint32Max
        · simp only [hmax, if_true]
          rw [hmax] at henc
          exact ⟨⟨rfl, rfl, rfl⟩, .inr ⟨sourceId, aad, _, c, _, rfl, henc, hready.1, hready.2, trivial⟩⟩
        · simp only [hmax, if_false]
          exact ⟨⟨rfl, rfl, rfl⟩,
            .inr ⟨sourceId, aad, _, c, _, rfl, henc, hready.1, hready.2, trivial, hready.2⟩⟩

end SecureTransport

end OpenRef.Security
