import OpenRef.Security.Transport
/-!
# Opening into the caller's buffer (openref_secure_transport.c:61-90)

`openref_secure_transport_open` writes the opened packet where the caller says, after
`openref_security_open` has moved the replay state of the source on. Here the call is
written out with that buffer; `openInto_eq` says it is `openPacket`.

`open_rejected_intact`: a call that fails leaves the buffer, the replay states and
the sending side alone, and a call whose packet the replay window admits succeeds.
-/

namespace OpenRef.Security

open Packet

variable {κ : Type}

/-- `openref_proto0_encode_header` (openref_proto0_packet.c:41-64) into the packet that holds the
header: every check precedes the first byte written. -/
def encodeHeaderInto (h : Header) (packet : NetworkPacket) : NetworkPacket × Bool :=
  match encodeHeader h with
  | none => (packet, false)
  | some bytes => (bytes.append packet.right, true)

/-- What `openref_secure_network_open` leaves: replay states, replay result, buffer, answer. -/
structure OpenedInto where
  replayBySource : Fin 6 → ReplayState
  replayResult : ReplayResult
  plaintextPacket : NetworkPacket
  ok : Bool

/-- `openref_secure_network_open` (openref_secure_network_packet.c:32-72) with the caller's buffer. -/
def secureNetworkOpenInto (be : CcmBackend κ) (k : κ) (session : U32) (replays : Fin 6 → ReplayState)
    (secured : SecuredPacket) (packet : NetworkPacket) (result : ReplayResult) : κ × OpenedInto :=
  match securedHeader secured with
  | none => (k, ⟨replays, result, packet, false⟩)
  | some header =>
    match sourceIndex header.sourceId with
    | none => (k, ⟨replays, result, packet, false⟩)
    | some i =>
      let r := openEnvelope be k session header.sourceId secured.left secured.right (replays i) result
      let replays := fun j => if j = i then r.2.1 else replays j
      match r.2.2.2 with
      | none => (r.1, ⟨replays, r.2.2.1, packet, false⟩)
      | some plaintext =>
        let e := encodeHeaderInto { header with payloadLength := 80 } packet
        if !e.2 then (r.1, ⟨replays, r.2.2.1, e.1, false⟩)
        else (r.1, ⟨replays, r.2.2.1, e.1.left.append plaintext, true⟩)

namespace SecureTransport

/-- `openref_secure_transport_open` (:61-90) with the caller's buffer. -/
def openInto (be : CcmBackend κ) (k : κ) (t : SecureTransport) (secured : SecuredPacket)
    (packet : NetworkPacket) : κ × SecureTransport × ReplayResult × NetworkPacket × Bool :=
  if !t.initialized then (k, t, .acceptFirst, packet, false)
  else
    let r := secureNetworkOpenInto be k t.crewSessionId t.replayBySource secured packet .acceptFirst
    let t := { t with replayBySource := r.2.replayBySource }
    if !r.2.ok then
      (r.1, { t with
        openFailures := t.openFailures + 1
        replayRejections :=
          if r.2.replayResult.accepted then t.replayRejections else t.replayRejections + 1 },
        r.2.replayResult, r.2.plaintextPacket, false)
    else (r.1, { t with openedPackets := t.openedPackets + 1 }, r.2.replayResult, r.2.plaintextPacket, true)

end SecureTransport

/-! ## The buffer is written last -/

/-- A decoded header is one that can be encoded again. -/
theorem securedHeader_some {secured : SecuredPacket} {h : Header} (hs : securedHeader secured = some h) :
    h = readHeader secured.bytes ∧ h.magic = magic ∧ h.version = packetVersion ∧ validSource h.sourceId = true ∧
      h.destinationId = 0 ∧ h.payloadLength = 96 ∧
      (h.kind = kindAudioFrame ∨ h.kind = kindHeartbeat ∨ h.kind = kindControl) := by
  obtain ⟨hd, hc⟩ := Option.filter_eq_some_iff.1 hs
  obtain ⟨hr, hw, -⟩ := decode_some hd
  simp only [Header.wellFormed, Bool.and_eq_true, decide_eq_true_eq] at hw
  simp only [Bool.and_eq_true, Bool.or_eq_true, decide_eq_true_eq, or_assoc] at hc
  exact ⟨hr, hw.1.1, hw.1.2, hc.1.1.1, hc.1.1.2, hc.1.2, hc.2⟩

theorem rewritten_wellFormed {secured : SecuredPacket} {h : Header} (hs : securedHeader secured = some h)
    {n : U16} (hn : n ≤ maxPayloadBytes) : ({ h with payloadLength := n } : Header).wellFormed = true := by
  obtain ⟨-, hm, hv, -⟩ := securedHeader_some hs
  simp [Header.wellFormed, hm, hv, hn]

/-- The header of an opened packet is always encoded: its checks were made before the replay state moved. -/
theorem encode_rewritten {secured : SecuredPacket} {h : Header} (hs : securedHeader secured = some h) :
    encodeHeader { h with payloadLength := 80 } = some ({ h with payloadLength := 80 } : Header).bytes := by
  rw [encodeHeader, if_pos (rewritten_wellFormed hs (by decide))]

theorem sourceIndex_of_valid {s : U8} (hs : validSource s = true) : ∃ i, sourceIndex s = some i := by
  simp only [validSource, Bool.and_eq_true, decide_eq_true_eq] at hs
  have h1 : 1 ≤ s.toNat := hs.1
  have h6 : s.toNat ≤ 6 := hs.2
  exact ⟨_, dif_pos ⟨h1, h6⟩⟩

theorem secureNetworkOpenInto_eq (be : CcmBackend κ) (k : κ) (session : U32) (replays : Fin 6 → ReplayState)
    (secured : SecuredPacket) (packet : NetworkPacket) (result : ReplayResult) :
    secureNetworkOpenInto be k session replays secured packet result =
      let r := secureNetworkOpen be k session replays secured result
      (r.1, ⟨r.2.1, r.2.2.1, r.2.2.2.getD packet, r.2.2.2.isSome⟩) := by
  unfold secureNetworkOpenInto secureNetworkOpen
  cases hs : securedHeader secured with
  | none => rfl
  | some header =>
    dsimp only
    cases sourceIndex header.sourceId with
    | none => rfl
    | some i =>
      dsimp only
      rw [encodeHeaderInto, encode_rewritten hs]
      cases (openEnvelope be k session header.sourceId secured.left secured.right (replays i) result).2.2.2 with
      | none => rfl
      | some plaintext =>
        simp only [Bool.not_true, Bool.false_eq_true, if_false, Option.bind_some, Option.map_some,
          Option.getD_some, Option.isSome_some, Bytes.left_append]

/-- **The buffer receives what `openPacket` returns, and keeps its content where that is nothing.** -/
theorem openInto_eq (be : CcmBackend κ) (k : κ) (t : SecureTransport) (secured : SecuredPacket)
    (packet : NetworkPacket) :
    t.openInto be k secured packet =
      let r := t.openPacket be k secured
      (r.1, r.2.1, r.2.2.1, r.2.2.2.getD packet, r.2.2.2.isSome) := by
  unfold SecureTransport.openInto SecureTransport.openPacket
  split
  · rfl
  · rw [secureNetworkOpenInto_eq]
    dsimp only
    cases (secureNetworkOpen be k t.crewSessionId t.replayBySource secured .acceptFirst).2.2.2 with
    | none => rfl
    | some plain => rfl

/-! ## Authentication, then the replay window -/

/-- What the replay window says of a packet that passes every check before it: the header's, and the
tag's. -/
def admission (be : CcmBackend κ) (k : κ) (t : SecureTransport) (secured : SecuredPacket) :
    Option ReplayResult :=
  if !t.initialized then none
  else
    (securedHeader secured).bind fun header => (sourceIndex header.sourceId).bind fun i =>
      let boot := LittleEndian.read 32 (secured.right.left.bytes.take 4)
      let packet := LittleEndian.read 32 (secured.right.left.bytes.drop 4)
      (be.decrypt k (buildNonce t.crewSessionId header.sourceId boot packet) secured.left
        secured.right.right.left secured.right.right.right).2.map fun _ =>
          (acceptAuthenticated (t.replayBySource i) boot packet).2

/-- A replay rejection leaves the replay state. -/
theorem accept_rejected {s : ReplayState} {boot packet : U32}
    (h : (acceptAuthenticated s boot packet).2.accepted = false) : (acceptAuthenticated s boot packet).1 = s := by
  generalize hr : acceptAuthenticated s boot packet = r at h
  have hp := hr ▸ accept_presented s boot packet
  cases hp with
  | first | newBoot | ahead | reordered => cases h
  | oldBoot | stale | duplicate => rfl

/-- The envelope layer refuses no source that passes the header check. -/
theorem not_reserved_of_valid {s : U8} (hs : validSource s = true) :
    ¬ (decide (s = 0) || decide (s = 255)) = true := by
  simp only [validSource, Bool.and_eq_true, decide_eq_true_eq] at hs
  simp only [Bool.or_eq_true, decide_eq_true_eq]
  rintro (rfl | rfl)
  · exact absurd hs.1 (by decide)
  · exact absurd hs.2 (by decide)

/-- What one call of `openEnvelope` does, by what the tag and then the replay window say. -/
theorem openEnvelope_cases (be : CcmBackend κ) (k : κ) (session : U32) {sourceId : U8}
    (hs : validSource sourceId = true) (aad : Aad) (envelope : Envelope) (replay : ReplayState)
    (result : ReplayResult) :
    let boot := LittleEndian.read 32 (envelope.left.bytes.take 4)
    let packet := LittleEndian.read 32 (envelope.left.bytes.drop 4)
    let d := be.decrypt k (buildNonce session sourceId boot packet) aad envelope.right.left envelope.right.right
    let a := acceptAuthenticated replay boot packet
    openEnvelope be k session sourceId aad envelope replay result =
      match d.2 with
      | none => (d.1, replay, result, none)
      | some plaintext => (d.1, a.1, a.2, if a.2.accepted then some plaintext else none) := by
  unfold openEnvelope
  exact if_neg (not_reserved_of_valid hs)

/-- `replay_rejections` after a call that failed for the reason given. -/
def rejectionsAfter (t : SecureTransport) : Option ReplayResult → U32
  | some a => if a.accepted then t.replayRejections else t.replayRejections + 1
  | none => t.replayRejections

/-- The transport after a call that failed. -/
def openFailed (t : SecureTransport) (a : Option ReplayResult) : SecureTransport :=
  { t with
    openFailures := if t.initialized then t.openFailures + 1 else t.openFailures
    replayRejections := rejectionsAfter t a }

/-- **A call of `openPacket`**, by what authentication and the replay window say of its packet. -/
theorem openPacket_admission (be : CcmBackend κ) (k : κ) (t : SecureTransport) (secured : SecuredPacket) :
    ((∃ a, admission be k t secured = some a ∧ a.accepted = true) ∧
      (t.openPacket be k secured).2.2.2.isSome = true) ∨
    ((∀ a, admission be k t secured = some a → a.accepted = false) ∧
      (t.openPacket be k secured).2.2.2 = none ∧
      (t.openPacket be k secured).2.1 = openFailed t (admission be k t secured)) := by
  cases hi : t.initialized with
  | false =>
    right
    have hsame : openFailed t none = t := by
      rw [openFailed, if_neg (by simp [hi])]
      rfl
    simp [admission, SecureTransport.openPacket, hi, hsame]
  | true =>
    unfold admission SecureTransport.openPacket secureNetworkOpen
    simp only [hi, Bool.not_true, Bool.false_eq_true, if_false]
    cases hs : securedHeader secured with
    | none =>
      right
      simp [openFailed, rejectionsAfter, hi, ReplayResult.accepted]
    | some header =>
      obtain ⟨-, -, -, hv, -⟩ := securedHeader_some hs
      obtain ⟨i, hsi⟩ := sourceIndex_of_valid hv
      have hkeep : (fun j => if j = i then t.replayBySource i else t.replayBySource j) = t.replayBySource := by
        funext j
        split
        · next hj => rw [hj]
        · rfl
      simp only [Option.bind_some, hsi, openEnvelope_cases be k t.crewSessionId hv, encode_rewritten hs]
      cases hd : (be.decrypt k (buildNonce t.crewSessionId header.sourceId
          (LittleEndian.read 32 (secured.right.left.bytes.take 4))
          (LittleEndian.read 32 (secured.right.left.bytes.drop 4))) secured.left
          secured.right.right.left secured.right.right.right).2 with
      | none =>
        -- the tag does not authenticate the packet: the window is not asked
        right
        simp [openFailed, rejectionsAfter, hi, ReplayResult.accepted, hkeep]
      | some plaintext =>
        dsimp only
        cases ha : (acceptAuthenticated (t.replayBySource i)
            (LittleEndian.read 32 (secured.right.left.bytes.take 4))
            (LittleEndian.read 32 (secured.right.left.bytes.drop 4))).2.accepted with
        | true =>
          left
          exact ⟨⟨_, rfl, ha⟩, rfl⟩
        | false =>
          right
          have hsame := accept_rejected ha
          simp [openFailed, rejectionsAfter, hi, ha, hsame, hkeep]

/-! ## Every state, every packet -/

/-- **Main result.** A packet is delivered exactly when its header, its tag and the replay window admit
it; a call that fails leaves the caller's buffer and the whole transport but its two counters. -/
theorem open_rejected_intact (be : CcmBackend κ) (k : κ) (t : SecureTransport) (secured : SecuredPacket)
    (packet : NetworkPacket) :
    ((t.openInto be k secured packet).2.2.2.2 = true ↔
      ∃ a, admission be k t secured = some a ∧ a.accepted = true) ∧
    ((t.openInto be k secured packet).2.2.2.2 = false →
      (t.openInto be k secured packet).2.2.2.1 = packet ∧
      (t.openInto be k secured packet).2.1 = openFailed t (admission be k t secured)) := by
  rw [openInto_eq]
  rcases openPacket_admission be k t secured with ⟨⟨a, ha, hacc⟩, hsome⟩ | ⟨hrej, hnone, ht⟩
  · refine ⟨⟨fun _ => ⟨a, ha, hacc⟩, fun _ => hsome⟩, fun hfail => ?_⟩
    exact absurd (hsome.symm.trans hfail) (by decide)
  · refine ⟨⟨fun hok => ?_, fun ⟨a, ha, hacc⟩ => ?_⟩, fun _ => ⟨?_, ht⟩⟩
    · have hok : (t.openPacket be k secured).2.2.2.isSome = true := hok
      rw [hnone] at hok
      cases hok
    · rw [hrej a ha] at hacc
      cases hacc
    · dsimp only
      rw [hnone]
      rfl

end OpenRef.Security
