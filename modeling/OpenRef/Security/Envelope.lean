import OpenRef.Packet.Network
import OpenRef.Security.Replay
/-!
# The protected envelope (openref_security.c, openref_secure_network_packet.c)

A secured packet is the header of a network packet, visible and authenticated, and
an envelope: boot counter, packet counter, ciphertext, tag. The nonce is session,
source, boot counter and packet counter; `buildNonce_inj`: it determines all four.

AES-CCM is a pair of callbacks over a context `κ`.
-/

namespace OpenRef.Security

open Packet

/-- `uint8_t nonce[OPENREF_SECURITY_NONCE_BYTES]`. -/
abbrev Nonce := Bytes 13
/-- `uint8_t tag[OPENREF_SECURITY_TAG_BYTES]`. -/
abbrev Tag := Bytes 8
/-- `uint8_t aad[OPENREF_SECURITY_AAD_BYTES]`, a packet header. -/
abbrev Aad := Bytes headerBytes
/-- `uint8_t plaintext[OPENREF_SECURITY_PLAINTEXT_BYTES]`, a network payload. -/
abbrev Plaintext := Bytes networkPayloadBytes
/-- `OPENREF_SECURITY_PREFIX_BYTES`. -/
abbrev prefixBytes : Nat := 8
/-- `uint8_t envelope[OPENREF_SECURITY_ENVELOPE_BYTES]`: prefix, ciphertext, tag. -/
abbrev Envelope := Bytes (prefixBytes + (networkPayloadBytes + 8))
/-- `uint8_t secured_packet[OPENREF_SECURE_NETWORK_PACKET_BYTES]`. -/
abbrev SecuredPacket := Bytes (headerBytes + (prefixBytes + (networkPayloadBytes + 8)))

/-- The callbacks `openref_security_ccm_encrypt_fn` and `openref_security_ccm_decrypt_fn`. -/
structure CcmBackend (κ : Type) where
  encrypt : κ → Nonce → Aad → Plaintext → κ × Option (Plaintext × Tag)
  decrypt : κ → Nonce → Aad → Plaintext → Tag → κ × Option Plaintext

/-- `openref_security_build_nonce` (openref_security.c:26-40). -/
def buildNonce (session : U32) (sourceId : U8) (boot packet : U32) : Nonce where
  bytes := LittleEndian.write 4 session ++ [sourceId] ++ LittleEndian.write 4 boot ++
    LittleEndian.write 4 packet
  length_eq := by simp

/-- The two counters in front of the ciphertext (openref_security.c:104-105). -/
def envelopePrefix (boot packet : U32) : Bytes prefixBytes where
  bytes := LittleEndian.write 4 boot ++ LittleEndian.write 4 packet
  length_eq := by simp

variable {κ : Type}

/-- `openref_security_protect` (openref_security.c:86-110). -/
def protectEnvelope (be : CcmBackend κ) (k : κ) (session : U32) (sourceId : U8) (boot packet : U32)
    (aad : Aad) (plaintext : Plaintext) : κ × Option Envelope :=
  if sourceId = 0 || sourceId = 255 then (k, none)
  else
    let r := be.encrypt k (buildNonce session sourceId boot packet) aad plaintext
    (r.1, r.2.map fun c => (envelopePrefix boot packet).append (c.1.append c.2))

/-- `openref_security_open` (openref_security.c:112-142); `result` is what the caller's
`replay_result` holds. -/
def openEnvelope (be : CcmBackend κ) (k : κ) (session : U32) (sourceId : U8) (aad : Aad)
    (envelope : Envelope) (replay : ReplayState) (result : ReplayResult) :
    κ × ReplayState × ReplayResult × Option Plaintext :=
  if sourceId = 0 || sourceId = 255 then (k, replay, result, none)
  else
    let boot := LittleEndian.read 32 (envelope.left.bytes.take 4)
    let packet := LittleEndian.read 32 (envelope.left.bytes.drop 4)
    let d := be.decrypt k (buildNonce session sourceId boot packet) aad envelope.right.left envelope.right.right
    match d.2 with
    | none => (d.1, replay, result, none)
    | some plaintext =>
      let a := acceptAuthenticated replay boot packet
      (d.1, a.1, a.2, if a.2.accepted then some plaintext else none)

/-- `openref_secure_network_wrap` (openref_secure_network_packet.c:5-30). -/
def secureNetworkWrap (be : CcmBackend κ) (k : κ) (session boot packet : U32) (plain : NetworkPacket) :
    κ × Option SecuredPacket :=
  match parsePacket plain.bytes with
  | none => (k, none)
  | some header =>
    match encodeHeader { header with payloadLength := 96 } with
    | none => (k, none)
    | some aad =>
      let r := protectEnvelope be k session header.sourceId boot packet aad plain.right
      (r.1, r.2.map aad.append)

/-- The header checks of `openref_secure_network_open` (:42-53). -/
def securedHeader (secured : SecuredPacket) : Option Header :=
  (decodeHeader secured.bytes).filter fun h =>
    validSource h.sourceId && h.destinationId = 0 && h.payloadLength = 96 &&
      (h.kind = kindAudioFrame || h.kind = kindHeartbeat || h.kind = kindControl)

/-- `openref_secure_network_open` (openref_secure_network_packet.c:32-72). -/
def secureNetworkOpen (be : CcmBackend κ) (k : κ) (session : U32) (replays : Fin 6 → ReplayState)
    (secured : SecuredPacket) (result : ReplayResult) :
    κ × (Fin 6 → ReplayState) × ReplayResult × Option NetworkPacket :=
  match securedHeader secured with
  | none => (k, replays, result, none)
  | some header =>
    match sourceIndex header.sourceId with
    | none => (k, replays, result, none)
    | some i =>
      let r := openEnvelope be k session header.sourceId secured.left secured.right (replays i) result
      (r.1, fun j => if j = i then r.2.1 else replays j, r.2.2.1,
        r.2.2.2.bind fun plaintext =>
          (encodeHeader { header with payloadLength := 80 }).map (Bytes.append · plaintext))

/-- **The nonce determines its four parts.** -/
theorem buildNonce_inj {s s' : U32} {i i' : U8} {b b' p p' : U32} :
    buildNonce s i b p = buildNonce s' i' b' p' ↔ s = s' ∧ i = i' ∧ b = b' ∧ p = p' := by
  constructor
  · intro h
    have hbytes := congrArg Bytes.bytes h
    simp only [buildNonce, List.append_assoc] at hbytes
    obtain ⟨hs, hbytes⟩ := List.append_inj hbytes (by simp)
    obtain ⟨hi, hbytes⟩ := List.append_inj hbytes rfl
    obtain ⟨hb, hp⟩ := List.append_inj hbytes (by simp)
    exact ⟨LittleEndian.write_injective (n := 4) hs, List.singleton_inj.1 hi,
      LittleEndian.write_injective (n := 4) hb, LittleEndian.write_injective (n := 4) hp⟩
  · rintro ⟨rfl, rfl, rfl, rfl⟩
    rfl

/-- What a wrap that succeeds passed to the encrypt callback, and what one that fails leaves. -/
theorem secureNetworkWrap_cases (be : CcmBackend κ) (k : κ) (session boot packet : U32)
    (plain : NetworkPacket) :
    (secureNetworkWrap be k session boot packet plain = (k, none)) ∨
    ∃ sourceId aad, let r := be.encrypt k (buildNonce session sourceId boot packet) aad plain.right
      secureNetworkWrap be k session boot packet plain = (r.1, r.2.map fun c =>
        aad.append ((envelopePrefix boot packet).append (c.1.append c.2))) := by
  unfold secureNetworkWrap
  cases parsePacket plain.bytes with
  | none => exact .inl rfl
  | some header =>
    dsimp only
    cases encodeHeader { header with payloadLength := 96 } with
    | none => exact .inl rfl
    | some aad =>
      dsimp only
      by_cases hs : (decide (header.sourceId = 0) || decide (header.sourceId = 255)) = true
      · left
        rw [protectEnvelope, if_pos hs]
        rfl
      · right
        refine ⟨header.sourceId, aad, ?_⟩
        rw [protectEnvelope, if_neg hs, Option.map_map]
        rfl

end OpenRef.Security
