import OpenRef.Packet.Proto0
/-!
# Network packets (openref_network_packet.c)

A network packet is a header and 80 bytes of payload, from a source with an id
from 1 to 6 to everybody. `parse_build` and `parseHeartbeat_build` are the round
trips.
-/

namespace OpenRef.Packet

/-- `OPENREF_NETWORK_PAYLOAD_BYTES`. -/
abbrev networkPayloadBytes : Nat := 80

/-- `uint8_t packet[OPENREF_NETWORK_PACKET_BYTES]`. -/
abbrev NetworkPacket := Bytes (headerBytes + networkPayloadBytes)

/-- `valid_source` (:38-41). -/
def validSource (sourceId : U8) : Bool := 1 ≤ sourceId && sourceId ≤ 6

/-- `openref_network_heartbeat_t`. -/
structure Heartbeat where
  coordinatorEpoch : U32
  scheduleOriginUs : U64
deriving DecidableEq, Repr

/-- The header `initialize_packet` writes (:55-64). -/
def networkHeader (kind sourceId : U8) (sequence : U16) (txTimestampUs : U64) : Header :=
  ⟨magic, packetVersion, kind, sourceId, 0, sequence, txTimestampUs, 80⟩

/-- `initialize_packet` (:43-70) and the payload its callers write. -/
def buildPacket (kind sourceId : U8) (sequence : U16) (txTimestampUs : U64)
    (payload : Bytes networkPayloadBytes) : Option NetworkPacket :=
  if !validSource sourceId then none
  else (encodeHeader (networkHeader kind sourceId sequence txTimestampUs)).map (Bytes.append · payload)

/-- Byte `index` of the test pattern (:89-92). -/
def patternPayload (sequence : U16) : Bytes networkPayloadBytes where
  bytes := (List.range networkPayloadBytes).map fun index => (sequence + BitVec.ofNat 16 index).setWidth 8
  length_eq := by simp

/-- `openref_network_build_audio_packet` (:72-94). -/
def buildAudioPacket (sourceId : U8) (sequence : U16) (txTimestampUs : U64) : Option NetworkPacket :=
  buildPacket kindAudioFrame sourceId sequence txTimestampUs (patternPayload sequence)

/-- `openref_network_build_audio_packet_with_payload` (:96-120). -/
def buildAudioPacketWithPayload (sourceId : U8) (sequence : U16) (txTimestampUs : U64)
    (payload : Bytes networkPayloadBytes) : Option NetworkPacket :=
  buildPacket kindAudioFrame sourceId sequence txTimestampUs payload

/-- The payload of a heartbeat: its 12 bytes, then zeros (:143-145). -/
def Heartbeat.payload (h : Heartbeat) : Bytes networkPayloadBytes where
  bytes := LittleEndian.write 4 h.coordinatorEpoch ++ LittleEndian.write 8 h.scheduleOriginUs ++
    List.replicate 68 0
  length_eq := by simp

/-- `openref_network_build_heartbeat_packet` (:122-147). -/
def buildHeartbeatPacket (sourceId : U8) (sequence : U16) (txTimestampUs : U64) (heartbeat : Heartbeat) :
    Option NetworkPacket :=
  buildPacket kindHeartbeat sourceId sequence txTimestampUs heartbeat.payload

/-- The checks on a decoded header (:158-162). -/
def acceptedHeader (h : Header) : Bool :=
  validSource h.sourceId && h.destinationId = 0 && h.payloadLength = 80 &&
    (h.kind = kindAudioFrame || h.kind = kindHeartbeat || h.kind = kindControl)

/-- `openref_network_parse_packet` (:149-163) on a buffer and its length. -/
def parsePacket (buffer : List U8) : Option Header :=
  if buffer.length ≠ headerBytes + networkPayloadBytes then none
  else (decodeHeader buffer).filter acceptedHeader

/-- The heartbeat in a payload (:175-177). -/
def readHeartbeat (payload : List U8) : Heartbeat :=
  ⟨LittleEndian.read 32 (payload.take 4), LittleEndian.read 64 ((payload.drop 4).take 8)⟩

/-- `openref_network_parse_heartbeat` (:165-179). -/
def parseHeartbeat (buffer : List U8) : Option Heartbeat :=
  (parsePacket buffer).bind fun header =>
    if header.kind = kindHeartbeat then some (readHeartbeat (buffer.drop headerBytes)) else none

theorem parsePacket_some {buffer : List U8} {h : Header} (hp : parsePacket buffer = some h) :
    decodeHeader buffer = some h ∧ acceptedHeader h = true ∧ buffer.length = 98 := by
  unfold parsePacket at hp
  split at hp
  · cases hp
  · rename_i hl
    obtain ⟨hd, ha⟩ := Option.filter_eq_some_iff.1 hp
    exact ⟨hd, ha, not_not.1 hl⟩

theorem networkHeader_wellFormed (k s : U8) (q : U16) (t : U64) : (networkHeader k s q t).wellFormed = true := by
  simp [Header.wellFormed, networkHeader, maxPayloadBytes]

/-- A packet is built from every source id from 1 to 6. -/
theorem buildPacket_eq {k s : U8} (hs : validSource s = true) (q : U16) (t : U64)
    (p : Bytes networkPayloadBytes) : buildPacket k s q t p = some ((networkHeader k s q t).bytes.append p) := by
  simp [buildPacket, hs, encodeHeader, networkHeader_wellFormed]

/-- **Round trip of a packet.** -/
theorem parse_build {k s : U8} {q : U16} {t : U64} {p : Bytes networkPayloadBytes} {packet : NetworkPacket}
    (hk : k = kindAudioFrame ∨ k = kindHeartbeat ∨ k = kindControl) (hb : buildPacket k s q t p = some packet) :
    parsePacket packet.bytes = some (networkHeader k s q t) ∧ packet.right = p := by
  have hs : validSource s = true := by
    by_contra hs
    simp [buildPacket, hs] at hb
  rw [buildPacket_eq hs, Option.some.injEq] at hb
  subst hb
  have hl : p.bytes.length = 80 := p.length_eq
  have hd : decodeHeader ((networkHeader k s q t).bytes.append p).bytes = some (networkHeader k s q t) := by
    refine decode_encode (networkHeader_wellFormed k s q t) ?_
    rw [hl]
    exact Nat.le_refl 80
  refine ⟨?_, Bytes.right_append _ _⟩
  rw [parsePacket, if_neg (by simp [Bytes.length_eq]), hd, Option.filter_some, if_pos]
  rcases hk with rfl | rfl | rfl <;>
    simp [acceptedHeader, networkHeader, hs, kindAudioFrame, kindHeartbeat, kindControl]

theorem readHeartbeat_payload (h : Heartbeat) : readHeartbeat h.payload.bytes = h := by
  obtain ⟨e, o⟩ := h
  have he : (LittleEndian.write 4 e).length = 4 := LittleEndian.length_write 4 e
  have ho : (LittleEndian.write 8 o).length = 8 := LittleEndian.length_write 8 o
  have hre := LittleEndian.read_write 4 e
  have hro := LittleEndian.read_write 8 o
  simp only [readHeartbeat, Heartbeat.payload, List.append_assoc]
  rw [List.take_left' he, List.drop_left' he, List.take_left' ho, Heartbeat.mk.injEq]
  exact ⟨hre, hro⟩

/-- **Round trip of a heartbeat.** -/
theorem parseHeartbeat_build {s : U8} {q : U16} {t : U64} {h : Heartbeat} {packet : NetworkPacket}
    (hb : buildHeartbeatPacket s q t h = some packet) :
    parseHeartbeat packet.bytes = some h ∧ parsePacket packet.bytes = some (networkHeader kindHeartbeat s q t) := by
  obtain ⟨hp, hr⟩ := parse_build (.inr (.inl rfl)) hb
  refine ⟨?_, hp⟩
  have hdrop : packet.bytes.drop headerBytes = h.payload.bytes := congrArg Bytes.bytes hr
  rw [parseHeartbeat, hp, Option.bind_some, hdrop, readHeartbeat_payload]
  rfl

end OpenRef.Packet
