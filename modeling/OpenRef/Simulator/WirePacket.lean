import OpenRef.Packet.Network
/-!
# The simulator's wire packets (packet.py)

The simulator writes and reads the packet header with Python's `struct`, over integers of any size that it
checks first. `wire_formats_agree` compares it with the firmware's codec (openref_proto0_packet.c,
openref_network_packet.c): what the simulator decodes the firmware decodes to the same values, what the
simulator encodes the firmware encodes to the same bytes, and the packets that the firmware builds are
decoded on both sides.
-/

namespace OpenRef.Simulator

open OpenRef.Packet

/-! ## `struct` -/

/-- `struct.pack` of unsigned little-endian fields without padding, each of so many bytes. -/
def structPack : List (Nat × Int) → Except String (List U8)
  | [] => .ok []
  | (n, v) :: fields =>
    if 0 ≤ v ∧ v < 2 ^ (8 * n) then
      (structPack fields).map fun rest => LittleEndian.write n (BitVec.ofInt (8 * n) v) ++ rest
    else .error "argument out of range"

/-- `struct.unpack_from` of such fields. -/
def structUnpack : List Nat → List U8 → List Int
  | [], _ => []
  | n :: ns, data => (LittleEndian.read (8 * n) (data.take n)).toNat :: structUnpack ns (data.drop n)

/-- `struct.Struct("<HBBBBHQH")`: the bytes of each field. -/
def headerFormat : List Nat := [2, 1, 1, 1, 1, 2, 8, 2]

/-! ## Headers -/

/-- `OPENREF_MAGIC`. -/
def openrefMagic : Int := 0x4f52
/-- `OPENREF_PACKET_VERSION`. -/
def openrefPacketVersion : Int := 1
/-- `OPENREF_HEADER_BYTES`. -/
def openrefHeaderBytes : Nat := 18
/-- `OPENREF_MAX_PAYLOAD_BYTES`. -/
def openrefMaxPayloadBytes : Int := 255

/-- `WirePacketKind`. -/
inductive WirePacketKind
  | ping
  | audioFrame
  | heartbeat
  | control
deriving DecidableEq, Repr

namespace WirePacketKind

/-- `kind.value`. -/
def value : WirePacketKind → Int
  | ping => 1
  | audioFrame => 2
  | heartbeat => 3
  | control => 4

/-- `WirePacketKind(value)`. -/
def ofValue (v : Int) : Except String WirePacketKind :=
  if v = 1 then .ok ping
  else if v = 2 then .ok audioFrame
  else if v = 3 then .ok heartbeat
  else if v = 4 then .ok control
  else .error "unknown OpenRef packet kind"

end WirePacketKind

/-- `WireHeader`. -/
structure WireHeader where
  kind : WirePacketKind
  sourceId : Int
  destinationId : Int
  sequence : Int
  txTimestampUs : Int
  payloadLength : Int
deriving DecidableEq, Repr

namespace WireHeader

/-- `_validate_header` (:65-75). -/
def validate (h : WireHeader) : Except String Unit :=
  if ¬ (1 ≤ h.sourceId ∧ h.sourceId ≤ 254) then .error "source_id must identify a node from 1 through 254"
  else if ¬ (0 ≤ h.destinationId ∧ h.destinationId ≤ 254) then
    .error "destination_id must be broadcast (0) or a node ID"
  else if ¬ (0 ≤ h.sequence ∧ h.sequence ≤ 0xffff) then .error "sequence must fit in 16 bits"
  else if ¬ (0 ≤ h.txTimestampUs ∧ h.txTimestampUs ≤ 0xffffffffffffffff) then
    .error "tx_timestamp_us must fit in 64 bits"
  else if ¬ (0 ≤ h.payloadLength ∧ h.payloadLength ≤ openrefMaxPayloadBytes) then
    .error "payload_length exceeds the Prototype 0 limit"
  else .ok ()

/-- The fields in the order of the format (:38-42). -/
def fields (h : WireHeader) : List Int :=
  [openrefMagic, openrefPacketVersion, h.kind.value, h.sourceId, h.destinationId, h.sequence, h.txTimestampUs,
    h.payloadLength]

/-- `WireHeader.encode` (:36-42). -/
def encode (h : WireHeader) : Except String (List U8) := do
  h.validate
  structPack (headerFormat.zip h.fields)

/-- `WireHeader.decode` (:44-62). -/
def decode (data : List U8) : Except String WireHeader :=
  if data.length < openrefHeaderBytes then .error "packet is shorter than the OpenRef header"
  else
    match structUnpack headerFormat data with
    | [magic, version, kind, source, destination, sequence, timestamp, length] =>
      if magic ≠ openrefMagic then .error "invalid OpenRef packet magic"
      else if version ≠ openrefPacketVersion then .error "unsupported OpenRef packet version"
      else do
        let packetKind ← WirePacketKind.ofValue kind
        let header : WireHeader := ⟨packetKind, source, destination, sequence, timestamp, length⟩
        header.validate
        if (data.length : Int) < openrefHeaderBytes + length then .error "packet payload is truncated"
        else .ok header
    -- the format has eight fields
    | _ => .error "unpack requires eight fields"

end WireHeader

/-- `encode_wire_packet` (:78-81). -/
def encodeWirePacket (header : WireHeader) (payload : List U8) : Except String (List U8) :=
  if (payload.length : Int) ≠ header.payloadLength then .error "payload length does not match the header"
  else header.encode.map fun bytes => bytes ++ payload

/-- `decode_wire_packet` (:84-87). -/
def decodeWirePacket (data : List U8) : Except String (WireHeader × List U8) := do
  let header ← WireHeader.decode data
  .ok (header, (data.drop openrefHeaderBytes).take header.payloadLength.toNat)

/-! ## The two headers -/

/-- A header of the simulator and one of the firmware have the same values. -/
structure SameHeader (p : WireHeader) (c : Header) : Prop where
  magic : c.magic = Packet.magic
  version : c.version = packetVersion
  kind : (c.kind.toNat : Int) = p.kind.value
  sourceId : (c.sourceId.toNat : Int) = p.sourceId
  destinationId : (c.destinationId.toNat : Int) = p.destinationId
  sequence : (c.sequence.toNat : Int) = p.sequence
  txTimestampUs : (c.txTimestampUs.toNat : Int) = p.txTimestampUs
  payloadLength : (c.payloadLength.toNat : Int) = p.payloadLength

/-- What `_validate_header` asks. -/
structure WireHeader.Valid (h : WireHeader) : Prop where
  sourceId : 1 ≤ h.sourceId ∧ h.sourceId ≤ 254
  destinationId : 0 ≤ h.destinationId ∧ h.destinationId ≤ 254
  sequence : 0 ≤ h.sequence ∧ h.sequence ≤ 0xffff
  txTimestampUs : 0 ≤ h.txTimestampUs ∧ h.txTimestampUs ≤ 0xffffffffffffffff
  payloadLength : 0 ≤ h.payloadLength ∧ h.payloadLength ≤ openrefMaxPayloadBytes

theorem WireHeader.validate_ok {h : WireHeader} : h.validate = .ok () ↔ h.Valid := by
  unfold WireHeader.validate
  constructor
  · intro hv
    split at hv
    · cases hv
    · next hsource =>
      split at hv
      · cases hv
      · next hdestination =>
        split at hv
        · cases hv
        · next hsequence =>
          split at hv
          · cases hv
          · next htimestamp =>
            split at hv
            · cases hv
            · next hlength =>
              exact ⟨not_not.1 hsource, not_not.1 hdestination, not_not.1 hsequence, not_not.1 htimestamp,
                not_not.1 hlength⟩
  · intro hv
    rw [if_neg (not_not.2 hv.sourceId), if_neg (not_not.2 hv.destinationId), if_neg (not_not.2 hv.sequence),
      if_neg (not_not.2 hv.txTimestampUs), if_neg (not_not.2 hv.payloadLength)]

/-! ## The two codecs -/

/-- A word of a field: its bytes and its value. -/
abbrev FieldWord := (n : Nat) × BitVec (8 * n)

/-- Words that fit their fields are packed. -/
theorem structPack_words : ∀ ws : List FieldWord, structPack (ws.map fun w => (w.1, (w.2.toNat : Int))) =
    .ok (ws.flatMap fun w => LittleEndian.write w.1 w.2)
  | [] => rfl
  | ⟨n, x⟩ :: ws => by
    have hfits : (0 : Int) ≤ x.toNat ∧ (x.toNat : Int) < 2 ^ (8 * n) := ⟨Int.natCast_nonneg _, by exact_mod_cast x.isLt⟩
    have hword : BitVec.ofInt (8 * n) (x.toNat : Int) = x := by
      rw [BitVec.ofInt_natCast, BitVec.ofNat_toNat, BitVec.setWidth_eq]
    rw [List.map_cons, structPack, if_pos hfits, structPack_words ws, List.flatMap_cons, hword]
    rfl

theorem write_one (x : U8) : LittleEndian.write 1 x = [x] := by
  change [(x >>> 0).setWidth 8] = [x]
  rw [BitVec.ushiftRight_zero, BitVec.setWidth_eq]

theorem read_one (data : List U8) (k : Nat) : LittleEndian.read 8 ((data.drop k).take 1) = data.getD k 0 := by
  rw [List.getD_eq_getElem?_getD, ← List.head?_drop]
  cases data.drop k with
  | nil => rfl
  | cons b rest => simp [LittleEndian.read, LittleEndian.readFrom]

/-- The words of a header in the order of the format. -/
def headerWords (c : Header) : List FieldWord :=
  [⟨2, c.magic⟩, ⟨1, c.version⟩, ⟨1, c.kind⟩, ⟨1, c.sourceId⟩, ⟨1, c.destinationId⟩, ⟨2, c.sequence⟩,
    ⟨8, c.txTimestampUs⟩, ⟨2, c.payloadLength⟩]

theorem flatMap_headerWords (c : Header) :
    ((headerWords c).flatMap fun w => LittleEndian.write w.1 w.2) = c.bytes.bytes := by
  simp only [headerWords, List.flatMap_cons, List.flatMap_nil, write_one, Header.bytes, List.append_nil]
  simp only [List.append_assoc, List.cons_append, List.nil_append]

theorem SameHeader.fields {p : WireHeader} {c : Header} (h : SameHeader p c) :
    headerFormat.zip p.fields = (headerWords c).map fun w => (w.1, (w.2.toNat : Int)) := by
  simp only [headerFormat, WireHeader.fields, headerWords, List.zip_cons_cons, List.zip_nil_right, List.map_cons,
    List.map_nil, h.magic, h.version, ← h.kind, ← h.sourceId, ← h.destinationId, ← h.sequence, ← h.txTimestampUs,
    ← h.payloadLength]
  rfl

theorem structUnpack_header (data : List U8) : structUnpack headerFormat data =
    (headerWords (readHeader data)).map fun w => (w.2.toNat : Int) := by
  simp only [headerFormat, structUnpack, headerWords, readHeader, List.map_cons, List.map_nil, List.drop_drop,
    ← read_one]

theorem WirePacketKind.ofValue_ok {v : Int} {k : WirePacketKind} : ofValue v = .ok k ↔ v = k.value := by
  constructor
  · intro h
    unfold ofValue at h
    split at h
    · next h1 => cases h; exact h1
    · split at h
      · next h2 => cases h; exact h2
      · split at h
        · next h3 => cases h; exact h3
        · split at h
          · next h4 => cases h; exact h4
          · cases h
  · rintro rfl
    cases k <;> rfl

theorem toNat_eq_iff {w : Nat} {x y : BitVec w} {v : Int} (hy : (y.toNat : Int) = v) : (x.toNat : Int) = v ↔ x = y := by
  rw [← hy, Int.natCast_inj]
  exact ⟨BitVec.eq_of_toNat_eq, congrArg BitVec.toNat⟩

/-- **What the simulator decodes**: a packet whose header has the same values on the firmware's side. -/
theorem WireHeader.decode_ok {data : List U8} {p : WireHeader} : WireHeader.decode data = .ok p ↔
    openrefHeaderBytes ≤ data.length ∧ SameHeader p (readHeader data) ∧ p.Valid ∧
      (openrefHeaderBytes : Int) + p.payloadLength ≤ data.length := by
  have hmagic : ((readHeader data).magic.toNat : Int) = openrefMagic ↔ (readHeader data).magic = Packet.magic :=
    toNat_eq_iff rfl
  have hversion : ((readHeader data).version.toNat : Int) = openrefPacketVersion ↔
      (readHeader data).version = packetVersion := toNat_eq_iff rfl
  unfold WireHeader.decode
  rw [structUnpack_header]
  simp only [headerWords, List.map_cons, List.map_nil]
  constructor
  · intro h
    split at h
    · cases h
    · next hlong =>
      split at h
      · cases h
      · next hm =>
        split at h
        · cases h
        · next hv =>
          cases hk : WirePacketKind.ofValue ((readHeader data).kind.toNat : Int) with
          | error e =>
            rw [hk] at h
            cases h
          | ok kind =>
            rw [hk] at h
            dsimp only [bind, Except.bind] at h
            split at h
            · cases h
            · next u hvalid =>
              split at h
              · cases h
              · next hfits =>
                cases h
                exact ⟨not_lt.1 hlong, ⟨hmagic.1 (not_not.1 hm), hversion.1 (not_not.1 hv),
                  WirePacketKind.ofValue_ok.1 hk, rfl, rfl, rfl, rfl, rfl⟩, validate_ok.1 hvalid, not_lt.1 hfits⟩
  · rintro ⟨hlong, hsame, hvalid, hfits⟩
    have hkind := WirePacketKind.ofValue_ok.2 hsame.kind
    have hp : (⟨p.kind, ((readHeader data).sourceId.toNat : Int), ((readHeader data).destinationId.toNat : Int),
        ((readHeader data).sequence.toNat : Int), ((readHeader data).txTimestampUs.toNat : Int),
        ((readHeader data).payloadLength.toNat : Int)⟩ : WireHeader) = p := by
      rw [hsame.sourceId, hsame.destinationId, hsame.sequence, hsame.txTimestampUs, hsame.payloadLength]
    rw [if_neg (not_lt.2 hlong), if_neg (not_not.2 (hmagic.2 hsame.magic)),
      if_neg (not_not.2 (hversion.2 hsame.version)), hkind]
    dsimp only [bind, Except.bind]
    rw [hp, validate_ok.2 hvalid]
    dsimp only
    rw [hsame.payloadLength, if_neg (not_lt.2 hfits)]

theorem SameHeader.wellFormed {p : WireHeader} {c : Header} (h : SameHeader p c) (hv : p.Valid) :
    c.wellFormed = true := by
  have hlength : c.payloadLength ≤ maxPayloadBytes := by
    have hle := hv.payloadLength.2
    have hmax : maxPayloadBytes.toNat = 255 := rfl
    rw [← h.payloadLength, openrefMaxPayloadBytes] at hle
    rw [BitVec.le_def]
    omega
  simp [Header.wellFormed, h.magic, h.version, hlength]

theorem ok_bind {α β : Type} (a : α) (f : α → Except String β) : (Except.ok a >>= f) = f a := rfl

/-- **What the simulator encodes**, the firmware encodes to the same bytes. -/
theorem SameHeader.encode {p : WireHeader} {c : Header} (h : SameHeader p c) (hv : p.Valid) :
    p.encode = .ok c.bytes.bytes := by
  unfold WireHeader.encode
  rw [WireHeader.validate_ok.2 hv, ok_bind, h.fields, structPack_words, flatMap_headerWords]

/-- A header that the simulator decodes is decoded by the firmware. -/
theorem SameHeader.decode {p : WireHeader} {data : List U8} (h : SameHeader p (readHeader data)) (hv : p.Valid)
    (hlong : openrefHeaderBytes ≤ data.length) (hfits : (openrefHeaderBytes : Int) + p.payloadLength ≤ data.length) :
    decodeHeader data = some (readHeader data) := by
  have hw := h.wellFormed hv
  have hp : (readHeader data).payloadLength ≤ maxPayloadBytes := by
    simp only [Header.wellFormed, Bool.and_eq_true, decide_eq_true_eq] at hw
    exact hw.2
  have hle : (packetLength (readHeader data).payloadLength).toNat ≤ data.length := by
    rw [toNat_packetLength hp]
    rw [← h.payloadLength, openrefHeaderBytes] at hfits
    omega
  have hshort : ¬ data.length < headerBytes := not_lt.2 hlong
  unfold decodeHeader
  rw [if_neg hshort]
  dsimp only
  rw [hw, Bool.not_true, if_neg Bool.false_ne_true, if_pos hle]

theorem toNat_ofInt_of_range {w : Nat} {v : Int} (h0 : 0 ≤ v) (h1 : v < 2 ^ w) : ((BitVec.ofInt w v).toNat : Int) = v := by
  have hmod : v % ((2 ^ w : Nat) : Int) = v := Int.emod_eq_of_lt h0 (by exact_mod_cast h1)
  rw [BitVec.toNat_ofInt, hmod, Int.toNat_of_nonneg h0]

/-- Every valid header of the simulator is one of the firmware. -/
theorem WireHeader.Valid.exists_same {p : WireHeader} (h : p.Valid) : ∃ c, SameHeader p c := by
  obtain ⟨⟨s0, s1⟩, ⟨d0, d1⟩, ⟨q0, q1⟩, ⟨t0, t1⟩, ⟨l0, l1⟩⟩ := h
  rw [openrefMaxPayloadBytes] at l1
  refine ⟨⟨Packet.magic, packetVersion, BitVec.ofInt 8 p.kind.value, BitVec.ofInt 8 p.sourceId,
    BitVec.ofInt 8 p.destinationId, BitVec.ofInt 16 p.sequence, BitVec.ofInt 64 p.txTimestampUs,
    BitVec.ofInt 16 p.payloadLength⟩, rfl, rfl, ?_, ?_, ?_, ?_, ?_, ?_⟩
  · cases p.kind <;> rfl
  · exact toNat_ofInt_of_range (by omega) (by omega)
  · exact toNat_ofInt_of_range d0 (by omega)
  · exact toNat_ofInt_of_range q0 (by omega)
  · exact toNat_ofInt_of_range t0 (by omega)
  · exact toNat_ofInt_of_range l0 (by omega)

/-- A packet is read on both sides as this header and payload, and the simulator writes the same packet. -/
structure ReadByBoth (packet : NetworkPacket) (header : Header) (payload : Bytes networkPayloadBytes) : Prop where
  parsed : parsePacket packet.bytes = some header
  carried : packet.right = payload
  decoded : ∃ p, SameHeader p header ∧ decodeWirePacket packet.bytes = .ok (p, payload.bytes) ∧
    encodeWirePacket p payload.bytes = .ok packet.bytes

theorem readByBoth_of_build (kind : WirePacketKind) {k s : U8} (hkind : (k.toNat : Int) = kind.value)
    (hk : k = kindAudioFrame ∨ k = kindHeartbeat ∨ k = kindControl) (hs : validSource s = true) (q : U16) (t : U64)
    (payload : Bytes networkPayloadBytes) : ∃ packet, buildPacket k s q t payload = some packet ∧
      ReadByBoth packet (networkHeader k s q t) payload := by
  have hbuild := buildPacket_eq (k := k) hs q t payload
  obtain ⟨hparse, hright⟩ := parse_build hk hbuild
  refine ⟨_, hbuild, hparse, hright, ⟨kind, s.toNat, 0, q.toNat, t.toNat, 80⟩, ?_⟩
  have hsame : SameHeader ⟨kind, s.toNat, 0, q.toNat, t.toNat, 80⟩ (networkHeader k s q t) :=
    ⟨rfl, rfl, hkind, rfl, rfl, rfl, rfl, rfl⟩
  have hvalid : WireHeader.Valid ⟨kind, s.toNat, 0, q.toNat, t.toNat, 80⟩ := by
    have hq := q.isLt
    have ht := t.isLt
    rw [validSource, Bool.and_eq_true, decide_eq_true_eq, decide_eq_true_eq, BitVec.le_def, BitVec.le_def] at hs
    have hone : (1 : U8).toNat = 1 := rfl
    have hsix : (6 : U8).toNat = 6 := rfl
    refine ⟨⟨?_, ?_⟩, ⟨?_, ?_⟩, ⟨?_, ?_⟩, ⟨?_, ?_⟩, ⟨?_, ?_⟩⟩ <;> simp only [openrefMaxPayloadBytes] <;> omega
  have hbytes : ((networkHeader k s q t).bytes.append payload).bytes =
      (networkHeader k s q t).bytes.bytes ++ payload.bytes := rfl
  have hread : readHeader ((networkHeader k s q t).bytes.append payload).bytes = networkHeader k s q t :=
    readHeader_bytes _ _
  have hlen : ((networkHeader k s q t).bytes.append payload).bytes.length = 98 :=
    ((networkHeader k s q t).bytes.append payload).length_eq
  refine ⟨hsame, ?_, ?_⟩
  · have hdecode := WireHeader.decode_ok.2 ⟨by rw [hlen]; decide, hread.symm ▸ hsame, hvalid,
      by rw [hlen]; exact Int.le_refl 98⟩
    have hpayload : (((networkHeader k s q t).bytes.append payload).bytes.drop openrefHeaderBytes).take
        ((80 : Int)).toNat = payload.bytes := by
      rw [hbytes, openrefHeaderBytes, List.drop_left' (networkHeader k s q t).bytes.length_eq]
      exact List.take_of_length_le (Nat.le_of_eq payload.length_eq)
    rw [decodeWirePacket, hdecode, ok_bind, hpayload]
  · have hlength : (payload.bytes.length : Int) = 80 := by
      rw [payload.length_eq]
      rfl
    rw [encodeWirePacket, if_neg (not_not.2 hlength), hsame.encode hvalid]
    rfl

/-- **Main result: the simulator and the firmware speak the same wire format.** What the simulator decodes,
the firmware decodes to the same values; what the simulator takes as valid, both encode to the same 18 bytes;
and the packets that the firmware builds from the sources 1 to 6 are read back by both. -/
theorem wire_formats_agree :
    (∀ (data : List U8) (p : WireHeader), data.length ≤ 65535 → WireHeader.decode data = .ok p →
      ∃ c, decodeHeader (data.take (BitVec.ofNat 16 data.length).toNat) = some c ∧ SameHeader p c) ∧
    (∀ p : WireHeader, p.validate = .ok () →
      ∃ (c : Header) (bytes : Bytes headerBytes), SameHeader p c ∧ p.encode = .ok bytes.bytes ∧
        encodeHeader c = some bytes) ∧
    (∀ (s : U8) (q : U16) (t : U64) (payload : Bytes networkPayloadBytes), validSource s = true →
      ∃ packet, buildAudioPacketWithPayload s q t payload = some packet ∧
        ReadByBoth packet (networkHeader kindAudioFrame s q t) payload) ∧
    ∀ (s : U8) (q : U16) (t : U64) (heartbeat : Heartbeat), validSource s = true →
      ∃ packet, buildHeartbeatPacket s q t heartbeat = some packet ∧
        ReadByBoth packet (networkHeader kindHeartbeat s q t) heartbeat.payload ∧
        parseHeartbeat packet.bytes = some heartbeat := by
  refine ⟨fun data p hlen h => ?_, fun p h => ?_, fun s q t payload hs => ?_, fun s q t heartbeat hs => ?_⟩
  · obtain ⟨hlong, hsame, hvalid, hfits⟩ := WireHeader.decode_ok.1 h
    have hall : data.take (BitVec.ofNat 16 data.length).toNat = data := by
      rw [BitVec.toNat_ofNat, Nat.mod_eq_of_lt (by omega), List.take_length]
    exact ⟨_, hall.symm ▸ hsame.decode hvalid hlong hfits, hsame⟩
  · have hvalid := WireHeader.validate_ok.1 h
    obtain ⟨c, hsame⟩ := hvalid.exists_same
    exact ⟨c, c.bytes, hsame, hsame.encode hvalid, if_pos (hsame.wellFormed hvalid)⟩
  · exact readByBoth_of_build .audioFrame rfl (.inl rfl) hs q t payload
  · obtain ⟨packet, hbuild, hread⟩ := readByBoth_of_build .heartbeat rfl (.inr (.inl rfl)) hs q t heartbeat.payload
    exact ⟨packet, hbuild, hread, (parseHeartbeat_build hbuild).1⟩

end OpenRef.Simulator
