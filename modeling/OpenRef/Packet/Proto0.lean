import OpenRef.Base
import OpenRef.Lib.LittleEndian
/-!
# The 18-byte packet header (openref_proto0_packet.c)

Offset 0 magic, 2 version, 3 kind, 4 source, 5 destination, 6 sequence, 8
transmit time, 16 payload length, all little-endian. `decode_encode` is the round
trip; `decode_some` says what a decoded header satisfies.
-/

namespace OpenRef.Packet

/-- `OPENREF_PROTO0_MAGIC`. -/
def magic : U16 := 0x4f52
/-- `OPENREF_PROTO0_PACKET_VERSION`. -/
def packetVersion : U8 := 1
/-- `OPENREF_PROTO0_MAX_PAYLOAD_BYTES`. -/
def maxPayloadBytes : U16 := 255
/-- `OPENREF_PROTO0_HEADER_BYTES`. -/
abbrev headerBytes : Nat := 18

/-- `OPENREF_PROTO0_PACKET_AUDIO_FRAME`. -/
def kindAudioFrame : U8 := 2
/-- `OPENREF_PROTO0_PACKET_HEARTBEAT`. -/
def kindHeartbeat : U8 := 3
/-- `OPENREF_PROTO0_PACKET_CONTROL`. -/
def kindControl : U8 := 4

/-- `openref_proto0_packet_header_t`. -/
structure Header where
  magic : U16
  version : U8
  kind : U8
  sourceId : U8
  destinationId : U8
  sequence : U16
  txTimestampUs : U64
  payloadLength : U16
deriving DecidableEq, Repr

/-- `openref_proto0_packet_length` (:33-39). -/
def packetLength (payloadLength : U16) : U16 :=
  if maxPayloadBytes < payloadLength then 0 else 18 + payloadLength

/-- The three fields both directions check (:49-51, :84-86). -/
def Header.wellFormed (h : Header) : Bool :=
  h.magic = Packet.magic && h.version = packetVersion && h.payloadLength ≤ maxPayloadBytes

/-- The 18 bytes of a header (:55-62). -/
def Header.bytes (h : Header) : Bytes headerBytes where
  bytes := LittleEndian.write 2 h.magic ++ [h.version, h.kind, h.sourceId, h.destinationId] ++
    LittleEndian.write 2 h.sequence ++ LittleEndian.write 8 h.txTimestampUs ++
    LittleEndian.write 2 h.payloadLength
  length_eq := by simp

/-- `openref_proto0_encode_header` (:41-64) into a buffer that has room. -/
def encodeHeader (h : Header) : Option (Bytes headerBytes) := if h.wellFormed then some h.bytes else none

/-- The fields of the first 18 bytes (:75-82). -/
def readHeader (buffer : List U8) : Header where
  magic := LittleEndian.read 16 (buffer.take 2)
  version := buffer.getD 2 0
  kind := buffer.getD 3 0
  sourceId := buffer.getD 4 0
  destinationId := buffer.getD 5 0
  sequence := LittleEndian.read 16 ((buffer.drop 6).take 2)
  txTimestampUs := LittleEndian.read 64 ((buffer.drop 8).take 8)
  payloadLength := LittleEndian.read 16 ((buffer.drop 16).take 2)

/-- `openref_proto0_decode_header` (:66-90) on a buffer and its length. -/
def decodeHeader (buffer : List U8) : Option Header :=
  if buffer.length < headerBytes then none
  else
    let h := readHeader buffer
    if !h.wellFormed then none
    else if (packetLength h.payloadLength).toNat ≤ buffer.length then some h else none

theorem toNat_packetLength {n : U16} (h : n ≤ maxPayloadBytes) : (packetLength n).toNat = 18 + n.toNat := by
  have hn : n.toNat ≤ 255 := h
  rw [packetLength, if_neg (by simpa using h), BitVec.toNat_add]
  exact Nat.mod_eq_of_lt (by simp; omega)

/-- The fields of a header come back from its bytes. -/
theorem readHeader_bytes (h : Header) (rest : List U8) : readHeader (h.bytes.bytes ++ rest) = h := by
  obtain ⟨m, v, k, s, d, q, t, p⟩ := h
  have h2 (x : U16) : LittleEndian.write 2 x = [LittleEndian.byte x 0, LittleEndian.byte x 1] := rfl
  have hm := LittleEndian.read_write 2 m
  have hq := LittleEndian.read_write 2 q
  have ht := LittleEndian.read_write 8 t
  have hp := LittleEndian.read_write 2 p
  have h8 : (LittleEndian.write 8 t).length = 8 := LittleEndian.length_write 8 t
  simp only [h2] at hm hq hp
  simp only [readHeader, Header.bytes, h2, List.cons_append, List.nil_append, List.append_assoc,
    List.take_succ_cons, List.take_zero, List.drop_succ_cons, List.drop_zero, List.getD_cons_succ,
    List.getD_cons_zero]
  rw [List.take_left' h8]
  have hdrop : (LittleEndian.write 8 t ++ LittleEndian.byte p 0 :: LittleEndian.byte p 1 :: rest).drop 8 =
      LittleEndian.byte p 0 :: LittleEndian.byte p 1 :: rest := List.drop_left' h8
  rw [hdrop]
  simp only [List.take_succ_cons, List.take_zero]
  rw [Header.mk.injEq]
  exact ⟨hm, rfl, rfl, rfl, rfl, hq, ht, hp⟩

/-- The header read from a buffer is its first 18 bytes. -/
theorem bytes_readHeader {buffer : List U8} (h : 18 ≤ buffer.length) :
    (readHeader buffer).bytes.bytes = buffer.take 18 := by
  have hword (n : Nat) (bs : List U8) (hl : bs.length = n) :
      LittleEndian.write n (LittleEndian.read (8 * n) bs) = bs := by
    subst hl
    exact LittleEndian.write_read bs
  have hmagic := hword 2 (buffer.take 2) (by rw [List.length_take]; omega)
  have hseq := hword 2 ((buffer.drop 6).take 2) (by rw [List.length_take, List.length_drop]; omega)
  have htime := hword 8 ((buffer.drop 8).take 8) (by rw [List.length_take, List.length_drop]; omega)
  have hlen := hword 2 ((buffer.drop 16).take 2) (by rw [List.length_take, List.length_drop]; omega)
  have hids : [buffer.getD 2 0, buffer.getD 3 0, buffer.getD 4 0, buffer.getD 5 0] = (buffer.drop 2).take 4 := by
    have hcons (i : Nat) (hi : i < buffer.length) : buffer.drop i = buffer.getD i 0 :: buffer.drop (i + 1) := by
      rw [List.getD_eq_getElem?_getD, List.getElem?_eq_getElem hi, Option.getD_some]
      exact List.drop_eq_getElem_cons hi
    rw [hcons 2 (by omega), hcons 3 (by omega), hcons 4 (by omega), hcons 5 (by omega)]
    rfl
  have hsplit : buffer.take 18 = buffer.take 2 ++ (buffer.drop 2).take 4 ++ (buffer.drop 6).take 2 ++
      (buffer.drop 8).take 8 ++ (buffer.drop 16).take 2 := by
    rw [← List.take_add, ← List.take_add, ← List.take_add, ← List.take_add]
  rw [hsplit, ← hids]
  unfold Header.bytes readHeader
  dsimp only
  rw [hmagic, hseq, htime, hlen]

/-- **Round trip.** -/
theorem decode_encode {h : Header} (hw : h.wellFormed = true) {rest : List U8}
    (hr : h.payloadLength.toNat ≤ rest.length) : decodeHeader (h.bytes.bytes ++ rest) = some h := by
  have hlen : (h.bytes.bytes ++ rest).length = 18 + rest.length := by
    rw [List.length_append, h.bytes.length_eq]
  have hp : h.payloadLength ≤ maxPayloadBytes := by
    simp only [Header.wellFormed, Bool.and_eq_true, decide_eq_true_eq] at hw
    exact hw.2
  have hlong : ¬ (h.bytes.bytes ++ rest).length < headerBytes := by
    rw [hlen]
    exact Nat.not_lt.2 (Nat.le_add_right _ _)
  have hfits : (packetLength h.payloadLength).toNat ≤ (h.bytes.bytes ++ rest).length := by
    rw [hlen, toNat_packetLength hp]
    omega
  rw [decodeHeader, if_neg hlong, readHeader_bytes]
  simp only [hw, hfits, Bool.not_true, Bool.false_eq_true, if_false, if_true]

/-- What a decoded header satisfies. -/
theorem decode_some {buffer : List U8} {h : Header} (hd : decodeHeader buffer = some h) :
    h = readHeader buffer ∧ h.wellFormed = true ∧ 18 + h.payloadLength.toNat ≤ buffer.length := by
  unfold decodeHeader at hd
  split at hd
  · cases hd
  · dsimp only at hd
    split at hd
    · cases hd
    · rename_i hw
      split at hd
      · rename_i hl
        cases hd
        have hw : (readHeader buffer).wellFormed = true := by simpa using hw
        have hp : (readHeader buffer).payloadLength ≤ maxPayloadBytes := by
          simp only [Header.wellFormed, Bool.and_eq_true, decide_eq_true_eq] at hw
          exact hw.2
        rw [toNat_packetLength hp] at hl
        exact ⟨rfl, hw, hl⟩
      · cases hd

end OpenRef.Packet
