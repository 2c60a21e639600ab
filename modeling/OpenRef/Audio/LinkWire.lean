import OpenRef.Audio.Link
import OpenRef.Lib.LittleEndian
import OpenRef.Lib.RingBuffer
/-!
# The audio link wire and queue (openref_audio_link.c)

A frame travels as 98 bytes: magic, version, kind, source, flags, sequence,
timestamp, payload length, the producer's queue depth, a zero, 80 payload bytes and
a CRC-16 of all that. `decode_encode` and `encode_decode` are the round trips: what is
decoded is exactly what is encoded (`codec_bijective`).

A queue holds four valid frames and drops its oldest one to make room.
-/

namespace OpenRef.Audio

/-- `OPENREF_AUDIO_LINK_MAGIC`. -/
def linkMagic : U16 := 0x414f
/-- `OPENREF_AUDIO_LINK_VERSION`. -/
def linkVersion : U8 := 1
/-- `OPENREF_AUDIO_LINK_HEADER_BYTES`. -/
def linkHeaderBytes : Nat := 16
/-- `OPENREF_AUDIO_LINK_FRAME_BYTES`. -/
def linkFrameBytes : Nat := 98
/-- `OPENREF_AUDIO_LINK_QUEUE_CAPACITY`. -/
abbrev linkQueueCapacity : Nat := 4

/-- `uint8_t wire[OPENREF_AUDIO_LINK_FRAME_BYTES]`. -/
abbrev LinkWire := Bytes linkFrameBytes

/-- `valid_kind` (:33-38). -/
def validKind (kind : U8) : Bool := kind = linkLocalAudio || kind = linkRemoteAudio || kind = linkStatus

/-- `valid_frame` (:40-49). -/
def AudioLinkFrame.valid (frame : AudioLinkFrame) : Bool :=
  if !validKind frame.kind then false
  else if frame.kind = linkStatus then frame.sourceId = 0
  else 1 ≤ frame.sourceId && frame.sourceId ≤ 6

/-- What `memset` leaves of a frame. -/
def AudioLinkFrame.zero : AudioLinkFrame := ⟨0, 0, 0, 0, 0, 0, Bytes.zero _⟩

/-! ## The wire -/

/-- One bit of the CRC division. -/
def crc16Bit (crc : U16) : U16 := if crc &&& 0x8000 ≠ 0 then (crc <<< 1) ^^^ 0x1021 else crc <<< 1

/-- One byte of the CRC division. -/
def crc16Byte (crc : U16) (byte : U8) : U16 := Nat.repeat crc16Bit 8 (crc ^^^ byte.setWidth 16 <<< 8)

/-- `openref_audio_link_crc16` (:51-66). -/
def crc16 (data : List U8) : U16 := data.foldl crc16Byte 0xffff

/-- The 16 header bytes (:78-87). -/
def AudioLinkFrame.header (frame : AudioLinkFrame) : List U8 :=
  LittleEndian.write 2 linkMagic ++ [linkVersion, frame.kind, frame.sourceId, frame.flags] ++
    LittleEndian.write 2 frame.sequence ++ LittleEndian.write 4 frame.timestampUs ++
    LittleEndian.write 2 (BitVec.ofNat 16 linkPayloadBytes) ++ [frame.producerQueueDepth, 0]

/-- The 98 bytes (:78-91). -/
def AudioLinkFrame.wire (frame : AudioLinkFrame) : LinkWire where
  bytes := (frame.header ++ frame.payload.bytes) ++ LittleEndian.write 2 (crc16 (frame.header ++ frame.payload.bytes))
  length_eq := by
    have hp := frame.payload.length_eq
    simp only [List.length_append, AudioLinkFrame.header, LittleEndian.length_write, hp, linkPayloadBytes,
      linkFrameBytes, List.length_cons, List.length_nil]

/-- `openref_audio_link_encode` (:68-93) into a buffer that has room. -/
def encode (frame : AudioLinkFrame) : Option LinkWire :=
  if !frame.valid || (BitVec.ofNat 8 linkQueueCapacity) < frame.producerQueueDepth then none else some frame.wire

/-- The payload on a wire (:114-115). -/
def wirePayload (wire : LinkWire) : Bytes linkPayloadBytes where
  bytes := (wire.bytes.drop linkHeaderBytes).take linkPayloadBytes
  length_eq := by
    have hl := wire.length_eq
    simp only [linkFrameBytes] at hl
    simp only [List.length_take, List.length_drop, hl, linkHeaderBytes, linkPayloadBytes]
    rfl

/-- The fields of a wire (:108-115). -/
def wireFrame (wire : LinkWire) : AudioLinkFrame where
  kind := wire.bytes.getD 3 0
  sourceId := wire.bytes.getD 4 0
  flags := wire.bytes.getD 5 0
  sequence := LittleEndian.read 16 ((wire.bytes.drop 6).take 2)
  timestampUs := LittleEndian.read 32 ((wire.bytes.drop 8).take 4)
  producerQueueDepth := wire.bytes.getD 14 0
  payload := wirePayload wire

/-- `openref_audio_link_decode` (:95-117) of a whole wire. -/
def decode (wire : LinkWire) : Option AudioLinkFrame :=
  if LittleEndian.read 16 (wire.bytes.take 2) ≠ linkMagic ∨ wire.bytes.getD 2 0 ≠ linkVersion ∨
      validKind (wire.bytes.getD 3 0) = false ∨
      LittleEndian.read 16 ((wire.bytes.drop 12).take 2) ≠ BitVec.ofNat 16 linkPayloadBytes ∨
      BitVec.ofNat 8 linkQueueCapacity < wire.bytes.getD 14 0 ∨ wire.bytes.getD 15 0 ≠ 0 ∨
      LittleEndian.read 16 (wire.bytes.drop 96) ≠ crc16 (wire.bytes.take 96) then none
  else if (wireFrame wire).valid then some (wireFrame wire) else none

theorem valid_kind {frame : AudioLinkFrame} (h : frame.valid = true) : validKind frame.kind = true := by
  unfold AudioLinkFrame.valid at h
  cases hk : validKind frame.kind <;> simp [hk] at h ⊢

theorem wireFrame_wire (frame : AudioLinkFrame) : wireFrame frame.wire = frame := by
  have hp := frame.payload.length_eq
  have h16 (v : U16) : LittleEndian.read 16 (LittleEndian.write 2 v) = v := LittleEndian.read_write 2 v
  have h32 (v : U32) : LittleEndian.read 32 (LittleEndian.write 4 v) = v := LittleEndian.read_write 4 v
  have hpayload : wirePayload frame.wire = frame.payload := by
    refine Bytes.ext_bytes ?_
    change ((frame.header ++ frame.payload.bytes ++ _).drop linkHeaderBytes).take linkPayloadBytes = _
    rw [List.append_assoc, List.drop_left' (by simp [AudioLinkFrame.header, linkHeaderBytes]), List.take_left' hp]
  have hsequence : (frame.wire.bytes.drop 6).take 2 = LittleEndian.write 2 frame.sequence := rfl
  have htimestamp : (frame.wire.bytes.drop 8).take 4 = LittleEndian.write 4 frame.timestampUs := rfl
  unfold wireFrame
  rw [hpayload, hsequence, htimestamp, h16, h32]
  rfl

/-- **Round trip.** A frame that was encoded is the frame that is decoded. -/
theorem decode_encode {frame : AudioLinkFrame} {wire : LinkWire} (h : encode frame = some wire) :
    decode wire = some frame := by
  unfold encode at h
  split at h
  · cases h
  · next hok =>
    cases h
    rw [Bool.or_eq_true, not_or, Bool.not_eq_true', Bool.not_eq_false, decide_eq_true_eq] at hok
    have h16 (v : U16) : LittleEndian.read 16 (LittleEndian.write 2 v) = v := LittleEndian.read_write 2 v
    have hlen : (frame.header ++ frame.payload.bytes).length = 96 := by
      simp [AudioLinkFrame.header, frame.payload.length_eq, linkPayloadBytes]
    have hmagic : frame.wire.bytes.take 2 = LittleEndian.write 2 linkMagic := rfl
    have hpayload : (frame.wire.bytes.drop 12).take 2 = LittleEndian.write 2 (BitVec.ofNat 16 linkPayloadBytes) := rfl
    have hbody : frame.wire.bytes.take 96 = frame.header ++ frame.payload.bytes := List.take_left' hlen
    have hcrc : frame.wire.bytes.drop 96 = LittleEndian.write 2 (crc16 (frame.header ++ frame.payload.bytes)) :=
      List.drop_left' hlen
    have hversion : frame.wire.bytes.getD 2 0 = linkVersion := rfl
    have hkind : frame.wire.bytes.getD 3 0 = frame.kind := rfl
    have hdepth : frame.wire.bytes.getD 14 0 = frame.producerQueueDepth := rfl
    have hzero : frame.wire.bytes.getD 15 0 = 0 := rfl
    unfold decode
    rw [hmagic, hpayload, hbody, hcrc, hversion, hkind, hdepth, hzero, h16, h16, h16, valid_kind hok.1,
      wireFrame_wire, if_neg (by simpa using hok.2), if_pos hok.1]

/-! ## What is accepted -/

/-- What `decode` asks of a wire. -/
structure Accepted (wire : LinkWire) : Prop where
  magic : LittleEndian.read 16 (wire.bytes.take 2) = linkMagic
  version : wire.bytes.getD 2 0 = linkVersion
  payloadBytes : LittleEndian.read 16 ((wire.bytes.drop 12).take 2) = BitVec.ofNat 16 linkPayloadBytes
  depth : ¬ BitVec.ofNat 8 linkQueueCapacity < wire.bytes.getD 14 0
  reserved : wire.bytes.getD 15 0 = 0
  crc : LittleEndian.read 16 (wire.bytes.drop 96) = crc16 (wire.bytes.take 96)
  valid : (wireFrame wire).valid = true

theorem decode_eq_some {wire : LinkWire} {frame : AudioLinkFrame} :
    decode wire = some frame ↔ Accepted wire ∧ wireFrame wire = frame := by
  unfold decode
  constructor
  · intro h
    split at h
    · cases h
    · next hok =>
      simp only [not_or, not_not] at hok
      obtain ⟨hmagic, hversion, -, hpayload, hdepth, hreserved, hcrc⟩ := hok
      split at h
      · next hvalid => exact ⟨⟨hmagic, hversion, hpayload, hdepth, hreserved, hcrc, hvalid⟩, Option.some.inj h⟩
      · cases h
  · rintro ⟨hok, rfl⟩
    have hkind : validKind (wire.bytes.getD 3 0) = true := valid_kind hok.valid
    rw [if_neg, if_pos hok.valid]
    simp only [not_or, not_not]
    exact ⟨hok.magic, hok.version, by rw [hkind]; exact Bool.noConfusion, hok.payloadBytes, hok.depth, hok.reserved, hok.crc⟩

/-- The next byte of a part of a byte string. -/
theorem take_succ_drop {bytes : List U8} {i n : Nat} (h : i < bytes.length) :
    (bytes.drop i).take (n + 1) = bytes.getD i 0 :: (bytes.drop (i + 1)).take n := by
  rw [List.drop_eq_getElem_cons h, List.take_succ_cons, List.getD_eq_getElem?_getD, List.getElem?_eq_getElem h,
    Option.getD_some]

/-- The header of an accepted wire is the one that is written for its fields. -/
theorem Accepted.header {wire : LinkWire} (h : Accepted wire) : (wireFrame wire).header = wire.bytes.take 16 := by
  have hlen := wire.length_eq
  simp only [linkFrameBytes] at hlen
  have h16 (bytes : List U8) (hb : bytes.length = 2) : LittleEndian.write 2 (LittleEndian.read 16 bytes) = bytes := by
    have hround := LittleEndian.write_read bytes
    rwa [hb] at hround
  have h32 (bytes : List U8) (hb : bytes.length = 4) : LittleEndian.write 4 (LittleEndian.read 32 bytes) = bytes := by
    have hround := LittleEndian.write_read bytes
    rwa [hb] at hround
  have hmagic : LittleEndian.write 2 linkMagic = wire.bytes.take 2 := by
    rw [← h.magic]
    exact h16 _ (by rw [List.length_take]; omega)
  have hbytes : [linkVersion, wire.bytes.getD 3 0, wire.bytes.getD 4 0, wire.bytes.getD 5 0] = (wire.bytes.drop 2).take 4 := by
    rw [take_succ_drop (by omega), take_succ_drop (by omega), take_succ_drop (by omega), take_succ_drop (by omega),
      List.take_zero, h.version]
  have hsequence := h16 ((wire.bytes.drop 6).take 2) (by rw [List.length_take, List.length_drop]; omega)
  have htimestamp := h32 ((wire.bytes.drop 8).take 4) (by rw [List.length_take, List.length_drop]; omega)
  have hpayload : LittleEndian.write 2 (BitVec.ofNat 16 linkPayloadBytes) = (wire.bytes.drop 12).take 2 := by
    rw [← h.payloadBytes]
    exact h16 _ (by rw [List.length_take, List.length_drop]; omega)
  have htail : [wire.bytes.getD 14 0, 0] = (wire.bytes.drop 14).take 2 := by
    rw [take_succ_drop (by omega), take_succ_drop (by omega), List.take_zero, h.reserved]
  unfold AudioLinkFrame.header wireFrame
  rw [hmagic, hbytes, hsequence, htimestamp, hpayload, htail, ← List.take_add, ← List.take_add, ← List.take_add,
    ← List.take_add, ← List.take_add]

/-- **Round trip the other way.** The frame of an accepted wire is encoded to the same 98 bytes. -/
theorem encode_decode {wire : LinkWire} {frame : AudioLinkFrame} (h : decode wire = some frame) :
    encode frame = some wire := by
  obtain ⟨hok, rfl⟩ := decode_eq_some.1 h
  have hlen := wire.length_eq
  simp only [linkFrameBytes] at hlen
  have hbody : (wireFrame wire).header ++ (wireFrame wire).payload.bytes = wire.bytes.take 96 := by
    rw [hok.header]
    exact List.take_add.symm
  have hcrc : LittleEndian.write 2 (crc16 (wire.bytes.take 96)) = wire.bytes.drop 96 := by
    have hround := LittleEndian.write_read (wire.bytes.drop 96)
    have hb : (wire.bytes.drop 96).length = 2 := by rw [List.length_drop]; omega
    rw [hb] at hround
    rw [← hok.crc]
    exact hround
  have hwire : (wireFrame wire).wire = wire := by
    refine Bytes.ext_bytes ?_
    change ((wireFrame wire).header ++ (wireFrame wire).payload.bytes) ++
      LittleEndian.write 2 (crc16 ((wireFrame wire).header ++ (wireFrame wire).payload.bytes)) = wire.bytes
    rw [hbody, hcrc, List.take_append_drop]
  have hdepth : ¬ BitVec.ofNat 8 linkQueueCapacity < (wireFrame wire).producerQueueDepth := hok.depth
  unfold encode
  rw [hok.valid, hwire, decide_eq_false hdepth]
  rfl

/-- What `encode` accepts: a source that is allowed for the kind, and a depth up to the capacity. -/
theorem isSome_encode {frame : AudioLinkFrame} :
    (encode frame).isSome = true ↔ frame.valid = true ∧ frame.producerQueueDepth.toNat ≤ linkQueueCapacity := by
  have hdepth : decide (BitVec.ofNat 8 linkQueueCapacity < frame.producerQueueDepth) =
      !decide (frame.producerQueueDepth.toNat ≤ linkQueueCapacity) := by
    rw [← decide_not, decide_eq_decide, Nat.not_le]
    exact BitVec.lt_def
  unfold encode
  rw [hdepth]
  by_cases hle : frame.producerQueueDepth.toNat ≤ linkQueueCapacity
  · cases frame.valid <;> simp [hle]
  · cases frame.valid <;> simp [hle]

/-- **Main result: the codec is a bijection** between the frames that are encoded, which have a source that
is allowed for their kind and a depth up to the capacity, and the wires that are decoded. -/
theorem codec_bijective :
    (∀ frame, (encode frame).isSome = true ↔ frame.valid = true ∧ frame.producerQueueDepth.toNat ≤ linkQueueCapacity) ∧
    (∀ frame wire, encode frame = some wire ↔ decode wire = some frame) ∧
    ∀ wire, (decode wire).isSome = true ↔ ∃ frame, encode frame = some wire := by
  refine ⟨fun _ => isSome_encode, fun frame wire => ⟨decode_encode, encode_decode⟩, fun wire => ?_⟩
  rw [Option.isSome_iff_exists]
  exact exists_congr fun frame => ⟨encode_decode, decode_encode⟩

/-! ## The queue -/

/-- `openref_audio_link_queue_t`; every queued frame is valid. -/
structure LinkQueue where
  entries : RingBuffer AudioLinkFrame linkQueueCapacity
  pushes : U32
  pops : U32
  overruns : U32
  valid : ∀ frame ∈ entries.toList, frame.valid = true

namespace LinkQueue

/-- `openref_audio_link_queue_init` (:119-124). -/
def init : LinkQueue := ⟨RingBuffer.empty AudioLinkFrame.zero (by decide), 0, 0, 0, fun _ h => by cases h⟩

theorem valid_pushDropping {r : RingBuffer AudioLinkFrame linkQueueCapacity} {frame : AudioLinkFrame}
    (h : ∀ f ∈ r.toList, f.valid = true) (hf : frame.valid = true) :
    ∀ f ∈ (r.pushDropping frame).toList, f.valid = true := by
  intro f hm
  rw [RingBuffer.toList_pushDropping] at hm
  rcases List.mem_append.1 (List.mem_of_mem_drop hm) with hm | hm
  · exact h f hm
  · rwa [List.mem_singleton.1 hm]

theorem valid_popFront {r : RingBuffer AudioLinkFrame linkQueueCapacity} (hc : r.count ≠ 0)
    (h : ∀ f ∈ r.toList, f.valid = true) : ∀ f ∈ r.popFront.toList, f.valid = true := by
  rw [RingBuffer.toList_popFront r (Nat.pos_of_ne_zero hc)] at h
  exact fun f hm => h f (List.mem_cons_of_mem _ hm)

/-- `openref_audio_link_queue_push` (:126-144). -/
def push (q : LinkQueue) (frame : AudioLinkFrame) : LinkQueue × Bool :=
  if h : frame.valid then
    (⟨q.entries.pushDropping frame, q.pushes + 1, q.pops,
      if q.entries.count = linkQueueCapacity then q.overruns + 1 else q.overruns, valid_pushDropping q.valid h⟩, true)
  else (q, false)

/-- `openref_audio_link_queue_pop` (:146-158). -/
def pop (q : LinkQueue) : LinkQueue × Option AudioLinkFrame :=
  if h : q.entries.count = 0 then (q, none)
  else (⟨q.entries.popFront, q.pushes, q.pops + 1, q.overruns, valid_popFront h q.valid⟩, some q.entries.front)

/-- The queued frames, the oldest first. -/
def toList (q : LinkQueue) : List AudioLinkFrame := q.entries.toList

/-- The number of queued frames. -/
def count (q : LinkQueue) : Nat := q.entries.count

@[simp] theorem length_toList (q : LinkQueue) : q.toList.length = q.count := q.entries.length_toList

theorem count_le (q : LinkQueue) : q.count ≤ linkQueueCapacity := q.entries.count_le

@[simp] theorem toList_init : init.toList = [] := rfl

/-- A valid frame is put at the end, and only the latest four stay. -/
theorem toList_push (q : LinkQueue) {frame : AudioLinkFrame} (hv : frame.valid = true) :
    (q.push frame).1.toList = (q.toList ++ [frame]).rtake linkQueueCapacity := by
  unfold push
  rw [dif_pos hv]
  exact RingBuffer.toList_pushDropping _ _

theorem push_counters (q : LinkQueue) {frame : AudioLinkFrame} (hv : frame.valid = true) :
    (q.push frame).1.pushes = q.pushes + 1 ∧ (q.push frame).1.pops = q.pops ∧
      (q.push frame).1.overruns = if q.count = linkQueueCapacity then q.overruns + 1 else q.overruns := by
  unfold push
  rw [dif_pos hv]
  exact ⟨rfl, rfl, rfl⟩

theorem pop_counters (q : LinkQueue) (hc : q.count ≠ 0) :
    q.pop.1.pushes = q.pushes ∧ q.pop.1.pops = q.pops + 1 ∧ q.pop.1.overruns = q.overruns := by
  have hentries : q.entries.count ≠ 0 := hc
  unfold pop
  rw [dif_neg hentries]
  exact ⟨rfl, rfl, rfl⟩

/-- A push puts a valid frame at the end, and drops the oldest one of a full queue, which it counts. -/
theorem push_cases (q : LinkQueue) (frame : AudioLinkFrame) :
    (frame.valid = false ∧ q.push frame = (q, false)) ∨
    (frame.valid = true ∧ (q.push frame).2 = true ∧
      ((q.count < linkQueueCapacity ∧ (q.push frame).1.toList = q.toList ++ [frame] ∧
        (q.push frame).1.overruns = q.overruns) ∨
      (∃ oldest rest, q.count = linkQueueCapacity ∧ q.toList = oldest :: rest ∧
        (q.push frame).1.toList = rest ++ [frame] ∧ (q.push frame).1.overruns = q.overruns + 1))) := by
  have hle := q.count_le
  cases hv : frame.valid with
  | false =>
    refine .inl ⟨rfl, ?_⟩
    simp [push, hv]
  | true =>
    refine .inr ⟨rfl, by simp [push, hv], ?_⟩
    have hlist := q.toList_push hv
    have hoverruns := (q.push_counters hv).2.2
    have hlen := q.length_toList
    by_cases hfull : q.count = linkQueueCapacity
    · refine .inr ?_
      rw [hlist, hoverruns, if_pos hfull, List.rtake, List.length_append, hlen, hfull]
      cases hq : q.toList with
      | nil =>
        rw [hq, hfull] at hlen
        cases hlen
      | cons oldest rest => exact ⟨oldest, rest, rfl, rfl, rfl, rfl⟩
    · refine .inl ⟨by omega, ?_, by rw [hoverruns, if_neg hfull]⟩
      have : q.count + [frame].length - linkQueueCapacity = 0 := by simp; omega
      rw [hlist, List.rtake, List.length_append, hlen, this, List.drop_zero]

/-- A pop takes the oldest frame. -/
theorem pop_cases (q : LinkQueue) :
    (q.toList = [] ∧ q.pop.1 = q ∧ q.pop.2 = none) ∨
    ∃ oldest, q.toList = oldest :: q.pop.1.toList ∧ q.pop.2 = some oldest ∧ q.pop.1.overruns = q.overruns := by
  by_cases hc : q.entries.count = 0
  · exact .inl ⟨q.entries.toList_eq_nil.2 hc, by simp [pop, hc], by simp [pop, hc]⟩
  · refine .inr ⟨q.entries.front, ?_, by simp [pop, hc], by simp [pop, hc]⟩
    simp only [pop, hc, dite_false, toList]
    exact RingBuffer.toList_popFront _ (Nat.pos_of_ne_zero hc)

end LinkQueue

end OpenRef.Audio
