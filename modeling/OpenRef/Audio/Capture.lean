import OpenRef.Audio.Halves
import OpenRef.Audio.LinkWire
/-!
# Capture (openref_audio_capture.c)

The codec gives a frame every 10 ms, or says that it failed. `submit` puts two of them
into one packet: the first waits in the pending payload with its flags, the second
completes the packet, which takes the next sequence number and goes to the output
queue. A frame that failed is zeroes without its validity flag.
-/

namespace OpenRef.Audio

/-- What the codec submits. -/
structure CodecSubmit where
  codecFrame : Bytes codecFrameBytes
  valid : Bool
  discontinuity : Bool
  timestampUs : U32
deriving DecidableEq, Repr

/-- The bytes that are kept of a frame (:32-38). -/
def CodecSubmit.kept (x : CodecSubmit) : Bytes codecFrameBytes := if x.valid then x.codecFrame else Bytes.zero _

/-- The flags with those of a half (:34-41). -/
def CodecSubmit.flags (x : CodecSubmit) (half : Fin 2) (flags : U8) : U8 :=
  let flags := if x.valid then flags ||| halfFlag half else flags
  if x.discontinuity then flags ||| linkFlagDiscontinuity else flags

/-- A codec frame copied to its half of a payload. -/
def putHalf (payload : Bytes linkPayloadBytes) (half : Fin 2) (frame : Bytes codecFrameBytes) :
    Bytes linkPayloadBytes where
  bytes := payload.bytes.take (half.val * codecFrameBytes) ++ frame.bytes ++
    payload.bytes.drop (half.val * codecFrameBytes + codecFrameBytes)
  length_eq := by
    have hl := payload.length_eq
    have hf := frame.length_eq
    have hh := half.isLt
    simp only [linkPayloadBytes, codecFrameBytes] at *
    simp only [List.length_append, List.length_take, List.length_drop, hl, hf]
    omega

/-- `openref_audio_capture_t`. -/
structure AudioCapture where
  localSourceId : U8
  pendingHalf : Fin 2
  pendingFlags : U8
  nextSequence : U16
  firstHalfTimestampUs : U32
  pendingPayload : Bytes linkPayloadBytes
  outputQueue : LinkQueue
  codecFrames : U32
  invalidCodecFrames : U32
  completedPackets : U32

namespace AudioCapture

/-- `openref_audio_capture_init` (:6-19). -/
def init (localSourceId : U8) (initialSequence : U16) : Option AudioCapture :=
  if localSourceId < 1 || 6 < localSourceId then none
  else some ⟨localSourceId, 0, 0, initialSequence, 0, Bytes.zero _, LinkQueue.init, 0, 0, 0⟩

/-- The frame's bytes and flags are put into the pending packet (:30-42). -/
def addHalf (c : AudioCapture) (x : CodecSubmit) : AudioCapture :=
  { c with
    pendingPayload := putHalf c.pendingPayload c.pendingHalf x.kept
    pendingFlags := x.flags c.pendingHalf c.pendingFlags
    invalidCodecFrames := if x.valid then c.invalidCodecFrames else c.invalidCodecFrames + 1 }

/-- The packet of the pending halves (:50-58). -/
def packet (c : AudioCapture) : AudioLinkFrame where
  kind := linkLocalAudio
  sourceId := c.localSourceId
  flags := c.pendingFlags
  sequence := c.nextSequence
  timestampUs := c.firstHalfTimestampUs
  producerQueueDepth := BitVec.ofNat 8 c.outputQueue.count
  payload := c.pendingPayload

/-- `openref_audio_capture_submit` (:21-69). -/
def submit (c : AudioCapture) (x : CodecSubmit) : AudioCapture × Bool :=
  let c := c.addHalf x
  if c.pendingHalf = 0 then
    ({ c with firstHalfTimestampUs := x.timestampUs, pendingHalf := 1, codecFrames := c.codecFrames + 1 }, true)
  else
    let r := c.outputQueue.push c.packet
    ({ c with
      outputQueue := r.1
      nextSequence := c.nextSequence + 1
      pendingHalf := 0
      pendingFlags := 0
      codecFrames := c.codecFrames + 1
      completedPackets := if r.2 then c.completedPackets + 1 else c.completedPackets }, r.2)

/-- `openref_audio_capture_pop` (:72-80). -/
def pop (c : AudioCapture) : AudioCapture × Option AudioLinkFrame :=
  ({ c with outputQueue := c.outputQueue.pop.1 }, c.outputQueue.pop.2)

end AudioCapture

/-! ## Two halves make a packet -/

/-- What is played of a codec frame. -/
def CodecSubmit.outcome (x : CodecSubmit) : CodecOutput := if x.valid then (x.codecFrame, false) else silence

/-- Two codec frames and the place of their packet. -/
structure CodecPacket where
  index : Nat
  first : CodecSubmit
  second : CodecSubmit

/-- A packet's codec frames. -/
def CodecPacket.codecFrames (p : CodecPacket) : List CodecSubmit := [p.first, p.second]

/-- The frame of a packet, the first packet having this sequence number. -/
structure CodecPacket.Makes (p : CodecPacket) (source : U8) (first : U16) (frame : AudioLinkFrame) : Prop where
  source : frame.sourceId = source
  sequence : frame.sequence = Serial.position first p.index
  flags : frame.flags = p.second.flags 1 (p.first.flags 0 0)
  payload : frame.payload.bytes = p.first.kept.bytes ++ p.second.kept.bytes

theorem flags_valid (x y : CodecSubmit) :
    (y.flags 1 (x.flags 0 0) &&& halfFlag 0 ≠ 0 ↔ x.valid = true) ∧
      (y.flags 1 (x.flags 0 0) &&& halfFlag 1 ≠ 0 ↔ y.valid = true) := by
  unfold CodecSubmit.flags
  cases x.valid <;> cases x.discontinuity <;> cases y.valid <;> cases y.discontinuity <;> decide

/-- **The halves of a packet are played as its codec frames.** -/
theorem CodecPacket.Makes.half {p : CodecPacket} {source : U8} {first : U16} {frame : AudioLinkFrame}
    (h : p.Makes source first frame) :
    PlayoutPacket.half ⟨frame.sequence, frame.flags, frame.payload⟩ 0 = p.first.outcome ∧
      PlayoutPacket.half ⟨frame.sequence, frame.flags, frame.payload⟩ 1 = p.second.outcome := by
  obtain ⟨hfirst, hsecond⟩ := flags_valid p.first p.second
  rw [← h.flags] at hfirst hsecond
  have hlen := p.first.kept.length_eq
  have hlen2 := p.second.kept.length_eq
  constructor
  · unfold PlayoutPacket.half CodecSubmit.outcome
    cases hv : p.first.valid with
    | true =>
      rw [if_pos (hfirst.2 hv), if_pos rfl]
      refine congrArg (·, false) (Bytes.ext_bytes ?_)
      change (frame.payload.bytes.drop (0 * codecFrameBytes)).take codecFrameBytes = p.first.codecFrame.bytes
      rw [h.payload, Nat.zero_mul, List.drop_zero, List.take_left' hlen, CodecSubmit.kept, hv]
      rfl
    | false => rw [if_neg (fun hf => by rw [hfirst.1 hf] at hv; cases hv), if_neg Bool.false_ne_true]
  · unfold PlayoutPacket.half CodecSubmit.outcome
    cases hv : p.second.valid with
    | true =>
      rw [if_pos (hsecond.2 hv), if_pos rfl]
      refine congrArg (·, false) (Bytes.ext_bytes ?_)
      change (frame.payload.bytes.drop (1 * codecFrameBytes)).take codecFrameBytes = p.second.codecFrame.bytes
      rw [h.payload, Nat.one_mul, List.drop_left' hlen, List.take_of_length_le hlen2.le, CodecSubmit.kept, hv]
      rfl
    | false => rw [if_neg (fun hf => by rw [hsecond.1 hf] at hv; cases hv), if_neg Bool.false_ne_true]

namespace AudioCapture

/-- A capture between packets, or with the first half of one; `index` is the place of the next packet. -/
structure Holds (c : AudioCapture) (source : U8) (first : U16) (index : Nat) (pending : Option CodecSubmit) : Prop where
  source : c.localSourceId = source
  sequence : c.nextSequence = Serial.position first index
  empty : pending = none → c.pendingHalf = 0 ∧ c.pendingFlags = 0
  half : ∀ x ∈ pending, c.pendingHalf = 1 ∧ c.pendingFlags = x.flags 0 0 ∧
    c.pendingPayload.bytes.take codecFrameBytes = x.kept.bytes

theorem putHalf_zero (payload : Bytes linkPayloadBytes) (frame : Bytes codecFrameBytes) :
    (putHalf payload 0 frame).bytes.take codecFrameBytes = frame.bytes := by
  change (payload.bytes.take (0 * codecFrameBytes) ++ frame.bytes ++ _).take codecFrameBytes = _
  rw [Nat.zero_mul, List.take_zero, List.nil_append, List.take_left' frame.length_eq]

theorem putHalf_one (payload : Bytes linkPayloadBytes) (frame : Bytes codecFrameBytes) :
    (putHalf payload 1 frame).bytes = payload.bytes.take codecFrameBytes ++ frame.bytes := by
  have hl : payload.bytes.length = codecFrameBytes + codecFrameBytes := payload.length_eq
  change payload.bytes.take (1 * codecFrameBytes) ++ frame.bytes ++
    payload.bytes.drop (1 * codecFrameBytes + codecFrameBytes) = _
  rw [Nat.one_mul, List.drop_of_length_le hl.le, List.append_nil]

/-- **The first frame of a packet** waits. -/
theorem submit_first {c : AudioCapture} {source : U8} {first : U16} {index : Nat} (h : c.Holds source first index none)
    (x : CodecSubmit) :
    (c.submit x).1.Holds source first index (some x) ∧ (c.submit x).1.outputQueue = c.outputQueue := by
  obtain ⟨hh, hf⟩ := h.empty rfl
  have hhalf : (c.addHalf x).pendingHalf = 0 := hh
  unfold submit
  dsimp only
  rw [if_pos hhalf]
  refine ⟨⟨h.source, h.sequence, nofun, fun y hy => ?_⟩, rfl⟩
  rw [Option.mem_some_iff] at hy
  refine ⟨rfl, ?_, ?_⟩
  · change x.flags c.pendingHalf c.pendingFlags = _
    rw [hh, hf, hy]
  · change (putHalf c.pendingPayload c.pendingHalf x.kept).bytes.take codecFrameBytes = _
    rw [hh, putHalf_zero, hy]

/-- **The second frame of a packet** completes it. -/
theorem submit_second {c : AudioCapture} {source : U8} {first : U16} {index : Nat} {x : CodecSubmit}
    (h : c.Holds source first index (some x)) (hs : (sourceIndex source).isSome)
    (hroom : c.outputQueue.count < linkQueueCapacity) (y : CodecSubmit) :
    (c.submit y).1.Holds source first (index + 1) none ∧ ∃ frame, frame.valid = true ∧
      frame.producerQueueDepth = BitVec.ofNat 8 c.outputQueue.count ∧
      CodecPacket.Makes ⟨index, x, y⟩ source first frame ∧
      (c.submit y).1.outputQueue.toList = c.outputQueue.toList ++ [frame] := by
  obtain ⟨hh, hf, hp⟩ := h.half x rfl
  have hhalf : ¬ (c.addHalf y).pendingHalf = 0 := by
    change ¬ c.pendingHalf = 0
    rw [hh]
    decide
  have hvalid : (c.addHalf y).packet.valid = true := by
    have hsource : (c.addHalf y).packet.sourceId = source := h.source
    unfold sourceIndex at hs
    split at hs
    · next hrange =>
      unfold AudioLinkFrame.valid
      rw [hsource]
      simp only [packet, validKind, linkLocalAudio, linkStatus]
      simpa using ⟨BitVec.le_def.2 hrange.1, BitVec.le_def.2 hrange.2⟩
    · cases hs
  unfold submit
  dsimp only
  rw [if_neg hhalf]
  refine ⟨⟨h.source, ?_, fun _ => ⟨rfl, rfl⟩, nofun⟩, (c.addHalf y).packet, hvalid, rfl,
    ⟨h.source, h.sequence, ?_, ?_⟩, ?_⟩
  · rw [Serial.position_succ, ← h.sequence]
    rfl
  · change y.flags c.pendingHalf c.pendingFlags = _
    rw [hh, hf]
  · change (putHalf c.pendingPayload c.pendingHalf y.kept).bytes = _
    rw [hh, putHalf_one, hp]
  · rcases c.outputQueue.push_cases (c.addHalf y).packet with ⟨hno, -⟩ | ⟨-, -, ⟨-, hq, -⟩ | ⟨_, _, hfull, -⟩⟩
    · exact absurd (hno.symm.trans hvalid) Bool.false_ne_true
    · exact hq
    · omega

end AudioCapture

end OpenRef.Audio
