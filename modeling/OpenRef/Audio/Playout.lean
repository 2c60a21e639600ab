import OpenRef.Audio.Link
import OpenRef.Lib.RingBuffer
import OpenRef.Lib.Serial
/-!
# Receive playout (openref_audio_playout.c)

Per source a ring of four packets and the sequence number that is due. `push`
refuses what is behind the due packet, already queued or not after the queue's
tail, and drops the oldest packet of a full ring. `next` plays one half of the
due packet; after the second half the due sequence number moves on, whether the
packet was there or not.
-/

namespace OpenRef.Audio

/-- `OPENREF_AUDIO_PLAYOUT_QUEUE_CAPACITY`. -/
abbrev playoutQueueCapacity : Nat := 4
/-- `OPENREF_AUDIO_CODEC_FRAME_BYTES`. -/
def codecFrameBytes : Nat := 40

/-- `openref_audio_playout_packet_t`. -/
structure PlayoutPacket where
  sequence : U16
  flags : U8
  payload : Bytes linkPayloadBytes
deriving DecidableEq, Repr

/-- `openref_audio_playout_source_t`; `current_half` is 0 or 1 between calls. -/
structure PlayoutSource where
  entries : RingBuffer PlayoutPacket playoutQueueCapacity
  expectedSequence : U16
  expectedValid : Bool
  currentLoaded : Bool
  currentHalf : Fin 2
  current : PlayoutPacket
  accepted : U32
  duplicates : U32
  stale : U32
  overruns : U32
  plcFrames : U32
  deliveredFrames : U32

/-- `sequence_after` (:6-9). -/
def sequenceAfter (candidate reference : U16) : Bool := Serial.after candidate reference

namespace PlayoutSource

/-- The state `memset` leaves. -/
def zero : PlayoutSource :=
  ⟨RingBuffer.empty ⟨0, 0, Bytes.zero _⟩ (by decide), 0, false, false, 0, ⟨0, 0, Bytes.zero _⟩, 0, 0, 0, 0, 0, 0⟩

/-- `discard_stale_front` (:11-24); the loop runs at most `count` times. -/
def discardStaleFront : Nat → PlayoutSource → PlayoutSource
  | 0, s => s
  | n + 1, s =>
    if s.entries.count = 0 || !s.expectedValid then s
    else
      let sequence := s.entries.front.sequence
      if sequence = s.expectedSequence || sequenceAfter sequence s.expectedSequence then s
      else discardStaleFront n { s with entries := s.entries.popFront, stale := s.stale + 1 }

/-- `openref_audio_playout_push` on the frame's source (:44-78). -/
def push (s : PlayoutSource) (frame : AudioLinkFrame) : PlayoutSource × Bool :=
  if s.expectedValid && frame.sequence ≠ s.expectedSequence &&
      !sequenceAfter frame.sequence s.expectedSequence then ({ s with stale := s.stale + 1 }, false)
  else if s.entries.toList.any fun e => e.sequence = frame.sequence then
    ({ s with duplicates := s.duplicates + 1 }, false)
  else if s.entries.toList.getLast?.any fun tail => !sequenceAfter frame.sequence tail.sequence then
    ({ s with stale := s.stale + 1 }, false)
  else
    ({ s with
      entries := s.entries.pushDropping ⟨frame.sequence, frame.flags, frame.payload⟩
      overruns := if s.entries.count = playoutQueueCapacity then s.overruns + 1 else s.overruns
      accepted := s.accepted + 1 }, true)

/-- The load at the first half of a packet's time (:102-112). -/
def load (s : PlayoutSource) : PlayoutSource :=
  let s := { discardStaleFront s.entries.count s with currentLoaded := false }
  if s.entries.count ≠ 0 && s.entries.front.sequence = s.expectedSequence then
    { s with current := s.entries.front, entries := s.entries.popFront, currentLoaded := true }
  else s

/-- Codec frame `half` of a payload (:121-123). -/
def codecFrame (payload : Bytes linkPayloadBytes) (half : Fin 2) : Bytes codecFrameBytes where
  bytes := (payload.bytes.drop (half.val * codecFrameBytes)).take codecFrameBytes
  length_eq := by
    have hl := payload.length_eq
    have hh := half.isLt
    simp only [linkPayloadBytes] at hl
    simp only [List.length_take, List.length_drop, hl, codecFrameBytes]
    omega

/-- The half played now is valid (:114-118). -/
def halfValid (s : PlayoutSource) : Bool :=
  s.currentLoaded &&
    decide (s.current.flags &&& (if s.currentHalf = 0 then linkFlagFrame0Valid else linkFlagFrame1Valid) ≠ 0)

/-- The end of `next` (:133-138). -/
def advanceHalf (s : PlayoutSource) : PlayoutSource :=
  if s.currentHalf = 0 then { s with currentHalf := 1 }
  else { s with currentHalf := 0, currentLoaded := false, expectedSequence := s.expectedSequence + 1 }

/-- `next` once the due sequence number is known (:102-139). -/
def playHalf (s : PlayoutSource) : PlayoutSource × Bytes codecFrameBytes × Bool :=
  let s := if s.currentHalf = 0 then s.load else s
  if s.halfValid then
    ({ s with deliveredFrames := s.deliveredFrames + 1 }.advanceHalf, codecFrame s.current.payload s.currentHalf,
      false)
  else ({ s with plcFrames := s.plcFrames + 1 }.advanceHalf, Bytes.zero _, true)

/-- `openref_audio_playout_next` on its source (:91-139): the codec frame and `use_plc`. -/
def next (s : PlayoutSource) : PlayoutSource × Bytes codecFrameBytes × Bool :=
  if !s.expectedValid then
    if s.entries.count = 0 then ({ s with plcFrames := s.plcFrames + 1 }, Bytes.zero _, true)
    else { s with expectedSequence := s.entries.front.sequence, expectedValid := true }.playHalf
  else s.playHalf

end PlayoutSource

/-- `openref_audio_playout_t`. -/
abbrev AudioPlayout := Fin 6 → PlayoutSource

namespace AudioPlayout

/-- `openref_audio_playout_init` (:26-31). -/
def init : AudioPlayout := fun _ => PlayoutSource.zero

/-- One source replaced. -/
def set (p : AudioPlayout) (i : Fin 6) (s : PlayoutSource) : AudioPlayout := fun j => if j = i then s else p j

/-- `openref_audio_playout_push` (:33-79). -/
def push (p : AudioPlayout) (frame : AudioLinkFrame) : AudioPlayout × Bool :=
  if frame.kind ≠ linkRemoteAudio then (p, false)
  else
    match sourceIndex frame.sourceId with
    | none => (p, false)
    | some i => let r := (p i).push frame; (p.set i r.1, r.2)

/-- `openref_audio_playout_next` (:81-140): the codec frame and `use_plc`, or false. -/
def next (p : AudioPlayout) (sourceId : U8) : AudioPlayout × Option (Bytes codecFrameBytes × Bool) :=
  match sourceIndex sourceId with
  | none => (p, none)
  | some i => let r := (p i).next; (p.set i r.1, some r.2)

end AudioPlayout

end OpenRef.Audio
