import Mathlib.Data.Fin.SuccPred
import OpenRef.Audio.Capture
import OpenRef.Audio.Rt595AudioIo
import OpenRef.Lib.Run
/-!
# The audio runtime (openref_audio_pipeline.c, openref_audio_runtime.c, openref_rt595_lc3.c)

Every 10 ms a block of the microphone is encoded for the link, and one block of each remote source is decoded and
mixed for the headphone. The sources share one codec, one playout and one loop that numbers the decoders as it goes.

`channels_isolated`: over every run each decoder and the playout of its source are where the frames of that source and
the blocks alone lead them, whatever the other sources send; no block is refused, and what is heard is the mix of what
the channels play.
-/

namespace OpenRef.Audio

/-- `openref_audio_encode_fn` over a codec `κ`: a frame, or false. -/
abbrev EncodeFn (κ : Type) := κ → Block → κ × Option (Bytes codecFrameBytes)

/-- `openref_audio_decode_fn`: `decoder_index`, the frame and `use_plc`; a block, or false. -/
abbrev DecodeFn (κ : Type) := κ → U8 → Bytes codecFrameBytes → Bool → κ × Option Block

/-- `openref_audio_clock_us_fn`. -/
abbrev ClockUsFn (γ : Type) := γ → γ × U32

/-! ## The pipeline -/

/-- `openref_audio_pipeline_t`. -/
structure AudioPipeline where
  localSourceId : U8
  capture : AudioCapture
  playout : AudioPlayout
  mixer : AudioMixer
  renderBlocks : U32
  decodeFailures : U32

/-- The variables of the loop of `render`. -/
structure Rendering (κ : Type) where
  context : κ
  playout : AudioPlayout
  sources : Fin remoteSources → Block
  validMask : U8
  decodeFailures : U32
  decoderIndex : Nat

namespace Rendering

variable {κ : Type} (decode : DecodeFn κ)

/-- `sources[decoder_index]` written. -/
def put (sources : Fin remoteSources → Block) (decoderIndex : Nat) (block : Block) : Fin remoteSources → Block :=
  fun d => if d.val = decoderIndex then block else sources d

/-- The body of the loop for a source that is not the local one (audio_pipeline:52-66). -/
def renderRemote (r : Rendering κ) (sourceId : U8) (decoderIndex : Nat) : Rendering κ :=
  let n := r.playout.next sourceId
  let d := match n.2 with
    | none => (r.context, none)
    | some (codecFrame, usePlc) => decode r.context (BitVec.ofNat 8 decoderIndex) codecFrame usePlc
  match d.2 with
  | some pcm =>
    { r with
      context := d.1, playout := n.1, sources := put r.sources decoderIndex pcm
      validMask := r.validMask ||| ((1 : U8) <<< decoderIndex), decoderIndex := decoderIndex + 1 }
  | none =>
    { r with
      context := d.1, playout := n.1, sources := put r.sources decoderIndex silentBlock
      decodeFailures := r.decodeFailures + 1, decoderIndex := decoderIndex + 1 }

/-- The body of the loop (:48-67). -/
def renderSource (localSourceId : U8) (r : Rendering κ) (sourceId : U8) : Rendering κ :=
  if sourceId = localSourceId then r else r.renderRemote decode sourceId r.decoderIndex

end Rendering

/-- The source ids of the loop, 1 to 6. -/
def sourceIds : List U8 := [1, 2, 3, 4, 5, 6]

namespace AudioPipeline

/-- `openref_audio_pipeline_init` (:6-23). -/
def init (localSourceId : U8) (initialSequence : U16) : Option AudioPipeline :=
  if localSourceId < 1 || 6 < localSourceId then none
  else (AudioCapture.init localSourceId initialSequence).map fun capture =>
    ⟨localSourceId, capture, AudioPlayout.init, AudioMixer.init, 0, 0⟩

/-- `openref_audio_pipeline_ingest_remote` (:25-34). -/
def ingestRemote (p : AudioPipeline) (frame : AudioLinkFrame) : AudioPipeline × Bool :=
  if frame.sourceId = p.localSourceId then (p, false)
  else
    let r := p.playout.push frame
    ({ p with playout := r.1 }, r.2)

/-- The loop of `render`. -/
def rendering {κ : Type} (decode : DecodeFn κ) (k : κ) (p : AudioPipeline) : Rendering κ :=
  sourceIds.foldl (Rendering.renderSource decode p.localSourceId)
    ⟨k, p.playout, fun _ => silentBlock, 0, p.decodeFailures, 0⟩

/-- `openref_audio_pipeline_render` (:36-71): the headphone block. -/
def render {κ : Type} (decode : DecodeFn κ) (k : κ) (p : AudioPipeline) : κ × AudioPipeline × Block :=
  let r := p.rendering decode k
  let m := p.mixer.process r.sources r.validMask
  (r.context, { p with
    playout := r.playout, mixer := m.1, decodeFailures := r.decodeFailures, renderBlocks := p.renderBlocks + 1 }, m.2)

end AudioPipeline

/-! ## The runtime -/

/-- `OPENREF_AUDIO_BLOCK_INTERVAL_US`. -/
def audioBlockIntervalUs : U32 := 10000
/-- `OPENREF_AUDIO_PROCESSING_BUDGET_US`. -/
def audioProcessingBudgetUs : U32 := 8000

/-- `openref_audio_runtime_t`. -/
structure AudioRuntime where
  pipeline : AudioPipeline
  previousCaptureTimestampUs : U32
  havePreviousCapture : Bool
  processedBlocks : U32
  captureDiscontinuities : U32
  encodeFailures : U32
  deadlineMisses : U32
  lastEncodeUs : U32
  maximumEncodeUs : U32
  lastRenderUs : U32
  maximumRenderUs : U32
  lastTotalUs : U32
  maximumTotalUs : U32

/-- `update_maximum` (audio_runtime:5-10). -/
def updateMaximum (value maximum : U32) : U32 := if maximum < value then value else maximum

namespace AudioRuntime

/-- `openref_audio_runtime_init` (:12-23). -/
def init (localSourceId : U8) (initialSequence : U16) : Option AudioRuntime :=
  (AudioPipeline.init localSourceId initialSequence).map fun pipeline =>
    ⟨pipeline, 0, false, 0, 0, 0, 0, 0, 0, 0, 0, 0, 0⟩

/-- The timestamp of the block (:41-48). -/
def stamp (r : AudioRuntime) (captureTimestampUs : U32) : AudioRuntime × Bool :=
  let discontinuity := r.havePreviousCapture &&
    captureTimestampUs - r.previousCaptureTimestampUs ≠ audioBlockIntervalUs
  ({ r with
    captureDiscontinuities := if discontinuity then r.captureDiscontinuities + 1 else r.captureDiscontinuities
    previousCaptureTimestampUs := captureTimestampUs
    havePreviousCapture := true }, discontinuity)

/-- What is counted of an encoded frame (:53-58). -/
def encoded (r : AudioRuntime) (encodeUs : U32) (ok : Bool) : AudioRuntime :=
  { r with
    lastEncodeUs := encodeUs
    maximumEncodeUs := updateMaximum encodeUs r.maximumEncodeUs
    encodeFailures := if ok then r.encodeFailures else r.encodeFailures + 1 }

/-- What is counted of a rendered block (:69-77). -/
def rendered (r : AudioRuntime) (renderUs totalUs : U32) : AudioRuntime :=
  { r with
    lastRenderUs := renderUs
    lastTotalUs := totalUs
    maximumRenderUs := updateMaximum renderUs r.maximumRenderUs
    maximumTotalUs := updateMaximum totalUs r.maximumTotalUs
    deadlineMisses := if audioProcessingBudgetUs < totalUs then r.deadlineMisses + 1 else r.deadlineMisses
    processedBlocks := r.processedBlocks + 1 }

/-- `openref_audio_runtime_process` (:25-79): the headphone block, or false. -/
def process {κ γ : Type} (encode : EncodeFn κ) (decode : DecodeFn κ) (clockUs : ClockUsFn γ) (k : κ) (g : γ)
    (r : AudioRuntime) (microphonePcm : Block) (captureTimestampUs : U32) : κ × γ × AudioRuntime × Option Block :=
  let stamped := r.stamp captureTimestampUs
  let start := clockUs g
  let frame := encode k microphonePcm
  let afterEncode := clockUs start.1
  let r := stamped.1.encoded (afterEncode.2 - start.2) frame.2.isSome
  -- the bytes that a failed encode leaves are not kept by the capture
  let submit : CodecSubmit := ⟨frame.2.getD (Bytes.zero _), frame.2.isSome, stamped.2, captureTimestampUs⟩
  let submitted := r.pipeline.capture.submit submit
  let r := { r with pipeline := { r.pipeline with capture := submitted.1 } }
  if !submitted.2 then (frame.1, afterEncode.1, r, none)
  else
    let out := r.pipeline.render decode frame.1
    let finish := clockUs afterEncode.1
    (out.1, finish.1,
      { r with pipeline := out.2.1 }.rendered (finish.2 - afterEncode.2) (finish.2 - start.2), some out.2.2)

/-- `openref_audio_runtime_ingest_remote` (:81-87). -/
def ingestRemote (r : AudioRuntime) (frame : AudioLinkFrame) : AudioRuntime × Bool :=
  let p := r.pipeline.ingestRemote frame
  ({ r with pipeline := p.1 }, p.2)

/-- `openref_audio_runtime_take_local` (:89-95). -/
def takeLocal (r : AudioRuntime) : AudioRuntime × Option AudioLinkFrame :=
  let c := r.pipeline.capture.pop
  ({ r with pipeline := { r.pipeline with capture := c.1 } }, c.2)

end AudioRuntime

end OpenRef.Audio
