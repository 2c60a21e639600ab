import OpenRef.Audio.Pipeline
/-!
# One channel for each remote source

The decoder of an index and the playout of the source it stands for are a channel of their own: a frame of the source
is pushed, a block takes the next codec frame and decodes it. The loop of `render` runs every channel once, in order,
past the local source; `channels_isolated` is the same for whole runs of the runtime over the LC3 codec.
-/

namespace OpenRef.Audio

/-- The two calls of the LC3 library, on an encoder `ε` and a decoder `δ`; a call that fails gives nothing. -/
structure Lc3 (ε δ : Type) where
  encode : ε → Block → ε × Option (Bytes codecFrameBytes)
  decode : δ → Bytes codecFrameBytes → Bool → δ × Option Block

/-- `openref_rt595_lc3_t` once initialised. -/
structure Lc3Codec (ε δ : Type) where
  encoder : ε
  decoders : Fin remoteSources → δ

namespace Lc3

variable {ε δ : Type} (lc3 : Lc3 ε δ)

/-- `openref_rt595_lc3_encode` (rt595_lc3:36-45). -/
def encodeFn : EncodeFn (Lc3Codec ε δ) := fun k pcm =>
  let r := lc3.encode k.encoder pcm
  ({ k with encoder := r.1 }, r.2)

/-- `openref_rt595_lc3_decode` (:47-67). -/
def decodeFn : DecodeFn (Lc3Codec ε δ) := fun k decoderIndex codecFrame usePlc =>
  if h : decoderIndex.toNat < remoteSources then
    let r := lc3.decode (k.decoders ⟨decoderIndex.toNat, h⟩) codecFrame usePlc
    ({ k with decoders := Function.update k.decoders ⟨decoderIndex.toNat, h⟩ r.1 }, r.2)
  else (k, none)

end Lc3

/-! ## Sources and decoders -/

/-- The id of a source. -/
def sourceIdOf (i : Fin 6) : U8 := BitVec.ofNat 8 (i.val + 1)

theorem sourceIndex_sourceIdOf (i : Fin 6) : sourceIndex (sourceIdOf i) = some i := by
  revert i
  decide

/-- The decoders of the loop, for a local source: each remote source in order. -/
theorem remote_sources (i : Fin 6) : (sourceIds.filter (· ≠ sourceIdOf i)).zipIdx =
    (List.finRange remoteSources).map fun d => (sourceIdOf (i.succAbove d), d.val) := by
  revert i
  decide

theorem sourceValid_eq (mask : U8) (d : Fin remoteSources) : sourceValid mask d = mask.getLsbD d.val := by
  have hlt : d.val < 8 := Nat.lt_of_lt_of_le d.isLt (by decide)
  have hbit : BitVec.twoPow 8 d.val ≠ 0 := by
    intro h
    have hb := congrArg (fun v => v.getLsbD d.val) h
    simp [hlt] at hb
  have hone : (1 : U8) <<< d.val = BitVec.twoPow 8 d.val := (BitVec.twoPow_eq 8 d.val).symm
  unfold sourceValid
  rw [hone, BitVec.and_twoPow]
  cases mask.getLsbD d.val with
  | true => exact decide_eq_true hbit
  | false => rfl

theorem sourceValid_or (mask : U8) (d e : Fin remoteSources) :
    sourceValid (mask ||| ((1 : U8) <<< d.val)) e = (sourceValid mask e || decide (e = d)) := by
  have hlt : d.val < 8 := Nat.lt_of_lt_of_le d.isLt (by decide)
  have hone : (1 : U8) <<< d.val = BitVec.twoPow 8 d.val := (BitVec.twoPow_eq 8 d.val).symm
  rw [sourceValid_eq, sourceValid_eq, BitVec.getLsbD_or, hone, BitVec.getLsbD_twoPow, decide_eq_true hlt,
    Bool.true_and]
  congr 1
  rw [decide_eq_decide]
  exact ⟨fun h => Fin.ext h.symm, fun h => congrArg Fin.val h.symm⟩

/-! ## Channels -/

/-- The playout of a source and its decoder. -/
structure Channel (δ : Type) where
  source : PlayoutSource
  decoder : δ

/-- What happens to a channel. -/
inductive ChannelEvent
  | frame (frame : AudioLinkFrame)
  | block

namespace Channel

variable {ε δ : Type} (lc3 : Lc3 ε δ)

/-- What a channel plays in a block, and the channel after it. -/
def play (c : Channel δ) : Channel δ × Option Block :=
  let n := c.source.next
  let d := lc3.decode c.decoder n.2.1 n.2.2
  (⟨n.1, d.1⟩, d.2)

def step (c : Channel δ) : ChannelEvent → Channel δ
  | .frame frame => { c with source := (c.source.push frame).1 }
  | .block => (c.play lc3).1

end Channel

/-! ## The loop -/

namespace Rendering

variable {κ : Type} {decode : DecodeFn κ}

theorem decoderIndex_renderRemote (r : Rendering κ) (sourceId : U8) (decoderIndex : Nat) :
    (r.renderRemote decode sourceId decoderIndex).decoderIndex = decoderIndex + 1 := by
  unfold renderRemote
  dsimp only
  split <;> rfl

/-- The loop runs over the sources that are not local, and numbers them. -/
theorem foldl_renderSource (localSourceId : U8) : ∀ (ids : List U8) (r : Rendering κ),
    ids.foldl (renderSource decode localSourceId) r =
      ((ids.filter (· ≠ localSourceId)).zipIdx r.decoderIndex).foldl
        (fun r p => r.renderRemote decode p.1 p.2) r
  | [], _ => rfl
  | id :: ids, r => by
    rw [List.foldl_cons, foldl_renderSource localSourceId ids]
    by_cases hlocal : id = localSourceId
    · rw [List.filter_cons_of_neg (by simpa using hlocal), renderSource, if_pos hlocal]
    · rw [List.filter_cons_of_pos (by simpa using hlocal), renderSource, if_neg hlocal, List.zipIdx_cons,
        List.foldl_cons, decoderIndex_renderRemote]

variable {ε δ : Type} {lc3 : Lc3 ε δ}

/-- A channel in the loop: its state, the block that is written for it and whether it is valid. -/
def view (i : Fin 6) (r : Rendering (Lc3Codec ε δ)) (d : Fin remoteSources) : Channel δ × Block × Bool :=
  (⟨r.playout (i.succAbove d), r.context.decoders d⟩, r.sources d, sourceValid r.validMask d)

/-- One channel's turn. -/
def turnOf (lc3 : Lc3 ε δ) (_ : Fin remoteSources) (v : Channel δ × Block × Bool) : Channel δ × Block × Bool :=
  let played := v.1.play lc3
  (played.1, played.2.getD silentBlock, v.2.2 || played.2.isSome)

/-- The turn of a decoder in the loop. -/
def turn (lc3 : Lc3 ε δ) (i : Fin 6) (r : Rendering (Lc3Codec ε δ)) (d : Fin remoteSources) :
    Rendering (Lc3Codec ε δ) := r.renderRemote lc3.decodeFn (sourceIdOf (i.succAbove d)) d.val

theorem next_sourceIdOf (p : AudioPlayout) (j : Fin 6) :
    p.next (sourceIdOf j) = (p.set j (p j).next.1, some (p j).next.2) := by
  unfold AudioPlayout.next
  rw [sourceIndex_sourceIdOf]

theorem decodeFn_eq (k : Lc3Codec ε δ) (d : Fin remoteSources) (codecFrame : Bytes codecFrameBytes) (usePlc : Bool) :
    lc3.decodeFn k (BitVec.ofNat 8 d.val) codecFrame usePlc =
      ({ k with decoders := Function.update k.decoders d (lc3.decode (k.decoders d) codecFrame usePlc).1 },
        (lc3.decode (k.decoders d) codecFrame usePlc).2) := by
  have hd : d.val < 5 := d.isLt
  have hnat : (BitVec.ofNat 8 d.val).toNat = d.val := by
    rw [BitVec.toNat_ofNat, Nat.mod_eq_of_lt (by omega)]
  have hlt : (BitVec.ofNat 8 d.val).toNat < remoteSources := by
    rw [hnat]
    exact d.isLt
  have hfin : (⟨(BitVec.ofNat 8 d.val).toNat, hlt⟩ : Fin remoteSources) = d := Fin.ext hnat
  unfold Lc3.decodeFn
  rw [dif_pos hlt, hfin]

/-- **What a turn writes**: the channel of its decoder, and nothing of the others. -/
theorem turn_eq (lc3 : Lc3 ε δ) (i : Fin 6) (r : Rendering (Lc3Codec ε δ)) (d : Fin remoteSources) :
    ∃ mask failures, (∀ e, sourceValid mask e = (sourceValid r.validMask e ||
        (decide (e = d) && ((view i r d).1.play lc3).2.isSome))) ∧
      turn lc3 i r d =
        { context := { r.context with
            decoders := Function.update r.context.decoders d ((view i r d).1.play lc3).1.decoder }
          playout := r.playout.set (i.succAbove d) ((view i r d).1.play lc3).1.source
          sources := put r.sources d.val (((view i r d).1.play lc3).2.getD silentBlock)
          validMask := mask
          decodeFailures := failures
          decoderIndex := d.val + 1 } := by
  have hplay : (view i r d).1.play lc3 =
      (⟨(r.playout (i.succAbove d)).next.1, (lc3.decode (r.context.decoders d) (r.playout (i.succAbove d)).next.2.1
        (r.playout (i.succAbove d)).next.2.2).1⟩, (lc3.decode (r.context.decoders d)
          (r.playout (i.succAbove d)).next.2.1 (r.playout (i.succAbove d)).next.2.2).2) := rfl
  unfold turn renderRemote
  dsimp only
  rw [next_sourceIdOf, hplay]
  dsimp only
  rw [decodeFn_eq]
  cases (lc3.decode (r.context.decoders d) (r.playout (i.succAbove d)).next.2.1
      (r.playout (i.succAbove d)).next.2.2).2 with
  | none => exact ⟨_, _, fun e => by rw [Option.isSome_none, Bool.and_false, Bool.or_false], rfl⟩
  | some pcm =>
    refine ⟨_, _, fun e => ?_, rfl⟩
    rw [sourceValid_or, Option.isSome_some, Bool.and_true]

theorem view_turn_self (i : Fin 6) (r : Rendering (Lc3Codec ε δ)) (d : Fin remoteSources) :
    view i (turn lc3 i r d) d = turnOf lc3 d (view i r d) := by
  obtain ⟨mask, failures, hmask, hturn⟩ := turn_eq lc3 i r d
  rw [hturn]
  unfold view turnOf
  refine Prod.ext ?_ (Prod.ext ?_ ?_)
  · dsimp only
    rw [Function.update_self, AudioPlayout.set, if_pos rfl]
  · exact if_pos rfl
  · dsimp only
    rw [hmask, decide_eq_true rfl, Bool.true_and]
    rfl

theorem view_turn_other (i : Fin 6) (r : Rendering (Lc3Codec ε δ)) (d e : Fin remoteSources) (h : e ≠ d) :
    view i (turn lc3 i r d) e = view i r e := by
  obtain ⟨mask, failures, hmask, hturn⟩ := turn_eq lc3 i r d
  have hne : i.succAbove e ≠ i.succAbove d := fun he => h (Fin.succAbove_right_injective he)
  rw [hturn]
  unfold view
  refine Prod.ext ?_ (Prod.ext ?_ ?_)
  · dsimp only
    rw [Function.update_of_ne h, AudioPlayout.set, if_neg hne]
  · exact if_neg fun he => h (Fin.ext he)
  · dsimp only
    rw [hmask, decide_eq_false h, Bool.false_and, Bool.or_false]

end Rendering

/-- **The loop of `render` runs every channel once.** -/
theorem rendering_view {ε δ : Type} (lc3 : Lc3 ε δ) {p : AudioPipeline} {i : Fin 6}
    (hi : p.localSourceId = sourceIdOf i) (k : Lc3Codec ε δ) (d : Fin remoteSources) :
    (p.rendering lc3.decodeFn k).view i d =
      (((Channel.mk (p.playout (i.succAbove d)) (k.decoders d)).play lc3).1,
        ((Channel.mk (p.playout (i.succAbove d)) (k.decoders d)).play lc3).2.getD silentBlock,
        ((Channel.mk (p.playout (i.succAbove d)) (k.decoders d)).play lc3).2.isSome) := by
  unfold AudioPipeline.rendering
  rw [Rendering.foldl_renderSource, hi, remote_sources, List.foldl_map]
  have hrow := @Run.view_row _ _ _ _ (Rendering.turn lc3 i) (Rendering.view i) (Rendering.turnOf lc3)
    (Rendering.view_turn_self i) (Rendering.view_turn_other i) (List.finRange remoteSources)
    ⟨k, p.playout, fun _ => silentBlock, 0, p.decodeFailures, 0⟩ (List.nodup_finRange _) d
  rw [if_pos (List.mem_finRange d)] at hrow
  refine hrow.trans ?_
  have hnone : ∀ d, sourceValid 0 d = false := by decide
  unfold Rendering.turnOf Rendering.view
  dsimp only
  rw [hnone, Bool.false_or]

/-! ## The runtime -/

/-- The runtime with its codec and its clock. -/
structure Listening (ε δ γ : Type) where
  runtime : AudioRuntime
  codec : Lc3Codec ε δ
  clock : γ

/-- The pipeline after its capture was given a frame. -/
def AudioPipeline.captured (p : AudioPipeline) (x : CodecSubmit) : AudioPipeline :=
  { p with capture := (p.capture.submit x).1 }

/-- A call on the runtime. -/
inductive AudioCall
  | process (microphonePcm : Block) (captureTimestampUs : U32)
  | ingestRemote (frame : AudioLinkFrame)
  | takeLocal

namespace Listening

variable {ε δ γ : Type} (lc3 : Lc3 ε δ) (clockUs : ClockUsFn γ)

/-- A block processed, and the headphone block. -/
def process (w : Listening ε δ γ) (microphonePcm : Block) (captureTimestampUs : U32) :
    Listening ε δ γ × Option Block :=
  let r := w.runtime.process lc3.encodeFn lc3.decodeFn clockUs w.codec w.clock microphonePcm captureTimestampUs
  (⟨r.2.2.1, r.1, r.2.1⟩, r.2.2.2)

def step (w : Listening ε δ γ) : AudioCall → Listening ε δ γ
  | .process microphonePcm captureTimestampUs => (w.process lc3 clockUs microphonePcm captureTimestampUs).1
  | .ingestRemote frame => { w with runtime := (w.runtime.ingestRemote frame).1 }
  | .takeLocal => { w with runtime := w.runtime.takeLocal.1 }

/-- The channel of a decoder. -/
def channel (i : Fin 6) (d : Fin remoteSources) (w : Listening ε δ γ) : Channel δ :=
  ⟨w.runtime.pipeline.playout (i.succAbove d), w.codec.decoders d⟩

/-- What a call means to a channel: a frame of its source, or a block. -/
def concerns (i : Fin 6) (d : Fin remoteSources) : AudioCall → Option ChannelEvent
  | .process _ _ => some .block
  | .ingestRemote frame =>
    if frame.kind = linkRemoteAudio ∧ sourceIndex frame.sourceId = some (i.succAbove d) then some (.frame frame)
    else none
  | .takeLocal => none

/-- The runtime is the one of a source. -/
structure Of (i : Fin 6) (w : Listening ε δ γ) : Prop where
  pipeline : w.runtime.pipeline.localSourceId = sourceIdOf i
  capture : w.runtime.pipeline.capture.localSourceId = sourceIdOf i

/-- The call when the capture takes the frame `x` it makes of the block. -/
theorem process_taken {w : Listening ε δ γ} (htakes : ∀ x, (w.runtime.pipeline.capture.submit x).2 = true)
    (microphonePcm : Block) (captureTimestampUs : U32) :
    let r := w.process lc3 clockUs microphonePcm captureTimestampUs
    ∃ x, let out := (w.runtime.pipeline.captured x).render lc3.decodeFn (lc3.encodeFn w.codec microphonePcm).1
      r.1.codec = out.1 ∧ r.1.runtime.pipeline = out.2.1 ∧ r.2 = some out.2.2 := by
  let encoded := lc3.encodeFn w.codec microphonePcm
  refine ⟨⟨encoded.2.getD (Bytes.zero _), encoded.2.isSome, (w.runtime.stamp captureTimestampUs).2,
    captureTimestampUs⟩, ?_⟩
  unfold process AudioRuntime.process
  dsimp only
  split
  · next hrefused =>
    rw [Bool.not_eq_true'] at hrefused
    exact absurd (hrefused.symm.trans (htakes _)) Bool.false_ne_true
  · exact ⟨rfl, rfl, rfl⟩

/-- A capture of a valid source takes every frame. -/
theorem submit_true {c : AudioCapture} {i : Fin 6} (hc : c.localSourceId = sourceIdOf i) (x : CodecSubmit) :
    (c.submit x).2 = true ∧ (c.submit x).1.localSourceId = c.localSourceId := by
  have hvalid : (c.addHalf x).packet.valid = true := by
    have hsource : (c.addHalf x).packet.sourceId = sourceIdOf i := hc
    have hrange : ∀ i : Fin 6, (1 ≤ sourceIdOf i && sourceIdOf i ≤ 6) = true := by decide
    have hkind : (c.addHalf x).packet.kind = linkLocalAudio := rfl
    unfold AudioLinkFrame.valid
    rw [hkind, hsource]
    exact hrange i
  unfold AudioCapture.submit
  dsimp only
  split
  · exact ⟨rfl, rfl⟩
  · refine ⟨?_, rfl⟩
    unfold LinkQueue.push
    rw [dif_pos hvalid]

/-- **A block is processed**: every channel plays, and what is heard is the mix of what they play. -/
theorem process_spec {i : Fin 6} {w : Listening ε δ γ} (h : w.Of i) (microphonePcm : Block)
    (captureTimestampUs : U32) :
    let r := w.process lc3 clockUs microphonePcm captureTimestampUs
    r.1.Of i ∧ (∀ d, r.1.channel i d = ((w.channel i d).play lc3).1) ∧
      ∃ mask, (∀ d, sourceValid mask d = ((w.channel i d).play lc3).2.isSome) ∧
        r.2 = some (w.runtime.pipeline.mixer.process
          (fun d => ((w.channel i d).play lc3).2.getD silentBlock) mask).2 := by
  intro r
  obtain ⟨x, hcodec, hpipeline, hblock⟩ := process_taken lc3 clockUs (fun x => (submit_true h.capture x).1)
    microphonePcm captureTimestampUs
  have hview : ∀ d, Rendering.view i
      ((w.runtime.pipeline.captured x).rendering lc3.decodeFn (lc3.encodeFn w.codec microphonePcm).1) d =
        (((w.channel i d).play lc3).1, ((w.channel i d).play lc3).2.getD silentBlock,
          ((w.channel i d).play lc3).2.isSome) := rendering_view lc3 h.pipeline _
  refine ⟨⟨?_, ?_⟩, fun d => ?_, _, fun d => congrArg (fun v => v.2.2) (hview d), ?_⟩
  · rw [hpipeline]
    exact h.pipeline
  · rw [hpipeline]
    exact (submit_true h.capture x).2.trans h.capture
  · refine Eq.trans ?_ (congrArg (fun v : Channel δ × Block × Bool => v.1) (hview d))
    unfold channel
    rw [hpipeline, hcodec]
    rfl
  · refine hblock.trans (congrArg some ?_)
    have hsources := funext fun d => congrArg (fun v => v.2.1) (hview d)
    exact congrArg (fun sources => (w.runtime.pipeline.mixer.process sources _).2) hsources

/-- A frame of a source reaches its channel and no other; one of the local source reaches none. -/
theorem ingestRemote_spec {i : Fin 6} {w : Listening ε δ γ} (h : w.Of i) (frame : AudioLinkFrame) :
    (w.step lc3 clockUs (.ingestRemote frame)).Of i ∧
      ∀ d, (w.step lc3 clockUs (.ingestRemote frame)).channel i d =
        if frame.kind = linkRemoteAudio ∧ sourceIndex frame.sourceId = some (i.succAbove d) then
          (w.channel i d).step lc3 (.frame frame)
        else w.channel i d := by
  unfold step AudioRuntime.ingestRemote AudioPipeline.ingestRemote
  dsimp only
  by_cases hlocal : frame.sourceId = w.runtime.pipeline.localSourceId
  · rw [if_pos hlocal]
    refine ⟨h, fun d => (if_neg fun hd => ?_).symm⟩
    rw [hlocal, h.pipeline, sourceIndex_sourceIdOf] at hd
    exact Fin.ne_succAbove i d (Option.some.inj hd.2)
  · rw [if_neg hlocal]
    refine ⟨⟨h.pipeline, h.capture⟩, fun d => ?_⟩
    unfold AudioPlayout.push
    by_cases hkind : frame.kind = linkRemoteAudio
    · rw [if_neg (not_not_intro hkind)]
      cases hindex : sourceIndex frame.sourceId with
      | none => exact (if_neg fun hd => nomatch hd.2).symm
      | some j =>
        by_cases hj : j = i.succAbove d
        · subst hj
          rw [if_pos ⟨hkind, rfl⟩]
          unfold channel Channel.step AudioPlayout.set
          dsimp only
          rw [if_pos rfl]
        · rw [if_neg fun hd => hj (Option.some.inj hd.2)]
          unfold channel AudioPlayout.set
          dsimp only
          rw [if_neg (Ne.symm hj)]
    · rw [if_pos hkind, if_neg fun hd => hkind hd.1]

/-- **A call does to a channel what it means to it.** -/
theorem step_spec {i : Fin 6} {w : Listening ε δ γ} (h : w.Of i) (call : AudioCall) :
    (w.step lc3 clockUs call).Of i ∧ ∀ d, (w.step lc3 clockUs call).channel i d =
      match concerns i d call with
      | some event => (w.channel i d).step lc3 event
      | none => w.channel i d := by
  cases call with
  | process microphonePcm captureTimestampUs =>
    obtain ⟨hof, hplay, -⟩ := process_spec lc3 clockUs h microphonePcm captureTimestampUs
    exact ⟨hof, hplay⟩
  | ingestRemote frame =>
    obtain ⟨hof, hchannel⟩ := ingestRemote_spec lc3 clockUs h frame
    refine ⟨hof, fun d => (hchannel d).trans ?_⟩
    unfold concerns
    dsimp only
    split <;> rfl
  | takeLocal => exact ⟨⟨h.pipeline, h.capture⟩, fun _ => rfl⟩

/-- A runtime that was started is the one of its source, and every channel is empty. -/
theorem init_of {localSourceId : U8} {initialSequence : U16} {runtime : AudioRuntime}
    (hinit : AudioRuntime.init localSourceId initialSequence = some runtime) (codec : Lc3Codec ε δ) (clock : γ) :
    ∃ i, localSourceId = sourceIdOf i ∧ (Listening.mk runtime codec clock).Of i ∧
      ∀ d, (Listening.mk runtime codec clock).channel i d = ⟨PlayoutSource.zero, codec.decoders d⟩ := by
  unfold AudioRuntime.init AudioPipeline.init at hinit
  obtain ⟨pipeline, hpipeline, rfl⟩ := Option.map_eq_some_iff.1 hinit
  split at hpipeline
  · cases hpipeline
  · obtain ⟨capture, hcapture, rfl⟩ := Option.map_eq_some_iff.1 hpipeline
    unfold AudioCapture.init at hcapture
    split at hcapture
    · cases hcapture
    · next hrange =>
      obtain rfl := Option.some.inj hcapture
      have hsource : ∃ i, localSourceId = sourceIdOf i := by
        have hall : ∀ id : U8, ¬(id < 1 || 6 < id) = true → ∃ i : Fin 6, id = sourceIdOf i := by decide
        exact hall localSourceId hrange
      obtain ⟨i, hi⟩ := hsource
      exact ⟨i, hi, ⟨hi, hi⟩, fun _ => rfl⟩

/-- **Main result: every remote source has a channel of its own.** Over every run the decoder and the playout of a
source are where its own frames and the blocks alone lead them, and every block is the mix of what the channels
play. -/
theorem channels_isolated {localSourceId : U8} {initialSequence : U16} {runtime : AudioRuntime}
    (hinit : AudioRuntime.init localSourceId initialSequence = some runtime) (codec : Lc3Codec ε δ) (clock : γ)
    (calls : List AudioCall) :
    let w := calls.foldl (step lc3 clockUs) ⟨runtime, codec, clock⟩
    ∃ i, localSourceId = sourceIdOf i ∧
      (∀ d, w.channel i d = (calls.filterMap (concerns i d)).foldl (Channel.step lc3)
        ⟨PlayoutSource.zero, codec.decoders d⟩) ∧
      ∀ microphonePcm captureTimestampUs, ∃ mask,
        (∀ d, sourceValid mask d = ((w.channel i d).play lc3).2.isSome) ∧
          (w.process lc3 clockUs microphonePcm captureTimestampUs).2 = some (w.runtime.pipeline.mixer.process
            (fun d => ((w.channel i d).play lc3).2.getD silentBlock) mask).2 := by
  intro w
  obtain ⟨i, hi, hof, hstart⟩ := init_of hinit codec clock
  have hkept : ∀ w c, w.Of i → (step lc3 clockUs w c).Of i := fun _ c hw => (step_spec lc3 clockUs hw c).1
  have hend : w.Of i := Run.inv_run hkept hof calls
  refine ⟨i, hi, fun d => ?_, fun microphonePcm captureTimestampUs =>
    (process_spec lc3 clockUs hend microphonePcm captureTimestampUs).2.2⟩
  rw [← hstart d]
  refine Run.view_run hkept (fun w c hw => ?_) hof
  rw [(step_spec lc3 clockUs hw c).2 d]
  cases concerns i d c <;> rfl

/-- A codec that keeps its first bytes, and a clock that stands still. -/
def plainLc3 : Lc3 Unit Nat where
  encode _ _ := ((), some (Bytes.zero _))
  decode n _ usePlc := (n + 1, if usePlc then none else some silentBlock)

/-- A remote frame of a source with both of its codec frames. -/
def remoteFrame (sourceId : U8) : AudioLinkFrame :=
  ⟨linkRemoteAudio, sourceId, linkFlagFrame0Valid ||| linkFlagFrame1Valid, 0, 0, 0, Bytes.zero _⟩

/-- Source 1 sends a packet and source 5 another, a block later. -/
def twoSources : List AudioCall :=
  [.ingestRemote (remoteFrame 1), .process silentBlock 0, .ingestRemote (remoteFrame 5), .process silentBlock 10000]

theorem channels_isolated_two_sources : ∃ runtime, AudioRuntime.init 3 0 = some runtime ∧
    ∃ i, (3 : U8) = sourceIdOf i ∧ (∀ d,
      (twoSources.foldl (step plainLc3 fun g : Unit => (g, 0)) ⟨runtime, ⟨(), fun _ => 0⟩, ()⟩).channel i d =
        (twoSources.filterMap (concerns i d)).foldl (Channel.step plainLc3) ⟨PlayoutSource.zero, 0⟩) ∧
      ∀ d, (twoSources.filterMap (concerns i d)).length = if d = 0 ∨ d = 3 then 3 else 2 := by
  have hsome : (AudioRuntime.init 3 0).isSome = true := rfl
  have hinit := (Option.some_get hsome).symm
  obtain ⟨i, hi, hchannel, -⟩ := channels_isolated plainLc3 (fun g : Unit => (g, 0)) hinit ⟨(), fun _ => 0⟩ ()
    twoSources
  have hlocal : i = 2 := by
    have hindex := congrArg sourceIndex hi
    rw [sourceIndex_sourceIdOf] at hindex
    exact (Option.some.inj hindex).symm
  subst hlocal
  exact ⟨_, hinit, 2, hi, hchannel, by decide⟩

end Listening

end OpenRef.Audio
