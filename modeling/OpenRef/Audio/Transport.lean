import OpenRef.Audio.LinkWire
/-!
# The audio transport (openref_audio_transport.c)

Both ends of the processor link keep a transport: a queue of audio frames in each
direction, one pending status frame, and the last sequence number of each source.
`prepareTx` makes the wire of the next transfer, from the oldest queued audio frame,
else from the pending status, else from an idle status frame, and always has one
(`prepareTx_prepared`). `acceptRx` queues what came in and flags a gap in its
source's sequence.
-/

namespace OpenRef.Audio

/-- An audio frame, not a status frame. -/
def AudioLinkFrame.audio (frame : AudioLinkFrame) : Bool := frame.kind ≠ linkStatus

/-- `openref_audio_transport_t`; only audio frames are queued to go out, and a pending status is one. -/
structure AudioTransport where
  audioTx : LinkQueue
  audioRx : LinkQueue
  pendingStatus : AudioLinkFrame
  latestStatus : AudioLinkFrame
  statusPending : Bool
  latestStatusValid : Bool
  sequenceValid : Fin 6 → Bool
  lastSequence : Fin 6 → U16
  idleSequence : U16
  transactions : U32
  idleTransactions : U32
  malformedFrames : U32
  sequenceGaps : U32
  statusReceived : U32
  txAudio : ∀ frame ∈ audioTx.toList, frame.audio = true
  pendingValid : statusPending = true → pendingStatus.valid = true ∧ pendingStatus.kind = linkStatus

namespace AudioTransport

/-- `openref_audio_transport_init` (:6-14). -/
def init : AudioTransport :=
  ⟨LinkQueue.init, LinkQueue.init, AudioLinkFrame.zero, AudioLinkFrame.zero, false, false, fun _ => false, fun _ => 0,
    0, 0, 0, 0, 0, 0, (fun _ h => by cases h), (fun h => by cases h)⟩

theorem txAudio_push {q : LinkQueue} {frame : AudioLinkFrame} (h : ∀ f ∈ q.toList, f.audio = true)
    (hf : frame.audio = true) : ∀ f ∈ (q.push frame).1.toList, f.audio = true := by
  have hlast {l : List AudioLinkFrame} (hl : ∀ f ∈ l, f.audio = true) : ∀ f ∈ l ++ [frame], f.audio = true := by
    intro f hm
    rcases List.mem_append.1 hm with hm | hm
    · exact hl f hm
    · rwa [List.mem_singleton.1 hm]
  rcases q.push_cases frame with ⟨-, hq⟩ | ⟨-, -, ⟨-, hq, -⟩ | ⟨oldest, rest, -, hl, hq, -⟩⟩
  · rw [hq]
    exact h
  · rw [hq]
    exact hlast h
  · rw [hq]
    exact hlast fun f hm => h f (hl ▸ List.mem_cons_of_mem _ hm)

theorem txAudio_pop {q : LinkQueue} (h : ∀ f ∈ q.toList, f.audio = true) :
    ∀ f ∈ q.pop.1.toList, f.audio = true := by
  rcases q.pop_cases with ⟨-, hq, -⟩ | ⟨oldest, hl, -⟩
  · rw [hq]
    exact h
  · exact fun f hm => h f (hl ▸ List.mem_cons_of_mem _ hm)

/-- `openref_audio_transport_queue` (:16-33). -/
def queue (t : AudioTransport) (frame : AudioLinkFrame) : AudioTransport × Bool :=
  if hv : (encode frame).isSome then
    if hk : frame.kind = linkStatus then
      ({ t with
        pendingStatus := frame
        statusPending := true
        pendingValid := fun _ => by
          refine ⟨?_, hk⟩
          unfold encode at hv
          by_contra hf
          simp [hf] at hv }, true)
    else
      ({ t with
        audioTx := (t.audioTx.push frame).1
        txAudio := txAudio_push t.txAudio (decide_eq_true hk) }, (t.audioTx.push frame).2)
  else (t, false)

/-- `openref_audio_transport_request_asserted` (:35-40). -/
def requestAsserted (t : AudioTransport) : Bool := t.audioTx.count ≠ 0 || t.statusPending

/-- The frame of the next transfer before its queue depth is set (:51-63). -/
def nextTx (t : AudioTransport) (timestampUs : U32) : AudioTransport × AudioLinkFrame :=
  match t.audioTx.pop.2 with
  | some frame => ({ t with audioTx := t.audioTx.pop.1, txAudio := txAudio_pop t.txAudio }, frame)
  | none =>
    if t.statusPending then ({ t with statusPending := false, pendingValid := fun h => by cases h }, t.pendingStatus)
    else
      ({ t with idleSequence := t.idleSequence + 1, idleTransactions := t.idleTransactions + 1 },
        { AudioLinkFrame.zero with kind := linkStatus, sequence := t.idleSequence, timestampUs := timestampUs })

/-- `openref_audio_transport_prepare_tx` (:42-70). -/
def prepareTx (t : AudioTransport) (timestampUs : U32) : AudioTransport × Option LinkWire :=
  let r := t.nextTx timestampUs
  match encode { r.2 with producerQueueDepth := BitVec.ofNat 8 r.1.audioTx.count } with
  | none => (r.1, none)
  | some wire => ({ r.1 with transactions := r.1.transactions + 1 }, some wire)

/-- `openref_audio_transport_accept_rx` (:72-100). -/
def acceptRx (t : AudioTransport) (wire : LinkWire) : AudioTransport × Bool :=
  match decode wire with
  | none => ({ t with malformedFrames := t.malformedFrames + 1 }, false)
  | some frame =>
    if frame.kind = linkStatus then
      ({ t with
        latestStatus := frame
        latestStatusValid := true
        statusReceived := t.statusReceived + 1 }, true)
    else
      match sourceIndex frame.sourceId with
      -- a decoded audio frame has a source from 1 to 6
      | none => (t, false)
      | some source =>
        let gap := t.sequenceValid source && frame.sequence ≠ t.lastSequence source + 1
        let frame := if gap then { frame with flags := frame.flags ||| linkFlagDiscontinuity } else frame
        let r := t.audioRx.push frame
        ({ t with
          audioRx := r.1
          sequenceGaps := if gap then t.sequenceGaps + 1 else t.sequenceGaps
          lastSequence := fun i => if i = source then frame.sequence else t.lastSequence i
          sequenceValid := fun i => if i = source then true else t.sequenceValid i }, r.2)

/-- `openref_audio_transport_pop_audio` (:102-110). -/
def popAudio (t : AudioTransport) : AudioTransport × Option AudioLinkFrame :=
  ({ t with audioRx := t.audioRx.pop.1 }, t.audioRx.pop.2)

end AudioTransport

/-! ## What goes out -/

/-- The wire carries this frame, but for the queue depth that is written when the wire is made. -/
def Carries (frame : AudioLinkFrame) (wire : LinkWire) : Prop :=
  ∃ depth, decode wire = some { frame with producerQueueDepth := depth }

/-- The wire carries no audio. -/
def CarriesStatus (wire : LinkWire) : Prop := ∃ frame, decode wire = some frame ∧ frame.kind = linkStatus

/-- The wire carries audio. -/
def carriesAudio (wire : LinkWire) : Bool := (decode wire).any AudioLinkFrame.audio

theorem carriesAudio_of_carries {frame : AudioLinkFrame} {wire : LinkWire} (hf : frame.audio = true)
    (h : Carries frame wire) : carriesAudio wire = true := by
  obtain ⟨depth, hd⟩ := h
  rw [carriesAudio, hd]
  exact hf

theorem carriesAudio_of_status {wire : LinkWire} (h : CarriesStatus wire) : carriesAudio wire = false := by
  obtain ⟨frame, hd, hk⟩ := h
  simp [carriesAudio, hd, AudioLinkFrame.audio, hk]

namespace AudioTransport

/-- A wire is prepared from the oldest queued audio frame, or carries a status when none is queued. The
other direction is not touched. -/
inductive Prepared (t t' : AudioTransport) (wire : LinkWire) : Prop
  | audio (frame : AudioLinkFrame) (hq : t.audioTx.toList = frame :: t'.audioTx.toList) (hc : Carries frame wire)
  | status (hq : t.audioTx.toList = []) (hq' : t'.audioTx.toList = []) (hc : CarriesStatus wire)

/-- What a transport keeps while a wire is prepared. -/
structure SameRx (t t' : AudioTransport) : Prop where
  audioRx : t'.audioRx = t.audioRx
  sequenceValid : t'.sequenceValid = t.sequenceValid
  lastSequence : t'.lastSequence = t.lastSequence

/-- A source from 1 to 6 is what makes an audio frame valid. -/
theorem exists_source {frame : AudioLinkFrame} (hv : frame.valid = true) (hk : frame.kind ≠ linkStatus) :
    ∃ source, sourceIndex frame.sourceId = some source := by
  have hkind := valid_kind hv
  unfold AudioLinkFrame.valid at hv
  rw [hkind, Bool.not_true, if_neg Bool.false_ne_true, if_neg hk, Bool.and_eq_true, decide_eq_true_eq,
    decide_eq_true_eq] at hv
  unfold sourceIndex
  rw [dif_pos ⟨hv.1, hv.2⟩]
  exact ⟨_, rfl⟩

theorem encode_depth {frame : AudioLinkFrame} {n : Nat} (hv : frame.valid = true) (hn : n ≤ linkQueueCapacity) :
    ∃ wire, encode { frame with producerQueueDepth := BitVec.ofNat 8 n } = some wire := by
  have hdepth : ¬ BitVec.ofNat 8 linkQueueCapacity < BitVec.ofNat 8 n := by
    have hfour : linkQueueCapacity = 4 := rfl
    rw [BitVec.lt_def, BitVec.toNat_ofNat, BitVec.toNat_ofNat]
    omega
  have hvalid : AudioLinkFrame.valid { frame with producerQueueDepth := BitVec.ofNat 8 n } = true := hv
  exact ⟨_, by simp only [encode, hvalid, hdepth]; rfl⟩

/-- **A wire can always be prepared.** -/
theorem prepareTx_prepared (t : AudioTransport) (timestampUs : U32) : ∃ wire,
    (t.prepareTx timestampUs).2 = some wire ∧ Prepared t (t.prepareTx timestampUs).1 wire ∧
      SameRx t (t.prepareTx timestampUs).1 ∧ (t.prepareTx timestampUs).1.audioTx.overruns = t.audioTx.overruns := by
  have hcarry {f : AudioLinkFrame} {n : Nat} {wire : LinkWire}
      (hw : encode { f with producerQueueDepth := BitVec.ofNat 8 n } = some wire) : Carries f wire :=
    ⟨_, decode_encode hw⟩
  unfold prepareTx nextTx
  rcases t.audioTx.pop_cases with ⟨hl, -, hp⟩ | ⟨oldest, hl, hp, ho⟩
  · rw [hp]
    dsimp only
    by_cases hs : t.statusPending = true
    · obtain ⟨wire, hw⟩ := encode_depth (t.pendingValid hs).1 t.audioTx.count_le
      rw [if_pos hs]
      dsimp only
      rw [hw]
      obtain ⟨depth, hd⟩ := hcarry hw
      exact ⟨wire, rfl, .status hl hl ⟨_, hd, (t.pendingValid hs).2⟩, ⟨rfl, rfl, rfl⟩, rfl⟩
    · have hidle : AudioLinkFrame.valid
          { AudioLinkFrame.zero with kind := linkStatus, sequence := t.idleSequence, timestampUs := timestampUs } =
            true := rfl
      obtain ⟨wire, hw⟩ := encode_depth hidle t.audioTx.count_le
      rw [if_neg hs]
      dsimp only at hw ⊢
      rw [hw]
      exact ⟨wire, rfl, .status hl hl ⟨_, decode_encode hw, rfl⟩, ⟨rfl, rfl, rfl⟩, rfl⟩
  · have hvalid : oldest.valid = true :=
      t.audioTx.valid oldest (by change oldest ∈ t.audioTx.toList; rw [hl]; exact List.mem_cons_self)
    obtain ⟨wire, hw⟩ := encode_depth hvalid t.audioTx.pop.1.count_le
    rw [hp]
    dsimp only
    rw [hw]
    exact ⟨wire, rfl, .audio oldest hl (hcarry hw), ⟨rfl, rfl, rfl⟩, ho⟩

/-- What comes in leaves what waits to go out. -/
theorem acceptRx_audioTx (t : AudioTransport) (wire : LinkWire) : (t.acceptRx wire).1.audioTx = t.audioTx := by
  unfold acceptRx
  split
  · rfl
  · split
    · rfl
    · split <;> rfl

/-- A frame that was accepted into the queue is audio or the pending status. -/
inductive Queued (t : AudioTransport) (frame : AudioLinkFrame) (r : AudioTransport × Bool) : Prop
  | refused (ht : r.1 = t) (ha : r.2 = false)
  | status (hk : frame.audio = false) (ha : r.2 = true) (hq : r.1.audioTx = t.audioTx) (hp : r.1.statusPending = true)
  | appended (hk : frame.audio = true) (ha : r.2 = true) (hc : t.audioTx.count < linkQueueCapacity)
    (hq : r.1.audioTx.toList = t.audioTx.toList ++ [frame]) (ho : r.1.audioTx.overruns = t.audioTx.overruns)
  | dropped (hk : frame.audio = true) (ha : r.2 = true) (oldest : AudioLinkFrame) (rest : List AudioLinkFrame)
    (hc : t.audioTx.count = linkQueueCapacity) (hl : t.audioTx.toList = oldest :: rest)
    (hq : r.1.audioTx.toList = rest ++ [frame]) (ho : r.1.audioTx.overruns = t.audioTx.overruns + 1)

theorem queue_queued (t : AudioTransport) (frame : AudioLinkFrame) :
    Queued t frame (t.queue frame) ∧ SameRx t (t.queue frame).1 := by
  unfold queue
  split
  · next hv =>
    split
    · next hk => exact ⟨.status (decide_eq_false (not_not.2 hk)) rfl rfl rfl, rfl, rfl, rfl⟩
    · next hk =>
      refine ⟨?_, rfl, rfl, rfl⟩
      rcases t.audioTx.push_cases frame with ⟨hf, -⟩ | ⟨-, ha, ⟨hc, hq, ho⟩ | ⟨oldest, rest, hc, hl, hq, ho⟩⟩
      · simp [encode, hf] at hv
      · exact .appended (decide_eq_true hk) ha hc hq ho
      · exact .dropped (decide_eq_true hk) ha oldest rest hc hl hq ho
  · exact ⟨.refused rfl rfl, rfl, rfl, rfl⟩

end AudioTransport

end OpenRef.Audio
