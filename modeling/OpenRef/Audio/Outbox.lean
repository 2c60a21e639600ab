import OpenRef.Audio.Transport
import OpenRef.Lib.Run
/-!
# What the audio transport sends (openref_audio_transport.c:16-70)

An `Outbox` says what the sending half of a transport is for: accepted audio frames in a list that
drops its oldest one for want of room, the latest status, and otherwise idle frames with sequences
of their own. Its invariants are fields.

`transport_sends`: along every run, with wires received and audio popped in between, each wire is made
and decodes to the frame the outbox sends, and the transport's queue and counters are those of
the outbox. So the failing branch behind the final encode is never taken.
-/

namespace OpenRef.Audio

/-! ## The outbox -/

/-- What waits to be sent, and what was sent and dropped so far. -/
structure Outbox where
  audio : List AudioLinkFrame
  status : Option AudioLinkFrame
  /-- The number of idle frames sent. -/
  idle : Nat
  pushes : Nat
  pops : Nat
  overruns : Nat
  room : audio.length ≤ linkQueueCapacity
  ledger : pushes = pops + overruns + audio.length

namespace Outbox

/-- Nothing is queued yet. -/
def empty : Outbox := ⟨[], none, 0, 0, 0, 0, Nat.zero_le _, rfl⟩

/-- A frame with a source that is allowed for its kind, and a queue depth up to the capacity. -/
def accepts (frame : AudioLinkFrame) : Bool := frame.valid && frame.producerQueueDepth.toNat ≤ linkQueueCapacity

/-- Audio goes to the end, and the oldest frame goes when there are more than the capacity. -/
def enqueue (o : Outbox) (frame : AudioLinkFrame) : Outbox where
  audio := (o.audio ++ [frame]).rtake linkQueueCapacity
  status := o.status
  idle := o.idle
  pushes := o.pushes + 1
  pops := o.pops
  overruns := if o.audio.length = linkQueueCapacity then o.overruns + 1 else o.overruns
  room := by
    rw [List.rtake, List.length_drop, List.length_append, List.length_singleton]
    omega
  ledger := by
    have hroom := o.room
    have hledger := o.ledger
    rw [List.rtake, List.length_drop, List.length_append, List.length_singleton]
    split <;> omega

/-- An accepted frame: a status replaces the one before. -/
def put (o : Outbox) (frame : AudioLinkFrame) : Outbox :=
  if frame.kind = linkStatus then { o with status := some frame } else o.enqueue frame

/-- The next frame that is sent: the oldest audio frame, with the number of frames left behind it; or
else the status; or else an idle status with the next idle sequence. -/
def next (o : Outbox) (timestampUs : U32) : Outbox × AudioLinkFrame :=
  match h : o.audio with
  | frame :: rest =>
    ({ o with
      audio := rest
      pops := o.pops + 1
      room := by
        have hroom := o.room
        rw [h, List.length_cons] at hroom
        omega
      ledger := by
        have hledger := o.ledger
        rw [h, List.length_cons] at hledger
        omega },
      { frame with producerQueueDepth := BitVec.ofNat 8 rest.length })
  | [] =>
    match o.status with
    | some frame => ({ o with status := none }, { frame with producerQueueDepth := 0 })
    | none =>
      ({ o with idle := o.idle + 1 },
        { AudioLinkFrame.zero with
          kind := linkStatus
          sequence := BitVec.ofNat 16 o.idle
          timestampUs := timestampUs })

theorem next_status {o : Outbox} {frame : AudioLinkFrame} (haudio : o.audio = []) (hstatus : o.status = some frame)
    (timestampUs : U32) :
    o.next timestampUs = ({ o with status := none }, { frame with producerQueueDepth := 0 }) := by
  unfold next
  split
  · next ho => cases ho.symm.trans haudio
  · rw [hstatus]

theorem next_idle {o : Outbox} (haudio : o.audio = []) (hstatus : o.status = none) (timestampUs : U32) :
    o.next timestampUs = ({ o with idle := o.idle + 1 }, { AudioLinkFrame.zero with
      kind := linkStatus
      sequence := BitVec.ofNat 16 o.idle
      timestampUs := timestampUs }) := by
  unfold next
  split
  · next ho => cases ho.symm.trans haudio
  · rw [hstatus]

/-- Something other than an idle frame waits. -/
def pending (o : Outbox) : Prop := o.audio ≠ [] ∨ o.status ≠ none

end Outbox

/-! ## Calls and answers -/

/-- The calls of a transport. -/
inductive TransportCall
  | queue (frame : AudioLinkFrame)
  | prepareTx (timestampUs : U32)
  | acceptRx (wire : LinkWire)
  | popAudio

/-- Whether a frame was accepted, and what was made to be sent. What the receiving half answers is left out. -/
inductive SendAnswer (α : Type)
  | queued (accepted : Bool)
  | prepared (made : Option α)
  | received
deriving DecidableEq

/-- What the other end decodes. -/
def SendAnswer.decoded : SendAnswer LinkWire → SendAnswer AudioLinkFrame
  | .queued accepted => .queued accepted
  | .prepared made => .prepared (made.bind decode)
  | .received => .received

namespace AudioTransport

def call (t : AudioTransport) : TransportCall → AudioTransport × SendAnswer LinkWire
  | .queue frame => ((t.queue frame).1, .queued (t.queue frame).2)
  | .prepareTx timestampUs => ((t.prepareTx timestampUs).1, .prepared (t.prepareTx timestampUs).2)
  | .acceptRx wire => ((t.acceptRx wire).1, .received)
  | .popAudio => (t.popAudio.1, .received)

/-- The transport after some calls. -/
def after (calls : List TransportCall) : AudioTransport := calls.foldl (fun t c => (t.call c).1) init

end AudioTransport

namespace Outbox

/-- The outbox answers every `prepareTx` with a frame. -/
def call (o : Outbox) : TransportCall → Outbox × SendAnswer AudioLinkFrame
  | .queue frame => (if accepts frame then o.put frame else o, .queued (accepts frame))
  | .prepareTx timestampUs => ((o.next timestampUs).1, .prepared (some (o.next timestampUs).2))
  | .acceptRx _ => (o, .received)
  | .popAudio => (o, .received)

/-- The outbox after some calls. -/
def after (calls : List TransportCall) : Outbox := calls.foldl (fun o c => (o.call c).1) empty

end Outbox

/-! ## The transport is an outbox -/

/-- The sending half of a transport stands for an outbox. -/
structure Sends (t : AudioTransport) (o : Outbox) : Prop where
  audio : t.audioTx.toList = o.audio
  status : (if t.statusPending then some t.pendingStatus else none) = o.status
  idle : t.idleSequence = BitVec.ofNat 16 o.idle
  pushes : t.audioTx.pushes = BitVec.ofNat 32 o.pushes
  pops : t.audioTx.pops = BitVec.ofNat 32 o.pops
  overruns : t.audioTx.overruns = BitVec.ofNat 32 o.overruns

theorem sends_init : Sends AudioTransport.init Outbox.empty := ⟨rfl, rfl, rfl, rfl, rfl, rfl⟩

variable {t : AudioTransport} {o : Outbox}

theorem Sends.count (h : Sends t o) : t.audioTx.count = o.audio.length := by
  rw [← t.audioTx.length_toList, h.audio]

/-- A counter that goes up goes up in both. -/
theorem ofNat_succ {w n : Nat} {v : BitVec w} (h : v = BitVec.ofNat w n) : v + 1 = BitVec.ofNat w (n + 1) := by
  rw [h, BitVec.ofNat_add]
  rfl

theorem accepts_eq (frame : AudioLinkFrame) : Outbox.accepts frame = (encode frame).isSome := by
  rw [Bool.eq_iff_iff, isSome_encode]
  simp [Outbox.accepts]

/-- **Step: queue.** The trial encode accepts what the outbox accepts, and the ring drops what the list drops. -/
theorem Sends.queue (h : Sends t o) (frame : AudioLinkFrame) :
    Sends (t.queue frame).1 (if Outbox.accepts frame then o.put frame else o) ∧
      (t.queue frame).2 = Outbox.accepts frame := by
  rw [accepts_eq]
  unfold AudioTransport.queue
  by_cases hv : (encode frame).isSome = true
  · rw [dif_pos hv, if_pos hv, hv]
    unfold Outbox.put
    by_cases hk : frame.kind = linkStatus
    · rw [dif_pos hk, if_pos hk]
      exact ⟨⟨h.audio, rfl, h.idle, h.pushes, h.pops, h.overruns⟩, rfl⟩
    · rw [dif_neg hk, if_neg hk]
      have hvalid := (isSome_encode.1 hv).1
      obtain ⟨hpushes, hpops, hoverruns⟩ := t.audioTx.push_counters hvalid
      have hpushed : (t.audioTx.push frame).2 = true := by
        unfold LinkQueue.push
        rw [dif_pos hvalid]
      refine ⟨⟨?_, h.status, h.idle, ?_, ?_, ?_⟩, hpushed⟩
      · exact (t.audioTx.toList_push hvalid).trans (by rw [h.audio]; rfl)
      · exact hpushes.trans (ofNat_succ h.pushes)
      · exact hpops.trans h.pops
      · refine hoverruns.trans ?_
        rw [h.count]
        change _ = BitVec.ofNat 32 (if o.audio.length = linkQueueCapacity then o.overruns + 1 else o.overruns)
        split
        · exact ofNat_succ h.overruns
        · exact h.overruns
  · rw [dif_neg hv, if_neg hv, Bool.eq_false_of_not_eq_true hv]
    exact ⟨h, rfl⟩

/-- Whatever is next to be sent, it is a valid frame. -/
theorem nextTx_valid (t : AudioTransport) (timestampUs : U32) : (t.nextTx timestampUs).2.valid = true := by
  unfold AudioTransport.nextTx
  rcases t.audioTx.pop_cases with ⟨-, -, hp⟩ | ⟨oldest, hl, hp, -⟩
  · rw [hp]
    dsimp only
    split
    · next hs => exact (t.pendingValid hs).1
    · rfl
  · rw [hp]
    refine t.audioTx.valid oldest ?_
    change oldest ∈ t.audioTx.toList
    rw [hl]
    exact List.mem_cons_self

/-- So the final encode succeeds. -/
theorem prepareTx_decoded (t : AudioTransport) (timestampUs : U32) :
    (t.prepareTx timestampUs).2.bind decode = some { (t.nextTx timestampUs).2 with
      producerQueueDepth := BitVec.ofNat 8 (t.nextTx timestampUs).1.audioTx.count } ∧
    (t.prepareTx timestampUs).1 = { (t.nextTx timestampUs).1 with
      transactions := (t.nextTx timestampUs).1.transactions + 1 } := by
  obtain ⟨wire, hwire⟩ := AudioTransport.encode_depth (nextTx_valid t timestampUs) (t.nextTx timestampUs).1.audioTx.count_le
  unfold AudioTransport.prepareTx
  dsimp only
  rw [hwire]
  exact ⟨decode_encode hwire, rfl⟩

/-- **Step: the next frame**, with the depth that is written into it. -/
theorem Sends.next (h : Sends t o) (timestampUs : U32) :
    Sends (t.nextTx timestampUs).1 (o.next timestampUs).1 ∧
      { (t.nextTx timestampUs).2 with producerQueueDepth := BitVec.ofNat 8 (t.nextTx timestampUs).1.audioTx.count } =
        (o.next timestampUs).2 := by
  have haudio := h.audio
  have hstatus := h.status
  have hcount := h.count
  rcases t.audioTx.pop_cases with ⟨hl, -, hp⟩ | ⟨oldest, hl, hp, -⟩
  · -- no audio: the status or an idle frame, and nothing is left behind it
    have hempty : o.audio = [] := haudio.symm.trans hl
    rw [hempty, List.length_nil] at hcount
    unfold AudioTransport.nextTx
    rw [hp]
    dsimp only
    by_cases hs : t.statusPending = true
    · rw [if_pos hs] at hstatus
      rw [if_pos hs, Outbox.next_status hempty hstatus.symm]
      refine ⟨⟨haudio, rfl, h.idle, h.pushes, h.pops, h.overruns⟩, ?_⟩
      dsimp only
      rw [hcount]
      rfl
    · rw [if_neg hs] at hstatus
      rw [if_neg hs, Outbox.next_idle hempty hstatus.symm]
      refine ⟨⟨haudio, h.status, ofNat_succ h.idle, h.pushes, h.pops, h.overruns⟩, ?_⟩
      dsimp only
      rw [hcount, h.idle]
      rfl
  · have hcons : o.audio = oldest :: t.audioTx.pop.1.toList := haudio.symm.trans hl
    have hsome : t.audioTx.count ≠ 0 := by
      rw [hcount, hcons, List.length_cons]
      omega
    obtain ⟨hpushes, hpops, hoverruns⟩ := t.audioTx.pop_counters hsome
    unfold AudioTransport.nextTx
    rw [hp]
    dsimp only
    unfold Outbox.next
    split
    · next frame rest ho =>
      obtain ⟨rfl, hrest⟩ := List.cons.inj (ho.symm.trans hcons)
      refine ⟨⟨hrest.symm, h.status, h.idle, hpushes.trans h.pushes, hpops.trans (ofNat_succ h.pops),
        hoverruns.trans h.overruns⟩, ?_⟩
      dsimp only
      rw [hrest, LinkQueue.length_toList]
    · next ho => cases ho.symm.trans hcons

/-- **Step: acceptRx.** What comes in leaves what waits to go out. -/
theorem Sends.acceptRx (h : Sends t o) (wire : LinkWire) : Sends (t.acceptRx wire).1 o := by
  obtain ⟨haudio, hstatus, hidle, hpushes, hpops, hoverruns⟩ := h
  unfold AudioTransport.acceptRx
  split
  · exact ⟨haudio, hstatus, hidle, hpushes, hpops, hoverruns⟩
  · split
    · exact ⟨haudio, hstatus, hidle, hpushes, hpops, hoverruns⟩
    · split
      · exact ⟨haudio, hstatus, hidle, hpushes, hpops, hoverruns⟩
      · exact ⟨haudio, hstatus, hidle, hpushes, hpops, hoverruns⟩

/-- **Step.** Every call keeps the outbox and is answered as the outbox answers it. -/
theorem Sends.call (h : Sends t o) (c : TransportCall) :
    Sends (t.call c).1 (o.call c).1 ∧ (t.call c).2.decoded = (o.call c).2 := by
  cases c with
  | queue frame =>
    obtain ⟨hnext, hanswer⟩ := h.queue frame
    exact ⟨hnext, congrArg SendAnswer.queued hanswer⟩
  | prepareTx timestampUs =>
    obtain ⟨hdecoded, hprepared⟩ := prepareTx_decoded t timestampUs
    obtain ⟨hnext, hframe⟩ := h.next timestampUs
    refine ⟨?_, congrArg SendAnswer.prepared (hdecoded.trans (congrArg some hframe))⟩
    change Sends (t.prepareTx timestampUs).1 _
    rw [hprepared]
    exact ⟨hnext.audio, hnext.status, hnext.idle, hnext.pushes, hnext.pops, hnext.overruns⟩
  | acceptRx wire => exact ⟨h.acceptRx wire, rfl⟩
  | popAudio => exact ⟨⟨h.audio, h.status, h.idle, h.pushes, h.pops, h.overruns⟩, rfl⟩

theorem Sends.requestAsserted (h : Sends t o) : t.requestAsserted = true ↔ o.pending := by
  have hstatus := h.status
  unfold AudioTransport.requestAsserted Outbox.pending
  rw [Bool.or_eq_true, decide_eq_true_eq, h.count, ← hstatus, Ne, List.length_eq_zero_iff]
  cases t.statusPending <;> simp

/-- **Main result: the transport sends what it queued**, whatever is called and in whatever order. Every
call is answered as the outbox answers it, so that each wire is made and decodes to the outbox's next
frame; the queue is the outbox's list; the counters add up; and the request line is up exactly while
something other than an idle frame waits. -/
theorem transport_sends (calls : List TransportCall) :
    (Run.answers AudioTransport.call AudioTransport.init calls).map SendAnswer.decoded =
        Run.answers Outbox.call Outbox.empty calls ∧
      (AudioTransport.after calls).audioTx.toList = (Outbox.after calls).audio ∧
      (AudioTransport.after calls).audioTx.pushes = (AudioTransport.after calls).audioTx.pops +
        (AudioTransport.after calls).audioTx.overruns + BitVec.ofNat 32 (AudioTransport.after calls).audioTx.count ∧
      ((AudioTransport.after calls).requestAsserted = true ↔ (Outbox.after calls).pending) := by
  obtain ⟨hanswers, hlast⟩ := Run.answers_refine (R := Sends) (f := SendAnswer.decoded) (fun _ _ c h => h.call c) calls sends_init
  change Sends (AudioTransport.after calls) (Outbox.after calls) at hlast
  refine ⟨hanswers, hlast.audio, ?_, hlast.requestAsserted⟩
  rw [hlast.pushes, hlast.pops, hlast.overruns, hlast.count, (Outbox.after calls).ledger, BitVec.ofNat_add, BitVec.ofNat_add]

end OpenRef.Audio
