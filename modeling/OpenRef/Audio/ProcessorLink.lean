import OpenRef.Audio.Fg23Adapter
import OpenRef.Audio.Rt595Port
import OpenRef.Lib.Duplex
/-!
# The processor link

The FG23 adapter and the RT595 port on one bus. Each end starts a transfer in its own
time; when both have, the bus exchanges the two wires and then signals each end its
completion, which the end takes in from its main loop.

`reliable_fifo`: in every interleaving in which no hook fails, nothing times out and no
queue overruns, the frames popped at either end are the first of those queued at the
other, with at most the discontinuity flag added; and the port's request line is up
exactly while it has application data to send.
-/

namespace OpenRef.Audio

/-- What the bus has done with an end's transfer. -/
inductive BusPhase
  | idle | started | exchanged
deriving DecidableEq, Repr

/-- What the application has to send (openref_audio_transport.c:35-40, :48-54): the oldest queued audio
frame, or else the pending status. -/
def AudioTransport.application (t : AudioTransport) : Option AudioLinkFrame :=
  t.audioTx.toList.head?.or (if t.statusPending then some t.pendingStatus else none)

/-- The two ends on the bus, and what has been seen from outside: the audio frames queued and popped at each,
and the application data on the wire of the port's active transfer. -/
structure ProcessorLink where
  fg23 : AudioFg23
  port : SpiPort
  fg23Phase : BusPhase
  portPhase : BusPhase
  fg23Queued : List AudioLinkFrame
  fg23Popped : List AudioLinkFrame
  portQueued : List AudioLinkFrame
  portPopped : List AudioLinkFrame
  carried : Option AudioLinkFrame

/-- A call at one of the ends, a completion, or the exchange. -/
inductive LinkEvent
  | fg23Queue (frame : AudioLinkFrame)
  | fg23Process (nowUs : U32)
  | fg23Pop
  | fg23Complete
  | portQueue (frame : AudioLinkFrame)
  | portPoll (timestampUs : U32)
  | portPop
  | portComplete
  | exchange

namespace ProcessorLink

/-- The hooks of `process` on this link: the request hook reads the port's line, and the others succeed. -/
def hooks (w : ProcessorLink) (nowUs : U32) : AudioFg23.ProcessHooks :=
  ⟨nowUs, true, ⟨true, true, nowUs⟩, w.port.request, true⟩

/-- One event; a completion and an exchange that cannot happen change nothing. -/
def step (w : ProcessorLink) : LinkEvent → ProcessorLink
  | .fg23Queue frame =>
    let r := w.fg23.queue frame
    { w with fg23 := r.1, fg23Queued := if r.2 && frame.audio then w.fg23Queued ++ [frame] else w.fg23Queued }
  | .fg23Process nowUs =>
    let r := w.fg23.process (w.hooks nowUs)
    { w with
      fg23 := r.1
      fg23Phase := if !w.fg23.transferActive && r.1.transferActive then .started else w.fg23Phase }
  | .fg23Pop =>
    let r := w.fg23.transport.popAudio
    { w with fg23 := { w.fg23 with transport := r.1 }, fg23Popped := w.fg23Popped ++ r.2.toList }
  | .fg23Complete =>
    if w.fg23Phase = .exchanged then
      { w with fg23 := (w.fg23.transferCompleteIsr true).1, fg23Phase := .idle }
    else w
  | .portQueue frame =>
    let r := w.port.queue frame
    { w with port := r.1, portQueued := if r.2 && frame.audio then w.portQueued ++ [frame] else w.portQueued }
  | .portPoll timestampUs =>
    { w with
      port := w.port.poll timestampUs true
      portPhase := if (w.port.pollEnter timestampUs).2.isSome then .started else w.portPhase
      carried := if (w.port.pollEnter timestampUs).2.isSome then w.port.spi.transport.application else w.carried }
  | .portPop =>
    let r := w.port.popAudio
    { w with port := r.1, portPopped := w.portPopped ++ r.2.toList }
  | .portComplete =>
    if w.portPhase = .exchanged then
      { w with port := w.port.complete true (BitVec.ofNat 16 linkFrameBytes), portPhase := .idle }
    else w
  | .exchange =>
    if w.fg23Phase = .started ∧ w.portPhase = .started then
      { w with
        fg23 := { w.fg23 with rxWire := w.port.spi.tx }
        port := { w.port with spi := { w.port.spi with rx := w.fg23.txWire } }
        fg23Phase := .exchanged
        portPhase := .exchanged }
    else w

/-- The two ends after their initialisation. -/
def ofInit (a : AudioFg23) : ProcessorLink := ⟨a, SpiPort.init, .idle, .idle, [], [], [], [], none⟩

/-- The overruns counted in the four queues. -/
def overruns (w : ProcessorLink) : U32 × U32 × U32 × U32 :=
  (w.fg23.transport.audioTx.overruns, w.fg23.transport.audioRx.overruns, w.port.spi.transport.audioTx.overruns,
    w.port.spi.transport.audioRx.overruns)

/-- `process` finds a transfer that took too long. -/
def TimesOut (w : ProcessorLink) : LinkEvent → Prop
  | .fg23Process nowUs => w.fg23.resetAsserted = false ∧ w.fg23.completionPending = false ∧
      w.fg23.transferActive = true ∧ w.fg23.config.transferTimeoutUs < nowUs - w.fg23.transferStartedUs
  | _ => False

/-- No transfer times out and no queue overruns. -/
def Smooth (w : ProcessorLink) (e : LinkEvent) : Prop := ¬ w.TimesOut e ∧ (w.step e).overruns = w.overruns

/-- What is received of a frame: the frame, with a queue depth of its own and perhaps the discontinuity flag. -/
def Intact (sent got : AudioLinkFrame) : Prop := ∃ depth,
  got = { sent with producerQueueDepth := depth } ∨
    got = { sent with producerQueueDepth := depth, flags := sent.flags ||| linkFlagDiscontinuity }

/-- **A reliable FIFO in both directions**, and the request line. -/
structure Reliable (w : ProcessorLink) : Prop where
  toPort : ∃ sent, sent <+: w.fg23Queued ∧ List.Forall₂ Intact sent w.portPopped
  toFg23 : ∃ sent, sent <+: w.portQueued ∧ List.Forall₂ Intact sent w.fg23Popped
  request : w.port.request = (w.port.spi.transport.application.isSome ||
    (w.port.spi.transferActive && w.carried.isSome))
  carries : w.port.spi.transferActive = true → ∀ frame ∈ w.carried, Carries frame w.port.spi.tx
  idles : w.port.spi.transferActive = true → w.carried = none → CarriesStatus w.port.spi.tx

end ProcessorLink

/-! ## A transport as an end of the link -/

namespace AudioTransport

/-- The wire carries this audio frame. -/
def CarriesAudio (frame : AudioLinkFrame) (wire : LinkWire) : Prop := frame.audio = true ∧ Carries frame wire

/-- The end that a transport is, with the wires of its transfer. -/
def asEnd (t : AudioTransport) (queued popped : List AudioLinkFrame) (leaving arriving : Option LinkWire) :
    Duplex.End AudioLinkFrame LinkWire :=
  ⟨queued, t.audioTx.toList, leaving, arriving, t.audioRx.toList, popped⟩

/-- Steps of an end of the processor link. -/
abbrev LinkSteps := Duplex.Steps CarriesAudio CarriesStatus ProcessorLink.Intact

variable (t : AudioTransport) (queued popped : List AudioLinkFrame) (leaving arriving : Option LinkWire)

theorem queue_steps (frame : AudioLinkFrame) (ho : (t.queue frame).1.audioTx.overruns = t.audioTx.overruns) :
    LinkSteps (t.asEnd queued popped leaving arriving) ((t.queue frame).1.asEnd
      (if (t.queue frame).2 && frame.audio then queued ++ [frame] else queued) popped leaving arriving) := by
  obtain ⟨hqueued, hrx⟩ := t.queue_queued frame
  unfold asEnd
  rw [hrx.audioRx]
  cases hqueued with
  | refused ht ha =>
    rw [ht, ha, Bool.false_and, if_neg Bool.false_ne_true]
  | status hk _ hq _ =>
    rw [hq, hk, Bool.and_false, if_neg Bool.false_ne_true]
  | appended hk ha _ hq _ =>
    rw [hq, ha, hk, Bool.and_self, if_pos rfl]
    exact .single (.queue frame)
  | dropped _ _ _ _ _ _ _ ho' => exact absurd (ho'.symm.trans ho) (counter_ne _)

theorem popAudio_steps : LinkSteps (t.asEnd queued popped leaving arriving)
    (t.popAudio.1.asEnd queued (popped ++ t.popAudio.2.toList) leaving arriving) := by
  unfold asEnd popAudio
  dsimp only
  rcases t.audioRx.pop_cases with ⟨-, hq, hnone⟩ | ⟨oldest, hl, hsome, -⟩
  · rw [hq, hnone, Option.toList_none, List.append_nil]
  · rw [hsome]
    exact .single (.pop oldest _ hl)

theorem prepare_steps {t' : AudioTransport} {wire : LinkWire} (hp : Prepared t t' wire) (hrx : SameRx t t') :
    LinkSteps (t.asEnd queued popped none arriving) (t'.asEnd queued popped (some wire) arriving) := by
  unfold asEnd
  rw [hrx.audioRx]
  cases hp with
  | audio frame hq hc =>
    have haudio : frame.audio = true := t.txAudio frame (hq ▸ List.mem_cons_self)
    exact .single (.start wire [frame] _ rfl hq (.message ⟨haudio, hc⟩))
  | status hq hq' hc =>
    exact .single (.start wire [] _ rfl (hq.trans hq'.symm) (.blank hc))

theorem decode_valid {wire : LinkWire} {frame : AudioLinkFrame} (h : decode wire = some frame) :
    frame.valid = true := by
  unfold decode at h
  split at h
  · cases h
  · split at h
    · next hv =>
      cases h
      exact hv
    · cases h

/-- An audio frame that comes in is received intact. -/
theorem acceptRx_audio {frame : AudioLinkFrame} {wire : LinkWire} (hf : CarriesAudio frame wire)
    (ho : (t.acceptRx wire).1.audioRx.overruns = t.audioRx.overruns) :
    ∃ got, ProcessorLink.Intact frame got ∧ (t.acceptRx wire).1.audioRx.toList = t.audioRx.toList ++ [got] := by
  obtain ⟨haudio, depth, hd⟩ := hf
  have hvalid := decode_valid hd
  have hkind : frame.kind ≠ linkStatus := of_decide_eq_true haudio
  obtain ⟨source, hsource⟩ := exists_source hvalid hkind
  have hpush (got : AudioLinkFrame) (hv : got.valid = true)
      (ho : (t.audioRx.push got).1.overruns = t.audioRx.overruns) :
      (t.audioRx.push got).1.toList = t.audioRx.toList ++ [got] := by
    rcases t.audioRx.push_cases got with ⟨hno, -⟩ | ⟨-, -, ⟨-, hq, -⟩ | ⟨_, _, -, -, -, ho'⟩⟩
    · exact absurd (hno.symm.trans hv) Bool.false_ne_true
    · exact hq
    · exact absurd (ho'.symm.trans ho) (counter_ne _)
  unfold acceptRx at ho ⊢
  rw [hd] at ho ⊢
  dsimp only at ho ⊢
  rw [if_neg hkind, hsource] at ho ⊢
  dsimp only at ho ⊢
  split at ho <;> rename_i hgap
  · rw [if_pos hgap]
    exact ⟨_, ⟨depth, .inr rfl⟩, hpush _ hvalid ho⟩
  · rw [if_neg hgap]
    exact ⟨_, ⟨depth, .inl rfl⟩, hpush _ hvalid ho⟩

/-- A status that comes in leaves the audio alone. -/
theorem acceptRx_status {wire : LinkWire} (h : CarriesStatus wire) : (t.acceptRx wire).1.audioRx = t.audioRx := by
  obtain ⟨frame, hd, hk⟩ := h
  unfold acceptRx
  rw [hd]
  dsimp only
  rw [if_pos hk]

theorem accept_steps {wire : LinkWire} (ho : (t.acceptRx wire).1.audioRx.overruns = t.audioRx.overruns) :
    LinkSteps (t.asEnd queued popped leaving (some wire)) ((t.acceptRx wire).1.asEnd queued popped leaving none) := by
  unfold asEnd
  rw [t.acceptRx_audioTx wire]
  exact .single (.accept wire _ rfl (fun _ hc => t.acceptRx_audio hc ho) fun hb => by rw [t.acceptRx_status hb])

/-! What the application has to send. -/

theorem requestAsserted_eq : t.requestAsserted = t.application.isSome := by
  unfold requestAsserted application
  rw [Option.isSome_or, ← t.audioTx.length_toList]
  cases t.audioTx.toList <;> cases t.statusPending <;> rfl

theorem acceptRx_application (wire : LinkWire) : (t.acceptRx wire).1.application = t.application := by
  unfold application acceptRx
  split
  · rfl
  · split
    · rfl
    · split <;> rfl

/-- The next wire carries what the application has to send, or else a status. -/
theorem prepareTx_application {timestampUs : U32} {wire : LinkWire} (h : (t.prepareTx timestampUs).2 = some wire) :
    (∀ frame ∈ t.application, Carries frame wire) ∧ (t.application = none → CarriesStatus wire) := by
  have hsend : Carries (t.nextTx timestampUs).2 wire := by
    unfold prepareTx at h
    dsimp only at h
    split at h
    · cases h
    · next he =>
      rw [← Option.some.inj h]
      exact ⟨_, decode_encode he⟩
  have hall : t.application = some (t.nextTx timestampUs).2 ∨
      t.application = none ∧ (t.nextTx timestampUs).2.kind = linkStatus := by
    unfold nextTx application
    rcases t.audioTx.pop_cases with ⟨hl, -, hp⟩ | ⟨oldest, hl, hp, -⟩
    · rw [hp, hl]
      by_cases hs : t.statusPending = true
      · rw [if_pos hs]
        dsimp only
        rw [if_pos hs]
        exact .inl rfl
      · rw [if_neg hs]
        dsimp only
        rw [if_neg hs]
        exact .inr ⟨rfl, rfl⟩
    · rw [hp, hl]
      exact .inl rfl
  rcases hall with hsome | ⟨hnone, hkind⟩
  · rw [hsome]
    refine ⟨fun frame hf => ?_, fun hno => absurd hno (Option.some_ne_none _)⟩
    rw [← Option.some.inj hf]
    exact hsend
  · rw [hnone]
    refine ⟨fun frame hf => absurd hf (Option.not_mem_none frame), fun _ => ?_⟩
    obtain ⟨depth, hd⟩ := hsend
    exact ⟨_, hd, hkind⟩

end AudioTransport

namespace ProcessorLink

/-! ## The invariant -/

/-- The FG23 as an end of the link. -/
def fg23End (w : ProcessorLink) : Duplex.End AudioLinkFrame LinkWire :=
  w.fg23.transport.asEnd w.fg23Queued w.fg23Popped (if w.fg23Phase = .started then some w.fg23.txWire else none)
    (if w.fg23Phase = .exchanged ∨ w.fg23.completionPending = true then some w.fg23.rxWire else none)

/-- The port as an end of the link. -/
def portEnd (w : ProcessorLink) : Duplex.End AudioLinkFrame LinkWire :=
  w.port.spi.transport.asEnd w.portQueued w.portPopped (if w.portPhase = .started then some w.port.spi.tx else none)
    (if w.portPhase = .exchanged ∨ w.port.spi.completionPending = true then some w.port.spi.rx else none)

/-- An end's flags agree with what the bus has done. -/
structure Flags (phase : BusPhase) (active pending : Bool) : Prop where
  active : active = (decide (phase ≠ .idle) || pending)
  pending : pending = true → phase = .idle

theorem Flags.idle {phase : BusPhase} {active pending : Bool} (h : Flags phase active pending)
    (ha : active = false) : phase = .idle ∧ pending = false := by
  have hflag := h.active
  rw [ha, eq_comm, Bool.or_eq_false_iff, decide_eq_false_iff_not, not_not] at hflag
  exact hflag

theorem Flags.busy {phase : BusPhase} {active pending : Bool} (h : Flags phase active pending)
    (hp : phase ≠ .idle) : active = true ∧ pending = false := by
  refine ⟨?_, ?_⟩
  · rw [h.active, decide_eq_true hp, Bool.true_or]
  · cases hpending : pending with
    | false => rfl
    | true => exact absurd (h.pending hpending) hp

/-- The request line is as `update_request` would set it, and the active transfer's wire is known. -/
structure Requests (p : SpiPort) (carried : Option AudioLinkFrame) : Prop where
  line : p.request = ((p.spi.transferActive && p.spi.transferRequested) || p.spi.transport.requestAsserted)
  requested : p.spi.transferActive = true → p.spi.transferRequested = carried.isSome
  carries : p.spi.transferActive = true → ∀ frame ∈ carried, Carries frame p.spi.tx
  idles : p.spi.transferActive = true → carried = none → CarriesStatus p.spi.tx

/-- Both ends agree with the bus, and both directions are in order. -/
structure Steady (w : ProcessorLink) : Prop where
  fg23 : Flags w.fg23Phase w.fg23.transferActive w.fg23.completionPending
  fg23Success : w.fg23.completionPending = true → w.fg23.completionSuccess = true
  fg23Prepared : w.fg23.txPrepared = false
  port : Flags w.portPhase w.port.spi.transferActive w.port.spi.completionPending
  portSuccess : w.port.spi.completionPending = true →
    w.port.spi.completionSuccess = true ∧ w.port.spi.completionBytes = BitVec.ofNat 16 linkFrameBytes
  requests : Requests w.port w.carried
  toPort : Duplex.InOrder AudioTransport.CarriesAudio CarriesStatus Intact w.fg23End w.portEnd
  toFg23 : Duplex.InOrder AudioTransport.CarriesAudio CarriesStatus Intact w.portEnd w.fg23End

theorem Steady.reliable {w : ProcessorLink} (h : Steady w) : Reliable w := by
  refine ⟨h.toPort.popped_prefix, h.toFg23.popped_prefix, ?_, h.requests.carries, h.requests.idles⟩
  rw [h.requests.line, AudioTransport.requestAsserted_eq, Bool.or_comm]
  cases ha : w.port.spi.transferActive with
  | false => rfl
  | true => rw [h.requests.requested ha]

/-! ## Steps of the FG23 -/

/-- A step of the FG23 alone. -/
theorem Steady.fg23_step {w : ProcessorLink} (h : Steady w) (queued popped : List AudioLinkFrame) {a : AudioFg23}
    {phase : BusPhase} (hf : Flags phase a.transferActive a.completionPending)
    (hs : a.completionPending = true → a.completionSuccess = true) (hp : a.txPrepared = false)
    (hsteps : AudioTransport.LinkSteps w.fg23End
      (fg23End { w with fg23 := a, fg23Phase := phase, fg23Queued := queued, fg23Popped := popped })) :
    Steady { w with fg23 := a, fg23Phase := phase, fg23Queued := queued, fg23Popped := popped } :=
  ⟨hf, hs, hp, h.port, h.portSuccess, h.requests, h.toPort.senders hsteps, h.toFg23.receivers hsteps⟩

theorem Steady.fg23Queue {w : ProcessorLink} (h : Steady w) (frame : AudioLinkFrame)
    (hs : w.Smooth (.fg23Queue frame)) : Steady (w.step (.fg23Queue frame)) := by
  have ho : (w.fg23.transport.queue frame).1.audioTx.overruns = w.fg23.transport.audioTx.overruns :=
    congrArg (·.1) hs.2
  exact h.fg23_step _ w.fg23Popped h.fg23 h.fg23Success h.fg23Prepared
    (w.fg23.transport.queue_steps _ _ _ _ frame ho)

theorem Steady.fg23Pop {w : ProcessorLink} (h : Steady w) : Steady (w.step .fg23Pop) :=
  h.fg23_step w.fg23Queued _ h.fg23 h.fg23Success h.fg23Prepared (w.fg23.transport.popAudio_steps _ _ _ _)

theorem Steady.fg23Complete {w : ProcessorLink} (h : Steady w) : Steady (w.step .fg23Complete) := by
  unfold step
  dsimp only
  split
  · next hphase =>
    obtain ⟨hactive, hpending⟩ := h.fg23.busy (by rw [hphase]; decide)
    unfold AudioFg23.transferCompleteIsr
    rw [hactive, hpending, Bool.not_true, Bool.or_self, if_neg Bool.false_ne_true]
    refine h.fg23_step w.fg23Queued w.fg23Popped ⟨rfl, fun _ => rfl⟩ (fun _ => rfl) h.fg23Prepared ?_
    unfold fg23End
    dsimp only
    rw [if_neg (by rw [hphase]; decide), if_pos (.inl hphase), if_neg (by decide), if_pos (.inr rfl)]
  · exact h

/-- What a call of `process` does when no hook fails and nothing times out. -/
inductive Processed (a r : AudioFg23) : Prop
  | quiet (ht : r.transport = a.transport) (hw : r.txWire = a.txWire) (hr : r.rxWire = a.rxWire)
    (ha : r.transferActive = a.transferActive) (hp : r.completionPending = a.completionPending)
    (hs : r.completionSuccess = a.completionSuccess) (htx : r.txPrepared = a.txPrepared)
  | taken (hp : a.completionPending = true) (ht : r.transport = (a.transport.acceptRx a.rxWire).1)
    (hw : r.txWire = a.txWire) (ha : r.transferActive = false) (hp' : r.completionPending = false)
    (htx : r.txPrepared = a.txPrepared)
  | started (ha : a.transferActive = false) (hp : a.completionPending = false)
    (hprep : AudioTransport.Prepared a.transport r.transport r.txWire)
    (hrx : AudioTransport.SameRx a.transport r.transport)
    (ha' : r.transferActive = true) (hp' : r.completionPending = false) (htx : r.txPrepared = false)

theorem startNext_flags (a : AudioFg23) (nowUs : U32) (peerRequest : Bool) :
    ((a.startNext nowUs peerRequest).2 = none → (a.startNext nowUs peerRequest).1.transferActive = true) ∧
      (a.startNext nowUs peerRequest).1.completionPending = a.completionPending := by
  unfold AudioFg23.startNext
  split
  · exact ⟨fun _ => rfl, rfl⟩
  · split
    · exact ⟨nofun, rfl⟩
    · dsimp only
      split
      · exact ⟨nofun, rfl⟩
      · exact ⟨fun _ => rfl, rfl⟩

theorem process_processed (a : AudioFg23) (h : AudioFg23.ProcessHooks) (hrelease : h.releaseOk = true)
    (hstart : h.startOk = true) (hsuccess : a.completionPending = true → a.completionSuccess = true)
    (hprepared : a.txPrepared = false)
    (htime : ¬ (a.resetAsserted = false ∧ a.completionPending = false ∧ a.transferActive = true ∧
      a.config.transferTimeoutUs < h.nowUs - a.transferStartedUs)) : Processed a (a.process h).1 := by
  unfold AudioFg23.process
  cases hreset : a.resetAsserted with
  | true =>
    rw [if_pos rfl, AudioFg23.releaseReset, hrelease]
    split
    · exact .quiet rfl rfl rfl rfl rfl rfl rfl
    · exact .quiet rfl rfl rfl rfl rfl rfl rfl
  | false =>
    rw [if_neg Bool.false_ne_true]
    cases hpending : a.completionPending with
    | true =>
      rw [if_pos rfl, AudioFg23.takeCompletion, hsuccess hpending]
      exact .taken hpending rfl rfl rfl rfl rfl
    | false =>
      rw [if_neg Bool.false_ne_true]
      cases hactive : a.transferActive with
      | true =>
        have hwait : h.nowUs - a.transferStartedUs ≤ a.config.transferTimeoutUs :=
          BitVec.not_lt.1 fun hlt => htime ⟨hreset, hpending, hactive, hlt⟩
        rw [if_pos rfl, AudioFg23.awaitTransfer, if_pos hwait]
        exact .quiet rfl rfl rfl rfl rfl rfl rfl
      | false =>
        rw [if_neg Bool.false_ne_true]
        dsimp only
        cases a.startNext_started h.nowUs h.peerRequest with
        | retried hp => exact absurd (hprepared.symm.trans hp) Bool.false_ne_true
        | quiet _ hr ha =>
          rw [hr, ha]
          exact .quiet rfl rfl rfl rfl rfl rfl rfl
        | prepared _ hr _ hw hrx =>
          obtain ⟨hstarted, hkeep⟩ := startNext_flags a h.nowUs h.peerRequest
          rw [hr, hstart]
          exact .started hactive hpending hw hrx (hstarted hr) (hkeep.trans hpending) rfl

/-- **Step: `process`.** -/
theorem Steady.fg23Process {w : ProcessorLink} (h : Steady w) (nowUs : U32) (hs : w.Smooth (.fg23Process nowUs)) :
    Steady (w.step (.fg23Process nowUs)) := by
  obtain ⟨htime, hoverruns⟩ := hs
  have hprocessed := process_processed w.fg23 (w.hooks nowUs) rfl rfl h.fg23Success h.fg23Prepared htime
  have hrx : (w.fg23.process (w.hooks nowUs)).1.transport.audioRx.overruns = w.fg23.transport.audioRx.overruns :=
    congrArg (·.2.1) hoverruns
  unfold step
  dsimp only
  generalize (w.fg23.process (w.hooks nowUs)).1 = r at hprocessed hrx ⊢
  cases hprocessed with
  | quiet ht hw hr ha hp hss htx =>
    have hphase : (if !w.fg23.transferActive && r.transferActive then .started else w.fg23Phase) = w.fg23Phase := by
      rw [ha, Bool.not_and_self, if_neg Bool.false_ne_true]
    rw [hphase]
    refine h.fg23_step w.fg23Queued w.fg23Popped ?_ ?_ (htx.trans h.fg23Prepared) ?_
    · rw [ha, hp]
      exact h.fg23
    · rw [hp, hss]
      exact h.fg23Success
    · unfold fg23End
      dsimp only
      rw [ht, hw, hr, hp]
  | taken hpending ht hw ha hp' htx =>
    have hidle := h.fg23.pending hpending
    have hphase : (if !w.fg23.transferActive && r.transferActive then .started else w.fg23Phase) = BusPhase.idle := by
      rw [ha, Bool.and_false, if_neg Bool.false_ne_true, hidle]
    rw [hphase]
    refine h.fg23_step w.fg23Queued w.fg23Popped ⟨by rw [ha, hp']; rfl, fun _ => rfl⟩ ?_ (htx.trans h.fg23Prepared) ?_
    · rw [hp']
      nofun
    · unfold fg23End
      dsimp only
      rw [hidle, if_neg (by decide), if_pos (.inr hpending), if_neg (by decide), hp', if_neg (by decide), ht]
      rw [ht] at hrx
      exact AudioTransport.accept_steps _ _ _ _ hrx
  | started hactive hpending hprep hsame ha' hp' htx =>
    have hidle : w.fg23Phase = .idle := (h.fg23.idle hactive).1
    have hphase : (if !w.fg23.transferActive && r.transferActive then .started else w.fg23Phase) =
        BusPhase.started := by
      rw [hactive, ha']
      rfl
    rw [hphase]
    refine h.fg23_step w.fg23Queued w.fg23Popped ⟨by rw [ha', hp']; rfl, ?_⟩ ?_ htx ?_
    · rw [hp']
      nofun
    · rw [hp']
      nofun
    · unfold fg23End
      dsimp only
      rw [hidle, if_neg (by decide), hpending, if_neg (by decide), if_pos rfl, hp', if_neg (by decide)]
      exact AudioTransport.prepare_steps _ _ _ _ hprep hsame

/-! ## Steps of the port -/

/-- A step of the port alone. -/
theorem Steady.port_step {w : ProcessorLink} (h : Steady w) (queued popped : List AudioLinkFrame)
    (carried : Option AudioLinkFrame) {p : SpiPort} {phase : BusPhase}
    (hf : Flags phase p.spi.transferActive p.spi.completionPending)
    (hs : p.spi.completionPending = true →
      p.spi.completionSuccess = true ∧ p.spi.completionBytes = BitVec.ofNat 16 linkFrameBytes)
    (hr : Requests p carried)
    (hsteps : AudioTransport.LinkSteps w.portEnd (portEnd
      { w with port := p, portPhase := phase, portQueued := queued, portPopped := popped, carried := carried })) :
    Steady
      { w with port := p, portPhase := phase, portQueued := queued, portPopped := popped, carried := carried } :=
  ⟨h.fg23, h.fg23Success, h.fg23Prepared, hf, hs, hr, h.toPort.receivers hsteps, h.toFg23.senders hsteps⟩

/-- A frame is queued at the port: a refused one leaves everything alone. -/
theorem port_queue (p : SpiPort) (frame : AudioLinkFrame) :
    (p.queue frame).2 = (p.spi.transport.queue frame).2 ∧
      (p.queue frame).1.spi = { p.spi with transport := (p.spi.transport.queue frame).1 } ∧
      ((p.queue frame).1 = p ∨ (p.queue frame).1 =
        SpiPort.updateRequest { p with spi := { p.spi with transport := (p.spi.transport.queue frame).1 } }) := by
  unfold SpiPort.queue
  dsimp only
  cases ha : (p.spi.transport.queue frame).2 with
  | true => exact ⟨rfl, rfl, .inr rfl⟩
  | false =>
    have hsame : (p.spi.transport.queue frame).1 = p.spi.transport := by
      cases (p.spi.transport.queue_queued frame).1 with
      | refused ht _ => exact ht
      | status _ ha' => exact absurd (ha.symm.trans ha') Bool.false_ne_true
      | appended _ ha' => exact absurd (ha.symm.trans ha') Bool.false_ne_true
      | dropped _ ha' => exact absurd (ha.symm.trans ha') Bool.false_ne_true
    exact ⟨rfl, rfl, .inl (by rw [hsame]; rfl)⟩

theorem Steady.portQueue {w : ProcessorLink} (h : Steady w) (frame : AudioLinkFrame)
    (hs : w.Smooth (.portQueue frame)) : Steady (w.step (.portQueue frame)) := by
  obtain ⟨hflag, hport, hline⟩ := port_queue w.port frame
  have ho : (w.port.spi.transport.queue frame).1.audioTx.overruns = w.port.spi.transport.audioTx.overruns := by
    have hover : (w.port.queue frame).1.spi.transport.audioTx.overruns = w.port.spi.transport.audioTx.overruns :=
      congrArg (·.2.2.1) hs.2
    rwa [hport] at hover
  have hrequests : Requests (w.port.queue frame).1 w.carried := by
    rcases hline with hsame | hupdated
    · rw [hsame]
      exact h.requests
    · rw [hupdated]
      exact ⟨rfl, h.requests.requested, h.requests.carries, h.requests.idles⟩
  unfold step
  dsimp only
  refine h.port_step _ w.portPopped w.carried ?_ ?_ hrequests ?_
  · rw [hport]
    exact h.port
  · rw [hport]
    exact h.portSuccess
  · unfold portEnd
    dsimp only
    rw [hport, hflag]
    exact w.port.spi.transport.queue_steps _ _ _ _ frame ho

theorem Steady.portPop {w : ProcessorLink} (h : Steady w) : Steady (w.step .portPop) :=
  h.port_step w.portQueued _ w.carried h.port h.portSuccess
    ⟨h.requests.line, h.requests.requested, h.requests.carries, h.requests.idles⟩
    (w.port.spi.transport.popAudio_steps _ _ _ _)

theorem Steady.portComplete {w : ProcessorLink} (h : Steady w) : Steady (w.step .portComplete) := by
  unfold step
  dsimp only
  split
  · next hphase =>
    obtain ⟨hactive, hpending⟩ := h.port.busy (by rw [hphase]; decide)
    unfold SpiPort.complete
    rw [if_neg (by rw [hactive, hpending]; decide)]
    refine h.port_step w.portQueued w.portPopped w.carried ⟨hactive, fun _ => rfl⟩ (fun _ => ⟨rfl, rfl⟩)
      ⟨h.requests.line, h.requests.requested, h.requests.carries, h.requests.idles⟩ ?_
    unfold portEnd
    dsimp only
    rw [if_neg (by rw [hphase]; decide), if_pos (.inl hphase), if_neg (by decide), if_pos (.inr rfl)]
  · exact h

/-- An idle port arms: the next transfer is started with the wire that was prepared. -/
theorem arm_started (p : SpiPort) (timestampUs : U32) (ha : p.spi.transferActive = false) : ∃ wire t,
    p.armEnter timestampUs = ({ p with spi := { p.spi with
      transferRequested := p.spi.transport.requestAsserted
      transport := t
      tx := wire } }, some wire) ∧
    AudioTransport.Prepared p.spi.transport t wire ∧ AudioTransport.SameRx p.spi.transport t ∧
    (∀ frame ∈ p.spi.transport.application, Carries frame wire) ∧
    (p.spi.transport.application = none → CarriesStatus wire) := by
  obtain ⟨wire, hw, hp, hrx, -⟩ := p.spi.transport.prepareTx_prepared timestampUs
  obtain ⟨hcarries, hidles⟩ := p.spi.transport.prepareTx_application hw
  refine ⟨wire, (p.spi.transport.prepareTx timestampUs).1, ?_, hp, hrx, hcarries, hidles⟩
  unfold SpiPort.armEnter
  rw [if_neg (by rw [ha]; decide)]
  dsimp only
  rw [hw]

/-- A port that is not busy starts its next transfer; `t` is its transport once a completion was taken in. -/
theorem Steady.portStart {w : ProcessorLink} (h : Steady w) {q : SpiPort} (timestampUs : U32) {t : AudioTransport}
    (hactive : q.spi.transferActive = false) (hpending : q.spi.completionPending = false)
    (ht : q.spi.transport = t) (happ : t.application = w.port.spi.transport.application)
    (hsteps : (q.armEnter timestampUs).1.armStarted.spi.transport.audioRx = t.audioRx →
      AudioTransport.LinkSteps w.portEnd (t.asEnd w.portQueued w.portPopped none none)) :
    (q.armEnter timestampUs).2.isSome = true ∧ Steady { w with
      port := (q.armEnter timestampUs).1.armStarted
      portPhase := .started
      carried := w.port.spi.transport.application } := by
  obtain ⟨wire, t', harm, hp, hrx, hcarries, hidles⟩ := arm_started q timestampUs hactive
  rw [ht] at hp hrx hcarries hidles harm
  rw [harm] at hsteps ⊢
  refine ⟨rfl, h.port_step w.portQueued w.portPopped _ ⟨rfl, ?_⟩ ?_ ⟨rfl, fun _ => ?_, fun _ => ?_, fun _ => ?_⟩ ?_⟩
  · intro hno
    exact absurd (hpending.symm.trans hno) Bool.false_ne_true
  · intro hno
    exact absurd (hpending.symm.trans hno) Bool.false_ne_true
  · rw [← happ]
    exact t.requestAsserted_eq
  · rw [← happ]
    exact hcarries
  · rw [← happ]
    exact hidles
  · refine (hsteps hrx.audioRx).trans ?_
    unfold portEnd
    dsimp only
    rw [if_pos rfl, if_neg (by simp [SpiPort.armStarted, hpending])]
    exact AudioTransport.prepare_steps _ _ _ _ hp hrx

theorem poll_started {p q : SpiPort} {timestampUs : U32} (hq : p.pollEnter timestampUs = q.armEnter timestampUs)
    (ha : q.spi.transferActive = false) : p.poll timestampUs true = (q.armEnter timestampUs).1.armStarted := by
  obtain ⟨wire, t, harm, -⟩ := arm_started q timestampUs ha
  rw [SpiPort.poll, hq, harm]
  rfl

/-- **Step: `poll`.** It takes a completion in, and starts the next transfer unless one is active. -/
theorem Steady.portPoll {w : ProcessorLink} (h : Steady w) (timestampUs : U32) (hs : w.Smooth (.portPoll timestampUs)) :
    Steady (w.step (.portPoll timestampUs)) := by
  have hrx : (w.port.poll timestampUs true).spi.transport.audioRx.overruns =
      w.port.spi.transport.audioRx.overruns := congrArg (·.2.2.2) hs.2
  unfold step
  dsimp only
  cases hpending : w.port.spi.completionPending with
  | true =>
    obtain ⟨hsuccess, hbytes⟩ := h.portSuccess hpending
    have hidle := h.port.pending hpending
    have htaken : w.port.takeCompletion.spi.transport = (w.port.spi.transport.acceptRx w.port.spi.rx).1 := by
      unfold SpiPort.takeCompletion
      dsimp only
      rw [hsuccess, Bool.not_true, if_neg Bool.false_ne_true, if_neg (not_not.2 hbytes)]
    have henter : w.port.pollEnter timestampUs = w.port.takeCompletion.updateRequest.armEnter timestampUs := by
      unfold SpiPort.pollEnter
      rw [hpending, if_pos rfl]
    obtain ⟨-, hactive, hpending'⟩ := w.port.takeCompletion_frame
    rw [poll_started henter hactive] at hrx ⊢
    obtain ⟨hstart, hsteady⟩ := h.portStart (q := w.port.takeCompletion.updateRequest) timestampUs hactive hpending'
      htaken (w.port.spi.transport.acceptRx_application w.port.spi.rx) (by
        intro hsame
        unfold portEnd
        rw [hidle, if_neg (by decide), if_pos (.inr hpending)]
        exact AudioTransport.accept_steps _ _ _ _ (hsame ▸ hrx))
    rw [henter, if_pos hstart, if_pos hstart]
    exact hsteady
  | false =>
    cases hactive : w.port.spi.transferActive with
    | true =>
      -- the transfer is still waiting for its master
      have henter : w.port.pollEnter timestampUs = (w.port.updateRequest, none) := by
        unfold SpiPort.pollEnter
        rw [hpending, if_neg Bool.false_ne_true]
        dsimp only
        unfold SpiPort.armEnter
        rw [SpiPort.updateRequest_spi, if_pos hactive]
      have hpoll : w.port.poll timestampUs true = w.port.updateRequest := by
        rw [SpiPort.poll, henter]
      rw [hpoll, henter]
      exact h.port_step w.portQueued w.portPopped w.carried h.port h.portSuccess
        ⟨rfl, h.requests.requested, h.requests.carries, h.requests.idles⟩ .refl
    | false =>
      have hidle : w.portPhase = .idle := (h.port.idle hactive).1
      have henter : w.port.pollEnter timestampUs = w.port.updateRequest.armEnter timestampUs := by
        unfold SpiPort.pollEnter
        rw [hpending, if_neg Bool.false_ne_true]
      rw [poll_started henter hactive]
      obtain ⟨hstart, hsteady⟩ := h.portStart (q := w.port.updateRequest) timestampUs hactive hpending rfl rfl (by
        intro _
        unfold portEnd
        rw [hidle, if_neg (by decide), if_neg (by rw [hpending]; decide)]
        exact .refl)
      rw [henter, if_pos hstart, if_pos hstart]
      exact hsteady

/-! ## The exchange, and whole runs -/

/-- **Step: the exchange.** Each wire leaves one end and arrives at the other. -/
theorem Steady.exchange {w : ProcessorLink} (h : Steady w) : Steady (w.step .exchange) := by
  unfold step
  dsimp only
  split
  · next hphase =>
    obtain ⟨hf, hp⟩ := hphase
    obtain ⟨hfa, hfp⟩ := h.fg23.busy (by rw [hf]; decide)
    obtain ⟨hpa, hpp⟩ := h.port.busy (by rw [hp]; decide)
    have hfend : w.fg23End = w.fg23.transport.asEnd w.fg23Queued w.fg23Popped (some w.fg23.txWire) none := by
      rw [fg23End, hf, hfp, if_pos rfl, if_neg (by decide)]
    have hpend : w.portEnd = w.port.spi.transport.asEnd w.portQueued w.portPopped (some w.port.spi.tx) none := by
      rw [portEnd, hp, hpp, if_pos rfl, if_neg (by decide)]
    have hto := h.toPort
    have hfrom := h.toFg23
    rw [hfend, hpend] at hto hfrom
    refine ⟨⟨hfa, fun hno => absurd (hfp.symm.trans hno) Bool.false_ne_true⟩, h.fg23Success, h.fg23Prepared,
      ⟨hpa, fun hno => absurd (hpp.symm.trans hno) Bool.false_ne_true⟩, h.portSuccess,
      ⟨h.requests.line, h.requests.requested, h.requests.carries, h.requests.idles⟩, ?_, ?_⟩
    · unfold fg23End portEnd
      dsimp only
      rw [if_neg (by decide), if_pos (.inl rfl), if_neg (by decide), if_pos (.inl rfl)]
      exact hto.exchange rfl (some w.port.spi.tx) none
    · unfold fg23End portEnd
      dsimp only
      rw [if_neg (by decide), if_pos (.inl rfl), if_neg (by decide), if_pos (.inl rfl)]
      exact hfrom.exchange rfl (some w.fg23.txWire) none
  · exact h

/-- **Step.** -/
theorem step_steady (w : ProcessorLink) (e : LinkEvent) (h : Steady w) (hs : w.Smooth e) : Steady (w.step e) := by
  cases e with
  | fg23Queue frame => exact h.fg23Queue frame hs
  | fg23Process nowUs => exact h.fg23Process nowUs hs
  | fg23Pop => exact h.fg23Pop
  | fg23Complete => exact h.fg23Complete
  | portQueue frame => exact h.portQueue frame hs
  | portPoll timestampUs => exact h.portPoll timestampUs hs
  | portPop => exact h.portPop
  | portComplete => exact h.portComplete
  | exchange => exact h.exchange

/-- The ends just initialised; the FG23 holds the port in its first reset. -/
theorem ofInit_steady {config : AudioFg23Config} {reset : ResetHooks} {a : AudioFg23}
    (h : AudioFg23.init config reset = some a) : Steady (ofInit a) := by
  have hinit : a = ((AudioFg23.blank config).assertReset reset).1 := by
    unfold AudioFg23.init at h
    split at h
    · cases h
    · dsimp only at h
      split at h
      · cases h
      · exact (Option.some.inj h).symm
  obtain ⟨ht, -, hp, -, hactive, -, -⟩ := (AudioFg23.blank config).assertReset_frame reset
  rw [← hinit] at ht hp hactive
  have hpending : a.completionPending = false := by
    rw [hinit]
    unfold AudioFg23.assertReset
    dsimp only [AudioFg23.blank]
    split <;> rfl
  have hfend : (ofInit a).fg23End = AudioTransport.init.asEnd [] [] none none := by
    unfold fg23End ofInit
    dsimp only
    rw [ht, hpending, if_neg (by decide), if_neg (by decide)]
    rfl
  have hpend : (ofInit a).portEnd = AudioTransport.init.asEnd [] [] none none := rfl
  have horder : Duplex.InOrder AudioTransport.CarriesAudio CarriesStatus Intact
      (AudioTransport.init.asEnd [] [] none none) (AudioTransport.init.asEnd [] [] none none) :=
    ⟨[], [], [], rfl, .nil, .none, .none⟩
  have hflags : Flags .idle a.transferActive a.completionPending := by
    rw [hactive, hpending]
    exact ⟨rfl, nofun⟩
  refine ⟨hflags, fun hno => absurd (hpending.symm.trans hno) Bool.false_ne_true, hp, ⟨rfl, nofun⟩, nofun,
    ⟨rfl, nofun, nofun, nofun⟩, ?_, ?_⟩
  · rw [hfend, hpend]
    exact horder
  · rw [hfend, hpend]
    exact horder

/-- **Main result.** The link is a reliable FIFO in both directions, and the request line is up exactly while the
port has application data: after every run in which no hook fails, nothing times out and no queue overruns. -/
theorem reliable_fifo {config : AudioFg23Config} {reset : ResetHooks} {a : AudioFg23}
    (h : AudioFg23.init config reset = some a) (events : List LinkEvent)
    (hs : Run.Along step Smooth (ofInit a) events) : Reliable (events.foldl step (ofInit a)) :=
  (Run.inv_along step_steady (ofInit a) events (ofInit_steady h) hs).reliable

instance (w : ProcessorLink) : ∀ e, Decidable (w.TimesOut e)
  | .fg23Process _ => inferInstanceAs (Decidable (_ ∧ _ ∧ _ ∧ _))
  | .fg23Queue _ | .fg23Pop | .fg23Complete | .portQueue _ | .portPoll _ | .portPop | .portComplete | .exchange =>
    .isFalse not_false

instance (w : ProcessorLink) (e : LinkEvent) : Decidable (w.Smooth e) := inferInstanceAs (Decidable (_ ∧ _))

/-- A frame as the native test queues it (openref_audio_link_fg23_test.c:91-101). -/
def linkFrame (kind : U8) (sequence : U16) : AudioLinkFrame :=
  { AudioLinkFrame.zero with
    kind := kind
    sourceId := 1
    flags := linkFlagFrame0Valid ||| linkFlagFrame1Valid
    sequence := sequence }

/-- Two transfers: the port's first wire is a status, and its second the frame queued meanwhile. -/
def linkRun : List LinkEvent :=
  [.portPoll 0, .fg23Process 100, .fg23Queue (linkFrame linkLocalAudio 9), .portQueue (linkFrame linkLocalAudio 4),
    .fg23Process 101, .exchange, .fg23Complete, .portComplete, .portPoll 102, .portPop, .fg23Process 103,
    .fg23Process 104, .exchange, .portComplete, .fg23Complete, .fg23Process 105, .fg23Pop]

set_option maxRecDepth 2000 in
theorem reliable_fifo_both : ∃ a, AudioFg23.init ⟨100, 500⟩ ⟨true, true, 0⟩ = some a ∧
    (linkRun.foldl step (ofInit a)).portPopped = [linkFrame linkLocalAudio 9] ∧
      (linkRun.foldl step (ofInit a)).fg23Popped = [linkFrame linkLocalAudio 4] ∧
        Reliable (linkRun.foldl step (ofInit a)) :=
  ⟨_, rfl, by decide +kernel, by decide +kernel,
    reliable_fifo (show AudioFg23.init ⟨100, 500⟩ ⟨true, true, 0⟩ = some _ from rfl) linkRun (by decide +kernel)⟩

end ProcessorLink

end OpenRef.Audio
