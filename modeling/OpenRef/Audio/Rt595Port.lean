import Mathlib.Data.List.Forall2
import OpenRef.Audio.Transport
import OpenRef.Lib.Ledger
import OpenRef.Lib.Run
/-!
# The RT595 end of the processor link (openref_rt595_audio_spi.c)

The port is an SPI slave: it arms one transfer ahead, with a wire taken from its
transport, and waits for the master to clock it. `poll` takes a completion and arms
again; `complete` is the interrupt.

`arm` takes the frame out of the queue before it knows whether the transfer starts,
and when it does not start the frame is gone. `accounted_iff`: along a run every
accepted frame is waiting, handed to one start that succeeded, counted as dropped or
discarded by a reset, exactly when no start fails with audio on its wire.
-/

namespace OpenRef.Audio

/-- `openref_rt595_audio_spi_t` once initialised, the operations left out. -/
structure Rt595AudioSpi where
  transport : AudioTransport
  tx : LinkWire
  rx : LinkWire
  completionBytes : U16
  completionPending : Bool
  completionSuccess : Bool
  transferActive : Bool
  transferRequested : Bool
  transfersStarted : U32
  transfersCompleted : U32
  startFailures : U32
  transferErrors : U32
  shortTransfers : U32
  duplicateCompletions : U32
  resets : U32

/-- The port and its request line, which `ops.set_request` drives. -/
structure SpiPort where
  spi : Rt595AudioSpi
  request : Bool

namespace SpiPort

/-- `openref_rt595_audio_spi_init` (:39-51). -/
def init : SpiPort :=
  ⟨⟨AudioTransport.init, Bytes.zero _, Bytes.zero _, 0, false, false, false, false, 0, 0, 0, 0, 0, 0, 0⟩, false⟩

/-- `update_request` (:14-19). -/
def updateRequest (p : SpiPort) : SpiPort :=
  { p with request := (p.spi.transferActive && p.spi.transferRequested) || p.spi.transport.requestAsserted }

/-- The end of `arm` when nothing was started (:29-32). -/
def armFailed (p : SpiPort) : SpiPort :=
  updateRequest { p with spi := { p.spi with
    transferRequested := false
    startFailures := incrementSaturating p.spi.startFailures } }

/-- The end of `arm` after a start (:34-36). -/
def armStarted (p : SpiPort) : SpiPort :=
  updateRequest { p with spi := { p.spi with
    transferActive := true
    transfersStarted := incrementSaturating p.spi.transfersStarted } }

/-- `arm` (:21-27) up to the call of `ops.start`, and the wire it is called with, if it is. -/
def armEnter (p : SpiPort) (timestampUs : U32) : SpiPort × Option LinkWire :=
  if p.spi.transferActive then (p, none)
  else
    let requested := p.spi.transport.requestAsserted
    let r := p.spi.transport.prepareTx timestampUs
    let p := { p with spi := { p.spi with transferRequested := requested, transport := r.1 } }
    match r.2 with
    | none => (p.armFailed, none)
    | some wire => ({ p with spi := { p.spi with tx := wire } }, some wire)

/-- `openref_rt595_audio_spi_queue` (:53-60). -/
def queue (p : SpiPort) (frame : AudioLinkFrame) : SpiPort × Bool :=
  let r := p.spi.transport.queue frame
  let p := { p with spi := { p.spi with transport := r.1 } }
  if !r.2 then (p, false) else (p.updateRequest, true)

/-- `openref_rt595_audio_spi_complete` (:62-73). -/
def complete (p : SpiPort) (success : Bool) (bytes : U16) : SpiPort :=
  if !p.spi.transferActive || p.spi.completionPending then
    { p with spi := { p.spi with duplicateCompletions := incrementSaturating p.spi.duplicateCompletions } }
  else
    { p with spi := { p.spi with
      completionSuccess := success
      completionBytes := bytes
      completionPending := true } }

/-- The completion that `poll` takes (:81-93). -/
def takeCompletion (p : SpiPort) : SpiPort :=
  let spi := { p.spi with
    completionPending := false
    transferActive := false
    transferRequested := false
    transfersCompleted := incrementSaturating p.spi.transfersCompleted }
  if !spi.completionSuccess then
    { p with spi := { spi with transferErrors := incrementSaturating spi.transferErrors } }
  else if spi.completionBytes ≠ BitVec.ofNat 16 linkFrameBytes then
    { p with spi := { spi with shortTransfers := incrementSaturating spi.shortTransfers } }
  else { p with spi := { spi with transport := (spi.transport.acceptRx spi.rx).1 } }

/-- `openref_rt595_audio_spi_poll` (:75-97) up to the call of `ops.start`. -/
def pollEnter (p : SpiPort) (timestampUs : U32) : SpiPort × Option LinkWire :=
  let p := if p.spi.completionPending then p.takeCompletion else p
  p.updateRequest.armEnter timestampUs

/-- `openref_rt595_audio_spi_poll` (:75-97); `startOk` is what `ops.start` returns. -/
def poll (p : SpiPort) (timestampUs : U32) (startOk : Bool) : SpiPort :=
  let r := p.pollEnter timestampUs
  match r.2 with
  | none => r.1
  | some _ => if startOk then r.1.armStarted else r.1.armFailed

/-- `openref_rt595_audio_spi_pop_audio` (:99-102). -/
def popAudio (p : SpiPort) : SpiPort × Option AudioLinkFrame :=
  ({ p with spi := { p.spi with transport := p.spi.transport.popAudio.1 } }, p.spi.transport.popAudio.2)

/-- `openref_rt595_audio_spi_reset` (:104-120). -/
def reset (p : SpiPort) : SpiPort :=
  ⟨{ p.spi with
    transport := AudioTransport.init
    tx := Bytes.zero _
    rx := Bytes.zero _
    completionPending := false
    transferActive := false
    transferRequested := false
    resets := incrementSaturating p.spi.resets }, false⟩

/-! ## Arming -/

@[simp] theorem updateRequest_spi (p : SpiPort) : p.updateRequest.spi = p.spi := rfl

/-- The port is waiting for its master, or for its completion to arrive. -/
def busy (p : SpiPort) : Bool := p.spi.transferActive && !p.spi.completionPending

/-- What arming does: nothing while a transfer is active, else it prepares the wire it starts with. -/
inductive Armed (p : SpiPort) (r : SpiPort × Option LinkWire) : Prop
  | active (ha : p.spi.transferActive = true) (hr : r = (p, none))
  | entered (ha : p.spi.transferActive = false) (wire : LinkWire) (t : AudioTransport)
    (hp : AudioTransport.Prepared p.spi.transport t wire) (hrx : AudioTransport.SameRx p.spi.transport t)
    (ho : t.audioTx.overruns = p.spi.transport.audioTx.overruns)
    (hr : r = ({ p with spi := { p.spi with
      transferRequested := p.spi.transport.requestAsserted
      transport := t
      tx := wire } }, some wire))

theorem armEnter_armed (p : SpiPort) (timestampUs : U32) : Armed p (p.armEnter timestampUs) := by
  unfold armEnter
  cases ha : p.spi.transferActive with
  | true => exact .active ha (by simp)
  | false =>
    obtain ⟨wire, hw, hp, hrx, ho⟩ := p.spi.transport.prepareTx_prepared timestampUs
    refine .entered ha wire _ hp hrx ho ?_
    simp [hw]

/-- Taking a completion leaves what waits to go out. -/
theorem takeCompletion_frame (p : SpiPort) :
    p.takeCompletion.spi.transport.audioTx = p.spi.transport.audioTx ∧
      p.takeCompletion.spi.transferActive = false ∧ p.takeCompletion.spi.completionPending = false := by
  unfold takeCompletion
  dsimp only
  split
  · exact ⟨rfl, rfl, rfl⟩
  · split
    · exact ⟨rfl, rfl, rfl⟩
    · exact ⟨AudioTransport.acceptRx_audioTx _ _, rfl, rfl⟩

/-- What a poll does to the frames that wait: nothing while the port is busy, else it starts a transfer
with the oldest one, or with a status when there is none. -/
inductive Polled (p : SpiPort) (enter : Option LinkWire) (p' : SpiPort) : Prop
  | busy (hb : p.busy = true) (he : enter = none) (hq : p'.spi.transport.audioTx = p.spi.transport.audioTx)
  | audio (hb : p.busy = false) (frame : AudioLinkFrame) (wire : LinkWire) (he : enter = some wire)
    (hc : Carries frame wire)
    (hq : p.spi.transport.audioTx.toList = frame :: p'.spi.transport.audioTx.toList)
    (ho : p'.spi.transport.audioTx.overruns = p.spi.transport.audioTx.overruns)
  | status (hb : p.busy = false) (wire : LinkWire) (he : enter = some wire) (hc : CarriesStatus wire)
    (hq : p.spi.transport.audioTx.toList = []) (hq' : p'.spi.transport.audioTx.toList = [])
    (ho : p'.spi.transport.audioTx.overruns = p.spi.transport.audioTx.overruns)

/-- An idle port that arms. -/
theorem polled_of_entered {p q : SpiPort} {timestampUs : U32} {startOk : Bool} (hb : p.busy = false)
    (hq : q.spi.transport.audioTx = p.spi.transport.audioTx) (ha : q.spi.transferActive = false) :
    Polled p (q.armEnter timestampUs).2 (match (q.armEnter timestampUs).2 with
      | none => (q.armEnter timestampUs).1
      | some _ => if startOk then (q.armEnter timestampUs).1.armStarted else (q.armEnter timestampUs).1.armFailed) := by
  cases q.armEnter_armed timestampUs with
  | active ha' _ => exact absurd (ha.symm.trans ha') Bool.false_ne_true
  | entered _ wire t hp _ ho hr =>
    rw [hr]
    dsimp only
    rw [hq] at ho
    cases hp with
    | audio frame hl hc =>
      rw [hq] at hl
      cases startOk <;> exact .audio hb frame wire rfl hc hl ho
    | status hl hl' hc =>
      rw [hq] at hl
      cases startOk <;> exact .status hb wire rfl hc hl hl' ho

theorem poll_polled (p : SpiPort) (timestampUs : U32) (startOk : Bool) :
    Polled p (p.pollEnter timestampUs).2 (p.poll timestampUs startOk) := by
  unfold poll pollEnter
  cases hp : p.spi.completionPending with
  | true =>
    obtain ⟨hq, ha, -⟩ := p.takeCompletion_frame
    rw [if_pos rfl]
    exact polled_of_entered (by simp [busy, hp]) hq ha
  | false =>
    rw [if_neg Bool.false_ne_true]
    cases ha : p.spi.transferActive with
    | false => exact polled_of_entered (by simp [busy, ha]) rfl ha
    | true =>
      have hstay : p.updateRequest.armEnter timestampUs = (p.updateRequest, none) := by
        simp [armEnter, ha]
      rw [hstay]
      exact .busy (by simp [busy, ha, hp]) rfl rfl

end SpiPort

/-! ## Every accepted frame is accounted for -/

/-- What can become of an accepted frame that no longer waits. -/
inductive Fate
  | handed | dropped | discarded
deriving DecidableEq, Repr

/-- A call of the port; with a completion comes the wire that the peripheral received. -/
inductive PortCall
  | queue (frame : AudioLinkFrame)
  | poll (timestampUs : U32) (startOk : Bool)
  | complete (success : Bool) (bytes : U16) (received : LinkWire)
  | pop
  | reset

/-- The port and what has been seen of it from outside: the audio frames it accepted, the wires of the starts
that succeeded, the frames that waited when it was reset, and the overruns counted before resets. -/
structure PortHistory where
  port : SpiPort
  accepted : List AudioLinkFrame
  started : List LinkWire
  discarded : List AudioLinkFrame
  cleared : U32

namespace PortHistory

/-- A port that was just initialised. -/
def init : PortHistory := ⟨SpiPort.init, [], [], [], 0⟩

/-- The frames that wait. -/
def waiting (w : PortHistory) : List AudioLinkFrame := w.port.spi.transport.audioTx.toList

/-- One call. -/
def step (w : PortHistory) : PortCall → PortHistory
  | .queue frame =>
    let r := w.port.queue frame
    { w with port := r.1, accepted := if r.2 && frame.audio then w.accepted ++ [frame] else w.accepted }
  | .poll timestampUs startOk =>
    { w with
      port := w.port.poll timestampUs startOk
      started := w.started ++ if startOk then (w.port.pollEnter timestampUs).2.toList else [] }
  | .complete success bytes received =>
    { w with port := SpiPort.complete { w.port with spi := { w.port.spi with rx := received } } success bytes }
  | .pop => { w with port := w.port.popAudio.1 }
  | .reset =>
    { w with
      port := w.port.reset
      discarded := w.discarded ++ w.waiting
      cleared := w.cleared + w.port.spi.transport.audioTx.overruns }

/-- **Every accepted frame is exactly one of**: waiting; handed to one start that succeeded, in the order of
the frames; dropped and counted; discarded by a reset. -/
def Accounted (w : PortHistory) : Prop := ∃ gone : List (AudioLinkFrame × Fate),
  w.accepted = gone.map Prod.fst ++ w.waiting ∧
    List.Forall₂ Carries (Ledger.settled gone .handed) (w.started.filter carriesAudio) ∧
    BitVec.ofNat 32 (Ledger.settled gone .dropped).length = w.cleared + w.port.spi.transport.audioTx.overruns ∧
    Ledger.settled gone .discarded = w.discarded

/-- A start that fails has no audio on its wire: no frame waits when `poll` arms. -/
def StartsAudio (w : PortHistory) : PortCall → Prop
  | .poll _ startOk => startOk = true ∨ w.port.busy = true ∨ w.waiting = []
  | _ => True

instance decidableStartsAudio (w : PortHistory) : ∀ c : PortCall, Decidable (StartsAudio w c)
  | .poll _ _ => inferInstanceAs (Decidable (_ ∨ _ ∨ _))
  | .queue _ | .complete _ _ _ | .pop | .reset => .isTrue trivial

/-! ## Steps -/

theorem accounted_init : Accounted init := ⟨[], rfl, .nil, rfl, rfl⟩

/-- A call that leaves the frames that wait, and what has been seen, keeps the account. -/
theorem Accounted.same {w w' : PortHistory} (h : Accounted w) (ha : w'.accepted = w.accepted)
    (hs : w'.started.filter carriesAudio = w.started.filter carriesAudio) (hd : w'.discarded = w.discarded)
    (hc : w'.cleared = w.cleared) (hw : w'.waiting = w.waiting)
    (ho : w'.port.spi.transport.audioTx.overruns = w.port.spi.transport.audioTx.overruns) : Accounted w' := by
  obtain ⟨gone, h1, h2, h3, h4⟩ := h
  refine ⟨gone, ?_, ?_, ?_, ?_⟩
  · rw [ha, hw]
    exact h1
  · rw [hs]
    exact h2
  · rw [hc, ho]
    exact h3
  · rw [hd]
    exact h4

/-- **Step: a frame is queued.** -/
theorem Accounted.queue {w : PortHistory} (h : Accounted w) (frame : AudioLinkFrame) :
    Accounted (w.step (.queue frame)) := by
  obtain ⟨hqueued, -⟩ := w.port.spi.transport.queue_queued frame
  have hport : (w.port.queue frame).1.spi.transport = (w.port.spi.transport.queue frame).1 := by
    unfold SpiPort.queue
    dsimp only
    split <;> rfl
  have hanswer : (w.port.queue frame).2 = (w.port.spi.transport.queue frame).2 := by
    unfold SpiPort.queue
    dsimp only
    split <;> simp_all
  have hstep : (w.step (.queue frame)).waiting = (w.port.spi.transport.queue frame).1.audioTx.toList := by
    rw [waiting, step, hport]
  have hover : (w.step (.queue frame)).port.spi.transport.audioTx.overruns =
      (w.port.spi.transport.queue frame).1.audioTx.overruns := by
    rw [step, hport]
  have haccepted : (w.step (.queue frame)).accepted =
      if (w.port.spi.transport.queue frame).2 && frame.audio then w.accepted ++ [frame] else w.accepted := by
    rw [step, hanswer]
  cases hqueued with
  | refused ht ha =>
    rw [ht] at hstep hover
    refine h.same ?_ rfl rfl rfl hstep hover
    rw [haccepted, ha, Bool.false_and, if_neg Bool.false_ne_true]
  | status hk _ hq _ =>
    rw [hq] at hstep hover
    refine h.same ?_ rfl rfl rfl hstep hover
    rw [haccepted, hk, Bool.and_false, if_neg Bool.false_ne_true]
  | appended hk ha _ hq ho =>
    obtain ⟨gone, h1, h2, h3, h4⟩ := h
    refine ⟨gone, ?_, h2, ?_, h4⟩
    · rw [haccepted, ha, hk, Bool.and_self, if_pos rfl, hstep, hq, h1, List.append_assoc]
      rfl
    · rw [hover, ho]
      exact h3
  | dropped hk ha oldest rest _ hl hq ho =>
    obtain ⟨gone, h1, h2, h3, h4⟩ := h
    refine ⟨gone ++ [(oldest, .dropped)], ?_, ?_, ?_, ?_⟩
    · have hwaiting : w.waiting = oldest :: rest := hl
      rw [haccepted, ha, hk, Bool.and_self, if_pos rfl, hstep, hq, h1, hwaiting]
      simp
    · rw [Ledger.settled_concat_of_ne _ _ (by decide)]
      exact h2
    · rw [Ledger.settled_concat_self, List.length_append, hover, ho, List.length_singleton, BitVec.ofNat_add, h3]
      exact BitVec.add_assoc _ _ _
    · rw [Ledger.settled_concat_of_ne _ _ (by decide)]
      exact h4

/-- **Step: a poll** that starts with audio on its wire only when the start succeeds. -/
theorem Accounted.poll {w : PortHistory} (h : Accounted w) (timestampUs : U32) (startOk : Bool)
    (hs : StartsAudio w (.poll timestampUs startOk)) : Accounted (w.step (.poll timestampUs startOk)) := by
  have hpolled := w.port.poll_polled timestampUs startOk
  have hstarted : (w.step (.poll timestampUs startOk)).started =
      w.started ++ if startOk then (w.port.pollEnter timestampUs).2.toList else [] := rfl
  cases hpolled with
  | busy _ he hq =>
    have hnone : (w.step (.poll timestampUs startOk)).started = w.started := by
      rw [hstarted, he]
      cases startOk <;> simp
    exact h.same rfl (by rw [hnone]) rfl rfl (congrArg LinkQueue.toList hq) (congrArg LinkQueue.overruns hq)
  | audio hb frame wire he hc hq ho =>
    have hok : startOk = true := by
      rcases hs with hs | hs | hs
      · exact hs
      · rw [hb] at hs
        cases hs
      · rw [waiting, hq] at hs
        cases hs
    have haudio : frame.audio = true := w.port.spi.transport.txAudio frame (hq ▸ List.mem_cons_self)
    obtain ⟨gone, h1, h2, h3, h4⟩ := h
    refine ⟨gone ++ [(frame, .handed)], ?_, ?_, ?_, ?_⟩
    · have hwaiting : w.waiting = frame :: (w.step (.poll timestampUs startOk)).waiting := hq
      change w.accepted = _
      rw [h1, hwaiting]
      simp
    · rw [hstarted, he, hok, if_pos rfl, Ledger.settled_concat_self, List.filter_append]
      simp only [Option.toList_some, List.filter_cons, carriesAudio_of_carries haudio hc, if_true, List.filter_nil]
      exact List.rel_append h2 (.cons hc .nil)
    · rw [Ledger.settled_concat_of_ne _ _ (by decide)]
      exact h3.trans (congrArg (w.cleared + ·) ho.symm)
    · rw [Ledger.settled_concat_of_ne _ _ (by decide)]
      exact h4
  | status _ wire he hc hq hq' ho =>
    refine h.same rfl ?_ rfl rfl (hq'.trans hq.symm) ho
    rw [hstarted, he]
    cases startOk <;> simp [carriesAudio_of_status hc]

/-- A failed start with audio on its wire breaks the account: the frame is neither waiting nor handed over,
and it was not counted. -/
theorem not_accounted_of_lost {w : PortHistory} (h : Accounted w) (timestampUs : U32) (startOk : Bool)
    (hs : ¬ StartsAudio w (.poll timestampUs startOk)) : ¬ Accounted (w.step (.poll timestampUs startOk)) := by
  simp only [StartsAudio, not_or, Bool.not_eq_true] at hs
  obtain ⟨hok, hbusy, hne⟩ := hs
  subst hok
  have hpolled := w.port.poll_polled timestampUs false
  cases hpolled with
  | busy hb => exact absurd (hb.symm.trans hbusy) (by decide)
  | status _ _ _ _ hq => exact absurd hq hne
  | audio _ frame wire he hc hq ho =>
    have hwaiting : w.waiting = frame :: (w.step (.poll timestampUs false)).waiting := hq
    have hsame : (w.step (.poll timestampUs false)).started = w.started := List.append_nil _
    have hover : (w.step (.poll timestampUs false)).port.spi.transport.audioTx.overruns =
      w.port.spi.transport.audioTx.overruns := ho
    have hlength (gone : List (AudioLinkFrame × Fate)) : gone.length = (Ledger.settled gone .handed).length +
        (Ledger.settled gone .dropped).length + (Ledger.settled gone .discarded).length := by
      induction gone with
      | nil => rfl
      | cons e gone ih =>
        obtain ⟨f, fate⟩ := e
        cases fate <;> simp [Ledger.settled] at ih ⊢ <;> omega
    obtain ⟨gone, h1, h2, h3, h4⟩ := h
    rintro ⟨gone', h1', h2', h3', h4'⟩
    change w.accepted = _ at h1'
    change _ = w.cleared + _ at h3'
    change _ = w.discarded at h4'
    rw [hsame] at h2'
    rw [hover, ← h3] at h3'
    have hlen := congrArg List.length (h1.symm.trans h1')
    rw [hwaiting] at hlen
    simp only [List.length_append, List.length_map, List.length_cons] at hlen
    have hcount := hlength gone
    have hcount' := hlength gone'
    have hhanded := h2.length_eq
    have hhanded' := h2'.length_eq
    rw [h4] at hcount
    rw [h4'] at hcount'
    have hdropped : (Ledger.settled gone' .dropped).length = (Ledger.settled gone .dropped).length + 1 := by omega
    rw [hdropped, BitVec.ofNat_add] at h3'
    simp at h3'

/-- **Step.** -/
theorem step_accounted (w : PortHistory) (c : PortCall) (h : Accounted w) (hs : StartsAudio w c) :
    Accounted (w.step c) := by
  cases c with
  | queue frame => exact h.queue frame
  | poll timestampUs startOk => exact h.poll timestampUs startOk hs
  | complete success bytes received =>
    have hframe (p : SpiPort) : (p.complete success bytes).spi.transport = p.spi.transport := by
      unfold SpiPort.complete
      split <;> rfl
    exact h.same rfl rfl rfl rfl (by rw [waiting, step, hframe]; rfl) (by rw [step, hframe])
  | pop => exact h.same rfl rfl rfl rfl rfl rfl
  | reset =>
    obtain ⟨gone, h1, h2, h3, h4⟩ := h
    refine ⟨gone ++ w.waiting.map fun f => (f, .discarded), ?_, ?_, ?_, ?_⟩
    · rw [List.map_append, Ledger.map_fst_map]
      exact h1.trans (List.append_nil _).symm
    · rw [Ledger.settled_append, Ledger.settled_map_of_ne _ (by decide), List.append_nil]
      exact h2
    · rw [Ledger.settled_append, Ledger.settled_map_of_ne _ (by decide), List.append_nil, h3]
      exact (BitVec.add_zero _).symm
    · rw [Ledger.settled_append, Ledger.settled_map_self, h4]
      rfl

/-- **No accepted frame is lost exactly when no start fails with audio on its wire.** For every run of queue,
poll, complete, pop and reset with any start results, completions and received wires: every accepted audio
frame is accounted for after every call, if and only if every poll of the run that finds a frame waiting and
arms has its start succeed. -/
theorem accounted_iff (calls : List PortCall) :
    (∀ past later, calls = past ++ later → Accounted (past.foldl step init)) ↔ Run.Along step StartsAudio init calls := by
  constructor
  · intro h
    refine Run.along_of_prefixes (P := Accounted) (D := fun _ _ => True) (fun w c hw _ hc => step_accounted w c hw hc)
      (fun w c hw _ hc => ?_) accounted_init (Run.along_of_forall fun _ _ => trivial) h
    cases c with
    | poll timestampUs startOk => exact not_accounted_of_lost hw timestampUs startOk hc
    | queue | complete | pop | reset => exact absurd trivial hc
  · rintro h past later rfl
    exact Run.inv_along step_accounted _ past accounted_init (Run.along_append.1 h).1

/-- The frame of the native test (openref_rt595_audio_spi_test.c:98). -/
def testFrame : AudioLinkFrame := { AudioLinkFrame.zero with kind := linkLocalAudio, sourceId := 1, sequence := 2 }

/-- The start of the native test that fails (openref_rt595_audio_spi_test.c:94-108): the queued frame is gone,
and the next poll starts an idle frame. -/
theorem frame_lost : ¬ ∀ (calls past later : List PortCall), calls = past ++ later →
    Accounted (past.foldl step init) := by
  intro h
  have hqueued := step_accounted init (.queue testFrame) accounted_init trivial
  exact not_accounted_of_lost hqueued 0 false (by decide +kernel) (h _ [.queue testFrame, .poll 0 false] [] rfl)

end PortHistory

end OpenRef.Audio
