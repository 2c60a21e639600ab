import OpenRef.Audio.Channels
import OpenRef.Audio.Rt595Port
import OpenRef.Boot.Confirmation
import OpenRef.Watchdog.IntegratedLoop
/-!
# The main loop of the audio processor (openref_rt595_integrated.c, openref_rt595_output_guard.c)

One loop polls the link, opens the output once peer and watchdog are ready, mixes a block, feeds the watchdog and
reports the health of a trial. The guard mutes the codec before it stops the DMAs and the link. The loop is a machine
with a program counter, and the completions of the three DMAs come between any two of its statements.

`fails_closed`: over every interleaving the output is opened at most once, a loop that halts has muted it and stopped
everything, and nothing that comes after starts anything again; no block ever fails in the runtime.
`fed_while_sound`: the output is opened at a turn with a valid peer and a fed watchdog, and a watchdog gate that found a
fault is not fed again.
-/

namespace OpenRef.Audio

open OpenRef.Boot (AppConfirmation AppHealth ConfigBackend Rt595BootState)
open OpenRef.Watchdog (WatchdogGate loopConfig)

/-! ## The output guard -/

/-- `openref_rt595_output_guard_ops_t` over a context `κ`. -/
structure OutputGuardOps (κ : Type) where
  setMuted : κ → Bool → κ × Bool
  stopAudio : κ → κ
  abortLink : κ → κ

/-- `openref_rt595_output_guard_t` once initialised. -/
structure OutputGuard where
  faults : U32
  faultLatched : Bool
  enabled : Bool
  muted : Bool
deriving DecidableEq, Repr

namespace OutputGuard

variable {κ : Type} (ops : OutputGuardOps κ)

/-- `openref_rt595_output_guard_fault` (:5-15). -/
def fault (k : κ) (g : OutputGuard) : κ × OutputGuard :=
  let m := ops.setMuted k true
  (ops.abortLink (ops.stopAudio m.1), ⟨incrementSaturating g.faults, true, false, m.2⟩)

/-- `openref_rt595_output_guard_init` (:16-22). -/
def init (k : κ) : κ × OutputGuard × Bool :=
  let m := ops.setMuted k true
  if !m.2 then
    let f := fault ops m.1 ⟨0, false, false, false⟩
    (f.1, f.2, false)
  else (m.1, ⟨0, false, false, true⟩, true)

/-- `openref_rt595_output_guard_set_ready` (:23-33). -/
def setReady (k : κ) (g : OutputGuard) (runtimeReady peerReady watchdogReady : Bool) : κ × OutputGuard × Bool :=
  if g.faultLatched then (k, g, false)
  else if !(runtimeReady && peerReady && watchdogReady) then
    if g.enabled then
      let f := fault ops k g
      (f.1, f.2, false)
    else (k, g, g.muted)
  else if g.enabled then (k, g, true)
  else
    let m := ops.setMuted k false
    if !m.2 then
      let f := fault ops m.1 g
      (f.1, f.2, false)
    else (m.1, { g with muted := false, enabled := true }, true)

end OutputGuard

/-- `openref_rt595_audio_io_stop` (rt595_audio_io:11). -/
def Rt595AudioIo.stop (s : Rt595AudioIo) : Rt595AudioIo :=
  if s.initialized then { s with initialized := false, captureActive := false, playoutActive := false } else s

/-- What the guard reaches: the calls of the codec's mute line with their answers, the sample DMAs and the link. -/
structure AudioDevices where
  muteCalls : List (Bool × Bool)
  io : Rt595AudioIo
  port : SpiPort

/-- The operations of the guard (integrated:188-204); `board n` is what the board port answers at its call `n`. -/
def guardOps (board : ℕ → Bool) : OutputGuardOps AudioDevices where
  setMuted k muted :=
    ({ k with muteCalls := k.muteCalls ++ [(muted, board k.muteCalls.length)] }, board k.muteCalls.length)
  stopAudio k := { k with io := k.io.stop }
  abortLink k := { k with port := k.port.reset }

/-! ## The watchdog of the loop -/

/-- The gate after a block, and whether the watchdog is fed (:298-303). -/
def serviceGate (g : WatchdogGate) (nowMs : U64) : WatchdogGate × Bool :=
  let g := (g.shouldFeed nowMs).1
  if g.lastFaultMask = 0 then
    let r := g.report 0 nowMs
    if r.2 then r.1.shouldFeed nowMs else (r.1, false)
  else (g, false)

/-! ## The loop -/

/-- Why the loop halts. -/
inductive HaltReason where
  | confirmationState
  | outputFault
  | outputGate
  | runtimeFault
deriving DecidableEq, Repr

/-- The statement that comes next. -/
inductive LoopPoint where
  | poll
  | faults
  | ready
  | ingest
  | capture
  | process (microphone : Block)
  | send (headphone : Block)
  | play (headphone : Block)
  | watch
  | confirm (nowMs : U64)
  | halted (reason : HaltReason)

/-- The statics of the file, without the update delivery. -/
structure MainLoop (ε δ γ μ : Type) where
  point : LoopPoint
  nowUs : U32
  audio : Listening ε δ γ
  devices : AudioDevices
  guard : OutputGuard
  gate : WatchdogGate
  watchdogReady : Bool
  feeds : List U64
  confirmationActive : Bool
  confirmation : AppConfirmation
  boot : Rt595BootState
  records : μ

namespace MainLoop

variable {ε δ γ μ : Type}

/-- What the loop runs on: the codec, the timer, the boot records, the board and the clock configuration. -/
structure Platform (ε δ γ μ : Type) where
  lc3 : Lc3 ε δ
  clockUs : ClockUsFn γ
  records : ConfigBackend μ
  board : ℕ → Bool
  clocksOk : Bool

variable (p : Platform ε δ γ μ)

/-- A fault of the guard, and the loop that waits for ever. -/
def halt (w : MainLoop ε δ γ μ) (reason : HaltReason) : MainLoop ε δ γ μ :=
  let f := OutputGuard.fault (guardOps p.board) w.devices w.guard
  { w with point := .halted reason, devices := f.1, guard := f.2 }

/-- Anything failed that is counted (:272-273). -/
def deviceFault (d : AudioDevices) : Bool :=
  d.io.dmaFailures ≠ 0 || d.port.spi.startFailures ≠ 0 || d.port.spi.transferErrors ≠ 0 ||
    d.port.spi.shortTransfers ≠ 0

/-- The watchdog is fed and its gate finds nothing (:280). -/
def watchdogOk (w : MainLoop ε δ γ μ) : Bool := w.watchdogReady && w.gate.lastFaultMask = 0

/-- The report of a block (:306-314). -/
def health (w : MainLoop ε δ γ μ) : AppHealth where
  clocksOk := p.clocksOk
  storageOk := w.boot.loaded
  watchdogOk := w.watchdogOk
  audioOk := !w.guard.faultLatched && w.devices.io.dmaFailures = 0
  peerOk := w.devices.port.spi.transport.latestStatusValid
  faultFree := w.devices.port.spi.transferErrors = 0 && w.devices.port.spi.shortTransfers = 0

/-- One statement of the loop (:268-325); `startOk` is what a transfer of the link answers to its start. -/
def statement (w : MainLoop ε δ γ μ) (startOk : Bool) : MainLoop ε δ γ μ :=
  match w.point with
  | .poll =>
    let t := p.clockUs w.audio.clock
    { w with
      point := .faults, nowUs := t.2, audio := { w.audio with clock := t.1 }
      devices := { w.devices with port := w.devices.port.poll t.2 startOk } }
  | .faults => if deviceFault w.devices then w.halt p .outputFault else { w with point := .ready }
  | .ready =>
    let r := w.guard.setReady (guardOps p.board) w.devices true w.devices.port.spi.transport.latestStatusValid
      w.watchdogOk
    { w with point := if r.2.2 then .ingest else .halted .outputGate, devices := r.1, guard := r.2.1 }
  | .ingest =>
    let r := w.devices.port.popAudio
    let devices := { w.devices with port := r.1 }
    match r.2 with
    | some remote =>
      { w with audio := { w.audio with runtime := (w.audio.runtime.ingestRemote remote).1 }, devices := devices }
    | none => { w with point := .capture, devices := devices }
  | .capture =>
    let r := w.devices.io.takeCapture
    { w with
      point := match r.2 with
        | some microphone => .process microphone
        | none => .poll
      devices := { w.devices with io := r.1 } }
  | .process microphone =>
    let r := w.audio.process p.lc3 p.clockUs microphone w.nowUs
    match r.2 with
    | some headphone => { w with point := .send headphone, audio := r.1 }
    | none => { w with audio := r.1, confirmation := w.confirmation.fault }.halt p .runtimeFault
  | .send headphone =>
    let l := w.audio.runtime.takeLocal
    { w with
      point := .play headphone
      audio := { w.audio with runtime := l.1 }
      devices := match l.2 with
        | some frame => { w.devices with port := (w.devices.port.queue frame).1 }
        | none => w.devices }
  | .play headphone =>
    { w with point := .watch, devices := { w.devices with io := (w.devices.io.submitPlayout headphone).1 } }
  | .watch =>
    let t := p.clockUs w.audio.clock
    let nowMs : U64 := t.2.setWidth 64 / 1000
    let s := serviceGate w.gate nowMs
    { w with
      point := .confirm nowMs
      audio := { w.audio with clock := t.1 }
      gate := s.1
      watchdogReady := w.watchdogReady || s.2
      feeds := if s.2 then w.feeds ++ [nowMs] else w.feeds }
  | .confirm nowMs =>
    if w.confirmationActive then
      let o := w.confirmation.observe p.records w.records w.boot (w.health p) (nowMs.setWidth 32)
      { w with
        point := .poll, records := o.1, boot := o.2.1, confirmation := o.2.2.1, confirmationActive := !o.2.2.2 }
    else { w with point := .poll }
  | .halted _ => w

/-- What happens next: a statement, or the completion of a DMA with what it brought. -/
inductive Event
  | statement (startOk : Bool)
  | captureComplete (block : Block) (success started : Bool)
  | playoutComplete (success started : Bool)
  | linkComplete (wire : LinkWire) (success : Bool) (bytes : U16)

/-- The capture DMA writes its buffer and completes. -/
def captureDone (s : Rt595AudioIo) (block : Block) (success started : Bool) : Rt595AudioIo :=
  let s := if s.captureActive then { s with capture := Function.update s.capture s.captureIndex block } else s
  (s.captureComplete success started).1

/-- The link's DMA writes the receive buffer and completes. -/
def linkDone (s : SpiPort) (wire : LinkWire) (success : Bool) (bytes : U16) : SpiPort :=
  let s := if s.spi.transferActive then { s with spi := { s.spi with rx := wire } } else s
  s.complete success bytes

def step (w : MainLoop ε δ γ μ) : Event → MainLoop ε δ γ μ
  | .statement startOk => w.statement p startOk
  | .captureComplete block success started =>
    { w with devices := { w.devices with io := captureDone w.devices.io block success started } }
  | .playoutComplete success started =>
    { w with devices := { w.devices with io := (w.devices.io.playoutComplete success started).1 } }
  | .linkComplete wire success bytes =>
    { w with devices := { w.devices with port := linkDone w.devices.port wire success bytes } }

/-- The loop is entered with everything initialised and the output muted (:261-267); a boot state that is not valid
halts it. -/
def start (audio : Listening ε δ γ) (gate : WatchdogGate) (boot : Rt595BootState) (records : μ)
    (confirmation : AppConfirmation) (confirmationActive storageOk : Bool) : MainLoop ε δ γ μ :=
  let m : MainLoop ε δ γ μ :=
    ⟨.poll, 0, audio, ⟨[(true, true)], Rt595AudioIo.init, SpiPort.init⟩, ⟨0, false, false, true⟩, gate, false, [],
      confirmationActive, confirmation, boot, records⟩
  if storageOk then m else m.halt p .confirmationState

/-- The guard that the loop starts with is the one that `init` leaves when the board answers. -/
theorem init_start {board : ℕ → Bool} (h : board 0 = true) (io : Rt595AudioIo) (port : SpiPort) :
    OutputGuard.init (guardOps board) ⟨[], io, port⟩ = (⟨[(true, true)], io, port⟩, ⟨0, false, false, true⟩, true) := by
  unfold OutputGuard.init guardOps
  dsimp only [List.length_nil]
  rw [h]
  rfl

end MainLoop

/-! ## The gate in the loop -/

/-- No report of the last block is left. -/
structure GateQuiet (g : WatchdogGate) : Prop where
  config : g.config = loopConfig
  progress : g.progressMask &&& 1 = 0

/-- An evaluation of a quiet gate leaves it quiet and is not fed; a fault that was found stays found. -/
theorem shouldFeed_quiet {g : WatchdogGate} (h : GateQuiet g) (nowMs : U64) :
    GateQuiet (g.shouldFeed nowMs).1 ∧ (g.shouldFeed nowMs).2 = false ∧
      (g.lastFaultMask ≠ 0 → (g.shouldFeed nowMs).1.lastFaultMask ≠ 0) ∧
      ((g.shouldFeed nowMs).1.lastFaultMask = 0 → g.faultMask nowMs = 0 ∧
        (g.shouldFeed nowMs).1 = { g with lastEvaluateMs := nowMs }) := by
  have hrequired : g.config.requiredMask = 1 := by
    rw [h.config]
    rfl
  rcases Watchdog.shouldFeed_spec g nowMs with ⟨hfault, hfed, hmask⟩ | ⟨hnone, -, heq⟩ | ⟨-, hcomplete, -⟩
  · have hframe : (g.shouldFeed nowMs).1.config = g.config ∧
        (g.shouldFeed nowMs).1.progressMask = g.progressMask := by
      unfold WatchdogGate.shouldFeed
      simp only [ne_eq, hfault, not_false_eq_true, if_true]
      split <;> exact ⟨rfl, rfl⟩
    refine ⟨⟨hframe.1.trans h.config, ?_⟩, hfed, fun _ => ?_, fun hzero => ?_⟩
    · rw [hframe.2]
      exact h.progress
    · rw [hmask]
      exact hfault
    · rw [hmask] at hzero
      exact absurd hzero hfault
  · rw [heq]
    exact ⟨⟨h.config, h.progress⟩, rfl, id, fun _ => ⟨hnone, rfl⟩⟩
  · rw [hrequired, h.progress] at hcomplete
    cases hcomplete

/-- The gate has its report right after it, and is fed. -/
theorem reported_fed {g : WatchdogGate} (h : GateQuiet g) {nowMs : U64} (hnone : g.faultMask nowMs = 0)
    (hreport : ({ g with lastEvaluateMs := nowMs }.report 0 nowMs).2 = true) :
    GateQuiet (({ g with lastEvaluateMs := nowMs }.report 0 nowMs).1.shouldFeed nowMs).1 := by
  have hclear : ∀ mask : U8, mask &&& ~~~(1 : U8) &&& 1 = 0 := by decide
  have hset : ∀ mask : U8, (mask ||| Watchdog.taskBit 0) &&& 1 = 1 := by decide
  have hothers : ∀ task : Fin Watchdog.maxTasks, task ≠ 0 → Watchdog.inMask 1 task = false := by decide
  have hseen : ∀ mask : U8, Watchdog.inMask (mask ||| Watchdog.taskBit 0) 0 = true := by decide
  have hzero : (0 : U8).toNat < Watchdog.maxTasks := by decide
  have hrequired : g.config.requiredMask = 1 := by
    rw [h.config]
    rfl
  have hback := ((Watchdog.faultMask_eq_zero g nowMs).1 hnone).1
  unfold WatchdogGate.report at hreport ⊢
  rw [dif_pos hzero] at hreport ⊢
  dsimp only at hreport ⊢
  split at hreport
  · cases hreport
  · next htask =>
    rw [if_neg htask]
    dsimp only
    generalize hr : ({ g with
      lastEvaluateMs := nowMs
      lastProgressMs := fun t => if t = ⟨(0 : U8).toNat, hzero⟩ then nowMs else g.lastProgressMs t
      seenMask := g.seenMask ||| Watchdog.taskBit ⟨(0 : U8).toNat, hzero⟩
      progressMask := g.progressMask ||| Watchdog.taskBit ⟨(0 : U8).toNat, hzero⟩ } : WatchdogGate) = r
    have hconfig : r.config = loopConfig := by
      rw [← hr]
      exact h.config
    have hrequired' : r.config.requiredMask = 1 := by
      rw [hconfig]
      rfl
    have hfault : r.faultMask nowMs = 0 := by
      refine (Watchdog.faultMask_eq_zero r nowMs).2 ⟨?_, fun task => ?_⟩
      · rw [← hr]
        unfold WatchdogGate.clockBack at hback ⊢
        simp only [Bool.or_eq_false_iff, decide_eq_false_iff_not] at hback ⊢
        exact ⟨BitVec.lt_irrefl _, hback.2⟩
      · unfold WatchdogGate.late
        rw [hrequired']
        by_cases htask : task = 0
        · subst htask
          have hsince : nowMs - r.lastProgressMs 0 = 0 := by
            rw [← hr]
            exact BitVec.sub_self _
          have hsaw : Watchdog.inMask r.seenMask 0 = true := by
            rw [← hr]
            exact hseen _
          rw [hsaw, hsince]
          simp
        · rw [hothers task htask, Bool.false_and]
    rcases Watchdog.shouldFeed_spec r nowMs with ⟨hno, -⟩ | ⟨-, hno, -⟩ | ⟨-, -, heq⟩
    · exact absurd hfault hno
    · rw [hrequired', ← hr] at hno
      exact absurd (hset _) hno
    · rw [heq]
      refine ⟨hconfig, ?_⟩
      dsimp only
      rw [hrequired']
      exact hclear _

/-- With the timer at true time `t` it is a block of the watchdog's own loop. -/
theorem serviceGate_nowMs (g : WatchdogGate) (t : ℕ) : serviceGate g (Watchdog.nowMs t) = Watchdog.blockDone g t := by
  unfold serviceGate Watchdog.blockDone
  dsimp only
  by_cases hfault : (g.shouldFeed (Watchdog.nowMs t)).1.lastFaultMask = 0
  · rw [if_pos hfault, if_neg (not_not_intro hfault)]
    cases ((g.shouldFeed (Watchdog.nowMs t)).1.report 0 (Watchdog.nowMs t)).2 <;> rfl
  · rw [if_neg hfault, if_pos hfault]

/-- **A gate that found a fault is not fed again**, and no report is left after a block. -/
theorem serviceGate_spec {g : WatchdogGate} (h : GateQuiet g) (nowMs : U64) :
    GateQuiet (serviceGate g nowMs).1 ∧
      (g.lastFaultMask ≠ 0 → (serviceGate g nowMs).1.lastFaultMask ≠ 0 ∧ (serviceGate g nowMs).2 = false) := by
  obtain ⟨hquiet, -, hstays, hnone⟩ := shouldFeed_quiet h nowMs
  unfold serviceGate
  dsimp only
  split
  · next hzero =>
    obtain ⟨hfault, heq⟩ := hnone hzero
    refine ⟨?_, fun hne => absurd hzero (hstays hne)⟩
    rw [heq]
    split
    · next hreport => exact reported_fed h hfault hreport
    · next hreport =>
      have hrefused : ({ g with lastEvaluateMs := nowMs }.report 0 nowMs).1.config = g.config ∧
          ({ g with lastEvaluateMs := nowMs }.report 0 nowMs).1.progressMask = g.progressMask := by
        unfold WatchdogGate.report at hreport ⊢
        split at hreport
        · next hlt =>
          rw [dif_pos hlt]
          dsimp only at hreport ⊢
          split at hreport
          · next hc =>
            rw [if_pos hc]
            exact ⟨rfl, rfl⟩
          · exact absurd rfl hreport
        · next hge =>
          rw [dif_neg hge]
          exact ⟨rfl, rfl⟩
      refine ⟨hrefused.1.trans h.config, ?_⟩
      rw [hrefused.2]
      exact h.progress
  · next hne => exact ⟨hquiet, fun _ => ⟨hne, rfl⟩⟩

/-! ## The output in the loop -/

/-- Nothing runs and nothing is asked for. -/
structure AudioDevices.Closed (d : AudioDevices) : Prop where
  io : d.io.initialized = false ∧ d.io.captureActive = false ∧ d.io.playoutActive = false
  port : d.port.spi.transferActive = false ∧ d.port.spi.completionPending = false ∧ d.port.request = false

/-- The output: muted so far, open, or shut for good after at most one opening. -/
inductive Output (d : AudioDevices) (g : OutputGuard) : Prop
  | muted (hcalls : d.muteCalls.map Prod.fst = [true]) (hlatched : g.faultLatched = false)
    (henabled : g.enabled = false) (hmuted : g.muted = true) (hio : d.io.initialized = true)
  | opened (hcalls : d.muteCalls.map Prod.fst = [true, false]) (hlatched : g.faultLatched = false)
    (henabled : g.enabled = true) (hio : d.io.initialized = true)
  | shut (hcalls : d.muteCalls.map Prod.fst = [true, true] ∨ d.muteCalls.map Prod.fst = [true, false, true])
    (hlatched : g.faultLatched = true) (henabled : g.enabled = false) (hclosed : d.Closed)

theorem stop_initialized {s : Rt595AudioIo} (h : s.initialized = true) :
    s.stop.initialized = false ∧ s.stop.captureActive = false ∧ s.stop.playoutActive = false := by
  unfold Rt595AudioIo.stop
  rw [if_pos h]
  exact ⟨rfl, rfl, rfl⟩

/-- A fault closes the devices after it has muted. -/
theorem fault_closed (board : ℕ → Bool) {d : AudioDevices} (g : OutputGuard) (hio : d.io.initialized = true) :
    (OutputGuard.fault (guardOps board) d g).1.Closed ∧
      (OutputGuard.fault (guardOps board) d g).1.muteCalls.map Prod.fst = d.muteCalls.map Prod.fst ++ [true] ∧
      (OutputGuard.fault (guardOps board) d g).2.faultLatched = true ∧
      (OutputGuard.fault (guardOps board) d g).2.enabled = false :=
  ⟨⟨stop_initialized hio, rfl, rfl, rfl⟩, List.map_append, rfl, rfl⟩

/-- A fault of an output that is not shut shuts it. -/
theorem fault_shut (board : ℕ → Bool) {d : AudioDevices} {g : OutputGuard} (h : Output d g)
    (hlatched : g.faultLatched = false) :
    Output (OutputGuard.fault (guardOps board) d g).1 (OutputGuard.fault (guardOps board) d g).2 ∧
      (OutputGuard.fault (guardOps board) d g).2.faultLatched = true := by
  cases h with
  | muted hcalls _ _ _ hio =>
    obtain ⟨hclosed, hfault, hl, he⟩ := fault_closed board g hio
    exact ⟨.shut (.inl (hfault.trans (by rw [hcalls]; rfl))) hl he hclosed, hl⟩
  | opened hcalls _ _ hio =>
    obtain ⟨hclosed, hfault, hl, he⟩ := fault_closed board g hio
    exact ⟨.shut (.inr (hfault.trans (by rw [hcalls]; rfl))) hl he hclosed, hl⟩
  | shut _ hl => exact absurd (hlatched.symm.trans hl) Bool.false_ne_true

/-- An output that is neither shut nor open is muted so far. -/
theorem Output.muted_of {d : AudioDevices} {g : OutputGuard} (h : Output d g) (hlatched : g.faultLatched = false)
    (henabled : g.enabled = false) :
    d.muteCalls.map Prod.fst = [true] ∧ g.muted = true ∧ d.io.initialized = true := by
  cases h with
  | muted hcalls _ _ hmuted hio => exact ⟨hcalls, hmuted, hio⟩
  | opened _ _ hopen => exact absurd (henabled.symm.trans hopen) Bool.false_ne_true
  | shut _ hl => exact absurd (hlatched.symm.trans hl) Bool.false_ne_true

/-- What `set_ready` does to an output that is not shut: it stays, it opens because everything is ready, or it is
shut. -/
inductive Readied (board : ℕ → Bool) (d : AudioDevices) (g : OutputGuard) (ready : Bool) :
    AudioDevices × OutputGuard × Bool → Prop
  | stays (h : ready = g.enabled) : Readied board d g ready (d, g, true)
  | opens (hready : ready = true) (henabled : g.enabled = false) (g' : OutputGuard) (hlatched : g'.faultLatched = false)
    (henabled' : g'.enabled = true) (answer : Bool) :
      Readied board d g ready ({ d with muteCalls := d.muteCalls ++ [(false, answer)] }, g', true)
  | lost (hready : ready = false) (henabled : g.enabled = true) :
      Readied board d g ready ((OutputGuard.fault (guardOps board) d g).1, (OutputGuard.fault (guardOps board) d g).2,
        false)
  | refused (hready : ready = true) (henabled : g.enabled = false) (d' : AudioDevices) (answer : Bool)
    (hd : d' = { d with muteCalls := d.muteCalls ++ [(false, answer)] }) :
      Readied board d g ready ((OutputGuard.fault (guardOps board) d' g).1, (OutputGuard.fault (guardOps board) d' g).2,
        false)

theorem setReady_readied (board : ℕ → Bool) {d : AudioDevices} {g : OutputGuard} (h : Output d g)
    (hlatched : g.faultLatched = false) (peerReady watchdogReady : Bool) :
    Readied board d g (peerReady && watchdogReady) (g.setReady (guardOps board) d true peerReady watchdogReady) := by
  unfold OutputGuard.setReady
  rw [hlatched, if_neg Bool.false_ne_true, Bool.true_and]
  cases hready : peerReady && watchdogReady with
  | false =>
    rw [Bool.not_false, if_pos rfl]
    cases he : g.enabled with
    | false =>
      rw [if_neg Bool.false_ne_true, (h.muted_of hlatched he).2.1]
      exact .stays he.symm
    | true => exact .lost rfl he
  | true =>
    rw [Bool.not_true, if_neg Bool.false_ne_true]
    cases he : g.enabled with
    | true => exact .stays he.symm
    | false =>
      rw [if_neg Bool.false_ne_true]
      dsimp only [guardOps]
      cases hanswer : board d.muteCalls.length with
      | false => exact .refused rfl he _ false rfl
      | true => exact .opens rfl he ⟨g.faults, false, true, false⟩ rfl rfl true

/-- **The output after `set_ready`.** -/
theorem readied_output {board : ℕ → Bool} {d : AudioDevices} {g : OutputGuard} {ready : Bool}
    {r : AudioDevices × OutputGuard × Bool} (h : Output d g) (hlatched : g.faultLatched = false)
    (hr : Readied board d g ready r) : Output r.1 r.2.1 ∧ (r.2.2 = true → r.2.1.faultLatched = false) ∧
      (r.2.2 = false → r.2.1.faultLatched = true) := by
  cases hr with
  | stays => exact ⟨h, fun _ => hlatched, nofun⟩
  | opens _ he g' hl he' answer =>
    obtain ⟨hcalls, -, hio⟩ := h.muted_of hlatched he
    refine ⟨.opened ?_ hl he' hio, fun _ => hl, nofun⟩
    rw [List.map_append, hcalls]
    rfl
  | lost =>
    obtain ⟨hout, hl⟩ := fault_shut board h hlatched
    exact ⟨hout, nofun, fun _ => hl⟩
  | refused _ he d' answer hd =>
    obtain ⟨hcalls, -, hio⟩ := h.muted_of hlatched he
    have hio' : d'.io.initialized = true := by
      rw [hd]
      exact hio
    obtain ⟨hclosed, hfault, hl, hoff⟩ := fault_closed board g hio'
    refine ⟨.shut (.inr ?_) hl hoff hclosed, nofun, fun _ => hl⟩
    rw [hfault, hd, List.map_append, hcalls]
    rfl

/-- An output that is open after `set_ready` has everything ready. -/
theorem readied_enabled {board : ℕ → Bool} {d : AudioDevices} {g : OutputGuard} {ready : Bool}
    {r : AudioDevices × OutputGuard × Bool} (hr : Readied board d g ready r) (he : r.2.1.enabled = true) :
    ready = true := by
  cases hr with
  | stays h => exact h.trans he
  | opens hready => exact hready
  | lost => cases he
  | refused => cases he

/-- An output keeps its kind when its calls and its DMAs do, and what is closed stays so. -/
theorem Output.keep {d d' : AudioDevices} {g : OutputGuard} (h : Output d g) (hcalls : d'.muteCalls = d.muteCalls)
    (hio : d'.io.initialized = d.io.initialized) (hclosed : g.faultLatched = true → d.Closed → d'.Closed) :
    Output d' g := by
  cases h with
  | muted hc hl he hm hi => exact .muted (hcalls ▸ hc) hl he hm (hio.trans hi)
  | opened hc hl he hi => exact .opened (hcalls ▸ hc) hl he (hio.trans hi)
  | shut hc hl he hd => exact .shut (hcalls ▸ hc) hl he (hclosed hl hd)

/-- An output whose guard has latched is shut. -/
theorem Output.latched {d : AudioDevices} {g : OutputGuard} (h : Output d g) (hlatched : g.faultLatched = true) :
    (d.muteCalls.map Prod.fst = [true, true] ∨ d.muteCalls.map Prod.fst = [true, false, true]) ∧ g.enabled = false ∧
      d.Closed := by
  cases h with
  | muted _ hl => exact absurd (hl.symm.trans hlatched) Bool.false_ne_true
  | opened _ hl => exact absurd (hl.symm.trans hlatched) Bool.false_ne_true
  | shut hcalls _ henabled hclosed => exact ⟨hcalls, henabled, hclosed⟩

/-! ## The completions -/

theorem captureDone_initialized (s : Rt595AudioIo) (block : Block) (success started : Bool) :
    (MainLoop.captureDone s block success started).initialized = s.initialized := by
  have hmake : ∀ (s : Rt595AudioIo) next, (s.makeRoom next).initialized = s.initialized := by
    intro s next
    unfold Rt595AudioIo.makeRoom
    split <;> rfl
  unfold MainLoop.captureDone Rt595AudioIo.captureComplete
  dsimp only
  split <;> split
  · rfl
  · refine (hmake _ _).trans ?_
    split <;> rfl
  · rfl
  · refine (hmake _ _).trans ?_
    split <;> rfl

theorem playoutComplete_initialized (s : Rt595AudioIo) (success started : Bool) :
    (s.playoutComplete success started).1.initialized = s.initialized := by
  have hselect : ∀ (s : Rt595AudioIo) next, (s.selectPlayout next).initialized = s.initialized := by
    intro s next
    unfold Rt595AudioIo.selectPlayout
    split <;> rfl
  unfold Rt595AudioIo.playoutComplete
  split
  · rfl
  · refine (hselect _ _).trans ?_
    split <;> rfl

/-- A completion that comes after the devices were closed starts nothing. -/
theorem captureDone_closed {s : Rt595AudioIo} (hi : s.initialized = false) (hc : s.captureActive = false)
    (block : Block) (success started : Bool) : MainLoop.captureDone s block success started = s := by
  unfold MainLoop.captureDone Rt595AudioIo.captureComplete
  rw [hc, if_neg Bool.false_ne_true]
  dsimp only
  rw [hi]
  rfl

theorem playoutComplete_closed {s : Rt595AudioIo} (hi : s.initialized = false) (success started : Bool) :
    (s.playoutComplete success started).1 = s := by
  unfold Rt595AudioIo.playoutComplete
  rw [hi]
  rfl

theorem linkDone_closed {s : SpiPort} (ha : s.spi.transferActive = false) (wire : LinkWire) (success : Bool)
    (bytes : U16) : MainLoop.linkDone s wire success bytes =
      { s with spi := { s.spi with duplicateCompletions := incrementSaturating s.spi.duplicateCompletions } } := by
  unfold MainLoop.linkDone SpiPort.complete
  rw [ha, if_neg Bool.false_ne_true]
  dsimp only
  rw [ha]
  rfl

theorem takeCapture_initialized (s : Rt595AudioIo) : s.takeCapture.1.initialized = s.initialized := by
  unfold Rt595AudioIo.takeCapture
  split <;> rfl

theorem submitPlayout_initialized (s : Rt595AudioIo) (block : Block) :
    (s.submitPlayout block).1.initialized = s.initialized := by
  unfold Rt595AudioIo.submitPlayout
  split <;> rfl

/-! ## The invariant -/

namespace MainLoop

variable {ε δ γ μ : Type} (p : Platform ε δ γ μ)

/-- What holds between any two statements. -/
structure Inv (i : Fin 6) (w : MainLoop ε δ γ μ) : Prop where
  output : Output w.devices w.guard
  latched : w.guard.faultLatched = true ↔ ∃ reason, w.point = .halted reason
  reason : w.point ≠ .halted .runtimeFault
  audio : w.audio.Of i
  gate : GateQuiet w.gate
  ready : w.watchdogReady = true → w.feeds ≠ []
  enabled : w.guard.enabled = true → w.feeds ≠ []

/-- A loop that has not halted has no fault latched. -/
theorem Inv.running {i : Fin 6} {w : MainLoop ε δ γ μ} (h : w.Inv i) (hpoint : ∀ reason, w.point ≠ .halted reason) :
    w.guard.faultLatched = false := by
  refine Bool.eq_false_iff.2 fun hl => ?_
  obtain ⟨reason, hreason⟩ := h.latched.1 hl
  exact hpoint reason hreason

/-- A halt for any reason but a fault of the runtime keeps the invariant. -/
theorem Inv.halt {i : Fin 6} {w : MainLoop ε δ γ μ} (h : w.Inv i) (hlatched : w.guard.faultLatched = false)
    {reason : HaltReason} (hreason : reason ≠ .runtimeFault) : (w.halt p reason).Inv i := by
  obtain ⟨hout, hl⟩ := fault_shut p.board h.output hlatched
  refine ⟨hout, ⟨fun _ => ⟨reason, rfl⟩, fun _ => hl⟩, ?_, h.audio, h.gate, h.ready, nofun⟩
  intro hpoint
  exact hreason (LoopPoint.halted.inj hpoint)

/-- The completions keep the invariant at every point. -/
theorem Inv.complete {i : Fin 6} {w : MainLoop ε δ γ μ} (h : w.Inv i) {d : AudioDevices}
    (hcalls : d.muteCalls = w.devices.muteCalls) (hio : d.io.initialized = w.devices.io.initialized)
    (hclosed : w.devices.Closed → d.Closed) : { w with devices := d }.Inv i :=
  ⟨h.output.keep hcalls hio fun _ => hclosed, h.latched, h.reason, h.audio, h.gate, h.ready, h.enabled⟩

/-- What a statement leaves when it neither touches the output nor halts. -/
theorem Inv.pass {i : Fin 6} {w w' : MainLoop ε δ γ μ} (h : w.Inv i) (hlatched : w.guard.faultLatched = false)
    (hguard : w'.guard = w.guard) (hcalls : w'.devices.muteCalls = w.devices.muteCalls)
    (hio : w'.devices.io.initialized = w.devices.io.initialized) (hpoint : ∀ reason, w'.point ≠ .halted reason)
    (haudio : w'.audio.Of i) (hgate : GateQuiet w'.gate) (hready : w'.watchdogReady = true → w'.feeds ≠ [])
    (hfeeds : w.feeds ≠ [] → w'.feeds ≠ []) : w'.Inv i := by
  refine ⟨?_, ?_, hpoint _, haudio, hgate, hready, ?_⟩
  · rw [hguard]
    refine h.output.keep hcalls hio fun hl => ?_
    exact absurd (hlatched.symm.trans hl) Bool.false_ne_true
  · rw [hguard, hlatched]
    refine ⟨nofun, ?_⟩
    rintro ⟨reason, hreason⟩
    exact absurd hreason (hpoint reason)
  · rw [hguard]
    exact fun he => hfeeds (h.enabled he)

/-- **One statement keeps the invariant.** -/
theorem Inv.statement {i : Fin 6} {w : MainLoop ε δ γ μ} (h : w.Inv i) (startOk : Bool) :
    (w.statement p startOk).Inv i := by
  unfold MainLoop.statement
  split
  next hp =>
    exact h.pass (h.running fun _ => hp ▸ nofun) rfl rfl rfl (fun _ => nofun) ⟨h.audio.pipeline, h.audio.capture⟩ h.gate
      h.ready id
  next hp =>
    have hlatched := h.running fun _ => hp ▸ nofun
    split
    · exact h.halt p hlatched nofun
    · exact h.pass hlatched rfl rfl rfl (fun _ => nofun) h.audio h.gate h.ready id
  next hp =>
    have hlatched := h.running fun _ => hp ▸ nofun
    have hreadied := setReady_readied p.board h.output hlatched w.devices.port.spi.transport.latestStatusValid
      w.watchdogOk
    obtain ⟨hout, hgo, hstop⟩ := readied_output h.output hlatched hreadied
    refine ⟨hout, ?_, ?_, h.audio, h.gate, h.ready, fun he => ?_⟩
    · dsimp only
      split
      · next hr =>
        rw [hgo hr]
        exact ⟨nofun, nofun⟩
      · next hr => exact ⟨fun _ => ⟨_, rfl⟩, fun _ => hstop (Bool.eq_false_iff.2 hr)⟩
    · dsimp only
      split <;> nofun
    · have hok := readied_enabled hreadied he
      unfold watchdogOk at hok
      rw [Bool.and_eq_true, Bool.and_eq_true] at hok
      exact h.ready hok.2.1
  next hp =>
    have hlatched := h.running fun _ => hp ▸ nofun
    dsimp only
    split
    · refine h.pass hlatched rfl rfl rfl (fun reason => ?_) ?_ h.gate h.ready id
      · exact hp ▸ nofun
      · exact (Listening.ingestRemote_spec p.lc3 p.clockUs h.audio _).1
    · exact h.pass hlatched rfl rfl rfl (fun _ => nofun) h.audio h.gate h.ready id
  next hp =>
    refine h.pass (h.running fun _ => hp ▸ nofun) rfl rfl (takeCapture_initialized _) (fun reason => ?_) h.audio h.gate
      h.ready id
    dsimp only
    split <;> nofun
  next microphone hp =>
    -- a pipeline of a valid source takes every block, so the branch of the fault is never taken
    obtain ⟨hof, -, mask, -, hblock⟩ := Listening.process_spec p.lc3 p.clockUs h.audio microphone w.nowUs
    dsimp only
    rw [hblock]
    exact h.pass (h.running fun _ => hp ▸ nofun) rfl rfl rfl (fun _ => nofun) hof h.gate h.ready id
  next hp =>
    refine h.pass (h.running fun _ => hp ▸ nofun) rfl ?_ ?_ (fun _ => nofun) ⟨h.audio.pipeline, h.audio.capture⟩ h.gate
      h.ready id <;> dsimp only <;> split <;> rfl
  next hp =>
    exact h.pass (h.running fun _ => hp ▸ nofun) rfl rfl (submitPlayout_initialized _ _) (fun _ => nofun) h.audio h.gate
      h.ready id
  next hp =>
    refine h.pass (h.running fun _ => hp ▸ nofun) rfl rfl rfl (fun _ => nofun) ⟨h.audio.pipeline, h.audio.capture⟩
      (serviceGate_spec h.gate _).1 ?_ ?_ <;> dsimp only <;> split
    · exact fun _ => List.concat_ne_nil _ _
    · next hno =>
      rw [Bool.not_eq_true] at hno
      rw [hno, Bool.or_false]
      exact h.ready
    · exact fun _ => List.concat_ne_nil _ _
    · exact id
  next hp =>
    have hlatched := h.running fun _ => hp ▸ nofun
    split
    · exact h.pass hlatched rfl rfl rfl (fun _ => nofun) h.audio h.gate h.ready id
    · exact h.pass hlatched rfl rfl rfl (fun _ => nofun) h.audio h.gate h.ready id
  next hp => exact h

/-- **One step keeps the invariant**, at whatever statement a completion comes. -/
theorem Inv.step {i : Fin 6} {w : MainLoop ε δ γ μ} (h : w.Inv i) (event : Event) : (w.step p event).Inv i := by
  cases event with
  | statement startOk => exact h.statement p startOk
  | captureComplete block success started =>
    refine h.complete rfl (captureDone_initialized _ _ _ _) fun hd => ⟨?_, hd.port⟩
    dsimp only
    rw [captureDone_closed hd.io.1 hd.io.2.1]
    exact hd.io
  | playoutComplete success started =>
    refine h.complete rfl (playoutComplete_initialized _ _ _) fun hd => ⟨?_, hd.port⟩
    dsimp only
    rw [playoutComplete_closed hd.io.1]
    exact hd.io
  | linkComplete wire success bytes =>
    refine h.complete rfl rfl fun hd => ⟨hd.io, ?_⟩
    dsimp only
    rw [linkDone_closed hd.port.1]
    exact hd.port

/-- The loop is entered with the invariant, halted or not. -/
theorem inv_start {localSourceId : U8} {initialSequence : U16} {runtime : AudioRuntime}
    (hinit : AudioRuntime.init localSourceId initialSequence = some runtime) {nowMs : U64} {gate : WatchdogGate}
    (hgate : WatchdogGate.init loopConfig nowMs = some gate) (codec : Lc3Codec ε δ) (clock : γ)
    (boot : Rt595BootState) (records : μ) (confirmation : AppConfirmation) (confirmationActive storageOk : Bool) :
    ∃ i, (start p ⟨runtime, codec, clock⟩ gate boot records confirmation confirmationActive storageOk).Inv i := by
  obtain ⟨i, -, hof, -⟩ := Listening.init_of hinit codec clock
  have hquiet : GateQuiet gate := by
    have hgate' : WatchdogGate.init loopConfig nowMs =
        some ⟨loopConfig, nowMs, nowMs, fun _ => 0, 0, 0, 0, 0, 0, 0, false⟩ := rfl
    rw [hgate'] at hgate
    obtain rfl := Option.some.inj hgate
    exact ⟨rfl, BitVec.zero_and⟩
  have hpoint : ∀ reason, LoopPoint.poll ≠ .halted reason := fun _ => nofun
  have hmuted : (start p ⟨runtime, codec, clock⟩ gate boot records confirmation confirmationActive true).Inv i :=
    ⟨.muted rfl rfl rfl rfl rfl, ⟨fun h => absurd h Bool.false_ne_true, fun ⟨reason, h⟩ => absurd h (hpoint reason)⟩,
      hpoint _, hof, hquiet, fun h => absurd h Bool.false_ne_true, fun h => absurd h Bool.false_ne_true⟩
  refine ⟨i, ?_⟩
  cases storageOk with
  | true => exact hmuted
  | false => exact hmuted.halt p rfl nofun

/-- A loop that has halted does nothing any more, whatever completes. -/
theorem step_halted {w : MainLoop ε δ γ μ} {reason : HaltReason} (h : w.point = .halted reason) (event : Event) :
    (w.step p event).point = w.point ∧ (w.step p event).devices.muteCalls = w.devices.muteCalls ∧
      (w.step p event).feeds = w.feeds := by
  cases event with
  | statement startOk =>
    unfold step statement
    rw [h]
    exact ⟨h, rfl, rfl⟩
  | captureComplete => exact ⟨rfl, rfl, rfl⟩
  | playoutComplete => exact ⟨rfl, rfl, rfl⟩
  | linkComplete => exact ⟨rfl, rfl, rfl⟩

/-- **Main result: the loop fails closed.** Over every interleaving of the statements and the completions the output is
opened at most once; a loop that halts has muted it, and from then on nothing runs and nothing is asked for. A block
never fails in the runtime. -/
theorem fails_closed {localSourceId : U8} {initialSequence : U16} {runtime : AudioRuntime}
    (hinit : AudioRuntime.init localSourceId initialSequence = some runtime) {nowMs : U64} {gate : WatchdogGate}
    (hgate : WatchdogGate.init loopConfig nowMs = some gate) (codec : Lc3Codec ε δ) (clock : γ)
    (boot : Rt595BootState) (records : μ) (confirmation : AppConfirmation) (confirmationActive storageOk : Bool)
    (events : List Event) :
    let w := events.foldl (step p)
      (start p ⟨runtime, codec, clock⟩ gate boot records confirmation confirmationActive storageOk)
    let calls := w.devices.muteCalls.map Prod.fst
    (calls = [true] ∨ calls = [true, false] ∨ calls = [true, true] ∨ calls = [true, false, true]) ∧
      (w.guard.enabled = true ↔ calls = [true, false]) ∧
      ∀ reason, w.point = .halted reason →
        reason ≠ .runtimeFault ∧ calls.getLast? = some true ∧ w.guard.enabled = false ∧
          ∀ later : List Event, let w' := later.foldl (step p) w
            w'.point = w.point ∧ w'.devices.muteCalls = w.devices.muteCalls ∧ w'.feeds = w.feeds ∧
              w'.devices.Closed := by
  intro w calls
  obtain ⟨i, hstart⟩ := inv_start p hinit hgate codec clock boot records confirmation confirmationActive storageOk
  have hinv : w.Inv i := Run.inv_run (fun _ event h => h.step p event) hstart events
  have hend : (calls = [true] ∧ w.guard.enabled = false) ∨ (calls = [true, false] ∧ w.guard.enabled = true) ∨
      (calls = [true, true] ∧ w.guard.enabled = false) ∨ (calls = [true, false, true] ∧ w.guard.enabled = false) := by
    cases hinv.output with
    | muted hcalls _ henabled => exact .inl ⟨hcalls, henabled⟩
    | opened hcalls _ henabled => exact .inr (.inl ⟨hcalls, henabled⟩)
    | shut hcalls _ henabled =>
      exact .inr (.inr (hcalls.imp (fun hc => ⟨hc, henabled⟩) fun hc => ⟨hc, henabled⟩))
  refine ⟨?_, ?_, fun reason hreason => ?_⟩
  · exact hend.imp And.left (Or.imp And.left (Or.imp And.left And.left))
  · rcases hend with ⟨hc, he⟩ | ⟨hc, he⟩ | ⟨hc, he⟩ | ⟨hc, he⟩ <;> rw [hc, he] <;> decide
  have hlatched : w.guard.faultLatched = true := hinv.latched.2 ⟨reason, hreason⟩
  have hkept : ∀ later : List Event, let w' := later.foldl (step p) w
      w'.Inv i ∧ w'.point = w.point ∧ w'.devices.muteCalls = w.devices.muteCalls ∧ w'.feeds = w.feeds := by
    refine fun later => Run.inv_run (P := fun w' : MainLoop ε δ γ μ => w'.Inv i ∧ w'.point = w.point ∧
      w'.devices.muteCalls = w.devices.muteCalls ∧ w'.feeds = w.feeds) ?_ ⟨hinv, rfl, rfl, rfl⟩ later
    rintro v event ⟨hv, hpoint, hcalls, hfeeds⟩
    obtain ⟨hpoint', hcalls', hfeeds'⟩ := step_halted p (hpoint.trans hreason) event
    exact ⟨hv.step p event, hpoint'.trans hpoint, hcalls'.trans hcalls, hfeeds'.trans hfeeds⟩
  obtain ⟨hcalls, henabled, -⟩ := hinv.output.latched hlatched
  refine ⟨fun hr => hinv.reason (hreason.trans (congrArg _ hr)), ?_, henabled, fun later => ?_⟩
  · rcases hcalls with hc | hc
    · exact (congrArg List.getLast? hc).trans rfl
    · exact (congrArg List.getLast? hc).trans rfl
  · obtain ⟨hv, hpoint, hsame, hfeeds⟩ := hkept later
    exact ⟨hpoint, hsame, hfeeds, (hv.output.latched (hv.latched.2 ⟨reason, hpoint.trans hreason⟩)).2.2⟩

/-- A codec that keeps its first bytes, a clock that stands still, no boot records and a board that answers. -/
def benchPlatform : Platform Unit Nat Unit Unit :=
  ⟨Listening.plainLc3, fun g => (g, 0), ⟨fun k _ => (k, none), fun k _ _ => (k, false)⟩, fun _ => true, true⟩

/-- The capture DMA fails; the next turn finds it. -/
def captureError : List Event := [.captureComplete silentBlock false true, .statement true, .statement true]

/-- The loop on the bench, over the codec and the gate of a cold start. -/
def bench (runtime : AudioRuntime) : MainLoop Unit Nat Unit Unit :=
  start benchPlatform ⟨runtime, ⟨(), fun _ => 0⟩, ()⟩ (Watchdog.loopGate 0) .init () .zero false true

theorem fails_closed_capture_error : ∃ runtime, AudioRuntime.init 3 0 = some runtime ∧
    let w := captureError.foldl (step benchPlatform) (bench runtime)
    w.point = .halted .outputFault ∧ w.devices.muteCalls.map Prod.fst = [true, true] ∧
      ∀ later : List Event, (later.foldl (step benchPlatform) w).devices.Closed := by
  have hruntime : (AudioRuntime.init 3 0).isSome = true := by decide
  have hinit := (Option.some_get hruntime).symm
  have hgate : WatchdogGate.init loopConfig (Watchdog.nowMs 0) = some (Watchdog.loopGate 0) := rfl
  refine ⟨_, hinit, rfl, rfl, fun later => ?_⟩
  obtain ⟨-, -, hhalted⟩ :=
    fails_closed benchPlatform hinit hgate ⟨(), fun _ => 0⟩ () .init () .zero false true captureError
  exact ((hhalted .outputFault rfl).2.2.2 later).2.2.2

/-! ## Opening and feeding -/

/-- What the gate and the feeds become: as they were, but after a block. -/
theorem step_gate (w : MainLoop ε δ γ μ) (event : Event) :
    ((w.step p event).gate = w.gate ∧ (w.step p event).feeds = w.feeds) ∨
      (w.point = .watch ∧ ∃ nowMs, (w.step p event).gate = (serviceGate w.gate nowMs).1 ∧
        (w.step p event).feeds = if (serviceGate w.gate nowMs).2 then w.feeds ++ [nowMs] else w.feeds) := by
  cases event with
  | captureComplete => exact .inl ⟨rfl, rfl⟩
  | playoutComplete => exact .inl ⟨rfl, rfl⟩
  | linkComplete => exact .inl ⟨rfl, rfl⟩
  | statement startOk =>
    unfold step statement
    dsimp only
    split
    next => exact .inl ⟨rfl, rfl⟩
    next => split <;> exact .inl ⟨rfl, rfl⟩
    next => exact .inl ⟨rfl, rfl⟩
    next => split <;> exact .inl ⟨rfl, rfl⟩
    next => exact .inl ⟨rfl, rfl⟩
    next => split <;> exact .inl ⟨rfl, rfl⟩
    next => exact .inl ⟨rfl, rfl⟩
    next => exact .inl ⟨rfl, rfl⟩
    next hp => exact .inr ⟨hp, _, rfl, rfl⟩
    next => split <;> exact .inl ⟨rfl, rfl⟩
    next => exact .inl ⟨rfl, rfl⟩

/-- A fault that the gate found stays found, and nothing is fed from then on. -/
theorem Inv.step_fault {i : Fin 6} {w : MainLoop ε δ γ μ} (h : w.Inv i) (hfault : w.gate.lastFaultMask ≠ 0)
    (event : Event) : (w.step p event).gate.lastFaultMask ≠ 0 ∧ (w.step p event).feeds = w.feeds := by
  rcases step_gate p w event with ⟨hgate, hfeeds⟩ | ⟨-, nowMs, hgate, hfeeds⟩
  · rw [hgate]
    exact ⟨hfault, hfeeds⟩
  · obtain ⟨hfault', hfed⟩ := (serviceGate_spec h.gate nowMs).2 hfault
    rw [hgate]
    refine ⟨hfault', hfeeds.trans ?_⟩
    rw [hfed, if_neg Bool.false_ne_true]

/-- The statements between a block and the turn of the guard. -/
def BeforeGuard (w : MainLoop ε δ γ μ) : Prop :=
  match w.point with
  | .poll | .faults | .ready | .confirm _ => True
  | _ => False

/-- Where the gate has found a fault, the output is open at most until the guard is asked. -/
def Heard (w : MainLoop ε δ γ μ) : Prop := w.gate.lastFaultMask ≠ 0 → w.guard.enabled = true → w.BeforeGuard

/-- **A fault of the gate shuts the output at the next turn.** -/
theorem Inv.step_heard {i : Fin 6} {w : MainLoop ε δ γ μ} (h : w.Inv i) (hw : w.Heard) (event : Event) :
    (w.step p event).Heard := by
  have hpast (hlate : w.BeforeGuard → False) {b : Prop} : w.gate.lastFaultMask ≠ 0 → w.guard.enabled = true → b :=
    fun hfault he => (hlate (hw hfault he)).elim
  cases event with
  | captureComplete => exact hw
  | playoutComplete => exact hw
  | linkComplete => exact hw
  | statement startOk =>
    unfold BeforeGuard at hpast
    unfold Heard
    unfold MainLoop.step MainLoop.statement
    dsimp only
    split
    next => exact fun _ _ => trivial
    next =>
      split
      · exact fun _ he => absurd he Bool.false_ne_true
      · exact fun _ _ => trivial
    next hp =>
      intro hfault he
      have hlatched := h.running fun _ => hp ▸ nofun
      have hready := readied_enabled (setReady_readied p.board h.output hlatched _ _) he
      unfold watchdogOk at hready
      rw [Bool.and_eq_true, Bool.and_eq_true, decide_eq_true_eq] at hready
      exact absurd hready.2.2 hfault
    next hp =>
      rw [hp] at hpast
      split <;> exact hpast id
    next hp =>
      rw [hp] at hpast
      exact hpast id
    next hp =>
      rw [hp] at hpast
      split
      · exact hpast id
      · exact fun _ he => absurd he Bool.false_ne_true
    next hp =>
      rw [hp] at hpast
      exact hpast id
    next hp =>
      rw [hp] at hpast
      exact hpast id
    next => exact fun _ _ => trivial
    next => split <;> exact fun _ _ => trivial
    next hp =>
      rw [hp] at hpast
      exact hpast id

/-- **The output is opened at the turn of the guard**, and only when everything is ready. -/
theorem Inv.step_opens {i : Fin 6} {w : MainLoop ε δ γ μ} (h : w.Inv i) (event : Event)
    (hopen : false ∈ (w.step p event).devices.muteCalls.map Prod.fst)
    (hshut : false ∉ w.devices.muteCalls.map Prod.fst) :
    w.point = .ready ∧ (w.devices.port.spi.transport.latestStatusValid && w.watchdogOk) = true := by
  have hmute : ∀ g, false ∉ (OutputGuard.fault (guardOps p.board) w.devices g).1.muteCalls.map Prod.fst := by
    intro g hm
    rcases List.mem_append.1 (List.map_append ▸ hm) with hm | hm
    · exact hshut hm
    · cases List.mem_singleton.1 hm
  cases event with
  | captureComplete => exact absurd hopen hshut
  | playoutComplete => exact absurd hopen hshut
  | linkComplete => exact absurd hopen hshut
  | statement startOk =>
    unfold MainLoop.step MainLoop.statement at hopen
    dsimp only at hopen
    split at hopen
    next => exact absurd hopen hshut
    next =>
      split at hopen
      · exact absurd hopen (hmute w.guard)
      · exact absurd hopen hshut
    next hp =>
      have hlatched := h.running fun _ => hp ▸ nofun
      refine ⟨hp, ?_⟩
      have hreadied := setReady_readied p.board h.output hlatched w.devices.port.spi.transport.latestStatusValid
        w.watchdogOk
      generalize hr : w.guard.setReady (guardOps p.board) w.devices true
        w.devices.port.spi.transport.latestStatusValid w.watchdogOk = r at hopen hreadied
      cases hreadied with
      | stays => exact absurd hopen hshut
      | opens hready => exact hready
      | lost => exact absurd hopen (hmute w.guard)
      | refused hready => exact hready
    next => split at hopen <;> exact absurd hopen hshut
    next => exact absurd hopen hshut
    next =>
      split at hopen
      · exact absurd hopen hshut
      · exact absurd hopen (hmute w.guard)
    next =>
      split at hopen <;> exact absurd hopen hshut
    next => exact absurd hopen hshut
    next => exact absurd hopen hshut
    next => split at hopen <;> exact absurd hopen hshut
    next => exact absurd hopen hshut

/-- **Main result: the output is open only while the loop is sound.** Over every interleaving it is opened at a turn
with a valid peer, after the watchdog was fed and with no fault of its gate; the watchdog is fed after a block and with no
fault left. Once the gate has found a fault nothing is fed again, and the next turn of the guard shuts the output. -/
theorem fed_while_sound {localSourceId : U8} {initialSequence : U16} {runtime : AudioRuntime}
    (hinit : AudioRuntime.init localSourceId initialSequence = some runtime) {nowMs : U64} {gate : WatchdogGate}
    (hgate : WatchdogGate.init loopConfig nowMs = some gate) (codec : Lc3Codec ε δ) (clock : γ)
    (boot : Rt595BootState) (records : μ) (confirmation : AppConfirmation) (confirmationActive storageOk : Bool)
    (events : List Event) :
    let w := events.foldl (step p)
      (start p ⟨runtime, codec, clock⟩ gate boot records confirmation confirmationActive storageOk)
    (∀ event, let w' := w.step p event
      (false ∈ w'.devices.muteCalls.map Prod.fst → false ∉ w.devices.muteCalls.map Prod.fst →
        w.point = .ready ∧ w.devices.port.spi.transport.latestStatusValid = true ∧ w.feeds ≠ [] ∧
          w.gate.lastFaultMask = 0) ∧
      (w'.feeds ≠ w.feeds → w.point = .watch ∧ w.gate.lastFaultMask = 0)) ∧
    (w.gate.lastFaultMask ≠ 0 → ∀ later : List Event, let w' := later.foldl (step p) w
      w'.gate.lastFaultMask ≠ 0 ∧ w'.feeds = w.feeds ∧ (w'.guard.enabled = true → w'.BeforeGuard)) := by
  intro w
  obtain ⟨i, hstart⟩ := inv_start p hinit hgate codec clock boot records confirmation confirmationActive storageOk
  have hfresh : (start p ⟨runtime, codec, clock⟩ gate boot records confirmation confirmationActive
      storageOk).guard.enabled = false := by
    cases storageOk <;> rfl
  have hkept : ∀ (v : MainLoop ε δ γ μ) event, v.Inv i ∧ v.Heard → (v.step p event).Inv i ∧ (v.step p event).Heard :=
    fun _ event h => ⟨h.1.step p event, h.1.step_heard p h.2 event⟩
  obtain ⟨hinv, hheard⟩ : w.Inv i ∧ w.Heard :=
    Run.inv_run hkept ⟨hstart, fun _ he => absurd (hfresh.symm.trans he) Bool.false_ne_true⟩ events
  refine ⟨fun event => ⟨fun hopen hshut => ?_, fun hfed => ?_⟩, fun hfault later => ?_⟩
  · obtain ⟨hp, hready⟩ := hinv.step_opens p event hopen hshut
    unfold watchdogOk at hready
    rw [Bool.and_eq_true, Bool.and_eq_true, decide_eq_true_eq] at hready
    exact ⟨hp, hready.1, hinv.ready hready.2.1, hready.2.2⟩
  · rcases step_gate p w event with ⟨-, hfeeds⟩ | ⟨hp, -⟩
    · exact absurd hfeeds hfed
    · exact ⟨hp, not_not.1 fun hfault => hfed (hinv.step_fault p hfault event).2⟩
  · have hlater : ∀ (v : MainLoop ε δ γ μ) event,
        ((v.Inv i ∧ v.Heard) ∧ v.gate.lastFaultMask ≠ 0 ∧ v.feeds = w.feeds) →
          ((v.step p event).Inv i ∧ (v.step p event).Heard) ∧ (v.step p event).gate.lastFaultMask ≠ 0 ∧
            (v.step p event).feeds = w.feeds := by
      rintro v event ⟨hv, hno, hfeeds⟩
      obtain ⟨hno', hsame⟩ := hv.1.step_fault p hno event
      exact ⟨hkept v event hv, hno', hsame.trans hfeeds⟩
    obtain ⟨⟨-, hbefore⟩, hfault', hfeeds⟩ := Run.inv_run hlater ⟨⟨hinv, hheard⟩, hfault, rfl⟩ later
    exact ⟨hfault', hfeeds, hbefore hfault'⟩

/-- The bench with a timer that reads as listed. -/
def timedPlatform : Platform Unit Nat (List U32) Unit :=
  ⟨Listening.plainLc3, fun g => (g.tail, g.headD 0), ⟨fun k _ => (k, none), fun k _ _ => (k, false)⟩, fun _ => true,
    true⟩

/-- A status of the peer. -/
def peerStatus : AudioLinkFrame := { AudioLinkFrame.zero with kind := linkStatus }

/-- A first block is played and feeds the watchdog, then the peer's status comes in. -/
def firstBlock : List Event :=
  .captureComplete silentBlock true true :: List.replicate 10 (.statement true) ++
    .linkComplete peerStatus.wire true 98 :: List.replicate 2 (.statement true)

/-- The guard opens the output, and the next block ends 900 ms later. -/
def lateBlock : List Event :=
  .statement true :: .captureComplete silentBlock true true :: List.replicate 6 (.statement true)

/-- The loop on the bench with that timer. -/
def timedBench (runtime : AudioRuntime) : MainLoop Unit Nat (List U32) Unit :=
  start timedPlatform ⟨runtime, ⟨(), fun _ => 0⟩, [0, 0, 0, 0, 0, 0, 0, 0, 900000, 900000]⟩ (Watchdog.loopGate 0) .init
    () .zero false true

set_option maxRecDepth 4000 in
theorem fed_while_sound_late_block : ∃ runtime, AudioRuntime.init 3 0 = some runtime ∧
    let v := firstBlock.foldl (step timedPlatform) (timedBench runtime)
    let w := (firstBlock ++ lateBlock).foldl (step timedPlatform) (timedBench runtime)
    (v.point = .ready ∧ v.devices.port.spi.transport.latestStatusValid = true ∧ v.feeds ≠ [] ∧
        false ∈ (v.step timedPlatform (.statement true)).devices.muteCalls.map Prod.fst) ∧
      w.guard.enabled = true ∧ ∀ later : List Event, let w' := later.foldl (step timedPlatform) w
        w'.feeds = [0] ∧ (w'.guard.enabled = true → w'.BeforeGuard) := by
  have hinit : AudioRuntime.init 3 0 = some ((AudioRuntime.init 3 0).get rfl) := (Option.some_get _).symm
  have hgate : WatchdogGate.init loopConfig (Watchdog.nowMs 0) = some (Watchdog.loopGate 0) := rfl
  refine ⟨_, hinit, ?_⟩
  have hsound := fed_while_sound timedPlatform hinit hgate ⟨(), fun _ => 0⟩ [0, 0, 0, 0, 0, 0, 0, 0, 900000, 900000]
    .init () .zero false true
  have hbench : start timedPlatform _ _ _ _ _ _ _ = timedBench ((AudioRuntime.init 3 0).get rfl) := rfl
  have hrun : let v := firstBlock.foldl (step timedPlatform) (timedBench ((AudioRuntime.init 3 0).get rfl))
      let w := (firstBlock ++ lateBlock).foldl (step timedPlatform) (timedBench ((AudioRuntime.init 3 0).get rfl))
      (false ∈ (v.step timedPlatform (.statement true)).devices.muteCalls.map Prod.fst ∧
        false ∉ v.devices.muteCalls.map Prod.fst) ∧
          w.guard.enabled = true ∧ w.gate.lastFaultMask ≠ 0 ∧ w.feeds = [0] := by
    decide +kernel
  rw [hbench] at hsound
  generalize timedBench _ = bench at hsound hrun ⊢
  obtain ⟨⟨hopens, hshut⟩, henabled, hfault, hfed⟩ := hrun
  obtain ⟨hpoint, hpeer, hfeeds, -⟩ := ((hsound firstBlock).1 (.statement true)).1 hopens hshut
  refine ⟨⟨hpoint, hpeer, hfeeds, hopens⟩, henabled, fun later => ?_⟩
  obtain ⟨-, hsame, hguard⟩ := (hsound (firstBlock ++ lateBlock)).2 hfault later
  exact ⟨hsame.trans hfed, hguard⟩

end MainLoop

end OpenRef.Audio
