import OpenRef.Audio.Mixer
import OpenRef.Lib.Ledger
import OpenRef.Lib.Run
/-!
# Sample buffers of the audio processor (openref_rt595_audio_io.c)

Two buffers in each direction: the DMA owns the one at the index, and the application the other one. A
completion of the capture DMA marks its buffer as ready, drops a block that still waits in the other one and
starts there; a completion of the playout DMA starts the buffer that was submitted, or one of silence.

A run keeps what an observer sees: the buffers the two DMAs were last started on, the blocks captured and what
became of each, and the blocks submitted and handed to the playout DMA. `SharesSafely` compares this with the
events of the run and with what the code answers next. `audio_io_safe` proves it for any interleaving in which
every restart of a DMA succeeds.
-/

namespace OpenRef.Audio

/-- What `memset` leaves of a block. -/
def silentBlock : Block := fun _ => 0

/-- `index ^ 1u`. -/
def otherBuffer (i : Fin 2) : Fin 2 := 1 - i

theorem otherBuffer_ne (i : Fin 2) : otherBuffer i ≠ i := by
  revert i; decide

theorem otherBuffer_otherBuffer (i : Fin 2) : otherBuffer (otherBuffer i) = i := by
  revert i; decide

/-- `openref_rt595_audio_io_t`. -/
structure Rt595AudioIo where
  capture : Fin 2 → Block
  playout : Fin 2 → Block
  captureReady : Fin 2 → Bool
  playoutReady : Fin 2 → Bool
  captureActive : Bool
  playoutActive : Bool
  captureIndex : Fin 2
  playoutIndex : Fin 2
  captureBlocks : U32
  playoutBlocks : U32
  captureOverruns : U32
  playoutUnderruns : U32
  dmaFailures : U32
  initialized : Bool

namespace Rt595AudioIo

/-- `openref_rt595_audio_io_init` (:6) when the two DMAs start on their first buffers. -/
def init : Rt595AudioIo :=
  ⟨fun _ => silentBlock, fun _ => silentBlock, fun _ => false, fun _ => false, true, true, 0, 0, 0, 0, 0, 0, 0, true⟩

/-- The finished block is ready (:7). -/
def blockCaptured (s : Rt595AudioIo) : Rt595AudioIo :=
  { s with
    captureOverruns :=
      if s.captureReady s.captureIndex then incrementSaturating s.captureOverruns else s.captureOverruns
    captureReady := Function.update s.captureReady s.captureIndex true
    captureBlocks := incrementSaturating s.captureBlocks }

/-- A block that waits in the buffer that is needed is lost (:7). -/
def makeRoom (s : Rt595AudioIo) (next : Fin 2) : Rt595AudioIo :=
  if s.captureReady next then
    { s with
      captureReady := Function.update s.captureReady next false
      captureOverruns := incrementSaturating s.captureOverruns }
  else s

/-- The capture DMA is started on a buffer (:7); `started` is what it answers. -/
def restartCapture (s : Rt595AudioIo) (next : Fin 2) (started : Bool) : Rt595AudioIo :=
  { s with
    captureIndex := next
    captureActive := started
    dmaFailures := if started then s.dmaFailures else incrementSaturating s.dmaFailures }

/-- `openref_rt595_audio_io_capture_complete` (:7), with the buffer the DMA is started on. -/
def captureComplete (s : Rt595AudioIo) (success started : Bool) : Rt595AudioIo × Option (Fin 2) :=
  if !s.initialized || !s.captureActive then (s, none)
  else
    let next := otherBuffer s.captureIndex
    let finished := if success then s.blockCaptured else { s with dmaFailures := incrementSaturating s.dmaFailures }
    ((finished.makeRoom next).restartCapture next started, some next)

/-- The block that is played next, silence where none was submitted (:8). -/
def selectPlayout (s : Rt595AudioIo) (next : Fin 2) : Rt595AudioIo :=
  if s.playoutReady next then { s with playoutReady := Function.update s.playoutReady next false }
  else
    { s with
      playout := Function.update s.playout next silentBlock
      playoutUnderruns := incrementSaturating s.playoutUnderruns
      playoutReady := Function.update s.playoutReady next false }

/-- `openref_rt595_audio_io_playout_complete` (:8), with the buffer the DMA is started on. -/
def playoutComplete (s : Rt595AudioIo) (success started : Bool) : Rt595AudioIo × Option (Fin 2) :=
  if !s.initialized || !s.playoutActive then (s, none)
  else
    let next := otherBuffer s.playoutIndex
    let finished :=
      if success then { s with playoutBlocks := incrementSaturating s.playoutBlocks }
      else { s with dmaFailures := incrementSaturating s.dmaFailures }
    let selected := finished.selectPlayout next
    ({ selected with
      playoutIndex := next
      playoutActive := started
      dmaFailures := if started then selected.dmaFailures else incrementSaturating selected.dmaFailures }, some next)

/-- The buffer that `openref_rt595_audio_io_take_capture` copies (:9). -/
def takeReads (s : Rt595AudioIo) : Option (Fin 2) :=
  if !s.initialized then none
  else if s.captureReady (otherBuffer s.captureIndex) then some (otherBuffer s.captureIndex)
  else if s.captureReady s.captureIndex then some s.captureIndex
  else none

/-- `openref_rt595_audio_io_take_capture` (:9). -/
def takeCapture (s : Rt595AudioIo) : Rt595AudioIo × Option Block :=
  match s.takeReads with
  | none => (s, none)
  | some i => ({ s with captureReady := Function.update s.captureReady i false }, some (s.capture i))

/-- The buffer that `openref_rt595_audio_io_submit_playout` fills (:10). -/
def submitWrites (s : Rt595AudioIo) : Option (Fin 2) :=
  if !s.initialized || s.playoutReady (otherBuffer s.playoutIndex) then none else some (otherBuffer s.playoutIndex)

/-- `openref_rt595_audio_io_submit_playout` (:10). -/
def submitPlayout (s : Rt595AudioIo) (block : Block) : Rt595AudioIo × Bool :=
  match s.submitWrites with
  | none => (s, false)
  | some i =>
    ({ s with
      playout := Function.update s.playout i block
      playoutReady := Function.update s.playoutReady i true }, true)

/-- The captured block that waits to be taken. -/
def waiting (s : Rt595AudioIo) : List Block :=
  if s.captureReady (otherBuffer s.captureIndex) then [s.capture (otherBuffer s.captureIndex)] else []

/-- The submitted block that waits to be played. -/
def queued (s : Rt595AudioIo) : List Block :=
  if s.playoutReady (otherBuffer s.playoutIndex) then [s.playout (otherBuffer s.playoutIndex)] else []

end Rt595AudioIo

/-! ## Runs -/

/-- What happens to the buffers. The capture DMA may fill the buffer it owns at any time. -/
inductive AudioIoEvent
  | dmaFills (block : Block)
  | captureComplete (success : Bool)
  | playoutComplete (success : Bool)
  | takeCapture
  | submitPlayout (block : Block)

/-- What became of a captured block. -/
inductive CaptureFate
  | taken
  | overrun
deriving DecidableEq, Repr

/-- A block that was handed to the playout DMA, and whether it had been submitted. -/
structure HandedBlock where
  block : Block
  submitted : Bool

/-- The buffers, what the two DMAs own, and what went through them so far. -/
structure AudioIoRun where
  io : Rt595AudioIo
  captureDma : Fin 2
  playoutDma : Fin 2
  captured : List Block
  gone : List (Block × CaptureFate)
  submitted : List Block
  handed : List HandedBlock

namespace AudioIoRun

def init : AudioIoRun := ⟨Rt595AudioIo.init, 0, 0, [], [], [], []⟩

/-- One event, every restart of a DMA succeeding. A capture completion drops the block that waits. -/
def step (r : AudioIoRun) : AudioIoEvent → AudioIoRun
  | .dmaFills block => { r with io := { r.io with capture := Function.update r.io.capture r.captureDma block } }
  | .captureComplete success =>
    { r with
      io := (r.io.captureComplete success true).1
      captureDma := (r.io.captureComplete success true).2.getD r.captureDma
      captured := if success then r.captured ++ [r.io.capture r.captureDma] else r.captured
      gone := r.gone ++ r.io.waiting.map fun block => (block, .overrun) }
  | .playoutComplete success =>
    let started := r.io.playoutComplete success true
    { r with
      io := started.1
      playoutDma := started.2.getD r.playoutDma
      handed := r.handed ++ started.2.toList.map fun i => ⟨started.1.playout i, r.io.playoutReady i⟩ }
  | .takeCapture =>
    { r with
      io := r.io.takeCapture.1
      gone := r.gone ++ r.io.takeCapture.2.toList.map fun block => (block, .taken) }
  | .submitPlayout block =>
    { r with
      io := (r.io.submitPlayout block).1
      submitted := if (r.io.submitPlayout block).2 then r.submitted ++ [block] else r.submitted }

def run (events : List AudioIoEvent) : AudioIoRun := events.foldl step init

end AudioIoRun

/-- A block was captured. -/
def AudioIoEvent.captures : AudioIoEvent → Bool
  | .captureComplete success => success
  | _ => false

/-- A block was played. -/
def AudioIoEvent.plays : AudioIoEvent → Bool
  | .playoutComplete _ => true
  | _ => false

/-- What each call does next. A completion starts its DMA on the buffer it does not own; the playout DMA gets
the block that waits there, and silence with one underrun where none does. -/
structure Serves (r : AudioIoRun) : Prop where
  take : r.io.takeCapture.2 = r.io.waiting.head? ∧ r.io.takeCapture.1.waiting = []
  submit : ∀ block, (r.io.submitPlayout block).2 = r.io.queued.isEmpty ∧
    (r.io.submitPlayout block).1.queued = [r.io.queued.head?.getD block]
  capture : ∀ success, (r.io.captureComplete success true).2 = some (otherBuffer r.captureDma) ∧
    (r.io.captureComplete success true).1.waiting = if success then [r.io.capture r.captureDma] else []
  play : ∀ success, (r.io.playoutComplete success true).2 = some (otherBuffer r.playoutDma) ∧
    (r.io.playoutComplete success true).1.playout (otherBuffer r.playoutDma) =
      r.io.queued.head?.getD silentBlock ∧
    (r.io.playoutComplete success true).1.queued = [] ∧
    (r.io.playoutComplete success true).1.playoutUnderruns =
      if r.io.queued.isEmpty then incrementSaturating r.io.playoutUnderruns else r.io.playoutUnderruns

/-- The two sides share the buffers safely: no buffer has two users, each completion with a block captures one
and each playout completion starts one, and none is lost, repeated or changed but as counted. -/
structure SharesSafely (events : List AudioIoEvent) (r : AudioIoRun) : Prop where
  serves : Serves r
  captures : r.captured.length = events.countP AudioIoEvent.captures
  plays : r.handed.length = events.countP AudioIoEvent.plays
  captureBlocks : r.io.captureBlocks.toNat = min r.captured.length (2 ^ 32 - 1)
  takeApart : ∀ i, r.io.takeReads = some i → i ≠ r.captureDma
  submitApart : ∀ i, r.io.submitWrites = some i → i ≠ r.playoutDma
  captureOrder : r.captured = r.gone.map Prod.fst ++ r.io.waiting
  captureCount : r.io.captureBlocks.toNat < 2 ^ 32 - 1 → r.io.captureBlocks.toNat =
    (Ledger.settled r.gone .taken).length + r.io.captureOverruns.toNat + r.io.waiting.length
  playoutOrder : r.submitted = (r.handed.filter HandedBlock.submitted).map HandedBlock.block ++ r.io.queued
  playing : r.io.playout r.playoutDma = (r.handed.getLast?.map HandedBlock.block).getD silentBlock
  silent : ∀ h ∈ r.handed, h.submitted = false → h.block = silentBlock
  underruns : r.io.playoutUnderruns.toNat = min (r.handed.filter fun h => !h.submitted).length (2 ^ 32 - 1)

/-! ## The capture side -/

section
variable {r : AudioIoRun}

/-- What the code's flags say about the capture buffers. -/
structure Captures (r : AudioIoRun) : Prop where
  initialized : r.io.initialized = true
  active : r.io.captureActive = true
  owned : r.captureDma = r.io.captureIndex
  free : r.io.captureReady r.io.captureIndex = false
  order : r.captured = r.gone.map Prod.fst ++ r.io.waiting
  blocks : r.io.captureBlocks.toNat = min r.captured.length (2 ^ 32 - 1)
  overruns : r.io.captureOverruns.toNat = min (Ledger.settled r.gone .overrun).length (2 ^ 32 - 1)

theorem init_captures : Captures AudioIoRun.init := ⟨rfl, rfl, rfl, rfl, rfl, rfl, rfl⟩

theorem Captures.takeReads (h : Captures r) : r.io.takeReads =
    if r.io.captureReady (otherBuffer r.io.captureIndex) then some (otherBuffer r.io.captureIndex) else none := by
  unfold Rt595AudioIo.takeReads
  rw [h.initialized, h.free]
  rfl

theorem Captures.dmaFills (h : Captures r) (block : Block) : Captures (r.step (.dmaFills block)) := by
  refine ⟨h.initialized, h.active, h.owned, h.free, h.order.trans ?_, h.blocks, h.overruns⟩
  have hne : otherBuffer r.io.captureIndex ≠ r.captureDma := h.owned ▸ otherBuffer_ne _
  simp [AudioIoRun.step, Rt595AudioIo.waiting, hne]

theorem Captures.takeCapture_eq (h : Captures r) : r.io.takeCapture =
    if r.io.captureReady (otherBuffer r.io.captureIndex) then
      ({ r.io with captureReady := Function.update r.io.captureReady (otherBuffer r.io.captureIndex) false },
        some (r.io.capture (otherBuffer r.io.captureIndex)))
    else (r.io, none) := by
  rw [Rt595AudioIo.takeCapture, h.takeReads]
  cases r.io.captureReady (otherBuffer r.io.captureIndex) <;> rfl

/-- The block that waits is taken. -/
theorem Captures.takes (h : Captures r) :
    r.io.takeCapture.2 = r.io.waiting.head? ∧ r.io.takeCapture.1.waiting = [] := by
  rw [h.takeCapture_eq]
  unfold Rt595AudioIo.waiting
  cases hready : r.io.captureReady (otherBuffer r.io.captureIndex) with
  | false => simp [hready]
  | true => simp

theorem Captures.takeCapture (h : Captures r) : Captures (r.step .takeCapture) := by
  have hio := h.takeCapture_eq
  cases hready : r.io.captureReady (otherBuffer r.io.captureIndex) with
  | false =>
    rw [hready, if_neg Bool.false_ne_true] at hio
    have hsame : r.step .takeCapture = r := by
      simp [AudioIoRun.step, hio]
    rwa [hsame]
  | true =>
    rw [hready, if_pos rfl] at hio
    have hne : r.io.captureIndex ≠ otherBuffer r.io.captureIndex := (otherBuffer_ne _).symm
    have horder := h.order
    simp only [Rt595AudioIo.waiting, hready, if_true] at horder
    refine ⟨?_, ?_, ?_, ?_, ?_, ?_, ?_⟩
    · simpa [AudioIoRun.step, hio] using h.initialized
    · simpa [AudioIoRun.step, hio] using h.active
    · simpa [AudioIoRun.step, hio] using h.owned
    · simpa [AudioIoRun.step, hio, hne] using h.free
    · simpa [AudioIoRun.step, hio, Rt595AudioIo.waiting] using horder
    · simpa [AudioIoRun.step, hio] using h.blocks
    · simpa [AudioIoRun.step, hio, Ledger.settled] using h.overruns

/-- The block that waits in a buffer is lost, and the buffer is free. -/
theorem makeRoom_spec (s : Rt595AudioIo) (next : Fin 2) : (s.makeRoom next).captureReady next = false ∧
    (∀ i, i ≠ next → (s.makeRoom next).captureReady i = s.captureReady i) ∧
    (s.makeRoom next).capture = s.capture ∧ (s.makeRoom next).captureBlocks = s.captureBlocks ∧
    (s.makeRoom next).captureOverruns =
      (if s.captureReady next then incrementSaturating s.captureOverruns else s.captureOverruns) ∧
    (s.makeRoom next).initialized = s.initialized := by
  unfold Rt595AudioIo.makeRoom
  cases h : s.captureReady next with
  | false => exact ⟨h, fun _ _ => rfl, rfl, rfl, rfl, rfl⟩
  | true => exact ⟨Function.update_self .., fun i hi => Function.update_of_ne hi .., rfl, rfl, rfl, rfl⟩

theorem incrementSaturating_length {α : Type} {n : U32} {l : List α} (h : n.toNat = min l.length (2 ^ 32 - 1)) (a : α) :
    (incrementSaturating n).toNat = min (l ++ [a]).length (2 ^ 32 - 1) := by
  rw [toNat_incrementSaturating, h, List.length_append, List.length_singleton]
  omega

theorem settled_waiting (gone : List (Block × CaptureFate)) (s : Rt595AudioIo) :
    Ledger.settled (gone ++ s.waiting.map fun block => (block, .overrun)) .overrun =
      Ledger.settled gone .overrun ++ s.waiting := by
  rw [Ledger.settled_append, Ledger.settled_map_self]

/-- The overruns count what the DMA's next buffer loses. -/
theorem Captures.overruns_lost (h : Captures r) :
    (if r.io.captureReady (otherBuffer r.io.captureIndex) then incrementSaturating r.io.captureOverruns
      else r.io.captureOverruns).toNat = min (Ledger.settled r.gone .overrun ++ r.io.waiting).length (2 ^ 32 - 1) := by
  unfold Rt595AudioIo.waiting
  cases r.io.captureReady (otherBuffer r.io.captureIndex) with
  | false =>
    rw [if_neg Bool.false_ne_true, if_neg Bool.false_ne_true, List.append_nil]
    exact h.overruns
  | true => exact incrementSaturating_length h.overruns _

/-- What a completion does before it makes room: the finished block is ready, or the failure is counted. -/
theorem Captures.captureComplete_spec (h : Captures r) (success : Bool) : ∃ finished : Rt595AudioIo,
    r.io.captureComplete success true = ((finished.makeRoom (otherBuffer r.io.captureIndex)).restartCapture
      (otherBuffer r.io.captureIndex) true, some (otherBuffer r.io.captureIndex)) ∧
    finished.capture = r.io.capture ∧ finished.captureReady r.io.captureIndex = success ∧
    finished.captureReady (otherBuffer r.io.captureIndex) = r.io.captureReady (otherBuffer r.io.captureIndex) ∧
    finished.captureBlocks = (if success then incrementSaturating r.io.captureBlocks else r.io.captureBlocks) ∧
    finished.captureOverruns = r.io.captureOverruns ∧ finished.initialized = true := by
  cases success with
  | false =>
    refine ⟨{ r.io with dmaFailures := incrementSaturating r.io.dmaFailures }, ?_, rfl, h.free, rfl, rfl, rfl,
      h.initialized⟩
    simp [Rt595AudioIo.captureComplete, h.initialized, h.active]
  | true =>
    have hne := otherBuffer_ne r.io.captureIndex
    refine ⟨r.io.blockCaptured, ?_, rfl, Function.update_self .., Function.update_of_ne hne .., rfl, ?_, h.initialized⟩
    · simp [Rt595AudioIo.captureComplete, h.initialized, h.active]
    · simp [Rt595AudioIo.blockCaptured, h.free]

/-- The capture DMA goes on in the other buffer; the block it finished waits. -/
theorem Captures.captureComplete_waiting (h : Captures r) (success : Bool) :
    (r.io.captureComplete success true).2 = some (otherBuffer r.captureDma) ∧
      (r.io.captureComplete success true).1.waiting = if success then [r.io.capture r.captureDma] else [] := by
  have hne := otherBuffer_ne r.io.captureIndex
  obtain ⟨finished, hio, hcapture, hready, -, -, -, -⟩ := h.captureComplete_spec success
  obtain ⟨-, hkept, hcapture', -, -, -⟩ := makeRoom_spec finished (otherBuffer r.io.captureIndex)
  rw [hio, h.owned]
  refine ⟨rfl, ?_⟩
  unfold Rt595AudioIo.waiting Rt595AudioIo.restartCapture
  dsimp only
  rw [otherBuffer_otherBuffer, hkept _ hne.symm, hcapture', hready, hcapture]

theorem Captures.captureComplete (h : Captures r) (success : Bool) : Captures (r.step (.captureComplete success)) := by
  obtain ⟨hstart, hwaiting⟩ := h.captureComplete_waiting success
  obtain ⟨finished, hio, hcapture, hready, hother, hblocks, hoverruns, hinit⟩ := h.captureComplete_spec success
  obtain ⟨hfree, hkept, hcapture', hblocks', hoverruns', hinit'⟩ :=
    makeRoom_spec finished (otherBuffer r.io.captureIndex)
  have hnext : r.step (.captureComplete success) =
      { r with
        io := (finished.makeRoom (otherBuffer r.io.captureIndex)).restartCapture (otherBuffer r.io.captureIndex) true
        captureDma := otherBuffer r.io.captureIndex
        captured := if success then r.captured ++ [r.io.capture r.captureDma] else r.captured
        gone := r.gone ++ r.io.waiting.map fun block => (block, .overrun) } := by
    rw [AudioIoRun.step, hio]
    rfl
  rw [hio] at hwaiting
  rw [hnext]
  refine ⟨hinit'.trans hinit, rfl, rfl, hfree, ?_, ?_, ?_⟩
  · dsimp only
    rw [hwaiting, List.map_append, Ledger.map_fst_map, h.order]
    cases success <;> simp
  · refine (congrArg BitVec.toNat (hblocks'.trans hblocks)).trans ?_
    cases success with
    | false => exact h.blocks
    | true => exact incrementSaturating_length h.blocks _
  · refine (congrArg BitVec.toNat hoverruns').trans ?_
    rw [hother, hoverruns, settled_waiting]
    exact h.overruns_lost

/-! ## The playout side -/

/-- What the code's flags say about the playout buffers. -/
structure Plays (r : AudioIoRun) : Prop where
  initialized : r.io.initialized = true
  active : r.io.playoutActive = true
  owned : r.playoutDma = r.io.playoutIndex
  free : r.io.playoutReady r.io.playoutIndex = false
  order : r.submitted = (r.handed.filter HandedBlock.submitted).map HandedBlock.block ++ r.io.queued
  playing : r.io.playout r.playoutDma = (r.handed.getLast?.map HandedBlock.block).getD silentBlock
  silent : ∀ h ∈ r.handed, h.submitted = false → h.block = silentBlock
  underruns : r.io.playoutUnderruns.toNat = min (r.handed.filter fun h => !h.submitted).length (2 ^ 32 - 1)

theorem init_plays : Plays AudioIoRun.init := ⟨rfl, rfl, rfl, rfl, rfl, rfl, List.forall_mem_nil _, rfl⟩

theorem Plays.submitPlayout_eq (h : Plays r) (block : Block) : r.io.submitPlayout block =
    if r.io.playoutReady (otherBuffer r.io.playoutIndex) then (r.io, false)
    else
      ({ r.io with
        playout := Function.update r.io.playout (otherBuffer r.io.playoutIndex) block
        playoutReady := Function.update r.io.playoutReady (otherBuffer r.io.playoutIndex) true }, true) := by
  have hwrites : r.io.submitWrites =
      if r.io.playoutReady (otherBuffer r.io.playoutIndex) then none else some (otherBuffer r.io.playoutIndex) := by
    rw [Rt595AudioIo.submitWrites, h.initialized]
    rfl
  rw [Rt595AudioIo.submitPlayout, hwrites]
  cases r.io.playoutReady (otherBuffer r.io.playoutIndex) <;> rfl

/-- A block is accepted where none waits. -/
theorem Plays.accepts (h : Plays r) (block : Block) : (r.io.submitPlayout block).2 = r.io.queued.isEmpty ∧
    (r.io.submitPlayout block).1.queued = [r.io.queued.head?.getD block] := by
  rw [h.submitPlayout_eq]
  unfold Rt595AudioIo.queued
  cases hready : r.io.playoutReady (otherBuffer r.io.playoutIndex) with
  | false => simp
  | true => simp [hready]

theorem Plays.submitPlayout (h : Plays r) (block : Block) : Plays (r.step (.submitPlayout block)) := by
  have hne := otherBuffer_ne r.io.playoutIndex
  have hio := h.submitPlayout_eq block
  cases hready : r.io.playoutReady (otherBuffer r.io.playoutIndex) with
  | true =>
    rw [hready, if_pos rfl] at hio
    have hrefused : r.step (.submitPlayout block) = r := by
      simp [AudioIoRun.step, hio]
    rwa [hrefused]
  | false =>
    rw [hready, if_neg Bool.false_ne_true] at hio
    have horder := h.order
    simp only [Rt595AudioIo.queued, hready, Bool.false_eq_true, if_false, List.append_nil] at horder
    have hplaying := h.playing
    rw [h.owned] at hplaying
    refine ⟨?_, ?_, ?_, ?_, ?_, ?_, h.silent, ?_⟩
    · simpa [AudioIoRun.step, hio] using h.initialized
    · simpa [AudioIoRun.step, hio] using h.active
    · simpa [AudioIoRun.step, hio] using h.owned
    · simpa [AudioIoRun.step, hio, hne.symm] using h.free
    · simpa [AudioIoRun.step, hio, Rt595AudioIo.queued] using horder
    · simpa [AudioIoRun.step, hio, h.owned, hne.symm] using hplaying
    · simpa [AudioIoRun.step, hio] using h.underruns

/-- What a playout completion hands to the DMA: the submitted block, or silence. -/
theorem playoutComplete_spec (hinit : r.io.initialized = true) (hactive : r.io.playoutActive = true) (success : Bool) :
    ∃ io' : Rt595AudioIo, r.io.playoutComplete success true = (io', some (otherBuffer r.io.playoutIndex)) ∧
      io'.initialized = true ∧ io'.playoutActive = true ∧ io'.playoutIndex = otherBuffer r.io.playoutIndex ∧
      io'.playoutReady = Function.update r.io.playoutReady (otherBuffer r.io.playoutIndex) false ∧
      ((r.io.playoutReady (otherBuffer r.io.playoutIndex) = true ∧ io'.playout = r.io.playout ∧
          io'.playoutUnderruns = r.io.playoutUnderruns) ∨
        (r.io.playoutReady (otherBuffer r.io.playoutIndex) = false ∧
          io'.playout = Function.update r.io.playout (otherBuffer r.io.playoutIndex) silentBlock ∧
          io'.playoutUnderruns = incrementSaturating r.io.playoutUnderruns)) := by
  unfold Rt595AudioIo.playoutComplete Rt595AudioIo.selectPlayout
  rw [hinit, hactive, Bool.not_true, Bool.or_self, if_neg Bool.false_ne_true]
  cases hready : r.io.playoutReady (otherBuffer r.io.playoutIndex) <;> cases success <;>
    exact ⟨_, rfl, by simp [hready]⟩

/-- The playout DMA goes on in the other buffer, with the block that waits there or with silence. -/
theorem Plays.playoutComplete_starts (h : Plays r) (success : Bool) :
    (r.io.playoutComplete success true).2 = some (otherBuffer r.playoutDma) ∧
      (r.io.playoutComplete success true).1.playout (otherBuffer r.playoutDma) =
        r.io.queued.head?.getD silentBlock ∧
      (r.io.playoutComplete success true).1.queued = [] ∧
      (r.io.playoutComplete success true).1.playoutUnderruns =
        if r.io.queued.isEmpty then incrementSaturating r.io.playoutUnderruns else r.io.playoutUnderruns := by
  obtain ⟨io', hio, -, -, hindex, hready', hcases⟩ := playoutComplete_spec h.initialized h.active success
  rw [hio, h.owned]
  have hqueued : io'.queued = [] := by
    rw [Rt595AudioIo.queued, hindex, otherBuffer_otherBuffer, hready',
      Function.update_of_ne (otherBuffer_ne _).symm, h.free]
    rfl
  refine ⟨rfl, ?_, hqueued, ?_⟩
  · rcases hcases with ⟨hready, hplayout, -⟩ | ⟨hready, hplayout, -⟩ <;>
      simp [Rt595AudioIo.queued, hready, hplayout]
  · rcases hcases with ⟨hready, -, hunderruns⟩ | ⟨hready, -, hunderruns⟩ <;>
      simp [Rt595AudioIo.queued, hready, hunderruns]

theorem Plays.playoutComplete (h : Plays r) (success : Bool) : Plays (r.step (.playoutComplete success)) := by
  have hne := otherBuffer_ne r.io.playoutIndex
  have hqueued := (h.playoutComplete_starts success).2.2.1
  obtain ⟨io', hio, hinit, hactive, hindex, hready', hcases⟩ := playoutComplete_spec h.initialized h.active success
  have horder := h.order
  have hnext : r.step (.playoutComplete success) =
      { r with
        io := io'
        playoutDma := otherBuffer r.io.playoutIndex
        handed := r.handed ++
          [⟨io'.playout (otherBuffer r.io.playoutIndex), r.io.playoutReady (otherBuffer r.io.playoutIndex)⟩] } := by
    rw [AudioIoRun.step, hio]
    rfl
  rw [hio] at hqueued
  rw [hnext]
  unfold Rt595AudioIo.queued at horder
  rcases hcases with ⟨hready, hplayout, hunderruns⟩ | ⟨hready, hplayout, hunderruns⟩
  · rw [hready, if_pos rfl] at horder
    refine ⟨hinit, hactive, hindex.symm, ?_, ?_, ?_, ?_, ?_⟩
    · dsimp only
      rw [hindex, hready', Function.update_self]
    · dsimp only
      rw [hqueued, horder, hready, hplayout]
      simp
    · simp
    · intro b hb hs
      rcases List.mem_append.1 hb with hb | hb
      · exact h.silent b hb hs
      · rw [List.mem_singleton.1 hb, hready] at hs
        cases hs
    · dsimp only
      rw [hunderruns, h.underruns, hready]
      simp
  · rw [hready, if_neg Bool.false_ne_true, List.append_nil] at horder
    refine ⟨hinit, hactive, hindex.symm, ?_, ?_, ?_, ?_, ?_⟩
    · dsimp only
      rw [hindex, hready', Function.update_self]
    · dsimp only
      rw [hqueued, horder, hready]
      simp
    · simp
    · intro b hb hs
      rcases List.mem_append.1 hb with hb | hb
      · exact h.silent b hb hs
      · rw [List.mem_singleton.1 hb, hplayout, Function.update_self]
    · dsimp only
      rw [hunderruns, List.filter_append, hready]
      exact incrementSaturating_length h.underruns _

/-! ## Every run -/

theorem Captures.same (h : Captures r) {r' : AudioIoRun} (hio : r'.io.initialized = r.io.initialized ∧
    r'.io.captureActive = r.io.captureActive ∧ r'.io.captureIndex = r.io.captureIndex ∧
    r'.io.captureReady = r.io.captureReady ∧ r'.io.capture = r.io.capture ∧
    r'.io.captureBlocks = r.io.captureBlocks ∧ r'.io.captureOverruns = r.io.captureOverruns)
    (hdma : r'.captureDma = r.captureDma) (hcaptured : r'.captured = r.captured) (hgone : r'.gone = r.gone) :
    Captures r' := by
  obtain ⟨hinit, hactive, hindex, hready, hcapture, hblocks, hoverruns⟩ := hio
  refine ⟨hinit.trans h.initialized, hactive.trans h.active, ?_, ?_, ?_, ?_, ?_⟩
  · rw [hdma, hindex, h.owned]
  · rw [hready, hindex, h.free]
  · rw [hcaptured, hgone, Rt595AudioIo.waiting, hready, hindex, hcapture]
    exact h.order
  · rw [hblocks, hcaptured, h.blocks]
  · rw [hoverruns, hgone, h.overruns]

theorem Plays.same (h : Plays r) {r' : AudioIoRun} (hio : r'.io.initialized = r.io.initialized ∧
    r'.io.playoutActive = r.io.playoutActive ∧ r'.io.playoutIndex = r.io.playoutIndex ∧
    r'.io.playoutReady = r.io.playoutReady ∧ r'.io.playout = r.io.playout ∧
    r'.io.playoutUnderruns = r.io.playoutUnderruns)
    (hdma : r'.playoutDma = r.playoutDma) (hsubmitted : r'.submitted = r.submitted) (hhanded : r'.handed = r.handed) :
    Plays r' := by
  obtain ⟨hinit, hactive, hindex, hready, hplayout, hunderruns⟩ := hio
  refine ⟨hinit.trans h.initialized, hactive.trans h.active, ?_, ?_, ?_, ?_, hhanded ▸ h.silent, ?_⟩
  · rw [hdma, hindex, h.owned]
  · rw [hready, hindex, h.free]
  · rw [hsubmitted, hhanded, Rt595AudioIo.queued, hready, hindex, hplayout]
    exact h.order
  · rw [hplayout, hdma, hhanded, h.playing]
  · rw [hunderruns, hhanded, h.underruns]

theorem captureComplete_playout (s : Rt595AudioIo) (success : Bool) :
    (s.captureComplete success true).1.initialized = s.initialized ∧
      (s.captureComplete success true).1.playoutActive = s.playoutActive ∧
      (s.captureComplete success true).1.playoutIndex = s.playoutIndex ∧
      (s.captureComplete success true).1.playoutReady = s.playoutReady ∧
      (s.captureComplete success true).1.playout = s.playout ∧
      (s.captureComplete success true).1.playoutUnderruns = s.playoutUnderruns := by
  have hroom (t : Rt595AudioIo) (next : Fin 2) : (t.makeRoom next).initialized = t.initialized ∧
      (t.makeRoom next).playoutActive = t.playoutActive ∧ (t.makeRoom next).playoutIndex = t.playoutIndex ∧
      (t.makeRoom next).playoutReady = t.playoutReady ∧ (t.makeRoom next).playout = t.playout ∧
      (t.makeRoom next).playoutUnderruns = t.playoutUnderruns := by
    unfold Rt595AudioIo.makeRoom
    split <;> exact ⟨rfl, rfl, rfl, rfl, rfl, rfl⟩
  unfold Rt595AudioIo.captureComplete
  split
  · exact ⟨rfl, rfl, rfl, rfl, rfl, rfl⟩
  · cases success
    · exact hroom _ _
    · exact hroom _ _

theorem playoutComplete_capture (s : Rt595AudioIo) (success : Bool) :
    (s.playoutComplete success true).1.initialized = s.initialized ∧
      (s.playoutComplete success true).1.captureActive = s.captureActive ∧
      (s.playoutComplete success true).1.captureIndex = s.captureIndex ∧
      (s.playoutComplete success true).1.captureReady = s.captureReady ∧
      (s.playoutComplete success true).1.capture = s.capture ∧
      (s.playoutComplete success true).1.captureBlocks = s.captureBlocks ∧
      (s.playoutComplete success true).1.captureOverruns = s.captureOverruns := by
  have hselect (t : Rt595AudioIo) (next : Fin 2) : (t.selectPlayout next).initialized = t.initialized ∧
      (t.selectPlayout next).captureActive = t.captureActive ∧ (t.selectPlayout next).captureIndex = t.captureIndex ∧
      (t.selectPlayout next).captureReady = t.captureReady ∧ (t.selectPlayout next).capture = t.capture ∧
      (t.selectPlayout next).captureBlocks = t.captureBlocks ∧
      (t.selectPlayout next).captureOverruns = t.captureOverruns := by
    unfold Rt595AudioIo.selectPlayout
    split <;> exact ⟨rfl, rfl, rfl, rfl, rfl, rfl, rfl⟩
  unfold Rt595AudioIo.playoutComplete
  split
  · exact ⟨rfl, rfl, rfl, rfl, rfl, rfl, rfl⟩
  · cases success
    · exact hselect _ _
    · exact hselect _ _

theorem step_shares (r : AudioIoRun) (e : AudioIoEvent) (h : Captures r ∧ Plays r) :
    Captures (r.step e) ∧ Plays (r.step e) := by
  obtain ⟨hc, hp⟩ := h
  cases e with
  | dmaFills block => exact ⟨hc.dmaFills block, hp.same ⟨rfl, rfl, rfl, rfl, rfl, rfl⟩ rfl rfl rfl⟩
  | captureComplete success =>
    exact ⟨hc.captureComplete success, hp.same (captureComplete_playout r.io success) rfl rfl rfl⟩
  | playoutComplete success =>
    exact ⟨hc.same (playoutComplete_capture r.io success) rfl rfl rfl, hp.playoutComplete success⟩
  | takeCapture =>
    refine ⟨hc.takeCapture, hp.same ?_ rfl rfl rfl⟩
    simp only [AudioIoRun.step, Rt595AudioIo.takeCapture]
    split <;> exact ⟨rfl, rfl, rfl, rfl, rfl, rfl⟩
  | submitPlayout block =>
    refine ⟨hc.same ?_ rfl rfl rfl, hp.submitPlayout block⟩
    simp only [AudioIoRun.step, Rt595AudioIo.submitPlayout]
    split <;> exact ⟨rfl, rfl, rfl, rfl, rfl, rfl, rfl⟩

/-- Every captured block was taken, lost or waits. -/
theorem Captures.count (h : Captures r) : r.captured.length = (Ledger.settled r.gone .taken).length +
    (Ledger.settled r.gone .overrun).length + r.io.waiting.length := by
  have hfates : ∀ gone : List (Block × CaptureFate), gone.length =
      (Ledger.settled gone .taken).length + (Ledger.settled gone .overrun).length := by
    intro gone
    induction gone with
    | nil => rfl
    | cons e gone ih =>
      obtain ⟨block, fate⟩ := e
      cases fate <;> simp [Ledger.settled] at ih ⊢ <;> omega
  rw [h.order, List.length_append, List.length_map, hfates]

/-- One block is captured by each completion with a block, and one is handed over by each playout completion. -/
structure Counted (events : List AudioIoEvent) (r : AudioIoRun) : Prop where
  captures : r.captured.length = events.countP AudioIoEvent.captures
  plays : r.handed.length = events.countP AudioIoEvent.plays

theorem Counted.step {events : List AudioIoEvent} (h : Counted events r) (hp : Plays r) (e : AudioIoEvent) :
    Counted (events ++ [e]) (r.step e) := by
  obtain ⟨hcaptures, hplays⟩ := h
  constructor
  · rw [List.countP_append, ← hcaptures]
    cases e with
    | captureComplete success => cases success <;> simp [AudioIoRun.step, AudioIoEvent.captures]
    | _ => rfl
  · rw [List.countP_append, ← hplays]
    cases e with
    | playoutComplete success =>
      have hstart := (hp.playoutComplete_starts success).1
      simp [AudioIoRun.step, hstart, AudioIoEvent.plays]
    | _ => rfl

/-- **Main result: the two sides share the buffers safely** after any interleaving of completions, failed or
not, and calls of the application. -/
theorem audio_io_safe (events : List AudioIoEvent) : SharesSafely events (AudioIoRun.run events) := by
  have hrun : Captures (AudioIoRun.run events) ∧ Plays (AudioIoRun.run events) ∧
      Counted events (AudioIoRun.run events) := by
    have hstep (past : List AudioIoEvent) (r : AudioIoRun) (e : AudioIoEvent)
        (h : Captures r ∧ Plays r ∧ Counted past r) (_ : True) :
        Captures (r.step e) ∧ Plays (r.step e) ∧ Counted (past ++ [e]) (r.step e) := by
      obtain ⟨hc, hp, hcount⟩ := h
      obtain ⟨hc', hp'⟩ := step_shares r e ⟨hc, hp⟩
      exact ⟨hc', hp', hcount.step hp e⟩
    exact Run.inv_past hstep [] AudioIoRun.init events ⟨init_captures, init_plays, rfl, rfl⟩
      (Run.along_of_forall fun _ _ => trivial)
  obtain ⟨hc, hp, hcount⟩ := hrun
  refine ⟨⟨hc.takes, hp.accepts, hc.captureComplete_waiting, hp.playoutComplete_starts⟩, hcount.captures, hcount.plays,
    hc.blocks, fun i hi => ?_, fun i hi => ?_, hc.order, fun hlt => ?_, hp.order, hp.playing, hp.silent, hp.underruns⟩
  · rw [hc.takeReads] at hi
    split at hi
    · cases hi
      exact hc.owned ▸ otherBuffer_ne _
    · cases hi
  · unfold Rt595AudioIo.submitWrites at hi
    split at hi
    · cases hi
    · cases hi
      exact hp.owned ▸ otherBuffer_ne _
  · have hcount := hc.count
    have hblocks := hc.blocks
    have hoverruns := hc.overruns
    omega

end

end OpenRef.Audio
