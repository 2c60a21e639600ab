import OpenRef.Audio.Transport
import OpenRef.Lib.Run
/-!
# The FG23 end of the processor link (openref_audio_link_fg23.c)

The adapter is the SPI master. `process` releases a peer reset when its time has
passed, takes a completion, aborts a transfer that timed out, or starts the next one
from a prepared wire, which it keeps until a start has succeeded. The interrupt only
leaves a note.

The body of `process` is cut where the interrupt can come in between; `process` itself
is these pieces one after the other.
-/

namespace OpenRef.Audio

/-- `openref_audio_fg23_config_t`. -/
structure AudioFg23Config where
  resetHoldUs : U32
  transferTimeoutUs : U32
deriving DecidableEq, Repr

/-- `openref_audio_fg23_t` once initialised, the hooks left out. -/
structure AudioFg23 where
  transport : AudioTransport
  config : AudioFg23Config
  txWire : LinkWire
  rxWire : LinkWire
  resetStartedUs : U32
  transferStartedUs : U32
  transfersStarted : U32
  transfersCompleted : U32
  startFailures : U32
  transferFailures : U32
  transferTimeouts : U32
  abortFailures : U32
  resetCount : U32
  resetFailures : U32
  unexpectedCompletions : U32
  completionPending : Bool
  completionSuccess : Bool
  resetAsserted : Bool
  transferActive : Bool
  txPrepared : Bool

/-- What the hooks of an `assert_reset` return; the clock is read after the reset line was set. -/
structure ResetHooks where
  abortOk : Bool
  resetOk : Bool
  clockUs : U32
deriving DecidableEq, Repr

namespace AudioFg23

/-- `assert_reset` (:14-33). -/
def assertReset (a : AudioFg23) (h : ResetHooks) : AudioFg23 × Bool :=
  let aborts := a.transferActive && !h.abortOk
  let a := if a.transferActive then { a with
      abortFailures := if !h.abortOk then incrementSaturating a.abortFailures else a.abortFailures
      transferActive := false
      completionPending := false }
    else a
  if !h.resetOk then ({ a with resetFailures := incrementSaturating a.resetFailures }, false)
  else
    ({ a with
      resetAsserted := true
      resetStartedUs := h.clockUs
      resetCount := incrementSaturating a.resetCount }, !aborts)

/-- The adapter that `openref_audio_fg23_init` hands to `assert_reset` (:43-53). -/
def blank (config : AudioFg23Config) : AudioFg23 :=
  ⟨AudioTransport.init, config, Bytes.zero _, Bytes.zero _, 0, 0, 0, 0, 0, 0, 0, 0, 0, 0, 0, false, false, false, false,
    false⟩

/-- `openref_audio_fg23_init` (:35-58). -/
def init (config : AudioFg23Config) (h : ResetHooks) : Option AudioFg23 :=
  if config.resetHoldUs = 0 || config.transferTimeoutUs = 0 then none
  else
    let r := (blank config).assertReset h
    if !r.2 then none else some r.1

/-- `openref_audio_fg23_queue` (:60-66). -/
def queue (a : AudioFg23) (frame : AudioLinkFrame) : AudioFg23 × Bool :=
  let r := a.transport.queue frame
  ({ a with transport := r.1 }, r.2)

/-- `openref_audio_fg23_transfer_complete_isr` (:68-82). -/
def transferCompleteIsr (a : AudioFg23) (success : Bool) : AudioFg23 × Bool :=
  if !a.transferActive || a.completionPending then
    ({ a with unexpectedCompletions := incrementSaturating a.unexpectedCompletions }, false)
  else ({ a with completionSuccess := success, completionPending := true }, true)

/-- The reset has not been held long enough (:96-97). -/
def holding (a : AudioFg23) (nowUs : U32) : Bool := nowUs - a.resetStartedUs < a.config.resetHoldUs

/-- `process` while the peer is held in reset (:95-106); `releaseOk` is what `set_peer_reset` returns. -/
def releaseReset (a : AudioFg23) (nowUs : U32) (releaseOk : Bool) : AudioFg23 × Bool :=
  if a.holding nowUs then (a, true)
  else if !releaseOk then ({ a with resetFailures := incrementSaturating a.resetFailures }, false)
  else ({ a with resetAsserted := false }, true)

/-- `process` once it has cleared `completion_pending` (:111-121). -/
def acceptCompletion (a : AudioFg23) (success : Bool) : AudioFg23 × Bool :=
  let a := { a with transferActive := false }
  if !success then ({ a with transferFailures := incrementSaturating a.transferFailures }, false)
  else
    let r := a.transport.acceptRx a.rxWire
    ({ a with transfersCompleted := incrementSaturating a.transfersCompleted, transport := r.1 }, r.2)

/-- `process` on a pending completion (:108-122). -/
def takeCompletion (a : AudioFg23) : AudioFg23 × Bool :=
  AudioFg23.acceptCompletion { a with completionPending := false } a.completionSuccess

/-- `process` while a transfer is active (:124-132). -/
def awaitTransfer (a : AudioFg23) (nowUs : U32) (h : ResetHooks) : AudioFg23 × Bool :=
  if nowUs - a.transferStartedUs ≤ a.config.transferTimeoutUs then (a, true)
  else
    { a with
      transferTimeouts := incrementSaturating a.transferTimeouts
      transferFailures := incrementSaturating a.transferFailures }.assertReset h

/-- `process` from the prepared wire on to the call of `start_transfer` (:148-152). -/
def publish (a : AudioFg23) (nowUs : U32) : AudioFg23 :=
  { a with rxWire := Bytes.zero _, transferActive := true, transferStartedUs := nowUs }

/-- `process` with nothing active (:134-152), to the call of `start_transfer` with `txWire` or to its return
without a start; `peerRequest` is what `request_asserted` returns. -/
def startNext (a : AudioFg23) (nowUs : U32) (peerRequest : Bool) : AudioFg23 × Option Bool :=
  if a.txPrepared then (a.publish nowUs, none)
  else if !a.transport.requestAsserted && !peerRequest then (a, some true)
  else
    let r := a.transport.prepareTx nowUs
    match r.2 with
    | none => ({ a with transport := r.1 }, some false)
    | some wire => ({ a with transport := r.1, txWire := wire, txPrepared := true }.publish nowUs, none)

/-- The end of `process` once `start_transfer` has returned (:154-162). -/
def startReturned (a : AudioFg23) (ok : Bool) : AudioFg23 × Bool :=
  if !ok then
    ({ a with
      transferActive := false
      completionPending := false
      startFailures := incrementSaturating a.startFailures }, false)
  else ({ a with txPrepared := false, transfersStarted := incrementSaturating a.transfersStarted }, true)

/-- What the hooks of a `process` return. -/
structure ProcessHooks where
  nowUs : U32
  releaseOk : Bool
  reset : ResetHooks
  peerRequest : Bool
  startOk : Bool

/-- `openref_audio_fg23_process` (:89-163) without an interrupt in between. -/
def process (a : AudioFg23) (h : ProcessHooks) : AudioFg23 × Bool :=
  if a.resetAsserted then a.releaseReset h.nowUs h.releaseOk
  else if a.completionPending then a.takeCompletion
  else if a.transferActive then a.awaitTransfer h.nowUs h.reset
  else
    let r := a.startNext h.nowUs h.peerRequest
    match r.2 with
    | some result => (r.1, result)
    | none => r.1.startReturned h.startOk

/-! ## What each piece leaves -/

/-- The fields that a reset changes. -/
theorem assertReset_frame (a : AudioFg23) (h : ResetHooks) :
    (a.assertReset h).1.transport = a.transport ∧ (a.assertReset h).1.txWire = a.txWire ∧
      (a.assertReset h).1.txPrepared = a.txPrepared ∧ (a.assertReset h).1.config = a.config ∧
      (a.assertReset h).1.transferActive = false ∧
      (a.assertReset h).1.resetAsserted = (h.resetOk || a.resetAsserted) ∧
      (a.assertReset h).1.resetStartedUs = if h.resetOk then h.clockUs else a.resetStartedUs := by
  unfold assertReset
  cases ha : a.transferActive <;> cases hr : h.resetOk <;> simp [ha]

/-- The fields that a completion leaves alone. -/
theorem acceptCompletion_frame (a : AudioFg23) (success : Bool) :
    (a.acceptCompletion success).1.transport.audioTx = a.transport.audioTx ∧
      (a.acceptCompletion success).1.txWire = a.txWire ∧ (a.acceptCompletion success).1.txPrepared = a.txPrepared ∧
      (a.acceptCompletion success).1.config = a.config ∧
      (a.acceptCompletion success).1.resetAsserted = a.resetAsserted ∧
      (a.acceptCompletion success).1.resetStartedUs = a.resetStartedUs := by
  cases success with
  | false => exact ⟨rfl, rfl, rfl, rfl, rfl, rfl⟩
  | true => exact ⟨a.transport.acceptRx_audioTx a.rxWire, rfl, rfl, rfl, rfl, rfl⟩

/-- A start is entered with the wire that was prepared before, or with a new one; otherwise nothing changes. -/
inductive Started (a : AudioFg23) (r : AudioFg23 × Option Bool) : Prop
  | retried (hp : a.txPrepared = true) (hr : r.2 = none) (hp' : r.1.txPrepared = true) (hw : r.1.txWire = a.txWire)
    (ht : r.1.transport = a.transport)
  | quiet (hp : a.txPrepared = false) (hr : r.2 = some true) (ha : r.1 = a)
  | prepared (hp : a.txPrepared = false) (hr : r.2 = none) (hp' : r.1.txPrepared = true)
    (hw : AudioTransport.Prepared a.transport r.1.transport r.1.txWire)
    (hrx : AudioTransport.SameRx a.transport r.1.transport)
    (ho : r.1.transport.audioTx.overruns = a.transport.audioTx.overruns)

theorem startNext_started (a : AudioFg23) (nowUs : U32) (peerRequest : Bool) :
    Started a (a.startNext nowUs peerRequest) := by
  unfold startNext
  cases hp : a.txPrepared with
  | true => exact .retried hp rfl hp rfl rfl
  | false =>
    rw [if_neg Bool.false_ne_true]
    split
    · exact .quiet hp rfl rfl
    · obtain ⟨wire, hw, hprep, hrx, ho⟩ := a.transport.prepareTx_prepared nowUs
      simp only [hw]
      exact .prepared hp rfl rfl hprep hrx ho

end AudioFg23

end OpenRef.Audio
