import OpenRef.Safety.Startup
/-!
# The safety arbiter (openref_safety_arbiter.c)

Every subsystem can mute or inhibit, none can permit on its own: an output is
enabled only when no reason against it is left.
-/

namespace OpenRef.Safety

/-! ## Inhibit reasons, and the action bits of the other supervisors -/

def inhibitPower : U32 := 1 <<< 0
def inhibitStartup : U32 := 1 <<< 1
def inhibitAccessory : U32 := 1 <<< 2
def inhibitPeer : U32 := 1 <<< 3
def inhibitWatchdog : U32 := 1 <<< 4
def inhibitUpdate : U32 := 1 <<< 5
def inhibitService : U32 := 1 <<< 6
def inhibitUser : U32 := 1 <<< 7
def inhibitSystemFault : U32 := 1 <<< 8

/-- `OPENREF_POWER_ACTION_MUTE_AUDIO`. -/
def powerActionMuteAudio : U32 := 1 <<< 3
/-- `OPENREF_POWER_ACTION_REQUEST_SHUTDOWN`. -/
def powerActionRequestShutdown : U32 := 1 <<< 4
/-- `OPENREF_PEER_ACTION_MUTE_AUDIO`. -/
def peerActionMuteAudio : U32 := 1 <<< 0

/-- `openref_safety_inputs_t`. -/
structure SafetyInputs where
  powerActions : U32
  startupActions : U32
  accessoryMuteTransmit : Bool
  accessoryMutePlayback : Bool
  peerActions : U32
  watchdogHealthy : Bool
  updateActive : Bool
  privilegedServiceActive : Bool
  userTransmitMute : Bool
  userPlaybackMute : Bool
  systemFault : Bool
deriving DecidableEq, Repr

/-- `openref_safety_output_t`. -/
structure SafetyOutput where
  transmitMuteReasons : U32
  playbackMuteReasons : U32
  radioInhibitReasons : U32
  voiceUplinkEnabled : Bool
  playbackEnabled : Bool
  networkControlTxEnabled : Bool
deriving DecidableEq, Repr

/-- `(openref_safety_output_t){0}`. -/
def SafetyOutput.off : SafetyOutput := ⟨0, 0, 0, false, false, false⟩

/-- `openref_safety_arbitrate(NULL)` (:14-21). -/
def arbitrateNull : SafetyOutput :=
  { SafetyOutput.off with
    transmitMuteReasons := inhibitSystemFault
    playbackMuteReasons := inhibitSystemFault
    radioInhibitReasons := inhibitSystemFault }

/-- `reasons |= reason` under a condition. -/
def reasonIf (condition : Bool) (reason : U32) : U32 := if condition then reason else 0

/-- The transmit mute reasons (:23-72). -/
def transmitMute (i : SafetyInputs) : U32 :=
  reasonIf (i.powerActions &&& (powerActionMuteAudio ||| powerActionRequestShutdown) ≠ 0) inhibitPower |||
  reasonIf (i.startupActions &&& startupActionMuteAudio ≠ 0) inhibitStartup |||
  reasonIf i.accessoryMuteTransmit inhibitAccessory |||
  reasonIf (i.peerActions &&& peerActionMuteAudio ≠ 0) inhibitPeer |||
  reasonIf (!i.watchdogHealthy) inhibitWatchdog |||
  reasonIf i.updateActive inhibitUpdate |||
  reasonIf i.privilegedServiceActive inhibitService |||
  reasonIf i.userTransmitMute inhibitUser |||
  reasonIf i.systemFault inhibitSystemFault

/-- The playback mute reasons. -/
def playbackMute (i : SafetyInputs) : U32 :=
  reasonIf (i.powerActions &&& (powerActionMuteAudio ||| powerActionRequestShutdown) ≠ 0) inhibitPower |||
  reasonIf (i.startupActions &&& startupActionMuteAudio ≠ 0) inhibitStartup |||
  reasonIf i.accessoryMutePlayback inhibitAccessory |||
  reasonIf (i.peerActions &&& peerActionMuteAudio ≠ 0) inhibitPeer |||
  reasonIf (!i.watchdogHealthy) inhibitWatchdog |||
  reasonIf i.updateActive inhibitUpdate |||
  reasonIf i.privilegedServiceActive inhibitService |||
  reasonIf i.userPlaybackMute inhibitUser |||
  reasonIf i.systemFault inhibitSystemFault

/-- The radio inhibit reasons: neither the accessory, the peer nor the user stops the radio. -/
def radioInhibit (i : SafetyInputs) : U32 :=
  reasonIf (i.powerActions &&& (powerActionMuteAudio ||| powerActionRequestShutdown) ≠ 0) inhibitPower |||
  reasonIf (i.startupActions &&& startupActionPermitRfTx = 0) inhibitStartup |||
  reasonIf (!i.watchdogHealthy) inhibitWatchdog |||
  reasonIf i.updateActive inhibitUpdate |||
  reasonIf i.privilegedServiceActive inhibitService |||
  reasonIf i.systemFault inhibitSystemFault

/-- `openref_safety_arbitrate` (:9-75). -/
def arbitrate (i : SafetyInputs) : SafetyOutput :=
  let networkControlTxEnabled := decide (radioInhibit i = 0)
  { transmitMuteReasons := transmitMute i
    playbackMuteReasons := playbackMute i
    radioInhibitReasons := radioInhibit i
    networkControlTxEnabled := networkControlTxEnabled
    voiceUplinkEnabled := decide (transmitMute i = 0) && networkControlTxEnabled
    playbackEnabled := decide (playbackMute i = 0) }

end OpenRef.Safety
