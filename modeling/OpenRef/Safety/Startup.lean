import OpenRef.Base
/-!
# The startup supervisor (openref_startup_supervisor.c)

Power, rails, processors and the local interlocks are brought up in order; RF
transmission is permitted only in the last state, and any lost interlock leads
to a fault that only a loss of safe power clears.
-/

namespace OpenRef.Safety

/-- `openref_startup_state_t`. -/
inductive StartupState
  | safe | powerWait | processorWait | localReady | operational | fault
deriving DecidableEq, Repr

/-! ## Action and fault bits -/

def startupActionEnableRails : U32 := 1 <<< 0
def startupActionReleaseResets : U32 := 1 <<< 1
def startupActionMuteAudio : U32 := 1 <<< 2
def startupActionPermitRfTx : U32 := 1 <<< 3
def startupActionReportReady : U32 := 1 <<< 4
def startupActionReportFault : U32 := 1 <<< 5

def startupFaultRailTimeout : U32 := 1 <<< 0
def startupFaultProcessorTimeout : U32 := 1 <<< 1
def startupFaultRuntimeInterlock : U32 := 1 <<< 2
def startupFaultClock : U32 := 1 <<< 3

/-- `openref_startup_config_t`. -/
structure StartupConfig where
  railTimeoutMs : U32
  processorTimeoutMs : U32
deriving DecidableEq, Repr

/-- `openref_startup_inputs_t`. -/
structure StartupInputs where
  powerSafe : Bool
  railsGood : Bool
  authenticatedBoot : Bool
  configurationValid : Bool
  accessorySafe : Bool
  peerHealthy : Bool
  crewSessionValid : Bool
deriving DecidableEq, Repr

/-- `openref_startup_supervisor_t`. -/
structure StartupSupervisor where
  config : StartupConfig
  state : StartupState
  stateSinceMs : U64
  lastTickMs : U64
  faultMask : U32
  transitionCount : U32
deriving DecidableEq, Repr

namespace StartupSupervisor

/-- `transition` (:6-14). -/
def transition (s : StartupSupervisor) (state : StartupState) (nowMs : U64) : StartupSupervisor :=
  if s.state ≠ state then
    { s with state := state, stateSinceMs := nowMs, transitionCount := s.transitionCount + 1 }
  else s

/-- `actions` (:16-42). -/
def actions (s : StartupSupervisor) : U32 :=
  match s.state with
  | .powerWait => startupActionEnableRails ||| startupActionMuteAudio
  | .processorWait => startupActionEnableRails ||| startupActionReleaseResets ||| startupActionMuteAudio
  | .localReady =>
    startupActionEnableRails ||| startupActionReleaseResets ||| startupActionMuteAudio |||
      startupActionReportReady
  | .operational =>
    startupActionEnableRails ||| startupActionReleaseResets ||| startupActionPermitRfTx |||
      startupActionReportReady
  | .fault => startupActionMuteAudio ||| startupActionReportFault
  | .safe => startupActionMuteAudio

/-- `openref_startup_supervisor_init` (:44-57). -/
def init (config : StartupConfig) (nowMs : U64) : Option StartupSupervisor :=
  if config.railTimeoutMs = 0 || config.processorTimeoutMs = 0 then none
  else some ⟨config, .safe, nowMs, nowMs, 0, 0⟩

/-- `s->fault_mask |= fault` and the transition to the fault state. -/
def fail (s : StartupSupervisor) (fault : U32) (nowMs : U64) : StartupSupervisor :=
  { s with faultMask := s.faultMask ||| fault }.transition .fault nowMs

/-- The time in the present state has passed a timeout. -/
def expired (s : StartupSupervisor) (timeoutMs : U32) (nowMs : U64) : Bool :=
  timeoutMs.setWidth 64 < nowMs - s.stateSinceMs

/-- The `switch` of a tick with safe power (:77-115). -/
def advance (s : StartupSupervisor) (i : StartupInputs) (nowMs : U64) : StartupSupervisor :=
  match s.state with
  | .safe => s.transition .powerWait nowMs
  | .powerWait =>
    if i.railsGood then s.transition .processorWait nowMs
    else if s.expired s.config.railTimeoutMs nowMs then s.fail startupFaultRailTimeout nowMs
    else s
  | .processorWait =>
    if !i.railsGood then s.fail startupFaultRuntimeInterlock nowMs
    else if i.authenticatedBoot && i.configurationValid && i.accessorySafe && i.peerHealthy then
      s.transition .localReady nowMs
    else if s.expired s.config.processorTimeoutMs nowMs then s.fail startupFaultProcessorTimeout nowMs
    else s
  | .localReady | .operational =>
    if !i.railsGood || !i.authenticatedBoot || !i.configurationValid || !i.accessorySafe ||
        !i.peerHealthy then s.fail startupFaultRuntimeInterlock nowMs
    else if i.crewSessionValid then s.transition .operational nowMs
    else s.transition .localReady nowMs
  | .fault => s

/-- `openref_startup_supervisor_tick` (:59-117): the supervisor and its actions. -/
def tick (s : StartupSupervisor) (i : StartupInputs) (nowMs : U64) : StartupSupervisor × U32 :=
  let s :=
    if nowMs < s.lastTickMs then s.fail startupFaultClock nowMs
    else
      let s := { s with lastTickMs := nowMs }
      if !i.powerSafe then { s with faultMask := 0 }.transition .safe nowMs
      else s.advance i nowMs
  (s, s.actions)

end StartupSupervisor

end OpenRef.Safety
