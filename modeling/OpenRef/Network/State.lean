import OpenRef.Base
/-!
# Network coordination (openref_network.c)

A node follows a coordinator, is the coordinator, or waits for an election. A
follower that hears no heartbeat for too long takes the coordinator off its mask
of eligible members and, after a delay, names the lowest member left, at the next
epoch. A heartbeat is accepted unless its epoch is older, or as old and of a
higher id. Each source of audio has a receive state, with a rule for senders that
restarted. The tests of the pointers against `NULL` are left out.
-/

namespace OpenRef.Network

/-- `OPENREF_NETWORK_MAX_NODES`. -/
def networkMaxNodes : U8 := 6
/-- `OPENREF_NETWORK_BROADCAST_ID`. -/
def networkBroadcastId : U8 := 0
/-- `OPENREF_NETWORK_SUPERFRAME_US`. -/
def networkSuperframeUs : U32 := 20000
/-- `OPENREF_NETWORK_SLOT_SPACING_US`. -/
def networkSlotSpacingUs : U32 := 2500
/-- `OPENREF_NETWORK_HEARTBEAT_INTERVAL_US`. -/
def networkHeartbeatIntervalUs : U32 := 100000
/-- `OPENREF_NETWORK_HEARTBEAT_TIMEOUT_US`. -/
def networkHeartbeatTimeoutUs : U32 := 300000
/-- `OPENREF_NETWORK_ELECTION_DELAY_US`. -/
def networkElectionDelayUs : U32 := 50000

/-- `openref_network_role_t`. -/
inductive NetworkRole where
  | follower
  | coordinator
  | election
deriving DecidableEq, Repr

/-! `openref_network_action_t`: bits of an action word. -/

def actionNone : U32 := 0
def actionSendHeartbeat : U32 := 1
def actionCoordinatorTimeout : U32 := 2
def actionCoordinatorChanged : U32 := 4

/-- `openref_network_rx_result_t`. -/
inductive NetworkRxResult where
  | first
  | inOrder
  | gap
  | duplicate
  | stale
  | invalid
deriving DecidableEq, Repr

/-- `openref_network_config_t`. -/
structure NetworkConfig where
  nodeId : U8
  initialCoordinatorId : U8
  memberMask : U8
  superframeUs : U32
  slotSpacingUs : U32
  heartbeatIntervalUs : U32
  heartbeatTimeoutUs : U32
  electionDelayUs : U32
deriving DecidableEq, Repr

/-- `openref_network_rx_state_t`. -/
structure NetworkRxState where
  initialized : Bool
  lastSequence : U16
  lastTxTimestampUs : U64
  received : U32
  gaps : U32
  duplicates : U32
  stale : U32
deriving DecidableEq, Repr

/-- `openref_network_state_t`. -/
structure NetworkState where
  config : NetworkConfig
  role : NetworkRole
  coordinatorId : U8
  eligibleMask : U8
  coordinatorEpoch : U32
  scheduleOriginUs : U64
  lastHeartbeatUs : U64
  nextHeartbeatUs : U64
  electionDeadlineUs : U64
  coordinatorChanges : U32
  heartbeatTimeouts : U32
  rx : Fin 6 → NetworkRxState

/-- `valid_node_id` (:6-9). -/
def validNodeId (nodeId : U8) : Bool := 1 ≤ nodeId && nodeId ≤ networkMaxNodes

/-- `(uint8_t)(1u << (node_id - 1u))`. -/
def nodeBit (nodeId : U8) : U8 := (1 : U8) <<< (nodeId - 1).toNat

/-- `member_present` (:11-14). -/
def memberPresent (mask nodeId : U8) : Bool := validNodeId nodeId && mask &&& nodeBit nodeId ≠ 0

/-- The ids 1 to 6, in order. -/
def nodeIds : List U8 := [1, 2, 3, 4, 5, 6]

/-- `elect_lowest_member` (:16-24). -/
def electLowestMember (mask : U8) : U8 := (nodeIds.find? (memberPresent mask)).getD networkBroadcastId

/-- `advance_periodic` (:26-33). -/
def advancePeriodic (deadline : U64) (period : U32) (nowUs : U64) : U64 :=
  if deadline > nowUs then deadline
  else deadline + ((nowUs - deadline) / period.setWidth 64 + 1) * period.setWidth 64

/-- `openref_network_default_config` (:35-48). -/
def defaultConfig (nodeId : U8) : NetworkConfig where
  nodeId := nodeId
  initialCoordinatorId := 1
  memberMask := 0x3f
  superframeUs := networkSuperframeUs
  slotSpacingUs := networkSlotSpacingUs
  heartbeatIntervalUs := networkHeartbeatIntervalUs
  heartbeatTimeoutUs := networkHeartbeatTimeoutUs
  electionDelayUs := networkElectionDelayUs

/-- The tests `openref_network_init` makes of its configuration (:55-62). -/
def NetworkConfig.valid (config : NetworkConfig) : Bool :=
  validNodeId config.nodeId && memberPresent config.memberMask config.nodeId &&
    memberPresent config.memberMask config.initialCoordinatorId &&
    config.superframeUs ≠ 0 && config.slotSpacingUs ≠ 0 && config.heartbeatIntervalUs ≠ 0 &&
    config.heartbeatTimeoutUs ≠ 0 && config.electionDelayUs ≠ 0 &&
    networkMaxNodes.setWidth 64 * config.slotSpacingUs.setWidth 64 ≤ config.superframeUs.setWidth 64

/-- The role of a node under a coordinator. -/
def NetworkConfig.roleUnder (config : NetworkConfig) (coordinatorId : U8) : NetworkRole :=
  if coordinatorId = config.nodeId then .coordinator else .follower

/-- The receive state `memset` leaves. -/
def NetworkRxState.zero : NetworkRxState := ⟨false, 0, 0, 0, 0, 0, 0⟩

namespace NetworkState

/-- `openref_network_init` (:50-77). -/
def init (config : NetworkConfig) (nowUs : U64) : Option NetworkState :=
  if config.valid then
    some {
      config := config
      role := config.roleUnder config.initialCoordinatorId
      coordinatorId := config.initialCoordinatorId
      eligibleMask := config.memberMask
      coordinatorEpoch := 0
      scheduleOriginUs := nowUs
      lastHeartbeatUs := nowUs
      nextHeartbeatUs := nowUs + config.heartbeatIntervalUs.setWidth 64
      electionDeadlineUs := 0
      coordinatorChanges := 0
      heartbeatTimeouts := 0
      rx := fun _ => .zero }
  else none

/-- A follower without its coordinator (:99-102). -/
def silence (s : NetworkState) (nowUs : U64) : NetworkState :=
  { s with
    eligibleMask := s.eligibleMask &&& ~~~nodeBit s.coordinatorId
    role := .election
    electionDeadlineUs := nowUs + s.config.electionDelayUs.setWidth 64
    heartbeatTimeouts := s.heartbeatTimeouts + 1 }

/-- The coordinator's time is over (:97-104). -/
def expire (s : NetworkState) (nowUs : U64) : NetworkState × U32 :=
  if s.role = .follower && nowUs - s.lastHeartbeatUs > s.config.heartbeatTimeoutUs.setWidth 64 then
    (s.silence nowUs, actionCoordinatorTimeout)
  else (s, actionNone)

/-- The member named at the next epoch (:109-122). -/
def install (s : NetworkState) (elected : U8) (nowUs : U64) : NetworkState :=
  { s with
    coordinatorId := elected
    coordinatorEpoch := s.coordinatorEpoch + 1
    role := s.config.roleUnder elected
    lastHeartbeatUs := nowUs
    scheduleOriginUs := nowUs
    nextHeartbeatUs :=
      if elected = s.config.nodeId then nowUs + s.config.heartbeatIntervalUs.setWidth 64 else nowUs
    coordinatorChanges := s.coordinatorChanges + 1 }

/-- The actions of an election (:118-120). -/
def electionActions (s : NetworkState) (elected : U8) : U32 :=
  if elected = s.config.nodeId then actionCoordinatorChanged ||| actionSendHeartbeat
  else actionCoordinatorChanged

/-- The election (:106-124). -/
def elect (s : NetworkState) (nowUs : U64) : NetworkState × U32 :=
  if s.role = .election && nowUs ≥ s.electionDeadlineUs then
    let elected := electLowestMember s.eligibleMask
    if elected ≠ networkBroadcastId then (s.install elected nowUs, s.electionActions elected)
    else (s, actionNone)
  else (s, actionNone)

/-- `openref_network_tick` (:79-126): the state and the action word. -/
def tick (s : NetworkState) (nowUs : U64) : NetworkState × U32 :=
  if s.role = .coordinator then
    if nowUs ≥ s.nextHeartbeatUs then
      ({ s with nextHeartbeatUs := advancePeriodic s.nextHeartbeatUs s.config.heartbeatIntervalUs nowUs },
        actionSendHeartbeat)
    else (s, actionNone)
  else
    let expired := s.expire nowUs
    let elected := expired.1.elect nowUs
    (elected.1, expired.2 ||| elected.2)

/-- A heartbeat that `openref_network_receive_heartbeat` accepts (:135-142). -/
def accepts (s : NetworkState) (coordinatorId : U8) (coordinatorEpoch : U32) : Bool :=
  memberPresent s.config.memberMask coordinatorId &&
    !(coordinatorEpoch < s.coordinatorEpoch ||
      coordinatorEpoch = s.coordinatorEpoch && coordinatorId > s.coordinatorId)

/-- The state under the coordinator of an accepted heartbeat (:144-157). -/
def follow (s : NetworkState) (coordinatorId : U8) (coordinatorEpoch : U32) (scheduleOriginUs nowUs : U64) :
    NetworkState :=
  { s with
    coordinatorChanges :=
      if coordinatorId ≠ s.coordinatorId then s.coordinatorChanges + 1 else s.coordinatorChanges
    eligibleMask := s.eligibleMask ||| nodeBit coordinatorId
    coordinatorId := coordinatorId
    coordinatorEpoch := coordinatorEpoch
    scheduleOriginUs := scheduleOriginUs
    lastHeartbeatUs := nowUs
    role := s.config.roleUnder coordinatorId
    nextHeartbeatUs :=
      if coordinatorId = s.config.nodeId then nowUs + s.config.heartbeatIntervalUs.setWidth 64
      else s.nextHeartbeatUs }

/-- `openref_network_receive_heartbeat` (:128-159). -/
def receiveHeartbeat (s : NetworkState) (coordinatorId : U8) (coordinatorEpoch : U32)
    (scheduleOriginUs nowUs : U64) : NetworkState × Bool :=
  if s.accepts coordinatorId coordinatorEpoch then
    (s.follow coordinatorId coordinatorEpoch scheduleOriginUs nowUs, true)
  else (s, false)

/-- `openref_network_set_member_eligible` (:161-176). -/
def setMemberEligible (s : NetworkState) (nodeId : U8) (eligible : Bool) : NetworkState × Bool :=
  if memberPresent s.config.memberMask nodeId then
    ({ s with
      eligibleMask :=
        if eligible then s.eligibleMask ||| nodeBit nodeId else s.eligibleMask &&& ~~~nodeBit nodeId }, true)
  else (s, false)

/-- `openref_network_next_slot_us` (:178-195). -/
def nextSlotUs (s : NetworkState) (notBeforeUs : U64) : Option U64 :=
  if validNodeId s.config.nodeId then
    let offset := (s.config.nodeId - 1).setWidth 64 * s.config.slotSpacingUs.setWidth 64
    let candidate := s.scheduleOriginUs + offset
    let superframe := s.config.superframeUs.setWidth 64
    if candidate < notBeforeUs then
      some (candidate + (notBeforeUs - candidate + superframe - 1) / superframe * superframe)
    else some candidate
  else none

end NetworkState

namespace NetworkRxState

/-- A packet taken for the first one of its sender (:222-228, :230-236). -/
def restart (rx : NetworkRxState) (sequence : U16) (txTimestampUs : U64) : NetworkRxState :=
  { rx with
    initialized := true
    lastSequence := sequence
    lastTxTimestampUs := txTimestampUs
    received := rx.received + 1 }

/-- A packet ahead of the last one (:248-252). -/
def advance (rx : NetworkRxState) (sequence : U16) (txTimestampUs : U64) : NetworkRxState :=
  { rx with
    lastSequence := sequence
    lastTxTimestampUs := if txTimestampUs ≠ 0 then txTimestampUs else rx.lastTxTimestampUs
    received := rx.received + 1 }

/-- A small sequence number with an older timestamp: the sender restarted (:230-231). -/
def restarted (rx : NetworkRxState) (sequence : U16) (txTimestampUs : U64) : Bool :=
  txTimestampUs ≠ 0 && txTimestampUs < rx.lastTxTimestampUs && sequence ≤ 16

/-- The comparison of the sequence numbers (:238-262). -/
def receiveInSequence (rx : NetworkRxState) (sequence : U16) (txTimestampUs : U64) :
    NetworkRxState × NetworkRxResult × U16 :=
  let delta := sequence - rx.lastSequence
  if delta = 0 then ({ rx with duplicates := rx.duplicates + 1 }, .duplicate, 0)
  else if delta ≥ 0x8000 then ({ rx with stale := rx.stale + 1 }, .stale, 0)
  else if delta = 1 then (rx.advance sequence txTimestampUs, .inOrder, 0)
  else
    let missing := delta - 1
    let advanced := rx.advance sequence txTimestampUs
    ({ advanced with gaps := advanced.gaps + missing.setWidth 32 }, .gap, missing)

/-- `openref_network_receive_audio_timestamped` on the source's state (:221-262): the
result and `*missing_packets`. -/
def receive (rx : NetworkRxState) (sequence : U16) (txTimestampUs : U64) :
    NetworkRxState × NetworkRxResult × U16 :=
  if !rx.initialized then (rx.restart sequence txTimestampUs, .first, 0)
  else if rx.restarted sequence txTimestampUs then (rx.restart sequence txTimestampUs, .first, 0)
  else rx.receiveInSequence sequence txTimestampUs

end NetworkRxState

namespace NetworkState

/-- One source's receive state replaced. -/
def setRx (s : NetworkState) (i : Fin 6) (rx : NetworkRxState) : NetworkState :=
  { s with rx := fun j => if j = i then rx else s.rx j }

/-- `openref_network_receive_audio_timestamped` (:207-263). -/
def receiveAudioTimestamped (s : NetworkState) (sourceId : U8) (sequence : U16) (txTimestampUs : U64) :
    NetworkState × NetworkRxResult × U16 :=
  match sourceIndex sourceId with
  | none => (s, .invalid, 0)
  | some i =>
    if sourceId = s.config.nodeId then (s, .invalid, 0)
    else
      let received := (s.rx i).receive sequence txTimestampUs
      (s.setRx i received.1, received.2)

/-- `openref_network_receive_audio` (:197-205). -/
def receiveAudio (s : NetworkState) (sourceId : U8) (sequence : U16) : NetworkState × NetworkRxResult × U16 :=
  s.receiveAudioTimestamped sourceId sequence 0

end NetworkState

end OpenRef.Network
