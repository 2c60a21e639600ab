import OpenRef.Simulator.Medium
/-!
# A simulated scenario (node.py, protocol.py, run.py, capacity.py, metrics.py)

The voice nodes and the coordinator on the simulated medium. Each node has two callbacks that call themselves
again one local period later: one generates a frame into its queue, the other transmits the oldest frame of the
queue. The coordinator's heartbeat, the check for its timeout and an election are callbacks as well, and so are
the faults that switch nodes off and on.

An event's callback is looked up by its `order`, which is different for each event. The times that the scenario
file gives in floats are the rounded microseconds here, and so is the local period, in which a node's drift is.
What raises is `none`.
-/

namespace OpenRef.Simulator

/-! ## Configurations -/

/-- `packet_airtime_us` (packet.py:100-112). -/
def packetAirtimeUs (payloadBytes bitrateBps overheadBytes preambleUs : ℤ) : Option ℤ :=
  if payloadBytes < 0 ∨ overheadBytes < 0 then none
  else if bitrateBps ≤ 0 then none
  else some (preambleUs + ((payloadBytes + overheadBytes) * 8 * 1000000 + bitrateBps - 1) / bitrateBps)

/-- `VoiceConfig`, with the time on the air that its property computes. -/
structure VoiceConfig where
  payloadBytes : ℤ
  airtimeUs : ℤ
  stopGenerationAtUs : ℤ
  maxQueueFrames : ℤ
  deadlineUs : ℤ

/-- `CoordinatorConfig`, with the time on the air that its property computes. -/
structure CoordinatorConfig where
  initialCoordinatorId : ℤ
  heartbeatIntervalUs : ℤ
  heartbeatTimeoutUs : ℤ
  electionDelayUs : ℤ
  heartbeatAirtimeUs : ℤ
  heartbeatPayloadBytes : ℤ
  firstHeartbeatDelayUs : ℤ := 16000

/-- How often the timeout is checked (protocol.py:87-90). -/
def CoordinatorConfig.checkIntervalUs (c : CoordinatorConfig) : ℤ := max 1 (c.heartbeatIntervalUs / 2)

structure Config where
  voice : VoiceConfig
  coordinator : CoordinatorConfig

/-! ## The nodes, the coordinator and their trace -/

/-- A callback of the nodes, of the coordinator, or of a fault. Nodes are objects: they go by their index. -/
inductive Call
  | generate (node : ℕ)
  | slot (node : ℕ)
  | heartbeat
  | checkTimeout
  | elect
  | setEnabled (node : ℕ) (enabled : Bool)
deriving DecidableEq, Repr

/-- The `details` of an entry that a callback records. -/
inductive Details
  | empty
  | frame (sequence : ℤ)
  | depth (depth : ℕ)
  | deadlineMiss (ageUs : ℤ) (stage : String)
  | selected (previousId recoveryTimeUs : Option ℤ)
deriving DecidableEq, Repr

/-- `VoiceNode`. -/
structure VoiceNode where
  nodeId : ℤ
  slotOffsetUs : ℤ
  localPeriodUs : ℤ
  sequence : ℤ
  queue : List Packet
  enabled : Bool
  maxQueueDepth : ℕ
deriving DecidableEq, Repr

/-- Everything that a run changes. -/
structure Sim (P : Type) where
  world : MediumRun P
  calls : List (ℕ × Call)
  details : List (ℕ × Details)
  nodes : List VoiceNode
  coordinatorId : ℤ
  lastHeartbeatUs : ℤ
  electionPending : Bool
  nextPacketId : ℤ

namespace Sim

variable {P : Type}

def simulation (s : Sim P) : Simulation := s.world.medium.simulation

def nowUs (s : Sim P) : ℤ := s.simulation.nowUs

def trace (s : Sim P) : List TraceEvent := s.simulation.trace

def transmissions (s : Sim P) : List Transmission := s.world.medium.transmissions

/-- `schedule_at` of a callback; in the past it raises. -/
def scheduleAt (s : Sim P) (timeUs : ℤ) (call : Call) : Option (Sim P) :=
  if timeUs < s.nowUs then none
  else
    let medium := { s.world.medium with simulation := s.simulation.scheduleAt timeUs .node }
    some { s with world := { s.world with medium := medium }, calls := (s.simulation.sequence, call) :: s.calls }

/-- `schedule` of a callback; a negative delay raises. -/
def schedule (s : Sim P) (delayUs : ℤ) (call : Call) : Option (Sim P) :=
  if delayUs < 0 then none else s.scheduleAt (s.nowUs + delayUs) call

/-- `record` by a callback. -/
def record (s : Sim P) (event : String) (nodeId packetId : Option ℤ) (details : Details) : Sim P :=
  let medium := { s.world.medium with simulation := s.simulation.record (.other event) nodeId packetId }
  { s with world := { s.world with medium := medium }, details := s.details ++ [(s.trace.length, details)] }

/-- `transmit`; the negative delay of its end raises. -/
def transmit (s : Sim P) (packet : Packet) (airtimeUs : ℤ) : Option (Sim P) :=
  if airtimeUs < 0 then none
  else some { s with world := { s.world with medium := s.world.medium.transmit packet airtimeUs } }

def setNode (s : Sim P) (i : ℕ) (node : VoiceNode) : Sim P := { s with nodes := s.nodes.set i node }

/-- A node's callback calls itself one period later, until no more is generated (node.py:109-115). -/
def again (c : Config) (node : VoiceNode) (call : Call) (s : Sim P) : Option (Sim P) :=
  let nextTime := s.nowUs + node.localPeriodUs
  if nextTime < c.voice.stopGenerationAtUs then s.scheduleAt nextTime call else some s

/-- A frame is put into what is left of the queue (node.py:102-108). -/
def append (i : ℕ) (node : VoiceNode) (queue : List Packet) (packet : Packet) (s : Sim P) : Sim P :=
  let queue := queue ++ [packet]
  (s.setNode i { node with
    sequence := node.sequence + 1, queue := queue, maxQueueDepth := max node.maxQueueDepth queue.length }).record
    "queue_depth" (some node.nodeId) none (.depth queue.length)

/-- What an enabled node does with a new frame (node.py:81-108). -/
def enqueue (c : Config) (i : ℕ) (node : VoiceNode) (s : Sim P) : Option (Sim P) :=
  let packet : Packet := ⟨s.nextPacketId, node.nodeId, node.sequence, s.nowUs, c.voice.payloadBytes, .voice⟩
  let s := Sim.record { s with nextPacketId := s.nextPacketId + 1 } "voice_frame_generated" (some node.nodeId)
    (some packet.packetId) (.frame packet.sequence)
  if c.voice.maxQueueFrames ≤ node.queue.length then
    match node.queue with
    | [] => none -- `popleft` of an empty queue raises
    | dropped :: queue => some
      ((s.record "queue_overflow" (some node.nodeId) (some dropped.packetId) .empty).append i node queue packet)
  else some (s.append i node node.queue packet)

/-- `_generate` (node.py:79-115). -/
def generate (c : Config) (i : ℕ) (s : Sim P) : Option (Sim P) :=
  match s.nodes[i]? with
  | none => none
  | some node => (if node.enabled then s.enqueue c i node else some s).bind (again c node (.generate i))

/-- A frame that is older than it may be is reported (node.py:121-128, :132-140). -/
def checkAge (c : Config) (nodeId packetId ageUs : ℤ) (stage : String) (s : Sim P) : Sim P :=
  if c.voice.deadlineUs < ageUs then
    s.record "audio_deadline_miss" (some nodeId) (some packetId) (.deadlineMiss ageUs stage)
  else s

/-- `_slot` (node.py:117-149). -/
def slot (c : Config) (i : ℕ) (s : Sim P) : Option (Sim P) :=
  match s.nodes[i]? with
  | none => none
  | some node => (if node.enabled then
      match node.queue with
      | [] => some s
      | packet :: queue =>
        ((s.setNode i { node with queue := queue }).checkAge c node.nodeId packet.packetId
          (s.nowUs - packet.createdAtUs) "queue").transmit packet c.voice.airtimeUs
    else some s).bind (again c node (.slot i))

/-- `nodes[node_id]`: of two nodes with one id the dictionary keeps the later. -/
def nodeById (s : Sim P) (nodeId : ℤ) : Option VoiceNode := s.nodes.reverse.find? fun node => node.nodeId = nodeId

/-- `_heartbeat` (protocol.py:57-79). -/
def heartbeat (c : Config) (s : Sim P) : Option (Sim P) :=
  match s.nodeById s.coordinatorId with
  | none => none -- `KeyError`
  | some node => (if node.enabled then
      Sim.transmit { s with nextPacketId := s.nextPacketId + 1 }
        ⟨s.nextPacketId, s.coordinatorId, 0, s.nowUs, c.coordinator.heartbeatPayloadBytes, .heartbeat⟩
        c.coordinator.heartbeatAirtimeUs
    else some s).bind fun s => s.schedule c.coordinator.heartbeatIntervalUs .heartbeat

/-- `_check_timeout` (protocol.py:81-90). -/
def checkTimeout (c : Config) (s : Sim P) : Option (Sim P) :=
  (if c.coordinator.heartbeatTimeoutUs < s.nowUs - s.lastHeartbeatUs ∧ s.electionPending = false then
      (Sim.record { s with electionPending := true } "heartbeat_timeout" (some s.coordinatorId) none .empty).schedule
        c.coordinator.electionDelayUs .elect
    else some s).bind fun s => s.schedule c.coordinator.checkIntervalUs .checkTimeout

/-- The ids of the nodes that are enabled (protocol.py:93), least first. -/
def active (s : Sim P) : List ℤ :=
  ((s.nodes.map VoiceNode.nodeId).dedup.filter fun nodeId => (s.nodeById nodeId).any VoiceNode.enabled).insertionSort
    (· ≤ ·)

/-- `_elect` (protocol.py:92-104). -/
def elect (c : Config) (s : Sim P) : Sim P :=
  match s.active with
  | [] => { s with electionPending := false }
  | least :: _ =>
    { Sim.record { s with coordinatorId := least, lastHeartbeatUs := s.nowUs } "coordinator_selected" (some least) none
        (.selected (some s.coordinatorId) (some c.coordinator.electionDelayUs)) with electionPending := false }

/-- `set_enabled` (node.py:75-77). -/
def setEnabled (i : ℕ) (enabled : Bool) (s : Sim P) : Sim P :=
  match s.nodes[i]? with
  | none => s
  | some node => (s.setNode i { node with enabled := enabled }).record
    (if enabled then "node_enabled" else "node_disabled") (some node.nodeId) none .empty

/-- The `complete` of a voice frame (node.py:130-140), and that of a heartbeat (protocol.py:69-76). -/
def complete (c : Config) (packet : Packet) (delivered : Bool) (s : Sim P) : Sim P :=
  if delivered then
    match packet.kind with
    | .voice => s.checkAge c packet.sourceId packet.packetId
        (s.nowUs + s.world.medium.propagationDelayUs - packet.createdAtUs) "delivery"
    | .heartbeat => Sim.record { s with lastHeartbeatUs := s.nowUs } "heartbeat_received" (some s.coordinatorId)
        (some packet.packetId) .empty
  else s

def call (c : Config) (s : Sim P) : Call → Option (Sim P)
  | .generate i => s.generate c i
  | .slot i => s.slot c i
  | .heartbeat => s.heartbeat c
  | .checkTimeout => s.checkTimeout c
  | .elect => some (s.elect c)
  | .setEnabled i enabled => some (s.setEnabled i enabled)

/-! ## The loop -/

variable [LT P] [DecidableLT P]

/-- The end of a transmission: what `finish` records, then the `complete` of what was sent (medium.py:76-108). -/
def finish (c : Config) (untilUs : ℤ) (draw : P) (s : Sim P) (tx : ℕ) : Sim P :=
  let world := s.world.step (.turn untilUs draw)
  let delivered := (world.recorded.drop s.world.recorded.length).any fun o =>
    o.2.event matches .packetDelivered _ _
  match s.transmissions[tx]? with
  | none => { s with world := world } -- a `finish` always has its transmission
  | some t => complete c t.packet delivered { s with world := world }

/-- A turn of the loop of `run` (engine.py:58-68), whose next draw of `random` is given. -/
def turn (c : Config) (untilUs : ℤ) (s : Sim P) (draw : P) : Option (Sim P) :=
  if untilUs < s.nowUs then none
  else match s.simulation.due untilUs with
    | none => some { s with world := s.world.step (.turn untilUs draw) }
    | some (event, _) => match event.callback with
      | .finish tx => some (s.finish c untilUs draw tx)
      | .node => match s.calls.lookup event.order with
        | none => some { s with world := s.world.step (.turn untilUs draw) } -- it always has its call
        | some call => Sim.call c { s with world := s.world.step (.turn untilUs draw) } call

end Sim

/-! ## Scenarios -/

/-- `NodeSpec`, with `round(frame_interval_us / (1 + drift_ppm / 1_000_000))` in place of its drift. -/
structure NodeSpec where
  nodeId : ℤ
  roundedPeriodUs : ℤ

/-- `FaultSpec`. -/
structure FaultSpec (P : Type) where
  action : String
  timeUs : ℤ
  nodeId : Option ℤ := none
  durationUs : ℤ := 0
  probability : Option P := none

/-- `Scenario`, with the rounded times and sizes that its properties give. -/
structure Scenario (P : Type) where
  nodes : List NodeSpec
  frameIntervalUs : ℤ
  wirePayloadBytes : ℤ
  heartbeatWirePayloadBytes : ℤ
  durationUs : ℤ
  radioBitrateBps : ℤ
  overheadBytes : ℤ
  preambleUs : ℤ
  slotSpacingUs : ℤ
  scheduleSlots : ℤ
  propagationDelayUs : ℤ
  packetLossProbability : P
  maxQueueFrames : ℤ := 4
  audioDeadlineUs : ℤ
  heartbeatIntervalUs : ℤ
  heartbeatTimeoutUs : ℤ
  electionDelayUs : ℤ
  initialCoordinatorId : ℤ := 1
  faults : List (FaultSpec P) := []

/-- `CapacityEstimate`, without the ratios in floats. -/
structure CapacityEstimate where
  voiceAirtimeUs : ℤ
  heartbeatAirtimeUs : ℤ
  slotGuardUs : ℤ
  scheduleSpanUs : ℤ
deriving DecidableEq, Repr

namespace Scenario

variable {P : Type}

/-- `estimate_capacity` (capacity.py:20-46); the ratios divide by the two intervals. -/
def estimateCapacity (sc : Scenario P) : Option CapacityEstimate := do
  let voice ← packetAirtimeUs sc.wirePayloadBytes sc.radioBitrateBps sc.overheadBytes sc.preambleUs
  let heartbeat ← packetAirtimeUs sc.heartbeatWirePayloadBytes sc.radioBitrateBps sc.overheadBytes sc.preambleUs
  if sc.frameIntervalUs = 0 ∨ sc.heartbeatIntervalUs = 0 then none
  return ⟨voice, heartbeat, sc.slotSpacingUs - voice, (sc.scheduleSlots - 1) * sc.slotSpacingUs + voice⟩

/-- `_voice_config` and `_coordinator_config` (run.py:14-38). -/
def config (sc : Scenario P) (capacity : CapacityEstimate) : Config :=
  ⟨⟨sc.wirePayloadBytes, capacity.voiceAirtimeUs, sc.durationUs, sc.maxQueueFrames, sc.audioDeadlineUs⟩,
    { initialCoordinatorId := sc.initialCoordinatorId
      heartbeatIntervalUs := sc.heartbeatIntervalUs
      heartbeatTimeoutUs := sc.heartbeatTimeoutUs
      electionDelayUs := sc.electionDelayUs
      heartbeatAirtimeUs := capacity.heartbeatAirtimeUs
      heartbeatPayloadBytes := sc.heartbeatWirePayloadBytes }⟩

/-- A node of the scenario (node.py:41-61). -/
def node (sc : Scenario P) (index : ℕ) (spec : NodeSpec) : VoiceNode :=
  ⟨spec.nodeId, index * sc.slotSpacingUs, max 1 spec.roundedPeriodUs, 0, [], true, 0⟩

/-- The scenario before anything is started. -/
def init (sc : Scenario P) : Sim P where
  world := ⟨SharedMedium.init sc.propagationDelayUs sc.packetLossProbability, []⟩
  calls := []
  details := []
  nodes := sc.nodes.mapIdx sc.node
  coordinatorId := sc.initialCoordinatorId
  lastHeartbeatUs := 0
  electionPending := false
  nextPacketId := 1

/-- `start` of a node (node.py:63-73). -/
def startNode (s : Sim P) (node : VoiceNode × ℕ) : Option (Sim P) :=
  (s.scheduleAt node.1.slotOffsetUs (.generate node.2)).bind fun s => s.scheduleAt node.1.slotOffsetUs (.slot node.2)

/-- `start` of the coordinator (protocol.py:52-55). -/
def startProtocol (c : Config) (s : Sim P) : Option (Sim P) :=
  ((s.record "coordinator_selected" (some s.coordinatorId) none (.selected none none)).schedule
    c.coordinator.firstHeartbeatDelayUs .heartbeat).bind fun s =>
      s.schedule c.coordinator.heartbeatTimeoutUs .checkTimeout

/-- The node that a fault is about (run.py:40-43): the later one of two with its id. -/
def requireFaultNode (s : Sim P) (fault : FaultSpec P) : Option ℕ :=
  fault.nodeId.bind fun nodeId =>
    ((s.nodes.map VoiceNode.nodeId).zipIdx.reverse.find? fun entry => entry.1 = nodeId).map Prod.snd

/-- One round of `_schedule_faults` (run.py:52-72). -/
def scheduleFault (s : Sim P) (fault : FaultSpec P) : Option (Sim P) :=
  if fault.action = "disable_node" then
    (requireFaultNode s fault).bind fun i => s.scheduleAt fault.timeUs (.setEnabled i false)
  else if fault.action = "enable_node" then
    (requireFaultNode s fault).bind fun i => s.scheduleAt fault.timeUs (.setEnabled i true)
  else if fault.action = "packet_loss" then
    fault.probability.map fun probability => { s with world := { s.world with
      medium := s.world.medium.addLossWindow fault.timeUs fault.durationUs probability } }
  else none

/-- What `run_scenario` sets up before the loop (run.py:75-109); what raises there raises before the loop. -/
def start (sc : Scenario P) (capacity : CapacityEstimate) : Option (Sim P) :=
  ((sc.init.nodes.zipIdx.foldlM startNode sc.init).bind (startProtocol (sc.config capacity))).bind fun s =>
    sc.faults.foldlM scheduleFault s

variable [LT P] [DecidableLT P]

/-- `run_scenario` (run.py:75-110) after as many turns of the loop as there are draws. -/
def run (sc : Scenario P) (draws : List P) : Option (Sim P) := do
  let capacity ← sc.estimateCapacity
  let s ← sc.start capacity
  draws.foldlM (Sim.turn (sc.config capacity) (sc.durationUs + capacity.voiceAirtimeUs)) s

end Scenario

/-- Two nodes of which the first, the coordinator, is switched off after its second frame. -/
def Scenario.twoNodes : Scenario ℕ where
  nodes := [⟨1, 20000⟩, ⟨2, 20000⟩]
  frameIntervalUs := 20000
  wirePayloadBytes := 40
  heartbeatWirePayloadBytes := 8
  durationUs := 60000
  radioBitrateBps := 1000000
  overheadBytes := 16
  preambleUs := 100
  slotSpacingUs := 2000
  scheduleSlots := 2
  propagationDelayUs := 2
  packetLossProbability := 0
  audioDeadlineUs := 100000
  heartbeatIntervalUs := 10000
  heartbeatTimeoutUs := 20000
  electionDelayUs := 5000
  faults := [{ action := "disable_node", timeUs := 21000, nodeId := some 1 }]

/-! ## Metrics -/

/-- What `summarize` counts in a trace, without the percentiles. -/
structure Summary where
  generated : ℕ
  delivered : ℕ
  collided : ℕ
  randomlyLost : ℕ
  queueOverflows : ℕ
  audioDeadlineMisses : ℕ
  latencies : List ℤ
  maxQueueDepth : ℕ
  coordinatorChanges : ℕ
deriving DecidableEq, Repr

namespace TraceKind

/-- A delivered frame of voice (metrics.py:25). -/
def isDelivered : TraceKind → Bool
  | .packetDelivered _ kind => kind = "voice"
  | _ => false

/-- A collided frame of voice (metrics.py:26). -/
def isCollided : TraceKind → Bool
  | .packetCollided kind => kind = "voice"
  | _ => false

/-- A lost frame of voice (metrics.py:27). -/
def isLost : TraceKind → Bool
  | .packetLost kind => kind = "voice"
  | _ => false

/-- What a callback recorded under a name. -/
def named (event : String) : TraceKind → Bool
  | .other e => e = event
  | _ => false

def latencyUs : TraceKind → Option ℤ
  | .packetDelivered latencyUs _ => some latencyUs
  | _ => none

end TraceKind

/-- `summarize` (metrics.py:23-54). -/
def summarize (trace : List TraceEvent) (details : List (ℕ × Details)) : Summary where
  generated := trace.countP fun e => e.event.named "voice_frame_generated"
  delivered := trace.countP fun e => e.event.isDelivered
  collided := trace.countP fun e => e.event.isCollided
  randomlyLost := trace.countP fun e => e.event.isLost
  queueOverflows := trace.countP fun e => e.event.named "queue_overflow"
  audioDeadlineMisses := trace.countP fun e => e.event.named "audio_deadline_miss"
  latencies := (trace.filter fun e => e.event.isDelivered).filterMap fun e => e.event.latencyUs
  maxQueueDepth := (details.filterMap fun d => match d.2 with | .depth n => some n | _ => none).foldl max 0
  coordinatorChanges := details.countP fun d => d.2 matches .selected (some _) _

end OpenRef.Simulator
