import OpenRef.Simulator.Scenario
import OpenRef.Simulator.Collisions
/-!
# What a scenario has still to call

The callbacks that are scheduled, with their times (`Sim.pending`), and what a turn of the loop can do
(`Sim.turn_cases`): end the run, call the callback that comes first, or end a transmission. The proofs about runs
look at these and at the few operations that callbacks are made of, not at the queue.
-/

namespace OpenRef.Simulator

/-! ## What `transmit` leaves in the trace -/

/-- What is recorded when a transmission starts. -/
def TraceKind.isStart : TraceKind → Bool
  | .collisionDetected _ | .txStart _ _ => true
  | _ => false

namespace SharedMedium

variable {P : Type}

theorem detect_simulation (packet : Packet) (new : ℕ) (m : SharedMedium P) (i : ℕ) :
    ∃ news, (∀ e ∈ news, e.event.isStart = true) ∧
      (detect packet new m i).simulation = { m.simulation with trace := m.simulation.trace ++ news } := by
  rcases detect_cases packet new m i with ⟨-, h⟩ | ⟨other, -, -, h⟩
  · exact ⟨[], List.forall_mem_nil _, by rw [h, List.append_nil]⟩
  · refine ⟨[⟨m.simulation.nowUs, _, _, _⟩], fun e he => ?_, by rw [h]; rfl⟩
    rw [List.mem_singleton.1 he]
    rfl

/-- `transmit` schedules the end, and records that it started and what it met. -/
theorem transmit_simulation (m : SharedMedium P) (packet : Packet) {airtimeUs : ℤ} (h : 0 ≤ airtimeUs) :
    ∃ news, (∀ e ∈ news, e.event.isStart = true) ∧ (m.transmit packet airtimeUs).simulation =
      { m.simulation.scheduleAt (m.simulation.nowUs + airtimeUs) (.finish m.transmissions.length) with
        trace := m.simulation.trace ++ news } := by
  have hfold : ∃ news, (∀ e ∈ news, e.event.isStart = true) ∧
      (m.active.foldl (detect packet m.transmissions.length) (m.started packet airtimeUs)).simulation =
        { m.simulation with trace := m.simulation.trace ++ news } := by
    refine Run.inv_run (P := fun m' : SharedMedium P => ∃ news, (∀ e ∈ news, e.event.isStart = true) ∧
      m'.simulation = { m.simulation with trace := m.simulation.trace ++ news }) ?_ ?_ m.active
    · rintro m' i ⟨news, hnews, hsim⟩
      obtain ⟨more, hmore, hdetect⟩ := detect_simulation packet m.transmissions.length m' i
      refine ⟨news ++ more, List.forall_mem_append.2 ⟨hnews, hmore⟩, ?_⟩
      rw [hdetect, hsim, List.append_assoc]
    · exact ⟨[], List.forall_mem_nil _, by rw [List.append_nil]; rfl⟩
  obtain ⟨news, hnews, hsim⟩ := hfold
  have hstart : (TraceKind.txStart airtimeUs packet.kind.value).isStart = true := rfl
  refine ⟨news ++ [⟨m.simulation.nowUs, .txStart airtimeUs packet.kind.value, some packet.sourceId,
    some packet.packetId⟩], List.forall_mem_append.2 ⟨hnews, fun e he => ?_⟩, ?_⟩
  · rw [List.mem_singleton.1 he]
    exact hstart
  · have htransmit : (m.transmit packet airtimeUs).simulation = ((m.active.foldl (detect packet m.transmissions.length)
        (m.started packet airtimeUs)).simulation.record (.txStart airtimeUs packet.kind.value) (some packet.sourceId)
          (some packet.packetId)).schedule airtimeUs (.finish m.transmissions.length) := rfl
    have hlater : ¬ m.simulation.nowUs + airtimeUs < m.simulation.nowUs := by omega
    rw [htransmit, hsim]
    unfold Simulation.schedule Simulation.record Simulation.scheduleAt
    dsimp only
    rw [if_neg (not_lt.2 h), if_neg hlater, if_neg hlater, List.append_assoc]

end SharedMedium

/-! ## The operations of the callbacks -/

namespace Sim

variable {P : Type} {s s' : Sim P}

/-- A callback is put into the queue. -/
def scheduled (s : Sim P) (timeUs : ℤ) (call : Call) : Sim P :=
  let medium := { s.world.medium with simulation := s.simulation.scheduleAt timeUs .node }
  { s with world := { s.world with medium := medium }, calls := (s.simulation.sequence, call) :: s.calls }

/-- A packet is put on the air. -/
def sent (s : Sim P) (packet : Packet) (airtimeUs : ℤ) : Sim P :=
  { s with world := { s.world with medium := s.world.medium.transmit packet airtimeUs } }

theorem scheduleAt_eq_some {timeUs : ℤ} {call : Call} :
    s.scheduleAt timeUs call = some s' ↔ s.nowUs ≤ timeUs ∧ s.scheduled timeUs call = s' := by
  unfold scheduleAt scheduled
  split
  · next h => exact ⟨fun h => (by cases h), fun h' => absurd h'.1 (not_le.2 h)⟩
  · next h => exact ⟨fun h' => ⟨not_lt.1 h, Option.some.inj h'⟩, fun h' => congrArg some h'.2⟩

theorem schedule_eq_some {delayUs : ℤ} {call : Call} :
    s.schedule delayUs call = some s' ↔ 0 ≤ delayUs ∧ s.scheduled (s.nowUs + delayUs) call = s' := by
  unfold schedule
  split
  · next h => exact ⟨fun h => (by cases h), fun h' => absurd h'.1 (not_le.2 h)⟩
  · next h =>
    rw [scheduleAt_eq_some]
    exact ⟨fun h' => ⟨not_lt.1 h, h'.2⟩, fun h' => ⟨by omega, h'.2⟩⟩

theorem transmit_eq_some {packet : Packet} {airtimeUs : ℤ} :
    s.transmit packet airtimeUs = some s' ↔ 0 ≤ airtimeUs ∧ s.sent packet airtimeUs = s' := by
  unfold transmit sent
  split
  · next h => exact ⟨fun h => (by cases h), fun h' => absurd h'.1 (not_le.2 h)⟩
  · next h => exact ⟨fun h' => ⟨not_lt.1 h, Option.some.inj h'⟩, fun h' => congrArg some h'.2⟩

theorem again_eq_some {c : Config} {node : VoiceNode} {call : Call} :
    s.again c node call = some s' ↔
      (s.nowUs + node.localPeriodUs < c.voice.stopGenerationAtUs ∧ s.nowUs ≤ s.nowUs + node.localPeriodUs ∧
        s.scheduled (s.nowUs + node.localPeriodUs) call = s') ∨
      (c.voice.stopGenerationAtUs ≤ s.nowUs + node.localPeriodUs ∧ s = s') := by
  unfold again
  dsimp only
  split
  · next h =>
    rw [scheduleAt_eq_some]
    exact ⟨fun h' => .inl ⟨h, h'⟩, fun h' => (h'.resolve_right fun h' => absurd h (not_lt.2 h'.1)).2⟩
  · next h =>
    rw [Option.some.injEq]
    exact ⟨fun h' => .inr ⟨not_lt.1 h, h'⟩, fun h' => (h'.resolve_left fun h' => absurd h'.1 h).2⟩

@[simp] theorem scheduled_nowUs (timeUs : ℤ) (call : Call) : (s.scheduled timeUs call).nowUs = s.nowUs :=
  Simulation.scheduleAt_nowUs _ _

@[simp] theorem scheduled_trace (timeUs : ℤ) (call : Call) : (s.scheduled timeUs call).trace = s.trace :=
  Simulation.scheduleAt_trace _ _

@[simp] theorem scheduled_transmissions (timeUs : ℤ) (call : Call) :
    (s.scheduled timeUs call).transmissions = s.transmissions := rfl

@[simp] theorem scheduled_nodes (timeUs : ℤ) (call : Call) : (s.scheduled timeUs call).nodes = s.nodes := rfl

@[simp] theorem scheduled_coordinatorId (timeUs : ℤ) (call : Call) :
    (s.scheduled timeUs call).coordinatorId = s.coordinatorId := rfl

@[simp] theorem scheduled_lastHeartbeatUs (timeUs : ℤ) (call : Call) :
    (s.scheduled timeUs call).lastHeartbeatUs = s.lastHeartbeatUs := rfl

@[simp] theorem scheduled_electionPending (timeUs : ℤ) (call : Call) :
    (s.scheduled timeUs call).electionPending = s.electionPending := rfl

@[simp] theorem scheduled_nextPacketId (timeUs : ℤ) (call : Call) :
    (s.scheduled timeUs call).nextPacketId = s.nextPacketId := rfl

@[simp] theorem scheduled_details (timeUs : ℤ) (call : Call) : (s.scheduled timeUs call).details = s.details := rfl

@[simp] theorem sent_nodes (packet : Packet) (airtimeUs : ℤ) : (s.sent packet airtimeUs).nodes = s.nodes := rfl

@[simp] theorem sent_coordinatorId (packet : Packet) (airtimeUs : ℤ) :
    (s.sent packet airtimeUs).coordinatorId = s.coordinatorId := rfl

@[simp] theorem sent_lastHeartbeatUs (packet : Packet) (airtimeUs : ℤ) :
    (s.sent packet airtimeUs).lastHeartbeatUs = s.lastHeartbeatUs := rfl

@[simp] theorem sent_electionPending (packet : Packet) (airtimeUs : ℤ) :
    (s.sent packet airtimeUs).electionPending = s.electionPending := rfl

@[simp] theorem sent_nextPacketId (packet : Packet) (airtimeUs : ℤ) :
    (s.sent packet airtimeUs).nextPacketId = s.nextPacketId := rfl

@[simp] theorem record_nowUs (event : String) (nodeId packetId : Option ℤ) (details : Details) :
    (s.record event nodeId packetId details).nowUs = s.nowUs := rfl

@[simp] theorem record_transmissions (event : String) (nodeId packetId : Option ℤ) (details : Details) :
    (s.record event nodeId packetId details).transmissions = s.transmissions := rfl

@[simp] theorem record_nodes (event : String) (nodeId packetId : Option ℤ) (details : Details) :
    (s.record event nodeId packetId details).nodes = s.nodes := rfl

@[simp] theorem record_trace (event : String) (nodeId packetId : Option ℤ) (details : Details) :
    (s.record event nodeId packetId details).trace = s.trace ++ [⟨s.nowUs, .other event, nodeId, packetId⟩] := rfl

theorem sent_nowUs (packet : Packet) {airtimeUs : ℤ} (h : 0 < airtimeUs) :
    (s.sent packet airtimeUs).nowUs = s.nowUs := SharedMedium.transmit_now _ packet h

/-! ## The callbacks that are scheduled -/

/-- The callback of an event and its time. -/
def pendingCall (calls : List (ℕ × Call)) (e : ScheduledEvent) : Option (ℤ × Call) :=
  match e.callback with
  | .node => (calls.lookup e.order).map fun call => (e.timeUs, call)
  | .finish _ => none

/-- The callbacks in the queue, with their times, in the order of the queue. -/
def pending (s : Sim P) : List (ℤ × Call) := s.simulation.events.filterMap (pendingCall s.calls)

/-- What holds between the turns: the medium is sound, and each event of the nodes has its callback. -/
structure Sane (s : Sim P) : Prop where
  sound : Sound s.world
  fresh : ∀ e ∈ s.simulation.events, e.order < s.simulation.sequence
  called : ∀ e ∈ s.simulation.events, e.callback = .node → ∃ call, s.calls.lookup e.order = some call

theorem Sane.future (h : Sane s) : ∀ p ∈ s.pending, s.nowUs ≤ p.1 := by
  intro p hp
  obtain ⟨e, he, hcall⟩ := List.mem_filterMap.1 hp
  unfold pendingCall at hcall
  split at hcall
  · obtain ⟨call, -, rfl⟩ := Option.map_eq_some_iff.1 hcall
    exact h.sound.queue.future e he
  · cases hcall

theorem lookup_older {calls : List (ℕ × Call)} {n order : ℕ} (h : order < n) (call : Call) :
    ((n, call) :: calls).lookup order = calls.lookup order := by
  rw [List.lookup_cons, beq_false_of_ne h.ne]

theorem Sane.pendingCall_older (h : Sane s) (call : Call) {e : ScheduledEvent} (he : e ∈ s.simulation.events) :
    pendingCall ((s.simulation.sequence, call) :: s.calls) e = pendingCall s.calls e := by
  unfold pendingCall
  rw [lookup_older (h.fresh e he)]

theorem Sane.pending_scheduled (h : Sane s) {timeUs : ℤ} (hle : s.nowUs ≤ timeUs) (call : Call) :
    (s.scheduled timeUs call).pending.Perm ((timeUs, call) :: s.pending) := by
  have hevents : (s.scheduled timeUs call).simulation.events =
      s.simulation.events.orderedInsert ScheduledEvent.before ⟨timeUs, s.simulation.sequence, .node⟩ := by
    have hsim : (s.scheduled timeUs call).simulation = s.simulation.scheduleAt timeUs .node := rfl
    rw [hsim, Simulation.scheduleAt_of_le hle]
  have hnew : pendingCall (s.scheduled timeUs call).calls ⟨timeUs, s.simulation.sequence, .node⟩ =
      some (timeUs, call) := by
    unfold pendingCall scheduled
    dsimp only
    rw [List.lookup_cons_self, Option.map_some]
  have hold : s.simulation.events.filterMap (pendingCall (s.scheduled timeUs call).calls) =
      s.simulation.events.filterMap (pendingCall s.calls) :=
    List.filterMap_congr fun e he => h.pendingCall_older call he
  unfold pending
  rw [hevents]
  refine ((List.perm_orderedInsert _ _ _).filterMap _).trans ?_
  rw [List.filterMap_cons, hnew, hold]

theorem Sane.scheduled (h : Sane s) {timeUs : ℤ} (hle : s.nowUs ≤ timeUs) (call : Call) :
    Sane (s.scheduled timeUs call) := by
  have hsim : (s.scheduled timeUs call).simulation = s.simulation.scheduleAt timeUs .node := rfl
  refine ⟨h.sound.scheduleAt timeUs, ?_, ?_⟩
  · rw [hsim, Simulation.scheduleAt_of_le hle]
    intro e he
    rcases (List.mem_orderedInsert _).1 he with rfl | he
    · exact Nat.lt_succ_self _
    · exact (h.fresh e he).trans (Nat.lt_succ_self _)
  · rw [hsim, Simulation.scheduleAt_of_le hle]
    intro e he hnode
    rcases (List.mem_orderedInsert _).1 he with rfl | he
    · exact ⟨call, List.lookup_cons_self⟩
    · obtain ⟨older, hlookup⟩ := h.called e he hnode
      exact ⟨older, (lookup_older (h.fresh e he) call).trans hlookup⟩

theorem sent_events (packet : Packet) {airtimeUs : ℤ} (hair : 0 < airtimeUs) :
    (s.sent packet airtimeUs).simulation.events = s.simulation.events.orderedInsert ScheduledEvent.before
      ⟨s.nowUs + airtimeUs, s.simulation.sequence, .finish s.transmissions.length⟩ ∧
    (s.sent packet airtimeUs).simulation.sequence = s.simulation.sequence + 1 := by
  obtain ⟨news, -, hsim⟩ := s.world.medium.transmit_simulation packet hair.le
  have hle : s.world.medium.simulation.nowUs ≤ s.world.medium.simulation.nowUs + airtimeUs := by omega
  rw [Simulation.scheduleAt_of_le hle] at hsim
  exact ⟨congrArg Simulation.events hsim, congrArg Simulation.sequence hsim⟩

/-- The trace of a transmission's start tells nothing of frames. -/
theorem sent_trace (packet : Packet) {airtimeUs : ℤ} (hair : 0 < airtimeUs) :
    ∃ news, (∀ e ∈ news, e.event.isStart = true) ∧ (s.sent packet airtimeUs).trace = s.trace ++ news := by
  obtain ⟨news, hnews, hsim⟩ := s.world.medium.transmit_simulation packet hair.le
  exact ⟨news, hnews, congrArg Simulation.trace hsim⟩

theorem pending_sent (packet : Packet) {airtimeUs : ℤ} (hair : 0 < airtimeUs) :
    (s.sent packet airtimeUs).pending.Perm s.pending := by
  unfold pending
  rw [(sent_events packet hair).1]
  refine ((List.perm_orderedInsert _ _ _).filterMap _).trans ?_
  rw [List.filterMap_cons]
  exact .refl _

theorem Sane.sent (h : Sane s) (packet : Packet) {airtimeUs : ℤ} (hair : 0 < airtimeUs) :
    Sane (s.sent packet airtimeUs) := by
  obtain ⟨hevents, hsequence⟩ := sent_events (s := s) packet hair
  refine ⟨h.sound.transmit packet hair, fun e he => ?_, fun e he hnode => ?_⟩
  · rw [hevents] at he
    rw [hsequence]
    rcases (List.mem_orderedInsert _).1 he with rfl | he
    · exact Nat.lt_succ_self _
    · exact (h.fresh e he).trans (Nat.lt_succ_self _)
  · rw [hevents] at he
    rcases (List.mem_orderedInsert _).1 he with rfl | he
    · cases hnode
    · exact h.called e he hnode

theorem Sane.record (h : Sane s) (event : String) (nodeId packetId : Option ℤ) (details : Details) :
    Sane (s.record event nodeId packetId details) :=
  ⟨⟨⟨h.sound.queue.ordered, h.sound.queue.future⟩, h.sound.ends, h.sound.accounted, h.sound.started, h.sound.onAir,
    h.sound.known, h.sound.equal, h.sound.exact, h.sound.reported,
    (SharedMedium.filter_record rfl nodeId packetId).trans h.sound.traced⟩, h.fresh, h.called⟩

theorem Sane.again (h : Sane s) {c : Config} {node : VoiceNode} {call : Call} (ha : s.again c node call = some s') :
    Sane s' := by
  rcases again_eq_some.1 ha with ⟨-, hle, rfl⟩ | ⟨-, rfl⟩
  · exact h.scheduled hle call
  · exact h

theorem Sane.schedule (h : Sane s) {delayUs : ℤ} {call : Call} (hs : s.schedule delayUs call = some s') :
    Sane s' := by
  obtain ⟨hle, rfl⟩ := schedule_eq_some.1 hs
  exact h.scheduled (by omega) call

theorem Sane.checkAge (h : Sane s) (c : Config) (nodeId packetId ageUs : ℤ) (stage : String) :
    Sane (s.checkAge c nodeId packetId ageUs stage) := by
  unfold Sim.checkAge
  split
  · exact h.record _ _ _ _
  · exact h

theorem Sane.append (h : Sane s) (i : ℕ) (node : VoiceNode) (queue : List Packet) (packet : Packet) :
    Sane (s.append i node queue packet) :=
  Sane.record (s := s.setNode i _) ⟨h.sound, h.fresh, h.called⟩ _ _ _ _

theorem Sane.complete (h : Sane s) (c : Config) (packet : Packet) (delivered : Bool) :
    Sane (s.complete c packet delivered) := by
  unfold Sim.complete
  split
  · split
    · exact h.checkAge _ _ _ _ _
    · exact Sane.record (s := { s with lastHeartbeatUs := s.nowUs }) ⟨h.sound, h.fresh, h.called⟩ _ _ _ _
  · exact h

@[simp] theorem pending_record (event : String) (nodeId packetId : Option ℤ) (details : Details) :
    (s.record event nodeId packetId details).pending = s.pending := rfl

/-! ## What each callback does

A callback records, changes nodes, transmits and schedules; these say in which order, as equations. -/

theorem enqueue_cases {c : Config} {i : ℕ} {node : VoiceNode} (h : s.enqueue c i node = some s') :
    ∃ packet base, packet = ⟨s.nextPacketId, node.nodeId, node.sequence, s.nowUs, c.voice.payloadBytes, .voice⟩ ∧
      base = Sim.record { s with nextPacketId := s.nextPacketId + 1 } "voice_frame_generated" (some node.nodeId)
        (some packet.packetId) (.frame packet.sequence) ∧
      ((node.queue.length < c.voice.maxQueueFrames ∧ s' = base.append i node node.queue packet) ∨
      ∃ dropped queue, node.queue = dropped :: queue ∧ c.voice.maxQueueFrames ≤ node.queue.length ∧
        s' = (base.record "queue_overflow" (some node.nodeId) (some dropped.packetId) .empty).append i node queue
          packet) := by
  unfold enqueue at h
  dsimp only at h
  refine ⟨_, _, rfl, rfl, ?_⟩
  split at h
  · next hfull =>
    split at h
    · cases h
    · next dropped queue hqueue => exact .inr ⟨dropped, queue, hqueue, hfull, (Option.some.inj h).symm⟩
  · next hfull => exact .inl ⟨not_le.1 hfull, (Option.some.inj h).symm⟩

theorem generate_cases {c : Config} {i : ℕ} (h : s.generate c i = some s') :
    ∃ node m, s.nodes[i]? = some node ∧ m.again c node (.generate i) = some s' ∧
      ((node.enabled = true ∧ s.enqueue c i node = some m) ∨ (node.enabled = false ∧ m = s)) := by
  unfold generate at h
  split at h
  · cases h
  · next node hnode =>
    obtain ⟨m, hm, hagain⟩ := Option.bind_eq_some_iff.1 h
    refine ⟨node, m, hnode, hagain, ?_⟩
    cases henabled : node.enabled with
    | true =>
      rw [if_pos henabled] at hm
      exact .inl ⟨rfl, hm⟩
    | false =>
      rw [henabled, if_neg Bool.false_ne_true] at hm
      exact .inr ⟨rfl, (Option.some.inj hm).symm⟩

theorem slot_cases {c : Config} {i : ℕ} (h : s.slot c i = some s') :
    ∃ node m, s.nodes[i]? = some node ∧ m.again c node (.slot i) = some s' ∧
      (m = s ∨ ∃ packet queue base, node.enabled = true ∧ node.queue = packet :: queue ∧ 0 ≤ c.voice.airtimeUs ∧
        base = (s.setNode i { node with queue := queue }).checkAge c node.nodeId packet.packetId
          (s.nowUs - packet.createdAtUs) "queue" ∧ m = base.sent packet c.voice.airtimeUs) := by
  unfold slot at h
  split at h
  · cases h
  · next node hnode =>
    obtain ⟨m, hm, hagain⟩ := Option.bind_eq_some_iff.1 h
    refine ⟨node, m, hnode, hagain, ?_⟩
    split at hm
    · next henabled =>
      split at hm
      · exact .inl (Option.some.inj hm).symm
      · next packet queue hqueue =>
        obtain ⟨hair, hsent⟩ := transmit_eq_some.1 hm
        exact .inr ⟨packet, queue, _, henabled, hqueue, hair, rfl, hsent.symm⟩
    · exact .inl (Option.some.inj hm).symm

theorem heartbeat_cases {c : Config} (h : s.heartbeat c = some s') :
    ∃ node m, s.nodeById s.coordinatorId = some node ∧ 0 ≤ c.coordinator.heartbeatIntervalUs ∧
      s' = m.scheduled (m.nowUs + c.coordinator.heartbeatIntervalUs) .heartbeat ∧
      (m = s ∨ (node.enabled = true ∧ 0 ≤ c.coordinator.heartbeatAirtimeUs ∧
        m = Sim.sent { s with nextPacketId := s.nextPacketId + 1 }
          ⟨s.nextPacketId, s.coordinatorId, 0, s.nowUs, c.coordinator.heartbeatPayloadBytes, .heartbeat⟩
          c.coordinator.heartbeatAirtimeUs)) := by
  unfold heartbeat at h
  split at h
  · cases h
  · next node hnode =>
    obtain ⟨m, hm, hschedule⟩ := Option.bind_eq_some_iff.1 h
    obtain ⟨hinterval, hs'⟩ := schedule_eq_some.1 hschedule
    refine ⟨node, m, hnode, hinterval, hs'.symm, ?_⟩
    split at hm
    · next henabled =>
      obtain ⟨hair, hsent⟩ := transmit_eq_some.1 hm
      exact .inr ⟨henabled, hair, hsent.symm⟩
    · exact .inl (Option.some.inj hm).symm

theorem checkTimeout_cases {c : Config} (h : s.checkTimeout c = some s') :
    ∃ m, s' = m.scheduled (m.nowUs + c.coordinator.checkIntervalUs) .checkTimeout ∧
      ((¬ (c.coordinator.heartbeatTimeoutUs < s.nowUs - s.lastHeartbeatUs ∧ s.electionPending = false) ∧ m = s) ∨
      (c.coordinator.heartbeatTimeoutUs < s.nowUs - s.lastHeartbeatUs ∧ s.electionPending = false ∧
        0 ≤ c.coordinator.electionDelayUs ∧
        m = (Sim.record { s with electionPending := true } "heartbeat_timeout" (some s.coordinatorId) none
          .empty).scheduled (s.nowUs + c.coordinator.electionDelayUs) .elect)) := by
  unfold checkTimeout at h
  obtain ⟨m, hm, hschedule⟩ := Option.bind_eq_some_iff.1 h
  obtain ⟨-, hs'⟩ := schedule_eq_some.1 hschedule
  refine ⟨m, hs'.symm, ?_⟩
  split at hm
  · next hold =>
    obtain ⟨hdelay, helect⟩ := schedule_eq_some.1 hm
    exact .inr ⟨hold.1, hold.2, hdelay, helect.symm⟩
  · next hyoung => exact .inl ⟨hyoung, (Option.some.inj hm).symm⟩

end Sim

/-- The callbacks of the nodes and the heartbeat, beside those of elections and faults. -/
def Call.plain : Call → Bool
  | .generate _ | .slot _ | .heartbeat => true
  | .checkTimeout | .elect | .setEnabled _ _ => false

/-- The node that a callback is one of. -/
def Call.node : Call → Option ℕ
  | .generate i | .slot i => some i
  | _ => none

/-- Both kinds of packet take some time on the air. -/
structure Config.OnAir (c : Config) : Prop where
  voice : 0 < c.voice.airtimeUs
  heartbeat : 0 < c.coordinator.heartbeatAirtimeUs

theorem CoordinatorConfig.checkIntervalUs_pos (c : CoordinatorConfig) : 0 < c.checkIntervalUs := by
  unfold checkIntervalUs
  omega

namespace Sim

variable {P : Type} {s s' : Sim P} {c : Config}

theorem Sane.enqueue (h : Sane s) {i : ℕ} {node : VoiceNode} (he : s.enqueue c i node = some s') : Sane s' := by
  obtain ⟨packet, base, -, hbase, hcase⟩ := enqueue_cases he
  have hsane : Sane base := by
    rw [hbase]
    exact Sane.record (s := { s with nextPacketId := s.nextPacketId + 1 }) ⟨h.sound, h.fresh, h.called⟩ _ _ _ _
  rcases hcase with ⟨-, rfl⟩ | ⟨dropped, queue, -, -, rfl⟩
  · exact hsane.append _ _ _ _
  · exact (hsane.record _ _ _ _).append _ _ _ _

theorem Sane.call (h : Sane s) (hc : c.OnAir) {callback : Call} (hcall : s.call c callback = some s') : Sane s' := by
  cases callback with
  | generate i =>
    obtain ⟨node, m, -, hagain, ⟨-, hm⟩ | ⟨-, rfl⟩⟩ := generate_cases hcall
    · exact (h.enqueue hm).again hagain
    · exact h.again hagain
  | slot i =>
    obtain ⟨node, m, -, hagain, rfl | ⟨packet, queue, base, -, -, -, hbase, rfl⟩⟩ := slot_cases hcall
    · exact h.again hagain
    · have hset : Sane (s.setNode i { node with queue := queue }) := ⟨h.sound, h.fresh, h.called⟩
      rw [hbase] at hagain
      exact ((hset.checkAge c _ _ _ _).sent packet hc.voice).again hagain
  | heartbeat =>
    obtain ⟨node, m, -, hinterval, rfl, rfl | ⟨-, -, rfl⟩⟩ := heartbeat_cases hcall
    · exact h.scheduled (by omega) _
    · have hnext : Sane { s with nextPacketId := s.nextPacketId + 1 } := ⟨h.sound, h.fresh, h.called⟩
      exact (hnext.sent _ hc.heartbeat).scheduled (by omega) _
  | checkTimeout =>
    have hpos := c.coordinator.checkIntervalUs_pos
    obtain ⟨m, rfl, ⟨-, rfl⟩ | ⟨-, -, hdelay, rfl⟩⟩ := checkTimeout_cases hcall
    · exact h.scheduled (by omega) _
    · have hpending : Sane { s with electionPending := true } := ⟨h.sound, h.fresh, h.called⟩
      refine ((hpending.record _ _ _ _).scheduled ?_ _).scheduled (by omega) _
      exact le_add_of_nonneg_right hdelay
  | elect =>
    cases Option.some.inj hcall
    unfold elect
    split
    · exact ⟨h.sound, h.fresh, h.called⟩
    · next least _ _ =>
      have hnew : Sane { s with coordinatorId := least, lastHeartbeatUs := s.nowUs } := ⟨h.sound, h.fresh, h.called⟩
      have hrec := hnew.record "coordinator_selected" (some least) none
        (.selected (some s.coordinatorId) (some c.coordinator.electionDelayUs))
      exact ⟨hrec.sound, hrec.fresh, hrec.called⟩
  | setEnabled i enabled =>
    cases Option.some.inj hcall
    unfold setEnabled
    split
    · exact h
    · exact Sane.record (s := s.setNode i _) ⟨h.sound, h.fresh, h.called⟩ _ _ _ _

/-- What the operations that plain callbacks are made of keep. -/
structure Kept (I : Sim P → Prop) : Prop where
  record : ∀ s event nodeId packetId details, I s → I (s.record event nodeId packetId details)
  next : ∀ s : Sim P, I s → I { s with nextPacketId := s.nextPacketId + 1 }
  setNode : ∀ s i node node', I s → s.nodes[i]? = some node → node'.nodeId = node.nodeId →
    node'.enabled = node.enabled → node'.localPeriodUs = node.localPeriodUs → I (s.setNode i node')
  scheduled : ∀ s timeUs call, Sane s → I s → s.nowUs ≤ timeUs → call.plain = true →
    (∀ i, call.node = some i → i < s.nodes.length) → I (s.scheduled timeUs call)
  sent : ∀ s packet airtimeUs, Sane s → I s → 0 < airtimeUs → I (s.sent packet airtimeUs)

theorem Kept.again {I : Sim P → Prop} (hI : Kept I) (hs : Sane s) (h : I s) {node : VoiceNode} {call : Call}
    (hplain : call.plain = true) (hknown : ∀ i, call.node = some i → i < s.nodes.length)
    (ha : s.again c node call = some s') : I s' := by
  rcases again_eq_some.1 ha with ⟨-, hle, rfl⟩ | ⟨-, rfl⟩
  · exact hI.scheduled _ _ _ hs h hle hplain hknown
  · exact h

theorem Kept.checkAge {I : Sim P → Prop} (hI : Kept I) (h : I s) (nodeId packetId ageUs : ℤ) (stage : String) :
    I (s.checkAge c nodeId packetId ageUs stage) := by
  unfold Sim.checkAge
  split
  · exact hI.record _ _ _ _ _ h
  · exact h

/-- What is done with a frame, before the callback calls itself again, keeps the number of nodes. -/
theorem Kept.enqueue {I : Sim P → Prop} (hI : Kept I) (h : I s) {i : ℕ} {node : VoiceNode}
    (hnode : s.nodes[i]? = some node) (he : s.enqueue c i node = some s') :
    I s' ∧ s'.nodes.length = s.nodes.length := by
  obtain ⟨packet, base, -, hbase, hcase⟩ := enqueue_cases he
  have hbaseI : I base := hbase ▸ hI.record _ _ _ _ _ (hI.next s h)
  have hbaseNodes : base.nodes = s.nodes := by
    rw [hbase]
    rfl
  have hbaseNode : base.nodes[i]? = some node := hbaseNodes ▸ hnode
  have hlength (node' : VoiceNode) : (base.nodes.set i node').length = s.nodes.length := by
    rw [List.length_set, hbaseNodes]
  rcases hcase with ⟨-, rfl⟩ | ⟨dropped, queue, -, -, rfl⟩
  · exact ⟨hI.record _ _ _ _ _ (hI.setNode base i node _ hbaseI hbaseNode rfl rfl rfl), hlength _⟩
  · exact ⟨hI.record _ _ _ _ _ (hI.setNode _ i node _ (hI.record _ _ _ _ _ hbaseI) hbaseNode rfl rfl rfl), hlength _⟩

/-- **Plain callbacks keep what their operations keep.** -/
theorem Kept.call {I : Sim P → Prop} (hI : Kept I) (hc : c.OnAir) (hs : Sane s) (h : I s) {callback : Call}
    (hplain : callback.plain = true) (hcall : s.call c callback = some s') : I s' := by
  cases callback with
  | generate i =>
    obtain ⟨node, m, hnode, hagain, hm⟩ := generate_cases hcall
    have hknown {m : Sim P} (hlength : m.nodes.length = s.nodes.length) (j : ℕ) (hj : (Call.generate i).node = some j) :
        j < m.nodes.length := by
      cases Option.some.inj hj
      exact hlength ▸ (List.getElem?_eq_some_iff.1 hnode).1
    rcases hm with ⟨-, hm⟩ | ⟨-, rfl⟩
    · obtain ⟨hmI, hlength⟩ := hI.enqueue h hnode hm
      exact hI.again (hs.enqueue hm) hmI rfl (hknown hlength) hagain
    · exact hI.again hs h rfl (hknown rfl) hagain
  | slot i =>
    obtain ⟨node, m, hnode, hagain, hm⟩ := slot_cases hcall
    have hknown {m : Sim P} (hlength : m.nodes.length = s.nodes.length) (j : ℕ) (hj : (Call.slot i).node = some j) :
        j < m.nodes.length := by
      cases Option.some.inj hj
      exact hlength ▸ (List.getElem?_eq_some_iff.1 hnode).1
    rcases hm with rfl | ⟨packet, queue, base, -, -, -, hbase, rfl⟩
    · exact hI.again hs h rfl (hknown rfl) hagain
    · have hset : Sane (s.setNode i { node with queue := queue }) := ⟨hs.sound, hs.fresh, hs.called⟩
      have hsane : Sane base := hbase ▸ hset.checkAge c _ _ _ _
      have hsetI : I (s.setNode i { node with queue := queue }) := hI.setNode s i node _ h hnode rfl rfl rfl
      have hbaseI : I base := hbase ▸ hI.checkAge hsetI _ _ _ _
      have hlength : base.nodes.length = s.nodes.length := by
        rw [hbase]
        unfold Sim.checkAge
        split <;> exact List.length_set
      exact hI.again (hsane.sent packet hc.voice) (hI.sent _ _ _ hsane hbaseI hc.voice) rfl
        (hknown hlength) hagain
  | heartbeat =>
    obtain ⟨node, m, -, hinterval, rfl, rfl | ⟨-, -, rfl⟩⟩ := heartbeat_cases hcall
    · exact hI.scheduled _ _ _ hs h (by omega) rfl nofun
    · have hnext : Sane { s with nextPacketId := s.nextPacketId + 1 } := ⟨hs.sound, hs.fresh, hs.called⟩
      exact hI.scheduled _ _ _ (hnext.sent _ hc.heartbeat) (hI.sent _ _ _ hnext (hI.next s h) hc.heartbeat)
        (by omega) rfl nofun
  | checkTimeout => cases hplain
  | elect => cases hplain
  | setEnabled i enabled => cases hplain

end Sim

/-! ## A turn -/

namespace MediumRun

variable {P : Type} [LT P] [DecidableLT P] {r : MediumRun P} {untilUs : ℤ} {draw : P}

theorem step_wait (hnow : ¬ untilUs < r.medium.simulation.nowUs) (hdue : r.medium.simulation.due untilUs = none) :
    r.step (.turn untilUs draw) = ⟨r.medium.wait untilUs, r.recorded⟩ := by
  unfold step SharedMedium.turn finishes
  dsimp only
  rw [if_neg hnow, if_neg hnow, hdue, Option.elim_none, List.append_nil]
  rfl

theorem step_node {timeUs : ℤ} {order : ℕ} {rest : List ScheduledEvent} (hnow : ¬ untilUs < r.medium.simulation.nowUs)
    (hdue : r.medium.simulation.due untilUs = some (⟨timeUs, order, .node⟩, rest)) :
    r.step (.turn untilUs draw) = ⟨(r.medium.wait timeUs).pop rest, r.recorded⟩ := by
  unfold step SharedMedium.turn finishes
  dsimp only
  rw [if_neg hnow, if_neg hnow, hdue, Option.elim_none, List.append_nil]
  rfl

/-- The end of a transmission records one outcome, and takes what is equal to it from the air. -/
theorem step_finish {timeUs : ℤ} {order k : ℕ} {rest : List ScheduledEvent} (h : Sound r)
    (hnow : ¬ untilUs < r.medium.simulation.nowUs)
    (hdue : r.medium.simulation.due untilUs = some (⟨timeUs, order, .finish k⟩, rest)) :
    ∃ tx e, r.medium.transmissions[k]? = some tx ∧ e.event.isOutcome = true ∧
      (r.step (.turn untilUs draw)).medium = { ((r.medium.wait timeUs).pop rest).remove k with simulation :=
        { r.medium.simulation with nowUs := timeUs, events := rest, trace := r.medium.simulation.trace ++ [e] } } := by
  have hevents := Simulation.due_some hdue
  have hmem : ⟨timeUs, order, .finish k⟩ ∈ r.medium.simulation.events := by
    rw [hevents]
    exact List.mem_cons_self
  have hwait := h.wait (h.queue.future _ hmem) (h.queue.head_le hevents)
  obtain ⟨tx, htx, -, -, hfinish⟩ := hwait.finish_eq hevents rfl draw
  have hturn : (r.step (.turn untilUs draw)).medium = ((r.medium.wait timeUs).pop rest).finish k draw := by
    unfold step SharedMedium.turn
    dsimp only
    rw [if_neg hnow, hdue]
    rfl
  exact ⟨tx, _, htx, SharedMedium.outcome_isOutcome _ tx draw, hturn.trans hfinish⟩

end MediumRun

namespace Sim

variable {P : Type} {s s' : Sim P}

/-- The clock goes on to a time up to which nothing is scheduled; nothing else that callbacks see changes. -/
structure Next (s s' : Sim P) (timeUs : ℤ) : Prop where
  sane : Sane s'
  le : s.nowUs ≤ timeUs
  now : s'.nowUs = timeUs
  nodes : s'.nodes = s.nodes
  coordinatorId : s'.coordinatorId = s.coordinatorId
  lastHeartbeatUs : s'.lastHeartbeatUs = s.lastHeartbeatUs
  electionPending : s'.electionPending = s.electionPending
  nextPacketId : s'.nextPacketId = s.nextPacketId
  transmissions : s'.transmissions = s.transmissions
  details : s'.details = s.details

variable [LT P] [DecidableLT P] {c : Config} {untilUs : ℤ} {draw : P}

/-- **What a turn can do**: it ends the run, it calls what comes first, or a transmission ends. -/
theorem turn_eq (h : Sane s) (c : Config) (hnow : s.nowUs ≤ untilUs) (draw : P) :
    (∃ s', s.turn c untilUs draw = some s' ∧ Next s s' untilUs ∧ s'.trace = s.trace ∧ s'.pending = s.pending ∧
      s'.simulation.unfinished = s.simulation.unfinished ∧ s'.simulation.events = s.simulation.events ∧
      s.simulation.due untilUs = none) ∨
    (∃ mid timeUs callback, Next s mid timeUs ∧ timeUs ≤ untilUs ∧ mid.trace = s.trace ∧
      s.pending = (timeUs, callback) :: mid.pending ∧ mid.simulation.unfinished = s.simulation.unfinished ∧
      s.simulation.due untilUs ≠ none ∧ s.turn c untilUs draw = mid.call c callback) ∨
    ∃ mid timeUs tx e delivered, Next s mid timeUs ∧ timeUs ≤ untilUs ∧ tx ∈ s.transmissions ∧
      mid.trace = s.trace ++ [e] ∧ e.event.isOutcome = true ∧ mid.pending = s.pending ∧
      s.simulation.unfinished.length = mid.simulation.unfinished.length + 1 ∧ s.simulation.due untilUs ≠ none ∧
      s.turn c untilUs draw = some (mid.complete c tx.packet delivered) := by
  have hback : ¬ untilUs < s.nowUs := not_lt.2 hnow
  have hsound : Sound (s.world.step (.turn untilUs draw)) := h.sound.step _
  unfold turn
  rw [if_neg hback]
  cases hdue : s.simulation.due untilUs with
  | none =>
    rw [MediumRun.step_wait hback hdue] at hsound ⊢
    exact .inl ⟨_, rfl, ⟨⟨hsound, h.fresh, h.called⟩, hnow, rfl, rfl, rfl, rfl, rfl, rfl, rfl, rfl⟩, rfl, rfl, rfl, rfl,
      rfl⟩
  | some first =>
    obtain ⟨⟨timeUs, order, callback⟩, rest⟩ := first
    have hevents := Simulation.due_some hdue
    have hmem : ⟨timeUs, order, callback⟩ ∈ s.simulation.events := by
      rw [hevents]
      exact List.mem_cons_self
    have hle : timeUs ≤ untilUs := by
      unfold Simulation.due at hdue
      rw [hevents] at hdue
      dsimp only at hdue
      split at hdue
      · cases hdue
      · next hlt => exact not_lt.1 hlt
    have hrest : ∀ e ∈ rest, e ∈ s.simulation.events := fun e he => by
      rw [hevents]
      exact List.mem_cons_of_mem _ he
    have hfresh : ∀ e ∈ rest, e.order < s.simulation.sequence := fun e he => h.fresh e (hrest e he)
    have hcalled : ∀ e ∈ rest, e.callback = .node → ∃ call, s.calls.lookup e.order = some call :=
      fun e he => h.called e (hrest e he)
    cases callback with
    | node =>
      obtain ⟨call, hlookup⟩ := h.called _ hmem rfl
      dsimp only at hlookup ⊢
      rw [MediumRun.step_node hback hdue] at hsound ⊢
      rw [hlookup]
      have hpending : s.pending = (timeUs, call) :: rest.filterMap (pendingCall s.calls) := by
        have hfirst : pendingCall s.calls ⟨timeUs, order, .node⟩ = some (timeUs, call) := by
          unfold pendingCall
          dsimp only
          rw [hlookup, Option.map_some]
        unfold pending
        rw [hevents, List.filterMap_cons_some hfirst]
      have hunfinished : s.simulation.unfinished = rest.filterMap fun e => e.callback.transmission := by
        unfold Simulation.unfinished
        rw [hevents, List.filterMap_cons_none rfl]
      let mid : Sim P := { s with world := ⟨(s.world.medium.wait timeUs).pop rest, s.world.recorded⟩ }
      have hnext : Next s mid timeUs := ⟨⟨hsound, hfresh, hcalled⟩, h.sound.queue.future _ hmem, rfl, rfl, rfl, rfl,
        rfl, rfl, rfl, rfl⟩
      exact .inr (.inl ⟨mid, timeUs, call, hnext, hle, rfl, hpending, hunfinished.symm, Option.some_ne_none _, rfl⟩)
    | finish k =>
      obtain ⟨tx, e, htx, houtcome, hmedium⟩ := @MediumRun.step_finish P _ _ _ untilUs draw _ _ _ _ h.sound hback hdue
      dsimp only
      unfold finish
      generalize hworld : s.world.step (.turn untilUs draw) = world at hsound hmedium
      have hthere : s.transmissions[k]? = some tx := htx
      dsimp only
      rw [hthere]
      have hsim : world.medium.simulation = { s.simulation with
          nowUs := timeUs, events := rest, trace := s.simulation.trace ++ [e] } := by
        rw [hmedium]
        rfl
      have hpending : s.pending = rest.filterMap (pendingCall s.calls) := by
        unfold pending
        rw [hevents, List.filterMap_cons_none rfl]
      have hunfinished : s.simulation.unfinished = k :: rest.filterMap fun e => e.callback.transmission := by
        unfold Simulation.unfinished
        rw [hevents, List.filterMap_cons]
        rfl
      let mid : Sim P := { s with world := world }
      have hmid : mid.simulation = _ := hsim
      refine .inr (.inr ⟨mid, timeUs, tx, e, _, ⟨⟨hsound, ?_, ?_⟩, h.sound.queue.future _ hmem, ?_, rfl, rfl, rfl, rfl,
        rfl, ?_, rfl⟩, hle, List.mem_of_getElem? hthere, ?_, houtcome, ?_, ?_, Option.some_ne_none _, rfl⟩)
      · rw [hmid]
        exact hfresh
      · rw [hmid]
        exact hcalled
      · exact congrArg Simulation.nowUs hmid
      · have htransmissions : world.medium.transmissions = s.world.medium.transmissions := by
          rw [hmedium]
          rfl
        exact htransmissions
      · exact congrArg Simulation.trace hmid
      · unfold pending at hpending ⊢
        rw [hpending, hmid]
      · rw [hunfinished, hmid, List.length_cons]
        rfl

theorem turn_cases (h : Sane s) (hturn : s.turn c untilUs draw = some s') :
    (Next s s' untilUs ∧ s'.trace = s.trace ∧ s'.pending = s.pending) ∨
    (∃ mid timeUs callback, Next s mid timeUs ∧ mid.trace = s.trace ∧ s.pending = (timeUs, callback) :: mid.pending ∧
      mid.call c callback = some s') ∨
    ∃ (mid : Sim P) (timeUs : ℤ) (tx : Transmission) (e : TraceEvent) (delivered : Bool), Next s mid timeUs ∧
      mid.trace = s.trace ++ [e] ∧ e.event.isOutcome = true ∧ mid.pending = s.pending ∧ s' = mid.complete c tx.packet delivered := by
  have hnow : s.nowUs ≤ untilUs := by
    unfold turn at hturn
    split at hturn
    · cases hturn
    · next hback => exact not_lt.1 hback
  rcases turn_eq h c hnow draw with ⟨m, hm, hnext, htrace, hpending, -⟩ |
    ⟨mid, t, callback, hnext, -, htrace, hpending, -, -, hm⟩ |
    ⟨mid, t, tx, e, delivered, hnext, -, -, htrace, houtcome, hpending, -, -, hm⟩
  · cases hm.symm.trans hturn
    exact .inl ⟨hnext, htrace, hpending⟩
  · exact .inr (.inl ⟨mid, t, callback, hnext, htrace, hpending, hm.symm.trans hturn⟩)
  · cases hm.symm.trans hturn
    exact .inr (.inr ⟨mid, t, tx, e, delivered, hnext, htrace, houtcome, hpending, rfl⟩)

theorem Sane.turn (h : Sane s) (hc : c.OnAir) (hturn : s.turn c untilUs draw = some s') : Sane s' := by
  rcases turn_cases h hturn with ⟨hnext, -⟩ | ⟨mid, t, callback, hnext, -, -, hcall⟩ |
    ⟨mid, t, tx, e, delivered, hnext, -, -, -, rfl⟩
  · exact hnext.sane
  · exact hnext.sane.call hc hcall
  · exact hnext.sane.complete c _ _

end Sim

/-! ## The states that a scenario reaches -/

namespace Sim

variable {P : Type} {s s' s'' : Sim P}

/-- Callbacks were scheduled, and nothing else that they see has changed. -/
structure Scheduled (s s' : Sim P) (added : List (ℤ × Call)) : Prop where
  sane : Sane s'
  pending : s'.pending.Perm (added ++ s.pending)
  now : s'.nowUs = s.nowUs
  nodes : s'.nodes = s.nodes
  coordinatorId : s'.coordinatorId = s.coordinatorId
  lastHeartbeatUs : s'.lastHeartbeatUs = s.lastHeartbeatUs
  electionPending : s'.electionPending = s.electionPending
  nextPacketId : s'.nextPacketId = s.nextPacketId
  transmissions : s'.transmissions = s.transmissions
  trace : s'.trace = s.trace
  details : s'.details = s.details

theorem Sane.scheduled_refl (h : Sane s) : Scheduled s s [] :=
  ⟨h, .refl _, rfl, rfl, rfl, rfl, rfl, rfl, rfl, rfl, rfl⟩

theorem Scheduled.trans {added more : List (ℤ × Call)} (h : Scheduled s s' added) (h' : Scheduled s' s'' more) :
    Scheduled s s'' (more ++ added) where
  sane := h'.sane
  pending := by
    rw [List.append_assoc]
    exact h'.pending.trans (h.pending.append_left more)
  now := h'.now.trans h.now
  nodes := h'.nodes.trans h.nodes
  coordinatorId := h'.coordinatorId.trans h.coordinatorId
  lastHeartbeatUs := h'.lastHeartbeatUs.trans h.lastHeartbeatUs
  electionPending := h'.electionPending.trans h.electionPending
  nextPacketId := h'.nextPacketId.trans h.nextPacketId
  transmissions := h'.transmissions.trans h.transmissions
  trace := h'.trace.trans h.trace
  details := h'.details.trans h.details

theorem Sane.scheduled_one (h : Sane s) {timeUs : ℤ} {call : Call} (hs : s.scheduleAt timeUs call = some s') :
    Scheduled s s' [(timeUs, call)] := by
  obtain ⟨hle, rfl⟩ := scheduleAt_eq_some.1 hs
  exact ⟨h.scheduled hle call, h.pending_scheduled hle call, scheduled_nowUs _ _, rfl, rfl, rfl, rfl, rfl, rfl,
    scheduled_trace _ _, rfl⟩

end Sim

namespace Scenario

variable {P : Type} {sc : Scenario P} {capacity : CapacityEstimate} {s s' : Sim P}

open Sim

theorem sane_init (sc : Scenario P) : Sane sc.init :=
  ⟨Sound.init _ _, List.forall_mem_nil _, List.forall_mem_nil _⟩

/-- What `start` of a node schedules. -/
def startCalls (node : VoiceNode × ℕ) : List (ℤ × Call) :=
  [(node.1.slotOffsetUs, .slot node.2), (node.1.slotOffsetUs, .generate node.2)]

theorem startNode_scheduled (h : Sane s) {node : VoiceNode × ℕ} (hs : startNode s node = some s') :
    Scheduled s s' (startCalls node) := by
  obtain ⟨m, hm, hslot⟩ := Option.bind_eq_some_iff.1 hs
  have hgenerate := h.scheduled_one hm
  exact hgenerate.trans (hgenerate.sane.scheduled_one hslot)

theorem startNodes_scheduled : ∀ {nodes : List (VoiceNode × ℕ)} {s s' : Sim P}, Sane s →
    nodes.foldlM startNode s = some s' → ∃ added, added.Perm (nodes.flatMap startCalls) ∧ Scheduled s s' added
  | [], s, s', h, hs => by
    rw [List.foldlM_nil] at hs
    cases Option.some.inj hs
    exact ⟨[], .refl _, h.scheduled_refl⟩
  | node :: nodes, s, s', h, hs => by
    rw [List.foldlM_cons] at hs
    obtain ⟨m, hm, hrest⟩ := Option.bind_eq_some_iff.1 hs
    have hfirst := startNode_scheduled h hm
    obtain ⟨added, hperm, hlater⟩ := startNodes_scheduled hfirst.sane hrest
    refine ⟨_, ?_, hfirst.trans hlater⟩
    rw [List.flatMap_cons]
    exact List.perm_append_comm.trans (hperm.append_left _)

/-- A callback that a fault is about: it switches a node with the fault's id. -/
structure Switches (nodes : List VoiceNode) (fault : FaultSpec P) (p : ℤ × Call) : Prop where
  time : p.1 = fault.timeUs
  switch : ∃ i enabled, p.2 = .setEnabled i enabled ∧
    fault.action = (if enabled then "enable_node" else "disable_node") ∧
    ∃ nodeId, fault.nodeId = some nodeId ∧ (nodes.map VoiceNode.nodeId)[i]? = some nodeId

theorem requireFaultNode_some {fault : FaultSpec P} {i : ℕ} (h : requireFaultNode s fault = some i) :
    ∃ nodeId, fault.nodeId = some nodeId ∧ (s.nodes.map VoiceNode.nodeId)[i]? = some nodeId := by
  obtain ⟨nodeId, hid, hfind⟩ := Option.bind_eq_some_iff.1 h
  obtain ⟨entry, hfound, rfl⟩ := Option.map_eq_some_iff.1 hfind
  have hsame := List.find?_some hfound
  have hmem := List.mem_reverse.1 (List.mem_of_find?_eq_some hfound)
  have heq : entry.1 = nodeId := of_decide_eq_true hsame
  exact ⟨nodeId, hid, heq ▸ List.mem_zipIdx_iff_getElem?.1 hmem⟩

/-- A fault schedules that a node is switched on or off, or it is a time of losses. -/
theorem scheduleFault_scheduled (h : Sane s) {fault : FaultSpec P} (hs : scheduleFault s fault = some s') :
    ∃ added, (∀ p ∈ added, Switches s.nodes fault p) ∧ Scheduled s s' added := by
  have hswitch (enabled : Bool) (haction : fault.action = (if enabled then "enable_node" else "disable_node"))
      (hs : ((requireFaultNode s fault).bind fun i => s.scheduleAt fault.timeUs (.setEnabled i enabled)) = some s') :
      ∃ added, (∀ p ∈ added, Switches s.nodes fault p) ∧ Scheduled s s' added := by
    obtain ⟨i, hnode, hi⟩ := Option.bind_eq_some_iff.1 hs
    exact ⟨_, List.forall_mem_singleton.2 ⟨rfl, i, enabled, rfl, haction, requireFaultNode_some hnode⟩,
      h.scheduled_one hi⟩
  unfold scheduleFault at hs
  split at hs
  · next haction => exact hswitch false haction hs
  · split at hs
    · next haction => exact hswitch true haction hs
    · split at hs
      · obtain ⟨probability, -, rfl⟩ := Option.map_eq_some_iff.1 hs
        have hsane : Sane { s with world := { s.world with
            medium := s.world.medium.addLossWindow fault.timeUs fault.durationUs probability } } :=
          ⟨⟨h.sound.queue, h.sound.ends, h.sound.accounted, h.sound.started, h.sound.onAir, h.sound.known,
            h.sound.equal, h.sound.exact, h.sound.reported, h.sound.traced⟩, h.fresh, h.called⟩
        exact ⟨[], List.forall_mem_nil _, hsane, .refl _, rfl, rfl, rfl, rfl, rfl, rfl, rfl, rfl, rfl⟩
      · cases hs

theorem scheduleFaults_scheduled : ∀ {faults : List (FaultSpec P)} {s s' : Sim P}, Sane s →
    faults.foldlM scheduleFault s = some s' →
      ∃ added, (∀ p ∈ added, ∃ fault ∈ faults, Switches s.nodes fault p) ∧ Scheduled s s' added
  | [], s, s', h, hs => by
    rw [List.foldlM_nil] at hs
    cases Option.some.inj hs
    exact ⟨[], List.forall_mem_nil _, h.scheduled_refl⟩
  | fault :: faults, s, s', h, hs => by
    rw [List.foldlM_cons] at hs
    obtain ⟨m, hm, hrest⟩ := Option.bind_eq_some_iff.1 hs
    obtain ⟨added, hadded, hfirst⟩ := scheduleFault_scheduled h hm
    obtain ⟨more, hmore, hlater⟩ := scheduleFaults_scheduled hfirst.sane hrest
    refine ⟨more ++ added, List.forall_mem_append.2 ⟨fun p hp => ?_, fun p hp => ?_⟩, hfirst.trans hlater⟩
    · obtain ⟨other, hother, hswitches⟩ := hmore p hp
      rw [hfirst.nodes] at hswitches
      exact ⟨other, List.mem_cons_of_mem fault hother, hswitches⟩
    · exact ⟨fault, List.mem_cons_self, hadded p hp⟩

/-- The state in which the loop begins. -/
structure Started (sc : Scenario P) (c : Config) (s : Sim P) : Prop where
  sane : Sane s
  pending : ∃ faults, (∀ p ∈ faults, ∃ fault ∈ sc.faults, Switches sc.init.nodes fault p) ∧
    s.pending.Perm (faults ++ (c.coordinator.heartbeatTimeoutUs, Call.checkTimeout) ::
      (c.coordinator.firstHeartbeatDelayUs, Call.heartbeat) :: sc.init.nodes.zipIdx.flatMap startCalls)
  timeout : 0 ≤ c.coordinator.heartbeatTimeoutUs
  now : s.nowUs = 0
  nodes : s.nodes = sc.init.nodes
  coordinatorId : s.coordinatorId = sc.initialCoordinatorId
  lastHeartbeatUs : s.lastHeartbeatUs = 0
  electionPending : s.electionPending = false
  nextPacketId : s.nextPacketId = 1
  transmissions : s.transmissions = []
  trace : s.trace = [⟨0, .other "coordinator_selected", some sc.initialCoordinatorId, none⟩]

theorem started (h : sc.start capacity = some s) : sc.Started (sc.config capacity) s := by
  obtain ⟨protocol, hprotocol, hfaults⟩ := Option.bind_eq_some_iff.1 h
  obtain ⟨nodes, hnodes, hstart⟩ := Option.bind_eq_some_iff.1 hprotocol
  obtain ⟨starts, hstarts, hn⟩ := startNodes_scheduled sc.sane_init hnodes
  obtain ⟨beat, hbeat, hcheck⟩ := Option.bind_eq_some_iff.1 hstart
  obtain ⟨hb0, hbeat⟩ := schedule_eq_some.1 hbeat
  obtain ⟨hc0, hcheck⟩ := schedule_eq_some.1 hcheck
  have hrec := hn.sane.record "coordinator_selected" (some nodes.coordinatorId) none (.selected none none)
  have hb := hrec.scheduled_one (scheduleAt_eq_some.2 ⟨le_add_of_nonneg_right hb0, hbeat⟩)
  have hc := hb.sane.scheduled_one (scheduleAt_eq_some.2 ⟨le_add_of_nonneg_right hc0, hcheck⟩)
  have hp := hb.trans hc
  obtain ⟨faults, hall, hs⟩ := scheduleFaults_scheduled hp.sane hfaults
  have hsame : protocol.nodes = sc.init.nodes := hp.nodes.trans hn.nodes
  rw [hsame] at hall
  have hnow : nodes.nowUs = 0 := hn.now
  have hbeatNow : beat.nowUs = 0 := hb.now.trans hnow
  refine ⟨hs.sane, ⟨faults, hall, ?_⟩, hc0, ?_, hs.nodes.trans hsame, ?_, ?_, ?_, ?_, ?_, ?_⟩
  · have hempty : sc.init.pending = [] := rfl
    have hpending := hn.pending
    rw [hempty, List.append_nil] at hpending
    have hrecord : (nodes.record "coordinator_selected" (some nodes.coordinatorId) none
      (.selected none none)).nowUs = 0 := hnow
    have hboth := hp.pending
    rw [hbeatNow, hrecord, zero_add, zero_add, pending_record] at hboth
    exact hs.pending.trans (.append_left _ (hboth.trans (.append_left _ (hpending.trans hstarts))))
  · rw [hs.now, hp.now]
    exact hnow
  · rw [hs.coordinatorId, hp.coordinatorId]
    exact hn.coordinatorId
  · rw [hs.lastHeartbeatUs, hp.lastHeartbeatUs]
    exact hn.lastHeartbeatUs
  · rw [hs.electionPending, hp.electionPending]
    exact hn.electionPending
  · rw [hs.nextPacketId, hp.nextPacketId]
    exact hn.nextPacketId
  · rw [hs.transmissions, hp.transmissions]
    exact hn.transmissions
  · rw [hs.trace, hp.trace, record_trace, hn.trace, hnow, hn.coordinatorId]
    rfl

variable [LT P] [DecidableLT P]

/-- **The invariant rule**: what holds when the loop begins and is kept by every turn holds in every state that a
scenario reaches. -/
theorem inv_run {I : Sim P → Prop} (hcap : sc.estimateCapacity = some capacity) (hc : (sc.config capacity).OnAir)
    (hstart : ∀ s, sc.Started (sc.config capacity) s → I s)
    (hturn : ∀ s s' draw, Sane s → I s →
      s.turn (sc.config capacity) (sc.durationUs + capacity.voiceAirtimeUs) draw = some s' → I s')
    {draws : List P} (h : sc.run draws = some s) : Sane s ∧ I s := by
  unfold run at h
  rw [hcap] at h
  obtain ⟨cap, hsame, hrest⟩ := Option.bind_eq_some_iff.1 h
  cases Option.some.inj hsame
  obtain ⟨first, hfirst, hdraws⟩ := Option.bind_eq_some_iff.1 hrest
  have hbegin := started hfirst
  exact Run.inv_foldlM (P := fun s => Sane s ∧ I s)
    (fun s draw s' hs hstep => ⟨hs.1.turn hc hstep, hturn s s' draw hs.1 hs.2 hstep⟩)
    ⟨hbegin.sane, hstart first hbegin⟩ hdraws

end Scenario

end OpenRef.Simulator
