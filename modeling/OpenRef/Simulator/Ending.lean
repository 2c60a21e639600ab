import OpenRef.Simulator.Pending
import Mathlib.Data.List.Dedup
/-!
# A scenario comes to its end

The loop of `run` calls callbacks that schedule others, so that it ends is a fact about what they schedule: a node's
callbacks and the heartbeat come back later, a transmission has one end, and a check asks for one election at most.
`Sim.load` bounds the turns that are left, and `scenario_ends` says that `run_scenario` neither raises in the loop
nor stays in it.
-/

namespace OpenRef.Simulator

/-- How many turns a callback leads to that calls itself again, and one more thing each time if `twice`. -/
def Call.turns : Call → ℕ
  | .generate _ => 1
  | .slot _ | .heartbeat | .checkTimeout => 2
  | .elect | .setEnabled _ _ => 0

/-- The turns that a callback which is scheduled can still lead to. -/
def Call.weight (untilUs : ℤ) (p : ℤ × Call) : ℕ :=
  if p.1 ≤ untilUs then p.2.turns * ((untilUs - p.1).toNat + 1) + (if p.2.turns = 0 then 1 else 0) else 0

/-- A callback that is scheduled again later has less before it. -/
theorem Call.weight_later {untilUs t u : ℤ} (htu : t < u) (ht : t ≤ untilUs) (call : Call) :
    Call.weight untilUs (u, call) + call.turns ≤ Call.weight untilUs (t, call) := by
  unfold Call.weight
  dsimp only
  rw [if_pos ht]
  split
  · next hu =>
    have hless : (untilUs - u).toNat + 1 ≤ (untilUs - t).toNat := by omega
    have hmul := Nat.mul_le_mul_left call.turns hless
    calc call.turns * ((untilUs - u).toNat + 1) + (if call.turns = 0 then 1 else 0) + call.turns
        ≤ call.turns * (untilUs - t).toNat + (if call.turns = 0 then 1 else 0) + call.turns := by omega
      _ = call.turns * ((untilUs - t).toNat + 1) + (if call.turns = 0 then 1 else 0) := by
        rw [Nat.mul_add, Nat.mul_one]
        omega
  · rw [Nat.mul_add, Nat.mul_one]
    omega

namespace Sim

variable {P : Type} {s s' : Sim P} {c : Config} {untilUs : ℤ}

/-- A bound on the turns that are left: those of each callback, and one for each transmission. -/
def load (untilUs : ℤ) (s : Sim P) : ℕ :=
  (s.pending.map (Call.weight untilUs)).sum + s.simulation.unfinished.length

theorem load_scheduled (hs : Sane s) {timeUs : ℤ} (hle : s.nowUs ≤ timeUs) (call : Call) :
    (s.scheduled timeUs call).load untilUs = s.load untilUs + Call.weight untilUs (timeUs, call) := by
  have hpending := ((hs.pending_scheduled hle call).map (Call.weight untilUs)).sum_nat
  have hunfinished := (Simulation.unfinished_scheduleAt hle .node).length_eq
  have hsame : (s.scheduled timeUs call).simulation.unfinished.length = s.simulation.unfinished.length := hunfinished
  unfold load
  rw [hpending, hsame, List.map_cons, List.sum_cons]
  omega

theorem load_sent (packet : Packet) {airtimeUs : ℤ} (hair : 0 < airtimeUs) :
    (s.sent packet airtimeUs).load untilUs = s.load untilUs + 1 := by
  have hpending := ((pending_sent (s := s) packet hair).map (Call.weight untilUs)).sum_nat
  have hunfinished := (s.world.medium.transmit_unfinished packet hair).length_eq
  have hmore : (s.sent packet airtimeUs).simulation.unfinished.length = s.simulation.unfinished.length + 1 := hunfinished
  unfold load
  rw [hpending, hmore]
  omega

/-- What no callback raises at: a queue has room, nodes are known, and so is the coordinator. -/
structure Ready (s : Sim P) : Prop where
  periods : ∀ node ∈ s.nodes, 1 ≤ node.localPeriodUs
  known : ∀ p ∈ s.pending, ∀ i, p.2.node = some i → i < s.nodes.length
  coordinator : ∃ node ∈ s.nodes, node.nodeId = s.coordinatorId

theorem Ready.congr (h : Ready s) (hnodes : s'.nodes = s.nodes) (hcoordinator : s'.coordinatorId = s.coordinatorId)
    (hpending : ∀ p ∈ s'.pending, p ∈ s.pending ∨ p.2.node = none) : Ready s' := by
  refine ⟨hnodes ▸ h.periods, fun p hp i hi => ?_, ?_⟩
  · rcases hpending p hp with hp | hnone
    · exact hnodes ▸ h.known p hp i hi
    · rw [hnone] at hi
      cases hi
  · rw [hnodes, hcoordinator]
    exact h.coordinator

/-- A node is set that keeps its id and its period. -/
theorem Ready.setNode (h : Ready s) {i : ℕ} {node node' : VoiceNode} (hnode : s.nodes[i]? = some node)
    (hid : node'.nodeId = node.nodeId) (hperiod : node'.localPeriodUs = node.localPeriodUs) :
    Ready (s.setNode i node') := by
  refine ⟨fun other hother => ?_, fun p hp j hj => ?_, ?_⟩
  · rcases List.mem_or_eq_of_mem_set hother with hother | rfl
    · exact h.periods other hother
    · rw [hperiod]
      exact h.periods node (List.mem_of_getElem? hnode)
  · have hlength : (s.setNode i node').nodes.length = s.nodes.length := List.length_set
    rw [hlength]
    exact h.known p hp j hj
  · obtain ⟨found, hfound, heq⟩ := h.coordinator
    obtain ⟨j, hj⟩ := List.mem_iff_getElem?.1 hfound
    by_cases hij : i = j
    · subst hij
      obtain rfl := Option.some.inj (hj.symm.trans hnode)
      obtain ⟨hlt, -⟩ := List.getElem?_eq_some_iff.1 hj
      exact ⟨node', List.mem_set hlt node', hid.trans heq⟩
    · exact ⟨found, List.mem_of_getElem? ((List.getElem?_set_ne hij).trans hj), heq⟩

theorem kept_ready : Kept (Ready (P := P)) where
  record _ _ _ _ _ h := h.congr rfl rfl fun _ hp => .inl hp
  next _ h := h.congr rfl rfl fun _ hp => .inl hp
  setNode _ _ _ _ h hnode hid _ hperiod := h.setNode hnode hid hperiod
  scheduled s t call hs h hle _ hknown := by
    refine ⟨h.periods, fun p hp i hi => ?_, h.coordinator⟩
    rcases List.mem_cons.1 ((hs.pending_scheduled hle call).mem_iff.1 hp) with rfl | hp
    · exact hknown i hi
    · exact h.known p hp i hi
  sent _ packet _ _ h hair := h.congr rfl rfl fun _ hp => .inl ((pending_sent packet hair).mem_iff.1 hp)

theorem Ready.scheduled (h : Ready s) (hs : Sane s) {timeUs : ℤ} (hle : s.nowUs ≤ timeUs) {call : Call}
    (hcall : call.node = none) : Ready (s.scheduled timeUs call) := by
  refine h.congr rfl rfl fun p hp => ?_
  rcases List.mem_cons.1 ((hs.pending_scheduled hle call).mem_iff.1 hp) with rfl | hp
  · exact .inr hcall
  · exact .inl hp

/-- An id that is elected is the id of a node. -/
theorem mem_active {nodeId : ℤ} (h : nodeId ∈ s.active) : ∃ node ∈ s.nodes, node.nodeId = nodeId := by
  unfold Sim.active at h
  rw [List.mem_insertionSort, List.mem_filter, List.mem_dedup] at h
  exact List.mem_map.1 h.1

/-- **Every callback leaves the simulation ready for the next.** -/
theorem Ready.call (h : Ready s) (hs : Sane s) (hc : c.OnAir) {callback : Call}
    (hcall : s.call c callback = some s') : Ready s' := by
  cases callback with
  | generate j => exact kept_ready.call hc hs h rfl hcall
  | slot j => exact kept_ready.call hc hs h rfl hcall
  | heartbeat => exact kept_ready.call hc hs h rfl hcall
  | checkTimeout =>
    have hpos := c.coordinator.checkIntervalUs_pos
    obtain ⟨m, rfl, ⟨-, rfl⟩ | ⟨-, -, hdelay, rfl⟩⟩ := checkTimeout_cases hcall
    · exact h.scheduled hs (by omega) rfl
    · have hpending : Ready { s with electionPending := true } := h.congr rfl rfl fun _ hp => .inl hp
      have hsane : Sane { s with electionPending := true } := ⟨hs.sound, hs.fresh, hs.called⟩
      have hrec := hsane.record "heartbeat_timeout" (some s.coordinatorId) none .empty
      have hlater : s.nowUs ≤ s.nowUs + c.coordinator.electionDelayUs := le_add_of_nonneg_right hdelay
      have hreported := kept_ready.record _ "heartbeat_timeout" (some s.coordinatorId) none .empty hpending
      exact (hreported.scheduled hrec hlater rfl).scheduled (hrec.scheduled hlater _) (by omega) rfl
  | elect =>
    cases Option.some.inj hcall
    unfold elect
    split
    · exact h.congr rfl rfl fun _ hp => .inl hp
    · next least others hactive =>
      have hmem : least ∈ s.active := by
        rw [hactive]
        exact List.mem_cons_self
      exact ⟨h.periods, h.known, mem_active hmem⟩
  | setEnabled j enabled =>
    cases Option.some.inj hcall
    unfold setEnabled
    split
    · exact h
    · next node hnode =>
      have hset : Ready (s.setNode j { node with enabled := enabled }) := h.setNode hnode rfl rfl
      exact hset.congr rfl rfl fun _ hp => .inl hp

/-! ## No callback raises, and each has less before it -/

/-- What the loop needs of a configuration. -/
structure Runs (c : Config) : Prop where
  onAir : c.OnAir
  room : 1 ≤ c.voice.maxQueueFrames
  interval : 1 ≤ c.coordinator.heartbeatIntervalUs
  delay : 0 ≤ c.coordinator.electionDelayUs

/-- A callback did not raise, and fewer turns are left than its own. -/
def Ends (c : Config) (untilUs : ℤ) (s : Sim P) (callback : Call) : Prop :=
  ∃ s', s.call c callback = some s' ∧ s'.load untilUs + 1 ≤ s.load untilUs + Call.weight untilUs (s.nowUs, callback)

theorem again_ends (hs : Sane s) (hnow : s.nowUs ≤ untilUs) {node : VoiceNode} (hperiod : 1 ≤ node.localPeriodUs)
    (call : Call) : ∃ s', s.again c node call = some s' ∧
      s'.load untilUs + call.turns ≤ s.load untilUs + Call.weight untilUs (s.nowUs, call) := by
  have hlater : s.nowUs < s.nowUs + node.localPeriodUs := by omega
  have hweight := Call.weight_later hlater hnow call
  by_cases hstop : s.nowUs + node.localPeriodUs < c.voice.stopGenerationAtUs
  · refine ⟨_, again_eq_some.2 (.inl ⟨hstop, hlater.le, rfl⟩), ?_⟩
    rw [load_scheduled hs hlater.le]
    omega
  · refine ⟨s, again_eq_some.2 (.inr ⟨not_lt.1 hstop, rfl⟩), ?_⟩
    omega

theorem enqueue_ends (hroom : 1 ≤ c.voice.maxQueueFrames) (i : ℕ) (node : VoiceNode) :
    ∃ m, s.enqueue c i node = some m ∧ m.load untilUs = s.load untilUs ∧ m.nowUs = s.nowUs := by
  unfold enqueue
  dsimp only
  split
  · next hfull =>
    split
    · next hempty =>
      rw [hempty, List.length_nil, Nat.cast_zero] at hfull
      omega
    · exact ⟨_, rfl, rfl, rfl⟩
  · exact ⟨_, rfl, rfl, rfl⟩

theorem generate_ends (h : Ready s) (hs : Sane s) (hc : Runs c) (hnow : s.nowUs ≤ untilUs) {i : ℕ}
    (hi : i < s.nodes.length) : Ends c untilUs s (.generate i) := by
  have hnode := List.getElem?_eq_getElem hi
  have hperiod := h.periods _ (List.getElem_mem hi)
  generalize s.nodes[i] = node at hnode hperiod
  have hfirst : ∃ m, (if node.enabled then s.enqueue c i node else some s) = some m ∧ Sane m ∧
      m.load untilUs = s.load untilUs ∧ m.nowUs = s.nowUs := by
    split
    · obtain ⟨m, hm, hload, hmnow⟩ := @enqueue_ends P s c untilUs hc.room i node
      exact ⟨m, hm, hs.enqueue hm, hload, hmnow⟩
    · exact ⟨s, rfl, hs, rfl, rfl⟩
  obtain ⟨m, hm, hsane, hload, hmnow⟩ := hfirst
  obtain ⟨s', hs', hless⟩ := again_ends (c := c) hsane (hmnow.le.trans hnow) hperiod (.generate i)
  refine ⟨s', ?_, ?_⟩
  · change s.generate c i = some _
    unfold generate
    rw [hnode]
    dsimp only
    rw [hm, Option.bind_some, hs']
  · rw [hload, hmnow] at hless
    exact hless

theorem checkAge_load (c : Config) (nodeId packetId ageUs : ℤ) (stage : String) (s : Sim P) :
    (s.checkAge c nodeId packetId ageUs stage).load untilUs = s.load untilUs ∧
      (s.checkAge c nodeId packetId ageUs stage).nowUs = s.nowUs := by
  unfold Sim.checkAge
  split <;> exact ⟨rfl, rfl⟩

theorem slot_ends (h : Ready s) (hs : Sane s) (hc : Runs c) (hnow : s.nowUs ≤ untilUs) {i : ℕ}
    (hi : i < s.nodes.length) : Ends c untilUs s (.slot i) := by
  have hnode := List.getElem?_eq_getElem hi
  have hperiod := h.periods _ (List.getElem_mem hi)
  generalize s.nodes[i] = node at hnode hperiod
  have hfirst : ∃ m, s.slot c i = (some m).bind (again c node (.slot i)) ∧ Sane m ∧
      m.load untilUs ≤ s.load untilUs + 1 ∧ m.nowUs = s.nowUs := by
    unfold slot
    rw [hnode]
    dsimp only
    split
    · split
      · exact ⟨s, rfl, hs, Nat.le_succ _, rfl⟩
      · next packet queue _ =>
        have hset : Sane (s.setNode i { node with queue := queue }) := ⟨hs.sound, hs.fresh, hs.called⟩
        obtain ⟨hload, hbaseNow⟩ := @checkAge_load P untilUs c node.nodeId packet.packetId
          (s.nowUs - packet.createdAtUs) "queue" (s.setNode i { node with queue := queue })
        refine ⟨_, congrArg (fun first => Option.bind first (again c node (.slot i)))
          (transmit_eq_some.2 ⟨hc.onAir.voice.le, rfl⟩), (hset.checkAge c _ _ _ _).sent packet hc.onAir.voice, ?_,
          (sent_nowUs packet hc.onAir.voice).trans hbaseNow⟩
        rw [load_sent packet hc.onAir.voice, hload]
        exact Nat.le_refl _
    · exact ⟨s, rfl, hs, Nat.le_succ _, rfl⟩
  obtain ⟨m, hm, hsane, hload, hmnow⟩ := hfirst
  obtain ⟨s', hs', hless⟩ := again_ends (c := c) hsane (hmnow.le.trans hnow) hperiod (.slot i)
  refine ⟨s', ?_, ?_⟩
  · change s.slot c i = some _
    exact hm.trans hs'
  · rw [hmnow] at hless
    have hturns : (Call.slot i).turns = 2 := rfl
    omega

theorem heartbeat_ends (h : Ready s) (hs : Sane s) (hc : Runs c) (hnow : s.nowUs ≤ untilUs) :
    Ends c untilUs s .heartbeat := by
  have hthere : ∃ node, s.nodeById s.coordinatorId = some node := by
    obtain ⟨node, hnode, hid⟩ := h.coordinator
    refine Option.isSome_iff_exists.1 (List.find?_isSome.2 ⟨node, List.mem_reverse.2 hnode, ?_⟩)
    exact decide_eq_true hid
  obtain ⟨node, hnode⟩ := hthere
  have hfirst : ∃ m, (if node.enabled then
      Sim.transmit { s with nextPacketId := s.nextPacketId + 1 }
        ⟨s.nextPacketId, s.coordinatorId, 0, s.nowUs, c.coordinator.heartbeatPayloadBytes, .heartbeat⟩
        c.coordinator.heartbeatAirtimeUs
      else some s) = some m ∧ Sane m ∧ m.load untilUs ≤ s.load untilUs + 1 ∧ m.nowUs = s.nowUs := by
    split
    · have hnext : Sane { s with nextPacketId := s.nextPacketId + 1 } := ⟨hs.sound, hs.fresh, hs.called⟩
      refine ⟨_, transmit_eq_some.2 ⟨hc.onAir.heartbeat.le, rfl⟩, hnext.sent _ hc.onAir.heartbeat, ?_,
        sent_nowUs _ hc.onAir.heartbeat⟩
      rw [load_sent _ hc.onAir.heartbeat]
      exact Nat.le_refl _
    · exact ⟨s, rfl, hs, Nat.le_succ _, rfl⟩
  obtain ⟨m, hm, hsane, hload, hmnow⟩ := hfirst
  have hinterval := hc.interval
  have hlater : m.nowUs < m.nowUs + c.coordinator.heartbeatIntervalUs := by omega
  have hweight := Call.weight_later hlater (hmnow.le.trans hnow) .heartbeat
  refine ⟨m.scheduled (m.nowUs + c.coordinator.heartbeatIntervalUs) .heartbeat, ?_, ?_⟩
  · change s.heartbeat c = some _
    unfold heartbeat
    rw [hnode]
    dsimp only
    rw [hm, Option.bind_some]
    exact schedule_eq_some.2 ⟨by omega, rfl⟩
  · have hturns : Call.heartbeat.turns = 2 := rfl
    rw [load_scheduled hsane hlater.le]
    rw [hmnow] at hweight ⊢
    omega

theorem checkTimeout_ends (hs : Sane s) (hc : Runs c) (hnow : s.nowUs ≤ untilUs) :
    Ends c untilUs s .checkTimeout := by
  have hpos := c.coordinator.checkIntervalUs_pos
  have hfirst : ∃ m, (if c.coordinator.heartbeatTimeoutUs < s.nowUs - s.lastHeartbeatUs ∧ s.electionPending = false then
      (Sim.record { s with electionPending := true } "heartbeat_timeout" (some s.coordinatorId) none .empty).schedule
        c.coordinator.electionDelayUs .elect
      else some s) = some m ∧ Sane m ∧ m.load untilUs ≤ s.load untilUs + 1 ∧ m.nowUs = s.nowUs := by
    split
    · have hsane : Sane { s with electionPending := true } := ⟨hs.sound, hs.fresh, hs.called⟩
      have hrec := hsane.record "heartbeat_timeout" (some s.coordinatorId) none .empty
      have hlater : s.nowUs ≤ s.nowUs + c.coordinator.electionDelayUs := le_add_of_nonneg_right hc.delay
      refine ⟨_, schedule_eq_some.2 ⟨hc.delay, rfl⟩, hrec.scheduled hlater _, ?_, scheduled_nowUs _ _⟩
      refine (load_scheduled hrec hlater .elect).le.trans (Nat.add_le_add_left ?_ _)
      unfold Call.weight Call.turns
      split
      · exact (Nat.zero_mul _).symm ▸ Nat.le_refl _
      · exact Nat.zero_le _
    · exact ⟨s, rfl, hs, Nat.le_succ _, rfl⟩
  obtain ⟨m, hm, hsane, hload, hmnow⟩ := hfirst
  have hlater : m.nowUs < m.nowUs + c.coordinator.checkIntervalUs := by omega
  have hweight := Call.weight_later hlater (hmnow.le.trans hnow) .checkTimeout
  refine ⟨m.scheduled (m.nowUs + c.coordinator.checkIntervalUs) .checkTimeout, ?_, ?_⟩
  · change s.checkTimeout c = some _
    unfold checkTimeout
    rw [hm, Option.bind_some]
    exact schedule_eq_some.2 ⟨hpos.le, rfl⟩
  · have hturns : Call.checkTimeout.turns = 2 := rfl
    rw [load_scheduled hsane hlater.le]
    rw [hmnow] at hweight ⊢
    omega

/-- **No callback raises.** -/
theorem call_ends (h : Ready s) (hs : Sane s) (hc : Runs c) (hnow : s.nowUs ≤ untilUs) {callback : Call}
    (hknown : ∀ i, callback.node = some i → i < s.nodes.length) : Ends c untilUs s callback := by
  have hone (call : Call) (hturns : call.turns = 0) : Call.weight untilUs (s.nowUs, call) = 1 := by
    unfold Call.weight
    rw [if_pos hnow, hturns, if_pos rfl, Nat.zero_mul]
  cases callback with
  | generate i => exact generate_ends h hs hc hnow (hknown i rfl)
  | slot i => exact slot_ends h hs hc hnow (hknown i rfl)
  | heartbeat => exact heartbeat_ends h hs hc hnow
  | checkTimeout => exact checkTimeout_ends hs hc hnow
  | elect =>
    refine ⟨_, rfl, ?_⟩
    have hload : (s.elect c).load untilUs = s.load untilUs := by
      unfold elect
      split <;> rfl
    rw [hone _ rfl, hload]
  | setEnabled i enabled =>
    refine ⟨_, rfl, ?_⟩
    have hload : (s.setEnabled i enabled).load untilUs = s.load untilUs := by
      unfold setEnabled
      split <;> rfl
    rw [hone _ rfl, hload]

/-! ## The loop -/

theorem complete_same (c : Config) (packet : Packet) (delivered : Bool) (s : Sim P) :
    (s.complete c packet delivered).nodes = s.nodes ∧ (s.complete c packet delivered).pending = s.pending ∧
      (s.complete c packet delivered).coordinatorId = s.coordinatorId ∧
      (s.complete c packet delivered).simulation.unfinished = s.simulation.unfinished := by
  unfold complete checkAge
  split
  · split
    · split <;> exact ⟨rfl, rfl, rfl, rfl⟩
    · exact ⟨rfl, rfl, rfl, rfl⟩
  · exact ⟨rfl, rfl, rfl, rfl⟩

theorem kept_nowUs (t : ℤ) : Kept fun s : Sim P => s.nowUs = t where
  record _ _ _ _ _ h := h
  next _ h := h
  setNode _ _ _ _ h _ _ _ _ := h
  scheduled _ _ _ _ h _ _ _ := (scheduled_nowUs _ _).trans h
  sent _ packet _ _ h hair := (sent_nowUs packet hair).trans h

/-- Callbacks do not take time. -/
theorem call_nowUs (hs : Sane s) (hc : c.OnAir) {callback : Call} (hcall : s.call c callback = some s') :
    s'.nowUs = s.nowUs := by
  cases callback with
  | generate j => exact (kept_nowUs s.nowUs).call hc hs rfl rfl hcall
  | slot j => exact (kept_nowUs s.nowUs).call hc hs rfl rfl hcall
  | heartbeat => exact (kept_nowUs s.nowUs).call hc hs rfl rfl hcall
  | checkTimeout =>
    obtain ⟨m, rfl, ⟨-, rfl⟩ | ⟨-, -, -, rfl⟩⟩ := checkTimeout_cases hcall
    · exact scheduled_nowUs _ _
    · exact (scheduled_nowUs _ _).trans (scheduled_nowUs _ _)
  | elect =>
    cases Option.some.inj hcall
    unfold elect
    split <;> rfl
  | setEnabled j enabled =>
    cases Option.some.inj hcall
    unfold setEnabled
    split <;> rfl

/-- The loop is left: nothing is due any more. -/
def Done (untilUs : ℤ) (s : Sim P) : Prop := s.nowUs = untilUs ∧ s.simulation.due untilUs = none

variable [LT P] [DecidableLT P]

/-- **A turn does not raise**; it leaves fewer turns, or it is the end. -/
theorem turn_ends (h : Ready s) (hs : Sane s) (hc : Runs c) (hnow : s.nowUs ≤ untilUs) (draw : P) :
    ∃ s', s.turn c untilUs draw = some s' ∧ Ready s' ∧ Sane s' ∧ s'.nowUs ≤ untilUs ∧
      (s'.Done untilUs ∨ (s.simulation.due untilUs ≠ none ∧ s'.load untilUs + 1 ≤ s.load untilUs)) := by
  rcases turn_eq hs c hnow draw with ⟨m, hm, hnext, -, hpending, -, hevents, hdue⟩ |
    ⟨mid, t, callback, hnext, hle, -, hpending, hunfinished, hdue, hm⟩ |
    ⟨mid, t, tx, e, delivered, hnext, hle, -, -, -, hpending, hunfinished, hdue, hm⟩
  · have hdone : m.simulation.due untilUs = none := by
      unfold Simulation.due at hdue ⊢
      rwa [hevents]
    exact ⟨m, hm, h.congr hnext.nodes hnext.coordinatorId fun p hp => .inl (hpending ▸ hp), hnext.sane, hnext.now.le,
      .inl ⟨hnext.now, hdone⟩⟩
  · have hknown : ∀ i, callback.node = some i → i < mid.nodes.length := by
      rw [hnext.nodes]
      refine fun i hi => h.known (t, callback) ?_ i hi
      rw [hpending]
      exact List.mem_cons_self
    have hmid : Ready mid := h.congr hnext.nodes hnext.coordinatorId fun p hp => by
      rw [hpending]
      exact .inl (List.mem_cons_of_mem _ hp)
    obtain ⟨s', hs', hless⟩ := call_ends hmid hnext.sane hc (hnext.now.le.trans hle) hknown
    have hsane' := hnext.sane.call hc.onAir hs'
    have hload : s.load untilUs = mid.load untilUs + Call.weight untilUs (t, callback) := by
      unfold load
      rw [hpending, hunfinished, List.map_cons, List.sum_cons]
      omega
    rw [hnext.now] at hless
    have hnow' : s'.nowUs = mid.nowUs := call_nowUs hnext.sane hc.onAir hs'
    exact ⟨s', hm.trans hs', hmid.call hnext.sane hc.onAir hs', hsane', by rw [hnow', hnext.now]; exact hle,
      .inr ⟨hdue, by omega⟩⟩
  · obtain ⟨hnodes, hcalls, hcoordinator, hends⟩ := complete_same c tx.packet delivered mid
    have hload : (mid.complete c tx.packet delivered).load untilUs + 1 = s.load untilUs := by
      unfold load
      rw [hcalls, hpending, hends, hunfinished]
      omega
    have hnow' : (mid.complete c tx.packet delivered).nowUs = mid.nowUs := by
      unfold complete checkAge
      split
      · split
        · split <;> rfl
        · rfl
      · rfl
    refine ⟨_, hm, ?_, hnext.sane.complete c _ _, by rw [hnow', hnext.now]; exact hle, .inr ⟨hdue, hload.le⟩⟩
    refine h.congr (hnodes.trans hnext.nodes) (hcoordinator.trans hnext.coordinatorId) fun p hp => .inl ?_
    rw [hcalls, hpending] at hp
    exact hp

/-- **After enough turns the loop is left.** -/
theorem turns_end (hc : Runs c) : ∀ {draws : List P} {s : Sim P}, Ready s → Sane s → s.nowUs ≤ untilUs →
    (s.load untilUs < draws.length ∨ s.Done untilUs) →
      ∃ s', draws.foldlM (turn c untilUs) s = some s' ∧ Sane s' ∧ s'.Done untilUs
  | [], s, _, hs, _, hlong => ⟨s, rfl, hs, hlong.resolve_left (Nat.not_lt_zero _)⟩
  | draw :: draws, s, h, hs, hnow, hlong => by
    obtain ⟨m, hm, hmReady, hmSane, hmNow, hless⟩ := turn_ends h hs hc hnow draw
    have hrest : m.load untilUs < draws.length ∨ m.Done untilUs := by
      rcases hless with hdone | ⟨hdue, hless⟩
      · exact .inr hdone
      · rcases hlong with hlong | hdone
        · rw [List.length_cons] at hlong
          exact .inl (by omega)
        · exact absurd hdone.2 hdue
    obtain ⟨s', hs', hend⟩ := turns_end hc hmReady hmSane hmNow hrest
    refine ⟨s', ?_, hend⟩
    rw [List.foldlM_cons, hm]
    exact hs'

end Sim

/-! ## What follows for a scenario -/

theorem Simulation.Ordered.after_due {s : Simulation} (h : s.Ordered) {untilUs : ℤ} (hdue : s.due untilUs = none) :
    ∀ e ∈ s.events, untilUs < e.timeUs := by
  unfold Simulation.due at hdue
  split at hdue
  · next hevents =>
    rw [hevents]
    exact List.forall_mem_nil _
  · next head rest hevents =>
    split at hdue
    · next hlt => exact fun e he => hlt.trans_le (h.head_le hevents e he)
    · cases hdue

theorem Scenario.Started.ready {P : Type} {sc : Scenario P} {c : Config} {s : Sim P} (h : sc.Started c s)
    (hcoordinator : ∃ spec ∈ sc.nodes, spec.nodeId = sc.initialCoordinatorId) : s.Ready := by
  obtain ⟨faults, hfaults, hpending⟩ := h.pending
  refine ⟨fun node hnode => ?_, fun p hp i hi => ?_, ?_⟩
  · rw [h.nodes] at hnode
    obtain ⟨i, hi, rfl⟩ := List.mem_mapIdx.1 hnode
    exact le_max_left _ _
  · rcases List.mem_append.1 (hpending.mem_iff.1 hp) with hp | hp
    · obtain ⟨fault, -, -, j, enabled, hcall, -⟩ := hfaults p hp
      rw [hcall] at hi
      cases hi
    · rcases List.mem_cons.1 hp with rfl | hp
      · cases hi
      · rcases List.mem_cons.1 hp with rfl | hp
        · cases hi
        · obtain ⟨⟨node, j⟩, hnode, hstart⟩ := List.mem_flatMap.1 hp
          have hj := (List.getElem?_eq_some_iff.1 (List.mem_zipIdx_iff_getElem?.1 hnode)).1
          rw [h.nodes]
          rcases List.mem_cons.1 hstart with rfl | hstart
          · cases Option.some.inj hi
            exact hj
          · rw [List.mem_singleton.1 hstart] at hi
            cases Option.some.inj hi
            exact hj
  · obtain ⟨spec, hspec, hid⟩ := hcoordinator
    obtain ⟨i, hi, rfl⟩ := List.getElem_of_mem hspec
    rw [h.nodes, h.coordinatorId]
    exact ⟨_, List.mem_mapIdx.2 ⟨i, hi, rfl⟩, hid⟩

/-- The ratio of the estimate divides by the interval of the heartbeats. -/
theorem estimate_interval {P : Type} {capacity : CapacityEstimate} {sc : Scenario P}
    (hcap : sc.estimateCapacity = some capacity) : sc.heartbeatIntervalUs ≠ 0 := by
  obtain ⟨voice, -, hrest⟩ := Option.bind_eq_some_iff.1 hcap
  obtain ⟨heartbeat, -, hlast⟩ := Option.bind_eq_some_iff.1 hrest
  dsimp only at hlast
  split at hlast
  · cases hlast
  · next hnonzero => exact fun hzero => hnonzero (.inr hzero)

/-- **Main result: a scenario that is set up comes to its end.** If its initial coordinator is a node, its queues have
room and its delays are not negative, no callback raises, and after enough turns of the loop, whatever `random` draws,
the clock stands at the end of the run and nothing that is still scheduled is due. -/
theorem scenario_ends {P : Type} [LT P] [DecidableLT P] {sc : Scenario P} {capacity : CapacityEstimate}
    (hcap : sc.estimateCapacity = some capacity) (hvoice : 0 < capacity.voiceAirtimeUs)
    (hheartbeat : 0 < capacity.heartbeatAirtimeUs) (hroom : 1 ≤ sc.maxQueueFrames) (hinterval : 0 ≤ sc.heartbeatIntervalUs)
    (hdelay : 0 ≤ sc.electionDelayUs) (hduration : 0 ≤ sc.durationUs)
    (hcoordinator : ∃ spec ∈ sc.nodes, spec.nodeId = sc.initialCoordinatorId) (hstart : (sc.start capacity).isSome = true) :
    ∃ n, ∀ draws : List P, n ≤ draws.length → ∃ s, sc.run draws = some s ∧
      s.nowUs = sc.durationUs + capacity.voiceAirtimeUs ∧
      ∀ e ∈ s.simulation.events, sc.durationUs + capacity.voiceAirtimeUs < e.timeUs := by
  have hnonzero : sc.heartbeatIntervalUs ≠ 0 := estimate_interval hcap
  have hc : Sim.Runs (sc.config capacity) := by
    refine ⟨⟨hvoice, hheartbeat⟩, hroom, ?_, hdelay⟩
    change 1 ≤ sc.heartbeatIntervalUs
    omega
  obtain ⟨first, hfirst⟩ := Option.isSome_iff_exists.1 hstart
  have hbegin := Scenario.started hfirst
  refine ⟨first.load (sc.durationUs + capacity.voiceAirtimeUs) + 1, fun draws hlong => ?_⟩
  have hnow : first.nowUs ≤ sc.durationUs + capacity.voiceAirtimeUs := by
    rw [hbegin.now]
    omega
  obtain ⟨s, hrun, hs, hdone⟩ := Sim.turns_end hc (hbegin.ready hcoordinator) hbegin.sane hnow (.inl hlong)
  refine ⟨s, ?_, hdone.1, hs.sound.queue.after_due hdone.2⟩
  unfold Scenario.run
  rw [hcap]
  exact (congrArg (fun start => Option.bind start fun s => draws.foldlM _ s) hfirst).trans hrun

theorem scenario_ends_twoNodes : ∃ n, ∀ draws : List ℕ, n ≤ draws.length → ∃ s, Scenario.twoNodes.run draws = some s ∧
    s.nowUs = 60548 ∧ ∀ e ∈ s.simulation.events, 60548 < e.timeUs := by
  have hcap : Scenario.twoNodes.estimateCapacity = some ⟨548, 292, 1452, 2548⟩ := by decide +kernel
  exact scenario_ends hcap (by decide) (by decide) (by decide) (by decide) (by decide) (by decide)
    ⟨⟨1, 20000⟩, List.mem_cons_self, rfl⟩ (by decide +kernel)

end OpenRef.Simulator
