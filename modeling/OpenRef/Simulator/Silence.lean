import OpenRef.Simulator.Pending
import Mathlib.Data.List.Dedup
/-!
# How long a network can be silent

The coordinator's heartbeat can stop: it is switched off, or its packets are lost. The timeout is checked every half
heartbeat interval, and an election follows a check that finds the last heartbeat too old. If one node is never
switched off, an election finds somebody, so the age of the last heartbeat never passes the timeout, one check
interval and the delay of the election together (`silence_bounded`).
-/

namespace OpenRef.Simulator

namespace Sim

variable {P : Type} {s s' : Sim P} {c : Config}

/-! ## Somebody is there -/

/-- The node at an index is the last one with its id, it is on, and nothing that is scheduled switches it off. -/
structure Alive (i : ℕ) (nodeId : ℤ) (s : Sim P) : Prop where
  node : ∃ before node after, s.nodes = before ++ node :: after ∧ before.length = i ∧ node.nodeId = nodeId ∧
    node.enabled = true ∧ ∀ other ∈ after, other.nodeId ≠ nodeId
  kept : ∀ p ∈ s.pending, p.2 ≠ .setEnabled i false

theorem Alive.nodeById {i : ℕ} {nodeId : ℤ} (h : Alive i nodeId s) :
    ∃ node, s.nodeById nodeId = some node ∧ node.enabled = true := by
  obtain ⟨before, node, after, hnodes, -, hid, henabled, hlast⟩ := h.node
  refine ⟨node, ?_, henabled⟩
  unfold Sim.nodeById
  rw [hnodes, List.reverse_append, List.reverse_cons, List.append_assoc, List.find?_append,
    List.find?_eq_none.2 fun other hother => ?_, Option.none_or]
  · exact List.find?_cons_of_pos (decide_eq_true hid)
  · rw [decide_eq_true_eq]
    exact hlast other (List.mem_reverse.1 hother)

/-- **An election finds somebody.** -/
theorem Alive.active {i : ℕ} {nodeId : ℤ} (h : Alive i nodeId s) : s.active ≠ [] := by
  obtain ⟨found, hfound, henabled⟩ := h.nodeById
  obtain ⟨before, node, after, hnodes, -, hid, -⟩ := h.node
  have hmem : nodeId ∈ s.active := by
    unfold Sim.active
    rw [List.mem_insertionSort, List.mem_filter, List.mem_dedup, hfound]
    refine ⟨List.mem_map.2 ⟨node, ?_, hid⟩, henabled⟩
    rw [hnodes]
    exact List.mem_append_right _ List.mem_cons_self
  exact List.ne_nil_of_mem hmem

/-- A node is set that stays what it is to others, or stays on. -/
theorem Alive.setNode {i j : ℕ} {nodeId : ℤ} {node node' : VoiceNode} (h : Alive i nodeId s)
    (hnode : s.nodes[j]? = some node) (hid : node'.nodeId = node.nodeId)
    (henabled : j = i → node.enabled = true → node'.enabled = true) : Alive i nodeId (s.setNode j node') := by
  obtain ⟨before, self, after, hnodes, hlength, hself, hon, hlast⟩ := h.node
  refine ⟨?_, h.kept⟩
  unfold Sim.setNode
  dsimp only
  rw [hnodes] at hnode ⊢
  rcases Nat.lt_trichotomy j i with hlt | rfl | hgt
  · rw [List.set_append_left _ _ (by omega)]
    exact ⟨_, self, after, rfl, by rw [List.length_set, hlength], hself, hon, hlast⟩
  · rw [← hlength, List.set_append_right _ _ (Nat.le_refl _), Nat.sub_self, List.set_cons_zero]
    rw [← hlength, List.getElem?_append_right (Nat.le_refl _), Nat.sub_self, List.getElem?_cons_zero] at hnode
    cases Option.some.inj hnode
    exact ⟨before, node', after, rfl, rfl, hid.trans hself, henabled rfl hon, hlast⟩
  · obtain ⟨k, hk⟩ : ∃ k, j - before.length = k + 1 := ⟨j - before.length - 1, by omega⟩
    rw [List.set_append_right _ _ (by omega), hk, List.set_cons_succ]
    rw [List.getElem?_append_right (by omega), hk, List.getElem?_cons_succ] at hnode
    refine ⟨before, self, after.set k node', rfl, hlength, hself, hon, fun other hother => ?_⟩
    rcases List.mem_or_eq_of_mem_set hother with hother | rfl
    · exact hlast other hother
    · rw [hid]
      exact hlast node (List.mem_of_getElem? hnode)

theorem Alive.congr {i : ℕ} {nodeId : ℤ} (h : Alive i nodeId s) (hnodes : s'.nodes = s.nodes)
    (hpending : ∀ p ∈ s'.pending, p.2 ≠ .setEnabled i false) : Alive i nodeId s' := by
  obtain ⟨before, node, after, heq, hrest⟩ := h.node
  exact ⟨⟨before, node, after, hnodes.trans heq, hrest⟩, hpending⟩

theorem Alive.scheduled {i : ℕ} {nodeId : ℤ} (h : Alive i nodeId s) (hs : Sane s) {timeUs : ℤ}
    (hle : s.nowUs ≤ timeUs) {call : Call} (hcall : call ≠ .setEnabled i false) :
    Alive i nodeId (s.scheduled timeUs call) := by
  refine h.congr rfl fun p hp => ?_
  rcases List.mem_cons.1 ((hs.pending_scheduled hle call).mem_iff.1 hp) with rfl | hp
  · exact hcall
  · exact h.kept p hp

theorem kept_alive {i : ℕ} {nodeId : ℤ} : Kept (Alive (P := P) i nodeId) where
  record _ _ _ _ _ h := h.congr rfl h.kept
  next _ h := h.congr rfl h.kept
  setNode _ _ _ _ h hnode hid henabled _ := h.setNode hnode hid fun _ hon => henabled.trans hon
  scheduled _ _ _ hs h hle hplain _ := h.scheduled hs hle fun heq => by
    rw [heq] at hplain
    cases hplain
  sent _ packet _ _ h hair := h.congr rfl fun p hp => h.kept p ((pending_sent packet hair).mem_iff.1 hp)

/-- A check schedules, and records that the last heartbeat is too old; an election tells who is the coordinator. -/
theorem Alive.call {i : ℕ} {nodeId : ℤ} (h : Alive i nodeId s) (hs : Sane s) (hc : c.OnAir) {callback : Call}
    (hnot : callback ≠ .setEnabled i false) (hcall : s.call c callback = some s') : Alive i nodeId s' := by
  cases callback with
  | generate j => exact kept_alive.call hc hs h rfl hcall
  | slot j => exact kept_alive.call hc hs h rfl hcall
  | heartbeat => exact kept_alive.call hc hs h rfl hcall
  | checkTimeout =>
    have hpos := c.coordinator.checkIntervalUs_pos
    obtain ⟨m, rfl, ⟨-, rfl⟩ | ⟨-, -, hdelay, rfl⟩⟩ := checkTimeout_cases hcall
    · exact h.scheduled hs (by omega) fun heq => (by cases heq)
    · have hpending : Alive i nodeId { s with electionPending := true } := h.congr rfl h.kept
      have hsane : Sane { s with electionPending := true } := ⟨hs.sound, hs.fresh, hs.called⟩
      have hrec := hsane.record "heartbeat_timeout" (some s.coordinatorId) none .empty
      have hlater : s.nowUs ≤ s.nowUs + c.coordinator.electionDelayUs := le_add_of_nonneg_right hdelay
      have hreported : Alive i nodeId (Sim.record { s with electionPending := true } "heartbeat_timeout"
        (some s.coordinatorId) none .empty) := hpending.congr rfl hpending.kept
      exact (hreported.scheduled hrec hlater fun heq => (by cases heq)).scheduled (hrec.scheduled hlater _) (by omega)
        fun heq => (by cases heq)
  | elect =>
    cases Option.some.inj hcall
    unfold elect
    split
    · exact h.congr rfl h.kept
    · exact h.congr rfl h.kept
  | setEnabled j enabled =>
    cases Option.some.inj hcall
    unfold setEnabled
    split
    · exact h
    · next node hnode =>
      have hset : Alive i nodeId (s.setNode j { node with enabled := enabled }) := by
        refine h.setNode hnode rfl fun heq _ => ?_
        subst heq
        cases enabled with
        | true => rfl
        | false => exact absurd rfl hnot
      exact hset.congr rfl hset.kept

/-! ## Somebody looks -/

/-- A check is scheduled, before the last heartbeat is much too old; or an election is, soon after that. -/
structure Watched (c : CoordinatorConfig) (s : Sim P) : Prop where
  past : s.lastHeartbeatUs ≤ s.nowUs
  idle : s.electionPending = false → ∃ t, (t, .checkTimeout) ∈ s.pending ∧
    t ≤ s.lastHeartbeatUs + c.heartbeatTimeoutUs + c.checkIntervalUs
  busy : s.electionPending = true → (∃ t, (t, .checkTimeout) ∈ s.pending ∧ t ≤ s.nowUs + c.checkIntervalUs) ∧
    ∃ t, (t, .elect) ∈ s.pending ∧
      t ≤ s.lastHeartbeatUs + c.heartbeatTimeoutUs + c.checkIntervalUs + c.electionDelayUs

theorem Watched.congr {c : CoordinatorConfig} (h : Watched c s) (hnow : s'.nowUs = s.nowUs)
    (hlast : s'.lastHeartbeatUs = s.lastHeartbeatUs) (helection : s'.electionPending = s.electionPending)
    (hpending : ∀ p ∈ s.pending, p ∈ s'.pending) : Watched c s' := by
  refine ⟨?_, fun hidle => ?_, fun hbusy => ?_⟩
  · rw [hnow, hlast]
    exact h.past
  · obtain ⟨t, ht, hle⟩ := h.idle (helection ▸ hidle)
    exact ⟨t, hpending _ ht, hlast ▸ hle⟩
  · obtain ⟨⟨t, ht, hle⟩, ⟨u, hu, hle'⟩⟩ := h.busy (helection ▸ hbusy)
    exact ⟨⟨t, hpending _ ht, hnow ▸ hle⟩, ⟨u, hpending _ hu, hlast ▸ hle'⟩⟩

theorem Watched.scheduled {c : CoordinatorConfig} (h : Watched c s) (hs : Sane s) {timeUs : ℤ} (hle : s.nowUs ≤ timeUs)
    (call : Call) : Watched c (s.scheduled timeUs call) :=
  h.congr (scheduled_nowUs _ _) rfl rfl fun _ hp =>
    (hs.pending_scheduled hle call).mem_iff.2 (List.mem_cons_of_mem _ hp)

theorem kept_watched {c : CoordinatorConfig} : Kept (Watched (P := P) c) where
  record _ _ _ _ _ h := h.congr rfl rfl rfl fun _ hp => hp
  next _ h := h.congr rfl rfl rfl fun _ hp => hp
  setNode _ _ _ _ h _ _ _ _ := h.congr rfl rfl rfl fun _ hp => hp
  scheduled _ _ call hs h hle _ _ := h.scheduled hs hle call
  sent s packet _ _ h hair :=
    h.congr (s.sent_nowUs packet hair) rfl rfl fun _ hp => (pending_sent packet hair).mem_iff.2 hp

/-- A heartbeat was heard, or an election has found somebody. -/
theorem Watched.heard {c : CoordinatorConfig} (h : Watched c s) (hnow : s'.nowUs = s.nowUs)
    (hlast : s'.lastHeartbeatUs = s.nowUs) (helection : s'.electionPending = s.electionPending)
    (hpending : s'.pending = s.pending) : Watched c s' := by
  have hpast := h.past
  refine ⟨(hlast.trans hnow.symm).le, fun hidle => ?_, fun hbusy => ?_⟩
  · obtain ⟨t, ht, hle⟩ := h.idle (helection ▸ hidle)
    exact ⟨t, hpending ▸ ht, by omega⟩
  · obtain ⟨⟨t, ht, hle⟩, ⟨u, hu, hle'⟩⟩ := h.busy (helection ▸ hbusy)
    exact ⟨⟨t, hpending ▸ ht, by omega⟩, ⟨u, hpending ▸ hu, by omega⟩⟩

/-- **The bound.** What is scheduled comes no earlier than now. -/
theorem Watched.bound {c : CoordinatorConfig} (h : Watched c s) (hs : Sane s) (hdelay : 0 ≤ c.electionDelayUs) :
    s.nowUs - s.lastHeartbeatUs ≤ c.heartbeatTimeoutUs + c.checkIntervalUs + c.electionDelayUs := by
  cases helection : s.electionPending with
  | false =>
    obtain ⟨t, ht, hle⟩ := h.idle helection
    have hfuture := hs.future _ ht
    dsimp only at hfuture
    omega
  | true =>
    obtain ⟨-, t, ht, hle⟩ := h.busy helection
    have hfuture := hs.future _ ht
    dsimp only at hfuture
    omega

/-- Time goes on, up to what is scheduled first. -/
theorem Watched.next {c : CoordinatorConfig} {mid : Sim P} {t : ℤ} (h : Watched c s) (hnext : Next s mid t)
    (hcheck : ∀ u, (u, .checkTimeout) ∈ s.pending → (u, .checkTimeout) ∈ mid.pending)
    (helect : ∀ u, (u, .elect) ∈ s.pending → (u, .elect) ∈ mid.pending) : Watched c mid := by
  have hle := hnext.le
  have hnow := hnext.now
  refine ⟨?_, fun hidle => ?_, fun hbusy => ?_⟩
  · rw [hnow, hnext.lastHeartbeatUs]
    exact h.past.trans hle
  · obtain ⟨u, hu, hbound⟩ := h.idle (hnext.electionPending ▸ hidle)
    exact ⟨u, hcheck _ hu, hnext.lastHeartbeatUs ▸ hbound⟩
  · obtain ⟨⟨u, hu, hbound⟩, ⟨v, hv, hbound'⟩⟩ := h.busy (hnext.electionPending ▸ hbusy)
    exact ⟨⟨u, hcheck _ hu, by omega⟩, ⟨v, helect _ hv, hnext.lastHeartbeatUs ▸ hbound'⟩⟩

/-- **A check**: it finds a heartbeat that is young enough, or asks for an election. -/
theorem Watched.check {mid : Sim P} {t : ℤ} (h : Watched c.coordinator s) (hnext : Next s mid t)
    (hpending : s.pending = (t, .checkTimeout) :: mid.pending) (hcall : mid.checkTimeout c = some s') :
    Watched c.coordinator s' := by
  have hpos := c.coordinator.checkIntervalUs_pos
  have hpast := h.past
  have hle := hnext.le
  have hnow := hnext.now
  have hlast := hnext.lastHeartbeatUs
  have hflag := hnext.electionPending
  have hfirst : ∀ p ∈ s.pending, t ≤ p.1 := by
    rw [hpending]
    refine List.forall_mem_cons.2 ⟨Int.le_refl t, fun p hp => ?_⟩
    exact hnow ▸ hnext.sane.future p hp
  obtain ⟨m, rfl, ⟨hyoung, rfl⟩ | ⟨hold, hidle, hdelay, rfl⟩⟩ := checkTimeout_cases hcall
  · have hsched := hnext.sane.pending_scheduled
      (le_add_of_nonneg_right hpos.le : m.nowUs ≤ m.nowUs + c.coordinator.checkIntervalUs) .checkTimeout
    have hnew := hsched.mem_iff.2 List.mem_cons_self
    refine ⟨?_, fun hidle => ⟨_, hnew, ?_⟩, fun hbusy => ⟨⟨_, hnew, ?_⟩, ?_⟩⟩
    · rw [scheduled_nowUs, scheduled_lastHeartbeatUs]
      omega
    · rw [scheduled_electionPending] at hidle
      rw [scheduled_lastHeartbeatUs]
      have hage : ¬ c.coordinator.heartbeatTimeoutUs < m.nowUs - m.lastHeartbeatUs := fun hlt => hyoung ⟨hlt, hidle⟩
      omega
    · rw [scheduled_nowUs]
    · rw [scheduled_electionPending, hflag] at hbusy
      obtain ⟨-, v, hv, hbound⟩ := h.busy hbusy
      rw [hpending] at hv
      have hrest := (List.mem_cons.1 hv).resolve_left fun heq => (by cases heq)
      rw [scheduled_lastHeartbeatUs, hlast]
      exact ⟨v, hsched.mem_iff.2 (List.mem_cons_of_mem _ hrest), hbound⟩
  · rw [hflag] at hidle
    obtain ⟨u, hu, hbound⟩ := h.idle hidle
    have hearly := hfirst _ hu
    obtain ⟨base, hbase, hbaseNow, hbaseLast, hsane⟩ : ∃ base, base = Sim.record { mid with electionPending := true }
        "heartbeat_timeout" (some mid.coordinatorId) none .empty ∧ base.nowUs = mid.nowUs ∧
        base.lastHeartbeatUs = mid.lastHeartbeatUs ∧ Sane base :=
      ⟨_, rfl, rfl, rfl, Sane.record (s := { mid with electionPending := true })
        ⟨hnext.sane.sound, hnext.sane.fresh, hnext.sane.called⟩ _ _ _ _⟩
    rw [← hbase]
    have hlater : base.nowUs ≤ mid.nowUs + c.coordinator.electionDelayUs :=
      hbaseNow.le.trans (le_add_of_nonneg_right hdelay)
    have helect := hsane.pending_scheduled hlater .elect
    have hsched := (hsane.scheduled hlater .elect).pending_scheduled (le_add_of_nonneg_right hpos.le) .checkTimeout
    have hnewElect := hsched.mem_iff.2 (List.mem_cons_of_mem _ (helect.mem_iff.2 List.mem_cons_self))
    refine ⟨?_, fun hidle' => ?_, fun _ => ⟨⟨_, hsched.mem_iff.2 List.mem_cons_self, ?_⟩, _, hnewElect, ?_⟩⟩
    · simp only [scheduled_nowUs, scheduled_lastHeartbeatUs]
      omega
    · rw [scheduled_electionPending, scheduled_electionPending, hbase] at hidle'
      cases hidle'
    · simp only [scheduled_nowUs]
      exact Int.le_refl _
    · simp only [scheduled_lastHeartbeatUs]
      dsimp only at hearly
      omega

/-- **An election**: where somebody is on, it is as good as a heartbeat. -/
theorem Watched.elect {mid : Sim P} {t : ℤ} (h : Watched c.coordinator s)
    (htimeout : 0 ≤ c.coordinator.heartbeatTimeoutUs) (hnext : Next s mid t)
    (hpending : s.pending = (t, .elect) :: mid.pending) (hactive : mid.active ≠ []) :
    Watched c.coordinator (mid.elect c) := by
  have hpast := h.past
  have hle := hnext.le
  have hnow := hnext.now
  have hcheck : ∃ u, (u, .checkTimeout) ∈ mid.pending ∧
      u ≤ mid.nowUs + c.coordinator.heartbeatTimeoutUs + c.coordinator.checkIntervalUs := by
    have hrest {u : ℤ} (hu : (u, .checkTimeout) ∈ s.pending) : (u, .checkTimeout) ∈ mid.pending := by
      rw [hpending] at hu
      exact (List.mem_cons.1 hu).resolve_left fun heq => (by cases heq)
    cases helection : s.electionPending with
    | false =>
      obtain ⟨u, hu, hbound⟩ := h.idle helection
      exact ⟨u, hrest hu, by omega⟩
    | true =>
      obtain ⟨⟨u, hu, hbound⟩, -⟩ := h.busy helection
      exact ⟨u, hrest hu, by omega⟩
  unfold Sim.elect
  split
  · next hnone => exact absurd hnone hactive
  · exact ⟨Int.le_refl _, fun _ => hcheck, fun hbusy => (by cases hbusy)⟩

theorem Watched.complete (h : Watched c.coordinator s) (packet : Packet) (delivered : Bool) :
    Watched c.coordinator (s.complete c packet delivered) := by
  unfold Sim.complete
  split
  · split
    · exact kept_watched.checkAge h _ _ _ _
    · exact h.heard rfl rfl rfl rfl
  · exact h

variable [LT P] [DecidableLT P]

/-- **Every turn keeps watch**, where a node is never switched off. -/
theorem Watched.turn {i : ℕ} {nodeId : ℤ} (h : Watched c.coordinator s) (ha : Alive i nodeId s) (hs : Sane s)
    (hc : c.OnAir) (htimeout : 0 ≤ c.coordinator.heartbeatTimeoutUs) {untilUs : ℤ} {draw : P}
    (hturn : s.turn c untilUs draw = some s') : Watched c.coordinator s' ∧ Alive i nodeId s' := by
  rcases turn_cases hs hturn with ⟨hnext, -, hpending⟩ | ⟨mid, t, callback, hnext, -, hpending, hcall⟩ |
    ⟨mid, t, tx, e, delivered, hnext, -, -, hpending, rfl⟩
  · exact ⟨h.next hnext (fun u => hpending ▸ id) fun u => hpending ▸ id,
      ha.congr hnext.nodes (hpending ▸ ha.kept)⟩
  · have hkept : ∀ p ∈ (t, callback) :: mid.pending, p.2 ≠ .setEnabled i false := hpending ▸ ha.kept
    have hmid : Alive i nodeId mid := ha.congr hnext.nodes fun p hp => hkept p (List.mem_cons_of_mem _ hp)
    refine ⟨?_, hmid.call hnext.sane hc (hkept _ List.mem_cons_self) hcall⟩
    have hother (hcheck : callback ≠ .checkTimeout) (helect : callback ≠ .elect) : Watched c.coordinator mid := by
      refine h.next hnext (fun u hu => ?_) fun u hu => ?_
      · rw [hpending] at hu
        exact (List.mem_cons.1 hu).resolve_left fun heq => hcheck (congrArg Prod.snd heq).symm
      · rw [hpending] at hu
        exact (List.mem_cons.1 hu).resolve_left fun heq => helect (congrArg Prod.snd heq).symm
    cases callback with
    | generate j => exact kept_watched.call hc hnext.sane (hother nofun nofun) rfl hcall
    | slot j => exact kept_watched.call hc hnext.sane (hother nofun nofun) rfl hcall
    | heartbeat => exact kept_watched.call hc hnext.sane (hother nofun nofun) rfl hcall
    | checkTimeout => exact h.check hnext hpending hcall
    | elect =>
      cases Option.some.inj hcall
      exact h.elect htimeout hnext hpending hmid.active
    | setEnabled j enabled =>
      cases Option.some.inj hcall
      have hw := hother nofun nofun
      unfold setEnabled
      split
      · exact hw
      · exact hw.congr rfl rfl rfl fun _ hp => hp
  · refine ⟨Watched.complete (h.next hnext (fun u => hpending ▸ id) fun u => hpending ▸ id) _ _, ?_⟩
    have hmid : Alive i nodeId mid := ha.congr hnext.nodes (hpending ▸ ha.kept)
    have hcomplete : (mid.complete c tx.packet delivered).nodes = mid.nodes ∧
        (mid.complete c tx.packet delivered).pending = mid.pending := by
      unfold Sim.complete Sim.checkAge
      split
      · split
        · split <;> exact ⟨rfl, rfl⟩
        · exact ⟨rfl, rfl⟩
      · exact ⟨rfl, rfl⟩
    exact hmid.congr hcomplete.1 (hcomplete.2 ▸ hmid.kept)

end Sim

/-! ## What follows for a scenario -/

/-- Among the nodes with one id, the last is the one that the dictionary has. -/
theorem exists_last {α β : Type*} [DecidableEq β] (f : α → β) {b : β} : ∀ {l : List α}, (∃ a ∈ l, f a = b) →
    ∃ before a after, l = before ++ a :: after ∧ f a = b ∧ ∀ other ∈ after, f other ≠ b
  | [], h => by
    obtain ⟨a, ha, -⟩ := h
    cases ha
  | x :: l, h => by
    by_cases hlater : ∃ a ∈ l, f a = b
    · obtain ⟨before, a, after, rfl, hrest⟩ := exists_last f hlater
      exact ⟨x :: before, a, after, rfl, hrest⟩
    · obtain ⟨a, ha, hb⟩ := h
      rcases List.mem_cons.1 ha with rfl | ha
      · exact ⟨[], a, l, rfl, hb, fun other hother heq => hlater ⟨other, hother, heq⟩⟩
      · exact absurd ⟨a, ha, hb⟩ hlater

/-- A node of the scenario that no fault switches off. -/
def Scenario.KeptOn {P : Type} (sc : Scenario P) (nodeId : ℤ) : Prop :=
  (∃ spec ∈ sc.nodes, spec.nodeId = nodeId) ∧
    ∀ fault ∈ sc.faults, fault.action = "disable_node" → fault.nodeId ≠ some nodeId

theorem Scenario.Started.alive {P : Type} {sc : Scenario P} {c : Config} {s : Sim P} {nodeId : ℤ}
    (h : sc.Started c s) (hon : sc.KeptOn nodeId) : ∃ i, s.Alive i nodeId := by
  have hthere : ∃ node ∈ sc.init.nodes, node.nodeId = nodeId := by
    obtain ⟨spec, hspec, hid⟩ := hon.1
    obtain ⟨i, hi, rfl⟩ := List.getElem_of_mem hspec
    exact ⟨_, List.mem_mapIdx.2 ⟨i, hi, rfl⟩, hid⟩
  obtain ⟨before, node, after, hnodes, hid, hlast⟩ := exists_last VoiceNode.nodeId hthere
  have henabled : node.enabled = true := by
    have hmem : node ∈ sc.init.nodes := by
      rw [hnodes]
      exact List.mem_append_right _ List.mem_cons_self
    obtain ⟨i, hi, rfl⟩ := List.mem_mapIdx.1 hmem
    rfl
  refine ⟨before.length, ⟨before, node, after, h.nodes.trans hnodes, rfl, hid, henabled, hlast⟩, fun p hp hcall => ?_⟩
  obtain ⟨faults, hfaults, hpending⟩ := h.pending
  rcases List.mem_append.1 (hpending.mem_iff.1 hp) with hp | hp
  · obtain ⟨fault, hfault, -, i, enabled, hswitch, haction, id, hfaultId, hget⟩ := hfaults p hp
    cases hswitch.symm.trans hcall
    rw [hnodes, List.map_append, List.map_cons, List.getElem?_append_right (by rw [List.length_map]),
      List.length_map, Nat.sub_self, List.getElem?_cons_zero] at hget
    refine hon.2 fault hfault haction ?_
    rw [hfaultId, ← hget, hid]
  · rcases List.mem_cons.1 hp with rfl | hp
    · cases hcall
    · rcases List.mem_cons.1 hp with rfl | hp
      · cases hcall
      · obtain ⟨start, -, hstart⟩ := List.mem_flatMap.1 hp
        rcases List.mem_cons.1 hstart with rfl | hstart
        · cases hcall
        · cases List.mem_singleton.1 hstart
          cases hcall

theorem Scenario.Started.watched {P : Type} {sc : Scenario P} {c : Config} {s : Sim P} (h : sc.Started c s) :
    s.Watched c.coordinator := by
  have hpos := c.coordinator.checkIntervalUs_pos
  obtain ⟨faults, -, hpending⟩ := h.pending
  refine ⟨?_, fun _ => ⟨c.coordinator.heartbeatTimeoutUs, ?_, ?_⟩, fun hbusy => ?_⟩
  · rw [h.lastHeartbeatUs, h.now]
  · exact hpending.mem_iff.2 (List.mem_append_right _ List.mem_cons_self)
  · rw [h.lastHeartbeatUs]
    omega
  · rw [h.electionPending] at hbusy
    cases hbusy

/-- **Main result: a network with a node that stays on is never silent for long.** In every state of every run the
last heartbeat that was heard, or the last election, is no older than the timeout, one interval of its checks and the
delay of an election together, whatever is lost, collides, or is switched off. -/
theorem silence_bounded {P : Type} [LT P] [DecidableLT P] {sc : Scenario P} {capacity : CapacityEstimate}
    (hcap : sc.estimateCapacity = some capacity) (hvoice : 0 < capacity.voiceAirtimeUs)
    (hheartbeat : 0 < capacity.heartbeatAirtimeUs) (hdelay : 0 ≤ sc.electionDelayUs) {nodeId : ℤ}
    (hon : sc.KeptOn nodeId) {draws : List P} {s : Sim P} (h : sc.run draws = some s) :
    s.nowUs - s.lastHeartbeatUs ≤
      sc.heartbeatTimeoutUs + max 1 (sc.heartbeatIntervalUs / 2) + sc.electionDelayUs := by
  have hc : (sc.config capacity).OnAir := ⟨hvoice, hheartbeat⟩
  have hrun := Scenario.inv_run (I := fun s => 0 ≤ sc.heartbeatTimeoutUs ∧
    s.Watched (sc.config capacity).coordinator ∧ ∃ i, s.Alive i nodeId) hcap hc ?_ ?_ h
  · exact hrun.2.2.1.bound hrun.1 hdelay
  · exact fun s hs => ⟨hs.timeout, hs.watched, hs.alive hon⟩
  · rintro s s' draw hs ⟨htimeout, hw, i, ha⟩ hturn
    obtain ⟨hw', ha'⟩ := hw.turn ha hs hc htimeout hturn
    exact ⟨htimeout, hw', i, ha'⟩

theorem silence_bounded_twoNodes : ∃ s, Scenario.twoNodes.run (List.replicate 20 9) = some s ∧
    s.nowUs - s.lastHeartbeatUs ≤ 30000 := by
  have hcap : Scenario.twoNodes.estimateCapacity = some ⟨548, 292, 1452, 2548⟩ := by decide +kernel
  have hrun : (Scenario.twoNodes.run (List.replicate 20 9)).isSome = true := by decide +kernel
  have hon : Scenario.twoNodes.KeptOn 2 := by
    refine ⟨⟨⟨2, 20000⟩, List.mem_cons_of_mem _ List.mem_cons_self, rfl⟩, List.forall_mem_singleton.2 fun _ => ?_⟩
    decide
  exact ⟨_, (Option.some_get hrun).symm, silence_bounded hcap (by decide) (by decide) (by decide) hon
    (Option.some_get hrun).symm⟩

end OpenRef.Simulator
