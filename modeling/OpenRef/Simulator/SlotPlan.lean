import OpenRef.Simulator.Pending
import Mathlib.Algebra.Order.Ring.Int
import Mathlib.Tactic.Ring
/-!
# What `estimate_capacity` promises of the slots

Where no node drifts, node `i` sends at `i * slot_spacing_us` after the begin of each frame. If the guard time that
`estimate_capacity` reports is not negative and the span of its schedule fits into a frame, the frames of voice never
overlap (`slots_apart`): the only thing that one can collide with is a heartbeat, which keeps to no slot.
-/

namespace OpenRef.Simulator

/-- Slots that are `spacing` apart in frames of length `period`: of two different ones the first is over when the
second begins. -/
theorem slots_do_not_meet {spacing airtime period : ℤ} {n i j k l : ℕ} (hair : 0 < airtime) (hguard : airtime ≤ spacing)
    (hspan : ((n : ℤ) - 1) * spacing + airtime ≤ period) (hi : i < n) (hj : j < n) (hne : i ≠ j)
    (hle : i * spacing + k * period ≤ j * spacing + l * period) :
    i * spacing + k * period + airtime ≤ j * spacing + l * period := by
  have hspacing : 0 < spacing := hair.trans_le hguard
  have hnear (a b : ℕ) (ha : a < n) : (a : ℤ) * spacing - b * spacing ≤ ((n : ℤ) - 1) * spacing := by
    have hab : (a : ℤ) - b ≤ (n : ℤ) - 1 := by omega
    calc (a : ℤ) * spacing - b * spacing = ((a : ℤ) - b) * spacing := by ring
      _ ≤ ((n : ℤ) - 1) * spacing := mul_le_mul_of_nonneg_right hab hspacing.le
  have hlong : 0 < period := by
    have hn : (0 : ℤ) ≤ ((n : ℤ) - 1) * spacing := mul_nonneg (by omega) hspacing.le
    omega
  have hmore (a b : ℕ) (h : a < b) : (a : ℤ) * period + period ≤ b * period := by
    have hab : (a : ℤ) + 1 ≤ b := by omega
    calc (a : ℤ) * period + period = ((a : ℤ) + 1) * period := by ring
      _ ≤ b * period := mul_le_mul_of_nonneg_right hab hlong.le
  rcases Nat.lt_trichotomy k l with hlt | rfl | hgt
  · have hfar := hmore k l hlt
    have hclose := hnear i j hi
    omega
  · have hij : (i : ℤ) * spacing ≤ j * spacing := by omega
    have hlt : i < j := lt_of_le_of_ne (by exact_mod_cast le_of_mul_le_mul_right hij hspacing) hne
    have hstep : (i : ℤ) * spacing + spacing ≤ j * spacing := by
      have h1 : (i : ℤ) + 1 ≤ j := by omega
      calc (i : ℤ) * spacing + spacing = ((i : ℤ) + 1) * spacing := by ring
        _ ≤ j * spacing := mul_le_mul_of_nonneg_right h1 hspacing.le
    omega
  · -- an earlier frame is over before a later one begins
    have hfar := hmore l k hgt
    have hclose := hnear j i hj
    omega

namespace Sim

variable {P : Type} {s s' : Sim P} {c : Config}

/-- The node whose slot a callback is, and when. -/
def slotOf (p : ℤ × Call) : Option (ℤ × ℕ) :=
  match p.2 with
  | .slot i => some (p.1, i)
  | _ => none

/-- The slots that are scheduled. -/
def slots (s : Sim P) : List (ℤ × ℕ) := s.pending.filterMap slotOf

/-- The plan of the slots, and that the frames of voice have kept to it. -/
structure InPlan (spacing airtime period : ℤ) (n : ℕ) (s : Sim P) : Prop where
  periods : s.nodes.map VoiceNode.localPeriodUs = List.replicate n period
  slots : ∀ p ∈ s.slots, p.2 < n ∧ ∃ k : ℕ, p.1 = p.2 * spacing + k * period
  one : (s.slots.map Prod.snd).Nodup
  passed : ∀ tx ∈ s.transmissions, tx.packet.kind = .voice → ∀ p ∈ s.slots, tx.endUs ≤ p.1
  apart : s.transmissions.Pairwise fun a b => a.packet.kind = .voice → b.packet.kind = .voice → a.endUs ≤ b.startUs

section
variable {spacing airtime period : ℤ} {n : ℕ}

/-- The plan looks at the slots that are scheduled and at what was sent. -/
theorem InPlan.congr (h : InPlan spacing airtime period n s)
    (hperiods : s'.nodes.map VoiceNode.localPeriodUs = s.nodes.map VoiceNode.localPeriodUs)
    (hslots : s'.slots.Perm s.slots) (htransmissions : s'.transmissions = s.transmissions) :
    InPlan spacing airtime period n s' := by
  refine ⟨hperiods.trans h.periods, fun p hp => h.slots p (hslots.mem_iff.1 hp), (hslots.map _).nodup_iff.2 h.one, ?_, ?_⟩
  · rw [htransmissions]
    exact fun tx htx hvoice p hp => h.passed tx htx hvoice p (hslots.mem_iff.1 hp)
  · rw [htransmissions]
    exact h.apart

theorem InPlan.record (h : InPlan spacing airtime period n s) (event : String) (nodeId packetId : Option ℤ)
    (details : Details) : InPlan spacing airtime period n (s.record event nodeId packetId details) :=
  h.congr rfl (.refl _) rfl

theorem slots_scheduled (hs : Sane s) {timeUs : ℤ} (hle : s.nowUs ≤ timeUs) (call : Call) :
    (s.scheduled timeUs call).slots.Perm ((slotOf (timeUs, call)).toList ++ s.slots) := by
  refine ((hs.pending_scheduled hle call).filterMap _).trans ?_
  cases hslot : slotOf (timeUs, call) with
  | none =>
    rw [List.filterMap_cons_none hslot]
    exact .refl _
  | some slot =>
    rw [List.filterMap_cons_some hslot]
    exact .refl _

/-- A callback that is no slot is scheduled. -/
theorem InPlan.scheduled (h : InPlan spacing airtime period n s) (hs : Sane s) {timeUs : ℤ} (hle : s.nowUs ≤ timeUs)
    {call : Call} (hcall : slotOf (timeUs, call) = none) : InPlan spacing airtime period n (s.scheduled timeUs call) := by
  refine h.congr rfl ?_ rfl
  have hperm := slots_scheduled hs hle call
  rwa [hcall] at hperm

/-- What is on the air once a packet is sent. -/
theorem mem_sent (hs : Sane s) (packet : Packet) (airtimeUs : ℤ) {tx : Transmission}
    (h : tx ∈ (s.sent packet airtimeUs).transmissions) :
    (∃ old ∈ s.transmissions, old.packet = tx.packet ∧ old.endUs = tx.endUs) ∨
      (tx.packet = packet ∧ tx.endUs = s.nowUs + airtimeUs) := by
  have hall : (s.sent packet airtimeUs).transmissions = _ := hs.sound.transmit_transmissions packet airtimeUs
  rw [hall] at h
  rcases List.mem_append.1 h with hold | hnew
  · obtain ⟨old, hmem, rfl⟩ := List.mem_map.1 hold
    exact .inl ⟨old, hmem, rfl, rfl⟩
  · rw [List.mem_singleton.1 hnew]
    exact .inr ⟨rfl, rfl⟩

/-- **A packet is sent**: one of voice when all before it are over and before the next slot. -/
theorem InPlan.sent (h : InPlan spacing airtime period n s) (hs : Sane s) (packet : Packet) {airtimeUs : ℤ}
    (hair : 0 < airtimeUs)
    (hbefore : packet.kind = .voice → ∀ tx ∈ s.transmissions, tx.packet.kind = .voice → tx.endUs ≤ s.nowUs)
    (hafter : packet.kind = .voice → ∀ p ∈ s.slots, s.nowUs + airtimeUs ≤ p.1) :
    InPlan spacing airtime period n (s.sent packet airtimeUs) := by
  have hslots : (s.sent packet airtimeUs).slots.Perm s.slots := (pending_sent packet hair).filterMap _
  refine ⟨h.periods, fun p hp => h.slots p (hslots.mem_iff.1 hp), (hslots.map _).nodup_iff.2 h.one,
    fun tx htx hvoice p hp => ?_, ?_⟩
  · have hp := hslots.mem_iff.1 hp
    rcases mem_sent hs packet airtimeUs htx with ⟨old, hold, hpacket, hend⟩ | ⟨hpacket, hend⟩
    · rw [← hpacket] at hvoice
      rw [← hend]
      exact h.passed old hold hvoice p hp
    · rw [hpacket] at hvoice
      rw [hend]
      exact hafter hvoice p hp
  · have hall : (s.sent packet airtimeUs).transmissions = _ := hs.sound.transmit_transmissions packet airtimeUs
    rw [hall, List.pairwise_append]
    refine ⟨List.pairwise_map.2 h.apart, List.pairwise_singleton _ _, fun a ha b hb hvoice hvoice' => ?_⟩
    obtain ⟨old, hold, rfl⟩ := List.mem_map.1 ha
    rw [List.mem_singleton.1 hb] at hvoice' ⊢
    exact hbefore hvoice' old hold hvoice

/-- What a slot leaves of the list of slots: its node is to have no other. -/
theorem InPlan.tail {slot : ℤ × ℕ} (h : InPlan spacing airtime period n s)
    (hperiods : s'.nodes.map VoiceNode.localPeriodUs = s.nodes.map VoiceNode.localPeriodUs)
    (hslots : s.slots = slot :: s'.slots) (htransmissions : s'.transmissions = s.transmissions) :
    InPlan spacing airtime period n s' ∧ slot.2 ∉ s'.slots.map Prod.snd := by
  have hone := h.one
  rw [hslots, List.map_cons, List.nodup_cons] at hone
  have hmem : ∀ p ∈ s'.slots, p ∈ s.slots := fun p hp => by
    rw [hslots]
    exact List.mem_cons_of_mem slot hp
  refine ⟨⟨hperiods.trans h.periods, fun p hp => h.slots p (hmem p hp), hone.2, ?_, ?_⟩, hone.1⟩
  · rw [htransmissions]
    exact fun tx htx hvoice p hp => h.passed tx htx hvoice p (hmem p hp)
  · rw [htransmissions]
    exact h.apart

/-- **A node's next slot is one period later.** -/
theorem InPlan.again (h : InPlan spacing airtime period n s) (hs : Sane s) {node : VoiceNode} {i : ℕ} (hi : i < n)
    (hperiod : node.localPeriodUs = period) (hslot : ∃ k : ℕ, s.nowUs = i * spacing + k * period)
    (hnone : i ∉ s.slots.map Prod.snd)
    (hover : ∀ tx ∈ s.transmissions, tx.packet.kind = .voice → tx.endUs ≤ s.nowUs + period)
    (ha : s.again c node (.slot i) = some s') : InPlan spacing airtime period n s' := by
  rcases again_eq_some.1 ha with ⟨-, hle, rfl⟩ | ⟨-, rfl⟩
  · have hperm := slots_scheduled hs hle (.slot i)
    rw [hperiod] at hperm ⊢
    have hcons : ((s.scheduled (s.nowUs + period) (.slot i)).slots).Perm ((s.nowUs + period, i) :: s.slots) := hperm
    refine ⟨h.periods, fun p hp => ?_, (hcons.map _).nodup_iff.2 (List.nodup_cons.2 ⟨hnone, h.one⟩),
      fun tx htx hvoice p hp => ?_, h.apart⟩
    · rcases List.mem_cons.1 (hcons.mem_iff.1 hp) with rfl | hp
      · obtain ⟨k, hk⟩ := hslot
        refine ⟨hi, k + 1, ?_⟩
        rw [hk, Nat.cast_add, Nat.cast_one]
        ring
      · exact h.slots p hp
    · rcases List.mem_cons.1 (hcons.mem_iff.1 hp) with rfl | hp
      · exact hover tx htx hvoice
      · exact h.passed tx htx hvoice p hp
  · exact h

/-- A node that is set keeps its period. -/
theorem periods_setNode {i : ℕ} {node node' : VoiceNode} (hnode : s.nodes[i]? = some node)
    (hperiod : node'.localPeriodUs = node.localPeriodUs) :
    (s.setNode i node').nodes.map VoiceNode.localPeriodUs = s.nodes.map VoiceNode.localPeriodUs := by
  unfold setNode
  rw [List.map_set, hperiod]
  apply List.ext_getElem?
  intro k
  rw [List.getElem?_set]
  split
  · next heq =>
    subst heq
    split
    · rw [List.getElem?_map, hnode, Option.map_some]
    · next hlong =>
      rw [List.length_map, not_lt] at hlong
      rw [List.getElem?_eq_none (by rwa [List.length_map])]
  · rfl

theorem InPlan.setNode (h : InPlan spacing airtime period n s) {i : ℕ} {node node' : VoiceNode}
    (hnode : s.nodes[i]? = some node) (hperiod : node'.localPeriodUs = node.localPeriodUs) :
    InPlan spacing airtime period n (s.setNode i node') := h.congr (periods_setNode hnode hperiod) (.refl _) rfl

theorem InPlan.period_eq (h : InPlan spacing airtime period n s) {i : ℕ} {node : VoiceNode}
    (hnode : s.nodes[i]? = some node) : node.localPeriodUs = period ∧ i < n := by
  have hget : (s.nodes.map VoiceNode.localPeriodUs)[i]? = some node.localPeriodUs := by
    rw [List.getElem?_map, hnode, Option.map_some]
  rw [h.periods, List.getElem?_replicate] at hget
  split at hget
  · next hlt => exact ⟨(Option.some.inj hget).symm, hlt⟩
  · cases hget

theorem InPlan.checkAge (h : InPlan spacing airtime period n s) (c : Config) (nodeId packetId ageUs : ℤ)
    (stage : String) : InPlan spacing airtime period n (s.checkAge c nodeId packetId ageUs stage) := by
  unfold Sim.checkAge
  split
  · exact h.record _ _ _ _
  · exact h

/-- **A slot keeps to the plan**: what it sends is over before any other slot begins. -/
theorem InPlan.slot (h : InPlan spacing airtime period n s) (hs : Sane s) (hc : c.OnAir)
    (hair : c.voice.airtimeUs = airtime) (hguard : airtime ≤ spacing)
    (hspan : ((n : ℤ) - 1) * spacing + airtime ≤ period) {i : ℕ} (hnone : i ∉ s.slots.map Prod.snd)
    (hslot : ∃ k : ℕ, s.nowUs = i * spacing + k * period)
    (hover : ∀ tx ∈ s.transmissions, tx.packet.kind = .voice → tx.endUs ≤ s.nowUs)
    (hcall : s.slot c i = some s') : InPlan spacing airtime period n s' := by
  obtain ⟨node, m, hnode, hagain, hm⟩ := slot_cases hcall
  obtain ⟨hperiod, hi⟩ := h.period_eq hnode
  have hpositive : 0 < airtime := hair ▸ hc.voice
  have hfits : airtime ≤ period := by
    have hrest : (0 : ℤ) ≤ ((n : ℤ) - 1) * spacing := mul_nonneg (by omega) (by omega)
    omega
  rcases hm with rfl | ⟨packet, queue, base, -, -, -, hbase, rfl⟩
  · exact h.again hs hi hperiod hslot hnone (fun tx htx hvoice => (hover tx htx hvoice).trans (by omega)) hagain
  · let set := s.setNode i { node with queue := queue }
    have hset : InPlan spacing airtime period n set := h.setNode hnode rfl
    have hsane : Sane set := ⟨hs.sound, hs.fresh, hs.called⟩
    have hbasePlan : InPlan spacing airtime period n base := hbase ▸ hset.checkAge c _ _ _ _
    have hbaseSane : Sane base := hbase ▸ hsane.checkAge c _ _ _ _
    have hsame : base.nowUs = s.nowUs ∧ base.slots = s.slots ∧ base.transmissions = s.transmissions := by
      rw [hbase]
      unfold Sim.checkAge
      split <;> exact ⟨rfl, rfl, rfl⟩
    obtain ⟨hnow, hslots, htransmissions⟩ := hsame
    have hbefore : ∀ tx ∈ base.transmissions, tx.packet.kind = .voice → tx.endUs ≤ base.nowUs := by
      rw [hnow, htransmissions]
      exact hover
    have hafter : ∀ p ∈ base.slots, base.nowUs + c.voice.airtimeUs ≤ p.1 := by
      rw [hnow, hslots, hair]
      intro p hp
      obtain ⟨k, hk⟩ := hslot
      obtain ⟨hlt, l, hl⟩ := h.slots p hp
      have hne : i ≠ p.2 := fun heq => hnone (List.mem_map.2 ⟨p, hp, heq.symm⟩)
      have hfuture : s.nowUs ≤ p.1 := by
        obtain ⟨q, hq, hpq⟩ := List.mem_filterMap.1 hp
        have hle := hs.future q hq
        unfold slotOf at hpq
        split at hpq
        · cases Option.some.inj hpq
          exact hle
        · cases hpq
      rw [hk, hl] at hfuture ⊢
      exact slots_do_not_meet hpositive hguard hspan hi hlt hne hfuture
    have hsent := hbasePlan.sent hbaseSane packet hc.voice (fun _ => hbefore) fun _ => hafter
    have hsentNow := base.sent_nowUs packet hc.voice
    refine hsent.again (hbaseSane.sent packet hc.voice) hi hperiod ?_ ?_ (fun tx htx hvoice => ?_) hagain
    · rw [hsentNow, hnow]
      exact hslot
    · have hperm : (base.sent packet c.voice.airtimeUs).slots.Perm base.slots := (pending_sent packet hc.voice).filterMap _
      rw [(hperm.map Prod.snd).mem_iff, hslots]
      exact hnone
    · rw [hsentNow]
      rcases mem_sent hbaseSane packet c.voice.airtimeUs htx with ⟨old, hold, hpacket, hend⟩ | ⟨-, hend⟩
      · rw [← hpacket] at hvoice
        have hle := hbefore old hold hvoice
        omega
      · omega

theorem InPlan.append (h : InPlan spacing airtime period n s) {i : ℕ} {node : VoiceNode}
    (hnode : s.nodes[i]? = some node) (queue : List Packet) (packet : Packet) :
    InPlan spacing airtime period n (s.append i node queue packet) := by
  refine InPlan.record (h.setNode hnode ?_) _ _ _ _
  rfl

/-- The callbacks that are no slots send no voice and schedule no slot. -/
theorem InPlan.other (h : InPlan spacing airtime period n s) (hs : Sane s) (hc : c.OnAir) {callback : Call}
    (hnot : ∀ i, callback ≠ .slot i) (hcall : s.call c callback = some s') : InPlan spacing airtime period n s' := by
  cases callback with
  | generate i =>
    obtain ⟨node, m, hnode, hagain, hm⟩ := generate_cases hcall
    have hboth : InPlan spacing airtime period n m ∧ Sane m := by
      rcases hm with ⟨-, hm⟩ | ⟨-, rfl⟩
      · refine ⟨?_, hs.enqueue hm⟩
        obtain ⟨packet, base, -, hbase, hcase⟩ := enqueue_cases hm
        have hbasePlan : InPlan spacing airtime period n base := by
          rw [hbase]
          exact InPlan.record (s := { s with nextPacketId := s.nextPacketId + 1 })
            (h.congr rfl (.refl _) rfl) _ _ _ _
        have hbaseNode : base.nodes[i]? = some node := by
          rw [hbase]
          exact hnode
        rcases hcase with ⟨-, rfl⟩ | ⟨dropped, queue, -, -, rfl⟩
        · exact hbasePlan.append hbaseNode _ _
        · exact (hbasePlan.record _ _ _ _).append hbaseNode _ _
      · exact ⟨h, hs⟩
    rcases again_eq_some.1 hagain with ⟨-, hle, rfl⟩ | ⟨-, rfl⟩
    · exact hboth.1.scheduled hboth.2 hle rfl
    · exact hboth.1
  | slot i => exact absurd rfl (hnot i)
  | heartbeat =>
    obtain ⟨node, m, -, hinterval, rfl, rfl | ⟨-, -, rfl⟩⟩ := heartbeat_cases hcall
    · exact h.scheduled hs (by omega) rfl
    · have hnext : InPlan spacing airtime period n { s with nextPacketId := s.nextPacketId + 1 } :=
        h.congr rfl (.refl _) rfl
      have hsane : Sane { s with nextPacketId := s.nextPacketId + 1 } := ⟨hs.sound, hs.fresh, hs.called⟩
      exact (hnext.sent hsane _ hc.heartbeat (fun hvoice => (by cases hvoice)) fun hvoice => (by cases hvoice)).scheduled
        (hsane.sent _ hc.heartbeat) (by omega) rfl
  | checkTimeout =>
    have hpos := c.coordinator.checkIntervalUs_pos
    obtain ⟨m, rfl, ⟨-, rfl⟩ | ⟨-, -, hdelay, rfl⟩⟩ := checkTimeout_cases hcall
    · exact h.scheduled hs (by omega) rfl
    · have hpending : InPlan spacing airtime period n { s with electionPending := true } := h.congr rfl (.refl _) rfl
      have hsane : Sane { s with electionPending := true } := ⟨hs.sound, hs.fresh, hs.called⟩
      have hrec := hsane.record "heartbeat_timeout" (some s.coordinatorId) none .empty
      have hlater : s.nowUs ≤ s.nowUs + c.coordinator.electionDelayUs := le_add_of_nonneg_right hdelay
      exact ((hpending.record _ _ _ _).scheduled hrec hlater rfl).scheduled (hrec.scheduled hlater _) (by omega) rfl
  | elect =>
    cases Option.some.inj hcall
    unfold elect
    split
    · exact h.congr rfl (.refl _) rfl
    · exact h.congr rfl (.refl _) rfl
  | setEnabled i enabled =>
    cases Option.some.inj hcall
    unfold setEnabled
    split
    · exact h
    · next node hnode =>
      refine InPlan.record (h.setNode hnode ?_) _ _ _ _
      rfl

theorem InPlan.complete (h : InPlan spacing airtime period n s) (c : Config) (packet : Packet) (delivered : Bool) :
    InPlan spacing airtime period n (s.complete c packet delivered) := by
  unfold Sim.complete
  split
  · split
    · exact h.checkAge _ _ _ _ _
    · exact h.congr rfl (.refl _) rfl
  · exact h

/-- **Every turn keeps to the plan.** -/
theorem InPlan.turn [LT P] [DecidableLT P] (h : InPlan spacing airtime period n s) (hs : Sane s) (hc : c.OnAir)
    (hair : c.voice.airtimeUs = airtime) (hguard : airtime ≤ spacing)
    (hspan : ((n : ℤ) - 1) * spacing + airtime ≤ period) {untilUs : ℤ} {draw : P}
    (hturn : s.turn c untilUs draw = some s') : InPlan spacing airtime period n s' := by
  rcases turn_cases hs hturn with ⟨hnext, -, hpending⟩ | ⟨mid, t, callback, hnext, -, hpending, hcall⟩ |
    ⟨mid, t, tx, e, delivered, hnext, -, -, hpending, rfl⟩
  · refine h.congr (congrArg _ hnext.nodes) ?_ hnext.transmissions
    unfold Sim.slots
    rw [hpending]
  · have hperiods := congrArg (List.map VoiceNode.localPeriodUs) hnext.nodes
    by_cases hslot : ∃ i, callback = .slot i
    · obtain ⟨i, rfl⟩ := hslot
      have hslots : s.slots = (t, i) :: mid.slots := by
        unfold Sim.slots
        rw [hpending]
        rfl
      have hmem : (t, i) ∈ s.slots := by
        rw [hslots]
        exact List.mem_cons_self
      obtain ⟨hmid, hnone⟩ := h.tail hperiods hslots hnext.transmissions
      refine hmid.slot hnext.sane hc hair hguard hspan hnone ?_ ?_ hcall
      · rw [hnext.now]
        exact (h.slots _ hmem).2
      · rw [hnext.now, hnext.transmissions]
        exact fun tx htx hvoice => h.passed tx htx hvoice _ hmem
    · have hnot : ∀ i, callback ≠ .slot i := fun i heq => hslot ⟨i, heq⟩
      have hnone : slotOf (t, callback) = none := by
        cases callback with
        | slot i => exact absurd rfl (hnot i)
        | _ => rfl
      have hslots : mid.slots = s.slots := by
        unfold Sim.slots
        rw [hpending, List.filterMap_cons_none hnone]
      refine InPlan.other (h.congr hperiods ?_ hnext.transmissions) hnext.sane hc hnot hcall
      rw [hslots]
  · refine InPlan.complete (h.congr (congrArg _ hnext.nodes) ?_ hnext.transmissions) c _ _
    unfold Sim.slots
    rw [hpending]

end

end Sim

/-! ## What follows for a scenario -/

/-- No node drifts: the rounded period of each is that of a frame. -/
def Scenario.DriftFree {P : Type} (sc : Scenario P) : Prop := ∀ spec ∈ sc.nodes, spec.roundedPeriodUs = sc.frameIntervalUs

/-- The schedule of `estimate_capacity` fits: there is a slot for each node, its guard time is not negative, and its
span is no longer than a frame. -/
structure CapacityEstimate.Fits {P : Type} (capacity : CapacityEstimate) (sc : Scenario P) : Prop where
  slots : (sc.nodes.length : ℤ) ≤ sc.scheduleSlots
  guardTime : 0 ≤ capacity.slotGuardUs
  span : capacity.scheduleSpanUs ≤ sc.frameIntervalUs

theorem estimate_eq {P : Type} {capacity : CapacityEstimate} {sc : Scenario P}
    (hcap : sc.estimateCapacity = some capacity) : capacity.slotGuardUs = sc.slotSpacingUs - capacity.voiceAirtimeUs ∧
      capacity.scheduleSpanUs = (sc.scheduleSlots - 1) * sc.slotSpacingUs + capacity.voiceAirtimeUs := by
  obtain ⟨voice, -, hrest⟩ := Option.bind_eq_some_iff.1 hcap
  obtain ⟨heartbeat, -, hlast⟩ := Option.bind_eq_some_iff.1 hrest
  dsimp only at hlast
  split at hlast
  · cases hlast
  · cases hlast
    exact ⟨rfl, rfl⟩

/-- The estimate, as the spacing of the slots. -/
theorem CapacityEstimate.Fits.spacing {P : Type} {capacity : CapacityEstimate} {sc : Scenario P}
    (h : capacity.Fits sc) (hcap : sc.estimateCapacity = some capacity) (hvoice : 0 < capacity.voiceAirtimeUs) :
    capacity.voiceAirtimeUs ≤ sc.slotSpacingUs ∧
      ((sc.nodes.length : ℤ) - 1) * sc.slotSpacingUs + capacity.voiceAirtimeUs ≤ sc.frameIntervalUs := by
  obtain ⟨hguard, hspan⟩ := estimate_eq hcap
  have hslots := h.slots
  have hlong : capacity.voiceAirtimeUs ≤ sc.slotSpacingUs := by
    have hle := h.guardTime
    omega
  refine ⟨hlong, ?_⟩
  have hfewer : ((sc.nodes.length : ℤ) - 1) * sc.slotSpacingUs ≤ (sc.scheduleSlots - 1) * sc.slotSpacingUs :=
    mul_le_mul_of_nonneg_right (by omega) (by omega)
  have hle := h.span
  omega

/-- When the loop begins, each node's first slot is scheduled at its offset. -/
theorem Scenario.Started.inPlan {P : Type} {sc : Scenario P} {c : Config} {s : Sim P} (h : sc.Started c s)
    (hdrift : sc.DriftFree) (hframe : ∀ spec ∈ sc.nodes, 1 ≤ sc.frameIntervalUs) {airtime : ℤ} :
    s.InPlan sc.slotSpacingUs airtime sc.frameIntervalUs sc.nodes.length := by
  obtain ⟨faults, hfaults, hpending⟩ := h.pending
  have hslots : s.slots.Perm (sc.init.nodes.zipIdx.map fun node => (node.1.slotOffsetUs, node.2)) := by
    have hnone : faults.filterMap Sim.slotOf = [] := by
      refine List.filterMap_eq_nil_iff.2 fun p hp => ?_
      obtain ⟨fault, -, -, i, enabled, hcall, -⟩ := hfaults p hp
      unfold Sim.slotOf
      rw [hcall]
    have hnodes : ∀ nodes : List (VoiceNode × ℕ), (nodes.flatMap Scenario.startCalls).filterMap Sim.slotOf =
        nodes.map fun node => (node.1.slotOffsetUs, node.2) := by
      intro nodes
      induction nodes with
      | nil => rfl
      | cons node nodes ih =>
        rw [List.flatMap_cons, List.filterMap_append, ih]
        rfl
    refine (hpending.filterMap Sim.slotOf).trans ?_
    rw [List.filterMap_append, hnone, List.nil_append, List.filterMap_cons_none rfl, List.filterMap_cons_none rfl, hnodes]
  have hmem : ∀ p ∈ s.slots, p.2 < sc.nodes.length ∧ p.1 = p.2 * sc.slotSpacingUs := by
    intro p hp
    obtain ⟨⟨node, i⟩, hnode, rfl⟩ := List.mem_map.1 (hslots.mem_iff.1 hp)
    have hget := List.mem_zipIdx_iff_getElem?.1 hnode
    unfold Scenario.init at hget
    rw [List.getElem?_mapIdx] at hget
    obtain ⟨spec, hspec, heq⟩ := Option.map_eq_some_iff.1 hget
    exact ⟨(List.getElem?_eq_some_iff.1 hspec).1, (congrArg VoiceNode.slotOffsetUs heq).symm⟩
  refine ⟨?_, fun p hp => ⟨(hmem p hp).1, 0, ?_⟩, ?_, ?_, ?_⟩
  · rw [h.nodes]
    apply List.ext_getElem?
    intro i
    unfold Scenario.init
    rw [List.getElem?_map, List.getElem?_mapIdx, List.getElem?_replicate]
    split
    · next hi =>
      have hspec := List.getElem?_eq_getElem hi
      have hin := List.getElem_mem hi
      rw [hspec, Option.map_some, Option.map_some]
      unfold Scenario.node
      dsimp only
      rw [hdrift _ hin, max_eq_right (hframe _ hin)]
    · next hi => rw [List.getElem?_eq_none (not_lt.1 hi), Option.map_none, Option.map_none]
  · rw [(hmem p hp).2, Nat.cast_zero, zero_mul, add_zero]
  · rw [(hslots.map Prod.snd).nodup_iff, List.map_map]
    have hindices : (Prod.snd ∘ fun node : VoiceNode × ℕ => (node.1.slotOffsetUs, node.2)) = Prod.snd := rfl
    rw [hindices, List.zipIdx_map_snd]
    exact List.nodup_range'
  · rw [h.transmissions]
    exact List.forall_mem_nil _
  · rw [h.transmissions]
    exact List.Pairwise.nil

/-- What became of the frames of voice where the schedule fits. -/
structure SlotsApart {P : Type} (s : Sim P) : Prop where
  apart : ∀ (j k : ℕ) (a b : Transmission), j ≠ k → s.transmissions[j]? = some a → s.transmissions[k]? = some b →
    a.packet.kind = .voice → b.packet.kind = .voice → ¬ a.Overlaps b
  collided : ∀ (k : ℕ) (tx : Transmission), s.transmissions[k]? = some tx → tx.packet.kind = .voice →
    tx.collided = true → ∃ (j : ℕ) (other : Transmission), s.transmissions[j]? = some other ∧
      other.packet.kind = .heartbeat ∧ tx.Overlaps other

theorem Sim.InPlan.slotsApart {P : Type} {s : Sim P} {spacing airtime period : ℤ} {n : ℕ}
    (h : s.InPlan spacing airtime period n) (hs : s.Sane) : SlotsApart s := by
  have hover : ∀ (j k : ℕ) (a b : Transmission), j ≠ k → s.transmissions[j]? = some a →
      s.transmissions[k]? = some b → a.packet.kind = .voice → b.packet.kind = .voice → ¬ a.Overlaps b := by
    rintro j k a b hne ha hb hva hvb ⟨hab, hba⟩
    obtain ⟨hj, rfl⟩ := List.getElem?_eq_some_iff.1 ha
    obtain ⟨hk, rfl⟩ := List.getElem?_eq_some_iff.1 hb
    rcases Nat.lt_or_gt_of_ne hne with hlt | hlt
    · exact absurd hba (not_lt.2 (List.pairwise_iff_getElem.1 h.apart j k hj hk hlt hva hvb))
    · exact absurd hab (not_lt.2 (List.pairwise_iff_getElem.1 h.apart k j hk hj hlt hvb hva))
  refine ⟨hover, fun k tx hk hvoice hcollided => ?_⟩
  obtain ⟨j, other, hne, hother, hmeets⟩ := (hs.sound.collided_iff hk).1 hcollided
  refine ⟨j, other, hother, ?_, hmeets⟩
  cases hkind : other.packet.kind with
  | voice => exact absurd hmeets (hover k j tx other hne.symm hk hother hvoice hkind)
  | heartbeat => rfl

/-- **Main result: where the schedule of `estimate_capacity` fits, frames of voice do not collide with each other.** In
every state of every run of a scenario without drift, whatever is switched off and on and whatever is lost, no two
transmissions of voice overlap, and one that collided met a heartbeat. -/
theorem slots_apart {P : Type} [LT P] [DecidableLT P] {sc : Scenario P} {capacity : CapacityEstimate}
    (hcap : sc.estimateCapacity = some capacity) (hvoice : 0 < capacity.voiceAirtimeUs)
    (hheartbeat : 0 < capacity.heartbeatAirtimeUs) (hdrift : sc.DriftFree) (hfits : capacity.Fits sc) {draws : List P}
    {s : Sim P} (h : sc.run draws = some s) : SlotsApart s := by
  have hc : (sc.config capacity).OnAir := ⟨hvoice, hheartbeat⟩
  obtain ⟨hguard, hspan⟩ := hfits.spacing hcap hvoice
  have hframe : ∀ spec ∈ sc.nodes, 1 ≤ sc.frameIntervalUs := by
    intro spec hspec
    have hsome := List.length_pos_of_mem hspec
    have hrest : (0 : ℤ) ≤ ((sc.nodes.length : ℤ) - 1) * sc.slotSpacingUs := mul_nonneg (by omega) (by omega)
    omega
  have hstart (s : Sim P) (hs : sc.Started (sc.config capacity) s) :
      s.InPlan sc.slotSpacingUs capacity.voiceAirtimeUs sc.frameIntervalUs sc.nodes.length :=
    hs.inPlan hdrift hframe
  have hrun := Scenario.inv_run hcap hc hstart
    (fun s s' draw hs hI hturn => hI.turn hs hc rfl hguard hspan hturn) h
  exact hrun.2.slotsApart hrun.1

theorem slots_apart_twoNodes : ∃ s, Scenario.twoNodes.run (List.replicate 12 9) = some s ∧ SlotsApart s := by
  have hcap : Scenario.twoNodes.estimateCapacity = some ⟨548, 292, 1452, 2548⟩ := by decide +kernel
  have hrun : (Scenario.twoNodes.run (List.replicate 12 9)).isSome = true := by decide +kernel
  refine ⟨_, (Option.some_get hrun).symm, slots_apart hcap (by decide) (by decide) ?_
    ⟨by decide, by decide, by decide⟩ (Option.some_get hrun).symm⟩
  exact List.forall_mem_cons.2 ⟨rfl, List.forall_mem_singleton.2 rfl⟩

end OpenRef.Simulator
