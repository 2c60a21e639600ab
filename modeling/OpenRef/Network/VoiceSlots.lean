import Mathlib.Data.Fin.VecNotation
import Mathlib.Logic.Function.Basic
import OpenRef.Lib.Run
import OpenRef.Network.Fg23
/-!
# Voice slots on the air

Every node has a radio clock of its own: true time plus an offset. A heartbeat carries the origin of the schedule as
the coordinator's clock shows it, and a follower takes that number for a time of its own clock. So the voice slots
of two nodes under one coordinator keep their distance in a frame only up to the difference of the offsets.

`voice_slots_apart` says which offsets do no harm.
-/

namespace OpenRef.Network

open OpenRef.Packet

/-- `RAIL_GetTime()` of a clock with an offset. -/
def radioReading (offset t : ℤ) : U32 := BitVec.ofInt 32 (t + offset)

/-- An audio transmission a node scheduled: its true start, and the node's view at that time. -/
structure VoiceSlot (n : Nat) where
  node : Fin n
  view : View
  startUs : ℤ
deriving DecidableEq, Repr

/-- The nodes, the packets they handed to their radios, and the audio transmissions among these. -/
structure AirSystem (n : Nat) where
  nodes : Fin n → Fg23Network
  air : List NetworkPacket
  voice : List (VoiceSlot n)
  timeUs : ℤ

/-- A packet that was sent reaches a node, or is unreadable there; or a node is past `process_rx`. -/
inductive AirEvent (n : Nat) where
  | hear (i : Fin n) (packet : Nat) (heardAt slotAt : ℤ)
  | turn (i : Fin n) (nowAt : ℤ) (ended started : TxCounters) (fifoWritten txAccepted : Bool)
deriving DecidableEq, Repr

/-- The tick makes the node coordinator. -/
def Fg23Network.BecomesCoordinator (f : Fg23Network) (nowUs : U64) : Prop :=
  f.network.role ≠ .coordinator ∧ (f.network.tick nowUs).1.role = .coordinator

instance (f : Fg23Network) (nowUs : U64) : Decidable (f.BecomesCoordinator nowUs) :=
  inferInstanceAs (Decidable (_ ∧ _))

variable {n : Nat}

namespace AirSystem

/-- A packet as a node's radio holds it. -/
def held (offsets : Fin n → ℤ) (s : AirSystem n) (i : Fin n) (packet : Nat) (heardAt slotAt : ℤ) : HeldPacket where
  bytes := (s.air[packet]?).map Bytes.bytes
  heardUs := radioReading (offsets i) heardAt
  slotUs := radioReading (offsets i) slotAt

/-- What a node's radio answers after `process_rx`. -/
def input (offsets : Fin n → ℤ) (i : Fin n) (nowAt : ℤ) (ended started : TxCounters)
    (fifoWritten txAccepted : Bool) : RadioInput :=
  ⟨[], radioReading (offsets i) nowAt, ended, started, fifoWritten, txAccepted⟩

/-- The voice slot of a transmission. -/
def slotOf (offsets : Fin n → ℤ) (i : Fin n) (view : View) (tx : ScheduledTx) : List (VoiceSlot n) :=
  if tx.heartbeat then [] else [⟨i, view, tx.whenUs.toNat - offsets i⟩]

/-- A transmission handed to a radio. -/
def send (offsets : Fin n → ℤ) (s : AirSystem n) (i : Fin n) (view : View) : Option ScheduledTx → AirSystem n
  | none => s
  | some tx => { s with air := s.air ++ [tx.packet], voice := s.voice ++ slotOf offsets i view tx }

/-- A node's state replaced, at a time. -/
def setNode (s : AirSystem n) (i : Fin n) (f : Fg23Network) (t : ℤ) : AirSystem n :=
  { s with nodes := Function.update s.nodes i f, timeUs := t }

@[simp] theorem setNode_nodes (s : AirSystem n) (i : Fin n) (f : Fg23Network) (t : ℤ) :
    (s.setNode i f t).nodes i = f :=
  Function.update_self _ _ _

theorem setNode_nodes_of_ne (s : AirSystem n) {i j : Fin n} (h : j ≠ i) (f : Fg23Network) (t : ℤ) :
    (s.setNode i f t).nodes j = s.nodes j :=
  Function.update_of_ne h _ _

def step (offsets : Fin n → ℤ) (s : AirSystem n) : AirEvent n → AirSystem n
  | .hear i packet heardAt slotAt =>
    s.setNode i ((s.nodes i).processPacket (s.held offsets i packet heardAt slotAt)) slotAt
  | .turn i nowAt ended started fifoWritten txAccepted =>
    let called := (s.nodes i).process (input offsets i nowAt ended started fifoWritten txAccepted)
    (s.setNode i called.1 nowAt).send offsets i called.1.network.view called.2.scheduled

/-- Time moves on, and no clock wraps, neither at the event nor up to the voice slot it comes to. -/
def Timely (offsets : Fin n → ℤ) (s : AirSystem n) : AirEvent n → Prop
  | .hear i _ heardAt slotAt =>
    s.timeUs ≤ heardAt ∧ heardAt ≤ slotAt ∧ 0 ≤ heardAt + offsets i ∧ slotAt + offsets i < 2 ^ 32
  | .turn i nowAt _ _ _ _ =>
    s.timeUs ≤ nowAt ∧ 0 ≤ nowAt + offsets i ∧ nowAt + offsets i < 2 ^ 32 ∧
      ((((s.nodes i).tick ((radioReading (offsets i) nowAt).setWidth 64)).1.advanceSlots
        ((radioReading (offsets i) nowAt).setWidth 64)).nextAudioSlotUs).toNat < 2 ^ 32

/-- No heartbeat is accepted while one of the node's own is pending; a node that becomes coordinator has no voice
slot of an older schedule ahead; and the epochs do not run out. -/
def Orderly (offsets : Fin n → ℤ) (s : AirSystem n) : AirEvent n → Prop
  | .hear i packet heardAt slotAt =>
    (s.nodes i).heartbeatPending = true →
      (s.nodes i).accepted (s.held offsets i packet heardAt slotAt) = none
  | .turn i nowAt _ _ _ _ =>
    ¬ (s.nodes i).network.ElectsAtLastEpoch (.tick ((radioReading (offsets i) nowAt).setWidth 64)) ∧
      ((s.nodes i).BecomesCoordinator ((radioReading (offsets i) nowAt).setWidth 64) →
        (s.nodes i).nextAudioSlotUs ≤ (radioReading (offsets i) nowAt).setWidth 64 + scheduleLeadUs)

instance decidableTimely (offsets : Fin n → ℤ) (s : AirSystem n) : ∀ e, Decidable (s.Timely offsets e)
  | .hear _ _ _ _ => inferInstanceAs (Decidable (_ ∧ _))
  | .turn _ _ _ _ _ _ => inferInstanceAs (Decidable (_ ∧ _))

instance decidableOrderly (offsets : Fin n → ℤ) (s : AirSystem n) : ∀ e, Decidable (s.Orderly offsets e)
  | .hear _ _ _ _ => inferInstanceAs (Decidable (_ → _))
  | .turn _ _ _ _ _ _ => inferInstanceAs (Decidable (¬ _ ∧ (_ → _)))

end AirSystem

/-- A call of `process` hears the held packets one by one, then takes its turn. -/
theorem process_eq_turn (f : Fg23Network) (input : RadioInput) :
    f.process input = (input.held.foldl Fg23Network.processPacket f).process { input with held := [] } := rfl

/-! ## One node

The ledger tells which origin a coordinator gave its schedule in an epoch. -/

/-- The origin of each view's schedule, where its coordinator took office. -/
abbrev Ledger := View → Option U64

/-- A voice slot lies on the schedule of the node's origin. -/
def NetworkState.OnSchedule (s : NetworkState) (slotUs : U64) : Prop :=
  Slots.At 20000 (s.scheduleOriginUs.toNat + s.config.audioOffsetUs.toNat) slotUs.toNat

/-- What a node is at a reading of its clock. -/
structure OnLedger (ledger : Ledger) (nodeId : U8) (clock : ℤ) (f : Fg23Network) : Prop where
  consistent : f.network.Consistent (Fg23Network.config nodeId)
  coordinating : f.network.role = .coordinator → f.scheduleSynchronized = true
  origin : f.scheduleSynchronized = true → ledger f.network.view = some f.network.scheduleOriginUs
  slot : f.scheduleSynchronized = true → f.network.OnSchedule f.nextAudioSlotUs ∨ (f.nextAudioSlotUs.toNat : ℤ) ≤ clock + 3000
  pending : f.heartbeatPending = true → f.network.role = .coordinator

/-- The origins are readings of a 32-bit clock. -/
def Ledger.Bounded (ledger : Ledger) : Prop := ∀ v o, ledger v = some o → o.toNat < 2 ^ 32

/-- A later ledger. -/
def Ledger.Extends (ledger ledger' : Ledger) : Prop := ∀ v o, ledger v = some o → ledger' v = some o

/-- The ledger with the office one more coordinator takes. -/
def Ledger.record (ledger : Ledger) (v : View) (o : U64) : Ledger := Function.update ledger v (some o)

theorem Ledger.record_self (ledger : Ledger) (v : View) (o : U64) : ledger.record v o v = some o :=
  Function.update_self _ _ _

theorem Ledger.extends_record {ledger : Ledger} {v : View} (h : ledger v = none) (o : U64) :
    ledger.Extends (ledger.record v o) := by
  intro w p hw
  have hne : w ≠ v := by
    rintro rfl
    rw [h] at hw
    cases hw
  rw [record, Function.update_of_ne hne]
  exact hw

theorem Ledger.of_record {ledger : Ledger} {v w : View} {o p : U64} (h : ledger.record v o w = some p) :
    w = v ∧ p = o ∨ ledger w = some p := by
  by_cases hw : w = v
  · subst hw
    rw [record_self, Option.some.injEq] at h
    exact .inl ⟨rfl, h.symm⟩
  · rw [record, Function.update_of_ne hw] at h
    exact .inr h

theorem Ledger.Bounded.record {ledger : Ledger} (h : ledger.Bounded) (v : View) {o : U64} (ho : o.toNat < 2 ^ 32) :
    (ledger.record v o).Bounded := by
  intro w p hp
  rcases of_record hp with ⟨-, rfl⟩ | hp
  · exact ho
  · exact h w p hp

/-! ### The parts of a call -/

section
variable {ledger : Ledger} {nodeId : U8} {clock : ℤ} {f : Fg23Network}

theorem lead_toNat : (scheduleLeadUs : U64).toNat = 3000 := rfl

theorem radioReading_toNat {offset t : ℤ} (hlow : 0 ≤ t + offset) (hhigh : t + offset < 2 ^ 32) :
    (((radioReading offset t).setWidth 64).toNat : ℤ) = t + offset := by
  rw [toNat_setWidth_64, radioReading, BitVec.toNat_ofInt]
  omega

theorem lead_add {x : U32} : (x.setWidth 64 + scheduleLeadUs).toNat = x.toNat + 3000 := by
  have hlt := x.isLt
  rw [BitVec.toNat_add, toNat_setWidth_64, lead_toNat, Nat.mod_eq_of_lt (by omega)]

/-- A slot that is computed anew lies on the schedule. -/
theorem onSchedule_audioSlotUs {s : NetworkState} (hs : s.Consistent (Fg23Network.config nodeId))
    (ho : s.scheduleOriginUs.toNat < 2 ^ 32) (x : U32) :
    s.OnSchedule (s.audioSlotUs (x.setWidth 64 + scheduleLeadUs)) := by
  have hx := x.isLt
  have hsuperframe : s.config.superframeUs.toNat = 20000 := by rw [hs.config_eq]; rfl
  have hnext := Slots.next_at (s.scheduleOriginUs.toNat + s.config.audioOffsetUs.toNat) 20000 (x.toNat + 3000)
  rw [NetworkState.OnSchedule, NetworkState.audioSlotUs, nextPeriodicSlot_toNat (by omega) (by rw [lead_add]; omega), lead_add, hsuperframe]
  exact_mod_cast hnext

theorem OnLedger.later (h : OnLedger ledger nodeId clock f) {clock' : ℤ} (hle : clock ≤ clock') :
    OnLedger ledger nodeId clock' f where
  consistent := h.consistent
  coordinating := h.coordinating
  origin := h.origin
  slot hs := (h.slot hs).imp_right fun hslot => by omega
  pending := h.pending

theorem OnLedger.extend (h : OnLedger ledger nodeId clock f) {ledger' : Ledger} (he : ledger.Extends ledger') :
    OnLedger ledger' nodeId clock f where
  consistent := h.consistent
  coordinating := h.coordinating
  origin hs := he _ _ (h.origin hs)
  slot := h.slot
  pending := h.pending

theorem OnLedger.undisturbed (h : OnLedger ledger nodeId clock f) {f' : Fg23Network}
    (hf : Fg23Network.Undisturbed f f') : OnLedger ledger nodeId clock f' := by
  obtain ⟨⟨rx, hrx⟩, hsync, hpending, haudio, -⟩ := hf
  constructor
  · rw [hrx]
    exact ⟨h.consistent.config_eq, h.consistent.eligible, h.consistent.member, h.consistent.role⟩
  · rw [hrx, hsync]
    exact h.coordinating
  · rw [hrx, hsync]
    exact h.origin
  · rw [hrx, hsync, haudio]
    exact h.slot
  · rw [hrx, hpending]
    exact h.pending

/-- A packet is processed while no heartbeat of the node's own is pending, or brings no news. -/
theorem OnLedger.hear (h : OnLedger ledger nodeId clock f) (hb : ledger.Bounded) {held : HeldPacket}
    (ha : ∀ a, f.accepted held = some a → ledger a.view = some a.scheduleOriginUs)
    (hquiet : f.heartbeatPending = true → f.accepted held = none) :
    OnLedger ledger nodeId clock (f.processPacket held) ∧ f.network.view ≤ (f.processPacket held).network.view := by
  have hcase := f.processPacket_processed held
  generalize f.processPacket held = f' at hcase ⊢
  cases hcase with
  | undisturbed f' _ hf =>
    refine ⟨h.undisturbed hf, ?_⟩
    obtain ⟨rx, hrx⟩ := hf.network
    rw [hrx]
    exact le_refl f.network.view
  | heard a packets hacc hne =>
    obtain ⟨hm, hle⟩ := NetworkState.accepts_iff.1 (Option.filter_eq_some_iff.1 hacc).2
    rw [h.consistent.config_eq] at hm
    have hconsistent := h.consistent.follow hm a.coordinatorEpoch a.scheduleOriginUs (held.heardUs.setWidth 64)
    have hrole : (f.network.follow a.coordinatorId a.coordinatorEpoch a.scheduleOriginUs
        (held.heardUs.setWidth 64)).role ≠ .coordinator := mt roleUnder_eq_coordinator.1 hne
    refine ⟨?_, hle⟩
    constructor
    · exact hconsistent
    · exact fun hr => absurd hr hrole
    · exact fun _ => ha a hacc
    · intro _
      have hbound : a.scheduleOriginUs.toNat < 2 ^ 32 := hb _ _ (ha a hacc)
      have hslot := onSchedule_audioSlotUs hconsistent hbound held.slotUs
      dsimp only
      exact .inl hslot
    · intro hp
      rw [hquiet hp] at hacc
      cases hacc

/-- A tick records the office the node takes, if it takes one. -/
theorem OnLedger.tick (h : OnLedger ledger nodeId clock f) {now : U64} (hnow : (now.toNat : ℤ) = clock)
    (hlead : (now + scheduleLeadUs).toNat = now.toNat + 3000)
    (hlast : ¬ f.network.ElectsAtLastEpoch (.tick now))
    (hdue : f.BecomesCoordinator now → f.nextAudioSlotUs ≤ now + scheduleLeadUs)
    (hfresh : ∀ v, v.coordinatorId = nodeId → f.network.view < v → ledger v = none) :
    (OnLedger ledger nodeId clock (f.tick now).1 ∨
      (f.tick now).1.network.view.coordinatorId = nodeId ∧ ledger (f.tick now).1.network.view = none ∧
        OnLedger (ledger.record (f.tick now).1.network.view now) nodeId clock (f.tick now).1) ∧
      f.network.view ≤ (f.tick now).1.network.view := by
  have hnetwork := (f.tick_network now).1
  have hview : f.network.view ≤ (f.tick now).1.network.view := by
    rw [hnetwork]
    exact NetworkState.view_le_tick hlast
  have hconsistent : (f.tick now).1.network.Consistent (Fg23Network.config nodeId) := by
    rw [hnetwork]
    exact h.consistent.tick now
  have hoffice : f.network.role ≠ .coordinator → (f.tick now).1.network.role = .coordinator →
      f.nextAudioSlotUs ≤ now + scheduleLeadUs := fun hbefore hafter => hdue ⟨hbefore, hnetwork ▸ hafter⟩
  refine ⟨?_, hview⟩
  have hcase := f.tick_ticked now
  generalize (f.tick now).1 = f' at hcase hview hconsistent hoffice ⊢
  cases hcase with
  | idle => exact .inl h
  | beat next hrole => exact .inl ⟨hconsistent, h.coordinating, h.origin, h.slot, fun _ => hrole⟩
  | silenced hrole =>
    refine .inl ⟨hconsistent, nofun, nofun, nofun, fun hp => ?_⟩
    have hcoordinator := h.pending hp
    rw [hrole] at hcoordinator
    cases hcoordinator
  | elected voter hrole hvoter hm =>
    have hconfig : voter.config = Fg23Network.config nodeId := by
      rcases hvoter with rfl | rfl <;> exact h.consistent.config_eq
    have hpending : f.heartbeatPending = false := Bool.eq_false_iff.2 fun hp => hrole (h.pending hp)
    by_cases he : electLowestMember voter.eligibleMask = voter.config.nodeId
    · have hnew : (voter.install (electLowestMember voter.eligibleMask) now).role = .coordinator :=
        roleUnder_eq_coordinator.2 he
      have hid : electLowestMember voter.eligibleMask = nodeId := by
        rw [he, hconfig]
        rfl
      have hne : f.network.view ≠ (voter.install (electLowestMember voter.eligibleMask) now).view := by
        intro heq
        have hepoch : f.network.coordinatorEpoch = voter.coordinatorEpoch + 1 := congrArg View.epoch heq
        have hsame : voter.coordinatorEpoch = f.network.coordinatorEpoch := by rcases hvoter with rfl | rfl <;> rfl
        rw [hsame] at hepoch
        bv_omega
      refine .inr ⟨hid, hfresh _ hid (lt_of_le_of_ne hview hne), hconsistent, ?_, ?_, ?_, ?_⟩
      · exact fun _ => decide_eq_true he
      · exact fun _ => Ledger.record_self _ _ _
      · have hslot := hoffice hrole hnew
        rw [BitVec.le_def, hlead] at hslot
        intro _
        right
        dsimp only
        omega
      · exact fun _ => hnew
    · have hother : (voter.install (electLowestMember voter.eligibleMask) now).role ≠ .coordinator :=
        mt roleUnder_eq_coordinator.1 he
      have hunsynchronized : decide (electLowestMember voter.eligibleMask = voter.config.nodeId) ≠ true := by
        simpa using he
      refine .inl ⟨hconsistent, fun hc => absurd hc hother, fun hs => absurd hs hunsynchronized,
        fun hs => absurd hs hunsynchronized, fun hp => ?_⟩
      dsimp only at hp
      rw [hpending, Bool.or_false] at hp
      exact absurd hp hunsynchronized

/-- The slots that are too close are moved on along the schedule. -/
theorem OnLedger.advance {x : U32} (h : OnLedger ledger nodeId x.toNat f) (hb : ledger.Bounded)
    (hs : f.scheduleSynchronized = true) :
    OnLedger ledger nodeId x.toNat (f.advanceSlots (x.setWidth 64)) ∧
      f.network.OnSchedule (f.advanceSlots (x.setWidth 64)).nextAudioSlotUs := by
  have hslot : f.network.OnSchedule (f.advanceSlots (x.setWidth 64)).nextAudioSlotUs := by
    unfold Fg23Network.advanceSlots
    dsimp only
    split
    · exact onSchedule_audioSlotUs h.consistent (hb _ _ (h.origin hs)) x
    · next hlate =>
      rw [BitVec.le_def, lead_add] at hlate
      exact (h.slot hs).resolve_right fun hold => by omega
  exact ⟨⟨h.consistent, h.coordinating, h.origin, fun _ => .inl hslot, h.pending⟩, hslot⟩

/-- The heartbeat in a packet, with its sender. -/
def announced (packet : NetworkPacket) : Option Announcement :=
  (parsePacket packet.bytes).bind fun header =>
    (parseHeartbeat packet.bytes).map fun heartbeat =>
      ⟨header.sourceId, heartbeat.coordinatorEpoch, heartbeat.scheduleOriginUs⟩

theorem announced_buildPacket {heartbeat : Bool} {scheduledUs : U64} {packet : NetworkPacket}
    (hb : (f.buildPacket heartbeat scheduledUs).2 = some packet) :
    announced packet = if heartbeat then
      some ⟨f.network.config.nodeId, f.network.coordinatorEpoch, f.network.scheduleOriginUs⟩ else none := by
  cases heartbeat with
  | true =>
    obtain ⟨hheartbeat, hheader⟩ := parseHeartbeat_build hb
    rw [announced, hheader, Option.bind_some, hheartbeat]
    rfl
  | false =>
    obtain ⟨hheader, -⟩ := parse_build (.inl rfl) hb
    have hkind : (networkHeader kindAudioFrame f.network.config.nodeId (f.audioSequence + 1) scheduledUs).kind ≠
        kindHeartbeat := (by decide : kindAudioFrame ≠ kindHeartbeat)
    rw [announced, hheader, Option.bind_some, Fg23Network.parseHeartbeat_of_kind_ne hheader hkind]
    rfl

/-- An accepted heartbeat is the one in the packet. -/
theorem announced_of_accepted {packet : NetworkPacket} {heardUs slotUs : U32} {a : Announcement}
    (ha : f.accepted ⟨some packet.bytes, heardUs, slotUs⟩ = some a) : announced packet = some a := by
  have hheld := (Option.filter_eq_some_iff.1 ha).1
  rw [Fg23Network.heldHeartbeat, Option.bind_some] at hheld
  rw [announced]
  cases hp : parsePacket packet.bytes with
  | none =>
    rw [hp] at hheld
    cases hheld
  | some header =>
    rw [hp, Option.bind_some] at hheld
    split at hheld
    · cases hheld
    · exact hheld

/-- What a node hands to its radio: a heartbeat of its own office, or a voice packet in its slot. -/
structure Handover (ledger : Ledger) (f : Fg23Network) (tx : ScheduledTx) : Prop where
  announced : ∀ a, announced tx.packet = some a → ledger a.view = some a.scheduleOriginUs
  voice : tx.heartbeat = false → ∃ o, ledger f.network.view = some o ∧
    Slots.At 20000 (o.toNat + f.network.config.audioOffsetUs.toNat) tx.whenUs.toNat

theorem OnLedger.choose (h : OnLedger ledger nodeId clock f) (hs : f.scheduleSynchronized = true)
    (hslot : f.network.OnSchedule f.nextAudioSlotUs) (hwrap : f.nextAudioSlotUs.toNat < 2 ^ 32) (input : RadioInput) :
    OnLedger ledger nodeId clock (f.scheduleNext input).1 ∧
      ∀ tx, (f.scheduleNext input).2 = some tx → Handover ledger (f.scheduleNext input).1 tx := by
  have hcase := f.scheduleNext_chosen input
  generalize f.scheduleNext input = r at hcase ⊢
  cases hcase with
  | nothing f' hf => exact ⟨h.undisturbed hf, nofun⟩
  | heartbeat g packet next hpending hg hbuilt =>
    have hon := h.undisturbed hg
    refine ⟨⟨hon.consistent, hon.coordinating, hon.origin, hon.slot, nofun⟩, ?_⟩
    rintro tx ⟨rfl⟩
    refine ⟨fun a ha => ?_, nofun⟩
    have hcoordinator : f.network.coordinatorId = f.network.config.nodeId := by
      have hrole := h.pending hpending
      have hunder := h.consistent.role (by simp [hrole])
      rw [hrole] at hunder
      rw [h.consistent.config_eq]
      exact roleUnder_eq_coordinator.1 hunder.symm
    rw [announced_buildPacket hbuilt, if_pos rfl, Option.some.injEq] at ha
    subst ha
    rw [← hcoordinator]
    exact h.origin hs
  | audio g packet hg hbuilt =>
    have hon := h.undisturbed hg
    have hsuperframe : (f.network.config.superframeUs.setWidth 64).toNat = 20000 := by
      rw [h.consistent.config_eq]
      rfl
    have hnext : (f.nextAudioSlotUs + f.network.config.superframeUs.setWidth 64).toNat =
        f.nextAudioSlotUs.toNat + 20000 := by
      rw [BitVec.toNat_add, hsuperframe, Nat.mod_eq_of_lt (by omega)]
    have hlater : f.network.OnSchedule (f.nextAudioSlotUs + f.network.config.superframeUs.setWidth 64) := by
      rw [NetworkState.OnSchedule, hnext]
      exact_mod_cast hslot.next
    obtain ⟨rx, hrx⟩ := hg.network
    have hnetwork : g.network.OnSchedule = f.network.OnSchedule := by
      rw [hrx]
      rfl
    have hview : g.network.view = f.network.view := by
      rw [hrx]
      rfl
    have hconfig : g.network.config = f.network.config := by rw [hrx]
    refine ⟨⟨hon.consistent, hon.coordinating, hon.origin, fun _ => .inl ?_, hon.pending⟩, ?_⟩
    · dsimp only
      rw [hnetwork]
      exact hlater
    · rintro tx ⟨rfl⟩
      refine ⟨fun a ha => ?_, fun _ => ⟨f.network.scheduleOriginUs, ?_, ?_⟩⟩
      · rw [announced_buildPacket hbuilt] at ha
        cases ha
      · rw [hview]
        exact h.origin hs
      · have hwhen : (f.nextAudioSlotUs.setWidth 32).toNat = f.nextAudioSlotUs.toNat := by
          rw [BitVec.toNat_setWidth, Nat.mod_eq_of_lt hwrap]
        dsimp only
        rw [hwhen, hconfig]
        exact hslot

theorem advanceSlots_undisturbed {f' : Fg23Network} (hf : Fg23Network.Undisturbed f f') (nowUs : U64) :
    (f'.advanceSlots nowUs).nextAudioSlotUs = (f.advanceSlots nowUs).nextAudioSlotUs := by
  obtain ⟨⟨rx, hrx⟩, -, -, haudio, -⟩ := hf
  unfold Fg23Network.advanceSlots
  dsimp only
  rw [hrx, haudio]
  rfl

/-- What follows the tick in a call. -/
theorem OnLedger.finish {input : RadioInput} (hheld : input.held = [])
    (h : OnLedger ledger nodeId input.nowUs.toNat (f.tick (input.nowUs.setWidth 64)).1) (hb : ledger.Bounded)
    (hwrap : ((f.tick (input.nowUs.setWidth 64)).1.advanceSlots (input.nowUs.setWidth 64)).nextAudioSlotUs.toNat <
      2 ^ 32) :
    OnLedger ledger nodeId input.nowUs.toNat (f.process input).1 ∧
      ∀ tx, (f.process input).2.scheduled = some tx → Handover ledger (f.process input).1 tx := by
  unfold Fg23Network.process
  rw [hheld]
  dsimp only [Fg23Network.processRx, List.foldl_nil]
  have hended := (f.tick (input.nowUs.setWidth 64)).1.endTx_undisturbed input.ended
  rw [← advanceSlots_undisturbed hended] at hwrap
  have hon := h.undisturbed hended
  generalize (f.tick (input.nowUs.setWidth 64)).1.endTx input.ended = g at hwrap hon ⊢
  split
  · exact ⟨hon, nofun⟩
  · next hready =>
    have hs : g.scheduleSynchronized = true := by
      by_contra hs
      exact hready (by simp [hs])
    obtain ⟨hadvanced, hslot⟩ := hon.advance hb hs
    exact hadvanced.choose hs hslot hwrap input

/-- One turn: the ledger gains at most the office the node takes. -/
theorem OnLedger.turn (h : OnLedger ledger nodeId clock f) (input : RadioInput) (hheld : input.held = [])
    (hb : ledger.Bounded) (hclock : clock ≤ input.nowUs.toNat)
    (hlast : ¬ f.network.ElectsAtLastEpoch (.tick (input.nowUs.setWidth 64)))
    (hdue : f.BecomesCoordinator (input.nowUs.setWidth 64) →
      f.nextAudioSlotUs ≤ input.nowUs.setWidth 64 + scheduleLeadUs)
    (hfresh : ∀ v, v.coordinatorId = nodeId → f.network.view < v → ledger v = none)
    (hwrap : ((f.tick (input.nowUs.setWidth 64)).1.advanceSlots (input.nowUs.setWidth 64)).nextAudioSlotUs.toNat <
      2 ^ 32) :
    ∃ ledger', ledger.Extends ledger' ∧ Ledger.Bounded ledger' ∧
      (∀ v o, ledger' v = some o → ledger v = some o ∨
        v.coordinatorId = nodeId ∧ v = (f.process input).1.network.view) ∧
      f.network.view ≤ (f.process input).1.network.view ∧
      OnLedger ledger' nodeId input.nowUs.toNat (f.process input).1 ∧
      ∀ tx, (f.process input).2.scheduled = some tx → Handover ledger' (f.process input).1 tx := by
  have hnetwork : (f.process input).1.network = (f.tick (input.nowUs.setWidth 64)).1.network := by
    rw [(f.process_network input).1, hheld, (f.tick_network (input.nowUs.setWidth 64)).1]
    rfl
  obtain ⟨hstay | ⟨hid, hnone, htake⟩, hview⟩ := (h.later hclock).tick (by rw [toNat_setWidth_64])
    (by rw [lead_add, toNat_setWidth_64]) hlast hdue hfresh
  · rw [← hnetwork] at hview
    exact ⟨ledger, fun _ _ hv => hv, hb, fun _ _ hv => .inl hv, hview, hstay.finish hheld hb hwrap⟩
  · rw [← hnetwork] at hid hnone hview htake
    have hbound : (input.nowUs.setWidth 64).toNat < 2 ^ 32 := by
      rw [toNat_setWidth_64]
      exact input.nowUs.isLt
    refine ⟨ledger.record (f.process input).1.network.view (input.nowUs.setWidth 64), Ledger.extends_record hnone _,
      hb.record _ hbound, fun v o hv => ?_, hview, htake.finish hheld (hb.record _ hbound) hwrap⟩
    rcases Ledger.of_record hv with ⟨rfl, -⟩ | hold
    · exact .inr ⟨hid, rfl⟩
    · exact .inl hold

end

/-! ## The nodes on the air -/

section
variable {ids : Fin n → U8} {offsets : Fin n → ℤ} {ledger : Ledger} {s : AirSystem n}

/-- Where a node's voice slots lie on the true time, from an origin of the schedule on. -/
def airPlace (ids : Fin n → U8) (offsets : Fin n → ℤ) (i : Fin n) : ℤ :=
  (Fg23Network.config (ids i)).audioOffsetUs.toNat - offsets i

/-- The offsets leave every two nodes' voice slots a slot apart, within the frame and across its end. -/
def OffsetsFit (ids : Fin n → U8) (offsets : Fin n → ℤ) : Prop :=
  ∀ i j, i ≠ j → 2500 ≤ (airPlace ids offsets i - airPlace ids offsets j) % 20000 ∧
    (airPlace ids offsets i - airPlace ids offsets j) % 20000 ≤ 17500

instance (ids : Fin n → U8) (offsets : Fin n → ℤ) : Decidable (OffsetsFit ids offsets) :=
  inferInstanceAs (Decidable (∀ _, _))

/-- Everybody's schedule, and everything on the air, is the ledger's. -/
structure OnAir (ids : Fin n → U8) (offsets : Fin n → ℤ) (ledger : Ledger) (s : AirSystem n) : Prop where
  node : ∀ i, OnLedger ledger (ids i) (s.timeUs + offsets i) (s.nodes i)
  bounded : ledger.Bounded
  office : ∀ v o, ledger v = some o → ∃ k, v.coordinatorId = ids k ∧ v ≤ (s.nodes k).network.view
  air : ∀ packet ∈ s.air, ∀ a, announced packet = some a → ledger a.view = some a.scheduleOriginUs
  voice : ∀ slot ∈ s.voice, ∃ o, ledger slot.view = some o ∧
    Slots.At 20000 (o.toNat + airPlace ids offsets slot.node) slot.startUs

theorem OnAir.setNode (h : OnAir ids offsets ledger s) {ledger' : Ledger} {i : Fin n} {f : Fg23Network} {t : ℤ}
    (hext : ledger.Extends ledger') (hb : ledger'.Bounded)
    (hnew : ∀ v o, ledger' v = some o → ledger v = some o ∨ v.coordinatorId = ids i ∧ v = f.network.view)
    (hview : (s.nodes i).network.view ≤ f.network.view) (ht : s.timeUs ≤ t)
    (hf : OnLedger ledger' (ids i) (t + offsets i) f) : OnAir ids offsets ledger' (s.setNode i f t) where
  node j := by
    by_cases hj : j = i
    · subst hj
      rw [s.setNode_nodes]
      exact hf
    · rw [s.setNode_nodes_of_ne hj]
      exact ((h.node j).extend hext).later (add_le_add_left ht (offsets j))
  bounded := hb
  office v o hv := by
    -- the views of the nodes only grow
    have hgrow : ∀ k, (s.nodes k).network.view ≤ ((s.setNode i f t).nodes k).network.view := by
      intro k
      by_cases hk : k = i
      · subst hk
        rw [s.setNode_nodes]
        exact hview
      · rw [s.setNode_nodes_of_ne hk]
    rcases hnew v o hv with hold | ⟨hid, rfl⟩
    · obtain ⟨k, hid, hle⟩ := h.office v o hold
      exact ⟨k, hid, hle.trans (hgrow k)⟩
    · exact ⟨i, hid, by rw [s.setNode_nodes]⟩
  air packet hp a ha := hext _ _ (h.air packet hp a ha)
  voice slot hslot := by
    obtain ⟨o, ho, hat⟩ := h.voice slot hslot
    exact ⟨o, hext _ _ ho, hat⟩

theorem OnAir.send (h : OnAir ids offsets ledger s) {i : Fin n} {tx : Option ScheduledTx}
    (htx : ∀ x, tx = some x → Handover ledger (s.nodes i) x) :
    OnAir ids offsets ledger (s.send offsets i (s.nodes i).network.view tx) := by
  cases tx with
  | none => exact h
  | some tx =>
    obtain ⟨hannounced, hvoice⟩ := htx tx rfl
    refine ⟨h.node, h.bounded, h.office, fun packet hp => ?_, fun slot hslot => ?_⟩
    · rcases List.mem_append.1 hp with hold | hnew
      · exact h.air packet hold
      · rw [List.mem_singleton.1 hnew]
        exact hannounced
    · rcases List.mem_append.1 hslot with hold | hnew
      · exact h.voice slot hold
      · unfold AirSystem.slotOf at hnew
        split at hnew
        · cases hnew
        · next hheartbeat =>
          obtain ⟨o, ho, hat⟩ := hvoice (Bool.eq_false_iff.2 hheartbeat)
          rw [List.mem_singleton.1 hnew]
          refine ⟨o, ho, ?_⟩
          rw [(h.node i).consistent.config_eq] at hat
          have hshift := hat.sub (offsets i)
          rw [add_sub_assoc] at hshift
          exact hshift

/-- A coordinator's next office is not in the ledger. -/
theorem OnAir.fresh (h : OnAir ids offsets ledger s) (hids : Function.Injective ids) (i : Fin n) (v : View)
    (hid : v.coordinatorId = ids i) (hlt : (s.nodes i).network.view < v) : ledger v = none := by
  cases hv : ledger v with
  | none => rfl
  | some o =>
    obtain ⟨k, hk, hle⟩ := h.office v o hv
    obtain rfl : i = k := hids (hid.symm.trans hk)
    exact absurd hle (not_le_of_gt hlt)

/-- **Step.** Every event keeps everybody on one ledger. -/
theorem OnAir.step (hids : Function.Injective ids) (h : OnAir ids offsets ledger s) {e : AirEvent n}
    (htimely : s.Timely offsets e) (horderly : s.Orderly offsets e) :
    ∃ ledger', OnAir ids offsets ledger' (s.step offsets e) := by
  cases e with
  | hear i packet heardAt slotAt =>
    obtain ⟨hheard, hslot, -, -⟩ := htimely
    have haccepted : ∀ a, (s.nodes i).accepted (s.held offsets i packet heardAt slotAt) = some a →
        ledger a.view = some a.scheduleOriginUs := by
      intro a ha
      cases hp : s.air[packet]? with
      | none => simp [AirSystem.held, hp, Fg23Network.accepted, Fg23Network.heldHeartbeat] at ha
      | some sent =>
        rw [AirSystem.held, hp] at ha
        exact h.air sent (List.mem_of_getElem? hp) a (announced_of_accepted ha)
    obtain ⟨hnode, hview⟩ := ((h.node i).later (add_le_add_left (hheard.trans hslot) (offsets i))).hear h.bounded
      haccepted horderly
    exact ⟨ledger, h.setNode (fun _ _ hv => hv) h.bounded (fun _ _ hv => .inl hv) hview (hheard.trans hslot) hnode⟩
  | turn i nowAt ended started fifoWritten txAccepted =>
    obtain ⟨hnow, hlow, hhigh, hwrap⟩ := htimely
    obtain ⟨hlast, hdue⟩ := horderly
    have hreading := radioReading_toNat hlow hhigh
    rw [toNat_setWidth_64] at hreading
    have hclock : s.timeUs + offsets i ≤ (radioReading (offsets i) nowAt).toNat := by omega
    obtain ⟨ledger', hext, hb, hnew, hview, hnode, htx⟩ := (h.node i).turn
      (AirSystem.input offsets i nowAt ended started fifoWritten txAccepted) rfl h.bounded hclock hlast hdue
      (h.fresh hids i) hwrap
    have hclocked : (((AirSystem.input offsets i nowAt ended started fifoWritten txAccepted).nowUs.toNat : Nat) : ℤ) =
        nowAt + offsets i := hreading
    rw [hclocked] at hnode
    have hset := h.setNode hext hb hnew hview hnow hnode
    have hself := s.setNode_nodes i ((s.nodes i).process
      (AirSystem.input offsets i nowAt ended started fifoWritten txAccepted)).1 nowAt
    rw [← hself] at htx
    have hsent := hset.send htx
    rw [hself] at hsent
    exact ⟨ledger', hsent⟩

/-- A configured node, for a ledger in which member 1 gave its origin. -/
theorem configure_onLedger (ledger : Ledger) {nodeId : U8} {nowUs : U32} {f : Fg23Network}
    (h : Fg23Network.configure nodeId nowUs = some f)
    (hledger : nodeId = 1 → ledger ⟨0, 1⟩ = some f.network.scheduleOriginUs) (clock : ℤ) :
    OnLedger ledger nodeId clock f ∧ f.network.view = ⟨0, 1⟩ ∧ f.network.scheduleOriginUs.toNat < 2 ^ 32 := by
  obtain ⟨network, hinit, rfl⟩ := Option.map_eq_some_iff.1 h
  have hconsistent := NetworkState.init_consistent hinit
  have hv := NetworkState.valid_of_init hinit
  rw [NetworkState.init, if_pos hv, Option.some.injEq] at hinit
  subst hinit
  have hbound : (nowUs.setWidth 64).toNat < 2 ^ 32 := by
    rw [toNat_setWidth_64]
    exact nowUs.isLt
  refine ⟨⟨hconsistent, fun hr => decide_eq_true hr, fun hs => ?_, fun _ => .inl ?_, fun hp => ?_⟩, rfl, hbound⟩
  · have hone : (1 : U8) = nodeId := roleUnder_eq_coordinator.1 (of_decide_eq_true hs)
    exact hledger hone.symm
  · dsimp only
    exact onSchedule_audioSlotUs hconsistent hbound nowUs
  · cases hp

/-- When all nodes are configured, the ledger knows member 1's origin, if there is a member 1. -/
theorem start_onAir (hids : Function.Injective ids) {nodes : Fin n → Fg23Network} {startAt : Fin n → ℤ}
    (hstart : ∀ i, Fg23Network.configure (ids i) (radioReading (offsets i) (startAt i)) = some (nodes i)) (t : ℤ) :
    ∃ ledger, OnAir ids offsets ledger ⟨nodes, [], [], t⟩ := by
  by_cases hone : ∃ k, ids k = 1
  · obtain ⟨k, hk⟩ := hone
    have hempty : Ledger.Bounded fun _ => none := by
      intro v o hv
      cases hv
    have hnode := fun i => configure_onLedger
      (Ledger.record (fun _ => none) ⟨0, 1⟩ (nodes k).network.scheduleOriginUs) (hstart i)
      (fun hi => by
        obtain rfl : i = k := hids (hi.trans hk.symm)
        exact Ledger.record_self _ _ _) (t + offsets i)
    refine ⟨_, fun i => (hnode i).1, hempty.record _ (hnode k).2.2, fun v o hv => ?_, nofun, nofun⟩
    rcases Ledger.of_record hv with ⟨rfl, -⟩ | hv
    · exact ⟨k, hk.symm, (hnode k).2.1.ge⟩
    · cases hv
  · refine ⟨fun _ => none, fun i => ?_, nofun, nofun, nofun, nofun⟩
    exact (configure_onLedger _ (hstart i) (fun hi => absurd ⟨i, hi⟩ hone) _).1

end

open AirSystem in
/-- **Voice slots stay apart.** The nodes are configured at any times and run in any order, any packet reaches any
node at any time, and the offsets fit. As long as the run is orderly, the voice slots that two nodes came to under
one view do not overlap. -/
theorem voice_slots_apart {ids : Fin n → U8} (hids : Function.Injective ids) {offsets : Fin n → ℤ}
    (hoffsets : OffsetsFit ids offsets) {nodes : Fin n → Fg23Network} {startAt : Fin n → ℤ}
    (hstart : ∀ i, Fg23Network.configure (ids i) (radioReading (offsets i) (startAt i)) = some (nodes i)) (t : ℤ)
    (events : List (AirEvent n)) (htimely : Run.Along (step offsets) (Timely offsets) ⟨nodes, [], [], t⟩ events)
    (horderly : Run.Along (step offsets) (Orderly offsets) ⟨nodes, [], [], t⟩ events) :
    ∀ a ∈ (events.foldl (step offsets) ⟨nodes, [], [], t⟩).voice,
      ∀ b ∈ (events.foldl (step offsets) ⟨nodes, [], [], t⟩).voice,
        a.node ≠ b.node → a.view = b.view → Slots.Apart 2500 a.startUs b.startUs := by
  obtain ⟨ledger, h⟩ := Run.inv_along (P := fun s => ∃ ledger, OnAir ids offsets ledger s)
    (fun s e ⟨ledger, hs⟩ hc => hs.step hids hc.1 hc.2) _ events (start_onAir hids hstart t)
    (Run.along_and.2 ⟨htimely, horderly⟩)
  intro a ha b hb hne hview
  obtain ⟨o, ho, hat⟩ := h.voice a ha
  obtain ⟨p, hp, hbt⟩ := h.voice b hb
  rw [hview, hp, Option.some.injEq] at ho
  subst ho
  have hfit := hoffsets a.node b.node hne
  rw [← add_sub_add_left_eq_sub _ _ (p.toNat : ℤ)] at hfit
  exact (Slots.apart_iff (by decide) (by decide)).2 hfit _ _ hat hbt

/-- Two nodes on the air, with the ids 1 and 2. -/
def twoIds : Fin 2 → U8 := ![1, 2]

theorem twoIds_injective : Function.Injective twoIds := by
  intro i j
  revert i j
  decide

/-- Node 1 starts at 1 ms and node 2 at 1.5 ms. -/
def twoStarts : Fin 2 → ℤ := ![1000, 1500]

/-- Node 1 sends a heartbeat, node 2 hears it, and both schedule a voice packet. -/
def heartbeatThenVoice : List (AirEvent 2) := [
  .turn 0 101500 ⟨0, 0, 0, 0⟩ ⟨0, 0, 0, 0⟩ true true,
  .hear 1 0 117000 117000,
  .turn 1 117000 ⟨0, 0, 0, 0⟩ ⟨0, 0, 0, 0⟩ true true,
  .turn 0 118000 ⟨1, 0, 0, 0⟩ ⟨1, 0, 0, 0⟩ true true]

/-- Clocks whose offsets differ by two frames. -/
def wholeFrames : Fin 2 → ℤ := ![0, 40000]

/-- Clocks whose offsets differ by the spacing of the slots. -/
def oneSlot : Fin 2 → ℤ := ![0, 2500]

theorem two_start : (∀ i, (Fg23Network.configure (twoIds i) (radioReading (wholeFrames i) (twoStarts i))).isSome = true) ∧
    ∀ i, (Fg23Network.configure (twoIds i) (radioReading (oneSlot i) (twoStarts i))).isSome = true := by
  decide +kernel

/-- The two nodes on clocks two frames apart. -/
def framesApart (i : Fin 2) : Fg23Network :=
  (Fg23Network.configure (twoIds i) (radioReading (wholeFrames i) (twoStarts i))).get (two_start.1 i)

/-- The two nodes on clocks one slot apart. -/
def slotApart (i : Fin 2) : Fg23Network :=
  (Fg23Network.configure (twoIds i) (radioReading (oneSlot i) (twoStarts i))).get (two_start.2 i)

open AirSystem in
/-- Two frames between the clocks do no harm: the voice slots start at 123.5 ms and at 121 ms. -/
theorem apart_on_frames :
    (heartbeatThenVoice.foldl (step wholeFrames) ⟨framesApart, [], [], 2000⟩).voice =
      [⟨1, ⟨0, 1⟩, 123500⟩, ⟨0, ⟨0, 1⟩, 121000⟩] ∧ Slots.Apart 2500 123500 121000 := by
  have hvoice : (heartbeatThenVoice.foldl (step wholeFrames) ⟨framesApart, [], [], 2000⟩).voice =
      [⟨1, ⟨0, 1⟩, 123500⟩, ⟨0, ⟨0, 1⟩, 121000⟩] := by
    decide +kernel
  have hstart (i : Fin 2) : Fg23Network.configure (twoIds i) (radioReading (wholeFrames i) (twoStarts i)) =
      some (framesApart i) :=
    (Option.some_get (two_start.1 i)).symm
  have hapart := voice_slots_apart twoIds_injective (by decide : OffsetsFit twoIds wholeFrames) hstart 2000
    heartbeatThenVoice (by decide +kernel) (by decide +kernel)
  rw [hvoice] at hapart
  have hends := hapart ⟨1, ⟨0, 1⟩, 123500⟩ (by simp) ⟨0, ⟨0, 1⟩, 121000⟩ (by simp) (by decide) rfl
  exact ⟨hvoice, hends⟩

open AirSystem in
/-- One slot between the clocks: node 1 and node 2, both on member 1's schedule, start to talk at 121 ms. -/
theorem collide_one_slot :
    (∀ i, Fg23Network.configure (twoIds i) (radioReading (oneSlot i) (twoStarts i)) = some (slotApart i)) ∧
    Run.Along (step oneSlot) (Timely oneSlot) ⟨slotApart, [], [], 2000⟩ heartbeatThenVoice ∧
    Run.Along (step oneSlot) (Orderly oneSlot) ⟨slotApart, [], [], 2000⟩ heartbeatThenVoice ∧
    (heartbeatThenVoice.foldl (step oneSlot) ⟨slotApart, [], [], 2000⟩).voice =
      [⟨1, ⟨0, 1⟩, 121000⟩, ⟨0, ⟨0, 1⟩, 121000⟩] ∧
    ¬ Slots.Apart 2500 121000 121000 := by
  refine ⟨fun i => (Option.some_get (two_start.2 i)).symm, ?_, ?_, ?_, ?_⟩ <;> decide +kernel

end OpenRef.Network
