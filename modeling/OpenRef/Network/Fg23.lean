import OpenRef.Lib.Slots
import OpenRef.Network.View
import OpenRef.Packet.Network
/-!
# The FG23 network adapter (openref_network_fg23.c)

One call of `process` takes the packets the radio holds, ticks the network state at
the radio's 32-bit time, and schedules one transmission: a heartbeat that is due in
the control slot, or the audio frame of the node's own slot. What the radio library
answers during a call is the call's `RadioInput`. The reports on the serial line and
the calls that only set the radio up are left out.
-/

namespace OpenRef.Network

open OpenRef.Packet

/-- `OPENREF_NETWORK_MEMBER_MASK`. -/
def fg23MemberMask : U8 := 0x0f
/-- `OPENREF_NETWORK_SCHEDULE_LEAD_US`. -/
def scheduleLeadUs : U64 := 3000
/-- `OPENREF_NETWORK_CONTROL_SLOT_US`. -/
def controlSlotUs : U32 := 15000

/-- The radio's counters of ended transmissions. -/
structure TxCounters where
  userTx : U32
  userTxAborted : U32
  userTxBlocked : U32
  userTxUnderflow : U32
deriving DecidableEq, Repr

/-- `tx_completion_count` (:37-41). -/
def TxCounters.completionCount (c : TxCounters) : U32 :=
  c.userTx + c.userTxAborted + c.userTxBlocked + c.userTxUnderflow

/-- A packet the radio holds: its bytes, unless its status or its size is wrong (:74-79), and the radio's time
at the two places that ask for it (:102, :110). -/
structure HeldPacket where
  bytes : Option (List U8)
  heardUs : U32
  slotUs : U32
deriving DecidableEq, Repr

/-- What the radio answers during one call: the packets it holds, its time at the tick, its counters at the
end of a transmission and at the start of one, and whether the FIFO and the transmission were taken. -/
structure RadioInput where
  held : List HeldPacket
  nowUs : U32
  ended : TxCounters
  started : TxCounters
  fifoWritten : Bool
  txAccepted : Bool
deriving DecidableEq, Repr

/-- A transmission handed to the radio. -/
structure ScheduledTx where
  heartbeat : Bool
  whenUs : U32
  packet : NetworkPacket
deriving DecidableEq, Repr

/-- The static variables of a configured node (:21-35). -/
structure Fg23Network where
  network : NetworkState
  txPending : Bool
  heartbeatPending : Bool
  scheduleSynchronized : Bool
  audioSequence : U16
  heartbeatSequence : U16
  txCompletionSnapshot : U32
  txSuccessSnapshot : U32
  nextAudioSlotUs : U64
  nextControlSlotUs : U64
  rxPackets : U32
  parseFailures : U32
  scheduleFailures : U32

/-- `next_periodic_slot` (:43-55). -/
def nextPeriodicSlot (originUs : U64) (offsetUs periodUs : U32) (notBeforeUs : U64) : U64 :=
  let candidate := originUs + offsetUs.setWidth 64
  let period := periodUs.setWidth 64
  if candidate < notBeforeUs then
    candidate + (notBeforeUs - candidate + period - 1) / period * period
  else candidate

/-- On times of the radio, `nextPeriodicSlot` is the first slot from a time on. -/
theorem nextPeriodicSlot_toNat {originUs notBeforeUs : U64} {offsetUs periodUs : U32}
    (ho : originUs.toNat < 2 ^ 33) (hn : notBeforeUs.toNat < 2 ^ 33) :
    (nextPeriodicSlot originUs offsetUs periodUs notBeforeUs).toNat =
      Slots.next (originUs.toNat + offsetUs.toNat) periodUs.toNat notBeforeUs.toNat := by
  have hoffset := offsetUs.isLt
  have hperiod := periodUs.isLt
  have hcandidate : (originUs + offsetUs.setWidth 64).toNat = originUs.toNat + offsetUs.toNat := by
    rw [BitVec.toNat_add, toNat_setWidth_64, Nat.mod_eq_of_lt (by omega)]
  rw [← hcandidate, ← toNat_setWidth_64 periodUs]
  exact Slots.toNat_next (by rw [toNat_setWidth_64]; omega)

/-- `(node_id - 1u) * slot_spacing_us`. -/
def NetworkConfig.audioOffsetUs (config : NetworkConfig) : U32 :=
  (config.nodeId - 1).setWidth 32 * config.slotSpacingUs

namespace NetworkState

/-- The node's audio slot from a time on. -/
def audioSlotUs (s : NetworkState) (notBeforeUs : U64) : U64 :=
  nextPeriodicSlot s.scheduleOriginUs s.config.audioOffsetUs s.config.superframeUs notBeforeUs

/-- The control slot from a time on. -/
def controlSlotUs (s : NetworkState) (notBeforeUs : U64) : U64 :=
  nextPeriodicSlot s.scheduleOriginUs Network.controlSlotUs s.config.superframeUs notBeforeUs

end NetworkState

namespace Fg23Network

/-- The configuration of a node (:203-205). -/
def config (nodeId : U8) : NetworkConfig := { defaultConfig nodeId with memberMask := fg23MemberMask }

/-- The first call of `openref_network_fg23_process` (:202-238). -/
def configure (nodeId : U8) (nowUs : U32) : Option Fg23Network :=
  let now := nowUs.setWidth 64
  (NetworkState.init (config nodeId) now).map fun network => {
    network := network
    txPending := false
    heartbeatPending := false
    scheduleSynchronized := network.role = .coordinator
    audioSequence := 0
    heartbeatSequence := 0
    txCompletionSnapshot := 0
    txSuccessSnapshot := 0
    nextAudioSlotUs := network.audioSlotUs (now + scheduleLeadUs)
    nextControlSlotUs := network.controlSlotUs (now + scheduleLeadUs)
    rxPackets := 0
    parseFailures := 0
    scheduleFailures := 0 }

/-- A heartbeat of another node (:95-111). -/
def hearHeartbeat (f : Fg23Network) (sourceId : U8) (heartbeat : Heartbeat) (heardUs slotUs : U32) : Fg23Network :=
  let received := f.network.receiveHeartbeat sourceId heartbeat.coordinatorEpoch heartbeat.scheduleOriginUs
    (heardUs.setWidth 64)
  if received.2 then
    { f with
      network := received.1
      scheduleSynchronized := true
      nextAudioSlotUs := received.1.audioSlotUs (slotUs.setWidth 64 + scheduleLeadUs) }
  else { f with parseFailures := f.parseFailures + 1 }

/-- One packet of `process_rx` (:73-128). -/
def processPacket (f : Fg23Network) (held : HeldPacket) : Fg23Network :=
  match held.bytes.bind fun bytes => (parsePacket bytes).map fun header => (bytes, header) with
  | none => { f with parseFailures := f.parseFailures + 1 }
  | some (bytes, header) =>
    if header.sourceId = f.network.config.nodeId then f
    else
      let f := { f with rxPackets := f.rxPackets + 1 }
      if header.kind = kindHeartbeat then
        match parseHeartbeat bytes with
        | none => { f with parseFailures := f.parseFailures + 1 }
        | some heartbeat => f.hearHeartbeat header.sourceId heartbeat held.heardUs held.slotUs
      else if header.kind = kindAudioFrame then
        { f with
          network := (f.network.receiveAudioTimestamped header.sourceId header.sequence header.txTimestampUs).1 }
      else f

/-- `process_rx` (:63-142). -/
def processRx (f : Fg23Network) (held : List HeldPacket) : Fg23Network := held.foldl processPacket f

/-- The packet `schedule_packet` builds, and the counter it takes the sequence number from (:148-166). -/
def buildPacket (f : Fg23Network) (heartbeat : Bool) (scheduledUs : U64) : Fg23Network × Option NetworkPacket :=
  if heartbeat then
    let sequence := f.heartbeatSequence + 1
    ({ f with heartbeatSequence := sequence },
      buildHeartbeatPacket f.network.config.nodeId sequence scheduledUs
        ⟨f.network.coordinatorEpoch, f.network.scheduleOriginUs⟩)
  else
    let sequence := f.audioSequence + 1
    ({ f with audioSequence := sequence }, buildAudioPacket f.network.config.nodeId sequence scheduledUs)

/-- `schedule_packet` (:144-190). -/
def schedulePacket (f : Fg23Network) (heartbeat : Bool) (scheduledUs : U64) (input : RadioInput) :
    Fg23Network × Option ScheduledTx :=
  match f.buildPacket heartbeat scheduledUs with
  | (f, none) => ({ f with scheduleFailures := f.scheduleFailures + 1 }, none)
  | (f, some packet) =>
    if !input.fifoWritten then ({ f with scheduleFailures := f.scheduleFailures + 1 }, none)
    else
      let f := { f with
        txCompletionSnapshot := input.started.completionCount
        txSuccessSnapshot := input.started.userTx }
      if !input.txAccepted then ({ f with scheduleFailures := f.scheduleFailures + 1 }, none)
      else ({ f with txPending := true }, some ⟨heartbeat, scheduledUs.setWidth 32, packet⟩)

/-- The tick and what the adapter does with its actions (:242-251). -/
def tick (f : Fg23Network) (nowUs : U64) : Fg23Network × U32 :=
  let ticked := f.network.tick nowUs
  let f := { f with network := ticked.1 }
  let f := if ticked.2 &&& actionSendHeartbeat ≠ 0 then { f with heartbeatPending := true } else f
  let f := if ticked.2 &&& actionCoordinatorTimeout ≠ 0 then { f with scheduleSynchronized := false } else f
  let f :=
    if ticked.2 &&& actionCoordinatorChanged ≠ 0 then
      { f with scheduleSynchronized := f.network.role = .coordinator }
    else f
  (f, ticked.2)

/-- The end of the transmission that was pending, if it ended (:262-269). -/
def endTx (f : Fg23Network) (ended : TxCounters) : Fg23Network :=
  if f.txPending && f.txCompletionSnapshot < ended.completionCount then
    { f with
      txPending := false
      scheduleFailures :=
        if ended.userTx = f.txSuccessSnapshot then f.scheduleFailures + 1 else f.scheduleFailures }
  else f

/-- The slots that are too close are moved on (:278-291). -/
def advanceSlots (f : Fg23Network) (nowUs : U64) : Fg23Network :=
  { f with
    nextAudioSlotUs :=
      if f.nextAudioSlotUs ≤ nowUs + scheduleLeadUs then f.network.audioSlotUs (nowUs + scheduleLeadUs)
      else f.nextAudioSlotUs
    nextControlSlotUs :=
      if f.nextControlSlotUs ≤ nowUs + scheduleLeadUs then f.network.controlSlotUs (nowUs + scheduleLeadUs)
      else f.nextControlSlotUs }

/-- The next transmission (:293-300). -/
def scheduleNext (f : Fg23Network) (input : RadioInput) : Fg23Network × Option ScheduledTx :=
  let superframe := f.network.config.superframeUs.setWidth 64
  if f.heartbeatPending && f.nextControlSlotUs < f.nextAudioSlotUs then
    match f.schedulePacket true f.nextControlSlotUs input with
    | (f, none) => (f, none)
    | (f, some tx) =>
      ({ f with heartbeatPending := false, nextControlSlotUs := f.nextControlSlotUs + superframe }, some tx)
  else
    match f.schedulePacket false f.nextAudioSlotUs input with
    | (f, none) => (f, none)
    | (f, some tx) => ({ f with nextAudioSlotUs := f.nextAudioSlotUs + superframe }, some tx)

/-- What a call did beside the new state: the tick's actions and the transmission it scheduled. -/
structure Outcome where
  actions : U32
  scheduled : Option ScheduledTx
deriving DecidableEq, Repr

/-- `openref_network_fg23_process` on a configured node (:240-300). -/
def process (f : Fg23Network) (input : RadioInput) : Fg23Network × Outcome :=
  let now := input.nowUs.setWidth 64
  let ticked := (f.processRx input.held).tick now
  let f := ticked.1.endTx input.ended
  if f.txPending || !f.scheduleSynchronized then (f, ⟨ticked.2, none⟩)
  else
    let scheduled := (f.advanceSlots now).scheduleNext input
    (scheduled.1, ⟨ticked.2, scheduled.2⟩)

/-! ## What a call does to the network state -/

/-- The heartbeat of another node in a held packet. -/
def heldHeartbeat (f : Fg23Network) (held : HeldPacket) : Option Announcement :=
  held.bytes.bind fun bytes => (parsePacket bytes).bind fun header =>
    if header.sourceId = f.network.config.nodeId then none
    else (parseHeartbeat bytes).map fun heartbeat =>
      ⟨header.sourceId, heartbeat.coordinatorEpoch, heartbeat.scheduleOriginUs⟩

/-- The heartbeat of a held packet that is accepted. -/
def accepted (f : Fg23Network) (held : HeldPacket) : Option Announcement :=
  (f.heldHeartbeat held).filter fun a => f.network.accepts a.coordinatorId a.coordinatorEpoch

/-- A packet that brings no news of the coordinator changes counters and receive states only. -/
structure Undisturbed (f f' : Fg23Network) : Prop where
  network : ∃ rx, f'.network = { f.network with rx := rx }
  synchronized : f'.scheduleSynchronized = f.scheduleSynchronized
  pending : f'.heartbeatPending = f.heartbeatPending
  audioSlot : f'.nextAudioSlotUs = f.nextAudioSlotUs
  controlSlot : f'.nextControlSlotUs = f.nextControlSlotUs

theorem Undisturbed.refl (f : Fg23Network) : Undisturbed f f := ⟨⟨f.network.rx, rfl⟩, rfl, rfl, rfl, rfl⟩

/-- Everything a held packet can do. -/
inductive Processed (f : Fg23Network) (held : HeldPacket) : Fg23Network → Prop
  | undisturbed (f' : Fg23Network) : f.accepted held = none → Undisturbed f f' → Processed f held f'
  | heard (a : Announcement) (packets : U32) : f.accepted held = some a →
      a.coordinatorId ≠ f.network.config.nodeId →
      Processed f held { f with
        network := f.network.follow a.coordinatorId a.coordinatorEpoch a.scheduleOriginUs (held.heardUs.setWidth 64)
        scheduleSynchronized := true
        nextAudioSlotUs := (f.network.follow a.coordinatorId a.coordinatorEpoch a.scheduleOriginUs
          (held.heardUs.setWidth 64)).audioSlotUs (held.slotUs.setWidth 64 + scheduleLeadUs)
        rxPackets := packets }

theorem parseHeartbeat_of_kind_ne {bytes : List U8} {header : Header} (hp : Packet.parsePacket bytes = some header)
    (hk : header.kind ≠ kindHeartbeat) : parseHeartbeat bytes = none := by
  rw [parseHeartbeat, hp, Option.bind_some, if_neg hk]

theorem receiveAudio_rx (s : NetworkState) (sourceId : U8) (sequence : U16) (txTimestampUs : U64) :
    ∃ rx, (s.receiveAudioTimestamped sourceId sequence txTimestampUs).1 = { s with rx := rx } := by
  unfold NetworkState.receiveAudioTimestamped
  split
  · exact ⟨s.rx, rfl⟩
  · split
    · exact ⟨s.rx, rfl⟩
    · exact ⟨_, rfl⟩

theorem processPacket_processed (f : Fg23Network) (held : HeldPacket) : Processed f held (f.processPacket held) := by
  have hheld : ∀ bytes header, held.bytes = some bytes → Packet.parsePacket bytes = some header →
      header.sourceId ≠ f.network.config.nodeId →
      f.heldHeartbeat held = (parseHeartbeat bytes).map fun heartbeat =>
        ⟨header.sourceId, heartbeat.coordinatorEpoch, heartbeat.scheduleOriginUs⟩ := by
    intro bytes header hb hp hs
    rw [heldHeartbeat, hb, Option.bind_some, hp, Option.bind_some, if_neg hs]
  unfold processPacket
  cases hb : held.bytes with
  | none =>
    refine .undisturbed _ ?_ ⟨⟨_, rfl⟩, rfl, rfl, rfl, rfl⟩
    rw [accepted, heldHeartbeat, hb]
    rfl
  | some bytes =>
    rw [Option.bind_some]
    cases hp : Packet.parsePacket bytes with
    | none =>
      refine .undisturbed _ ?_ ⟨⟨_, rfl⟩, rfl, rfl, rfl, rfl⟩
      rw [accepted, heldHeartbeat, hb, Option.bind_some, hp]
      rfl
    | some header =>
      dsimp only [Option.map_some]
      by_cases hs : header.sourceId = f.network.config.nodeId
      · rw [if_pos hs]
        refine .undisturbed _ ?_ (Undisturbed.refl f)
        rw [accepted, heldHeartbeat, hb, Option.bind_some, hp, Option.bind_some, if_pos hs]
        rfl
      · have hown := hheld bytes header hb hp hs
        rw [if_neg hs]
        by_cases hk : header.kind = kindHeartbeat
        · rw [if_pos hk]
          cases hh : parseHeartbeat bytes with
          | none =>
            refine .undisturbed _ ?_ ⟨⟨_, rfl⟩, rfl, rfl, rfl, rfl⟩
            rw [accepted, hown, hh]
            rfl
          | some heartbeat =>
            rw [hh] at hown
            dsimp only
            unfold hearHeartbeat NetworkState.receiveHeartbeat
            by_cases ha : f.network.accepts header.sourceId heartbeat.coordinatorEpoch = true
            · rw [if_pos ha]
              refine .heard ⟨header.sourceId, heartbeat.coordinatorEpoch, heartbeat.scheduleOriginUs⟩ _ ?_ hs
              rw [accepted, hown]
              exact Option.filter_eq_some_iff.2 ⟨rfl, ha⟩
            · rw [if_neg ha]
              refine .undisturbed _ ?_ ⟨⟨_, rfl⟩, rfl, rfl, rfl, rfl⟩
              rw [accepted, hown, Option.map_some, Option.filter_some, if_neg ha]
        · have hnone : f.accepted held = none := by
            rw [accepted, hown, parseHeartbeat_of_kind_ne hp hk]
            rfl
          rw [if_neg hk]
          split
          · exact .undisturbed _ hnone ⟨receiveAudio_rx _ _ _ _, rfl, rfl, rfl, rfl⟩
          · exact .undisturbed _ hnone ⟨⟨_, rfl⟩, rfl, rfl, rfl, rfl⟩

theorem schedulePacket_network (f : Fg23Network) (heartbeat : Bool) (scheduledUs : U64) (input : RadioInput) :
    (f.schedulePacket heartbeat scheduledUs input).1.network = f.network := by
  have hbuild : (f.buildPacket heartbeat scheduledUs).1.network = f.network := by
    unfold buildPacket
    split <;> rfl
  unfold schedulePacket
  generalize f.buildPacket heartbeat scheduledUs = built at hbuild ⊢
  obtain ⟨g, packet⟩ := built
  cases packet with
  | none => exact hbuild
  | some packet =>
    dsimp only
    split
    · exact hbuild
    · split <;> exact hbuild

theorem tick_network (f : Fg23Network) (nowUs : U64) :
    (f.tick nowUs).1.network = (f.network.tick nowUs).1 ∧ (f.tick nowUs).2 = (f.network.tick nowUs).2 := by
  unfold tick
  dsimp only
  refine ⟨?_, rfl⟩
  split <;> split <;> split <;> rfl

theorem endTx_network (f : Fg23Network) (ended : TxCounters) : (f.endTx ended).network = f.network := by
  unfold endTx
  split <;> rfl

theorem scheduleNext_network (f : Fg23Network) (input : RadioInput) :
    (f.scheduleNext input).1.network = f.network := by
  have hschedule (heartbeat : Bool) (scheduledUs : U64) := f.schedulePacket_network heartbeat scheduledUs input
  unfold scheduleNext
  dsimp only
  split
  · have h := hschedule true f.nextControlSlotUs
    generalize f.schedulePacket true f.nextControlSlotUs input = scheduled at h ⊢
    obtain ⟨g, tx⟩ := scheduled
    cases tx <;> exact h
  · have h := hschedule false f.nextAudioSlotUs
    generalize f.schedulePacket false f.nextAudioSlotUs input = scheduled at h ⊢
    obtain ⟨g, tx⟩ := scheduled
    cases tx <;> exact h

/-- The network state after a call is the one the tick leaves. -/
theorem process_network (f : Fg23Network) (input : RadioInput) :
    (f.process input).1.network = ((f.processRx input.held).network.tick (input.nowUs.setWidth 64)).1 ∧
      (f.process input).2.actions = ((f.processRx input.held).network.tick (input.nowUs.setWidth 64)).2 := by
  obtain ⟨hnetwork, hactions⟩ := (f.processRx input.held).tick_network (input.nowUs.setWidth 64)
  unfold process
  dsimp only
  split
  · exact ⟨(endTx_network _ _).trans hnetwork, hactions⟩
  · exact ⟨(scheduleNext_network _ _).trans ((endTx_network _ _).trans hnetwork), hactions⟩

/-! ## What a call does to the schedule -/

/-- Everything a tick can do to a node. -/
inductive Ticked (f : Fg23Network) (nowUs : U64) : Fg23Network → Prop
  | idle : Ticked f nowUs f
  | beat (nextHeartbeatUs : U64) : f.network.role = .coordinator →
      Ticked f nowUs { f with
        network := { f.network with nextHeartbeatUs := nextHeartbeatUs }
        heartbeatPending := true }
  | silenced : f.network.role = .follower →
      Ticked f nowUs { f with network := f.network.silence nowUs, scheduleSynchronized := false }
  | elected (voter : NetworkState) : f.network.role ≠ .coordinator →
      (voter = f.network ∨ voter = f.network.silence nowUs) →
      electLowestMember voter.eligibleMask ≠ networkBroadcastId →
      Ticked f nowUs { f with
        network := voter.install (electLowestMember voter.eligibleMask) nowUs
        heartbeatPending := electLowestMember voter.eligibleMask = voter.config.nodeId || f.heartbeatPending
        scheduleSynchronized := electLowestMember voter.eligibleMask = voter.config.nodeId }

theorem tick_ticked (f : Fg23Network) (nowUs : U64) : Ticked f nowUs (f.tick nowUs).1 := by
  have hcase := f.network.tick_ticked nowUs
  unfold tick
  generalize f.network.tick nowUs = r at hcase ⊢
  cases hcase with
  | idle =>
    have hnone (bit : U32) : ¬ actionNone &&& bit ≠ 0 := not_not.2 BitVec.zero_and
    dsimp only
    rw [if_neg (hnone _), if_neg (hnone _), if_neg (hnone _)]
    exact .idle
  | beat hrole =>
    have hsend : actionSendHeartbeat &&& actionSendHeartbeat ≠ 0 := by decide
    have htimeout : ¬ actionSendHeartbeat &&& actionCoordinatorTimeout ≠ 0 := by decide
    have hchanged : ¬ actionSendHeartbeat &&& actionCoordinatorChanged ≠ 0 := by decide
    dsimp only
    rw [if_neg hchanged, if_neg htimeout, if_pos hsend]
    exact .beat _ hrole
  | silenced ho =>
    have hsend : ¬ actionCoordinatorTimeout &&& actionSendHeartbeat ≠ 0 := by decide
    have htimeout : actionCoordinatorTimeout &&& actionCoordinatorTimeout ≠ 0 := by decide
    have hchanged : ¬ actionCoordinatorTimeout &&& actionCoordinatorChanged ≠ 0 := by decide
    dsimp only
    rw [if_neg hchanged, if_pos htimeout, if_neg hsend]
    exact .silenced ho.1
  | elected voter flags hvoter hm =>
    have hrole : f.network.role ≠ .coordinator := by
      rcases hvoter with ⟨-, he, -⟩ | ⟨-, ho, -⟩
      · simp [he]
      · simp [ho.1]
    have hstate : voter = f.network ∨ voter = f.network.silence nowUs := by
      rcases hvoter with ⟨h, -⟩ | ⟨h, -⟩
      · exact .inl h
      · exact .inr h
    have hflags : flags = actionNone ∨ flags = actionCoordinatorTimeout := by
      rcases hvoter with ⟨-, -, hf⟩ | ⟨-, -, hf⟩
      · exact .inl hf
      · exact .inr hf
    have hsync : decide ((voter.install (electLowestMember voter.eligibleMask) nowUs).role = .coordinator) =
        decide (electLowestMember voter.eligibleMask = voter.config.nodeId) :=
      decide_eq_decide.2 roleUnder_eq_coordinator
    have hpending : (flags ||| voter.electionActions (electLowestMember voter.eligibleMask)) &&& actionSendHeartbeat ≠ 0 ↔
        electLowestMember voter.eligibleMask = voter.config.nodeId := by
      unfold NetworkState.electionActions
      by_cases he : electLowestMember voter.eligibleMask = voter.config.nodeId
      · rw [if_pos he]
        refine iff_of_true ?_ he
        rcases hflags with rfl | rfl <;> decide
      · rw [if_neg he]
        refine iff_of_false ?_ he
        rcases hflags with rfl | rfl <;> decide
    have hcase := Ticked.elected voter hrole hstate hm
    dsimp only
    rw [if_pos (NetworkState.electionActions_changed hflags)]
    by_cases he : electLowestMember voter.eligibleMask = voter.config.nodeId
    · have hp : (decide (electLowestMember voter.eligibleMask = voter.config.nodeId) || f.heartbeatPending) = true := by
        simp [he]
      rw [hp] at hcase
      rw [if_pos (hpending.2 he)]
      split <;> (dsimp only; rw [hsync]; exact hcase)
    · have hp : (decide (electLowestMember voter.eligibleMask = voter.config.nodeId) || f.heartbeatPending) =
          f.heartbeatPending := by
        simp [he]
      rw [hp] at hcase
      rw [if_neg (mt hpending.1 he)]
      split <;> (dsimp only; rw [hsync]; exact hcase)

theorem Undisturbed.trans {f g k : Fg23Network} (h : Undisturbed f g) (h' : Undisturbed g k) : Undisturbed f k where
  network := by
    obtain ⟨rx, hrx⟩ := h.network
    obtain ⟨rx', hrx'⟩ := h'.network
    exact ⟨rx', by rw [hrx', hrx]⟩
  synchronized := h'.synchronized.trans h.synchronized
  pending := h'.pending.trans h.pending
  audioSlot := h'.audioSlot.trans h.audioSlot
  controlSlot := h'.controlSlot.trans h.controlSlot

theorem endTx_undisturbed (f : Fg23Network) (ended : TxCounters) : Undisturbed f (f.endTx ended) := by
  unfold endTx
  split <;> exact ⟨⟨f.network.rx, rfl⟩, rfl, rfl, rfl, rfl⟩

/-- Everything `schedule_packet` can do. -/
inductive Handed (f : Fg23Network) (heartbeat : Bool) (scheduledUs : U64) : Fg23Network × Option ScheduledTx → Prop
  | refused (f' : Fg23Network) : Undisturbed f f' → Handed f heartbeat scheduledUs (f', none)
  | taken (f' : Fg23Network) (packet : NetworkPacket) : Undisturbed f f' →
      (f.buildPacket heartbeat scheduledUs).2 = some packet →
      Handed f heartbeat scheduledUs (f', some ⟨heartbeat, scheduledUs.setWidth 32, packet⟩)

theorem schedulePacket_handed (f : Fg23Network) (heartbeat : Bool) (scheduledUs : U64) (input : RadioInput) :
    Handed f heartbeat scheduledUs (f.schedulePacket heartbeat scheduledUs input) := by
  have hbuild : Undisturbed f (f.buildPacket heartbeat scheduledUs).1 := by
    unfold buildPacket
    split <;> exact ⟨⟨f.network.rx, rfl⟩, rfl, rfl, rfl, rfl⟩
  have hpacket := @Handed.taken f heartbeat scheduledUs
  unfold schedulePacket
  generalize f.buildPacket heartbeat scheduledUs = built at hbuild hpacket ⊢
  obtain ⟨g, packet⟩ := built
  -- from here on only counters and the fields of the pending transmission change
  have hrest (g' : Fg23Network) (h : Undisturbed g g') : Undisturbed f g' := hbuild.trans h
  cases packet with
  | none => exact .refused _ (hrest _ ⟨⟨g.network.rx, rfl⟩, rfl, rfl, rfl, rfl⟩)
  | some packet =>
    dsimp only
    split
    · exact .refused _ (hrest _ ⟨⟨g.network.rx, rfl⟩, rfl, rfl, rfl, rfl⟩)
    · split
      · exact .refused _ (hrest _ ⟨⟨g.network.rx, rfl⟩, rfl, rfl, rfl, rfl⟩)
      · exact hpacket _ packet (hrest _ ⟨⟨g.network.rx, rfl⟩, rfl, rfl, rfl, rfl⟩) rfl

/-- Everything the choice of the next transmission can do. -/
inductive Chosen (f : Fg23Network) : Fg23Network × Option ScheduledTx → Prop
  | nothing (f' : Fg23Network) : Undisturbed f f' → Chosen f (f', none)
  | heartbeat (g : Fg23Network) (packet : NetworkPacket) (nextControlSlotUs : U64) : f.heartbeatPending = true →
      Undisturbed f g → (f.buildPacket true f.nextControlSlotUs).2 = some packet →
      Chosen f ({ g with heartbeatPending := false, nextControlSlotUs := nextControlSlotUs },
        some ⟨true, f.nextControlSlotUs.setWidth 32, packet⟩)
  | audio (g : Fg23Network) (packet : NetworkPacket) :
      Undisturbed f g → (f.buildPacket false f.nextAudioSlotUs).2 = some packet →
      Chosen f ({ g with nextAudioSlotUs := f.nextAudioSlotUs + f.network.config.superframeUs.setWidth 64 },
        some ⟨false, f.nextAudioSlotUs.setWidth 32, packet⟩)

theorem scheduleNext_chosen (f : Fg23Network) (input : RadioInput) : Chosen f (f.scheduleNext input) := by
  unfold scheduleNext
  dsimp only
  split
  · next hpending =>
    have hcase := f.schedulePacket_handed true f.nextControlSlotUs input
    generalize f.schedulePacket true f.nextControlSlotUs input = r at hcase ⊢
    cases hcase with
    | refused g hg => exact .nothing g hg
    | taken g packet hg hb => exact .heartbeat g packet _ (Bool.and_eq_true_iff.1 hpending).1 hg hb
  · have hcase := f.schedulePacket_handed false f.nextAudioSlotUs input
    generalize f.schedulePacket false f.nextAudioSlotUs input = r at hcase ⊢
    cases hcase with
    | refused g hg => exact .nothing g hg
    | taken g packet hg hb =>
      have haudio := Chosen.audio g packet hg hb
      rw [← hg.audioSlot] at haudio ⊢
      exact haudio

end Fg23Network

end OpenRef.Network
