import OpenRef.Lib.Clock
import OpenRef.Lib.Serial
import OpenRef.Network.Fg23
/-!
# Coordination on the radio's clock

The network state keeps 64-bit deadlines and differences; every time the adapter gives
it is a reading of the radio's 32-bit clock, which starts over every 71 minutes. Here
the calls of `process` happen at true times, and beside the node stand the true times
of its last tick and of the last refresh of its coordinator.

`coordination_within_lap`: as long as the clock does not start over between two ticks
of a coordinator it keeps sending, and a refreshed follower stays as long as the clock
has not started over since.
-/

namespace OpenRef.Network

/-- A held packet, with the true times at which the radio's clock is read for it. -/
structure HeldAt where
  bytes : Option (List U8)
  heardAt : Nat
  slotAt : Nat

/-- A call of `process` whose tick is at the true time `atUs`. -/
structure RadioCall where
  held : List HeldAt
  atUs : Nat
  ended : TxCounters
  started : TxCounters
  fifoWritten : Bool
  txAccepted : Bool

def HeldAt.packet (h : HeldAt) : HeldPacket := ⟨h.bytes, Clock.reading 32 h.heardAt, Clock.reading 32 h.slotAt⟩

/-- What the radio answers in the call. -/
def RadioCall.input (c : RadioCall) : RadioInput where
  held := c.held.map HeldAt.packet
  nowUs := Clock.reading 32 c.atUs
  ended := c.ended
  started := c.started
  fifoWritten := c.fifoWritten
  txAccepted := c.txAccepted

/-- A node, the true time of its last tick, and the true time at which its coordinator was refreshed: a heartbeat
was accepted, or the coordinator elected. -/
structure RadioLife where
  node : Fg23Network
  lastAt : Nat
  refreshedAt : Nat

namespace RadioLife

def hear (w : RadioLife) (h : HeldAt) : RadioLife :=
  { w with
    node := w.node.processPacket h.packet
    refreshedAt := if (w.node.accepted h.packet).isSome then h.heardAt else w.refreshedAt }

/-- After `process_rx`. -/
def heard (w : RadioLife) (c : RadioCall) : RadioLife := c.held.foldl hear w

/-- What the call does: the actions of its tick. -/
def actions (w : RadioLife) (c : RadioCall) : U32 := (w.node.process c.input).2.actions

def call (w : RadioLife) (c : RadioCall) : RadioLife where
  node := (w.node.process c.input).1
  lastAt := c.atUs
  refreshedAt := if w.actions c &&& actionCoordinatorChanged ≠ 0 then c.atUs else (w.heard c).refreshedAt

/-- The call comes at most `gapUs` after the last one, and its packets in between. -/
def Paced (gapUs : Nat) (w : RadioLife) (c : RadioCall) : Prop :=
  w.lastAt ≤ c.atUs ∧ c.atUs ≤ w.lastAt + gapUs ∧ ∀ h ∈ c.held, h.heardAt ≤ c.atUs

instance (gapUs : Nat) (w : RadioLife) (c : RadioCall) : Decidable (w.Paced gapUs c) :=
  inferInstanceAs (Decidable (_ ∧ _))

/-- The clock does not start over between two ticks of a coordinator. -/
def CoordinatorInLap (w : RadioLife) (c : RadioCall) : Prop :=
  (w.heard c).node.network.role = .coordinator → Clock.lap 32 c.atUs = Clock.lap 32 w.lastAt

instance (w : RadioLife) (c : RadioCall) : Decidable (w.CoordinatorInLap c) :=
  inferInstanceAs (Decidable (_ → _))

/-! ## The invariant -/

/-- The time a node at true time `t` is given. -/
def clock (t : Nat) : U64 := (Clock.reading 32 t).setWidth 64

theorem toNat_clock (t : Nat) : (clock t).toNat = (Clock.reading 32 t).toNat := toNat_setWidth_64 _

/-- Within a lap the clock shows how much time has passed. -/
theorem clock_add {a b : Nat} (hl : Clock.lap 32 b = Clock.lap 32 a) (h : a ≤ b) :
    (clock b).toNat = (clock a).toNat + (b - a) := by
  rw [toNat_clock, toNat_clock, Clock.reading_add_sub hl h]

/-- The parts of the state that keep time. -/
structure Timed (w : RadioLife) : Prop where
  interval : w.node.network.config.heartbeatIntervalUs = networkHeartbeatIntervalUs
  timeout : w.node.network.config.heartbeatTimeoutUs = networkHeartbeatTimeoutUs
  refreshed : w.node.network.lastHeartbeatUs = clock w.refreshedAt

/-- A coordinator's next heartbeat is due after its last tick, by at most the interval. -/
def Due (w : RadioLife) : Prop :=
  (clock w.lastAt).toNat < w.node.network.nextHeartbeatUs.toNat ∧
    w.node.network.nextHeartbeatUs.toNat ≤ (clock w.lastAt).toNat + 100000

theorem heard_node (w : RadioLife) (c : RadioCall) : (w.heard c).node = w.node.processRx c.input.held := by
  unfold heard Fg23Network.processRx RadioCall.input
  rw [List.foldl_map]
  generalize c.held = held
  induction held generalizing w with
  | nil => rfl
  | cons h held ih => exact ih (w.hear h)

/-! ## Packets -/

/-- What the packets of a call leave: the coordination as it was, or a follower. -/
structure Heard (limit : Nat) (w v : RadioLife) : Prop where
  lastAt : v.lastAt = w.lastAt
  timed : v.Timed
  refreshed_le : v.refreshedAt ≤ limit
  news : (∃ rx, v.node.network = { w.node.network with rx := rx }) ∨ v.node.network.role = .follower

theorem hear_heard {limit : Nat} {w : RadioLife} (hw : w.Timed) (hr : w.refreshedAt ≤ limit) {h : HeldAt}
    (hh : h.heardAt ≤ limit) : Heard limit w (w.hear h) := by
  have hcase := w.node.processPacket_processed h.packet
  unfold hear
  generalize w.node.processPacket h.packet = f at hcase
  cases hcase with
  | undisturbed _ hnone hsame =>
    obtain ⟨rx, hrx⟩ := hsame.network
    have hsome : (w.node.accepted h.packet).isSome = false := by rw [hnone]; rfl
    refine ⟨rfl, ⟨?_, ?_, ?_⟩, ?_, .inl ⟨rx, hrx⟩⟩ <;> dsimp only
    · rw [hrx]
      exact hw.interval
    · rw [hrx]
      exact hw.timeout
    · rw [hrx, hsome, if_neg (by simp)]
      exact hw.refreshed
    · rw [hsome, if_neg (by simp)]
      exact hr
  | heard a packets hsome hother =>
    have htaken : (w.node.accepted h.packet).isSome = true := by rw [hsome]; rfl
    refine ⟨rfl, ⟨hw.interval, hw.timeout, ?_⟩, ?_, .inr (if_neg hother)⟩ <;> dsimp only <;> rw [if_pos htaken]
    · rfl
    · exact hh

theorem heard_trans {limit : Nat} {u v w : RadioLife} (huv : Heard limit u v) (hvw : Heard limit v w) :
    Heard limit u w := by
  refine ⟨hvw.lastAt.trans huv.lastAt, hvw.timed, hvw.refreshed_le, ?_⟩
  rcases hvw.news with ⟨rx, hrx⟩ | hf
  · rcases huv.news with ⟨ry, hry⟩ | hf
    · exact .inl ⟨rx, by rw [hrx, hry]⟩
    · exact .inr (by rw [hrx]; exact hf)
  · exact .inr hf

theorem foldl_hear {limit : Nat} : ∀ {held : List HeldAt} {w : RadioLife}, w.Timed → w.refreshedAt ≤ limit →
    (∀ h ∈ held, h.heardAt ≤ limit) → Heard limit w (held.foldl hear w)
  | [], w, hw, hr, _ => ⟨rfl, hw, hr, .inl ⟨w.node.network.rx, rfl⟩⟩
  | h :: held, w, hw, hr, hh => by
    have hfirst := hear_heard hw hr (hh h List.mem_cons_self)
    exact heard_trans hfirst
      (foldl_hear hfirst.timed hfirst.refreshed_le fun k hk => hh k (List.mem_cons_of_mem h hk))

/-! ## Ticks -/

theorem call_network (w : RadioLife) (c : RadioCall) :
    (w.call c).node.network = ((w.heard c).node.network.tick (clock c.atUs)).1 ∧
      w.actions c = ((w.heard c).node.network.tick (clock c.atUs)).2 := by
  rw [heard_node]
  exact w.node.process_network c.input

/-- The deadline moves on by whole periods to the first one after now. -/
theorem advancePeriodic_bounds {deadline nowUs : U64} {period : U32} (hp : 0 < period.toNat)
    (hn : nowUs.toNat < 2 ^ 32) (hd : deadline.toNat ≤ nowUs.toNat) :
    nowUs.toNat < (advancePeriodic deadline period nowUs).toNat ∧
      (advancePeriodic deadline period nowUs).toNat ≤ nowUs.toNat + period.toNat := by
  have hperiod : (period.setWidth 64).toNat = period.toNat := toNat_setWidth_64 period
  have hlt := period.isLt
  have hsub : (nowUs - deadline).toNat = nowUs.toNat - deadline.toNat := BitVec.toNat_sub_of_le hd
  have hdiv := Nat.div_add_mod (nowUs.toNat - deadline.toNat) period.toNat
  have hmod := Nat.mod_lt (nowUs.toNat - deadline.toNat) hp
  have hquot := Nat.div_le_self (nowUs.toNat - deadline.toNat) period.toNat
  have hmul : ((nowUs.toNat - deadline.toNat) / period.toNat + 1) * period.toNat =
      nowUs.toNat - deadline.toNat - (nowUs.toNat - deadline.toNat) % period.toNat + period.toNat := by
    rw [Nat.add_mul, Nat.one_mul, Nat.mul_comm]
    omega
  have hone : (1 : U64).toNat = 1 := rfl
  have hsteps : ((nowUs - deadline) / period.setWidth 64 + 1).toNat =
      (nowUs.toNat - deadline.toNat) / period.toNat + 1 := by
    rw [BitVec.toNat_add, BitVec.toNat_udiv, hsub, hperiod, hone, Nat.mod_eq_of_lt (by omega)]
  have hnot : ¬ deadline > nowUs := Nat.not_lt.2 hd
  rw [advancePeriodic, if_neg hnot, BitVec.toNat_add, BitVec.toNat_mul, hsteps, hperiod, hmul,
    Nat.mod_eq_of_lt (by omega), Nat.mod_eq_of_lt (by omega)]
  omega

theorem clock_lt (t : Nat) : (clock t).toNat < 2 ^ 32 := by
  rw [toNat_clock]
  exact (Clock.reading 32 t).isLt

/-- Only an election refreshes the coordinator during a tick. -/
theorem tick_refresh (s : NetworkState) (nowUs : U64) : (s.tick nowUs).1.config = s.config ∧
    (s.tick nowUs).1.lastHeartbeatUs =
      if (s.tick nowUs).2 &&& actionCoordinatorChanged ≠ 0 then nowUs else s.lastHeartbeatUs := by
  have hcase := s.tick_ticked nowUs
  generalize s.tick nowUs = r at hcase ⊢
  have hnone : ¬ actionNone &&& actionCoordinatorChanged ≠ 0 := by decide
  have hbeat : ¬ actionSendHeartbeat &&& actionCoordinatorChanged ≠ 0 := by decide
  have hsilent : ¬ actionCoordinatorTimeout &&& actionCoordinatorChanged ≠ 0 := by decide
  cases hcase with
  | idle => exact ⟨rfl, (if_neg hnone).symm⟩
  | beat => exact ⟨rfl, (if_neg hbeat).symm⟩
  | silenced => exact ⟨rfl, (if_neg hsilent).symm⟩
  | elected voter flags hvoter hm =>
    rcases hvoter with ⟨rfl, -, rfl⟩ | ⟨rfl, -, rfl⟩
    · exact ⟨rfl, (if_pos (NetworkState.electionActions_changed (.inl rfl))).symm⟩
    · exact ⟨rfl, (if_pos (NetworkState.electionActions_changed (.inr rfl))).symm⟩

theorem call_timed {limit : Nat} {w : RadioLife} {c : RadioCall} (h : Heard limit w (w.heard c)) :
    (w.call c).Timed := by
  obtain ⟨hnetwork, hactions⟩ := w.call_network c
  obtain ⟨hconfig, hrefresh⟩ := tick_refresh (w.heard c).node.network (clock c.atUs)
  refine ⟨?_, ?_, ?_⟩
  · rw [hnetwork, hconfig]
    exact h.timed.interval
  · rw [hnetwork, hconfig]
    exact h.timed.timeout
  · show (w.call c).node.network.lastHeartbeatUs =
      clock (if w.actions c &&& actionCoordinatorChanged ≠ 0 then c.atUs else (w.heard c).refreshedAt)
    rw [hnetwork, hrefresh, hactions, apply_ite clock, h.timed.refreshed]

/-- A follower that was refreshed in time is overdue exactly when the clock has started over since. -/
theorem overdue_iff {limit : Nat} {w v : RadioLife} (h : Heard limit w v) {t : Nat} (hle : v.refreshedAt ≤ t)
    (hrole : v.node.network.role = .follower) (htime : t ≤ v.refreshedAt + 300000) :
    v.node.network.overdue (clock t) ↔ Clock.lap 32 t ≠ Clock.lap 32 v.refreshedAt := by
  have hto : (networkHeartbeatTimeoutUs.setWidth 64).toNat = 300000 := rfl
  have hlate : v.node.network.overdue (clock t) ↔ 300000 < (clock t - clock v.refreshedAt).toNat := by
    unfold NetworkState.overdue
    rw [h.timed.timeout, h.timed.refreshed, BitVec.lt_def, hto, and_iff_right hrole]
  rw [hlate]
  constructor
  · intro hgt hlap
    have hadd := clock_add hlap hle
    rw [BitVec.toNat_sub_of_le (by rw [BitVec.le_def]; omega)] at hgt
    omega
  · intro hlap
    have hlt : Clock.lap 32 v.refreshedAt < Clock.lap 32 t := lt_of_le_of_ne (Clock.lap_mono hle) (Ne.symm hlap)
    have hback := Clock.reading_lt_of_lap_lt hlt (by omega)
    rw [← toNat_clock, ← toNat_clock] at hback
    rw [Serial.sub_toNat_of_lt (by omega)]
    omega

/-- **A follower that was refreshed in time stays** exactly when the clock has not started over since. -/
theorem follower_stays_iff {limit : Nat} {w : RadioLife} {c : RadioCall} (h : Heard limit w (w.heard c))
    (hle : (w.heard c).refreshedAt ≤ c.atUs) (hrole : (w.heard c).node.network.role = .follower)
    (htime : c.atUs ≤ (w.heard c).refreshedAt + 300000) :
    w.actions c &&& actionCoordinatorTimeout = 0 ↔
      Clock.lap 32 c.atUs = Clock.lap 32 (w.heard c).refreshedAt := by
  rw [(w.call_network c).2, ← not_iff_not, ← ne_eq (Clock.lap 32 c.atUs), ← overdue_iff h hle hrole htime]
  have hcase := (w.heard c).node.network.tick_ticked (clock c.atUs)
  generalize (w.heard c).node.network.tick (clock c.atUs) = r at hcase ⊢
  have hnone : actionNone &&& actionCoordinatorTimeout = 0 := by decide
  have htimeout : ¬ actionCoordinatorTimeout &&& actionCoordinatorTimeout = 0 := by decide
  cases hcase with
  | idle _ hnot => exact iff_of_false (not_not.2 hnone) hnot
  | beat hc =>
    rw [hrole] at hc
    cases hc
  | silenced ho => exact iff_of_true htimeout ho
  | elected voter flags hvoter =>
    rcases hvoter with ⟨-, he, -⟩ | ⟨-, ho, rfl⟩
    · rw [hrole] at he
      cases he
    · refine iff_of_true ?_ ho
      dsimp only [NetworkState.electionActions]
      split <;> decide

/-- A call that leaves the node coordinator sends a heartbeat and has the next one due within the interval, or
the node was coordinator before and no heartbeat was due. -/
theorem coordinator_call {limit : Nat} {w : RadioLife} {c : RadioCall} (h : Heard limit w (w.heard c))
    (hafter : (w.call c).node.network.role = .coordinator) :
    (w.actions c &&& actionSendHeartbeat ≠ 0 ∧ (w.call c).Due) ∨
      ((w.heard c).node.network.role = .coordinator ∧ w.node.network.role = .coordinator ∧
        (clock c.atUs).toNat < w.node.network.nextHeartbeatUs.toNat ∧
        (w.call c).node.network.nextHeartbeatUs = w.node.network.nextHeartbeatUs) := by
  obtain ⟨hnetwork, hactions⟩ := w.call_network c
  have hclock : (w.call c).lastAt = c.atUs := rfl
  have hinterval : (networkHeartbeatIntervalUs.setWidth 64).toNat = 100000 := rfl
  have hperiod : networkHeartbeatIntervalUs.toNat = 100000 := rfl
  have hlt := clock_lt c.atUs
  rw [Due, hactions, hclock]
  rw [hnetwork] at hafter ⊢
  have hcase := (w.heard c).node.network.tick_ticked (clock c.atUs)
  have hconfig := h.timed.interval
  generalize (w.heard c).node.network.tick (clock c.atUs) = r at hcase hafter ⊢
  cases hcase with
  | idle hnext _ =>
    refine .inr ⟨hafter, ?_⟩
    have hbefore := hnext hafter
    rcases h.news with ⟨rx, hrx⟩ | hf
    · rw [hrx] at hafter hbefore ⊢
      exact ⟨hafter, hbefore, rfl⟩
    · rw [hf] at hafter
      cases hafter
  | beat _ hdue =>
    have hpos : 0 < networkHeartbeatIntervalUs.toNat := by decide
    have hb := advancePeriodic_bounds hpos hlt hdue
    have hsend : actionSendHeartbeat &&& actionSendHeartbeat ≠ 0 := by decide
    refine .inl ⟨hsend, ?_⟩
    dsimp only
    rw [hconfig]
    omega
  | silenced => cases hafter
  | elected voter flags hvoter hm =>
    have hself : electLowestMember voter.eligibleMask = voter.config.nodeId := roleUnder_eq_coordinator.1 hafter
    have hvoterConfig : voter.config.heartbeatIntervalUs = networkHeartbeatIntervalUs := by
      rcases hvoter with ⟨rfl, -⟩ | ⟨rfl, -⟩ <;> exact hconfig
    refine .inl ⟨?_, ?_⟩
    · dsimp only
      rw [NetworkState.electionActions, if_pos hself]
      rcases hvoter with ⟨-, -, rfl⟩ | ⟨-, -, rfl⟩ <;> decide
    · dsimp only [NetworkState.install]
      rw [if_pos hself, hvoterConfig, BitVec.toNat_add, hinterval, Nat.mod_eq_of_lt (by omega)]
      omega

/-- A call that leaves the node coordinator leaves a deadline within the interval. -/
theorem call_due {limit : Nat} {w : RadioLife} {c : RadioCall} (h : Heard limit w (w.heard c))
    (hdue : w.node.network.role = .coordinator → w.Due) (hle : w.lastAt ≤ c.atUs)
    (hlap : (w.heard c).node.network.role = .coordinator → Clock.lap 32 c.atUs = Clock.lap 32 w.lastAt)
    (hafter : (w.call c).node.network.role = .coordinator) : (w.call c).Due := by
  rcases coordinator_call h hafter with ⟨-, hd⟩ | ⟨hheard, hbefore, hlt, hnext⟩
  · exact hd
  · have hclock : (w.call c).lastAt = c.atUs := rfl
    have hadd := clock_add (hlap hheard) hle
    have hd := (hdue hbefore).2
    rw [Due, hclock, hnext]
    omega

/-! ## Runs -/

/-- What holds between two calls of a run. -/
structure OnClock (w : RadioLife) : Prop where
  timed : w.Timed
  refreshed_le : w.refreshedAt ≤ w.lastAt

variable {gapUs : Nat}

theorem heard_spec {w : RadioLife} {c : RadioCall} (h : w.OnClock) (hc : w.Paced gapUs c) :
    Heard c.atUs w (w.heard c) :=
  foldl_hear h.timed (h.refreshed_le.trans hc.1) hc.2.2

theorem call_onClock {w : RadioLife} {c : RadioCall} (h : w.OnClock) (hc : w.Paced gapUs c) :
    (w.call c).OnClock := by
  have hheard := heard_spec h hc
  refine ⟨call_timed hheard, ?_⟩
  show (if w.actions c &&& actionCoordinatorChanged ≠ 0 then c.atUs else (w.heard c).refreshedAt) ≤ c.atUs
  split
  · exact le_refl _
  · exact hheard.refreshed_le

/-- A run of calls that all leave the node coordinator sends a heartbeat in every window of the interval and
the gap between calls. -/
theorem sends_within {t : Nat} : ∀ {calls : List RadioCall} {w : RadioLife}, w.OnClock → w.Due →
    (∀ before after, calls = before ++ after → (before.foldl call w).node.network.role = .coordinator) →
    Run.Along call (fun w c => w.Paced gapUs c ∧ w.CoordinatorInLap c) w calls →
    w.lastAt + w.node.network.nextHeartbeatUs.toNat ≤ t + 100000 + (clock w.lastAt).toNat →
    t + 100000 + gapUs ≤ (calls.foldl call w).lastAt →
    ∃ before c after, calls = before ++ c :: after ∧ t ≤ c.atUs ∧ c.atUs ≤ t + 100000 + gapUs ∧
      (before.foldl call w).actions c &&& actionSendHeartbeat ≠ 0
  | [], w, _, hd, _, _, hnext, hend => by
    have hd := hd.1
    rw [List.foldl_nil] at hend
    omega
  | c :: calls, w, h, hd, hrole, ha, hnext, hend => by
    obtain ⟨hpaced, hlap⟩ := ha.1
    have hheard := heard_spec h hpaced
    have hafter : (w.call c).node.network.role = .coordinator := hrole [c] calls rfl
    have hdue' := call_due hheard (fun _ => hd) hpaced.1 hlap hafter
    have hrest : ∀ before after, calls = before ++ after →
        (before.foldl call (w.call c)).node.network.role = .coordinator :=
      fun before after he => hrole (c :: before) after (congrArg (c :: ·) he)
    -- the call sends in the window, or the rest of the run does
    have hlater : (w.call c).lastAt + (w.call c).node.network.nextHeartbeatUs.toNat ≤
        t + 100000 + (clock (w.call c).lastAt).toNat →
        ∃ before d after, c :: calls = before ++ d :: after ∧ t ≤ d.atUs ∧ d.atUs ≤ t + 100000 + gapUs ∧
          (before.foldl call w).actions d &&& actionSendHeartbeat ≠ 0 := by
      intro hn
      obtain ⟨before, d, after, he, h1, h2, h3⟩ := sends_within (call_onClock h hpaced) hdue' hrest ha.2 hn hend
      exact ⟨c :: before, d, after, congrArg (c :: ·) he, h1, h2, h3⟩
    have hclock : (w.call c).lastAt = c.atUs := rfl
    rcases coordinator_call hheard hafter with ⟨hsend, hdue⟩ | ⟨hrx, -, hidle, hsame⟩
    · by_cases hin : t ≤ c.atUs
      · have hgap := hpaced.2.1
        exact ⟨[], c, calls, rfl, hin, by have := hd.1; omega, hsend⟩
      · have hdue := hdue.2
        exact hlater (by omega)
    · have hadd := clock_add (hlap hrx) hpaced.1
      exact hlater (by rw [hsame, hclock]; omega)

theorem configure_onClock {nodeId : U8} {startAt : Nat} {f₀ : Fg23Network}
    (h : Fg23Network.configure nodeId (Clock.reading 32 startAt) = some f₀) :
    OnClock ⟨f₀, startAt, startAt⟩ ∧ Due ⟨f₀, startAt, startAt⟩ := by
  obtain ⟨network, hinit, rfl⟩ := Option.map_eq_some_iff.1 h
  have hv := NetworkState.valid_of_init hinit
  rw [NetworkState.init, if_pos hv, Option.some.injEq] at hinit
  subst hinit
  have hlt := clock_lt startAt
  have hinterval : (networkHeartbeatIntervalUs.setWidth 64).toNat = 100000 := rfl
  have hnext : (clock startAt + networkHeartbeatIntervalUs.setWidth 64).toNat = (clock startAt).toNat + 100000 := by
    rw [BitVec.toNat_add, hinterval, Nat.mod_eq_of_lt (by omega)]
  refine ⟨⟨⟨rfl, rfl, rfl⟩, le_refl _⟩, ?_⟩
  show (clock startAt).toNat < (clock startAt + networkHeartbeatIntervalUs.setWidth 64).toNat ∧
    (clock startAt + networkHeartbeatIntervalUs.setWidth 64).toNat ≤ (clock startAt).toNat + 100000
  omega

end RadioLife

open RadioLife in
/-- **Coordination on the radio's clock.** Calls come at most `gapUs` apart. As long as the clock does not start
over between two ticks of a coordinator, a node that stays coordinator sends a heartbeat in every window of the
interval and the gap. A follower whose coordinator was refreshed within the timeout does not time out exactly when
the clock has not started over since the refresh. -/
theorem coordination_within_lap {nodeId : U8} {startAt gapUs : Nat} {f₀ : Fg23Network}
    (hstart : Fg23Network.configure nodeId (Clock.reading 32 startAt) = some f₀) (calls : List RadioCall)
    (hpaced : Run.Along call (Paced gapUs) ⟨f₀, startAt, startAt⟩ calls) :
    (Run.Along call CoordinatorInLap ⟨f₀, startAt, startAt⟩ calls → ∀ past mid rest t, calls = past ++ mid ++ rest →
      (∀ before after, mid = before ++ after →
        ((past ++ before).foldl call ⟨f₀, startAt, startAt⟩).node.network.role = .coordinator) →
      (past.foldl call ⟨f₀, startAt, startAt⟩).lastAt ≤ t →
      t + 100000 + gapUs ≤ ((past ++ mid).foldl call ⟨f₀, startAt, startAt⟩).lastAt →
      ∃ before c after, mid = before ++ c :: after ∧ t ≤ c.atUs ∧ c.atUs ≤ t + 100000 + gapUs ∧
        ((past ++ before).foldl call ⟨f₀, startAt, startAt⟩).actions c &&& actionSendHeartbeat ≠ 0) ∧
    (∀ past c rest, calls = past ++ c :: rest →
      ((past.foldl call ⟨f₀, startAt, startAt⟩).heard c).node.network.role = .follower →
      c.atUs ≤ ((past.foldl call ⟨f₀, startAt, startAt⟩).heard c).refreshedAt + 300000 →
      ((past.foldl call ⟨f₀, startAt, startAt⟩).actions c &&& actionCoordinatorTimeout = 0 ↔
        Clock.lap 32 c.atUs = Clock.lap 32 ((past.foldl call ⟨f₀, startAt, startAt⟩).heard c).refreshedAt)) := by
  obtain ⟨honclock, hdue⟩ := configure_onClock hstart
  constructor
  · rintro hlap past mid rest t rfl hrole hwindow hend
    have hboth := Run.along_and.2 ⟨hpaced, hlap⟩
    obtain ⟨hpast, hmid⟩ := Run.along_append.1 (Run.along_append.1 hboth).1
    have hw := Run.inv_along
      (P := fun w => w.OnClock ∧ (w.node.network.role = .coordinator → w.Due))
      (fun w c h hc => ⟨call_onClock h.1 hc.1, call_due (heard_spec h.1 hc.1) h.2 hc.1.1 hc.2⟩) _ past
      ⟨honclock, fun _ => hdue⟩ hpast
    simp only [List.foldl_append] at hrole hend ⊢
    have hd := hw.2 (hrole [] mid rfl)
    have hnext := hd.2
    exact sends_within hw.1 hd hrole hmid (by omega) hend
  · rintro past c rest rfl hfollower htime
    obtain ⟨hpast, hrest⟩ := Run.along_append.1 hpaced
    have hw := Run.inv_along (P := OnClock) (fun w c h hc => call_onClock h hc) _ past honclock hpast
    have hheard := heard_spec hw hrest.1
    exact follower_stays_iff hheard hheard.refreshed_le hfollower htime

/-- A call without packets, whose transmissions the radio does not take. -/
def quietCall (t : Nat) : RadioCall := ⟨[], t, ⟨0, 0, 0, 0⟩, ⟨0, 0, 0, 0⟩, false, false⟩

/-- Calls every 10 ms. -/
def quietCalls (startAt count : Nat) : List RadioCall :=
  (List.range count).map fun k => quietCall (startAt + 10000 * (k + 1))

theorem nodes_start : (Fg23Network.configure 1 (Clock.reading 32 1000)).isSome = true ∧
    (Fg23Network.configure 1 (Clock.reading 32 (2 ^ 32 - 100000))).isSome = true ∧
    (Fg23Network.configure 2 (Clock.reading 32 (2 ^ 32 - 5000))).isSome = true := by
  decide +kernel

open RadioLife in
/-- Node 1 sends a heartbeat within 110 ms of its start. -/
theorem sends_after_start :
    ∃ before c after, quietCalls 1000 12 = before ++ c :: after ∧ c.atUs ≤ 111000 ∧
      (before.foldl call ⟨(Fg23Network.configure 1 (Clock.reading 32 1000)).get nodes_start.1, 1000, 1000⟩).actions c
        &&& actionSendHeartbeat ≠ 0 := by
  have hrole : ∀ k < 13, ((((quietCalls 1000 12).take k).foldl call
      ⟨(Fg23Network.configure 1 (Clock.reading 32 1000)).get nodes_start.1, 1000, 1000⟩).node.network.role =
        .coordinator) := by
    decide +kernel
  obtain ⟨hsends, -⟩ := coordination_within_lap (Option.some_get nodes_start.1).symm (quietCalls 1000 12)
    (by decide +kernel : Run.Along call (Paced 10000) _ _)
  obtain ⟨before, c, after, he, -, hle, hsend⟩ := hsends (by decide +kernel) [] (quietCalls 1000 12) [] 1000 (by simp)
    (fun before after he => by
      have hlen : before.length < 13 := by
        have := congrArg List.length he
        simp [quietCalls] at this
        omega
      have := hrole before.length hlen
      rwa [he, List.take_left] at this) (le_refl _) (by decide +kernel)
  exact ⟨before, c, after, he, hle, hsend⟩

/-- Node 1, started 100 ms before its clock starts over. -/
def nodeOneLate : RadioLife :=
  ⟨(Fg23Network.configure 1 (Clock.reading 32 (2 ^ 32 - 100000))).get nodes_start.2.1, 2 ^ 32 - 100000, 2 ^ 32 - 100000⟩

/-- Node 2, started 5 ms before its clock starts over. -/
def nodeTwoLate : RadioLife :=
  ⟨(Fg23Network.configure 2 (Clock.reading 32 (2 ^ 32 - 5000))).get nodes_start.2.2, 2 ^ 32 - 5000, 2 ^ 32 - 5000⟩

open RadioLife in
/-- Node 1 stays coordinator and sends no heartbeat in 300 ms. Node 2 times out 10 ms after its coordinator was
refreshed. -/
theorem lost_when_clock_restarts :
    Run.Along call (Paced 10000) nodeOneLate (quietCalls (2 ^ 32 - 100000) 30) ∧
    Run.Along call (fun w c => (w.call c).node.network.role = .coordinator ∧ w.actions c &&& actionSendHeartbeat = 0)
      nodeOneLate (quietCalls (2 ^ 32 - 100000) 30) ∧
    nodeTwoLate.Paced 10000 (quietCall (2 ^ 32 + 5000)) ∧ nodeTwoLate.node.network.role = .follower ∧
    nodeTwoLate.refreshedAt + 10000 = (quietCall (2 ^ 32 + 5000)).atUs ∧
    nodeTwoLate.actions (quietCall (2 ^ 32 + 5000)) &&& actionCoordinatorTimeout ≠ 0 := by
  refine ⟨?_, ?_, ?_, ?_, ?_, ?_⟩ <;> decide +kernel

end OpenRef.Network
