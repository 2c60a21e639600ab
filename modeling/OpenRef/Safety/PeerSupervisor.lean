import OpenRef.Safety.Arbiter
import OpenRef.Lib.Run
/-!
# The peer supervisor (openref_peer_supervisor.c)

The peer's heartbeat is watched; when it stops, the peer is reset a bounded number
of times, then power-cycled, then given up. `tick` returns the actions the caller
applies, among them to assert and to release the peer's reset line.

`heartbeat` makes the peer healthy from any state, also while its reset is
asserted, and the release is then never asked for. `released_iff`: the line is
released outside `resetAsserted`, all along a run, exactly when no heartbeat of the
run comes in that state.
-/

namespace OpenRef.Safety

/-- `openref_peer_state_t`. -/
inductive PeerState
  | healthy | resetAsserted | bootWait | powerCycleWait | failed
deriving DecidableEq, Repr

/-- `OPENREF_PEER_ACTION_ASSERT_RESET`. -/
def peerActionAssertReset : U32 := 1 <<< 1
/-- `OPENREF_PEER_ACTION_RELEASE_RESET`. -/
def peerActionReleaseReset : U32 := 1 <<< 2
/-- `OPENREF_PEER_ACTION_POWER_CYCLE`. -/
def peerActionPowerCycle : U32 := 1 <<< 3
/-- `OPENREF_PEER_ACTION_REPORT_FAULT`. -/
def peerActionReportFault : U32 := 1 <<< 4

/-- `openref_peer_config_t`. -/
structure PeerConfig where
  heartbeatTimeoutMs : U32
  resetHoldMs : U32
  bootWaitMs : U32
  powerCycleWaitMs : U32
  maximumResetAttempts : U8
deriving DecidableEq, Repr

/-- `openref_peer_supervisor_t`. -/
structure PeerSupervisor where
  config : PeerConfig
  state : PeerState
  lastHeartbeatMs : U64
  stateSinceMs : U64
  resetAttempts : U8
  heartbeatCount : U32
  timeoutCount : U32
  recoveryCount : U32
  powerCycleCount : U32
deriving DecidableEq, Repr

namespace PeerSupervisor

/-- `openref_peer_supervisor_init` (:5-22). -/
def init (config : PeerConfig) (nowMs : U64) : Option PeerSupervisor :=
  if config.heartbeatTimeoutMs = 0 || config.resetHoldMs = 0 || config.bootWaitMs = 0 ||
      config.powerCycleWaitMs = 0 || config.maximumResetAttempts = 0 then none
  else some ⟨config, .healthy, nowMs, nowMs, 0, 0, 0, 0, 0⟩

/-- `openref_peer_supervisor_heartbeat` (:24-38). -/
def heartbeat (s : PeerSupervisor) (nowMs : U64) : PeerSupervisor :=
  { s with
    heartbeatCount := s.heartbeatCount + 1
    lastHeartbeatMs := nowMs
    recoveryCount := if s.state ≠ .healthy then s.recoveryCount + 1 else s.recoveryCount
    state := .healthy
    stateSinceMs := nowMs
    resetAttempts := 0 }

/-- The time in the present state is still below a bound. -/
def within (s : PeerSupervisor) (boundMs : U32) (nowMs : U64) : Bool :=
  nowMs - s.stateSinceMs < boundMs.setWidth 64

/-- `openref_peer_supervisor_tick` (:41-102): the supervisor and its actions. -/
def tick (s : PeerSupervisor) (nowMs : U64) : PeerSupervisor × U32 :=
  match s.state with
  | .healthy =>
    if nowMs - s.lastHeartbeatMs ≤ s.config.heartbeatTimeoutMs.setWidth 64 then (s, 0)
    else ({ s with
      timeoutCount := s.timeoutCount + 1
      resetAttempts := 1
      state := .resetAsserted
      stateSinceMs := nowMs }, peerActionMuteAudio ||| peerActionAssertReset ||| peerActionReportFault)
  | .resetAsserted =>
    if s.within s.config.resetHoldMs nowMs then (s, peerActionMuteAudio)
    else ({ s with state := .bootWait, stateSinceMs := nowMs }, peerActionMuteAudio ||| peerActionReleaseReset)
  | .bootWait =>
    if s.within s.config.bootWaitMs nowMs then (s, peerActionMuteAudio)
    else if s.resetAttempts < s.config.maximumResetAttempts then
      ({ s with resetAttempts := s.resetAttempts + 1, state := .resetAsserted, stateSinceMs := nowMs },
        peerActionMuteAudio ||| peerActionAssertReset)
    else ({ s with powerCycleCount := s.powerCycleCount + 1, state := .powerCycleWait, stateSinceMs := nowMs },
      peerActionMuteAudio ||| peerActionPowerCycle ||| peerActionReportFault)
  | .powerCycleWait =>
    if s.within s.config.powerCycleWaitMs nowMs then (s, peerActionMuteAudio)
    else ({ s with state := .failed, stateSinceMs := nowMs }, peerActionMuteAudio ||| peerActionReportFault)
  | .failed => (s, peerActionMuteAudio ||| peerActionReportFault)

end PeerSupervisor

/-! ## The reset line -/

/-- A reset action of a tick. -/
inductive ResetAction
  | assertReset | releaseReset
deriving DecidableEq, Repr

/-- The reset action among the actions of a tick. -/
def resetAction (actions : U32) : Option ResetAction :=
  if actions &&& peerActionAssertReset ≠ 0 then some .assertReset
  else if actions &&& peerActionReleaseReset ≠ 0 then some .releaseReset
  else none

/-- A call of the supervisor. -/
inductive PeerCall
  | heartbeat (nowMs : U64)
  | tick (nowMs : U64)
deriving DecidableEq, Repr

/-- The supervisor and the last reset action it emitted. -/
structure PeerLine where
  peer : PeerSupervisor
  last : Option ResetAction
deriving DecidableEq, Repr

namespace PeerLine

/-- One call; the reset action of a tick, if it has one, becomes the last. -/
def step (w : PeerLine) : PeerCall → PeerLine
  | .heartbeat nowMs => { w with peer := w.peer.heartbeat nowMs }
  | .tick nowMs =>
    let r := w.peer.tick nowMs
    ⟨r.1, (resetAction r.2).orElse fun _ => w.last⟩

/-- Outside `resetAsserted` the reset line is not left asserted. -/
def Released (w : PeerLine) : Prop := w.peer.state ≠ .resetAsserted → w.last ≠ some .assertReset

/-- The call is not a heartbeat from a peer whose reset is asserted. -/
def OutOfReset (w : PeerLine) : PeerCall → Prop
  | .heartbeat _ => w.peer.state ≠ .resetAsserted
  | .tick _ => True

/-- The line is asserted in `resetAsserted` and nowhere else. -/
def Tracks (w : PeerLine) : Prop := w.peer.state = .resetAsserted ↔ w.last = some .assertReset

instance (w : PeerLine) : Decidable w.Released := inferInstanceAs (Decidable (_ → _))

instance (w : PeerLine) : ∀ c : PeerCall, Decidable (w.OutOfReset c)
  | .heartbeat _ => inferInstanceAs (Decidable (_ ≠ _))
  | .tick _ => inferInstanceAs (Decidable True)

/-- What a tick does to the state and the line: nothing, or one move and its action. -/
inductive Moved (s s' : PeerState) (action : Option ResetAction) : Prop
  | stay (hs : s' = s) (ha : action = none)
  | hold (hs : s ≠ .resetAsserted) (hs' : s' = .resetAsserted) (ha : action = some .assertReset)
  | release (hs : s = .resetAsserted) (hs' : s' = .bootWait) (ha : action = some .releaseReset)
  | giveUp (hs : s ≠ .resetAsserted) (hs' : s' ≠ .resetAsserted) (ha : action = none)

theorem tick_moved (s : PeerSupervisor) (nowMs : U64) :
    Moved s.state (s.tick nowMs).1.state (resetAction (s.tick nowMs).2) := by
  have hnone : resetAction 0 = none := by decide
  have hmute : resetAction peerActionMuteAudio = none := by decide
  have hfault : resetAction (peerActionMuteAudio ||| peerActionReportFault) = none := by decide
  have hcycle : resetAction (peerActionMuteAudio ||| peerActionPowerCycle ||| peerActionReportFault) = none := by
    decide
  have hassert : resetAction (peerActionMuteAudio ||| peerActionAssertReset ||| peerActionReportFault) =
      some .assertReset := by decide
  have hretry : resetAction (peerActionMuteAudio ||| peerActionAssertReset) = some .assertReset := by decide
  have hrelease : resetAction (peerActionMuteAudio ||| peerActionReleaseReset) = some .releaseReset := by decide
  unfold PeerSupervisor.tick
  cases hs : s.state with
  | healthy =>
    dsimp only
    split
    · exact .stay hs hnone
    · exact .hold (fun h => by cases h) rfl hassert
  | resetAsserted =>
    dsimp only
    split
    · exact .stay hs hmute
    · exact .release rfl rfl hrelease
  | bootWait =>
    dsimp only
    split
    · exact .stay hs hmute
    · split
      · exact .hold (fun h => by cases h) rfl hretry
      · exact .giveUp (fun h => by cases h) (fun h => by cases h) hcycle
  | powerCycleWait =>
    dsimp only
    split
    · exact .stay hs hmute
    · exact .giveUp (fun h => by cases h) (fun h => by cases h) hfault
  | failed => exact .stay hs hfault

/-- **Step.** The line follows the state, a heartbeat during reset apart. -/
theorem step_tracks (w : PeerLine) (c : PeerCall) (h : Tracks w) (hc : OutOfReset w c) : Tracks (step w c) := by
  cases c with
  | heartbeat nowMs =>
    have hlast : w.last ≠ some .assertReset := fun hl => hc (h.2 hl)
    simp [Tracks, step, PeerSupervisor.heartbeat, hlast]
  | tick nowMs =>
    have hmoved := tick_moved w.peer nowMs
    unfold Tracks step
    dsimp only
    cases hmoved with
    | stay hs ha =>
      rw [hs, ha]
      exact h
    | hold _ hs' ha => simp [hs', ha]
    | release _ hs' ha => simp [hs', ha]
    | giveUp hs hs' ha =>
      have hlast : w.last ≠ some .assertReset := fun hl => hs (h.2 hl)
      simp [hs', ha, hlast]

/-- A heartbeat during reset leaves the line asserted. -/
theorem step_not_released (w : PeerLine) (c : PeerCall) (h : Tracks w) (hc : ¬ OutOfReset w c) :
    ¬ Released (step w c) := by
  cases c with
  | heartbeat nowMs =>
    have hlast := h.1 (not_not.1 hc)
    exact fun hr => hr (by simp [step, PeerSupervisor.heartbeat]) hlast
  | tick nowMs => exact absurd trivial hc

/-- **The reset line is released outside reset exactly when no heartbeat comes during reset.** For every
run of heartbeats and ticks at any times, the last reset action is a release (or there was none) in every
state reached that is not `resetAsserted`, if and only if every heartbeat of the run finds the supervisor in
another state than `resetAsserted`. -/
theorem released_iff (config : PeerConfig) (nowMs : U64) (s : PeerSupervisor) (calls : List PeerCall)
    (hinit : PeerSupervisor.init config nowMs = some s) :
    (∀ past rest, calls = past ++ rest → Released (past.foldl step ⟨s, none⟩)) ↔
      Run.Along step OutOfReset ⟨s, none⟩ calls := by
  have hstart : Tracks ⟨s, none⟩ := by
    unfold PeerSupervisor.init at hinit
    split at hinit
    · cases hinit
    · cases hinit
      simp [Tracks]
  constructor
  · intro h
    exact Run.along_of_prefixes (P := Tracks) (D := fun _ _ => True) (fun w c ht _ hc => step_tracks w c ht hc)
      (fun w c ht _ hc => step_not_released w c ht hc) hstart (Run.along_of_forall fun _ _ => trivial) h
  · rintro h past rest rfl
    have htracks := Run.inv_along step_tracks _ past hstart (Run.along_append.1 h).1
    exact fun hs hl => hs (htracks.2 hl)

/-- The configuration of the native test (openref_peer_supervisor_test.c:8-14). -/
def testConfig : PeerConfig := ⟨100, 10, 50, 100, 2⟩

/-- The supervisor it starts. -/
def testPeer : PeerSupervisor := ⟨testConfig, .healthy, 0, 0, 0, 0, 0, 0, 0⟩

/-- The rule at a timeout, a release and a heartbeat after it. -/
theorem released_iff_after_release :
    (∀ past rest, [PeerCall.tick 101, .tick 111, .heartbeat 120] = past ++ rest →
      Released (past.foldl step ⟨testPeer, none⟩)) ↔
      Run.Along step OutOfReset ⟨testPeer, none⟩ [.tick 101, .tick 111, .heartbeat 120] :=
  released_iff testConfig 0 testPeer _ rfl

/-- A heartbeat one millisecond after the reset was asserted: the peer is healthy, and the last reset
action is the assertion. -/
theorem healthy_while_held :
    ¬ ∀ (config : PeerConfig) (nowMs : U64) (s : PeerSupervisor) (calls : List PeerCall),
      PeerSupervisor.init config nowMs = some s →
      (calls.foldl step ⟨s, none⟩).peer.state = .healthy ∨ (calls.foldl step ⟨s, none⟩).peer.state = .failed →
      (calls.foldl step ⟨s, none⟩).last ≠ some .assertReset :=
  fun h => absurd (h testConfig 0 testPeer [.tick 101, .heartbeat 102] rfl (.inl rfl)) (by decide +kernel)

end PeerLine

end OpenRef.Safety
