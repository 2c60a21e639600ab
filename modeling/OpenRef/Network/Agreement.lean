import OpenRef.Network.View
import Mathlib.Data.Fintype.EquivFin
import Mathlib.Data.Fintype.Lattice
/-!
# Agreement after a heartbeat round

Nodes tick at any times, coordinators send their heartbeats, and the air loses,
delays and reorders them. An election is local: the node it names may not know of it
and then sends nothing. So a round in which every coordinator is heard by everybody
need not bring agreement: `agreed_after_round_iff` says when it does.
-/

namespace OpenRef.Network

open NetworkState

/-- The nodes and every heartbeat sent so far. -/
structure RadioNetwork (n : Nat) where
  nodes : Fin n → NetworkState
  sent : List Announcement

/-- A node ticks, sends its heartbeat, or is reached by one that was sent. -/
inductive NetworkEvent (n : Nat) where
  | tick (i : Fin n) (nowUs : U64)
  | send (i : Fin n)
  | deliver (i : Fin n) (heartbeat : Nat) (nowUs : U64)
deriving DecidableEq, Repr

/-- The heartbeat a node sends. -/
def NetworkState.announcement (s : NetworkState) : Announcement :=
  ⟨s.config.nodeId, s.coordinatorEpoch, s.scheduleOriginUs⟩

variable {n : Nat}

/-- One node's state replaced. -/
def setNode (nodes : Fin n → NetworkState) (i : Fin n) (s : NetworkState) : Fin n → NetworkState :=
  fun j => if j = i then s else nodes j

/-- A node drops its own packets. -/
def deliver (nodes : Fin n → NetworkState) (i : Fin n) (a : Announcement) (nowUs : U64) : Fin n → NetworkState :=
  if a.coordinatorId = (nodes i).config.nodeId then nodes else setNode nodes i ((nodes i).hear (a, nowUs))

namespace RadioNetwork

def step (r : RadioNetwork n) : NetworkEvent n → RadioNetwork n
  | .tick i nowUs => { r with nodes := setNode r.nodes i ((r.nodes i).tick nowUs).1 }
  | .send i =>
    if (r.nodes i).role = .coordinator then { r with sent := r.sent ++ [(r.nodes i).announcement] } else r
  | .deliver i heartbeat nowUs =>
    match r.sent[heartbeat]? with
    | some a => { r with nodes := deliver r.nodes i a nowUs }
    | none => r

end RadioNetwork

/-- A delivery of the round: the heartbeat of `sender`, as it was when the round began, reaches `receiver`. -/
structure RoundDelivery (n : Nat) where
  sender : Fin n
  receiver : Fin n
  nowUs : U64
deriving DecidableEq, Repr

/-- The nodes after a round. -/
def runRound (nodes : Fin n → NetworkState) (round : List (RoundDelivery n)) : Fin n → NetworkState :=
  round.foldl (fun now d => deliver now d.receiver (nodes d.sender).announcement d.nowUs) nodes

/-- Every coordinator's heartbeat reaches every other node. -/
def Lossless (nodes : Fin n → NetworkState) (round : List (RoundDelivery n)) : Prop :=
  ∀ sender receiver, (∃ d ∈ round, d.sender = sender ∧ d.receiver = receiver) ↔
    (nodes sender).role = .coordinator ∧ receiver ≠ sender

/-- One coordinator, and everybody knows it. -/
def Agreed (nodes : Fin n → NetworkState) : Prop :=
  (∀ i j, (nodes i).coordinatorId = (nodes j).coordinatorId ∧
    (nodes i).coordinatorEpoch = (nodes j).coordinatorEpoch ∧
    (nodes i).scheduleOriginUs = (nodes j).scheduleOriginUs) ∧
  ∃ m, (nodes m).role = .coordinator ∧ ∀ i, (nodes i).role = .coordinator → i = m

instance (nodes : Fin n → NetworkState) (round : List (RoundDelivery n)) : Decidable (Lossless nodes round) :=
  inferInstanceAs (Decidable (∀ _, _))

instance (nodes : Fin n → NetworkState) : Decidable (Agreed nodes) :=
  inferInstanceAs (Decidable (_ ∧ _))

/-! ## Every node stays consistent -/

/-- The crew of a radio network: one member mask, ids of its own. -/
structure Crew (configs : Fin n → NetworkConfig) : Prop where
  mask : ∀ i j, (configs i).memberMask = (configs j).memberMask
  ids : Function.Injective fun i => (configs i).nodeId
  member : ∀ i, memberPresent (configs i).memberMask (configs i).nodeId = true

variable {configs : Fin n → NetworkConfig} {nodes : Fin n → NetworkState}

theorem setNode_consistent (h : ∀ i, Consistent (configs i) (nodes i)) {i : Fin n} {s : NetworkState}
    (hs : Consistent (configs i) s) : ∀ j, Consistent (configs j) (setNode nodes i s j) := by
  intro j
  unfold setNode
  split
  · next hj => exact hj ▸ hs
  · exact h j

theorem deliver_consistent (h : ∀ i, Consistent (configs i) (nodes i)) (i : Fin n) (a : Announcement)
    (nowUs : U64) : ∀ j, Consistent (configs j) (deliver nodes i a nowUs j) := by
  unfold deliver
  split
  · exact h
  · exact setNode_consistent h ((h i).call _)

theorem step_consistent {r : RadioNetwork n} (h : ∀ i, Consistent (configs i) (r.nodes i)) (e : NetworkEvent n) :
    ∀ i, Consistent (configs i) ((r.step e).nodes i) := by
  cases e with
  | tick i nowUs => exact setNode_consistent h ((h i).tick nowUs)
  | send i =>
    unfold RadioNetwork.step
    dsimp only
    split <;> exact h
  | deliver i heartbeat nowUs =>
    unfold RadioNetwork.step
    dsimp only
    split
    · exact deliver_consistent h i _ nowUs
    · exact h

/-! ## What a round leaves at a node -/

theorem foldl_hear_of_lt : ∀ {s : NetworkState} {ds : List (Announcement × U64)},
    (∀ d ∈ ds, d.1.view < s.view) → ds.foldl hear s = s
  | _, [], _ => rfl
  | s, d :: ds, h => by
    have hd : s.hear d = s := by
      refine hear_of_not_accepts fun ha => ?_
      have hle : s.view ≤ d.1.view := (accepts_iff.1 ha).2
      exact absurd hle (not_le_of_gt (h d List.mem_cons_self))
    rw [List.foldl_cons, hd]
    exact foldl_hear_of_lt fun e he => h e (List.mem_cons_of_mem d he)

/-- The origin that comes with a view, where all heartbeats of the view carry the same. -/
theorem hear_origin_maxRegister (config : NetworkConfig) (v : View) (originUs : U64) :
    MaxRegister hear view (fun d => d.1.view) (fun s => s.view = v → s.scheduleOriginUs = originUs) (fun _ => True)
      (fun s => s.config = config) (fun d => memberPresent config.memberMask d.1.coordinatorId = true ∧
        (d.1.view = v → d.1.scheduleOriginUs = originUs)) where
  inv s d hs hd := (hear_maxRegister config).inv s d hs hd.1
  view_step s d hs hd := (hear_maxRegister config).view_step s d hs hd.1
  derived_step s d hs hd := by
    by_cases ha : s.accepts d.1.coordinatorId d.1.coordinatorEpoch = true
    · have hle : s.view ≤ d.1.view := (accepts_iff.1 ha).2
      rw [hear_of_accepts ha, if_pos hle]
      exact eq_true hd.2
    · rw [hear_of_not_accepts ha, if_neg]
      exact fun hle => ha (accepts_iff.2 ⟨hs ▸ hd.1, hle⟩)

/-- What reaches node `i` in the round. -/
def heardBy (nodes : Fin n → NetworkState) (round : List (RoundDelivery n)) (i : Fin n) :
    List (Announcement × U64) :=
  (round.filter fun d => d.receiver = i).map fun d => ((nodes d.sender).announcement, d.nowUs)

theorem foldl_deliver (content : RoundDelivery n → Announcement) (i : Fin n) :
    ∀ (round : List (RoundDelivery n)) (now : Fin n → NetworkState), (∀ j, (now j).config = configs j) →
      (∀ d ∈ round, (content d).coordinatorId ≠ (configs d.receiver).nodeId) →
      round.foldl (fun now d => deliver now d.receiver (content d) d.nowUs) now i =
        ((round.filter fun d => d.receiver = i).map fun d => (content d, d.nowUs)).foldl hear (now i)
  | [], _, _, _ => rfl
  | d :: round, now, hc, hother => by
    have hd : (content d).coordinatorId ≠ (now d.receiver).config.nodeId :=
      hc d.receiver ▸ hother d List.mem_cons_self
    have hstep : deliver now d.receiver (content d) d.nowUs =
        setNode now d.receiver ((now d.receiver).hear (content d, d.nowUs)) := if_neg hd
    have hc' : ∀ j, (deliver now d.receiver (content d) d.nowUs j).config = configs j := by
      intro j
      rw [hstep, setNode]
      split
      · next hj => rw [call_config, hj, hc]
      · exact hc j
    rw [List.foldl_cons, foldl_deliver content i round _ hc' fun e he => hother e (List.mem_cons_of_mem d he),
      hstep, setNode]
    by_cases hi : d.receiver = i
    · rw [if_pos hi.symm, List.filter_cons_of_pos (by simpa using hi), hi]
      rfl
    · rw [if_neg (Ne.symm hi), List.filter_cons_of_neg (by simpa using hi)]

theorem coordinator_id {i : Fin n} (hs : Consistent (configs i) (nodes i)) (hi : (nodes i).role = .coordinator) :
    (nodes i).coordinatorId = (configs i).nodeId := by
  have hr : (nodes i).role ≠ .election := by
    rw [hi]
    nofun
  rw [hs.role hr, roleUnder_eq_coordinator] at hi
  exact hi

/-- While it is coordinator a node announces its own view. -/
theorem announcement_view {i : Fin n} (hs : Consistent (configs i) (nodes i))
    (hi : (nodes i).role = .coordinator) : (nodes i).announcement.view = (nodes i).view := by
  have hid : (nodes i).config.nodeId = (nodes i).coordinatorId := by
    rw [hs.config_eq, coordinator_id hs hi]
  exact View.ext rfl hid

section Round

variable (hcrew : Crew configs) (hs : ∀ i, Consistent (configs i) (nodes i)) {round : List (RoundDelivery n)}
  (hround : Lossless nodes round)
include hcrew hs hround

theorem runRound_apply (i : Fin n) : runRound nodes round i = (heardBy nodes round i).foldl hear (nodes i) := by
  refine foldl_deliver _ i round nodes (fun j => (hs j).config_eq) fun d hd => ?_
  have hne := ((hround d.sender d.receiver).1 ⟨d, hd, rfl, rfl⟩).2
  show (nodes d.sender).config.nodeId ≠ _
  rw [(hs d.sender).config_eq]
  exact fun h => hne (hcrew.ids h).symm

omit hcrew hs in
/-- A node hears the coordinators but itself, and all of them. -/
theorem mem_heardBy {i : Fin n} {a : Announcement} :
    (∃ nowUs, (a, nowUs) ∈ heardBy nodes round i) ↔
      ∃ j, (nodes j).role = .coordinator ∧ i ≠ j ∧ a = (nodes j).announcement := by
  constructor
  · rintro ⟨nowUs, ha⟩
    obtain ⟨d, hd, he⟩ := List.mem_map.1 ha
    obtain ⟨hmem, hrec⟩ := List.mem_filter.1 hd
    have hsent := (hround d.sender i).1 ⟨d, hmem, rfl, by simpa using hrec⟩
    exact ⟨d.sender, hsent.1, hsent.2, (congrArg Prod.fst he).symm⟩
  · rintro ⟨j, hj, hne, rfl⟩
    obtain ⟨d, hd, rfl, rfl⟩ := (hround j i).2 ⟨hj, hne⟩
    exact ⟨d.nowUs, List.mem_map.2 ⟨d, List.mem_filter.2 ⟨hd, by simp⟩, rfl⟩⟩

theorem heard_member {i : Fin n} : ∀ d ∈ heardBy nodes round i,
    memberPresent (configs i).memberMask d.1.coordinatorId = true := by
  rintro ⟨a, nowUs⟩ hd
  obtain ⟨j, -, -, rfl⟩ := (mem_heardBy hround).1 ⟨nowUs, hd⟩
  show memberPresent _ (nodes j).config.nodeId = true
  rw [(hs j).config_eq, hcrew.mask i j]
  exact hcrew.member j

omit hcrew in
theorem heard_views {i : Fin n} : {v | v ∈ (heardBy nodes round i).map fun d => d.1.view} =
    {v | ∃ j, (nodes j).role = .coordinator ∧ i ≠ j ∧ (nodes j).view = v} := by
  ext v
  constructor
  · intro hv
    obtain ⟨⟨a, nowUs⟩, hd, rfl⟩ := List.mem_map.1 hv
    obtain ⟨j, hj, hne, rfl⟩ := (mem_heardBy hround).1 ⟨nowUs, hd⟩
    exact ⟨j, hj, hne, (announcement_view (hs j) hj).symm⟩
  · rintro ⟨j, hj, hne, rfl⟩
    obtain ⟨nowUs, hd⟩ := (mem_heardBy hround).2 ⟨j, hj, hne, rfl⟩
    exact List.mem_map.2 ⟨_, hd, announcement_view (hs j) hj⟩

/-- A node ends with the greatest view among its own and the other coordinators'. -/
theorem isGreatest_runRound (i : Fin n) :
    IsGreatest (insert (nodes i).view {v | ∃ j, (nodes j).role = .coordinator ∧ i ≠ j ∧ (nodes j).view = v})
      (runRound nodes round i).view := by
  rw [runRound_apply hcrew hs hround, ← heard_views hs hround]
  exact (hear_maxRegister (configs i)).isGreatest_view (hs i).config_eq (heard_member hcrew hs hround)

omit hround in
/-- Two coordinators have different views. -/
theorem coordinator_views {i j : Fin n} (hi : (nodes i).role = .coordinator) (hj : (nodes j).role = .coordinator)
    (h : (nodes i).view = (nodes j).view) : i = j := by
  have hid : (nodes i).coordinatorId = (nodes j).coordinatorId := congrArg View.coordinatorId h
  rw [coordinator_id (hs i) hi, coordinator_id (hs j) hj] at hid
  exact hcrew.ids hid

variable {m : Fin n} (hm : (nodes m).role = .coordinator) (hmax : ∀ i, (nodes i).view ≤ (nodes m).view)
include hm hmax

/-- The coordinator of the greatest view hears nothing it accepts. -/
theorem runRound_greatest : runRound nodes round m = nodes m := by
  rw [runRound_apply hcrew hs hround]
  refine foldl_hear_of_lt ?_
  rintro ⟨a, nowUs⟩ hd
  obtain ⟨j, hj, hne, rfl⟩ := (mem_heardBy hround).1 ⟨nowUs, hd⟩
  show (nodes j).announcement.view < _
  rw [announcement_view (hs j) hj]
  exact lt_of_le_of_ne (hmax j) fun h => hne (coordinator_views hcrew hs hj hm h).symm

/-- Every other node follows it. -/
theorem runRound_other {i : Fin n} (hi : i ≠ m) :
    (runRound nodes round i).view = (nodes m).view ∧
      (runRound nodes round i).scheduleOriginUs = (nodes m).scheduleOriginUs ∧
      (runRound nodes round i).role = .follower := by
  obtain ⟨nowUs, hd⟩ := (mem_heardBy hround).2 ⟨m, hm, hi, rfl⟩
  have hkey : (nodes m).announcement.view = (nodes m).view := announcement_view (hs m) hm
  have hview : (runRound nodes round i).view = (nodes m).view := by
    refine (isGreatest_runRound hcrew hs hround i).unique ⟨.inr ⟨m, hm, hi, rfl⟩, ?_⟩
    rintro v (rfl | ⟨j, -, -, rfl⟩)
    · exact hmax i
    · exact hmax j
  have htaken : ∃ d ∈ heardBy nodes round i, (nodes i).view ≤ d.1.view := ⟨_, hd, (hmax i).trans_eq hkey.symm⟩
  have hfit := heard_member hcrew hs hround (i := i)
  refine ⟨hview, ?_, ?_⟩
  · have horigin : ∀ d ∈ heardBy nodes round i,
        memberPresent (configs i).memberMask d.1.coordinatorId = true ∧
          (d.1.view = (nodes m).view → d.1.scheduleOriginUs = (nodes m).scheduleOriginUs) := by
      rintro ⟨a, t⟩ he
      refine ⟨hfit _ he, fun h => ?_⟩
      obtain ⟨j, hj, -, rfl⟩ := (mem_heardBy hround).1 ⟨t, he⟩
      have hjm : (nodes j).view = (nodes m).view := (announcement_view (hs j) hj).symm.trans h
      rw [coordinator_views hcrew hs hj hm hjm]
      rfl
    have hder := (hear_origin_maxRegister (configs i) (nodes m).view (nodes m).scheduleOriginUs).derived_foldl
      (hs i).config_eq horigin
    rw [if_pos htaken] at hder
    rw [runRound_apply hcrew hs hround] at hview ⊢
    exact of_eq_true hder hview
  · have hder := (hear_maxRegister (configs i)).derived_foldl (hs i).config_eq hfit
    rw [if_pos htaken, ← runRound_apply hcrew hs hround, hview] at hder
    rw [hder]
    refine if_neg fun h => hi (hcrew.ids ?_)
    have hid : (configs m).nodeId = (configs i).nodeId := (coordinator_id (hs m) hm).symm.trans h
    exact hid.symm

omit hm hmax in
theorem agreed_iff (hsome : ∃ i, (nodes i).role = .coordinator) :
    Agreed (runRound nodes round) ↔
      ∃ m, (nodes m).role = .coordinator ∧ ∀ i, (nodes i).view ≤ (nodes m).view := by
  constructor
  · rintro ⟨hsame, -⟩
    have : Nonempty {i // (nodes i).role = .coordinator} := hsome.elim fun i hi => ⟨⟨i, hi⟩⟩
    obtain ⟨⟨m, hm⟩, hmax⟩ := Finite.exists_max fun i : {i // (nodes i).role = .coordinator} => (nodes i).view
    refine ⟨m, hm, fun i => ?_⟩
    -- the greatest coordinator keeps its view, so a greater one elsewhere would stay apart
    have hkeep : (runRound nodes round m).view = (nodes m).view := by
      refine (isGreatest_runRound hcrew hs hround m).unique ⟨Set.mem_insert _ _, ?_⟩
      rintro v (rfl | ⟨j, hj, -, rfl⟩)
      · exact le_refl _
      · exact hmax ⟨j, hj⟩
    have hequal : (runRound nodes round i).view = (runRound nodes round m).view :=
      View.ext (hsame i m).2.1 (hsame i m).1
    calc (nodes i).view ≤ (runRound nodes round i).view :=
          (isGreatest_runRound hcrew hs hround i).2 (Set.mem_insert _ _)
      _ = (nodes m).view := hequal.trans hkeep
  · rintro ⟨m, hm, hmax⟩
    have hself := runRound_greatest hcrew hs hround hm hmax
    have hother : ∀ i, (runRound nodes round i).view = (nodes m).view ∧
        (runRound nodes round i).scheduleOriginUs = (nodes m).scheduleOriginUs := by
      intro i
      by_cases hi : i = m
      · rw [hi, hself]
        exact ⟨rfl, rfl⟩
      · have h := runRound_other hcrew hs hround hm hmax hi
        exact ⟨h.1, h.2.1⟩
    refine ⟨fun i j => ?_, m, hself ▸ hm, fun i hi => ?_⟩
    · have hview : (runRound nodes round i).view = (runRound nodes round j).view :=
        (hother i).1.trans (hother j).1.symm
      exact ⟨congrArg View.coordinatorId hview, congrArg View.epoch hview, (hother i).2.trans (hother j).2.symm⟩
    · by_contra hne
      rw [(runRound_other hcrew hs hround hm hmax hne).2.2] at hi
      cases hi

end Round

/-- **Agreement after a lossless round.** In every reachable network with a coordinator, a round in which
every coordinator's heartbeat reaches every other node ends with one coordinator, one epoch and one schedule
origin exactly when some coordinator's view is at least every node's. -/
theorem agreed_after_round_iff {starts : Fin n → U64} {nodes₀ : Fin n → NetworkState}
    (hinit : ∀ i, init (configs i) (starts i) = some (nodes₀ i))
    (hmask : ∀ i j, (configs i).memberMask = (configs j).memberMask)
    (hids : Function.Injective fun i => (configs i).nodeId) (events : List (NetworkEvent n))
    (hnodes : nodes = (events.foldl RadioNetwork.step ⟨nodes₀, []⟩).nodes)
    (hsome : ∃ i, (nodes i).role = .coordinator) {round : List (RoundDelivery n)} (hround : Lossless nodes round) :
    Agreed (runRound nodes round) ↔
      ∃ m, (nodes m).role = .coordinator ∧ ∀ i, (nodes i).view ≤ (nodes m).view := by
  have hcrew : Crew configs := by
    refine ⟨hmask, hids, fun i => ?_⟩
    have hv := valid_of_init (hinit i)
    simp only [NetworkConfig.valid, Bool.and_eq_true] at hv
    exact hv.1.1.1.1.1.1.1.2
  have hs : ∀ i, Consistent (configs i) (nodes i) := by
    subst hnodes
    exact Run.inv_run (P := fun r : RadioNetwork n => ∀ i, Consistent (configs i) (r.nodes i))
      (fun r e h => step_consistent h e) (fun i => init_consistent (hinit i)) events
  exact agreed_iff hcrew hs hround hsome

/-- Nodes 1 to 3 under the default timing. -/
def threeConfigs (i : Fin 3) : NetworkConfig := defaultConfig (BitVec.ofNat 8 (i.val + 1))

theorem threeConfigs_start : ∀ i, (init (threeConfigs i) 0).isSome = true := by decide

def threeNodes (i : Fin 3) : NetworkState := (init (threeConfigs i) 0).get (threeConfigs_start i)

theorem threeNodes_init (i : Fin 3) : init (threeConfigs i) 0 = some (threeNodes i) :=
  (Option.some_get (threeConfigs_start i)).symm

/-- Node 3 misses the coordinator and elects node 2, then node 2 does so itself; everybody hears both
coordinators and follows node 2. -/
theorem agreed_on_node_two :
    Agreed (runRound (([.tick 2 300001, .tick 2 350001, .tick 1 300001, .tick 1 350001].foldl
        RadioNetwork.step ⟨threeNodes, []⟩).nodes)
      [⟨0, 1, 400000⟩, ⟨1, 0, 400000⟩, ⟨0, 2, 400000⟩, ⟨1, 2, 400000⟩]) :=
  (agreed_after_round_iff threeNodes_init (by decide) (by decide +kernel) _ rfl ⟨0, by decide +kernel⟩
    (by decide +kernel)).2 ⟨1, by decide +kernel⟩

/-- Node 3 misses the coordinator and elects node 2, which knows nothing of it: everybody hears node 1,
the one coordinator, and node 3 still follows node 2. -/
theorem round_without_agreement : (∀ i, init (threeConfigs i) 0 = some (threeNodes i)) ∧
    ∃ events : List (NetworkEvent 3), ∃ round : List (RoundDelivery 3), ∃ nodes,
      nodes = (events.foldl RadioNetwork.step ⟨threeNodes, []⟩).nodes ∧ (∃ i, (nodes i).role = .coordinator) ∧
      Lossless nodes round ∧ ¬ Agreed (runRound nodes round) :=
  ⟨threeNodes_init, [.tick 2 300001, .tick 2 350001], [⟨0, 1, 400000⟩, ⟨0, 2, 400000⟩], _, rfl,
    ⟨0, by decide +kernel⟩, by decide +kernel, by decide +kernel⟩

end OpenRef.Network
