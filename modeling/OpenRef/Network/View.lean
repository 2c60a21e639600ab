import OpenRef.Lib.MaxRegister
import OpenRef.Lib.Run
import OpenRef.Network.State
import Mathlib.Data.Prod.Lex
import Mathlib.Data.Finset.Basic
/-!
# The coordinator view

Who a node takes for the coordinator, and since which epoch, is its `View`. Views are
ordered by epoch, then by the lower id, and `openref_network_receive_heartbeat` accepts
a heartbeat exactly when its view is not below the node's own: the state is a
max-register of views (`hear_maxRegister`).

`view_is_join`: heartbeats leave the greatest view in whatever order they arrive, and
over a run the view only grows.
-/

namespace OpenRef.Network

/-- The coordinator of an epoch. -/
@[ext] structure View where
  epoch : U32
  coordinatorId : U8
deriving DecidableEq, Repr

/-- Higher epoch first, then lower id. -/
def View.rank (v : View) : ℕ ×ₗ ℕᵒᵈ := toLex (v.epoch.toNat, OrderDual.toDual v.coordinatorId.toNat)

theorem View.rank_injective : Function.Injective View.rank := by
  intro a b h
  have hpair : (a.epoch.toNat, OrderDual.toDual a.coordinatorId.toNat) =
      (b.epoch.toNat, OrderDual.toDual b.coordinatorId.toNat) := h
  obtain ⟨he, hc⟩ := Prod.mk.inj hpair
  exact View.ext (BitVec.eq_of_toNat_eq he) (BitVec.eq_of_toNat_eq (OrderDual.toDual.injective hc))

instance viewLinearOrder : LinearOrder View := LinearOrder.lift' View.rank View.rank_injective

theorem View.le_iff {a b : View} :
    a ≤ b ↔ a.epoch < b.epoch ∨ a.epoch = b.epoch ∧ b.coordinatorId ≤ a.coordinatorId := by
  have h : a ≤ b ↔ a.epoch.toNat < b.epoch.toNat ∨
      a.epoch.toNat = b.epoch.toNat ∧ b.coordinatorId.toNat ≤ a.coordinatorId.toNat := Prod.Lex.toLex_le_toLex
  rw [h, BitVec.toNat_inj]
  rfl

/-- A heartbeat with its sender. -/
structure Announcement where
  coordinatorId : U8
  coordinatorEpoch : U32
  scheduleOriginUs : U64
deriving DecidableEq, Repr

def Announcement.view (a : Announcement) : View := ⟨a.coordinatorEpoch, a.coordinatorId⟩

/-- A call of the network state's operations. -/
inductive NetworkCall where
  | tick (nowUs : U64)
  | receiveHeartbeat (a : Announcement) (nowUs : U64)
  | setMemberEligible (nodeId : U8) (eligible : Bool)
  | receiveAudio (sourceId : U8) (sequence : U16) (txTimestampUs : U64)
deriving DecidableEq, Repr

/-! ## Masks -/

theorem nodeBit_ne_zero : ∀ {nodeId : U8}, validNodeId nodeId = true → nodeBit nodeId ≠ 0 := by decide

theorem and_nodeBit (mask nodeId : U8) :
    mask &&& nodeBit nodeId = if mask.getLsbD (nodeId - 1).toNat then nodeBit nodeId else 0 :=
  BitVec.and_twoPow mask _

/-- A member's bit lies inside the mask. -/
theorem nodeBit_of_present {mask nodeId : U8} (h : memberPresent mask nodeId = true) :
    nodeBit nodeId &&& mask = nodeBit nodeId := by
  simp only [memberPresent, Bool.and_eq_true, decide_eq_true_eq] at h
  rw [and_nodeBit] at h
  rw [BitVec.and_comm, and_nodeBit]
  split
  · rfl
  · next hb => exact absurd (if_neg hb) h.2

theorem present_of_subset {mask limit nodeId : U8} (hs : mask &&& limit = mask)
    (h : memberPresent mask nodeId = true) : memberPresent limit nodeId = true := by
  have hb := nodeBit_of_present h
  simp only [memberPresent, Bool.and_eq_true, decide_eq_true_eq] at h ⊢
  refine ⟨h.1, ?_⟩
  have hlimit : limit &&& nodeBit nodeId = nodeBit nodeId := by
    rw [← hb, BitVec.and_comm, BitVec.and_assoc, hs]
  rw [hlimit]
  exact nodeBit_ne_zero h.1

theorem subset_or {mask limit bit : U8} (hs : mask &&& limit = mask) (hb : bit &&& limit = bit) :
    (mask ||| bit) &&& limit = mask ||| bit := by
  rw [BitVec.and_comm, BitVec.and_or_distrib_left, BitVec.and_comm, hs, BitVec.and_comm, hb]

theorem subset_and {mask limit : U8} (hs : mask &&& limit = mask) (keep : U8) :
    (mask &&& keep) &&& limit = mask &&& keep := by
  rw [BitVec.and_assoc, BitVec.and_comm keep, ← BitVec.and_assoc, hs]

theorem electLowestMember_present {mask : U8} (h : electLowestMember mask ≠ networkBroadcastId) :
    memberPresent mask (electLowestMember mask) = true := by
  unfold electLowestMember at h ⊢
  cases hf : nodeIds.find? (memberPresent mask) with
  | none => simp [hf] at h
  | some nodeId => simpa using List.find?_some hf

/-! ## What the operations do -/

theorem roleUnder_eq_coordinator {config : NetworkConfig} {nodeId : U8} :
    config.roleUnder nodeId = .coordinator ↔ nodeId = config.nodeId := by
  unfold NetworkConfig.roleUnder
  split <;> simp_all

namespace NetworkState

def view (s : NetworkState) : View := ⟨s.coordinatorEpoch, s.coordinatorId⟩

/-- One call. -/
def call (s : NetworkState) : NetworkCall → NetworkState
  | .tick nowUs => (s.tick nowUs).1
  | .receiveHeartbeat a nowUs =>
    (s.receiveHeartbeat a.coordinatorId a.coordinatorEpoch a.scheduleOriginUs nowUs).1
  | .setMemberEligible nodeId eligible => (s.setMemberEligible nodeId eligible).1
  | .receiveAudio sourceId sequence txTimestampUs => (s.receiveAudioTimestamped sourceId sequence txTimestampUs).1

/-- A heartbeat delivered at a time. -/
def hear (s : NetworkState) (d : Announcement × U64) : NetworkState := s.call (.receiveHeartbeat d.1 d.2)

/-- The follower's coordinator was silent for too long. -/
def overdue (s : NetworkState) (nowUs : U64) : Prop :=
  s.role = .follower ∧ s.config.heartbeatTimeoutUs.setWidth 64 < nowUs - s.lastHeartbeatUs

/-- Everything a tick can do. -/
inductive Ticked (s : NetworkState) (nowUs : U64) : NetworkState × U32 → Prop
  | idle : (s.role = .coordinator → nowUs < s.nextHeartbeatUs) → ¬ s.overdue nowUs →
      Ticked s nowUs (s, actionNone)
  | beat : s.role = .coordinator → s.nextHeartbeatUs ≤ nowUs →
      Ticked s nowUs ({ s with
        nextHeartbeatUs := advancePeriodic s.nextHeartbeatUs s.config.heartbeatIntervalUs nowUs },
        actionSendHeartbeat)
  | silenced : s.overdue nowUs → Ticked s nowUs (s.silence nowUs, actionCoordinatorTimeout)
  | elected (voter : NetworkState) (flags : U32) :
      (voter = s ∧ s.role = .election ∧ flags = actionNone ∨
        voter = s.silence nowUs ∧ s.overdue nowUs ∧ flags = actionCoordinatorTimeout) →
      electLowestMember voter.eligibleMask ≠ networkBroadcastId →
      Ticked s nowUs (voter.install (electLowestMember voter.eligibleMask) nowUs,
        flags ||| voter.electionActions (electLowestMember voter.eligibleMask))

/-- An election either changes nothing or installs the lowest eligible member. -/
theorem elect_cases (s : NetworkState) (nowUs : U64) :
    s.elect nowUs = (s, actionNone) ∨
      s.role = .election ∧ electLowestMember s.eligibleMask ≠ networkBroadcastId ∧
        s.elect nowUs = (s.install (electLowestMember s.eligibleMask) nowUs,
          s.electionActions (electLowestMember s.eligibleMask)) := by
  unfold elect
  split
  · next hr =>
    simp only [Bool.and_eq_true, decide_eq_true_eq] at hr
    dsimp only
    split
    · next hm => exact .inr ⟨hr.1, hm, rfl⟩
    · exact .inl rfl
  · exact .inl rfl

theorem tick_ticked (s : NetworkState) (nowUs : U64) : Ticked s nowUs (s.tick nowUs) := by
  unfold tick
  by_cases hc : s.role = .coordinator
  · have hnot : ¬ s.overdue nowUs := fun h => by simp [h.1] at hc
    rw [if_pos hc]
    split
    · next hn => exact .beat hc hn
    · next hn => exact .idle (fun _ => BitVec.not_le.1 hn) hnot
  · rw [if_neg hc]
    dsimp only
    by_cases ho : s.overdue nowUs
    · have he : s.expire nowUs = (s.silence nowUs, actionCoordinatorTimeout) :=
        if_pos (by simpa [overdue] using ho)
      rw [he]
      rcases elect_cases (s.silence nowUs) nowUs with h | ⟨-, hm, h⟩
      · have hflags : actionCoordinatorTimeout ||| actionNone = actionCoordinatorTimeout := by decide
        rw [h]
        dsimp only
        rw [hflags]
        exact .silenced ho
      · rw [h]
        exact .elected _ _ (.inr ⟨rfl, ho, rfl⟩) hm
    · have he : s.expire nowUs = (s, actionNone) := if_neg (by simpa [overdue] using ho)
      rw [he]
      rcases elect_cases s nowUs with h | ⟨hr, hm, h⟩
      · have hflags : actionNone ||| actionNone = actionNone := by decide
        rw [h]
        dsimp only
        rw [hflags]
        exact .idle (fun h => absurd h hc) ho
      · rw [h]
        exact .elected _ _ (.inl ⟨rfl, hr, rfl⟩) hm

theorem accepts_iff {s : NetworkState} {coordinatorId : U8} {epoch : U32} :
    s.accepts coordinatorId epoch = true ↔
      memberPresent s.config.memberMask coordinatorId = true ∧ s.view ≤ ⟨epoch, coordinatorId⟩ := by
  have horder : s.view ≤ ⟨epoch, coordinatorId⟩ ↔ ¬ epoch < s.coordinatorEpoch ∧
      (epoch = s.coordinatorEpoch → ¬ s.coordinatorId < coordinatorId) := by
    rw [View.le_iff]
    simp only [view, BitVec.lt_def, BitVec.le_def, ← BitVec.toNat_inj]
    omega
  rw [horder]
  simp [accepts, imp_iff_not_or]

/-! ## The invariant of the network state -/

/-- What every reachable network state is. -/
structure Consistent (config : NetworkConfig) (s : NetworkState) : Prop where
  config_eq : s.config = config
  eligible : s.eligibleMask &&& config.memberMask = s.eligibleMask
  member : memberPresent config.memberMask s.coordinatorId = true
  role : s.role ≠ .election → s.role = config.roleUnder s.coordinatorId

variable {config : NetworkConfig} {s : NetworkState}

theorem valid_of_init {startUs : U64} (h : init config startUs = some s) : config.valid = true := by
  by_contra hv
  rw [init, if_neg hv] at h
  cases h

theorem init_consistent {startUs : U64} (h : init config startUs = some s) : Consistent config s := by
  have hv := valid_of_init h
  rw [init, if_pos hv, Option.some.injEq] at h
  subst h
  simp only [NetworkConfig.valid, Bool.and_eq_true] at hv
  exact ⟨rfl, BitVec.and_self, hv.1.1.1.1.1.1.2, fun _ => rfl⟩

theorem Consistent.silence (h : Consistent config s) (nowUs : U64) : Consistent config (s.silence nowUs) where
  config_eq := h.config_eq
  eligible := subset_and h.eligible _
  member := h.member
  role hr := absurd rfl hr

theorem Consistent.install (h : Consistent config s) {elected : U8} (he : memberPresent s.eligibleMask elected = true)
    (nowUs : U64) : Consistent config (s.install elected nowUs) where
  config_eq := h.config_eq
  eligible := h.eligible
  member := present_of_subset h.eligible he
  role _ := by rw [← h.config_eq]; rfl

theorem Consistent.follow (h : Consistent config s) {coordinatorId : U8}
    (hm : memberPresent config.memberMask coordinatorId = true) (epoch : U32) (originUs nowUs : U64) :
    Consistent config (s.follow coordinatorId epoch originUs nowUs) where
  config_eq := h.config_eq
  eligible := subset_or h.eligible (nodeBit_of_present hm)
  member := hm
  role _ := by rw [← h.config_eq]; rfl

theorem Consistent.tick (h : Consistent config s) (nowUs : U64) : Consistent config (s.tick nowUs).1 := by
  have hcase := s.tick_ticked nowUs
  generalize s.tick nowUs = r at hcase
  cases hcase with
  | idle => exact h
  | beat => exact ⟨h.config_eq, h.eligible, h.member, h.role⟩
  | silenced => exact h.silence nowUs
  | elected voter flags hvoter hm =>
    have hv : Consistent config voter := by
      rcases hvoter with ⟨rfl, -, -⟩ | ⟨rfl, -, -⟩
      · exact h
      · exact h.silence nowUs
    exact hv.install (electLowestMember_present hm) nowUs

/-- Every operation keeps a state consistent. -/
theorem Consistent.call (h : Consistent config s) : ∀ c : NetworkCall, Consistent config (s.call c)
  | .tick nowUs => h.tick nowUs
  | .receiveHeartbeat a nowUs => by
    show Consistent config (receiveHeartbeat _ _ _ _ _).1
    unfold receiveHeartbeat
    split
    · next ha =>
      have hm := (accepts_iff.1 ha).1
      rw [h.config_eq] at hm
      exact h.follow hm _ _ _
    · exact h
  | .setMemberEligible nodeId eligible => by
    show Consistent config (setMemberEligible _ _ _).1
    unfold setMemberEligible
    split
    · next hm =>
      rw [h.config_eq] at hm
      refine ⟨h.config_eq, ?_, h.member, h.role⟩
      cases eligible with
      | true => exact subset_or h.eligible (nodeBit_of_present hm)
      | false => exact subset_and h.eligible _
    · exact h
  | .receiveAudio sourceId sequence txTimestampUs => by
    show Consistent config (receiveAudioTimestamped _ _ _ _).1
    unfold receiveAudioTimestamped
    split
    · exact h
    · split
      · exact h
      · exact ⟨h.config_eq, h.eligible, h.member, h.role⟩

theorem calls_consistent (h : Consistent config s) (calls : List NetworkCall) :
    Consistent config (calls.foldl call s) :=
  Run.inv_run (P := Consistent config) (fun _ c hs => Consistent.call hs c) h calls

/-! ## Heartbeats join views -/

theorem call_config (s : NetworkState) (d : Announcement × U64) : (s.hear d).config = s.config := by
  show (receiveHeartbeat _ _ _ _ _).1.config = s.config
  unfold receiveHeartbeat
  split <;> rfl

theorem hear_of_accepts {d : Announcement × U64} (h : s.accepts d.1.coordinatorId d.1.coordinatorEpoch = true) :
    s.hear d = s.follow d.1.coordinatorId d.1.coordinatorEpoch d.1.scheduleOriginUs d.2 :=
  congrArg Prod.fst (if_pos h)

theorem hear_of_not_accepts {d : Announcement × U64}
    (h : ¬ s.accepts d.1.coordinatorId d.1.coordinatorEpoch = true) : s.hear d = s :=
  congrArg Prod.fst (if_neg h)

/-- A network state is a max-register of views. -/
theorem hear_maxRegister (config : NetworkConfig) :
    MaxRegister hear view (fun d => d.1.view) role (fun v => config.roleUnder v.coordinatorId)
      (fun s => s.config = config) (fun d => memberPresent config.memberMask d.1.coordinatorId = true) where
  inv s d hs _ := (call_config s d).trans hs
  view_step s d hs hd := by
    by_cases ha : s.accepts d.1.coordinatorId d.1.coordinatorEpoch = true
    · rw [hear_of_accepts ha]
      exact (max_eq_right (accepts_iff.1 ha).2).symm
    · rw [hear_of_not_accepts ha, max_eq_left]
      exact le_of_not_ge fun hle => ha (accepts_iff.2 ⟨hs ▸ hd, hle⟩)
  derived_step s d hs hd := by
    by_cases ha : s.accepts d.1.coordinatorId d.1.coordinatorEpoch = true
    · have hle : s.view ≤ d.1.view := (accepts_iff.1 ha).2
      rw [hear_of_accepts ha, if_pos hle, ← hs]
      rfl
    · rw [hear_of_not_accepts ha, if_neg]
      exact fun hle => ha (accepts_iff.2 ⟨hs ▸ hd, hle⟩)

/-! ## The view only grows -/

/-- The call elects a coordinator in the last epoch there is. -/
def ElectsAtLastEpoch (s : NetworkState) : NetworkCall → Prop
  | .tick nowUs => (s.tick nowUs).2 &&& actionCoordinatorChanged ≠ 0 ∧ s.coordinatorEpoch = uint32Max
  | .receiveHeartbeat _ _ | .setMemberEligible _ _ | .receiveAudio _ _ _ => False

instance decidableElectsAtLastEpoch (s : NetworkState) : ∀ c : NetworkCall, Decidable (ElectsAtLastEpoch s c)
  | .tick nowUs => inferInstanceAs
      (Decidable ((s.tick nowUs).2 &&& actionCoordinatorChanged ≠ 0 ∧ s.coordinatorEpoch = uint32Max))
  | .receiveHeartbeat _ _ | .setMemberEligible _ _ | .receiveAudio _ _ _ => .isFalse not_false

theorem lt_install (s : NetworkState) (h : s.coordinatorEpoch ≠ uint32Max) (elected : U8) (nowUs : U64) :
    s.view < (s.install elected nowUs).view := by
  have hepoch : s.coordinatorEpoch < s.coordinatorEpoch + 1 := by
    have hne : s.coordinatorEpoch.toNat ≠ 0xffffffff := fun he => h (BitVec.eq_of_toNat_eq he)
    have hlt := s.coordinatorEpoch.isLt
    rw [BitVec.lt_def, BitVec.toNat_add]
    have hone : (1 : U32).toNat = 1 := rfl
    omega
  refine lt_of_not_ge fun hle => ?_
  rcases View.le_iff.1 hle with hlt | ⟨he, -⟩
  · exact BitVec.lt_asymm hepoch hlt
  · have heq : s.coordinatorEpoch + 1 = s.coordinatorEpoch := he
    rw [heq] at hepoch
    exact BitVec.lt_irrefl _ hepoch

theorem electionActions_changed {s : NetworkState} {elected : U8} {flags : U32}
    (hf : flags = actionNone ∨ flags = actionCoordinatorTimeout) :
    (flags ||| s.electionActions elected) &&& actionCoordinatorChanged ≠ 0 := by
  unfold electionActions
  rcases hf with rfl | rfl <;> split <;> decide

theorem view_le_tick {nowUs : U64}
    (h : ¬ ((s.tick nowUs).2 &&& actionCoordinatorChanged ≠ 0 ∧ s.coordinatorEpoch = uint32Max)) :
    s.view ≤ (s.tick nowUs).1.view := by
  have hcase := s.tick_ticked nowUs
  generalize s.tick nowUs = r at hcase h
  cases hcase with
  | idle | beat | silenced => exact le_refl s.view
  | elected voter flags hvoter hm =>
    have hflags : flags = actionNone ∨ flags = actionCoordinatorTimeout := by
      rcases hvoter with ⟨-, -, hf⟩ | ⟨-, -, hf⟩
      · exact .inl hf
      · exact .inr hf
    have hview : voter.view = s.view := by
      rcases hvoter with ⟨rfl, -⟩ | ⟨rfl, -⟩ <;> rfl
    have hlast : voter.coordinatorEpoch ≠ uint32Max := by
      have hepoch : voter.coordinatorEpoch = s.coordinatorEpoch := congrArg View.epoch hview
      rw [hepoch]
      exact fun he => h ⟨electionActions_changed hflags, he⟩
    rw [← hview]
    exact (lt_install voter hlast _ nowUs).le

theorem view_le_call {c : NetworkCall} (h : ¬ ElectsAtLastEpoch s c) : s.view ≤ (s.call c).view := by
  cases c with
  | tick nowUs => exact view_le_tick h
  | receiveHeartbeat a nowUs =>
    show s.view ≤ (s.hear (a, nowUs)).view
    by_cases ha : s.accepts a.coordinatorId a.coordinatorEpoch = true
    · rw [hear_of_accepts ha]
      exact (accepts_iff.1 ha).2
    · rw [hear_of_not_accepts ha]
  | setMemberEligible nodeId eligible =>
    show s.view ≤ (setMemberEligible _ _ _).1.view
    unfold setMemberEligible
    split <;> exact le_refl s.view
  | receiveAudio sourceId sequence txTimestampUs =>
    show s.view ≤ (receiveAudioTimestamped _ _ _ _).1.view
    unfold receiveAudioTimestamped
    split
    · exact le_refl s.view
    · split <;> exact le_refl s.view

theorem view_le_calls : ∀ {s : NetworkState} {calls : List NetworkCall},
    Run.Along call (fun s c => ¬ ElectsAtLastEpoch s c) s calls → s.view ≤ (calls.foldl call s).view
  | _, [], _ => le_refl _
  | s, c :: _, h => (view_le_call h.1).trans (view_le_calls (s := s.call c) h.2)

end NetworkState

open NetworkState in
/-- **The coordinator view is a join.** From any reachable state, a set of members' heartbeats leaves one view
and role however it is delivered, and the view is the greatest of the old one and the set's. Over a run
without an election in the last epoch the view never decreases; the masks and the role stay consistent. -/
theorem view_is_join {config : NetworkConfig} {startUs : U64} {s₀ : NetworkState}
    (hinit : init config startUs = some s₀) (calls : List NetworkCall) :
    (∀ heartbeats : Finset Announcement,
      (∀ a ∈ heartbeats, memberPresent config.memberMask a.coordinatorId = true) →
      ∃ outcome : View × NetworkRole,
        IsGreatest (insert (calls.foldl call s₀).view {v | ∃ a ∈ heartbeats, a.view = v}) outcome.1 ∧
        ∀ deliveries : List (Announcement × U64),
          (∀ a, a ∈ deliveries.map Prod.fst ↔ a ∈ heartbeats) →
          ((deliveries.foldl hear (calls.foldl call s₀)).view,
            (deliveries.foldl hear (calls.foldl call s₀)).role) = outcome) ∧
    (Run.Along call (fun s c => ¬ ElectsAtLastEpoch s c) s₀ calls →
      ∀ past rest, calls = past ++ rest → (past.foldl call s₀).view ≤ (calls.foldl call s₀).view) ∧
    (calls.foldl call s₀).eligibleMask &&& config.memberMask = (calls.foldl call s₀).eligibleMask ∧
    memberPresent config.memberMask (calls.foldl call s₀).coordinatorId = true ∧
    ((calls.foldl call s₀).role ≠ .election →
      ((calls.foldl call s₀).role = .coordinator ↔ (calls.foldl call s₀).coordinatorId = config.nodeId)) := by
  have hs := calls_consistent (init_consistent hinit) calls
  refine ⟨?_, ?_, hs.eligible, hs.member, ?_⟩
  · intro heartbeats hmember
    generalize calls.foldl call s₀ = s at hs ⊢
    have hreg := hear_maxRegister config
    have hfit : ∀ deliveries : List (Announcement × U64), (∀ a, a ∈ deliveries.map Prod.fst ↔ a ∈ heartbeats) →
        ∀ d ∈ deliveries, memberPresent config.memberMask d.1.coordinatorId = true :=
      fun deliveries hd d hmem => hmember d.1 ((hd d.1).1 (List.mem_map_of_mem hmem))
    have hkeys : ∀ deliveries : List (Announcement × U64), (∀ a, a ∈ deliveries.map Prod.fst ↔ a ∈ heartbeats) →
        ∀ v, v ∈ deliveries.map (fun d => d.1.view) ↔ ∃ a ∈ heartbeats, a.view = v := by
      intro deliveries hd v
      have hmap : deliveries.map (fun d => d.1.view) = (deliveries.map Prod.fst).map Announcement.view := by
        rw [List.map_map]
        rfl
      rw [hmap, List.mem_map]
      simp only [hd]
    -- one delivery of the set, in some order, to compare every other with
    have hfirst : ∀ a, a ∈ (heartbeats.toList.map fun a => (a, (0 : U64))).map Prod.fst ↔ a ∈ heartbeats := by
      simp
    generalize (heartbeats.toList.map fun a => (a, (0 : U64))) = first at hfirst
    refine ⟨((first.foldl hear s).view, (first.foldl hear s).role), ?_, fun deliveries hd => ?_⟩
    · have hset : {v | v ∈ first.map (fun d => d.1.view)} = {v | ∃ a ∈ heartbeats, a.view = v} :=
        Set.ext (hkeys first hfirst)
      rw [← hset]
      exact hreg.isGreatest_view hs.config_eq (hfit first hfirst)
    · have hsame : ∀ v, v ∈ deliveries.map (fun d => d.1.view) ↔ v ∈ first.map (fun d => d.1.view) :=
        fun v => (hkeys deliveries hd v).trans (hkeys first hfirst v).symm
      obtain ⟨hview, hrole⟩ := hreg.agree hs.config_eq (hfit deliveries hd) (hfit first hfirst) hsame
      rw [hview, hrole]
  · rintro halong past rest rfl
    rw [List.foldl_append]
    exact view_le_calls (Run.along_append.1 halong).2
  · intro hr
    rw [hs.role hr, roleUnder_eq_coordinator]

open NetworkState in
/-- Node 2 became coordinator in epoch 1. Two heartbeats, one older and one newer, in two orders. -/
theorem rejoin_in_two_orders : ∃ s₀ s, init (defaultConfig 2) 0 = some s₀ ∧
    s = [.tick 300001, .tick 350001].foldl call s₀ ∧ s₀.view ≤ s.view ∧
    ([(⟨1, 0, 7⟩, 400000), (⟨3, 2, 9⟩, 400500), (⟨1, 0, 7⟩, 401000)].foldl hear s).view =
      ([(⟨3, 2, 9⟩, 1), (⟨1, 0, 7⟩, 2)].foldl hear s).view := by
  have hmember : ∀ a ∈ ({⟨1, 0, 7⟩, ⟨3, 2, 9⟩} : Finset Announcement),
      memberPresent (defaultConfig 2).memberMask a.coordinatorId = true := by decide
  refine ⟨_, _, rfl, rfl, ?_⟩
  have hinit : init (defaultConfig 2) 0 = some _ := rfl
  obtain ⟨hjoin, hgrow, -⟩ := view_is_join hinit [.tick 300001, .tick 350001]
  obtain ⟨outcome, -, hout⟩ := hjoin _ hmember
  refine ⟨hgrow (by decide +kernel) [] _ rfl, ?_⟩
  have hfirst := hout [(⟨1, 0, 7⟩, 400000), (⟨3, 2, 9⟩, 400500), (⟨1, 0, 7⟩, 401000)] (by simp; tauto)
  have hsecond := hout [(⟨3, 2, 9⟩, 1), (⟨1, 0, 7⟩, 2)] (by simp; tauto)
  exact congrArg Prod.fst (hfirst.trans hsecond.symm)

end OpenRef.Network
