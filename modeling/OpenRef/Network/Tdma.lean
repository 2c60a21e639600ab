import Mathlib.Data.Nat.ModEq
import Mathlib.Order.Bounds.Basic
import OpenRef.Lib.Slots
import OpenRef.Network.State
/-!
# TDMA slots (openref_network.c:178-195)

A node's slots start at the schedule origin plus `node_id - 1` spacings, once in every superframe;
`openref_network_next_slot_us` rounds up to the first of them from a time on. `openref_network_init`
admits only a spacing of which six fit into a superframe.

`tdma_slots`: for any two nodes with distinct ids on one schedule the results are the least slots of
their nodes, and start at least one spacing apart, in whatever superframes they lie.
-/

namespace OpenRef.Network

/-- The node's first slot: `origin + (id - 1) * slot_spacing_us`. -/
def NetworkState.firstSlotUs (s : NetworkState) : Nat :=
  s.scheduleOriginUs.toNat + (s.config.nodeId.toNat - 1) * s.config.slotSpacingUs.toNat

/-- A time of the node's slots, not before the first one or before `notBeforeUs`. -/
def NetworkState.SlotFrom (s : NetworkState) (notBeforeUs : U64) : Set Nat :=
  { t | t ≡ s.firstSlotUs [MOD s.config.superframeUs.toNat] ∧ max notBeforeUs.toNat s.firstSlotUs ≤ t }

/-! ## One node -/

/-- What the initialisation promises of a configuration: an id from 1 to 6 and room for six slots. -/
theorem NetworkConfig.valid_spec {config : NetworkConfig} (h : config.valid = true) :
    validNodeId config.nodeId = true ∧ 1 ≤ config.nodeId.toNat ∧ config.nodeId.toNat ≤ 6 ∧
      0 < config.slotSpacingUs.toNat ∧ 6 * config.slotSpacingUs.toNat ≤ config.superframeUs.toNat := by
  have hsix : (networkMaxNodes.setWidth 64).toNat = 6 := rfl
  have hmax : networkMaxNodes.toNat = 6 := rfl
  have hone : (1 : U8).toNat = 1 := rfl
  have hzero : (0 : U32).toNat = 0 := rfl
  have hspacing := config.slotSpacingUs.isLt
  unfold NetworkConfig.valid at h
  simp only [Bool.and_eq_true, decide_eq_true_eq, ne_eq, ← BitVec.toNat_inj, hzero, BitVec.le_def, BitVec.toNat_mul,
    toNat_setWidth_64, hsix] at h
  obtain ⟨⟨⟨⟨⟨⟨⟨⟨hid, -⟩, -⟩, -⟩, hne⟩, -⟩, -⟩, -⟩, hroom⟩ := h
  rw [Nat.mod_eq_of_lt (by omega)] at hroom
  have hids := hid
  unfold validNodeId at hids
  simp only [Bool.and_eq_true, decide_eq_true_eq, BitVec.le_def, hone, hmax] at hids
  exact ⟨hid, hids.1, hids.2, by omega, hroom⟩

section

variable {s : NetworkState} {notBeforeUs : U64}

/-- The offset of a slot is below a superframe by at least one spacing. -/
theorem offset_le (h : s.config.valid = true) :
    (s.config.nodeId.toNat - 1) * s.config.slotSpacingUs.toNat + s.config.slotSpacingUs.toNat ≤
      s.config.superframeUs.toNat := by
  obtain ⟨-, hlow, hhigh, -, hroom⟩ := NetworkConfig.valid_spec h
  have hmul : (s.config.nodeId.toNat - 1 + 1) * s.config.slotSpacingUs.toNat ≤ 6 * s.config.slotSpacingUs.toNat :=
    Nat.mul_le_mul_right _ (by omega)
  rw [Nat.succ_mul] at hmul
  omega

/-- **One node.** The result is the node's slot that `Slots.next` names. -/
theorem nextSlotUs_eq (h : s.config.valid = true)
    (hfit : s.scheduleOriginUs.toNat + notBeforeUs.toNat + s.config.superframeUs.toNat < 2 ^ 64) :
    ∃ slotUs, s.nextSlotUs notBeforeUs = some slotUs ∧
      slotUs.toNat = Slots.next s.firstSlotUs s.config.superframeUs.toNat notBeforeUs.toNat := by
  obtain ⟨hid, hlow, -, hpos, -⟩ := NetworkConfig.valid_spec h
  have hoffset := offset_le h
  have hone : (1 : U8).toNat = 1 := rfl
  have hnode : ((s.config.nodeId - 1).setWidth 64).toNat = s.config.nodeId.toNat - 1 := by
    rw [BitVec.toNat_setWidth_of_le (by decide), BitVec.toNat_sub_of_le (by rw [BitVec.le_def, hone]; exact hlow), hone]
  have hfirst : (s.scheduleOriginUs + (s.config.nodeId - 1).setWidth 64 * s.config.slotSpacingUs.setWidth 64).toNat =
      s.firstSlotUs := by
    unfold NetworkState.firstSlotUs
    rw [BitVec.toNat_add, BitVec.toNat_mul, hnode, toNat_setWidth_64, Nat.mod_eq_of_lt (a := _ * _) (by omega),
      Nat.mod_eq_of_lt (by omega)]
  unfold NetworkState.nextSlotUs
  dsimp only
  rw [if_pos hid, ← apply_ite some]
  refine ⟨_, rfl, ?_⟩
  rw [Slots.toNat_next (by rw [toNat_setWidth_64]; omega), hfirst, toNat_setWidth_64]

theorem superframe_pos (h : s.config.valid = true) : 0 < s.config.superframeUs.toNat := by
  obtain ⟨-, -, -, hpos, hroom⟩ := NetworkConfig.valid_spec h
  omega

/-- `Slots.next` is the least of the node's slots. -/
theorem next_isLeast (notBeforeUs : U64) (h : s.config.valid = true) :
    IsLeast (s.SlotFrom notBeforeUs) (Slots.next s.firstSlotUs s.config.superframeUs.toNat notBeforeUs.toNat) := by
  have hp := superframe_pos h
  have hge := Slots.le_next s.firstSlotUs s.config.superframeUs.toNat notBeforeUs.toNat
  constructor
  · refine ⟨?_, Nat.max_le.2 ⟨Slots.notBefore_le_next hp _ _, hge⟩⟩
    obtain ⟨frame, hframe⟩ := Slots.next_at s.firstSlotUs s.config.superframeUs.toNat notBeforeUs.toNat
    rw [Nat.modEq_iff_dvd, hframe]
    exact ⟨-frame, by ring⟩
  · rintro t ⟨hmod, hmax⟩
    obtain ⟨hnotBefore, hfirst⟩ := Nat.max_le.1 hmax
    refine Slots.next_le hp ?_ hfirst hnotBefore
    obtain ⟨frame, hframe⟩ := (Nat.modEq_iff_dvd' hfirst).1 hmod.symm
    refine ⟨frame, ?_⟩
    rw [Nat.mul_comm] at hframe
    have hsum : t = s.firstSlotUs + frame * s.config.superframeUs.toNat := by omega
    exact_mod_cast hsum

end

/-! ## Two nodes -/

/-- Two places a spacing apart inside a superframe, in either order, keep it around the frame. -/
theorem places_apart {origin spacing period i j : Nat} (hne : i ≠ j) (hi : i < 6) (hj : j < 6) (hs : 0 < spacing)
    (hroom : 6 * spacing ≤ period) {a b : Nat} (ha : Slots.At period (origin + i * spacing : Nat) a)
    (hb : Slots.At period (origin + j * spacing : Nat) b) : Slots.Apart spacing a b := by
  have hi6 : (i + 1) * spacing ≤ 6 * spacing := Nat.mul_le_mul_right _ (by omega)
  have hj6 : (j + 1) * spacing ≤ 6 * spacing := Nat.mul_le_mul_right _ (by omega)
  rw [Nat.succ_mul] at hi6 hj6
  refine (Slots.apart_iff (by omega) (by omega)).2 ?_ a b ha hb
  have hdiff : ((origin + i * spacing : Nat) : ℤ) - ((origin + j * spacing : Nat) : ℤ) =
      ((i * spacing : Nat) : ℤ) - ((j * spacing : Nat) : ℤ) := by
    push_cast
    ring
  rw [hdiff]
  rcases Nat.lt_or_gt_of_ne hne with hlt | hgt
  · -- the difference is negative: one period on it is the residue
    have hstep : (i + 1) * spacing ≤ j * spacing := Nat.mul_le_mul_right _ hlt
    rw [Nat.succ_mul] at hstep
    rw [← Int.add_emod_right, Int.emod_eq_of_lt (by omega) (by omega)]
    omega
  · have hstep : (j + 1) * spacing ≤ i * spacing := Nat.mul_le_mul_right _ hgt
    rw [Nat.succ_mul] at hstep
    rw [Int.emod_eq_of_lt (by omega) (by omega)]
    omega

/-- **TDMA slots never overlap.** For any two nodes whose configurations the initialisation accepts, with
distinct ids, one superframe, one spacing and one schedule origin, and any times whose sum with the origin
and a superframe fits in 64 bits: each node gets the least of its slots, congruent to
`origin + (id - 1) * slot_spacing_us` and not before the time or the node's first slot, and the two slots
start at least one spacing apart. -/
theorem tdma_slots (a b : NetworkState) (startA startB notBeforeA notBeforeB : U64)
    (ha : (NetworkState.init a.config startA).isSome = true)
    (hb : (NetworkState.init b.config startB).isSome = true)
    (hid : a.config.nodeId ≠ b.config.nodeId) (hsuperframe : a.config.superframeUs = b.config.superframeUs)
    (hspacing : a.config.slotSpacingUs = b.config.slotSpacingUs) (horigin : a.scheduleOriginUs = b.scheduleOriginUs)
    (hfitA : a.scheduleOriginUs.toNat + notBeforeA.toNat + a.config.superframeUs.toNat < 2 ^ 64)
    (hfitB : b.scheduleOriginUs.toNat + notBeforeB.toNat + b.config.superframeUs.toNat < 2 ^ 64) :
    ∃ slotA slotB, a.nextSlotUs notBeforeA = some slotA ∧ b.nextSlotUs notBeforeB = some slotB ∧
      notBeforeA ≤ slotA ∧ notBeforeB ≤ slotB ∧
      IsLeast (a.SlotFrom notBeforeA) slotA.toNat ∧ IsLeast (b.SlotFrom notBeforeB) slotB.toNat ∧
      (slotA.toNat + a.config.slotSpacingUs.toNat ≤ slotB.toNat ∨
        slotB.toNat + a.config.slotSpacingUs.toNat ≤ slotA.toNat) := by
  have hvalid {s : NetworkState} {startUs : U64} (h : (NetworkState.init s.config startUs).isSome = true) :
      s.config.valid = true := by
    unfold NetworkState.init at h
    by_contra hnot
    rw [if_neg hnot] at h
    cases h
  have hva := hvalid ha
  have hvb := hvalid hb
  obtain ⟨slotA, hslotA, hnatA⟩ := nextSlotUs_eq hva hfitA
  obtain ⟨slotB, hslotB, hnatB⟩ := nextSlotUs_eq hvb hfitB
  have hleastA := next_isLeast notBeforeA hva
  have hleastB := next_isLeast notBeforeB hvb
  have hatA := Slots.next_at a.firstSlotUs a.config.superframeUs.toNat notBeforeA.toNat
  have hatB := Slots.next_at b.firstSlotUs b.config.superframeUs.toNat notBeforeB.toNat
  rw [← hnatA] at hleastA hatA
  rw [← hnatB] at hleastB hatB
  refine ⟨slotA, slotB, hslotA, hslotB, BitVec.le_def.2 ((Nat.le_max_left _ _).trans hleastA.1.2),
    BitVec.le_def.2 ((Nat.le_max_left _ _).trans hleastB.1.2), hleastA, hleastB, ?_⟩
  obtain ⟨-, hlowA, hhighA, hpos, hroom⟩ := NetworkConfig.valid_spec hva
  obtain ⟨-, hlowB, hhighB, -, -⟩ := NetworkConfig.valid_spec hvb
  unfold NetworkState.firstSlotUs at hatA hatB
  rw [← hsuperframe, ← hspacing, ← horigin] at hatB
  have hne : a.config.nodeId.toNat - 1 ≠ b.config.nodeId.toNat - 1 := by
    intro heq
    exact hid (BitVec.eq_of_toNat_eq (by omega))
  have hapart := places_apart hne (by omega) (by omega) hpos hroom hatA hatB
  unfold Slots.Apart at hapart
  omega

/-- A node of the default configuration as it starts at 1000 us. -/
def tdmaNode (nodeId : U8) : NetworkState where
  config := defaultConfig nodeId
  role := (defaultConfig nodeId).roleUnder 1
  coordinatorId := 1
  eligibleMask := 0x3f
  coordinatorEpoch := 0
  scheduleOriginUs := 1000
  lastHeartbeatUs := 1000
  nextHeartbeatUs := 101000
  electionDeadlineUs := 0
  coordinatorChanges := 0
  heartbeatTimeouts := 0
  rx := fun _ => .zero

/-- Nodes 1 and 4, asked for a slot in different superframes. -/
theorem tdma_slots_default :
    ∃ slotA slotB, (tdmaNode 1).nextSlotUs 21001 = some slotA ∧ (tdmaNode 4).nextSlotUs 8501 = some slotB ∧
      21001 ≤ slotA ∧ 8501 ≤ slotB ∧
      IsLeast ((tdmaNode 1).SlotFrom 21001) slotA.toNat ∧ IsLeast ((tdmaNode 4).SlotFrom 8501) slotB.toNat ∧
      (slotA.toNat + (tdmaNode 1).config.slotSpacingUs.toNat ≤ slotB.toNat ∨
        slotB.toNat + (tdmaNode 1).config.slotSpacingUs.toNat ≤ slotA.toNat) :=
  tdma_slots (tdmaNode 1) (tdmaNode 4) 1000 1000 21001 8501 rfl rfl (by decide) rfl rfl rfl (by decide) (by decide)

end OpenRef.Network
