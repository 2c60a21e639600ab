import OpenRef.Boot.SaveLoad
/-!
# The boot state in RAM and the record on the medium (openref_rt595_boot_state.c)

Between a successful `load` (or `initialize`) and the next one, the RAM copy of the
boot state is what the active record says: a `stage`, a `select` or a `confirm` whose
save fails puts the old state back and has not touched the active slot.

`booted_inSync`: so it is in every state the store can be brought to.
-/

namespace OpenRef.Boot

/-- The state the store's active record holds. -/
def durableState (b : Rt595BootState) (m : Medium) : BootState :=
  decodeFields (payloadOf bootStateSchema (m.slot b.store.activeSlot))

/-- A record is loaded and the RAM copy says what it says. -/
structure InSync (b : Rt595BootState) (m : Medium) : Prop where
  loaded : b.store.loaded = true
  tracks : Tracks bootStateSchema b.store m
  record : durableState b m = b.state

/-- A save that fails has not touched the active slot. -/
theorem inSync_save_false {b : Rt595BootState} {m : Medium} (h : InSync b m) (state : BootState)
    (hf : ({ b with state := state }.save Medium.backend m).2.2 = false) :
    InSync { ({ b with state := state }.save Medium.backend m).2.1 with state := b.state }
      ({ b with state := state }.save Medium.backend m).1 := by
  have htracks := save_tracks (encodeState state) h.tracks
  have hne : b.store.activeSlot ≠ b.store.targetSlot := by
    rw [ConfigStore.targetSlot, if_pos h.loaded]
    exact (otherSlot_ne _).symm
  have hslot := save_slot_other b.store m (encodeState state) b.store.activeSlot hne
  unfold Rt595BootState.save at hf ⊢
  dsimp only at hf ⊢
  rcases save_cases Medium.backend m b.store (encodeState state) with ⟨k, n, hs⟩ | ⟨-, -, -, hs⟩
  · rw [hs] at htracks hslot ⊢
    refine ⟨h.loaded, htracks, ?_⟩
    rw [← h.record, durableState, durableState]
    dsimp only
    rw [hslot]
  · rw [hs] at hf
    cases hf

/-- A save that succeeds makes the new record the active one. -/
theorem inSync_save_true {b : Rt595BootState} {m : Medium} (ht : Tracks bootStateSchema b.store m)
    (h : (b.save Medium.backend m).2.2 = true) :
    InSync (b.save Medium.backend m).2.1 (b.save Medium.backend m).1 := by
  have htracks := rt595_save_tracks ht
  obtain ⟨-, hs, hslot⟩ := save_true (p := encodeState b.state) h
  have hstore : (b.save Medium.backend m).2.1.store =
      { b.store with generation := b.store.nextGeneration, activeSlot := b.store.targetSlot, loaded := true } := hs
  have hrecord : (b.save Medium.backend m).1.slot b.store.targetSlot =
      encodeRecord b.store.schema b.store.nextGeneration (encodeState b.state) := hslot
  refine ⟨by rw [hstore], htracks, ?_⟩
  have hactive : (b.save Medium.backend m).2.1.store.activeSlot = b.store.targetSlot := by rw [hstore]
  rw [durableState, hactive, hrecord, ← ht.schema_eq, payloadOf_encodeRecord, ht.schema_eq]
  exact decodeFields_encodeState b.state

theorem inSync_commit {b : Rt595BootState} {m : Medium} (h : InSync b m) (next : Option BootState) :
    InSync (b.commit Medium.backend m next).2.1 (b.commit Medium.backend m next).1 := by
  unfold Rt595BootState.commit
  cases next with
  | none => exact h
  | some state =>
    dsimp only
    cases hr : ({ b with state := state }.save Medium.backend m).2.2 with
    | false =>
      simp only [Bool.not_false, if_true]
      exact inSync_save_false h state hr
    | true =>
      simp only [Bool.not_true, Bool.false_eq_true, if_false]
      exact inSync_save_true (b := { b with state := state }) h.tracks hr

/-- A confirmation that succeeds is what the next load finds. -/
theorem reload_confirm {b : Rt595BootState} {m : Medium} {running : U8} {slots : BootSlots} (h : InSync b m)
    (hc : (b.confirm Medium.backend m running slots).2.2 = true) :
    ∃ state, Boot.confirm b.state running slots = some state ∧
      reload bootStateSchema (b.confirm Medium.backend m running slots).1 =
        some ((encodeState state).live bootStateSchema) := by
  unfold Rt595BootState.confirm Rt595BootState.commit at hc ⊢
  split at hc
  · cases hc
  next hloaded =>
    rw [if_neg hloaded]
    cases hn : Boot.confirm b.state running slots with
    | none =>
      rw [hn] at hc
      cases hc
    | some state =>
      simp only [hn] at hc ⊢
      refine ⟨state, rfl, ?_⟩
      split at hc
      · cases hc
      next hok =>
        rw [if_neg hok]
        exact (reload_after_save h.tracks hc).2 (.inl h.loaded)

/-- A load that succeeds takes the payload of the slot it makes active. -/
theorem load_some {s : ConfigStore} {m : Medium} {payload : List U8}
    (h : (s.load Medium.backend m).2.2 = some payload) :
    (s.load Medium.backend m).2.1.loaded = true ∧ payload = payloadOf s.schema
      ((s.load Medium.backend m).1.slot (s.load Medium.backend m).2.1.activeSlot) := by
  obtain ⟨hslots, hselected⟩ := load_medium m s
  rcases load_cases Medium.backend m s with ⟨k, hl⟩ | ⟨k, slot, record, g, hl, hsel⟩
  · rw [hl] at h
    cases h
  · obtain ⟨hr, -⟩ := hselected slot record g hsel
    rw [hl] at h hslots ⊢
    refine ⟨rfl, ?_⟩
    dsimp only
    rw [hslots, ← hr]
    exact (Option.some.inj h).symm

/-- The states of a store that has loaded or written its record, and gone on from there. -/
inductive Booted : Rt595BootState → Medium → Prop
  | load (m : Medium) : (Rt595BootState.init.load Medium.backend m).2.2 = true →
      Booted (Rt595BootState.init.load Medium.backend m).2.1 (Rt595BootState.init.load Medium.backend m).1
  | initializeRecord (m : Medium) (confirmed : U8) (minimum : U32) :
      (Rt595BootState.init.initializeRecord Medium.backend m confirmed minimum).2.2 = true →
      Booted (Rt595BootState.init.initializeRecord Medium.backend m confirmed minimum).2.1
        (Rt595BootState.init.initializeRecord Medium.backend m confirmed minimum).1
  | stage {b : Rt595BootState} {m : Medium} (candidate : U8) (slots : BootSlots) : Booted b m →
      Booted (b.stage Medium.backend m candidate slots).2.1 (b.stage Medium.backend m candidate slots).1
  | select {b : Rt595BootState} {m : Medium} (slots : BootSlots) (maximum : U8) : Booted b m →
      Booted (b.select Medium.backend m slots maximum).2.1 (b.select Medium.backend m slots maximum).1
  | confirm {b : Rt595BootState} {m : Medium} (running : U8) (slots : BootSlots) : Booted b m →
      Booted (b.confirm Medium.backend m running slots).2.1 (b.confirm Medium.backend m running slots).1

/-- A selection that reports no change has made none. -/
theorem select_unchanged {s : BootState} {slots : BootSlots} {maximum : U8}
    (h : (select s slots maximum).2.stateChanged = false) : (select s slots maximum).1 = s := by
  unfold select at h ⊢
  split
  · rfl
  next hvalid =>
    rw [if_neg hvalid] at h
    split
    · next htrial =>
      rw [if_pos htrial] at h
      cases h
    · next htrial =>
      rw [if_neg htrial] at h
      have hnone : s.pendingSlot = noSlot := by
        by_contra hne
        dsimp only at h
        split at h
        · simp [hne] at h
        · split at h <;> simp [hne] at h
      have hdrop : dropPending s = s := if_neg (not_not.2 hnone)
      dsimp only
      split
      · exact hdrop
      · split <;> exact hdrop

/-- **The RAM copy is the durable state**, however the store was brought up. -/
theorem booted_inSync {b : Rt595BootState} {m : Medium} (h : Booted b m) : InSync b m := by
  induction h with
  | load m hl =>
    have ht := load_tracks bootStateSchema (ConfigStore.init bootStateSchema) m rfl
    unfold Rt595BootState.load at hl ⊢
    dsimp only at hl ⊢
    cases hp : (Rt595BootState.init.store.load Medium.backend m).2.2 with
    | none =>
      rw [hp] at hl
      cases hl
    | some payload =>
      obtain ⟨hloaded, hpayload⟩ := load_some hp
      refine ⟨hloaded, ht, ?_⟩
      rw [durableState, hpayload]
      rfl
  | initializeRecord m c v hw =>
    obtain ⟨hsave, -⟩ := rt595_initialize_true hw
    have hsync := inSync_save_true (b := { Rt595BootState.init with state := ⟨1, v, c, noSlot, 0⟩ })
      (init_tracks bootStateSchema m) hsave
    unfold Rt595BootState.initializeRecord at hw ⊢
    split at hw
    · cases hw
    next hvalid =>
      rw [if_neg hvalid]
      dsimp only at hw ⊢
      have hok : ¬ (!(({ Rt595BootState.init with state := ⟨1, v, c, noSlot, 0⟩ } :
          Rt595BootState).save Medium.backend m).2.2) = true := by
        intro hfail
        rw [if_pos hfail] at hw
        cases hw
      rw [if_neg hok]
      exact ⟨hsync.loaded, hsync.tracks, hsync.record⟩
  | stage c slots _ ih =>
    unfold Rt595BootState.stage
    split
    · exact ih
    · exact inSync_commit ih _
  | @select b m slots n _ ih =>
    unfold Rt595BootState.select
    split
    · exact ih
    · dsimp only
      cases hc : (Boot.select b.state slots n).2.stateChanged with
      | false =>
        simp only [Bool.not_false, if_true]
        rw [select_unchanged hc]
        exact ih
      | true =>
        simp only [Bool.not_true, Bool.false_eq_true, if_false]
        cases hr : ({ b with state := (Boot.select b.state slots n).1 }.save Medium.backend m).2.2 with
        | false =>
          simp only [Bool.not_false, if_true]
          exact inSync_save_false ih _ hr
        | true =>
          simp only [Bool.not_true, Bool.false_eq_true, if_false]
          exact inSync_save_true (b := { b with state := (Boot.select b.state slots n).1 }) ih.tracks hr
  | confirm running slots _ ih =>
    unfold Rt595BootState.confirm
    split
    · exact ih
    · exact inSync_commit ih _

end OpenRef.Boot
