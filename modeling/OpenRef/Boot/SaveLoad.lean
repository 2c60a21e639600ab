import OpenRef.Boot.StateStore
import OpenRef.Lib.Run
/-!
# A save and the load that follows it

`save` takes its generation and its slot from RAM, `load` compares what it finds
in the two slots. They meet when RAM knows the active slot (`Tracks`), which
every operation keeps; a store that has loaded nothing writes generation 1 into
slot 0 whatever slot 1 holds.

`reload_after_save`: exactly when a successful save is what a fresh store loads.
`save_then_load`: the same over every history of the record store and of the two
boot-state stores. `factory_state_shadowed`: after a rejected record the factory
initialisation reports success and the next load is rejected again.
-/

namespace OpenRef.Boot

/-- What a freshly initialised store loads from the medium when every read succeeds. -/
def reload (schema : Schema) (m : Medium) : Option (List U8) :=
  ((ConfigStore.init schema).load Medium.backend m.faithful).2.2

/-- The store knows the record of its active slot. -/
structure Tracks (schema : Schema) (s : ConfigStore) (m : Medium) : Prop where
  schema_eq : s.schema = schema
  active : s.loaded = true → decode schema (m.slot s.activeSlot) = some s.generation

/-- A store that has loaded nothing finds no record in slot 1 that is newer than generation 1 and
holds other bytes. -/
def Unshadowed (s : ConfigStore) (m : Medium) (payload : List U8) : Prop :=
  s.loaded = true ∨ ∀ g, decode s.schema (m.slot 1) = some g → newer g 1 = true →
    payloadOf s.schema (m.slot 1) = payload

/-! ## Load -/

theorem readValid_medium (m : Medium) (schema : Schema) (slot : Fin 2) :
    (∀ t, (readValid Medium.backend m schema slot).1.slot t = m.slot t) ∧
      ∀ r g, (readValid Medium.backend m schema slot).2 = some (r, g) →
        r = m.slot slot ∧ decode schema (m.slot slot) = some g := by
  obtain ⟨hslot, hread⟩ := Medium.read_spec m slot
  refine ⟨hslot, fun r g h => ?_⟩
  simp only [readValid, Option.bind_eq_some_iff, Option.map_eq_some_iff, Prod.mk.injEq] at h
  obtain ⟨r', hr', g', hg', rfl, rfl⟩ := h
  obtain rfl := hread r' hr'
  exact ⟨rfl, hg'⟩

/-- A load leaves the slots as they are; a record it selects is what its slot holds. -/
theorem load_medium (m : Medium) (s : ConfigStore) :
    (∀ t, (s.load Medium.backend m).1.slot t = m.slot t) ∧
      ∀ slot record g, selectRecord (readValid Medium.backend m s.schema 0).2
          (readValid Medium.backend (readValid Medium.backend m s.schema 0).1 s.schema 1).2 = some (slot, record, g) →
        record = m.slot slot ∧ decode s.schema (m.slot slot) = some g := by
  obtain ⟨hslots₀, hvalid₀⟩ := readValid_medium m s.schema 0
  obtain ⟨hslots₁, hvalid₁⟩ := readValid_medium (readValid Medium.backend m s.schema 0).1 s.schema 1
  constructor
  · intro t
    unfold ConfigStore.load
    dsimp only
    split <;> exact (hslots₁ t).trans (hslots₀ t)
  · intro slot record g hsel
    rcases selectRecord_some hsel with ⟨rfl, ha⟩ | ⟨rfl, hb⟩
    · exact hvalid₀ _ _ ha
    · rw [← hslots₀ 1]
      exact hvalid₁ _ _ hb

theorem load_tracks (schema : Schema) (s : ConfigStore) (m : Medium) (hs : s.schema = schema) :
    Tracks schema (s.load Medium.backend m).2.1 (s.load Medium.backend m).1 := by
  obtain ⟨hslots, hselected⟩ := load_medium m s
  rcases load_cases Medium.backend m s with ⟨k, h⟩ | ⟨k, slot, record, g, h, hsel⟩
  · rw [h]
    exact ⟨hs, fun hl => by cases hl⟩
  · obtain ⟨-, hg⟩ := hselected slot record g hsel
    rw [h] at hslots ⊢
    refine ⟨hs, fun _ => ?_⟩
    rw [hslots, ← hs]
    exact hg

/-- The valid record of a slot. -/
def validRecord (schema : Schema) (r : Record) : Option (Record × U32) :=
  (decode schema r).map fun g => (r, g)

/-- A fresh store loads the newer of the two valid records. -/
theorem reload_eq (schema : Schema) (m : Medium) :
    reload schema m = (selectRecord (validRecord schema (m.slot 0)) (validRecord schema (m.slot 1))).map
      fun x => payloadOf schema x.2.1 := by
  have hr (m' : Medium) (h : m'.reads = []) (slot : Fin 2) :
      readValid Medium.backend m' schema slot =
        ({ m' with reads := [] }, validRecord schema (m'.slot slot)) := by
    simp [readValid, Medium.backend, h, validRecord]
  unfold reload ConfigStore.load
  dsimp only [ConfigStore.init]
  rw [hr m.faithful rfl, hr _ rfl]
  dsimp only
  split
  · rename_i hsel
    exact congrArg (Option.map _) hsel.symm
  · rename_i hsel
    exact congrArg (Option.map fun x => payloadOf schema x.2.1) hsel.symm

/-! ## Save -/

theorem otherSlot_ne (s : Fin 2) : otherSlot s ≠ s := by
  unfold otherSlot; omega

/-- A save leaves the slot it does not write as it was. -/
theorem save_slot_other (s : ConfigStore) (m : Medium) (p : Payload) (t : Fin 2) (ht : t ≠ s.targetSlot) :
    (s.save Medium.backend m p).1.slot t = m.slot t := by
  have hw := Medium.write_other m s.targetSlot t (encodeRecord s.schema s.nextGeneration p) ht
  unfold ConfigStore.save
  dsimp only
  split
  · rfl
  · split
    · exact hw
    · split
      · exact hw
      · split <;> exact hw

/-- A save that returns true has its record in the target slot. -/
theorem save_true {s : ConfigStore} {m : Medium} {p : Payload}
    (h : (s.save Medium.backend m p).2.2 = true) :
    s.nextGeneration ≠ 0 ∧
      (s.save Medium.backend m p).2.1 =
        { s with generation := s.nextGeneration, activeSlot := s.targetSlot, loaded := true } ∧
      (s.save Medium.backend m p).1.slot s.targetSlot = encodeRecord s.schema s.nextGeneration p := by
  rcases save_cases Medium.backend m s p with ⟨k, n, hf⟩ | ⟨hg, -, hread, hs⟩
  · rw [hf] at h; cases h
  · refine ⟨ConfigStore.nextGeneration_ne hg, by rw [hs], ?_⟩
    have hspec := Medium.read_spec (Medium.backend.writeSlot m s.targetSlot
      (encodeRecord s.schema s.nextGeneration p)).1 s.targetSlot
    rw [hs]
    exact (hspec.1 _).trans (hspec.2 _ hread).symm

theorem save_tracks {schema : Schema} {s : ConfigStore} {m : Medium} (p : Payload) (ht : Tracks schema s m) :
    Tracks schema (s.save Medium.backend m p).2.1 (s.save Medium.backend m p).1 := by
  cases hr : (s.save Medium.backend m p).2.2 with
  | true =>
    obtain ⟨hg, hs, hslot⟩ := save_true hr
    rw [hs]
    exact ⟨ht.schema_eq, fun _ => by rw [hslot, ht.schema_eq, decode_encodeRecord schema hg]⟩
  | false =>
    have hother := save_slot_other s m p s.activeSlot
    rcases save_cases Medium.backend m s p with ⟨k, n, hf⟩ | ⟨-, -, -, hs⟩
    · rw [hf] at hother ⊢
      refine ⟨ht.schema_eq, fun hl => ?_⟩
      have hne : s.activeSlot ≠ s.targetSlot := by
        simp only at hl
        rw [ConfigStore.targetSlot, if_pos hl]
        exact (otherSlot_ne _).symm
      rw [hother hne]
      exact ht.active hl
    · rw [hs] at hr; cases hr

theorem newer_succ (g : U32) : newer (g + 1) g = true := by
  rw [newer, Serial.after_iff_sub]
  have : g + 1 - g = 1 := by bv_omega
  rw [this]
  decide

theorem not_newer_succ (g : U32) : newer g (g + 1) = false := by
  rw [Bool.eq_false_iff, newer, ne_eq, Serial.after_iff_sub]
  have : g - (g + 1) = 0xffffffff := by bv_omega
  rw [this]
  decide

/-- Next to a slot that holds nothing valid, a valid record is what a fresh store loads. -/
theorem reload_of_single {schema : Schema} {m : Medium} {slot : Fin 2} {g : U32}
    (h : decode schema (m.slot slot) = some g) (hother : decode schema (m.slot (otherSlot slot)) = none) :
    reload schema m = some (payloadOf schema (m.slot slot)) := by
  rw [reload_eq]
  rcases Fin.exists_fin_two.1 ⟨slot, rfl⟩ with rfl | rfl
  · have hother : decode schema (m.slot 1) = none := hother
    simp [validRecord, h, hother, selectRecord]
  · have hother : decode schema (m.slot 0) = none := hother
    simp [validRecord, h, hother, selectRecord]

/-- A record with the next generation is what a fresh store loads. -/
theorem reload_of_succ {schema : Schema} {m : Medium} {slot : Fin 2} {g : U32}
    (h : decode schema (m.slot slot) = some (g + 1)) (hother : decode schema (m.slot (otherSlot slot)) = some g) :
    reload schema m = some (payloadOf schema (m.slot slot)) := by
  rw [reload_eq]
  rcases Fin.exists_fin_two.1 ⟨slot, rfl⟩ with rfl | rfl
  · have hother : decode schema (m.slot 1) = some g := hother
    simp only [validRecord, h, hother, Option.map_some, selectRecord, not_newer_succ, Bool.false_eq_true, if_false]
  · have hother : decode schema (m.slot 0) = some g := hother
    simp only [validRecord, h, hother, Option.map_some, selectRecord, newer_succ, if_true]

theorem otherSlot_otherSlot (s : Fin 2) : otherSlot (otherSlot s) = s := by
  unfold otherSlot; omega

/-- The record of a store that has one loaded, once it is in the target slot next to the active one. -/
theorem reload_of_target {schema : Schema} {s : ConfigStore} {m m' : Medium} {p : Payload} (ht : Tracks schema s m)
    (hl : s.loaded = true) (hg : s.nextGeneration ≠ 0) (hactive : m'.slot s.activeSlot = m.slot s.activeSlot)
    (htarget : m'.slot s.targetSlot = encodeRecord s.schema s.nextGeneration p) :
    reload schema m' = some (p.live schema) := by
  obtain rfl := ht.schema_eq
  have hnext : s.nextGeneration = s.generation + 1 := by rw [ConfigStore.nextGeneration, if_pos hl]
  have hother : otherSlot s.targetSlot = s.activeSlot := by
    rw [ConfigStore.targetSlot, if_pos hl, otherSlot_otherSlot]
  have hnew : decode s.schema (m'.slot s.targetSlot) = some (s.generation + 1) := by
    rw [htarget, decode_encodeRecord _ hg, hnext]
  have hold : decode s.schema (m'.slot (otherSlot s.targetSlot)) = some s.generation := by
    rw [hother, hactive, ht.active hl]
  rw [reload_of_succ hnew hold, htarget, payloadOf_encodeRecord]

/-- **When a successful save is what a fresh store loads.** -/
theorem reload_after_save {schema : Schema} {s : ConfigStore} {m : Medium} {p : Payload}
    (ht : Tracks schema s m) (h : (s.save Medium.backend m p).2.2 = true) :
    reload schema (s.save Medium.backend m p).1 = some (p.live schema) ↔
      Unshadowed s m (p.live schema) := by
  obtain ⟨hg, -, hslot⟩ := save_true h
  have hother := save_slot_other s m p (otherSlot s.targetSlot) (otherSlot_ne _)
  cases hl : s.loaded with
  | true =>
    have hactive : otherSlot s.targetSlot = s.activeSlot := by
      rw [ConfigStore.targetSlot, if_pos hl, otherSlot_otherSlot]
    rw [hactive] at hother
    exact iff_of_true (reload_of_target ht hl hg hother hslot) (.inl hl)
  | false =>
    obtain rfl := ht.schema_eq
    have hnew : validRecord s.schema ((s.save Medium.backend m p).1.slot s.targetSlot) =
        some (encodeRecord s.schema s.nextGeneration p, s.nextGeneration) := by
      rw [hslot, validRecord, decode_encodeRecord _ hg]; rfl
    have hnext : s.nextGeneration = 1 := by rw [ConfigStore.nextGeneration, hl]; rfl
    have htarget : s.targetSlot = 0 := by rw [ConfigStore.targetSlot, hl]; rfl
    rw [htarget] at hnew hother
    rw [reload_eq, Unshadowed, hl]
    have hold : (s.save Medium.backend m p).1.slot 1 = m.slot 1 := hother
    rw [hnew, hold, validRecord]
    cases hd : decode s.schema (m.slot 1) with
    | none => simp [selectRecord, payloadOf_encodeRecord]
    | some g =>
      simp only [Option.map_some, selectRecord, hnext]
      cases hn : newer g 1 with
      | true =>
        refine ⟨fun h => .inr fun g' hg' _ => Option.some.inj h, fun h => congrArg some ?_⟩
        rcases h with h | h
        · cases h
        · exact h g rfl hn
      | false =>
        refine ⟨fun _ => .inr fun g' hg' hn' => ?_, fun _ => congrArg some (payloadOf_encodeRecord _ _ _)⟩
        rw [← Option.some.inj hg', hn] at hn'
        cases hn'

/-! ## Histories -/

/-- The operations on a record store; `forget` is `records.loaded = false`
(openref_boot_state_store.c:81). -/
inductive RecordOp
  | init
  | load
  | save (payload : Payload)
  | forget

def RecordOp.step (w : ConfigStore × Medium) : RecordOp → ConfigStore × Medium
  | .init => (ConfigStore.init w.1.schema, w.2)
  | .load => let r := w.1.load Medium.backend w.2; (r.2.1, r.1)
  | .save p => let r := w.1.save Medium.backend w.2 p; (r.2.1, r.1)
  | .forget => ({ w.1 with loaded := false }, w.2)

/-- The operations on the portable boot-state store. -/
inductive StateStoreOp
  | init
  | load
  | factoryInitialize (initial : BootState)
  | save (state : BootState)

def StateStoreOp.step (w : BootStateStore × Medium) : StateStoreOp → BootStateStore × Medium
  | .init => (BootStateStore.init, w.2)
  | .load => let r := w.1.load Medium.backend w.2; (r.2.1, r.1)
  | .factoryInitialize initial => let r := w.1.factoryInitialize Medium.backend w.2 initial; (r.2.1, r.1)
  | .save state => let r := w.1.save Medium.backend w.2 state; (r.2.1, r.1)

/-- The operations on the RT595 boot state. -/
inductive Rt595Op
  | init
  | load
  | initializeRecord (confirmed : U8) (minimum : U32)
  | stage (candidate : U8) (slots : BootSlots)
  | select (slots : BootSlots) (maximum : U8)
  | confirm (running : U8) (slots : BootSlots)

def Rt595Op.step (w : Rt595BootState × Medium) : Rt595Op → Rt595BootState × Medium
  | .init => (Rt595BootState.init, w.2)
  | .load => let r := w.1.load Medium.backend w.2; (r.2.1, r.1)
  | .initializeRecord c v => let r := w.1.initializeRecord Medium.backend w.2 c v; (r.2.1, r.1)
  | .stage c slots => let r := w.1.stage Medium.backend w.2 c slots; (r.2.1, r.1)
  | .select slots n => let r := w.1.select Medium.backend w.2 slots n; (r.2.1, r.1)
  | .confirm c slots => let r := w.1.confirm Medium.backend w.2 c slots; (r.2.1, r.1)

theorem init_tracks (schema : Schema) (m : Medium) : Tracks schema (ConfigStore.init schema) m :=
  ⟨rfl, fun h => by cases h⟩

theorem forget_tracks {schema : Schema} {s : ConfigStore} {m : Medium} (h : Tracks schema s m) :
    Tracks schema { s with loaded := false } m := ⟨h.schema_eq, fun hl => by cases hl⟩

theorem record_step_tracks {schema : Schema} (w : ConfigStore × Medium) (op : RecordOp)
    (h : Tracks schema w.1 w.2) : Tracks schema (op.step w).1 (op.step w).2 := by
  cases op with
  | init => exact h.schema_eq ▸ init_tracks _ _
  | load => exact load_tracks schema w.1 w.2 h.schema_eq
  | save p => exact save_tracks p h
  | forget => exact forget_tracks h

theorem stateStore_step_tracks (w : BootStateStore × Medium) (op : StateStoreOp)
    (h : Tracks bootStateSchema w.1.records w.2) :
    Tracks bootStateSchema (op.step w).1.records (op.step w).2 := by
  cases op with
  | init => exact init_tracks _ _
  | load =>
    have hl := load_tracks bootStateSchema w.1.records w.2 h.schema_eq
    simp only [StateStoreOp.step, BootStateStore.load]
    split
    · exact forget_tracks hl
    · exact hl
  | factoryInitialize initial =>
    simp only [StateStoreOp.step, BootStateStore.factoryInitialize]
    split
    · exact h
    · exact save_tracks _ h
  | save state =>
    simp only [StateStoreOp.step, BootStateStore.save]
    split
    · exact h
    · exact save_tracks _ h

theorem rt595_save_tracks {b : Rt595BootState} {m : Medium} (h : Tracks bootStateSchema b.store m) :
    Tracks bootStateSchema (b.save Medium.backend m).2.1.store (b.save Medium.backend m).1 :=
  save_tracks _ h

theorem rt595_commit_tracks {b : Rt595BootState} {m : Medium} (h : Tracks bootStateSchema b.store m)
    (next : Option BootState) :
    Tracks bootStateSchema (b.commit Medium.backend m next).2.1.store (b.commit Medium.backend m next).1 := by
  unfold Rt595BootState.commit
  cases next with
  | none => exact h
  | some state =>
    have hs := rt595_save_tracks (b := { b with state := state }) h
    dsimp only
    split <;> exact hs

theorem rt595_step_tracks (w : Rt595BootState × Medium) (op : Rt595Op)
    (h : Tracks bootStateSchema w.1.store w.2) :
    Tracks bootStateSchema (op.step w).1.store (op.step w).2 := by
  cases op with
  | init => exact init_tracks _ _
  | load =>
    have hl := load_tracks bootStateSchema w.1.store w.2 h.schema_eq
    simp only [Rt595Op.step, Rt595BootState.load]
    split <;> exact hl
  | initializeRecord c v =>
    have hs := rt595_save_tracks (b := { w.1 with state := ⟨1, v, c, noSlot, 0⟩ }) h
    simp only [Rt595Op.step, Rt595BootState.initializeRecord]
    split
    · exact h
    · split <;> exact hs
  | stage c slots =>
    simp only [Rt595Op.step, Rt595BootState.stage]
    split
    · exact h
    · exact rt595_commit_tracks h _
  | select slots n =>
    have hs := rt595_save_tracks (b := { w.1 with state := (Boot.select w.1.state slots n).1 }) h
    simp only [Rt595Op.step, Rt595BootState.select]
    split
    · exact h
    · split
      · exact h
      · split <;> exact hs
  | confirm c slots =>
    simp only [Rt595Op.step, Rt595BootState.confirm]
    split
    · exact h
    · exact rt595_commit_tracks h _

theorem factory_true {b : BootStateStore} {m : Medium} {initial : BootState}
    (h : (b.factoryInitialize Medium.backend m initial).2.2 = true) :
    (b.records.save Medium.backend m (encodeState initial)).2.2 = true ∧
      (b.factoryInitialize Medium.backend m initial).1 =
        (b.records.save Medium.backend m (encodeState initial)).1 := by
  unfold BootStateStore.factoryInitialize at h ⊢
  split at h
  · cases h
  · rename_i hc
    rw [if_neg hc]
    exact ⟨h, rfl⟩

theorem rt595_initialize_true {b : Rt595BootState} {m : Medium} {c : U8} {v : U32}
    (h : (b.initializeRecord Medium.backend m c v).2.2 = true) :
    (b.store.save Medium.backend m (encodeState ⟨1, v, c, noSlot, 0⟩)).2.2 = true ∧
      (b.initializeRecord Medium.backend m c v).1 =
        (b.store.save Medium.backend m (encodeState ⟨1, v, c, noSlot, 0⟩)).1 := by
  unfold Rt595BootState.initializeRecord at h ⊢
  split at h
  · cases h
  · rename_i hc
    rw [if_neg hc]
    dsimp only at h ⊢
    split at h
    · cases h
    · rename_i hs
      rw [if_neg hs]
      exact ⟨by simpa [Rt595BootState.save] using hs, rfl⟩

/-- **A successful save is the next load, unless slot 1 shadows it.** After any history of loads,
saves, rejections and reinitialisations over any medium, a fresh store loads what a successful save
stored exactly when the saving store had a record loaded, or slot 1 holds no valid record newer than
generation 1 with another payload. -/
theorem save_then_load (m : Medium) :
    (∀ (schema : Schema) (ops : List RecordOp) (p : Payload),
      let w := ops.foldl RecordOp.step (ConfigStore.init schema, m)
      let r := w.1.save Medium.backend w.2 p
      r.2.2 = true →
        (reload schema r.1 = some (p.live schema) ↔ Unshadowed w.1 w.2 (p.live schema))) ∧
    (∀ (ops : List StateStoreOp) (initial : BootState),
      let w := ops.foldl StateStoreOp.step (BootStateStore.init, m)
      let r := w.1.factoryInitialize Medium.backend w.2 initial
      let saved := (encodeState initial).live bootStateSchema
      r.2.2 = true → (reload bootStateSchema r.1 = some saved ↔ Unshadowed w.1.records w.2 saved)) ∧
    (∀ (ops : List Rt595Op) (confirmed : U8) (minimum : U32),
      let w := ops.foldl Rt595Op.step (Rt595BootState.init, m)
      let r := w.1.initializeRecord Medium.backend w.2 confirmed minimum
      let saved := (encodeState ⟨1, minimum, confirmed, noSlot, 0⟩).live bootStateSchema
      r.2.2 = true → (reload bootStateSchema r.1 = some saved ↔ Unshadowed w.1.store w.2 saved)) := by
  refine ⟨fun schema ops p h => ?_, fun ops initial h => ?_, fun ops c v h => ?_⟩
  · have ht := Run.inv_run (P := fun w => Tracks schema w.1 w.2) record_step_tracks
      (s := (ConfigStore.init schema, m)) (init_tracks schema m) ops
    exact reload_after_save ht h
  · have ht := Run.inv_run (P := fun w => Tracks bootStateSchema w.1.records w.2) stateStore_step_tracks
      (s := (BootStateStore.init, m)) (init_tracks _ _) ops
    obtain ⟨hs, hk⟩ := factory_true h
    rw [hk]
    exact reload_after_save ht hs
  · have ht := Run.inv_run (P := fun w => Tracks bootStateSchema w.1.store w.2) rt595_step_tracks
      (s := (Rt595BootState.init, m)) (init_tracks _ _) ops
    obtain ⟨hs, hk⟩ := rt595_initialize_true h
    rw [hk]
    exact reload_after_save ht hs

/-- A slot of erased flash. -/
def erasedRecord : Record := Bytes.filled _ 0xff

/-- Erased flash behind the slots, one failing write ahead. -/
def erasedMedium : Medium := ⟨erasedRecord, erasedRecord, [], [⟨erasedRecord, false⟩]⟩

/-- The rule at a store whose first save fails and whose second one is loaded again. -/
theorem save_then_load_erased :
    let p := encodeState ⟨1, 3, slotA, noSlot, 0⟩
    let w := [RecordOp.load, .save p].foldl RecordOp.step (ConfigStore.init bootStateSchema, erasedMedium)
    reload bootStateSchema (w.1.save Medium.backend w.2 p).1 = some (p.live bootStateSchema) :=
  ((save_then_load erasedMedium).1 bootStateSchema [.load, .save _] _ (by decide +kernel)).2
    (by
      refine .inr fun g hg _ => absurd hg ?_
      have : decode bootStateSchema erasedRecord = none := by decide +kernel
      exact this ▸ fun h => by cases h)

/-- Slot 1 holds a record of generation 5 that is not a valid boot state: its version is 2. -/
def rejectedMedium : Medium :=
  ⟨erasedRecord, encodeRecord bootStateSchema 5 (encodeState ⟨2, 3, slotA, noSlot, 0⟩), [], []⟩

/-- The factory initialisation of a store whose record was rejected reports success, and the next
load finds the rejected record again. -/
theorem factory_state_shadowed :
    ¬ ∀ (m : Medium) (ops : List StateStoreOp) (initial : BootState),
      let w := ops.foldl StateStoreOp.step (BootStateStore.init, m)
      let r := w.1.factoryInitialize Medium.backend w.2 initial
      r.2.2 = true → reload bootStateSchema r.1 = some ((encodeState initial).live bootStateSchema) :=
  fun h => absurd (h rejectedMedium [.load] ⟨1, 3, slotA, noSlot, 0⟩ (by decide +kernel)) (by decide +kernel)

end OpenRef.Boot
