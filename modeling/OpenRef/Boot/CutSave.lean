import OpenRef.Boot.DurableState
/-!
# Saves that are cut short

A write that is cut leaves in its slot a record that does not decode, the old bytes or the new ones, whatever it
answers, and the read back may fail on top of it. `save` writes the slot that is not active, so the record in the
active slot stays.

`cut_saves_keep_record`: after any number of such saves a fresh store loads the last record that was saved or loaded,
or one of the attempts after it, exactly when the record the store started from is the one a fresh store finds. It is
not when the other slot holds a newer record and could not be read.
-/

namespace OpenRef.Boot

/-- What a write leaves in its slot. -/
inductive Leftover where
  | torn (record : Record)
  | old
  | new
deriving DecidableEq

/-- A save: what its write leaves and answers, and whether the slot can be read back. -/
structure SaveAttempt where
  payload : Payload
  leftover : Leftover
  written : Bool
  readBack : Bool
deriving DecidableEq

/-- A torn record does not decode. -/
def SaveAttempt.Cut (schema : Schema) (a : SaveAttempt) : Prop :=
  ∀ r, a.leftover = .torn r → decode schema r = none

/-- What a fresh store may load after some attempts: the last record known to be saved, and the attempts since. -/
structure Saving where
  store : ConfigStore
  medium : Medium
  candidates : List (List U8)

namespace Saving

/-- The bytes the write of an attempt leaves. -/
def leaves (w : Saving) (a : SaveAttempt) : Record :=
  match a.leftover with
  | .torn r => r
  | .old => w.medium.slot w.store.targetSlot
  | .new => encodeRecord w.store.schema w.store.nextGeneration a.payload

/-- The medium an attempt meets. -/
def meets (w : Saving) (a : SaveAttempt) : Medium :=
  { w.medium with reads := [a.readBack], writes := [⟨w.leaves a, a.written⟩] }

/-- One attempt. -/
def attempt (w : Saving) (a : SaveAttempt) : Saving :=
  let r := w.store.save Medium.backend (w.meets a) a.payload
  let payload := a.payload.live w.store.schema
  ⟨r.2.1, r.1, if r.2.2 then [payload] else w.candidates ++ [payload]⟩

/-- A store that has loaded this payload. -/
def loaded (s : ConfigStore) (m : Medium) (payload : List U8) : Saving :=
  ⟨(s.load Medium.backend m).2.1, (s.load Medium.backend m).1, [payload]⟩

/-- A fresh store loads one of the candidates. -/
def Keeps (w : Saving) : Prop := ∃ payload ∈ w.candidates, reload w.store.schema w.medium = some payload

/-- What holds through the attempts. -/
structure Safe (w : Saving) : Prop where
  tracks : Tracks w.store.schema w.store w.medium
  loaded : w.store.loaded = true
  active : payloadOf w.store.schema (w.medium.slot w.store.activeSlot) ∈ w.candidates
  keeps : w.Keeps

end Saving

/-! ## One save -/

theorem active_ne_target {s : ConfigStore} (hl : s.loaded = true) : s.activeSlot ≠ s.targetSlot := by
  rw [ConfigStore.targetSlot, if_pos hl]
  exact (otherSlot_ne _).symm

/-- A save that returns false leaves what RAM knows and the active slot as they were. -/
structure Unchanged (s s' : ConfigStore) (m m' : Medium) : Prop where
  schema : s'.schema = s.schema
  generation : s'.generation = s.generation
  activeSlot : s'.activeSlot = s.activeSlot
  loaded : s'.loaded = s.loaded
  bytes : s.loaded = true → m'.slot s.activeSlot = m.slot s.activeSlot

theorem save_false (s : ConfigStore) (m : Medium) (p : Payload) (h : (s.save Medium.backend m p).2.2 = false) :
    Unchanged s (s.save Medium.backend m p).2.1 m (s.save Medium.backend m p).1 := by
  have hslot := fun hl => save_slot_other s m p s.activeSlot (active_ne_target hl)
  rcases save_cases Medium.backend m s p with ⟨k, n, hf⟩ | ⟨-, -, -, hs⟩
  · rw [hf] at hslot ⊢
    exact ⟨rfl, rfl, rfl, rfl, hslot⟩
  · rw [hs] at h
    cases h

/-- The target slot after a save: nothing was written, or what the write leaves. -/
theorem save_target (s : ConfigStore) (m : Medium) (o : WriteOutcome) (hm : m.writes = [o]) (p : Payload) :
    (s.save Medium.backend m p).1.slot s.targetSlot = m.slot s.targetSlot ∨
      s.generation ≠ uint32Max ∧ (s.save Medium.backend m p).1.slot s.targetSlot = o.content := by
  have hput : (Medium.backend.writeSlot m s.targetSlot (encodeRecord s.schema s.nextGeneration p)).1.slot s.targetSlot =
      o.content := by
    simp only [Medium.backend, hm]
    rw [Medium.slot_put, if_pos rfl]
  unfold ConfigStore.save
  by_cases hg : s.generation = uint32Max
  · rw [if_pos hg]
    exact .inl rfl
  rw [if_neg hg]
  refine .inr ⟨hg, ?_⟩
  dsimp only
  split
  · exact hput
  · split
    · exact hput
    · split <;> exact hput

namespace Saving

/-- What an attempt leaves as it was when it fails. -/
structure Failed (w : Saving) (a : SaveAttempt) : Prop where
  same : Unchanged w.store (w.attempt a).store w.medium (w.attempt a).medium
  candidates : (w.attempt a).candidates = w.candidates ++ [a.payload.live w.store.schema]

theorem attempt_false {w : Saving} {a : SaveAttempt}
    (hr : (w.store.save Medium.backend (w.meets a) a.payload).2.2 = false) : w.Failed a := by
  obtain ⟨hschema, hgeneration, hactive, hloaded, hbytes⟩ := save_false w.store (w.meets a) a.payload hr
  exact ⟨⟨hschema, hgeneration, hactive, hloaded, hbytes⟩, if_neg (Bool.not_eq_true _ ▸ hr)⟩

theorem Failed.mem {w : Saving} {a : SaveAttempt} (hf : w.Failed a) {payload : List U8} (h : payload ∈ w.candidates) :
    payload ∈ (w.attempt a).candidates := by
  rw [hf.candidates]
  exact List.mem_append_left _ h

/-- The slots as they were: the same record is found. -/
theorem keeps_old {w : Saving} (h : w.Safe) {a : SaveAttempt} (hf : w.Failed a)
    (ht : (w.attempt a).medium.slot w.store.targetSlot = w.medium.slot w.store.targetSlot) : (w.attempt a).Keeps := by
  obtain ⟨payload, hmem, hreload⟩ := h.keeps
  refine ⟨payload, hf.mem hmem, ?_⟩
  have hslots (t : Fin 2) : (w.attempt a).medium.slot t = w.medium.slot t := by
    by_cases hta : t = w.store.activeSlot
    · rw [hta]
      exact hf.same.bytes h.loaded
    · have htt : t = w.store.targetSlot := by
        have := active_ne_target h.loaded
        omega
      rw [htt]
      exact ht
  rw [hf.same.schema, reload_eq, hslots, hslots, ← reload_eq]
  exact hreload

/-- A torn record: the active one is found. -/
theorem keeps_torn {w : Saving} (h : w.Safe) {a : SaveAttempt} (hf : w.Failed a)
    (ht : decode w.store.schema ((w.attempt a).medium.slot w.store.targetSlot) = none) : (w.attempt a).Keeps := by
  have hbytes := hf.same.bytes h.loaded
  have hvalid : decode w.store.schema ((w.attempt a).medium.slot w.store.activeSlot) = some w.store.generation := by
    rw [hbytes]
    exact h.tracks.active h.loaded
  have htarget : w.store.targetSlot = otherSlot w.store.activeSlot := if_pos h.loaded
  rw [htarget] at ht
  refine ⟨_, hf.mem h.active, ?_⟩
  rw [hf.same.schema, reload_of_single hvalid ht, hbytes]

/-- The new record: it is found. -/
theorem keeps_new {w : Saving} (h : w.Safe) {a : SaveAttempt} (hf : w.Failed a) (hg : w.store.generation ≠ uint32Max)
    (ht : (w.attempt a).medium.slot w.store.targetSlot =
      encodeRecord w.store.schema w.store.nextGeneration a.payload) : (w.attempt a).Keeps := by
  refine ⟨a.payload.live w.store.schema, ?_, ?_⟩
  · rw [hf.candidates]
    exact List.mem_append_right _ (List.mem_singleton_self _)
  · rw [hf.same.schema]
    exact reload_of_target h.tracks h.loaded (ConfigStore.nextGeneration_ne hg) (hf.same.bytes h.loaded) ht

theorem keeps_failed {w : Saving} (h : w.Safe) {a : SaveAttempt} (ha : a.Cut w.store.schema) (hf : w.Failed a) :
    (w.attempt a).Keeps := by
  rcases save_target w.store (w.meets a) ⟨w.leaves a, a.written⟩ rfl a.payload with ht | ⟨hg, ht⟩
  · exact keeps_old h hf ht
  have ht : (w.attempt a).medium.slot w.store.targetSlot = w.leaves a := ht
  unfold leaves at ht
  cases hleft : a.leftover with
  | old =>
    rw [hleft] at ht
    exact keeps_old h hf ht
  | torn r =>
    rw [hleft] at ht
    refine keeps_torn h hf ?_
    rw [ht]
    exact ha r hleft
  | new =>
    rw [hleft] at ht
    exact keeps_new h hf hg ht

theorem safe_failed {w : Saving} (h : w.Safe) {a : SaveAttempt} (ha : a.Cut w.store.schema)
    (hr : (w.store.save Medium.backend (w.meets a) a.payload).2.2 = false) : (w.attempt a).Safe := by
  have htracks : Tracks w.store.schema w.store (w.meets a) := ⟨rfl, h.tracks.active⟩
  have hf := attempt_false hr
  have hkept := save_tracks a.payload htracks
  refine ⟨hf.same.schema ▸ hkept, hf.same.loaded.trans h.loaded, ?_, keeps_failed h ha hf⟩
  rw [hf.same.schema, hf.same.activeSlot, hf.same.bytes h.loaded]
  exact hf.mem h.active

theorem safe_saved {w : Saving} (h : w.Safe) {a : SaveAttempt}
    (hr : (w.store.save Medium.backend (w.meets a) a.payload).2.2 = true) : (w.attempt a).Safe := by
  have htracks : Tracks w.store.schema w.store (w.meets a) := ⟨rfl, h.tracks.active⟩
  have hkept := save_tracks a.payload htracks
  have hother := save_slot_other w.store (w.meets a) a.payload w.store.activeSlot (active_ne_target h.loaded)
  obtain ⟨hg, hs, hslot⟩ := save_true hr
  have hcandidates : (w.attempt a).candidates = [a.payload.live w.store.schema] := if_pos hr
  have hstore : (w.attempt a).store =
      { w.store with generation := w.store.nextGeneration, activeSlot := w.store.targetSlot, loaded := true } := hs
  have hschema : (w.attempt a).store.schema = w.store.schema := by rw [hstore]
  have hactive : (w.attempt a).medium.slot (w.attempt a).store.activeSlot =
      encodeRecord w.store.schema w.store.nextGeneration a.payload := by
    rw [hstore]
    exact hslot
  refine ⟨hschema ▸ hkept, by rw [hstore], ?_, a.payload.live w.store.schema, ?_, ?_⟩
  · rw [hschema, hactive, payloadOf_encodeRecord, hcandidates]
    exact List.mem_singleton_self _
  · rw [hcandidates]
    exact List.mem_singleton_self _
  · rw [hschema]
    exact reload_of_target htracks h.loaded hg hother hslot

theorem safe_attempt {w : Saving} (h : w.Safe) {a : SaveAttempt} (ha : a.Cut w.store.schema) : (w.attempt a).Safe := by
  cases hr : (w.store.save Medium.backend (w.meets a) a.payload).2.2 with
  | true => exact safe_saved h hr
  | false => exact safe_failed h ha hr

theorem attempt_schema (w : Saving) (a : SaveAttempt) : (w.attempt a).store.schema = w.store.schema := by
  unfold attempt
  dsimp only
  rcases save_cases Medium.backend (w.meets a) w.store a.payload with ⟨k, n, hf⟩ | ⟨-, -, -, hs⟩
  · rw [hf]
  · rw [hs]

theorem safe_run {schema : Schema} : ∀ (attempts : List SaveAttempt) {w : Saving}, w.store.schema = schema → w.Safe →
    (∀ a ∈ attempts, a.Cut schema) → (attempts.foldl attempt w).Safe
  | [], _, _, h, _ => h
  | a :: attempts, w, hw, h, hcut => by
    have ha : a.Cut w.store.schema := hw ▸ hcut a List.mem_cons_self
    exact safe_run attempts ((attempt_schema w a).trans hw) (safe_attempt h ha) fun b hb =>
      hcut b (List.mem_cons_of_mem _ hb)

end Saving

/-! ## The store that starts -/

theorem load_schema (s : ConfigStore) (m : Medium) : (s.load Medium.backend m).2.1.schema = s.schema :=
  (load_tracks s.schema s m rfl).schema_eq

/-- A load that could read both slots is what a fresh store loads after it. -/
theorem reload_of_load {s : ConfigStore} {m : Medium} (hreads : ∀ r ∈ m.reads.take 2, r = true) :
    reload s.schema (s.load Medium.backend m).1 = (s.load Medium.backend m).2.2 := by
  have hread (m' : Medium) (slot : Fin 2) (h : m'.reads.headD true = true) :
      (readValid Medium.backend m' s.schema slot).2 = validRecord s.schema (m'.slot slot) := by
    simp only [readValid, Medium.backend, h, if_true, Option.bind_some, validRecord]
  have hfirst : m.reads.headD true = true := by
    cases hr : m.reads with
    | nil => rfl
    | cons r rs => exact hreads r (by simp [hr])
  have hsecond : m.reads.tail.headD true = true := by
    cases hr : m.reads with
    | nil => rfl
    | cons r rs =>
      cases hrs : rs with
      | nil => rfl
      | cons r' rs' => exact hreads r' (by simp [hr, hrs])
  have hslots := (load_medium m s).1
  have h0 := hread m 0 hfirst
  have h1 := hread (readValid Medium.backend m s.schema 0).1 1 hsecond
  rw [(readValid_medium m s.schema 0).1 1] at h1
  rw [reload_eq, hslots, hslots, ← h0, ← h1]
  unfold ConfigStore.load
  dsimp only
  split
  · next hsel => rw [hsel]; rfl
  · next hsel => rw [hsel]; rfl

theorem safe_loaded {s : ConfigStore} {m : Medium} {payload : List U8}
    (hload : (s.load Medium.backend m).2.2 = some payload)
    (hfresh : reload s.schema (s.load Medium.backend m).1 = some payload) : (Saving.loaded s m payload).Safe := by
  obtain ⟨hl, hpayload⟩ := load_some hload
  have hschema : (Saving.loaded s m payload).store.schema = s.schema := load_schema s m
  refine ⟨hschema ▸ load_tracks s.schema s m rfl, hl, ?_, payload, List.mem_singleton_self _, hschema ▸ hfresh⟩
  rw [hschema]
  exact List.mem_singleton.2 hpayload.symm

/-! ## The boot state -/

/-- The boot state, its store and the active slot are as they were. -/
structure Rt595BootState.Unchanged (b b' : Rt595BootState) (m m' : Medium) : Prop where
  state : b'.state = b.state
  store : OpenRef.Boot.Unchanged b.store b'.store m m'

theorem Unchanged.refl (s : ConfigStore) (m : Medium) : Unchanged s s m m := ⟨rfl, rfl, rfl, rfl, fun _ => rfl⟩

namespace Rt595BootState

theorem commit_false {b : Rt595BootState} {m : Medium} {next : Option BootState}
    (h : (b.commit Medium.backend m next).2.2 = false) :
    b.Unchanged (b.commit Medium.backend m next).2.1 m (b.commit Medium.backend m next).1 := by
  unfold commit at h ⊢
  cases next with
  | none => exact ⟨rfl, .refl _ _⟩
  | some state =>
    dsimp only at h ⊢
    cases hs : ({ b with state := state }.save Medium.backend m).2.2 with
    | false => exact ⟨rfl, save_false b.store m (encodeState state) hs⟩
    | true => simp [hs] at h

theorem stage_false {b : Rt595BootState} {m : Medium} {candidate : U8} {slots : BootSlots}
    (h : (b.stage Medium.backend m candidate slots).2.2 = false) :
    b.Unchanged (b.stage Medium.backend m candidate slots).2.1 m (b.stage Medium.backend m candidate slots).1 := by
  unfold stage at h ⊢
  split at h
  · next hl =>
    rw [if_pos hl]
    exact ⟨rfl, .refl _ _⟩
  · next hl =>
    rw [if_neg hl]
    exact commit_false h

theorem confirm_false {b : Rt595BootState} {m : Medium} {running : U8} {slots : BootSlots}
    (h : (b.confirm Medium.backend m running slots).2.2 = false) :
    b.Unchanged (b.confirm Medium.backend m running slots).2.1 m (b.confirm Medium.backend m running slots).1 := by
  unfold confirm at h ⊢
  split at h
  · next hl =>
    rw [if_pos hl]
    exact ⟨rfl, .refl _ _⟩
  · next hl =>
    rw [if_neg hl]
    exact commit_false h

/-- A selection that reports no change, also because it could not save one, has made none. -/
theorem select_false {b : Rt595BootState} {m : Medium} {slots : BootSlots} {maximum : U8}
    (h : (b.select Medium.backend m slots maximum).2.2.stateChanged = false) :
    b.Unchanged (b.select Medium.backend m slots maximum).2.1 m (b.select Medium.backend m slots maximum).1 := by
  unfold select at h ⊢
  by_cases hl : (!b.loaded) = true
  · rw [if_pos hl]
    exact ⟨rfl, .refl _ _⟩
  rw [if_neg hl] at h ⊢
  dsimp only at h ⊢
  cases hc : (Boot.select b.state slots maximum).2.stateChanged with
  | false => exact ⟨select_unchanged hc, .refl _ _⟩
  | true =>
    cases hs : ({ b with state := (Boot.select b.state slots maximum).1 }.save Medium.backend m).2.2 with
    | false =>
      simp only [Bool.not_true, Bool.false_eq_true, if_false, Bool.not_false, if_true]
      exact ⟨rfl, save_false b.store m _ hs⟩
    | true => simp [hc, hs] at h

end Rt595BootState

/-- **A save cut short keeps the last good record, if the store started from the one a fresh store finds.** It did
when both slots could be read. A save, a staging, a selection or a confirmation that fails changes neither
what RAM knows nor the active slot. -/
theorem cut_saves_keep_record (s : ConfigStore) (m : Medium) (payload : List U8)
    (hload : (s.load Medium.backend m).2.2 = some payload) :
    ((∀ attempts : List SaveAttempt, (∀ a ∈ attempts, a.Cut s.schema) →
        (attempts.foldl Saving.attempt (Saving.loaded s m payload)).Keeps) ↔
      reload s.schema (s.load Medium.backend m).1 = some payload) ∧
    ((∀ r ∈ m.reads.take 2, r = true) → reload s.schema (s.load Medium.backend m).1 = some payload) ∧
    (∀ (s : ConfigStore) (m : Medium) (p : Payload), (s.save Medium.backend m p).2.2 = false →
      Unchanged s (s.save Medium.backend m p).2.1 m (s.save Medium.backend m p).1) ∧
    ∀ (b : Rt595BootState) (m : Medium) (slots : BootSlots),
      (∀ candidate, (b.stage Medium.backend m candidate slots).2.2 = false →
        b.Unchanged (b.stage Medium.backend m candidate slots).2.1 m (b.stage Medium.backend m candidate slots).1) ∧
      (∀ maximum, (b.select Medium.backend m slots maximum).2.2.stateChanged = false →
        b.Unchanged (b.select Medium.backend m slots maximum).2.1 m (b.select Medium.backend m slots maximum).1) ∧
      ∀ running, (b.confirm Medium.backend m running slots).2.2 = false →
        b.Unchanged (b.confirm Medium.backend m running slots).2.1 m (b.confirm Medium.backend m running slots).1 := by
  refine ⟨⟨fun hkeeps => ?_, fun hfresh attempts hcut => ?_⟩, fun hreads => ?_, save_false, fun b m slots =>
    ⟨fun _ => Rt595BootState.stage_false, fun _ => Rt595BootState.select_false, fun _ => Rt595BootState.confirm_false⟩⟩
  · obtain ⟨p, hmem, hreload⟩ := hkeeps [] (List.forall_mem_nil _)
    have hschema : (Saving.loaded s m payload).store.schema = s.schema := load_schema s m
    have hp : p = payload := List.mem_singleton.1 hmem
    subst hp
    rw [← hschema]
    exact hreload
  · exact (Saving.safe_run attempts (load_schema s m) (safe_loaded hload hfresh) hcut).keeps
  · exact (reload_of_load hreads).trans hload

/-! ## A newer record that could not be read -/

/-- Slot 1 has the newer record, and the second read of the load fails. -/
def shadowMedium : Medium :=
  ⟨encodeRecord bootStateSchema 1 (encodeState ⟨1, 3, slotA, noSlot, 0⟩),
    encodeRecord bootStateSchema 2 (encodeState ⟨1, 4, slotA, noSlot, 0⟩), [true, false], []⟩

/-- The rule where both slots can be read: the store loads the newer record, and two saves are cut. -/
theorem cut_saves_keep_newer :
    let p := encodeState ⟨1, 5, slotA, noSlot, 0⟩
    (([⟨p, .torn erasedRecord, false, true⟩, ⟨p, .new, true, false⟩] : List SaveAttempt).foldl Saving.attempt
      (Saving.loaded (ConfigStore.init bootStateSchema) shadowMedium.faithful
        ((encodeState ⟨1, 4, slotA, noSlot, 0⟩).live bootStateSchema))).Keeps :=
  let h := cut_saves_keep_record (ConfigStore.init bootStateSchema) shadowMedium.faithful
    ((encodeState ⟨1, 4, slotA, noSlot, 0⟩).live bootStateSchema) (by decide +kernel)
  h.1.2 (h.2.1 (by decide)) _ (by
    have hnone : decode bootStateSchema erasedRecord = none := by decide +kernel
    intro a ha r hr
    simp only [List.mem_cons, List.not_mem_nil, or_false] at ha
    rcases ha with rfl | rfl
    · cases hr
      exact hnone
    · cases hr)

/-- A store whose load could not read the newer record, and a save that is cut: a fresh store loads a record
that was neither loaded nor saved. -/
theorem unread_record_comes_back :
    ¬ ∀ (s : ConfigStore) (m : Medium) (payload : List U8) (attempts : List SaveAttempt),
      (s.load Medium.backend m).2.2 = some payload → (∀ a ∈ attempts, a.Cut s.schema) →
        (attempts.foldl Saving.attempt (Saving.loaded s m payload)).Keeps := by
  intro h
  have hkeeps := h (ConfigStore.init bootStateSchema) shadowMedium
    ((encodeState ⟨1, 3, slotA, noSlot, 0⟩).live bootStateSchema)
    [⟨encodeState ⟨1, 5, slotA, noSlot, 0⟩, .old, false, true⟩] (by decide +kernel)
    (by
      intro a ha r hr
      rw [List.mem_singleton.1 ha] at hr
      cases hr)
  unfold Saving.Keeps at hkeeps
  revert hkeeps
  decide +kernel

end OpenRef.Boot
