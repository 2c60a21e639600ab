import OpenRef.Boot.CutSave
/-!
# The boot state across a reset (openref_rt595_boot_state.c)

A reset forgets what RAM knew and loads the record again. Between two resets every save meets its fate: it is stored, or
cut short, and then the record a fresh store finds is the old one or the new one.

`load_synced`: after a reset RAM and the record agree. `select_synced`, `stage_synced`: a selection and a staging
keep this, or fail with the old state or the new one on the medium.
-/

namespace OpenRef.Boot

/-- What becomes of a save. -/
structure SaveFate where
  leftover : Leftover
  written : Bool
  readBack : Bool
deriving DecidableEq

/-- A save that is stored. -/
def SaveFate.stored : SaveFate := ⟨.new, true, true⟩

/-- The attempt to save a payload. -/
def SaveFate.attempt (f : SaveFate) (p : Payload) : SaveAttempt := ⟨p, f.leftover, f.written, f.readBack⟩

/-- A torn boot-state record does not decode. -/
def SaveFate.Cut (f : SaveFate) : Prop := ∀ r, f.leftover = .torn r → decode bootStateSchema r = none

/-- A medium and the fates of the next saves; once these run out every save is stored. -/
structure FatedMedium where
  medium : Medium
  fates : List SaveFate

namespace FatedMedium

/-- What the next write leaves. -/
def leaves (n : FatedMedium) (slot : Fin 2) (record : Record) : Record :=
  match (n.fates.headD .stored).leftover with
  | .torn r => r
  | .old => n.medium.slot slot
  | .new => record

/-- The medium the next write of a record meets. -/
def meets (n : FatedMedium) (slot : Fin 2) (record : Record) : Medium :=
  { n.medium with
    reads := [(n.fates.headD .stored).readBack]
    writes := [⟨n.leaves slot record, (n.fates.headD .stored).written⟩] }

/-- `read_slot` and `write_slot` over the medium. -/
def backend : ConfigBackend FatedMedium where
  readSlot n slot :=
    let r := Medium.backend.readSlot n.medium slot
    ({ n with medium := r.1 }, r.2)
  writeSlot n slot record :=
    let w := Medium.backend.writeSlot (n.meets slot record) slot record
    (⟨w.1, n.fates.tail⟩, w.2)

end FatedMedium

/-- The state a fresh store loads. -/
def durable (m : Medium) : Option BootState := (reload bootStateSchema m).map decodeFields

/-! ## One save -/

theorem reload_congr {schema : Schema} {m m' : Medium} (h : ∀ t, m'.slot t = m.slot t) :
    reload schema m' = reload schema m := by
  rw [reload_eq, reload_eq, h, h]

/-- A save in one line: it is stored when the write says so and the record can be read back. -/
theorem save_eq {κ : Type} (be : ConfigBackend κ) (k : κ) {s : ConfigStore} (hg : s.generation ≠ uint32Max) (p : Payload) :
    let record := encodeRecord s.schema s.nextGeneration p
    let w := be.writeSlot k s.targetSlot record
    let r := be.readSlot w.1 s.targetSlot
    let stored := w.2 && decide (r.2 = some record)
    s.save be k p = (if w.2 then r.1 else w.1,
      if stored then { s with generation := s.nextGeneration, activeSlot := s.targetSlot, loaded := true }
      else { s with writeFailures := s.writeFailures + 1 }, stored) := by
  have hdecode := decode_encodeRecord s.schema (ConfigStore.nextGeneration_ne hg) p
  unfold ConfigStore.save
  simp only [if_neg hg]
  generalize encodeRecord s.schema s.nextGeneration p = record at hdecode ⊢
  cases be.writeSlot k s.targetSlot record with
  | mk k' written =>
    cases written with
    | false => rfl
    | true =>
      simp only [Bool.not_true, Bool.false_eq_true, if_false, Bool.true_and, if_true]
      cases be.readSlot k' s.targetSlot with
      | mk k'' read =>
        cases read with
        | none => rfl
        | some verify =>
          by_cases hv : record = verify
          · subst hv
            simp [hdecode]
          · have hne : ¬ some verify = some record := fun h => hv (Option.some.inj h).symm
            simp only [hv, hne, not_false_eq_true, or_true, ne_eq, if_true, decide_false, Bool.false_eq_true, if_false]

/-- A save meets the medium of its fate. -/
theorem save_fated (s : ConfigStore) (n : FatedMedium) (p : Payload) :
    let m := n.meets s.targetSlot (encodeRecord s.schema s.nextGeneration p)
    (s.save FatedMedium.backend n p).2 = (s.save Medium.backend m p).2 ∧
      (∀ t, (s.save FatedMedium.backend n p).1.medium.slot t = (s.save Medium.backend m p).1.slot t) ∧
      ∀ f ∈ (s.save FatedMedium.backend n p).1.fates, f ∈ n.fates := by
  by_cases hg : s.generation = uint32Max
  · unfold ConfigStore.save
    simp only [if_pos hg, true_and]
    exact ⟨fun _ => rfl, fun _ h => h⟩
  have htail : ∀ f ∈ n.fates.tail, f ∈ n.fates := fun f hf => List.mem_of_mem_tail hf
  simp only [save_eq _ _ hg, FatedMedium.backend, true_and]
  split
  · exact ⟨fun _ => rfl, htail⟩
  · exact ⟨fun _ => rfl, htail⟩

/-- RAM and the record agree, and the saves ahead are stored or cut short. -/
structure Synced (b : Rt595BootState) (n : FatedMedium) : Prop where
  loaded : b.loaded = true
  schema : b.store.schema = bootStateSchema
  safe : ∃ payload, decodeFields payload = b.state ∧ (⟨b.store, n.medium, [payload]⟩ : Saving).Safe
  cut : ∀ f ∈ n.fates, f.Cut

theorem Synced.durable {b : Rt595BootState} {n : FatedMedium} (h : Synced b n) : durable n.medium = some b.state := by
  obtain ⟨payload, hpayload, hsafe⟩ := h.safe
  obtain ⟨p, hp, hreload⟩ := hsafe.keeps
  obtain rfl := List.mem_singleton.1 hp
  have hreload : reload b.store.schema n.medium = some p := hreload
  rw [h.schema] at hreload
  rw [Boot.durable, hreload, Option.map_some, hpayload]

theorem decodeFields_live (s : BootState) : decodeFields ((encodeState s).live bootStateSchema) = s :=
  decodeFields_encodeState s

theorem safe_congr {s : ConfigStore} {m m' : Medium} {candidates : List (List U8)} (h : ∀ t, m'.slot t = m.slot t)
    (hs : (⟨s, m, candidates⟩ : Saving).Safe) : (⟨s, m', candidates⟩ : Saving).Safe := by
  obtain ⟨⟨hschema, hactive⟩, hl, hmem, p, hp, hreload⟩ := hs
  dsimp only at hschema hactive hl hmem hp hreload
  refine ⟨⟨hschema, fun hl => ?_⟩, hl, ?_, p, hp, ?_⟩
  · dsimp only
    rw [h]
    exact hactive hl
  · dsimp only
    rw [h]
    exact hmem
  · dsimp only
    rw [reload_congr h]
    exact hreload

/-- The outcomes of a save: the new state is on the medium and in RAM, or the old state or the new one is on the medium. -/
theorem save_synced {b : Rt595BootState} {n : FatedMedium} (h : Synced b n) (state : BootState) :
    let r := ({ b with state := state }.save FatedMedium.backend n)
    (r.2.2 = true → Synced r.2.1 r.1 ∧ r.2.1.state = state) ∧
      (r.2.2 = false → durable r.1.medium = some b.state ∨ durable r.1.medium = some state) := by
  obtain ⟨payload, hpayload, hsafe⟩ := h.safe
  have hfated := save_fated b.store n (encodeState state)
  have hcut : (n.fates.headD .stored).Cut := by
    cases hf : n.fates with
    | nil => exact fun r hr => by cases hr
    | cons f fs => exact h.cut f (by simp [hf])
  let w : Saving := ⟨b.store, n.medium, [payload]⟩
  let a := (n.fates.headD .stored).attempt (encodeState state)
  have hmeets : w.meets a = n.meets b.store.targetSlot (encodeRecord b.store.schema b.store.nextGeneration
      (encodeState state)) := rfl
  have hw : w.store.schema = bootStateSchema := h.schema
  have ha : a.Cut w.store.schema := hw ▸ hcut
  have hkept := Saving.safe_attempt hsafe ha
  rw [← hmeets] at hfated
  obtain ⟨hanswer, hslots, hfates⟩ := hfated
  have hstore : (w.attempt a).store = (b.store.save FatedMedium.backend n (encodeState state)).2.1 :=
    (congrArg Prod.fst hanswer).symm
  have hattempt : (w.store.save Medium.backend (w.meets a) a.payload).2.2 =
      (b.store.save FatedMedium.backend n (encodeState state)).2.2 := (congrArg Prod.snd hanswer).symm
  have hfate (f) (hf : f ∈ (b.store.save FatedMedium.backend n (encodeState state)).1.fates) : f.Cut :=
    h.cut f (hfates f hf)
  have hschema : (b.store.save FatedMedium.backend n (encodeState state)).2.1.schema = bootStateSchema := by
    rw [← hstore, Saving.attempt_schema]
    exact h.schema
  have hlive : a.payload.live w.store.schema = (encodeState state).live bootStateSchema := by rw [hw]; rfl
  refine ⟨fun hr => ⟨⟨h.loaded, hschema, ⟨(encodeState state).live bootStateSchema, decodeFields_live state, ?_⟩, hfate⟩, rfl⟩,
    fun hr => ?_⟩
  · have hr : (b.store.save FatedMedium.backend n (encodeState state)).2.2 = true := hr
    have hcandidates : (w.attempt a).candidates = [(encodeState state).live bootStateSchema] := by
      rw [← hlive]
      exact if_pos (hattempt.trans hr)
    have hsaved : (⟨(b.store.save FatedMedium.backend n (encodeState state)).2.1, (w.attempt a).medium,
        [(encodeState state).live bootStateSchema]⟩ : Saving).Safe := by
      rw [← hstore, ← hcandidates]
      exact hkept
    exact safe_congr hslots hsaved
  · have hr : (b.store.save FatedMedium.backend n (encodeState state)).2.2 = false := hr
    have hcandidates : (w.attempt a).candidates = [payload] ++ [(encodeState state).live bootStateSchema] := by
      rw [← hlive]
      exact if_neg (Bool.not_eq_true _ ▸ hattempt.trans hr)
    obtain ⟨p, hp, hreload⟩ := hkept.keeps
    rw [hstore, hschema] at hreload
    have hdurable : durable ({ b with state := state }.save FatedMedium.backend n).1.medium = some (decodeFields p) := by
      rw [durable]
      exact congrArg (Option.map decodeFields) ((reload_congr hslots).trans hreload)
    rw [hcandidates, List.mem_append, List.mem_singleton, List.mem_singleton] at hp
    rcases hp with rfl | rfl
    · exact .inl (hdurable.trans (congrArg some hpayload))
    · exact .inr (hdurable.trans (congrArg some (decodeFields_live state)))

/-! ## A selection, a staging and a load -/

/-- A selection keeps RAM and the record together, or its save fails. -/
theorem select_synced {b : Rt595BootState} {n : FatedMedium} (h : Synced b n) (slots : BootSlots) (maximum : U8) :
    let d := Boot.select b.state slots maximum
    let r := b.select FatedMedium.backend n slots maximum
    (Synced r.2.1 r.1 ∧ r.2.1.state = d.1 ∧ r.2.2 = d.2) ∨
      (r.2.2 = ⟨noSlot, .none, false⟩ ∧ (durable r.1.medium = some b.state ∨ durable r.1.medium = some d.1)) := by
  obtain ⟨hsaved, hlost⟩ := save_synced h (Boot.select b.state slots maximum).1
  have hl : ¬ (!b.loaded) = true := by simp [h.loaded]
  unfold Rt595BootState.select
  rw [if_neg hl]
  dsimp only
  cases hc : (Boot.select b.state slots maximum).2.stateChanged with
  | false =>
    simp only [Bool.not_false, if_true]
    refine .inl ⟨?_, trivial, trivial⟩
    rw [select_unchanged hc]
    exact h
  | true =>
    simp only [Bool.not_true, Bool.false_eq_true, if_false]
    cases hr : ({ b with state := (Boot.select b.state slots maximum).1 }.save FatedMedium.backend n).2.2 with
    | true =>
      obtain ⟨hsync, hstate⟩ := hsaved hr
      simp only [Bool.not_true, Bool.false_eq_true, if_false]
      exact .inl ⟨hsync, hstate, trivial⟩
    | false =>
      simp only [Bool.not_false, if_true]
      exact .inr ⟨trivial, hlost hr⟩

/-- A staging keeps RAM and the record together, or it is refused or its save fails. -/
theorem stage_synced {b : Rt595BootState} {n : FatedMedium} (h : Synced b n) (candidate : U8) (slots : BootSlots) :
    let r := b.stage FatedMedium.backend n candidate slots
    (r.2.2 = true → Synced r.2.1 r.1 ∧ Boot.stage b.state candidate slots = some r.2.1.state) ∧
      (r.2.2 = false → durable r.1.medium = some b.state ∨
        ∃ state, Boot.stage b.state candidate slots = some state ∧ durable r.1.medium = some state) := by
  have hl : ¬ (!b.loaded) = true := by simp [h.loaded]
  unfold Rt595BootState.stage Rt595BootState.commit
  rw [if_neg hl]
  cases hs : Boot.stage b.state candidate slots with
  | none => exact ⟨(fun hr => by cases hr), fun _ => .inl h.durable⟩
  | some state =>
    obtain ⟨hsaved, hlost⟩ := save_synced h state
    dsimp only
    cases hr : ({ b with state := state }.save FatedMedium.backend n).2.2 with
    | true =>
      obtain ⟨hsync, hstate⟩ := hsaved hr
      simp only [Bool.not_true, Bool.false_eq_true, if_false, hr]
      exact ⟨fun _ => ⟨hsync, congrArg some hstate.symm⟩, (fun hf => by cases hf)⟩
    | false =>
      simp only [Bool.not_false, if_true]
      refine ⟨(fun ht => by cases ht), fun _ => ?_⟩
      rcases hlost hr with hold | hnew
      · exact .inl hold
      · exact .inr ⟨state, rfl, hnew⟩

theorem load_fated (s : ConfigStore) (n : FatedMedium) :
    s.load FatedMedium.backend n =
      (⟨(s.load Medium.backend n.medium).1, n.fates⟩, (s.load Medium.backend n.medium).2) := by
  have hread (n : FatedMedium) (slot : Fin 2) : readValid FatedMedium.backend n s.schema slot =
      (⟨(readValid Medium.backend n.medium s.schema slot).1, n.fates⟩,
        (readValid Medium.backend n.medium s.schema slot).2) := rfl
  unfold ConfigStore.load
  simp only [hread]
  split <;> rfl

/-- **After a reset RAM and the record agree.** -/
theorem load_synced {m : Medium} {d : BootState} (hd : durable m = some d) (hv : stateValid d = true)
    {fates : List SaveFate} (hcut : ∀ f ∈ fates, f.Cut) :
    let r := Rt595BootState.init.load FatedMedium.backend ⟨m.faithful, fates⟩
    Synced r.2.1 r.1 ∧ r.2.1.state = d := by
  obtain ⟨payload, hreload, rfl⟩ := Option.map_eq_some_iff.1 hd
  have hload : (Rt595BootState.init.store.load Medium.backend m.faithful).2.2 = some payload := hreload
  have hfresh : reload bootStateSchema (Rt595BootState.init.store.load Medium.backend m.faithful).1 = some payload :=
    (reload_of_load fun r hr => by cases hr).trans hload
  have hsafe := safe_loaded hload hfresh
  have hschema : (Rt595BootState.init.store.load Medium.backend m.faithful).2.1.schema = bootStateSchema :=
    load_schema _ _
  unfold Rt595BootState.load
  simp only [load_fated, hload]
  exact ⟨⟨hv, hschema, ⟨payload, rfl, hsafe⟩, hcut⟩, trivial⟩

end OpenRef.Boot
