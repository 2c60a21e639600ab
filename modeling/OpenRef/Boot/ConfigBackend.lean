import OpenRef.Boot.StateStore
/-!
# The RT595 record backend (openref_rt595_config_backend.c)

The two slots of a record store are two sectors of flash, one right behind the
other. `save_frame` and `stage_frame`: a save stays in what the two callbacks of
its backend touch.
-/

namespace OpenRef.Boot

/-- `openref_rt595_config_backend_t`; the driver is passed to each call, and the bounds of the flash are
read by `init` alone. -/
structure Rt595ConfigBackend where
  configStart : U32
  sectorBytes : U32
  pageBytes : U32
deriving DecidableEq, Repr

variable {κ : Type}

namespace Rt595ConfigBackend

/-- `openref_rt595_config_backend_init` (:8) with callbacks that are set. -/
def init (flashStart flashEnd protectedEnd configStart sector page : U32) : Option Rt595ConfigBackend :=
  if flashEnd ≤ flashStart || protectedEnd < flashStart || configStart < protectedEnd || sector = 0 ||
      page < BitVec.ofNat 32 configSlotBytes || 256 < page || sector < page || configStart % sector ≠ 0 ||
      configStart % page ≠ 0 || sector % page ≠ 0 || configStart < flashStart || flashEnd < configStart ||
      (flashEnd - configStart) / 2 < sector then none
  else some ⟨configStart, sector, page⟩

/-- `address` (:4). -/
def address (b : Rt595ConfigBackend) (slot : Fin 2) : U32 :=
  b.configStart + BitVec.ofNat 32 slot.val * b.sectorBytes

/-- The bytes of a read as a record. -/
def record (bytes : List U8) : Option Record := if h : bytes.length = configSlotBytes then some ⟨bytes, h⟩ else none

/-- The page of a record, 0xff behind it (:6). -/
def page (b : Rt595ConfigBackend) (r : Record) : List U8 :=
  r.bytes ++ List.replicate (b.pageBytes.toNat - configSlotBytes) 0xff

/-- `read_slot` and `write_slot` (:5-6). -/
def backend (b : Rt595ConfigBackend) (dr : FlashDriver κ) : ConfigBackend κ where
  readSlot k slot :=
    let r := dr.read k (b.address slot) (BitVec.ofNat 32 configSlotBytes)
    (r.1, r.2.bind record)
  writeSlot k slot r :=
    if 256 < b.pageBytes then (k, false)
    else
      let e := dr.erase k (b.address slot) b.sectorBytes
      if !e.2 then (e.1, false)
      else
        let p := dr.program e.1 (b.address slot) (b.page r)
        if !p.2 then (p.1, false)
        else
          let v := dr.read p.1 (b.address slot) (BitVec.ofNat 32 configSlotBytes)
          (v.1, decide (v.2 = some r.bytes))

theorem init_some {flashStart flashEnd protectedEnd configStart sector page : U32} {b : Rt595ConfigBackend}
    (h : init flashStart flashEnd protectedEnd configStart sector page = some b) :
    b = ⟨configStart, sector, page⟩ ∧ configSlotBytes ≤ page.toNat ∧ page.toNat ≤ sector.toNat ∧
      sector.toNat ≤ (flashEnd - configStart).toNat / 2 := by
  unfold init at h
  obtain ⟨hc, h⟩ := Option.ite_none_left_eq_some.1 h
  cases h
  simp only [Bool.or_eq_true, decide_eq_true_eq, not_or, BitVec.not_lt] at hc
  obtain ⟨⟨⟨⟨⟨⟨⟨⟨⟨-, hmin⟩, -⟩, hps⟩, -⟩, -⟩, -⟩, -⟩, -⟩, hsize⟩ := hc
  refine ⟨rfl, hmin, hps, ?_⟩
  have hle : sector.toNat ≤ ((flashEnd - configStart) / 2).toNat := hsize
  rwa [BitVec.toNat_udiv] at hle

end Rt595ConfigBackend

/-! ## The frame -/

/-- A relation on contexts that the two callbacks keep. -/
structure BackendFrame (be : ConfigBackend κ) (step : κ → κ → Prop) : Prop where
  refl : ∀ k, step k k
  trans : ∀ {a b c}, step a b → step b c → step a c
  readSlot : ∀ k slot, step k (be.readSlot k slot).1
  writeSlot : ∀ k slot r, step k (be.writeSlot k slot r).1

variable {be : ConfigBackend κ} {step : κ → κ → Prop}

theorem save_frame (hf : BackendFrame be step) (k : κ) (s : ConfigStore) (p : Payload) :
    step k (s.save be k p).1 := by
  unfold ConfigStore.save
  dsimp only
  split
  · exact hf.refl k
  · have hw := hf.writeSlot k s.targetSlot (encodeRecord s.schema s.nextGeneration p)
    have hr := hf.trans hw (hf.readSlot _ s.targetSlot)
    split
    · exact hw
    · split
      · exact hr
      · split
        · exact hr
        · exact hr

namespace Rt595BootState

theorem stage_frame (hf : BackendFrame be step) (k : κ) (b : Rt595BootState) (candidate : U8) (slots : BootSlots) :
    step k (b.stage be k candidate slots).1 := by
  unfold stage commit save
  dsimp only
  split
  · exact hf.refl k
  · split
    · exact hf.refl k
    · split
      · exact save_frame hf _ _ _
      · exact save_frame hf _ _ _

/-- Staging never moves the confirmed slot, whether the save works or not. -/
theorem stage_confirmedSlot (be : ConfigBackend κ) (k : κ) (b : Rt595BootState) (candidate : U8)
    (slots : BootSlots) : (b.stage be k candidate slots).2.1.state.confirmedSlot = b.state.confirmedSlot := by
  unfold stage commit save
  dsimp only
  split
  · rfl
  · split
    · rfl
    · rename_i next hnext
      split
      · rfl
      · exact Boot.stage_confirmedSlot hnext

end Rt595BootState

end OpenRef.Boot
