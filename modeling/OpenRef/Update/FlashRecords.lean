import OpenRef.Boot.ConfigBackend
import OpenRef.Boot.Restart
import OpenRef.Lib.NorFlash
/-!
# The boot records in the flash (openref_rt595_config_backend_mcux.c)

The two slots of the boot state store are two sectors of the flash. A save erases the sector that is not in use and
programs a page of it. Either call may fail; then it says so, and what it leaves is no record.

`save_safe`: a save is an attempt on the two slots, which may be cut short, so a load finds the state in use or the one
that was saved. `load_safe`, `load_found`: a load reads the two slots as they are.
-/

namespace OpenRef.Update

open Boot

/-! ## The driver -/

/-- `RT595_FLASH_BASE`. -/
def rt595FlashBase : U32 := 0x08000000
/-- `RT595_FLASH_END`, `OPENREF_FLASH_END`. -/
def rt595FlashEnd : U32 := 0x08200000
/-- `OPENREF_BOOT_STATE_BASE`. -/
def bootStateBase : U32 := 0x081fe000

/-- `mcux_read`, `mcux_erase` and `mcux_program` (openref_rt595_config_backend_mcux.c:6-8). The ROM gets the address less
`RT595_FLASH_BASE`, which is taken to be the flash that the memory map shows at the address; a read goes through the
map and cannot fail. The check that the source is aligned is left out: `write_slot` aligns its page. -/
def configDriver (pageSize : U32) : FlashDriver Flash where
  read f a n :=
    if a < rt595FlashBase || rt595FlashEnd < a || rt595FlashEnd - a < n then (f, none)
    else (f, some (Flash.bytesAt f.mem a.toNat n.toNat))
  erase f a n := if a < rt595FlashBase then (f, false) else f.erase a.toNat n.toNat
  program f a data :=
    if a < rt595FlashBase || BitVec.ofNat 32 data.length ≠ pageSize then (f, false) else f.program a.toNat data

/-! ## The two sectors -/

/-- An address of the boot state records. -/
def InBootState (x : Nat) : Prop := bootStateBase.toNat ≤ x ∧ x < rt595FlashEnd.toNat

/-- The records of the boot state lie in their two sectors. -/
structure RecordsFit (records : Rt595ConfigBackend) : Prop where
  start : records.configStart = bootStateBase
  page : configSlotBytes ≤ records.pageBytes.toNat ∧ records.pageBytes.toNat ≤ records.sectorBytes.toNat
  sector : records.sectorBytes.toNat ≤ 0x1000

variable {records : Rt595ConfigBackend}

theorem RecordsFit.address (h : RecordsFit records) (slot : Fin 2) :
    (records.address slot).toNat = 0x081fe000 + slot.val * records.sectorBytes.toNat ∧
      slot.val * records.sectorBytes.toNat ≤ records.sectorBytes.toNat := by
  have hbase : bootStateBase.toNat = 0x081fe000 := rfl
  have hsector := h.sector
  have hle : slot.val * records.sectorBytes.toNat ≤ records.sectorBytes.toNat := by
    calc slot.val * records.sectorBytes.toNat ≤ 1 * records.sectorBytes.toNat :=
          Nat.mul_le_mul_right _ (by omega)
      _ = records.sectorBytes.toNat := Nat.one_mul _
  have hmul : (BitVec.ofNat 32 slot.val * records.sectorBytes).toNat = slot.val * records.sectorBytes.toNat := by
    rw [BitVec.toNat_mul, BitVec.toNat_ofNat, Nat.mod_eq_of_lt (a := slot.val) (by omega)]
    exact Nat.mod_eq_of_lt (by omega)
  refine ⟨?_, hle⟩
  rw [Rt595ConfigBackend.address, h.start, BitVec.toNat_add, hmul, hbase]
  exact Nat.mod_eq_of_lt (by omega)

theorem RecordsFit.range (h : RecordsFit records) (slot : Fin 2) {x : Nat}
    (hlo : (records.address slot).toNat ≤ x)
    (hhi : x < (records.address slot).toNat + records.sectorBytes.toNat) : InBootState x := by
  have hbase : bootStateBase.toNat = 0x081fe000 := rfl
  have hend : rt595FlashEnd.toNat = 0x08200000 := rfl
  have hsector := h.sector
  obtain ⟨haddress, hle⟩ := h.address slot
  exact ⟨by omega, by omega⟩

/-- The driver takes the address of a slot. -/
theorem RecordsFit.mapped (h : RecordsFit records) (slot : Fin 2) : ¬ records.address slot < rt595FlashBase ∧
    ¬ rt595FlashEnd < records.address slot ∧
      ¬ rt595FlashEnd - records.address slot < BitVec.ofNat 32 configSlotBytes := by
  obtain ⟨haddress, hle⟩ := h.address slot
  have hsector := h.sector
  generalize records.address slot = a at haddress
  have hbase : rt595FlashBase.toNat = 0x08000000 := rfl
  have hend : rt595FlashEnd.toNat = 0x08200000 := rfl
  have hslot : (BitVec.ofNat 32 configSlotBytes).toNat = 80 := rfl
  have hsub : (rt595FlashEnd - a).toNat = 0x08200000 - a.toNat := by
    rw [BitVec.toNat_sub_of_le (BitVec.le_def.2 (by omega)), hend]
  rw [BitVec.lt_def, BitVec.lt_def, BitVec.lt_def, hsub]
  omega

/-- The record that a slot holds. -/
def slotRecord (records : Rt595ConfigBackend) (mem : Nat → U8) (slot : Fin 2) : Record :=
  ⟨Flash.bytesAt mem (records.address slot).toNat configSlotBytes, Flash.length_bytesAt _ _ _⟩

/-- The two slots as a medium. -/
def slotMedium (records : Rt595ConfigBackend) (mem : Nat → U8) : Medium :=
  ⟨slotRecord records mem 0, slotRecord records mem 1, [], []⟩

theorem slotMedium_slot (mem : Nat → U8) (slot : Fin 2) :
    (slotMedium records mem).slot slot = slotRecord records mem slot := by
  rcases Fin.exists_fin_two.1 ⟨slot, rfl⟩ with rfl | rfl <;> rfl

/-- A slot depends on the bytes of its sector. -/
theorem slotRecord_congr (h : RecordsFit records) {mem mem' : Nat → U8} {slot : Fin 2}
    (hsame : ∀ x, (records.address slot).toNat ≤ x →
      x < (records.address slot).toNat + records.sectorBytes.toNat → mem' x = mem x) :
    slotRecord records mem' slot = slotRecord records mem slot := by
  have hpage := h.page
  exact Bytes.ext_bytes (Flash.bytesAt_congr fun x hlo hhi => hsame x hlo (by omega))

theorem slotRecord_eq {mem : Nat → U8} {slot : Fin 2} {r : Record}
    (h : ∀ i (hi : i < r.bytes.length), mem ((records.address slot).toNat + i) = r.bytes[i]) :
    slotRecord records mem slot = r := by
  have hbytes : Flash.bytesAt mem (records.address slot).toNat configSlotBytes = r.bytes :=
    Flash.bytesAt_eq r.length_eq h
  exact Bytes.ext_bytes hbytes

/-- A write in the sector of a slot leaves the other slot. -/
theorem slotRecord_other (h : RecordsFit records) {slot t : Fin 2} (hne : t ≠ slot) {n : Nat}
    (hn : n ≤ records.sectorBytes.toNat) (mem content : Nat → U8) :
    slotRecord records (Flash.overwrite mem ⟨(records.address slot).toNat, n⟩ content) t =
      slotRecord records mem t := by
  refine slotRecord_congr h fun x hlo hhi => Flash.overwrite_outside ?_ mem content
  obtain ⟨hslot, -⟩ := h.address slot
  obtain ⟨ht, -⟩ := h.address t
  rintro ⟨h1, h2⟩
  dsimp only at h1 h2
  rcases Fin.exists_fin_two.1 ⟨slot, rfl⟩ with rfl | rfl <;> rcases Fin.exists_fin_two.1 ⟨t, rfl⟩ with rfl | rfl
  · exact hne rfl
  · simp only [Fin.val_zero, Fin.val_one, Nat.zero_mul, Nat.one_mul] at hslot ht
    omega
  · simp only [Fin.val_zero, Fin.val_one, Nat.zero_mul, Nat.one_mul] at hslot ht
    omega
  · exact hne rfl

/-- A write of a whole slot is what the slot holds. -/
theorem slotRecord_self {slot : Fin 2} {n : Nat} (hn : configSlotBytes ≤ n) (mem content : Nat → U8) :
    slotRecord records (Flash.overwrite mem ⟨(records.address slot).toNat, n⟩ content) slot =
      slotRecord records content slot := by
  refine Bytes.ext_bytes (Flash.bytesAt_congr fun x hlo hhi => Flash.overwrite_inside ⟨hlo, ?_⟩ mem content)
  exact Nat.lt_of_lt_of_le hhi (Nat.add_le_add_left hn _)

/-- An erased slot is no record. -/
theorem decode_erased (slot : Fin 2) : decode bootStateSchema (slotRecord records (fun _ => 0xff) slot) = none := by
  have hfield : (slotRecord records (fun _ => 0xff) slot).field 0 4 = [0xff, 0xff, 0xff, 0xff] := rfl
  unfold decode
  rw [hfield]
  exact if_pos (.inl (by decide))

/-! ## A write of a slot -/

/-- A call that does not do its work says so and leaves no record. -/
def CutCall (records : Rt595ConfigBackend) (call : FlashCall) : Prop :=
  ∀ content, call.spoiled = some content →
    call.reported = false ∧ ∀ slot, decode bootStateSchema (slotRecord records content slot) = none

/-- The slot came to hold what `P` says, the other one is as before, and no call was added. -/
structure Written (records : Rt595ConfigBackend) (slot : Fin 2) (P : Record → Prop) (f g : Flash) : Prop where
  other : ∀ t, t ≠ slot → slotRecord records g.mem t = slotRecord records f.mem t
  slot : P (slotRecord records g.mem slot)
  calls : ∀ call ∈ g.calls, call ∈ f.calls

theorem Written.mono {slot : Fin 2} {P Q : Record → Prop} {f g : Flash} (h : Written records slot P f g)
    (hPQ : ∀ r, P r → Q r) : Written records slot Q f g := ⟨h.other, hPQ _ h.slot, h.calls⟩

theorem Written.trans {slot : Fin 2} {P Q : Record → Prop} {f g k : Flash} (h : Written records slot P f g)
    (h' : Written records slot Q g k) : Written records slot Q f k :=
  ⟨fun t ht => (h'.other t ht).trans (h.other t ht), h'.slot, fun call hc => h.calls call (h'.calls call hc)⟩

theorem cut_nextCall {f : Flash} (hcut : ∀ call ∈ f.calls, CutCall records call) : CutCall records f.nextCall := by
  unfold Flash.nextCall
  cases hcalls : f.calls with
  | nil => exact nofun
  | cons call calls => exact hcut call (hcalls ▸ List.mem_cons_self)

/-- A call on the sector of a slot leaves its content in the slot or no record. -/
theorem write_written (h : RecordsFit records) {f : Flash} (hcut : ∀ call ∈ f.calls, CutCall records call)
    (slot : Fin 2) {n : Nat} (hlo : configSlotBytes ≤ n) (hhi : n ≤ records.sectorBytes.toNat) (content : Nat → U8) :
    Written records slot (fun r => r = slotRecord records content slot ∨ decode bootStateSchema r = none) f
      (f.write ⟨(records.address slot).toNat, n⟩ content).1 where
  other t ht := slotRecord_other h ht hhi _ _
  slot := by
    have hnext := cut_nextCall hcut
    unfold Flash.write
    dsimp only
    rw [slotRecord_self hlo]
    cases hspoiled : f.nextCall.spoiled with
    | none => exact .inl rfl
    | some left => exact .inr ((hnext left hspoiled).2 slot)
  calls _ hc := List.mem_of_mem_tail hc

/-- An erase leaves no record, and a blank sector where it says so. -/
theorem erase_written (h : RecordsFit records) (pageSize : U32) {f : Flash}
    (hcut : ∀ call ∈ f.calls, CutCall records call) (slot : Fin 2) :
    let e := (configDriver pageSize).erase f (records.address slot) records.sectorBytes
    Written records slot (fun r => decode bootStateSchema r = none) f e.1 ∧
      (e.2 = true → ∀ i, i < configSlotBytes → e.1.mem ((records.address slot).toNat + i) = 0xff) := by
  have hpage := h.page
  have herase : (configDriver pageSize).erase f (records.address slot) records.sectorBytes =
      f.write ⟨(records.address slot).toNat, records.sectorBytes.toNat⟩ fun _ => 0xff := if_neg (h.mapped slot).1
  have hnext := cut_nextCall hcut
  dsimp only
  rw [herase]
  refine ⟨(write_written h hcut slot (by omega) (Nat.le_refl _) _).mono ?_, fun hreported i hi => ?_⟩
  · rintro r (rfl | hnone)
    · exact decode_erased slot
    · exact hnone
  · have hdone : f.nextCall.spoiled = none := by
      cases hspoiled : f.nextCall.spoiled with
      | none => rfl
      | some left => exact absurd (hreported.symm.trans (hnext left hspoiled).1) (by decide)
    unfold Flash.write
    dsimp only
    rw [hdone]
    have hlt : i < records.sectorBytes.toNat := hi.trans_le (hpage.1.trans hpage.2)
    exact Flash.overwrite_inside ⟨Nat.le_add_right _ _, Nat.add_lt_add_left hlt _⟩ _ _

/-- A page programmed on a blank sector is the record. -/
theorem program_written (h : RecordsFit records) (pageSize : U32) {f : Flash}
    (hcut : ∀ call ∈ f.calls, CutCall records call) (slot : Fin 2) (r : Record)
    (hblank : ∀ i, i < configSlotBytes → f.mem ((records.address slot).toNat + i) = 0xff) :
    Written records slot (fun r' => r' = r ∨ decode bootStateSchema r' = none) f
      ((configDriver pageSize).program f (records.address slot) (records.page r)).1 := by
  have hpage := h.page
  have hlength : (records.page r).length = records.pageBytes.toNat := by
    rw [Rt595ConfigBackend.page, List.length_append, List.length_replicate, r.length_eq]
    omega
  dsimp only [configDriver]
  split
  · refine ⟨fun _ _ => rfl, .inr ?_, fun _ hc => hc⟩
    have hff : Flash.bytesAt f.mem (records.address slot).toNat configSlotBytes =
        Flash.bytesAt (fun _ => 0xff) (records.address slot).toNat configSlotBytes :=
      List.map_congr_left fun i hi => hblank i (List.mem_range.1 hi)
    have herased : slotRecord records f.mem slot = slotRecord records (fun _ => 0xff) slot := Bytes.ext_bytes hff
    rw [herased]
    exact decode_erased slot
  · unfold Flash.program
    refine (write_written h hcut slot (by omega) (by omega) _).mono ?_
    rintro r' (rfl | hnone)
    · refine .inl (slotRecord_eq fun i hi => ?_)
      have hi' : i < configSlotBytes := r.length_eq ▸ hi
      have hdata : (records.page r).getD i 0xff = r.bytes[i] := by
        rw [Rt595ConfigBackend.page, List.getD_eq_getElem?_getD, List.getElem?_append_left hi,
          List.getElem?_eq_getElem hi, Option.getD_some]
      rw [Nat.add_sub_cancel_left, hblank i hi', hdata]
      exact BitVec.allOnes_and
    · exact .inr hnone

theorem writeSlot_written (h : RecordsFit records) (pageSize : U32) {f : Flash}
    (hcut : ∀ call ∈ f.calls, CutCall records call) (slot : Fin 2) (r : Record) :
    Written records slot
      (fun r' => r' = slotRecord records f.mem slot ∨ r' = r ∨ decode bootStateSchema r' = none) f
      ((records.backend (configDriver pageSize)).writeSlot f slot r).1 := by
  obtain ⟨herased, hblank⟩ := erase_written h pageSize hcut slot
  have hread (g : Flash) (a n : U32) : ((configDriver pageSize).read g a n).1 = g := by
    dsimp only [configDriver]
    split <;> rfl
  dsimp only [Rt595ConfigBackend.backend]
  split
  · exact ⟨fun _ _ => rfl, .inl rfl, fun _ hc => hc⟩
  · split
    · exact herased.mono fun _ hnone => .inr (.inr hnone)
    · next hok =>
      rw [Bool.not_eq_true', Bool.not_eq_false] at hok
      have hprogram := herased.trans
        (program_written h pageSize (fun call hc => hcut call (herased.calls call hc)) slot r (hblank hok))
      split
      · exact hprogram.mono fun _ => .inr
      · rw [hread]
        exact hprogram.mono fun _ => .inr

/-! ## A save -/

/-- An attempt whose slot can be read back, in one line. -/
theorem attempt_eq (w : Saving) {a : SaveAttempt} (hread : a.readBack = true)
    (hg : w.store.generation ≠ uint32Max) :
    let stored := a.written && decide (w.leaves a = encodeRecord w.store.schema w.store.nextGeneration a.payload)
    (w.attempt a).store = (if stored then
        { w.store with generation := w.store.nextGeneration, activeSlot := w.store.targetSlot, loaded := true }
      else { w.store with writeFailures := w.store.writeFailures + 1 }) ∧
      ∀ t, (w.attempt a).medium.slot t = if t = w.store.targetSlot then w.leaves a else w.medium.slot t := by
  have hput (m : Medium) (t : Fin 2) (r : Record) : (m.put t r).reads = m.reads := by
    unfold Medium.put
    split <;> rfl
  have hslots (m : Medium) (t : Fin 2) (r : Record) (reads : List Bool) :
      ({ m.put t r with reads := reads } : Medium).slot = (m.put t r).slot := rfl
  have hmeets (t : Fin 2) : (w.meets a).slot t = w.medium.slot t := rfl
  unfold Saving.attempt
  rw [save_eq Medium.backend (w.meets a) hg]
  simp only [Medium.backend, Saving.meets, hput, hread, List.headD_cons, if_true, Medium.slot_put, Option.some.injEq]
  refine ⟨trivial, fun t => ?_⟩
  split <;> exact (Medium.slot_put _ _ _ _).trans rfl

theorem readSlot_eq (h : RecordsFit records) (pageSize : U32) (f : Flash) (slot : Fin 2) :
    (records.backend (configDriver pageSize)).readSlot f slot = (f, some (slotRecord records f.mem slot)) := by
  obtain ⟨hlo, hhi, hend⟩ := h.mapped slot
  have hread : (configDriver pageSize).read f (records.address slot) (BitVec.ofNat 32 configSlotBytes) =
      (f, some (Flash.bytesAt f.mem (records.address slot).toNat configSlotBytes)) := by
    refine if_neg ?_
    rw [Bool.or_eq_true, Bool.or_eq_true, decide_eq_true_eq, decide_eq_true_eq, decide_eq_true_eq]
    rintro ((hlt | hlt) | hlt)
    · exact hlo hlt
    · exact hhi hlt
    · exact hend hlt
  dsimp only [Rt595ConfigBackend.backend]
  rw [hread, Option.bind_some, Rt595ConfigBackend.record, dif_pos (Flash.length_bytesAt _ _ _)]
  rfl

/-- **A save is an attempt that may be cut short**: what a load finds after it is what it found before, or the payload
that was saved. -/
theorem save_safe (h : RecordsFit records) (pageSize : U32) {f : Flash}
    (hcut : ∀ call ∈ f.calls, CutCall records call) {s : ConfigStore} (hs : s.schema = bootStateSchema)
    {candidates : List (List U8)} (hsafe : (⟨s, slotMedium records f.mem, candidates⟩ : Saving).Safe) (p : Payload) :
    let r := s.save (records.backend (configDriver pageSize)) f p
    (∃ candidates', (∀ payload ∈ candidates', payload ∈ candidates ∨ payload = p.live bootStateSchema) ∧
      (⟨r.2.1, slotMedium records r.1.mem, candidates'⟩ : Saving).Safe) ∧
      r.2.1.schema = bootStateSchema ∧ ∀ call ∈ r.1.calls, call ∈ f.calls := by
  by_cases hg : s.generation = uint32Max
  · have hsave : s.save (records.backend (configDriver pageSize)) f p = (f, s, false) := if_pos hg
    rw [hsave]
    exact ⟨⟨candidates, fun _ => .inl, hsafe⟩, hs, fun _ hc => hc⟩
  have hwritten := writeSlot_written h pageSize hcut s.targetSlot (encodeRecord s.schema s.nextGeneration p)
  generalize hw : (records.backend (configDriver pageSize)).writeSlot f s.targetSlot
    (encodeRecord s.schema s.nextGeneration p) = w at hwritten
  let before : Saving := ⟨s, slotMedium records f.mem, candidates⟩
  -- what the write left decides which attempt it was
  obtain ⟨a, hcutA, hread, ha, hleaves⟩ : ∃ a : SaveAttempt, a.Cut s.schema ∧ a.readBack = true ∧
      (a.payload = p ∧ a.written = w.2) ∧ before.leaves a = slotRecord records w.1.mem s.targetSlot := by
    rcases hwritten.slot with hold | hnew | hnone
    · exact ⟨⟨p, .old, w.2, true⟩, nofun, rfl, ⟨rfl, rfl⟩, (slotMedium_slot _ _).trans hold.symm⟩
    · exact ⟨⟨p, .new, w.2, true⟩, nofun, rfl, ⟨rfl, rfl⟩, hnew.symm⟩
    · refine ⟨⟨p, .torn _, w.2, true⟩, fun r hr => ?_, rfl, ⟨rfl, rfl⟩, rfl⟩
      cases hr
      rw [hs]
      exact hnone
  obtain ⟨rfl, hanswer⟩ := ha
  have hsave := save_eq (records.backend (configDriver pageSize)) f hg a.payload
  simp only [hw, readSlot_eq h, Option.some.injEq, ite_self] at hsave
  rw [hsave]
  obtain ⟨hstore, hslots⟩ := attempt_eq before hread hg
  have hkept : (before.attempt a).Safe := Saving.safe_attempt hsafe hcutA
  rw [hleaves, hanswer] at hstore
  have hschema : (before.attempt a).store.schema = bootStateSchema := (Saving.attempt_schema before a).trans hs
  rw [hstore] at hschema
  refine ⟨⟨(before.attempt a).candidates, fun payload hp => ?_, ?_⟩, hschema, hwritten.calls⟩
  · have hlive : a.payload.live s.schema = a.payload.live bootStateSchema := by rw [hs]
    unfold Saving.attempt at hp
    dsimp only at hp
    rw [← hlive]
    split at hp
    · exact .inr (List.mem_singleton.1 hp)
    · exact (List.mem_append.1 hp).imp_right List.mem_singleton.1
  · have hmedium (t : Fin 2) : (slotMedium records w.1.mem).slot t = (before.attempt a).medium.slot t := by
      rw [slotMedium_slot, hslots]
      split
      · next ht => rw [ht, hleaves]
      · next ht => exact (hwritten.other t ht).trans (slotMedium_slot _ _).symm
    rw [← hstore]
    exact safe_congr hmedium hkept

/-! ## A load -/

theorem load_flash (h : RecordsFit records) (pageSize : U32) (f : Flash) (s : ConfigStore) :
    s.load (records.backend (configDriver pageSize)) f =
      (f, (s.load Medium.backend (slotMedium records f.mem)).2) := by
  have hflash (slot : Fin 2) : readValid (records.backend (configDriver pageSize)) f s.schema slot =
      (f, validRecord s.schema (slotRecord records f.mem slot)) := by
    unfold readValid
    rw [readSlot_eq h]
    rfl
  have hmedium (slot : Fin 2) : readValid Medium.backend (slotMedium records f.mem) s.schema slot =
      (slotMedium records f.mem, validRecord s.schema (slotRecord records f.mem slot)) := by
    rw [← slotMedium_slot]
    rfl
  unfold ConfigStore.load
  simp only [hflash, hmedium]
  split <;> rfl

/-- A load that succeeds starts from what it read. -/
theorem load_safe (h : RecordsFit records) (pageSize : U32) {f : Flash} :
    let r := Rt595BootState.init.load (records.backend (configDriver pageSize)) f
    r.2.2 = true → r.1 = f ∧ r.2.1.store.schema = bootStateSchema ∧ ∃ payload,
      (⟨r.2.1.store, slotMedium records f.mem, [payload]⟩ : Saving).Safe ∧ decodeFields payload = r.2.1.state ∧
        stateValid r.2.1.state = true := by
  have hschema := load_schema Rt595BootState.init.store (slotMedium records f.mem)
  have hslots := (load_medium (slotMedium records f.mem) Rt595BootState.init.store).1
  unfold Rt595BootState.load
  simp only [load_flash h]
  cases hload : (Rt595BootState.init.store.load Medium.backend (slotMedium records f.mem)).2.2 with
  | none => exact nofun
  | some payload =>
    have hfresh := (reload_of_load (s := Rt595BootState.init.store) (m := slotMedium records f.mem) nofun).trans hload
    exact fun hvalid => ⟨rfl, hschema, payload, safe_congr (fun t => (hslots t).symm) (safe_loaded hload hfresh), rfl,
      hvalid⟩

/-- A load finds what a fresh store finds in the two slots. -/
theorem load_found (h : RecordsFit records) (pageSize : U32) {f : Flash} {payload : List U8}
    (hreload : reload bootStateSchema (slotMedium records f.mem) = some payload)
    (hvalid : stateValid (decodeFields payload) = true) :
    let r := Rt595BootState.init.load (records.backend (configDriver pageSize)) f
    r.2.2 = true ∧ r.2.1.state = decodeFields payload := by
  have hload : (Rt595BootState.init.store.load Medium.backend (slotMedium records f.mem)).2.2 = some payload := hreload
  unfold Rt595BootState.load
  simp only [load_flash h, hload]
  exact ⟨hvalid, trivial⟩

end OpenRef.Update
