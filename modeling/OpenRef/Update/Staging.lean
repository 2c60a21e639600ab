import OpenRef.Update.Verifier
import Mathlib.Tactic.Linarith
/-!
# Update staging (openref_rt595_update_staging.c)

One slot of flash: a manifest sector and, right behind it, the image region. An
image is written page by page, each page read back and hashed; the manifest is
written last, as the commit record.

`start_frame`, `write_frame`, `finish_frame`: a staging erases and programs only
its own slot, stated for any relation on contexts that the allowed flash calls and
the crypto callbacks keep (`StagingFrame`). `Fits` is the invariant of an active
staging.
-/

namespace OpenRef.Update

/-- `OPENREF_RT595_UPDATE_MAX_PAGE_BYTES`. -/
def updateMaxPageBytes : U32 := 512

/-- `openref_rt595_update_staging_t`; `page` holds the `buffered` bytes and `hasVerifier` says that the
verifier pointer, always the delivery's verifier, is set. -/
structure Staging where
  hasVerifier : Bool
  manifestBase : U32
  base : U32
  capacity : U32
  sectorBytes : U32
  pageBytes : U32
  offset : U32
  page : List U8
  failures : U32
  active : Bool
deriving DecidableEq

namespace Staging

variable {κ : Type}

/-- A page with 0xff behind its bytes, as it is programmed. -/
def padded (s : Staging) (bytes : List U8) : List U8 :=
  (bytes ++ List.replicate (s.pageBytes.toNat - bytes.length) 0xff).take s.pageBytes.toNat

/-- `openref_rt595_update_staging_init` (:33-40) with callbacks that are set. -/
def init (manifestBase base capacity sector page : U32) : Option Staging :=
  if capacity = 0 || sector = 0 || page = 0 || updateMaxPageBytes < page || sector % page ≠ 0 ||
      manifestBase % sector ≠ 0 || base % sector ≠ 0 || capacity % sector ≠ 0 ||
      uint32Max - sector < manifestBase || manifestBase + sector ≠ base || uint32Max - capacity < base then none
  else some ⟨false, manifestBase, base, capacity, sector, page, 0, [], 0, false⟩

/-- `fail` (:5-15). -/
def fail (s : Staging) (v : UpdateVerifier) : Staging × UpdateVerifier :=
  ({ s with failures := incrementSaturating s.failures, active := false },
    if s.hasVerifier then { v with active := false, verified := false } else v)

/-- A program that is read back and compared (:22-24, :80-82). -/
def programVerified (fl : FlashDriver κ) (k : κ) (address : U32) (page : List U8) : κ × Bool :=
  let p := fl.program k address page
  if !p.2 then (p.1, false)
  else
    let r := fl.read p.1 address (BitVec.ofNat 32 page.length)
    (r.1, decide (r.2 = some page))

/-- `flush` (:16-32). -/
def flush (fl : FlashDriver κ) (cr : UpdateCrypto κ) (k : κ) (s : Staging) (v : UpdateVerifier) :
    κ × Staging × UpdateVerifier × Bool :=
  if s.page = [] then (k, s, v, true)
  else
    let p := programVerified fl k (s.base + s.offset) (s.padded s.page)
    if !p.2 then (p.1, (s.fail v).1, (s.fail v).2, false)
    else
      -- the bytes read back are the ones programmed
      let w := v.write cr p.1 s.page
      if !w.2.2 then (w.1, (s.fail w.2.1).1, (s.fail w.2.1).2, false)
      else (w.1, { s with offset := s.offset + s.pageBytes, page := [] }, w.2.1, true)

/-- The bytes to erase for an image (:46). -/
def eraseBytes (s : Staging) (imageSize : U32) : U32 := (imageSize + s.sectorBytes - 1) / s.sectorBytes * s.sectorBytes

/-- `openref_rt595_update_staging_start` (:41-53). -/
def start (fl : FlashDriver κ) (k : κ) (s : Staging) (v : UpdateVerifier) : κ × Staging × UpdateVerifier × Bool :=
  if s.active || !v.active || v.verified || v.manifest.imageSize = 0 || s.capacity < v.manifest.imageSize ||
      uint32Max - (s.sectorBytes - 1) < v.manifest.imageSize then (k, s, v, false)
  else
    let s := { s with hasVerifier := true }
    let m := fl.erase k s.manifestBase s.sectorBytes
    if !m.2 then (m.1, (s.fail v).1, (s.fail v).2, false)
    else
      let i := fl.erase m.1 s.base (s.eraseBytes v.manifest.imageSize)
      if !i.2 then (i.1, (s.fail v).1, (s.fail v).2, false)
      else (i.1, { s with offset := 0, page := [], active := true }, v, true)

/-- More bytes in the page. -/
def fill (s : Staging) (bytes : List U8) : Staging := { s with page := s.page ++ bytes }

/-- The loop of `openref_rt595_update_staging_write` (:60): it fills the page and flushes it when full.
Each turn takes at least one byte, so the number of bytes bounds the turns. -/
def writeLoop (fl : FlashDriver κ) (cr : UpdateCrypto κ) :
    Nat → κ → Staging → UpdateVerifier → List U8 → κ × Staging × UpdateVerifier × Bool
  | 0, k, s, v, _ => (k, s, v, true)
  | turns + 1, k, s, v, data =>
    if data = [] then (k, s, v, true)
    else
      let n := min data.length (s.pageBytes.toNat - s.page.length)
      let s := s.fill (data.take n)
      if s.page.length = s.pageBytes.toNat then
        let f := s.flush fl cr k v
        if !f.2.2.2 then f else writeLoop fl cr turns f.1 f.2.1 f.2.2.1 (data.drop n)
      else writeLoop fl cr turns k s v (data.drop n)

/-- `buffered`. -/
def buffered (s : Staging) : U32 := BitVec.ofNat 32 s.page.length

/-- `openref_rt595_update_staging_write` (:54-61). -/
def write (fl : FlashDriver κ) (cr : UpdateCrypto κ) (k : κ) (s : Staging) (v : UpdateVerifier) (data : List U8) :
    κ × Staging × UpdateVerifier × Bool :=
  let length := BitVec.ofNat 32 data.length
  if !s.active || length = 0 || v.manifest.imageSize < s.offset || v.manifest.imageSize - s.offset < s.buffered ||
      v.manifest.imageSize - s.offset - s.buffered < length then (k, s, v, false)
  else writeLoop fl cr data.length k s v data

/-- `openref_rt595_update_staging_finish` (:62-89). -/
def finish (fl : FlashDriver κ) (cr : UpdateCrypto κ) (k : κ) (s : Staging) (v : UpdateVerifier) :
    κ × Staging × UpdateVerifier × Bool :=
  if !s.active then (k, s, v, false)
  else
    let f := s.flush fl cr k v
    if !f.2.2.2 then f
    else
      let s := f.2.1
      let d := f.2.2.1.finish cr f.1
      if !d.2.2 then (d.1, (s.fail d.2.1).1, (s.fail d.2.1).2, false)
      else
        let v := { d.2.1 with verified := false }
        let p := programVerified fl d.1 s.manifestBase (s.padded v.manifestWire.bytes)
        if !p.2 then (p.1, (s.fail v).1, (s.fail v).2, false)
        else (p.1, { s with active := false }, { v with verified := true }, true)

/-- `openref_rt595_update_staging_abort` (:90). -/
def abort (s : Staging) (v : UpdateVerifier) : Staging × UpdateVerifier :=
  ({ s with active := false, page := [], hasVerifier := false },
    if s.hasVerifier then { v with active := false, verified := false } else v)

/-! ## The slot of a staging -/

/-- What `init` checks. -/
structure Geometry (s : Staging) : Prop where
  page_pos : 0 < s.pageBytes.toNat
  page_sector : s.pageBytes.toNat ∣ s.sectorBytes.toNat
  sector_capacity : s.sectorBytes.toNat ∣ s.capacity.toNat
  sector_pos : 0 < s.sectorBytes.toNat
  base_eq : s.base.toNat = s.manifestBase.toNat + s.sectorBytes.toNat
  base_capacity : s.base.toNat + s.capacity.toNat < 2 ^ 32

/-- A range in the manifest sector and the image region. -/
def Owns (s : Staging) (address length : Nat) : Prop :=
  s.manifestBase.toNat ≤ address ∧ address + length ≤ s.base.toNat + s.capacity.toNat

/-- Two stagings of the same slot. -/
structure SameSlot (s t : Staging) : Prop where
  manifestBase : t.manifestBase = s.manifestBase
  base : t.base = s.base
  capacity : t.capacity = s.capacity
  sectorBytes : t.sectorBytes = s.sectorBytes
  pageBytes : t.pageBytes = s.pageBytes

/-- What is written goes page by page within the image, and the image within the slot. -/
structure Within (s : Staging) (v : UpdateVerifier) : Prop where
  page_offset : s.pageBytes.toNat ∣ s.offset.toNat
  written : s.offset.toNat + s.page.length ≤ v.manifest.imageSize.toNat
  image_capacity : v.manifest.imageSize.toNat ≤ s.capacity.toNat

/-- The invariant of an active staging: the page is not full between two calls. -/
structure Fits (s : Staging) (v : UpdateVerifier) : Prop extends Within s v where
  page_room : s.page.length < s.pageBytes.toNat

theorem init_some {manifestBase base capacity sector page : U32} {s : Staging}
    (h : init manifestBase base capacity sector page = some s) :
    s = ⟨false, manifestBase, base, capacity, sector, page, 0, [], 0, false⟩ ∧ Geometry s := by
  unfold init at h
  split at h
  · cases h
  · rename_i hc
    cases h
    refine ⟨rfl, ?_⟩
    simp only [Bool.or_eq_true, decide_eq_true_eq, not_or, ne_eq, Decidable.not_not, BitVec.not_lt] at hc
    obtain ⟨⟨⟨⟨⟨⟨⟨⟨⟨⟨hcap, hsec⟩, hpage⟩, hmax⟩, hsp⟩, hms⟩, hbs⟩, hcs⟩, hms'⟩, hbase⟩, hend⟩ := hc
    have pos {x : U32} (hx : ¬ x = 0) : 0 < x.toNat := by
      rcases Nat.eq_zero_or_pos x.toNat with h0 | h0
      · exact absurd (BitVec.eq_of_toNat_eq h0) hx
      · exact h0
    have dvd {x y : U32} (h0 : x % y = 0) : y.toNat ∣ x.toNat := by
      have := congrArg BitVec.toNat h0
      rw [BitVec.toNat_umod] at this
      exact Nat.dvd_of_mod_eq_zero this
    have hmax32 : uint32Max.toNat = 4294967295 := rfl
    have hsl := sector.isLt
    have hcl := capacity.isLt
    have hmle : manifestBase.toNat ≤ (uint32Max - sector).toNat := hms'
    have hble : base.toNat ≤ (uint32Max - capacity).toNat := hend
    rw [BitVec.toNat_sub, hmax32] at hmle hble
    refine ⟨pos hpage, dvd hsp, dvd hcs, pos hsec, ?_, ?_⟩
    · dsimp only
      rw [← hbase, BitVec.toNat_add]
      exact Nat.mod_eq_of_lt (by omega)
    · dsimp only
      omega

theorem Geometry.of_sameSlot {s t : Staging} (h : SameSlot s t) (hg : Geometry s) : Geometry t := by
  obtain ⟨hm, hb, hc, hs, hp⟩ := h
  obtain ⟨h1, h2, h3, h4, h5, h6⟩ := hg
  exact ⟨hp ▸ h1, hp ▸ hs ▸ h2, hs ▸ hc ▸ h3, hs ▸ h4, hb ▸ hm ▸ hs ▸ h5, hb ▸ hc ▸ h6⟩

theorem SameSlot.refl (s : Staging) : SameSlot s s := ⟨rfl, rfl, rfl, rfl, rfl⟩

theorem SameSlot.trans {s t u : Staging} (h : SameSlot s t) (h' : SameSlot t u) : SameSlot s u :=
  ⟨h'.manifestBase.trans h.manifestBase, h'.base.trans h.base, h'.capacity.trans h.capacity,
    h'.sectorBytes.trans h.sectorBytes, h'.pageBytes.trans h.pageBytes⟩

theorem SameSlot.owns {s t : Staging} (h : SameSlot s t) : t.Owns = s.Owns := by
  funext a n
  rw [Owns, Owns, h.manifestBase, h.base, h.capacity]

theorem fail_same (s : Staging) (v : UpdateVerifier) : v.Same (s.fail v).2 := by
  unfold fail
  dsimp only
  split
  · exact ⟨rfl, rfl⟩
  · exact .refl v

theorem length_padded (s : Staging) (bytes : List U8) : (s.padded bytes).length = s.pageBytes.toNat := by
  unfold padded
  rw [List.length_take, List.length_append, List.length_replicate]
  omega

/-- The page that is programmed next lies in the image region, and its address does not wrap. -/
theorem page_inside {s : Staging} {v : UpdateVerifier} (hg : Geometry s) (hf : Within s v) (hne : s.page ≠ []) :
    (s.base + s.offset).toNat = s.base.toNat + s.offset.toNat ∧
      s.offset.toNat + s.pageBytes.toNat ≤ s.capacity.toNat := by
  obtain ⟨c, hc⟩ := Nat.dvd_trans hg.page_sector hg.sector_capacity
  obtain ⟨o, ho⟩ := hf.page_offset
  have hlen : 0 < s.page.length := List.length_pos_iff.2 hne
  have hwritten := hf.written
  have himage := hf.image_capacity
  have hend := hg.base_capacity
  -- offset and capacity are whole pages, and the offset is below the capacity
  have hlt : s.pageBytes.toNat * o < s.pageBytes.toNat * c := by omega
  have hoc : o < c := Nat.lt_of_mul_lt_mul_left hlt
  have hstep : s.pageBytes.toNat * o + s.pageBytes.toNat ≤ s.pageBytes.toNat * c := by
    calc s.pageBytes.toNat * o + s.pageBytes.toNat = s.pageBytes.toNat * (o + 1) := (Nat.mul_succ _ _).symm
      _ ≤ s.pageBytes.toNat * c := Nat.mul_le_mul_left _ hoc
  refine ⟨?_, by omega⟩
  rw [BitVec.toNat_add]
  exact Nat.mod_eq_of_lt (by omega)

theorem page_owned {s : Staging} {v : UpdateVerifier} (hg : Geometry s) (hf : Within s v) (hne : s.page ≠ []) :
    s.Owns (s.base + s.offset).toNat s.pageBytes.toNat := by
  obtain ⟨hadd, hle⟩ := page_inside hg hf hne
  have hbase := hg.base_eq
  rw [Owns, hadd]
  omega

/-- The bytes erased for an image lie in the image region, and their number does not wrap. -/
theorem erase_inside {s : Staging} {imageSize : U32} (hg : Geometry s) (hi : imageSize.toNat ≤ s.capacity.toNat)
    (hmax : imageSize.toNat + s.sectorBytes.toNat < 2 ^ 32) :
    (s.eraseBytes imageSize).toNat =
        (imageSize.toNat + s.sectorBytes.toNat - 1) / s.sectorBytes.toNat * s.sectorBytes.toNat ∧
      (s.eraseBytes imageSize).toNat ≤ s.capacity.toNat := by
  obtain ⟨c, hc⟩ := hg.sector_capacity
  have hend := hg.base_capacity
  have hpos := hg.sector_pos
  have h1 : (1 : U32).toNat = 1 := rfl
  have hsum : (imageSize + s.sectorBytes - 1).toNat = imageSize.toNat + s.sectorBytes.toNat - 1 := by
    rw [BitVec.toNat_sub, BitVec.toNat_add, h1, Nat.mod_eq_of_lt hmax]
    omega
  have hround : (imageSize.toNat + s.sectorBytes.toNat - 1) / s.sectorBytes.toNat * s.sectorBytes.toNat ≤
      s.capacity.toNat := by
    rw [hc, Nat.mul_comm s.sectorBytes.toNat c]
    refine Nat.mul_le_mul_right _ (Nat.lt_succ_iff.1 ((Nat.div_lt_iff_lt_mul hpos).2 ?_))
    rw [Nat.succ_mul, Nat.mul_comm c]
    omega
  have herase : (s.eraseBytes imageSize).toNat =
      (imageSize.toNat + s.sectorBytes.toNat - 1) / s.sectorBytes.toNat * s.sectorBytes.toNat := by
    rw [eraseBytes, BitVec.toNat_mul, BitVec.toNat_udiv, hsum]
    exact Nat.mod_eq_of_lt (by omega)
  exact ⟨herase, herase ▸ hround⟩

theorem erase_owned {s : Staging} {imageSize : U32} (hg : Geometry s) (hi : imageSize.toNat ≤ s.capacity.toNat)
    (hmax : imageSize.toNat + s.sectorBytes.toNat < 2 ^ 32) :
    s.Owns s.base.toNat (s.eraseBytes imageSize).toNat := by
  obtain ⟨-, hle⟩ := erase_inside hg hi hmax
  have hbase := hg.base_eq
  rw [Owns]
  omega

/-! ## The frame -/

/-- A relation on contexts that the flash calls in `allowed` ranges and the crypto callbacks keep. -/
structure StagingFrame (fl : FlashDriver κ) (cr : UpdateCrypto κ) (allowed : Nat → Nat → Prop)
    (step : κ → κ → Prop) : Prop where
  refl : ∀ k, step k k
  trans : ∀ {a b c}, step a b → step b c → step a c
  read : ∀ k a n, step k (fl.read k a n).1
  erase : ∀ k a n, allowed a.toNat n.toNat → step k (fl.erase k a n).1
  program : ∀ k a data, allowed a.toNat data.length → step k (fl.program k a data).1
  verifySignature : ∀ k d i g, step k (cr.verifySignature k d i g).1
  hashBegin : ∀ k, step k (cr.hashBegin k).1
  hashUpdate : ∀ k d, step k (cr.hashUpdate k d).1
  hashFinish : ∀ k, step k (cr.hashFinish k).1

variable {fl : FlashDriver κ} {cr : UpdateCrypto κ} {allowed : Nat → Nat → Prop} {step : κ → κ → Prop}

theorem StagingFrame.mono {allowed' : Nat → Nat → Prop} (hf : StagingFrame fl cr allowed step)
    (h : ∀ a n, allowed' a n → allowed a n) : StagingFrame fl cr allowed' step :=
  ⟨hf.refl, hf.trans, hf.read, fun k a n ha => hf.erase k a n (h _ _ ha), fun k a data ha => hf.program k a data (h _ _ ha),
    hf.verifySignature, hf.hashBegin, hf.hashUpdate, hf.hashFinish⟩

theorem verifier_begin_frame (hf : StagingFrame fl cr allowed step) (k : κ) (v : UpdateVerifier)
    (wire : ManifestWire) : step k (v.begin cr k wire).1 := by
  unfold UpdateVerifier.begin
  dsimp only
  split
  · exact hf.refl k
  · split
    · exact hf.refl k
    · split
      · exact hf.verifySignature _ _ _ _
      · split
        · exact hf.trans (hf.verifySignature _ _ _ _) (hf.hashBegin _)
        · exact hf.trans (hf.verifySignature _ _ _ _) (hf.hashBegin _)

theorem verifier_write_frame (hf : StagingFrame fl cr allowed step) (k : κ) (v : UpdateVerifier)
    (data : List U8) : step k (v.write cr k data).1 := by
  unfold UpdateVerifier.write
  dsimp only
  split
  · exact hf.refl k
  · split
    · exact hf.hashUpdate _ _
    · exact hf.hashUpdate _ _

theorem verifier_finish_frame (hf : StagingFrame fl cr allowed step) (k : κ) (v : UpdateVerifier) :
    step k (v.finish cr k).1 := by
  unfold UpdateVerifier.finish
  split
  · exact hf.refl k
  · exact hf.hashFinish _

theorem programVerified_frame (hf : StagingFrame fl cr allowed step) (k : κ) {address : U32} {page : List U8}
    (ha : allowed address.toNat page.length) : step k (programVerified fl k address page).1 := by
  unfold programVerified
  dsimp only
  split
  · exact hf.program _ _ _ ha
  · exact hf.trans (hf.program _ _ _ ha) (hf.read _ _ _)

/-- What a staging function leaves: the context in the frame, the slot, and the verifier's manifest. -/
structure Kept (step : κ → κ → Prop) (k : κ) (s : Staging) (v : UpdateVerifier)
    (r : κ × Staging × UpdateVerifier × Bool) : Prop where
  context : step k r.1
  slot : SameSlot s r.2.1
  verifier : v.Same r.2.2.1

theorem flush_frame {s : Staging} (hf : StagingFrame fl cr s.Owns step) (hg : Geometry s) (k : κ)
    {v : UpdateVerifier} (hfit : Within s v) :
    Kept step k s v (s.flush fl cr k v) ∧
      ((s.flush fl cr k v).2.2.2 = true → (s.flush fl cr k v).2.1.page = [] ∧
        (s.page.length = s.pageBytes.toNat → (s.flush fl cr k v).2.1.offset = s.offset + s.pageBytes)) := by
  unfold flush
  by_cases hne : s.page = []
  · rw [if_pos hne]
    refine ⟨⟨hf.refl k, SameSlot.refl s, .refl v⟩, fun _ => ⟨hne, fun hl => ?_⟩⟩
    have := hg.page_pos
    rw [hne, List.length_nil] at hl
    omega
  · rw [if_neg hne]
    have hp : step k (programVerified fl k (s.base + s.offset) (s.padded s.page)).1 := programVerified_frame hf k
      (by rw [length_padded]; exact page_owned hg hfit hne)
    have hw := verifier_write_frame hf (programVerified fl k (s.base + s.offset) (s.padded s.page)).1 v s.page
    dsimp only
    split
    · exact ⟨⟨hp, ⟨rfl, rfl, rfl, rfl, rfl⟩, s.fail_same v⟩, fun h => by cases h⟩
    · split
      · exact ⟨⟨hf.trans hp hw, ⟨rfl, rfl, rfl, rfl, rfl⟩,
          (UpdateVerifier.write_same cr _ v s.page).trans (s.fail_same _)⟩, fun h => by cases h⟩
      · exact ⟨⟨hf.trans hp hw, ⟨rfl, rfl, rfl, rfl, rfl⟩, UpdateVerifier.write_same cr _ v s.page⟩,
          fun _ => ⟨rfl, fun _ => rfl⟩⟩

theorem Kept.refl (hf : StagingFrame fl cr allowed step) (k : κ) (s : Staging) (v : UpdateVerifier) (ok : Bool) :
    Kept step k s v (k, s, v, ok) := ⟨hf.refl k, SameSlot.refl s, .refl v⟩

theorem writeLoop_frame : ∀ (turns : Nat) {s : Staging} (_ : StagingFrame fl cr s.Owns step)
    (_ : Geometry s) (k : κ) {v : UpdateVerifier} (_ : Fits s v) (data : List U8),
    s.offset.toNat + s.page.length + data.length ≤ v.manifest.imageSize.toNat →
    Kept step k s v (writeLoop fl cr turns k s v data) ∧
      ((writeLoop fl cr turns k s v data).2.2.2 = true →
        Fits (writeLoop fl cr turns k s v data).2.1 (writeLoop fl cr turns k s v data).2.2.1)
  | 0, s, hf, _, k, v, hfit, _, _ => ⟨Kept.refl hf k s v true, fun _ => hfit⟩
  | turns + 1, s, hf, hg, k, v, hfit, data, hroom => by
    unfold writeLoop
    by_cases hd : data = []
    · rw [if_pos hd]
      exact ⟨Kept.refl hf k s v true, fun _ => hfit⟩
    · rw [if_neg hd]
      dsimp only
      generalize hn : min data.length (s.pageBytes.toNat - s.page.length) = n
      generalize ht : s.fill (data.take n) = t
      have hst : SameSlot s t := by subst ht; exact ⟨rfl, rfl, rfl, rfl, rfl⟩
      have hpage : t.page.length = s.page.length + n := by
        subst ht
        rw [fill, List.length_append, List.length_take]
        omega
      have hoffset : t.offset = s.offset := by subst ht; rfl
      have hleft : (data.drop n).length = data.length - n := List.length_drop
      have hpb : t.pageBytes = s.pageBytes := hst.pageBytes
      have hft : StagingFrame fl cr t.Owns step := hst.owns ▸ hf
      have hgt : Geometry t := hg.of_sameSlot hst
      have hcap := hfit.image_capacity
      have hpr := hfit.page_room
      by_cases hfull : t.page.length = t.pageBytes.toNat
      · -- the page is full
        rw [if_pos hfull]
        have hfull' : t.page.length = s.pageBytes.toNat := by rw [hfull, hpb]
        have hwithin : Within t v :=
          ⟨by rw [hoffset, hpb]; exact hfit.page_offset, by rw [hoffset]; omega, by rw [hst.capacity]; exact hcap⟩
        obtain ⟨hkept, hok⟩ := flush_frame hft hgt k hwithin
        generalize t.flush fl cr k v = r at hkept hok ⊢
        have hkept' : Kept step k s v r := ⟨hkept.context, hst.trans hkept.slot, hkept.verifier⟩
        cases hr : r.2.2.2 with
        | false => exact ⟨by simpa [hr] using hkept', fun h => by simp [hr] at h⟩
        | true =>
          obtain ⟨hempty, hoff⟩ := hok hr
          have hoff := hoff hfull
          have hsame := hst.trans hkept.slot
          have hnext : r.2.1.offset.toNat = s.offset.toNat + s.pageBytes.toNat := by
            rw [hoff, hoffset, hpb, BitVec.toNat_add]
            have := v.manifest.imageSize.isLt
            exact Nat.mod_eq_of_lt (by omega)
          have hfit' : Fits r.2.1 r.2.2.1 := by
            refine ⟨⟨?_, ?_, ?_⟩, ?_⟩
            · rw [hnext, hsame.pageBytes]
              exact Nat.dvd_add hfit.page_offset (Nat.dvd_refl _)
            · rw [hempty, hnext, hkept.verifier.manifest, List.length_nil]
              omega
            · rw [hkept.verifier.manifest, hsame.capacity]
              exact hcap
            · rw [hempty, hsame.pageBytes]
              exact hg.page_pos
          obtain ⟨hk, hfinal⟩ := writeLoop_frame turns (hsame.owns ▸ hf) (hg.of_sameSlot hsame) r.1 hfit'
            (data.drop n) (by rw [hempty, hnext, hkept.verifier.manifest, hleft, List.length_nil]; omega)
          simp only [Bool.not_true, Bool.false_eq_true, if_false]
          exact ⟨⟨hf.trans hkept.context hk.context, hsame.trans hk.slot, hkept.verifier.trans hk.verifier⟩, hfinal⟩
      · rw [if_neg hfull]
        have hfit' : Fits t v := by
          refine ⟨⟨?_, ?_, ?_⟩, ?_⟩
          · rw [hoffset, hpb]
            exact hfit.page_offset
          · rw [hoffset]
            omega
          · rw [hst.capacity]
            exact hcap
          · rw [hpb] at hfull ⊢
            omega
        obtain ⟨hk, hfinal⟩ := writeLoop_frame turns hft hgt k hfit' (data.drop n)
          (by rw [hoffset, hleft]; omega)
        exact ⟨⟨hk.context, hst.trans hk.slot, hk.verifier⟩, hfinal⟩

/-- A start erases its manifest sector and image region, and leaves a fitting staging. -/
theorem start_frame {s : Staging} (hf : StagingFrame fl cr s.Owns step) (hg : Geometry s) (k : κ)
    (v : UpdateVerifier) :
    Kept step k s v (s.start fl k v) ∧
      ((s.start fl k v).2.2.2 = true → Fits (s.start fl k v).2.1 (s.start fl k v).2.2.1) := by
  unfold start
  split
  · exact ⟨Kept.refl hf k s v false, fun h => by cases h⟩
  · rename_i hc
    simp only [Bool.or_eq_true, Bool.not_eq_true', decide_eq_true_eq, not_or, BitVec.not_lt] at hc
    obtain ⟨⟨-, hcap⟩, hmax⟩ := hc
    have hcap : v.manifest.imageSize.toNat ≤ s.capacity.toNat := hcap
    have hend := hg.base_capacity
    have hbase := hg.base_eq
    have hmax : v.manifest.imageSize.toNat + s.sectorBytes.toNat < 2 ^ 32 := by
      have h1 : (1 : U32).toNat = 1 := rfl
      have hm : uint32Max.toNat = 4294967295 := rfl
      have hle : v.manifest.imageSize.toNat ≤ (uint32Max - (s.sectorBytes - 1)).toNat := hmax
      have hpos := hg.sector_pos
      have hlt := s.sectorBytes.isLt
      rw [BitVec.toNat_sub, BitVec.toNat_sub, h1, hm] at hle
      omega
    have hm := hf.erase k s.manifestBase s.sectorBytes ⟨Nat.le_refl _, by omega⟩
    have hi := hf.erase (fl.erase k s.manifestBase s.sectorBytes).1 s.base (s.eraseBytes v.manifest.imageSize)
      (erase_owned hg hcap hmax)
    dsimp only
    split
    · exact ⟨⟨hm, ⟨rfl, rfl, rfl, rfl, rfl⟩, fail_same { s with hasVerifier := true } v⟩,
        fun h => by cases h⟩
    · split
      · exact ⟨⟨hf.trans hm hi, ⟨rfl, rfl, rfl, rfl, rfl⟩, fail_same { s with hasVerifier := true } v⟩,
        fun h => by cases h⟩
      · refine ⟨⟨hf.trans hm hi, ⟨rfl, rfl, rfl, rfl, rfl⟩, .refl v⟩, fun _ => ⟨⟨?_, ?_, hcap⟩, ?_⟩⟩
        · exact Nat.dvd_zero _
        · exact Nat.zero_le _
        · exact hg.page_pos

/-- A start that fails leaves no active staging. -/
theorem start_failed (fl : FlashDriver κ) (k : κ) {s : Staging} (hs : s.active = false) (v : UpdateVerifier)
    (h : (s.start fl k v).2.2.2 = false) : (s.start fl k v).2.1.active = false := by
  unfold start at h ⊢
  split
  · exact hs
  · rename_i hc
    rw [if_neg hc] at h
    dsimp only at h ⊢
    split
    · rfl
    · rename_i hm
      rw [if_neg hm] at h
      split
      · rfl
      · rename_i hi
        rw [if_neg hi] at h
        cases h

/-- **A start erases the manifest sector first.** What this erase brings about and later erases keep holds
after the start, whether it succeeds or not. -/
theorem start_erases {P : κ → Prop} {s : Staging} (herase : ∀ k, P (fl.erase k s.manifestBase s.sectorBytes).1)
    (hkeep : ∀ k a n, P k → P (fl.erase k a n).1) (hg : Geometry s) (k : κ) {v : UpdateVerifier}
    (hs : s.active = false) (hv : v.active = true) (hv' : v.verified = false)
    (hpos : 0 < v.manifest.imageSize) (hcap : v.manifest.imageSize ≤ s.capacity) : P (s.start fl k v).1 := by
  have hguard : ¬ (s.active || !v.active || v.verified || v.manifest.imageSize = 0 ||
      s.capacity < v.manifest.imageSize || uint32Max - (s.sectorBytes - 1) < v.manifest.imageSize) = true := by
    have h1 : (1 : U32).toNat = 1 := rfl
    have hm : uint32Max.toNat = 4294967295 := rfl
    have hend := hg.base_capacity
    have hbase := hg.base_eq
    have hsector := hg.sector_pos
    have hle : v.manifest.imageSize.toNat ≤ s.capacity.toNat := hcap
    have hne : v.manifest.imageSize ≠ 0 := fun h0 => by rw [h0] at hpos; exact absurd hpos (by decide)
    have hlt := s.sectorBytes.isLt
    have hmax : v.manifest.imageSize ≤ uint32Max - (s.sectorBytes - 1) := by
      rw [BitVec.le_def, BitVec.toNat_sub, BitVec.toNat_sub, h1, hm]
      omega
    simp only [hs, hv, hv', Bool.or_eq_true, Bool.not_eq_true', decide_eq_true_eq, not_or, BitVec.not_lt,
      Bool.false_eq_true, not_false_eq_true, true_and, Bool.true_eq_false]
    exact ⟨⟨hne, hcap⟩, hmax⟩
  unfold start
  rw [if_neg hguard]
  dsimp only
  split
  · exact herase k
  · split
    · exact hkeep _ _ _ (herase k)
    · exact hkeep _ _ _ (herase k)

/-- A write stays in the image region and keeps the staging fitting. -/
theorem write_frame {s : Staging} (hf : StagingFrame fl cr s.Owns step) (hg : Geometry s) (k : κ)
    {v : UpdateVerifier} (hfit : s.active = true → Fits s v) {data : List U8} (hd : data.length < 2 ^ 32) :
    Kept step k s v (s.write fl cr k v data) ∧
      ((s.write fl cr k v data).2.2.2 = true →
        Fits (s.write fl cr k v data).2.1 (s.write fl cr k v data).2.2.1) := by
  unfold write
  dsimp only
  split
  · exact ⟨Kept.refl hf k s v false, fun h => by cases h⟩
  · rename_i hc
    simp only [Bool.or_eq_true, Bool.not_eq_true', decide_eq_true_eq, not_or, BitVec.not_lt,
      Bool.not_eq_false] at hc
    obtain ⟨⟨⟨⟨hactive, -⟩, h1⟩, h2⟩, h3⟩ := hc
    have hfit := hfit hactive
    have hbuf : s.buffered.toNat = s.page.length := by
      have := hfit.page_room
      have := s.pageBytes.isLt
      rw [buffered, BitVec.toNat_ofNat]
      exact Nat.mod_eq_of_lt (by omega)
    have hlen : (BitVec.ofNat 32 data.length).toNat = data.length := by
      rw [BitVec.toNat_ofNat]
      exact Nat.mod_eq_of_lt hd
    have h1 : s.offset.toNat ≤ v.manifest.imageSize.toNat := h1
    have h2 : s.buffered.toNat ≤ (v.manifest.imageSize - s.offset).toNat := h2
    have h3 : (BitVec.ofNat 32 data.length).toNat ≤ (v.manifest.imageSize - s.offset - s.buffered).toNat := h3
    rw [BitVec.toNat_sub_of_le h1] at h2
    have h2' : s.buffered ≤ v.manifest.imageSize - s.offset := by
      rw [BitVec.le_def, BitVec.toNat_sub_of_le h1]
      exact h2
    rw [BitVec.toNat_sub_of_le h2', BitVec.toNat_sub_of_le h1, hlen] at h3
    exact writeLoop_frame data.length hf hg k hfit data (by omega)

/-- A finish programs the last page and the manifest. -/
theorem finish_frame {s : Staging} (hf : StagingFrame fl cr s.Owns step) (hg : Geometry s) (k : κ)
    {v : UpdateVerifier} (hfit : s.active = true → Fits s v) :
    Kept step k s v (s.finish fl cr k v) ∧
      ((s.finish fl cr k v).2.2.2 = true → (s.finish fl cr k v).2.1.active = false) := by
  unfold finish
  split
  · exact ⟨Kept.refl hf k s v false, fun h => by cases h⟩
  · rename_i hactive
    have hactive : s.active = true := by simpa using hactive
    obtain ⟨hkept, -⟩ := flush_frame hf hg k (hfit hactive).toWithin
    generalize s.flush fl cr k v = f at hkept
    dsimp only
    split
    · rename_i hfalse
      refine ⟨hkept, fun h => ?_⟩
      rw [h] at hfalse
      cases hfalse
    · have hd := verifier_finish_frame hf f.1 f.2.2.1
      have hv := hkept.verifier.trans (UpdateVerifier.finish_same cr f.1 f.2.2.1)
      generalize f.2.2.1.finish cr f.1 = d at hd hv
      have hkd := hf.trans hkept.context hd
      split
      · exact ⟨⟨hkd, hkept.slot.trans ⟨rfl, rfl, rfl, rfl, rfl⟩, hv.trans (fail_same _ _)⟩, fun h => by cases h⟩
      · have hmanifest : s.Owns f.2.1.manifestBase.toNat
            (f.2.1.padded d.2.1.manifestWire.bytes).length := by
          rw [length_padded, hkept.slot.manifestBase, hkept.slot.pageBytes, Owns]
          have := Nat.le_of_dvd hg.sector_pos hg.page_sector
          have := hg.base_eq
          omega
        have hp := hf.trans hkd (programVerified_frame hf d.1 hmanifest)
        have hv' : v.Same { d.2.1 with verified := false } := hv.trans ⟨rfl, rfl⟩
        split
        · exact ⟨⟨hp, hkept.slot.trans ⟨rfl, rfl, rfl, rfl, rfl⟩, hv'.trans (fail_same _ _)⟩, fun h => by cases h⟩
        · exact ⟨⟨hp, hkept.slot.trans ⟨rfl, rfl, rfl, rfl, rfl⟩, hv'.trans ⟨rfl, rfl⟩⟩, fun _ => rfl⟩

end Staging

end OpenRef.Update
