import OpenRef.Boot.Policy
import OpenRef.Update.Approval
/-!
# The slot authenticator (openref_rt595_slot_authenticator.c)

A slot has a manifest and an image region. The manifest is read and checked, the image is read in pieces of 256 bytes
and hashed, and the slot is authenticated when the digest is the signed one.

`authenticate_eq`: over a flash that does not change and crypto that answers, this is `verdict`, a function of the
flash, whatever the environment of the callbacks.
-/

namespace OpenRef.Update

open OpenRef.Boot (BootSlot BootSlots noSlot)

/-- `OPENREF_RT595_SLOT_AUTH_CHUNK_BYTES`. -/
def slotAuthChunkBytes : U32 := 256

/-- `openref_rt595_slot_reader_t` over a context `κ`: a read that fails gives nothing. -/
abbrev SlotReader (κ : Type) := κ → U32 → (n : Nat) → κ × Option (Bytes n)

/-- `manifest_base[slot]`, `image_base[slot]` and `image_capacity[slot]`. -/
structure SlotRegion where
  manifestBase : U32
  imageBase : U32
  imageCapacity : U32
deriving DecidableEq, Repr

/-- `openref_rt595_slot_authenticator_t` once initialized, without the callbacks. -/
structure SlotAuthenticator where
  platform : UpdatePlatform
  regionA : SlotRegion
  regionB : SlotRegion
  authenticatedSizeA : U32
  authenticatedSizeB : U32
  failures : U32
  readFailures : U32
deriving DecidableEq, Repr

/-- `region`. -/
def regionValid (base length : U32) : Bool := 0 < length && base ≤ uint32Max - length

/-- `overlap`. -/
def overlap (a an b bn : U32) : Bool := a < b + bn && b < a + an

/-- How the loop over an image ends. -/
inductive StreamEnd where
  | done
  | unread
  | refused
deriving DecidableEq, Repr

namespace SlotAuthenticator

variable {κ : Type}

/-- `openref_rt595_slot_authenticator_init` with callbacks that are set. -/
def init (p : UpdatePlatform) (r0 r1 : SlotRegion) : Option SlotAuthenticator :=
  if !regionValid r0.manifestBase 144 || !regionValid r1.manifestBase 144 || !regionValid r0.imageBase r0.imageCapacity ||
      !regionValid r1.imageBase r1.imageCapacity ||
      overlap r0.manifestBase 144 r0.imageBase r0.imageCapacity ||
      overlap r1.manifestBase 144 r1.imageBase r1.imageCapacity || overlap r0.manifestBase 144 r1.manifestBase 144 ||
      overlap r0.manifestBase 144 r1.imageBase r1.imageCapacity ||
      overlap r1.manifestBase 144 r0.imageBase r0.imageCapacity ||
      overlap r0.imageBase r0.imageCapacity r1.imageBase r1.imageCapacity ||
      r0.imageCapacity < p.maximumImageBytes || r1.imageCapacity < p.maximumImageBytes ||
      (UpdateVerifier.init p).isNone then none
  else some ⟨p, r0, r1, 0, 0, 0, 0⟩

/-- The region of a slot 0 or 1. -/
def region (a : SlotAuthenticator) (slot : U8) : SlotRegion := if slot = Boot.slotA then a.regionA else a.regionB

/-- `authenticated_image_size[slot]`. -/
def authenticatedSize (a : SlotAuthenticator) (slot : U8) : U32 :=
  if slot = Boot.slotA then a.authenticatedSizeA else a.authenticatedSizeB

/-- `authenticated_image_size[slot] = size`. -/
def setSize (a : SlotAuthenticator) (slot : U8) (size : U32) : SlotAuthenticator :=
  if slot = Boot.slotA then { a with authenticatedSizeA := size } else { a with authenticatedSizeB := size }

/-- `fail`. -/
def fail (a : SlotAuthenticator) : SlotAuthenticator := { a with failures := incrementSaturating a.failures }

/-- `read_fail`. -/
def readFail (a : SlotAuthenticator) : SlotAuthenticator :=
  { a.fail with readFailures := incrementSaturating a.readFailures }

/-- The bytes the loop reads next. -/
def pieceBytes (size offset : U32) : U32 := if slotAuthChunkBytes < size - offset then slotAuthChunkBytes else size - offset

/-- The loop over the image. Each turn takes at least one byte, so its size bounds the turns. -/
def stream (rd : SlotReader κ) (cr : UpdateCrypto κ) (base : U32) :
    Nat → κ → UpdateVerifier → U32 → κ × UpdateVerifier × StreamEnd
  | 0, k, v, _ => (k, v, .done)
  | turns + 1, k, v, offset =>
    if v.manifest.imageSize ≤ offset then (k, v, .done)
    else
      let n := pieceBytes v.manifest.imageSize offset
      let r := rd k (base + offset) n.toNat
      match r.2 with
      | none => (r.1, v, .unread)
      | some piece =>
        let w := v.write cr r.1 piece.bytes
        if !w.2.2 then (w.1, w.2.1, .refused) else stream rd cr base turns w.1 w.2.1 (offset + n)

/-- `openref_rt595_slot_authenticate`. -/
def authenticate (rd : SlotReader κ) (cr : UpdateCrypto κ) (k : κ) (a : SlotAuthenticator) (candidate running : U8) :
    κ × SlotAuthenticator × BootSlot × Bool :=
  let a := if candidate ≤ 1 then a.setSize candidate 0 else a
  let none' : BootSlot := ⟨false, false, 0⟩
  if 1 < candidate || (1 < running && running ≠ noSlot) || candidate = running then (k, a.fail, none', false)
  else
    let m := rd k (a.region candidate).manifestBase 144
    match m.2 with
    | none => (m.1, a.readFail, none', false)
    | some wire =>
      match UpdateVerifier.init a.platform with
      | none => (m.1, a.fail, none', false)
      | some v =>
        let b := v.begin cr m.1 wire
        if !b.2.2 || (a.region candidate).imageCapacity < b.2.1.manifest.imageSize then (b.1, a.fail, none', false)
        else
          let s := stream rd cr (a.region candidate).imageBase b.2.1.manifest.imageSize.toNat b.1 b.2.1 0
          match s.2.2 with
          | .unread => (s.1, a.readFail, none', false)
          | .refused => (s.1, a.fail, none', false)
          | .done =>
            let f := s.2.1.finish cr s.1
            if !f.2.2 then (f.1, a.fail, none', false)
            else (f.1, a.setSize candidate f.2.1.manifest.imageSize, ⟨true, true, f.2.1.manifest.imageVersion⟩, true)

end SlotAuthenticator

/-- An initialized authenticator has its platform and its regions. -/
theorem SlotAuthenticator.init_some {p : UpdatePlatform} {r0 r1 : SlotRegion} {a : SlotAuthenticator}
    (h : init p r0 r1 = some a) :
    (UpdateVerifier.init p).isSome = true ∧ a.platform = p ∧ a.regionA = r0 ∧ a.regionB = r1 := by
  unfold init at h
  split at h
  · cases h
  · next hc =>
    cases h
    simp only [Bool.or_eq_true, not_or, Option.isNone_iff_eq_none] at hc
    exact ⟨Option.isSome_iff_ne_none.2 hc.2, rfl, rfl, rfl⟩

/-! ## A flash that does not change -/

/-- Crypto that answers: signatures are right or wrong, and the digest is one function of the bytes. -/
structure UpdateCrypto.Faithful {κ : Type} (cr : UpdateCrypto κ) (verifies : Bytes 80 → Bytes 8 → Bytes 64 → Bool)
    (digest : List U8 → Bytes 32) (fed : κ → List U8) : Prop where
  verify : ∀ k signed key signature, (cr.verifySignature k signed key signature).2 = verifies signed key signature
  streams : StreamHash.Streams cr.hasher digest fed
  answers : StreamHash.Answers cr.hasher

/-- A reader that shows a flash and leaves the digest alone. -/
structure Shows {κ : Type} (rd : SlotReader κ) (flash : U32 → (n : Nat) → Option (Bytes n)) (fed : κ → List U8) : Prop where
  read : ∀ k address n, (rd k address n).2 = flash address n
  fed : ∀ k address n, fed (rd k address n).1 = fed k

/-- The image as the loop reads it. -/
def imageRead (flash : U32 → (n : Nat) → Option (Bytes n)) (base size : U32) : Nat → U32 → Option (List U8)
  | 0, _ => some []
  | turns + 1, offset =>
    if size ≤ offset then some []
    else
      let n := SlotAuthenticator.pieceBytes size offset
      (flash (base + offset) n.toNat).bind fun piece => (imageRead flash base size turns (offset + n)).map (piece.bytes ++ ·)

/-- The manifest of a slot whose image has the signed digest. -/
def verdict (flash : U32 → (n : Nat) → Option (Bytes n)) (verifies : Bytes 80 → Bytes 8 → Bytes 64 → Bool)
    (digest : List U8 → Bytes 32) (p : UpdatePlatform) (r : SlotRegion) : Option UpdateManifest :=
  (flash r.manifestBase 144).bind fun (wire : ManifestWire) =>
    if p.accepts verifies wire && wire.manifest.imageSize ≤ r.imageCapacity then
      (imageRead flash r.imageBase wire.manifest.imageSize wire.manifest.imageSize.toNat 0).bind fun image =>
        if digest image = wire.manifest.digest then some wire.manifest else none
    else none

section Faithful

variable {κ : Type} {rd : SlotReader κ} {cr : UpdateCrypto κ} {flash : U32 → (n : Nat) → Option (Bytes n)}
variable {verifies : Bytes 80 → Bytes 8 → Bytes 64 → Bool} {digest : List U8 → Bytes 32} {fed : κ → List U8}

theorem begin_refuses (hc : cr.Faithful verifies digest fed) (k : κ) (v : UpdateVerifier) {wire : ManifestWire}
    (h : v.platform.accepts verifies wire = false) : (v.begin cr k wire).2.2 = false := by
  have hbegun := UpdateVerifier.begin_begun cr k v wire
  generalize v.begin cr k wire = r at hbegun ⊢
  cases hbegun with
  | rejected => rfl
  | started _ hframed hpermits hsigned =>
    rw [UpdateVerifier.signature, hc.verify] at hsigned
    simp only [UpdatePlatform.accepts, hframed, hpermits, hsigned] at h
    cases h

theorem begin_accepts (hc : cr.Faithful verifies digest fed) (k : κ) {v : UpdateVerifier} (hv : v.active = false)
    {wire : ManifestWire} (h : v.platform.accepts verifies wire = true) :
    ∃ k', v.begin cr k wire = (k', v.opened wire, true) ∧ fed k' = [] := by
  simp only [UpdatePlatform.accepts, Bool.and_eq_true] at h
  obtain ⟨⟨hframed, hpermits⟩, hverifies⟩ := h
  have hsigned : (UpdateVerifier.signature cr k wire).2 = true := (hc.verify _ _ _ _).trans hverifies
  have hstart := hc.answers.start (UpdateVerifier.signature cr k wire).1
  have hfed := hc.streams.start _ hstart
  have hbegun := UpdateVerifier.begin_begun cr k v wire
  generalize v.begin cr k wire = r at hbegun ⊢
  cases hbegun with
  | rejected k' _ hno => exact absurd ((hno hv hframed hpermits hsigned).symm.trans hstart) Bool.false_ne_true
  | started => exact ⟨_, rfl, hfed⟩

/-- A piece that fits is taken. -/
theorem write_takes (hc : cr.Faithful verifies digest fed) (k : κ) {v : UpdateVerifier} {data : List U8}
    (ht : v.Takes data) :
    ∃ k', v.write cr k data =
      (k', { v with receivedBytes := v.receivedBytes + BitVec.ofNat 32 data.length }, true) ∧
        fed k' = fed k ++ data := by
  have hupdate := hc.answers.update k data
  have hwritten := UpdateVerifier.write_written cr k v data
  generalize v.write cr k data = r at hwritten ⊢
  cases hwritten with
  | failed k' hno => exact absurd ((hno ht).symm.trans hupdate) Bool.false_ne_true
  | taken => exact ⟨_, rfl, hc.streams.update k data hupdate⟩

/-- A verifier that has received everything says whether the digest is the signed one. -/
theorem finish_matches (hc : cr.Faithful verifies digest fed) (k : κ) {v : UpdateVerifier} (hv : v.active = true)
    (hr : v.receivedBytes = v.manifest.imageSize) : (v.finish cr k).2.2 = decide (digest (fed k) = v.manifest.digest) := by
  have hdigest : (cr.hashFinish k).2 = some (digest (fed k)) := hc.streams.finish_eq (hc.answers.finish k)
  have hfinished := UpdateVerifier.finish_finished cr k v
  generalize v.finish cr k = r at hfinished ⊢
  cases hfinished with
  | failed hno => exact absurd ⟨hv, hr⟩ hno
  | mismatch _ _ hno =>
    rw [hdigest, ne_eq, Option.some.injEq] at hno
    exact (decide_eq_false hno).symm
  | matched _ _ hyes =>
    rw [hdigest, Option.some.injEq] at hyes
    exact (decide_eq_true hyes).symm

theorem toNat_pieceBytes (size offset : U32) :
    (SlotAuthenticator.pieceBytes size offset).toNat = min 256 (size - offset).toNat := by
  have h256 : slotAuthChunkBytes.toNat = 256 := rfl
  unfold SlotAuthenticator.pieceBytes
  split
  · next h =>
    rw [BitVec.lt_def, h256] at h
    omega
  · next h =>
    rw [BitVec.lt_def, h256] at h
    omega

/-- The loop reads what `imageRead` says and hashes it. -/
theorem stream_spec (hc : cr.Faithful verifies digest fed) (hrd : Shows rd flash fed) (base : U32) :
    ∀ (turns : Nat) (k : κ) (v : UpdateVerifier) (offset : U32), v.active = true → v.receivedBytes = offset →
      offset ≤ v.manifest.imageSize → (v.manifest.imageSize - offset).toNat ≤ turns →
      (imageRead flash base v.manifest.imageSize turns offset = none →
        (SlotAuthenticator.stream rd cr base turns k v offset).2.2 = .unread) ∧
      (∀ image, imageRead flash base v.manifest.imageSize turns offset = some image → ∃ k',
        SlotAuthenticator.stream rd cr base turns k v offset =
          (k', { v with receivedBytes := v.manifest.imageSize }, .done) ∧ fed k' = fed k ++ image)
  | 0, k, v, offset, _, hr, hle, hturns => by
    have hend : v.receivedBytes = v.manifest.imageSize := by
      rw [BitVec.toNat_sub_of_le hle] at hturns
      have hle : offset.toNat ≤ v.manifest.imageSize.toNat := hle
      exact hr.trans (BitVec.eq_of_toNat_eq (by omega))
    refine ⟨(fun h => by cases h), fun image h => ⟨k, ?_, ?_⟩⟩
    · rw [SlotAuthenticator.stream, ← hend]
    · rw [imageRead, Option.some.injEq] at h
      rw [← h, List.append_nil]
  | turns + 1, k, v, offset, hv, hr, hle, hturns => by
    unfold SlotAuthenticator.stream imageRead
    by_cases hdone : v.manifest.imageSize ≤ offset
    · have hend : v.receivedBytes = v.manifest.imageSize := hr.trans (BitVec.le_antisymm hle hdone)
      simp only [if_pos hdone]
      refine ⟨(fun h => by cases h), fun image h => ⟨k, ?_, ?_⟩⟩
      · rw [← hend]
      · rw [Option.some.injEq] at h
        rw [← h, List.append_nil]
    simp only [if_neg hdone, hrd.read]
    have hn := toNat_pieceBytes v.manifest.imageSize offset
    generalize SlotAuthenticator.pieceBytes v.manifest.imageSize offset = n at hn ⊢
    cases hpiece : flash (base + offset) n.toNat with
    | none => exact ⟨fun _ => rfl, fun image h => by cases h⟩
    | some piece =>
      have hsub := BitVec.toNat_sub_of_le hle
      have hlt : offset.toNat < v.manifest.imageSize.toNat := BitVec.not_le.1 hdone
      have hlength : BitVec.ofNat 32 piece.bytes.length = n := by
        rw [piece.length_eq, BitVec.ofNat_toNat, BitVec.setWidth_eq]
      have htakes : v.Takes piece.bytes := by
        refine ⟨hv, ?_, ?_, ?_⟩
        · rw [hlength]
          intro h0
          rw [h0] at hn
          have : (0 : U32).toNat = 0 := rfl
          omega
        · rw [hr]
          exact hle
        · rw [hlength, hr, BitVec.le_def]
          omega
      obtain ⟨k', hwrite, hfed⟩ := write_takes hc (rd k (base + offset) n.toNat).1 htakes
      rw [hlength, hr] at hwrite
      have hsum : (offset + n).toNat = offset.toNat + n.toNat := by
        have := v.manifest.imageSize.isLt
        rw [BitVec.toNat_add, Nat.mod_eq_of_lt (by omega)]
      have hnext : offset + n ≤ v.manifest.imageSize := by
        rw [BitVec.le_def]
        omega
      obtain ⟨hunread, hread⟩ := stream_spec hc hrd base turns k' { v with receivedBytes := offset + n } (offset + n)
        hv rfl hnext (by
          rw [BitVec.toNat_sub_of_le hnext]
          omega)
      dsimp only at hunread hread ⊢
      simp only [hwrite, Bool.not_true, Bool.false_eq_true, if_false, Option.bind_some]
      refine ⟨fun h => hunread (Option.map_eq_none_iff.1 h), fun image h => ?_⟩
      obtain ⟨rest, hrest, rfl⟩ := Option.map_eq_some_iff.1 h
      obtain ⟨k'', hstream, hfed'⟩ := hread rest hrest
      refine ⟨k'', hstream, ?_⟩
      rw [hfed', hfed, hrd.fed, List.append_assoc]

/-- What an authentication answers. -/
def answerOf (m : Option UpdateManifest) : BootSlot × Bool :=
  match m with
  | none => (⟨false, false, 0⟩, false)
  | some m => (⟨true, true, m.imageVersion⟩, true)

/-- The size an authentication leaves. -/
def sizeOf (m : Option UpdateManifest) : U32 := (m.map UpdateManifest.imageSize).getD 0

/-- What an authentication leaves of an authenticator: the slot's size, and otherwise the failure counts change. -/
structure SlotAuthenticator.Left (a a' : SlotAuthenticator) (candidate : U8) (size : U32) : Prop where
  platform : a'.platform = a.platform
  regionA : a'.regionA = a.regionA
  regionB : a'.regionB = a.regionB
  size : a'.authenticatedSize candidate = size
  other : ∀ slot, (slot = Boot.slotA ↔ ¬ candidate = Boot.slotA) → a'.authenticatedSize slot = a.authenticatedSize slot

theorem SlotAuthenticator.left_setSize (a : SlotAuthenticator) (candidate : U8) (size : U32) :
    a.Left (a.setSize candidate size) candidate size := by
  unfold setSize
  by_cases hc : candidate = Boot.slotA
  · simp only [if_pos hc]
    refine ⟨rfl, rfl, rfl, if_pos hc, fun slot hs => ?_⟩
    have hne : ¬ slot = Boot.slotA := fun h => hs.1 h hc
    simp only [authenticatedSize, if_neg hne]
  · simp only [if_neg hc]
    refine ⟨rfl, rfl, rfl, if_neg hc, fun slot hs => ?_⟩
    simp only [authenticatedSize, if_pos (hs.2 hc)]

theorem SlotAuthenticator.Left.setSize {a a' : SlotAuthenticator} {candidate : U8} {size : U32}
    (h : a.Left a' candidate size) (size' : U32) : a.Left (a'.setSize candidate size') candidate size' := by
  obtain ⟨hp, ha, hb, hsize, hother⟩ := a'.left_setSize candidate size'
  exact ⟨hp.trans h.platform, ha.trans h.regionA, hb.trans h.regionB, hsize,
    fun slot hs => (hother slot hs).trans (h.other slot hs)⟩

theorem SlotAuthenticator.Left.fail {a a' : SlotAuthenticator} {candidate : U8} {size : U32}
    (h : a.Left a' candidate size) : a.Left a'.fail candidate size :=
  ⟨h.platform, h.regionA, h.regionB, h.size, h.other⟩

theorem SlotAuthenticator.Left.readFail {a a' : SlotAuthenticator} {candidate : U8} {size : U32}
    (h : a.Left a' candidate size) : a.Left a'.readFail candidate size :=
  ⟨h.platform, h.regionA, h.regionB, h.size, h.other⟩

/-- **Over a flash that does not change, an authentication is the verdict on the slot.** -/
theorem authenticate_eq (hc : cr.Faithful verifies digest fed) (hrd : Shows rd flash fed) (k : κ) (a : SlotAuthenticator)
    (hp : (UpdateVerifier.init a.platform).isSome = true) {candidate running : U8} (hcand : candidate ≤ 1)
    (hrun : running = noSlot ∨ running ≤ 1) (hne : candidate ≠ running) :
    let r := a.authenticate rd cr k candidate running
    let m := verdict flash verifies digest a.platform (a.region candidate)
    r.2.2 = answerOf m ∧ a.Left r.2.1 candidate (sizeOf m) := by
  have hclear := a.left_setSize candidate 0
  have hregion : (a.setSize candidate 0).region candidate = a.region candidate := by
    unfold SlotAuthenticator.region
    rw [hclear.regionA, hclear.regionB]
  obtain ⟨v, hv⟩ := Option.isSome_iff_exists.1 hp
  have hfresh := UpdateVerifier.init_fresh hv
  have hguard : ¬ (1 < candidate || (1 < running && running ≠ noSlot) || candidate = running) = true := by
    simp only [Bool.or_eq_true, Bool.and_eq_true, decide_eq_true_eq, not_or, not_and, not_not, BitVec.not_lt]
    refine ⟨⟨hcand, fun hlt => ?_⟩, hne⟩
    rcases hrun with h | h
    · exact h
    · exact absurd hlt (BitVec.not_lt.2 h)
  unfold SlotAuthenticator.authenticate verdict
  simp only [if_pos hcand, if_neg hguard, hregion, hclear.platform, hrd.read]
  generalize a.region candidate = region
  cases hm : flash region.manifestBase 144 with
  | none => exact ⟨rfl, hclear.readFail⟩
  | some wire =>
    simp only [hv, Option.bind_some]
    cases haccepts : a.platform.accepts verifies wire with
    | false =>
      have hrefused := begin_refuses hc (rd k region.manifestBase 144).1 v (hfresh.platform ▸ haccepts)
      simp only [hrefused, Bool.not_false, Bool.true_or, if_true, Bool.false_and, Bool.false_eq_true, if_false]
      exact ⟨rfl, hclear.fail⟩
    | true =>
      have haccepts' : v.platform.accepts verifies wire = true := hfresh.platform ▸ haccepts
      obtain ⟨k', hbegin, hfed⟩ := begin_accepts hc (rd k region.manifestBase 144).1 hfresh.active haccepts'
      have hsize : (v.opened wire).manifest.imageSize = (ManifestWire.manifest wire).imageSize := rfl
      simp only [hbegin, Bool.not_true, Bool.false_or, decide_eq_true_eq, Bool.true_and, hsize]
      by_cases hfits : (ManifestWire.manifest wire).imageSize ≤ region.imageCapacity
      · rw [if_neg (BitVec.not_lt.2 hfits), if_pos hfits]
        obtain ⟨hunread, hread⟩ := stream_spec hc hrd region.imageBase (ManifestWire.manifest wire).imageSize.toNat k'
          (v.opened wire) 0 rfl rfl (Nat.zero_le _) (Nat.le_of_eq (congrArg BitVec.toNat (BitVec.sub_zero _)))
        rw [hsize] at hunread hread
        cases himage : imageRead flash region.imageBase (ManifestWire.manifest wire).imageSize
            (ManifestWire.manifest wire).imageSize.toNat 0 with
        | none =>
          simp only [hunread himage]
          exact ⟨rfl, hclear.readFail⟩
        | some image =>
          obtain ⟨k'', hstream, hfed'⟩ := hread image himage
          rw [hfed, List.nil_append] at hfed'
          have hfinish := finish_matches hc k''
            (v := { v.opened wire with receivedBytes := (ManifestWire.manifest wire).imageSize }) rfl rfl
          have hsame := UpdateVerifier.finish_same cr k''
            { v.opened wire with receivedBytes := (ManifestWire.manifest wire).imageSize }
          rw [hfed'] at hfinish
          simp only [hstream, hfinish, hsame.manifest, Option.bind_some]
          by_cases hdigest : digest image = (ManifestWire.manifest wire).digest
          · have hyes : decide (digest image = (v.opened wire).manifest.digest) = true := decide_eq_true hdigest
            simp only [hyes, if_pos hdigest, Bool.not_true, Bool.false_eq_true, if_false]
            exact ⟨rfl, hclear.setSize _⟩
          · have hno : decide (digest image = (v.opened wire).manifest.digest) = false := decide_eq_false hdigest
            simp only [hno, if_neg hdigest, Bool.not_false, if_true]
            exact ⟨rfl, hclear.fail⟩
      · rw [if_pos (BitVec.not_le.1 hfits), if_neg hfits]
        exact ⟨rfl, hclear.fail⟩

end Faithful

theorem sumCrypto_faithful : sumCrypto.Faithful (fun _ _ _ => true) sumDigest id where
  verify _ _ _ _ := rfl
  streams := sumCrypto_streams
  answers := StreamHash.plain_answers sumDigest

end OpenRef.Update
