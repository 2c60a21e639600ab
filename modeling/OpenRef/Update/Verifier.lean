import OpenRef.Base
import OpenRef.Lib.LittleEndian
/-!
# The update verifier (openref_update_verifier.c)

A manifest is 144 bytes: magic "ORUP", format 1, target, two zero bytes, hardware
id, image version, minimum bootloader version, image size, digest, release id, key
id and, after 80 signed bytes, the signature. `begin_some` says what an accepted
manifest satisfies.

The crypto callbacks run over a context `κ`.
-/

namespace OpenRef.Update

/-- `uint8_t manifest[OPENREF_UPDATE_MANIFEST_BYTES]`. -/
abbrev ManifestWire := Bytes 144

/-- `OPENREF_UPDATE_TARGET_RADIO`. -/
def targetRadio : U8 := 1
/-- `OPENREF_UPDATE_TARGET_AUDIO`. -/
def targetAudio : U8 := 2

/-- `openref_update_crypto_t`. -/
structure UpdateCrypto (κ : Type) where
  verifySignature : κ → Bytes 80 → Bytes 8 → Bytes 64 → κ × Bool
  hashBegin : κ → κ × Bool
  hashUpdate : κ → List U8 → κ × Bool
  hashFinish : κ → κ × Option (Bytes 32)

/-- `openref_update_platform_t`. -/
structure UpdatePlatform where
  target : U8
  hardwareId : U32
  bootloaderVersion : U32
  antirollbackFloor : U32
  confirmedImageVersion : U32
  maximumImageBytes : U32
deriving DecidableEq, Repr

/-- `openref_update_manifest_t`. -/
structure UpdateManifest where
  target : U8
  hardwareId : U32
  imageVersion : U32
  minimumBootloaderVersion : U32
  imageSize : U32
  digest : Bytes 32
  releaseId : Bytes 16
  keyId : Bytes 8
deriving DecidableEq, Repr

/-- The manifest `memset` leaves. -/
def UpdateManifest.zero : UpdateManifest := ⟨0, 0, 0, 0, 0, Bytes.zero _, Bytes.zero _, Bytes.zero _⟩

/-- `openref_update_verifier_t` without the callbacks. -/
structure UpdateVerifier where
  platform : UpdatePlatform
  manifest : UpdateManifest
  manifestWire : ManifestWire
  receivedBytes : U32
  rejectedManifests : U32
  hashFailures : U32
  active : Bool
  verified : Bool
deriving DecidableEq

/-- `nonzero` (:12-19). -/
def nonzero (data : List U8) : Bool := data.any (· ≠ 0)

/-- `&wire[index]` as a field of `length` bytes. -/
def ManifestWire.field (wire : ManifestWire) (index length : Nat) (h : index + length ≤ 144) : Bytes length where
  bytes := (wire.bytes.drop index).take length
  length_eq := by
    rw [List.length_take, List.length_drop, wire.length_eq]
    omega

theorem signed_fits : 0 + 80 ≤ 144 := by decide

theorem signature_fits : 80 + 64 ≤ 144 := by decide

/-- `wire[index]`. -/
def ManifestWire.byte (wire : ManifestWire) (index : Nat) : U8 := wire.bytes.getD index 0

/-- `read_u32(&wire[index])` (:6-10). -/
def ManifestWire.word (wire : ManifestWire) (index : Nat) : U32 :=
  LittleEndian.read 32 ((wire.bytes.drop index).take 4)

/-- The manifest in its wire form (:68-77). -/
def ManifestWire.manifest (wire : ManifestWire) : UpdateManifest where
  target := wire.byte 5
  hardwareId := wire.word 8
  imageVersion := wire.word 12
  minimumBootloaderVersion := wire.word 16
  imageSize := wire.word 20
  digest := wire.field 24 32 (by decide)
  releaseId := wire.field 56 16 (by decide)
  keyId := wire.field 72 8 (by decide)

/-- The fixed bytes of a manifest (:61-62). -/
def ManifestWire.framed (wire : ManifestWire) : Bool :=
  wire.byte 0 = 0x4f && wire.byte 1 = 0x52 && wire.byte 2 = 0x55 && wire.byte 3 = 0x50 &&
    wire.byte 4 = 1 && wire.byte 6 = 0 && wire.byte 7 = 0

/-- The checks on a manifest before its signature (:78-87). -/
def UpdatePlatform.permits (p : UpdatePlatform) (m : UpdateManifest) : Bool :=
  m.target = p.target && m.hardwareId = p.hardwareId && p.antirollbackFloor ≤ m.imageVersion &&
    p.confirmedImageVersion < m.imageVersion && m.minimumBootloaderVersion ≤ p.bootloaderVersion &&
    0 < m.imageSize && m.imageSize ≤ p.maximumImageBytes && nonzero m.digest.bytes &&
    nonzero m.releaseId.bytes && nonzero m.keyId.bytes

namespace UpdateVerifier

variable {κ : Type}

/-- `openref_update_verifier_init` (:31-47) with callbacks that are set. -/
def init (p : UpdatePlatform) : Option UpdateVerifier :=
  if (p.target ≠ targetRadio && p.target ≠ targetAudio) || p.hardwareId = 0 || p.bootloaderVersion = 0 ||
      p.maximumImageBytes = 0 then none
  else some ⟨p, .zero, Bytes.zero _, 0, 0, 0, false, false⟩

/-- The reset of an inactive verifier (:54-59). -/
def forget (v : UpdateVerifier) : UpdateVerifier :=
  if v.active then v
  else { v with verified := false, receivedBytes := 0, manifest := .zero, manifestWire := Bytes.zero _ }

/-- `openref_update_verifier_begin` (:49-100). -/
def begin (cr : UpdateCrypto κ) (k : κ) (v : UpdateVerifier) (wire : ManifestWire) : κ × UpdateVerifier × Bool :=
  let v := v.forget
  let rejected := { v with rejectedManifests := v.rejectedManifests + 1 }
  if v.active || !wire.framed then (k, rejected, false)
  else
    let manifest := wire.manifest
    if !v.platform.permits manifest then (k, rejected, false)
    else
      let s := cr.verifySignature k (wire.field 0 80 (by decide)) manifest.keyId (wire.field 80 64 (by decide))
      if !s.2 then (s.1, rejected, false)
      else
        let h := cr.hashBegin s.1
        if !h.2 then (h.1, rejected, false)
        else
          (h.1, { v with
            manifest := manifest
            manifestWire := wire
            receivedBytes := 0
            verified := false
            active := true }, true)

/-- What a call out of order or a failed hash leaves (:111-114). -/
def hashFailed (v : UpdateVerifier) : UpdateVerifier :=
  { v with active := false, hashFailures := v.hashFailures + 1 }

/-- `openref_update_verifier_write` (:102-119). -/
def write (cr : UpdateCrypto κ) (k : κ) (v : UpdateVerifier) (data : List U8) : κ × UpdateVerifier × Bool :=
  let length := BitVec.ofNat 32 data.length
  if !v.active || length = 0 || v.manifest.imageSize < v.receivedBytes ||
      v.manifest.imageSize - v.receivedBytes < length then (k, v.hashFailed, false)
  else
    let h := cr.hashUpdate k data
    if !h.2 then (h.1, v.hashFailed, false)
    else (h.1, { v with receivedBytes := v.receivedBytes + length }, true)

/-- `openref_update_verifier_finish` (:121-140). -/
def finish (cr : UpdateCrypto κ) (k : κ) (v : UpdateVerifier) : κ × UpdateVerifier × Bool :=
  if !v.active || v.receivedBytes ≠ v.manifest.imageSize then (k, v.hashFailed, false)
  else
    let h := cr.hashFinish k
    let valid := decide (h.2 = some v.manifest.digest)
    (h.1, { v with
      active := false
      verified := valid
      hashFailures := if valid then v.hashFailures else v.hashFailures + 1 }, valid)

/-- A fresh verifier of a platform. -/
structure Fresh (p : UpdatePlatform) (v : UpdateVerifier) : Prop where
  platform : v.platform = p
  active : v.active = false
  verified : v.verified = false
  manifest : v.manifest = .zero
  receivedBytes : v.receivedBytes = 0

theorem init_fresh {p : UpdatePlatform} {v : UpdateVerifier} (h : init p = some v) : Fresh p v := by
  unfold init at h
  split at h
  · cases h
  · cases h
    exact ⟨rfl, rfl, rfl, rfl, rfl⟩

theorem forget_platform (v : UpdateVerifier) : v.forget.platform = v.platform := by
  unfold forget
  split <;> rfl

theorem begin_platform (cr : UpdateCrypto κ) (k : κ) (v : UpdateVerifier) (wire : ManifestWire) :
    (v.begin cr k wire).2.1.platform = v.platform := by
  have h := v.forget_platform
  unfold begin
  dsimp only
  split
  · exact h
  · split
    · exact h
    · split
      · exact h
      · split <;> exact h

/-- The answer to the signature of a manifest. -/
def signature (cr : UpdateCrypto κ) (k : κ) (wire : ManifestWire) : κ × Bool :=
  cr.verifySignature k (wire.field 0 80 (by decide)) wire.manifest.keyId (wire.field 80 64 (by decide))

/-- The verifier after an accepted begin. -/
def opened (v : UpdateVerifier) (wire : ManifestWire) : UpdateVerifier :=
  { v.forget with
    manifest := wire.manifest
    manifestWire := wire
    receivedBytes := 0
    verified := false
    active := true }

theorem opened_platform (v : UpdateVerifier) (wire : ManifestWire) : (v.opened wire).platform = v.platform :=
  v.forget_platform

/-- Everything `begin` can do. -/
inductive Begun (cr : UpdateCrypto κ) (k : κ) (v : UpdateVerifier) (wire : ManifestWire) :
    κ × UpdateVerifier × Bool → Prop
  | rejected (k' : κ) : (v.active = true → k' = k) →
      (v.active = false → wire.framed = true → v.platform.permits wire.manifest = true →
        (signature cr k wire).2 = true → (cr.hashBegin (signature cr k wire).1).2 = false) →
      Begun cr k v wire (k', { v.forget with rejectedManifests := v.forget.rejectedManifests + 1 }, false)
  | started : v.active = false → wire.framed = true → v.platform.permits wire.manifest = true →
      (signature cr k wire).2 = true → (cr.hashBegin (signature cr k wire).1).2 = true →
      Begun cr k v wire ((cr.hashBegin (signature cr k wire).1).1, v.opened wire, true)

theorem begin_begun (cr : UpdateCrypto κ) (k : κ) (v : UpdateVerifier) (wire : ManifestWire) :
    Begun cr k v wire (v.begin cr k wire) := by
  have hforget : v.forget.active = v.active := by
    unfold forget
    split <;> rfl
  unfold begin
  dsimp only
  split
  next h1 =>
    refine .rejected k (fun _ => rfl) fun ha hf => ?_
    simp [hforget, ha, hf] at h1
  next h1 =>
    rw [Bool.or_eq_true, not_or, Bool.not_eq_true, Bool.not_eq_true', Bool.not_eq_false, hforget] at h1
    have hidle {k' : κ} (ha : v.active = true) : k' = k := absurd (h1.1.symm.trans ha) Bool.false_ne_true
    split
    next h2 =>
      rw [v.forget_platform] at h2
      refine .rejected k hidle fun _ _ hp => ?_
      simp [hp] at h2
    next h2 =>
      rw [Bool.not_eq_true', Bool.not_eq_false, v.forget_platform] at h2
      split
      next h3 =>
        rw [Bool.not_eq_true'] at h3
        exact .rejected _ hidle fun _ _ _ hs => absurd (h3.symm.trans hs) Bool.false_ne_true
      next h3 =>
        rw [Bool.not_eq_true', Bool.not_eq_false] at h3
        split
        next h4 =>
          rw [Bool.not_eq_true'] at h4
          exact .rejected _ hidle fun _ _ _ _ => h4
        next h4 =>
          rw [Bool.not_eq_true', Bool.not_eq_false] at h4
          exact .started h1.1 h1.2 h2 h3 h4

/-- **What an accepted manifest satisfies.** -/
theorem begin_some {cr : UpdateCrypto κ} {k : κ} {v : UpdateVerifier} {wire : ManifestWire}
    (h : (v.begin cr k wire).2.2 = true) :
    v.active = false ∧ wire.framed = true ∧ v.platform.permits wire.manifest = true ∧
      (v.begin cr k wire).2.1.manifest = wire.manifest ∧ (v.begin cr k wire).2.1.active = true ∧
      (v.begin cr k wire).2.1.verified = false := by
  have hb := begin_begun cr k v wire
  generalize v.begin cr k wire = r at hb h ⊢
  cases hb with
  | rejected => cases h
  | started hactive hframed hpermits => exact ⟨hactive, hframed, hpermits, rfl, rfl, rfl⟩

/-- The data fit behind what was received. -/
structure Takes (v : UpdateVerifier) (data : List U8) : Prop where
  active : v.active = true
  nonempty : BitVec.ofNat 32 data.length ≠ 0
  bounded : v.receivedBytes ≤ v.manifest.imageSize
  fits : BitVec.ofNat 32 data.length ≤ v.manifest.imageSize - v.receivedBytes

/-- Everything `write` can do. -/
inductive Written (cr : UpdateCrypto κ) (k : κ) (v : UpdateVerifier) (data : List U8) :
    κ × UpdateVerifier × Bool → Prop
  | failed (k' : κ) : (v.Takes data → (cr.hashUpdate k data).2 = false) → Written cr k v data (k', v.hashFailed, false)
  | taken : v.Takes data → (cr.hashUpdate k data).2 = true → Written cr k v data
      ((cr.hashUpdate k data).1, { v with receivedBytes := v.receivedBytes + BitVec.ofNat 32 data.length }, true)

theorem write_written (cr : UpdateCrypto κ) (k : κ) (v : UpdateVerifier) (data : List U8) :
    Written cr k v data (v.write cr k data) := by
  unfold write
  dsimp only
  split
  next h1 =>
    refine .failed k fun ⟨hactive, hlength, hreceived, hfits⟩ => ?_
    simp [hactive, BitVec.not_lt.2 hreceived, BitVec.not_lt.2 hfits] at h1
    exact absurd h1 hlength
  next h1 =>
    simp only [Bool.or_eq_true, Bool.not_eq_true', decide_eq_true_eq, not_or, Bool.not_eq_false, BitVec.not_lt] at h1
    obtain ⟨⟨⟨hactive, hlength⟩, hreceived⟩, hfits⟩ := h1
    split
    next h2 =>
      rw [Bool.not_eq_true'] at h2
      exact .failed _ fun _ => h2
    next h2 =>
      rw [Bool.not_eq_true', Bool.not_eq_false] at h2
      exact .taken ⟨hactive, hlength, hreceived, hfits⟩ h2

/-- Everything `finish` can do. -/
inductive Finished (cr : UpdateCrypto κ) (k : κ) (v : UpdateVerifier) : κ × UpdateVerifier × Bool → Prop
  | failed : ¬ (v.active = true ∧ v.receivedBytes = v.manifest.imageSize) → Finished cr k v (k, v.hashFailed, false)
  | mismatch : v.active = true → v.receivedBytes = v.manifest.imageSize →
      (cr.hashFinish k).2 ≠ some v.manifest.digest → Finished cr k v
        ((cr.hashFinish k).1, { v with active := false, verified := false, hashFailures := v.hashFailures + 1 }, false)
  | matched : v.active = true → v.receivedBytes = v.manifest.imageSize →
      (cr.hashFinish k).2 = some v.manifest.digest → Finished cr k v
        ((cr.hashFinish k).1, { v with active := false, verified := true }, true)

theorem finish_finished (cr : UpdateCrypto κ) (k : κ) (v : UpdateVerifier) : Finished cr k v (v.finish cr k) := by
  unfold finish
  split
  next h1 =>
    refine .failed fun ⟨ha, hr⟩ => ?_
    simp [ha, hr] at h1
  next h1 =>
    simp only [Bool.or_eq_true, Bool.not_eq_true', decide_eq_true_eq, not_or, Bool.not_eq_false, not_not] at h1
    obtain ⟨hactive, hreceived⟩ := h1
    by_cases hd : (cr.hashFinish k).2 = some v.manifest.digest
    · simp only [hd, decide_true, if_true]
      exact .matched hactive hreceived hd
    · simp only [hd, decide_false, Bool.false_eq_true, if_false]
      exact .mismatch hactive hreceived hd

/-- Two states of a verifier with the same manifest and platform. -/
structure Same (v w : UpdateVerifier) : Prop where
  manifest : w.manifest = v.manifest
  platform : w.platform = v.platform

theorem Same.refl (v : UpdateVerifier) : v.Same v := ⟨rfl, rfl⟩

theorem Same.trans {u v w : UpdateVerifier} (h : u.Same v) (h' : v.Same w) : u.Same w :=
  ⟨h'.manifest.trans h.manifest, h'.platform.trans h.platform⟩

theorem write_same (cr : UpdateCrypto κ) (k : κ) (v : UpdateVerifier) (data : List U8) :
    v.Same (v.write cr k data).2.1 := by
  unfold write
  dsimp only
  split
  · exact ⟨rfl, rfl⟩
  · split <;> exact ⟨rfl, rfl⟩

theorem finish_same (cr : UpdateCrypto κ) (k : κ) (v : UpdateVerifier) : v.Same (v.finish cr k).2.1 := by
  unfold finish
  split <;> exact ⟨rfl, rfl⟩

end UpdateVerifier

/-- A manifest that the platform permits, with a right signature. -/
def UpdatePlatform.accepts (verifies : Bytes 80 → Bytes 8 → Bytes 64 → Bool) (p : UpdatePlatform) (wire : ManifestWire) :
    Bool :=
  wire.framed && p.permits wire.manifest &&
    verifies (wire.field 0 80 (by decide)) wire.manifest.keyId (wire.field 80 64 (by decide))

end OpenRef.Update
