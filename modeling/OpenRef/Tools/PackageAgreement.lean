import OpenRef.Tools.SlotPackage
import OpenRef.Update.Bootable
/-!
# The packager and the bootstrap agree (tools/package_rt595_signed_slot.py:219-308)

The packager writes the 144 bytes of a manifest and checks them in Python, the bootstrap checks them in C. What is made
passes the check of the packager (`PackChecks.accepted`), and what passes that check is booted (`PackageChecks.boots`).

`package_agrees`: so both agree on every package, under the same policy and the key whose id the manifest has.
-/

namespace OpenRef.Tools

open OpenRef.Update (ManifestWire SlotAuthenticator SlotReader Shows UpdateCrypto UpdatePlatform flashOf verdict_flashOf authenticate_eq)
open OpenRef.Boot (noSlot)

/-! ## The fields of a manifest -/

/-- The field of a byte string that comes next, and what is behind it. -/
theorem next_field {bytes field rest : List U8} {i n : ℕ} (h : bytes.drop i = field ++ rest) (hn : field.length = n) :
    (bytes.drop i).take n = field ∧ bytes.drop (i + n) = rest := by
  rw [← List.drop_drop, h]
  exact ⟨List.take_left' hn, List.drop_left' hn⟩

/-- A word that comes next. -/
theorem next_word {bytes rest : List U8} {i : ℕ} {v : U32} (h : bytes.drop i = LittleEndian.write 4 v ++ rest) :
    manifestWord bytes i = v ∧ bytes.drop (i + 4) = rest := by
  obtain ⟨hfield, hrest⟩ := next_field h (LittleEndian.length_write 4 v)
  refine ⟨?_, hrest⟩
  unfold manifestWord
  rw [hfield]
  exact LittleEndian.read_write 4 v

theorem length_signedPart (hardware version minimum size : U32) {digest release keyId : List U8} (hdigest : digest.length = 32)
    (hrelease : release.length = 16) (hkeyId : keyId.length = 8) :
    (signedPart hardware version minimum size digest release keyId).length = signedBytes := by
  simp only [signedPart, magic, signedBytes, List.length_append, List.length_cons, List.length_nil, LittleEndian.length_write,
    hdigest, hrelease, hkeyId]

/-- The parts of a package. -/
theorem sealPackage_parts {manifest : List U8} (h : manifest.length = manifestBytes) (image : List U8) :
    (sealPackage manifest image).length = sectorBytes + image.length ∧ (sealPackage manifest image).take manifestBytes = manifest ∧
      ((sealPackage manifest image).take sectorBytes).drop manifestBytes = List.replicate (sectorBytes - manifestBytes) 0xff ∧
        (sealPackage manifest image).drop sectorBytes = image := by
  have hsector : (manifest ++ List.replicate (sectorBytes - manifest.length) (0xff : U8)).length = sectorBytes := by
    rw [List.length_append, List.length_replicate, h]
    rfl
  unfold sealPackage
  refine ⟨?_, ?_, ?_, ?_⟩
  · rw [List.length_append, hsector]
  · rw [List.append_assoc, List.take_left' h]
  · rw [List.take_left' hsector, List.drop_left' h, h]
  · rw [List.drop_left' hsector]

theorem sign_length {h : P256.Digests} {turns d : ℕ} {data signature : List U8}
    (hs : P256.sign h turns d data = some signature) : signature.length = 64 := by
  obtain ⟨_, _, _, _, _, -, -, -, -, -, -, hsig⟩ := P256.sign_some hs
  rw [hsig, List.length_append, BigEndian.length_toBytes, BigEndian.length_toBytes]

theorem releaseId_ok {lib : PythonLibrary} {text : String} {release : List U8} (h : releaseId lib text = .ok release) :
    release.length = 16 ∧ anyNonzero release = true := by
  unfold releaseId at h
  simp only [bind_eq_ok, require_eq_ok, orRaise_eq_ok, Bool.and_eq_true, decide_eq_true_eq, exists_const] at h
  obtain ⟨raw, -, hraw, hok⟩ := h
  exact Except.ok.inj hok ▸ hraw

/-- The fields of a manifest. -/
structure ManifestFields (manifest : List U8) (hardware version minimum size : U32) (digest release keyId signature : List U8) :
    Prop where
  signed : manifest.take signedBytes = signedPart hardware version minimum size digest release keyId
  signature : manifest.drop signedBytes = signature
  magic : manifest.take 4 = magic
  format : manifest.getD 4 0 = formatVersion
  target : manifest.getD 5 0 = targetAudio
  reserved : (manifest.drop 6).take 2 = [0, 0]
  hardware : manifestWord manifest 8 = hardware
  version : manifestWord manifest 12 = version
  minimum : manifestWord manifest 16 = minimum
  size : manifestWord manifest 20 = size
  digest : (manifest.drop 24).take 32 = digest
  release : (manifest.drop 56).take 16 = release
  keyId : (manifest.drop 72).take 8 = keyId

/-- A manifest that was packed has the fields it was packed from. -/
theorem manifest_fields (hardware version minimum size : U32) {digest release keyId : List U8} (signature : List U8)
    (hdigest : digest.length = 32) (hrelease : release.length = 16) (hkeyId : keyId.length = 8) :
    ManifestFields (signedPart hardware version minimum size digest release keyId ++ signature) hardware version minimum size
      digest release keyId signature := by
  have hsigned := length_signedPart hardware version minimum size hdigest hrelease hkeyId
  have h8 : (signedPart hardware version minimum size digest release keyId ++ signature).drop 8 =
      LittleEndian.write 4 hardware ++ (LittleEndian.write 4 version ++ (LittleEndian.write 4 minimum ++
        (LittleEndian.write 4 size ++ (digest ++ (release ++ (keyId ++ signature)))))) := by
    simp only [signedPart, magic, List.append_assoc, List.cons_append, List.nil_append, List.drop_succ_cons, List.drop_zero]
  obtain ⟨hhardware, h12⟩ := next_word h8
  obtain ⟨hversion, h16⟩ := next_word h12
  obtain ⟨hminimum, h20⟩ := next_word h16
  obtain ⟨hsize, h24⟩ := next_word h20
  obtain ⟨hdigestField, h56⟩ := next_field h24 hdigest
  obtain ⟨hreleaseField, h72⟩ := next_field h56 hrelease
  obtain ⟨hkeyIdField, -⟩ := next_field h72 hkeyId
  exact {
    signed := List.take_left' hsigned
    signature := List.drop_left' hsigned
    magic := rfl
    format := rfl
    target := rfl
    reserved := rfl
    hardware := hhardware
    version := hversion
    minimum := hminimum
    size := hsize
    digest := hdigestField
    release := hreleaseField
    keyId := hkeyIdField }

/-- The manifest that is made. -/
theorem PackChecks.manifest {lib : PythonLibrary} {turns : ℕ} {capacity : ℤ} {hardware version minimum floor confirmed : U32}
    {d : ℕ} {key release image signature : List U8}
    (h : PackChecks lib turns capacity hardware version minimum floor confirmed d key release image signature)
    (hrelease : release.length = 16) :
    (signedPart hardware version minimum (BitVec.ofNat 32 image.length) (lib.sha256 image).bytes release
        ((lib.sha256 key).bytes.take 8) ++ signature).length = manifestBytes ∧
      ManifestFields (signedPart hardware version minimum (BitVec.ofNat 32 image.length) (lib.sha256 image).bytes release
        ((lib.sha256 key).bytes.take 8) ++ signature) hardware version minimum (BitVec.ofNat 32 image.length)
          (lib.sha256 image).bytes release ((lib.sha256 key).bytes.take 8) signature := by
  have hdigest := (lib.sha256 image).length_eq
  have hkeyId : ((lib.sha256 key).bytes.take 8).length = 8 := by
    rw [List.length_take, (lib.sha256 key).length_eq]
    rfl
  refine ⟨?_, manifest_fields hardware version minimum (BitVec.ofNat 32 image.length) signature hdigest hrelease hkeyId⟩
  rw [List.length_append, length_signedPart _ _ _ _ hdigest hrelease hkeyId, sign_length h.signature]
  rfl

/-- **What the packager makes, it accepts**, for every bootloader from the minimum on. -/
theorem PackChecks.accepted {lib : PythonLibrary} {turns : ℕ} {capacity : ℤ}
    {hardware version minimum floor confirmed bootloader : U32} {d : ℕ} {key release image signature : List U8}
    (h : PackChecks lib turns capacity hardware version minimum floor confirmed d key release image signature)
    (hd : (1 ≤ d ∧ d < P256.n) ∧ P256.publicKey d = some key) (hrelease : release.length = 16 ∧ anyNonzero release = true)
    (hboot : minimum ≤ bootloader) :
    PackageChecks lib.sha256 capacity hardware bootloader floor confirmed key
      (sealPackage (signedPart hardware version minimum (BitVec.ofNat 32 image.length) (lib.sha256 image).bytes release
        ((lib.sha256 key).bytes.take 8) ++ signature) image) := by
  have hverify := P256.verify_sign hd.1 hd.2 h.signature
  obtain ⟨hlength, hfields⟩ := h.manifest hrelease.1
  obtain ⟨htotal, hmanifest, hpadding, himage⟩ := sealPackage_parts hlength image
  have hpositive := List.length_pos_iff.2 h.nonempty
  have hfits := h.fits
  constructor
  all_goals try rw [hmanifest]
  case length => rw [htotal]; omega
  case fits => rw [htotal, Nat.cast_add]; omega
  case padding => rw [hpadding]; simp
  case magic => exact hfields.magic
  case format => exact hfields.format
  case target => exact hfields.target
  case reserved => exact hfields.reserved
  case size =>
    rw [hfields.size, himage, BitVec.toNat_ofNat, Nat.mod_eq_of_lt h.size]
  case hardware => exact hfields.hardware
  case bootloader => rw [hfields.minimum]; exact hboot
  case floor => rw [hfields.version]; exact h.floor
  case confirmed => rw [hfields.version]; exact h.confirmed
  case keyId => exact hfields.keyId
  case digest_nonzero => rw [hfields.digest]; exact h.digest_nonzero
  case keyId_nonzero => rw [hfields.keyId]; exact h.keyId_nonzero
  case release_nonzero => rw [hfields.release]; exact hrelease.2
  case digest => rw [himage, hfields.digest]
  case signature => rw [hfields.signed, hfields.signature]; exact hverify

/-! ## The bootstrap -/

/-- A device with a package at the manifest base of a slot of the layout. Its bootstrap has this policy, a digest that is
SHA-256, and a signature callback that accepts what `_verify` accepts under the key whose id the manifest has. -/
structure Installed {μ : Type} (sha256 : List U8 → Bytes 32) (region : SlotLayout) (hardware bootloader floor confirmed : U32)
    (key package : List U8) (rd : SlotReader μ) (cr : UpdateCrypto μ) (a : SlotAuthenticator) (candidate running : U8) :
    Prop where
  initialized : (SlotAuthenticator.init a.platform a.regionA a.regionB).isSome = true
  platform : a.platform =
    ⟨Update.targetAudio, hardware, bootloader, floor, confirmed, (a.region candidate).imageCapacity⟩
  manifestBase : ((a.region candidate).manifestBase.toNat : ℤ) = region.manifestBase
  imageBase : ((a.region candidate).imageBase.toNat : ℤ) = region.imageBase
  capacity : ((a.region candidate).imageCapacity.toNat : ℤ) = region.capacity
  candidate_le : candidate ≤ 1
  running_slot : running = noSlot ∨ running ≤ 1
  apart : candidate ≠ running
  callbacks : ∃ m verifies fed, Shows rd (flashOf m) fed ∧ cr.Faithful verifies sha256 fed ∧
    Flash.bytesAt m (a.region candidate).manifestBase.toNat package.length = package ∧
      ∀ (signed : Bytes 80) (keyId : Bytes 8) (signature : Bytes 64), keyId.bytes = (sha256 key).bytes.take 8 →
        verifies signed keyId signature = decide (P256.verify sha256 key signed.bytes signature.bytes = some true)

/-- The image of a slot is behind the sector of its manifest. -/
theorem slotLayout_ok {lib : PythonLibrary} {file : LayoutFile} {slot : SlotName} {region : SlotLayout}
    (h : slotLayout lib file slot = .ok region) : region.imageBase = region.manifestBase + sectorBytes := by
  unfold slotLayout at h
  simp only [bind_eq_ok, require_eq_ok, orRaise_eq_ok, Bool.and_eq_true, decide_eq_true_eq, exists_const] at h
  obtain ⟨_, -, -, _, -, _, -, _, -, _, -, _, -, _, -, ⟨⟨⟨-, hadjacent⟩, -⟩, -⟩, hok⟩ := h
  exact Except.ok.inj hok ▸ hadjacent

/-- The image regions of an authenticator that was initialised. -/
theorem image_fits {a : SlotAuthenticator} (h : (SlotAuthenticator.init a.platform a.regionA a.regionB).isSome = true)
    (slot : U8) : (a.region slot).imageBase.toNat + (a.region slot).imageCapacity.toNat < 2 ^ 32 := by
  unfold SlotAuthenticator.init at h
  split at h
  · cases h
  · next hc =>
    simp only [Bool.or_eq_true, not_or, Bool.not_eq_true', Bool.not_eq_false] at hc
    obtain ⟨⟨⟨⟨⟨⟨⟨⟨⟨⟨⟨-, hA⟩, hB⟩, -⟩, -⟩, -⟩, -⟩, -⟩, -⟩, -⟩, -⟩, -⟩ := hc
    unfold SlotAuthenticator.region
    split
    · exact (Update.regionValid_fits hA).2
    · exact (Update.regionValid_fits hB).2

/-- A byte of a field. -/
theorem getD_of_field {bytes field : List U8} {i n : ℕ} (h : (bytes.drop i).take n = field) {j : ℕ} (hj : j < n) :
    bytes.getD (i + j) 0 = field.getD j 0 := by
  rw [← h, List.getD_eq_getElem?_getD, List.getD_eq_getElem?_getD, List.getElem?_take_of_lt hj, List.getElem?_drop]

/-- Both read the same header. -/
theorem framed_of_header {wire : ManifestWire} (hmagic : wire.bytes.take 4 = magic) (hformat : wire.bytes.getD 4 0 = formatVersion)
    (hreserved : (wire.bytes.drop 6).take 2 = [0, 0]) : wire.framed = true := by
  have hhead {j : ℕ} (hj : j < 4) : wire.byte j = magic.getD j 0 := by
    have hbyte := getD_of_field (i := 0) hmagic hj
    rwa [Nat.zero_add] at hbyte
  have htail {j : ℕ} (hj : j < 2) : wire.byte (6 + j) = [(0 : U8), 0].getD j 0 := getD_of_field hreserved hj
  have h6 : wire.byte 6 = 0 := htail (j := 0) (by decide)
  have h7 : wire.byte 7 = 0 := htail (j := 1) (by decide)
  have h4 : wire.byte 4 = 1 := hformat
  unfold ManifestWire.framed
  rw [hhead (by decide), hhead (by decide), hhead (by decide), hhead (by decide), h4, h6, h7]
  rfl

/-- **What the packager accepts, the bootstrap accepts** as the manifest of a slot. -/
theorem PackageChecks.accepts {sha256 : List U8 → Bytes 32} {capacity : ℤ} {hardware bootloader floor confirmed maximum : U32}
    {key package : List U8} (h : PackageChecks sha256 capacity hardware bootloader floor confirmed key package)
    (hmaximum : (maximum.toNat : ℤ) = capacity) {verifies : Bytes 80 → Bytes 8 → Bytes 64 → Bool}
    (hcallback : ∀ (signed : Bytes 80) (keyId : Bytes 8) (signature : Bytes 64), keyId.bytes = (sha256 key).bytes.take 8 →
      verifies signed keyId signature = decide (P256.verify sha256 key signed.bytes signature.bytes = some true))
    {wire : ManifestWire} (hwire : wire.bytes = package.take manifestBytes) :
    UpdatePlatform.accepts verifies ⟨Update.targetAudio, hardware, bootloader, floor, confirmed, maximum⟩ wire = true ∧
      wire.manifest.imageSize ≤ maximum ∧ wire.manifest.imageSize.toNat = (package.drop sectorBytes).length := by
  have hlength := h.length
  have hfits := h.fits
  have hcount : wire.manifest.imageSize.toNat = (package.drop sectorBytes).length := by
    rw [← h.size, ← hwire]
    rfl
  have hdrop := List.length_drop (i := sectorBytes) (l := package)
  have hsize : wire.manifest.imageSize ≤ maximum := by
    rw [BitVec.le_def]
    omega
  refine ⟨?_, hsize, hcount⟩
  have hpermits : UpdatePlatform.permits ⟨Update.targetAudio, hardware, bootloader, floor, confirmed, maximum⟩
      wire.manifest = true := by
    have hpositive : (0 : U32) < wire.manifest.imageSize := by
      rw [BitVec.lt_def, hcount]
      change 0 < _
      omega
    have hmanifest := hwire.symm
    have hhardware := h.hardware
    have hbootloader := h.bootloader
    have hfloor := h.floor
    have hconfirmed := h.confirmed
    have hdigest := h.digest_nonzero
    have hrelease := h.release_nonzero
    have hkeyId := h.keyId_nonzero
    have htarget := h.target
    rw [hmanifest] at hhardware hbootloader hfloor hconfirmed hdigest hrelease hkeyId htarget
    simp only [UpdatePlatform.permits, Bool.and_eq_true, decide_eq_true_eq]
    exact ⟨⟨⟨⟨⟨⟨⟨⟨⟨htarget, hhardware⟩, hfloor⟩, hconfirmed⟩, hbootloader⟩, hpositive⟩, hsize⟩, hdigest⟩, hrelease⟩, hkeyId⟩
  have hsigned : verifies (wire.field 0 80 Update.signed_fits) wire.manifest.keyId
      (wire.field 80 64 Update.signature_fits) = true := by
    have hsignature : (wire.bytes.drop 80).length = 64 := by rw [List.length_drop, wire.length_eq]
    have hverify := h.signature
    rw [← hwire, ← List.take_of_length_le (l := wire.bytes.drop signedBytes) (Nat.le_of_eq hsignature)] at hverify
    rw [hcallback _ _ _ (by rw [← h.keyId, ← hwire]; rfl)]
    exact decide_eq_true hverify
  rw [UpdatePlatform.accepts, framed_of_header (hwire ▸ h.magic) (hwire ▸ h.format) (hwire ▸ h.reserved), hpermits]
  exact hsigned

/-- The authentication of a slot returns true, with this version and this size. -/
def Authenticates {μ : Type} (rd : SlotReader μ) (cr : UpdateCrypto μ) (k : μ) (a : SlotAuthenticator) (candidate running : U8)
    (version : U32) (size : ℕ) : Prop :=
  (a.authenticate rd cr k candidate running).2.2 = (⟨true, true, version⟩, true) ∧
    ((a.authenticate rd cr k candidate running).2.1.authenticatedSize candidate).toNat = size

/-- **What the packager accepts is booted**, under the same policy. -/
theorem PackageChecks.boots {μ : Type} {sha256 : List U8 → Bytes 32} {region : SlotLayout}
    {hardware bootloader floor confirmed : U32} {key package : List U8} {rd : SlotReader μ} {cr : UpdateCrypto μ}
    {a : SlotAuthenticator} {candidate running : U8}
    (h : PackageChecks sha256 region.capacity hardware bootloader floor confirmed key package)
    (hadjacent : region.imageBase = region.manifestBase + sectorBytes)
    (hi : Installed sha256 region hardware bootloader floor confirmed key package rd cr a candidate running) (k : μ) :
    Authenticates rd cr k a candidate running (manifestWord (package.take manifestBytes) 12)
      (manifestWord (package.take manifestBytes) 20).toNat := by
  obtain ⟨m, verifies, fed, hshows, hfaithful, hpackage, hcallback⟩ := hi.callbacks
  have hlength := h.length
  have hle : manifestBytes ≤ package.length := by
    simp only [sectorBytes, manifestBytes] at hlength ⊢
    omega
  obtain ⟨hmanifest, -⟩ := Flash.bytesAt_split m (a.region candidate).manifestBase.toNat hle
  obtain ⟨-, himage⟩ := Flash.bytesAt_split m (a.region candidate).manifestBase.toNat (Nat.le_of_lt hlength)
  rw [hpackage] at hmanifest himage
  have hwirelength : (package.take manifestBytes).length = 144 := by
    rw [List.length_take, Nat.min_eq_left hle]
    rfl
  obtain ⟨wire, hwire⟩ : ∃ wire : ManifestWire, wire.bytes = package.take manifestBytes := ⟨⟨_, hwirelength⟩, rfl⟩
  have hread : flashOf m (a.region candidate).manifestBase 144 = some wire :=
    congrArg some (Bytes.ext_bytes (hmanifest.symm.trans hwire.symm))
  obtain ⟨haccepts, hsize, hcount⟩ := h.accepts hi.capacity hcallback hwire
  rw [← hi.platform] at haccepts
  -- the image stands where the image region is
  have hbase : (a.region candidate).imageBase.toNat = (a.region candidate).manifestBase.toNat + sectorBytes := by
    have hmanifestBase := hi.manifestBase
    have himageBase := hi.imageBase
    omega
  have hdigest : sha256 (Flash.bytesAt m (a.region candidate).imageBase.toNat wire.manifest.imageSize.toNat) =
      wire.manifest.digest := by
    rw [hbase, hcount, List.length_drop, ← himage]
    refine Bytes.ext_bytes (h.digest.trans ?_)
    rw [← hwire]
    rfl
  have hverdict := (verdict_flashOf m verifies sha256 a.platform hread (image_fits hi.initialized candidate)).2
    ⟨haccepts, hsize, hdigest, rfl⟩
  obtain ⟨b, hb⟩ := Option.isSome_iff_exists.1 hi.initialized
  obtain ⟨hanswer, hleft⟩ := authenticate_eq hfaithful hshows k a (SlotAuthenticator.init_some hb).1 hi.candidate_le
    hi.running_slot hi.apart
  rw [hverdict] at hanswer hleft
  rw [← hwire]
  exact ⟨hanswer, congrArg BitVec.toNat hleft.size⟩

/-- **Main result.** What the packager makes, it accepts under the values it was made for and for every bootloader from the
minimum on, and a device with these values boots it with its version and its size. And what the packager accepts, a device
with the values of the check boots. -/
theorem package_agrees (lib : PythonLibrary) :
    (∀ {turns : ℕ} {pack : PackArguments} {package : List U8} {metadata : PackageMetadata},
      createPackage lib turns pack = .ok (package, metadata) → ∃ region hardware floor confirmed d key release,
        PackReads lib pack region hardware metadata.imageVersion metadata.minimumBootloaderVersion floor confirmed d key release ∧
          ∀ bootloader, metadata.minimumBootloaderVersion ≤ bootloader →
            (∀ args, VerifyReads lib args region hardware bootloader floor confirmed key → args.package = package →
              ∃ report, verifyPackage lib args = .ok report) ∧
            ∀ {μ : Type} {rd : SlotReader μ} {cr : UpdateCrypto μ} {a : SlotAuthenticator} {candidate running : U8},
              Installed lib.sha256 region hardware bootloader floor confirmed key package rd cr a candidate running → ∀ k,
                Authenticates rd cr k a candidate running metadata.imageVersion pack.image.length) ∧
      ∀ {args : VerifyArguments} {report : VerifyReport}, verifyPackage lib args = .ok report →
        ∃ region hardware bootloader floor confirmed key, VerifyReads lib args region hardware bootloader floor confirmed key ∧
          ∀ {μ : Type} {rd : SlotReader μ} {cr : UpdateCrypto μ} {a : SlotAuthenticator} {candidate running : U8},
            Installed lib.sha256 region hardware bootloader floor confirmed key args.package rd cr a candidate running → ∀ k,
              Authenticates rd cr k a candidate running report.imageVersion report.imageSize.toNat := by
  constructor
  · intro turns pack package metadata h
    obtain ⟨region, hardware, floor, confirmed, d, key, release, signature, hreads, hchecks, hpackage⟩ := createPackage_ok h
    refine ⟨region, hardware, floor, confirmed, d, key, release, hreads, fun bootloader hboot => ?_⟩
    have haccepted := hchecks.accepted (parsePrivatePem_spec hreads.key) (releaseId_ok hreads.release) hboot
    rw [← hpackage] at haccepted
    constructor
    · rintro args hargs rfl
      exact ⟨_, verifyPackage_ok.2 ⟨rfl, region, hardware, bootloader, floor, confirmed, key, hargs, haccepted⟩⟩
    · intro μ rd cr a candidate running hi k
      have hboots := haccepted.boots (slotLayout_ok hreads.layout) hi k
      obtain ⟨hlength, hfields⟩ := hchecks.manifest (releaseId_ok hreads.release).1
      rw [hpackage, (sealPackage_parts hlength pack.image).2.1, hfields.version, hfields.size, BitVec.toNat_ofNat,
        Nat.mod_eq_of_lt hchecks.size] at hboots
      exact hboots
  · intro args report h
    obtain ⟨rfl, region, hardware, bootloader, floor, confirmed, key, hreads, hchecks⟩ := verifyPackage_ok.1 h
    exact ⟨region, hardware, bootloader, floor, confirmed, key, hreads,
      fun hi k => hchecks.boots (slotLayout_ok hreads.layout) hi k⟩

/-! ## An image of four bytes, signed with the scalar 1 -/

/-- The public key. -/
def packageKey : List U8 := BigEndian.toBytes 32 P256.g.1.toNat ++ BigEndian.toBytes 32 P256.g.2.toNat

/-- The digests of the key, of the image and of what is signed. -/
def keyDigest : ℕ := 0xd875db7def232236aec738c6b0bb3e80142f5d0fd8f4df24fed6eef5cbb50d9f
def imageDigest : ℕ := 0x9f64a747e1b97f131fabb6b447296c9b6f0201e79fb3c5356e6c77e89b6a806a
def signedDigest : ℕ := 0x7fd33f741463d2f2c43275331b7a70326a1f77729e30096ffa3265b139818b01

/-- The nonce, and the signature with it. -/
def packageNonce : ℕ := 0xb882d962736171b24f56b0140528e9c1b362eec9d4288536127abed8707fff26
def packageSignature : List U8 :=
  BigEndian.toBytes 32 0x40e974d124eb4ef395d66e5e4bd88ff4468e89827dc24abd43449e6e0c4b8d7c ++
    BigEndian.toBytes 32 0x32324bfab7ee478b02538d65e3530393337de17532959126414356900b0f384

/-- The image. -/
def packageImage : List U8 := [1, 2, 3, 4]

/-- The release id. -/
def packageRelease : List U8 := BigEndian.toBytes 16 0x00112233445566778899aabbccddeeff

/-- What is signed. -/
def packageSigned : List U8 :=
  signedPart 0x59500001 7 1 4 (BigEndian.toBytes 32 imageDigest) packageRelease ((BigEndian.toBytes 32 keyDigest).take 8)

/-- SHA-256 of these byte strings. -/
def packageSha256 (bytes : List U8) : ℕ :=
  ([(packageKey, keyDigest), (packageImage, imageDigest), (packageSigned, signedDigest),
    (packageSigned ++ packageSignature, 0x196378626037a8f6fec4776fdf21929000545142d5f5d7738fd5516aa881105f),
    (sealPackage (packageSigned ++ packageSignature) packageImage,
      0x6d57b77808e41cc100bc11f7df8cd341e1a645984f8c30f0628d1f37eb6ee3cf)].lookup bytes).getD 0

/-- HMAC-SHA-256 on the way to the nonce. -/
def packageHmac (key message : List U8) : ℕ :=
  let word := BigEndian.toBytes 32
  let seed := word 1 ++ word signedDigest
  let k1 := 0xb51921e36ceb617709ec08f114ca1662b85e473844b5be0212616318c8dd2f84
  let v1 := 0x0cc28b8f22e47ca80067754df871c3cffa7fde84b22600edc9c24a717fd802a5
  let k2 := 0xd3313e02af4576ff3989061e2324e6b33b9eb8f21a6ad801cde33a0ea6933789
  let v2 := 0xad17adac08b6cfb83791b5b4e3d10dd23c9f6bb69a92ca985e96fd11ed2b8782
  ([((word 0, List.replicate 32 1 ++ [0] ++ seed), k1), ((word k1, List.replicate 32 1), v1),
    ((word k1, word v1 ++ [1] ++ seed), k2), ((word k2, word v1), v2), ((word k2, word v2), packageNonce)].lookup
      (key, message)).getD 0

/-- The body of the private key, in base64. -/
def privateBody : String :=
  "MEECAQAwEwYHKoZIzj0CAQYIKoZIzj0DAQcEJzAlAgEBBCAAAAAAAAAAAAAAAAAA\nAAAAAAAAAAAAAAAAAAAAAAAAAQ==\n"

/-- The body of its public key. -/
def publicBody : String :=
  "MFkwEwYHKoZIzj0CAQYIKoZIzj0DAQcDQgAEaxfR8uEsQkf4vOblY6RA8ncDfYEt\n" ++
    "6zOg9KE5RdiYwpZP40Li/hp/m47n60p8D54WK84zV2sxXs7LtkBoN79R9Q==\n"

/-- A PEM file. -/
def pemFile (label body : String) : String := "-----BEGIN " ++ label ++ "-----\n" ++ body ++ "-----END " ++ label ++ "-----\n"

/-- The answers of the standard library on this package. -/
def packageLibrary : PythonLibrary where
  sha256 bytes := ⟨BigEndian.toBytes 32 (packageSha256 bytes), BigEndian.length_toBytes _ _⟩
  hmac key message := ⟨BigEndian.toBytes 32 (packageHmac key message), BigEndian.length_toBytes _ _⟩
  intLiteral text := [("0x1000", 0x1000), ("0x08040000", 0x08040000), ("0x08041000", 0x08041000), ("0xbf000", 0xbf000),
    ("0x59500001", 0x59500001), ("7", 7), ("6", 6), ("3", 3), ("1", 1)].lookup text
  uuidBytes text := [("00112233-4455-6677-8899-aabbccddeeff", packageRelease)].lookup text
  fromHex _ := none
  pemBody label text := [(("PRIVATE KEY", pemFile "PRIVATE KEY" privateBody), privateBody),
    (("PUBLIC KEY", pemFile "PUBLIC KEY" publicBody), publicBody)].lookup (label, text)
  fromBase64 text := [
    (privateBody, BigEndian.toBytes 35 0x3041020100301306072a8648ce3d020106082a8648ce3d030107042730250201010420 ++
      BigEndian.toBytes 32 1),
    (publicBody, BigEndian.toBytes 27 0x3059301306072a8648ce3d020106082a8648ce3d03010703420004 ++ packageKey)].lookup text

/-- Slot A of a layout. -/
def packageLayout : LayoutFile where
  eraseBytes := some (.text "0x1000")
  partitions := [⟨"slot_a_manifest", "0x08040000", "0x1000", some "signed_manifest_commit"⟩,
    ⟨"slot_a_image", "0x08041000", "0xbf000", some "candidate_image"⟩]

/-- Version 7 over 6. -/
def packArguments : PackArguments where
  layout := packageLayout
  slot := .a
  image := packageImage
  privateKey := pemFile "PRIVATE KEY" privateBody
  hardwareId := .text "0x59500001"
  imageVersion := .text "7"
  minimumBootloaderVersion := .text "1"
  maximumBootloaderVersion := some (.text "3")
  antirollbackFloor := .text "7"
  confirmedImageVersion := .text "6"
  releaseId := "00112233-4455-6677-8899-aabbccddeeff"

/-- The check of a package for the same device. -/
def verifyArguments (package : List U8) : VerifyArguments where
  layout := packageLayout
  slot := .a
  package := package
  publicKey := pemFile "PUBLIC KEY" publicBody
  hardwareId := .text "0x59500001"
  bootloaderVersion := .text "1"
  antirollbackFloor := .text "7"
  confirmedImageVersion := .text "6"

/-- The device. -/
def packageDevice : SlotAuthenticator :=
  ⟨⟨Update.targetAudio, 0x59500001, 1, 7, 6, 0xbf000⟩, ⟨0x08040000, 0x08041000, 0xbf000⟩, ⟨0x08100000, 0x08101000, 0xbf000⟩,
    0, 0, 0, 0⟩

/-- Its flash. -/
def packageFlash (package : List U8) (address : ℕ) : U8 := package.getD (address - 0x08040000) 0xff

/-- Its reader. -/
def packageReader (package : List U8) : SlotReader (List U8) := fun k address n => (k, flashOf (packageFlash package) address n)

/-- Its callbacks, with this key. -/
def packageCrypto (key : List U8) : UpdateCrypto (List U8) where
  verifySignature k signed _ signature :=
    (k, decide (P256.verify packageLibrary.sha256 key signed.bytes signature.bytes = some true))
  hashBegin := (StreamHash.plain packageLibrary.sha256).start
  hashUpdate := (StreamHash.plain packageLibrary.sha256).update
  hashFinish := (StreamHash.plain packageLibrary.sha256).finish

theorem toOption_eq_some {α : Type} {x : Except String α} {a : α} : x.toOption = some a ↔ x = .ok a := by
  cases x <;> simp [Except.toOption]

/-- The device has what the check reads. -/
theorem package_installed {package : List U8} {region : SlotLayout} {hardware bootloader floor confirmed : U32} {key : List U8}
    (h : VerifyReads packageLibrary (verifyArguments package) region hardware bootloader floor confirmed key) :
    Installed packageLibrary.sha256 region hardware bootloader floor confirmed key package (packageReader package)
      (packageCrypto key) packageDevice 0 noSlot := by
  have hlayout : slotLayout packageLibrary packageLayout .a = .ok ⟨0x08040000, 0x08041000, 0xbf000⟩ := rfl
  have hhardware : u32 packageLibrary (.text "0x59500001") "hardware ID" true = .ok 0x59500001 := rfl
  have hbootloader : u32 packageLibrary (.text "1") "bootloader version" true = .ok 1 := rfl
  have hfloor : u32 packageLibrary (.text "7") "antirollback floor" false = .ok 7 := rfl
  have hconfirmed : u32 packageLibrary (.text "6") "confirmed image version" false = .ok 6 := rfl
  obtain rfl := Except.ok.inj (hlayout.symm.trans h.layout)
  obtain rfl := Except.ok.inj (hhardware.symm.trans h.hardware)
  obtain rfl := Except.ok.inj (hbootloader.symm.trans h.bootloader)
  obtain rfl := Except.ok.inj (hfloor.symm.trans h.floor)
  obtain rfl := Except.ok.inj (hconfirmed.symm.trans h.confirmed)
  refine ⟨by decide, rfl, rfl, rfl, rfl, by decide, .inl rfl, by decide, packageFlash package,
    fun signed _ signature => decide (P256.verify packageLibrary.sha256 key signed.bytes signature.bytes = some true), id,
    ⟨fun _ _ _ => rfl, fun _ _ _ => rfl⟩,
    ⟨fun _ _ _ _ => rfl, StreamHash.plain_streams _, StreamHash.plain_answers _⟩, ?_, fun _ _ _ _ => rfl⟩
  refine Flash.bytesAt_eq rfl fun i hi => ?_
  change package.getD (0x08040000 + i - 0x08040000) 0xff = _
  rw [Nat.add_sub_cancel_left, List.getD_eq_getElem _ _ hi]

/-- The package is made. -/
theorem package_made : ∃ made, createPackage packageLibrary 1 packArguments = .ok made := by
  have hkey : (parsePrivatePem packageLibrary packArguments.privateKey).toOption = some (1, packageKey) := by decide +kernel
  have hreads : PackReads packageLibrary packArguments ⟨0x08040000, 0x08041000, 0xbf000⟩ 0x59500001 7 1 7 6 1 packageKey
      packageRelease := ⟨rfl, rfl, rfl, rfl, rfl, rfl, toOption_eq_some.1 hkey, rfl⟩
  have hsigned : signedPart 0x59500001 7 1 (BitVec.ofNat 32 packArguments.image.length)
      (packageLibrary.sha256 packArguments.image).bytes packageRelease ((packageLibrary.sha256 packageKey).bytes.take 8) =
        packageSigned := by decide +kernel
  have hnonce : P256.rfc6979 packageLibrary.toDigests 1 1 (packageLibrary.sha256 packageSigned).bytes = some packageNonce := by
    decide +kernel
  have hpoint : P256.pointMul packageNonce (some P256.g) =
      some (some (0x40e974d124eb4ef395d66e5e4bd88ff4468e89827dc24abd43449e6e0c4b8d7c,
        0xb3238d8376572b6bed817c693153848a0d33e88dea734d15f25f3cf604b74ef3)) :=
    P256.pointMul_known (by decide +kernel) (by decide +kernel) (by decide +kernel)
  have hinverse : modInverse packageNonce P256.n =
      some 0xdda5222e9b37f43a7bd50cfd5941e7eae5f16b480b46af99817980f5ddcd8fb1 := by decide +kernel
  obtain ⟨signature, hsignature⟩ := P256.exists_sign hnonce hpoint hinverse (by decide +kernel) (by decide +kernel)
  have hchecks : PackChecks packageLibrary 1 0xbf000 0x59500001 7 1 7 6 1 packageKey packageRelease packArguments.image
      signature := by
    refine ⟨by decide, by decide, by decide, by decide, by decide +kernel, by decide +kernel, by decide, ?_⟩
    rw [hsigned]
    exact hsignature
  refine exists_createPackage hreads rfl hchecks ?_
  rw [hsigned]
  decide +kernel

/-- The package is made, accepted and booted. -/
theorem package_agrees_signed : ∃ package metadata report key,
    createPackage packageLibrary 1 packArguments = .ok (package, metadata) ∧
      verifyPackage packageLibrary (verifyArguments package) = .ok report ∧
      Authenticates (packageReader package) (packageCrypto key) [] packageDevice 0 noSlot metadata.imageVersion 4 ∧
      Authenticates (packageReader package) (packageCrypto key) [] packageDevice 0 noSlot report.imageVersion
        report.imageSize.toNat := by
  obtain ⟨⟨package, metadata⟩, hcreate⟩ := package_made
  have hagrees := package_agrees packageLibrary
  obtain ⟨region, hardware, floor, confirmed, d, key, release, hreads, hresult⟩ := hagrees.1 hcreate
  have hminimum : u32 packageLibrary (.text "1") "minimum bootloader version" true = .ok 1 := rfl
  have hboot : metadata.minimumBootloaderVersion ≤ 1 :=
    Nat.le_of_eq (congrArg BitVec.toNat (Except.ok.inj (hreads.minimum.symm.trans hminimum)))
  -- both keys are the one key
  have hkeys : (parsePem packageLibrary (pemFile "PUBLIC KEY" publicBody)).toOption.map Prod.snd =
      (parsePrivatePem packageLibrary (pemFile "PRIVATE KEY" privateBody)).toOption.map Prod.snd := by decide +kernel
  have hkey : parsePrivatePem packageLibrary (pemFile "PRIVATE KEY" privateBody) = .ok (d, key) := hreads.key
  rw [hkey] at hkeys
  obtain ⟨⟨der, key'⟩, hpem, hkey'⟩ := Option.map_eq_some_iff.1 hkeys
  obtain rfl : key' = key := hkey'
  have hverify : VerifyReads packageLibrary (verifyArguments package) region hardware 1 floor confirmed key' :=
    ⟨hreads.layout, hreads.hardware, rfl, hreads.floor, hreads.confirmed, der, toOption_eq_some.1 hpem⟩
  obtain ⟨haccepts, hboots⟩ := hresult 1 hboot
  obtain ⟨report, hreport⟩ := haccepts (verifyArguments package) hverify rfl
  obtain ⟨_, _, _, _, _, key'', hverify', hboots'⟩ := hagrees.2 hreport
  have hsame : key'' = key' := by
    obtain ⟨der', hder'⟩ := hverify'.key
    exact (Prod.mk.inj (Except.ok.inj (hder'.symm.trans (toOption_eq_some.1 hpem)))).2
  refine ⟨package, metadata, report, key', hcreate, hreport, hboots (package_installed hverify) [], ?_⟩
  rw [← hsame]
  exact hboots' (package_installed hverify') []

end OpenRef.Tools
