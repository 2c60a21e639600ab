import OpenRef.Lib.LittleEndian
import OpenRef.Tools.DerKey
/-!
# The slot packager (tools/package_rt595_signed_slot.py:176-308)

A package is one flash sector with the signed manifest of 144 bytes, erased behind it, and then the
image. `createPackage` signs one for a slot of a flash layout, and `verifyPackage` checks one with
the public key and the values of a device. The files are arguments: a layout is the JSON value that
was read, keys are PEM texts, images and packages are bytes.

`createPackage_ok` and `verifyPackage_ok` say what each of them asks and gives.
-/

namespace OpenRef.Tools

/-! ## Arguments -/

/-- `--slot`, one of A, B, a and b. -/
inductive SlotName
  | a | b
deriving DecidableEq, Repr

/-- `slot.upper()`. -/
def SlotName.upper : SlotName → String
  | a => "A"
  | b => "B"

/-- `slot.lower()`. -/
def SlotName.lower : SlotName → String
  | a => "a"
  | b => "b"

/-- A value that is a text or already a number. -/
inductive IntArgument
  | text (value : String)
  | number (value : ℤ)
deriving DecidableEq, Repr

/-- `int(value, 0) if isinstance(value, str) else value`. -/
def IntArgument.int (lib : PythonLibrary) : IntArgument → Option ℤ
  | text value => lib.intLiteral value
  | number value => some value

/-- `_u32` (:176-183). -/
def u32 (lib : PythonLibrary) (value : IntArgument) (name : String) (nonzero : Bool) : Except String U32 := do
  let number ← orRaise (name ++ " is not an integer") (value.int lib)
  require (decide ((if nonzero then 1 else 0) ≤ number) && decide (number ≤ 0xFFFFFFFF)) (name ++ " is outside uint32 bounds")
  .ok (BitVec.ofInt 32 number)

/-- A partition of a flash layout. -/
structure PartitionEntry where
  name : String
  base : String
  size : String
  role : Option String
deriving DecidableEq, Repr

/-- A flash layout file. -/
structure LayoutFile where
  eraseBytes : Option IntArgument
  partitions : List PartitionEntry
deriving DecidableEq, Repr

/-- What `_layout` returns. -/
structure SlotLayout where
  manifestBase : ℤ
  imageBase : ℤ
  capacity : ℤ
deriving DecidableEq, Repr

/-- `SECTOR_BYTES`. -/
def sectorBytes : ℕ := 4096
/-- `MANIFEST_BYTES`. -/
def manifestBytes : ℕ := 144
/-- `SIGNED_BYTES`. -/
def signedBytes : ℕ := 80

/-- `int(text, 0)` of a layout. -/
def layoutInt (lib : PythonLibrary) (text : String) : Except String ℤ :=
  orRaise "invalid literal for int() with base 0" (lib.intLiteral text)

/-- `parts[name]`, where the last partition of a name counts (:191). -/
def LayoutFile.part (file : LayoutFile) (name : String) : Option PartitionEntry :=
  file.partitions.reverse.find? fun entry => entry.name = name

/-- `_layout` (:186-203). -/
def slotLayout (lib : PythonLibrary) (file : LayoutFile) (slot : SlotName) : Except String SlotLayout := do
  let erase ← orRaise "invalid literal for int() with base 0" ((file.eraseBytes.getD (.text "0")).int lib)
  require (erase = sectorBytes) "layout erase size must be 4096 bytes"
  let missing := "layout has no complete slot " ++ slot.upper
  let manifest ← orRaise missing (file.part ("slot_" ++ slot.lower ++ "_manifest"))
  let image ← orRaise missing (file.part ("slot_" ++ slot.lower ++ "_image"))
  let mb ← layoutInt lib manifest.base
  let ms ← layoutInt lib manifest.size
  let ib ← layoutInt lib image.base
  let capacity ← layoutInt lib image.size
  require (ms = sectorBytes && ib = mb + sectorBytes && manifest.role = some "signed_manifest_commit" &&
    image.role = some "candidate_image") "layout violates manifest-sector/image adjacency contract"
  .ok ⟨mb, ib, capacity⟩

/-- `any(bytes)`. -/
def anyNonzero (bytes : List U8) : Bool := bytes.any (· ≠ 0)

/-- `_release_id` (:206-216). -/
def releaseId (lib : PythonLibrary) (text : String) : Except String (List U8) := do
  let raw ← orRaise "release ID must be a UUID or 32 hex digits" ((lib.uuidBytes text).or (lib.fromHex text))
  require (raw.length = 16 && anyNonzero raw) "release ID must be a nonzero 16-byte value"
  .ok raw

/-! ## Packages -/

/-- `MAGIC`. -/
def magic : List U8 := [0x4f, 0x52, 0x55, 0x50]
/-- `FORMAT_VERSION`. -/
def formatVersion : U8 := 1
/-- `TARGET_AUDIO`. -/
def targetAudio : U8 := 2

/-- The arguments of `pack`, without the paths it writes to. -/
structure PackArguments where
  layout : LayoutFile
  slot : SlotName
  image : List U8
  privateKey : String
  hardwareId : IntArgument
  imageVersion : IntArgument
  minimumBootloaderVersion : IntArgument
  maximumBootloaderVersion : Option IntArgument
  antirollbackFloor : IntArgument
  confirmedImageVersion : IntArgument
  releaseId : String

/-- The metadata file, without its fixed texts; numbers and bytes are not formatted. -/
structure PackageMetadata where
  slot : String
  region : SlotLayout
  imageSize : ℕ
  hardwareId : U32
  imageVersion : U32
  minimumBootloaderVersion : U32
  antirollbackFloor : U32
  confirmedImageVersion : U32
  releaseId : List U8
  keyId : List U8
  imageSha256 : Bytes 32
  manifestSha256 : Bytes 32
  packageSha256 : Bytes 32
  packageBytes : ℕ

/-- The 80 bytes that are signed (:240-242). -/
def signedPart (hardware version minimum imageSize : U32) (digest release keyId : List U8) : List U8 :=
  magic ++ [formatVersion, targetAudio, 0, 0] ++ (LittleEndian.write 4 hardware ++ LittleEndian.write 4 version ++
    LittleEndian.write 4 minimum ++ LittleEndian.write 4 imageSize) ++ digest ++ release ++ keyId

/-- `--maximum-bootloader-version` (:231-233). -/
def checkMaximum (lib : PythonLibrary) (minimum : U32) : Option IntArgument → Except String Unit
  | none => .ok ()
  | some maximum => do
    require (minimum ≤ (← u32 lib maximum "maximum bootloader version" true))
      "minimum bootloader version exceeds declared maximum"

/-- A manifest, the rest of its sector, and the image (:245-247). -/
def sealPackage (manifest image : List U8) : List U8 :=
  manifest ++ List.replicate (sectorBytes - manifest.length) 0xff ++ image

/-- `create_package` (:219-267): the package and its metadata. -/
def createPackage (lib : PythonLibrary) (turns : ℕ) (args : PackArguments) : Except String (List U8 × PackageMetadata) := do
  let region ← slotLayout lib args.layout args.slot
  let image := args.image
  require (image ≠ [] && (image.length : ℤ) ≤ region.capacity)
    ("image size must be 1.." ++ toString region.capacity ++ " bytes")
  let hardware ← u32 lib args.hardwareId "hardware ID" true
  let version ← u32 lib args.imageVersion "image version" true
  let minimum ← u32 lib args.minimumBootloaderVersion "minimum bootloader version" true
  let floor ← u32 lib args.antirollbackFloor "antirollback floor" false
  let confirmed ← u32 lib args.confirmedImageVersion "confirmed image version" false
  require (floor ≤ version && confirmed < version) "image version violates rollback/confirmed-version policy"
  checkMaximum lib minimum args.maximumBootloaderVersion
  let (d, key) ← parsePrivatePem lib args.privateKey
  let keyId := (lib.sha256 key).bytes.take 8
  let digest := lib.sha256 image
  require (anyNonzero keyId && anyNonzero digest.bytes) "derived key ID or image digest is forbidden all-zero value"
  require (image.length < 2 ^ 32) "'I' format requires 0 <= number <= 4294967295"
  let release ← releaseId lib args.releaseId
  let signed := signedPart hardware version minimum (BitVec.ofNat 32 image.length) digest.bytes release keyId
  require (signed.length = signedBytes) "manifest contract drift"
  let signature ← orRaise "invalid ECDSA result" (P256.sign lib.toDigests turns d signed)
  let manifest := signed ++ signature
  let package := sealPackage manifest image
  .ok (package, {
    slot := args.slot.upper
    region := region
    imageSize := image.length
    hardwareId := hardware
    imageVersion := version
    minimumBootloaderVersion := minimum
    antirollbackFloor := floor
    confirmedImageVersion := confirmed
    releaseId := (signed.drop 56).take 16
    keyId := keyId
    imageSha256 := digest
    manifestSha256 := lib.sha256 manifest
    packageSha256 := lib.sha256 package
    packageBytes := package.length })

/-- The arguments of `verify`. -/
structure VerifyArguments where
  layout : LayoutFile
  slot : SlotName
  package : List U8
  publicKey : String
  hardwareId : IntArgument
  bootloaderVersion : IntArgument
  antirollbackFloor : IntArgument
  confirmedImageVersion : IntArgument

/-- What `verify_package` returns of a package it accepts; numbers and bytes are not formatted. -/
structure VerifyReport where
  slot : String
  hardwareId : U32
  imageVersion : U32
  imageSize : U32
  imageSha256 : List U8
  keyId : List U8
  packageSha256 : Bytes 32

/-- One of the four words that `struct.unpack_from("<IIII", manifest, 8)` reads. -/
def manifestWord (manifest : List U8) (index : ℕ) : U32 := LittleEndian.read 32 ((manifest.drop index).take 4)

/-- `verify_package` (:270-308). -/
def verifyPackage (lib : PythonLibrary) (args : VerifyArguments) : Except String VerifyReport := do
  let region ← slotLayout lib args.layout args.slot
  let package := args.package
  require (sectorBytes < package.length && (package.length : ℤ) ≤ sectorBytes + region.capacity)
    "package length is outside the selected slot"
  let manifest := package.take manifestBytes
  let padding := (package.take sectorBytes).drop manifestBytes
  let image := package.drop sectorBytes
  require (padding.all (· = 0xff)) "manifest-sector padding is not erased 0xff"
  require (manifest.take 4 = magic && manifest.getD 4 0 = formatVersion && manifest.getD 5 0 = targetAudio &&
    (manifest.drop 6).take 2 = [0, 0]) "invalid manifest header"
  let hardware := manifestWord manifest 8
  let version := manifestWord manifest 12
  let minimum := manifestWord manifest 16
  let imageSize := manifestWord manifest 20
  require (imageSize.toNat = image.length) "manifest image size does not equal package image size"
  let expectedHardware ← u32 lib args.hardwareId "hardware ID" true
  let bootloader ← u32 lib args.bootloaderVersion "bootloader version" true
  let floor ← u32 lib args.antirollbackFloor "antirollback floor" false
  let confirmed ← u32 lib args.confirmedImageVersion "confirmed image version" false
  require (hardware = expectedHardware) "hardware ID mismatch"
  require (minimum ≤ bootloader) "bootloader version is below manifest minimum"
  require (floor ≤ version && confirmed < version) "image version violates rollback/confirmed-version policy"
  let (_, key) ← parsePem lib args.publicKey
  require ((manifest.drop 72).take 8 = (lib.sha256 key).bytes.take 8) "manifest key ID does not match public key"
  require (anyNonzero ((manifest.drop 24).take 32) && anyNonzero ((manifest.drop 72).take 8))
    "manifest digest or key ID is zero"
  require (anyNonzero ((manifest.drop 56).take 16)) "release ID is zero"
  require ((lib.sha256 image).bytes = (manifest.drop 24).take 32) "image digest mismatch"
  let valid ← orRaise "base is not invertible for the given modulus"
    (P256.verify lib.sha256 key (manifest.take signedBytes) (manifest.drop signedBytes))
  require valid "signature verification failed"
  .ok {
    slot := args.slot.upper
    hardwareId := hardware
    imageVersion := version
    imageSize := imageSize
    imageSha256 := (manifest.drop 24).take 32
    keyId := (manifest.drop 72).take 8
    packageSha256 := lib.sha256 package }

/-! ## What is asked -/

/-- The values that `create_package` reads. -/
structure PackReads (lib : PythonLibrary) (args : PackArguments) (region : SlotLayout)
    (hardware version minimum floor confirmed : U32) (d : ℕ) (key release : List U8) : Prop where
  layout : slotLayout lib args.layout args.slot = .ok region
  hardware : u32 lib args.hardwareId "hardware ID" true = .ok hardware
  version : u32 lib args.imageVersion "image version" true = .ok version
  minimum : u32 lib args.minimumBootloaderVersion "minimum bootloader version" true = .ok minimum
  floor : u32 lib args.antirollbackFloor "antirollback floor" false = .ok floor
  confirmed : u32 lib args.confirmedImageVersion "confirmed image version" false = .ok confirmed
  key : parsePrivatePem lib args.privateKey = .ok (d, key)
  release : releaseId lib args.releaseId = .ok release

/-- What `create_package` asks of them, and the signature it makes. -/
structure PackChecks (lib : PythonLibrary) (turns : ℕ) (capacity : ℤ) (hardware version minimum floor confirmed : U32) (d : ℕ)
    (key release image signature : List U8) : Prop where
  nonempty : image ≠ []
  fits : (image.length : ℤ) ≤ capacity
  floor : floor ≤ version
  confirmed : confirmed < version
  keyId_nonzero : anyNonzero ((lib.sha256 key).bytes.take 8) = true
  digest_nonzero : anyNonzero (lib.sha256 image).bytes = true
  size : image.length < 2 ^ 32
  signature : P256.sign lib.toDigests turns d (signedPart hardware version minimum (BitVec.ofNat 32 image.length)
    (lib.sha256 image).bytes release ((lib.sha256 key).bytes.take 8)) = some signature

/-- **A package that is made.** -/
theorem createPackage_ok {lib : PythonLibrary} {turns : ℕ} {args : PackArguments} {package : List U8}
    {metadata : PackageMetadata} (h : createPackage lib turns args = .ok (package, metadata)) :
    ∃ region hardware floor confirmed d key release signature,
      PackReads lib args region hardware metadata.imageVersion metadata.minimumBootloaderVersion floor confirmed d key release ∧
        PackChecks lib turns region.capacity hardware metadata.imageVersion metadata.minimumBootloaderVersion floor confirmed d
          key release args.image signature ∧
        package = sealPackage (signedPart hardware metadata.imageVersion metadata.minimumBootloaderVersion
          (BitVec.ofNat 32 args.image.length) (lib.sha256 args.image).bytes release ((lib.sha256 key).bytes.take 8) ++
            signature) args.image := by
  unfold createPackage at h
  simp only [bind_eq_ok, require_eq_ok, orRaise_eq_ok, Bool.and_eq_true, decide_eq_true_eq, exists_const] at h
  obtain ⟨region, hregion, ⟨hnonempty, hfits⟩, hardware, hhardware, version, hversion, minimum, hminimum, floor, hfloor,
    confirmed, hconfirmed, ⟨hrollback, hnewer⟩, _, -, ⟨d, key⟩, hkey, ⟨hkeyId, hdigest⟩, hsize, release, hrelease, -, signature,
    hsignature, hok⟩ := h
  obtain ⟨rfl, rfl⟩ := Prod.mk.inj (Except.ok.inj hok)
  exact ⟨region, hardware, floor, confirmed, d, key, release, signature,
    ⟨hregion, hhardware, hversion, hminimum, hfloor, hconfirmed, hkey, hrelease⟩,
    ⟨hnonempty, hfits, hrollback, hnewer, hkeyId, hdigest, hsize, hsignature⟩, rfl⟩

/-- Every pack that checks out is made. -/
theorem exists_createPackage {lib : PythonLibrary} {turns : ℕ} {args : PackArguments} {region : SlotLayout}
    {hardware version minimum floor confirmed : U32} {d : ℕ} {key release signature : List U8}
    (h : PackReads lib args region hardware version minimum floor confirmed d key release)
    (hmaximum : checkMaximum lib minimum args.maximumBootloaderVersion = .ok ())
    (hc : PackChecks lib turns region.capacity hardware version minimum floor confirmed d key release args.image signature)
    (hlength : (signedPart hardware version minimum (BitVec.ofNat 32 args.image.length) (lib.sha256 args.image).bytes release
      ((lib.sha256 key).bytes.take 8)).length = signedBytes) : ∃ made, createPackage lib turns args = .ok made := by
  unfold createPackage
  simp only [bind_eq_ok, require_eq_ok, orRaise_eq_ok, Bool.and_eq_true, decide_eq_true_eq, exists_const]
  exact ⟨_, region, h.layout, ⟨hc.nonempty, hc.fits⟩, hardware, h.hardware, version, h.version, minimum, h.minimum, floor,
    h.floor, confirmed, h.confirmed, ⟨hc.floor, hc.confirmed⟩, (), hmaximum, (d, key), h.key,
    ⟨hc.keyId_nonzero, hc.digest_nonzero⟩, hc.size, release, h.release, hlength, signature, hc.signature, rfl⟩

/-- The values that `verify_package` reads. -/
structure VerifyReads (lib : PythonLibrary) (args : VerifyArguments) (region : SlotLayout)
    (hardware bootloader floor confirmed : U32) (key : List U8) : Prop where
  layout : slotLayout lib args.layout args.slot = .ok region
  hardware : u32 lib args.hardwareId "hardware ID" true = .ok hardware
  bootloader : u32 lib args.bootloaderVersion "bootloader version" true = .ok bootloader
  floor : u32 lib args.antirollbackFloor "antirollback floor" false = .ok floor
  confirmed : u32 lib args.confirmedImageVersion "confirmed image version" false = .ok confirmed
  key : ∃ der, parsePem lib args.publicKey = .ok (der, key)

/-- What `verify_package` asks of a package. -/
structure PackageChecks (sha256 : List U8 → Bytes 32) (capacity : ℤ) (hardware bootloader floor confirmed : U32)
    (key package : List U8) : Prop where
  length : sectorBytes < package.length
  fits : (package.length : ℤ) ≤ sectorBytes + capacity
  padding : ((package.take sectorBytes).drop manifestBytes).all (· = 0xff) = true
  magic : (package.take manifestBytes).take 4 = magic
  format : (package.take manifestBytes).getD 4 0 = formatVersion
  target : (package.take manifestBytes).getD 5 0 = targetAudio
  reserved : ((package.take manifestBytes).drop 6).take 2 = [0, 0]
  size : (manifestWord (package.take manifestBytes) 20).toNat = (package.drop sectorBytes).length
  hardware : manifestWord (package.take manifestBytes) 8 = hardware
  bootloader : manifestWord (package.take manifestBytes) 16 ≤ bootloader
  floor : floor ≤ manifestWord (package.take manifestBytes) 12
  confirmed : confirmed < manifestWord (package.take manifestBytes) 12
  keyId : ((package.take manifestBytes).drop 72).take 8 = (sha256 key).bytes.take 8
  digest_nonzero : anyNonzero (((package.take manifestBytes).drop 24).take 32) = true
  keyId_nonzero : anyNonzero (((package.take manifestBytes).drop 72).take 8) = true
  release_nonzero : anyNonzero (((package.take manifestBytes).drop 56).take 16) = true
  digest : (sha256 (package.drop sectorBytes)).bytes = ((package.take manifestBytes).drop 24).take 32
  signature : P256.verify sha256 key ((package.take manifestBytes).take signedBytes)
    ((package.take manifestBytes).drop signedBytes) = some true

/-- **A package that is accepted**, with the report on it. -/
theorem verifyPackage_ok {lib : PythonLibrary} {args : VerifyArguments} {report : VerifyReport} :
    verifyPackage lib args = .ok report ↔
      report = {
        slot := args.slot.upper
        hardwareId := manifestWord (args.package.take manifestBytes) 8
        imageVersion := manifestWord (args.package.take manifestBytes) 12
        imageSize := manifestWord (args.package.take manifestBytes) 20
        imageSha256 := ((args.package.take manifestBytes).drop 24).take 32
        keyId := ((args.package.take manifestBytes).drop 72).take 8
        packageSha256 := lib.sha256 args.package } ∧
      ∃ region hardware bootloader floor confirmed key,
        VerifyReads lib args region hardware bootloader floor confirmed key ∧
          PackageChecks lib.sha256 region.capacity hardware bootloader floor confirmed key args.package := by
  unfold verifyPackage
  simp only [bind_eq_ok, require_eq_ok, orRaise_eq_ok, Bool.and_eq_true, decide_eq_true_eq, exists_const, Except.ok.injEq]
  constructor
  · rintro ⟨region, hregion, ⟨hlength, hfits⟩, hpadding, ⟨⟨⟨hmagic, hformat⟩, htarget⟩, hreserved⟩, hsize, hardware, hhardware,
      bootloader, hbootloader, floor, hfloor, confirmed, hconfirmed, hsame, hminimum, ⟨hrollback, hnewer⟩, ⟨der, key⟩, hkey,
      hkeyId, ⟨hdigest0, hkeyId0⟩, hrelease, hdigest, valid, hsignature, rfl, rfl⟩
    exact ⟨rfl, region, hardware, bootloader, floor, confirmed, key,
      ⟨hregion, hhardware, hbootloader, hfloor, hconfirmed, der, hkey⟩,
      ⟨hlength, hfits, hpadding, hmagic, hformat, htarget, hreserved, hsize, hsame, hminimum, hrollback, hnewer, hkeyId,
        hdigest0, hkeyId0, hrelease, hdigest, hsignature⟩⟩
  · rintro ⟨rfl, region, hardware, bootloader, floor, confirmed, key, h, hc⟩
    obtain ⟨der, hkey⟩ := h.key
    exact ⟨region, h.layout, ⟨hc.length, hc.fits⟩, hc.padding, ⟨⟨⟨hc.magic, hc.format⟩, hc.target⟩, hc.reserved⟩, hc.size,
      hardware, h.hardware, bootloader, h.bootloader, floor, h.floor, confirmed, h.confirmed, hc.hardware, hc.bootloader,
      ⟨hc.floor, hc.confirmed⟩, (der, key), hkey, hc.keyId, ⟨hc.digest_nonzero, hc.keyId_nonzero⟩, hc.release_nonzero,
      hc.digest, true, hc.signature, rfl, rfl⟩

end OpenRef.Tools
