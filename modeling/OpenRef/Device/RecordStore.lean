import OpenRef.Boot.CutSave
import OpenRef.Device.Lifecycle
import Mathlib.Data.List.TakeDrop
/-!
# The device record on flash (openref_device_record_store.c)

The record of the lifecycle is 36 bytes in a dual-slot record store. The lifecycle stores it through
`openref_device_record_store_callback`; what comes up after a reset is what `load` finds.
Which records are valid is asked of `openref_device_record_valid`, which no file defines: it is a parameter here.

`decodeDeviceRecord_encodeDeviceRecord`: a record that is stored is the record that is loaded.
-/

namespace OpenRef.Device

open Boot

/-- The code of a state in `openref_device_state_t`. -/
def DeviceState.code : DeviceState → U8
  | .blank => 0
  | .factoryTest => 1
  | .identityInstalled => 2
  | .productionLocked => 3
  | .quarantined => 4
  | .retired => 5

/-- The states in the order of the enumeration. -/
def DeviceState.inOrder : List DeviceState :=
  [.blank, .factoryTest, .identityInstalled, .productionLocked, .quarantined, .retired]

/-- The state with a code; codes above `OPENREF_DEVICE_RETIRED` have none. -/
def DeviceState.ofCode (code : U8) : Option DeviceState := inOrder[code.toNat]?

theorem DeviceState.ofCode_code (s : DeviceState) : ofCode s.code = some s := by
  cases s <;> rfl

theorem DeviceState.ofCode_some {code : U8} {s : DeviceState} (h : ofCode code = some s) : code = s.code := by
  have hall : ∀ i : Fin 6, inOrder[i.val]?.map DeviceState.code = some (BitVec.ofNat 8 i.val) := by decide
  obtain ⟨hlt, -⟩ := List.getElem?_eq_some_iff.1 h
  have hcode := hall ⟨code.toNat, hlt⟩
  rw [show inOrder[code.toNat]? = some s from h, Option.map_some] at hcode
  rw [Option.some.inj hcode, BitVec.ofNat_toNat, BitVec.setWidth_eq]

/-- An `openref_device_record_t` as it is stored: any byte is a state. -/
structure StoredRecord where
  state : U8
  deviceId : Bytes 16
  identityFingerprint : Bytes 8
  generation : U32
  failureCode : U32
deriving DecidableEq, Repr

def DeviceRecord.stored (r : DeviceRecord) : StoredRecord :=
  ⟨r.state.code, r.deviceId, r.identityFingerprint, r.generation, r.failureCode⟩

/-- The record that `openref_device_lifecycle_init` takes (device_lifecycle:48-52). -/
def StoredRecord.record (r : StoredRecord) : Option DeviceRecord :=
  (DeviceState.ofCode r.state).map fun state =>
    ⟨state, r.deviceId, r.identityFingerprint, r.generation, r.failureCode⟩

@[simp] theorem DeviceRecord.record_stored (r : DeviceRecord) : r.stored.record = some r := by
  unfold StoredRecord.record DeviceRecord.stored
  dsimp only
  rw [DeviceState.ofCode_code, Option.map_some]

theorem StoredRecord.record_some {s : StoredRecord} {r : DeviceRecord} (h : s.record = some r) : s = r.stored := by
  obtain ⟨state, hstate, rfl⟩ := Option.map_eq_some_iff.1 h
  unfold DeviceRecord.stored
  rw [← DeviceState.ofCode_some hstate]

/-! ## The codec -/

/-- `OPENREF_DEVICE_RECORD_STORE_SCHEMA_VERSION` and `_PAYLOAD_BYTES`. -/
def deviceRecordSchema : Schema := ⟨1, 36, bootStateSchema.version_ne, by decide, by decide⟩

/-- `encode` (:20-30). -/
def encodeDeviceRecord (r : StoredRecord) : Payload where
  bytes := [r.state, 0, 0, 0] ++ (r.deviceId.bytes ++ (r.identityFingerprint.bytes ++
    (LittleEndian.write 4 r.generation ++ (LittleEndian.write 4 r.failureCode ++ List.replicate 28 0))))
  length_eq := by simp [r.deviceId.length_eq, r.identityFingerprint.length_eq, configMaxPayloadBytes]

/-- `memcpy` of a field; a payload as long as the schema says has all its bytes. -/
def fieldBytes (payload : List U8) (offset n : Nat) : Bytes n :=
  ⟨(payload.drop offset).takeD n 0, List.takeD_length _ _ _⟩

/-- `decode` (:32-51). -/
def decodeDeviceRecord (valid : StoredRecord → Bool) (payload : List U8) : Option StoredRecord :=
  if payload.getD 1 0 ≠ 0 || payload.getD 2 0 ≠ 0 || payload.getD 3 0 ≠ 0 then none
  else
    let decoded : StoredRecord :=
      { state := payload.getD 0 0
        deviceId := fieldBytes payload 4 16
        identityFingerprint := fieldBytes payload 20 8
        generation := LittleEndian.read 32 (fieldBytes payload 28 4).bytes
        failureCode := LittleEndian.read 32 (fieldBytes payload 32 4).bytes }
    if !valid decoded then none else some decoded

theorem fieldBytes_eq {payload a c : List U8} {offset n : Nat} {b : Bytes n} (h : payload = a ++ (b.bytes ++ c))
    (ha : a.length = offset) : fieldBytes payload offset n = b := by
  refine Bytes.ext_bytes ?_
  unfold fieldBytes
  dsimp only
  rw [h, List.drop_left' ha, List.takeD_left' b.length_eq]

/-- The payload bytes that are stored. -/
theorem live_encodeDeviceRecord (r : StoredRecord) : (encodeDeviceRecord r).live deviceRecordSchema =
    [r.state, 0, 0, 0] ++ (r.deviceId.bytes ++ (r.identityFingerprint.bytes ++
      (LittleEndian.write 4 r.generation ++ (LittleEndian.write 4 r.failureCode ++ [])))) := by
  have hbytes : (encodeDeviceRecord r).bytes = ([r.state, 0, 0, 0] ++ (r.deviceId.bytes ++
      (r.identityFingerprint.bytes ++ (LittleEndian.write 4 r.generation ++
        (LittleEndian.write 4 r.failureCode ++ []))))) ++ List.replicate 28 0 := by
    simp [encodeDeviceRecord]
  unfold Payload.live
  rw [hbytes]
  refine List.take_left' ?_
  simp [r.deviceId.length_eq, r.identityFingerprint.length_eq, deviceRecordSchema]

/-- **A record that is stored is the record that is loaded**, if it is valid; an invalid one is not loaded. -/
theorem decodeDeviceRecord_encodeDeviceRecord (valid : StoredRecord → Bool) (r : StoredRecord) :
    decodeDeviceRecord valid ((encodeDeviceRecord r).live deviceRecordSchema) = if valid r then some r else none := by
  have hid := r.deviceId.length_eq
  have hprint := r.identityFingerprint.length_eq
  have hlive := live_encodeDeviceRecord r
  generalize (encodeDeviceRecord r).live deviceRecordSchema = payload at hlive ⊢
  have h0 : payload.getD 0 0 = r.state := by rw [hlive]; rfl
  have h1 : payload.getD 1 0 = 0 := by rw [hlive]; rfl
  have h2 : payload.getD 2 0 = 0 := by rw [hlive]; rfl
  have h3 : payload.getD 3 0 = 0 := by rw [hlive]; rfl
  have hdevice : fieldBytes payload 4 16 = r.deviceId := fieldBytes_eq hlive rfl
  have hfinger : fieldBytes payload 20 8 = r.identityFingerprint := by
    rw [← List.append_assoc] at hlive
    exact fieldBytes_eq hlive (by simp [hid])
  let generation : Bytes 4 := ⟨LittleEndian.write 4 r.generation, LittleEndian.length_write 4 _⟩
  have hgeneration : fieldBytes payload 28 4 = generation := by
    rw [← List.append_assoc, ← List.append_assoc] at hlive
    exact fieldBytes_eq (b := generation) hlive (by simp [hid, hprint])
  let failure : Bytes 4 := ⟨LittleEndian.write 4 r.failureCode, LittleEndian.length_write 4 _⟩
  have hfailure : fieldBytes payload 32 4 = failure := by
    rw [← List.append_assoc, ← List.append_assoc, ← List.append_assoc] at hlive
    exact fieldBytes_eq (b := failure) hlive (by simp [hid, hprint])
  have hread : LittleEndian.read 32 generation.bytes = r.generation := LittleEndian.read_write 4 r.generation
  have hread' : LittleEndian.read 32 failure.bytes = r.failureCode := LittleEndian.read_write 4 r.failureCode
  unfold decodeDeviceRecord
  rw [h0, h1, h2, h3, hdevice, hfinger, hgeneration, hfailure, hread, hread']
  cases hv : valid r <;> simp [hv]

/-! ## The store -/

/-- `openref_device_record_store_t`; `initialized` is set by `init` and never cleared. -/
structure DeviceRecordStore where
  records : ConfigStore
  semanticFailures : U32
deriving DecidableEq

namespace DeviceRecordStore

variable {κ : Type} (valid : StoredRecord → Bool)

/-- `openref_device_record_store_init` (:53-67). -/
def init : DeviceRecordStore := ⟨ConfigStore.init deviceRecordSchema, 0⟩

/-- `openref_device_record_store_load` (:69-84). -/
def load (be : ConfigBackend κ) (k : κ) (s : DeviceRecordStore) : κ × DeviceRecordStore × Option StoredRecord :=
  let r := s.records.load be k
  match r.2.2.bind (decodeDeviceRecord valid) with
  | none => (r.1, ⟨{ r.2.1 with loaded := false }, s.semanticFailures + 1⟩, none)
  | some record => (r.1, { s with records := r.2.1 }, some record)

/-- `openref_device_record_store_factory_initialize` (:86-97). -/
def factoryInitialize (be : ConfigBackend κ) (k : κ) (s : DeviceRecordStore) : κ × DeviceRecordStore × Bool :=
  if s.records.loaded then (k, s, false)
  else
    let r := s.records.save be k (encodeDeviceRecord DeviceRecord.zero.stored)
    (r.1, { s with records := r.2.1 }, r.2.2)

/-- `openref_device_record_store_save` (:99-111). -/
def save (be : ConfigBackend κ) (k : κ) (s : DeviceRecordStore) (record : DeviceRecord) :
    κ × DeviceRecordStore × Bool :=
  if !s.records.loaded || !valid record.stored then (k, { s with semanticFailures := s.semanticFailures + 1 }, false)
  else
    let r := s.records.save be k (encodeDeviceRecord record.stored)
    (r.1, { s with records := r.2.1 }, r.2.2)

end DeviceRecordStore

end OpenRef.Device
