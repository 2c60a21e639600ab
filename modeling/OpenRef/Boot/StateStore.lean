import OpenRef.Boot.ConfigStore
import OpenRef.Boot.Policy
/-!
# The durable boot state (openref_boot_state_store.c, openref_rt595_boot_state.c)

Both processors keep the boot state in a dual-slot record store, twelve payload
bytes long. The portable store refuses a record that is not a valid state and
then forgets that anything was loaded; the RT595 store keeps the state in RAM
next to its records and undoes the RAM copy when a save fails.
-/

namespace OpenRef.Boot

/-- `OPENREF_BOOT_STATE_STORE_SCHEMA_VERSION` and `_PAYLOAD_BYTES`, the RT595 ones likewise. -/
def bootStateSchema : Schema := ⟨1, 12, by decide, by decide, by decide⟩

/-- `encode` (openref_boot_state_store.c:20-29, openref_rt595_boot_state.c:7). -/
def encodeState (s : BootState) : Payload where
  bytes := LittleEndian.write 4 s.recordVersion ++ LittleEndian.write 4 s.minimumVersion ++
    [s.confirmedSlot, s.pendingSlot, s.pendingAttempts] ++ List.replicate 53 0
  length_eq := by simp [configMaxPayloadBytes]

/-- The fields of a payload (openref_boot_state_store.c:37-43, openref_rt595_boot_state.c:8). -/
def decodeFields (payload : List U8) : BootState where
  recordVersion := LittleEndian.read 32 (payload.take 4)
  minimumVersion := LittleEndian.read 32 ((payload.drop 4).take 4)
  confirmedSlot := payload.getD 8 0
  pendingSlot := payload.getD 9 0
  pendingAttempts := payload.getD 10 0

theorem decodeFields_encodeState (s : BootState) :
    decodeFields ((encodeState s).bytes.take bootStateSchema.payloadLength.toNat) = s := by
  have read32 (v : U32) : LittleEndian.read 32 (LittleEndian.write 4 v) = v := LittleEndian.read_write 4 v
  have hb : (encodeState s).bytes.take bootStateSchema.payloadLength.toNat =
      LittleEndian.write 4 s.recordVersion ++ (LittleEndian.write 4 s.minimumVersion ++
        [s.confirmedSlot, s.pendingSlot, s.pendingAttempts, 0]) := by
    rw [show (encodeState s).bytes = (LittleEndian.write 4 s.recordVersion ++
      (LittleEndian.write 4 s.minimumVersion ++ [s.confirmedSlot, s.pendingSlot, s.pendingAttempts, 0])) ++
        List.replicate 52 0 by simp [encodeState]]
    exact List.take_left' (by simp [bootStateSchema])
  have h1 (v : U32) (l : List U8) : (LittleEndian.write 4 v ++ l).take 4 = LittleEndian.write 4 v :=
    List.take_left' (by simp)
  have h2 (v : U32) (l : List U8) : (LittleEndian.write 4 v ++ l).drop 4 = l := List.drop_left' (by simp)
  rw [hb]
  simp [decodeFields, h1, h2, read32, List.getD_eq_getElem?_getD]

variable {κ : Type}

/-! ## The portable store -/

/-- `openref_boot_state_store_t`; `initialized` is set by `init` and never cleared. -/
structure BootStateStore where
  records : ConfigStore
  semanticFailures : U32
deriving DecidableEq

namespace BootStateStore

/-- `decode` (:31-52). -/
def decode (payload : List U8) : Option BootState :=
  if payload.getD 11 0 ≠ 0 then none
  else
    let decoded := decodeFields payload
    if !stateValid decoded || (decoded.pendingSlot = noSlot && decoded.pendingAttempts ≠ 0) ||
        decoded.pendingSlot = decoded.confirmedSlot then none
    else some decoded

/-- `openref_boot_state_store_init` (:54-69). -/
def init : BootStateStore := ⟨ConfigStore.init bootStateSchema, 0⟩

/-- `openref_boot_state_store_load` (:71-86). -/
def load (be : ConfigBackend κ) (k : κ) (b : BootStateStore) : κ × BootStateStore × Option BootState :=
  let r := b.records.load be k
  match r.2.2.bind decode with
  | none =>
    (r.1, ⟨{ r.2.1 with loaded := false }, b.semanticFailures + 1⟩, none)
  | some state => (r.1, { b with records := r.2.1 }, some state)

/-- `openref_boot_state_store_factory_initialize` (:88-101). -/
def factoryInitialize (be : ConfigBackend κ) (k : κ) (b : BootStateStore) (initial : BootState) :
    κ × BootStateStore × Bool :=
  if b.records.loaded || !stateValid initial || initial.pendingSlot ≠ noSlot ||
      initial.pendingAttempts ≠ 0 then (k, b, false)
  else
    let r := b.records.save be k (encodeState initial)
    (r.1, { b with records := r.2.1 }, r.2.2)

/-- `openref_boot_state_store_save` (:103-120). -/
def save (be : ConfigBackend κ) (k : κ) (b : BootStateStore) (state : BootState) :
    κ × BootStateStore × Bool :=
  if !b.records.loaded || !stateValid state || (state.pendingSlot = noSlot && state.pendingAttempts ≠ 0) ||
      state.pendingSlot = state.confirmedSlot then
    (k, { b with semanticFailures := b.semanticFailures + 1 }, false)
  else
    let r := b.records.save be k (encodeState state)
    (r.1, { b with records := r.2.1 }, r.2.2)

end BootStateStore

/-! ## The RT595 store -/

/-- `openref_rt595_boot_state_store_t`. -/
structure Rt595BootState where
  store : ConfigStore
  state : BootState
  loaded : Bool
deriving DecidableEq

namespace Rt595BootState

/-- The state `memset` leaves. -/
def zeroState : BootState := ⟨0, 0, 0, 0, 0⟩

/-- `save` (:9). -/
def save (be : ConfigBackend κ) (k : κ) (b : Rt595BootState) : κ × Rt595BootState × Bool :=
  let r := b.store.save be k (encodeState b.state)
  (r.1, { b with store := r.2.1 }, r.2.2)

/-- `openref_rt595_boot_state_init` (:11). -/
def init : Rt595BootState := ⟨ConfigStore.init bootStateSchema, zeroState, false⟩

/-- `openref_rt595_boot_state_load` (:12). -/
def load (be : ConfigBackend κ) (k : κ) (b : Rt595BootState) : κ × Rt595BootState × Bool :=
  let r := b.store.load be k
  match r.2.2 with
  | none => (r.1, { b with store := r.2.1 }, false)
  | some payload =>
    let state := decodeFields payload
    (r.1, ⟨r.2.1, state, stateValid state⟩, stateValid state)

/-- `openref_rt595_boot_state_initialize` (:13). -/
def initializeRecord (be : ConfigBackend κ) (k : κ) (b : Rt595BootState) (confirmed : U8) (minimum : U32) :
    κ × Rt595BootState × Bool :=
  if b.loaded || !slotIdValid confirmed then (k, b, false)
  else
    let r := save be k { b with state := ⟨1, minimum, confirmed, noSlot, 0⟩ }
    if !r.2.2 then (r.1, { r.2.1 with state := zeroState }, false)
    else (r.1, { r.2.1 with loaded := true }, true)

/-- The common tail of `stage` and `confirm`: save the new state, or put the old one back. -/
def commit (be : ConfigBackend κ) (k : κ) (b : Rt595BootState) (next : Option BootState) :
    κ × Rt595BootState × Bool :=
  match next with
  | none => (k, b, false)
  | some state =>
    let r := save be k { b with state := state }
    if !r.2.2 then (r.1, { r.2.1 with state := b.state }, false) else r

/-- `openref_rt595_boot_state_stage` (:14). -/
def stage (be : ConfigBackend κ) (k : κ) (b : Rt595BootState) (candidate : U8) (slots : BootSlots) :
    κ × Rt595BootState × Bool :=
  if !b.loaded then (k, b, false) else commit be k b (Boot.stage b.state candidate slots)

/-- `openref_rt595_boot_state_select` (:15). -/
def select (be : ConfigBackend κ) (k : κ) (b : Rt595BootState) (slots : BootSlots) (maximum : U8) :
    κ × Rt595BootState × BootDecision :=
  if !b.loaded then (k, b, ⟨noSlot, .none, false⟩)
  else
    let d := Boot.select b.state slots maximum
    if !d.2.stateChanged then (k, { b with state := d.1 }, d.2)
    else
      let r := save be k { b with state := d.1 }
      if !r.2.2 then (r.1, { r.2.1 with state := b.state }, ⟨noSlot, .none, false⟩)
      else (r.1, r.2.1, d.2)

/-- `openref_rt595_boot_state_confirm` (:16). -/
def confirm (be : ConfigBackend κ) (k : κ) (b : Rt595BootState) (running : U8) (slots : BootSlots) :
    κ × Rt595BootState × Bool :=
  if !b.loaded then (k, b, false) else commit be k b (Boot.confirm b.state running slots)

end Rt595BootState

end OpenRef.Boot
