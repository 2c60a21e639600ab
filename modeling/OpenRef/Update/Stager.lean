import OpenRef.Boot.Policy
import OpenRef.Lib.NorFlash
import OpenRef.Lib.Run
import OpenRef.Update.Approval
/-!
# The update stager (openref_update_stager.c)

An update is erased, written, read back and hashed into the slot that is not confirmed, and then made pending. The
calls on the storage are journaled beside the run.

`staged_is_bootable`: a finish that returns true has left the signed image in that slot, and no other slot is named.
`completed_final_iff`: after it a begin changes nothing, but a write or a second finish invalidates the slot that is
now pending.
-/

namespace OpenRef.Update

open OpenRef.Boot (BootSlot BootSlots BootState)

/-- `OPENREF_UPDATE_STAGER_MAX_CHUNK_BYTES`. -/
def stagerMaxChunkBytes : U32 := 256

/-- `openref_update_storage_backend_t` over a context `μ`: a read that fails gives nothing. -/
structure UpdateStorage (μ : Type) where
  erase : μ → U8 → U32 → μ × Bool
  write : μ → U8 → U32 → List U8 → μ × Bool
  read : μ → U8 → U32 → (n : Nat) → μ × Option (Bytes n)
  authenticate : μ → U8 → U32 → Bytes 32 → μ × Bool
  invalidate : μ → U8 → μ × Bool
  persistBootState : μ → BootState → μ × Bool

/-- `openref_update_stager_t` once initialized, without the callbacks. -/
structure UpdateStager where
  verifier : UpdateVerifier
  bootState : BootState
  slots : BootSlots
  candidateSlot : U8
  writtenBytes : U32
  failureCount : U32
  active : Bool
  complete : Bool
  failedLatched : Bool
deriving DecidableEq

namespace UpdateStager

variable {κ μ : Type}

/-- `fail`. -/
def fail (st : UpdateStorage μ) (m : μ) (s : UpdateStager) : μ × UpdateStager :=
  ((st.invalidate m s.candidateSlot).1, { s with
    failureCount := s.failureCount + 1
    active := false
    failedLatched := true })

/-- `openref_update_stager_init` with callbacks that are set. -/
def init (p : UpdatePlatform) (bootState : BootState) (slots : BootSlots) : Option UpdateStager :=
  if !Boot.stateValid bootState || !(slots.get bootState.confirmedSlot).present ||
      !(slots.get bootState.confirmedSlot).authenticated then none
  else (UpdateVerifier.init p).map fun v => ⟨v, bootState, slots, bootState.confirmedSlot ^^^ 1, 0, 0, false, false, false⟩

/-- What a call leaves and answers. -/
structure Staged (κ μ : Type) where
  crypto : κ
  storage : μ
  stager : UpdateStager
  answer : Bool

/-- `return fail(stager)`. -/
def failed (st : UpdateStorage μ) (k : κ) (m : μ) (s : UpdateStager) : Staged κ μ :=
  ⟨k, (s.fail st m).1, (s.fail st m).2, false⟩

/-- `openref_update_stager_begin`. -/
def begin (cr : UpdateCrypto κ) (st : UpdateStorage μ) (k : κ) (m : μ) (s : UpdateStager) (wire : ManifestWire) :
    Staged κ μ :=
  if s.active || s.complete || s.failedLatched then ⟨k, m, s, false⟩
  else
    let v := s.verifier.begin cr k wire
    let s := { s with verifier := v.2.1 }
    if !v.2.2 then ⟨v.1, m, s, false⟩
    else
      let e := st.erase m s.candidateSlot s.verifier.manifest.imageSize
      if !e.2 then s.failed st v.1 e.1
      else ⟨v.1, e.1, { s with writtenBytes := 0, active := true }, true⟩

/-- `openref_update_stager_write`; no data is data of no length. -/
def write (cr : UpdateCrypto κ) (st : UpdateStorage μ) (k : κ) (m : μ) (s : UpdateStager) (data : List U8) : Staged κ μ :=
  let length := BitVec.ofNat 32 data.length
  if !s.active || length = 0 || stagerMaxChunkBytes < length then s.failed st k m
  else
    let v := s.verifier.write cr k data
    let s := { s with verifier := v.2.1 }
    if !v.2.2 then s.failed st v.1 m
    else
      let w := st.write m s.candidateSlot s.writtenBytes data
      if !w.2 then s.failed st v.1 w.1
      else
        let r := st.read w.1 s.candidateSlot s.writtenBytes data.length
        match r.2 with
        | none => s.failed st v.1 r.1
        | some readback =>
          if difference data readback.bytes ≠ 0 then s.failed st v.1 r.1
          else ⟨v.1, r.1, { s with writtenBytes := s.writtenBytes + length }, true⟩

/-- `openref_update_stager_finish`. -/
def finish (cr : UpdateCrypto κ) (st : UpdateStorage μ) (k : κ) (m : μ) (s : UpdateStager) : Staged κ μ :=
  if !s.active then s.failed st k m
  else
    let v := s.verifier.finish cr k
    let s := { s with verifier := v.2.1 }
    if !v.2.2 then s.failed st v.1 m
    else
      let manifest := s.verifier.manifest
      let a := st.authenticate m s.candidateSlot manifest.imageVersion manifest.digest
      if !a.2 then s.failed st v.1 a.1
      else
        let stagedSlots := s.slots.put s.candidateSlot ⟨true, true, manifest.imageVersion⟩
        match Boot.stage s.bootState s.candidateSlot stagedSlots with
        | none => s.failed st v.1 a.1
        | some stagedState =>
          let p := st.persistBootState a.1 stagedState
          if !p.2 then s.failed st v.1 p.1
          else ⟨v.1, p.1, { s with
            bootState := stagedState
            slots := stagedSlots
            active := false
            complete := true }, true⟩

/-! ## What the calls do -/

/-- Everything `begin` can do. -/
inductive Begun (cr : UpdateCrypto κ) (st : UpdateStorage μ) (k : κ) (m : μ) (s : UpdateStager) (wire : ManifestWire) :
    Staged κ μ → Prop
  | closed : (s.active = true ∨ s.complete = true ∨ s.failedLatched = true) → Begun cr st k m s wire ⟨k, m, s, false⟩
  | refused (k' : κ) (v : UpdateVerifier) : v.platform = s.verifier.platform → s.active = false →
      Begun cr st k m s wire ⟨k', m, { s with verifier := v }, false⟩
  | failed (k' : κ) : Begun cr st k m s wire (failed st k' (st.erase m s.candidateSlot wire.manifest.imageSize).1
      { s with verifier := s.verifier.opened wire })
  | started : s.complete = false → wire.framed = true → s.verifier.platform.permits wire.manifest = true →
      (UpdateVerifier.signature cr k wire).2 = true → (cr.hashBegin (UpdateVerifier.signature cr k wire).1).2 = true →
      Begun cr st k m s wire ⟨(cr.hashBegin (UpdateVerifier.signature cr k wire).1).1,
        (st.erase m s.candidateSlot wire.manifest.imageSize).1,
        { s with verifier := s.verifier.opened wire, writtenBytes := 0, active := true }, true⟩

theorem begin_begun (cr : UpdateCrypto κ) (st : UpdateStorage μ) (k : κ) (m : μ) (s : UpdateStager) (wire : ManifestWire) :
    Begun cr st k m s wire (s.begin cr st k m wire) := by
  have hbegun := UpdateVerifier.begin_begun cr k s.verifier wire
  unfold begin
  dsimp only
  generalize s.verifier.begin cr k wire = v at hbegun ⊢
  split
  next hclosed =>
    rw [Bool.or_eq_true, Bool.or_eq_true, or_assoc] at hclosed
    exact .closed hclosed
  next hopen =>
    simp only [Bool.or_eq_true, not_or, Bool.not_eq_true] at hopen
    cases hbegun with
    | rejected k' => exact .refused k' _ s.verifier.forget_platform hopen.1.1
    | started _ hframed hpermits hsigned hstart =>
      have hmanifest : (s.verifier.opened wire).manifest = wire.manifest := rfl
      simp only [Bool.not_true, Bool.false_eq_true, if_false, hmanifest]
      cases he : (st.erase m s.candidateSlot wire.manifest.imageSize).2 with
      | false => exact .failed _
      | true => exact .started hopen.1.2 hframed hpermits hsigned hstart

/-- Everything `write` can do. -/
inductive Written (cr : UpdateCrypto κ) (st : UpdateStorage μ) (k : κ) (m : μ) (s : UpdateStager) (data : List U8) :
    Staged κ μ → Prop
  | failed (k' : κ) (m' : μ) (v : UpdateVerifier) : v.platform = s.verifier.platform →
      (m' = m ∨ m' = (st.write m s.candidateSlot s.writtenBytes data).1 ∨
        m' = (st.read (st.write m s.candidateSlot s.writtenBytes data).1 s.candidateSlot s.writtenBytes data.length).1) →
      Written cr st k m s data (failed st k' m' { s with verifier := v })
  | written (readback : Bytes data.length) : s.active = true → s.verifier.Takes data → (cr.hashUpdate k data).2 = true →
      (st.write m s.candidateSlot s.writtenBytes data).2 = true →
      (st.read (st.write m s.candidateSlot s.writtenBytes data).1 s.candidateSlot s.writtenBytes data.length).2 =
        some readback → difference data readback.bytes = 0 →
      Written cr st k m s data ⟨(cr.hashUpdate k data).1,
        (st.read (st.write m s.candidateSlot s.writtenBytes data).1 s.candidateSlot s.writtenBytes data.length).1,
        { s with
          verifier := { s.verifier with receivedBytes := s.verifier.receivedBytes + BitVec.ofNat 32 data.length }
          writtenBytes := s.writtenBytes + BitVec.ofNat 32 data.length }, true⟩

theorem write_written (cr : UpdateCrypto κ) (st : UpdateStorage μ) (k : κ) (m : μ) (s : UpdateStager) (data : List U8) :
    Written cr st k m s data (s.write cr st k m data) := by
  have hsame := UpdateVerifier.write_same cr k s.verifier data
  have hwritten := UpdateVerifier.write_written cr k s.verifier data
  unfold write
  dsimp only
  generalize s.verifier.write cr k data = v at hsame hwritten ⊢
  split
  · exact .failed k m s.verifier rfl (.inl rfl)
  next hgo =>
    simp only [Bool.or_eq_true, Bool.not_eq_true', not_or, Bool.not_eq_false] at hgo
    cases hwritten with
    | failed k' => exact .failed k' m _ hsame.platform (.inl rfl)
    | taken htakes hupdate =>
      cases hw : (st.write m s.candidateSlot s.writtenBytes data).2 with
      | false => exact .failed _ _ _ hsame.platform (.inr (.inl rfl))
      | true =>
        cases hr : (st.read (st.write m s.candidateSlot s.writtenBytes data).1 s.candidateSlot s.writtenBytes
            data.length).2 with
        | none => exact .failed _ _ _ hsame.platform (.inr (.inr rfl))
        | some readback =>
          simp only [Bool.not_true, Bool.false_eq_true, if_false]
          split
          · exact .failed _ _ _ hsame.platform (.inr (.inr rfl))
          next hd => exact .written readback hgo.1.1 htakes hupdate hw hr (not_not.1 hd)

/-- The slots with the candidate in place. -/
def stagedSlots (s : UpdateStager) : BootSlots :=
  s.slots.put s.candidateSlot ⟨true, true, s.verifier.manifest.imageVersion⟩

/-- Everything `finish` can do. -/
inductive Finished (cr : UpdateCrypto κ) (st : UpdateStorage μ) (k : κ) (m : μ) (s : UpdateStager) : Staged κ μ → Prop
  | failed (k' : κ) (m' : μ) (v : UpdateVerifier) : v.platform = s.verifier.platform →
      (m' = m ∨ m' = (st.authenticate m s.candidateSlot s.verifier.manifest.imageVersion s.verifier.manifest.digest).1 ∨
        ∃ state, m' = (st.persistBootState (st.authenticate m s.candidateSlot s.verifier.manifest.imageVersion
          s.verifier.manifest.digest).1 state).1) →
      Finished cr st k m s (failed st k' m' { s with verifier := v })
  | staged (state : BootState) : s.active = true → s.verifier.active = true →
      s.verifier.receivedBytes = s.verifier.manifest.imageSize →
      (cr.hashFinish k).2 = some s.verifier.manifest.digest →
      (st.authenticate m s.candidateSlot s.verifier.manifest.imageVersion s.verifier.manifest.digest).2 = true →
      Boot.stage s.bootState s.candidateSlot s.stagedSlots = some state →
      (st.persistBootState (st.authenticate m s.candidateSlot s.verifier.manifest.imageVersion
        s.verifier.manifest.digest).1 state).2 = true →
      Finished cr st k m s ⟨(cr.hashFinish k).1, (st.persistBootState (st.authenticate m s.candidateSlot
        s.verifier.manifest.imageVersion s.verifier.manifest.digest).1 state).1,
        { s with
          verifier := { s.verifier with active := false, verified := true }
          bootState := state
          slots := s.stagedSlots
          active := false
          complete := true }, true⟩

theorem finish_finished (cr : UpdateCrypto κ) (st : UpdateStorage μ) (k : κ) (m : μ) (s : UpdateStager) :
    Finished cr st k m s (s.finish cr st k m) := by
  have hfinished := UpdateVerifier.finish_finished cr k s.verifier
  unfold finish
  dsimp only
  generalize s.verifier.finish cr k = v at hfinished ⊢
  split
  · exact .failed k m s.verifier rfl (.inl rfl)
  next hgo =>
    rw [Bool.not_eq_true', Bool.not_eq_false] at hgo
    cases hfinished with
    | failed => exact .failed _ _ _ rfl (.inl rfl)
    | mismatch => exact .failed _ _ { s.verifier with
        active := false, verified := false, hashFailures := s.verifier.hashFailures + 1 } rfl (.inl rfl)
    | matched hactive hreceived hdigest =>
      simp only [Bool.not_true, Bool.false_eq_true, if_false]
      cases ha : (st.authenticate m s.candidateSlot s.verifier.manifest.imageVersion s.verifier.manifest.digest).2 with
      | false => exact .failed _ _ { s.verifier with active := false, verified := true } rfl (.inr (.inl rfl))
      | true =>
        simp only [Bool.not_true, Bool.false_eq_true, if_false]
        cases hstage : Boot.stage s.bootState s.candidateSlot s.stagedSlots with
        | none =>
          have hstage : Boot.stage s.bootState s.candidateSlot (s.slots.put s.candidateSlot
            ⟨true, true, s.verifier.manifest.imageVersion⟩) = none := hstage
          rw [hstage]
          exact .failed _ _ { s.verifier with active := false, verified := true } rfl (.inr (.inl rfl))
        | some state =>
          have hstage' : Boot.stage s.bootState s.candidateSlot (s.slots.put s.candidateSlot
            ⟨true, true, s.verifier.manifest.imageVersion⟩) = some state := hstage
          rw [hstage']
          dsimp only
          cases hp : (st.persistBootState (st.authenticate m s.candidateSlot s.verifier.manifest.imageVersion
              s.verifier.manifest.digest).1 state).2 with
          | false =>
            exact .failed _ _ { s.verifier with active := false, verified := true } rfl (.inr (.inr ⟨state, rfl⟩))
          | true => exact .staged state hgo hactive hreceived hdigest ha hstage hp

end UpdateStager

/-! ## The calls on the storage -/

/-- A call on the storage backend. -/
inductive StorageCall where
  | erase (slot : U8) (size : U32)
  | write (slot : U8) (offset : U32) (data : List U8)
  | read (slot : U8) (offset : U32) (length : Nat)
  | authenticate (slot : U8) (version : U32) (digest : Bytes 32)
  | invalidate (slot : U8)
  | persistBootState (state : BootState)
deriving DecidableEq

/-- The slot a call names. -/
def StorageCall.slot : StorageCall → Option U8
  | .erase slot _ | .write slot _ _ | .read slot _ _ | .authenticate slot _ _ | .invalidate slot => some slot
  | .persistBootState _ => none

/-- The call changes the storage. -/
def StorageCall.changes : StorageCall → Bool
  | .erase _ _ | .write _ _ _ | .invalidate _ | .persistBootState _ => true
  | .read _ _ _ | .authenticate _ _ _ => false

/-- A context and the calls so far, the first one first. -/
structure Journaled (μ : Type) where
  context : μ
  calls : List StorageCall

/-- A context after a call. -/
def Journaled.note {μ : Type} (j : Journaled μ) (c : StorageCall) (context : μ) : Journaled μ := ⟨context, j.calls ++ [c]⟩

/-- The backend, with a note of every call. -/
def UpdateStorage.journaling {μ : Type} (st : UpdateStorage μ) : UpdateStorage (Journaled μ) where
  erase j slot size := let r := st.erase j.context slot size; (j.note (.erase slot size) r.1, r.2)
  write j slot offset data := let r := st.write j.context slot offset data; (j.note (.write slot offset data) r.1, r.2)
  read j slot offset n := let r := st.read j.context slot offset n; (j.note (.read slot offset n) r.1, r.2)
  authenticate j slot version digest :=
    let r := st.authenticate j.context slot version digest
    (j.note (.authenticate slot version digest) r.1, r.2)
  invalidate j slot := let r := st.invalidate j.context slot; (j.note (.invalidate slot) r.1, r.2)
  persistBootState j state := let r := st.persistBootState j.context state; (j.note (.persistBootState state) r.1, r.2)

/-- A storage that does what it says: a write that succeeds changes nothing but its range, a read that succeeds gives the
bytes, and the other calls that succeed after the erase leave them. -/
structure UpdateStorage.Faithful {μ : Type} (st : UpdateStorage μ) (bytes : μ → U8 → ℕ → U8) : Prop where
  write : ∀ m slot offset data, (st.write m slot offset data).2 = true → ∀ s x,
    ¬ (s = slot ∧ offset.toNat ≤ x ∧ x < offset.toNat + data.length) →
      bytes (st.write m slot offset data).1 s x = bytes m s x
  read : ∀ m slot offset n b, (st.read m slot offset n).2 = some b → bytes (st.read m slot offset n).1 = bytes m ∧
    b.bytes = Flash.bytesAt (bytes m slot) offset.toNat n
  authenticate : ∀ m slot version digest, (st.authenticate m slot version digest).2 = true →
    bytes (st.authenticate m slot version digest).1 = bytes m
  persist : ∀ m state, (st.persistBootState m state).2 = true → bytes (st.persistBootState m state).1 = bytes m

/-! ## Runs -/

/-- A call on the stager. -/
inductive StagerCall where
  | begin (wire : ManifestWire)
  | write (chunk : Chunk)
  | finish

/-- A stager, the environment of its callbacks, and the bytes written since the last begin that was accepted. -/
structure StagerRun (κ μ : Type) where
  crypto : κ
  storage : Journaled μ
  stager : UpdateStager
  image : List U8

namespace StagerRun

variable {κ μ : Type} (cr : UpdateCrypto κ) (st : UpdateStorage μ)

/-- What a call leaves and answers. -/
def call (w : StagerRun κ μ) : StagerCall → UpdateStager.Staged κ (Journaled μ)
  | .begin wire => w.stager.begin cr st.journaling w.crypto w.storage wire
  | .write chunk => w.stager.write cr st.journaling w.crypto w.storage chunk.bytes
  | .finish => w.stager.finish cr st.journaling w.crypto w.storage

/-- The bytes written since the last begin, after a call with this answer. -/
def imageAfter (w : StagerRun κ μ) (c : StagerCall) (answer : Bool) : List U8 :=
  match c with
  | .begin _ => if answer then [] else w.image
  | .write chunk => if answer then w.image ++ chunk.bytes else w.image
  | .finish => w.image

/-- One call. -/
def step (w : StagerRun κ μ) (c : StagerCall) : StagerRun κ μ :=
  let r := w.call cr st c
  ⟨r.crypto, r.storage, r.stager, w.imageAfter c r.answer⟩

end StagerRun

/-- A manifest the platform permits, found signed. -/
def Certified {κ : Type} (cr : UpdateCrypto κ) (p : UpdatePlatform) (m : UpdateManifest) : Prop :=
  p.permits m = true ∧ ∃ k wire, wire.framed = true ∧ wire.manifest = m ∧ (UpdateVerifier.signature cr k wire).2 = true

section Invariant

variable {κ μ : Type} (cr : UpdateCrypto κ) (p : UpdatePlatform) (bootState : BootState) (slots : BootSlots)

/-- The stager and its journal: the calls name the other slot, and nothing was staged yet. -/
structure Tidy (j : Journaled μ) (s : UpdateStager) : Prop where
  candidate : s.candidateSlot = bootState.confirmedSlot ^^^ 1
  named : ∀ c ∈ j.calls, ∀ slot, c.slot = some slot → slot = bootState.confirmedSlot ^^^ 1
  platform : s.verifier.platform = p
  unstaged : s.complete = false → s.bootState = bootState ∧ s.slots = slots

/-- A session: what was written is in the slot and in the digest. -/
structure Writing (bytes : μ → U8 → ℕ → U8) (fed : κ → List U8) (w : StagerRun κ μ) : Prop where
  complete : w.stager.complete = false
  received : w.stager.verifier.receivedBytes = w.stager.writtenBytes
  certified : Certified cr p w.stager.verifier.manifest
  length : w.image.length = w.stager.writtenBytes.toNat
  bytes : Flash.bytesAt (bytes w.storage.context w.stager.candidateSlot) 0 w.stager.writtenBytes.toNat = w.image
  fed : fed w.crypto = w.image

/-- What holds of every run. -/
structure StagerSound (bytes : μ → U8 → ℕ → U8) (fed : κ → List U8) (w : StagerRun κ μ) : Prop
    extends Tidy p bootState slots w.storage w.stager where
  writing : w.stager.active = true → Writing cr p bytes fed w

variable {cr p bootState slots}

theorem Tidy.note {j : Journaled μ} {s : UpdateStager} (h : Tidy p bootState slots j s) {c : StorageCall} (m : μ)
    (hc : ∀ slot, c.slot = some slot → slot = s.candidateSlot) : Tidy p bootState slots (j.note c m) s := by
  refine ⟨h.candidate, fun c' hc' slot hslot => ?_, h.platform, h.unstaged⟩
  rcases List.mem_append.1 hc' with hc' | hc'
  · exact h.named c' hc' slot hslot
  · rw [List.mem_singleton.1 hc'] at hslot
    exact (hc slot hslot).trans h.candidate

theorem Tidy.verifier {j : Journaled μ} {s : UpdateStager} (h : Tidy p bootState slots j s) {v : UpdateVerifier}
    (hv : v.platform = s.verifier.platform) : Tidy p bootState slots j { s with verifier := v } :=
  ⟨h.candidate, h.named, hv.trans h.platform, h.unstaged⟩

variable {st : UpdateStorage μ} {bytes : μ → U8 → ℕ → U8} {digest : List U8 → Bytes 32} {fed : κ → List U8}

/-- A failure ends the session. -/
theorem sound_failed {j : Journaled μ} {s : UpdateStager} (h : Tidy p bootState slots j s) (k : κ) (image : List U8) :
    StagerSound cr p bootState slots bytes fed
      ⟨k, (s.failed st.journaling k j).storage, (s.failed st.journaling k j).stager, image⟩ := by
  obtain ⟨hcandidate, hnamed, hplatform, hunstaged⟩ := h.note (st.invalidate j.context s.candidateSlot).1
    (c := .invalidate s.candidateSlot) fun slot hslot => (Option.some.inj hslot).symm
  exact ⟨⟨hcandidate, hnamed, hplatform, hunstaged⟩, (fun ha => by cases ha)⟩

theorem sound_stager_begin (hs : StreamHash.Streams cr.hasher digest fed) {w : StagerRun κ μ}
    (h : StagerSound cr p bootState slots bytes fed w) (wire : ManifestWire) :
    StagerSound cr p bootState slots bytes fed (w.step cr st (.begin wire)) := by
  have hbegun := UpdateStager.begin_begun cr st.journaling w.crypto w.storage w.stager wire
  simp only [StagerRun.step, StagerRun.call]
  generalize w.stager.begin cr st.journaling w.crypto w.storage wire = r at hbegun ⊢
  have herase : Tidy p bootState slots (w.storage.note (.erase w.stager.candidateSlot wire.manifest.imageSize)
      (st.erase w.storage.context w.stager.candidateSlot wire.manifest.imageSize).1)
      { w.stager with verifier := w.stager.verifier.opened wire } :=
    (h.toTidy.verifier (w.stager.verifier.opened_platform wire)).note _ fun slot hslot => (Option.some.inj hslot).symm
  cases hbegun with
  | closed => exact h
  | refused k' v hplatform hactive =>
    exact ⟨h.toTidy.verifier hplatform, fun ha => absurd (hactive.symm.trans ha) Bool.false_ne_true⟩
  | failed k' => exact sound_failed herase _ _
  | started hcomplete hframed hpermits hsigned hstart =>
    refine ⟨⟨herase.candidate, herase.named, herase.platform, herase.unstaged⟩, fun _ => ?_⟩
    have hpermits : p.permits wire.manifest = true := h.platform ▸ hpermits
    exact ⟨hcomplete, rfl, ⟨hpermits, w.crypto, wire, hframed, rfl, hsigned⟩, rfl, rfl, hs.start _ hstart⟩

/-- A piece that was written and reads back as it is follows what the slot holds. -/
theorem written_bytes (hf : st.Faithful bytes) {m : μ} {slot : U8} {offset : U32} {data : List U8} {readback : Bytes data.length}
    (hw : (st.write m slot offset data).2 = true)
    (hr : (st.read (st.write m slot offset data).1 slot offset data.length).2 = some readback)
    (hd : difference data readback.bytes = 0) :
    Flash.bytesAt (bytes (st.read (st.write m slot offset data).1 slot offset data.length).1 slot) 0
      (offset.toNat + data.length) = Flash.bytesAt (bytes m slot) 0 offset.toNat ++ data := by
  obtain ⟨hsame, hread⟩ := hf.read _ _ _ _ _ hr
  have hdata : data = readback.bytes := (difference_eq_zero readback.length_eq.symm).1 hd
  rw [hsame, Flash.bytesAt_append, Nat.zero_add, ← hread, ← hdata]
  refine congrArg (· ++ data) (Flash.bytesAt_congr fun x _ hx => hf.write m slot offset data hw slot x ?_)
  omega

theorem sound_stager_write (hs : StreamHash.Streams cr.hasher digest fed) (hf : st.Faithful bytes) {w : StagerRun κ μ}
    (h : StagerSound cr p bootState slots bytes fed w) (chunk : Chunk) :
    StagerSound cr p bootState slots bytes fed (w.step cr st (.write chunk)) := by
  have hwritten := UpdateStager.write_written cr st.journaling w.crypto w.storage w.stager chunk.bytes
  simp only [StagerRun.step, StagerRun.call]
  generalize w.stager.write cr st.journaling w.crypto w.storage chunk.bytes = r at hwritten ⊢
  have hwrite : Tidy p bootState slots (st.journaling.write w.storage w.stager.candidateSlot w.stager.writtenBytes
      chunk.bytes).1 w.stager :=
    h.toTidy.note (c := .write w.stager.candidateSlot w.stager.writtenBytes chunk.bytes) _
      fun slot hslot => (Option.some.inj hslot).symm
  have hread : Tidy p bootState slots (st.journaling.read (st.journaling.write w.storage w.stager.candidateSlot
      w.stager.writtenBytes chunk.bytes).1 w.stager.candidateSlot w.stager.writtenBytes chunk.bytes.length).1 w.stager :=
    hwrite.note (c := .read w.stager.candidateSlot w.stager.writtenBytes chunk.bytes.length) _
      fun slot hslot => (Option.some.inj hslot).symm
  cases hwritten with
  | failed k' m' v hplatform hreached =>
    have htidy : Tidy p bootState slots m' w.stager := by
      rcases hreached with rfl | rfl | rfl
      · exact h.toTidy
      · exact hwrite
      · exact hread
    exact sound_failed (htidy.verifier hplatform) k' _
  | written readback hactive htakes hupdate hwr hrd hdifference =>
    obtain ⟨hcomplete, hreceived, hcertified, hlength, hbytes, hfed⟩ := h.writing hactive
    obtain ⟨-, -, hbounded, hfits⟩ := htakes
    refine ⟨⟨hread.candidate, hread.named, hread.platform, hread.unstaged⟩, fun _ => ?_⟩
    have hnat : (BitVec.ofNat 32 chunk.bytes.length).toNat = chunk.bytes.length := by
      rw [BitVec.toNat_ofNat, Nat.mod_eq_of_lt chunk.length_lt]
    rw [BitVec.le_def, BitVec.toNat_sub_of_le hbounded, hnat, hreceived] at hfits
    rw [BitVec.le_def, hreceived] at hbounded
    have hsize := w.stager.verifier.manifest.imageSize.isLt
    have hsum : (w.stager.writtenBytes + BitVec.ofNat 32 chunk.bytes.length).toNat =
        w.stager.writtenBytes.toNat + chunk.bytes.length := by
      rw [BitVec.toNat_add, hnat, Nat.mod_eq_of_lt (by omega)]
    have himage : w.imageAfter (.write chunk) true = w.image ++ chunk.bytes := rfl
    refine ⟨hcomplete, by rw [hreceived], hcertified, ?_, ?_, ?_⟩ <;> dsimp only <;> rw [himage]
    · rw [List.length_append, hlength, hsum]
    · have hstored := written_bytes hf (m := w.storage.context) hwr hrd hdifference
      rw [hbytes] at hstored
      rw [hsum]
      exact hstored
    · rw [← hfed]
      exact hs.update _ chunk.bytes hupdate

theorem sound_stager_finish {w : StagerRun κ μ} (h : StagerSound cr p bootState slots bytes fed w) :
    StagerSound cr p bootState slots bytes fed (w.step cr st .finish) := by
  have hfinished := UpdateStager.finish_finished cr st.journaling w.crypto w.storage w.stager
  simp only [StagerRun.step, StagerRun.call]
  generalize w.stager.finish cr st.journaling w.crypto w.storage = r at hfinished ⊢
  have hauthenticate : Tidy p bootState slots (st.journaling.authenticate w.storage w.stager.candidateSlot
      w.stager.verifier.manifest.imageVersion w.stager.verifier.manifest.digest).1 w.stager :=
    h.toTidy.note (c := .authenticate w.stager.candidateSlot w.stager.verifier.manifest.imageVersion
      w.stager.verifier.manifest.digest) _ fun slot hslot => (Option.some.inj hslot).symm
  have hpersist (state : BootState) : Tidy p bootState slots (st.journaling.persistBootState
      (st.journaling.authenticate w.storage w.stager.candidateSlot w.stager.verifier.manifest.imageVersion
        w.stager.verifier.manifest.digest).1 state).1 w.stager :=
    hauthenticate.note (c := .persistBootState state) _ fun slot hslot => by cases hslot
  cases hfinished with
  | failed k' m' v hplatform hreached =>
    have htidy : Tidy p bootState slots m' w.stager := by
      rcases hreached with rfl | rfl | ⟨state, rfl⟩
      · exact h.toTidy
      · exact hauthenticate
      · exact hpersist state
    exact sound_failed (htidy.verifier hplatform) k' _
  | staged state =>
    obtain ⟨hcandidate, hnamed, hplatform, -⟩ := hpersist state
    exact ⟨⟨hcandidate, hnamed, hplatform, fun hc => by cases hc⟩, (fun ha => by cases ha)⟩

theorem sound_stager_step (hs : StreamHash.Streams cr.hasher digest fed) (hf : st.Faithful bytes) {w : StagerRun κ μ}
    (h : StagerSound cr p bootState slots bytes fed w) (c : StagerCall) :
    StagerSound cr p bootState slots bytes fed (w.step cr st c) := by
  cases c with
  | begin wire => exact sound_stager_begin hs h wire
  | write chunk => exact sound_stager_write hs hf h chunk
  | finish => exact sound_stager_finish h

theorem stager_init_some {s : UpdateStager} (hinit : UpdateStager.init p bootState slots = some s) :
    Boot.stateValid bootState = true ∧ ∃ v, UpdateVerifier.init p = some v ∧
      s = ⟨v, bootState, slots, bootState.confirmedSlot ^^^ 1, 0, 0, false, false, false⟩ := by
  unfold UpdateStager.init at hinit
  split at hinit
  · cases hinit
  · next hc =>
    simp only [Bool.or_eq_true, Bool.not_eq_true', not_or, Bool.not_eq_false] at hc
    obtain ⟨v, hv, rfl⟩ := Option.map_eq_some_iff.1 hinit
    exact ⟨hc.1.1, v, hv, rfl⟩

theorem stager_init_sound {s : UpdateStager} (hinit : UpdateStager.init p bootState slots = some s) (k : κ) (m : μ) :
    StagerSound cr p bootState slots bytes fed ⟨k, ⟨m, []⟩, s, []⟩ := by
  obtain ⟨-, v, hv, rfl⟩ := stager_init_some hinit
  refine ⟨⟨rfl, fun c hc => ?_, (UpdateVerifier.init_fresh hv).platform, fun _ => ⟨rfl, rfl⟩⟩, (fun ha => by cases ha)⟩
  cases hc

/-- A call that returns false leaves the boot state and the slots. -/
theorem call_false (w : StagerRun κ μ) (c : StagerCall) (h : (w.call cr st c).answer = false) :
    (w.step cr st c).stager.bootState = w.stager.bootState ∧ (w.step cr st c).stager.slots = w.stager.slots := by
  cases c with
  | begin wire =>
    have hbegun := UpdateStager.begin_begun cr st.journaling w.crypto w.storage w.stager wire
    simp only [StagerRun.step, StagerRun.call] at h ⊢
    generalize w.stager.begin cr st.journaling w.crypto w.storage wire = r at hbegun h ⊢
    cases hbegun <;> exact ⟨rfl, rfl⟩
  | write chunk =>
    have hwritten := UpdateStager.write_written cr st.journaling w.crypto w.storage w.stager chunk.bytes
    simp only [StagerRun.step, StagerRun.call] at h ⊢
    generalize w.stager.write cr st.journaling w.crypto w.storage chunk.bytes = r at hwritten h ⊢
    cases hwritten <;> exact ⟨rfl, rfl⟩
  | finish =>
    have hfinished := UpdateStager.finish_finished cr st.journaling w.crypto w.storage w.stager
    simp only [StagerRun.step, StagerRun.call] at h ⊢
    generalize w.stager.finish cr st.journaling w.crypto w.storage = r at hfinished h ⊢
    cases hfinished with
    | failed => exact ⟨rfl, rfl⟩
    | staged => cases h

/-- What a finish that returns true has done. -/
structure Bootable (cr : UpdateCrypto κ) (p : UpdatePlatform) (bootState : BootState) (bytes : μ → U8 → ℕ → U8)
    (digest : List U8 → Bytes 32) (w : StagerRun κ μ) : Prop where
  image : Flash.bytesAt (bytes w.storage.context (bootState.confirmedSlot ^^^ 1)) 0
    w.stager.verifier.manifest.imageSize.toNat = w.image
  digest : digest w.image = w.stager.verifier.manifest.digest
  certified : Certified cr p w.stager.verifier.manifest
  staged : w.stager.bootState = { bootState with pendingSlot := bootState.confirmedSlot ^^^ 1, pendingAttempts := 0 }
  persisted : w.storage.calls.getLast? = some (.persistBootState w.stager.bootState)

theorem finish_bootable (hs : StreamHash.Streams cr.hasher digest fed) (hf : st.Faithful bytes) {w : StagerRun κ μ}
    (h : StagerSound cr p bootState slots bytes fed w) (ha : (w.call cr st .finish).answer = true) :
    Bootable cr p bootState bytes digest (w.step cr st .finish) := by
  have hfinished := UpdateStager.finish_finished cr st.journaling w.crypto w.storage w.stager
  simp only [StagerRun.step, StagerRun.call] at ha ⊢
  generalize w.stager.finish cr st.journaling w.crypto w.storage = r at hfinished ha ⊢
  cases hfinished with
  | failed => cases ha
  | staged state hactive hverifying hreceived hdigest hauthenticate hstage hpersist =>
    obtain ⟨hcomplete, hwritten, hcertified, hlength, hbytes, hfed⟩ := h.writing hactive
    obtain ⟨hstate, -⟩ := h.unstaged hcomplete
    obtain ⟨-, -, -, -, rfl⟩ := Boot.stage_some hstage
    rw [h.candidate] at hbytes
    refine ⟨?_, ?_, hcertified, ?_, ?_⟩
    · have hauthenticated := hf.authenticate _ _ _ _ hauthenticate
      have hpersisted := hf.persist _ _ hpersist
      dsimp only
      rw [← hreceived, hwritten]
      refine Eq.trans ?_ hbytes
      exact congrArg (fun b => Flash.bytesAt (b (bootState.confirmedSlot ^^^ 1)) 0 w.stager.writtenBytes.toNat)
        (hpersisted.trans hauthenticated)
    · have hd := hs.finish _ _ hdigest
      rw [hfed] at hd
      exact hd.symm
    · dsimp only
      rw [hstate, h.candidate]
    · exact List.getLast?_concat

/-- **What the stager finishes is bootable, and nothing else is touched.** -/
theorem staged_is_bootable (hs : StreamHash.Streams cr.hasher digest fed) (hf : st.Faithful bytes) {s : UpdateStager}
    (hinit : UpdateStager.init p bootState slots = some s) (k : κ) (m : μ) (past : List StagerCall) :
    let w := past.foldl (StagerRun.step cr st) ⟨k, ⟨m, []⟩, s, []⟩
    (∀ c ∈ w.storage.calls, ∀ slot, c.slot = some slot →
      slot = bootState.confirmedSlot ^^^ 1 ∧ slot ≠ bootState.confirmedSlot) ∧
      ((w.call cr st .finish).answer = true → Bootable cr p bootState bytes digest (w.step cr st .finish)) ∧
      ∀ c, (w.call cr st c).answer = false →
        (w.step cr st c).stager.bootState = w.stager.bootState ∧ (w.step cr st c).stager.slots = w.stager.slots := by
  obtain ⟨hvalid, -⟩ := stager_init_some hinit
  have hrun := Run.inv_run (P := StagerSound cr p bootState slots bytes fed)
    (fun w c h => sound_stager_step hs hf h c) (stager_init_sound hinit k m) past
  refine ⟨fun c hc slot hslot => ?_, finish_bootable hs hf hrun, call_false _⟩
  rw [hrun.named c hc slot hslot]
  exact ⟨rfl, (Boot.other_ne hvalid).1⟩

end Invariant

/-! ## After the finish -/

section Completed

variable {κ μ : Type} (cr : UpdateCrypto κ) (st : UpdateStorage μ)

/-- A call that is refused and leaves the storage and what was staged alone. -/
structure Harmless (w : StagerRun κ μ) (c : StagerCall) : Prop where
  answer : (w.call cr st c).answer = false
  storage : ∃ calls, (w.step cr st c).storage.calls = w.storage.calls ++ calls ∧ ∀ call ∈ calls, call.changes = false
  bootState : (w.step cr st c).stager.bootState = w.stager.bootState
  slots : (w.step cr st c).stager.slots = w.stager.slots
  complete : (w.step cr st c).stager.complete = w.stager.complete
  failedLatched : (w.step cr st c).stager.failedLatched = w.stager.failedLatched

/-- The call is a begin. -/
def StagerCall.isBegin : StagerCall → Bool
  | .begin _ => true
  | .write _ | .finish => false

theorem begin_completed {w : StagerRun κ μ} (hc : w.stager.complete = true) (wire : ManifestWire) :
    w.step cr st (.begin wire) = w ∧ (w.call cr st (.begin wire)).answer = false := by
  simp only [StagerRun.step, StagerRun.call, UpdateStager.begin, hc, Bool.or_true, Bool.true_or, if_true]
  exact ⟨rfl, trivial⟩

/-- A write or a finish without a session fails, and a failure invalidates the candidate. -/
theorem call_inactive {w : StagerRun κ μ} (ha : w.stager.active = false) {c : StagerCall} (hc : c.isBegin = false) :
    w.call cr st c = w.stager.failed st.journaling w.crypto w.storage := by
  cases c with
  | begin => cases hc
  | write chunk =>
    simp only [StagerRun.call, UpdateStager.write, ha, Bool.not_false, Bool.true_or, if_true]
  | finish => simp only [StagerRun.call, UpdateStager.finish, ha, Bool.not_false, if_true]

variable {cr st}

theorem harmless_iff {w : StagerRun κ μ} (hc : w.stager.complete = true) (ha : w.stager.active = false) (c : StagerCall) :
    Harmless cr st w c ↔ c.isBegin = true := by
  constructor
  · intro h
    by_contra hb
    have hfailed := call_inactive cr st ha (Bool.not_eq_true _ ▸ hb)
    obtain ⟨calls, hcalls, hkept⟩ := h.storage
    simp only [StagerRun.step, hfailed] at hcalls
    have hsame : calls = [.invalidate w.stager.candidateSlot] := (List.append_cancel_left hcalls).symm
    have hchanges := hkept (.invalidate w.stager.candidateSlot) (by rw [hsame]; exact List.mem_singleton_self _)
    cases hchanges
  · intro hb
    cases c with
    | write => cases hb
    | finish => cases hb
    | begin wire =>
      obtain ⟨hsame, hanswer⟩ := begin_completed cr st hc wire
      refine ⟨hanswer, ⟨[], ?_, fun call hcall => by cases hcall⟩, ?_, ?_, ?_, ?_⟩ <;> rw [hsame]
      exact (List.append_nil _).symm

/-- A completed stager stays one. -/
theorem step_completed {w : StagerRun κ μ} (h : w.stager.complete = true ∧ w.stager.active = false) (c : StagerCall) :
    (w.step cr st c).stager.complete = true ∧ (w.step cr st c).stager.active = false := by
  cases hb : c.isBegin with
  | false =>
    simp only [StagerRun.step, call_inactive cr st h.2 hb]
    exact ⟨h.1, rfl⟩
  | true =>
    cases c with
    | write => cases hb
    | finish => cases hb
    | begin wire =>
      rw [(begin_completed cr st h.1 wire).1]
      exact h

theorem finish_completes {w : StagerRun κ μ} (h : (w.call cr st .finish).answer = true) :
    (w.step cr st .finish).stager.complete = true ∧ (w.step cr st .finish).stager.active = false := by
  have hfinished := UpdateStager.finish_finished cr st.journaling w.crypto w.storage w.stager
  simp only [StagerRun.step, StagerRun.call] at h ⊢
  generalize w.stager.finish cr st.journaling w.crypto w.storage = r at hfinished h ⊢
  cases hfinished with
  | failed => cases h
  | staged => exact ⟨rfl, rfl⟩

/-- **A completed staging is final exactly if nothing but begins follows.** -/
theorem completed_final_iff {w : StagerRun κ μ} (h : (w.call cr st .finish).answer = true) (later : List StagerCall) :
    Run.Along (StagerRun.step cr st) (Harmless cr st) (w.step cr st .finish) later ↔ ∀ c ∈ later, c.isBegin = true := by
  have hcompleted := finish_completes h
  rw [Run.along_congr (P := fun w => w.stager.complete = true ∧ w.stager.active = false)
    (D := fun _ c => c.isBegin = true) (fun w c hw => step_completed hw c) (fun w c hw => harmless_iff hw.1 hw.2 c)
    hcompleted, Run.along_iff_forall]

end Completed

/-! ## One staged byte -/

/-- Two slots in memory. -/
def ramStorage : UpdateStorage (U8 → ℕ → U8) where
  erase m slot size := (fun s x => if s = slot ∧ x < size.toNat then 0xff else m s x, true)
  write m slot offset data :=
    (fun s x => if s = slot ∧ offset.toNat ≤ x ∧ x < offset.toNat + data.length then data.getD (x - offset.toNat) 0
      else m s x, true)
  read m slot offset n := (m, some ⟨Flash.bytesAt (m slot) offset.toNat n, Flash.length_bytesAt _ _ _⟩)
  authenticate m _ _ _ := (m, true)
  invalidate m slot := (fun s x => if s = slot then 0 else m s x, true)
  persistBootState m _ := (m, true)

theorem ramStorage_faithful : ramStorage.Faithful id where
  write _ _ _ _ _ _ _ h := if_neg h
  read _ _ _ _ _ h := ⟨rfl, by rw [← Option.some.inj h]; rfl⟩
  authenticate _ _ _ _ _ := rfl
  persist _ _ _ := rfl

/-- The stager of a device that runs slot A. -/
def nineStager : UpdateStager :=
  ⟨nineVerifier, ⟨1, 5, Boot.slotA, Boot.noSlot, 0⟩, ⟨⟨true, true, 6⟩, ⟨false, false, 0⟩⟩, 1, 0, 0, false, false, false⟩

/-- The stager of slot A after its one byte. -/
def nineWritten : StagerRun (List U8) (U8 → ℕ → U8) :=
  [.begin nineManifest, .write ⟨[9], by decide⟩].foldl (StagerRun.step sumCrypto ramStorage)
    ⟨[], ⟨fun _ _ => 0, []⟩, nineStager, []⟩

theorem staged_is_bootable_nine :
    Bootable sumCrypto ninePlatform ⟨1, 5, Boot.slotA, Boot.noSlot, 0⟩ id sumDigest
      (nineWritten.step sumCrypto ramStorage .finish) :=
  (staged_is_bootable sumCrypto_streams ramStorage_faithful
    (show UpdateStager.init ninePlatform ⟨1, 5, Boot.slotA, Boot.noSlot, 0⟩ ⟨⟨true, true, 6⟩, ⟨false, false, 0⟩⟩ =
      some nineStager by decide) [] (fun _ _ => 0) _).2.1 (by decide +kernel)

theorem completed_final_nine :
    Run.Along (StagerRun.step sumCrypto ramStorage) (Harmless sumCrypto ramStorage)
      (nineWritten.step sumCrypto ramStorage .finish) [.begin nineManifest, .begin nineManifest] :=
  (completed_final_iff (show (nineWritten.call sumCrypto ramStorage .finish).answer = true by decide +kernel) _).2 (by
    intro c hc
    simp only [List.mem_cons, List.not_mem_nil, or_false, or_self] at hc
    rw [hc]
    rfl)

/-- A second finish invalidates the slot that is pending. -/
theorem second_finish_invalidates :
    ¬ ∀ (cr : UpdateCrypto (List U8)) (st : UpdateStorage (U8 → ℕ → U8)) (p : UpdatePlatform) (bootState : BootState)
      (slots : BootSlots) (s : UpdateStager) (past later : List StagerCall),
      UpdateStager.init p bootState slots = some s →
      let w := past.foldl (StagerRun.step cr st) ⟨[], ⟨fun _ _ => 0, []⟩, s, []⟩
      (w.call cr st .finish).answer = true →
        Run.Along (StagerRun.step cr st) (Harmless cr st) (w.step cr st .finish) later := by
  intro h
  have hdone := h sumCrypto ramStorage ninePlatform ⟨1, 5, Boot.slotA, Boot.noSlot, 0⟩
    ⟨⟨true, true, 6⟩, ⟨false, false, 0⟩⟩ nineStager [.begin nineManifest, .write ⟨[9], by decide⟩] [.finish]
    (by decide) (by decide +kernel)
  have hlatched := hdone.1.failedLatched
  revert hlatched
  decide +kernel

end OpenRef.Update
