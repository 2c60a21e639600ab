import OpenRef.Lib.Journal
import OpenRef.Lib.NorFlash
import OpenRef.Update.Delivery
/-!
# The calls of an update delivery

A delivery is run over any flash, crypto and activation callbacks. Each message leaves a `DeliveryStep`: the message, the
answer, and the calls it made, with what they answered.

`flush_calls`, `writeLoop_calls`, `start_calls` and `finish_calls` say what a staging calls. Addresses and lengths in a call
are numbers, so they also say that the 32-bit sums behind them do not wrap; `FlushExact`, `LoopExact` and `StartExact` say
it of the sums that reach no call.
-/

namespace OpenRef.Update

/-- A call on the callbacks of a delivery, and what it answered. -/
inductive DeliveryCall where
  | verifySignature (signed : Bytes 80) (key : Bytes 8) (signature : Bytes 64) (valid : Bool)
  | hashBegin (ok : Bool)
  | hashUpdate (data : List U8) (ok : Bool)
  | hashFinish (digest : Option (Bytes 32))
  | read (address length : ℕ) (data : Option (List U8))
  | erase (address length : ℕ) (ok : Bool)
  | program (address : ℕ) (data : List U8) (ok : Bool)
  | activate (slot : U8) (version : U32) (ok : Bool)
deriving DecidableEq

/-- The range that a call may change. -/
def DeliveryCall.changes : DeliveryCall → Option FlashOp
  | .erase address length _ => some ⟨address, length⟩
  | .program address data _ => some ⟨address, data.length⟩
  | _ => none

/-- A call that changes nothing outside a range. -/
def DeliveryCall.Keeps (address length : ℕ) (c : DeliveryCall) : Prop :=
  ∀ op, c.changes = some op → address ≤ op.address ∧ op.address + op.length ≤ address + length

/-- The callbacks of a delivery. -/
structure DeliveryBackend (κ : Type) where
  flash : FlashDriver κ
  crypto : UpdateCrypto κ
  activate : κ → U8 → U32 → κ × Bool

variable {κ : Type}

/-- Flash callbacks with a journal. -/
def journaledFlash (fl : FlashDriver κ) : FlashDriver (Journal κ DeliveryCall) where
  read j a n := j.call (fl.read · a n) (.read a.toNat n.toNat)
  erase j a n := j.call (fl.erase · a n) (.erase a.toNat n.toNat)
  program j a data := j.call (fl.program · a data) (.program a.toNat data)

/-- Crypto callbacks with a journal. -/
def journaledCrypto (cr : UpdateCrypto κ) : UpdateCrypto (Journal κ DeliveryCall) where
  verifySignature j signed key signature :=
    j.call (cr.verifySignature · signed key signature) (.verifySignature signed key signature)
  hashBegin j := j.call cr.hashBegin .hashBegin
  hashUpdate j data := j.call (cr.hashUpdate · data) (.hashUpdate data)
  hashFinish j := j.call cr.hashFinish .hashFinish

/-- The callbacks with a journal. -/
def DeliveryBackend.journaled (be : DeliveryBackend κ) : DeliveryBackend (Journal κ DeliveryCall) where
  flash := journaledFlash be.flash
  crypto := journaledCrypto be.crypto
  activate j slot version := j.call (be.activate · slot version) (.activate slot version)

/-- A call into the delivery. -/
inductive DeliveryMessage where
  | begin (session : U32) (target : U8) (manifest : ManifestWire) (now : U32)
  | chunk (session sequence offset : U32) (data : List U8) (now : U32)
  | finish (session sequence now : U32)
  | poll (now : U32)
  | reset
deriving DecidableEq

/-- What the call returns. -/
inductive DeliveryAnswer where
  | result (result : DeliveryResult)
  | polled (aborted : Bool)
  | none
deriving DecidableEq

/-- A message, its answer and the calls it made. -/
structure DeliveryStep where
  message : DeliveryMessage
  answer : DeliveryAnswer
  calls : List DeliveryCall
deriving DecidableEq

/-- The environment of the callbacks, the delivery and its steps so far. -/
structure DeliveryRun (κ : Type) where
  context : κ
  delivery : UpdateDelivery
  steps : List DeliveryStep

namespace DeliveryRun

variable (be : DeliveryBackend κ)

/-- A message to the delivery, over callbacks with an empty journal. -/
def call (w : DeliveryRun κ) : DeliveryMessage → Journal κ DeliveryCall × UpdateDelivery × DeliveryAnswer
  | .begin session target manifest now =>
    let r := w.delivery.begin be.journaled.flash be.journaled.crypto ⟨w.context, []⟩ session target manifest now
    (r.1, r.2.1, .result r.2.2)
  | .chunk session sequence offset data now =>
    let r := w.delivery.chunk be.journaled.flash be.journaled.crypto ⟨w.context, []⟩ session sequence offset data now
    (r.1, r.2.1, .result r.2.2)
  | .finish session sequence now =>
    let r := w.delivery.finish be.journaled.flash be.journaled.crypto be.journaled.activate ⟨w.context, []⟩ session sequence
      now
    (r.1, r.2.1, .result r.2.2)
  | .poll now => (⟨w.context, []⟩, (w.delivery.poll now).1, .polled (w.delivery.poll now).2)
  | .reset => (⟨w.context, []⟩, w.delivery.reset, .none)

/-- The step a message leaves. -/
def record (w : DeliveryRun κ) (m : DeliveryMessage) : DeliveryStep := ⟨m, (w.call be m).2.2, (w.call be m).1.entries⟩

/-- The run after a message. -/
def step (w : DeliveryRun κ) (m : DeliveryMessage) : DeliveryRun κ :=
  ⟨(w.call be m).1.context, (w.call be m).2.1, w.steps ++ [w.record be m]⟩

end DeliveryRun

/-! ## Exact sums -/

namespace Staging

variable (fl : FlashDriver κ) (cr : UpdateCrypto κ)

/-- The sums and differences of `flush`. -/
def FlushExact (s : Staging) (v : UpdateVerifier) : Prop :=
  s.page = [] ∨ (s.page.length ≤ s.pageBytes.toNat ∧ s.base.toNat + s.offset.toNat + s.pageBytes.toNat < 2 ^ 32 ∧
    v.receivedBytes.toNat + s.page.length < 2 ^ 32)

/-- The sums and differences of the loop of `openref_rt595_update_staging_write`. -/
def LoopExact : ℕ → κ → Staging → UpdateVerifier → List U8 → Prop
  | 0, _, _, _, _ => True
  | turns + 1, k, s, v, data =>
    data = [] ∨
      let n := min data.length (s.pageBytes.toNat - s.page.length)
      let t := s.fill (data.take n)
      s.page.length ≤ s.pageBytes.toNat ∧ t.page.length < 2 ^ 16 ∧
        if t.page.length = t.pageBytes.toNat then
          t.FlushExact v ∧ ((t.flush fl cr k v).2.2.2 = true →
            LoopExact turns (t.flush fl cr k v).1 (t.flush fl cr k v).2.1 (t.flush fl cr k v).2.2.1 (data.drop n))
        else LoopExact turns k t v (data.drop n)

/-- The sum and the product of `openref_rt595_update_staging_start`. -/
def StartExact (s : Staging) (v : UpdateVerifier) : Prop :=
  1 ≤ s.sectorBytes.toNat ∧ v.manifest.imageSize.toNat + s.sectorBytes.toNat < 2 ^ 32 ∧
    (v.manifest.imageSize.toNat + s.sectorBytes.toNat - 1) / s.sectorBytes.toNat * s.sectorBytes.toNat < 2 ^ 32

/-! ## What a staging calls -/

/-- A page programmed, read back and hashed. -/
def pageCalls (address : ℕ) (page bytes : List U8) : List DeliveryCall :=
  [.program address page true, .read address page.length (some page), .hashUpdate bytes true]

/-- The pages of an image from an offset on. -/
def imageCalls (s : Staging) : ℕ → List (List U8) → List DeliveryCall
  | _, [] => []
  | offset, bytes :: pages =>
    pageCalls (s.base.toNat + offset) (s.padded bytes) bytes ++ imageCalls s (offset + s.pageBytes.toNat) pages

theorem imageCalls_append (s : Staging) : ∀ (offset : ℕ) (pages pages' : List (List U8)),
    imageCalls s offset (pages ++ pages') =
      imageCalls s offset pages ++ imageCalls s (offset + pages.length * s.pageBytes.toNat) pages'
  | offset, [], pages' => by simp [imageCalls]
  | offset, bytes :: pages, pages' => by
    rw [List.cons_append, imageCalls, imageCalls, imageCalls_append s _ pages pages', List.append_assoc,
      List.length_cons, Nat.succ_mul, Nat.add_assoc, Nat.add_comm (s.pageBytes.toNat)]

/-- A call that changes nothing. -/
theorem keeps_of_none {c : DeliveryCall} (h : c.changes = none) (address length : ℕ) : c.Keeps address length := by
  intro op hop
  rw [h] at hop
  cases hop

/-- The calls in a journal are those the frame allows. -/
theorem journal_frame {P : DeliveryCall → Prop} {allowed : ℕ → ℕ → Prop} (hnone : ∀ c, c.changes = none → P c)
    (hsome : ∀ c op, c.changes = some op → allowed op.address op.length → P c) :
    StagingFrame (journaledFlash fl) (journaledCrypto cr) allowed (Journal.Adds P) where
  refl j := .refl P j
  trans h h' := h.trans h'
  read _ _ _ := Journal.call_adds fun _ => hnone _ rfl
  erase _ _ _ ha := Journal.call_adds fun _ => hsome _ _ rfl ha
  program _ _ _ ha := Journal.call_adds fun _ => hsome _ _ rfl ha
  verifySignature _ _ _ _ := Journal.call_adds fun _ => hnone _ rfl
  hashBegin _ := Journal.call_adds fun _ => hnone _ rfl
  hashUpdate _ _ := Journal.call_adds fun _ => hnone _ rfl
  hashFinish _ := Journal.call_adds fun _ => hnone _ rfl

/-- The frame of the calls in one range. -/
theorem range_frame (address length : ℕ) :
    StagingFrame (journaledFlash fl) (journaledCrypto cr) (fun a n => a = address ∧ n = length)
      (Journal.Adds (DeliveryCall.Keeps address length)) := by
  refine journal_frame fl cr (fun c hc => keeps_of_none hc address length) fun c op hc ha op' hop' => ?_
  rw [hc, Option.some.injEq] at hop'
  rw [← hop', ha.1, ha.2]
  exact ⟨Nat.le_refl _, Nat.le_refl _⟩

theorem programVerified_calls (j : Journal κ DeliveryCall) (address : U32) (page : List U8) (hp : page.length < 2 ^ 32)
    (hok : (programVerified (journaledFlash fl) j address page).2 = true) :
    j.Wrote [.program address.toNat page true, .read address.toNat page.length (some page)]
      (programVerified (journaledFlash fl) j address page).1 := by
  have hlength : (BitVec.ofNat 32 page.length).toNat = page.length := by
    rw [BitVec.toNat_ofNat, Nat.mod_eq_of_lt hp]
  unfold programVerified at hok ⊢
  dsimp only at hok ⊢
  split at hok
  · cases hok
  · next hprogram =>
    rw [if_neg hprogram]
    rw [Bool.not_eq_true', Bool.not_eq_false] at hprogram
    have hwrote := (Journal.call_wrote hprogram).trans (Journal.call_wrote (of_decide_eq_true hok))
    refine Eq.trans hwrote ?_
    rw [hlength]
    rfl

theorem pageCalls_keeps {address length : ℕ} {page bytes : List U8} (hp : page.length = length) {c : DeliveryCall}
    (hc : c ∈ pageCalls address page bytes) : c.Keeps address length := by
  rw [pageCalls, List.mem_cons, List.mem_cons, List.mem_singleton] at hc
  rcases hc with rfl | rfl | rfl
  · intro op hop
    cases hop
    exact ⟨Nat.le_refl _, by rw [hp]⟩
  · exact keeps_of_none rfl address length
  · exact keeps_of_none rfl address length

/-- Everything a flush can do. -/
inductive Flushed (j : Journal κ DeliveryCall) (s : Staging) (v : UpdateVerifier) :
    Journal κ DeliveryCall × Staging × UpdateVerifier × Bool → Prop
  | empty : s.page = [] → Flushed j s v (j, s, v, true)
  | failed {j' : Journal κ DeliveryCall} {v' : UpdateVerifier} : s.page ≠ [] →
      j.Adds (DeliveryCall.Keeps (s.base + s.offset).toNat s.pageBytes.toNat) j' → v.Same v' →
      Flushed j s v (j', (s.fail v').1, (s.fail v').2, false)
  | flushed {j' : Journal κ DeliveryCall} : s.page ≠ [] → v.Takes s.page →
      j.Wrote (pageCalls (s.base + s.offset).toNat (s.padded s.page) s.page) j' →
      Flushed j s v (j', { s with offset := s.offset + s.pageBytes, page := [] },
        { v with receivedBytes := v.receivedBytes + BitVec.ofNat 32 s.page.length }, true)

theorem flush_calls (j : Journal κ DeliveryCall) (s : Staging) (v : UpdateVerifier) :
    Flushed j s v (s.flush (journaledFlash fl) (journaledCrypto cr) j v) := by
  have hlength := s.length_padded s.page
  unfold flush
  split
  next hempty => exact .empty hempty
  next hpage =>
    have hframe := range_frame fl cr (s.base + s.offset).toNat s.pageBytes.toNat
    have hcalls := programVerified_calls fl j (s.base + s.offset) (s.padded s.page) (hlength ▸ s.pageBytes.isLt)
    have hadds : j.Adds (DeliveryCall.Keeps (s.base + s.offset).toNat s.pageBytes.toNat)
        (programVerified (journaledFlash fl) j (s.base + s.offset) (s.padded s.page)).1 :=
      programVerified_frame hframe j ⟨rfl, hlength⟩
    dsimp only
    generalize programVerified (journaledFlash fl) j (s.base + s.offset) (s.padded s.page) = p at hcalls hadds ⊢
    split
    · exact .failed hpage hadds (.refl v)
    next hok =>
      rw [Bool.not_eq_true', Bool.not_eq_false] at hok
      have hhash := verifier_write_frame hframe p.1 v s.page
      have hsame := UpdateVerifier.write_same (journaledCrypto cr) p.1 v s.page
      have hwritten := UpdateVerifier.write_written (journaledCrypto cr) p.1 v s.page
      generalize v.write (journaledCrypto cr) p.1 s.page = w at hhash hsame hwritten ⊢
      cases hwritten with
      | failed k' => exact .failed hpage (hadds.trans hhash) hsame
      | taken htakes hupdate =>
        exact .flushed hpage htakes ((hcalls hok).trans (Journal.call_wrote hupdate))

/-- What `init` checks, the size of the page buffer included. -/
structure Checked (s : Staging) : Prop extends Geometry s where
  page_max : s.pageBytes.toNat ≤ 512

theorem Checked.of_sameSlot {s t : Staging} (h : SameSlot s t) (hg : Checked s) : Checked t :=
  ⟨hg.toGeometry.of_sameSlot h, by rw [h.pageBytes]; exact hg.page_max⟩

/-- A staging between two calls of a session that has not failed. -/
structure Live (s : Staging) (v : UpdateVerifier) : Prop extends Fits s v where
  active : s.active = true
  hasVerifier : s.hasVerifier = true
  verifier : v.active = true
  received : v.receivedBytes = s.offset

/-- From `s` and `v` to `s'` and `v'` these full pages were written. -/
structure Streamed (s : Staging) (v : UpdateVerifier) (data : List U8) (pages : List (List U8)) (s' : Staging)
    (v' : UpdateVerifier) : Prop where
  slot : SameSlot s s'
  full : ∀ page ∈ pages, page.length = s.pageBytes.toNat
  bytes : s.page ++ data = pages.flatten ++ s'.page
  offset : s'.offset.toNat = s.offset.toNat + pages.length * s.pageBytes.toNat
  verifier : v' = { v with receivedBytes := v'.receivedBytes }

theorem padded_congr {s t : Staging} (h : SameSlot s t) (bytes : List U8) : t.padded bytes = s.padded bytes := by
  rw [padded, padded, h.pageBytes]

theorem imageCalls_congr {s t : Staging} (h : SameSlot s t) : ∀ (offset : ℕ) (pages : List (List U8)),
    imageCalls t offset pages = imageCalls s offset pages
  | _, [] => rfl
  | offset, bytes :: pages => by
    rw [imageCalls, imageCalls, imageCalls_congr h _ pages, padded_congr h, h.base, h.pageBytes]

theorem Streamed.refl (s : Staging) (v : UpdateVerifier) : Streamed s v [] [] s v where
  slot := .refl s
  full _ hp := by cases hp
  bytes := List.append_nil _
  offset := by rw [List.length_nil, Nat.zero_mul, Nat.add_zero]
  verifier := rfl

/-- Pages written after pages. -/
theorem Streamed.trans {s t u : Staging} {v w x : UpdateVerifier} {data data' : List U8} {pages pages' : List (List U8)}
    (h : Streamed s v data pages t w) (h' : Streamed t w data' pages' u x) :
    Streamed s v (data ++ data') (pages ++ pages') u x where
  slot := h.slot.trans h'.slot
  full page hp := by
    rcases List.mem_append.1 hp with hp | hp
    · exact h.full page hp
    · exact (h'.full page hp).trans (congrArg BitVec.toNat h.slot.pageBytes)
  bytes := by rw [← List.append_assoc, h.bytes, List.append_assoc, h'.bytes, List.flatten_append, List.append_assoc]
  offset := by rw [h'.offset, h.offset, h.slot.pageBytes, List.length_append, Nat.add_mul, Nat.add_assoc]
  verifier := by rw [h'.verifier, h.verifier]

/-- Bytes that do not fill the page. -/
theorem Live.fill {s : Staging} {v : UpdateVerifier} (h : Live s v) (bytes : List U8)
    (hpage : s.page.length + bytes.length < s.pageBytes.toNat)
    (hroom : s.offset.toNat + s.page.length + bytes.length ≤ v.manifest.imageSize.toNat) : Live (s.fill bytes) v where
  page_offset := h.page_offset
  written := by
    rw [Staging.fill, List.length_append]
    dsimp only
    omega
  image_capacity := h.image_capacity
  page_room := by
    rw [Staging.fill, List.length_append]
    exact hpage
  active := h.active
  hasVerifier := h.hasVerifier
  verifier := h.verifier
  received := h.received

/-- A full page that was flushed. -/
theorem Live.flushed {s : Staging} {v : UpdateVerifier} (hg : Checked s) (h : Live s v) {bytes : List U8}
    (hpage : s.page.length + bytes.length = s.pageBytes.toNat)
    (hroom : s.offset.toNat + s.page.length + bytes.length ≤ v.manifest.imageSize.toNat) :
    let t : Staging := { s.fill bytes with offset := s.offset + s.pageBytes, page := [] }
    let w : UpdateVerifier := { v with receivedBytes := v.receivedBytes + BitVec.ofNat 32 (s.page ++ bytes).length }
    Live t w ∧ Streamed s v bytes [s.page ++ bytes] t w := by
  have hsize := v.manifest.imageSize.isLt
  have hlength : (s.page ++ bytes).length = s.pageBytes.toNat := by rw [List.length_append, hpage]
  have hoffset : (s.offset + s.pageBytes).toNat = s.offset.toNat + s.pageBytes.toNat := by
    rw [BitVec.toNat_add]
    exact Nat.mod_eq_of_lt (by omega)
  have hdvd := h.page_offset
  have hcap := h.image_capacity
  refine ⟨⟨⟨⟨?_, ?_, hcap⟩, hg.page_pos⟩, h.active, h.hasVerifier, h.verifier, ?_⟩, ⟨⟨rfl, rfl, rfl, rfl, rfl⟩, ?_, ?_, ?_, rfl⟩⟩
  · dsimp only [Staging.fill]
    rw [hoffset]
    exact Nat.dvd_add hdvd (Nat.dvd_refl _)
  · dsimp only
    rw [hoffset, List.length_nil]
    omega
  · dsimp only
    rw [hlength, h.received, BitVec.ofNat_toNat, BitVec.setWidth_eq]
  · intro page hp
    rw [List.mem_singleton.1 hp, hlength]
  · simp
  · dsimp only
    rw [hoffset, List.length_singleton, Nat.one_mul]

theorem writeLoop_calls : ∀ (turns : ℕ) {s : Staging} (_ : Checked s) (j : Journal κ DeliveryCall) {v : UpdateVerifier}
    (_ : Live s v) (data : List U8), data.length ≤ turns →
    s.offset.toNat + s.page.length + data.length ≤ v.manifest.imageSize.toNat →
    let r := writeLoop (journaledFlash fl) (journaledCrypto cr) turns j s v data
    LoopExact (journaledFlash fl) (journaledCrypto cr) turns j s v data ∧
      j.Adds (DeliveryCall.Keeps s.base.toNat s.capacity.toNat) r.1 ∧
      (r.2.2.2 = true → ∃ pages, Streamed s v data pages r.2.1 r.2.2.1 ∧ Live r.2.1 r.2.2.1 ∧
        j.Wrote (imageCalls s s.offset.toNat pages) r.1)
  | 0, s, hg, j, v, hl, data, hturns, hroom => by
    have hnil := List.length_eq_zero_iff.1 (Nat.le_zero.1 hturns)
    subst hnil
    exact ⟨trivial, .refl _ j, fun _ => ⟨[], .refl s v, hl, .refl j⟩⟩
  | turns + 1, s, hg, j, v, hl, data, hturns, hroom => by
    unfold writeLoop LoopExact
    by_cases hnil : data = []
    · simp only [if_pos hnil]
      exact ⟨.inl hnil, .refl _ j, fun _ => ⟨[], hnil ▸ .refl s v, hl, .refl j⟩⟩
    simp only [if_neg hnil]
    have hpos := List.length_pos_iff.2 hnil
    have hpr := hl.page_room
    have hcap := hl.image_capacity
    have hend := hg.base_capacity
    have hmax := hg.page_max
    generalize hn : min data.length (s.pageBytes.toNat - s.page.length) = n
    have htake : (data.take n).length = n := by rw [List.length_take]; omega
    have hdrop : (data.drop n).length = data.length - n := List.length_drop
    have hlength : (s.fill (data.take n)).page.length = s.page.length + n := by
      rw [fill, List.length_append, htake]
    have hst : SameSlot s (s.fill (data.take n)) := ⟨rfl, rfl, rfl, rfl, rfl⟩
    have hpb : (s.fill (data.take n)).pageBytes = s.pageBytes := rfl
    have hsplit : data = data.take n ++ data.drop n := (List.take_append_drop n data).symm
    have hle : s.page.length ≤ s.pageBytes.toNat := Nat.le_of_lt hpr
    have h16 : (s.fill (data.take n)).page.length < 2 ^ 16 := by omega
    by_cases hfull : (s.fill (data.take n)).page.length = (s.fill (data.take n)).pageBytes.toNat
    · -- the page is full
      simp only [if_pos hfull]
      have hfull' : s.page.length + (data.take n).length = s.pageBytes.toNat := by rw [htake, ← hlength, hfull, hpb]
      have hroom' : s.offset.toNat + s.page.length + (data.take n).length ≤ v.manifest.imageSize.toNat := by omega
      have hne : (s.fill (data.take n)).page ≠ [] := by
        rw [← List.length_pos_iff]
        omega
      have hwithin : Within (s.fill (data.take n)) v :=
        ⟨hl.page_offset, by rw [hlength]; dsimp only [fill]; omega, hcap⟩
      obtain ⟨haddress, hinside⟩ := page_inside (s := s.fill (data.take n))
        (hg.toGeometry.of_sameSlot hst) hwithin hne
      have hexact : (s.fill (data.take n)).FlushExact v := by
        refine .inr ⟨by omega, ?_, ?_⟩
        · dsimp only [fill] at hinside ⊢
          omega
        · rw [hl.received, hlength]
          omega
      have hkeeps : ∀ c, DeliveryCall.Keeps ((s.fill (data.take n)).base + (s.fill (data.take n)).offset).toNat
          (s.fill (data.take n)).pageBytes.toNat c → DeliveryCall.Keeps s.base.toNat s.capacity.toNat c := by
        intro c hc op hop
        have hc := hc op hop
        rw [haddress] at hc
        dsimp only [fill] at hc hinside
        omega
      obtain ⟨hlive, hstreamed⟩ := hl.flushed hg hfull' hroom'
      have hflushed := flush_calls fl cr j (s.fill (data.take n)) v
      generalize (s.fill (data.take n)).flush (journaledFlash fl) (journaledCrypto cr) j v = f at hflushed ⊢
      cases hflushed with
      | empty he => exact absurd he hne
      | failed _ hadds => exact ⟨.inr ⟨hle, h16, hexact, fun h => by cases h⟩, hadds.mono hkeeps, fun h => by cases h⟩
      | @flushed j' _ _ hwrote =>
        simp only [Bool.not_true, Bool.false_eq_true, if_false]
        have hslot := hstreamed.slot
        obtain ⟨hloop, hadds, hok⟩ := writeLoop_calls turns (hg.of_sameSlot hslot) j' hlive (data.drop n) (by omega) (by
          have := hstreamed.offset
          rw [List.length_singleton, Nat.one_mul] at this
          rw [this, hdrop, List.length_nil]
          dsimp only
          omega)
        refine ⟨.inr ⟨hle, h16, hexact, fun _ => hloop⟩, ?_, fun h => ?_⟩
        · refine Journal.Adds.trans (hwrote.adds fun c hc => hkeeps c ?_) hadds
          exact pageCalls_keeps (length_padded _ _) hc
        · obtain ⟨pages, hs, hl', hw⟩ := hok h
          have hs' := hstreamed.trans hs
          rw [← hsplit] at hs'
          refine ⟨_ :: pages, hs', hl', ?_⟩
          rw [imageCalls_congr hslot, hstreamed.offset, List.length_singleton, Nat.one_mul] at hw
          rw [haddress] at hwrote
          exact hwrote.trans hw
    · simp only [if_neg hfull]
      rw [hlength, hpb] at hfull
      obtain ⟨hloop, hadds, hok⟩ := writeLoop_calls turns (s := s.fill (data.take n)) (hg.of_sameSlot hst) j
        (hl.fill (data.take n) (by omega) (by omega)) (data.drop n) (by omega) (by
          rw [hlength, hdrop]
          dsimp only [fill]
          omega)
      refine ⟨.inr ⟨hle, h16, hloop⟩, hadds, fun h => ?_⟩
      obtain ⟨pages, hs, hl', hw⟩ := hok h
      rw [imageCalls_congr hst] at hw
      refine ⟨pages, ⟨hst.trans hs.slot, hs.full, ?_, hs.offset, hs.verifier⟩, hl', hw⟩
      rw [← hs.bytes]
      dsimp only [fill]
      rw [List.append_assoc, List.take_append_drop]

/-- A live staging takes what the image has room for. -/
theorem Live.write_eq {s : Staging} {v : UpdateVerifier} (h : Live s v) {μ : Type} (fl : FlashDriver μ) (cr : UpdateCrypto μ)
    (k : μ) {data : List U8} (hd : data ≠ [])
    (hroom : s.offset.toNat + s.page.length + data.length ≤ v.manifest.imageSize.toNat) :
    s.write fl cr k v data = writeLoop fl cr data.length k s v data := by
  have hsize := v.manifest.imageSize.isLt
  have hpos := List.length_pos_iff.2 hd
  have hbuffered : s.buffered.toNat = s.page.length := by
    rw [buffered, BitVec.toNat_ofNat]
    exact Nat.mod_eq_of_lt (by omega)
  have hlength : (BitVec.ofNat 32 data.length).toNat = data.length := by
    rw [BitVec.toNat_ofNat]
    exact Nat.mod_eq_of_lt (by omega)
  have hle : s.offset ≤ v.manifest.imageSize := by
    rw [BitVec.le_def]
    omega
  have hle' : s.buffered ≤ v.manifest.imageSize - s.offset := by
    rw [BitVec.le_def, BitVec.toNat_sub_of_le hle]
    omega
  unfold write
  refine if_neg ?_
  simp only [h.active, Bool.or_eq_true, decide_eq_true_eq, not_or, BitVec.not_lt, Bool.not_true,
    Bool.false_eq_true, not_false_eq_true, true_and]
  refine ⟨⟨⟨fun h0 => ?_, hle⟩, hle'⟩, ?_⟩
  · rw [h0] at hlength
    have : (0 : U32).toNat = 0 := rfl
    omega
  · rw [BitVec.le_def, BitVec.toNat_sub_of_le hle', BitVec.toNat_sub_of_le hle]
    omega

/-- An erase of the manifest sector or in the image region. -/
def ErasesSlot (s : Staging) (c : DeliveryCall) : Prop :=
  ∃ address length ok, c = .erase address length ok ∧
    (address = s.manifestBase.toNat ∧ length = s.sectorBytes.toNat ∨ address = s.base.toNat ∧ length ≤ s.capacity.toNat)

/-- Everything a start can do. -/
inductive Started (j : Journal κ DeliveryCall) (s : Staging) (v : UpdateVerifier) :
    Journal κ DeliveryCall × Staging × UpdateVerifier × Bool → Prop
  | refused : Started j s v (j, s, v, false)
  | failed {j' : Journal κ DeliveryCall} {s' : Staging} {v' : UpdateVerifier} :
      j.Adds s.ErasesSlot j' → Started j s v (j', s', v', false)
  | started {j' : Journal κ DeliveryCall} : v.active = true → 0 < v.manifest.imageSize.toNat →
      v.manifest.imageSize.toNat ≤ s.capacity.toNat →
      j.Wrote [.erase s.manifestBase.toNat s.sectorBytes.toNat true,
        .erase s.base.toNat (s.eraseBytes v.manifest.imageSize).toNat true] j' →
      Started j s v (j', { s with hasVerifier := true, offset := 0, page := [], active := true }, v, true)

/-- The sum and the product of a start do not wrap where they are computed. -/
theorem startExact {s : Staging} (hg : Checked s) {v : UpdateVerifier}
    (hi : v.manifest.imageSize.toNat ≤ s.capacity.toNat) : StartExact s v := by
  have hend := hg.base_capacity
  have hbase := hg.base_eq
  have hmax : v.manifest.imageSize.toNat + s.sectorBytes.toNat < 2 ^ 32 := by omega
  obtain ⟨herase, -⟩ := erase_inside hg.toGeometry hi hmax
  exact ⟨hg.sector_pos, hmax, herase ▸ (s.eraseBytes v.manifest.imageSize).isLt⟩

theorem start_calls {s : Staging} (hg : Checked s) (j : Journal κ DeliveryCall) (v : UpdateVerifier) :
    Started j s v (s.start (journaledFlash fl) j v) := by
  unfold start
  split
  · exact .refused
  · next hc =>
    simp only [Bool.or_eq_true, Bool.not_eq_true', decide_eq_true_eq, not_or, BitVec.not_lt, Bool.not_eq_false] at hc
    obtain ⟨⟨⟨⟨⟨-, hactive⟩, -⟩, hpos⟩, hcap⟩, -⟩ := hc
    have hcap : v.manifest.imageSize.toNat ≤ s.capacity.toNat := hcap
    have hpos : 0 < v.manifest.imageSize.toNat :=
      Nat.pos_of_ne_zero fun h0 => hpos (BitVec.eq_of_toNat_eq h0)
    obtain ⟨-, hmax, -⟩ := startExact hg hcap
    obtain ⟨-, hinside⟩ := erase_inside hg.toGeometry hcap hmax
    have hmanifest : j.Adds s.ErasesSlot ((journaledFlash fl).erase j s.manifestBase s.sectorBytes).1 :=
      Journal.call_adds fun ok => ⟨_, _, ok, rfl, .inl ⟨rfl, rfl⟩⟩
    have himage (j : Journal κ DeliveryCall) :
        j.Adds s.ErasesSlot ((journaledFlash fl).erase j s.base (s.eraseBytes v.manifest.imageSize)).1 :=
      Journal.call_adds fun ok => ⟨_, _, ok, rfl, .inr ⟨rfl, hinside⟩⟩
    dsimp only
    split
    · exact .failed hmanifest
    · next hm =>
      rw [Bool.not_eq_true', Bool.not_eq_false] at hm
      split
      · exact .failed (hmanifest.trans (himage _))
      · next hi =>
        rw [Bool.not_eq_true', Bool.not_eq_false] at hi
        exact .started hactive hpos hcap ((Journal.call_wrote hm).trans (Journal.call_wrote hi))

/-- The page that a finish flushes. -/
def lastPage (s : Staging) : List (List U8) := if s.page = [] then [] else [s.page]

/-- The manifest as it is programmed, and nothing changed after it. -/
structure Commits (s : Staging) (wire : ManifestWire) (calls : List DeliveryCall) : Prop where
  program : ∃ ok rest, calls = .program s.manifestBase.toNat (s.padded wire.bytes) ok :: rest ∧
    ∀ c ∈ rest, c.changes = none

/-- Everything a finish can do. -/
inductive Finished (j : Journal κ DeliveryCall) (s : Staging) (v : UpdateVerifier) :
    Journal κ DeliveryCall × Staging × UpdateVerifier × Bool → Prop
  | failed {j' : Journal κ DeliveryCall} {s' : Staging} {v' : UpdateVerifier} :
      j.Adds (DeliveryCall.Keeps s.base.toNat s.capacity.toNat) j' → Finished j s v (j', s', v', false)
  | uncommitted {j' : Journal κ DeliveryCall} {s' : Staging} {v' : UpdateVerifier} {commit : List DeliveryCall} :
      Commits s v.manifestWire commit →
      j.Wrote (imageCalls s s.offset.toNat s.lastPage ++ .hashFinish (some v.manifest.digest) :: commit) j' →
      Finished j s v (j', s', v', false)
  | finished {j' : Journal κ DeliveryCall} {s' : Staging} {v' : UpdateVerifier} : v.Same v' →
      j.Wrote (imageCalls s s.offset.toNat s.lastPage ++ .hashFinish (some v.manifest.digest) ::
        [.program s.manifestBase.toNat (s.padded v.manifestWire.bytes) true,
          .read s.manifestBase.toNat s.pageBytes.toNat (some (s.padded v.manifestWire.bytes))]) j' →
      Finished j s v (j', s', v', true)

theorem program_wrote (j : Journal κ DeliveryCall) (address : U32) (page : List U8) :
    j.Wrote [.program address.toNat page ((journaledFlash fl).program j address page).2]
      ((journaledFlash fl).program j address page).1 := Journal.call_wrote rfl

theorem read_wrote (j : Journal κ DeliveryCall) (address length : U32) :
    j.Wrote [.read address.toNat length.toNat ((journaledFlash fl).read j address length).2]
      ((journaledFlash fl).read j address length).1 := Journal.call_wrote rfl

/-- A manifest that is programmed is programmed first. -/
theorem programVerified_commits (j : Journal κ DeliveryCall) (s : Staging) (wire : ManifestWire) :
    ∃ calls, Commits s wire calls ∧
      j.Wrote calls (programVerified (journaledFlash fl) j s.manifestBase (s.padded wire.bytes)).1 := by
  unfold programVerified
  dsimp only
  split
  · exact ⟨_, ⟨_, [], rfl, fun c hc => by cases hc⟩, program_wrote fl j _ _⟩
  · refine ⟨_, ⟨_, [_], rfl, fun c hc => ?_⟩, (program_wrote fl j _ _).trans (read_wrote fl _ _ _)⟩
    rw [List.mem_singleton.1 hc]
    rfl

/-- The last page lies in the image region. -/
theorem Live.lastPage_keeps {s : Staging} {v : UpdateVerifier} (hg : Checked s) (hl : Live s v) {c : DeliveryCall}
    (hc : c ∈ imageCalls s s.offset.toNat s.lastPage) : c.Keeps s.base.toNat s.capacity.toNat := by
  unfold lastPage at hc
  split at hc
  · cases hc
  next hne =>
    obtain ⟨-, hinside⟩ := page_inside hg.toGeometry hl.toWithin hne
    rw [imageCalls, imageCalls, List.append_nil] at hc
    intro op hop
    have := pageCalls_keeps (length_padded _ _) hc op hop
    omega

theorem Commits.of_sameSlot {s t : Staging} (h : SameSlot s t) {wire : ManifestWire} {calls : List DeliveryCall}
    (hc : Commits t wire calls) : Commits s wire calls := by
  obtain ⟨ok, rest, hcalls, hrest⟩ := hc
  refine ⟨ok, rest, ?_, hrest⟩
  rw [hcalls, h.manifestBase, padded_congr h]

/-- What a flush leaves before a digest is asked for. -/
theorem Flushed.answered {s : Staging} {v : UpdateVerifier} (hg : Checked s) (hl : Live s v)
    {j : Journal κ DeliveryCall} {r : Journal κ DeliveryCall × Staging × UpdateVerifier × Bool} (h : Flushed j s v r) :
    j.Adds (DeliveryCall.Keeps s.base.toNat s.capacity.toNat) r.1 ∧
      (r.2.2.2 = true → j.Wrote (imageCalls s s.offset.toNat s.lastPage) r.1 ∧ SameSlot s r.2.1 ∧ v.Same r.2.2.1 ∧
        r.2.2.1.manifestWire = v.manifestWire) := by
  have hkeeps : s.page ≠ [] → ∀ c, DeliveryCall.Keeps (s.base + s.offset).toNat s.pageBytes.toNat c →
      DeliveryCall.Keeps s.base.toNat s.capacity.toNat c := by
    intro hne c hc op hop
    obtain ⟨haddress, hinside⟩ := page_inside hg.toGeometry hl.toWithin hne
    have hc := hc op hop
    rw [haddress] at hc
    omega
  cases h with
  | empty he =>
    rw [lastPage, if_pos he]
    exact ⟨.refl _ j, fun _ => ⟨.refl j, .refl s, .refl v, rfl⟩⟩
  | failed hne hadds => exact ⟨hadds.mono (hkeeps hne), fun h => by cases h⟩
  | flushed hne _ hwrote =>
    refine ⟨(hwrote.adds fun c hc => pageCalls_keeps (length_padded _ _) hc).mono (hkeeps hne), fun _ => ⟨?_, ?_, ?_, rfl⟩⟩
    · rw [lastPage, if_neg hne, imageCalls, imageCalls, List.append_nil,
        ← (page_inside hg.toGeometry hl.toWithin hne).1]
      exact hwrote
    · exact ⟨rfl, rfl, rfl, rfl, rfl⟩
    · exact ⟨rfl, rfl⟩

theorem finish_calls {s : Staging} (hg : Checked s) (j : Journal κ DeliveryCall) {v : UpdateVerifier} (hl : Live s v) :
    Finished j s v (s.finish (journaledFlash fl) (journaledCrypto cr) j v) := by
  unfold finish
  rw [hl.active]
  obtain ⟨hadds, hok⟩ := (flush_calls fl cr j s v).answered hg hl
  generalize s.flush (journaledFlash fl) (journaledCrypto cr) j v = f at hadds hok ⊢
  obtain ⟨k, t, w, ok⟩ := f
  cases ok with
  | false => exact .failed hadds
  | true =>
    obtain ⟨hwrote, hslot, hsame, hwire⟩ := hok rfl
    simp only [Bool.not_true, Bool.false_eq_true, if_false]
    have hfinished := UpdateVerifier.finish_finished (journaledCrypto cr) k w
    have hframe := verifier_finish_frame (range_frame fl cr s.base.toNat s.capacity.toNat) k w
    generalize w.finish (journaledCrypto cr) k = d at hfinished hframe ⊢
    cases hfinished with
    | failed => exact .failed (hadds.trans hframe)
    | mismatch => exact .failed (hadds.trans hframe)
    | matched _ _ hdigest =>
      simp only [Bool.not_true, Bool.false_eq_true, if_false]
      have hpadded : t.padded w.manifestWire.bytes = s.padded v.manifestWire.bytes := by
        rw [hwire, padded_congr hslot]
      rw [hpadded, hslot.manifestBase]
      rw [hsame.manifest] at hdigest
      have hwrote' := hwrote.trans (Journal.call_wrote hdigest)
      have hlength := s.length_padded v.manifestWire.bytes
      obtain ⟨calls, hcommits, hcalls⟩ := programVerified_commits fl ((journaledCrypto cr).hashFinish k).1 s v.manifestWire
      have hprogrammed := programVerified_calls fl ((journaledCrypto cr).hashFinish k).1 s.manifestBase
        (s.padded v.manifestWire.bytes) (hlength ▸ s.pageBytes.isLt)
      generalize programVerified (journaledFlash fl) ((journaledCrypto cr).hashFinish k).1 s.manifestBase
        (s.padded v.manifestWire.bytes) = p at hcalls hprogrammed ⊢
      obtain ⟨k', ok⟩ := p
      cases ok with
      | false =>
        refine .uncommitted hcommits ((hwrote'.trans hcalls).trans_eq ?_)
        rw [List.append_assoc, List.singleton_append]
      | true =>
        refine .finished ⟨hsame.manifest, hsame.platform⟩ ((hwrote'.trans (hprogrammed rfl)).trans_eq ?_)
        rw [List.append_assoc, hlength]
        rfl

end Staging

end OpenRef.Update
