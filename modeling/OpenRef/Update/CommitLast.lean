import Mathlib.Data.List.Basic
import OpenRef.Lib.Run
import OpenRef.Update.Approval
import OpenRef.Update.DeliveryTrace
/-!
# The manifest is committed last

A delivery over stagings that were initialised takes any messages, over callbacks that answer anything.

`confined_commits_last`: every erase and program lies in the manifest sector or the image region of the slot that does not
run; sums do not wrap; a page is programmed only in a session that erased the manifest sector first; and the manifest is
programmed only by the finish that ends a session whose chunks cover the image, after all pages were read back and the
digest matched.
-/

namespace OpenRef.Update

open Staging (Checked Live Streamed SameSlot imageCalls)

variable {κ : Type}

/-! ## Sessions -/

/-- The slot that does not run. -/
def UpdateDelivery.inactive (d : UpdateDelivery) : Staging := d.slot (if d.runningSlot = 0 then 1 else 0)

/-- A range in the manifest sector or in the image region of the slot that does not run, outside the executing image. -/
structure UpdateDelivery.Confines (d : UpdateDelivery) (op : FlashOp) : Prop where
  slot : (d.inactive.manifestBase.toNat ≤ op.address ∧
      op.address + op.length ≤ d.inactive.manifestBase.toNat + d.inactive.sectorBytes.toNat) ∨
    (d.inactive.base.toNat ≤ op.address ∧ op.address + op.length ≤ d.inactive.base.toNat + d.inactive.capacity.toNat)
  executing : ∀ x, op.Touches x →
    ¬ (d.executingImageBase.toNat ≤ x ∧ x < d.executingImageBase.toNat + d.executingImageCapacity.toNat)

/-- What an image of this size erases, in whole sectors. -/
def Staging.eraseLength (s : Staging) (imageSize : ℕ) : ℕ :=
  (imageSize + s.sectorBytes.toNat - 1) / s.sectorBytes.toNat * s.sectorBytes.toNat

/-- The begin of a session: the manifest is permitted and signed, and the manifest sector is erased before the image. -/
structure Opens (d : UpdateDelivery) (id : U32) (wire : ManifestWire) (b : DeliveryStep) : Prop where
  message : ∃ target now, b.message = .begin id target wire now
  answer : b.answer = .result .ok
  framed : wire.framed = true
  permits : d.verifier.platform.permits wire.manifest = true
  calls : b.calls = [.verifySignature (wire.field 0 80 (by decide)) wire.manifest.keyId (wire.field 80 64 (by decide)) true,
    .hashBegin true, .erase d.inactive.manifestBase.toNat d.inactive.sectorBytes.toNat true,
    .erase d.inactive.base.toNat (d.inactive.eraseLength wire.manifest.imageSize.toNat) true]

/-- A step that leaves a session alone: a begin that is rejected, or a poll before the timeout. -/
structure DeliveryStep.Passes (s : DeliveryStep) : Prop where
  calls : s.calls = []
  answer : (∃ id target wire now, s.message = .begin id target wire now ∧ s.answer = .result .rejected) ∨
    (∃ now, s.message = .poll now ∧ s.answer = .polled false)

/-- The steps of a session after its begin, and its chunks. Each chunk names the number of chunks and of bytes before it. -/
inductive Session (id : U32) : List DeliveryStep → List (List U8) → Prop
  | opened : Session id [] []
  | passed {steps : List DeliveryStep} {chunks : List (List U8)} {s : DeliveryStep} : Session id steps chunks → s.Passes →
      Session id (steps ++ [s]) chunks
  | chunk {steps : List DeliveryStep} {chunks : List (List U8)} {s : DeliveryStep} {sequence offset : U32} {data : List U8}
      {now : U32} : Session id steps chunks → s.message = .chunk id sequence offset data now →
      sequence.toNat = chunks.length → offset.toNat = chunks.flatten.length → data ≠ [] → s.answer = .result .ok →
      Session id (steps ++ [s]) (chunks ++ [data])

/-- The pages of an image: all full but the last. -/
structure Paged (n : ℕ) (image : List U8) (pages : List (List U8)) : Prop where
  flatten : pages.flatten = image
  bounded : ∀ page ∈ pages, page ≠ [] ∧ page.length ≤ n
  full : ∀ page ∈ pages.dropLast, page.length = n

/-- A program happens in a session, which erased the manifest sector first. -/
def ErasedFirst (d : UpdateDelivery) (past : List DeliveryStep) (s : DeliveryStep) : Prop :=
  ∀ address page ok, .program address page ok ∈ s.calls → ∃ before b steps id wire chunks,
    past = before ++ b :: steps ∧ Opens d id wire b ∧ Session id steps chunks

/-- The session that a finish commits: its chunks cover the image, every page was programmed, read back and hashed in
order, and the digest was the signed one. -/
structure Commit (d : UpdateDelivery) (past : List DeliveryStep) (s : DeliveryStep) (pre : List DeliveryCall)
    (address : ℕ) (page : List U8) : Prop where
  session : ∃ before b steps id wire chunks pages sequence now, past = before ++ b :: steps ∧ Opens d id wire b ∧
    Session id steps chunks ∧ s.message = .finish id sequence now ∧ sequence.toNat = chunks.length ∧
    chunks.flatten.length = wire.manifest.imageSize.toNat ∧
    Paged d.inactive.pageBytes.toNat chunks.flatten pages ∧
    steps.flatMap DeliveryStep.calls ++ pre =
      Staging.imageCalls d.inactive 0 pages ++ [.hashFinish (some wire.manifest.digest)] ∧
    address = d.inactive.manifestBase.toNat ∧ page = d.inactive.padded wire.bytes

/-- The manifest sector is programmed only by a finish that commits a session. -/
def CommitsLast (d : UpdateDelivery) (past : List DeliveryStep) (s : DeliveryStep) : Prop :=
  ∀ pre address page ok post, s.calls = pre ++ .program address page ok :: post →
    address < d.inactive.manifestBase.toNat + d.inactive.sectorBytes.toNat → Commit d past s pre address page

/-- No address and no size that a message computes wraps. -/
def NoWrap (be : DeliveryBackend κ) (w : DeliveryRun κ) : DeliveryMessage → Prop
  | .begin session target wire _ =>
    let v := w.delivery.verifier.begin be.journaled.crypto ⟨w.context, []⟩ wire
    w.delivery.admits session target = true → v.2.2 = true →
      v.2.1.manifest.imageSize ≤ (w.delivery.slot target).capacity → (w.delivery.slot target).StartExact v.2.1
  | .chunk _ _ _ data _ =>
    let s := w.delivery.slot w.delivery.targetSlot
    w.delivery.active = true → data ≠ [] →
      w.delivery.acceptedBytes.toNat + data.length ≤ w.delivery.verifier.manifest.imageSize.toNat →
      w.delivery.nextSequence.toNat + 1 < 2 ^ 32 ∧
        s.offset.toNat + s.page.length + data.length ≤ w.delivery.verifier.manifest.imageSize.toNat ∧
        Staging.LoopExact be.journaled.flash be.journaled.crypto data.length ⟨w.context, []⟩ s w.delivery.verifier data
  | .finish _ _ _ =>
    w.delivery.active = true → (w.delivery.slot w.delivery.targetSlot).FlushExact w.delivery.verifier
  | .poll _ => True
  | .reset => True

/-- The ends of the regions that `init` compares do not wrap. -/
structure RegionsExact (d : UpdateDelivery) : Prop where
  slots : ∀ t, t < 2 → (d.slot t).manifestBase.toNat + (d.slot t).sectorBytes.toNat < 2 ^ 32 ∧
    (d.slot t).base.toNat + (d.slot t).capacity.toNat < 2 ^ 32
  executing : d.executingImageBase.toNat + d.executingImageCapacity.toNat < 2 ^ 32

/-! ## The layout -/

/-- What `init` checks. -/
structure Layout (d : UpdateDelivery) : Prop where
  running : d.runningSlot < 2
  checked : ∀ t, t < 2 → Checked (d.slot t)
  executing : d.executingImageBase.toNat + d.executingImageCapacity.toNat < 2 ^ 32
  sector_apart : d.inactive.manifestBase.toNat + d.inactive.sectorBytes.toNat ≤ d.executingImageBase.toNat ∨
    d.executingImageBase.toNat + d.executingImageCapacity.toNat ≤ d.inactive.manifestBase.toNat
  image_apart : d.inactive.base.toNat + d.inactive.capacity.toNat ≤ d.executingImageBase.toNat ∨
    d.executingImageBase.toNat + d.executingImageCapacity.toNat ≤ d.inactive.base.toNat

theorem Staging.init_checked {manifestBase base capacity sector page : U32} {s : Staging}
    (h : Staging.init manifestBase base capacity sector page = some s) : Checked s := by
  refine ⟨(Staging.init_some h).2, ?_⟩
  have hs := (Staging.init_some h).1
  unfold Staging.init at h
  split at h
  · cases h
  · next hc =>
    simp only [Bool.or_eq_true, decide_eq_true_eq, not_or] at hc
    have hmax : ¬ updateMaxPageBytes < page := hc.1.1.1.1.1.1.1.2
    rw [hs]
    exact Nat.le_of_not_lt hmax

theorem region_fits {base size : U32} (h : region base size = true) : base.toNat + size.toNat < 2 ^ 32 := by
  simp only [region, Bool.and_eq_true, decide_eq_true_eq] at h
  have hmax : uint32Max.toNat = 4294967295 := rfl
  have hle : base.toNat ≤ (uint32Max - size).toNat := h.2
  have := size.isLt
  rw [BitVec.toNat_sub, hmax] at hle
  omega

/-- Ranges that do not wrap and do not overlap lie apart. -/
theorem overlaps_apart {a an b bn : U32} (ha : a.toNat + an.toNat < 2 ^ 32) (hb : b.toNat + bn.toNat < 2 ^ 32)
    (h : overlaps a an b bn = false) : a.toNat + an.toNat ≤ b.toNat ∨ b.toNat + bn.toNat ≤ a.toNat := by
  have hsum {x y : U32} (hx : x.toNat + y.toNat < 2 ^ 32) : (x + y).toNat = x.toNat + y.toNat := by
    rw [BitVec.toNat_add, Nat.mod_eq_of_lt hx]
  rw [overlaps, Bool.and_eq_false_iff, decide_eq_false_iff_not, decide_eq_false_iff_not, BitVec.lt_def, BitVec.lt_def,
    hsum ha, hsum hb] at h
  omega

theorem init_layout {a b : Staging} {running : U8} {executingBase executingCapacity timeout : U32}
    {platform : UpdatePlatform} {d : UpdateDelivery} (ha : Checked a) (hb : Checked b)
    (h : UpdateDelivery.init a b running executingBase executingCapacity timeout platform = some d) : Layout d := by
  unfold UpdateDelivery.init at h
  split at h
  · cases h
  next hc =>
    simp only [Bool.or_eq_true, decide_eq_true_eq, not_or, Bool.not_eq_true', Bool.not_eq_false, Bool.not_eq_true] at hc
    obtain ⟨⟨⟨⟨⟨⟨⟨⟨⟨⟨⟨hrun, -⟩, -⟩, hexec⟩, ham⟩, hai⟩, hbm⟩, hbi⟩, -⟩, -⟩, -⟩, -⟩ := hc
    cases hv : UpdateVerifier.init platform with
    | none =>
      rw [hv] at h
      cases h
    | some v =>
      rw [hv] at h
      obtain ⟨happart, h⟩ := Option.ite_none_left_eq_some.1 h
      rw [Bool.or_eq_true, not_or, Bool.not_eq_true, Bool.not_eq_true] at happart
      have hexec := region_fits hexec
      have hslots : d.slotA = a ∧ d.slotB = b ∧ d.runningSlot = running ∧ d.executingImageBase = executingBase ∧
          d.executingImageCapacity = executingCapacity := by
        cases h
        exact ⟨rfl, rfl, rfl, rfl, rfl⟩
      obtain ⟨hsa, hsb, hsr, hsx, hsc⟩ := hslots
      have hinactive : d.inactive = if running = 0 then b else a := by
        rw [UpdateDelivery.inactive, hsr, UpdateDelivery.slot, hsa, hsb]
        by_cases h0 : running = 0
        · rw [if_pos h0, if_pos h0, if_neg (by decide)]
        · rw [if_neg h0, if_neg h0, if_pos rfl]
      have hregions : Checked d.inactive ∧ d.inactive.manifestBase.toNat + d.inactive.sectorBytes.toNat < 2 ^ 32 := by
        rw [hinactive]
        split
        · exact ⟨hb, region_fits hbm⟩
        · exact ⟨ha, region_fits ham⟩
      rw [← hinactive] at happart
      refine ⟨hsr ▸ BitVec.not_le.1 hrun, fun t _ => ?_, by rw [hsx, hsc]; exact hexec, ?_, ?_⟩
      · unfold UpdateDelivery.slot
        split
        · rw [hsa]
          exact ha
        · rw [hsb]
          exact hb
      · rw [hsx, hsc]
        exact overlaps_apart hregions.2 hexec happart.1
      · rw [hsx, hsc]
        exact overlaps_apart hregions.1.base_capacity hexec happart.2

/-- The two slots are 0 and 1. -/
theorem UpdateDelivery.slot_inactive {d : UpdateDelivery} (hr : d.runningSlot < 2) {t : U8} (ht : t < 2)
    (hne : t ≠ d.runningSlot) : d.slot t = d.inactive := by
  unfold inactive slot
  have hiff : t = 0 ↔ ¬ d.runningSlot = 0 := by
    constructor
    · rintro rfl h0
      exact hne h0.symm
    · intro h0
      by_contra ht0
      exact hne (slot_two ht hr ⟨fun h => absurd h ht0, fun h => absurd h h0⟩)
  by_cases h0 : d.runningSlot = 0
  · rw [if_pos h0, if_neg fun h => hiff.1 h h0, if_neg (by decide)]
  · rw [if_neg h0, if_pos (hiff.2 h0), if_pos rfl]

/-- What may be erased or programmed in the slot that does not run is confined. -/
theorem Layout.confines {d : UpdateDelivery} (h : Layout d) {c : DeliveryCall}
    (hc : c.Keeps d.inactive.manifestBase.toNat d.inactive.sectorBytes.toNat ∨
      c.Keeps d.inactive.base.toNat d.inactive.capacity.toNat) {op : FlashOp} (hop : c.changes = some op) :
    d.Confines op := by
  have hsector := h.sector_apart
  have himage := h.image_apart
  rcases hc with hc | hc
  · obtain ⟨hlo, hhi⟩ := hc op hop
    exact ⟨.inl ⟨hlo, hhi⟩, fun x ⟨hx, hx'⟩ => by omega⟩
  · obtain ⟨hlo, hhi⟩ := hc op hop
    exact ⟨.inr ⟨hlo, hhi⟩, fun x ⟨hx, hx'⟩ => by omega⟩

/-! ## One step -/

/-- What holds of every step. -/
structure StepGood (d : UpdateDelivery) (past : List DeliveryStep) (s : DeliveryStep) : Prop where
  confined : ∀ c ∈ s.calls, ∀ op, c.changes = some op → d.Confines op
  erasedFirst : ErasedFirst d past s
  commitsLast : CommitsLast d past s

/-- The calls before the manifest: nothing is programmed. -/
theorem StepGood.of_unprogrammed {d : UpdateDelivery} {past : List DeliveryStep} {s : DeliveryStep}
    (hconfined : ∀ c ∈ s.calls, ∀ op, c.changes = some op → d.Confines op)
    (hprogram : ∀ address page ok, .program address page ok ∉ s.calls) : StepGood d past s where
  confined := hconfined
  erasedFirst address page ok h := absurd h (hprogram address page ok)
  commitsLast pre address page ok post h := by
    refine absurd ?_ (hprogram address page ok)
    rw [h]
    exact List.mem_append_right _ List.mem_cons_self

theorem StepGood.of_unchanged {d : UpdateDelivery} {past : List DeliveryStep} {s : DeliveryStep}
    (h : ∀ c ∈ s.calls, c.changes = none) : StepGood d past s := by
  refine .of_unprogrammed (fun c hc op hop => ?_) fun address page ok hc => ?_
  · rw [h c hc] at hop
    cases hop
  · exact Option.some_ne_none _ (h _ hc)

/-- The calls of an erase that may have failed. -/
theorem StepGood.of_erases {d : UpdateDelivery} (hl : Layout d) {past : List DeliveryStep} {s : DeliveryStep}
    (h : ∀ c ∈ s.calls, c.changes = none ∨ d.inactive.ErasesSlot c) : StepGood d past s := by
  refine .of_unprogrammed (fun c hc op hop => ?_) fun address page ok hc => ?_
  · rcases h c hc with hnone | ⟨address, length, ok, rfl, hrange⟩
    · rw [hnone] at hop
      cases hop
    · refine hl.confines (c := .erase address length ok) ?_ hop
      rcases hrange with ⟨rfl, rfl⟩ | ⟨rfl, hle⟩
      · refine .inl fun op hop => ?_
        cases hop
        exact ⟨Nat.le_refl _, Nat.le_refl _⟩
      · refine .inr fun op hop => ?_
        cases hop
        exact ⟨Nat.le_refl _, Nat.add_le_add_left hle _⟩
  · rcases h _ hc with hnone | ⟨_, _, _, he, -⟩
    · cases hnone
    · cases he

/-- The delivery within a session that these steps, chunks and full pages make up so far. -/
structure InSession (d₀ : UpdateDelivery) (past : List DeliveryStep) (d : UpdateDelivery) (before : List DeliveryStep)
    (b : DeliveryStep) (steps : List DeliveryStep) (wire : ManifestWire) (chunks pages : List (List U8)) : Prop where
  past : past = before ++ b :: steps
  opens : Opens d₀ d.sessionId wire b
  session : Session d.sessionId steps chunks
  live : Live (d.slot d.targetSlot) d.verifier
  manifest : d.verifier.manifest = wire.manifest
  wire : d.verifier.manifestWire = wire
  sequence : d.nextSequence.toNat = chunks.length
  accepted : d.acceptedBytes.toNat = chunks.flatten.length
  full : ∀ page ∈ pages, page.length = d₀.inactive.pageBytes.toNat
  bytes : chunks.flatten = pages.flatten ++ (d.slot d.targetSlot).page
  offset : (d.slot d.targetSlot).offset.toNat = pages.length * d₀.inactive.pageBytes.toNat
  calls : steps.flatMap DeliveryStep.calls = imageCalls d₀.inactive 0 pages

/-- The invariant: a session that is active is made up by the steps since its begin. -/
structure Progress (d₀ : UpdateDelivery) (past : List DeliveryStep) (d : UpdateDelivery) : Prop
    extends UpdateDelivery.Sound d₀ d where
  session : d.active = true → ∃ before b steps wire chunks pages,
    InSession d₀ past d before b steps wire chunks pages

variable {d₀ : UpdateDelivery} {past : List DeliveryStep}

/-- The calls in the image region, within a session. -/
theorem StepGood.of_pages (hl : Layout d₀) {d : UpdateDelivery} {before steps : List DeliveryStep} {b : DeliveryStep}
    {wire : ManifestWire} {chunks pages : List (List U8)} (hin : InSession d₀ past d before b steps wire chunks pages)
    {s : DeliveryStep} (h : ∀ c ∈ s.calls, c.Keeps d₀.inactive.base.toNat d₀.inactive.capacity.toNat) :
    StepGood d₀ past s where
  confined c hc op hop := hl.confines (.inr (h c hc)) hop
  erasedFirst address page ok hc := ⟨before, b, steps, _, wire, chunks, hin.past, hin.opens, hin.session⟩
  commitsLast pre address page ok post hcalls hsector := by
    have hmem : .program address page ok ∈ s.calls := by
      rw [hcalls]
      exact List.mem_append_right _ List.mem_cons_self
    have hinside : d₀.inactive.base.toNat ≤ address := (h _ hmem _ rfl).1
    have hchecked : Checked d₀.inactive := hl.checked _ (by split <;> decide)
    have := hchecked.base_eq
    omega

/-- A step that leaves the session alone. -/
theorem InSession.pass {d d' : UpdateDelivery} {before steps : List DeliveryStep} {b : DeliveryStep} {wire : ManifestWire}
    {chunks pages : List (List U8)} (h : InSession d₀ past d before b steps wire chunks pages) {s : DeliveryStep}
    (hs : s.Passes) (hd : d' = { d with rejectedMessages := d'.rejectedMessages }) :
    InSession d₀ (past ++ [s]) d' before b (steps ++ [s]) wire chunks pages := by
  obtain ⟨h1, h2, h3, h4, h5, h6, h7, h8, h9, h10, h11, h12⟩ := h
  rw [hd]
  refine ⟨?_, h2, .passed h3 hs, h4, h5, h6, h7, h8, h9, h10, h11, ?_⟩
  · rw [h1, List.append_assoc, List.cons_append]
  · rw [List.flatMap_append, h12, List.flatMap_singleton, hs.calls, List.append_nil]

/-- The session that a begin has just opened. -/
theorem InSession.of_begin {d : UpdateDelivery} {b : DeliveryStep} {wire : ManifestWire} (hopens : Opens d₀ d.sessionId wire b)
    {s : Staging} (hslot : d.slot d.targetSlot = s) (hs : Live s d.verifier) (hpage : s.page = []) (hoffset : s.offset = 0)
    (hmanifest : d.verifier.manifest = wire.manifest) (hwire : d.verifier.manifestWire = wire) (hsequence : d.nextSequence = 0)
    (haccepted : d.acceptedBytes = 0) : InSession d₀ (past ++ [b]) d past b [] wire [] [] where
  past := rfl
  opens := hopens
  session := .opened
  live := hslot ▸ hs
  manifest := hmanifest
  wire := hwire
  sequence := by rw [hsequence]; rfl
  accepted := by rw [haccepted]; rfl
  full page hp := by cases hp
  bytes := by rw [hslot, hpage]; rfl
  offset := by rw [hslot, hoffset, List.length_nil, Nat.zero_mul]; rfl
  calls := rfl

/-- A step after which no session is active. -/
theorem Progress.closed {d : UpdateDelivery} (h : UpdateDelivery.Sound d₀ d) (ha : d.active = false) :
    Progress d₀ past d := ⟨h, fun h => absurd (ha.symm.trans h) Bool.false_ne_true⟩

theorem Progress.checked (hl : Layout d₀) {d : UpdateDelivery} (h : Progress d₀ past d) {t : U8} (ht : t < 2) :
    Checked (d.slot t) := (hl.checked t ht).of_sameSlot (h.slots t ht)

/-- The frame that says nothing. -/
theorem any_frame {μ : Type} (fl : FlashDriver μ) (cr : UpdateCrypto μ) (allowed : ℕ → ℕ → Prop) :
    Staging.StagingFrame fl cr allowed fun _ _ => True := by
  constructor <;> intros <;> trivial

/-- The calls of a verifier change nothing. -/
theorem unchanged_frame (be : DeliveryBackend κ) :
    Staging.StagingFrame be.journaled.flash be.journaled.crypto UpdateDelivery.nowhere
      (Journal.Adds fun c => c.changes = none) :=
  Staging.journal_frame be.flash be.crypto (fun _ h => h) fun _ _ _ h => h.elim

variable (be : DeliveryBackend κ)

theorem begin_step (hl : Layout d₀) {w : DeliveryRun κ} (hp : Progress d₀ w.steps w.delivery) (session : U32) (target : U8)
    (wire : ManifestWire) (now : U32) :
    Progress d₀ (w.steps ++ [w.record be (.begin session target wire now)])
        (w.call be (.begin session target wire now)).2.1 ∧
      StepGood d₀ w.steps (w.record be (.begin session target wire now)) := by
  obtain ⟨-, hsound⟩ := UpdateDelivery.begin_frame (any_frame be.journaled.flash be.journaled.crypto _) hp.toSound
    (fun t ht => (hp.checked hl ht).toGeometry) ⟨w.context, []⟩ session target wire now
    (fun _ _ => any_frame be.journaled.flash be.journaled.crypto _)
  unfold DeliveryRun.record
  simp only [DeliveryRun.call]
  cases hadm : w.delivery.admits session target with
  | false =>
    unfold UpdateDelivery.begin at hsound ⊢
    simp only [hadm, Bool.not_false, if_true] at hsound ⊢
    refine ⟨⟨hsound, fun ha => ?_⟩, .of_unchanged fun c hc => by cases hc⟩
    obtain ⟨before, b, steps, wire', chunks, pages, hin⟩ := hp.session ha
    exact ⟨before, b, _, wire', chunks, pages, hin.pass ⟨rfl, .inl ⟨_, _, _, _, rfl, rfl⟩⟩ rfl⟩
  | true =>
    have hidle : w.delivery.active = false := by
      simp only [UpdateDelivery.admits, Bool.and_eq_true, Bool.not_eq_true'] at hadm
      exact hadm.1.1.1.1
    obtain ⟨ht, hrun⟩ : target < 2 ∧ target ≠ w.delivery.runningSlot := by
      simp only [UpdateDelivery.admits, Bool.and_eq_true, decide_eq_true_eq] at hadm
      exact ⟨hadm.1.2, hadm.2⟩
    have hbegun := UpdateVerifier.begin_begun be.journaled.crypto ⟨w.context, []⟩ w.delivery.verifier wire
    obtain ⟨new, hnew, hnone⟩ := Staging.verifier_begin_frame (unchanged_frame be) ⟨w.context, []⟩
      w.delivery.verifier wire
    unfold UpdateDelivery.begin at hsound ⊢
    simp only [hadm, Bool.not_true, Bool.false_eq_true, if_false] at hsound ⊢
    generalize w.delivery.verifier.begin be.journaled.crypto ⟨w.context, []⟩ wire = v at hbegun hsound hnew ⊢
    rw [Journal.Wrote, List.nil_append] at hnew
    cases hbegun with
    | rejected k' hno =>
      simp only [Bool.not_false, if_true] at hsound ⊢
      refine ⟨.closed hsound hidle, .of_unchanged fun c hc => hnone c ?_⟩
      rw [← hnew]
      exact hc
    | started _ hframed hpermits hsigned hstart =>
      have hslot : (w.delivery.reserve session target now).slot target = w.delivery.slot target := rfl
      have hchecked := hp.checked hl ht
      have hsame : SameSlot d₀.inactive (w.delivery.slot target) := by
        rw [← UpdateDelivery.slot_inactive hl.running ht (hp.running ▸ hrun)]
        exact hp.slots target ht
      simp only [Bool.not_true, Bool.false_eq_true, if_false, hslot] at hsound ⊢
      have hstarted : Staging.Started _ (w.delivery.slot target) (w.delivery.verifier.opened wire)
          ((w.delivery.slot target).start be.journaled.flash _ (w.delivery.verifier.opened wire)) :=
        Staging.start_calls be.flash hchecked (be.journaled.crypto.hashBegin
          (UpdateVerifier.signature be.journaled.crypto ⟨w.context, []⟩ wire).1).1 (w.delivery.verifier.opened wire)
      generalize (w.delivery.slot target).start be.journaled.flash (be.journaled.crypto.hashBegin
          (UpdateVerifier.signature be.journaled.crypto ⟨w.context, []⟩ wire).1).1 (w.delivery.verifier.opened wire) = r
        at hstarted hsound ⊢
      cases hstarted with
      | refused =>
        simp only [Bool.not_false, if_true] at hsound ⊢
        refine ⟨.closed hsound ?_, .of_unchanged fun c hc => hnone c ?_⟩
        · rw [UpdateDelivery.put_active]
          exact hidle
        · rw [← hnew]
          exact hc
      | failed hadds =>
        simp only [Bool.not_false, if_true] at hsound ⊢
        refine ⟨.closed hsound ?_, .of_erases hl fun c hc => ?_⟩
        · rw [UpdateDelivery.put_active]
          exact hidle
        · obtain ⟨new', hwrote, herases⟩ := hadds
          rw [Journal.Wrote, hnew] at hwrote
          rw [hwrote, List.mem_append] at hc
          rcases hc with hc | hc
          · exact .inl (hnone c hc)
          · obtain ⟨address, length, ok, rfl, hrange⟩ := herases c hc
            rw [hsame.manifestBase, hsame.sectorBytes, hsame.base, hsame.capacity] at hrange
            exact .inr ⟨address, length, ok, rfl, hrange⟩
      | @started j' hactive hpos hcap hwrote =>
        simp only [Bool.not_true, Bool.false_eq_true, if_false] at hsound ⊢
        have hsize : ((w.delivery.slot target).eraseBytes wire.manifest.imageSize).toNat =
            d₀.inactive.eraseLength wire.manifest.imageSize.toNat := by
          obtain ⟨-, hmax, -⟩ := Staging.startExact hchecked hcap
          rw [Staging.eraseLength, ← hsame.sectorBytes]
          exact (Staging.erase_inside hchecked.toGeometry hcap hmax).1
        have hcalls := ((Journal.call_wrote hsigned).trans (Journal.call_wrote hstart)).trans hwrote
        have hmanifest : (w.delivery.verifier.opened wire).manifest = wire.manifest := rfl
        rw [Journal.Wrote, hmanifest, hsize, hsame.manifestBase, hsame.sectorBytes, hsame.base] at hcalls
        refine ⟨⟨hsound, fun _ => ⟨w.steps, _, [], wire, [], [], InSession.of_begin
          (s := { w.delivery.slot target with hasVerifier := true, offset := 0, page := [], active := true })
          ⟨⟨target, now, ?_⟩, rfl, hframed, ?_, hcalls⟩ ?_ ?_ rfl rfl ?_ ?_ rfl rfl⟩⟩, ?_⟩
        · rw [UpdateDelivery.put_sessionId]
          rfl
        · rw [← hp.platform]
          exact hpermits
        · refine Eq.trans ?_ (UpdateDelivery.put_slot_self (w.delivery.reserve session target now) target _
            (w.delivery.verifier.opened wire))
          rw [UpdateDelivery.put_targetSlot]
          rfl
        · rw [UpdateDelivery.put_verifier]
          exact ⟨⟨⟨Nat.dvd_zero _, Nat.zero_le _, hcap⟩, hchecked.page_pos⟩, rfl, rfl, rfl, rfl⟩
        · rw [UpdateDelivery.put_verifier]
          rfl
        · rw [UpdateDelivery.put_verifier]
          rfl
        · refine .of_erases hl fun c hc => ?_
          have hc : c ∈ j'.entries := hc
          have hround : d₀.inactive.eraseLength wire.manifest.imageSize.toNat ≤ d₀.inactive.capacity.toNat := by
            obtain ⟨-, hmax, -⟩ := Staging.startExact hchecked hcap
            rw [← hsize, ← hsame.capacity]
            exact (Staging.erase_inside hchecked.toGeometry hcap hmax).2
          simp only [hcalls, List.nil_append, List.cons_append, List.mem_cons, List.not_mem_nil, or_false] at hc
          rcases hc with rfl | rfl | rfl | rfl
          · exact .inl rfl
          · exact .inl rfl
          · exact .inr ⟨_, _, true, rfl, .inl ⟨rfl, rfl⟩⟩
          · exact .inr ⟨_, _, true, rfl, .inr ⟨rfl, hround⟩⟩

theorem length_flatten_full {n : ℕ} {pages : List (List U8)} (h : ∀ page ∈ pages, page.length = n) :
    pages.flatten.length = pages.length * n := by
  rw [List.length_flatten, List.map_congr_left h, List.map_const', List.sum_replicate_nat]

/-- The bytes that were accepted are those written and those in the page. -/
theorem InSession.written {d : UpdateDelivery} {before steps : List DeliveryStep} {b : DeliveryStep} {wire : ManifestWire}
    {chunks pages : List (List U8)} (h : InSession d₀ past d before b steps wire chunks pages) :
    d.acceptedBytes.toNat = (d.slot d.targetSlot).offset.toNat + (d.slot d.targetSlot).page.length := by
  rw [h.accepted, h.bytes, List.length_append, length_flatten_full h.full, h.offset]

/-- No chunk is empty, so there are no more chunks than bytes. -/
theorem Session.length_le {id : U32} {steps : List DeliveryStep} {chunks : List (List U8)} (h : Session id steps chunks) :
    chunks.length ≤ chunks.flatten.length := by
  induction h with
  | opened => exact Nat.le_refl _
  | passed _ _ ih => exact ih
  | chunk _ _ _ _ hdata _ ih =>
    have := List.length_pos_iff.2 hdata
    rw [List.flatten_append, List.length_append, List.length_append, List.flatten_singleton, List.length_singleton]
    omega

/-- A chunk that was written. -/
theorem InSession.chunk {d d' : UpdateDelivery} {before steps : List DeliveryStep} {b : DeliveryStep} {wire : ManifestWire}
    {chunks pages : List (List U8)} (h : InSession d₀ past d before b steps wire chunks pages) {data : List U8} {now : U32}
    {calls : List DeliveryCall} {pages' : List (List U8)} (hsame : SameSlot d₀.inactive (d.slot d.targetSlot))
    {s' : Staging} {v' : UpdateVerifier} (hslot : d'.slot d'.targetSlot = s') (hverifier : d'.verifier = v')
    (hstreamed : Streamed (d.slot d.targetSlot) d.verifier data pages' s' v') (hlive : Live s' v') (hid : d'.sessionId = d.sessionId)
    (hsequence : d'.nextSequence.toNat = d.nextSequence.toNat + 1)
    (haccepted : d'.acceptedBytes.toNat = d.acceptedBytes.toNat + data.length) (hdata : data ≠ [])
    (hcalls : calls = imageCalls (d.slot d.targetSlot) (d.slot d.targetSlot).offset.toNat pages') :
    let s : DeliveryStep := ⟨.chunk d.sessionId d.nextSequence d.acceptedBytes data now, .result .ok, calls⟩
    InSession d₀ (past ++ [s]) d' before b (steps ++ [s]) wire (chunks ++ [data]) (pages ++ pages') where
  past := by rw [h.past, List.append_assoc, List.cons_append]
  opens := hid ▸ h.opens
  session := by
    rw [hid]
    exact .chunk h.session rfl h.sequence h.accepted hdata rfl
  live := by
    rw [hslot, hverifier]
    exact hlive
  manifest := by rw [hverifier, hstreamed.verifier, h.manifest]
  wire := by rw [hverifier, hstreamed.verifier, h.wire]
  sequence := by rw [hsequence, h.sequence, List.length_append, List.length_singleton]
  accepted := by rw [haccepted, h.accepted, List.flatten_append, List.length_append, List.flatten_singleton]
  full page hp := by
    rcases List.mem_append.1 hp with hp | hp
    · exact h.full page hp
    · rw [hstreamed.full page hp, hsame.pageBytes]
  bytes := by
    rw [List.flatten_append, List.flatten_append, List.flatten_singleton, h.bytes, List.append_assoc, hstreamed.bytes, hslot,
      List.append_assoc]
  offset := by rw [hslot, hstreamed.offset, h.offset, hsame.pageBytes, List.length_append, Nat.add_mul]
  calls := by
    rw [List.flatMap_append, List.flatMap_singleton, h.calls, hcalls, Staging.imageCalls_congr hsame, h.offset,
      Staging.imageCalls_append, Nat.zero_add]

theorem Progress.same (hl : Layout d₀) {d : UpdateDelivery} (h : Progress d₀ past d) (ha : d.active = true) :
    SameSlot d₀.inactive (d.slot d.targetSlot) := by
  obtain ⟨ht, hrun⟩ := h.target ha
  rw [← UpdateDelivery.slot_inactive hl.running ht (h.running ▸ hrun)]
  exact h.slots _ ht

theorem chunk_step (hl : Layout d₀) {w : DeliveryRun κ} (hp : Progress d₀ w.steps w.delivery)
    (session sequence offset : U32) (data : List U8) (now : U32) :
    Progress d₀ (w.steps ++ [w.record be (.chunk session sequence offset data now)])
        (w.call be (.chunk session sequence offset data now)).2.1 ∧
      StepGood d₀ w.steps (w.record be (.chunk session sequence offset data now)) := by
  obtain ⟨-, hsound⟩ := UpdateDelivery.chunk_frame (any_frame (journaledFlash be.flash) (journaledCrypto be.crypto) _) hp.toSound
    (fun t ht => (hp.checked hl ht).toGeometry) ⟨w.context, []⟩ session sequence offset data now
    (fun _ => any_frame (journaledFlash be.flash) (journaledCrypto be.crypto) _)
  unfold DeliveryRun.record
  simp only [DeliveryRun.call, DeliveryBackend.journaled]
  unfold UpdateDelivery.chunk at hsound ⊢
  split
  next htimeout =>
    rw [if_pos htimeout] at hsound
    exact ⟨.closed hsound rfl, .of_unchanged fun c hc => by cases hc⟩
  next htimeout =>
    rw [if_neg htimeout] at hsound
    split
    next hguard =>
      rw [if_pos hguard] at hsound
      exact ⟨.closed hsound rfl, .of_unchanged fun c hc => by cases hc⟩
    next hguard =>
      rw [if_neg hguard] at hsound
      simp only [Bool.or_eq_true, Bool.not_eq_true', decide_eq_true_eq, not_or, Bool.not_eq_false, Nat.not_lt,
        BitVec.not_lt, Decidable.not_not, ne_eq] at hguard
      obtain ⟨⟨⟨⟨⟨⟨⟨ha, rfl⟩, rfl⟩, rfl⟩, hne⟩, hmax⟩, hle⟩, hroom⟩ := hguard
      have hdata : data ≠ [] := fun h => hne (by rw [h]; rfl)
      obtain ⟨ht, -⟩ := hp.target ha
      obtain ⟨before, b, steps, wire, chunks, pages, hin⟩ := hp.session ha
      have hsame := hp.same hl ha
      have hlength : (BitVec.ofNat 32 data.length).toNat = data.length := by
        rw [BitVec.toNat_ofNat]
        unfold updateMaxChunkBytes at hmax
        exact Nat.mod_eq_of_lt (by omega)
      rw [BitVec.le_def, BitVec.toNat_sub_of_le hle, hlength] at hroom
      rw [BitVec.le_def] at hle
      have hwritten := hin.written
      have hfits : (w.delivery.slot w.delivery.targetSlot).offset.toNat + (w.delivery.slot w.delivery.targetSlot).page.length +
          data.length ≤ w.delivery.verifier.manifest.imageSize.toNat := by omega
      obtain ⟨-, hadds, hok⟩ := Staging.writeLoop_calls be.flash be.crypto data.length (hp.checked hl ht) ⟨w.context, []⟩ hin.live
        data (Nat.le_refl _) hfits
      have hwrite := hin.live.write_eq (journaledFlash be.flash) (journaledCrypto be.crypto) ⟨w.context, []⟩ hdata hfits
      rw [hwrite] at hsound ⊢
      generalize Staging.writeLoop (journaledFlash be.flash) (journaledCrypto be.crypto) data.length ⟨w.context, []⟩
        (w.delivery.slot w.delivery.targetSlot) w.delivery.verifier data = r at hadds hok hsound ⊢
      obtain ⟨j', s', v', ok⟩ := r
      obtain ⟨new, hnew, hkeeps⟩ := hadds
      have hnew : j'.entries = new := hnew
      rw [hsame.base, hsame.capacity, ← hnew] at hkeeps
      cases ok with
      | false => exact ⟨.closed hsound rfl, .of_pages hl hin hkeeps⟩
      | true =>
        obtain ⟨pages', hstreamed, hlive, hcalls⟩ := hok rfl
        simp only [Bool.not_true, Bool.false_eq_true, if_false] at hsound ⊢
        have hcount := hin.session.length_le
        rw [← hin.sequence, ← hin.accepted] at hcount
        have hpos := List.length_pos_iff.2 hdata
        have hsize := w.delivery.verifier.manifest.imageSize.isLt
        have hone : (1 : U32).toNat = 1 := rfl
        have hslot : (w.delivery.put w.delivery.targetSlot s' v').slot
            (w.delivery.put w.delivery.targetSlot s' v').targetSlot = s' := by
          rw [UpdateDelivery.put_targetSlot, UpdateDelivery.put_slot_self]
        refine ⟨⟨hsound, fun _ => ⟨before, b, _, wire, _, _, hin.chunk hsame hslot
          (UpdateDelivery.put_verifier _ _ s' v') hstreamed hlive ?_ ?_ ?_ hdata hcalls⟩⟩, .of_pages hl hin hkeeps⟩
        · exact UpdateDelivery.put_sessionId _ _ _ _
        · dsimp only
          rw [UpdateDelivery.put_nextSequence, BitVec.toNat_add, hone, Nat.mod_eq_of_lt (by omega)]
        · dsimp only
          rw [UpdateDelivery.put_acceptedBytes, BitVec.toNat_add, hlength, Nat.mod_eq_of_lt (by omega)]

/-- The pages of a session with the one that the finish flushes. -/
theorem InSession.paged {d : UpdateDelivery} {before steps : List DeliveryStep} {b : DeliveryStep} {wire : ManifestWire}
    {chunks pages : List (List U8)} (h : InSession d₀ past d before b steps wire chunks pages) (hl : Layout d₀)
    (hsame : SameSlot d₀.inactive (d.slot d.targetSlot)) :
    Paged d₀.inactive.pageBytes.toNat chunks.flatten (pages ++ (d.slot d.targetSlot).lastPage) := by
  have hpos : 0 < d₀.inactive.pageBytes.toNat := (hl.checked _ (by split <;> decide)).page_pos
  have hroom := h.live.page_room
  rw [hsame.pageBytes] at hroom
  have hfull : ∀ page ∈ pages, page ≠ [] ∧ page.length ≤ d₀.inactive.pageBytes.toNat := by
    intro page hp
    have := h.full page hp
    exact ⟨List.length_pos_iff.1 (by omega), Nat.le_of_eq this⟩
  unfold Staging.lastPage
  split
  next hempty =>
    rw [List.append_nil]
    refine ⟨?_, hfull, fun page hp => h.full page (List.dropLast_subset _ hp)⟩
    rw [h.bytes, hempty, List.append_nil]
  next hpage =>
    refine ⟨?_, fun page hp => ?_, fun page hp => ?_⟩
    · rw [List.flatten_append, List.flatten_singleton, h.bytes]
    · rcases List.mem_append.1 hp with hp | hp
      · exact hfull page hp
      · rw [List.mem_singleton.1 hp]
        exact ⟨hpage, Nat.le_of_lt hroom⟩
    · rw [List.dropLast_concat] at hp
      exact h.full page hp

/-- A finish that got to the manifest: the call that programs it is the only one in the manifest sector. -/
theorem StepGood.of_commit (hl : Layout d₀) {d : UpdateDelivery} {before steps : List DeliveryStep} {b : DeliveryStep}
    {wire : ManifestWire} {chunks pages : List (List U8)} (hin : InSession d₀ past d before b steps wire chunks pages)
    (hsame : SameSlot d₀.inactive (d.slot d.targetSlot)) {s : DeliveryStep} {now : U32} {commit : List DeliveryCall}
    (hmessage : s.message = .finish d.sessionId d.nextSequence now) (haccepted : d.acceptedBytes = wire.manifest.imageSize)
    (hcommit : Staging.Commits d₀.inactive wire commit)
    (hcalls : s.calls = imageCalls d₀.inactive (d.slot d.targetSlot).offset.toNat (d.slot d.targetSlot).lastPage ++
      .hashFinish (some wire.manifest.digest) :: commit)
    (hkeeps : ∀ c ∈ imageCalls d₀.inactive (d.slot d.targetSlot).offset.toNat (d.slot d.targetSlot).lastPage,
      c.Keeps d₀.inactive.base.toNat d₀.inactive.capacity.toNat) : StepGood d₀ past s := by
  obtain ⟨ok, rest, hcommit, hrest⟩ := hcommit
  have hchecked : Checked d₀.inactive := hl.checked _ (by split <;> decide)
  rw [hcommit, ← List.singleton_append, ← List.append_assoc] at hcalls
  have hsector : (DeliveryCall.program d₀.inactive.manifestBase.toNat (d₀.inactive.padded wire.bytes) ok).Keeps
      d₀.inactive.manifestBase.toNat d₀.inactive.sectorBytes.toNat := by
    intro op hop
    cases hop
    refine ⟨Nat.le_refl _, ?_⟩
    dsimp only
    rw [Staging.length_padded]
    exact Nat.add_le_add_left (Nat.le_of_dvd hchecked.sector_pos hchecked.page_sector) _
  have hpre : ∀ c ∈ imageCalls d₀.inactive (d.slot d.targetSlot).offset.toNat (d.slot d.targetSlot).lastPage ++
      [.hashFinish (some wire.manifest.digest)], c.Keeps d₀.inactive.base.toNat d₀.inactive.capacity.toNat := by
    intro c hc
    rcases List.mem_append.1 hc with hc | hc
    · exact hkeeps c hc
    · rw [List.mem_singleton.1 hc]
      exact Staging.keeps_of_none rfl _ _
  refine ⟨fun c hc op hop => ?_, fun address page ok' hc => ?_, fun pre address page ok' post hsplit haddress => ?_⟩
  · rw [hcalls, List.mem_append, List.mem_cons] at hc
    rcases hc with hc | rfl | hc
    · exact hl.confines (.inr (hpre c hc)) hop
    · exact hl.confines (.inl hsector) hop
    · rw [hrest c hc] at hop
      cases hop
  · exact ⟨before, b, steps, _, wire, chunks, hin.past, hin.opens, hin.session⟩
  · have hoffset := hin.offset
    have houtside : .program address page ok' ∉ imageCalls d₀.inactive (d.slot d.targetSlot).offset.toNat
        (d.slot d.targetSlot).lastPage ++ [.hashFinish (some wire.manifest.digest)] := by
      intro hc
      have hinside : d₀.inactive.base.toNat ≤ address := (hpre _ hc _ rfl).1
      have := hchecked.base_eq
      omega
    have hlater : .program address page ok' ∉ rest := fun hc => Option.some_ne_none _ (hrest _ hc)
    rw [hcalls, List.append_cons_inj_of_notMem houtside hlater] at hsplit
    obtain ⟨hpre', hprogram, -⟩ := hsplit
    cases hprogram
    refine ⟨before, b, steps, _, wire, chunks, _, _, now, hin.past, hin.opens, hin.session, hmessage, hin.sequence, ?_,
      hin.paged hl hsame, ?_, rfl, rfl⟩
    · rw [← hin.accepted, haccepted]
    · rw [hin.calls, ← hpre', Staging.imageCalls_append, Nat.zero_add, ← hoffset, List.append_assoc]

theorem finish_step (hl : Layout d₀) {w : DeliveryRun κ} (hp : Progress d₀ w.steps w.delivery)
    (session sequence now : U32) :
    Progress d₀ (w.steps ++ [w.record be (.finish session sequence now)]) (w.call be (.finish session sequence now)).2.1 ∧
      StepGood d₀ w.steps (w.record be (.finish session sequence now)) := by
  have hsound : UpdateDelivery.Sound d₀ (w.delivery.finish be.journaled.flash be.journaled.crypto be.journaled.activate
      ⟨w.context, []⟩ session sequence now).2.1 :=
    (UpdateDelivery.finish_frame (any_frame be.journaled.flash be.journaled.crypto _) (fun _ _ _ => trivial) hp.toSound
      (fun t ht => (hp.checked hl ht).toGeometry) ⟨w.context, []⟩ session sequence now
      (fun _ => any_frame be.journaled.flash be.journaled.crypto _)).2
  have hended := UpdateDelivery.finish_target be.journaled.flash be.journaled.crypto be.journaled.activate ⟨w.context, []⟩
    w.delivery session sequence now
  refine ⟨.closed hsound hended, ?_⟩
  unfold DeliveryRun.record
  simp only [DeliveryRun.call, DeliveryBackend.journaled]
  clear hsound hended
  unfold UpdateDelivery.finish
  split
  · exact .of_unchanged fun c hc => by cases hc
  · split
    · exact .of_unchanged fun c hc => by cases hc
    next hguard =>
      simp only [Bool.or_eq_true, Bool.not_eq_true', decide_eq_true_eq, not_or, Bool.not_eq_false, Decidable.not_not,
        ne_eq] at hguard
      obtain ⟨⟨⟨ha, rfl⟩, rfl⟩, haccepted⟩ := hguard
      obtain ⟨ht, -⟩ := hp.target ha
      obtain ⟨before, b, steps, wire, chunks, pages, hin⟩ := hp.session ha
      have hsame := hp.same hl ha
      have hfinished := Staging.finish_calls be.flash be.crypto (hp.checked hl ht) ⟨w.context, []⟩ hin.live
      rw [hin.manifest] at haccepted
      generalize (w.delivery.slot w.delivery.targetSlot).finish (journaledFlash be.flash) (journaledCrypto be.crypto)
        ⟨w.context, []⟩ w.delivery.verifier = r at hfinished ⊢
      have hkeeps := fun c => Staging.Live.lastPage_keeps (c := c) (hp.checked hl ht) hin.live
      rw [hsame.base, hsame.capacity] at hkeeps
      simp only [Staging.imageCalls_congr hsame] at hkeeps
      cases hfinished with
      | failed hadds =>
        have hpages := hadds.entries
        rw [hsame.base, hsame.capacity] at hpages
        exact .of_pages hl hin hpages
      | uncommitted hcommits hwrote =>
        rw [Staging.imageCalls_congr hsame, hin.manifest] at hwrote
        rw [hin.wire] at hcommits
        exact .of_commit hl hin hsame rfl haccepted (hcommits.of_sameSlot hsame) hwrote hkeeps
      | @finished j' s' v' hv hwrote =>
        simp only [Bool.not_true, Bool.false_eq_true, if_false]
        rw [Staging.imageCalls_congr hsame, Staging.padded_congr hsame, hsame.manifestBase, hin.manifest, hin.wire] at hwrote
        have hactivated (slot : U8) (version : U32) : ∃ commit, Staging.Commits d₀.inactive wire commit ∧
            (j'.call (be.activate · slot version) (.activate slot version)).1.entries =
              imageCalls d₀.inactive (w.delivery.slot w.delivery.targetSlot).offset.toNat
                (w.delivery.slot w.delivery.targetSlot).lastPage ++ .hashFinish (some wire.manifest.digest) :: commit := by
          refine ⟨_, ⟨true, [.read _ _ _, .activate _ _ _], rfl, fun c hc => ?_⟩,
            ((hwrote.trans (Journal.call_wrote rfl)).trans_eq (List.append_assoc _ _ _)).entries⟩
          rw [List.mem_cons, List.mem_singleton] at hc
          rcases hc with rfl | rfl <;> rfl
        obtain ⟨commit, hcommit, hcalls⟩ := hactivated (w.delivery.put w.delivery.targetSlot s' v').targetSlot
          (w.delivery.put w.delivery.targetSlot s' v').verifier.manifest.imageVersion
        split
        · exact .of_commit hl hin hsame rfl haccepted hcommit hcalls hkeeps
        · exact .of_commit hl hin hsame rfl haccepted hcommit hcalls hkeeps

section Steps

variable (be : DeliveryBackend κ)

theorem poll_step {w : DeliveryRun κ} (hp : Progress d₀ w.steps w.delivery) (now : U32) :
    Progress d₀ (w.steps ++ [w.record be (.poll now)]) (w.call be (.poll now)).2.1 := by
  have hsound := UpdateDelivery.poll_sound hp.toSound now
  unfold DeliveryRun.record
  simp only [DeliveryRun.call]
  unfold UpdateDelivery.poll at hsound ⊢
  split
  next htimeout =>
    rw [if_pos htimeout] at hsound
    exact .closed hsound rfl
  next htimeout =>
    refine ⟨hp.toSound, fun ha => ?_⟩
    obtain ⟨before, b, steps, wire, chunks, pages, hin⟩ := hp.session ha
    exact ⟨before, b, _, wire, chunks, pages, hin.pass ⟨rfl, .inr ⟨now, rfl, rfl⟩⟩ rfl⟩

/-- **One message.** The session goes on as its steps say, and the step is good. -/
theorem delivery_step (hl : Layout d₀) {w : DeliveryRun κ} (hp : Progress d₀ w.steps w.delivery) (m : DeliveryMessage) :
    Progress d₀ (w.step be m).steps (w.step be m).delivery ∧ StepGood d₀ w.steps (w.record be m) := by
  cases m with
  | begin session target wire now => exact begin_step be hl hp session target wire now
  | chunk session sequence offset data now => exact chunk_step be hl hp session sequence offset data now
  | finish session sequence now => exact finish_step be hl hp session sequence now
  | poll now => exact ⟨poll_step be hp now, .of_unchanged fun c hc => by cases hc⟩
  | reset => exact ⟨.closed (UpdateDelivery.abortActive_sound hp.toShape) rfl, .of_unchanged fun c hc => by cases hc⟩

theorem delivery_noWrap (hl : Layout d₀) {w : DeliveryRun κ} (hp : Progress d₀ w.steps w.delivery) (m : DeliveryMessage) :
    NoWrap be w m := by
  cases m with
  | begin session target wire now =>
    intro hadm _ hcap
    simp only [UpdateDelivery.admits, Bool.and_eq_true, decide_eq_true_eq] at hadm
    exact Staging.startExact (hp.checked hl hadm.1.2) hcap
  | chunk session sequence offset data now =>
    intro ha hdata hroom
    obtain ⟨ht, -⟩ := hp.target ha
    obtain ⟨before, b, steps, wire, chunks, pages, hin⟩ := hp.session ha
    have hwritten := hin.written
    have hcount := hin.session.length_le
    rw [← hin.sequence, ← hin.accepted] at hcount
    have hpos := List.length_pos_iff.2 hdata
    have hsize := w.delivery.verifier.manifest.imageSize.isLt
    refine ⟨by omega, by omega, ?_⟩
    exact (Staging.writeLoop_calls be.flash be.crypto data.length (hp.checked hl ht) ⟨w.context, []⟩ hin.live data
      (Nat.le_refl _) (by omega)).1
  | finish session sequence now =>
    intro ha
    obtain ⟨ht, -⟩ := hp.target ha
    obtain ⟨before, b, steps, wire, chunks, pages, hin⟩ := hp.session ha
    have hend := (hp.checked hl ht).base_capacity
    have hwritten := hin.live.written
    have hroom := hin.live.page_room
    have hsize := w.delivery.verifier.manifest.imageSize.isLt
    by_cases hpage : (w.delivery.slot w.delivery.targetSlot).page = []
    · exact .inl hpage
    · obtain ⟨-, hinside⟩ := Staging.page_inside (hp.checked hl ht).toGeometry hin.live.toWithin hpage
      refine .inr ⟨by omega, by omega, ?_⟩
      rw [hin.live.received]
      omega
  | poll => trivial
  | reset => trivial

theorem delivery_run (hl : Layout d₀) {w : DeliveryRun κ} (hp : Progress d₀ w.steps w.delivery) (messages : List DeliveryMessage) :
    Run.Along (DeliveryRun.step be) (NoWrap be) w messages ∧
      (Run.Each (StepGood d₀) w.steps → Run.Each (StepGood d₀) (messages.foldl (DeliveryRun.step be) w).steps) := by
  have hkeep (w : DeliveryRun κ) (m : DeliveryMessage) (hw : Progress d₀ w.steps w.delivery ∧ Run.Each (StepGood d₀) w.steps) :
      Progress d₀ (w.step be m).steps (w.step be m).delivery ∧ Run.Each (StepGood d₀) (w.step be m).steps := by
    obtain ⟨hnext, hgood⟩ := delivery_step be hl hw.1 m
    exact ⟨hnext, hw.2.concat hgood⟩
  refine ⟨?_, fun he => (Run.inv_run hkeep ⟨hp, he⟩ messages).2⟩
  exact Run.along_of_inv (D := fun _ _ => True) (fun w m hw _ => (delivery_step be hl hw m).1)
    (fun w m hw _ => delivery_noWrap be hl hw m) hp (Run.along_of_forall fun _ _ => trivial)

/-- **Main result.** Every erase and program of a delivery is confined to the slot that does not run, no address and no size
wraps, a page is programmed after the manifest sector was erased, and the manifest is programmed last. -/
theorem confined_commits_last {manifestA baseA capacityA sectorA pageA manifestB baseB capacityB sectorB pageB : U32}
    {a b : Staging} (ha : Staging.init manifestA baseA capacityA sectorA pageA = some a)
    (hb : Staging.init manifestB baseB capacityB sectorB pageB = some b) {running : U8}
    {executingBase executingCapacity timeout : U32} {platform : UpdatePlatform} {d : UpdateDelivery}
    (hd : UpdateDelivery.init a b running executingBase executingCapacity timeout platform = some d) (k : κ)
    (messages : List DeliveryMessage) :
    let w := messages.foldl (DeliveryRun.step be) ⟨k, d, []⟩
    (∀ s ∈ w.steps, ∀ c ∈ s.calls, ∀ op, c.changes = some op → d.Confines op) ∧
      RegionsExact d ∧ Run.Along (DeliveryRun.step be) (NoWrap be) ⟨k, d, []⟩ messages ∧
      Run.Each (fun past s => ErasedFirst d past s ∧ CommitsLast d past s) w.steps := by
  have hl := init_layout (Staging.init_checked ha) (Staging.init_checked hb) hd
  have hidle {m b c s p : U32} {t : Staging} (h : Staging.init m b c s p = some t) : t.active = false := by
    rw [(Staging.init_some h).1]
  obtain ⟨hsound, -, -, hactive, -⟩ := UpdateDelivery.init_sound (hidle ha) (hidle hb) hd
  obtain ⟨hexact, hgood⟩ := delivery_run be hl (w := ⟨k, d, []⟩) (.closed hsound hactive) messages
  have hgood := hgood Run.each_nil
  refine ⟨fun s hs => ?_, ⟨fun t ht => ?_, hl.executing⟩, hexact, fun past s later heq => ?_⟩
  · obtain ⟨past, later, heq⟩ := List.append_of_mem hs
    exact (hgood past s later heq).confined
  · have hchecked := hl.checked t ht
    have := hchecked.base_capacity
    have := hchecked.base_eq
    omega
  · exact ⟨(hgood past s later heq).erasedFirst, (hgood past s later heq).commitsLast⟩

end Steps

/-! ## One delivered byte -/

/-- A flash in memory, and the bytes hashed so far. -/
def ramBackend : DeliveryBackend ((ℕ → U8) × List U8) where
  flash := {
    read := fun k a n => (k, some (Flash.bytesAt k.1 a.toNat n.toNat))
    erase := fun k a n => ((Flash.overwrite k.1 ⟨a.toNat, n.toNat⟩ fun _ => 0xff, k.2), true)
    program := fun k a data => ((Flash.overwrite k.1 ⟨a.toNat, data.length⟩ fun x =>
      k.1 x &&& data.getD (x - a.toNat) 0xff, k.2), true) }
  crypto := {
    verifySignature := fun k _ _ _ => (k, true)
    hashBegin := fun k => ((k.1, []), true)
    hashUpdate := fun k data => ((k.1, k.2 ++ data), true)
    hashFinish := fun k => (k, some (sumDigest k.2)) }
  activate := fun k _ _ => (k, true)

/-- A staging of one kilobyte in pages of 256 bytes. -/
def nineStaging (manifestBase : U32) : Staging := ⟨false, manifestBase, manifestBase + 256, 1024, 256, 256, 0, [], 0, false⟩

/-- A delivery to slot B. -/
def nineDelivery : UpdateDelivery :=
  ⟨nineStaging 0, nineStaging 4096, nineVerifier, 256, 1024, 5, 0, 0, 0, 0, 0, 0, 0, 0, false, false⟩

/-- An image of one byte. -/
def nineMessages : List DeliveryMessage := [.begin 1 1 nineManifest 0, .chunk 1 0 0 [9] 0, .finish 1 1 0]

theorem confined_commits_last_nine :
    let w := nineMessages.foldl (DeliveryRun.step ramBackend) ⟨(fun _ => 0, []), nineDelivery, []⟩
    (∀ s ∈ w.steps, ∀ c ∈ s.calls, ∀ op, c.changes = some op → nineDelivery.Confines op) ∧
      RegionsExact nineDelivery ∧ Run.Along (DeliveryRun.step ramBackend) (NoWrap ramBackend)
        ⟨(fun _ => 0, []), nineDelivery, []⟩ nineMessages ∧
      Run.Each (fun past s => ErasedFirst nineDelivery past s ∧ CommitsLast nineDelivery past s) w.steps :=
  confined_commits_last ramBackend (show Staging.init 0 256 1024 256 256 = some (nineStaging 0) by decide)
    (show Staging.init 4096 4352 1024 256 256 = some (nineStaging 4096) by decide)
    (show UpdateDelivery.init (nineStaging 0) (nineStaging 4096) 0 256 1024 5 ninePlatform = some nineDelivery by decide)
    _ nineMessages

/-- The three messages are accepted, and the last one programs the manifest. -/
example : (nineMessages.foldl (DeliveryRun.step ramBackend) ⟨(fun _ => 0, []), nineDelivery, []⟩).steps.map
    DeliveryStep.answer = [.result .ok, .result .ok, .result .ok] := by decide +kernel

end OpenRef.Update
