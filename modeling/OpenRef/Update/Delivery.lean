import OpenRef.Update.Staging
/-!
# Update delivery (openref_rt595_update_delivery.c)

One update session at a time writes an image into the slot that does not run, chunk
by chunk, and then activates it. `begin_frame`, `chunk_frame`, `finish_frame`: only
the slot named by the begin is touched, and the delivery stays `Sound`.
-/

namespace OpenRef.Update

/-- `openref_rt595_update_delivery_result_t`. -/
inductive DeliveryResult
  | ok | rejected | authFailed | storageFailed | protocolFailed | timedOut
deriving DecidableEq, Repr

/-- `OPENREF_RT595_UPDATE_MAX_CHUNK_BYTES`. -/
def updateMaxChunkBytes : Nat := 512

/-- `openref_rt595_update_delivery_t`; callbacks and contexts are passed to each call. -/
structure UpdateDelivery where
  slotA : Staging
  slotB : Staging
  verifier : UpdateVerifier
  executingImageBase : U32
  executingImageCapacity : U32
  timeoutUs : U32
  highestSessionId : U32
  sessionId : U32
  nextSequence : U32
  acceptedBytes : U32
  lastActivityUs : U32
  rejectedMessages : U32
  runningSlot : U8
  targetSlot : U8
  active : Bool
  completed : Bool
deriving DecidableEq

/-- `region` (:7-10). -/
def region (base size : U32) : Bool := size ≠ 0 && base ≤ uint32Max - size

/-- `overlaps` (:12-15). -/
def overlaps (a an b bn : U32) : Bool := a < b + bn && b < a + an

namespace UpdateDelivery

open Staging (SameSlot Fits Geometry StagingFrame Kept)

variable {κ : Type}

/-- `d->slot[slot]`. -/
def slot (d : UpdateDelivery) (slot : U8) : Staging := if slot = 0 then d.slotA else d.slotB

/-- A new staging in `d->slot[slot]`, and a new verifier. -/
def put (d : UpdateDelivery) (slot : U8) (s : Staging) (v : UpdateVerifier) : UpdateDelivery :=
  if slot = 0 then { d with slotA := s, verifier := v } else { d with slotB := s, verifier := v }

/-- `openref_rt595_update_delivery_init` (:47-87) with pointers that are set and differ. -/
def init (a b : Staging) (running : U8) (executingBase executingCapacity timeout : U32)
    (platform : UpdatePlatform) : Option UpdateDelivery :=
  if 2 ≤ running || timeout = 0 || 0x80000000 ≤ timeout || !region executingBase executingCapacity ||
      !region a.manifestBase a.sectorBytes || !region a.base a.capacity ||
      !region b.manifestBase b.sectorBytes || !region b.base b.capacity ||
      overlaps a.manifestBase a.sectorBytes b.manifestBase b.sectorBytes ||
      overlaps a.manifestBase a.sectorBytes b.base b.capacity ||
      overlaps b.manifestBase b.sectorBytes a.base a.capacity || overlaps a.base a.capacity b.base b.capacity then
    none
  else
    match UpdateVerifier.init platform with
    | none => none
    | some verifier =>
      let inactive := if running = 0 then b else a
      if overlaps inactive.manifestBase inactive.sectorBytes executingBase executingCapacity ||
          overlaps inactive.base inactive.capacity executingBase executingCapacity then none
      else some ⟨a, b, verifier, executingBase, executingCapacity, timeout, 0, 0, 0, 0, 0, 0, running, 0, false, false⟩

/-- `abort_active` (:17-28). -/
def abortActive (d : UpdateDelivery) : UpdateDelivery :=
  let d := if d.active && d.targetSlot < 2 then
      let r := (d.slot d.targetSlot).abort d.verifier
      d.put d.targetSlot r.1 r.2
    else d
  { d with
    verifier := { d.verifier with active := false, verified := false }
    active := false
    sessionId := 0
    nextSequence := 0
    acceptedBytes := 0 }

/-- `protocol_failure` (:30-40). -/
def protocolFailure (d : UpdateDelivery) : UpdateDelivery :=
  { d with rejectedMessages := incrementSaturating d.rejectedMessages }.abortActive

/-- `timed_out` (:42-45). -/
def timedOut (d : UpdateDelivery) (now : U32) : Bool := d.active && d.timeoutUs < now - d.lastActivityUs

/-- The guards of a begin (:93-95). -/
def admits (d : UpdateDelivery) (session : U32) (target : U8) : Bool :=
  !d.active && session ≠ 0 && d.highestSessionId < session && target < 2 && target ≠ d.runningSlot

/-- The session id a begin reserves before it erases (:102-105). -/
def reserve (d : UpdateDelivery) (session : U32) (target : U8) (now : U32) : UpdateDelivery :=
  { d with highestSessionId := session, sessionId := session, targetSlot := target, lastActivityUs := now }

/-- `openref_rt595_update_delivery_begin` (:89-119). -/
def begin (fl : FlashDriver κ) (cr : UpdateCrypto κ) (k : κ) (d : UpdateDelivery) (session : U32) (target : U8)
    (manifest : ManifestWire) (now : U32) : κ × UpdateDelivery × DeliveryResult :=
  if !d.admits session target then
    (k, { d with rejectedMessages := incrementSaturating d.rejectedMessages }, .rejected)
  else
    let b := d.verifier.begin cr k manifest
    if !b.2.2 then
      (b.1, { d with verifier := b.2.1, rejectedMessages := d.rejectedMessages + 1 }, .authFailed)
    else
      let d := d.reserve session target now
      let s := (d.slot target).start fl b.1 b.2.1
      if !s.2.2.2 then
        (s.1, { d.put target s.2.1 { s.2.2.1 with active := false, verified := false } with sessionId := 0 },
          .storageFailed)
      else
        (s.1, { d.put target s.2.1 s.2.2.1 with
          active := true, completed := false, nextSequence := 0, acceptedBytes := 0 }, .ok)

/-- `openref_rt595_update_delivery_chunk` (:121-145). -/
def chunk (fl : FlashDriver κ) (cr : UpdateCrypto κ) (k : κ) (d : UpdateDelivery) (session sequence offset : U32)
    (data : List U8) (now : U32) : κ × UpdateDelivery × DeliveryResult :=
  if d.timedOut now then (k, d.abortActive, .timedOut)
  else if !d.active || session ≠ d.sessionId || sequence ≠ d.nextSequence || offset ≠ d.acceptedBytes ||
      data.length = 0 || updateMaxChunkBytes < data.length ||
      d.verifier.manifest.imageSize < d.acceptedBytes ||
      d.verifier.manifest.imageSize - d.acceptedBytes < BitVec.ofNat 32 data.length then
    (k, d.protocolFailure, .protocolFailed)
  else
    let w := (d.slot d.targetSlot).write fl cr k d.verifier data
    let d := d.put d.targetSlot w.2.1 w.2.2.1
    if !w.2.2.2 then (w.1, d.abortActive, .storageFailed)
    else
      (w.1, { d with
        acceptedBytes := d.acceptedBytes + BitVec.ofNat 32 data.length
        nextSequence := d.nextSequence + 1
        lastActivityUs := now }, .ok)

/-- `openref_rt595_update_delivery_finish` (:147-177). -/
def finish (fl : FlashDriver κ) (cr : UpdateCrypto κ) (activate : κ → U8 → U32 → κ × Bool) (k : κ)
    (d : UpdateDelivery) (session sequence now : U32) : κ × UpdateDelivery × DeliveryResult :=
  if d.timedOut now then (k, d.abortActive, .timedOut)
  else if !d.active || session ≠ d.sessionId || sequence ≠ d.nextSequence ||
      d.acceptedBytes ≠ d.verifier.manifest.imageSize then (k, d.protocolFailure, .protocolFailed)
  else
    let f := (d.slot d.targetSlot).finish fl cr k d.verifier
    let d := d.put d.targetSlot f.2.1 f.2.2.1
    if !f.2.2.2 then (f.1, d.abortActive, .authFailed)
    else
      let a := activate f.1 d.targetSlot d.verifier.manifest.imageVersion
      if !a.2 then (a.1, { d with active := false, sessionId := 0 }, .storageFailed)
      else (a.1, { d with active := false, completed := true, sessionId := 0 }, .ok)

/-- `openref_rt595_update_delivery_poll` (:179-185). -/
def poll (d : UpdateDelivery) (now : U32) : UpdateDelivery × Bool :=
  if d.timedOut now then (d.abortActive, true) else (d, false)

/-- `openref_rt595_update_delivery_reset` (:187-190). -/
def reset (d : UpdateDelivery) : UpdateDelivery := d.abortActive

/-! ## The slots of a delivery -/

section Fields

variable (d : UpdateDelivery) (t u : U8) (s : Staging) (v : UpdateVerifier)

theorem put_slot : (d.put t s v).slot u = if u = 0 ↔ t = 0 then s else d.slot u := by
  unfold put slot
  by_cases ht : t = 0 <;> by_cases hu : u = 0
  · rw [if_pos (iff_of_true hu ht), if_pos ht, if_pos hu]
  · have hne : ¬ (u = 0 ↔ t = 0) := fun h => hu (h.2 ht)
    rw [if_neg hne, if_pos ht, if_neg hu, if_neg hu]
  · have hne : ¬ (u = 0 ↔ t = 0) := fun h => ht (h.1 hu)
    rw [if_neg hne, if_neg ht, if_pos hu, if_pos hu]
  · rw [if_pos (iff_of_false hu ht), if_neg ht, if_neg hu]

@[simp] theorem put_slot_self : (d.put t s v).slot t = s := by
  rw [put_slot, if_pos Iff.rfl]

@[simp] theorem put_verifier : (d.put t s v).verifier = v := by
  unfold put
  split <;> rfl

@[simp] theorem put_runningSlot : (d.put t s v).runningSlot = d.runningSlot := by
  unfold put
  split <;> rfl

@[simp] theorem put_targetSlot : (d.put t s v).targetSlot = d.targetSlot := by
  unfold put
  split <;> rfl

@[simp] theorem put_sessionId : (d.put t s v).sessionId = d.sessionId := by
  unfold put
  split <;> rfl

@[simp] theorem put_nextSequence : (d.put t s v).nextSequence = d.nextSequence := by
  unfold put
  split <;> rfl

@[simp] theorem put_acceptedBytes : (d.put t s v).acceptedBytes = d.acceptedBytes := by
  unfold put
  split <;> rfl

@[simp] theorem put_active : (d.put t s v).active = d.active := by
  unfold put
  split <;> rfl

end Fields

/-- Two slot ids with the same staging are the same. -/
theorem slot_two {t u : U8} (ht : t < 2) (hu : u < 2) (h : t = 0 ↔ u = 0) : t = u := by
  by_cases h0 : t = 0
  · rw [h0, h.1 h0]
  · have hu0 : u ≠ 0 := fun hu0 => h0 (h.2 hu0)
    bv_omega

/-- What a delivery initialised as `d₀` keeps: its slots, and a staging that is active only as the
target of the session. -/
structure Shape (d₀ d : UpdateDelivery) : Prop where
  slots : ∀ t, t < 2 → SameSlot (d₀.slot t) (d.slot t)
  running : d.runningSlot = d₀.runningSlot
  platform : d.verifier.platform = d₀.verifier.platform
  idle : ∀ t, t < 2 → (d.slot t).active = true → d.active = true ∧ d.targetSlot = t
  target : d.active = true → d.targetSlot < 2 ∧ d.targetSlot ≠ d.runningSlot

/-- The invariant of a delivery: an active staging fits the verifier's manifest. -/
structure Sound (d₀ d : UpdateDelivery) : Prop extends Shape d₀ d where
  fits : d.active = true → (d.slot d.targetSlot).active = true → Fits (d.slot d.targetSlot) d.verifier

variable {d₀ d : UpdateDelivery}

/-- A delivery whose slot `t` was staged further, while no other slot is active, keeps its shape. -/
theorem Shape.staged {d' : UpdateDelivery} {t : U8} {s : Staging} {v : UpdateVerifier} (h : Shape d₀ d)
    (ht : t < 2) (hrun : t ≠ d.runningSlot) (hothers : ∀ u, u < 2 → (d.slot u).active = true → u = t)
    (hs : SameSlot (d.slot t) s) (hslot : ∀ u, d'.slot u = (d.put t s v).slot u)
    (hrunning : d'.runningSlot = d.runningSlot) (hplatform : d'.verifier.platform = d.verifier.platform)
    (hactive : s.active = true → d'.active = true) (htarget : d'.active = true → d'.targetSlot = t) :
    Shape d₀ d' := by
  have hself : d'.slot t = s := (hslot t).trans (put_slot_self d t s v)
  have hother : ∀ u, u < 2 → u ≠ t → d'.slot u = d.slot u := by
    intro u hu hne
    rw [hslot u, put_slot, if_neg fun h => hne (slot_two hu ht h)]
  refine ⟨fun u hu => ?_, hrunning.trans h.running, hplatform.trans h.platform, fun u hu hact => ?_, fun hact => ?_⟩
  · by_cases hut : u = t
    · rw [hut, hself]
      exact (h.slots t ht).trans hs
    · rw [hother u hu hut]
      exact h.slots u hu
  · by_cases hut : u = t
    · rw [hut, hself] at hact
      have hd := hactive hact
      exact ⟨hd, (htarget hd).trans hut.symm⟩
    · rw [hother u hu hut] at hact
      exact absurd (hothers u hu hact) hut
  · rw [htarget hact, hrunning]
    exact ⟨ht, hrun⟩

/-- A delivery whose session ended while no slot is active is sound. -/
theorem Shape.closed {d' : UpdateDelivery} (h : Shape d₀ d) (hslot : ∀ t, d'.slot t = d.slot t)
    (hrunning : d'.runningSlot = d.runningSlot) (hplatform : d'.verifier.platform = d.verifier.platform)
    (hactive : d'.active = false) (hidle : ∀ t, t < 2 → ¬ (d.slot t).active = true) : Sound d₀ d' := by
  have hended : ¬ d'.active = true := by simp [hactive]
  constructor
  · constructor
    · intro t ht
      rw [hslot]
      exact h.slots t ht
    · exact hrunning.trans h.running
    · exact hplatform.trans h.platform
    · intro t ht hslotActive
      rw [hslot] at hslotActive
      exact absurd hslotActive (hidle t ht)
    · exact fun hopen => absurd hopen hended
  · exact fun hopen => absurd hopen hended

/-- An abort leaves an idle delivery. -/
theorem abortActive_sound (h : Shape d₀ d) : Sound d₀ d.abortActive := by
  unfold abortActive
  dsimp only
  by_cases ha : d.active = true
  · obtain ⟨ht, hrun⟩ := h.target ha
    rw [if_pos (by rw [ha]; exact decide_eq_true ht)]
    refine ⟨h.staged ht hrun (fun u hu hact => (h.idle u hu hact).2.symm) ?_ (fun _ => rfl) (by simp) ?_ ?_ ?_, ?_⟩
    · exact ⟨rfl, rfl, rfl, rfl, rfl⟩
    · dsimp only
      rw [put_verifier]
      unfold Staging.abort
      dsimp only
      split <;> rfl
    · intro hact
      cases hact
    · intro hact
      cases hact
    · intro hact
      cases hact
  · rw [if_neg (by simp [ha])]
    refine ⟨⟨h.slots, h.running, h.platform, fun t ht hact => ?_, fun hact => ?_⟩, fun hact => ?_⟩
    · exact absurd (h.idle t ht hact).1 ha
    · cases hact
    · cases hact

/-! ## The frame -/

variable {fl : FlashDriver κ} {cr : UpdateCrypto κ} {step : κ → κ → Prop}

/-- The ranges nothing may touch. -/
def nowhere (_ _ : Nat) : Prop := False

/-- A begin touches only the slot it names, and only when it is admitted and its manifest accepted. -/
theorem begin_frame (hf : StagingFrame fl cr nowhere step) (hd : Sound d₀ d)
    (hg : ∀ t, t < 2 → Geometry (d.slot t)) (k : κ) (session : U32) (target : U8) (manifest : ManifestWire)
    (now : U32)
    (hown : d.admits session target = true → (d.verifier.begin cr k manifest).2.2 = true →
      StagingFrame fl cr (d.slot target).Owns step) :
    step k (d.begin fl cr k session target manifest now).1 ∧
      Sound d₀ (d.begin fl cr k session target manifest now).2.1 := by
  unfold begin
  cases had : d.admits session target with
  | false => exact ⟨hf.refl k, ⟨⟨hd.slots, hd.running, hd.platform, hd.idle, hd.target⟩, hd.fits⟩⟩
  | true =>
    have hv := Staging.verifier_begin_frame hf k d.verifier manifest
    have hplatform := UpdateVerifier.begin_platform cr k d.verifier manifest
    have hidle : d.active = false := by
      simp only [admits, Bool.and_eq_true, Bool.not_eq_true'] at had
      exact had.1.1.1.1
    have hquiet : ∀ t, t < 2 → (d.slot t).active = false := by
      intro t ht
      cases hact : (d.slot t).active with
      | false => rfl
      | true => rw [(hd.idle t ht hact).1] at hidle; cases hidle
    obtain ⟨ht, hrun⟩ : target < 2 ∧ target ≠ d.runningSlot := by
      simp only [admits, Bool.and_eq_true, decide_eq_true_eq] at had
      exact ⟨had.1.2, had.2⟩
    have hothers : ∀ u, u < 2 → (d.slot u).active = true → u = target := by
      intro u hu hact
      rw [hquiet u hu] at hact
      cases hact
    simp only [Bool.not_true, Bool.false_eq_true, if_false]
    cases hok : (d.verifier.begin cr k manifest).2.2 with
    | false =>
      refine ⟨hv, ⟨⟨hd.slots, hd.running, hplatform.trans hd.platform, hd.idle, hd.target⟩, fun ha => ?_⟩⟩
      exact absurd (ha.symm.trans hidle) (by decide)
    | true =>
      obtain ⟨hkept, hfits⟩ := Staging.start_frame (hown had hok) (hg target ht) (d.verifier.begin cr k manifest).1
        (d.verifier.begin cr k manifest).2.1
      have hfailed := Staging.start_failed fl (d.verifier.begin cr k manifest).1 (hquiet target ht)
        (d.verifier.begin cr k manifest).2.1
      simp only [Bool.not_true, Bool.false_eq_true, if_false]
      have hslot : (d.reserve session target now).slot target = d.slot target := rfl
      rw [hslot]
      generalize (d.slot target).start fl (d.verifier.begin cr k manifest).1
        (d.verifier.begin cr k manifest).2.1 = r at hkept hfits hfailed ⊢
      have hstep := hf.trans hv hkept.context
      have hsame := hkept.verifier.platform.trans hplatform
      have hput (s : Staging) (v : UpdateVerifier) (u : U8) :
          ((d.reserve session target now).put target s v).slot u = (d.put target s v).slot u := by
        rw [put_slot, put_slot]
        rfl
      cases hstart : r.2.2.2 with
      | false =>
        refine ⟨hstep, ⟨hd.toShape.staged ht hrun hothers hkept.slot (hput _ _) (by simp [reserve]) ?_ ?_ ?_, ?_⟩⟩
        · simp only [Bool.not_false, if_true, put_verifier]
          exact hsame
        · intro hact
          rw [hfailed hstart] at hact
          cases hact
        · intro hact
          simp [reserve, hidle] at hact
        · intro hact
          simp [reserve, hidle] at hact
      | true =>
        simp only [Bool.not_true, Bool.false_eq_true, if_false]
        refine ⟨hstep, ⟨hd.toShape.staged ht hrun hothers hkept.slot (hput _ _) (by simp [reserve]) ?_
          (fun _ => rfl) fun _ => by simp [reserve], fun _ _ => ?_⟩⟩
        · rw [put_verifier]
          exact hsame
        · have hd' : ((d.reserve session target now).put target r.2.1 r.2.2.1).targetSlot = target := by
            simp [reserve]
          rw [hd', put_verifier]
          exact (put_slot_self (d.reserve session target now) target r.2.1 r.2.2.1).symm ▸ hfits hstart

/-- The session after a begin: the one before it, or a new one for the slot that was named. -/
theorem begin_target (fl : FlashDriver κ) (cr : UpdateCrypto κ) (k : κ) (d : UpdateDelivery) (session : U32)
    (target : U8) (manifest : ManifestWire) (now : U32)
    (h : (d.begin fl cr k session target manifest now).2.1.active = true) :
    (d.active = true ∧ (d.begin fl cr k session target manifest now).2.1.targetSlot = d.targetSlot) ∨
      (d.admits session target = true ∧ (d.verifier.begin cr k manifest).2.2 = true ∧
        (d.begin fl cr k session target manifest now).2.1.targetSlot = target) := by
  unfold begin at h ⊢
  cases hadm : d.admits session target with
  | false =>
    rw [hadm] at h
    exact .inl ⟨h, rfl⟩
  | true =>
    rw [hadm] at h
    simp only [Bool.not_true, Bool.false_eq_true, if_false] at h ⊢
    cases hacc : (d.verifier.begin cr k manifest).2.2 with
    | false =>
      rw [hacc] at h
      exact .inl ⟨h, rfl⟩
    | true =>
      refine .inr ⟨trivial, rfl, ?_⟩
      rw [hacc] at h
      simp only [Bool.not_true, Bool.false_eq_true, if_false] at h ⊢
      split
      · rw [put_targetSlot]
        rfl
      · rw [put_targetSlot]
        rfl

/-- An admitted begin with an accepted manifest erases the manifest sector of the slot it names. -/
theorem begin_erases {P : κ → Prop} {target : U8}
    (herase : ∀ k, P (fl.erase k (d.slot target).manifestBase (d.slot target).sectorBytes).1)
    (hkeep : ∀ k a n, P k → P (fl.erase k a n).1) (hd : Sound d₀ d) (hg : Geometry (d.slot target))
    (hcap : d.verifier.platform.maximumImageBytes ≤ (d.slot target).capacity) (k : κ) {session : U32}
    {manifest : ManifestWire} (now : U32) (hadm : d.admits session target = true)
    (hacc : (d.verifier.begin cr k manifest).2.2 = true) :
    P (d.begin fl cr k session target manifest now).1 := by
  obtain ⟨-, -, hpermits, hmanifest, hv, hv'⟩ := UpdateVerifier.begin_some hacc
  simp only [UpdatePlatform.permits, Bool.and_eq_true, decide_eq_true_eq] at hpermits
  have hpos : 0 < manifest.manifest.imageSize := hpermits.1.1.1.1.2
  have hmax : manifest.manifest.imageSize ≤ d.verifier.platform.maximumImageBytes := hpermits.1.1.1.2
  have hadm' := hadm
  simp only [admits, Bool.and_eq_true, Bool.not_eq_true', decide_eq_true_eq] at hadm'
  have ht : target < 2 := hadm'.1.2
  have hs : (d.slot target).active = false := by
    cases hact : (d.slot target).active with
    | false => rfl
    | true => exact absurd ((hd.idle target ht hact).1.symm.trans hadm'.1.1.1.1) (by decide)
  have hstart := Staging.start_erases herase hkeep hg (d.verifier.begin cr k manifest).1 hs hv hv'
    (by rw [hmanifest]; exact hpos) (by rw [hmanifest]; exact BitVec.le_trans hmax hcap)
  unfold begin
  rw [hadm]
  simp only [Bool.not_true, Bool.false_eq_true, if_false]
  rw [hacc]
  simp only [Bool.not_true, Bool.false_eq_true, if_false]
  split
  · exact hstart
  · exact hstart

/-- A target staged further in an active session. -/
theorem Shape.put (h : Shape d₀ d) (ha : d.active = true) {s : Staging} (hs : SameSlot (d.slot d.targetSlot) s)
    {v : UpdateVerifier} (hv : d.verifier.Same v) : Shape d₀ (d.put d.targetSlot s v) := by
  obtain ⟨ht, hrun⟩ := h.target ha
  refine h.staged ht hrun (fun u hu hact => (h.idle u hu hact).2.symm) hs (fun _ => rfl) (by simp) ?_ ?_ ?_
  · rw [put_verifier]
    exact hv.platform
  · intro _
    rw [put_active]
    exact ha
  · intro _
    exact put_targetSlot d d.targetSlot s v

theorem protocolFailure_sound (h : Sound d₀ d) : Sound d₀ d.protocolFailure :=
  abortActive_sound ⟨h.slots, h.running, h.platform, h.idle, h.target⟩

/-- A chunk touches only the target of the session. -/
theorem chunk_frame (hf : StagingFrame fl cr nowhere step) (hd : Sound d₀ d)
    (hg : ∀ t, t < 2 → Geometry (d.slot t)) (k : κ) (session sequence offset : U32) (data : List U8) (now : U32)
    (hown : d.active = true → StagingFrame fl cr (d.slot d.targetSlot).Owns step) :
    step k (d.chunk fl cr k session sequence offset data now).1 ∧
      Sound d₀ (d.chunk fl cr k session sequence offset data now).2.1 := by
  unfold chunk
  split
  · exact ⟨hf.refl k, abortActive_sound hd.toShape⟩
  · split
    · exact ⟨hf.refl k, protocolFailure_sound hd⟩
    · rename_i hguard
      simp only [Bool.or_eq_true, Bool.not_eq_true', decide_eq_true_eq, not_or, Bool.not_eq_false,
        Nat.not_lt] at hguard
      have ha : d.active = true := hguard.1.1.1.1.1.1.1
      have hmax : data.length ≤ updateMaxChunkBytes := hguard.1.1.2
      have hlen : data.length < 2 ^ 32 := by
        unfold updateMaxChunkBytes at hmax
        omega
      obtain ⟨ht, -⟩ := hd.target ha
      obtain ⟨hkept, hfits⟩ := Staging.write_frame (hown ha) (hg d.targetSlot ht) k (hd.fits ha) hlen
      dsimp only
      generalize (d.slot d.targetSlot).write fl cr k d.verifier data = w at hkept hfits ⊢
      have hshape := hd.toShape.put ha hkept.slot hkept.verifier
      cases hw : w.2.2.2 with
      | false => exact ⟨hkept.context, abortActive_sound hshape⟩
      | true =>
        simp only [Bool.not_true, Bool.false_eq_true, if_false]
        refine ⟨hkept.context, ⟨⟨hshape.slots, hshape.running, hshape.platform, hshape.idle, hshape.target⟩, ?_⟩⟩
        intro _ _
        have hself := put_slot_self d d.targetSlot w.2.1 w.2.2.1
        rw [put_verifier, put_targetSlot]
        exact hself.symm ▸ hfits hw

/-- A chunk starts no session. -/
theorem chunk_target (fl : FlashDriver κ) (cr : UpdateCrypto κ) (k : κ) (d : UpdateDelivery)
    (session sequence offset : U32) (data : List U8) (now : U32)
    (h : (d.chunk fl cr k session sequence offset data now).2.1.active = true) :
    d.active = true ∧ (d.chunk fl cr k session sequence offset data now).2.1.targetSlot = d.targetSlot := by
  unfold chunk at h ⊢
  split
  · rename_i ht
    rw [if_pos ht] at h
    cases h
  · rename_i ht
    rw [if_neg ht] at h
    split
    · rename_i hc
      rw [if_pos hc] at h
      cases h
    · rename_i hc
      rw [if_neg hc] at h
      dsimp only at h ⊢
      split
      · rename_i hw
        rw [if_pos hw] at h
        cases h
      · rename_i hw
        rw [if_neg hw] at h
        exact ⟨(put_active d d.targetSlot _ _).symm.trans h, put_targetSlot d d.targetSlot _ _⟩

/-- After a finish no session is active. -/
theorem finish_target (fl : FlashDriver κ) (cr : UpdateCrypto κ) (activate : κ → U8 → U32 → κ × Bool) (k : κ)
    (d : UpdateDelivery) (session sequence now : U32) :
    (d.finish fl cr activate k session sequence now).2.1.active = false := by
  unfold finish
  split
  · rfl
  · split
    · rfl
    · dsimp only
      split
      · rfl
      · split
        · rfl
        · rfl

/-- A finish touches only the target of the session, and what an activation touches. -/
theorem finish_frame {activate : κ → U8 → U32 → κ × Bool} (hf : StagingFrame fl cr nowhere step)
    (hactivate : ∀ k slot version, step k (activate k slot version).1) (hd : Sound d₀ d)
    (hg : ∀ t, t < 2 → Geometry (d.slot t)) (k : κ) (session sequence now : U32)
    (hown : d.active = true → StagingFrame fl cr (d.slot d.targetSlot).Owns step) :
    step k (d.finish fl cr activate k session sequence now).1 ∧
      Sound d₀ (d.finish fl cr activate k session sequence now).2.1 := by
  unfold finish
  split
  · exact ⟨hf.refl k, abortActive_sound hd.toShape⟩
  · split
    · exact ⟨hf.refl k, protocolFailure_sound hd⟩
    · rename_i hguard
      simp only [Bool.or_eq_true, Bool.not_eq_true', decide_eq_true_eq, not_or, Bool.not_eq_false] at hguard
      have ha : d.active = true := hguard.1.1.1
      obtain ⟨ht, hrun⟩ := hd.target ha
      obtain ⟨hkept, hdone⟩ := Staging.finish_frame (hown ha) (hg d.targetSlot ht) k (hd.fits ha)
      dsimp only
      generalize (d.slot d.targetSlot).finish fl cr k d.verifier = f at hkept hdone ⊢
      have hshape := hd.toShape.put ha hkept.slot hkept.verifier
      cases hok : f.2.2.2 with
      | false => exact ⟨hkept.context, abortActive_sound hshape⟩
      | true =>
        have hact := hactivate f.1 (d.put d.targetSlot f.2.1 f.2.2.1).targetSlot
          (d.put d.targetSlot f.2.1 f.2.2.1).verifier.manifest.imageVersion
        simp only [Bool.not_true, Bool.false_eq_true, if_false]
        generalize activate f.1 (d.put d.targetSlot f.2.1 f.2.2.1).targetSlot
          (d.put d.targetSlot f.2.1 f.2.2.1).verifier.manifest.imageVersion = a at hact ⊢
        have hcontext := hf.trans hkept.context hact
        -- the target is no longer active, so the session can end
        have hidle : ∀ t, t < 2 → ¬ ((d.put d.targetSlot f.2.1 f.2.2.1).slot t).active = true := by
          intro t ht' hactive
          obtain ⟨-, htarget⟩ := hshape.idle t ht' hactive
          rw [put_targetSlot] at htarget
          rw [← htarget, put_slot_self, hdone hok] at hactive
          cases hactive
        split
        · exact ⟨hcontext, hshape.closed (fun _ => rfl) rfl rfl rfl hidle⟩
        · exact ⟨hcontext, hshape.closed (fun _ => rfl) rfl rfl rfl hidle⟩

theorem poll_sound (hd : Sound d₀ d) (now : U32) : Sound d₀ (d.poll now).1 := by
  unfold poll
  split
  · exact abortActive_sound hd.toShape
  · exact hd

/-- A delivery that was just initialised is sound. -/
theorem init_sound {a b : Staging} {running : U8} {executingBase executingCapacity timeout : U32}
    {platform : UpdatePlatform} (ha : a.active = false) (hb : b.active = false)
    (h : init a b running executingBase executingCapacity timeout platform = some d) :
    Sound d d ∧ d.slotA = a ∧ d.slotB = b ∧ d.active = false ∧ d.verifier.platform = platform := by
  unfold init at h
  split at h
  · cases h
  · cases hv : UpdateVerifier.init platform with
    | none => rw [hv] at h; cases h
    | some v =>
      have hplatform : v.platform = platform := by
        unfold UpdateVerifier.init at hv
        split at hv
        · cases hv
        · cases hv
          rfl
      rw [hv] at h
      obtain ⟨-, h⟩ := Option.ite_none_left_eq_some.1 h
      cases h
      refine ⟨⟨⟨fun t _ => SameSlot.refl _, rfl, rfl, fun t _ hact => ?_, fun hact => ?_⟩, fun hact => ?_⟩,
        rfl, rfl, rfl, hplatform⟩
      · unfold slot at hact
        split at hact
        · exact absurd (hact.symm.trans ha) (by decide)
        · exact absurd (hact.symm.trans hb) (by decide)
      · cases hact
      · cases hact

end UpdateDelivery

end OpenRef.Update
