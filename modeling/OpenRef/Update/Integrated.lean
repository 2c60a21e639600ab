import OpenRef.Boot.Confirmation
import OpenRef.Lib.Run
import OpenRef.Update.Delivery
import OpenRef.Update.FlashRecords
/-!
# Updates in the integrated target (integrated_target/openref_rt595_integrated.c:33-168)

The application of one slot loads the boot state, sets up the update delivery and
then takes update messages. The delivery keeps off the slot that runs; the boot
policy keeps the confirmed slot bootable. During a trial these are two slots.

`fallback_intact_iff`: a run leaves the confirmed slot alone exactly when no begin
that the delivery and the verifier accept names it; a reset finds the record of that
slot in either case. `trial_costs_fallback`: during a trial such a begin erases it.

Calls into the flash may fail and leave anything in their range; the crypto
callbacks are parameters.
-/

namespace OpenRef.Update

open Boot

/-! ## The staging driver -/

/-- `rd`, `er` and `pg` (openref_rt595_update_staging_mcux.c:3-5). The ROM gets the whole address, which is taken to be
the flash that the memory map shows there. -/
def updateDriver (pageSize : U32) : FlashDriver Flash where
  read f a n := if updateMaxPageBytes < n || n % 4 ≠ 0 then (f, none) else f.read a.toNat n.toNat
  erase f a n := f.erase a.toNat n.toNat
  program f a data :=
    let n := BitVec.ofNat 32 data.length
    if n ≠ pageSize || updateMaxPageBytes < n || a % n ≠ 0 then (f, false) else f.program a.toNat data

/-! ## The layout -/

/-- `OPENREF_SLOT_A_MANIFEST`, `OPENREF_SLOT_B_MANIFEST`. -/
def slotManifest (slot : U8) : U32 := if slot = 0 then 0x08040000 else 0x08100000
/-- `OPENREF_SLOT_A_IMAGE`, `OPENREF_SLOT_B_IMAGE`. -/
def slotImage (slot : U8) : U32 := if slot = 0 then 0x08041000 else 0x08101000
/-- `OPENREF_SLOT_CAPACITY`. -/
def slotCapacity : U32 := 0xbf000
/-- `OPENREF_HARDWARE_ID`. -/
def hardwareId : U32 := 0x59500001
/-- `OPENREF_BOOTLOADER_VERSION`. -/
def bootloaderVersion : U32 := 1
/-- `OPENREF_UPDATE_TIMEOUT_US`. -/
def updateTimeoutUs : U32 := 5000000

/-- An address in the manifest sector or the image region of a slot. -/
def InSlot (slot : U8) (x : Nat) : Prop :=
  (slotManifest slot).toNat ≤ x ∧ x < (slotImage slot).toNat + slotCapacity.toNat

instance (slot : U8) (x : Nat) : Decidable (InSlot slot x) := inferInstanceAs (Decidable (_ ∧ _))

/-- What the build fixes: `OPENREF_CURRENT_SLOT`, `OPENREF_IMAGE_VERSION` and the geometry in
`flash_config`. -/
structure TargetBuild where
  currentSlot : U8
  imageVersion : U32
  sectorSize : U32
  pageSize : U32
  current_slot_lt : currentSlot < 2
  image_version_pos : 0 < imageVersion

/-- The flash, the crypto context, and the boot state with its record backend. -/
structure UpdateDevice (γ : Type) where
  flash : Flash
  crypto : γ
  records : Rt595ConfigBackend
  records_fit : RecordsFit records
  boot : Rt595BootState

variable {γ : Type}

namespace UpdateDevice

/-- The staging driver on the device. -/
def driver (pageSize : U32) : FlashDriver (UpdateDevice γ) where
  read k a n :=
    let r := (updateDriver pageSize).read k.flash a n
    ({ k with flash := r.1 }, r.2)
  erase k a n :=
    let r := (updateDriver pageSize).erase k.flash a n
    ({ k with flash := r.1 }, r.2)
  program k a data :=
    let r := (updateDriver pageSize).program k.flash a data
    ({ k with flash := r.1 }, r.2)

/-- The crypto callbacks on the device. -/
def callbacks (cr : UpdateCrypto γ) : UpdateCrypto (UpdateDevice γ) where
  verifySignature k signed keyId signature :=
    let r := cr.verifySignature k.crypto signed keyId signature
    ({ k with crypto := r.1 }, r.2)
  hashBegin k :=
    let r := cr.hashBegin k.crypto
    ({ k with crypto := r.1 }, r.2)
  hashUpdate k data :=
    let r := cr.hashUpdate k.crypto data
    ({ k with crypto := r.1 }, r.2)
  hashFinish k :=
    let r := cr.hashFinish k.crypto
    ({ k with crypto := r.1 }, r.2)

/-- `activate_candidate` (:98-105). -/
def activateCandidate (build : TargetBuild) (k : UpdateDevice γ) (slot : U8) (version : U32) :
    UpdateDevice γ × Bool :=
  let slots := BootSlots.zero.put build.currentSlot ⟨true, true, build.imageVersion⟩
  let slots := slots.put slot ⟨true, true, version⟩
  let r := k.boot.stage (k.records.backend (configDriver build.pageSize)) k.flash slot slots
  ({ k with flash := r.1, boot := r.2.1 }, r.2.2)

end UpdateDevice

/-! ## The start -/

/-- `openref_rt595_boot_state_mcux_init` with the arguments of :86-87; its other checks are on pointers. -/
def bootStateMcuxInit (build : TargetBuild) : Option Rt595ConfigBackend :=
  Rt595ConfigBackend.init rt595FlashBase rt595FlashEnd bootStateBase bootStateBase build.sectorSize build.pageSize

theorem bootStateMcuxInit_fits {build : TargetBuild} {records : Rt595ConfigBackend}
    (h : bootStateMcuxInit build = some records) : RecordsFit records := by
  obtain ⟨rfl, hmin, hle, hsector⟩ := Rt595ConfigBackend.init_some h
  exact ⟨rfl, ⟨hmin, hle⟩, hsector⟩

/-- `confirmation_storage_init` (:74-96), `none` for false; `placed` says that the image runs in the
slot it was built for. -/
def confirmationStorageInit (build : TargetBuild) (placed : Bool) (f : Flash) (g : γ) : Option (UpdateDevice γ) :=
  if !placed then none
  else
    match h : bootStateMcuxInit build with
    | none => none
    | some records =>
      let r := Rt595BootState.init.load (records.backend (configDriver build.pageSize)) f
      if !r.2.2 then none
      else
        let k : UpdateDevice γ := ⟨r.1, g, records, bootStateMcuxInit_fits h, r.2.1⟩
        if k.boot.state.pendingSlot ≠ build.currentSlot || k.boot.state.pendingAttempts = 0 ||
            k.boot.state.confirmedSlot = build.currentSlot then some k
        else
          let slots := BootSlots.zero.put build.currentSlot ⟨true, true, build.imageVersion⟩
          if (AppConfirmation.init k.boot build.currentSlot slots).2 then some k else none

/-- `openref_rt595_update_staging_mcux_init` (openref_rt595_update_staging_mcux.c:6) for one slot. -/
def stagingMcuxInit (build : TargetBuild) (slot : U8) : Option Staging :=
  if rt595FlashEnd ≤ slotManifest slot || rt595FlashEnd ≤ slotImage slot ||
      rt595FlashEnd - slotImage slot < slotCapacity then none
  else Staging.init (slotManifest slot) (slotImage slot) slotCapacity build.sectorSize build.pageSize

/-- `update_delivery_init` (:107-135); `trusted` says that a trust anchor is built in and accepted by the
crypto. -/
def updateDeliveryInit (build : TargetBuild) (trusted : Bool) (k : UpdateDevice γ) : Option UpdateDelivery :=
  let minimum := k.boot.state.minimumVersion
  let floor := if minimum < build.imageVersion then build.imageVersion else minimum
  if !trusted then none
  else
    match stagingMcuxInit build 0, stagingMcuxInit build 1 with
    | some a, some b =>
      UpdateDelivery.init a b build.currentSlot (slotImage build.currentSlot) slotCapacity updateTimeoutUs
        ⟨targetAudio, hardwareId, bootloaderVersion, floor, floor, slotCapacity⟩
    | _, _ => none

/-- The device and the delivery, `none` while `update_ready` is false. -/
structure Integrated (γ : Type) where
  device : UpdateDevice γ
  delivery : Option UpdateDelivery

namespace Integrated

/-- The start of the application up to its loop (:261-266), `none` when it stops there. The flash holds
`mem` and has seen no erase or program yet. -/
def start (build : TargetBuild) (placed trusted : Bool) (mem : Nat → U8) (g : γ) : Option (Integrated γ) :=
  (confirmationStorageInit build placed ⟨mem, [], []⟩ g).map fun k => ⟨k, updateDeliveryInit build trusted k⟩

/-! ## Messages -/

/-- The calls of the command demultiplexer (:141-168), and the poll of the loop (:270). -/
inductive UpdateMessage where
  | begin (session : U32) (slot : U8) (manifest : ManifestWire) (now : U32)
  | chunk (session sequence offset : U32) (data : List U8) (now : U32)
  | finish (session sequence now : U32)
  | poll (now : U32)
  | reset

/-- A message, and how the flash calls made for it end. -/
structure UpdateInput where
  message : UpdateMessage
  calls : List FlashCall

/-- One message taken. -/
def take (build : TargetBuild) (cr : UpdateCrypto γ) (k : UpdateDevice γ) (d : UpdateDelivery) :
    UpdateMessage → UpdateDevice γ × UpdateDelivery
  | .begin session slot manifest now =>
    let r := d.begin (UpdateDevice.driver build.pageSize) (UpdateDevice.callbacks cr) k session slot manifest now
    (r.1, r.2.1)
  | .chunk session sequence offset data now =>
    let r := d.chunk (UpdateDevice.driver build.pageSize) (UpdateDevice.callbacks cr) k session sequence offset
      data now
    (r.1, r.2.1)
  | .finish session sequence now =>
    let r := d.finish (UpdateDevice.driver build.pageSize) (UpdateDevice.callbacks cr)
      (UpdateDevice.activateCandidate build) k session sequence now
    (r.1, r.2.1)
  | .poll now => (k, (d.poll now).1)
  | .reset => (k, d.reset)

/-- The device as the calls of the next message will find it. -/
def scripted (k : UpdateDevice γ) (calls : List FlashCall) : UpdateDevice γ :=
  { k with flash := { k.flash with calls := calls } }

/-- One input: without a delivery a message is rejected. -/
def step (build : TargetBuild) (cr : UpdateCrypto γ) (w : Integrated γ) (i : UpdateInput) : Integrated γ :=
  match w.delivery with
  | none => w
  | some d =>
    let r := take build cr (scripted w.device i.calls) d i.message
    ⟨r.1, some r.2⟩

/-- A run of messages. -/
def run (build : TargetBuild) (cr : UpdateCrypto γ) (w : Integrated γ) (is : List UpdateInput) : Integrated γ :=
  is.foldl (step build cr) w

/-! ## What a message touches -/

/-- The frame of a message: what happened to the flash stayed in `R`, the confirmed slot is the same. -/
structure Stays (R : Nat → Prop) (k l : UpdateDevice γ) : Prop where
  flash : Flash.Confined R k.flash l.flash
  confirmed : l.boot.state.confirmedSlot = k.boot.state.confirmedSlot

variable {R : Nat → Prop}

theorem Stays.refl (k : UpdateDevice γ) : Stays R k k := ⟨.refl R _, rfl⟩

theorem Stays.trans {k l m : UpdateDevice γ} (h : Stays R k l) (h' : Stays R l m) : Stays R k m :=
  ⟨h.flash.trans h'.flash, h'.confirmed.trans h.confirmed⟩

/-- Erases and programs of ranges in `R` stay in `R`. -/
theorem driver_frame {pageSize : U32} {cr : UpdateCrypto γ} {allowed : Nat → Nat → Prop}
    (hR : ∀ a n, allowed a n → ∀ x, a ≤ x → x < a + n → R x) :
    Staging.StagingFrame (UpdateDevice.driver pageSize) (UpdateDevice.callbacks cr) allowed (Stays R) where
  refl := Stays.refl
  trans := Stays.trans
  read k a n := by
    refine ⟨?_, rfl⟩
    dsimp only [UpdateDevice.driver, updateDriver]
    split
    · exact .refl R _
    · exact .read R _ _ _
  erase k a n h := by
    refine ⟨?_, rfl⟩
    exact Flash.Confined.write (fun x hx => hR _ _ h x hx.1 hx.2) _ _
  program k a data h := by
    refine ⟨?_, rfl⟩
    dsimp only [UpdateDevice.driver, updateDriver]
    split
    · exact .refl R _
    · exact Flash.Confined.write (fun x hx => hR _ _ h x hx.1 hx.2) _ _
  verifySignature _ _ _ _ := ⟨.refl R _, rfl⟩
  hashBegin _ := ⟨.refl R _, rfl⟩
  hashUpdate _ _ := ⟨.refl R _, rfl⟩
  hashFinish _ := ⟨.refl R _, rfl⟩

/-- A save of the boot state stays in its two sectors. -/
theorem records_frame {records : Rt595ConfigBackend} (h : RecordsFit records) (hR : ∀ x, InBootState x → R x)
    (pageSize : U32) : BackendFrame (records.backend (configDriver pageSize)) (Flash.Confined R) where
  refl := .refl R
  trans := .trans
  readSlot f slot := by
    dsimp only [Rt595ConfigBackend.backend, configDriver]
    split
    · exact .refl R f
    · exact .refl R f
  writeSlot f slot r := by
    have herase : ∀ g, Flash.Confined R g
        ((configDriver pageSize).erase g (records.address slot) records.sectorBytes).1 := by
      intro g
      dsimp only [configDriver]
      split
      · exact .refl R g
      · exact Flash.Confined.write (fun x hx => hR x (h.range slot hx.1 hx.2)) g _
    have hprogram : ∀ g, Flash.Confined R g
        ((configDriver pageSize).program g (records.address slot) (records.page r)).1 := by
      intro g
      have hlen : (records.page r).length ≤ records.sectorBytes.toNat := by
        have hpage := h.page
        rw [Rt595ConfigBackend.page, List.length_append, List.length_replicate, r.length_eq]
        omega
      dsimp only [configDriver]
      split
      · exact .refl R g
      · refine Flash.Confined.write (fun x hx => hR x (h.range slot hx.1 ?_)) g _
        exact Nat.lt_of_lt_of_le hx.2 (Nat.add_le_add_left hlen _)
    have hread : ∀ g a n, Flash.Confined R g ((configDriver pageSize).read g a n).1 := by
      intro g a n
      dsimp only [configDriver]
      split
      · exact .refl R g
      · exact .refl R g
    dsimp only [Rt595ConfigBackend.backend]
    split
    · exact .refl R f
    · split
      · exact herase f
      · split
        · exact (herase f).trans (hprogram _)
        · exact ((herase f).trans (hprogram _)).trans (hread _ _ _)

theorem activate_frame (hR : ∀ x, InBootState x → R x) (build : TargetBuild) (k : UpdateDevice γ) (slot : U8)
    (version : U32) : Stays R k (k.activateCandidate build slot version).1 where
  flash := Rt595BootState.stage_frame (records_frame k.records_fit hR build.pageSize) _ _ _ _
  confirmed := Rt595BootState.stage_confirmedSlot _ _ _ _ _

/-! ## The slots of the target -/

/-- A delivery over the two slots of the layout. -/
structure Wired (d : UpdateDelivery) : Prop where
  geometry : ∀ t, t < 2 → Staging.Geometry (d.slot t)
  manifestBase : ∀ t, t < 2 → (d.slot t).manifestBase = slotManifest t
  base : ∀ t, t < 2 → (d.slot t).base = slotImage t
  capacity : ∀ t, t < 2 → (d.slot t).capacity = slotCapacity
  maximum : d.verifier.platform.maximumImageBytes = slotCapacity

theorem slot_cases {t : U8} (ht : t < 2) : t = 0 ∨ t = 1 := by
  rcases Nat.lt_or_ge t.toNat 1 with h | h
  · exact .inl (by bv_omega)
  · exact .inr (by bv_omega)

theorem Wired.owns {d : UpdateDelivery} (h : Wired d) {t : U8} (ht : t < 2) {a n x : Nat}
    (ho : (d.slot t).Owns a n) (hlo : a ≤ x) (hhi : x < a + n) : InSlot t x := by
  obtain ⟨h1, h2⟩ := ho
  rw [h.manifestBase t ht] at h1
  rw [h.base t ht, h.capacity t ht] at h2
  exact ⟨by omega, by omega⟩

theorem Wired.of_slots {d₀ d : UpdateDelivery} (h : Wired d₀) (hd : UpdateDelivery.Shape d₀ d) : Wired d where
  geometry t ht := (h.geometry t ht).of_sameSlot (hd.slots t ht)
  manifestBase t ht := (hd.slots t ht).manifestBase.trans (h.manifestBase t ht)
  base t ht := (hd.slots t ht).base.trans (h.base t ht)
  capacity t ht := (hd.slots t ht).capacity.trans (h.capacity t ht)
  maximum := by rw [hd.platform]; exact h.maximum

theorem stagingMcuxInit_some {build : TargetBuild} {t : U8} {s : Staging} (h : stagingMcuxInit build t = some s) :
    s.active = false ∧ Staging.Geometry s ∧ s.manifestBase = slotManifest t ∧ s.base = slotImage t ∧
      s.capacity = slotCapacity := by
  unfold stagingMcuxInit at h
  split at h
  · cases h
  · obtain ⟨rfl, hg⟩ := Staging.init_some h
    exact ⟨rfl, hg, rfl, rfl, rfl⟩

theorem updateDeliveryInit_wired {build : TargetBuild} {trusted : Bool} {k : UpdateDevice γ} {d : UpdateDelivery}
    (h : updateDeliveryInit build trusted k = some d) : UpdateDelivery.Sound d d ∧ Wired d ∧ d.active = false := by
  unfold updateDeliveryInit at h
  dsimp only at h
  split at h
  · cases h
  · split at h
    · rename_i a b ha hb
      obtain ⟨ha1, ha2, ha3, ha4, ha5⟩ := stagingMcuxInit_some ha
      obtain ⟨hb1, hb2, hb3, hb4, hb5⟩ := stagingMcuxInit_some hb
      obtain ⟨hsound, hA, hB, hactive, hplatform⟩ := UpdateDelivery.init_sound ha1 hb1 h
      have h0 : d.slot 0 = a := hA
      have h1 : d.slot 1 = b := hB
      have both {P : U8 → Staging → Prop} (hP0 : P 0 a) (hP1 : P 1 b) : ∀ t, t < 2 → P t (d.slot t) := by
        intro t ht
        rcases slot_cases ht with rfl | rfl
        · rw [h0]; exact hP0
        · rw [h1]; exact hP1
      refine ⟨hsound, ⟨both (P := fun _ s => Staging.Geometry s) ha2 hb2, ?_, ?_, ?_, by rw [hplatform]⟩, hactive⟩
      · exact both (P := fun t s => s.manifestBase = slotManifest t) ha3 hb3
      · exact both (P := fun t s => s.base = slotImage t) ha4 hb4
      · exact both (P := fun _ s => s.capacity = slotCapacity) ha5 hb5
    · cases h

/-! ## The invariant -/

/-- A session for slot `t` is open. -/
def Open (w : Integrated γ) (t : U8) : Prop := ∃ d, w.delivery = some d ∧ d.active = true ∧ d.targetSlot = t

/-- The input is a begin for slot `t` that the delivery admits, with a manifest the verifier accepts. -/
def Starts (cr : UpdateCrypto γ) (w : Integrated γ) (i : UpdateInput) (t : U8) : Prop :=
  match w.delivery, i.message with
  | some d, .begin session slot manifest _ =>
    slot = t ∧ d.admits session slot = true ∧
      (d.verifier.begin (UpdateDevice.callbacks cr) (scripted w.device i.calls) manifest).2.2 = true
  | _, _ => False

instance (cr : UpdateCrypto γ) (w : Integrated γ) (i : UpdateInput) (t : U8) : Decidable (Starts cr w i t) := by
  unfold Starts
  split
  · exact inferInstance
  · exact inferInstance

/-- What holds in every state of a run. -/
structure Inv (w : Integrated γ) : Prop where
  confirmed : slotIdValid w.device.boot.state.confirmedSlot = true
  delivery : ∀ d, w.delivery = some d → ∃ d₀, UpdateDelivery.Sound d₀ d ∧ Wired d₀

variable {build : TargetBuild} {cr : UpdateCrypto γ}

/-- **The step lemma.** A message stages the slot of the open session or of a session it starts, and activates. -/
theorem step_frame {Q : UpdateDevice γ → UpdateDevice γ → Prop} {w : Integrated γ} (hw : Inv w) (i : UpdateInput)
    (hf : Staging.StagingFrame (UpdateDevice.driver build.pageSize) (UpdateDevice.callbacks cr)
      UpdateDelivery.nowhere Q)
    (hslot : ∀ t, t < 2 → Open w t ∨ Starts cr w i t → Staging.StagingFrame (UpdateDevice.driver build.pageSize)
      (UpdateDevice.callbacks cr) (fun a n => ∀ x, a ≤ x → x < a + n → InSlot t x) Q)
    (hactivate : ∀ k slot version, Q k (UpdateDevice.activateCandidate build k slot version).1) :
    step build cr w i = w ∨ (Q (scripted w.device i.calls) (step build cr w i).device ∧
      ∀ d, (step build cr w i).delivery = some d → ∃ d₀, UpdateDelivery.Sound d₀ d ∧ Wired d₀) := by
  unfold step
  cases hd : w.delivery with
  | none => exact .inl rfl
  | some d =>
    obtain ⟨d₀, hsound, hwired⟩ := hw.delivery d hd
    have hwired' := hwired.of_slots hsound.toShape
    -- the slot of a session may be staged
    have hown : ∀ t, t < 2 → Open w t ∨ Starts cr w i t → Staging.StagingFrame (UpdateDevice.driver build.pageSize)
        (UpdateDevice.callbacks cr) (d.slot t).Owns Q := by
      intro t ht ho
      exact (hslot t ht ho).mono fun a n h x hlo hhi => hwired'.owns ht h hlo hhi
    have hactive : d.active = true → Staging.StagingFrame (UpdateDevice.driver build.pageSize)
        (UpdateDevice.callbacks cr) (d.slot d.targetSlot).Owns Q :=
      fun ha => hown _ (hsound.target ha).1 (.inl ⟨d, hd, ha, rfl⟩)
    -- it is enough to treat the message itself
    have hfinish {k : UpdateDevice γ} {d' : UpdateDelivery} (h : Q (scripted w.device i.calls) k)
        (hs : UpdateDelivery.Sound d₀ d') : Q (scripted w.device i.calls) k ∧
          ∀ e, some d' = some e → ∃ d₀, UpdateDelivery.Sound d₀ e ∧ Wired d₀ := by
      refine ⟨h, fun e he => ?_⟩
      cases he
      exact ⟨d₀, hs, hwired⟩
    refine .inr ?_
    dsimp only
    cases hm : i.message with
    | begin session slot manifest now =>
      have h := UpdateDelivery.begin_frame hf hsound hwired'.geometry (scripted w.device i.calls) session slot
        manifest now fun hadm hacc => by
          have ht : slot < 2 := by
            simp only [UpdateDelivery.admits, Bool.and_eq_true, decide_eq_true_eq] at hadm
            exact hadm.1.2
          refine hown slot ht (.inr ?_)
          simp only [Starts, hd, hm]
          exact ⟨trivial, hadm, hacc⟩
      exact hfinish h.1 h.2
    | chunk session sequence offset data now =>
      have h := UpdateDelivery.chunk_frame hf hsound hwired'.geometry (scripted w.device i.calls) session sequence
        offset data now hactive
      exact hfinish h.1 h.2
    | finish session sequence now =>
      have h := UpdateDelivery.finish_frame hf hactivate hsound hwired'.geometry (scripted w.device i.calls) session
        sequence now hactive
      exact hfinish h.1 h.2
    | poll now => exact hfinish (hf.refl _) (UpdateDelivery.poll_sound hsound now)
    | reset => exact hfinish (hf.refl _) (UpdateDelivery.abortActive_sound hsound.toShape)

/-- A message touches the boot state records, the slot of the open session and the slot of a session it starts. -/
theorem step_stays {w : Integrated γ} (hw : Inv w) (i : UpdateInput) (hboot : ∀ x, InBootState x → R x)
    (hslot : ∀ t, t < 2 → Open w t ∨ Starts cr w i t → ∀ x, InSlot t x → R x) :
    Stays R w.device (step build cr w i).device ∧ Inv (step build cr w i) := by
  have hscripted : Stays R w.device (scripted w.device i.calls) := ⟨⟨⟨[], rfl, nofun⟩, fun _ _ => rfl⟩, rfl⟩
  have hframe : step build cr w i = w ∨ (Stays R (scripted w.device i.calls) (step build cr w i).device ∧ _) :=
    step_frame hw i (driver_frame fun _ _ h => h.elim)
      (fun t ht ho => driver_frame fun a n h x hlo hhi => hslot t ht ho x (h x hlo hhi)) (activate_frame hboot build)
  rcases hframe with hsame | ⟨hstays, hdelivery⟩
  · rw [hsame]
    exact ⟨.refl _, hw⟩
  · have hall := hscripted.trans hstays
    exact ⟨hall, ⟨by rw [hall.confirmed]; exact hw.confirmed, hdelivery⟩⟩

/-- A session is open after a message only if it was open before or the message starts it. -/
theorem step_open {w : Integrated γ} {i : UpdateInput} {t : U8} (h : Open (step build cr w i) t) :
    Open w t ∨ Starts cr w i t := by
  obtain ⟨d', hd', hactive, htarget⟩ := h
  unfold step at hd'
  cases hd : w.delivery with
  | none =>
    rw [hd] at hd'
    exact absurd (hd.symm.trans hd') (by simp)
  | some d =>
    rw [hd] at hd'
    cases hd'
    cases hm : i.message with
    | begin session slot manifest now =>
      rw [hm] at hactive htarget
      rcases UpdateDelivery.begin_target _ _ _ _ _ _ _ _ hactive with ⟨ha, ht⟩ | ⟨hadm, hacc, ht⟩
      · exact .inl ⟨d, hd, ha, ht.symm.trans htarget⟩
      · refine .inr ?_
        simp only [Starts, hd, hm]
        exact ⟨ht.symm.trans htarget, hadm, hacc⟩
    | chunk session sequence offset data now =>
      rw [hm] at hactive htarget
      obtain ⟨ha, ht⟩ := UpdateDelivery.chunk_target _ _ _ _ _ _ _ _ _ hactive
      exact .inl ⟨d, hd, ha, ht.symm.trans htarget⟩
    | finish session sequence now =>
      rw [hm] at hactive
      exact absurd ((UpdateDelivery.finish_target _ _ _ _ _ _ _ _).symm.trans hactive) (by decide)
    | poll now =>
      rw [hm] at hactive htarget
      simp only [take, UpdateDelivery.poll] at hactive htarget
      split at hactive
      · cases hactive
      · rename_i hnot
        rw [if_neg hnot] at htarget
        exact .inl ⟨d, hd, hactive, htarget⟩
    | reset =>
      rw [hm] at hactive
      cases hactive

/-- A message that starts a session for a slot erases the slot's manifest sector. -/
theorem starts_erases {w : Integrated γ} (hw : Inv w) {i : UpdateInput} {t : U8} (h : Starts cr w i t) :
    ∃ op ∈ (step build cr w i).device.flash.ops, op.Touches (slotManifest t).toNat := by
  unfold Starts at h
  split at h
  · rename_i d session slot manifest now hd hm
    obtain ⟨rfl, hadm, hacc⟩ := h
    obtain ⟨d₀, hsound, hwired⟩ := hw.delivery d hd
    have hwired' := hwired.of_slots hsound.toShape
    have ht : slot < 2 := by
      simp only [UpdateDelivery.admits, Bool.and_eq_true, decide_eq_true_eq] at hadm
      exact hadm.1.2
    have hmanifest := hwired'.manifestBase slot ht
    have hpos := (hwired'.geometry slot ht).sector_pos
    have herase : ∀ k : UpdateDevice γ, ∃ op ∈ ((UpdateDevice.driver build.pageSize).erase k (d.slot slot).manifestBase
        (d.slot slot).sectorBytes).1.flash.ops, op.Touches (slotManifest slot).toNat := fun k =>
      ⟨_, List.mem_cons_self, by
        rw [hmanifest]
        exact ⟨Nat.le_refl _, Nat.lt_add_of_pos_right hpos⟩⟩
    have hkeep : ∀ (k : UpdateDevice γ) (a n : U32), (∃ op ∈ k.flash.ops, op.Touches (slotManifest slot).toNat) →
        ∃ op ∈ ((UpdateDevice.driver build.pageSize).erase k a n).1.flash.ops,
          op.Touches (slotManifest slot).toNat := by
      intro k a n h
      obtain ⟨op, hop, hx⟩ := h
      exact ⟨op, List.mem_cons_of_mem _ hop, hx⟩
    have herased := UpdateDelivery.begin_erases
      (P := fun k => ∃ op ∈ k.flash.ops, op.Touches (slotManifest slot).toNat) herase hkeep hsound
      (hwired'.geometry slot ht)
      (by rw [hwired'.maximum, hwired'.capacity slot ht]; exact BitVec.le_refl _)
      (scripted w.device i.calls) now hadm hacc
    unfold step
    rw [hd, hm]
    exact herased
  · cases h

/-- Two slots share no address, and none is in the boot state. -/
theorem inSlot_disjoint {t c : U8} (ht : t < 2) (hc : slotIdValid c = true) (hne : t ≠ c) {x : Nat}
    (hx : InSlot t x) : ¬ InSlot c x := by
  have hA : (slotManifest 0).toNat = 0x08040000 ∧ (slotImage 0).toNat = 0x08041000 := ⟨rfl, rfl⟩
  have hB : (slotManifest 1).toNat = 0x08100000 ∧ (slotImage 1).toNat = 0x08101000 := ⟨rfl, rfl⟩
  have hcap : slotCapacity.toNat = 0xbf000 := rfl
  rintro ⟨h3, h4⟩
  obtain ⟨h1, h2⟩ := hx
  rcases (slotIdValid_iff c).1 hc with rfl | rfl <;> rcases slot_cases ht with rfl | rfl
  · exact hne rfl
  · change (slotManifest 0).toNat ≤ x at h3
    change x < (slotImage 0).toNat + slotCapacity.toNat at h4
    omega
  · change (slotManifest 1).toNat ≤ x at h3
    change x < (slotImage 1).toNat + slotCapacity.toNat at h4
    omega
  · exact hne rfl

theorem inBootState_disjoint {c : U8} (hc : slotIdValid c = true) {x : Nat} (hx : InBootState x) :
    ¬ InSlot c x := by
  have hbase : bootStateBase.toNat = 0x081fe000 := rfl
  have hA : (slotImage 0).toNat = 0x08041000 := rfl
  have hB : (slotImage 1).toNat = 0x08101000 := rfl
  have hcap : slotCapacity.toNat = 0xbf000 := rfl
  rintro ⟨-, h4⟩
  obtain ⟨h1, -⟩ := hx
  rcases (slotIdValid_iff c).1 hc with rfl | rfl
  · change x < (slotImage 0).toNat + slotCapacity.toNat at h4
    omega
  · change x < (slotImage 1).toNat + slotCapacity.toNat at h4
    omega

/-! ## The boot record -/

/-- The store of the boot state finds a record of slot `c`, also if the calls ahead cut a save short. -/
structure Recorded (c : U8) (k : UpdateDevice γ) : Prop where
  schema : k.boot.store.schema = bootStateSchema
  confirmed : k.boot.state.confirmedSlot = c
  safe : ∃ candidates, (⟨k.boot.store, slotMedium k.records k.flash.mem, candidates⟩ : Saving).Safe ∧
    ∀ payload ∈ candidates, stateValid (decodeFields payload) = true ∧ (decodeFields payload).confirmedSlot = c
  cut : ∀ call ∈ k.flash.calls, CutCall k.records call

/-- What a message keeps of the record. -/
structure KeepsRecord (c : U8) (k l : UpdateDevice γ) : Prop where
  records : l.records = k.records
  recorded : Recorded c k → Recorded c l

theorem KeepsRecord.refl (c : U8) (k : UpdateDevice γ) : KeepsRecord c k k := ⟨rfl, id⟩

theorem KeepsRecord.trans {c : U8} {k l m : UpdateDevice γ} (h : KeepsRecord c k l) (h' : KeepsRecord c l m) :
    KeepsRecord c k m := ⟨h'.records.trans h.records, fun hk => h'.recorded (h.recorded hk)⟩

/-- A load finds the record. -/
theorem Recorded.load {c : U8} {k : UpdateDevice γ} (h : Recorded c k) (pageSize : U32) :
    let r := Rt595BootState.init.load (k.records.backend (configDriver pageSize)) k.flash
    r.2.2 = true ∧ r.2.1.state.confirmedSlot = c := by
  obtain ⟨candidates, hsafe, hnames⟩ := h.safe
  obtain ⟨payload, hp, hreload⟩ := hsafe.keeps
  obtain ⟨hvalid, hc⟩ := hnames payload hp
  dsimp only at hreload
  rw [h.schema] at hreload
  obtain ⟨hloaded, hstate⟩ := load_found k.records_fit pageSize hreload hvalid
  exact ⟨hloaded, (congrArg BootState.confirmedSlot hstate).trans hc⟩

/-- The record is in the flash and the store. -/
theorem KeepsRecord.of_eq (c : U8) {k l : UpdateDevice γ} (hrecords : l.records = k.records)
    (hflash : l.flash = k.flash) (hboot : l.boot = k.boot) : KeepsRecord c k l := by
  refine ⟨hrecords, fun h => ⟨?_, ?_, ?_, ?_⟩⟩
  · rw [hboot]
    exact h.schema
  · rw [hboot]
    exact h.confirmed
  · rw [hrecords, hflash, hboot]
    exact h.safe
  · rw [hrecords, hflash]
    exact h.cut

/-- What happens outside the two sectors keeps the record. -/
theorem KeepsRecord.outside (c : U8) (k : UpdateDevice γ) {f : Flash}
    (hmem : ∀ x, InBootState x → f.mem x = k.flash.mem x) (hcalls : ∀ call ∈ f.calls, call ∈ k.flash.calls) :
    KeepsRecord c k { k with flash := f } := by
  refine ⟨rfl, fun h => ⟨h.schema, h.confirmed, ?_, fun call hc => h.cut call (hcalls call hc)⟩⟩
  obtain ⟨candidates, hsafe, hnames⟩ := h.safe
  refine ⟨candidates, safe_congr (fun slot => ?_) hsafe, hnames⟩
  rw [slotMedium_slot, slotMedium_slot]
  exact slotRecord_congr k.records_fit fun x hlo hhi => hmem x (k.records_fit.range slot hlo hhi)

/-- Erases and programs outside the two sectors keep the record. -/
theorem record_frame {pageSize : U32} {c : U8} {allowed : Nat → Nat → Prop}
    (hout : ∀ a n, allowed a n → ∀ x, a ≤ x → x < a + n → ¬ InBootState x) :
    Staging.StagingFrame (UpdateDevice.driver pageSize) (UpdateDevice.callbacks cr) allowed
      (KeepsRecord (γ := γ) c) where
  refl := .refl c
  trans := .trans
  read k a n := by
    dsimp only [UpdateDevice.driver, updateDriver]
    split
    · exact .refl c k
    · exact .outside c k (fun _ _ => rfl) fun _ hc => List.mem_of_mem_tail hc
  erase k a n h := .outside c k (fun x hx => Flash.overwrite_outside (fun ht => hout _ _ h x ht.1 ht.2 hx) _ _)
    fun _ hc => List.mem_of_mem_tail hc
  program k a data h := by
    dsimp only [UpdateDevice.driver, updateDriver]
    split
    · exact .refl c k
    · exact .outside c k (fun x hx => Flash.overwrite_outside (fun ht => hout _ _ h x ht.1 ht.2 hx) _ _)
        fun _ hc => List.mem_of_mem_tail hc
  verifySignature k _ _ _ := .of_eq c rfl rfl rfl
  hashBegin k := .of_eq c rfl rfl rfl
  hashUpdate k _ := .of_eq c rfl rfl rfl
  hashFinish k := .of_eq c rfl rfl rfl

/-- **Staging a candidate keeps the record**: the state that is saved confirms the same slot. -/
theorem record_activate (c : U8) (build : TargetBuild) (k : UpdateDevice γ) (slot : U8) (version : U32) :
    KeepsRecord c k (k.activateCandidate build slot version).1 := by
  unfold UpdateDevice.activateCandidate Rt595BootState.stage Rt595BootState.commit
  dsimp only
  split
  · exact .of_eq c rfl rfl rfl
  · split
    · exact .of_eq c rfl rfl rfl
    · next next hnext =>
      refine ⟨rfl, fun h => ?_⟩
      have hconfirmed := (Boot.stage_confirmedSlot hnext).trans h.confirmed
      obtain ⟨candidates, hsafe, hnames⟩ := h.safe
      obtain ⟨⟨candidates', hcandidates, hsafe'⟩, hschema, hcalls⟩ :=
        save_safe k.records_fit build.pageSize h.cut h.schema hsafe (encodeState next)
      have hnames' : ∀ payload ∈ candidates', stateValid (decodeFields payload) = true ∧
          (decodeFields payload).confirmedSlot = c := by
        intro payload hp
        rcases hcandidates payload hp with hold | rfl
        · exact hnames payload hold
        · rw [decodeFields_live]
          exact ⟨stage_valid hnext, hconfirmed⟩
      have hcut' := fun call hc => h.cut call (hcalls call hc)
      unfold Rt595BootState.save
      dsimp only
      split
      · exact ⟨hschema, h.confirmed, ⟨candidates', hsafe', hnames'⟩, hcut'⟩
      · exact ⟨hschema, hconfirmed, ⟨candidates', hsafe', hnames'⟩, hcut'⟩

theorem step_recorded {w : Integrated γ} (hw : Inv w) {c : U8} (h : Recorded c w.device) {i : UpdateInput}
    (hcut : ∀ call ∈ i.calls, CutCall w.device.records call) :
    (step build cr w i).device.records = w.device.records ∧ Recorded c (step build cr w i).device := by
  have hframe : step build cr w i = w ∨
      (KeepsRecord c (scripted w.device i.calls) (step build cr w i).device ∧ _) :=
    step_frame hw i (record_frame fun _ _ h => h.elim) (fun t ht _ => record_frame fun a n h x hlo hhi hx =>
      inBootState_disjoint ((slotIdValid_iff t).2 (slot_cases ht)) hx (h x hlo hhi)) (record_activate c build)
  rcases hframe with hsame | ⟨hkept, -⟩
  · rw [hsame]
    exact ⟨rfl, h⟩
  · exact ⟨hkept.records, hkept.recorded ⟨h.schema, h.confirmed, h.safe, hcut⟩⟩

/-- A device that has loaded its state has the record it loaded. -/
theorem load_recorded {records : Rt595ConfigBackend} (hfit : RecordsFit records) (pageSize : U32) {mem : Nat → U8}
    (g : γ) (hload : (Rt595BootState.init.load (records.backend (configDriver pageSize)) ⟨mem, [], []⟩).2.2 = true) :
    let r := Rt595BootState.init.load (records.backend (configDriver pageSize)) ⟨mem, [], []⟩
    slotIdValid r.2.1.state.confirmedSlot = true ∧ r.1 = ⟨mem, [], []⟩ ∧
      Recorded r.2.1.state.confirmedSlot ⟨r.1, g, records, hfit, r.2.1⟩ := by
  obtain ⟨hflash, hschema, payload, hsafe, hpayload, hvalid⟩ := load_safe hfit pageSize hload
  intro r
  refine ⟨((stateValid_iff _).1 hvalid).2.1, hflash, hschema, rfl, ⟨[payload], ?_, fun p hp => ?_⟩, ?_⟩
  · change (⟨_, slotMedium records r.1.mem, _⟩ : Saving).Safe
    rw [hflash]
    exact hsafe
  · obtain rfl := List.mem_singleton.1 hp
    rw [hpayload]
    exact ⟨hvalid, rfl⟩
  · change ∀ call ∈ r.1.calls, _
    rw [hflash]
    exact nofun

theorem start_inv {placed trusted : Bool} {mem : Nat → U8} {g : γ} {w : Integrated γ}
    (h : start build placed trusted mem g = some w) :
    Inv w ∧ w.device.flash = ⟨mem, [], []⟩ ∧ (∀ t, ¬ Open w t) ∧
      Recorded w.device.boot.state.confirmedSlot w.device := by
  unfold start at h
  obtain ⟨k, hk, rfl⟩ := Option.map_eq_some_iff.1 h
  have hdevice : slotIdValid k.boot.state.confirmedSlot = true ∧ k.flash = ⟨mem, [], []⟩ ∧
      Recorded k.boot.state.confirmedSlot k := by
    unfold confirmationStorageInit at hk
    split at hk
    · cases hk
    · split at hk
      · cases hk
      · rename_i records hrecords
        dsimp only at hk
        split at hk
        · cases hk
        · rename_i hload
          rw [Bool.not_eq_true', Bool.not_eq_false] at hload
          have hloaded := load_recorded (bootStateMcuxInit_fits hrecords) build.pageSize g hload
          split at hk
          · cases hk
            exact hloaded
          · split at hk
            · cases hk
              exact hloaded
            · cases hk
  refine ⟨⟨hdevice.1, fun d hd => ?_⟩, hdevice.2.1, ?_, hdevice.2.2⟩
  · obtain ⟨hsound, hwired, -⟩ := updateDeliveryInit_wired hd
    exact ⟨d, hsound, hwired⟩
  · rintro t ⟨d, hd, hactive, -⟩
    obtain ⟨-, -, hidle⟩ := updateDeliveryInit_wired hd
    exact absurd (hidle.symm.trans hactive) (by decide)

/-! ## The fallback image -/

/-- The slot the boot state confirms. -/
def confirmedSlot (w : Integrated γ) : U8 := w.device.boot.state.confirmedSlot

/-- Between `w` and `v` the confirmed slot stayed the same, no erase or program touched it, and its bytes
are unchanged. -/
structure FallbackIntact (w v : Integrated γ) : Prop where
  confirmed : v.confirmedSlot = w.confirmedSlot
  untouched : ∀ op ∈ v.device.flash.ops, ∀ x, op.Touches x → ¬ InSlot w.confirmedSlot x
  memory : ∀ x, InSlot w.confirmedSlot x → v.device.flash.mem x = w.device.flash.mem x

/-- The input starts no session for the confirmed slot. -/
def Spares (cr : UpdateCrypto γ) (w : Integrated γ) (i : UpdateInput) : Prop := ¬ Starts cr w i w.confirmedSlot

instance (cr : UpdateCrypto γ) (w : Integrated γ) (i : UpdateInput) : Decidable (Spares cr w i) :=
  inferInstanceAs (Decidable (¬ _))

/-- What a run of sparing messages keeps: the frame, and no session for the confirmed slot. -/
theorem run_spares {w : Integrated γ} (hw : Inv w) (hidle : ¬ Open w w.confirmedSlot) {is : List UpdateInput}
    (h : Run.Along (step build cr) (Spares cr) w is) :
    Stays (fun x => ¬ InSlot w.confirmedSlot x) w.device (run build cr w is).device := by
  refine (Run.inv_along (P := fun v => Stays (fun x => ¬ InSlot w.confirmedSlot x) w.device v.device ∧ Inv v ∧
    ¬ Open v w.confirmedSlot) ?_ w is ⟨.refl _, hw, hidle⟩ h).1
  rintro v i ⟨hstays, hinv, hopen⟩ hspares
  have hc : v.confirmedSlot = w.confirmedSlot := hstays.confirmed
  rw [Spares, hc] at hspares
  have hnot : ∀ t, Open v t ∨ Starts cr v i t → t ≠ w.confirmedSlot := by
    rintro t ht rfl
    exact ht.elim hopen hspares
  obtain ⟨hstep, hinv'⟩ : Stays (fun x => ¬ InSlot w.confirmedSlot x) v.device (step build cr v i).device ∧
      Inv (step build cr v i) := step_stays hinv i
    (fun x hx => inBootState_disjoint hw.confirmed hx)
    (fun t ht ho x hx => inSlot_disjoint ht hw.confirmed (hnot t ho) hx)
  refine ⟨hstays.trans hstep, hinv', fun ho => ?_⟩
  exact (step_open ho).elim hopen hspares

/-- A run whose calls fail without leaving a record keeps the boot record. -/
theorem run_recorded {w : Integrated γ} (hw : Inv w) {c : U8} (h : Recorded c w.device) {is : List UpdateInput}
    (hcut : ∀ i ∈ is, ∀ call ∈ i.calls, CutCall w.device.records call) :
    Recorded c (run build cr w is).device := by
  refine (Run.inv_along (P := fun v => Inv v ∧ v.device.records = w.device.records ∧ Recorded c v.device)
    (C := fun _ i => ∀ call ∈ i.calls, CutCall w.device.records call) ?_ w is ⟨hw, rfl, h⟩
    (Run.along_iff_forall.2 hcut)).2.2
  rintro v i ⟨hv, hsame, hrecorded⟩ hcut
  have hstays : Stays (fun _ => True) v.device (step build cr v i).device ∧ Inv (step build cr v i) :=
    step_stays hv i (fun _ _ => trivial) fun _ _ _ _ _ => trivial
  have hkept : (step build cr v i).device.records = v.device.records ∧ Recorded c (step build cr v i).device :=
    step_recorded hv hrecorded (hsame ▸ hcut)
  exact ⟨hstays.2, hkept.1.trans hsame, hkept.2⟩

/-- A reset in `v` finds a boot record that confirms the slot `w` confirms. -/
def Reloads (build : TargetBuild) (w v : Integrated γ) : Prop :=
  let r := Rt595BootState.init.load (v.device.records.backend (configDriver build.pageSize)) v.device.flash
  r.2.2 = true ∧ r.2.1.state.confirmedSlot = w.confirmedSlot

/-- **Main result.** A run leaves the fallback image intact exactly when none of its messages starts a session
for the confirmed slot. The boot record goes on to name that slot in every run, whichever saves are cut short. -/
theorem fallback_intact_iff {placed trusted : Bool} {mem : Nat → U8} {g : γ} {w : Integrated γ}
    (h : start build placed trusted mem g = some w) (cr : UpdateCrypto γ) (is : List UpdateInput) :
    (FallbackIntact w (run build cr w is) ↔ Run.Along (step build cr) (Spares cr) w is) ∧
      ((∀ i ∈ is, ∀ call ∈ i.calls, CutCall w.device.records call) → Reloads build w (run build cr w is)) := by
  obtain ⟨hinv, hflash, hidle, hrecorded⟩ := start_inv h
  have hops : w.device.flash.ops = [] := by rw [hflash]
  refine ⟨?_, fun hcut => (run_recorded hinv hrecorded hcut).load build.pageSize⟩
  constructor
  · intro hintact
    have htrue : ∀ v i, Inv v → Stays (fun _ => True) v.device (step build cr v i).device ∧ Inv (step build cr v i) :=
      fun v i hv => step_stays hv i (fun _ _ => trivial) (fun _ _ _ _ _ => trivial)
    -- a session for the confirmed slot leaves an erase of its manifest sector in the record
    refine Run.along_of_final (P := fun v => Inv v ∧ v.confirmedSlot = w.confirmedSlot)
      (Q := fun v => ∃ op ∈ v.device.flash.ops, op.Touches (slotManifest w.confirmedSlot).toNat) ?_ ?_ ?_
      ⟨hinv, rfl⟩ ?_
    · rintro v i ⟨hv, hc⟩
      obtain ⟨hstays, hv'⟩ := htrue v i hv
      exact ⟨hv', hstays.confirmed.trans hc⟩
    · rintro v i ⟨hv, hc⟩ hspares
      rw [Spares, Decidable.not_not, hc] at hspares
      exact starts_erases hv hspares
    · rintro v i ⟨hv, -⟩ ⟨op, hop, hx⟩
      obtain ⟨new, hnew, -⟩ := (htrue v i hv).1.flash.ops
      exact ⟨op, by rw [hnew]; exact List.mem_append_right new hop, hx⟩
    · rintro ⟨op, hop, hx⟩
      refine hintact.untouched op hop _ hx ⟨Nat.le_refl _, ?_⟩
      have hle : (slotManifest w.confirmedSlot).toNat ≤ (slotImage w.confirmedSlot).toNat := by
        unfold slotManifest slotImage
        split <;> decide
      exact Nat.lt_of_le_of_lt hle (Nat.lt_add_of_pos_right (by decide))
  · intro halong
    have hstays := run_spares hinv (hidle _) halong
    refine ⟨hstays.confirmed, ?_, fun x hx => hstays.flash.mem x (fun hn => hn hx)⟩
    exact hstays.flash.avoids (by rw [hops]; nofun)

/-! ### A trial boot -/

/-- Slot A running version 2. -/
def buildA : TargetBuild := ⟨0, 2, 0x1000, 256, by decide, by decide⟩

/-- Slot B running version 2. -/
def buildB : TargetBuild := ⟨1, 2, 0x1000, 256, by decide, by decide⟩

/-- Crypto that finds every signature right. -/
def exampleCrypto : UpdateCrypto Unit where
  verifySignature _ _ _ _ := ((), true)
  hashBegin _ := ((), true)
  hashUpdate _ _ := ((), true)
  hashFinish _ := ((), none)

/-- A manifest of an image of 4096 bytes. -/
def exampleManifest (version : U32) : ManifestWire where
  bytes := [0x4f, 0x52, 0x55, 0x50, 1, 2, 0, 0] ++ LittleEndian.write 4 hardwareId ++
    LittleEndian.write 4 version ++ LittleEndian.write 4 bootloaderVersion ++
    LittleEndian.write 4 (4096 : U32) ++ List.replicate 120 1
  length_eq := by simp

/-- A blank flash on which slot A was provisioned and confirmed. -/
def provisionedFlash : Flash × Rt595BootState :=
  let records : Rt595ConfigBackend := ⟨bootStateBase, 0x1000, 256⟩
  let r := Rt595BootState.init.initializeRecord (records.backend (configDriver 256)) ⟨fun _ => 0xff, [], []⟩ 0 1
  (r.1, r.2.1)

/-- The same flash after slot B was staged and selected for its first trial. -/
def trialFlash : Flash :=
  let records : Rt595ConfigBackend := ⟨bootStateBase, 0x1000, 256⟩
  let slots : BootSlots := ⟨⟨true, true, 1⟩, ⟨true, true, 2⟩⟩
  let s := provisionedFlash.2.stage (records.backend (configDriver 256)) provisionedFlash.1 1 slots
  (s.2.1.select (records.backend (configDriver 256)) s.1 slots 3).1

/-- Slot A is confirmed: the erase of a first session for slot B is reported as failed, a second one is reset. -/
def confirmedRun : List UpdateInput :=
  [⟨.begin 1 1 (exampleManifest 3) 0, [⟨false, none⟩]⟩, ⟨.begin 2 1 (exampleManifest 3) 5, []⟩,
    ⟨.chunk 2 0 0 (List.replicate 4 7) 10, []⟩, ⟨.reset, []⟩]

theorem fallback_intact_confirmed_boot : ∃ w,
    start buildA true true provisionedFlash.1.mem () = some w ∧
      FallbackIntact w (run buildA exampleCrypto w confirmedRun) ∧
      Reloads buildA w (run buildA exampleCrypto w confirmedRun) := by
  have hrun : (start buildA true true provisionedFlash.1.mem ()).map
      (fun w => decide (Run.Along (step buildA exampleCrypto) (Spares exampleCrypto) w confirmedRun)) =
      some true := by decide +kernel
  obtain ⟨w, hw, hspares⟩ := Option.map_eq_some_iff.1 hrun
  obtain ⟨hintact, hreloads⟩ := fallback_intact_iff hw exampleCrypto confirmedRun
  have hcalls : ∀ i ∈ confirmedRun, ∀ call ∈ i.calls, call.spoiled = none := by
    simp [confirmedRun]
  refine ⟨w, hw, hintact.2 (of_decide_eq_true hspares), hreloads fun i hi call hc content hspoiled => ?_⟩
  rw [hcalls i hi call hc] at hspoiled
  cases hspoiled

/-- Slot B runs its first trial, slot A is confirmed: one begin for slot A erases the fallback image. -/
theorem trial_costs_fallback : ∃ w,
    start buildB true true trialFlash.mem () = some w ∧
      w.device.boot.state = ⟨1, 1, slotA, slotB, 1⟩ ∧
      ¬ FallbackIntact w (run buildB exampleCrypto w
        [⟨.begin 1 slotA (exampleManifest 3) 0, []⟩]) := by
  have hrun : (start buildB true true trialFlash.mem ()).map
      (fun w => (w.device.boot.state, (run buildB exampleCrypto w
        [⟨.begin 1 slotA (exampleManifest 3) 0, []⟩]).device.flash.ops.any fun op => op.Touches 0x08040000)) =
      some (⟨1, 1, slotA, slotB, 1⟩, true) := by decide +kernel
  obtain ⟨w, hw, hpair⟩ := Option.map_eq_some_iff.1 hrun
  obtain ⟨hstate, herased⟩ := Prod.mk.inj hpair
  refine ⟨w, hw, hstate, fun hintact => ?_⟩
  obtain ⟨op, hop, hx⟩ := List.any_eq_true.1 herased
  have hslot : w.confirmedSlot = slotA := by rw [confirmedSlot, hstate]
  exact hintact.untouched op hop _ (of_decide_eq_true hx) (by rw [hslot]; decide)

end Integrated

end OpenRef.Update
