import OpenRef.Boot.Coordinator
import OpenRef.Update.Replay
/-!
# What is delivered is booted

A delivery pages an image into the slot that does not run and programs the signed manifest last, over the first page of
its own sector. At reset the bootstrap reads 144 bytes there and the image behind them, against a platform whose rollback
floor is the durable minimum itself.

`delivered_boots`: after a finish that returns OK the flash does not depend on how the image was split, and the bootstrap
authenticates the slot if and only if what one page holds of the manifest is as good as the whole of it.
-/

namespace OpenRef.Update

open Staging (Checked Live SameSlot imageCalls)
open OpenRef.Boot (BootSlot noSlot)

variable {κ : Type} {d₀ : UpdateDelivery}

/-- The calls of a session that ends in a finish that returns OK. -/
theorem finish_ok (be : DeliveryBackend κ) (hl : Layout d₀) {w : DeliveryRun κ} (hp : Progress d₀ w.steps w.delivery)
    {id sequence now : U32} (h : (w.call be (.finish id sequence now)).2.2 = .result .ok) :
    ∃ before b steps wire chunks pages activate, w.steps = before ++ b :: steps ∧ Opens d₀ id wire b ∧
      Session id steps chunks ∧ Paged d₀.inactive.pageBytes.toNat chunks.flatten pages ∧
      chunks.flatten.length = wire.manifest.imageSize.toNat ∧
      wire.manifest.imageSize.toNat ≤ d₀.inactive.capacity.toNat ∧ (∃ slot version ok, activate = .activate slot version ok) ∧
      b.calls ++ steps.flatMap DeliveryStep.calls ++ (w.record be (.finish id sequence now)).calls =
        sessionCalls d₀.inactive wire pages activate := by
  unfold DeliveryRun.record
  simp only [DeliveryRun.call, DeliveryBackend.journaled] at h ⊢
  unfold UpdateDelivery.finish at h ⊢
  split at h
  · cases h
  next htimeout =>
    rw [if_neg htimeout]
    split at h
    · cases h
    next hguard =>
      rw [if_neg hguard]
      simp only [Bool.or_eq_true, Bool.not_eq_true', decide_eq_true_eq, not_or, Bool.not_eq_false, Decidable.not_not,
        ne_eq] at hguard
      obtain ⟨⟨⟨ha, rfl⟩, rfl⟩, haccepted⟩ := hguard
      obtain ⟨ht, -⟩ := hp.target ha
      obtain ⟨before, b, steps, wire, chunks, pages, hin⟩ := hp.session ha
      have hsame := hp.same hl ha
      have hfinished := Staging.finish_calls be.flash be.crypto (hp.checked hl ht) ⟨w.context, []⟩ hin.live
      rw [hin.manifest] at haccepted
      generalize (w.delivery.slot w.delivery.targetSlot).finish (journaledFlash be.flash) (journaledCrypto be.crypto)
        ⟨w.context, []⟩ w.delivery.verifier = r at hfinished h ⊢
      cases hfinished with
      | failed => cases h
      | uncommitted => cases h
      | @finished j' s' v' hv hwrote =>
        simp only [Bool.not_true, Bool.false_eq_true, if_false] at h ⊢
        rw [Staging.imageCalls_congr hsame, Staging.padded_congr hsame, hsame.manifestBase, hsame.pageBytes, hin.manifest,
          hin.wire] at hwrote
        obtain ⟨activate, hactivate, hcalls⟩ : ∃ activate : DeliveryCall,
            (∃ slot version ok, activate = .activate slot version ok) ∧ _ = _ ++ [activate] :=
          ⟨_, ⟨_, _, _, rfl⟩, (hwrote.call
            (be.activate · (w.delivery.put w.delivery.targetSlot s' v').targetSlot
              (w.delivery.put w.delivery.targetSlot s' v').verifier.manifest.imageVersion)
            (.activate (w.delivery.put w.delivery.targetSlot s' v').targetSlot
              (w.delivery.put w.delivery.targetSlot s' v').verifier.manifest.imageVersion)).entries⟩
        have himage := Staging.imageCalls_append d₀.inactive 0 pages (w.delivery.slot w.delivery.targetSlot).lastPage
        rw [Nat.zero_add, ← hin.offset] at himage
        split at h
        · cases h
        next hactivated =>
          rw [if_neg hactivated]
          refine ⟨before, b, steps, wire, chunks, _, activate, hin.past, hin.opens, hin.session, hin.paged hl hsame,
            by rw [← hin.accepted, haccepted], ?_, hactivate, ?_⟩
          · have hcapacity := hin.live.image_capacity
            rwa [hin.manifest, hsame.capacity] at hcapacity
          · refine (congrArg (b.calls ++ steps.flatMap DeliveryStep.calls ++ ·) hcalls).trans ?_
            rw [hin.opens.calls, hin.calls, sessionCalls, himage]
            simp only [List.append_assoc, List.cons_append, List.nil_append]

/-! ## What the bootstrap reads -/

/-- A flash that is read as it is. -/
def flashOf (m : ℕ → U8) (address : U32) (n : ℕ) : Option (Bytes n) :=
  some ⟨Flash.bytesAt m address.toNat n, Flash.length_bytesAt _ _ _⟩

/-- The loop reads the bytes of the image. -/
theorem imageRead_flashOf (m : ℕ → U8) {base size : U32} (hfits : base.toNat + size.toNat < 2 ^ 32) :
    ∀ (turns : ℕ) (offset : U32), offset ≤ size → size.toNat - offset.toNat ≤ turns →
      imageRead (flashOf m) base size turns offset =
        some (Flash.bytesAt m (base.toNat + offset.toNat) (size.toNat - offset.toNat))
  | 0, offset, _, hturns => by
    rw [imageRead, Nat.le_zero.1 hturns]
    rfl
  | turns + 1, offset, hle, hturns => by
    have hle' : offset.toNat ≤ size.toNat := hle
    unfold imageRead
    by_cases hdone : size ≤ offset
    · have hdone' : size.toNat ≤ offset.toNat := hdone
      rw [if_pos hdone, Nat.sub_eq_zero_of_le hdone']
      rfl
    · have hlt : offset.toNat < size.toNat := BitVec.not_le.1 hdone
      have hn := toNat_pieceBytes size offset
      rw [BitVec.toNat_sub_of_le hle] at hn
      rw [if_neg hdone]
      dsimp only
      generalize SlotAuthenticator.pieceBytes size offset = n at hn ⊢
      have hsum : (offset + n).toNat = offset.toNat + n.toNat := by
        rw [BitVec.toNat_add, Nat.mod_eq_of_lt (by omega)]
      have haddress : (base + offset).toNat = base.toNat + offset.toNat := by
        rw [BitVec.toNat_add, Nat.mod_eq_of_lt (by omega)]
      rw [imageRead_flashOf m hfits turns (offset + n) (by rw [BitVec.le_def]; omega) (by omega), flashOf, Option.bind_some,
        Option.map_some]
      dsimp only
      rw [haddress, hsum, ← Nat.add_assoc, ← Flash.bytesAt_append]
      refine congrArg (fun k => some (Flash.bytesAt m (base.toNat + offset.toNat) k)) ?_
      omega

/-- The verdict on a slot, over a flash that is read as it is. -/
theorem verdict_flashOf (m : ℕ → U8) (verifies : Bytes 80 → Bytes 8 → Bytes 64 → Bool) (digest : List U8 → Bytes 32)
    (p : UpdatePlatform) {r : SlotRegion} {wire : ManifestWire} {n : UpdateManifest}
    (hwire : flashOf m r.manifestBase 144 = some wire) (hfits : r.imageBase.toNat + r.imageCapacity.toNat < 2 ^ 32) :
    verdict (flashOf m) verifies digest p r = some n ↔
      p.accepts verifies wire = true ∧ wire.manifest.imageSize ≤ r.imageCapacity ∧
        digest (Flash.bytesAt m r.imageBase.toNat wire.manifest.imageSize.toNat) = wire.manifest.digest ∧
          wire.manifest = n := by
  unfold verdict
  rw [hwire, Option.bind_some, Option.ite_none_right_eq_some, Bool.and_eq_true, decide_eq_true_eq, and_assoc]
  refine and_congr_right fun _ => and_congr_right fun hsize => ?_
  have hsize' : wire.manifest.imageSize.toNat ≤ r.imageCapacity.toNat := hsize
  have himage : imageRead (flashOf m) r.imageBase wire.manifest.imageSize wire.manifest.imageSize.toNat 0 =
      some (Flash.bytesAt m r.imageBase.toNat wire.manifest.imageSize.toNat) :=
    imageRead_flashOf m (by omega) _ 0 (Nat.zero_le _) (Nat.sub_le _ _)
  rw [himage, Option.bind_some, Option.ite_none_right_eq_some, Option.some.injEq]

/-- The manifest as it stands in the flash after its page was programmed. -/
def Staging.committed (s : Staging) (wire : ManifestWire) : ManifestWire where
  bytes := wire.bytes.take s.pageBytes.toNat ++ List.replicate (144 - s.pageBytes.toNat) 0xff
  length_eq := by
    rw [List.length_append, List.length_take, List.length_replicate, wire.length_eq]
    omega

/-- A page of 144 bytes holds all of it. -/
theorem Staging.committed_whole {s : Staging} (h : 144 ≤ s.pageBytes.toNat) (wire : ManifestWire) :
    s.committed wire = wire := by
  have hbytes : (s.committed wire).bytes = wire.bytes := by
    unfold Staging.committed
    dsimp only
    rw [List.take_of_length_le (by rw [wire.length_eq]; exact h), Nat.sub_eq_zero_of_le h, List.replicate_zero,
      List.append_nil]
  exact Bytes.ext_bytes hbytes

/-- The regions of a slot, as the authenticator takes them. -/
def Staging.bootRegion (s : Staging) : SlotRegion := ⟨s.manifestBase, s.base, s.capacity⟩

theorem flashOf_committed {s : Staging} (hg : Checked s) (hsector : 144 ≤ s.sectorBytes.toNat) (wire : ManifestWire)
    (image : List U8) (m : ℕ → U8) :
    flashOf (s.delivered wire image m) s.manifestBase 144 = some (s.committed wire) := by
  have hbase := hg.base_eq
  have hcommitted : (s.committed wire).bytes =
      wire.bytes.take s.pageBytes.toNat ++ List.replicate (144 - s.pageBytes.toNat) 0xff := rfl
  have hlength := (s.committed wire).length_eq
  have hbytes : Flash.bytesAt (s.delivered wire image m) s.manifestBase.toNat 144 = (s.committed wire).bytes := by
    rw [hcommitted] at hlength ⊢
    refine Flash.bytesAt_eq hlength fun i hi => ?_
    unfold Staging.delivered
    rw [if_pos (by omega), Nat.add_sub_cancel_left, List.getD_eq_getElem?_getD, List.getElem_append]
    split
    · next hin => rw [List.getElem?_eq_getElem hin, Option.getD_some]
    · next hout =>
      rw [List.getElem?_eq_none (Nat.le_of_not_lt hout), List.getElem_replicate]
      rfl
  exact congrArg some (Bytes.ext_bytes hbytes)

theorem bytesAt_delivered {s : Staging} (hg : Checked s) (wire : ManifestWire) (image : List U8) (m : ℕ → U8) :
    Flash.bytesAt (s.delivered wire image m) s.base.toNat image.length = image := by
  have hle := le_eraseLength hg image.length
  refine Flash.bytesAt_eq rfl fun i hi => ?_
  unfold Staging.delivered
  rw [if_neg (by omega), if_pos (by omega), Nat.add_sub_cancel_left, List.getD_eq_getElem _ _ hi]

/-! ## The platforms -/

/-- What the delivery permits is permitted above the durable minimum it was built from. -/
theorem permits_resetPlatform {p : UpdatePlatform} {minimum : U32} (hmin : minimum ≤ p.antirollbackFloor)
    {m : UpdateManifest} (h : p.permits m = true) : (Boot.BootCoordinator.resetPlatform p minimum).permits m = true := by
  unfold UpdatePlatform.permits at h ⊢
  simp only [Bool.and_eq_true, decide_eq_true_eq] at h ⊢
  obtain ⟨⟨⟨⟨⟨⟨⟨⟨⟨htarget, hhardware⟩, hfloor⟩, hconfirmed⟩, hrest⟩, h1⟩, h2⟩, h3⟩, h4⟩, h5⟩ := h
  have hnewer : minimum ≤ m.imageVersion := BitVec.le_trans hmin hfloor
  refine ⟨⟨⟨⟨⟨⟨⟨⟨⟨htarget, hhardware⟩, hnewer⟩, ?_⟩, hrest⟩, h1⟩, h2⟩, h3⟩, h4⟩, h5⟩
  dsimp only [Boot.BootCoordinator.resetPlatform]
  rw [BitVec.lt_def] at hconfirmed
  rw [BitVec.le_def] at hnewer
  split
  · rw [BitVec.lt_def]
    exact Nat.lt_of_le_of_lt (Nat.zero_le _) hconfirmed
  · next hne =>
    have hpos : minimum.toNat ≠ 0 := fun h0 => hne (BitVec.eq_of_toNat_eq h0)
    have hone : (1 : U32).toNat = 1 := rfl
    rw [BitVec.lt_def, BitVec.toNat_sub_of_le (by rw [BitVec.le_def]; omega)]
    omega

/-! ## The finish and the reset after it -/

/-- What one page holds of the manifest is as good as the whole of it. -/
structure Staging.Survives (s : Staging) (verifies : Bytes 80 → Bytes 8 → Bytes 64 → Bool) (p : UpdatePlatform)
    (wire : ManifestWire) : Prop where
  accepted : p.accepts verifies (s.committed wire) = true
  version : (s.committed wire).manifest.imageVersion = wire.manifest.imageVersion
  size : (s.committed wire).manifest.imageSize = wire.manifest.imageSize
  digest : (s.committed wire).manifest.digest = wire.manifest.digest

/-- The authentication of a slot returns true, with the version and the size of this manifest. -/
def Boots {μ : Type} (rd : SlotReader μ) (cr : UpdateCrypto μ) (k : μ) (a : SlotAuthenticator) (candidate running : U8)
    (m : UpdateManifest) : Prop :=
  (a.authenticate rd cr k candidate running).2.2 = (⟨true, true, m.imageVersion⟩, true) ∧
    (a.authenticate rd cr k candidate running).2.1.authenticatedSize candidate = m.imageSize

variable {be : DeliveryBackend κ} {mem : κ → ℕ → U8} {fed : κ → List U8}
variable {verifies : Bytes 80 → Bytes 8 → Bytes 64 → Bool} {digest : List U8 → Bytes 32}

/-- **The flash after a finish that returns OK** is that of the begin of its session with the manifest and the image. -/
theorem finish_delivers (hf : be.Faithful d₀.inactive mem fed verifies digest) (hl : Layout d₀) (messages : List DeliveryMessage)
    {w₀ : DeliveryRun κ} (hw : w₀.steps = []) (hp : Progress d₀ w₀.steps w₀.delivery) {id sequence now : U32}
    (h : ((messages.foldl (DeliveryRun.step be) w₀).call be (.finish id sequence now)).2.2 = .result .ok) :
    ∃ before b steps wire chunks, (messages.foldl (DeliveryRun.step be) w₀).steps = before ++ b :: steps ∧
      Opens d₀ id wire b ∧ Session id steps chunks ∧ chunks.flatten.length = wire.manifest.imageSize.toNat ∧
      wire.manifest.imageSize.toNat ≤ d₀.inactive.capacity.toNat ∧
      mem ((messages.foldl (DeliveryRun.step be) w₀).step be (.finish id sequence now)).context =
        d₀.inactive.delivered wire chunks.flatten
          (mem ((messages.take before.length).foldl (DeliveryRun.step be) w₀).context) ∧
      verifies (wire.field 0 80 signed_fits) wire.manifest.keyId (wire.field 80 64 signature_fits) = true ∧
      wire.manifest.digest = digest chunks.flatten := by
  have hrun (past : List DeliveryMessage) : Progress d₀ (past.foldl (DeliveryRun.step be) w₀).steps
      (past.foldl (DeliveryRun.step be) w₀).delivery :=
    Run.inv_run (P := fun w : DeliveryRun κ => Progress d₀ w.steps w.delivery) (fun _ m hw => (delivery_step be hl hw m).1) hp past
  obtain ⟨before, b, steps, wire, chunks, pages, activate, hsteps, hopens, hsession, hpaged, hlength, hcapacity, hactivate,
    hcalls⟩ := finish_ok be hl (hrun messages) h
  refine ⟨before, b, steps, wire, chunks, hsteps, hopens, hsession, hlength, hcapacity, ?_⟩
  -- the run up to the begin, and what it plays from there
  obtain ⟨past, hpast, hpaststeps, -⟩ := run_plays hf hl (messages.take before.length) hp
  obtain ⟨later, -, hlater, hplays⟩ := run_plays hf hl (messages.drop before.length) (hrun (messages.take before.length))
  rw [← List.foldl_append, List.take_append_drop] at hlater hplays
  have hsplit : before = past ∧ b :: steps = later := by
    have hcount : before.length ≤ messages.length := by
      obtain ⟨all, hall, hallsteps, -⟩ := run_plays hf hl messages hp
      rw [hsteps, hw, List.nil_append] at hallsteps
      rw [← hall, ← hallsteps, List.length_append]
      exact Nat.le_add_right _ _
    rw [hsteps, hpaststeps, hw, List.nil_append] at hlater
    rw [List.length_take, Nat.min_eq_left hcount] at hpast
    exact List.append_inj hlater hpast.symm
  obtain ⟨rfl, rfl⟩ := hsplit
  have hall := hplays.trans (step_plays hf hl (hrun messages) (.finish id sequence now))
  rw [List.flatMap_cons, hcalls] at hall
  obtain ⟨hof, halong⟩ := hall ⟨some (mem ((messages.take before.length).foldl (DeliveryRun.step be) w₀).context), none⟩
    ⟨fun m hm => Option.some.inj hm, nofun⟩
  obtain ⟨hmem, hsigned⟩ := play_session d₀.inactive (hl.checked _ (by split <;> decide)) wire hpaged hlength activate
    hactivate (mem ((messages.take before.length).foldl (DeliveryRun.step be) w₀).context)
  exact ⟨hof.mem _ hmem, hsigned verifies digest halong⟩

theorem regionValid_fits {base length : U32} (h : regionValid base length = true) :
    0 < length.toNat ∧ base.toNat + length.toNat < 2 ^ 32 := by
  simp only [regionValid, Bool.and_eq_true, decide_eq_true_eq] at h
  obtain ⟨hpos, hle⟩ := h
  have hpos' : 0 < length.toNat := hpos
  refine ⟨hpos', region_fits ?_⟩
  simp only [region, Bool.and_eq_true, decide_eq_true_eq]
  exact ⟨fun h0 => absurd hpos' (by rw [h0]; decide), hle⟩

/-- The regions of an authenticator that was initialised leave room for a manifest. -/
theorem sector_of_init {p : UpdatePlatform} {r0 r1 : SlotRegion} (hinit : (SlotAuthenticator.init p r0 r1).isSome = true)
    {s : Staging} (hg : Checked s) (hr : s.bootRegion = r0 ∨ s.bootRegion = r1) : 144 ≤ s.sectorBytes.toNat := by
  unfold SlotAuthenticator.init at hinit
  split at hinit
  · cases hinit
  next hc =>
    simp only [Bool.or_eq_true, not_or, Bool.not_eq_true', Bool.not_eq_false, Bool.not_eq_true] at hc
    obtain ⟨⟨⟨⟨⟨⟨⟨⟨⟨⟨⟨⟨hm0, hm1⟩, hi0⟩, hi1⟩, h0⟩, h1⟩, -⟩, -⟩, -⟩, -⟩, -⟩, -⟩, -⟩ := hc
    have hroom {r : SlotRegion} (hm : regionValid r.manifestBase 144 = true) (hi : regionValid r.imageBase r.imageCapacity = true)
        (h : overlap r.manifestBase 144 r.imageBase r.imageCapacity = false) (hr : s.bootRegion = r) :
        144 ≤ s.sectorBytes.toNat := by
      subst hr
      have hbase := hg.base_eq
      have happart := overlaps_apart (regionValid_fits hm).2 hg.base_capacity h
      have hpos := (regionValid_fits hi).1
      have h144 : (144 : U32).toNat = 144 := rfl
      dsimp only [Staging.bootRegion] at happart hpos
      omega
    rcases hr with hr | hr
    · exact hroom hm0 hi0 h0 hr
    · exact hroom hm1 hi1 h1 hr

section Reset

variable {μ : Type} {rd : SlotReader μ} {cr : UpdateCrypto μ} {fed' : μ → List U8}

/-- The reset after a delivery: the slot boots if and only if its manifest survives. -/
theorem boots_iff {s : Staging} (hg : Checked s) {p : UpdatePlatform} {r0 r1 : SlotRegion}
    (hinit : (SlotAuthenticator.init p r0 r1).isSome = true) {a : SlotAuthenticator} (hp : a.platform = p)
    (hA : a.regionA = r0) (hB : a.regionB = r1) {candidate running : U8} (hcand : candidate ≤ 1)
    (hrun : running = noSlot ∨ running ≤ 1) (hne : candidate ≠ running) (hr : a.region candidate = s.bootRegion)
    {wire : ManifestWire} {image : List U8} {m : ℕ → U8} (hlength : image.length = wire.manifest.imageSize.toNat)
    (hcapacity : wire.manifest.imageSize.toNat ≤ s.capacity.toNat) (hdigest : wire.manifest.digest = digest image)
    (hc : cr.Faithful verifies digest fed') (hrd : Shows rd (flashOf (s.delivered wire image m)) fed') (k : μ) :
    Boots rd cr k a candidate running wire.manifest ↔ s.Survives verifies p wire := by
  have hsector : 144 ≤ s.sectorBytes.toNat := by
    refine sector_of_init hinit hg ?_
    rw [← hA, ← hB, ← hr]
    unfold SlotAuthenticator.region
    split
    · exact .inl rfl
    · exact .inr rfl
  have hverifier : (UpdateVerifier.init a.platform).isSome = true := by
    obtain ⟨a', ha'⟩ := Option.isSome_iff_exists.1 hinit
    rw [hp]
    exact (SlotAuthenticator.init_some ha').1
  obtain ⟨hanswer, hleft⟩ := authenticate_eq hc hrd k a hverifier hcand hrun hne
  have hverdict (n : UpdateManifest) := verdict_flashOf (n := n) (s.delivered wire image m) verifies digest p
    (r := s.bootRegion) (flashOf_committed hg hsector wire image m) hg.base_capacity
  rw [hr, hp] at hanswer hleft
  generalize verdict (flashOf (s.delivered wire image m)) verifies digest p s.bootRegion = v at hanswer hleft hverdict
  unfold Boots
  rw [hanswer, hleft.size]
  constructor
  · rintro ⟨hslot, hsize⟩
    cases v with
    | none => exact absurd (congrArg Prod.snd hslot) Bool.false_ne_true
    | some n =>
      obtain ⟨haccepts, -, hread, rfl⟩ := (hverdict n).1 rfl
      have hsize : (s.committed wire).manifest.imageSize = wire.manifest.imageSize := hsize
      rw [hsize, ← hlength] at hread
      exact ⟨haccepts, congrArg (fun r : BootSlot × Bool => r.1.version) hslot, hsize,
        (hread.symm.trans (congrArg digest (bytesAt_delivered hg wire image m))).trans hdigest.symm⟩
  · rintro ⟨haccepts, hversion, hsize, hsame⟩
    have hread : digest (Flash.bytesAt (s.delivered wire image m) s.base.toNat
        (s.committed wire).manifest.imageSize.toNat) = (s.committed wire).manifest.digest := by
      rw [hsize, ← hlength, bytesAt_delivered hg, hsame, hdigest]
    have hfits : (s.committed wire).manifest.imageSize ≤ s.capacity := by
      rw [hsize]
      exact hcapacity
    rw [(hverdict _).2 ⟨haccepts, hfits, hread, rfl⟩, answerOf, hversion]
    exact ⟨rfl, hsize⟩

/-- A page of 144 bytes keeps what the delivery accepted. -/
theorem survives_whole {s : Staging} (hpage : 144 ≤ s.pageBytes.toNat) {p : UpdatePlatform} {minimum : U32}
    (hmin : minimum ≤ p.antirollbackFloor) {wire : ManifestWire} (hframed : wire.framed = true)
    (hpermits : p.permits wire.manifest = true)
    (hsigned : verifies (wire.field 0 80 signed_fits) wire.manifest.keyId (wire.field 80 64 signature_fits) = true) :
    s.Survives verifies (Boot.BootCoordinator.resetPlatform p minimum) wire := by
  have hwhole := Staging.committed_whole hpage wire
  refine ⟨?_, by rw [hwhole], by rw [hwhole], by rw [hwhole]⟩
  rw [hwhole, UpdatePlatform.accepts, hframed, permits_resetPlatform hmin hpermits]
  exact hsigned

end Reset

/-- **Main result.** After every run of messages that ends in a finish that returns OK, the flash is that of the begin of
the session with the manifest and the image, however the image was split; and at a reset with the durable minimum the
delivery was built from, the slot boots with the manifest's version and size if and only if the page holds the whole
manifest, or what it holds is as good. -/
theorem delivered_boots {manifestA baseA capacityA sectorA pageA manifestB baseB capacityB sectorB pageB : U32}
    {a b : Staging} (ha : Staging.init manifestA baseA capacityA sectorA pageA = some a)
    (hb : Staging.init manifestB baseB capacityB sectorB pageB = some b) {running : U8}
    {executingBase executingCapacity timeout : U32} {platform : UpdatePlatform} {d : UpdateDelivery}
    (hd : UpdateDelivery.init a b running executingBase executingCapacity timeout platform = some d)
    (hf : be.Faithful d.inactive mem fed verifies digest) {minimum : U32} (hmin : minimum ≤ platform.antirollbackFloor)
    (k : κ) (messages : List DeliveryMessage) {id sequence now : U32}
    (h : ((messages.foldl (DeliveryRun.step be) ⟨k, d, []⟩).call be (.finish id sequence now)).2.2 = .result .ok) :
    let w := messages.foldl (DeliveryRun.step be) ⟨k, d, []⟩
    let m := mem (w.step be (.finish id sequence now)).context
    ∃ before b steps wire chunks, w.steps = before ++ b :: steps ∧ Opens d id wire b ∧ Session id steps chunks ∧
      m = d.inactive.delivered wire chunks.flatten
        (mem ((messages.take before.length).foldl (DeliveryRun.step be) ⟨k, d, []⟩).context) ∧
      ∀ {μ : Type} {rd : SlotReader μ} {cr : UpdateCrypto μ} {fed' : μ → List U8} {r0 r1 : SlotRegion} {s : SlotAuthenticator}
        {candidate running' : U8},
        cr.Faithful verifies digest fed' → Shows rd (flashOf m) fed' →
        (SlotAuthenticator.init (Boot.BootCoordinator.resetPlatform platform minimum) r0 r1).isSome = true →
        s.platform = Boot.BootCoordinator.resetPlatform platform minimum → s.regionA = r0 → s.regionB = r1 →
        candidate ≤ 1 → (running' = noSlot ∨ running' ≤ 1) → candidate ≠ running' →
        s.region candidate = d.inactive.bootRegion → ∀ n,
          (Boots rd cr n s candidate running' wire.manifest ↔ 144 ≤ d.inactive.pageBytes.toNat ∨
            d.inactive.Survives verifies (Boot.BootCoordinator.resetPlatform platform minimum) wire) := by
  have hl := init_layout (Staging.init_checked ha) (Staging.init_checked hb) hd
  have hidle {m b c s p : U32} {t : Staging} (h : Staging.init m b c s p = some t) : t.active = false := by
    rw [(Staging.init_some h).1]
  obtain ⟨hsound, -, -, hactive, hplatform⟩ := UpdateDelivery.init_sound (hidle ha) (hidle hb) hd
  obtain ⟨before, b', steps, wire, chunks, hsteps, hopens, hsession, hlength, hcapacity, hmem, hsigned, hdigest⟩ :=
    finish_delivers hf hl messages rfl (show Progress d [] d from .closed hsound hactive) h
  refine ⟨before, b', steps, wire, chunks, hsteps, hopens, hsession, hmem, ?_⟩
  intro μ rd cr fed' r0 r1 s candidate running' hc hrd hinit hp hA hB hcand hrun hne hr n
  rw [hmem] at hrd
  rw [boots_iff (hl.checked _ (by split <;> decide)) hinit hp hA hB hcand hrun hne hr hlength hcapacity hdigest hc hrd n]
  refine ⟨.inr, fun hsurvives => ?_⟩
  rcases hsurvives with hpage | hsurvives
  · exact survives_whole hpage hmin hopens.framed (hplatform ▸ hopens.permits) hsigned
  · exact hsurvives

/-! ## One byte, in pages of 144 and of 48 bytes -/

/-- The one right signature is that of the manifest of one byte. -/
def nineVerifies (_ : Bytes 80) (_ : Bytes 8) (signature : Bytes 64) : Bool := signature = Bytes.filled 64 9

/-- The flash in memory, with that signature. -/
def signedBackend : DeliveryBackend ((ℕ → U8) × List U8) :=
  { ramBackend with
    crypto := { ramBackend.crypto with verifySignature := fun k d i g => (k, nineVerifies d i g) } }

/-- Its crypto alone, which a reset runs. -/
def signedCrypto : UpdateCrypto (List U8) := { sumCrypto with verifySignature := fun k d i g => (k, nineVerifies d i g) }

theorem signedBackend_faithful (s : Staging) :
    signedBackend.Faithful s (·.1) (·.2) nineVerifies sumDigest where
  crypto := ⟨fun _ _ _ _ => rfl, ⟨fun _ _ => rfl, fun _ _ _ => rfl, fun _ _ h => (Option.some.inj h).symm⟩,
    ⟨fun _ => rfl, fun _ _ => rfl, fun _ => rfl⟩⟩
  erase _ _ _ _ _ := rfl
  program _ _ _ _ _ := rfl
  read _ _ _ := rfl
  verify_mem _ _ _ _ := rfl
  begin_mem _ := rfl
  update_mem _ _ := rfl
  finish_mem _ := rfl
  activate_mem _ _ _ := rfl
  erase_fed _ _ _ := rfl
  program_fed _ _ _ := rfl
  read_fed _ _ _ := rfl

theorem signedCrypto_faithful : signedCrypto.Faithful nineVerifies sumDigest id :=
  ⟨fun _ _ _ _ => rfl, sumCrypto_streams, StreamHash.plain_answers sumDigest⟩

/-- A staging of eight sectors of 144 bytes, in pages of this size. -/
def pagedStaging (manifestBase page : U32) : Staging :=
  ⟨false, manifestBase, manifestBase + 144, 1152, 144, page, 0, [], 0, false⟩

/-- A delivery to slot B in such pages. -/
def pagedDelivery (page : U32) : UpdateDelivery :=
  ⟨pagedStaging 0 page, pagedStaging 2880 page, nineVerifier, 144, 1152, 5, 0, 0, 0, 0, 0, 0, 0, 0, false, false⟩

/-- The run up to the finish, over a flash of zeros. -/
def pagedRun (page : U32) : DeliveryRun ((ℕ → U8) × List U8) :=
  [DeliveryMessage.begin 1 1 nineManifest 0, .chunk 1 0 0 [9] 0].foldl (DeliveryRun.step signedBackend)
    ⟨(fun _ => 0, []), pagedDelivery page, []⟩

/-- The flash after the finish. -/
def pagedFlash (page : U32) : ℕ → U8 := ((pagedRun page).step signedBackend (.finish 1 1 0)).context.1

/-- The authenticator of a reset with the minimum version 5. -/
def pagedAuthenticator : SlotAuthenticator :=
  ⟨Boot.BootCoordinator.resetPlatform ninePlatform 5, (pagedStaging 0 144).bootRegion, (pagedStaging 2880 144).bootRegion,
    0, 0, 0, 0⟩

/-- Its reader. -/
def pagedReader (page : U32) : SlotReader (List U8) := fun k address n => (k, flashOf (pagedFlash page) address n)

set_option maxRecDepth 2000 in
/-- In pages of 144 bytes the slot boots. -/
theorem delivered_boots_nine : ∃ wire : ManifestWire,
    Boots (pagedReader 144) signedCrypto [] pagedAuthenticator 1 noSlot wire.manifest := by
  obtain ⟨_, _, _, wire, _, -, -, -, -, hboots⟩ := delivered_boots
    (show Staging.init 0 144 1152 144 144 = some (pagedStaging 0 144) by decide)
    (show Staging.init 2880 3024 1152 144 144 = some (pagedStaging 2880 144) by decide)
    (show UpdateDelivery.init (pagedStaging 0 144) (pagedStaging 2880 144) 0 144 1152 5 ninePlatform =
      some (pagedDelivery 144) by decide)
    (signedBackend_faithful _) (show (5 : U32) ≤ ninePlatform.antirollbackFloor by decide) (fun _ => 0, [])
    [.begin 1 1 nineManifest 0, .chunk 1 0 0 [9] 0]
    (show ((pagedRun 144).call signedBackend (.finish 1 1 0)).2.2 = .result .ok by decide +kernel)
  have hshows : Shows (pagedReader 144) (flashOf (pagedFlash 144)) id := ⟨fun _ _ _ => rfl, fun _ _ _ => rfl⟩
  exact ⟨wire, (hboots (s := pagedAuthenticator) signedCrypto_faithful hshows (show (SlotAuthenticator.init _
    (pagedStaging 0 144).bootRegion (pagedStaging 2880 144).bootRegion).isSome = true by decide) rfl rfl rfl (by decide)
    (.inl rfl) (by decide) rfl []).2 (.inl (by decide))⟩

/-- In pages of 48 bytes it does not: the finish returns OK, and the manifest behind its first 48 bytes is lost. -/
theorem delivered_short_page :
    Staging.init 0 144 1152 144 48 = some (pagedStaging 0 48) ∧
      Staging.init 2880 3024 1152 144 48 = some (pagedStaging 2880 48) ∧
      UpdateDelivery.init (pagedStaging 0 48) (pagedStaging 2880 48) 0 144 1152 5 ninePlatform =
        some (pagedDelivery 48) ∧
      ((pagedRun 48).call signedBackend (.finish 1 1 0)).2.2 = .result .ok ∧
      (pagedAuthenticator.authenticate (pagedReader 48) signedCrypto [] 1 noSlot).2.2.2 = false :=
  ⟨by decide, by decide, by decide, by decide +kernel, by decide +kernel⟩

end OpenRef.Update
