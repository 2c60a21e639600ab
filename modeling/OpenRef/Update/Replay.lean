import Mathlib.Data.List.GetD
import OpenRef.Update.CommitLast
import OpenRef.Update.SlotAuthenticator
/-!
# What the calls of a delivery do

Over a NOR flash that does what it reports and crypto that computes one digest, the calls of a run can be replayed: what is
known of the flash and of the bytes hashed before them gives what is known after them. A call that failed leaves nothing
known.

`run_plays`: this holds from any point of a run to any later one.
-/

namespace OpenRef.Update

open Staging (Checked Live Streamed SameSlot imageCalls)

/-- What is known of the flash, and of the bytes hashed since the digest was started. -/
structure Known where
  mem : Option (ℕ → U8)
  fed : Option (List U8)

namespace DeliveryCall

/-- What is known after a call. -/
def play (s : Known) : DeliveryCall → Known
  | .verifySignature _ _ _ _ => { s with fed := none }
  | .hashBegin ok => { s with fed := if ok then some [] else none }
  | .hashUpdate data ok => { s with fed := if ok then s.fed.map (· ++ data) else none }
  | .hashFinish _ => { s with fed := none }
  | .read _ _ _ => s
  | .erase address length ok =>
    { s with mem := if ok then s.mem.map fun m => Flash.overwrite m ⟨address, length⟩ fun _ => 0xff else none }
  | .program address data ok =>
    { s with mem := if ok then s.mem.map fun m =>
        Flash.overwrite m ⟨address, data.length⟩ fun x => m x &&& data.getD (x - address) 0xff else none }
  | .activate _ _ _ => { s with fed := none }

/-- An answer that agrees with what is known. -/
def Honest (verifies : Bytes 80 → Bytes 8 → Bytes 64 → Bool) (digest : List U8 → Bytes 32) (s : Known) :
    DeliveryCall → Prop
  | .verifySignature signed key signature valid => valid = verifies signed key signature
  | .hashFinish (some d) => ∀ bytes ∈ s.fed, d = digest bytes
  | _ => True

end DeliveryCall

variable {κ : Type}

/-- What is known is so. -/
structure Known.Of (s : Known) (mem : κ → ℕ → U8) (fed : κ → List U8) (k : κ) : Prop where
  mem : ∀ m ∈ s.mem, mem k = m
  fed : ∀ bytes ∈ s.fed, fed k = bytes

/-- The flash of a slot does what it reports, nothing else changes it, and the crypto computes one digest. -/
structure DeliveryBackend.Faithful (be : DeliveryBackend κ) (s : Staging) (mem : κ → ℕ → U8) (fed : κ → List U8)
    (verifies : Bytes 80 → Bytes 8 → Bytes 64 → Bool) (digest : List U8 → Bytes 32) : Prop where
  crypto : be.crypto.Faithful verifies digest fed
  erase : ∀ k a n, s.Owns a.toNat n.toNat → (be.flash.erase k a n).2 = true →
    mem (be.flash.erase k a n).1 = Flash.overwrite (mem k) ⟨a.toNat, n.toNat⟩ fun _ => 0xff
  program : ∀ k a data, s.Owns a.toNat data.length → (be.flash.program k a data).2 = true →
    mem (be.flash.program k a data).1 = Flash.overwrite (mem k) ⟨a.toNat, data.length⟩ fun x =>
      mem k x &&& data.getD (x - a.toNat) 0xff
  read : ∀ k a n, mem (be.flash.read k a n).1 = mem k
  verify_mem : ∀ k signed key signature, mem (be.crypto.verifySignature k signed key signature).1 = mem k
  begin_mem : ∀ k, mem (be.crypto.hashBegin k).1 = mem k
  update_mem : ∀ k data, mem (be.crypto.hashUpdate k data).1 = mem k
  finish_mem : ∀ k, mem (be.crypto.hashFinish k).1 = mem k
  activate_mem : ∀ k slot version, mem (be.activate k slot version).1 = mem k
  erase_fed : ∀ k a n, fed (be.flash.erase k a n).1 = fed k
  program_fed : ∀ k a data, fed (be.flash.program k a data).1 = fed k
  read_fed : ∀ k a n, fed (be.flash.read k a n).1 = fed k

section Plays

variable (mem : κ → ℕ → U8) (fed : κ → List U8) (verifies : Bytes 80 → Bytes 8 → Bytes 64 → Bool)
variable (digest : List U8 → Bytes 32)

/-- From `k` to `k'` the calls did what they reported. -/
def Plays (k : κ) (calls : List DeliveryCall) (k' : κ) : Prop :=
  ∀ s : Known, s.Of mem fed k → (calls.foldl DeliveryCall.play s).Of mem fed k' ∧
    Run.Along DeliveryCall.play (DeliveryCall.Honest verifies digest) s calls

/-- From one journal to the next. -/
def PlaysOn (j j' : Journal κ DeliveryCall) : Prop :=
  ∃ new, j.Wrote new j' ∧ Plays mem fed verifies digest j.context new j'.context

variable {mem fed verifies digest}

theorem Plays.refl (k : κ) : Plays mem fed verifies digest k [] k := fun _ hs => ⟨hs, trivial⟩

theorem Plays.trans {k k' k'' : κ} {calls calls' : List DeliveryCall} (h : Plays mem fed verifies digest k calls k')
    (h' : Plays mem fed verifies digest k' calls' k'') : Plays mem fed verifies digest k (calls ++ calls') k'' := by
  intro s hs
  obtain ⟨hof, halong⟩ := h s hs
  obtain ⟨hof', halong'⟩ := h' _ hof
  rw [List.foldl_append, Run.along_append]
  exact ⟨hof', halong, halong'⟩

theorem PlaysOn.refl (j : Journal κ DeliveryCall) : PlaysOn mem fed verifies digest j j := ⟨[], .refl j, .refl _⟩

theorem PlaysOn.trans {j j' j'' : Journal κ DeliveryCall} (h : PlaysOn mem fed verifies digest j j')
    (h' : PlaysOn mem fed verifies digest j' j'') : PlaysOn mem fed verifies digest j j'' := by
  obtain ⟨new, hw, hp⟩ := h
  obtain ⟨new', hw', hp'⟩ := h'
  exact ⟨new ++ new', hw.trans hw', hp.trans hp'⟩

/-- One call. -/
theorem playsOn_call {ρ : Type} {j : Journal κ DeliveryCall} {f : κ → κ × ρ} {entry : ρ → DeliveryCall}
    (h : ∀ s : Known, s.Of mem fed j.context → (DeliveryCall.play s (entry (f j.context).2)).Of mem fed (f j.context).1 ∧
      DeliveryCall.Honest verifies digest s (entry (f j.context).2)) :
    PlaysOn mem fed verifies digest j (j.call f entry).1 :=
  ⟨_, Journal.call_wrote rfl, fun s hs => ⟨(h s hs).1, (h s hs).2, trivial⟩⟩

end Plays

variable {be : DeliveryBackend κ} {s : Staging} {mem : κ → ℕ → U8} {fed : κ → List U8}
variable {verifies : Bytes 80 → Bytes 8 → Bytes 64 → Bool} {digest : List U8 → Bytes 32}

theorem plays_frame (hf : be.Faithful s mem fed verifies digest) :
    Staging.StagingFrame be.journaled.flash be.journaled.crypto s.Owns (PlaysOn mem fed verifies digest) where
  refl := .refl
  trans := .trans
  read k a n := by
    refine playsOn_call fun s hs => ⟨⟨fun m hm => ?_, fun bytes hb => ?_⟩, trivial⟩
    · rw [hf.read, hs.mem m hm]
    · rw [hf.read_fed, hs.fed bytes hb]
  erase k a n ha := by
    refine playsOn_call fun s hs => ⟨⟨fun m hm => ?_, fun bytes hb => ?_⟩, trivial⟩
    · obtain ⟨hok, hm⟩ := Option.mem_ite_none_right.1 hm
      obtain ⟨m₀, hm₀, rfl⟩ := Option.mem_map.1 hm
      rw [hf.erase _ a n ha hok, hs.mem m₀ hm₀]
    · rw [hf.erase_fed, hs.fed bytes hb]
  program k a data ha := by
    refine playsOn_call fun s hs => ⟨⟨fun m hm => ?_, fun bytes hb => ?_⟩, trivial⟩
    · obtain ⟨hok, hm⟩ := Option.mem_ite_none_right.1 hm
      obtain ⟨m₀, hm₀, rfl⟩ := Option.mem_map.1 hm
      rw [hf.program _ a data ha hok, hs.mem m₀ hm₀]
    · rw [hf.program_fed, hs.fed bytes hb]
  verifySignature k d i g := by
    refine playsOn_call fun s hs => ⟨⟨fun m hm => ?_, fun bytes hb => ?_⟩, hf.crypto.verify _ _ _ _⟩
    · rw [hf.verify_mem, hs.mem m hm]
    · cases hb
  hashBegin k := by
    refine playsOn_call fun s hs => ⟨⟨fun m hm => ?_, fun bytes hb => ?_⟩, trivial⟩
    · rw [hf.begin_mem, hs.mem m hm]
    · obtain ⟨hok, hb⟩ := Option.mem_ite_none_right.1 hb
      rw [← Option.some.inj hb]
      exact hf.crypto.streams.start _ hok
  hashUpdate k data := by
    refine playsOn_call fun s hs => ⟨⟨fun m hm => ?_, fun bytes hb => ?_⟩, trivial⟩
    · rw [hf.update_mem, hs.mem m hm]
    · obtain ⟨hok, hb⟩ := Option.mem_ite_none_right.1 hb
      obtain ⟨fed₀, hfed₀, rfl⟩ := Option.mem_map.1 hb
      exact (hf.crypto.streams.update _ data hok).trans (congrArg (· ++ data) (hs.fed fed₀ hfed₀))
  hashFinish k := by
    refine playsOn_call fun s hs => ⟨⟨fun m hm => ?_, fun bytes hb => ?_⟩, ?_⟩
    · rw [hf.finish_mem, hs.mem m hm]
    · cases hb
    · cases hd : (be.crypto.hashFinish k.context).2 with
      | none => trivial
      | some d =>
        intro bytes hb
        rw [← hs.fed bytes hb]
        exact hf.crypto.streams.finish _ d hd

/-- One message. -/
theorem step_plays {d₀ : UpdateDelivery} (hf : be.Faithful d₀.inactive mem fed verifies digest) (hl : Layout d₀)
    {w : DeliveryRun κ} (hp : Progress d₀ w.steps w.delivery) (m : DeliveryMessage) :
    Plays mem fed verifies digest w.context (w.record be m).calls (w.step be m).context := by
  have hframe := plays_frame hf
  have hnowhere : Staging.StagingFrame be.journaled.flash be.journaled.crypto UpdateDelivery.nowhere
      (PlaysOn mem fed verifies digest) := hframe.mono fun _ _ h => h.elim
  have hgeometry : ∀ t, t < 2 → Staging.Geometry (w.delivery.slot t) := fun t ht => (hp.checked hl ht).toGeometry
  have hactivate (j : Journal κ DeliveryCall) (slot : U8) (version : U32) :
      PlaysOn mem fed verifies digest j (be.journaled.activate j slot version).1 := by
    refine playsOn_call fun s hs => ⟨⟨fun m hm => ?_, fun bytes hb => ?_⟩, trivial⟩
    · rw [hf.activate_mem, hs.mem m hm]
    · cases hb
  have hplays : PlaysOn mem fed verifies digest ⟨w.context, []⟩ (w.call be m).1 := by
    cases m with
    | begin session target wire now =>
      refine (UpdateDelivery.begin_frame hnowhere hp.toSound hgeometry ⟨w.context, []⟩ session target wire now
        fun hadm _ => ?_).1
      simp only [UpdateDelivery.admits, Bool.and_eq_true, decide_eq_true_eq] at hadm
      have hslot := UpdateDelivery.slot_inactive hl.running hadm.1.2 (hp.running ▸ hadm.2)
      have hsame := hp.slots target hadm.1.2
      rw [hslot] at hsame
      rw [hsame.owns]
      exact hframe
    | chunk session sequence offset data now =>
      refine (UpdateDelivery.chunk_frame hnowhere hp.toSound hgeometry ⟨w.context, []⟩ session sequence offset data now
        fun ha => ?_).1
      rw [(hp.same hl ha).owns]
      exact hframe
    | finish session sequence now =>
      refine (UpdateDelivery.finish_frame hnowhere hactivate hp.toSound hgeometry ⟨w.context, []⟩ session sequence now
        fun ha => ?_).1
      rw [(hp.same hl ha).owns]
      exact hframe
    | poll => exact .refl _
    | reset => exact .refl _
  obtain ⟨new, hnew, hplays⟩ := hplays
  rw [← hnew.entries] at hplays
  exact hplays

/-- **From any point of a run to any later one, the calls did what they reported.** -/
theorem run_plays {d₀ : UpdateDelivery} (hf : be.Faithful d₀.inactive mem fed verifies digest) (hl : Layout d₀) :
    ∀ (messages : List DeliveryMessage) {w : DeliveryRun κ}, Progress d₀ w.steps w.delivery →
      ∃ steps, steps.length = messages.length ∧ (messages.foldl (DeliveryRun.step be) w).steps = w.steps ++ steps ∧
        Plays mem fed verifies digest w.context (steps.flatMap DeliveryStep.calls)
          (messages.foldl (DeliveryRun.step be) w).context
  | [], w, _ => ⟨[], rfl, (List.append_nil _).symm, .refl _⟩
  | m :: messages, w, hp => by
    obtain ⟨steps, hlength, hsteps, hplays⟩ := run_plays hf hl messages (delivery_step be hl hp m).1
    refine ⟨w.record be m :: steps, by rw [List.length_cons, List.length_cons, hlength], ?_, ?_⟩
    · rw [List.foldl_cons, hsteps]
      exact List.append_assoc _ _ _
    · exact (step_plays hf hl hp m).trans hplays

/-! ## The flash of a session -/

/-- Bytes programmed from an address on, and 0xff, which changes nothing, behind them. -/
def programmed (m : ℕ → U8) (address : ℕ) (data : List U8) : ℕ → U8 :=
  fun x => if x < address then m x else m x &&& data.getD (x - address) 0xff

theorem and_ff (b : U8) : b &&& 0xff = b := BitVec.and_allOnes

theorem ff_and (b : U8) : 0xff &&& b = b := BitVec.allOnes_and

theorem padded_getD (s : Staging) (bytes : List U8) (i : ℕ) :
    (s.padded bytes).getD i 0xff = (bytes.take s.pageBytes.toNat).getD i 0xff := by
  simp only [Staging.padded, List.getD_eq_getElem?_getD, List.getElem?_take]
  split
  · rw [List.getElem?_append]
    split
    · rfl
    next h =>
      rw [List.getElem?_replicate, List.getElem?_eq_none (Nat.le_of_not_lt h)]
      split <;> rfl
  · rfl

theorem overwrite_padded (s : Staging) (m : ℕ → U8) (address : ℕ) (bytes : List U8) :
    Flash.overwrite m ⟨address, (s.padded bytes).length⟩ (fun x => m x &&& (s.padded bytes).getD (x - address) 0xff) =
      programmed m address (bytes.take s.pageBytes.toNat) := by
  funext x
  unfold Flash.overwrite programmed FlashOp.Touches
  simp only [Staging.length_padded, padded_getD]
  by_cases hlo : x < address
  · rw [if_pos hlo, if_neg (by omega)]
  · rw [if_neg hlo]
    split
    · rfl
    next hhi =>
      rw [List.getD_eq_default _ _ (by rw [List.length_take]; omega), and_ff]

/-- The page and what follows it. -/
theorem programmed_append (m : ℕ → U8) (address : ℕ) (page rest : List U8) :
    programmed (programmed m address page) (address + page.length) rest = programmed m address (page ++ rest) := by
  funext x
  unfold programmed
  by_cases hlo : x < address
  · rw [if_pos (by omega), if_pos hlo, if_pos hlo]
  · by_cases hmid : x < address + page.length
    · rw [if_pos hmid, if_neg hlo, if_neg hlo, List.getD_append _ _ _ _ (by omega)]
    · rw [if_neg hmid, if_neg hlo, if_neg hlo, List.getD_eq_default page _ (by omega), and_ff,
        List.getD_append_right _ _ _ _ (by omega), Nat.sub_sub]

theorem programmed_nil (m : ℕ → U8) (address : ℕ) : programmed m address [] = m := by
  funext x
  unfold programmed
  split
  · rfl
  · rw [List.getD_nil, and_ff]

/-- The pages of an image leave it in the flash, and hashed. -/
theorem play_image (s : Staging) : ∀ (pages : List (List U8)) (offset : ℕ) (m : ℕ → U8) (fed : List U8),
    (∀ page ∈ pages, page.length ≤ s.pageBytes.toNat) → (∀ page ∈ pages.dropLast, page.length = s.pageBytes.toNat) →
    (imageCalls s offset pages).foldl DeliveryCall.play ⟨some m, some fed⟩ =
      ⟨some (programmed m (s.base.toNat + offset) pages.flatten), some (fed ++ pages.flatten)⟩
  | [], offset, m, fed, _, _ => by
    rw [List.flatten_nil, programmed_nil, List.append_nil]
    rfl
  | page :: pages, offset, m, fed, hle, hfull => by
    have htake : page.take s.pageBytes.toNat = page := List.take_of_length_le (hle page List.mem_cons_self)
    rw [imageCalls, List.foldl_append]
    simp only [Staging.pageCalls, List.foldl_cons, List.foldl_nil, DeliveryCall.play, if_true, Option.map_some,
      overwrite_padded, htake]
    cases pages with
    | nil => simp [imageCalls]
    | cons next pages =>
      have hpage : page.length = s.pageBytes.toNat := hfull page List.mem_cons_self
      rw [play_image s (next :: pages) _ _ _ (fun p hp => hle p (List.mem_cons_of_mem _ hp))
        (fun p hp => hfull p (List.mem_cons_of_mem _ hp)), ← Nat.add_assoc, ← hpage, programmed_append, List.append_assoc]
      rfl

/-- What a delivery leaves in the flash: the manifest and the image, 0xff behind them in their sectors, and the rest as it
was when the session began. -/
def Staging.delivered (s : Staging) (wire : ManifestWire) (image : List U8) (m : ℕ → U8) : ℕ → U8 := fun x =>
  if s.manifestBase.toNat ≤ x ∧ x < s.base.toNat then (wire.bytes.take s.pageBytes.toNat).getD (x - s.manifestBase.toNat) 0xff
  else if s.base.toNat ≤ x ∧ x < s.base.toNat + s.eraseLength image.length then image.getD (x - s.base.toNat) 0xff
  else m x

/-- The calls of a session that was committed. -/
def sessionCalls (s : Staging) (wire : ManifestWire) (pages : List (List U8)) (activate : DeliveryCall) : List DeliveryCall :=
  [.verifySignature (wire.field 0 80 signed_fits) wire.manifest.keyId (wire.field 80 64 signature_fits) true, .hashBegin true,
    .erase s.manifestBase.toNat s.sectorBytes.toNat true,
    .erase s.base.toNat (s.eraseLength wire.manifest.imageSize.toNat) true] ++
  (imageCalls s 0 pages ++ [.hashFinish (some wire.manifest.digest),
    .program s.manifestBase.toNat (s.padded wire.bytes) true,
    .read s.manifestBase.toNat s.pageBytes.toNat (some (s.padded wire.bytes)), activate])

theorem erased_delivered (s : Staging) (hg : Checked s) (wire : ManifestWire) {image : List U8} (m : ℕ → U8)
    (hsize : image.length ≤ s.eraseLength image.length) :
    programmed (programmed
      (Flash.overwrite (Flash.overwrite m ⟨s.manifestBase.toNat, s.sectorBytes.toNat⟩ fun _ => 0xff)
        ⟨s.base.toNat, s.eraseLength image.length⟩ fun _ => 0xff) s.base.toNat image) s.manifestBase.toNat
          (wire.bytes.take s.pageBytes.toNat) = s.delivered wire image m := by
  have hbase := hg.base_eq
  have hpage := Nat.le_of_dvd hg.sector_pos hg.page_sector
  funext x
  unfold programmed Staging.delivered
  by_cases hbelow : x < s.manifestBase.toNat
  · rw [if_pos hbelow, if_pos (by omega), Flash.overwrite_outside (by rintro ⟨h, -⟩; dsimp only at h; omega),
      Flash.overwrite_outside (by rintro ⟨h, -⟩; dsimp only at h; omega), if_neg (by omega), if_neg (by omega)]
  · rw [if_neg hbelow]
    by_cases hsector : x < s.base.toNat
    · rw [if_pos hsector, Flash.overwrite_outside (by rintro ⟨h, -⟩; dsimp only at h; omega),
        Flash.overwrite_inside ⟨by dsimp only; omega, by dsimp only; omega⟩, if_pos (by omega), ff_and]
    · have hbehind : (wire.bytes.take s.pageBytes.toNat).length ≤ x - s.manifestBase.toNat := by
        rw [List.length_take]
        omega
      rw [if_neg hsector, List.getD_eq_default _ _ hbehind, and_ff, if_neg (c := _ ∧ x < s.base.toNat) (by omega)]
      by_cases himage : x < s.base.toNat + s.eraseLength image.length
      · rw [Flash.overwrite_inside ⟨by dsimp only; omega, himage⟩, if_pos (by omega), ff_and]
      · rw [Flash.overwrite_outside (by rintro ⟨-, h⟩; exact himage h),
          Flash.overwrite_outside (by rintro ⟨-, h⟩; dsimp only at h; omega), if_neg (by omega),
          List.getD_eq_default _ _ (by omega), and_ff]

/-- Whole sectors have room for the image. -/
theorem le_eraseLength {s : Staging} (hg : Checked s) (n : ℕ) : n ≤ s.eraseLength n := by
  have hpos := hg.sector_pos
  have hdiv := Nat.div_add_mod (n + s.sectorBytes.toNat - 1) s.sectorBytes.toNat
  have hmod := Nat.mod_lt (n + s.sectorBytes.toNat - 1) hpos
  rw [Staging.eraseLength, Nat.mul_comm]
  omega

theorem play_session (s : Staging) (hg : Checked s) (wire : ManifestWire) {pages : List (List U8)} {image : List U8}
    (hp : Paged s.pageBytes.toNat image pages) (himage : image.length = wire.manifest.imageSize.toNat)
    (activate : DeliveryCall) (hactivate : ∃ slot version ok, activate = .activate slot version ok) (m : ℕ → U8) :
    ((sessionCalls s wire pages activate).foldl DeliveryCall.play ⟨some m, none⟩).mem = some (s.delivered wire image m) ∧
      ∀ verifies digest, Run.Along DeliveryCall.play (DeliveryCall.Honest verifies digest) ⟨some m, none⟩
        (sessionCalls s wire pages activate) →
        verifies (wire.field 0 80 (by decide)) wire.manifest.keyId (wire.field 80 64 (by decide)) = true ∧
          wire.manifest.digest = digest image := by
  obtain ⟨slot, version, ok, rfl⟩ := hactivate
  have hle := le_eraseLength hg image.length
  have hplay := fun m fed => play_image s pages 0 m fed (fun page hpage => (hp.bounded page hpage).2) hp.full
  constructor
  · rw [sessionCalls, List.foldl_append, List.foldl_append]
    simp only [List.foldl_cons, List.foldl_nil, DeliveryCall.play, if_true, Option.map_some, hplay, hp.flatten,
      overwrite_padded, Nat.add_zero, ← himage, erased_delivered s hg wire m hle]
  · intro verifies digest h
    rw [sessionCalls, Run.along_append, Run.along_append] at h
    obtain ⟨⟨hverify, -⟩, -, hfinish, -⟩ := h
    refine ⟨hverify.symm, hfinish image ?_⟩
    simp only [List.foldl_cons, List.foldl_nil, DeliveryCall.play, if_true, Option.map_some, hplay, hp.flatten,
      List.nil_append]
    rfl

end OpenRef.Update
