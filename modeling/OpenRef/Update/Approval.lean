import Mathlib.Data.List.Induction
import OpenRef.Lib.Run
import OpenRef.Lib.StreamHash
import OpenRef.Update.Verifier
/-!
# Verified means verified

Begins, chunks and finishes arrive in any order and the crypto callbacks may fail; what the hash callbacks compute is
one digest of the bytes since the last `hash_begin`. A verifier is run beside the bytes it has accepted since the
begin it accepted last.

`verified_sound`: approval is of the stored manifest and of these bytes, and a run of a begin, chunks and a finish is
approved or not whatever the chunks, as long as none of them is refused. A chunk of no bytes is refused.
-/

namespace OpenRef.Update

variable {κ : Type}

/-- The hash callbacks. -/
def UpdateCrypto.hasher (cr : UpdateCrypto κ) : StreamHash.Hasher κ U8 (Bytes 32) :=
  ⟨cr.hashBegin, cr.hashUpdate, cr.hashFinish⟩

/-- `image_data` of a `uint32_t length`. -/
structure Chunk where
  bytes : List U8
  length_lt : bytes.length < 2 ^ 32
deriving DecidableEq

/-- A call on the verifier. -/
inductive VerifierCall where
  | begin (wire : ManifestWire)
  | write (chunk : Chunk)
  | finish

/-- The verifier, the environment of its callbacks, and the bytes accepted since the last begin that was accepted. -/
structure Verifying (κ : Type) where
  context : κ
  verifier : UpdateVerifier
  image : List U8

namespace Verifying

variable (cr : UpdateCrypto κ)

/-- The verifier after a call, and the answer. -/
def call (w : Verifying κ) : VerifierCall → Verifying κ × Bool
  | .begin wire =>
    let r := w.verifier.begin cr w.context wire
    (⟨r.1, r.2.1, if r.2.2 then [] else w.image⟩, r.2.2)
  | .write chunk =>
    let r := w.verifier.write cr w.context chunk.bytes
    (⟨r.1, r.2.1, if r.2.2 then w.image ++ chunk.bytes else w.image⟩, r.2.2)
  | .finish =>
    let r := w.verifier.finish cr w.context
    (⟨r.1, r.2.1, w.image⟩, r.2.2)

/-- One call. -/
def step (w : Verifying κ) (c : VerifierCall) : Verifying κ := (w.call cr c).1

/-- What the call returns. -/
def answer (w : Verifying κ) (c : VerifierCall) : Bool := (w.call cr c).2

/-- A verifier after some calls. -/
def run (w₀ : Verifying κ) (past : List VerifierCall) : Verifying κ := past.foldl (step cr) w₀

end Verifying

section Histories

variable (cr : UpdateCrypto κ) (w₀ : Verifying κ)

/-- A begin that was accepted. -/
def Accepted (past : List VerifierCall) (c : VerifierCall) : Prop :=
  ∃ wire, c = .begin wire ∧ (w₀.run cr past).answer cr c = true

/-- The begin that stored this manifest: its signature was verified. -/
structure Stores (m : UpdateManifest) (past : List VerifierCall) (c : VerifierCall) : Prop where
  accepted : Accepted cr w₀ past c
  signed : ∃ wire, c = .begin wire ∧ wire.framed = true ∧ wire.manifest = m ∧
    (UpdateVerifier.signature cr (w₀.run cr past).context wire).2 = true

/-- The stored manifest is permitted, and the last begin that was accepted stored it. -/
structure Opened (past : List VerifierCall) (v : UpdateVerifier) : Prop where
  permits : w₀.verifier.platform.permits v.manifest = true
  since : Run.Since (Stores cr w₀ v.manifest) (fun earlier c => ¬ Accepted cr w₀ earlier c) past

/-- What holds of the verifier after every run. -/
structure Sound (digest : List U8 → Bytes 32) (fed : κ → List U8) (past : List VerifierCall) (w : Verifying κ) : Prop where
  platform : w.verifier.platform = w₀.verifier.platform
  bounded : w.verifier.receivedBytes ≤ w.verifier.manifest.imageSize
  exclusive : w.verifier.active = true → w.verifier.verified = false
  opened : w.verifier.active = true ∨ w.verifier.verified = true → Opened cr w₀ past w.verifier ∧
    w.image.length = w.verifier.receivedBytes.toNat
  fed : w.verifier.active = true → fed w.context = w.image
  matched : w.verifier.verified = true → w.verifier.receivedBytes = w.verifier.manifest.imageSize ∧
    digest w.image = w.verifier.manifest.digest

end Histories

section Runs

variable {cr : UpdateCrypto κ} {w₀ : Verifying κ} {digest : List U8 → Bytes 32} {fed : κ → List U8}

theorem Verifying.run_concat (past : List VerifierCall) (c : VerifierCall) :
    w₀.run cr (past ++ [c]) = (w₀.run cr past).step cr c := by
  rw [run, List.foldl_append]
  rfl

/-- A manifest stays stored over a call that is no accepted begin. -/
theorem Opened.later {past : List VerifierCall} {v v' : UpdateVerifier} (h : Opened cr w₀ past v)
    (hm : v'.manifest = v.manifest) {c : VerifierCall} (hc : ¬ Accepted cr w₀ past c) :
    Opened cr w₀ (past ++ [c]) v' := by
  obtain ⟨hpermits, hsince⟩ := h
  rw [← hm] at hpermits hsince
  exact ⟨hpermits, .later hsince hc⟩

/-- A call that changes nothing but counters, and may end the session. -/
theorem Sound.refused {past : List VerifierCall} {w w' : Verifying κ} (h : Sound cr w₀ digest fed past w)
    {c : VerifierCall} (hc : ¬ Accepted cr w₀ past c) (hplatform : w'.verifier.platform = w.verifier.platform)
    (hm : w'.verifier.manifest = w.verifier.manifest) (hr : w'.verifier.receivedBytes = w.verifier.receivedBytes)
    (hv : w'.verifier.verified = w.verifier.verified) (hi : w'.image = w.image)
    (ha : w'.verifier.active = true → w.verifier.active = true ∧ w'.context = w.context) :
    Sound cr w₀ digest fed (past ++ [c]) w' where
  platform := hplatform.trans h.platform
  bounded := by
    rw [hm, hr]
    exact h.bounded
  exclusive hactive := hv.trans (h.exclusive (ha hactive).1)
  opened hlive := by
    have hlive : w.verifier.active = true ∨ w.verifier.verified = true := by
      rcases hlive with hactive | hverified
      · exact .inl (ha hactive).1
      · exact .inr (hv ▸ hverified)
    obtain ⟨hopened, hlength⟩ := h.opened hlive
    rw [hi, hr]
    exact ⟨hopened.later hm hc, hlength⟩
  fed hactive := by
    obtain ⟨hactive, hk⟩ := ha hactive
    rw [hi, hk]
    exact h.fed hactive
  matched hverified := by
    rw [hi, hm, hr]
    exact h.matched (hv ▸ hverified)

theorem sound_begin (hs : StreamHash.Streams cr.hasher digest fed) {past : List VerifierCall} (wire : ManifestWire)
    (h : Sound cr w₀ digest fed past (w₀.run cr past)) :
    Sound cr w₀ digest fed (past ++ [.begin wire]) (w₀.run cr (past ++ [.begin wire])) := by
  have hbegun := UpdateVerifier.begin_begun cr (w₀.run cr past).context (w₀.run cr past).verifier wire
  rw [Verifying.run_concat]
  have hanswer : (w₀.run cr past).answer cr (.begin wire) =
      ((w₀.run cr past).verifier.begin cr (w₀.run cr past).context wire).2.2 := rfl
  simp only [Verifying.step, Verifying.call]
  generalize (w₀.run cr past).verifier.begin cr (w₀.run cr past).context wire = r at hbegun hanswer ⊢
  cases hbegun with
  | rejected k' hidle =>
    have hno : ¬ Accepted cr w₀ past (.begin wire) := by
      rintro ⟨_, -, ha⟩
      rw [hanswer] at ha
      cases ha
    cases hactive : (w₀.run cr past).verifier.active with
    | true =>
      -- an active session goes on
      have hforget : (w₀.run cr past).verifier.forget = (w₀.run cr past).verifier := if_pos hactive
      rw [hforget]
      exact h.refused hno rfl rfl rfl rfl rfl fun _ => ⟨hactive, hidle hactive⟩
    | false =>
      have hforget : (w₀.run cr past).verifier.forget =
          { (w₀.run cr past).verifier with
            verified := false, receivedBytes := 0, manifest := .zero, manifestWire := Bytes.zero _ } :=
        if_neg (Bool.not_eq_true _ ▸ hactive)
      rw [hforget]
      refine ⟨h.platform, BitVec.le_refl _, fun _ => rfl, ?_, ?_, (fun hv => by cases hv)⟩
      · intro hlive
        simp [hactive] at hlive
      · intro hlive
        simp [hactive] at hlive
  | started hactive hframed hpermits hsigned hstart =>
    have hplatform : (w₀.run cr past).verifier.forget.platform = w₀.verifier.platform :=
      (UpdateVerifier.forget_platform _).trans h.platform
    refine ⟨hplatform, Nat.zero_le _, fun _ => rfl, fun _ => ⟨⟨?_, .here ⟨⟨wire, rfl, hanswer⟩, ?_⟩⟩, rfl⟩, fun _ => ?_,
      (fun hv => by cases hv)⟩
    · rw [← h.platform]
      exact hpermits
    · exact ⟨wire, rfl, hframed, rfl, hsigned⟩
    · exact hs.start _ hstart

theorem sound_write (hs : StreamHash.Streams cr.hasher digest fed) {past : List VerifierCall} (chunk : Chunk)
    (h : Sound cr w₀ digest fed past (w₀.run cr past)) :
    Sound cr w₀ digest fed (past ++ [.write chunk]) (w₀.run cr (past ++ [.write chunk])) := by
  have hwritten := UpdateVerifier.write_written cr (w₀.run cr past).context (w₀.run cr past).verifier chunk.bytes
  have hno : ¬ Accepted cr w₀ past (.write chunk) := fun ⟨_, hc, _⟩ => by cases hc
  rw [Verifying.run_concat]
  simp only [Verifying.step, Verifying.call]
  generalize (w₀.run cr past).verifier.write cr (w₀.run cr past).context chunk.bytes = r at hwritten ⊢
  cases hwritten with
  | failed k' => exact h.refused hno rfl rfl rfl rfl rfl fun ha => by cases ha
  | taken htakes hupdate =>
    obtain ⟨hactive, hlength, hreceived, hfits⟩ := htakes
    have hverified := h.exclusive hactive
    obtain ⟨hopened, hlen⟩ := h.opened (.inl hactive)
    have hnat : (BitVec.ofNat 32 chunk.bytes.length).toNat = chunk.bytes.length := by
      rw [BitVec.toNat_ofNat, Nat.mod_eq_of_lt chunk.length_lt]
    rw [BitVec.le_def, BitVec.toNat_sub_of_le hreceived, hnat] at hfits
    rw [BitVec.le_def] at hreceived
    have hsize := (w₀.run cr past).verifier.manifest.imageSize.isLt
    have hsum : ((w₀.run cr past).verifier.receivedBytes + BitVec.ofNat 32 chunk.bytes.length).toNat =
        (w₀.run cr past).verifier.receivedBytes.toNat + chunk.bytes.length := by
      rw [BitVec.toNat_add, hnat, Nat.mod_eq_of_lt (by omega)]
    refine ⟨h.platform, ?_, fun _ => hverified, fun _ => ⟨⟨hopened.permits, .later hopened.since hno⟩, ?_⟩,
      fun _ => ?_, fun hv => ?_⟩
    · rw [BitVec.le_def, hsum]
      dsimp only
      omega
    · dsimp only
      rw [hsum, if_pos rfl, List.length_append, hlen]
    · rw [← h.fed hactive]
      exact hs.update _ chunk.bytes hupdate
    · exact absurd (hverified.symm.trans hv) Bool.false_ne_true

theorem sound_finish (hs : StreamHash.Streams cr.hasher digest fed) {past : List VerifierCall}
    (h : Sound cr w₀ digest fed past (w₀.run cr past)) :
    Sound cr w₀ digest fed (past ++ [.finish]) (w₀.run cr (past ++ [.finish])) := by
  have hfinished := UpdateVerifier.finish_finished cr (w₀.run cr past).context (w₀.run cr past).verifier
  have hno : ¬ Accepted cr w₀ past .finish := fun ⟨_, hc, _⟩ => by cases hc
  rw [Verifying.run_concat]
  simp only [Verifying.step, Verifying.call]
  generalize (w₀.run cr past).verifier.finish cr (w₀.run cr past).context = r at hfinished ⊢
  cases hfinished with
  | failed => exact h.refused hno rfl rfl rfl rfl rfl fun ha => by cases ha
  | mismatch hactive => exact h.refused hno rfl rfl rfl (h.exclusive hactive).symm rfl fun ha => by cases ha
  | matched hactive hreceived hdigest =>
    obtain ⟨hopened, hlen⟩ := h.opened (.inl hactive)
    refine ⟨h.platform, h.bounded, (fun ha => by cases ha), fun _ => ⟨⟨hopened.permits, .later hopened.since hno⟩, hlen⟩,
      (fun ha => by cases ha), fun _ => ⟨hreceived, ?_⟩⟩
    have hd := hs.finish _ _ hdigest
    rw [h.fed hactive] at hd
    exact hd.symm

theorem sound_run (hs : StreamHash.Streams cr.hasher digest fed) {p : UpdatePlatform} {v : UpdateVerifier}
    (hinit : UpdateVerifier.init p = some v) (k : κ) (past : List VerifierCall) :
    Sound cr ⟨k, v, []⟩ digest fed past (Verifying.run cr ⟨k, v, []⟩ past) := by
  induction past using List.reverseRecOn with
  | nil =>
    obtain ⟨-, hactive, hverified, hmanifest, hreceived⟩ := UpdateVerifier.init_fresh hinit
    refine ⟨rfl, ?_, fun _ => hverified, fun hlive => ?_, fun ha => ?_, fun hv => ?_⟩
    · rw [Verifying.run, List.foldl_nil, hmanifest, hreceived]
      exact BitVec.le_refl _
    · rcases hlive with ha | hv
      · exact absurd (hactive.symm.trans ha) Bool.false_ne_true
      · exact absurd (hverified.symm.trans hv) Bool.false_ne_true
    · exact absurd (hactive.symm.trans ha) Bool.false_ne_true
    · exact absurd (hverified.symm.trans hv) Bool.false_ne_true
  | append_singleton past c ih =>
    cases c with
    | begin wire => exact sound_begin hs wire ih
    | write chunk => exact sound_write hs chunk ih
    | finish => exact sound_finish hs ih

/-! ## Chunks and a finish -/

/-- The bytes of some chunks. -/
def imageOf (chunks : List Chunk) : List U8 := (chunks.map Chunk.bytes).flatten

/-- Every call of a run is accepted. -/
def Verifying.Taken (cr : UpdateCrypto κ) (w : Verifying κ) (calls : List VerifierCall) : Prop :=
  Run.Along (Verifying.step cr) (fun w c => w.answer cr c = true) w calls

theorem begin_opens {w : Verifying κ} {wire : ManifestWire} (h : w.answer cr (.begin wire) = true) :
    (w.step cr (.begin wire)).verifier.active = true ∧ (w.step cr (.begin wire)).verifier.manifest = wire.manifest ∧
      (w.step cr (.begin wire)).image = [] := by
  have hr : (w.verifier.begin cr w.context wire).2.2 = true := h
  obtain ⟨-, -, -, hmanifest, hactive, -⟩ := UpdateVerifier.begin_some hr
  exact ⟨hactive, hmanifest, if_pos hr⟩

/-- Chunks that are all accepted. -/
theorem writes_taken : ∀ (chunks : List Chunk) {w : Verifying κ}, w.verifier.active = true →
    w.Taken cr (chunks.map .write) →
    let w' := (chunks.map .write).foldl (Verifying.step cr) w
    w'.verifier.active = true ∧ w'.verifier.manifest = w.verifier.manifest ∧ w'.image = w.image ++ imageOf chunks
  | [], w, hactive, _ => ⟨hactive, rfl, (List.append_nil _).symm⟩
  | chunk :: chunks, w, hactive, ⟨hanswer, htaken⟩ => by
    have hwritten := UpdateVerifier.write_written cr w.context w.verifier chunk.bytes
    have hstep : (w.step cr (.write chunk)).verifier.active = true ∧
        (w.step cr (.write chunk)).verifier.manifest = w.verifier.manifest ∧
        (w.step cr (.write chunk)).image = w.image ++ chunk.bytes := by
      simp only [Verifying.answer, Verifying.call] at hanswer
      simp only [Verifying.step, Verifying.call]
      generalize w.verifier.write cr w.context chunk.bytes = r at hwritten hanswer ⊢
      cases hwritten with
      | failed => cases hanswer
      | taken => exact ⟨hactive, rfl, rfl⟩
    obtain ⟨hactive', hmanifest, himage⟩ := hstep
    obtain ⟨hlast, hmanifest', himage'⟩ := writes_taken chunks hactive' htaken
    refine ⟨hlast, hmanifest'.trans hmanifest, himage'.trans ?_⟩
    rw [himage, List.append_assoc, imageOf, imageOf, List.map_cons, List.flatten_cons]

/-- A session that has ended accepts no chunk, and one that goes on has accepted them. -/
theorem write_refused {w : Verifying κ} {chunk : Chunk}
    (h : w.verifier.active = false ∨ w.answer cr (.write chunk) = false) :
    (w.step cr (.write chunk)).verifier.active = false := by
  have hwritten := UpdateVerifier.write_written cr w.context w.verifier chunk.bytes
  simp only [Verifying.answer, Verifying.call] at h
  simp only [Verifying.step, Verifying.call]
  generalize w.verifier.write cr w.context chunk.bytes = r at hwritten h ⊢
  cases hwritten with
  | failed => rfl
  | taken htakes =>
    rcases h with h | h
    · exact absurd (h.symm.trans htakes.active) Bool.false_ne_true
    · cases h

theorem writes_ended : ∀ (chunks : List Chunk) {w : Verifying κ}, w.verifier.active = false →
    ((chunks.map .write).foldl (Verifying.step cr) w).verifier.active = false
  | [], _, h => h
  | _ :: chunks, _, h => writes_ended chunks (write_refused (.inl h))

theorem writes_refused : ∀ (chunks : List Chunk) {w : Verifying κ}, ¬ w.Taken cr (chunks.map .write) →
    ((chunks.map .write).foldl (Verifying.step cr) w).verifier.active = false
  | [], _, h => absurd trivial h
  | chunk :: chunks, w, h => by
    cases hanswer : w.answer cr (.write chunk) with
    | false => exact writes_ended chunks (write_refused (.inr hanswer))
    | true => exact writes_refused chunks fun htaken => h ⟨hanswer, htaken⟩

theorem finish_answer {w : Verifying κ} : w.answer cr .finish = true ↔ w.verifier.active = true ∧
    w.verifier.receivedBytes = w.verifier.manifest.imageSize ∧
      (cr.hashFinish w.context).2 = some w.verifier.manifest.digest := by
  have hfinished := UpdateVerifier.finish_finished cr w.context w.verifier
  simp only [Verifying.answer, Verifying.call]
  generalize w.verifier.finish cr w.context = r at hfinished ⊢
  cases hfinished with
  | failed hno => exact iff_of_false Bool.false_ne_true fun h => hno ⟨h.1, h.2.1⟩
  | mismatch _ _ hno => exact iff_of_false Bool.false_ne_true fun h => hno h.2.2
  | matched hactive hreceived hdigest => exact iff_of_true rfl ⟨hactive, hreceived, hdigest⟩

/-- The outcome of a begin that was accepted, chunks and a finish. -/
theorem chunks_outcome (hs : StreamHash.Streams cr.hasher digest fed) {past : List VerifierCall} {wire : ManifestWire}
    (hopen : (w₀.run cr past).answer cr (.begin wire) = true) (chunks : List Chunk)
    (hsound : Sound cr w₀ digest fed (past ++ .begin wire :: chunks.map .write)
      (w₀.run cr (past ++ .begin wire :: chunks.map .write))) :
    let w := w₀.run cr (past ++ .begin wire :: chunks.map .write)
    (((w₀.run cr past).step cr (.begin wire)).Taken cr (chunks.map .write) →
      (cr.hashFinish w.context).2.isSome = true →
      (w.answer cr .finish = true ↔ (imageOf chunks).length = wire.manifest.imageSize.toNat ∧
        digest (imageOf chunks) = wire.manifest.digest)) ∧
    (¬ ((w₀.run cr past).step cr (.begin wire)).Taken cr (chunks.map .write) → w.answer cr .finish = false) := by
  have hrun : w₀.run cr (past ++ .begin wire :: chunks.map .write) =
      (chunks.map .write).foldl (Verifying.step cr) ((w₀.run cr past).step cr (.begin wire)) := by
    rw [Verifying.run, List.foldl_append, List.foldl_cons]
    rfl
  obtain ⟨hactive, hmanifest, himage⟩ := begin_opens hopen
  intro w
  refine ⟨fun htaken hdone => ?_, fun hrefused => ?_⟩
  · obtain ⟨hlive, hstored, hbytes⟩ := writes_taken chunks hactive htaken
    rw [← hrun] at hlive hstored hbytes
    rw [himage, List.nil_append] at hbytes
    have hlength := (hsound.opened (.inl hlive)).2
    have hfed := hsound.fed hlive
    have hdigest : (cr.hashFinish w.context).2 = some (digest (fed w.context)) := hs.finish_eq hdone
    rw [finish_answer, hdigest, hfed, hbytes, hstored, hmanifest, Option.some.injEq, ← BitVec.toNat_inj, ← hlength,
      hbytes]
    exact and_iff_right hlive
  · have hended := writes_refused chunks hrefused
    rw [← hrun] at hended
    rw [← Bool.not_eq_true, finish_answer, hended]
    exact fun h => Bool.false_ne_true h.1

/-- A begin never leaves an approval. -/
theorem begin_not_verified {past : List VerifierCall} (h : Sound cr w₀ digest fed past (w₀.run cr past))
    (wire : ManifestWire) : ((w₀.run cr past).step cr (.begin wire)).verifier.verified = false := by
  have hbegun := UpdateVerifier.begin_begun cr (w₀.run cr past).context (w₀.run cr past).verifier wire
  simp only [Verifying.step, Verifying.call]
  generalize (w₀.run cr past).verifier.begin cr (w₀.run cr past).context wire = r at hbegun ⊢
  cases hbegun with
  | started => rfl
  | rejected =>
    unfold UpdateVerifier.forget
    split
    · next hactive => exact h.exclusive hactive
    · rfl

end Runs

/-- **Verified means verified, whatever the order of the calls.** An approval is of the manifest that the last accepted
begin stored, which passed the signature check and the policy, and of the bytes accepted since: they are as many
as it says and have its digest. No more bytes are received than it says, and no begin leaves an approval. A begin
that is accepted, chunks that are all accepted and a finish are approved or not whatever the chunks are, where the
digest is given; after a chunk that is refused they are not. -/
theorem verified_sound (cr : UpdateCrypto κ) {digest : List U8 → Bytes 32} {fed : κ → List U8}
    (hs : StreamHash.Streams cr.hasher digest fed) {p : UpdatePlatform} {v : UpdateVerifier}
    (hinit : UpdateVerifier.init p = some v) (k : κ) :
    let w₀ : Verifying κ := ⟨k, v, []⟩
    (∀ past, let w := w₀.run cr past
      (w.verifier.verified = true → p.permits w.verifier.manifest = true ∧
        Run.Since (Stores cr w₀ w.verifier.manifest) (fun earlier c => ¬ Accepted cr w₀ earlier c) past ∧
        w.image.length = w.verifier.manifest.imageSize.toNat ∧ digest w.image = w.verifier.manifest.digest) ∧
      w.verifier.receivedBytes ≤ w.verifier.manifest.imageSize ∧
      ∀ wire, (w.step cr (.begin wire)).verifier.verified = false) ∧
    (∀ past wire chunks, (w₀.run cr past).answer cr (.begin wire) = true →
      let w := w₀.run cr (past ++ .begin wire :: chunks.map .write)
      (((w₀.run cr past).step cr (.begin wire)).Taken cr (chunks.map .write) →
        (cr.hashFinish w.context).2.isSome = true →
        (w.answer cr .finish = true ↔ (imageOf chunks).length = wire.manifest.imageSize.toNat ∧
          digest (imageOf chunks) = wire.manifest.digest)) ∧
      (¬ ((w₀.run cr past).step cr (.begin wire)).Taken cr (chunks.map .write) → w.answer cr .finish = false)) := by
  intro w₀
  have hsound := sound_run hs hinit k
  have hp := (UpdateVerifier.init_fresh hinit).platform
  refine ⟨fun past => ⟨fun hverified => ?_, (hsound past).bounded, begin_not_verified (hsound past)⟩,
    fun past wire chunks hopen => chunks_outcome hs hopen chunks (hsound _)⟩
  obtain ⟨⟨hpermits, hsince⟩, hlength⟩ := (hsound past).opened (.inr hverified)
  obtain ⟨hreceived, hdigest⟩ := (hsound past).matched hverified
  rw [hreceived] at hlength
  have hpermits : v.platform.permits _ = true := hpermits
  rw [hp] at hpermits
  exact ⟨hpermits, hsince, hlength, hdigest⟩

/-! ## An image of one byte -/

/-- A digest for examples: the sum of the bytes, 32 times. -/
def sumDigest (image : List U8) : Bytes 32 := Bytes.filled 32 (image.foldl (· + ·) 0)

/-- Crypto that finds every signature right and keeps the bytes until the end. -/
def sumCrypto : UpdateCrypto (List U8) where
  verifySignature k _ _ _ := (k, true)
  hashBegin := (StreamHash.plain sumDigest).start
  hashUpdate := (StreamHash.plain sumDigest).update
  hashFinish := (StreamHash.plain sumDigest).finish

theorem sumCrypto_streams : StreamHash.Streams sumCrypto.hasher sumDigest id := StreamHash.plain_streams sumDigest

/-- Version 7 for audio hardware 5, one byte long; every other byte is 9. -/
def nineManifest : ManifestWire :=
  ⟨[0x4f, 0x52, 0x55, 0x50, 1, 2, 0, 0, 5, 0, 0, 0, 7, 0, 0, 0, 2, 0, 0, 0, 1, 0, 0, 0] ++ List.replicate 120 9, rfl⟩

/-- Hardware 5 with bootloader 3, which runs version 6. -/
def ninePlatform : UpdatePlatform := ⟨targetAudio, 5, 3, 5, 6, 1024⟩

/-- Its verifier. -/
def nineVerifier : UpdateVerifier := ⟨ninePlatform, .zero, Bytes.zero _, 0, 0, 0, false, false⟩

theorem verified_sound_nine :
    let w₀ : Verifying (List U8) := ⟨[], nineVerifier, []⟩
    let w := w₀.run sumCrypto [.begin nineManifest, .write ⟨[9], by decide⟩]
    w.answer sumCrypto .finish = true ↔ (imageOf [⟨[9], by decide⟩]).length = nineManifest.manifest.imageSize.toNat ∧
      sumDigest (imageOf [⟨[9], by decide⟩]) = nineManifest.manifest.digest :=
  ((verified_sound sumCrypto (StreamHash.plain_streams sumDigest)
    (show UpdateVerifier.init ninePlatform = some nineVerifier by decide) []).2 [] nineManifest [⟨[9], by decide⟩]
    (by decide +kernel)).1 ⟨by decide +kernel, trivial⟩ rfl

/-- The same bytes are accepted in both runs, but a chunk of no bytes ends the second one. -/
theorem empty_chunk_ends_session :
    ¬ ∀ (cr : UpdateCrypto (List U8)) (p : UpdatePlatform) (v : UpdateVerifier) (wire : ManifestWire)
      (chunks chunks' : List Chunk), StreamHash.Streams cr.hasher sumDigest id → StreamHash.Answers cr.hasher →
      UpdateVerifier.init p = some v →
      let w := Verifying.run cr ⟨[], v, []⟩ (.begin wire :: chunks.map .write)
      let w' := Verifying.run cr ⟨[], v, []⟩ (.begin wire :: chunks'.map .write)
      w.image = w'.image → w.answer cr .finish = w'.answer cr .finish := by
  intro h
  have hsame := h sumCrypto ninePlatform nineVerifier nineManifest [⟨[9], by decide⟩] [⟨[9], by decide⟩, ⟨[], by decide⟩]
    (StreamHash.plain_streams sumDigest) (StreamHash.plain_answers sumDigest) (by decide) (by decide +kernel)
  revert hsame
  decide +kernel

end OpenRef.Update
