import OpenRef.Security.OpenAtomic
/-!
# Who wrapped what comes out

Any number of transports share one key. `IdealAead` is what is asked of AES-CCM:
the context remembers the successful `encrypt` calls, and `decrypt` answers from
them. Secured packets are arbitrary bytes; the history `protectedPackets` records
what the transports protected, with the session of each.

`opened_was_protected`: what a transport opens is, byte for byte, a packet that a
transport of its session protected, and a fresh receiver of the session opens every
protected packet.
-/

namespace OpenRef.Security

open Packet

variable {κ : Type}

/-- A successful call of the encrypt callback and its result. -/
structure Sealed where
  nonce : Nonce
  aad : Aad
  plaintext : Plaintext
  ciphertext : Plaintext
  tag : Tag
deriving DecidableEq

/-- **An ideal AEAD** under one key: `log k` lists the successful encryptions, and a decryption succeeds
with `p` exactly when an encryption of `p` under the same nonce and associated data gave the ciphertext
and the tag. -/
structure IdealAead (be : CcmBackend κ) (log : κ → List Sealed) : Prop where
  encrypt_some : ∀ {k nonce aad p k' c}, be.encrypt k nonce aad p = (k', some c) →
    log k' = ⟨nonce, aad, p, c.1, c.2⟩ :: log k
  encrypt_none : ∀ {k nonce aad p k'}, be.encrypt k nonce aad p = (k', none) → log k' = log k
  decrypt_log : ∀ k nonce aad c tag, log (be.decrypt k nonce aad c tag).1 = log k
  decrypt_iff : ∀ {k nonce aad c tag p}, (be.decrypt k nonce aad c tag).2 = some p ↔
    ⟨nonce, aad, p, c, tag⟩ ∈ log k

/-- The header of the secured packet: 96 bytes of envelope follow it. -/
def envelopeHeader (h : Header) : Header := { h with payloadLength := 96 }

/-- The secured packet around a ciphertext and its tag. -/
def sealedPacket (h : Header) (boot counter : U32) (c : Plaintext × Tag) : SecuredPacket :=
  (envelopeHeader h).bytes.append ((envelopePrefix boot counter).append (c.1.append c.2))

/-! ## The two ends of the channel -/

/-- What the header of an accepted packet says. -/
theorem acceptedHeader_iff {h : Header} : acceptedHeader h = true ↔
    validSource h.sourceId = true ∧ h.destinationId = 0 ∧ h.payloadLength = 80 ∧
      (h.kind = kindAudioFrame ∨ h.kind = kindHeartbeat ∨ h.kind = kindControl) := by
  simp only [acceptedHeader, Bool.and_eq_true, Bool.or_eq_true, decide_eq_true_eq, or_assoc, and_assoc]

/-- A packet is the bytes of its header and its payload. -/
theorem packet_of_header {packet : NetworkPacket} {h : Header} (hp : parsePacket packet.bytes = some h) :
    h.bytes.append packet.right = packet := by
  obtain ⟨hd, -, hl⟩ := parsePacket_some hp
  obtain ⟨rfl, -, -⟩ := decode_some hd
  have hleft : (readHeader packet.bytes).bytes = packet.left :=
    Bytes.ext_bytes (bytes_readHeader (by rw [hl]; decide))
  rw [hleft, Bytes.append_left_right]

/-- The payload length is the only field the envelope changes. -/
theorem header_restored {h : Header} (ha : acceptedHeader h = true) :
    { envelopeHeader h with payloadLength := 80 } = h := by
  obtain ⟨-, -, hl, -⟩ := acceptedHeader_iff.1 ha
  rw [envelopeHeader, ← hl]

theorem envelopeHeader_wellFormed {h : Header} (hw : h.wellFormed = true) :
    (envelopeHeader h).wellFormed = true := by
  simp only [Header.wellFormed, Bool.and_eq_true, decide_eq_true_eq] at hw
  simp [Header.wellFormed, envelopeHeader, hw.1.1, hw.1.2, maxPayloadBytes]

/-- A successful `protect`: the packet was well formed, and its payload was encrypted under the header of
the secured packet. -/
theorem protect_some {be : CcmBackend κ} {k : κ} {t : SecureTransport} {plain : NetworkPacket}
    {secured : SecuredPacket} (hs : (t.protect be k plain).2.2 = some secured) :
    ∃ h c, parsePacket plain.bytes = some h ∧
      be.encrypt k (buildNonce t.crewSessionId h.sourceId t.bootCounter t.nextPacketCounter)
        (envelopeHeader h).bytes plain.right = ((t.protect be k plain).1, some c) ∧
      secured = sealedPacket h t.bootCounter t.nextPacketCounter c := by
  unfold SecureTransport.protect at hs ⊢
  split at hs
  · cases hs
  next hready =>
    rw [if_neg hready]
    unfold secureNetworkWrap at hs ⊢
    cases hp : parsePacket plain.bytes with
    | none =>
      rw [hp] at hs
      cases hs
    | some h =>
      simp only [hp] at hs ⊢
      cases he : encodeHeader { h with payloadLength := 96 } with
      | none =>
        rw [he] at hs
        cases hs
      | some aad =>
        simp only [he] at hs ⊢
        have haad : aad = (envelopeHeader h).bytes := by
          unfold encodeHeader at he
          split at he
          · exact (Option.some.inj he).symm
          · cases he
        subst haad
        unfold protectEnvelope at hs ⊢
        by_cases hid : (decide (h.sourceId = 0) || decide (h.sourceId = 255)) = true
        · rw [if_pos hid] at hs
          cases hs
        · rw [if_neg hid] at hs ⊢
          generalize henc : be.encrypt k (buildNonce t.crewSessionId h.sourceId t.bootCounter
            t.nextPacketCounter) (envelopeHeader h).bytes plain.right = r at hs ⊢
          obtain ⟨k', _ | c⟩ := r
          · cases hs
          · exact ⟨h, c, rfl, henc, (Option.some.inj hs).symm⟩

/-- A transport that can still send wraps every well-formed packet the callback encrypts. -/
theorem protect_isSome {be : CcmBackend κ} {k : κ} {t : SecureTransport} {plain : NetworkPacket} {h : Header}
    (hi : t.initialized = true) (hx : t.transmitExhausted = false) (hp : parsePacket plain.bytes = some h)
    (henc : (be.encrypt k (buildNonce t.crewSessionId h.sourceId t.bootCounter t.nextPacketCounter)
      (envelopeHeader h).bytes plain.right).2.isSome = true) :
    (t.protect be k plain).2.2.isSome = true := by
  obtain ⟨hd, ha, -⟩ := parsePacket_some hp
  obtain ⟨-, hw, -⟩ := decode_some hd
  have hencode : encodeHeader { h with payloadLength := 96 } = some (envelopeHeader h).bytes :=
    if_pos (envelopeHeader_wellFormed hw)
  have hready : ¬ (!t.initialized || t.transmitExhausted) = true := by simp [hi, hx]
  have hwrap : (secureNetworkWrap be k t.crewSessionId t.bootCounter t.nextPacketCounter plain).2.isSome = true := by
    simp only [secureNetworkWrap, hp, hencode, protectEnvelope,
      if_neg (not_reserved_of_valid (acceptedHeader_iff.1 ha).1), Option.isSome_map]
    exact henc
  rw [SecureTransport.protect, if_neg hready]
  dsimp only
  split
  · next hnone =>
    rw [hnone] at hwrap
    cases hwrap
  · rfl

/-- A successful `openPacket`: the payload was decrypted under the visible header, and the header went
back into the packet with its length restored. -/
theorem openPacket_some {be : CcmBackend κ} {k : κ} {t : SecureTransport} {secured : SecuredPacket}
    {packet : NetworkPacket} (ho : (t.openPacket be k secured).2.2.2 = some packet) :
    ∃ h boot counter plaintext, securedHeader secured = some h ∧
      (be.decrypt k (buildNonce t.crewSessionId h.sourceId boot counter) secured.left
        secured.right.right.left secured.right.right.right).2 = some plaintext ∧
      packet = ({ h with payloadLength := 80 } : Header).bytes.append plaintext := by
  unfold SecureTransport.openPacket secureNetworkOpen at ho
  split at ho
  · cases ho
  cases hs : securedHeader secured with
  | none =>
    rw [hs] at ho
    cases ho
  | some h =>
    obtain ⟨-, -, -, hv, -⟩ := securedHeader_some hs
    obtain ⟨i, hi⟩ := sourceIndex_of_valid hv
    simp only [hs, hi, openEnvelope_cases be k t.crewSessionId hv, encode_rewritten hs] at ho
    cases hd : (be.decrypt k (buildNonce t.crewSessionId h.sourceId
        (LittleEndian.read 32 (secured.right.left.bytes.take 4))
        (LittleEndian.read 32 (secured.right.left.bytes.drop 4))) secured.left
        secured.right.right.left secured.right.right.right).2 with
    | none =>
      rw [hd] at ho
      cases ho
    | some plaintext =>
      refine ⟨h, _, _, plaintext, rfl, hd, ?_⟩
      rw [hd] at ho
      dsimp only at ho
      split at ho
      · cases ho
      next hplain =>
        rw [← Option.some.inj ho]
        obtain ⟨p, hp, hbytes⟩ := Option.bind_eq_some_iff.1 hplain
        rw [Option.ite_none_right_eq_some] at hp
        obtain ⟨-, hp⟩ := hp
        cases hp
        exact (Option.some.inj hbytes).symm

/-- The header of a sealed packet passes every check on it. -/
theorem securedHeader_sealed {h : Header} (hw : h.wellFormed = true) (ha : acceptedHeader h = true)
    (boot counter : U32) (c : Plaintext × Tag) :
    securedHeader (sealedPacket h boot counter c) = some (envelopeHeader h) := by
  obtain ⟨hv, hdest, -, hkind⟩ := acceptedHeader_iff.1 ha
  have hlen : ((envelopePrefix boot counter).append (c.1.append c.2)).bytes.length = 96 :=
    ((envelopePrefix boot counter).append (c.1.append c.2)).length_eq
  have hd : decodeHeader (sealedPacket h boot counter c).bytes = some (envelopeHeader h) := by
    refine decode_encode (envelopeHeader_wellFormed hw) ?_
    rw [hlen]
    exact Nat.le_refl 96
  rw [securedHeader, hd, Option.filter_some, if_pos]
  simpa [envelopeHeader, hv, hdest, or_assoc] using hkind

/-- What a fresh receiver makes of a sealed packet whose ciphertext authenticates. -/
theorem openPacket_sealed {be : CcmBackend κ} {k : κ} {session b n : U32} {r : SecureTransport}
    (hr : SecureTransport.init session b n = some r) {packet : NetworkPacket} {h : Header}
    (hp : parsePacket packet.bytes = some h) {boot counter : U32} {c : Plaintext × Tag}
    (hd : (be.decrypt k (buildNonce session h.sourceId boot counter) (envelopeHeader h).bytes c.1 c.2).2 =
      some packet.right) :
    (r.openPacket be k (sealedPacket h boot counter c)).2.2.2 = some packet := by
  obtain ⟨hdec, ha, -⟩ := parsePacket_some hp
  obtain ⟨-, hw, -⟩ := decode_some hdec
  have hv : validSource (envelopeHeader h).sourceId = true := (acceptedHeader_iff.1 ha).1
  obtain ⟨i, hi⟩ := sourceIndex_of_valid hv
  have hs := securedHeader_sealed hw ha boot counter c
  have hboot : LittleEndian.read 32 ((sealedPacket h boot counter c).right.left.bytes.take 4) = boot := by
    rw [sealedPacket, Bytes.right_append, Bytes.left_append, envelopePrefix,
      List.take_left' (LittleEndian.length_write 4 boot)]
    exact LittleEndian.read_write 4 boot
  have hcounter : LittleEndian.read 32 ((sealedPacket h boot counter c).right.left.bytes.drop 4) = counter := by
    rw [sealedPacket, Bytes.right_append, Bytes.left_append, envelopePrefix,
      List.drop_left' (LittleEndian.length_write 4 boot)]
    exact LittleEndian.read_write 4 counter
  have hfirst : acceptAuthenticated ReplayState.zero boot counter = (⟨boot, counter, 1, true⟩, .acceptFirst) := rfl
  have hd' : (be.decrypt k (buildNonce session (envelopeHeader h).sourceId boot counter)
      (sealedPacket h boot counter c).left (sealedPacket h boot counter c).right.right.left
      (sealedPacket h boot counter c).right.right.right).2 = some packet.right := by
    rw [sealedPacket, Bytes.left_append, Bytes.right_append, Bytes.right_append, Bytes.left_append,
      Bytes.right_append]
    exact hd
  have hencode : encodeHeader h = some h.bytes := if_pos hw
  rw [← SecureTransport.init_some hr]
  unfold SecureTransport.openPacket secureNetworkOpen
  simp only [hs, hi, openEnvelope_cases be k session hv, hboot, hcounter, hd', header_restored ha, hencode,
    SecureTransport.zero, hfirst, ReplayResult.accepted, Bool.not_true, Bool.false_eq_true,
    if_false, if_true, Option.bind_some, Option.map_some, packet_of_header hp]

/-- The callback a call of `openPacket` makes. -/
theorem openPacket_context (be : CcmBackend κ) (k : κ) (t : SecureTransport) (secured : SecuredPacket) :
    (t.openPacket be k secured).1 = k ∨
      ∃ nonce aad c tag, (t.openPacket be k secured).1 = (be.decrypt k nonce aad c tag).1 := by
  have hnetwork : (t.openPacket be k secured).1 = k ∨ (t.openPacket be k secured).1 =
      (secureNetworkOpen be k t.crewSessionId t.replayBySource secured .acceptFirst).1 := by
    unfold SecureTransport.openPacket
    split
    · exact .inl rfl
    · right
      dsimp only
      split <;> rfl
  rcases hnetwork with h | h
  · exact .inl h
  rw [h]
  unfold secureNetworkOpen
  cases hs : securedHeader secured with
  | none => exact .inl rfl
  | some header =>
    obtain ⟨-, -, -, hv, -⟩ := securedHeader_some hs
    obtain ⟨i, hi⟩ := sourceIndex_of_valid hv
    right
    simp only [hi, openEnvelope_cases be k t.crewSessionId hv]
    exact ⟨_, _, _, _, by split <;> rfl⟩

/-! ## Transports under one key -/

/-- A packet that a transport protected, and the session it protected it for. -/
structure Protected where
  session : U32
  packet : NetworkPacket

/-- Transports that share a key. -/
structure KeyGroup (ι κ : Type) where
  context : κ
  transports : ι → SecureTransport
  /-- History: what was protected, latest first. -/
  protectedPackets : List Protected

/-- A call on one of the transports; a secured packet to open is any bytes. -/
inductive GroupCall (ι : Type)
  | init (i : ι) (session boot initialPacketCounter : U32)
  | protect (i : ι) (plain : NetworkPacket)
  | openPacket (i : ι) (secured : SecuredPacket)

namespace KeyGroup

variable {ι : Type} [DecidableEq ι]

/-- Nothing initialised, nothing protected. -/
def fresh (k : κ) : KeyGroup ι κ := ⟨k, fun _ => SecureTransport.zero, []⟩

/-- Transport `i` after its call. -/
def set (g : KeyGroup ι κ) (k : κ) (i : ι) (t : SecureTransport) (ps : List Protected) : KeyGroup ι κ :=
  ⟨k, Function.update g.transports i t, ps⟩

/-- One call. -/
def step (be : CcmBackend κ) (g : KeyGroup ι κ) : GroupCall ι → KeyGroup ι κ
  | .init i session boot counter =>
    g.set g.context i ((SecureTransport.init session boot counter).getD (g.transports i)) g.protectedPackets
  | .protect i plain =>
    let r := (g.transports i).protect be g.context plain
    g.set r.1 i r.2.1 (match r.2.2 with
      | none => g.protectedPackets
      | some _ => ⟨(g.transports i).crewSessionId, plain⟩ :: g.protectedPackets)
  | .openPacket i secured =>
    let r := (g.transports i).openPacket be g.context secured
    g.set r.1 i r.2.1 g.protectedPackets

/-- Every encryption was of a packet in the history, under its header and its session. -/
def Traced (log : κ → List Sealed) (g : KeyGroup ι κ) : Prop :=
  ∀ e ∈ log g.context, ∃ p ∈ g.protectedPackets, ∃ h boot counter,
    parsePacket p.packet.bytes = some h ∧ e.nonce = buildNonce p.session h.sourceId boot counter ∧
      e.aad = (envelopeHeader h).bytes ∧ e.plaintext = p.packet.right

section Ideal

variable {be : CcmBackend κ} {log : κ → List Sealed} (ideal : IdealAead be log)
include ideal

theorem log_openPacket (k : κ) (t : SecureTransport) (secured : SecuredPacket) :
    log (t.openPacket be k secured).1 = log k := by
  rcases openPacket_context be k t secured with h | ⟨nonce, aad, c, tag, h⟩
  · rw [h]
  · rw [h, ideal.decrypt_log]

theorem log_protect_none {k : κ} {t : SecureTransport} {plain : NetworkPacket}
    (hs : (t.protect be k plain).2.2 = none) : log (t.protect be k plain).1 = log k := by
  obtain ⟨-, ⟨-, -, -, h | ⟨nonce, aad, text, h⟩⟩ | ⟨_, _, _, _, _, h, -⟩⟩ :=
    SecureTransport.protect_cases be k t plain
  · rw [h]
  · exact ideal.encrypt_none h
  · rw [hs] at h
    cases h

/-- The entry a successful `protect` adds. -/
theorem log_protect_some {k : κ} {t : SecureTransport} {plain : NetworkPacket} {secured : SecuredPacket}
    (hs : (t.protect be k plain).2.2 = some secured) :
    ∃ h c, parsePacket plain.bytes = some h ∧
      secured = sealedPacket h t.bootCounter t.nextPacketCounter c ∧
      log (t.protect be k plain).1 =
        ⟨buildNonce t.crewSessionId h.sourceId t.bootCounter t.nextPacketCounter, (envelopeHeader h).bytes,
          plain.right, c.1, c.2⟩ :: log k := by
  obtain ⟨h, c, hp, henc, hsec⟩ := protect_some hs
  exact ⟨h, c, hp, hsec, ideal.encrypt_some henc⟩

/-- One call keeps every entry of the log. -/
theorem log_step (g : KeyGroup ι κ) (call : GroupCall ι) {e : Sealed} (he : e ∈ log g.context) :
    e ∈ log (g.step be call).context := by
  cases call with
  | init i session boot counter => exact he
  | openPacket i secured =>
    have hlog := log_openPacket ideal g.context (g.transports i) secured
    exact hlog ▸ he
  | protect i plain =>
    cases hs : ((g.transports i).protect be g.context plain).2.2 with
    | none =>
      have hlog := log_protect_none ideal hs
      exact hlog ▸ he
    | some secured =>
      obtain ⟨h, c, -, -, hlog⟩ := log_protect_some ideal hs
      have hcons := List.mem_cons_of_mem
        ⟨buildNonce (g.transports i).crewSessionId h.sourceId (g.transports i).bootCounter
          (g.transports i).nextPacketCounter, (envelopeHeader h).bytes, plain.right, c.1, c.2⟩ he
      exact hlog ▸ hcons

theorem traced_step (g : KeyGroup ι κ) (call : GroupCall ι) (hg : g.Traced log) :
    (g.step be call).Traced log := by
  cases call with
  | init i session boot counter => exact hg
  | openPacket i secured =>
    intro e he
    have hlog := log_openPacket ideal g.context (g.transports i) secured
    exact hg e (hlog ▸ he)
  | protect i plain =>
    intro e he
    cases hs : ((g.transports i).protect be g.context plain).2.2 with
    | none =>
      have hlog := log_protect_none ideal hs
      simp only [step, set, hs]
      exact hg e (hlog ▸ he)
    | some secured =>
      obtain ⟨h, c, hp, -, hlog⟩ := log_protect_some ideal hs
      have he : e ∈ log ((g.transports i).protect be g.context plain).1 := he
      simp only [step, set, hs]
      rw [hlog, List.mem_cons] at he
      rcases he with rfl | he
      · exact ⟨_, List.mem_cons_self, h, _, _, hp, rfl, rfl, rfl⟩
      · obtain ⟨p, hmem, rest⟩ := hg e he
        exact ⟨p, List.mem_cons_of_mem _ hmem, rest⟩

omit [DecidableEq ι] in
/-- What a transport opens while every encryption is traced. -/
theorem opened_traced {g : KeyGroup ι κ} (hg : g.Traced log) {t : SecureTransport} {secured : SecuredPacket}
    {packet : NetworkPacket} (ho : (t.openPacket be g.context secured).2.2.2 = some packet) :
    ∃ p ∈ g.protectedPackets, p.session = t.crewSessionId ∧ p.packet = packet := by
  obtain ⟨h, boot, counter, plaintext, hs, hd, rfl⟩ := openPacket_some ho
  obtain ⟨p, hmem, h', boot', counter', hp, hnonce, haad, htext⟩ := hg _ (ideal.decrypt_iff.1 hd)
  obtain ⟨hsession, -⟩ := buildNonce_inj.1 hnonce
  obtain ⟨-, ha, -⟩ := parsePacket_some hp
  -- the visible header is the one the packet was wrapped under
  have hheader : h = envelopeHeader h' := by
    obtain ⟨hread, -⟩ := securedHeader_some hs
    have hbytes : secured.bytes = (envelopeHeader h').bytes.bytes ++ secured.right.bytes := by
      rw [← haad]
      exact (List.take_append_drop headerBytes secured.bytes).symm
    rw [hread, hbytes, readHeader_bytes]
  refine ⟨p, hmem, hsession.symm, ?_⟩
  have htext : plaintext = p.packet.right := htext
  rw [hheader, header_restored ha, htext, packet_of_header hp]

/-- **Main result.** In every run of transports under one key, whatever bytes are presented: a packet that
is opened is one that a transport of the same session protected before; what `protect` returns is opened
by every fresh receiver of the session, whatever was called in between; and `protect` returns something for
every well-formed packet that the callback encrypts, while the transport can send. -/
theorem opened_was_protected {k : κ} (hk : log k = []) (calls : List (GroupCall ι)) :
    (∀ i secured packet,
      let g := calls.foldl (step be) (fresh k)
      ((g.transports i).openPacket be g.context secured).2.2.2 = some packet →
        ∃ p ∈ g.protectedPackets, p.session = (g.transports i).crewSessionId ∧ p.packet = packet) ∧
    (∀ i plain secured (later : List (GroupCall ι)) b n r,
      let g := calls.foldl (step be) (fresh k)
      ((g.transports i).protect be g.context plain).2.2 = some secured →
        SecureTransport.init (g.transports i).crewSessionId b n = some r →
          (r.openPacket be (later.foldl (step be) (g.step be (.protect i plain))).context secured).2.2.2 =
            some plain) ∧
    ∀ i plain h,
      let g := calls.foldl (step be) (fresh k)
      let t := g.transports i
      parsePacket plain.bytes = some h → t.initialized = true → t.transmitExhausted = false →
        (be.encrypt g.context (buildNonce t.crewSessionId h.sourceId t.bootCounter t.nextPacketCounter)
          (envelopeHeader h).bytes plain.right).2.isSome = true →
        (t.protect be g.context plain).2.2.isSome = true := by
  have hfresh : (fresh k : KeyGroup ι κ).Traced log := by
    intro e he
    have hnil : e ∈ log k := he
    rw [hk] at hnil
    cases hnil
  have hg : (calls.foldl (step be) (fresh k : KeyGroup ι κ)).Traced log :=
    Run.inv_run (traced_step ideal) hfresh calls
  refine ⟨fun i secured packet ho => opened_traced ideal hg ho, ?_,
    fun i plain h hp hi hx henc => protect_isSome hi hx hp henc⟩
  intro i plain secured later b n r g hs hr
  obtain ⟨h, c, hp, rfl, hlog⟩ := log_protect_some ideal hs
  have hmem : ⟨buildNonce (g.transports i).crewSessionId h.sourceId (g.transports i).bootCounter
      (g.transports i).nextPacketCounter, (envelopeHeader h).bytes, plain.right, c.1, c.2⟩ ∈
      log (g.step be (.protect i plain)).context := by
    have hcontext : (g.step be (.protect i plain)).context = ((g.transports i).protect be g.context plain).1 := rfl
    rw [hcontext, hlog]
    exact List.mem_cons_self
  have hlater := Run.inv_run (fun g call => log_step ideal g call) hmem later
  exact openPacket_sealed hr hp (ideal.decrypt_iff.2 hlater)

end Ideal

end KeyGroup

/-! ## An ideal AEAD -/

/-- A backend that remembers what it encrypted: the ciphertext is the plaintext, and only a remembered
triple decrypts. -/
def recordingCcm : CcmBackend (List (Nonce × Aad × Plaintext)) where
  encrypt k nonce aad p := ((nonce, aad, p) :: k, some (p, Bytes.zero 8))
  decrypt k nonce aad c tag := (k, if tag = Bytes.zero 8 ∧ (nonce, aad, c) ∈ k then some c else none)

/-- What `recordingCcm` remembers, as a log. -/
def recorded (k : List (Nonce × Aad × Plaintext)) : List Sealed :=
  k.map fun e => ⟨e.1, e.2.1, e.2.2, e.2.2, Bytes.zero 8⟩

theorem recordingCcm_ideal : IdealAead recordingCcm recorded where
  encrypt_some h := by
    cases h
    rfl
  encrypt_none h := by cases h
  decrypt_log _ _ _ _ _ := rfl
  decrypt_iff {k nonce aad c tag p} := by
    simp only [recordingCcm, recorded, Option.ite_none_right_eq_some, Option.some.injEq, List.mem_map,
      Sealed.mk.injEq, Prod.exists]
    constructor
    · rintro ⟨⟨rfl, hmem⟩, rfl⟩
      exact ⟨nonce, aad, c, hmem, rfl, rfl, rfl, rfl, rfl⟩
    · rintro ⟨nonce', aad', p', hmem, rfl, rfl, rfl, rfl, rfl⟩
      exact ⟨⟨rfl, hmem⟩, rfl⟩

/-- A heartbeat of member 3. -/
def sampleHeartbeat : NetworkPacket :=
  (networkHeader kindHeartbeat 3 1 1000).bytes.append (Heartbeat.payload ⟨2, 5000⟩)

/-- The heartbeat as secured packet 1 of boot 1. -/
def sampleSecured : SecuredPacket :=
  sealedPacket (networkHeader kindHeartbeat 3 1 1000) 1 1 (Heartbeat.payload ⟨2, 5000⟩, Bytes.zero 8)

/-- The group after one transport of session 7 has been set up. -/
def sampleGroup : KeyGroup (Fin 2) (List (Nonce × Aad × Plaintext)) :=
  [GroupCall.init 0 7 1 1].foldl (KeyGroup.step recordingCcm) (KeyGroup.fresh [])

/-- Another member of the session, just set up. -/
def sampleReceiver : SecureTransport :=
  { SecureTransport.zero with crewSessionId := 7, bootCounter := 9, nextPacketCounter := 1, initialized := true }

theorem heartbeat_comes_out :
    (sampleReceiver.openPacket recordingCcm
      (sampleGroup.step recordingCcm (.protect 0 sampleHeartbeat)).context sampleSecured).2.2.2 =
        some sampleHeartbeat :=
  (KeyGroup.opened_was_protected recordingCcm_ideal (k := []) rfl [GroupCall.init 0 7 1 1]).2.1
    0 sampleHeartbeat sampleSecured [] 9 1 sampleReceiver rfl rfl

end OpenRef.Security
