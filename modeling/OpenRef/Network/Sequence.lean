import OpenRef.Lib.Run
import OpenRef.Lib.Serial
import OpenRef.Network.State
/-!
# Receive sequence tracking

A sender that does not restart numbers its packets one after another and stamps them
with growing times. The receiver compares sequence numbers, and takes a small one
with an older timestamp for the sign of a restart. A late packet of the same boot
whose number is at most 16 looks just like that.

`forward_iff`: as long as no delivered packet is further than half the range from the
highest one, tracking moves forward along a run exactly when no such packet comes.
-/

namespace OpenRef.Network

/-! ## What receiving a packet does -/

/-- FIRST, IN_ORDER and GAP. -/
def NetworkRxResult.fresh : NetworkRxResult → Bool
  | .first | .inOrder | .gap => true
  | .duplicate | .stale | .invalid => false

namespace NetworkRxState

/-- The receive state takes the packet: its first one, one after a restart, or one ahead of the last. -/
def takes (rx : NetworkRxState) (sequence : U16) (txTimestampUs : U64) : Bool :=
  !rx.initialized || rx.restarted sequence txTimestampUs ||
    (0 < (sequence - rx.lastSequence).toNat && (sequence - rx.lastSequence).toNat < 0x8000)

/-- Everything the receive state can do with a packet. -/
inductive Received (rx : NetworkRxState) (sequence : U16) (txTimestampUs : U64) :
    NetworkRxState × NetworkRxResult × U16 → Prop
  | first : rx.initialized = false → Received rx sequence txTimestampUs (rx.restart sequence txTimestampUs, .first, 0)
  | restarted : rx.initialized = true → rx.restarted sequence txTimestampUs = true →
      Received rx sequence txTimestampUs (rx.restart sequence txTimestampUs, .first, 0)
  | duplicate : rx.initialized = true → rx.restarted sequence txTimestampUs = false → sequence = rx.lastSequence →
      Received rx sequence txTimestampUs ({ rx with duplicates := rx.duplicates + 1 }, .duplicate, 0)
  | stale : rx.initialized = true → rx.restarted sequence txTimestampUs = false →
      0x8000 ≤ (sequence - rx.lastSequence).toNat →
      Received rx sequence txTimestampUs ({ rx with stale := rx.stale + 1 }, .stale, 0)
  | ahead (result : NetworkRxResult) : rx.initialized = true → rx.restarted sequence txTimestampUs = false →
      0 < (sequence - rx.lastSequence).toNat → (sequence - rx.lastSequence).toNat < 0x8000 →
      (result = .inOrder ∨ result = .gap) →
      Received rx sequence txTimestampUs ({ rx.advance sequence txTimestampUs with
        gaps := rx.gaps + (sequence - rx.lastSequence - 1).setWidth 32 }, result, sequence - rx.lastSequence - 1)

theorem receive_received (rx : NetworkRxState) (sequence : U16) (txTimestampUs : U64) :
    Received rx sequence txTimestampUs (rx.receive sequence txTimestampUs) := by
  unfold receive
  cases hi : rx.initialized with
  | false => exact .first hi
  | true =>
    rw [if_neg (by simp)]
    cases hr : rx.restarted sequence txTimestampUs with
    | true => exact .restarted hi hr
    | false =>
      rw [if_neg (by simp)]
      unfold receiveInSequence
      dsimp only
      split
      · next hd => exact .duplicate hi hr (sub_eq_zero.1 hd)
      · next hd =>
        have hpos : 0 < (sequence - rx.lastSequence).toNat := by
          rw [Nat.pos_iff_ne_zero]
          exact fun h => hd (BitVec.eq_of_toNat_eq h)
        split
        · next hs => exact .stale hi hr hs
        · next hs =>
          have hlt : (sequence - rx.lastSequence).toNat < 0x8000 := Nat.lt_of_not_le hs
          split
          · next h1 =>
            have hahead := Received.ahead .inOrder hi hr hpos hlt (.inl rfl)
            have hnone : ((1 : U16) - 1).setWidth 32 = (0 : U32) := rfl
            rw [h1, hnone, add_zero] at hahead
            exact hahead
          · exact .ahead .gap hi hr hpos hlt (.inr rfl)

theorem receive_fresh (rx : NetworkRxState) (sequence : U16) (txTimestampUs : U64) :
    (rx.receive sequence txTimestampUs).2.1.fresh = rx.takes sequence txTimestampUs := by
  have hcase := rx.receive_received sequence txTimestampUs
  unfold takes
  generalize rx.receive sequence txTimestampUs = r at hcase ⊢
  cases hcase with
  | first hi => simp [hi, NetworkRxResult.fresh]
  | restarted _ hr => simp [hr, NetworkRxResult.fresh]
  | duplicate hi hr hs =>
    rw [hi, hr, hs, sub_self]
    rfl
  | stale hi hr hs =>
    have hnot : ¬ (sequence - rx.lastSequence).toNat < 0x8000 := by omega
    simp only [hi, hr, hnot, NetworkRxResult.fresh, decide_false, Bool.and_false, Bool.not_true, Bool.or_false]
  | ahead result hi hr hpos hlt hres =>
    have hfresh : result.fresh = true := by rcases hres with rfl | rfl <;> rfl
    simp only [hi, hr, hpos, hlt, hfresh, decide_true, Bool.and_true, Bool.or_true]

end NetworkRxState

/-! ## A sender and its receiver -/

/-- One boot of a sender: packet `k` has the `k`-th sequence number from the first one. -/
structure SenderRun where
  firstSequence : U16
  count : Nat
  txUs : Nat → U64
  nonzero : ∀ k < count, txUs k ≠ 0
  increasing : ∀ j k, j < k → k < count → txUs j < txUs k

def SenderRun.sequence (sender : SenderRun) (k : Nat) : U16 := Serial.position sender.firstSequence k

/-- The receiver with the packets delivered so far and those it classified as fresh, oldest first: the
last fresh one is the packet `last_sequence` holds. -/
structure Reception where
  state : NetworkState
  delivered : List Nat
  fresh : List Nat

/-- Packet `k` reaches the receiver. -/
def Reception.receive (sender : SenderRun) (sourceId : U8) (r : Reception) (k : Nat) : Reception :=
  let received := r.state.receiveAudioTimestamped sourceId (sender.sequence k) (sender.txUs k)
  { state := received.1
    delivered := r.delivered ++ [k]
    fresh := if received.2.1.fresh then r.fresh ++ [k] else r.fresh }

/-- The highest index delivered so far. -/
def highest (delivered : List Nat) : Nat := delivered.foldr max 0

/-- The packet was sent, and is at most `2^15 - 1` from the highest one delivered. -/
def Reception.Near (sender : SenderRun) (r : Reception) (k : Nat) : Prop :=
  k < sender.count ∧
    (r.delivered ≠ [] → k ≤ highest r.delivered + 32767 ∧ highest r.delivered ≤ k + 32767)

instance (sender : SenderRun) (r : Reception) (k : Nat) : Decidable (r.Near sender k) :=
  inferInstanceAs (Decidable (_ ∧ (_ → _)))

/-- The packet does not look like the first one after a restart: it is not late, or its number is not small. -/
def Reception.NoFalseRestart (sender : SenderRun) (r : Reception) (k : Nat) : Prop :=
  k < highest r.delivered → 16 < (sender.sequence k).toNat

instance (sender : SenderRun) (r : Reception) (k : Nat) : Decidable (r.NoFalseRestart sender k) :=
  inferInstanceAs (Decidable (_ → _))

/-- Tracking never ran backwards: no packet was fresh twice, the packet held never moved to a lower index,
and every index from the first one to the highest was received or counted as a gap. -/
structure Reception.Forward (sender : SenderRun) (i : Fin 6) (r : Reception) : Prop where
  once : r.fresh.Nodup
  onward : r.fresh.Pairwise (· ≤ ·)
  held : ∀ k, r.fresh.getLast? = some k → (r.state.rx i).lastSequence = sender.sequence k
  counted : ∀ k, r.delivered.head? = some k →
    (r.state.rx i).received + (r.state.rx i).gaps = BitVec.ofNat 32 (highest r.delivered - k + 1)

theorem highest_append (delivered : List Nat) (k : Nat) : highest (delivered ++ [k]) = max (highest delivered) k := by
  induction delivered with
  | nil => simp [highest]
  | cons j delivered ih =>
    simp only [highest, List.cons_append, List.foldr_cons] at ih ⊢
    rw [ih, max_assoc]

theorem receiveAudio_own {s : NetworkState} {sourceId : U8} {i : Fin 6} (hi : sourceIndex sourceId = some i)
    (hne : sourceId ≠ s.config.nodeId) (sequence : U16) (txTimestampUs : U64) :
    s.receiveAudioTimestamped sourceId sequence txTimestampUs =
      (s.setRx i ((s.rx i).receive sequence txTimestampUs).1, ((s.rx i).receive sequence txTimestampUs).2) := by
  unfold NetworkState.receiveAudioTimestamped
  rw [hi]
  exact if_neg hne

/-! ## The invariant -/

/-- The receive state after the packets delivered so far. -/
structure Tracking (sender : SenderRun) (delivered fresh : List Nat) (rx : NetworkRxState) : Prop where
  initialized : rx.initialized = true
  sequence : rx.lastSequence = sender.sequence (highest delivered)
  stamp : rx.lastTxTimestampUs = sender.txUs (highest delivered)
  sent : highest delivered < sender.count
  last : fresh.getLast? = some (highest delivered)
  bounded : ∀ k ∈ fresh, k ≤ highest delivered
  increasing : fresh.Pairwise (· < ·)
  counted : ∀ k, delivered.head? = some k →
    k ≤ highest delivered ∧ rx.received + rx.gaps = BitVec.ofNat 32 (highest delivered - k + 1)

namespace Tracking

variable {sender : SenderRun} {delivered fresh : List Nat} {rx : NetworkRxState}

theorem first {k : Nat} (hk : k < sender.count) :
    Tracking sender [k] [k] (NetworkRxState.zero.restart (sender.sequence k) (sender.txUs k)) := by
  have hh : highest [k] = k := by simp [highest]
  refine ⟨rfl, by rw [hh]; rfl, by rw [hh]; rfl, by rw [hh]; exact hk, by rw [hh]; rfl, ?_, ?_, ?_⟩
  · simp [hh]
  · simp
  · intro j hj
    cases Option.some.inj hj
    rw [hh]
    exact ⟨le_refl k, by rw [Nat.sub_self]; rfl⟩

/-- The restart rule fires on the late packets with a small number. -/
theorem restarted_iff (h : Tracking sender delivered fresh rx) {k : Nat} (hk : k < sender.count) :
    rx.restarted (sender.sequence k) (sender.txUs k) = true ↔
      k < highest delivered ∧ (sender.sequence k).toNat ≤ 16 := by
  have hlt : sender.txUs k < sender.txUs (highest delivered) ↔ k < highest delivered := by
    constructor
    · intro hts
      by_contra hge
      rcases Nat.lt_or_eq_of_le (Nat.le_of_not_lt hge) with hgt | heq
      · exact BitVec.lt_asymm hts (sender.increasing _ _ hgt hk)
      · rw [heq] at hts
        exact BitVec.lt_irrefl _ hts
    · exact fun hj => sender.increasing _ _ hj h.sent
  have hsmall : sender.sequence k ≤ 16 ↔ (sender.sequence k).toNat ≤ 16 := Iff.rfl
  simp only [NetworkRxState.restarted, h.stamp, Bool.and_eq_true, decide_eq_true_eq, hlt, hsmall, and_assoc,
    and_iff_right_iff_imp]
  exact fun _ => sender.nonzero k hk

/-- How far a packet is from the one held. -/
theorem distance (h : Tracking sender delivered fresh rx) {k : Nat}
    (hnear : k ≤ highest delivered + 32767 ∧ highest delivered ≤ k + 32767) :
    (sender.sequence k - rx.lastSequence).toNat =
      if highest delivered ≤ k then k - highest delivered else 65536 - (highest delivered - k) := by
  rw [h.sequence]
  unfold SenderRun.sequence
  split
  · next hle => exact Serial.position_sub _ hle (by omega)
  · next hlt => exact Serial.position_sub_of_lt _ (Nat.lt_of_not_le hlt) (by omega)

theorem late (h : Tracking sender delivered fresh rx) (hd : delivered ≠ []) {k : Nat}
    (hk : k ≤ highest delivered) : Tracking sender (delivered ++ [k]) fresh rx := by
  have hh : highest (delivered ++ [k]) = highest delivered := by rw [highest_append, max_eq_left hk]
  have hhead : (delivered ++ [k]).head? = delivered.head? := List.head?_append_of_ne_nil _ hd
  obtain ⟨h1, h2, h3, h4, h5, h6, h7, h8⟩ := h
  rw [← hh] at h2 h3 h4 h5 h6 h8
  rw [← hhead] at h8
  exact ⟨h1, h2, h3, h4, h5, h6, h7, h8⟩

/-- The counters after a packet ahead of the one held. -/
theorem counted_ahead {received gaps : U32} {δ : U16} {h f k : Nat} (hf : f ≤ h) (hk : h < k)
    (hδ : δ.toNat = k - h) (hc : received + gaps = BitVec.ofNat 32 (h - f + 1)) :
    received + 1 + (gaps + (δ - 1).setWidth 32) = BitVec.ofNat 32 (k - f + 1) := by
  have hmissing : (δ - 1).setWidth 32 = BitVec.ofNat 32 (k - h - 1) := by
    apply BitVec.eq_of_toNat_eq
    have hone : (1 : U16).toNat = 1 := rfl
    have hlt := δ.isLt
    have hsub : (δ - 1).toNat = δ.toNat - 1 := BitVec.toNat_sub_of_le (by rw [BitVec.le_def]; omega)
    rw [BitVec.toNat_setWidth, BitVec.toNat_ofNat, hsub, hδ]
  have hsum : received + 1 + (gaps + BitVec.ofNat 32 (k - h - 1)) =
      received + gaps + (BitVec.ofNat 32 (k - h - 1) + 1) := by ring
  have hnext : BitVec.ofNat 32 (k - h - 1) + 1 = BitVec.ofNat 32 (k - h) := by
    have hk1 : k - h = k - h - 1 + 1 := by omega
    rw [hk1, BitVec.ofNat_add, Nat.add_sub_cancel]
    rfl
  rw [hmissing, hsum, hnext, hc, ← BitVec.ofNat_add]
  congr 1
  omega

/-- A packet that is no false restart keeps the receive state on track. -/
theorem step (h : Tracking sender delivered fresh rx) (hd : delivered ≠ []) {k : Nat} (hk : k < sender.count)
    (hnear : k ≤ highest delivered + 32767 ∧ highest delivered ≤ k + 32767)
    (hrest : k < highest delivered → 16 < (sender.sequence k).toNat) :
    Tracking sender (delivered ++ [k])
      (if (rx.receive (sender.sequence k) (sender.txUs k)).2.1.fresh then fresh ++ [k] else fresh)
      (rx.receive (sender.sequence k) (sender.txUs k)).1 := by
  have hnot : rx.restarted (sender.sequence k) (sender.txUs k) = false := by
    rw [← Bool.not_eq_true, h.restarted_iff hk]
    rintro ⟨hlt, hle⟩
    exact absurd (hrest hlt) (Nat.not_lt.2 hle)
  have hδ := h.distance hnear
  have hcase := rx.receive_received (sender.sequence k) (sender.txUs k)
  generalize rx.receive (sender.sequence k) (sender.txUs k) = r at hcase ⊢
  cases hcase with
  | first hi =>
    rw [h.initialized] at hi
    cases hi
  | restarted _ hr =>
    rw [hnot] at hr
    cases hr
  | duplicate _ _ hseq =>
    have hzero : (sender.sequence k - rx.lastSequence).toNat = 0 := by rw [hseq, sub_self]; rfl
    have hle : k ≤ highest delivered := by
      by_contra hgt
      rw [hzero, if_pos (by omega)] at hδ
      omega
    have ht := h.late hd hle
    exact ⟨ht.initialized, ht.sequence, ht.stamp, ht.sent, ht.last, ht.bounded, ht.increasing, ht.counted⟩
  | stale _ _ hs =>
    have hle : k ≤ highest delivered := by
      by_contra hgt
      rw [if_pos (by omega)] at hδ
      omega
    have ht := h.late hd hle
    exact ⟨ht.initialized, ht.sequence, ht.stamp, ht.sent, ht.last, ht.bounded, ht.increasing, ht.counted⟩
  | ahead result _ _ hpos hlt hres =>
    have hgt : highest delivered < k := by
      by_contra hle
      split at hδ <;> omega
    rw [if_pos hgt.le] at hδ
    have hfresh : result.fresh = true := by rcases hres with rfl | rfl <;> rfl
    have hh : highest (delivered ++ [k]) = k := by rw [highest_append, max_eq_right hgt.le]
    dsimp only
    rw [if_pos hfresh]
    refine ⟨h.initialized, by rw [hh]; rfl, ?_, by rw [hh]; exact hk, by rw [hh, List.getLast?_concat], ?_, ?_, ?_⟩
    · rw [hh]
      exact if_pos (sender.nonzero k hk)
    · intro j hj
      rw [hh]
      rcases List.mem_append.1 hj with hj | hj
      · exact (h.bounded j hj).trans hgt.le
      · exact (List.mem_singleton.1 hj).le
    · rw [List.pairwise_append]
      refine ⟨h.increasing, List.pairwise_singleton _ _, fun a ha b hb => ?_⟩
      rw [List.mem_singleton.1 hb]
      exact Nat.lt_of_le_of_lt (h.bounded a ha) hgt
    · intro f hf
      rw [List.head?_append_of_ne_nil _ hd] at hf
      obtain ⟨hfh, hc⟩ := h.counted f hf
      rw [hh]
      exact ⟨hfh.trans hgt.le, counted_ahead hfh hgt hδ hc⟩

theorem false_restart (h : Tracking sender delivered fresh rx) {k : Nat} (hk : k < sender.count)
    (hlate : k < highest delivered) (hsmall : (sender.sequence k).toNat ≤ 16) :
    (rx.receive (sender.sequence k) (sender.txUs k)).2.1 = .first := by
  have hr := (h.restarted_iff hk).2 ⟨hlate, hsmall⟩
  unfold NetworkRxState.receive
  rw [h.initialized, hr]
  rfl

theorem forward (h : Tracking sender delivered fresh rx) {r : Reception} {i : Fin 6} (hrx : r.state.rx i = rx)
    (hd : r.delivered = delivered) (hf : r.fresh = fresh) : r.Forward sender i := by
  subst hrx hd hf
  refine ⟨h.increasing.imp Nat.ne_of_lt, h.increasing.imp Nat.le_of_lt, fun k hk => ?_, fun k hk => (h.counted k hk).2⟩
  rw [h.last] at hk
  rw [h.sequence, Option.some.inj hk]

end Tracking

/-! ## A run of deliveries -/

namespace Reception

variable {sender : SenderRun} {sourceId : U8} {i : Fin 6}

/-- Nothing was delivered yet, or the receive state is on track. -/
structure OnTrack (sender : SenderRun) (sourceId : U8) (i : Fin 6) (r : Reception) : Prop where
  other : sourceId ≠ r.state.config.nodeId
  track : (r.delivered = [] ∧ r.fresh = [] ∧ r.state.rx i = .zero) ∨
    (r.delivered ≠ [] ∧ Tracking sender r.delivered r.fresh (r.state.rx i))

theorem receive_rx (hi : sourceIndex sourceId = some i) {r : Reception} (h : r.OnTrack sender sourceId i) (k : Nat) :
    (r.receive sender sourceId k).state.rx i = ((r.state.rx i).receive (sender.sequence k) (sender.txUs k)).1 ∧
      (r.receive sender sourceId k).fresh =
        (if ((r.state.rx i).receive (sender.sequence k) (sender.txUs k)).2.1.fresh then r.fresh ++ [k] else r.fresh) ∧
      (r.receive sender sourceId k).state.config = r.state.config := by
  unfold receive
  rw [receiveAudio_own hi h.other]
  exact ⟨if_pos rfl, rfl, rfl⟩

theorem onTrack_receive (hi : sourceIndex sourceId = some i) {r : Reception} {k : Nat}
    (h : r.OnTrack sender sourceId i) (hnear : r.Near sender k) (hrest : r.NoFalseRestart sender k) :
    (r.receive sender sourceId k).OnTrack sender sourceId i := by
  obtain ⟨hrx, hfresh, hconfig⟩ := receive_rx hi h k
  refine ⟨by rw [hconfig]; exact h.other, .inr ⟨List.concat_ne_nil k r.delivered, ?_⟩⟩
  rw [hrx, hfresh]
  rcases h.track with ⟨hd, hf, hz⟩ | ⟨hd, ht⟩
  · show Tracking sender (r.delivered ++ [k]) _ _
    rw [hd, hf, hz]
    exact Tracking.first hnear.1
  · exact ht.step hd hnear.1 (hnear.2 hd) hrest

theorem OnTrack.forward {r : Reception} (h : r.OnTrack sender sourceId i) : r.Forward sender i := by
  rcases h.track with ⟨hd, hf, -⟩ | ⟨-, ht⟩
  · refine ⟨by rw [hf]; exact List.nodup_nil, by rw [hf]; exact List.Pairwise.nil, fun k hk => ?_, fun k hk => ?_⟩
    · rw [hf] at hk
      cases hk
    · rw [hd] at hk
      cases hk
  · exact ht.forward rfl rfl rfl

/-- A false restart moves the packet held to a lower index. -/
theorem not_forward (hi : sourceIndex sourceId = some i) {r : Reception} {k : Nat}
    (h : r.OnTrack sender sourceId i) (hnear : r.Near sender k) (hrest : ¬ r.NoFalseRestart sender k) :
    ¬ (r.receive sender sourceId k).Forward sender i := by
  intro hf
  unfold NoFalseRestart at hrest
  push Not at hrest
  obtain ⟨hlate, hsmall⟩ := hrest
  rcases h.track with ⟨hd, -, -⟩ | ⟨-, ht⟩
  · rw [hd] at hlate
    exact Nat.not_lt_zero k hlate
  · have honward := hf.onward
    rw [(receive_rx hi h k).2.1, ht.false_restart hnear.1 hlate hsmall] at honward
    have hmem : highest r.delivered ∈ r.fresh := List.mem_of_getLast? ht.last
    have hle := (List.pairwise_append.1 honward).2.2 _ hmem k (List.mem_singleton_self k)
    omega

end Reception

/-- **Sequence tracking.** A receiver that has heard nothing of a source is delivered packets of one boot of
it, in any order and with any duplication, none further than `2^15 - 1` from the highest one so far. Tracking
never runs backwards exactly when no late packet with a sequence number up to 16 comes. -/
theorem forward_iff {s₀ : NetworkState} {sourceId : U8} {i : Fin 6} (hi : sourceIndex sourceId = some i)
    (hother : sourceId ≠ s₀.config.nodeId) (hzero : s₀.rx i = .zero) (sender : SenderRun) (indices : List Nat)
    (hnear : Run.Along (Reception.receive sender sourceId) (Reception.Near sender) ⟨s₀, [], []⟩ indices) :
    (∀ past rest, indices = past ++ rest →
      (past.foldl (Reception.receive sender sourceId) ⟨s₀, [], []⟩).Forward sender i) ↔
      Run.Along (Reception.receive sender sourceId) (Reception.NoFalseRestart sender) ⟨s₀, [], []⟩ indices := by
  have hstart : Reception.OnTrack sender sourceId i ⟨s₀, [], []⟩ := ⟨hother, .inl ⟨rfl, rfl, hzero⟩⟩
  constructor
  · intro hforward
    exact Run.along_of_prefixes (fun _ _ h hn hr => Reception.onTrack_receive hi h hn hr)
      (fun _ _ h hn hr => Reception.not_forward hi h hn hr) hstart hnear hforward
  · rintro hrest past rest rfl
    have hboth := Run.along_and.2 ⟨(Run.along_append.1 hnear).1, (Run.along_append.1 hrest).1⟩
    exact (Run.inv_along (fun _ _ h hc => Reception.onTrack_receive hi h hc.1 hc.2) _ past hstart hboth).forward

/-- A packet every 20 ms, the first one numbered `firstSequence`. -/
def everyFrame (firstSequence : U16) : SenderRun where
  firstSequence := firstSequence
  count := 100
  txUs k := BitVec.ofNat 64 (20000 * (k + 1))
  nonzero := by decide
  increasing j k hjk hk := by
    rw [BitVec.lt_def, BitVec.toNat_ofNat, BitVec.toNat_ofNat, Nat.mod_eq_of_lt (by omega), Nat.mod_eq_of_lt (by omega)]
    omega

theorem nodeOne_start : (NetworkState.init (defaultConfig 1) 0).isSome = true := by decide

/-- Node 1 as it starts. -/
def nodeOne : NetworkState := (NetworkState.init (defaultConfig 1) 0).get nodeOne_start

/-- Packets 3, 25, 24 and 25 again of a sender that began at 65534, across the wrap. -/
theorem forward_across_wrap :
    ([3, 25, 24, 25].foldl (Reception.receive (everyFrame 65534) 2) ⟨nodeOne, [], []⟩).Forward (everyFrame 65534) 1 :=
  (forward_iff (i := 1) rfl (by decide) rfl (everyFrame 65534) [3, 25, 24, 25] (by decide +kernel)).2
    (by decide +kernel) [3, 25, 24, 25] [] rfl

/-- Packet 5 comes after packet 20 of the same boot and is taken for a restart: the receiver holds packet 5
from then on, and one packet is missing from its count. -/
theorem backwards_near_start :
    Run.Along (Reception.receive (everyFrame 0) 2) (Reception.Near (everyFrame 0)) ⟨nodeOne, [], []⟩ [20, 5] ∧
      ([20, 5].foldl (Reception.receive (everyFrame 0) 2) ⟨nodeOne, [], []⟩).fresh = [20, 5] ∧
      ¬ ([20, 5].foldl (Reception.receive (everyFrame 0) 2) ⟨nodeOne, [], []⟩).Forward (everyFrame 0) 1 := by
  refine ⟨by decide +kernel, by decide +kernel, fun h => ?_⟩
  have honward := h.onward
  revert honward
  decide +kernel

end OpenRef.Network
