import OpenRef.Audio.Position
import OpenRef.Lib.Run
import OpenRef.Network.Sequence
/-!
# Freshness in the network layer and in playout

Packets of one source come in from the network layer's receive state to playout. Both
decide by the sequence number whether a packet is fresh, but the network layer knows
when the sender restarted and playout does not. Beside the two runs the positions of
the queued packets and of those that were due: the boot they belong to, and their
place in it. A packet that is loaded gives its own position to the due number.

`agrees_iff`: playout takes what the network layer took, unless it is over already,
exactly as long as such packets are less than half the range ahead of playout.
-/

namespace OpenRef.Audio

open OpenRef.Network

/-- The place of a packet: the sender's boot and the index in that boot. -/
structure BootPosition where
  boot : Nat
  index : Nat
deriving DecidableEq, Repr

/-- A sender that restarts: the first sequence number of each boot, and what it sends. -/
structure BootSender (sourceId : U8) where
  first : Nat → U16
  txUs : BootPosition → U64
  frame : BootPosition → AudioLinkFrame
  remote : ∀ p, (frame p).kind = linkRemoteAudio
  source : ∀ p, (frame p).sourceId = sourceId
  numbered : ∀ p, (frame p).sequence = Serial.position (first p.boot) p.index

/-- The number of a packet before it is cut to 16 bits. -/
def BootSender.number {sourceId : U8} (sender : BootSender sourceId) (p : BootPosition) : Int :=
  (sender.first p.boot).toNat + p.index

/-- The two trackers, with the positions of what is queued and of all that was due, the latest first. -/
structure Relay where
  network : NetworkState
  playout : AudioPlayout
  queued : List BootPosition
  dues : List BootPosition

/-- A packet comes in, or a codec frame is played. -/
inductive RelayOp where
  | packet (p : BootPosition)
  | next
deriving DecidableEq, Repr

namespace Relay

variable {sourceId : U8} (sender : BootSender sourceId) (i : Fin 6)

/-- The position that is due. -/
def due (w : Relay) : Option BootPosition := w.dues.head?

/-- The position that is due after `played`, where `d` was: the one of the packet that is loaded, or still `d`,
and after the second half the next one. -/
def dueAfter (w : Relay) (played : PlayoutSource) (d : BootPosition) : BootPosition :=
  if (w.playout i).currentHalf = 0 then
    if played.currentLoaded then (w.queued.take (w.queued.length - played.entries.count)).getLast?.getD d else d
  else ⟨d.boot, d.index + 1⟩

/-- Packet `p` at the network layer. -/
def received (w : Relay) (p : BootPosition) : NetworkState × NetworkRxResult × U16 :=
  w.network.receiveAudioTimestamped sourceId (sender.frame p).sequence (sender.txUs p)

def step (w : Relay) : RelayOp → Relay
  | .packet p =>
    let w' := { w with network := (w.received sender p).1 }
    if (w.received sender p).2.1.fresh then
      let pushed := w.playout.push (sender.frame p)
      { w' with
        playout := pushed.1
        queued := if pushed.2 then (w.queued ++ [p]).rtake playoutQueueCapacity else w.queued }
    else w'
  | .next =>
    let played := (w.playout.next sourceId).1
    { w with
      playout := played
      queued := w.queued.rtake (played i).entries.count
      dues := ((w.due.or w.queued.head?).map (w.dueAfter i (played i))).toList ++ w.dues }

/-- Playout refuses the packet as stale. -/
def refusedStale (w : Relay) (p : BootPosition) : Prop :=
  (w.playout.push (sender.frame p)).2 = false ∧
    ((w.playout.push (sender.frame p)).1 i).stale ≠ (w.playout i).stale

/-- Playout was due past the packet's position in the packet's own boot. -/
def passed (w : Relay) (p : BootPosition) : Prop :=
  ∃ d ∈ w.dues, d.boot = p.boot ∧ p.index < d.index

/-- What the network layer takes is not stale in playout, unless playout has passed it. -/
def Agrees (w : Relay) : RelayOp → Prop
  | .packet p => (w.received sender p).2.1.fresh = true → w.refusedStale sender i p → w.passed p
  | .next => True

/-- Less than half the range of sequence numbers ahead. -/
def within (p q : BootPosition) : Prop := (sender.number p - sender.number q) % 65536 < 32768

/-- A packet the network layer takes and playout has not passed is ahead of the due packet and, where its
number is not queued already, of the newest queued one. -/
def Ahead (w : Relay) : RelayOp → Prop
  | .packet p =>
    (w.network.rx i).takes (sender.frame p).sequence (sender.txUs p) = true → ¬ w.passed p →
      (∀ d ∈ w.due, within sender p d) ∧
      ((∀ e ∈ w.queued, (sender.number p - sender.number e) % 65536 ≠ 0) →
        ∀ t ∈ w.queued.getLast?, within sender p t)
  | .next => True

instance (p q : BootPosition) : Decidable (within sender p q) := inferInstanceAs (Decidable (_ < _))

instance (w : Relay) (p : BootPosition) : Decidable (w.passed p) :=
  inferInstanceAs (Decidable (∃ d ∈ w.dues, _))

instance (w : Relay) : ∀ op : RelayOp, Decidable (w.Ahead sender i op)
  | .packet _ => inferInstanceAs (Decidable (_ → _ → _ ∧ _))
  | .next => .isTrue trivial

end Relay

/-! ## What `push` and `next` do to the queue and to the due number -/

namespace PlayoutSource

/-- `push` refuses a packet as stale when it is behind the due one, or new and not after the tail. -/
theorem push_stale_iff (s : PlayoutSource) (f : AudioLinkFrame) :
    ((s.push f).2 = false ∧ (s.push f).1.stale ≠ s.stale) ↔
      ¬ (s.expectedValid = true →
          f.sequence = s.expectedSequence ∨ sequenceAfter f.sequence s.expectedSequence = true) ∨
        ((∀ e ∈ s.entries.toList, e.sequence ≠ f.sequence) ∧
          ∃ t, s.entries.toList.getLast? = some t ∧ ¬ sequenceAfter f.sequence t.sequence = true) := by
  have hbehind : (s.expectedValid && f.sequence ≠ s.expectedSequence &&
      !sequenceAfter f.sequence s.expectedSequence) = true ↔ ¬ (s.expectedValid = true →
        f.sequence = s.expectedSequence ∨ sequenceAfter f.sequence s.expectedSequence = true) := by
    simp [and_assoc]
  have hqueued : (s.entries.toList.any fun e => e.sequence = f.sequence) = true ↔
      ¬ ∀ e ∈ s.entries.toList, e.sequence ≠ f.sequence := by
    simp
  have htail : (s.entries.toList.getLast?.any fun t => !sequenceAfter f.sequence t.sequence) = true ↔
      ∃ t, s.entries.toList.getLast? = some t ∧ ¬ sequenceAfter f.sequence t.sequence = true := by
    cases s.entries.toList.getLast? <;> simp
  unfold push
  split
  · next h1 => exact iff_of_true ⟨rfl, counter_ne _⟩ (.inl (hbehind.1 h1))
  · next h1 =>
    rw [hbehind] at h1
    split
    · next h2 =>
      refine iff_of_false (fun h => h.2 rfl) ?_
      rintro (h | ⟨h, -⟩)
      · exact h1 h
      · exact hqueued.1 h2 h
    · next h2 =>
      rw [hqueued, not_not] at h2
      split
      · next h3 => exact iff_of_true ⟨rfl, counter_ne _⟩ (.inr ⟨h2, htail.1 h3⟩)
      · next h3 =>
        refine iff_of_false (fun h => Bool.noConfusion h.1) ?_
        rintro (h | ⟨-, h⟩)
        · exact h1 h
        · exact h3 (htail.2 h)

/-! `next` takes entries off the front of the queue only. -/

theorem discard_entries : ∀ (n : Nat) (s : PlayoutSource),
    (∃ m, (discardStaleFront n s).entries.toList = s.entries.toList.drop m) ∧
      (discardStaleFront n s).expectedSequence = s.expectedSequence ∧
      (discardStaleFront n s).expectedValid = s.expectedValid ∧
      (discardStaleFront n s).currentHalf = s.currentHalf
  | 0, s => ⟨⟨0, rfl⟩, rfl, rfl, rfl⟩
  | n + 1, s => by
    unfold discardStaleFront
    split
    · exact ⟨⟨0, rfl⟩, rfl, rfl, rfl⟩
    · next h =>
      dsimp only
      split
      · exact ⟨⟨0, rfl⟩, rfl, rfl, rfl⟩
      · obtain ⟨⟨m, hm⟩, he, hv, hh⟩ := discard_entries n { s with entries := s.entries.popFront, stale := s.stale + 1 }
        have hpos : 0 < s.entries.count := by
          rw [Nat.pos_iff_ne_zero]
          exact fun h0 => h (by simp [h0])
        refine ⟨⟨m + 1, ?_⟩, he, hv, hh⟩
        rw [hm, s.entries.toList_popFront hpos]
        rfl

/-- A packet that is loaded is the last one taken off, and has the due number. -/
theorem load_entries (s : PlayoutSource) :
    (∃ m, s.load.entries.toList = s.entries.toList.drop m ∧ (s.load.currentLoaded = true →
        (s.entries.toList.take m).getLast?.map (·.sequence) = some s.expectedSequence)) ∧
      s.load.expectedSequence = s.expectedSequence ∧
      s.load.expectedValid = s.expectedValid ∧ s.load.currentHalf = s.currentHalf := by
  obtain ⟨⟨m, hm⟩, he, hv, hh⟩ := discard_entries s.entries.count s
  unfold load
  dsimp only
  split
  · next h =>
    have hpos : 0 < (discardStaleFront s.entries.count s).entries.count := by
      rw [Nat.pos_iff_ne_zero]
      exact fun h0 => by simp [h0] at h
    have hcons := (discardStaleFront s.entries.count s).entries.toList_popFront hpos
    rw [hm] at hcons
    refine ⟨⟨m + 1, ?_, fun _ => ?_⟩, he, hv, hh⟩
    · rw [← List.drop_drop, List.drop_one, hcons]
      rfl
    · have hfront : (discardStaleFront s.entries.count s).entries.front.sequence = s.expectedSequence := by
        rw [← he]
        simpa using (Bool.and_eq_true_iff.1 h).2
      have hget : s.entries.toList[m]? = some (discardStaleFront s.entries.count s).entries.front := by
        rw [← List.head?_drop, hcons, List.head?_cons]
      rw [List.take_add_one, hget, Option.toList_some, List.getLast?_concat, Option.map_some, hfront]
  · exact ⟨⟨m, hm, fun h => Bool.noConfusion h⟩, he, hv, hh⟩

/-- Half a packet's time. -/
theorem playHalf_spec (s : PlayoutSource) :
    (∃ m, s.playHalf.1.entries.toList = s.entries.toList.drop m ∧
        (s.currentHalf = 0 → s.playHalf.1.currentLoaded = true →
          (s.entries.toList.take m).getLast?.map (·.sequence) = some s.expectedSequence)) ∧
      s.playHalf.1.expectedValid = s.expectedValid ∧
      s.playHalf.1.expectedSequence = s.expectedSequence + (if s.currentHalf = 0 then 0 else 1) := by
  have hadvance : ∀ t : PlayoutSource, t.advanceHalf.entries = t.entries ∧ t.advanceHalf.expectedValid = t.expectedValid ∧
      t.advanceHalf.expectedSequence = t.expectedSequence + (if t.currentHalf = 0 then 0 else 1) ∧
      (t.advanceHalf.currentLoaded = true → t.currentLoaded = true) := by
    intro t
    unfold advanceHalf
    split
    · exact ⟨rfl, rfl, (add_zero _).symm, id⟩
    · exact ⟨rfl, rfl, rfl, fun h => Bool.noConfusion h⟩
  have hload : ∀ t : PlayoutSource, (t = if s.currentHalf = 0 then s.load else s) →
      (∃ m, t.entries.toList = s.entries.toList.drop m ∧ (s.currentHalf = 0 → t.currentLoaded = true →
        (s.entries.toList.take m).getLast?.map (·.sequence) = some s.expectedSequence)) ∧
        t.expectedSequence = s.expectedSequence ∧ t.expectedValid = s.expectedValid ∧
        t.currentHalf = s.currentHalf := by
    rintro t rfl
    split
    · obtain ⟨⟨m, hm, hlast⟩, hrest⟩ := load_entries s
      exact ⟨⟨m, hm, fun _ => hlast⟩, hrest⟩
    · next hhalf => exact ⟨⟨0, rfl, fun h => absurd h hhalf⟩, rfl, rfl, rfl⟩
  unfold playHalf
  dsimp only
  generalize ht : (if s.currentHalf = 0 then s.load else s) = t
  obtain ⟨⟨m, hm, hlast⟩, he, hv, hh⟩ := hload t ht.symm
  split
  · obtain ⟨h1, h2, h3, h4⟩ := hadvance { t with deliveredFrames := t.deliveredFrames + 1 }
    dsimp only at h1 h2 h3 h4 ⊢
    refine ⟨⟨m, (congrArg _ h1).trans hm, fun h0 h => hlast h0 (h4 h)⟩, h2.trans hv, ?_⟩
    rw [h3, he, hh]
  · obtain ⟨h1, h2, h3, h4⟩ := hadvance { t with plcFrames := t.plcFrames + 1 }
    dsimp only at h1 h2 h3 h4 ⊢
    refine ⟨⟨m, (congrArg _ h1).trans hm, fun h0 h => hlast h0 (h4 h)⟩, h2.trans hv, ?_⟩
    rw [h3, he, hh]

/-- The number that `next` plays: where nothing was due yet, it is that of the oldest queued packet. -/
def dueNumber (s : PlayoutSource) : U16 :=
  if s.expectedValid then s.expectedSequence else s.entries.front.sequence

theorem next_spec (s : PlayoutSource) :
    (∃ m, s.next.1.entries.toList = s.entries.toList.drop m ∧
        (s.next.1.expectedValid = true → s.currentHalf = 0 → s.next.1.currentLoaded = true →
          (s.entries.toList.take m).getLast?.map (·.sequence) = some s.dueNumber)) ∧
      s.next.1.expectedValid = (s.expectedValid || !decide (s.entries.count = 0)) ∧
      (s.next.1.expectedValid = true →
        s.next.1.expectedSequence = s.dueNumber + (if s.currentHalf = 0 then 0 else 1)) := by
  unfold next dueNumber
  cases hv : s.expectedValid with
  | true =>
    obtain ⟨⟨m, hm, hlast⟩, h1, h2⟩ := s.playHalf_spec
    rw [if_neg (by simp)]
    exact ⟨⟨m, hm, fun _ => hlast⟩, by rw [h1, hv]; rfl, fun _ => h2⟩
  | false =>
    rw [if_pos (by rfl)]
    split
    · next h0 =>
      exact ⟨⟨0, rfl, fun h => Bool.noConfusion h⟩, by simp [h0], fun h => Bool.noConfusion h⟩
    · next h0 =>
      obtain ⟨⟨m, hm, hlast⟩, h1, h2⟩ :=
        { s with expectedSequence := s.entries.front.sequence, expectedValid := true : PlayoutSource }.playHalf_spec
      exact ⟨⟨m, hm, fun _ => hlast⟩, by rw [h1]; simp [h0], fun _ => h2⟩

end PlayoutSource

/-! ## Numbers and positions -/

namespace BootSender

variable {sourceId : U8} (sender : BootSender sourceId)

theorem sub_number (p q : BootPosition) :
    (((sender.frame p).sequence - (sender.frame q).sequence).toNat : Int) =
      (sender.number p - sender.number q) % 65536 := by
  rw [sender.numbered, sender.numbered, number, number, Serial.position, Serial.position]
  have hp := (sender.first p.boot).isLt
  have hq := (sender.first q.boot).isLt
  simp only [BitVec.toNat_sub, BitVec.toNat_add, BitVec.toNat_ofNat]
  omega

theorem sequence_eq_iff (p q : BootPosition) :
    (sender.frame p).sequence = (sender.frame q).sequence ↔ (sender.number p - sender.number q) % 65536 = 0 := by
  rw [← sender.sub_number, ← sub_eq_zero, ← BitVec.toNat_inj]
  exact Int.natCast_eq_zero.symm

theorem sequenceAfter_iff_number (p q : BootPosition) :
    sequenceAfter (sender.frame p).sequence (sender.frame q).sequence = true ↔
      (sender.number p - sender.number q) % 65536 ≠ 0 ∧ Relay.within sender p q := by
  have hsub := sender.sub_number p q
  unfold sequenceAfter Relay.within
  rw [Serial.after_iff_sub, ← hsub]
  omega

end BootSender

namespace Relay

variable {sourceId : U8} {sender : BootSender sourceId} {i : Fin 6}

/-- The positions are those of the queue's packets and of the due one. -/
structure Tracks (sender : BootSender sourceId) (i : Fin 6) (w : Relay) : Prop where
  other : sourceId ≠ w.network.config.nodeId
  valid : (w.playout i).expectedValid = w.due.isSome
  expected : ∀ d, w.due = some d → (w.playout i).expectedSequence = (sender.frame d).sequence
  entries : (w.playout i).entries.toList.map (·.sequence) = w.queued.map fun p => (sender.frame p).sequence

theorem received_fresh (hi : sourceIndex sourceId = some i) {w : Relay} (h : w.Tracks sender i) (p : BootPosition) :
    (w.received sender p).2.1.fresh = (w.network.rx i).takes (sender.frame p).sequence (sender.txUs p) := by
  unfold received
  rw [receiveAudio_own hi h.other]
  exact NetworkRxState.receive_fresh _ _ _

theorem push_source (sender : BootSender sourceId) (hi : sourceIndex sourceId = some i) (playout : AudioPlayout) (p : BootPosition) :
    (playout.push (sender.frame p)).2 = ((playout i).push (sender.frame p)).2 ∧
      (playout.push (sender.frame p)).1 i = ((playout i).push (sender.frame p)).1 := by
  unfold AudioPlayout.push
  rw [if_neg (by simp [sender.remote]), sender.source, hi]
  exact ⟨rfl, if_pos rfl⟩

theorem next_source (hi : sourceIndex sourceId = some i) (p : AudioPlayout) :
    (p.next sourceId).1 i = (p i).next.1 := by
  unfold AudioPlayout.next
  rw [hi]
  exact if_pos rfl

theorem tracks_packet (hi : sourceIndex sourceId = some i) {w : Relay} (h : w.Tracks sender i) (p : BootPosition) :
    (w.step sender i (.packet p)).Tracks sender i := by
  have hconfig : (w.received sender p).1.config = w.network.config := by
    unfold received
    rw [receiveAudio_own hi h.other]
    rfl
  unfold step
  dsimp only
  split
  · obtain ⟨hflag, hsource⟩ := push_source sender hi w.playout p
    rcases PlayoutSource.push_cases (w.playout i) (sender.frame p) with ⟨-, a, o, hp⟩ | ⟨-, d, st, hp⟩
    · refine ⟨by rw [hconfig]; exact h.other, ?_, fun d hd => ?_, ?_⟩ <;> dsimp only <;> rw [hsource, hp]
      · exact h.valid
      · exact h.expected d hd
      · rw [hflag, hp, if_pos rfl, RingBuffer.toList_pushDropping, ← DueQueue.rtake_map, ← DueQueue.rtake_map,
          List.map_append, List.map_append, h.entries]
        rfl
    · refine ⟨by rw [hconfig]; exact h.other, ?_, fun d hd => ?_, ?_⟩ <;> dsimp only <;> rw [hsource, hp]
      · exact h.valid
      · exact h.expected d hd
      · rw [hflag, hp, if_neg (by simp)]
        exact h.entries
  · exact ⟨by rw [hconfig]; exact h.other, h.valid, h.expected, h.entries⟩

theorem rtake_length_drop {α : Type*} (l : List α) (m : Nat) : l.rtake (l.drop m).length = l.drop m := by
  rw [List.rtake, List.length_drop]
  rcases Nat.le_total m l.length with h | h
  · rw [Nat.sub_sub_self h]
  · rw [Nat.sub_eq_zero_of_le h, Nat.sub_zero, List.drop_length, List.drop_eq_nil_of_le h]

theorem step_next_due (w : Relay) : (w.step sender i .next).due =
    (w.due.or w.queued.head?).map (w.dueAfter i ((w.playout.next sourceId).1 i)) := by
  unfold step due
  dsimp only
  cases w.dues with
  | nil => cases w.queued <;> rfl
  | cons d dues => rfl

/-- The number that is played is that of the due position, and at the start that of the oldest queued packet. -/
theorem Tracks.dueNumber {w : Relay} (h : w.Tracks sender i) {d : BootPosition}
    (hd : w.due.or w.queued.head? = some d) : (w.playout i).dueNumber = (sender.frame d).sequence := by
  unfold PlayoutSource.dueNumber
  rw [h.valid]
  cases hdue : w.due with
  | some d' =>
    rw [hdue, Option.some_or, Option.some.injEq] at hd
    exact hd ▸ h.expected d' hdue
  | none =>
    rw [hdue, Option.none_or] at hd
    obtain ⟨rest, hq⟩ := List.head?_eq_some_iff.1 hd
    have hpos : 0 < (w.playout i).entries.count := by
      rw [← RingBuffer.length_toList, ← List.length_map (·.sequence), h.entries, List.length_map, hq]
      exact Nat.succ_pos _
    have hentries := h.entries
    rw [hq, RingBuffer.toList_popFront _ hpos, List.map_cons, List.map_cons] at hentries
    exact (List.cons.inj hentries).1

theorem tracks_next (hi : sourceIndex sourceId = some i) {w : Relay} (h : w.Tracks sender i) :
    (w.step sender i .next).Tracks sender i := by
  obtain ⟨⟨m, hm, hloaded⟩, hvalid, hexpected⟩ := (w.playout i).next_spec
  have hsource := next_source hi w.playout
  have hlen : (w.playout i).entries.count = w.queued.length := by
    rw [← RingBuffer.length_toList, ← List.length_map (·.sequence), h.entries, List.length_map]
  have hcount : (w.playout i).next.1.entries.count = (w.queued.drop m).length := by
    rw [← RingBuffer.length_toList, hm, List.length_drop, List.length_drop, RingBuffer.length_toList, hlen]
  have hstarted : (w.playout i).next.1.expectedValid = (w.due.or w.queued.head?).isSome := by
    rw [hvalid, h.valid, hlen]
    cases w.due <;> cases w.queued <;> rfl
  refine ⟨h.other, ?_, fun d hd => ?_, ?_⟩
  · rw [step_next_due, Option.isSome_map, ← hstarted, ← hsource]
    rfl
  · rw [step_next_due] at hd
    obtain ⟨d₀, hd₀, rfl⟩ := Option.map_eq_some_iff.1 hd
    have hv : (w.playout i).next.1.expectedValid = true := by rw [hstarted, hd₀, Option.isSome_some]
    have hnumber := h.dueNumber hd₀
    show ((w.playout.next sourceId).1 i).expectedSequence = _
    unfold dueAfter
    rw [hsource, hexpected hv, hnumber]
    split
    · next hhalf =>
      rw [add_zero]
      split
      · -- the packet that is loaded has the number that was due
        next hl =>
        have hlast := hloaded hv hhalf hl
        rw [hnumber, ← List.getLast?_map, List.map_take, h.entries, ← List.map_take, List.getLast?_map] at hlast
        obtain ⟨e, he, hseq⟩ := Option.map_eq_some_iff.1 hlast
        have htake : w.queued.take (w.queued.length - (w.queued.drop m).length) = w.queued.take m := by
          rw [List.length_drop, List.take_eq_take_iff]
          omega
        rw [hcount, htake, he, Option.getD_some, hseq]
      · rfl
    · rw [sender.numbered, sender.numbered]
      exact (Serial.position_succ _ _).symm
  · show ((w.playout.next sourceId).1 i).entries.toList.map _ =
      (w.queued.rtake ((w.playout.next sourceId).1 i).entries.count).map _
    rw [hsource, hcount, rtake_length_drop, hm, List.map_drop, List.map_drop, h.entries]

/-- Playout refuses as stale what is not within half the range ahead of the due packet, and what is new and not
within half the range ahead of the newest queued packet. -/
theorem refusedStale_iff (hi : sourceIndex sourceId = some i) {w : Relay} (h : w.Tracks sender i)
    (p : BootPosition) : w.refusedStale sender i p ↔
      ¬ (∀ d, w.due = some d → within sender p d) ∨
        ((∀ e ∈ w.queued, (sender.number p - sender.number e) % 65536 ≠ 0) ∧
          ∃ t, w.queued.getLast? = some t ∧ ¬ within sender p t) := by
  have hdue : ((w.playout i).expectedValid = true →
      (sender.frame p).sequence = (w.playout i).expectedSequence ∨
        sequenceAfter (sender.frame p).sequence (w.playout i).expectedSequence = true) ↔
      ∀ d, w.due = some d → within sender p d := by
    rw [h.valid]
    cases hd : w.due with
    | none => simp
    | some d =>
      rw [h.expected d hd, sender.sequence_eq_iff, sender.sequenceAfter_iff_number]
      simp only [Option.isSome_some, forall_true_left, Option.some.injEq, forall_eq']
      unfold within
      omega
  have hqueued : (∀ e ∈ (w.playout i).entries.toList, e.sequence ≠ (sender.frame p).sequence) ↔
      ∀ e ∈ w.queued, (sender.number p - sender.number e) % 65536 ≠ 0 := by
    calc _ ↔ ∀ n ∈ (w.playout i).entries.toList.map (·.sequence), n ≠ (sender.frame p).sequence := by simp
      _ ↔ ∀ e ∈ w.queued, (sender.frame e).sequence ≠ (sender.frame p).sequence := by rw [h.entries]; simp
      _ ↔ _ := by
        refine forall₂_congr fun e _ => not_congr ?_
        rw [eq_comm, sender.sequence_eq_iff]
  have htail : ((∀ e ∈ w.queued, (sender.number p - sender.number e) % 65536 ≠ 0) ∧
      ∃ t, (w.playout i).entries.toList.getLast? = some t ∧
        ¬ sequenceAfter (sender.frame p).sequence t.sequence = true) ↔
      ((∀ e ∈ w.queued, (sender.number p - sender.number e) % 65536 ≠ 0) ∧
        ∃ t, w.queued.getLast? = some t ∧ ¬ within sender p t) := by
    refine and_congr_right fun hnew => ?_
    have hlast : (w.playout i).entries.toList.getLast?.map (·.sequence) =
        w.queued.getLast?.map fun q => (sender.frame q).sequence := by
      rw [← List.getLast?_map, ← List.getLast?_map, h.entries]
    calc _ ↔ ∃ n, (w.playout i).entries.toList.getLast?.map (·.sequence) = some n ∧
          ¬ sequenceAfter (sender.frame p).sequence n = true := by simp
      _ ↔ ∃ t, w.queued.getLast? = some t ∧
          ¬ sequenceAfter (sender.frame p).sequence (sender.frame t).sequence = true := by rw [hlast]; simp
      _ ↔ _ := by
        refine exists_congr fun t => and_congr_right fun ht => ?_
        rw [sender.sequenceAfter_iff_number]
        exact not_congr (and_iff_right (hnew t (List.mem_of_getLast? ht)))
  obtain ⟨hflag, hsource⟩ := push_source sender hi w.playout p
  unfold refusedStale
  rw [hflag, hsource, PlayoutSource.push_stale_iff, hdue, hqueued, htail]

/-- Within one boot it is the distance of the packets that counts. -/
theorem within_same_boot {p q : BootPosition} (h : p.boot = q.boot) :
    within sender p q ↔ ((p.index : Int) - q.index) % 65536 < 32768 := by
  unfold within BootSender.number
  rw [h, add_sub_add_left_eq_sub]

/-- A small number, as after a restart, is ahead of small numbers and of numbers of the upper half only. -/
theorem within_small {p q : BootPosition} (h : sender.number p ≤ 16) :
    within sender p q ↔ sender.number q % 65536 ≤ sender.number p ∨
      sender.number p + 32768 < sender.number q % 65536 := by
  have hp : 0 ≤ sender.number p := by
    unfold BootSender.number
    omega
  unfold within
  omega

theorem agrees_iff_ahead (hi : sourceIndex sourceId = some i) {w : Relay} (h : w.Tracks sender i) (op : RelayOp) :
    w.Agrees sender i op ↔ w.Ahead sender i op := by
  cases op with
  | next => exact Iff.rfl
  | packet p =>
    unfold Agrees Ahead
    dsimp only
    rw [received_fresh hi h, refusedStale_iff hi h]
    refine imp_congr_right fun _ => ?_
    constructor
    · intro hagree hpassed
      refine ⟨?_, fun hnew t ht => ?_⟩
      · by_contra hd
        exact hpassed (hagree (.inl hd))
      · by_contra hw
        exact hpassed (hagree (.inr ⟨hnew, t, ht, hw⟩))
    · intro hahead hrefused
      by_contra hpassed
      obtain ⟨hd, ht⟩ := hahead hpassed
      rcases hrefused with hno | ⟨hnew, t, hlast, hno⟩
      · exact hno hd
      · exact hno (ht hnew t hlast)

end Relay

/-- **Freshness.** However packets of any boots come in and are played, what the network layer takes is never
refused by playout as stale, unless playout has passed it, exactly as long as what it takes is less than half
the range of sequence numbers ahead of the due packet and of the newest queued one. -/
theorem agrees_iff {sourceId : U8} {i : Fin 6} (hi : sourceIndex sourceId = some i)
    (sender : BootSender sourceId) {s₀ : NetworkState} (hother : sourceId ≠ s₀.config.nodeId) (ops : List RelayOp) :
    Run.Along (Relay.step sender i) (Relay.Agrees sender i) ⟨s₀, AudioPlayout.init, [], []⟩ ops ↔
      Run.Along (Relay.step sender i) (Relay.Ahead sender i) ⟨s₀, AudioPlayout.init, [], []⟩ ops := by
  have hstart : Relay.Tracks sender i ⟨s₀, AudioPlayout.init, [], []⟩ := by
    refine ⟨hother, rfl, fun d hd => ?_, rfl⟩
    cases hd
  refine Run.along_congr (P := Relay.Tracks sender i) (fun w op h => ?_)
    (fun w op h => Relay.agrees_iff_ahead hi h op) hstart
  cases op with
  | packet p => exact Relay.tracks_packet hi h p
  | next => exact Relay.tracks_next hi h

/-- Node 2, whose first boot begins at 0 and every later one at 1, with a packet every 20 ms. -/
def rebootingSender : BootSender 2 where
  first boot := if boot = 0 then 0 else 1
  txUs p := if p.boot = 0 then BitVec.ofNat 64 (900000 + 20000 * p.index) else BitVec.ofNat 64 (10000 + 20000 * p.index)
  frame p := ⟨linkRemoteAudio, 2, linkFlagFrame0Valid ||| linkFlagFrame1Valid,
    Serial.position (if p.boot = 0 then 0 else 1) p.index, 0, 0, Bytes.zero _⟩
  remote _ := rfl
  source _ := rfl
  numbered _ := rfl

/-- The sender restarts early, when packet 1 is due: packet 1 of the new boot is played in its place. Packet 2
comes when playout is past it, packet 4 in time. -/
theorem agrees_through_reboot :
    Run.Along (Relay.step rebootingSender 1) (Relay.Agrees rebootingSender 1) ⟨nodeOne, AudioPlayout.init, [], []⟩
      [.packet ⟨0, 0⟩, .next, .next, .packet ⟨1, 0⟩, .next, .next, .next, .next, .packet ⟨1, 1⟩, .packet ⟨1, 3⟩,
        .next] :=
  (agrees_iff (i := 1) rfl rebootingSender (by decide) _).2 (by decide +kernel)

/-- The sender restarts while its packet 500 is played. The network layer takes the new packet 1 for the first
one of a new boot; playout refuses it, as it waits for packet 500. -/
theorem reboot_refused :
    ¬ Run.Along (Relay.step rebootingSender 1) (Relay.Agrees rebootingSender 1)
      ⟨nodeOne, AudioPlayout.init, [], []⟩ [.packet ⟨0, 500⟩, .packet ⟨0, 501⟩, .next, .packet ⟨1, 0⟩] := by
  rintro ⟨-, -, -, hagree, -⟩
  obtain ⟨d, hd, hboot, -⟩ := hagree (by decide +kernel) (by unfold Relay.refusedStale; decide +kernel)
  cases List.mem_singleton.1 hd
  cases hboot

end OpenRef.Audio
