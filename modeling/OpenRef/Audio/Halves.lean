import OpenRef.Audio.Position
/-!
# Half a packet's time (openref_audio_playout.c)

`next` loads the due packet at the first half of its time and plays its halves one
after the other, each where its validity flag is set. What is behind the due packet is
discarded and counted; nothing else leaves the queue in `next`.
-/

namespace OpenRef.Audio

/-- A codec frame and `use_plc`. -/
abbrev CodecOutput := Bytes codecFrameBytes × Bool

/-- Where nothing can be played. -/
def silence : CodecOutput := (Bytes.zero _, true)

/-- `validity_flag` (:114-116). -/
def halfFlag (half : Fin 2) : U8 := if half = 0 then linkFlagFrame0Valid else linkFlagFrame1Valid

/-- Half of a packet as it is played. -/
def PlayoutPacket.half (c : PlayoutPacket) (half : Fin 2) : CodecOutput :=
  if c.flags &&& halfFlag half ≠ 0 then (PlayoutSource.codecFrame c.payload half, false) else silence

theorem PlayoutPacket.half_heard {c : PlayoutPacket} {half : Fin 2} (h : (c.half half).2 = false) :
    c.flags &&& halfFlag half ≠ 0 ∧ (c.half half).1 = PlayoutSource.codecFrame c.payload half := by
  unfold PlayoutPacket.half at h ⊢
  split at h
  · next hf => exact ⟨hf, by rw [if_pos hf]⟩
  · cases h

namespace PlayoutSource

/-! ## Push -/

/-- The counters of a push. -/
theorem push_counters (s : PlayoutSource) (f : AudioLinkFrame) :
    (s.push f).1.accepted = s.accepted + (if (s.push f).2 then 1 else 0) ∧
      (s.push f).1.overruns =
        s.overruns + (if (s.push f).2 && decide (s.entries.count = playoutQueueCapacity) then 1 else 0) ∧
      (s.push f).1.deliveredFrames = s.deliveredFrames ∧ (s.push f).1.plcFrames = s.plcFrames := by
  unfold push
  split
  · simp
  · split
    · simp
    · split
      · simp
      · by_cases hfull : s.entries.count = playoutQueueCapacity <;> simp [hfull]

/-! ## Load -/

/-- Behind the due packet. -/
def behind (s : PlayoutSource) (e : PlayoutPacket) : Bool := decide (s.offset e.sequence < 0)

/-- What is discarded is counted. -/
theorem discard_counted : ∀ (n : Nat) (s : PlayoutSource),
    (discardStaleFront n s).stale + BitVec.ofNat 32 (discardStaleFront n s).entries.count =
      s.stale + BitVec.ofNat 32 s.entries.count
  | 0, s => rfl
  | n + 1, s => by
    unfold discardStaleFront
    split
    · rfl
    · next h =>
      dsimp only
      split
      · rfl
      · rw [discard_counted n]
        have hpos : 0 < s.entries.count := Nat.pos_of_ne_zero fun h0 => h (by simp [h0])
        rw [← s.entries.count_popFront hpos, BitVec.ofNat_add, BitVec.add_assoc, BitVec.add_comm 1]
        rfl

/-- The load takes the front of what is not behind when it is the due packet. -/
inductive Loads (s t : PlayoutSource) : Prop
  | due (r : RingBuffer PlayoutPacket playoutQueueCapacity) (c : PlayoutPacket) (st : U32)
    (ht : t = { s with entries := r, stale := st, currentLoaded := true, current := c })
    (hl : s.entries.toList.dropWhile s.behind = c :: r.toList) (hc : c.sequence = s.expectedSequence)
    (hst : st + BitVec.ofNat 32 (r.count + 1) = s.stale + BitVec.ofNat 32 s.entries.count)
  | missing (r : RingBuffer PlayoutPacket playoutQueueCapacity) (st : U32)
    (ht : t = { s with entries := r, stale := st, currentLoaded := false })
    (hl : s.entries.toList.dropWhile s.behind = r.toList)
    (hc : ∀ c ∈ r.toList.head?, c.sequence ≠ s.expectedSequence)
    (hst : st + BitVec.ofNat 32 r.count = s.stale + BitVec.ofNat 32 s.entries.count)

theorem load_loads {s : PlayoutSource} (hv : s.expectedValid = true) : Loads s s.load := by
  obtain ⟨r, st, hd, hr⟩ := discard_spec s.entries.count s hv (Nat.le_refl _)
  have hcounted := discard_counted s.entries.count s
  rw [hd] at hcounted
  dsimp only at hcounted
  unfold load
  rw [hd]
  dsimp only
  split
  · next h =>
    rw [Bool.and_eq_true, decide_eq_true_eq, decide_eq_true_eq] at h
    have hpos : 0 < r.count := Nat.pos_of_ne_zero h.1
    exact .due r.popFront r.front st rfl (hr.symm.trans (r.toList_popFront hpos)) h.2
      (by rw [r.count_popFront hpos, hcounted])
  · next h =>
    refine .missing r st rfl hr.symm (fun c hc hs => h ?_) hcounted
    have h0 : r.count ≠ 0 := by
      rw [← r.length_toList]
      intro hlen
      rw [List.length_eq_zero_iff.1 hlen] at hc
      cases hc
    rw [r.toList_popFront (by omega), List.head?_cons, Option.mem_some_iff] at hc
    simp [h0, hc, hs]

/-! ## Half a packet's time -/

/-- What is played at the half that is due. -/
def played (s : PlayoutSource) : CodecOutput := if s.currentLoaded then s.current.half s.currentHalf else silence

theorem played_eq (s : PlayoutSource) :
    s.played = if s.halfValid then (codecFrame s.current.payload s.currentHalf, false) else silence := by
  unfold played halfValid PlayoutPacket.half halfFlag
  cases s.currentLoaded <;> simp

/-- **Half a packet's time** plays what is loaded, counts it, and moves on. -/
theorem playHalf_eq {s t : PlayoutSource} (ht : (if s.currentHalf = 0 then s.load else s) = t) :
    ∃ d p, d + p = t.deliveredFrames + t.plcFrames + 1 ∧
      s.playHalf = ({ t with deliveredFrames := d, plcFrames := p }.advanceHalf, t.played) := by
  unfold playHalf
  rw [ht, played_eq]
  dsimp only
  cases t.halfValid with
  | true => exact ⟨t.deliveredFrames + 1, t.plcFrames, by rw [BitVec.add_assoc, BitVec.add_comm 1, ← BitVec.add_assoc], rfl⟩
  | false => exact ⟨t.deliveredFrames, t.plcFrames + 1, by rw [BitVec.add_assoc], rfl⟩

/-- What the first half of a packet's time leaves. -/
theorem next_first {s : PlayoutSource} (hv : s.expectedValid = true) (hh : s.currentHalf = 0) :
    ∃ t d p, Loads s t ∧ d + p = s.deliveredFrames + s.plcFrames + 1 ∧
      s.next = ({ t with deliveredFrames := d, plcFrames := p, currentHalf := 1 },
        if t.currentLoaded then t.current.half 0 else silence) := by
  have hload := load_loads hv
  obtain ⟨d, p, hdp, hplay⟩ := playHalf_eq (s := s) (t := s.load) (if_pos hh)
  have hsame : s.load.deliveredFrames = s.deliveredFrames ∧ s.load.plcFrames = s.plcFrames ∧
      s.load.currentHalf = 0 := by
    cases hload with
    | due r c st ht => rw [ht]; exact ⟨rfl, rfl, hh⟩
    | missing r st ht => rw [ht]; exact ⟨rfl, rfl, hh⟩
  obtain ⟨h1, h2, h3⟩ := hsame
  refine ⟨s.load, d, p, hload, by rw [hdp, h1, h2], ?_⟩
  have hadvance : PlayoutSource.advanceHalf { s.load with deliveredFrames := d, plcFrames := p } =
      { s.load with deliveredFrames := d, plcFrames := p, currentHalf := 1 } := if_pos h3
  rw [next, if_neg (by simp [hv]), hplay, hadvance, played, h3]

/-- What the second half of a packet's time leaves. -/
theorem next_second {s : PlayoutSource} (hv : s.expectedValid = true) (hh : s.currentHalf = 1) :
    ∃ d p, d + p = s.deliveredFrames + s.plcFrames + 1 ∧
      s.next = ({ s with
        deliveredFrames := d
        plcFrames := p
        currentHalf := 0
        currentLoaded := false
        expectedSequence := s.expectedSequence + 1 }, if s.currentLoaded then s.current.half 1 else silence) := by
  have hne : ¬ s.currentHalf = 0 := by rw [hh]; decide
  obtain ⟨d, p, hdp, hplay⟩ := playHalf_eq (s := s) (t := s) (if_neg hne)
  refine ⟨d, p, hdp, ?_⟩
  have hadvance : PlayoutSource.advanceHalf { s with deliveredFrames := d, plcFrames := p } =
      { s with
        deliveredFrames := d
        plcFrames := p
        currentHalf := 0
        currentLoaded := false
        expectedSequence := s.expectedSequence + 1 } := if_neg hne
  rw [next, if_neg (by simp [hv]), hplay, hadvance, played, hh]

/-- Before the first packet, `next` only counts. -/
theorem next_empty {s : PlayoutSource} (hv : s.expectedValid = false) (h0 : s.entries.count = 0) :
    s.next = ({ s with plcFrames := s.plcFrames + 1 }, silence) := by
  rw [next, if_pos (by simp [hv]), if_pos h0]
  rfl

/-- The first `next` that finds a packet makes it the due one. -/
theorem next_start {s : PlayoutSource} (hv : s.expectedValid = false) (h0 : s.entries.count ≠ 0) :
    s.next = { s with expectedSequence := s.entries.front.sequence, expectedValid := true }.next := by
  rw [next, if_pos (by simp [hv]), if_neg h0, next, if_neg (by simp)]

end PlayoutSource

/-! ## One source of all -/

namespace AudioPlayout

variable {i : Fin 6} (playout : AudioPlayout)

@[simp] theorem set_self (s : PlayoutSource) : playout.set i s i = s := if_pos rfl

theorem set_set (s t : PlayoutSource) : (playout.set i s).set i t = playout.set i t := by
  funext j
  unfold AudioPlayout.set
  split <;> rfl

theorem push_eq {frame : AudioLinkFrame} (hk : frame.kind = linkRemoteAudio) (hi : sourceIndex frame.sourceId = some i) :
    playout.push frame = (playout.set i ((playout i).push frame).1, ((playout i).push frame).2) := by
  unfold AudioPlayout.push
  rw [if_neg (not_not.2 hk), hi]

theorem next_eq {sourceId : U8} (hi : sourceIndex sourceId = some i) :
    playout.next sourceId = (playout.set i (playout i).next.1, some (playout i).next.2) := by
  unfold AudioPlayout.next
  rw [hi]

end AudioPlayout

end OpenRef.Audio
