import OpenRef.Audio.Position
import OpenRef.Lib.Run
/-!
# Does receive playout recover?

One consecutive stream is pushed into one source, in any interleaving with
`next`; then one packet is pushed before every two `next` calls. The due sequence
number moves by one in each such round, and so does the stream, so that nothing
brings the two together again (`round_spec`).

`recovers_iff`: the stream is heard again within five rounds exactly when playout
has not started, the second half of a loaded packet is due, or the packet due in
one of these rounds is among the latest four of the queue and the packets taken by
then. `late_stays_silent`: a stream that has fallen behind is never heard again.
-/

namespace OpenRef.Audio

namespace PlayoutSource

/-! ## One source under one stream -/

theorem next_streaming {s : PlayoutSource} {n : U16} (hs : Streaming s n) : Streaming s.next.1 n := by
  cases hv : s.expectedValid with
  | false =>
    by_cases h0 : s.entries.count = 0
    · exact (next_waiting hv h0 hs).2.2
    · obtain ⟨hn, hh, -, ht⟩ := start_playing hv h0 hs
      rw [hn]
      exact (next_first_half rfl hh ht).2.2
  | true =>
    rcases Fin.exists_fin_two.1 ⟨s.currentHalf, rfl⟩ with hh | hh
    · exact (next_first_half hv hh hs).2.2
    · exact (next_second_half hv hh hs).2.2

/-- The packet due in one of the next `rounds` rounds is among the latest four of the queue and the
packets of the stream taken by then. -/
def DueWithin (s : PlayoutSource) (sequence : U16) (rounds : Nat) : Prop :=
  ∃ m : Nat, m < rounds ∧ (m : Int) ∈ (s.ahead ++
    DueQueue.arrivals (s.fresh sequence) (s.lead sequence) s.ahead (m + 1)).rtake playoutQueueCapacity

/-- The second half of a loaded packet is due. -/
def MidPacket (s : PlayoutSource) : Prop := s.currentHalf = 1 ∧ s.currentLoaded = true

/-- A consecutive queue up to the next packet is due within five rounds exactly when the next packet
is at most three packets ahead, and not behind. -/
theorem dueWithin_consecutive {s : PlayoutSource} {n : U16} {c : Nat}
    (hq : s.ahead = (List.range c).map fun i : Nat => s.lead n - c + i) :
    s.DueWithin n 5 ↔ 0 ≤ s.lead n ∧ s.lead n ≤ 3 := by
  have hh := half_bounds s
  have hoff := offset_eq_lead s n
  have hbelow : ∀ x ∈ s.ahead, x < s.lead n := by
    intro x hx
    rw [hq] at hx
    obtain ⟨i, hi, rfl⟩ := List.mem_map.1 hx
    have := List.mem_range.1 hi
    omega
  cases hf : s.fresh n with
  | false =>
    have hneg : s.offset n < 0 := by simpa [fresh] using hf
    refine ⟨fun ⟨m, _, hm⟩ => ?_, fun h => by omega⟩
    rw [hf, DueQueue.arrivals, if_neg (by simp), List.append_nil] at hm
    have := hbelow _ (List.mem_of_mem_drop hm)
    omega
  | true =>
    have hlist (m : Nat) : s.ahead ++ DueQueue.arrivals true (s.lead n) s.ahead (m + 1) =
        (List.range (c + (m + 1))).map fun i : Nat => s.lead n - c + i := by
      rw [List.range_add, List.map_append, ← hq, DueQueue.arrivals, if_pos rfl, List.filter_eq_self.2]
      · rw [List.map_map]
        refine congrArg _ (List.map_congr_left fun j _ => ?_)
        simp only [Function.comp_apply]
        omega
      · intro y hy
        obtain ⟨j, -, rfl⟩ := List.mem_map.1 hy
        refine decide_eq_true fun x hx => ?_
        have := hbelow x hx
        omega
    have hlatest (m : Nat) : (m : Int) ∈ (s.ahead ++ DueQueue.arrivals true (s.lead n) s.ahead (m + 1)).rtake
        playoutQueueCapacity ↔ s.lead n - c ≤ m ∧ 0 ≤ s.lead n ∧ s.lead n ≤ 3 := by
      rw [hlist, List.rtake, List.length_map, List.length_range, ← List.map_drop, List.mem_map]
      have hdrop (k : Nat) : k ∈ (List.range (c + (m + 1))).drop (c + (m + 1) - 4) ↔
          c + (m + 1) - 4 ≤ k ∧ k < c + (m + 1) := by
        rw [List.range_eq_range', List.drop_range', List.mem_range'_1]
        omega
      constructor
      · rintro ⟨k, hk, he⟩
        have := (hdrop k).1 hk
        omega
      · rintro ⟨h1, h2, h3⟩
        exact ⟨(m - (s.lead n - c)).toNat, (hdrop _).2 (by omega), by omega⟩
    rw [DueWithin, hf]
    simp only [hlatest]
    constructor
    · rintro ⟨m, -, -, h⟩
      exact h
    · intro h
      exact ⟨(s.lead n).toNat, by omega, by omega, h⟩

/-- What a silent round leaves. -/
structure Silent (s t : PlayoutSource) (sequence : U16) : Prop where
  valid : t.expectedValid = true
  notMid : ¬ MidPacket t
  fresh : t.fresh (sequence + 1) = s.fresh sequence
  lead : t.lead (sequence + 1) = s.lead sequence
  ahead : t.ahead = DueQueue.advance
    (DueQueue.arrive playoutQueueCapacity (s.fresh sequence) (s.lead sequence) s.ahead)

theorem silent_ahead {q : List Int} (h : 0 ∉ q) :
    (q.filter (0 < ·)).map (· - 1) = DueQueue.advance q := by
  rw [DueQueue.advance]
  congr 1
  refine List.filter_congr fun x hx => ?_
  have : x ≠ 0 := fun h0 => h (h0 ▸ hx)
  rw [decide_eq_decide]
  omega

theorem fresh_of_offset {s t : PlayoutSource} {n m : U16} (h : t.offset m = s.offset n) :
    t.fresh m = s.fresh n := by
  rw [fresh, fresh, h]

/-- **A round of the steady phase**: one packet, two halves. -/
theorem round_spec {s : PlayoutSource} {f : AudioLinkFrame} (hf : Playable ⟨f.sequence, f.flags, f.payload⟩)
    (hv : s.expectedValid = true) (hs : Streaming s f.sequence) :
    let first := (s.push f).1.next
    let second := first.1.next
    ((first.2.2 = false ∨ second.2.2 = false) ↔ MidPacket s ∨ 0 ∈ DueQueue.arrive playoutQueueCapacity
      (s.fresh f.sequence) (s.lead f.sequence) s.ahead) ∧
    (first.2.2 = true → second.2.2 = true → Silent s second.1 f.sequence) := by
  intro first second
  have hpush := push_streaming hf hs
  have hsame := (push_same s f).1
  have hahead := push_ahead hv (hs.playing hv)
  have hv' : (s.push f).1.expectedValid = true := hsame.valid.trans hv
  have hshift (e : U16) : f.sequence + 1 - (e + 1) = f.sequence - e := by bv_omega
  rcases Fin.exists_fin_two.1 ⟨s.currentHalf, rfl⟩ with hh | hh
  · -- the round is the two halves of the due packet
    obtain ⟨hp1, h1, hs1⟩ := next_first_half hv' (hsame.half.trans hh) hpush
    obtain ⟨hp2, h2, -⟩ := next_second_half h1.valid h1.half hs1
    have hnot : ¬ MidPacket s := fun h => by rw [MidPacket, hh] at h; exact absurd h.1 (by decide)
    have hoff : second.1.offset (f.sequence + 1) = s.offset f.sequence := by
      rw [offset, h2.expected, h1.expected, hsame.expected, hshift, offset]
    refine ⟨?_, fun hq _ => ⟨h2.valid, fun h => ?_, fresh_of_offset hoff, ?_, ?_⟩⟩
    · rw [hp1, hp2, h1.loaded, hahead, or_self]
      simp [hnot]
    · rw [MidPacket, h2.half] at h
      exact absurd h.1 (by decide)
    · rw [lead, lead, hoff, h2.half, hh]
    · rw [h2.ahead, h1.ahead, hahead]
      exact silent_ahead (by rw [hp1, hahead] at hq; simpa using hq)
  · -- the second half of the packet before comes first
    obtain ⟨hp1, h1, hs1⟩ := next_second_half hv' (hsame.half.trans hh) hpush
    obtain ⟨hp2, h2, -⟩ := next_first_half h1.valid h1.half hs1
    have hoff : second.1.offset (f.sequence + 1) = s.offset f.sequence := by
      rw [offset, h2.expected, h1.expected, hsame.expected, hshift, offset]
    refine ⟨?_, fun _ hq => ⟨h2.valid, fun h => ?_, fresh_of_offset hoff, ?_, ?_⟩⟩
    · rw [hp1, hp2, hsame.loaded, h1.ahead, hahead, MidPacket, hh]
      simp
    · have hmid := h.2
      rw [h2.loaded] at hmid
      rw [hp2, hmid] at hq
      cases hq
    · rw [lead, lead, hoff, h2.half, hh]
    · rw [h2.ahead, h1.ahead, hahead]
      exact silent_ahead (by rw [hp2, h1.ahead, hahead] at hq; simpa using hq)

end PlayoutSource

/-! ## Playout fed with one stream -/

/-- The calls on one source. -/
inductive PlayoutOp where
  | push
  | next
deriving DecidableEq, Repr

/-- One consecutive stream of one source, every half of it valid. -/
structure IsStream (sourceId : U8) (frames : Nat → AudioLinkFrame) : Prop where
  kind : ∀ k, (frames k).kind = linkRemoteAudio
  source : ∀ k, (frames k).sourceId = sourceId
  consecutive : ∀ k, (frames k).sequence = (frames 0).sequence + BitVec.ofNat 16 k
  playable : ∀ k, PlayoutSource.Playable ⟨(frames k).sequence, (frames k).flags, (frames k).payload⟩

/-- Playout and the number of packets pushed so far. -/
structure Feed where
  playout : AudioPlayout
  pushed : Nat

namespace Feed

variable {sourceId : U8} {frames : Nat → AudioLinkFrame} {i : Fin 6}

/-- Before the first call. -/
def init : Feed := ⟨AudioPlayout.init, 0⟩

/-- One call and whether it delivers audio: a push of the next packet, or `next`. -/
def step (sourceId : U8) (frames : Nat → AudioLinkFrame) (w : Feed) : PlayoutOp → Feed × Bool
  | .push => (⟨(w.playout.push (frames w.pushed)).1, w.pushed + 1⟩, false)
  | .next => ({ w with playout := (w.playout.next sourceId).1 }, (w.playout.next sourceId).2.any fun r => !r.2)

/-- The state after a run of calls. -/
def run (sourceId : U8) (frames : Nat → AudioLinkFrame) (ops : List PlayoutOp) : Feed :=
  ops.foldl (fun w op => (w.step sourceId frames op).1) init

/-- Some call of a run delivers audio. -/
def delivers (sourceId : U8) (frames : Nat → AudioLinkFrame) : Feed → List PlayoutOp → Bool
  | _, [] => false
  | w, op :: ops => (w.step sourceId frames op).2 || delivers sourceId frames (w.step sourceId frames op).1 ops

/-- The steady phase: one push before every two `next` calls. -/
def steady (rounds : Nat) : List PlayoutOp := (List.replicate rounds [.push, .next, .next]).flatten

/-- The sequence number pushed next. -/
def nextSequence (frames : Nat → AudioLinkFrame) (w : Feed) : U16 := (frames w.pushed).sequence

/-- The source holds the stream up to the next packet. -/
def Fed (frames : Nat → AudioLinkFrame) (i : Fin 6) (w : Feed) : Prop :=
  (w.playout i).Streaming (w.nextSequence frames)

theorem step_push (hi : sourceIndex sourceId = some i) (hst : IsStream sourceId frames) (w : Feed) :
    (w.step sourceId frames .push).1.playout i = ((w.playout i).push (frames w.pushed)).1 ∧
      (w.step sourceId frames .push).1.nextSequence frames = w.nextSequence frames + 1 := by
  refine ⟨?_, ?_⟩
  · rw [step, AudioPlayout.push, if_neg (by simp [hst.kind]), hst.source, hi]
    simp [AudioPlayout.set]
  · change (frames (w.pushed + 1)).sequence = (frames w.pushed).sequence + 1
    rw [hst.consecutive, hst.consecutive w.pushed]
    bv_omega

theorem step_next (hi : sourceIndex sourceId = some i) (frames : Nat → AudioLinkFrame) (w : Feed) :
    (w.step sourceId frames .next).1.playout i = (w.playout i).next.1 ∧
      (w.step sourceId frames .next).1.nextSequence frames = w.nextSequence frames ∧
      (w.step sourceId frames .next).2 = !(w.playout i).next.2.2 := by
  rw [step, AudioPlayout.next, hi]
  refine ⟨by simp [AudioPlayout.set], rfl, rfl⟩

theorem step_fed (hi : sourceIndex sourceId = some i) (hst : IsStream sourceId frames) (w : Feed)
    (op : PlayoutOp) (hw : Fed frames i w) : Fed frames i (w.step sourceId frames op).1 := by
  unfold Fed
  cases op with
  | push =>
    rw [(step_push hi hst w).1, (step_push hi hst w).2]
    exact PlayoutSource.push_streaming (hst.playable _) hw
  | next =>
    rw [(step_next hi frames w).1, (step_next hi frames w).2.1]
    exact PlayoutSource.next_streaming hw

theorem init_fed (frames : Nat → AudioLinkFrame) (i : Fin 6) : Fed frames i init where
  playable := fun e he => by cases he
  current := fun h => by cases h
  waiting := fun _ => ⟨rfl, (frames 0).sequence, rfl, by simp [nextSequence, init, AudioPlayout.init,
    PlayoutSource.zero, RingBuffer.empty]⟩
  playing := fun h => by cases h

/-- Every interleaving of the stream with `next` leaves the source fed. -/
theorem run_fed (hi : sourceIndex sourceId = some i) (hst : IsStream sourceId frames) (ops : List PlayoutOp) :
    Fed frames i (run sourceId frames ops) :=
  Run.inv_run (fun w op => step_fed hi hst w op) (init_fed frames i) ops

/-! ## The steady phase -/

/-- The source after one round. -/
theorem delivers_round (hi : sourceIndex sourceId = some i) (hst : IsStream sourceId frames) (w : Feed)
    (n : Nat) : ∃ w' : Feed,
      w'.playout i = ((w.playout i).push (frames w.pushed)).1.next.1.next.1 ∧
      w'.nextSequence frames = w.nextSequence frames + 1 ∧
      (Fed frames i w → Fed frames i w') ∧
      (delivers sourceId frames w (steady (n + 1)) = true ↔
        (((w.playout i).push (frames w.pushed)).1.next.2.2 = false ∨
          ((w.playout i).push (frames w.pushed)).1.next.1.next.2.2 = false) ∨
        delivers sourceId frames w' (steady n) = true) := by
  obtain ⟨hp, hpn⟩ := step_push hi hst w
  obtain ⟨h1, h1n, h1d⟩ := step_next hi frames (w.step sourceId frames .push).1
  obtain ⟨h2, h2n, h2d⟩ :=
    step_next hi frames ((w.step sourceId frames .push).1.step sourceId frames .next).1
  rw [hp] at h1 h1d
  rw [h1] at h2 h2d
  refine ⟨_, h2, by rw [h2n, h1n, hpn], fun hw => ?_, ?_⟩
  · exact step_fed hi hst _ _ (step_fed hi hst _ _ (step_fed hi hst _ _ hw))
  · have hflat : steady (n + 1) = .push :: .next :: .next :: steady n := rfl
    rw [hflat, delivers, delivers, delivers, h1d, h2d]
    simp [step, or_assoc]

/-- While playing, the rounds are those of `DueQueue`. -/
theorem delivers_playing (hi : sourceIndex sourceId = some i) (hst : IsStream sourceId frames) :
    ∀ (k : Nat) (w : Feed), Fed frames i w → (w.playout i).expectedValid = true →
      (delivers sourceId frames w (steady k) = true ↔
        (0 < k ∧ (w.playout i).MidPacket) ∨
          DueQueue.Hits playoutQueueCapacity ((w.playout i).fresh (w.nextSequence frames))
            ((w.playout i).lead (w.nextSequence frames)) k (w.playout i).ahead)
  | 0, w, _, _ => by simp [steady, delivers, DueQueue.Hits]
  | k + 1, w, hw, hv => by
    obtain ⟨w', hw', hseq, hfed, hd⟩ := delivers_round hi hst w k
    obtain ⟨hplay, hsilent⟩ := PlayoutSource.round_spec (hst.playable w.pushed) hv hw
    rw [hd, hplay, DueQueue.Hits]
    by_cases hnow : (w.playout i).MidPacket ∨ 0 ∈ DueQueue.arrive playoutQueueCapacity
        ((w.playout i).fresh (w.nextSequence frames)) ((w.playout i).lead (w.nextSequence frames))
        (w.playout i).ahead
    · have hnow' := hnow
      unfold nextSequence at hnow
      simp only [hnow, true_or, true_iff]
      rcases hnow' with h | h
      · exact .inl ⟨by omega, h⟩
      · exact .inr (.inl h)
    · have hq := hsilent (by rw [← Bool.not_eq_false]; exact fun h => hnow (hplay.1 (.inl h)))
        (by rw [← Bool.not_eq_false]; exact fun h => hnow (hplay.1 (.inr h)))
      have hih := delivers_playing hi hst k w' (hfed hw) (by rw [hw']; exact hq.valid)
      rw [hih, hw', hseq]
      have hfresh := hq.fresh
      have hlead := hq.lead
      have hahead := hq.ahead
      rw [not_or] at hnow
      unfold nextSequence at hnow ⊢
      rw [hfresh, hlead, hahead]
      simp [hnow.1, hnow.2, hq.notMid]

/-- Before playout has started, the first round of the steady phase delivers. -/
theorem delivers_waiting (hi : sourceIndex sourceId = some i) (hst : IsStream sourceId frames) {w : Feed}
    (hw : Fed frames i w) (hv : (w.playout i).expectedValid = false) (k : Nat) :
    delivers sourceId frames w (steady (k + 1)) = true := by
  obtain ⟨w', -, -, -, hd⟩ := delivers_round hi hst w k
  have hpush := PlayoutSource.push_streaming (hst.playable w.pushed) hw
  have hsame := (PlayoutSource.push_same (w.playout i) (frames w.pushed)).1
  have hcount := (PlayoutSource.push_waiting hv (hw.waiting hv)).2
  obtain ⟨hn, hh, h0, ht⟩ := PlayoutSource.start_playing (hsame.valid.trans hv) hcount hpush
  refine hd.2 (.inl (.inl ?_))
  rw [hn, (PlayoutSource.next_first_half rfl hh ht).1]
  simp [h0]

/-- **When playout recovers**: after every interleaving of the stream with `next`, the first
2 * (capacity + 1) `next` calls of the steady phase deliver audio exactly when playout has not
started, the second half of a loaded packet is due, or the packet due in one of the rounds is among
the latest of the queue and the stream. -/
theorem recovers_iff (hi : sourceIndex sourceId = some i) (hst : IsStream sourceId frames)
    (ops : List PlayoutOp) :
    delivers sourceId frames (run sourceId frames ops) (steady (playoutQueueCapacity + 1)) = true ↔
      ((run sourceId frames ops).playout i).expectedValid = false ∨
      ((run sourceId frames ops).playout i).MidPacket ∨
      ((run sourceId frames ops).playout i).DueWithin ((run sourceId frames ops).nextSequence frames)
        (playoutQueueCapacity + 1) := by
  have hw := run_fed hi hst ops
  generalize run sourceId frames ops = w at hw ⊢
  cases hv : (w.playout i).expectedValid with
  | false => simpa using delivers_waiting hi hst hw hv playoutQueueCapacity
  | true =>
    have hp := hw.playing hv
    have hlead : (w.playout i).fresh (w.nextSequence frames) = true →
        -1 ≤ (w.playout i).lead (w.nextSequence frames) := by
      intro h
      have h0 : 0 ≤ (w.playout i).offset (w.nextSequence frames) := of_decide_eq_true h
      have hh := PlayoutSource.half_bounds (w.playout i)
      rw [PlayoutSource.lead]
      omega
    have hlength : (w.playout i).ahead.length ≤ playoutQueueCapacity := by
      rw [PlayoutSource.ahead, List.length_map, RingBuffer.length_toList]
      exact (w.playout i).entries.count_le
    rw [delivers_playing hi hst _ w hw hv, DueQueue.hits_iff hlead _ hp.sorted hlength]
    simp [PlayoutSource.DueWithin]

/-- A stream of source 1 that starts at sequence number 0. -/
def silence (k : Nat) : AudioLinkFrame :=
  ⟨linkRemoteAudio, 1, linkFlagFrame0Valid ||| linkFlagFrame1Valid, BitVec.ofNat 16 k, 0, 0, Bytes.zero _⟩

theorem silence_isStream : IsStream 1 silence where
  kind := fun _ => rfl
  source := fun _ => rfl
  consecutive := fun k => by simp [silence]
  playable := fun _ => by simp [PlayoutSource.Playable, silence, linkFlagFrame0Valid, linkFlagFrame1Valid]

/-- One packet played, the next one late by one packet's time. -/
theorem recovers_iff_one_late :
    delivers 1 silence (run 1 silence [.push, .next, .next, .next, .next]) (steady 5) = true ↔
      ((run 1 silence [.push, .next, .next, .next, .next]).playout 0).expectedValid = false ∨
      ((run 1 silence [.push, .next, .next, .next, .next]).playout 0).MidPacket ∨
      ((run 1 silence [.push, .next, .next, .next, .next]).playout 0).DueWithin 1 5 :=
  recovers_iff (by decide) silence_isStream [.push, .next, .next, .next, .next]

/-- One late packet and the steady stream is refused as stale, packet by packet. -/
theorem one_late_is_silent :
    IsStream 1 silence ∧
      delivers 1 silence (run 1 silence [.push, .next, .next, .next, .next]) (steady 5) = false :=
  ⟨silence_isStream, by decide +kernel⟩

/-- **A late stream stays late**: with an empty queue and the next packet behind the due one, no
steady phase delivers anything, however long. -/
theorem late_stays_silent (hi : sourceIndex sourceId = some i) (hst : IsStream sourceId frames)
    {w : Feed} (hw : Fed frames i w) (hv : (w.playout i).expectedValid = true)
    (hempty : (w.playout i).entries.count = 0) (hmid : ¬ (w.playout i).MidPacket)
    (hlate : (w.playout i).offset (w.nextSequence frames) < 0) (rounds : Nat) :
    delivers sourceId frames w (steady rounds) = false := by
  have hnil : (w.playout i).ahead = [] := by
    rw [PlayoutSource.ahead, (w.playout i).entries.toList_eq_nil.2 hempty, List.map_nil]
  have hstale : (w.playout i).fresh (w.nextSequence frames) = false :=
    decide_eq_false (by omega)
  rw [← Bool.not_eq_true, delivers_playing hi hst rounds w hw hv, hnil, hstale,
    DueQueue.hits_iff (fun h => by cases h) rounds List.Pairwise.nil (by simp)]
  simp [hmid, DueQueue.arrivals, List.rtake]

end Feed

end OpenRef.Audio
