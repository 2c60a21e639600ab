import OpenRef.Audio.Playout
import OpenRef.Lib.DueQueue
/-!
# Playout seen from the due position

Seen from the next packet to load, the queue of a source is a list of signed
offsets (`ahead`). `push` is an arrival of `DueQueue` at the offset of its packet
(`push_ahead`), the first half of a packet's time is played exactly when offset 0
is queued (`next_first_half`), the second half when the packet was loaded
(`next_second_half`). `Streaming` is what all interleavings of one consecutive
stream with `next` keep.
-/

namespace OpenRef.Audio

/-! ## Sequence numbers as offsets -/

theorem toInt_sub_of_offsets {a b e : U16} (h₁ : -32768 ≤ (a - e).toInt - (b - e).toInt)
    (h₂ : (a - e).toInt - (b - e).toInt < 32768) : (a - b).toInt = (a - e).toInt - (b - e).toInt := by
  have hab : a - b = (a - e) - (b - e) := by bv_omega
  rw [hab, BitVec.toInt_sub]
  exact Int.bmod_eq_of_le (by omega) (by omega)

theorem toInt_sub_succ {x e : U16} (h : -32768 < (x - e).toInt) :
    (x - (e + 1)).toInt = (x - e).toInt - 1 := by
  have hx : x - (e + 1) = (x - e) - 1 := by bv_omega
  have hlt := BitVec.toInt_lt (x := x - e)
  have h1 : (1 : U16).toInt = 1 := by decide
  rw [hx, BitVec.toInt_sub, h1]
  exact Int.bmod_eq_of_le (by omega) (by omega)

theorem toInt_succ_sub {x e : U16} (h : (x - e).toInt < 32767) :
    (x + 1 - e).toInt = (x - e).toInt + 1 := by
  have hx : x + 1 - e = (x - e) + 1 := by bv_omega
  have hle := BitVec.le_toInt (x := x - e)
  have h1 : (1 : U16).toInt = 1 := by decide
  rw [hx, BitVec.toInt_add, h1]
  exact Int.bmod_eq_of_le (by omega) (by omega)

theorem toInt_bounds (x : U16) : -32768 ≤ x.toInt ∧ x.toInt ≤ 32767 := by
  have h1 := BitVec.le_toInt (x := x)
  have h2 := BitVec.toInt_lt (x := x)
  omega

theorem sequenceAfter_iff (a b : U16) : sequenceAfter a b = true ↔ 0 < (a - b).toInt := by
  simp [sequenceAfter, Serial.after]

namespace PlayoutSource

/-- The signed distance of a sequence number from the due one. -/
def offset (s : PlayoutSource) (sequence : U16) : Int := (sequence - s.expectedSequence).toInt

/-- The distance from the next packet to load: the due one, or the one after it while the due one's
second half is played. -/
def lead (s : PlayoutSource) (sequence : U16) : Int := s.offset sequence - s.currentHalf.val

/-- The queue, seen from the next packet to load. -/
def ahead (s : PlayoutSource) : List Int := s.entries.toList.map fun e => s.lead e.sequence

/-- A sequence number that `push` does not refuse as stale at once. -/
def fresh (s : PlayoutSource) (sequence : U16) : Bool := decide (0 ≤ s.offset sequence)

/-- Both halves of a packet are valid. -/
def Playable (e : PlayoutPacket) : Prop :=
  e.flags &&& linkFlagFrame0Valid ≠ 0 ∧ e.flags &&& linkFlagFrame1Valid ≠ 0

/-- The queue of a source that plays, `sequence` being pushed next: ahead of the packet loaded last
and in order; a tail that just missed its time is followed by the packet to load. -/
structure Playing (s : PlayoutSource) (sequence : U16) : Prop where
  sorted : s.ahead.Pairwise (· < ·)
  lower : ∀ x ∈ s.ahead, -1 ≤ x
  tail : s.ahead.getLast? = some (-1) → s.lead sequence = 0

/-- The queue of a source that has not played yet: the packets before `sequence`. -/
structure Waiting (s : PlayoutSource) (sequence : U16) : Prop where
  half : s.currentHalf = 0
  consecutive : ∃ a : U16, s.entries.toList.map (·.sequence) =
    (List.range s.entries.count).map (fun i => a + BitVec.ofNat 16 i) ∧
    sequence = a + BitVec.ofNat 16 s.entries.count

/-- A source fed with one consecutive stream whose next packet is `sequence`. -/
structure Streaming (s : PlayoutSource) (sequence : U16) : Prop where
  playable : ∀ e ∈ s.entries.toList, Playable e
  current : s.currentLoaded = true → Playable s.current
  waiting : s.expectedValid = false → Waiting s sequence
  playing : s.expectedValid = true → Playing s sequence

/-! ## Push -/

/-- The three checks of `push`. -/
structure Accepts (s : PlayoutSource) (sequence : U16) : Prop where
  notStale : s.expectedValid = true →
    sequence = s.expectedSequence ∨ sequenceAfter sequence s.expectedSequence = true
  notQueued : ∀ e ∈ s.entries.toList, e.sequence ≠ sequence
  afterTail : ∀ e, s.entries.toList.getLast? = some e → sequenceAfter sequence e.sequence = true

theorem push_cases (s : PlayoutSource) (f : AudioLinkFrame) :
    (Accepts s f.sequence ∧ ∃ a o, s.push f = ({ s with
      entries := s.entries.pushDropping ⟨f.sequence, f.flags, f.payload⟩
      overruns := o
      accepted := a }, true)) ∨
    (¬ Accepts s f.sequence ∧ ∃ d st, s.push f = ({ s with duplicates := d, stale := st }, false)) := by
  unfold push
  split
  · rename_i h
    simp only [Bool.and_eq_true, decide_eq_true_eq, Bool.not_eq_true'] at h
    refine .inr ⟨fun ha => ?_, s.duplicates, _, rfl⟩
    rcases ha.notStale h.1.1 with he | he
    · exact h.1.2 he
    · rw [h.2] at he; cases he
  · rename_i h1
    split
    · rename_i h
      rw [List.any_eq_true] at h
      obtain ⟨e, he, hs⟩ := h
      exact .inr ⟨fun ha => ha.notQueued e he (by simpa using hs), _, s.stale, rfl⟩
    · rename_i h2
      split
      · rename_i h
        refine .inr ⟨fun ha => ?_, s.duplicates, _, rfl⟩
        cases hl : s.entries.toList.getLast? with
        | none => simp [hl] at h
        | some e =>
          rw [hl, Option.any_some, ha.afterTail e hl] at h
          cases h
      · rename_i h3
        refine .inl ⟨⟨fun hv => ?_, fun e he hs => h2 ?_, fun e he => ?_⟩, _, _, rfl⟩
        · by_contra hne
          rw [not_or] at hne
          exact h1 (by simp [hv, hne.1, hne.2])
        · exact List.any_eq_true.2 ⟨e, he, by simpa using hs⟩
        · rw [he, Option.any_some] at h3
          simpa using h3

theorem le_getLast : ∀ {l : List Int} {t x : Int}, l.Pairwise (· < ·) → l.getLast? = some t → x ∈ l → x ≤ t
  | [], _, _, _, _, hx => by cases hx
  | [a], t, x, _, ht, hx => by
    rw [List.mem_singleton] at hx
    simp at ht
    omega
  | a :: b :: l, t, x, hp, ht, hx => by
    obtain ⟨ha, hp⟩ := List.pairwise_cons.1 hp
    rw [List.getLast?_cons_cons] at ht
    rcases List.mem_cons.1 hx with rfl | hx
    · exact Int.le_of_lt (ha t (List.mem_of_getLast? ht))
    · exact le_getLast hp ht hx

theorem half_bounds (s : PlayoutSource) : 0 ≤ (s.currentHalf.val : Int) ∧ (s.currentHalf.val : Int) ≤ 1 := by
  have := s.currentHalf.isLt
  omega

theorem offset_eq_lead (s : PlayoutSource) (n : U16) : s.offset n = s.lead n + s.currentHalf.val := by
  unfold lead; omega

theorem mem_ahead {s : PlayoutSource} {x : Int} :
    x ∈ s.ahead ↔ ∃ e ∈ s.entries.toList, s.lead e.sequence = x := List.mem_map

/-- While playing, `push` takes what is not stale and ahead of the whole queue. -/
theorem accepts_iff {s : PlayoutSource} {n : U16} (hv : s.expectedValid = true) (hp : Playing s n) :
    Accepts s n ↔ s.fresh n = true ∧ ∀ x ∈ s.ahead, x < s.lead n := by
  have hh := half_bounds s
  have hnb := toInt_bounds (n - s.expectedSequence)
  have hn : (n - s.expectedSequence).toInt = s.lead n + s.currentHalf.val := offset_eq_lead s n
  -- entries are ordered with the new packet as their offsets are
  have hafter : 0 ≤ s.offset n → ∀ e ∈ s.entries.toList,
      (s.lead e.sequence = -1 → s.lead n = 0) →
      (sequenceAfter n e.sequence = true ↔ s.lead e.sequence < s.lead n) := by
    intro hf e he htail
    have hlow := hp.lower _ (mem_ahead.2 ⟨e, he, rfl⟩)
    have hme : (e.sequence - s.expectedSequence).toInt = s.lead e.sequence + s.currentHalf.val :=
      offset_eq_lead s e.sequence
    have heb := toInt_bounds (e.sequence - s.expectedSequence)
    rw [offset_eq_lead] at hf
    rw [sequenceAfter_iff, toInt_sub_of_offsets (e := s.expectedSequence) (by omega) (by omega)]
    omega
  have hlast : ∀ e, s.entries.toList.getLast? = some e → s.ahead.getLast? = some (s.lead e.sequence) := by
    intro e he
    rw [ahead, List.getLast?_map, he]; rfl
  constructor
  · intro ha
    have hf : 0 ≤ s.offset n := by
      rcases ha.notStale hv with he | he
      · rw [offset, he]; simp
      · rw [sequenceAfter_iff] at he
        exact Int.le_of_lt he
    refine ⟨decide_eq_true hf, fun x hx => ?_⟩
    cases hl : s.entries.toList.getLast? with
    | none =>
      rw [List.getLast?_eq_none_iff] at hl
      simp [ahead, hl] at hx
    | some e =>
      have hle := le_getLast hp.sorted (hlast e hl) hx
      have hlt := (hafter hf e (List.mem_of_getLast? hl) (fun h => hp.tail (h ▸ hlast e hl))).1 (ha.afterTail e hl)
      omega
  · rintro ⟨hf, hall⟩
    have hf : 0 ≤ s.offset n := of_decide_eq_true hf
    refine ⟨fun _ => ?_, fun e he hs => ?_, fun e he => ?_⟩
    · rw [sequenceAfter_iff]
      rcases Int.lt_or_eq_of_le hf with h | h
      · exact .inr h
      · left
        have hz : n - s.expectedSequence = 0 := BitVec.eq_of_toInt_eq (by rw [← offset, ← h]; rfl)
        bv_omega
    · have := hall _ (mem_ahead.2 ⟨e, he, rfl⟩)
      rw [hs] at this
      exact absurd this (Int.lt_irrefl _)
    · have hmem := List.mem_of_getLast? he
      exact (hafter hf e hmem (fun h => hp.tail (h ▸ hlast e he))).2 (hall _ (mem_ahead.2 ⟨e, hmem, rfl⟩))

/-- Two states with the same due position. -/
structure SamePosition (s t : PlayoutSource) : Prop where
  expected : t.expectedSequence = s.expectedSequence
  valid : t.expectedValid = s.expectedValid
  loaded : t.currentLoaded = s.currentLoaded
  half : t.currentHalf = s.currentHalf
  current : t.current = s.current

theorem SamePosition.lead {s t : PlayoutSource} (h : SamePosition s t) (n : U16) : t.lead n = s.lead n := by
  rw [PlayoutSource.lead, PlayoutSource.lead, offset, offset, h.expected, h.half]

/-- A push leaves the due position alone and puts at most the new packet in the queue. -/
theorem push_same (s : PlayoutSource) (f : AudioLinkFrame) :
    SamePosition s (s.push f).1 ∧
      ∀ e ∈ (s.push f).1.entries.toList, e ∈ s.entries.toList ∨ e = ⟨f.sequence, f.flags, f.payload⟩ := by
  rcases push_cases s f with ⟨-, a, o, h⟩ | ⟨-, d, st, h⟩
  · rw [h]
    refine ⟨⟨rfl, rfl, rfl, rfl, rfl⟩, fun e he => ?_⟩
    rw [RingBuffer.toList_pushDropping] at he
    rcases List.mem_append.1 (List.mem_of_mem_drop he) with he | he
    · exact .inl he
    · exact .inr (List.mem_singleton.1 he)
  · rw [h]
    exact ⟨⟨rfl, rfl, rfl, rfl, rfl⟩, fun e he => .inl he⟩

/-- **Push, seen from the next packet to load.** -/
theorem push_ahead {s : PlayoutSource} {f : AudioLinkFrame} (hv : s.expectedValid = true)
    (hp : Playing s f.sequence) :
    (s.push f).1.ahead =
      DueQueue.arrive playoutQueueCapacity (s.fresh f.sequence) (s.lead f.sequence) s.ahead := by
  rcases push_cases s f with ⟨ha, a, o, h⟩ | ⟨ha, d, st, h⟩
  · rw [DueQueue.arrive, if_pos ((accepts_iff hv hp).1 ha), h]
    simp only [ahead, RingBuffer.toList_pushDropping, List.rtake, List.map_drop, List.map_append, List.map_cons,
      List.map_nil, List.length_map, List.length_append]
    rfl
  · rw [DueQueue.arrive, if_neg fun hx => ha ((accepts_iff hv hp).2 hx), h]
    rfl

/-- The queue stays in order under a push of the stream. -/
theorem push_playing {s : PlayoutSource} {f : AudioLinkFrame} (hv : s.expectedValid = true)
    (hp : Playing s f.sequence) : Playing (s.push f).1 (f.sequence + 1) := by
  have hsame := (push_same s f).1
  have hh := half_bounds s
  have hahead := push_ahead hv hp
  have hlow : ∀ x ∈ (s.push f).1.ahead, -1 ≤ x := by
    intro x hx
    rw [hahead, DueQueue.arrive] at hx
    split at hx
    · rename_i hc
      rcases List.mem_append.1 (List.mem_of_mem_drop hx) with hx | hx
      · exact hp.lower x hx
      · rw [List.mem_singleton] at hx
        have hf : 0 ≤ s.offset f.sequence := of_decide_eq_true hc.1
        rw [offset_eq_lead] at hf
        omega
    · exact hp.lower x hx
  refine ⟨by rw [hahead]; exact DueQueue.arrive_sorted hp.sorted, hlow, fun htail => ?_⟩
  rw [hahead, DueQueue.arrive] at htail
  have hn : s.offset f.sequence = s.lead f.sequence + s.currentHalf.val := offset_eq_lead s f.sequence
  split at htail
  · -- the new packet itself has just missed its time
    rename_i hc
    have hlast : s.lead f.sequence = -1 := by
      have hne : (s.ahead ++ [s.lead f.sequence]).rtake playoutQueueCapacity =
          s.ahead.rtake 3 ++ [s.lead f.sequence] := List.rtake_concat_succ ..
      rw [hne, List.getLast?_concat, Option.some.injEq] at htail
      exact htail
    have hf : 0 ≤ s.offset f.sequence := of_decide_eq_true hc.1
    rw [hsame.lead, lead, offset, toInt_succ_sub (by rw [← offset]; omega), ← offset]
    omega
  · -- a tail that has just missed its time is followed by a packet that is taken
    rename_i hc
    have hzero := hp.tail htail
    refine absurd ⟨decide_eq_true (by rw [hn]; omega), fun x hx => ?_⟩ hc
    have := le_getLast hp.sorted htail hx
    omega

/-- Before the first `next` that finds a packet, a push of the stream is always taken. -/
theorem push_waiting {s : PlayoutSource} {f : AudioLinkFrame} (hv : s.expectedValid = false)
    (hw : Waiting s f.sequence) :
    Waiting (s.push f).1 (f.sequence + 1) ∧ (s.push f).1.entries.count ≠ 0 := by
  obtain ⟨hh, a, hseq, hn⟩ := hw
  have hle : s.entries.count ≤ 4 := s.entries.count_le
  have haccept : Accepts s f.sequence := by
    refine ⟨fun h => absurd (h.symm.trans hv) (by decide), fun e he hs => ?_, fun e he => ?_⟩
    · have hmem : e.sequence ∈ s.entries.toList.map (·.sequence) := List.mem_map_of_mem he
      rw [hseq, hs, hn] at hmem
      obtain ⟨i, hi, heq⟩ := List.mem_map.1 hmem
      have hi := List.mem_range.1 hi
      bv_omega
    · have hlast : (s.entries.toList.map (·.sequence)).getLast? = some e.sequence := by
        rw [List.getLast?_map, he]; rfl
      rw [hseq, List.getLast?_map] at hlast
      cases hc : s.entries.count with
      | zero => rw [hc] at hlast; simp at hlast
      | succ c =>
        rw [hc, List.range_succ, List.getLast?_concat, Option.map_some, Option.some.injEq] at hlast
        have hone : f.sequence - e.sequence = 1 := by rw [hn, hc, ← hlast]; bv_omega
        rw [sequenceAfter_iff, hone]
        decide
  rcases push_cases s f with ⟨-, x, o, h⟩ | ⟨hno, -⟩
  · rw [h]
    have hlist : (s.entries.pushDropping ⟨f.sequence, f.flags, f.payload⟩).toList.map (·.sequence) =
        ((List.range (s.entries.count + 1)).map fun i => a + BitVec.ofNat 16 i).drop (s.entries.count + 1 - 4) := by
      rw [RingBuffer.toList_pushDropping, List.rtake, List.map_drop, List.map_append, hseq, List.range_succ,
        List.map_append, hn, List.length_append, RingBuffer.length_toList]
      rfl
    have hcount : (s.entries.pushDropping ⟨f.sequence, f.flags, f.payload⟩).count =
        s.entries.count + 1 - (s.entries.count + 1 - 4) := by
      have := congrArg List.length hlist
      simpa using this
    refine ⟨⟨hh, a + BitVec.ofNat 16 (s.entries.count + 1 - 4), ?_, ?_⟩, ?_⟩
    · rw [hlist, hcount]
      rcases Nat.lt_or_eq_of_le hle with hlt | heq
      · have h0 : s.entries.count + 1 - 4 = 0 := by omega
        simp [h0]
      · rw [heq, List.range_succ_eq_map, List.map_cons, List.drop_one, List.tail_cons, List.map_map]
        refine List.map_congr_left fun i _ => ?_
        rw [Function.comp_apply]
        bv_omega
    · dsimp only
      rw [hcount, hn]
      bv_omega
    · dsimp only
      omega
  · exact absurd haccept hno

/-- **One consecutive stream stays one under its next packet.** -/
theorem push_streaming {s : PlayoutSource} {f : AudioLinkFrame}
    (hf : Playable ⟨f.sequence, f.flags, f.payload⟩) (hs : Streaming s f.sequence) :
    Streaming (s.push f).1 (f.sequence + 1) := by
  obtain ⟨hsame, hmem⟩ := push_same s f
  refine ⟨fun e he => ?_, fun h => ?_, fun h => ?_, fun h => ?_⟩
  · rcases hmem e he with he | rfl
    · exact hs.playable e he
    · exact hf
  · rw [hsame.current]
    exact hs.current (hsame.loaded ▸ h)
  · exact (push_waiting (hsame.valid ▸ h) (hs.waiting (hsame.valid ▸ h))).1
  · exact push_playing (hsame.valid ▸ h) (hs.playing (hsame.valid ▸ h))

/-! ## Load -/

/-- The loop discards the front of the queue up to the due sequence number. -/
theorem discard_spec : ∀ (n : Nat) (s : PlayoutSource), s.expectedValid = true → s.entries.count ≤ n →
    ∃ r st, discardStaleFront n s = { s with entries := r, stale := st } ∧
      r.toList = s.entries.toList.dropWhile fun e => decide (s.offset e.sequence < 0)
  | 0, s, _, hc => by
    have hnil := s.entries.toList_eq_nil.2 (by omega)
    exact ⟨s.entries, s.stale, rfl, by rw [hnil]; rfl⟩
  | n + 1, s, hv, hc => by
    unfold discardStaleFront
    by_cases h0 : s.entries.count = 0
    · have hnil := s.entries.toList_eq_nil.2 h0
      exact ⟨s.entries, s.stale, by simp [h0], by rw [hnil]; rfl⟩
    · have hcons := s.entries.toList_popFront (by omega)
      have hstop : (s.entries.front.sequence = s.expectedSequence ||
          sequenceAfter s.entries.front.sequence s.expectedSequence) =
          !decide (s.offset s.entries.front.sequence < 0) := by
        rw [Bool.eq_iff_iff]
        simp only [Bool.or_eq_true, decide_eq_true_eq, sequenceAfter_iff, Bool.not_eq_true',
          decide_eq_false_iff_not, Int.not_lt]
        rw [← offset]
        constructor
        · rintro (h | h)
          · rw [offset, h]; simp
          · omega
        · intro h
          rcases Int.lt_or_eq_of_le h with h | h
          · exact .inr h
          · have hz : s.entries.front.sequence - s.expectedSequence = 0 :=
              BitVec.eq_of_toInt_eq (by rw [← offset, ← h]; rfl)
            exact .inl (by bv_omega)
      rw [if_neg (by simp [h0, hv])]
      simp only [hstop]
      cases hneg : decide (s.offset s.entries.front.sequence < 0) with
      | false => exact ⟨s.entries, s.stale, rfl, by rw [hcons, List.dropWhile_cons, hneg]; rfl⟩
      | true =>
        obtain ⟨r, st, he, hr⟩ := discard_spec n
          { s with entries := s.entries.popFront, stale := s.stale + 1 } hv
          (by simp only [RingBuffer.popFront]; omega)
        refine ⟨r, st, he, ?_⟩
        rw [hr, hcons, List.dropWhile_cons, hneg]
        rfl

theorem dropWhile_eq_filter : ∀ {l : List Int}, l.Pairwise (· < ·) →
    l.dropWhile (fun x => decide (x < 0)) = l.filter (0 ≤ ·)
  | [], _ => rfl
  | x :: l, h => by
    obtain ⟨hx, hl⟩ := List.pairwise_cons.1 h
    rcases Int.lt_or_le x 0 with hneg | hnn
    · have : ¬ 0 ≤ x := by omega
      simp [hneg, this, dropWhile_eq_filter hl]
    · have : ¬ x < 0 := by omega
      have hall : l.filter (0 ≤ ·) = l := List.filter_eq_self.2 fun y hy => by
        have := hx y hy
        simp only [decide_eq_true_eq]
        omega
      rw [List.dropWhile_cons, List.filter_cons]
      simp only [this, hnn, decide_true, decide_false, if_true, Bool.false_eq_true, if_false, hall]

/-- **The load at the first half of a packet's time.** -/
theorem load_spec {s : PlayoutSource} {n : U16} (hv : s.expectedValid = true) (hh : s.currentHalf = 0)
    (hp : Playing s n) :
    ∃ r st c, s.load =
        { s with entries := r, stale := st, currentLoaded := decide (0 ∈ s.ahead), current := c } ∧
      r.toList.map (fun e => s.lead e.sequence) = s.ahead.filter (0 < ·) ∧
      (∀ e ∈ r.toList, e ∈ s.entries.toList) ∧ (0 ∈ s.ahead → c ∈ s.entries.toList) := by
  obtain ⟨r, st, hd, hr⟩ := discard_spec s.entries.count s hv (Nat.le_refl _)
  have hlead (m : U16) : s.lead m = s.offset m := by rw [lead, hh]; simp
  have hmap : r.toList.map (fun e => s.lead e.sequence) = s.ahead.filter (0 ≤ ·) := by
    rw [hr, ← dropWhile_eq_filter hp.sorted, ahead, List.dropWhile_map]
    simp only [hlead]
    rfl
  have hsub : ∀ e ∈ r.toList, e ∈ s.entries.toList := by
    intro e he
    rw [hr] at he
    exact (List.dropWhile_sublist _).mem he
  have hsorted : (s.ahead.filter (0 ≤ ·)).Pairwise (· < ·) := hp.sorted.filter _
  unfold load
  rw [hd]
  dsimp only
  by_cases h0 : r.count = 0
  · -- nothing is left to load
    have hnil := r.toList_eq_nil.2 h0
    rw [hnil, List.map_nil] at hmap
    have hno : 0 ∉ s.ahead := fun hz => by
      have : (0 : Int) ∈ s.ahead.filter (0 ≤ ·) := List.mem_filter.2 ⟨hz, by simp⟩
      rw [← hmap] at this
      cases this
    refine ⟨r, st, s.current, by simp [h0, hno], ?_, hsub, fun hz => absurd hz hno⟩
    rw [hnil, List.map_nil, eq_comm, List.filter_eq_nil_iff]
    intro x hx hpos
    rw [eq_comm, List.filter_eq_nil_iff] at hmap
    simp only [decide_eq_true_eq] at hpos hmap
    exact hmap x hx (by omega)
  · have hcons := r.toList_popFront (by omega)
    rw [hcons, List.map_cons] at hmap
    have hhead : s.lead r.front.sequence ∈ s.ahead ∧ 0 ≤ s.lead r.front.sequence := by
      have : s.lead r.front.sequence ∈ s.ahead.filter (0 ≤ ·) := by rw [← hmap]; exact List.mem_cons_self
      simpa using List.mem_filter.1 this
    have hrest : ∀ x ∈ r.popFront.toList.map (fun e => s.lead e.sequence), s.lead r.front.sequence < x := by
      rw [← hmap] at hsorted
      exact (List.pairwise_cons.1 hsorted).1
    have hfilter : s.ahead.filter (0 < ·) =
        (s.lead r.front.sequence :: r.popFront.toList.map (fun e => s.lead e.sequence)).filter (0 < ·) := by
      rw [hmap, List.filter_filter]
      refine List.filter_congr fun x _ => ?_
      rw [Bool.eq_iff_iff]
      simp only [Bool.and_eq_true, decide_eq_true_eq]
      omega
    have hpos : (r.popFront.toList.map (fun e => s.lead e.sequence)).filter (0 < ·) =
        r.popFront.toList.map (fun e => s.lead e.sequence) := List.filter_eq_self.2 fun x hx => by
      have := hrest x hx
      simp only [decide_eq_true_eq]
      omega
    by_cases hdue : r.front.sequence = s.expectedSequence
    · -- the due packet is at the front
      have hz : s.lead r.front.sequence = 0 := by rw [hlead, offset, hdue]; simp
      refine ⟨r.popFront, st, r.front, by simp [h0, hdue, hz ▸ hhead.1], ?_, fun e he => ?_, fun _ => ?_⟩
      · rw [hfilter, List.filter_cons, hz, if_neg (by simp), hpos]
      · exact hsub e (by rw [hcons]; exact List.mem_cons_of_mem _ he)
      · exact hsub _ (by rw [hcons]; exact List.mem_cons_self)
    · -- the front is still to come
      have hlt : 0 < s.lead r.front.sequence := by
        rcases Int.lt_or_eq_of_le hhead.2 with h | h
        · exact h
        · refine absurd ?_ hdue
          have : r.front.sequence - s.expectedSequence = 0 :=
            BitVec.eq_of_toInt_eq (by rw [← offset, ← hlead, ← h]; rfl)
          bv_omega
      have hno : 0 ∉ s.ahead := fun hz => by
        have hmem : (0 : Int) ∈ s.ahead.filter (0 ≤ ·) := List.mem_filter.2 ⟨hz, by simp⟩
        rw [← hmap] at hmem
        rcases List.mem_cons.1 hmem with h | h
        · omega
        · have := hrest 0 h
          omega
      refine ⟨r, st, s.current, by simp [hdue, hno], ?_, hsub, fun hz => absurd hz hno⟩
      rw [hcons, List.map_cons, hfilter, List.filter_cons, if_pos (by simpa using hlt), hpos]

/-! ## Next -/

/-- What the first half of a packet's time leaves. -/
structure FirstHalf (s t : PlayoutSource) : Prop where
  expected : t.expectedSequence = s.expectedSequence
  valid : t.expectedValid = true
  half : t.currentHalf = 1
  loaded : t.currentLoaded = decide (0 ∈ s.ahead)
  ahead : t.ahead = (s.ahead.filter (0 < ·)).map (· - 1)

/-- What the second half of a packet's time leaves. -/
structure SecondHalf (s t : PlayoutSource) : Prop where
  expected : t.expectedSequence = s.expectedSequence + 1
  valid : t.expectedValid = true
  half : t.currentHalf = 0
  loaded : t.currentLoaded = false
  ahead : t.ahead = s.ahead

/-- **The first half is played exactly when the due packet is queued.** -/
theorem next_first_half {s : PlayoutSource} {n : U16} (hv : s.expectedValid = true) (hh : s.currentHalf = 0)
    (hs : Streaming s n) :
    s.next.2.2 = !decide (0 ∈ s.ahead) ∧ FirstHalf s s.next.1 ∧ Streaming s.next.1 n := by
  obtain ⟨r, st, c, hl, hr, hsub, hc⟩ := load_spec hv hh (hs.playing hv)
  have hplay : ∀ e ∈ r.toList, Playable e := fun e he => hs.playable e (hsub e he)
  have hpos : ∀ x ∈ (s.ahead.filter (0 < ·)).map (· - 1), 0 ≤ x := by
    intro x hx
    obtain ⟨y, hy, rfl⟩ := List.mem_map.1 hx
    have hy := (List.mem_filter.1 hy).2
    simp only [decide_eq_true_eq] at hy
    omega
  have hvalid : (s.load).halfValid = decide (0 ∈ s.ahead) := by
    rw [hl, halfValid]
    by_cases hz : (0 : Int) ∈ s.ahead
    · simpa [hz, hh] using (hs.playable c (hc hz)).1
    · simp [hz]
  have hstate : ∃ d p, s.next = ({ s with
      entries := r, stale := st, currentLoaded := decide (0 ∈ s.ahead), current := c
      deliveredFrames := d, plcFrames := p, currentHalf := 1 }, s.next.2.1, !decide (0 ∈ s.ahead)) := by
    unfold next playHalf
    rw [if_neg (by simp [hv]), if_pos hh]
    dsimp only
    rw [hvalid]
    by_cases hz : (0 : Int) ∈ s.ahead
    · rw [if_pos (by simpa using hz), hl]
      refine ⟨s.deliveredFrames + 1, s.plcFrames, ?_⟩
      simp only [advanceHalf, hh, if_true, hz, decide_true, Bool.not_true]
    · rw [if_neg (by simpa using hz), hl]
      refine ⟨s.deliveredFrames, s.plcFrames + 1, ?_⟩
      simp only [advanceHalf, hh, if_true, hz, decide_false, Bool.not_false]
  obtain ⟨d, p, hn⟩ := hstate
  have hahead : s.next.1.ahead = (s.ahead.filter (0 < ·)).map (· - 1) := by
    rw [hn, ← hr, List.map_map]
    refine List.map_congr_left fun e _ => ?_
    simp [lead, offset, hh]
  have hfirst : FirstHalf s s.next.1 :=
    ⟨by rw [hn], by rw [hn]; exact hv, by rw [hn], by rw [hn], hahead⟩
  refine ⟨by rw [hn], hfirst, ?_, ?_, fun h => ?_, fun _ => ⟨?_, fun x hx => ?_, fun hx => ?_⟩⟩
  · rw [hn]; exact hplay
  · rw [hn]
    exact fun h => hs.playable c (hc (of_decide_eq_true h))
  · rw [hfirst.valid] at h; cases h
  · rw [hahead]
    exact List.pairwise_map.2 (((hs.playing hv).sorted.filter _).imp fun h => by omega)
  · rw [hahead] at hx
    have := hpos x hx
    omega
  · rw [hahead] at hx
    have := hpos _ (List.mem_of_getLast? hx)
    omega

/-- **The second half is played exactly when the packet was loaded.** -/
theorem next_second_half {s : PlayoutSource} {n : U16} (hv : s.expectedValid = true) (hh : s.currentHalf = 1)
    (hs : Streaming s n) :
    s.next.2.2 = !s.currentLoaded ∧ SecondHalf s s.next.1 ∧ Streaming s.next.1 n := by
  have hp := hs.playing hv
  have hvalid : s.halfValid = s.currentLoaded := by
    rw [halfValid]
    cases hl : s.currentLoaded with
    | false => rfl
    | true => simpa [hh] using (hs.current hl).2
  have hhalf : ¬ s.currentHalf = 0 := by rw [hh]; decide
  have hstate : ∃ d p, s.next = ({ s with
      currentLoaded := false, deliveredFrames := d, plcFrames := p, currentHalf := 0
      expectedSequence := s.expectedSequence + 1 }, s.next.2.1, !s.currentLoaded) := by
    unfold next playHalf
    rw [if_neg (by simp [hv])]
    simp only [if_neg hhalf]
    rw [hvalid]
    cases hl : s.currentLoaded with
    | true =>
      refine ⟨s.deliveredFrames + 1, s.plcFrames, ?_⟩
      simp [advanceHalf, hh]
    | false =>
      refine ⟨s.deliveredFrames, s.plcFrames + 1, ?_⟩
      simp [advanceHalf, hh]
  obtain ⟨d, p, hn⟩ := hstate
  have hahead : s.next.1.ahead = s.ahead := by
    rw [hn]
    refine List.map_congr_left fun e he => ?_
    have hlow : -1 ≤ (e.sequence - s.expectedSequence).toInt - (s.currentHalf.val : Int) :=
      hp.lower _ (mem_ahead.2 ⟨e, he, rfl⟩)
    have h1 : ((1 : Fin 2).val : Int) = 1 := rfl
    have h0 : ((0 : Fin 2).val : Int) = 0 := rfl
    rw [hh] at hlow
    simp only [lead, offset, hh]
    rw [toInt_sub_succ (by omega)]
    omega
  have hsecond : SecondHalf s s.next.1 := ⟨by rw [hn], by rw [hn]; exact hv, by rw [hn], by rw [hn], hahead⟩
  refine ⟨by rw [hn], hsecond, by rw [hn]; exact hs.playable, fun h => ?_, fun h => ?_, fun _ => ⟨?_, ?_, ?_⟩⟩
  · rw [hsecond.loaded] at h; cases h
  · rw [hsecond.valid] at h; cases h
  · rw [hahead]; exact hp.sorted
  · rw [hahead]; exact hp.lower
  · rw [hahead]
    intro hx
    have hz := hp.tail hx
    rw [lead, hh] at hz
    rw [lead, offset, hsecond.expected, hsecond.half, toInt_sub_succ (by rw [← offset]; simp at hz; omega),
      ← offset]
    simp at hz ⊢
    omega

/-- Before the first `next` that finds a packet, `next` only counts. -/
theorem next_waiting {s : PlayoutSource} {n : U16} (hv : s.expectedValid = false) (h0 : s.entries.count = 0)
    (hs : Streaming s n) : s.next.2.2 = true ∧ s.next.1.expectedValid = false ∧ Streaming s.next.1 n := by
  have hn : s.next = ({ s with plcFrames := s.plcFrames + 1 }, Bytes.zero _, true) := by
    rw [next, if_pos (by simp [hv]), if_pos h0]
  rw [hn]
  refine ⟨rfl, hv, hs.playable, hs.current, fun h => ?_, fun h => ?_⟩
  · exact ⟨(hs.waiting h).half, (hs.waiting h).consecutive⟩
  · exact absurd (h.symm.trans hv) (by decide)

/-- The first `next` that finds a packet starts the due sequence number at the front of the queue. -/
theorem start_playing {s : PlayoutSource} {n : U16} (hv : s.expectedValid = false) (h0 : s.entries.count ≠ 0)
    (hs : Streaming s n) :
    let t := { s with expectedSequence := s.entries.front.sequence, expectedValid := true }
    s.next = t.next ∧ t.currentHalf = 0 ∧ 0 ∈ t.ahead ∧ Streaming t n := by
  obtain ⟨hh, a, hseq, hnext⟩ := hs.waiting hv
  have hcount : s.entries.count ≤ 4 := s.entries.count_le
  obtain ⟨c, hc⟩ := Nat.exists_eq_succ_of_ne_zero h0
  have hfront : s.entries.front.sequence = a := by
    rw [s.entries.toList_popFront (by omega), hc, List.range_succ_eq_map] at hseq
    simpa using (List.cons.inj hseq).1
  have hlead (i : Nat) (hi : i ≤ 4) : (a + BitVec.ofNat 16 i - a).toInt = i := by
    have : a + BitVec.ofNat 16 i - a = BitVec.ofNat 16 i := by
      rw [BitVec.add_comm, BitVec.add_sub_cancel]
    rw [this, BitVec.toInt_ofNat']
    exact Int.bmod_eq_of_le (by omega) (by omega)
  have hahead : ({ s with expectedSequence := s.entries.front.sequence, expectedValid := true } :
      PlayoutSource).ahead = (List.range s.entries.count).map fun i : Nat => (i : Int) := by
    have hm : ∀ l : List PlayoutPacket, ∀ k : List Nat, (∀ i ∈ k, i ≤ 4) →
        l.map (·.sequence) = k.map (fun i => a + BitVec.ofNat 16 i) →
        l.map (fun e => (e.sequence - a).toInt - (s.currentHalf.val : Int)) = k.map fun i : Nat => (i : Int) := by
      intro l k hk h
      have := congrArg (List.map fun x : U16 => (x - a).toInt - (s.currentHalf.val : Int)) h
      rw [List.map_map, List.map_map] at this
      refine this.trans (List.map_congr_left fun i hi => ?_)
      rw [Function.comp_apply, hlead i (hk i hi), hh]
      simp
    simp only [ahead, lead, offset, hfront]
    exact hm _ _ (fun i hi => by have := List.mem_range.1 hi; omega) hseq
  refine ⟨?_, hh, ?_, ⟨hs.playable, hs.current, fun h => (by cases h),
    fun _ => ⟨?_, fun x hx => ?_, fun hx => ?_⟩⟩⟩
  · rw [next, if_pos (by simp [hv]), if_neg h0, next, if_neg (by simp)]
  · rw [hahead, List.mem_map]
    exact ⟨0, List.mem_range.2 (by omega), rfl⟩
  · rw [hahead]
    exact List.pairwise_map.2 (List.pairwise_lt_range.imp fun h => by omega)
  · rw [hahead] at hx
    obtain ⟨i, -, rfl⟩ := List.mem_map.1 hx
    omega
  · rw [hahead] at hx
    obtain ⟨i, -, hi⟩ := List.mem_map.1 (List.mem_of_getLast? hx)
    omega

end PlayoutSource

end OpenRef.Audio
