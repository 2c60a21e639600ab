import Mathlib.Data.List.Forall2
import OpenRef.Audio.Capture
import OpenRef.Audio.Transport
import OpenRef.Lib.Run
/-!
# From the codec to playout

Codec frames go into capture; its packets are popped and encoded, decoded at the other
end, relabelled as remote audio and pushed to playout, in any interleaving of these
steps. `Stages` says where each packet is.

`codec_frames_survive`: while no queue overruns and no packet is played before it was
pushed, every call of `next` gives the next submitted codec frame, or PLC where the
codec had failed.
-/

namespace OpenRef.Audio

/-- The two ends, the wires between them, and what was seen: the codec frames submitted, the packets pushed
and the results of `next`. -/
structure CodecPath where
  capture : AudioCapture
  transit : List LinkWire
  playout : AudioPlayout
  submitted : List CodecSubmit
  pushed : Nat
  results : List CodecOutput

/-- A step of one of the ends. -/
inductive CodecStep
  | submit (x : CodecSubmit)
  | pop
  | deliver
  | next

/-- The step is a call of `next`. -/
def CodecStep.isNext : CodecStep → Bool
  | .next => true
  | _ => false

namespace CodecPath

def init (capture : AudioCapture) : CodecPath := ⟨capture, [], AudioPlayout.init, [], 0, []⟩

/-- One step. -/
def step (source : U8) (w : CodecPath) : CodecStep → CodecPath
  | .submit x => { w with capture := (w.capture.submit x).1, submitted := w.submitted ++ [x] }
  | .pop => { w with capture := w.capture.pop.1, transit := w.transit ++ (w.capture.pop.2.bind encode).toList }
  | .deliver =>
    match w.transit with
    | [] => w
    | wire :: transit =>
      match decode wire with
      | none => { w with transit := transit }
      | some frame =>
        { w with
          transit := transit
          playout := (w.playout.push { frame with kind := linkRemoteAudio }).1
          pushed := w.pushed + 1 }
  | .next =>
    let r := w.playout.next source
    { w with playout := r.1, results := w.results ++ r.2.toList }

/-- Neither queue overruns, and a packet is played after it was pushed. -/
def Timely (i : Fin 6) (w : CodecPath) : CodecStep → Prop
  | .submit _ => w.capture.pendingHalf = 1 → w.capture.outputQueue.count < linkQueueCapacity
  | .pop => True
  | .deliver => w.transit ≠ [] → (w.playout i).entries.count < playoutQueueCapacity
  | .next => w.results.length / 2 < w.pushed

/-! ## Where the packets are -/

/-- The packets by where they are, and the codec frame that waits for its second half. -/
structure Stages where
  played : List CodecPacket
  playing : Option CodecPacket
  queued : List CodecPacket
  transit : List CodecPacket
  waiting : List CodecPacket
  pending : Option CodecSubmit

/-- The packets that were pushed. -/
def Stages.pushed (st : Stages) : List CodecPacket := st.played ++ st.playing.toList ++ st.queued

/-- All packets in their order. -/
def Stages.packets (st : Stages) : List CodecPacket := st.pushed ++ st.transit ++ st.waiting

/-- The frame of a packet with another kind. -/
theorem makes_relabelled {p : CodecPacket} {source : U8} {first : U16} {frame : AudioLinkFrame}
    (h : p.Makes source first frame) (kind : U8) : p.Makes source first { frame with kind := kind } :=
  ⟨h.source, h.sequence, h.flags, h.payload⟩

/-- What playout is doing: the packets `played` are over, `playing` is half over. -/
structure Plays (source : U8) (first : U16) (s : PlayoutSource) (played : List CodecPacket)
    (playing : Option CodecPacket) : Prop where
  started : s.expectedValid = false → played = [] ∧ playing = none
  expected : s.expectedValid = true → s.expectedSequence = Serial.position first played.length
  half : playing = none → s.currentHalf = 0
  current : ∀ p ∈ playing, s.expectedValid = true ∧ s.currentHalf = 1 ∧ s.currentLoaded = true ∧
    ∃ frame, p.Makes source first frame ∧ s.current = ⟨frame.sequence, frame.flags, frame.payload⟩

/-- The packets are where the stages say. -/
structure Carries (source : U8) (i : Fin 6) (first : U16) (w : CodecPath) (st : Stages) : Prop where
  numbered : st.packets.map (·.index) = List.range st.packets.length
  submitted : w.submitted = st.packets.flatMap (·.codecFrames) ++ st.pending.toList
  holds : w.capture.Holds source first st.packets.length st.pending
  waiting : List.Forall₂ (fun p frame => (encode frame).isSome ∧ p.Makes source first frame) st.waiting
    w.capture.outputQueue.toList
  transit : List.Forall₂ (fun p wire => ∃ frame, decode wire = some frame ∧ p.Makes source first frame) st.transit
    w.transit
  queued : List.Forall₂ (fun p e => ∃ frame, p.Makes source first frame ∧
    e = PlayoutPacket.mk frame.sequence frame.flags frame.payload) st.queued (w.playout i).entries.toList
  plays : Plays source first (w.playout i) st.played st.playing
  pushed : w.pushed = st.pushed.length
  results : w.results = st.played.flatMap (fun p => [p.first.outcome, p.second.outcome]) ++
    st.playing.toList.map (·.first.outcome)

variable {source : U8} {i : Fin 6} {first : U16} {w : CodecPath} {st : Stages}

/-- A packet's place is its index. -/
theorem index_eq {packets : List CodecPacket} {p : CodecPacket}
    (h : packets.map (·.index) = List.range packets.length) (before after : List CodecPacket)
    (hp : packets = before ++ p :: after) : p.index = before.length := by
  have hget : (packets.map (·.index))[before.length]? = some p.index := by
    rw [hp, List.map_append, List.map_cons]
    simp
  rw [h, List.getElem?_range (by rw [hp, List.length_append, List.length_cons]; omega), Option.some_inj] at hget
  exact hget.symm

/-- **Step: a codec frame is submitted.** -/
theorem Carries.submit (h : Carries source i first w st) (hi : sourceIndex source = some i) (x : CodecSubmit)
    (ht : w.Timely i (.submit x)) : ∃ st', Carries source i first (w.step source (.submit x)) st' := by
  cases hp : st.pending with
  | none =>
    have hholds := h.holds
    rw [hp] at hholds
    obtain ⟨hc, hq⟩ := AudioCapture.submit_first hholds x
    refine ⟨{ st with pending := some x }, h.numbered, ?_, hc, ?_, h.transit, h.queued, h.plays, h.pushed, h.results⟩
    · change w.submitted ++ [x] = _
      rw [h.submitted, hp]
      simp [Stages.packets, Stages.pushed]
    · change List.Forall₂ _ _ (w.capture.submit x).1.outputQueue.toList
      rw [hq]
      exact h.waiting
  | some y =>
    have hholds := h.holds
    rw [hp] at hholds
    have hroom : w.capture.outputQueue.count < linkQueueCapacity := ht (hholds.half y rfl).1
    obtain ⟨hc, frame, hv, hdepth, hmakes, hq⟩ := AudioCapture.submit_second hholds (by rw [hi]; rfl) hroom x
    have hencode : (encode frame).isSome := by
      obtain ⟨wire, hw⟩ := AudioTransport.encode_depth hv hroom.le
      rw [← hdepth] at hw
      rw [hw]
      rfl
    have hpackets (q : CodecPacket) : Stages.packets { st with waiting := st.waiting ++ [q], pending := none } =
        st.packets ++ [q] := by
      unfold Stages.packets Stages.pushed
      dsimp only
      rw [List.append_assoc _ st.waiting]
    refine ⟨{ st with waiting := st.waiting ++ [⟨st.packets.length, y, x⟩], pending := none }, ?_, ?_, ?_, ?_,
      h.transit, h.queued, h.plays, h.pushed, h.results⟩
    · rw [hpackets, List.map_append, h.numbered, List.length_append, List.length_singleton, List.range_succ]
      rfl
    · change w.submitted ++ [x] = _
      rw [hpackets, h.submitted, hp, List.flatMap_append]
      simp [CodecPacket.codecFrames]
    · rw [hpackets, List.length_append]
      exact hc
    · change List.Forall₂ _ _ (w.capture.submit x).1.outputQueue.toList
      rw [hq]
      exact List.rel_append h.waiting (.cons ⟨hencode, hmakes⟩ .nil)

/-- **Step: a packet is popped and encoded.** -/
theorem Carries.pop (h : Carries source i first w st) : ∃ st', Carries source i first (w.step source .pop) st' := by
  unfold step AudioCapture.pop
  dsimp only
  rcases w.capture.outputQueue.pop_cases with ⟨-, hq, hnone⟩ | ⟨oldest, hl, hsome, -⟩
  · rw [hq, hnone]
    refine ⟨st, h.numbered, h.submitted, h.holds, h.waiting, ?_, h.queued, h.plays, h.pushed, h.results⟩
    rw [Option.bind_none, Option.toList_none, List.append_nil]
    exact h.transit
  · rw [hsome]
    have hwaiting := h.waiting
    rw [hl] at hwaiting
    cases hst : st.waiting with
    | nil =>
      rw [hst] at hwaiting
      cases hwaiting
    | cons p waiting =>
      rw [hst] at hwaiting
      obtain ⟨⟨hencode, hmakes⟩, hrest⟩ := List.forall₂_cons.1 hwaiting
      obtain ⟨wire, hw⟩ := Option.isSome_iff_exists.1 hencode
      have hpackets : Stages.packets { st with transit := st.transit ++ [p], waiting := waiting } = st.packets := by
        unfold Stages.packets Stages.pushed
        dsimp only
        rw [hst, ← List.append_assoc _ st.transit, List.append_assoc _ [p], List.singleton_append]
      refine ⟨{ st with transit := st.transit ++ [p], waiting := waiting }, ?_, ?_, ?_, hrest, ?_, h.queued, h.plays,
        h.pushed, h.results⟩
      · rw [hpackets]
        exact h.numbered
      · rw [hpackets]
        exact h.submitted
      · rw [hpackets]
        exact ⟨h.holds.source, h.holds.sequence, h.holds.empty, h.holds.half⟩
      · rw [Option.bind_some, hw]
        exact List.rel_append h.transit (.cons ⟨oldest, decode_encode hw, hmakes⟩ .nil)

/-! ## Playout -/

theorem after_position {j k : Nat} (h : k < j) (hj : j < k + 2 ^ 15) :
    sequenceAfter (Serial.position first j) (Serial.position first k) = true := by
  rw [sequenceAfter_iff, Serial.toInt_position_sub first (by omega) (by omega)]
  omega

theorem exists_of_mem {α β : Type*} {R : α → β → Prop} {as : List α} {bs : List β} (h : List.Forall₂ R as bs)
    {b : β} (hb : b ∈ bs) : ∃ before a after, as = before ++ a :: after ∧ R a b := by
  induction h with
  | nil => cases hb
  | @cons a _ as _ hr _ ih =>
    rcases List.mem_cons.1 hb with rfl | hb
    · exact ⟨[], a, as, rfl, hr⟩
    · obtain ⟨before, a', after, rfl, hr'⟩ := ih hb
      exact ⟨a :: before, a', after, rfl, hr'⟩

theorem Carries.queued_length (h : Carries source i first w st) : st.queued.length = (w.playout i).entries.count := by
  rw [← (w.playout i).entries.length_toList, h.queued.length_eq]

/-- The next packet of the transit is taken. -/
theorem Carries.accepts (h : Carries source i first w st) (hroom : (w.playout i).entries.count < playoutQueueCapacity) :
    PlayoutSource.Accepts (w.playout i) (Serial.position first st.pushed.length) := by
  have hqueued := h.queued_length
  have hcap : playoutQueueCapacity = 4 := rfl
  have hone : st.playing.toList.length ≤ 1 := by cases st.playing <;> simp
  have hlen : st.pushed.length = st.played.length + st.playing.toList.length + st.queued.length := by
    rw [Stages.pushed, List.length_append, List.length_append]
  have hafter : ∀ e ∈ (w.playout i).entries.toList,
      sequenceAfter (Serial.position first st.pushed.length) e.sequence = true := by
    intro e he
    obtain ⟨before, p, after, hp, frame, hmakes, rfl⟩ := exists_of_mem h.queued he
    have hindex : p.index = st.played.length + st.playing.toList.length + before.length := by
      rw [index_eq h.numbered (st.played ++ st.playing.toList ++ before) (after ++ st.transit ++ st.waiting)
        (by simp [Stages.packets, Stages.pushed, hp]), List.length_append, List.length_append]
    have hbefore : before.length < st.queued.length := by
      rw [hp, List.length_append, List.length_cons]
      omega
    rw [hmakes.sequence, hindex]
    exact after_position (by omega) (by omega)
  refine ⟨fun hv => ?_, fun e he hs => ?_, fun e he => hafter e (List.mem_of_getLast? he)⟩
  · rw [h.plays.expected hv]
    rcases Nat.eq_or_lt_of_le (show st.played.length ≤ st.pushed.length by omega) with heq | hlt
    · exact .inl (by rw [heq])
    · exact .inr (after_position hlt (by omega))
  · have hself := hafter e he
    rw [hs, sequenceAfter_iff, BitVec.sub_self] at hself
    exact absurd hself (by decide)

/-- **Step: a wire is decoded and its frame pushed.** -/
theorem Carries.deliver (h : Carries source i first w st) (hi : sourceIndex source = some i)
    (ht : w.Timely i .deliver) : ∃ st', Carries source i first (w.step source .deliver) st' := by
  unfold step
  cases hw : w.transit with
  | nil => exact ⟨st, h⟩
  | cons wire transit =>
    have hroom := ht (by rw [hw]; exact List.cons_ne_nil _ _)
    have hcap : playoutQueueCapacity = 4 := rfl
    have htransit := h.transit
    rw [hw] at htransit
    cases hst : st.transit with
    | nil =>
      rw [hst] at htransit
      cases htransit
    | cons p rest =>
      rw [hst] at htransit
      obtain ⟨⟨frame, hd, hmakes⟩, hrest⟩ := List.forall₂_cons.1 htransit
      dsimp only
      rw [hd]
      dsimp only
      generalize hf : ({ frame with kind := linkRemoteAudio } : AudioLinkFrame) = remote
      have hremote : p.Makes source first remote := hf ▸ makes_relabelled hmakes linkRemoteAudio
      have hkind : remote.kind = linkRemoteAudio := by rw [← hf]
      have hindex : p.index = st.pushed.length :=
        index_eq h.numbered st.pushed (rest ++ st.waiting) (by simp [Stages.packets, hst])
      have hpackets : Stages.packets { st with queued := st.queued ++ [p], transit := rest } = st.packets := by
        simp [Stages.packets, Stages.pushed, hst]
      rw [w.playout.push_eq hkind (by rw [hremote.source, hi])]
      dsimp only
      rcases PlayoutSource.push_cases (w.playout i) remote with ⟨-, a, o, hpush⟩ | ⟨hno, -⟩
      · refine ⟨{ st with queued := st.queued ++ [p], transit := rest }, ?_, ?_, ?_, h.waiting, hrest, ?_, ?_, ?_,
          h.results⟩
        · rw [hpackets]
          exact h.numbered
        · rw [hpackets]
          exact h.submitted
        · rw [hpackets]
          exact h.holds
        · dsimp only
          rw [AudioPlayout.set_self, hpush]
          dsimp only
          rw [RingBuffer.toList_pushDropping, List.rtake, List.length_append, (w.playout i).entries.length_toList,
            Nat.sub_eq_zero_of_le (by rw [List.length_singleton]; omega), List.drop_zero]
          exact List.rel_append h.queued (.cons ⟨remote, hremote, rfl⟩ .nil)
        · dsimp only
          rw [AudioPlayout.set_self, hpush]
          exact ⟨h.plays.started, h.plays.expected, h.plays.half, h.plays.current⟩
        · change w.pushed + 1 = _
          rw [h.pushed]
          simp [Stages.pushed]
          omega
      · refine absurd ?_ hno
        rw [hremote.sequence, hindex]
        exact h.accepts hroom

/-- A call of `next` on the source. -/
theorem step_next (hi : sourceIndex source = some i) (w : CodecPath) : w.step source .next =
    { w with
      playout := w.playout.set i (w.playout i).next.1
      results := w.results ++ [(w.playout i).next.2] } := by
  unfold step
  dsimp only
  rw [w.playout.next_eq hi]
  rfl

/-- **Step: the first half** of the packet at the front of the queue. -/
theorem Carries.next_first (h : Carries source i first w st) (hi : sourceIndex source = some i)
    (hv : (w.playout i).expectedValid = true) (hplaying : st.playing = none) (hne : st.queued ≠ []) :
    ∃ st', Carries source i first (w.step source .next) st' := by
  obtain ⟨t, dl, pl, hload, -, hnext⟩ := PlayoutSource.next_first hv (h.plays.half hplaying)
  cases hst : st.queued with
  | nil => exact absurd hst hne
  | cons p rest =>
    have hqueued := h.queued
    rw [hst] at hqueued
    obtain ⟨e, es, ⟨frame, hmakes, he⟩, hrest, hlist⟩ := List.forall₂_cons_left_iff.1 hqueued
    have hindex : p.index = st.played.length :=
      index_eq h.numbered st.played (rest ++ st.transit ++ st.waiting)
        (by simp [Stages.packets, Stages.pushed, hst, hplaying])
    have hdue : e.sequence = (w.playout i).expectedSequence := by
      rw [he, h.plays.expected hv, ← hindex]
      exact hmakes.sequence
    have hdrop : (w.playout i).entries.toList.dropWhile (w.playout i).behind = e :: es := by
      have hnot : (w.playout i).behind e = false := by
        rw [PlayoutSource.behind, PlayoutSource.offset, hdue, BitVec.sub_self]
        decide
      rw [hlist, List.dropWhile_cons, hnot, if_neg Bool.false_ne_true]
    have hpackets : Stages.packets
        { st with playing := some p, queued := rest } = st.packets := by
      simp [Stages.packets, Stages.pushed, hst, hplaying]
    cases hload with
    | missing r st' ht hl hc =>
      rw [hdrop] at hl
      exact absurd hdue (hc e (by rw [← hl]; rfl))
    | due r c st' ht hl hc =>
      rw [hdrop] at hl
      obtain ⟨rfl, rfl⟩ := List.cons.inj hl
      rw [step_next hi, hnext, ht]
      refine ⟨{ st with playing := some p, queued := rest }, ?_, ?_, ?_, h.waiting, h.transit, ?_, ?_, ?_, ?_⟩
      · rw [hpackets]
        exact h.numbered
      · rw [hpackets]
        exact h.submitted
      · rw [hpackets]
        exact h.holds
      · dsimp only
        rw [AudioPlayout.set_self]
        exact hrest
      · dsimp only
        rw [AudioPlayout.set_self]
        refine ⟨fun hno => absurd (hno.symm.trans hv) Bool.false_ne_true, h.plays.expected,
          fun hno => absurd hno (Option.some_ne_none p), fun q hq => ?_⟩
        rw [Option.mem_some_iff] at hq
        exact ⟨hv, rfl, rfl, frame, hq ▸ hmakes, he⟩
      · refine h.pushed.trans ?_
        simp [Stages.pushed, hst, hplaying]
      · dsimp only
        rw [h.results, hplaying, if_pos rfl, he, hmakes.half.1]
        simp

/-- **Step: the second half** of the packet that is played. -/
theorem Carries.next_second (h : Carries source i first w st) (hi : sourceIndex source = some i) {p : CodecPacket}
    (hplaying : st.playing = some p) : ∃ st', Carries source i first (w.step source .next) st' := by
  obtain ⟨hv, hh, hl, frame, hmakes, hcurrent⟩ := h.plays.current p hplaying
  obtain ⟨dl, pl, -, hnext⟩ := PlayoutSource.next_second hv hh
  have hpackets : Stages.packets { st with played := st.played ++ [p], playing := none } = st.packets := by
    simp [Stages.packets, Stages.pushed, hplaying]
  rw [step_next hi, hnext]
  refine ⟨{ st with played := st.played ++ [p], playing := none }, ?_, ?_, ?_, h.waiting, h.transit, ?_, ?_, ?_, ?_⟩
  · rw [hpackets]
    exact h.numbered
  · rw [hpackets]
    exact h.submitted
  · rw [hpackets]
    exact h.holds
  · dsimp only
    rw [AudioPlayout.set_self]
    exact h.queued
  · dsimp only
    rw [AudioPlayout.set_self]
    refine ⟨fun hno => absurd (hno.symm.trans hv) Bool.false_ne_true, fun _ => ?_, fun _ => rfl, nofun⟩
    dsimp only
    rw [h.plays.expected hv, List.length_append, List.length_singleton, Serial.position_succ]
  · refine h.pushed.trans ?_
    simp [Stages.pushed, hplaying]
  · dsimp only
    rw [h.results, hplaying, if_pos hl, hcurrent, hmakes.half.2]
    simp

/-- The first packet makes its sequence number the expected one. -/
theorem Carries.start (h : Carries source i first w st) (hi : sourceIndex source = some i)
    (hv : (w.playout i).expectedValid = false) (hne : st.queued ≠ []) :
    ∃ w', Carries source i first w' st ∧ (w'.playout i).expectedValid = true ∧
      w'.step source .next = w.step source .next := by
  obtain ⟨hplayed, hplaying⟩ := h.plays.started hv
  have hcount : (w.playout i).entries.count ≠ 0 := by
    rw [← h.queued_length]
    exact fun h0 => hne (List.length_eq_zero_iff.1 h0)
  cases hst : st.queued with
  | nil => exact absurd hst hne
  | cons p rest =>
    have hqueued := h.queued
    rw [hst, (w.playout i).entries.toList_popFront (Nat.pos_of_ne_zero hcount)] at hqueued
    obtain ⟨⟨frame, hmakes, hfront⟩, -⟩ := List.forall₂_cons.1 hqueued
    have hindex : p.index = 0 :=
      index_eq h.numbered [] (rest ++ st.transit ++ st.waiting)
        (by simp [Stages.packets, Stages.pushed, hst, hplayed, hplaying])
    refine ⟨{ w with playout := w.playout.set i { w.playout i with
        expectedSequence := (w.playout i).entries.front.sequence
        expectedValid := true } }, ⟨h.numbered, h.submitted, h.holds, h.waiting, h.transit, ?_, ?_, h.pushed,
      h.results⟩, ?_, ?_⟩
    · dsimp only
      rw [AudioPlayout.set_self]
      exact h.queued
    · dsimp only
      rw [AudioPlayout.set_self]
      refine ⟨nofun, fun _ => ?_, h.plays.half, fun q hq => ?_⟩
      · dsimp only
        rw [hfront, hplayed, List.length_nil, ← hindex]
        exact hmakes.sequence
      · rw [hplaying] at hq
        cases hq
    · dsimp only
      rw [AudioPlayout.set_self]
    · rw [step_next hi, step_next hi, PlayoutSource.next_start hv hcount]
      dsimp only
      rw [AudioPlayout.set_self, AudioPlayout.set_set]

/-- **Step: `next`.** The packet that is due was pushed. -/
theorem Carries.next (h : Carries source i first w st) (hi : sourceIndex source = some i) (ht : w.Timely i .next) :
    ∃ st', Carries source i first (w.step source .next) st' := by
  cases hplaying : st.playing with
  | some p => exact h.next_second hi hplaying
  | none =>
    have hne : st.queued ≠ [] := by
      intro hnil
      have hlt : w.results.length / 2 < w.pushed := ht
      have hflat : (st.played.flatMap fun p => [p.first.outcome, p.second.outcome]).length = st.played.length * 2 := by
        simp [List.length_flatMap]
      rw [h.results, h.pushed, Stages.pushed, hplaying, hnil, List.length_append, hflat] at hlt
      simp at hlt
    cases hv : (w.playout i).expectedValid with
    | true => exact h.next_first hi hv hplaying hne
    | false =>
      obtain ⟨w', hw', hv', hstep⟩ := h.start hi hv hne
      rw [← hstep]
      exact hw'.next_first hi hv' hplaying hne

/-! ## Whole runs -/

theorem init_carries {c : AudioCapture} (hc : AudioCapture.init source first = some c) :
    Carries source i first (init c) ⟨[], none, [], [], [], none⟩ := by
  unfold AudioCapture.init at hc
  split at hc
  · cases hc
  · cases hc
    exact ⟨rfl, rfl, ⟨rfl, (BitVec.add_zero first).symm, fun _ => ⟨rfl, rfl⟩, nofun⟩, .nil, .nil, .nil,
      ⟨fun _ => ⟨rfl, rfl⟩, nofun, fun _ => rfl, nofun⟩, rfl, rfl⟩

/-- **Step.** -/
theorem step_carries (hi : sourceIndex source = some i) (w : CodecPath) (e : CodecStep)
    (h : ∃ st, Carries source i first w st) (ht : w.Timely i e) :
    ∃ st, Carries source i first (w.step source e) st := by
  obtain ⟨st, h⟩ := h
  cases e with
  | submit x => exact h.submit hi x ht
  | pop => exact h.pop
  | deliver => exact h.deliver hi ht
  | next => exact h.next hi ht

/-- Every call of `next` gives one result. -/
theorem results_length (hi : sourceIndex source = some i) : ∀ (steps : List CodecStep) (w : CodecPath),
    (steps.foldl (step source) w).results.length = w.results.length + steps.countP CodecStep.isNext
  | [], _ => rfl
  | e :: steps, w => by
    rw [List.foldl_cons, results_length hi steps, List.countP_cons]
    cases e with
    | next =>
      rw [step_next hi, List.length_append]
      simp [CodecStep.isNext]
      omega
    | submit => rfl
    | pop => rfl
    | deliver =>
      unfold step
      dsimp only
      split
      · rfl
      · split <;> rfl

/-- The codec frames of complete packets, as they are to be played. -/
def expected (submitted : List CodecSubmit) : List CodecOutput :=
  (submitted.take (2 * (submitted.length / 2))).map (·.outcome)

theorem length_codecFrames (ps : List CodecPacket) : (ps.flatMap (·.codecFrames)).length = ps.length * 2 := by
  simp [List.length_flatMap, CodecPacket.codecFrames]

/-- Two codec frames make a packet. -/
theorem Carries.packets_length (h : Carries source i first w st) : w.submitted.length / 2 = st.packets.length := by
  have hone : st.pending.toList.length ≤ 1 := by cases st.pending <;> simp
  rw [h.submitted, List.length_append, length_codecFrames]
  omega

theorem Carries.results_prefix (h : Carries source i first w st) : w.results <+: expected w.submitted := by
  have htruncated : w.submitted.take (2 * (w.submitted.length / 2)) = st.packets.flatMap (·.codecFrames) := by
    rw [h.packets_length, h.submitted]
    refine List.take_left' ?_
    rw [length_codecFrames, Nat.mul_comm]
  have houtcomes (ps : List CodecPacket) : (ps.flatMap (·.codecFrames)).map (·.outcome) =
      ps.flatMap fun p => [p.first.outcome, p.second.outcome] := by
    rw [List.map_flatMap]
    rfl
  rw [expected, htruncated, houtcomes, h.results, Stages.packets, Stages.pushed]
  simp only [List.flatMap_append, List.append_assoc]
  refine List.prefix_append_right_inj _ |>.2 ?_
  cases st.playing with
  | none => exact List.nil_prefix
  | some p => exact ⟨_, rfl⟩

/-- Every complete packet waits in the capture queue, is in transit, or was pushed. -/
theorem Carries.complete (h : Carries source i first w st) :
    w.submitted.length / 2 = w.pushed + w.transit.length + w.capture.outputQueue.count := by
  rw [h.packets_length, Stages.packets, List.length_append, List.length_append, ← h.pushed, h.transit.length_eq,
    h.waiting.length_eq, LinkQueue.length_toList]

/-- **Main result.** Under every schedule in which no queue overruns and no packet is played before it was
pushed, every call of `next` gives the next codec frame of the complete packets, and where there were as many calls
as such frames they are all given. Every complete packet waits, is in transit or was pushed. -/
theorem codec_frames_survive {c : AudioCapture} (hi : sourceIndex source = some i)
    (hc : AudioCapture.init source first = some c) (steps : List CodecStep)
    (ht : Run.Along (step source) (Timely i) (init c) steps) :
    (steps.foldl (step source) (init c)).results.length = steps.countP CodecStep.isNext ∧
      (steps.foldl (step source) (init c)).results <+: expected (steps.foldl (step source) (init c)).submitted ∧
        (steps.countP CodecStep.isNext = (expected (steps.foldl (step source) (init c)).submitted).length →
          (steps.foldl (step source) (init c)).results = expected (steps.foldl (step source) (init c)).submitted) ∧
          (steps.foldl (step source) (init c)).submitted.length / 2 =
            (steps.foldl (step source) (init c)).pushed + (steps.foldl (step source) (init c)).transit.length +
              (steps.foldl (step source) (init c)).capture.outputQueue.count := by
  have hlength : (steps.foldl (step source) (init c)).results.length = steps.countP CodecStep.isNext := by
    rw [results_length hi]
    exact Nat.zero_add _
  obtain ⟨st, h⟩ : ∃ st, Carries source i first (steps.foldl (step source) (init c)) st :=
    Run.inv_along (step_carries hi) (init c) steps ⟨_, init_carries hc⟩ ht
  exact ⟨hlength, h.results_prefix, fun hall => h.results_prefix.eq_of_length (hlength.trans hall), h.complete⟩

instance (i : Fin 6) (w : CodecPath) : ∀ e, Decidable (w.Timely i e)
  | .submit _ => inferInstanceAs (Decidable (_ → _))
  | .pop => .isTrue trivial
  | .deliver => inferInstanceAs (Decidable (_ → _))
  | .next => inferInstanceAs (Decidable (_ < _))

/-- The frames of the native test (openref_audio_capture_test.c:10-47), the third of which failed. -/
def testSubmit (valid discontinuity : Bool) (b : U8) : CodecStep := .submit ⟨Bytes.filled _ b, valid, discontinuity, 0⟩

/-- They are played as their packets arrive; the sequence number starts at 0xffff and wraps. -/
def testSteps : List CodecStep :=
  [testSubmit true false 1, testSubmit true true 2, .pop, testSubmit false false 3, .deliver, .next,
    testSubmit true false 4, .pop, .next, .deliver, .next, .next]

set_option maxRecDepth 2000 in
theorem codec_frames_survive_wrap : ∃ c, AudioCapture.init 3 0xffff = some c ∧
    (testSteps.foldl (step 3) (init c)).results.map (·.2) = [false, false, true, false] ∧
      (testSteps.foldl (step 3) (init c)).results.length = testSteps.countP CodecStep.isNext ∧
        (testSteps.foldl (step 3) (init c)).results <+: expected (testSteps.foldl (step 3) (init c)).submitted ∧
          (testSteps.countP CodecStep.isNext = (expected (testSteps.foldl (step 3) (init c)).submitted).length →
            (testSteps.foldl (step 3) (init c)).results = expected (testSteps.foldl (step 3) (init c)).submitted) ∧
            (testSteps.foldl (step 3) (init c)).submitted.length / 2 =
              (testSteps.foldl (step 3) (init c)).pushed + (testSteps.foldl (step 3) (init c)).transit.length +
                (testSteps.foldl (step 3) (init c)).capture.outputQueue.count :=
  ⟨_, rfl, by decide +kernel,
    codec_frames_survive (i := 2) rfl (show AudioCapture.init 3 0xffff = some _ from rfl) testSteps (by decide +kernel)⟩

end CodecPath

end OpenRef.Audio
