import Mathlib.Data.List.Chain
import OpenRef.Audio.Outbox
/-!
# Gaps at the receiver (openref_audio_transport.c)

`acceptRx` compares a frame with the one of its source that came in before it, and flags it when its number
is not the next one. The receive queue is filled after that, and a full one drops its oldest frame, which
`overruns` counts and nothing flags: the consumer can then see a gap that is not flagged (`unflagged_gap`).

A receiver is a transport with the list of what left its queue, popped or discarded. Every frame on that
list, and behind it in the queue, follows the one of its source before it or is flagged (`Linked`), so that
each gap among the popped frames that is not flagged is one that an overrun made (`gaps_flagged`).
-/

namespace OpenRef.Audio

/-- `frame.flags & OPENREF_AUDIO_LINK_FLAG_DISCONTINUITY`. -/
def AudioLinkFrame.discontinuous (frame : AudioLinkFrame) : Bool := frame.flags &&& linkFlagDiscontinuity ≠ 0

/-- The second frame is the next one of its source, or says that it is not. -/
def Follows (f g : AudioLinkFrame) : Prop := g.sequence = f.sequence + 1 ∨ g.discontinuous = true

/-- The frames of one source, in their order. -/
def ofSource (sourceId : U8) (frames : List AudioLinkFrame) : List AudioLinkFrame :=
  frames.filter fun frame => frame.sourceId = sourceId

/-! ## What leaves the receive queue -/

/-- A frame leaves the receive queue to the consumer, or because the queue is full. -/
inductive Departure
  | popped (frame : AudioLinkFrame)
  | discarded (frame : AudioLinkFrame)
deriving DecidableEq

namespace Departure

def frame : Departure → AudioLinkFrame
  | popped frame => frame
  | discarded frame => frame

def isDiscarded : Departure → Bool
  | popped _ => false
  | discarded _ => true

end Departure

namespace AudioTransport

/-- What leaves the receive queue in a call; an overrun is one that `overruns` counts. -/
def departures (t : AudioTransport) : TransportCall → List Departure
  | .queue _ => []
  | .prepareTx _ => []
  | .acceptRx wire =>
    if (t.acceptRx wire).1.audioRx.overruns = t.audioRx.overruns then []
    else t.audioRx.toList.head?.toList.map Departure.discarded
  | .popAudio => t.popAudio.2.toList.map Departure.popped

end AudioTransport

/-- The consumer popped two frames of one source with none of that source between them. -/
structure Successive (left : List Departure) (f : AudioLinkFrame) (mid : List Departure) (g : AudioLinkFrame) : Prop where
  departures : ∃ before after, left = before ++ .popped f :: (mid ++ .popped g :: after)
  sameSource : g.sourceId = f.sourceId
  between : ∀ h, .popped h ∈ mid → h.sourceId ≠ f.sourceId

/-- A transport and what left its receive queue so far. -/
structure Receiver where
  transport : AudioTransport
  left : List Departure

namespace Receiver

def init : Receiver := ⟨AudioTransport.init, []⟩

def step (r : Receiver) (c : TransportCall) : Receiver := ⟨(r.transport.call c).1, r.left ++ r.transport.departures c⟩

def run (calls : List TransportCall) : Receiver := calls.foldl step init

/-- Every audio frame that came in, in the order it came in. -/
def line (r : Receiver) : List AudioLinkFrame := r.left.map Departure.frame ++ r.transport.audioRx.toList

end Receiver

/-! ## One call -/

namespace AudioTransport

variable {t : AudioTransport}

/-- A wire leaves the receive queue alone, or puts a frame into it that follows the last one of its source. -/
inductive Received (t t' : AudioTransport) : Prop
  | nothing (hsame : SameRx t t')
  | audio (frame : AudioLinkFrame) (source : Fin 6) (hv : frame.valid = true)
    (hi : sourceIndex frame.sourceId = some source)
    (hf : t.sequenceValid source = true → frame.sequence = t.lastSequence source + 1 ∨ frame.discontinuous = true)
    (hrx : t'.audioRx = (t.audioRx.push frame).1)
    (hvalid : t'.sequenceValid = fun i => if i = source then true else t.sequenceValid i)
    (hlast : t'.lastSequence = fun i => if i = source then frame.sequence else t.lastSequence i)

/-- `frame.flags |= OPENREF_AUDIO_LINK_FLAG_DISCONTINUITY`. -/
def flagged (frame : AudioLinkFrame) : AudioLinkFrame := { frame with flags := frame.flags ||| linkFlagDiscontinuity }

theorem discontinuous_flagged (frame : AudioLinkFrame) : (flagged frame).discontinuous = true := by
  refine decide_eq_true ?_
  intro h
  have hbit : (frame.flags ||| linkFlagDiscontinuity) &&& linkFlagDiscontinuity = linkFlagDiscontinuity := by
    ext i hi
    simp only [BitVec.getElem_and, BitVec.getElem_or]
    cases frame.flags[i] <;> cases linkFlagDiscontinuity[i] <;> rfl
  exact absurd (hbit.symm.trans h) (by decide)

theorem acceptRx_received (t : AudioTransport) (wire : LinkWire) : Received t (t.acceptRx wire).1 := by
  unfold acceptRx
  split
  · exact .nothing ⟨rfl, rfl, rfl⟩
  · next frame hd =>
    split
    · exact .nothing ⟨rfl, rfl, rfl⟩
    · next hk =>
      obtain ⟨hok, rfl⟩ := decode_eq_some.1 hd
      obtain ⟨source, hi⟩ := exists_source hok.valid hk
      rw [hi]
      dsimp only
      split
      · exact .audio (flagged (wireFrame wire)) source hok.valid hi (fun _ => .inr (discontinuous_flagged _)) rfl rfl rfl
      · next hgap =>
        refine .audio (wireFrame wire) source hok.valid hi (fun hs => .inl ?_) rfl rfl rfl
        rw [hs, Bool.true_and, decide_eq_true_eq, not_not] at hgap
        exact hgap

end AudioTransport

/-! ## The frames in the order they came in -/

theorem sourceIndex_injective {a b : U8} {source : Fin 6} (ha : sourceIndex a = some source)
    (hb : sourceIndex b = some source) : a = b := by
  unfold sourceIndex at ha hb
  split at ha
  · split at hb
    · have hs := congrArg Fin.val ((Option.some.inj ha).trans (Option.some.inj hb).symm)
      exact BitVec.eq_of_toNat_eq (by simp only at hs; omega)
    · cases hb
  · cases ha

theorem ofSource_append (sourceId : U8) (frames more : List AudioLinkFrame) :
    ofSource sourceId (frames ++ more) = ofSource sourceId frames ++ ofSource sourceId more := List.filter_append ..

theorem ofSource_cons {sourceId : U8} {frame : AudioLinkFrame} (h : frame.sourceId = sourceId)
    (frames : List AudioLinkFrame) : ofSource sourceId (frame :: frames) = frame :: ofSource sourceId frames :=
  List.filter_cons_of_pos (decide_eq_true h)

theorem ofSource_concat {sourceId : U8} {frame : AudioLinkFrame} (h : frame.sourceId = sourceId)
    (frames : List AudioLinkFrame) : ofSource sourceId (frames ++ [frame]) = ofSource sourceId frames ++ [frame] := by
  rw [ofSource_append, ofSource_cons h]
  rfl

theorem ofSource_concat_other {sourceId : U8} {frame : AudioLinkFrame} (h : frame.sourceId ≠ sourceId)
    (frames : List AudioLinkFrame) : ofSource sourceId (frames ++ [frame]) = ofSource sourceId frames := by
  have hnone : ofSource sourceId [frame] = [] := List.filter_cons_of_neg (by simpa using h)
  rw [ofSource_append, hnone, List.append_nil]

namespace Receiver

variable {r r' : Receiver}

/-- The frames of each source follow one another or are flagged, and the transport knows the last one. -/
structure Linked (r : Receiver) : Prop where
  linked : ∀ sourceId, (ofSource sourceId r.line).IsChain Follows
  last : ∀ sourceId, ∀ frame ∈ (ofSource sourceId r.line).getLast?, ∃ source, sourceIndex sourceId = some source ∧
    r.transport.sequenceValid source = true ∧ r.transport.lastSequence source = frame.sequence
  overruns : r.transport.audioRx.overruns = BitVec.ofNat 32 (r.left.countP Departure.isDiscarded)

theorem init_linked : Linked init where
  linked := fun _ => List.isChain_nil
  last := fun _ _ h => by cases h
  overruns := rfl

theorem Linked.same (h : Linked r) (hline : r'.line = r.line)
    (hvalid : r'.transport.sequenceValid = r.transport.sequenceValid)
    (hlast : r'.transport.lastSequence = r.transport.lastSequence)
    (ho : r'.transport.audioRx.overruns = BitVec.ofNat 32 (r'.left.countP Departure.isDiscarded)) : Linked r' where
  linked := hline ▸ h.linked
  last := by
    rw [hline, hvalid, hlast]
    exact h.last
  overruns := ho

theorem Linked.concat (h : Linked r) (frame : AudioLinkFrame) {source : Fin 6} (hline : r'.line = r.line ++ [frame])
    (hi : sourceIndex frame.sourceId = some source)
    (hf : r.transport.sequenceValid source = true →
      frame.sequence = r.transport.lastSequence source + 1 ∨ frame.discontinuous = true)
    (hvalid : r'.transport.sequenceValid = fun i => if i = source then true else r.transport.sequenceValid i)
    (hlast : r'.transport.lastSequence = fun i => if i = source then frame.sequence else r.transport.lastSequence i)
    (ho : r'.transport.audioRx.overruns = BitVec.ofNat 32 (r'.left.countP Departure.isDiscarded)) : Linked r' where
  linked := by
    intro sourceId
    rw [hline]
    by_cases hs : frame.sourceId = sourceId
    · rw [ofSource_concat hs]
      refine List.isChain_append.2 ⟨h.linked sourceId, List.isChain_singleton _, ?_⟩
      intro before hb _ hy
      cases Option.some.inj hy
      obtain ⟨source', hi', hv, hl⟩ := h.last sourceId before hb
      rw [← hs, hi] at hi'
      cases hi'
      rw [Follows, ← hl]
      exact hf hv
    · rw [ofSource_concat_other hs]
      exact h.linked sourceId
  last := by
    intro sourceId last hm
    rw [hline] at hm
    rw [hvalid, hlast]
    by_cases hs : frame.sourceId = sourceId
    · rw [ofSource_concat hs, List.getLast?_concat] at hm
      cases Option.some.inj hm
      exact ⟨source, hs ▸ hi, if_pos rfl, if_pos rfl⟩
    · rw [ofSource_concat_other hs] at hm
      obtain ⟨source', hi', hv, hl⟩ := h.last sourceId last hm
      have hne : source' ≠ source := by
        rintro rfl
        exact hs (sourceIndex_injective hi hi')
      exact ⟨source', hi', (if_neg hne).trans hv, (if_neg hne).trans hl⟩
  overruns := ho

theorem Linked.acceptRx (h : Linked r) (wire : LinkWire) : Linked (r.step (.acceptRx wire)) := by
  cases r.transport.acceptRx_received wire with
  | nothing hsame =>
    have hleft : (r.step (.acceptRx wire)).left = r.left := by
      change r.left ++ (if _ then _ else _) = _
      rw [hsame.audioRx, if_pos rfl, List.append_nil]
    have hrx : (r.step (.acceptRx wire)).transport.audioRx = r.transport.audioRx := hsame.audioRx
    refine h.same ?_ hsame.sequenceValid hsame.lastSequence ?_
    · rw [line, hleft, hrx, line]
    · rw [hleft, hrx, h.overruns]
  | audio frame source hv hi hf hrx hvalid hlast =>
    have hrx' : (r.step (.acceptRx wire)).transport.audioRx = (r.transport.audioRx.push frame).1 := hrx
    have hleft' : (r.step (.acceptRx wire)).left = r.left ++ r.transport.departures (.acceptRx wire) := rfl
    rcases r.transport.audioRx.push_cases frame with ⟨hno, -⟩ | ⟨-, -, ⟨-, hq, ho⟩ | ⟨oldest, rest, -, hl, hq, ho⟩⟩
    · exact absurd (hv.symm.trans hno) Bool.noConfusion
    · have hleft : (r.step (.acceptRx wire)).left = r.left := by
        rw [hleft', AudioTransport.departures, hrx, ho, if_pos rfl, List.append_nil]
      refine h.concat frame ?_ hi hf hvalid hlast ?_
      · rw [line, hleft, hrx', hq, line, List.append_assoc]
      · rw [hleft, hrx', ho, h.overruns]
    · have hleft : (r.step (.acceptRx wire)).left = r.left ++ [.discarded oldest] := by
        rw [hleft', AudioTransport.departures, hrx, ho, if_neg (counter_ne _), hl]
        rfl
      refine h.concat frame ?_ hi hf hvalid hlast ?_
      · rw [line, hleft, hrx', hq, line, hl]
        simp [Departure.frame]
      · rw [hleft, hrx', ho, h.overruns, List.countP_append, BitVec.ofNat_add]
        rfl

theorem Linked.popAudio (h : Linked r) : Linked (r.step .popAudio) := by
  have hrx : (r.step .popAudio).transport.audioRx = r.transport.audioRx.pop.1 := rfl
  have hleft' : (r.step .popAudio).left = r.left ++ r.transport.audioRx.pop.2.toList.map Departure.popped := rfl
  rcases r.transport.audioRx.pop_cases with ⟨-, hq, hnone⟩ | ⟨oldest, hl, hsome, ho⟩
  · have hleft : (r.step .popAudio).left = r.left := by
      rw [hleft', hnone, Option.toList_none, List.map_nil, List.append_nil]
    refine h.same ?_ rfl rfl ?_
    · rw [line, hleft, hrx, hq, line]
    · rw [hleft, hrx, hq, h.overruns]
  · have hleft : (r.step .popAudio).left = r.left ++ [.popped oldest] := by
      rw [hleft', hsome]
      rfl
    refine h.same ?_ rfl rfl ?_
    · rw [line, hleft, hrx, line, hl]
      simp [Departure.frame]
    · rw [hleft, hrx, ho, h.overruns, List.countP_append]
      rfl

theorem Linked.step (h : Linked r) (c : TransportCall) : Linked (r.step c) := by
  have hsame {t' : AudioTransport} (hs : AudioTransport.SameRx r.transport t') : Linked ⟨t', r.left ++ []⟩ := by
    rw [List.append_nil]
    refine h.same ?_ hs.sequenceValid hs.lastSequence ?_
    · rw [line, line, hs.audioRx]
    · rw [← h.overruns, hs.audioRx]
  cases c with
  | queue frame => exact hsame (r.transport.queue_queued frame).2
  | prepareTx timestampUs =>
    obtain ⟨_, -, -, hs, -⟩ := r.transport.prepareTx_prepared timestampUs
    exact hsame hs
  | acceptRx wire => exact h.acceptRx wire
  | popAudio => exact h.popAudio

theorem run_linked (calls : List TransportCall) : Linked (run calls) := by
  have hstep : ∀ r c, Linked r → Linked (step r c) := fun _ c h => h.step c
  exact Run.inv_run hstep init_linked calls

end Receiver

/-! ## What the consumer sees -/

/-- **Main result: every gap that no overrun made is flagged.** Whenever two frames of a source that are
popped one after the other have numbers that do not follow, the second one is flagged, or the full queue
discarded a frame of that source between them; `overruns` counts what was discarded. -/
theorem gaps_flagged (calls : List TransportCall) :
    (∀ f mid g, Successive (Receiver.run calls).left f mid g → g.sequence ≠ f.sequence + 1 →
      g.discontinuous = true ∨ ∃ h, .discarded h ∈ mid ∧ h.sourceId = f.sourceId) ∧
    (Receiver.run calls).transport.audioRx.overruns =
      BitVec.ofNat 32 ((Receiver.run calls).left.countP Departure.isDiscarded) := by
  have hrun := Receiver.run_linked calls
  refine ⟨fun f mid g hs hgap => ?_, hrun.overruns⟩
  obtain ⟨before, after, hleft⟩ := hs.departures
  by_cases hd : ∃ h, .discarded h ∈ mid ∧ h.sourceId = f.sourceId
  · exact .inr hd
  · have hmid : ofSource f.sourceId (mid.map Departure.frame) = [] := by
      refine List.filter_eq_nil_iff.2 fun h hm hh => ?_
      obtain ⟨departure, hdm, rfl⟩ := List.mem_map.1 hm
      cases departure with
      | popped frame => exact hs.between frame hdm (of_decide_eq_true hh)
      | discarded frame => exact hd ⟨frame, hdm, of_decide_eq_true hh⟩
    have hline : (Receiver.run calls).line = before.map Departure.frame ++ f :: (mid.map Departure.frame ++
        g :: (after.map Departure.frame ++ (Receiver.run calls).transport.audioRx.toList)) := by
      rw [Receiver.line, hleft]
      simp [Departure.frame]
    have hchain := hrun.linked f.sourceId
    rw [hline, ofSource_append, ofSource_cons rfl, ofSource_append, hmid, List.nil_append,
      ofSource_cons hs.sameSource] at hchain
    exact .inl ((List.isChain_append_cons_cons.1 hchain).2.1.resolve_left hgap)

/-- A voice frame of the first source. -/
def voiceFrame (sequence : U16) : AudioLinkFrame := ⟨linkLocalAudio, 1, 0, sequence, 0, 0, Bytes.zero _⟩

/-- One frame is popped, then five come in before the next one is. -/
def lateConsumer : List TransportCall :=
  [.acceptRx (voiceFrame 1).wire, .popAudio, .acceptRx (voiceFrame 2).wire, .acceptRx (voiceFrame 3).wire,
    .acceptRx (voiceFrame 4).wire, .acceptRx (voiceFrame 5).wire, .acceptRx (voiceFrame 6).wire, .popAudio]

set_option maxRecDepth 4000 in
/-- Frame 3 is popped after frame 1, and no flag says that frame 2 is missing. -/
theorem unflagged_gap : ¬ ∀ (calls : List TransportCall) (f : AudioLinkFrame) (mid : List Departure)
    (g : AudioLinkFrame), Successive (Receiver.run calls).left f mid g → g.sequence ≠ f.sequence + 1 →
      g.discontinuous = true := by
  intro h
  have hleft : (Receiver.run lateConsumer).left =
      [.popped (voiceFrame 1), .discarded (voiceFrame 2), .popped (voiceFrame 3)] := by decide +kernel
  have hgap : Successive (Receiver.run lateConsumer).left (voiceFrame 1) [.discarded (voiceFrame 2)] (voiceFrame 3) :=
    ⟨⟨[], [], hleft⟩, rfl, fun _ hm => by simp at hm⟩
  exact absurd (h lateConsumer _ _ _ hgap (by decide)) (by decide)

end OpenRef.Audio
