import Mathlib.Data.List.Chain
import Mathlib.Data.List.Forall2
import Mathlib.Tactic.LinearCombination
import OpenRef.Audio.Halves
import OpenRef.Lib.Run
/-!
# Playout plays what it took, in order, once

The packets of one source carry an index whose low 16 bits are the sequence number.
Beside the calls of `push` and `next` runs a history: the indices of the queued packets
and of the due one, the packets that were taken, and what each `next` loaded and wrote.

`playout_delivers`: as long as every pushed index is less than 2^14 from the one taken last and
from the due one, whatever is heard is half of a packet that was taken, in the order
of indices and halves; a packet that is loaded is played in two calls that follow each
other; every call is counted, and every packet taken is loaded, dropped, discarded or
queued.
-/

namespace OpenRef.Audio

/-- A packet of the source with its index. -/
structure IndexedPacket (sourceId : U8) where
  index : Nat
  frame : AudioLinkFrame
  remote : frame.kind = linkRemoteAudio
  source : frame.sourceId = sourceId
  numbered : frame.sequence = BitVec.ofNat 16 index

/-- What the ring keeps of a packet. -/
def IndexedPacket.entry {sourceId : U8} (p : IndexedPacket sourceId) : PlayoutPacket :=
  ⟨p.frame.sequence, p.frame.flags, p.frame.payload⟩

/-- A call of `next`: the packet that it loaded, and what it wrote. -/
structure NextCall where
  loaded : Option PlayoutPacket
  output : CodecOutput
deriving DecidableEq

/-- A call. -/
inductive PlayoutCall (sourceId : U8)
  | push (p : IndexedPacket sourceId)
  | next

/-- Playout beside what is known of the source's packets. -/
structure PlayoutHistory (sourceId : U8) where
  playout : AudioPlayout
  queued : List (IndexedPacket sourceId)
  due : Option Nat
  accepted : List (IndexedPacket sourceId)
  calls : List NextCall
  discarded : Nat

namespace PlayoutHistory

variable {sourceId : U8} (i : Fin 6)

def init : PlayoutHistory sourceId := ⟨AudioPlayout.init, [], none, [], [], 0⟩

/-- A call of `next` in the history. -/
def record (m : PlayoutHistory sourceId) (playout : AudioPlayout) (before after : PlayoutSource)
    (output : Option CodecOutput) : PlayoutHistory sourceId :=
  { m with
    playout := playout
    queued := m.queued.rtake after.entries.count
    due := (m.due.or (m.queued.head?.map (·.index))).map fun d => if before.currentHalf = 0 then d else d + 1
    calls := m.calls ++
      output.toList.map (⟨if before.currentHalf = 0 && after.currentLoaded then some after.current else none, ·⟩)
    discarded := m.discarded + (after.stale - before.stale).toNat }

/-- One call. -/
def step (m : PlayoutHistory sourceId) : PlayoutCall sourceId → PlayoutHistory sourceId
  | .push p =>
    let r := m.playout.push p.frame
    if r.2 then
      { m with
        playout := r.1
        queued := (m.queued ++ [p]).rtake playoutQueueCapacity
        accepted := m.accepted ++ [p] }
    else { m with playout := r.1 }
  | .next =>
    let r := m.playout.next sourceId
    m.record r.1 (m.playout i) (r.1 i) r.2

/-- Less than 2^14 apart. -/
def Close (a b : Nat) : Prop := a < b + 2 ^ 14 ∧ b < a + 2 ^ 14

/-- A pushed packet is close to the one taken last and to the due one. -/
def Near (m : PlayoutHistory sourceId) : PlayoutCall sourceId → Prop
  | .push p => (∀ q ∈ m.accepted.getLast?, Close p.index q.index) ∧ ∀ d ∈ m.due, Close p.index d
  | .next => True

/-! ## What is delivered -/

/-- The calls of `next` that were not PLC. -/
def heard (m : PlayoutHistory sourceId) : List NextCall := m.calls.filter fun c => !c.output.2

/-- The calls of `next` that loaded a packet. -/
def loads (m : PlayoutHistory sourceId) : Nat := m.calls.countP fun c => c.loaded.isSome

/-- The call plays this half of this packet, whose flag is set. -/
def Plays (m : PlayoutHistory sourceId) (c : NextCall) (h : IndexedPacket sourceId × Fin 2) : Prop :=
  h.1 ∈ m.accepted ∧ h.1.frame.flags &&& halfFlag h.2 ≠ 0 ∧
    c.output.1 = PlayoutSource.codecFrame h.1.frame.payload h.2

/-- In the order of packets and halves. -/
def Before (g h : IndexedPacket sourceId × Fin 2) : Prop := g.1.index < h.1.index ∨ g.1.index = h.1.index ∧ g.2 < h.2

/-- What was loaded in one call is played on in the next. -/
def Follows (c c' : NextCall) : Prop := ∀ p ∈ c.loaded, c'.loaded = none ∧ c'.output = p.half 1

variable (m : PlayoutHistory sourceId) (s : PlayoutSource)

/-- What the calls keep of the queue, of the due packet, of a loaded packet and of the counters. -/
structure Tallies : Prop where
  queued : s.entries.toList = m.queued.map (·.entry)
  due : s.expectedValid = m.due.isSome ∧ ∀ d ∈ m.due, s.expectedSequence = BitVec.ofNat 16 d
  first : ∀ c ∈ m.calls, ∀ p ∈ c.loaded, c.output = p.half 0
  second : List.IsChain Follows m.calls
  counted : s.deliveredFrames + s.plcFrames = BitVec.ofNat 32 m.calls.length
  taken : s.accepted = BitVec.ofNat 32 m.accepted.length
  conserved : s.accepted = BitVec.ofNat 32 (m.loads + m.discarded + m.queued.length) + s.overruns

/-- **What playout does with the packets it takes.** -/
structure Delivers : Prop extends Tallies m s where
  heard : ∃ halves, List.Forall₂ m.Plays m.heard halves ∧ halves.Pairwise Before

/-- The queue is in order and not far from the due packet, which is after all that was heard. -/
structure Ordered : Prop extends Tallies m s where
  chain : m.queued.IsChain fun p q => p.index < q.index ∧ q.index < p.index + 2 ^ 14
  last : ∀ q ∈ m.queued.getLast?, m.accepted.getLast? = some q
  mem : ∀ q ∈ m.queued, q ∈ m.accepted
  lower : ∀ d ∈ m.due, ∀ q ∈ m.queued, d + s.currentHalf.val ≤ q.index + 1
  upper : ∀ d ∈ m.due, ∀ q ∈ m.queued.head?, q.index < d + 2 ^ 14
  start : m.due = none → s.currentHalf = 0
  current : s.currentLoaded = true →
    s.currentHalf = 1 ∧ ∃ p ∈ m.accepted, m.due = some p.index ∧ s.current = p.entry
  past : ∃ halves, List.Forall₂ m.Plays m.heard halves ∧ halves.Pairwise Before ∧
    ∀ h ∈ halves, ∃ d ∈ m.due, h.1.index < d ∨ h.1.index = d ∧ h.2 < s.currentHalf
  link : ∀ c ∈ m.calls.getLast?, ∀ p ∈ c.loaded, s.currentLoaded = true ∧ s.currentHalf = 1 ∧ s.current = p

variable {m s}

theorem Ordered.delivers (h : Ordered m s) : Delivers m s := by
  obtain ⟨halves, hplays, hbefore, -⟩ := h.past
  exact ⟨h.toTallies, halves, hplays, hbefore⟩

/-- In order. -/
theorem Ordered.sorted (h : Ordered m s) : m.queued.Pairwise fun p q => p.index < q.index :=
  List.isChain_iff_pairwise.1 (h.chain.imp fun _ _ hpq => hpq.1)

variable {i}

/-! ## Indices -/

theorem toInt_sub {a b : Nat} (hab : a < b + 2 ^ 15) (hba : b < a + 2 ^ 15) :
    (BitVec.ofNat 16 a - BitVec.ofNat 16 b).toInt = (a : Int) - b := by
  have h := Serial.toInt_position_sub (0 : U16) (j := a) (k := b) (by omega) (by omega)
  rwa [Serial.position, Serial.position, zero_add, zero_add] at h

/-- Close packets are in the order of their sequence numbers. -/
theorem after_iff_lt {a b : Nat} (hab : a < b + 2 ^ 15) (hba : b < a + 2 ^ 15) :
    sequenceAfter (BitVec.ofNat 16 a) (BitVec.ofNat 16 b) = true ↔ b < a := by
  rw [sequenceAfter_iff, toInt_sub hab hba]
  omega

/-! ## Push -/

/-- A packet that is taken is after the queue, and not behind the due packet. -/
theorem Ordered.accepted_after (h : Ordered m s) {p : IndexedPacket sourceId} (hnear : m.Near (.push p))
    (ha : PlayoutSource.Accepts s p.frame.sequence) :
    (∀ d ∈ m.due, d ≤ p.index ∧ p.index < d + 2 ^ 14) ∧
      (∀ q ∈ m.queued.getLast?, q.index < p.index ∧ p.index < q.index + 2 ^ 14) ∧
      ∀ q ∈ m.queued, q.index < p.index := by
  obtain ⟨hlast, hdue⟩ := hnear
  have htail (q : IndexedPacket sourceId) (hq : q ∈ m.queued.getLast?) :
      q.index < p.index ∧ p.index < q.index + 2 ^ 14 := by
    obtain ⟨h1, h2⟩ := hlast q (h.last q hq)
    have hentry : s.entries.toList.getLast? = some q.entry := by
      rw [h.queued, List.getLast?_map, Option.mem_def.1 hq]
      rfl
    have hafter := ha.afterTail _ hentry
    rw [IndexedPacket.entry, q.numbered, p.numbered, after_iff_lt (by omega) (by omega)] at hafter
    exact ⟨hafter, h1⟩
  refine ⟨fun d hd => ?_, htail, fun q hq => ?_⟩
  · obtain ⟨h1, h2⟩ := hdue d hd
    refine ⟨?_, h1⟩
    have hv : s.expectedValid = true := by rw [h.due.1, Option.mem_def.1 hd]; rfl
    rcases ha.notStale hv with he | he <;> rw [h.due.2 d hd, p.numbered] at he
    · have hzero := toInt_sub (a := p.index) (b := d) (by omega) (by omega)
      rw [he, BitVec.sub_self, BitVec.toInt_zero] at hzero
      omega
    · exact Nat.le_of_lt ((after_iff_lt (by omega) (by omega)).1 he)
  · obtain ⟨front, last, hl⟩ := List.eq_nil_or_concat m.queued |>.resolve_left (List.ne_nil_of_mem hq)
    have hmem : last ∈ m.queued.getLast? := by rw [hl, List.concat_eq_append, List.getLast?_concat]; rfl
    have hlt := (htail last hmem).1
    rw [hl, List.concat_eq_append, List.mem_append, List.mem_singleton] at hq
    rcases hq with hq | rfl
    · have hsorted := h.sorted
      rw [hl, List.concat_eq_append] at hsorted
      exact Nat.lt_trans ((List.pairwise_append.1 hsorted).2.2 q hq last (List.mem_singleton.2 rfl)) hlt
    · exact hlt

theorem rtake_capacity {α : Type*} (l : List α) (a : α) (hl : l.length ≤ playoutQueueCapacity) :
    (l ++ [a]).rtake playoutQueueCapacity = if l.length = playoutQueueCapacity then l.tail ++ [a] else l ++ [a] := by
  rw [List.rtake, List.length_append, List.length_singleton]
  split
  · next hfull =>
    rw [hfull, Nat.add_sub_cancel_left, List.drop_one]
    cases l with
    | nil => cases hfull
    | cons b l => rfl
  · rw [Nat.sub_eq_zero_of_le (by omega), List.drop_zero]

/-- The queue still starts near the due packet: with its old front, the one behind it, or the new packet. -/
theorem Ordered.push_upper (h : Ordered m s) {p : IndexedPacket sourceId} {d : Nat}
    (hle : m.queued.length ≤ playoutQueueCapacity) (hd : d ∈ m.due) (hlt : p.index < d + 2 ^ 14)
    (hbelow : ∀ r ∈ m.queued, r.index < p.index) :
    ∀ q ∈ ((m.queued ++ [p]).rtake playoutQueueCapacity).head?, q.index < d + 2 ^ 14 := by
  intro q hq
  rw [rtake_capacity _ _ hle] at hq
  split at hq
  · cases htail : m.queued.tail with
    | nil =>
      rw [htail, List.nil_append, List.head?_cons, Option.mem_some_iff] at hq
      exact hq ▸ hlt
    | cons r rest =>
      rw [htail, List.cons_append, List.head?_cons, Option.mem_some_iff] at hq
      have hr : r ∈ m.queued := List.mem_of_mem_tail (htail ▸ List.mem_cons_self)
      exact hq ▸ (hbelow r hr).trans hlt
  · cases hqueued : m.queued with
    | nil =>
      rw [hqueued, List.nil_append, List.head?_cons, Option.mem_some_iff] at hq
      exact hq ▸ hlt
    | cons r rest =>
      rw [hqueued, List.cons_append, List.head?_cons, Option.mem_some_iff] at hq
      exact h.upper d hd q (by rw [hqueued, List.head?_cons, hq]; rfl)

/-- **Step: `push`.** -/
theorem Ordered.push (h : Ordered m s) {p : IndexedPacket sourceId} (hnear : m.Near (.push p))
    (playout : AudioPlayout) :
    Ordered (if (s.push p.frame).2 then
      { m with
        playout := playout
        queued := (m.queued ++ [p]).rtake playoutQueueCapacity
        accepted := m.accepted ++ [p] }
      else { m with playout := playout }) (s.push p.frame).1 := by
  obtain ⟨hacc, hover, hdel, hplc⟩ := s.push_counters p.frame
  rcases PlayoutSource.push_cases s p.frame with ⟨ha, a, o, hpush⟩ | ⟨-, d, st, hpush⟩
  · obtain ⟨hdue, htail, hbelow⟩ := h.accepted_after hnear ha
    have hlen : m.queued.length = s.entries.count := by
      rw [← s.entries.length_toList, h.queued, List.length_map]
    have hle : m.queued.length ≤ playoutQueueCapacity := hlen ▸ s.entries.count_le
    rw [hpush] at hacc hover hdel hplc ⊢
    dsimp only at hacc hover hdel hplc
    rw [if_pos rfl]
    have hsub : ∀ q ∈ (m.queued ++ [p]).rtake playoutQueueCapacity, q ∈ m.queued ∨ q = p := by
      intro q hq
      rcases List.mem_append.1 (List.mem_of_mem_drop hq) with hq | hq
      · exact .inl hq
      · exact .inr (List.mem_singleton.1 hq)
    have hchain : (m.queued ++ [p]).IsChain fun p q => p.index < q.index ∧ q.index < p.index + 2 ^ 14 := by
      refine List.isChain_append.2 ⟨h.chain, .singleton p, fun q hq r hr => ?_⟩
      rw [List.head?_cons, Option.mem_some_iff] at hr
      exact hr ▸ htail q hq
    refine ⟨⟨?_, h.due, h.first, h.second, ?_, ?_, ?_⟩, ?_, ?_, ?_, ?_, ?_, h.start, ?_, ?_, h.link⟩
    · change (s.entries.pushDropping _).toList = _
      rw [RingBuffer.toList_pushDropping, h.queued, List.rtake, List.rtake, List.map_drop, List.map_append,
        List.length_append, List.length_append, List.length_map]
      rfl
    · exact h.counted
    · change a = _
      rw [hacc, h.taken, if_pos rfl, List.length_append, BitVec.ofNat_add]
      rfl
    · change a = BitVec.ofNat 32 (m.loads + m.discarded + ((m.queued ++ [p]).rtake _).length) + o
      rw [hacc, hover, h.conserved, rtake_capacity _ _ hle, hlen, if_pos rfl, Bool.true_and]
      by_cases hfull : s.entries.count = playoutQueueCapacity
      · rw [if_pos hfull, if_pos (decide_eq_true hfull), List.length_append, List.length_tail, hlen, hfull,
          BitVec.add_assoc]
        rfl
      · rw [if_neg hfull, if_neg (by simpa using hfull), List.length_append, hlen, add_zero, add_right_comm,
          ← Nat.add_assoc, BitVec.ofNat_add (m.loads + m.discarded + s.entries.count)]
        rfl
    · exact hchain.suffix (List.drop_suffix _ _)
    · intro q hq
      rw [rtake_capacity _ _ hle] at hq
      have hqp : p = q := by split at hq <;> simpa using hq
      rw [← hqp, List.getLast?_concat]
    · intro q hq
      rcases hsub q hq with hq | rfl
      · exact List.mem_append_left _ (h.mem q hq)
      · exact List.mem_append_right _ (List.mem_singleton.2 rfl)
    · intro d hd q hq
      have hhalf := s.currentHalf.isLt
      rcases hsub q hq with hq | rfl
      · exact h.lower d hd q hq
      · have hle := (hdue d hd).1
        change d + s.currentHalf.val ≤ _
        omega
    · exact fun d hd => h.push_upper hle hd (hdue d hd).2 hbelow
    · intro hl
      obtain ⟨hh, q, hq, hd, hc⟩ := h.current hl
      exact ⟨hh, q, List.mem_append_left _ hq, hd, hc⟩
    · obtain ⟨halves, hplays, hbefore, hpast⟩ := h.past
      exact ⟨halves, hplays.imp fun _ _ hp => ⟨List.mem_append_left _ hp.1, hp.2⟩, hbefore, hpast⟩
  · rw [hpush]
    exact ⟨⟨h.queued, h.due, h.first, h.second, h.counted, h.taken, h.conserved⟩, h.chain, h.last, h.mem, h.lower,
      h.upper, h.start, h.current, h.past, h.link⟩

/-! ## Next -/

theorem behind_iff (h : Ordered m s) {d : Nat} (hd : m.due = some d) {q : IndexedPacket sourceId}
    (hlow : d ≤ q.index + 1) (hup : q.index < d + 2 ^ 14) : s.behind q.entry = true ↔ q.index < d := by
  unfold PlayoutSource.behind PlayoutSource.offset IndexedPacket.entry
  rw [decide_eq_true_iff, q.numbered, h.due.2 d hd, toInt_sub (by omega) (by omega)]
  omega

/-- What is not behind the due packet: the end of the queue, from a packet that is close. -/
theorem Ordered.dropWhile_behind (h : Ordered m s) {d : Nat} (hd : m.due = some d) (hh : s.currentHalf = 0) :
    (m.queued.dropWhile fun q => s.behind q.entry) <:+ m.queued ∧
      (∀ q ∈ m.queued.dropWhile (fun q => s.behind q.entry), d ≤ q.index) ∧
        ∀ q ∈ (m.queued.dropWhile fun q => s.behind q.entry).head?, q.index < d + 2 ^ 14 := by
  have hlow : ∀ q ∈ m.queued, d ≤ q.index + 1 := by
    intro q hq
    have := h.lower d hd q hq
    rwa [hh] at this
  have hup := h.upper d hd
  have hchain := h.chain
  have hsorted := h.sorted
  refine ⟨List.dropWhile_suffix _, ?_⟩
  cases hqueued : m.queued with
  | nil => exact ⟨nofun, nofun⟩
  | cons x l =>
    rw [hqueued] at hlow hup hchain hsorted
    have hx := behind_iff h hd (hlow x List.mem_cons_self) (hup x rfl)
    by_cases hlt : x.index < d
    · -- the front has just missed its time, and the packet after it has not
      rw [List.dropWhile_cons, if_pos (hx.2 hlt)]
      cases l with
      | nil => exact ⟨nofun, nofun⟩
      | cons y l =>
        obtain ⟨hxy, -⟩ := List.isChain_cons_cons.1 hchain
        have hxlow := hlow x List.mem_cons_self
        have hy := behind_iff h hd (hlow y (by simp)) (by omega)
        rw [List.dropWhile_cons, if_neg fun hb => by have := hy.1 hb; omega]
        refine ⟨fun q hq => ?_, fun q hq => ?_⟩
        · rcases List.mem_cons.1 hq with rfl | hq
          · omega
          · have := (List.pairwise_cons.1 (List.pairwise_cons.1 hsorted).2).1 q hq
            omega
        · rw [List.head?_cons, Option.mem_some_iff] at hq
          rw [← hq]
          omega
    · rw [List.dropWhile_cons, if_neg fun hb => hlt (hx.1 hb)]
      refine ⟨fun q hq => ?_, hup⟩
      rcases List.mem_cons.1 hq with rfl | hq
      · omega
      · have := (List.pairwise_cons.1 hsorted).1 q hq
        omega

theorem rtake_suffix {α : Type*} {l rest : List α} (h : rest <:+ l) : l.rtake rest.length = rest := by
  obtain ⟨front, rfl⟩ := h
  rw [List.rtake, List.length_append, Nat.add_sub_cancel, List.drop_left]

/-- The counters of what is discarded. -/
theorem ofNat_discarded {stale st : U32} {c c' : Nat} (n k : Nat)
    (h : st + BitVec.ofNat 32 c' = stale + BitVec.ofNat 32 c) :
    BitVec.ofNat 32 (n + (k + (st - stale).toNat) + c') = BitVec.ofNat 32 (n + k + c) := by
  rw [BitVec.ofNat_add, BitVec.ofNat_add, BitVec.ofNat_add, BitVec.ofNat_add, BitVec.ofNat_add, BitVec.ofNat_toNat,
    BitVec.setWidth_eq]
  linear_combination h

/-- What a call of `next` adds to what was heard. -/
theorem Ordered.past_concat (h : Ordered m s) {m' : PlayoutHistory sourceId} {c : NextCall} {half : Fin 2} {d : Nat}
    (hd : m.due = some d) (hacc : m'.accepted = m.accepted) (hcalls : m'.calls = m.calls ++ [c])
    (hc : c.output.2 = false → ∃ p ∈ m.accepted, p.index = d ∧ c.output = p.entry.half s.currentHalf)
    (hnext : ∀ h : IndexedPacket sourceId × Fin 2, h.1.index < d ∨ h.1.index = d ∧ h.2 ≤ s.currentHalf →
      ∃ d' ∈ m'.due, h.1.index < d' ∨ h.1.index = d' ∧ h.2 < half) :
    ∃ halves, List.Forall₂ m'.Plays m'.heard halves ∧ halves.Pairwise Before ∧
      ∀ h ∈ halves, ∃ d ∈ m'.due, h.1.index < d ∨ h.1.index = d ∧ h.2 < half := by
  obtain ⟨halves, hplays, hbefore, hpast⟩ := h.past
  have hplays' : List.Forall₂ m'.Plays m.heard halves := hplays.imp fun _ _ hp => ⟨hacc ▸ hp.1, hp.2⟩
  have hpast' : ∀ h ∈ halves, h.1.index < d ∨ h.1.index = d ∧ h.2 < s.currentHalf := by
    intro h hh
    obtain ⟨d', hd', hlt⟩ := hpast h hh
    rw [hd, Option.mem_some_iff] at hd'
    exact hd' ▸ hlt
  have hkeep : ∀ h ∈ halves, ∃ d ∈ m'.due, h.1.index < d ∨ h.1.index = d ∧ h.2 < half := fun h hh =>
    hnext h ((hpast' h hh).imp id fun he => ⟨he.1, he.2.le⟩)
  have hheard : m'.heard = m.heard ++ if c.output.2 then [] else [c] := by
    unfold PlayoutHistory.heard
    rw [hcalls, List.filter_append]
    cases ho : c.output.2 <;> simp [ho]
  cases ho : c.output.2 with
  | true =>
    rw [hheard, ho, if_pos rfl, List.append_nil]
    exact ⟨halves, hplays', hbefore, hkeep⟩
  | false =>
    obtain ⟨p, hp, hpd, hhalf⟩ := hc ho
    rw [hheard, ho, if_neg Bool.false_ne_true]
    obtain ⟨hflag, hframe⟩ := PlayoutPacket.half_heard (hhalf ▸ ho)
    refine ⟨halves ++ [(p, s.currentHalf)], List.rel_append hplays' (.cons ⟨hacc ▸ hp, hflag, ?_⟩ .nil),
      List.pairwise_append.2 ⟨hbefore, List.pairwise_singleton _ _, fun g hg k hk => ?_⟩, fun g hg => ?_⟩
    · rw [hhalf]
      exact hframe
    · rw [List.mem_singleton.1 hk]
      exact (hpast' g hg).imp (fun hlt => hpd ▸ hlt) fun he => ⟨he.1.trans hpd.symm, he.2⟩
    · rcases List.mem_append.1 hg with hg | hg
      · exact hkeep g hg
      · rw [List.mem_singleton.1 hg]
        exact hnext _ (.inr ⟨hpd, le_refl _⟩)

/-- A call of `next` follows the one before. -/
theorem Ordered.follows (h : Ordered m s) {c : NextCall} (hc : s.currentHalf = 0 ∨
    c.loaded = none ∧ c.output = if s.currentLoaded then s.current.half 1 else silence) :
    List.IsChain Follows (m.calls ++ [c]) := by
  refine List.isChain_append.2 ⟨h.second, .singleton c, fun e he e' he' p hp => ?_⟩
  rw [List.head?_cons, Option.mem_some_iff] at he'
  obtain ⟨hl, hh, hcur⟩ := h.link e he p hp
  rcases hc with h0 | ⟨hnone, hout⟩
  · rw [hh] at h0
    cases h0
  · rw [← he', hnone, hout, if_pos hl, hcur]
    exact ⟨rfl, rfl⟩

/-- The first half of a packet's time, whether the packet was there or not: `rest` is what stays queued. -/
theorem Ordered.load (h : Ordered m s) {d : Nat} (hd : m.due = some d) (hh : s.currentHalf = 0)
    (loaded : Bool) (c : PlayoutPacket) {r : RingBuffer PlayoutPacket playoutQueueCapacity} {st dl pl : U32}
    {rest : List (IndexedPacket sourceId)} (hrest : rest <:+ m.queued) (hr : r.toList = rest.map (·.entry))
    (hlow : ∀ q ∈ rest, d ≤ q.index) (hup : ∀ q ∈ rest.head?, q.index < d + 2 ^ 14)
    (hst : st + BitVec.ofNat 32 (r.count + if loaded then 1 else 0) = s.stale + BitVec.ofNat 32 s.entries.count)
    (hc : loaded = true → ∃ p ∈ m.accepted, p.index = d ∧ c = p.entry)
    (hdp : dl + pl = s.deliveredFrames + s.plcFrames + 1) (playout : AudioPlayout) :
    let after : PlayoutSource := { s with
      entries := r, stale := st, currentLoaded := loaded, current := c, deliveredFrames := dl, plcFrames := pl
      currentHalf := 1 }
    Ordered (m.record playout s after (some (if loaded then c.half 0 else silence))) after := by
  intro after
  have hlen : m.queued.length = s.entries.count := by
    rw [← s.entries.length_toList, h.queued, List.length_map]
  have hcount : r.count = rest.length := by rw [← r.length_toList, hr, List.length_map]
  have hqueued : m.queued.rtake r.count = rest := hcount ▸ rtake_suffix hrest
  have hdue : (m.record playout s after (some (if loaded then c.half 0 else silence))).due = some d := by
    simp [record, hd, hh]
  have hcalls : (m.record playout s after (some (if loaded then c.half 0 else silence))).calls =
      m.calls ++ [⟨if loaded then some c else none, if loaded then c.half 0 else silence⟩] := by
    simp [record, hh, after]
  generalize hm : m.record playout s after (some (if loaded then c.half 0 else silence)) = m' at hdue hcalls ⊢
  have hqueued' : m'.queued = rest := by rw [← hm]; exact hqueued
  have hacc : m'.accepted = m.accepted := by rw [← hm]; rfl
  have hdisc : m'.discarded = m.discarded + (st - s.stale).toNat := by rw [← hm]; rfl
  have hloads : m'.loads = m.loads + if loaded then 1 else 0 := by
    unfold PlayoutHistory.loads
    rw [hcalls, List.countP_append]
    cases loaded <;> rfl
  have hsub : ∀ q ∈ rest, q ∈ m.queued := fun q hq => hrest.mem hq
  refine ⟨⟨?_, ?_, ?_, ?_, ?_, ?_, ?_⟩, ?_, ?_, ?_, ?_, ?_, ?_, ?_, ?_, ?_⟩
  · rw [hqueued']
    exact hr
  · rw [hdue]
    refine ⟨h.due.1.trans (hd ▸ rfl), fun d' hd' => h.due.2 d' (hd ▸ hd')⟩
  · intro e he p hp
    rw [hcalls] at he
    rcases List.mem_append.1 he with he | he
    · exact h.first e he p hp
    · rw [List.mem_singleton.1 he] at hp ⊢
      cases loaded with
      | true => exact congrArg (·.half 0) (Option.some.inj hp)
      | false => cases hp
  · rw [hcalls]
    exact h.follows (.inl hh)
  · rw [hcalls, List.length_append, BitVec.ofNat_add, ← h.counted]
    exact hdp
  · rw [hacc]
    exact h.taken
  · rw [hloads, hdisc, hqueued', ← hcount]
    refine h.conserved.trans ?_
    rw [hlen, ← ofNat_discarded m.loads m.discarded hst]
    refine congrArg (BitVec.ofNat 32 · + s.overruns) ?_
    omega
  · rw [hqueued']
    exact h.chain.suffix hrest
  · intro q hq
    rw [hqueued'] at hq
    rw [hacc]
    refine h.last q ?_
    obtain ⟨front, hfront⟩ := hrest
    rw [← hfront, Option.mem_def, List.getLast?_append, Option.mem_def.1 hq]
    rfl
  · intro q hq
    rw [hqueued'] at hq
    rw [hacc]
    exact h.mem q (hsub q hq)
  · intro d' hd' q hq
    rw [hdue, Option.mem_some_iff] at hd'
    rw [hqueued'] at hq
    have := hlow q hq
    change d' + 1 ≤ _
    omega
  · intro d' hd' q hq
    rw [hdue, Option.mem_some_iff] at hd'
    rw [hqueued'] at hq
    exact hd' ▸ hup q hq
  · rw [hdue]
    nofun
  · intro hl
    obtain ⟨p, hp, hpd, hcp⟩ := hc hl
    exact ⟨rfl, p, hacc ▸ hp, hdue.trans (congrArg some hpd.symm), hcp⟩
  · refine h.past_concat hd hacc hcalls (fun ho => ?_) fun g hg => ?_
    · cases loaded with
      | false => cases ho
      | true =>
        obtain ⟨p, hp, hpd, hcp⟩ := hc rfl
        exact ⟨p, hp, hpd, by rw [hh, ← hcp]; rfl⟩
    · rw [hdue]
      refine ⟨d, rfl, hg.imp id fun he => ⟨he.1, ?_⟩⟩
      rw [hh] at he
      exact lt_of_le_of_lt he.2 (show (0 : Fin 2) < 1 by decide)
  · intro e he p hp
    rw [hcalls, List.getLast?_concat, Option.mem_some_iff] at he
    rw [← he] at hp
    cases loaded with
    | true => exact ⟨rfl, rfl, Option.some.inj hp⟩
    | false => cases hp

/-- **Step: the first half** of a packet's time. -/
theorem Ordered.next_first (h : Ordered m s) {d : Nat} (hd : m.due = some d) (hh : s.currentHalf = 0)
    (playout : AudioPlayout) : Ordered (m.record playout s s.next.1 (some s.next.2)) s.next.1 := by
  have hv : s.expectedValid = true := by rw [h.due.1, hd]; rfl
  obtain ⟨t, dl, pl, hload, hdp, hnext⟩ := PlayoutSource.next_first hv hh
  obtain ⟨hsuffix, hge, hup⟩ := h.dropWhile_behind hd hh
  have hdrop : s.entries.toList.dropWhile s.behind =
      (m.queued.dropWhile fun q => s.behind q.entry).map (·.entry) := by
    rw [h.queued, List.dropWhile_map]
    rfl
  generalize (m.queued.dropWhile fun q => s.behind q.entry) = rest at hsuffix hge hup hdrop
  rw [hnext]
  cases hload with
  | missing r st ht hl hc hst =>
    rw [ht]
    exact h.load hd hh false s.current hsuffix (hl.symm.trans hdrop) hge hup hst nofun hdp playout
  | due r c st ht hl hc hst =>
    rw [ht]
    rw [hl] at hdrop
    cases rest with
    | nil => cases hdrop
    | cons q rest =>
      obtain ⟨hcq, hr⟩ := List.cons.inj hdrop
      -- the front is close, so that its sequence number is its index
      have hqd : q.index = d := by
        have hlow := hge q List.mem_cons_self
        have hlt := hup q rfl
        have hsequence : BitVec.ofNat 16 q.index = BitVec.ofNat 16 d :=
          q.numbered.symm.trans ((congrArg (·.sequence) hcq).symm.trans (hc.trans (h.due.2 d hd)))
        rw [← BitVec.toNat_inj, BitVec.toNat_ofNat, BitVec.toNat_ofNat] at hsequence
        omega
      have hchain := h.chain.suffix hsuffix
      refine h.load hd hh true c ((List.suffix_cons q rest).trans hsuffix) hr
        (fun x hx => hge x (List.mem_cons_of_mem _ hx)) (fun x hx => ?_) hst
        (fun _ => ⟨q, h.mem q (hsuffix.mem List.mem_cons_self), hqd, hcq⟩) hdp playout
      cases rest with
      | nil => cases hx
      | cons y rest =>
        rw [List.head?_cons, Option.mem_some_iff] at hx
        rw [← hx, ← hqd]
        exact (List.isChain_cons_cons.1 hchain).1.2

/-- A call of `next` that leaves the queue alone and loads nothing. -/
theorem Ordered.record_calls (h : Ordered m s) (after : PlayoutSource) (out : CodecOutput) (playout : AudioPlayout)
    (hentries : after.entries = s.entries) (hst : after.stale = s.stale) (hl : after.currentLoaded = false) :
    (m.record playout s after (some out)).calls = m.calls ++ [⟨none, out⟩] ∧
      (m.record playout s after (some out)).queued = m.queued ∧
      (m.record playout s after (some out)).discarded = m.discarded ∧
      (m.record playout s after (some out)).loads = m.loads := by
  have hcount : m.queued.length = after.entries.count := by
    rw [hentries, ← s.entries.length_toList, h.queued, List.length_map]
  have hcalls : (m.record playout s after (some out)).calls = m.calls ++ [⟨none, out⟩] := by
    simp [record, hl]
  refine ⟨hcalls, ?_, ?_, ?_⟩
  · change m.queued.rtake after.entries.count = m.queued
    rw [← hcount]
    exact rtake_suffix (List.suffix_refl m.queued)
  · simp [record, hst]
  · rw [PlayoutHistory.loads, PlayoutHistory.loads, hcalls, List.countP_append]
    rfl

/-- **Step: the second half** of a packet's time. -/
theorem Ordered.next_second (h : Ordered m s) {d : Nat} (hd : m.due = some d) (hh : s.currentHalf = 1)
    (playout : AudioPlayout) : Ordered (m.record playout s s.next.1 (some s.next.2)) s.next.1 := by
  have hv : s.expectedValid = true := by rw [h.due.1, hd]; rfl
  obtain ⟨dl, pl, hdp, hnext⟩ := PlayoutSource.next_second hv hh
  have hdue : (m.record playout s s.next.1 (some s.next.2)).due = some (d + 1) := by
    simp [record, hd, hh]
  rw [hnext] at hdue ⊢
  generalize ho : (if s.currentLoaded then s.current.half 1 else silence) = out at hdue ⊢
  generalize ha : ({ s with
    deliveredFrames := dl
    plcFrames := pl
    currentHalf := 0
    currentLoaded := false
    expectedSequence := s.expectedSequence + 1 } : PlayoutSource) = after at hdue ⊢
  obtain ⟨hcalls, hqueued, hdisc, hloads⟩ :=
    h.record_calls after out playout (by rw [← ha]) (by rw [← ha]) (by rw [← ha])
  dsimp only at hdue ⊢
  generalize hm : m.record playout s after (some out) = m' at hdue hcalls hqueued hdisc hloads ⊢
  have hacc : m'.accepted = m.accepted := by rw [← hm]; rfl
  have hone : s.currentHalf.val = 1 := by rw [hh]; rfl
  subst ha
  refine ⟨⟨?_, ?_, ?_, ?_, ?_, ?_, ?_⟩, ?_, ?_, ?_, ?_, ?_, ?_, nofun, ?_, ?_⟩
  · rw [hqueued]
    exact h.queued
  · rw [hdue]
    refine ⟨hv, fun d' hd' => ?_⟩
    rw [Option.mem_some_iff] at hd'
    change s.expectedSequence + 1 = _
    rw [← hd', h.due.2 d hd, BitVec.ofNat_add]
    rfl
  · intro e he p hp
    rw [hcalls] at he
    rcases List.mem_append.1 he with he | he
    · exact h.first e he p hp
    · rw [List.mem_singleton.1 he] at hp
      cases hp
  · rw [hcalls]
    exact h.follows (.inr ⟨rfl, ho.symm⟩)
  · rw [hcalls, List.length_append, BitVec.ofNat_add, ← h.counted]
    exact hdp
  · rw [hacc]
    exact h.taken
  · rw [hloads, hdisc, hqueued]
    exact h.conserved
  · rw [hqueued]
    exact h.chain
  · rw [hqueued, hacc]
    exact h.last
  · rw [hqueued, hacc]
    exact h.mem
  · intro d' hd' q hq
    rw [hdue, Option.mem_some_iff] at hd'
    rw [hqueued] at hq
    have hlow := h.lower d hd q hq
    change d' + 0 ≤ _
    omega
  · intro d' hd' q hq
    rw [hdue, Option.mem_some_iff] at hd'
    rw [hqueued] at hq
    have hlt := h.upper d hd q hq
    omega
  · exact fun _ => rfl
  · refine h.past_concat hd hacc hcalls (fun hout => ?_) fun g hg => ?_
    · have hl : s.currentLoaded = true := by
        cases hl : s.currentLoaded with
        | true => rfl
        | false =>
          rw [hl, if_neg Bool.false_ne_true] at ho
          rw [← ho] at hout
          cases hout
      obtain ⟨-, p, hp, hpd, hcur⟩ := h.current hl
      rw [hd, Option.some_inj] at hpd
      rw [hl, if_pos rfl] at ho
      exact ⟨p, hp, hpd.symm, by rw [hh, ← hcur]; exact ho.symm⟩
    · rw [hdue]
      exact ⟨d + 1, rfl, .inl (hg.elim (fun hlt => Nat.lt_succ_of_lt hlt) fun he => he.1 ▸ Nat.lt_succ_self _)⟩
  · intro e he p hp
    rw [hcalls, List.getLast?_concat, Option.mem_some_iff] at he
    rw [← he] at hp
    cases hp

theorem Ordered.not_loaded (h : Ordered m s) (hd : m.due = none) : s.currentLoaded = false := by
  cases hl : s.currentLoaded with
  | false => rfl
  | true =>
    obtain ⟨-, p, -, hp, -⟩ := h.current hl
    rw [hd] at hp
    cases hp

/-- **Step: `next` before the first packet.** -/
theorem Ordered.next_empty (h : Ordered m s) (hd : m.due = none) (h0 : s.entries.count = 0)
    (playout : AudioPlayout) : Ordered (m.record playout s s.next.1 (some s.next.2)) s.next.1 := by
  have hv : s.expectedValid = false := by rw [h.due.1, hd]; rfl
  have hl := h.not_loaded hd
  have hempty : m.queued = [] := by
    rw [← List.length_eq_zero_iff, ← h0, ← s.entries.length_toList, h.queued, List.length_map]
  rw [PlayoutSource.next_empty hv h0]
  dsimp only
  obtain ⟨hcalls, hqueued, hdisc, hloads⟩ :=
    h.record_calls { s with plcFrames := s.plcFrames + 1 } silence playout rfl rfl hl
  have hdue : (m.record playout s { s with plcFrames := s.plcFrames + 1 } (some silence)).due = none := by
    simp [record, hd, hempty]
  generalize hm : m.record playout s { s with plcFrames := s.plcFrames + 1 } (some silence) = m' at *
  have hacc : m'.accepted = m.accepted := by rw [← hm]; rfl
  have hheard : m'.heard = m.heard := by
    unfold PlayoutHistory.heard
    rw [hcalls, List.filter_append]
    exact List.append_nil _
  refine ⟨⟨?_, ?_, ?_, ?_, ?_, ?_, ?_⟩, ?_, ?_, ?_, ?_, ?_, ?_, ?_, ?_, ?_⟩
  · rw [hqueued]
    exact h.queued
  · rw [hdue]
    exact ⟨hv, nofun⟩
  · intro e he p hp
    rw [hcalls] at he
    rcases List.mem_append.1 he with he | he
    · exact h.first e he p hp
    · rw [List.mem_singleton.1 he] at hp
      cases hp
  · rw [hcalls]
    exact h.follows (.inl (h.start hd))
  · rw [hcalls, List.length_append, BitVec.ofNat_add, ← h.counted, BitVec.add_assoc]
    rfl
  · rw [hacc]
    exact h.taken
  · rw [hloads, hdisc, hqueued]
    exact h.conserved
  · rw [hqueued]
    exact h.chain
  · rw [hqueued, hacc]
    exact h.last
  · rw [hqueued, hacc]
    exact h.mem
  · rw [hdue]
    nofun
  · rw [hdue]
    nofun
  · exact fun _ => h.start hd
  · intro hloaded
    exact absurd (hl.symm.trans hloaded) Bool.false_ne_true
  · obtain ⟨halves, hplays, hbefore, hpast⟩ := h.past
    rw [hheard, hdue]
    refine ⟨halves, hplays.imp fun _ _ hp => ⟨hacc ▸ hp.1, hp.2⟩, hbefore, ?_⟩
    rwa [hd] at hpast
  · intro e he p hp
    rw [hcalls, List.getLast?_concat, Option.mem_some_iff] at he
    rw [← he] at hp
    cases hp

/-- **Step: the first `next` that finds a packet.** -/
theorem Ordered.next_start (h : Ordered m s) (hd : m.due = none) (h0 : s.entries.count ≠ 0)
    (playout : AudioPlayout) : Ordered (m.record playout s s.next.1 (some s.next.2)) s.next.1 := by
  have hv : s.expectedValid = false := by rw [h.due.1, hd]; rfl
  have hh := h.start hd
  cases hqueued : m.queued with
  | nil =>
    refine absurd ?_ h0
    rw [← s.entries.length_toList, h.queued, hqueued]
    rfl
  | cons q rest =>
    have hfront : s.entries.front.sequence = BitVec.ofNat 16 q.index := by
      have hlist := h.queued
      rw [s.entries.toList_popFront (Nat.pos_of_ne_zero h0), hqueued] at hlist
      rw [(List.cons.inj hlist).1]
      exact q.numbered
    have hsorted := h.sorted
    rw [hqueued] at hsorted
    have hstarted : Ordered { m with due := some q.index }
        { s with expectedSequence := s.entries.front.sequence, expectedValid := true } := by
      refine ⟨⟨h.queued, ⟨rfl, ?_⟩, h.first, h.second, h.counted, h.taken, h.conserved⟩, h.chain, h.last, h.mem, ?_, ?_,
        nofun, ?_, ?_, h.link⟩
      · intro d hq
        rw [Option.mem_some_iff] at hq
        rw [← hq]
        exact hfront
      · intro d hq x hx
        rw [Option.mem_some_iff] at hq
        change d + s.currentHalf.val ≤ _
        have hx' : x ∈ q :: rest := hqueued ▸ hx
        rw [hh, ← hq]
        rcases List.mem_cons.1 hx' with rfl | hx'
        · exact Nat.le_succ _
        · have hlt := (List.pairwise_cons.1 hsorted).1 x hx'
          exact Nat.le_succ_of_le hlt.le
      · intro d hq x hx
        rw [Option.mem_some_iff] at hq
        dsimp only at hx
        rw [hqueued, List.head?_cons, Option.mem_some_iff] at hx
        rw [← hx, ← hq]
        omega
      · intro hl
        exact absurd ((h.not_loaded hd).symm.trans hl) Bool.false_ne_true
      · obtain ⟨halves, hplays, hbefore, hpast⟩ := h.past
        refine ⟨halves, hplays, hbefore, fun g hg => ?_⟩
        obtain ⟨d, hno, -⟩ := hpast g hg
        rw [hd] at hno
        cases hno
    have hnext := hstarted.next_first rfl hh playout
    rw [← PlayoutSource.next_start hv h0] at hnext
    have hrecord : m.record playout s s.next.1 (some s.next.2) =
        PlayoutHistory.record { m with due := some q.index } playout
          { s with expectedSequence := s.entries.front.sequence, expectedValid := true } s.next.1 (some s.next.2) := by
      simp [record, hd, hqueued]
    rw [hrecord]
    exact hnext

/-! ## Whole runs -/

theorem init_ordered : Ordered (init : PlayoutHistory sourceId) (AudioPlayout.init i) :=
  ⟨⟨rfl, ⟨rfl, nofun⟩, nofun, .nil, rfl, rfl, rfl⟩, .nil, nofun, nofun, nofun, nofun, fun _ => rfl, nofun,
    ⟨[], .nil, .nil, nofun⟩, nofun⟩

/-- **Step: `next`.** -/
theorem Ordered.next (h : Ordered m s) (playout : AudioPlayout) :
    Ordered (m.record playout s s.next.1 (some s.next.2)) s.next.1 := by
  cases hd : m.due with
  | none =>
    by_cases h0 : s.entries.count = 0
    · exact h.next_empty hd h0 playout
    · exact h.next_start hd h0 playout
  | some d =>
    rcases Fin.exists_fin_two.1 ⟨s.currentHalf, rfl⟩ with hh | hh
    · exact h.next_first hd hh playout
    · exact h.next_second hd hh playout

/-- **Step.** -/
theorem step_ordered (hi : sourceIndex sourceId = some i) {m : PlayoutHistory sourceId} (c : PlayoutCall sourceId)
    (h : Ordered m (m.playout i)) (hnear : m.Near c) : Ordered (m.step i c) ((m.step i c).playout i) := by
  cases c with
  | push p =>
    have hstep := h.push hnear (m.playout.set i ((m.playout i).push p.frame).1)
    unfold step
    dsimp only
    rw [m.playout.push_eq p.remote (p.source ▸ hi)]
    dsimp only
    cases hok : ((m.playout i).push p.frame).2 with
    | true =>
      rw [hok, if_pos rfl] at hstep
      rw [if_pos rfl]
      dsimp only
      rwa [AudioPlayout.set_self]
    | false =>
      rw [hok, if_neg Bool.false_ne_true] at hstep
      rw [if_neg Bool.false_ne_true]
      dsimp only
      rwa [AudioPlayout.set_self]
  | next =>
    unfold step
    dsimp only
    rw [m.playout.next_eq hi]
    dsimp only
    change Ordered _ (m.playout.set i (m.playout i).next.1 i)
    rw [AudioPlayout.set_self]
    exact h.next _

/-- **Main result.** As long as every pushed packet is close to the one taken last and to the due one, playout
delivers what it takes. -/
theorem playout_delivers (hi : sourceIndex sourceId = some i) (calls : List (PlayoutCall sourceId))
    (hnear : Run.Along (step i) Near init calls) :
    Delivers (calls.foldl (step i) init) ((calls.foldl (step i) init).playout i) := by
  have h : Ordered (calls.foldl (step i) init) ((calls.foldl (step i) init).playout i) :=
    Run.inv_along (P := fun m => Ordered m (m.playout i)) (fun _ c h hn => step_ordered hi c h hn) init calls
      (init_ordered (i := i)) hnear
  exact h.delivers

instance (a b : Nat) : Decidable (Close a b) := inferInstanceAs (Decidable (_ ∧ _))

instance (m : PlayoutHistory sourceId) : ∀ c, Decidable (m.Near c)
  | .push _ => inferInstanceAs (Decidable (_ ∧ _))
  | .next => .isTrue trivial

/-- The packets of the native test (openref_audio_playout_test.c:13-20), each with both halves valid. -/
def testPacket (index : Nat) : IndexedPacket 2 where
  index := index
  frame :=
    ⟨linkRemoteAudio, 2, linkFlagFrame0Valid ||| linkFlagFrame1Valid, BitVec.ofNat 16 index, 0, 0, Bytes.zero _⟩
  remote := rfl
  source := rfl
  numbered := rfl

/-- Two packets across the wrap with a gap between them, played to the end. -/
def testCalls : List (PlayoutCall 2) :=
  [.push (testPacket 65534), .next, .push (testPacket 65536), .next, .push (testPacket 65536), .next, .next, .next,
    .next]

theorem playout_delivers_across_wrap :
    (testCalls.foldl (step 1) init).calls.map (·.output.2) = [false, false, true, true, false, false] ∧
      Delivers (testCalls.foldl (step 1) init) ((testCalls.foldl (step 1) init).playout 1) :=
  ⟨by decide +kernel, playout_delivers rfl testCalls (by decide +kernel)⟩

end PlayoutHistory

end OpenRef.Audio
