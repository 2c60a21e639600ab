import OpenRef.Simulator.Pending
/-!
# Where the frames of a scenario are

A frame that a node generates is in the node's queue until it overflows or a slot sends it; then it is on the air
until its end says what became of it. `Accounts` says so of the identifiers in the trace, so that no frame is in two
places and none is nowhere; `frames_accounted` is what follows for the numbers of `summarize`.
-/

namespace OpenRef.Simulator

/-! ## Lists -/

theorem count_flatMap_set {α β : Type*} [BEq β] [LawfulBEq β] (f : α → List β) (x : β) (b : α) :
    ∀ {l : List α} {i : ℕ} {a : α}, l[i]? = some a →
      ((l.set i b).flatMap f).count x + (f a).count x = (l.flatMap f).count x + (f b).count x
  | [], i, a, h => by cases h
  | y :: l, 0, a, h => by
    rw [List.getElem?_cons_zero] at h
    cases Option.some.inj h
    rw [List.set_cons_zero, List.flatMap_cons, List.flatMap_cons, List.count_append, List.count_append]
    omega
  | y :: l, i + 1, a, h => by
    rw [List.getElem?_cons_succ] at h
    have ih := count_flatMap_set f x b h
    rw [List.set_cons_succ, List.flatMap_cons, List.flatMap_cons, List.count_append, List.count_append]
    omega

theorem set_same {α : Type*} {a : α} : ∀ {l : List α} {i : ℕ}, l[i]? = some a → l.set i a = l
  | [], i, h => by cases h
  | b :: l, 0, h => by
    rw [List.getElem?_cons_zero] at h
    rw [Option.some.inj h, List.set_cons_zero]
  | b :: l, i + 1, h => by
    rw [List.getElem?_cons_succ] at h
    rw [List.set_cons_succ, set_same h]

/-- A list is what stands at its indices. -/
theorem filterMap_range {α : Type*} (l : List α) : (List.range l.length).filterMap (fun k => l[k]?) = l := by
  have hmap : (List.range l.length).map (fun k => l[k]?) = l.map some := by
    apply List.ext_getElem
    · rw [List.length_map, List.length_map, List.length_range]
    · intro k hk hk'
      rw [List.getElem_map, List.getElem_map, List.getElem_range, List.getElem?_eq_getElem]
  calc (List.range l.length).filterMap (fun k => l[k]?)
      = ((List.range l.length).map fun k => l[k]?).filterMap id := by rw [List.filterMap_map]; rfl
    _ = l := by rw [hmap, List.filterMap_map]; exact List.filterMap_some

/-- Two predicates that never hold together split a filter. -/
theorem filter_or_perm {α : Type*} {p q : α → Bool} (h : ∀ a, p a = true → q a = false) (l : List α) :
    (l.filter fun a => p a || q a).Perm (l.filter p ++ l.filter q) := by
  induction l with
  | nil => exact .refl _
  | cons a l ih =>
    cases hp : p a with
    | true =>
      rw [List.filter_cons_of_pos (by rw [hp]; rfl), List.filter_cons_of_pos hp,
        List.filter_cons_of_neg (by rw [h a hp]; exact Bool.false_ne_true)]
      exact ih.cons a
    | false =>
      have hneg : ¬ p a = true := by
        rw [hp]
        exact Bool.false_ne_true
      cases hq : q a with
      | true =>
        rw [List.filter_cons_of_pos (by rw [hp, hq]; rfl), List.filter_cons_of_neg hneg, List.filter_cons_of_pos hq]
        exact (ih.cons a).trans List.perm_middle.symm
      | false =>
        rw [List.filter_cons_of_neg (by rw [hp, hq]; exact Bool.false_ne_true), List.filter_cons_of_neg hneg,
          List.filter_cons_of_neg (by rw [hq]; exact Bool.false_ne_true)]
        exact ih

/-! ## Where a frame can be -/

/-- The packets that the trace names in entries of one kind. -/
def ids (p : TraceKind → Bool) (trace : List TraceEvent) : List (Option ℤ) :=
  (trace.filter fun e => p e.event).map TraceEvent.packetId

def generated : TraceKind → Bool := TraceKind.named "voice_frame_generated"

def overflowed : TraceKind → Bool := TraceKind.named "queue_overflow"

/-- The identifiers of packets. -/
def packetIds (packets : List Packet) : List (Option ℤ) := packets.map fun p => some p.packetId

/-- The frames of voice among packets. -/
def voiceIds (packets : List Packet) : List (Option ℤ) := packetIds (packets.filter fun p => p.kind = .voice)

namespace Sim

variable {P : Type}

def queues (s : Sim P) : List (List Packet) := s.nodes.map VoiceNode.queue

/-- The frames that wait in a queue. -/
def queued (s : Sim P) : List (Option ℤ) := s.queues.flatMap packetIds

/-- The frames that were sent. -/
def sentIds (s : Sim P) : List (Option ℤ) := voiceIds (s.transmissions.map Transmission.packet)

/-- The frames that are on the air. -/
def onAir (s : Sim P) : List (Option ℤ) :=
  voiceIds (s.simulation.unfinished.filterMap fun k => (s.transmissions[k]?).map Transmission.packet)

/-- Where the frames are, up to the end of their transmission. -/
structure Accounts (c : Config) (s : Sim P) : Prop where
  all : (ids generated s.trace).Perm (ids overflowed s.trace ++ (s.queued ++ s.sentIds))
  fresh : ∀ id ∈ ids generated s.trace, ∃ n, id = some n ∧ n < s.nextPacketId
  once : (ids generated s.trace).Nodup
  voice : ∀ q ∈ s.queues, ∀ p ∈ q, p.kind = .voice
  bounded : ∀ q ∈ s.queues, (q.length : ℤ) ≤ max 0 c.voice.maxQueueFrames

end Sim

/-! ## What entries of the trace name -/

theorem ids_append (p : TraceKind → Bool) (trace more : List TraceEvent) :
    ids p (trace ++ more) = ids p trace ++ ids p more := by
  unfold ids
  rw [List.filter_append, List.map_append]

theorem ids_none {p : TraceKind → Bool} {trace : List TraceEvent} (h : ∀ e ∈ trace, p e.event = false) :
    ids p trace = [] := by
  unfold ids
  rw [List.filter_eq_nil_iff.2 fun e he => ?_, List.map_nil]
  rw [h e he]
  exact Bool.false_ne_true

theorem named_start {e : TraceKind} (h : e.isStart = true) (event : String) : e.named event = false := by
  cases e with
  | collisionDetected _ => rfl
  | txStart _ _ => rfl
  | packetCollided _ => cases h
  | packetLost _ => cases h
  | packetDelivered _ _ => cases h
  | other _ => cases h

theorem named_outcome {e : TraceKind} (h : e.isOutcome = true) (event : String) : e.named event = false := by
  cases e with
  | collisionDetected _ => cases h
  | txStart _ _ => cases h
  | packetCollided _ => rfl
  | packetLost _ => rfl
  | packetDelivered _ _ => rfl
  | other _ => cases h

namespace Sim

variable {P : Type} {s s' : Sim P} {c : Config}

/-- The accounts look at frames only: at what the trace says of them, at the queues and at what was sent. -/
theorem Accounts.congr (h : Accounts c s) (hgenerated : ids generated s'.trace = ids generated s.trace)
    (hoverflowed : ids overflowed s'.trace = ids overflowed s.trace) (hqueues : s'.queues = s.queues)
    (hsent : s'.sentIds = s.sentIds) (hnext : s.nextPacketId ≤ s'.nextPacketId) : Accounts c s' := by
  refine ⟨?_, ?_, ?_, ?_, ?_⟩
  · unfold queued
    rw [hgenerated, hoverflowed, hqueues, hsent]
    exact h.all
  · rw [hgenerated]
    intro id hid
    obtain ⟨n, hn, hlt⟩ := h.fresh id hid
    exact ⟨n, hn, hlt.trans_le hnext⟩
  · rw [hgenerated]
    exact h.once
  · rw [hqueues]
    exact h.voice
  · rw [hqueues]
    exact h.bounded

/-- An entry that is not about generating or dropping a frame. -/
theorem Accounts.record (h : Accounts c s) {event : String} (hg : event ≠ "voice_frame_generated")
    (ho : event ≠ "queue_overflow") (nodeId packetId : Option ℤ) (details : Details) :
    Accounts c (s.record event nodeId packetId details) := by
  have hnone {name : String} (hne : event ≠ name) : ids (TraceKind.named name)
      [⟨s.nowUs, .other event, nodeId, packetId⟩] = [] := by
    refine ids_none fun e he => ?_
    rw [List.mem_singleton.1 he]
    exact decide_eq_false hne
  refine h.congr ?_ ?_ rfl rfl (Int.le_refl _)
  · rw [record_trace, ids_append, generated, hnone hg, List.append_nil]
  · rw [record_trace, ids_append, overflowed, hnone ho, List.append_nil]

theorem Accounts.scheduled (h : Accounts c s) (timeUs : ℤ) (call : Call) : Accounts c (s.scheduled timeUs call) := by
  have htrace := s.scheduled_trace timeUs call
  exact h.congr (by rw [htrace]) (by rw [htrace]) rfl rfl (Int.le_refl _)

theorem Accounts.again (h : Accounts c s) {node : VoiceNode} {call : Call} (ha : s.again c node call = some s') :
    Accounts c s' := by
  rcases again_eq_some.1 ha with ⟨-, -, rfl⟩ | ⟨-, rfl⟩
  · exact h.scheduled _ call
  · exact h

theorem Accounts.next {mid : Sim P} {timeUs : ℤ} (h : Accounts c s) (hnext : Next s mid timeUs)
    (htrace : mid.trace = s.trace ∨ ∃ e, mid.trace = s.trace ++ [e] ∧ e.event.isOutcome = true) : Accounts c mid := by
  have hqueues : mid.queues = s.queues := congrArg (List.map VoiceNode.queue) hnext.nodes
  have hsent : mid.sentIds = s.sentIds := by
    unfold sentIds
    rw [hnext.transmissions]
  refine h.congr ?_ ?_ hqueues hsent hnext.nextPacketId.ge
  · rcases htrace with htrace | ⟨e, htrace, houtcome⟩
    · rw [htrace]
    · rw [htrace, ids_append, show ids generated [e] = [] from
        ids_none (List.forall_mem_singleton.2 (named_outcome houtcome _)), List.append_nil]
  · rcases htrace with htrace | ⟨e, htrace, houtcome⟩
    · rw [htrace]
    · rw [htrace, ids_append, show ids overflowed [e] = [] from
        ids_none (List.forall_mem_singleton.2 (named_outcome houtcome _)), List.append_nil]

/-- What is sent: the new packet, if it is one of voice, after those before. -/
theorem sent_sentIds (hs : Sane s) (packet : Packet) (airtimeUs : ℤ) :
    (s.sent packet airtimeUs).sentIds = s.sentIds ++ voiceIds [packet] := by
  have hpackets : (s.sent packet airtimeUs).transmissions.map Transmission.packet =
      s.transmissions.map Transmission.packet ++ [packet] := by
    refine (congrArg (List.map Transmission.packet) (hs.sound.transmit_transmissions packet airtimeUs)).trans ?_
    rw [List.map_append, List.map_map]
    rfl
  unfold sentIds voiceIds packetIds
  rw [hpackets, List.filter_append, List.map_append]

theorem Accounts.sent (hs : Sane s) {packet : Packet} {airtimeUs : ℤ} (hair : 0 < airtimeUs) {s' : Sim P}
    (hs' : s' = s.sent packet airtimeUs) : ids generated s'.trace = ids generated s.trace ∧
      ids overflowed s'.trace = ids overflowed s.trace ∧ s'.queues = s.queues ∧
      s'.sentIds = s.sentIds ++ voiceIds [packet] := by
  obtain ⟨news, hnews, htrace⟩ := s.sent_trace packet hair
  have hnone (event : String) : ids (TraceKind.named event) news = [] :=
    ids_none fun e he => named_start (hnews e he) event
  rw [hs']
  refine ⟨?_, ?_, rfl, sent_sentIds hs packet airtimeUs⟩
  · rw [htrace, ids_append, generated, hnone, List.append_nil]
  · rw [htrace, ids_append, overflowed, hnone, List.append_nil]

/-- One queue is another one. -/
theorem count_queues_set {i : ℕ} {node : VoiceNode} (hnode : s.nodes[i]? = some node) (queue : List Packet)
    (x : Option ℤ) : ((s.queues.set i queue).flatMap packetIds).count x + (packetIds node.queue).count x =
      s.queued.count x + (packetIds queue).count x := by
  refine count_flatMap_set packetIds x queue ?_
  unfold queues
  rw [List.getElem?_map, hnode, Option.map_some]

theorem queues_setNode (i : ℕ) (node : VoiceNode) : (s.setNode i node).queues = s.queues.set i node.queue := by
  unfold queues setNode
  exact List.map_set

theorem mem_queues {i : ℕ} {node : VoiceNode} (hnode : s.nodes[i]? = some node) : node.queue ∈ s.queues :=
  List.mem_map.2 ⟨node, List.mem_of_getElem? hnode, rfl⟩

/-- A new frame is behind what is left of a queue, and what was dropped of it has overflowed. -/
theorem Accounts.replace (h : Accounts c s) {i : ℕ} {node : VoiceNode} {packet : Packet} {dropped queue : List Packet}
    (hnode : s.nodes[i]? = some node) (hsplit : node.queue = dropped ++ queue) (hkind : packet.kind = .voice)
    (hid : packet.packetId = s.nextPacketId) (hlength : (queue.length : ℤ) < c.voice.maxQueueFrames)
    (hgenerated : ids generated s'.trace = ids generated s.trace ++ packetIds [packet])
    (hoverflowed : ids overflowed s'.trace = ids overflowed s.trace ++ packetIds dropped)
    (hqueues : s'.queues = s.queues.set i (queue ++ [packet])) (hsent : s'.sentIds = s.sentIds)
    (hnext : s'.nextPacketId = s.nextPacketId + 1) : Accounts c s' := by
  have hmem := s.mem_queues hnode
  refine ⟨?_, ?_, ?_, ?_, ?_⟩
  · refine List.perm_iff_count.2 fun x => ?_
    have hall := h.all.count_eq x
    have hset := s.count_queues_set hnode (queue ++ [packet]) x
    have hnew : (packetIds (queue ++ [packet])).count x = (packetIds queue).count x + (packetIds [packet]).count x := by
      unfold packetIds
      rw [List.map_append, List.count_append]
    have hold : (packetIds node.queue).count x = (packetIds dropped).count x + (packetIds queue).count x := by
      unfold packetIds
      rw [hsplit, List.map_append, List.count_append]
    unfold queued at hall hset ⊢
    rw [hgenerated, hoverflowed, hqueues, hsent]
    rw [List.count_append, List.count_append] at hall
    rw [List.count_append, List.count_append, List.count_append, List.count_append]
    omega
  · rw [hgenerated, hnext]
    intro id hmem
    rcases List.mem_append.1 hmem with hold | hnew
    · obtain ⟨n, hn, hlt⟩ := h.fresh id hold
      exact ⟨n, hn, by omega⟩
    · exact ⟨s.nextPacketId, (List.mem_singleton.1 hnew).trans (congrArg some hid), by omega⟩
  · rw [hgenerated]
    refine h.once.append (List.nodup_singleton _) fun id hold hnew => ?_
    obtain ⟨n, hn, hlt⟩ := h.fresh id hold
    have heq : some n = some packet.packetId := hn.symm.trans (List.mem_singleton.1 hnew)
    have hval := Option.some.inj heq
    omega
  · rw [hqueues]
    intro q hq p hp
    rcases List.mem_or_eq_of_mem_set hq with hq | rfl
    · exact h.voice q hq p hp
    · rcases List.mem_append.1 hp with hp | hp
      · exact h.voice node.queue hmem p (hsplit ▸ List.mem_append_right _ hp)
      · rw [List.mem_singleton.1 hp]
        exact hkind
  · rw [hqueues]
    intro q hq
    rcases List.mem_or_eq_of_mem_set hq with hq | rfl
    · exact h.bounded q hq
    · rw [List.length_append, List.length_singleton]
      omega

theorem sentIds_append (i : ℕ) (node : VoiceNode) (queue : List Packet) (packet : Packet) :
    (s.append i node queue packet).sentIds = s.sentIds := rfl

theorem queues_append (i : ℕ) (node : VoiceNode) (queue : List Packet) (packet : Packet) :
    (s.append i node queue packet).queues = s.queues.set i (queue ++ [packet]) := s.queues_setNode i _

theorem trace_append (i : ℕ) (node : VoiceNode) (queue : List Packet) (packet : Packet) :
    (s.append i node queue packet).trace = s.trace ++ [⟨s.nowUs, .other "queue_depth", some node.nodeId, none⟩] := rfl

/-- **A generated frame is queued**, and where the queue is full its oldest one has overflowed. -/
theorem Accounts.enqueue (h : Accounts c s) {i : ℕ} {node : VoiceNode} (hnode : s.nodes[i]? = some node)
    (he : s.enqueue c i node = some s') : Accounts c s' := by
  obtain ⟨packet, base, hpacket, hbase, hcase⟩ := enqueue_cases he
  have hkind : packet.kind = .voice := by rw [hpacket]
  have hid : packet.packetId = s.nextPacketId := by rw [hpacket]
  have htrace : base.trace = s.trace ++ [⟨s.nowUs, .other "voice_frame_generated", some node.nodeId,
    some packet.packetId⟩] := by
    rw [hbase]
    rfl
  have hbounded := h.bounded node.queue (s.mem_queues hnode)
  rcases hcase with ⟨hroom, rfl⟩ | ⟨dropped, queue, hqueue, hfull, rfl⟩
  · refine h.replace hnode (List.nil_append node.queue).symm hkind hid hroom ?_ ?_ ?_ ?_ ?_
    · rw [trace_append, htrace, List.append_assoc, ids_append]
      rfl
    · rw [trace_append, htrace, List.append_assoc, ids_append]
      rfl
    · rw [queues_append, hbase]
      rfl
    · rw [sentIds_append, hbase]
      rfl
    · rw [hbase]
      rfl
  · have hshorter : (queue.length : ℤ) < c.voice.maxQueueFrames := by
      rw [hqueue, List.length_cons] at hbounded
      omega
    refine h.replace hnode (show node.queue = [dropped] ++ _ from hqueue) hkind hid hshorter ?_ ?_ ?_ ?_ ?_
    · rw [trace_append, record_trace, htrace, List.append_assoc, List.append_assoc, ids_append]
      rfl
    · rw [trace_append, record_trace, htrace, List.append_assoc, List.append_assoc, ids_append]
      rfl
    · rw [queues_append, hbase]
      rfl
    · rw [sentIds_append, hbase]
      rfl
    · rw [hbase]
      rfl

theorem Accounts.checkAge (h : Accounts c s) (nodeId packetId ageUs : ℤ) (stage : String) :
    Accounts c (s.checkAge c nodeId packetId ageUs stage) := by
  unfold Sim.checkAge
  split
  · exact h.record (by decide) (by decide) _ _ _
  · exact h

/-- A late frame is reported, which tells nothing of where it is. -/
theorem checkAge_same (c : Config) (nodeId packetId ageUs : ℤ) (stage : String) (s : Sim P) :
    ids generated (s.checkAge c nodeId packetId ageUs stage).trace = ids generated s.trace ∧
      ids overflowed (s.checkAge c nodeId packetId ageUs stage).trace = ids overflowed s.trace ∧
      (s.checkAge c nodeId packetId ageUs stage).queues = s.queues ∧
      (s.checkAge c nodeId packetId ageUs stage).sentIds = s.sentIds ∧
      (s.checkAge c nodeId packetId ageUs stage).nextPacketId = s.nextPacketId := by
  unfold Sim.checkAge
  split
  · refine ⟨?_, ?_, rfl, rfl, rfl⟩ <;>
    · rw [record_trace, ids_append]
      exact List.append_nil _
  · exact ⟨rfl, rfl, rfl, rfl, rfl⟩

/-- **A slot sends the oldest frame of its queue.** -/
theorem Accounts.slot (h : Accounts c s) (hs : Sane s) (hc : c.OnAir) {i : ℕ} (hslot : s.slot c i = some s') :
    Accounts c s' := by
  obtain ⟨node, m, hnode, hagain, rfl | ⟨packet, queue, base, -, hqueue, -, hbase, rfl⟩⟩ := slot_cases hslot
  · exact h.again hagain
  · refine Accounts.again ?_ hagain
    have hset : Sane (s.setNode i { node with queue := queue }) := ⟨hs.sound, hs.fresh, hs.called⟩
    have hsane : Sane base := hbase ▸ hset.checkAge c _ _ _ _
    obtain ⟨hgenerated, hoverflowed, hqueues, hsent, hnext⟩ := checkAge_same c node.nodeId packet.packetId
      (s.nowUs - packet.createdAtUs) "queue" (s.setNode i { node with queue := queue })
    rw [← hbase] at hgenerated hoverflowed hqueues hsent hnext
    rw [queues_setNode] at hqueues
    obtain ⟨hgen, hover, hq, hids⟩ := Accounts.sent hsane hc.voice
      (rfl : base.sent packet c.voice.airtimeUs = _)
    have hold : ∀ q ∈ (base.sent packet c.voice.airtimeUs).queues, q ∈ s.queues ∨ q = queue := by
      rw [hq, hqueues]
      exact fun q hmem => List.mem_or_eq_of_mem_set hmem
    have hkind : packet.kind = .voice := by
      refine h.voice node.queue (s.mem_queues hnode) packet ?_
      rw [hqueue]
      exact List.mem_cons_self
    have hpacket : voiceIds [packet] = [some packet.packetId] := by
      unfold voiceIds
      rw [List.filter_singleton, decide_eq_true hkind]
      rfl
    refine ⟨?_, ?_, ?_, fun q hmem => ?_, fun q hmem => ?_⟩
    · refine List.perm_iff_count.2 fun x => ?_
      have hall := h.all.count_eq x
      have hcount := s.count_queues_set hnode queue x
      have hqueueIds : (packetIds node.queue).count x = [some packet.packetId].count x + (packetIds queue).count x := by
        rw [hqueue]
        exact @List.count_append _ _ x [some packet.packetId] _
      unfold queued at hall hcount ⊢
      have hsame : (s.setNode i { node with queue := queue }).sentIds = s.sentIds := rfl
      have htrace : (s.setNode i { node with queue := queue }).trace = s.trace := rfl
      rw [hgen, hgenerated, hover, hoverflowed, hq, hqueues, hids, hsent, hpacket, hsame, htrace]
      rw [List.count_append, List.count_append] at hall
      rw [List.count_append, List.count_append, List.count_append]
      dsimp only
      omega
    · rw [hgen, hgenerated]
      intro id hmem
      obtain ⟨n, hn, hlt⟩ := h.fresh id hmem
      exact ⟨n, hn, hlt.trans_le hnext.ge⟩
    · rw [hgen, hgenerated]
      exact h.once
    · rcases hold q hmem with hmem | rfl
      · exact h.voice q hmem
      · intro p hp
        refine h.voice node.queue (s.mem_queues hnode) p ?_
        rw [hqueue]
        exact List.mem_cons_of_mem packet hp
    · rcases hold q hmem with hmem | rfl
      · exact h.bounded q hmem
      · have hbounded := h.bounded node.queue (s.mem_queues hnode)
        rw [hqueue, List.length_cons] at hbounded
        omega

/-- **Every callback keeps the accounts.** -/
theorem Accounts.call (h : Accounts c s) (hs : Sane s) (hc : c.OnAir) {callback : Call}
    (hcall : s.call c callback = some s') : Accounts c s' := by
  cases callback with
  | generate i =>
    obtain ⟨node, m, hnode, hagain, ⟨-, hm⟩ | ⟨-, rfl⟩⟩ := generate_cases hcall
    · exact (h.enqueue hnode hm).again hagain
    · exact h.again hagain
  | slot i => exact h.slot hs hc hcall
  | heartbeat =>
    obtain ⟨node, m, -, hinterval, rfl, rfl | ⟨-, -, rfl⟩⟩ := heartbeat_cases hcall
    · exact h.scheduled _ _
    · have hnext : Sane { s with nextPacketId := s.nextPacketId + 1 } := ⟨hs.sound, hs.fresh, hs.called⟩
      refine Accounts.scheduled ?_ _ _
      obtain ⟨hgen, hover, hq, hids⟩ := Accounts.sent hnext hc.heartbeat rfl
      refine h.congr hgen hover hq (hids.trans (List.append_nil _)) ?_
      exact (lt_add_one s.nextPacketId).le
  | checkTimeout =>
    obtain ⟨m, rfl, ⟨-, rfl⟩ | ⟨-, -, -, rfl⟩⟩ := checkTimeout_cases hcall
    · exact h.scheduled _ _
    · have hpending : Accounts c { s with electionPending := true } := h.congr rfl rfl rfl rfl (Int.le_refl _)
      exact ((hpending.record (by decide) (by decide) _ _ _).scheduled _ _).scheduled _ _
  | elect =>
    cases Option.some.inj hcall
    unfold elect
    split
    · exact h.congr rfl rfl rfl rfl (Int.le_refl _)
    · next least _ _ =>
      have hnew : Accounts c { s with coordinatorId := least, lastHeartbeatUs := s.nowUs } :=
        h.congr rfl rfl rfl rfl (Int.le_refl _)
      have hrec := hnew.record (show "coordinator_selected" ≠ _ by decide) (by decide) (some least) none
        (.selected (some s.coordinatorId) (some c.coordinator.electionDelayUs))
      exact hrec.congr rfl rfl rfl rfl (Int.le_refl _)
  | setEnabled i enabled =>
    cases Option.some.inj hcall
    unfold setEnabled
    split
    · exact h
    · next node hnode =>
      have hset : (s.setNode i { node with enabled := enabled }).queues = s.queues := by
        have hget : s.queues[i]? = some node.queue := by
          unfold queues
          rw [List.getElem?_map, hnode, Option.map_some]
        rw [queues_setNode]
        exact set_same hget
      have hbase : Accounts c (s.setNode i { node with enabled := enabled }) :=
        h.congr rfl rfl hset rfl (Int.le_refl _)
      refine hbase.record ?_ ?_ _ _ _
      · cases enabled <;> decide
      · cases enabled <;> decide

theorem Accounts.complete (h : Accounts c s) (packet : Packet) (delivered : Bool) :
    Accounts c (s.complete c packet delivered) := by
  unfold Sim.complete
  split
  · split
    · exact h.checkAge _ _ _ _
    · have hheard : Accounts c { s with lastHeartbeatUs := s.nowUs } := h.congr rfl rfl rfl rfl (Int.le_refl _)
      exact hheard.record (by decide) (by decide) _ _ _
  · exact h

theorem Accounts.turn [LT P] [DecidableLT P] (h : Accounts c s) (hs : Sane s) (hc : c.OnAir) {untilUs : ℤ} {draw : P}
    (hturn : s.turn c untilUs draw = some s') : Accounts c s' := by
  rcases turn_cases hs hturn with ⟨hnext, htrace, -⟩ | ⟨mid, t, callback, hnext, htrace, -, hcall⟩ |
    ⟨mid, t, tx, e, delivered, hnext, htrace, houtcome, -, rfl⟩
  · exact h.next hnext (.inl htrace)
  · exact (h.next hnext (.inl htrace)).call hnext.sane hc hcall
  · exact (h.next hnext (.inr ⟨e, htrace, houtcome⟩)).complete _ _

end Sim

/-! ## What became of what was sent -/

/-- The entry at the end of a frame of voice. -/
def voiceOutcome (e : TraceKind) : Bool := e.isDelivered || (e.isCollided || e.isLost)

theorem voiceOutcome_isOutcome {e : TraceKind} (h : voiceOutcome e = true) : e.isOutcome = true := by
  cases e with
  | collisionDetected _ => cases h
  | txStart _ _ => cases h
  | packetCollided _ => rfl
  | packetLost _ => rfl
  | packetDelivered _ _ => rfl
  | other _ => cases h

/-- What reports a transmission is about voice exactly if the packet is. -/
theorem Reports.voiceOutcome {delay : ℤ} {tx : Transmission} {e : TraceEvent} (h : Reports delay tx e) :
    voiceOutcome e.event = decide (tx.packet.kind = .voice) := by
  have hkind : decide (tx.packet.kind.value = "voice") = decide (tx.packet.kind = .voice) := by
    cases tx.packet.kind <;> decide
  rw [← hkind]
  rcases h.event with ⟨-, h⟩ | ⟨-, h | h⟩
  · rw [h]
    exact (Bool.false_or _).trans (Bool.or_false _)
  · rw [h]
    rfl
  · rw [h]
    exact Bool.or_false _

theorem ids_voiceOutcome (trace : List TraceEvent) : (ids voiceOutcome trace).Perm
    (ids TraceKind.isDelivered trace ++ (ids TraceKind.isCollided trace ++ ids TraceKind.isLost trace)) := by
  have hfirst (e : TraceEvent) (h : e.event.isDelivered = true) : (e.event.isCollided || e.event.isLost) = false := by
    cases hevent : e.event with
    | packetDelivered _ _ => rfl
    | _ => rw [hevent] at h; cases h
  have hsecond (e : TraceEvent) (h : e.event.isCollided = true) : e.event.isLost = false := by
    cases hevent : e.event with
    | packetCollided _ => rfl
    | _ => rw [hevent] at h; cases h
  unfold ids voiceOutcome
  rw [← List.map_append, ← List.map_append]
  exact ((filter_or_perm hfirst trace).trans ((filter_or_perm hsecond trace).append_left _)).map _

namespace Sim

variable {P : Type} {s s' : Sim P} {c : Config}

/-- **Each frame that was sent is on the air, or its end said once what became of it.** -/
theorem Sane.sentIds_perm (h : Sane s) : s.sentIds.Perm (s.onAir ++ (ids TraceKind.isDelivered s.trace ++
    (ids TraceKind.isCollided s.trace ++ ids TraceKind.isLost s.trace))) := by
  let packetAt (k : ℕ) : Option Packet := (s.transmissions[k]?).map Transmission.packet
  have hall : s.transmissions.map Transmission.packet = (List.range s.transmissions.length).filterMap packetAt := by
    have hrange := filterMap_range (s.transmissions.map Transmission.packet)
    rw [List.length_map] at hrange
    rw [← hrange]
    exact List.filterMap_congr fun k _ => List.getElem?_map
  have hperm : (s.transmissions.map Transmission.packet).Perm
      (s.simulation.unfinished.filterMap packetAt ++ (s.world.recorded.map fun o => o.1).filterMap packetAt) := by
    rw [hall, ← List.filterMap_append]
    exact h.sound.accounted.symm.filterMap packetAt
  have hrecorded : ∀ recorded : List (ℕ × TraceEvent), (∀ o ∈ recorded, o ∈ s.world.recorded) →
      voiceIds ((recorded.map fun o => o.1).filterMap packetAt) = ids voiceOutcome (recorded.map fun o => o.2) := by
    intro recorded
    induction recorded with
    | nil => exact fun _ => rfl
    | cons o recorded ih =>
      intro hmem
      obtain ⟨tx, htx, -, hreports⟩ := h.sound.reported o (hmem o List.mem_cons_self)
      have hat : packetAt o.1 = some tx.packet := congrArg (Option.map Transmission.packet) htx
      have ih := ih fun p hp => hmem p (List.mem_cons_of_mem o hp)
      rw [List.map_cons, List.map_cons, List.filterMap_cons_some hat]
      unfold voiceIds packetIds ids at ih ⊢
      have hkind := hreports.voiceOutcome
      rw [List.filter_cons, List.filter_cons, hkind]
      cases decide (tx.packet.kind = .voice) with
      | true => rw [if_pos rfl, if_pos rfl, List.map_cons, List.map_cons, ih, hreports.packet]
      | false => rw [if_neg Bool.false_ne_true, if_neg Bool.false_ne_true, ih]
  have htraced : ids voiceOutcome (s.world.recorded.map fun o => o.2) = ids voiceOutcome s.trace := by
    rw [← h.sound.traced]
    unfold ids
    rw [List.filter_filter]
    congr 1
    refine List.filter_congr fun e _ => ?_
    cases hv : voiceOutcome e.event with
    | false => exact Bool.false_and _
    | true => exact voiceOutcome_isOutcome hv
  have hvoice : (voiceIds (s.transmissions.map Transmission.packet)).Perm (s.onAir ++ ids voiceOutcome s.trace) := by
    rw [← htraced, ← hrecorded s.world.recorded fun _ => id]
    unfold onAir voiceIds packetIds
    rw [← List.map_append, ← List.filter_append]
    exact (hperm.filter _).map _
  exact hvoice.trans ((ids_voiceOutcome _).append_left _)

end Sim

/-- What a run says of its frames. -/
structure FramesAccounted {P : Type} (c : Config) (s : Sim P) : Prop where
  once : (ids generated s.trace).Nodup
  somewhere : (ids generated s.trace).Perm (ids overflowed s.trace ++ s.queued ++ s.onAir ++
    ids TraceKind.isDelivered s.trace ++ ids TraceKind.isCollided s.trace ++ ids TraceKind.isLost s.trace)
  summary : (summarize s.trace s.details).generated = (summarize s.trace s.details).queueOverflows +
    s.queued.length + s.onAir.length + (summarize s.trace s.details).delivered +
    (summarize s.trace s.details).collided + (summarize s.trace s.details).randomlyLost
  bounded : ∀ node ∈ s.nodes, (node.queue.length : ℤ) ≤ max 0 c.voice.maxQueueFrames

theorem length_ids (p : TraceKind → Bool) (trace : List TraceEvent) :
    (ids p trace).length = trace.countP fun e => p e.event := by
  unfold ids
  rw [List.length_map, List.countP_eq_length_filter]

theorem Sim.Accounts.framesAccounted {P : Type} {c : Config} {s : Sim P} (h : s.Accounts c) (hs : s.Sane) :
    FramesAccounted c s := by
  have hperm : (ids generated s.trace).Perm (ids overflowed s.trace ++ s.queued ++ s.onAir ++
      ids TraceKind.isDelivered s.trace ++ ids TraceKind.isCollided s.trace ++ ids TraceKind.isLost s.trace) := by
    have hall := h.all.trans ((hs.sentIds_perm.append_left s.queued).append_left _)
    simpa only [List.append_assoc] using hall
  refine ⟨h.once, hperm, ?_, fun node hnode => h.bounded _ (List.mem_map.2 ⟨node, hnode, rfl⟩)⟩
  have hlength := hperm.length_eq
  simp only [List.length_append, length_ids] at hlength
  exact hlength

/-- **Main result: no frame of a scenario is lost track of.** In every state of every run the frames that were
generated are all different, and each of them overflowed, waits in a queue, is on the air, or was delivered, collided
or lost, exactly once; so the numbers of the summary add up, and no queue is longer than it may be. -/
theorem frames_accounted {P : Type} [LT P] [DecidableLT P] {sc : Scenario P} {capacity : CapacityEstimate}
    (hcap : sc.estimateCapacity = some capacity) (hvoice : 0 < capacity.voiceAirtimeUs)
    (hheartbeat : 0 < capacity.heartbeatAirtimeUs) {draws : List P} {s : Sim P} (h : sc.run draws = some s) :
    FramesAccounted (sc.config capacity) s := by
  have hc : (sc.config capacity).OnAir := ⟨hvoice, hheartbeat⟩
  have hstart (s : Sim P) (hs : sc.Started (sc.config capacity) s) : s.Accounts (sc.config capacity) := by
    have hqueues : ∀ q ∈ s.queues, q = [] := by
      intro q hq
      obtain ⟨node, hnode, rfl⟩ := List.mem_map.1 hq
      rw [hs.nodes] at hnode
      obtain ⟨i, hi, rfl⟩ := List.mem_mapIdx.1 hnode
      rfl
    have hqueued : s.queued = [] := by
      unfold Sim.queued
      rw [List.flatMap_eq_nil_iff]
      intro q hq
      rw [hqueues q hq]
      rfl
    have hsent : s.sentIds = [] := by
      unfold Sim.sentIds
      rw [hs.transmissions]
      rfl
    have hnone (event : String) (hne : "coordinator_selected" ≠ event) : ids (TraceKind.named event) s.trace = [] := by
      rw [hs.trace]
      exact ids_none (List.forall_mem_singleton.2 (decide_eq_false hne))
    have hgenerated : ids generated s.trace = [] := hnone _ (by decide)
    refine ⟨?_, ?_, ?_, fun q hq p hp => ?_, fun q hq => ?_⟩
    · rw [hgenerated, overflowed, hnone _ (by decide), hqueued, hsent]
      exact .refl _
    · rw [hgenerated]
      exact List.forall_mem_nil _
    · rw [hgenerated]
      exact List.nodup_nil
    · rw [hqueues q hq] at hp
      cases hp
    · rw [hqueues q hq]
      exact le_max_left _ _
  have hrun := Scenario.inv_run hcap hc hstart (fun s s' draw hs hI hturn => hI.turn hs hc hturn) h
  exact hrun.2.framesAccounted hrun.1

theorem frames_accounted_twoNodes : ∃ s, Scenario.twoNodes.run (List.replicate 12 9) = some s ∧
    FramesAccounted (Scenario.twoNodes.config ⟨548, 292, 1452, 2548⟩) s := by
  have hrun : (Scenario.twoNodes.run (List.replicate 12 9)).isSome = true := by decide +kernel
  exact ⟨_, (Option.some_get hrun).symm, frames_accounted (by decide +kernel) (by decide) (by decide)
    (Option.some_get hrun).symm⟩

end OpenRef.Simulator
