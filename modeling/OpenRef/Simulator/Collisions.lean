import OpenRef.Simulator.Medium
import OpenRef.Lib.Sweep
import OpenRef.Lib.Run
/-!
# Collisions on the simulated medium

A collision is marked only when a transmission starts, against the ones in `active`, from which the events at
the ends take transmissions out in the order of the queue. `active` can name another transmission than the one
that is still waiting for its end, since `remove` goes by equality; but up to equality the transmissions on the
air are those that wait (`Sound.equal`), and every one that has not ended is there (`Sound.onAir`). So the
marks are those of `Sweep`, which looks at all the transmissions ever made, and `medium_delivers_collision_free`
follows in every state that is reached.
-/

namespace OpenRef.Simulator

/-! ## What a medium promises -/

/-- Two intervals `[start_us, end_us)` have a time in common. -/
def Transmission.Overlaps (a b : Transmission) : Prop := a.startUs < b.endUs ∧ b.startUs < a.endUs

/-- The trace entries that say what became of a transmission. -/
def TraceKind.isOutcome : TraceKind → Bool
  | .packetCollided _ | .packetLost _ | .packetDelivered _ _ => true
  | _ => false

/-- An entry reports a transmission: at its end, as collided exactly when it is marked. -/
structure Reports (propagationDelayUs : ℤ) (tx : Transmission) (e : TraceEvent) : Prop where
  atEnd : e.timeUs = tx.endUs
  node : e.nodeId = some tx.packet.sourceId
  packet : e.packetId = some tx.packet.packetId
  event : (tx.collided = true ∧ e.event = .packetCollided tx.packet.kind.value) ∨
    (tx.collided = false ∧ (e.event = .packetLost tx.packet.kind.value ∨
      e.event = .packetDelivered (tx.endUs + propagationDelayUs - tx.packet.createdAtUs) tx.packet.kind.value))

/-- The transmission that a callback finishes. -/
def Callback.transmission : Callback → Option ℕ
  | .node => none
  | .finish tx => some tx

/-- The transmissions that are not finished: those whose event is in the queue. -/
def Simulation.unfinished (s : Simulation) : List ℕ := s.events.filterMap fun e => e.callback.transmission

/-- The call of `transmit` that a transmission comes from. -/
def Transmission.call (tx : Transmission) : TransmitCall := ⟨tx.packet, tx.startUs, tx.endUs⟩

/-- What a medium promises after these calls of `transmit`: there is one transmission for each, it collided
when it overlaps another one, and it has one outcome when its event is through. Turns of the loop, as many as
there are events, take it to where none is due, and there all that ended have their outcome. -/
structure Delivers {P : Type} [LT P] [DecidableLT P] (calls : List TransmitCall) (r : MediumRun P) : Prop where
  called : r.medium.transmissions.map Transmission.call = calls
  collided : ∀ (k : ℕ) (tx : Transmission), r.medium.transmissions[k]? = some tx →
    (tx.collided = true ↔ ∃ j other, j ≠ k ∧ r.medium.transmissions[j]? = some other ∧ tx.Overlaps other)
  finished : ∀ (k : ℕ) (tx : Transmission), r.medium.transmissions[k]? = some tx →
    k ∉ r.medium.simulation.unfinished → ∃ e, r.outcomes k = [e] ∧ Reports r.medium.propagationDelayUs tx e
  unfinished : ∀ k ∈ r.medium.simulation.unfinished, r.outcomes k = [] ∧
    ∃ tx, r.medium.transmissions[k]? = some tx ∧ r.medium.simulation.nowUs ≤ tx.endUs
  ended : ∀ untilUs, r.medium.simulation.due untilUs = none → ∀ (k : ℕ) (tx : Transmission),
    r.medium.transmissions[k]? = some tx → tx.endUs ≤ untilUs →
      ∃ e, r.outcomes k = [e] ∧ Reports r.medium.propagationDelayUs tx e
  runsOut : ∀ untilUs (draws : List P), r.medium.simulation.events.length ≤ draws.length →
    ((draws.map (MediumRun.Step.turn untilUs)).foldl MediumRun.step r).medium.simulation.due untilUs = none
  traced : r.medium.simulation.trace.filter (fun e => e.event.isOutcome) = r.recorded.map fun o => o.2
  recorded : ∀ o ∈ r.recorded, ∃ tx, r.medium.transmissions[o.1]? = some tx ∧
    Reports r.medium.propagationDelayUs tx o.2
  delivered : ∀ e ∈ r.medium.simulation.trace, ∀ latencyUs kind, e.event = .packetDelivered latencyUs kind →
    ∃ k tx, r.medium.transmissions[k]? = some tx ∧ e ∈ r.outcomes k ∧ tx.collided = false ∧
      ∀ (j : ℕ) (other : Transmission), j ≠ k → r.medium.transmissions[j]? = some other → ¬ tx.Overlaps other

/-! ## Lists -/

/-- `remove` takes one of the equal ones: up to equality it does not matter which. -/
theorem map_eraseP {α : Type*} [DecidableEq α] [BEq α] [LawfulBEq α] (f : ℕ → α) (a : α) (l : List ℕ) :
    (l.eraseP fun i => decide (f i = a)).map f = (l.map f).erase a := by
  rw [List.erase_eq_eraseP', List.eraseP_map]
  congr 2
  funext i
  rw [Function.comp_apply, Bool.eq_iff_iff, decide_eq_true_iff, beq_iff_eq]

/-- Where no key occurs twice, an entry is all that there is of its key. -/
theorem filter_key {α : Type*} {l : List (ℕ × α)} (h : (l.map fun o => o.1).Nodup) {o : ℕ × α} (ho : o ∈ l) :
    l.filter (fun p => p.1 = o.1) = [o] := by
  induction l with
  | nil => cases ho
  | cons p l ih =>
    rw [List.map_cons, List.nodup_cons] at h
    rcases List.mem_cons.1 ho with rfl | ho
    · have hpos : decide (o.1 = o.1) = true := decide_eq_true rfl
      rw [List.filter_cons, if_pos hpos, List.filter_eq_nil_iff.2 fun p hp => ?_]
      rw [decide_eq_true_eq]
      exact fun he => h.1 (List.mem_map.2 ⟨p, hp, he⟩)
    · have hne : p.1 ≠ o.1 := fun he => h.1 (List.mem_map.2 ⟨o, ho, he.symm⟩)
      rw [List.filter_cons_of_neg (by rwa [decide_eq_true_eq]), ih h.2 ho]

/-! ## The queue -/

namespace ScheduledEvent

theorem before_time {a b : ScheduledEvent} (h : a.before b) : a.timeUs ≤ b.timeUs := by
  rcases h with h | ⟨h, -⟩
  · exact h.le
  · exact h.le

instance : Std.Total before where
  total a b := by
    unfold before
    omega

instance : IsTrans ScheduledEvent before where
  trans a b c := by
    unfold before
    omega

end ScheduledEvent

/-- The queue is in order, and nothing in it lies in the past. -/
structure Simulation.Ordered (s : Simulation) : Prop where
  ordered : s.events.Pairwise ScheduledEvent.before
  future : ∀ e ∈ s.events, s.nowUs ≤ e.timeUs

namespace Simulation

variable {s : Simulation}

theorem scheduleAt_of_le {timeUs : ℤ} (h : s.nowUs ≤ timeUs) (callback : Callback) : s.scheduleAt timeUs callback =
    { s with events := s.events.orderedInsert ScheduledEvent.before ⟨timeUs, s.sequence, callback⟩
             sequence := s.sequence + 1 } := by
  unfold scheduleAt
  rw [if_neg (not_lt.2 h)]

theorem Ordered.scheduleAt (h : s.Ordered) (timeUs : ℤ) (callback : Callback) :
    (s.scheduleAt timeUs callback).Ordered := by
  by_cases hpast : timeUs < s.nowUs
  · unfold Simulation.scheduleAt
    rw [if_pos hpast]
    exact h
  · rw [scheduleAt_of_le (not_lt.1 hpast)]
    refine ⟨h.ordered.orderedInsert _ _, fun e he => ?_⟩
    rcases (List.mem_orderedInsert _).1 he with rfl | he
    · exact not_lt.1 hpast
    · exact h.future e he

/-- A new event in the queue finishes what it says, next to the others. -/
theorem unfinished_scheduleAt {timeUs : ℤ} (h : s.nowUs ≤ timeUs) (callback : Callback) :
    (s.scheduleAt timeUs callback).unfinished.Perm (callback.transmission.toList ++ s.unfinished) := by
  rw [scheduleAt_of_le h]
  refine ((List.perm_orderedInsert _ _ _).filterMap _).trans ?_
  rw [List.filterMap_cons]
  cases callback with
  | node => exact .refl _
  | finish tx => exact .refl _

theorem mem_scheduleAt {timeUs : ℤ} {callback : Callback} {e : ScheduledEvent}
    (he : e ∈ (s.scheduleAt timeUs callback).events) : e ∈ s.events ∨ (e.timeUs = timeUs ∧ e.callback = callback) := by
  unfold scheduleAt at he
  split at he
  · exact .inl he
  · rcases (List.mem_orderedInsert _).1 he with rfl | he
    · exact .inr ⟨rfl, rfl⟩
    · exact .inl he

/-- Nothing in the queue comes before its head. -/
theorem Ordered.head_le (h : s.Ordered) {head : ScheduledEvent} {rest : List ScheduledEvent}
    (hevents : s.events = head :: rest) : ∀ e ∈ s.events, head.timeUs ≤ e.timeUs := by
  have hord := h.ordered
  rw [hevents] at hord ⊢
  intro e he
  rcases List.mem_cons.1 he with rfl | he
  · exact Int.le_refl _
  · exact ScheduledEvent.before_time (List.rel_of_pairwise_cons hord he)

/-- A run ends at a time before all that is left. -/
theorem Ordered.due_none_iff (h : s.Ordered) {untilUs : ℤ} :
    s.due untilUs = none ↔ ∀ e ∈ s.events, untilUs < e.timeUs := by
  unfold due
  split
  · next hevents =>
    rw [hevents]
    exact iff_of_true rfl (List.forall_mem_nil _)
  · next head rest hevents =>
    split
    · next hlt => exact iff_of_true rfl fun e he => hlt.trans_le (h.head_le hevents e he)
    · next hle => exact iff_of_false nofun fun hall => hle (hall head (by rw [hevents]; exact List.mem_cons_self))

theorem due_some {untilUs : ℤ} {head : ScheduledEvent} {rest : List ScheduledEvent}
    (hd : s.due untilUs = some (head, rest)) : s.events = head :: rest := by
  unfold due at hd
  split at hd
  · cases hd
  · next heq =>
    split at hd
    · cases hd
    · cases hd
      exact heq

theorem Ordered.pop (h : s.Ordered) {head : ScheduledEvent} {rest : List ScheduledEvent}
    (hevents : s.events = head :: rest) :
    rest.Pairwise ScheduledEvent.before ∧ ∀ e ∈ rest, s.nowUs ≤ e.timeUs := by
  refine ⟨?_, fun e he => h.future e ?_⟩
  · have hord := h.ordered
    rw [hevents] at hord
    exact hord.of_cons
  · rw [hevents]
    exact List.mem_cons_of_mem head he

@[simp] theorem scheduleAt_nowUs (timeUs : ℤ) (callback : Callback) :
    (s.scheduleAt timeUs callback).nowUs = s.nowUs := by
  unfold scheduleAt
  split <;> rfl

@[simp] theorem scheduleAt_trace (timeUs : ℤ) (callback : Callback) :
    (s.scheduleAt timeUs callback).trace = s.trace := by
  unfold scheduleAt
  split <;> rfl

end Simulation

/-! ## A transmission starts -/

@[simp] theorem Transmission.collide_false (tx : Transmission) : tx.collide false = tx := by
  unfold collide
  rw [Bool.or_false]

@[simp] theorem Transmission.collide_collide (b c : Bool) (tx : Transmission) :
    (tx.collide b).collide c = tx.collide (b || c) := by
  unfold collide
  dsimp only
  rw [Bool.or_assoc]

namespace SharedMedium

variable {P : Type}

/-- A transmission has not ended. -/
def running (m : SharedMedium P) (i : ℕ) : Bool :=
  (m.transmissions[i]?).any fun t => decide (m.simulation.nowUs < t.endUs)

/-- What the loop over `active` leaves as it was. -/
structure SameButMarks (m m' : SharedMedium P) : Prop where
  now : m'.simulation.nowUs = m.simulation.nowUs
  events : m'.simulation.events = m.simulation.events
  outcomes : m'.simulation.trace.filter (fun e => e.event.isOutcome) =
    m.simulation.trace.filter fun e => e.event.isOutcome
  delay : m'.propagationDelayUs = m.propagationDelayUs
  active : m'.active = m.active

theorem filter_record {s : Simulation} {event : TraceKind} (h : event.isOutcome = false) (nodeId packetId : Option ℤ) :
    (s.record event nodeId packetId).trace.filter (fun e => e.event.isOutcome) =
      s.trace.filter fun e => e.event.isOutcome := by
  unfold Simulation.record
  rw [List.filter_append, List.filter_cons_of_neg (by rw [h]; exact Bool.false_ne_true), List.filter_nil,
    List.append_nil]

/-- One round marks the transmission it looks at and the new one, if the first is still running. -/
theorem detect_cases (packet : Packet) (new : ℕ) (m : SharedMedium P) (i : ℕ) :
    (m.running i = false ∧ detect packet new m i = m) ∨ ∃ other, m.transmissions[i]? = some other ∧
      m.running i = true ∧ detect packet new m i = SharedMedium.record
        { m with transmissions := (m.transmissions.modify i (.collide true)).modify new (.collide true) }
        (.collisionDetected other.packet.packetId) packet := by
  unfold detect running
  cases hi : m.transmissions[i]? with
  | none => exact .inl ⟨rfl, rfl⟩
  | some other =>
    dsimp only
    rw [Option.any_some]
    by_cases hrun : m.simulation.nowUs < other.endUs
    · rw [if_pos hrun]
      exact .inr ⟨other, rfl, decide_eq_true hrun, rfl⟩
    · rw [if_neg hrun]
      exact .inl ⟨decide_eq_false hrun, rfl⟩

theorem detect_same (packet : Packet) (new : ℕ) (m : SharedMedium P) (i : ℕ) :
    SameButMarks m (detect packet new m i) := by
  rcases detect_cases packet new m i with ⟨-, h⟩ | ⟨other, -, -, h⟩
  · rw [h]
    exact ⟨rfl, rfl, rfl, rfl, rfl⟩
  · rw [h]
    exact ⟨rfl, rfl, filter_record rfl _ _, rfl, rfl⟩

theorem SameButMarks.trans {m m' m'' : SharedMedium P} (h : SameButMarks m m') (h' : SameButMarks m' m'') :
    SameButMarks m m'' :=
  ⟨h'.now.trans h.now, h'.events.trans h.events, h'.outcomes.trans h.outcomes, h'.delay.trans h.delay,
    h'.active.trans h.active⟩

theorem detect_getElem? (packet : Packet) (new : ℕ) (m : SharedMedium P) (i k : ℕ) :
    (detect packet new m i).transmissions[k]? =
      (m.transmissions[k]?).map (.collide (m.running i && (decide (k = i) || decide (k = new)))) := by
  rcases detect_cases packet new m i with ⟨hrun, h⟩ | ⟨other, -, hrun, h⟩
  · rw [h, hrun, Bool.false_and]
    cases m.transmissions[k]? with
    | none => rfl
    | some t => rw [Option.map_some, Transmission.collide_false]
  · rw [h, hrun, Bool.true_and]
    unfold SharedMedium.record
    dsimp only
    rw [List.getElem?_modify, List.getElem?_modify]
    cases m.transmissions[k]? with
    | none => rfl
    | some t =>
      rw [Option.map_eq_map, Option.map_eq_map, Option.map_some, Option.map_some, Option.map_some]
      by_cases hi : i = k <;> by_cases hn : new = k <;>
        simp [hi, hn, eq_comm (a := k)]

theorem detect_running (packet : Packet) (new : ℕ) (m : SharedMedium P) (i k : ℕ) :
    (detect packet new m i).running k = m.running k := by
  unfold running
  rw [detect_getElem?, (detect_same packet new m i).now]
  cases m.transmissions[k]? with
  | none => rfl
  | some t => rfl

theorem foldl_detect_getElem? (packet : Packet) (new : ℕ) (k : ℕ) : ∀ (active : List ℕ) (m : SharedMedium P),
    (active.foldl (detect packet new) m).transmissions[k]? = (m.transmissions[k]?).map
      (.collide ((active.contains k && m.running k) || (decide (k = new) && active.any m.running)))
  | [], m => by
    rw [List.foldl_nil, List.contains_nil, List.any_nil, Bool.false_and, Bool.and_false, Bool.or_false]
    cases m.transmissions[k]? with
    | none => rfl
    | some t => rw [Option.map_some, Transmission.collide_false]
  | i :: active, m => by
    have hrun : (detect packet new m i).running = m.running := funext (detect_running packet new m i)
    rw [List.foldl_cons, foldl_detect_getElem? packet new k active, detect_getElem?, hrun, Option.map_map]
    congr 1
    funext t
    rw [Function.comp_apply, Transmission.collide_collide, List.contains_cons, List.any_cons]
    congr 1
    by_cases hi : k = i
    · subst hi
      cases m.running k <;> simp
    · simp [hi]
      grind

theorem foldl_detect_same (packet : Packet) (new : ℕ) (active : List ℕ) (m : SharedMedium P) :
    SameButMarks m (active.foldl (detect packet new) m) :=
  Run.inv_run (fun m' i h => h.trans (detect_same packet new m' i)) ⟨rfl, rfl, rfl, rfl, rfl⟩ active

/-- The medium in which a transmission looks for others: it is an object already. -/
def started (m : SharedMedium P) (packet : Packet) (airtimeUs : ℤ) : SharedMedium P :=
  { m with transmissions := m.transmissions ++
      [⟨packet, m.simulation.nowUs, m.simulation.nowUs + airtimeUs, false⟩] }

theorem running_started {m : SharedMedium P} {i : ℕ} (hi : i < m.transmissions.length) (packet : Packet)
    (airtimeUs : ℤ) : (m.started packet airtimeUs).running i = m.running i := by
  unfold running started
  dsimp only
  rw [List.getElem?_append_left hi]

/-- What `transmit` does beside the marks: a transmission is put on the air, and its end into the queue. -/
theorem transmit_spec (m : SharedMedium P) (packet : Packet) {airtimeUs : ℤ} (h : 0 < airtimeUs) : ∃ s : Simulation,
    s.nowUs = m.simulation.nowUs ∧ s.events = m.simulation.events ∧
      s.trace.filter (fun e => e.event.isOutcome) = m.simulation.trace.filter (fun e => e.event.isOutcome) ∧
      (m.transmit packet airtimeUs).simulation =
        s.scheduleAt (m.simulation.nowUs + airtimeUs) (.finish m.transmissions.length) ∧
      (m.transmit packet airtimeUs).active = m.active ++ [m.transmissions.length] ∧
      (m.transmit packet airtimeUs).propagationDelayUs = m.propagationDelayUs := by
  have hsame := foldl_detect_same packet m.transmissions.length m.active (m.started packet airtimeUs)
  generalize hnext : m.active.foldl (detect packet m.transmissions.length) (m.started packet airtimeUs) = next at hsame
  have htransmit : m.transmit packet airtimeUs = { SharedMedium.record
      { next with active := next.active ++ [m.transmissions.length] } (.txStart airtimeUs packet.kind.value) packet with
        simulation := (next.simulation.record (.txStart airtimeUs packet.kind.value) (some packet.sourceId)
          (some packet.packetId)).schedule airtimeUs (.finish m.transmissions.length) } := by
    rw [← hnext]
    rfl
  rw [htransmit]
  refine ⟨next.simulation.record (.txStart airtimeUs packet.kind.value) (some packet.sourceId) (some packet.packetId),
    hsame.now, hsame.events, (filter_record rfl _ _).trans hsame.outcomes, ?_, ?_, hsame.delay⟩
  · dsimp only
    unfold Simulation.schedule
    rw [if_neg (not_lt.2 h.le)]
    congr 2
    exact hsame.now
  · exact congrArg (· ++ [m.transmissions.length]) hsame.active

theorem transmit_now (m : SharedMedium P) (packet : Packet) {airtimeUs : ℤ} (h : 0 < airtimeUs) :
    (m.transmit packet airtimeUs).simulation.nowUs = m.simulation.nowUs := by
  obtain ⟨s, hnow, -, -, hsim, -⟩ := m.transmit_spec packet h
  rw [hsim, Simulation.scheduleAt_nowUs, hnow]

/-- The new transmission is not finished, nor are those that were not before. -/
theorem transmit_unfinished (m : SharedMedium P) (packet : Packet) {airtimeUs : ℤ} (h : 0 < airtimeUs) :
    (m.transmit packet airtimeUs).simulation.unfinished.Perm
      (m.transmissions.length :: m.simulation.unfinished) := by
  obtain ⟨s, hnow, hevents, -, hsim, -⟩ := m.transmit_spec packet h
  have hsame : s.unfinished = m.simulation.unfinished := by
    unfold Simulation.unfinished
    rw [hevents]
  have hle : s.nowUs ≤ m.simulation.nowUs + airtimeUs := by omega
  have hperm := Simulation.unfinished_scheduleAt hle (.finish m.transmissions.length)
  rw [hsame] at hperm
  rw [hsim]
  exact hperm

/-- An event of the queue was there before, or is the end of the new transmission. -/
theorem mem_transmit (m : SharedMedium P) (packet : Packet) {airtimeUs : ℤ} (h : 0 < airtimeUs) {e : ScheduledEvent}
    (he : e ∈ (m.transmit packet airtimeUs).simulation.events) : e ∈ m.simulation.events ∨
      (e.timeUs = m.simulation.nowUs + airtimeUs ∧ e.callback = .finish m.transmissions.length) := by
  obtain ⟨s, -, hevents, -, hsim, -⟩ := m.transmit_spec packet h
  rw [hsim] at he
  rw [← hevents]
  exact Simulation.mem_scheduleAt he

theorem transmit_ordered {m : SharedMedium P} (hm : m.simulation.Ordered) (packet : Packet) {airtimeUs : ℤ}
    (h : 0 < airtimeUs) : (m.transmit packet airtimeUs).simulation.Ordered := by
  obtain ⟨s, hnow, hevents, -, hsim, -⟩ := m.transmit_spec packet h
  have hs : s.Ordered := by
    refine ⟨?_, ?_⟩
    · rw [hevents]
      exact hm.ordered
    · rw [hevents, hnow]
      exact hm.future
  rw [hsim]
  exact hs.scheduleAt _ _

end SharedMedium

/-! ## A turn of the loop -/

namespace SharedMedium

variable {P : Type} [LT P] [DecidableLT P]

/-- The clock goes on. -/
def wait (m : SharedMedium P) (timeUs : ℤ) : SharedMedium P :=
  { m with simulation := { m.simulation with nowUs := timeUs } }

/-- The first event is taken from the queue. -/
def pop (m : SharedMedium P) (rest : List ScheduledEvent) : SharedMedium P :=
  { m with simulation := { m.simulation with events := rest } }

/-- The first transmission that is equal to one is taken from the air. -/
def remove (m : SharedMedium P) (k : ℕ) : SharedMedium P :=
  { m with active := m.active.eraseP fun i => decide (m.transmissions[i]? = m.transmissions[k]?) }

/-- A turn does nothing, ends the run, or goes on to the first event and calls it. -/
theorem turn_cases (m : SharedMedium P) (untilUs : ℤ) (draw : P) :
    (m.turn untilUs draw = m ∧ MediumRun.finishes m untilUs = none) ∨
    (m.simulation.nowUs ≤ untilUs ∧ m.simulation.due untilUs = none ∧ m.turn untilUs draw = m.wait untilUs ∧
      MediumRun.finishes m untilUs = none) ∨
    ∃ head rest, m.simulation.events = head :: rest ∧
      ((head.callback = .node ∧ m.turn untilUs draw = (m.wait head.timeUs).pop rest ∧
        MediumRun.finishes m untilUs = none) ∨
      ∃ k, head.callback = .finish k ∧ m.turn untilUs draw = ((m.wait head.timeUs).pop rest).finish k draw ∧
        MediumRun.finishes m untilUs = some k) := by
  unfold turn MediumRun.finishes
  by_cases hback : untilUs < m.simulation.nowUs
  · rw [if_pos hback, if_pos hback]
    exact .inl ⟨rfl, rfl⟩
  · rw [if_neg hback, if_neg hback]
    refine .inr ?_
    cases hdue : m.simulation.due untilUs with
    | none => exact .inl ⟨not_lt.1 hback, rfl, rfl, rfl⟩
    | some d =>
      obtain ⟨⟨timeUs, order, callback⟩, rest⟩ := d
      refine .inr ⟨_, rest, Simulation.due_some hdue, ?_⟩
      cases callback with
      | node => exact .inl ⟨rfl, rfl, rfl⟩
      | finish k => exact .inr ⟨k, rfl, rfl, rfl⟩

theorem finish_same (m : SharedMedium P) (tx : ℕ) (draw : P) : (m.finish tx draw).transmissions = m.transmissions ∧
    (m.finish tx draw).simulation.events = m.simulation.events := by
  unfold finish
  dsimp only
  split
  · exact ⟨rfl, rfl⟩
  · split <;> exact ⟨rfl, rfl⟩

theorem turn_transmissions (m : SharedMedium P) (untilUs : ℤ) (draw : P) :
    (m.turn untilUs draw).transmissions = m.transmissions := by
  rcases m.turn_cases untilUs draw with ⟨h, -⟩ | ⟨-, -, h, -⟩ | ⟨head, rest, -, ⟨-, h, -⟩ | ⟨k, -, h, -⟩⟩ <;> rw [h]
  · rfl
  · rfl
  · exact (finish_same _ k draw).1

/-- A turn takes the event that is due from the queue. -/
theorem turn_events {m : SharedMedium P} (hm : m.simulation.Ordered) (untilUs : ℤ) (draw : P) :
    (m.turn untilUs draw).simulation.events = ((m.simulation.due untilUs).map Prod.snd).getD m.simulation.events := by
  unfold turn
  split
  · next hback =>
    rw [hm.due_none_iff.2 fun e he => hback.trans_le (hm.future e he)]
    rfl
  · cases m.simulation.due untilUs with
    | none => rfl
    | some d =>
      obtain ⟨⟨timeUs, order, callback⟩, rest⟩ := d
      cases callback with
      | node => rfl
      | finish k => exact (finish_same _ k draw).2

/-- What is recorded at an end reports its transmission. -/
theorem reports_outcome (m : SharedMedium P) (tx : Transmission) (draw : P) (hend : tx.endUs = m.simulation.nowUs) :
    Reports m.propagationDelayUs tx
      ⟨m.simulation.nowUs, m.outcome tx draw, some tx.packet.sourceId, some tx.packet.packetId⟩ := by
  refine ⟨hend.symm, rfl, rfl, ?_⟩
  dsimp only
  unfold outcome
  cases hc : tx.collided with
  | true => exact .inl ⟨rfl, rfl⟩
  | false =>
    refine .inr ⟨rfl, ?_⟩
    rw [if_neg Bool.false_ne_true, hend]
    split
    · exact .inl rfl
    · exact .inr rfl

theorem outcome_isOutcome (m : SharedMedium P) (tx : Transmission) (draw : P) :
    (m.outcome tx draw).isOutcome = true := by
  unfold outcome
  split
  · rfl
  · split <;> rfl

end SharedMedium

/-! ## The invariant -/

/-- The interval of a transmission and its mark. -/
def Transmission.span (tx : Transmission) : Sweep.Span ℤ := ⟨tx.startUs, tx.endUs, tx.collided⟩

/-- A transmission as another one leaves it that starts now. -/
def Transmission.heard (now : ℤ) (tx : Transmission) : Transmission := tx.collide (decide (now < tx.endUs))

/-- One that has ended is left as it is. -/
theorem Transmission.heard_of_le {now : ℤ} {tx : Transmission} (h : tx.endUs ≤ now) : tx.heard now = tx := by
  unfold heard
  rw [decide_eq_false (not_lt.2 h), collide_false]

/-- What holds of a medium between two calls. -/
structure Sound {P : Type} (r : MediumRun P) : Prop where
  queue : r.medium.simulation.Ordered
  ends : ∀ e ∈ r.medium.simulation.events, ∀ k, e.callback = .finish k →
    ∃ tx, r.medium.transmissions[k]? = some tx ∧ tx.endUs = e.timeUs
  accounted : (r.medium.simulation.unfinished ++ r.recorded.map fun o => o.1).Perm
    (List.range r.medium.transmissions.length)
  started : ∀ tx ∈ r.medium.transmissions, tx.startUs ≤ r.medium.simulation.nowUs
  onAir : ∀ (k : ℕ) (tx : Transmission), r.medium.transmissions[k]? = some tx →
    r.medium.simulation.nowUs < tx.endUs → k ∈ r.medium.active
  known : ∀ i ∈ r.medium.active, i < r.medium.transmissions.length
  equal : (r.medium.active.map fun i => r.medium.transmissions[i]?).Perm
    (r.medium.simulation.unfinished.map fun i => r.medium.transmissions[i]?)
  exact : Sweep.Exact (r.medium.transmissions.map Transmission.span)
  reported : ∀ o ∈ r.recorded, ∃ tx, r.medium.transmissions[o.1]? = some tx ∧
    tx.endUs ≤ r.medium.simulation.nowUs ∧ Reports r.medium.propagationDelayUs tx o.2
  traced : r.medium.simulation.trace.filter (fun e => e.event.isOutcome) = r.recorded.map fun o => o.2

namespace Sound

variable {P : Type} {r : MediumRun P}

theorem init (propagationDelayUs : ℤ) (baseLoss : P) : Sound (MediumRun.start propagationDelayUs baseLoss) :=
  ⟨⟨List.Pairwise.nil, List.forall_mem_nil _⟩, List.forall_mem_nil _, .refl _, List.forall_mem_nil _,
    fun k tx h => (by cases h), List.forall_mem_nil _, .refl _, Sweep.exact_nil, List.forall_mem_nil _, rfl⟩

theorem unfinished_lt (h : Sound r) {k : ℕ} (hk : k ∈ r.medium.simulation.unfinished) :
    k < r.medium.transmissions.length :=
  List.mem_range.1 (h.accounted.mem_iff.1 (List.mem_append_left _ hk))

/-- A transmission that has not ended is one of `active`. -/
theorem contains_running (h : Sound r) {k : ℕ} {tx : Transmission} (hk : r.medium.transmissions[k]? = some tx) :
    (r.medium.active.contains k && decide (r.medium.simulation.nowUs < tx.endUs)) =
      decide (r.medium.simulation.nowUs < tx.endUs) := by
  by_cases hrun : r.medium.simulation.nowUs < tx.endUs
  · rw [List.contains_iff_mem.2 (h.onAir k tx hk hrun), Bool.true_and]
  · rw [decide_eq_false hrun, Bool.and_false]

/-- Some transmission of `active` has not ended exactly when any has not. -/
theorem any_running (h : Sound r) : r.medium.active.any r.medium.running =
    r.medium.transmissions.any fun t => decide (r.medium.simulation.nowUs < t.endUs) := by
  rw [Bool.eq_iff_iff, List.any_eq_true, List.any_eq_true]
  constructor
  · rintro ⟨i, -, hrun⟩
    unfold SharedMedium.running at hrun
    cases ht : r.medium.transmissions[i]? with
    | none =>
      rw [ht] at hrun
      cases hrun
    | some t =>
      rw [ht] at hrun
      exact ⟨t, List.mem_of_getElem? ht, hrun⟩
  · rintro ⟨t, ht, hend⟩
    obtain ⟨i, hi⟩ := List.getElem?_of_mem ht
    refine ⟨i, h.onAir i t hi (of_decide_eq_true hend), ?_⟩
    unfold SharedMedium.running
    rw [hi, Option.any_some]
    exact hend

/-- **A new transmission meets all that have not ended.** -/
theorem transmit_transmissions (h : Sound r) (packet : Packet) (airtimeUs : ℤ) :
    (r.medium.transmit packet airtimeUs).transmissions =
      r.medium.transmissions.map (.heard r.medium.simulation.nowUs) ++
        [⟨packet, r.medium.simulation.nowUs, r.medium.simulation.nowUs + airtimeUs,
          r.medium.transmissions.any fun t => decide (r.medium.simulation.nowUs < t.endUs)⟩] := by
  change (r.medium.active.foldl (SharedMedium.detect packet r.medium.transmissions.length)
    (r.medium.started packet airtimeUs)).transmissions = _
  have hany : r.medium.active.any (r.medium.started packet airtimeUs).running =
      r.medium.active.any r.medium.running := by
    rw [Bool.eq_iff_iff, List.any_eq_true, List.any_eq_true]
    refine exists_congr fun i => and_congr_right fun hi => ?_
    rw [SharedMedium.running_started (h.known i hi)]
  apply List.ext_getElem?
  intro k
  rw [SharedMedium.foldl_detect_getElem?, hany, h.any_running]
  rcases Nat.lt_trichotomy k r.medium.transmissions.length with hlt | heq | hgt
  · have hold := List.getElem?_eq_getElem hlt
    generalize r.medium.transmissions[k] = t at hold
    have hrun : r.medium.running k = decide (r.medium.simulation.nowUs < t.endUs) := by
      unfold SharedMedium.running
      rw [hold, Option.any_some]
    rw [SharedMedium.running_started hlt, hrun, h.contains_running hold, decide_eq_false hlt.ne, Bool.false_and,
      Bool.or_false, List.getElem?_append_left (by rwa [List.length_map]), List.getElem?_map, hold]
    unfold SharedMedium.started
    rw [List.getElem?_append_left hlt, hold]
    rfl
  · subst heq
    have hnot : r.medium.active.contains r.medium.transmissions.length = false := by
      rw [Bool.eq_false_iff]
      exact fun hc => lt_irrefl _ (h.known _ (List.contains_iff_mem.1 hc))
    rw [hnot, Bool.false_and, Bool.false_or, decide_eq_true rfl, Bool.true_and,
      List.getElem?_append_right (by rw [List.length_map]), List.length_map, Nat.sub_self]
    unfold SharedMedium.started
    rw [List.getElem?_append_right (Nat.le_refl _), Nat.sub_self]
    rfl
  · have hlen (l : List Transmission) (t : Transmission) (hl : l.length = r.medium.transmissions.length) :
        (l ++ [t])[k]? = none := by
      rw [List.getElem?_eq_none_iff, List.length_append, List.length_singleton, hl]
      exact hgt
    rw [hlen _ _ (List.length_map _)]
    unfold SharedMedium.started
    rw [hlen _ _ rfl]
    rfl

section
variable (h : Sound r) (packet : Packet) (airtimeUs : ℤ)
include h

theorem transmit_getElem? {k : ℕ} {t : Transmission} :
    (r.medium.transmit packet airtimeUs).transmissions[k]? = some t ↔
      (∃ u, r.medium.transmissions[k]? = some u ∧ u.heard r.medium.simulation.nowUs = t) ∨
      (k = r.medium.transmissions.length ∧ t = ⟨packet, r.medium.simulation.nowUs,
        r.medium.simulation.nowUs + airtimeUs,
        r.medium.transmissions.any fun t => decide (r.medium.simulation.nowUs < t.endUs)⟩) := by
  rw [h.transmit_transmissions]
  exact Sweep.getElem?_map_concat

/-- The transmissions of the medium are marked like all the spans that ever started. -/
theorem transmit_span : (r.medium.transmit packet airtimeUs).transmissions.map Transmission.span =
    Sweep.add r.medium.simulation.nowUs (r.medium.simulation.nowUs + airtimeUs)
      (r.medium.transmissions.map Transmission.span) := by
  rw [h.transmit_transmissions, List.map_append, List.map_map]
  unfold Sweep.add
  rw [List.map_map, List.any_map]
  rfl

theorem transmit_getElem?_old {k : ℕ} (hk : k < r.medium.transmissions.length) :
    (r.medium.transmit packet airtimeUs).transmissions[k]? =
      (r.medium.transmissions[k]?).map (.heard r.medium.simulation.nowUs) := by
  rw [h.transmit_transmissions, List.getElem?_append_left (by rwa [List.length_map]), List.getElem?_map]

theorem transmit_length :
    (r.medium.transmit packet airtimeUs).transmissions.length = r.medium.transmissions.length + 1 := by
  rw [h.transmit_transmissions, List.length_append, List.length_map, List.length_singleton]

end

/-- Up to equality the transmissions on the air are still those that are not finished. -/
theorem transmit_equal (h : Sound r) (packet : Packet) {airtimeUs : ℤ} (hair : 0 < airtimeUs) :
    ((r.medium.transmit packet airtimeUs).active.map fun i =>
        (r.medium.transmit packet airtimeUs).transmissions[i]?).Perm
      ((r.medium.transmit packet airtimeUs).simulation.unfinished.map fun i =>
        (r.medium.transmit packet airtimeUs).transmissions[i]?) := by
  obtain ⟨s, -, -, -, -, hactive, -⟩ := r.medium.transmit_spec packet hair
  -- what a start does to a transmission depends on its value only
  have hmap {l : List ℕ} (hl : ∀ i ∈ l, i < r.medium.transmissions.length) :
      (l.map fun i => (r.medium.transmit packet airtimeUs).transmissions[i]?) =
        (l.map fun i => r.medium.transmissions[i]?).map (Option.map (.heard r.medium.simulation.nowUs)) := by
    rw [List.map_map]
    exact List.map_congr_left fun i hi => h.transmit_getElem?_old packet airtimeUs (hl i hi)
  have hunfinished := (r.medium.transmit_unfinished packet hair).map fun i =>
    (r.medium.transmit packet airtimeUs).transmissions[i]?
  rw [hactive, List.map_append]
  refine (List.perm_append_singleton _ _).trans (List.Perm.trans ?_ hunfinished.symm)
  rw [List.map_cons, hmap h.known, hmap fun i hi => h.unfinished_lt hi]
  exact (h.equal.map _).cons _

/-- **A transmission keeps the invariant.** -/
theorem transmit (h : Sound r) (packet : Packet) {airtimeUs : ℤ} (hair : 0 < airtimeUs) :
    Sound ⟨r.medium.transmit packet airtimeUs, r.recorded⟩ := by
  obtain ⟨s, -, -, htrace, hsim, hactive, hdelay⟩ := r.medium.transmit_spec packet hair
  have hnow := r.medium.transmit_now packet hair
  have hget {k : ℕ} {t : Transmission} := h.transmit_getElem? packet airtimeUs (k := k) (t := t)
  refine ⟨SharedMedium.transmit_ordered h.queue packet hair, fun e he k hc => ?_, ?_, fun tx htx => ?_,
    fun k tx hk hrun => ?_, fun i hi => ?_, h.transmit_equal packet hair, ?_, fun o ho => ?_, ?_⟩
  · rcases SharedMedium.mem_transmit _ packet hair he with he | ⟨htime, hnew⟩
    · obtain ⟨tx, htx, hend⟩ := h.ends e he k hc
      exact ⟨_, hget.2 (.inl ⟨tx, htx, rfl⟩), hend⟩
    · cases hnew.symm.trans hc
      exact ⟨_, hget.2 (.inr ⟨rfl, rfl⟩), htime.symm⟩
  · dsimp only
    rw [h.transmit_length, List.range_succ]
    have hperm := (r.medium.transmit_unfinished packet hair).append_right (r.recorded.map fun o => o.1)
    exact (hperm.trans (h.accounted.cons _)).trans (List.perm_append_singleton _ _).symm
  · dsimp only at htx ⊢
    rw [hnow]
    obtain ⟨k, hk⟩ := List.getElem?_of_mem htx
    rcases hget.1 hk with ⟨u, hu, rfl⟩ | ⟨-, rfl⟩
    · exact h.started u (List.mem_of_getElem? hu)
    · exact Int.le_refl _
  · dsimp only at hk hrun ⊢
    rw [hactive]
    rcases hget.1 hk with ⟨u, hu, rfl⟩ | ⟨rfl, -⟩
    · rw [hnow] at hrun
      exact List.mem_append_left _ (h.onAir k u hu hrun)
    · exact List.mem_append_right _ List.mem_cons_self
  · dsimp only at hi ⊢
    rw [hactive] at hi
    rw [h.transmit_length]
    rcases List.mem_append.1 hi with hi | hi
    · exact (h.known i hi).trans (Nat.lt_succ_self _)
    · rw [List.mem_singleton.1 hi]
      exact Nat.lt_succ_self _
  · dsimp only
    rw [h.transmit_span]
    refine Sweep.add_exact h.exact (fun t ht => ?_) (by omega)
    obtain ⟨u, hu, rfl⟩ := List.mem_map.1 ht
    exact h.started u hu
  · dsimp only at ho ⊢
    obtain ⟨tx, htx, hend, hrep⟩ := h.reported o ho
    rw [hnow, hdelay]
    refine ⟨tx, ?_, hend, hrep⟩
    exact hget.2 (.inl ⟨tx, htx, Transmission.heard_of_le hend⟩)
  · dsimp only
    rw [hsim, Simulation.scheduleAt_trace, htrace]
    exact h.traced

/-- What nodes schedule does not concern the medium. -/
theorem scheduleAt (h : Sound r) (timeUs : ℤ) :
    Sound ⟨{ r.medium with simulation := r.medium.simulation.scheduleAt timeUs .node }, r.recorded⟩ := by
  have hunfinished : (r.medium.simulation.scheduleAt timeUs .node).unfinished.Perm r.medium.simulation.unfinished := by
    by_cases hpast : timeUs < r.medium.simulation.nowUs
    · unfold Simulation.scheduleAt
      rw [if_pos hpast]
    · exact Simulation.unfinished_scheduleAt (not_lt.1 hpast) .node
  refine ⟨h.queue.scheduleAt timeUs .node, fun e he k hc => ?_, (hunfinished.append_right _).trans h.accounted, ?_, ?_,
    h.known, h.equal.trans (hunfinished.map _).symm, h.exact, ?_, ?_⟩
  · rcases Simulation.mem_scheduleAt he with he | ⟨-, hc'⟩
    · exact h.ends e he k hc
    · cases hc'.symm.trans hc
  · dsimp only
    rw [Simulation.scheduleAt_nowUs]
    exact h.started
  · dsimp only
    rw [Simulation.scheduleAt_nowUs]
    exact h.onAir
  · dsimp only
    rw [Simulation.scheduleAt_nowUs]
    exact h.reported
  · dsimp only
    rw [Simulation.scheduleAt_trace]
    exact h.traced

/-- The clock may go on up to the first event. -/
theorem wait (h : Sound r) {timeUs : ℤ} (hle : r.medium.simulation.nowUs ≤ timeUs)
    (hfirst : ∀ e ∈ r.medium.simulation.events, timeUs ≤ e.timeUs) : Sound ⟨r.medium.wait timeUs, r.recorded⟩ := by
  refine ⟨⟨h.queue.ordered, hfirst⟩, h.ends, h.accounted, fun tx htx => (h.started tx htx).trans hle,
    fun k tx hk hrun => h.onAir k tx hk (hle.trans_lt hrun), h.known, h.equal, h.exact, fun o ho => ?_, h.traced⟩
  obtain ⟨tx, htx, hend, hrep⟩ := h.reported o ho
  exact ⟨tx, htx, hend.trans hle, hrep⟩

theorem pop (h : Sound r) {head : ScheduledEvent} {rest : List ScheduledEvent}
    (hevents : r.medium.simulation.events = head :: rest) (hnode : head.callback = .node) :
    Sound ⟨r.medium.pop rest, r.recorded⟩ := by
  have hunfinished : (r.medium.pop rest).simulation.unfinished = r.medium.simulation.unfinished := by
    unfold Simulation.unfinished
    rw [hevents, List.filterMap_cons, hnode]
    rfl
  obtain ⟨hordered, hfuture⟩ := h.queue.pop hevents
  refine ⟨⟨hordered, hfuture⟩, fun e he => h.ends e ?_, ?_, h.started, h.onAir, h.known, ?_, h.exact, h.reported,
    h.traced⟩
  · rw [hevents]
    exact List.mem_cons_of_mem head he
  · dsimp only
    rw [hunfinished]
    exact h.accounted
  · dsimp only
    rw [hunfinished]
    exact h.equal

section
variable [LT P] [DecidableLT P] {head : ScheduledEvent} {rest : List ScheduledEvent} {k : ℕ}

/-- **`remove` does not raise.** An end that is due takes its transmission, or an equal one, from the air. -/
theorem finish_eq (h : Sound r) (hevents : r.medium.simulation.events = head :: rest)
    (hk : head.callback = .finish k) (draw : P) : ∃ tx, r.medium.transmissions[k]? = some tx ∧
      tx.endUs = head.timeUs ∧ r.medium.simulation.unfinished = k :: (r.medium.pop rest).simulation.unfinished ∧
      (r.medium.pop rest).finish k draw =
        ((r.medium.pop rest).remove k).record ((r.medium.pop rest).outcome tx draw) tx.packet := by
  obtain ⟨tx, htx, hend⟩ := h.ends head (by rw [hevents]; exact List.mem_cons_self) k hk
  have hunfinished : r.medium.simulation.unfinished = k :: (r.medium.pop rest).simulation.unfinished := by
    unfold Simulation.unfinished
    rw [hevents, List.filterMap_cons, hk]
    rfl
  have hthere : r.medium.active.any
      (fun i => decide (r.medium.transmissions[i]? = r.medium.transmissions[k]?)) = true := by
    have hmem : r.medium.transmissions[k]? ∈ r.medium.active.map fun i => r.medium.transmissions[i]? := by
      rw [h.equal.mem_iff, hunfinished]
      exact List.mem_cons_self
    obtain ⟨i, hi, heq⟩ := List.mem_map.1 hmem
    exact List.any_eq_true.2 ⟨i, hi, decide_eq_true heq⟩
  refine ⟨tx, htx, hend, hunfinished, ?_⟩
  have hpop : (r.medium.pop rest).transmissions[k]? = some tx := htx
  unfold SharedMedium.finish
  dsimp only
  split
  · next hnone => cases hnone.symm.trans hpop
  · next t ht =>
    cases ht.symm.trans hpop
    exact if_pos hthere

/-- **The end of a transmission keeps the invariant**, and what it records is one outcome. -/
theorem finish (h : Sound r) (hevents : r.medium.simulation.events = head :: rest)
    (hk : head.callback = .finish k) (hnow : r.medium.simulation.nowUs = head.timeUs) (draw : P) :
    Sound ⟨(r.medium.pop rest).finish k draw, r.recorded ++
      (((r.medium.pop rest).finish k draw).simulation.trace.drop
        r.medium.simulation.trace.length).map fun e => (k, e)⟩ := by
  obtain ⟨tx, htx, hend, hunfinished, hfinish⟩ := h.finish_eq hevents hk draw
  have hreports := (r.medium.pop rest).reports_outcome tx draw (hend.trans hnow.symm)
  have houtcome := (r.medium.pop rest).outcome_isOutcome tx draw
  generalize (r.medium.pop rest).outcome tx draw = event at hreports houtcome hfinish
  have htrace : (((r.medium.pop rest).remove k).record event tx.packet).simulation.trace = r.medium.simulation.trace ++
      [⟨r.medium.simulation.nowUs, event, some tx.packet.sourceId, some tx.packet.packetId⟩] := rfl
  obtain ⟨hordered, hfuture⟩ := h.queue.pop hevents
  have hequal := h.equal
  have haccounted := h.accounted
  rw [hunfinished] at hequal haccounted
  rw [hfinish, htrace, List.drop_left, List.map_singleton]
  refine ⟨⟨hordered, hfuture⟩, fun e he => h.ends e ?_, ?_, h.started, fun i t hi hrun => ?_,
    fun i hi => h.known i (List.mem_of_mem_eraseP hi), ?_, h.exact, fun o ho => ?_, ?_⟩
  · rw [hevents]
    exact List.mem_cons_of_mem head he
  · rw [List.map_append, ← List.append_assoc]
    exact (List.perm_append_singleton _ _).trans haccounted
  · -- one that has not ended is not equal to the one that ends now
    refine (List.mem_eraseP_of_neg fun heq => ?_).2 (h.onAir i t hi hrun)
    have hsame : r.medium.transmissions[i]? = r.medium.transmissions[k]? := of_decide_eq_true heq
    cases hi.symm.trans (hsame.trans htx)
    exact absurd (hend.trans hnow.symm) (ne_of_gt hrun)
  · have herase := hequal.erase r.medium.transmissions[k]?
    rw [List.map_cons, List.erase_cons_head, ← map_eraseP] at herase
    exact herase
  · rcases List.mem_append.1 ho with ho | ho
    · exact h.reported o ho
    · rw [List.mem_singleton.1 ho]
      exact ⟨tx, htx, (hend.trans hnow.symm).le, hreports⟩
  · dsimp only
    rw [htrace, List.filter_append, h.traced, List.map_append]
    congr 1
    exact List.filter_cons_of_pos houtcome

/-- **Every step keeps the invariant.** -/
theorem step (h : Sound r) (s : MediumRun.Step P) : Sound (r.step s) := by
  cases s with
  | transmit packet airtimeUs => exact h.transmit packet airtimeUs.2
  | scheduleAt timeUs => exact h.scheduleAt timeUs
  | addLossWindow startUs durationUs probability =>
    exact ⟨h.queue, h.ends, h.accounted, h.started, h.onAir, h.known, h.equal, h.exact, h.reported, h.traced⟩
  | record event nodeId packetId =>
    exact ⟨⟨h.queue.ordered, h.queue.future⟩, h.ends, h.accounted, h.started, h.onAir, h.known, h.equal, h.exact,
      h.reported, (SharedMedium.filter_record rfl nodeId packetId).trans h.traced⟩
  | turn untilUs draw =>
    unfold MediumRun.step
    dsimp only
    rcases r.medium.turn_cases untilUs draw with ⟨hturn, hfin⟩ | ⟨hle, hdue, hturn, hfin⟩ | ⟨head, rest, hevents, hcall⟩
    · rw [hturn, hfin, Option.elim_none, List.append_nil]
      exact h
    · rw [hturn, hfin, Option.elim_none, List.append_nil]
      exact h.wait hle fun e he => (h.queue.due_none_iff.1 hdue e he).le
    · have hmem : head ∈ r.medium.simulation.events := by
        rw [hevents]
        exact List.mem_cons_self
      have hwait := h.wait (h.queue.future head hmem) (h.queue.head_le hevents)
      rcases hcall with ⟨hnode, hturn, hfin⟩ | ⟨k, hk, hturn, hfin⟩
      · rw [hturn, hfin, Option.elim_none, List.append_nil]
        exact hwait.pop hevents hnode
      · rw [hturn, hfin, Option.elim_some]
        exact hwait.finish hevents hk rfl draw

end

/-! ## What follows from the invariant -/

theorem nodup (h : Sound r) : (r.medium.simulation.unfinished ++ r.recorded.map fun o => o.1).Nodup :=
  h.accounted.nodup_iff.2 List.nodup_range

theorem outcomes_of_mem (h : Sound r) {o : ℕ × TraceEvent} (ho : o ∈ r.recorded) : r.outcomes o.1 = [o.2] := by
  unfold MediumRun.outcomes
  rw [filter_key (List.nodup_append.1 h.nodup).2.1 ho]
  rfl

theorem collided_iff (h : Sound r) {k : ℕ} {tx : Transmission} (hk : r.medium.transmissions[k]? = some tx) :
    tx.collided = true ↔ ∃ j other, j ≠ k ∧ r.medium.transmissions[j]? = some other ∧ tx.Overlaps other := by
  have hspan (j : ℕ) (s : Sweep.Span ℤ) : (r.medium.transmissions.map Transmission.span)[j]? = some s ↔
      ∃ other, r.medium.transmissions[j]? = some other ∧ other.span = s := by
    rw [List.getElem?_map, Option.map_eq_some_iff]
  refine (h.exact k tx.span ((hspan k _).2 ⟨tx, hk, rfl⟩)).trans ?_
  constructor
  · rintro ⟨j, s, hj, hs, hover⟩
    obtain ⟨other, hother, rfl⟩ := (hspan j s).1 hs
    exact ⟨j, other, hj, hother, hover⟩
  · rintro ⟨j, other, hj, hother, hover⟩
    exact ⟨j, other.span, hj, (hspan j _).2 ⟨other, hother, rfl⟩, hover⟩

/-- A transmission whose event is through has one outcome. -/
theorem finished (h : Sound r) {k : ℕ} {tx : Transmission} (hk : r.medium.transmissions[k]? = some tx)
    (hfin : k ∉ r.medium.simulation.unfinished) :
    ∃ e, r.outcomes k = [e] ∧ Reports r.medium.propagationDelayUs tx e := by
  have hrange : k ∈ List.range r.medium.transmissions.length :=
    List.mem_range.2 (List.getElem?_eq_some_iff.1 hk).1
  obtain ⟨o, ho, rfl⟩ := List.mem_map.1 ((List.mem_append.1 (h.accounted.mem_iff.2 hrange)).resolve_left hfin)
  obtain ⟨t, ht, -, hrep⟩ := h.reported o ho
  cases ht.symm.trans hk
  exact ⟨o.2, h.outcomes_of_mem ho, hrep⟩

/-- The event of a transmission that is not finished is in the queue, at its end. -/
theorem unfinished_event (h : Sound r) {k : ℕ} (hk : k ∈ r.medium.simulation.unfinished) :
    ∃ e ∈ r.medium.simulation.events, ∃ tx, r.medium.transmissions[k]? = some tx ∧ tx.endUs = e.timeUs := by
  unfold Simulation.unfinished at hk
  obtain ⟨e, he, hc⟩ := List.mem_filterMap.1 hk
  have hfinish : e.callback = .finish k := by
    cases hcall : e.callback with
    | node =>
      rw [hcall] at hc
      cases hc
    | finish j =>
      rw [hcall] at hc
      exact congrArg _ (Option.some.inj hc)
  exact ⟨e, he, h.ends e he k hfinish⟩

section
variable [LT P] [DecidableLT P]

/-- Every turn takes one event, until none is due. -/
theorem runsOut (untilUs : ℤ) : ∀ (draws : List P) {r : MediumRun P}, Sound r →
    (r.medium.simulation.due untilUs = none ∨ r.medium.simulation.events.length ≤ draws.length) →
    ((draws.map (MediumRun.Step.turn untilUs)).foldl MediumRun.step r).medium.simulation.due untilUs = none
  | [], r, h, hout => by
    rcases hout with hdue | hlen
    · exact hdue
    · refine h.queue.due_none_iff.2 ?_
      rw [List.eq_nil_of_length_eq_zero (Nat.le_zero.1 hlen)]
      exact List.forall_mem_nil _
  | draw :: draws, r, h, hout => by
    rw [List.map_cons, List.foldl_cons]
    have hnext := h.step (.turn untilUs draw)
    have hevents : (r.step (.turn untilUs draw)).medium.simulation.events =
        ((r.medium.simulation.due untilUs).map Prod.snd).getD r.medium.simulation.events :=
      SharedMedium.turn_events h.queue untilUs draw
    refine runsOut untilUs draws hnext ?_
    cases hdue : r.medium.simulation.due untilUs with
    | none =>
      rw [hdue, Option.map_none, Option.getD_none] at hevents
      refine .inl (hnext.queue.due_none_iff.2 ?_)
      rw [hevents]
      exact h.queue.due_none_iff.1 hdue
    | some d =>
      obtain ⟨head, rest⟩ := d
      rw [hdue, Option.map_some, Option.getD_some] at hevents
      rw [hdue, Simulation.due_some hdue, List.length_cons, List.length_cons] at hout
      rw [hevents]
      exact .inr (Nat.le_of_succ_le_succ (hout.resolve_left nofun))

/-- Every call of `transmit` makes its transmission, and nothing else does. -/
theorem step_called (h : Sound r) (s : MediumRun.Step P) : (r.step s).medium.transmissions.map Transmission.call =
    r.medium.transmissions.map Transmission.call ++ (r.call s).toList := by
  cases s with
  | transmit packet airtimeUs =>
    have htransmit := h.transmit_transmissions packet airtimeUs
    unfold MediumRun.step
    dsimp only
    rw [htransmit, List.map_append, List.map_map]
    rfl
  | turn untilUs draw =>
    have hsame := r.medium.turn_transmissions untilUs draw
    unfold MediumRun.step
    dsimp only
    rw [hsame]
    exact (List.append_nil _).symm
  | _ => exact (List.append_nil _).symm

theorem run_called : ∀ (steps : List (MediumRun.Step P)) {r : MediumRun P}, Sound r →
    (steps.foldl MediumRun.step r).medium.transmissions.map Transmission.call =
      r.medium.transmissions.map Transmission.call ++ r.calls steps
  | [], _, _ => (List.append_nil _).symm
  | s :: steps, r, h => by
    rw [List.foldl_cons, run_called steps (h.step s), h.step_called, List.append_assoc]
    rfl

theorem delivers (h : Sound r) {calls : List TransmitCall}
    (hcalls : r.medium.transmissions.map Transmission.call = calls) : Delivers calls r := by
  refine ⟨hcalls, fun k tx hk => h.collided_iff hk, fun k tx hk hfin => h.finished hk hfin, fun k hk => ⟨?_, ?_⟩,
    fun untilUs hdue k tx hk hend => h.finished hk fun hun => ?_, fun untilUs draws hlen => runsOut untilUs draws h (.inr hlen),
    h.traced, fun o ho => ?_, fun e he latencyUs kind hevent => ?_⟩
  · unfold MediumRun.outcomes
    rw [List.filter_eq_nil_iff.2 fun o ho => ?_, List.map_nil]
    rw [decide_eq_true_eq]
    exact fun he => (List.nodup_append.1 h.nodup).2.2 k hk o.1 (List.mem_map.2 ⟨o, ho, rfl⟩) he.symm
  · obtain ⟨e, he, tx, htx, hend⟩ := h.unfinished_event hk
    refine ⟨tx, htx, ?_⟩
    rw [hend]
    exact h.queue.future e he
  · -- its event would still be due
    obtain ⟨e, he, t, ht, htime⟩ := h.unfinished_event hun
    cases ht.symm.trans hk
    have hlate := h.queue.due_none_iff.1 hdue e he
    omega
  · obtain ⟨tx, htx, -, hrep⟩ := h.reported o ho
    exact ⟨tx, htx, hrep⟩
  · have hmem : e ∈ r.medium.simulation.trace.filter fun e => e.event.isOutcome := by
      refine List.mem_filter.2 ⟨he, ?_⟩
      rw [hevent]
      rfl
    rw [h.traced] at hmem
    obtain ⟨o, ho, rfl⟩ := List.mem_map.1 hmem
    obtain ⟨tx, htx, -, hrep⟩ := h.reported o ho
    have hclear : tx.collided = false := by
      rcases hrep.event with ⟨-, hcollided⟩ | ⟨hclear, -⟩
      · cases hcollided.symm.trans hevent
      · exact hclear
    refine ⟨o.1, tx, htx, ?_, hclear, fun j other hj hother hover => ?_⟩
    · rw [h.outcomes_of_mem ho]
      exact List.mem_cons_self
    · exact Bool.eq_false_iff.1 hclear ((h.collided_iff htx).2 ⟨j, other, hj, hother, hover⟩)

end

end Sound

/-- **Main result: only packets without a collision are delivered**, and every call of `transmit` has one
transmission with one outcome, in every state that is reached by any calls of the nodes and any turns of the
loop. -/
theorem medium_delivers_collision_free {P : Type} [LT P] [DecidableLT P] (propagationDelayUs : ℤ) (baseLoss : P)
    (steps : List (MediumRun.Step P)) :
    Delivers ((MediumRun.start propagationDelayUs baseLoss).calls steps)
      (MediumRun.run propagationDelayUs baseLoss steps) := by
  have hstep (r : MediumRun P) (s : MediumRun.Step P) (h : Sound r) : Sound (r.step s) := h.step s
  have hstart := Sound.init propagationDelayUs baseLoss
  refine (Run.inv_run hstep hstart steps).delivers ?_
  exact Sound.run_called steps hstart

/-- Two packets go on the air at the instant at which a first one ends, while its end is still in the queue. -/
def endAndTwoStarts : List (MediumRun.Step ℕ) :=
  [.scheduleAt 10, .transmit ⟨1, 1, 0, 0, 40, .voice⟩ ⟨10, Int.natCast_pos.2 (Nat.succ_pos 9)⟩, .turn 50 9,
    .transmit ⟨2, 2, 0, 8, 40, .voice⟩ ⟨5, Int.natCast_pos.2 (Nat.succ_pos 4)⟩,
    .transmit ⟨3, 3, 0, 9, 40, .heartbeat⟩ ⟨7, Int.natCast_pos.2 (Nat.succ_pos 6)⟩, .turn 50 9, .turn 50 9, .turn 50 9]

/-- The first one is delivered, the two others collide; none is due any more. -/
theorem end_is_no_collision :
    Delivers [⟨⟨1, 1, 0, 0, 40, .voice⟩, 0, 10⟩, ⟨⟨2, 2, 0, 8, 40, .voice⟩, 10, 15⟩,
      ⟨⟨3, 3, 0, 9, 40, .heartbeat⟩, 10, 17⟩] (MediumRun.run 2 0 endAndTwoStarts) ∧
    (MediumRun.run 2 0 endAndTwoStarts).recorded.map (fun o => (o.1, o.2.timeUs, o.2.event)) =
      [(0, 10, .packetDelivered 12 "voice"), (1, 15, .packetCollided "voice"), (2, 17, .packetCollided "heartbeat")] ∧
    (MediumRun.run 2 0 endAndTwoStarts).medium.simulation.due 50 = none :=
  ⟨medium_delivers_collision_free 2 0 endAndTwoStarts, by decide, by decide⟩

end OpenRef.Simulator
