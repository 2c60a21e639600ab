import OpenRef.Base
import Mathlib.Data.List.Sort
/-!
# The simulated medium (engine.py, medium.py)

A simulation runs the callbacks of its events in the order of their times, and for equal times in the order
they were scheduled in. The medium keeps the transmissions on the air in `active`: a new one marks those that
are still running, and itself; the event at its end takes it out again and records what became of it.

Python's objects have an identity: a transmission is its index in `transmissions`, which lists all that were
ever made. `list.remove` does not go by identity but by equality, and so does `finish`. What the callbacks of
the simulated nodes do is not fixed: a run is any sequence of calls (`MediumRun.Step`), where a turn of the
loop of `Simulation.run` is one step and what a callback then does are the next ones. The probabilities and
the numbers that `random` draws are of any type with a comparison.
-/

namespace OpenRef.Simulator

/-! ## The engine -/

/-- What an event calls: a callback of the simulated nodes, or the `finish` of a transmission. -/
inductive Callback
  | node
  | finish (transmission : ℕ)
deriving DecidableEq, Repr

/-- `ScheduledEvent`. -/
structure ScheduledEvent where
  timeUs : ℤ
  order : ℕ
  callback : Callback
deriving DecidableEq, Repr

/-- The order of the heap: the comparison that `@dataclass(order=True)` makes. -/
def ScheduledEvent.before (a b : ScheduledEvent) : Prop :=
  a.timeUs < b.timeUs ∨ (a.timeUs = b.timeUs ∧ a.order ≤ b.order)

instance : DecidableRel ScheduledEvent.before := fun a b =>
  inferInstanceAs (Decidable (a.timeUs < b.timeUs ∨ (a.timeUs = b.timeUs ∧ a.order ≤ b.order)))

/-- The `event` of a trace entry with its `details`. `other` is what callbacks record on their own. -/
inductive TraceKind
  | collisionDetected (withPacketId : ℤ)
  | txStart (airtimeUs : ℤ) (kind : String)
  | packetCollided (kind : String)
  | packetLost (kind : String)
  | packetDelivered (latencyUs : ℤ) (kind : String)
  | other (event : String)
deriving DecidableEq, Repr

/-- `TraceEvent`. -/
structure TraceEvent where
  timeUs : ℤ
  event : TraceKind
  nodeId : Option ℤ
  packetId : Option ℤ
deriving DecidableEq, Repr

/-- `Simulation`: the heap is the list of its events in the order in which they are popped. -/
structure Simulation where
  nowUs : ℤ
  events : List ScheduledEvent
  sequence : ℕ
  trace : List TraceEvent
deriving DecidableEq, Repr

namespace Simulation

/-- `Simulation()` (:11-15). -/
def init : Simulation := ⟨0, [], 0, []⟩

/-- `schedule_at` (:17-28); one in the past raises and schedules nothing. -/
def scheduleAt (s : Simulation) (timeUs : ℤ) (callback : Callback) : Simulation :=
  if timeUs < s.nowUs then s
  else { s with
    events := s.events.orderedInsert ScheduledEvent.before ⟨timeUs, s.sequence, callback⟩
    sequence := s.sequence + 1 }

/-- `schedule` (:30-38). -/
def schedule (s : Simulation) (delayUs : ℤ) (callback : Callback) : Simulation :=
  if delayUs < 0 then s else s.scheduleAt (s.nowUs + delayUs) callback

/-- `record` (:40-56). -/
def record (s : Simulation) (event : TraceKind) (nodeId packetId : Option ℤ) : Simulation :=
  { s with trace := s.trace ++ [⟨s.nowUs, event, nodeId, packetId⟩] }

/-- The event that the loop of `run` pops next, unless it lies after `until_us` (:61-65), and those left. -/
def due (s : Simulation) (untilUs : ℤ) : Option (ScheduledEvent × List ScheduledEvent) :=
  match s.events with
  | [] => none
  | event :: events => if untilUs < event.timeUs then none else some (event, events)

end Simulation

/-! ## The medium -/

/-- `PacketKind`. -/
inductive PacketKind
  | voice
  | heartbeat
deriving DecidableEq, Repr

/-- `kind.value`. -/
def PacketKind.value : PacketKind → String
  | voice => "voice"
  | heartbeat => "heartbeat"

/-- `Packet`. -/
structure Packet where
  packetId : ℤ
  sourceId : ℤ
  sequence : ℤ
  createdAtUs : ℤ
  payloadBytes : ℤ
  kind : PacketKind := .voice
deriving DecidableEq, Repr

/-- `Transmission`, with the equality of a dataclass. -/
structure Transmission where
  packet : Packet
  startUs : ℤ
  endUs : ℤ
  collided : Bool
deriving DecidableEq, Repr

/-- A collision, where there is one, is noted in the transmission. -/
def Transmission.collide (collision : Bool) (tx : Transmission) : Transmission :=
  { tx with collided := tx.collided || collision }

/-- `SharedMedium` with its simulation. -/
structure SharedMedium (P : Type) where
  simulation : Simulation
  propagationDelayUs : ℤ
  baseLoss : P
  lossWindows : List (ℤ × ℤ × P)
  transmissions : List Transmission
  active : List ℕ

namespace SharedMedium

variable {P : Type} [LT P] [DecidableLT P]

/-- `SharedMedium(simulation, propagation_delay_us, base_loss=...)` (:25-38). -/
def init (propagationDelayUs : ℤ) (baseLoss : P) : SharedMedium P :=
  ⟨Simulation.init, propagationDelayUs, baseLoss, [], [], []⟩

/-- `add_loss_window` (:40-41). -/
def addLossWindow (m : SharedMedium P) (startUs durationUs : ℤ) (probability : P) : SharedMedium P :=
  { m with lossWindows := m.lossWindows ++ [(startUs, startUs + durationUs, probability)] }

/-- `_loss_probability` (:43-48); `max` keeps its first argument unless the second is greater. -/
def lossProbability (m : SharedMedium P) (timeUs : ℤ) : P :=
  m.lossWindows.foldl (fun probability w =>
    if w.1 ≤ timeUs ∧ timeUs < w.2.1 then (if probability < w.2.2 then w.2.2 else probability) else probability)
    m.baseLoss

def record (m : SharedMedium P) (event : TraceKind) (packet : Packet) : SharedMedium P :=
  { m with simulation := m.simulation.record event (some packet.sourceId) (some packet.packetId) }

/-- One round of the loop over `active` (:57-66): the new transmission meets one on the air. -/
def detect (packet : Packet) (new : ℕ) (m : SharedMedium P) (i : ℕ) : SharedMedium P :=
  match m.transmissions[i]? with
  | none => m -- an index in `active` is always a transmission
  | some other =>
    if m.simulation.nowUs < other.endUs then
      SharedMedium.record
        { m with transmissions := (m.transmissions.modify i (.collide true)).modify new (.collide true) }
        (.collisionDetected other.packet.packetId) packet
    else m

/-- `transmit` (:50-110). -/
def transmit (m : SharedMedium P) (packet : Packet) (airtimeUs : ℤ) : SharedMedium P :=
  let now := m.simulation.nowUs
  let tx := m.transmissions.length
  let m : SharedMedium P := { m with transmissions := m.transmissions ++ [⟨packet, now, now + airtimeUs, false⟩] }
  let m := m.active.foldl (detect packet tx) m
  let m := SharedMedium.record { m with active := m.active ++ [tx] } (.txStart airtimeUs packet.kind.value) packet
  { m with simulation := m.simulation.schedule airtimeUs (.finish tx) }

/-- What `finish` records of a transmission that it took from the air (:78-107). -/
def outcome (m : SharedMedium P) (tx : Transmission) (draw : P) : TraceKind :=
  if tx.collided then .packetCollided tx.packet.kind.value
  else if draw < m.lossProbability tx.startUs then .packetLost tx.packet.kind.value
  else .packetDelivered (m.simulation.nowUs + m.propagationDelayUs - tx.packet.createdAtUs) tx.packet.kind.value

/-- `finish` (:76-108): `active.remove(tx)` takes the first one that is equal to it, and raises if there is none. -/
def finish (m : SharedMedium P) (tx : ℕ) (draw : P) : SharedMedium P :=
  let same := fun i => decide (m.transmissions[i]? = m.transmissions[tx]?)
  match m.transmissions[tx]? with
  | none => m -- a `finish` always has its transmission
  | some t =>
    if m.active.any same then
      SharedMedium.record { m with active := m.active.eraseP same } (m.outcome t draw) t.packet
    else m

/-- A turn of the loop of `run` (engine.py:58-68): the next event that is due, or else the end of the run. -/
def turn (m : SharedMedium P) (untilUs : ℤ) (draw : P) : SharedMedium P :=
  if untilUs < m.simulation.nowUs then m
  else match m.simulation.due untilUs with
    | none => { m with simulation := { m.simulation with nowUs := untilUs } }
    | some (event, events) =>
      let m := { m with simulation := { m.simulation with nowUs := event.timeUs, events := events } }
      match event.callback with
      | .node => m
      | .finish tx => m.finish tx draw

end SharedMedium

/-! ## Runs -/

/-- A call of `transmit`: its packet, the time it was made at, and the one its airtime is over at. -/
structure TransmitCall where
  packet : Packet
  calledUs : ℤ
  overUs : ℤ
deriving DecidableEq, Repr

/-- A medium, and what each `finish` recorded so far. -/
structure MediumRun (P : Type) where
  medium : SharedMedium P
  recorded : List (ℕ × TraceEvent)

namespace MediumRun

variable {P : Type} [LT P] [DecidableLT P]

/-- What happens to a medium: calls of the callbacks, before and between the turns of `run`, and the turns. -/
inductive Step (P : Type)
  | transmit (packet : Packet) (airtimeUs : { a : ℤ // 0 < a })
  | scheduleAt (timeUs : ℤ)
  | addLossWindow (startUs durationUs : ℤ) (probability : P)
  | record (event : String) (nodeId packetId : Option ℤ)
  | turn (untilUs : ℤ) (draw : P)

/-- The transmission that a turn finishes. -/
def finishes (m : SharedMedium P) (untilUs : ℤ) : Option ℕ :=
  if untilUs < m.simulation.nowUs then none
  else match m.simulation.due untilUs with
    | some (⟨_, _, .finish tx⟩, _) => some tx
    | _ => none

def step (r : MediumRun P) : Step P → MediumRun P
  | .transmit packet airtimeUs => { r with medium := r.medium.transmit packet airtimeUs }
  | .scheduleAt timeUs =>
    { r with medium := { r.medium with simulation := r.medium.simulation.scheduleAt timeUs .node } }
  | .addLossWindow startUs durationUs probability =>
    { r with medium := r.medium.addLossWindow startUs durationUs probability }
  | .record event nodeId packetId =>
    { r with medium := { r.medium with simulation := r.medium.simulation.record (.other event) nodeId packetId } }
  | .turn untilUs draw =>
    let next := r.medium.turn untilUs draw
    let new := next.simulation.trace.drop r.medium.simulation.trace.length
    ⟨next, r.recorded ++ ((finishes r.medium untilUs).elim [] fun tx => new.map fun e => (tx, e))⟩

/-- `SharedMedium(simulation, ...)` before anything was called. -/
def start (propagationDelayUs : ℤ) (baseLoss : P) : MediumRun P := ⟨SharedMedium.init propagationDelayUs baseLoss, []⟩

def run (propagationDelayUs : ℤ) (baseLoss : P) (steps : List (Step P)) : MediumRun P :=
  steps.foldl step (start propagationDelayUs baseLoss)

/-- The call of `transmit` that a step is. -/
def call (r : MediumRun P) : Step P → Option TransmitCall
  | .transmit packet airtimeUs => some ⟨packet, r.medium.simulation.nowUs, r.medium.simulation.nowUs + airtimeUs⟩
  | _ => none

/-- The calls of `transmit` in a run. -/
def calls : MediumRun P → List (Step P) → List TransmitCall
  | _, [] => []
  | r, s :: steps => (r.call s).toList ++ calls (r.step s) steps

/-- What the `finish` of a transmission recorded. -/
def outcomes (r : MediumRun P) (tx : ℕ) : List TraceEvent :=
  (r.recorded.filter fun o => o.1 = tx).map fun o => o.2

end MediumRun

end OpenRef.Simulator
