import Mathlib.Data.List.Forall2
import Mathlib.Logic.Relation
import Mathlib.Tactic.Common
/-!
# A full-duplex link of two ends

Each end queues messages, starts a transfer with a wire made from its oldest waiting
message or with a blank one, and takes in what came with the exchange; the exchange
swaps the two wires. `Carries m w` says that the wire stands for the message, `Blank w`
that it stands for none, and `Same m g` that `g` is what is received of `m`.

What one end has queued is, in order, what the other has received, what is on the way
and what waits (`InOrder`). Every step of an end and the exchange keep this.
-/

namespace Duplex

variable {α ω : Type*}

/-- One end. `leaving` is the wire of a transfer that was started and not exchanged, `arriving` the wire of
an exchange that was not taken in. -/
structure End (α ω : Type*) where
  queued : List α
  waiting : List α
  leaving : Option ω
  arriving : Option ω
  received : List α
  popped : List α

variable (Carries : α → ω → Prop) (Blank : ω → Prop) (Same : α → α → Prop)

/-- The messages on a wire that may be there. -/
inductive Holds : Option ω → List α → Prop
  | none : Holds none []
  | blank {w : ω} (h : Blank w) : Holds (some w) []
  | message {m : α} {w : ω} (h : Carries m w) : Holds (some w) [m]

/-- What an end can do by itself. -/
inductive Step (e : End α ω) : End α ω → Prop
  | queue (m : α) : Step e { e with queued := e.queued ++ [m], waiting := e.waiting ++ [m] }
  | start (w : ω) (taken waiting : List α) (hl : e.leaving = none) (hw : e.waiting = taken ++ waiting)
    (hh : Holds Carries Blank (some w) taken) : Step e { e with leaving := some w, waiting := waiting }
  | accept (w : ω) (received : List α) (ha : e.arriving = some w)
    (hm : ∀ m, Carries m w → ∃ g, Same m g ∧ received = e.received ++ [g])
    (hb : Blank w → received = e.received) : Step e { e with arriving := none, received := received }
  | pop (m : α) (received : List α) (hr : e.received = m :: received) :
    Step e { e with received := received, popped := e.popped ++ [m] }

/-- Any number of steps. -/
abbrev Steps : End α ω → End α ω → Prop := Relation.ReflTransGen (Step Carries Blank Same)

/-- What `a` has queued is what `b` has received, what is on the way, and what waits. -/
def InOrder (a b : End α ω) : Prop := ∃ delivered arriving leaving,
  a.queued = delivered ++ arriving ++ leaving ++ a.waiting ∧
    List.Forall₂ Same delivered (b.popped ++ b.received) ∧
    Holds Carries Blank b.arriving arriving ∧ Holds Carries Blank a.leaving leaving

variable {Carries Blank Same} {a a' b b' : End α ω}

/-- A step of the sender. -/
theorem InOrder.sender (h : InOrder Carries Blank Same a b) (hs : Step Carries Blank Same a a') :
    InOrder Carries Blank Same a' b := by
  obtain ⟨delivered, arriving, leaving, hq, hd, ha, hl⟩ := h
  cases hs with
  | queue m =>
    refine ⟨delivered, arriving, leaving, ?_, hd, ha, hl⟩
    rw [hq]
    simp
  | start w taken waiting hnone hw hh =>
    rw [hnone] at hl
    cases hl with
    | none =>
      refine ⟨delivered, arriving, taken, ?_, hd, ha, hh⟩
      rw [hq, hw]
      simp
  | accept w received => exact ⟨delivered, arriving, leaving, hq, hd, ha, hl⟩
  | pop m received => exact ⟨delivered, arriving, leaving, hq, hd, ha, hl⟩

/-- A step of the receiver. -/
theorem InOrder.receiver (h : InOrder Carries Blank Same a b) (hs : Step Carries Blank Same b b') :
    InOrder Carries Blank Same a b' := by
  obtain ⟨delivered, arriving, leaving, hq, hd, ha, hl⟩ := h
  cases hs with
  | queue m => exact ⟨delivered, arriving, leaving, hq, hd, ha, hl⟩
  | start w taken waiting => exact ⟨delivered, arriving, leaving, hq, hd, ha, hl⟩
  | accept w received hw hm hb =>
    rw [hw] at ha
    cases ha with
    | blank hblank => exact ⟨delivered, [], leaving, hq, hb hblank ▸ hd, .none, hl⟩
    | @message m _ hcarries =>
      obtain ⟨g, hg, hr⟩ := hm m hcarries
      refine ⟨delivered ++ [m], [], leaving, by rw [hq, List.append_nil], ?_, .none, hl⟩
      rw [hr, ← List.append_assoc]
      exact List.rel_append hd (.cons hg .nil)
  | pop m received hr =>
    refine ⟨delivered, arriving, leaving, hq, ?_, ha, hl⟩
    rw [hr] at hd
    simpa using hd

/-- The exchange: what left one end has arrived at the other. -/
theorem InOrder.exchange (h : InOrder Carries Blank Same a b) (hb : b.arriving = none) (wa wb : Option ω) :
    InOrder Carries Blank Same { a with leaving := none, arriving := wa }
      { b with leaving := wb, arriving := a.leaving } := by
  obtain ⟨delivered, arriving, leaving, hq, hd, ha, hl⟩ := h
  rw [hb] at ha
  cases ha with
  | none => exact ⟨delivered, leaving, [], by rw [hq]; simp, hd, hl, .none⟩

theorem InOrder.senders (h : InOrder Carries Blank Same a b) (hs : Steps Carries Blank Same a a') :
    InOrder Carries Blank Same a' b := by
  induction hs with
  | refl => exact h
  | tail _ hs ih => exact ih.sender hs

theorem InOrder.receivers (h : InOrder Carries Blank Same a b) (hs : Steps Carries Blank Same b b') :
    InOrder Carries Blank Same a b' := by
  induction hs with
  | refl => exact h
  | tail _ hs ih => exact ih.receiver hs

/-- **A reliable FIFO**: what was popped at one end is a prefix of what was queued at the other. -/
theorem InOrder.popped_prefix (h : InOrder Carries Blank Same a b) :
    ∃ sent, sent <+: a.queued ∧ List.Forall₂ Same sent b.popped := by
  obtain ⟨delivered, arriving, leaving, hq, hd, -, -⟩ := h
  have hpopped := List.forall₂_take_append delivered b.popped b.received hd
  refine ⟨delivered.take b.popped.length, ?_, hpopped⟩
  rw [hq, List.append_assoc, List.append_assoc]
  exact (List.take_prefix _ _).trans (List.prefix_append _ _)

end Duplex
