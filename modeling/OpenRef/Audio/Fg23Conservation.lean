import Mathlib.Data.List.Chain
import Mathlib.Data.List.Forall2
import OpenRef.Audio.Fg23Adapter
import OpenRef.Lib.Clock
import OpenRef.Lib.Ledger
/-!
# The FG23 adapter conserves frames

The main loop runs `process` in steps and the completion interrupt comes between any
two of them, inside `start_transfer` too. Time is true time; the clock hook shows its
low 32 bits.

A frame leaves the queue for the prepared wire, and the prepared wire only for a start
that succeeds. `conserved`: over every run every accepted frame is waiting, held in the
prepared wire, dropped and counted, or handed to one successful start, in order; a
start that failed is followed by one with the same wire; no start comes while a
transfer is active or the peer in reset; and a reset is held for its time.
-/

namespace OpenRef.Audio

/-- Where the main loop is. -/
inductive Fg23Pc
  | idle
  /-- `process` has found the peer out of reset. -/
  | checked (nowUs : U32)
  /-- `process` has read `completion_pending` as false. -/
  | noCompletion (nowUs : U32)
  /-- `process` has cleared `completion_pending`. -/
  | taken (success : Bool)
  /-- Inside `start_transfer`. -/
  | starting
deriving DecidableEq, Repr

/-- What the hooks of an `assert_reset` do: the clock is read some time after the reset line was set. -/
structure ResetAnswers where
  abortOk : Bool
  resetOk : Bool
  delayUs : Nat
deriving DecidableEq, Repr

/-- A step of the main loop, the interrupt, or time that passes. -/
inductive Fg23Event
  | wait (us : Nat)
  | queue (frame : AudioLinkFrame)
  | resetPeer (h : ResetAnswers)
  | process (releaseOk : Bool)
  | resume (h : ResetAnswers) (peerRequest : Bool)
  | startReturns (ok : Bool)
  | isr (success : Bool) (received : LinkWire)

/-- The adapter, its main loop and the true time, and what has been seen from outside: the audio frames it
accepted, the wire of each call of `start_transfer` with what it returned, and when the reset line was last
asserted. -/
structure Fg23Machine where
  adapter : AudioFg23
  pc : Fg23Pc
  now : Nat
  accepted : List AudioLinkFrame
  starts : List (LinkWire × Bool)
  assertedAt : Nat

namespace Fg23Machine

/-- The frames that wait. -/
def waiting (m : Fg23Machine) : List AudioLinkFrame := m.adapter.transport.audioTx.toList

/-- The hooks of an `assert_reset` at this time. -/
def hooksAt (now : Nat) (h : ResetAnswers) : ResetHooks := ⟨h.abortOk, h.resetOk, Clock.reading 32 (now + h.delayUs)⟩

/-- An `assert_reset` ended the main loop's call. -/
def afterReset (m : Fg23Machine) (a : AudioFg23) (h : ResetAnswers) : Fg23Machine :=
  { m with
    adapter := a
    pc := .idle
    now := m.now + h.delayUs
    assertedAt := if h.resetOk then m.now else m.assertedAt }

/-- `process` waits for its transfer, or resets the peer. -/
def await (m : Fg23Machine) (nowUs : U32) (h : ResetAnswers) : Fg23Machine :=
  if nowUs - m.adapter.transferStartedUs ≤ m.adapter.config.transferTimeoutUs then { m with pc := .idle }
  else m.afterReset (m.adapter.awaitTransfer nowUs (hooksAt m.now h)).1 h

/-- `process` calls `start_transfer`, or returns without. -/
def next (m : Fg23Machine) (nowUs : U32) (peerRequest : Bool) : Fg23Machine :=
  let r := m.adapter.startNext nowUs peerRequest
  { m with adapter := r.1, pc := if r.2 = none then .starting else .idle }

/-- One event; one that cannot happen where the main loop is changes nothing. -/
def step (m : Fg23Machine) : Fg23Event → Fg23Machine
  | .wait us => { m with now := m.now + us }
  | .queue frame =>
    if m.pc = .idle then
      let r := m.adapter.queue frame
      { m with adapter := r.1, accepted := if r.2 && frame.audio then m.accepted ++ [frame] else m.accepted }
    else m
  | .resetPeer h => if m.pc = .idle then m.afterReset (m.adapter.assertReset (hooksAt m.now h)).1 h else m
  | .process releaseOk =>
    if m.pc = .idle then
      if m.adapter.resetAsserted then
        { m with adapter := (m.adapter.releaseReset (Clock.reading 32 m.now) releaseOk).1 }
      else { m with pc := .checked (Clock.reading 32 m.now) }
    else m
  | .resume h peerRequest =>
    match m.pc with
    | .checked nowUs =>
      if m.adapter.completionPending then
        { m with adapter := { m.adapter with completionPending := false }, pc := .taken m.adapter.completionSuccess }
      else { m with pc := .noCompletion nowUs }
    | .noCompletion nowUs =>
      if m.adapter.transferActive then m.await nowUs h else m.next nowUs peerRequest
    | .taken success => { m with adapter := (m.adapter.acceptCompletion success).1, pc := .idle }
    | _ => m
  | .startReturns ok =>
    if m.pc = .starting then
      { m with
        adapter := (m.adapter.startReturned ok).1
        pc := .idle
        starts := m.starts ++ [(m.adapter.txWire, ok)] }
    else m
  | .isr success received =>
    { m with adapter := (AudioFg23.transferCompleteIsr { m.adapter with rxWire := received } success).1 }

/-- The machine after `openref_audio_fg23_init` at a time. -/
def ofInit (a : AudioFg23) (now : Nat) (h : ResetAnswers) : Fg23Machine := ⟨a, .idle, now + h.delayUs, [], [], now⟩

/-- The steps of a call that no interrupt comes into are `process`. -/
theorem process_sequential (m : Fg23Machine) (hi : m.pc = .idle) (releaseOk peerRequest ok : Bool) (h : ResetAnswers) :
    ([.process releaseOk, .resume h peerRequest, .resume h peerRequest, .startReturns ok].foldl step m).adapter =
      (m.adapter.process ⟨Clock.reading 32 m.now, releaseOk, hooksAt m.now h, peerRequest, ok⟩).1 := by
  simp only [List.foldl_cons, List.foldl_nil, step, hi, if_true, AudioFg23.process]
  cases hr : m.adapter.resetAsserted with
  | true => simp
  | false =>
    cases hc : m.adapter.completionPending with
    | true => simp [hc, AudioFg23.takeCompletion]
    | false =>
      cases ha : m.adapter.transferActive with
      | true =>
        simp only [Bool.false_eq_true, if_false, hc, ha, if_true]
        unfold Fg23Machine.await AudioFg23.awaitTransfer
        split <;> simp [afterReset]
      | false =>
        simp only [Bool.false_eq_true, if_false, hc, ha]
        unfold Fg23Machine.next
        cases hn : (m.adapter.startNext (Clock.reading 32 m.now) peerRequest).2 <;> simp [hn]

/-! ## What is conserved -/

/-- What can become of an accepted frame that no longer waits. -/
inductive Fate
  | handed | held | dropped
deriving DecidableEq, Repr

/-- The frames in the prepared wire: one that it carries, or none. -/
inductive Prepared (a : AudioFg23) : List AudioLinkFrame → Prop
  | none (h : a.txPrepared = true → CarriesStatus a.txWire) : Prepared a []
  | frame {f : AudioLinkFrame} (hp : a.txPrepared = true) (hc : Carries f a.txWire) : Prepared a [f]

/-- The audio wires of the starts that succeeded. -/
def handedWires (m : Fg23Machine) : List LinkWire := ((m.starts.filter (·.2)).map (·.1)).filter carriesAudio

/-- **Every accepted frame is exactly one of**: waiting; held in the prepared wire; dropped and counted; handed
to one start that succeeded, in the order of the frames. -/
def Accounted (m : Fg23Machine) : Prop := ∃ gone : List (AudioLinkFrame × Fate),
  m.accepted = gone.map Prod.fst ++ m.waiting ∧
    Prepared m.adapter (Ledger.settled gone .held) ∧
    List.Forall₂ Carries (Ledger.settled gone .handed) m.handedWires ∧
    BitVec.ofNat 32 (Ledger.settled gone .dropped).length = m.adapter.transport.audioTx.overruns

/-- A start that failed is followed by one with the same wire. -/
def Retries (starts : List (LinkWire × Bool)) : Prop := List.IsChain (fun s t => s.2 = false → t.1 = s.1) starts

/-- The event calls `start_transfer`. -/
def Starts (m : Fg23Machine) (e : Fg23Event) : Prop := m.pc ≠ .starting ∧ (m.step e).pc = .starting

/-- The event releases the peer from its reset, or is a `process` that would if `set_peer_reset` succeeded. -/
def Releases (m : Fg23Machine) (e : Fg23Event) : Prop :=
  m.adapter.resetAsserted = true ∧ ((m.step e).adapter.resetAsserted = false ∨
    ∃ ok, e = .process ok ∧ (m.step (.process true)).adapter.resetAsserted = false)

/-- Starts and releases come when they may. -/
structure Orderly (m : Fg23Machine) (e : Fg23Event) : Prop where
  start : Starts m e → m.adapter.transferActive = false ∧ m.adapter.resetAsserted = false
  release : Releases m e → m.assertedAt + m.adapter.config.resetHoldUs.toNat ≤ m.now

/-- The accepted frames in order: `before` have left, `held` is in the prepared wire, `skipped` were dropped
behind its back, the others wait. -/
structure Conserved (m : Fg23Machine) : Prop where
  account : ∃ (before : List (AudioLinkFrame × Fate)) (held skipped : List AudioLinkFrame),
    m.accepted = before.map Prod.fst ++ held ++ skipped ++ m.waiting ∧ (held = [] → skipped = []) ∧
      Prepared m.adapter held ∧ (∀ f ∈ held, f.audio = true) ∧ Ledger.settled before .held = [] ∧
      List.Forall₂ Carries (Ledger.settled before .handed) m.handedWires ∧
      BitVec.ofNat 32 ((Ledger.settled before .dropped).length + skipped.length) =
        m.adapter.transport.audioTx.overruns
  retries : Retries m.starts
  failed : ∀ s ∈ m.starts.getLast?, s.2 = false → m.adapter.txPrepared = true ∧ m.adapter.txWire = s.1
  starting : m.pc = .starting → m.adapter.txPrepared = true
  out : m.pc ≠ .idle → m.adapter.resetAsserted = false
  reset : m.adapter.resetAsserted = true → ∃ t, m.assertedAt ≤ t ∧ t ≤ m.now ∧
    m.adapter.resetStartedUs = Clock.reading 32 t

theorem Conserved.accounted {m : Fg23Machine} (h : Conserved m) : Accounted m := by
  obtain ⟨before, held, skipped, h1, -, h3, -, h5, h6, h7⟩ := h.account
  refine ⟨before ++ held.map (fun f => (f, .held)) ++ skipped.map fun f => (f, .dropped), ?_, ?_, ?_, ?_⟩
  · rw [List.map_append, List.map_append, Ledger.map_fst_map, Ledger.map_fst_map]
    exact h1
  · rw [Ledger.settled_append, Ledger.settled_append, h5, Ledger.settled_map_self,
      Ledger.settled_map_of_ne _ (by decide), List.append_nil, List.nil_append]
    exact h3
  · rw [Ledger.settled_append, Ledger.settled_append, Ledger.settled_map_of_ne _ (by decide),
      Ledger.settled_map_of_ne _ (by decide), List.append_nil, List.append_nil]
    exact h6
  · rw [Ledger.settled_append, Ledger.settled_append, Ledger.settled_map_of_ne _ (by decide), List.append_nil,
      Ledger.settled_map_self, List.length_append]
    exact h7

/-- A step that leaves the frames, the prepared wire and the reset alone. -/
theorem Conserved.same {m m' : Fg23Machine} (h : Conserved m) (hacc : m'.accepted = m.accepted)
    (hst : m'.starts = m.starts) (hat : m'.assertedAt = m.assertedAt) (hnow : m.now ≤ m'.now)
    (htx : m'.adapter.transport.audioTx = m.adapter.transport.audioTx) (hw : m'.adapter.txWire = m.adapter.txWire)
    (hp : m'.adapter.txPrepared = m.adapter.txPrepared)
    (hr : m'.adapter.resetAsserted = true → m.adapter.resetAsserted = true)
    (hrs : m'.adapter.resetStartedUs = m.adapter.resetStartedUs)
    (hpc : m'.pc = .starting → m.pc = .starting) (hout : m'.pc ≠ .idle → m'.adapter.resetAsserted = false) :
    Conserved m' := by
  constructor
  · obtain ⟨before, held, skipped, h1, h2, h3, h4, h5, h6, h7⟩ := h.account
    refine ⟨before, held, skipped, ?_, h2, ?_, h4, h5, ?_, ?_⟩
    · rw [hacc, waiting, htx]
      exact h1
    · cases h3 with
      | none hs => exact .none fun h => hw ▸ hs (hp ▸ h)
      | frame hf hc => exact .frame (hp.trans hf) (hw ▸ hc)
    · rw [handedWires, hst]
      exact h6
    · rw [htx]
      exact h7
  · rw [hst]
    exact h.retries
  · rw [hst, hp, hw]
    exact h.failed
  · intro hs
    rw [hp]
    exact h.starting (hpc hs)
  · exact hout
  · intro hreset
    obtain ⟨t, h1, h2, h3⟩ := h.reset (hr hreset)
    exact ⟨t, hat ▸ h1, Nat.le_trans h2 hnow, hrs.trans h3⟩

/-- **Step: a frame is queued.** -/
theorem Conserved.queue {m : Fg23Machine} (h : Conserved m) (hi : m.pc = .idle) (frame : AudioLinkFrame) :
    Conserved { m with
      adapter := (m.adapter.queue frame).1
      accepted := if (m.adapter.queue frame).2 && frame.audio then m.accepted ++ [frame] else m.accepted } := by
  obtain ⟨hqueued, -⟩ := m.adapter.transport.queue_queued frame
  have hframe {acc : List AudioLinkFrame} (ha : acc = m.accepted)
      (ht : (m.adapter.queue frame).1.transport.audioTx = m.adapter.transport.audioTx) :
      Conserved { m with adapter := (m.adapter.queue frame).1, accepted := acc } :=
    h.same ha rfl rfl (Nat.le_refl _) ht rfl rfl id rfl id fun hne => absurd hi hne
  -- a frame was queued: everything but the account is as before
  have haccount {acc : List AudioLinkFrame} (hnew : ∃ (before : List (AudioLinkFrame × Fate))
      (held skipped : List AudioLinkFrame), acc = before.map Prod.fst ++ held ++ skipped ++
        (m.adapter.queue frame).1.transport.audioTx.toList ∧ (held = [] → skipped = []) ∧ Prepared m.adapter held ∧
      (∀ f ∈ held, f.audio = true) ∧ Ledger.settled before .held = [] ∧
      List.Forall₂ Carries (Ledger.settled before .handed) m.handedWires ∧
      BitVec.ofNat 32 ((Ledger.settled before .dropped).length + skipped.length) =
        (m.adapter.queue frame).1.transport.audioTx.overruns) :
      Conserved { m with adapter := (m.adapter.queue frame).1, accepted := acc } := by
    obtain ⟨before, held, skipped, h1, h2, h3, h4, h5, h6, h7⟩ := hnew
    refine ⟨⟨before, held, skipped, h1, h2, ?_, h4, h5, h6, h7⟩, h.retries, h.failed, h.starting, h.out, h.reset⟩
    cases h3 with
    | none hs => exact .none hs
    | frame hf hc => exact .frame hf hc
  obtain ⟨before, held, skipped, h1, h2, h3, h4, h5, h6, h7⟩ := h.account
  cases hqueued with
  | refused ht ha =>
    have ha' : (m.adapter.queue frame).2 = false := ha
    refine hframe ?_ (congrArg AudioTransport.audioTx ht)
    rw [ha', Bool.false_and, if_neg Bool.false_ne_true]
  | status hk _ hq _ =>
    refine hframe ?_ hq
    rw [hk, Bool.and_false, if_neg Bool.false_ne_true]
  | appended hk ha _ hq ho =>
    have ha' : (m.adapter.queue frame).2 = true := ha
    have hq' : (m.adapter.queue frame).1.transport.audioTx.toList = m.waiting ++ [frame] := hq
    rw [ha', hk, Bool.and_self, if_pos rfl]
    refine haccount ⟨before, held, skipped, ?_, h2, h3, h4, h5, h6, h7.trans ho.symm⟩
    rw [h1, hq']
    simp
  | dropped hk ha oldest rest _ hl hq ho =>
    have ha' : (m.adapter.queue frame).2 = true := ha
    have hq' : (m.adapter.queue frame).1.transport.audioTx.toList = rest ++ [frame] := hq
    have hl' : m.waiting = oldest :: rest := hl
    have ho' : (m.adapter.queue frame).1.transport.audioTx.overruns = m.adapter.transport.audioTx.overruns + 1 := ho
    rw [ha', hk, Bool.and_self, if_pos rfl]
    cases held with
    | nil =>
      have hskip := h2 rfl
      subst hskip
      refine haccount ⟨before ++ [(oldest, .dropped)], [], [], ?_, fun _ => rfl, h3, h4, ?_, ?_, ?_⟩
      · rw [h1, hq', hl']
        simp
      · rw [Ledger.settled_concat_of_ne _ _ (by decide)]
        exact h5
      · rw [Ledger.settled_concat_of_ne _ _ (by decide)]
        exact h6
      · rw [Ledger.settled_concat_self, List.length_append, ho', ← h7, List.length_nil, Nat.add_zero,
          List.length_singleton, Nat.add_zero, BitVec.ofNat_add]
        rfl
    | cons f held =>
      refine haccount ⟨before, f :: held, skipped ++ [oldest], ?_, (fun h => by cases h), h3, h4, h5, h6, ?_⟩
      · rw [h1, hq', hl']
        simp
      · rw [List.length_append, ho', ← h7, List.length_singleton, ← Nat.add_assoc, BitVec.ofNat_add]
        rfl

/-- **Step: the peer is reset.** -/
theorem Conserved.assertReset {m : Fg23Machine} {a : AudioFg23} (h : Conserved m) (answers : ResetAnswers)
    (ht : a.transport = m.adapter.transport) (hw : a.txWire = m.adapter.txWire)
    (hp : a.txPrepared = m.adapter.txPrepared)
    (hr : a.resetAsserted = (answers.resetOk || m.adapter.resetAsserted))
    (hs : a.resetStartedUs =
      if answers.resetOk then Clock.reading 32 (m.now + answers.delayUs) else m.adapter.resetStartedUs) :
    Conserved (m.afterReset a answers) := by
  constructor
  · obtain ⟨before, held, skipped, h1, h2, h3, h4, h5, h6, h7⟩ := h.account
    refine ⟨before, held, skipped, ?_, h2, ?_, h4, h5, h6, ?_⟩
    · rw [waiting, afterReset, ht]
      exact h1
    · cases h3 with
      | none hn => exact .none fun h => by rw [afterReset, hw]; exact hn (hp ▸ h)
      | frame hf hc => exact .frame (hp.trans hf) (by rw [afterReset, hw]; exact hc)
    · rw [afterReset, ht]
      exact h7
  · exact h.retries
  · rw [afterReset, hp, hw]
    exact h.failed
  · intro hne
    cases hne
  · exact fun hne => absurd rfl hne
  · intro hasserted
    unfold afterReset at hasserted ⊢
    dsimp only at hasserted ⊢
    rw [hs]
    cases hok : answers.resetOk with
    | true => exact ⟨m.now + answers.delayUs, Nat.le_add_right _ _, Nat.le_refl _, by simp⟩
    | false =>
      rw [hr, hok, Bool.false_or] at hasserted
      obtain ⟨t, h1, h2, h3⟩ := h.reset hasserted
      exact ⟨t, by simpa using h1, Nat.le_trans h2 (Nat.le_add_right _ _), by simpa using h3⟩

/-- **Step: the next wire** is prepared, or the one that was prepared is tried again. -/
theorem Conserved.next {m : Fg23Machine} (h : Conserved m) (hne : m.pc ≠ .idle) (nowUs : U32) (peerRequest : Bool) :
    Conserved (m.next nowUs peerRequest) := by
  have hframe : (m.adapter.startNext nowUs peerRequest).1.resetAsserted = m.adapter.resetAsserted := by
    unfold AudioFg23.startNext AudioFg23.publish
    split
    · rfl
    · split
      · rfl
      · dsimp only
        split <;> rfl
  have hout : (m.adapter.startNext nowUs peerRequest).1.resetAsserted = false := hframe.trans (h.out hne)
  have hstarted := m.adapter.startNext_started nowUs peerRequest
  obtain ⟨before, held, skipped, h1, h2, h3, h4, h5, h6, h7⟩ := h.account
  unfold Fg23Machine.next
  dsimp only
  generalize m.adapter.startNext nowUs peerRequest = r at hout hstarted
  cases hstarted with
  | retried hp hr hp' hw ht =>
    refine ⟨⟨before, held, skipped, ?_, h2, ?_, h4, h5, h6, ?_⟩, h.retries, ?_, fun _ => hp', fun _ => hout, ?_⟩
    · rw [waiting, ht]
      exact h1
    · cases h3 with
      | none hs => exact .none fun _ => hw ▸ hs hp
      | frame hf hc => exact .frame hp' (hw ▸ hc)
    · rw [ht]
      exact h7
    · intro s hs hf
      exact ⟨hp', hw.trans (h.failed s hs hf).2⟩
    · exact fun hreset => absurd (hout.symm.trans hreset) Bool.false_ne_true
  | quiet hp hr ha =>
    rw [ha] at hout ⊢
    refine ⟨⟨before, held, skipped, h1, h2, ?_, h4, h5, h6, h7⟩, h.retries, h.failed, ?_, fun _ => hout, h.reset⟩
    · cases h3 with
      | none hs => exact .none hs
      | frame hf hc => exact .frame hf hc
    · rw [hr]
      exact fun h => by cases h
  | prepared hp hr hp' hw _ ho =>
    have hheld : held = [] := by
      cases h3 with
      | none => rfl
      | frame hf => exact absurd (hp.symm.trans hf) Bool.false_ne_true
    subst hheld
    have hskip := h2 rfl
    subst hskip
    have hnofail (s : LinkWire × Bool) (hs : s ∈ m.starts.getLast?) (hf : s.2 = false) : False :=
      absurd (hp.symm.trans (h.failed s hs hf).1) Bool.false_ne_true
    have hreset (hreset : r.1.resetAsserted = true) : ∃ t, m.assertedAt ≤ t ∧ t ≤ m.now ∧
        r.1.resetStartedUs = Clock.reading 32 t := absurd (hout.symm.trans hreset) Bool.false_ne_true
    cases hw with
    | audio frame hq hc =>
      have haudio : frame.audio = true := m.adapter.transport.txAudio frame (hq ▸ List.mem_cons_self)
      refine ⟨⟨before, [frame], [], ?_, (fun h => by cases h), .frame hp' hc, ?_, h5, h6, ?_⟩, h.retries,
        fun s hs hf => absurd (hnofail s hs hf) id, fun _ => hp', fun _ => hout, hreset⟩
      · change m.accepted = _ ++ _ ++ _ ++ r.1.transport.audioTx.toList
        have hwait : m.waiting = frame :: r.1.transport.audioTx.toList := hq
        rw [h1, hwait]
        simp
      · intro f hf
        rw [List.mem_singleton.1 hf]
        exact haudio
      · exact h7.trans ho.symm
    | status hq hq' hc =>
      refine ⟨⟨before, [], [], ?_, fun _ => rfl, .none fun _ => hc, h4, h5, h6, ?_⟩, h.retries,
        fun s hs hf => absurd (hnofail s hs hf) id, fun _ => hp', fun _ => hout, hreset⟩
      · change m.accepted = _ ++ _ ++ _ ++ r.1.transport.audioTx.toList
        have hwait : m.waiting = [] := hq
        rw [h1, hwait, hq']
      · exact h7.trans ho.symm

theorem handedWires_concat (m : Fg23Machine) (a : AudioFg23) (pc : Fg23Pc) (wire : LinkWire) (ok : Bool) :
    handedWires { m with adapter := a, pc := pc, starts := m.starts ++ [(wire, ok)] } =
      m.handedWires ++ if ok && carriesAudio wire then [wire] else [] := by
  unfold handedWires
  dsimp only
  rw [List.filter_append, List.map_append, List.filter_append]
  cases ok <;> cases hw : carriesAudio wire <;> simp [hw]

/-- **Step: `start_transfer` returns.** A success empties the prepared wire, a failure keeps it. -/
theorem Conserved.startReturns {m : Fg23Machine} (h : Conserved m) (hs : m.pc = .starting) (ok : Bool) :
    Conserved { m with
      adapter := (m.adapter.startReturned ok).1, pc := .idle, starts := m.starts ++ [(m.adapter.txWire, ok)] } := by
  have hp : m.adapter.txPrepared = true := h.starting hs
  have hout : m.adapter.resetAsserted = false := h.out (hs ▸ nofun)
  have hretries : Retries (m.starts ++ [(m.adapter.txWire, ok)]) := by
    refine List.isChain_append.2 ⟨h.retries, .singleton _, fun s hlast t ht hfail => ?_⟩
    rw [List.head?_cons, Option.mem_some_iff] at ht
    rw [← ht]
    exact (h.failed s hlast hfail).2
  obtain ⟨before, held, skipped, h1, h2, h3, h4, h5, h6, h7⟩ := h.account
  cases ok with
  | false =>
    refine ⟨⟨before, held, skipped, h1, h2, ?_, h4, h5, ?_, h7⟩, hretries, ?_, nofun, fun hne => absurd rfl hne,
      h.reset⟩
    · cases h3 with
      | none hn => exact .none hn
      | frame hf hc => exact .frame hf hc
    · rw [handedWires_concat, Bool.false_and, if_neg Bool.false_ne_true, List.append_nil]
      exact h6
    · intro s hlast _
      rw [List.getLast?_concat, Option.mem_some_iff] at hlast
      rw [← hlast]
      exact ⟨hp, rfl⟩
  | true =>
    have hfailed : ∀ s ∈ (m.starts ++ [(m.adapter.txWire, true)]).getLast?, s.2 = false →
        (m.adapter.startReturned true).1.txPrepared = true ∧ (m.adapter.startReturned true).1.txWire = s.1 := by
      intro s hlast hfail
      rw [List.getLast?_concat, Option.mem_some_iff] at hlast
      rw [← hlast] at hfail
      cases hfail
    have haccount (before : List (AudioLinkFrame × Fate)) (h1 : m.accepted = before.map Prod.fst ++ m.waiting)
        (h5 : Ledger.settled before .held = [])
        (h6 : List.Forall₂ Carries (Ledger.settled before .handed)
          (m.handedWires ++ if true && carriesAudio m.adapter.txWire then [m.adapter.txWire] else []))
        (h7 : BitVec.ofNat 32 (Ledger.settled before .dropped).length = m.adapter.transport.audioTx.overruns) :
        Conserved { m with
          adapter := (m.adapter.startReturned true).1
          pc := .idle
          starts := m.starts ++ [(m.adapter.txWire, true)] } := by
      refine ⟨⟨before, [], [], ?_, fun _ => rfl, .none nofun, nofun, h5, ?_, h7⟩, hretries, hfailed, nofun,
        fun hne => absurd rfl hne, h.reset⟩
      · rw [List.append_nil, List.append_nil]
        exact h1
      · rw [handedWires_concat]
        exact h6
    cases h3 with
    | none hn =>
      have hskip := h2 rfl
      subst hskip
      rw [List.append_nil, List.append_nil] at h1
      refine haccount before h1 h5 ?_ h7
      rw [carriesAudio_of_status (hn hp), Bool.and_false, if_neg Bool.false_ne_true, List.append_nil]
      exact h6
    | @frame f _ hc =>
      have hcarried : carriesAudio m.adapter.txWire = true :=
        carriesAudio_of_carries (h4 f (List.mem_singleton.2 rfl)) hc
      refine haccount (before ++ [(f, .handed)] ++ skipped.map fun g => (g, .dropped)) ?_ ?_ ?_ ?_
      · rw [List.map_append, List.map_append, Ledger.map_fst_map]
        exact h1
      · rw [Ledger.settled_append, Ledger.settled_concat_of_ne _ _ (by decide),
          Ledger.settled_map_of_ne _ (by decide), List.append_nil]
        exact h5
      · rw [Ledger.settled_append, Ledger.settled_concat_self, Ledger.settled_map_of_ne _ (by decide),
          List.append_nil, hcarried, Bool.and_self, if_pos rfl]
        exact List.rel_append h6 (.cons hc .nil)
      · rw [Ledger.settled_append, Ledger.settled_concat_of_ne _ _ (by decide), Ledger.settled_map_self,
          List.length_append]
        exact h7

/-- **Step: `process` gives up a transfer** that took too long, or waits for it. -/
theorem Conserved.await {m : Fg23Machine} (h : Conserved m) (nowUs : U32) (answers : ResetAnswers) :
    Conserved (m.await nowUs answers) := by
  unfold Fg23Machine.await AudioFg23.awaitTransfer
  split
  · exact h.same rfl rfl rfl (Nat.le_refl _) rfl rfl rfl id rfl nofun fun hne => absurd rfl hne
  · obtain ⟨ht, hw, hp, -, -, hr, hs⟩ := AudioFg23.assertReset_frame { m.adapter with
      transferTimeouts := incrementSaturating m.adapter.transferTimeouts
      transferFailures := incrementSaturating m.adapter.transferFailures } (hooksAt m.now answers)
    exact h.assertReset answers ht hw hp hr hs

/-- **Step: `process` looks at the reset.** -/
theorem Conserved.releaseReset {m : Fg23Machine} (h : Conserved m) (hi : m.pc = .idle) (nowUs : U32)
    (releaseOk : Bool) : Conserved { m with adapter := (m.adapter.releaseReset nowUs releaseOk).1 } := by
  unfold AudioFg23.releaseReset
  split
  · exact h
  · split
    · exact h.same rfl rfl rfl (Nat.le_refl _) rfl rfl rfl id rfl id fun hne => absurd hi hne
    · exact h.same rfl rfl rfl (Nat.le_refl _) rfl rfl rfl nofun rfl id fun hne => absurd hi hne

/-- **Step: the interrupt.** It leaves a note, and the transfer leaves its bytes. -/
theorem Conserved.isr {m : Fg23Machine} (h : Conserved m) (success : Bool) (received : LinkWire) :
    Conserved (m.step (.isr success received)) := by
  unfold step AudioFg23.transferCompleteIsr
  dsimp only
  split <;> exact h.same rfl rfl rfl (Nat.le_refl _) rfl rfl rfl id rfl id h.out

/-- **Step: `process` goes on** after the interrupt had its chance. -/
theorem Conserved.resume {m : Fg23Machine} (h : Conserved m) (answers : ResetAnswers) (peerRequest : Bool) :
    Conserved (m.step (.resume answers peerRequest)) := by
  unfold step
  cases hpc : m.pc with
  | idle => exact h
  | starting => exact h
  | checked nowUs =>
    have hout : m.adapter.resetAsserted = false := h.out (hpc ▸ nofun)
    dsimp only
    split <;> exact h.same rfl rfl rfl (Nat.le_refl _) rfl rfl rfl id rfl nofun fun _ => hout
  | noCompletion nowUs =>
    dsimp only
    split
    · exact h.await nowUs answers
    · exact h.next (hpc ▸ nofun) nowUs peerRequest
  | taken success =>
    obtain ⟨ht, hw, hp, -, hr, hs⟩ := m.adapter.acceptCompletion_frame success
    exact h.same rfl rfl rfl (Nat.le_refl _) ht hw hp (fun ha => hr ▸ ha) hs nofun fun hne => absurd rfl hne

/-- **Step.** -/
theorem step_conserved {m : Fg23Machine} (e : Fg23Event) (h : Conserved m) : Conserved (m.step e) := by
  cases e with
  | wait us => exact h.same rfl rfl rfl (Nat.le_add_right _ _) rfl rfl rfl id rfl id h.out
  | queue frame =>
    unfold step
    dsimp only
    split
    · next hi => exact h.queue hi frame
    · exact h
  | resetPeer answers =>
    unfold step
    dsimp only
    split
    · obtain ⟨ht, hw, hp, -, -, hr, hs⟩ := m.adapter.assertReset_frame (hooksAt m.now answers)
      exact h.assertReset answers ht hw hp hr hs
    · exact h
  | process releaseOk =>
    unfold step
    dsimp only
    split
    · next hi =>
      cases hr : m.adapter.resetAsserted with
      | true =>
        rw [if_pos rfl]
        exact h.releaseReset hi _ releaseOk
      | false =>
        rw [if_neg Bool.false_ne_true]
        exact h.same rfl rfl rfl (Nat.le_refl _) rfl rfl rfl id rfl nofun fun _ => hr
    · exact h
  | resume answers peerRequest => exact h.resume answers peerRequest
  | startReturns ok =>
    unfold step
    dsimp only
    split
    · next hs => exact h.startReturns hs ok
    · exact h
  | isr success received => exact h.isr success received

/-! ## Starts and releases -/

/-- A start comes from `process` with no completion and no transfer. -/
theorem starts_resume {m : Fg23Machine} {e : Fg23Event} (h : Starts m e) :
    ∃ nowUs answers peerRequest, m.pc = .noCompletion nowUs ∧ e = .resume answers peerRequest ∧
      m.adapter.transferActive = false := by
  obtain ⟨hne, hstart⟩ := h
  cases e with
  | wait => exact absurd hstart hne
  | isr => exact absurd hstart hne
  | queue =>
    unfold step at hstart
    dsimp only at hstart
    split at hstart <;> exact absurd hstart hne
  | resetPeer =>
    unfold step at hstart
    dsimp only at hstart
    split at hstart
    · cases hstart
    · exact absurd hstart hne
  | process =>
    unfold step at hstart
    dsimp only at hstart
    split at hstart
    · split at hstart
      · exact absurd hstart hne
      · cases hstart
    · exact absurd hstart hne
  | startReturns =>
    unfold step at hstart
    dsimp only at hstart
    split at hstart
    · cases hstart
    · exact absurd hstart hne
  | resume answers peerRequest =>
    unfold step at hstart
    cases hpc : m.pc with
    | idle => simp [hpc] at hstart
    | starting => exact absurd hpc hne
    | taken success => simp [hpc] at hstart
    | checked nowUs =>
      simp only [hpc] at hstart
      split at hstart <;> cases hstart
    | noCompletion nowUs =>
      refine ⟨nowUs, answers, peerRequest, rfl, rfl, ?_⟩
      cases ha : m.adapter.transferActive with
      | false => rfl
      | true =>
        simp only [hpc, ha, if_pos] at hstart
        unfold Fg23Machine.await at hstart
        split at hstart <;> cases hstart

/-- A reset that is no longer held has lasted. -/
theorem Conserved.held_long {m : Fg23Machine} (h : Conserved m) (hr : m.adapter.resetAsserted = true)
    (hh : m.adapter.holding (Clock.reading 32 m.now) = false) :
    m.assertedAt + m.adapter.config.resetHoldUs.toNat ≤ m.now := by
  obtain ⟨t, h1, h2, h3⟩ := h.reset hr
  have hle := of_decide_eq_false hh
  rw [h3, Clock.sub_reading h2, BitVec.not_lt, BitVec.le_def, Clock.toNat_reading] at hle
  have hmod := Nat.mod_le (m.now - t) (2 ^ 32)
  omega

/-- A `process` that releases the peer has found the reset no longer held. -/
theorem process_releases {m : Fg23Machine} (hr : m.adapter.resetAsserted = true) {ok : Bool}
    (hstep : (m.step (.process ok)).adapter.resetAsserted = false) :
    m.adapter.holding (Clock.reading 32 m.now) = false := by
  unfold step at hstep
  dsimp only at hstep
  split at hstep
  · unfold AudioFg23.releaseReset at hstep
    dsimp only at hstep
    cases hh : m.adapter.holding (Clock.reading 32 m.now) with
    | false => rfl
    | true =>
      rw [hh, if_pos rfl] at hstep
      exact hr.symm.trans hstep
  · cases hr.symm.trans hstep

/-- Nothing but `process` releases the peer. -/
theorem Conserved.releases {m : Fg23Machine} (h : Conserved m) {e : Fg23Event} (hrel : Releases m e) :
    m.adapter.holding (Clock.reading 32 m.now) = false := by
  obtain ⟨hr, hstep | ⟨ok, -, hstep⟩⟩ := hrel
  · have hidle : m.pc = .idle := by
      by_contra hne
      cases hr.symm.trans (h.out hne)
    cases e with
    | process ok => exact process_releases hr hstep
    | wait => cases hr.symm.trans hstep
    | isr success received =>
      unfold step AudioFg23.transferCompleteIsr at hstep
      dsimp only at hstep
      split at hstep <;> cases hr.symm.trans hstep
    | queue =>
      unfold step at hstep
      dsimp only at hstep
      split at hstep <;> cases hr.symm.trans hstep
    | resetPeer answers =>
      unfold step at hstep
      dsimp only at hstep
      rw [if_pos hidle] at hstep
      obtain ⟨-, -, -, -, -, hreset, -⟩ := m.adapter.assertReset_frame (hooksAt m.now answers)
      rw [hr, Bool.or_true] at hreset
      cases hreset.symm.trans hstep
    | resume answers peerRequest =>
      unfold step at hstep
      rw [hidle] at hstep
      cases hr.symm.trans hstep
    | startReturns ok =>
      unfold step at hstep
      dsimp only at hstep
      rw [if_neg (hidle ▸ nofun)] at hstep
      cases hr.symm.trans hstep
  · exact process_releases hr hstep

theorem Conserved.orderly {m : Fg23Machine} (h : Conserved m) (e : Fg23Event) : Orderly m e := by
  constructor
  · intro hstarts
    obtain ⟨nowUs, -, -, hpc, -, ha⟩ := starts_resume hstarts
    exact ⟨ha, h.out (hpc ▸ nofun)⟩
  · exact fun hrel => h.held_long hrel.1 (h.releases hrel)

/-! ## Whole runs -/

theorem ofInit_conserved {config : AudioFg23Config} {a : AudioFg23} {now : Nat} {answers : ResetAnswers}
    (h : AudioFg23.init config (hooksAt now answers) = some a) : Conserved (ofInit a now answers) := by
  obtain ⟨ht, hw, hp, -, -, hr, hs⟩ := (AudioFg23.blank config).assertReset_frame (hooksAt now answers)
  have hblank : (AudioFg23.blank config).resetAsserted = false := rfl
  have hinit : a = ((AudioFg23.blank config).assertReset (hooksAt now answers)).1 ∧
      ((AudioFg23.blank config).assertReset (hooksAt now answers)).2 = true := by
    unfold AudioFg23.init at h
    split at h
    · cases h
    · dsimp only at h
      split at h
      · cases h
      · next hok => exact ⟨(Option.some.inj h).symm, by simpa using hok⟩
  obtain ⟨rfl, hok⟩ := hinit
  refine ⟨⟨[], [], [], ?_, fun _ => rfl, .none ?_, nofun, rfl, .nil, ?_⟩, .nil, nofun, nofun,
    fun hne => absurd rfl hne, ?_⟩
  · change [] = _
    rw [waiting, ofInit, ht]
    rfl
  · intro hprepared
    exact absurd (hp.symm.trans hprepared) Bool.false_ne_true
  · rw [ofInit, ht]
    rfl
  · intro hreset
    have hresetOk : answers.resetOk = true := by
      have hor := hr.symm.trans hreset
      rwa [hblank, Bool.or_false] at hor
    refine ⟨now + answers.delayUs, Nat.le_add_right _ _, Nat.le_refl _, ?_⟩
    have hclock : (hooksAt now answers).resetOk = true := hresetOk
    rw [hclock, if_pos rfl] at hs
    exact hs

/-- **Main result.** At every moment of every run after the adapter's initialisation, with the interrupt
anywhere in it and any answers of the hooks, every accepted frame has exactly one place or fate; every start
that failed was followed by one with the same wire; and no next event starts a transfer during another or
during a reset, or releases a reset early. -/
theorem conserved {config : AudioFg23Config} {a : AudioFg23} {now : Nat} {answers : ResetAnswers}
    (h : AudioFg23.init config (hooksAt now answers) = some a) (events : List Fg23Event) :
    Accounted (events.foldl step (ofInit a now answers)) ∧ Retries (events.foldl step (ofInit a now answers)).starts ∧
      ∀ e, Orderly (events.foldl step (ofInit a now answers)) e := by
  have hc : Conserved (events.foldl step (ofInit a now answers)) :=
    Run.inv_run (fun _ e hm => step_conserved e hm) (ofInit_conserved h) events
  exact ⟨hc.accounted, hc.retries, hc.orderly⟩

/-- The frame of the native test of a start that fails (openref_audio_link_fg23_test.c:91-101, :146). -/
def retriedFrame : AudioLinkFrame :=
  { AudioLinkFrame.zero with
    kind := linkLocalAudio
    sourceId := 1
    flags := linkFlagFrame0Valid ||| linkFlagFrame1Valid
    sequence := 9 }

/-- Its calls (:142-157): the peer is released after 100 µs, and the first start fails. -/
def retriedRun : List Fg23Event :=
  [.wait 100, .process true, .queue retriedFrame, .process true, .resume ⟨true, true, 0⟩ false,
    .resume ⟨true, true, 0⟩ false, .startReturns false, .process true, .resume ⟨true, true, 0⟩ false,
    .resume ⟨true, true, 0⟩ false, .startReturns true]

theorem conserved_retry : ∃ a, AudioFg23.init ⟨100, 500⟩ (hooksAt 0 ⟨true, true, 0⟩) = some a ∧
    (retriedRun.foldl step (ofInit a 0 ⟨true, true, 0⟩)).starts.map (·.2) = [false, true] ∧
      Accounted (retriedRun.foldl step (ofInit a 0 ⟨true, true, 0⟩)) ∧
        Retries (retriedRun.foldl step (ofInit a 0 ⟨true, true, 0⟩)).starts ∧
          ∀ e, Orderly (retriedRun.foldl step (ofInit a 0 ⟨true, true, 0⟩)) e :=
  ⟨_, rfl, by decide +kernel, conserved (show AudioFg23.init ⟨100, 500⟩ _ = some _ from rfl) retriedRun⟩

end Fg23Machine

end OpenRef.Audio
