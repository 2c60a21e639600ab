import OpenRef.Audio.Rt595Port
/-!
# The completion interrupt of the RT595 port

The main loop runs `poll` in steps, with the interrupt between any two: after
`completion_pending` was read, inside `ops.start`, and after it returned but before
`transfer_active` is set. Between these points `poll` touches nothing that the
interrupt writes, and the peripheral owes one interrupt per transfer.

`complete` drops a completion that finds `transfer_active` clear. `arm` sets the flag
only after `ops.start` has returned, so the only completion of a fast transfer is
dropped and the port waits for ever. `served_iff`: no completion is lost along a run
exactly when none comes before the flag is set.
-/

namespace OpenRef.Audio

/-- Where the main loop is. -/
inductive MainPc
  | idle
  /-- `poll` has read `completion_pending` as false. -/
  | checked (timestampUs : U32)
  /-- Inside `ops.start`. -/
  | starting
  /-- `ops.start` has returned true, `transfer_active` is not set yet. -/
  | started
deriving DecidableEq, Repr

/-- What an interrupt reports, and what the peripheral received. -/
structure Completion where
  success : Bool
  bytes : U16
  received : LinkWire
deriving DecidableEq, Repr

/-- The port, its main loop and its peripheral. `owed` is the completion that fired for the latest transfer
and that neither a poll nor a reset has taken. -/
structure SpiMachine where
  port : SpiPort
  pc : MainPc
  inFlight : Bool
  owed : Option Completion

/-- A step of the main loop, or the interrupt. -/
inductive SpiEvent
  | queue (frame : AudioLinkFrame)
  | pop
  | reset
  | poll (timestampUs : U32)
  | resume
  | startReturns (ok : Bool)
  | interrupt (completion : Completion)

namespace SpiMachine

/-- A port that was just initialised. -/
def init : SpiMachine := ⟨SpiPort.init, .idle, false, none⟩

/-- The main loop after `arm` has come to `ops.start`, or has not. -/
def enter (r : SpiPort × Option LinkWire) (m : SpiMachine) : SpiMachine :=
  match r.2 with
  | none => { m with port := r.1, pc := .idle }
  | some _ => ⟨r.1, .starting, true, none⟩

/-- One event; one that cannot happen where the main loop or the peripheral is changes nothing. -/
def step (m : SpiMachine) : SpiEvent → SpiMachine
  | .queue frame => if m.pc = .idle then { m with port := (m.port.queue frame).1 } else m
  | .pop => if m.pc = .idle then { m with port := m.port.popAudio.1 } else m
  | .reset => if m.pc = .idle then ⟨m.port.reset, .idle, false, none⟩ else m
  | .poll timestampUs =>
    if m.pc = .idle then
      if m.port.spi.completionPending then enter (m.port.pollEnter timestampUs) m
      else { m with pc := .checked timestampUs }
    else m
  | .resume =>
    match m.pc with
    | .checked timestampUs => enter (m.port.updateRequest.armEnter timestampUs) m
    | .started => { m with port := m.port.armStarted, pc := .idle }
    | _ => m
  | .startReturns ok =>
    if m.pc = .starting then
      if ok then { m with pc := .started } else ⟨m.port.armFailed, .idle, false, none⟩
    else m
  | .interrupt c =>
    if m.inFlight then
      { m with
        port := SpiPort.complete { m.port with spi := { m.port.spi with rx := c.received } } c.success c.bytes
        inFlight := false
        owed := some c }
    else m

/-- The main loop runs `poll` to its end when no interrupt comes in between. -/
theorem sequential_poll (m : SpiMachine) (hi : m.pc = .idle) (timestampUs : U32) (ok : Bool) :
    ([.poll timestampUs, .resume, .startReturns ok, .resume].foldl step m).port = m.port.poll timestampUs ok := by
  have htail (r : SpiPort × Option LinkWire) : ([.startReturns ok, .resume].foldl step (enter r m)).port =
      match r.2 with
      | none => r.1
      | some _ => if ok then r.1.armStarted else r.1.armFailed := by
    unfold enter
    cases r.2 with
    | none => simp [step]
    | some _ => cases ok <;> simp [step]
  simp only [List.foldl_cons, List.foldl_nil] at htail ⊢
  cases hp : m.port.spi.completionPending with
  | true =>
    have hresume : step (enter (m.port.pollEnter timestampUs) m) .resume = enter (m.port.pollEnter timestampUs) m := by
      unfold enter
      cases (m.port.pollEnter timestampUs).2 <;> rfl
    have hpoll : step m (.poll timestampUs) = enter (m.port.pollEnter timestampUs) m := by simp [step, hi, hp]
    rw [hpoll, hresume]
    exact htail _
  | false =>
    have hpoll : step m (.poll timestampUs) = { m with pc := .checked timestampUs } := by simp [step, hi, hp]
    have hresume : step { m with pc := .checked timestampUs } .resume =
        enter (m.port.updateRequest.armEnter timestampUs) m := by
      simp only [step, enter]
    have henter : m.port.pollEnter timestampUs = m.port.updateRequest.armEnter timestampUs := by
      simp [SpiPort.pollEnter, hp]
    rw [hpoll, hresume, ← henter]
    exact htail _

/-! ## No completion is lost -/

/-- The flags hold a completion for the next poll. -/
structure Holds (p : SpiPort) (c : Completion) : Prop where
  active : p.spi.transferActive = true
  pending : p.spi.completionPending = true
  success : p.spi.completionSuccess = c.success
  bytes : p.spi.completionBytes = c.bytes
  received : p.spi.rx = c.received

/-- The completion that fired for a transfer whose start has returned true is held for a poll, and a transfer
that is active without one has not completed. -/
structure Kept (m : SpiMachine) : Prop where
  held : m.pc ≠ .starting → ∀ c, m.owed = some c → Holds m.port c
  active : m.port.spi.transferActive = true → m.port.spi.completionPending = true ∨ m.inFlight = true

/-- No completion fires between the call of a start that succeeds and the setting of `transfer_active`. -/
def AfterArming (m : SpiMachine) : SpiEvent → Prop
  | .startReturns ok => m.pc = .starting → ok = true → m.owed = none
  | .interrupt _ => m.pc = .started → m.inFlight = false
  | _ => True

/-- What a poll does with a held completion: it is counted, a whole frame is handed to the transport, and
`ops.start` is called for the next transfer. -/
structure Taken (m m' : SpiMachine) (timestampUs : U32) (c : Completion) : Prop where
  counted : m'.port.spi.transfersCompleted = incrementSaturating m.port.spi.transfersCompleted
  handed : m'.port.spi.transport = ((if c.success && c.bytes = BitVec.ofNat 16 linkFrameBytes
    then (m.port.spi.transport.acceptRx c.received).1 else m.port.spi.transport).prepareTx timestampUs).1
  arming : m'.pc = .starting

/-- Every completion of a transfer whose start returned true is processed: it is held for a poll and stays so
until a poll or a reset, and a poll takes it and arms again. -/
structure Served (m : SpiMachine) : Prop where
  kept : Kept m
  stays : m.pc ≠ .starting → ∀ c, m.owed = some c → ∀ e, (∀ timestampUs, e ≠ .poll timestampUs) → e ≠ .reset →
    (m.step e).owed = some c
  taken : m.pc = .idle → ∀ c, m.owed = some c → ∀ timestampUs, Taken m (m.step (.poll timestampUs)) timestampUs c

/-- **Invariant.** What the flags say at each point of the main loop. -/
inductive Tracks (m : SpiMachine) : Prop
  | quiet (hpc : m.pc ≠ .starting ∧ m.pc ≠ .started) (ha : m.port.spi.transferActive = false)
    (hp : m.port.spi.completionPending = false) (hf : m.inFlight = false) (ho : m.owed = none)
  | waiting (hpc : m.pc ≠ .starting ∧ m.pc ≠ .started) (ha : m.port.spi.transferActive = true)
    (hp : m.port.spi.completionPending = false) (hf : m.inFlight = true) (ho : m.owed = none)
  | complete (hpc : m.pc ≠ .starting ∧ m.pc ≠ .started) (hf : m.inFlight = false) (c : Completion)
    (ho : m.owed = some c) (hh : Holds m.port c)
  | starting (hpc : m.pc = .starting) (ha : m.port.spi.transferActive = false)
    (hp : m.port.spi.completionPending = false) (hf : m.owed = none → m.inFlight = true)
  | started (hpc : m.pc = .started) (ha : m.port.spi.transferActive = false)
    (hp : m.port.spi.completionPending = false) (hf : m.inFlight = true) (ho : m.owed = none)

theorem Tracks.kept {m : SpiMachine} (h : Tracks m) : Kept m := by
  have hnone (ho : m.owed = none) (c : Completion) (hc : m.owed = some c) : Holds m.port c := by
    rw [ho] at hc
    cases hc
  have hidle (ha : m.port.spi.transferActive = false) (h : m.port.spi.transferActive = true) :
      m.port.spi.completionPending = true ∨ m.inFlight = true := absurd (ha.symm.trans h) Bool.false_ne_true
  cases h with
  | quiet _ ha _ _ ho => exact ⟨fun _ => hnone ho, hidle ha⟩
  | waiting _ _ _ hf ho => exact ⟨fun _ => hnone ho, fun _ => .inr hf⟩
  | complete _ _ c ho hh =>
    refine ⟨fun _ d hd => ?_, fun _ => .inl hh.pending⟩
    rw [ho] at hd
    cases hd
    exact hh
  | starting hpc ha _ _ => exact ⟨fun hne => absurd hpc hne, hidle ha⟩
  | started _ ha _ _ ho => exact ⟨fun _ => hnone ho, hidle ha⟩

/-- Entering `arm` keeps track: an active port goes back to its main loop, an idle one is inside `ops.start`. -/
theorem tracks_enter {m : SpiMachine} {p : SpiPort} {timestampUs : U32} (hp : p.spi.completionPending = false)
    (hactive : p.spi.transferActive = true → Tracks { m with port := p, pc := .idle }) :
    Tracks (enter (p.armEnter timestampUs) m) := by
  cases p.armEnter_armed timestampUs with
  | active ha hr =>
    rw [hr]
    exact hactive ha
  | entered ha wire t _ _ _ hr =>
    rw [hr]
    exact .starting rfl ha hp fun _ => rfl

/-- What only touches the transport and the request line keeps track. -/
theorem Tracks.sameFlags {m : SpiMachine} {p : SpiPort} (h : Tracks m)
    (ha : p.spi.transferActive = m.port.spi.transferActive)
    (hp : p.spi.completionPending = m.port.spi.completionPending)
    (hs : p.spi.completionSuccess = m.port.spi.completionSuccess)
    (hb : p.spi.completionBytes = m.port.spi.completionBytes) (hr : p.spi.rx = m.port.spi.rx) :
    Tracks { m with port := p } := by
  cases h with
  | quiet hpc ha' hp' hf ho => exact .quiet hpc (ha.trans ha') (hp.trans hp') hf ho
  | waiting hpc ha' hp' hf ho => exact .waiting hpc (ha.trans ha') (hp.trans hp') hf ho
  | complete hpc hf c ho hh =>
    exact .complete hpc hf c ho ⟨ha.trans hh.active, hp.trans hh.pending, hs.trans hh.success, hb.trans hh.bytes,
      hr.trans hh.received⟩
  | starting hpc ha' hp' hf => exact .starting hpc (ha.trans ha') (hp.trans hp') hf
  | started hpc ha' hp' hf ho => exact .started hpc (ha.trans ha') (hp.trans hp') hf ho

/-- Where the main loop is between its calls does not matter. -/
theorem Tracks.samePc {m : SpiMachine} {pc : MainPc} (h : Tracks m) (hm : m.pc ≠ .starting ∧ m.pc ≠ .started)
    (hpc : pc ≠ .starting ∧ pc ≠ .started) : Tracks { m with pc := pc } := by
  cases h with
  | quiet _ ha hp hf ho => exact .quiet hpc ha hp hf ho
  | waiting _ ha hp hf ho => exact .waiting hpc ha hp hf ho
  | complete _ hf c ho hh => exact .complete hpc hf c ho ⟨hh.active, hh.pending, hh.success, hh.bytes, hh.received⟩
  | starting hs => exact absurd hs hm.1
  | started hs => exact absurd hs hm.2

/-- **Step: the interrupt**, unless it comes before the flag is set. -/
theorem Tracks.interrupt {m : SpiMachine} (h : Tracks m) (c : Completion) (hc : AfterArming m (.interrupt c)) :
    Tracks (m.step (.interrupt c)) := by
  unfold step
  dsimp only
  cases hf : m.inFlight with
  | false => exact h
  | true =>
    rw [if_pos rfl]
    cases h with
    | quiet _ _ _ hf' => exact absurd (hf'.symm.trans hf) Bool.false_ne_true
    | waiting hpc ha hp _ _ =>
      refine .complete hpc rfl c rfl ?_
      have hset : SpiPort.complete { m.port with spi := { m.port.spi with rx := c.received } } c.success c.bytes =
          { m.port with spi := { m.port.spi with
            rx := c.received
            completionSuccess := c.success
            completionBytes := c.bytes
            completionPending := true } } := by
        simp [SpiPort.complete, ha, hp]
      dsimp only
      rw [hset]
      exact ⟨ha, rfl, rfl, rfl, rfl⟩
    | complete _ hf' => exact absurd (hf'.symm.trans hf) Bool.false_ne_true
    | starting hpc ha hp _ =>
      have hset : SpiPort.complete { m.port with spi := { m.port.spi with rx := c.received } } c.success c.bytes =
          { m.port with spi := { m.port.spi with
            rx := c.received
            duplicateCompletions := incrementSaturating m.port.spi.duplicateCompletions } } := by
        simp [SpiPort.complete, ha]
      rw [hset]
      exact .starting hpc ha hp fun ho => by cases ho
    | started hpc _ _ _ _ => exact absurd ((hc hpc).symm.trans hf) Bool.false_ne_true

/-- **Step: the main loop goes on.** -/
theorem Tracks.resume {m : SpiMachine} (h : Tracks m) : Tracks (m.step .resume) := by
  unfold step
  dsimp only
  cases hpc : m.pc with
  | idle => exact h
  | starting => exact h
  | checked timestampUs =>
    dsimp only
    have hm : m.pc ≠ .starting ∧ m.pc ≠ .started := by
      rw [hpc]
      exact ⟨by simp, by simp⟩
    have hidle : Tracks { m with port := m.port.updateRequest, pc := .idle } :=
      (h.sameFlags (p := m.port.updateRequest) rfl rfl rfl rfl rfl).samePc hm ⟨by simp, by simp⟩
    cases hp : m.port.spi.completionPending with
    | false => exact tracks_enter hp fun _ => hidle
    | true =>
      -- the completion came after `poll` had looked: the port is still active and is left as it is
      have ha : m.port.spi.transferActive = true := by
        cases h with
        | complete _ _ c _ hh => exact hh.active
        | quiet _ _ hp' | waiting _ _ hp' | starting _ _ hp' | started _ _ hp' =>
          exact absurd (hp'.symm.trans hp) Bool.false_ne_true
      have hstay : m.port.updateRequest.armEnter timestampUs = (m.port.updateRequest, none) := by
        simp [SpiPort.armEnter, ha]
      rw [hstay]
      exact hidle
  | started =>
    cases h with
    | started _ _ hp hf ho => exact .waiting ⟨by simp, by simp⟩ rfl hp hf ho
    | quiet hn | waiting hn | complete hn => exact absurd hpc hn.2
    | starting hs =>
      rw [hpc] at hs
      cases hs

/-- **Step.** -/
theorem step_tracks (m : SpiMachine) (e : SpiEvent) (h : Tracks m) (hc : AfterArming m e) : Tracks (m.step e) := by
  cases e with
  | queue frame =>
    have hflags : ∀ p : SpiPort, (p.queue frame).1.spi.transferActive = p.spi.transferActive ∧
        (p.queue frame).1.spi.completionPending = p.spi.completionPending ∧
        (p.queue frame).1.spi.completionSuccess = p.spi.completionSuccess ∧
        (p.queue frame).1.spi.completionBytes = p.spi.completionBytes ∧ (p.queue frame).1.spi.rx = p.spi.rx := by
      intro p
      unfold SpiPort.queue
      dsimp only
      split <;> exact ⟨rfl, rfl, rfl, rfl, rfl⟩
    obtain ⟨ha, hp, hs, hb, hr⟩ := hflags m.port
    unfold step
    dsimp only
    split
    · exact h.sameFlags ha hp hs hb hr
    · exact h
  | pop =>
    unfold step
    dsimp only
    split
    · exact h.sameFlags rfl rfl rfl rfl rfl
    · exact h
  | reset =>
    unfold step
    dsimp only
    split
    · exact .quiet ⟨by simp, by simp⟩ rfl rfl rfl rfl
    · exact h
  | poll timestampUs =>
    unfold step
    dsimp only
    split
    · next hi =>
      have hm : m.pc ≠ .starting ∧ m.pc ≠ .started := by
        rw [hi]
        exact ⟨by simp, by simp⟩
      cases hp : m.port.spi.completionPending with
      | true =>
        obtain ⟨-, ha, hp'⟩ := m.port.takeCompletion_frame
        rw [if_pos rfl, SpiPort.pollEnter, hp, if_pos rfl]
        exact tracks_enter hp' fun h => absurd (ha.symm.trans h) Bool.false_ne_true
      | false =>
        rw [if_neg Bool.false_ne_true]
        exact h.samePc hm ⟨by simp, by simp⟩
    · exact h
  | resume => exact h.resume
  | startReturns ok =>
    unfold step
    dsimp only
    split
    · next hpc =>
      cases h with
      | starting _ ha hp hf =>
        cases ok with
        | true =>
          have ho := hc hpc rfl
          exact .started rfl ha hp (hf ho) ho
        | false => exact .quiet ⟨by simp, by simp⟩ ha hp rfl rfl
      | quiet hn | waiting hn | complete hn => exact absurd hpc hn.1
      | started hs =>
        rw [hpc] at hs
        cases hs
    · exact h
  | interrupt c => exact h.interrupt c hc

/-- A completion before the flag is set is lost. -/
theorem not_kept_of_early {m : SpiMachine} {e : SpiEvent} (h : Tracks m) (hc : ¬ AfterArming m e) :
    ¬ Kept (m.step e) := by
  cases e with
  | startReturns ok =>
    simp only [AfterArming, Classical.not_imp] at hc
    obtain ⟨hpc, hok, ho⟩ := hc
    subst hok
    obtain ⟨c, hoc⟩ := Option.ne_none_iff_exists'.1 ho
    cases h with
    | starting _ ha _ _ =>
      intro hk
      have hh := hk.held (by simp [step, hpc]) c (by simpa [step, hpc] using hoc)
      have hactive := hh.active
      simp [step, hpc, ha] at hactive
    | quiet hn | waiting hn | complete hn => exact absurd hpc hn.1
    | started hs =>
      rw [hpc] at hs
      cases hs
  | interrupt c =>
    simp only [AfterArming, Classical.not_imp, Bool.not_eq_false] at hc
    obtain ⟨hpc, hf⟩ := hc
    cases h with
    | started _ ha _ _ _ =>
      intro hk
      have hh := hk.held (by simp [step, hpc, hf]) c (by simp [step, hf])
      have hactive := hh.active
      simp [step, hf, SpiPort.complete, ha] at hactive
    | quiet hn | waiting hn | complete hn => exact absurd hpc hn.2
    | starting hs =>
      rw [hpc] at hs
      cases hs
  | queue | pop | reset | poll | resume => exact absurd trivial hc

/-- The next poll takes a held completion. -/
theorem poll_taken {m : SpiMachine} {c : Completion} (hi : m.pc = .idle) (hh : Holds m.port c) (timestampUs : U32) :
    Taken m (m.step (.poll timestampUs)) timestampUs c := by
  have hcompletion : m.port.takeCompletion.spi.transfersCompleted =
      incrementSaturating m.port.spi.transfersCompleted ∧
      m.port.takeCompletion.spi.transport = if c.success && c.bytes = BitVec.ofNat 16 linkFrameBytes
        then (m.port.spi.transport.acceptRx c.received).1 else m.port.spi.transport := by
    unfold SpiPort.takeCompletion
    dsimp only
    rw [hh.success, hh.bytes, hh.received]
    cases c.success with
    | false => exact ⟨rfl, rfl⟩
    | true =>
      by_cases hb : c.bytes = BitVec.ofNat 16 linkFrameBytes
      · simp [hb]
      · simp [hb]
  have hstep : m.step (.poll timestampUs) = enter (m.port.pollEnter timestampUs) m := by
    simp [step, hi, hh.pending]
  have hpoll : m.port.pollEnter timestampUs = m.port.takeCompletion.updateRequest.armEnter timestampUs := by
    simp [SpiPort.pollEnter, hh.pending]
  obtain ⟨wire, hw, -⟩ := m.port.takeCompletion.spi.transport.prepareTx_prepared timestampUs
  obtain ⟨-, ha, -⟩ := m.port.takeCompletion_frame
  have henter : m.port.takeCompletion.updateRequest.armEnter timestampUs =
      ({ m.port.takeCompletion.updateRequest with spi := { m.port.takeCompletion.spi with
        transferRequested := m.port.takeCompletion.spi.transport.requestAsserted
        transport := (m.port.takeCompletion.spi.transport.prepareTx timestampUs).1
        tx := wire } }, some wire) := by
    simp [SpiPort.armEnter, ha, hw]
  rw [hstep, hpoll, henter]
  exact ⟨hcompletion.1, congrArg (fun t => (t.prepareTx timestampUs).1) hcompletion.2, rfl⟩

/-- A completion stays owed until a poll or a reset. -/
theorem Tracks.stays {m : SpiMachine} (h : Tracks m) (hne : m.pc ≠ .starting) {c : Completion}
    (hoc : m.owed = some c) (e : SpiEvent) (hpoll : ∀ timestampUs, e ≠ .poll timestampUs) (hreset : e ≠ .reset) :
    (m.step e).owed = some c := by
  cases h with
  | quiet _ _ _ _ ho | waiting _ _ _ _ ho | started _ _ _ _ ho =>
    rw [ho] at hoc
    cases hoc
  | starting hs => exact absurd hs hne
  | complete hpc hf d ho hh =>
    cases e with
    | poll timestampUs => exact absurd rfl (hpoll timestampUs)
    | reset => exact absurd rfl hreset
    | queue frame =>
      unfold step
      dsimp only
      split <;> exact hoc
    | pop =>
      unfold step
      dsimp only
      split <;> exact hoc
    | interrupt => simpa [step, hf] using hoc
    | startReturns ok => simpa [step, hne] using hoc
    | resume =>
      unfold step
      dsimp only
      cases hm : m.pc with
      | idle => exact hoc
      | starting => exact hoc
      | started => exact absurd hm hpc.2
      | checked timestampUs =>
        have hstay : m.port.updateRequest.armEnter timestampUs = (m.port.updateRequest, none) := by
          simp [SpiPort.armEnter, hh.active]
        dsimp only
        rw [hstay]
        exact hoc

theorem Tracks.served {m : SpiMachine} (h : Tracks m) : Served m where
  kept := h.kept
  stays hne _ hoc e hpoll hreset := h.stays hne hoc e hpoll hreset
  taken hi c hoc timestampUs := poll_taken hi (h.kept.held (by simp [hi]) c hoc) timestampUs

/-- **No completion is lost exactly when none comes before `transfer_active` is set.** For every interleaving
of queue, poll, pop, reset and the completion interrupt, with the interrupt at any point from the call of
`ops.start` on: in every state reached each completion that fired for a transfer whose start returned true is
held for the next poll, which takes it and arms again, and no active transfer has completed unnoticed, if and
only if no completion of such a transfer fires before `arm` has set the flag. -/
theorem served_iff (events : List SpiEvent) :
    (∀ past later, events = past ++ later → Served (past.foldl step init)) ↔
      Run.Along step AfterArming init events := by
  have hstart : Tracks init := .quiet ⟨by simp [init], by simp [init]⟩ rfl rfl rfl rfl
  constructor
  · intro h
    exact Run.along_of_prefixes (P := Tracks) (D := fun _ _ => True) (fun m e ht _ hc => step_tracks m e ht hc)
      (fun m e ht _ hc hs => not_kept_of_early ht hc hs.kept) hstart (Run.along_of_forall fun _ _ => trivial) h
  · rintro h past later rfl
    exact (Run.inv_along step_tracks _ past hstart (Run.along_append.1 h).1).served

/-- A transfer that completes inside `ops.start`, as the FG23 side allows
(openref_audio_link_fg23_test.c:184-195): the port waits for ever. -/
theorem completion_lost : ¬ ∀ (events past later : List SpiEvent), events = past ++ later →
    let m := past.foldl step init
    m.port.spi.transferActive = true → m.port.spi.completionPending = true ∨ m.inFlight = true := by
  intro h
  have hlost := h _ [.poll 0, .resume, .interrupt ⟨true, 98, Bytes.zero _⟩, .startReturns true, .resume] [] rfl
  exact absurd (hlost (by decide +kernel)) (by decide +kernel)

end SpiMachine

end OpenRef.Audio
