import OpenRef.Security.MonotonicObjects
import OpenRef.Crew.AdmissionSafety
import OpenRef.Service.Session
/-!
# The life of a unit whose counters are in NVM3

A radio is reset at any time and then knows only what is in NVM3. It starts the admission protocol and the service
session with the counters that it loads, and gives them the callback that persists; it advances the network's epoch.
NVM3 is any driver that the code can rely on; its calls fail, also after a write has landed. `life_monotonic`: over the
whole life of the unit the counters of the wires it admitted, those of the services it authorized and the epochs it
handed out only grow, so that no wire that was admitted before a reset is admitted after it.
-/

namespace OpenRef.Security

open Crew Service

/-! ## The callbacks -/

/-- The callbacks that use no NVM3: signatures, keys and the crypto element, over an environment `κ`. -/
structure Crypto (κ : Type) where
  verifyAdmission : κ → List U8 → List U8 → List U8 → κ × Bool
  unwrap : κ → List U8 → Crew.Challenge → U32 → κ × Option SessionKey
  install : κ → U32 → SessionKey → κ × Bool
  erase : κ → κ × Bool
  verifyService : κ → Service.Challenge → U32 → ServiceRole → U32 → Response → κ × Bool

namespace Crypto

variable {κ σ : Type} (cr : Crypto κ) (d : Nvm3Driver σ)

/-- `openref_security_counter_fg23_persist` as the callback of a backend. -/
def persist (domain : CounterDomain) (k : κ × σ) (next : U32) : (κ × σ) × Bool :=
  let r := d.persistCounter k.2 (some domain) next
  ((k.1, r.1), r.2)

def admissionBackend : AdmissionBackend (κ × σ) where
  verify k signed fingerprint signature :=
    let r := cr.verifyAdmission k.1 signed fingerprint signature
    ((r.1, k.2), r.2)
  unwrap k wrapped challenge sessionId :=
    let r := cr.unwrap k.1 wrapped challenge sessionId
    ((r.1, k.2), r.2)
  persistCounter := persist d .admission

def keyBackend : CrewKeyBackend (κ × σ) where
  install k sessionId key :=
    let r := cr.install k.1 sessionId key
    ((r.1, k.2), r.2)
  erase k :=
    let r := cr.erase k.1
    ((r.1, k.2), r.2)

def serviceBackend : ServiceBackend (κ × σ) where
  verify k challenge counter role permissions response :=
    let r := cr.verifyService k.1 challenge counter role permissions response
    ((r.1, k.2), r.2)
  persistCounter := persist d .service

end Crypto

/-! ## What keeps a property of the environment -/

/-- **An admission changes the environment through its callbacks only.** -/
theorem accept_keeps {κ : Type} {be : AdmissionBackend κ} {keys : CrewKeyBackend κ} {I : κ → Prop}
    (hverify : ∀ k signed fingerprint signature, I k → I (be.verify k signed fingerprint signature).1)
    (hunwrap : ∀ k wrapped challenge sessionId, I k → I (be.unwrap k wrapped challenge sessionId).1)
    (hpersist : ∀ k next, I k → I (be.persistCounter k next).1)
    (hinstall : ∀ k sessionId key, I k → I (keys.install k sessionId key).1) {k : κ} (hk : I k)
    (p : CrewAdmissionProtocol) (s : CrewSession) (wire : AdmissionWire) (nowMs : U64) :
    I (p.accept be keys k s wire nowMs).1 := by
  have hactivate (k : κ) (s : CrewSession) (a : CrewAdmission) (key : SessionKey) (hk : I k) :
      I (s.activate keys k a key).1 := by
    rw [CrewSession.activate_context]
    split
    · exact hinstall _ _ _ hk
    · exact hk
  unfold CrewAdmissionProtocol.accept
  dsimp only
  split
  · exact hk
  · split
    · exact hk
    · have hv := hverify k wire.signed wire.fingerprint wire.signature hk
      split
      · exact hv
      · split
        · exact hunwrap _ _ _ _ hv
        · have hp := hpersist _ wire.counter (hunwrap _ wire.wrappedKey (p.timeValid nowMs).1.challenge wire.sessionId hv)
          split
          · exact hp
          · split
            · exact hactivate _ _ _ _ hp
            · exact hactivate _ _ _ _ hp

/-- **So does an authorization.** -/
theorem authorize_keeps {κ : Type} {be : ServiceBackend κ} {I : κ → Prop}
    (hverify : ∀ k challenge counter role permissions response, I k →
      I (be.verify k challenge counter role permissions response).1)
    (hpersist : ∀ k next, I k → I (be.persistCounter k next).1) {k : κ} (hk : I k) (s : ServiceSession)
    (a : Authorization) : I (s.authorize be k a).1 := by
  unfold ServiceSession.authorize
  dsimp only
  split
  · exact hk
  · split
    · exact hk
    · have hv := hverify k (s.timeValid a.nowMs).1.challenge a.counter a.role a.requestedPermissions a.response hk
      split
      · exact hv
      · split
        · exact hpersist _ _ hv
        · exact hpersist _ _ hv

/-! ## The life of a unit -/

/-- A unit, with the counters and the epochs that it has accepted or handed out so far. -/
structure SecuredUnit (κ σ : Type) where
  context : κ × σ
  admission : Option CrewAdmissionProtocol
  session : CrewSession
  service : Option ServiceSession
  admitted : List U32
  authorized : List U32
  epochs : List U32

/-- What happens to a unit. Whatever happens to its NVM3 beside the calls, such as a reset, touches no object. -/
inductive UnitEvent (κ : Type) {σ : Type} (objects : σ → U32 → Option Nvm3Object)
  | reset (environment : κ) (session : CrewSession)
  | storage (change : { f : σ → σ // ∀ s, objects (f s) = objects s })
  | startAdmission (config : AdmissionConfig) (nowMs : U64)
  | join (call : JoinCall)
  | startService (config : ServiceConfig) (nowMs : U64)
  | serve (call : ServiceCall)
  | advanceEpoch (currentEpoch : U32)

namespace SecuredUnit

variable {κ σ : Type} {objects : σ → U32 → Option Nvm3Object} (cr : Crypto κ) (d : Nvm3Driver σ)

def nvm (u : SecuredUnit κ σ) : σ := u.context.2

/-- The wire's counter, if the call admits it. -/
def admits (u : SecuredUnit κ σ) (p : CrewAdmissionProtocol) : JoinCall → List U32
  | .accept wire nowMs =>
    if (Joining.mk u.context p u.session).answer (cr.admissionBackend d) cr.keyBackend (.accept wire nowMs) then
      [wire.counter]
    else []
  | _ => []

/-- The counter of an authorization that is granted. -/
def authorizes (u : SecuredUnit κ σ) (s : ServiceSession) : ServiceCall → List U32
  | .authorize a => if (Serviced.mk u.context s).answer (cr.serviceBackend d) (.authorize a) then [a.counter] else []
  | _ => []

def step (u : SecuredUnit κ σ) : UnitEvent κ objects → SecuredUnit κ σ
  | .reset environment session =>
    { u with context := (environment, u.nvm), admission := none, session := session, service := none }
  | .storage change => { u with context := (u.context.1, change.1 u.nvm) }
  | .startAdmission config nowMs =>
    let loaded := d.loadCounter u.nvm .admission
    { u with
      context := (u.context.1, loaded.1)
      admission := loaded.2.bind fun counter => CrewAdmissionProtocol.init config counter nowMs }
  | .join call => match u.admission with
    | none => u
    | some p =>
      let next := (Joining.mk u.context p u.session).step (cr.admissionBackend d) cr.keyBackend call
      { u with
        context := next.context, admission := some next.protocol, session := next.session
        admitted := u.admitted ++ u.admits cr d p call }
  | .startService config nowMs =>
    let loaded := d.loadCounter u.nvm .service
    { u with
      context := (u.context.1, loaded.1)
      service := loaded.2.bind fun counter => ServiceSession.init config counter nowMs }
  | .serve call => match u.service with
    | none => u
    | some s =>
      let next := (Serviced.mk u.context s).step (cr.serviceBackend d) call
      { u with
        context := next.context, service := some next.session
        authorized := u.authorized ++ u.authorizes cr d s call }
  | .advanceEpoch currentEpoch =>
    let advanced := d.advanceEpoch u.nvm currentEpoch
    { u with context := (u.context.1, advanced.1), epochs := u.epochs ++ advanced.2.toList }

/-- A unit that has just been reset, with a history that starts here. -/
def fresh (context : κ × σ) (session : CrewSession) : SecuredUnit κ σ := ⟨context, none, session, none, [], [], []⟩

end SecuredUnit

/-! ## Counters that only grow -/

/-- The values grow; they are above `floor`, and the stored one has reached the last. -/
structure Recorded (values : List U32) (floor stored : ℕ) : Prop where
  increasing : values.Pairwise (· < ·)
  above : ∀ a ∈ values, floor < a.toNat
  reached : ∀ a ∈ values, a.toNat ≤ stored
  grown : floor ≤ stored

namespace Recorded

variable {values : List U32} {floor stored stored' : ℕ}

theorem start (floor : ℕ) : Recorded [] floor floor := ⟨.nil, nofun, nofun, Nat.le_refl _⟩

theorem mono (h : Recorded values floor stored) (hle : stored ≤ stored') : Recorded values floor stored' :=
  ⟨h.increasing, h.above, fun a ha => (h.reached a ha).trans hle, h.grown.trans hle⟩

/-- A value above the stored one, which is then stored. -/
theorem concat (h : Recorded values floor stored) {a : U32} (habove : stored < a.toNat) :
    Recorded (values ++ [a]) floor a.toNat := by
  refine ⟨List.pairwise_append.2 ⟨h.increasing, List.pairwise_singleton _ _, ?_⟩, ?_, ?_, h.grown.trans habove.le⟩
  · intro b hb c hc
    rw [List.mem_singleton.1 hc]
    exact (h.reached b hb).trans_lt habove
  · refine List.forall_mem_append.2 ⟨h.above, List.forall_mem_singleton.2 (h.grown.trans_lt habove)⟩
  · refine List.forall_mem_append.2 ⟨fun b hb => (h.reached b hb).trans habove.le, ?_⟩
    exact List.forall_mem_singleton.2 (Nat.le_refl _)

end Recorded

namespace SecuredUnit

open Nvm3

variable {κ σ : Type} {cr : Crypto κ} {d : Nvm3Driver σ} {objects : σ → U32 → Option Nvm3Object}

theorem persist_raised (h : d.Honest objects) (k : κ × σ) (next : U32) (domain : CounterDomain) {key : U32}
    (hkey : domain.key = some key) {s : σ} (hs : Raised objects s k.2 key) :
    Raised objects s (Crypto.persist d domain k next).1.2 key :=
  hs.trans (Nvm3Driver.persist_spec h k.2 hkey next).1

variable (cr) in
/-- **An admission raises the admission object at most**, and to the counter of the wire where it admits. -/
theorem join_raises (h : d.Honest objects) (k : κ × σ) (p : CrewAdmissionProtocol) (session : CrewSession) (call : JoinCall) :
    Raised objects k.2 ((Joining.mk k p session).step (cr.admissionBackend d) cr.keyBackend call).context.2
        admissionCounterKey ∧
      ∀ wire nowMs, call = .accept wire nowMs →
        (Joining.mk k p session).answer (cr.admissionBackend d) cr.keyBackend call = true →
        stored objects k.2 admissionCounterKey < wire.counter.toNat ∧
          stored objects ((Joining.mk k p session).step (cr.admissionBackend d) cr.keyBackend call).context.2 admissionCounterKey =
            wire.counter.toNat := by
  have hself : Raised objects k.2 k.2 admissionCounterKey := raised_of_objects rfl _
  cases call with
  | begin => exact ⟨hself, nofun⟩
  | cancel => exact ⟨hself, nofun⟩
  | leave =>
    refine ⟨?_, nofun⟩
    unfold Joining.step CrewSession.leave
    dsimp only
    split
    · exact hself
    · exact hself
  | accept wire nowMs =>
    refine ⟨?_, ?_⟩
    · exact accept_keeps (I := fun k' : κ × σ => Raised objects k.2 k'.2 admissionCounterKey) (fun _ _ _ _ hk => hk)
        (fun _ _ _ _ hk => hk) (fun k' next hk => persist_raised h k' next .admission rfl hk) (fun _ _ _ hk => hk) hself p
        session wire nowMs
    · rintro _ _ ⟨⟩ hadmits
      have ha := p.accept_accepted (cr.admissionBackend d) cr.keyBackend k session wire nowMs
      unfold Joining.answer at hadmits
      unfold Joining.step
      dsimp only at hadmits ⊢
      generalize p.accept (cr.admissionBackend d) cr.keyBackend k session wire nowMs = r at ha hadmits ⊢
      cases ha with
      | regressed => cases hadmits
      | rejected => cases hadmits
      | refused => cases hadmits
      | activated k₁ k₂ k₃ k₄ key _ _ hverify hunwrap hpersist hinstall =>
        have h₁ : k₁.2 = k.2 := (congrArg (fun r => r.1.2) hverify).symm
        have h₂ : k₂.2 = k₁.2 := (congrArg (fun r => r.1.2) hunwrap).symm
        have h₃ : k₃.2 = (d.persistCounter k₂.2 (some .admission) wire.counter).1 :=
          (congrArg (fun r => r.1.2) hpersist).symm
        have h₄ : k₄.2 = k₃.2 := (congrArg (fun r => r.1.2) hinstall).symm
        have hok : (d.persistCounter k₂.2 (some .admission) wire.counter).2 = true := congrArg Prod.snd hpersist
        obtain ⟨hless, hlast⟩ := (Nvm3Driver.persist_spec h k₂.2 (rfl : CounterDomain.key .admission = _) wire.counter).2 hok
        rw [h₄, h₃, hlast]
        rw [h₂, h₁] at hless
        exact ⟨hless, rfl⟩

variable (cr) in
/-- **A service call raises the service object at most**, and to the counter of the authorization it grants. -/
theorem serve_raises (h : d.Honest objects) (k : κ × σ) (session : ServiceSession) (call : ServiceCall) :
    Raised objects k.2 ((Serviced.mk k session).step (cr.serviceBackend d) call).context.2 serviceCounterKey ∧
      ∀ a, call = .authorize a → (Serviced.mk k session).answer (cr.serviceBackend d) call = true →
        stored objects k.2 serviceCounterKey < a.counter.toNat ∧
          stored objects ((Serviced.mk k session).step (cr.serviceBackend d) call).context.2 serviceCounterKey = a.counter.toNat := by
  have hself : Raised objects k.2 k.2 serviceCounterKey := raised_of_objects rfl _
  cases call with
  | issue => exact ⟨hself, nofun⟩
  | permitted => exact ⟨hself, nofun⟩
  | finish => exact ⟨hself, nofun⟩
  | authorize a =>
    refine ⟨?_, ?_⟩
    · exact authorize_keeps (I := fun k' : κ × σ => Raised objects k.2 k'.2 serviceCounterKey) (fun _ _ _ _ _ _ hk => hk)
        (fun k' next hk => persist_raised h k' next .service rfl hk) hself session a
    · rintro _ ⟨⟩ hgranted
      have hc := (Serviced.mk k session).call_called (cr.serviceBackend d) (.authorize a)
      unfold Serviced.answer at hgranted
      unfold Serviced.step
      generalize (Serviced.mk k session).call (cr.serviceBackend d) (.authorize a) = r at hc hgranted ⊢
      cases hc with
      | regressed => cases hgranted
      | locked => cases hgranted
      | rejected => cases hgranted
      | @authorized _ k₁ k₂ _ _ _ hverify hpersist =>
        have h₁ : k₁.2 = k.2 := (congrArg (fun r => r.1.2) hverify).symm
        have h₂ : k₂.2 = (d.persistCounter k₁.2 (some .service) a.counter).1 :=
          (congrArg (fun r => r.1.2) hpersist).symm
        have hok : (d.persistCounter k₁.2 (some .service) a.counter).2 = true := congrArg Prod.snd hpersist
        obtain ⟨hless, hlast⟩ := (Nvm3Driver.persist_spec h k₁.2 (rfl : CounterDomain.key .service = _) a.counter).2 hok
        rw [h₁] at hless
        exact ⟨hless, (congrArg (fun s => stored objects s serviceCounterKey) h₂).trans hlast⟩

/-- What holds of a unit at any time, `start` being the content of NVM3 when the history began. -/
structure Monotonic (objects : σ → U32 → Option Nvm3Object) (start : σ) (u : SecuredUnit κ σ) : Prop where
  admitted : Recorded u.admitted (stored objects start admissionCounterKey) (stored objects u.nvm admissionCounterKey)
  authorized : Recorded u.authorized (stored objects start serviceCounterKey) (stored objects u.nvm serviceCounterKey)
  epochs : Recorded u.epochs (stored objects start networkEpochKey) (stored objects u.nvm networkEpochKey)

/-- An event that leaves the three objects alone, and the lists. -/
theorem Monotonic.same {start : σ} {u u' : SecuredUnit κ σ} (h : Monotonic objects start u)
    (hobjects : objects u'.nvm = objects u.nvm) (hadmitted : u'.admitted = u.admitted) (hauthorized : u'.authorized = u.authorized)
    (hepochs : u'.epochs = u.epochs) : Monotonic objects start u' := by
  have hlast (key : U32) : stored objects u.nvm key ≤ stored objects u'.nvm key := (raised_of_objects hobjects key).grows
  refine ⟨?_, ?_, ?_⟩
  · rw [hadmitted]
    exact h.admitted.mono (hlast _)
  · rw [hauthorized]
    exact h.authorized.mono (hlast _)
  · rw [hepochs]
    exact h.epochs.mono (hlast _)

variable (cr) in
/-- **Every event keeps it**, and lowers no object. -/
theorem monotonic_step (hd : d.Honest objects) {start : σ} {u : SecuredUnit κ σ} (h : Monotonic objects start u)
    (event : UnitEvent κ objects) : Monotonic objects start (u.step cr d event) ∧
      ∀ key, stored objects u.nvm key ≤ stored objects (u.step cr d event).nvm key := by
  have hsame {u' : SecuredUnit κ σ} (hobjects : objects u'.nvm = objects u.nvm) (key : U32) :
      stored objects u.nvm key ≤ stored objects u'.nvm key := (raised_of_objects hobjects key).grows
  have hgrows {u' : SecuredUnit κ σ} {key : U32} (hr : Raised objects u.nvm u'.nvm key) (other : U32) :
      stored objects u.nvm other ≤ stored objects u'.nvm other := by
    by_cases ho : other = key
    · rw [ho]
      exact hr.grows
    · exact (hr.others other ho).ge
  cases event with
  | reset environment session => exact ⟨h.same rfl rfl rfl rfl, hsame rfl⟩
  | storage change =>
    have hobjects := change.2 u.nvm
    exact ⟨h.same hobjects rfl rfl rfl, hsame hobjects⟩
  | startAdmission config nowMs =>
    have hobjects := Nvm3Driver.loadCounter_objects hd u.nvm .admission
    exact ⟨h.same hobjects rfl rfl rfl, hsame hobjects⟩
  | startService config nowMs =>
    have hobjects := Nvm3Driver.loadCounter_objects hd u.nvm .service
    exact ⟨h.same hobjects rfl rfl rfl, hsame hobjects⟩
  | join call =>
    cases hp : u.admission with
    | none =>
      have hstep : u.step cr d (.join call : UnitEvent κ objects) = u := by
        unfold step
        rw [hp]
      rw [hstep]
      exact ⟨h, fun key => Nat.le_refl _⟩
    | some p =>
      unfold step
      rw [hp]
      obtain ⟨hraised, hadmits⟩ := join_raises cr hd u.context p u.session call
      refine ⟨⟨?_, ?_, ?_⟩, hgrows hraised⟩
      · change Recorded (u.admitted ++ u.admits cr d p call) _ _
        unfold admits
        split
        · next wire nowMs =>
          split
          · next hyes =>
            obtain ⟨hless, hlast⟩ := hadmits wire nowMs rfl hyes
            unfold nvm
            dsimp only
            rw [hlast]
            exact h.admitted.concat hless
          · rw [List.append_nil]
            exact h.admitted.mono hraised.grows
        · rw [List.append_nil]
          exact h.admitted.mono hraised.grows
      · exact h.authorized.mono (hraised.others _ (by decide)).ge
      · exact h.epochs.mono (hraised.others _ (by decide)).ge
  | serve call =>
    cases hs : u.service with
    | none =>
      have hstep : u.step cr d (.serve call : UnitEvent κ objects) = u := by
        unfold step
        rw [hs]
      rw [hstep]
      exact ⟨h, fun key => Nat.le_refl _⟩
    | some s =>
      unfold step
      rw [hs]
      obtain ⟨hraised, hgrants⟩ := serve_raises cr hd u.context s call
      refine ⟨⟨?_, ?_, ?_⟩, hgrows hraised⟩
      · exact h.admitted.mono (hraised.others _ (by decide)).ge
      · change Recorded (u.authorized ++ u.authorizes cr d s call) _ _
        unfold authorizes
        split
        · next a =>
          split
          · next hyes =>
            obtain ⟨hless, hlast⟩ := hgrants a rfl hyes
            unfold nvm
            dsimp only
            rw [hlast]
            exact h.authorized.concat hless
          · rw [List.append_nil]
            exact h.authorized.mono hraised.grows
        · rw [List.append_nil]
          exact h.authorized.mono hraised.grows
      · exact h.epochs.mono (hraised.others _ (by decide)).ge
  | advanceEpoch currentEpoch =>
    obtain ⟨hraised, hnext⟩ := Nvm3Driver.advance_spec hd u.nvm currentEpoch
    refine ⟨⟨?_, ?_, ?_⟩, hgrows hraised⟩
    · exact h.admitted.mono (hraised.others _ (by decide)).ge
    · exact h.authorized.mono (hraised.others _ (by decide)).ge
    · change Recorded (u.epochs ++ (d.advanceEpoch u.nvm currentEpoch).2.toList) _ _
      cases hadvanced : (d.advanceEpoch u.nvm currentEpoch).2 with
      | none =>
        rw [Option.toList_none, List.append_nil]
        exact h.epochs.mono hraised.grows
      | some next =>
        obtain ⟨hsucc, hwas, hnow⟩ := hnext next hadvanced
        have hlast : stored objects (u.step cr d (.advanceEpoch currentEpoch : UnitEvent κ objects)).nvm networkEpochKey =
            next.toNat := hnow
        rw [hlast]
        exact h.epochs.concat (by omega)

/-- **Main result: nothing that was accepted once is accepted again, across resets and storage failures.** With any
NVM3 that can be relied on, from any content and whatever happens to the unit: the counters of the wires it admits
strictly increase, so do those of the services it authorizes and the epochs it hands out; all are above what was
stored at first and at most what is stored now; no object ever falls; and what is loaded next is what is stored. -/
theorem life_monotonic (hd : d.Honest objects) (context : κ × σ) (session : CrewSession)
    (events : List (UnitEvent κ objects)) :
    Monotonic objects context.2 (events.foldl (step cr d) (fresh context session)) ∧
      (∀ past rest, events = past ++ rest → ∀ key,
        stored objects (past.foldl (step cr d) (fresh context session)).nvm key ≤
          stored objects (events.foldl (step cr d) (fresh context session)).nvm key) ∧
      (∀ value, (d.loadEpoch (events.foldl (step cr d) (fresh context session)).nvm).2 = some value →
        value.toNat = stored objects (events.foldl (step cr d) (fresh context session)).nvm networkEpochKey) ∧
      ∀ domain key value, domain.key = some key →
        (d.loadCounter (events.foldl (step cr d) (fresh context session)).nvm domain).2 = some value →
          value.toNat = stored objects (events.foldl (step cr d) (fresh context session)).nvm key := by
  have hstart : Monotonic objects context.2 (fresh context session) := ⟨.start _, .start _, .start _⟩
  have hinv (events : List (UnitEvent κ objects)) :
      Monotonic objects context.2 (events.foldl (step cr d) (fresh context session)) :=
    Run.inv_run (P := Monotonic objects context.2) (fun _ event h => (monotonic_step cr hd h event).1) hstart events
  refine ⟨hinv events, fun past rest hsplit key => ?_, fun value hload => Nvm3Driver.load_spec hd hload,
    fun domain key value hkey hload => ?_⟩
  · rw [hsplit, List.foldl_append]
    generalize hu : past.foldl (step cr d) (fresh context session) = u
    have hpast : Monotonic objects context.2 u := hu ▸ hinv past
    refine And.right (Run.inv_run
      (P := fun u' => Monotonic objects context.2 u' ∧ stored objects u.nvm key ≤ stored objects u'.nvm key) ?_
      ⟨hpast, Nat.le_refl _⟩ rest)
    intro u' event h
    obtain ⟨hnext, hle⟩ := monotonic_step cr hd h.1 event
    exact ⟨hnext, h.2.trans (hle key)⟩
  · unfold Nvm3Driver.loadCounter at hload
    rw [hkey] at hload
    exact Nvm3Driver.load_spec hd hload

end SecuredUnit

/-! ## A life -/

/-- Callbacks that accept everything. -/
def trusting : Crypto Unit where
  verifyAdmission _ _ _ _ := ((), true)
  unwrap _ _ _ _ := ((), none)
  install _ _ _ := ((), true)
  erase _ := ((), true)
  verifyService _ _ _ _ _ _ := ((), true)

/-- The next writes of a scripted store. -/
def upcoming (writes : List Exchange) : { f : ScriptedNvm3 → ScriptedNvm3 // ∀ s, (f s).objects = s.objects } :=
  ⟨fun s => { s with writes := writes }, fun _ => rfl⟩

def blankNvm3 : ScriptedNvm3 := ⟨fun _ => none, [], []⟩

def nodeOneSession : CrewSession := ⟨0, 0, 1, 0, 0, 0, 0, false⟩

/-- A service is authorized with counter 7 from a challenge that is issued at once. -/
def served : List (UnitEvent Unit ScriptedNvm3.objects) :=
  [.startService ⟨1000, 1000, 1000, 3⟩ 0, .serve (.issue ⟨List.replicate 32 1, List.length_replicate⟩ 0),
    .serve (.authorize ⟨7, .technician, 1, true, Bytes.zero 32, 0⟩)]

/-- The answer to the second epoch is lost. After each of two resets the same service is asked for. -/
def lostAnswer : List (UnitEvent Unit ScriptedNvm3.objects) :=
  [.advanceEpoch 0, .storage (upcoming [.unanswered]), .advanceEpoch 1, .reset () nodeOneSession, .advanceEpoch 1,
    .advanceEpoch 2] ++ served ++ [.reset () nodeOneSession] ++ served

/-- The lost epoch is not handed out again, nor the service authorized again. -/
theorem SecuredUnit.life_monotonic_lost_answer :
    let u := lostAnswer.foldl (step trusting ScriptedNvm3.driver) (fresh ((), blankNvm3) nodeOneSession)
    Monotonic ScriptedNvm3.objects blankNvm3 u ∧ u.epochs = [1, 3] ∧ u.authorized = [7] :=
  ⟨(life_monotonic ScriptedNvm3.driver_honest ((), blankNvm3) nodeOneSession lostAnswer).1, by decide, by decide⟩

end OpenRef.Security
