import OpenRef.Crew.RadioSession
import OpenRef.Security.BootCounter
import OpenRef.Security.Transport
import OpenRef.Lib.Run
/-!
# Nonces over a device's life

A device boots any number of times; in a boot it joins and leaves crew sessions and
protects packets. The radio keeps one transport, initialised by each provision, and
the crypto element keeps the key and, for the proofs, the key and nonce of each
encrypt call that succeeded.

Every provision starts the packet counter at 1 again. `nonces_distinct`: no nonce is
used twice under a key as long as no session is joined again, in one boot, under a
key it was used with. A crew session refuses only the session it was in last
(openref_crew_session.c:56): `nonce_reused_after_rejoin`.
-/

namespace OpenRef.Crew

open Security

/-! ## The radio and the crypto element -/

/-- The crypto element behind the encrypt callback: its key, what it will answer, and the key and nonce
of each call it served. -/
structure CryptoElement where
  key : SessionKey
  answer : Option (Plaintext × Tag)
  served : List (SessionKey × Nonce)

namespace CryptoElement

/-- The CCM callbacks; this device opens no packets. -/
def ccm : CcmBackend CryptoElement where
  encrypt e nonce _ _ :=
    match e.answer with
    | none => (e, none)
    | some c => ({ e with served := (e.key, nonce) :: e.served }, some c)
  decrypt e _ _ _ _ := (e, none)

theorem encrypt_none {e e' : CryptoElement} {nonce : Nonce} {aad : Aad} {text : Plaintext}
    (h : ccm.encrypt e nonce aad text = (e', none)) : e' = e := by
  simp only [ccm] at h
  split at h
  · exact (Prod.mk.inj h).1.symm
  · cases h

theorem encrypt_some {e e' : CryptoElement} {nonce : Nonce} {aad : Aad} {text : Plaintext}
    {c : Plaintext × Tag} (h : ccm.encrypt e nonce aad text = (e', some c)) :
    e'.key = e.key ∧ e'.served = (e.key, nonce) :: e.served := by
  simp only [ccm] at h
  split at h
  · cases h
  · cases h
    exact ⟨rfl, rfl⟩

end CryptoElement

/-- The radio: its transport, its crypto element and how it takes the next command. -/
structure Radio where
  transport : SecureTransport
  element : CryptoElement
  exchange : Exchange

namespace Radio

/-- The commands: a provision initialises the transport, a disable clears it. -/
def backend : RadioBackend Radio where
  provision r session boot counter key :=
    (if r.exchange.landed then
      match SecureTransport.init session boot counter with
      | some t => { r with transport := t, element := { r.element with key := key } }
      | none => r
    else r, r.exchange.reported)
  disable r :=
    (if r.exchange.landed then { r with transport := SecureTransport.zero } else r, r.exchange.reported)

/-- The radio after power came on. -/
def powerOn (r : Radio) : Radio :=
  ⟨SecureTransport.zero, { r.element with key := Bytes.zero _, answer := none }, .done⟩

end Radio

/-! ## The device -/

/-- `openref_secure_startup_init` (openref_secure_startup.c:6-41): the boot counter, then the radio. -/
def secureStartup (counter : CounterStore) (radio : Radio) : CounterStore × Radio × Option RadioSession :=
  let a := advanceBootCounter CounterStore.backend counter
  match a.2 with
  | none => (a.1, radio, none)
  | some boot =>
    let r := RadioSession.init Radio.backend radio boot
    (a.1, r.1, r.2)

/-- A device; `running` is the radio and crew session of a boot whose startup succeeded. `used` lists the
sessions and keys packets were protected with in this boot. -/
structure Device where
  counter : CounterStore
  radio : Radio
  running : Option (RadioSession × CrewSession)
  used : List (U32 × SessionKey)

/-- What can happen to a device. -/
inductive DeviceEvent where
  /-- Power on, with the next answers of the counter storage and of the radio. -/
  | boot (localNodeId : U8) (reads : List Bool) (writes : List Exchange) (exchange : Exchange)
  /-- An admission and its key. -/
  | activate (admission : CrewAdmission) (key : SessionKey) (exchange : Exchange)
  | leave (exchange : Exchange)
  /-- A packet to protect, and what the crypto element answers. -/
  | protect (packet : Packet.NetworkPacket) (answer : Option (Plaintext × Tag))

namespace Device

/-- A device with a counter storage, before its first boot. -/
def init (value : Option U32) : Device :=
  ⟨⟨value, [], []⟩, ⟨SecureTransport.zero, ⟨Bytes.zero _, none, []⟩, .done⟩, none, []⟩

/-- The key and nonce of each successful encrypt call. -/
def served (d : Device) : List (SessionKey × Nonce) := d.radio.element.served

/-- Power on: the radio starts empty, and the sessions exist when the secure startup succeeds. -/
def boot (d : Device) (localNodeId : U8) (reads : List Bool) (writes : List Exchange) (exchange : Exchange) :
    Device :=
  let s := secureStartup { d.counter with reads := reads, writes := writes }
    { d.radio.powerOn with exchange := exchange }
  ⟨s.1, s.2.1, s.2.2.bind fun r => (CrewSession.init localNodeId).map fun c => (r, c), []⟩

/-- `openref_crew_session_activate` over the radio session's key backend. -/
def activate (d : Device) (admission : CrewAdmission) (key : SessionKey) (exchange : Exchange) : Device :=
  match d.running with
  | none => d
  | some (session, crew) =>
    let r := crew.activate (RadioSession.crewKeyBackend Radio.backend)
      ({ d.radio with exchange := exchange }, session) admission key
    { d with radio := r.1.1, running := some (r.1.2, r.2.1) }

/-- `openref_crew_session_leave` over the radio session's key backend. -/
def leave (d : Device) (exchange : Exchange) : Device :=
  match d.running with
  | none => d
  | some (session, crew) =>
    let r := crew.leave (RadioSession.crewKeyBackend Radio.backend) ({ d.radio with exchange := exchange }, session)
    { d with radio := r.1.1, running := some (r.1.2, r.2.1) }

/-- `openref_secure_transport_protect` on the radio. -/
def protect (d : Device) (packet : Packet.NetworkPacket) (answer : Option (Plaintext × Tag)) : Device :=
  let r := d.radio.transport.protect CryptoElement.ccm { d.radio.element with answer := answer } packet
  { d with
    radio := { d.radio with transport := r.2.1, element := r.1 }
    used := if r.2.2.isSome then (d.radio.transport.crewSessionId, d.radio.element.key) :: d.used else d.used }

/-- One event. -/
def step (d : Device) : DeviceEvent → Device
  | .boot localNodeId reads writes exchange => d.boot localNodeId reads writes exchange
  | .activate admission key exchange => d.activate admission key exchange
  | .leave exchange => d.leave exchange
  | .protect packet answer => d.protect packet answer

/-- An admission takes its key to the radio: it is valid and neither session is active. -/
def Admits (d : Device) (a : CrewAdmission) : Prop :=
  ∃ session crew, d.running = some (session, crew) ∧ crew.validAdmission a = true ∧ crew.active = false ∧
    session.active = false

theorem admits_iff (d : Device) (a : CrewAdmission) : d.Admits a ↔
    (d.running.any fun w => w.2.validAdmission a && !w.2.active && !w.1.active) = true := by
  unfold Admits
  cases d.running with
  | none => simp
  | some w =>
    obtain ⟨r, c⟩ := w
    simp only [Option.some.injEq, Prod.mk.injEq, Option.any_some, Bool.and_eq_true, Bool.not_eq_true', and_assoc]
    constructor
    · rintro ⟨_, _, rfl, rfl, h⟩
      exact h
    · intro h
      exact ⟨r, c, rfl, rfl, h⟩

instance decidableAdmits (d : Device) (a : CrewAdmission) : Decidable (d.Admits a) :=
  decidable_of_iff _ (admits_iff d a).symm

/-- No admission takes effect under a session and key that protected a packet in this boot. -/
def NoRejoin (d : Device) : DeviceEvent → Prop
  | .activate admission key exchange =>
    d.Admits admission → exchange.landed = true → (admission.sessionId, key) ∉ d.used
  | _ => True

instance decidableNoRejoin (d : Device) : ∀ e : DeviceEvent, Decidable (d.NoRejoin e)
  | .activate a key x => inferInstanceAs (Decidable (d.Admits a → x.landed = true → (a.sessionId, key) ∉ d.used))
  | .boot _ _ _ _ | .leave _ | .protect _ _ => .isTrue trivial

/-! ## What each event does to the radio -/

/-- An activation leaves the radio alone or initialises its transport with the first packet counter. -/
theorem activate_radio (d : Device) (a : CrewAdmission) (key : SessionKey) (x : Exchange) :
    (d.activate a key x).counter = d.counter ∧ (d.activate a key x).used = d.used ∧
    (∀ r' c', (d.activate a key x).running = some (r', c') →
      ∃ r c, d.running = some (r, c) ∧ r'.bootCounter = r.bootCounter) ∧
    (((d.activate a key x).radio.transport = d.radio.transport ∧
        (d.activate a key x).radio.element = d.radio.element) ∨
      (d.Admits a ∧ x.landed = true ∧ ∃ r c t, d.running = some (r, c) ∧
        SecureTransport.init a.sessionId r.bootCounter 1 = some t ∧
        (d.activate a key x).radio.transport = t ∧
        (d.activate a key x).radio.element = { d.radio.element with key := key } ∧
        ∃ r' c', (d.activate a key x).running = some (r', c') ∧ r'.bootCounter = r.bootCounter)) := by
  unfold activate
  cases hrun : d.running with
  | none =>
    refine ⟨rfl, rfl, fun r' c' h => ?_, .inl ⟨rfl, rfl⟩⟩
    rw [hrun] at h
    cases h
  | some rc =>
    obtain ⟨r, c⟩ := rc
    dsimp only
    generalize hw : (({ d.radio with exchange := x } : Radio), r) = w
    have hctx := c.activate_context (RadioSession.crewKeyBackend Radio.backend) w a key
    generalize c.activate (RadioSession.crewKeyBackend Radio.backend) w a key = out at hctx
    obtain ⟨hradio, hboot⟩ := RadioSession.install_radio Radio.backend w a.sessionId key
    change out.1 = if _ then (RadioSession.install Radio.backend w a.sessionId key).1 else w at hctx
    subst hw
    have hsame : out.1.2.bootCounter = r.bootCounter := by
      rw [hctx]
      split
      · exact hboot
      · rfl
    refine ⟨rfl, rfl, fun r' c' h => ⟨r, c, rfl, ?_⟩, ?_⟩
    · cases h
      exact hsame
    · rw [hctx]
      split
      · rename_i hadmit
        rw [hradio]
        split
        · rename_i hinstall
          simp only [Radio.backend]
          split
          · rename_i hlanded
            split
            · rename_i t ht
              refine .inr ⟨⟨r, c, hrun, hadmit.1, hadmit.2, hinstall.2⟩, hlanded, r, c, t, rfl, ht, rfl, rfl,
                _, _, rfl, hboot⟩
            · exact .inl ⟨rfl, rfl⟩
          · exact .inl ⟨rfl, rfl⟩
        · exact .inl ⟨rfl, rfl⟩
      · exact .inl ⟨rfl, rfl⟩

/-- A leave clears the transport or leaves it alone. -/
theorem leave_radio (d : Device) (x : Exchange) :
    (d.leave x).counter = d.counter ∧ (d.leave x).used = d.used ∧
    (d.leave x).radio.element = d.radio.element ∧
    ((d.leave x).radio.transport = d.radio.transport ∨ (d.leave x).radio.transport = SecureTransport.zero) ∧
    (∀ r c, d.running = some (r, c) →
      ∃ r' c', (d.leave x).running = some (r', c') ∧ r'.bootCounter = r.bootCounter) ∧
    (d.running = none → (d.leave x).running = none) := by
  unfold leave
  cases hrun : d.running with
  | none =>
    refine ⟨rfl, rfl, rfl, .inl rfl, fun r c h => ?_, fun _ => hrun⟩
    cases h
  | some rc =>
    obtain ⟨r, c⟩ := rc
    dsimp only
    generalize hw : (({ d.radio with exchange := x } : Radio), r) = w
    have hctx := c.leave_context (RadioSession.crewKeyBackend Radio.backend) w
    generalize c.leave (RadioSession.crewKeyBackend Radio.backend) w = out at hctx
    obtain ⟨hradio, hboot⟩ := RadioSession.erase_radio Radio.backend w
    change out.1 = (RadioSession.erase Radio.backend w).1 at hctx
    subst hw
    have hdisable : out.1.1 = (Radio.backend.disable { d.radio with exchange := x }).1 := by rw [hctx, hradio]
    have hsame : out.1.2.bootCounter = r.bootCounter := by rw [hctx, hboot]
    refine ⟨rfl, rfl, ?_, ?_, fun r₀ c₀ h => ⟨_, _, rfl, ?_⟩, fun h => by cases h⟩
    · rw [hdisable]
      simp only [Radio.backend]
      split <;> rfl
    · rw [hdisable]
      simp only [Radio.backend]
      split
      · exact .inr rfl
      · exact .inl rfl
    · cases h
      exact hsame

/-- Power on clears the transport; a running device has a boot counter above all stored before. -/
theorem boot_radio (d : Device) (n : U8) (reads : List Bool) (writes : List Exchange) (x : Exchange) :
    (d.boot n reads writes x).served = d.served ∧ (d.boot n reads writes x).used = [] ∧
    (d.boot n reads writes x).radio.transport.initialized = false ∧
    d.counter.last ≤ (d.boot n reads writes x).counter.last ∧
    ∀ r c, (d.boot n reads writes x).running = some (r, c) →
      d.counter.last < r.bootCounter.toNat ∧ (d.boot n reads writes x).counter.last = r.bootCounter.toNat := by
  obtain ⟨hle, hnew⟩ := CounterStore.advance_value { d.counter with reads := reads, writes := writes }
  unfold boot secureStartup
  dsimp only
  cases hadv : (advanceBootCounter CounterStore.backend { d.counter with reads := reads, writes := writes }).2 with
  | none => exact ⟨rfl, rfl, rfl, hle, fun r c h => by cases h⟩
  | some b =>
    obtain ⟨hlt, hlast⟩ := hnew b hadv
    dsimp only
    unfold RadioSession.init
    split
    · exact ⟨rfl, rfl, rfl, hle, fun r c h => by cases h⟩
    · refine ⟨?_, rfl, ?_, hle, fun r c h => ?_⟩
      · simp only [Radio.backend, served]
        split <;> rfl
      · simp only [Radio.backend]
        split <;> rfl
      · dsimp only at h
        split at h
        · rw [Option.bind_some] at h
          obtain ⟨c', -, h⟩ := Option.map_eq_some_iff.1 h
          cases h
          exact ⟨hlt, hlast⟩
        · cases h

/-! ## The invariant -/

/-- What the nonces of all served calls satisfy at every moment. -/
structure Spent (d : Device) : Prop where
  nodup : d.served.Nodup
  /-- No nonce has a boot counter beyond the stored one. -/
  bounded : ∀ key s i b p, (key, buildNonce s i b p) ∈ d.served → b.toNat ≤ d.counter.last
  current : ∀ r c, d.running = some (r, c) → r.bootCounter.toNat ≤ d.counter.last
  /-- A session and key not used in this boot have no nonce of this boot. -/
  unused : ∀ r c, d.running = some (r, c) → ∀ s key, (s, key) ∉ d.used →
    ∀ i p, (key, buildNonce s i r.bootCounter p) ∉ d.served
  /-- The transport belongs to this boot. -/
  thisBoot : d.radio.transport.initialized = true →
    ∃ r c, d.running = some (r, c) ∧ d.radio.transport.bootCounter = r.bootCounter
  /-- The transport's next counter is ahead of its nonces. -/
  ahead : d.radio.transport.initialized = true → d.radio.transport.transmitExhausted = false →
    ∀ i p, (d.radio.element.key,
        buildNonce d.radio.transport.crewSessionId i d.radio.transport.bootCounter p) ∈ d.served →
      p.toNat < d.radio.transport.nextPacketCounter.toNat

theorem init_spent (value : Option U32) : Spent (init value) where
  nodup := List.nodup_nil
  bounded := by intro _ _ _ _ _ h; cases h
  current := by intro _ _ h; cases h
  unused := by intro _ _ h; cases h
  thisBoot := by intro h; cases h
  ahead := by intro h; cases h

theorem boot_spent {d : Device} (h : Spent d) (n : U8) (reads : List Bool) (writes : List Exchange)
    (x : Exchange) : Spent (d.boot n reads writes x) := by
  obtain ⟨hserved, -, hoff, hle, hnew⟩ := boot_radio d n reads writes x
  refine ⟨by rw [hserved]; exact h.nodup, ?_, ?_, ?_, ?_, ?_⟩
  · intro key s i b p hmem
    rw [hserved] at hmem
    exact Nat.le_trans (h.bounded key s i b p hmem) hle
  · intro r c hrun
    exact Nat.le_of_eq (hnew r c hrun).2.symm
  · intro r c hrun s key _ i p hmem
    rw [hserved] at hmem
    have hold := h.bounded key s i r.bootCounter p hmem
    have := (hnew r c hrun).1
    omega
  · intro hon
    rw [hoff] at hon
    cases hon
  · intro hon
    rw [hoff] at hon
    cases hon

/-- Where no call was served, only the transport has to be looked at. -/
theorem Spent.unserved {d d' : Device} (h : Spent d) (hserved : d'.served = d.served) (hcounter : d'.counter = d.counter)
    (hused : d'.used = d.used) (hback : ∀ r' c', d'.running = some (r', c') →
      ∃ r c, d.running = some (r, c) ∧ r'.bootCounter = r.bootCounter)
    (hboot : d'.radio.transport.initialized = true →
      ∃ r c, d'.running = some (r, c) ∧ d'.radio.transport.bootCounter = r.bootCounter)
    (hahead : d'.radio.transport.initialized = true → d'.radio.transport.transmitExhausted = false →
      ∀ i p, (d'.radio.element.key,
          buildNonce d'.radio.transport.crewSessionId i d'.radio.transport.bootCounter p) ∈ d.served →
        p.toNat < d'.radio.transport.nextPacketCounter.toNat) : Spent d' := by
  refine ⟨?_, ?_, ?_, ?_, hboot, ?_⟩
  · rw [hserved]
    exact h.nodup
  · rw [hserved, hcounter]
    exact h.bounded
  · intro r' c' h'
    obtain ⟨r, c, hr, hb⟩ := hback r' c' h'
    rw [hb, hcounter]
    exact h.current r c hr
  · intro r' c' h' s key hu i p
    obtain ⟨r, c, hr, hb⟩ := hback r' c' h'
    rw [hused] at hu
    rw [hb, hserved]
    exact h.unused r c hr s key hu i p
  · rw [hserved]
    exact hahead

theorem leave_spent {d : Device} (h : Spent d) (x : Exchange) : Spent (d.leave x) := by
  obtain ⟨hcounter, hused, helement, htransport, hrun, hnone⟩ := leave_radio d x
  have hserved : (d.leave x).served = d.served := congrArg CryptoElement.served helement
  have hback : ∀ r' c', (d.leave x).running = some (r', c') →
      ∃ r c, d.running = some (r, c) ∧ r'.bootCounter = r.bootCounter := by
    intro r' c' h'
    cases hr : d.running with
    | none =>
      rw [hnone hr] at h'
      cases h'
    | some rc =>
      obtain ⟨r'', c'', h'', hb⟩ := hrun rc.1 rc.2 hr
      rw [h''] at h'
      cases h'
      exact ⟨rc.1, rc.2, rfl, hb⟩
  refine h.unserved hserved hcounter hused hback ?_ ?_
  · intro hon
    rcases htransport with ht | ht
    · rw [ht] at hon ⊢
      obtain ⟨r, c, hr, hb⟩ := h.thisBoot hon
      obtain ⟨r', c', hr', hb'⟩ := hrun r c hr
      exact ⟨r', c', hr', hb.trans hb'.symm⟩
    · rw [ht] at hon
      cases hon
  · intro hon hex
    rcases htransport with ht | ht
    · rw [ht] at hon hex ⊢
      rw [helement]
      exact h.ahead hon hex
    · rw [ht] at hon
      cases hon

theorem activate_spent {d : Device} (h : Spent d) {a : CrewAdmission} {key : SessionKey} {x : Exchange}
    (hfresh : d.NoRejoin (.activate a key x)) : Spent (d.activate a key x) := by
  obtain ⟨hcounter, hused, hback, hradio⟩ := activate_radio d a key x
  have hserved : (d.activate a key x).served = d.served := by
    rcases hradio with ⟨-, he⟩ | ⟨-, -, -, -, -, -, -, -, he, -⟩
    · rw [served, he, served]
    · rw [served, he, served]
  refine h.unserved hserved hcounter hused hback ?_ ?_
  · intro hon
    rcases hradio with ⟨ht, -⟩ | ⟨-, -, r, c, t, hr, hinit, ht, -, r', c', hr', hb⟩
    · rw [ht] at hon ⊢
      obtain ⟨r, c, hr, hb⟩ := h.thisBoot hon
      cases hrun' : (d.activate a key x).running with
      | none =>
        have : (d.activate a key x).running ≠ none := by
          unfold activate
          rw [hr]
          simp
        exact absurd hrun' this
      | some rc =>
        obtain ⟨r₀, c₀, hr₀, hb₀⟩ := hback rc.1 rc.2 hrun'
        rw [hr] at hr₀
        cases hr₀
        exact ⟨rc.1, rc.2, rfl, hb.trans hb₀.symm⟩
    · refine ⟨r', c', hr', ?_⟩
      rw [ht, hb]
      exact SecureTransport.init_boot hinit
  · intro hon hex i p hmem
    rcases hradio with ⟨ht, he⟩ | ⟨hadm, hl, r, c, t, hr, hinit, ht, he, -⟩
    · rw [ht] at hon hex hmem ⊢
      rw [he] at hmem
      exact h.ahead hon hex i p hmem
    · -- nothing of the new stream has been served yet
      rw [ht, he, SecureTransport.init_session hinit, SecureTransport.init_boot hinit] at hmem
      exact absurd hmem (h.unused r c hr _ _ (hfresh hadm hl) i p)

theorem protect_spent {d : Device} (h : Spent d) (packet : Packet.NetworkPacket)
    (answer : Option (Plaintext × Tag)) : Spent (d.protect packet answer) := by
  obtain ⟨hsame, hcases⟩ := SecureTransport.protect_cases CryptoElement.ccm
    { d.radio.element with answer := answer } d.radio.transport packet
  rcases hcases with ⟨hres, hnext, hexh, helement⟩ | ⟨i, aad, text, c, secured, hres, henc, hon, hex, hafter⟩
  · -- nothing was served
    have hkeep : (d.protect packet answer).radio.element = { d.radio.element with answer := answer } := by
      rcases helement with he | ⟨nonce, aad, text, he⟩
      · exact he
      · exact (CryptoElement.encrypt_none he).trans rfl
    have hserved : (d.protect packet answer).served = d.served := by rw [served, hkeep, served]
    have hused : (d.protect packet answer).used = d.used := by
      unfold protect
      dsimp only
      rw [hres]
      rfl
    refine h.unserved hserved rfl hused (fun r c hr => ⟨r, c, hr, rfl⟩) ?_ ?_
    · intro hon
      obtain ⟨r, c, hr, hb⟩ := h.thisBoot (hsame.initialized ▸ hon)
      exact ⟨r, c, hr, hsame.boot.trans hb⟩
    · intro hon hex i p hmem
      rw [hkeep] at hmem
      have := h.ahead (hsame.initialized ▸ hon) (hexh ▸ hex) i p
        (by rw [← hsame.session, ← hsame.boot]; exact hmem)
      exact hnext ▸ this
  · obtain ⟨hkey, hserve⟩ := CryptoElement.encrypt_some henc
    obtain ⟨r, cr, hr, hb⟩ := h.thisBoot hon
    have hserved : (d.protect packet answer).served = (d.radio.element.key,
        buildNonce d.radio.transport.crewSessionId i d.radio.transport.bootCounter
          d.radio.transport.nextPacketCounter) :: d.served := hserve
    have hused : (d.protect packet answer).used =
        (d.radio.transport.crewSessionId, d.radio.element.key) :: d.used := by
      unfold protect
      dsimp only
      rw [hres]
      rfl
    have hahead := h.ahead hon hex
    refine ⟨?_, ?_, h.current, ?_, ?_, ?_⟩
    · rw [hserved, List.nodup_cons]
      refine ⟨fun hmem => ?_, h.nodup⟩
      exact Nat.lt_irrefl _ (hahead i _ hmem)
    · intro key s i' b p hmem
      rw [hserved] at hmem
      rcases List.mem_cons.1 hmem with heq | hmem
      · obtain ⟨-, -, hbb, -⟩ := buildNonce_inj.1 (Prod.mk.inj heq).2
        rw [hbb, hb]
        exact h.current r cr hr
      · exact h.bounded key s i' b p hmem
    · intro r' c' hr' s key hu i' p hmem
      rw [hused, List.mem_cons, not_or] at hu
      rw [hserved] at hmem
      rcases List.mem_cons.1 hmem with heq | hmem
      · obtain ⟨hk, hn⟩ := Prod.mk.inj heq
        obtain ⟨hs, -⟩ := buildNonce_inj.1 hn
        exact hu.1 (by rw [hs, hk])
      · exact h.unused r' c' hr' s key hu.2 i' p hmem
    · intro _
      exact ⟨r, cr, hr, hsame.boot.trans hb⟩
    · intro _ hex' i' p hmem
      split at hafter
      · have : (d.protect packet answer).radio.transport.transmitExhausted = true := hafter
        rw [this] at hex'
        cases hex'
      · rename_i hmax
        have hstep : (d.protect packet answer).radio.transport.nextPacketCounter.toNat =
            d.radio.transport.nextPacketCounter.toNat + 1 := by
          have hlt := d.radio.transport.nextPacketCounter.isLt
          have hne : d.radio.transport.nextPacketCounter.toNat ≠ uint32Max.toNat :=
            fun he => hmax (BitVec.eq_of_toNat_eq he)
          have hmax' : uint32Max.toNat = 4294967295 := rfl
          have h1 : (1 : U32).toNat = 1 := rfl
          refine (congrArg BitVec.toNat hafter.1).trans ?_
          rw [BitVec.toNat_add, h1]
          omega
        rw [hserved] at hmem
        have hkey' : (d.protect packet answer).radio.element.key = d.radio.element.key := hkey
        have hsession : (d.protect packet answer).radio.transport.crewSessionId =
          d.radio.transport.crewSessionId := hsame.session
        have hboot : (d.protect packet answer).radio.transport.bootCounter =
          d.radio.transport.bootCounter := hsame.boot
        rw [hkey', hsession, hboot] at hmem
        rw [hstep]
        rcases List.mem_cons.1 hmem with heq | hmem
        · obtain ⟨-, -, -, hp⟩ := buildNonce_inj.1 (Prod.mk.inj heq).2
          rw [hp]
          omega
        · have := hahead i' p hmem
          omega

/-- Every event keeps the invariant, a joined session being new. -/
theorem step_spent (d : Device) (e : DeviceEvent) (h : Spent d) (hn : d.NoRejoin e) : Spent (d.step e) := by
  cases e with
  | boot n reads writes x => exact boot_spent h n reads writes x
  | activate a key x => exact activate_spent h hn
  | leave x => exact leave_spent h x
  | protect packet answer => exact protect_spent h packet answer

/-- **No nonce is used twice under a key**, in every life of a device, over any counter storage that
keeps what it was given, in which no session is joined again in one boot under a key it was used with. -/
theorem nonces_distinct (value : Option U32) (events : List DeviceEvent)
    (hn : Run.Along step NoRejoin (init value) events) : (events.foldl step (init value)).served.Nodup :=
  (Run.inv_along step_spent (init value) events (init_spent value) hn).nodup

/-- Node 1's admission to a session of two. -/
def admission (session : U32) : CrewAdmission := ⟨session, 3, 2, 1, true⟩

/-- A packet of node 1, and the crypto element's answer to it. -/
def silentPacket : DeviceEvent :=
  .protect ((Packet.networkHeader Packet.kindAudioFrame 1 0 0).bytes.append (Bytes.zero _))
    (some (Bytes.zero _, Bytes.zero _))

/-- Node 1 powers on and all storage and radio commands work. -/
def powerUp : DeviceEvent := .boot 1 [] [] .done

/-- Session 7 in two boots, session 8 under another key between. -/
theorem nonces_distinct_two_boots :
    ([powerUp, .activate (admission 7) (Bytes.filled _ 0x11) .done, silentPacket, silentPacket, .leave .done,
      .activate (admission 8) (Bytes.filled _ 0x22) .done, silentPacket, .leave .done,
      powerUp, .activate (admission 7) (Bytes.filled _ 0x11) .done, silentPacket].foldl step
        (init none)).served.Nodup :=
  nonces_distinct none _ (by decide +kernel)

/-- Session 7 again in the same boot, after session 8: its first packet repeats the first nonce. -/
theorem nonce_reused_after_rejoin :
    ¬ ([powerUp, .activate (admission 7) (Bytes.filled _ 0x11) .done, silentPacket, .leave .done,
      .activate (admission 8) (Bytes.filled _ 0x22) .done, .leave .done,
      .activate (admission 7) (Bytes.filled _ 0x11) .done, silentPacket].foldl step
        (init none)).served.Nodup := by
  decide +kernel

end Device

end OpenRef.Crew
