import Mathlib.Logic.Function.Basic
import OpenRef.Base
import OpenRef.Lib.Run
/-!
# Factory provisioning (openref_rt595_factory_provisioning.c)

On the jig three regions are probed, the blank ones are programmed, all are read back, and the lock is set once. The
driver is behind callbacks: what it is relied on for is `Honest`, which a bench that loses its power anywhere meets.

`provisioned_once`: over any attempts with any plans and faults, no byte that a region holds is ever changed, a locked
device is left as it is, and the lock is set only on a device whose regions all hold what one plan says.
-/

namespace OpenRef.Device

/-- `openref_rt595_factory_region_t`: the configuration, the boot state and the identity. -/
abbrev FactoryRegion := Fin 3

/-- The regions in the order of the loops. -/
def factoryRegions : List FactoryRegion := [0, 1, 2]

/-- `openref_rt595_factory_probe_t`. -/
inductive FactoryProbe where
  | io
  | blank
  | matching
  | otherValid
  | corrupt
deriving DecidableEq, Repr

/-- `openref_rt595_factory_result_t`. -/
inductive FactoryResult where
  | failed
  | provisioned
  | alreadyProvisioned
  | unauthorized
  | lockedMismatch
  | nonblank
  | writeFailed
  | verifyFailed
  | lockFailed
deriving DecidableEq, Repr

/-- `openref_rt595_factory_plan_t`. -/
abbrev FactoryPlan := FactoryRegion → List U8

/-- `openref_rt595_factory_driver_t` over a context `κ`, with callbacks that are set. -/
structure FactoryDriver (κ : Type) where
  manufacturingAuthorized : κ → κ × Bool
  lockIsSet : κ → κ × Option Bool
  probe : κ → FactoryRegion → List U8 → κ × FactoryProbe
  programBlank : κ → FactoryRegion → List U8 → κ × Bool
  readbackEqual : κ → FactoryRegion → List U8 → κ × Bool
  setLockOnce : κ → κ × Bool

namespace FactoryDriver

variable {κ : Type} (d : FactoryDriver κ) (plan : FactoryPlan)

/-- `valid` (:5-24): every region of the plan has bytes. -/
def valid : Bool := factoryRegions.all fun r => !(plan r).isEmpty

/-- The first loop (:45-57): the states of the regions, or a result. -/
def probeAll (locked : Bool) : κ → (FactoryRegion → FactoryProbe) → List FactoryRegion →
    κ × Except FactoryResult (FactoryRegion → FactoryProbe)
  | k, state, [] => (k, .ok state)
  | k, state, r :: rs =>
    let p := d.probe k r (plan r)
    match p.2 with
    | .io => (p.1, .error .failed)
    | .otherValid | .corrupt => (p.1, .error (if locked then .lockedMismatch else .nonblank))
    | .blank | .matching => probeAll locked p.1 (Function.update state r p.2) rs

/-- The loop that programs and reads back (:69-81): a result where it stops. -/
def programAll (state : FactoryRegion → FactoryProbe) : κ → List FactoryRegion → κ × Option FactoryResult
  | k, [] => (k, none)
  | k, r :: rs =>
    let w := if state r = .blank then d.programBlank k r (plan r) else (k, true)
    if !w.2 then (w.1, some .writeFailed)
    else
      let b := d.readbackEqual w.1 r (plan r)
      if !b.2 then (b.1, some .verifyFailed) else programAll state b.1 rs

/-- The end of `provision` (:82-86). -/
def lock (k : κ) : κ × FactoryResult :=
  let s := d.setLockOnce k
  if !s.2 then (s.1, .lockFailed)
  else
    let l := d.lockIsSet s.1
    (l.1, if l.2 = some true then .provisioned else .lockFailed)

/-- `openref_rt595_factory_provision` (:26-87). -/
def provision (k : κ) : κ × FactoryResult :=
  if !valid plan then (k, .failed)
  else
    let a := d.manufacturingAuthorized k
    if !a.2 then (a.1, .unauthorized)
    else
      let l := d.lockIsSet a.1
      match l.2 with
      | none => (l.1, .failed)
      | some locked =>
        let p := d.probeAll plan locked l.1 (fun _ => .io) factoryRegions
        match p.2 with
        | .error result => (p.1, result)
        | .ok state =>
          if locked then
            (p.1, if factoryRegions.any fun r => state r ≠ .matching then .lockedMismatch else .alreadyProvisioned)
          else
            let w := d.programAll plan state p.1 factoryRegions
            match w.2 with
            | some result => (w.1, result)
            | none => d.lock w.1

/-! ## A driver to rely on -/

/-- What a driver is relied on for. `held` is what a region holds, nothing where it is blank; any callback may fail, and
one that programs may leave anything in its own region. -/
structure Honest (held : κ → FactoryRegion → Option (List U8)) (locked : κ → Bool) : Prop where
  authorized : ∀ k, held (d.manufacturingAuthorized k).1 = held k ∧ locked (d.manufacturingAuthorized k).1 = locked k
  lockIsSet : ∀ k, held (d.lockIsSet k).1 = held k ∧ locked (d.lockIsSet k).1 = locked k ∧
    ∀ b, (d.lockIsSet k).2 = some b → b = locked k
  probe : ∀ k r bytes, held (d.probe k r bytes).1 = held k ∧ locked (d.probe k r bytes).1 = locked k ∧
    ((d.probe k r bytes).2 = .blank → held k r = none) ∧ ((d.probe k r bytes).2 = .matching → held k r = some bytes)
  programBlank : ∀ k r bytes, locked (d.programBlank k r bytes).1 = locked k ∧
    ∀ s, s ≠ r → held (d.programBlank k r bytes).1 s = held k s
  readbackEqual : ∀ k r bytes, held (d.readbackEqual k r bytes).1 = held k ∧
    locked (d.readbackEqual k r bytes).1 = locked k ∧ ((d.readbackEqual k r bytes).2 = true → held k r = some bytes)
  setLockOnce : ∀ k, held (d.setLockOnce k).1 = held k ∧ (locked k = true → locked (d.setLockOnce k).1 = true)

end FactoryDriver

/-- Nothing that was there is lost: a region that holds something keeps it, and a locked device stays as it is. -/
structure Kept {κ : Type} (held : κ → FactoryRegion → Option (List U8)) (locked : κ → Bool) (k k' : κ) : Prop where
  regions : ∀ r bytes, held k r = some bytes → held k' r = some bytes
  lock : locked k = true → locked k' = true ∧ held k' = held k

/-- A result after which the device is as it was before. -/
def FactoryResult.untouched (r : FactoryResult) : Prop :=
  r = .failed ∨ r = .unauthorized ∨ r = .lockedMismatch ∨ r = .nonblank ∨ r = .alreadyProvisioned

/-- What an attempt with a plan does. -/
structure Provisioned {κ : Type} (held : κ → FactoryRegion → Option (List U8)) (locked : κ → Bool) (plan : FactoryPlan) (k : κ)
    (o : κ × FactoryResult) : Prop where
  kept : Kept held locked k o.1
  sealed : locked k = false → locked o.1 = true → ∀ r, held o.1 r = some (plan r)
  untouched : o.2.untouched → held o.1 = held k ∧ locked o.1 = locked k
  holds : o.2 = .provisioned ∨ o.2 = .alreadyProvisioned → locked o.1 = true ∧ ∀ r, held o.1 r = some (plan r)

namespace FactoryDriver

variable {κ : Type} {d : FactoryDriver κ} {plan : FactoryPlan}
variable {held : κ → FactoryRegion → Option (List U8)} {locked : κ → Bool}

theorem mem_factoryRegions (r : FactoryRegion) : r ∈ factoryRegions := by
  revert r
  decide

variable (plan) in
/-- The probes change nothing, and a region that is called blank is. -/
theorem probeAll_spec (h : d.Honest held locked) (wasLocked : Bool) :
    ∀ (rs : List FactoryRegion) (k : κ) (state : FactoryRegion → FactoryProbe),
      let p := d.probeAll plan wasLocked k state rs
      held p.1 = held k ∧ locked p.1 = locked k ∧
        (∀ result, p.2 = .error result → result = .failed ∨ result = .lockedMismatch ∨ result = .nonblank) ∧
        ∀ state', p.2 = .ok state' → (∀ r, r ∉ rs → state' r = state r) ∧
          ∀ r ∈ rs, (state' r = .blank → held k r = none) ∧ (state' r = .matching → held k r = some (plan r))
  | [], k, state => ⟨rfl, rfl, nofun, fun state' hs => by
      cases hs
      exact ⟨fun _ _ => rfl, fun r hr => (by cases hr)⟩⟩
  | r :: rs, k, state => by
    obtain ⟨hheld, hlocked, hblank, hmatching⟩ := h.probe k r (plan r)
    unfold probeAll
    dsimp only
    generalize hp : d.probe k r (plan r) = p at hheld hlocked hblank hmatching
    obtain ⟨k', answer⟩ := p
    dsimp only at hheld hlocked hblank hmatching
    have hnext := probeAll_spec h wasLocked rs k' (Function.update state r answer)
    rw [hheld, hlocked] at hnext
    obtain ⟨hheld', hlocked', herror, hok⟩ := hnext
    have hstates : ∀ state', (d.probeAll plan wasLocked k' (Function.update state r answer) rs).2 = .ok state' →
        (∀ s, s ∉ r :: rs → state' s = state s) ∧
          ∀ s ∈ r :: rs, (state' s = .blank → held k s = none) ∧ (state' s = .matching → held k s = some (plan s)) := by
      intro state' hs
      obtain ⟨hother, hprobed⟩ := hok state' hs
      refine ⟨fun s hsr => ?_, fun s hsr => ?_⟩
      · obtain ⟨hne, hnot⟩ := not_or.1 (List.mem_cons.not.1 hsr)
        rw [hother s hnot, Function.update_of_ne hne]
      · by_cases hmem : s ∈ rs
        · exact hprobed s hmem
        · rcases List.mem_cons.1 hsr with rfl | hs
          · rw [hother s hmem, Function.update_self]
            exact ⟨hblank, hmatching⟩
          · exact absurd hs hmem
    cases answer with
    | io => exact ⟨hheld, hlocked, fun result he => .inl (Except.error.inj he).symm, nofun⟩
    | blank => exact ⟨hheld', hlocked', herror, hstates⟩
    | matching => exact ⟨hheld', hlocked', herror, hstates⟩
    | otherValid | corrupt =>
      refine ⟨hheld, hlocked, fun result he => .inr ?_, nofun⟩
      rw [← Except.error.inj he]
      cases wasLocked
      · exact .inr rfl
      · exact .inl rfl

variable (plan) in
/-- The loop programs blank regions only; where it comes to its end the regions hold the plan. -/
theorem programAll_spec (h : d.Honest held locked) (state : FactoryRegion → FactoryProbe) :
    ∀ (rs : List FactoryRegion) (k : κ), rs.Nodup → (∀ r ∈ rs, state r = .blank → held k r = none) →
      let w := d.programAll plan state k rs
      (∀ r bytes, held k r = some bytes → held w.1 r = some bytes) ∧ locked w.1 = locked k ∧
        (∀ r, r ∉ rs → held w.1 r = held k r) ∧
        (∀ result, w.2 = some result → result = .writeFailed ∨ result = .verifyFailed) ∧
        (w.2 = none → ∀ r ∈ rs, held w.1 r = some (plan r))
  | [], k, _, _ => ⟨fun _ _ h => h, rfl, fun _ _ => rfl, nofun, fun _ r hr => (by cases hr)⟩
  | r :: rs, k, hnodup, hblank => by
    obtain ⟨hr, hnodup⟩ := List.nodup_cons.1 hnodup
    unfold programAll
    dsimp only
    have hw : (∀ s bytes, held k s = some bytes →
          held (if state r = .blank then d.programBlank k r (plan r) else (k, true)).1 s = some bytes) ∧
        locked (if state r = .blank then d.programBlank k r (plan r) else (k, true)).1 = locked k ∧
        ∀ s, s ≠ r → held (if state r = .blank then d.programBlank k r (plan r) else (k, true)).1 s = held k s := by
      split
      · next hstate =>
        obtain ⟨hlocked, hother⟩ := h.programBlank k r (plan r)
        refine ⟨fun s bytes hs => ?_, hlocked, hother⟩
        have hne : s ≠ r := by
          rintro rfl
          rw [hblank s List.mem_cons_self hstate] at hs
          cases hs
        rw [hother s hne]
        exact hs
      · exact ⟨fun _ _ hs => hs, rfl, fun _ _ => rfl⟩
    generalize (if state r = .blank then d.programBlank k r (plan r) else (k, true)) = w at hw ⊢
    obtain ⟨hkept, hlocked, hother⟩ := hw
    obtain ⟨hbheld, hblocked, hbequal⟩ := h.readbackEqual w.1 r (plan r)
    generalize d.readbackEqual w.1 r (plan r) = b at hbheld hblocked hbequal ⊢
    split
    · refine ⟨hkept, hlocked, fun s hs => ?_, fun result he => ?_, nofun⟩
      · exact hother s (fun he => hs (he ▸ List.mem_cons_self))
      · exact .inl (Option.some.inj he).symm
    split
    · rw [hbheld, hblocked]
      refine ⟨hkept, hlocked, fun s hs => ?_, fun result he => ?_, nofun⟩
      · exact hother s (fun he => hs (he ▸ List.mem_cons_self))
      · exact .inr (Option.some.inj he).symm
    next hequal =>
    rw [Bool.not_eq_true', Bool.not_eq_false] at hequal
    have hnext := programAll_spec h state rs b.1 hnodup fun s hs hstate => by
      rw [hbheld, hother s fun he => hr (he ▸ hs)]
      exact hblank s (List.mem_cons_of_mem _ hs) hstate
    rw [hbheld, hblocked] at hnext
    obtain ⟨hkept', hlocked', hother', hresult, hdone⟩ := hnext
    refine ⟨fun s bytes hs => hkept' s bytes (hkept s bytes hs), hlocked'.trans hlocked, fun s hs => ?_, hresult,
      fun hend s hs => ?_⟩
    · obtain ⟨hne, hnot⟩ := not_or.1 (List.mem_cons.not.1 hs)
      rw [hother' s hnot, hother s hne]
    · rcases List.mem_cons.1 hs with rfl | hs
      · exact hkept' s _ (hbequal hequal)
      · exact hdone hend s hs

/-- The lock changes no region, and it is set where it is said to be. -/
theorem lock_spec (h : d.Honest held locked) (k : κ) : held (d.lock k).1 = held k ∧
    ((d.lock k).2 = .provisioned ∨ (d.lock k).2 = .lockFailed) ∧
    ((d.lock k).2 = .provisioned → locked (d.lock k).1 = true) := by
  obtain ⟨hset, -⟩ := h.setLockOnce k
  obtain ⟨hheld, hlocked, hanswer⟩ := h.lockIsSet (d.setLockOnce k).1
  unfold lock
  dsimp only
  split
  · exact ⟨hset, .inr rfl, nofun⟩
  split
  · next hyes => exact ⟨hheld.trans hset, .inl rfl, fun _ => hlocked.trans (hanswer true hyes).symm⟩
  · exact ⟨hheld.trans hset, .inr rfl, nofun⟩

/-- An attempt that leaves everything as it is, and does not say that the device is provisioned. -/
theorem provisioned_same {k : κ} {o : κ × FactoryResult} (hheld : held o.1 = held k) (hlocked : locked o.1 = locked k)
    (hresult : o.2 ≠ .provisioned ∧ o.2 ≠ .alreadyProvisioned) : Provisioned held locked plan k o := by
  refine ⟨⟨fun r bytes hr => ?_, fun hl => ⟨hlocked.trans hl, hheld⟩⟩, fun hno hyes => ?_, fun _ => ⟨hheld, hlocked⟩,
    fun ho => ?_⟩
  · rw [hheld]
    exact hr
  · rw [hlocked, hno] at hyes
    cases hyes
  · rcases ho with ho | ho
    · exact absurd ho hresult.1
    · exact absurd ho hresult.2

/-- **What an attempt does**, with a driver to rely on. -/
theorem provision_provisioned (h : d.Honest held locked) (plan : FactoryPlan) (k : κ) :
    Provisioned held locked plan k (d.provision plan k) := by
  unfold provision
  split
  · exact provisioned_same rfl rfl ⟨nofun, nofun⟩
  dsimp only
  obtain ⟨haheld, halocked⟩ := h.authorized k
  split
  · exact provisioned_same haheld halocked ⟨nofun, nofun⟩
  obtain ⟨hlheld, hllocked, hlanswer⟩ := h.lockIsSet (d.manufacturingAuthorized k).1
  rw [haheld] at hlheld
  rw [halocked] at hllocked hlanswer
  split
  · exact provisioned_same hlheld hllocked ⟨nofun, nofun⟩
  next wasLocked hwas =>
  have hwas := hlanswer wasLocked hwas
  obtain ⟨hpheld, hplocked, herror, hok⟩ := probeAll_spec plan h wasLocked factoryRegions
    (d.lockIsSet (d.manufacturingAuthorized k).1).1 fun _ => .io
  rw [hlheld] at hpheld
  rw [hllocked] at hplocked
  split
  · next result hresult =>
    refine provisioned_same hpheld hplocked ?_
    rcases herror result hresult with rfl | rfl | rfl <;> exact ⟨nofun, nofun⟩
  next state hstate =>
  obtain ⟨-, hprobed⟩ := hok state hstate
  rw [hlheld] at hprobed
  split
  · next hlocked =>
    have hwasLocked : locked k = true := hwas.symm.trans hlocked
    split
    · exact provisioned_same hpheld hplocked ⟨nofun, nofun⟩
    · next hall =>
      have hmatching : ∀ r, held k r = some (plan r) := by
        intro r
        refine (hprobed r (mem_factoryRegions r)).2 ?_
        by_contra hne
        exact hall (List.any_eq_true.2 ⟨r, mem_factoryRegions r, decide_eq_true hne⟩)
      refine ⟨⟨fun r bytes hr => ?_, fun hl => ⟨hplocked.trans hl, hpheld⟩⟩, fun hno => ?_,
        fun _ => ⟨hpheld, hplocked⟩, fun _ => ⟨hplocked.trans hwasLocked, fun r => ?_⟩⟩
      · rw [hpheld]
        exact hr
      · rw [hwasLocked] at hno
        cases hno
      · rw [hpheld]
        exact hmatching r
  next hlocked =>
  have hunlocked : locked k = false := by
    rw [← hwas]
    exact Bool.eq_false_iff.2 hlocked
  have hblank : ∀ r ∈ factoryRegions, state r = .blank →
      held (d.probeAll plan wasLocked (d.lockIsSet (d.manufacturingAuthorized k).1).1 (fun _ => .io) factoryRegions).1 r =
        none := fun r hr hs => by
    rw [hpheld]
    exact (hprobed r hr).1 hs
  obtain ⟨hwheld, hwlocked, -, hwresult, hwdone⟩ := programAll_spec plan h state factoryRegions _
    (by decide) hblank
  rw [hpheld] at hwheld
  rw [hplocked, hunlocked] at hwlocked
  split
  · next result hresult =>
    have hnot : ¬ result.untouched ∧ result ≠ .provisioned ∧ result ≠ .alreadyProvisioned := by
      unfold FactoryResult.untouched
      rcases hwresult result hresult with rfl | rfl <;> decide
    refine ⟨⟨hwheld, fun hl => ?_⟩, fun _ hyes => ?_, fun hu => absurd hu hnot.1, fun ho => ?_⟩
    · rw [hunlocked] at hl
      cases hl
    · rw [hwlocked] at hyes
      cases hyes
    · rcases ho with ho | ho
      · exact absurd ho hnot.2.1
      · exact absurd ho hnot.2.2
  next hend =>
  have hholds := hwdone hend
  generalize (d.programAll plan state (d.probeAll plan wasLocked (d.lockIsSet (d.manufacturingAuthorized k).1).1
    (fun _ => .io) factoryRegions).1 factoryRegions).1 = w at hwheld hwlocked hholds
  obtain ⟨hheld, hresult, hset⟩ := lock_spec h w
  have hnot : ¬ (d.lock w).2.untouched ∧ (d.lock w).2 ≠ .alreadyProvisioned := by
    unfold FactoryResult.untouched
    rcases hresult with he | he <;> rw [he] <;> decide
  refine ⟨⟨fun r bytes hr => ?_, fun hl => ?_⟩, fun _ _ r => ?_, fun hu => absurd hu hnot.1, fun ho => ⟨?_, fun r => ?_⟩⟩
  · rw [hheld]
    exact hwheld r bytes hr
  · rw [hunlocked] at hl
    cases hl
  · rw [hheld]
    exact hholds r (mem_factoryRegions r)
  · exact hset (ho.resolve_right hnot.2)
  · rw [hheld]
    exact hholds r (mem_factoryRegions r)

end FactoryDriver

/-! ## Attempts -/

/-- An attempt on the jig: what happens to the device before it, such as a power cycle, and the plan. -/
structure FactoryAttempt (κ : Type) where
  before : κ → κ
  plan : FactoryPlan

namespace FactoryAttempt

variable {κ : Type} {d : FactoryDriver κ} {held : κ → FactoryRegion → Option (List U8)} {locked : κ → Bool}

/-- The device after an attempt. -/
def run (d : FactoryDriver κ) (k : κ) (a : FactoryAttempt κ) : κ := (d.provision a.plan (a.before k)).1

/-- What happens before an attempt reaches neither the regions nor the lock. -/
def Apart (held : κ → FactoryRegion → Option (List U8)) (locked : κ → Bool) (a : FactoryAttempt κ) : Prop :=
  ∀ k, held (a.before k) = held k ∧ locked (a.before k) = locked k

theorem run_provisioned (h : d.Honest held locked) {a : FactoryAttempt κ} (ha : a.Apart held locked) (k : κ) :
    Kept held locked k (run d k a) ∧
      (locked k = false → locked (run d k a) = true → ∀ r, held (run d k a) r = some (a.plan r)) := by
  obtain ⟨hheld, hlocked⟩ := ha k
  obtain ⟨⟨hregions, hlock⟩, hsealed, -, -⟩ := FactoryDriver.provision_provisioned h a.plan (a.before k)
  rw [hheld] at hregions hlock
  rw [hlocked] at hlock hsealed
  exact ⟨⟨hregions, hlock⟩, hsealed⟩

/-- **Main result: a device is provisioned once.** Over any attempts with any plans, faults and power cuts, what a region
holds is never changed, a locked device stays as it is, and a device that was locked on the jig holds in every region
what one of the plans says; what the next attempt answers is true. -/
theorem provisioned_once (h : d.Honest held locked) (k : κ) (attempts : List (FactoryAttempt κ))
    (hapart : ∀ a ∈ attempts, a.Apart held locked) :
    let k' := attempts.foldl (run d) k
    Kept held locked k k' ∧
      (locked k = false → locked k' = true → ∃ a ∈ attempts, ∀ r, held k' r = some (a.plan r)) ∧
      ∀ plan, Provisioned held locked plan k' (d.provision plan k') := by
  intro k'
  have hrun := @Run.inv_past _ _ (run d) (fun _ a => a.Apart held locked)
    (fun past w => Kept held locked k w ∧
      (locked k = false → locked w = true → ∃ a ∈ past, ∀ r, held w r = some (a.plan r)))
    (fun past w a ⟨hkept, hsealed⟩ ha => ?_) [] k attempts
    ⟨⟨fun _ _ hr => hr, fun hl => ⟨hl, rfl⟩⟩, fun hno hyes => absurd (hno.symm.trans hyes) Bool.false_ne_true⟩
    (Run.along_iff_forall.2 hapart)
  · exact ⟨hrun.1, hrun.2, fun plan => FactoryDriver.provision_provisioned h plan k'⟩
  · obtain ⟨hnext, hplan⟩ := run_provisioned h ha w
    refine ⟨⟨fun r bytes hr => hnext.regions r bytes (hkept.regions r bytes hr), fun hl => ?_⟩, fun hno hyes => ?_⟩
    · obtain ⟨hlw, hheld⟩ := hkept.lock hl
      obtain ⟨hlocked, hsame⟩ := hnext.lock hlw
      exact ⟨hlocked, hsame.trans hheld⟩
    · cases hw : locked w with
      | true =>
        obtain ⟨a', ha', hr⟩ := hsealed hno hw
        refine ⟨a', List.mem_append_left _ ha', fun r => ?_⟩
        rw [(hnext.lock hw).2]
        exact hr r
      | false => exact ⟨a, List.mem_append_right _ List.mem_cons_self, hplan hw hyes⟩

end FactoryAttempt

/-! ## A bench -/

/-- A device on a jig whose power lasts for a number of calls. -/
structure FactoryBench where
  regions : FactoryRegion → Option (List U8)
  locked : Bool
  power : ℕ

namespace FactoryBench

/-- One call's power is used. -/
def spend (b : FactoryBench) : FactoryBench := { b with power := b.power - 1 }

/-- A call that programs with the last power tears its region. -/
def driver : FactoryDriver FactoryBench where
  manufacturingAuthorized b := (b.spend, decide (0 < b.power))
  lockIsSet b := (b.spend, if b.power = 0 then none else some b.locked)
  probe b r bytes := (b.spend,
    if b.power = 0 then .io
    else match b.regions r with
      | none => .blank
      | some held => if held = bytes then .matching else .otherValid)
  programBlank b r bytes :=
    if b.power = 0 then (b, false)
    else if b.power = 1 then ({ b.spend with regions := Function.update b.regions r (some []) }, false)
    else ({ b.spend with regions := Function.update b.regions r (some bytes) }, true)
  readbackEqual b r bytes := (b.spend, decide (0 < b.power) && decide (b.regions r = some bytes))
  setLockOnce b := if b.power = 0 then (b, false) else ({ b.spend with locked := true }, true)

theorem driver_honest : driver.Honest regions locked where
  authorized _ := ⟨rfl, rfl⟩
  lockIsSet b := by
    refine ⟨rfl, rfl, fun l hl => ?_⟩
    exact (Option.some.inj (Option.ite_none_left_eq_some.1 hl).2).symm
  probe b r bytes := by
    refine ⟨rfl, rfl, ?_⟩
    cases hr : b.regions r with
    | none =>
      simp only [driver, hr]
      refine ⟨fun _ => trivial, fun h => ?_⟩
      split_ifs at h
    | some held =>
      simp only [driver, hr]
      refine ⟨fun h => ?_, fun h => ?_⟩
      · split_ifs at h
      · split_ifs at h with _ he
        exact congrArg some he
  programBlank b r bytes := by
    simp only [driver]
    split_ifs
    · exact ⟨rfl, fun _ _ => rfl⟩
    · exact ⟨rfl, fun s hs => Function.update_of_ne hs _ _⟩
    · exact ⟨rfl, fun s hs => Function.update_of_ne hs _ _⟩
  readbackEqual b r bytes := ⟨rfl, rfl, fun h => of_decide_eq_true (Bool.and_eq_true_iff.1 h).2⟩
  setLockOnce b := by
    simp only [driver]
    split_ifs
    · exact ⟨rfl, fun h => h⟩
    · exact ⟨rfl, fun _ => rfl⟩

/-- A blank device. -/
def blank : FactoryBench := ⟨fun _ => none, false, 0⟩

/-- The power is on for a number of calls. -/
def powered (n : ℕ) : FactoryAttempt FactoryBench := ⟨fun b => { b with power := n }, fun r => [1, BitVec.ofNat 8 r.val]⟩

theorem provisioned_once_cut : ([powered 7, powered 20].foldl (FactoryAttempt.run driver) blank).locked = true ∧
    ∃ a ∈ [powered 7, powered 20], ∀ r,
      ([powered 7, powered 20].foldl (FactoryAttempt.run driver) blank).regions r = some (a.plan r) := by
  have hlocked : ([powered 7, powered 20].foldl (FactoryAttempt.run driver) blank).locked = true := by decide
  refine ⟨hlocked, (FactoryAttempt.provisioned_once driver_honest blank [powered 7, powered 20] ?_).2.1 rfl hlocked⟩
  intro a ha b
  simp only [List.mem_cons, List.not_mem_nil, or_false] at ha
  rcases ha with rfl | rfl <;> exact ⟨rfl, rfl⟩

end FactoryBench

end OpenRef.Device
