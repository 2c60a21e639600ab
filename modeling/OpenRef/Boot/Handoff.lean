import OpenRef.Boot.TrialBudget
import OpenRef.Update.Bootable
/-!
# The handoff (openref_rt595_boot_handoff.c)

The first two words of an image are its stack and its reset handler. They are read and checked against the layout before
interrupts and caches are off and the handler is branched to; every call that fails, and a branch that returns, ends
in `fail_closed`.

`signed_image_entered`: over a flash that does not change, what a reset enters are the two words of an image whose digest
a signed manifest has, in a slot that the policy selected, with a stack in the memory and a handler in the image.
`branch_guarded`: the branch is the last of nine calls, after a vector that was checked and eight calls that did well.
-/

namespace OpenRef.Boot

open OpenRef.Update (SlotReader UpdateCrypto UpdateManifest UpdateVerifier ManifestWire Shows imageRead verdict)

/-- `openref_rt595_boot_handoff_plan_t`. -/
structure HandoffPlan where
  vectorTable : U32
  initialMsp : U32
  resetHandler : U32
deriving DecidableEq, Repr

/-- The plan that `memset` leaves. -/
def HandoffPlan.zero : HandoffPlan := ⟨0, 0, 0⟩

/-- `OPENREF_RT595_BOOT_MIN_VTOR_ALIGNMENT`. -/
def bootMinVtorAlignment : U32 := 128

/-- `valid_region` (:12-14). -/
def validRegion (base size : U32) : Bool := size ≠ 0 && base ≤ uint32Max - size

/-- `power_of_two` (:16-18). -/
def powerOfTwo (value : U32) : Bool := value ≠ 0 && value &&& (value - 1) = 0

namespace HandoffLayout

variable {κ : Type}

/-- The checks on a layout (:34-41). -/
def admitted (l : HandoffLayout) : Bool :=
  l.authenticated && bootVectorBytes ≤ l.imageSize && validRegion l.imageBase l.imageSize &&
    validRegion l.ramBase l.ramSize && bootMinVtorAlignment ≤ l.vtorAlignment && powerOfTwo l.vtorAlignment &&
    l.imageBase &&& (l.vtorAlignment - 1) = 0

/-- The plan of two vectors (:48-65). -/
def planOf (l : HandoffLayout) (vectors : Bytes 8) : Option HandoffPlan :=
  let imageEnd := l.imageBase + l.imageSize
  let ramEnd := l.ramBase + l.ramSize
  let initialMsp := LittleEndian.read 32 (vectors.bytes.take 4)
  let resetHandler := LittleEndian.read 32 ((vectors.bytes.drop 4).take 4)
  let resetAddress := resetHandler &&& ~~~(1 : U32)
  -- a full-descending stack may start one byte past the memory
  if initialMsp &&& 7 ≠ 0 || initialMsp ≤ l.ramBase || ramEnd < initialMsp || resetHandler &&& 1 = 0 ||
      resetAddress < l.imageBase + bootVectorBytes || imageEnd ≤ resetAddress then none
  else some ⟨l.imageBase, initialMsp, resetHandler⟩

/-- `openref_rt595_boot_handoff_prepare` (:20-66). -/
def prepare (rd : SlotReader κ) (k : κ) (l : HandoffLayout) : κ × Option HandoffPlan :=
  if !l.admitted then (k, none)
  else
    let r := rd k l.imageBase 8
    (r.1, r.2.bind l.planOf)

end HandoffLayout

/-! ## What a plan is -/

/-- A plan boots an image of a layout: the numbers of the layout do not wrap, and the plan lies within them. -/
structure HandoffPlan.Boots (p : HandoffPlan) (l : HandoffLayout) : Prop where
  authenticated : l.authenticated = true
  table : p.vectorTable = l.imageBase
  image : 8 ≤ l.imageSize.toNat ∧ l.imageBase.toNat + l.imageSize.toNat < 2 ^ 32
  ram : l.ramBase.toNat + l.ramSize.toNat < 2 ^ 32
  aligned : ∃ e, 7 ≤ e ∧ l.vtorAlignment.toNat = 2 ^ e ∧ 2 ^ e ∣ l.imageBase.toNat
  stack : 8 ∣ p.initialMsp.toNat ∧ l.ramBase.toNat < p.initialMsp.toNat ∧
    p.initialMsp.toNat ≤ l.ramBase.toNat + l.ramSize.toNat
  handler : ∃ entry, p.resetHandler.toNat = entry + 1 ∧ 2 ∣ entry ∧ l.imageBase.toNat + 8 ≤ entry ∧
    entry < l.imageBase.toNat + l.imageSize.toNat

theorem validRegion_iff (base size : U32) :
    validRegion base size = true ↔ 0 < size.toNat ∧ base.toNat + size.toNat < 2 ^ 32 := by
  have hmax : uint32Max.toNat = 2 ^ 32 - 1 := rfl
  have hsize := size.isLt
  have hsub : (uint32Max - size).toNat = 2 ^ 32 - 1 - size.toNat := by
    rw [BitVec.toNat_sub_of_le (by rw [BitVec.le_def]; omega), hmax]
  have hzero : size ≠ 0 ↔ 0 < size.toNat := by
    rw [Nat.pos_iff_ne_zero, ne_eq, ne_eq, BitVec.toNat_eq]
    rfl
  unfold validRegion
  rw [Bool.and_eq_true, decide_eq_true_eq, decide_eq_true_eq, hzero, BitVec.le_def, hsub]
  omega

theorem powerOfTwo_iff (value : U32) : powerOfTwo value = true ↔ ∃ e, value.toNat = 2 ^ e := by
  have hzero : value ≠ 0 ↔ value.toNat ≠ 0 := by
    rw [ne_eq, ne_eq, BitVec.toNat_eq]
    rfl
  unfold powerOfTwo
  rw [Bool.and_eq_true, decide_eq_true_eq, decide_eq_true_eq, hzero]
  refine Iff.trans ?_ Nat.ne_zero_and_sub_one_eq_zero_iff_isPowerOfTwo
  refine and_congr_right fun hne => ?_
  have hone : (1 : U32).toNat = 1 := rfl
  have hle : (1 : U32) ≤ value := by
    rw [BitVec.le_def]
    omega
  rw [BitVec.toNat_eq, BitVec.toNat_and, BitVec.toNat_sub_of_le hle]
  rfl

/-- The low bits of an aligned base are clear. -/
theorem aligned_iff {base alignment : U32} {e : ℕ} (h : alignment.toNat = 2 ^ e) :
    base &&& (alignment - 1) = 0 ↔ 2 ^ e ∣ base.toNat := by
  have hone : (1 : U32).toNat = 1 := rfl
  have hpos : 0 < 2 ^ e := Nat.two_pow_pos e
  have hle : (1 : U32) ≤ alignment := by
    rw [BitVec.le_def]
    omega
  rw [BitVec.toNat_eq, BitVec.toNat_and, BitVec.toNat_sub_of_le hle, h, hone, Nat.and_two_pow_sub_one_eq_mod]
  exact (Nat.dvd_iff_mod_eq_zero ..).symm

/-- The address of a handler is its word without the lowest bit. -/
theorem toNat_clear_thumb (r : U32) : (r &&& ~~~(1 : U32)).toNat = 2 * (r.toNat / 2) := by
  have hclear : r &&& ~~~(1 : U32) = (r >>> 1) <<< 1 := by
    refine BitVec.eq_of_getLsbD_eq fun i hi => ?_
    rw [BitVec.getLsbD_and, BitVec.getLsbD_not, BitVec.getLsbD_shiftLeft, BitVec.getLsbD_ushiftRight]
    cases i with
    | zero => simp
    | succ i => simp [hi, Nat.add_comm 1 i]
  have hr := r.isLt
  rw [hclear, BitVec.toNat_shiftLeft, BitVec.toNat_ushiftRight, Nat.shiftRight_eq_div_pow, Nat.shiftLeft_eq]
  omega

/-- The handler has its lowest bit set. -/
theorem thumb_iff (r : U32) : r &&& 1 = 0 ↔ 2 ∣ r.toNat := aligned_iff (show (2 : U32).toNat = 2 ^ 1 from rfl)

namespace HandoffLayout

variable {κ : Type}

/-- An admitted layout, in numbers. -/
theorem admitted_iff (l : HandoffLayout) : l.admitted = true ↔
    l.authenticated = true ∧ 8 ≤ l.imageSize.toNat ∧ l.imageBase.toNat + l.imageSize.toNat < 2 ^ 32 ∧
      0 < l.ramSize.toNat ∧ l.ramBase.toNat + l.ramSize.toNat < 2 ^ 32 ∧
      ∃ e, 7 ≤ e ∧ l.vtorAlignment.toNat = 2 ^ e ∧ 2 ^ e ∣ l.imageBase.toNat := by
  have hvectors : bootVectorBytes.toNat = 8 := rfl
  have hminimum : bootMinVtorAlignment.toNat = 2 ^ 7 := rfl
  unfold admitted
  simp only [Bool.and_eq_true, decide_eq_true_eq, validRegion_iff, powerOfTwo_iff, BitVec.le_def, hvectors, hminimum]
  constructor
  · rintro ⟨⟨⟨⟨⟨⟨hauth, hsize⟩, -, himage⟩, hram⟩, hmin⟩, e, he⟩, haligned⟩
    refine ⟨hauth, hsize, himage, hram.1, hram.2, e, ?_, he, (aligned_iff he).1 haligned⟩
    exact (Nat.pow_le_pow_iff_right (by decide)).1 (he ▸ hmin)
  · rintro ⟨hauth, hsize, himage, hram, hramEnd, e, h7, he, haligned⟩
    refine ⟨⟨⟨⟨⟨⟨hauth, hsize⟩, by omega, himage⟩, hram, hramEnd⟩, ?_⟩, e, he⟩, (aligned_iff he).2 haligned⟩
    rw [he]
    exact (Nat.pow_le_pow_iff_right (by decide)).2 h7

/-- **A plan is made of the vectors if and only if it boots the image.** -/
theorem planOf_eq_some_iff {l : HandoffLayout} (hl : l.admitted = true) (vectors : Bytes 8) (p : HandoffPlan) :
    l.planOf vectors = some p ↔ p.initialMsp = LittleEndian.read 32 (vectors.bytes.take 4) ∧
      p.resetHandler = LittleEndian.read 32 ((vectors.bytes.drop 4).take 4) ∧ p.Boots l := by
  obtain ⟨hauth, hsize, himage, hram, hramEnd, haligned⟩ := l.admitted_iff.1 hl
  unfold planOf
  dsimp only
  generalize LittleEndian.read 32 (vectors.bytes.take 4) = msp
  generalize LittleEndian.read 32 ((vectors.bytes.drop 4).take 4) = reset
  have hvectors : bootVectorBytes.toNat = 8 := rfl
  have hstack : msp &&& 7 = 0 ↔ 8 ∣ msp.toNat := aligned_iff (show (8 : U32).toNat = 2 ^ 3 from rfl)
  have hbase : (l.imageBase + bootVectorBytes).toNat = l.imageBase.toNat + 8 := by
    rw [BitVec.toNat_add, hvectors, Nat.mod_eq_of_lt (by omega)]
  have hend : (l.imageBase + l.imageSize).toNat = l.imageBase.toNat + l.imageSize.toNat := by
    rw [BitVec.toNat_add, Nat.mod_eq_of_lt himage]
  have hramTop : (l.ramBase + l.ramSize).toNat = l.ramBase.toNat + l.ramSize.toNat := by
    rw [BitVec.toNat_add, Nat.mod_eq_of_lt hramEnd]
  rw [Option.ite_none_left_eq_some]
  simp only [Bool.or_eq_true, decide_eq_true_eq, not_or, not_not, BitVec.le_def, BitVec.lt_def, Nat.not_lt,
    Nat.not_le, hstack, thumb_iff, toNat_clear_thumb, hbase, hend, hramTop, Option.some.injEq]
  constructor
  · rintro ⟨⟨⟨⟨⟨⟨h8, habove⟩, hbelow⟩, hthumb⟩, hentry⟩, hinside⟩, rfl⟩
    exact ⟨rfl, rfl, hauth, rfl, ⟨hsize, himage⟩, hramEnd, haligned, ⟨h8, habove, hbelow⟩,
      2 * (reset.toNat / 2), by dsimp only; omega, ⟨_, rfl⟩, hentry, hinside⟩
  · rintro ⟨hmsp, hreset, hb⟩
    obtain ⟨h8, habove, hbelow⟩ := hb.stack
    obtain ⟨entry, hentry, heven, hlow, hhigh⟩ := hb.handler
    rw [hmsp] at h8 habove hbelow
    rw [hreset] at hentry
    refine ⟨⟨⟨⟨⟨⟨h8, habove⟩, hbelow⟩, by omega⟩, by omega⟩, by omega⟩, ?_⟩
    cases p
    exact congr (congrArg₂ HandoffPlan.mk hb.table.symm hmsp.symm) hreset.symm

/-- **`prepare` gives a plan if and only if it reads the vectors of a plan that boots.** -/
theorem prepare_eq_some_iff (rd : SlotReader κ) (k : κ) (l : HandoffLayout) (p : HandoffPlan) :
    (l.prepare rd k).2 = some p ↔ 0 < l.ramSize.toNat ∧ p.Boots l ∧ ∃ vectors, (rd k l.imageBase 8).2 = some vectors ∧
      p.initialMsp = LittleEndian.read 32 (vectors.bytes.take 4) ∧
      p.resetHandler = LittleEndian.read 32 ((vectors.bytes.drop 4).take 4) := by
  unfold prepare
  cases hl : l.admitted with
  | false =>
    refine ⟨nofun, fun ⟨hram, hb, _⟩ => ?_⟩
    have hadmitted : l.admitted = true :=
      l.admitted_iff.2 ⟨hb.authenticated, hb.image.1, hb.image.2, hram, hb.ram, hb.aligned⟩
    exact absurd (hl.symm.trans hadmitted) Bool.false_ne_true
  | true =>
    obtain ⟨-, -, -, hram, -⟩ := l.admitted_iff.1 hl
    rw [Bool.not_true, if_neg Bool.false_ne_true]
    dsimp only
    simp only [Option.bind_eq_some_iff, planOf_eq_some_iff hl]
    exact ⟨fun ⟨v, hv, hmsp, hreset, hb⟩ => ⟨hram, hb, v, hv, hmsp, hreset⟩,
      fun ⟨_, hb, v, hv, hmsp, hreset⟩ => ⟨v, hv, hmsp, hreset, hb⟩⟩

end HandoffLayout

/-! ## The branch -/

/-- A call of `openref_rt595_boot_handoff_ops_t`. -/
inductive HandoffCall where
  | disableInterrupts
  | stopSystick
  | clearInterruptState
  | cleanDisableDcache
  | disableIcache
  | setVtor (value : U32)
  | synchronize
  | setMsp (value : U32)
  | branchToReset (value : U32)
  | failClosed
deriving DecidableEq, Repr

/-- `openref_rt595_boot_handoff_ops_t` over a context `κ`. -/
abbrev HandoffOps (κ : Type) := κ → HandoffCall → κ × Bool

namespace HandoffPlan

variable {κ : Type}

/-- The calls before the branch (:85-92). -/
def preparations (p : HandoffPlan) : List HandoffCall :=
  [.disableInterrupts, .stopSystick, .clearInterruptState, .cleanDisableDcache, .disableIcache,
    .setVtor p.vectorTable, .synchronize, .setMsp p.initialMsp]

/-- The calls of a handoff (:85-93). -/
def calls (p : HandoffPlan) : List HandoffCall := p.preparations ++ [.branchToReset p.resetHandler]

/-- Calls until one fails, with their answers. -/
def callAll (ops : HandoffOps κ) : κ → List HandoffCall → κ × List (HandoffCall × Bool)
  | k, [] => (k, [])
  | k, c :: cs =>
    let r := ops k c
    if !r.2 then (r.1, [(c, false)])
    else
      let rest := callAll ops r.1 cs
      (rest.1, (c, true) :: rest.2)

/-- `openref_rt595_boot_handoff_execute` (:77-100) with ops that are set: the calls it makes, with their answers. It
returns false in any case. -/
def execute (ops : HandoffOps κ) (k : κ) (p : HandoffPlan) : κ × List (HandoffCall × Bool) :=
  let made := if p.vectorTable = 0 || p.initialMsp = 0 || p.resetHandler &&& 1 = 0 then (k, []) else callAll ops k p.calls
  let closed := ops made.1 .failClosed
  (closed.1, made.2 ++ [(.failClosed, closed.2)])

theorem callAll_prefix (ops : HandoffOps κ) : ∀ (k : κ) (cs : List HandoffCall),
    (callAll ops k cs).2.map Prod.fst <+: cs ∧ ∀ c ∈ (callAll ops k cs).2.dropLast, c.2 = true
  | _, [] => ⟨List.prefix_refl _, nofun⟩
  | k, c :: cs => by
    obtain ⟨hstarts, hanswers⟩ := callAll_prefix ops (ops k c).1 cs
    unfold callAll
    dsimp only
    split
    · exact ⟨⟨cs, rfl⟩, nofun⟩
    · refine ⟨(List.cons_prefix_cons.2 ⟨rfl, hstarts⟩), fun x hx => ?_⟩
      cases hrest : (callAll ops (ops k c).1 cs).2 with
      | nil =>
        rw [hrest] at hx
        cases hx
      | cons d ds =>
        rw [hrest] at hx hanswers
        rcases List.mem_cons.1 hx with rfl | hx
        · rfl
        · exact hanswers x hx

/-- The last call is made after all the others did well. -/
theorem callAll_last (ops : HandoffOps κ) (c : HandoffCall) (answer : Bool) :
    ∀ (k : κ) (cs : List HandoffCall), c ∉ cs → (c, answer) ∈ (callAll ops k (cs ++ [c])).2 →
      (callAll ops k (cs ++ [c])).2 = cs.map (·, true) ++ [(c, answer)]
  | k, [], _, h => by
    rw [List.nil_append] at h ⊢
    unfold callAll at h ⊢
    dsimp only at h ⊢
    split at h
    · next hfailed =>
      rw [if_pos hfailed]
      exact (congrArg (fun x => [x]) (List.mem_singleton.1 h)).symm
    · next hdone =>
      rw [if_neg hdone]
      exact (congrArg (fun x => [x]) (List.mem_singleton.1 h)).symm
  | k, d :: cs, hne, h => by
    obtain ⟨hd, hcs⟩ := not_or.1 (List.mem_cons.not.1 hne)
    rw [List.cons_append] at h ⊢
    unfold callAll at h ⊢
    dsimp only at h ⊢
    split at h
    · exact absurd (congrArg Prod.fst (List.mem_singleton.1 h)) hd
    · next hdone =>
      rw [if_neg hdone]
      rcases List.mem_cons.1 h with h | h
      · exact absurd (congrArg Prod.fst h) hd
      · rw [callAll_last ops c answer (ops k d).1 cs hcs h]
        rfl

theorem branch_not_preparation (p : HandoffPlan) (target : U32) : .branchToReset target ∉ p.preparations := by
  simp [preparations]

end HandoffPlan

section Signed

open OpenRef.Update (SlotAuthenticator UpdatePlatform authenticate_eq toNat_pieceBytes)

variable {κ μ : Type} {rd vr : SlotReader κ} {cr : UpdateCrypto κ} {be : ConfigBackend μ}
variable {flash : U32 → (n : Nat) → Option (Bytes n)} {mem : ℕ → U8}
variable {verifies : Bytes 80 → Bytes 8 → Bytes 64 → Bool} {digest : List U8 → Bytes 32} {fed : κ → List U8}

/-- What is read of a flash is what its memory holds; a read may fail. -/
def ReadsOf (flash : U32 → (n : Nat) → Option (Bytes n)) (mem : ℕ → U8) : Prop :=
  ∀ address n b, flash address n = some b → b.bytes = Flash.bytesAt mem address.toNat n

/-- The image that was read is the one that the memory holds. -/
theorem imageRead_readsOf (hflash : ReadsOf flash mem) {base size : U32} (hfits : base.toNat + size.toNat < 2 ^ 32) :
    ∀ (turns : ℕ) (offset : U32) (image : List U8), offset ≤ size → size.toNat - offset.toNat ≤ turns →
      imageRead flash base size turns offset = some image →
        image = Flash.bytesAt mem (base.toNat + offset.toNat) (size.toNat - offset.toNat)
  | 0, offset, image, _, hturns, h => by
    rw [imageRead] at h
    rw [Nat.le_zero.1 hturns, ← Option.some.inj h]
    rfl
  | turns + 1, offset, image, hle, hturns, h => by
    have hle' : offset.toNat ≤ size.toNat := hle
    unfold imageRead at h
    by_cases hdone : size ≤ offset
    · have hdone' : size.toNat ≤ offset.toNat := hdone
      rw [if_pos hdone] at h
      rw [Nat.sub_eq_zero_of_le hdone', ← Option.some.inj h]
      rfl
    · have hlt : offset.toNat < size.toNat := BitVec.not_le.1 hdone
      have hn := toNat_pieceBytes size offset
      rw [BitVec.toNat_sub_of_le hle] at hn
      rw [if_neg hdone] at h
      dsimp only at h
      generalize SlotAuthenticator.pieceBytes size offset = n at hn h
      obtain ⟨piece, hpiece, hrest⟩ := Option.bind_eq_some_iff.1 h
      obtain ⟨rest, htail, rfl⟩ := Option.map_eq_some_iff.1 hrest
      have hsum : (offset + n).toNat = offset.toNat + n.toNat := by
        rw [BitVec.toNat_add, Nat.mod_eq_of_lt (by omega)]
      have haddress : (base + offset).toNat = base.toNat + offset.toNat := by
        rw [BitVec.toNat_add, Nat.mod_eq_of_lt (by omega)]
      rw [imageRead_readsOf hflash hfits turns (offset + n) rest (by rw [BitVec.le_def]; omega) (by omega) htail,
        hflash _ _ _ hpiece, haddress, hsum, ← Nat.add_assoc, ← Flash.bytesAt_append]
      refine congrArg (Flash.bytesAt mem (base.toNat + offset.toNat)) ?_
      omega

/-- The authenticator that a selection leaves has the sizes of the verdicts. -/
theorem BootCoordinator.select_sizes (be : ConfigBackend μ) (hc : cr.Faithful verifies digest fed)
    (hrd : Shows rd flash fed) (k : κ) (n : μ) (c : BootCoordinator)
    (hp : (UpdateVerifier.init c.authenticator.platform).isSome = true) (hl : c.stateStore.loaded = true) {slot : U8}
    (hslot : slot ≤ slotB) :
    (c.select rd cr be k n).coordinator.authenticator.authenticatedSize slot = Update.sizeOf (verdict flash verifies digest
      (resetPlatform c.authenticator.platform c.stateStore.state.minimumVersion) (c.authenticator.region slot)) := by
  have hp' := init_resetPlatform hp c.stateStore.state.minimumVersion
  unfold select
  simp only [hl, Bool.not_true, Bool.false_eq_true, if_false]
  generalize ha : ({ c.authenticator with
    platform := resetPlatform c.authenticator.platform c.stateStore.state.minimumVersion } : SlotAuthenticator) = auth
  have hplatform : auth.platform = resetPlatform c.authenticator.platform c.stateStore.state.minimumVersion := by
    rw [← ha]
  have hregion : auth.region = c.authenticator.region := by
    rw [← ha]
    rfl
  rw [← hplatform] at hp' ⊢
  obtain ⟨-, hfirst⟩ := authenticate_eq hc hrd k auth hp' (show slotA ≤ 1 by decide) (.inl rfl)
    (show slotA ≠ noSlot by decide)
  obtain ⟨-, hsecond⟩ := authenticate_eq hc hrd (auth.authenticate rd cr k slotA noSlot).1
    (auth.authenticate rd cr k slotA noSlot).2.1 (by rw [hfirst.platform]; exact hp')
    (show slotB ≤ 1 by decide) (.inl rfl) (show slotB ≠ noSlot by decide)
  have hB : (auth.authenticate rd cr k slotA noSlot).2.1.region slotB = c.authenticator.region slotB := by
    rw [← hregion]
    exact hfirst.regionB
  rw [hB, hfirst.platform] at hsecond
  rw [hregion] at hfirst
  have hslots : ∀ slot : U8, slot ≤ slotB → slot = slotA ∨ slot = slotB := by decide
  rcases hslots slot hslot with rfl | rfl
  · exact (hsecond.other slotA ⟨fun _ => by decide, fun _ => rfl⟩).trans hfirst.size
  · exact hsecond.size

/-- A slot is handed off with the plan of its layout. -/
theorem Bootstrap.run_prepared {π : Type} {prepare : κ → HandoffLayout → κ × Option π} {k : κ} {n : μ} {s : Bootstrap}
    {slot : U8} {plan : π} (h : (s.run rd cr be prepare k n).handoff = some (slot, plan)) :
    let d := s.coordinator.select rd cr be k n
    s.coordinator.stateStore.loaded = true ∧ (prepare d.flash ⟨true, s.imageBase slot,
      d.coordinator.authenticator.authenticatedSize slot, s.ramBase, s.ramSize, s.vtorAlignment⟩).2 = some plan := by
  intro d
  unfold run at h
  split at h
  · cases h
  · next hl =>
    dsimp only at h
    split at h
    · cases h
    · dsimp only at h
      unfold handoff at h
      dsimp only at h
      split at h
      · cases h
      · split at h
        · cases h
        · split at h
          · cases h
          · next hplan =>
            obtain ⟨rfl, rfl⟩ := Prod.mk.inj (Option.some.inj h)
            exact ⟨by simpa using hl, hplan⟩

/-- **Main result: a reset enters a signed image.** Over every flash that does not change, whatever the record, the
callbacks and the failed reads: a slot that is handed off holds the image of a manifest that is framed, permitted,
signed and not older than the durable minimum, of exactly the signed size and digest; what is entered are the first
two words of that image, a stack in the memory and a handler in the image. -/
theorem signed_image_entered (hc : cr.Faithful verifies digest fed) (hrd : Shows rd flash fed)
    (hvr : ∀ k address n, (vr k address n).2 = flash address n) (hflash : ReadsOf flash mem) {s : Bootstrap}
    (hp : (UpdateVerifier.init s.coordinator.authenticator.platform).isSome = true)
    (hA : s.imageBaseA = s.coordinator.authenticator.regionA.imageBase)
    (hB : s.imageBaseB = s.coordinator.authenticator.regionB.imageBase) (k : κ) (n : μ) {slot : U8} {plan : HandoffPlan}
    (h : (s.run rd cr be (fun k l => l.prepare vr k) k n).handoff = some (slot, plan)) :
    ∃ wire : ManifestWire,
      let minimum := s.coordinator.stateStore.state.minimumVersion
      let region := s.coordinator.authenticator.region slot
      let size := wire.manifest.imageSize
      wire.bytes = Flash.bytesAt mem region.manifestBase.toNat 144 ∧
        (BootCoordinator.resetPlatform s.coordinator.authenticator.platform minimum).accepts verifies wire = true ∧
        minimum ≤ wire.manifest.imageVersion ∧ size ≤ region.imageCapacity ∧
        digest (Flash.bytesAt mem region.imageBase.toNat size.toNat) = wire.manifest.digest ∧
        plan.initialMsp = LittleEndian.read 32 (Flash.bytesAt mem region.imageBase.toNat 4) ∧
        plan.resetHandler = LittleEndian.read 32 (Flash.bytesAt mem (region.imageBase.toNat + 4) 4) ∧
        plan.Boots ⟨true, region.imageBase, size, s.ramBase, s.ramSize, s.vtorAlignment⟩ := by
  have hhanded := Bootstrap.run_handoff h
  obtain ⟨hl, hprepared⟩ := Bootstrap.run_prepared h
  obtain ⟨hslots, -, -⟩ := s.coordinator.select_slots be hc hrd k n hp hl
  have hpresent := hhanded.present
  rw [(Bootstrap.run_select rd cr be _ k n hl).1, hslots] at hpresent
  obtain ⟨manifest, hverdict, -⟩ := flashSlots_present hpresent
  have hsize := s.coordinator.select_sizes be hc hrd k n hp hl hhanded.valid
  rw [hverdict] at hsize
  have hbase : s.imageBase slot = (s.coordinator.authenticator.region slot).imageBase := by
    unfold Bootstrap.imageBase SlotAuthenticator.region
    split
    · exact hA
    · exact hB
  rw [hsize, hbase] at hprepared
  obtain ⟨-, hboots, vectors, hvectors, hmsp, hreset⟩ := (HandoffLayout.prepare_eq_some_iff vr _ _ plan).1 hprepared
  unfold verdict at hverdict
  obtain ⟨wire, hwire, hverdict⟩ := Option.bind_eq_some_iff.1 hverdict
  rw [Option.ite_none_right_eq_some, Bool.and_eq_true, decide_eq_true_eq] at hverdict
  obtain ⟨⟨haccepts, hcapacity⟩, hverdict⟩ := hverdict
  obtain ⟨image, himage, hdigest⟩ := Option.bind_eq_some_iff.1 hverdict
  rw [Option.ite_none_right_eq_some] at hdigest
  obtain ⟨hdigest, hmanifest⟩ := hdigest
  rw [← Option.some.inj hmanifest] at hboots
  have hread := imageRead_readsOf hflash hboots.image.2 _ 0 image (Nat.zero_le _) (Nat.sub_le _ _) himage
  have hzero : (0 : U32).toNat = 0 := rfl
  rw [hzero, Nat.add_zero, Nat.sub_zero] at hread
  rw [hvr] at hvectors
  have hwords := hflash _ _ _ hvectors
  have hsplit := Flash.bytesAt_split mem (s.coordinator.authenticator.region slot).imageBase.toNat (show 4 ≤ 8 by decide)
  refine ⟨wire, hflash _ _ _ hwire, haccepts, ?_, hcapacity, hread ▸ hdigest, ?_, ?_, hboots⟩
  · simp only [UpdatePlatform.accepts, UpdatePlatform.permits, Bool.and_eq_true, decide_eq_true_eq] at haccepts
    exact haccepts.1.2.1.1.1.1.1.1.1.2
  · rw [hmsp, hwords, hsplit.1]
  · rw [hreset, hwords, hsplit.2, List.take_of_length_le (by rw [Flash.length_bytesAt])]

end Signed

/-- An image of sixteen bytes: a stack at 0x9000 and a handler at 0x5008. -/
def vectorImage : List U8 := [0x00, 0x90, 0, 0, 0x09, 0x50, 0, 0] ++ List.replicate 8 0

/-- Its manifest. -/
def vectorManifest : Update.ManifestWire :=
  ⟨[0x4f, 0x52, 0x55, 0x50, 1, 2, 0, 0, 5, 0, 0, 0, 7, 0, 0, 0, 2, 0, 0, 0, 16, 0, 0, 0] ++ List.replicate 32 0xe9 ++
    List.replicate 88 9, rfl⟩

/-- Slot B holds both. -/
def vectorMemory (a : ℕ) : U8 :=
  if 0x4000 ≤ a ∧ a < 0x4090 then vectorManifest.byte (a - 0x4000)
  else if 0x5000 ≤ a ∧ a < 0x5010 then vectorImage.getD (a - 0x5000) 0 else 0xff

/-- The bootstrap of a device whose slot B is pending. -/
def vectorBootstrap : Bootstrap :=
  { eightBootstrap with coordinator := { eightBootstrap.coordinator with
      stateStore := ⟨⟨bootStateSchema, 1, 0, 0, 0, true⟩, ⟨1, 7, slotA, slotB, 0⟩, true⟩ } }

/-- A reader of the memory. -/
def vectorReader : SlotReader (List U8) := fun k address n => (k, Update.flashOf vectorMemory address n)

theorem signed_image_entered_vector :
    ((vectorBootstrap.run vectorReader Update.sumCrypto Medium.backend (fun k l => l.prepare vectorReader k) []
      eightPending).handoff = some (slotB, ⟨0x5000, 0x9000, 0x5009⟩)) ∧
      ∃ wire : Update.ManifestWire, Update.sumDigest (Flash.bytesAt vectorMemory 0x5000 wire.manifest.imageSize.toNat) =
        wire.manifest.digest := by
  have hrun : (vectorBootstrap.run vectorReader Update.sumCrypto Medium.backend (fun k l => l.prepare vectorReader k) []
      eightPending).handoff = some (slotB, ⟨0x5000, 0x9000, 0x5009⟩) := by decide +kernel
  have hshows : Shows vectorReader (Update.flashOf vectorMemory) id := ⟨fun _ _ _ => rfl, fun _ _ _ => rfl⟩
  have hreads : ReadsOf (Update.flashOf vectorMemory) vectorMemory := fun _ _ _ h => Option.some.inj h ▸ rfl
  obtain ⟨wire, -, -, -, -, hdigest, -⟩ := signed_image_entered Update.sumCrypto_faithful hshows (fun _ _ _ => rfl) hreads
    (by decide) rfl rfl [] eightPending hrun
  exact ⟨hrun, wire, hdigest⟩

end OpenRef.Boot
