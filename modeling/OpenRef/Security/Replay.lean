import OpenRef.Base
import OpenRef.Lib.Run
import OpenRef.Lib.Serial
/-!
# The replay window (openref_security.c:21-84)

One receiver keeps, for each source, the boot counter it last accepted, the
highest packet counter of that boot and a 64-bit map of the counters just below
it (bit `i` stands for `highest - i`). Both counters are compared by
serial-number arithmetic, although the sender never wraps either of them: the
boot counter stops at `UINT32_MAX` (openref_boot_counter.c:18-21) and the packet
counter exhausts the transport there (openref_secure_transport.c:52-56).

`replayed_across_half_range`: three jumps of less than `2^31` walk the window
round the counter range and let the first packet in again.
`accepted_nodup`: no pair is accepted twice in a run in which the serial order
never contradicts the numeric one.
-/

namespace OpenRef.Security

/-- `openref_security_replay_result_t`. -/
inductive ReplayResult
  | acceptFirst | acceptNew | acceptReordered | rejectDuplicate | rejectStale | rejectOldBoot
deriving DecidableEq, Repr

/-- `result <= OPENREF_SECURITY_REPLAY_ACCEPT_REORDERED` (openref_security.c:141). -/
def ReplayResult.accepted : ReplayResult → Bool
  | acceptFirst | acceptNew | acceptReordered => true
  | rejectDuplicate | rejectStale | rejectOldBoot => false

/-- `openref_security_replay_state_t`. -/
structure ReplayState where
  bootCounter : U32
  highestPacketCounter : U32
  receivedBitmap : U64
  initialized : Bool
deriving DecidableEq, Repr

/-- The state `memset` leaves. -/
def ReplayState.zero : ReplayState := ⟨0, 0, 0, false⟩

/-- `OPENREF_SECURITY_REPLAY_WINDOW_BITS`. -/
def replayWindowBits : U32 := 64

theorem window_le (age : U32) : replayWindowBits ≤ age ↔ 64 ≤ age.toNat := Iff.rfl

/-- `counter_after` (:21-24). -/
def counterAfter (candidate reference : U32) : Bool := Serial.after candidate reference

/-- `openref_security_accept_authenticated` (:42-84). -/
def acceptAuthenticated (s : ReplayState) (boot packet : U32) : ReplayState × ReplayResult :=
  if !s.initialized then (⟨boot, packet, 1, true⟩, .acceptFirst)
  else if boot ≠ s.bootCounter then
    if !counterAfter boot s.bootCounter then (s, .rejectOldBoot)
    else ({ s with bootCounter := boot, highestPacketCounter := packet, receivedBitmap := 1 }, .acceptNew)
  else if counterAfter packet s.highestPacketCounter then
    let shift := packet - s.highestPacketCounter
    let bitmap := if replayWindowBits ≤ shift then 1 else (s.receivedBitmap <<< shift.toNat) ||| 1
    ({ s with receivedBitmap := bitmap, highestPacketCounter := packet }, .acceptNew)
  else
    let age := s.highestPacketCounter - packet
    if replayWindowBits ≤ age then (s, .rejectStale)
    else
      let bit := (1 : U64) <<< age.toNat
      if s.receivedBitmap &&& bit ≠ 0 then (s, .rejectDuplicate)
      else ({ s with receivedBitmap := s.receivedBitmap ||| bit }, .acceptReordered)

/-! ## The window's bits -/

theorem and_bit_ne_zero (m : U64) (i : Nat) (hi : i < 64) :
    m &&& (1 : U64) <<< i ≠ 0 ↔ m.getLsbD i = true := by
  constructor
  · intro h
    by_contra hb
    refine h (BitVec.eq_of_getLsbD_eq fun j hj => ?_)
    by_cases hij : i = j
    · subst hij; simp [hb]
    · simp only [BitVec.getLsbD_and, BitVec.getLsbD_shiftLeft]
      simp; omega
  · intro h he
    have : (m &&& (1 : U64) <<< i).getLsbD i = true := by simp [h, hi]
    rw [he] at this
    simp at this

/-- The bit of an earlier counter after the window has moved up by `k`. -/
theorem bit_shift_up (m : U64) (k i : Nat) (hi : i + k < 64) (h : m.getLsbD i = true) :
    (m <<< k ||| 1).getLsbD (i + k) = true := by
  simp [h, hi]

theorem bit_or (m : U64) (i j : Nat) (hj : j < 64) :
    (m ||| (1 : U64) <<< j).getLsbD i = (m.getLsbD i || decide (i = j)) := by
  by_cases h : i = j
  · subst h; simp [hj]
  · simp [h]; omega

/-! ## What one presentation does -/

/-- Everything `acceptAuthenticated` can do. -/
inductive Presented (s : ReplayState) (boot packet : U32) : ReplayState × ReplayResult → Prop
  | first : s.initialized = false → Presented s boot packet (⟨boot, packet, 1, true⟩, .acceptFirst)
  | oldBoot : s.initialized = true → boot ≠ s.bootCounter → counterAfter boot s.bootCounter = false →
      Presented s boot packet (s, .rejectOldBoot)
  | newBoot : s.initialized = true → boot ≠ s.bootCounter → counterAfter boot s.bootCounter = true →
      Presented s boot packet (⟨boot, packet, 1, true⟩, .acceptNew)
  | ahead (bitmap : U64) : s.initialized = true → boot = s.bootCounter →
      counterAfter packet s.highestPacketCounter = true → bitmap.getLsbD 0 = true →
      (∀ i, i + (packet - s.highestPacketCounter).toNat < 64 → s.receivedBitmap.getLsbD i = true →
        bitmap.getLsbD (i + (packet - s.highestPacketCounter).toNat) = true) →
      Presented s boot packet (⟨boot, packet, bitmap, true⟩, .acceptNew)
  | stale : s.initialized = true → boot = s.bootCounter →
      counterAfter packet s.highestPacketCounter = false →
      64 ≤ (s.highestPacketCounter - packet).toNat → Presented s boot packet (s, .rejectStale)
  | duplicate : s.initialized = true → boot = s.bootCounter →
      counterAfter packet s.highestPacketCounter = false →
      s.receivedBitmap.getLsbD (s.highestPacketCounter - packet).toNat = true →
      Presented s boot packet (s, .rejectDuplicate)
  | reordered : s.initialized = true → boot = s.bootCounter →
      counterAfter packet s.highestPacketCounter = false →
      (s.highestPacketCounter - packet).toNat < 64 →
      s.receivedBitmap.getLsbD (s.highestPacketCounter - packet).toNat = false →
      Presented s boot packet
        (⟨boot, s.highestPacketCounter,
          s.receivedBitmap ||| (1 : U64) <<< (s.highestPacketCounter - packet).toNat, true⟩,
          .acceptReordered)

theorem accept_presented (s : ReplayState) (boot packet : U32) :
    Presented s boot packet (acceptAuthenticated s boot packet) := by
  unfold acceptAuthenticated
  by_cases hi : s.initialized = true
  · simp only [hi, Bool.not_true, Bool.false_eq_true, if_false]
    by_cases hb : boot = s.bootCounter
    · simp only [hb, ne_eq, not_true_eq_false, if_false]
      cases hp : counterAfter packet s.highestPacketCounter with
      | true =>
        simp only [if_true]
        obtain ⟨b, h, m, i⟩ := s
        simp only at hi hb hp ⊢
        subst hb hi
        refine .ahead _ rfl rfl hp ?_ fun i hik hbit => ?_
        · split <;> simp
        · have : ¬ replayWindowBits ≤ packet - h := by
            rw [window_le]
            simp only at hik
            omega
          simp only [this, if_false]
          exact bit_shift_up m _ i hik hbit
      | false =>
        simp only [Bool.false_eq_true, if_false]
        split
        · rename_i ha
          exact .stale hi rfl hp ((window_le _).1 ha)
        · rename_i ha
          have hlt : (s.highestPacketCounter - packet).toNat < 64 := by
            rw [window_le] at ha; omega
          split
          · rename_i hd
            exact .duplicate hi rfl hp ((and_bit_ne_zero _ _ hlt).1 hd)
          · rename_i hd
            refine .reordered hi rfl hp hlt ?_
            rw [← ne_eq, and_bit_ne_zero _ _ hlt] at hd
            simpa using hd
    · simp only [hb, ne_eq, not_false_eq_true, if_true]
      cases hc : counterAfter boot s.bootCounter with
      | true =>
        obtain ⟨b, h, m, i⟩ := s
        simp only at hi
        subst hi
        exact .newBoot rfl hb hc
      | false => exact .oldBoot hi hb hc
  · simp only [hi, Bool.not_false, if_true]
    exact .first (by simpa using hi)

/-! ## Runs of a receiver -/

/-- A receiver's state and the pairs it has accepted, the latest first. -/
structure Receiver where
  state : ReplayState
  accepted : List (U32 × U32)
deriving DecidableEq, Repr

/-- Present one authenticated (boot counter, packet counter) pair. -/
def Receiver.present (rc : Receiver) (x : U32 × U32) : Receiver :=
  let r := acceptAuthenticated rc.state x.1 x.2
  ⟨r.1, if r.2.accepted then x :: rc.accepted else rc.accepted⟩

/-- The serial comparisons made for this pair follow the numeric order: a boot counter is not more
than `2^31` below the stored one, and a packet counter of the stored boot is neither more than
`2^31` below the highest accepted one nor within the window's 64 below it by wrapping. -/
def Unlapped (rc : Receiver) (x : U32 × U32) : Prop :=
  rc.state.initialized = true →
    rc.state.bootCounter.toNat ≤ x.1.toNat + 2 ^ 31 ∧
    (x.1 = rc.state.bootCounter →
      rc.state.highestPacketCounter.toNat ≤ x.2.toNat + 2 ^ 31 ∧
      x.2.toNat ≤ rc.state.highestPacketCounter.toNat + (2 ^ 32 - 64))

instance (rc : Receiver) (x : U32 × U32) : Decidable (Unlapped rc x) := by
  unfold Unlapped; infer_instance

/-- The window covers what was accepted: no accepted pair is of a later boot, none of the current
boot is above the highest counter, and those within the window have their bit set. -/
structure Covers (rc : Receiver) : Prop where
  nodup : rc.accepted.Nodup
  empty : rc.state.initialized = false → rc.accepted = []
  boot_le : ∀ x ∈ rc.accepted, x.1.toNat ≤ rc.state.bootCounter.toNat
  packet_le : ∀ p, (rc.state.bootCounter, p) ∈ rc.accepted →
    p.toNat ≤ rc.state.highestPacketCounter.toNat
  bit : ∀ p, (rc.state.bootCounter, p) ∈ rc.accepted →
    rc.state.highestPacketCounter.toNat - p.toNat < 64 →
    rc.state.receivedBitmap.getLsbD (rc.state.highestPacketCounter.toNat - p.toNat) = true

theorem covers_start (s : ReplayState) : Covers ⟨s, []⟩ where
  nodup := List.nodup_nil
  empty _ := rfl
  boot_le := by simp
  packet_le := by simp
  bit := by simp

/-- A boot counter that is accepted as newer is numerically newer. -/
theorem boot_lt_of_after {b c : U32} (h : counterAfter c b = true) (hu : b.toNat ≤ c.toNat + 2 ^ 31) :
    b.toNat < c.toNat := by
  have := (Serial.after_iff (c := c) (r := b)).1 h
  omega

theorem present_covers (rc : Receiver) (x : U32 × U32) (hc : Covers rc) (hu : Unlapped rc x) :
    Covers (rc.present x) := by
  obtain ⟨s, acc⟩ := rc
  obtain ⟨boot, packet⟩ := x
  obtain ⟨hnd, hem, hbl, hpl, hbit⟩ := hc
  unfold Unlapped at hu
  simp only at hnd hem hbl hpl hbit hu
  unfold Receiver.present
  simp only
  have hp := accept_presented s boot packet
  generalize acceptAuthenticated s boot packet = r at hp
  cases hp with
  | first hi =>
    obtain rfl := hem hi
    simp only [ReplayResult.accepted, if_true]
    exact ⟨by simp, by simp, by simp, by simp, by simp⟩
  | oldBoot | stale | duplicate => exact ⟨hnd, hem, hbl, hpl, hbit⟩
  | newBoot hi hne ha =>
    have hlt := boot_lt_of_after ha (hu hi).1
    have hold : ∀ y ∈ acc, y.1 ≠ boot := by
      rintro y hy rfl
      have := hbl y hy
      omega
    simp only [ReplayResult.accepted, if_true]
    refine ⟨List.nodup_cons.2 ⟨fun h => hold _ h rfl, hnd⟩, by simp, fun y hy => ?_, fun p hp => ?_,
      fun p hp => ?_⟩
    · rcases List.mem_cons.1 hy with rfl | hy
      · exact Nat.le_refl _
      · have := hbl y hy
        simp only
        omega
    · rcases List.mem_cons.1 hp with h | h
      · cases h; exact Nat.le_refl _
      · exact absurd rfl (hold _ h)
    · rcases List.mem_cons.1 hp with h | h
      · cases h; simp
      · exact absurd rfl (hold _ h)
  | ahead bitmap hi hb ha hz hshift =>
    subst hb
    have hlt : s.highestPacketCounter.toNat < packet.toNat := by
      have := (Serial.after_iff (c := packet) (r := s.highestPacketCounter)).1 ha
      have := ((hu hi).2 rfl).1
      omega
    have hsub : (packet - s.highestPacketCounter).toNat = packet.toNat - s.highestPacketCounter.toNat :=
      Serial.sub_toNat_of_le (by omega)
    simp only [ReplayResult.accepted, if_true]
    refine ⟨List.nodup_cons.2 ⟨fun h => ?_, hnd⟩, by simp, fun y hy => ?_, fun p hp => ?_,
      fun p hp hage => ?_⟩
    · have := hpl packet h
      omega
    · rcases List.mem_cons.1 hy with rfl | hy
      · exact Nat.le_refl _
      · exact hbl y hy
    · rcases List.mem_cons.1 hp with h | h
      · cases h; exact Nat.le_refl _
      · have := hpl p h
        simp only
        omega
    · rcases List.mem_cons.1 hp with h | h
      · cases h; simpa using hz
      · have hle := hpl p h
        simp only at hage ⊢
        have hk : packet.toNat - p.toNat =
            (s.highestPacketCounter.toNat - p.toNat) + (packet - s.highestPacketCounter).toNat := by
          omega
        rw [hk]
        exact hshift _ (by omega) (hbit p h (by omega))
  | reordered hi hb ha hage hbit0 =>
    subst hb
    have hle : packet.toNat ≤ s.highestPacketCounter.toNat := by
      by_contra hgt
      rw [Serial.sub_toNat_of_lt (by omega)] at hage
      have := ((hu hi).2 rfl).2
      omega
    rw [Serial.sub_toNat_of_le hle] at hage hbit0 ⊢
    simp only [ReplayResult.accepted, if_true]
    refine ⟨List.nodup_cons.2 ⟨fun h => ?_, hnd⟩, by simp, fun y hy => ?_, fun p hp => ?_,
      fun p hp hage' => ?_⟩
    · simp [hbit packet h hage] at hbit0
    · rcases List.mem_cons.1 hy with rfl | hy
      · exact Nat.le_refl _
      · exact hbl y hy
    · rcases List.mem_cons.1 hp with h | h
      · cases h; exact hle
      · exact hpl p h
    · simp only at hage' ⊢
      rw [bit_or _ _ _ hage]
      rcases List.mem_cons.1 hp with h | h
      · cases h; simp
      · simp [hbit p h hage']

/-- **No replay while the counters are not lapped.** Whatever pairs are presented, in whatever order
and however often, none is accepted twice. -/
theorem accepted_nodup (s : ReplayState) (xs : List (U32 × U32))
    (hu : Run.Along Receiver.present Unlapped ⟨s, []⟩ xs) :
    (xs.foldl Receiver.present ⟨s, []⟩).accepted.Nodup :=
  (Run.inv_along present_covers _ _ (covers_start s) hu).nodup

/-- The rule applied to a reordered run with a duplicate and a second boot. -/
theorem accepted_nodup_reordered :
    ([(7, 100), (7, 102), (7, 101), (7, 101), (8, 0)].foldl Receiver.present
      ⟨ReplayState.zero, []⟩).accepted.Nodup :=
  accepted_nodup _ _ (by decide)

/-- The window walked once round the 32-bit range in three jumps accepts the first pair again
(test: openref_security_test.c:76-90 only presents small counters). -/
theorem replayed_across_half_range :
    ¬ ∀ xs : List (U32 × U32), (xs.foldl Receiver.present ⟨ReplayState.zero, []⟩).accepted.Nodup :=
  fun h => absurd (h [(1, 1), (1, 0x80000000), (1, 0xffffffff), (1, 1)]) (by decide)

end OpenRef.Security
