import OpenRef.Security.Replay
/-!
# The replay window and its specification

`openref_security_accept_authenticated` remembers one boot counter, one packet counter and 64
bits. The ideal receiver remembers every pair it accepted and compares counters as numbers.

`Mirrors` says which bits are set: bit `i` exactly when the counter `i` below the highest was
accepted from the current boot. `accept_ideal`: as long as the counters that are presented lie
within 2^31 - 1 of each other, each result is the ideal receiver's.
-/

namespace OpenRef.Security

/-! ## The ideal receiver -/

/-- The greatest of some numbers. -/
def greatest (l : List Nat) : Nat := l.foldr max 0

/-- The boot counter of the latest boot a pair was accepted from. -/
def currentBoot (accepted : List (U32 × U32)) : Nat := greatest (accepted.map (·.1.toNat))

/-- The packet counters accepted from a boot. -/
def acceptedFrom (accepted : List (U32 × U32)) (boot : Nat) : List Nat :=
  (accepted.filter (·.1.toNat = boot)).map (·.2.toNat)

/-- The highest packet counter accepted from the current boot. -/
def highestAccepted (accepted : List (U32 × U32)) : Nat :=
  greatest (acceptedFrom accepted (currentBoot accepted))

/-- What the ideal receiver answers to a pair, from the pairs it accepted. -/
def idealResult (accepted : List (U32 × U32)) (x : U32 × U32) : ReplayResult :=
  if accepted = [] then .acceptFirst
  else if x.1.toNat < currentBoot accepted then .rejectOldBoot
  else if currentBoot accepted < x.1.toNat ∨ highestAccepted accepted < x.2.toNat then .acceptNew
  else if x.2.toNat + 64 ≤ highestAccepted accepted then .rejectStale
  else if x ∈ accepted then .rejectDuplicate
  else .acceptReordered

/-- The pairs the ideal receiver has accepted after one more. -/
def idealAccepted (accepted : List (U32 × U32)) (x : U32 × U32) : List (U32 × U32) :=
  if (idealResult accepted x).accepted then x :: accepted else accepted

/-- The answers of the ideal receiver to some pairs. -/
def idealResults : List (U32 × U32) → List (U32 × U32) → List ReplayResult
  | _, [] => []
  | accepted, x :: xs => idealResult accepted x :: idealResults (idealAccepted accepted x) xs

/-- The answers of the receiver. -/
def acceptResults : ReplayState → List (U32 × U32) → List ReplayResult
  | _, [] => []
  | s, x :: xs => (acceptAuthenticated s x.1 x.2).2 :: acceptResults (acceptAuthenticated s x.1 x.2).1 xs

/-- Two counters lie within 2^31 - 1 of each other. -/
def Near (a b : U32) : Prop := a.toNat ≤ b.toNat + (2 ^ 31 - 1) ∧ b.toNat ≤ a.toNat + (2 ^ 31 - 1)

/-- The boot counters of two pairs lie near each other, and if they are one boot's the packet counters do. -/
def NearPair (x y : U32 × U32) : Prop := Near x.1 y.1 ∧ (x.1 = y.1 → Near x.2 y.2)

instance decidableNear (a b : U32) : Decidable (Near a b) := inferInstanceAs (Decidable (_ ∧ _))

instance decidableNearPair (x y : U32 × U32) : Decidable (NearPair x y) := inferInstanceAs (Decidable (_ ∧ (_ → _)))

theorem greatest_eq {l : List Nat} {m : Nat} (hm : m ∈ l) (hle : ∀ n ∈ l, n ≤ m) : greatest l = m := by
  have hbound : ∀ l : List Nat, (∀ n ∈ l, n ≤ m) → greatest l ≤ m := by
    intro l
    induction l with
    | nil => exact fun _ => Nat.zero_le m
    | cons a l ih => exact fun h => Nat.max_le.2 ⟨h a List.mem_cons_self, ih fun n hn => h n (List.mem_cons_of_mem a hn)⟩
  have hge : ∀ {l : List Nat}, m ∈ l → m ≤ greatest l := by
    intro l hl
    induction l with
    | nil => cases hl
    | cons a l ih =>
      rcases List.mem_cons.1 hl with rfl | hl
      · exact Nat.le_max_left _ _
      · exact (ih hl).trans (Nat.le_max_right _ _)
  exact Nat.le_antisymm (hbound l hle) (hge hm)

/-! ## What the receiver remembers -/

/-- **Invariant.** The receiver's counters are the latest accepted ones, and the bits are the accepted
counters below them. -/
structure Mirrors (accepted : List (U32 × U32)) (s : ReplayState) : Prop where
  initialized : s.initialized = true
  newest : (s.bootCounter, s.highestPacketCounter) ∈ accepted
  boot_le : ∀ y ∈ accepted, y.1.toNat ≤ s.bootCounter.toNat
  packet_le : ∀ y ∈ accepted, y.1 = s.bootCounter → y.2.toNat ≤ s.highestPacketCounter.toNat
  bit : ∀ i < 64, s.receivedBitmap.getLsbD i = true ↔
    ∃ y ∈ accepted, y.1 = s.bootCounter ∧ y.2.toNat + i = s.highestPacketCounter.toNat

section Step

variable {accepted : List (U32 × U32)} {s : ReplayState} {boot packet : U32}

theorem Mirrors.currentBoot_eq (h : Mirrors accepted s) : currentBoot accepted = s.bootCounter.toNat := by
  refine greatest_eq (List.mem_map.2 ⟨_, h.newest, rfl⟩) fun n hn => ?_
  obtain ⟨y, hy, rfl⟩ := List.mem_map.1 hn
  exact h.boot_le y hy

theorem Mirrors.highestAccepted_eq (h : Mirrors accepted s) :
    highestAccepted accepted = s.highestPacketCounter.toNat := by
  unfold highestAccepted acceptedFrom
  rw [h.currentBoot_eq]
  refine greatest_eq (List.mem_map.2 ⟨_, List.mem_filter.2 ⟨h.newest, by simp⟩, rfl⟩) fun n hn => ?_
  obtain ⟨y, hy, rfl⟩ := List.mem_map.1 hn
  obtain ⟨hmem, hboot⟩ := List.mem_filter.1 hy
  exact h.packet_le y hmem (BitVec.eq_of_toNat_eq (by simpa using hboot))

/-- Near counters are ordered as numbers. -/
theorem counterAfter_of_near {c r : U32} (h : Near c r) : counterAfter c r = true ↔ r.toNat < c.toNat := by
  obtain ⟨hcr, hrc⟩ := h
  unfold counterAfter
  rw [Serial.after_iff]
  omega

/-- The first pair, or the first of a new boot: its bit alone. -/
theorem mirrors_restart (hold : ∀ y ∈ accepted, y.1.toNat < boot.toNat) :
    Mirrors ((boot, packet) :: accepted) ⟨boot, packet, 1, true⟩ := by
  have hne : ∀ y ∈ accepted, y.1 ≠ boot := by
    rintro y hy rfl
    exact absurd (hold y hy) (Nat.lt_irrefl _)
  refine ⟨rfl, List.mem_cons_self, fun y hy => ?_, fun y hy he => ?_, fun i hi => ?_⟩
  · rcases List.mem_cons.1 hy with rfl | hy
    · exact Nat.le_refl _
    · exact Nat.le_of_lt (hold y hy)
  · rcases List.mem_cons.1 hy with rfl | hy
    · exact Nat.le_refl _
    · exact absurd he (hne y hy)
  · have hone : (1 : U64).getLsbD i = true ↔ i = 0 := by simp [BitVec.getLsbD_one]
    rw [hone]
    constructor
    · rintro rfl
      exact ⟨_, List.mem_cons_self, rfl, rfl⟩
    · rintro ⟨y, hy, he, hsum⟩
      rcases List.mem_cons.1 hy with rfl | hy
      · simp only at hsum
        omega
      · exact absurd he (hne y hy)

/-- The bits after the window moved up: the new counter's, and the old ones further down. -/
theorem ahead_bit {bitmap : U64} {shift : U32} {i : Nat} (hi : i < 64) (hshift : 0 < shift.toNat) :
    (if replayWindowBits ≤ shift then 1 else (bitmap <<< shift.toNat) ||| 1 : U64).getLsbD i = true ↔
      i = 0 ∨ (shift.toNat ≤ i ∧ bitmap.getLsbD (i - shift.toNat) = true) := by
  have hone : (1 : U64).getLsbD i = true ↔ i = 0 := by simp [BitVec.getLsbD_one]
  split
  · next hwide =>
    rw [window_le] at hwide
    rw [hone]
    omega
  · rw [BitVec.getLsbD_or, Bool.or_eq_true, hone, BitVec.getLsbD_shiftLeft]
    simp only [Bool.and_eq_true, Bool.not_eq_true', decide_eq_false_iff_not, decide_eq_true_eq, Nat.not_lt]
    constructor
    · rintro (⟨⟨-, hle⟩, hbit⟩ | hzero)
      · exact .inr ⟨hle, hbit⟩
      · exact .inl hzero
    · rintro (hzero | ⟨hle, hbit⟩)
      · exact .inr hzero
      · exact .inl ⟨⟨hi, hle⟩, hbit⟩

/-- **Step: a counter above the highest.** -/
theorem Mirrors.ahead (h : Mirrors accepted s) (hlt : s.highestPacketCounter.toNat < packet.toNat) :
    Mirrors ((s.bootCounter, packet) :: accepted)
      ⟨s.bootCounter, packet, if replayWindowBits ≤ packet - s.highestPacketCounter then 1
        else (s.receivedBitmap <<< (packet - s.highestPacketCounter).toNat) ||| 1, true⟩ := by
  have hshift : (packet - s.highestPacketCounter).toNat = packet.toNat - s.highestPacketCounter.toNat :=
    Serial.sub_toNat_of_le (by omega)
  refine ⟨rfl, List.mem_cons_self, fun y hy => ?_, fun y hy he => ?_, fun i hi => ?_⟩
  · rcases List.mem_cons.1 hy with rfl | hy
    · exact Nat.le_refl _
    · exact h.boot_le y hy
  · rcases List.mem_cons.1 hy with rfl | hy
    · exact Nat.le_refl _
    · exact (h.packet_le y hy he).trans (Nat.le_of_lt hlt)
  · rw [ahead_bit hi (by omega), hshift]
    constructor
    · rintro (rfl | ⟨hle, hbit⟩)
      · exact ⟨_, List.mem_cons_self, rfl, rfl⟩
      · obtain ⟨y, hy, he, hsum⟩ := (h.bit _ (by omega)).1 hbit
        exact ⟨y, List.mem_cons_of_mem _ hy, he, show y.2.toNat + i = packet.toNat by omega⟩
    · rintro ⟨y, hy, he, hsum⟩
      change y.2.toNat + i = packet.toNat at hsum
      rcases List.mem_cons.1 hy with rfl | hy
      · exact .inl (by simp only at hsum; omega)
      · have hle := h.packet_le y hy he
        exact .inr ⟨by omega, (h.bit _ (by omega)).2 ⟨y, hy, he, by omega⟩⟩

/-- **Step: a counter inside the window** that was not there. -/
theorem Mirrors.reordered (h : Mirrors accepted s) (hle : packet.toNat ≤ s.highestPacketCounter.toNat)
    (hage : s.highestPacketCounter.toNat - packet.toNat < 64) :
    Mirrors ((s.bootCounter, packet) :: accepted)
      ⟨s.bootCounter, s.highestPacketCounter,
        s.receivedBitmap ||| (1 : U64) <<< (s.highestPacketCounter.toNat - packet.toNat), true⟩ := by
  refine ⟨rfl, List.mem_cons_of_mem _ h.newest, fun y hy => ?_, fun y hy he => ?_, fun i hi => ?_⟩
  · rcases List.mem_cons.1 hy with rfl | hy
    · exact Nat.le_refl _
    · exact h.boot_le y hy
  · rcases List.mem_cons.1 hy with rfl | hy
    · exact hle
    · exact h.packet_le y hy he
  · rw [bit_or _ _ _ hage, Bool.or_eq_true, decide_eq_true_eq, h.bit i hi]
    constructor
    · rintro (⟨y, hy, he, hsum⟩ | rfl)
      · exact ⟨y, List.mem_cons_of_mem _ hy, he, hsum⟩
      · exact ⟨_, List.mem_cons_self, rfl, show packet.toNat + _ = s.highestPacketCounter.toNat by omega⟩
    · rintro ⟨y, hy, he, hsum⟩
      change y.2.toNat + i = s.highestPacketCounter.toNat at hsum
      rcases List.mem_cons.1 hy with rfl | hy
      · exact .inr (by simp only at hsum; omega)
      · exact .inl ⟨y, hy, he, hsum⟩

/-- Inside the window a bit stands for one pair. -/
theorem Mirrors.bit_iff_mem (h : Mirrors accepted s) (hle : packet.toNat ≤ s.highestPacketCounter.toNat)
    (hage : s.highestPacketCounter.toNat - packet.toNat < 64) :
    s.receivedBitmap.getLsbD (s.highestPacketCounter.toNat - packet.toNat) = true ↔
      (s.bootCounter, packet) ∈ accepted := by
  rw [h.bit _ hage]
  constructor
  · rintro ⟨⟨b, p⟩, hy, rfl, hsum⟩
    have hp : p = packet := BitVec.eq_of_toNat_eq (by simp only at hsum; omega)
    exact hp ▸ hy
  · intro hmem
    exact ⟨_, hmem, rfl, show packet.toNat + _ = _ by omega⟩

/-- **Step.** One presentation: the ideal receiver's answer, and the window mirrors what it accepted. -/
theorem Mirrors.step (h : Mirrors accepted s) {x : U32 × U32} (hnear : ∀ y ∈ accepted, NearPair y x) :
    (acceptAuthenticated s x.1 x.2).2 = idealResult accepted x ∧
      Mirrors (idealAccepted accepted x) (acceptAuthenticated s x.1 x.2).1 := by
  obtain ⟨boot, packet⟩ := x
  have hsome : accepted ≠ [] := List.ne_nil_of_mem h.newest
  obtain ⟨hbootNear, hpacketNear⟩ := hnear _ h.newest
  have hboots := h.currentBoot_eq
  have hhighest := h.highestAccepted_eq
  have hafter := counterAfter_of_near hbootNear.symm
  simp only [acceptAuthenticated, idealAccepted, idealResult, h.initialized, Bool.not_true, Bool.false_eq_true,
    if_false, if_neg hsome, hboots, hhighest]
  rcases Nat.lt_trichotomy boot.toNat s.bootCounter.toNat with hlt | heq | hgt
  · have hne : boot ≠ s.bootCounter := by
      rintro rfl
      omega
    have hnot : counterAfter boot s.bootCounter = false := by
      rw [← Bool.not_eq_true, hafter]
      exact Nat.not_lt_of_lt hlt
    simp only [ne_eq, hne, not_false_eq_true, if_true, hnot, Bool.not_false, hlt, ReplayResult.accepted]
    exact ⟨trivial, h⟩
  · obtain rfl : boot = s.bootCounter := BitVec.eq_of_toNat_eq heq
    have hpackets := counterAfter_of_near (hpacketNear rfl).symm
    simp only [ne_eq, not_true_eq_false, if_false, Nat.lt_irrefl, false_or]
    by_cases hup : s.highestPacketCounter.toNat < packet.toNat
    · have hyes := hpackets.2 hup
      simp only [hyes, hup, if_true, ReplayResult.accepted]
      exact ⟨trivial, h.ahead hup⟩
    · have hle : packet.toNat ≤ s.highestPacketCounter.toNat := Nat.le_of_not_lt hup
      have hno : counterAfter packet s.highestPacketCounter = false := by
        rw [← Bool.not_eq_true, hpackets]
        exact hup
      have hage : (s.highestPacketCounter - packet).toNat = s.highestPacketCounter.toNat - packet.toNat :=
        Serial.sub_toNat_of_le hle
      simp only [hno, hup, Bool.false_eq_true, if_false]
      by_cases hold : packet.toNat + 64 ≤ s.highestPacketCounter.toNat
      · have hwide : replayWindowBits ≤ s.highestPacketCounter - packet := by
          rw [window_le]
          omega
        simp only [hwide, hold, if_true, ReplayResult.accepted, Bool.false_eq_true, if_false]
        exact ⟨trivial, h⟩
      · have hin : s.highestPacketCounter.toNat - packet.toNat < 64 := by omega
        have hnarrow : ¬ replayWindowBits ≤ s.highestPacketCounter - packet := by
          rw [window_le]
          omega
        have hbit := h.bit_iff_mem hle hin
        rw [← hage] at hbit
        simp only [hnarrow, hold, if_false, and_bit_ne_zero _ _ (hage ▸ hin : (s.highestPacketCounter - packet).toNat < 64)]
        by_cases hmem : (s.bootCounter, packet) ∈ accepted
        · simp only [hbit.2 hmem, hmem, if_true, ReplayResult.accepted, Bool.false_eq_true, if_false]
          exact ⟨trivial, h⟩
        · simp only [mt hbit.1 hmem, hmem, Bool.false_eq_true, if_false, ReplayResult.accepted, if_true]
          rw [hage]
          exact ⟨trivial, h.reordered hle hin⟩
  · have hne : boot ≠ s.bootCounter := by
      rintro rfl
      omega
    have hyes := hafter.2 hgt
    have hnotOld : ¬ boot.toNat < s.bootCounter.toNat := by omega
    simp only [ne_eq, hne, not_false_eq_true, if_true, hyes, Bool.not_true, Bool.false_eq_true, if_false, hnotOld, hgt,
      true_or, ReplayResult.accepted]
    obtain ⟨b, hp, m, i⟩ := s
    obtain rfl : i = true := h.initialized
    exact ⟨trivial, mirrors_restart fun y hy => Nat.lt_of_le_of_lt (h.boot_le y hy) hgt⟩

end Step

/-! ## Runs -/

/-- **Run.** From a window that mirrors the accepted pairs, the answers to any near pairs. -/
theorem Mirrors.results : ∀ {accepted : List (U32 × U32)} {s : ReplayState} (xs : List (U32 × U32)),
    Mirrors accepted s → (∀ y ∈ accepted, ∀ x ∈ xs, NearPair y x) → xs.Pairwise NearPair →
    acceptResults s xs = idealResults accepted xs
  | _, _, [], _, _, _ => rfl
  | accepted, s, x :: xs, h, hnear, hpairs => by
    obtain ⟨hfirst, hrest⟩ := List.pairwise_cons.1 hpairs
    obtain ⟨hanswer, hnext⟩ := h.step fun y hy => hnear y hy x List.mem_cons_self
    have hnear' : ∀ y ∈ idealAccepted accepted x, ∀ z ∈ xs, NearPair y z := by
      intro y hy z hz
      unfold idealAccepted at hy
      split at hy
      · rcases List.mem_cons.1 hy with rfl | hy
        · exact hfirst z hz
        · exact hnear y hy z (List.mem_cons_of_mem _ hz)
      · exact hnear y hy z (List.mem_cons_of_mem _ hz)
    rw [acceptResults, idealResults, hanswer, hnext.results xs hnear' hrest]

/-- **The replay window is its specification.** For every sequence of presented pairs in which any two boot
counters, and any two packet counters of one boot, lie within 2^31 - 1 of each other, a receiver that starts
empty answers each pair as the ideal receiver that remembers every pair it accepted. -/
theorem accept_ideal (xs : List (U32 × U32)) (hnear : xs.Pairwise NearPair) :
    acceptResults ReplayState.zero xs = idealResults [] xs := by
  cases xs with
  | nil => rfl
  | cons x xs =>
    obtain ⟨hfirst, hrest⟩ := List.pairwise_cons.1 hnear
    have hstart : Mirrors [x] ⟨x.1, x.2, 1, true⟩ := by
      refine mirrors_restart fun y hy => ?_
      cases hy
    have hnear' : ∀ y ∈ [x], ∀ z ∈ xs, NearPair y z := by
      intro y hy z hz
      rw [List.mem_singleton.1 hy]
      exact hfirst z hz
    exact congrArg _ (hstart.results xs hnear' hrest)

/-- Two boots, with a reordered packet, a duplicate, a stale packet and one of the old boot. -/
theorem accept_ideal_two_boots :
    acceptResults ReplayState.zero [(7, 100), (7, 102), (7, 101), (7, 101), (7, 30), (6, 1000), (8, 0)] =
      idealResults [] [(7, 100), (7, 102), (7, 101), (7, 101), (7, 30), (6, 1000), (8, 0)] :=
  accept_ideal _ (by decide)

end OpenRef.Security
