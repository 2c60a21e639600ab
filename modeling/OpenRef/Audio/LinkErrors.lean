import OpenRef.Audio.LinkWire
import OpenRef.Lib.Crc
/-!
# Bit errors on the audio link (openref_audio_link.c:51-117)

The CRC is computed most significant bit first and stored low byte first. So the bits of a wire, in
the order of their transmission, stand for the powers 783 to 16 of `x` in the first 96 bytes, and then for
7 to 0 and 15 to 8 (`bitExponent`). A wire is accepted only if the powers of its flipped bits add up
to zero (`residue_xor`).

`three_bits_rejected`: one, two or three flipped bits are rejected, since the powers differ and an odd
number of them does not vanish. `burst_rejected_iff`: so is every burst of up to 16 bits, except for
twelve patterns that straddle the payload and the CRC and are accepted: there the order of the
stored bytes breaks the order of the powers.
-/

namespace OpenRef.Audio

open XorSum

/-- `0x1021`: the polynomial without its leading term. -/
def linkPolynomial : U16 := 0x1021

theorem crc16Bit_eq : crc16Bit = Crc.step linkPolynomial := by
  funext crc
  have hmsb : crc &&& 0x8000 ≠ 0 ↔ crc.msb = true := by
    have htop : (0x8000 : U16) = BitVec.twoPow 16 15 := rfl
    have hne : BitVec.twoPow 16 15 ≠ 0 := by decide
    rw [htop, BitVec.and_twoPow, BitVec.msb_eq_getLsbD_last]
    cases crc.getLsbD (16 - 1) with
    | true => exact iff_of_true hne rfl
    | false => exact iff_of_false (not_not.2 rfl) Bool.false_ne_true
  unfold crc16Bit Crc.step linkPolynomial
  simp only [hmsb]

theorem crc16Byte_eq : crc16Byte = Crc.byteStep linkPolynomial := by
  funext crc byte
  unfold crc16Byte
  rw [crc16Bit_eq]
  rfl

/-! ## Bits of a wire -/

/-- The bits of a wire. -/
def linkFrameBits : Nat := 784

/-- The power of `x` that bit `p` of a wire stands for. -/
def bitExponent (p : Nat) : Nat := if p < 768 then 783 - p else if p < 776 then 775 - p else 791 - p

/-- The power itself. -/
def bitWeight (p : Nat) : U16 := Crc.power linkPolynomial (bitExponent p)

theorem bitWeight_low {k : Nat} (h : k < 8) : bitWeight (768 + k) = 1#16 <<< (7 - k) := by
  have hexponent : bitExponent (768 + k) = 7 - k := by
    unfold bitExponent
    rw [if_neg (by omega), if_pos (by omega)]
    omega
  rw [bitWeight, hexponent, Crc.power_of_lt _ (by omega)]

theorem bitWeight_high {k : Nat} (h : k < 8) : bitWeight (776 + k) = 1#16 <<< (15 - k) := by
  have hexponent : bitExponent (776 + k) = 15 - k := by
    unfold bitExponent
    rw [if_neg (by omega), if_neg (by omega)]
    omega
  rw [bitWeight, hexponent, Crc.power_of_lt _ (by omega)]

/-- What the received CRC and the computed one differ in. -/
def residue (wire : LinkWire) : U16 := crc16 (wire.bytes.take 96) ^^^ LittleEndian.read 16 (wire.bytes.drop 96)

/-- The positions, in the order of transmission, of the bits in which two wires differ. -/
def flipped (sent received : LinkWire) : List Nat :=
  (List.range linkFrameBits).filter fun p => Crc.bitAt sent.bytes p ^^ Crc.bitAt received.bytes p

theorem mem_flipped {sent received : LinkWire} {p : Nat} :
    p ∈ flipped sent received ↔ p < 784 ∧ (Crc.bitAt sent.bytes p ^^ Crc.bitAt received.bytes p) = true := by
  unfold flipped
  rw [List.mem_filter, List.mem_range]
  rfl

/-- A wire with these bits flipped. -/
def flipBits (wire : LinkWire) (errors : List Nat) : LinkWire where
  bytes := wire.bytes.mapIdx fun i byte =>
    errors.foldl (fun b p => if p / 8 = i then b ^^^ (0x80 : U8) >>> (p % 8) else b) byte
  length_eq := by rw [List.length_mapIdx]; exact wire.length_eq

/-- The status frame that is sent when there is nothing else to send. -/
def idleFrame : AudioLinkFrame := { AudioLinkFrame.zero with kind := linkStatus }

/-- Its wire. -/
def idleWire : LinkWire where
  bytes := [0x4f, 0x41, 1, 3, 0, 0, 0, 0, 0, 0, 0, 0, 80, 0, 0, 0] ++ List.replicate 80 0 ++ [0x16, 0x16]
  length_eq := rfl

set_option maxRecDepth 2000 in
theorem encode_idleFrame : encode idleFrame = some idleWire := by decide +kernel

theorem nodup_flipped (sent received : LinkWire) : (flipped sent received).Nodup := List.nodup_range.filter _

/-- The stored CRC, low byte first, is the sum of its bits. -/
theorem read_crc (low high : U8) : LittleEndian.read 16 [low, high] =
    sum (fun k => if Crc.bitAt [low, high] k then bitWeight (768 + k) else 0#16) (List.range 16) := by
  have hread : LittleEndian.read 16 [low, high] = low.setWidth 16 <<< 0 ^^^ high.setWidth 16 <<< 8 := by
    refine BitVec.eq_of_getLsbD_eq fun j hj => ?_
    simp only [LittleEndian.read, LittleEndian.readFrom, BitVec.getLsbD_or, BitVec.getLsbD_xor, BitVec.getLsbD_shiftLeft,
      BitVec.getLsbD_setWidth]
    rcases Nat.lt_or_ge j 8 with h | h
    · simp [h]
    · have hlow : low.getLsbD j = false := BitVec.getLsbD_of_ge _ _ h
      simp [hlow]
  have hlow : ∀ k ∈ List.range 8, (if low.getMsbD k then 1#16 <<< (0 + 7 - k) else 0#16) =
      if Crc.bitAt [low, high] k then bitWeight (768 + k) else 0#16 := by
    intro k hk
    have hk8 := List.mem_range.1 hk
    have hbit : Crc.bitAt [low, high] k = low.getMsbD k := by
      unfold Crc.bitAt
      rw [Nat.div_eq_of_lt hk8, Nat.mod_eq_of_lt hk8]
      rfl
    rw [hbit, bitWeight_low hk8, Nat.zero_add]
  have hhigh : ∀ k ∈ List.range 8, (if high.getMsbD k then 1#16 <<< (8 + 7 - k) else 0#16) =
      if Crc.bitAt [low, high] (8 + k) then bitWeight (768 + (8 + k)) else 0#16 := by
    intro k hk
    have hk8 := List.mem_range.1 hk
    have hbit : Crc.bitAt [low, high] (8 + k) = high.getMsbD k := by
      unfold Crc.bitAt
      rw [show (8 + k) / 8 = 1 by omega, show (8 + k) % 8 = k by omega]
      rfl
    rw [hbit, ← Nat.add_assoc, bitWeight_high hk8]
  rw [hread, Crc.setWidth_shiftLeft_eq_sum low (by decide), Crc.setWidth_shiftLeft_eq_sum high (by decide),
    sum_congr hlow, sum_congr hhigh, show List.range 16 = List.range 8 ++ (List.range 8).map (8 + ·) from rfl, sum_append,
    sum_map]

/-- **The residue is a sum over the bits of the wire**, beside what the CRC starts from. -/
theorem residue_eq (wire : LinkWire) :
    residue wire = (Crc.step linkPolynomial)^[768] 0xffff ^^^
      sum (fun p => if Crc.bitAt wire.bytes p then bitWeight p else 0#16) (List.range linkFrameBits) := by
  have hlen := wire.length_eq
  have hbody : (wire.bytes.take 96).length = 96 := by
    rw [List.length_take, hlen]
    rfl
  obtain ⟨low, high, hcrc⟩ : ∃ low high, wire.bytes.drop 96 = [low, high] :=
    List.length_eq_two.1 (by rw [List.length_drop, hlen]; rfl)
  have hsplit : wire.bytes = wire.bytes.take 96 ++ [low, high] := by rw [← hcrc, List.take_append_drop]
  have hdata : ∀ p ∈ List.range 768,
      (if Crc.bitAt (wire.bytes.take 96) p then Crc.power linkPolynomial (16 + 768 - 1 - p) else 0#16) =
        if Crc.bitAt wire.bytes p then bitWeight p else 0#16 := by
    intro p hp
    have hlt := List.mem_range.1 hp
    have hbit : Crc.bitAt wire.bytes p = Crc.bitAt (wire.bytes.take 96) p := by
      unfold Crc.bitAt
      rw [List.getD_eq_getElem?_getD, List.getD_eq_getElem?_getD, List.getElem?_take_of_lt (by omega)]
    rw [hbit, bitWeight, bitExponent, if_pos hlt]
  have hstored : ∀ k ∈ List.range 16, (if Crc.bitAt [low, high] k then bitWeight (768 + k) else 0#16) =
      if Crc.bitAt wire.bytes (768 + k) then bitWeight (768 + k) else 0#16 := by
    intro k _
    have hbit : Crc.bitAt wire.bytes (768 + k) = Crc.bitAt [low, high] k := by
      unfold Crc.bitAt
      rw [show (768 + k) / 8 = 96 + k / 8 by omega, show (768 + k) % 8 = k % 8 by omega, hsplit, List.getD_eq_getElem?_getD,
        List.getElem?_append_right (by omega), hbody, Nat.add_sub_cancel_left, ← List.getD_eq_getElem?_getD]
    rw [hbit]
  have hfold := Crc.foldl_byteStep linkPolynomial (by decide) 0xffff (wire.bytes.take 96)
  rw [hbody, show 8 * 96 = 768 from rfl, sum_congr hdata] at hfold
  unfold residue crc16
  rw [crc16Byte_eq, hfold, hcrc, read_crc, sum_congr hstored, BitVec.xor_assoc, show linkFrameBits = 768 + 16 from rfl,
    List.range_add, sum_append, sum_map]

/-- **Syndrome.** Two residues differ in the powers of the flipped bits. -/
theorem residue_xor (sent received : LinkWire) :
    residue sent ^^^ residue received = sum bitWeight (flipped sent received) := by
  rw [residue_eq, residue_eq, flipped, sum_filter]
  have hcancel (a b c : U16) : a ^^^ b ^^^ (a ^^^ c) = b ^^^ c := by
    rw [BitVec.xor_comm a b, BitVec.xor_assoc, ← BitVec.xor_assoc a, BitVec.xor_self, BitVec.zero_xor]
  rw [hcancel, ← sum_xor]
  refine sum_congr fun p _ => ?_
  cases Crc.bitAt sent.bytes p <;> cases Crc.bitAt received.bytes p <;> simp

/-! ## Acceptance -/

/-- A wire that is decoded has the CRC of its first 96 bytes. -/
theorem residue_of_decode {wire : LinkWire} {frame : AudioLinkFrame} (h : decode wire = some frame) :
    residue wire = 0#16 := by
  unfold residue
  rw [(decode_eq_some.1 h).1.crc, BitVec.xor_self]

/-- An error that is accepted has powers that add up to zero. -/
theorem sum_flipped_of_decode {frame accepted : AudioLinkFrame} {sent received : LinkWire}
    (hsent : encode frame = some sent) (hreceived : decode received = some accepted) :
    sum bitWeight (flipped sent received) = 0#16 := by
  rw [← residue_xor, residue_of_decode (decode_encode hsent), residue_of_decode hreceived, BitVec.xor_self]

/-! ## Few errors -/

theorem bitExponent_lt {p : Nat} (h : p < 784) : bitExponent p < 784 := by
  unfold bitExponent
  grind

theorem bitExponent_injective {p q : Nat} (hp : p < 784) (hq : q < 784) (h : bitExponent p = bitExponent q) : p = q := by
  unfold bitExponent at h
  grind

/-- `x` does not come back to one within the length of a wire. -/
theorem order_linkPolynomial : Crc.noReturn linkPolynomial 783 (Crc.power linkPolynomial 1) = true := by decide +kernel

/-- The powers of two bits of a wire differ. -/
theorem bitWeight_injective {p q : Nat} (hp : p < 784) (hq : q < 784) (h : bitWeight p = bitWeight q) : p = q := by
  have hne {i j : Nat} (hij : i < j) (hj : j < 784) : Crc.power linkPolynomial i ≠ Crc.power linkPolynomial j :=
    Crc.power_ne linkPolynomial (by decide) order_linkPolynomial hij (by omega)
  refine bitExponent_injective hp hq ?_
  rcases Nat.lt_trichotomy (bitExponent p) (bitExponent q) with hlt | heq | hgt
  · exact absurd h (hne hlt (bitExponent_lt hq))
  · exact heq
  · exact absurd h.symm (hne hgt (bitExponent_lt hp))

/-- An odd number of powers does not add up to zero, since `x + 1` divides the polynomial. -/
theorem even_of_sum_eq_zero {l : List Nat} (h : sum bitWeight l = 0#16) : BitVec.ofNat 1 l.length = 0#1 := by
  have hparity := Crc.parity_sum_power linkPolynomial (by decide) (by decide) bitExponent l
  rw [← hparity]
  exact (congrArg Crc.parity h).trans Crc.parity_linear.zero

/-- **Up to three flipped bits are rejected**, wherever they are in the 98 bytes. -/
theorem three_bits_rejected (frame : AudioLinkFrame) (sent received : LinkWire) (hsent : encode frame = some sent)
    (hsome : 1 ≤ (flipped sent received).length) (hfew : (flipped sent received).length ≤ 3) :
    decode received = none := by
  rw [Option.eq_none_iff_forall_not_mem]
  intro accepted hreceived
  have hzero := sum_flipped_of_decode hsent hreceived
  have heven := even_of_sum_eq_zero hzero
  have hnodup := nodup_flipped sent received
  have hlt : ∀ p ∈ flipped sent received, p < 784 := fun p hp => (mem_flipped.1 hp).1
  generalize flipped sent received = l at hsome hfew hzero heven hnodup hlt
  obtain hone | htwo | hthree : l.length = 1 ∨ l.length = 2 ∨ l.length = 3 := by omega
  · rw [hone] at heven
    exact absurd heven (by decide)
  · obtain ⟨p, q, rfl⟩ := List.length_eq_two.1 htwo
    rw [sum_cons, sum_cons, sum_nil, BitVec.xor_zero, BitVec.xor_eq_zero_iff] at hzero
    have heq := bitWeight_injective (hlt p (by simp)) (hlt q (by simp)) hzero
    simp [heq] at hnodup
  · rw [hthree] at heven
    exact absurd heven (by decide)

theorem three_bits_rejected_everywhere : decode (flipBits idleWire [20, 400, 780]) = none :=
  three_bits_rejected idleFrame idleWire (flipBits idleWire [20, 400, 780]) encode_idleFrame (by decide +kernel)
    (by decide +kernel)

/-! ## Bursts -/

/-- The bursts whose powers add up to zero: each begins in the last 13 payload bits and ends in the CRC. -/
def undetectedBursts : List (List Nat) :=
  [[755, 759, 760, 764, 766, 768],
   [756, 760, 761, 765, 767, 769],
   [755, 756, 759, 761, 764, 765, 766, 767, 768, 769],
   [758, 762, 763, 765, 767, 768, 771, 773],
   [760, 764, 767, 768, 770, 775],
   [765, 768, 773, 777],
   [766, 769, 774, 778],
   [767, 770, 775, 779],
   [765, 766, 768, 769, 773, 774, 777, 778],
   [766, 767, 769, 770, 774, 775, 778, 779],
   [765, 767, 768, 770, 773, 775, 777, 779],
   [765, 766, 767, 768, 769, 770, 773, 774, 775, 777, 778, 779]]

/-- What a test picks out inside a window of a range, when it picks nothing outside. -/
theorem filter_window {n start k : Nat} {p : Nat → Bool} (hfit : start + k ≤ n)
    (hin : ∀ q ∈ (List.range n).filter p, start ≤ q ∧ q < start + k) :
    (List.range n).filter p = (List.range' start k).filter p := by
  obtain ⟨rest, rfl⟩ := Nat.exists_eq_add_of_le hfit
  have hnone {l : List Nat} (hl : ∀ q ∈ l, q < start + k + rest ∧ (q < start ∨ start + k ≤ q)) : l.filter p = [] := by
    rw [List.filter_eq_nil_iff]
    intro q hq hp
    obtain ⟨hlt, hout⟩ := hl q hq
    have := hin q (List.mem_filter.2 ⟨List.mem_range.2 hlt, hp⟩)
    omega
  have hleft : (List.range' 0 start).filter p = [] := by
    refine hnone fun q hq => ?_
    rw [List.mem_range'_1] at hq
    omega
  have hright : (List.range' (start + k) rest).filter p = [] := by
    refine hnone fun q hq => ?_
    rw [List.mem_range'_1] at hq
    omega
  have hsplit : List.range (start + k + rest) = List.range' 0 start ++ List.range' start k ++ List.range' (start + k) rest := by
    rw [List.range_eq_range', ← List.range'_append_1, ← List.range'_append_1, Nat.zero_add, Nat.zero_add]
  rw [hsplit, List.filter_append, List.filter_append, hleft, hright, List.nil_append, List.append_nil]

/-- Sixteen powers below the degree add up to zero only if there are none. -/
theorem unit_window : ∀ l ∈ solve (columns (fun k => Crc.power linkPolynomial (15 - k)) (List.range 16)) 0, l = [] := by
  decide +kernel

/-- The windows that reach from the payload into the CRC, or lie in it. -/
theorem tail_windows : ∀ j < 16, ∀ l ∈ solve (columns bitWeight (List.range' (753 + j) 16)) 0,
    l = [] ∨ l ∈ undetectedBursts := by
  decide +kernel

/-- In a window before the CRC, what is flipped is sixteen powers below the degree, moved up. -/
theorem data_window {start : Nat} (hstart : start ≤ 752) {p : Nat → Bool}
    (hzero : sum bitWeight ((List.range' start 16).filter p) = 0#16) : (List.range' start 16).filter p = [] := by
  obtain ⟨m, hm⟩ : ∃ m, 768 = start + m := Nat.exists_eq_add_of_le (by omega)
  have hlinear := (Crc.step_linear linkPolynomial).iterate m
  have hshift : ∀ k ∈ List.range 16, (if p (start + k) then bitWeight (start + k) else 0#16) =
      (Crc.step linkPolynomial)^[m] (if p (start + k) then Crc.power linkPolynomial (15 - k) else 0#16) := by
    intro k hk
    have hlt := List.mem_range.1 hk
    have hexponent : bitExponent (start + k) = m + (15 - k) := by
      unfold bitExponent
      rw [if_pos (by omega)]
      omega
    split
    · rw [bitWeight, hexponent, Crc.power_add]
    · exact hlinear.zero.symm
  rw [sum_filter, List.range'_eq_map_range, sum_map, sum_congr hshift, ← hlinear.sum] at hzero
  have hinner := hlinear.eq_zero ((Crc.step_injective linkPolynomial (by decide)).iterate m) hzero
  rw [← sum_filter (fun k => Crc.power linkPolynomial (15 - k)) fun k => p (start + k)] at hinner
  have hmem := mem_solve (fun k => p (start + k)) hinner
  rw [List.range'_eq_map_range, List.filter_map, List.map_eq_nil_iff]
  exact unit_window _ hmem

/-- **A burst of up to 16 bits** whose powers add up to zero is one of the twelve. -/
theorem burst_undetected {p : Nat → Bool} {start : Nat}
    (hburst : ∀ q ∈ (List.range 784).filter p, start ≤ q ∧ q < start + 16) (hsome : (List.range 784).filter p ≠ [])
    (hzero : sum bitWeight ((List.range 784).filter p) = 0#16) : (List.range 784).filter p ∈ undetectedBursts := by
  rcases Nat.lt_or_ge start 753 with hdata | htail
  · have hwindow := filter_window (by omega) hburst
    rw [hwindow] at hzero hsome
    exact absurd (data_window (by omega) hzero) hsome
  · -- a window that runs over the end of the wire is the last one
    have hlast : ∀ q ∈ (List.range 784).filter p, min start 768 ≤ q ∧ q < min start 768 + 16 := by
      intro q hq
      have hin := hburst q hq
      have hlt := List.mem_range.1 (List.mem_filter.1 hq).1
      omega
    have hwindow := filter_window (by omega) hlast
    obtain ⟨j, hj⟩ : ∃ j, min start 768 = 753 + j := ⟨min start 768 - 753, by omega⟩
    rw [hj] at hwindow
    rw [hwindow] at hzero hsome ⊢
    exact (tail_windows j (by omega) _ (mem_solve _ hzero)).resolve_left hsome

/-- The twelve do add up to zero, and none of them reaches into the header. -/
theorem undetectedBursts_spec : ∀ l ∈ undetectedBursts, sum bitWeight l = 0#16 ∧ ∀ p ∈ l, 128 ≤ p := by decide +kernel

/-- Where no bit of the header is flipped, its bytes are the same. -/
theorem header_of_flipped {sent received : LinkWire} (h : ∀ p ∈ flipped sent received, 128 ≤ p) {i : Nat} (hi : i < 16) :
    received.bytes.getD i 0 = sent.bytes.getD i 0 := by
  refine BitVec.eq_of_getMsbD_eq fun k hk => ?_
  by_contra hne
  have hdiv : (8 * i + k) / 8 = i := by omega
  have hmod : (8 * i + k) % 8 = k := by omega
  have hmem : 8 * i + k ∈ flipped sent received := by
    refine mem_flipped.2 ⟨by omega, ?_⟩
    unfold Crc.bitAt
    rw [hdiv, hmod, bne_iff_ne]
    exact fun heq => hne heq.symm
  have := h _ hmem
  omega

/-- A wire with the header of an accepted one and the CRC of its own bytes is accepted. -/
theorem accepted_of_header {sent received : LinkWire} (hsent : Accepted sent)
    (hheader : ∀ i < 16, received.bytes.getD i 0 = sent.bytes.getD i 0) (hresidue : residue received = 0#16) :
    Accepted received := by
  have hpair {i : Nat} (hi : i + 1 < 16) : (received.bytes.drop i).take 2 = (sent.bytes.drop i).take 2 := by
    have hs := sent.length_eq
    have hr := received.length_eq
    simp only [linkFrameBytes] at hs hr
    rw [take_succ_drop (by omega), take_succ_drop (by omega), take_succ_drop (by omega), take_succ_drop (by omega),
      hheader i (by omega), hheader (i + 1) hi]
    rfl
  have hvalid : (wireFrame received).valid = (wireFrame sent).valid := by
    unfold AudioLinkFrame.valid wireFrame
    rw [hheader 3 (by decide), hheader 4 (by decide)]
  refine ⟨?_, ?_, ?_, ?_, ?_, (BitVec.xor_eq_zero_iff.1 hresidue).symm, hvalid.trans hsent.valid⟩
  · exact (congrArg (LittleEndian.read 16) (hpair (i := 0) (by decide))).trans hsent.magic
  · exact (hheader 2 (by decide)).trans hsent.version
  · exact (congrArg (LittleEndian.read 16) (hpair (i := 12) (by decide))).trans hsent.payloadBytes
  · rw [hheader 14 (by decide)]
    exact hsent.depth
  · exact (hheader 15 (by decide)).trans hsent.reserved

/-- **Main result: a burst of up to 16 bits is rejected, but for twelve patterns** that straddle the
payload and the CRC, which are accepted. -/
theorem burst_rejected_iff (frame : AudioLinkFrame) (sent received : LinkWire) (start : Nat)
    (hsent : encode frame = some sent) (hburst : ∀ p ∈ flipped sent received, start ≤ p ∧ p < start + 16)
    (hsome : flipped sent received ≠ []) :
    decode received = none ↔ flipped sent received ∉ undetectedBursts := by
  have haccepted := (decode_eq_some.1 (decode_encode hsent)).1
  constructor
  · intro hnone hmem
    obtain ⟨hzero, hheader⟩ := undetectedBursts_spec _ hmem
    have hresidue : residue received = 0#16 := by
      rw [← residue_xor, residue_of_decode (decode_encode hsent)] at hzero
      rwa [BitVec.zero_xor] at hzero
    have hok := accepted_of_header haccepted (fun i hi => header_of_flipped hheader hi) hresidue
    rw [decode_eq_some.2 ⟨hok, rfl⟩] at hnone
    exact Option.some_ne_none _ hnone
  · intro hdetected
    rw [Option.eq_none_iff_forall_not_mem]
    intro accepted hreceived
    have hzero := sum_flipped_of_decode hsent hreceived
    unfold flipped linkFrameBits at hburst hsome hdetected hzero
    exact hdetected (burst_undetected hburst hsome hzero)

theorem burst_rejected_iff_header : decode (flipBits idleWire [24, 30, 39]) = none ↔
    flipped idleWire (flipBits idleWire [24, 30, 39]) ∉ undetectedBursts :=
  burst_rejected_iff idleFrame idleWire (flipBits idleWire [24, 30, 39]) 24 encode_idleFrame (by decide +kernel)
    (by decide +kernel)

set_option maxRecDepth 2000 in
/-- A burst of 13 bits, one in the last payload byte and three in the CRC, that is accepted as
another frame. -/
theorem burst_accepted : encode idleFrame = some idleWire ∧
    flipped idleWire (flipBits idleWire [765, 768, 773, 777]) = [765, 768, 773, 777] ∧
    (decode (flipBits idleWire [765, 768, 773, 777])).isSome = true ∧
    decode (flipBits idleWire [765, 768, 773, 777]) ≠ some idleFrame := by
  decide +kernel

end OpenRef.Audio
