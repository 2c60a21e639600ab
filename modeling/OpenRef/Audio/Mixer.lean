import OpenRef.Base
import OpenRef.Lib.FixedPoint
import OpenRef.Lib.Run
/-!
# The mixer and its limiter (openref_audio_mixer.c)

A block is the sum of the valid sources under their Q15 gains, times the limiter
gain. The limiter gain drops at once to what a loud block asks for; otherwise it
takes one sixteenth of the way back to unity, however much of that the block can
bear.

`process_limited_iff`: what a block needs to come out within the target.
`run_limited_iff`: the same over every run. `second_loud_block_clips`: a loud block
played twice clips the second time.

`int32_t` and `int64_t` are `Int`: `accumulation_bound` and `accumulation_scale_bound`
keep every value in range.
-/

namespace OpenRef.Audio

/-- `OPENREF_AUDIO_FRAME_SAMPLES`. -/
abbrev frameSamples : Nat := 160
/-- `OPENREF_AUDIO_REMOTE_SOURCES`. -/
abbrev remoteSources : Nat := 5
/-- `OPENREF_AUDIO_Q15_UNITY`. -/
def q15Unity : U16 := 32768
/-- `OPENREF_AUDIO_LIMIT_TARGET`. -/
def limitTarget : Int := 30000
/-- `OPENREF_AUDIO_DEFAULT_SOURCE_GAIN_Q15`. -/
def defaultSourceGainQ15 : U16 := 16384

/-- `int16_t samples[OPENREF_AUDIO_FRAME_SAMPLES]`. -/
abbrev Block := Fin frameSamples → BitVec 16

/-- `openref_audio_mixer_t`. -/
structure AudioMixer where
  sourceGainQ15 : Fin remoteSources → U16
  limiterGainQ15 : U16
  blocks : U32
  silentBlocks : U32
  limitedBlocks : U32
  clippedSamples : U32
  lastPrelimitPeak : Int

/-- `absolute_i32` (:9-12). -/
def absoluteI32 (value : Int) : Int := if value < 0 then -value else value

/-- `saturate_i16` (:14-25): the sample, and whether it was clipped. -/
def saturateI16 (value : Int) : BitVec 16 × Bool :=
  if 32767 < value then (BitVec.ofInt 16 32767, true)
  else if value < -32768 then (BitVec.ofInt 16 (-32768), true)
  else (BitVec.ofInt 16 value, false)

/-- The bit of a source in the validity mask (:67). -/
def sourceValid (mask : U8) (source : Fin remoteSources) : Bool := mask &&& ((1 : U8) <<< source.val) ≠ 0

/-- The gain a peak asks for (:97-101). -/
def requestedGain (peak : Int) : U16 :=
  if limitTarget < peak then BitVec.ofInt 16 (limitTarget * 2 ^ 15 / peak) else q15Unity

/-- One release step (:105-107). -/
def releasedGain (gain : U16) : U16 := gain + (((0x8000 : U32) - gain.setWidth 32) >>> 4).setWidth 16

namespace AudioMixer

/-- `openref_audio_mixer_init` (:27-37). -/
def init : AudioMixer := ⟨fun _ => defaultSourceGainQ15, q15Unity, 0, 0, 0, 0, 0⟩

/-- `openref_audio_mixer_set_source_gain` (:39-50). -/
def setSourceGain (m : AudioMixer) (sourceIndex : U8) (gainQ15 : U16) : AudioMixer × Bool :=
  if 5 ≤ sourceIndex || q15Unity < gainQ15 then (m, false)
  else
    ({ m with
      sourceGainQ15 := fun source => if source.val = sourceIndex.toNat then gainQ15 else m.sourceGainQ15 source },
      true)

/-- One source added to `accumulation[sample]` (:66-76). -/
def addSource (m : AudioMixer) (sources : Fin remoteSources → Block) (mask : U8) (sample : Fin frameSamples)
    (sum : Int) (source : Fin remoteSources) : Int :=
  if sourceValid mask source then
    sum + FixedPoint.scale 15 (sources source sample).toInt (m.sourceGainQ15 source).toNat
  else sum

/-- `accumulation[sample]` after the loop over the sources (:62-76). -/
def accumulation (m : AudioMixer) (sources : Fin remoteSources → Block) (mask : U8) (sample : Fin frameSamples) :
    Int :=
  (List.finRange remoteSources).foldl (m.addSource sources mask sample) 0

/-- The loop for the peak (:88-94). -/
def peak (accumulation : Fin frameSamples → Int) : Int :=
  FixedPoint.largest (fun sample => absoluteI32 (accumulation sample)) (List.finRange frameSamples)

/-- The limiter gain for a block (:97-108). -/
def limiterGain (m : AudioMixer) (peak : Int) : U16 :=
  if requestedGain peak < m.limiterGainQ15 then requestedGain peak else releasedGain m.limiterGainQ15

/-- The last loop (:110-114). -/
def output (accumulation : Fin frameSamples → Int) (gain : U16) (sample : Fin frameSamples) : BitVec 16 × Bool :=
  saturateI16 (FixedPoint.scale 15 (accumulation sample) gain.toNat)

/-- `openref_audio_mixer_process` (:52-112): the mixer and the output block. -/
def process (m : AudioMixer) (sources : Fin remoteSources → Block) (mask : U8) : AudioMixer × Block :=
  if ∀ source, sourceValid mask source = false then
    ({ m with
      blocks := m.blocks + 1
      silentBlocks := m.silentBlocks + 1
      lastPrelimitPeak := 0 }, fun _ => 0)
  else
    let sum := m.accumulation sources mask
    let gain := m.limiterGain (peak sum)
    ({ m with
      blocks := m.blocks + 1
      lastPrelimitPeak := peak sum
      limitedBlocks := if limitTarget < peak sum then m.limitedBlocks + 1 else m.limitedBlocks
      limiterGainQ15 := gain
      clippedSamples := m.clippedSamples +
        BitVec.ofNat 32 ((List.finRange frameSamples).countP fun sample => (output sum gain sample).2) },
      fun sample => (output sum gain sample).1)

/-! ## The values of a block -/

/-- What `init` and `set_source_gain` keep: no gain exceeds unity. -/
structure Inv (m : AudioMixer) : Prop where
  sources : ∀ source, (m.sourceGainQ15 source).toNat ≤ 2 ^ 15
  limiter : m.limiterGainQ15.toNat ≤ 2 ^ 15

theorem abs_sample (x : BitVec 16) : -32768 ≤ x.toInt ∧ x.toInt ≤ 32768 := by
  have h1 := BitVec.le_toInt x
  have h2 := BitVec.toInt_lt (x := x)
  omega

theorem foldl_addSource_bound {m : AudioMixer} (hm : Inv m) (sources : Fin remoteSources → Block) (mask : U8)
    (sample : Fin frameSamples) : ∀ (l : List (Fin remoteSources)) (sum : Int) (n : Nat),
    -(32768 * (n : Int)) ≤ sum → sum ≤ 32768 * (n : Int) →
      -(32768 * ((n + l.length : Nat) : Int)) ≤ l.foldl (m.addSource sources mask sample) sum ∧
        l.foldl (m.addSource sources mask sample) sum ≤ 32768 * ((n + l.length : Nat) : Int)
  | [], _, _, h1, h2 => ⟨h1, h2⟩
  | source :: l, sum, n, h1, h2 => by
    obtain ⟨hlo, hhi⟩ := abs_sample (sources source sample)
    obtain ⟨h3, h4⟩ := FixedPoint.scale_bounds (hm.sources source) hlo hhi
    have hlen : n + (source :: l).length = (n + 1) + l.length := by
      rw [List.length_cons]
      omega
    have hsum : -(32768 * ((n + 1 : Nat) : Int)) ≤ m.addSource sources mask sample sum source ∧
        m.addSource sources mask sample sum source ≤ 32768 * ((n + 1 : Nat) : Int) := by
      unfold addSource
      push_cast
      split
      · constructor <;> omega
      · constructor <;> omega
    rw [List.foldl_cons, hlen]
    exact foldl_addSource_bound hm sources mask sample l _ _ hsum.1 hsum.2

/-- Five sources of at most 32768 each: `accumulation` fits `int32_t`. -/
theorem accumulation_bound {m : AudioMixer} (hm : Inv m) (sources : Fin remoteSources → Block) (mask : U8)
    (sample : Fin frameSamples) :
    -163840 ≤ m.accumulation sources mask sample ∧ m.accumulation sources mask sample ≤ 163840 :=
  foldl_addSource_bound hm sources mask sample (List.finRange remoteSources) 0 0 (by simp) (by simp)

/-- The limiter gain does not amplify: the limited value fits `int32_t`. -/
theorem accumulation_scale_bound {m : AudioMixer} (hm : Inv m) (sources : Fin remoteSources → Block) (mask : U8)
    (sample : Fin frameSamples) {gain : U16} (hg : gain.toNat ≤ 2 ^ 15) :
    -163840 ≤ FixedPoint.scale 15 (m.accumulation sources mask sample) gain.toNat ∧
      FixedPoint.scale 15 (m.accumulation sources mask sample) gain.toNat ≤ 163840 := by
  obtain ⟨h1, h2⟩ := accumulation_bound hm sources mask sample
  exact FixedPoint.scale_bounds hg h1 h2

theorem abs_le_peak (sum : Fin frameSamples → Int) (sample : Fin frameSamples) :
    -peak sum ≤ sum sample ∧ sum sample ≤ peak sum := by
  have h := FixedPoint.le_largest (f := fun sample => absoluteI32 (sum sample)) (List.mem_finRange sample)
  change absoluteI32 (sum sample) ≤ peak sum at h
  unfold absoluteI32 at h
  split at h
  · omega
  · omega

/-- What a loud peak asks for brings it to the target. -/
theorem requestedGain_spec (p : Int) :
    (requestedGain p).toNat ≤ 2 ^ 15 ∧
      (requestedGain p ≠ q15Unity → limitTarget < p ∧ p * (requestedGain p).toNat ≤ limitTarget * 2 ^ 15) := by
  unfold requestedGain
  split
  · rename_i hp
    have hp0 : (0 : Int) < p := by unfold limitTarget at hp; omega
    have hlt : limitTarget * 2 ^ 15 / p < 2 ^ 15 := by
      rw [Int.ediv_lt_iff_lt_mul hp0]
      unfold limitTarget at hp ⊢
      omega
    have h0 : 0 ≤ limitTarget * 2 ^ 15 / p := Int.ediv_nonneg (by unfold limitTarget; decide) (Int.le_of_lt hp0)
    have hnat : ((BitVec.ofInt 16 (limitTarget * 2 ^ 15 / p)).toNat : Int) = limitTarget * 2 ^ 15 / p := by
      rw [BitVec.toNat_ofInt]
      omega
    refine ⟨by omega, fun _ => ⟨hp, ?_⟩⟩
    rw [hnat]
    exact Int.mul_ediv_self_le (Int.ne_of_gt hp0)
  · exact ⟨by decide, fun h => absurd rfl h⟩

/-- A release step stays at most unity. -/
theorem toNat_releasedGain {gain : U16} (hg : gain.toNat ≤ 2 ^ 15) :
    (releasedGain gain).toNat = gain.toNat + (2 ^ 15 - gain.toNat) / 16 := by
  unfold releasedGain
  rw [BitVec.toNat_add, BitVec.toNat_setWidth, BitVec.toNat_ushiftRight, BitVec.toNat_sub_of_le,
    BitVec.toNat_setWidth, Nat.shiftRight_eq_div_pow]
  · have h1 : (0x8000 : U32).toNat = 2 ^ 15 := rfl
    rw [h1]
    omega
  · rw [BitVec.le_def, BitVec.toNat_setWidth]
    have h1 : (0x8000 : U32).toNat = 2 ^ 15 := rfl
    rw [h1]
    omega

theorem limiterGain_le {m : AudioMixer} (hm : Inv m) (p : Int) : (m.limiterGain p).toNat ≤ 2 ^ 15 := by
  unfold limiterGain
  split
  · exact (requestedGain_spec p).1
  · rw [toNat_releasedGain hm.limiter]
    have := hm.limiter
    omega

theorem process_inv {m : AudioMixer} (hm : Inv m) (sources : Fin remoteSources → Block) (mask : U8) :
    Inv (m.process sources mask).1 := by
  unfold process
  split
  · exact ⟨hm.sources, hm.limiter⟩
  · exact ⟨hm.sources, limiterGain_le hm _⟩

theorem setSourceGain_inv {m : AudioMixer} (hm : Inv m) (sourceIndex : U8) (gainQ15 : U16) :
    Inv (m.setSourceGain sourceIndex gainQ15).1 := by
  unfold setSourceGain
  split
  · exact hm
  · rename_i hc
    simp only [Bool.or_eq_true, decide_eq_true_eq, not_or, BitVec.not_lt] at hc
    refine ⟨fun source => ?_, hm.limiter⟩
    dsimp only
    split
    · exact hc.2
    · exact hm.sources source

/-! ## One block -/

/-- The largest sample of a sum, and the largest below zero. -/
def positivePeak (sum : Fin frameSamples → Int) : Int := FixedPoint.largest sum (List.finRange frameSamples)

def negativePeak (sum : Fin frameSamples → Int) : Int :=
  FixedPoint.largest (fun sample => -sum sample) (List.finRange frameSamples)

/-- The block comes out within the target, and nothing is clipped. -/
def Limited (m : AudioMixer) (sources : Fin remoteSources → Block) (mask : U8) : Prop :=
  (∀ sample, -limitTarget ≤ ((m.process sources mask).2 sample).toInt ∧
    ((m.process sources mask).2 sample).toInt ≤ limitTarget) ∧
    (m.process sources mask).1.clippedSamples = m.clippedSamples

/-- The block asks for less than the limiter's gain, or can bear one release step of it. -/
def Headroom (m : AudioMixer) (sources : Fin remoteSources → Block) (mask : U8) : Prop :=
  requestedGain (peak (m.accumulation sources mask)) < m.limiterGainQ15 ∨
    (positivePeak (m.accumulation sources mask) * (releasedGain m.limiterGainQ15).toNat < (limitTarget + 1) * 2 ^ 15 ∧
      negativePeak (m.accumulation sources mask) * (releasedGain m.limiterGainQ15).toNat ≤ limitTarget * 2 ^ 15)

/-- A saturated value is within the target exactly when it was before, and then it was not clipped. -/
theorem saturateI16_spec (v : Int) :
    ((-limitTarget ≤ (saturateI16 v).1.toInt ∧ (saturateI16 v).1.toInt ≤ limitTarget) ↔
      (-limitTarget ≤ v ∧ v ≤ limitTarget)) ∧
    (-limitTarget ≤ v ∧ v ≤ limitTarget → (saturateI16 v).2 = false) := by
  unfold saturateI16 limitTarget
  split
  · have h1 : (BitVec.ofInt 16 32767).toInt = 32767 := by decide
    rw [h1]
    refine ⟨?_, fun h => ?_⟩
    · constructor <;> intro h <;> omega
    · omega
  · split
    · have h1 : (BitVec.ofInt 16 (-32768)).toInt = -32768 := by decide
      rw [h1]
      refine ⟨?_, fun h => ?_⟩
      · constructor <;> intro h <;> omega
      · omega
    · have h1 : (BitVec.ofInt 16 v).toInt = v := by
        rw [BitVec.toInt_ofInt]
        exact Int.bmod_eq_of_le (by omega) (by omega)
      rw [h1]
      exact ⟨Iff.rfl, fun _ => rfl⟩

/-- What a gain makes of a sum: the two peaks decide. -/
theorem output_limited_iff (sum : Fin frameSamples → Int) (gain : U16) :
    (∀ sample, -limitTarget ≤ FixedPoint.scale 15 (sum sample) gain.toNat ∧
      FixedPoint.scale 15 (sum sample) gain.toNat ≤ limitTarget) ↔
    positivePeak sum * gain.toNat < (limitTarget + 1) * 2 ^ 15 ∧ negativePeak sum * gain.toNat ≤ limitTarget * 2 ^ 15 := by
  have hg : (0 : Int) ≤ gain.toNat := Int.natCast_nonneg _
  have hpos : positivePeak sum * gain.toNat < (limitTarget + 1) * 2 ^ 15 ↔
      ∀ sample ∈ List.finRange frameSamples, sum sample * gain.toNat < (limitTarget + 1) * 2 ^ 15 :=
    FixedPoint.largest_forall (P := fun x => x * gain.toNat < (limitTarget + 1) * 2 ^ 15)
      (by unfold limitTarget; omega)
      (fun x y hxy hy => Int.lt_of_le_of_lt (Int.mul_le_mul_of_nonneg_right hxy hg) hy)
  have hneg : negativePeak sum * gain.toNat ≤ limitTarget * 2 ^ 15 ↔
      ∀ sample ∈ List.finRange frameSamples, -sum sample * gain.toNat ≤ limitTarget * 2 ^ 15 :=
    FixedPoint.largest_forall (P := fun x => x * gain.toNat ≤ limitTarget * 2 ^ 15)
      (by unfold limitTarget; omega)
      (fun x y hxy hy => Int.le_trans (Int.mul_le_mul_of_nonneg_right hxy hg) hy)
  rw [hpos, hneg]
  constructor
  · intro h
    refine ⟨fun sample _ => FixedPoint.scale_le_iff.1 (h sample).2, fun sample _ => ?_⟩
    have hlo := FixedPoint.le_scale_iff.1 (h sample).1
    rw [Int.neg_mul] at hlo ⊢
    omega
  · rintro ⟨h1, h2⟩ sample
    refine ⟨FixedPoint.le_scale_iff.2 ?_, FixedPoint.scale_le_iff.2 (h1 sample (List.mem_finRange sample))⟩
    have hlo := h2 sample (List.mem_finRange sample)
    rw [Int.neg_mul] at hlo ⊢
    omega

/-- The attack always brings a block within the target. -/
theorem attack_limited {sum : Fin frameSamples → Int} (h : requestedGain (peak sum) ≠ q15Unity)
    (sample : Fin frameSamples) :
    -limitTarget ≤ FixedPoint.scale 15 (sum sample) (requestedGain (peak sum)).toNat ∧
      FixedPoint.scale 15 (sum sample) (requestedGain (peak sum)).toNat ≤ limitTarget := by
  obtain ⟨hloud, hfits⟩ := (requestedGain_spec (peak sum)).2 h
  obtain ⟨hlo, hhi⟩ := abs_le_peak sum sample
  have hg : (0 : Int) ≤ (requestedGain (peak sum)).toNat := Int.natCast_nonneg _
  have hup := Int.mul_le_mul_of_nonneg_right hhi hg
  have hdown := Int.mul_le_mul_of_nonneg_right hlo hg
  rw [Int.neg_mul] at hdown
  constructor
  · rw [FixedPoint.le_scale_iff, Int.neg_mul]
    omega
  · rw [FixedPoint.scale_le_iff]
    unfold limitTarget at hfits ⊢
    omega

/-- A block of which no source is valid sums to nothing. -/
theorem accumulation_silent {m : AudioMixer} {sources : Fin remoteSources → Block} {mask : U8}
    (h : ∀ source, sourceValid mask source = false) (sample : Fin frameSamples) :
    m.accumulation sources mask sample = 0 := by
  have hfold : ∀ (l : List (Fin remoteSources)) (sum : Int), l.foldl (m.addSource sources mask sample) sum = sum := by
    intro l
    induction l with
    | nil => intro sum; rfl
    | cons source l ih =>
      intro sum
      rw [List.foldl_cons, ih, addSource, h source]
      rfl
  exact hfold _ 0

/-- **What a block needs to come out within the target.** -/
theorem process_limited_iff {m : AudioMixer} (hm : Inv m) (sources : Fin remoteSources → Block) (mask : U8) :
    Limited m sources mask ↔ Headroom m sources mask := by
  unfold Limited Headroom process
  by_cases hsilent : ∀ source, sourceValid mask source = false
  · -- a silent block comes out as zeros
    rw [if_pos hsilent]
    have hsum : m.accumulation sources mask = fun _ => 0 := funext (accumulation_silent hsilent)
    have hquiet : -limitTarget ≤ (0 : BitVec 16).toInt ∧ (0 : BitVec 16).toInt ≤ limitTarget := by decide
    refine iff_of_true ⟨fun _ => hquiet, rfl⟩ (.inr ?_)
    refine (output_limited_iff _ _).1 fun sample => ?_
    have hzero : FixedPoint.scale 15 0 (releasedGain m.limiterGainQ15).toNat = 0 := by
      simp [FixedPoint.scale]
    rw [hsum, hzero]
    decide
  · rw [if_neg hsilent]
    dsimp only
    generalize hsum : m.accumulation sources mask = sum
    have hcount : (∀ sample, -limitTarget ≤ FixedPoint.scale 15 (sum sample) (m.limiterGain (peak sum)).toNat ∧
        FixedPoint.scale 15 (sum sample) (m.limiterGain (peak sum)).toNat ≤ limitTarget) →
        (List.finRange frameSamples).countP (fun sample => (output sum (m.limiterGain (peak sum)) sample).2) = 0 := by
      intro h
      rw [List.countP_eq_zero]
      intro sample _
      have := (saturateI16_spec _).2 (h sample)
      unfold output
      rw [this]
      decide
    have hwithin : ((∀ sample, -limitTarget ≤ (output sum (m.limiterGain (peak sum)) sample).1.toInt ∧
        (output sum (m.limiterGain (peak sum)) sample).1.toInt ≤ limitTarget) ↔
        ∀ sample, -limitTarget ≤ FixedPoint.scale 15 (sum sample) (m.limiterGain (peak sum)).toNat ∧
          FixedPoint.scale 15 (sum sample) (m.limiterGain (peak sum)).toNat ≤ limitTarget) :=
      forall_congr' fun sample => (saturateI16_spec _).1
    rw [hwithin]
    by_cases hattack : requestedGain (peak sum) < m.limiterGainQ15
    · have hgain : m.limiterGain (peak sum) = requestedGain (peak sum) := if_pos hattack
      have hne : requestedGain (peak sum) ≠ q15Unity := by
        intro he
        have h1 := hm.limiter
        have h2 : q15Unity.toNat = 2 ^ 15 := rfl
        rw [he, BitVec.lt_def, h2] at hattack
        omega
      have hall := attack_limited hne
      rw [← hgain] at hall
      exact iff_of_true ⟨hall, by rw [hcount hall]; simp⟩ (.inl hattack)
    · have hgain : m.limiterGain (peak sum) = releasedGain m.limiterGainQ15 := if_neg hattack
      constructor
      · rintro ⟨hall, -⟩
        rw [hgain] at hall
        exact .inr ((output_limited_iff sum _).1 hall)
      · rintro (h | h)
        · exact absurd h hattack
        · have hall := (output_limited_iff sum _).2 h
          rw [← hgain] at hall
          exact ⟨hall, by rw [hcount hall]; simp⟩

/-! ## Runs -/

/-- A call of the mixer. -/
inductive MixerInput where
  | setSourceGain (sourceIndex : U8) (gainQ15 : U16)
  | process (sources : Fin remoteSources → Block) (mask : U8)

def step (m : AudioMixer) : MixerInput → AudioMixer
  | .setSourceGain sourceIndex gainQ15 => (m.setSourceGain sourceIndex gainQ15).1
  | .process sources mask => (m.process sources mask).1

/-- A call that is a block yields a limited block. -/
def StepLimited (m : AudioMixer) : MixerInput → Prop
  | .setSourceGain _ _ => True
  | .process sources mask => Limited m sources mask

/-- A call that is a block has headroom. -/
def StepHeadroom (m : AudioMixer) : MixerInput → Prop
  | .setSourceGain _ _ => True
  | .process sources mask => Headroom m sources mask

theorem init_inv : Inv init := by
  have hdefault : defaultSourceGainQ15.toNat ≤ 2 ^ 15 := by decide
  exact ⟨fun _ => hdefault, by decide⟩

theorem step_inv {m : AudioMixer} (hm : Inv m) : ∀ i : MixerInput, Inv (m.step i)
  | .setSourceGain sourceIndex gainQ15 => setSourceGain_inv hm sourceIndex gainQ15
  | .process sources mask => process_inv hm sources mask

theorem step_limited_iff {m : AudioMixer} (hm : Inv m) : ∀ i : MixerInput, StepLimited m i ↔ StepHeadroom m i
  | .setSourceGain _ _ => Iff.rfl
  | .process sources mask => process_limited_iff hm sources mask

theorem step_clippedSamples {m : AudioMixer} : ∀ {i : MixerInput}, StepLimited m i →
    (m.step i).clippedSamples = m.clippedSamples
  | .setSourceGain sourceIndex gainQ15, _ => by
    unfold step setSourceGain
    dsimp only
    split <;> rfl
  | .process _ _, h => h.2

/-- **Main result.** A run yields only limited blocks and clips nothing exactly when each of its blocks has
headroom. -/
theorem run_limited_iff (is : List MixerInput) :
    (Run.Along step StepLimited init is ∧ (is.foldl step init).clippedSamples = 0) ↔
      Run.Along step StepHeadroom init is := by
  constructor
  · rintro ⟨h, -⟩
    exact Run.along_of_inv (P := Inv) (fun m i hm _ => step_inv hm i) (fun m i hm hl => (step_limited_iff hm i).1 hl)
      init_inv h
  · intro h
    have hlimited : Run.Along step StepLimited init is :=
      Run.along_of_inv (P := Inv) (fun m i hm _ => step_inv hm i) (fun m i hm hh => (step_limited_iff hm i).2 hh)
        init_inv h
    refine ⟨hlimited, ?_⟩
    exact Run.inv_along (P := fun m => m.clippedSamples = 0)
      (fun m i hm hl => (step_clippedSamples hl).trans hm) init is rfl hlimited

/-- Five talkers at full scale for one block. -/
def loudBlock : MixerInput := .process (fun _ _ => BitVec.ofInt 16 32767) 0x1f

/-- The second of two loud blocks is released above what it asks for, and clipped. -/
theorem second_loud_block_clips :
    ¬ ∀ is : List MixerInput, Run.Along step StepLimited init is ∧ (is.foldl step init).clippedSamples = 0 := by
  intro h
  have hclipped : ([loudBlock, loudBlock].foldl step init).clippedSamples = 160 := by decide +kernel
  exact absurd (hclipped.symm.trans (h [loudBlock, loudBlock]).2) (by decide)

end AudioMixer

end OpenRef.Audio
