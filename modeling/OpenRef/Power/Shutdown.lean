import OpenRef.Power.Warnings
/-!
# Battery shutdown (openref_power_supervisor.c:38-106)

The critical timer is started by the first sample of a stay in the critical band, kept by every
further one and dropped by the first sample outside it; whether a sample is in the band depends
on the one before through the hysteresis.

`InBand` and `CriticalFor` say this of the samples alone. `Watching` links them to the timer.
`shutdown_exact`: while the pack stays in and time does not go back, the first shutdown request
comes with the first sample that is unsafe or has been in the band for the grace time, and from a
request on every update mutes and requests shutdown until the pack is out.
-/

namespace OpenRef.Power

/-- The samples ended in the critical band: one was at or below the threshold, and none since has reached
the exit. -/
def InBand (config : PowerConfig) : List PowerSample → Prop :=
  Run.Since (fun _ t => t.estimatedRuntimeMinutes.toNat ≤ config.criticalRuntimeMinutes.toNat)
    fun _ t => t.estimatedRuntimeMinutes.toNat <
      config.criticalRuntimeMinutes.toNat + config.runtimeHysteresisMinutes.toNat

/-- A stay in the band began with this sample, at a time that meets `P`. -/
def BandEntered (config : PowerConfig) (P : U64 → Prop) (past : List PowerSample) (t : PowerSample) : Prop :=
  ¬ InBand config past ∧ InBand config (past ++ [t]) ∧ P t.timestampMs

/-- The stay in the band that has not ended began at a time that meets `P`. -/
def BandSince (config : PowerConfig) (P : U64 → Prop) : List PowerSample → Prop :=
  Run.Since (BandEntered config P) fun past t => InBand config (past ++ [t])

/-- The sample is in the band at least the grace time after the first of its stay. -/
def CriticalFor (config : PowerConfig) (past : List PowerSample) (t : PowerSample) : Prop :=
  BandSince config (fun since => since.toNat + config.criticalGraceMs.toNat ≤ t.timestampMs.toNat) (past ++ [t])

/-- The sample calls for a shutdown. -/
def ShutdownDue (config : PowerConfig) (past : List PowerSample) (t : PowerSample) : Prop :=
  Unsafe config t ∨ CriticalFor config past t

/-- The update requests a shutdown. -/
def RequestsShutdown (s₀ : PowerSupervisor) (past : List PowerSample) (t : PowerSample) : Prop :=
  actionsAt s₀ past t &&& powerActionRequestShutdown ≠ 0

/-! ## The band -/

theorem inBand_concat {config : PowerConfig} {past : List PowerSample} {t : PowerSample} :
    InBand config (past ++ [t]) ↔
      t.estimatedRuntimeMinutes.toNat ≤ config.criticalRuntimeMinutes.toNat ∨
        (InBand config past ∧ t.estimatedRuntimeMinutes.toNat <
          config.criticalRuntimeMinutes.toNat + config.runtimeHysteresisMinutes.toNat) :=
  Run.since_concat

/-- A stay that has not ended ends in the band. -/
theorem BandSince.inBand {config : PowerConfig} {P : U64 → Prop} {past : List PowerSample}
    (h : BandSince config P past) : InBand config past := by
  cases h with
  | here hentered => exact hentered.2.1
  | later _ hin => exact hin

/-- A stay goes on with a sample in the band. -/
theorem bandSince_concat_of_inBand {config : PowerConfig} {P : U64 → Prop} {past : List PowerSample} {t : PowerSample}
    (hpast : InBand config past) :
    BandSince config P (past ++ [t]) ↔ BandSince config P past ∧ InBand config (past ++ [t]) := by
  unfold BandSince
  rw [Run.since_concat]
  exact ⟨fun h => h.resolve_left fun hentered => hentered.1 hpast, .inr⟩

/-- A stay begins with a sample in the band that comes after one outside it. -/
theorem bandSince_concat_of_not_inBand {config : PowerConfig} {P : U64 → Prop} {past : List PowerSample}
    {t : PowerSample} (hpast : ¬ InBand config past) :
    BandSince config P (past ++ [t]) ↔ InBand config (past ++ [t]) ∧ P t.timestampMs := by
  unfold BandSince
  rw [Run.since_concat]
  constructor
  · rintro (⟨-, hin, hP⟩ | ⟨hsince, -⟩)
    · exact ⟨hin, hP⟩
    · exact absurd (BandSince.inBand hsince) hpast
  · exact fun h => .inl ⟨hpast, h.1, h.2⟩

/-- A stay begins once: two descriptions of its beginning are about one time. -/
theorem BandSince.eq {config : PowerConfig} {since : U64} {P : U64 → Prop} {past : List PowerSample}
    (h : BandSince config (· = since) past) : BandSince config P past ↔ P since := by
  induction h with
  | here hentered =>
    obtain ⟨hnot, hin, rfl⟩ := hentered
    rw [bandSince_concat_of_not_inBand hnot]
    exact and_iff_right hin
  | later hsince hin ih => rw [bandSince_concat_of_inBand (BandSince.inBand hsince), ih, and_iff_left hin]

/-- It began with one of the samples. -/
theorem BandSince.mem {config : PowerConfig} {since : U64} {past : List PowerSample}
    (h : BandSince config (· = since) past) : ∃ u ∈ past, u.timestampMs = since := by
  obtain ⟨earlier, u, later, rfl, hentered, -⟩ := Run.Since.split h
  exact ⟨u, by simp, hentered.2.2⟩

/-! ## The timer -/

/-- **Invariant.** Without a shutdown so far, state and timer hold the stay in the critical band. -/
structure Watching (config : PowerConfig) (past : List PowerSample) (s : PowerSupervisor) : Prop where
  sameConfig : s.config = config
  latch : s.shutdownLatched = false
  state : s.state = .critical ↔ InBand config past
  timer : s.criticalTimerActive = true ↔ InBand config past
  since : InBand config past → BandSince config (· = s.criticalSinceMs) past

section Step

variable {config : PowerConfig} {past : List PowerSample} {s : PowerSupervisor} {t : PowerSample}

/-- The supervisor's test of the band is the band. -/
theorem Watching.critical (h : Watching config past s)
    (hexit : config.criticalExit.toNat = config.criticalRuntimeMinutes.toNat + config.runtimeHysteresisMinutes.toNat) :
    s.critical t = true ↔ InBand config (past ++ [t]) := by
  unfold PowerSupervisor.critical
  rw [inBand_concat, ← h.state, ← hexit, h.sameConfig]
  simp only [Bool.or_eq_true, Bool.and_eq_true, decide_eq_true_eq, BitVec.lt_def, BitVec.le_def]

/-- The timer of a critical sample counts from the first of its stay. -/
theorem Watching.timerStart (h : Watching config past s) (hin : InBand config (past ++ [t])) :
    BandSince config (· = s.timerStart t) (past ++ [t]) := by
  unfold PowerSupervisor.timerStart
  by_cases hpast : InBand config past
  · rw [if_pos (h.timer.2 hpast), bandSince_concat_of_inBand hpast]
    exact ⟨h.since hpast, hin⟩
  · rw [if_neg fun htimer => hpast (h.timer.1 htimer), bandSince_concat_of_not_inBand hpast]
    exact ⟨hin, rfl⟩

/-- The grace time has passed for the timer when it has for the stay. -/
theorem Watching.criticalFor (h : Watching config past s) (hin : InBand config (past ++ [t]))
    (htime : (past ++ [t]).Pairwise fun u v => u.timestampMs ≤ v.timestampMs) :
    s.config.criticalGraceMs.setWidth 64 ≤ t.timestampMs - s.timerStart t ↔ CriticalFor config past t := by
  have hsince := h.timerStart hin
  have hle : s.timerStart t ≤ t.timestampMs := by
    obtain ⟨u, hu, hstart⟩ := hsince.mem
    rw [← hstart]
    rcases List.mem_append.1 hu with hu | hu
    · exact (List.pairwise_append.1 htime).2.2 u hu t (List.mem_singleton_self t)
    · rw [List.mem_singleton.1 hu]
      exact BitVec.le_refl _
  have hnat := BitVec.le_def.1 hle
  unfold CriticalFor
  rw [hsince.eq, h.sameConfig, BitVec.le_def, toNat_setWidth_64, BitVec.toNat_sub_of_le hle]
  omega

/-- After a safe sample outside the band nothing is due, and the timer is off. -/
theorem Watching.outside (h : Watching config past s) (hsafe : ¬ Unsafe s.config t)
    (hout : ¬ InBand config (past ++ [t])) (hlatch : (s.next t).shutdownLatched = false)
    (hstate : (s.next t).state ≠ .critical) (htimer : (s.next t).criticalTimerActive = false)
    (hact : s.actions t &&& powerActionRequestShutdown = 0) :
    (s.actions t &&& powerActionRequestShutdown ≠ 0 ↔ ShutdownDue config past t) ∧
      (¬ ShutdownDue config past t → Watching config (past ++ [t]) (s.next t)) := by
  have hnot : ¬ ShutdownDue config past t := by
    rintro (hdanger | hfor)
    · exact hsafe (h.sameConfig.symm ▸ hdanger)
    · exact hout (BandSince.inBand hfor)
  have hoff : (s.next t).criticalTimerActive ≠ true := by simp [htimer]
  refine ⟨iff_of_false (not_not.2 hact) hnot, fun _ => ⟨?_, hlatch, iff_of_false hstate hout,
    iff_of_false hoff hout, fun hin => absurd hin hout⟩⟩
  rw [PowerSupervisor.next_config, h.sameConfig]

/-- **Step.** While it watches, an update requests a shutdown exactly when one is due, and goes on watching
when none is. -/
theorem Watching.step (h : Watching config past s)
    (hexit : config.criticalExit.toNat = config.criticalRuntimeMinutes.toNat + config.runtimeHysteresisMinutes.toNat)
    (hpack : t.packPresent = true)
    (htime : (past ++ [t]).Pairwise fun u v => u.timestampMs ≤ v.timestampMs) :
    (s.actions t &&& powerActionRequestShutdown ≠ 0 ↔ ShutdownDue config past t) ∧
      (¬ ShutdownDue config past t → Watching config (past ++ [t]) (s.next t)) := by
  have hcritical := h.critical (t := t) hexit
  cases PowerSupervisor.update_cases s t with
  | absent habsent =>
    rw [hpack] at habsent
    cases habsent
  | latched _ hlatched =>
    rw [h.latch] at hlatched
    cases hlatched
  | failed _ _ hdanger _ _ hact =>
    have hdue : ShutdownDue config past t := .inl (h.sameConfig ▸ hdanger)
    rw [hact]
    exact ⟨iff_of_true (by decide) hdue, fun hnot => absurd hdue hnot⟩
  | expired _ _ _ hc hgrace _ _ hact =>
    have hdue : ShutdownDue config past t := .inr ((h.criticalFor (hcritical.1 hc) htime).1 hgrace)
    rw [hact]
    exact ⟨iff_of_true (by decide) hdue, fun hnot => absurd hdue hnot⟩
  | critical _ _ hsafe hc hgrace hlatch hstate htimer hsince hact =>
    have hin := hcritical.1 hc
    have hnot : ¬ ShutdownDue config past t := by
      rintro (hdanger | hfor)
      · exact hsafe (h.sameConfig.symm ▸ hdanger)
      · exact hgrace ((h.criticalFor hin htime).2 hfor)
    rw [hact]
    refine ⟨iff_of_false (by decide) hnot, fun _ => ⟨?_, hlatch, iff_of_true hstate hin, iff_of_true htimer hin, ?_⟩⟩
    · rw [PowerSupervisor.next_config, h.sameConfig]
    · intro _
      rw [hsince]
      exact h.timerStart hin
  | low _ _ hsafe hc _ hlatch hstate htimer hact =>
    have hout : ¬ InBand config (past ++ [t]) := fun hin => by simp [hcritical.2 hin] at hc
    exact h.outside hsafe hout hlatch (by simp [hstate]) htimer (by rw [hact]; decide)
  | normal _ _ hsafe hc _ hlatch hstate htimer hact =>
    have hout : ¬ InBand config (past ++ [t]) := fun hin => by simp [hcritical.2 hin] at hc
    exact h.outside hsafe hout hlatch (by simp [hstate]) htimer (by rw [hact]; decide)

end Step

/-- It watches from the start, and after a sample without a pack. -/
theorem watching_start {config : PowerConfig} {s₀ : PowerSupervisor} (hinit : PowerSupervisor.init config = some s₀)
    {earlier : List PowerSample} (hout : earlier = [] ∨ ∃ l u, earlier = l ++ [u] ∧ u.packPresent = false) :
    Watching config [] (s₀.run earlier) := by
  obtain ⟨hconfig, hstate, htimer, hlatch, -⟩ := init_spec hinit
  have hnone : ¬ InBand config [] := Run.not_since_nil
  have hrun : (s₀.run earlier).config = config := (PowerSupervisor.run_config s₀ earlier).trans hconfig
  obtain ⟨hs, ht, hl⟩ : (s₀.run earlier).state = .disconnected ∧ (s₀.run earlier).criticalTimerActive = false ∧
      (s₀.run earlier).shutdownLatched = false := by
    rcases hout with rfl | ⟨l, u, rfl, habsent⟩
    · exact ⟨hstate, htimer, hlatch⟩
    · rw [PowerSupervisor.run_concat]
      cases PowerSupervisor.update_cases (s₀.run l) u with
      | absent _ hs ht hl => exact ⟨hs, ht, hl⟩
      | latched hp | failed hp | expired hp | critical hp | low hp | normal hp =>
        rw [habsent] at hp
        cases hp
  exact ⟨hrun, hl, iff_of_false (by simp [hs]) hnone, iff_of_false (by simp [ht]) hnone, fun hin => absurd hin hnone⟩

/-- **Run.** No update of a run has requested a shutdown exactly when none was due, and then it watches. -/
theorem Watching.run {config : PowerConfig} {s₀ : PowerSupervisor} {earlier : List PowerSample}
    (hinit : PowerSupervisor.init config = some s₀) (hstart : Watching config [] (s₀.run earlier))
    {past : List PowerSample} (hpack : ∀ u ∈ past, u.packPresent = true)
    (htime : past.Pairwise fun u v => u.timestampMs ≤ v.timestampMs) :
    (Run.Each (fun l u => ¬ RequestsShutdown s₀ (earlier ++ l) u) past ↔
        Run.Each (fun l u => ¬ ShutdownDue config l u) past) ∧
      (Run.Each (fun l u => ¬ ShutdownDue config l u) past → Watching config past (s₀.run (earlier ++ past))) := by
  obtain ⟨-, -, -, -, -, -, -, hexit⟩ := init_spec hinit
  induction past using List.reverseRecOn with
  | nil => exact ⟨iff_of_true Run.each_nil Run.each_nil, fun _ => by rwa [List.append_nil]⟩
  | append_singleton past t ih =>
    obtain ⟨hsame, hwatch⟩ := ih (fun u hu => hpack u (List.mem_append_left _ hu)) (List.pairwise_append.1 htime).1
    have hpresent := hpack t (List.mem_append_right _ (List.mem_singleton_self t))
    rw [Run.each_concat, Run.each_concat, ← List.append_assoc, PowerSupervisor.run_concat]
    constructor
    · rw [hsame]
      refine and_congr_right fun hnone => not_congr ?_
      exact ((hwatch hnone).step hexit hpresent htime).1
    · rintro ⟨hnone, hnot⟩
      exact ((hwatch hnone).step hexit hpresent htime).2 hnot

/-- A request with the pack in sets the latch. -/
theorem latched_of_requests {s : PowerSupervisor} {t : PowerSample} (hpack : t.packPresent = true)
    (h : s.actions t &&& powerActionRequestShutdown ≠ 0) : (s.next t).shutdownLatched = true := by
  cases PowerSupervisor.update_cases s t with
  | absent habsent =>
    rw [hpack] at habsent
    cases habsent
  | latched _ _ _ hl _ => exact hl
  | failed _ _ _ _ hl _ => exact hl
  | expired _ _ _ _ _ _ hl _ => exact hl
  | critical | low | normal =>
    next hact =>
    rw [hact] at h
    exact absurd h (by decide)

/-- The latch answers every sample of a pack that stays in. -/
theorem latched_step {s : PowerSupervisor} {t : PowerSample} (hpack : t.packPresent = true)
    (h : s.shutdownLatched = true) :
    (s.next t).shutdownLatched = true ∧ s.actions t = PowerSupervisor.muteAndShutdown := by
  cases PowerSupervisor.update_cases s t with
  | absent habsent =>
    rw [hpack] at habsent
    cases habsent
  | latched _ _ _ hl hact => exact ⟨hl, hact⟩
  | failed _ hopen | expired _ hopen | critical _ hopen | low _ hopen | normal _ hopen =>
    rw [h] at hopen
    cases hopen

/-- A request is made with the audio muted. -/
theorem requests_and_mutes {s : PowerSupervisor} {t : PowerSample}
    (h : s.actions t &&& powerActionRequestShutdown ≠ 0) :
    s.actions t &&& PowerSupervisor.muteAndShutdown = PowerSupervisor.muteAndShutdown := by
  cases PowerSupervisor.update_cases s t with
  | absent | latched | failed | expired =>
    next hact =>
    rw [hact]
    decide
  | critical | low | normal =>
    next hact =>
    rw [hact] at h
    exact absurd h (by decide)

/-- From a request on, every update mutes and requests shutdown while the pack stays in. -/
theorem mutes_since {s₀ : PowerSupervisor} {past : List PowerSample} {t : PowerSample}
    (h : Run.Since (fun l u => u.packPresent = true ∧ RequestsShutdown s₀ l u) (fun _ u => u.packPresent = true)
      (past ++ [t])) :
    actionsAt s₀ past t &&& PowerSupervisor.muteAndShutdown = PowerSupervisor.muteAndShutdown := by
  have hlatched : ∀ {l : List PowerSample},
      Run.Since (fun l u => u.packPresent = true ∧ RequestsShutdown s₀ l u) (fun _ u => u.packPresent = true) l →
        (s₀.run l).shutdownLatched = true := by
    intro l hl
    induction hl with
    | here he =>
      rw [PowerSupervisor.run_concat]
      exact latched_of_requests he.1 he.2
    | later _ hpack ih =>
      rw [PowerSupervisor.run_concat]
      exact (latched_step hpack ih).1
  rcases Run.since_concat.1 h with ⟨-, hrequest⟩ | ⟨hsince, hpack⟩
  · exact requests_and_mutes hrequest
  · have hact : actionsAt s₀ past t = PowerSupervisor.muteAndShutdown := (latched_step hpack (hlatched hsince)).2
    rw [hact]
    decide

/-! ## The run -/

/-- **Shutdown is exact and latched.** For every accepted configuration, after any samples that are none or
end without a pack, and every run of samples with the pack in and times that do not go back: at each sample
the first shutdown request of the run is made exactly when it is the first sample at which a shutdown is due;
and from a request on, at whatever times, every update mutes and requests shutdown until a sample without a
pack. -/
theorem shutdown_exact (config : PowerConfig) (s₀ : PowerSupervisor) (earlier samples : List PowerSample)
    (hinit : PowerSupervisor.init config = some s₀)
    (hout : earlier = [] ∨ ∃ l u, earlier = l ++ [u] ∧ u.packPresent = false)
    (hpack : ∀ u ∈ samples, u.packPresent = true)
    (htime : samples.Pairwise fun u v => u.timestampMs ≤ v.timestampMs) :
    Run.Each (fun past t =>
      (RequestsShutdown s₀ (earlier ++ past) t ∧ Run.Each (fun l u => ¬ RequestsShutdown s₀ (earlier ++ l) u) past ↔
        ShutdownDue config past t ∧ Run.Each (fun l u => ¬ ShutdownDue config l u) past)) samples ∧
    ∀ past t, Run.Since (fun l u => u.packPresent = true ∧ RequestsShutdown s₀ l u) (fun _ u => u.packPresent = true)
        (past ++ [t]) →
      actionsAt s₀ past t &&& PowerSupervisor.muteAndShutdown = PowerSupervisor.muteAndShutdown := by
  refine ⟨?_, fun past t h => mutes_since h⟩
  obtain ⟨-, -, -, -, -, -, -, hexit⟩ := init_spec hinit
  have hstart := watching_start hinit hout
  rintro past t later rfl
  have htime' : (past ++ [t]).Pairwise fun u v => u.timestampMs ≤ v.timestampMs := by
    rw [← List.singleton_append, ← List.append_assoc] at htime
    exact (List.pairwise_append.1 htime).1
  have hpast : ∀ u ∈ past, u.packPresent = true := fun u hu => hpack u (List.mem_append_left _ hu)
  have hpresent := hpack t (List.mem_append_right _ List.mem_cons_self)
  obtain ⟨hsame, hwatch⟩ := hstart.run hinit hpast (List.pairwise_append.1 htime').1
  rw [hsame]
  refine and_congr_left fun hnone => ?_
  exact ((hwatch hnone).step hexit hpresent htime').1

/-- A pack that stays at 10 minutes: the request comes with the sample ten minutes after the first. -/
theorem shutdown_exact_grace :
    RequestsShutdown packSupervisor [packSample 10 10000, packSample 10 609999] (packSample 10 610000) ∧
      ShutdownDue packLimits [packSample 10 10000, packSample 10 609999] (packSample 10 610000) := by
  have hrequest : RequestsShutdown packSupervisor [packSample 10 10000, packSample 10 609999]
      (packSample 10 610000) := by
    unfold RequestsShutdown
    decide
  have hfirst : Run.Each (fun l u => ¬ RequestsShutdown packSupervisor ([] ++ l) u)
      [packSample 10 10000, packSample 10 609999] := by
    refine Run.Each.concat (l := [packSample 10 10000]) (Run.Each.concat (l := []) Run.each_nil ?_) ?_ <;>
    · unfold RequestsShutdown
      decide
  have hexact := (shutdown_exact packLimits packSupervisor []
    [packSample 10 10000, packSample 10 609999, packSample 10 610000] rfl (.inl rfl) (by decide) (by decide)).1
  exact ⟨hrequest, ((hexact [packSample 10 10000, packSample 10 609999] _ [] rfl).1 ⟨hrequest, hfirst⟩).1⟩

end OpenRef.Power
