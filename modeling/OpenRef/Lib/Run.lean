import Mathlib.Tactic.Common
/-!
# Runs of a step function

A deterministic machine is a step function `step : σ → ι → σ`; a run is a list
of inputs and its final state is `is.foldl step s`. `Along step C s is` says
that the condition `C` holds of every input of the run at the state the input
meets. The rules below are the inductions a safety argument uses: an invariant
that every step keeps, an invariant that the steps meeting a condition keep,
and the splitting of a run at an input. `cost` adds up what the steps cost, `answers` lists
what they answer, and `answers_refine` compares two machines. `Since E D past` looks back: an
input met `E` and every later one `D`. `Climbed E D ks past` is its version for a list of stages.
-/

namespace Run

variable {σ ι : Type*} {step : σ → ι → σ}

/-- `C` holds of each input at the state in which the run meets it. -/
def Along (step : σ → ι → σ) (C : σ → ι → Prop) : σ → List ι → Prop
  | _, [] => True
  | s, i :: is => C s i ∧ Along step C (step s i) is

@[simp] theorem along_nil {C : σ → ι → Prop} {s : σ} : Along step C s [] := trivial

@[simp] theorem along_cons {C : σ → ι → Prop} {s : σ} {i : ι} {is : List ι} :
    Along step C s (i :: is) ↔ C s i ∧ Along step C (step s i) is := Iff.rfl

instance decidableAlong {C : σ → ι → Prop} [∀ s i, Decidable (C s i)] :
    ∀ (s : σ) (is : List ι), Decidable (Along step C s is)
  | _, [] => .isTrue trivial
  | s, i :: is =>
    have : Decidable (Along step C (step s i) is) := decidableAlong (step s i) is
    inferInstanceAs (Decidable (C s i ∧ Along step C (step s i) is))

theorem along_append {C : σ → ι → Prop} :
    ∀ {s : σ} {is js : List ι}, Along step C s (is ++ js) ↔
      Along step C s is ∧ Along step C (is.foldl step s) js
  | _, [], _ => by simp
  | s, i :: is, js => by
    simp only [List.cons_append, along_cons, List.foldl_cons, and_assoc]
    rw [along_append]

theorem along_of_forall {C : σ → ι → Prop} (h : ∀ s i, C s i) : ∀ {s : σ} {is : List ι}, Along step C s is
  | _, [] => trivial
  | s, i :: _ => ⟨h s i, along_of_forall h⟩

theorem along_iff_forall {D : ι → Prop} : ∀ {s : σ} {is : List ι}, Along step (fun _ i => D i) s is ↔ ∀ i ∈ is, D i
  | _, [] => by simp
  | s, i :: is => by
    rw [along_cons, along_iff_forall, List.forall_mem_cons]

/-- A run that fails the condition somewhere. -/
theorem exists_of_not_along {C : σ → ι → Prop} :
    ∀ {s : σ} {is : List ι}, ¬ Along step C s is → ∃ past i rest, is = past ++ i :: rest ∧ ¬ C (past.foldl step s) i
  | _, [], h => absurd trivial h
  | s, i :: is, h => by
    by_cases hc : C s i
    · obtain ⟨past, j, rest, rfl, hj⟩ := exists_of_not_along fun ha : Along step C (step s i) is => h ⟨hc, ha⟩
      exact ⟨i :: past, j, rest, rfl, hj⟩
    · exact ⟨[], i, is, rfl, hc⟩

theorem along_and {C D : σ → ι → Prop} :
    ∀ {s : σ} {is : List ι}, Along step (fun s i => C s i ∧ D s i) s is ↔
      Along step C s is ∧ Along step D s is
  | _, [] => by simp
  | s, i :: is => by
    rw [along_cons, along_cons, along_cons, along_and]
    exact and_and_and_comm

/-- A condition is met along a run as soon as it is met at every state an invariant admits. -/
theorem along_of_inv {C D : σ → ι → Prop} {P : σ → Prop} (hs : ∀ s i, P s → D s i → P (step s i))
    (hC : ∀ s i, P s → D s i → C s i) :
    ∀ {s : σ} {is : List ι}, P s → Along step D s is → Along step C s is
  | _, [], _, _ => trivial
  | _, _ :: _, hp, ha => ⟨hC _ _ hp ha.1, along_of_inv hs hC (hs _ _ hp ha.1) ha.2⟩

/-- Two conditions that agree at every state an invariant admits are met along the same runs. -/
theorem along_congr {C D : σ → ι → Prop} {P : σ → Prop} (hs : ∀ s i, P s → P (step s i))
    (hCD : ∀ s i, P s → (C s i ↔ D s i)) {s : σ} {is : List ι} (hp : P s) : Along step C s is ↔ Along step D s is :=
  ⟨along_of_inv (fun s i h _ => hs s i h) (fun s i h => (hCD s i h).1) hp,
    along_of_inv (fun s i h _ => hs s i h) (fun s i h => (hCD s i h).2) hp⟩

/-- **Invariant rule.** What holds at the start and is kept by every step that meets `C`
holds at the end of a run whose steps all meet `C`. -/
theorem inv_along {C : σ → ι → Prop} {P : σ → Prop} (hs : ∀ s i, P s → C s i → P (step s i)) :
    ∀ (s : σ) (is : List ι), P s → Along step C s is → P (is.foldl step s)
  | _, [], hp, _ => hp
  | s, i :: is, hp, ha => inv_along hs (step s i) is (hs s i hp ha.1) ha.2

/-- The invariant rule for a property of the inputs so far and the state they led to. -/
theorem inv_past {C : σ → ι → Prop} {P : List ι → σ → Prop}
    (hs : ∀ past s i, P past s → C s i → P (past ++ [i]) (step s i)) :
    ∀ (past : List ι) (s : σ) (is : List ι), P past s → Along step C s is → P (past ++ is) (is.foldl step s)
  | past, _, [], hp, _ => by rwa [List.append_nil]
  | past, s, i :: is, hp, ha => by
    have h := inv_past hs (past ++ [i]) (step s i) is (hs past s i hp ha.1) ha.2
    rwa [List.append_assoc] at h

/-- The invariant rule for a property every step keeps. -/
theorem inv_run {P : σ → Prop} (hs : ∀ s i, P s → P (step s i)) {s : σ} (hp : P s) :
    ∀ is : List ι, P (is.foldl step s)
  | [] => hp
  | i :: is => inv_run hs (hs s i hp) is

/-- **Projection.** A part of the state that an input either steps on its own or leaves alone is, after a run, where
its own inputs alone lead it. `P` is an invariant of the whole. -/
theorem view_run {τ κ : Type*} {view : σ → τ} {pick : ι → Option κ} {part : τ → κ → τ} {P : σ → Prop}
    (hs : ∀ s i, P s → P (step s i))
    (hview : ∀ s i, P s → view (step s i) = match pick i with
      | some k => part (view s) k
      | none => view s) :
    ∀ {is : List ι} {s : σ}, P s → view (is.foldl step s) = (is.filterMap pick).foldl part (view s)
  | [], _, _ => rfl
  | i :: is, s, hp => by
    rw [List.foldl_cons, view_run hs hview (hs s i hp), hview s i hp, List.filterMap_cons]
    cases pick i <;> rfl

/-- A row of steps, each of which changes its own part alone, changes every part it names once. -/
theorem view_row {α τ : Type*} [DecidableEq α] {f : σ → α → σ} {view : σ → α → τ} {part : α → τ → τ}
    (hself : ∀ s a, view (f s a) a = part a (view s a)) (hother : ∀ s a b, b ≠ a → view (f s a) b = view s b) :
    ∀ {l : List α} {s : σ}, l.Nodup → ∀ b, view (l.foldl f s) b = if b ∈ l then part b (view s b) else view s b
  | [], _, _, _ => rfl
  | a :: l, s, hl, b => by
    obtain ⟨ha, hl⟩ := List.nodup_cons.1 hl
    rw [List.foldl_cons, view_row hself hother hl]
    by_cases hba : b = a
    · subst hba
      rw [if_neg ha, if_pos List.mem_cons_self, hself]
    · rw [hother s a b hba]
      simp only [List.mem_cons, hba, false_or]

/-- The invariant rule for steps that can fail: it holds at the end of a run in which none did. -/
theorem inv_foldlM {ι : Type*} {f : σ → ι → Option σ} {P : σ → Prop} (hs : ∀ s i s', P s → f s i = some s' → P s') :
    ∀ {is : List ι} {s s' : σ}, P s → is.foldlM f s = some s' → P s'
  | [], s, s', hp, h => by
    rw [List.foldlM_nil] at h
    exact Option.some.inj h ▸ hp
  | i :: is, s, s', hp, h => by
    rw [List.foldlM_cons] at h
    obtain ⟨m, hm, hrun⟩ := Option.bind_eq_some_iff.1 h
    exact inv_foldlM hs (hs s i m hp hm) hrun

/-- **Witness rule.** Where a step that fails `C` leaves a trace `Q` that later steps keep, a run without
the trace met `C` all along. -/
theorem along_of_final {C : σ → ι → Prop} {P Q : σ → Prop} (hP : ∀ s i, P s → P (step s i))
    (hbad : ∀ s i, P s → ¬ C s i → Q (step s i)) (hQ : ∀ s i, P s → Q s → Q (step s i)) :
    ∀ {s : σ} {is : List ι}, P s → ¬ Q (is.foldl step s) → Along step C s is
  | _, [], _, _ => trivial
  | s, i :: is, hp, hq => by
    refine ⟨?_, along_of_final hP hbad hQ (hP s i hp) hq⟩
    by_contra hc
    have hkeep : ∀ t j, P t ∧ Q t → P (step t j) ∧ Q (step t j) := fun t j h => ⟨hP t j h.1, hQ t j h.1 h.2⟩
    exact hq (inv_run hkeep ⟨hP s i hp, hbad s i hp hc⟩ is).2

/-- A run whose states are all `Good` met `C` all along, where a step that fails `C` leaves a state that is not. -/
theorem along_of_prefixes {C D : σ → ι → Prop} {P Good : σ → Prop} (hs : ∀ s i, P s → D s i → C s i → P (step s i))
    (hbad : ∀ s i, P s → D s i → ¬ C s i → ¬ Good (step s i)) :
    ∀ {s : σ} {is : List ι}, P s → Along step D s is →
      (∀ past rest, is = past ++ rest → Good (past.foldl step s)) → Along step C s is
  | _, [], _, _, _ => trivial
  | s, i :: is, hp, hd, hgood => by
    have hc : C s i := by
      by_contra hc
      exact hbad s i hp hd.1 hc (hgood [i] is rfl)
    refine ⟨hc, along_of_prefixes hs hbad (hs s i hp hd.1 hc) hd.2 fun past rest he => ?_⟩
    exact hgood (i :: past) rest (congrArg (i :: ·) he)

/-! ## Costs

Where every step pays for itself out of a potential, a run costs at most what the potential was at its start. -/

/-- What the steps of a run cost together. -/
def cost (step : σ → ι → σ) (c : σ → ι → ℕ) : σ → List ι → ℕ
  | _, [] => 0
  | s, i :: is => c s i + cost step c (step s i) is

/-- **Potential rule.** -/
theorem cost_le {C : σ → ι → Prop} {P : σ → Prop} {c : σ → ι → ℕ} (potential : σ → ℕ)
    (hs : ∀ s i, P s → C s i → P (step s i) ∧ c s i + potential (step s i) ≤ potential s) :
    ∀ {s : σ} {is : List ι}, P s → Along step C s is → cost step c s is + potential (is.foldl step s) ≤ potential s
  | _, [], _, _ => by simp [cost]
  | s, i :: is, hp, ha => by
    obtain ⟨hp', hpaid⟩ := hs s i hp ha.1
    have hrest := cost_le potential hs hp' ha.2
    rw [cost, List.foldl_cons]
    omega

theorem cost_mono {c c' : σ → ι → ℕ} (h : ∀ s i, c s i ≤ c' s i) :
    ∀ {s : σ} {is : List ι}, cost step c s is ≤ cost step c' s is
  | _, [] => Nat.le_refl _
  | s, i :: _ => Nat.add_le_add (h s i) (cost_mono h)

/-! ## Answers

A machine may answer each input. Where a relation between two such machines is kept by every step and the
answers agree, they agree along every run. -/

/-- What the steps of a run answer. -/
def answers {α : Type*} (step : σ → ι → σ × α) : σ → List ι → List α
  | _, [] => []
  | s, i :: is => (step s i).2 :: answers step (step s i).1 is

/-- **Refinement rule.** -/
theorem answers_refine {τ α β : Type*} {step : σ → ι → σ × α} {spec : τ → ι → τ × β} {R : σ → τ → Prop} {f : α → β}
    (hs : ∀ s t i, R s t → R (step s i).1 (spec t i).1 ∧ f (step s i).2 = (spec t i).2) :
    ∀ {s : σ} {t : τ} (is : List ι), R s t → (answers step s is).map f = answers spec t is ∧
      R (is.foldl (fun s i => (step s i).1) s) (is.foldl (fun t i => (spec t i).1) t)
  | _, _, [], hr => ⟨rfl, hr⟩
  | s, t, i :: is, hr => by
    obtain ⟨hnext, hanswer⟩ := hs s t i hr
    obtain ⟨hanswers, hlast⟩ := answers_refine hs is hnext
    refine ⟨?_, hlast⟩
    rw [answers, answers, List.map_cons, hanswer, hanswers]

/-! ## Since

A condition on histories is judged at an input and the inputs before it. -/

/-- An input that met `E` was followed by inputs that all met `D`. -/
inductive Since (E D : List ι → ι → Prop) : List ι → Prop
  | here {past : List ι} {i : ι} : E past i → Since E D (past ++ [i])
  | later {past : List ι} {i : ι} : Since E D past → D past i → Since E D (past ++ [i])

theorem Since.mono {E E' D D' : List ι → ι → Prop} {past : List ι} (h : Since E D past)
    (hE : ∀ past i, E past i → E' past i) (hD : ∀ past i, D past i → D' past i) : Since E' D' past := by
  induction h with
  | here he => exact .here (hE _ _ he)
  | later _ hd ih => exact .later ih (hD _ _ hd)

theorem not_since_nil {E D : List ι → ι → Prop} : ¬ Since E D [] := by
  intro h
  generalize hl : ([] : List ι) = l at h
  cases h with
  | here _ => simp at hl
  | later _ _ => simp at hl

/-- The last input is the one, or keeps what an earlier one began. -/
theorem since_concat {E D : List ι → ι → Prop} {past : List ι} {i : ι} :
    Since E D (past ++ [i]) ↔ E past i ∨ (Since E D past ∧ D past i) := by
  constructor
  · intro h
    generalize hl : past ++ [i] = l at h
    cases h with
    | here he =>
      obtain ⟨rfl, hi⟩ := List.append_inj' hl rfl
      rw [List.cons.injEq] at hi
      exact .inl (hi.1 ▸ he)
    | later hs hd =>
      obtain ⟨rfl, hi⟩ := List.append_inj' hl rfl
      rw [List.cons.injEq] at hi
      exact .inr ⟨hs, hi.1 ▸ hd⟩
  · rintro (he | ⟨hs, hd⟩)
    · exact .here he
    · exact .later hs hd

/-- The input, what came before it and what came after it. -/
theorem Since.split {E D : List ι → ι → Prop} {past : List ι} (h : Since E D past) :
    ∃ earlier i since, past = earlier ++ i :: since ∧ E earlier i ∧
      ∀ mid j rest, since = mid ++ j :: rest → D (earlier ++ i :: mid) j := by
  induction h with
  | here he => exact ⟨_, _, [], rfl, he, fun mid j rest h => by simp at h⟩
  | @later past j _ hd ih =>
    obtain ⟨earlier, i, since, rfl, he, hsince⟩ := ih
    refine ⟨earlier, i, since ++ [j], by simp, he, fun mid k rest h => ?_⟩
    rcases List.eq_nil_or_concat rest with rfl | ⟨rest, l, rfl⟩
    · obtain ⟨rfl, hk⟩ := List.append_inj' h rfl
      rw [List.cons.injEq] at hk
      exact hk.1 ▸ hd
    · rw [List.concat_eq_append, ← List.cons_append, ← List.append_assoc] at h
      exact hsince mid k rest (List.append_inj' h rfl).1

/-- `P` holds of each element and those before it. -/
def Each {α : Type*} (P : List α → α → Prop) (l : List α) : Prop := ∀ past a later, l = past ++ a :: later → P past a

theorem each_nil {α : Type*} {P : List α → α → Prop} : Each P [] := by
  intro past a later h
  cases past <;> cases h

theorem Each.concat {α : Type*} {P : List α → α → Prop} {l : List α} {b : α} (h : Each P l) (hb : P l b) :
    Each P (l ++ [b]) := by
  intro past a later heq
  rcases List.eq_nil_or_concat later with rfl | ⟨later, c, rfl⟩
  · obtain ⟨rfl, he⟩ := List.append_inj' heq rfl
    rw [List.cons.injEq] at he
    exact he.1 ▸ hb
  · rw [List.concat_eq_append, ← List.cons_append, ← List.append_assoc] at heq
    exact h past a later (List.append_inj' heq rfl).1

theorem each_concat {α : Type*} {P : List α → α → Prop} {l : List α} {b : α} :
    Each P (l ++ [b]) ↔ Each P l ∧ P l b := by
  constructor
  · intro h
    refine ⟨fun past a later he => h past a (later ++ [b]) ?_, h l b [] rfl⟩
    rw [he, List.append_assoc, List.cons_append]
  · exact fun h => h.1.concat h.2

/-! ## Stages

A history that went up a list of stages. -/

/-- The stages were entered in their order, and from the first on every input that entered none met `D`. -/
inductive Climbed {κ : Type*} (E : κ → List ι → ι → Prop) (D : List ι → ι → Prop) : List κ → List ι → Prop
  | start (past : List ι) : Climbed E D [] past
  | enter {ks : List κ} {past : List ι} {k : κ} {i : ι} :
    Climbed E D ks past → E k past i → Climbed E D (ks ++ [k]) (past ++ [i])
  | stay {ks : List κ} {past : List ι} {i : ι} :
    Climbed E D ks past → D past i → Climbed E D ks (past ++ [i])

/-- Where entering a stage meets `D`, the last stage can be left out. -/
theorem Climbed.drop {κ : Type*} {E : κ → List ι → ι → Prop} {D : List ι → ι → Prop}
    (hE : ∀ k past i, E k past i → D past i) {ks : List κ} {k : κ} {past : List ι}
    (h : Climbed E D (ks ++ [k]) past) : Climbed E D ks past := by
  generalize hl : ks ++ [k] = l at h
  induction h with
  | start past => exact absurd hl (by simp)
  | enter h he _ =>
    obtain ⟨rfl, -⟩ := List.append_inj' hl rfl
    exact .stay h (hE _ _ _ he)
  | stay _ hd ih => exact .stay (ih hl) hd

end Run
