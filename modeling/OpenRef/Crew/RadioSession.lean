import OpenRef.Crew.Session
/-!
# Radio sessions (openref_radio_session.c, openref_secure_startup.c)

The key backend of a crew session: an install provisions the radio with session,
boot counter, first packet counter 1 and key, an erase disables it. A radio
session exists only after the boot counter was advanced (`secureStartup`).
-/

namespace OpenRef.Crew

/-- `openref_radio_session_backend_t`. -/
structure RadioBackend (κ : Type) where
  provision : κ → U32 → U32 → U32 → SessionKey → κ × Bool
  disable : κ → κ × Bool

/-- `openref_radio_session_t` without the backend. -/
structure RadioSession where
  bootCounter : U32
  activeSessionId : U32
  provisions : U32
  disables : U32
  failures : U32
  active : Bool
deriving DecidableEq, Repr

namespace RadioSession

variable {κ : Type}

/-- `install` (:6-23). -/
def install (be : RadioBackend κ) (w : κ × RadioSession) (session : U32) (key : SessionKey) :
    (κ × RadioSession) × Bool :=
  if session = 0 || w.2.active then ((w.1, { w.2 with failures := w.2.failures + 1 }), false)
  else
    let r := be.provision w.1 session w.2.bootCounter 1 key
    if !r.2 then ((r.1, { w.2 with failures := w.2.failures + 1 }), false)
    else
      ((r.1, { w.2 with activeSessionId := session, active := true, provisions := w.2.provisions + 1 }), true)

/-- `erase` (:25-41). -/
def erase (be : RadioBackend κ) (w : κ × RadioSession) : (κ × RadioSession) × Bool :=
  let r := be.disable w.1
  let s := { w.2 with active := false, activeSessionId := 0 }
  if !r.2 then ((r.1, { s with failures := s.failures + 1 }), false)
  else ((r.1, { s with disables := s.disables + 1 }), true)

/-- `openref_radio_session_init` (:43-56): the radio is disabled first. -/
def init (be : RadioBackend κ) (k : κ) (advancedBootCounter : U32) : κ × Option RadioSession :=
  if advancedBootCounter = 0 then (k, none)
  else
    let r := be.disable k
    (r.1, if r.2 then some ⟨advancedBootCounter, 0, 0, 0, 0, false⟩ else none)

/-- `openref_radio_session_crew_key_backend` (:58-68). -/
def crewKeyBackend (be : RadioBackend κ) : CrewKeyBackend (κ × RadioSession) := ⟨install be, erase be⟩

/-- The radio is provisioned exactly when the session id is not zero and no session is active. -/
theorem install_radio (be : RadioBackend κ) (w : κ × RadioSession) (session : U32) (key : SessionKey) :
    (install be w session key).1.1 =
        (if session ≠ 0 ∧ w.2.active = false then (be.provision w.1 session w.2.bootCounter 1 key).1 else w.1) ∧
      (install be w session key).1.2.bootCounter = w.2.bootCounter := by
  unfold install
  by_cases hc : session ≠ 0 ∧ w.2.active = false
  · rw [if_pos hc, if_neg (by simpa [hc.2] using hc.1)]
    dsimp only
    split
    · exact ⟨rfl, rfl⟩
    · exact ⟨rfl, rfl⟩
  · rw [if_neg hc, if_pos]
    · exact ⟨rfl, rfl⟩
    · by_cases hs : session = 0
      · simp [hs]
      · cases ha : w.2.active
        · exact absurd ⟨hs, ha⟩ hc
        · simp

theorem erase_radio (be : RadioBackend κ) (w : κ × RadioSession) :
    (erase be w).1.1 = (be.disable w.1).1 ∧ (erase be w).1.2.bootCounter = w.2.bootCounter := by
  unfold erase
  dsimp only
  split
  · exact ⟨rfl, rfl⟩
  · exact ⟨rfl, rfl⟩

end RadioSession

end OpenRef.Crew
