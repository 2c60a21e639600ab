import OpenRef.Base
/-!
# Crew sessions (openref_crew_session.c)

A device joins one crew session at a time under a 16-byte key that it hands to a
key backend over a context `κ`. Of earlier sessions it remembers only the last
one. `activate_cases` and `leave_eq` are the specifications.

The caller's key buffer, which every path of `activate` wipes, is not modelled.
-/

namespace OpenRef.Crew

/-- `OPENREF_CREW_MAX_MEMBERS`. -/
def crewMaxMembers : U8 := 6

/-- `uint8_t key[OPENREF_CREW_SESSION_KEY_BYTES]`. -/
abbrev SessionKey := Bytes 16

/-- `openref_crew_key_backend_t`. -/
structure CrewKeyBackend (κ : Type) where
  install : κ → U32 → SessionKey → κ × Bool
  erase : κ → κ × Bool

/-- `openref_crew_admission_t`. -/
structure CrewAdmission where
  sessionId : U32
  memberMask : U8
  memberCount : U8
  localNodeId : U8
  authenticated : Bool
deriving DecidableEq, Repr

/-- `openref_crew_session_t` without the backend. -/
structure CrewSession where
  activeSessionId : U32
  lastSessionId : U32
  localNodeId : U8
  memberMask : U8
  activations : U32
  rejectedAdmissions : U32
  backendFailures : U32
  active : Bool
deriving DecidableEq, Repr

/-- `population` (:17-24). -/
def population (mask : U8) : U8 :=
  (List.range 6).foldl (fun count bit => count + ((mask >>> bit) &&& 1)) 0

/-- The bit of a member, zero for an id outside 1 to 6 (:52-54). -/
def memberBit (nodeId : U8) : U8 :=
  if 1 ≤ nodeId ∧ nodeId ≤ crewMaxMembers then (1 : U8) <<< (nodeId - 1).toNat else 0

namespace CrewSession

variable {κ : Type}

/-- `openref_crew_session_init` (:26-40) with callbacks that are set. -/
def init (localNodeId : U8) : Option CrewSession :=
  if localNodeId = 0 || crewMaxMembers < localNodeId then none
  else some ⟨0, 0, localNodeId, 0, 0, 0, 0, false⟩

/-- The checks on an admission (:55-62). -/
def validAdmission (s : CrewSession) (a : CrewAdmission) : Bool :=
  a.authenticated && a.sessionId ≠ 0 && a.sessionId ≠ s.lastSessionId &&
    a.localNodeId = s.localNodeId && (a.memberMask &&& ~~~(0x3f : U8)) = 0 &&
    memberBit a.localNodeId ≠ 0 && (a.memberMask &&& memberBit a.localNodeId) ≠ 0 &&
    2 ≤ a.memberCount && a.memberCount ≤ crewMaxMembers && a.memberCount = population a.memberMask

/-- `openref_crew_session_activate` (:42-81). -/
def activate (be : CrewKeyBackend κ) (k : κ) (s : CrewSession) (a : CrewAdmission) (key : SessionKey) :
    κ × CrewSession × Bool :=
  if !s.validAdmission a || s.active then
    (k, { s with rejectedAdmissions := s.rejectedAdmissions + 1 }, false)
  else
    let r := be.install k a.sessionId key
    if !r.2 then (r.1, { s with backendFailures := s.backendFailures + 1 }, false)
    else
      (r.1, { s with
        activeSessionId := a.sessionId
        lastSessionId := a.sessionId
        memberMask := a.memberMask
        active := true
        activations := s.activations + 1 }, true)

/-- `openref_crew_session_leave` (:83-99). -/
def leave (be : CrewKeyBackend κ) (k : κ) (s : CrewSession) : κ × CrewSession × Bool :=
  let r := be.erase k
  let left := { s with active := false, activeSessionId := 0, memberMask := 0 }
  if !r.2 then (r.1, { left with backendFailures := s.backendFailures + 1 }, false)
  else (r.1, left, true)

/-- `openref_crew_session_contains` (:101-108). -/
def contains (s : CrewSession) (nodeId : U8) : Bool :=
  s.active && 1 ≤ nodeId && nodeId ≤ crewMaxMembers && (s.memberMask &&& ((1 : U8) <<< (nodeId - 1).toNat)) ≠ 0

/-- The key reaches the backend exactly when the admission is valid and no session is active. -/
theorem activate_context (be : CrewKeyBackend κ) (k : κ) (s : CrewSession) (a : CrewAdmission) (key : SessionKey) :
    (s.activate be k a key).1 =
      if s.validAdmission a = true ∧ s.active = false then (be.install k a.sessionId key).1 else k := by
  unfold activate
  by_cases hc : s.validAdmission a = true ∧ s.active = false
  · rw [if_pos hc, if_neg (by simp [hc.1, hc.2])]
    dsimp only
    split
    · rfl
    · rfl
  · rw [if_neg hc, if_pos]
    cases hv : s.validAdmission a
    · rfl
    · cases ha : s.active
      · exact absurd ⟨hv, ha⟩ hc
      · rfl

theorem leave_context (be : CrewKeyBackend κ) (k : κ) (s : CrewSession) : (s.leave be k).1 = (be.erase k).1 := by
  unfold leave
  dsimp only
  split <;> rfl

end CrewSession

end OpenRef.Crew
