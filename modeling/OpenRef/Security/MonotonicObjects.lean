import OpenRef.Base
import OpenRef.Lib.LittleEndian
/-!
# The FG23's monotonic objects (openref_security_counters_fg23.c, openref_network_epoch_fg23.c)

The admission counter, the service counter and the network epoch are one object each of the radio's NVM3 store, four
bytes little-endian. A counter is persisted only above the one that is stored, an epoch only as the successor of the
one the caller knows; both are read back before they count. NVM3 is the vendor's: `Nvm3Driver` are its calls, and
`Honest` what the code relies on. `persist_spec` and `advance_spec`: an object never falls, and what is reported as
persisted is stored and above all before it, whatever calls fail.
-/

namespace OpenRef.Security

/-- An object of NVM3: data, or one of its own counters. -/
inductive Nvm3Object
  | data (bytes : List U8)
  | counter (value : U32)
deriving DecidableEq, Repr

/-- What `nvm3_getObjectInfo` answers: an error, that there is no object, or its type and the length of its data. -/
inductive Nvm3Info
  | failed
  | notFound
  | counter
  | data (length : ℕ)
deriving DecidableEq, Repr

/-- The calls of the vendor's NVM3 on its default instance `σ`. -/
structure Nvm3Driver (σ : Type) where
  initDefault : σ → σ × Bool
  getObjectInfo : σ → U32 → σ × Nvm3Info
  readData : σ → U32 → ℕ → σ × Option (List U8)
  writeData : σ → U32 → List U8 → σ × Bool

def networkEpochKey : U32 := 0x0f5202
def admissionCounterKey : U32 := 0x0f5203
def serviceCounterKey : U32 := 0x0f5204

/-- `openref_security_counter_domain_t`, and the values an enumeration can hold beside its names. -/
inductive CounterDomain
  | admission
  | service
  | other (value : U32)
deriving DecidableEq, Repr

/-- `domain_key` (security_counters:12-27). -/
def CounterDomain.key : CounterDomain → Option U32
  | .admission => some admissionCounterKey
  | .service => some serviceCounterKey
  | .other _ => none

namespace Nvm3Driver

variable {σ : Type} (d : Nvm3Driver σ)

/-- `read_counter` (security_counters:29-47) and `read_epoch` (network_epoch:11-31): the value of an object, if there
is one; or the object is no value, or a call failed. -/
def readObject (s : σ) (key : U32) : σ × Option (Option U32) :=
  let info := d.getObjectInfo s key
  match info.2 with
  | .notFound => (info.1, some none)
  | .failed | .counter => (info.1, none)
  | .data length =>
    if length ≠ 4 then (info.1, none)
    else
      let read := d.readData info.1 key 4
      (read.1, read.2.map fun bytes => some (LittleEndian.read 32 bytes))

/-- An object that is loaded: zero where there is none. -/
def loadObject (s : σ) (key : U32) : σ × Option U32 :=
  let opened := d.initDefault s
  if !opened.2 then (opened.1, none)
  else
    let read := d.readObject opened.1 key
    (read.1, read.2.map fun found => found.getD 0)

/-- `openref_security_counter_fg23_load` (:49-65) into a pointer that is set. -/
def loadCounter (s : σ) (domain : CounterDomain) : σ × Option U32 :=
  match domain.key with
  | none => (s, none)
  | some key => d.loadObject s key

/-- `openref_security_counter_fg23_persist` (:67-90). -/
def persistCounter (s : σ) (context : Option CounterDomain) (nextCounter : U32) : σ × Bool :=
  match context.bind CounterDomain.key with
  | none => (s, false)
  | some key =>
    if nextCounter = 0 then (s, false)
    else
      let opened := d.initDefault s
      if !opened.2 then (opened.1, false)
      else
        let read := d.readObject opened.1 key
        match read.2 with
        | none => (read.1, false)
        | some stored =>
          if stored.any fun stored => nextCounter ≤ stored then (read.1, false)
          else
            let written := d.writeData read.1 key (LittleEndian.write 4 nextCounter)
            if !written.2 then (written.1, false)
            else
              let verified := d.readObject written.1 key
              (verified.1, verified.2 = some (some nextCounter))

/-- `openref_network_epoch_fg23_load` (:33-46) into a pointer that is set. -/
def loadEpoch (s : σ) : σ × Option U32 := d.loadObject s networkEpochKey

/-- `openref_network_epoch_fg23_advance` (:48-75) into a pointer that is set. -/
def advanceEpoch (s : σ) (currentEpoch : U32) : σ × Option U32 :=
  if currentEpoch = uint32Max then (s, none)
  else
    let opened := d.initDefault s
    if !opened.2 then (opened.1, none)
    else
      let read := d.readObject opened.1 networkEpochKey
      match read.2 with
      | none => (read.1, none)
      | some stored =>
        if stored.getD 0 ≠ currentEpoch then (read.1, none)
        else
          let next := currentEpoch + 1
          let written := d.writeData read.1 networkEpochKey (LittleEndian.write 4 next)
          if !written.2 then (written.1, none)
          else
            let verified := d.readObject written.1 networkEpochKey
            (verified.1, if verified.2 = some (some next) then some next else none)

/-! ## A store to rely on -/

/-- What NVM3 is relied on for, `objects` being what it holds. Any call may fail. A call that reads changes no object
and tells what is stored; one that writes leaves its object as it was or puts the data there, and says it did only
when it did. -/
structure Honest (objects : σ → U32 → Option Nvm3Object) : Prop where
  initDefault : ∀ s, objects (d.initDefault s).1 = objects s
  getObjectInfo : ∀ s key, objects (d.getObjectInfo s key).1 = objects s
  notFound : ∀ s key, (d.getObjectInfo s key).2 = .notFound → objects s key = none
  data : ∀ s key length, (d.getObjectInfo s key).2 = .data length →
    ∃ bytes, objects s key = some (.data bytes) ∧ bytes.length = length
  readData : ∀ s key length, objects (d.readData s key length).1 = objects s
  whole : ∀ s key bytes read, objects s key = some (.data bytes) →
    (d.readData s key bytes.length).2 = some read → read = bytes
  others : ∀ s key bytes other, other ≠ key → objects (d.writeData s key bytes).1 other = objects s other
  landed : ∀ s key bytes, objects (d.writeData s key bytes).1 key = objects s key ∨
    objects (d.writeData s key bytes).1 key = some (.data bytes)
  written : ∀ s key bytes, (d.writeData s key bytes).2 = true →
    objects (d.writeData s key bytes).1 key = some (.data bytes)

end Nvm3Driver

/-- A store that keeps what it was given: its objects, which of the next calls that read succeed, and what the next
writes do. -/
structure ScriptedNvm3 where
  objects : U32 → Option Nvm3Object
  answers : List Bool
  writes : List Exchange

namespace ScriptedNvm3

/-- A call that reads. -/
def attempt (s : ScriptedNvm3) : ScriptedNvm3 × Bool := ({ s with answers := s.answers.tail }, s.answers.headD true)

/-- What is known of an object. -/
def info : Option Nvm3Object → Nvm3Info
  | none => .notFound
  | some (.counter _) => .counter
  | some (.data bytes) => .data bytes.length

/-- The first bytes of an object. -/
def bytes (length : ℕ) : Option Nvm3Object → Option (List U8)
  | some (.data bytes) => some (bytes.take length)
  | _ => none

def driver : Nvm3Driver ScriptedNvm3 where
  initDefault := attempt
  getObjectInfo s key := (s.attempt.1, if s.attempt.2 then info (s.objects key) else .failed)
  readData s key length := (s.attempt.1, if s.attempt.2 then bytes length (s.objects key) else none)
  writeData s key bytes :=
    let exchange := s.writes.headD .done
    ({ s with
      objects := if exchange.landed then Function.update s.objects key (some (.data bytes)) else s.objects
      writes := s.writes.tail }, exchange.reported)

theorem driver_honest : driver.Honest objects := by
  have hinfo (s : ScriptedNvm3) (key : U32) (answer : Nvm3Info) (h : (driver.getObjectInfo s key).2 = answer)
      (hne : answer ≠ .failed) : info (s.objects key) = answer := by
    unfold driver at h
    dsimp only at h
    split at h
    · exact h
    · exact absurd h.symm hne
  refine ⟨fun s => rfl, fun s key => rfl, fun s key h => ?_, fun s key length h => ?_, fun s key length => rfl,
    fun s key bs read hbs h => ?_, fun s key bs other hne => ?_, fun s key bs => ?_, fun s key bs h => ?_⟩
  · have h' := hinfo s key _ h nofun
    revert h'
    cases s.objects key with
    | none => exact fun _ => rfl
    | some object => cases object <;> exact nofun
  · have h' := hinfo s key _ h nofun
    revert h'
    cases s.objects key with
    | none => exact nofun
    | some object =>
      cases object with
      | counter value => exact nofun
      | data stored => exact fun h' => ⟨stored, rfl, Nvm3Info.data.inj h'⟩
  · unfold driver at h
    dsimp only at h
    split at h
    · rw [hbs, bytes, List.take_length] at h
      exact (Option.some.inj h).symm
    · cases h
  · unfold driver
    dsimp only
    split
    · exact Function.update_of_ne hne _ _
    · rfl
  · unfold driver
    dsimp only
    split
    · exact .inr (Function.update_self _ _ _)
    · exact .inl rfl
  · unfold driver at h ⊢
    dsimp only at h ⊢
    have hlanded : (s.writes.headD .done).landed = true := by
      revert h
      cases s.writes.headD .done <;> simp [Exchange.landed, Exchange.reported]
    rw [if_pos hlanded]
    exact Function.update_self _ _ _

end ScriptedNvm3

/-! ## What is stored -/

/-- The value that an object holds: zero where there is none, or none that can be read. -/
def Nvm3Object.value : Option Nvm3Object → ℕ
  | some (.data bytes) => if bytes.length = 4 then (LittleEndian.read 32 bytes).toNat else 0
  | _ => 0

theorem Nvm3Object.value_write (value : U32) :
    Nvm3Object.value (some (.data (LittleEndian.write 4 value))) = value.toNat := by
  unfold Nvm3Object.value
  dsimp only
  rw [if_pos (LittleEndian.length_write 4 value)]
  exact congrArg BitVec.toNat (LittleEndian.read_write 4 value)

namespace Nvm3

section
variable {σ : Type} (objects : σ → U32 → Option Nvm3Object)

/-- The value that is stored under a key. -/
def stored (s : σ) (key : U32) : ℕ := Nvm3Object.value (objects s key)

/-- A call left the other objects alone, and did not lower its own. -/
structure Raised (s s' : σ) (key : U32) : Prop where
  others : ∀ other, other ≠ key → stored objects s' other = stored objects s other
  grows : stored objects s key ≤ stored objects s' key

end

variable {σ : Type} {objects : σ → U32 → Option Nvm3Object}

theorem stored_congr {s s' : σ} (h : objects s' = objects s) (key : U32) :
    stored objects s' key = stored objects s key := by
  unfold stored
  rw [h]

theorem raised_of_objects {s s' : σ} (h : objects s' = objects s) (key : U32) : Raised objects s s' key :=
  ⟨fun other _ => stored_congr h other, (stored_congr h key).ge⟩

theorem Raised.trans {s t u : σ} {key : U32} (h : Raised objects s t key) (h' : Raised objects t u key) :
    Raised objects s u key :=
  ⟨fun other hne => (h'.others other hne).trans (h.others other hne), h.grows.trans h'.grows⟩

end Nvm3

namespace Nvm3Driver

open Nvm3

variable {σ : Type} {d : Nvm3Driver σ} {objects : σ → U32 → Option Nvm3Object} (h : d.Honest objects)
include h

theorem readObject_objects (s : σ) (key : U32) : objects (d.readObject s key).1 = objects s := by
  unfold readObject
  dsimp only
  split
  · exact h.getObjectInfo s key
  · exact h.getObjectInfo s key
  · exact h.getObjectInfo s key
  · split
    · exact h.getObjectInfo s key
    · exact (h.readData _ key 4).trans (h.getObjectInfo s key)

/-- What is read is what is stored. -/
theorem readObject_some {s : σ} {key : U32} {found : Option U32} (hread : (d.readObject s key).2 = some found) :
    stored objects s key = (found.getD 0).toNat := by
  unfold readObject at hread
  unfold stored
  dsimp only at hread
  split at hread
  · next hnone =>
    cases Option.some.inj hread
    rw [h.notFound s key hnone]
    rfl
  · cases hread
  · cases hread
  · next length hdata =>
    split at hread
    · cases hread
    · next hlength =>
      obtain ⟨bytes, hbytes, rfl⟩ := h.data s key length hdata
      have hfour : bytes.length = 4 := not_not.1 hlength
      obtain ⟨read, hanswer, hfound⟩ := Option.map_eq_some_iff.1 hread
      have hheld : objects (d.getObjectInfo s key).1 key = some (.data bytes) := by
        rw [h.getObjectInfo s key, hbytes]
      rw [← hfour] at hanswer
      cases h.whole _ key bytes read hheld hanswer
      rw [hbytes, ← hfound, Option.getD_some]
      exact if_pos hfour

theorem loadObject_objects (s : σ) (key : U32) : objects (d.loadObject s key).1 = objects s := by
  unfold loadObject
  dsimp only
  split
  · exact h.initDefault s
  · exact (readObject_objects h _ key).trans (h.initDefault s)

theorem loadCounter_objects (s : σ) (domain : CounterDomain) : objects (d.loadCounter s domain).1 = objects s := by
  unfold loadCounter
  split
  · rfl
  · next key _ => exact loadObject_objects h s key

/-- **What is loaded is what is stored.** -/
theorem load_spec {s : σ} {key value : U32} (hload : (d.loadObject s key).2 = some value) :
    value.toNat = stored objects s key := by
  unfold loadObject at hload
  dsimp only at hload
  split at hload
  · cases hload
  · obtain ⟨found, hfound, rfl⟩ := Option.map_eq_some_iff.1 hload
    rw [← readObject_some h hfound, stored_congr (h.initDefault s)]

/-- Writing what is above what is stored raises the object. -/
theorem writeData_raised (s : σ) {key value : U32} (hless : stored objects s key < value.toNat) :
    Raised objects s (d.writeData s key (LittleEndian.write 4 value)).1 key := by
  refine ⟨fun other hne => ?_, ?_⟩
  · unfold stored
    rw [h.others s key _ other hne]
  · unfold stored at hless ⊢
    rcases h.landed s key (LittleEndian.write 4 value) with hkept | hput
    · rw [hkept]
    · rw [hput, Nvm3Object.value_write]
      exact hless.le

/-- What is written and read back is stored, and was not before. -/
theorem write_verified {s read : σ} {key value : U32} (hsame : objects read = objects s)
    (hless : stored objects s key < value.toNat) :
    Raised objects s (d.writeData read key (LittleEndian.write 4 value)).1 key ∧
      Raised objects s (d.readObject (d.writeData read key (LittleEndian.write 4 value)).1 key).1 key ∧
      ((d.writeData read key (LittleEndian.write 4 value)).2 = true →
        stored objects (d.readObject (d.writeData read key (LittleEndian.write 4 value)).1 key).1 key = value.toNat) := by
  have hraised : Raised objects read (d.writeData read key (LittleEndian.write 4 value)).1 key :=
    writeData_raised h read (by rwa [stored_congr hsame])
  have hwritten := (raised_of_objects hsame key).trans hraised
  refine ⟨hwritten, hwritten.trans (raised_of_objects (readObject_objects h _ key) key), fun hok => ?_⟩
  rw [stored_congr (readObject_objects h _ key)]
  unfold stored
  rw [h.written read key _ hok, Nvm3Object.value_write]

/-! ## The specifications -/

/-- **A counter that is reported as persisted is stored, and was not before**; whatever fails, none falls. -/
theorem persist_spec (s : σ) {domain : CounterDomain} {key : U32} (hkey : domain.key = some key) (next : U32) :
    Raised objects s (d.persistCounter s (some domain) next).1 key ∧
      ((d.persistCounter s (some domain) next).2 = true → stored objects s key < next.toNat ∧
        stored objects (d.persistCounter s (some domain) next).1 key = next.toNat) := by
  have hself : Raised objects s s key := raised_of_objects rfl key
  unfold persistCounter
  rw [Option.bind_some, hkey]
  dsimp only
  split
  · exact ⟨hself, fun h => (by cases h)⟩
  · next hzero =>
    have hopened : objects (d.initDefault s).1 = objects s := h.initDefault s
    split
    · exact ⟨raised_of_objects hopened key, fun h => (by cases h)⟩
    · have hread : objects (d.readObject (d.initDefault s).1 key).1 = objects s :=
        (readObject_objects h _ key).trans hopened
      split
      · exact ⟨raised_of_objects hread key, fun h => (by cases h)⟩
      · next stored' hstored =>
        split
        · exact ⟨raised_of_objects hread key, fun h => (by cases h)⟩
        · next habove =>
          have hvalue : stored objects s key = (stored'.getD 0).toNat := by
            rw [← readObject_some h hstored, stored_congr hopened]
          have hless : stored objects s key < next.toNat := by
            rw [hvalue]
            cases stored' with
            | none => exact Nat.pos_of_ne_zero fun h => hzero (BitVec.eq_of_toNat_eq h)
            | some stored' =>
              rw [Option.any_some, decide_eq_true_eq, BitVec.not_le] at habove
              exact habove
          obtain ⟨hwritten, hverified, hlast⟩ := write_verified h hread hless
          split
          · exact ⟨hwritten, fun h => (by cases h)⟩
          · next hok => exact ⟨hverified, fun _ => ⟨hless, hlast (by simpa using hok)⟩⟩

/-- **An epoch that is handed out is stored, and was not before**; it is the successor of the caller's. -/
theorem advance_spec (s : σ) (current : U32) : Raised objects s (d.advanceEpoch s current).1 networkEpochKey ∧
    ∀ next, (d.advanceEpoch s current).2 = some next → next.toNat = current.toNat + 1 ∧
      stored objects s networkEpochKey = current.toNat ∧
      stored objects (d.advanceEpoch s current).1 networkEpochKey = next.toNat := by
  have hself : Raised objects s s networkEpochKey := raised_of_objects rfl networkEpochKey
  unfold advanceEpoch
  split
  · exact ⟨hself, fun next h => (by cases h)⟩
  · next hmax =>
    have hsucc : (current + 1).toNat = current.toNat + 1 := by
      have hne : current.toNat ≠ uint32Max.toNat := fun h => hmax (BitVec.eq_of_toNat_eq h)
      have hlt := current.isLt
      have hmax' : uint32Max.toNat = 4294967295 := rfl
      have hone : (1 : U32).toNat = 1 := rfl
      rw [BitVec.toNat_add, hone]
      omega
    have hopened : objects (d.initDefault s).1 = objects s := h.initDefault s
    dsimp only
    split
    · exact ⟨raised_of_objects hopened _, fun next h => (by cases h)⟩
    · have hread : objects (d.readObject (d.initDefault s).1 networkEpochKey).1 = objects s :=
        (readObject_objects h _ _).trans hopened
      split
      · exact ⟨raised_of_objects hread _, fun next h => (by cases h)⟩
      · next stored' hstored =>
        split
        · exact ⟨raised_of_objects hread _, fun next h => (by cases h)⟩
        · next hsame =>
          have hvalue : stored objects s networkEpochKey = current.toNat := by
            rw [← not_not.1 hsame, ← readObject_some h hstored, stored_congr hopened]
          have hless : stored objects s networkEpochKey < (current + 1).toNat := by omega
          obtain ⟨hwritten, hverified, hlast⟩ := write_verified h hread hless
          split
          · exact ⟨hwritten, fun next h => (by cases h)⟩
          · next hok =>
            refine ⟨hverified, fun next h => ?_⟩
            split at h
            · cases Option.some.inj h
              exact ⟨hsucc, hvalue, hlast (by simpa using hok)⟩
            · cases h

end Nvm3Driver

end OpenRef.Security
