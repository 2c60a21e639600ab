import OpenRef.Base
import OpenRef.Lib.Ledger
import OpenRef.Lib.LittleEndian
import OpenRef.Lib.RingBuffer
import OpenRef.Lib.Run
/-!
# The diagnostic log (openref_diagnostics.c)

Events go into a ring of 32, and a full ring drops its oldest one and counts it. A popped event goes over the wire as
16 bytes.

`decode_eq_some_iff`: the wire accepts exactly the encodings. `log_accounts`: over every run each recorded event is
popped, overwritten or waits, in the order they were recorded; the counters are exact, an event is overwritten only
after 32 later ones, and only a report without a code or beyond the severities is refused.
-/

namespace OpenRef.Service

/-- `openref_diagnostic_event_t`. -/
structure DiagnosticEvent where
  timestampMs : U64
  value : U32
  code : U16
  sourceId : U8
  severity : U8
deriving DecidableEq, Repr

/-- `OPENREF_DIAGNOSTIC_FATAL`. -/
def diagnosticFatal : U8 := 3

/-- `OPENREF_DIAGNOSTIC_CAPACITY`. -/
def diagnosticCapacity : Nat := 32

namespace DiagnosticEvent

/-- `(openref_diagnostic_event_t){0}`. -/
def zero : DiagnosticEvent := ⟨0, 0, 0, 0, 0⟩

/-- The event has a code and a severity of the enumeration. -/
def proper (e : DiagnosticEvent) : Bool := e.code ≠ 0 && e.severity ≤ diagnosticFatal

/-- The bytes that `openref_diagnostic_encode` writes (:112-117). -/
def layout (e : DiagnosticEvent) : Bytes 16 where
  bytes := LittleEndian.write 8 e.timestampMs ++ (LittleEndian.write 4 e.value ++
    (LittleEndian.write 2 e.code ++ [e.sourceId, e.severity]))
  length_eq := by simp

/-- The event that `openref_diagnostic_decode` reads (:128, :132-138). -/
def fields (w : Bytes 16) : DiagnosticEvent where
  timestampMs := LittleEndian.read 64 (w.bytes.take 8)
  value := LittleEndian.read 32 ((w.bytes.drop 8).take 4)
  code := LittleEndian.read 16 ((w.bytes.drop 12).take 2)
  sourceId := w.bytes.getD 14 0
  severity := w.bytes.getD 15 0

/-- `openref_diagnostic_encode` (:104-119). -/
def encode (e : DiagnosticEvent) : Option (Bytes 16) :=
  if e.code = 0 || diagnosticFatal < e.severity then none else some e.layout

/-- `openref_diagnostic_decode` (:121-140). -/
def decode (w : Bytes 16) : Option DiagnosticEvent :=
  if (fields w).code = 0 || diagnosticFatal < (fields w).severity then none else some (fields w)

/-! ## The wire -/

theorem fields_layout (e : DiagnosticEvent) : fields e.layout = e := by
  have hread64 : LittleEndian.read 64 (LittleEndian.write 8 e.timestampMs) = e.timestampMs :=
    LittleEndian.read_write 8 e.timestampMs
  have hread32 : LittleEndian.read 32 (LittleEndian.write 4 e.value) = e.value := LittleEndian.read_write 4 e.value
  have hread16 : LittleEndian.read 16 (LittleEndian.write 2 e.code) = e.code := LittleEndian.read_write 2 e.code
  have hbytes : e.layout.bytes = LittleEndian.write 8 e.timestampMs ++ (LittleEndian.write 4 e.value ++
      (LittleEndian.write 2 e.code ++ [e.sourceId, e.severity])) := rfl
  have hafter8 : e.layout.bytes.drop 8 = LittleEndian.write 4 e.value ++
      (LittleEndian.write 2 e.code ++ [e.sourceId, e.severity]) := List.drop_left' (LittleEndian.length_write 8 _)
  have hafter12 : e.layout.bytes.drop 12 = LittleEndian.write 2 e.code ++ [e.sourceId, e.severity] := by
    have hdrop : e.layout.bytes.drop 12 = (e.layout.bytes.drop 8).drop 4 := by rw [List.drop_drop]
    rw [hdrop, hafter8]
    exact List.drop_left' (LittleEndian.length_write 4 _)
  have hlast (i : Nat) (hi : i < 2) : e.layout.bytes.getD (14 + i) 0 = [e.sourceId, e.severity].getD i 0 := by
    have hafter14 : e.layout.bytes.drop 14 = [e.sourceId, e.severity] := by
      have hdrop : e.layout.bytes.drop 14 = (e.layout.bytes.drop 12).drop 2 := by rw [List.drop_drop]
      rw [hdrop, hafter12]
      exact List.drop_left' (LittleEndian.length_write 2 _)
    rw [← hafter14, List.getD_eq_getElem?_getD, List.getD_eq_getElem?_getD, List.getElem?_drop]
  have htake8 : e.layout.bytes.take 8 = LittleEndian.write 8 e.timestampMs :=
    List.take_left' (LittleEndian.length_write 8 _)
  have htake4 : (e.layout.bytes.drop 8).take 4 = LittleEndian.write 4 e.value := by
    rw [hafter8]
    exact List.take_left' (LittleEndian.length_write 4 _)
  have htake2 : (e.layout.bytes.drop 12).take 2 = LittleEndian.write 2 e.code := by
    rw [hafter12]
    exact List.take_left' (LittleEndian.length_write 2 _)
  have hsource : e.layout.bytes.getD 14 0 = e.sourceId := hlast 0 (by decide)
  have hseverity : e.layout.bytes.getD 15 0 = e.severity := hlast 1 (by decide)
  unfold fields
  rw [htake8, htake4, htake2, hsource, hseverity, hread64, hread32, hread16]

theorem write_take {n : Nat} {bytes : List U8} (h : bytes.length = n) :
    LittleEndian.write n (LittleEndian.read (8 * n) bytes) = bytes := by
  subst h
  exact LittleEndian.write_read bytes

theorem layout_fields (w : Bytes 16) : (fields w).layout = w := by
  obtain ⟨bytes, hlength⟩ := w
  refine Bytes.ext_bytes ?_
  have h8 : LittleEndian.write 8 (LittleEndian.read 64 (bytes.take 8)) = bytes.take 8 :=
    write_take (by rw [List.length_take]; omega)
  have h4 : LittleEndian.write 4 (LittleEndian.read 32 ((bytes.drop 8).take 4)) = (bytes.drop 8).take 4 :=
    write_take (by rw [List.length_take, List.length_drop]; omega)
  have h2 : LittleEndian.write 2 (LittleEndian.read 16 ((bytes.drop 12).take 2)) = (bytes.drop 12).take 2 :=
    write_take (by rw [List.length_take, List.length_drop]; omega)
  have hlast : [bytes.getD 14 0, bytes.getD 15 0] = bytes.drop 14 := by
    rw [List.getD_eq_getElem?_getD, List.getD_eq_getElem?_getD, List.getElem?_eq_getElem (by omega),
      List.getElem?_eq_getElem (by omega), List.drop_eq_getElem_cons (by omega), List.drop_eq_getElem_cons (by omega),
      List.drop_of_length_le (by omega)]
    rfl
  unfold fields layout
  dsimp only
  rw [h8, h4, h2, hlast]
  have h14 : (bytes.drop 12).take 2 ++ bytes.drop 14 = bytes.drop 12 := by
    have hdrop : bytes.drop 14 = (bytes.drop 12).drop 2 := by rw [List.drop_drop]
    rw [hdrop, List.take_append_drop]
  have h12 : (bytes.drop 8).take 4 ++ bytes.drop 12 = bytes.drop 8 := by
    have hdrop : bytes.drop 12 = (bytes.drop 8).drop 4 := by rw [List.drop_drop]
    rw [hdrop, List.take_append_drop]
  rw [h14, h12, List.take_append_drop]

theorem encode_eq (e : DiagnosticEvent) : e.encode = if e.proper then some e.layout else none := by
  unfold encode proper
  have hle : (e.severity ≤ diagnosticFatal) ↔ ¬ diagnosticFatal < e.severity := BitVec.not_lt.symm
  by_cases hcode : e.code = 0 <;> by_cases hseverity : diagnosticFatal < e.severity <;> simp [hcode, hseverity, hle]

/-- **The wire accepts exactly the encodings**, of events that have a code and a severity. -/
theorem decode_eq_some_iff (w : Bytes 16) (e : DiagnosticEvent) : decode w = some e ↔ e.encode = some w := by
  have hdecode : decode w = if (fields w).proper then some (fields w) else none := by
    have h := encode_eq (fields w)
    unfold decode
    unfold encode at h
    split
    · next hbad =>
      rw [if_pos hbad] at h
      split at h
      · cases h
      · next hno => rw [if_neg hno]
    · next hgood =>
      rw [if_neg hgood] at h
      split at h
      · next hyes => rw [if_pos hyes]
      · cases h
  rw [hdecode, encode_eq]
  constructor
  · intro h
    split at h
    · next hproper =>
      cases Option.some.inj h
      rw [if_pos hproper, layout_fields]
    · cases h
  · intro h
    split at h
    · next hproper =>
      cases Option.some.inj h
      rw [fields_layout, if_pos hproper]
    · cases h

end DiagnosticEvent

/-! ## The ring -/

/-- `openref_diagnostics_t`. -/
structure Diagnostics where
  events : RingBuffer DiagnosticEvent diagnosticCapacity
  recorded : U32
  overwritten : U32

/-- The arguments of a record; `code` and `severity` are enumerations, which the event keeps cut to its fields. -/
structure DiagnosticReport where
  timestampMs : U64
  code : U32
  severity : U32
  sourceId : U8
  value : U32
deriving DecidableEq, Repr

/-- The event that a report is stored as. -/
def DiagnosticReport.event (r : DiagnosticReport) : DiagnosticEvent :=
  ⟨r.timestampMs, r.value, r.code.setWidth 16, r.sourceId, r.severity.setWidth 8⟩

namespace Diagnostics

/-- `openref_diagnostics_init` (:37-42). -/
def init : Diagnostics := ⟨.empty .zero (by decide), 0, 0⟩

/-- The head and the count of a full ring after its oldest event is given up (:55-60). -/
def makeRoom (d : Diagnostics) : Diagnostics :=
  if d.events.count = diagnosticCapacity then
    { d with events := d.events.popFront, overwritten := d.overwritten + 1 }
  else d

/-- `openref_diagnostics_record` (:44-73). -/
def record (d : Diagnostics) (r : DiagnosticReport) : Diagnostics × Bool :=
  if r.code = 0 || diagnosticFatal.setWidth 32 < r.severity then (d, false)
  else ({ d.makeRoom with events := d.makeRoom.events.pushBack r.event, recorded := d.recorded + 1 }, true)

/-- `openref_diagnostics_pop` (:75-87). -/
def pop (d : Diagnostics) : Diagnostics × Option DiagnosticEvent :=
  if d.events.count = 0 then (d, none) else ({ d with events := d.events.popFront }, some d.events.front)

/-- `openref_diagnostics_peek` (:89-102). -/
def peek (d : Diagnostics) (chronologicalIndex : U8) : Option DiagnosticEvent :=
  if d.events.count ≤ chronologicalIndex.toNat then none
  else some (d.events.cells (d.events.index chronologicalIndex.toNat))

theorem peek_eq (d : Diagnostics) (i : U8) : d.peek i = d.events.toList[i.toNat]? := by
  unfold peek RingBuffer.toList
  split
  · next hle => rw [List.getElem?_eq_none (by simpa using hle)]
  · next hlt =>
    rw [List.getElem?_map, List.getElem?_range (by omega), Option.map_some]

/-- A pop takes the oldest event, if there is one. -/
theorem pop_spec (d : Diagnostics) : d.events.toList = d.pop.2.toList ++ d.pop.1.events.toList ∧
    d.pop.1.recorded = d.recorded ∧ d.pop.1.overwritten = d.overwritten := by
  unfold pop
  split
  · exact ⟨rfl, rfl, rfl⟩
  · next hne => exact ⟨d.events.toList_popFront (Nat.pos_of_ne_zero hne), rfl, rfl⟩

/-- A pop answers whenever something waits. -/
theorem pop_answer (d : Diagnostics) : d.pop.2 = d.events.toList.head? := by
  unfold pop
  split
  · next hnone => rw [RingBuffer.toList, hnone, List.range_zero, List.map_nil, List.head?_nil]
  · next hsome =>
    rw [d.events.toList_popFront (Nat.pos_of_ne_zero hsome)]
    rfl

/-- What a full ring gives up. -/
def givenUp (d : Diagnostics) : Option DiagnosticEvent :=
  if d.events.count = diagnosticCapacity then some d.events.front else none

/-- **A report that is taken goes behind the others**; a full ring gives up its oldest event. -/
theorem record_spec (d : Diagnostics) {r : DiagnosticReport} (h : (d.record r).2 = true) :
    d.events.toList ++ [r.event] = d.givenUp.toList ++ (d.record r).1.events.toList ∧
      (d.record r).1.recorded = d.recorded + 1 ∧
      (d.record r).1.overwritten = if d.givenUp.isSome then d.overwritten + 1 else d.overwritten := by
  unfold record at h ⊢
  split at h
  · cases h
  · next hgood =>
    rw [if_neg hgood]
    unfold makeRoom givenUp
    split
    · next hfull =>
      have hpos : 0 < d.events.count := by rw [hfull]; decide
      have hpop := d.events.toList_popFront hpos
      have hroom : d.events.popFront.count < diagnosticCapacity := by
        have hcount := d.events.count_popFront hpos
        omega
      refine ⟨?_, rfl, rfl⟩
      dsimp only
      rw [hpop, RingBuffer.toList_pushBack _ _ hroom]
      rfl
    · next hroom =>
      refine ⟨?_, rfl, rfl⟩
      have hle := d.events.count_le
      dsimp only
      rw [RingBuffer.toList_pushBack _ _ (by omega)]
      rfl

/-- A report is refused for its code or its severity alone. -/
theorem record_eq_false_iff (d : Diagnostics) (r : DiagnosticReport) :
    (d.record r).2 = false ↔ r.code = 0 ∨ diagnosticFatal.setWidth 32 < r.severity := by
  unfold record
  split
  · next hbad => exact iff_of_true rfl (by simpa using hbad)
  · next hgood => exact iff_of_false nofun (by simpa using hgood)

theorem record_false {d : Diagnostics} {r : DiagnosticReport} (h : (d.record r).2 = false) : (d.record r).1 = d := by
  unfold record at h ⊢
  split at h
  · next hbad => rw [if_pos hbad]
  · cases h

end Diagnostics

/-! ## Runs -/

/-- A call on the log. -/
inductive DiagnosticCall
  | record (report : DiagnosticReport)
  | pop
deriving DecidableEq, Repr

/-- A log, the events it has taken and those popped from it. -/
structure DiagnosticLog where
  diagnostics : Diagnostics
  taken : List DiagnosticEvent
  popped : List DiagnosticEvent

namespace DiagnosticLog

def start : DiagnosticLog := ⟨.init, [], []⟩

def step (l : DiagnosticLog) : DiagnosticCall → DiagnosticLog
  | .record report =>
    let r := l.diagnostics.record report
    ⟨r.1, if r.2 then l.taken ++ [report.event] else l.taken, l.popped⟩
  | .pop =>
    let r := l.diagnostics.pop
    ⟨r.1, l.taken, l.popped ++ r.2.toList⟩

/-- A report that is refused changes nothing. -/
theorem step_refused {l : DiagnosticLog} {r : DiagnosticReport} (h : (l.diagnostics.record r).2 = false) :
    l.step (.record r) = l := by
  unfold step
  dsimp only
  rw [h, Diagnostics.record_false h]
  rfl

end DiagnosticLog

/-- How an event leaves the ring. -/
inductive DiagnosticFate
  | popped
  | overwritten
deriving DecidableEq, Repr

/-- Every event taken has left or waits, in order. -/
structure Accounted (l : DiagnosticLog) (gone : List (DiagnosticEvent × DiagnosticFate)) : Prop where
  taken : l.taken = gone.map Prod.fst ++ l.diagnostics.events.toList
  popped : l.popped = Ledger.settled gone .popped
  recorded : l.diagnostics.recorded = BitVec.ofNat 32 l.taken.length
  overwritten : l.diagnostics.overwritten = BitVec.ofNat 32 (Ledger.settled gone .overwritten).length
  behind : ∀ i e, gone[i]? = some (e, .overwritten) → i + diagnosticCapacity < l.taken.length
  severe : ∀ e ∈ l.taken, e.severity ≤ diagnosticFatal

theorem ofNat_succ (n : Nat) : BitVec.ofNat 32 n + 1 = BitVec.ofNat 32 (n + 1) := by
  rw [BitVec.ofNat_add]
  rfl

theorem severity_event {d : Diagnostics} {r : DiagnosticReport} (h : (d.record r).2 = true) :
    r.event.severity ≤ diagnosticFatal := by
  unfold Diagnostics.record at h
  split at h
  · cases h
  · next hgood =>
    rw [Bool.or_eq_true, not_or, decide_eq_true_eq, decide_eq_true_eq, BitVec.not_lt] at hgood
    have hle : r.severity.toNat ≤ 3 := hgood.2
    show r.severity.setWidth 8 ≤ 3
    rw [BitVec.le_def, BitVec.toNat_setWidth, Nat.mod_eq_of_lt (by omega)]
    exact hle

theorem accounted_step {l : DiagnosticLog} {gone : List (DiagnosticEvent × DiagnosticFate)} (h : Accounted l gone)
    (c : DiagnosticCall) : ∃ gone, Accounted (l.step c) gone := by
  cases c with
  | pop =>
    obtain ⟨hlist, hrecorded, hoverwritten⟩ := l.diagnostics.pop_spec
    refine ⟨gone ++ l.diagnostics.pop.2.toList.map fun e => (e, .popped), ?_, ?_, ?_, ?_, ?_, h.severe⟩
    · show l.taken = _
      rw [h.taken, hlist, List.map_append, Ledger.map_fst_map, List.append_assoc]
      rfl
    · show l.popped ++ _ = _
      rw [h.popped, Ledger.settled_append, Ledger.settled_map_self]
    · exact hrecorded.trans h.recorded
    · rw [Ledger.settled_append, Ledger.settled_map_of_ne _ (by decide), List.append_nil]
      exact hoverwritten.trans h.overwritten
    · intro i e hi
      rw [List.getElem?_append] at hi
      split at hi
      · exact h.behind i e hi
      · rw [List.getElem?_map, Option.map_eq_some_iff] at hi
        obtain ⟨_, -, hfate⟩ := hi
        cases hfate
  | record report =>
    cases hok : (l.diagnostics.record report).2 with
    | false =>
      rw [DiagnosticLog.step_refused hok]
      exact ⟨gone, h⟩
    | true =>
      obtain ⟨hlist, hrecorded, hoverwritten⟩ := l.diagnostics.record_spec hok
      have htaken : (l.step (.record report)).taken = l.taken ++ [report.event] := if_pos hok
      have hlength : (l.step (.record report)).taken.length = l.taken.length + 1 := by
        rw [htaken, List.length_append, List.length_singleton]
      refine ⟨gone ++ l.diagnostics.givenUp.toList.map fun e => (e, .overwritten), ?_, ?_, ?_, ?_, ?_, ?_⟩
      · rw [htaken, h.taken, List.append_assoc, hlist, List.map_append, Ledger.map_fst_map, List.append_assoc]
        rfl
      · rw [Ledger.settled_append, Ledger.settled_map_of_ne _ (by decide), List.append_nil]
        exact h.popped
      · rw [hlength, ← ofNat_succ, ← h.recorded]
        exact hrecorded
      · rw [Ledger.settled_append, Ledger.settled_map_self, List.length_append]
        refine hoverwritten.trans ?_
        rw [h.overwritten]
        cases l.diagnostics.givenUp with
        | none => rfl
        | some e => exact ofNat_succ _
      · intro i e hi
        rw [hlength]
        rw [List.getElem?_append] at hi
        split at hi
        · have hbehind := h.behind i e hi
          omega
        · next hi' =>
          -- the oldest event is given up by a full ring, which holds the 31 after it, and the new one follows
          rw [List.getElem?_map, Option.map_eq_some_iff] at hi
          obtain ⟨e', he', -⟩ := hi
          obtain ⟨hlt, -⟩ := List.getElem?_eq_some_iff.1 he'
          have hfull : l.diagnostics.events.count = diagnosticCapacity := by
            by_contra hne
            have hnone : l.diagnostics.givenUp = none := if_neg hne
            rw [hnone] at hlt
            exact absurd hlt (Nat.not_lt_zero _)
          have hone : l.diagnostics.givenUp.toList.length ≤ 1 := by
            cases l.diagnostics.givenUp <;> simp
          have hall : l.taken.length = gone.length + diagnosticCapacity := by
            rw [h.taken, List.length_append, List.length_map, RingBuffer.length_toList, hfull]
          omega
      · rw [htaken]
        exact List.forall_mem_append.2 ⟨h.severe, List.forall_mem_singleton.2 (severity_event hok)⟩

/-- **Main result: the log loses nothing silently.** Over every run, each event that was taken has been popped, was
overwritten or waits, in the order in which they were taken; the pops give the popped ones in that order, `peek` shows
the waiting ones; the two counters are exact; an event is overwritten only after 32 later ones; a popped event that has
a code goes over the wire unchanged; a pop answers the oldest of the waiting events whenever there is one; and a report
is refused, and then changes nothing, exactly for having no code or a severity that is not of the enumeration. -/
theorem log_accounts (calls : List DiagnosticCall) :
    let l := calls.foldl DiagnosticLog.step .start
    ∃ gone, Accounted l gone ∧ (∀ i, l.diagnostics.peek i = l.taken[gone.length + i.toNat]?) ∧
      (∀ e ∈ l.popped, e.code ≠ 0 → ∃ w, e.encode = some w ∧ DiagnosticEvent.decode w = some e) ∧
      l.diagnostics.pop.2 = l.taken[gone.length]? ∧
      ∀ report, ((l.diagnostics.record report).2 = false ↔
          report.code = 0 ∨ diagnosticFatal.setWidth 32 < report.severity) ∧
        ((l.diagnostics.record report).2 = false → l.step (.record report) = l) := by
  intro l
  have hstart : Accounted .start [] := ⟨rfl, rfl, rfl, rfl, nofun, nofun⟩
  obtain ⟨gone, h⟩ : ∃ gone, Accounted l gone :=
    Run.inv_run (P := fun l => ∃ gone, Accounted l gone) (fun _ c ⟨_, h⟩ => accounted_step h c) ⟨[], hstart⟩ calls
  have hwaiting (i : Nat) : l.taken[gone.length + i]? = l.diagnostics.events.toList[i]? := by
    rw [h.taken, List.getElem?_append_right (by rw [List.length_map]; omega), List.length_map, Nat.add_sub_cancel_left]
  refine ⟨gone, h, fun i => ?_, fun e he hcode => ?_, ?_, fun report => ⟨?_, DiagnosticLog.step_refused⟩⟩
  · rw [Diagnostics.peek_eq, hwaiting]
  · have hmem : e ∈ l.taken := by
      rw [h.popped] at he
      obtain ⟨x, hx, rfl⟩ := List.mem_map.1 he
      rw [h.taken]
      exact List.mem_append_left _ (List.mem_map_of_mem (List.mem_filter.1 hx).1)
    have hproper : e.proper = true := by
      unfold DiagnosticEvent.proper
      rw [Bool.and_eq_true, decide_eq_true_eq, decide_eq_true_eq]
      exact ⟨hcode, h.severe e hmem⟩
    have hencode : e.encode = some e.layout := by rw [DiagnosticEvent.encode_eq, if_pos hproper]
    exact ⟨e.layout, hencode, (DiagnosticEvent.decode_eq_some_iff _ _).2 hencode⟩
  · rw [Diagnostics.pop_answer, List.head?_eq_getElem?, ← hwaiting]
    rfl
  · exact l.diagnostics.record_eq_false_iff report

end OpenRef.Service
