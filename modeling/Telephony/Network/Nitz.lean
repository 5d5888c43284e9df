import Telephony.Cells
import Mathlib.Data.List.GetD
import Mathlib.Tactic.IntervalCases
import Telephony.Network.Signal

/-!
# Network time

The time of the network comes as a text of numbers that are separated by commas. One function takes
it apart, for the signal of the time and for the registration, and writes the numbers through a
pointer that starts at the first field of a structure.

It does not look how many numbers there are. The registration gives it a structure of `-1`, and the
signal one that `malloc` has just granted.

## Main definitions

* `NetworkTime.cells` — the structure as the pointer walks over it
* `Network.nitzTime` — what a text says
* `Network.DecodesAlike` — the signal and the registration report what the text says

## Main results

* `Network.writeFrom_cells_eq_some_iff` — what the pointer writes
* `Network.decodesAlike_iff` — both report it exactly if the text has at most eight numbers, and the
  block of the signal holds `-1` where the text has none
-/

namespace Telephony

open DBus Cells

/-! ## The structure as an array -/

namespace NetworkTime

/-- The fields in the order of their addresses. -/
def cells (time : NetworkTime) : List ℤ :=
  [time.sec, time.min, time.hour, time.mday, time.mon, time.year, time.dst, time.utcoff]

@[simp] theorem length_cells (time : NetworkTime) : time.cells.length = 8 := rfl

theorem cells_inj {time time' : NetworkTime} : time.cells = time'.cells ↔ time = time' := by
  cases time
  cases time'
  simp [cells]

/-- The fields are ints. -/
def Representable (time : NetworkTime) : Prop := ∀ n ∈ time.cells, IsInt n

end NetworkTime

namespace Network

variable {str : String} {heap : Heap}

/-- The numbers of the tokens. -/
def numbers (str : String) : List ℤ := (strtok str ',').map atoi

/-- The number of the token at a place, and `-1` where there is none. -/
def number (str : String) (i : ℕ) : ℤ := (numbers str).getD i (-1)

/-- What a text says. -/
def nitzTime (str : String) : NetworkTime :=
  ⟨number str 0, number str 1, number str 2, number str 3, number str 4, number str 5,
    number str 6, number str 7⟩

theorem cells_nitzTime (str : String) :
    (nitzTime str).cells = (List.range 8).map (number str) := by
  have hplaces : List.range 8 = [0, 1, 2, 3, 4, 5, 6, 7] := rfl
  rw [hplaces]
  simp only [NetworkTime.cells, nitzTime, List.map_cons, List.map_nil]

/-! ## The pointer -/

theorem cells_overwriteNetworkTime (fields : List ℤ) (time : NetworkTime) :
    (overwriteNetworkTime fields time).cells =
      (List.range 8).map fun i => fields.getD i (time.cells.getD i 0) :=
  rfl

/-- The numbers replace the first fields, as long as there are fields. -/
theorem writeFrom_cells {fields : List ℤ} (h : fields.length ≤ 8) (time : NetworkTime) :
    writeFrom time.cells 0 fields = some (overwriteNetworkTime fields time).cells := by
  have hroom : fields.length ≤ time.cells.length := by
    rw [NetworkTime.length_cells]
    exact h
  rw [writeFrom_zero hroom]
  congr 1
  apply List.ext_getElem
  · rw [List.length_append, List.length_drop, NetworkTime.length_cells,
      NetworkTime.length_cells]
    omega
  · intro i _ hi
    rw [NetworkTime.length_cells] at hi
    have hcell : i < time.cells.length := hi
    simp only [cells_overwriteNetworkTime, List.getElem_map, List.getElem_range]
    rw [List.getElem_append]
    split
    · rename_i hlt
      rw [List.getD_eq_getElem _ _ hlt]
    · rename_i hge
      rw [List.getD_eq_default _ _ (Nat.not_lt.mp hge), List.getD_eq_getElem _ _ hcell,
        List.getElem_drop]
      congr 1
      omega

/-- `parse_nitz`, as the pointer does it. -/
theorem parseNitz_eq (hstrdup : heap.strdup = true) (str : String) (time : NetworkTime) :
    (parseNitz heap str time).map NetworkTime.cells = writeFrom time.cells 0 (numbers str) := by
  have hlength : (numbers str).length = (strtok str ',').length := List.length_map _
  by_cases h : (strtok str ',').length ≤ 8
  · rw [parseNitz, if_pos ⟨hstrdup, h⟩, Option.map_some, writeFrom_cells (hlength.trans_le h)]
    rfl
  · -- the ninth number is written behind the structure
    have hnone : writeFrom time.cells 0 (numbers str) = none := by
      refine writeFrom_eq_none (Nat.zero_le _) ?_
      rw [NetworkTime.length_cells]
      omega
    rw [hnone, parseNitz, if_neg fun hboth => h hboth.2]
    rfl

/-! ## The two reports -/

/-- The signal that reports a time. -/
def nitzSignal (str : String) : Message where
  type := .signal
  member := "PropertyChanged"
  args := [.string "NITZ", .variant (.string str)]
  typed := rfl

/-- The signal and the registration both report what the text says, in fields that can hold it. -/
structure DecodesAlike (heap : Heap) (str : String) : Prop where
  signal (handler : AsyncHandler Payload) : handler.cbFunction ≠ null →
    handler.result.msgId = IndicationMsg.nitzStateChange.value →
      nitzStateChanged handler (nitzSignal str) heap =
        some (deliver { handler.result with status := ok, data := .networkTime (nitzTime str) })
  registration (info : RegistrationInfo) :
    (registrationInfoProperties heap).fill "NITZ" [.string str] info =
      some { info with nitzTime := nitzTime str }
  representable : (nitzTime str).Representable

/-- The structure holds `-1` where the text has no number. -/
def UnsetBehind (str : String) (time : NetworkTime) : Prop :=
  ∀ i < 8, (numbers str).length ≤ i → time.cells.getD i 0 = -1

theorem overwriteNetworkTime_eq_iff {time : NetworkTime} :
    overwriteNetworkTime (numbers str) time = nitzTime str ↔ UnsetBehind str time := by
  rw [← NetworkTime.cells_inj, cells_overwriteNetworkTime, cells_nitzTime, List.map_inj_left,
    UnsetBehind]
  simp only [List.mem_range]
  refine forall₂_congr fun i _ => ?_
  by_cases hlt : i < (numbers str).length
  · simp [number, hlt]
  · have hge : (numbers str).length ≤ i := Nat.not_lt.mp hlt
    simp [number, hge]

theorem unsetBehind_unsetNetworkTime : UnsetBehind str unsetNetworkTime := by
  intro i hi _
  interval_cases i <;> rfl

theorem nitzStateChanged_nitzSignal {handler : AsyncHandler Payload}
    (hcb : handler.cbFunction ≠ null)
    (hmsg : handler.result.msgId = IndicationMsg.nitzStateChange.value) :
    nitzStateChanged handler (nitzSignal str) heap =
      match heap.networkTime with
      | none => some (ignore handler.result)
      | some block => (parseNitz heap str block).map fun time =>
          deliver { handler.result with status := ok, data := .networkTime time } := by
  have hfor : ¬ handler.result.msgId ≠ IndicationMsg.nitzStateChange.value := not_not.mpr hmsg
  rw [nitzStateChanged, onlyFor, if_neg hfor, onPropertySignal, onSignal, withCallback_of_ne hcb]
  cases heap.networkTime with
  | none => simp [nitzSignal, Iter.getString, Iter.next, Iter.recurse]
  | some block => simp [nitzSignal, Iter.getString, Iter.next, Iter.recurse]

theorem fill_nitz (info : RegistrationInfo) :
    (registrationInfoProperties heap).fill "NITZ" [.string str] info =
      (parseNitz heap str unsetNetworkTime).map fun time => { info with nitzTime := time } :=
  rfl

theorem parseNitz_eq_nitzTime_iff {time : NetworkTime} :
    parseNitz heap str time = some (nitzTime str) ↔
      heap.strdup = true ∧ (strtok str ',').length ≤ 8 ∧ UnsetBehind str time := by
  rw [← overwriteNetworkTime_eq_iff, parseNitz]
  split
  · rename_i h
    rw [Option.some_inj]
    exact ⟨fun heq => ⟨h.1, h.2, heq⟩, fun heq => heq.2.2⟩
  · rename_i h
    simp only [reduceCtorEq, false_iff]
    exact fun hall => h ⟨hall.1, hall.2.1⟩

theorem representable_nitzTime_iff (h : (strtok str ',').length ≤ 8) :
    (nitzTime str).Representable ↔ ∀ n ∈ numbers str, IsInt n := by
  have hlength : (numbers str).length ≤ 8 := by rwa [numbers, List.length_map]
  simp only [NetworkTime.Representable, cells_nitzTime, List.forall_mem_map, List.mem_range]
  constructor
  · intro hint n hn
    obtain ⟨i, hi, rfl⟩ := List.mem_iff_getElem.mp hn
    have hnumber : number str i = (numbers str)[i] := List.getD_eq_getElem _ _ hi
    rw [← hnumber]
    exact hint i (by omega)
  · intro hint i _
    -- a field without a number is -1
    by_cases hi : i < (numbers str).length
    · rw [number, List.getD_eq_getElem _ _ hi]
      exact hint _ (List.getElem_mem hi)
    · rw [number, List.getD_eq_default _ _ (Nat.not_lt.mp hi)]
      decide

/-- A handler that waits for the time. -/
def nitzHandler : AsyncHandler Payload :=
  ⟨⟨IndicationMsg.nitzStateChange.value, 0, 0, 0, 0, .null, 0⟩, 1⟩

/-- What both report has been parsed into the block that the signal got. -/
theorem DecodesAlike.parseNitz_eq (h : DecodesAlike heap str) :
    ∃ block, heap.networkTime = some block ∧ parseNitz heap str block = some (nitzTime str) := by
  have hreport := h.signal nitzHandler (by decide) rfl
  rw [nitzStateChanged_nitzSignal (by decide) rfl] at hreport
  cases hblock : heap.networkTime with
  | none => simp [hblock, ignore, deliver] at hreport
  | some block =>
    rw [hblock] at hreport
    obtain ⟨time, htime, hdelivered⟩ := Option.map_eq_some_iff.mp hreport
    obtain rfl : time = nitzTime str := by
      injection hdelivered with hresult
      injection hresult with _ _ _ _ _ hdata
      injection hdata
    exact ⟨block, rfl, htime⟩

/-- Both report what the text says exactly if there is memory, the text has at most eight numbers,
each of them an int, and the block of the signal holds `-1` where the text has none. -/
theorem decodesAlike_iff (heap : Heap) (str : String) :
    DecodesAlike heap str ↔
      heap.strdup = true ∧ (strtok str ',').length ≤ 8 ∧
        (∀ n ∈ numbers str, IsInt n) ∧
        ∃ block, heap.networkTime = some block ∧ UnsetBehind str block := by
  constructor
  · intro h
    obtain ⟨block, hblock, hparse⟩ := h.parseNitz_eq
    obtain ⟨hstrdup, hlength, hunset⟩ := parseNitz_eq_nitzTime_iff.mp hparse
    exact ⟨hstrdup, hlength, (representable_nitzTime_iff hlength).mp h.representable, block,
      hblock, hunset⟩
  · rintro ⟨hstrdup, hlength, hint, block, hblock, hunset⟩
    refine ⟨fun handler hcb hmsg => ?_, fun info => ?_,
      (representable_nitzTime_iff hlength).mpr hint⟩
    · rw [nitzStateChanged_nitzSignal hcb hmsg, hblock]
      simp only [parseNitz_eq_nitzTime_iff.mpr ⟨hstrdup, hlength, hunset⟩, Option.map_some]
    · rw [fill_nitz, parseNitz_eq_nitzTime_iff.mpr
        ⟨hstrdup, hlength, unsetBehind_unsetNetworkTime⟩]
      rfl

/-- A block in which `malloc` has left zeros. -/
def zeroTimeHeap : Heap :=
  { Heap.exhausted with strdup := true, networkTime := some ⟨0, 0, 0, 0, 0, 0, 0, 0⟩ }

/-- The signal of a time without an offset reports the offset that the block has held. -/
theorem not_decodesAlike_zeroTimeHeap :
    ¬ DecodesAlike zeroTimeHeap "10,59,23,31,12,2024,0" := by
  intro h
  obtain ⟨block, hblock, hparse⟩ := h.parseNitz_eq
  obtain rfl := Option.some_inj.mp hblock
  exact absurd hparse (by decide)

end Network

end Telephony
