import Telephony.Reply

/-!
# Replies to modem requests

## Main definitions

* `Manager.modemListQueryDone`, `Manager.modemActivityInfoQueryDone`, … — the reply functions
  of `tapi_manager.c`
* `Manager.DeliversActivity` — the application gets the times that a reply carries
* `Manager.Coincide` — these are the words of an address and of the stack

## Main results

* `Manager.answers_modemListQueryDone` and its companions — which replies are answered
* `Manager.deliversActivity_iff` — the times are those of the reply only where these coincide with
  the address that is stored, and with what the stack has held behind it
-/

namespace Telephony.Manager

open DBus

variable {handler : AsyncHandler Payload} {message : Message} {heap : Heap}

/-! ## Limits -/

def maxModemCount : ℕ := 10
def maxTxTimeArrayLen : ℕ := 5
def maxOemRilRespStringsLenth : ℕ := 20

/-! ## Reply functions -/

/-- The paths that head the structures of a list, at most `max` of them. -/
def leadingModems : ℕ → Iter → Option (List String)
  | max + 1, .struct fields :: it => do
    let path ← Iter.getString fields
    let paths ← leadingModems max it
    some (path :: paths)
  | _, _ => some []

/-- `modem_list_query_done`. -/
def modemListQueryDone (handler : AsyncHandler Payload) (message : Message) : Option Handling :=
  onTypedReply handler message [.pathDicts] fun args ar =>
    (args.recurse.bind (leadingModems maxModemCount)).map fun result =>
      deliver { ar with status := ok, arg1 := result.length, data := .texts result }

/-- The words of `activity_info` once an address has been stored at its start. -/
def activityWords (elements : Address) (activityInfo : ℕ → ℤ) (i : ℕ) : ℤ :=
  elements.words.getD i (activityInfo i)

/-- The times that `modem_activity_info_query_done` takes from the words of its array. -/
def fillActivityInfo (activityInfo : ℕ → ℤ) : ModemActivityInfo where
  sleepTime := activityInfo 0
  idleTime := activityInfo 1
  txTime := (List.range maxTxTimeArrayLen).map fun i => activityInfo (i + 2)
  rxTime := activityInfo 7

/-- `modem_activity_info_query_done`. The block is asked for before the message is looked at,
and what the bus library stores in the array is the address of the elements. -/
def modemActivityInfoQueryDone (handler : AsyncHandler Payload) (message : Message)
    (heap : Heap) : Option Handling :=
  withCallback handler fun ar =>
    match heap.modemActivityInfo with
    | none => some (ignore ar)
    | some _ =>
      if message.isError then some (fail ar)
      else if message.args = [] then some (fail ar)
      else
        message.args.getFixedArray.map fun elements =>
          if elements.length ≠ maxTxTimeArrayLen + 3 then fail ar
          else
            deliver { ar with
              status := ok
              data := .modemActivityInfo
                (fillActivityInfo (activityWords heap.elements heap.activityInfo)) }

/-- `enable_or_disable_modem_done`. -/
def enableOrDisableModemDone (handler : AsyncHandler Payload) (message : Message) :
    Option Handling :=
  onStatusReply handler message

/-- `enable_modem_abnormal_event_done`. The argument is read also if there is none, and the
callback is looked at last. -/
def enableModemAbnormalEventDone (handler : AsyncHandler Payload) (message : Message) :
    Option Handling :=
  let done ar := if handler.cbFunction = null then ignore ar else deliver ar
  if message.isError then some (done { handler.result with status := error })
  else
    message.args.getInt.map fun n =>
      done { handler.result with
        status := if message.args = [] then error else ok
        arg2 := n }

/-- `modem_status_query_done`. -/
def modemStatusQueryDone (handler : AsyncHandler Payload) (message : Message) :
    Option Handling :=
  onIntReply handler message

/-- `oem_ril_request_raw_cb`. -/
def oemRilRequestRawCb (handler : AsyncHandler Payload) (message : Message) : Option Handling :=
  onArrayReply handler message

/-- The strings at the head of a list. -/
def leadingStrings : Iter → List String
  | .string s :: it => s :: leadingStrings it
  | _ => []

/-- `oem_ril_request_strings_cb`. One string too many is reported as an error. -/
def oemRilRequestStringsCb (handler : AsyncHandler Payload) (message : Message) :
    Option Handling :=
  onReply handler message fun args ar =>
    args.recurse.map fun array =>
      if (leadingStrings array).length > maxOemRilRespStringsLenth then fail ar
      else
        deliver { ar with
          data := .texts (leadingStrings array)
          arg2 := (leadingStrings array).length
          status := ok }

/-! ## Which replies are answered -/

theorem isSome_leadingModems (max : ℕ) (ps : List (String × List (String × Value))) :
    (leadingModems max (ps.map pathDict)).isSome = true := by
  induction ps generalizing max with
  | nil => cases max <;> rfl
  | cons p ps ih =>
    cases max with
    | zero => rfl
    | succ max =>
      obtain ⟨paths, hpaths⟩ := Option.isSome_iff_exists.mp (ih max)
      simp [leadingModems, Iter.getString, hpaths]

theorem answers_modemListQueryDone (hcb : handler.cbFunction ≠ null) :
    Answers message handler.result (modemListQueryDone handler message) := by
  apply (answers_onTypedReply_decode_iff hcb ?_).mpr
  · intro _ hsig _
    obtain ⟨ps, hargs⟩ := Message.args_eq_of_hasSignature_pathDicts hsig
    rw [hargs]
    exact isSome_leadingModems maxModemCount ps
  · intro _ _
    exact ⟨rfl, rfl, rfl⟩

/-- There is a block for the answer, and the argument of a method return is an array. -/
theorem answers_modemActivityInfoQueryDone_iff (hcb : handler.cbFunction ≠ null) :
    Answers message handler.result (modemActivityInfoQueryDone handler message heap) ↔
      heap.modemActivityInfo.isSome = true ∧
        (message.isError = false → message.args ≠ [] → message.args.isFixedArray = true) := by
  rw [modemActivityInfoQueryDone, withCallback_of_ne hcb]
  cases heap.modemActivityInfo with
  | none => simp
  | some block =>
    cases herr : message.isError with
    | true => simpa using answers_fail
    | false =>
      by_cases hargs : message.args = []
      · simpa [hargs] using answers_fail
      · simp only [Bool.false_eq_true, if_false, hargs, ← Iter.isSome_getFixedArray]
        cases helements : Iter.getFixedArray message.args with
        | none => simp [hargs]
        | some elements =>
          -- a wrong number of elements is delivered as an error
          have hanswers : Answers message handler.result (some
              (if elements.length ≠ maxTxTimeArrayLen + 3 then fail handler.result
              else deliver { handler.result with
                status := ok
                data := .modemActivityInfo
                  (fillActivityInfo (activityWords heap.elements heap.activityInfo)) })) := by
            split
            · exact answers_fail
            · exact answers_deliver ⟨rfl, rfl, rfl⟩ herr
          simpa using hanswers

/-- The argument of a method return has to be an int, and may not be missing. -/
theorem answers_enableModemAbnormalEventDone_iff (hcb : handler.cbFunction ≠ null) :
    Answers message handler.result (enableModemAbnormalEventDone handler message) ↔
      (message.isError = false → message.args.isInt = true) := by
  simp only [enableModemAbnormalEventDone, if_neg hcb]
  cases herr : message.isError with
  | true =>
    simp only [if_true, Bool.true_eq_false, false_implies, iff_true]
    exact answers_fail
  | false =>
    simp only [Bool.false_eq_true, if_false, true_implies, ← Iter.isSome_getInt]
    cases Iter.getInt message.args with
    | none => simp
    | some n =>
      simp only [Option.map_some, Option.isSome_some, iff_true]
      exact answers_deliver ⟨rfl, rfl, rfl⟩ herr

theorem answers_oemRilRequestStringsCb_iff (hcb : handler.cbFunction ≠ null) :
    Answers message handler.result (oemRilRequestStringsCb handler message) ↔
      (message.isError = false → message.args ≠ [] → message.args.isContainer = true) := by
  refine (answers_onReply_iff hcb).trans ?_
  refine forall₂_congr fun hreply _ => ?_
  rw [← Iter.isSome_recurse]
  cases Iter.recurse message.args with
  | none => simp
  | some array =>
    have hanswers : Answers message handler.result (some
        (if (leadingStrings array).length > maxOemRilRespStringsLenth then fail handler.result
        else deliver { handler.result with
          data := .texts (leadingStrings array)
          arg2 := (leadingStrings array).length
          status := ok })) := by
      -- too many texts are reported as an error, which is an answer as well
      split
      · exact answers_fail
      · exact answers_deliver ⟨rfl, rfl, rfl⟩ hreply
    simpa using hanswers

/-! ## The times of the modem -/

/-- The times that eight words stand for. -/
def activityOfWords : List ℤ → Option ModemActivityInfo
  | [sleep, idle, tx0, tx1, tx2, tx3, tx4, rx] =>
    some ⟨sleep, idle, [tx0, tx1, tx2, tx3, tx4], rx⟩
  | _ => none

/-- The first argument is an array of 32-bit integers. -/
def hasWords (it : Iter) : Bool :=
  match it with
  | .array (.fixed .int32) _ :: _ | .array (.fixed .uint32) _ :: _ => true
  | _ => false

/-- The times that a reply carries, if it is no error and has an array of eight 32-bit integers. -/
def activityOf (message : Message) : Option ModemActivityInfo :=
  if message.isError then none
  else if hasWords message.args then message.args.getFixedArray.bind activityOfWords
  else none

/-- The application is called back: with status OK and the times that the reply carries, or with an
error status if it carries none. -/
def DeliversActivity (handler : AsyncHandler Payload) (message : Message) (heap : Heap) : Prop :=
  ∃ ar, modemActivityInfoQueryDone handler message heap = some (deliver ar) ∧
    match activityOf message with
    | some info => ar.status = ok ∧ ar.data = .modemActivityInfo info
    | none => ar.status = error

/-- The first numbers happen to be the words of the address at which they stand, and the array on
the stack has held the others before. -/
structure Coincide (elements : List ℤ) (heap : Heap) : Prop where
  address : elements.take heap.elements.words.length = heap.elements.words
  behind : ∀ i < elements.length, heap.elements.words.length ≤ i →
    elements[i]? = some (heap.activityInfo i)

theorem activityOfWords_of_length {words : List ℤ} (h : words.length ≠ maxTxTimeArrayLen + 3) :
    activityOfWords words = none := by
  unfold activityOfWords
  split
  · exact absurd rfl h
  · rfl

theorem activityOf_of_length {elements : List ℤ}
    (hargs : message.args.getFixedArray = some elements)
    (h : elements.length ≠ maxTxTimeArrayLen + 3) : activityOf message = none := by
  rw [activityOf, hargs, Option.bind_some, activityOfWords_of_length h]
  split
  · rfl
  · split <;> rfl

/-- Eight numbers are the times that are taken from an array exactly if they are its words. -/
theorem activityOfWords_eq_iff {elements : List ℤ} {word : ℕ → ℤ}
    (h : elements.length = maxTxTimeArrayLen + 3) :
    activityOfWords elements = some (fillActivityInfo word) ↔
      ∀ i < elements.length, elements[i]? = some (word i) := by
  have hwords : (∀ i < elements.length, elements[i]? = some (word i)) ↔
      elements = (List.range elements.length).map word := by
    constructor
    · intro heach
      apply List.ext_getElem?
      intro i
      by_cases hi : i < elements.length
      · rw [heach i hi, List.getElem?_map, List.getElem?_range hi, Option.map_some]
      · rw [List.getElem?_eq_none (Nat.not_lt.mp hi), List.getElem?_eq_none]
        rw [List.length_map, List.length_range]
        exact Nat.not_lt.mp hi
    · intro hall i hi
      rw [hall, List.getElem?_map, List.getElem?_range hi, Option.map_some]
  rw [hwords, h]
  match elements, h with
  | [sleep, idle, tx0, tx1, tx2, tx3, tx4, rx], _ =>
    simp [activityOfWords, fillActivityInfo, maxTxTimeArrayLen, List.range_succ, and_assoc]

/-- The words of the array are the numbers of a reply exactly if the address and what stands behind
it coincide with them. -/
theorem activityWords_eq_iff {elements : List ℤ} (h : elements.length = maxTxTimeArrayLen + 3) :
    (∀ i < elements.length,
        elements[i]? = some (activityWords heap.elements heap.activityInfo i)) ↔
      Coincide elements heap := by
  -- the address takes up the first words
  have haddress : ∀ i < heap.elements.words.length,
      some (activityWords heap.elements heap.activityInfo i) = heap.elements.words[i]? := by
    intro i hi
    rw [activityWords, List.getD_eq_getElem?_getD, List.getElem?_eq_getElem hi, Option.getD_some]
  have hbehind : ∀ i, heap.elements.words.length ≤ i →
      activityWords heap.elements heap.activityInfo i = heap.activityInfo i := by
    intro i hi
    rw [activityWords, List.getD_eq_getElem?_getD, List.getElem?_eq_none hi, Option.getD_none]
  have hroom : heap.elements.words.length ≤ elements.length := by
    have hlen := heap.elements.length_words
    rw [h]
    simp only [maxTxTimeArrayLen]
    omega
  constructor
  · intro heach
    refine ⟨?_, fun i hi hle => by rw [heach i hi, hbehind i hle]⟩
    apply List.ext_getElem?
    intro i
    by_cases hi : i < heap.elements.words.length
    · rw [List.getElem?_take_of_lt hi, heach i (Nat.lt_of_lt_of_le hi hroom), haddress i hi]
    · rw [List.getElem?_eq_none (Nat.not_lt.mp hi), List.getElem?_eq_none]
      rw [List.length_take]
      omega
  · rintro ⟨hwords, hrest⟩ i hi
    by_cases hlt : i < heap.elements.words.length
    · rw [haddress i hlt, ← List.getElem?_take_of_lt hlt, hwords]
    · rw [hrest i hi (Nat.not_lt.mp hlt), hbehind i (Nat.not_lt.mp hlt)]

/-- A method return with an argument is decoded as far as the number of its elements. What is
delivered are the words of the array on the stack. -/
theorem modemActivityInfoQueryDone_of_args (hcb : handler.cbFunction ≠ null)
    (hblock : heap.modemActivityInfo.isSome = true) (hreply : message.isError = false)
    (hargs : message.args ≠ []) :
    modemActivityInfoQueryDone handler message heap =
      message.args.getFixedArray.map fun elements =>
        if elements.length ≠ maxTxTimeArrayLen + 3 then fail handler.result
        else deliver { handler.result with
          status := ok
          data := .modemActivityInfo
            (fillActivityInfo (activityWords heap.elements heap.activityInfo)) } := by
  obtain ⟨block, hblock⟩ := Option.isSome_iff_exists.mp hblock
  rw [modemActivityInfoQueryDone, withCallback_of_ne hcb, hblock]
  simp [hreply, hargs]

/-- Of an array that can be read whole, the number of its elements decides whether they are
delivered, and the type of eight elements and the words of the array whether they are right. -/
theorem deliversActivity_iff_of_elements {elements : List ℤ} (hcb : handler.cbFunction ≠ null)
    (hblock : heap.modemActivityInfo.isSome = true) (hreply : message.isError = false)
    (hargs : message.args ≠ []) (helements : message.args.getFixedArray = some elements) :
    DeliversActivity handler message heap ↔
      (elements.length = maxTxTimeArrayLen + 3 →
        hasWords message.args = true ∧ Coincide elements heap) := by
  rw [DeliversActivity, modemActivityInfoQueryDone_of_args hcb hblock hreply hargs, helements,
    Option.map_some]
  by_cases hlength : elements.length = maxTxTimeArrayLen + 3
  · have htimes : activityOf message =
        if hasWords message.args then activityOfWords elements else none := by
      rw [activityOf, hreply, helements, Option.bind_some]
      rfl
    rw [if_neg (not_not_intro hlength), ← activityWords_eq_iff hlength,
      ← activityOfWords_eq_iff hlength, htimes]
    constructor
    · rintro ⟨ar, hrun, hshown⟩ -
      obtain rfl := congrArg Handling.result (Option.some_inj.mp hrun)
      split at hshown
      · rename_i info hinfo
        split at hinfo
        · rename_i hwords
          rw [hinfo, Payload.modemActivityInfo.inj hshown.2]
          exact ⟨hwords, rfl⟩
        · cases hinfo
      · -- the status is OK whatever the elements are
        exact absurd hshown (show ok ≠ error by decide)
    · intro hall
      obtain ⟨hwords, hinfo⟩ := hall hlength
      refine ⟨_, rfl, ?_⟩
      rw [if_pos hwords, hinfo]
      exact ⟨rfl, rfl⟩
  · refine iff_of_true ⟨{ handler.result with status := error }, ?_, ?_⟩
      fun h => absurd h hlength
    · rw [if_pos hlength]
      rfl
    · rw [activityOf_of_length helements hlength]

/-- The times of a reply are delivered exactly if there is a block for them and, unless the reply is
an error or empty, it has an array of a fixed size; and, if that has eight elements, they are 32-bit
integers, of which the first are the address at which they stand, and the others what the array on
the stack has held behind it. -/
theorem deliversActivity_iff (message : Message) (heap : Heap) (hcb : handler.cbFunction ≠ null) :
    DeliversActivity handler message heap ↔
      heap.modemActivityInfo.isSome = true ∧
        (message.isError = false → message.args ≠ [] →
          ∃ elements, message.args.getFixedArray = some elements ∧
            (elements.length = maxTxTimeArrayLen + 3 →
              hasWords message.args = true ∧ Coincide elements heap)) := by
  cases hblock : heap.modemActivityInfo with
  | none =>
    -- without a block nothing is delivered
    refine iff_of_false ?_ (by simp)
    rintro ⟨ar, hrun, -⟩
    rw [modemActivityInfoQueryDone, withCallback_of_ne hcb, hblock] at hrun
    exact absurd (congrArg Handling.called (Option.some_inj.mp hrun)) Bool.false_ne_true
  | some block =>
    have hsome : heap.modemActivityInfo.isSome = true := by rw [hblock]; rfl
    cases herr : message.isError with
    | true =>
      refine iff_of_true ⟨{ handler.result with status := error }, ?_, ?_⟩ (by simp)
      · rw [modemActivityInfoQueryDone, withCallback_of_ne hcb, hblock]
        simp [herr, fail]
      · simp [activityOf, herr]
    | false =>
      by_cases hargs : message.args = []
      · refine iff_of_true ⟨{ handler.result with status := error }, ?_, ?_⟩ (by simp [hargs])
        · rw [modemActivityInfoQueryDone, withCallback_of_ne hcb, hblock]
          simp [herr, hargs, fail]
        · simp [activityOf, herr, hargs, hasWords]
      · cases helements : message.args.getFixedArray with
        | none =>
          have hundefined : ¬ DeliversActivity handler message heap := by
            rintro ⟨ar, hrun, -⟩
            rw [modemActivityInfoQueryDone_of_args hcb hsome herr hargs, helements] at hrun
            contradiction
          simp [hundefined, hargs]
        | some elements =>
          rw [deliversActivity_iff_of_elements hcb hsome herr hargs helements]
          simp [hargs]

/-- A reply with the times from 1 to 8. -/
def timesReply : Message where
  type := .methodReturn
  args := [.array (.fixed .int32)
    [.int32 1, .int32 2, .int32 3, .int32 4, .int32 5, .int32 6, .int32 7, .int32 8]]

/-- There is a block, the array on the stack is clear, and the elements stand at 0x1000. -/
def addressHeap : Heap :=
  { Heap.exhausted with
    modemActivityInfo := some ⟨0, 0, [], 0⟩
    elements := ⟨[0x1000], .inl rfl⟩ }

/-- An address is delivered as the time that the modem has slept. -/
theorem not_deliversActivity_timesReply :
    ¬ DeliversActivity ⟨⟨0, 0, 0, 0, 0, .null, 0⟩, 1⟩ timesReply addressHeap := by
  rintro ⟨ar, hrun, hshown⟩
  have hinfo : activityOf timesReply = some ⟨1, 2, [3, 4, 5, 6, 7], 8⟩ := by decide
  rw [hinfo] at hshown
  have hdelivered : modemActivityInfoQueryDone ⟨⟨0, 0, 0, 0, 0, .null, 0⟩, 1⟩ timesReply
      addressHeap = some (deliver ⟨0, 0, ok, 0, 0,
        .modemActivityInfo ⟨0x1000, 0, [0, 0, 0, 0, 0], 0⟩, 0⟩) := rfl
  obtain rfl := congrArg Handling.result (Option.some_inj.mp (hdelivered.symm.trans hrun))
  exact absurd hshown.2 (by decide)

theorem deliversActivity_shortReply :
    DeliversActivity ⟨⟨0, 0, 0, 0, 0, .null, 0⟩, 1⟩
      { type := .methodReturn, args := [.array (.fixed .int32) [.int32 1, .int32 2]] }
      addressHeap :=
  (deliversActivity_iff _ _ (by decide)).mpr
    ⟨rfl, fun _ _ => ⟨[1, 2], rfl, fun hlength => absurd hlength (by decide)⟩⟩

end Telephony.Manager
