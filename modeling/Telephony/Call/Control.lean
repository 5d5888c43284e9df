import Telephony.Call.Calls
import Telephony.Cells
import Telephony.Commands

/-!
# Choosing calls and controlling them

An application asks for the list of calls, picks those that are in a state, and answers or hangs up
each of them by its id. The calls that it means to reach are those of the reply that say that they
are in the state.

## Main definitions

* `Call.tapiCallGetCallByState` — the calls of a list that are in a state, with the arrays of the
  caller
* `Call.Action` — what is done to a call by its id
* `Call.Controls` — the calls of the reply that are in the state are reached, each by its own path

## Main results

* `Call.copyByState_eq` — the loop copies the calls that are in the state
* `Call.controls_iff` — which replies, states and arrays are controlled
-/

namespace Telephony.Call

open DBus DBus.PropertyTable

/-! ## Choosing -/

/-- The value of a state, as the application gives it. -/
def value : CallStatus → ℤ
  | .unknow => -1
  | .active => 0
  | .held => 1
  | .dialing => 2
  | .alerting => 3
  | .incoming => 4
  | .waiting => 5
  | .disconnected => 6

/-- The loop of `tapi_call_get_call_by_state`, which writes without looking whether there is a
place. -/
def copyByState (state : ℤ) : List CallInfo → ℕ → List CallInfo → Option (ℕ × List CallInfo)
  | [], index, info => some (index, info)
  | call :: calls, index, info =>
    if value call.state = state then
      (Cells.write info index call).bind (copyByState state calls (index + 1))
    else copyByState state calls index info

/-- `tapi_call_get_call_by_state`: the return value, and the array that is written to. To read
behind the end of the list is undefined. -/
def tapiCallGetCallByState (cfg : Config) (context : Option DbusContext) (slotId state : ℤ)
    (callList : Option (List CallInfo)) (size : ℤ) (info : Option (List CallInfo)) :
    Option (ℤ × Option (List CallInfo)) :=
  match context with
  | none => some (-einval, info)
  | some _ =>
    if !isValidSlotid cfg slotId then some (-einval, info)
    else
      match callList, info with
      | some calls, some cells =>
        ((firstOf size calls).bind fun calls => copyByState state calls 0 cells).map fun r =>
          (r.1, some r.2)
      | _, _ => some (-einval, info)

section Copy

variable {state : ℤ} {calls info : List CallInfo}

theorem copyByState_eq {index : ℕ} :
    copyByState state calls index info =
      (Cells.writeFrom info index (calls.filter fun c => value c.state = state)).map fun info' =>
        (index + (calls.filter fun c => value c.state = state).length, info') := by
  induction calls generalizing index info with
  | nil => rfl
  | cons call calls ih =>
    rw [copyByState]
    by_cases hstate : value call.state = state
    · rw [if_pos hstate, List.filter_cons_of_pos (by simpa using hstate), Cells.writeFrom_cons,
        Option.map_bind]
      refine Option.bind_congr fun info' _ => ?_
      rw [ih, List.length_cons, Function.comp_apply]
      simp only [Nat.add_right_comm index 1, Nat.add_assoc]
    · rw [if_neg hstate, List.filter_cons_of_neg (by simpa using hstate), ih]

/-- With its own length for its size, and places enough, the calls in the state are copied in their
order. -/
theorem tapiCallGetCallByState_eq {cfg : Config} {ctx : DbusContext} {slotId : ℤ}
    (hslot : isValidSlotid cfg slotId = true) :
    tapiCallGetCallByState cfg (some ctx) slotId state (some calls) calls.length (some info) =
      (Cells.writeFrom info 0 (calls.filter fun c => value c.state = state)).map fun info' =>
        (((calls.filter fun c => value c.state = state).length : ℤ), some info') := by
  have hfirst : firstOf calls.length calls = some calls := by simp [firstOf]
  simp only [tapiCallGetCallByState, hslot, Bool.not_true, Bool.false_eq_true, if_false, hfirst,
    Option.bind_some, copyByState_eq, Option.map_map, Function.comp_def, Nat.zero_add]

end Copy

/-! ## Controlling -/

/-- What is done to a call by its id. -/
inductive Action
  | answer | hangup
  deriving DecidableEq, Repr

namespace Action

def member : Action → String
  | .answer => "Answer"
  | .hangup => "Hangup"

/-- The command for a call. -/
def send (cfg : Config) (context : Option DbusContext) (slotId : ℤ) (callId : CString) :
    Action → Except ℤ Sent
  | .answer => tapiCallAnswerById cfg context slotId true callId
  | .hangup => tapiCallHangupById cfg context slotId true callId

end Action

section

variable {cfg : Config} {ctx : DbusContext} {slotId : ℤ} {path : String}
  (h : HasProxy cfg ctx slotId .call)
include h

/-- The message is addressed to the path, if it is one. -/
theorem answerHangup_of_hasProxy (member : String) :
    answerHangup cfg (some ctx) slotId true member (.text path) =
      .ok ⟨ctx.dbusProxy slotId.toNat .call,
        if Data.validPath path then some ⟨member, [.objectPath path]⟩ else none⟩ := by
  rw [answerHangup, sendCommand_of_ready h rfl]
  cases hpath : Data.validPath path <;> simp [encodeArgs, hpath]

theorem Action.send_of_hasProxy (a : Action) :
    a.send cfg (some ctx) slotId (.text path) =
      .ok ⟨ctx.dbusProxy slotId.toNat .call,
        if Data.validPath path then some ⟨a.member, [.objectPath path]⟩ else none⟩ := by
  cases a <;> exact answerHangup_of_hasProxy h _

end

/-- The state that a call is in, by what it says. A call that says nothing is active. -/
def stateOf (properties : List (String × Value)) : CallStatus :=
  lastOf "State" (fun v => v.getString.map callStatusFromString) (properties.map entry) .active

/-- The call says that it is in the state. -/
def inState (state : ℤ) (p : String × List (String × Value)) : Bool := value (stateOf p.2) = state

/-- The list is delivered, the calls in the state are found in it, and the commands for these are
messages to the calls of the reply that are in the state, in their order. -/
def Controls (cfg : Config) (ctx : DbusContext) (slotId state : ℤ) (a : Action)
    (handler : AsyncHandler Payload) (message : Message) (info : List CallInfo)
    (qs : List (String × List (String × Value))) : Prop :=
  ∃ calls info' : List CallInfo, callListQueryComplete handler message =
      some (deliver { handler.result with
        arg2 := calls.length, status := ok, data := .callList calls }) ∧
    tapiCallGetCallByState cfg (some ctx) slotId state (some calls) calls.length (some info) =
      some (((qs.filter (inState state)).length : ℤ), some info') ∧
    (info'.take (qs.filter (inState state)).length).map
        (fun c => a.send cfg (some ctx) slotId (.text c.callId)) =
      (qs.filter (inState state)).map fun p =>
        .ok ⟨ctx.dbusProxy slotId.toNat .call, some ⟨a.member, [.objectPath p.1]⟩⟩

/-! ### The list that is delivered -/

/-- What the list has for a call. A call whose path does not fit is there as an active call with an
empty id. -/
def listed (p : String × List (String × Value)) : CallInfo :=
  if Fits p.1 then callInfoFrom fittingText (p.2.map entry) { zeroCallInfo with callId := p.1 }
  else zeroCallInfo

theorem listed_of_fits {p : String × List (String × Value)} (h : Fits p.1) :
    (listed p).callId = p.1 ∧ (listed p).state = stateOf p.2 := by
  rw [listed, if_pos h]
  exact ⟨rfl, rfl⟩

theorem listed_of_not_fits {p : String × List (String × Value)} (h : ¬ Fits p.1) :
    listed p = zeroCallInfo :=
  if_neg h

section

variable {handler : AsyncHandler Payload} {message : Message}
  {qs : List (String × List (String × Value))}

theorem decodedStructure_eq_listed {p : String × List (String × Value)}
    (h : Fits p.1 → Readable p.2) : decodedStructure p = some (listed p) := by
  by_cases hfits : Fits p.1
  · rw [decodedStructure, pathDictFields, decodeVoiceCallInfo_of_readable hfits (h hfits), listed,
      if_pos hfits]
    rfl
  · rw [decodedStructure, pathDictFields, decodeVoiceCallInfo_of_not_fits hfits, listed,
      if_neg hfits]
    rfl

/-- The list that is delivered has one structure for each call. -/
theorem callListQueryComplete_eq_listed (hcb : handler.cbFunction ≠ null)
    (hreply : message.isError = false) (hargs : message.args = [pathDicts qs])
    (hlength : qs.length ≤ maxCallListCount) (hreads : ∀ p ∈ qs, Fits p.1 → Readable p.2) :
    callListQueryComplete handler message =
      some (deliver { handler.result with
        arg2 := qs.length, status := ok, data := .callList (qs.map listed) }) := by
  have hcb' : handler.failing.cbFunction ≠ null := hcb
  have hcalls : qs.mapM decodedStructure = some (qs.map listed) :=
    mapM_eq_some_map_iff.mpr fun p hp => decodedStructure_eq_listed (hreads p hp)
  refine (onTypedReply_of_args hcb' hreply hargs rfl).trans ?_
  rw [decodeCallList_pathDicts, if_pos hlength, hcalls, Option.map_some, List.length_map]
  rfl

end

/-! ### Which calls are reached -/

section

variable {state : ℤ} {info : List CallInfo} {qs : List (String × List (String × Value))}

/-- No call whose path does not fit is in the state, by what it says or in the list. -/
def Fitting (state : ℤ) (qs : List (String × List (String × Value))) : Prop :=
  ∀ p ∈ qs, ¬ Fits p.1 → state ≠ value .active ∧ inState state p = false

instance : Decidable (Fitting state qs) := inferInstanceAs (Decidable (∀ _ ∈ _, _))

/-- The calls that are found in the list. -/
def found (state : ℤ) (qs : List (String × List (String × Value))) : List CallInfo :=
  (qs.map listed).filter fun c => value c.state = state

theorem found_of_fitting (h : Fitting state qs) :
    found state qs = (qs.filter (inState state)).map listed := by
  rw [found, List.filter_map]
  refine congrArg _ (List.filter_congr fun p hp => ?_)
  by_cases hfits : Fits p.1
  · simp [inState, (listed_of_fits hfits).2]
  · obtain ⟨hactive, hstate⟩ := h p hp hfits
    simp [listed_of_not_fits hfits, hstate, zeroCallInfo, hactive.symm]

/-- Unless the state is the one of a cleared structure, what is found fits. -/
theorem found_of_ne (h : state ≠ value .active) :
    found state qs = ((qs.filter (inState state)).filter fun p => Fits p.1).map listed := by
  rw [found, List.filter_map, List.filter_filter]
  refine congrArg _ (List.filter_congr fun p _ => ?_)
  by_cases hfits : Fits p.1
  · simp [inState, (listed_of_fits hfits).2, hfits]
  · simp [listed_of_not_fits hfits, hfits, zeroCallInfo, h.symm]

variable {cfg : Config} {ctx : DbusContext} {slotId : ℤ} {a : Action}

/-- The commands for the calls that are found are those for the calls that are in the state, exactly
if no call in the state is missing and none has lost its path. -/
theorem reached_iff (hproxy : HasProxy cfg ctx slotId .call)
    (hpaths : ∀ p ∈ qs, Data.validPath p.1 = true) :
    (found state qs).length = (qs.filter (inState state)).length ∧
        (found state qs).map (fun c => a.send cfg (some ctx) slotId (.text c.callId)) =
          ((qs.filter (inState state)).map fun p =>
            .ok ⟨ctx.dbusProxy slotId.toNat .call, some ⟨a.member, [.objectPath p.1]⟩⟩) ↔
      Fitting state qs := by
  constructor
  · rintro ⟨hlength, hsent⟩ p hp hfits
    by_cases hactive : state = value .active
    · -- the call is found with an empty id, for which there is no message
      have hfound : zeroCallInfo ∈ found state qs := by
        refine List.mem_filter.mpr ⟨?_, by simp [hactive, zeroCallInfo]⟩
        exact List.mem_map.mpr ⟨p, hp, listed_of_not_fits hfits⟩
      have hmem := List.mem_map_of_mem (f := fun c : CallInfo =>
        a.send cfg (some ctx) slotId (.text c.callId)) hfound
      rw [hsent] at hmem
      obtain ⟨q, -, hq⟩ := List.mem_map.mp hmem
      rw [Action.send_of_hasProxy hproxy] at hq
      have hempty : Data.validPath zeroCallInfo.callId = false := by decide
      simp [hempty] at hq
    · refine ⟨hactive, ?_⟩
      -- as many calls are found as there are, so none of them is left out
      rw [found_of_ne hactive, List.length_map] at hlength
      have hall := List.length_filter_eq_length_iff.mp hlength
      by_contra hstate
      rw [Bool.not_eq_false] at hstate
      exact hfits (by simpa using hall p (List.mem_filter.mpr ⟨hp, hstate⟩))
  · intro h
    rw [found_of_fitting h, List.length_map, List.map_map]
    refine ⟨rfl, List.map_congr_left fun p hp => ?_⟩
    obtain ⟨hp, hstate⟩ := List.mem_filter.mp hp
    have hfits : Fits p.1 := by
      by_contra hfits
      rw [(h p hp hfits).2] at hstate
      contradiction
    rw [Function.comp_apply, (listed_of_fits hfits).1, Action.send_of_hasProxy hproxy,
      if_pos (hpaths p hp)]

end

/-- For a reply that the list has places for and that can be read, the calls in a state are reached
exactly if the array of the caller has places for them, no call that is in the state has a path that
does not fit, and, for the active calls, no call at all has. -/
theorem controls_iff (cfg : Config) (ctx : DbusContext) (slotId state : ℤ) (a : Action)
    {handler : AsyncHandler Payload} {message : Message} (info : List CallInfo)
    {qs : List (String × List (String × Value))}
    (hproxy : HasProxy cfg ctx slotId .call) (hcb : handler.cbFunction ≠ null)
    (hreply : message.isError = false) (hargs : message.args = [pathDicts qs])
    (hlength : qs.length ≤ maxCallListCount) (hreads : ∀ p ∈ qs, Fits p.1 → Readable p.2)
    (hpaths : ∀ p ∈ qs, Data.validPath p.1 = true) :
    Controls cfg ctx slotId state a handler message info qs ↔
      (qs.filter (inState state)).length ≤ info.length ∧ Fitting state qs := by
  have hlist := callListQueryComplete_eq_listed hcb hreply hargs hlength hreads
  rw [← reached_iff (a := a) hproxy hpaths]
  constructor
  · rintro ⟨calls, info', hdelivered, hchosen, hsent⟩
    obtain rfl : qs.map listed = calls := by
      have hdata := congrArg (·.result.data) (Option.some_inj.mp (hlist.symm.trans hdelivered))
      exact Payload.callList.inj hdata
    rw [tapiCallGetCallByState_eq hproxy.1] at hchosen
    obtain ⟨info'', hwrite, heq⟩ := Option.map_eq_some_iff.mp hchosen
    obtain ⟨hcount, hinfo⟩ := Prod.mk.inj heq
    obtain rfl := Option.some_inj.mp hinfo
    have hsame : (found state qs).length = (qs.filter (inState state)).length := by
      exact_mod_cast hcount
    have hroom : (found state qs).length ≤ info.length := by
      have hsome := congrArg Option.isSome hwrite
      simpa [Cells.isSome_writeFrom_iff, found] using hsome
    -- the calls that are found fill the front of the array
    rw [Cells.eq_of_writeFrom hwrite, ← hsame] at hsent
    refine ⟨hsame ▸ hroom, hsame, ?_⟩
    rw [← hsent]
    exact congrArg _ (List.take_left' rfl).symm
  · rintro ⟨hroom, hsame, hsent⟩
    have hfound : (found state qs).length ≤ info.length := hsame ▸ hroom
    refine ⟨qs.map listed, found state qs ++ info.drop (found state qs).length, ?_, ?_, ?_⟩
    · rw [hlist, List.length_map]
    · rw [tapiCallGetCallByState_eq hproxy.1, ← hsame]
      exact congrArg (Option.map _) (Cells.writeFrom_zero hfound)
    · rw [← hsame, List.take_left' rfl, hsent]

/-- Both calls of the reply are active, and both are hung up. -/
theorem controls_sampleReply :
    Controls twoModems idleContext 0 0 .hangup sampleHandler (sampleReply 2)
      (List.replicate 2 zeroCallInfo) (List.replicate 2 ("/ril_0/voicecall01", [])) :=
  (controls_iff twoModems idleContext 0 0 .hangup (List.replicate 2 zeroCallInfo) (by decide)
    (by decide) rfl rfl (by decide) (by decide) (by decide)).mpr (by decide)

end Telephony.Call
