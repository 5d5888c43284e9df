import Telephony.Encoding
import Telephony.Ownership

/-!
# Requests of texts to the modem

The request hands an array of texts to the modem, and the reply is an array of texts too. Its
texts are stored in an array of twenty places, and one text too many is reported as an error.

## Main definitions

* `Manager.storeStrings` — the loop that stores the texts of the reply
* `Manager.oemStringsCallback` — the reply function with this loop
* `Manager.DeliversStrings` — the application gets all texts, or an error and no texts
* `Manager.OemStringsCall.Meets` — what is to hold of a call and of its reply

## Main results

* `Manager.storeStrings_eq` — the loop stays inside the array, and stores all texts or reports that
  there are too many
* `Manager.oemStringsCallback_eq` — the loop does what the reply function is modelled by
* `Manager.OemStringsCall.meets` — the texts are carried and delivered
-/

namespace Telephony.Manager

open DBus Ledger

/-! ## The loop -/

/-- The loop of `oem_ril_request_strings_cb`, from the text `num` on. It leaves with the array and
the number of its texts, or with nothing if there is one text too many. -/
def storeStrings : Iter → List CString → ℕ → Option (Option (List CString × ℕ))
  | .string s :: array, response, num =>
    if num = maxOemRilRespStringsLenth then some none
    else
      (Cells.write response num (.text s)).bind fun response =>
        storeStrings array response (num + 1)
  | _, response, num => some (some (response, num))

/-- The text that a pointer of the array designates. -/
def designated : CString → Option String
  | .text s => some s
  | .null | .wild => none

/-- `oem_ril_request_strings_cb`, with an array that holds what the stack holds. -/
def oemStringsCallback (stack : List CString) (handler : AsyncHandler Payload)
    (message : Message) : Option Handling :=
  onReply handler message fun args ar =>
    args.recurse.bind fun array =>
      (storeStrings array stack 0).bind fun
        | none => some (fail ar)
        | some (response, num) =>
          ((response.take num).mapM designated).map fun texts =>
            deliver { ar with data := .texts texts, arg2 := num, status := ok }

section Loop

variable {array : Iter} {response stack : List CString} {num : ℕ} {strings : List String}
  {handler : AsyncHandler Payload} {message : Message}

/-- The texts are written one behind the other as long as there is a place. -/
theorem storeStrings_eq (hlen : response.length = maxOemRilRespStringsLenth)
    (hnum : num ≤ maxOemRilRespStringsLenth) :
    storeStrings array response num =
      if num + (leadingStrings array).length ≤ maxOemRilRespStringsLenth then
        (Cells.writeFrom response num ((leadingStrings array).map .text)).map fun response =>
          some (response, num + (leadingStrings array).length)
      else some none := by
  fun_induction leadingStrings array generalizing response num with
  | case1 s array ih =>
    rw [storeStrings, List.length_cons, List.map_cons, Cells.writeFrom_cons]
    by_cases hfull : num = maxOemRilRespStringsLenth
    · rw [if_pos hfull, if_neg (by omega)]
    · have hlt : num < response.length := by omega
      have hset : (response.set num (.text s)).length = maxOemRilRespStringsLenth := by
        rw [List.length_set, hlen]
      rw [if_neg hfull, Cells.write_of_lt hlt, Option.bind_some, Option.bind_some,
        ih hset (by omega), Nat.add_right_comm, Nat.add_assoc]
  | case2 array hstop =>
    simp [storeStrings, hnum]

/-- All texts are stored, and the places behind them are left as they were, or there is one text too
many. -/
theorem storeStrings_zero (hstack : stack.length = maxOemRilRespStringsLenth) :
    storeStrings array stack 0 = some
      (if (leadingStrings array).length ≤ maxOemRilRespStringsLenth then
        some ((leadingStrings array).map .text ++ stack.drop (leadingStrings array).length,
          (leadingStrings array).length)
      else none) := by
  rw [storeStrings_eq hstack (Nat.zero_le _), Nat.zero_add]
  by_cases hfits : (leadingStrings array).length ≤ maxOemRilRespStringsLenth
  · have hroom : ((leadingStrings array).map CString.text).length ≤ stack.length := by
      rw [List.length_map, hstack]
      exact hfits
    rw [if_pos hfits, if_pos hfits, Cells.writeFrom_zero hroom, List.length_map, Option.map_some]
  · rw [if_neg hfits, if_neg hfits]

theorem mapM_designated (strings : List String) :
    (strings.map CString.text).mapM designated = some strings := by
  induction strings with
  | nil => rfl
  | cons s strings ih => simp [designated, ih]

/-- The array is not left, whatever it holds at first. -/
theorem oemStringsCallback_eq (hstack : stack.length = maxOemRilRespStringsLenth) :
    oemStringsCallback stack handler message = oemRilRequestStringsCb handler message := by
  unfold oemStringsCallback oemRilRequestStringsCb
  congr 1
  funext args ar
  cases args.recurse with
  | none => rfl
  | some array =>
    rw [Option.bind_some, Option.map_some, storeStrings_zero hstack, Option.bind_some]
    by_cases hfull : (leadingStrings array).length > maxOemRilRespStringsLenth
    · rw [if_neg (by omega), if_pos hfull]
    · -- the places in use hold the texts of the reply
      have htake : ((leadingStrings array).map CString.text ++
          stack.drop (leadingStrings array).length).take (leadingStrings array).length =
            (leadingStrings array).map .text := by
        rw [List.take_append_of_le_length (by simp), List.take_of_length_le (by simp)]
      rw [if_pos (by omega), if_neg hfull]
      simp only [htake, mapM_designated, Option.map_some]

end Loop

/-! ## Replies -/

/-- The reply is no error, and its first argument is the array of the texts. -/
structure CarriesStrings (message : Message) (strings : List String) : Prop where
  reply : message.isError = false
  args : ∃ rest, message.args = .array (.text .string) (strings.map .string) :: rest

/-- The application is called back with all texts in their order and their number, or with an error
and without texts if there are too many. -/
def DeliversStrings (handling : Option Handling) (strings : List String) : Prop :=
  ∃ ar, handling = some (deliver ar) ∧
    (strings.length ≤ maxOemRilRespStringsLenth →
      ar.status = ok ∧ ar.arg2 = strings.length ∧ ar.data = .texts strings) ∧
    (maxOemRilRespStringsLenth < strings.length →
      ar.status = error ∧ ∀ texts, ar.data ≠ .texts texts)

section Replies

variable {stack : List CString} {handler : AsyncHandler Payload} {message : Message}
  {strings : List String}

theorem leadingStrings_map (strings : List String) :
    leadingStrings (strings.map .string) = strings := by
  induction strings with
  | nil => rfl
  | cons s strings ih => rw [List.map_cons, leadingStrings, ih]

/-- What the record designates before the reply is still there if there are too many texts. -/
theorem oemRilRequestStringsCb_of_carriesStrings (hcb : handler.cbFunction ≠ null)
    (h : CarriesStrings message strings) :
    oemRilRequestStringsCb handler message =
      some (if strings.length > maxOemRilRespStringsLenth then fail handler.result
        else deliver { handler.result with
          data := .texts strings
          arg2 := strings.length
          status := ok }) := by
  obtain ⟨rest, hargs⟩ := h.args
  rw [oemRilRequestStringsCb, onReply, withCallback, if_neg hcb]
  simp [h.reply, hargs, Iter.recurse, leadingStrings_map]

theorem deliversStrings_of_carriesStrings (hstack : stack.length = maxOemRilRespStringsLenth)
    (hcb : handler.cbFunction ≠ null) (hdata : ∀ texts, handler.result.data ≠ .texts texts)
    (h : CarriesStrings message strings) :
    DeliversStrings (oemStringsCallback stack handler message) strings := by
  rw [oemStringsCallback_eq hstack, oemRilRequestStringsCb_of_carriesStrings hcb h]
  by_cases hfull : strings.length > maxOemRilRespStringsLenth
  · rw [if_pos hfull]
    exact ⟨_, rfl, fun hle => absurd hfull (Nat.not_lt.mpr hle), fun _ => ⟨rfl, hdata⟩⟩
  · rw [if_neg hfull]
    exact ⟨_, rfl, fun _ => ⟨rfl, rfl, rfl⟩, fun hlt => absurd hlt hfull⟩

end Replies

/-! ## Requests -/

/-- A call of `tapi_invoke_oem_ril_request_strings`, with the texts that lie in its array. -/
structure OemStringsCall where
  caller : Caller
  oemReq : List String
  length : ℤ

namespace OemStringsCall

variable (call : OemStringsCall)

def request : Request := .oemRilRequestStrings (some call.oemReq) call.length

/-- The message that the call is to send. -/
def message : BusMessage :=
  ⟨"OemRequestStrings",
    [.array (.text .string) ((call.oemReq.take call.length.toNat).map .string)]⟩

/-- The message carries the texts that the call is given, unless the call fails, which it does for
want of a check, a block or an acceptance only. What the reply carries is delivered, and whatever
it carries, the array is not left. -/
structure Meets : Prop where
  carries : call.length ≤ call.oemReq.length → ∀ granted strdup block accepts,
    ∃ sent, call.request.put call.caller granted strdup block accepts = some sent ∧
      ((∃ code < 0, sent = .error code) ∨ sent = .ok (some call.message))
  sends : call.length ≤ call.oemReq.length → call.request.Passes call.caller →
    ∀ granted strdup block, Submission.Sufficient granted →
      call.request.put call.caller granted strdup block true = some (.ok (some call.message))
  delivers : ∀ s granted block handler, call.request.submit call.caller = some (.ok s) →
    s.userData granted block = .handler handler → call.caller.pHandle ≠ null →
      ∀ stack message strings, stack.length = maxOemRilRespStringsLenth →
        CarriesStrings message strings →
          DeliversStrings (oemStringsCallback stack handler message) strings
  inside : ∀ array stack, stack.length = maxOemRilRespStringsLenth →
    (storeStrings array stack 0).isSome = true

variable {call} {s : Submission} {granted : Block → Bool} {block : AsyncResult Payload}
  {handler : AsyncHandler Payload}

/-- As many texts are appended as the call is told that there are. -/
theorem message_of_submit (hle : call.length ≤ call.oemReq.length)
    (h : call.request.submit call.caller = some (.ok s)) (strdup : ℕ → Bool) :
    s.message strdup (s.userData granted block) = some call.message := by
  have hfirst : firstOf call.length call.oemReq = some (call.oemReq.take call.length.toNat) :=
    if_pos (by omega)
  have hbuilds : s.Builds granted block "OemRequestStrings"
      [.strings (firstOf call.length call.oemReq)] :=
    CallerData.builds_of_withProxy _ (Option.some.inj h) fun _ => ⟨rfl, rfl⟩
  rw [hbuilds.message, hfirst]
  simp [encodeArgs, message]

/-- The blocks of the call, and what its record designates when the reply arrives. -/
theorem handedOver_of_submit (h : call.request.submit call.caller = some (.ok s)) :
    s.steps = handlerThenParams ∧
      ∀ granted block, ∃ params, s.userData granted block =
        .handler (paramsHandler params (stamp call.caller.eventId call.caller.slotId)
          call.caller.pHandle block) :=
  Request.of_withProxy
    (p := fun s => s.steps = handlerThenParams ∧ ∀ granted block, ∃ params,
      s.userData granted block = .handler (paramsHandler params
        (stamp call.caller.eventId call.caller.slotId) call.caller.pHandle block))
    _ (Option.some.inj h) fun _ => ⟨rfl, fun _ _ => ⟨_, rfl⟩⟩

/-- A call that has all its blocks sends its message if the bus library accepts it. -/
theorem put_of_sufficient (hle : call.length ≤ call.oemReq.length)
    (h : call.request.submit call.caller = some (.ok s))
    (hmem : Submission.Sufficient granted) (strdup : ℕ → Bool) (accepts : Bool) :
    call.request.put call.caller granted strdup block accepts =
      some (if accepts then .ok (some call.message) else .error (-einval)) := by
  have hdone : (acquire granted s.steps).2 = none := by
    rw [(handedOver_of_submit h).1]
    exact Submission.acquire_handlerThenParams.mpr hmem
  have hmessage : s.message strdup (s.userData granted block) = some call.message :=
    message_of_submit hle h strdup
  rw [Request.put_of_acquired h hdone, hmessage]

theorem put_of_not_sufficient (h : call.request.submit call.caller = some (.ok s))
    (hmem : ¬ Submission.Sufficient granted) (strdup : ℕ → Bool) (accepts : Bool) :
    call.request.put call.caller granted strdup block accepts = some (.error (-enomem)) := by
  have hfailed : (acquire granted s.steps).2 = some (-enomem) := by
    rw [(handedOver_of_submit h).1]
    exact Submission.acquire_handlerThenParams_of_not_sufficient hmem
  exact Request.put_of_not_acquired h hfailed accepts

/-- The texts are carried to the modem, and those of the reply are delivered. -/
theorem meets (call : OemStringsCall) : call.Meets where
  carries hle granted strdup block accepts := by
    have hcodes : -einval < 0 ∧ -enomem < 0 := by decide
    obtain ⟨submitted, hsubmit⟩ : ∃ submitted, call.request.submit call.caller = some submitted :=
      ⟨_, rfl⟩
    cases submitted with
    | error code =>
      have hneg : code < 0 :=
        Request.neg_of_withProxy Request.neg_of_unlessInvalid (Option.some.inj hsubmit)
      exact ⟨_, Request.put_of_error hsubmit accepts, .inl ⟨code, hneg, rfl⟩⟩
    | ok s =>
      by_cases hmem : Submission.Sufficient granted
      · refine ⟨_, put_of_sufficient hle hsubmit hmem strdup accepts, ?_⟩
        cases accepts with
        | true => exact .inr rfl
        | false => exact .inl ⟨-einval, hcodes.1, rfl⟩
      · exact ⟨_, put_of_not_sufficient hsubmit hmem strdup accepts,
          .inl ⟨-enomem, hcodes.2, rfl⟩⟩
  sends hle hpasses granted strdup block hmem := by
    obtain ⟨s, hsubmit⟩ := hpasses
    exact put_of_sufficient hle hsubmit hmem strdup true
  delivers s granted block handler hsubmit huser hcb stack message strings hstack hmessage := by
    obtain ⟨params, hparams⟩ := (handedOver_of_submit hsubmit).2 granted block
    obtain rfl := UserData.handler.inj (hparams.symm.trans huser)
    -- the record still designates the parameters, which are no texts
    have hdata : ∀ texts, Payload.params params ≠ .texts texts := by
      intro texts htexts
      cases htexts
    exact deliversStrings_of_carriesStrings hstack hcb hdata hmessage
  inside array stack hstack := by
    rw [storeStrings_zero hstack]
    rfl

end OemStringsCall

end Telephony.Manager
