import Telephony.Submission

/-!
# Call requests

## Main definitions

* `Call.tapiCallDial`, `Call.callPlayDtmf`, … — the requests of `tapi_call.c`, with the setup
  functions that build their messages
-/

namespace Telephony.Call

open DBus Ledger

variable (cfg : Config) (context : Option DbusContext) (slotId eventId : ℤ) (pHandle : Ptr)

/-! ## Limits -/

def maxPhoneNumberLength : ℕ := 80
def maxImsConferenceCalls : ℕ := 5
def startPlayDtmf : ℤ := 1
def stopPlayDtmf : ℤ := 2

/-! ## Setup functions -/

/-- The text for a choice of the caller id. -/
def hideCalleridStr (hideCallerid : ℤ) : String :=
  if hideCallerid = 1 then "enabled" else if hideCallerid = 2 then "disabled" else "default"

/-- `call_param_append`. It frees the block that it has read. -/
def callParamAppend : UserData → Setup :=
  readingParams
    (fun
      | .call number hideCallerid =>
        [.value (.string number), .value (.string (hideCalleridStr hideCallerid))]
      | _ => [])
    [.free .params]

/-- `dtmf_param_append`. -/
def dtmfParamAppend : UserData → Setup :=
  readingParams
    (fun
      | .callDtmf digit flag => [.value (.byte digit), .value (.int32 flag)]
      | _ => [])
    [.free .params]

/-- `deflect_param_append_0`. -/
def deflectParamAppend0 : UserData → Setup :=
  readingBlock
    (fun
      | .callDeflect path number => [.text .objectPath path, .text .string number]
      | _ => [])
    [.use .params]

/-- `separate_param_append`. -/
def separateParamAppend : UserData → Setup :=
  readingRecord fun ar => [.text .objectPath ar.data.cstring]

/-- `conference_param_append`. -/
def conferenceParamAppend : UserData → Setup :=
  readingBlock
    (fun
      | .imsConference length participants => [.strings (firstOf length participants)]
      | _ => [])
    [.use .params]

/-! ## Requests -/

/-- `tapi_call_dial`. What does not fit into the number field is cut off. -/
def tapiCallDial (number : String) (hideCallerid : ℤ) : Except ℤ Submission :=
  withProxy cfg context slotId .call unchecked <|
    consumedRequest paramsThenHandler (.method "Dial")
      (fun _ => .call (snprintf maxPhoneNumberLength number) hideCallerid)
      (stamp eventId slotId) pHandle callParamAppend .dialCallCallback
      ([.free .params] ++ handlerFree)

/-- `is_valid_dtmf_char`. -/
def isValidDtmfChar (c : ℤ) : Bool :=
  ('0'.toNat ≤ c ∧ c ≤ '9'.toNat) ∨ c = '*'.toNat ∨ c = '#'.toNat

/-- `call_play_dtmf`. -/
def callPlayDtmf (digit flag : ℤ) : Except ℤ Submission :=
  withProxy cfg context slotId .call
    (unlessInvalid (!(flag = startPlayDtmf && !isValidDtmfChar digit))) <|
    consumedRequest paramsThenHandler (.method "PlayDtmf") (fun _ => .callDtmf digit flag)
      (stamp eventId slotId) pHandle dtmfParamAppend .playDtmfCallback
      ([.free .params] ++ handlerFree)

/-- `tapi_call_start_dtmf`. -/
def tapiCallStartDtmf (digit : ℤ) : Except ℤ Submission :=
  callPlayDtmf cfg context slotId eventId pHandle digit startPlayDtmf

/-- `tapi_call_stop_dtmf`. -/
def tapiCallStopDtmf : Except ℤ Submission :=
  callPlayDtmf cfg context slotId eventId pHandle 0 stopPlayDtmf

/-- `tapi_call_get_all_calls`. -/
def tapiCallGetAllCalls : Except ℤ Submission :=
  withProxy cfg context slotId .call unchecked <|
    plainRequest resultThenHandler (.method "GetCalls") (stamp eventId slotId) pHandle
      (fun _ => {}) (some .callListQueryComplete)

/-- `tapi_call_merge_call`. -/
def tapiCallMergeCall : Except ℤ Submission :=
  withProxy cfg context slotId .call unchecked <|
    plainRequest resultThenHandler (.method "CreateMultiparty") (stamp eventId slotId) pHandle
      (fun _ => {}) (some .mergeCallComplete)

/-- `tapi_call_separate_call`. -/
def tapiCallSeparateCall (callId : CString) : Except ℤ Submission :=
  withProxy cfg context slotId .call (unlessInvalid callId.isSet) <|
    plainRequest resultThenHandler (.method "PrivateChat")
      (fun ar => { stamp eventId slotId ar with data := callId.payload }) pHandle
      separateParamAppend (some .mergeCallComplete)

/-- `tapi_call_deflect_by_id`. -/
def tapiCallDeflectById (callId number : CString) : Except ℤ Submission :=
  withProxy cfg context slotId .call (unlessInvalid (callId.isSet && number.isSet)) <|
    paramsRequest [.alloc .params [] (-enomem)] (.method "Deflect")
      (fun _ => .callDeflect callId number) deflectParamAppend0 (some .noOperateCallback)
      [.free .params]

/-- `manager_conference`, together with the allocation that its callers make before it and the
cleanup that they do after it has failed. -/
def managerConference (member : String) (participants : List String) (size : ℤ) : Submission :=
  let request := paramsRequest [.alloc .params [] (-enomem)] (.method member)
    (fun _ => .imsConference size participants) conferenceParamAppend (some .noOperateCallback)
    [.free .params]
  match withProxy cfg context slotId .call
    (unlessInvalid (0 < size && size ≤ maxImsConferenceCalls)) request with
  | .ok submission => submission
  | .error code =>
    { request null with
      steps := [.alloc .params [] (-enomem), .check false [.free .params] code] }

/-- `tapi_call_dial_conferece`. -/
def tapiCallDialConferece (participants : List String) (size : ℤ) : Submission :=
  managerConference cfg context slotId "DialConference" participants size

/-- `tapi_call_invite_participants`. -/
def tapiCallInviteParticipants (participants : List String) (size : ℤ) : Submission :=
  managerConference cfg context slotId "InviteParticipants" participants size

end Telephony.Call
