import Telephony.Submission

/-!
# Supplementary-service requests

## Main definitions

* `Ss.tapiSsSetCallBarringOption`, `Ss.tapiSsInitiateService`, … — the requests of `tapi_ss.c`,
  with the setup functions that build their messages
-/

namespace Telephony.Ss

open DBus Ledger

variable (cfg : Config) (context : Option DbusContext) (slotId eventId : ℤ) (pHandle : Ptr)

def cfReasonUnconditional : ℤ := 0
def cfReasonNotReachable : ℤ := 3

/-! ## Setup functions -/

/-- `tapi_utils_clir_status_to_string`. -/
def clirStatusToString (status : ℤ) : String :=
  if status = 0 then "default"
  else if status = 1 then "disabled"
  else if status = 2 then "enabled"
  else "default"

/-- `set_clir_append`. -/
def setClirAppend : UserData → Setup :=
  readingRecord fun ar => [.value (.string (clirStatusToString ar.arg2))]

/-- `set_call_waiting_append`. -/
def setCallWaitingAppend : UserData → Setup :=
  readingRecord fun ar => [.value (.int32 ar.arg2)]

/-- `query_call_forwarding_option_append`. -/
def queryCallForwardingOptionAppend : UserData → Setup :=
  readingRecord fun ar => [.value (.int32 ar.arg1), .value (.int32 ar.arg2)]

/-- `set_call_forwarding_option_append`. -/
def setCallForwardingOptionAppend : UserData → Setup :=
  readingRecord fun ar =>
    [.value (.int32 ar.arg1), .value (.int32 ar.arg2), .text .string ar.data.cstring]

/-- `cb_request_param_append`. -/
def cbRequestParamAppend : UserData → Setup :=
  readingParams
    (fun
      | .cbRequest key value pin2 => [.text .string key, .variant value, .text .string pin2]
      | _ => [])
    []

/-- `cb_change_passwd_append`. -/
def cbChangePasswdAppend : UserData → Setup :=
  readingParams
    (fun
      | .cbChangePasswd oldPasswd newPasswd => [.text .string oldPasswd, .text .string newPasswd]
      | _ => [])
    []

/-- `disable_all_cb_param_append`, `disable_all_incoming_param_append`,
`disable_all_outgoing_param_append`, `ss_initiate_param_append`, `send_ussd_param_append` and
`enable_fdn_param_append`: the text that the record keeps. -/
def textParamAppend : UserData → Setup :=
  readingRecord fun ar => [.text .string ar.data.cstring]

/-! ## Requests -/

/-- A request that sends nothing but a text of the caller. -/
def textRequest (type : ProxyType) (member : String) (text : CString)
    (function : ReplyFunction) : Except ℤ Submission :=
  withProxy cfg context slotId type (unlessInvalid text.isSet) <|
    plainRequest handlerThenResult (.method member)
      (fun ar => { stamp eventId slotId ar with data := text.payload }) pHandle textParamAppend
      (some function)

/-- A request without arguments. -/
def bareRequest (type : ProxyType) (member : String) (check : DbusContext → Option ℤ)
    (function : ReplyFunction) : Except ℤ Submission :=
  withProxy cfg context slotId type check <|
    plainRequest handlerThenResult (.method member) (stamp eventId slotId) pHandle
      (fun _ => {}) (some function)

/-- `tapi_ss_initiate_service`. -/
def tapiSsInitiateService (command : CString) : Except ℤ Submission :=
  textRequest cfg context slotId eventId pHandle .ss "Initiate" command .ssInitiateComplete

/-- `tapi_ss_request_call_barring`. -/
def tapiSsRequestCallBarring : Except ℤ Submission :=
  bareRequest cfg context slotId eventId pHandle .callBarring "GetProperties" unchecked
    .ssMethodCallComplete

/-- The values of `call_barring_info`, by facility. -/
def callBarringInfo : List (String × String) :=
  [("AO", "all"), ("OI", "international"), ("OX", "internationalnothome"), ("AI", "always"),
    ("IR", "whenroaming")]

/-- The key of a facility. -/
def callBarringKey (facility : CString) : String :=
  if facility = .text "AI" ∨ facility = .text "IR" then "VoiceIncoming" else "VoiceOutgoing"

/-- The value of a facility. One that is not in the table is looked up behind its end. -/
def callBarringValue : CString → CString
  | .text facility => (callBarringInfo.lookup facility).elim .wild .text
  | _ => .wild

/-- `tapi_ss_set_call_barring_option`. -/
def tapiSsSetCallBarringOption (facility pin2 : CString) : Except ℤ Submission :=
  withProxy cfg context slotId .callBarring (unlessInvalid (facility.isSet && pin2.isSet)) <|
    ownedRequest handlerThenParams (.method "SetProperty")
      (.cbRequest (.text (callBarringKey facility)) (callBarringValue facility) pin2)
      (stamp eventId slotId) pHandle cbRequestParamAppend .ssMethodCallComplete

/-- `tapi_ss_change_call_barring_password`. -/
def tapiSsChangeCallBarringPassword (oldPasswd newPasswd : CString) : Except ℤ Submission :=
  withProxy cfg context slotId .callBarring (unlessInvalid (oldPasswd.isSet && newPasswd.isSet)) <|
    ownedRequest handlerThenParams (.method "ChangePassword")
      (.cbChangePasswd oldPasswd newPasswd) (stamp eventId slotId) pHandle cbChangePasswdAppend
      .ssMethodCallComplete

/-- `tapi_ss_disable_all_call_barrings`. -/
def tapiSsDisableAllCallBarrings (passwd : CString) : Except ℤ Submission :=
  textRequest cfg context slotId eventId pHandle .callBarring "DisableAll" passwd
    .ssMethodCallComplete

/-- `tapi_ss_disable_all_incoming`. -/
def tapiSsDisableAllIncoming (passwd : CString) : Except ℤ Submission :=
  textRequest cfg context slotId eventId pHandle .callBarring "DisableAllIncoming" passwd
    .ssMethodCallComplete

/-- `tapi_ss_disable_all_outgoing`. -/
def tapiSsDisableAllOutgoing (passwd : CString) : Except ℤ Submission :=
  textRequest cfg context slotId eventId pHandle .callBarring "DisableAllOutgoing" passwd
    .ssMethodCallComplete

/-- A reason for which calls are forwarded. -/
def isForwardOption (option : ℤ) : Bool :=
  cfReasonUnconditional ≤ option ∧ option ≤ cfReasonNotReachable

/-- The record of a call-forwarding request: the slot is not kept. -/
def stampForwarding (option cls : ℤ) (ar : AsyncResult Payload) : AsyncResult Payload :=
  { ar with msgId := eventId, arg1 := option, arg2 := cls }

/-- `tapi_ss_query_call_forwarding_option`. -/
def tapiSsQueryCallForwardingOption (option cls : ℤ) : Except ℤ Submission :=
  withProxy cfg context slotId .callForwarding (unlessInvalid (isForwardOption option)) <|
    plainRequest handlerThenResult (.method "GetCallForwarding")
      (stampForwarding eventId option cls) pHandle queryCallForwardingOptionAppend
      (some .callForwardingQueryComplete)

/-- `tapi_ss_set_call_forwarding_option`. -/
def tapiSsSetCallForwardingOption (option cls : ℤ) (number : CString) : Except ℤ Submission :=
  withProxy cfg context slotId .callForwarding
    (fun ctx => unlessInvalid (number.isSet && isForwardOption option) ctx <|> whenReady ctx) <|
    plainRequest handlerThenResult (.method "SetCallForwarding")
      (fun ar => { stampForwarding eventId option cls ar with data := number.payload }) pHandle
      setCallForwardingOptionAppend (some .ssMethodCallComplete)

/-- `tapi_ss_send_ussd`. -/
def tapiSsSendUssd (reply : CString) : Except ℤ Submission :=
  textRequest cfg context slotId eventId pHandle .ss "Respond" reply .ssSendUssdCb

/-- `tapi_ss_cancel_ussd`. -/
def tapiSsCancelUssd : Except ℤ Submission :=
  bareRequest cfg context slotId eventId pHandle .ss "Cancel" unchecked .ssMethodCallComplete

/-- A call setting that is set to a number. -/
def settingRequest (member : String) (value : ℤ) (setup : UserData → Setup) :
    Except ℤ Submission :=
  withProxy cfg context slotId .callSetting whenReady <|
    plainRequest handlerThenResult (.method member)
      (fun ar => { stamp eventId slotId ar with arg2 := value }) pHandle setup
      (some .ssMethodCallComplete)

/-- `tapi_ss_set_call_waiting`. -/
def tapiSsSetCallWaiting (enable : Bool) : Except ℤ Submission :=
  settingRequest cfg context slotId eventId pHandle "SetCallWaiting" enable.toNat
    setCallWaitingAppend

/-- `tapi_ss_get_call_waiting`. -/
def tapiSsGetCallWaiting : Except ℤ Submission :=
  bareRequest cfg context slotId eventId pHandle .callSetting "GetCallWaiting" whenReady
    .queryCallWaitingCb

/-- `tapi_ss_set_calling_line_restriction`. -/
def tapiSsSetCallingLineRestriction (state : ℤ) : Except ℤ Submission :=
  settingRequest cfg context slotId eventId pHandle "SetClir" state setClirAppend

/-- `tapi_ss_get_calling_line_restriction_info`. -/
def tapiSsGetCallingLineRestrictionInfo : Except ℤ Submission :=
  bareRequest cfg context slotId eventId pHandle .callSetting "GetClir" whenReady .queryClirCb

/-- `tapi_ss_enable_fdn`. -/
def tapiSsEnableFdn (enable : Bool) (passwd : CString) : Except ℤ Submission :=
  textRequest cfg context slotId eventId pHandle .sim (if enable then "EnableFdn" else "DisableFdn")
    passwd .ssMethodCallComplete

/-- `tapi_ss_query_fdn`. -/
def tapiSsQueryFdn : Except ℤ Submission :=
  bareRequest cfg context slotId eventId pHandle .sim "QueryFdn" unchecked .queryFdnCb

end Telephony.Ss
