import Telephony.Submission

/-!
# Modem requests

## Main definitions

* `Manager.tapiInvokeOemRilRequestRaw`, `Manager.tapiSetRadioPower`, … — the requests of
  `tapi_manager.c`, with the setup functions that build their messages
-/

namespace Telephony.Manager

open DBus Ledger

variable (cfg : Config) (context : Option DbusContext) (slotId eventId : ℤ) (pHandle : Ptr)

/-! ## Setup functions -/

/-- `enable_modem_abnormal_event_param_append`. -/
def enableModemAbnormalEventParamAppend : UserData → Setup :=
  readingParams
    (fun
      | .abnormalEvent enable moduleMask fromEventId toEventId =>
        [.value (.int32 enable.toNat), .value (.int32 moduleMask),
          .value (.int32 fromEventId), .value (.int32 toEventId)]
      | _ => [])
    [.free .params]

/-- `oem_ril_request_raw_param_append`. -/
def oemRilRequestRawParamAppend : UserData → Setup :=
  readingParams
    (fun
      | .oemRilRaw length oemReq => [.bytes (firstOf length oemReq)]
      | _ => [])
    [.free .params]

/-- `oem_ril_request_strings_param_append`. -/
def oemRilRequestStringsParamAppend : UserData → Setup :=
  readingParams
    (fun
      | .oemRilStrings length oemReq => [.strings (firstOf length oemReq)]
      | _ => [])
    [.free .params]

/-! ## Requests -/

/-- `tapi_query_modem_list`. It is the only request that is about no slot, and it reads the
context without a check. -/
def tapiQueryModemList : Option (Except ℤ Submission) :=
  context.map fun ctx =>
    if ctx.dbusProxyManager = null then .error (-eio)
    else
      .ok (plainRequest handlerThenResult (.method "GetModems")
        (fun ar => { ar with msgId := eventId }) pHandle (fun _ => {})
        (some .modemListQueryDone) ctx.dbusProxyManager)

/-- `tapi_utils_network_mode_to_string`. -/
def networkModeToString (mode : ℤ) : String :=
  if mode = -1 then "any"
  else if mode = 1 then "gsm"
  else if mode = 2 then "umts"
  else if mode = 11 then "lte"
  else if mode = 0 then "umts,gsm"
  else if mode = 12 then "lte,umts"
  else if mode = 9 then "lte,umts,gsm"
  else ""

/-- `tapi_set_pref_net_mode`. The record keeps the name of the property. -/
def tapiSetPrefNetMode (mode : ℤ) : Except ℤ Submission :=
  withProxy cfg context slotId .radio whenReady <|
    plainRequest handlerThenResult
      (.property "TechnologyPreference" (.value (.string (networkModeToString mode))))
      (fun ar => { stamp eventId slotId ar with data := .text "TechnologyPreference" }) pHandle
      (fun _ => {}) (some .propertySetDone)

/-- A request that switches a property. -/
def switchRequest (type : ProxyType) (property : String) (state : Bool) : Except ℤ Submission :=
  withProxy cfg context slotId type whenReady <|
    plainRequest handlerThenResult (.property property (.value (.boolean state.toNat)))
      (stamp eventId slotId) pHandle (fun _ => {}) (some .propertySetDone)

/-- `tapi_set_radio_power`. -/
def tapiSetRadioPower (state : Bool) : Except ℤ Submission :=
  switchRequest cfg context slotId eventId pHandle .modem "Online" state

/-- `tapi_set_fast_dormancy`. -/
def tapiSetFastDormancy (state : Bool) : Except ℤ Submission :=
  switchRequest cfg context slotId eventId pHandle .radio "FastDormancy" state

/-- A request to the modem without arguments. -/
def modemRequest (member : String) (function : ReplyFunction) : Except ℤ Submission :=
  withProxy cfg context slotId .modem unchecked <|
    plainRequest handlerThenResult (.method member) (stamp eventId slotId) pHandle
      (fun _ => {}) (some function)

/-- `tapi_get_modem_activity_info`. -/
def tapiGetModemActivityInfo : Except ℤ Submission :=
  modemRequest cfg context slotId eventId pHandle "GetModemActivityInfo"
    .modemActivityInfoQueryDone

/-- `tapi_enable_modem`. -/
def tapiEnableModem (enable : Bool) : Except ℤ Submission :=
  modemRequest cfg context slotId eventId pHandle
    (if enable then "EnableModem" else "DisableModem") .enableOrDisableModemDone

/-- `tapi_get_modem_status`. -/
def tapiGetModemStatus : Except ℤ Submission :=
  modemRequest cfg context slotId eventId pHandle "GetModemStatus" .modemStatusQueryDone

/-- `tapi_invoke_oem_ril_request_raw`. -/
def tapiInvokeOemRilRequestRaw (oemReq : Option (List ℤ)) (length : ℤ) : Except ℤ Submission :=
  withProxy cfg context slotId .modem (unlessInvalid (oemReq.isSome && 0 < length)) <|
    consumedRequest handlerThenParams (.method "OemRequestRaw")
      (fun _ => .oemRilRaw length (oemReq.getD [])) (stamp eventId slotId) pHandle
      oemRilRequestRawParamAppend .oemRilRequestRawCb (handlerFree ++ [.free .params])

/-- `tapi_invoke_oem_ril_request_strings`. -/
def tapiInvokeOemRilRequestStrings (oemReq : Option (List String)) (length : ℤ) :
    Except ℤ Submission :=
  withProxy cfg context slotId .modem (unlessInvalid (oemReq.isSome && 0 < length)) <|
    consumedRequest handlerThenParams (.method "OemRequestStrings")
      (fun _ => .oemRilStrings length (oemReq.getD [])) (stamp eventId slotId) pHandle
      oemRilRequestStringsParamAppend .oemRilRequestStringsCb (handlerFree ++ [.free .params])

/-- `tapi_enable_modem_abnormal_event`. -/
def tapiEnableModemAbnormalEvent (enable : Bool) (moduleMask fromEventId toEventId : ℤ) :
    Except ℤ Submission :=
  withProxy cfg context slotId .modem unchecked <|
    consumedRequest handlerThenParams (.method "EnableModemAbnormalEvent")
      (fun _ => .abnormalEvent enable moduleMask fromEventId toEventId) (stamp eventId slotId)
      pHandle enableModemAbnormalEventParamAppend .enableModemAbnormalEventDone
      (handlerFree ++ [.free .params])

end Telephony.Manager
