import Telephony.Submission

/-!
# SIM requests

## Main definitions

* `Sim.tapiSimHasIccCard` — whether there is a card, as all requests ask first
* `Sim.tapiSimChangePin`, `Sim.tapiSimTransmitApduLogicalChannel`, … — the requests of
  `tapi_sim.c`, with the setup functions that build their messages
-/

namespace Telephony.Sim

open DBus Ledger

variable (cfg : Config) (context : Option DbusContext) (slotId eventId : ℤ) (pHandle : Ptr)
  (present : Option Bool)

/-- `tapi_sim_has_icc_card`: the return value, and what is stored. `present` is the property of
that name, if the SIM proxy has it. -/
def tapiSimHasIccCard : ℤ × Option Bool :=
  match context with
  | none => (-einval, none)
  | some ctx =>
    if !isValidSlotid cfg slotId then (-einval, none)
    else if !ctx.clientReady then (-eagain, none)
    else if ctx.dbusProxy slotId.toNat .sim = null then (-eio, none)
    else
      match present with
      | some p => (ok, some p)
      | none => (-einval, none)

/-- The checks of a request: its arguments, and that there is a card. -/
def whenPresent (valid : Bool) (ctx : DbusContext) : Option ℤ :=
  if !valid then some (-einval)
  else if (tapiSimHasIccCard cfg (some ctx) slotId present).2 = some true then none
  else some (-einval)

/-! ## Setup functions -/

/-- `change_pin_param_append`. -/
def changePinParamAppend : UserData → Setup :=
  readingParams
    (fun
      | .simPin pinType oldPin newPin =>
        [.text .string pinType, .text .string oldPin, .text .string newPin]
      | _ => [])
    []

/-- `enter_pin_param_append`, `lock_pin_param_append` and `unlock_pin_param_append`. -/
def enterPinParamAppend : UserData → Setup :=
  readingParams
    (fun
      | .simPin pinType _ newPin => [.text .string pinType, .text .string newPin]
      | _ => [])
    []

/-- `reset_pin_param_append`. -/
def resetPinParamAppend : UserData → Setup :=
  readingParams
    (fun
      | .simResetPin pukType puk newPin =>
        [.text .string pukType, .text .string puk, .text .string newPin]
      | _ => [])
    []

/-- `open_channel_param_append`. -/
def openChannelParamAppend : UserData → Setup :=
  readingParams
    (fun
      | .simTransmitApdu _ aid len => [.bytes (firstOf len aid)]
      | _ => [])
    [.free .params]

/-- `close_channel_param_append`. -/
def closeChannelParamAppend : UserData → Setup :=
  readingRecord fun ar => [.value (.int32 ar.arg2)]

/-- `transmit_apdu_param_append`. -/
def transmitApduParamAppend : UserData → Setup :=
  readingParams
    (fun
      | .simTransmitApdu sessionId pdu len =>
        [.value (.int32 sessionId), .bytes (firstOfUnsigned len pdu)]
      | _ => [])
    [.free .params]

/-- `transmit_apdu_basic_channel_param_append`. -/
def transmitApduBasicChannelParamAppend : UserData → Setup :=
  readingParams
    (fun
      | .simTransmitApdu _ pdu len => [.bytes (firstOfUnsigned len pdu)]
      | _ => [])
    [.free .params]

/-! ## Requests -/

/-- A request that is about a PIN. -/
def pinRequest (valid : Bool) (member : String) (params : Params) (setup : UserData → Setup) :
    Except ℤ Submission :=
  withProxy cfg context slotId .sim (whenPresent cfg slotId present valid) <|
    ownedRequest paramsThenHandler (.method member) params (stamp eventId slotId) pHandle setup
      .simMethodCallComplete

/-- `tapi_sim_change_pin`. -/
def tapiSimChangePin (pinType oldPin newPin : CString) : Except ℤ Submission :=
  pinRequest cfg context slotId eventId pHandle present
    (pinType.isSet && oldPin.isSet && newPin.isSet) "ChangePin" (.simPin pinType oldPin newPin)
    changePinParamAppend

/-- `tapi_sim_enter_pin`. -/
def tapiSimEnterPin (pinType pin : CString) : Except ℤ Submission :=
  pinRequest cfg context slotId eventId pHandle present (pinType.isSet && pin.isSet) "EnterPin"
    (.simPin pinType .wild pin) enterPinParamAppend

/-- `tapi_sim_reset_pin`. -/
def tapiSimResetPin (pukType puk newPin : CString) : Except ℤ Submission :=
  pinRequest cfg context slotId eventId pHandle present
    (pukType.isSet && puk.isSet && newPin.isSet) "ResetPin" (.simResetPin pukType puk newPin)
    resetPinParamAppend

/-- `tapi_sim_lock_pin`. -/
def tapiSimLockPin (pinType pin : CString) : Except ℤ Submission :=
  pinRequest cfg context slotId eventId pHandle present (pinType.isSet && pin.isSet) "LockPin"
    (.simPin pinType .wild pin) enterPinParamAppend

/-- `tapi_sim_unlock_pin`. -/
def tapiSimUnlockPin (pinType pin : CString) : Except ℤ Submission :=
  pinRequest cfg context slotId eventId pHandle present (pinType.isSet && pin.isSet) "UnlockPin"
    (.simPin pinType .wild pin) enterPinParamAppend

/-- A request that sends bytes of the caller. -/
def apduRequest (member : String) (sessionId : ℤ) (bytes : Option (List ℤ)) (len : ℤ)
    (setup : UserData → Setup) (function : ReplyFunction) : Except ℤ Submission :=
  withProxy cfg context slotId .sim (whenPresent cfg slotId present bytes.isSome) <|
    consumedRequest paramsThenHandler (.method member)
      (fun _ => .simTransmitApdu sessionId (bytes.getD []) len) (stamp eventId slotId) pHandle
      setup function (handlerFree ++ [.free .params])

/-- `tapi_sim_open_logical_channel`. The session of the block stays what it was. -/
def tapiSimOpenLogicalChannel (foundSession : ℤ) (aid : Option (List ℤ)) (len : ℤ) :
    Except ℤ Submission :=
  apduRequest cfg context slotId eventId pHandle present "OpenLogicalChannel" foundSession aid
    len openChannelParamAppend .openLogicalChannelCb

/-- `tapi_sim_close_logical_channel`. -/
def tapiSimCloseLogicalChannel (sessionId : ℤ) : Except ℤ Submission :=
  withProxy cfg context slotId .sim (whenPresent cfg slotId present true) <|
    plainRequest resultThenHandler (.method "CloseLogicalChannel")
      (fun ar => { stamp eventId slotId ar with arg2 := sessionId }) pHandle
      closeChannelParamAppend (some .simMethodCallComplete)

/-- `tapi_sim_transmit_apdu_logical_channel`. -/
def tapiSimTransmitApduLogicalChannel (sessionId : ℤ) (pdu : Option (List ℤ)) (len : ℤ) :
    Except ℤ Submission :=
  apduRequest cfg context slotId eventId pHandle present "TransmitApduLogicalChannel" sessionId
    pdu len transmitApduParamAppend .transmitApduCb

/-- `tapi_sim_transmit_apdu_basic_channel`. The session of the block stays what it was. -/
def tapiSimTransmitApduBasicChannel (foundSession : ℤ) (pdu : Option (List ℤ)) (len : ℤ) :
    Except ℤ Submission :=
  apduRequest cfg context slotId eventId pHandle present "TransmitApduBasicChannel" foundSession
    pdu len transmitApduBasicChannelParamAppend .transmitApduCb

/-- `tapi_sim_set_uicc_enablement`. -/
def tapiSimSetUiccEnablement (state : ℤ) : Except ℤ Submission :=
  withProxy cfg context slotId .sim
    (fun ctx => whenReady ctx <|> whenPresent cfg slotId present true ctx) <|
    plainRequest handlerThenResult (.property "UiccActive" (.value (.int32 state)))
      (stamp eventId slotId) pHandle (fun _ => {}) (some .propertySetDone)

end Telephony.Sim
