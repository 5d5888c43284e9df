import Telephony.Encoding

/-!
# Commands

A command is a method call whose outcome the application does not wait for. It checks its arguments,
asks the bus library to send the message, and returns whether that has been accepted.

## Main definitions

* `Telephony.Sent` — a message on its way to the object of a proxy
* `Telephony.sendCommand` — the checks and the call that the commands share
* `Call.manageCallProxyMethod`, `Call.tapiCallHangupById`, … — the commands
* `Manager.tapiHandleCommand` — the command that allocates a handler for its arguments

## Main results

* `Telephony.sendCommand_of_ready` — a command that passes its checks sends its message
-/

namespace Telephony

open DBus Ledger

/-- What a command has sent: the proxy of the object, and the message unless it is undefined. -/
structure Sent where
  proxy : Ptr
  message : Option BusMessage

section

variable (cfg : Config) (context : Option DbusContext) (slotId : ℤ) (accepts : Bool)

/-- The checks of a command, and its call. `refused` is what it returns if the bus library does not
accept the message. -/
def sendCommand (type : ProxyType) (check : DbusContext → Option ℤ) (member : String)
    (appended : List Appended) (refused : ℤ) : Except ℤ Sent :=
  match context with
  | none => .error (-einval)
  | some ctx =>
    if !isValidSlotid cfg slotId then .error (-einval)
    else
      match check ctx with
      | some code => .error code
      | none =>
        if ctx.dbusProxy slotId.toNat type = null then .error (-eio)
        else if accepts then
          .ok ⟨ctx.dbusProxy slotId.toNat type,
            (encodeArgs (fun _ => true) appended).map fun args => ⟨member, args⟩⟩
        else .error refused

/-! ## Calls -/

namespace Call

/-- `manage_call_proxy_method`. -/
def manageCallProxyMethod (member : Option String) : Except ℤ Sent :=
  sendCommand cfg context slotId accepts .call (unlessInvalid member.isSome) (member.getD "") []
    (-einval)

/-- `tapi_call_hangup_all_calls`. -/
def tapiCallHangupAllCalls := manageCallProxyMethod cfg context slotId accepts (some "HangupAll")

/-- `tapi_call_hangup_multiparty`. -/
def tapiCallHangupMultiparty :=
  manageCallProxyMethod cfg context slotId accepts (some "HangupMultiparty")

/-- `tapi_call_hold_and_answer`. -/
def tapiCallHoldAndAnswer :=
  manageCallProxyMethod cfg context slotId accepts (some "HoldAndAnswer")

/-- `tapi_call_hold_call`. -/
def tapiCallHoldCall := manageCallProxyMethod cfg context slotId accepts (some "SwapCalls")

/-- `tapi_call_unhold_call`, which sends the same as `tapi_call_hold_call`. -/
def tapiCallUnholdCall := manageCallProxyMethod cfg context slotId accepts (some "SwapCalls")

/-- `tapi_call_release_and_answer`. -/
def tapiCallReleaseAndAnswer :=
  manageCallProxyMethod cfg context slotId accepts (some "ReleaseAndAnswer")

/-- `tapi_call_release_and_swap`. -/
def tapiCallReleaseAndSwap :=
  manageCallProxyMethod cfg context slotId accepts (some "ReleaseAndSwap")

/-- `tapi_call_transfer`. -/
def tapiCallTransfer := manageCallProxyMethod cfg context slotId accepts (some "Transfer")

/-- What `answer_hangup_param_append` appends to a message for the call. -/
def answerHangup (member : String) (callId : CString) : Except ℤ Sent :=
  sendCommand cfg context slotId accepts .call (unlessInvalid callId.isSet) member
    [.text .objectPath callId] (-einval)

/-- `tapi_call_answer_by_id`. -/
def tapiCallAnswerById (callId : CString) := answerHangup cfg context slotId accepts "Answer" callId

/-- `tapi_call_hangup_by_id`. -/
def tapiCallHangupById (callId : CString) := answerHangup cfg context slotId accepts "Hangup" callId

/-- `tapi_call_send_tones`, which does not look at the tones. -/
def tapiCallSendTones (tones : CString) : Except ℤ Sent :=
  sendCommand cfg context slotId accepts .call unchecked "SendTones" [.text .string tones] (-einval)

end Call

/-! ## Data, messages, and the IMS -/

namespace Data

/-- `tapi_data_request_network`. -/
def tapiDataRequestNetwork (type : CString) : Except ℤ Sent :=
  sendCommand cfg context slotId accepts .data (unlessInvalid type.isSet) "RequestNetwork"
    [.text .string type] (-einval)

/-- `tapi_data_release_network`. -/
def tapiDataReleaseNetwork (type : CString) : Except ℤ Sent :=
  sendCommand cfg context slotId accepts .data (unlessInvalid type.isSet) "ReleaseNetwork"
    [.text .string type] (-einval)

end Data

/-- `tapi_sms_delete_message_from_sim`. -/
def Sms.tapiSmsDeleteMessageFromSim (index : ℤ) : Except ℤ Sent :=
  sendCommand cfg context slotId accepts .sms (unlessInvalid (0 ≤ index)) "DeleteMessageFromSim"
    [.value (.int32 index)] (-einval)

namespace Ims

def imsRegisterEnable : ℤ := 1
def imsRegisterDisable : ℤ := 0

/-- `tapi_ims_enable`. A state that is none of the two is found out behind the proxy. -/
def tapiImsEnable (state : ℤ) : Except ℤ Sent :=
  if state = imsRegisterEnable then
    sendCommand cfg context slotId accepts .ims unchecked "Register" [] (-eio)
  else if state = imsRegisterDisable then
    sendCommand cfg context slotId accepts .ims unchecked "Unregister" [] (-eio)
  else sendCommand cfg context slotId false .ims unchecked "" [] (-einval)

/-- `tapi_ims_turn_on`. -/
def tapiImsTurnOn := tapiImsEnable cfg context slotId accepts imsRegisterEnable

/-- `tapi_ims_turn_off`. -/
def tapiImsTurnOff := tapiImsEnable cfg context slotId accepts imsRegisterDisable

/-- `tapi_ims_set_service_status`. -/
def tapiImsSetServiceStatus (capability : ℤ) : Except ℤ Sent :=
  sendCommand cfg context slotId accepts .ims unchecked "SetCapability" [.value (.int32 capability)]
    (-eio)

end Ims

end

/-! ## A command with a handler -/

/-- `tapi_handle_command`. The callback of its handler is what malloc has left there, and nothing
calls it. -/
def Manager.tapiHandleCommand (cfg : Config) (context : Option DbusContext) (slotId : ℤ)
    (found : Ptr) (atom command : ℤ) : Except ℤ Submission :=
  withProxy cfg context slotId .modem unchecked <|
    plainRequest handlerThenResult (.method "HandleCommand")
      (fun ar => { ar with arg1 := atom, arg2 := command }) found
      (readingRecord fun ar => [.value (.int32 ar.arg1), .value (.int32 ar.arg2)])
      (some .noOperateCallback)

/-! ## What is sent -/

section

variable {cfg : Config} {ctx : DbusContext} {slotId : ℤ} {type : ProxyType}
  {check : DbusContext → Option ℤ} {member : String} {appended : List Appended} {refused : ℤ}

/-- The context has a proxy for the object of the slot. -/
def HasProxy (cfg : Config) (ctx : DbusContext) (slotId : ℤ) (type : ProxyType) : Prop :=
  isValidSlotid cfg slotId = true ∧ ctx.dbusProxy slotId.toNat type ≠ null

instance : Decidable (HasProxy cfg ctx slotId type) := inferInstanceAs (Decidable (_ ∧ _))

/-- A command that passes its checks sends its message to the object of its slot. -/
theorem sendCommand_of_ready (h : HasProxy cfg ctx slotId type) (hcheck : check ctx = none) :
    sendCommand cfg (some ctx) slotId true type check member appended refused =
      .ok ⟨ctx.dbusProxy slotId.toNat type,
        (encodeArgs (fun _ => true) appended).map fun args => ⟨member, args⟩⟩ := by
  simp [sendCommand, h.1, h.2, hcheck]

end

end Telephony
