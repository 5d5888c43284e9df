import Telephony.Call.Signal
import Telephony.Manager.Reply

/-!
# Signals of the modem and the manager

## Main definitions

* `Manager.radioStateChanged`, `Manager.phoneStateChanged`, … — the functions of the signal
  watches of `tapi_manager.c`

## Main results

* `Manager.keeps_phoneStateChanged` and its companions — the record keeps its origin, except
  that `modem_ecc_list_change` gives it the id of the other list of emergency numbers
-/

namespace Telephony.Manager

open DBus

variable {handler : AsyncHandler Payload} {message : Message}

/-! ## Properties of the modem -/

/-- `radio_state_changed`. -/
def radioStateChanged (handler : AsyncHandler Payload) (message : Message) : Option Handling :=
  onlyFor .radioStateChange handler (onIntProperty handler message "RadioState")

/-- `airplane_mode_changed`. -/
def airplaneModeChanged (handler : AsyncHandler Payload) (message : Message) : Option Handling :=
  onlyFor .airplaneModeChange handler (onIntProperty handler message "Online")

/-- `modem_state_changed`. -/
def modemStateChanged (handler : AsyncHandler Payload) (message : Message) : Option Handling :=
  onlyFor .modemStateChange handler (onIntProperty handler message "ModemState")

/-- The handler of `modem_ecc_list_change`, which reports the list under the id of the one of
`tapi_call_property_change`. -/
def eccHandler (handler : AsyncHandler Payload) : AsyncHandler Payload :=
  { handler with result := { handler.result with msgId := IndicationMsg.eccListChange.value } }

/-- `modem_ecc_list_change`. -/
def modemEccListChange (handler : AsyncHandler Payload) (message : Message) : Option Handling :=
  onSignal (eccHandler handler) message fun args ar =>
    args.getString.bind fun key =>
      if key = "EmergencyNumbers" then Call.deliverEccList args ar else some (ignore ar)

/-! ## Other signals -/

/-- `phone_state_changed`. -/
def phoneStateChanged (handler : AsyncHandler Payload) (message : Message) : Option Handling :=
  withCallback handler fun ar =>
    if message.args = [] then some (fail ar) else deliverInt message.args ar

/-- `process_oem_hook_raw_indication`. -/
def processOemHookRawIndication (handler : AsyncHandler Payload) (message : Message) :
    Option Handling :=
  withCallback handler fun ar =>
    if message.args = [] then some (fail ar)
    else
      message.args.getFixedArray.map fun response =>
        deliver { ar with data := .bytes response, arg2 := response.length, status := ok }

/-- `modem_restart`. -/
def modemRestart (handler : AsyncHandler Payload) : Option Handling :=
  withCallback handler fun ar => some (deliver { ar with status := ok })

/-- `device_info_changed`. -/
def deviceInfoChanged (handler : AsyncHandler Payload) : Option Handling :=
  withCallback handler fun ar => some (deliver { ar with status := ok })

/-- `tapi_data_log_ind`. -/
def tapiDataLogInd (handler : AsyncHandler Payload) (message : Message) : Option Handling :=
  withCallback handler fun ar =>
    match message.args with
    | .string outData :: _ => some (deliver { ar with data := .text outData, status := ok })
    | _ => some (ignore ar)

/-! ## Origins -/

theorem keeps_modemEccListChange :
    Keeps (eccHandler handler).result (modemEccListChange handler message) :=
  keeps_onSignal fun _ => keeps_bind fun _ => Call.keeps_deliverEccList.ite keeps_ignore

theorem keeps_phoneStateChanged : Keeps handler.result (phoneStateChanged handler message) :=
  keeps_withCallback (keeps_fail.ite keeps_deliverInt)

theorem keeps_processOemHookRawIndication :
    Keeps handler.result (processOemHookRawIndication handler message) :=
  keeps_withCallback (keeps_fail.ite (keeps_map fun _ => ⟨rfl, rfl, rfl⟩))

theorem keeps_modemRestart : Keeps handler.result (modemRestart handler) :=
  keeps_withCallback (keeps_some ⟨rfl, rfl, rfl⟩)

theorem keeps_tapiDataLogInd : Keeps handler.result (tapiDataLogInd handler message) := by
  apply keeps_withCallback
  split
  · exact keeps_some ⟨rfl, rfl, rfl⟩
  · exact keeps_ignore

end Telephony.Manager
