import Telephony.Signal

/-!
# Signals of supplementary services

## Main definitions

* `Ss.callBarringPropertyChanged`, `Ss.ussdStateChanged`, `Ss.ussdNotificationReceived`,
  `Ss.ussdRequestReceived` — the functions of the signal watches of `tapi_ss.c`

## Main results

* `Ss.keeps_callBarringPropertyChanged` and its companions — the record keeps its origin
-/

namespace Telephony.Ss

open DBus

variable {handler : AsyncHandler Payload} {message : Message} {heap : Heap}

/-- The loop of `call_barring_property_changed`. It leaves the list at the first of the two
properties that it knows. -/
def findCallBarring : Iter → Option (Option CallBarringInfo)
  | .dictEntry k v :: list => do
    let serviceType ← Iter.getString [k]
    let value ← Iter.recurse [v]
    if serviceType = "VoiceIncoming" ∨ serviceType = "VoiceOutgoing" then
      value.getString.map fun s => some ⟨.text serviceType, .text s⟩
    else findCallBarring list
  | _ => some none

/-- `call_barring_property_changed`. It enters the first argument as if that were a dictionary. If
none of the properties is in it, the callback gets the record as it is. -/
def callBarringPropertyChanged (handler : AsyncHandler Payload) (message : Message) (heap : Heap) :
    Option Handling :=
  withCallback handler fun ar =>
    if ar.msgId ≠ IndicationMsg.callBarringPropertyChange.value then some (ignore ar)
    else if message.isError then some (fail ar)
    else if message.args = [] then some (fail ar)
    else
      message.args.recurse.bind fun list =>
        if !heap.callBarringInfo then some (fail ar)
        else
          (findCallBarring list).map fun info =>
            match info with
            | some info => deliver { ar with data := .callBarringInfo info, status := ok }
            | none => deliver ar

/-- `ussd_state_changed`. For another property than the state the callback gets the record as it
is. -/
def ussdStateChanged (handler : AsyncHandler Payload) (message : Message) : Option Handling :=
  withCallback handler fun ar =>
    if ar.msgId ≠ IndicationMsg.ussdPropertyChange.value then some (ignore ar)
    else if message.isError then some (fail ar)
    else if message.args = [] then some (fail ar)
    else
      message.args.getString.bind fun property =>
        message.args.next.recurse.bind fun var =>
          if property = "State" then
            var.getString.map fun s => deliver { ar with data := .text s, status := ok }
          else some (deliver ar)

/-- A text of USSD is delivered, and any other signal as an error. -/
def onUssdText (handler : AsyncHandler Payload) (message : Message) : Option Handling :=
  withCallback handler fun ar =>
    match message.args with
    | .string s :: _ => some (deliver { ar with data := .text s, status := ok })
    | _ => some (fail ar)

/-- `ussd_notification_received`. -/
def ussdNotificationReceived (handler : AsyncHandler Payload) (message : Message) :
    Option Handling :=
  onUssdText handler message

/-- `ussd_request_received`. -/
def ussdRequestReceived (handler : AsyncHandler Payload) (message : Message) : Option Handling :=
  onUssdText handler message

/-! ## The origin of the record -/

theorem keeps_callBarringPropertyChanged :
    Keeps handler.result (callBarringPropertyChanged handler message heap) := by
  refine keeps_withCallback (keeps_ignore.ite (keeps_fail.ite (keeps_fail.ite ?_)))
  refine keeps_bind fun list => keeps_fail.ite ?_
  cases findCallBarring list with
  | none => exact keeps_none
  | some info =>
    cases info with
    | none => exact keeps_some ⟨rfl, rfl, rfl⟩
    | some info => exact keeps_some ⟨rfl, rfl, rfl⟩

theorem keeps_ussdStateChanged : Keeps handler.result (ussdStateChanged handler message) := by
  refine keeps_withCallback (keeps_ignore.ite (keeps_fail.ite (keeps_fail.ite ?_)))
  refine keeps_bind fun property => keeps_bind fun var => Keeps.ite ?_ ?_
  · exact keeps_map fun _ => ⟨rfl, rfl, rfl⟩
  · exact keeps_some ⟨rfl, rfl, rfl⟩

theorem keeps_onUssdText : Keeps handler.result (onUssdText handler message) := by
  apply keeps_withCallback
  split
  · exact keeps_some ⟨rfl, rfl, rfl⟩
  · exact keeps_fail

end Telephony.Ss
