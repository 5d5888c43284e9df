import Telephony.Signal
import Telephony.Sms.Reply

/-!
# Message signals

The signals that carry messages are with the replies, which share their structures. What is left
is the property that names the slot for messages.

## Main definitions

* `Sms.smsPropertyChanged` — the function of the watch of the slot for messages

## Main results

* `Sms.keeps_smsPropertyChanged`, `Sms.keeps_unsolSmsMessage` — the record keeps its origin
-/

namespace Telephony.Sms

open DBus

variable {handler : AsyncHandler Payload} {message : Message} {heap : Heap}

/-- `sms_property_changed`. -/
def smsPropertyChanged (cfg : Config) (handler : AsyncHandler Payload) (message : Message) :
    Option Handling :=
  onPropertySignal handler message fun property var ar =>
    if property = "SmsSlot" then
      var.getString.map fun slot =>
        deliver { ar with arg2 := tapiUtilsGetSlotId cfg slot, status := ok }
    else some (ignore ar)

theorem keeps_smsPropertyChanged {cfg : Config} :
    Keeps handler.result (smsPropertyChanged cfg handler message) :=
  keeps_onPropertySignal fun _ _ =>
    Keeps.ite (keeps_map fun _ => ⟨rfl, rfl, rfl⟩) keeps_ignore

theorem keeps_decodeMessage {ar : AsyncResult Payload} {text : String} {args : Iter} :
    Keeps ar (decodeMessage heap message text args ar) := by
  intro r hr
  obtain ⟨-, rfl⟩ | ⟨-, info, -, rfl⟩ := decodeMessage_cases hr
  · exact ⟨rfl, rfl, rfl⟩
  · exact ⟨rfl, rfl, rfl⟩

theorem keeps_unsolSmsMessage :
    Keeps handler.result (unsolSmsMessage handler message heap) := by
  refine keeps_withCallback (keeps_ignore.ite (keeps_fail.ite ?_))
  split
  · exact keeps_decodeMessage.ite (keeps_some ⟨rfl, rfl, rfl⟩)
  · exact keeps_fail

end Telephony.Sms
