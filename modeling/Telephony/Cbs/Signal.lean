import Telephony.Signal
import Telephony.Sms.Reply

/-!
# Cell broadcast signals

## Main definitions

* `Cbs.unsolCbsMessage` — the function of the signal watches of `tapi_cbs.c`

## Main results

* `Cbs.keeps_unsolCbsMessage` — the record keeps its origin
-/

namespace Telephony.Cbs

open DBus

variable {handler : AsyncHandler Payload} {message : Message} {heap : Heap}
  {ar : AsyncResult Payload}

/-- The entries of an emergency message. Each value is read once before its key is looked at. -/
def fillEmergencyMessage (key : String) (value : Iter) (info : CbsEmergencyMessage) :
    Option CbsEmergencyMessage :=
  if !value.isBasic then none
  else if key = "EmergencyType" then some { info with emergencyType := Sms.basicCString value }
  else if key = "EmergencyAlert" then
    value.getFlag.map fun b => { info with emergencyAlert := b }
  else if key = "Popup" then value.getFlag.map fun b => { info with popup := b }
  else some info

/-- The branch of `unsol_cbs_message` for a message with a channel. The block is cleared. -/
def incomingBroadcast (heap : Heap) (text : String) (args : Iter) (ar : AsyncResult Payload) :
    Option Handling :=
  if !heap.cbsMessage then some (ignore ar)
  else
    args.getUnsignedShort.map fun channel =>
      deliver { ar with data := .cbsMessage ⟨.text text, channel⟩, status := ok }

/-- The branch of `unsol_cbs_message` for an emergency. The block is cleared. -/
def emergencyBroadcast (heap : Heap) (text : String) (args : Iter) (ar : AsyncResult Payload) :
    Option Handling :=
  if !heap.cbsMessage then some (ignore ar)
  else
    args.recurse.bind fun list =>
      (foldDict fillEmergencyMessage list ⟨.text text, .null, false, false⟩).map fun info =>
        deliver { ar with data := .cbsEmergencyMessage info, status := ok }

/-- `unsol_cbs_message`. -/
def unsolCbsMessage (handler : AsyncHandler Payload) (message : Message) (heap : Heap) :
    Option Handling :=
  withCallback handler fun ar =>
    if message.type ≠ .signal then some (ignore ar)
    else
      match message.args with
      | .string text :: args =>
        if message.member = "IncomingBroadcast" then incomingBroadcast heap text args ar
        else if message.member = "EmergencyBroadcast" then emergencyBroadcast heap text args ar
        else some (ignore ar)
      | _ => some (ignore ar)

theorem keeps_incomingBroadcast {text : String} {args : Iter} :
    Keeps ar (incomingBroadcast heap text args ar) :=
  keeps_ignore.ite (keeps_map fun _ => ⟨rfl, rfl, rfl⟩)

theorem keeps_emergencyBroadcast {text : String} {args : Iter} :
    Keeps ar (emergencyBroadcast heap text args ar) :=
  keeps_ignore.ite (keeps_bind fun _ => keeps_map fun _ => ⟨rfl, rfl, rfl⟩)

theorem keeps_unsolCbsMessage :
    Keeps handler.result (unsolCbsMessage handler message heap) := by
  refine keeps_withCallback (keeps_ignore.ite ?_)
  split
  · exact keeps_incomingBroadcast.ite (keeps_emergencyBroadcast.ite keeps_ignore)
  · exact keeps_ignore

end Telephony.Cbs
