import Telephony.Call.Reply
import Telephony.Signal
import Telephony.Strings

/-!
# Call signals

## Main definitions

* `Call.eccEntries` — the loop that reads emergency numbers
* `Call.callStateChanged`, `Call.callManagerPropertyChanged` — the functions of the signal
  watches of `tapi_call.c`

## Main results

* `Call.keeps_callManagerPropertyChanged` and its companion — the record keeps its origin
-/

namespace Telephony.Call

open DBus

variable {handler : AsyncHandler Payload} {message : Message}

/-! ## Emergency numbers -/

/-- `MAX_ECC_LIST_SIZE`. -/
def maxEccListSize : ℕ := 30

/-- The category and the condition that follow a number. With fewer than two numbers in the text
the loop would convert NULL. -/
def eccCondition (eccNum text : String) : Option EccInfo :=
  match strtok text ',' with
  | category :: condition :: _ => some ⟨.text eccNum, atoi category, atoi condition⟩
  | _ => none

/-- The loop that reads emergency numbers, with room for so many: each number comes with a text
behind it, and whatever else stands there is skipped. -/
def eccEntries : ℕ → Iter → Option (List EccInfo)
  | room + 1, .string eccNum :: .string text :: array =>
    (eccCondition eccNum text).bind fun info => (eccEntries room array).map (info :: ·)
  | room + 1, .string eccNum :: array =>
    (eccEntries room array.tail).map (⟨.text eccNum, 0, 0⟩ :: ·)
  | _, _ => some []

/-- What is delivered if the property is the list of emergency numbers. -/
def deliverEccList (iter : Iter) (ar : AsyncResult Payload) : Option Handling :=
  iter.next.recurse.bind fun list =>
    list.recurse.bind fun array =>
      (eccEntries maxEccListSize array).map fun infos =>
        deliver { ar with status := ok, data := .eccList infos, arg2 := infos.length }

theorem keeps_deliverEccList {iter : Iter} {ar : AsyncResult Payload} :
    Keeps ar (deliverEccList iter ar) :=
  keeps_bind fun _ => keeps_bind fun _ => keeps_map fun _ => ⟨rfl, rfl, rfl⟩

/-! ## Signal functions -/

/-- `call_state_changed`. The return value of the decoder is never 0, so a call that does not fit
is delivered too. -/
def callStateChanged (handler : AsyncHandler Payload) (message : Message) : Option Handling :=
  onSignal handler message fun args ar =>
    (decodeVoiceCallInfo args).map fun (decoded, info) =>
      if decoded ≠ 0 then deliver { ar with data := .callInfo info, status := ok } else ignore ar

/-- `tapi_call_property_change`. -/
def tapiCallPropertyChange (handler : AsyncHandler Payload) (message : Message) :
    Option Handling :=
  withCallback handler fun ar =>
    match message.args with
    | .string key :: _ =>
      if ar.msgId = IndicationMsg.eccListChange.value ∧ key = "EmergencyNumbers" then
        deliverEccList message.args ar
      else some (ignore ar)
    | _ => some (ignore ar)

/-- `ring_back_tone_change`. -/
def ringBackToneChange (handler : AsyncHandler Payload) (message : Message) : Option Handling :=
  withCallback handler fun ar =>
    match message.args with
    | .fixed .int32 n :: _ => some (deliver { ar with arg2 := n, status := ok })
    | _ => some (ignore ar)

/-- `tapi_call_default_voicecall_slot_change`. -/
def tapiCallDefaultVoicecallSlotChange (cfg : Config) (handler : AsyncHandler Payload)
    (message : Message) : Option Handling :=
  onPropertySignal handler message fun property var ar =>
    if property = "VoiceCallSlot" then
      var.getString.map fun slot =>
        deliver { ar with arg2 := tapiUtilsGetSlotId cfg slot, status := ok }
    else some (ignore ar)

/-- `call_manager_property_changed`, for a signal of the given interface. -/
def callManagerPropertyChanged (cfg : Config) (interface : Interface)
    (handler : AsyncHandler Payload) (message : Message) : Option Handling :=
  let isSignal (i : Interface) (member : String) : Bool :=
    message.type = .signal ∧ interface = i ∧ message.member = member
  let msgId := handler.result.msgId
  if isSignal .voicecallManager "PropertyChanged" then tapiCallPropertyChange handler message
  else if isSignal .voicecallManager "RingBackTone"
      ∧ msgId = IndicationMsg.callRingBackTone.value then
    ringBackToneChange handler message
  else if isSignal .manager "PropertyChanged"
      ∧ msgId = IndicationMsg.defaultVoicecallSlotChange.value then
    tapiCallDefaultVoicecallSlotChange cfg handler message
  else some (ignore handler.result)

/-! ## Origins -/

theorem keeps_callStateChanged : Keeps handler.result (callStateChanged handler message) := by
  apply keeps_onSignal
  intro args
  cases decodeVoiceCallInfo args with
  | none => exact keeps_none
  | some decoded =>
    apply keeps_some
    dsimp only
    split <;> exact ⟨rfl, rfl, rfl⟩

theorem keeps_tapiCallPropertyChange :
    Keeps handler.result (tapiCallPropertyChange handler message) := by
  apply keeps_withCallback
  split
  · exact keeps_deliverEccList.ite keeps_ignore
  · exact keeps_ignore

theorem keeps_ringBackToneChange :
    Keeps handler.result (ringBackToneChange handler message) := by
  apply keeps_withCallback
  split
  · exact keeps_some ⟨rfl, rfl, rfl⟩
  · exact keeps_ignore

theorem keeps_callManagerPropertyChanged {cfg : Config} {interface : Interface} :
    Keeps handler.result (callManagerPropertyChanged cfg interface handler message) := by
  refine keeps_tapiCallPropertyChange.ite (keeps_ringBackToneChange.ite (Keeps.ite ?_ keeps_ignore))
  exact keeps_onPropertySignal fun _ _ =>
    Keeps.ite (keeps_map fun _ => ⟨rfl, rfl, rfl⟩) keeps_ignore

end Telephony.Call
