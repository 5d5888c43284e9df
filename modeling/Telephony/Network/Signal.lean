import Telephony.Network.Reply
import Telephony.Signal

/-!
# Network signals

## Main definitions

* `Network.networkStateChanged`, `Network.cellinfoListChanged`, `Network.signalStrengthChanged`,
  `Network.nitzStateChanged` — the functions of the signal watches of `tapi_network.c`

## Main results

* `Network.keeps_networkStateChanged` and its companions — the record keeps its origin
-/

namespace Telephony.Network

open DBus

variable {handler : AsyncHandler Payload} {message : Message} {heap : Heap}

/-! ## Signal functions -/

/-- The properties that `network_state_changed` reports. -/
def networkProperties : List String :=
  ["Mode", "Name", "Status", "LocationAreaCode", "CellId", "DenialReason", "Technology",
    "BaseStation", "MobileCountryCode", "MobileNetworkCode"]

/-- `network_state_changed`. Only the name of the property is looked at. -/
def networkStateChanged (handler : AsyncHandler Payload) (message : Message) : Option Handling :=
  withCallback handler fun ar =>
    if ar.msgId ≠ IndicationMsg.networkStateChange.value
        ∧ ar.msgId ≠ IndicationMsg.voiceRegistrationStateChange.value then
      some (ignore ar)
    else if message.args = [] then some (ignore ar)
    else
      message.args.getString.map fun property =>
        if property ∈ networkProperties then deliver { ar with status := ok } else ignore ar

/-- `cellinfo_list_changed`. -/
def cellinfoListChanged (handler : AsyncHandler Payload) (message : Message) (heap : Heap) :
    Option Handling :=
  onlyFor .cellinfoChange handler <|
    onSignal handler message fun args ar =>
      args.getString.bind fun property =>
        if property ≠ "CellList" then some (ignore ar)
        else if args.next.argType ≠ .array then some (ignore ar)
        else
          (decodeCellList heap args.next).map fun cells =>
            deliver { ar with status := ok, arg2 := cells.length, data := .cellList cells }

/-- The properties that `signal_strength_changed` knows. -/
def signalStrengthProperties : PropertyTable SignalStrength :=
  [("ReceivedSignalStrengthIndicator", .int fun n ss => { ss with rssi := n }),
    ("ReferenceSignalReceivedPower", .int fun n ss => { ss with rsrp := n }),
    ("ReferenceSignalReceivedQuality", .int fun n ss => { ss with rsrq := n }),
    ("SingalToNoiseRatio", .int fun n ss => { ss with rssnr := n }),
    ("ChannelQualityIndicator", .int fun n ss => { ss with cqi := n }),
    ("Level", .int fun n ss => { ss with level := n })]

/-- `signal_strength_changed`. -/
def signalStrengthChanged (handler : AsyncHandler Payload) (message : Message) (heap : Heap) :
    Option Handling :=
  onlyFor .signalStrengthChange handler <|
    onPropertySignal handler message fun property var ar =>
      if property = "SignalStrength" then
        var.recurse.bind fun dict =>
          match heap.signalStrength with
          | none => some (ignore ar)
          | some block =>
            (signalStrengthProperties.readAll dict block).map fun ss =>
              deliver { ar with status := ok, data := .signalStrength ss }
      else some (ignore ar)

/-- `nitz_state_changed`. -/
def nitzStateChanged (handler : AsyncHandler Payload) (message : Message) (heap : Heap) :
    Option Handling :=
  onlyFor .nitzStateChange handler <|
    onPropertySignal handler message fun property var ar =>
      if property = "NITZ" then
        var.getString.bind fun result =>
          match heap.networkTime with
          | none => some (ignore ar)
          | some block =>
            (parseNitz heap result block).map fun nitzTime =>
              deliver { ar with status := ok, data := .networkTime nitzTime }
      else some (ignore ar)

/-! ## Origins -/

theorem keeps_networkStateChanged :
    Keeps handler.result (networkStateChanged handler message) := by
  refine keeps_withCallback (keeps_ignore.ite (keeps_ignore.ite ?_))
  cases Iter.getString message.args with
  | none => exact keeps_none
  | some property =>
    apply keeps_some
    dsimp only
    split <;> exact ⟨rfl, rfl, rfl⟩

theorem keeps_cellinfoListChanged :
    Keeps handler.result (cellinfoListChanged handler message heap) := by
  refine keeps_onlyFor (keeps_onSignal fun args => keeps_bind fun property => ?_)
  exact keeps_ignore.ite (keeps_ignore.ite (keeps_map fun _ => ⟨rfl, rfl, rfl⟩))

theorem keeps_signalStrengthChanged :
    Keeps handler.result (signalStrengthChanged handler message heap) := by
  refine keeps_onlyFor (keeps_onPropertySignal fun property var => ?_)
  refine Keeps.ite (keeps_bind fun dict => ?_) keeps_ignore
  cases heap.signalStrength with
  | none => exact keeps_ignore
  | some block => exact keeps_map fun _ => ⟨rfl, rfl, rfl⟩

theorem keeps_nitzStateChanged :
    Keeps handler.result (nitzStateChanged handler message heap) := by
  refine keeps_onlyFor (keeps_onPropertySignal fun property var => ?_)
  refine Keeps.ite (keeps_bind fun result => ?_) keeps_ignore
  cases heap.networkTime with
  | none => exact keeps_ignore
  | some block => exact keeps_map fun _ => ⟨rfl, rfl, rfl⟩

end Telephony.Network
