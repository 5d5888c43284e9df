import Telephony.Cbs.Signal
import Telephony.Data.Signal
import Telephony.Ims.Signal
import Telephony.Manager.Signal
import Telephony.Network.Signal
import Telephony.Sim.Signal
import Telephony.Sms.Signal
import Telephony.Ss.Signal

/-!
# The signal functions of the library

Every signal watch names the function that is to be invoked with its signals.

## Main definitions

* `Telephony.SignalFunction.run` — what a function does with a signal
* `Telephony.SignalFunction.stamped` — the handler as the function works with it

## Main results

* `Telephony.SignalFunction.keeps_run` — no function but `modem_ecc_list_change` changes what a
  record says about its origin
-/

namespace Telephony

open DBus

namespace SignalFunction

variable {cfg : Config} {interface : Interface} {handler : AsyncHandler Payload}
  {message : Message} {heap : Heap} {f : SignalFunction}

/-- The function, applied to the handler of its watch and a signal of the given interface. -/
def run (f : SignalFunction) (cfg : Config) (interface : Interface)
    (handler : AsyncHandler Payload) (message : Message) (heap : Heap) : Option Handling :=
  match f with
  | .callStateChanged => Call.callStateChanged handler message
  | .callManagerPropertyChanged => Call.callManagerPropertyChanged cfg interface handler message
  | .networkStateChanged => Network.networkStateChanged handler message
  | .cellinfoListChanged => Network.cellinfoListChanged handler message heap
  | .signalStrengthChanged => Network.signalStrengthChanged handler message heap
  | .nitzStateChanged => Network.nitzStateChanged handler message heap
  | .dataPropertyChanged => Data.dataPropertyChanged cfg handler message
  | .dataConnectionChanged => Data.dataConnectionChanged handler message heap
  | .simPropertyChanged => Sim.simPropertyChanged handler message
  | .unsolSmsMessage => Sms.unsolSmsMessage handler message heap
  | .smsPropertyChanged => Sms.smsPropertyChanged cfg handler message
  | .unsolCbsMessage => Cbs.unsolCbsMessage handler message heap
  | .radioStateChanged => Manager.radioStateChanged handler message
  | .phoneStateChanged => Manager.phoneStateChanged handler message
  | .processOemHookRawIndication => Manager.processOemHookRawIndication handler message
  | .modemRestart => Manager.modemRestart handler
  | .airplaneModeChanged => Manager.airplaneModeChanged handler message
  | .deviceInfoChanged => Manager.deviceInfoChanged handler
  | .modemStateChanged => Manager.modemStateChanged handler message
  | .modemEccListChange => Manager.modemEccListChange handler message
  | .imsRegistrationChanged => Ims.imsRegistrationChanged interface handler message
  | .tapiDataLogInd => Manager.tapiDataLogInd handler message
  | .callBarringPropertyChanged => Ss.callBarringPropertyChanged handler message heap
  | .ussdStateChanged => Ss.ussdStateChanged handler message
  | .ussdNotificationReceived => Ss.ussdNotificationReceived handler message
  | .ussdRequestReceived => Ss.ussdRequestReceived handler message

/-- The handler as the function works with it. -/
def stamped (f : SignalFunction) (handler : AsyncHandler Payload) : AsyncHandler Payload :=
  match f with
  | .modemEccListChange => Manager.eccHandler handler
  | _ => handler

theorem keeps_run :
    Keeps (f.stamped handler).result (f.run cfg interface handler message heap) := by
  cases f with
  | callStateChanged => exact Call.keeps_callStateChanged
  | callManagerPropertyChanged => exact Call.keeps_callManagerPropertyChanged
  | networkStateChanged => exact Network.keeps_networkStateChanged
  | cellinfoListChanged => exact Network.keeps_cellinfoListChanged
  | signalStrengthChanged => exact Network.keeps_signalStrengthChanged
  | nitzStateChanged => exact Network.keeps_nitzStateChanged
  | dataPropertyChanged => exact Data.keeps_dataPropertyChanged
  | dataConnectionChanged => exact Data.keeps_dataConnectionChanged
  | simPropertyChanged => exact Sim.keeps_simPropertyChanged
  | unsolSmsMessage => exact Sms.keeps_unsolSmsMessage
  | smsPropertyChanged => exact Sms.keeps_smsPropertyChanged
  | unsolCbsMessage => exact Cbs.keeps_unsolCbsMessage
  | radioStateChanged | airplaneModeChanged | modemStateChanged =>
    exact keeps_onlyFor keeps_onIntProperty
  | phoneStateChanged => exact Manager.keeps_phoneStateChanged
  | processOemHookRawIndication => exact Manager.keeps_processOemHookRawIndication
  | modemRestart | deviceInfoChanged => exact Manager.keeps_modemRestart
  -- the record gets the id of the emergency numbers first
  | modemEccListChange => exact Manager.keeps_modemEccListChange
  | imsRegistrationChanged => exact Ims.keeps_imsRegistrationChanged
  | tapiDataLogInd => exact Manager.keeps_tapiDataLogInd
  | callBarringPropertyChanged => exact Ss.keeps_callBarringPropertyChanged
  | ussdStateChanged => exact Ss.keeps_ussdStateChanged
  | ussdNotificationReceived | ussdRequestReceived => exact Ss.keeps_onUssdText

end SignalFunction

end Telephony
