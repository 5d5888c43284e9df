import Telephony.Signal

/-!
# IMS signals

## Main definitions

* `Ims.imsRegistrationChanged` — the function of the signal watch of `tapi_ims.c`

## Main results

* `Ims.keeps_imsRegistrationChanged` — the record keeps its origin
-/

namespace Telephony.Ims

open DBus

variable {handler : AsyncHandler Payload} {message : Message}

/-- The number that a property of the registration is reported under. The record keeps its number
for a property that is not known. -/
def registrationInfoType (property : String) (arg1 : ℤ) : ℤ :=
  if property = "Registered" then 0
  else if property = "VoiceCapable" then 1
  else if property = "SmsCapable" then 2
  else arg1

/-- `ims_registration_changed`, for a signal of the given interface. -/
def imsRegistrationChanged (interface : Interface) (handler : AsyncHandler Payload)
    (message : Message) : Option Handling :=
  withCallback handler fun ar =>
    if message.type = .signal ∧ interface = .ims ∧ message.member = "PropertyChanged"
        ∧ ar.msgId = IndicationMsg.imsRegistrationMessage.value then
      if message.args = [] then some (ignore { ar with status := error })
      else
        message.args.getString.bind fun key =>
          message.args.next.recurse.bind fun var =>
            var.getInt.map fun val =>
              deliver { ar with
                arg1 := registrationInfoType key ar.arg1, arg2 := val, status := ok }
    else some (ignore ar)

theorem keeps_imsRegistrationChanged {interface : Interface} :
    Keeps handler.result (imsRegistrationChanged interface handler message) := by
  refine keeps_withCallback (Keeps.ite (Keeps.ite ?_ ?_) keeps_ignore)
  · exact keeps_some ⟨rfl, rfl, rfl⟩
  · exact keeps_bind fun _ => keeps_bind fun _ => keeps_map fun _ => ⟨rfl, rfl, rfl⟩

end Telephony.Ims
