import Telephony.Signal

/-!
# SIM signals

## Main definitions

* `Sim.simPropertyChanged` — the function of the signal watches of `tapi_sim.c`

## Main results

* `Sim.keeps_simPropertyChanged` — the record keeps its origin
-/

namespace Telephony.Sim

open DBus

variable {handler : AsyncHandler Payload} {message : Message}

/-- `sim_property_changed`. -/
def simPropertyChanged (handler : AsyncHandler Payload) (message : Message) : Option Handling :=
  onPropertySignal handler message fun property var ar =>
    if ar.msgId = IndicationMsg.simStateChange.value ∧ property = "SimState" then
      deliverInt var ar
    else if ar.msgId = IndicationMsg.simUiccAppEnabledChange.value ∧ property = "UiccActive" then
      deliverInt var ar
    else if ar.msgId = IndicationMsg.simIccidChange.value ∧ property = "CardIdentifier" then
      var.getString.map fun iccid => deliver { ar with data := .text iccid, status := ok }
    else some (ignore ar)

theorem keeps_simPropertyChanged :
    Keeps handler.result (simPropertyChanged handler message) := by
  refine keeps_onPropertySignal fun property var => ?_
  refine keeps_deliverInt.ite (keeps_deliverInt.ite (Keeps.ite ?_ keeps_ignore))
  exact keeps_map fun _ => ⟨rfl, rfl, rfl⟩

end Telephony.Sim
