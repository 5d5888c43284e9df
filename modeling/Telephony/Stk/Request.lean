import Telephony.Stk.System
import Telephony.Submission

/-!
# SIM toolkit requests

## Main definitions

* `Stk.tapiStkAgentRegister`, `Stk.tapiStkSelectItem`, … — the requests of `tapi_stk.c` to the
  modem, with the setup functions that build their messages
-/

namespace Telephony.Stk

open DBus Ledger

variable (cfg : Config) (context : Option DbusContext) (slotId eventId : ℤ) (pHandle : Ptr)

/-! ## Setup functions -/

/-- `stk_agent_register_param_append`. -/
def stkAgentRegisterParamAppend : UserData → Setup :=
  readingRecord fun ar => [.text .objectPath ar.data.cstring]

/-- `stk_select_item_param_append`. -/
def stkSelectItemParamAppend : UserData → Setup :=
  readingParams
    (fun
      | .stkSelectItem item agentId => [.value (.byte item), .text .objectPath agentId]
      | _ => [])
    []

/-! ## Requests -/

/-- A request that names an agent. -/
def registrationRequest (member : String) (agentId : CString) : Except ℤ Submission :=
  withProxy cfg context slotId .stk (unlessInvalid agentId.isSet) <|
    plainRequest handlerThenResult (.method member)
      (fun ar => { stamp eventId slotId ar with data := agentId.payload }) pHandle
      stkAgentRegisterParamAppend (some .stkMethodCallComplete)

/-- `tapi_stk_agent_register`. -/
def tapiStkAgentRegister (agentId : CString) : Except ℤ Submission :=
  registrationRequest cfg context slotId eventId pHandle "RegisterAgent" agentId

/-- `tapi_stk_agent_unregister`. -/
def tapiStkAgentUnregister (agentId : CString) : Except ℤ Submission :=
  registrationRequest cfg context slotId eventId pHandle "UnregisterAgent" agentId

/-- The path of the default agent of a slot, or NULL. -/
def defaultAgentId : CString := (stkAgentDefaultPath slotId).elim .null .text

/-- `tapi_stk_default_agent_register`. The checks of the context and the slot that it makes
first are made again by the function that it calls. -/
def tapiStkDefaultAgentRegister : Except ℤ Submission :=
  tapiStkAgentRegister cfg context slotId eventId pHandle (defaultAgentId slotId)

/-- `tapi_stk_default_agent_unregister`. -/
def tapiStkDefaultAgentUnregister : Except ℤ Submission :=
  tapiStkAgentUnregister cfg context slotId eventId pHandle (defaultAgentId slotId)

/-- `tapi_stk_select_item`. -/
def tapiStkSelectItem (item : ℤ) (agentId : CString) : Except ℤ Submission :=
  withProxy cfg context slotId .stk (unlessInvalid agentId.isSet) <|
    ownedRequest paramsThenHandler (.method "SelectItem") (.stkSelectItem item agentId)
      (stamp eventId slotId) pHandle stkSelectItemParamAppend .stkMethodCallComplete

end Telephony.Stk
