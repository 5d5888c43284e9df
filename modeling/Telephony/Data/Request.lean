import Telephony.Submission

/-!
# Data requests

## Main definitions

* `Data.tapiDataAddApnContext`, `Data.tapiDataLoadApnContexts`, … — the requests of
  `tapi_data.c`, with the setup functions that build their messages
-/

namespace Telephony.Data

open DBus Ledger

variable (cfg : Config) (context : Option DbusContext) (slotId eventId : ℤ) (pHandle : Ptr)

/-! ## Names -/

/-- `tapi_utils_apn_type_to_string`. Every value of the enumeration has a name, so the check of
the requests for a type without one never fails. -/
def tapiUtilsApnTypeToString : DataContextType → String
  | .any => ""
  | .internet => "internet"
  | .hipri => "hipri"
  | .supl => "supl"
  | .mms => "mms"
  | .wap => "wap"
  | .ims => "ims"
  | .emergency => "emergency"

/-- The number of a protocol. -/
def DataProto.value (protocol : DataProto) : ℤ := protocol.ctorIdx

/-- The number of an authentication method. -/
def DataAuthMethod.value (authMethod : DataAuthMethod) : ℤ := authMethod.ctorIdx

/-! ## Setup functions -/

/-- What `apn_context_append` and `apn_context_edit` append in the same order. -/
def apnContextFields (dc : DataContext) : List Appended :=
  [.value (.string (tapiUtilsApnTypeToString dc.type)), .copied dc.name,
    .copied dc.accesspointname, .copied dc.username, .copied dc.password,
    .value (.int32 (DataProto.value dc.protocol)),
    .value (.int32 (DataAuthMethod.value dc.authMethod))]

/-- A setup function that reads the APN of the caller. -/
def readingApn (append : DataContext → List Appended) : UserData → Setup :=
  readingRecord fun ar =>
    match ar.data with
    | .dataContext dc => append dc
    | _ => []

/-- `apn_context_append`. -/
def apnContextAppend : UserData → Setup := readingApn apnContextFields

/-- `dbus_validate_path`. -/
def validPath (s : String) : Bool :=
  match s.toList with
  | '/' :: [] => true
  | '/' :: cs => (cs.splitOn '/').all fun element =>
      element ≠ [] && element.all fun c => (c.isAlphanum && c.toNat < 128) || c = '_'
  | _ => false

/-- `apn_context_remove`. An id that is no path is left out. -/
def apnContextRemove : UserData → Setup :=
  readingApn fun dc =>
    match dc.id with
    | .text id => if validPath id then [.value (.objectPath id)] else []
    | id => [.text .objectPath id]

/-- `apn_context_edit`. -/
def apnContextEdit : UserData → Setup :=
  readingApn fun dc => .text .objectPath dc.id :: apnContextFields dc

/-! ## Requests -/

/-- `tapi_data_load_apn_contexts`. -/
def tapiDataLoadApnContexts : Except ℤ Submission :=
  withProxy cfg context slotId .data unchecked <|
    plainRequest handlerThenResult (.method "GetContexts") (stamp eventId slotId) pHandle
      (fun _ => {}) (some .apnListLoaded)

/-- A request that is about an APN of the caller. -/
def apnRequest (member : String) (apn : Option DataContext) (setup : UserData → Setup) :
    Except ℤ Submission :=
  withProxy cfg context slotId .data (unlessInvalid apn.isSome) <|
    plainRequest handlerThenResult (.method member)
      (fun ar => { stamp eventId slotId ar with data := apn.elim .null .dataContext }) pHandle
      setup (some .apnListChanged)

/-- `tapi_data_add_apn_context`. -/
def tapiDataAddApnContext (apn : Option DataContext) : Except ℤ Submission :=
  apnRequest cfg context slotId eventId pHandle "AddContext" apn apnContextAppend

/-- `tapi_data_remove_apn_context`. -/
def tapiDataRemoveApnContext (apn : Option DataContext) : Except ℤ Submission :=
  apnRequest cfg context slotId eventId pHandle "RemoveContext" apn apnContextRemove

/-- `tapi_data_edit_apn_context`. -/
def tapiDataEditApnContext (apn : Option DataContext) : Except ℤ Submission :=
  apnRequest cfg context slotId eventId pHandle "EditContext" apn apnContextEdit

/-- `tapi_data_reset_apn_contexts`. -/
def tapiDataResetApnContexts : Except ℤ Submission :=
  withProxy cfg context slotId .data unchecked <|
    plainRequest handlerThenResult (.method "ResetContexts") (stamp eventId slotId) pHandle
      (fun _ => {}) (some .apnListChanged)

/-- `tapi_data_get_data_connection_list`. -/
def tapiDataGetDataConnectionList : Except ℤ Submission :=
  withProxy cfg context slotId .data unchecked <|
    plainRequest handlerThenResult (.method "GetContexts") (stamp eventId slotId) pHandle
      (fun _ => {}) (some .dataConnectionListQueryDone)

/-- `tapi_data_set_data_allow`. -/
def tapiDataSetDataAllow (allowed : Bool) : Except ℤ Submission :=
  withProxy cfg context slotId .data whenReady <|
    plainRequest handlerThenResult (.property "DataAllowed" (.value (.boolean allowed.toNat)))
      (stamp eventId slotId) pHandle (fun _ => {}) (some .propertySetDone)

end Telephony.Data
