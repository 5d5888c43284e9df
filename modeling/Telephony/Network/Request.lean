import Telephony.Submission

/-!
# Network requests

## Main definitions

* `Network.tapiNetworkSelectManual`, `Network.tapiNetworkScan`, … — the requests of
  `tapi_network.c`, with the setup functions that build their messages
-/

namespace Telephony.Network

open DBus Ledger

variable (cfg : Config) (context : Option DbusContext) (slotId eventId : ℤ) (pHandle : Ptr)

/-! ## Setup functions -/

/-- `register_param_append`. -/
def registerParamAppend : UserData → Setup :=
  readingRecord fun ar =>
    match ar.data with
    | .operatorInfo network =>
      [.copied network.mcc, .copied network.mnc, .copied network.technology]
    | _ => []

/-- `cell_info_list_rate_param_append`. -/
def cellInfoListRateParamAppend : UserData → Setup :=
  readingRecord fun ar => [.value (.uint32 (ar.arg2 % 2 ^ 32))]

/-! ## Requests -/

/-- A request without arguments. -/
def bareRequest (type : ProxyType) (member : String) (function : ReplyFunction) :
    Except ℤ Submission :=
  withProxy cfg context slotId type unchecked <|
    plainRequest handlerThenResult (.method member) (stamp eventId slotId) pHandle
      (fun _ => {}) (some function)

/-- `tapi_network_select_auto`. -/
def tapiNetworkSelectAuto : Except ℤ Submission :=
  bareRequest cfg context slotId eventId pHandle .netreg "Register" .networkRegisterCb

/-- The network of the caller has an id that is not too long. -/
def fitsNetworkInfo (network : Option OperatorInfo) : Bool :=
  network.all fun info => info.id.utf8ByteSize ≤ maxNetworkInfoLength

/-- `tapi_network_select_manual`. The length of the id is checked between the allocations. -/
def tapiNetworkSelectManual (network : Option OperatorInfo) : Except ℤ Submission :=
  withProxy cfg context slotId .netreg (unlessInvalid network.isSome) <|
    plainRequest
      [.alloc .handler [] (-enomem),
        .check (fitsNetworkInfo network) [.free .handler] (-enomem),
        .alloc .result [.free .handler] (-enomem)]
      (.method "RegisterManual")
      (fun ar => { stamp eventId slotId ar with data := network.elim .null .operatorInfo })
      pHandle registerParamAppend (some .networkRegisterCb)

/-- `tapi_network_scan`. -/
def tapiNetworkScan : Except ℤ Submission :=
  bareRequest cfg context slotId eventId pHandle .netreg "Scan" .operatorScanComplete

/-- `tapi_network_get_serving_cellinfos`. -/
def tapiNetworkGetServingCellinfos : Except ℤ Submission :=
  bareRequest cfg context slotId eventId pHandle .netmon "GetServingCellInformation"
    .cellListRequestComplete

/-- `tapi_network_get_neighbouring_cellinfos`. -/
def tapiNetworkGetNeighbouringCellinfos : Except ℤ Submission :=
  bareRequest cfg context slotId eventId pHandle .netmon "GetNeighbouringCellInformation"
    .cellListRequestComplete

/-- `tapi_network_get_registration_info`. The record keeps the context. -/
def tapiNetworkGetRegistrationInfo : Except ℤ Submission :=
  withProxy cfg context slotId .netreg unchecked <|
    plainRequest handlerThenResult (.method "GetProperties")
      (fun ar => { stamp eventId slotId ar with data := .context }) pHandle (fun _ => {})
      (some .registrationInfoQueryDone)

/-- `tapi_network_set_cell_info_list_rate`. The period is kept in an `int`, and no function
handles the reply. -/
def tapiNetworkSetCellInfoListRate (period : ℤ) : Except ℤ Submission :=
  withProxy cfg context slotId .netmon unchecked <|
    plainRequest handlerThenResult (.method "CellInfoUpdateRate")
      (fun ar => { stamp eventId slotId ar with arg2 := period.bmod (2 ^ 32) }) pHandle
      cellInfoListRateParamAppend none

end Telephony.Network
