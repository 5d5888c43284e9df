import Telephony.Types

/-!
# What a record's data designates

The structures that the library hands to applications through the `data` field of a record,
and the parameter blocks that its requests keep there until they are sent.

A `char` array is its text. A `char*` field may also be NULL, or a word that no assignment of a
text has set.

## Main definitions

* `Telephony.CString` — the content of a `char*` field
* `Telephony.CallInfo`, `Telephony.CellIdentity`, … — the public structures
* `Telephony.Params` — the parameter blocks of requests
* `Telephony.Payload` — the content of a `data` field
-/

namespace Telephony

/-- The content of a `char*` field. -/
inductive CString
  | null
  | text (s : String)
  | wild
  deriving DecidableEq, Repr

/-! ## Enumerations that are decoded from texts -/

inductive CallStatus
  | unknow | active | held | dialing | alerting | incoming | waiting | disconnected
  deriving DecidableEq, Repr

inductive RegistrationState
  | notRegistered | registered | searching | denied | unknown | roaming
  | registeredSmsEutran | roamingSmsEutran
  | registedEm | notRegisteredEm | searchingEm | deniedEm | unknownEm
  deriving DecidableEq, Repr

inductive SelectionMode
  | unknown | auto | manual
  deriving DecidableEq, Repr

inductive RoamingType
  | unknown | domestic | international
  deriving DecidableEq, Repr

inductive OperatorStatus
  | unknown | available | current | forbidden
  deriving DecidableEq, Repr

inductive CellType
  | none | gsm | umts | lte | nr
  deriving DecidableEq, Repr

inductive DataContextType
  | any | internet | hipri | supl | mms | wap | ims | emergency
  deriving DecidableEq, Repr

inductive DataProto
  | ip | ipv6 | ipv4v6
  deriving DecidableEq, Repr

inductive DataAuthMethod
  | chap | pap | none
  deriving DecidableEq, Repr

/-! ## Public structures -/

/-- `tapi_call_info`. -/
structure CallInfo where
  callId : String
  state : CallStatus
  lineIdentification : String
  incomingLine : String
  name : String
  startTime : String
  multiparty : Bool
  remoteHeld : Bool
  remoteMultiparty : Bool
  info : String
  icon : ℤ
  isEmergencyNumber : Bool
  disconnectReason : ℤ
  deriving DecidableEq, Repr

/-- `ecc_info`. -/
structure EccInfo where
  eccNum : CString
  category : ℤ
  condition : ℤ
  deriving DecidableEq, Repr

/-- `tapi_message_info`. -/
structure MessageInfo where
  text : CString
  sender : CString
  sentTime : CString
  localSentTime : CString
  smsType : ℤ
  deriving DecidableEq, Repr

/-- `tapi_cbs_message`. -/
structure CbsMessage where
  text : CString
  channel : ℤ
  deriving DecidableEq, Repr

/-- `tapi_cbs_emergency_message`. -/
structure CbsEmergencyMessage where
  text : CString
  emergencyType : CString
  emergencyAlert : Bool
  popup : Bool
  deriving DecidableEq, Repr

/-- `tapi_network_time`. -/
structure NetworkTime where
  sec : ℤ
  min : ℤ
  hour : ℤ
  mday : ℤ
  mon : ℤ
  year : ℤ
  dst : ℤ
  utcoff : ℤ
  deriving DecidableEq, Repr

/-- `tapi_registration_info`. -/
structure RegistrationInfo where
  regState : RegistrationState
  technology : ℤ
  operatorName : String
  mcc : String
  mnc : String
  station : String
  nitzTime : NetworkTime
  selectionMode : SelectionMode
  emergencyOnly : Bool
  roamingType : RoamingType
  cellId : ℤ
  lac : ℤ
  denialReason : ℤ
  deriving DecidableEq, Repr

/-- `tapi_operator_info`. -/
structure OperatorInfo where
  id : String
  name : String
  mcc : String
  mnc : String
  status : OperatorStatus
  technology : String
  extra : Ptr
  deriving DecidableEq, Repr

/-- `tapi_signal_strength`. -/
structure SignalStrength where
  rssi : ℤ
  rsrp : ℤ
  rsrq : ℤ
  rssnr : ℤ
  cqi : ℤ
  level : ℤ
  deriving DecidableEq, Repr

/-- `tapi_cell_identity`. -/
structure CellIdentity where
  ci : ℤ
  pci : ℤ
  tac : ℤ
  lac : ℤ
  earfcn : ℤ
  bandwidth : ℤ
  bands : List ℤ
  type : CellType
  registered : Bool
  mccStr : String
  mncStr : String
  alphaLong : String
  alphaShort : String
  signalStrength : SignalStrength
  deriving DecidableEq, Repr

/-- `tapi_ipv4_settings` and `tapi_ipv6_settings`; only the former has a `proxy`. -/
structure IpAddressSettings where
  interface : String
  ip : String
  gateway : String
  dns : List String
  proxy : String
  pcscf : String
  deriving DecidableEq, Repr

/-- `tapi_ip_settings`. -/
structure IpSettings where
  ipv4 : Option IpAddressSettings
  ipv6 : Option IpAddressSettings
  mtu : ℤ
  deriving DecidableEq, Repr

/-- `tapi_data_context`. -/
structure DataContext where
  id : CString
  name : String
  type : DataContextType
  active : Bool
  preferred : Bool
  username : String
  password : String
  accesspointname : String
  messageproxy : String
  messagecenter : String
  protocol : DataProto
  authMethod : DataAuthMethod
  ipSettings : Option IpSettings
  deriving DecidableEq, Repr

/-- `fdn_entry`. -/
structure FdnEntry where
  fdnIdx : ℤ
  tag : CString
  number : CString
  deriving DecidableEq, Repr

/-- `modem_activity_info`. -/
structure ModemActivityInfo where
  sleepTime : ℤ
  idleTime : ℤ
  txTime : List ℤ
  rxTime : ℤ
  deriving DecidableEq, Repr

/-- `tapi_call_forward_info`. -/
structure CallForwardInfo where
  status : ℤ
  cls : ℤ
  number : String
  numberType : ℤ
  time : ℤ
  deriving DecidableEq, Repr

/-- `tapi_ss_initiate_info`. -/
structure SsInitiateInfo where
  ssServiceType : CString
  ssServiceOperation : CString
  serviceOperationRequested : CString
  callSettingStatus : CString
  ussdResponse : CString
  appendService : CString
  appendServiceValue : CString
  deriving DecidableEq, Repr

/-! ## Parameter blocks -/

/-- The blocks in which a request keeps its arguments until its message is built. -/
inductive Params
  | call (number : String) (hideCallerid : ℤ)
  | callDtmf (digit flag : ℤ)
  | callDeflect (path number : CString)
  | imsConference (length : ℤ) (participants : List String)
  | message (number text : CString)
  | dataMessage (destAddr : CString) (port : ℤ) (data : CString)
  | messageInfo (info : MessageInfo)
  | oemRilRaw (length : ℤ) (oemReq : List ℤ)
  | oemRilStrings (length : ℤ) (oemReq : List String)
  | abnormalEvent (enable : Bool) (moduleMask fromEventId toEventId : ℤ)
  | simPin (pinType oldPin newPin : CString)
  | simResetPin (pukType puk newPin : CString)
  | simTransmitApdu (sessionId : ℤ) (apduData : List ℤ) (len : ℤ)
  | fdnRecord (fdnIdx : ℤ) (tag number pin2 : CString)
  | cbRequest (key value pin2 : CString)
  | cbChangePasswd (oldPasswd newPasswd : CString)
  | stkSelectItem (item : ℤ) (agentId : CString)
  deriving DecidableEq, Repr

/-! ## The data field -/

/-- `tapi_call_barring_info`. -/
structure CallBarringInfo where
  serviceType : CString
  value : CString
  deriving DecidableEq, Repr

/-- The content of the `data` field of a record. -/
inductive Payload
  | wild
  | null
  | context
  | params (p : Params)
  | text (s : String)
  | texts (ss : List String)
  | bytes (ns : List ℤ)
  | callInfo (info : CallInfo)
  | callList (infos : List CallInfo)
  | eccList (infos : List EccInfo)
  | messageInfo (info : MessageInfo)
  | messageList (infos : List MessageInfo)
  | cbsMessage (message : CbsMessage)
  | cbsEmergencyMessage (message : CbsEmergencyMessage)
  | networkTime (time : NetworkTime)
  | registrationInfo (info : RegistrationInfo)
  | operatorInfo (info : OperatorInfo)
  | operatorList (infos : List OperatorInfo)
  | cellList (cells : List CellIdentity)
  | signalStrength (strength : SignalStrength)
  | dataContext (dc : DataContext)
  | dataContexts (dcs : List DataContext)
  | fdnEntries (entries : List FdnEntry)
  | modemActivityInfo (info : ModemActivityInfo)
  | callForwardInfo (info : CallForwardInfo)
  | ssInitiateInfo (info : SsInitiateInfo)
  | callBarringInfo (info : CallBarringInfo)
  deriving DecidableEq, Repr

end Telephony
