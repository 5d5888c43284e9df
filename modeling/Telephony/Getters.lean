import Telephony.Data.Signal
import Telephony.Manager.PhoneNumber
import Telephony.Network.Signal

/-!
# Reading properties

Most functions that return something at once read one property of an object on the bus. They
check the context, the slot, whether the client is ready and whether there is a proxy, and write
to the variable of the caller only if the property is there.

## Main definitions

* `Telephony.readProperty` — the end of such a function, with the proxy
* `Telephony.getProperty`, `Telephony.getCardProperty`, `Telephony.getSlotProperty` — the checks
  that many of them share
* `Manager.tapiGetRadioPower`, `Data.tapiDataIsRegistered`, `Sim.tapiSimGetSimIccid`, … — the
  functions of the library

## Main results

* `Telephony.getProperty_of_ok`, `Telephony.getCardProperty_of_stored`,
  `Telephony.getSlotProperty_of_ready` — what the functions read once the checks have passed
* `Telephony.TextGetter.keepsRefused` — with an error, the variable of the caller stays as it was
-/

namespace Telephony

open DBus Manager Sim

/-! ## Common checks -/

section

variable {α : Type} (cfg : Config) (property : Properties) (context : Option DbusContext)
  (slotId : ℤ) (type : ProxyType) (name : String) (missing : ℤ) (read : Iter → Option α) (out : α)

/-- The end of a getter: the return value, and what the variable of the caller holds. -/
def readProperty (proxy : Ptr) : Option (ℤ × α) :=
  match property proxy name with
  | none => some (missing, out)
  | some value => (read value).map fun a => (ok, a)

/-- A getter for a property of an object of the slot. -/
def getProperty : Option (ℤ × α) :=
  match checkedProxy cfg context slotId type with
  | .error code => some (code, out)
  | .ok proxy => readProperty property name missing read out proxy

/-- What a variable that starts as `false` holds after `tapi_sim_has_icc_card`. -/
def storedIccCard : Option Bool :=
  (getProperty cfg property context slotId .sim "Present" (-einval) Iter.getFlag false).map
    Prod.snd

/-- A getter for a property of a card, which has to be in the slot. -/
def getCardProperty : Option (ℤ × α) :=
  match context with
  | none => some (-einval, out)
  | some ctx =>
    if !isValidSlotid cfg slotId then some (-einval, out)
    else if !ctx.clientReady then some (-eagain, out)
    else
      (storedIccCard cfg property (some ctx) slotId).bind fun present =>
        if !present then some (-einval, out)
        else if ctx.dbusProxy slotId.toNat .sim = null then some (-eio, out)
        else readProperty property name missing read out (ctx.dbusProxy slotId.toNat .sim)

/-- A getter for a slot that the manager names. It dereferences the context as it is. -/
def getSlotProperty (out : ℤ) : Option (ℤ × ℤ) :=
  context.bind fun ctx =>
    if ctx.dbusProxyManager = null then some (-eio, out)
    else if !ctx.clientReady then some (-eagain, out)
    else readProperty property name (-einval)
      (fun value => value.getString.map (tapiUtilsGetSlotId cfg)) out ctx.dbusProxyManager

end

/-- A text, as a `char*` variable gets it. -/
def readText (value : Iter) : Option CString := value.getString.map .text

/-! ## Registration states -/

/-- The number of a registration state. -/
def RegistrationState.value : RegistrationState → ℤ
  | notRegistered => 0
  | registered => 1
  | searching => 2
  | denied => 3
  | unknown => 4
  | roaming => 5
  | registeredSmsEutran => 6
  | roamingSmsEutran => 7
  | registedEm => 8
  | notRegisteredEm => 10
  | searchingEm => 12
  | deniedEm => 13
  | unknownEm => 14

/-- The number is that of one of the states. -/
def isStateOf (states : List RegistrationState) (n : ℤ) : Bool := n ∈ states.map (·.value)

def registeredStates : List RegistrationState := [.registered, .roaming]

def emergencyStates : List RegistrationState :=
  [.notRegisteredEm, .searchingEm, .deniedEm, .unknownEm, .registedEm]

def roamingStates : List RegistrationState := [.roaming]

variable (cfg : Config) (property : Properties) (context : Option DbusContext) (slotId : ℤ)

/-! ## The functions of the library -/

namespace Manager

/-- A text of the modem. -/
def getModemText (name : String) : CString → Option (ℤ × CString) :=
  getProperty cfg property context slotId .modem name (-einval) readText

/-- `tapi_get_imei`. -/
def tapiGetImei := getModemText cfg property context slotId "Serial"

/-- `tapi_get_imeisv`. -/
def tapiGetImeisv := getModemText cfg property context slotId "SoftwareVersionNumber"

/-- `tapi_get_modem_manufacturer`. -/
def tapiGetModemManufacturer := getModemText cfg property context slotId "Manufacturer"

/-- `tapi_get_modem_model`. -/
def tapiGetModemModel := getModemText cfg property context slotId "Model"

/-- `tapi_get_modem_revision`. -/
def tapiGetModemRevision := getModemText cfg property context slotId "Revision"

/-- `tapi_get_phone_state`. -/
def tapiGetPhoneState : ℤ → Option (ℤ × ℤ) :=
  getProperty cfg property context slotId .call "PhoneStatus" (-einval) Iter.getInt

/-- `tapi_utils_network_mode_from_string`. -/
def networkModeFromString (mode : String) : ℤ :=
  if mode = "any" then -1
  else if mode = "gsm" then 1
  else if mode = "umts" then 2
  else if mode = "lte" then 11
  else if mode = "umts,gsm" then 0
  else if mode = "lte,umts" then 12
  else if mode = "lte,umts,gsm" then 9
  else -1

/-- `tapi_get_pref_net_mode`. -/
def tapiGetPrefNetMode : ℤ → Option (ℤ × ℤ) :=
  getProperty cfg property context slotId .radio "TechnologyPreference" (-einval)
    fun value => value.getString.map networkModeFromString

/-- `tapi_get_radio_power`. -/
def tapiGetRadioPower : Bool → Option (ℤ × Bool) :=
  getProperty cfg property context slotId .modem "Online" (-einval) Iter.getFlag

/-- `tapi_get_radio_state`. -/
def tapiGetRadioState : ℤ → Option (ℤ × ℤ) :=
  getProperty cfg property context slotId .modem "RadioState" (-einval) Iter.getInt

/-- `tapi_get_modem_status_sync`. -/
def tapiGetModemStatusSync : ℤ → Option (ℤ × ℤ) :=
  getProperty cfg property context slotId .modem "ModemState" (-einval) Iter.getInt

end Manager

namespace Data

/-- `tapi_data_is_registered`. -/
def tapiDataIsRegistered : Bool → Option (ℤ × Bool) :=
  getProperty cfg property context slotId .data "Status" (-einval)
    fun value => value.getInt.map (isStateOf registeredStates)

/-- `tapi_data_is_data_emergency_only`. -/
def tapiDataIsDataEmergencyOnly : Bool → Option (ℤ × Bool) :=
  getProperty cfg property context slotId .data "Status" (-einval)
    fun value => value.getInt.map (isStateOf emergencyStates)

/-- `tapi_data_is_data_roaming`. -/
def tapiDataIsDataRoaming : Bool → Option (ℤ × Bool) :=
  getProperty cfg property context slotId .data "Status" (-einval)
    fun value => value.getInt.map (isStateOf roamingStates)

/-- `tapi_data_get_network_type`. -/
def tapiDataGetNetworkType : ℤ → Option (ℤ × ℤ) :=
  getProperty cfg property context slotId .data "Technology" (-einval)
    fun value => value.getInt.map (networkTypeFromRilTech cfg.radioTech)

/-- `tapi_data_get_preferred_apn`. -/
def tapiDataGetPreferredApn : CString → Option (ℤ × CString) :=
  getProperty cfg property context slotId .data "PreferredApn" (-einval) readText

/-- A switch of the data service, which is read from the first slot without a check of it. -/
def getSwitch (name : String) (out : Bool) : Option (ℤ × Bool) :=
  match context with
  | none => some (-einval, out)
  | some ctx =>
    if !ctx.clientReady then some (-eagain, out)
    else if ctx.dbusProxy 0 .data = null then some (-eio, out)
    else readProperty property name (-einval) Iter.getFlag out (ctx.dbusProxy 0 .data)

/-- `tapi_data_get_enabled`. -/
def tapiDataGetEnabled := getSwitch property context "DataOn"

/-- `tapi_data_get_roaming_enabled`. -/
def tapiDataGetRoamingEnabled := getSwitch property context "RoamingAllowed"

/-- `tapi_data_get_default_slot`. -/
def tapiDataGetDefaultSlot := getSlotProperty cfg property context "DataSlot"

end Data

namespace Call

/-- `tapi_call_get_default_slot`. -/
def tapiCallGetDefaultSlot := getSlotProperty cfg property context "VoiceCallSlot"

end Call

namespace Network

/-- A question about the registration state, which the network has as a text. -/
def isVoice (states : List RegistrationState) : Bool → Option (ℤ × Bool) :=
  getProperty cfg property context slotId .netreg "Status" (-einval)
    fun value =>
      value.getString.map fun s => isStateOf states (registrationStatusFromString s).value

/-- `tapi_network_is_voice_registered`. -/
def tapiNetworkIsVoiceRegistered := isVoice cfg property context slotId registeredStates

/-- `tapi_network_is_voice_emergency_only`. -/
def tapiNetworkIsVoiceEmergencyOnly := isVoice cfg property context slotId emergencyStates

/-- `tapi_network_is_voice_roaming`. -/
def tapiNetworkIsVoiceRoaming := isVoice cfg property context slotId roamingStates

/-- `tapi_network_get_voice_network_type`. -/
def tapiNetworkGetVoiceNetworkType : ℤ → Option (ℤ × ℤ) :=
  getProperty cfg property context slotId .netreg "Technology" (-einval)
    fun value => value.getInt.map (Data.networkTypeFromRilTech cfg.radioTech)

/-- `tapi_network_get_display_name`. -/
def tapiNetworkGetDisplayName : CString → Option (ℤ × CString) :=
  getProperty cfg property context slotId .netreg "Name" (-einval) readText

/-- `tapi_network_get_signalstrength`, with the structure of the caller. -/
def tapiNetworkGetSignalstrength (out : SignalStrength) : Option (ℤ × SignalStrength) :=
  match checkedProxy cfg context slotId .netreg with
  | .error code => some (code, out)
  | .ok proxy =>
    match property proxy "SignalStrength" with
    | none => some (-einval, out)
    | some iter =>
      if iter.argType ≠ .array then some (-einval, out)
      else
        iter.recurse.bind fun varElem =>
          (signalStrengthProperties.readAll varElem out).map fun ss => (ok, ss)

end Network

namespace Sim

/-- `tapi_sim_get_sim_state`. -/
def tapiSimGetSimState : ℤ → Option (ℤ × ℤ) :=
  getProperty cfg property context slotId .sim "SimState" (-einval) Iter.getInt

/-- `tapi_sim_get_sim_iccid`. -/
def tapiSimGetSimIccid : CString → Option (ℤ × CString) :=
  getCardProperty cfg property context slotId "CardIdentifier" (-einval) readText

/-- `tapi_sim_get_sim_operator_name`. -/
def tapiSimGetSimOperatorName : CString → Option (ℤ × CString) :=
  getCardProperty cfg property context slotId "ServiceProviderName" (-einval) readText

/-- `tapi_sim_get_subscriber_id`. -/
def tapiSimGetSubscriberId : CString → Option (ℤ × CString) :=
  getCardProperty cfg property context slotId "SubscriberIdentity" (-einval) readText

/-- `tapi_sim_get_uicc_enablement`. -/
def tapiSimGetUiccEnablement : ℤ → Option (ℤ × ℤ) :=
  getCardProperty cfg property context slotId "UiccActive" error Iter.getInt

end Sim

/-- `proxy_get_bool` and `proxy_get_string`, which return a default without the property, behind
the checks of the functions that use them. The client need not be ready. -/
def getDefaulted {α : Type} (type : ProxyType) (noProxy : ℤ) (name : String) (default : α)
    (read : Iter → Option α) (out : α) : Option (ℤ × α) :=
  match context with
  | none => some (-einval, out)
  | some ctx =>
    if !isValidSlotid cfg slotId then some (-einval, out)
    else if ctx.dbusProxy slotId.toNat type = null then some (noProxy, out)
    else readProperty property name ok read default (ctx.dbusProxy slotId.toNat type)

/-- `EISCONN`. -/
def eisconn : ℤ := 106

namespace Cbs

/-- `tapi_sms_get_cell_broadcast_power_on`. -/
def tapiSmsGetCellBroadcastPowerOn : Bool → Option (ℤ × Bool) :=
  getDefaulted cfg property context slotId .cbs (-eisconn) "Powered" false Iter.getFlag

/-- `tapi_sms_get_cell_broadcast_topics`. -/
def tapiSmsGetCellBroadcastTopics : CString → Option (ℤ × CString) :=
  getDefaulted cfg property context slotId .cbs (-eisconn) "Topics" .null readText

end Cbs

namespace Sms

/-- `tapi_sms_get_service_center_address`. -/
def tapiSmsGetServiceCenterAddress : CString → Option (ℤ × CString) :=
  getDefaulted cfg property context slotId .sms (-eio) "ServiceCenterAddress" .null readText

/-- `tapi_sms_get_default_slot`. -/
def tapiSmsGetDefaultSlot := getSlotProperty cfg property context "SmsSlot"

end Sms

namespace Ss

/-- `tapi_ss_get_call_barring_option`. The service names the property. -/
def tapiSsGetCallBarringOption (serviceType : Option String) (out : CString) :
    Option (ℤ × CString) :=
  match context with
  | none => some (-einval, out)
  | some ctx =>
    if !isValidSlotid cfg slotId then some (-einval, out)
    else
      match serviceType with
      | none => some (-einval, out)
      | some name =>
        getProperty cfg property (some ctx) slotId .callBarring name (-einval) readText out

/-- The report that a getter makes before it checks the context dereferences it, in a build that
has the data log. -/
def reporting {α : Type} (get : Option α) : Option α :=
  if cfg.dataLogOverMiwear ∧ context.isNone then none else get

/-- `tapi_get_ussd_state`. -/
def tapiGetUssdState (out : CString) : Option (ℤ × CString) :=
  reporting cfg context <|
    getProperty cfg property context slotId .ss "State" (-einval) readText out

/-- `tapi_ss_get_calling_line_presentation_info`. -/
def tapiSsGetCallingLinePresentationInfo (out : CString) : Option (ℤ × CString) :=
  reporting cfg context <|
    getProperty cfg property context slotId .callSetting "CallingLinePresentation" (-einval)
      readText out

end Ss

namespace Stk

/-- A property of the toolkit. -/
def getStkProperty (name : String) (read : Iter → Option CString) :
    CString → Option (ℤ × CString) :=
  getProperty cfg property context slotId .stk name error read

/-- An icon, which the functions take for a text. Of a number they write one byte over the pointer
of the caller. -/
def readIcon (value : Iter) : Option CString :=
  if value.isByte then some .wild else readText value

/-- `tapi_stk_get_idle_mode_text`. -/
def tapiStkGetIdleModeText := getStkProperty cfg property context slotId "IdleModeText" readText

/-- `tapi_stk_get_idle_mode_icon`. -/
def tapiStkGetIdleModeIcon := getStkProperty cfg property context slotId "IdleModeIcon" readIcon

/-- `tapi_stk_get_main_menu_title`. -/
def tapiStkGetMainMenuTitle := getStkProperty cfg property context slotId "MainMenuTitle" readText

/-- `tapi_stk_get_main_menu_icon`. -/
def tapiStkGetMainMenuIcon := getStkProperty cfg property context slotId "MainMenuIcon" readIcon

end Stk

/-! ## Lemmas -/

section

variable {α : Type} {cfg : Config} {property : Properties} {context : Option DbusContext}
  {ctx : DbusContext} {slotId : ℤ} {type : ProxyType} {name : String} {missing : ℤ}
  {read : Iter → Option α} {out : α} {proxy : Ptr} {value : Iter}

theorem readProperty_of_some (h : property proxy name = some value) :
    readProperty property name missing read out proxy = (read value).map fun a => (ok, a) := by
  rw [readProperty, h]

theorem readProperty_of_none (h : property proxy name = none) :
    readProperty property name missing read out proxy = some (missing, out) := by
  rw [readProperty, h]

theorem getProperty_of_ok (h : checkedProxy cfg context slotId type = .ok proxy) :
    getProperty cfg property context slotId type name missing read out =
      readProperty property name missing read out proxy := by
  rw [getProperty, h]

/-- The checks of a getter pass for a slot that has a proxy, once the client is ready. -/
theorem checkedProxy_eq_ok (hslot : isValidSlotid cfg slotId = true)
    (hready : ctx.clientReady = true) (hproxy : ctx.dbusProxy slotId.toNat type ≠ null) :
    checkedProxy cfg (some ctx) slotId type = .ok (ctx.dbusProxy slotId.toNat type) := by
  rw [checkedProxy_of_ready hslot hready, if_neg hproxy]

/-- With a card in the slot, its properties are read like those of another object. -/
theorem getCardProperty_of_stored (hslot : isValidSlotid cfg slotId = true)
    (hready : ctx.clientReady = true) (hproxy : ctx.dbusProxy slotId.toNat .sim ≠ null)
    (hcard : storedIccCard cfg property (some ctx) slotId = some true) :
    getCardProperty cfg property (some ctx) slotId name missing read out =
      readProperty property name missing read out (ctx.dbusProxy slotId.toNat .sim) := by
  simp [getCardProperty, hslot, hready, hproxy, hcard]

theorem getSlotProperty_of_ready {out : ℤ} (hready : ctx.clientReady = true)
    (hproxy : ctx.dbusProxyManager ≠ null) :
    getSlotProperty cfg property (some ctx) name out =
      readProperty property name (-einval)
        (fun value => value.getString.map (tapiUtilsGetSlotId cfg)) out ctx.dbusProxyManager := by
  simp [getSlotProperty, hready, hproxy]

end

/-! ## Errors -/

/-- With an error, the variable of the caller holds what it held before. -/
def KeepsRefused {α : Type} (out : α) (result : Option (ℤ × α)) : Prop :=
  ∀ code out', result = some (code, out') → code ≠ ok → out' = out

section

variable {α : Type} {cfg : Config} {property : Properties} {context : Option DbusContext}
  {slotId : ℤ} {type : ProxyType} {name : String} {missing : ℤ} {read : Iter → Option α} {out : α}

theorem keepsRefused_code {code : ℤ} : KeepsRefused out (some (code, out)) := by
  rintro _ _ ⟨⟩ -
  rfl

theorem keepsRefused_readProperty {proxy : Ptr} :
    KeepsRefused out (readProperty property name missing read out proxy) := by
  cases hvalue : property proxy name with
  | none =>
    rw [readProperty_of_none hvalue]
    exact keepsRefused_code
  | some value =>
    rw [readProperty_of_some hvalue]
    intro code out' h hcode
    obtain ⟨a, -, ha⟩ := Option.map_eq_some_iff.mp h
    exact absurd (congrArg Prod.fst ha).symm hcode

theorem keepsRefused_getProperty :
    KeepsRefused out (getProperty cfg property context slotId type name missing read out) := by
  rw [getProperty]
  split
  · exact keepsRefused_code
  · exact keepsRefused_readProperty

theorem keepsRefused_getCardProperty :
    KeepsRefused out (getCardProperty cfg property context slotId name missing read out) := by
  cases context with
  | none => exact keepsRefused_code
  | some ctx =>
    rw [getCardProperty]
    split
    · exact keepsRefused_code
    split
    · exact keepsRefused_code
    intro code out' h
    obtain ⟨present, -, h⟩ := Option.bind_eq_some_iff.mp h
    split at h
    · exact keepsRefused_code code out' h
    split at h
    · exact keepsRefused_code code out' h
    · exact keepsRefused_readProperty code out' h

theorem KeepsRefused.reporting {result : Option (ℤ × α)} (h : KeepsRefused out result) :
    KeepsRefused out (Ss.reporting cfg context result) := by
  unfold Ss.reporting
  split
  · exact nofun
  · exact h

end

/-- The functions that read a text of the modem, the network, the card, the services or the
toolkit. -/
inductive TextGetter
  | imei | imeisv | modemManufacturer | modemModel | modemRevision
  | preferredApn
  | displayName
  | simIccid | simOperatorName | subscriberId
  | callBarringOption (serviceType : Option String)
  | ussdState | callingLinePresentationInfo
  | idleModeText | idleModeIcon | mainMenuTitle | mainMenuIcon

/-- What a function makes of the variable of its caller. -/
def TextGetter.get : TextGetter → CString → Option (ℤ × CString)
  | .imei => Manager.tapiGetImei cfg property context slotId
  | .imeisv => Manager.tapiGetImeisv cfg property context slotId
  | .modemManufacturer => Manager.tapiGetModemManufacturer cfg property context slotId
  | .modemModel => Manager.tapiGetModemModel cfg property context slotId
  | .modemRevision => Manager.tapiGetModemRevision cfg property context slotId
  | .preferredApn => Data.tapiDataGetPreferredApn cfg property context slotId
  | .displayName => Network.tapiNetworkGetDisplayName cfg property context slotId
  | .simIccid => Sim.tapiSimGetSimIccid cfg property context slotId
  | .simOperatorName => Sim.tapiSimGetSimOperatorName cfg property context slotId
  | .subscriberId => Sim.tapiSimGetSubscriberId cfg property context slotId
  | .callBarringOption serviceType =>
    Ss.tapiSsGetCallBarringOption cfg property context slotId serviceType
  | .ussdState => Ss.tapiGetUssdState cfg property context slotId
  | .callingLinePresentationInfo =>
    Ss.tapiSsGetCallingLinePresentationInfo cfg property context slotId
  | .idleModeText => Stk.tapiStkGetIdleModeText cfg property context slotId
  | .idleModeIcon => Stk.tapiStkGetIdleModeIcon cfg property context slotId
  | .mainMenuTitle => Stk.tapiStkGetMainMenuTitle cfg property context slotId
  | .mainMenuIcon => Stk.tapiStkGetMainMenuIcon cfg property context slotId

/-- A text is read, or the variable of the caller keeps what it held. -/
theorem TextGetter.keepsRefused (g : TextGetter) (out : CString) :
    KeepsRefused out (g.get cfg property context slotId out) := by
  cases g with
  | imei | imeisv | modemManufacturer | modemModel | modemRevision | preferredApn | displayName
  | idleModeText | idleModeIcon | mainMenuTitle | mainMenuIcon => exact keepsRefused_getProperty
  | simIccid | simOperatorName | subscriberId => exact keepsRefused_getCardProperty
  | ussdState | callingLinePresentationInfo => exact keepsRefused_getProperty.reporting
  | callBarringOption serviceType =>
    rw [get]
    unfold Ss.tapiSsGetCallBarringOption
    split
    · exact keepsRefused_code
    split
    · exact keepsRefused_code
    split
    · exact keepsRefused_code
    · exact keepsRefused_getProperty

theorem Manager.keepsRefused_tapiGetPhoneState (out : ℤ) :
    KeepsRefused out (tapiGetPhoneState cfg property context slotId out) :=
  keepsRefused_getProperty

end Telephony
