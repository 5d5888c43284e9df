import Telephony.Context

/-!
# Registering for indications

`tapi_register` sends an indication id to the registrar of its domain. Each registrar checks
its arguments, allocates a record and a handler, and asks the bus library for a signal watch;
the id of the watch is what it returns.

## Main definitions

* `Telephony.Watch` — a signal watch with the handler it was created for
* `Telephony.registerSignal` — the steps that all registrars take
* `Manager.tapiRegister`, `Manager.tapiUnregister`
* `Telephony.IndicationMsg.signals` — the signals that carry an indication

## Main results

* `Manager.registered_of_tapiRegister` — all that a call of `tapi_register` can do
* `Manager.tapiRegister_eq_none_iff` — when the call is undefined
-/

namespace Telephony

variable {δ : Type}

/-! ## Watches -/

/-- The D-Bus interfaces whose signals the library watches. -/
inductive Interface
  | manager | modem | voicecallManager | networkRegistration | netmon | connectionManager
  | simManager | messageManager | cellBroadcast | ims | callBarring | supplementaryServices
  deriving DecidableEq, Repr

/-- The functions of the library that a signal watch invokes. -/
inductive SignalFunction
  | callStateChanged | callManagerPropertyChanged
  | networkStateChanged | cellinfoListChanged | signalStrengthChanged | nitzStateChanged
  | dataPropertyChanged | dataConnectionChanged
  | simPropertyChanged
  | unsolSmsMessage | smsPropertyChanged
  | unsolCbsMessage
  | radioStateChanged | phoneStateChanged | processOemHookRawIndication | modemRestart
  | airplaneModeChanged | deviceInfoChanged | modemStateChanged | modemEccListChange
  | imsRegistrationChanged
  | tapiDataLogInd
  | callBarringPropertyChanged | ussdStateChanged | ussdNotificationReceived
  | ussdRequestReceived
  deriving DecidableEq, Repr

/-- What a watch asks for, and the function it invokes. -/
structure SignalSpec where
  path : String
  interface : Interface
  member : String
  function : SignalFunction
  deriving DecidableEq, Repr

/-- A watch that the bus library has granted. -/
structure Watch (δ : Type) where
  id : ℕ
  connection : Ptr
  spec : SignalSpec
  handler : AsyncHandler δ

/-- What a registrar meets: whether the handler can be allocated, the block it gets for the
record, and the id that the bus library grants its watch, 0 for a refusal. -/
structure WatchEnv (δ : Type) where
  handler : Bool
  result : Option (AsyncResult δ)
  watch : ℕ

/-- What a registrar leaves behind: its return value and the watches it has created. -/
structure Registered (δ : Type) where
  code : ℤ
  watches : List (Watch δ)

def Registered.refused (code : ℤ) : Registered δ := ⟨code, []⟩

/-- The end of every registrar: allocate, fill in the record, add the watch. A registrar that
reaches the default case of its switch asks for no watch. -/
def addWatch (env : WatchEnv δ) (ctx : DbusContext) (record : AsyncResult δ → AsyncResult δ)
    (pHandle : Ptr) (spec : Option SignalSpec) : Registered δ :=
  if !env.handler then .refused (-enomem)
  else
    match env.result with
    | none => .refused (-enomem)
    | some block =>
      match spec with
      | none => .refused (-einval)
      | some spec =>
        if env.watch = 0 then .refused (-einval)
        else ⟨env.watch, [⟨env.watch, ctx.connection, spec, ⟨record block, pHandle⟩⟩]⟩

/-- A registrar: `inRange` is its check of the indication id, and `spec` what it watches on
the modem of the slot. -/
def registerSignal (cfg : Config) (env : WatchEnv δ) (context : Option DbusContext)
    (slotId : ℤ) (inRange : Bool) (record : AsyncResult δ → AsyncResult δ) (pHandle : Ptr)
    (spec : String → Option SignalSpec) : Registered δ :=
  match context with
  | none => .refused (-einval)
  | some ctx =>
    if !isValidSlotid cfg slotId || !inRange then .refused (-einval)
    else
      match tapiUtilsGetModemPath cfg slotId with
      | none => .refused (-eio)
      | some path => addWatch env ctx record pHandle (spec path)

/-- The fields that a registrar fills in. -/
def identify (msg : IndicationMsg) (slotId : ℤ) (userObj : Ptr) (ar : AsyncResult δ) :
    AsyncResult δ :=
  { ar with msgId := msg.value, msgType := indication, arg1 := slotId, userObj := userObj }

variable (cfg : Config) (env : WatchEnv δ) (context : Option DbusContext) (slotId : ℤ)
  (msg : IndicationMsg) (userObj pHandle : Ptr)

/-- `msg` lies between the two ids. -/
def IndicationMsg.between (msg first last : IndicationMsg) : Bool :=
  first.value ≤ msg.value ∧ msg.value ≤ last.value

/-! ## Registrars -/

namespace Call

/-- `get_call_signal_member`. -/
def getCallSignalMember : IndicationMsg → Option String
  | .eccListChange | .defaultVoicecallSlotChange => some "PropertyChanged"
  | .callRingBackTone => some "RingBackTone"
  | _ => none

/-- `tapi_register_manager_call_signal`. -/
def tapiRegisterManagerCallSignal (interface : Interface) (function : SignalFunction) :
    Registered δ :=
  registerSignal cfg env context slotId (getCallSignalMember msg).isSome
    (identify msg slotId userObj) pHandle fun path =>
      (getCallSignalMember msg).map fun member =>
        match msg with
        | .defaultVoicecallSlotChange => ⟨cfg.managerPath, interface, member, function⟩
        | _ => ⟨path, interface, member, function⟩

/-- `tapi_call_register_emergency_list_change`. -/
def tapiCallRegisterEmergencyListChange : Registered δ :=
  tapiRegisterManagerCallSignal cfg env context slotId .eccListChange userObj pHandle
    .voicecallManager .callManagerPropertyChanged

/-- `tapi_call_register_ringback_tone_change`. -/
def tapiCallRegisterRingbackToneChange : Registered δ :=
  tapiRegisterManagerCallSignal cfg env context slotId .callRingBackTone userObj pHandle
    .voicecallManager .callManagerPropertyChanged

/-- `tapi_call_register_default_voicecall_slot_change`. -/
def tapiCallRegisterDefaultVoicecallSlotChange : Registered δ :=
  tapiRegisterManagerCallSignal cfg env context 0 .defaultVoicecallSlotChange userObj pHandle
    .manager .callManagerPropertyChanged

/-- `tapi_call_register_call_state_change`. It leaves the id of the record as it is. -/
def tapiCallRegisterCallStateChange : Registered δ :=
  registerSignal cfg env context slotId true
    (fun ar => { ar with arg1 := slotId, userObj := userObj, msgType := indication }) pHandle
    fun path => some ⟨path, .voicecallManager, "CallChanged", .callStateChanged⟩

end Call

namespace Network

/-- `tapi_network_register`. -/
def tapiNetworkRegister : Registered δ :=
  registerSignal cfg env context slotId (msg.between .networkStateChange .nitzStateChange)
    (identify msg slotId userObj) pHandle fun path =>
      match msg with
      | .networkStateChange | .voiceRegistrationStateChange =>
        some ⟨path, .networkRegistration, "PropertyChanged", .networkStateChanged⟩
      | .cellinfoChange => some ⟨path, .netmon, "PropertyChanged", .cellinfoListChanged⟩
      | .signalStrengthChange =>
        some ⟨path, .networkRegistration, "PropertyChanged", .signalStrengthChanged⟩
      | .nitzStateChange =>
        some ⟨path, .networkRegistration, "PropertyChanged", .nitzStateChanged⟩
      | _ => none

end Network

namespace Data

/-- `tapi_data_register`. -/
def tapiDataRegister : Registered δ :=
  registerSignal cfg env context slotId (msg.between .dataEnabledChange .defaultDataSlotChange)
    (identify msg slotId userObj) pHandle fun path =>
      match msg with
      | .dataEnabledChange | .dataRegistrationStateChange | .dataNetworkTypeChange =>
        some ⟨path, .connectionManager, "PropertyChanged", .dataPropertyChanged⟩
      | .defaultDataSlotChange =>
        some ⟨cfg.managerPath, .manager, "PropertyChanged", .dataPropertyChanged⟩
      | .dataConnectionStateChange =>
        some ⟨path, .connectionManager, "ContextChanged", .dataConnectionChanged⟩
      | _ => none

end Data

namespace Sim

/-- `tapi_sim_register`. -/
def tapiSimRegister : Registered δ :=
  registerSignal cfg env context slotId (msg.between .simStateChange .simIccidChange)
    (identify msg slotId userObj) pHandle fun path =>
      match msg with
      | .simStateChange | .simUiccAppEnabledChange | .simIccidChange =>
        some ⟨path, .simManager, "PropertyChanged", .simPropertyChanged⟩
      | _ => none

end Sim

namespace Sms

/-- `tapi_sms_register`. -/
def tapiSmsRegister : Registered δ :=
  registerSignal cfg env context slotId (msg.between .incomingMessage .defaultSmsSlotChanged)
    (identify msg slotId userObj) pHandle fun path =>
      match msg with
      | .incomingMessage =>
        some ⟨path, .messageManager, "IncomingMessage", .unsolSmsMessage⟩
      | .immediateMessage =>
        some ⟨path, .messageManager, "ImmediateMessage", .unsolSmsMessage⟩
      | .statusReportMessage =>
        some ⟨path, .messageManager, "StatusReportMessage", .unsolSmsMessage⟩
      | .defaultSmsSlotChanged =>
        some ⟨cfg.managerPath, .manager, "PropertyChanged", .smsPropertyChanged⟩
      | _ => none

end Sms

namespace Cbs

/-- `tapi_cbs_register`. -/
def tapiCbsRegister : Registered δ :=
  registerSignal cfg env context slotId (msg.between .incomingCbs .emergencyCbs)
    (identify msg slotId userObj) pHandle fun path =>
      match msg with
      | .incomingCbs => some ⟨path, .cellBroadcast, "IncomingBroadcast", .unsolCbsMessage⟩
      | .emergencyCbs => some ⟨path, .cellBroadcast, "EmergencyBroadcast", .unsolCbsMessage⟩
      | _ => none

end Cbs

namespace Ims

/-- `tapi_ims_register_registration_change`. -/
def tapiImsRegisterRegistrationChange : Registered δ :=
  registerSignal cfg env context slotId true
    (identify .imsRegistrationMessage slotId userObj) pHandle
    fun path => some ⟨path, .ims, "PropertyChanged", .imsRegistrationChanged⟩

end Ims

namespace Ss

/-- `tapi_ss_register`. -/
def tapiSsRegister : Registered δ :=
  registerSignal cfg env context slotId
    (msg.between .callBarringPropertyChange .ussdPropertyChange)
    (identify msg slotId userObj) pHandle fun path =>
      match msg with
      | .callBarringPropertyChange =>
        some ⟨path, .callBarring, "PropertyChanged", .callBarringPropertyChanged⟩
      | .ussdPropertyChange =>
        some ⟨path, .supplementaryServices, "PropertyChanged", .ussdStateChanged⟩
      | .ussdNotificationReceived =>
        some ⟨path, .supplementaryServices, "NotificationReceived", .ussdNotificationReceived⟩
      | .ussdRequestReceived =>
        some ⟨path, .supplementaryServices, "RequestReceived", .ussdRequestReceived⟩
      | _ => none

end Ss

namespace Manager

/-- `tapi_modem_register`. -/
def tapiModemRegister : Registered δ :=
  registerSignal cfg env context slotId true (identify msg slotId userObj) pHandle fun path =>
    match msg with
    | .radioStateChange => some ⟨path, .modem, "PropertyChanged", .radioStateChanged⟩
    | .phoneStateChange =>
      some ⟨path, .voicecallManager, "PhoneStatusChanged", .phoneStateChanged⟩
    | .oemHookRaw => some ⟨path, .modem, "OemHookIndication", .processOemHookRawIndication⟩
    | .modemRestart => some ⟨path, .modem, "ModemRestart", .modemRestart⟩
    | .airplaneModeChange => some ⟨path, .modem, "PropertyChanged", .airplaneModeChanged⟩
    | .deviceInfoChange => some ⟨path, .modem, "DeviceInfoChanged", .deviceInfoChanged⟩
    | .modemStateChange => some ⟨path, .modem, "PropertyChanged", .modemStateChanged⟩
    | .modemEccListChange => some ⟨path, .modem, "PropertyChanged", .modemEccListChange⟩
    | _ => none

/-- `tapi_manager_register_data_loging`, the only registrar that needs no modem path. A
success also makes `p_handle` the logging callback of the context. -/
def tapiManagerRegisterDataLoging : Registered δ :=
  match context with
  | none => .refused (-einval)
  | some ctx =>
    if !isValidSlotid cfg slotId then .refused (-einval)
    else
      addWatch env ctx (identify .dataLoging slotId userObj) pHandle
        (some ⟨cfg.managerPath, .manager, "DataLogInd", .tapiDataLogInd⟩)

/-! ## The entry points -/

/-- `trigger_modem_load_ecc_list`, as far as it matters here: it reads the modem proxy of the
slot without a check of its arguments. -/
def triggerModemLoadEccList : Option Unit :=
  match context with
  | none => none
  | some _ => if isValidSlotid cfg slotId then some () else none

/-- `tapi_register`. The emergency list is watched on two interfaces, and `env₂` is what the
second registrar meets. -/
def tapiRegister (env₂ : WatchEnv δ) : Option (Registered δ) :=
  match msg with
  | .callStateChange =>
    some (Call.tapiCallRegisterCallStateChange cfg env context slotId userObj pHandle)
  | .callRingBackTone =>
    some (Call.tapiCallRegisterRingbackToneChange cfg env context slotId userObj pHandle)
  | .eccListChange => do
    let voicecall :=
      Call.tapiCallRegisterEmergencyListChange cfg env context slotId userObj pHandle
    let modem :=
      tapiModemRegister cfg env₂ context slotId .modemEccListChange userObj pHandle
    triggerModemLoadEccList cfg context slotId
    -- both branches of the source return the id of the voice call watch
    some ⟨voicecall.code, voicecall.watches ++ modem.watches⟩
  | .defaultVoicecallSlotChange =>
    some (Call.tapiCallRegisterDefaultVoicecallSlotChange cfg env context userObj pHandle)
  | .networkStateChange | .voiceRegistrationStateChange | .cellinfoChange
  | .signalStrengthChange | .nitzStateChange =>
    some (Network.tapiNetworkRegister cfg env context slotId msg userObj pHandle)
  | .dataEnabledChange | .dataRegistrationStateChange | .dataNetworkTypeChange
  | .dataConnectionStateChange | .defaultDataSlotChange =>
    some (Data.tapiDataRegister cfg env context slotId msg userObj pHandle)
  | .simStateChange | .simUiccAppEnabledChange =>
    some (Sim.tapiSimRegister cfg env context slotId msg userObj pHandle)
  | .incomingMessage | .immediateMessage | .statusReportMessage =>
    some (Sms.tapiSmsRegister cfg env context slotId msg userObj pHandle)
  | .incomingCbs | .emergencyCbs =>
    some (Cbs.tapiCbsRegister cfg env context slotId msg userObj pHandle)
  | .radioStateChange | .phoneStateChange | .oemHookRaw | .modemRestart
  | .airplaneModeChange | .deviceInfoChange | .modemStateChange =>
    some (tapiModemRegister cfg env context slotId msg userObj pHandle)
  | .imsRegistrationMessage =>
    some (Ims.tapiImsRegisterRegistrationChange cfg env context slotId userObj pHandle)
  | .dataLoging =>
    some (tapiManagerRegisterDataLoging cfg env context slotId userObj pHandle)
  | _ => some (.refused 0)

/-- `tapi_unregister`: the return value and the watches that are left. -/
def tapiUnregister (watchId : ℤ) (live : List (Watch δ)) : ℤ × List (Watch δ) :=
  match context with
  | none => (-einval, live)
  | some _ =>
    if watchId ≤ 0 then (-einval, live)
    -- `g_dbus_remove_watch` looks the id up among all watches
    else if live.any (fun w => w.id = watchId) then
      (ok, live.filter fun w => w.id ≠ watchId)
    else (-einval, live)

end Manager

/-! ## What an indication is carried by -/

/-- The modem path of a slot, for a slot that has one. -/
def modemPath (cfg : Config) (slotId : ℤ) : String :=
  (tapiUtilsGetModemPath cfg slotId).getD slotNotSet

/-- The signals that carry an indication for the modem at `path`. The emergency list has two
sources; an indication without any is not offered. -/
def IndicationMsg.signals (cfg : Config) (path : String) : IndicationMsg → List SignalSpec
  | .callStateChange => [⟨path, .voicecallManager, "CallChanged", .callStateChanged⟩]
  | .callRingBackTone =>
    [⟨path, .voicecallManager, "RingBackTone", .callManagerPropertyChanged⟩]
  | .eccListChange =>
    [⟨path, .voicecallManager, "PropertyChanged", .callManagerPropertyChanged⟩,
      ⟨path, .modem, "PropertyChanged", .modemEccListChange⟩]
  | .defaultVoicecallSlotChange =>
    [⟨cfg.managerPath, .manager, "PropertyChanged", .callManagerPropertyChanged⟩]
  | .networkStateChange | .voiceRegistrationStateChange =>
    [⟨path, .networkRegistration, "PropertyChanged", .networkStateChanged⟩]
  | .cellinfoChange => [⟨path, .netmon, "PropertyChanged", .cellinfoListChanged⟩]
  | .signalStrengthChange =>
    [⟨path, .networkRegistration, "PropertyChanged", .signalStrengthChanged⟩]
  | .nitzStateChange => [⟨path, .networkRegistration, "PropertyChanged", .nitzStateChanged⟩]
  | .dataEnabledChange | .dataRegistrationStateChange | .dataNetworkTypeChange =>
    [⟨path, .connectionManager, "PropertyChanged", .dataPropertyChanged⟩]
  | .dataConnectionStateChange =>
    [⟨path, .connectionManager, "ContextChanged", .dataConnectionChanged⟩]
  | .defaultDataSlotChange =>
    [⟨cfg.managerPath, .manager, "PropertyChanged", .dataPropertyChanged⟩]
  | .simStateChange | .simUiccAppEnabledChange =>
    [⟨path, .simManager, "PropertyChanged", .simPropertyChanged⟩]
  | .incomingMessage => [⟨path, .messageManager, "IncomingMessage", .unsolSmsMessage⟩]
  | .immediateMessage => [⟨path, .messageManager, "ImmediateMessage", .unsolSmsMessage⟩]
  | .statusReportMessage => [⟨path, .messageManager, "StatusReportMessage", .unsolSmsMessage⟩]
  | .incomingCbs => [⟨path, .cellBroadcast, "IncomingBroadcast", .unsolCbsMessage⟩]
  | .emergencyCbs => [⟨path, .cellBroadcast, "EmergencyBroadcast", .unsolCbsMessage⟩]
  | .radioStateChange => [⟨path, .modem, "PropertyChanged", .radioStateChanged⟩]
  | .phoneStateChange =>
    [⟨path, .voicecallManager, "PhoneStatusChanged", .phoneStateChanged⟩]
  | .oemHookRaw => [⟨path, .modem, "OemHookIndication", .processOemHookRawIndication⟩]
  | .modemRestart => [⟨path, .modem, "ModemRestart", .modemRestart⟩]
  | .airplaneModeChange => [⟨path, .modem, "PropertyChanged", .airplaneModeChanged⟩]
  | .deviceInfoChange => [⟨path, .modem, "DeviceInfoChanged", .deviceInfoChanged⟩]
  | .modemStateChange => [⟨path, .modem, "PropertyChanged", .modemStateChanged⟩]
  | .imsRegistrationMessage => [⟨path, .ims, "PropertyChanged", .imsRegistrationChanged⟩]
  | .dataLoging => [⟨cfg.managerPath, .manager, "DataLogInd", .tapiDataLogInd⟩]
  | _ => []

/-- The record that a registration for `msg` starts from, given the block it lies in. -/
def IndicationMsg.record (msg : IndicationMsg) (slotId : ℤ) (userObj : Ptr)
    (ar : AsyncResult δ) : AsyncResult δ :=
  match msg with
  | .callStateChange => { ar with arg1 := slotId, userObj := userObj, msgType := indication }
  | .defaultVoicecallSlotChange => identify msg 0 userObj ar
  | _ => identify msg slotId userObj ar

/-! ## What a registrar can do -/

/-- Everything that a registrar grants: it fails and creates nothing, or it creates the one
watch that it asked for and returns its id. -/
inductive Grants (env : WatchEnv δ) (context : Option DbusContext)
    (record : AsyncResult δ → AsyncResult δ) (pHandle : Ptr) (spec : SignalSpec) :
    Registered δ → Prop
  | refused {code : ℤ} (neg : code < 0) : Grants env context record pHandle spec (.refused code)
  | watched {ctx : DbusContext} {block : AsyncResult δ} (opened : context = some ctx)
      (result : env.result = some block) (pos : 0 < env.watch) :
      Grants env context record pHandle spec
        ⟨env.watch, [⟨env.watch, ctx.connection, spec, ⟨record block, pHandle⟩⟩]⟩

namespace Grants

variable {env : WatchEnv δ} {context : Option DbusContext}
  {record : AsyncResult δ → AsyncResult δ} {pHandle : Ptr} {spec : SignalSpec}
  {r : Registered δ}

/-- A successful registrar returns the id of the watch that it made. -/
theorem named (h : Grants env context record pHandle spec r) (pos : 0 < r.code) :
    r.code.toNat ∈ r.watches.map (·.id) := by
  cases h with
  | refused neg =>
    simp only [Registered.refused] at pos
    omega
  | watched => simp

theorem id_eq (h : Grants env context record pHandle spec r) :
    ∀ w ∈ r.watches, w.id = env.watch ∧ 0 < env.watch := by
  intro w hw
  cases h with
  | refused => simp [Registered.refused] at hw
  | watched opened result pos =>
    obtain rfl := List.mem_singleton.mp hw
    exact ⟨rfl, pos⟩

theorem length_le (h : Grants env context record pHandle spec r) : r.watches.length ≤ 1 := by
  cases h <;> simp [Registered.refused]

end Grants

/-- Both allocations and the watch are granted. -/
def WatchEnv.granted (env : WatchEnv δ) : Bool :=
  env.handler && env.result.isSome && env.watch ≠ 0

theorem neg_errno : -eio < 0 ∧ -enomem < 0 ∧ -einval < 0 := by decide

section

variable {cfg env context slotId pHandle}
variable {record : AsyncResult δ → AsyncResult δ} {spec : SignalSpec} {ctx : DbusContext}

theorem grants_addWatch (opened : context = some ctx) :
    Grants env context record pHandle spec (addWatch env ctx record pHandle (some spec)) := by
  unfold addWatch
  split
  · exact .refused neg_errno.2.1
  · cases hresult : env.result with
    | none => exact .refused neg_errno.2.1
    | some block =>
      dsimp only
      split
      · exact .refused neg_errno.2.2
      · -- the id of a watch is 0 if there is none
        rename_i hwatch
        exact .watched opened hresult (Nat.pos_of_ne_zero hwatch)

theorem addWatch_watches_ne_nil_iff :
    (addWatch env ctx record pHandle (some spec)).watches ≠ [] ↔ env.granted = true := by
  unfold addWatch WatchEnv.granted
  cases env.handler <;> cases env.result <;> simp [Registered.refused]
  split <;> simp_all

theorem grants_registerSignal {inRange : Bool} {watched : String → Option SignalSpec}
    (h : watched (modemPath cfg slotId) = some spec) :
    Grants env context record pHandle spec
      (registerSignal cfg env context slotId inRange record pHandle watched) := by
  unfold registerSignal
  cases context with
  | none => exact .refused neg_errno.2.2
  | some ctx =>
    dsimp only
    split
    · exact .refused neg_errno.2.2
    · cases hpath : tapiUtilsGetModemPath cfg slotId with
      -- a slot without a modem
      | none => exact .refused neg_errno.1
      | some path =>
        have hspec : watched path = some spec := by simpa [modemPath, hpath] using h
        simpa only [hspec] using grants_addWatch rfl

/-- With a context, a valid slot and an id in range, a registrar creates its watch exactly if
the slot has a path and everything it asks for is granted. -/
theorem registerSignal_watches_ne_nil_iff {watched : String → Option SignalSpec}
    (h : watched (modemPath cfg slotId) = some spec)
    (valid : isValidSlotid cfg slotId = true) :
    (registerSignal cfg env (some ctx) slotId true record pHandle watched).watches ≠ [] ↔
      (tapiUtilsGetModemPath cfg slotId).isSome = true ∧ env.granted = true := by
  cases hpath : tapiUtilsGetModemPath cfg slotId with
  | none => simp [registerSignal, valid, hpath, Registered.refused]
  | some path =>
    have hspec : watched path = some spec := by simpa [modemPath, hpath] using h
    simpa [registerSignal, valid, hpath, hspec] using addWatch_watches_ne_nil_iff

end

namespace Manager

variable {cfg env context slotId msg userObj pHandle}
variable {env₂ : WatchEnv δ} {r : Registered δ} {spec : SignalSpec}

/-- An indication that nothing carries is not refused: the call returns 0. -/
theorem tapiRegister_of_signals_eq_nil (h : msg.signals cfg (modemPath cfg slotId) = []) :
    tapiRegister cfg env context slotId msg userObj pHandle env₂ = some (.refused 0) := by
  cases msg <;> first | rfl | (simp [IndicationMsg.signals] at h)

/-- An indication with one source is registered by a single registrar. -/
theorem tapiRegister_of_signals_eq_singleton
    (h : msg.signals cfg (modemPath cfg slotId) = [spec]) :
    ∃ r, tapiRegister cfg env context slotId msg userObj pHandle env₂ = some r ∧
      Grants env context (msg.record slotId userObj) pHandle spec r := by
  cases msg
  case dataLoging =>
    obtain rfl : (⟨cfg.managerPath, .manager, "DataLogInd", .tapiDataLogInd⟩ : SignalSpec) =
        spec := by simpa [IndicationMsg.signals] using h
    refine ⟨_, rfl, ?_⟩
    unfold tapiManagerRegisterDataLoging
    cases context with
    | none => exact .refused neg_errno.2.2
    | some ctx =>
      dsimp only
      split
      · exact .refused neg_errno.2.2
      · exact grants_addWatch rfl
  case defaultVoicecallSlotChange =>
    -- the slot that the caller names is not used
    refine ⟨_, rfl, ?_⟩
    unfold Call.tapiCallRegisterDefaultVoicecallSlotChange Call.tapiRegisterManagerCallSignal
    apply grants_registerSignal
    simpa [IndicationMsg.signals, Call.getCallSignalMember] using h
  all_goals
    first
    | (simp [IndicationMsg.signals] at h; done)
    | refine ⟨_, rfl, grants_registerSignal ?_⟩
      simpa [IndicationMsg.signals, Call.getCallSignalMember] using h

/-- The emergency list has two registrars, and the id of the first is returned. -/
theorem tapiRegister_eccListChange :
    tapiRegister cfg env context slotId .eccListChange userObj pHandle env₂ =
      (triggerModemLoadEccList cfg context slotId).map fun _ =>
        ⟨(Call.tapiCallRegisterEmergencyListChange cfg env context slotId userObj pHandle).code,
          (Call.tapiCallRegisterEmergencyListChange cfg env context slotId userObj pHandle).watches
            ++ (tapiModemRegister cfg env₂ context slotId .modemEccListChange userObj
                  pHandle).watches⟩ := by
  cases h : triggerModemLoadEccList cfg context slotId <;> simp [tapiRegister, h]

theorem triggerModemLoadEccList_eq_some_iff :
    triggerModemLoadEccList cfg context slotId = some () ↔
      context.isSome = true ∧ isValidSlotid cfg slotId = true := by
  cases context <;> simp [triggerModemLoadEccList]

/-- All that a call of `tapi_register` can do. -/
theorem registered_of_tapiRegister
    (h : tapiRegister cfg env context slotId msg userObj pHandle env₂ = some r) :
    (msg.signals cfg (modemPath cfg slotId) = [] ∧ r = .refused 0) ∨
    (∃ spec, msg.signals cfg (modemPath cfg slotId) = [spec] ∧
      Grants env context (msg.record slotId userObj) pHandle spec r) ∨
    (msg = .eccListChange ∧ ∃ voicecall modem r₁ r₂,
      msg.signals cfg (modemPath cfg slotId) = [voicecall, modem] ∧
      Grants env context (identify .eccListChange slotId userObj) pHandle voicecall r₁ ∧
      Grants env₂ context (identify .modemEccListChange slotId userObj) pHandle modem r₂ ∧
      r = ⟨r₁.code, r₁.watches ++ r₂.watches⟩ ∧
      (context.isSome = true ∧ isValidSlotid cfg slotId = true) ∧
      (r₁.watches ≠ [] ↔ (tapiUtilsGetModemPath cfg slotId).isSome = true ∧ env.granted = true) ∧
      (r₂.watches ≠ [] ↔
        (tapiUtilsGetModemPath cfg slotId).isSome = true ∧ env₂.granted = true)) := by
  by_cases hecc : msg = .eccListChange
  · subst hecc
    -- the emergency list asks both registrars, in this order
    rw [tapiRegister_eccListChange] at h
    obtain ⟨⟨⟩, htrigger, rfl⟩ := Option.map_eq_some_iff.mp h
    obtain ⟨hopened, hvalid⟩ := triggerModemLoadEccList_eq_some_iff.mp htrigger
    obtain ⟨ctx, rfl⟩ := Option.isSome_iff_exists.mp hopened
    exact .inr (.inr ⟨rfl, _, _, _, _, rfl, grants_registerSignal rfl,
      grants_registerSignal rfl, rfl, ⟨rfl, hvalid⟩,
      registerSignal_watches_ne_nil_iff rfl hvalid,
      registerSignal_watches_ne_nil_iff rfl hvalid⟩)
  · -- every other indication has at most one source
    have hsignals : msg.signals cfg (modemPath cfg slotId) = [] ∨
        ∃ spec, msg.signals cfg (modemPath cfg slotId) = [spec] := by
      cases msg <;> simp [IndicationMsg.signals] at hecc ⊢
    rcases hsignals with hnil | ⟨spec, hspec⟩
    · rw [tapiRegister_of_signals_eq_nil hnil] at h
      exact .inl ⟨hnil, (Option.some_inj.mp h).symm⟩
    · have hsingle : ∃ r', tapiRegister cfg env context slotId msg userObj pHandle env₂ =
          some r' ∧ Grants env context (msg.record slotId userObj) pHandle spec r' :=
        tapiRegister_of_signals_eq_singleton hspec
      obtain ⟨r', hr', hgrants⟩ := hsingle
      obtain rfl := Option.some_inj.mp (hr'.symm.trans h)
      exact .inr (.inl ⟨spec, hspec, hgrants⟩)

/-- Only the emergency list is registered without a check of the arguments. -/
theorem tapiRegister_eq_none_iff :
    tapiRegister cfg env context slotId msg userObj pHandle env₂ = none ↔
      msg = .eccListChange ∧ ¬ (context.isSome = true ∧ isValidSlotid cfg slotId = true) := by
  by_cases hecc : msg = .eccListChange
  · subst hecc
    rw [tapiRegister_eccListChange, Option.map_eq_none_iff,
      ← triggerModemLoadEccList_eq_some_iff]
    cases triggerModemLoadEccList cfg context slotId <;> simp
  · -- the others check their arguments themselves
    cases msg <;> simp [tapiRegister] at hecc ⊢

end Manager

end Telephony
