import Telephony.Data.Enable
import Telephony.Getters
import Telephony.Manager.Request
import Telephony.Sim.Request

/-!
# Writing properties

The functions that set something ask the bus library to write a property. Some of them are requests
with a callback, and the others return at once. What an application sets this way it can read back
with a getter.

## Main definitions

* `Telephony.PropertyWrite` — a write that the bus library is asked for
* `Telephony.setProperty`, `Telephony.setText`, `Telephony.setSlotProperty` — the checks that the
  functions share
* `Manager.tapiSendModemPower`, `Data.tapiDataSetPreferredApn`, … — the functions that return at
  once
* `Telephony.Setting` — what an application sets
* `Telephony.Setting.call` — the function that it calls for that

## Main results

* `Telephony.Setting.writes_of_mem` — all writes of a call are for one property, with one value
-/

namespace Telephony

open DBus Manager Sim

/-- A property that the bus library is asked to write. -/
structure PropertyWrite where
  proxy : Ptr
  name : String
  value : Value

section

variable (cfg : Config) (context : Option DbusContext) (slotId : ℤ)

/-! ## Common checks -/

/-- A setter for a property of an object of the slot. -/
def setProperty (type : ProxyType) (name : String) (value : Value) : Except ℤ PropertyWrite :=
  match checkedProxy cfg context slotId type with
  | .error code => .error code
  | .ok proxy => .ok ⟨proxy, name, value⟩

/-- A setter for a text that must not be NULL, which is checked before the proxy. -/
def setText (type : ProxyType) (name : String) (text : Option String) :
    Except ℤ PropertyWrite :=
  match context with
  | none => .error (-einval)
  | some ctx =>
    if !isValidSlotid cfg slotId then .error (-einval)
    else if !ctx.clientReady then .error (-eagain)
    else
      match text with
      | none => .error (-einval)
      | some s =>
        if ctx.dbusProxy slotId.toNat type = null then .error (-eio)
        else .ok ⟨ctx.dbusProxy slotId.toNat type, name, .string s⟩

/-- A setter for a slot of the manager. It dereferences the context as it is, and writes the path
that it gets for the slot even if that is NULL. -/
def setSlotProperty (name : String) (unsettable : Bool) : Option (Except ℤ PropertyWrite) :=
  context.bind fun ctx =>
    if ctx.dbusProxyManager = null then some (.error (-eio))
    else if !ctx.clientReady then some (.error (-eagain))
    else if !isValidSlotid cfg slotId && !(unsettable && slotId = -1) then
      some (.error (-einval))
    else
      (tapiUtilsGetModemPath cfg slotId).map fun modemPath =>
        .ok ⟨ctx.dbusProxyManager, name, .string modemPath⟩

/-! ## The functions of the library -/

/-- `tapi_send_modem_power`. -/
def Manager.tapiSendModemPower (state : Bool) : Except ℤ PropertyWrite :=
  setProperty cfg context slotId .modem "Powered" (.boolean state.toNat)

/-- `tapi_data_set_preferred_apn`, with the id of the access point. If there is no access point,
that is only logged. -/
def Data.tapiDataSetPreferredApn (apn : Option String) : Option (Except ℤ PropertyWrite) :=
  match checkedProxy cfg context slotId .data with
  | .error code => some (.error code)
  | .ok proxy => apn.map fun id => .ok ⟨proxy, "PreferredApn", .string id⟩

/-- `tapi_data_set_default_slot`. -/
def Data.tapiDataSetDefaultSlot := setSlotProperty cfg context slotId "DataSlot" false

/-- `tapi_call_set_default_slot`. -/
def Call.tapiCallSetDefaultSlot := setSlotProperty cfg context slotId "VoiceCallSlot" true

/-- `tapi_sms_set_default_slot`. -/
def Sms.tapiSmsSetDefaultSlot := setSlotProperty cfg context slotId "SmsSlot" true

/-- `tapi_sms_set_cell_broadcast_power_on`. -/
def Cbs.tapiSmsSetCellBroadcastPowerOn (state : Bool) : Except ℤ PropertyWrite :=
  setProperty cfg context slotId .cbs "Powered" (.boolean state.toNat)

/-- `tapi_sms_set_cell_broadcast_topics`. -/
def Cbs.tapiSmsSetCellBroadcastTopics := setText cfg context slotId .cbs "Topics"

/-- `tapi_sms_set_service_center_address`, but for its return value. -/
def Sms.tapiSmsSetServiceCenterAddress := setText cfg context slotId .sms "ServiceCenterAddress"

end

/-! ## Calls -/

/-- What a call of a setter meets: the arguments that do not matter for the write, the blocks that
there is memory for, and whether the bus library accepts the write, for each slot. -/
structure SetEnv where
  eventId : ℤ
  pHandle : Ptr
  granted : Block → Bool
  accepts : ℕ → Bool

/-- What an application sets. -/
inductive Setting
  | voiceCallSlot (slotId : ℤ)
  | dataSlot (slotId : ℤ)
  | smsSlot (slotId : ℤ)
  | dataEnabled (enabled : Bool)
  | roamingEnabled (enabled : Bool)
  | radioPower (slotId : ℤ) (state : Bool)
  | prefNetMode (slotId : ℤ) (mode : ℤ)
  | preferredApn (slotId : ℤ) (id : Option String)
  | uiccEnablement (slotId : ℤ) (state : ℤ)
  | cellBroadcastPower (slotId : ℤ) (state : Bool)
  | cellBroadcastTopics (slotId : ℤ) (topics : Option String)
  | serviceCenterAddress (slotId : ℤ) (number : Option String)

section

variable (env : SetEnv)

/-- A setter that makes one write: the return value, and what is written. -/
def directWrites : Except ℤ PropertyWrite → ℤ × List PropertyWrite
  | .error code => (code, [])
  | .ok write => if env.accepts 0 then (ok, [write]) else (-einval, [])

/-- A request for a property. -/
def submissionWrites : Except ℤ Submission → ℤ × List PropertyWrite
  | .error code => (code, [])
  | .ok s =>
    (s.code env.granted (env.accepts 0),
      match s.call with
      | .property name (.value value) =>
        if s.code env.granted (env.accepts 0) = ok then [⟨s.proxy, name, value⟩] else []
      | _ => [])

/-- The writes to the slots that the bus library has accepted. -/
def slotWrites (r : ℤ × List Data.SlotWrite) : ℤ × List PropertyWrite :=
  (r.1, (r.2.filter fun w => env.accepts w.slot).map fun w =>
    ⟨w.proxy, w.property, .boolean w.value⟩)

end

namespace Setting

variable (cfg : Config)

/-- The call of the function: its return value, and the writes that the bus library has accepted. -/
def call (property : Properties) (context : Option DbusContext) (env : SetEnv) :
    Setting → Option (ℤ × List PropertyWrite)
  | voiceCallSlot slotId =>
    (Call.tapiCallSetDefaultSlot cfg context slotId).map (directWrites env)
  | dataSlot slotId => (Data.tapiDataSetDefaultSlot cfg context slotId).map (directWrites env)
  | smsSlot slotId => (Sms.tapiSmsSetDefaultSlot cfg context slotId).map (directWrites env)
  | dataEnabled enabled =>
    some (slotWrites env (Data.tapiDataEnableData cfg context enabled env.accepts))
  | roamingEnabled enabled =>
    some (slotWrites env (Data.tapiDataEnableRoaming cfg context enabled env.accepts))
  | radioPower slotId state =>
    some (submissionWrites env
      (tapiSetRadioPower cfg context slotId env.eventId env.pHandle state))
  | prefNetMode slotId mode =>
    some (submissionWrites env
      (tapiSetPrefNetMode cfg context slotId env.eventId env.pHandle mode))
  | preferredApn slotId id =>
    (Data.tapiDataSetPreferredApn cfg context slotId id).map (directWrites env)
  | uiccEnablement slotId state =>
    (storedIccCard cfg property context slotId).map fun present =>
      submissionWrites env
        (tapiSimSetUiccEnablement cfg context slotId env.eventId env.pHandle present state)
  | cellBroadcastPower slotId state =>
    some (directWrites env (Cbs.tapiSmsSetCellBroadcastPowerOn cfg context slotId state))
  | cellBroadcastTopics slotId topics =>
    some (directWrites env (Cbs.tapiSmsSetCellBroadcastTopics cfg context slotId topics))
  | serviceCenterAddress slotId number =>
    some (directWrites env (Sms.tapiSmsSetServiceCenterAddress cfg context slotId number))

/-- The object and the property that are read back. -/
def place : Setting → (String × Option ProxyType) × String
  | voiceCallSlot _ => ((cfg.managerPath, none), "VoiceCallSlot")
  | dataSlot _ => ((cfg.managerPath, none), "DataSlot")
  | smsSlot _ => ((cfg.managerPath, none), "SmsSlot")
  | dataEnabled _ => ((modemPath cfg 0, some .data), "DataOn")
  | roamingEnabled _ => ((modemPath cfg 0, some .data), "RoamingAllowed")
  | radioPower slotId _ => ((modemPath cfg slotId, some .modem), "Online")
  | prefNetMode slotId _ => ((modemPath cfg slotId, some .radio), "TechnologyPreference")
  | preferredApn slotId _ => ((modemPath cfg slotId, some .data), "PreferredApn")
  | uiccEnablement slotId _ => ((modemPath cfg slotId, some .sim), "UiccActive")
  | cellBroadcastPower slotId _ => ((modemPath cfg slotId, some .cbs), "Powered")
  | cellBroadcastTopics slotId _ => ((modemPath cfg slotId, some .cbs), "Topics")
  | serviceCenterAddress slotId _ => ((modemPath cfg slotId, some .sms), "ServiceCenterAddress")

/-- The value that is written, if there is one. -/
def value : Setting → Option Value
  | voiceCallSlot slotId | dataSlot slotId | smsSlot slotId =>
    (tapiUtilsGetModemPath cfg slotId).map .string
  | dataEnabled enabled | roamingEnabled enabled => some (.boolean (if enabled then 1 else 0))
  | radioPower _ state | cellBroadcastPower _ state => some (.boolean state.toNat)
  | prefNetMode _ mode => some (.string (networkModeToString mode))
  | preferredApn _ text | cellBroadcastTopics _ text | serviceCenterAddress _ text =>
    text.map .string
  | uiccEnablement _ state => some (.int32 state)

/-- The slot of a setting that is about one. -/
def slot : Setting → ℤ
  | voiceCallSlot _ | dataSlot _ | smsSlot _ | dataEnabled _ | roamingEnabled _ => 0
  | radioPower slotId _ | prefNetMode slotId _ | preferredApn slotId _
  | uiccEnablement slotId _ | cellBroadcastPower slotId _ | cellBroadcastTopics slotId _
  | serviceCenterAddress slotId _ => slotId

/-- The slots that a default slot may be set to. -/
def selectable : Setting → Bool
  | voiceCallSlot slotId | smsSlot slotId => isValidSlotid cfg slotId ∨ slotId = -1
  | dataSlot slotId => isValidSlotid cfg slotId
  | dataEnabled _ | roamingEnabled _ => 0 < cfg.modemActiveCount
  | radioPower slotId _ | prefNetMode slotId _ | preferredApn slotId _
  | uiccEnablement slotId _ | cellBroadcastPower slotId _ | cellBroadcastTopics slotId _
  | serviceCenterAddress slotId _ => isValidSlotid cfg slotId

end Setting

/-! ## What a call writes -/

/-- A write of the setting: its property, its value, and slots that exist. -/
structure Setting.Writes (cfg : Config) (s : Setting) (w : PropertyWrite) : Prop where
  name : w.name = (s.place cfg).2
  value : s.value cfg = some w.value
  selectable : s.selectable cfg = true

section

variable {cfg : Config} {property : Properties} {context : Option DbusContext} {env : SetEnv}
  {slotId : ℤ} {type : ProxyType} {name : String} {value : Value} {w : PropertyWrite}
  {text : Option String} {proxy : Ptr} {r : Except ℤ PropertyWrite}

theorem mem_directWrites (h : w ∈ (directWrites env r).2) : r = .ok w := by
  cases r with
  | error code => contradiction
  | ok write =>
    simp only [directWrites] at h
    split_ifs at h
    · rw [List.mem_singleton.mp h]
    · contradiction

theorem isValidSlotid_of_checkedProxy (h : checkedProxy cfg context slotId type = .ok proxy) :
    isValidSlotid cfg slotId = true := by
  cases context with
  | none => contradiction
  | some ctx =>
    by_contra hslot
    rw [Bool.not_eq_true] at hslot
    simp [checkedProxy, hslot] at h

theorem of_setProperty_eq_ok (h : setProperty cfg context slotId type name value = .ok w) :
    w.name = name ∧ w.value = value ∧ isValidSlotid cfg slotId = true := by
  cases hproxy : checkedProxy cfg context slotId type with
  | error code =>
    rw [setProperty, hproxy] at h
    contradiction
  | ok proxy =>
    rw [setProperty, hproxy] at h
    obtain rfl := Except.ok.inj h
    exact ⟨rfl, rfl, isValidSlotid_of_checkedProxy hproxy⟩

theorem of_setText_eq_ok (h : setText cfg context slotId type name text = .ok w) :
    w.name = name ∧ text.map Value.string = some w.value ∧ isValidSlotid cfg slotId = true := by
  cases context with
  | none => contradiction
  | some ctx =>
    cases text with
    | none =>
      simp only [setText] at h
      split_ifs at h
    | some s =>
      simp only [setText] at h
      split_ifs at h with hslot hready hproxy
      obtain rfl := Except.ok.inj h
      exact ⟨rfl, rfl, by simpa using hslot⟩

/-- A default slot is written if it can be selected. -/
theorem of_setSlotProperty_eq_ok {unsettable : Bool}
    (h : setSlotProperty cfg context slotId name unsettable = some (.ok w)) :
    w.name = name ∧ (tapiUtilsGetModemPath cfg slotId).map Value.string = some w.value ∧
      (isValidSlotid cfg slotId = true ∨ unsettable = true ∧ slotId = -1) := by
  obtain ⟨ctx, rfl, hset⟩ := Option.bind_eq_some_iff.mp h
  split_ifs at hset with hproxy hready hslot
  · simp at hset
  · simp at hset
  · simp at hset
  obtain ⟨modemPath, hpath, hok⟩ := Option.map_eq_some_iff.mp hset
  obtain rfl := Except.ok.inj hok
  refine ⟨rfl, by rw [hpath, Option.map_some], ?_⟩
  simpa [or_iff_not_imp_left] using hslot

theorem mem_submissionWrites {r : Except ℤ Submission} (h : w ∈ (submissionWrites env r).2) :
    ∃ s, r = .ok s ∧ s.call = .property w.name (.value w.value) := by
  cases r with
  | error code => contradiction
  | ok s =>
    simp only [submissionWrites] at h
    split at h
    case h_1 hcall =>
      split_ifs at h
      · rw [List.mem_singleton.mp h]
        exact ⟨s, rfl, hcall⟩
      · contradiction
    case h_2 => contradiction

/-- A request that is submitted is for a slot that exists. -/
theorem of_withProxy_eq_ok {check : DbusContext → Option ℤ} {submission : Ptr → Submission}
    {s : Submission} (h : withProxy cfg context slotId type check submission = .ok s) :
    isValidSlotid cfg slotId = true ∧ ∃ proxy, s = submission proxy := by
  cases context with
  | none => contradiction
  | some ctx =>
    cases hcheck : check ctx with
    | some code =>
      simp only [withProxy, hcheck] at h
      split_ifs at h
    | none =>
      simp only [withProxy, hcheck] at h
      split_ifs at h with hslot
      exact ⟨by simpa using hslot, _, (Except.ok.inj h).symm⟩

/-- The write of a request for a property of a slot. -/
theorem of_mem_plainRequest {check : DbusContext → Option ℤ} {steps : List (Ledger.Step Block)}
    {record : AsyncResult Payload → AsyncResult Payload} {pHandle : Ptr}
    {setup : UserData → Setup} {function : Option ReplyFunction}
    (h : w ∈ (submissionWrites env (withProxy cfg context slotId type check
      (plainRequest steps (.property name (.value value)) record pHandle setup function))).2) :
    w.name = name ∧ w.value = value ∧ isValidSlotid cfg slotId = true := by
  obtain ⟨s, hs, hcall⟩ := mem_submissionWrites h
  obtain ⟨hslot, proxy, rfl⟩ := of_withProxy_eq_ok hs
  obtain ⟨hname, hvalue⟩ := BusCall.property.inj hcall
  exact ⟨hname.symm, (Appended.value.inj hvalue).symm, hslot⟩

/-- The write of a switch, to one of the slots that the build has. -/
theorem of_mem_slotWrites {enabled : Bool}
    (h : w ∈ (slotWrites env
      (Data.setOnAllSlots name cfg context enabled env.accepts)).2) :
    w.name = name ∧ w.value = .boolean (if enabled then 1 else 0) ∧ 0 < cfg.modemActiveCount := by
  obtain ⟨attempt, hattempt, rfl⟩ := List.mem_map.mp h
  have hmem := List.mem_of_mem_filter hattempt
  unfold Data.setOnAllSlots at hmem
  cases context with
  | none => contradiction
  | some ctx =>
    dsimp only at hmem
    split at hmem
    case isTrue => contradiction
    case isFalse =>
      rw [Data.setOnSlots_writes] at hmem
      obtain ⟨slot, hslot, rfl⟩ := List.mem_map.mp hmem
      have hrange := List.mem_range'_1.mp ((List.takeWhile_sublist _).subset hslot)
      exact ⟨rfl, rfl, by omega⟩

/-- All writes of a call are for one property, with one value. -/
theorem Setting.writes_of_mem {s : Setting} {r : ℤ × List PropertyWrite}
    (h : s.call cfg property context env = some r) (hw : w ∈ r.2) : s.Writes cfg w := by
  cases s with
  | voiceCallSlot slotId | dataSlot slotId | smsSlot slotId =>
    obtain ⟨e, he, rfl⟩ := Option.map_eq_some_iff.mp h
    rw [mem_directWrites hw] at he
    obtain ⟨hname, hvalue, hslot⟩ := of_setSlotProperty_eq_ok he
    refine ⟨hname, hvalue, ?_⟩
    simpa [Setting.selectable] using hslot
  | dataEnabled enabled | roamingEnabled enabled =>
    obtain rfl := Option.some_inj.mp h
    obtain ⟨hname, hvalue, hcount⟩ := of_mem_slotWrites hw
    exact ⟨hname, congrArg some hvalue.symm, by simpa [Setting.selectable] using hcount⟩
  | radioPower slotId state | prefNetMode slotId mode =>
    obtain rfl := Option.some_inj.mp h
    obtain ⟨hname, hvalue, hslot⟩ := of_mem_plainRequest hw
    exact ⟨hname, congrArg some hvalue.symm, hslot⟩
  | uiccEnablement slotId state =>
    obtain ⟨present, -, rfl⟩ := Option.map_eq_some_iff.mp h
    obtain ⟨hname, hvalue, hslot⟩ := of_mem_plainRequest hw
    exact ⟨hname, congrArg some hvalue.symm, hslot⟩
  | preferredApn slotId id =>
    obtain ⟨e, he, rfl⟩ := Option.map_eq_some_iff.mp h
    rw [mem_directWrites hw] at he
    cases hproxy : checkedProxy cfg context slotId .data with
    | error code => simp [Data.tapiDataSetPreferredApn, hproxy] at he
    | ok proxy =>
      simp only [Data.tapiDataSetPreferredApn, hproxy] at he
      obtain ⟨text, rfl, hok⟩ := Option.map_eq_some_iff.mp he
      obtain rfl := Except.ok.inj hok
      exact ⟨rfl, rfl, isValidSlotid_of_checkedProxy hproxy⟩
  | cellBroadcastPower slotId state =>
    obtain rfl := Option.some_inj.mp h
    obtain ⟨hname, hvalue, hslot⟩ := of_setProperty_eq_ok (mem_directWrites hw)
    exact ⟨hname, congrArg some hvalue.symm, hslot⟩
  | cellBroadcastTopics slotId text | serviceCenterAddress slotId text =>
    obtain rfl := Option.some_inj.mp h
    obtain ⟨hname, hvalue, hslot⟩ := of_setText_eq_ok (mem_directWrites hw)
    exact ⟨hname, hvalue, hslot⟩

end

end Telephony
