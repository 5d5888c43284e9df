import Telephony.Origin

/-!
# Changes of properties

Most registrations watch a property of an object on the bus. The watches of an object get all
`PropertyChanged` signals of an interface, whatever property has changed, and each function picks
out the properties that its registration is about.

## Main definitions

* `Telephony.IndicationMsg.interface`, `Telephony.IndicationMsg.properties` — where the properties
  of an indication are, and which they are
* `Telephony.PropertySignal` — a signal whose value has the type of its property
* `Telephony.Registering.watchProperty` — the registrar of an indication
* `Telephony.LiveWatch.receive` — what a watch does with a signal
* `Telephony.Dispatches` — each signal calls exactly those back that it is for, with its own value
* `Telephony.PropertySignal.Delivered` — the function can decode the value

## Main results

* `Telephony.run_of_isFor`, `Telephony.run_of_notMem` — what a function does with a property of its
  own and with another one
* `Telephony.dispatches_iff_delivered` — the signals are dispatched exactly if the values of the
  signal strength and of the network time can be decoded
-/

namespace Telephony

open DBus Machine

/-! ## Indications of properties -/

namespace IndicationMsg

/-- The interface that has the properties of an indication. -/
def interface : IndicationMsg → Interface
  | .radioStateChange | .airplaneModeChange | .modemStateChange => .modem
  | .dataEnabledChange | .dataRegistrationStateChange | .dataNetworkTypeChange =>
    .connectionManager
  | .simStateChange | .simUiccAppEnabledChange | .simIccidChange => .simManager
  | .networkStateChange | .voiceRegistrationStateChange | .signalStrengthChange
  | .nitzStateChange => .networkRegistration
  | _ => .manager

/-- The properties that an indication is about. -/
def properties : IndicationMsg → List String
  | .radioStateChange => ["RadioState"]
  | .airplaneModeChange => ["Online"]
  | .modemStateChange => ["ModemState"]
  | .dataEnabledChange => ["DataOn"]
  | .dataRegistrationStateChange => ["Status"]
  | .dataNetworkTypeChange => ["Technology"]
  | .defaultDataSlotChange => ["DataSlot"]
  | .simStateChange => ["SimState"]
  | .simUiccAppEnabledChange => ["UiccActive"]
  | .simIccidChange => ["CardIdentifier"]
  | .networkStateChange | .voiceRegistrationStateChange => Network.networkProperties
  | .signalStrengthChange => ["SignalStrength"]
  | .nitzStateChange => ["NITZ"]
  | .defaultVoicecallSlotChange => ["VoiceCallSlot"]
  | .defaultSmsSlotChanged => ["SmsSlot"]
  | _ => []

/-- The object that has the properties: the manager, or the modem of the slot. -/
def objectPath (cfg : Config) (slotId : ℤ) (msg : IndicationMsg) : String :=
  if msg.interface = .manager then cfg.managerPath else modemPath cfg slotId

/-- What the function of the watch does with the value of a property. -/
inductive Report
  | number | slot | networkType | text | notice | strength | time
  deriving DecidableEq, Repr

def report : IndicationMsg → Report
  | .dataNetworkTypeChange => .networkType
  | .defaultDataSlotChange | .defaultVoicecallSlotChange | .defaultSmsSlotChanged => .slot
  | .simIccidChange => .text
  | .networkStateChange | .voiceRegistrationStateChange => .notice
  | .signalStrengthChange => .strength
  | .nitzStateChange => .time
  | _ => .number

/-- The function of the watch. -/
def propertyFunction : IndicationMsg → SignalFunction
  | .airplaneModeChange => .airplaneModeChanged
  | .modemStateChange => .modemStateChanged
  | .dataEnabledChange | .dataRegistrationStateChange | .dataNetworkTypeChange
  | .defaultDataSlotChange => .dataPropertyChanged
  | .simStateChange | .simUiccAppEnabledChange | .simIccidChange => .simPropertyChanged
  | .networkStateChange | .voiceRegistrationStateChange => .networkStateChanged
  | .signalStrengthChange => .signalStrengthChanged
  | .nitzStateChange => .nitzStateChanged
  | .defaultVoicecallSlotChange => .callManagerPropertyChanged
  | .defaultSmsSlotChanged => .smsPropertyChanged
  | _ => .radioStateChanged

end IndicationMsg

/-- The registrar of an indication of properties. `tapi_register` leads to it, except for the
identifier of the SIM card and the slot for messages. -/
def Registering.watchProperty (r : Registering) (cfg : Config) : Registered Payload :=
  match r.msg with
  | .radioStateChange | .airplaneModeChange | .modemStateChange =>
    Manager.tapiModemRegister cfg r.first r.context r.slotId r.msg r.userObj r.pHandle
  | .dataEnabledChange | .dataRegistrationStateChange | .dataNetworkTypeChange
  | .defaultDataSlotChange =>
    Data.tapiDataRegister cfg r.first r.context r.slotId r.msg r.userObj r.pHandle
  | .simStateChange | .simUiccAppEnabledChange | .simIccidChange =>
    Sim.tapiSimRegister cfg r.first r.context r.slotId r.msg r.userObj r.pHandle
  | .networkStateChange | .voiceRegistrationStateChange | .signalStrengthChange
  | .nitzStateChange =>
    Network.tapiNetworkRegister cfg r.first r.context r.slotId r.msg r.userObj r.pHandle
  | .defaultVoicecallSlotChange =>
    Call.tapiCallRegisterDefaultVoicecallSlotChange cfg r.first r.context r.userObj r.pHandle
  | .defaultSmsSlotChanged =>
    Sms.tapiSmsRegister cfg r.first r.context r.slotId r.msg r.userObj r.pHandle
  | _ => .refused 0

/-- The watches of registrations for indications of properties. -/
def liveWatches (cfg : Config) (rs : List Registering) : List LiveWatch :=
  rs.flatMap fun r => (r.watchProperty cfg).watches.map fun w => ⟨r, r.first.result, w⟩

/-! ## Signals -/

/-- What the value of a property is. -/
inductive PropertyType
  | number | text | strength | any
  deriving DecidableEq, Repr

/-- The types that oFono gives the properties. Those of the other properties do not matter. -/
def Interface.typeOf : Interface → String → PropertyType
  | .modem, name => if name ∈ ["RadioState", "Online", "ModemState"] then .number else .any
  | .connectionManager, name =>
    if name ∈ ["DataOn", "Status", "Technology"] then .number else .any
  | .simManager, name =>
    if name ∈ ["SimState", "UiccActive"] then .number
    else if name = "CardIdentifier" then .text
    else .any
  | .networkRegistration, name =>
    if name = "SignalStrength" then .strength else if name = "NITZ" then .text else .any
  | .manager, name =>
    if name ∈ ["DataSlot", "VoiceCallSlot", "SmsSlot"] then .text else .any
  | _, _ => .any

/-- The value is of the type. A signal strength is a dictionary of numbers. -/
def PropertyType.admits : PropertyType → Iter → Bool
  | .number, value => value.isInt
  | .text, value => value.isText
  | .strength, value => value.recurse.elim false Network.signalStrengthProperties.readsAll
  | .any, _ => true

/-- A `PropertyChanged` signal, with the blocks that the watches get while they handle it. -/
structure PropertySignal where
  path : String
  interface : Interface
  name : String
  value : Value
  typed : value.typed = true
  wellFormed : (interface.typeOf name).admits [value] = true
  heap : ℕ → Heap

namespace PropertySignal

def toSignal (sig : PropertySignal) : Manager.Signal := ⟨sig.path, sig.interface, "PropertyChanged"⟩

def message (sig : PropertySignal) : Message where
  type := .signal
  path := sig.path
  member := "PropertyChanged"
  args := [.string sig.name, .variant sig.value]
  typed := by simp [Value.typed, sig.typed]

/-- The signal is about a property of the registration, which has a callback. -/
def isFor (sig : PropertySignal) (cfg : Config) (r : Registering) : Bool :=
  sig.path = r.msg.objectPath cfg r.slotId ∧ sig.interface = r.msg.interface ∧
    sig.name ∈ r.msg.properties ∧ r.pHandle ≠ null

end PropertySignal

/-- A watch gets the signals of its object and its interface. -/
def LiveWatch.receive (cfg : Config) : Step LiveWatch PropertySignal Callback := fun w sig =>
  if sig.toSignal.reaches w.watch then
    (w.serve cfg sig.message (sig.heap w.watch.id)).map fun h =>
      (w.after h, if h.called then [⟨.watch w.registering, w.block, h.result⟩] else [])
  else some (w, [])

/-! ## The law -/

/-- The record shows the value of the property, if the registration delivers a number, a truth
value, a slot or a text. -/
def IndicationMsg.Shows (cfg : Config) (value : Iter) (ar : AsyncResult Payload)
    (msg : IndicationMsg) : Prop :=
  match msg.report with
  | .number => value.getInt = some ar.arg2
  | .slot => ∃ s, value.getString = some s ∧ ar.arg2 = tapiUtilsGetSlotId cfg s
  | .networkType => ∃ n, value.getInt = some n ∧
      ar.arg2 = Data.networkTypeFromRilTech cfg.radioTech n
  | .text => ∃ s, value.getString = some s ∧ ar.data = .text s
  | .notice | .strength | .time => True

/-- Each signal calls exactly those registrations back that it is for, once each, with status OK
and its value. What a registration gets from a signal is settled by the two alone, whatever other
signals there have been. -/
def Dispatches (cfg : Config) (ws : List LiveWatch) (sigs : List PropertySignal) : Prop :=
  ∃ answer : LiveWatch → PropertySignal → AsyncResult Payload,
    (∀ sig ∈ sigs, ∀ w ∈ ws, sig.isFor cfg w.registering = true →
      (answer w sig).status = ok ∧ w.registering.msg.Shows cfg [sig.value] (answer w sig)) ∧
    ∃ ws', run (broadcast (LiveWatch.receive cfg)) ws sigs =
      some (ws', sigs.flatMap fun sig => (ws.filter fun w => sig.isFor cfg w.registering).map
        fun w => ⟨.watch w.registering, w.block, answer w sig⟩)

/-- There is memory for a signal strength, and a network time has no more numbers than the
structure that they are written into. -/
def PropertySignal.Delivered (sig : PropertySignal) (w : LiveWatch) : Prop :=
  match w.registering.msg with
  | .signalStrengthChange => (sig.heap w.watch.id).signalStrength ≠ none
  | .nitzStateChange => (sig.heap w.watch.id).networkTime ≠ none ∧
      (sig.heap w.watch.id).strdup = true ∧
      ∀ time, Iter.getString [sig.value] = some time → (strtok time ',').length ≤ 8
  | _ => True

/-! ## Decoding -/

namespace IndicationMsg.Report

/-- The record that is delivered, if the value can be decoded. -/
def fill (cfg : Config) (heap : Heap) (value : Iter) (ar : AsyncResult Payload) :
    Report → Option (AsyncResult Payload)
  | .number => value.getInt.map fun n => { ar with arg2 := n, status := ok }
  | .slot => value.getString.map fun s =>
      { ar with arg2 := tapiUtilsGetSlotId cfg s, status := ok }
  | .networkType => value.getInt.map fun n =>
      { ar with arg2 := Data.networkTypeFromRilTech cfg.radioTech n, status := ok }
  | .text => value.getString.map fun s => { ar with data := .text s, status := ok }
  | .notice => some { ar with status := ok }
  | .strength =>
    value.recurse.bind fun dict => heap.signalStrength.bind fun block =>
      (Network.signalStrengthProperties.readAll dict block).map fun ss =>
        { ar with data := .signalStrength ss, status := ok }
  | .time =>
    value.getString.bind fun s => heap.networkTime.bind fun block =>
      (Network.parseNitz heap s block).map fun time =>
        { ar with data := .networkTime time, status := ok }

variable {cfg : Config} {heap : Heap} {value : Iter} {ar ar' : AsyncResult Payload} {k : Report}

/-- Every delivery writes the status and the field that it is about, and nothing else. -/
theorem fill_fill (h : k.fill cfg heap value ar = some ar') (heap' : Heap) (value' : Iter) :
    k.fill cfg heap' value' ar' = k.fill cfg heap' value' ar := by
  cases k with
  | number | slot | networkType | text =>
    obtain ⟨_, _, rfl⟩ := Option.map_eq_some_iff.mp h
    rfl
  | notice =>
    obtain rfl := Option.some_inj.mp h
    rfl
  | strength | time =>
    obtain ⟨_, _, h⟩ := Option.bind_eq_some_iff.mp h
    obtain ⟨_, _, h⟩ := Option.bind_eq_some_iff.mp h
    obtain ⟨_, _, rfl⟩ := Option.map_eq_some_iff.mp h
    rfl

theorem status_of_fill (h : k.fill cfg heap value ar = some ar') :
    ar'.status = ok ∧ ar'.msgId = ar.msgId := by
  cases k with
  | number | slot | networkType | text =>
    obtain ⟨_, _, rfl⟩ := Option.map_eq_some_iff.mp h
    exact ⟨rfl, rfl⟩
  | notice =>
    obtain rfl := Option.some_inj.mp h
    exact ⟨rfl, rfl⟩
  | strength | time =>
    obtain ⟨_, _, h⟩ := Option.bind_eq_some_iff.mp h
    obtain ⟨_, _, h⟩ := Option.bind_eq_some_iff.mp h
    obtain ⟨_, _, rfl⟩ := Option.map_eq_some_iff.mp h
    exact ⟨rfl, rfl⟩

theorem fill_failing : k.fill cfg heap value { ar with status := error } =
    k.fill cfg heap value ar := by
  cases k <;> rfl

end IndicationMsg.Report

section Serve

variable {cfg : Config} {heap : Heap} {handler : AsyncHandler Payload} {msg : IndicationMsg}
  {sig : PropertySignal} {ar : AsyncResult Payload} {h : Handling}

/-- A function that watches a property gets the name and the value. -/
theorem onPropertySignal_message (hcb : handler.cbFunction ≠ null)
    (body : String → Iter → AsyncResult Payload → Option Handling) :
    onPropertySignal handler sig.message body = body sig.name [sig.value] handler.result := by
  simp [onPropertySignal, onSignal, withCallback, hcb, PropertySignal.message, Iter.getString,
    Iter.next, Iter.recurse]

theorem onIntProperty_message (hcb : handler.cbFunction ≠ null) (name : String) :
    onIntProperty handler sig.message name =
      if sig.name = name then deliverInt [sig.value] handler.result
      else some (ignore handler.result) :=
  onPropertySignal_message hcb _

/-- The number of a property is delivered, if it can be read. -/
theorem deliverInt_eq (value : Iter) (ar : AsyncResult Payload) :
    deliverInt value ar = (IndicationMsg.Report.number.fill cfg heap value ar).map deliver := by
  simp [deliverInt, IndicationMsg.Report.fill, Function.comp_def]

/-- The function for calls gets the property that names the slot. -/
theorem callManagerPropertyChanged_message
    (hid : handler.result.msgId = IndicationMsg.defaultVoicecallSlotChange.value) :
    Call.callManagerPropertyChanged cfg .manager handler sig.message =
      Call.tapiCallDefaultVoicecallSlotChange cfg handler sig.message := by
  simp [Call.callManagerPropertyChanged, PropertySignal.message, hid]

/-- A property that takes no memory is delivered as far as it can be read. -/
theorem run_of_mem (hid : handler.result.msgId = msg.value) (hcb : handler.cbFunction ≠ null)
    (hname : sig.name ∈ msg.properties) (hstrength : msg.report ≠ .strength)
    (htime : msg.report ≠ .time) :
    msg.propertyFunction.run cfg msg.interface handler sig.message heap =
      (msg.report.fill cfg heap [sig.value] handler.result).map deliver := by
  have hcb' : handler.failing.cbFunction ≠ null := hcb
  have hid' : handler.failing.result.msgId = msg.value := hid
  -- each function compares the id of the record, and most of them the name of the property
  cases msg
  case radioStateChange | airplaneModeChange | modemStateChange =>
    have hname' := List.mem_singleton.mp hname
    refine (if_neg (not_not.mpr hid)).trans ?_
    rw [onIntProperty_message hcb, if_pos hname', deliverInt_eq]
    rfl
  case dataEnabledChange | dataRegistrationStateChange | dataNetworkTypeChange
      | defaultDataSlotChange =>
    have hname' := List.mem_singleton.mp hname
    simp only [IndicationMsg.propertyFunction, SignalFunction.run, Data.dataPropertyChanged,
      onPropertySignal_message hcb', hid', hname']
    simp [IndicationMsg.value_inj, deliverInt, IndicationMsg.report, IndicationMsg.Report.fill,
      Function.comp_def, AsyncHandler.failing, hid]
  case simStateChange | simUiccAppEnabledChange | simIccidChange =>
    have hname' := List.mem_singleton.mp hname
    simp only [IndicationMsg.propertyFunction, SignalFunction.run, Sim.simPropertyChanged,
      onPropertySignal_message hcb, hid, hname']
    simp [IndicationMsg.value_inj, deliverInt, IndicationMsg.report, IndicationMsg.Report.fill,
      Function.comp_def, hid]
  case networkStateChange | voiceRegistrationStateChange =>
    have hname' : sig.name ∈ Network.networkProperties := hname
    simp [IndicationMsg.propertyFunction, SignalFunction.run, Network.networkStateChanged,
      withCallback, hcb, hid, PropertySignal.message, Iter.getString, hname',
      IndicationMsg.report, IndicationMsg.Report.fill]
  case defaultVoicecallSlotChange =>
    have hname' := List.mem_singleton.mp hname
    refine (callManagerPropertyChanged_message hid).trans ?_
    simp only [Call.tapiCallDefaultVoicecallSlotChange, onPropertySignal_message hcb, hname']
    simp [IndicationMsg.report, IndicationMsg.Report.fill, Function.comp_def]
  case defaultSmsSlotChanged =>
    have hname' := List.mem_singleton.mp hname
    simp only [IndicationMsg.propertyFunction, SignalFunction.run, Sms.smsPropertyChanged,
      onPropertySignal_message hcb, hname']
    simp [IndicationMsg.report, IndicationMsg.Report.fill, Function.comp_def]
  all_goals contradiction

/-- A signal strength and a network time also take memory. Without it, nothing is delivered. -/
theorem run_of_memory (hid : handler.result.msgId = msg.value) (hcb : handler.cbFunction ≠ null)
    (hname : sig.name ∈ msg.properties)
    (hreport : msg.report = .strength ∨ msg.report = .time) :
    (∃ ar, msg.report.fill cfg heap [sig.value] handler.result = some ar ∧
      msg.propertyFunction.run cfg msg.interface handler sig.message heap = some (deliver ar)) ∨
    (msg.report.fill cfg heap [sig.value] handler.result = none ∧
      ∀ h, msg.propertyFunction.run cfg msg.interface handler sig.message heap = some h →
        h = ignore handler.result) := by
  cases msg
  case signalStrengthChange =>
    have hname' : sig.name = "SignalStrength" := List.mem_singleton.mp hname
    simp only [IndicationMsg.propertyFunction, SignalFunction.run, Network.signalStrengthChanged,
      onlyFor, hid, ne_eq, not_true_eq_false, if_false, onPropertySignal_message hcb, hname',
      if_true, IndicationMsg.report, IndicationMsg.Report.fill]
    -- the value is read before the block is asked for
    cases Iter.recurse [sig.value] with
    | none => simp
    | some dict =>
      cases heap.signalStrength with
      | none => simp
      | some block =>
        cases hread : Network.signalStrengthProperties.readAll dict block with
        | none => simp [hread]
        | some ss => simp [hread]
  case nitzStateChange =>
    have hname' : sig.name = "NITZ" := List.mem_singleton.mp hname
    simp only [IndicationMsg.propertyFunction, SignalFunction.run, Network.nitzStateChanged,
      onlyFor, hid, ne_eq, not_true_eq_false, if_false, onPropertySignal_message hcb, hname',
      if_true, IndicationMsg.report, IndicationMsg.Report.fill]
    cases Iter.getString [sig.value] with
    | none => simp
    | some text =>
      cases heap.networkTime with
      | none => simp
      | some block =>
        cases hparse : Network.parseNitz heap text block with
        | none => simp [hparse]
        | some time => simp [hparse]
  all_goals
    obtain hreport | hreport := hreport
    · contradiction
    · contradiction

variable (cfg heap) in
/-- The function of a watch delivers a property of its own as far as it can be decoded. -/
theorem run_of_isFor (hid : handler.result.msgId = msg.value) (hcb : handler.cbFunction ≠ null)
    (hname : sig.name ∈ msg.properties) :
    (∃ ar, msg.report.fill cfg heap [sig.value] handler.result = some ar ∧
      msg.propertyFunction.run cfg msg.interface handler sig.message heap = some (deliver ar)) ∨
    (msg.report.fill cfg heap [sig.value] handler.result = none ∧
      ∀ h, msg.propertyFunction.run cfg msg.interface handler sig.message heap = some h →
        h = ignore handler.result) := by
  by_cases hreport : msg.report = .strength ∨ msg.report = .time
  · exact run_of_memory hid hcb hname hreport
  · obtain ⟨hstrength, htime⟩ := not_or.mp hreport
    rw [run_of_mem hid hcb hname hstrength htime]
    cases hfill : msg.report.fill cfg heap [sig.value] handler.result with
    | none => exact .inr ⟨rfl, by simp⟩
    | some ar => exact .inl ⟨ar, rfl, rfl⟩

/-- A property of another registration changes at most the status of the record. -/
theorem run_of_notMem (hproperties : msg.properties ≠ [])
    (hid : handler.result.msgId = msg.value) (hcb : handler.cbFunction ≠ null)
    (hname : sig.name ∉ msg.properties) :
    msg.propertyFunction.run cfg msg.interface handler sig.message heap =
        some (ignore handler.result) ∨
      msg.propertyFunction.run cfg msg.interface handler sig.message heap =
        some (ignore handler.failing.result) := by
  have hcb' : handler.failing.cbFunction ≠ null := hcb
  have hid' : handler.failing.result.msgId = msg.value := hid
  -- only the data functions write a status before they look at the name
  cases msg
  case radioStateChange | airplaneModeChange | modemStateChange =>
    rw [IndicationMsg.properties, List.mem_singleton] at hname
    refine .inl ((if_neg (not_not.mpr hid)).trans ?_)
    rw [onIntProperty_message hcb, if_neg hname]
  case dataEnabledChange | dataRegistrationStateChange | dataNetworkTypeChange
      | defaultDataSlotChange =>
    rw [IndicationMsg.properties, List.mem_singleton] at hname
    right
    simp only [IndicationMsg.propertyFunction, SignalFunction.run, Data.dataPropertyChanged,
      onPropertySignal_message hcb', hid']
    simp [IndicationMsg.value_inj, hname]
  case simStateChange | simUiccAppEnabledChange | simIccidChange =>
    rw [IndicationMsg.properties, List.mem_singleton] at hname
    left
    simp only [IndicationMsg.propertyFunction, SignalFunction.run, Sim.simPropertyChanged,
      onPropertySignal_message hcb, hid]
    simp [IndicationMsg.value_inj, hname]
  case networkStateChange | voiceRegistrationStateChange =>
    have hname' : sig.name ∉ Network.networkProperties := hname
    left
    simp [IndicationMsg.propertyFunction, SignalFunction.run, Network.networkStateChanged,
      withCallback, hcb, hid, PropertySignal.message, Iter.getString, hname']
  case signalStrengthChange =>
    rw [IndicationMsg.properties, List.mem_singleton] at hname
    refine .inl ((if_neg (not_not.mpr hid)).trans ?_)
    rw [onPropertySignal_message hcb, if_neg hname]
  case nitzStateChange =>
    rw [IndicationMsg.properties, List.mem_singleton] at hname
    refine .inl ((if_neg (not_not.mpr hid)).trans ?_)
    rw [onPropertySignal_message hcb, if_neg hname]
  case defaultVoicecallSlotChange =>
    rw [IndicationMsg.properties, List.mem_singleton] at hname
    refine .inl ((callManagerPropertyChanged_message hid).trans ?_)
    rw [Call.tapiCallDefaultVoicecallSlotChange, onPropertySignal_message hcb, if_neg hname]
  case defaultSmsSlotChanged =>
    rw [IndicationMsg.properties, List.mem_singleton] at hname
    left
    simp [IndicationMsg.propertyFunction, SignalFunction.run, Sms.smsPropertyChanged,
      onPropertySignal_message hcb, hname]
  all_goals contradiction

/-- Without a callback nothing is delivered. -/
theorem run_of_null (hproperties : msg.properties ≠ [])
    (hid : handler.result.msgId = msg.value) (hcb : handler.cbFunction = null) :
    msg.propertyFunction.run cfg msg.interface handler sig.message heap =
        some (ignore handler.result) ∨
      msg.propertyFunction.run cfg msg.interface handler sig.message heap =
        some (ignore handler.failing.result) := by
  have hwith : ∀ body, withCallback handler body = some (ignore handler.result) :=
    fun body => if_pos hcb
  have hfailing : ∀ body,
      withCallback handler.failing body = some (ignore handler.failing.result) :=
    fun body => if_pos hcb
  -- without a callback the functions return before they read the message
  cases msg
  case dataEnabledChange | dataRegistrationStateChange | dataNetworkTypeChange
      | defaultDataSlotChange =>
    right
    simp only [IndicationMsg.propertyFunction, SignalFunction.run, Data.dataPropertyChanged,
      onPropertySignal, onSignal, hfailing]
  case defaultVoicecallSlotChange =>
    refine .inl ((callManagerPropertyChanged_message hid).trans ?_)
    simp only [Call.tapiCallDefaultVoicecallSlotChange, onPropertySignal, onSignal, hwith]
  case simStateChange | simUiccAppEnabledChange | simIccidChange | networkStateChange
      | voiceRegistrationStateChange | defaultSmsSlotChanged =>
    left
    simp only [IndicationMsg.propertyFunction, SignalFunction.run, Sim.simPropertyChanged,
      Network.networkStateChanged, Sms.smsPropertyChanged, onPropertySignal, onSignal, hwith]
  case radioStateChange | airplaneModeChange | modemStateChange | signalStrengthChange
      | nitzStateChange =>
    refine .inl ((if_neg (not_not.mpr hid)).trans ?_)
    simp only [onIntProperty, onPropertySignal, onSignal, hwith]
  all_goals contradiction

end Serve

/-! ## Watches -/

/-- The watch of a registration, with the record of the registrar. -/
structure LiveWatch.Subscribed (cfg : Config) (w : LiveWatch) : Prop where
  properties : w.registering.msg.properties ≠ []
  spec : w.watch.spec = ⟨w.registering.msg.objectPath cfg w.registering.slotId,
    w.registering.msg.interface, "PropertyChanged", w.registering.msg.propertyFunction⟩
  msgId : w.watch.handler.result.msgId = w.registering.msg.value
  cbFunction : w.watch.handler.cbFunction = w.registering.pHandle

/-- The watch as it is some signals later. The record may have changed, as far as no delivery
depends on it. -/
def LiveWatch.Follows (cfg : Config) (w₀ w : LiveWatch) : Prop :=
  w₀.Subscribed cfg ∧ ∃ h : Handling, w = w₀.after h ∧
    h.result.msgId = w₀.watch.handler.result.msgId ∧
    ∀ heap value, w₀.registering.msg.report.fill cfg heap value h.result =
      w₀.registering.msg.report.fill cfg heap value w₀.watch.handler.result

section Watches

variable {cfg : Config} {rs : List Registering} {r : Registering} {w w₀ : LiveWatch}
  {sig : PropertySignal}

theorem watches_watchProperty (r : Registering) (cfg : Config) :
    (r.watchProperty cfg).watches = [] ∨ r.msg.properties ≠ [] ∧ ∃ record : AsyncResult Payload →
      AsyncResult Payload, (∀ block, (record block).msgId = r.msg.value) ∧
        Grants r.first r.context record r.pHandle ⟨r.msg.objectPath cfg r.slotId, r.msg.interface,
          "PropertyChanged", r.msg.propertyFunction⟩ (r.watchProperty cfg) := by
  obtain ⟨context, slotId, msg, userObj, pHandle, first, second⟩ := r
  cases msg
  case defaultVoicecallSlotChange =>
    -- the slot that the caller names is not used
    refine .inr ⟨List.cons_ne_nil _ _, identify _ 0 userObj, fun _ => rfl, ?_⟩
    simp only [Registering.watchProperty, Call.tapiCallRegisterDefaultVoicecallSlotChange,
      Call.tapiRegisterManagerCallSignal]
    apply grants_registerSignal
    rfl
  case radioStateChange | airplaneModeChange | modemStateChange | dataEnabledChange
      | dataRegistrationStateChange | dataNetworkTypeChange | defaultDataSlotChange
      | simStateChange | simUiccAppEnabledChange | simIccidChange | networkStateChange
      | voiceRegistrationStateChange | signalStrengthChange | nitzStateChange
      | defaultSmsSlotChanged =>
    refine .inr ⟨List.cons_ne_nil _ _, identify _ slotId userObj, fun _ => rfl, ?_⟩
    exact grants_registerSignal rfl
  all_goals exact .inl rfl

/-- Every watch of a registrar is subscribed. -/
theorem subscribed_of_mem (h : w ∈ liveWatches cfg rs) : w.Subscribed cfg := by
  obtain ⟨r, -, hw⟩ := List.mem_flatMap.mp h
  obtain ⟨watch, hwatch, rfl⟩ := List.mem_map.mp hw
  obtain hnil | ⟨hproperties, record, hid, hgrants⟩ := watches_watchProperty r cfg
  · rw [hnil] at hwatch
    contradiction
  · generalize r.watchProperty cfg = registered at hwatch hgrants
    cases hgrants with
    | refused => contradiction
    | watched =>
      obtain rfl := List.mem_singleton.mp hwatch
      exact ⟨hproperties, rfl, hid _, rfl⟩

theorem LiveWatch.Subscribed.follows (h : w.Subscribed cfg) : w.Follows cfg w :=
  ⟨h, ignore w.watch.handler.result, rfl, rfl, fun _ _ => rfl⟩

/-- Another delivery finds a record that still gives the same. -/
theorem LiveWatch.Follows.after (h : w₀.Follows cfg w) {h' : Handling}
    (hid : h'.result.msgId = w.watch.handler.result.msgId)
    (hfill : ∀ heap value, w₀.registering.msg.report.fill cfg heap value h'.result =
      w₀.registering.msg.report.fill cfg heap value w.watch.handler.result) :
    w₀.Follows cfg (w.after h') := by
  obtain ⟨hsub, h, rfl, hid₀, hfill₀⟩ := h
  exact ⟨hsub, h', rfl, hid.trans hid₀, fun heap value =>
    (hfill heap value).trans (hfill₀ heap value)⟩

/-- The signal reaches the watch exactly if it is a signal of its object and its interface. -/
theorem LiveWatch.Subscribed.reaches_iff (h : w₀.Subscribed cfg)
    (hcb : w₀.registering.pHandle ≠ null) :
    sig.isFor cfg w₀.registering = true ↔
      sig.toSignal.reaches w₀.watch = true ∧ sig.name ∈ w₀.registering.msg.properties := by
  simp [PropertySignal.isFor, Manager.Signal.reaches, PropertySignal.toSignal, h.spec, hcb]
  tauto

/-- What a watch owes the application for a signal. -/
def LiveWatch.owed (cfg : Config) (w : LiveWatch) (sig : PropertySignal) : List Callback :=
  if sig.isFor cfg w.registering then
    [⟨.watch w.registering, w.block,
      (w.registering.msg.report.fill cfg (sig.heap w.watch.id) [sig.value]
        w.watch.handler.result).getD w.watch.handler.result⟩]
  else []

/-- The signal is not for the watch, or its value can be decoded. -/
def LiveWatch.Good (cfg : Config) (w : LiveWatch) (sig : PropertySignal) : Prop :=
  sig.isFor cfg w.registering = true →
    (w.registering.msg.report.fill cfg (sig.heap w.watch.id) [sig.value]
      w.watch.handler.result).isSome = true

/-- A watch that has got some signals still has its function. -/
theorem LiveWatch.Subscribed.serve_after (hsub : w₀.Subscribed cfg) (h : Handling)
    (message : Message) (heap : Heap) :
    (w₀.after h).serve cfg message heap =
      w₀.registering.msg.propertyFunction.run cfg w₀.registering.msg.interface
        (w₀.after h).watch.handler message heap := by
  simp only [LiveWatch.serve, LiveWatch.after, hsub.spec]

theorem LiveWatch.receive_of_serve {h : Handling} (hreaches : sig.toSignal.reaches w.watch = true)
    (hserve : w.serve cfg sig.message (sig.heap w.watch.id) = some h) :
    w.receive cfg sig = some (w.after h,
      if h.called then [⟨.watch w.registering, w.block, h.result⟩] else []) := by
  rw [LiveWatch.receive, if_pos hreaches, hserve]
  rfl

theorem LiveWatch.serve_of_receive {w' : LiveWatch} {out : List Callback}
    (hreaches : sig.toSignal.reaches w.watch = true)
    (hreceive : w.receive cfg sig = some (w', out)) :
    ∃ h, w.serve cfg sig.message (sig.heap w.watch.id) = some h ∧ w' = w.after h ∧
      out = if h.called then [⟨.watch w.registering, w.block, h.result⟩] else [] := by
  rw [LiveWatch.receive, if_pos hreaches, Option.map_eq_some_iff] at hreceive
  obtain ⟨h, hserve, heq⟩ := hreceive
  obtain ⟨rfl, rfl⟩ := Prod.mk.inj heq
  exact ⟨h, hserve, rfl, rfl⟩

/-- A signal for the watch is delivered if its value can be decoded, and otherwise dropped, if it
is not undefined. -/
theorem LiveWatch.Follows.receive_of_isFor (h : w₀.Follows cfg w)
    (hfor : sig.isFor cfg w₀.registering = true) :
    (w₀.Good cfg sig ∧ ∃ w', w.receive cfg sig = some (w', w₀.owed cfg sig) ∧ w₀.Follows cfg w') ∨
      (¬ w₀.Good cfg sig ∧
        ∀ w' out, w.receive cfg sig = some (w', out) → out = [] ∧ w₀.Follows cfg w') := by
  have hfollows := h
  obtain ⟨hsub, h, rfl, hid, hfill⟩ := h
  have hcb₀ : w₀.registering.pHandle ≠ null := by
    simp only [PropertySignal.isFor, decide_eq_true_eq] at hfor
    exact hfor.2.2.2
  obtain ⟨hreaches, hname⟩ := (hsub.reaches_iff hcb₀).mp hfor
  have hreaches' : sig.toSignal.reaches (w₀.after h).watch = true := hreaches
  have hcb : (w₀.after h).watch.handler.cbFunction ≠ null := hsub.cbFunction ▸ hcb₀
  have hid' : (w₀.after h).watch.handler.result.msgId = w₀.registering.msg.value :=
    hid.trans hsub.msgId
  obtain ⟨ar, hdecoded, hrun⟩ | ⟨hundecoded, hrun⟩ :=
    run_of_isFor cfg (sig.heap w₀.watch.id) hid' hcb hname
  · left
    -- the first record of the watch would give the same
    have hfound := (hfill _ _).symm.trans hdecoded
    obtain ⟨-, hid''⟩ := IndicationMsg.Report.status_of_fill hdecoded
    refine ⟨fun _ => by rw [hfound]; rfl, (w₀.after h).after (deliver ar), ?_, ?_⟩
    · rw [LiveWatch.receive_of_serve hreaches' ((hsub.serve_after ..).trans hrun),
        LiveWatch.owed, if_pos hfor, hfound]
      rfl
    · exact hfollows.after hid'' (IndicationMsg.Report.fill_fill hdecoded)
  · refine .inr ⟨fun hgood => ?_, fun w' out hreceive => ?_⟩
    · have hnone := (hfill _ _).symm.trans hundecoded
      have hfound := hgood hfor
      rw [hnone] at hfound
      contradiction
    · obtain ⟨h', hserve, rfl, rfl⟩ := LiveWatch.serve_of_receive hreaches' hreceive
      obtain rfl := hrun h' ((hsub.serve_after ..).symm.trans hserve)
      exact ⟨rfl, hfollows.after rfl fun _ _ => rfl⟩

/-- Other signals call nobody back. -/
theorem LiveWatch.Follows.receive_of_not_isFor (h : w₀.Follows cfg w)
    (hfor : sig.isFor cfg w₀.registering = false) :
    ∃ w', w.receive cfg sig = some (w', []) ∧ w₀.Follows cfg w' := by
  have hfollows := h
  obtain ⟨hsub, h, rfl, hid, -⟩ := h
  by_cases hreaches : sig.toSignal.reaches (w₀.after h).watch = true
  swap
  · -- a signal of another object or interface does not reach the watch
    exact ⟨w₀.after h, if_neg hreaches, hfollows⟩
  have hid' : (w₀.after h).watch.handler.result.msgId = w₀.registering.msg.value :=
    hid.trans hsub.msgId
  have hcb : (w₀.after h).watch.handler.cbFunction = w₀.registering.pHandle := hsub.cbFunction
  have hrun : ∀ heap, (w₀.after h).serve cfg sig.message heap =
        some (ignore (w₀.after h).watch.handler.result) ∨
      (w₀.after h).serve cfg sig.message heap =
        some (ignore (w₀.after h).watch.handler.failing.result) := by
    intro heap
    rw [hsub.serve_after]
    by_cases hnull : w₀.registering.pHandle = null
    · exact run_of_null hsub.properties hid' (hcb.trans hnull)
    · -- with a callback, it is the name of the property that is not the right one
      refine run_of_notMem hsub.properties hid' (hcb ▸ hnull) fun hname => ?_
      rw [(hsub.reaches_iff hnull).mpr ⟨hreaches, hname⟩] at hfor
      contradiction
  obtain hserve | hserve := hrun (sig.heap (w₀.after h).watch.id)
  · exact ⟨_, LiveWatch.receive_of_serve hreaches hserve, hfollows.after rfl fun _ _ => rfl⟩
  · exact ⟨_, LiveWatch.receive_of_serve hreaches hserve,
      hfollows.after rfl fun _ _ => IndicationMsg.Report.fill_failing⟩

/-- The value of a property has the type that its function reads, so that only memory and the length
of a network time are in question. -/
theorem isSome_fill_iff {ar : AsyncResult Payload} (hfor : sig.isFor cfg w.registering = true) :
    (w.registering.msg.report.fill cfg (sig.heap w.watch.id) [sig.value] ar).isSome = true ↔
      sig.Delivered w := by
  have htype := sig.wellFormed
  simp only [PropertySignal.isFor, decide_eq_true_eq] at hfor
  obtain ⟨-, hinterface, hname, -⟩ := hfor
  rw [hinterface] at htype
  unfold PropertySignal.Delivered
  generalize w.registering.msg = msg at hname htype
  cases msg
  case networkStateChange | voiceRegistrationStateChange =>
    -- these deliver no value
    simp [IndicationMsg.report, IndicationMsg.Report.fill]
  case signalStrengthChange =>
    obtain hname' : sig.name = "SignalStrength" := List.mem_singleton.mp hname
    simp only [IndicationMsg.interface, Interface.typeOf, hname', if_true,
      PropertyType.admits] at htype
    cases hdict : Iter.recurse [sig.value] with
    | none => simp [hdict] at htype
    | some dict =>
      rw [hdict, Option.elim_some] at htype
      cases hblock : (sig.heap w.watch.id).signalStrength with
      | none => simp [IndicationMsg.report, IndicationMsg.Report.fill, hdict, hblock]
      | some block =>
        simp [IndicationMsg.report, IndicationMsg.Report.fill, hdict, hblock, htype]
  case nitzStateChange =>
    obtain hname' : sig.name = "NITZ" := List.mem_singleton.mp hname
    rw [hname'] at htype
    have htext : (Iter.getString [sig.value]).isSome = true := htype
    obtain ⟨text, htext⟩ := Option.isSome_iff_exists.mp htext
    cases hblock : (sig.heap w.watch.id).networkTime with
    | none => simp [IndicationMsg.report, IndicationMsg.Report.fill, htext, hblock]
    | some block =>
      simp [IndicationMsg.report, IndicationMsg.Report.fill, htext, hblock, Network.parseNitz]
  case defaultDataSlotChange | defaultVoicecallSlotChange | defaultSmsSlotChanged
      | simIccidChange =>
    rw [List.mem_singleton.mp hname] at htype
    have htext : (Iter.getString [sig.value]).isSome = true := htype
    simp [IndicationMsg.report, IndicationMsg.Report.fill, htext]
  case radioStateChange | airplaneModeChange | modemStateChange | dataEnabledChange
      | dataRegistrationStateChange | dataNetworkTypeChange | simStateChange
      | simUiccAppEnabledChange =>
    rw [List.mem_singleton.mp hname] at htype
    have hint : (Iter.getInt [sig.value]).isSome = true := htype
    simp [IndicationMsg.report, IndicationMsg.Report.fill, hint]
  all_goals contradiction

theorem shows_of_fill {msg : IndicationMsg} {heap : Heap} {value : Iter}
    {ar ar' : AsyncResult Payload}
    (h : msg.report.fill cfg heap value ar = some ar') : msg.Shows cfg value ar' := by
  unfold IndicationMsg.Shows
  generalize msg.report = k at h
  cases k with
  | number =>
    obtain ⟨n, hn, rfl⟩ := Option.map_eq_some_iff.mp h
    exact hn
  | slot | networkType | text =>
    obtain ⟨x, hx, rfl⟩ := Option.map_eq_some_iff.mp h
    exact ⟨x, hx, rfl⟩
  | notice | strength | time => trivial

/-- What is owed for a signal, for all watches. -/
theorem flatMap_owed (ws : List LiveWatch) (sig : PropertySignal) :
    (ws.flatMap fun w => w.owed cfg sig) =
      (ws.filter fun w => sig.isFor cfg w.registering).map fun w =>
        ⟨.watch w.registering, w.block,
          (w.registering.msg.report.fill cfg (sig.heap w.watch.id) [sig.value]
            w.watch.handler.result).getD w.watch.handler.result⟩ := by
  induction ws with
  | nil => rfl
  | cons w ws ih =>
    rw [List.flatMap_cons, ih, LiveWatch.owed]
    cases hfor : sig.isFor cfg w.registering with
    | true => simp [hfor]
    | false => simp [hfor]

theorem LiveWatch.Follows.receive_of_good (h : w₀.Follows cfg w) (hgood : w₀.Good cfg sig) :
    ∃ w', w.receive cfg sig = some (w', w₀.owed cfg sig) ∧ w₀.Follows cfg w' := by
  cases hfor : sig.isFor cfg w₀.registering with
  | false =>
    obtain ⟨w', hreceive, hfollows⟩ := h.receive_of_not_isFor hfor
    refine ⟨w', hreceive.trans ?_, hfollows⟩
    simp [LiveWatch.owed, hfor]
  | true =>
    obtain ⟨-, hreceive⟩ | ⟨hbad, -⟩ := h.receive_of_isFor hfor
    · exact hreceive
    · exact absurd hgood hbad

theorem LiveWatch.Follows.length_receive_le {w' : LiveWatch} {out : List Callback}
    (h : w₀.Follows cfg w) (hreceive : w.receive cfg sig = some (w', out)) :
    w₀.Follows cfg w' ∧ out.length ≤ (w₀.owed cfg sig).length ∧
      (out.length = (w₀.owed cfg sig).length → w₀.Good cfg sig) := by
  cases hfor : sig.isFor cfg w₀.registering with
  | false =>
    obtain ⟨w₁, hreceive₁, hfollows⟩ := h.receive_of_not_isFor hfor
    obtain ⟨rfl, rfl⟩ := Prod.mk.inj (Option.some_inj.mp (hreceive₁.symm.trans hreceive))
    exact ⟨hfollows, Nat.zero_le _, fun _ hfor' => absurd hfor' (by simp [hfor])⟩
  | true =>
    obtain ⟨hgood, w₁, hreceive₁, hfollows⟩ | ⟨-, hdropped⟩ := h.receive_of_isFor hfor
    · obtain ⟨rfl, rfl⟩ := Prod.mk.inj (Option.some_inj.mp (hreceive₁.symm.trans hreceive))
      exact ⟨hfollows, le_rfl, fun _ => hgood⟩
    · -- a dropped signal leaves a callback owing
      obtain ⟨rfl, hfollows⟩ := hdropped w' out hreceive
      refine ⟨hfollows, Nat.zero_le _, fun hlength => ?_⟩
      simp [LiveWatch.owed, hfor] at hlength

/-- The signals are dispatched exactly if those for a watch can be decoded. -/
theorem dispatches_iff_of_subscribed {ws : List LiveWatch} (hws : ∀ w ∈ ws, w.Subscribed cfg)
    (sigs : List PropertySignal) :
    Dispatches cfg ws sigs ↔
      ∀ sig ∈ sigs, ∀ w ∈ ws, sig.isFor cfg w.registering = true → sig.Delivered w := by
  have hfollows : List.Forall₂ (LiveWatch.Follows cfg) ws ws :=
    List.forall₂_same.mpr fun w hw => (hws w hw).follows
  constructor
  · rintro ⟨answer, -, ws', hrun⟩
    have hstep : ∀ w₀ w sig w' out, LiveWatch.Follows cfg w₀ w →
        LiveWatch.receive cfg w sig = some (w', out) →
        LiveWatch.Follows cfg w₀ w' ∧ out.length ≤ (LiveWatch.owed cfg w₀ sig).length ∧
          (out.length = (LiveWatch.owed cfg w₀ sig).length → LiveWatch.Good cfg w₀ sig) :=
      fun w₀ w sig w' out hw hreceive => hw.length_receive_le hreceive
    -- the callbacks that are owed are as many as those of the law
    have hlength : (sigs.flatMap fun sig => ws.flatMap fun w => w.owed cfg sig).length =
        (sigs.flatMap fun sig => (ws.filter fun w => sig.isFor cfg w.registering).map fun w =>
          (⟨.watch w.registering, w.block, answer w sig⟩ : Callback)).length := by
      simp [flatMap_owed]
    have hgood := good_of_length_run_broadcast hstep hfollows hrun hlength.symm
    exact fun sig hsig w hw hfor => (isSome_fill_iff hfor).mp (hgood sig hsig w hw hfor)
  · intro hdelivered
    have hgood : ∀ sig ∈ sigs, ∀ w ∈ ws, w.Good cfg sig :=
      fun sig hsig w hw hfor => (isSome_fill_iff hfor).mpr (hdelivered sig hsig w hw hfor)
    have hstep : ∀ w₀ w sig, LiveWatch.Follows cfg w₀ w → LiveWatch.Good cfg w₀ sig →
        ∃ w', LiveWatch.receive cfg w sig = some (w', LiveWatch.owed cfg w₀ sig) ∧
          LiveWatch.Follows cfg w₀ w' := fun w₀ w sig hw hgood => hw.receive_of_good hgood
    obtain ⟨ws', hrun⟩ := run_broadcast hstep hfollows hgood
    -- what is delivered can be told from the record of the registrar
    refine ⟨fun w sig => (w.registering.msg.report.fill cfg (sig.heap w.watch.id) [sig.value]
      w.watch.handler.result).getD w.watch.handler.result, fun sig hsig w hw hfor => ?_, ws', ?_⟩
    · obtain ⟨ar, har⟩ := Option.isSome_iff_exists.mp (hgood sig hsig w hw hfor)
      simp only [har, Option.getD_some]
      exact ⟨(IndicationMsg.Report.status_of_fill har).1, shows_of_fill har⟩
    · simpa only [flatMap_owed] using hrun

end Watches

/-- In every run, each signal calls exactly the registrations back that it is for, with its own
value, exactly if there is memory for the signal strengths and the network times, and no network
time has more than eight numbers. -/
theorem dispatches_iff_delivered (cfg : Config) (rs : List Registering)
    (sigs : List PropertySignal) :
    Dispatches cfg (liveWatches cfg rs) sigs ↔
      ∀ sig ∈ sigs, ∀ w ∈ liveWatches cfg rs, sig.isFor cfg w.registering = true →
        sig.Delivered w :=
  dispatches_iff_of_subscribed (fun _ => subscribed_of_mem) sigs

/-! ## A network time with nine numbers -/

def sampleNitz : Registering where
  context := some idleContext
  slotId := 0
  msg := .nitzStateChange
  userObj := 5
  pHandle := 1
  first := ⟨true, some ⟨0, response, 0, 0, 0, .null, 0⟩, 1⟩
  second := ⟨true, none, 0⟩

def sampleNitzSignal : PropertySignal where
  path := "/ril_0"
  interface := .networkRegistration
  name := "NITZ"
  value := .string "1,2,3,4,5,6,7,8,9"
  typed := rfl
  wellFormed := rfl
  heap _ := { Heap.exhausted with strdup := true, networkTime := some Network.unsetNetworkTime }

/-- The ninth number would be written behind the structure. -/
theorem not_dispatches_sampleNitz :
    ¬ Dispatches twoModems (liveWatches twoModems [sampleNitz]) [sampleNitzSignal] := by
  rw [dispatches_iff_of_subscribed fun _ => subscribed_of_mem]
  intro h
  have hdelivered := h sampleNitzSignal (.head _) _ (.head _) (by decide)
  have hlength := hdelivered.2.2 _ rfl
  exact absurd hlength (by decide)

end Telephony
