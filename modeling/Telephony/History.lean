import Telephony.Properties

/-!
# The history of a registration

A watch keeps one record, and its function writes each signal over the last one. The functions of
the IMS and of the supplementary services call back for every signal that they can decode, with
whatever the record then holds.

## Main definitions

* `Telephony.Reporter` — a function that calls back for every signal that it can decode
* `Telephony.LiveWatch.CallsBack` — the signals call the registration back exactly for the
  properties that it is about, once each, with what each of them carries

## Main results

* `Telephony.LiveWatch.callsBack_iff_known` — after which histories a reporter has done so
* `Telephony.Ims.callsBack_iff`, `Telephony.Ss.Watched.callsBack_iff_deliverable` — the
  registrations for the IMS, for the state of USSD and for call barring
-/

namespace Telephony

open DBus Machine

/-- A function that calls back for every signal that it can decode, with a record that it makes
from the one that it finds. For the properties that it knows, what the record held does not
matter. -/
structure Reporter where
  names : List String
  decodes : PropertySignal → Bool
  fill : PropertySignal → AsyncResult Payload → AsyncResult Payload
  msgId_fill : ∀ sig ar, (fill sig ar).msgId = ar.msgId
  fill_fill : ∀ sig sig' ar, sig.name ∈ names → fill sig (fill sig' ar) = fill sig ar

namespace LiveWatch

/-- The signal reaches the watch, and is about one of the properties. -/
def owns (w : LiveWatch) (names : List String) (sig : PropertySignal) : Bool :=
  sig.toSignal.reaches w.watch && decide (sig.name ∈ names)

/-- A callback of the watch. -/
def callback (w : LiveWatch) (ar : AsyncResult Payload) : Callback :=
  ⟨.watch w.registering, w.block, ar⟩

/-- Each signal about one of the properties calls the registration back, once, with status OK and
what the signal carries, and no other signal does. The callback is the same as if the signal were
the first one. -/
def CallsBack (cfg : Config) (w : LiveWatch) (names : List String)
    (shows : PropertySignal → AsyncResult Payload → Prop) (sigs : List PropertySignal) : Prop :=
  ∃ answer : PropertySignal → AsyncResult Payload,
    (∀ sig ∈ sigs, w.owns names sig = true → (answer sig).status = ok ∧ shows sig (answer sig) ∧
      ∃ w₁, w.receive cfg sig = some (w₁, [w.callback (answer sig)])) ∧
    ∃ w', run (receive cfg) w sigs =
      some (w', (sigs.filter (w.owns names)).map fun sig => w.callback (answer sig))

/-- There are as many callbacks as signals about the properties. -/
theorem CallsBack.length_run {cfg : Config} {w : LiveWatch} {names : List String}
    {shows : PropertySignal → AsyncResult Payload → Prop} {sigs : List PropertySignal}
    (h : w.CallsBack cfg names shows sigs) :
    (run (receive cfg) w sigs).map (fun r => r.2.length) =
      some (sigs.filter (w.owns names)).length := by
  obtain ⟨answer, -, w', hrun⟩ := h
  rw [hrun, Option.map_some, List.length_map]

/-- The function of the watch is the reporter, for all records with the id of the watch. -/
def ReportsBy (cfg : Config) (w : LiveWatch) (rep : Reporter) : Prop :=
  ∀ (ar : AsyncResult Payload) (sig : PropertySignal) (heap : Heap),
    ar.msgId = w.watch.handler.result.msgId →
      w.watch.spec.function.run cfg w.watch.spec.interface { w.watch.handler with result := ar }
        sig.message heap = if rep.decodes sig then some (deliver (rep.fill sig ar)) else none

/-- The watch as it is some signals later. The record may have changed, as far as it does not matter
for the properties that the function knows. -/
def Reported (w₀ : LiveWatch) (rep : Reporter) (w : LiveWatch) : Prop :=
  ∃ h : Handling, w = w₀.after h ∧ h.result.msgId = w₀.watch.handler.result.msgId ∧
    ∀ sig : PropertySignal, sig.name ∈ rep.names →
      rep.fill sig h.result = rep.fill sig w₀.watch.handler.result

/-- What the watch owes the application for a signal. -/
def owes (w : LiveWatch) (rep : Reporter) (sig : PropertySignal) : List Callback :=
  if w.owns rep.names sig then [w.callback (rep.fill sig w.watch.handler.result)] else []

section

variable {cfg : Config} {w w₀ : LiveWatch} {rep : Reporter} {sig : PropertySignal}
  {sigs : List PropertySignal} {shows : PropertySignal → AsyncResult Payload → Prop}

theorem reported_self (w : LiveWatch) (rep : Reporter) : w.Reported rep w :=
  ⟨ignore w.watch.handler.result, rfl, rfl, fun _ _ => rfl⟩

/-- A delivery leaves a record that is as good as the one that it has found. -/
theorem Reported.after (h : w₀.Reported rep w) (sig : PropertySignal) :
    w₀.Reported rep (w.after (deliver (rep.fill sig w.watch.handler.result))) := by
  obtain ⟨h, rfl, hid, hfill⟩ := h
  refine ⟨deliver (rep.fill sig h.result), rfl, (rep.msgId_fill sig h.result).trans hid, ?_⟩
  intro sig' hname
  exact (rep.fill_fill sig' sig h.result hname).trans (hfill sig' hname)

/-- A signal that does not reach the watch changes nothing. -/
theorem Reported.receive_of_not_reaches (h : w₀.Reported rep w)
    (hreaches : sig.toSignal.reaches w₀.watch = false) : w.receive cfg sig = some (w, []) := by
  obtain ⟨h, rfl, -, -⟩ := h
  have hreaches' : sig.toSignal.reaches (w₀.after h).watch = false := hreaches
  simp [receive, hreaches']

/-- A signal that reaches the watch calls the application back, if it can be decoded. -/
theorem Reported.receive_of_reaches (hrep : w₀.ReportsBy cfg rep) (h : w₀.Reported rep w)
    (hreaches : sig.toSignal.reaches w₀.watch = true) :
    w.receive cfg sig = if rep.decodes sig then
        some (w.after (deliver (rep.fill sig w.watch.handler.result)),
          [w₀.callback (rep.fill sig w.watch.handler.result)])
      else none := by
  obtain ⟨h, rfl, hid, -⟩ := h
  have hreaches' : sig.toSignal.reaches (w₀.after h).watch = true := hreaches
  have hserve : (w₀.after h).serve cfg sig.message (sig.heap (w₀.after h).watch.id) =
      if rep.decodes sig then some (deliver (rep.fill sig h.result)) else none :=
    hrep h.result sig _ hid
  rw [receive, if_pos hreaches', hserve]
  cases rep.decodes sig with
  | false => rfl
  | true => rfl

/-- The signal does not reach the watch, or it is about a property that the function knows, and can
be decoded. -/
def Known (w : LiveWatch) (rep : Reporter) (sig : PropertySignal) : Prop :=
  sig.toSignal.reaches w.watch = true → sig.name ∈ rep.names ∧ rep.decodes sig = true

theorem Reported.receive_of_known (hrep : w₀.ReportsBy cfg rep) (h : w₀.Reported rep w)
    (hknown : w₀.Known rep sig) :
    ∃ w', w.receive cfg sig = some (w', w₀.owes rep sig) ∧ w₀.Reported rep w' := by
  cases hreaches : sig.toSignal.reaches w₀.watch with
  | false =>
    refine ⟨w, ?_, h⟩
    rw [h.receive_of_not_reaches hreaches]
    simp [owes, owns, hreaches]
  | true =>
    obtain ⟨hname, hdecodes⟩ := hknown hreaches
    refine ⟨_, ?_, h.after sig⟩
    rw [h.receive_of_reaches hrep hreaches, if_pos hdecodes]
    obtain ⟨h, rfl, -, hfill⟩ := h
    -- what the record has held does not matter for a property that is known
    have howed : rep.fill sig (w₀.after h).watch.handler.result =
        rep.fill sig w₀.watch.handler.result := hfill sig hname
    simp [owes, owns, hreaches, hname, howed]

theorem Reported.length_receive_ge {w' : LiveWatch} {out : List Callback}
    (hrep : w₀.ReportsBy cfg rep) (h : w₀.Reported rep w)
    (hreceive : w.receive cfg sig = some (w', out)) :
    w₀.Reported rep w' ∧ (w₀.owes rep sig).length ≤ out.length ∧
      (out.length = (w₀.owes rep sig).length → w₀.Known rep sig) := by
  cases hreaches : sig.toSignal.reaches w₀.watch with
  | false =>
    rw [h.receive_of_not_reaches hreaches] at hreceive
    obtain ⟨rfl, rfl⟩ := Prod.mk.inj (Option.some_inj.mp hreceive)
    refine ⟨h, by simp [owes, owns, hreaches], fun _ hreaches' => ?_⟩
    rw [hreaches] at hreaches'
    contradiction
  | true =>
    rw [h.receive_of_reaches hrep hreaches] at hreceive
    cases hdecodes : rep.decodes sig with
    | false =>
      rw [hdecodes, if_neg Bool.false_ne_true] at hreceive
      contradiction
    | true =>
      rw [hdecodes, if_pos rfl] at hreceive
      obtain ⟨rfl, rfl⟩ := Prod.mk.inj (Option.some_inj.mp hreceive)
      -- the application is called back whether the property is known or not
      by_cases hname : sig.name ∈ rep.names
      · exact ⟨h.after sig, by simp [owes, owns, hreaches, hname], fun _ _ => ⟨hname, hdecodes⟩⟩
      · refine ⟨h.after sig, by simp [owes, owns, hname], fun hlength => ?_⟩
        simp [owes, owns, hname] at hlength

theorem flatMap_owes (w : LiveWatch) (rep : Reporter) (sigs : List PropertySignal) :
    sigs.flatMap (w.owes rep) = (sigs.filter (w.owns rep.names)).map fun sig =>
      w.callback (rep.fill sig w.watch.handler.result) := by
  induction sigs with
  | nil => rfl
  | cons sig sigs ih =>
    rw [List.flatMap_cons, ih, owes]
    cases howns : w.owns rep.names sig with
    | true => simp [howns]
    | false => simp [howns]

/-- The signals call a reporter back for its properties only exactly if all that reach it are about
these, and can be decoded. -/
theorem callsBack_iff_known (hrep : w.ReportsBy cfg rep)
    (hshows : ∀ sig : PropertySignal, sig.name ∈ rep.names → rep.decodes sig = true →
      (rep.fill sig w.watch.handler.result).status = ok ∧
        shows sig (rep.fill sig w.watch.handler.result)) :
    w.CallsBack cfg rep.names shows sigs ↔
      ∀ sig ∈ sigs, sig.toSignal.reaches w.watch = true →
        sig.name ∈ rep.names ∧ rep.decodes sig = true := by
  constructor
  · rintro ⟨answer, -, w', hrun⟩
    have hstep : ∀ w₁ sig w' out, w.Reported rep w₁ → receive cfg w₁ sig = some (w', out) →
        w.Reported rep w' ∧ (w.owes rep sig).length ≤ out.length ∧
          (out.length = (w.owes rep sig).length → w.Known rep sig) :=
      fun w₁ sig w' out h hreceive => h.length_receive_ge hrep hreceive
    -- the callbacks of the law are as many as those that are owed
    apply good_of_length_run hstep (w.reported_self rep) hrun
    rw [flatMap_owes, List.length_map, List.length_map]
  · intro hgood
    have hstep : ∀ w₁ sig, w.Reported rep w₁ → w.Known rep sig →
        ∃ w', receive cfg w₁ sig = some (w', w.owes rep sig) ∧ w.Reported rep w' :=
      fun w₁ sig h hknown => h.receive_of_known hrep hknown
    obtain ⟨w', hrun⟩ := run_of_good hstep (w.reported_self rep) hgood
    refine ⟨fun sig => rep.fill sig w.watch.handler.result, fun sig hsig howns => ?_, w', ?_⟩
    · have hreaches : sig.toSignal.reaches w.watch = true := (Bool.and_eq_true_iff.mp howns).1
      obtain ⟨hname, hdecodes⟩ := hgood sig hsig hreaches
      obtain ⟨hstatus, hshown⟩ := hshows sig hname hdecodes
      obtain ⟨w₁, hreceive, -⟩ := hstep w sig (w.reported_self rep) (hgood sig hsig)
      rw [owes, if_pos howns] at hreceive
      exact ⟨hstatus, hshown, w₁, hreceive⟩
    · rw [hrun, flatMap_owes]

end

end LiveWatch

/-! ## The registration for the IMS -/

namespace Ims

/-- `tapi_ims_prop_type`, by the name of the property. -/
def propType (name : String) : Option ℤ :=
  [("Registered", 0), ("VoiceCapable", 1), ("SmsCapable", 2)].lookup name

/-- The properties of the registration. -/
def properties : List String := ["Registered", "VoiceCapable", "SmsCapable"]

/-- The record shows which property has changed, and its value. -/
def Shows (sig : PropertySignal) (ar : AsyncResult Payload) : Prop :=
  propType sig.name = some ar.arg1 ∧ Iter.getInt [sig.value] = some ar.arg2

theorem registrationInfoType_of_mem {name : String} (h : name ∈ properties) (arg1 : ℤ) :
    propType name = some (registrationInfoType name arg1) := by
  simp only [properties, List.mem_cons, List.not_mem_nil, or_false] at h
  obtain rfl | rfl | rfl := h <;> rfl

/-- What `ims_registration_changed` does with the signals of its watch. -/
def reporter : Reporter where
  names := properties
  decodes sig := Iter.isInt [sig.value]
  fill sig ar := { ar with
    arg1 := registrationInfoType sig.name ar.arg1
    arg2 := (Iter.getInt [sig.value]).getD 0
    status := ok }
  msgId_fill _ _ := rfl
  fill_fill sig sig' ar hname := by
    -- the kind of a known property does not depend on the last one
    have hkind := (registrationInfoType_of_mem hname ar.arg1).symm.trans
      (registrationInfoType_of_mem hname (registrationInfoType sig'.name ar.arg1))
    rw [Option.some_inj.mp hkind]

variable {cfg : Config} {r : Registering} {watch : Watch Payload}

theorem reportsBy_of_mem
    (h : watch ∈ (tapiImsRegisterRegistrationChange cfg r.first r.context r.slotId r.userObj
      r.pHandle).watches) (hcb : r.pHandle ≠ null) :
    LiveWatch.ReportsBy cfg ⟨r, r.first.result, watch⟩ reporter := by
  have hgrants : Grants r.first r.context (identify .imsRegistrationMessage r.slotId r.userObj)
      r.pHandle ⟨modemPath cfg r.slotId, .ims, "PropertyChanged", .imsRegistrationChanged⟩
      (tapiImsRegisterRegistrationChange cfg r.first r.context r.slotId r.userObj r.pHandle) :=
    grants_registerSignal rfl
  generalize tapiImsRegisterRegistrationChange cfg r.first r.context r.slotId r.userObj
    r.pHandle = registered at h hgrants
  cases hgrants with
  | refused => contradiction
  | watched =>
    obtain rfl := List.mem_singleton.mp h
    intro ar sig heap hid
    have hid' : ar.msgId = IndicationMsg.imsRegistrationMessage.value := hid
    simp only [SignalFunction.run, imsRegistrationChanged, withCallback, hcb, if_false,
      PropertySignal.message, hid', and_self, if_true, Iter.getString, Iter.next, List.tail_cons,
      Iter.recurse, Option.bind_some, reporter]
    cases hvalue : Iter.getInt [sig.value] with
    | none => simp [Iter.isInt, hvalue]
    | some n => simp [Iter.isInt, hvalue]

/-- The signals call a registration for the IMS back, each with its own property and value, exactly
if all that reach it are about the three properties, and have numbers. -/
theorem callsBack_iff (cfg : Config) (r : Registering) (sigs : List PropertySignal)
    (h : watch ∈ (tapiImsRegisterRegistrationChange cfg r.first r.context r.slotId r.userObj
      r.pHandle).watches) (hcb : r.pHandle ≠ null) :
    LiveWatch.CallsBack cfg ⟨r, r.first.result, watch⟩ properties Shows sigs ↔
      ∀ sig ∈ sigs, sig.toSignal.reaches watch = true →
        sig.name ∈ properties ∧ Iter.isInt [sig.value] = true := by
  refine LiveWatch.callsBack_iff_known (reportsBy_of_mem h hcb) fun sig hname hdecodes => ?_
  refine ⟨rfl, ?_, ?_⟩
  · exact registrationInfoType_of_mem hname _
  · obtain ⟨n, hn⟩ := Option.isSome_iff_exists.mp hdecodes
    simp [reporter, hn]

/-- A registration for the IMS of the first slot. -/
def sampleRegistering : Registering where
  context := some idleContext
  slotId := 0
  msg := .imsRegistrationMessage
  userObj := 5
  pHandle := 1
  first := ⟨true, some ⟨0, response, 0, 0, 0, .null, 0⟩, 1⟩
  second := ⟨true, none, 0⟩

/-- Its watch. -/
def sampleWatch : Watch Payload where
  id := 1
  connection := idleContext.connection
  spec := ⟨"/ril_0", .ims, "PropertyChanged", .imsRegistrationChanged⟩
  handler := ⟨⟨IndicationMsg.imsRegistrationMessage.value, indication, 0, 0, 0, .null, 5⟩, 1⟩

/-- A truth value of the IMS has changed. -/
def flagSignal (name : String) (n : ℤ) : PropertySignal where
  path := "/ril_0"
  interface := .ims
  name := name
  value := .boolean n
  typed := rfl
  wellFormed := rfl
  heap _ := Heap.exhausted

/-- A property that the registration is not about is reported as the one before. -/
theorem not_callsBack_suspended :
    ¬ LiveWatch.CallsBack twoModems ⟨sampleRegistering, sampleRegistering.first.result, sampleWatch⟩
      properties Shows [flagSignal "Registered" 1, flagSignal "Suspended" 0] := by
  intro h
  -- both signals call back, and one is owed
  have hcount : some 2 = some 1 := h.length_run
  contradiction

theorem callsBack_capabilities :
    LiveWatch.CallsBack twoModems ⟨sampleRegistering, sampleRegistering.first.result, sampleWatch⟩
      properties Shows [flagSignal "SmsCapable" 1, flagSignal "VoiceCapable" 0] :=
  (callsBack_iff twoModems sampleRegistering _ (.head _) (by decide)).mpr (by
    intro sig hsig _
    simp only [List.mem_cons, List.not_mem_nil, or_false] at hsig
    obtain rfl | rfl := hsig
    · exact ⟨by decide, rfl⟩
    · exact ⟨by decide, rfl⟩)

end Ims

/-! ## The registrations for supplementary services -/

namespace Ss

/-- The registrations for properties of supplementary services. -/
inductive Watched
  | ussdState | callBarring
  deriving DecidableEq, Repr

namespace Watched

def msg : Watched → IndicationMsg
  | ussdState => .ussdPropertyChange
  | callBarring => .callBarringPropertyChange

def interface : Watched → Interface
  | ussdState => .supplementaryServices
  | callBarring => .callBarring

def function : Watched → SignalFunction
  | ussdState => .ussdStateChanged
  | callBarring => .callBarringPropertyChanged

/-- The properties that the registration is about. -/
def properties : Watched → List String
  | ussdState => ["State"]
  | callBarring => ["VoiceIncoming", "VoiceOutgoing"]

/-- The record shows the value of the property, and for call barring its name. -/
def Shows (k : Watched) (sig : PropertySignal) (ar : AsyncResult Payload) : Prop :=
  match k with
  | ussdState => ∃ s, Iter.getString [sig.value] = some s ∧ ar.data = .text s
  | callBarring => ∃ s, Iter.getString [sig.value] = some s ∧
      ar.data = .callBarringInfo ⟨.text sig.name, .text s⟩

/-- The signals that the function can decode. For call barring the name of the property is entered
as if it were a dictionary, so that it can decode none. -/
def decodes (k : Watched) (sig : PropertySignal) : Bool :=
  match k with
  | ussdState => sig.name ≠ "State" || Iter.isText [sig.value]
  | callBarring => false

/-- What the functions of the two watches do with their signals. -/
def reporter (k : Watched) : Reporter where
  names := k.properties
  decodes := k.decodes
  fill sig ar :=
    if sig.name ∈ k.properties then
      { ar with data := .text ((Iter.getString [sig.value]).getD ""), status := ok }
    else ar
  msgId_fill sig ar := by
    split <;> rfl
  fill_fill sig sig' ar hname := by
    rw [if_pos hname, if_pos hname]
    split <;> rfl

variable {cfg : Config} {r : Registering} {watch : Watch Payload} {k : Watched}
  {handler : AsyncHandler Payload} {sig : PropertySignal}

/-- The function for USSD calls back in any case, and reads the value of the state. -/
theorem ussdStateChanged_message (hcb : handler.cbFunction ≠ null)
    (hid : handler.result.msgId = IndicationMsg.ussdPropertyChange.value) :
    ussdStateChanged handler sig.message =
      if sig.name = "State" then
        (Iter.getString [sig.value]).map fun s =>
          deliver { handler.result with data := .text s, status := ok }
      else some (deliver handler.result) := by
  have hreply : sig.message.isError = false := rfl
  have hargs : sig.message.args ≠ [] := List.cons_ne_nil _ _
  have hname : sig.message.args.getString = some sig.name := rfl
  have hvar : sig.message.args.next.recurse = some [sig.value] := rfl
  simp only [ussdStateChanged, withCallback, hcb, hid, hreply, hargs, hname, hvar, ne_eq,
    not_true_eq_false, Bool.false_eq_true, if_false, Option.bind_some]

/-- The function for call barring enters the name of the property, which is no container. -/
theorem callBarringPropertyChanged_message {heap : Heap} (hcb : handler.cbFunction ≠ null)
    (hid : handler.result.msgId = IndicationMsg.callBarringPropertyChange.value) :
    callBarringPropertyChanged handler sig.message heap = none := by
  have hreply : sig.message.isError = false := rfl
  have hargs : sig.message.args ≠ [] := List.cons_ne_nil _ _
  have hlist : sig.message.args.recurse = none := rfl
  simp only [callBarringPropertyChanged, withCallback, hcb, hid, hreply, hargs, hlist, ne_eq,
    not_true_eq_false, Bool.false_eq_true, if_false, Option.bind_none]

theorem reportsBy_of_mem (hmsg : r.msg = k.msg)
    (h : watch ∈ (tapiSsRegister cfg r.first r.context r.slotId r.msg r.userObj r.pHandle).watches)
    (hcb : r.pHandle ≠ null) :
    LiveWatch.ReportsBy cfg ⟨r, r.first.result, watch⟩ k.reporter := by
  have hgrants : Grants r.first r.context (identify r.msg r.slotId r.userObj) r.pHandle
      ⟨modemPath cfg r.slotId, k.interface, "PropertyChanged", k.function⟩
      (tapiSsRegister cfg r.first r.context r.slotId r.msg r.userObj r.pHandle) := by
    apply grants_registerSignal
    rw [hmsg]
    cases k <;> rfl
  generalize tapiSsRegister cfg r.first r.context r.slotId r.msg r.userObj r.pHandle =
    registered at h hgrants
  cases hgrants with
  | refused => contradiction
  | watched =>
    obtain rfl := List.mem_singleton.mp h
    intro ar sig heap hid
    have hid' : ar.msgId = k.msg.value := hid.trans (congrArg IndicationMsg.value hmsg)
    cases k with
    | ussdState =>
      refine (ussdStateChanged_message hcb hid').trans ?_
      -- the value of another property is not read
      by_cases hname : sig.name = "State"
      · cases hvalue : Iter.getString [sig.value] with
        | none =>
          have htext : Iter.isText [sig.value] = false := congrArg Option.isSome hvalue
          simp [reporter, decodes, properties, hname, htext]
        | some s =>
          have htext : Iter.isText [sig.value] = true := congrArg Option.isSome hvalue
          simp [reporter, decodes, properties, hname, htext, hvalue]
      · simp [reporter, decodes, properties, hname]
    | callBarring => exact callBarringPropertyChanged_message hcb hid'

/-- The signals that the registration gets are all about the state of USSD and carry texts. A
registration for call barring must not get any. -/
def Deliverable (k : Watched) (sig : PropertySignal) : Prop :=
  match k with
  | ussdState => sig.name = "State" ∧ Iter.isText [sig.value] = true
  | callBarring => False

/-- The signals call a registration for supplementary services back, each with its own property and
value, exactly if all that reach it can be delivered. -/
theorem callsBack_iff_deliverable (cfg : Config) (r : Registering) (sigs : List PropertySignal)
    (hmsg : r.msg = k.msg)
    (h : watch ∈ (tapiSsRegister cfg r.first r.context r.slotId r.msg r.userObj r.pHandle).watches)
    (hcb : r.pHandle ≠ null) :
    LiveWatch.CallsBack cfg ⟨r, r.first.result, watch⟩ k.properties k.Shows sigs ↔
      ∀ sig ∈ sigs, sig.toSignal.reaches watch = true → k.Deliverable sig := by
  have hshows : ∀ sig : PropertySignal, sig.name ∈ k.properties → k.decodes sig = true →
      (k.reporter.fill sig watch.handler.result).status = ok ∧
        k.Shows sig (k.reporter.fill sig watch.handler.result) := by
    intro sig hname hdecodes
    have hfill : k.reporter.fill sig watch.handler.result = { watch.handler.result with
        data := .text ((Iter.getString [sig.value]).getD ""), status := ok } := if_pos hname
    rw [hfill]
    cases k with
    | ussdState =>
      have htext : Iter.isText [sig.value] = true := by
        simpa [decodes, List.mem_singleton.mp hname] using hdecodes
      obtain ⟨s, hs⟩ := Option.isSome_iff_exists.mp htext
      exact ⟨rfl, s, hs, by rw [hs]; rfl⟩
    | callBarring => contradiction
  refine (LiveWatch.callsBack_iff_known (reportsBy_of_mem hmsg h hcb) hshows).trans ?_
  refine forall₃_congr fun sig _ _ => ?_
  cases k with
  | ussdState =>
    simp only [reporter, properties, decodes, Deliverable, List.mem_singleton]
    refine and_congr_right fun hname => ?_
    simp [hname]
  | callBarring => simp [reporter, decodes, Deliverable]

/-- A registration for the state of USSD on the first slot. -/
def sampleRegistering : Registering where
  context := some idleContext
  slotId := 0
  msg := .ussdPropertyChange
  userObj := 5
  pHandle := 1
  first := ⟨true, some ⟨0, response, 0, 0, 0, .null, 0⟩, 1⟩
  second := ⟨true, none, 0⟩

/-- Its watch. -/
def sampleWatch : Watch Payload where
  id := 1
  connection := idleContext.connection
  spec := ⟨"/ril_0", .supplementaryServices, "PropertyChanged", .ussdStateChanged⟩
  handler := ⟨⟨IndicationMsg.ussdPropertyChange.value, indication, 0, 0, 0, .null, 5⟩, 1⟩

/-- A text of the supplementary services has changed. -/
def textSignal (name s : String) : PropertySignal where
  path := "/ril_0"
  interface := .supplementaryServices
  name := name
  value := .string s
  typed := rfl
  wellFormed := rfl
  heap _ := Heap.exhausted

/-- After a change of the state, one of another property reports the state again. -/
theorem not_callsBack_other :
    ¬ LiveWatch.CallsBack twoModems ⟨sampleRegistering, sampleRegistering.first.result, sampleWatch⟩
      ussdState.properties ussdState.Shows
      [textSignal "State" "active", textSignal "Mode" "x"] := by
  intro h
  have hcount : some 2 = some 1 := h.length_run
  contradiction

theorem callsBack_states :
    LiveWatch.CallsBack twoModems ⟨sampleRegistering, sampleRegistering.first.result, sampleWatch⟩
      ussdState.properties ussdState.Shows
      [textSignal "State" "active", textSignal "State" "idle"] :=
  (callsBack_iff_deliverable twoModems sampleRegistering _ rfl (.head _) (by decide)).mpr (by
    intro sig hsig _
    simp only [List.mem_cons, List.not_mem_nil, or_false] at hsig
    obtain rfl | rfl := hsig
    · exact ⟨rfl, rfl⟩
    · exact ⟨rfl, rfl⟩)

end Watched

end Ss

end Telephony
