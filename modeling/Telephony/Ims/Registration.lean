import Telephony.History
import Telephony.Polling

/-!
# The registration of the IMS

An application learns about the registration of the IMS from the callbacks, one property at a time,
or asks for all of it at once.

## Main definitions

* `Ims.tapiImsGetRegistration`, `Ims.tapiImsIsVolteAvailable`, … — the functions that ask
* `Ims.ImsView` — what an application knows from its callbacks
* `Ims.ImsView.HeldBy` — the IMS holds what the application knows

## Main results

* `Ims.registration_view` — what the functions return is what the application has put together from
  its callbacks, if the proxy has all that the IMS holds
-/

namespace Telephony.Ims

open DBus Machine Manager Request Sim

/-! ## The functions -/

/-- `tapi_ims_registration_info`. -/
structure ImsRegistrationInfo where
  regInfo : ℤ
  extInfo : BitVec 32
  deriving DecidableEq, Repr

/-- `VOICE_CAPABLE_FLAG` and `SMS_CAPABLE_FLAG`. -/
def voiceCapableFlag : BitVec 32 := 0x1
def smsCapableFlag : BitVec 32 := 0x4

/-- `tapi_ims_bitmask`. -/
def tapiImsBitmask (bitMask bitField : BitVec 32) (enabled : Bool) : BitVec 32 :=
  if enabled then bitMask ||| bitField else bitMask &&& ~~~bitField

section

variable (cfg : Config) (property : Properties) (context : Option DbusContext) (slotId : ℤ)

/-- A capability is added to the others if the IMS has announced it. -/
def addCapability (name : String) (flag : BitVec 32) (proxy : Ptr) (capValue : BitVec 32) :
    Option (BitVec 32) :=
  match property proxy name with
  | none => some capValue
  | some value => value.getFlag.map (tapiImsBitmask capValue flag)

/-- `tapi_ims_get_registration`, with the structure of the caller. -/
def tapiImsGetRegistration (out : Option ImsRegistrationInfo) :
    Option (ℤ × Option ImsRegistrationInfo) :=
  match context with
  | none => some (-einval, out)
  | some ctx =>
    if !isValidSlotid cfg slotId then some (-einval, out)
    else if out.isNone then some (-einval, out)
    else
      match checkedProxy cfg (some ctx) slotId .ims with
      | .error code => some (code, out)
      | .ok proxy =>
        match property proxy "Registered" with
        | none => some (-eio, out)
        | some value => do
          let regInfo ← value.getInt
          let withVoice ← addCapability property "VoiceCapable" voiceCapableFlag proxy 0
          let capValue ← addCapability property "SmsCapable" smsCapableFlag proxy withVoice
          some (ok, some ⟨regInfo, capValue⟩)

/-- `tapi_ims_is_registered`. -/
def tapiImsIsRegistered : Bool → Option (ℤ × Bool) :=
  getProperty cfg property context slotId .ims "Registered" (-eio) Iter.getFlag

/-- `tapi_ims_is_volte_available`. -/
def tapiImsIsVolteAvailable (out : Bool) : Option (ℤ × Bool) :=
  match checkedProxy cfg context slotId .ims with
  | .error code => some (code, out)
  | .ok proxy =>
    match property proxy "Registered" with
    | none => some (-eio, out)
    | some value =>
      value.getFlag.bind fun reg =>
        readProperty property "VoiceCapable" (-eio)
          (fun value => value.getFlag.map fun cap => reg && cap) out proxy

/-- `tapi_ims_get_enabled`. -/
def tapiImsGetEnabled : Bool → Option (ℤ × Bool) :=
  getProperty cfg property context slotId .ims "ImsSwitchStatus" (-einval) Iter.getFlag

end

/-! ## The view of the application -/

/-- What an application knows about the registration. -/
structure ImsView where
  registered : Option ℤ := none
  voiceCapable : Option ℤ := none
  smsCapable : Option ℤ := none
  deriving DecidableEq, Repr

namespace ImsView

/-- An application takes a callback over, by the kind of property that it reports. -/
def update (v : ImsView) (ar : AsyncResult Payload) : ImsView :=
  if ar.arg1 = 0 then { v with registered := some ar.arg2 }
  else if ar.arg1 = 1 then { v with voiceCapable := some ar.arg2 }
  else if ar.arg1 = 2 then { v with smsCapable := some ar.arg2 }
  else v

/-- The view after some callbacks. -/
def after (v : ImsView) (out : List Callback) : ImsView :=
  out.foldl (fun v cb => v.update cb.result) v

theorem after_append (v : ImsView) (out out' : List Callback) :
    v.after (out ++ out') = (v.after out).after out' :=
  List.foldl_append

/-- A property of the registration, as the application knows it. -/
def get (v : ImsView) (name : String) : Option ℤ :=
  if name = "Registered" then v.registered
  else if name = "VoiceCapable" then v.voiceCapable
  else v.smsCapable

/-- A capability that is known and not zero. -/
def has (capability : Option ℤ) : Bool := capability.any (· ≠ 0)

/-- The capabilities, a flag for each. -/
def capabilities (v : ImsView) : BitVec 32 :=
  (if has v.voiceCapable then voiceCapableFlag else 0) |||
    (if has v.smsCapable then smsCapableFlag else 0)

end ImsView

/-- A property that is known is reported by its kind. -/
theorem ImsView.get_update {v : ImsView} {ar : AsyncResult Payload} {name : String}
    (hname : name ∈ properties) (hkind : propType name = some ar.arg1) {name' : String}
    (hname' : name' ∈ properties) :
    (v.update ar).get name' = if name' = name then some ar.arg2 else v.get name' := by
  have harg : ∀ k, propType name = some k → ar.arg1 = k :=
    fun k hk => Option.some_inj.mp (hkind.symm.trans hk)
  simp only [properties, List.mem_cons, List.not_mem_nil, or_false] at hname hname'
  obtain rfl | rfl | rfl := hname
  · have hregistered := harg 0 rfl
    obtain rfl | rfl | rfl := hname' <;> simp [update, get, hregistered]
  · have hvoice := harg 1 rfl
    obtain rfl | rfl | rfl := hname' <;> simp [update, get, hvoice]
  · have hsms := harg 2 rfl
    obtain rfl | rfl | rfl := hname' <;> simp [update, get, hsms]

/-! ## The law -/

/-- A watch and a client get what comes from the bus. -/
def observeOne (cfg : Config) (bits : ℕ) (env : OpenEnv) :
    Step (LiveWatch × Client) Arrival Observation :=
  observing cfg bits env (LiveWatch.receive cfg)

/-- The callbacks among what an application may notice. -/
def callbacks (out : List Observation) : List Callback :=
  out.filterMap fun
    | .called cb => some cb
    | .remade => none

theorem callbacks_append_remade {cbs : List Callback} {fillings : List Filling} :
    callbacks (cbs.map .called ++ fillings.map fun _ => .remade) = cbs := by
  simp [callbacks, List.filterMap_append, List.filterMap_map]

/-- The IMS of a modem holds what the application knows. -/
def ImsView.HeldBy (v : ImsView) (path : String) (objects : Place → Option Value) : Prop :=
  ∀ name ∈ properties,
    (objects ((path, some .ims), name)).map (fun value => Iter.getInt [value]) =
      (v.get name).map some

section

variable {cfg : Config} {bits : ℕ} {env : OpenEnv} {first : Filling} {path : String}
  {w₀ w w' : LiveWatch} {c c' start : Client} {objects : Place → Option Value}
  {sig : PropertySignal} {events : List Arrival} {out : List Observation}

/-- A signal of another object, or of another interface, leaves what the IMS holds. -/
theorem ImsView.HeldBy.of_not_reaches {v : ImsView}
    (hspec : w₀.watch.spec = ⟨path, .ims, "PropertyChanged", .imsRegistrationChanged⟩)
    (h : v.HeldBy path objects) (hreaches : sig.toSignal.reaches w₀.watch = false) :
    v.HeldBy path (Function.update objects sig.place (some sig.value)) := by
  intro name hname
  rw [Function.update_of_ne, h name hname]
  intro hplace
  obtain ⟨⟨hpath, hcolumn⟩, -⟩ : (path = sig.path ∧ some .ims = sig.interface.column) ∧
      name = sig.name := by simpa [PropertySignal.place] using hplace
  have hinterface : sig.interface = .ims :=
    Interface.column_injective (hcolumn.symm.trans (rfl : some .ims = Interface.ims.column))
  simp [Manager.Signal.reaches, PropertySignal.toSignal, hspec, ← hpath, hinterface] at hreaches

/-- A property that is announced and reported is held as it is reported. -/
theorem ImsView.HeldBy.of_reaches {v : ImsView} {ar : AsyncResult Payload}
    (hspec : w₀.watch.spec = ⟨path, .ims, "PropertyChanged", .imsRegistrationChanged⟩)
    (h : v.HeldBy path objects) (hreaches : sig.toSignal.reaches w₀.watch = true)
    (hknown : sig.name ∈ properties) (hshows : Shows sig ar) :
    (v.update ar).HeldBy path (Function.update objects sig.place (some sig.value)) := by
  intro name hname
  simp only [Manager.Signal.reaches, PropertySignal.toSignal, hspec, decide_eq_true_eq] at hreaches
  obtain ⟨hpath, hinterface, -⟩ := hreaches
  have hplace : sig.place = ((path, some .ims), sig.name) := by
    rw [PropertySignal.place, hpath, hinterface]
    rfl
  rw [get_update hknown hshows.1 hname, hplace]
  by_cases hsame : name = sig.name
  · rw [hsame, Function.update_self, if_pos rfl, Option.map_some, hshows.2]
    rfl
  · rw [Function.update_of_ne (by simp [hsame]), if_neg hsame, h name hname]

/-- The watch of a registration. -/
theorem spec_of_mem {r : Registering} {watch : Watch Payload}
    (h : watch ∈ (tapiImsRegisterRegistrationChange cfg r.first r.context r.slotId r.userObj
      r.pHandle).watches) :
    watch.spec = ⟨modemPath cfg r.slotId, .ims, "PropertyChanged", .imsRegistrationChanged⟩ := by
  have hgrants : Grants r.first r.context (identify .imsRegistrationMessage r.slotId r.userObj)
      r.pHandle ⟨modemPath cfg r.slotId, .ims, "PropertyChanged", .imsRegistrationChanged⟩
      (tapiImsRegisterRegistrationChange cfg r.first r.context r.slotId r.userObj r.pHandle) :=
    grants_registerSignal rfl
  generalize tapiImsRegisterRegistrationChange cfg r.first r.context r.slotId r.userObj
    r.pHandle = registered at h hgrants
  cases hgrants with
  | refused => contradiction
  | watched =>
    obtain rfl := List.mem_singleton.mp h
    rfl

/-- A signal about the registration of the IMS is reported as the IMS holds it, and every other
event leaves what it holds. -/
theorem heldBy_step {v : ImsView} {e : Arrival}
    (hspec : w₀.watch.spec = ⟨path, .ims, "PropertyChanged", .imsRegistrationChanged⟩)
    (hrep : w₀.ReportsBy cfg reporter) (hknown : ∀ sig f, e = .signal sig f → w₀.Known reporter sig)
    (hreported : w₀.Reported reporter w) (hcoherent : c.Coherent cfg bits env first)
    (hapart : e.toClient.Apart cfg env first) (hheld : v.HeldBy path c.objects)
    (hstep : observeOne cfg bits env (w, c) e = some ((w', c'), out)) :
    w₀.Reported reporter w' ∧ c'.Coherent cfg bits env first ∧
      (v.after (callbacks out)).HeldBy path c'.objects := by
  obtain ⟨cbs, fillings, hclient, rfl, hreceived⟩ := observing_cases hstep
  rw [callbacks_append_remade, (hcoherent.record_step hapart hclient).1]
  obtain ⟨sig, f, rfl, hreceive⟩ | ⟨hother, rfl, rfl⟩ := hreceived
  · obtain ⟨w₂, howes, hreported'⟩ := hreported.receive_of_known hrep (hknown sig f rfl)
    rw [hreceive, Option.some_inj, Prod.mk.injEq] at howes
    obtain ⟨rfl, rfl⟩ := howes
    refine ⟨hreported', hcoherent.step hapart hclient, ?_⟩
    cases hreaches : sig.toSignal.reaches w₀.watch with
    | false =>
      -- nothing is reported
      have hquiet : w₀.owes reporter sig = [] := by
        simp [LiveWatch.owes, LiveWatch.owns, hreaches]
      rw [hquiet]
      exact hheld.of_not_reaches hspec hreaches
    | true =>
      obtain ⟨hname, hdecodes⟩ := hknown sig f rfl hreaches
      have howed : w₀.owes reporter sig =
          [w₀.callback (reporter.fill sig w₀.watch.handler.result)] := by
        have hmem : sig.name ∈ reporter.names := hname
        simp [LiveWatch.owes, LiveWatch.owns, hreaches, hmem]
      rw [howed]
      refine hheld.of_reaches hspec hreaches hname ⟨registrationInfoType_of_mem hname _, ?_⟩
      obtain ⟨n, hn⟩ := Option.isSome_iff_exists.mp hdecodes
      rw [hn]
      simp [LiveWatch.callback, reporter, hn]
  · refine ⟨hreported, hcoherent.step hapart hclient, ?_⟩
    cases e with
    | signal sig f => exact absurd rfl (hother sig f)
    | ready | fetch _ | told _ => exact hheld

/-- The callbacks of a run carry what the IMS holds. -/
theorem heldBy_after {v : ImsView}
    (hspec : w₀.watch.spec = ⟨path, .ims, "PropertyChanged", .imsRegistrationChanged⟩)
    (hrep : w₀.ReportsBy cfg reporter) (hcoherent : start.Coherent cfg bits env first)
    (hapart : ∀ e ∈ events, e.toClient.Apart cfg env first)
    (hstart : v.HeldBy path start.objects)
    (hknown : ∀ sig f, .signal sig f ∈ events → w₀.Known reporter sig)
    (hrun : run (observeOne cfg bits env) (w₀, start) events = some ((w', c), out)) :
    c.Coherent cfg bits env first ∧ (v.after (callbacks out)).HeldBy path c.objects := by
  have hinit : w₀.Reported reporter w₀ ∧ start.Coherent cfg bits env first ∧
      (v.after (callbacks [])).HeldBy path start.objects :=
    ⟨w₀.reported_self reporter, hcoherent, hstart⟩
  refine (run_history_of_mem (fun s past => w₀.Reported reporter s.1 ∧
    s.2.Coherent cfg bits env first ∧ (v.after (callbacks past)).HeldBy path s.2.objects)
    ?_ hinit hrun).2
  rintro ⟨w, c⟩ past e he ⟨w', c'⟩ out ⟨hreported, hcoherent, hheld⟩ hstep
  have hcallbacks : callbacks (past ++ out) = callbacks past ++ callbacks out :=
    List.filterMap_append
  rw [hcallbacks, ImsView.after_append]
  exact heldBy_step hspec hrep (fun sig f heq => hknown sig f (heq ▸ he)) hreported hcoherent
    (hapart e he) hheld hstep

/-- The proxy of the IMS has all that the IMS holds until it is made again. -/
theorem complete_of_silent {slot : Slot} {names : List String}
    (hcoherent : start.Coherent cfg bits env first)
    (hapart : ∀ e ∈ events, e.toClient.Apart cfg env first) (hs : slot ∈ slotsOf cfg)
    (hne : start.ctx.proxyAt slot ≠ null)
    (hrun : run (observeOne cfg bits env) (w₀, start) events = some ((w', c), out))
    (hsilent : .remade ∉ out) (hcomplete : start.Complete cfg slot names) :
    c.Complete cfg slot names := by
  have hquiet : ∀ o ∈ out, ¬ o = .remade := fun o ho heq => hsilent (heq ▸ ho)
  refine (kept_of_silent (fun s => s.2.Coherent cfg bits env first)
    (fun s => s.2.ctx.proxyAt slot ≠ null ∧ s.2.Complete cfg slot names) ?_ hcoherent
    ⟨hne, hcomplete⟩ hrun hquiet).2
  rintro ⟨w, c⟩ e he ⟨w', c'⟩ out hcoherent hstep
  obtain ⟨cbs, fillings, hclient, rfl, -⟩ := observing_cases hstep
  refine ⟨hcoherent.step (hapart e he) hclient, fun hquiet hkept => ?_⟩
  have hstays : fillings = [] ∨ slot.persistent = true := by
    left
    by_contra hremade
    exact hquiet .remade (Observation.remade_mem hremade) rfl
  have hproxy := (hcoherent.lookUp_step (hapart e he) hclient hs hstays).1
  exact ⟨by rw [hproxy]; exact hkept.1,
    hcoherent.complete_step (hapart e he) hclient hs hkept.1 hstays hkept.2⟩

end

/-! ## What the functions return -/

section

variable {property : Properties} {proxy : Ptr} {name : String} {n : Option ℤ}

/-- The flag for voice stands for the capability. -/
theorem ImsView.capabilities_and_voice (v : ImsView) :
    v.capabilities &&& voiceCapableFlag ≠ 0 ↔ has v.voiceCapable = true := by
  unfold capabilities
  cases has v.voiceCapable <;> cases has v.smsCapable <;> decide

/-- A number that is cached is read as a truth value. -/
theorem getFlag_of_getInt {value : Iter} {n : ℤ} (h : value.getInt = some n) :
    value.getFlag = some (decide (n ≠ 0)) := congrArg _ h

/-- What is cached of one property. -/
theorem cached_cases (h : (property proxy name).map Iter.getInt = n.map some) :
    property proxy name = none ∧ n = none ∨
      ∃ value m, property proxy name = some value ∧ n = some m ∧ value.getInt = some m := by
  cases hvalue : property proxy name with
  | none =>
    rw [hvalue] at h
    exact .inl ⟨rfl, Option.map_eq_none_iff.mp h.symm⟩
  | some value =>
    rw [hvalue, Option.map_some] at h
    obtain ⟨m, hm, hint⟩ := Option.map_eq_some_iff.mp h.symm
    exact .inr ⟨value, m, rfl, hm, hint.symm⟩

theorem addCapability_eq {flag capValue : BitVec 32}
    (h : (property proxy name).map Iter.getInt = n.map some)
    (hclear : capValue &&& ~~~flag = capValue) :
    addCapability property name flag proxy capValue =
      some (capValue ||| if ImsView.has n then flag else 0) := by
  obtain ⟨hnone, rfl⟩ | ⟨value, m, hvalue, rfl, hint⟩ := cached_cases h
  · simp [addCapability, hnone, ImsView.has]
  · by_cases hzero : m = 0
    · simp [addCapability, hvalue, getFlag_of_getInt hint, ImsView.has, tapiImsBitmask, hzero,
        hclear]
    · simp [addCapability, hvalue, getFlag_of_getInt hint, ImsView.has, tapiImsBitmask, hzero]

variable {cfg : Config} {ctx : DbusContext} {slotId : ℤ} {v : ImsView}

theorem tapiImsGetRegistration_eq {info : ImsRegistrationInfo}
    (hslot : isValidSlotid cfg slotId = true)
    (hchecked : checkedProxy cfg (some ctx) slotId .ims = .ok proxy)
    (hregistered : (property proxy "Registered").map Iter.getInt = v.registered.map some)
    (hvoice : (property proxy "VoiceCapable").map Iter.getInt = v.voiceCapable.map some)
    (hsms : (property proxy "SmsCapable").map Iter.getInt = v.smsCapable.map some) :
    tapiImsGetRegistration cfg property (some ctx) slotId (some info) =
      some (v.registered.elim (-eio, some info) fun n => (ok, some ⟨n, v.capabilities⟩)) := by
  simp only [tapiImsGetRegistration, hslot, hchecked, Bool.not_true, Bool.false_eq_true, if_false,
    Option.isNone_some]
  obtain ⟨hnone, hn⟩ | ⟨value, n, hvalue, hn, hint⟩ := cached_cases hregistered
  · simp only [hnone, hn, Option.elim_none]
  · -- the flags do not get in each other's way
    have hzero : ∀ b : Bool, (0 ||| if b then voiceCapableFlag else 0) =
        if b then voiceCapableFlag else 0 := by decide
    have hclear : ∀ b : Bool, (if b then voiceCapableFlag else 0) &&& ~~~smsCapableFlag =
        if b then voiceCapableFlag else 0 := by decide
    have hfirst : (0 : BitVec 32) &&& ~~~voiceCapableFlag = 0 := by decide
    simp only [hvalue, hn, hint, Option.elim_some, addCapability_eq hvoice hfirst, hzero,
      addCapability_eq hsms (hclear _), Option.bind_eq_bind, Option.bind_some,
      ImsView.capabilities]

theorem tapiImsIsRegistered_eq {flag : Bool}
    (hchecked : checkedProxy cfg (some ctx) slotId .ims = .ok proxy)
    (hregistered : (property proxy "Registered").map Iter.getInt = v.registered.map some) :
    tapiImsIsRegistered cfg property (some ctx) slotId flag =
      some (v.registered.elim (-eio, flag) fun n => (ok, decide (n ≠ 0))) := by
  rw [tapiImsIsRegistered, getProperty_of_ok hchecked]
  obtain ⟨hnone, hn⟩ | ⟨value, n, hvalue, hn, hint⟩ := cached_cases hregistered
  · rw [readProperty_of_none hnone, hn, Option.elim_none]
  · rw [readProperty_eq hvalue (getFlag_of_getInt hint), hn, Option.elim_some]

theorem tapiImsIsVolteAvailable_eq {flag : Bool}
    (hchecked : checkedProxy cfg (some ctx) slotId .ims = .ok proxy)
    (hregistered : (property proxy "Registered").map Iter.getInt = v.registered.map some)
    (hvoice : (property proxy "VoiceCapable").map Iter.getInt = v.voiceCapable.map some) :
    tapiImsIsVolteAvailable cfg property (some ctx) slotId flag =
      some (v.registered.elim (-eio, flag) fun n => v.voiceCapable.elim (-eio, flag)
        fun _ => (ok, decide (n ≠ 0) && decide (v.capabilities &&& voiceCapableFlag ≠ 0))) := by
  simp only [tapiImsIsVolteAvailable, hchecked]
  obtain ⟨hnone, hn⟩ | ⟨value, n, hvalue, hn, hint⟩ := cached_cases hregistered
  · simp only [hnone, hn, Option.elim_none]
  · simp only [hvalue, hn, getFlag_of_getInt hint, Option.bind_some, Option.elim_some]
    obtain ⟨hnone, hm⟩ | ⟨value', m, hvalue', hm, hint'⟩ := cached_cases hvoice
    · rw [readProperty_of_none hnone, hm, Option.elim_none]
    · have hflag : decide (v.capabilities &&& voiceCapableFlag ≠ 0) = decide (m ≠ 0) := by
        rw [decide_eq_decide, v.capabilities_and_voice, hm]
        simp [ImsView.has]
      rw [readProperty_of_some hvalue', getFlag_of_getInt hint', hm, Option.elim_some, hflag]
      rfl

end

/-- From any state that a client can reach: what an application knows about the registration of the
IMS from its callbacks is what the IMS holds, at any time after it has registered, as long as only
the three properties are announced. It is what the functions return if the proxy has all of that,
which it has until it is made again. VoLTE is available if the registration and the flag for voice
say so. -/
theorem registration_view {cfg : Config} {bits : ℕ} {env : OpenEnv} {first : Filling}
    {r : Registering} {watch : Watch Payload} {v : ImsView} {start c : Client}
    {events : List Arrival} {w' : LiveWatch} {out : List Observation}
    (hwatch : watch ∈ (tapiImsRegisterRegistrationChange cfg r.first r.context r.slotId r.userObj
      r.pHandle).watches) (hcb : r.pHandle ≠ null) (hslot : isValidSlotid cfg r.slotId = true)
    (hreached : start.Reached cfg bits env first)
    (hapart : ∀ e ∈ events, e.toClient.Apart cfg env first)
    (hstart : v.HeldBy (modemPath cfg r.slotId) start.objects)
    (hknown : ∀ sig f, .signal sig f ∈ events → sig.toSignal.reaches watch = true →
      sig.name ∈ properties ∧ Iter.isInt [sig.value] = true)
    (hrun : run (observeOne cfg bits env) (⟨r, r.first.result, watch⟩, start) events =
      some ((w', c), out)) (info : ImsRegistrationInfo) (flag : Bool) :
    let view := v.after (callbacks out)
    let complete := Client.Complete cfg (.cell r.slotId.toNat .ims) properties
    let held (c : Client) := c.ctx.dbusProxy r.slotId.toNat .ims ≠ null
    view.HeldBy (modemPath cfg r.slotId) c.objects ∧
      (c.ctx.clientReady = true → held c → complete c →
        tapiImsGetRegistration cfg c.property (some c.ctx) r.slotId (some info) =
            some (view.registered.elim (-eio, some info) fun n =>
              (ok, some ⟨n, view.capabilities⟩)) ∧
          tapiImsIsRegistered cfg c.property (some c.ctx) r.slotId flag =
            some (view.registered.elim (-eio, flag) fun n => (ok, decide (n ≠ 0))) ∧
          tapiImsIsVolteAvailable cfg c.property (some c.ctx) r.slotId flag =
            some (view.registered.elim (-eio, flag) fun n => view.voiceCapable.elim (-eio, flag)
              fun _ => (ok,
                decide (n ≠ 0) && decide (view.capabilities &&& voiceCapableFlag ≠ 0)))) ∧
      (held start → complete start → .remade ∉ out → complete c) := by
  intro view complete held
  obtain ⟨hcoherent, hheld⟩ := heldBy_after (spec_of_mem hwatch) (reportsBy_of_mem hwatch hcb)
    hreached.coherent hapart hstart hknown hrun
  obtain ⟨hmem, hobject⟩ := mem_slotsOf_of_isValidSlotid .ims hslot
  refine ⟨hheld, ?_, ?_⟩
  · intro hready hproxy hcomplete
    -- what the proxy keeps is what the application knows
    have hlookUp : ∀ name ∈ properties,
        (c.property (c.ctx.dbusProxy r.slotId.toNat .ims) name).map Iter.getInt =
          (view.get name).map some := by
      intro name hname
      rw [← hheld name hname, ← hobject]
      cases hkept : c.lookUp (.cell r.slotId.toNat .ims) name with
      | none =>
        rw [hcomplete name hname hkept]
        exact congrArg _ hkept
      | some value =>
        have hvalue := hcoherent.kept _ hmem hproxy name value hkept
        obtain ⟨v, hv, rfl⟩ := Option.map_eq_some_iff.mp hvalue
        rw [hv]
        exact congrArg _ hkept
    have hchecked := checkedProxy_eq_ok hslot hready hproxy
    have hregistered := hlookUp "Registered" (by decide)
    have hvoice := hlookUp "VoiceCapable" (by decide)
    have hsms := hlookUp "SmsCapable" (by decide)
    exact ⟨tapiImsGetRegistration_eq hslot hchecked hregistered hvoice hsms,
      tapiImsIsRegistered_eq hchecked hregistered,
      tapiImsIsVolteAvailable_eq hchecked hregistered hvoice⟩
  · exact fun hne hcomplete hsilent =>
      complete_of_silent hreached.coherent hapart hmem hne hrun hsilent hcomplete

/-- The IMS registers, and then offers calls. -/
theorem registration_view_sample : ∃ c : Client,
    tapiImsGetRegistration twoModems c.property (some c.ctx) 0 (some ⟨7, 7⟩) =
        some (ok, some ⟨1, 1⟩) ∧
      tapiImsIsRegistered twoModems c.property (some c.ctx) 0 false = some (ok, true) ∧
      tapiImsIsVolteAvailable twoModems c.property (some c.ctx) 0 false = some (ok, true) := by
  have hrun : ∃ w' c registered voice,
      run (observeOne twoModems 64 openPlaces)
        (⟨sampleRegistering, sampleRegistering.first.result, sampleWatch⟩, Client.readyClient)
        (signals [flagSignal "Registered" 1, flagSignal "VoiceCapable" 1]) =
          some ((w', c), [.called registered, .called voice]) ∧
      ImsView.after {} [registered, voice] = ⟨some 1, some 1, none⟩ ∧
      c.ctx.clientReady = true ∧ c.ctx.dbusProxy 0 .ims ≠ null :=
    ⟨_, _, _, _, rfl, rfl, rfl, by decide⟩
  obtain ⟨w', c, registered, voice, hrun, hview, hready, hproxy⟩ := hrun
  have hknown : ∀ sig f,
      Arrival.signal sig f ∈ signals [flagSignal "Registered" 1, flagSignal "VoiceCapable" 1] →
        sig.toSignal.reaches sampleWatch = true →
          sig.name ∈ properties ∧ Iter.isInt [sig.value] = true := by
    intro sig f hsig _
    obtain ⟨sig', hsig', heq⟩ := List.mem_map.mp hsig
    obtain ⟨rfl, -⟩ := Arrival.signal.inj heq
    simp only [List.mem_cons, List.not_mem_nil, or_false] at hsig'
    obtain rfl | rfl := hsig' <;> decide
  have hwatch : sampleWatch ∈ (tapiImsRegisterRegistrationChange twoModems sampleRegistering.first
      sampleRegistering.context sampleRegistering.slotId sampleRegistering.userObj
      sampleRegistering.pHandle).watches := .head _
  have hstart : ImsView.HeldBy {} (modemPath twoModems sampleRegistering.slotId)
      Client.readyClient.objects := by
    intro name hname
    simp only [properties, List.mem_cons, List.not_mem_nil, or_false] at hname
    obtain rfl | rfl | rfl := hname <;> rfl
  obtain ⟨-, hreturns, hstays⟩ := registration_view hwatch (by decide) rfl
    Client.reached_readyClient (apart_signals _) hstart hknown hrun ⟨7, 7⟩ false
  have hcomplete := hstays (by decide) (fun _ _ _ => rfl) (by simp)
  obtain ⟨hinfo, hregistered, hvolte⟩ := hreturns hready hproxy hcomplete
  have hcallbacks : callbacks [.called registered, .called voice] = [registered, voice] := rfl
  rw [hcallbacks, hview] at hinfo hregistered hvolte
  exact ⟨c, hinfo, hregistered, hvolte⟩

end Telephony.Ims
