import Telephony.Determined
import Telephony.Polling

/-!
# Asking again

An application that keeps the answers of the getters does not have to ask all the time: it asks
again when a registration for the changes calls back. The indications of the network say only that
something has changed, and that of the signal strength comes with a structure of its own.

## Main definitions

* `Telephony.Question` — what an application can ask for, if there is an indication of its changes
* `Telephony.Question.AnnouncedTo` — a registration tells of the changes of the answer
* `Telephony.Client.SameAt` — two clients find the same for a property
* `Telephony.StrengthShown` — the object holds the dictionary that a structure of the signal
  strength has been made of

## Main results

* `Telephony.ask_of_silent` — between two callbacks the answer stays the same, if it is there
* `Telephony.strength_isLatest` — what the getter of the signal strength leaves in a structure, by
  what the latest callback has shown
-/

namespace Telephony

open DBus Machine Manager Request StructureDecoder

/-! ## Questions -/

/-- What an application can ask for, if there is an indication of its changes. -/
inductive Question
  | radioState | radioPower | modemStatus
  | dataEnabled | dataRegistered | dataEmergencyOnly | dataRoaming | dataNetworkType
  | dataDefaultSlot | callDefaultSlot | smsDefaultSlot
  | simState | uiccEnablement | iccid
  | voiceRegistered | voiceEmergencyOnly | voiceRoaming | voiceNetworkType | displayName
  | signalStrength
  deriving DecidableEq, Repr

namespace Question

/-- The variable that the answer is stored in. -/
def Out : Question → Type
  | .radioState | .modemStatus | .dataNetworkType | .dataDefaultSlot | .callDefaultSlot
  | .smsDefaultSlot | .simState | .uiccEnablement | .voiceNetworkType => ℤ
  | .radioPower | .dataEnabled | .dataRegistered | .dataEmergencyOnly | .dataRoaming
  | .voiceRegistered | .voiceEmergencyOnly | .voiceRoaming => Bool
  | .iccid | .displayName => CString
  | .signalStrength => SignalStrength

/-- The getter, with what the proxies keep. -/
def ask (cfg : Config) (c : Client) (slotId : ℤ) : (q : Question) → q.Out → Option (ℤ × q.Out)
  | .radioState => tapiGetRadioState cfg c.property (some c.ctx) slotId
  | .radioPower => tapiGetRadioPower cfg c.property (some c.ctx) slotId
  | .modemStatus => tapiGetModemStatusSync cfg c.property (some c.ctx) slotId
  | .dataEnabled => Data.tapiDataGetEnabled c.property (some c.ctx)
  | .dataRegistered => Data.tapiDataIsRegistered cfg c.property (some c.ctx) slotId
  | .dataEmergencyOnly => Data.tapiDataIsDataEmergencyOnly cfg c.property (some c.ctx) slotId
  | .dataRoaming => Data.tapiDataIsDataRoaming cfg c.property (some c.ctx) slotId
  | .dataNetworkType => Data.tapiDataGetNetworkType cfg c.property (some c.ctx) slotId
  | .dataDefaultSlot => Data.tapiDataGetDefaultSlot cfg c.property (some c.ctx)
  | .callDefaultSlot => Call.tapiCallGetDefaultSlot cfg c.property (some c.ctx)
  | .smsDefaultSlot => Sms.tapiSmsGetDefaultSlot cfg c.property (some c.ctx)
  | .simState => Sim.tapiSimGetSimState cfg c.property (some c.ctx) slotId
  | .uiccEnablement => Sim.tapiSimGetUiccEnablement cfg c.property (some c.ctx) slotId
  | .iccid => Sim.tapiSimGetSimIccid cfg c.property (some c.ctx) slotId
  | .voiceRegistered => Network.tapiNetworkIsVoiceRegistered cfg c.property (some c.ctx) slotId
  | .voiceEmergencyOnly =>
    Network.tapiNetworkIsVoiceEmergencyOnly cfg c.property (some c.ctx) slotId
  | .voiceRoaming => Network.tapiNetworkIsVoiceRoaming cfg c.property (some c.ctx) slotId
  | .voiceNetworkType => Network.tapiNetworkGetVoiceNetworkType cfg c.property (some c.ctx) slotId
  | .displayName => Network.tapiNetworkGetDisplayName cfg c.property (some c.ctx) slotId
  | .signalStrength => Network.tapiNetworkGetSignalstrength cfg c.property (some c.ctx) slotId

/-- The indications of the changes of the answer. -/
def announcedBy : Question → List IndicationMsg
  | .radioState => [.radioStateChange]
  | .radioPower => [.airplaneModeChange]
  | .modemStatus => [.modemStateChange]
  | .dataEnabled => [.dataEnabledChange]
  | .dataRegistered | .dataEmergencyOnly | .dataRoaming => [.dataRegistrationStateChange]
  | .dataNetworkType => [.dataNetworkTypeChange]
  | .dataDefaultSlot => [.defaultDataSlotChange]
  | .callDefaultSlot => [.defaultVoicecallSlotChange]
  | .smsDefaultSlot => [.defaultSmsSlotChanged]
  | .simState => [.simStateChange]
  | .uiccEnablement => [.simUiccAppEnabledChange]
  | .iccid => [.simIccidChange]
  | .voiceRegistered | .voiceEmergencyOnly | .voiceRoaming | .voiceNetworkType | .displayName =>
    [.networkStateChange, .voiceRegistrationStateChange]
  | .signalStrength => [.signalStrengthChange]

/-- The property that is read. -/
def property : Question → String
  | .radioState => "RadioState"
  | .radioPower => "Online"
  | .modemStatus => "ModemState"
  | .dataEnabled => "DataOn"
  | .dataRegistered | .dataEmergencyOnly | .dataRoaming => "Status"
  | .dataNetworkType => "Technology"
  | .dataDefaultSlot => "DataSlot"
  | .callDefaultSlot => "VoiceCallSlot"
  | .smsDefaultSlot => "SmsSlot"
  | .simState => "SimState"
  | .uiccEnablement => "UiccActive"
  | .iccid => "CardIdentifier"
  | .voiceRegistered | .voiceEmergencyOnly | .voiceRoaming => "Status"
  | .voiceNetworkType => "Technology"
  | .displayName => "Name"
  | .signalStrength => "SignalStrength"

/-- The answer also depends on whether there is a card. -/
def needsCard : Question → Bool
  | .uiccEnablement | .iccid => true
  | _ => false

/-- The registration tells of the changes of the answer. The switch of the data service is only read
in the first slot. -/
def AnnouncedTo (q : Question) (r : Registering) : Prop :=
  r.msg ∈ q.announcedBy ∧ (q = .dataEnabled → r.slotId = 0)

theorem property_mem {q : Question} {msg : IndicationMsg} (h : msg ∈ q.announcedBy) :
    q.property ∈ msg.properties := by
  cases q <;>
    simp only [announcedBy, List.mem_cons, List.not_mem_nil, or_false] at h <;>
    first
    | (subst h; decide)
    | (rcases h with rfl | rfl <;> decide)

end Question

/-! ## The same properties give the same answers -/

/-- The clients find the same for a property. -/
structure Client.SameAt (s : Slot) (name : String) (before after : Client) : Prop where
  ready : after.ctx.clientReady = before.ctx.clientReady
  missing : after.ctx.proxyAt s = null ↔ before.ctx.proxyAt s = null
  found : after.ctx.proxyAt s ≠ null → after.lookUp s name = before.lookUp s name

section

variable {cfg : Config} {before after : Client} {slotId : ℤ} {type : ProxyType} {name : String}
  {α : Type} {missing : ℤ} {read : Iter → Option α} {proxy proxy' : Ptr}

theorem readProperty_congr {before after : Sim.Properties} {out : α}
    (h : after proxy' name = before proxy name) :
    readProperty after name missing read out proxy' =
      readProperty before name missing read out proxy := by
  rw [readProperty, readProperty, h]

/-- The proxy is NULL for both clients, or it is there and the same is read from it. -/
theorem Client.SameAt.cases {s : Slot} (h : Client.SameAt s name before after) :
    before.ctx.proxyAt s = null ∧ after.ctx.proxyAt s = null ∨
      before.ctx.proxyAt s ≠ null ∧ after.ctx.proxyAt s ≠ null ∧
        ∀ {α : Type} (missing : ℤ) (read : Iter → Option α) (out : α),
          readProperty after.property name missing read out (after.ctx.proxyAt s) =
            readProperty before.property name missing read out (before.ctx.proxyAt s) := by
  by_cases hproxy : before.ctx.proxyAt s = null
  · exact .inl ⟨hproxy, h.missing.mpr hproxy⟩
  · have hproxy' : after.ctx.proxyAt s ≠ null := fun heq => hproxy (h.missing.mp heq)
    exact .inr ⟨hproxy, hproxy', fun _ _ _ => readProperty_congr (h.found hproxy')⟩

theorem getProperty_congr (h : Client.SameAt (.cell slotId.toNat type) name before after) :
    getProperty cfg after.property (some after.ctx) slotId type name missing read =
      getProperty cfg before.property (some before.ctx) slotId type name missing read := by
  funext out
  simp only [getProperty, checkedProxy, h.ready]
  obtain ⟨hproxy, hproxy'⟩ | ⟨hproxy, hproxy', hread⟩ := h.cases <;>
    rw [DbusContext.proxyAt] at hproxy hproxy'
  · rw [if_pos hproxy, if_pos hproxy']
    split_ifs <;> rfl
  -- a getter that is refused reads nothing
  · rw [if_neg hproxy, if_neg hproxy']
    split_ifs
    · rfl
    · rfl
    · exact hread missing read out

theorem getCardProperty_congr (h : Client.SameAt (.cell slotId.toNat .sim) name before after)
    (hcard : storedIccCard cfg after.property (some after.ctx) slotId =
      storedIccCard cfg before.property (some before.ctx) slotId) :
    getCardProperty cfg after.property (some after.ctx) slotId name missing read =
      getCardProperty cfg before.property (some before.ctx) slotId name missing read := by
  funext out
  simp only [getCardProperty, hcard, h.ready]
  obtain ⟨hproxy, hproxy'⟩ | ⟨hproxy, hproxy', hread⟩ := h.cases <;>
    rw [DbusContext.proxyAt] at hproxy hproxy'
  · simp only [if_pos hproxy, if_pos hproxy']
  · have hread' := hread missing read out
    rw [DbusContext.proxyAt, DbusContext.proxyAt] at hread'
    simp only [if_neg hproxy, if_neg hproxy', hread']

theorem getSlotProperty_congr (h : Client.SameAt .manager name before after) :
    getSlotProperty cfg after.property (some after.ctx) name =
      getSlotProperty cfg before.property (some before.ctx) name := by
  funext out
  simp only [getSlotProperty, Option.bind_some, h.ready]
  obtain ⟨hproxy, hproxy'⟩ | ⟨hproxy, hproxy', hread⟩ := h.cases <;>
    rw [DbusContext.proxyAt] at hproxy hproxy'
  · rw [if_pos hproxy, if_pos hproxy']
  · rw [if_neg hproxy, if_neg hproxy']
    split_ifs
    · rfl
    · exact hread _ _ out

theorem getSwitch_congr (h : Client.SameAt (.cell 0 .data) name before after) :
    Data.getSwitch after.property (some after.ctx) name =
      Data.getSwitch before.property (some before.ctx) name := by
  funext out
  simp only [Data.getSwitch, h.ready]
  obtain ⟨hproxy, hproxy'⟩ | ⟨hproxy, hproxy', hread⟩ := h.cases <;>
    rw [DbusContext.proxyAt] at hproxy hproxy'
  · rw [if_pos hproxy, if_pos hproxy']
  · rw [if_neg hproxy, if_neg hproxy']
    split_ifs
    · rfl
    · exact hread _ _ out

theorem tapiNetworkGetSignalstrength_congr
    (h : Client.SameAt (.cell slotId.toNat .netreg) "SignalStrength" before after) :
    Network.tapiNetworkGetSignalstrength cfg after.property (some after.ctx) slotId =
      Network.tapiNetworkGetSignalstrength cfg before.property (some before.ctx) slotId := by
  funext out
  simp only [Network.tapiNetworkGetSignalstrength, checkedProxy, h.ready]
  by_cases hproxy : before.ctx.dbusProxy slotId.toNat .netreg = null
  · have hproxy' : after.ctx.dbusProxy slotId.toNat .netreg = null := h.missing.mpr hproxy
    rw [if_pos hproxy, if_pos hproxy']
    split_ifs <;> rfl
  · have hproxy' : after.ctx.dbusProxy slotId.toNat .netreg ≠ null := fun heq =>
      hproxy (h.missing.mp heq)
    have hfound : after.property (after.ctx.dbusProxy slotId.toNat .netreg) "SignalStrength" =
        before.property (before.ctx.dbusProxy slotId.toNat .netreg) "SignalStrength" :=
      h.found hproxy'
    rw [if_neg hproxy, if_neg hproxy']
    split_ifs
    · rfl
    · rfl
    · simp only [hfound]

/-- As long as the property of a question stays, the answer stays. -/
theorem Question.ask_congr {q : Question} {r : Registering} (hq : q.AnnouncedTo r)
    (hsame : Client.SameAt r.slot q.property before after)
    (hcard : q.needsCard = true →
      storedIccCard cfg after.property (some after.ctx) r.slotId =
        storedIccCard cfg before.property (some before.ctx) r.slotId) :
    q.ask cfg after r.slotId = q.ask cfg before r.slotId := by
  obtain ⟨context, slotId, msg, userObj, pHandle, first, second⟩ := r
  obtain ⟨hmsg, hfirst⟩ := hq
  dsimp only at hmsg hfirst hsame hcard ⊢
  cases q
  case radioState | radioPower | modemStatus | simState | dataRegistered | dataEmergencyOnly
      | dataRoaming | dataNetworkType =>
    obtain rfl := List.mem_singleton.mp hmsg
    exact getProperty_congr hsame
  case dataEnabled =>
    -- the switch is read in the first slot, which the registration is for
    obtain rfl := List.mem_singleton.mp hmsg
    obtain rfl := hfirst rfl
    exact getSwitch_congr hsame
  case dataDefaultSlot | callDefaultSlot | smsDefaultSlot =>
    obtain rfl := List.mem_singleton.mp hmsg
    exact getSlotProperty_congr hsame
  case uiccEnablement | iccid =>
    obtain rfl := List.mem_singleton.mp hmsg
    exact getCardProperty_congr hsame (hcard rfl)
  case voiceRegistered | voiceEmergencyOnly | voiceRoaming | voiceNetworkType | displayName =>
    -- both indications of the network are about the same properties
    simp only [announcedBy, List.mem_cons, List.not_mem_nil, or_false] at hmsg
    obtain rfl | rfl := hmsg <;> exact getProperty_congr hsame
  case signalStrength =>
    obtain rfl := List.mem_singleton.mp hmsg
    exact tapiNetworkGetSignalstrength_congr hsame

end

/-! ## Between two callbacks -/

section

variable {cfg : Config} {bits : ℕ} {env : OpenEnv} {first : Filling} {rs : List Registering}
  {w : LiveWatch} {start before after : Client} {events events' : List Arrival}
  {ws ws' : List LiveWatch} {out out' : List Observation} {name : String}

/-- The properties of a registration only change with a callback. -/
theorem Watching.objects_of_silent (h : Watching cfg bits env first rs (ws, before))
    (hapart : ∀ e ∈ events, e.toClient.Apart cfg env first) (hw : w ∈ liveWatches cfg rs)
    (hcb : w.registering.pHandle ≠ null)
    (hdelivered : ∀ sig f, .signal sig f ∈ events → sig.isFor cfg w.registering = true →
      sig.Delivered w)
    (hrun : run (observe cfg bits env) (ws, before) events = some ((ws', after), out))
    (hsilent : ∀ o ∈ out, ¬ o.Calls w.registering) (hname : name ∈ w.registering.msg.properties) :
    after.objects (w.registering.place cfg name) =
      before.objects (w.registering.place cfg name) := by
  refine kept_of_silent (Watching cfg bits env first rs) (fun s =>
    s.2.objects (w.registering.place cfg name) = before.objects (w.registering.place cfg name))
    ?_ h rfl hrun hsilent
  rintro ⟨ws, c⟩ e he ⟨ws', c'⟩ out hwatching hstep
  obtain ⟨hwatching', hobjects, -⟩ := hwatching.step (hapart e he) hstep
  refine ⟨hwatching', fun hquiet hsame => ?_⟩
  have hgood : ∀ sig f, e = .signal sig f → w.Good cfg sig := fun sig f heq hfor =>
    (isSome_fill_iff hfor).mpr (hdelivered sig f (heq ▸ he) hfor)
  obtain ⟨sig, f, -, -, ⟨o, ho, hcalls⟩, -⟩ | ⟨hnot, -⟩ :=
    hwatching.calls_cases (hapart e he) hstep hw hgood
  · exact absurd hcalls (hquiet o ho)
  · refine Eq.trans ?_ hsame
    dsimp only
    rw [hobjects]
    cases e with
    | signal sig f => exact sig.update_of_not_isFor hcb (hnot sig f rfl) hname
    | ready | fetch _ | told _ => rfl

/-- A proxy that is not made again stays, and loses no property. -/
theorem Watching.lookUp_of_silent {r : Registering}
    (h : Watching cfg bits env first rs (ws, before))
    (hapart : ∀ e ∈ events, e.toClient.Apart cfg env first)
    (hslot : isValidSlotid cfg r.slotId = true)
    (hrun : run (observe cfg bits env) (ws, before) events = some ((ws', after), out))
    (hsilent : ∀ o ∈ out, ¬ o.Concerns r) :
    after.ctx.proxyAt r.slot = before.ctx.proxyAt r.slot ∧
      (before.ctx.proxyAt r.slot ≠ null → before.lookUp r.slot name ≠ none →
        after.lookUp r.slot name ≠ none) := by
  refine kept_of_silent (Watching cfg bits env first rs) (fun s =>
    s.2.ctx.proxyAt r.slot = before.ctx.proxyAt r.slot ∧
      (before.ctx.proxyAt r.slot ≠ null → before.lookUp r.slot name ≠ none →
        s.2.lookUp r.slot name ≠ none)) ?_ h ⟨rfl, fun _ hkept => hkept⟩ hrun hsilent
  rintro ⟨ws, c⟩ e he ⟨ws', c'⟩ out hwatching hstep
  refine ⟨(hwatching.step (hapart e he) hstep).1, fun hquiet hkept => ?_⟩
  obtain ⟨cbs, fillings, hclient, rfl, -⟩ := observing_cases hstep
  have hstays : fillings = [] ∨ r.slot.persistent = true := by
    by_contra hremade
    obtain ⟨hne, hmutable⟩ := not_or.mp hremade
    exact hquiet .remade (Observation.remade_mem hne) (eq_false_of_ne_true hmutable)
  obtain ⟨hproxy, hlookUp⟩ := hwatching.coherent.lookUp_step (hapart e he) hclient
    (Registering.slot_mem hslot) hstays
  refine ⟨hproxy.trans hkept.1, fun hne hfound => ?_⟩
  exact hlookUp (by rwa [hkept.1]) name (hkept.2 hne hfound)

/-- A client that is ready stays so. -/
theorem Watching.ready_of_run (h : Watching cfg bits env first rs (ws, before))
    (hapart : ∀ e ∈ events, e.toClient.Apart cfg env first)
    (hrun : run (observe cfg bits env) (ws, before) events = some ((ws', after), out))
    (hready : before.ctx.clientReady = true) : after.ctx.clientReady = true := by
  refine (invariant_of_run (fun s => Watching cfg bits env first rs s ∧
    s.2.ctx.clientReady = true) ?_ ⟨h, hready⟩ hrun).2
  rintro ⟨ws, c⟩ e he ⟨ws', c'⟩ out ⟨hwatching, hready⟩ hstep
  obtain ⟨cbs, fillings, hclient, -⟩ := observing_cases hstep
  exact ⟨(hwatching.step (hapart e he) hstep).1,
    (hwatching.coherent.record_step (hapart e he) hclient).2 hready⟩

/-- The answer to a question stays the same between two moments of a run, whatever is announced in
between, if a registration for the changes is not called back, and the library has the property at
both moments or at neither. If it has it, it keeps it unless its proxy is made again. -/
theorem ask_of_silent {q : Question} (hreached : start.Reached cfg bits env first)
    (hapart : ∀ e ∈ events ++ events', e.toClient.Apart cfg env first)
    (hw : w ∈ liveWatches cfg rs) (hcb : w.registering.pHandle ≠ null)
    (hslot : isValidSlotid cfg w.registering.slotId = true) (hq : q.AnnouncedTo w.registering)
    (hpast : run (observe cfg bits env) (liveWatches cfg rs, start) events =
      some ((ws, before), out))
    (hrun : run (observe cfg bits env) (ws, before) events' = some ((ws', after), out'))
    (hdelivered : ∀ sig f, .signal sig f ∈ events' → sig.isFor cfg w.registering = true →
      sig.Delivered w)
    (hsilent : ∀ o ∈ out', ¬ o.Calls w.registering) (hready : before.ctx.clientReady = true)
    (hcard : q.needsCard = true →
      storedIccCard cfg after.property (some after.ctx) w.registering.slotId =
        storedIccCard cfg before.property (some before.ctx) w.registering.slotId) :
    let held (c : Client) := c.ctx.proxyAt w.registering.slot ≠ null
    let found (c : Client) := c.lookUp w.registering.slot q.property ≠ none
    ((held after ↔ held before) → (found after ↔ found before) →
        q.ask cfg after w.registering.slotId = q.ask cfg before w.registering.slotId) ∧
      ((∀ o ∈ out', ¬ o.Concerns w.registering) →
        (held after ↔ held before) ∧ (held before → found before → found after)) := by
  intro held found
  rw [List.forall_mem_append] at hapart
  have hwatching : Watching cfg bits env first rs (ws, before) :=
    hreached.coherent.watching.of_run hapart.1 hpast
  have hcoherent := (hwatching.of_run hapart.2 hrun).coherent
  constructor
  · intro hheld hfound
    have hobjects := hwatching.objects_of_silent hapart.2 hw hcb hdelivered hrun hsilent
      (Question.property_mem hq.1)
    refine Question.ask_congr hq ⟨?_, not_iff_not.mp hheld, fun hproxy' => ?_⟩ hcard
    · rw [hready, hwatching.ready_of_run hapart.2 hrun hready]
    · by_cases hkept : found before
      -- what is kept at both moments is what the object holds
      · rw [hcoherent.lookUp_slot hslot hproxy' (hfound.mpr hkept), hobjects,
          hwatching.coherent.lookUp_slot hslot (hheld.mp hproxy') hkept]
      · rw [not_not.mp hkept, not_not.mp (mt hfound.mp hkept)]
  · intro hquiet
    obtain ⟨hstays, hkept⟩ := hwatching.lookUp_of_silent hapart.2 hslot hrun hquiet
    exact ⟨by simp only [held, hstays], hkept⟩

end

/-! ## The signal strength -/

section

variable {cfg : Config} {bits : ℕ} {env : OpenEnv} {first : Filling} {ctx : DbusContext}
  {rs : List Registering} {r : Registering} {w : LiveWatch} {start c : Client}
  {table : Sim.Properties} {objects : Place → Option Value} {sig : PropertySignal}
  {events : List Arrival} {ws : List LiveWatch} {out : List Observation} {cb : Callback}
  {ar : AsyncResult Payload} {dict : Iter} {ss : SignalStrength}

/-- Reading a dictionary a second time changes nothing. -/
theorem lastOf_lastOf {τ : Type} {key : String} {get : Iter → Option τ} {t : τ} :
    PropertyTable.lastOf key get dict (PropertyTable.lastOf key get dict t) =
      PropertyTable.lastOf key get dict t := by
  rw [PropertyTable.lastOf_eq_getD, PropertyTable.lastOf_eq_getD dict t]
  cases PropertyTable.lastValue key get dict <;> rfl

theorem strengthFrom_strengthFrom : strengthFrom dict (strengthFrom dict ss) =
    strengthFrom dict ss := by
  simp only [strengthFrom, lastOf_lastOf]

/-- The object holds the dictionary that the structure of a record has been filled from. -/
def StrengthShown (cfg : Config) (r : Registering) (objects : Place → Option Value)
    (ar : AsyncResult Payload) : Prop :=
  ∃ value dict block, Iter.argType [value] = .array ∧ Iter.recurse [value] = some dict ∧
    Network.signalStrengthProperties.readsAll dict = true ∧
    ar.data = .signalStrength (strengthFrom dict block) ∧
    objects (r.place cfg "SignalStrength") = some value

/-- A dictionary of numbers fills a structure. -/
theorem readAll_eq_strengthFrom (h : Network.signalStrengthProperties.readsAll dict = true)
    (ss : SignalStrength) :
    Network.signalStrengthProperties.readAll dict ss = some (strengthFrom dict ss) := by
  rw [← PropertyTable.isSome_readAll _ _ ss] at h
  obtain ⟨ss', hss'⟩ := Option.isSome_iff_exists.mp h
  rw [hss', readAll_signalStrengthProperties hss']

/-- What a callback about the signal strength shows. -/
theorem strengthShown_of_mem_owed (hmsg : w.registering.msg = .signalStrengthChange)
    (hgood : w.Good cfg sig) (harray : Iter.argType [sig.value] = .array)
    (h : cb ∈ w.owed cfg sig) :
    StrengthShown cfg w.registering (Function.update objects sig.place (some sig.value))
      cb.result := by
  obtain ⟨hfor, ar, hfill, rfl⟩ := LiveWatch.eq_of_mem_owed hgood h
  have hname : w.registering.msg.properties = ["SignalStrength"] := by
    rw [hmsg]
    rfl
  have hplace := PropertySignal.place_of_isFor hname hfor
  simp only [hmsg, IndicationMsg.report, IndicationMsg.Report.fill] at hfill
  -- the record has the structure that the dictionary of the signal has filled
  obtain ⟨dict, hdict, hrest⟩ := Option.bind_eq_some_iff.mp hfill
  obtain ⟨block, -, hread⟩ := Option.bind_eq_some_iff.mp hrest
  obtain ⟨ss, hss, rfl⟩ := Option.map_eq_some_iff.mp hread
  refine ⟨sig.value, dict, block, harray, hdict, ?_, ?_, ?_⟩
  · rw [← PropertyTable.isSome_readAll _ _ block, hss]
    rfl
  · rw [readAll_signalStrengthProperties hss]
  · rw [← hplace, Function.update_self]

/-- The getter fills the structure that it is given from the dictionary that is kept. -/
theorem tapiNetworkGetSignalstrength_eq {slotId : ℤ} {value : Value}
    (hslot : isValidSlotid cfg slotId = true) (hready : ctx.clientReady = true)
    (hproxy : ctx.dbusProxy slotId.toNat .netreg ≠ null)
    (hvalue : table (ctx.dbusProxy slotId.toNat .netreg) "SignalStrength" = some [value])
    (harray : Iter.argType [value] = .array) (hdict : Iter.recurse [value] = some dict)
    (hreads : Network.signalStrengthProperties.readsAll dict = true) (ss : SignalStrength) :
    Network.tapiNetworkGetSignalstrength cfg table (some ctx) slotId ss =
      some (ok, strengthFrom dict ss) := by
  simp only [Network.tapiNetworkGetSignalstrength, checkedProxy_eq_ok hslot hready hproxy, hvalue,
    harray, ne_eq, not_true_eq_false, if_false, hdict, Option.bind_some,
    readAll_eq_strengthFrom hreads, Option.map_some]

end

/-! ## Samples -/

/-- A registration for the changes of the network in the second slot, and its watch. -/
def networkRegistering (msg : IndicationMsg) : Registering :=
  { radioRegistering with msg := msg }

def networkWatch (msg : IndicationMsg) : LiveWatch where
  registering := networkRegistering msg
  block := radioRegistering.first.result
  watch := ⟨1, idleContext.connection,
    ⟨"/ril_1", .networkRegistration, "PropertyChanged", msg.propertyFunction⟩,
    ⟨⟨msg.value, indication, 0, 1, 0, .null, 5⟩, 1⟩⟩

/-- The phone has registered with a network. -/
def registeredSignal : PropertySignal where
  path := "/ril_1"
  interface := .networkRegistration
  name := "Status"
  value := .string "registered"
  typed := rfl
  wellFormed := rfl
  heap _ := Heap.exhausted

/-- Two of the numbers of the signal strength have changed. -/
def strengthSignal (level rssi : ℤ) : PropertySignal where
  path := "/ril_1"
  interface := .networkRegistration
  name := "SignalStrength"
  value := dict [("Level", .int32 level), ("ReceivedSignalStrengthIndicator", .int32 rssi)]
  typed := rfl
  wellFormed := rfl
  heap _ := { Heap.exhausted with signalStrength := some ⟨0, 0, 0, 0, 0, 0⟩ }

/-- The state of the network is announced, and then the strength of its signal, which a registration
for the former does not hear of. -/
theorem ask_of_silent_voiceRegistered : ∃ before after,
    Question.ask twoModems after 1 .voiceRegistered =
        Question.ask twoModems before 1 .voiceRegistered ∧
      Question.ask twoModems before 1 .voiceRegistered false = some (ok, true) := by
  have hruns : ∃ ws before out ws' after,
      run (observe twoModems 64 openPlaces)
        (liveWatches twoModems [networkRegistering .networkStateChange], Client.readyClient)
        (signals [registeredSignal]) = some ((ws, before), out) ∧
      run (observe twoModems 64 openPlaces) (ws, before) (signals [strengthSignal 3 (-70)]) =
        some ((ws', after), []) ∧
      before.ctx.clientReady = true ∧ before.ctx.proxyAt (.cell 1 .netreg) ≠ null ∧
      before.lookUp (.cell 1 .netreg) "Status" = some [.string "registered"] ∧
      Question.ask twoModems before 1 .voiceRegistered false = some (ok, true) :=
    ⟨_, _, _, _, _, rfl, rfl, rfl, by decide, rfl, rfl⟩
  obtain ⟨ws, before, out, ws', after, hpast, hrun, hready, hproxy, hkept, hanswer⟩ := hruns
  have hw : networkWatch .networkStateChange ∈
      liveWatches twoModems [networkRegistering .networkStateChange] := .head _
  have hq : Question.voiceRegistered.AnnouncedTo
      (networkWatch .networkStateChange).registering := ⟨.head _, fun h => by contradiction⟩
  have hapart : ∀ e ∈ signals [registeredSignal] ++ signals [strengthSignal 3 (-70)],
      e.toClient.Apart twoModems openPlaces withEverything :=
    List.forall_mem_append.mpr ⟨apart_signals _, apart_signals _⟩
  obtain ⟨hsame, hstays⟩ := ask_of_silent Client.reached_readyClient hapart hw Nat.one_ne_zero rfl
    hq hpast hrun (fun sig f hsig hfor => trivial) (fun o ho => absurd ho List.not_mem_nil) hready
    (fun h => by contradiction)
  obtain ⟨hheld, hfound⟩ := hstays fun o ho => absurd ho List.not_mem_nil
  have hkept' : before.lookUp (.cell 1 .netreg) "Status" ≠ none := by
    rw [hkept]
    exact Option.some_ne_none _
  exact ⟨before, after, hsame hheld (iff_of_true (hfound hproxy hkept') hkept'), hanswer⟩

end Telephony
