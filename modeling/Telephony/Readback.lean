import Telephony.Polling
import Telephony.Setters

/-!
# Reading settings back

A setter hands its write to the bus library and returns; the object takes the value over some time
later, or refuses it, and may change its properties itself. The getters read what their proxy keeps.
Between the two calls the value is turned into a text and back, or sent to the modems of all slots
and read from the first.

## Main definitions

* `Telephony.SettingsBus` — the writes that are under way, and the client that asks
* `Telephony.SettingsBus.step` — calls of setters, from any context, and what the objects do
* `Telephony.Setting.ReadBy` — the getter returns what has been set

## Main results

* `Telephony.tapiUtilsGetSlotId_eq`, `Manager.networkModeFromString_toString` — what is written as a
  text is read as what it was
* `Telephony.readBy_isLatest` — as soon as nothing is under way for a property, its getter returns
  what the latest call has asked for, unless the object has decided otherwise or the proxy has been
  made again since
-/

namespace Telephony

open DBus Machine Manager Request Sim

/-! ## Texts -/

/-- The paths of the modems can be told apart, and from a slot that is not set, and a build for two
modems has two. -/
structure Config.Distinct (cfg : Config) : Prop where
  first : cfg.modemPath ≠ slotNotSet
  second : ∀ path, cfg.modemPath2 = some path → path ≠ cfg.modemPath ∧ path ≠ slotNotSet
  both : 1 < cfg.modemActiveCount → cfg.modemPath2 ≠ none

/-- A default slot is read as what it was set to. -/
theorem tapiUtilsGetSlotId_eq {cfg : Config} (hdistinct : cfg.Distinct) {slotId : ℤ} {path : String}
    (hslot : isValidSlotid cfg slotId = true ∨ slotId = -1)
    (h : tapiUtilsGetModemPath cfg slotId = some path) :
    tapiUtilsGetSlotId cfg path = slotId := by
  unfold tapiUtilsGetModemPath at h
  split_ifs at h with hfirst hsecond hunset
  · obtain rfl := Option.some_inj.mp h
    rw [tapiUtilsGetSlotId, if_pos rfl, hfirst]
  · -- the slot is one of two
    have hcount : 1 < cfg.modemActiveCount := by
      simp only [isValidSlotid, decide_eq_true_eq] at hslot
      omega
    obtain ⟨path₂, hpath₂⟩ := Option.ne_none_iff_exists'.mp (hdistinct.both hcount)
    rw [hpath₂, Option.getD_some, Option.some_inj] at h
    rw [tapiUtilsGetSlotId, ← h, if_neg (hdistinct.second path₂ hpath₂).1, if_pos hpath₂.symm,
      hsecond]
  · obtain rfl := Option.some_inj.mp h
    rw [tapiUtilsGetSlotId, if_neg hdistinct.first.symm, if_neg, hunset]
    intro hpath₂
    exact (hdistinct.second _ hpath₂.symm).2 rfl

namespace Manager

/-- The numbers of `tapi_pref_net_mode`. -/
def prefNetModes : List ℤ := [-1, 0, 1, 2, 9, 11, 12]

theorem networkModeFromString_toString {mode : ℤ} (h : mode ∈ prefNetModes) :
    networkModeFromString (networkModeToString mode) = mode := by
  simp only [prefNetModes, List.mem_cons, List.not_mem_nil, or_false] at h
  obtain rfl | rfl | rfl | rfl | rfl | rfl | rfl := h <;> decide

end Manager

/-! ## Getters -/

namespace Setting

variable (cfg : Config) (property : Properties) (ctx : DbusContext)

/-- The getter returns what has been set. -/
def ReadBy : Setting → Prop
  | voiceCallSlot slotId => Reads (Call.tapiCallGetDefaultSlot cfg property (some ctx)) slotId
  | dataSlot slotId => Reads (Data.tapiDataGetDefaultSlot cfg property (some ctx)) slotId
  | smsSlot slotId => Reads (Sms.tapiSmsGetDefaultSlot cfg property (some ctx)) slotId
  | dataEnabled enabled => Reads (Data.tapiDataGetEnabled property (some ctx)) enabled
  | roamingEnabled enabled => Reads (Data.tapiDataGetRoamingEnabled property (some ctx)) enabled
  | radioPower slotId state => Reads (tapiGetRadioPower cfg property (some ctx) slotId) state
  | prefNetMode slotId mode => Reads (tapiGetPrefNetMode cfg property (some ctx) slotId) mode
  | preferredApn slotId id => ∃ text, id = some text ∧
    Reads (Data.tapiDataGetPreferredApn cfg property (some ctx) slotId) (.text text)
  | uiccEnablement slotId state => storedIccCard cfg property (some ctx) slotId = some true →
    Reads (tapiSimGetUiccEnablement cfg property (some ctx) slotId) state
  | cellBroadcastPower slotId state =>
    Reads (Cbs.tapiSmsGetCellBroadcastPowerOn cfg property (some ctx) slotId) state
  | cellBroadcastTopics slotId topics => ∃ text, topics = some text ∧
    Reads (Cbs.tapiSmsGetCellBroadcastTopics cfg property (some ctx) slotId) (.text text)
  | serviceCenterAddress slotId number => ∃ text, number = some text ∧
    Reads (Sms.tapiSmsGetServiceCenterAddress cfg property (some ctx) slotId) (.text text)

/-- The setting is one that its type allows. -/
def Valid : Setting → Prop
  | prefNetMode _ mode => mode ∈ prefNetModes
  | _ => True

/-- The slot whose proxy the getter reads from. -/
def slotAt (s : Setting) : Slot :=
  match (s.place cfg).1.2 with
  | none => .manager
  | some type => .cell s.slot.toNat type

end Setting

section

variable {cfg : Config} {ctx : DbusContext} {table : Properties} {s : Setting}
  {w : PropertyWrite} {α : Type} {slotId : ℤ}
  {type : ProxyType} {name : String} {value : Iter} {read : Iter → Option α} {a : α}

theorem reads_getDefaulted {noProxy : ℤ} {default : α} (hslot : isValidSlotid cfg slotId = true)
    (hproxy : ctx.dbusProxy slotId.toNat type ≠ null)
    (h : table (ctx.dbusProxy slotId.toNat type) name = some value)
    (hread : read value = some a) :
    Reads (getDefaulted cfg table (some ctx) slotId type noProxy name default read) a := by
  intro out
  simp only [getDefaulted, hslot, hproxy, Bool.not_true, Bool.false_eq_true, if_false]
  exact readProperty_eq h hread

theorem reads_getSwitch {flag : Bool} (hready : ctx.clientReady = true)
    (hproxy : ctx.dbusProxy 0 .data ≠ null) (h : table (ctx.dbusProxy 0 .data) name = some value)
    (hread : value.getFlag = some flag) : Reads (Data.getSwitch table (some ctx) name) flag := by
  intro out
  simp only [Data.getSwitch, hready, hproxy, Bool.not_true, Bool.false_eq_true, if_false]
  exact readProperty_eq h hread

/-- The proxy is for the object that the setting is written to. -/
theorem Setting.object_slotAt (hslot : s.selectable cfg = true) :
    s.slotAt cfg ∈ slotsOf cfg ∧ (s.slotAt cfg).object cfg = (s.place cfg).1 := by
  cases s with
  | voiceCallSlot slotId | dataSlot slotId | smsSlot slotId => exact ⟨manager_mem_slotsOf, rfl⟩
  | dataEnabled enabled | roamingEnabled enabled =>
    exact ⟨mem_slotsOf_cell.mpr (of_decide_eq_true hslot), rfl⟩
  | radioPower slotId | prefNetMode slotId | preferredApn slotId | uiccEnablement slotId
  | cellBroadcastPower slotId | cellBroadcastTopics slotId | serviceCenterAddress slotId =>
    exact mem_slotsOf_of_isValidSlotid _ hslot

/-- A truth value is written as a number. -/
theorem getFlag_boolean (b : Bool) : Iter.getFlag [.boolean b.toNat] = some b := by
  cases b <;> rfl

theorem getFlag_boolean_ite (b : Bool) : Iter.getFlag [.boolean (if b then 1 else 0)] = some b := by
  cases b <;> rfl

/-- The getter decodes the value that the setter has written. -/
theorem Setting.Writes.readBy (h : s.Writes cfg w) (hdistinct : cfg.Distinct) (hvalid : s.Valid)
    (hready : ctx.clientReady = true) (hproxy : ctx.proxyAt (s.slotAt cfg) ≠ null)
    (htable : table (ctx.proxyAt (s.slotAt cfg)) (s.place cfg).2 = some [w.value]) :
    s.ReadBy cfg table ctx := by
  obtain ⟨-, hvalue, hslot⟩ := h
  cases s with
  | voiceCallSlot slotId | dataSlot slotId | smsSlot slotId =>
    obtain ⟨path, hpath, hw⟩ := Option.map_eq_some_iff.mp hvalue
    rw [← hw] at htable
    refine reads_getSlotProperty hready hproxy htable rfl (tapiUtilsGetSlotId_eq hdistinct ?_
      hpath).symm
    first
      | exact of_decide_eq_true hslot
      | exact .inl hslot
  | dataEnabled enabled | roamingEnabled enabled =>
    rw [← Option.some_inj.mp hvalue] at htable
    exact reads_getSwitch hready hproxy htable (getFlag_boolean_ite enabled)
  | radioPower slotId state =>
    rw [← Option.some_inj.mp hvalue] at htable
    exact reads_getProperty hslot hready hproxy htable (getFlag_boolean state)
  | prefNetMode slotId mode =>
    rw [← Option.some_inj.mp hvalue] at htable
    refine reads_getProperty hslot hready hproxy htable ?_
    exact congrArg some (networkModeFromString_toString hvalid)
  | preferredApn slotId id =>
    obtain ⟨text, rfl, hw⟩ := Option.map_eq_some_iff.mp hvalue
    rw [← hw] at htable
    exact ⟨text, rfl, reads_getProperty hslot hready hproxy htable rfl⟩
  | uiccEnablement slotId state =>
    rw [← Option.some_inj.mp hvalue] at htable
    exact fun hcard => reads_getCardProperty hslot hready hproxy hcard htable rfl
  | cellBroadcastPower slotId state =>
    rw [← Option.some_inj.mp hvalue] at htable
    exact reads_getDefaulted hslot hproxy htable (getFlag_boolean state)
  | cellBroadcastTopics slotId text | serviceCenterAddress slotId text =>
    obtain ⟨text, rfl, hw⟩ := Option.map_eq_some_iff.mp hvalue
    rw [← hw] at htable
    exact ⟨text, rfl, reads_getDefaulted hslot hproxy htable rfl⟩

end

/-! ## The bus -/

/-- The place that a caller writes to, with a proxy of its context. -/
def placeOf (cfg : Config) (context : Option DbusContext) (w : PropertyWrite) : Place :=
  ((context.bind fun ctx => (slotsOf cfg).find? fun s => ctx.proxyAt s = w.proxy).elim ("", none)
    (Slot.object cfg), w.name)

/-- The writes that are under way, the oldest first, and a client. -/
structure SettingsBus where
  pending : List (Place × Value)
  client : Client

/-- What happens on the bus. -/
inductive SettingsEvent
  /-- Anybody calls a setter, with a context and what the proxies of that keep. -/
  | set (context : Option DbusContext) (property : Properties) (s : Setting) (env : SetEnv)
  /-- An object takes the oldest write to one of its properties over, or refuses it. -/
  | settle (place : Place) (taken : Bool) (filling : Filling)
  | client (e : ClientEvent)

/-- The fillings that an event may cause. -/
def SettingsEvent.Apart (cfg : Config) (env : OpenEnv) (first : Filling) : SettingsEvent → Prop
  | set _ _ _ _ => True
  | settle _ _ f => f.Apart cfg env first
  | client e => e.Apart cfg env first

/-- What decides about the value of a property, a write that a setter has asked for or the object
itself, and what becomes of the proxies. -/
inductive SettingsReport
  | asked (s : Setting) (w : Place × Value)
  | decided (place : Place)
  | remade

/-- The report is about the property. -/
def SettingsReport.About (place : Place) : SettingsReport → Prop
  | asked _ w => w.1 = place
  | decided place' => place' = place
  | remade => False

/-- The report is about the property, or about a proxy that is made again. -/
def SettingsReport.Concerns (place : Place) (s : Slot) : SettingsReport → Prop
  | asked _ w => w.1 = place
  | decided place' => place' = place
  | remade => s.persistent = false

namespace SettingsBus

variable (cfg : Config) (bits : ℕ) (env : OpenEnv)

/-- An object announces a property of its own accord. -/
def decisions : ClientEvent → List SettingsReport
  | .announce place _ _ => [.decided place]
  | .ready | .fetch _ | .told _ => []

/-- The client gets an event. -/
def inform (bus : SettingsBus) (e : ClientEvent) : Option (SettingsBus × List SettingsReport) :=
  (bus.client.step cfg bits env e).map fun r =>
    ({ bus with client := r.1 }, r.2.map fun _ => .remade)

/-- The writes of a setter are sent one after the other. A write that is refused does not matter if
another one follows. -/
def step : Step SettingsBus SettingsEvent SettingsReport
  | bus, .set context property s setEnv =>
    (s.call cfg property context setEnv).map fun r =>
      let writes := r.2.map fun w => (placeOf cfg context w, w.value)
      ({ bus with pending := bus.pending ++ writes }, writes.map (.asked s))
  | bus, .settle place taken f =>
    match bus.pending.find? fun w => w.1 = place with
    | none => some (bus, [])
    | some w =>
      let rest := { bus with pending := bus.pending.eraseP fun w => w.1 = place }
      if taken then rest.inform cfg bits env (.announce place w.2 f)
      else some (rest, if rest.pending.any fun w => w.1 = place then [] else [.decided place])
  | bus, .client e =>
    (bus.inform cfg bits env e).map fun r => (r.1, decisions e ++ r.2)

/-- The value of the last write to the property that is under way. -/
def coming (place : Place) (pending : List (Place × Value)) : Option Value :=
  ((pending.filter fun w => w.1 = place).getLast?).map (·.2)

/-- The value that a property has once the writes that are under way have been taken over. -/
def outcome (place : Place) (bus : SettingsBus) : Option Value :=
  (coming place bus.pending).or (bus.client.objects place)

/-- The state of the bus agrees with a report. -/
def Agrees (place : Place) (bus : SettingsBus) : SettingsReport → Prop
  | .asked _ w => outcome place bus = some w.2
  | .decided _ | .remade => True

/-- Something is coming for the property, or the proxy keeps a value. -/
def Provides (place : Place) (s : Slot) (bus : SettingsBus) : SettingsReport → Prop
  | .asked _ _ => bus.client.ctx.proxyAt s ≠ null →
    coming place bus.pending ≠ none ∨ bus.client.lookUp s place.2 ≠ none
  | .decided _ | .remade => True

section

variable {cfg bits env} {first f : Filling} {bus bus' : SettingsBus} {e : SettingsEvent}
  {out : List SettingsReport} {place place' : Place} {w : Place × Value}
  {ws pending : List (Place × Value)} {value : Value} {s : Slot} {ce : ClientEvent}

theorem coming_append : coming place (pending ++ ws) =
    (coming place ws).or (coming place pending) := by
  simp only [coming, List.filter_append, List.getLast?_append]
  cases (ws.filter fun w => w.1 = place).getLast? <;> rfl

theorem coming_cons : coming place (w :: pending) =
    (coming place pending).or (if w.1 = place then some w.2 else none) := by
  rw [← List.singleton_append, coming_append, coming]
  split_ifs with h
  · simp [coming, h]
  · simp [coming, h]

theorem coming_eq_none_iff : coming place ws = none ↔ ∀ w ∈ ws, w.1 ≠ place := by
  simp [coming]

/-- If all writes to the property have one value, that one is coming. -/
theorem coming_eq_some (hw : w ∈ ws) (hplace : w.1 = place) (h : ∀ w' ∈ ws, w'.2 = w.2) :
    coming place ws = some w.2 := by
  have hmem : w ∈ ws.filter fun w => w.1 = place :=
    List.mem_filter.mpr ⟨hw, by simpa using hplace⟩
  have hne := List.ne_nil_of_mem hmem
  rw [coming, List.getLast?_eq_some_getLast hne, Option.map_some,
    h _ (List.mem_of_mem_filter (List.getLast_mem hne))]

/-- Without the oldest write to a property, the same is coming, unless nothing else is coming for
that property. -/
theorem coming_eraseP (h : pending.find? (fun w => w.1 = place') = some w) (place : Place) :
    let rest := pending.eraseP fun w => w.1 = place'
    (place' ≠ place ∧ coming place rest = coming place pending) ∨
      (place' = place ∧ coming place rest ≠ none ∧ coming place rest = coming place pending) ∨
      place' = place ∧ coming place rest = none ∧ coming place pending = some w.2 := by
  intro rest
  obtain ⟨hw, older, younger, rfl, holder⟩ := List.find?_eq_some_iff_append.mp h
  have hplace : w.1 = place' := of_decide_eq_true hw
  have hrest : rest = older ++ younger := by
    simp only [rest]
    rw [List.eraseP_append_right _ (by simpa using holder),
      List.eraseP_cons_of_pos (by simpa using hw)]
  rw [hrest, coming_append, coming_append, coming_cons]
  by_cases heq : place' = place
  · subst heq
    have hnone : coming place' older = none := coming_eq_none_iff.mpr (by simpa using holder)
    rw [hnone, if_pos hplace, Option.or_none, Option.or_none]
    cases coming place' younger <;> simp
  · rw [if_neg (hplace ▸ heq), Option.or_none]
    exact .inl ⟨heq, rfl⟩

/-- What the client does with an event. -/
theorem inform_cases (h : bus.inform cfg bits env ce = some (bus', out)) :
    ∃ fillings, bus.client.step cfg bits env ce = some (bus'.client, fillings) ∧
      bus'.pending = bus.pending ∧ out = fillings.map fun _ => .remade := by
  obtain ⟨⟨c, fillings⟩, hclient, heq⟩ := Option.map_eq_some_iff.mp h
  obtain ⟨rfl, rfl⟩ := Prod.mk.inj heq
  exact ⟨fillings, hclient, rfl, rfl⟩

/-- All that an event does. -/
theorem step_cases (h : step cfg bits env bus e = some (bus', out)) :
    (∃ context property s setEnv r, e = .set context property s setEnv ∧
        s.call cfg property context setEnv = some r ∧
        bus' = { bus with
          pending := bus.pending ++ r.2.map fun w => (placeOf cfg context w, w.value) } ∧
        out = (r.2.map fun w => (placeOf cfg context w, w.value)).map (.asked s)) ∨
      (bus' = bus ∧ out = []) ∨
      (∃ place w f fillings, e = .settle place true f ∧
        bus.pending.find? (fun w => w.1 = place) = some w ∧
        bus.client.step cfg bits env (.announce place w.2 f) = some (bus'.client, fillings) ∧
        bus'.pending = bus.pending.eraseP (fun w => w.1 = place) ∧
        out = fillings.map fun _ => .remade) ∨
      (∃ place w, bus.pending.find? (fun w => w.1 = place) = some w ∧ bus'.client = bus.client ∧
        bus'.pending = bus.pending.eraseP (fun w => w.1 = place) ∧
        out = if bus'.pending.any fun w => w.1 = place then [] else [.decided place]) ∨
      ∃ ce fillings, e = .client ce ∧
        bus.client.step cfg bits env ce = some (bus'.client, fillings) ∧
        bus'.pending = bus.pending ∧ out = decisions ce ++ fillings.map fun _ => .remade := by
  cases e with
  | set context property s setEnv =>
    obtain ⟨r, hcall, heq⟩ := Option.map_eq_some_iff.mp h
    obtain ⟨rfl, rfl⟩ := Prod.mk.inj heq
    exact .inl ⟨context, property, s, setEnv, r, rfl, hcall, rfl, rfl⟩
  | settle place taken f =>
    simp only [step] at h
    cases hfind : bus.pending.find? fun w => w.1 = place with
    | none =>
      rw [hfind] at h
      obtain ⟨rfl, rfl⟩ := Prod.mk.inj (Option.some_inj.mp h)
      exact .inr (.inl ⟨rfl, rfl⟩)
    | some w =>
      rw [hfind] at h
      cases taken with
      | true =>
        obtain ⟨fillings, hclient, hpending, rfl⟩ := inform_cases h
        exact .inr (.inr (.inl ⟨place, w, f, fillings, rfl, hfind, hclient, hpending, rfl⟩))
      | false =>
        obtain ⟨rfl, rfl⟩ := Prod.mk.inj (Option.some_inj.mp h)
        exact .inr (.inr (.inr (.inl ⟨place, w, hfind, rfl, rfl, rfl⟩)))
  | client ce =>
    obtain ⟨⟨bus₁, out₁⟩, hinform, heq⟩ := Option.map_eq_some_iff.mp h
    obtain ⟨rfl, rfl⟩ := Prod.mk.inj heq
    obtain ⟨fillings, hclient, hpending, rfl⟩ := inform_cases hinform
    exact .inr (.inr (.inr (.inr ⟨ce, fillings, rfl, hclient, hpending, rfl⟩)))

theorem coherent_step (h : bus.client.Coherent cfg bits env first)
    (hapart : e.Apart cfg env first) (hstep : step cfg bits env bus e = some (bus', out)) :
    bus'.client.Coherent cfg bits env first := by
  obtain ⟨_, _, _, _, _, -, -, rfl, -⟩ | ⟨rfl, -⟩ | ⟨place, w, f, fillings, rfl, -, hclient, -⟩ |
    ⟨_, _, -, hsame, -⟩ | ⟨ce, fillings, rfl, hclient, -⟩ := step_cases hstep
  · exact h
  · exact h
  · have hapart' : (ClientEvent.announce place w.2 f).Apart cfg env first := hapart
    exact h.step hapart' hclient
  · rwa [hsame]
  · exact h.step hapart hclient

/-! ### What is coming -/

/-- The writes of a call bring their value to a property, or are not about it. -/
theorem coming_of_call {context : Option DbusContext} {property : Properties} {setting : Setting}
    {setEnv : SetEnv} {r : ℤ × List PropertyWrite}
    (hcall : setting.call cfg property context setEnv = some r) (pending : List (Place × Value))
    (place : Place) :
    let writes := r.2.map fun w => (placeOf cfg context w, w.value)
    ((∃ w ∈ writes, w.1 = place) ∧
        ∀ w ∈ writes, w.1 = place → coming place (pending ++ writes) = some w.2) ∨
      (∀ w ∈ writes, w.1 ≠ place) ∧ coming place (pending ++ writes) = coming place pending := by
  intro writes
  rw [coming_append]
  by_cases habout : ∃ w ∈ writes, w.1 = place
  · refine .inl ⟨habout, fun w hw hplace => ?_⟩
    -- all writes of the call have the value of this one
    have hvalue : ∀ w' ∈ writes, w'.2 = w.2 := by
      intro w' hw'
      obtain ⟨p, hp, rfl⟩ := List.mem_map.mp hw
      obtain ⟨p', hp', rfl⟩ := List.mem_map.mp hw'
      exact Option.some_inj.mp ((Setting.writes_of_mem hcall hp').value.symm.trans
        (Setting.writes_of_mem hcall hp).value)
    rw [coming_eq_some hw hplace hvalue, Option.some_or]
  · have hother : ∀ w ∈ writes, w.1 ≠ place := fun w hw hplace => habout ⟨w, hw, hplace⟩
    exact .inr ⟨hother, by rw [coming_eq_none_iff.mpr hother, Option.none_or]⟩

/-- A refusal decides about a property, or does not matter to it. -/
theorem coming_of_refused (hfind : pending.find? (fun w => w.1 = place') = some w)
    (place : Place) :
    let rest := pending.eraseP fun w => w.1 = place'
    let reports : List SettingsReport :=
      if rest.any fun w => w.1 = place' then [] else [.decided place']
    reports = [.decided place] ∨
      (∀ o ∈ reports, ¬ o.About place ∧ ∀ s, ¬ o.Concerns place s) ∧
        coming place rest = coming place pending := by
  intro rest reports
  have hany : rest.any (fun w => w.1 = place') = true ↔ coming place' rest ≠ none := by
    rw [← not_iff_not, not_not, coming_eq_none_iff, List.any_eq_true, not_exists]
    exact forall_congr' fun w => by rw [not_and, decide_eq_true_eq]
  simp only [reports, hany]
  obtain ⟨hne, hsame⟩ | ⟨rfl, hyounger, hsame⟩ | ⟨rfl, hnone, -⟩ := coming_eraseP hfind place
  · refine .inr ⟨fun o ho => ?_, hsame⟩
    split at ho
    · contradiction
    · rw [List.mem_singleton.mp ho]
      exact ⟨hne, fun _ => hne⟩
  · rw [if_pos hyounger]
    exact .inr ⟨fun o ho => absurd ho List.not_mem_nil, hsame⟩
  · rw [if_neg (not_not.mpr hnone)]
    exact .inl rfl

/-- A write that is taken over becomes the value of its property, if it is the last. -/
theorem outcome_of_taken (hfind : bus.pending.find? (fun w => w.1 = place') = some w)
    (hpending : bus'.pending = bus.pending.eraseP fun w => w.1 = place')
    (hobjects : bus'.client.objects = Function.update bus.client.objects place' (some w.2)) :
    outcome place bus' = outcome place bus := by
  rw [outcome, outcome, hpending, hobjects]
  obtain ⟨hne, hsame⟩ | ⟨rfl, hyounger, hsame⟩ | ⟨rfl, hnone, hw⟩ := coming_eraseP hfind place
  · rw [hsame, Function.update_of_ne (Ne.symm hne)]
  · obtain ⟨v, hv⟩ := Option.ne_none_iff_exists'.mp hyounger
    rw [← hsame, hv, Option.some_or, Option.some_or]
  · rw [hnone, hw, Function.update_self, Option.none_or, Option.some_or]

theorem agrees_of_outcome (h : outcome place bus' = outcome place bus) (o : SettingsReport)
    (hagrees : Agrees place bus o) : Agrees place bus' o := by
  cases o with
  | asked _ w => exact h.trans hagrees
  | decided | remade => trivial

/-- The reports of a client are about no call. -/
theorem ne_asked_of_mem {fillings : List Filling} {o : SettingsReport}
    (h : o ∈ decisions ce ++ fillings.map fun _ => .remade) (setting : Setting) :
    o ≠ .asked setting w := by
  rintro rfl
  cases ce <;> simp [decisions] at h

/-- What an object does not decide about stays. -/
theorem record_of_quiet {objects : Place → Option Value}
    (h : ∀ o ∈ decisions ce, ¬ o.About place) : Client.record objects ce place = objects place := by
  cases ce with
  | announce place' value f =>
    have hne : place' ≠ place := h (.decided place') (List.mem_singleton_self _)
    exact Function.update_of_ne (Ne.symm hne) _ _
  | ready | fetch _ | told _ => rfl

/-- The bus brings what the latest report about a property says. -/
theorem agrees_step (h : bus.client.Coherent cfg bits env first) (hapart : e.Apart cfg env first)
    (hstep : step cfg bits env bus e = some (bus', out)) (place : Place) :
    ((∃ o ∈ out, o.About place) ∧ ∀ o ∈ out, o.About place → Agrees place bus' o) ∨
      ((∀ o ∈ out, ¬ o.About place) ∧
        ∀ o, o.About place → Agrees place bus o → Agrees place bus' o) := by
  obtain ⟨context, property, s, setEnv, r, -, hcall, rfl, rfl⟩ | ⟨rfl, rfl⟩ |
    ⟨place', w, f, fillings, rfl, hfind, hclient, hpending, rfl⟩ |
    ⟨place', w, hfind, hclient, hpending, hout⟩ | ⟨ce, fillings, rfl, hclient, hpending, rfl⟩ :=
    step_cases hstep
  · obtain ⟨⟨w, hw, hplace⟩, hcoming⟩ | ⟨hother, hcoming⟩ :=
      coming_of_call hcall bus.pending place
    · refine .inl ⟨⟨.asked s w, List.mem_map_of_mem hw, hplace⟩, fun o ho habout => ?_⟩
      obtain ⟨w', hw', rfl⟩ := List.mem_map.mp ho
      rw [Agrees, outcome, hcoming w' hw' habout, Option.some_or]
    · refine .inr ⟨fun o ho habout => ?_, fun o _ =>
        agrees_of_outcome (by rw [outcome, outcome, hcoming]) o⟩
      obtain ⟨w, hw, rfl⟩ := List.mem_map.mp ho
      exact hother w hw habout
  · exact .inr ⟨fun o ho => absurd ho List.not_mem_nil, fun o _ hagrees => hagrees⟩
  -- the write becomes the value of the property
  · have hapart' : (ClientEvent.announce place' w.2 f).Apart cfg env first := hapart
    exact .inr ⟨by simp [SettingsReport.About], fun o _ => agrees_of_outcome
      (outcome_of_taken hfind hpending (h.record_step hapart' hclient).1) o⟩
  -- the write is refused
  · rw [hpending] at hout
    obtain hdecided | ⟨hquiet, hcoming⟩ := coming_of_refused hfind place
    · rw [hout, hdecided]
      exact .inl ⟨⟨.decided place, List.mem_singleton_self _, rfl⟩, by simp [Agrees]⟩
    · rw [hout]
      refine .inr ⟨fun o ho => (hquiet o ho).1, fun o _ => agrees_of_outcome ?_ o⟩
      rw [outcome, outcome, hclient, hpending, hcoming]
  · by_cases hdecides : ∃ o ∈ decisions ce, o.About place
    · obtain ⟨o, ho, habout⟩ := hdecides
      refine .inl ⟨⟨o, List.mem_append_left _ ho, habout⟩, fun o ho _ => ?_⟩
      cases o with
      | asked s w => exact absurd rfl (ne_asked_of_mem ho s)
      | decided | remade => trivial
    · have hquiet : ∀ o ∈ decisions ce, ¬ o.About place := fun o ho habout =>
        hdecides ⟨o, ho, habout⟩
      refine .inr ⟨fun o ho habout => ?_, fun o _ => agrees_of_outcome ?_ o⟩
      · obtain ho | ho := List.mem_append.mp ho
        · exact hquiet o ho habout
        · obtain ⟨f, -, rfl⟩ := List.mem_map.mp ho
          contradiction
      · rw [outcome, outcome, hpending, (h.record_step hapart hclient).1, record_of_quiet hquiet]

/-! ### What the proxy keeps -/

theorem not_concerns_of_stays {fillings : List Filling}
    (h : fillings = [] ∨ s.persistent = true) :
    ∀ o ∈ fillings.map fun _ => SettingsReport.remade, ¬ o.Concerns place s := by
  intro o ho hconcerns
  obtain ⟨f, hf, rfl⟩ := List.mem_map.mp ho
  obtain rfl | hpersistent := h
  · contradiction
  · exact Bool.eq_false_iff.mp hconcerns hpersistent

theorem exists_concerns_of_remade (place : Place) {fillings : List Filling}
    (h : ¬ (fillings = [] ∨ s.persistent = true)) :
    ∃ o ∈ fillings.map fun _ => SettingsReport.remade, o.Concerns place s := by
  obtain ⟨hne, hmutable⟩ := not_or.mp h
  obtain ⟨f, hf⟩ := List.exists_mem_of_ne_nil _ hne
  exact ⟨.remade, List.mem_map.mpr ⟨f, hf, rfl⟩, eq_false_of_ne_true hmutable⟩

theorem provides_of_imp (bus : SettingsBus)
    (h : bus'.client.ctx.proxyAt s = bus.client.ctx.proxyAt s)
    (hkept : bus.client.ctx.proxyAt s ≠ null →
      coming place bus.pending ≠ none ∨ bus.client.lookUp s place.2 ≠ none →
        coming place bus'.pending ≠ none ∨ bus'.client.lookUp s place.2 ≠ none)
    (o : SettingsReport) (hprovides : Provides place s bus o) : Provides place s bus' o := by
  cases o with
  | decided | remade => trivial
  | asked _ _ =>
    intro hne
    rw [h] at hne
    exact hkept hne (hprovides hne)

/-- A write that has been asked for stays under way until the proxy keeps a value, as long as the
proxy is not made again. -/
theorem provides_step (h : bus.client.Coherent cfg bits env first)
    (hapart : e.Apart cfg env first) (hs : s ∈ slotsOf cfg) (hobject : s.object cfg = place.1)
    (hstep : step cfg bits env bus e = some (bus', out)) :
    ((∃ o ∈ out, o.Concerns place s) ∧ ∀ o ∈ out, o.Concerns place s → Provides place s bus' o) ∨
      ((∀ o ∈ out, ¬ o.Concerns place s) ∧
        ∀ o, o.Concerns place s → Provides place s bus o → Provides place s bus' o) := by
  obtain ⟨context, property, setting, setEnv, r, -, hcall, rfl, rfl⟩ | ⟨rfl, rfl⟩ |
    ⟨place', w, f, fillings, rfl, hfind, hclient, hpending, rfl⟩ |
    ⟨place', w, hfind, hclient, hpending, hout⟩ | ⟨ce, fillings, rfl, hclient, hpending, rfl⟩ :=
    step_cases hstep
  · obtain ⟨⟨w, hw, hplace⟩, hcoming⟩ | ⟨hother, hcoming⟩ :=
      coming_of_call hcall bus.pending place
    · refine .inl ⟨⟨.asked setting w, List.mem_map_of_mem hw, hplace⟩, fun o ho habout => ?_⟩
      obtain ⟨w', hw', rfl⟩ := List.mem_map.mp ho
      intro _
      left
      rw [hcoming w' hw' habout]
      exact Option.some_ne_none _
    · refine .inr ⟨fun o ho hplace => ?_, fun o _ =>
        provides_of_imp bus (by rfl) (fun _ hkept => by rwa [hcoming]) o⟩
      obtain ⟨w, hw, rfl⟩ := List.mem_map.mp ho
      exact hother w hw hplace
  · exact .inr ⟨fun o ho => absurd ho List.not_mem_nil, fun o _ hprovides => hprovides⟩
  -- the write becomes the value of the property
  · have hapart' : (ClientEvent.announce place' w.2 f).Apart cfg env first := hapart
    by_cases hstays : fillings = [] ∨ s.persistent = true
    · obtain ⟨hproxy, hlookUp⟩ := h.lookUp_step hapart' hclient hs hstays
      refine .inr ⟨not_concerns_of_stays hstays, fun o _ =>
        provides_of_imp bus hproxy (fun hne hkept => ?_) o⟩
      rw [hpending]
      obtain ⟨-, hsame⟩ | ⟨-, hyounger, -⟩ | ⟨rfl, -⟩ := coming_eraseP hfind place
      · rw [hsame]
        exact hkept.imp_right (hlookUp hne place.2)
      · exact .inl hyounger
      -- the proxy gets the value
      · right
        obtain ⟨-, -, hstored⟩ | ⟨rfl, hmutable, -⟩ :=
          Client.lookUp_announce h.sound hapart hclient hs
        · rw [hstored hne, hobject, if_pos rfl]
          exact Option.some_ne_none _
        · simp [hmutable] at hstays
    · refine .inl ⟨exists_concerns_of_remade _ hstays, fun o ho _ => ?_⟩
      obtain ⟨f, -, rfl⟩ := List.mem_map.mp ho
      trivial
  -- the write is refused
  · rw [hpending] at hout
    obtain hdecided | ⟨hquiet, hcoming⟩ := coming_of_refused hfind place
    · rw [hout, hdecided]
      exact .inl ⟨⟨.decided place, List.mem_singleton_self _, rfl⟩, by simp [Provides]⟩
    · rw [hout]
      refine .inr ⟨fun o ho => (hquiet o ho).2 s, fun o _ =>
        provides_of_imp bus (by rw [hclient]) (fun _ hkept => ?_) o⟩
      rwa [hclient, hpending, hcoming]
  · by_cases hstays : fillings = [] ∨ s.persistent = true
    · by_cases hdecides : ∃ o ∈ decisions ce, o.Concerns place s
      · obtain ⟨o, ho, hconcerns⟩ := hdecides
        refine .inl ⟨⟨o, List.mem_append_left _ ho, hconcerns⟩, fun o ho _ => ?_⟩
        cases o with
        | asked setting w => exact absurd rfl (ne_asked_of_mem ho setting)
        | decided | remade => trivial
      · obtain ⟨hproxy, hlookUp⟩ := h.lookUp_step hapart hclient hs hstays
        refine .inr ⟨fun o ho hconcerns => ?_, fun o _ =>
          provides_of_imp bus hproxy (fun hne hkept => ?_) o⟩
        · obtain ho | ho := List.mem_append.mp ho
          · exact hdecides ⟨o, ho, hconcerns⟩
          · exact not_concerns_of_stays hstays o ho hconcerns
        · rw [hpending]
          exact hkept.imp_right (hlookUp hne place.2)
    · obtain ⟨o, ho, hconcerns⟩ := exists_concerns_of_remade place hstays
      refine .inl ⟨⟨o, List.mem_append_right _ ho, hconcerns⟩, fun o ho _ => ?_⟩
      cases o with
      | asked setting w => exact absurd rfl (ne_asked_of_mem ho setting)
      | decided | remade => trivial

/-- A report about a setting comes from a call that wrote its value. -/
theorem writes_of_mem_run {start : SettingsBus} {events : List SettingsEvent} {setting : Setting}
    (hrun : run (step cfg bits env) start events = some (bus, out))
    (h : .asked setting w ∈ out) :
    ∃ p, setting.Writes cfg p ∧ p.value = w.2 := by
  obtain ⟨⟨bus₀, e⟩, -, bus₁, out₁, hstep, hout⟩ := exists_visit_of_mem_run hrun h
  obtain ⟨context, property, s, setEnv, r, -, hcall, -, rfl⟩ | ⟨-, rfl⟩ |
    ⟨_, _, _, _, -, -, -, -, rfl⟩ | ⟨_, _, -, -, -, rfl⟩ | ⟨ce, _, -, -, -, rfl⟩ :=
    step_cases hstep
  · obtain ⟨w', hw', hasked⟩ := List.mem_map.mp hout
    obtain ⟨rfl, rfl⟩ := SettingsReport.asked.inj hasked
    obtain ⟨p, hp, rfl⟩ := List.mem_map.mp hw'
    exact ⟨p, Setting.writes_of_mem hcall hp, rfl⟩
  · contradiction
  · simp at hout
  · split at hout <;> simp at hout
  · cases ce <;> simp [decisions] at hout

end

end SettingsBus

/-- From any state that a client can reach: as soon as nothing is under way for the property of a
setting, its getter returns what the latest call of its setter has asked for, whoever made it and
whatever else has been set, unless the object has refused that or has changed the property of its
own accord, or finds nothing, which it only does if its proxy has been made again since. -/
theorem readBy_isLatest {cfg : Config} {bits : ℕ} {env : OpenEnv} {first : Filling}
    {start bus : SettingsBus} {events : List SettingsEvent} {out : List SettingsReport}
    {s : Setting} {w : Place × Value}
    (hdistinct : cfg.Distinct) (hvalid : s.Valid)
    (hreached : start.client.Reached cfg bits env first)
    (hapart : ∀ e ∈ events, e.Apart cfg env first)
    (hrun : run (SettingsBus.step cfg bits env) start events = some (bus, out))
    (hlatest : IsLatest (SettingsReport.About (s.place cfg)) out (.asked s w))
    (hsettled : ∀ w' ∈ bus.pending, w'.1 ≠ s.place cfg)
    (hready : bus.client.ctx.clientReady = true)
    (hproxy : bus.client.ctx.proxyAt (s.slotAt cfg) ≠ null) :
    let found := bus.client.lookUp (s.slotAt cfg) (s.place cfg).2
    (found = none ∨ s.ReadBy cfg bus.client.property bus.client.ctx) ∧
      (IsLatest (SettingsReport.Concerns (s.place cfg) (s.slotAt cfg)) out (.asked s w) →
        found ≠ none) := by
  intro found
  obtain ⟨p, hwrites, hvalue⟩ := SettingsBus.writes_of_mem_run hrun hlatest.mem
  obtain ⟨hmem, hobject⟩ := Setting.object_slotAt hwrites.selectable
  have hnone := SettingsBus.coming_eq_none_iff.mpr hsettled
  constructor
  · by_cases hfound : found = none
    · exact .inl hfound
    have hcoherent : bus.client.Coherent cfg bits env first :=
      invariant_of_run (fun bus : SettingsBus => bus.client.Coherent cfg bits env first)
        (fun _ e he _ _ hcoherent hstep =>
          SettingsBus.coherent_step hcoherent (hapart e he) hstep) hreached.coherent hrun
    have hagrees : SettingsBus.Agrees (s.place cfg) bus (.asked s w) :=
      hlatest.of_run_of_mem (fun _ e he _ _ hcoherent hstep =>
        ⟨SettingsBus.coherent_step hcoherent (hapart e he) hstep,
          SettingsBus.agrees_step hcoherent (hapart e he) hstep (s.place cfg)⟩)
        hreached.coherent hrun
    have hheld : bus.client.objects (s.place cfg) = some w.2 := by
      rwa [SettingsBus.Agrees, SettingsBus.outcome, hnone, Option.none_or] at hagrees
    -- what the proxy keeps is what the object holds
    obtain ⟨value, hkept⟩ := Option.ne_none_iff_exists'.mp hfound
    have hobjects := hcoherent.kept _ hmem hproxy _ value hkept
    rw [hobject, hheld, Option.map_some, Option.some_inj, ← hvalue] at hobjects
    rw [← hobjects] at hkept
    exact .inr (hwrites.readBy hdistinct hvalid hready hproxy hkept)
  · intro hconcerns
    have hprovides : SettingsBus.Provides (s.place cfg) (s.slotAt cfg) bus (.asked s w) :=
      hconcerns.of_run_of_mem (fun _ e he _ _ hcoherent hstep =>
        ⟨SettingsBus.coherent_step hcoherent (hapart e he) hstep,
          SettingsBus.provides_step hcoherent (hapart e he) hmem hobject hstep⟩)
        hreached.coherent hrun
    exact (hprovides hproxy).resolve_left (not_not.mpr hnone)

/-! ## Samples -/

theorem distinct_twoModems : twoModems.Distinct where
  first := by decide
  second path hpath := by
    obtain rfl := Option.some_inj.mp hpath
    decide
  both _ := by decide

/-- A setter that meets no failure. -/
def willing : SetEnv := ⟨7, 1, fun _ => true, fun _ => true⟩

/-- A call with the context of the client. -/
def callOf (s : Setting) : SettingsEvent :=
  .set (some Client.readyClient.ctx) (fun _ _ => none) s willing

/-- The mode of the second slot is set twice, and the radio of the first slot is switched on, which
is settled first. The former of the two modes is refused. -/
def modeEvents : List SettingsEvent :=
  [callOf (.prefNetMode 1 11), callOf (.prefNetMode 1 9), callOf (.radioPower 0 true),
    .settle (Setting.place twoModems (.radioPower 0 true)) true withEverything,
    .settle (Setting.place twoModems (.prefNetMode 1 9)) false withEverything,
    .settle (Setting.place twoModems (.prefNetMode 1 9)) true withEverything]

theorem readBy_prefNetMode : ∃ c : Client,
    Setting.ReadBy twoModems c.property c.ctx (.prefNetMode 1 9) := by
  have hrun : ∃ bus first second third,
      run (SettingsBus.step twoModems 64 openPlaces) ⟨[], Client.readyClient⟩ modeEvents =
        some (bus, [.asked (.prefNetMode 1 11) first, .asked (.prefNetMode 1 9) second,
          .asked (.radioPower 0 true) third]) ∧
      second.1 = Setting.place twoModems (.prefNetMode 1 9) ∧
      third.1 ≠ Setting.place twoModems (.prefNetMode 1 9) ∧ bus.pending = [] ∧
      bus.client.ctx.clientReady = true ∧ bus.client.ctx.proxyAt (.cell 1 .radio) ≠ null :=
    ⟨_, _, _, _, rfl, rfl, by decide, rfl, rfl, by decide⟩
  obtain ⟨bus, mode, mode', power, hrun, hmode, hpower, hpending, hready, hproxy⟩ := hrun
  have hlatest : ∀ about : SettingsReport → Prop,
      about (.asked (.prefNetMode 1 9) mode') → ¬ about (.asked (.radioPower 0 true) power) →
      IsLatest about [.asked (.prefNetMode 1 11) mode, .asked (.prefNetMode 1 9) mode',
        .asked (.radioPower 0 true) power] (.asked (.prefNetMode 1 9) mode') :=
    fun about hmode hpower => ⟨hmode, [_], [_], rfl, List.forall_mem_singleton.mpr hpower⟩
  have hapart : ∀ e ∈ modeEvents, e.Apart twoModems openPlaces withEverything := by
    have hfilling := Client.apart_samplePlaces (fun _ => none) (fun _ => none)
    simp only [modeEvents, callOf, List.forall_mem_cons, List.not_mem_nil, false_implies,
      implies_true, and_true]
    exact ⟨trivial, trivial, trivial, hfilling, hfilling, hfilling⟩
  have hmember : (9 : ℤ) ∈ prefNetModes := by decide
  have hvalid : (Setting.prefNetMode 1 9).Valid := hmember
  obtain ⟨hreads, hfound⟩ := readBy_isLatest distinct_twoModems hvalid Client.reached_readyClient
    hapart hrun (hlatest _ hmode hpower) (by simp [hpending]) hready hproxy
  exact ⟨bus.client, hreads.resolve_left (hfound (hlatest _ hmode hpower))⟩

end Telephony
