import Telephony.Getters
import Telephony.Latest
import Telephony.Reach

/-!
# Clients

The properties belong to the objects on the bus, which announce every change. The proxies of a
context keep the values for the getters: those that have been announced since a proxy was made, and
all of them once its object has been asked. When a modem wakes up, the proxies of all other
interfaces are made again, and start without values.

## Main definitions

* `Telephony.Place` — a property of an object
* `Manager.Slot.object`, `Manager.Slot.persistent` — what a proxy is for, and if it stays
* `Manager.objectFilter` — the interfaces whose objects are not asked
* `Telephony.Client` — a context, the objects, and what the proxies keep
* `Telephony.Client.step` — what reaches a client
* `Telephony.Client.Reached` — a client that `tapi_open` has made, some time later
* `Telephony.Client.Coherent` — the proxies differ, and what they keep is what the objects hold
* `Telephony.Client.Complete` — a proxy keeps all that its object holds

## Main results

* `Telephony.Client.Coherent.step`, `Telephony.Client.Reached.coherent` — a proxy never keeps an
  old value
* `Telephony.Client.Coherent.lookUp_step` — a proxy loses its values only if it is made again
-/

namespace Telephony

open DBus Machine Manager Sim Request

/-! ## Slots -/

/-- An object, and the name of one of its properties. -/
abbrev Place := (String × Option ProxyType) × String

namespace Manager

/-- The slots of a build. -/
def slotsOf (cfg : Config) : List Slot :=
  .manager :: (List.range cfg.modemActiveCount ×ˢ (.modem :: mutableTypes)).map fun x =>
    .cell x.1 x.2

namespace Slot

/-- The object that the proxy in a slot is for. -/
def object (cfg : Config) : Slot → String × Option ProxyType
  | manager => (cfg.managerPath, none)
  | cell modem type => (modemPath cfg modem, some type)

/-- The proxies of the manager and of the modems live as long as the context. -/
def persistent : Slot → Bool
  | manager => true
  | cell _ type => type = .modem

end Slot

/-- `object_filter`, for the proxy in a slot. -/
def objectFilter : Slot → Bool
  | .manager => false
  | .cell _ type => type ∈ [.callBarring, .callForwarding, .callSetting, .sms]

section

variable {cfg : Config} {s : Slot} {i : ℕ} {type : ProxyType}

theorem mem_slotsOf_cell : Slot.cell i type ∈ slotsOf cfg ↔ i < cfg.modemActiveCount := by
  simp [slotsOf, mem_mutableTypes, em]

theorem manager_mem_slotsOf : Slot.manager ∈ slotsOf cfg := List.mem_cons_self

/-- The cells of a slot are for the modem that the slot is for. -/
theorem mem_slotsOf_of_isValidSlotid {slotId : ℤ} (type : ProxyType)
    (h : isValidSlotid cfg slotId = true) :
    Slot.cell slotId.toNat type ∈ slotsOf cfg ∧
      (Slot.cell slotId.toNat type).object cfg = (modemPath cfg slotId, some type) := by
  refine ⟨mem_slotsOf_cell.mpr (toNat_lt_of_isValidSlotid h), ?_⟩
  simp only [isValidSlotid, decide_eq_true_eq] at h
  rw [Slot.object, Int.toNat_of_nonneg h.1]

end

end Manager

/-- The address is that of a proxy in a slot of some kind. -/
def DbusContext.Holds (cfg : Config) (ctx : DbusContext) (kind : Slot → Bool) (p : Ptr) : Prop :=
  ∃ s ∈ slotsOf cfg, kind s = true ∧ ctx.proxyAt s = p

instance (cfg : Config) (ctx : DbusContext) (kind : Slot → Bool) (p : Ptr) :
    Decidable (ctx.Holds cfg kind p) :=
  inferInstanceAs (Decidable (∃ s ∈ slotsOf cfg, _ ∧ _))

/-! ## Clients -/

/-- A context, the values of the properties of the objects as far as messages have told, and what
the proxies keep. -/
structure Client where
  ctx : DbusContext
  objects : Place → Option Value
  property : Properties

/-- What reaches a client from the bus. -/
inductive ClientEvent
  /-- `on_dbus_client_ready`. -/
  | ready
  /-- An object has changed a property. A filling of the table would meet the given things. -/
  | announce (place : Place) (value : Value) (filling : Filling)
  /-- An object tells the proxy in a slot all its properties. -/
  | fetch (s : Slot)
  /-- The proxy of a modem hands on a property that it has been told. -/
  | told (e : ModemChange)

namespace Client

/-- The client of a new context. -/
def opened (ctx : DbusContext) (objects : Place → Option Value) : Client :=
  ⟨ctx, objects, fun _ _ => none⟩

/-- What the proxy in a slot keeps of a property. -/
def lookUp (c : Client) (s : Slot) (name : String) : Option Iter :=
  c.property (c.ctx.proxyAt s) name

variable (cfg : Config) (bits : ℕ) (env : OpenEnv) (c : Client)

/-- The proxies of an object keep what it announces. -/
def store (place : Place) (value : Value) : Client :=
  { c with
    objects := Function.update c.objects place (some value)
    property := fun p name =>
      if c.ctx.Holds cfg (fun s => s.object cfg = place.1) p ∧ name = place.2 then some [value]
      else c.property p name }

/-- A proxy that is made again keeps nothing yet. -/
def remake (ctx : DbusContext) : Client :=
  { c with
    ctx := ctx
    property := fun p name =>
      if ctx.Holds cfg Slot.persistent p then c.property p name else none }

/-- The row of the proxy that is watched for the changes of an object. -/
def watchedModem (object : String × Option ProxyType) : Option ℕ :=
  (List.range cfg.modemActiveCount).find? fun i =>
    (Slot.cell i .modem).object cfg = object ∧ c.ctx.dbusProxy i .modem ≠ null

/-- `on_modem_property_change` gets a property, and may make the proxies again. -/
def told (e : ModemChange) : Option (Client × List Filling) :=
  (c.ctx.changed cfg bits env e).map fun r =>
    (if r.2.isEmpty then { c with ctx := r.1 } else c.remake cfg r.1, r.2)

/-- A change is announced, and handed on if it is one of a modem. -/
def announce (place : Place) (value : Value) (f : Filling) : Option (Client × List Filling) :=
  let c := c.store cfg place value
  match c.watchedModem cfg place.1 with
  | none => some (c, [])
  | some i => c.told cfg bits env ⟨i, place.2, [value], f⟩

/-- The proxies of some interfaces are made without asking the object. -/
def fetch (s : Slot) : Client :=
  if objectFilter s then c
  else
    { c with
      property := fun p name =>
        if c.ctx.Holds cfg (fun s' => s' = s) p then
          ((c.objects (s.object cfg, name)).map fun value => [value]).or (c.property p name)
        else c.property p name }

/-- What a client does with what reaches it, and the fillings that it makes. -/
def step : Step Client ClientEvent Filling
  | c, .ready => some ({ c with ctx := { c.ctx with clientReady := true } }, [])
  | c, .announce place value f => c.announce cfg bits env place value f
  | c, .fetch s => some (c.fetch cfg s, [])
  | c, .told e => c.told cfg bits env e

end Client

/-! ## The proxies of a table -/

/-- The bus library does not make a proxy that is in use at the time, and each one once. It may also
return NULL. -/
def Manager.Filling.Apart (f : Filling) (cfg : Config) (env : OpenEnv) (first : Filling) : Prop :=
  ∀ s ∈ slotsOf cfg, ∀ s' ∈ slotsOf cfg, made env first f s ≠ null →
    made env first f s = made env first f s' → s = s'

/-- The table has been filled with such proxies. -/
structure DbusContext.Sound (cfg : Config) (bits : ℕ) (env : OpenEnv) (first : Filling)
    (ctx : DbusContext) : Prop where
  filled : ∃ last : Filling, Filled cfg bits first last ctx ∧ last.Apart cfg env first
  manager : ctx.dbusProxyManager = env.managerProxy

/-- The fillings that an event may cause. -/
def ClientEvent.Apart (cfg : Config) (env : OpenEnv) (first : Filling) : ClientEvent → Prop
  | announce _ _ f => f.Apart cfg env first
  | told e => e.filling.Apart cfg env first
  | ready | fetch _ => True

section

variable {cfg : Config} {bits : ℕ} {env : OpenEnv} {first last f : Filling}
  {ctx ctx' : DbusContext} {e : ModemChange} {out : List Filling} {s s' : Slot}

/-- A proxy of the table is the one that has been made for its slot. -/
theorem Manager.Filled.proxyAt_eq (h : Filled cfg bits first last ctx)
    (hmanager : ctx.dbusProxyManager = env.managerProxy) (hs : s ∈ slotsOf cfg)
    (hne : ctx.proxyAt s ≠ null) : ctx.proxyAt s = made env first last s := by
  cases s with
  | manager => exact hmanager
  | cell i type =>
    have hi := mem_slotsOf_cell.mp hs
    by_cases htype : type = .modem
    · rw [htype]
      exact (h.modem i hi).trans (by simp [made])
    · have hcell := h.cell i hi type htype
      simp only [DbusContext.proxyAt, hcell] at hne ⊢
      split at hne
      case isTrue hsupported => simp [made, htype, hsupported]
      case isFalse => exact absurd rfl hne

namespace DbusContext

/-- The proxies in different slots differ. -/
theorem Sound.apart (h : ctx.Sound cfg bits env first) (hs : s ∈ slotsOf cfg)
    (hs' : s' ∈ slotsOf cfg) (hne : ctx.proxyAt s ≠ null)
    (heq : ctx.proxyAt s = ctx.proxyAt s') : s = s' := by
  obtain ⟨last, hfilled, hapart⟩ := h.filled
  have hmade := hfilled.proxyAt_eq h.manager hs hne
  have hmade' := hfilled.proxyAt_eq h.manager hs' (heq ▸ hne)
  rw [hmade, hmade'] at heq
  exact hapart s hs s' hs' (hmade ▸ hne) heq

/-- The proxy in a slot is the one of that slot only. -/
theorem Sound.holds_iff (h : ctx.Sound cfg bits env first) (hs : s ∈ slotsOf cfg)
    (hne : ctx.proxyAt s ≠ null) (kind : Slot → Bool) :
    ctx.Holds cfg kind (ctx.proxyAt s) ↔ kind s = true := by
  constructor
  · rintro ⟨s', hs', hkind, heq⟩
    rwa [h.apart hs hs' hne heq.symm]
  · exact fun hkind => ⟨s, hs, hkind, rfl⟩

/-- Nothing but the table matters. -/
theorem Sound.congr (h : ctx.Sound cfg bits env first) (hproxies : ctx'.proxyAt = ctx.proxyAt) :
    ctx'.Sound cfg bits env first := by
  obtain ⟨⟨last, hfilled, hlast⟩, hmanager⟩ := h
  have hcell : ∀ i type, ctx'.dbusProxy i type = ctx.dbusProxy i type := fun i type =>
    congrFun hproxies (.cell i type)
  refine ⟨⟨last, ⟨fun i hi => ?_, fun i hi type htype => ?_⟩, hlast⟩,
    (congrFun hproxies .manager).trans hmanager⟩
  · rw [hcell, hfilled.modem i hi]
  · rw [hcell, hfilled.cell i hi type htype]

/-- A change of a modem leaves the table, or fills it again but for what stays. -/
theorem Sound.changed (h : ctx.Sound cfg bits env first) (hapart : e.filling.Apart cfg env first)
    (hchanged : ctx.changed cfg bits env e = some (ctx', out)) :
    ctx'.Sound cfg bits env first ∧ ctx'.clientReady = ctx.clientReady ∧
      (out = [] ∧ ctx'.proxyAt = ctx.proxyAt ∨ out = [e.filling] ∧ e.name = "ModemState" ∧
        ∀ s ∈ slotsOf cfg, s.persistent = true → ctx'.proxyAt s = ctx.proxyAt s) := by
  unfold DbusContext.changed onModemPropertyChange at hchanged
  split_ifs at hchanged with hname
  · obtain ⟨rfl, rfl⟩ := Prod.mk.inj (Option.some_inj.mp hchanged)
    exact ⟨h, rfl, .inl ⟨rfl, rfl⟩⟩
  · obtain ⟨state, -, heq⟩ := Option.map_eq_some_iff.mp hchanged
    dsimp only at heq
    split_ifs at heq with hwakes
    · obtain ⟨rfl, rfl⟩ := Prod.mk.inj heq
      obtain ⟨⟨last, hfilled, -⟩, hmanager⟩ := h
      have hrefilled : Filled cfg bits first e.filling
          ((ctx.releaseMutableDbusProxy cfg).getMutableDbusProxy cfg bits env e.filling) :=
        hfilled.refill e.filling
      refine ⟨⟨⟨e.filling, ⟨hrefilled.modem, hrefilled.cell⟩, hapart⟩, hmanager⟩, rfl,
        .inr ⟨rfl, not_not.mp hname, fun s hs hpersistent => ?_⟩⟩
      cases s with
      | manager => rfl
      | cell i type =>
        obtain rfl : type = .modem := of_decide_eq_true hpersistent
        have hi := mem_slotsOf_cell.mp hs
        exact (hrefilled.modem i hi).trans (hfilled.modem i hi).symm
    · obtain ⟨rfl, rfl⟩ := Prod.mk.inj heq
      exact ⟨h.congr rfl, rfl, .inl ⟨rfl, rfl⟩⟩

end DbusContext

end


/-! ## The law -/

namespace Client

/-- The proxies of a client can be told apart, and what they keep is what their objects hold. -/
structure Coherent (cfg : Config) (bits : ℕ) (env : OpenEnv) (first : Filling) (c : Client) :
    Prop where
  sound : c.ctx.Sound cfg bits env first
  kept : ∀ s ∈ slotsOf cfg, c.ctx.proxyAt s ≠ null → ∀ name value, c.lookUp s name = some value →
    (c.objects (s.object cfg, name)).map (fun v => [v]) = some value

/-- The proxy in a slot keeps all that its object holds of some properties. -/
def Complete (cfg : Config) (s : Slot) (names : List String) (c : Client) : Prop :=
  ∀ name ∈ names, c.lookUp s name = none → c.objects (s.object cfg, name) = none

/-- What the objects hold behind an event. -/
def record (objects : Place → Option Value) : ClientEvent → Place → Option Value
  | .announce place value _ => Function.update objects place (some value)
  | .ready | .fetch _ | .told _ => objects

/-- A client that `tapi_open` has made, after some events. -/
def Reached (cfg : Config) (bits : ℕ) (env : OpenEnv) (first : Filling) (c : Client) : Prop :=
  ∃ clientName ctx objects events out,
    tapiOpen cfg clientName
      { env with
        isInterfaceSupported := isInterfaceSupported bits first.getenv
        newProxy := first.newProxy } = some ctx ∧
      first.Apart cfg env first ∧ (∀ e ∈ events, ClientEvent.Apart cfg env first e) ∧
      run (step cfg bits env) (opened ctx objects) events = some (c, out)

section

variable {cfg : Config} {bits : ℕ} {env : OpenEnv} {first f : Filling} {c c' : Client}
  {e : ClientEvent} {out : List Filling} {place : Place} {value : Value} {s s' : Slot}
  {name : String} {ctx : DbusContext} {change : ModemChange}

theorem lookUp_store (h : c.ctx.Sound cfg bits env first) (hs : s ∈ slotsOf cfg)
    (hne : c.ctx.proxyAt s ≠ null) :
    (c.store cfg place value).lookUp s name =
      if (s.object cfg, name) = place then some [value] else c.lookUp s name := by
  have hholds := h.holds_iff hs hne fun s => s.object cfg = place.1
  rw [decide_eq_true_eq] at hholds
  obtain ⟨object, name'⟩ := place
  simp only [lookUp, store, hholds, Prod.mk.injEq]

theorem Coherent.store (h : c.Coherent cfg bits env first) (place : Place) (value : Value) :
    (c.store cfg place value).Coherent cfg bits env first where
  sound := h.sound
  kept s hs hne name value' hkept := by
    rw [lookUp_store h.sound hs hne] at hkept
    have hobjects : (c.store cfg place value).objects =
        Function.update c.objects place (some value) := rfl
    by_cases hplace : (s.object cfg, name) = place
    · rw [if_pos hplace] at hkept
      rw [hobjects, hplace, Function.update_self]
      exact hkept
    · rw [if_neg hplace] at hkept
      rw [hobjects, Function.update_of_ne hplace]
      exact h.kept s hs hne name value' hkept

theorem lookUp_remake (h : ctx.Sound cfg bits env first) (hs : s ∈ slotsOf cfg)
    (hne : ctx.proxyAt s ≠ null) :
    (c.remake cfg ctx).lookUp s name =
      if s.persistent then c.property (ctx.proxyAt s) name else none := by
  simp only [lookUp, remake, h.holds_iff hs hne]

theorem lookUp_fetch (h : c.ctx.Sound cfg bits env first) (hs : s ∈ slotsOf cfg)
    (hne : c.ctx.proxyAt s ≠ null) :
    (c.fetch cfg s').lookUp s name =
      if s = s' ∧ objectFilter s = false then
        ((c.objects (s.object cfg, name)).map fun v => [v]).or (c.lookUp s name)
      else c.lookUp s name := by
  have hholds := h.holds_iff hs hne fun x => x = s'
  rw [decide_eq_true_eq] at hholds
  unfold fetch
  by_cases hsame : s = s'
  · subst hsame
    cases objectFilter s <;> simp [lookUp, hholds]
  · cases objectFilter s' <;> simp [lookUp, hholds, hsame]

theorem object_of_watchedModem {object : String × Option ProxyType} {i : ℕ}
    (h : c.watchedModem cfg object = some i) : (Slot.cell i .modem).object cfg = object := by
  have hwatched := List.find?_some (p := fun i =>
    (Slot.cell i .modem).object cfg = object ∧ c.ctx.dbusProxy i .modem ≠ null) h
  exact (of_decide_eq_true hwatched).1

theorem fetch_ctx : (c.fetch cfg s).ctx = c.ctx := by
  unfold fetch
  split <;> rfl

theorem fetch_objects : (c.fetch cfg s).objects = c.objects := by
  unfold fetch
  split <;> rfl

/-- What a modem has told leaves the proxies, or has them made again if it is about the state of the
modem. -/
theorem told_cases (h : c.ctx.Sound cfg bits env first)
    (hapart : change.filling.Apart cfg env first)
    (htold : c.told cfg bits env change = some (c', out)) :
    c'.ctx.Sound cfg bits env first ∧ c'.ctx.clientReady = c.ctx.clientReady ∧
      c'.objects = c.objects ∧
      (out = [] ∧ c'.ctx.proxyAt = c.ctx.proxyAt ∧ c'.property = c.property ∨
        out = [change.filling] ∧ change.name = "ModemState" ∧
          (∀ s ∈ slotsOf cfg, s.persistent = true → c'.ctx.proxyAt s = c.ctx.proxyAt s) ∧
          c' = c.remake cfg c'.ctx) := by
  obtain ⟨⟨ctx, out'⟩, hchanged, heq⟩ := Option.map_eq_some_iff.mp htold
  obtain ⟨hsound, hready, ⟨rfl, hproxies⟩ | ⟨rfl, hname, hstay⟩⟩ := h.changed hapart hchanged
  · obtain ⟨rfl, rfl⟩ := Prod.mk.inj heq
    exact ⟨hsound, hready, rfl, .inl ⟨rfl, hproxies, rfl⟩⟩
  · obtain ⟨rfl, rfl⟩ := Prod.mk.inj heq
    exact ⟨hsound, hready, rfl, .inr ⟨rfl, hname, hstay, rfl⟩⟩

/-- What the proxies keep then: one that stays keeps what it did, and one that is made again has
nothing. -/
theorem lookUp_told (h : c.ctx.Sound cfg bits env first)
    (hapart : change.filling.Apart cfg env first)
    (htold : c.told cfg bits env change = some (c', out)) (hs : s ∈ slotsOf cfg) :
    ((out = [] ∨ s.persistent = true) ∧ c'.ctx.proxyAt s = c.ctx.proxyAt s ∧
        (c.ctx.proxyAt s ≠ null → ∀ name, c'.lookUp s name = c.lookUp s name)) ∨
      (out = [change.filling] ∧ s.persistent = false ∧
        (c'.ctx.proxyAt s ≠ null → ∀ name, c'.lookUp s name = none)) := by
  obtain ⟨hsound, -, -, ⟨rfl, hproxies, hproperty⟩ | ⟨rfl, -, hstay, hremade⟩⟩ :=
    told_cases h hapart htold
  · refine .inl ⟨.inl rfl, by rw [hproxies], fun _ name => ?_⟩
    rw [lookUp, lookUp, hproxies, hproperty]
  · cases hpersistent : s.persistent with
    | true =>
      have hproxy := hstay s hs hpersistent
      refine .inl ⟨.inr rfl, hproxy, fun hne name => ?_⟩
      rw [hremade, lookUp_remake hsound hs (hproxy ▸ hne), if_pos hpersistent, hproxy, lookUp]
    | false =>
      refine .inr ⟨rfl, rfl, fun hne name => ?_⟩
      rw [hremade, lookUp_remake hsound hs hne, hpersistent]
      rfl

/-- An announcement is stored, and may be handed on if it is one of a modem. -/
theorem announce_cases (h : c.announce cfg bits env place value f = some (c', out)) :
    (c' = c.store cfg place value ∧ out = []) ∨
      ∃ change : ModemChange, place.1.2 = some .modem ∧ change.filling = f ∧
        (c.store cfg place value).told cfg bits env change = some (c', out) := by
  unfold announce at h
  cases hwatched : (c.store cfg place value).watchedModem cfg place.1 with
  | none =>
    simp only [hwatched] at h
    obtain ⟨rfl, rfl⟩ := Prod.mk.inj (Option.some_inj.mp h)
    exact .inl ⟨rfl, rfl⟩
  | some i =>
    simp only [hwatched] at h
    have hobject := object_of_watchedModem hwatched
    exact .inr ⟨⟨i, place.2, [value], f⟩, congrArg Prod.snd hobject.symm, rfl, h⟩

/-- What the proxies keep behind an announcement: one that stays has the value, and one that is made
again has none. -/
theorem lookUp_announce (h : c.ctx.Sound cfg bits env first) (hapart : f.Apart cfg env first)
    (hannounce : c.announce cfg bits env place value f = some (c', out)) (hs : s ∈ slotsOf cfg) :
    ((out = [] ∨ s.persistent = true) ∧ c'.ctx.proxyAt s = c.ctx.proxyAt s ∧
        (c.ctx.proxyAt s ≠ null → ∀ name, c'.lookUp s name =
          if (s.object cfg, name) = place then some [value] else c.lookUp s name)) ∨
      (out = [f] ∧ s.persistent = false ∧
        (c'.ctx.proxyAt s ≠ null → ∀ name, c'.lookUp s name = none)) := by
  obtain ⟨rfl, rfl⟩ | ⟨change, -, rfl, htold⟩ := announce_cases hannounce
  · exact .inl ⟨.inl rfl, rfl, fun hne _ => lookUp_store h hs hne⟩
  · have hsound : (c.store cfg place value).ctx.Sound cfg bits env first := h
    refine (lookUp_told hsound hapart htold hs).imp_left fun ⟨hstays, hproxy, hlookUp⟩ => ?_
    exact ⟨hstays, hproxy, fun hne name => (hlookUp hne name).trans (lookUp_store h hs hne)⟩

/-- What a modem has told keeps the client coherent. -/
theorem Coherent.told (h : c.Coherent cfg bits env first)
    (hapart : change.filling.Apart cfg env first)
    (htold : c.told cfg bits env change = some (c', out)) : c'.Coherent cfg bits env first := by
  obtain ⟨hsound, -, hobjects, -⟩ := told_cases h.sound hapart htold
  refine ⟨hsound, fun s hs hne name value hkept => ?_⟩
  obtain ⟨-, hproxy, hlookUp⟩ | ⟨-, -, hnone⟩ := lookUp_told h.sound hapart htold hs
  · rw [hproxy] at hne
    rw [hlookUp hne] at hkept
    rw [hobjects]
    exact h.kept s hs hne name value hkept
  · rw [hnone hne] at hkept
    contradiction

/-- A step keeps the client coherent. -/
theorem Coherent.step (h : c.Coherent cfg bits env first) (hapart : e.Apart cfg env first)
    (hstep : Client.step cfg bits env c e = some (c', out)) : c'.Coherent cfg bits env first := by
  cases e with
  | ready =>
    obtain ⟨rfl, -⟩ := Prod.mk.inj (Option.some_inj.mp hstep)
    exact ⟨h.sound.congr rfl, h.kept⟩
  | announce place value f =>
    obtain ⟨rfl, -⟩ | ⟨change, -, rfl, htold⟩ := announce_cases hstep
    · exact h.store place value
    · exact (h.store place value).told hapart htold
  | fetch s' =>
    obtain ⟨rfl, -⟩ := Prod.mk.inj (Option.some_inj.mp hstep)
    refine ⟨h.sound.congr (by rw [fetch_ctx]), fun s hs hne name value hkept => ?_⟩
    rw [fetch_ctx] at hne
    rw [lookUp_fetch h.sound hs hne] at hkept
    rw [fetch_objects]
    -- what is fetched are the values of the object
    split at hkept
    · obtain hfetched | ⟨-, hold⟩ := Option.or_eq_some_iff.mp hkept
      · exact hfetched
      · exact h.kept s hs hne name value hold
    · exact h.kept s hs hne name value hkept
  | told change => exact h.told hapart hstep

/-- The objects change as they announce, and a client that is ready stays so. -/
theorem Coherent.record_step (h : c.Coherent cfg bits env first)
    (hapart : e.Apart cfg env first) (hstep : Client.step cfg bits env c e = some (c', out)) :
    c'.objects = record c.objects e ∧ (c.ctx.clientReady = true → c'.ctx.clientReady = true) := by
  cases e with
  | ready =>
    obtain ⟨rfl, -⟩ := Prod.mk.inj (Option.some_inj.mp hstep)
    exact ⟨rfl, fun _ => rfl⟩
  | announce place value f =>
    obtain ⟨rfl, -⟩ | ⟨change, -, rfl, htold⟩ := announce_cases hstep
    · exact ⟨rfl, id⟩
    · obtain ⟨-, hready, hobjects, -⟩ := told_cases (h.store place value).sound hapart htold
      exact ⟨hobjects, hready.trans⟩
  | fetch s =>
    obtain ⟨rfl, -⟩ := Prod.mk.inj (Option.some_inj.mp hstep)
    exact ⟨fetch_objects, fun hready => by rwa [fetch_ctx]⟩
  | told change =>
    obtain ⟨-, hready, hobjects, -⟩ := told_cases h.sound hapart hstep
    exact ⟨hobjects, hready.trans⟩

/-- A proxy that is not made again stays, and loses no property. -/
theorem Coherent.lookUp_step (h : c.Coherent cfg bits env first) (hapart : e.Apart cfg env first)
    (hstep : Client.step cfg bits env c e = some (c', out)) (hs : s ∈ slotsOf cfg)
    (hstays : out = [] ∨ s.persistent = true) :
    c'.ctx.proxyAt s = c.ctx.proxyAt s ∧
      (c.ctx.proxyAt s ≠ null → ∀ name, c.lookUp s name ≠ none → c'.lookUp s name ≠ none) := by
  cases e with
  | ready =>
    obtain ⟨rfl, -⟩ := Prod.mk.inj (Option.some_inj.mp hstep)
    exact ⟨rfl, fun _ _ hkept => hkept⟩
  | announce place value f =>
    obtain ⟨-, hproxy, hlookUp⟩ | ⟨rfl, hmutable, -⟩ := lookUp_announce h.sound hapart hstep hs
    · refine ⟨hproxy, fun hne name hkept => ?_⟩
      rw [hlookUp hne]
      split
      · exact Option.some_ne_none _
      · exact hkept
    · simp [hmutable] at hstays
  | fetch s' =>
    obtain ⟨rfl, -⟩ := Prod.mk.inj (Option.some_inj.mp hstep)
    refine ⟨by rw [fetch_ctx], fun hne name hkept => ?_⟩
    rw [lookUp_fetch h.sound hs hne]
    split
    · exact fun hnone => hkept (Option.or_eq_none_iff.mp hnone).2
    · exact hkept
  | told change =>
    obtain ⟨-, hproxy, hlookUp⟩ | ⟨rfl, hmutable, -⟩ := lookUp_told h.sound hapart hstep hs
    · exact ⟨hproxy, fun hne name hkept => by rwa [hlookUp hne]⟩
    · simp [hmutable] at hstays

/-- A proxy that is not made again gets all that its object announces. -/
theorem Coherent.complete_step {names : List String} (h : c.Coherent cfg bits env first)
    (hapart : e.Apart cfg env first) (hstep : Client.step cfg bits env c e = some (c', out))
    (hs : s ∈ slotsOf cfg) (hne : c.ctx.proxyAt s ≠ null)
    (hstays : out = [] ∨ s.persistent = true) (hcomplete : c.Complete cfg s names) :
    c'.Complete cfg s names := by
  intro name hname hnone
  obtain ⟨-, hkept⟩ := h.lookUp_step hapart hstep hs hstays
  have hmissing : c.lookUp s name = none := by
    by_contra hfound
    exact hkept hne name hfound hnone
  have hobjects := (h.record_step hapart hstep).1
  cases e with
  | ready | fetch _ | told _ => exact (congrFun hobjects _).trans (hcomplete name hname hmissing)
  | announce place value f =>
    obtain ⟨-, -, hlookUp⟩ | ⟨rfl, hmutable, -⟩ := lookUp_announce h.sound hapart hstep hs
    · rw [hlookUp hne] at hnone
      by_cases hplace : (s.object cfg, name) = place
      · simp [hplace] at hnone
      · rw [hobjects, record, Function.update_of_ne hplace]
        exact hcomplete name hname hmissing
    · simp [hmutable] at hstays

/-- Whatever has happened since `tapi_open`, a proxy never keeps an old value. -/
theorem Reached.coherent (h : c.Reached cfg bits env first) : c.Coherent cfg bits env first := by
  obtain ⟨clientName, ctx, objects, events, out, hopen, hfirst, hevents, hrun⟩ := h
  obtain ⟨hfilled, hmanager, -⟩ := filled_of_tapiOpen hopen
  have hinit : (opened ctx objects).Coherent cfg bits env first :=
    ⟨⟨⟨first, hfilled, hfirst⟩, hmanager⟩, fun s hs hne name value hkept => by contradiction⟩
  exact invariant_of_run (Coherent cfg bits env first) (fun c e he c' out hcoherent hstep =>
    hcoherent.step (hevents e he) hstep) hinit hrun

end

/-! ## Samples -/

/-- A client that has become ready. -/
def readyClient : Client :=
  opened ((tapiOpen twoModems "app"
    { openPlaces with
      isInterfaceSupported := isInterfaceSupported 64 withEverything.getenv
      newProxy := withEverything.newProxy }).elim idleContext fun ctx =>
        { ctx with clientReady := true }) fun _ => none

theorem apart_samplePlaces (getenv getenv' : Environment) :
    (samplePlaces getenv).Apart twoModems openPlaces (samplePlaces getenv') := by
  have hmade : ∀ i type,
      made openPlaces (samplePlaces getenv') (samplePlaces getenv) (.cell i type) =
        2 + 16 * i + type.ctorIdx := by
    intro i type
    have hplace : ∀ getenv, (samplePlaces getenv).newProxy i type = 2 + 16 * i + type.ctorIdx :=
      fun _ => rfl
    simp only [made, hplace, ite_self]
  rintro (_ | ⟨i, type⟩) - (_ | ⟨j, type'⟩) - - heq
  · rfl
  · rw [hmade] at heq
    have hplaces : 1 = 2 + 16 * j + type'.ctorIdx := heq
    omega
  · rw [hmade] at heq
    have hplaces : 2 + 16 * i + type.ctorIdx = 1 := heq
    omega
  · rw [hmade, hmade] at heq
    have hplaces : 2 + 16 * i + type.ctorIdx = 2 + 16 * j + type'.ctorIdx := heq
    have h₁ := ctorIdx_lt type
    have h₂ := ctorIdx_lt type'
    obtain rfl : i = j := by omega
    have htype : type = type' := ctorIdx_injective (by omega)
    rw [htype]

theorem reached_readyClient : readyClient.Reached twoModems 64 openPlaces withEverything :=
  ⟨"app", _, fun _ => none, [.ready], [], rfl, apart_samplePlaces _ _,
    List.forall_mem_singleton.mpr trivial, rfl⟩

end Client

end Telephony
