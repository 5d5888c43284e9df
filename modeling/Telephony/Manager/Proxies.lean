import Telephony.Machine
import Telephony.Manager.Open
import Mathlib.Data.List.Nodup
import Mathlib.Data.List.ProdSigma
import Mathlib.Data.Set.Insert
import Mathlib.Logic.Function.Basic

/-!
# The proxies of a connection

A context has a table of proxies, a row for each modem and a column for each interface, next to the
proxy of the manager. The manager and the modem column live as long as the context. The other
cells are released and created again when a modem comes alive, because its interfaces may have
changed; the watch of the modem proxies reports that, and finds the modem by looking the proxy up
in the table.

## Main definitions

* `Manager.Modems` — the modems of a build, with distinct paths
* `Manager.Creation` — the proxies that the bus library hands out for a creation of the table
* `Manager.ProxyTable` — the table with the references that the library holds
* `Manager.onModemPropertyChange` — the watch of the modem proxies
* `Manager.ProxyTable.Owns` — exactly one reference for each cell that is not NULL
* `Manager.PropertyChange.Sound` — what the bus library promises while proxies are held

## Main results

* `Manager.ProxyTable.Owns.takeProxy`, `Manager.ProxyTable.Owns.proxyUnref` — creating and
  releasing the proxy of one cell
* `Manager.ProxyTable.Owns.fillSlots` — filling slots takes a reference for each
* `Manager.getModemIdByProxy_eq` — the proxy of a modem is found in its own row
* `Manager.proxiesKept` — what holds of the table in every run
-/

namespace Telephony.Manager

open DBus Machine

/-! ## Proxies and references -/

/-- The modems of a build. -/
structure Modems where
  count : ℕ
  path : ℕ → String
  managerPath : String
  distinct : ∀ i < count, ∀ j < count, path i = path j → i = j

/-- A place of the context that designates a proxy. -/
inductive Slot
  | manager
  | cell (modem : ℕ) (type : ProxyType)
  deriving DecidableEq, Repr

/-- The path and the interface of the proxy that belongs into a slot. The manager has an interface
of its own. -/
def Modems.proxyOf (m : Modems) : Slot → String × Option ProxyType
  | .manager => (m.managerPath, none)
  | .cell modem type => (m.path modem, some type)

/-- The slots that the build has. -/
def Modems.slots (m : Modems) : Set Slot
  | .manager => True
  | .cell modem _ => modem < m.count

/-- With distinct paths, no two slots are for the same proxy. -/
theorem Modems.proxyOf_injOn (m : Modems) : Set.InjOn m.proxyOf m.slots := by
  intro x hx y hy h
  cases x with
  | manager =>
    cases y with
    | manager => rfl
    | cell => simp [proxyOf] at h
  | cell i type =>
    cases y with
    | manager => simp [proxyOf] at h
    | cell j type' =>
      simp only [proxyOf, Prod.mk.injEq, Option.some.injEq] at h
      rw [m.distinct i hx j hy h.1, h.2]

/-- A proxy that is held, and by how many references. -/
structure Reference where
  proxy : String × Option ProxyType
  refs : ℕ
  deriving DecidableEq, Repr

/-- The references that the context holds, by the address of the proxy. -/
abbrev Holdings := Ptr → Option Reference

/-- What a creation of the table meets: what `g_dbus_proxy_new` returns for a path and an interface,
which is NULL if there is no memory, and what `is_interface_supported` answers. No proxy is for two
paths or two interfaces. -/
structure Creation where
  proxyNew : String × Option ProxyType → Ptr
  apart : ∀ a b, proxyNew a ≠ null → proxyNew a = proxyNew b → a = b
  isInterfaceSupported : ProxyType → Bool

/-- What `g_dbus_proxy_new` returns for a slot. -/
def Creation.proxyFor (c : Creation) (m : Modems) (x : Slot) : Ptr := c.proxyNew (m.proxyOf x)

/-- The interface of the slot is supported. The library uses the manager without a check. -/
def Creation.supports (c : Creation) : Slot → Bool
  | .manager => true
  | .cell _ type => c.isInterfaceSupported type

/-! ## The table -/

/-- The part of the context that the proxies are about, with the references that are held. -/
structure ProxyTable where
  proxy : Slot → Ptr
  modemState : ℕ → ℤ
  held : Holdings

namespace ProxyTable

def setNull (t : ProxyTable) (x : Slot) : ProxyTable :=
  { t with proxy := Function.update t.proxy x null }

/-- `g_dbus_proxy_new`, where the bus library makes the given proxy for a slot. -/
def takeProxy (m : Modems) (proxyFor : Slot → Ptr) (t : ProxyTable) (x : Slot) : ProxyTable :=
  { t with
    proxy := Function.update t.proxy x (proxyFor x)
    held := Function.update t.held (proxyFor x)
      (some ⟨m.proxyOf x, ((t.held (proxyFor x)).map Reference.refs).getD 0 + 1⟩) }

/-- A new proxy for a slot, or NULL. -/
def fillSlot (m : Modems) (proxyFor : Slot → Ptr) (supported : Slot → Bool) (t : ProxyTable)
    (x : Slot) : ProxyTable :=
  if supported x then t.takeProxy m proxyFor x else t.setNull x

/-- What `g_dbus_proxy_new` returns for a slot is stored in it. -/
def proxyNew (m : Modems) (c : Creation) (t : ProxyTable) (x : Slot) : ProxyTable :=
  if c.proxyFor m x = null then t.setNull x else t.takeProxy m (c.proxyFor m) x

/-- `g_dbus_proxy_unref`, on the proxy of a slot. Nobody may release a reference that is not
held. -/
def proxyUnref (t : ProxyTable) (x : Slot) : Option ProxyTable :=
  if t.proxy x = null then some t
  else
    (t.held (t.proxy x)).map fun r =>
      { t with
        held := Function.update t.held (t.proxy x)
          (if r.refs = 1 then none else some { r with refs := r.refs - 1 }) }

end ProxyTable

/-- The interfaces whose proxies come and go. -/
def mutableTypes : List ProxyType :=
  [.radio, .call, .sim, .stk, .data, .sms, .cbs, .netreg, .netmon, .callBarring, .callForwarding,
    .ss, .callSetting, .ims, .phonebook]

theorem mem_mutableTypes {type : ProxyType} : type ∈ mutableTypes ↔ type ≠ .modem := by
  cases type <;> decide

/-- The manager, and the modem column. -/
def Modems.persistentSlots (m : Modems) : List Slot :=
  .manager :: (List.range m.count).map (.cell · .modem)

/-- The other cells, row by row. -/
def Modems.mutableSlots (m : Modems) : List Slot :=
  (List.range m.count ×ˢ mutableTypes).map fun x => .cell x.1 x.2

theorem Modems.mem_persistentSlots {m : Modems} {x : Slot} :
    x ∈ m.persistentSlots ↔ x = .manager ∨ ∃ i < m.count, x = .cell i .modem := by
  simp [persistentSlots, eq_comm]

theorem Modems.mem_mutableSlots {m : Modems} {x : Slot} :
    x ∈ m.mutableSlots ↔ ∃ i < m.count, ∃ type ≠ .modem, x = .cell i type := by
  simp [mutableSlots, mem_mutableTypes, eq_comm, and_assoc]

theorem Modems.nodup_persistentSlots (m : Modems) : m.persistentSlots.Nodup := by
  refine List.nodup_cons.mpr ⟨by simp, List.Nodup.map ?_ List.nodup_range⟩
  intro i j h
  simpa using h

theorem Modems.nodup_mutableSlots (m : Modems) : m.mutableSlots.Nodup := by
  have htypes : mutableTypes.Nodup := by decide
  refine List.Nodup.map ?_ (List.Nodup.product List.nodup_range htypes)
  rintro ⟨i, type⟩ ⟨j, type'⟩ h
  simpa using h

theorem Modems.notMem_mutableSlots {m : Modems} {x : Slot} (h : x ∈ m.persistentSlots) :
    x ∉ m.mutableSlots := by
  rw [mem_mutableSlots]
  rintro ⟨i, -, type, htype, rfl⟩
  obtain hmanager | ⟨j, -, hcell⟩ := mem_persistentSlots.mp h
  · contradiction
  · exact htype (Slot.cell.inj hcell).2

/-- The slots of a build are the persistent and the mutable ones. -/
theorem Modems.slots_eq (m : Modems) :
    m.slots = {x | x ∈ m.persistentSlots} ∪ {x | x ∈ m.mutableSlots} := by
  ext x
  simp only [Set.mem_union, Set.mem_ofPred_eq, mem_persistentSlots, mem_mutableSlots]
  cases x with
  | manager =>
    have hslots : Slot.manager ∈ m.slots := trivial
    simp [hslots]
  | cell i type =>
    have hslots : Slot.cell i type ∈ m.slots ↔ i < m.count := Iff.rfl
    rw [hslots]
    by_cases htype : type = .modem <;> simp [htype]

namespace ProxyTable

/-- `get_persistent_dbus_proxy`. -/
def getPersistentDbusProxy (m : Modems) (creation : Creation) (t : ProxyTable) : ProxyTable :=
  m.persistentSlots.foldl (proxyNew m creation) t

/-- `release_persistent_dbus_proxy`. -/
def releasePersistentDbusProxy (m : Modems) (t : ProxyTable) : Option ProxyTable :=
  m.persistentSlots.foldlM proxyUnref t

/-- What `get_mutable_dbus_proxy` does for a cell. -/
def getCell (m : Modems) (c : Creation) (t : ProxyTable) (x : Slot) : ProxyTable :=
  if c.supports x then t.proxyNew m c x else t.setNull x

/-- `get_mutable_dbus_proxy`. -/
def getMutableDbusProxy (m : Modems) (creation : Creation) (t : ProxyTable) : ProxyTable :=
  m.mutableSlots.foldl (getCell m creation) t

/-- What `release_mutable_dbus_proxy` does for a cell. -/
def releaseCell (t : ProxyTable) (x : Slot) : Option ProxyTable :=
  if t.proxy x = null then some t else (t.proxyUnref x).map (·.setNull x)

/-- `release_mutable_dbus_proxy`. -/
def releaseMutableDbusProxy (m : Modems) (t : ProxyTable) : Option ProxyTable :=
  m.mutableSlots.foldlM releaseCell t

/-- The part of `tapi_open` that fills the table. The block of the context comes from `malloc`, and
no reference is held yet. -/
def opened (m : Modems) (creation : Creation) (block : ProxyTable) : ProxyTable :=
  let t := { block with held := fun _ => none }
  let t := (t.getPersistentDbusProxy m creation).getMutableDbusProxy m creation
  { t with
    modemState := fun i => if i < m.count then modemStatePowerOff else t.modemState i }

/-- The part of `tapi_close` that empties the table. -/
def closed (m : Modems) (t : ProxyTable) : Option ProxyTable :=
  (t.releasePersistentDbusProxy m).bind (releaseMutableDbusProxy m)

end ProxyTable

/-! ## The watch of the modems -/

/-- `MODEM_STATE_AWARE` and `MODEM_STATE_ALIVE`. -/
def modemStateAware : ℤ := 1
def modemStateAlive : ℤ := 2

/-- `get_modem_id_by_proxy`. -/
def getModemIdByProxy (m : Modems) (t : ProxyTable) (proxy : Ptr) : ℕ :=
  if proxy = null then 0
  else
    ((List.range m.count).find? fun i =>
      (.modem :: mutableTypes).any fun type => t.proxy (.cell i type) = proxy).getD 0

/-- `on_modem_property_change`, with the creations that it makes. -/
def onModemPropertyChange (m : Modems) (creation : Creation) (t : ProxyTable) (proxy : Ptr)
    (name : String) (iter : Iter) : Option (ProxyTable × List Creation) :=
  if name ≠ "ModemState" then some (t, [])
  else
    let modemId := getModemIdByProxy m t proxy
    iter.getInt.bind fun newState =>
      let refreshed :=
        if t.modemState modemId = modemStateAware ∧ newState = modemStateAlive then
          (t.releaseMutableDbusProxy m).map fun t =>
            (t.getMutableDbusProxy m creation, [creation])
        else some (t, [])
      refreshed.map fun r =>
        ({ r.1 with modemState := Function.update r.1.modemState modemId newState }, r.2)

/-- A property change that the bus library reports for the proxy of a modem. -/
structure PropertyChange (m : Modems) where
  modem : Fin m.count
  name : String
  iter : Iter
  typed : name = "ModemState" → iter.getInt.isSome = true
  creation : Creation

/-- The watch is invoked with the proxy that stands in the modem column. -/
def PropertyChange.step (m : Modems) : Step ProxyTable (PropertyChange m) Creation := fun t e =>
  onModemPropertyChange m e.creation t (t.proxy (.cell e.modem .modem)) e.name e.iter

/-! ## References -/

namespace Creation

variable {m : Modems} {c : Creation} {x y : Slot}

/-- With distinct paths, no two slots get the same proxy. -/
theorem eq_of_proxyFor_eq (hx : x ∈ m.slots) (hy : y ∈ m.slots) (hne : c.proxyFor m x ≠ null)
    (h : c.proxyFor m x = c.proxyFor m y) : x = y :=
  m.proxyOf_injOn hx hy (c.apart _ _ hne h)

/-- No cell gets a proxy that the manager or a modem got first. -/
def Spares (m : Modems) (c first : Creation) : Prop :=
  ∀ x ∈ m.persistentSlots, ∀ y ∈ m.mutableSlots, c.proxyFor m y ≠ null →
    first.proxyFor m x ≠ c.proxyFor m y

theorem spares_self (m : Modems) (c : Creation) : c.Spares m c := by
  intro x hx y hy hne heq
  have hslots : x ∈ m.slots ∧ y ∈ m.slots := by
    rw [m.slots_eq]
    exact ⟨.inl hx, .inr hy⟩
  obtain rfl := eq_of_proxyFor_eq hslots.2 hslots.1 hne heq.symm
  exact m.notMem_mutableSlots hx hy

end Creation

namespace ProxyTable

/-- Exactly one reference is held for each of the slots that is not NULL, and no other. -/
structure Owns (m : Modems) (slots : Set Slot) (t : ProxyTable) : Prop where
  held : ∀ x ∈ slots, t.proxy x ≠ null → t.held (t.proxy x) = some ⟨m.proxyOf x, 1⟩
  owned : ∀ p r, t.held p = some r → p ≠ null ∧ ∃ x ∈ slots, t.proxy x = p

/-- The proxies for the slots are not NULL, none is held, and no two are the same. -/
structure Fresh (t : ProxyTable) (xs : List Slot) (proxyFor : Slot → Ptr) : Prop where
  ne_null : ∀ x ∈ xs, proxyFor x ≠ null
  free : ∀ x ∈ xs, t.held (proxyFor x) = none
  apart : ∀ x ∈ xs, ∀ y ∈ xs, proxyFor x = proxyFor y → x = y

variable {m : Modems} {t : ProxyTable} {slots : Set Slot} {x y : Slot} {proxyFor : Slot → Ptr}

theorem Fresh.filter {xs : List Slot} (h : t.Fresh xs proxyFor) (p : Slot → Bool) :
    t.Fresh (xs.filter p) proxyFor where
  ne_null x hx := h.ne_null x (List.mem_of_mem_filter hx)
  free x hx := h.free x (List.mem_of_mem_filter hx)
  apart x hx y hy := h.apart x (List.mem_of_mem_filter hx) y (List.mem_of_mem_filter hy)

/-- What a creation hands out is fresh, as long as it is not held. -/
theorem fresh_proxyFor {xs : List Slot} {c : Creation} (hslots : ∀ x ∈ xs, x ∈ m.slots)
    (hne : ∀ x ∈ xs, c.proxyFor m x ≠ null) (hfree : ∀ x ∈ xs, t.held (c.proxyFor m x) = none) :
    t.Fresh xs (c.proxyFor m) :=
  ⟨hne, hfree, fun x hx y hy heq =>
    Creation.eq_of_proxyFor_eq (hslots x hx) (hslots y hy) (hne x hx) heq⟩

namespace Owns

/-- No proxy stands in two slots. -/
theorem eq_of_proxy_eq (h : t.Owns m slots) (hslots : slots ⊆ m.slots) (hx : x ∈ slots)
    (hy : y ∈ slots) (hne : t.proxy x ≠ null) (heq : t.proxy x = t.proxy y) : x = y := by
  have hheld := h.held x hx hne
  have hheld' := h.held y hy (heq ▸ hne)
  rw [heq, hheld', Option.some.injEq, Reference.mk.injEq] at hheld
  exact m.proxyOf_injOn (hslots hx) (hslots hy) hheld.1.symm

/-- A slot gets a proxy that is not held, and with it one reference. -/
theorem takeProxy (h : t.Owns m slots) (hnew : x ∉ slots) (hnull : proxyFor x ≠ null)
    (hfree : t.held (proxyFor x) = none) :
    (t.takeProxy m proxyFor x).Owns m (insert x slots) := by
  constructor
  · intro y hy hne
    simp only [ProxyTable.takeProxy] at hne ⊢
    -- the new slot, and the slots that were filled before
    by_cases hyx : y = x
    · subst hyx
      simp [hfree]
    · have hmem : y ∈ slots := (Set.mem_insert_iff.mp hy).resolve_left hyx
      rw [Function.update_of_ne hyx] at hne ⊢
      have hheld := h.held y hmem hne
      have hother : t.proxy y ≠ proxyFor x := by
        intro heq
        rw [heq, hfree] at hheld
        contradiction
      rw [Function.update_of_ne hother, hheld]
  · intro p r hp
    simp only [ProxyTable.takeProxy] at hp ⊢
    -- the new proxy, and those that were held before
    by_cases hpx : p = proxyFor x
    · exact ⟨hpx ▸ hnull, x, Set.mem_insert _ _, by rw [Function.update_self, hpx]⟩
    · rw [Function.update_of_ne hpx] at hp
      obtain ⟨hne, y, hy, hyp⟩ := h.owned p r hp
      have hyx : y ≠ x := fun heq => hnew (heq ▸ hy)
      exact ⟨hne, y, Set.mem_insert_of_mem _ hy, by rw [Function.update_of_ne hyx, hyp]⟩

/-- What stands in a slot for which nothing is owned does not matter. -/
theorem update_null (h : t.Owns m slots) (hnew : x ∉ slots) :
    ({ t with proxy := Function.update t.proxy x null } : ProxyTable).Owns m slots := by
  have hne : ∀ y ∈ slots, y ≠ x := fun y hy heq => hnew (heq ▸ hy)
  constructor
  · intro y hy hnull
    dsimp only at hnull ⊢
    rw [Function.update_of_ne (hne y hy)] at hnull ⊢
    exact h.held y hy hnull
  · intro p r hp
    obtain ⟨hp', y, hy, hyp⟩ := h.owned p r hp
    exact ⟨hp', y, hy, (Function.update_of_ne (hne y hy) null t.proxy).trans hyp⟩

/-- A slot that is NULL needs no reference. -/
theorem insert_null (h : t.Owns m slots) (hnull : t.proxy x = null) :
    t.Owns m (insert x slots) := by
  constructor
  · intro y hy hne
    obtain rfl | hmem := Set.mem_insert_iff.mp hy
    · contradiction
    · exact h.held y hmem hne
  · intro p r hp
    obtain ⟨hp', y, hy, hyp⟩ := h.owned p r hp
    exact ⟨hp', y, Set.mem_insert_of_mem _ hy, hyp⟩

theorem setNull (h : t.Owns m slots) (hnew : x ∉ slots) :
    (t.setNull x).Owns m (insert x slots) :=
  (h.update_null hnew).insert_null (Function.update_self x null t.proxy)

/-- The reference of a slot can be released, and is then gone. -/
theorem proxyUnref (h : t.Owns m slots) (hslots : slots ⊆ m.slots) (hx : x ∈ slots) :
    ∃ held, t.proxyUnref x = some { t with held := held } ∧
      ({ t with held := held } : ProxyTable).Owns m (slots \ {x}) := by
  by_cases hnull : t.proxy x = null
  · refine ⟨t.held, if_pos hnull, fun y hy => h.held y hy.1, fun p r hp => ?_⟩
    obtain ⟨hne, y, hy, hyp⟩ := h.owned p r hp
    have hyx : y ≠ x := by
      rintro rfl
      exact hne (hyp.symm.trans hnull)
    exact ⟨hne, y, ⟨hy, hyx⟩, hyp⟩
  · refine ⟨Function.update t.held (t.proxy x) none, ?_, ?_, ?_⟩
    · simp [ProxyTable.proxyUnref, hnull, h.held x hx hnull]
    · rintro y ⟨hy, hyx⟩ hne
      dsimp only at hne ⊢
      -- another slot holds another proxy
      rw [Function.update_of_ne, h.held y hy hne]
      exact fun heq => hyx (h.eq_of_proxy_eq hslots hy hx hne heq)
    · intro p r hp
      dsimp only at hp ⊢
      -- what is still held stands in a slot that is left
      have hpx : p ≠ t.proxy x := by
        rintro rfl
        simp at hp
      rw [Function.update_of_ne hpx] at hp
      obtain ⟨hne, y, hy, hyp⟩ := h.owned p r hp
      have hyx : y ≠ x := by
        rintro rfl
        exact hpx hyp.symm
      exact ⟨hne, y, ⟨hy, hyx⟩, hyp⟩

end Owns

/-! ## Loops over the table -/

section Loops

variable {xs : List Slot} {supported : Slot → Bool}

/-- Filling slots one after the other takes a reference for each that gets a proxy. -/
theorem Owns.fillSlots (h : t.Owns m slots) (hxs : xs.Nodup) (hnew : ∀ x ∈ xs, x ∉ slots)
    (hfresh : t.Fresh (xs.filter supported) proxyFor) :
    (xs.foldl (fillSlot m proxyFor supported) t).Owns m (slots ∪ {x | x ∈ xs}) := by
  induction xs generalizing t slots with
  | nil => simpa using h
  | cons x xs ih =>
    have hx := List.nodup_cons.mp hxs
    rw [List.forall_mem_cons] at hnew
    have hset : insert x slots ∪ {y | y ∈ xs} = slots ∪ {y | y ∈ x :: xs} := by
      ext y
      simp only [Set.mem_union, Set.mem_insert_iff, Set.mem_ofPred_eq, List.mem_cons]
      tauto
    rw [List.foldl_cons, ← hset]
    have hrest : ∀ y ∈ xs, y ∉ insert x slots := by
      intro y hy hmem
      obtain rfl | hmem := Set.mem_insert_iff.mp hmem
      · exact hx.1 hy
      · exact hnew.2 y hy hmem
    rw [fillSlot]
    split
    case isTrue hsupported =>
      rw [List.filter_cons_of_pos hsupported] at hfresh
      obtain ⟨hne_null, hfree, hapart⟩ := hfresh
      rw [List.forall_mem_cons] at hne_null hfree
      have hapart' : ∀ y ∈ xs.filter supported, ∀ z ∈ xs.filter supported,
          proxyFor y = proxyFor z → y = z := fun y hy z hz =>
        hapart y (List.mem_cons_of_mem _ hy) z (List.mem_cons_of_mem _ hz)
      refine ih (h.takeProxy hnew.1 hne_null.1 hfree.1) hx.2 hrest
        ⟨hne_null.2, fun y hy => ?_, hapart'⟩
      -- the proxy of the head is not one of the others
      have hother : proxyFor y ≠ proxyFor x := by
        intro heq
        obtain rfl := hapart y (List.mem_cons_of_mem _ hy) x List.mem_cons_self heq
        exact hx.1 (List.mem_of_mem_filter hy)
      exact (Function.update_of_ne hother _ _).trans (hfree.2 y hy)
    case isFalse hsupported =>
      rw [List.filter_cons_of_neg hsupported] at hfresh
      exact ih (h.setNull hnew.1) hx.2 hrest ⟨hfresh.ne_null, hfresh.free, hfresh.apart⟩

theorem fillSlots_proxy (t : ProxyTable) (xs : List Slot) (y : Slot) :
    (xs.foldl (fillSlot m proxyFor supported) t).proxy y =
      if y ∈ xs then if supported y then proxyFor y else null else t.proxy y := by
  induction xs generalizing t with
  | nil => simp
  | cons x xs ih =>
    rw [List.foldl_cons, ih]
    by_cases hmem : y ∈ xs
    · simp [hmem]
    · by_cases hyx : y = x
      · subst hyx
        cases hsupported : supported y with
        | true => simp [hmem, fillSlot, hsupported, takeProxy]
        | false => simp [hmem, fillSlot, hsupported, ProxyTable.setNull]
      · have hkept : (fillSlot m proxyFor supported t x).proxy y = t.proxy y := by
          rw [fillSlot]
          split
          · exact Function.update_of_ne hyx _ _
          · exact Function.update_of_ne hyx _ _
        simp [hmem, hyx, hkept]

theorem fillSlots_modemState (t : ProxyTable) (xs : List Slot) :
    (xs.foldl (fillSlot m proxyFor supported) t).modemState = t.modemState := by
  induction xs generalizing t with
  | nil => rfl
  | cons x xs ih =>
    rw [List.foldl_cons, ih, fillSlot]
    split <;> rfl

theorem takeProxy_eq_fillSlot :
    takeProxy m proxyFor = fillSlot m proxyFor fun _ => true := by
  funext t x
  rw [fillSlot, if_pos rfl]

theorem proxyNew_eq_fillSlot (m : Modems) (c : Creation) :
    ProxyTable.proxyNew m c = fillSlot m (c.proxyFor m) fun x => c.proxyFor m x ≠ null := by
  funext t x
  by_cases hnull : c.proxyFor m x = null
  · simp [ProxyTable.proxyNew, fillSlot, hnull]
  · simp [ProxyTable.proxyNew, fillSlot, hnull]

/-- A cell gets a proxy if its interface is supported and there is one. -/
theorem getCell_eq_fillSlot (m : Modems) (c : Creation) :
    getCell m c = fillSlot m (c.proxyFor m) fun x => c.supports x && c.proxyFor m x ≠ null := by
  funext t x
  by_cases hnull : c.proxyFor m x = null
  · cases hsupported : c.supports x <;> simp [getCell, ProxyTable.proxyNew, fillSlot, hnull]
  · cases hsupported : c.supports x <;>
      simp [getCell, ProxyTable.proxyNew, fillSlot, hnull, hsupported]

theorem sdiff_nil : slots \ {x | x ∈ ([] : List Slot)} = slots := by
  ext y
  simp

theorem sdiff_cons : (slots \ {x}) \ {y | y ∈ xs} = slots \ {y | y ∈ x :: xs} := by
  ext y
  simp only [Set.mem_sdiff, Set.mem_singleton_iff, Set.mem_ofPred_eq, List.mem_cons]
  tauto

/-- Releasing the references of slots one after the other. -/
theorem Owns.proxyUnrefs (h : t.Owns m slots) (hslots : slots ⊆ m.slots) (hxs : xs.Nodup)
    (hmem : ∀ x ∈ xs, x ∈ slots) :
    ∃ held, xs.foldlM ProxyTable.proxyUnref t = some { t with held := held } ∧
      ({ t with held := held } : ProxyTable).Owns m (slots \ {x | x ∈ xs}) := by
  induction xs generalizing t slots with
  | nil => exact ⟨t.held, rfl, sdiff_nil.symm ▸ h⟩
  | cons x xs ih =>
    rw [List.forall_mem_cons] at hmem
    have hx := List.nodup_cons.mp hxs
    obtain ⟨held, hunref, howns⟩ := h.proxyUnref hslots hmem.1
    have hrest : ∀ y ∈ xs, y ∈ slots \ {x} := fun y hy =>
      ⟨hmem.2 y hy, fun heq => hx.1 (heq ▸ hy)⟩
    obtain ⟨held', hunrefs, howns'⟩ := ih howns (fun y hy => hslots hy.1) hx.2 hrest
    refine ⟨held', ?_, sdiff_cons ▸ howns'⟩
    rw [List.foldlM_cons, hunref]
    exact hunrefs

/-- A cell that is released is NULL and has no reference. -/
theorem Owns.releaseCell (h : t.Owns m slots) (hslots : slots ⊆ m.slots) (hx : x ∈ slots) :
    ∃ held, t.releaseCell x =
        some { t with proxy := Function.update t.proxy x null, held := held } ∧
      ({ t with proxy := Function.update t.proxy x null, held := held } : ProxyTable).Owns m
        (slots \ {x}) := by
  obtain ⟨held, hunref, howns⟩ := h.proxyUnref hslots hx
  have hset := howns.update_null (x := x) fun hx => hx.2 rfl
  by_cases hnull : t.proxy x = null
  · have hsame : Function.update t.proxy x null = t.proxy := by
      rw [← hnull, Function.update_eq_self]
    -- a slot that is NULL is passed over
    have hheld : t = { t with held := held } := by
      have hkeep : t.proxyUnref x = some t := if_pos hnull
      exact Option.some_inj.mp (hkeep.symm.trans hunref)
    refine ⟨held, ?_, hset⟩
    rw [ProxyTable.releaseCell, if_pos hnull, hsame, ← hheld]
  · refine ⟨held, ?_, hset⟩
    rw [ProxyTable.releaseCell, if_neg hnull, hunref]
    rfl

theorem Owns.releaseCells (h : t.Owns m slots) (hslots : slots ⊆ m.slots) (hxs : xs.Nodup)
    (hmem : ∀ x ∈ xs, x ∈ slots) :
    ∃ t', xs.foldlM ProxyTable.releaseCell t = some t' ∧
      t'.Owns m (slots \ {x | x ∈ xs}) ∧ (∀ x ∈ xs, t'.proxy x = null) ∧
      (∀ y ∉ xs, t'.proxy y = t.proxy y) ∧ t'.modemState = t.modemState := by
  induction xs generalizing t slots with
  | nil => exact ⟨t, rfl, sdiff_nil.symm ▸ h, by simp, by simp, rfl⟩
  | cons x xs ih =>
    rw [List.forall_mem_cons] at hmem
    have hx := List.nodup_cons.mp hxs
    obtain ⟨held, hrelease, howns⟩ := h.releaseCell hslots hmem.1
    have hrest : ∀ y ∈ xs, y ∈ slots \ {x} := fun y hy =>
      ⟨hmem.2 y hy, fun heq => hx.1 (heq ▸ hy)⟩
    obtain ⟨t', hreleases, howns', hnull, hkept, hstate⟩ :=
      ih howns (fun y hy => hslots hy.1) hx.2 hrest
    refine ⟨t', ?_, sdiff_cons ▸ howns', ?_, ?_, hstate⟩
    · rw [List.foldlM_cons, hrelease]
      exact hreleases
    · rw [List.forall_mem_cons]
      refine ⟨?_, hnull⟩
      -- the rest does not touch the head again
      rw [hkept x hx.1]
      exact Function.update_self x null t.proxy
    · intro y hy
      rw [hkept y (List.not_mem_of_not_mem_cons hy)]
      exact Function.update_of_ne (List.ne_of_not_mem_cons hy) null t.proxy

end Loops

/-! ## Opening, refreshing and closing -/

/-- The cells that come and go are NULL where their interface was not supported, or where there was
no proxy for them. -/
def CreatedBy (m : Modems) (c : Creation) (t : ProxyTable) : Prop :=
  ∀ x ∈ m.mutableSlots, t.proxy x = null ↔ c.supports x = false ∨ c.proxyFor m x = null

/-- The manager and the modem column stand. -/
def Persists (m : Modems) (t t' : ProxyTable) : Prop :=
  ∀ x ∈ m.persistentSlots, t'.proxy x = t.proxy x

variable {first c : Creation}

/-- Filling the cells that come and go, next to the proxies that stay. -/
theorem Owns.getMutableDbusProxy (h : t.Owns m {x | x ∈ m.persistentSlots})
    (hpersists : ∀ x ∈ m.persistentSlots, t.proxy x = first.proxyFor m x)
    (hspares : c.Spares m first) :
    (t.getMutableDbusProxy m c).Owns m m.slots ∧ CreatedBy m c (t.getMutableDbusProxy m c) ∧
      Persists m t (t.getMutableDbusProxy m c) ∧
      (t.getMutableDbusProxy m c).modemState = t.modemState := by
  rw [ProxyTable.getMutableDbusProxy, getCell_eq_fillSlot]
  refine ⟨?_, fun x hx => ?_, fun x hx => ?_, fillSlots_modemState t _⟩
  · rw [m.slots_eq]
    refine h.fillSlots m.nodup_mutableSlots (fun x hx hx' => m.notMem_mutableSlots hx' hx) ?_
    have hmem : ∀ x ∈ m.mutableSlots.filter fun x => c.supports x && c.proxyFor m x ≠ null,
        x ∈ m.mutableSlots ∧ c.proxyFor m x ≠ null := by
      intro x hx
      obtain ⟨hx, hfilled⟩ := List.mem_filter.mp hx
      exact ⟨hx, of_decide_eq_true (Bool.and_eq_true_iff.mp hfilled).2⟩
    refine fresh_proxyFor (fun x hx => ?_) (fun x hx => (hmem x hx).2) fun x hx => ?_
    · rw [m.slots_eq]
      exact .inr (hmem x hx).1
    · rw [Option.eq_none_iff_forall_ne_some]
      intro r hr
      -- what is held is the proxy of the manager or of a modem
      obtain ⟨-, y, hy, hproxy⟩ := h.owned _ r hr
      rw [hpersists y hy] at hproxy
      exact hspares y hy x (hmem x hx).1 (hmem x hx).2 hproxy
  · rw [fillSlots_proxy, if_pos hx]
    by_cases hnull : c.proxyFor m x = null
    · simp [hnull]
    · cases hsupported : c.supports x <;> simp [hnull]
  · rw [fillSlots_proxy, if_neg (m.notMem_mutableSlots hx)]

/-- Emptying the cells that come and go leaves the proxies that stay. -/
theorem Owns.releaseMutableDbusProxy (h : t.Owns m m.slots) :
    ∃ t', t.releaseMutableDbusProxy m = some t' ∧ t'.Owns m {x | x ∈ m.persistentSlots} ∧
      (∀ x ∈ m.mutableSlots, t'.proxy x = null) ∧ Persists m t t' ∧
      t'.modemState = t.modemState := by
  have hmem : ∀ x ∈ m.mutableSlots, x ∈ m.slots := by
    intro x hx
    rw [m.slots_eq]
    exact .inr hx
  obtain ⟨t', hrelease, howns, hnull, hkept, hstate⟩ :=
    h.releaseCells (Set.Subset.refl _) m.nodup_mutableSlots hmem
  have hset : m.slots \ {x | x ∈ m.mutableSlots} = {x | x ∈ m.persistentSlots} := by
    ext x
    have hdisjoint : x ∈ m.persistentSlots → x ∉ m.mutableSlots := m.notMem_mutableSlots
    simp only [m.slots_eq, Set.mem_sdiff, Set.mem_union, Set.mem_ofPred_eq]
    tauto
  exact ⟨t', hrelease, hset ▸ howns, hnull, fun x hx => hkept x (m.notMem_mutableSlots hx), hstate⟩

/-- A new table owns its proxies. -/
theorem owns_opened (m : Modems) (c : Creation) (block : ProxyTable) :
    (block.opened m c).Owns m m.slots ∧ CreatedBy m c (block.opened m c) ∧
      (∀ x ∈ m.persistentSlots, (block.opened m c).proxy x = c.proxyFor m x) ∧
      ∀ i < m.count, (block.opened m c).modemState i = modemStatePowerOff := by
  have hempty : ({ block with held := fun _ => none } : ProxyTable).Owns m ∅ :=
    ⟨fun x hx => hx.elim, fun p r hp => by contradiction⟩
  have hslots : ∀ x ∈ m.persistentSlots, x ∈ m.slots := by
    intro x hx
    rw [m.slots_eq]
    exact .inl hx
  have hpersistent : (({ block with held := fun _ => none } : ProxyTable).getPersistentDbusProxy
      m c).Owns m {x | x ∈ m.persistentSlots} := by
    rw [getPersistentDbusProxy, proxyNew_eq_fillSlot, ← Set.empty_union {x | x ∈ m.persistentSlots}]
    refine hempty.fillSlots m.nodup_persistentSlots (fun x _ hx => hx.elim) ?_
    exact fresh_proxyFor (fun x hx => hslots x (List.mem_of_mem_filter hx))
      (fun x hx => of_decide_eq_true (List.mem_filter.mp hx).2) fun _ _ => rfl
  have hpersists : ∀ x ∈ m.persistentSlots, (({ block with held := fun _ => none } :
      ProxyTable).getPersistentDbusProxy m c).proxy x = c.proxyFor m x := by
    intro x hx
    rw [getPersistentDbusProxy, proxyNew_eq_fillSlot, fillSlots_proxy, if_pos hx]
    by_cases hnull : c.proxyFor m x = null <;> simp [hnull]
  obtain ⟨howns, hcreated, hkept, -⟩ :=
    hpersistent.getMutableDbusProxy hpersists (c.spares_self m)
  refine ⟨⟨howns.held, howns.owned⟩, hcreated, fun x hx => ?_, fun i hi => if_pos hi⟩
  exact (hkept x hx).trans (hpersists x hx)

/-- Closing releases every reference. -/
theorem Owns.closed (h : t.Owns m m.slots) :
    ∃ t', t.closed m = some t' ∧ ∀ p, t'.held p = none := by
  have hmem : ∀ x ∈ m.persistentSlots, x ∈ m.slots := by
    intro x hx
    rw [m.slots_eq]
    exact .inl hx
  obtain ⟨held, hunref, howns⟩ :=
    h.proxyUnrefs (Set.Subset.refl _) m.nodup_persistentSlots hmem
  have hrest : ∀ x ∈ m.mutableSlots, x ∈ m.slots \ {x | x ∈ m.persistentSlots} := by
    intro x hx
    rw [m.slots_eq]
    exact ⟨.inr hx, fun hx' => m.notMem_mutableSlots hx' hx⟩
  obtain ⟨t', hrelease, howns', -⟩ :=
    howns.releaseCells (fun x hx => hx.1) m.nodup_mutableSlots hrest
  refine ⟨t', ?_, fun p => ?_⟩
  · rw [ProxyTable.closed, releasePersistentDbusProxy, hunref]
    exact hrelease
  · cases hp : t'.held p with
    | none => rfl
    | some r =>
      obtain ⟨-, x, ⟨⟨hslots, hnot⟩, hnot'⟩, -⟩ := howns'.owned p r hp
      -- nothing is left in either part of the table
      rw [m.slots_eq] at hslots
      exact absurd hslots (not_or.mpr ⟨hnot, hnot'⟩)

end ProxyTable

/-! ## The watch -/

section Watch

variable {m : Modems} {t : ProxyTable}

/-- The proxy of a modem is found in its own row. -/
theorem getModemIdByProxy_eq (h : t.Owns m m.slots) {i : ℕ} (hi : i < m.count)
    (hne : t.proxy (.cell i .modem) ≠ null) :
    getModemIdByProxy m t (t.proxy (.cell i .modem)) = i := by
  have hrow : ∀ j < m.count, ((.modem :: mutableTypes).any fun type =>
      t.proxy (.cell j type) = t.proxy (.cell i .modem)) = true → j = i := by
    intro j hj hany
    obtain ⟨type, -, heq⟩ := List.any_eq_true.mp hany
    have hslot := h.eq_of_proxy_eq (Set.Subset.refl _) (x := .cell i .modem)
      (y := .cell j type) hi hj hne (of_decide_eq_true heq).symm
    exact (Slot.cell.inj hslot).1.symm
  rw [getModemIdByProxy, if_neg hne]
  cases hfind : (List.range m.count).find? fun j => (.modem :: mutableTypes).any fun type =>
      t.proxy (.cell j type) = t.proxy (.cell i .modem) with
  | none =>
    -- the row of the modem itself is one that is found
    have hnone := List.find?_eq_none.mp hfind i (List.mem_range.mpr hi)
    simp at hnone
  | some j =>
    have hmem := List.mem_range.mp (List.mem_of_find?_eq_some hfind)
    have hany := List.find?_some (p := fun j => (.modem :: mutableTypes).any fun type =>
      t.proxy (.cell j type) = t.proxy (.cell i .modem)) hfind
    exact hrow j hmem hany

/-- The state that a property change reports for a modem. -/
def PropertyChange.reports (e : PropertyChange m) (modem : ℕ) : Option ℤ :=
  if e.name = "ModemState" ∧ e.modem = modem then e.iter.getInt else none

/-- The last state that was reported for a modem. Before the first report it is powered off. -/
def lastReported (es : List (PropertyChange m)) (modem : ℕ) : ℤ :=
  es.foldl (fun state e => (e.reports modem).getD state) modemStatePowerOff

/-- A modem whose recorded state is `MODEM_STATE_AWARE` is reported alive. -/
def PropertyChange.Wakes (t : ProxyTable) (e : PropertyChange m) : Prop :=
  t.modemState e.modem = modemStateAware ∧ e.reports e.modem = some modemStateAlive

instance (e : PropertyChange m) : Decidable (e.Wakes t) := inferInstanceAs (Decidable (_ ∧ _))

/-- The cells that come and go are released and created again. -/
def ProxyTable.RefreshedBy (m : Modems) (c : Creation) (t t' : ProxyTable) : Prop :=
  ∃ released, t.releaseMutableDbusProxy m = some released ∧
    t'.proxy = (released.getMutableDbusProxy m c).proxy ∧
    t'.held = (released.getMutableDbusProxy m c).held

/-- What holds of a table that was opened with the proxies of `first` and whose cells were last
created by `c`. -/
structure ProxyTable.Kept (m : Modems) (t : ProxyTable) (first c : Creation) : Prop where
  owns : t.Owns m m.slots
  created : CreatedBy m c t
  persists : ∀ x ∈ m.persistentSlots, t.proxy x = first.proxyFor m x

/-- There is a proxy of the modem, and no proxy that is held is handed out for another slot. -/
def PropertyChange.Sound (m : Modems) (first : Creation) (e : PropertyChange m) : Prop :=
  first.proxyFor m (.cell e.modem .modem) ≠ null ∧ e.creation.Spares m first

variable {first c : Creation}

theorem ProxyTable.kept_opened (m : Modems) (c : Creation) (block : ProxyTable) :
    (block.opened m c).Kept m c c := by
  obtain ⟨howns, hcreated, hpersists, -⟩ := owns_opened m c block
  exact ⟨howns, hcreated, hpersists⟩

/-- The recorded states are not part of what is kept. -/
theorem ProxyTable.Kept.record (h : t.Kept m first c) (modemState : ℕ → ℤ) :
    ({ t with modemState := modemState } : ProxyTable).Kept m first c :=
  ⟨⟨h.owns.held, h.owns.owned⟩, h.created, h.persists⟩

/-- A refresh cannot fail, and leaves the manager and the modem column alone. -/
theorem ProxyTable.Kept.refresh (h : t.Kept m first c) {c' : Creation}
    (hspares : c'.Spares m first) :
    ∃ released, t.releaseMutableDbusProxy m = some released ∧
      (released.getMutableDbusProxy m c').Kept m first c' ∧
      (released.getMutableDbusProxy m c').modemState = t.modemState := by
  obtain ⟨released, hrelease, howns, -, hkept, hstate⟩ := h.owns.releaseMutableDbusProxy
  have hpersists : ∀ x ∈ m.persistentSlots, released.proxy x = first.proxyFor m x :=
    fun x hx => (hkept x hx).trans (h.persists x hx)
  obtain ⟨howns', hcreated, hkept', hstate'⟩ := howns.getMutableDbusProxy hpersists hspares
  exact ⟨released, hrelease,
    ⟨howns', hcreated, fun x hx => (hkept' x hx).trans (hpersists x hx)⟩, hstate'.trans hstate⟩

/-- A property change never fails. It refreshes the table exactly if it wakes a modem, and it
records what it reports. -/
theorem PropertyChange.step_eq (h : t.Kept m first c) {e : PropertyChange m}
    (hsound : e.Sound m first) :
    ∃ t', PropertyChange.step m t e = some (t', if e.Wakes t then [e.creation] else []) ∧
      t'.Kept m first (if e.Wakes t then e.creation else c) ∧
      (∀ i, t'.modemState i = (e.reports i).getD (t.modemState i)) ∧
      if e.Wakes t then t.RefreshedBy m e.creation t'
      else t'.proxy = t.proxy ∧ t'.held = t.held := by
  have hmodem := h.persists (.cell e.modem .modem)
    (m.mem_persistentSlots.mpr (.inr ⟨e.modem, e.modem.isLt, rfl⟩))
  have hid := getModemIdByProxy_eq h.owns e.modem.isLt (hmodem ▸ hsound.1)
  by_cases hname : e.name = "ModemState"
  · obtain ⟨newState, hnew⟩ := Option.isSome_iff_exists.mp (e.typed hname)
    have hreports : ∀ i, (e.reports i).getD (t.modemState i) =
        Function.update t.modemState e.modem newState i := by
      intro i
      by_cases hi : (e.modem : ℕ) = i
      · subst hi
        simp [PropertyChange.reports, hname, hnew]
      · rw [Function.update_of_ne (Ne.symm hi)]
        simp [PropertyChange.reports, hi]
    have hwakes : e.Wakes t ↔ t.modemState e.modem = modemStateAware ∧
        newState = modemStateAlive := by
      simp [PropertyChange.Wakes, PropertyChange.reports, hname, hnew]
    have hstep : PropertyChange.step m t e =
        (if e.Wakes t then
          (t.releaseMutableDbusProxy m).map fun t =>
            (t.getMutableDbusProxy m e.creation, [e.creation])
        else some (t, [])).map fun r =>
          ({ r.1 with modemState := Function.update r.1.modemState e.modem newState }, r.2) := by
      simp [PropertyChange.step, onModemPropertyChange, hname, hid, hnew, hwakes]
    by_cases hw : e.Wakes t
    · -- the table is refreshed before the new state is recorded
      obtain ⟨released, hrelease, hkept, hstate⟩ := h.refresh hsound.2
      rw [if_pos hw, hrelease] at hstep
      simp only [if_pos hw]
      refine ⟨_, hstep, hkept.record _, fun i => ?_, released, hrelease, rfl, rfl⟩
      rw [hreports i, hstate]
    · rw [if_neg hw] at hstep
      simp only [if_neg hw]
      exact ⟨_, hstep, h.record _, fun i => (hreports i).symm, rfl, rfl⟩
  · -- other properties are not looked at
    have hwakes : ¬ e.Wakes t := by simp [PropertyChange.Wakes, PropertyChange.reports, hname]
    refine ⟨t, ?_, ?_, fun i => by simp [PropertyChange.reports, hname], ?_⟩
    · simp [PropertyChange.step, onModemPropertyChange, hname, hwakes]
    · rw [if_neg hwakes]
      exact h
    · rw [if_neg hwakes]
      exact ⟨rfl, rfl⟩

/-- A run never fails, and keeps the table. -/
theorem PropertyChange.run_eq (h : t.Kept m first c) {es : List (PropertyChange m)}
    (hes : ∀ e ∈ es, e.Sound m first) :
    ∃ t' refreshes, run (PropertyChange.step m) t es = some (t', refreshes) ∧
      t'.Kept m first ((c :: refreshes).getLast (List.cons_ne_nil _ _)) ∧
      ∀ i, t'.modemState i =
        es.foldl (fun state e => (e.reports i).getD state) (t.modemState i) := by
  induction es generalizing t c with
  | nil => exact ⟨t, [], rfl, h, fun _ => rfl⟩
  | cons e es ih =>
    rw [List.forall_mem_cons] at hes
    obtain ⟨t₁, hstep, hkept, hstate, -⟩ := PropertyChange.step_eq h hes.1
    obtain ⟨t', refreshes, hrun, hkept', hstate'⟩ := ih hkept hes.2
    refine ⟨t', _, run_cons_eq_some_iff.mpr ⟨t₁, _, refreshes, hstep, hrun, rfl⟩, ?_, fun i => ?_⟩
    · by_cases hw : e.Wakes t
      · simpa only [if_pos hw, List.singleton_append, List.getLast_cons_cons] using hkept'
      · simpa only [if_neg hw, List.nil_append] using hkept'
    · rw [hstate' i, hstate i, List.foldl_cons]

/-- From `tapi_open` on, whatever the modems report: the modem column stays, each modem has the
state that it reported last, a cell is NULL exactly if its interface was not supported when the
cells were last created, or if the bus library had no proxy for it then, one reference is held for
each of the other cells, and `tapi_close` releases all of them. The next report refreshes the cells
exactly if it wakes a modem. -/
theorem proxiesKept (m : Modems) (first : Creation) (block : ProxyTable)
    (es : List (PropertyChange m)) (hes : ∀ e ∈ es, e.Sound m first) :
    ∃ t refreshes, run (PropertyChange.step m) (block.opened m first) es = some (t, refreshes) ∧
      (∀ i < m.count, t.proxy (.cell i .modem) = (block.opened m first).proxy (.cell i .modem)) ∧
      (∀ i < m.count, t.modemState i = lastReported es i) ∧
      (∀ i < m.count, ∀ type ≠ .modem, t.proxy (.cell i type) = null ↔
        ((first :: refreshes).getLast (List.cons_ne_nil _ _)).isInterfaceSupported type = false ∨
          ((first :: refreshes).getLast (List.cons_ne_nil _ _)).proxyFor m (.cell i type) = null) ∧
      t.Owns m m.slots ∧
      (∃ closed, t.closed m = some closed ∧ ∀ p, closed.held p = none) ∧
      ∀ e : PropertyChange m, e.Sound m first →
        ∃ t', PropertyChange.step m t e = some (t', if e.Wakes t then [e.creation] else []) ∧
          if e.Wakes t then t.RefreshedBy m e.creation t'
          else t'.proxy = t.proxy ∧ t'.held = t.held := by
  obtain ⟨t, refreshes, hrun, hkept, hstate⟩ :=
    PropertyChange.run_eq (ProxyTable.kept_opened m first block) hes
  obtain ⟨-, -, hopened, hstates⟩ := ProxyTable.owns_opened m first block
  refine ⟨t, refreshes, hrun, fun i hi => ?_, fun i hi => ?_, fun i hi type htype => ?_,
    hkept.owns, hkept.owns.closed, fun e he => ?_⟩
  · have hmem := m.mem_persistentSlots.mpr (.inr ⟨i, hi, rfl⟩)
    rw [hkept.persists _ hmem, hopened _ hmem]
  · rw [hstate i, hstates i hi, lastReported]
  · exact hkept.created _ (m.mem_mutableSlots.mpr ⟨i, hi, type, htype, rfl⟩)
  · obtain ⟨t', hstep, -, -, hrefreshed⟩ := PropertyChange.step_eq hkept he
    exact ⟨t', hstep, hrefreshed⟩

end Watch

/-! ## Samples -/

/-- The modems of a build for two. -/
def twoModemPaths : Modems where
  count := 2
  path i := if i = 0 then "/ril_0" else "/ril_1"
  managerPath := "/"
  distinct := by decide

/-- An address for each proxy of two modems. -/
def sampleAddress : String × Option ProxyType → ℕ
  | ("/", none) => 1
  | ("/ril_0", some type) => 2 + type.ctorIdx
  | ("/ril_1", some type) => 18 + type.ctorIdx
  | _ => 0

theorem ctorIdx_lt (type : ProxyType) : type.ctorIdx < 16 := by
  cases type <;> decide

theorem ctorIdx_injective : Function.Injective ProxyType.ctorIdx := by
  intro type type' hindex
  rw [← ProxyType.ofNat_ctorIdx type, hindex, ProxyType.ofNat_ctorIdx]

theorem sampleAddress_cases {a : String × Option ProxyType} (hne : sampleAddress a ≠ 0) :
    a = ("/", none) ∧ sampleAddress a = 1 ∨
      (∃ type, a = ("/ril_0", some type) ∧ sampleAddress a = 2 + type.ctorIdx) ∨
      ∃ type, a = ("/ril_1", some type) ∧ sampleAddress a = 18 + type.ctorIdx := by
  unfold sampleAddress at hne ⊢
  split at hne
  · exact .inl ⟨rfl, rfl⟩
  · exact .inr (.inl ⟨_, rfl, rfl⟩)
  · exact .inr (.inr ⟨_, rfl, rfl⟩)
  · contradiction

theorem sampleAddress_apart {a b : String × Option ProxyType} (hne : sampleAddress a ≠ 0)
    (h : sampleAddress a = sampleAddress b) : a = b := by
  have hne' : sampleAddress b ≠ 0 := h ▸ hne
  -- the addresses tell the manager, the modem and the interface
  obtain ⟨ha, heq⟩ | ⟨type, ha, heq⟩ | ⟨type, ha, heq⟩ := sampleAddress_cases hne <;>
    obtain ⟨hb, heq'⟩ | ⟨type', hb, heq'⟩ | ⟨type', hb, heq'⟩ := sampleAddress_cases hne'
  case inl.inl => rw [ha, hb]
  case inr.inl.inr.inl | inr.inr.inr.inr =>
    have htype : type = type' := ctorIdx_injective (by omega)
    rw [ha, hb, htype]
  case inr.inl.inr.inr | inr.inr.inr.inl =>
    have h₁ := ctorIdx_lt type
    have h₂ := ctorIdx_lt type'
    omega
  all_goals omega

/-- A bus library that has no memory for the proxies that it refuses. -/
def sampleCreation (refused : String × Option ProxyType → Bool) (supported : ProxyType → Bool) :
    Creation where
  proxyNew a := if refused a then null else sampleAddress a
  apart a b hne h := by
    split_ifs at hne h
    · contradiction
    · contradiction
    · contradiction
    · exact sampleAddress_apart hne h
  isInterfaceSupported := supported

/-- There is memory for all proxies but one. -/
def withoutMemoryFor (path : String) (type : ProxyType) (supported : ProxyType → Bool) : Creation :=
  sampleCreation (fun a => decide (a = (path, some type))) supported

def emptyTable : ProxyTable := ⟨fun _ => null, fun _ => 0, fun _ => none⟩

/-- Without memory for one proxy, its cell is NULL although its interface is supported. -/
theorem not_nullExactlyUnsupported_withoutMemory :
    ¬ ∀ i < twoModemPaths.count, ∀ type ≠ .modem,
      ((emptyTable.opened twoModemPaths
          (withoutMemoryFor "/ril_0" .radio fun _ => true)).proxy (.cell i type) = null ↔
        (withoutMemoryFor "/ril_0" .radio fun _ => true).isInterfaceSupported type = false) := by
  intro h
  have hcreated := (ProxyTable.owns_opened twoModemPaths
    (withoutMemoryFor "/ril_0" .radio fun _ => true) emptyTable).2.1
  have hnull := (hcreated (.cell 0 .radio) (by decide)).mpr (.inr (by decide))
  have hunsupported : true = false := (h 0 (by decide) .radio (by decide)).mp hnull
  contradiction

/-- The second modem is aware, and a property of the first one changes. -/
def sampleChanges : List (PropertyChange twoModemPaths) :=
  [⟨⟨1, by decide⟩, "ModemState", [.fixed .int32 modemStateAware], fun _ => rfl,
      sampleCreation (fun _ => false) fun _ => true⟩,
    ⟨⟨0, by decide⟩, "Online", [.boolean 1], fun h => by contradiction,
      sampleCreation (fun _ => false) fun _ => true⟩]

/-- The second modem is alive, when the calls have been switched off, and there is no memory for the
messages of the first modem. -/
def sampleWaking : PropertyChange twoModemPaths :=
  ⟨⟨1, by decide⟩, "ModemState", [.fixed .int32 modemStateAlive], fun _ => rfl,
    withoutMemoryFor "/ril_0" .sms (· ≠ .call)⟩

theorem spares_sampleCreation (refused : String × Option ProxyType → Bool)
    (supported : ProxyType → Bool) : (sampleCreation refused supported).Spares twoModemPaths
      (sampleCreation (fun _ => false) fun _ => true) := by
  intro x hx y hy hne heq
  have hy' : (sampleCreation refused supported).proxyFor twoModemPaths y =
      sampleAddress (twoModemPaths.proxyOf y) := by
    rw [Creation.proxyFor, sampleCreation] at hne ⊢
    dsimp only at hne ⊢
    split_ifs at hne ⊢
    · contradiction
    · rfl
  rw [hy'] at hne heq
  have hproxy := sampleAddress_apart hne heq.symm
  have hslots : y ∈ twoModemPaths.slots ∧ x ∈ twoModemPaths.slots := by
    rw [Modems.slots_eq]
    exact ⟨.inr hy, .inl hx⟩
  obtain rfl := twoModemPaths.proxyOf_injOn hslots.1 hslots.2 hproxy
  exact twoModemPaths.notMem_mutableSlots hx hy

/-- The cells are released and created again when the second modem wakes up. -/
theorem proxiesKept_sampleChanges :
    ∃ t refreshes t', run (PropertyChange.step twoModemPaths)
        (emptyTable.opened twoModemPaths (sampleCreation (fun _ => false) fun _ => true))
        sampleChanges = some (t, refreshes) ∧
      t.modemState 1 = modemStateAware ∧ t.Owns twoModemPaths twoModemPaths.slots ∧
      PropertyChange.step twoModemPaths t sampleWaking =
        some (t', [withoutMemoryFor "/ril_0" .sms (· ≠ .call)]) ∧
      t.RefreshedBy twoModemPaths (withoutMemoryFor "/ril_0" .sms (· ≠ .call)) t' := by
  have hes : ∀ e ∈ sampleChanges,
      e.Sound twoModemPaths (sampleCreation (fun _ => false) fun _ => true) := by
    simp only [sampleChanges, List.forall_mem_cons]
    exact ⟨⟨by decide, spares_sampleCreation _ _⟩, ⟨by decide, spares_sampleCreation _ _⟩, nofun⟩
  obtain ⟨t, refreshes, hrun, -, hstates, -, howns, -, hnext⟩ :=
    proxiesKept twoModemPaths (sampleCreation (fun _ => false) fun _ => true) emptyTable
      sampleChanges hes
  have hstate : t.modemState 1 = modemStateAware := hstates 1 (by decide)
  obtain ⟨t', hstep, hrefreshed⟩ := hnext sampleWaking ⟨by decide, spares_sampleCreation _ _⟩
  have hwakes : sampleWaking.Wakes t := ⟨hstate, rfl⟩
  rw [if_pos hwakes] at hstep hrefreshed
  exact ⟨t, refreshes, t', hrun, hstate, howns, hstep, hrefreshed⟩

end Telephony.Manager
