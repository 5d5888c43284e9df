import Telephony.Client

/-!
# References to proxies

The library holds a reference to each proxy of the table. When a modem wakes up, the references of
the cells are released and others are taken; requests use the proxies in between, and closing the
connection releases what is left.

## Main definitions

* `Telephony.Manager.Occurrence` — what happens between opening and closing
* `Telephony.Manager.occur` — what the library does then; it is undefined to use or to release a
  proxy without a reference to it
* `Telephony.Manager.DistinctFilling` — what the bus library promises about the proxies it makes

## Main results

* `Telephony.Manager.Referenced.handle` — a change of a modem is handled, with the table that the
  context has then
* `Telephony.Manager.Referenced.held_object` — each proxy is held for the object of its slot
* `Telephony.Manager.references_kept` — nothing is used or released without a reference, and
  everything is released in the end
-/

namespace Telephony.Manager

open DBus Ledger Machine

/-! ## Filling the table -/

namespace Filling

/-- The proxy that the bus library makes for a slot. -/
def proxyFor (env : OpenEnv) (f : Filling) : Slot → Ptr
  | .manager => env.managerProxy
  | .cell modem type => f.newProxy modem type

/-- The library asks for a proxy for the slot. -/
def supports (bits : ℕ) (f : Filling) : Slot → Bool
  | .manager => true
  | .cell _ type => isInterfaceSupported bits f.getenv type

end Filling

namespace ProxyTable

/-- `get_persistent_dbus_proxy`, with references. -/
def fillPersistent (m : Modems) (env : OpenEnv) (f : Filling) (t : ProxyTable) : ProxyTable :=
  m.persistentSlots.foldl (takeProxy m (f.proxyFor env)) t

/-- `get_mutable_dbus_proxy`, with references. -/
def fillMutable (m : Modems) (bits : ℕ) (env : OpenEnv) (f : Filling) (t : ProxyTable) :
    ProxyTable :=
  m.mutableSlots.foldl (fillSlot m (f.proxyFor env) (f.supports bits)) t

/-- The table in the block of a context. No reference is held yet. -/
def ofBlock (block : DbusContext) : ProxyTable where
  proxy := block.proxyAt
  modemState := block.modemState
  held _ := none

/-- The part of `tapi_open` that fills the table, with references. -/
def filledBy (m : Modems) (bits : ℕ) (env : OpenEnv) (f : Filling) (block : DbusContext) :
    ProxyTable :=
  let t := ((ofBlock block).fillPersistent m env f).fillMutable m bits env f
  { t with
    modemState := fun i => if i < m.count then modemStatePowerOff else t.modemState i }

/-- A context, with this table. -/
def onto (t : ProxyTable) (ctx : DbusContext) : DbusContext :=
  { ctx with
    dbusProxyManager := t.proxy .manager
    dbusProxy := fun modem type => t.proxy (.cell modem type)
    modemState := t.modemState }

@[simp] theorem proxyAt_onto (t : ProxyTable) (ctx : DbusContext) :
    (t.onto ctx).proxyAt = t.proxy := by
  funext x
  cases x <;> rfl

end ProxyTable

/-! ## Occurrences -/

/-- `on_modem_property_change`, with references. -/
def ModemChange.handle (m : Modems) (bits : ℕ) (env : OpenEnv) (e : ModemChange)
    (t : ProxyTable) : Option ProxyTable :=
  if e.name ≠ "ModemState" then some t
  else
    let modemId := getModemIdByProxy m t (t.proxy (.cell e.modem .modem))
    e.iter.getInt.bind fun newState =>
      let refreshed :=
        if t.modemState modemId = modemStateAware ∧ newState = modemStateAlive then
          (t.releaseMutableDbusProxy m).map (·.fillMutable m bits env e.filling)
        else some t
      refreshed.map fun t =>
        { t with modemState := Function.update t.modemState modemId newState }

/-- What happens while a context is open: a request with a context that has the table, and the
memory that there is for it, or a change of a modem. -/
inductive Occurrence
  | request (r : Request) (c : Caller) (granted : Block → Bool)
  | changed (e : ModemChange)

/-- What the library does, with the proxies that it uses. -/
def occur (m : Modems) (bits : ℕ) (env : OpenEnv) : Machine.Step ProxyTable Occurrence Ptr
  | t, .request r c granted =>
    (r.submit { c with context := c.context.map t.onto }).bind fun
      | .ok s =>
        if (acquire granted s.steps).2 = none then (t.held s.proxy).map fun _ => (t, [s.proxy])
        else some (t, [])
      | .error _ => some (t, [])
  | t, .changed e => (e.handle m bits env t).map fun t => (t, [])

/-! ## Lifetimes -/

section

variable {m : Modems} {cfg : Config} {bits : ℕ} {env : OpenEnv} {first f : Filling}
  {t t' : ProxyTable} {e : ModemChange} {o : Occurrence} {os : List Occurrence}

/-- What the bus library promises: the proxies of a filling are all different, and none is that of
the manager. -/
structure DistinctFilling (cfg : Config) (env : OpenEnv) (first f : Filling) : Prop
    extends LawfulFilling cfg first f where
  type_apart : ∀ i < cfg.modemActiveCount, ∀ type type',
    f.newProxy i type = f.newProxy i type' → type = type'
  manager_apart : ∀ i < cfg.modemActiveCount, ∀ type, f.newProxy i type ≠ env.managerProxy

/-- The request is made in the build, with a context. The change is one that can be handled, and a
filling at the time gets proxies that are different. -/
def Occurrence.Sound (cfg : Config) (env : OpenEnv) (first : Filling) : Occurrence → Prop
  | .request _ c _ => c.cfg = cfg ∧ c.context.isSome = true
  | .changed e => e.Sound cfg ∧ DistinctFilling cfg env first e.filling

/-- The changes among what happens. -/
def changes (os : List Occurrence) : List ModemChange :=
  os.filterMap fun
    | .request _ _ _ => none
    | .changed e => some e

/-- A reference is held for each proxy of the table, and the manager and the modems have the
proxies that they got first. -/
structure Referenced (m : Modems) (env : OpenEnv) (first : Filling) (t : ProxyTable) : Prop where
  owns : t.Owns m m.slots
  persists : ∀ x ∈ m.persistentSlots, t.proxy x = first.proxyFor env x

theorem fresh_persistent (hcount : m.count = cfg.modemActiveCount)
    (hmanager : env.managerProxy ≠ null) (hfirst : DistinctFilling cfg env first first)
    (block : DbusContext) :
    (ProxyTable.ofBlock block).Fresh m.persistentSlots (first.proxyFor env) := by
  constructor
  · intro x hx
    rw [Modems.mem_persistentSlots, hcount] at hx
    obtain rfl | ⟨i, hi, rfl⟩ := hx
    · exact hmanager
    · exact hfirst.ne_null i hi .modem
  · exact fun _ _ => rfl
  · intro x hx y hy heq
    rw [Modems.mem_persistentSlots, hcount] at hx hy
    obtain rfl | ⟨i, hi, rfl⟩ := hx
    · obtain rfl | ⟨j, hj, rfl⟩ := hy
      · rfl
      · exact absurd heq.symm (hfirst.manager_apart j hj .modem)
    · obtain rfl | ⟨j, hj, rfl⟩ := hy
      · exact absurd heq (hfirst.manager_apart i hi .modem)
      · rw [hfirst.apart i hi j hj .modem .modem heq]

/-- What a filling makes for the cells is not among the proxies that stay. -/
theorem fresh_mutable (hcount : m.count = cfg.modemActiveCount)
    (hf : DistinctFilling cfg env first f) (howns : t.Owns m {x | x ∈ m.persistentSlots})
    (hpersists : ∀ x ∈ m.persistentSlots, t.proxy x = first.proxyFor env x) :
    t.Fresh m.mutableSlots (f.proxyFor env) := by
  simp only [Modems.mem_persistentSlots, hcount] at howns hpersists
  constructor
  · intro x hx
    rw [Modems.mem_mutableSlots, hcount] at hx
    obtain ⟨i, hi, type, -, rfl⟩ := hx
    exact hf.ne_null i hi type
  · intro x hx
    rw [Modems.mem_mutableSlots, hcount] at hx
    obtain ⟨i, hi, type, htype, rfl⟩ := hx
    -- what is held is the proxy of the manager or of a modem
    rw [Option.eq_none_iff_forall_ne_some]
    intro r hr
    obtain ⟨-, y, hy, hproxy⟩ := howns.owned _ r hr
    rw [hpersists y hy] at hproxy
    obtain rfl | ⟨j, hj, rfl⟩ := hy
    · exact hf.manager_apart i hi type hproxy.symm
    · exact hf.modem_apart j hj i hi type htype hproxy.symm
  · intro x hx y hy heq
    rw [Modems.mem_mutableSlots, hcount] at hx hy
    obtain ⟨i, hi, type, -, rfl⟩ := hx
    obtain ⟨j, hj, type', -, rfl⟩ := hy
    obtain rfl := hf.apart i hi j hj type type' heq
    rw [hf.type_apart i hi type type' heq]

/-- Filling the cells takes a reference for each proxy. -/
theorem referenced_fillMutable (bits : ℕ) (hcount : m.count = cfg.modemActiveCount)
    (hf : DistinctFilling cfg env first f) (howns : t.Owns m {x | x ∈ m.persistentSlots})
    (hpersists : ∀ x ∈ m.persistentSlots, t.proxy x = first.proxyFor env x) :
    Referenced m env first (t.fillMutable m bits env f) := by
  constructor
  · rw [m.slots_eq]
    exact howns.fillSlots m.nodup_mutableSlots (fun x hx hx' => m.notMem_mutableSlots hx' hx)
      ((fresh_mutable hcount hf howns hpersists).filter _)
  · intro x hx
    rw [ProxyTable.fillMutable, ProxyTable.fillSlots_proxy, if_neg (m.notMem_mutableSlots hx)]
    exact hpersists x hx

/-- Opening takes a reference for each proxy. -/
theorem referenced_filledBy (bits : ℕ) (hcount : m.count = cfg.modemActiveCount)
    (hmanager : env.managerProxy ≠ null) (hfirst : DistinctFilling cfg env first first)
    (block : DbusContext) : Referenced m env first (.filledBy m bits env first block) := by
  have hempty : (ProxyTable.ofBlock block).Owns m ∅ :=
    ⟨fun _ hx => hx.elim, fun _ _ hp => by contradiction⟩
  have howns : ((ProxyTable.ofBlock block).fillPersistent m env first).Owns m
      {x | x ∈ m.persistentSlots} := by
    rw [ProxyTable.fillPersistent, ProxyTable.takeProxy_eq_fillSlot,
      ← Set.empty_union {x | x ∈ m.persistentSlots}]
    exact hempty.fillSlots m.nodup_persistentSlots (fun _ _ hx => hx.elim)
      ((fresh_persistent hcount hmanager hfirst block).filter _)
  have hpersists : ∀ x ∈ m.persistentSlots,
      ((ProxyTable.ofBlock block).fillPersistent m env first).proxy x = first.proxyFor env x := by
    intro x hx
    rw [ProxyTable.fillPersistent, ProxyTable.takeProxy_eq_fillSlot, ProxyTable.fillSlots_proxy,
      if_pos hx, if_pos rfl]
  obtain ⟨hslots, hkept⟩ := referenced_fillMutable bits hcount hfirst howns hpersists
  exact ⟨⟨hslots.held, hslots.owned⟩, hkept⟩

/-- Filling the table again releases the references of the cells, and takes others. -/
theorem Referenced.refill (h : Referenced m env first t) (bits : ℕ)
    (hcount : m.count = cfg.modemActiveCount) (hf : DistinctFilling cfg env first f) :
    ∃ released, t.releaseMutableDbusProxy m = some released ∧
      (∀ y, released.proxy y = if y ∈ m.mutableSlots then null else t.proxy y) ∧
      released.modemState = t.modemState ∧
      Referenced m env first (released.fillMutable m bits env f) := by
  have hmem : ∀ x ∈ m.mutableSlots, x ∈ m.slots := by
    intro x hx
    rw [m.slots_eq]
    exact .inr hx
  obtain ⟨released, hrelease, howns, -, hpersists, hstate⟩ := h.owns.releaseMutableDbusProxy
  obtain ⟨released', hrelease', -, hnull, hkept, -⟩ :=
    h.owns.releaseCells (Set.Subset.refl _) m.nodup_mutableSlots hmem
  obtain rfl := Option.some_inj.mp (hrelease.symm.trans hrelease')
  refine ⟨released, hrelease, fun y => ?_, hstate, ?_⟩
  · by_cases hy : y ∈ m.mutableSlots
    · rw [if_pos hy, hnull y hy]
    · rw [if_neg hy, hkept y hy]
  · refine referenced_fillMutable bits hcount hf howns fun x hx => ?_
    rw [hpersists x hx, h.persists x hx]

theorem manager_notMem_mutableSlots : Slot.manager ∉ m.mutableSlots := by
  simp [Modems.mem_mutableSlots]

theorem cell_mem_mutableSlots_iff {i : ℕ} {type : ProxyType} :
    Slot.cell i type ∈ m.mutableSlots ↔ i < m.count ∧ type ≠ .modem := by
  rw [Modems.mem_mutableSlots]
  constructor
  · rintro ⟨j, hj, type', htype, heq⟩
    obtain ⟨rfl, rfl⟩ := Slot.cell.inj heq
    exact ⟨hj, htype⟩
  · rintro ⟨hi, htype⟩
    exact ⟨i, hi, type, htype, rfl⟩

theorem cell_mem_persistentSlots_iff {i : ℕ} {type : ProxyType} :
    Slot.cell i type ∈ m.persistentSlots ↔ i < m.count ∧ type = .modem := by
  rw [Modems.mem_persistentSlots]
  constructor
  · rintro (hmanager | ⟨j, hj, heq⟩)
    · contradiction
    · obtain ⟨rfl, rfl⟩ := Slot.cell.inj heq
      exact ⟨hj, rfl⟩
  · rintro ⟨hi, rfl⟩
    exact .inr ⟨i, hi, rfl⟩

/-- The context has the table that has been filled again. -/
theorem onto_refill (bits : ℕ) (env : OpenEnv) (f : Filling)
    (hcount : m.count = cfg.modemActiveCount) (ctx : DbusContext)
    (hproxy : ∀ y, t'.proxy y = if y ∈ m.mutableSlots then null else t.proxy y)
    (hstate : t'.modemState = t.modemState) :
    ((t.onto ctx).releaseMutableDbusProxy cfg).getMutableDbusProxy cfg bits env f =
      (t'.fillMutable m bits env f).onto ctx := by
  simp only [ProxyTable.onto, DbusContext.releaseMutableDbusProxy, DbusContext.getMutableDbusProxy,
    getMutableDbusProxy, ProxyTable.fillMutable, ProxyTable.fillSlots_proxy,
    ProxyTable.fillSlots_modemState, hproxy, hstate, manager_notMem_mutableSlots,
    cell_mem_mutableSlots_iff, hcount, reduceIte]
  rfl

/-- A change of a modem is handled, and leaves the table that the context has then. -/
theorem Referenced.handle (h : Referenced m env first t) (bits : ℕ)
    (hcount : m.count = cfg.modemActiveCount)
    (hsound : (Occurrence.changed e).Sound cfg env first) (ctx : DbusContext) :
    ∃ t' refilled, e.handle m bits env t = some t' ∧ Referenced m env first t' ∧
      DbusContext.changed cfg bits env (t.onto ctx) e = some (t'.onto ctx, refilled) := by
  obtain ⟨⟨-, htyped⟩, hf⟩ := hsound
  -- the context and the table of references agree on the modem
  have hid : (t.onto ctx).getModemIdByProxy cfg (t.proxy (.cell e.modem .modem)) =
      getModemIdByProxy m t (t.proxy (.cell e.modem .modem)) := by
    rw [DbusContext.getModemIdByProxy, getModemIdByProxy, hcount]
    rfl
  by_cases hname : e.name = "ModemState"
  · obtain ⟨newState, hnew⟩ := Option.isSome_iff_exists.mp (htyped hname)
    have hchanged : DbusContext.changed cfg bits env (t.onto ctx) e =
        (t.onto ctx).onModemPropertyChange cfg bits env e.filling (t.proxy (.cell e.modem .modem))
          e.name e.iter := rfl
    rw [hchanged]
    simp only [ModemChange.handle, DbusContext.onModemPropertyChange, hname, ne_eq,
      not_true_eq_false, reduceIte, hnew, Option.map_some, Option.bind_some, hid]
    generalize getModemIdByProxy m t (t.proxy (.cell e.modem .modem)) = modemId
    have hstate : (t.onto ctx).modemState = t.modemState := rfl
    rw [hstate]
    by_cases hwakes : t.modemState modemId = modemStateAware ∧ newState = modemStateAlive
    · obtain ⟨released, hrelease, hproxy, hreleased, hrefilled⟩ := h.refill bits hcount hf
      have honto := onto_refill bits env e.filling hcount ctx hproxy hreleased
      simp only [if_pos hwakes, hrelease, Option.map_some, honto]
      exact ⟨_, _, rfl, ⟨⟨hrefilled.owns.held, hrefilled.owns.owned⟩, hrefilled.persists⟩, rfl⟩
    · simp only [if_neg hwakes, Option.map_some]
      exact ⟨_, _, rfl, ⟨⟨h.owns.held, h.owns.owned⟩, h.persists⟩, rfl⟩
  · exact ⟨t, [], if_pos hname, h, if_pos hname⟩

/-- With a context, each request either is refused or hands something over. -/
theorem submit_ne_none {r : Request} {c : Caller} {ctx : DbusContext}
    (hcontext : c.context = some ctx) : r.submit c ≠ none := by
  cases r with
  | queryModemList =>
    have hsubmit : Request.queryModemList.submit c =
        tapiQueryModemList (some ctx) c.eventId c.pHandle :=
      congrArg (fun context => tapiQueryModemList context c.eventId c.pHandle) hcontext
    rw [hsubmit]
    exact Option.some_ne_none _
  | _ => exact Option.some_ne_none _

/-- A request that is submitted uses a proxy to which there is a reference. -/
theorem Referenced.held_of_submits (h : Referenced m env first t)
    (hcount : m.count = cfg.modemActiveCount) {r : Request} {c : Caller} {ctx : DbusContext}
    {s : Submission} (hcfg : c.cfg = cfg) (hcontext : c.context = some (t.onto ctx))
    (hs : r.Submits c s) : (t.held s.proxy).isSome = true := by
  obtain ⟨hproxy, hne, hslot⟩ := (Request.placed hcontext r).proxy s hs
  rw [ProxyTable.proxyAt_onto] at hproxy
  have hmem : r.target c ∈ m.slots := by
    rw [Request.target]
    cases hinterface : r.interface with
    | none => exact trivial
    | some type =>
      have hvalid := hslot (by simp [hinterface])
      rw [hcfg] at hvalid
      have hlt := Request.toNat_lt_of_isValidSlotid hvalid
      rw [← hcount] at hlt
      exact hlt
  rw [hproxy] at hne ⊢
  rw [h.owns.held _ hmem hne]
  rfl

/-- Whatever happens, nothing is used or released without a reference to it. -/
theorem Referenced.occur (h : Referenced m env first t) (bits : ℕ)
    (hcount : m.count = cfg.modemActiveCount) (hsound : o.Sound cfg env first) (ctx : DbusContext) :
    ∃ t' used refilled, occur m bits env t o = some (t', used) ∧ Referenced m env first t' ∧
      ∀ os, run (DbusContext.changed cfg bits env) (t.onto ctx) (changes (o :: os)) =
        (run (DbusContext.changed cfg bits env) (t'.onto ctx) (changes os)).map fun q =>
          (q.1, refilled ++ q.2) := by
  cases o with
  | changed e =>
    obtain ⟨t', refilled, hhandle, hreferenced, honto⟩ := h.handle bits hcount hsound ctx
    refine ⟨t', [], refilled, ?_, hreferenced, fun os => ?_⟩
    · rw [Manager.occur, hhandle, Option.map_some]
    · have hchanges : changes (.changed e :: os) = e :: changes os := rfl
      rw [hchanges, run, honto, Option.bind_some]
  | request r c granted =>
    obtain ⟨hcfg, hcontext⟩ := hsound
    obtain ⟨base, hbase⟩ := Option.isSome_iff_exists.mp hcontext
    have hgiven : c.context.map t.onto = some (t.onto base) := by rw [hbase, Option.map_some]
    -- a request leaves the table, so it is only to be shown that it can be made
    suffices hused : ∃ used, Manager.occur m bits env t (.request r c granted) = some (t, used) by
      obtain ⟨used, hused⟩ := hused
      exact ⟨t, used, [], hused, h, fun os => Option.map_id_apply.symm⟩
    rw [Manager.occur]
    cases hsubmit : r.submit { c with context := c.context.map t.onto } with
    | none => exact absurd hsubmit (submit_ne_none hgiven)
    | some result =>
      rw [Option.bind_some]
      cases result with
      | error code => exact ⟨[], rfl⟩
      | ok s =>
        by_cases hacquired : (acquire granted s.steps).2 = none
        -- what passes with the memory that is granted passes with any
        · have hs : r.Submits { c with context := c.context.map t.onto } s := by
            refine ⟨hsubmit, acquire_eq_none_iff.mpr fun step hstep => ?_⟩
            have hsucceeds := acquire_eq_none_iff.mp hacquired step hstep
            cases step with
            | alloc b cleanup code => rfl
            | copy b => trivial
            | check holds cleanup code => exact hsucceeds
          have hheld := h.held_of_submits (c := { c with context := c.context.map t.onto }) hcount
            hcfg hgiven hs
          obtain ⟨ref, href⟩ := Option.isSome_iff_exists.mp hheld
          refine ⟨[s.proxy], ?_⟩
          simp only [if_pos hacquired, href, Option.map_some]
        · refine ⟨[], ?_⟩
          simp only [if_neg hacquired]

/-- A run comes to its end. -/
theorem Referenced.run_occur (h : Referenced m env first t) (bits : ℕ)
    (hcount : m.count = cfg.modemActiveCount) (hos : ∀ o ∈ os, o.Sound cfg env first)
    (ctx : DbusContext) :
    ∃ t' used refilled, run (Manager.occur m bits env) t os = some (t', used) ∧
      Referenced m env first t' ∧
      run (DbusContext.changed cfg bits env) (t.onto ctx) (changes os) =
        some (t'.onto ctx, refilled) := by
  induction os generalizing t with
  | nil => exact ⟨t, [], [], rfl, h, rfl⟩
  | cons o os ih =>
    rw [List.forall_mem_cons] at hos
    obtain ⟨t₁, used, refilled, hoccur, hreferenced, honto⟩ := h.occur bits hcount hos.1 ctx
    obtain ⟨t', used', refilled', hrun, hreferenced', honto'⟩ := ih hreferenced hos.2
    refine ⟨t', _, refilled ++ refilled',
      run_cons_eq_some_iff.mpr ⟨t₁, used, used', hoccur, hrun, rfl⟩, hreferenced', ?_⟩
    rw [honto, honto', Option.map_some]

/-- The table of an opened context is the one that has been filled. -/
theorem onto_filledBy {clientName : String} {block ctx : DbusContext}
    (hcount : m.count = cfg.modemActiveCount) (hblock : env.context = some block)
    (hopen : tapiOpen cfg clientName
      { env with
        isInterfaceSupported := isInterfaceSupported bits first.getenv
        newProxy := first.newProxy } = some ctx) :
    (ProxyTable.filledBy m bits env first block).onto ctx = ctx := by
  unfold tapiOpen at hopen
  simp only [hblock] at hopen
  split at hopen
  · contradiction
  · obtain rfl := Option.some_inj.mp hopen
    have hmanager : Slot.manager ∈ m.persistentSlots := List.mem_cons_self
    simp only [ProxyTable.onto, ProxyTable.filledBy, ProxyTable.fillMutable,
      ProxyTable.fillPersistent, ProxyTable.takeProxy_eq_fillSlot, ProxyTable.fillSlots_proxy,
      ProxyTable.fillSlots_modemState, getMutableDbusProxy, getPersistentDbusProxy,
      manager_notMem_mutableSlots, hmanager, cell_mem_mutableSlots_iff,
      cell_mem_persistentSlots_iff, hcount, reduceIte]
    rfl

/-- The proxy in a slot is held for the object of the slot. -/
theorem Referenced.held_object {s : Slot} (h : Referenced m env first t)
    (hcount : m.count = cfg.modemActiveCount) (hpath : ∀ i, m.path i = modemPath cfg i)
    (hmanager : m.managerPath = cfg.managerPath) (hs : s ∈ slotsOf cfg)
    (hne : t.proxy s ≠ null) :
    (t.held (t.proxy s)).map Reference.proxy = some (s.object cfg) := by
  cases s with
  | manager =>
    rw [h.owns.held .manager trivial hne, Option.map_some, Modems.proxyOf, hmanager]
    rfl
  | cell i type =>
    have hslot : Slot.cell i type ∈ m.slots := show i < m.count from hcount ▸ mem_slotsOf_cell.mp hs
    rw [h.owns.held _ hslot hne, Option.map_some, Modems.proxyOf, hpath]
    rfl

/-- From `tapi_open` on, whatever requests are made and whatever the modems report: the table is the
one of the context, no request uses a proxy and no filling releases one without a reference to it,
there is one reference for each proxy of the table, and `tapi_close` releases all of them. -/
theorem references_kept {clientName : String} {block ctx₀ : DbusContext}
    (hcount : m.count = cfg.modemActiveCount) (hblock : env.context = some block)
    (hopen : tapiOpen cfg clientName
      { env with
        isInterfaceSupported := isInterfaceSupported bits first.getenv
        newProxy := first.newProxy } = some ctx₀)
    (hmanager : env.managerProxy ≠ null) (hfirst : DistinctFilling cfg env first first)
    (hos : ∀ o ∈ os, o.Sound cfg env first) :
    ∃ t used refilled,
      run (occur m bits env) (.filledBy m bits env first block) os = some (t, used) ∧
      run (DbusContext.changed cfg bits env) ctx₀ (changes os) = some (t.onto ctx₀, refilled) ∧
      t.Owns m m.slots ∧ ∃ closed, t.closed m = some closed ∧ ∀ p, closed.held p = none := by
  have hreferenced := referenced_filledBy bits hcount hmanager hfirst block
  obtain ⟨t, used, refilled, hrun, hkept, honto⟩ :=
    hreferenced.run_occur bits hcount hos ctx₀
  rw [onto_filledBy hcount hblock hopen] at honto
  exact ⟨t, used, refilled, hrun, honto, hkept.owns, hkept.owns.closed⟩

end

/-! ## Switching off a proxy in use -/

/-- The calls are asked for before and behind a change that switches them off. -/
def sampleOccurrences : List Occurrence :=
  [.request .getAllCalls ⟨twoModems, some idleContext, 1, 0, 1, none⟩ fun _ => true,
    .changed ⟨0, "ModemState", [.fixed .int32 modemStateAware], Request.withEverything⟩,
    .changed ⟨0, "ModemState", [.fixed .int32 modemStateAlive],
      Request.samplePlaces Request.withoutCalls⟩,
    .request .getAllCalls ⟨twoModems, some idleContext, 1, 0, 1, none⟩ fun _ => true,
    .request .scan ⟨twoModems, some idleContext, 1, 0, 1, none⟩ fun _ => true]

theorem distinctFilling_samplePlaces (getenv getenv' : Environment) :
    DistinctFilling twoModems Request.openPlaces (Request.samplePlaces getenv)
      (Request.samplePlaces getenv') := by
  refine ⟨Request.lawfulFilling_samplePlaces _ _, fun i _ type type' h => ?_, fun i _ type h => ?_⟩
  · have hplaces : 2 + 16 * i + type.ctorIdx = 2 + 16 * i + type'.ctorIdx := h
    exact ctorIdx_injective (by omega)
  · have hplace : 2 + 16 * i + type.ctorIdx = 1 := h
    omega

theorem references_sampleOccurrences :
    ∃ ctx₀ t used refilled,
      run (occur twoModemPaths 64 Request.openPlaces)
        (.filledBy twoModemPaths 64 Request.openPlaces Request.withEverything idleContext)
        sampleOccurrences = some (t, used) ∧
      run (DbusContext.changed twoModems 64 Request.openPlaces) ctx₀ (changes sampleOccurrences) =
        some (t.onto ctx₀, refilled) ∧
      t.Owns twoModemPaths twoModemPaths.slots ∧
      ∃ closed, t.closed twoModemPaths = some closed ∧ ∀ p, closed.held p = none := by
  have hopen : ∃ ctx₀, tapiOpen twoModems "app"
      { Request.openPlaces with
        isInterfaceSupported := isInterfaceSupported 64 Request.withEverything.getenv
        newProxy := Request.withEverything.newProxy } = some ctx₀ := ⟨_, rfl⟩
  obtain ⟨ctx₀, hopen⟩ := hopen
  have hos : ∀ o ∈ sampleOccurrences,
      o.Sound twoModems Request.openPlaces Request.withEverything := by
    simp only [sampleOccurrences, List.forall_mem_cons]
    refine ⟨⟨rfl, rfl⟩, ⟨⟨by decide, fun _ => rfl⟩, distinctFilling_samplePlaces _ _⟩,
      ⟨⟨by decide, fun _ => rfl⟩, distinctFilling_samplePlaces _ _⟩, ⟨rfl, rfl⟩, ⟨rfl, rfl⟩,
      List.forall_mem_nil _⟩
  have hcount : twoModemPaths.count = twoModems.modemActiveCount := rfl
  have hblock : Request.openPlaces.context = some idleContext := rfl
  have hmanager : Request.openPlaces.managerProxy ≠ null := Nat.one_ne_zero
  have hfirst : DistinctFilling twoModems Request.openPlaces Request.withEverything
      Request.withEverything := distinctFilling_samplePlaces _ _
  exact ⟨ctx₀, references_kept hcount hblock hopen hmanager hfirst hos⟩

end Telephony.Manager
