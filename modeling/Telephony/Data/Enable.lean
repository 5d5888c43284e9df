import Mathlib.Data.List.TakeWhile
import Telephony.Context

/-!
# Switching mobile data and roaming

Two functions set one property of every slot. They look at the proxy of a slot right before they
write to it, and return where one is missing.

## Main definitions

* `Data.setOnSlots` — the loop over the slots, with the writes that it attempts
* `Data.tapiDataEnableData`, `Data.tapiDataEnableRoaming` — the two functions
* `Data.AllOrNothing` — a call that misses a proxy has written nothing, and every other call has
  written to every slot

## Main results

* `Data.setOnSlots_code`, `Data.setOnSlots_writes` — the code of the loop, and how far it gets
* `Data.allOrNothing_iff` — which proxies may be missing
-/

namespace Telephony.Data

/-- An attempt to set a property of a slot. -/
structure SlotWrite where
  slot : ℕ
  proxy : Ptr
  property : String
  value : ℤ
  deriving DecidableEq, Repr

section

variable (ctx : DbusContext) (property : String) (value : ℤ) (accepts : ℕ → Bool)

/-- The attempt that the loop makes for a slot. -/
def slotWrite (slot : ℕ) : SlotWrite := ⟨slot, ctx.dbusProxy slot .data, property, value⟩

/-- The loop over the slots: the code that is returned, and the attempts to write. It still has
`count` slots to go from `slot` on, and `ret` is what it has to return so far. `accepts` is what
`g_dbus_proxy_set_property_basic` returns for each slot. -/
def setOnSlots : ℕ → ℕ → ℤ → ℤ × List SlotWrite
  | 0, _, ret => (ret, [])
  | count + 1, slot, ret =>
    if ctx.dbusProxy slot .data = null then (-eio, [])
    else
      let rest := setOnSlots count (slot + 1) (if accepts slot then ret else -einval)
      (rest.1, slotWrite ctx property value slot :: rest.2)

end

/-- A function that sets a property of all slots. -/
def setOnAllSlots (property : String) (cfg : Config) (context : Option DbusContext)
    (enabled : Bool) (accepts : ℕ → Bool) : ℤ × List SlotWrite :=
  match context with
  | none => (-einval, [])
  | some ctx =>
    if !ctx.clientReady then (-eagain, [])
    else
      let value := if enabled then 1 else 0
      setOnSlots ctx property value accepts cfg.modemActiveCount 0 ok

/-- `tapi_data_enable_data`. -/
def tapiDataEnableData := setOnAllSlots "DataOn"

/-- `tapi_data_enable_roaming`. -/
def tapiDataEnableRoaming := setOnAllSlots "RoamingAllowed"

/-- The two switches. -/
inductive Switch
  | data | roaming
  deriving DecidableEq, Repr

/-- The function that turns a switch. -/
def Switch.enable : Switch → Config → Option DbusContext → Bool → (ℕ → Bool) → ℤ × List SlotWrite
  | .data => tapiDataEnableData
  | .roaming => tapiDataEnableRoaming

/-- The property of a switch. -/
def Switch.property : Switch → String
  | .data => "DataOn"
  | .roaming => "RoamingAllowed"

/-- Only a call that misses the proxy of a slot returns `-EIO`, and it has written nothing. Every
other call has tried to set the property of every slot, in their order, and returns OK exactly if
every attempt was accepted. -/
structure AllOrNothing (switch : Switch) (cfg : Config) (ctx : DbusContext) (enabled : Bool)
    (accepts : ℕ → Bool) : Prop where
  missing : (switch.enable cfg (some ctx) enabled accepts).1 = -eio ↔
    ∃ slot < cfg.modemActiveCount, ctx.dbusProxy slot .data = null
  nothing : (switch.enable cfg (some ctx) enabled accepts).1 = -eio →
    (switch.enable cfg (some ctx) enabled accepts).2 = []
  all : (switch.enable cfg (some ctx) enabled accepts).1 ≠ -eio →
    (switch.enable cfg (some ctx) enabled accepts).2 =
      (List.range cfg.modemActiveCount).map
        (slotWrite ctx switch.property (if enabled then 1 else 0))
  accepted : (switch.enable cfg (some ctx) enabled accepts).1 ≠ -eio →
    ((switch.enable cfg (some ctx) enabled accepts).1 = ok ↔
      ∀ slot < cfg.modemActiveCount, accepts slot = true)

section

variable {ctx : DbusContext} {property : String} {value : ℤ} {accepts : ℕ → Bool}

/-- The loop gets as far as the first slot without a proxy. -/
theorem setOnSlots_writes (count slot : ℕ) (ret : ℤ) :
    (setOnSlots ctx property value accepts count slot ret).2 =
      ((List.range' slot count).takeWhile fun i => ctx.dbusProxy i .data ≠ null).map
        (slotWrite ctx property value) := by
  induction count generalizing slot ret with
  | zero => rfl
  | succ count ih =>
    rw [setOnSlots, List.range'_succ]
    by_cases hproxy : ctx.dbusProxy slot .data = null
    · simp [hproxy]
    · simp [hproxy, ih]

/-- The loop fails at the first slot without a proxy. Otherwise it keeps what it had to return,
unless a write is refused. -/
theorem setOnSlots_code (count slot : ℕ) (ret : ℤ) :
    (setOnSlots ctx property value accepts count slot ret).1 =
      if ∀ i ∈ List.range' slot count, ctx.dbusProxy i .data ≠ null then
        if ∀ i ∈ List.range' slot count, accepts i = true then ret else -einval
      else -eio := by
  induction count generalizing slot ret with
  | zero => simp [setOnSlots]
  | succ count ih =>
    rw [setOnSlots, List.range'_succ]
    simp only [List.forall_mem_cons]
    by_cases hproxy : ctx.dbusProxy slot .data = null
    · simp [hproxy]
    · rw [if_neg hproxy, ih]
      -- a write that is refused is not made up for by those behind it
      cases haccepted : accepts slot with
      | true => simp only [if_true, hproxy, ne_eq, not_false_eq_true, true_and]
      | false => simp only [hproxy, ne_eq, not_false_eq_true, true_and, Bool.false_eq_true,
          if_false, false_and, ite_self]

variable {cfg : Config} {enabled : Bool} {switch : Switch}

theorem enable_eq (hready : ctx.clientReady = true) :
    switch.enable cfg (some ctx) enabled accepts =
      setOnSlots ctx switch.property (if enabled then 1 else 0) accepts cfg.modemActiveCount 0
        ok := by
  cases switch with
  | data => simp [Switch.enable, tapiDataEnableData, setOnAllSlots, hready, Switch.property]
  | roaming => simp [Switch.enable, tapiDataEnableRoaming, setOnAllSlots, hready, Switch.property]

theorem enable_code (hready : ctx.clientReady = true) :
    (switch.enable cfg (some ctx) enabled accepts).1 =
      if ∀ slot < cfg.modemActiveCount, ctx.dbusProxy slot .data ≠ null then
        if ∀ slot < cfg.modemActiveCount, accepts slot = true then ok else -einval
      else -eio := by
  rw [enable_eq hready, setOnSlots_code]
  simp

theorem enable_writes (hready : ctx.clientReady = true) :
    (switch.enable cfg (some ctx) enabled accepts).2 =
      ((List.range cfg.modemActiveCount).takeWhile fun i => ctx.dbusProxy i .data ≠ null).map
        (slotWrite ctx switch.property (if enabled then 1 else 0)) := by
  rw [enable_eq hready, setOnSlots_writes, List.range_eq_range']

/-- Exactly the calls with all proxies return anything but `-EIO`. -/
theorem enable_code_ne_iff (hready : ctx.clientReady = true) :
    (switch.enable cfg (some ctx) enabled accepts).1 ≠ -eio ↔
      ∀ slot < cfg.modemActiveCount, ctx.dbusProxy slot .data ≠ null := by
  have hok : ok ≠ -eio := by decide
  have heinval : -einval ≠ -eio := by decide
  rw [enable_code hready]
  split_ifs with hproxies haccepted
  · exact iff_of_true hok hproxies
  · exact iff_of_true heinval hproxies
  · exact iff_of_false (fun h => h rfl) hproxies

/-- What holds of a call that has all proxies. -/
theorem allOrNothing_of_proxies (hready : ctx.clientReady = true)
    (hproxies : ∀ slot < cfg.modemActiveCount, ctx.dbusProxy slot .data ≠ null) :
    AllOrNothing switch cfg ctx enabled accepts where
  missing := by
    refine iff_of_false ((enable_code_ne_iff hready).mpr hproxies) ?_
    rintro ⟨slot, hslot, hnull⟩
    exact hproxies slot hslot hnull
  nothing hfailed := absurd hfailed ((enable_code_ne_iff hready).mpr hproxies)
  all _ := by
    have hwhole : ((List.range cfg.modemActiveCount).takeWhile
        fun i => ctx.dbusProxy i .data ≠ null) = List.range cfg.modemActiveCount := by
      rw [List.takeWhile_eq_self_iff]
      intro slot hslot
      exact decide_eq_true (hproxies slot (List.mem_range.mp hslot))
    rw [enable_writes hready, hwhole]
  accepted _ := by
    rw [enable_code hready, if_pos hproxies]
    split_ifs with haccepted
    · exact iff_of_true rfl haccepted
    · exact iff_of_false (by decide) haccepted

/-- The proxy of the first slot decides whether anything is written. -/
theorem enable_writes_eq_nil_iff (hready : ctx.clientReady = true)
    (hslots : 0 < cfg.modemActiveCount) :
    (switch.enable cfg (some ctx) enabled accepts).2 = [] ↔ ctx.dbusProxy 0 .data = null := by
  obtain ⟨count, hcount⟩ := Nat.exists_eq_add_one.mpr hslots
  rw [enable_writes hready, hcount, List.range_succ_eq_map, List.map_eq_nil_iff]
  by_cases hproxy : ctx.dbusProxy 0 .data = null
  · simp [hproxy]
  · simp [hproxy]

/-- A call is all or nothing exactly if the proxy of the first slot is missing wherever one is. -/
theorem allOrNothing_iff (switch : Switch) (cfg : Config) (enabled : Bool) (accepts : ℕ → Bool)
    (hready : ctx.clientReady = true) :
    AllOrNothing switch cfg ctx enabled accepts ↔
      ∀ slot < cfg.modemActiveCount, ctx.dbusProxy slot .data = null →
        ctx.dbusProxy 0 .data = null := by
  constructor
  · intro h slot hslot hnull
    have hnothing := h.nothing (h.missing.mpr ⟨slot, hslot, hnull⟩)
    exact (enable_writes_eq_nil_iff hready (Nat.zero_lt_of_lt hslot)).mp hnothing
  · intro hfirst
    by_cases hproxies : ∀ slot < cfg.modemActiveCount, ctx.dbusProxy slot .data ≠ null
    · exact allOrNothing_of_proxies hready hproxies
    · have hfailed : (switch.enable cfg (some ctx) enabled accepts).1 = -eio := by
        rw [enable_code hready, if_neg hproxies]
      obtain ⟨slot, hslot, hnull⟩ :
          ∃ slot < cfg.modemActiveCount, ctx.dbusProxy slot .data = null := by
        simpa using hproxies
      have hnothing : (switch.enable cfg (some ctx) enabled accepts).2 = [] :=
        (enable_writes_eq_nil_iff hready (Nat.zero_lt_of_lt hslot)).mpr (hfirst slot hslot hnull)
      exact ⟨iff_of_true hfailed ⟨slot, hslot, hnull⟩, fun _ => hnothing,
        fun hcode => absurd hfailed hcode, fun hcode => absurd hfailed hcode⟩

end

/-- A context whose second slot has no proxy for data. -/
def halfContext : DbusContext :=
  { idleContext with dbusProxy := fun slot type =>
      if slot = 1 ∧ type = .data then null else idleContext.dbusProxy slot type }

/-- Data is switched on for the first card, and the call fails. -/
theorem not_allOrNothing_halfContext :
    ¬ AllOrNothing .data twoModems halfContext true fun _ => true := by
  intro h
  exact absurd (h.nothing (by decide)) (by decide)

theorem allOrNothing_idleContext :
    AllOrNothing .roaming twoModems idleContext true fun slot => slot = 0 :=
  (allOrNothing_iff _ _ _ _ rfl).mpr fun _ _ hnull => hnull

end Telephony.Data
