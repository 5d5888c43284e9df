import Telephony.Payload
import Telephony.Sim.Operator

/-!
# The configuration of the carrier

The modem has a dictionary of settings. Three functions look a setting up by its key, and read its
value into a variable of their own type without asking what the value is.

## Main definitions

* `Manager.findConfig` — the loop over the dictionary
* `Manager.tapiGetCarrierConfigBool`, `Manager.tapiGetCarrierConfigInt`,
  `Manager.tapiGetCarrierConfigString` — the three functions
* `Manager.Getter.Fetches` — a function stores the first value of a key that is of its type, and
  fails without storing anything where there is none

## Main results

* `Manager.findConfig_entries` — what the loop finds
* `Manager.Getter.fetches_iff` — which dictionaries the functions can be used on
-/

namespace Telephony.Manager

open DBus Sim

section

variable {α : Type}

/-- The loop over the entries, which reads the value of the first one with the key. It goes on to
the first value that is not an entry. -/
def findConfig (read : Iter → Option α) (key : String) : Iter → α → Option (ℤ × α)
  | .dictEntry k v :: varElem, out => do
    let propName ← Iter.getString [k]
    let value ← Iter.recurse [v]
    if propName = key then (read value).map fun result => (ok, result)
    else findConfig read key varElem out
  | _, out => some (-einval, out)

/-- A function that looks a setting up: the return value, and what the caller's variable holds.
The variable that a value is read into has a fixed size, so that what a read of a value of another
size leaves is undefined. -/
def getCarrierConfig (read : Iter → Option α) (cfg : Config) (property : Properties)
    (context : Option DbusContext) (slotId : ℤ) (key : Option String) (out : α) :
    Option (ℤ × α) :=
  match context with
  | none => some (-einval, out)
  | some ctx =>
    if !isValidSlotid cfg slotId then some (-einval, out)
    else
      match key with
      | none => some (-einval, out)
      | some key =>
        if !ctx.clientReady then some (-eagain, out)
        else
          let proxy := ctx.dbusProxy slotId.toNat .modem
          if proxy = null then some (-eio, out)
          else
            match property proxy "CarrierConfig" with
            | none => some (-einval, out)
            | some iter =>
              if iter.argType ≠ .array then some (-einval, out)
              else iter.recurse.bind fun varElem => findConfig read key varElem out

end

/-- `tapi_get_carrier_config_bool`. -/
def tapiGetCarrierConfigBool := getCarrierConfig Iter.getFlag

/-- `tapi_get_carrier_config_int`. -/
def tapiGetCarrierConfigInt := getCarrierConfig Iter.getInt

/-- `tapi_get_carrier_config_string`. -/
def tapiGetCarrierConfigString := getCarrierConfig fun value => value.getString.map CString.text

/-! ## The getters -/

/-- The functions that look a setting up. -/
inductive Getter
  | bool | int | string
  deriving DecidableEq, Repr

namespace Getter

/-- What a getter stores. -/
def Out : Getter → Type
  | bool => Bool
  | int => ℤ
  | string => CString

/-- How a getter reads a value. -/
def read : (g : Getter) → Iter → Option g.Out
  | bool => Iter.getFlag
  | int => Iter.getInt
  | string => fun value => value.getString.map CString.text

/-- The values of the type of a getter. -/
def own : (g : Getter) → Value → Option g.Out
  | bool, .boolean n => some (decide (n ≠ 0))
  | int, .int32 n => some n
  | string, .string s => some (.text s)
  | _, _ => none

/-- The function of the library. -/
def get : (g : Getter) → Config → Properties → Option DbusContext → ℤ → Option String → g.Out →
    Option (ℤ × g.Out)
  | bool => tapiGetCarrierConfigBool
  | int => tapiGetCarrierConfigInt
  | string => tapiGetCarrierConfigString

/-- The call is defined. If the first entry with the key holds a value of the type of the getter, it
stores that and returns OK. Otherwise it fails, and what the caller's variable holds stays. -/
def Fetches (g : Getter) (cfg : Config) (property : Properties) (ctx : DbusContext) (slotId : ℤ)
    (ps : List (String × Value)) (key : String) (out : g.Out) : Prop :=
  ∃ code out', g.get cfg property (some ctx) slotId (some key) out = some (code, out') ∧
    match (ps.lookup key).bind g.own with
    | some v => code = ok ∧ out' = v
    | none => code < 0 ∧ out' = out

end Getter

/-- The modem of the slot has a dictionary of settings. -/
structure HasConfig (cfg : Config) (property : Properties) (ctx : DbusContext) (slotId : ℤ)
    (ps : List (String × Value)) : Prop where
  slot : isValidSlotid cfg slotId = true
  ready : ctx.clientReady = true
  proxy : ctx.dbusProxy slotId.toNat .modem ≠ null
  config : property (ctx.dbusProxy slotId.toNat .modem) "CarrierConfig" = some [dict ps]

section

variable {α : Type} {cfg : Config} {property : Properties} {ctx : DbusContext} {slotId : ℤ}
  {ps : List (String × Value)} {key : String}

/-- The loop reads the first value of the key, and fails if there is none. -/
theorem findConfig_entries (read : Iter → Option α) (key : String) (ps : List (String × Value))
    (out : α) :
    findConfig read key (ps.map entry) out =
      match ps.lookup key with
      | some v => (read [v]).map fun result => (ok, result)
      | none => some (-einval, out) := by
  induction ps with
  | nil => rfl
  | cons p ps ih =>
    obtain ⟨name, v⟩ := p
    simp only [List.map_cons, findConfig, Iter.getString, Iter.recurse, Option.bind_eq_bind,
      Option.bind_some, List.lookup_cons]
    by_cases hname : name = key
    · simp [hname]
    · have hkey : (key == name) = false := beq_false_of_ne (Ne.symm hname)
      simp [hname, hkey, ih]

theorem getCarrierConfig_of_hasConfig (h : HasConfig cfg property ctx slotId ps)
    (read : Iter → Option α) (out : α) :
    getCarrierConfig read cfg property (some ctx) slotId (some key) out =
      match ps.lookup key with
      | some v => (read [v]).map fun result => (ok, result)
      | none => some (-einval, out) := by
  have harray : Iter.argType [dict ps] = .array := rfl
  have hentries : Iter.recurse [dict ps] = some (ps.map entry) := rfl
  simp only [getCarrierConfig, h.slot, h.ready, h.proxy, h.config, harray, hentries,
    Bool.not_true, Bool.false_eq_true, if_false, ne_eq, not_true_eq_false, Option.bind_some,
    findConfig_entries]

namespace Getter

variable {g : Getter}

theorem get_eq : g.get = getCarrierConfig g.read := by
  cases g <;> rfl

/-- A value of the type of the getter is read as what it is. -/
theorem read_of_own {v : Value} {a : g.Out} (h : g.own v = some a) : g.read [v] = some a := by
  cases g with
  | bool =>
    cases v with
    | fixed t n => cases t <;> first | contradiction | exact h
    | _ => contradiction
  | int =>
    cases v with
    | fixed t n => cases t <;> first | contradiction | exact h
    | _ => contradiction
  | string =>
    cases v with
    | text t s => cases t <;> first | contradiction | exact h
    | _ => contradiction

/-- A getter does what it is to do exactly if the first entry with the key, where there is one,
holds a value of its type. -/
theorem fetches_iff (g : Getter) (h : HasConfig cfg property ctx slotId ps) (key : String)
    (out : g.Out) :
    g.Fetches cfg property ctx slotId ps key out ↔
      ∀ v, ps.lookup key = some v → (g.own v).isSome = true := by
  rw [Fetches, get_eq, getCarrierConfig_of_hasConfig h]
  cases hfound : ps.lookup key with
  | none => simp [einval]
  | some v =>
    cases hown : g.own v with
    | none =>
      -- the value is read all the same
      refine iff_of_false ?_ fun hall => ?_
      · rintro ⟨code, out', hread, hfailed⟩
        obtain ⟨result, -, hresult⟩ := Option.map_eq_some_iff.mp hread
        rw [Option.bind_some, hown] at hfailed
        cases hresult
        exact absurd hfailed.1 (by decide)
      · have hsome := hall v rfl
        rw [hown] at hsome
        contradiction
    | some a =>
      refine iff_of_true ⟨ok, a, ?_, ?_⟩ fun v' hv' => ?_
      · simp only [read_of_own hown, Option.map_some]
      · rw [Option.bind_some, hown]
        exact ⟨rfl, rfl⟩
      · obtain rfl := Option.some_inj.mp hv'
        rw [hown]
        rfl

end Getter

end

/-- A modem with a dictionary of settings. -/
def modemWithConfig (ps : List (String × Value)) : Properties := fun _ name =>
  if name = "CarrierConfig" then some [dict ps] else none

theorem hasConfig_modemWithConfig (ps : List (String × Value)) :
    HasConfig twoModems (modemWithConfig ps) idleContext 0 ps :=
  ⟨rfl, rfl, by decide, rfl⟩

namespace Getter

/-- A number is handed out as a truth value. -/
theorem not_fetches_number :
    ¬ bool.Fetches twoModems (modemWithConfig [("volte", .int32 5)]) idleContext 0
      [("volte", .int32 5)] "volte" false := by
  rintro ⟨code, out', hget, hfailed⟩
  have hstored : bool.get twoModems (modemWithConfig [("volte", .int32 5)]) (some idleContext) 0
      (some "volte") false = some (ok, true) := rfl
  rw [hstored] at hget
  cases hget
  exact absurd hfailed.1 (by decide)

theorem fetches_number :
    int.Fetches twoModems (modemWithConfig [("volte", .boolean 1), ("retries", .int32 5)])
      idleContext 0 [("volte", .boolean 1), ("retries", .int32 5)] "retries" (0 : ℤ) :=
  (fetches_iff int (hasConfig_modemWithConfig _) "retries" _).mpr (by
    intro v hv
    obtain rfl := Option.some_inj.mp hv
    rfl)

end Getter

end Telephony.Manager
