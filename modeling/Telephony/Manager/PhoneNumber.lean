import Telephony.Payload
import Telephony.Sim.Operator

/-!
# The phone number

The number of the subscriber is taken from the card, and if that has none, from the IMS. A loop
looks for the first text in the array that the card has.

## Main definitions

* `Manager.Progress` — how far a call has got in a given number of steps
* `Manager.findNumber` — the loop, which does not move on in the array
* `Manager.tapiGetMsisdnNumber`, `Manager.tapiImsGetSubscriberUriNumber`,
  `Manager.tapiGetPhoneNumber` — the three functions
* `Manager.YieldsNumber` — the calls return, and find the number that is to be found

## Main results

* `Manager.findNumber_running` — in front of anything but a text the loop goes on for ever
* `Manager.yieldsNumber_iff` — which arrays the functions come back from
-/

namespace Telephony.Manager

open DBus Sim

/-! ## Calls that may not return -/

/-- A call after some steps of its loop: it has not returned, has become undefined, or has returned
something. -/
inductive Progress (α : Type)
  | running
  | undefined
  | returned (a : α)
  deriving DecidableEq, Repr

namespace Progress

variable {α β : Type}

def bind (p : Progress α) (f : α → Progress β) : Progress β :=
  match p with
  | running => running
  | undefined => undefined
  | returned a => f a

/-- What has no loop has returned, unless it is undefined. -/
def ofOption : Option α → Progress α
  | none => undefined
  | some a => returned a

/-- From some number of steps on the call has returned. -/
def Returns (run : ℕ → Progress α) (a : α) : Prop := ∃ n, ∀ steps ≥ n, run steps = returned a

/-- A call that has not returned after any number of steps never returns. -/
theorem not_returns {run : ℕ → Progress α} (h : ∀ steps, run steps = running) (a : α) :
    ¬ Returns run a := by
  rintro ⟨n, hreturned⟩
  have hboth := (h n).symm.trans (hreturned n le_rfl)
  contradiction

end Progress

/-! ## The functions -/

/-- The loop over the array, for a number of rounds. It reads the first text that it gets to, and
leaves its iterator where it is in front of anything else. -/
def findNumber : ℕ → Iter → CString → Progress CString
  | 0, _, _ => .running
  | steps + 1, varElem, out =>
    match varElem with
    | [] => .returned out
    | .string s :: _ => .returned (.text s)
    | _ => findNumber steps varElem out

section

variable (cfg : Config) (property : Properties) (context : Option DbusContext) (slotId : ℤ)

/-- The checks of the two functions that read a property: the code of one that fails, or the
proxy. -/
def checkedProxy (type : ProxyType) : Except ℤ Ptr :=
  match context with
  | none => .error (-einval)
  | some ctx =>
    if !isValidSlotid cfg slotId then .error (-einval)
    else if !ctx.clientReady then .error (-eagain)
    else if ctx.dbusProxy slotId.toNat type = null then .error (-eio)
    else .ok (ctx.dbusProxy slotId.toNat type)

/-- `tapi_get_msisdn_number`: the return value, and what the caller's variable holds. -/
def tapiGetMsisdnNumber (out : CString) (steps : ℕ) : Progress (ℤ × CString) :=
  match checkedProxy cfg context slotId .sim with
  | .error code => .returned (code, out)
  | .ok proxy =>
    match property proxy "SubscriberNumbers" with
    | none => .returned (-eio, out)
    | some (.array _ varElem :: _) =>
      (findNumber steps varElem out).bind fun out => .returned (ok, out)
    | some _ => .returned (-einval, out)

/-- `tapi_ims_get_subscriber_uri_number`. -/
def tapiImsGetSubscriberUriNumber (out : CString) : Option (ℤ × CString) :=
  match checkedProxy cfg context slotId .ims with
  | .error code => some (code, out)
  | .ok proxy =>
    match property proxy "SubscriberUriNumber" with
    | none => some (-einval, out)
    | some iter => iter.getString.map fun s => (ok, .text s)

/-- `tapi_get_phone_number`. -/
def tapiGetPhoneNumber (steps : ℕ) : Progress (ℤ × CString) :=
  (tapiGetMsisdnNumber cfg property context slotId .null steps).bind fun msisdn =>
    if msisdn.1 = ok ∧ msisdn.2 ≠ .null then .returned (ok, msisdn.2)
    else
      (Progress.ofOption (tapiImsGetSubscriberUriNumber cfg property context slotId .null)).bind
        fun uri => .returned (ok, if uri.1 = ok ∧ uri.2 ≠ .null then uri.2 else .null)

end

/-! ## The number that is to be found -/

/-- The first text of an array. -/
def firstString : List Value → Option String
  | [] => none
  | .string s :: _ => some s
  | _ :: vs => firstString vs

/-- The number that the IMS has. -/
def imsNumber (property : Properties) (ctx : DbusContext) (slotId : ℤ) : Option String :=
  if ctx.dbusProxy slotId.toNat .ims = null then none
  else (property (ctx.dbusProxy slotId.toNat .ims) "SubscriberUriNumber").bind Iter.getString

/-- The first function returns the first text of the array, if it has one, and the other one that
number, or else the one that the IMS has, or else NULL. -/
structure YieldsNumber (cfg : Config) (property : Properties) (ctx : DbusContext) (slotId : ℤ)
    (vs : List Value) (out : CString) : Prop where
  msisdn : Progress.Returns (tapiGetMsisdnNumber cfg property (some ctx) slotId out)
    (ok, ((firstString vs).map .text).getD out)
  phone : Progress.Returns (tapiGetPhoneNumber cfg property (some ctx) slotId)
    (ok, ((firstString vs <|> imsNumber property ctx slotId).map .text).getD .null)

/-- The card in the slot has an array of numbers. -/
structure HasNumbers (cfg : Config) (property : Properties) (ctx : DbusContext) (slotId : ℤ)
    (vs : List Value) : Prop where
  slot : isValidSlotid cfg slotId = true
  ready : ctx.clientReady = true
  proxy : ctx.dbusProxy slotId.toNat .sim ≠ null
  numbers : ∃ elem rest, property (ctx.dbusProxy slotId.toNat .sim) "SubscriberNumbers" =
    some (.array elem vs :: rest)

/-- What the IMS has for a number, if it is asked, is a text. -/
def ReadsImsNumber (property : Properties) (ctx : DbusContext) (slotId : ℤ) : Prop :=
  ctx.dbusProxy slotId.toNat .ims ≠ null →
    ∀ iter, property (ctx.dbusProxy slotId.toNat .ims) "SubscriberUriNumber" = some iter →
      iter.isText = true

section

variable {cfg : Config} {property : Properties} {ctx : DbusContext} {slotId : ℤ}
  {vs : List Value} {out : CString}

/-- In front of anything but a text the loop goes on for ever. -/
theorem findNumber_running {v : Value} (hv : ∀ s, v ≠ .string s) (steps : ℕ) :
    findNumber steps (v :: vs) out = .running := by
  induction steps with
  | zero => rfl
  | succ steps ih =>
    rw [findNumber]
    · exact ih
    · exact List.cons_ne_nil v vs
    · intro s rest hstring
      exact hv s (List.cons.inj hstring).1

theorem checkedProxy_of_ready {type : ProxyType} (hslot : isValidSlotid cfg slotId = true)
    (hready : ctx.clientReady = true) :
    checkedProxy cfg (some ctx) slotId type =
      if ctx.dbusProxy slotId.toNat type = null then .error (-eio)
      else .ok (ctx.dbusProxy slotId.toNat type) := by
  simp [checkedProxy, hslot, hready]

theorem HasNumbers.tapiGetMsisdnNumber_eq (h : HasNumbers cfg property ctx slotId vs)
    (out : CString) (steps : ℕ) :
    tapiGetMsisdnNumber cfg property (some ctx) slotId out steps =
      (findNumber steps vs out).bind fun out => .returned (ok, out) := by
  obtain ⟨elem, rest, hnumbers⟩ := h.numbers
  rw [tapiGetMsisdnNumber, checkedProxy_of_ready h.slot h.ready, if_neg h.proxy]
  simp only [hnumbers]

/-- From an array that starts with anything but a text the calls do not return. -/
theorem HasNumbers.not_yieldsNumber {v : Value} (h : HasNumbers cfg property ctx slotId (v :: vs))
    (hv : ∀ s, v ≠ .string s) : ¬ YieldsNumber cfg property ctx slotId (v :: vs) out := by
  intro hyields
  refine Progress.not_returns (fun steps => ?_) _ hyields.msisdn
  rw [h.tapiGetMsisdnNumber_eq, findNumber_running hv]
  rfl

theorem HasNumbers.yieldsNumber_of_string {s : String}
    (h : HasNumbers cfg property ctx slotId (.string s :: vs)) :
    YieldsNumber cfg property ctx slotId (.string s :: vs) out where
  msisdn := by
    refine ⟨1, fun steps hsteps => ?_⟩
    obtain ⟨steps, rfl⟩ := Nat.exists_eq_add_of_le' hsteps
    rw [h.tapiGetMsisdnNumber_eq]
    rfl
  phone := by
    refine ⟨1, fun steps hsteps => ?_⟩
    obtain ⟨steps, rfl⟩ := Nat.exists_eq_add_of_le' hsteps
    rw [tapiGetPhoneNumber, h.tapiGetMsisdnNumber_eq]
    rfl

/-- With an empty array the number of the IMS is asked for. -/
theorem HasNumbers.tapiGetPhoneNumber_of_nil (h : HasNumbers cfg property ctx slotId [])
    (steps : ℕ) :
    tapiGetPhoneNumber cfg property (some ctx) slotId (steps + 1) =
      (Progress.ofOption (tapiImsGetSubscriberUriNumber cfg property (some ctx) slotId .null)).bind
        fun uri => .returned (ok, if uri.1 = ok ∧ uri.2 ≠ .null then uri.2 else .null) := by
  rw [tapiGetPhoneNumber, h.tapiGetMsisdnNumber_eq]
  rfl

/-- The IMS is asked for its number with the same checks. -/
theorem HasNumbers.tapiImsGetSubscriberUriNumber_eq (h : HasNumbers cfg property ctx slotId vs) :
    tapiImsGetSubscriberUriNumber cfg property (some ctx) slotId .null =
      if ctx.dbusProxy slotId.toNat .ims = null then some (-eio, .null)
      else
        match property (ctx.dbusProxy slotId.toNat .ims) "SubscriberUriNumber" with
        | none => some (-einval, .null)
        | some iter => iter.getString.map fun s => (ok, .text s) := by
  rw [tapiImsGetSubscriberUriNumber, checkedProxy_of_ready h.slot h.ready]
  split_ifs with hproxy
  · rfl
  · rfl

theorem HasNumbers.yieldsNumber_nil_iff (h : HasNumbers cfg property ctx slotId []) :
    YieldsNumber cfg property ctx slotId [] out ↔ ReadsImsNumber property ctx slotId := by
  constructor
  · intro hyields hproxy iter hiter
    by_contra htext
    obtain ⟨n, hn⟩ := hyields.phone
    have hnone : iter.getString = none := Option.not_isSome_iff_eq_none.mp htext
    have hreturned := hn (n + 1) (Nat.le_succ n)
    rw [h.tapiGetPhoneNumber_of_nil, h.tapiImsGetSubscriberUriNumber_eq, if_neg hproxy] at hreturned
    simp only [hiter, hnone, Option.map_none] at hreturned
    contradiction
  · intro hims
    refine ⟨⟨1, fun steps hsteps => ?_⟩, ⟨1, fun steps hsteps => ?_⟩⟩
    · obtain ⟨steps, rfl⟩ := Nat.exists_eq_add_of_le' hsteps
      rw [h.tapiGetMsisdnNumber_eq]
      rfl
    · obtain ⟨steps, rfl⟩ := Nat.exists_eq_add_of_le' hsteps
      rw [h.tapiGetPhoneNumber_of_nil, h.tapiImsGetSubscriberUriNumber_eq]
      by_cases hproxy : ctx.dbusProxy slotId.toNat .ims = null
      · simp [hproxy, imsNumber, firstString, Progress.ofOption, Progress.bind]
      · cases hiter : property (ctx.dbusProxy slotId.toNat .ims) "SubscriberUriNumber" with
        | none =>
          simp [hproxy, hiter, imsNumber, firstString, Progress.ofOption, Progress.bind]
        | some iter =>
          obtain ⟨s, hs⟩ := Option.isSome_iff_exists.mp (hims hproxy iter hiter)
          simp [hproxy, hiter, hs, imsNumber, firstString, Progress.ofOption, Progress.bind]

/-- The calls find the number exactly if the array starts with a text, or is empty and what the IMS
has can be read. -/
theorem yieldsNumber_iff (h : HasNumbers cfg property ctx slotId vs) (out : CString) :
    YieldsNumber cfg property ctx slotId vs out ↔
      (∃ s rest, vs = .string s :: rest) ∨ vs = [] ∧ ReadsImsNumber property ctx slotId := by
  cases vs with
  | nil =>
    rw [h.yieldsNumber_nil_iff]
    simp
  | cons v vs =>
    by_cases hv : ∃ s, v = .string s
    · obtain ⟨s, rfl⟩ := hv
      exact iff_of_true h.yieldsNumber_of_string (.inl ⟨s, vs, rfl⟩)
    · refine iff_of_false (h.not_yieldsNumber fun s hs => hv ⟨s, hs⟩) ?_
      rintro (⟨s, rest, hstring⟩ | ⟨hnil, -⟩)
      · exact hv ⟨s, (List.cons.inj hstring).1⟩
      · contradiction

end

/-- A card with an array of numbers, and an IMS without a number. -/
def cardWithNumbers (elem : Ty) (vs : List Value) : Properties := fun _ name =>
  if name = "SubscriberNumbers" then some [.array elem vs] else none

theorem hasNumbers_cardWithNumbers (elem : Ty) (vs : List Value) :
    HasNumbers twoModems (cardWithNumbers elem vs) idleContext 0 vs :=
  ⟨rfl, rfl, by decide, elem, [], rfl⟩

/-- The calls do not return if the numbers are paths. -/
theorem not_yieldsNumber_path :
    ¬ YieldsNumber twoModems (cardWithNumbers (.text .objectPath) [.objectPath "/number"])
      idleContext 0 [.objectPath "/number"] .null :=
  (hasNumbers_cardWithNumbers _ _).not_yieldsNumber fun _ => by simp

theorem yieldsNumber_string :
    YieldsNumber twoModems (cardWithNumbers (.text .string) [.string "10086"]) idleContext 0
      [.string "10086"] .null :=
  (yieldsNumber_iff (hasNumbers_cardWithNumbers _ _) .null).mpr (.inl ⟨"10086", [], rfl⟩)

end Telephony.Manager
