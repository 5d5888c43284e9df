import Telephony.Manager.Proxies
import Telephony.Manager.Support
import Telephony.Request

/-!
# Where requests go

A request takes the proxy of its slot and of an interface from the table of the context, and fails
if it is NULL. The table is filled when the context is opened, and again when a modem wakes up, with
what the environment says at the time.

## Main definitions

* `Telephony.Request.interface` — the interface whose object a request asks
* `Telephony.Request.Submits` — the request passes its checks, and is handed over
* `Telephony.Request.Valid` — nothing but a missing proxy keeps the request from that
* `Telephony.Manager.Filling` — what a filling of the table meets
* `Telephony.Manager.refills` — the fillings of a run, one for each modem that wakes up

## Main results

* `Telephony.Request.placed` — a request uses one place of the table
* `Telephony.Manager.run_changed` — a run leaves the table as it was filled last
* `Telephony.Request.arrives_iff` — a request reaches the object of its slot and its interface,
  exactly if the interface has not been switched off when the table was filled last
-/

namespace Telephony

open DBus Ledger Machine Manager Call

/-! ## Places -/

/-- The proxy in a place. -/
def DbusContext.proxyAt (ctx : DbusContext) : Slot → Ptr
  | .manager => ctx.dbusProxyManager
  | .cell modem type => ctx.dbusProxy modem type

/-- The context, without a proxy missing. -/
def DbusContext.complete (ctx : DbusContext) : DbusContext :=
  { ctx with
    dbusProxyManager := 1
    dbusProxy := fun _ _ => 1 }

namespace Request

/-- The interface whose object the request asks, or the manager. The messages on a SIM are asked
from the object for calls. -/
def interface : Request → Option ProxyType
  | .queryModemList => none
  | .getModemActivityInfo | .enableModem _ | .getModemStatus | .oemRilRequestRaw _ _
  | .oemRilRequestStrings _ _ | .enableModemAbnormalEvent _ _ _ _ => some .modem
  | .setPrefNetMode _ | .setFastDormancy _ => some .radio
  | .setRadioPower _ => some .modem
  | .dial _ _ | .startDtmf _ | .stopDtmf | .getAllCalls | .mergeCall | .separateCall _
  | .deflect _ _ | .dialConference _ _ | .inviteParticipants _ _ | .getAllMessagesFromSim _ =>
    some .call
  | .loadApnContexts | .addApnContext _ | .removeApnContext _ | .editApnContext _
  | .resetApnContexts | .getDataConnectionList | .setDataAllow _ => some .data
  | .selectAuto | .selectManual _ | .scan | .getRegistrationInfo => some .netreg
  | .getServingCellinfos | .getNeighbouringCellinfos | .setCellInfoListRate _ => some .netmon
  | .loadAdnEntries | .loadFdnEntries | .insertFdnEntry _ _ _ _ | .deleteFdnEntry _ _
  | .updateFdnEntry _ _ _ _ => some .phonebook
  | .changePin _ _ _ | .enterPin _ _ | .resetPin _ _ _ | .lockPin _ _ | .unlockPin _ _
  | .openLogicalChannel _ _ _ | .closeLogicalChannel _ | .transmitApduLogicalChannel _ _ _
  | .transmitApduBasicChannel _ _ _ | .setUiccEnablement _ | .enableFdn _ _ | .queryFdn =>
    some .sim
  | .sendMessage _ _ _ | .sendDataMessage _ _ _ _ | .copyMessageToSim _ _ _ _ => some .sms
  | .initiateService _ | .sendUssd _ | .cancelUssd => some .ss
  | .requestCallBarring | .setCallBarringOption _ _ | .changeCallBarringPassword _ _
  | .disableAllCallBarrings _ | .disableAllIncoming _ | .disableAllOutgoing _ =>
    some .callBarring
  | .queryCallForwardingOption _ _ | .setCallForwardingOption _ _ _ => some .callForwarding
  | .setCallWaiting _ | .getCallWaiting | .setCallingLineRestriction _
  | .getCallingLineRestrictionInfo => some .callSetting
  | .stkAgentRegister _ | .stkAgentUnregister _ | .stkDefaultAgentRegister
  | .stkDefaultAgentUnregister | .stkSelectItem _ _ => some .stk

/-- The place whose proxy the request uses. -/
def target (r : Request) (c : Caller) : Slot :=
  match r.interface with
  | none => .manager
  | some type => .cell c.slotId.toNat type

/-- The request passes its checks, and hands over what it has built if there is memory for it. -/
def Submits (r : Request) (c : Caller) (s : Submission) : Prop :=
  r.submit c = some (.ok s) ∧ (acquire (fun _ => true) s.steps).2 = none

/-- Nothing but a missing proxy keeps the request from being submitted. -/
def Valid (r : Request) (c : Caller) : Prop :=
  ∃ s, r.Submits { c with context := c.context.map DbusContext.complete } s

/-! ## The place of a request -/

/-- The request is submitted if there is a proxy in its place, and then to that proxy. -/
structure Placed (r : Request) (c : Caller) (ctx : DbusContext) : Prop where
  submits : r.Valid c → ctx.proxyAt (r.target c) ≠ null → ∃ s, r.Submits c s
  proxy : ∀ s, r.Submits c s →
    s.proxy = ctx.proxyAt (r.target c) ∧ s.proxy ≠ null ∧
      (r.interface ≠ none → isValidSlotid c.cfg c.slotId = true)

section

variable {r : Request} {c : Caller} {ctx : DbusContext}

theorem withProxy_eq_ok_iff {cfg : Config} {slotId : ℤ} {type : ProxyType}
    {check : DbusContext → Option ℤ} {submission : Ptr → Submission} {s : Submission} :
    withProxy cfg (some ctx) slotId type check submission = .ok s ↔
      isValidSlotid cfg slotId = true ∧ check ctx = none ∧ ctx.dbusProxy slotId.toNat type ≠ null ∧
        submission (ctx.dbusProxy slotId.toNat type) = s := by
  constructor
  · intro h
    obtain ⟨ctx', hctx, hslot, hcheck, hne, hok⟩ | ⟨code, hfails, -⟩ :=
      withProxy_cases cfg (some ctx) slotId type check submission
    · obtain rfl := Option.some_inj.mp hctx
      exact ⟨hslot, hcheck, hne, Except.ok.inj (hok.symm.trans h)⟩
    · rw [hfails] at h
      contradiction
  · rintro ⟨hslot, hcheck, hne, rfl⟩
    exact withProxy_of_valid rfl hslot hcheck hne

theorem placed_of_withProxy {type : ProxyType} (check : DbusContext → Option ℤ)
    {submission : Ptr → Submission} (hcontext : c.context = some ctx)
    (hinterface : r.interface = some type)
    (hsubmit : ∀ context, r.submit { c with context := context } =
      some (withProxy c.cfg context c.slotId type check submission))
    (hproxy : ∀ p, (submission p).proxy = p)
    (hsteps : ∀ p, (submission p).steps = (submission null).steps)
    (hcheck : check ctx.complete = none → ctx.dbusProxy c.slotId.toNat type ≠ null →
      check ctx = none) : r.Placed c ctx := by
  have htarget : ctx.proxyAt (r.target c) = ctx.dbusProxy c.slotId.toNat type := by
    rw [target, hinterface]
    rfl
  have hsubmit' : r.submit c = some (withProxy c.cfg c.context c.slotId type check submission) :=
    hsubmit c.context
  rw [hcontext] at hsubmit'
  constructor
  · rintro ⟨s, hs, hpasses⟩ hne
    rw [htarget] at hne
    rw [hsubmit, hcontext, Option.map_some, Option.some_inj, withProxy_eq_ok_iff] at hs
    -- the checks that pass with a complete table pass with this one
    obtain ⟨hslot, hchecked, -, rfl⟩ := hs
    refine ⟨submission (ctx.dbusProxy c.slotId.toNat type), ?_, ?_⟩
    · rw [hsubmit', Option.some_inj, withProxy_eq_ok_iff]
      exact ⟨hslot, hcheck hchecked hne, hne, rfl⟩
    · rwa [hsteps] at hpasses ⊢
  · rintro s ⟨hs, -⟩
    rw [hsubmit', Option.some_inj, withProxy_eq_ok_iff] at hs
    obtain ⟨hslot, -, hne, rfl⟩ := hs
    rw [hproxy, htarget]
    exact ⟨rfl, hne, fun _ => hslot⟩

/-- The card is asked for through the proxy that the request then uses. -/
theorem whenPresent_of_complete {cfg : Config} {slotId : ℤ} {present : Option Bool} {valid : Bool}
    (h : Sim.whenPresent cfg slotId present valid ctx.complete = none)
    (hne : ctx.dbusProxy slotId.toNat .sim ≠ null) :
    Sim.whenPresent cfg slotId present valid ctx = none := by
  have hcard : Sim.tapiSimHasIccCard cfg (some ctx) slotId present =
      Sim.tapiSimHasIccCard cfg (some ctx.complete) slotId present := by
    have hcomplete : ctx.complete.dbusProxy slotId.toNat .sim ≠ null := Nat.one_ne_zero
    have hready : ctx.complete.clientReady = ctx.clientReady := rfl
    simp only [Sim.tapiSimHasIccCard, if_neg hne, if_neg hcomplete, hready]
  rw [Sim.whenPresent] at h ⊢
  rwa [hcard]

/-- A conference makes its checks behind its first allocation. -/
theorem managerConference_cases (cfg : Config) (ctx : DbusContext) (slotId : ℤ) (member : String)
    (participants : List String) (size : ℤ) :
    let conference := managerConference cfg (some ctx) slotId member participants size
    let check := unlessInvalid (0 < size && size ≤ maxImsConferenceCalls)
    (isValidSlotid cfg slotId = true ∧ check ctx = none ∧ ctx.dbusProxy slotId.toNat .call ≠ null ∧
        (acquire (fun _ => true) conference.steps).2 = none ∧
        conference.proxy = ctx.dbusProxy slotId.toNat .call) ∨
      (¬ (isValidSlotid cfg slotId = true ∧ check ctx = none ∧
          ctx.dbusProxy slotId.toNat .call ≠ null) ∧
        (acquire (fun _ => true) conference.steps).2 ≠ none) := by
  intro conference check
  cases hw : withProxy cfg (some ctx) slotId .call check
      (paramsRequest [.alloc .params [] (-enomem)] (.method member)
        (fun _ => .imsConference size participants) conferenceParamAppend
        (some .noOperateCallback) [.free .params]) with
  | ok s =>
    have hconference : conference = s := by
      simp only [conference, managerConference, check] at hw ⊢
      rw [hw]
    obtain ⟨hslot, hcheck, hne, rfl⟩ := withProxy_eq_ok_iff.mp hw
    rw [hconference]
    exact .inl ⟨hslot, hcheck, hne, rfl, rfl⟩
  | error code =>
    refine .inr ⟨fun ⟨hslot, hcheck, hne⟩ => ?_, ?_⟩
    · rw [withProxy_of_valid rfl hslot hcheck hne] at hw
      contradiction
    · simp only [conference, managerConference, check] at hw ⊢
      rw [hw]
      exact Option.some_ne_none code

theorem placed_of_managerConference {member : String} {participants : List String} {size : ℤ}
    (hcontext : c.context = some ctx) (hinterface : r.interface = some .call)
    (hsubmit : ∀ context, r.submit { c with context := context } =
      some (.ok (managerConference c.cfg context c.slotId member participants size))) :
    r.Placed c ctx := by
  have htarget : ctx.proxyAt (r.target c) = ctx.dbusProxy c.slotId.toNat .call := by
    rw [target, hinterface]
    rfl
  have hsubmit' : r.submit c =
      some (.ok (managerConference c.cfg (some ctx) c.slotId member participants size)) := by
    rw [← hcontext]
    exact hsubmit c.context
  constructor
  · rintro ⟨s, hs, hpasses⟩ hne
    rw [htarget] at hne
    rw [hsubmit, hcontext, Option.map_some, Option.some_inj, Except.ok.injEq] at hs
    subst hs
    obtain ⟨hslot, hcheck, -⟩ | ⟨-, hfails⟩ :=
      managerConference_cases c.cfg ctx.complete c.slotId member participants size
    · obtain ⟨-, -, -, hpasses, -⟩ | ⟨hnot, -⟩ :=
        managerConference_cases c.cfg ctx c.slotId member participants size
      · exact ⟨_, hsubmit', hpasses⟩
      · exact absurd ⟨hslot, hcheck, hne⟩ hnot
    · exact absurd hpasses hfails
  · rintro s ⟨hs, hpasses⟩
    rw [hsubmit', Option.some_inj, Except.ok.injEq] at hs
    subst hs
    obtain ⟨hslot, -, hne, -, hproxy⟩ | ⟨-, hfails⟩ :=
      managerConference_cases c.cfg ctx c.slotId member participants size
    · rw [hproxy, htarget]
      exact ⟨rfl, hne, fun _ => hslot⟩
    · exact absurd hpasses hfails

theorem placed_queryModemList (hcontext : c.context = some ctx) : queryModemList.Placed c ctx := by
  have hsubmit : queryModemList.submit c = tapiQueryModemList (some ctx) c.eventId c.pHandle :=
    congrArg (fun context => tapiQueryModemList context c.eventId c.pHandle) hcontext
  by_cases hnull : ctx.dbusProxyManager = null
  · have herror : queryModemList.submit c = some (.error (-eio)) := by
      rw [hsubmit, tapiQueryModemList, Option.map_some, if_pos hnull]
    refine ⟨fun _ hne => absurd hnull hne, fun s hs => ?_⟩
    rw [Submits, herror] at hs
    cases Option.some_inj.mp hs.1
  · rw [tapiQueryModemList, Option.map_some, if_neg hnull] at hsubmit
    refine ⟨fun _ _ => ⟨_, hsubmit, rfl⟩, fun s hs => ?_⟩
    rw [Submits, hsubmit] at hs
    obtain rfl := Except.ok.inj (Option.some_inj.mp hs.1)
    exact ⟨rfl, hnull, fun h => absurd rfl h⟩

/-- Whatever the request is, it uses one place of the table. -/
theorem placed (hcontext : c.context = some ctx) (r : Request) : r.Placed c ctx := by
  cases r with
  | dialConference participants size | inviteParticipants participants size =>
    exact placed_of_managerConference hcontext rfl fun _ => rfl
  | queryModemList => exact placed_queryModemList hcontext
  -- a tone is stopped by the function that plays it
  | stopDtmf =>
    have hsubmit : ∀ context, stopDtmf.submit { c with context := context } =
        some (callPlayDtmf c.cfg context c.slotId c.eventId c.pHandle 0 stopPlayDtmf) :=
      fun _ => rfl
    exact placed_of_withProxy _ hcontext rfl hsubmit (fun _ => rfl) (fun _ => rfl) fun h _ => h
  | getModemActivityInfo | enableModem _ | getModemStatus | selectAuto | scan
  | getServingCellinfos | getNeighbouringCellinfos | requestCallBarring | cancelUssd | queryFdn =>
    exact placed_of_withProxy unchecked hcontext rfl (fun _ => rfl) (fun _ => rfl) (fun _ => rfl)
      fun _ _ => rfl
  | changePin _ _ _ | enterPin _ _ | resetPin _ _ _ | lockPin _ _ | unlockPin _ _
  | openLogicalChannel _ _ _ | closeLogicalChannel _ | transmitApduLogicalChannel _ _ _
  | transmitApduBasicChannel _ _ _ =>
    exact placed_of_withProxy _ hcontext rfl (fun _ => rfl) (fun _ => rfl) (fun _ => rfl)
      whenPresent_of_complete
  | setUiccEnablement state =>
    refine placed_of_withProxy _ hcontext rfl (fun _ => rfl) (fun _ => rfl) (fun _ => rfl)
      fun h hne => ?_
    have hcomplete : (whenReady ctx <|>
        Sim.whenPresent c.cfg c.slotId c.present true ctx.complete) = none := h
    change (whenReady ctx <|> Sim.whenPresent c.cfg c.slotId c.present true ctx) = none
    -- the first of its two checks does not look at the table
    cases hready : whenReady ctx with
    | some code =>
      rw [hready] at hcomplete
      contradiction
    | none =>
      rw [hready] at hcomplete
      have hpresent : Sim.whenPresent c.cfg c.slotId c.present true ctx.complete = none :=
        hcomplete
      exact whenPresent_of_complete hpresent hne
  | _ =>
    exact placed_of_withProxy _ hcontext rfl (fun _ => rfl) (fun _ => rfl) (fun _ => rfl)
      fun h _ => h

end

end Request

/-! ## Filling the table -/

namespace Manager

/-- What a filling of the table meets: the environment, and the proxies that the bus library makes
for the object and the interface of each cell. -/
structure Filling where
  getenv : Environment
  newProxy : ℕ → ProxyType → Ptr

/-- A change of a property that the bus library reports for the proxy of a modem, and what a filling
would meet at the time. -/
structure ModemChange where
  modem : ℕ
  name : String
  iter : Iter
  filling : Filling

end Manager

namespace DbusContext

variable (cfg : Config) (bits : ℕ) (env : OpenEnv) (ctx : DbusContext)

/-- `release_mutable_dbus_proxy`, on the table of the context. -/
def releaseMutableDbusProxy : DbusContext :=
  { ctx with
    dbusProxy := fun slot type =>
      if slot < cfg.modemActiveCount ∧ type ≠ .modem then null else ctx.dbusProxy slot type }

/-- `get_mutable_dbus_proxy`, on the table of the context. -/
def getMutableDbusProxy (f : Filling) : DbusContext :=
  Manager.getMutableDbusProxy cfg
    { env with
      isInterfaceSupported := isInterfaceSupported bits f.getenv
      newProxy := f.newProxy } ctx

/-- `get_modem_id_by_proxy`, on the table of the context. -/
def getModemIdByProxy (proxy : Ptr) : ℕ :=
  if proxy = null then 0
  else
    ((List.range cfg.modemActiveCount).find? fun slot =>
      (.modem :: mutableTypes).any fun type => ctx.dbusProxy slot type = proxy).getD 0

/-- `on_modem_property_change`, with the fillings that it makes. -/
def onModemPropertyChange (f : Filling) (proxy : Ptr) (name : String) (iter : Iter) :
    Option (DbusContext × List Filling) :=
  if name ≠ "ModemState" then some (ctx, [])
  else
    let modemId := ctx.getModemIdByProxy cfg proxy
    iter.getInt.map fun newState =>
      let refreshed :=
        if ctx.modemState modemId = modemStateAware ∧ newState = modemStateAlive then
          (((ctx.releaseMutableDbusProxy cfg).getMutableDbusProxy cfg bits env f), [f])
        else (ctx, [])
      ({ refreshed.1 with
          modemState := Function.update refreshed.1.modemState modemId newState }, refreshed.2)

/-- The watch is invoked with the proxy that stands in the modem column. -/
def changed : Step DbusContext ModemChange Filling := fun ctx e =>
  ctx.onModemPropertyChange cfg bits env e.filling (ctx.dbusProxy e.modem .modem) e.name e.iter

end DbusContext

namespace Manager

/-! ## Runs -/

section

variable {cfg : Config} {bits : ℕ} {env : OpenEnv} {ctx : DbusContext} {first last f : Filling}
  {e : ModemChange} {es : List ModemChange}

/-- What the bus library promises: a proxy is not NULL, and proxies that are in use at the same time
are different. The proxies of the modems are in use all the time. -/
structure LawfulFilling (cfg : Config) (first f : Filling) : Prop where
  ne_null : ∀ i < cfg.modemActiveCount, ∀ type, f.newProxy i type ≠ null
  apart : ∀ i < cfg.modemActiveCount, ∀ j < cfg.modemActiveCount, ∀ type type',
    f.newProxy i type = f.newProxy j type' → i = j
  modem_apart : ∀ i < cfg.modemActiveCount, ∀ j < cfg.modemActiveCount, ∀ type ≠ .modem,
    f.newProxy j type ≠ first.newProxy i .modem

/-- The modem exists, and its state is a number. -/
def ModemChange.Sound (cfg : Config) (e : ModemChange) : Prop :=
  e.modem < cfg.modemActiveCount ∧ (e.name = "ModemState" → e.iter.getInt.isSome = true)

/-- The state that a change reports. -/
def ModemChange.state (e : ModemChange) : Option ℤ :=
  if e.name = "ModemState" then e.iter.getInt else none

/-- The states of the modems behind a change. -/
def ModemChange.record (states : ℕ → ℤ) (e : ModemChange) : ℕ → ℤ :=
  e.state.elim states (Function.update states e.modem)

/-- A modem that has been aware is alive. -/
def ModemChange.Wakes (states : ℕ → ℤ) (e : ModemChange) : Prop :=
  states e.modem = modemStateAware ∧ e.state = some modemStateAlive

instance (states : ℕ → ℤ) (e : ModemChange) : Decidable (e.Wakes states) :=
  inferInstanceAs (Decidable (_ ∧ _))

/-- The fillings at which a modem wakes up. -/
def wakings : (ℕ → ℤ) → List ModemChange → List Filling
  | _, [] => []
  | states, e :: es =>
    (if e.Wakes states then [e.filling] else []) ++ wakings (e.record states) es

/-- The fillings of a run at which a modem wakes up. In the beginning they are all powered off. -/
def refills (es : List ModemChange) : List Filling := wakings (fun _ => modemStatePowerOff) es

/-- The filling that the table has from a run. -/
def lastFilling (first : Filling) (es : List ModemChange) : Filling :=
  (first :: refills es).getLast (List.cons_ne_nil _ _)

/-- The table has been filled with the proxies of the modems first, and with the others last. -/
structure Filled (cfg : Config) (bits : ℕ) (first last : Filling) (ctx : DbusContext) : Prop where
  modem : ∀ i < cfg.modemActiveCount, ctx.dbusProxy i .modem = first.newProxy i .modem
  cell : ∀ i < cfg.modemActiveCount, ∀ type ≠ .modem, ctx.dbusProxy i type =
    if isInterfaceSupported bits last.getenv type then last.newProxy i type else null

/-- The proxy of a modem is found in its own row. -/
theorem Filled.getModemIdByProxy_eq (h : Filled cfg bits first last ctx)
    (hfirst : LawfulFilling cfg first first) (hlast : LawfulFilling cfg first last) {i : ℕ}
    (hi : i < cfg.modemActiveCount) :
    ctx.getModemIdByProxy cfg (ctx.dbusProxy i .modem) = i := by
  have hne : ctx.dbusProxy i .modem ≠ null := by
    rw [h.modem i hi]
    exact hfirst.ne_null i hi .modem
  -- the search goes through all proxies of a row, but no other row has this one
  have hrow : ∀ j < cfg.modemActiveCount, ∀ type,
      ctx.dbusProxy j type = ctx.dbusProxy i .modem → j = i := by
    intro j hj type heq
    rw [h.modem i hi] at heq hne
    by_cases htype : type = .modem
    · rw [htype, h.modem j hj] at heq
      exact hfirst.apart j hj i hi _ _ heq
    · rw [h.cell j hj type htype] at heq
      split at heq
      · exact absurd heq (hlast.modem_apart i hi j hj type htype)
      · exact absurd heq.symm hne
  rw [DbusContext.getModemIdByProxy, if_neg hne]
  cases hfind : (List.range cfg.modemActiveCount).find? fun j =>
      (.modem :: mutableTypes).any fun type => ctx.dbusProxy j type = ctx.dbusProxy i .modem with
  | none =>
    have hnone := List.find?_eq_none.mp hfind i (List.mem_range.mpr hi)
    simp at hnone
  | some j =>
    have hmem := List.mem_range.mp (List.mem_of_find?_eq_some hfind)
    have hany := List.find?_some (p := fun j => (.modem :: mutableTypes).any fun type =>
      ctx.dbusProxy j type = ctx.dbusProxy i .modem) hfind
    obtain ⟨type, -, heq⟩ := List.any_eq_true.mp hany
    exact hrow j hmem type (of_decide_eq_true heq)

/-- Filling the table again leaves the modem column. -/
theorem Filled.refill (h : Filled cfg bits first last ctx) (f : Filling) :
    Filled cfg bits first f
      ((ctx.releaseMutableDbusProxy cfg).getMutableDbusProxy cfg bits env f) := by
  constructor
  · intro i hi
    simp [DbusContext.getMutableDbusProxy, getMutableDbusProxy, DbusContext.releaseMutableDbusProxy,
      h.modem i hi]
  · intro i hi type htype
    simp [DbusContext.getMutableDbusProxy, getMutableDbusProxy, hi, htype]

/-- A change is handled, and the table is filled exactly if a modem wakes up. -/
theorem changed_eq (h : Filled cfg bits first last ctx) (hfirst : LawfulFilling cfg first first)
    (hlast : LawfulFilling cfg first last) (hsound : e.Sound cfg) :
    ∃ ctx', DbusContext.changed cfg bits env ctx e =
        some (ctx', if e.Wakes ctx.modemState then [e.filling] else []) ∧
      Filled cfg bits first (if e.Wakes ctx.modemState then e.filling else last) ctx' ∧
      ctx'.modemState = e.record ctx.modemState ∧
      ctx'.dbusProxyManager = ctx.dbusProxyManager := by
  obtain ⟨hmodem, htyped⟩ := hsound
  by_cases hname : e.name = "ModemState"
  · obtain ⟨newState, hnew⟩ := Option.isSome_iff_exists.mp (htyped hname)
    have hstate : e.state = some newState := by rw [ModemChange.state, if_pos hname, hnew]
    have hwakes : e.Wakes ctx.modemState ↔
        ctx.modemState e.modem = modemStateAware ∧ newState = modemStateAlive := by
      rw [ModemChange.Wakes, hstate, Option.some_inj]
    have hrecord : e.record ctx.modemState = Function.update ctx.modemState e.modem newState := by
      rw [ModemChange.record, hstate]
      rfl
    -- the state is stored for the modem whose proxy the watch is invoked with
    have hid := h.getModemIdByProxy_eq hfirst hlast hmodem
    simp only [DbusContext.changed, DbusContext.onModemPropertyChange, hname, ne_eq,
      not_true_eq_false, reduceIte, hid, hnew, Option.map_some, ← hwakes, hrecord]
    by_cases hw : e.Wakes ctx.modemState
    · simp only [if_pos hw]
      exact ⟨_, rfl, ⟨(h.refill e.filling).modem, (h.refill e.filling).cell⟩, rfl, rfl⟩
    · simp only [if_neg hw]
      exact ⟨_, rfl, ⟨h.modem, h.cell⟩, rfl, rfl⟩
  · have hstate : e.state = none := if_neg hname
    have hwakes : ¬ e.Wakes ctx.modemState := by
      rw [ModemChange.Wakes, hstate]
      simp
    refine ⟨ctx, ?_, ?_, ?_, rfl⟩
    · rw [if_neg hwakes]
      exact if_pos hname
    · rwa [if_neg hwakes]
    · rw [ModemChange.record, hstate]
      rfl

/-- A run is handled to its end. -/
theorem run_changed (h : Filled cfg bits first last ctx) (hfirst : LawfulFilling cfg first first)
    (hlast : LawfulFilling cfg first last)
    (hes : ∀ e ∈ es, e.Sound cfg ∧ LawfulFilling cfg first e.filling) :
    ∃ ctx', run (DbusContext.changed cfg bits env) ctx es =
        some (ctx', wakings ctx.modemState es) ∧
      Filled cfg bits first
        ((last :: wakings ctx.modemState es).getLast (List.cons_ne_nil _ _)) ctx' ∧
      LawfulFilling cfg first ((last :: wakings ctx.modemState es).getLast (List.cons_ne_nil _ _)) ∧
      ctx'.dbusProxyManager = ctx.dbusProxyManager := by
  -- the filling that counts is the one of the last modem that has woken up
  induction es generalizing ctx last with
  | nil => exact ⟨ctx, rfl, h, hlast, rfl⟩
  | cons e es ih =>
    rw [List.forall_mem_cons] at hes
    obtain ⟨ctx₁, hstep, hfilled, hstate, hmanager⟩ :=
      changed_eq h hfirst hlast hes.1.1
    have hlawful :
        LawfulFilling cfg first (if e.Wakes ctx.modemState then e.filling else last) := by
      split
      · exact hes.1.2
      · exact hlast
    obtain ⟨ctx₂, hrun, hfilled₂, hlawful₂, hmanager₂⟩ := ih hfilled hlawful hes.2
    rw [hstate] at hrun hfilled₂ hlawful₂
    have hgetLast : ((if e.Wakes ctx.modemState then e.filling else last) ::
        wakings (e.record ctx.modemState) es).getLast (List.cons_ne_nil _ _) =
          (last :: wakings ctx.modemState (e :: es)).getLast (List.cons_ne_nil _ _) := by
      by_cases hw : e.Wakes ctx.modemState
      · simp only [wakings, if_pos hw, List.singleton_append, List.getLast_cons_cons]
      · simp only [wakings, if_neg hw, List.nil_append]
    rw [hgetLast] at hfilled₂ hlawful₂
    exact ⟨ctx₂, run_cons_eq_some_iff.mpr ⟨ctx₁, _, _, hstep, hrun, rfl⟩, hfilled₂, hlawful₂,
      hmanager₂.trans hmanager⟩

theorem wakings_congr {states states' : ℕ → ℤ} (hes : ∀ e ∈ es, e.Sound cfg)
    (h : ∀ i < cfg.modemActiveCount, states i = states' i) :
    wakings states es = wakings states' es := by
  -- the states of other slots are never looked at
  induction es generalizing states states' with
  | nil => rfl
  | cons e es ih =>
    rw [List.forall_mem_cons] at hes
    have hwakes : e.Wakes states ↔ e.Wakes states' := by
      rw [ModemChange.Wakes, ModemChange.Wakes, h e.modem hes.1.1]
    have hrecord : ∀ i < cfg.modemActiveCount, e.record states i = e.record states' i := by
      intro i hi
      rw [ModemChange.record, ModemChange.record]
      cases e.state with
      | none => exact h i hi
      | some state =>
        by_cases hmodem : i = e.modem
        · simp [hmodem]
        · simp [Function.update_of_ne hmodem, h i hi]
    simp only [wakings, hwakes, ih hes.2 hrecord]

/-- `tapi_open` fills the table. -/
theorem filled_of_tapiOpen {clientName : String}
    (h : tapiOpen cfg clientName
      { env with
        isInterfaceSupported := isInterfaceSupported bits first.getenv
        newProxy := first.newProxy } = some ctx) :
    Filled cfg bits first first ctx ∧ ctx.dbusProxyManager = env.managerProxy ∧
      ∀ i < cfg.modemActiveCount, ctx.modemState i = modemStatePowerOff := by
  unfold tapiOpen at h
  split at h
  · contradiction
  · dsimp only at h
    split at h
    · contradiction
    · obtain rfl := Option.some_inj.mp h
      refine ⟨⟨fun i hi => ?_, fun i hi type htype => ?_⟩, rfl, fun i hi => if_pos hi⟩
      · simp [getMutableDbusProxy, getPersistentDbusProxy, hi]
      · simp [getMutableDbusProxy, hi, htype]

end

end Manager

/-! ## Objects -/

namespace Request

/-- The proxy that the bus library has made for the object and the interface of a place. -/
def made (env : OpenEnv) (first last : Filling) : Slot → Ptr
  | .manager => env.managerProxy
  | .cell modem type =>
    if type = .modem then first.newProxy modem type else last.newProxy modem type

section

variable {r : Request} {c : Caller} {cfg : Config} {bits : ℕ} {env : OpenEnv} {ctx : DbusContext}
  {first last : Filling} {es : List ModemChange}

/-- A slot that there is has its row in the table. -/
theorem toNat_lt_of_isValidSlotid {slotId : ℤ} (h : isValidSlotid cfg slotId = true) :
    slotId.toNat < cfg.modemActiveCount := by
  simp only [Telephony.isValidSlotid, decide_eq_true_eq] at h
  omega

/-- A request that is not about the manager is about a slot that there is. -/
theorem Valid.isValidSlotid (h : r.Valid c) (hcontext : c.context = some ctx)
    (hinterface : r.interface ≠ none) : isValidSlotid c.cfg c.slotId = true := by
  obtain ⟨s, hs⟩ := h
  rw [hcontext, Option.map_some] at hs
  exact ((placed rfl r).proxy s hs).2.2 hinterface

/-- The place of a request is empty exactly if the interface was switched off, and has the proxy
that was made for it otherwise. -/
theorem proxyAt_target (hbits : 0 < bits) (h : Filled cfg bits first last ctx)
    (hmanager : ctx.dbusProxyManager = env.managerProxy) (hne : env.managerProxy ≠ null)
    (hfirst : LawfulFilling cfg first first) (hlast : LawfulFilling cfg first last)
    (hslot : r.interface ≠ none → c.slotId.toNat < cfg.modemActiveCount) :
    (ctx.proxyAt (r.target c) = null ↔
      ∃ type, r.interface = some type ∧ type ≠ .modem ∧ TurnedOff last.getenv type) ∧
    (ctx.proxyAt (r.target c) ≠ null →
      ctx.proxyAt (r.target c) = made env first last (r.target c)) := by
  rw [target]
  cases hinterface : r.interface with
  | none => simp [DbusContext.proxyAt, made, hmanager, hne]
  | some type =>
    have hlt : c.slotId.toNat < cfg.modemActiveCount := hslot (by simp [hinterface])
    by_cases htype : type = .modem
    -- the interface of the modem itself cannot be switched off
    · have hcell := h.modem _ hlt
      simp [DbusContext.proxyAt, made, htype, hcell, hfirst.ne_null _ hlt]
    · have hcell := h.cell _ hlt type htype
      simp only [DbusContext.proxyAt, made, hcell, if_neg htype, Option.some.injEq,
        exists_eq_left', ← isInterfaceSupported_eq_false_iff hbits]
      cases isInterfaceSupported bits last.getenv type with
      | true => simp [hlast.ne_null _ hlt]
      | false => simp [htype]

/-- From `tapi_open` on, whatever the modems report: the table is filled again exactly when a modem
wakes up, and a request whose arguments are in order reaches the proxy that has been made for its
slot and its interface, exactly if the environment had not switched the interface off then. -/
theorem arrives_iff {clientName : String} {ctx₀ : DbusContext} (hbits : 0 < bits)
    (hopen : tapiOpen cfg clientName
      { env with
        isInterfaceSupported := isInterfaceSupported bits first.getenv
        newProxy := first.newProxy } = some ctx₀)
    (hmanager : env.managerProxy ≠ null) (hfirst : LawfulFilling cfg first first)
    (hes : ∀ e ∈ es, e.Sound cfg ∧ LawfulFilling cfg first e.filling) :
    ∃ ctx, run (DbusContext.changed cfg bits env) ctx₀ es = some (ctx, refills es) ∧
      ∀ (r : Request) (c : Caller) (ctx' : DbusContext), c.cfg = cfg → c.context = some ctx' →
        ctx'.proxyAt = ctx.proxyAt → r.Valid c →
        ((∃ s, r.Submits c s) ↔ ¬ ∃ type, r.interface = some type ∧ type ≠ .modem ∧
          TurnedOff (lastFilling first es).getenv type) ∧
        ∀ s, r.Submits c s → s.proxy = made env first (lastFilling first es) (r.target c) := by
  obtain ⟨hfilled, hproxy, hstates⟩ := filled_of_tapiOpen hopen
  obtain ⟨ctx, hrun, hfilled', hlast, hproxy'⟩ := run_changed hfilled hfirst hfirst hes
  have hwakings : wakings ctx₀.modemState es = refills es :=
    wakings_congr (fun e he => (hes e he).1) hstates
  rw [hwakings] at hrun hfilled' hlast
  refine ⟨ctx, hrun, fun r c ctx' hcfg hcontext hproxies hvalid => ?_⟩
  have hslot : r.interface ≠ none → c.slotId.toNat < cfg.modemActiveCount := by
    intro hinterface
    have hvalid := hvalid.isValidSlotid hcontext hinterface
    rw [hcfg] at hvalid
    exact toNat_lt_of_isValidSlotid hvalid
  obtain ⟨hempty, hmade⟩ :=
    proxyAt_target hbits hfilled' (hproxy'.trans hproxy) hmanager hfirst hlast hslot
  have hplaced := placed hcontext r
  rw [← hproxies] at hempty hmade
  constructor
  · rw [lastFilling, ← hempty]
    constructor
    · rintro ⟨s, hs⟩
      obtain ⟨hs, hne, -⟩ := hplaced.proxy s hs
      rwa [← hs]
    · exact hplaced.submits hvalid
  · intro s hs
    obtain ⟨hs, hne, -⟩ := hplaced.proxy s hs
    rw [hs] at hne ⊢
    exact hmade hne

/-! ## Switched off -/

/-- The calls of `tapi_open` all succeed. -/
def openPlaces : OpenEnv where
  context := some idleContext
  callbackData := true
  setupPrivate _ := 1
  requestName := true
  client := 1
  readyWatch := true
  isInterfaceSupported _ := true
  managerProxy := 1
  newProxy _ _ := 1

/-- A proxy of its own for each place. -/
def samplePlaces (getenv : Environment) : Filling :=
  ⟨getenv, fun i type => 2 + 16 * i + type.ctorIdx⟩

/-- Nothing is switched off. -/
def withEverything : Filling := samplePlaces fun _ => none

/-- The calls are switched off. -/
def withoutCalls : Environment := fun name =>
  if name = "OFONO_VOICECALL_MANAGER_INTERFACE_SUPPORT" then some " -0" else none

/-- A modem wakes up behind the change of the environment. -/
def sampleWaking : List ModemChange :=
  [⟨0, "ModemState", [.fixed .int32 modemStateAware], samplePlaces withoutCalls⟩,
    ⟨0, "ModemState", [.fixed .int32 modemStateAlive], samplePlaces withoutCalls⟩]

theorem lawfulFilling_samplePlaces (getenv getenv' : Environment) :
    LawfulFilling twoModems (samplePlaces getenv) (samplePlaces getenv') := by
  have hmodem : ProxyType.modem.ctorIdx = 0 := rfl
  have hne : ∀ type : ProxyType, type ≠ .modem → type.ctorIdx ≠ 0 := by
    intro type htype
    cases type <;> first | exact absurd rfl htype | decide
  refine ⟨fun i _ type => ?_, fun i _ j _ type type' h => ?_, fun i _ j _ type htype h => ?_⟩
  · have hplace : (samplePlaces getenv').newProxy i type = 2 + 16 * i + type.ctorIdx := rfl
    rw [hplace]
    rintro (hnull : 2 + 16 * i + type.ctorIdx = 0)
    omega
  · have h₁ := ctorIdx_lt type
    have h₂ := ctorIdx_lt type'
    have hplaces : 2 + 16 * i + type.ctorIdx = 2 + 16 * j + type'.ctorIdx := h
    omega
  · have h₁ := ctorIdx_lt type
    have h₂ := hne type htype
    have hplaces : 2 + 16 * j + type.ctorIdx = 2 + 16 * i + ProxyType.modem.ctorIdx := h
    omega

/-- Then the messages on a SIM cannot be asked for, although they are not calls. -/
theorem arrives_withoutCalls :
    ∃ ctx₀ ctx, tapiOpen twoModems "app"
        { openPlaces with
          isInterfaceSupported := isInterfaceSupported 64 withEverything.getenv
          newProxy := withEverything.newProxy } = some ctx₀ ∧
      run (DbusContext.changed twoModems 64 openPlaces) ctx₀ sampleWaking =
        some (ctx, [samplePlaces withoutCalls]) ∧
      (¬ ∃ s, (getAllMessagesFromSim (some [])).Submits ⟨twoModems, some ctx, 1, 0, 1, none⟩ s) ∧
      ∃ s, scan.Submits ⟨twoModems, some ctx, 1, 0, 1, none⟩ s := by
  have hopen : ∃ ctx₀, tapiOpen twoModems "app"
      { openPlaces with
        isInterfaceSupported := isInterfaceSupported 64 withEverything.getenv
        newProxy := withEverything.newProxy } = some ctx₀ := ⟨_, rfl⟩
  obtain ⟨ctx₀, hopen⟩ := hopen
  have hes : ∀ e ∈ sampleWaking,
      e.Sound twoModems ∧ LawfulFilling twoModems withEverything e.filling := by
    intro e he
    obtain rfl | rfl : e = _ ∨ e = _ := by simpa [sampleWaking] using he
    · exact ⟨⟨by decide, fun _ => rfl⟩, lawfulFilling_samplePlaces _ _⟩
    · exact ⟨⟨by decide, fun _ => rfl⟩, lawfulFilling_samplePlaces _ _⟩
  obtain ⟨ctx, hrun, harrives⟩ :=
    arrives_iff (by decide) hopen (by decide) (lawfulFilling_samplePlaces _ _) hes
  refine ⟨ctx₀, ctx, hopen, hrun, ?_, ?_⟩
  · have hvalid : (getAllMessagesFromSim (some [])).Valid ⟨twoModems, some ctx, 1, 0, 1, none⟩ :=
      ⟨_, rfl, rfl⟩
    rw [(harrives _ _ ctx rfl rfl rfl hvalid).1, not_not]
    exact ⟨.call, rfl, by decide, " -0", rfl, [' '], ['-'], ['0'], rfl, by simp [isSpace],
      .inr (.inl rfl), by simp, by simp⟩
  · have hvalid : scan.Valid ⟨twoModems, some ctx, 1, 0, 1, none⟩ := ⟨_, rfl, rfl⟩
    rw [(harrives _ _ ctx rfl rfl rfl hvalid).1]
    rintro ⟨type, htype, -, text, htext, -⟩
    obtain rfl := Option.some_inj.mp htype
    cases htext

end

end Request

end Telephony
