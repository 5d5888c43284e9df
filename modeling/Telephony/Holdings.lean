import Telephony.Manager.Session
import Telephony.Stk.System
import Telephony.Submission
import Telephony.Tenants

/-!
# The memory of registrations

A registration is a handler with a record. It is allocated by the function that asks for a signal
watch or for an agent object, it is read and written when a signal or a method call arrives, and
`handler_free` destroys it when the watch or the object is removed. Each of these functions cleans
up on its own if it fails, and the one that registers agents leaves that out if the bus library
refuses the object.

## Main definitions

* `Telephony.registrationLedger` — what a registration does to the two blocks
* `Telephony.Registrar` — the functions that ask for a watch
* `Stk.tapiStkAgentInterfaceUnregister`, `Sms.tapiSmsUnregister`, … — the functions that remove one
* `Telephony.Holdings` — the registrations that there are, as a machine that emits a ledger

## Main results

* `Telephony.Registrar.acts` — a registrar holds its blocks exactly if it has made a watch
* `Telephony.Holdings.live_iff` — the blocks that are live are those of the watches and agents that
  are there, and of the agents that were refused
-/

namespace Telephony

open DBus Ledger Machine Manager Stk

variable {δ : Type}

/-! ## The blocks of one registration -/

/-- The blocks of a registration. -/
def registrationBlocks : List Block := [.handler, .result]

/-- What the two allocations of a registration meet. -/
def blockMemory (handler result : Bool) : Block → Bool
  | .handler => handler
  | .result => result
  | _ => false

/-- Allocate the blocks, fill them in, and hand them to the bus library. `refused` is what follows
if it does not take them. -/
def registrationLedger (order : List (Ledger.Step Block)) (memory : Block → Bool)
    (granted : Bool) (refused : List (Op Block)) : List (Op Block) :=
  match acquire memory order with
  | (ops, some _) => ops
  | (ops, none) =>
    ops ++ [.use .handler, .use .result] ++ if granted then [] else refused

/-- The blocks are live. -/
def Acquires (ops : List (Op Block)) : Prop :=
  ∀ b, advance b .fresh ops = some (if b ∈ registrationBlocks then .live else .fresh)

theorem uses_registration : Uses registrationBlocks [.use .handler, .use .result] := by decide

theorem releases_handlerFree : Releases registrationBlocks handlerFree := by decide

section

variable {order : List (Ledger.Step Block)} {memory : Block → Bool} {granted : Bool}
  {refused : List (Op Block)} {ops : List (Op Block)}

/-- The two orders in which the blocks are allocated. -/
def IsOrder (order : List (Ledger.Step Block)) : Prop :=
  order = handlerThenResult ∨ order = resultThenHandler

theorem IsOrder.sound (h : IsOrder order) : Sound [] order := by
  rcases h with rfl | rfl <;> decide

theorem IsOrder.acquires (h : IsOrder order) (hdone : (acquire memory order).2 = none) :
    Acquires ((acquire memory order).1 ++ [.use .handler, .use .result]) := by
  have hmemory : ∀ b ∈ registrationBlocks, memory b = true := by
    have hsteps := acquire_eq_none_iff.mp hdone
    rcases h with rfl | rfl <;>
      simpa [handlerThenResult, resultThenHandler, Step.Succeeds, registrationBlocks,
        and_comm] using hsteps
  have hblocks : ∀ b, b ∈ acquisitions [] order ↔ b ∈ registrationBlocks := by
    rcases h with rfl | rfl <;>
      simp [handlerThenResult, resultThenHandler, acquisitions, registrationBlocks, or_comm]
  intro b
  have hfate : fateOf memory [] b = .fresh := by simp [fateOf]
  have hacquired := advance_acquire (b := b) h.sound hdone
  rw [hfate] at hacquired
  rw [advance_append, hacquired, Option.bind_some]
  by_cases hb : b ∈ registrationBlocks
  · rw [if_pos hb, fateOf, if_pos ⟨(hblocks b).mpr hb, hmemory b hb⟩]
    exact uses_registration.advance_live
  · rw [if_neg hb, fateOf, if_neg fun hlive => hb ((hblocks b).mp hlive.1)]
    exact advance_of_forall_ne fun op hop hblock => hb (hblock ▸ (uses_registration op hop).2)

/-- Blocks that are acquired and released again are settled. -/
theorem Acquires.balanced (h : Acquires ops) (hreleases : Releases registrationBlocks refused) :
    Balanced (ops ++ refused) := by
  intro b
  unfold Settled
  rw [advance_append, h b, Option.bind_some]
  by_cases hb : b ∈ registrationBlocks
  · rw [if_pos hb]
    exact .inr (hreleases.1 b hb)
  · rw [if_neg hb]
    exact .inl (advance_of_forall_ne (hreleases.block_ne hb))

/-- A registration that does not come to its end leaves nothing. -/
theorem balanced_of_failed (horder : IsOrder order) (h : (acquire memory order).2 ≠ none) :
    Balanced (registrationLedger order memory granted refused) := by
  intro b
  have hsettled := settled_acquire (b := b) horder.sound h
  unfold registrationLedger
  split
  case h_1 heq => rwa [heq] at hsettled
  case h_2 heq => exact absurd (congrArg Prod.snd heq) h

theorem registrationLedger_of_done (h : (acquire memory order).2 = none) :
    registrationLedger order memory granted refused =
      (acquire memory order).1 ++ [.use .handler, .use .result] ++
        if granted then [] else refused := by
  unfold registrationLedger
  split
  case h_1 heq => simp [heq] at h
  case h_2 heq => rw [heq]

/-- What becomes of the blocks of a registration that cleans up. -/
theorem registrationLedger_cases (horder : IsOrder order) :
    Balanced (registrationLedger order memory granted handlerFree) ∧
        ¬ ((acquire memory order).2 = none ∧ granted = true) ∨
      Acquires (registrationLedger order memory granted handlerFree) ∧
        (acquire memory order).2 = none ∧ granted = true := by
  by_cases hdone : (acquire memory order).2 = none
  · rw [registrationLedger_of_done hdone]
    have hacquires := horder.acquires hdone
    cases granted with
    | true => exact .inr ⟨by simpa using hacquires, hdone, rfl⟩
    | false => exact .inl ⟨hacquires.balanced releases_handlerFree, by simp⟩
  · exact .inl ⟨balanced_of_failed horder hdone, fun h => hdone h.1⟩

end

/-! ## Watches -/

/-- The allocations that a registrar of watches meets. -/
def WatchEnv.memory (env : WatchEnv δ) : Block → Bool := blockMemory env.handler env.result.isSome

/-- A registration makes at most one watch, and the blocks are live exactly if there is one. -/
def Acts (watches : List (Watch δ)) (ops : List (Op Block)) : Prop :=
  watches = [] ∧ Balanced ops ∨ ∃ w, watches = [w] ∧ Acquires ops

section Watches

variable {cfg : Config} {env : WatchEnv δ} {context : Option DbusContext} {slotId : ℤ}
  {ctx : DbusContext} {inRange asks : Bool} {record : AsyncResult δ → AsyncResult δ}
  {pHandle : Ptr} {spec : Option SignalSpec} {watched : String → Option SignalSpec}
  {order : List (Ledger.Step Block)}

/-- What `addWatch` does to the blocks. -/
def addWatchLedger (order : List (Ledger.Step Block)) (env : WatchEnv δ) (asks : Bool) :
    List (Op Block) :=
  registrationLedger order env.memory (asks && env.watch ≠ 0) handlerFree

/-- What `registerSignal` does to them: nothing, until its checks have passed. -/
def registerSignalLedger (order : List (Ledger.Step Block)) (cfg : Config) (env : WatchEnv δ)
    (context : Option DbusContext) (slotId : ℤ) (inRange asks : Bool) : List (Op Block) :=
  match context with
  | none => []
  | some _ =>
    if !isValidSlotid cfg slotId || !inRange then []
    else
      match tapiUtilsGetModemPath cfg slotId with
      | none => []
      | some _ => addWatchLedger order env asks

theorem balanced_nil : Balanced ([] : List (Op Block)) := fun _ => .inl rfl

theorem IsOrder.done_iff (h : IsOrder order) :
    (acquire env.memory order).2 = none ↔ env.handler = true ∧ env.result.isSome = true := by
  rw [acquire_eq_none_iff]
  rcases h with rfl | rfl <;>
    simp [handlerThenResult, resultThenHandler, Step.Succeeds, WatchEnv.memory, blockMemory,
      and_comm]

theorem acts_addWatch (horder : IsOrder order) :
    Acts (addWatch env ctx record pHandle spec).watches
      (addWatchLedger order env spec.isSome) := by
  -- the watch is made exactly if both blocks are there and the bus library grants it
  have hwatches : (addWatch env ctx record pHandle spec).watches = [] ∧
        ¬ ((acquire env.memory order).2 = none ∧ (spec.isSome && env.watch ≠ 0) = true) ∨
      (∃ w, (addWatch env ctx record pHandle spec).watches = [w]) ∧
        (acquire env.memory order).2 = none ∧ (spec.isSome && env.watch ≠ 0) = true := by
    rw [horder.done_iff]
    unfold addWatch
    cases env.handler <;> cases env.result <;> cases spec <;> simp [Registered.refused]
    split <;> simp_all
  rcases hwatches with ⟨hnil, hnot⟩ | ⟨⟨w, hw⟩, hdone⟩
  · rcases registrationLedger_cases horder with ⟨hbalanced, -⟩ | ⟨-, hgranted⟩
    · exact .inl ⟨hnil, hbalanced⟩
    · exact absurd hgranted hnot
  · rcases registrationLedger_cases horder with ⟨-, hnot⟩ | ⟨hacquires, -⟩
    · exact absurd hdone hnot
    · exact .inr ⟨w, hw, hacquires⟩

theorem acts_registerSignal (horder : IsOrder order)
    (h : inRange = true → ∀ path, (watched path).isSome = asks) :
    Acts (registerSignal cfg env context slotId inRange record pHandle watched).watches
      (registerSignalLedger order cfg env context slotId inRange asks) := by
  unfold registerSignal registerSignalLedger
  cases context with
  | none => exact .inl ⟨rfl, balanced_nil⟩
  | some ctx =>
    dsimp only
    split
    · exact .inl ⟨rfl, balanced_nil⟩
    · rename_i hchecks
      cases tapiUtilsGetModemPath cfg slotId with
      | none => exact .inl ⟨rfl, balanced_nil⟩
      | some path =>
        rw [← h (by simp_all) path]
        exact acts_addWatch horder

end Watches

/-! ## Registrars -/

/-- The functions that ask for a watch. -/
inductive Registrar
  | callState | ringbackTone | emergencyList | defaultVoicecallSlot
  | network (msg : IndicationMsg) | data (msg : IndicationMsg) | sim (msg : IndicationMsg)
  | sms (msg : IndicationMsg) | cbs (msg : IndicationMsg) | ims | ss (msg : IndicationMsg)
  | modem (msg : IndicationMsg) | dataLoging
  deriving DecidableEq, Repr

namespace Registrar

section

variable (cfg : Config) (env : WatchEnv δ) (context : Option DbusContext) (slotId : ℤ)
  (userObj pHandle : Ptr)

/-- The call of the registrar. -/
def call : Registrar → Registered δ
  | .callState => Call.tapiCallRegisterCallStateChange cfg env context slotId userObj pHandle
  | .ringbackTone =>
    Call.tapiCallRegisterRingbackToneChange cfg env context slotId userObj pHandle
  | .emergencyList =>
    Call.tapiCallRegisterEmergencyListChange cfg env context slotId userObj pHandle
  | .defaultVoicecallSlot =>
    Call.tapiCallRegisterDefaultVoicecallSlotChange cfg env context userObj pHandle
  | .network msg => Network.tapiNetworkRegister cfg env context slotId msg userObj pHandle
  | .data msg => Data.tapiDataRegister cfg env context slotId msg userObj pHandle
  | .sim msg => Sim.tapiSimRegister cfg env context slotId msg userObj pHandle
  | .sms msg => Sms.tapiSmsRegister cfg env context slotId msg userObj pHandle
  | .cbs msg => Cbs.tapiCbsRegister cfg env context slotId msg userObj pHandle
  | .ims => Ims.tapiImsRegisterRegistrationChange cfg env context slotId userObj pHandle
  | .ss msg => Ss.tapiSsRegister cfg env context slotId msg userObj pHandle
  | .modem msg => tapiModemRegister cfg env context slotId msg userObj pHandle
  | .dataLoging => tapiManagerRegisterDataLoging cfg env context slotId userObj pHandle

/-- The order in which it allocates. -/
def order : Registrar → List (Ledger.Step Block)
  | .ringbackTone | .emergencyList | .defaultVoicecallSlot | .ims => resultThenHandler
  | _ => handlerThenResult

/-- Its check of the indication. -/
def inRange : Registrar → Bool
  | .network msg => msg.between .networkStateChange .nitzStateChange
  | .data msg => msg.between .dataEnabledChange .defaultDataSlotChange
  | .sim msg => msg.between .simStateChange .simIccidChange
  | .sms msg => msg.between .incomingMessage .defaultSmsSlotChanged
  | .cbs msg => msg.between .incomingCbs .emergencyCbs
  | .ss msg => msg.between .callBarringPropertyChange .ussdPropertyChange
  | _ => true

/-- What it does to the two blocks. The registrar of the modem, which has no range, frees them if
its switch has no case for the indication. -/
def ledger : Registrar → List (Op Block)
  | .dataLoging =>
    match context with
    | none => []
    | some _ =>
      if !isValidSlotid cfg slotId then [] else addWatchLedger handlerThenResult env true
  | .defaultVoicecallSlot =>
    registerSignalLedger resultThenHandler cfg env context 0 true true
  | .modem msg =>
    registerSignalLedger handlerThenResult cfg env context slotId true
      (msg ∈ [.radioStateChange, .phoneStateChange, .oemHookRaw, .modemRestart,
        .airplaneModeChange, .deviceInfoChange, .modemStateChange, .modemEccListChange])
  | r => registerSignalLedger r.order cfg env context slotId r.inRange true

end

variable {cfg : Config} {env : WatchEnv δ} {context : Option DbusContext} {slotId : ℤ}
  {userObj pHandle : Ptr}

theorem isOrder_order (r : Registrar) : IsOrder r.order := by
  cases r <;> first | exact .inl rfl | exact .inr rfl

/-- A registrar holds its blocks exactly if it has made a watch. -/
theorem acts (r : Registrar) :
    Acts (r.call cfg env context slotId userObj pHandle).watches
      (r.ledger cfg env context slotId) := by
  cases r with
  | callState | ringbackTone | emergencyList | ims =>
    exact acts_registerSignal (isOrder_order _) fun _ _ => rfl
  | defaultVoicecallSlot => exact acts_registerSignal (.inr rfl) fun _ _ => rfl
  | network msg | data msg | sim msg | sms msg | cbs msg | ss msg =>
    -- the switch has a case for every indication in the range
    refine acts_registerSignal (.inl rfl) fun hrange path => ?_
    cases msg <;> first | rfl | exact absurd hrange (by decide)
  | modem msg =>
    refine acts_registerSignal (.inl rfl) fun _ path => ?_
    cases msg <;> rfl
  | dataLoging =>
    cases context with
    | none => exact .inl ⟨rfl, balanced_nil⟩
    | some ctx =>
      cases hslot : isValidSlotid cfg slotId with
      | false =>
        simp only [call, tapiManagerRegisterDataLoging, ledger, hslot]
        exact .inl ⟨rfl, balanced_nil⟩
      | true =>
        simp only [call, tapiManagerRegisterDataLoging, ledger, hslot, Bool.not_true,
          Bool.false_eq_true, if_false]
        exact acts_addWatch (.inl rfl)

end Registrar

/-- The registrars that `tapi_register` calls. -/
def registrarsOf (msg : IndicationMsg) : List Registrar :=
  match msg with
  | .callStateChange => [.callState]
  | .callRingBackTone => [.ringbackTone]
  | .eccListChange => [.emergencyList, .modem .modemEccListChange]
  | .defaultVoicecallSlotChange => [.defaultVoicecallSlot]
  | .networkStateChange | .voiceRegistrationStateChange | .cellinfoChange
  | .signalStrengthChange | .nitzStateChange => [.network msg]
  | .dataEnabledChange | .dataRegistrationStateChange | .dataNetworkTypeChange
  | .dataConnectionStateChange | .defaultDataSlotChange => [.data msg]
  | .simStateChange | .simUiccAppEnabledChange => [.sim msg]
  | .incomingMessage | .immediateMessage | .statusReportMessage => [.sms msg]
  | .incomingCbs | .emergencyCbs => [.cbs msg]
  | .radioStateChange | .phoneStateChange | .oemHookRaw | .modemRestart
  | .airplaneModeChange | .deviceInfoChange | .modemStateChange => [.modem msg]
  | .imsRegistrationMessage => [.ims]
  | .dataLoging => [.dataLoging]
  | _ => []

/-- `tapi_register` makes the watches of these registrars. -/
theorem watches_of_tapiRegister {cfg : Config} {env env₂ : WatchEnv δ}
    {context : Option DbusContext} {slotId : ℤ} {msg : IndicationMsg} {userObj pHandle : Ptr}
    {r : Registered δ}
    (h : tapiRegister cfg env context slotId msg userObj pHandle env₂ = some r) :
    r.watches = ((registrarsOf msg).zip [env, env₂]).flatMap fun p =>
      (p.1.call cfg p.2 context slotId userObj pHandle).watches := by
  cases msg
  case eccListChange =>
    rw [tapiRegister_eccListChange] at h
    obtain ⟨-, -, rfl⟩ := Option.map_eq_some_iff.mp h
    simp [registrarsOf, Registrar.call]
  all_goals
    obtain rfl := Option.some_inj.mp h
    first
    | rfl
    | exact (List.append_nil _).symm

/-! ## Removing a registration -/

section

variable (context : Option DbusContext) (watchId : ℤ) (live : List (Watch δ))

/-- `tapi_data_unregister`, which is the same function as `tapi_unregister`. -/
def Data.tapiDataUnregister : ℤ × List (Watch δ) := tapiUnregister context watchId live

/-- `tapi_network_unregister`. -/
def Network.tapiNetworkUnregister : ℤ × List (Watch δ) := tapiUnregister context watchId live

/-- `tapi_sim_unregister`. -/
def Sim.tapiSimUnregister : ℤ × List (Watch δ) := tapiUnregister context watchId live

/-- `tapi_ss_unregister`. -/
def Ss.tapiSsUnregister : ℤ × List (Watch δ) := tapiUnregister context watchId live

/-- `tapi_sms_unregister`. It returns what the bus library does: 1 if the watch is removed, and 0
if there is none. -/
def Sms.tapiSmsUnregister : ℤ × List (Watch δ) :=
  match context with
  | none => (-einval, live)
  | some _ =>
    if watchId ≤ 0 then (-einval, live)
    else if live.any (fun w => w.id = watchId) then (1, live.filter fun w => w.id ≠ watchId)
    else (0, live)

end

/-- The functions that remove a watch. -/
inductive Unregister
  | manager | data | network | sim | ss | sms
  deriving DecidableEq, Repr

/-- The call of the function: its return value, and the watches that are left. -/
def Unregister.call (context : Option DbusContext) (watchId : ℤ) (live : List (Watch δ)) :
    Unregister → ℤ × List (Watch δ)
  | .manager => tapiUnregister context watchId live
  | .data => Data.tapiDataUnregister context watchId live
  | .network => Network.tapiNetworkUnregister context watchId live
  | .sim => Sim.tapiSimUnregister context watchId live
  | .ss => Ss.tapiSsUnregister context watchId live
  | .sms => Sms.tapiSmsUnregister context watchId live

/-- All of them remove the watch with the id, or nothing. -/
theorem Unregister.call_cases (f : Unregister) (context : Option DbusContext) (watchId : ℤ)
    (live : List (Watch δ)) :
    (f.call context watchId live).2 = live ∨
      (f.call context watchId live).2 = live.filter fun w => w.id ≠ watchId := by
  have hmanager : (tapiUnregister context watchId live).2 = live ∨
      (tapiUnregister context watchId live).2 = live.filter fun w => w.id ≠ watchId := by
    rcases tapiUnregister_cases context watchId live with ⟨hcase, -⟩ | ⟨hcase, -⟩
    · exact .inl (by rw [hcase])
    · exact .inr (by rw [hcase])
  cases f with
  | manager | data | network | sim | ss => exact hmanager
  | sms =>
    unfold Unregister.call Sms.tapiSmsUnregister
    cases context with
    | none => exact .inl rfl
    | some ctx =>
      dsimp only
      split
      · exact .inl rfl
      · split
        · exact .inr rfl
        · exact .inl rfl

namespace Stk

/-- `tapi_stk_agent_interface_unregister`. -/
def tapiStkAgentInterfaceUnregister (context : Option DbusContext) (agents : Agents)
    (agentId : Option String) : ℤ × Agents :=
  match context, agentId with
  | some _, some path =>
    if (agents path).isSome then (ok, Function.update agents path none) else (-einval, agents)
  | _, _ => (-einval, agents)

/-- `tapi_stk_default_agent_interface_unregister`. -/
def tapiStkDefaultAgentInterfaceUnregister (cfg : Config) (context : Option DbusContext)
    (agents : Agents) (slotId : ℤ) : ℤ × Agents :=
  match context with
  | none => (-einval, agents)
  | some ctx =>
    if !isValidSlotid cfg slotId then (-einval, agents)
    else tapiStkAgentInterfaceUnregister (some ctx) agents (stkAgentDefaultPath slotId)

/-- What `tapi_stk_agent_interface_register` does to the blocks. It frees nothing if the object is
refused. -/
def registerAgentLedger (context : Option DbusContext) (agents : Agents)
    (agentId : Option String) (env : RegisterEnv) : List (Op Block) :=
  match context, agentId with
  | some _, some path =>
    registrationLedger handlerThenResult (blockMemory env.handler env.result.isSome)
      (env.granted && (agents path).isNone) []
  | _, _ => []

end Stk

/-! ## The registrations that there are -/

/-- What holds the blocks of a registration: a watch, an agent object, or, once the bus library has
refused an object, nothing. -/
inductive Tenant (δ : Type)
  | watch (w : Watch δ)
  | agent (path : String) (handler : AsyncHandler AgentData)
  | refused

namespace Tenant

def asWatch : Tenant δ → Option (Watch δ)
  | .watch w => some w
  | _ => none

/-- The user data of the agent at a path. -/
def agentAt (path : String) : Tenant δ → Option (AsyncHandler AgentData)
  | .agent path' handler => if path' = path then some handler else none
  | _ => none

end Tenant

/-- Everything that holds blocks, with the number of the registration that has allocated them. -/
structure Holdings (δ : Type) where
  tenants : List (ℕ × Tenant δ)
  count : ℕ

namespace Holdings

/-- No registration has been made. -/
def start : Holdings δ := ⟨[], 0⟩

/-- The live watches. -/
def watches (s : Holdings δ) : List (Watch δ) := s.tenants.filterMap fun t => t.2.asWatch

/-- The agents on the connection. -/
def agents (s : Holdings δ) : Agents := fun path => s.tenants.findSome? fun t => t.2.agentAt path

/-- The registrations that hold one of the tenants. -/
def owners (s : Holdings δ) (p : Tenant δ → Bool) : List ℕ :=
  (s.tenants.filter fun t => p t.2).map Prod.fst

/-- The next registration, with what it has made. -/
def enter (s : Holdings δ) (new : List (Tenant δ)) : Holdings δ :=
  ⟨s.tenants ++ new.map (s.count, ·), s.count + 1⟩

/-- The tenants that stay. -/
def keep (s : Holdings δ) (p : Tenant δ → Bool) : Holdings δ :=
  { s with tenants := s.tenants.filter fun t => p t.2 }

/-- A call of a registrar. -/
def register (s : Holdings δ) (cfg : Config) (context : Option DbusContext) (slotId : ℤ)
    (userObj pHandle : Ptr) (r : Registrar) (env : WatchEnv δ) :
    Holdings δ × List (Op (ℕ × Block)) :=
  (s.enter ((r.call cfg env context slotId userObj pHandle).watches.map .watch),
    ofOwner s.count (r.ledger cfg env context slotId))

/-- Calls of several registrars. -/
def registerAll (cfg : Config) (context : Option DbusContext) (slotId : ℤ)
    (userObj pHandle : Ptr) (s : Holdings δ) :
    List (Registrar × WatchEnv δ) → Holdings δ × List (Op (ℕ × Block))
  | [] => (s, [])
  | (r, env) :: rs =>
    let (s₁, ops₁) := s.register cfg context slotId userObj pHandle r env
    let (s₂, ops₂) := registerAll cfg context slotId userObj pHandle s₁ rs
    (s₂, ops₁ ++ ops₂)

/-- What a registration of an agent makes. -/
def madeAgent (context : Option DbusContext) (agents : Agents) (slotId : ℤ)
    (agentId : Option String) (pHandle : Ptr) (env : RegisterEnv) : List (Tenant δ) :=
  match context, agentId with
  | some ctx, some path =>
    if env.handler && env.result.isSome then
      let (code, agents') :=
        tapiStkAgentInterfaceRegister (some ctx) agents slotId (some path) pHandle env
      if code = ok then (agents' path).toList.map (.agent path) else [.refused]
    else []
  | _, _ => []

/-- A call of `tapi_stk_agent_interface_register`. -/
def registerAgent (s : Holdings δ) (context : Option DbusContext) (slotId : ℤ)
    (agentId : Option String) (pHandle : Ptr) (env : RegisterEnv) :
    Holdings δ × List (Op (ℕ × Block)) :=
  (s.enter (madeAgent context s.agents slotId agentId pHandle env),
    ofOwner s.count (registerAgentLedger context s.agents agentId env))

/-- The bus library destroys the user data of everything that does not stay. -/
def remove (s : Holdings δ) (stays : Tenant δ → Bool) : Holdings δ × List (Op (ℕ × Block)) :=
  (s.keep stays, (s.owners fun t => !stays t).flatMap fun n => ofOwner n handlerFree)

/-- A function of the library runs with the user data of some tenants. -/
def visit (s : Holdings δ) (reached : Tenant δ → Bool) : Holdings δ × List (Op (ℕ × Block)) :=
  (s, (s.owners reached).flatMap fun n => ofOwner n [.use .handler, .use .result])

/-- What the application calls, and what arrives for it. -/
inductive Event (δ : Type)
  | register (context : Option DbusContext) (slotId : ℤ) (msg : IndicationMsg)
      (userObj pHandle : Ptr) (env env₂ : WatchEnv δ)
  | registrar (context : Option DbusContext) (slotId : ℤ) (r : Registrar)
      (userObj pHandle : Ptr) (env : WatchEnv δ)
  | unregister (f : Unregister) (context : Option DbusContext) (watchId : ℤ)
  | signal (sig : Signal)
  | registerAgent (context : Option DbusContext) (slotId : ℤ) (agentId : Option String)
      (pHandle : Ptr) (env : RegisterEnv)
  | registerDefaultAgent (context : Option DbusContext) (slotId : ℤ) (pHandle : Ptr)
      (env : RegisterEnv)
  | unregisterAgent (context : Option DbusContext) (agentId : Option String)
  | unregisterDefaultAgent (context : Option DbusContext) (slotId : ℤ)
  | method (path : String)

/-- A watch stays if it is among those that are left. -/
def staysWatch (live : List (Watch δ)) : Tenant δ → Bool
  | .watch w => (live.map (·.id)).contains w.id
  | _ => true

/-- An agent stays if there is one at its path. -/
def staysAgent (agents : Agents) : Tenant δ → Bool
  | .agent path _ => (agents path).isSome
  | _ => true

/-- What happens to the registrations, and to the blocks. -/
def step (cfg : Config) : Machine.Step (Holdings δ) (Event δ) (Op (ℕ × Block))
  | s, .register context slotId msg userObj pHandle env env₂ =>
    (tapiRegister cfg env context slotId msg userObj pHandle env₂).map fun _ =>
      registerAll cfg context slotId userObj pHandle s ((registrarsOf msg).zip [env, env₂])
  | s, .registrar context slotId r userObj pHandle env =>
    some (s.register cfg context slotId userObj pHandle r env)
  | s, .unregister f context watchId =>
    some (s.remove (staysWatch (f.call context watchId s.watches).2))
  | s, .signal sig => some (s.visit fun t => (t.asWatch.map sig.reaches).getD false)
  | s, .registerAgent context slotId agentId pHandle env =>
    some (s.registerAgent context slotId agentId pHandle env)
  | s, .registerDefaultAgent context slotId pHandle env =>
    if context.isSome && isValidSlotid cfg slotId then
      some (s.registerAgent context slotId (stkAgentDefaultPath slotId) pHandle env)
    else some (s, [])
  | s, .unregisterAgent context agentId =>
    some (s.remove (staysAgent (tapiStkAgentInterfaceUnregister context s.agents agentId).2))
  | s, .unregisterDefaultAgent context slotId =>
    some (s.remove
      (staysAgent (tapiStkDefaultAgentInterfaceUnregister cfg context s.agents slotId).2))
  | s, .method path => some (s.visit fun t => (t.agentAt path).isSome)

/-! ### Watches and agents -/

section

variable {cfg : Config} {s : Holdings δ} {context : Option DbusContext} {slotId : ℤ}
  {userObj pHandle : Ptr}

theorem watches_enter {new : List (Watch δ)} :
    (s.enter (new.map .watch)).watches = s.watches ++ new := by
  simp [watches, enter, Tenant.asWatch, List.filterMap_map, Function.comp_def]

theorem watches_registerAll {rs : List (Registrar × WatchEnv δ)} :
    (registerAll cfg context slotId userObj pHandle s rs).1.watches =
      s.watches ++ rs.flatMap fun p =>
        (p.1.call cfg p.2 context slotId userObj pHandle).watches := by
  induction rs generalizing s with
  | nil => exact (List.append_nil _).symm
  | cons p rs ih =>
    simp only [registerAll, ih, List.flatMap_cons, ← List.append_assoc]
    exact congrArg (· ++ _) watches_enter

/-- `tapi_register` adds the watches that it makes. -/
theorem watches_of_step_register {msg : IndicationMsg} {env env₂ : WatchEnv δ}
    {r : Registered δ} {s' : Holdings δ} {ops : List (Op (ℕ × Block))}
    (hr : tapiRegister cfg env context slotId msg userObj pHandle env₂ = some r)
    (h : s.step cfg (.register context slotId msg userObj pHandle env env₂) = some (s', ops)) :
    s'.watches = s.watches ++ r.watches := by
  obtain ⟨-, -, heq⟩ := Option.map_eq_some_iff.mp h
  rw [watches_of_tapiRegister hr, ← watches_registerAll, heq]

theorem watches_keep {p : Watch δ → Bool} {stays : Tenant δ → Bool}
    (h : ∀ w ∈ s.watches, stays (.watch w) = p w) :
    (s.keep stays).watches = s.watches.filter p := by
  simp only [watches, keep, List.filterMap_filter, List.filter_filterMap]
  refine List.filterMap_congr fun t ht => ?_
  obtain ⟨n, t⟩ := t
  cases t with
  | watch w =>
    have hw : w ∈ s.watches := List.mem_filterMap.mpr ⟨_, ht, rfl⟩
    simp [Tenant.asWatch, h w hw, Option.filter]
  | agent path handler => simp [Tenant.asWatch]
  | refused => simp [Tenant.asWatch]

/-- The functions that remove a watch leave the watches that they should. -/
theorem watches_of_unregister {f : Unregister} {watchId : ℤ} :
    (s.remove (staysWatch (f.call context watchId s.watches).2)).1.watches =
      (f.call context watchId s.watches).2 := by
  rcases f.call_cases context watchId s.watches with hall | hfilter
  -- the call is refused, or there is no such watch
  · rw [hall]
    refine (watches_keep (p := fun _ => true) fun w hw => ?_).trans (by simp)
    simpa [staysWatch] using ⟨w, hw, rfl⟩
  · rw [hfilter]
    refine watches_keep fun w hw => ?_
    by_cases hid : (w.id : ℤ) = watchId
    · -- no watch that is left has the id
      have hgone : w.id ∉ (s.watches.filter fun w => (w.id : ℤ) ≠ watchId).map (·.id) := by
        rintro hmem
        obtain ⟨x, hx, hsame⟩ := List.mem_map.mp hmem
        obtain ⟨-, hne⟩ := List.mem_filter.mp hx
        rw [hsame] at hne
        exact of_decide_eq_true hne hid
      rw [staysWatch, List.contains_eq_mem, decide_eq_false hgone,
        decide_eq_false (not_not_intro hid)]
    · simp only [staysWatch, List.contains_eq_mem, List.mem_map, List.mem_filter]
      simpa [hid] using ⟨w, ⟨hw, hid⟩, rfl⟩

theorem agents_enter {new : List (Tenant δ)} (path : String) :
    (s.enter new).agents path = (s.agents path).or (new.findSome? fun t => t.agentAt path) := by
  simp [agents, enter, List.findSome?_append, List.findSome?_map, Function.comp_def]

/-- A registration of an agent does to the agents what the function says. -/
theorem agents_registerAgent {agentId : Option String} {env : RegisterEnv} :
    (s.registerAgent context slotId agentId pHandle env).1.agents =
      (tapiStkAgentInterfaceRegister context s.agents slotId agentId pHandle env).2 := by
  funext p
  rw [registerAgent, agents_enter]
  cases context with
  | none => simp [madeAgent, tapiStkAgentInterfaceRegister]
  | some ctx =>
    cases agentId with
    | none => simp [madeAgent, tapiStkAgentInterfaceRegister]
    | some path =>
      cases hhandler : env.handler with
      | false => simp [madeAgent, tapiStkAgentInterfaceRegister, hhandler]
      | true =>
        cases hresult : env.result with
        | none => simp [madeAgent, tapiStkAgentInterfaceRegister, hhandler, hresult]
        | some block =>
          by_cases hrefused : (!env.granted || (s.agents path).isSome) = true
          -- a refused agent is entered, but it is not on the connection
          · simp [madeAgent, tapiStkAgentInterfaceRegister, hhandler, hresult, hrefused, ok,
              einval, Tenant.agentAt]
          · have hfree : s.agents path = none := by simp_all
            simp only [madeAgent, tapiStkAgentInterfaceRegister, hhandler, hresult, hrefused]
            by_cases hp : path = p
            · subst hp
              simp [Tenant.agentAt, hfree]
            · simp [Tenant.agentAt, hp, Function.update_of_ne (Ne.symm hp)]

/-- What stays is at the paths that the agents are at. -/
theorem agents_remove {agents' : Agents}
    (h : ∀ path, agents' path = s.agents path ∨ agents' path = none) :
    (s.remove (staysAgent agents')).1.agents = agents' := by
  funext path
  have hstays : ∀ t : Tenant δ, (if staysAgent agents' t then t.agentAt path else none) =
      if (agents' path).isSome then t.agentAt path else none := by
    intro t
    cases t with
    | watch w => simp [Tenant.agentAt]
    | refused => simp [Tenant.agentAt]
    | agent path' handler =>
      by_cases hpath : path' = path
      · simp [staysAgent, hpath]
      · simp [Tenant.agentAt, hpath]
  have hagents : (s.remove (staysAgent agents')).1.agents path =
      if (agents' path).isSome then s.agents path else none := by
    simp only [remove, keep, agents, ← List.head?_filterMap, List.filterMap_filter, hstays]
    cases (agents' path).isSome with
    | true => rfl
    | false => simp
  rw [hagents]
  rcases h path with hsame | hnone
  · rw [hsame]
    cases s.agents path <;> rfl
  · rw [hnone]
    rfl

/-- The functions that remove an agent leave the agents that they should. -/
theorem agents_of_unregisterAgent {agentId : Option String} :
    (s.remove (staysAgent (tapiStkAgentInterfaceUnregister context s.agents agentId).2)).1.agents =
      (tapiStkAgentInterfaceUnregister context s.agents agentId).2 := by
  refine agents_remove fun path => ?_
  unfold tapiStkAgentInterfaceUnregister
  split
  case h_1 path' =>
    split
    · by_cases hpath : path = path'
      · subst hpath
        exact .inr (Function.update_self _ _ _)
      · exact .inl (Function.update_of_ne hpath _ _)
    · exact .inl rfl
  case h_2 => exact .inl rfl

end

/-! ### What is live -/

/-- The account of a run: the blocks of the tenants are live, and no others. -/
def Account (s : Holdings δ) (past : List (Op (ℕ × Block))) : Prop :=
  Holds registrationBlocks (s.tenants.map Prod.fst) s.count past

section

variable {cfg : Config} {s s' : Holdings δ} {past ops : List (Op (ℕ × Block))}
  {context : Option DbusContext} {slotId : ℤ} {userObj pHandle : Ptr}

theorem account_start : (start : Holdings δ).Account [] := Holds.start

/-- A registration either makes one tenant, which holds its blocks, or leaves nothing. -/
theorem Account.enter (h : s.Account past) {new : List (Tenant δ)} {ops : List (Op Block)}
    (hops : new = [] ∧ Balanced ops ∨ ∃ t, new = [t] ∧ Acquires ops) :
    (s.enter new).Account (past ++ ofOwner s.count ops) := by
  unfold Account Holdings.enter at *
  rcases hops with ⟨rfl, hbalanced⟩ | ⟨t, rfl, hacquires⟩
  · simpa using h.failed hbalanced
  · simpa using h.enter hacquires

theorem Account.register (h : s.Account past) {r : Registrar} {env : WatchEnv δ} :
    (s.register cfg context slotId userObj pHandle r env).1.Account
      (past ++ (s.register cfg context slotId userObj pHandle r env).2) := by
  refine h.enter ?_
  have hacts : Acts (r.call cfg env context slotId userObj pHandle).watches
      (r.ledger cfg env context slotId) := r.acts
  rcases hacts with ⟨hnil, hbalanced⟩ | ⟨w, hw, hacquires⟩
  · exact .inl ⟨by rw [hnil]; rfl, hbalanced⟩
  · exact .inr ⟨.watch w, by rw [hw]; rfl, hacquires⟩

theorem Account.registerAll {rs : List (Registrar × WatchEnv δ)} (h : s.Account past) :
    (registerAll cfg context slotId userObj pHandle s rs).1.Account
      (past ++ (registerAll cfg context slotId userObj pHandle s rs).2) := by
  induction rs generalizing s past with
  | nil => simpa [Holdings.registerAll] using h
  | cons p rs ih =>
    have hfirst : (s.register cfg context slotId userObj pHandle p.1 p.2).1.Account
        (past ++ (s.register cfg context slotId userObj pHandle p.1 p.2).2) := h.register
    have hrest := ih hfirst
    simpa [Holdings.registerAll, List.append_assoc] using hrest

/-- An agent that is refused holds its blocks all the same. -/
theorem Account.registerAgent (h : s.Account past) {agentId : Option String} {env : RegisterEnv} :
    (s.registerAgent context slotId agentId pHandle env).1.Account
      (past ++ (s.registerAgent context slotId agentId pHandle env).2) := by
  refine h.enter ?_
  unfold madeAgent registerAgentLedger
  cases context with
  | none => exact .inl ⟨rfl, balanced_nil⟩
  | some ctx =>
    cases agentId with
    | none => exact .inl ⟨rfl, balanced_nil⟩
    | some path =>
      have horder : IsOrder handlerThenResult := .inl rfl
      have hdone : (acquire (blockMemory env.handler env.result.isSome) handlerThenResult).2 =
          none ↔ (env.handler && env.result.isSome) = true := by
        rw [acquire_eq_none_iff]
        simp [handlerThenResult, Step.Succeeds, blockMemory]
      dsimp only
      split
      case isTrue hblocks =>
        have hacquires : Acquires (registrationLedger handlerThenResult
            (blockMemory env.handler env.result.isSome)
            (env.granted && (s.agents path).isNone) []) := by
          rw [registrationLedger_of_done (hdone.mpr hblocks), ite_self, List.append_nil]
          exact horder.acquires (hdone.mpr hblocks)
        split
        case isTrue hok =>
          -- the object is there with its user data
          obtain ⟨hfree, ar, -, hupdate⟩ := register_of_eq_ok hok
          rw [hupdate s.agents hfree]
          exact .inr ⟨.agent path ⟨ar, pHandle⟩, by simp, hacquires⟩
        case isFalse => exact .inr ⟨_, rfl, hacquires⟩
      case isFalse hblocks =>
        exact .inl ⟨rfl, balanced_of_failed horder fun hnone => hblocks (hdone.mp hnone)⟩

theorem owners_sublist {p : Tenant δ → Bool} :
    (s.owners p).Sublist (s.tenants.map Prod.fst) :=
  List.filter_sublist.map _

theorem Account.visit (h : s.Account past) {reached : Tenant δ → Bool} :
    (s.visit reached).1.Account (past ++ (s.visit reached).2) :=
  Holds.visit h owners_sublist uses_registration

/-- What stays is what has no part in the removal. -/
theorem map_fst_keep (h : (s.tenants.map Prod.fst).Nodup) {stays : Tenant δ → Bool} :
    (s.keep stays).tenants.map Prod.fst =
      (s.tenants.map Prod.fst).filter (· ∉ s.owners fun t => !stays t) := by
  rw [List.filter_map]
  refine congrArg _ (List.filter_congr fun t ht => ?_)
  have hmem : t.1 ∈ (s.owners fun t => !stays t) ↔ stays t.2 = false := by
    constructor
    · intro howner
      obtain ⟨t', ht', heq⟩ := List.mem_map.mp howner
      obtain ⟨hmem', hgone⟩ := List.mem_filter.mp ht'
      -- the numbers of the tenants are different
      rw [List.inj_on_of_nodup_map h ht hmem' heq.symm]
      simpa using hgone
    · intro hgone
      exact List.mem_map.mpr ⟨t, List.mem_filter.mpr ⟨ht, by simpa using hgone⟩, rfl⟩
  cases hstays : stays t.2 <;> simp [hmem, hstays]

theorem Account.remove (h : s.Account past) {stays : Tenant δ → Bool} :
    (s.remove stays).1.Account (past ++ (s.remove stays).2) := by
  have hleave := Holds.leave h (owners_sublist (p := fun t => !stays t)) releases_handlerFree
  rw [← map_fst_keep h.nodup] at hleave
  exact hleave

theorem Account.step {e : Event δ} (h : s.Account past) (hstep : s.step cfg e = some (s', ops)) :
    s'.Account (past ++ ops) := by
  cases e with
  | register context slotId msg userObj pHandle env env₂ =>
    obtain ⟨-, -, heq⟩ := Option.map_eq_some_iff.mp hstep
    obtain ⟨rfl, rfl⟩ := Prod.mk.inj heq
    exact h.registerAll
  | registrar context slotId r userObj pHandle env =>
    obtain ⟨rfl, rfl⟩ := Prod.mk.inj (Option.some_inj.mp hstep)
    exact h.register
  | unregister f context watchId =>
    obtain ⟨rfl, rfl⟩ := Prod.mk.inj (Option.some_inj.mp hstep)
    exact h.remove
  | signal sig =>
    obtain ⟨rfl, rfl⟩ := Prod.mk.inj (Option.some_inj.mp hstep)
    exact h.visit
  | registerAgent context slotId agentId pHandle env =>
    obtain ⟨rfl, rfl⟩ := Prod.mk.inj (Option.some_inj.mp hstep)
    exact h.registerAgent
  | registerDefaultAgent context slotId pHandle env =>
    simp only [Holdings.step] at hstep
    split at hstep
    · obtain ⟨rfl, rfl⟩ := Prod.mk.inj (Option.some_inj.mp hstep)
      exact h.registerAgent
    -- without such a slot the function returns before it allocates anything
    · obtain ⟨rfl, rfl⟩ := Prod.mk.inj (Option.some_inj.mp hstep)
      rwa [List.append_nil]
  | unregisterAgent context agentId =>
    obtain ⟨rfl, rfl⟩ := Prod.mk.inj (Option.some_inj.mp hstep)
    exact h.remove
  | unregisterDefaultAgent context slotId =>
    obtain ⟨rfl, rfl⟩ := Prod.mk.inj (Option.some_inj.mp hstep)
    exact h.remove
  | method path =>
    obtain ⟨rfl, rfl⟩ := Prod.mk.inj (Option.some_inj.mp hstep)
    exact h.visit

end

/-- After every sequence of calls, signals and method calls, whatever they are granted, nothing
undefined has been done to a block of a registration, and the block is live exactly if the
registration is a watch or an agent that is there, or an agent that was refused. -/
theorem live_iff (cfg : Config) (es : List (Event δ)) {r : Holdings δ × List (Op (ℕ × Block))}
    (h : run (step cfg) start es = some r) (n : ℕ) (b : Block) :
    ∃ fate, advance (n, b) .fresh r.2 = some fate ∧
      (fate = .live ↔ (∃ t, (n, t) ∈ r.1.tenants) ∧ (b = .handler ∨ b = .result)) := by
  have haccount : r.1.Account ([] ++ r.2) :=
    run_history Account (fun _ _ _ _ _ hs hstep => hs.step hstep) account_start h
  obtain ⟨fate, hfate, hlive, -⟩ := haccount.fate (n, b)
  refine ⟨fate, hfate, hlive.trans ?_⟩
  simp [registrationBlocks]

/-- The emergency list is registered, and only its second watch is granted; an agent is refused;
and then the watch is removed. -/
def refusedAgent : List (Event Unit) :=
  [.register (some idleContext) 0 .eccListChange 7 1 ⟨true, some ⟨0, 0, 0, 0, 0, (), 0⟩, 0⟩
      ⟨true, some ⟨0, 0, 0, 0, 0, (), 0⟩, 4⟩,
    .registerAgent (some idleContext) 0 (some "/agent") 1
      ⟨true, some ⟨0, 0, 0, 0, 0, .null, 0⟩, false⟩,
    .unregister .sms (some idleContext) 4]

/-- What is left is the refused agent, which nothing refers to any more. -/
theorem live_refusedAgent :
    ∃ r, run (step twoModems) start refusedAgent = some r ∧ r.1.tenants = [(2, .refused)] ∧
      ∃ fate, advance (2, .handler) .fresh r.2 = some fate ∧
        (fate = .live ↔ (∃ t, (2, t) ∈ r.1.tenants) ∧
          (Block.handler = .handler ∨ Block.handler = .result)) :=
  ⟨_, rfl, rfl, live_iff twoModems refusedAgent rfl 2 .handler⟩

end Holdings

end Telephony
