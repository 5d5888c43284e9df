import Telephony.Context
import Telephony.Strings

/-!
# Opening a context

`tapi_open` allocates the context, connects to the bus with a bounded number of retries, and
fills in the fields. The block comes from `malloc`, so a field that is not filled in keeps
whatever was found there.

## Main definitions

* `Manager.setupPrivate` — the retry loop around `g_dbus_setup_private`
* `Manager.tapiOpen`

## Main results

* `Manager.exists_block_of_tapiOpen_eq_some` — the opened context keeps the pending word of
  its block
-/

namespace Telephony.Manager

/-- `MAX_DBUS_INIT_RETRY_COUNT`. -/
def maxDbusInitRetryCount : ℕ := 6

def modemStatePowerOff : ℤ := 0

/-- The outcomes of the calls that `tapi_open` makes: the block it gets for the context and
its content, the bus connections by attempt, and the rest of the bus library. -/
structure OpenEnv where
  context : Option DbusContext
  callbackData : Bool
  setupPrivate : ℕ → Ptr
  requestName : Bool
  client : Ptr
  readyWatch : Bool
  isInterfaceSupported : ProxyType → Bool
  managerProxy : Ptr
  newProxy : ℕ → ProxyType → Ptr

/-- Connect, with the given number of retries left after attempt `round`. -/
def setupPrivate (setup : ℕ → Ptr) : (retries round : ℕ) → Ptr
  | 0, round => setup round
  | retries + 1, round =>
    if setup round = null then setupPrivate setup retries (round + 1) else setup round

/-- `get_persistent_dbus_proxy`: the manager, and the modem of every slot. -/
def getPersistentDbusProxy (cfg : Config) (env : OpenEnv) (ctx : DbusContext) : DbusContext :=
  { ctx with
    dbusProxyManager := env.managerProxy
    dbusProxy := fun slot type =>
      if slot < cfg.modemActiveCount ∧ type = .modem then env.newProxy slot type
      else ctx.dbusProxy slot type }

/-- `get_mutable_dbus_proxy`: the other interfaces, as far as they are supported. -/
def getMutableDbusProxy (cfg : Config) (env : OpenEnv) (ctx : DbusContext) : DbusContext :=
  { ctx with
    dbusProxy := fun slot type =>
      if slot < cfg.modemActiveCount ∧ type ≠ .modem then
        if env.isInterfaceSupported type then env.newProxy slot type else null
      else ctx.dbusProxy slot type }

/-- `MAX_CONTEXT_NAME_LENGTH`. -/
def maxContextNameLength : ℕ := 256

/-- `tapi_open`. The request for abnormal modem events that it ends with does not change the
context. -/
def tapiOpen (cfg : Config) (clientName : String) (env : OpenEnv) : Option DbusContext :=
  match env.context with
  | none => none
  | some block =>
    let connection := setupPrivate env.setupPrivate maxDbusInitRetryCount 0
    if !env.callbackData || connection = null || !env.requestName || env.client = null ||
        !env.readyWatch then
      none
    else
      let ctx := { block with
        connection := connection
        client := env.client
        clientReady := false
        loggingOverMiwearCb := null
        name := snprintf maxContextNameLength clientName }
      let ctx := getMutableDbusProxy cfg env (getPersistentDbusProxy cfg env ctx)
      some { ctx with
        modemState := fun slot =>
          if slot < cfg.modemActiveCount then modemStatePowerOff else ctx.modemState slot }

/-- An opened context is connected, and its pending word is the one of the block. -/
theorem exists_block_of_tapiOpen_eq_some {cfg : Config} {clientName : String} {env : OpenEnv}
    {ctx : DbusContext} (h : tapiOpen cfg clientName env = some ctx) :
    ∃ block, env.context = some block ∧ ctx.pending = block.pending ∧ ctx.connection ≠ null := by
  unfold tapiOpen at h
  cases hblock : env.context with
  | none => simp [hblock] at h
  | some block =>
    simp only [hblock] at h
    split at h
    · contradiction
    · rename_i hgranted
      obtain rfl := Option.some_inj.mp h
      refine ⟨block, rfl, ?_, ?_⟩
      · simp only [getMutableDbusProxy, getPersistentDbusProxy]
      · intro hconn
        have hnull : setupPrivate env.setupPrivate maxDbusInitRetryCount 0 = null := hconn
        simp [hnull] at hgranted

end Telephony.Manager
