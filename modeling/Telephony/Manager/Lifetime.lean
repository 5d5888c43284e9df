import Telephony.Ledger
import Telephony.Manager.Open

/-!
# The resources of a connection

`tapi_open` acquires the context, a block that the ready watch gets, a connection and a client, one
after the other, and releases what it has if a step fails. `tapi_close` releases the context, the
connection and the client. The block of the ready watch is released when the client becomes ready.

## Main definitions

* `Manager.openSteps` — the acquisitions of `tapi_open` with what is released if they fail
* `Manager.onDbusClientReady`, `Manager.tapiClose` — what the ready event and the end release
* `Manager.lifetime` — everything from `tapi_open` to `tapi_close`

## Main results

* `Manager.tapiOpen_eq_none_iff` — `tapi_open` fails exactly if one of the acquisitions does
* `Manager.balanced_lifetime_iff` — every resource is released once exactly if `tapi_open` fails
  or the client becomes ready once
-/

namespace Telephony.Manager

open Ledger

/-! ## Resources -/

/-- What `tapi_open` acquires. -/
inductive Resource
  | context | callbackData | connection | client
  deriving DecidableEq, Repr

/-- The acquisitions that succeed. -/
def OpenEnv.grants (env : OpenEnv) : Resource → Bool
  | .context => env.context.isSome
  | .callbackData => env.callbackData
  | .connection => Manager.setupPrivate env.setupPrivate maxDbusInitRetryCount 0 ≠ null
  | .client => env.client ≠ null

/-- The label `error` of `tapi_open`, with a connection. -/
def errorLabel : List (Op Resource) :=
  [.free .context, .free .callbackData, .use .connection, .free .connection]

/-- The acquisitions of `tapi_open`. It returns NULL where one of them fails. -/
def openSteps (env : OpenEnv) : List (Step Resource) :=
  [.alloc .context [] 0,
    .alloc .callbackData [.free .context] 0,
    .alloc .connection [.free .context, .free .callbackData] 0,
    .check env.requestName errorLabel 0,
    .alloc .client errorLabel 0,
    .check env.readyWatch (.free .client :: errorLabel) 0]

/-- What `tapi_open` does to the resources, and whether it fails. -/
def opening (env : OpenEnv) : List (Op Resource) × Option ℤ := acquire env.grants (openSteps env)

/-- `on_dbus_client_ready`. -/
def onDbusClientReady : List (Op Resource) :=
  [.use .callbackData, .use .context, .free .callbackData]

/-- `tapi_close`, apart from the proxies. -/
def tapiClose : List (Op Resource) :=
  [.use .context, .free .client, .use .connection, .free .connection, .free .context]

/-- A connection from its opening to its end, where the client becomes ready so many times in
between. -/
def lifetime (env : OpenEnv) (readyEvents : ℕ) : List (Op Resource) :=
  (opening env).1 ++
    if (opening env).2 = none then
      (List.replicate readyEvents onDbusClientReady).flatten ++ tapiClose
    else []

/-! ## Opening -/

section Opening

variable {env : OpenEnv} {b : Resource} {readyEvents : ℕ}

/-- Whatever fails, exactly what has been acquired is released. -/
theorem sound_openSteps : Sound [] (openSteps env) := by
  simp only [openSteps, Sound]
  decide

theorem tapiOpen_eq_none_iff {cfg : Config} {clientName : String} :
    tapiOpen cfg clientName env = none ↔ (opening env).2 ≠ none := by
  have hopened : (opening env).2 = none ↔ env.context.isSome = true ∧ env.callbackData = true ∧
      setupPrivate env.setupPrivate maxDbusInitRetryCount 0 ≠ null ∧ env.requestName = true ∧
      env.client ≠ null ∧ env.readyWatch = true := by
    rw [opening, acquire_eq_none_iff]
    simp [openSteps, Step.Succeeds, OpenEnv.grants]
  rw [ne_eq, hopened]
  cases hblock : env.context with
  | none => simp [tapiOpen, hblock]
  | some block =>
    simp [tapiOpen, hblock]

/-- All resources are acquired by a `tapi_open` that succeeds. -/
theorem advance_opening (h : (opening env).2 = none) :
    advance b .fresh (opening env).1 = some .live := by
  have hacquire := advance_acquire (b := b) sound_openSteps h
  have hall : ∀ step ∈ openSteps env, step.Succeeds env.grants := acquire_eq_none_iff.mp h
  have hgranted : env.grants b = true := by
    simp only [openSteps, List.forall_mem_cons, Step.Succeeds] at hall
    obtain ⟨hcontext, hcallback, hconnection, -, hclient, -⟩ := hall
    cases b <;> assumption
  have hmem : b ∈ acquisitions [] (openSteps env) := by
    cases b <;> simp [openSteps, acquisitions]
  have hfresh : fateOf env.grants [] b = .fresh := by simp [fateOf]
  rw [hfresh] at hacquire
  rw [opening, hacquire, fateOf, if_pos ⟨hmem, hgranted⟩]

/-! ## The ready event -/

/-- The context outlives the ready events. -/
theorem advance_ready_of_ne (h : b ≠ .callbackData) :
    advance b .live (List.replicate readyEvents onDbusClientReady).flatten = some .live := by
  induction readyEvents with
  | zero => rfl
  | succ n ih =>
    have honce : advance b .live onDbusClientReady = some .live := by
      cases b with
      | callbackData => contradiction
      | context | connection | client => rfl
    rw [List.replicate_succ, List.flatten_cons, advance_append, honce, Option.bind_some, ih]

/-- The block of the ready watch is released by the first event, and a second one uses it
again. -/
theorem advance_ready :
    advance .callbackData .live (List.replicate readyEvents onDbusClientReady).flatten =
      match readyEvents with
      | 0 => some .live
      | 1 => some .freed
      | _ + 2 => none := by
  match readyEvents with
  | 0 | 1 => rfl
  | n + 2 =>
    have hfirst : advance .callbackData .live onDbusClientReady = some .freed := rfl
    have hsecond : advance .callbackData .freed onDbusClientReady = none := rfl
    rw [List.replicate_succ, List.flatten_cons, advance_append, hfirst, Option.bind_some,
      List.replicate_succ, List.flatten_cons, advance_append, hsecond, Option.bind_none]

/-- After an opening that has succeeded, the fate of a resource is decided by what follows. -/
theorem settled_lifetime_iff (h : (opening env).2 = none) :
    Settled b (lifetime env readyEvents) ↔
      (advance b .live (List.replicate readyEvents onDbusClientReady).flatten).bind
          (advance b · tapiClose) = some .fresh ∨
        (advance b .live (List.replicate readyEvents onDbusClientReady).flatten).bind
          (advance b · tapiClose) = some .freed := by
  rw [lifetime, if_pos h, settled_append_of_live (advance_opening h), advance_append]

/-- The context, the connection and the client are released by `tapi_close`. -/
theorem settled_lifetime_of_ne (h : (opening env).2 = none) (hb : b ≠ .callbackData) :
    Settled b (lifetime env readyEvents) := by
  rw [settled_lifetime_iff h, advance_ready_of_ne hb, Option.bind_some]
  right
  cases b with
  | callbackData => contradiction
  | context | connection | client => rfl

/-- The block of the ready watch is released if there is one ready event. -/
theorem settled_callbackData_iff (h : (opening env).2 = none) :
    Settled .callbackData (lifetime env readyEvents) ↔ readyEvents = 1 := by
  rw [settled_lifetime_iff h, advance_ready]
  match readyEvents with
  | 0 => decide
  | 1 => decide
  | n + 2 => simp

end Opening

/-- Every resource is released exactly once if `tapi_open` fails, and otherwise exactly if the
client becomes ready once before `tapi_close`. -/
theorem balanced_lifetime_iff (cfg : Config) (clientName : String) (env : OpenEnv)
    (readyEvents : ℕ) :
    Balanced (lifetime env readyEvents) ↔
      tapiOpen cfg clientName env = none ∨ readyEvents = 1 := by
  rw [tapiOpen_eq_none_iff]
  by_cases h : (opening env).2 = none
  · -- the number of ready events decides about the callback data alone
    have hiff : Balanced (lifetime env readyEvents) ↔ readyEvents = 1 := by
      rw [← settled_callbackData_iff h]
      constructor
      · exact fun hbalanced => hbalanced .callbackData
      · intro hsettled b
        by_cases hb : b = .callbackData
        · exact hb ▸ hsettled
        · exact settled_lifetime_of_ne h hb
    simp [hiff, h]
  · refine iff_of_true (fun b => ?_) (.inl h)
    -- a failed `tapi_open` has released what it had acquired
    rw [lifetime, if_neg h, List.append_nil]
    exact settled_acquire sound_openSteps h

/-! ## A client that is never ready -/

/-- Every step of `tapi_open` succeeds. -/
def grantingEnv : OpenEnv where
  context := some idleContext
  callbackData := true
  setupPrivate _ := 1
  requestName := true
  client := 1
  readyWatch := true
  isInterfaceSupported _ := true
  managerProxy := 1
  newProxy _ _ := 1

/-- If the connection is closed before the client is ready, the block of the ready watch is left
behind. -/
theorem not_balanced_lifetime_neverReady : ¬ Balanced (lifetime grantingEnv 0) := by
  intro h
  exact absurd ((settled_callbackData_iff (by decide)).mp (h .callbackData)) (by decide)

end Telephony.Manager
