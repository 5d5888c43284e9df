import Telephony.Context

/-!
# The methods of a SIM toolkit agent

The functions that run when the modem service calls a method of an agent object. They share
one record: it is registered with the context in its `data` field, and a handler both reads
the context from there and writes what it delivers there.

## Main definitions

* `Stk.AgentData`, `Stk.AgentParams` — what the `data` field designates
* `Stk.agentRequest` — the common body of the requests, with `Stk.stkAgentShowInformation`
  and its companions
* `Stk.stkAgentCancel`, `Stk.stkAgentRelease`, `Stk.stkAgentHandleRequestSelection`
* `Stk.agentMethods` — the method table
-/

namespace Telephony.Stk

open DBus

/-! ## Parameter blocks -/

/-- `tapi_stk_menu_item`. -/
structure MenuItem where
  text : String
  iconId : ℤ
  deriving DecidableEq, Repr

/-- The parameter blocks of the requests. A member that a request leaves unset is `none`. -/
inductive AgentParams
  | displayInfo (info : String) (iconId : ℤ) (urgent : Option ℤ)
  | requestKey (alpha : String) (iconId : ℤ)
  | requestInput (alpha : String) (iconId : ℤ) (defInput : String)
      (minLen maxLen hideTyping : ℤ)
  | playTone (tone info : String) (iconId : ℤ)
  | requestSelection (alpha : String) (iconId : ℤ) (items : List MenuItem) (defaultItem : ℤ)
  | confirmLaunchBrowser (info : String) (iconId : ℤ) (url : String)
  deriving DecidableEq, Repr

/-- The type `(sy)` of a menu item. -/
abbrev itemTy : Ty := .struct [.text .string, .fixed .byte]

/-- The arguments that a parameter block stands for. -/
def AgentParams.values : AgentParams → List Value
  | .displayInfo info iconId none => [.string info, .byte iconId]
  | .displayInfo info iconId (some urgent) =>
    [.string info, .byte iconId, .boolean urgent]
  | .requestKey alpha iconId => [.string alpha, .byte iconId]
  | .requestInput alpha iconId defInput minLen maxLen hideTyping =>
    [.string alpha, .byte iconId, .string defInput, .byte minLen, .byte maxLen,
      .boolean hideTyping]
  | .playTone tone info iconId => [.string tone, .string info, .byte iconId]
  | .requestSelection alpha iconId items defaultItem =>
    [.string alpha, .byte iconId,
      .array itemTy (items.map fun i => .struct [.string i.text, .byte i.iconId]),
      .int16 defaultItem]
  | .confirmLaunchBrowser info iconId url => [.string info, .byte iconId, .string url]

/-- What the `data` field of an agent's record designates. A parameter block is there only
while the callback runs; the handler releases it afterwards. -/
inductive AgentData
  | null
  | context
  | params (p : AgentParams)
  | released
  deriving DecidableEq, Repr

/-! ## Errors -/

def stkAgentErrorInvalidArgs (msg : Message) : Reply :=
  .error msg "org.ofono.stkagent.Error.InvalidArguments" "Invalid arguments provided"

def stkAgentErrorFailed (msg : Message) : Reply :=
  .error msg "org.ofono.stkagent.Error.Failed" "Operation failed"

def stkAgentErrorNotImplemented (msg : Message) : Reply :=
  .error msg "org.ofono.Error.NotImplemented" "Implementation not provided"

def stkAgentErrorEndSession (msg : Message) : Reply :=
  .error msg "org.ofono.Error.EndSession" "End Session Request"

def stkAgentErrorGoBack (msg : Message) : Reply :=
  .error msg "org.ofono.Error.GoBack" "Go Back Request"

def stkAgentErrorBusy (msg : Message) : Reply :=
  .error msg "org.ofono.Error.Busy" "UI Busy"

/-! ## Handlers -/

/-- Which allocations of one step succeed: the parameter block, a reply message, and the
arguments appended to it. -/
structure Memory where
  params : Bool := true
  reply : Bool := true
  append : Bool := true
  deriving DecidableEq, Repr

/-- The reply that a step creates, or NULL. -/
def Memory.create (mem : Memory) (reply : Reply) : Option Reply :=
  if mem.reply then some reply else none

@[simp] theorem Memory.create_eq_some_iff {mem : Memory} {r r' : Reply} :
    mem.create r = some r' ↔ mem.reply = true ∧ r = r' := by
  simp [Memory.create]

/-- What a handler leaves behind: the context, its record, the records its callback was
called with, and the reply it returns. -/
structure Outcome where
  context : DbusContext
  result : AsyncResult AgentData
  delivered : List (AsyncResult AgentData)
  reply : Option Reply

/-- A handler of the method table. The outcome is undefined where it follows a pointer that
does not designate what it takes it for. -/
abbrev Handler := DbusContext → AsyncHandler AgentData → Message → Memory → Option Outcome

/-- The exit of a handler without callback. -/
def notImplemented (ctx : DbusContext) (ar : AsyncResult AgentData) (msg : Message)
    (mem : Memory) : Outcome where
  context := ctx
  result := ar
  delivered := []
  reply := mem.create (stkAgentErrorNotImplemented msg)

/-- The exit through `done` with status `ERROR`. -/
def refuse (ctx : DbusContext) (ar : AsyncResult AgentData) (mem : Memory) (reply : Reply) :
    Outcome where
  context := ctx
  result := { ar with status := error }
  delivered := [{ ar with status := error }]
  reply := mem.create reply

/-- The exit through `done` with status `OK`. The parameters are released once the callback
has seen them, and `data` is left as it is. -/
def accept (ctx : DbusContext) (ar : AsyncResult AgentData) (msg : Message)
    (params : AgentParams) : Outcome where
  context := { ctx with pending := .message msg }
  result := { ar with data := .released, status := ok }
  delivered := [{ ar with data := .params params, status := ok }]
  reply := none

section Exits

variable (ctx : DbusContext) (ar : AsyncResult AgentData) (msg : Message) (mem : Memory)
  (reply : Reply) (params : AgentParams)

@[simp] theorem notImplemented_context : (notImplemented ctx ar msg mem).context = ctx := rfl
@[simp] theorem refuse_context : (refuse ctx ar mem reply).context = ctx := rfl
@[simp] theorem accept_pending :
    (accept ctx ar msg params).context.pending = .message msg := rfl

end Exits

/-- The context that a handler reads from the `data` field of its record: `missing` is its
exit where the field is NULL. -/
def readContext (ar : AsyncResult AgentData) (missing : Outcome) (found : Option Outcome) :
    Option Outcome :=
  match ar.data with
  | .null => some missing
  | .context => found
  -- `ctx->pending` is read from the released block
  | .params _ | .released => none

/-- The checks before a request reads its arguments: no other request is pending, and there
is a parameter block. -/
def reserve (ctx : DbusContext) (ar : AsyncResult AgentData) (msg : Message) (mem : Memory)
    (read : Option Outcome) : Option Outcome :=
  if ctx.pending.isSet then some (refuse ctx ar mem (stkAgentErrorBusy msg))
  else if !mem.params then some (refuse ctx ar mem (stkAgentErrorNotImplemented msg))
  else read

/-- The common body of the requests: `msgId` names the request, and `getArgs` is its call of
`dbus_message_get_args`. -/
def agentRequest (msgId : IndicationMsg) (getArgs : List Value → Option AgentParams) :
    Handler := fun ctx handler msg mem =>
  if handler.cbFunction = null then
    some (notImplemented ctx handler.result msg mem)
  else
    let ar := { handler.result with msgId := msgId.value }
    readContext ar (refuse ctx ar mem (stkAgentErrorFailed msg)) <|
      reserve ctx ar msg mem <|
        match getArgs msg.args with
        | none => some (refuse ctx ar mem (stkAgentErrorInvalidArgs msg))
        | some params => some (accept ctx ar msg params)

/-! ### Arguments -/

def getDisplayInfo : List Value → Option AgentParams
  | .string info :: .byte iconId :: .boolean urgent :: _ =>
    some (.displayInfo info iconId (some urgent))
  | _ => none

/-- The actions leave `urgent` unset. -/
def getDisplayAction : List Value → Option AgentParams
  | .string info :: .byte iconId :: _ => some (.displayInfo info iconId none)
  | _ => none

def getRequestKey : List Value → Option AgentParams
  | .string alpha :: .byte iconId :: _ => some (.requestKey alpha iconId)
  | _ => none

def getRequestInput : List Value → Option AgentParams
  | .string alpha :: .byte iconId :: .string defInput :: .byte minLen :: .byte maxLen ::
      .boolean hideTyping :: _ =>
    some (.requestInput alpha iconId defInput minLen maxLen hideTyping)
  | _ => none

def getPlayTone : List Value → Option AgentParams
  | .string tone :: .string info :: .byte iconId :: _ => some (.playTone tone info iconId)
  | _ => none

def getConfirmLaunchBrowser : List Value → Option AgentParams
  | .string info :: .byte iconId :: .string url :: _ =>
    some (.confirmLaunchBrowser info iconId url)
  | _ => none

/-! ### The requests -/

def stkAgentShowInformation : Handler := agentRequest .stkAgentDisplayText getDisplayInfo

def stkAgentHandleRequestDigit : Handler := agentRequest .stkAgentRequestDigit getRequestKey

def stkAgentHandleRequestKey : Handler := agentRequest .stkAgentRequestKey getRequestKey

def stkAgentHandleRequestConfirmation : Handler :=
  agentRequest .stkAgentRequestConfirmation getRequestKey

def stkAgentHandleRequestInput : Handler := agentRequest .stkAgentRequestInput getRequestInput

def stkAgentHandleRequestDigits : Handler :=
  agentRequest .stkAgentRequestDigits getRequestInput

def stkAgentHandlePlayTone : Handler := agentRequest .stkAgentPlayTone getPlayTone

def stkAgentHandleLoopTone : Handler := agentRequest .stkAgentLoopTone getPlayTone

def stkAgentHandleRequestQuickDigit : Handler :=
  agentRequest .stkAgentRequestQuickDigit getRequestKey

def stkAgentConfirmCallSetup : Handler := agentRequest .stkAgentConfirmCallSetup getRequestKey

def stkAgentDisplayActionInformation : Handler :=
  agentRequest .stkAgentDisplayActionInformation getDisplayAction

def stkAgentConfirmLaunchBrowser : Handler :=
  agentRequest .stkAgentConfirmLaunchBrowser getConfirmLaunchBrowser

def stkAgentDisplayAction : Handler := agentRequest .stkAgentDisplayAction getDisplayAction

def stkAgentConfirmOpenChannel : Handler :=
  agentRequest .stkAgentConfirmOpenChannel getRequestKey

/-! ### Selection -/

/-- The loop over the menu items. It reads the text of an entry through an iterator that
stands at a structure, which is not a value to be read. -/
def menuLoop : (array entry : Iter) → Option (List MenuItem)
  | array, entry =>
    match entry.argType with
    | .invalid => some []
    | .struct => none
    | _ =>
      match array with
      | [] => none
      | _ :: rest => (Iter.recurse rest).bind (menuLoop rest)

/-- The items read from the elements of the third argument. The loop is entered only where
these elements are arrays themselves. -/
def menuItems (array : Iter) : Option (List MenuItem) :=
  if array.argType = .array then (Iter.recurse array).bind (menuLoop array) else some []

/-- The parameters of a selection, read by an iterator. -/
def getSelection (iter : Iter) : Option AgentParams := do
  let alpha ← iter.getString
  let iter := iter.next
  let iconId ← iter.getByte
  let iter := iter.next
  let array ← iter.recurse
  let items ← menuItems array
  let iter := iter.next
  let defaultItem ← iter.getShort
  return .requestSelection alpha iconId items defaultItem

/-- The only request that checks the message before it looks at the context. -/
def stkAgentHandleRequestSelection : Handler := fun ctx handler msg mem =>
  if handler.cbFunction = null then
    some (notImplemented ctx handler.result msg mem)
  else
    let ar := { handler.result with msgId := IndicationMsg.stkAgentRequestSelection.value }
    if msg.isError then some (refuse ctx ar mem (stkAgentErrorFailed msg))
    else if msg.args.isEmpty then some (refuse ctx ar mem (stkAgentErrorInvalidArgs msg))
    else
      readContext ar (refuse ctx ar mem (stkAgentErrorFailed msg)) <|
        reserve ctx ar msg mem <|
          (getSelection msg.args).map (accept ctx ar msg)

/-! ### Release and cancel -/

/-- The common body of release and cancel: the pending request is dropped without an answer,
and the record loses its context. -/
def withdraw (msgId : IndicationMsg) (returned : Option Reply) : Handler :=
  fun ctx handler msg mem =>
    if handler.cbFunction = null then
      some (notImplemented ctx handler.result msg mem)
    else
      let ar := handler.result
      readContext ar (refuse ctx ar mem (stkAgentErrorFailed msg)) <|
        match ctx.pending with
        -- the pending word is unreferenced as a message
        | .wild => none
        | .null | .message _ =>
          let done := { ar with status := ok, data := .null, msgId := msgId.value }
          some {
            context := { ctx with pending := .null }
            result := done
            delivered := [done]
            reply := returned }

def stkAgentRelease : Handler := fun ctx handler msg mem =>
  withdraw .stkAgentRelease (mem.create (.methodReturn msg [])) ctx handler msg mem

def stkAgentCancel : Handler := withdraw .stkAgentCancel none

/-! ## The method table -/

/-- How a method is declared: with an immediate reply, a later one, or none. -/
inductive MethodFlag
  | method | async | noreply
  deriving DecidableEq, Repr

/-- An entry of the method table. -/
structure MethodEntry where
  flag : MethodFlag
  name : String
  inArgs : List Ty
  outArgs : List Ty
  function : Handler

/-- The requests are the methods that are answered later. -/
def MethodEntry.isRequest (entry : MethodEntry) : Bool := entry.flag = .async

section Table

private abbrev s : Ty := .text .string
private abbrev y : Ty := .fixed .byte
private abbrev b : Ty := .fixed .boolean
private abbrev n : Ty := .fixed .int16

/-- `agent_methods`. -/
def agentMethods : List MethodEntry := [
  ⟨.method, "AgentRelease", [], [], stkAgentRelease⟩,
  ⟨.async, "ConfirmCallSetup", [s, y], [b], stkAgentConfirmCallSetup⟩,
  ⟨.async, "ConfirmLaunchBrowser", [s, y, s], [b], stkAgentConfirmLaunchBrowser⟩,
  ⟨.async, "ConfirmOpenChannel", [s, y], [b], stkAgentConfirmOpenChannel⟩,
  ⟨.async, "ConfirmRequest", [s, y], [b], stkAgentHandleRequestConfirmation⟩,
  ⟨.async, "DisplayAction", [s, y], [], stkAgentDisplayAction⟩,
  ⟨.async, "DisplayActionInformation", [s, y], [], stkAgentDisplayActionInformation⟩,
  ⟨.async, "RequestLoopTone", [s, s, y], [], stkAgentHandleLoopTone⟩,
  ⟨.async, "RequestPlayTone", [s, s, y], [], stkAgentHandlePlayTone⟩,
  ⟨.async, "RequestQuickDigit", [s, y], [s], stkAgentHandleRequestQuickDigit⟩,
  ⟨.async, "RequestSelection", [s, y, .array itemTy, n], [y],
    stkAgentHandleRequestSelection⟩,
  ⟨.async, "RequestWithDigit", [s, y], [s], stkAgentHandleRequestDigit⟩,
  ⟨.async, "RequestWithDigits", [s, y, s, y, y, b], [s], stkAgentHandleRequestDigits⟩,
  ⟨.async, "RequestWithInput", [s, y, s, y, y, b], [s], stkAgentHandleRequestInput⟩,
  ⟨.async, "RequestWithKey", [s, y], [s], stkAgentHandleRequestKey⟩,
  ⟨.async, "ShowInformation", [s, y, b], [], stkAgentShowInformation⟩,
  ⟨.noreply, "Cancel", [], [], stkAgentCancel⟩]

end Table

/-- The entry that serves a method call: the first of the called name. -/
def findMethod (member : String) : Option MethodEntry :=
  agentMethods.find? fun entry => entry.name = member

end Telephony.Stk
