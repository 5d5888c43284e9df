import Telephony.Context
import Telephony.Payload

/-!
# Handling replies and signals

The functions that the bus library invokes with a message get the handler that was stored when
the request was sent or the watch was added. They decode the message into the record and call
the application back, at most once.

## Main definitions

* `Telephony.Handling` — the record that a handler leaves, and whether it was delivered
* `Telephony.Heap` — the blocks that a handler gets from `malloc`
* `Telephony.withCallback`, `Telephony.onReply` — the checks that handlers start with
* `Telephony.Answers` — the callback runs once, with the record of the request and with an
  error status if the message is an error

## Main results

* `Telephony.answers_onReply_iff` — behind the checks of `onReply`, a reply is answered exactly
  if what follows them answers it
-/

namespace Telephony

open DBus

/-! ## Handlers -/

/-- What a handler does: the record it leaves, and whether it has called back with it. -/
structure Handling where
  result : AsyncResult Payload
  called : Bool
  deriving DecidableEq, Repr

/-- The callback runs with the record as it is. -/
def deliver (ar : AsyncResult Payload) : Handling := ⟨ar, true⟩

/-- The handler returns without calling back. -/
def ignore (ar : AsyncResult Payload) : Handling := ⟨ar, false⟩

/-- The callback runs with an error status. -/
def fail (ar : AsyncResult Payload) : Handling := deliver { ar with status := error }

/-- An address, as the words that it takes up in an array of integers: one, or two where a pointer
has 64 bits. -/
structure Address where
  words : List ℤ
  length_words : words.length = 1 ∨ words.length = 2

/-- The blocks that `malloc` grants a handler, by their type and, in a loop, by their number,
each with the content it is found with; and the arrays on the stack that a handler does not
clear. `simOperator` is what reading the operator of the SIM card leaves in its buffer, if it
succeeds, and `elements` is where the bus library has the elements of an array. -/
structure Heap where
  strdup : Bool
  messageInfo : Option MessageInfo
  messageList : ℕ → MessageInfo
  cbsMessage : Bool
  networkTime : Option NetworkTime
  signalStrength : Option SignalStrength
  registrationInfo : Option RegistrationInfo
  simOperator : Option (List UInt8)
  operatorInfo : ℕ → Option OperatorInfo
  cellIdentity : ℕ → Option CellIdentity
  dataContext : ℕ → Option DataContext
  ipSettings : ℕ → Option IpSettings
  ipv4Settings : ℕ → Option IpAddressSettings
  ipv6Settings : ℕ → Option IpAddressSettings
  fdnEntries : ℕ → FdnEntry
  modemActivityInfo : Option ModemActivityInfo
  activityInfo : ℕ → ℤ
  elements : Address
  callForwardInfo : Option CallForwardInfo
  ssInitiateInfo : Option SsInitiateInfo
  callBarringInfo : Bool

/-- No memory, and arrays on the stack that are clear. -/
def Heap.exhausted : Heap where
  strdup := false
  messageInfo := none
  messageList _ := ⟨.null, .null, .null, .null, 0⟩
  cbsMessage := false
  networkTime := none
  signalStrength := none
  registrationInfo := none
  simOperator := none
  operatorInfo _ := none
  cellIdentity _ := none
  dataContext _ := none
  ipSettings _ := none
  ipv4Settings _ := none
  ipv6Settings _ := none
  fdnEntries _ := ⟨0, .null, .null⟩
  modemActivityInfo := none
  activityInfo _ := 0
  elements := ⟨[0], .inl rfl⟩
  callForwardInfo := none
  ssInitiateInfo := none
  callBarringInfo := false

/-- A copy of a text, or NULL if there is no memory for it. -/
def Heap.copy (heap : Heap) (s : String) : CString := if heap.strdup then .text s else .null

/-- The check that every handler starts with: without a callback there is nothing to do. -/
def withCallback (handler : AsyncHandler Payload)
    (body : AsyncResult Payload → Option Handling) : Option Handling :=
  if handler.cbFunction = null then some (ignore handler.result) else body handler.result

/-- The start of most reply functions: an error, or a reply without arguments, is delivered as
an error, and anything else goes to `body`. -/
def onReply (handler : AsyncHandler Payload) (message : Message)
    (body : Iter → AsyncResult Payload → Option Handling) : Option Handling :=
  withCallback handler fun ar =>
    if message.isError then some (fail ar)
    else if message.args = [] then some (fail ar)
    else body message.args ar

/-- The same for a reply that must have a certain signature. -/
def onTypedReply (handler : AsyncHandler Payload) (message : Message) (sig : List Ty)
    (body : Iter → AsyncResult Payload → Option Handling) : Option Handling :=
  withCallback handler fun ar =>
    if message.isError then some (fail ar)
    else if !message.hasSignature sig then some (fail ar)
    else if message.args = [] then some (fail ar)
    else body message.args ar

/-- A reply with the one argument that it must have goes to `body`. -/
theorem onTypedReply_of_args {handler : AsyncHandler Payload} {message : Message} {v : Value}
    {t : Ty} {body : Iter → AsyncResult Payload → Option Handling} (hcb : handler.cbFunction ≠ null)
    (hreply : message.isError = false) (hargs : message.args = [v]) (hty : v.ty = t) :
    onTypedReply handler message [t] body = body [v] handler.result := by
  have hsig : message.hasSignature [t] = true := by
    simp [Message.hasSignature, hargs, hty]
  simp [onTypedReply, withCallback, hcb, hreply, hsig, hargs]

/-- A reply function that reports only whether the request succeeded. -/
def onStatusReply (handler : AsyncHandler Payload) (message : Message) : Option Handling :=
  withCallback handler fun ar =>
    if message.isError then some (fail ar) else some (deliver { ar with status := ok })

/-- A reply function whose request is answered with an object path. A reply that starts with
anything else is delivered with the record as it was. -/
def onPathReply (handler : AsyncHandler Payload) (message : Message) : Option Handling :=
  onReply handler message fun args ar =>
    match args with
    | .objectPath path :: _ => some (deliver { ar with data := .text path, status := ok })
    | _ => some (deliver ar)

/-- A reply function whose request is answered with a number. -/
def onIntReply (handler : AsyncHandler Payload) (message : Message) : Option Handling :=
  onReply handler message fun args ar =>
    args.getInt.map fun n => deliver { ar with arg2 := n, status := ok }

/-- A reply function whose request is answered with the elements of an array. -/
def onArrayReply (handler : AsyncHandler Payload) (message : Message) : Option Handling :=
  onReply handler message fun args ar =>
    args.getFixedArray.map fun response =>
      deliver { ar with data := .bytes response, arg2 := response.length, status := ok }

/-- The handler of a function that sets the status to ERROR before it looks at anything. -/
def AsyncHandler.failing (handler : AsyncHandler Payload) : AsyncHandler Payload :=
  { handler with result := { handler.result with status := error } }

/-! ## What a reply is owed -/

/-- The record is still the one of its request. -/
def SameOrigin (ar ar' : AsyncResult Payload) : Prop :=
  ar'.msgId = ar.msgId ∧ ar'.msgType = ar.msgType ∧ ar'.userObj = ar.userObj

/-- The reply is handled: the callback runs, once, with the record of the request, which says
ERROR if the reply is an error. -/
def Answers (message : Message) (ar : AsyncResult Payload) (h : Option Handling) : Prop :=
  ∃ r, h = some r ∧ r.called = true ∧ SameOrigin ar r.result ∧
    (message.isError = true → r.result.status = error)

section

variable {handler : AsyncHandler Payload} {message : Message} {ar : AsyncResult Payload}

@[simp] theorem not_answers_none : ¬ Answers message ar none := by
  rintro ⟨r, h, -⟩
  contradiction

@[simp] theorem not_answers_ignore : ¬ Answers message ar (some (ignore ar)) := by
  rintro ⟨r, h, hcalled, -⟩
  obtain rfl := Option.some_inj.mp h
  simp [ignore] at hcalled

theorem answers_fail : Answers message ar (some (fail ar)) :=
  ⟨_, rfl, rfl, ⟨rfl, rfl, rfl⟩, fun _ => rfl⟩

/-- A reply that is not an error is answered by any delivery of the record. -/
theorem answers_deliver {ar' : AsyncResult Payload} (hsame : SameOrigin ar ar')
    (h : message.isError = false) : Answers message ar (some (deliver ar')) :=
  ⟨_, rfl, rfl, hsame, fun herr => by simp [h] at herr⟩

theorem withCallback_of_ne (hcb : handler.cbFunction ≠ null)
    {body : AsyncResult Payload → Option Handling} :
    withCallback handler body = body handler.result := if_neg hcb

/-- Behind the checks of `onReply` the reply is answered exactly if the body answers it. -/
theorem answers_onReply_iff (hcb : handler.cbFunction ≠ null)
    {body : Iter → AsyncResult Payload → Option Handling} :
    Answers message handler.result (onReply handler message body) ↔
      (message.isError = false → message.args ≠ [] →
        Answers message handler.result (body message.args handler.result)) := by
  rw [onReply, withCallback_of_ne hcb]
  cases herr : message.isError with
  | true => simpa using answers_fail
  | false =>
    by_cases hargs : message.args = []
    · simpa [hargs] using answers_fail
    · simp [hargs]

theorem answers_onTypedReply_iff (hcb : handler.cbFunction ≠ null) {sig : List Ty}
    {body : Iter → AsyncResult Payload → Option Handling} :
    Answers message handler.result (onTypedReply handler message sig body) ↔
      (message.isError = false → message.hasSignature sig = true → message.args ≠ [] →
        Answers message handler.result (body message.args handler.result)) := by
  rw [onTypedReply, withCallback_of_ne hcb]
  cases herr : message.isError with
  | true => simpa using answers_fail
  | false =>
    cases hsig : message.hasSignature sig with
    | false => simpa using answers_fail
    | true =>
      by_cases hargs : message.args = []
      · simpa [hargs] using answers_fail
      · simp [hargs]

theorem answers_onStatusReply (hcb : handler.cbFunction ≠ null) :
    Answers message handler.result (onStatusReply handler message) := by
  rw [onStatusReply, withCallback_of_ne hcb]
  cases herr : message.isError with
  | true => exact answers_fail
  | false => exact answers_deliver ⟨rfl, rfl, rfl⟩ herr

theorem onPathReply_of_failed (hcb : handler.cbFunction ≠ null)
    (h : message.isError = true ∨ message.args = []) :
    onPathReply handler message = some (fail handler.result) := by
  rw [onPathReply, onReply, withCallback_of_ne hcb]
  obtain herr | hargs := h
  · rw [if_pos herr]
  · simp [hargs]

theorem onPathReply_of_path (hcb : handler.cbFunction ≠ null)
    (hreply : message.isError = false) {path : String} {rest : Iter}
    (hargs : message.args = .objectPath path :: rest) :
    onPathReply handler message =
      some (deliver { handler.result with data := .text path, status := ok }) := by
  simp [onPathReply, onReply, withCallback_of_ne hcb, hreply, hargs]

/-- A reply that is neither an error nor starts with a path changes nothing. -/
theorem onPathReply_of_other (hcb : handler.cbFunction ≠ null)
    (hreply : message.isError = false) (hargs : message.args ≠ [])
    (h : ∀ path rest, message.args ≠ .objectPath path :: rest) :
    onPathReply handler message = some (deliver handler.result) := by
  simp only [onPathReply, onReply, withCallback_of_ne hcb, hreply, hargs, Bool.false_eq_true,
    if_false]

theorem answers_onPathReply (hcb : handler.cbFunction ≠ null) :
    Answers message handler.result (onPathReply handler message) := by
  refine (answers_onReply_iff hcb).mpr fun hreply _ => ?_
  split
  · exact answers_deliver ⟨rfl, rfl, rfl⟩ hreply
  · exact answers_deliver ⟨rfl, rfl, rfl⟩ hreply

theorem SameOrigin.answers_iff {ar' : AsyncResult Payload} {h : Option Handling}
    (hsame : SameOrigin ar ar') : Answers message ar h ↔ Answers message ar' h := by
  simp only [Answers, SameOrigin, hsame.1, hsame.2.1, hsame.2.2]

theorem sameOrigin_failing : SameOrigin handler.result handler.failing.result :=
  ⟨rfl, rfl, rfl⟩

section Decode

variable {α : Type} {decode : Iter → Option α}
  {fill : α → AsyncResult Payload → AsyncResult Payload}

/-- Decoding the message and delivering the outcome answers the reply exactly where the message
can be decoded. -/
theorem answers_map_deliver_iff {o : Option α} {fill : α → AsyncResult Payload}
    (hsame : ∀ a, SameOrigin ar (fill a)) (h : message.isError = false) :
    Answers message ar (o.map fun a => deliver (fill a)) ↔ o.isSome = true := by
  cases o with
  | none => simp
  | some a => simpa using answers_deliver (hsame a) h

theorem answers_onReply_decode_iff (hcb : handler.cbFunction ≠ null)
    (hsame : ∀ a ar, SameOrigin ar (fill a ar)) :
    Answers message handler.result
        (onReply handler message fun args ar => (decode args).map fun a => deliver (fill a ar)) ↔
      (message.isError = false → message.args ≠ [] →
        (decode message.args).isSome = true) := by
  refine (answers_onReply_iff hcb).trans (forall₂_congr fun hreply _ => ?_)
  exact answers_map_deliver_iff (fun a => hsame a _) hreply

theorem answers_onTypedReply_decode_iff (hcb : handler.cbFunction ≠ null) {sig : List Ty}
    (hsame : ∀ a ar, SameOrigin ar (fill a ar)) :
    Answers message handler.result
        (onTypedReply handler message sig fun args ar =>
          (decode args).map fun a => deliver (fill a ar)) ↔
      (message.isError = false → message.hasSignature sig = true → message.args ≠ [] →
        (decode message.args).isSome = true) := by
  refine (answers_onTypedReply_iff hcb).trans (forall₃_congr fun hreply _ _ => ?_)
  exact answers_map_deliver_iff (fun a => hsame a _) hreply

theorem answers_onIntReply_iff (hcb : handler.cbFunction ≠ null) :
    Answers message handler.result (onIntReply handler message) ↔
      (message.isError = false → message.args ≠ [] → message.args.isInt = true) :=
  answers_onReply_decode_iff hcb fun _ _ => ⟨rfl, rfl, rfl⟩

theorem answers_onArrayReply_iff (hcb : handler.cbFunction ≠ null) :
    Answers message handler.result (onArrayReply handler message) ↔
      (message.isError = false → message.args ≠ [] → message.args.isFixedArray = true) :=
  answers_onReply_decode_iff hcb fun _ _ => ⟨rfl, rfl, rfl⟩

end Decode

end

end Telephony
