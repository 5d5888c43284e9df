import Telephony.Stk.Agent

/-!
# Answers of the application

The application answers the pending request with one of the `tapi_stk_handle_agent_*`
functions. Each sends one reply to the pending message and clears it. None of them looks at
which method the message called.

## Main definitions

* `Stk.stkAgentDbusPendingReply` — send the reply and clear the pending message
* `Stk.tapiStkHandleAgentDisplayText` and its companions — the reply functions
* `Stk.ReplyCall` — a call of one of them, with the signature it replies with

## Main results

* `Stk.answered_of_run_eq_some` — all that a reply function can do
-/

namespace Telephony.Stk

open DBus

/-- `tapi_stk_agent_operator_code`. Any other number takes the default branch. -/
def opCodeConfirmPositive : ℤ := 0
def opCodeConfirmNegative : ℤ := 1
def opCodeConfirmBackward : ℤ := 2

/-- What a reply function returns, the context it leaves, and what it sends. -/
structure Answer where
  code : ℤ
  context : Option DbusContext
  sent : List Reply

/-- Send the reply to the pending message, which is cleared. Without connection or reply the
message stays. -/
def stkAgentDbusPendingReply (ctx : DbusContext) (reply : Option Reply) :
    Bool × DbusContext × List Reply :=
  if ctx.connection = null then (false, ctx, [])
  else
    match reply with
    | none => (false, ctx, [])
    | some reply => (true, { ctx with pending := .null }, [reply])

/-- The frame of the reply functions: `make` creates the reply to the pending message. -/
def answerPending (context : Option DbusContext) (make : Message → Option Reply) :
    Option Answer :=
  match context with
  | none => some ⟨-einval, none, []⟩
  | some ctx =>
    if ctx.connection = null then some ⟨-einval, some ctx, []⟩
    else
      match ctx.pending with
      | .null => some ⟨-einval, some ctx, []⟩
      | .wild => none
      | .message msg =>
        let (done, ctx', sent) := stkAgentDbusPendingReply ctx (make msg)
        some ⟨if done then ok else error, some ctx', sent⟩

/-- A method return to which the values are appended. -/
def Memory.methodReturn (mem : Memory) (msg : Message) (vs : List Value) : Option Reply :=
  mem.create (.methodReturn msg (if mem.append then vs else []))

/-- The reply that an operator code selects: `vs` for a positive one, else an error. -/
def operatorReply (op : ℤ) (vs : List Value) (mem : Memory) (msg : Message) : Option Reply :=
  if op = opCodeConfirmPositive then mem.methodReturn msg vs
  else if op = opCodeConfirmNegative then mem.create (stkAgentErrorEndSession msg)
  else if op = opCodeConfirmBackward then mem.create (stkAgentErrorGoBack msg)
  else mem.create (stkAgentErrorFailed msg)

/-! ## The reply functions -/

section Functions

variable (context : Option DbusContext) (op : ℤ) (mem : Memory)

def tapiStkHandleAgentDisplayText : Option Answer :=
  answerPending context (operatorReply op [] mem)

def tapiStkHandleAgentRequestKey (key : String) : Option Answer :=
  answerPending context (operatorReply op [.string key] mem)

def tapiStkHandleAgentRequestDigit (digit : String) : Option Answer :=
  tapiStkHandleAgentRequestKey context op mem digit

/-- A negative answer to a confirmation is an answer, not the end of the session. -/
def tapiStkHandleAgentRequestConfirmation : Option Answer :=
  answerPending context fun msg =>
    if op = opCodeConfirmPositive then mem.methodReturn msg [.boolean 1]
    else if op = opCodeConfirmNegative then mem.methodReturn msg [.boolean 0]
    else if op = opCodeConfirmBackward then mem.create (stkAgentErrorGoBack msg)
    else mem.create (stkAgentErrorFailed msg)

def tapiStkHandleAgentRequestInput (input : String) : Option Answer :=
  answerPending context (operatorReply op [.string input] mem)

def tapiStkHandleAgentRequestDigits (digits : String) : Option Answer :=
  tapiStkHandleAgentRequestInput context op mem digits

def tapiStkHandleAgentPlayTone : Option Answer :=
  answerPending context (operatorReply op [] mem)

def tapiStkHandleAgentLoopTone : Option Answer := tapiStkHandleAgentPlayTone context op mem

def tapiStkHandleAgentRequestSelection (selection : ℤ) : Option Answer :=
  answerPending context (operatorReply op [.byte selection] mem)

def tapiStkHandleAgentRequestQuickDigit (digit : String) : Option Answer :=
  tapiStkHandleAgentRequestKey context op mem digit

def tapiStkHandleAgentConfirmCallSetup : Option Answer :=
  tapiStkHandleAgentRequestConfirmation context op mem

def tapiStkHandleAgentDisplayActionInformation : Option Answer :=
  tapiStkHandleAgentDisplayText context op mem

def tapiStkHandleAgentConfirmLaunchBrowser : Option Answer :=
  tapiStkHandleAgentRequestConfirmation context op mem

def tapiStkHandleAgentDisplayAction : Option Answer :=
  tapiStkHandleAgentDisplayText context op mem

def tapiStkHandleAgentConfirmOpenChannel : Option Answer :=
  tapiStkHandleAgentRequestConfirmation context op mem

end Functions

/-- A call of a reply function, without the context. -/
inductive ReplyCall
  | displayText (op : ℤ)
  | requestDigit (op : ℤ) (digit : String)
  | requestKey (op : ℤ) (key : String)
  | requestConfirmation (op : ℤ)
  | requestInput (op : ℤ) (input : String)
  | requestDigits (op : ℤ) (digits : String)
  | playTone (op : ℤ)
  | loopTone (op : ℤ)
  | requestSelection (op : ℤ) (selection : ℤ)
  | requestQuickDigit (op : ℤ) (digit : String)
  | confirmCallSetup (op : ℤ)
  | displayActionInformation (op : ℤ)
  | confirmLaunchBrowser (op : ℤ)
  | displayAction (op : ℤ)
  | confirmOpenChannel (op : ℤ)
  deriving DecidableEq, Repr

namespace ReplyCall

def run (context : Option DbusContext) (mem : Memory) : ReplyCall → Option Answer
  | displayText op => tapiStkHandleAgentDisplayText context op mem
  | requestDigit op digit => tapiStkHandleAgentRequestDigit context op mem digit
  | requestKey op key => tapiStkHandleAgentRequestKey context op mem key
  | requestConfirmation op => tapiStkHandleAgentRequestConfirmation context op mem
  | requestInput op input => tapiStkHandleAgentRequestInput context op mem input
  | requestDigits op digits => tapiStkHandleAgentRequestDigits context op mem digits
  | playTone op => tapiStkHandleAgentPlayTone context op mem
  | loopTone op => tapiStkHandleAgentLoopTone context op mem
  | requestSelection op selection =>
    tapiStkHandleAgentRequestSelection context op mem selection
  | requestQuickDigit op digit => tapiStkHandleAgentRequestQuickDigit context op mem digit
  | confirmCallSetup op => tapiStkHandleAgentConfirmCallSetup context op mem
  | displayActionInformation op =>
    tapiStkHandleAgentDisplayActionInformation context op mem
  | confirmLaunchBrowser op => tapiStkHandleAgentConfirmLaunchBrowser context op mem
  | displayAction op => tapiStkHandleAgentDisplayAction context op mem
  | confirmOpenChannel op => tapiStkHandleAgentConfirmOpenChannel context op mem

/-- The signature of the replies that the function is for. -/
def signature : ReplyCall → List Ty
  | displayText _ | playTone _ | loopTone _ | displayActionInformation _ | displayAction _ => []
  | requestDigit _ _ | requestKey _ _ | requestInput _ _ | requestDigits _ _
  | requestQuickDigit _ _ => [.text .string]
  | requestConfirmation _ | confirmCallSetup _ | confirmLaunchBrowser _
  | confirmOpenChannel _ => [.fixed .boolean]
  | requestSelection _ _ => [.fixed .byte]

end ReplyCall

/-! ## What a reply function does -/

/-- A way to create the reply to a message: there is a reply exactly if there is memory for
it, it answers the message, and as a method return it has the given signature. -/
structure Answers (make : Message → Option Reply) (sig : List Ty) (mem : Memory) : Prop where
  isSome : ∀ msg, (make msg).isSome = mem.reply
  request : ∀ {msg reply}, make msg = some reply → reply.request = msg
  signature : ∀ {msg reply}, make msg = some reply → reply.isError = false →
    reply.signature = if mem.append then sig else []

section Answers

variable {mem : Memory} {op : ℤ}

theorem isSome_create {reply : Reply} : (mem.create reply).isSome = mem.reply := by
  cases h : mem.reply <;> simp [Memory.create, h]

theorem answers_create {error : Message → Reply} {sig : List Ty}
    (isError : ∀ msg, (error msg).isError = true)
    (request : ∀ msg, (error msg).request = msg) :
    Answers (fun msg => mem.create (error msg)) sig mem where
  isSome _ := isSome_create
  request h := by
    obtain ⟨-, rfl⟩ := Memory.create_eq_some_iff.mp h
    exact request _
  signature h hnot := by
    obtain ⟨-, rfl⟩ := Memory.create_eq_some_iff.mp h
    simp [isError] at hnot

theorem answers_methodReturn (vs : List Value) :
    Answers (fun msg => mem.methodReturn msg vs) (vs.map Value.ty) mem where
  isSome _ := isSome_create
  request h := by
    obtain ⟨-, rfl⟩ := Memory.create_eq_some_iff.mp h
    rfl
  signature h _ := by
    obtain ⟨-, rfl⟩ := Memory.create_eq_some_iff.mp h
    cases mem.append <;> simp [Reply.signature]

theorem Answers.ite {p : Prop} [Decidable p] {make make' : Message → Option Reply}
    {sig : List Ty} (h : Answers make sig mem) (h' : Answers make' sig mem) :
    Answers (fun msg => if p then make msg else make' msg) sig mem := by
  by_cases hp : p
  · simpa only [if_pos hp] using h
  · simpa only [if_neg hp] using h'

theorem answers_operatorReply (vs : List Value) :
    Answers (operatorReply op vs mem) (vs.map Value.ty) mem :=
  (answers_methodReturn vs).ite <| (answers_create (fun _ => rfl) fun _ => rfl).ite <|
    (answers_create (fun _ => rfl) fun _ => rfl).ite (answers_create (fun _ => rfl) fun _ => rfl)

/-- Every reply function is the frame around a way to create its replies. -/
theorem exists_run_eq_answerPending (fn : ReplyCall) (mem : Memory) :
    ∃ make, Answers make fn.signature mem ∧
      ∀ context, fn.run context mem = answerPending context make := by
  cases fn with
  | displayText op | playTone op | loopTone op | displayActionInformation op
  | displayAction op => exact ⟨_, answers_operatorReply [], fun _ => rfl⟩
  | requestDigit op digit | requestKey op digit | requestInput op digit
  | requestDigits op digit | requestQuickDigit op digit =>
    exact ⟨_, answers_operatorReply [.string digit], fun _ => rfl⟩
  | requestSelection op selection =>
    exact ⟨_, answers_operatorReply [.byte selection], fun _ => rfl⟩
  | requestConfirmation op | confirmCallSetup op | confirmLaunchBrowser op
  | confirmOpenChannel op =>
    -- a confirmation is answered by TRUE or FALSE, and by two errors
    refine ⟨_, ?_, fun _ => rfl⟩
    exact (answers_methodReturn [.boolean 1]).ite <|
      (answers_methodReturn [.boolean 0]).ite <|
        (answers_create (fun _ => rfl) fun _ => rfl).ite
          (answers_create (fun _ => rfl) fun _ => rfl)

/-- What a reply function can do: nothing, fail for lack of memory, or answer. -/
inductive Answered (fn : ReplyCall) (ctx : DbusContext) (mem : Memory) : Answer → Prop
  | idle (idle : ctx.connection = null ∨ ctx.pending = .null) :
      Answered fn ctx mem ⟨-einval, some ctx, []⟩
  | noReply (msg : Message) (pending : ctx.pending = .message msg) (memory : mem.reply = false) :
      Answered fn ctx mem ⟨error, some ctx, []⟩
  | sent (msg : Message) (reply : Reply) (connection : ctx.connection ≠ null)
      (pending : ctx.pending = .message msg) (memory : mem.reply = true)
      (request : reply.request = msg)
      (signature : reply.isError = false →
        reply.signature = if mem.append then fn.signature else []) :
      Answered fn ctx mem ⟨ok, some { ctx with pending := .null }, [reply]⟩

variable {fn : ReplyCall} {ctx : DbusContext} {a : Answer}

theorem answered_of_run_eq_some (h : fn.run (some ctx) mem = some a) :
    Answered fn ctx mem a := by
  obtain ⟨make, hmake, hrun⟩ := exists_run_eq_answerPending fn mem
  rw [hrun] at h
  by_cases hconn : ctx.connection = null
  · simp only [answerPending, hconn, if_true, Option.some.injEq] at h
    subst h
    exact .idle (.inl hconn)
  cases hp : ctx.pending with
  | null =>
    simp only [answerPending, hconn, hp, if_false, Option.some.injEq] at h
    subst h
    exact .idle (.inr hp)
  | wild => simp [answerPending, hconn, hp] at h
  | message msg =>
    -- only the memory decides whether there is a reply
    cases hm : make msg with
    | none =>
      simp only [answerPending, stkAgentDbusPendingReply, hconn, hp, hm, if_false,
        Option.some.injEq] at h
      subst h
      have hreply : mem.reply = false := by rw [← hmake.isSome msg, hm]; rfl
      exact .noReply msg hp hreply
    | some reply =>
      simp only [answerPending, stkAgentDbusPendingReply, hconn, hp, hm, if_false,
        Option.some.injEq] at h
      subst h
      have hreply : mem.reply = true := by rw [← hmake.isSome msg, hm]; rfl
      exact .sent msg reply hconn hp hreply (hmake.request hm) (hmake.signature hm)

/-- Only a wild pending word makes an answer undefined. -/
theorem run_ne_none (fn : ReplyCall) (mem : Memory) (h : ctx.pending ≠ .wild) :
    fn.run (some ctx) mem ≠ none := by
  obtain ⟨make, -, hrun⟩ := exists_run_eq_answerPending fn mem
  rw [hrun]
  unfold answerPending
  cases hp : ctx.pending with
  | wild => exact absurd hp h
  | null | message msg => by_cases hconn : ctx.connection = null <;> simp [hconn, hp]

/-- Without a pending message, no reply function does anything. -/
theorem run_eq_idle (h : ctx.pending = .null) :
    fn.run (some ctx) mem = some ⟨-einval, some ctx, []⟩ := by
  have hne : fn.run (some ctx) mem ≠ none := run_ne_none fn mem (by simp [h])
  obtain ⟨a, ha⟩ := Option.ne_none_iff_exists'.mp hne
  rw [ha]
  -- the other two exits need a pending message
  cases answered_of_run_eq_some ha with
  | idle => rfl
  | noReply msg pending => simp [h] at pending
  | sent msg reply connection pending => simp [h] at pending

/-- With connection, memory and a pending message, every reply function answers it. -/
theorem exists_run_eq_sent (fn : ReplyCall) {msg : Message} (connection : ctx.connection ≠ null)
    (pending : ctx.pending = .message msg) (memory : mem.reply = true) :
    ∃ reply, fn.run (some ctx) mem = some ⟨ok, some { ctx with pending := .null }, [reply]⟩ ∧
      reply.request = msg := by
  obtain ⟨make, hmake, hrun⟩ := exists_run_eq_answerPending fn mem
  have hsome : (make msg).isSome = true := by rw [hmake.isSome, memory]
  obtain ⟨reply, hreply⟩ := Option.isSome_iff_exists.mp hsome
  refine ⟨reply, ?_, hmake.request hreply⟩
  simp [hrun, answerPending, stkAgentDbusPendingReply, connection, pending, hreply]

end Answers

end Telephony.Stk
