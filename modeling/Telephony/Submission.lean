import Mathlib.Algebra.Group.Int.Defs
import Telephony.Ledger
import Telephony.ReplyFunction

/-!
# Submitting requests

A request checks its arguments, allocates a handler, a record and often a block with its
parameters, and hands them to the bus library together with a setup function that builds the
message, a reply function and a destroy function. The bus library may refuse the request
before or after the setup, and then leaves it to the request to clean up; or it accepts, runs
the reply function when the reply arrives, and the destroy function after it.

## Main definitions

* `Telephony.Block` — the blocks that a request allocates
* `Telephony.Submission` — what a request allocates and hands over
* `Telephony.withProxy` — the checks that most requests start with
* `Telephony.Outcome` — what the bus library does with a request
* `Telephony.Submission.trace` — everything that is done to the blocks
* `Telephony.Submission.Owned` — the destroy function owns all blocks

## Main results

* `Telephony.Submission.Owned.balanced_trace` — if the destroy function owns the blocks, each
  is released exactly once
-/

namespace Telephony

open DBus Ledger

/-! ## Blocks -/

/-- The blocks that a request allocates. A parameter block may own texts; `foreign` stands for
all memory that the request has not allocated. -/
inductive Block
  | params
  | text (i : ℕ)
  | result
  | handler
  | foreign
  deriving DecidableEq, Repr

/-- A parameter block, or a text that it owns. -/
def Block.ofParams : Block → Bool
  | .params | .text _ => true
  | _ => false

/-- What the application sees of the block that the data designates. -/
def Payload.shown : Payload → List (Op Block)
  | .params _ => [.use .params]
  | _ => []

/-- `free(data)`, unless it is NULL. -/
def Payload.freed : Payload → List (Op Block)
  | .params _ => [.free .params]
  | .null => []
  | _ => [.free .foreign]

/-! ## Functions that the bus library calls -/

/-- The pointer that a request passes through the bus library to its own functions. -/
inductive UserData
  | handler (handler : AsyncHandler Payload)
  | params (params : Params)

/-- An argument that a setup function appends. Of a text it may append a copy that it makes. A
loop over an array of the caller appends its first elements, if there are as many. -/
inductive Appended
  | value (v : Value)
  | text (t : TextTy) (s : CString)
  | copied (s : String)
  | variant (s : CString)
  | bytes (ns : Option (List ℤ))
  | strings (ss : Option (List String))

/-- The elements that a loop up to `n` reads, unless it leaves the array. -/
def firstOf {α : Type} (n : ℤ) (xs : List α) : Option (List α) :=
  if n.toNat ≤ xs.length then some (xs.take n.toNat) else none

/-- The same for a loop that compares with `n` as an `unsigned int`. -/
def firstOfUnsigned {α : Type} (n : ℤ) (xs : List α) : Option (List α) :=
  firstOf (n % 2 ^ 32) xs

/-- The data, used as a `char*`. -/
def Payload.cstring : Payload → CString
  | .text s => .text s
  | .null => .null
  | _ => .wild

/-- The data of a record that keeps a text of the caller. -/
def CString.payload : CString → Payload
  | .text s => .text s
  | .null => .null
  | .wild => .wild

/-- What a setup function appends to the message, and what it does to the blocks. -/
structure Setup where
  appended : List Appended := []
  ops : List (Op Block) := []

/-- A setup function that gets the handler and looks at the record. -/
def readingRecord (append : AsyncResult Payload → List Appended) : UserData → Setup
  | .handler handler => ⟨append handler.result, [.use .handler, .use .result]⟩
  | .params _ => {}

/-- A setup function that gets the handler, reads the parameter block behind the record and
then goes on with `after`. -/
def readingParams (append : Params → List Appended) (after : List (Op Block)) : UserData → Setup
  | .handler handler =>
    match handler.result.data with
    | .params params => ⟨append params, [.use .handler, .use .result, .use .params] ++ after⟩
    | _ => ⟨[], [.use .handler, .use .result]⟩
  | .params _ => {}

/-- A setup function that gets the parameter block itself. -/
def readingBlock (append : Params → List Appended) (uses : List (Op Block)) : UserData → Setup
  | .handler _ => {}
  | .params params => ⟨append params, uses⟩

/-- `handler_free`. -/
def handlerFree : List (Op Block) := [.use .handler, .free .result, .free .handler]

/-- `sim_event_data_free`, `phonebook_event_data_free`, `ss_event_data_free` and
`stk_event_data_free`, which are the same function. -/
def eventDataFree (data : Payload) : List (Op Block) :=
  [.use .handler, .use .result] ++ data.freed ++ [.free .result, .free .handler]

/-! ## Submissions -/

/-- What a request asks the bus library to do. -/
inductive BusCall
  | method (name : String)
  | property (name : String) (value : Appended)

/-- What a request allocates, in order, and what it hands over then. -/
structure Submission where
  proxy : Ptr
  call : BusCall
  steps : List (Step Block)
  /-- Depends on the texts that could be copied, and on the block that the record lies in. -/
  userData : (Block → Bool) → AsyncResult Payload → UserData
  setup : UserData → Setup := fun _ => {}
  function : Option ReplyFunction
  destroy : UserData → List (Op Block)
  refused : UserData → List (Op Block)

/-- The checks that most requests start with: the context, the slot, whatever else the request
asks for, and the proxy. -/
def withProxy (cfg : Config) (context : Option DbusContext) (slotId : ℤ) (type : ProxyType)
    (check : DbusContext → Option ℤ) (submission : Ptr → Submission) : Except ℤ Submission :=
  match context with
  | none => .error (-einval)
  | some ctx =>
    if !isValidSlotid cfg slotId then .error (-einval)
    else
      match check ctx with
      | some code => .error code
      | none =>
        if ctx.dbusProxy slotId.toNat type = null then .error (-eio)
        else .ok (submission (ctx.dbusProxy slotId.toNat type))

/-- No further check. -/
def unchecked : DbusContext → Option ℤ := fun _ => none

/-- A check that fails with `-EINVAL`. -/
def unlessInvalid (valid : Bool) : DbusContext → Option ℤ := fun _ =>
  if valid then none else some (-einval)

/-- The check that the client is ready. -/
def whenReady (ctx : DbusContext) : Option ℤ := if ctx.clientReady then none else some (-eagain)

/-- The argument is not NULL. -/
def CString.isSet (s : CString) : Bool := s ≠ .null

/-! ### What is allocated -/

/-- A record, then its handler. -/
def resultThenHandler : List (Step Block) :=
  [.alloc .result [] (-enomem), .alloc .handler [.free .result] (-enomem)]

/-- A handler, then its record. -/
def handlerThenResult : List (Step Block) :=
  [.alloc .handler [] (-enomem), .alloc .result [.free .handler] (-enomem)]

/-- A parameter block, then a record, then a handler. -/
def paramsThenHandler : List (Step Block) :=
  [.alloc .params [] (-enomem), .alloc .result [.free .params] (-enomem),
    .alloc .handler [.free .params, .free .result] (-enomem)]

/-- A handler, then its record, then a parameter block. -/
def handlerThenParams : List (Step Block) :=
  [.alloc .handler [] (-enomem), .alloc .result [.free .handler] (-enomem),
    .alloc .params [.free .handler, .free .result] (-enomem)]

/-- The handler of a request with a parameter block. -/
def paramsHandler (params : Params) (record : AsyncResult Payload → AsyncResult Payload)
    (pHandle : Ptr) (block : AsyncResult Payload) : AsyncHandler Payload :=
  ⟨{ record block with data := .params params }, pHandle⟩

/-- A request without a parameter block: what it allocates goes with the handler. -/
def plainRequest (steps : List (Step Block)) (call : BusCall)
    (record : AsyncResult Payload → AsyncResult Payload) (pHandle : Ptr)
    (setup : UserData → Setup) (function : Option ReplyFunction) (proxy : Ptr) : Submission where
  proxy := proxy
  call := call
  steps := steps
  userData _ block := .handler ⟨record block, pHandle⟩
  setup := setup
  function := function
  destroy _ := handlerFree
  refused _ := handlerFree

/-- A request whose parameter block is freed by its setup function. `params` depends on the
texts that could be copied, and `refused` is what the request frees itself if it is refused. -/
def consumedRequest (steps : List (Step Block)) (call : BusCall)
    (params : (Block → Bool) → Params) (record : AsyncResult Payload → AsyncResult Payload)
    (pHandle : Ptr)
    (setup : UserData → Setup) (function : ReplyFunction) (refused : List (Op Block))
    (proxy : Ptr) : Submission where
  proxy := proxy
  call := call
  steps := steps
  userData granted block := .handler (paramsHandler (params granted) record pHandle block)
  setup := setup
  function := some function
  destroy _ := handlerFree
  refused _ := refused

/-- A request whose parameter block is freed by its destroy function. -/
def ownedRequest (steps : List (Step Block)) (call : BusCall) (params : Params)
    (record : AsyncResult Payload → AsyncResult Payload) (pHandle : Ptr)
    (setup : UserData → Setup) (function : ReplyFunction) (proxy : Ptr) : Submission where
  proxy := proxy
  call := call
  steps := steps
  userData _ block := .handler (paramsHandler params record pHandle block)
  setup := setup
  function := some function
  destroy
    | .handler handler => eventDataFree handler.result.data
    | .params _ => []
  refused
    | .handler handler => eventDataFree handler.result.data
    | .params _ => []

/-- A request that hands over its parameter block alone. `freed` is what frees it. -/
def paramsRequest (steps : List (Step Block)) (call : BusCall) (params : (Block → Bool) → Params)
    (setup : UserData → Setup) (function : Option ReplyFunction) (freed : List (Op Block))
    (proxy : Ptr) : Submission where
  proxy := proxy
  call := call
  steps := steps
  userData granted _ := .params (params granted)
  setup := setup
  function := function
  destroy _ := freed
  refused _ := freed

/-- The fields of a record that requests fill in first. -/
def stamp (eventId slotId : ℤ) (ar : AsyncResult Payload) : AsyncResult Payload :=
  { ar with msgId := eventId, arg1 := slotId }

/-! ## What the bus library does -/

/-- What the bus library does with a request. -/
inductive Outcome
  | refusedBefore
  | refusedAfter
  | accepted (reply : Message) (heap : Heap)

namespace Submission

variable (s : Submission)

/-- The blocks that are there when the request is handed over. -/
def blocks : List Block := acquisitions [] s.steps

/-- What the reply function does to the blocks, and the user data that it leaves. The callback
uses what the data of the record designates. -/
def reply (userData : UserData) (message : Message) (heap : Heap) :
    List (Op Block) × UserData :=
  match userData, s.function with
  | .handler handler, some f =>
    let after := f.after handler message heap
    ([.use .handler, .use .result] ++ (if after.called then after.result.data.shown else []),
      .handler { handler with result := after.result })
  | userData, _ => ([], userData)

/-- What is done to the blocks of a request that has been handed over. -/
def handedOver (userData : UserData) : Outcome → List (Op Block)
  | .refusedBefore => s.refused userData
  | .refusedAfter => (s.setup userData).ops ++ s.refused userData
  | .accepted message heap =>
    (s.setup userData).ops ++ (s.reply userData message heap).1 ++
      s.destroy (s.reply userData message heap).2

/-- Everything that is done to the blocks of a request, given the blocks that there is memory
for, what the record finds in its block, and the outcome. -/
def trace (granted : Block → Bool) (block : AsyncResult Payload) (outcome : Outcome) :
    List (Op Block) :=
  (acquire granted s.steps).1 ++
    if (acquire granted s.steps).2 = none then
      held granted (s.handedOver (s.userData granted block) outcome)
    else []

/-- What the request returns, if the bus library accepts or refuses it. -/
def code (granted : Block → Bool) (accepts : Bool) : ℤ :=
  match (acquire granted s.steps).2 with
  | some code => code
  | none => if accepts then ok else -einval

/-! ## Requests whose blocks belong to the destroy function -/

/-- Whoever gets the user data uses the blocks of the request, and whoever gets it last frees
them. -/
structure Owned : Prop where
  sound : Sound [] s.steps
  setup : ∀ granted block, Uses s.blocks (s.setup (s.userData granted block)).ops
  refused : ∀ granted block, Releases s.blocks (s.refused (s.userData granted block))
  reply : ∀ granted block message heap,
    Uses s.blocks (s.reply (s.userData granted block) message heap).1
  destroy : ∀ granted block message heap,
    Releases s.blocks (s.destroy (s.reply (s.userData granted block) message heap).2)

variable {s} {granted : Block → Bool} {block : AsyncResult Payload} {outcome : Outcome}
  {b : Block}

/-- What happens to one block once the request has been handed over. -/
theorem advance_trace_of_done (hsound : Sound [] s.steps)
    (hdone : (acquire granted s.steps).2 = none) :
    advance b .fresh (s.trace granted block outcome) =
      advance b (fateOf granted s.blocks b)
        (held granted (s.handedOver (s.userData granted block) outcome)) := by
  have hfresh : fateOf granted [] b = .fresh := by simp [fateOf]
  rw [trace, if_pos hdone, advance_append, ← hfresh, advance_acquire hsound hdone]
  rfl

theorem settled_trace_of_failed (hsound : Sound [] s.steps)
    (hfailed : (acquire granted s.steps).2 ≠ none) :
    Settled b (s.trace granted block outcome) := by
  rw [trace, if_neg hfailed, List.append_nil]
  exact settled_acquire hsound hfailed

theorem Owned.releases_handedOver (h : s.Owned) :
    Releases s.blocks (s.handedOver (s.userData granted block) outcome) := by
  cases outcome with
  | refusedBefore => exact h.refused granted block
  | refusedAfter => exact (h.setup granted block).releases_append (h.refused granted block)
  | accepted message heap =>
    have huses := (h.setup granted block).append (h.reply granted block message heap)
    exact huses.releases_append (h.destroy granted block message heap)

/-- Every block is released exactly once, after its last use. -/
theorem Owned.balanced_trace (h : s.Owned) : Balanced (s.trace granted block outcome) := by
  intro b
  by_cases hdone : (acquire granted s.steps).2 = none
  · rw [Settled, advance_trace_of_done h.sound hdone, h.releases_handedOver.advance_held]
    split <;> simp
  · exact settled_trace_of_failed h.sound hdone

section Families

variable {steps : List (Step Block)} {call : BusCall} {params : Params}
  {record : AsyncResult Payload → AsyncResult Payload} {pHandle proxy : Ptr}
  {append : Params → List Appended} {after refused : List (Op Block)} {f : ReplyFunction}

section Owned

variable (hblocks : ∀ b, b ∈ acquisitions [] steps ↔ b = .params ∨ b = .result ∨ b = .handler)

include hblocks

theorem releases_eventDataFree (params : Params) :
    Releases (acquisitions [] steps) (eventDataFree (.params params)) := by
  refine ⟨fun b hb => ?_, ?_⟩
  · obtain rfl | rfl | rfl := (hblocks b).mp hb <;> rfl
  · simp [eventDataFree, Payload.freed, hblocks]

theorem uses_reply (params : Params) (called : Bool) :
    Uses (acquisitions [] steps) ([.use .handler, .use .result] ++
      if called then (Payload.params params).shown else []) := by
  cases called <;> simp [Uses, Payload.shown, hblocks]

/-- A request whose setup function only reads the parameter block, and whose reply function
takes nothing from the reply, leaves its blocks to the destroy function. -/
theorem owned_ownedRequest (hsound : Sound [] steps) (hf : f.takesParams = true)
    (hkeeps : ∀ args, f.argsData args = none) :
    (ownedRequest steps call params record pHandle (readingParams append []) f proxy).Owned where
  sound := hsound
  setup granted block := by
    have huses : Uses (acquisitions [] steps)
        [Op.use Block.handler, Op.use Block.result, Op.use Block.params] := by
      simp [Uses, hblocks]
    exact huses
  refused granted block := releases_eventDataFree hblocks params
  reply granted block message heap := by
    let handler := paramsHandler params record pHandle block
    -- the reply function leaves the parameter block in the record, for the destroy function
    have hdata : (f.after handler message heap).result.data = .params params :=
      ReplyFunction.data_after_of_keeps hf hkeeps
    have huses := uses_reply hblocks params (f.after handler message heap).called
    rw [← hdata] at huses
    exact huses
  destroy granted block message heap := by
    let handler := paramsHandler params record pHandle block
    have hdata : (f.after handler message heap).result.data = .params params :=
      ReplyFunction.data_after_of_keeps hf hkeeps
    have hreleases := releases_eventDataFree hblocks params
    rw [← hdata] at hreleases
    exact hreleases

end Owned

section Consumed

/-- The setup function frees the parameter block with its texts, and so does the request if it
is refused. -/
structure Consumes (steps : List (Step Block)) (after refused : List (Op Block)) : Prop where
  sound : Sound [] steps
  alloc : ∃ cleanup code, Step.alloc .params cleanup code ∈ steps
  params : .params ∈ acquisitions [] steps
  setup : ∀ b ∈ acquisitions [] steps, b.ofParams = true →
    advance b .live ([.use .handler, .use .result, .use .params] ++ after) = some .freed
  refusal : ∀ b ∈ acquisitions [] steps, b.ofParams = true →
    advance b .live refused = some .freed
  known : ∀ op ∈ after ++ refused, op.block.ofParams = true → op.block ∈ acquisitions [] steps
  freesParams : .free .params ∈ refused

/-- The parameter block and its texts are released exactly once, and not before the last
callback that sees them. -/
def ParamsReleased (s : Submission) (granted : Block → Bool) (block : AsyncResult Payload)
    (outcome : Outcome) : Prop :=
  ∀ b, b.ofParams = true → Settled b (s.trace granted block outcome)

/-- The outcomes after which nothing frees or shows the parameter block again. -/
def Harmless (pHandle : Ptr) (f : ReplyFunction) : Outcome → Prop
  | .refusedBefore => True
  | .refusedAfter => False
  | .accepted reply _ => pHandle = null ∨ f.Replaces reply

/-- What is done to the blocks after the setup function. -/
def afterSetup (s : Submission) (userData : UserData) : Outcome → List (Op Block)
  | .refusedBefore | .refusedAfter => s.refused userData
  | .accepted message heap =>
    (s.reply userData message heap).1 ++ s.destroy (s.reply userData message heap).2

theorem handedOver_eq {userData : UserData} (h : outcome ≠ .refusedBefore) :
    s.handedOver userData outcome =
      (s.setup userData).ops ++ s.afterSetup userData outcome := by
  cases outcome with
  | refusedBefore => contradiction
  | refusedAfter => rfl
  | accepted message heap => exact List.append_assoc ..

/-- If a block that the setup function has freed is settled, nothing happens to it later. -/
theorem block_ne_of_settled_trace (hsound : Sound [] s.steps)
    (hdone : (acquire granted s.steps).2 = none) (hgranted : granted b = true)
    (hb : b ∈ s.blocks) (houtcome : outcome ≠ .refusedBefore)
    (hsetup : advance b .live (s.setup (s.userData granted block)).ops = some .freed)
    (hsettled : Settled b (s.trace granted block outcome)) :
    ∀ op ∈ s.afterSetup (s.userData granted block) outcome, op.block ≠ b := by
  have hlive : fateOf granted s.blocks b = .live := by simp [fateOf, hb, hgranted]
  rw [Settled, advance_trace_of_done hsound hdone, hlive, handedOver_eq houtcome, advance_held,
    if_pos hgranted, advance_append, hsetup, Option.bind_some] at hsettled
  simpa [advance_freed_iff] using hsettled

/-- A block that is released if it is one of the request is settled. -/
theorem settled_trace_of_releases (hsound : Sound [] s.steps)
    (hdone : (acquire granted s.steps).2 = none)
    (hreleases : b ∈ s.blocks →
      advance b .live (s.handedOver (s.userData granted block) outcome) = some .freed)
    (hops : ∀ op ∈ s.handedOver (s.userData granted block) outcome,
      op.block = b → b ∈ s.blocks) :
    Settled b (s.trace granted block outcome) := by
  rw [Settled, advance_trace_of_done hsound hdone, advance_held]
  unfold fateOf
  by_cases hb : b ∈ s.blocks
  · cases hgranted : granted b <;> simp [hb, hreleases hb]
  · have hother : ∀ op ∈ s.handedOver (s.userData granted block) outcome, op.block ≠ b :=
      fun op hop hblock => hb (hops op hop hblock)
    simp [hb, advance_of_forall_ne hother]

/-- What the callback sees of the blocks. -/
def shownAfter (f : ReplyFunction) (handler : AsyncHandler Payload) (message : Message)
    (heap : Heap) : List (Op Block) :=
  if (f.after handler message heap).called then
    (f.after handler message heap).result.data.shown
  else []

theorem shown_of_ne_params {data : Payload} (h : ∀ params, data ≠ .params params) :
    data.shown = [] := by
  cases data with
  | params p => exact absurd rfl (h p)
  | _ => rfl

/-- The callback sees the parameter block unless there is no callback, or the reply has
replaced the data. -/
theorem shownAfter_eq (handler : AsyncHandler Payload) (message : Message) (heap : Heap)
    (hf : f.takesParams = true) (hdata : handler.result.data = .params params) :
    (handler.cbFunction = null ∨ f.Replaces message → shownAfter f handler message heap = []) ∧
      (¬ (handler.cbFunction = null ∨ f.Replaces message) →
        shownAfter f handler message heap = [.use .params]) := by
  unfold shownAfter
  by_cases hcb : handler.cbFunction = null
  · have hsilent : ReplyFunction.Silent handler.result.data (f.after handler message heap) :=
      ReplyFunction.silent_after hf hcb
    simp [hcb, hsilent.1]
  · obtain ⟨hcalled, hshown⟩ : ReplyFunction.Shows
        ((f.newData message).getD handler.result.data) (f.after handler message heap) :=
      ReplyFunction.shows_after hf hcb
    rw [hcalled, hshown, ← ReplyFunction.isSome_newData_iff, hdata]
    -- the callback sees the new data if there is any, and it is no parameter block
    cases hnew : f.newData message with
    | none => simp [hcb, Payload.shown]
    | some data =>
      have hne := ReplyFunction.newData_ne_params hnew
      simp [shown_of_ne_params hne]

variable {paramsOf : (Block → Bool) → Params}

/-- After the setup function, either the outcome is harmless and nothing of the parameter block
is touched, or it is not and the block is. -/
theorem afterSetup_cases (h : Consumes steps after refused) (hf : f.takesParams = true)
    (houtcome : outcome ≠ .refusedBefore) :
    let ops := (consumedRequest steps call paramsOf record pHandle (readingParams append after) f
      refused proxy).afterSetup
        (.handler (paramsHandler (paramsOf granted) record pHandle block)) outcome
    (Harmless pHandle f outcome ∧ ∀ op ∈ ops, op.block.ofParams = false) ∨
      (¬ Harmless pHandle f outcome ∧ ∃ op ∈ ops, op.block = .params) := by
  intro ops
  cases outcome with
  | refusedBefore => contradiction
  -- the refused request frees the parameter block that the setup function has freed
  | refusedAfter => exact .inr ⟨id, _, h.freesParams, rfl⟩
  | accepted message heap =>
    let handler := paramsHandler (paramsOf granted) record pHandle block
    -- the callback comes between the reading of the record and the destroy function
    have hops : ops =
        [.use .handler, .use .result] ++ shownAfter f handler message heap ++ handlerFree := rfl
    obtain ⟨hhidden, hseen⟩ : _ ∧ _ :=
      shownAfter_eq handler message heap hf rfl
    by_cases hharm : Harmless pHandle f (.accepted message heap)
    · refine .inl ⟨hharm, ?_⟩
      rw [hops, hhidden hharm]
      simp [handlerFree, Block.ofParams]
    · refine .inr ⟨hharm, .use .params, ?_, rfl⟩
      rw [hops, hseen hharm]
      simp

/-- A request whose setup function frees the parameter block releases it exactly once if an
allocation fails, or if what comes after the setup is harmless. -/
theorem paramsReleased_consumedRequest_iff (h : Consumes steps after refused)
    (hf : f.takesParams = true) :
    (consumedRequest steps call paramsOf record pHandle (readingParams append after) f refused
        proxy).ParamsReleased granted block outcome ↔
      (acquire granted steps).2 ≠ none ∨ Harmless pHandle f outcome := by
  by_cases hdone : (acquire granted steps).2 = none
  swap
  · exact iff_of_true (fun b _ => settled_trace_of_failed h.sound hdone) (.inl hdone)
  set s := consumedRequest steps call paramsOf record pHandle (readingParams append after) f
    refused proxy
  have hsetup : ∀ b, b ∈ s.blocks → b.ofParams = true →
      advance b .live (s.setup (s.userData granted block)).ops = some .freed := h.setup
  have hcases : outcome ≠ .refusedBefore →
      (Harmless pHandle f outcome ∧ ∀ op ∈ s.afterSetup (s.userData granted block) outcome,
        op.block.ofParams = false) ∨
      (¬ Harmless pHandle f outcome ∧ ∃ op ∈ s.afterSetup (s.userData granted block) outcome,
        op.block = .params) := afterSetup_cases h hf
  constructor
  · intro hreleased
    right
    by_contra hharm
    have houtcome : outcome ≠ .refusedBefore := by
      rintro rfl
      exact hharm trivial
    obtain ⟨hharm', -⟩ | ⟨-, op, hop, hblock⟩ := hcases houtcome
    · exact hharm hharm'
    · have hgranted : granted .params = true := by
        obtain ⟨cleanup, code, halloc⟩ := h.alloc
        exact acquire_eq_none_iff.mp hdone _ halloc
      have hparams : Block.params ∈ s.blocks := h.params
      exact block_ne_of_settled_trace h.sound hdone hgranted hparams houtcome
        (hsetup _ hparams rfl) (hreleased .params rfl) op hop hblock
  · rintro (hfailed | hharm) b hb
    · contradiction
    by_cases houtcome : outcome = .refusedBefore
    · -- the request frees the block itself
      subst houtcome
      refine settled_trace_of_releases h.sound hdone (h.refusal b · hb) ?_
      rintro op hop rfl
      exact h.known op (List.mem_append_right _ hop) hb
    · -- the setup function frees it, and nothing else touches it
      obtain ⟨-, hquiet⟩ | ⟨hharm', -⟩ := hcases houtcome
      swap
      · exact absurd hharm hharm'
      have hne : ∀ op ∈ s.afterSetup (s.userData granted block) outcome, op.block ≠ b := by
        rintro op hop rfl
        rw [hquiet op hop] at hb
        contradiction
      apply settled_trace_of_releases h.sound hdone
      · intro hmem
        rw [handedOver_eq houtcome, advance_append, hsetup b hmem hb, Option.bind_some,
          advance_freed_iff]
        exact ⟨rfl, hne⟩
      · rw [handedOver_eq houtcome]
        rintro op hop rfl
        obtain hop | hop := List.mem_append.mp hop
        · obtain hop | hop := List.mem_append.mp hop
          · have hop : op = .use .handler ∨ op = .use .result ∨ op = .use .params := by
              simpa using hop
            obtain rfl | rfl | rfl := hop
            · contradiction
            · contradiction
            · exact h.params
          · exact h.known op (List.mem_append_left _ hop) hb
        · exact absurd rfl (hne op hop)

end Consumed

end Families

end Submission

end Telephony
