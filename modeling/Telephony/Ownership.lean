import Telephony.Request

/-!
# Who frees the parameter block of a request

Some requests leave their parameter block to the destroy function, which is called when the
reply has been handled. Others free it as soon as the setup function has read it, and again if
the bus library has refused the request after that; the data of their records still designates
the block when the reply arrives.

## Main definitions

* `Telephony.Request.trace` — everything that a request does to the blocks it allocates
* `Telephony.Request.ownsParams`, `Telephony.Request.consumesParams` — the requests of the two
  kinds
* `Telephony.Request.ReleasesParams` — the parameter block is released exactly once, and no
  callback sees it afterwards

## Main results

* `Telephony.Request.balanced_trace_of_ownsParams` — a request of the first kind releases all
  its blocks exactly once
* `Telephony.Request.releasesParams_iff` — what has to happen for a request of the second kind to
  release its parameter block exactly once
-/

namespace Telephony

open DBus Ledger

namespace Submission

variable {s : Submission} {steps : List (Step Block)} {call : BusCall}
  {paramsOf : (Block → Bool) → Params} {append : Params → List Appended}
  {uses freed : List (Op Block)} {function : Option ReplyFunction} {proxy pHandle : Ptr}
  {granted : Block → Bool} {block : AsyncResult Payload} {outcome : Outcome}

/-! ## Blocks that are handed over alone -/

/-- A parameter block that is handed over without a handler is left to the function that frees
it, since no reply function looks at it. -/
theorem owned_paramsRequest (hsound : Sound [] steps) (huses : Uses (acquisitions [] steps) uses)
    (hfreed : Releases (acquisitions [] steps) freed) :
    (paramsRequest steps call paramsOf (readingBlock append uses) function freed proxy).Owned where
  sound := hsound
  setup _ _ := huses
  refused _ _ := hfreed
  reply _ _ _ _ := List.forall_mem_nil _
  destroy _ _ _ _ := hfreed

/-! ## The ways to free a parameter block early -/

theorem mem_paramsThenHandler (b : Block) :
    b ∈ acquisitions [] paramsThenHandler ↔ b = .params ∨ b = .result ∨ b = .handler := by
  cases b <;> simp [acquisitions, paramsThenHandler]

theorem mem_handlerThenParams (b : Block) :
    b ∈ acquisitions [] handlerThenParams ↔ b = .params ∨ b = .result ∨ b = .handler := by
  cases b <;> simp [acquisitions, handlerThenParams]

/-- Three blocks, of which the setup function frees the parameter block. A request that is refused
frees it before or after the others. -/
theorem consumes_of_blocks {refused : List (Op Block)} (hsound : Sound [] steps)
    (halloc : ∃ cleanup code, Step.alloc .params cleanup code ∈ steps)
    (hblocks : ∀ b, b ∈ acquisitions [] steps ↔ b = .params ∨ b = .result ∨ b = .handler)
    (hrefused : refused = [.free .params] ++ handlerFree ∨
      refused = handlerFree ++ [.free .params]) :
    Consumes steps [.free .params] refused where
  sound := hsound
  alloc := halloc
  params := (hblocks .params).mpr (.inl rfl)
  setup b hb hparams := by
    obtain rfl | rfl | rfl := (hblocks b).mp hb
    · rfl
    · contradiction
    · contradiction
  refusal b hb hparams := by
    obtain rfl | rfl | rfl := (hblocks b).mp hb
    · obtain rfl | rfl := hrefused <;> rfl
    · contradiction
    · contradiction
  known op hop _ := by
    -- a refusal touches the three blocks only
    have hblock : op.block = .params ∨ op.block = .result ∨ op.block = .handler := by
      obtain rfl | rfl := hrefused
      all_goals
        simp only [handlerFree, List.cons_append, List.nil_append, List.mem_cons,
          List.not_mem_nil, or_false] at hop
        obtain rfl | rfl | rfl | rfl | rfl := hop <;> simp
    exact (hblocks op.block).mpr hblock
  freesParams := by
    obtain rfl | rfl := hrefused <;> simp [handlerFree]

theorem consumes_paramsThenHandler {refused : List (Op Block)}
    (hrefused : refused = [.free .params] ++ handlerFree ∨
      refused = handlerFree ++ [.free .params]) :
    Consumes paramsThenHandler [.free .params] refused :=
  consumes_of_blocks (by decide) ⟨_, _, .head _⟩ mem_paramsThenHandler hrefused

theorem consumes_handlerThenParams :
    Consumes handlerThenParams [.free .params] (handlerFree ++ [.free .params]) :=
  consumes_of_blocks (by decide) ⟨_, _, .tail _ (.tail _ (.head _))⟩ mem_handlerThenParams
    (.inr rfl)

theorem consumes_messageThenHandler (code : ℤ) :
    Consumes (Sms.messageThenHandler code) Sms.afterFirstText
      (handlerFree ++ Sms.messageFree) where
  sound := of_decide_eq_true rfl
  alloc := ⟨_, _, .head _⟩
  params := of_decide_eq_true rfl
  setup := of_decide_eq_true rfl
  refusal := of_decide_eq_true rfl
  known := of_decide_eq_true rfl
  freesParams := by decide

/-- There is memory for the blocks that these requests cannot do without. -/
def Sufficient (granted : Block → Bool) : Prop :=
  granted .params = true ∧ granted .result = true ∧ granted .handler = true

theorem acquire_paramsThenHandler :
    (acquire granted paramsThenHandler).2 = none ↔ Sufficient granted := by
  simp [acquire_eq_none_iff, paramsThenHandler, Step.Succeeds, Sufficient]

theorem acquire_handlerThenParams :
    (acquire granted handlerThenParams).2 = none ↔ Sufficient granted := by
  have h : (acquire granted handlerThenParams).2 = none ↔
      granted .handler = true ∧ granted .result = true ∧ granted .params = true := by
    simp [acquire_eq_none_iff, handlerThenParams, Step.Succeeds]
  rw [h, Sufficient]
  constructor
  · rintro ⟨hhandler, hresult, hparams⟩
    exact ⟨hparams, hresult, hhandler⟩
  · rintro ⟨hparams, hresult, hhandler⟩
    exact ⟨hhandler, hresult, hparams⟩

theorem acquire_handlerThenParams_of_not_sufficient (h : ¬ Sufficient granted) :
    (acquire granted handlerThenParams).2 = some (-enomem) := by
  cases hhandler : granted .handler <;> cases hresult : granted .result <;>
    cases hparams : granted .params <;>
    simp_all [acquire, handlerThenParams, Sufficient]

theorem acquire_messageThenHandler {code : ℤ} :
    (acquire granted (Sms.messageThenHandler code)).2 = none ↔ Sufficient granted := by
  simp [acquire_eq_none_iff, Sms.messageThenHandler, Step.Succeeds, Sufficient]

theorem paramsReleased_iff {record : AsyncResult Payload → AsyncResult Payload}
    {after refused : List (Op Block)} {f : ReplyFunction} (h : Consumes steps after refused)
    (hacquire : (acquire granted steps).2 = none ↔ Sufficient granted)
    (hf : f.takesParams = true) :
    let s := consumedRequest steps call paramsOf record pHandle (readingParams append after) f
      refused proxy
    s.ParamsReleased granted block outcome ↔
      (Sufficient granted → ∃ f, s.function = some f ∧ Harmless pHandle f outcome) := by
  intro s
  have hfunction : s.function = some f := rfl
  have hiff : s.ParamsReleased granted block outcome ↔ _ :=
    paramsReleased_consumedRequest_iff h hf
  rw [hiff, ne_eq, hacquire, ← imp_iff_not_or]
  simp [hfunction]

end Submission

namespace Request

variable {r : Request} {c : Caller} {s : Submission} {granted : Block → Bool}
  {block : AsyncResult Payload} {outcome : Outcome}

/-! ## Requests -/

/-- The arguments pass the checks that the request makes before it allocates anything. -/
def Passes (r : Request) (c : Caller) : Prop := ∃ s, r.submit c = some (.ok s)

/-- Everything that a request does to the blocks it allocates. One that does not pass its
checks allocates none. -/
def trace (r : Request) (c : Caller) (granted : Block → Bool) (block : AsyncResult Payload)
    (outcome : Outcome) : List (Op Block) :=
  match r.submit c with
  | some (.ok s) => s.trace granted block outcome
  | _ => []

theorem trace_of_submit (h : r.submit c = some (.ok s)) :
    r.trace c granted block outcome = s.trace granted block outcome := by
  simp only [trace, h]

theorem trace_of_not_passes (h : ¬ r.Passes c) : r.trace c granted block outcome = [] := by
  unfold trace
  split
  · rename_i s hs
    exact absurd ⟨s, hs⟩ h
  · rfl

/-- The requests that leave the parameter block to the destroy function. -/
def ownsParams : Request → Bool
  | .changePin _ _ _ | .enterPin _ _ | .resetPin _ _ _ | .lockPin _ _ | .unlockPin _ _
  | .insertFdnEntry _ _ _ _ | .deleteFdnEntry _ _ | .updateFdnEntry _ _ _ _
  | .setCallBarringOption _ _ | .changeCallBarringPassword _ _ | .stkSelectItem _ _
  | .copyMessageToSim _ _ _ _ | .deflect _ _ | .dialConference _ _
  | .inviteParticipants _ _ => true
  | _ => false

/-- The requests whose setup function frees the parameter block. -/
def consumesParams : Request → Bool
  | .dial _ _ | .startDtmf _ | .stopDtmf | .sendMessage _ _ _ | .sendDataMessage _ _ _ _
  | .oemRilRequestRaw _ _ | .oemRilRequestStrings _ _ | .enableModemAbnormalEvent _ _ _ _
  | .openLogicalChannel _ _ _ | .transmitApduLogicalChannel _ _ _
  | .transmitApduBasicChannel _ _ _ => true
  | _ => false

/-- The parameter block and its texts are released exactly once, and no callback sees them
afterwards. -/
def ReleasesParams (r : Request) (c : Caller) (granted : Block → Bool)
    (block : AsyncResult Payload) (outcome : Outcome) : Prop :=
  ∀ b, b.ofParams = true → Settled b (r.trace c granted block outcome)

theorem releasesParams_of_not_passes (h : ¬ r.Passes c) :
    r.ReleasesParams c granted block outcome := by
  intro b _
  rw [trace_of_not_passes h]
  exact .inl rfl

/-! ### Blocks that the destroy function frees -/

open Submission in
theorem owned_of_submit (hr : r.ownsParams = true) (h : r.submit c = some (.ok s)) : s.Owned := by
  cases r with
  | changePin _ _ _ | enterPin _ _ | resetPin _ _ _ | lockPin _ _ | unlockPin _ _
  | insertFdnEntry _ _ _ _ | deleteFdnEntry _ _ | updateFdnEntry _ _ _ _ | stkSelectItem _ _ =>
    exact of_withProxy _ (Option.some.inj h) fun _ =>
      owned_ownedRequest mem_paramsThenHandler (by decide) rfl fun _ => rfl
  | setCallBarringOption _ _ | changeCallBarringPassword _ _ =>
    exact of_withProxy _ (Option.some.inj h) fun _ =>
      owned_ownedRequest mem_handlerThenParams (by decide) rfl fun _ => rfl
  | copyMessageToSim _ _ _ _ | deflect _ _ =>
    exact of_withProxy _ (Option.some.inj h) fun _ =>
      owned_paramsRequest (by decide) (by decide) (by decide)
  | dialConference _ _ | inviteParticipants _ _ =>
    cases Option.some.inj h
    apply of_managerConference
    -- a conference may fail at its size, with its block allocated
    rintro checks proxy (rfl | ⟨code, rfl⟩)
    · exact owned_paramsRequest (by decide) (by decide) (by decide)
    · exact owned_paramsRequest (of_decide_eq_true rfl) (of_decide_eq_true rfl)
        (of_decide_eq_true rfl)
  | _ => contradiction

/-- Whatever fails and whatever the bus library does, every block of these requests is released
exactly once, and nobody uses it afterwards. -/
theorem balanced_trace_of_ownsParams (hr : r.ownsParams = true) :
    Balanced (r.trace c granted block outcome) := by
  by_cases hpasses : r.Passes c
  · obtain ⟨s, hs⟩ := hpasses
    rw [trace_of_submit hs]
    exact (owned_of_submit hr hs).balanced_trace
  · intro b
    rw [trace_of_not_passes hpasses]
    exact .inl rfl

theorem balanced_trace_changePin :
    Balanced ((changePin (.text "pin") (.text "1234") (.text "4321")).trace sampleCaller
      (fun _ => true) sampleBlock .refusedAfter) :=
  balanced_trace_of_ownsParams rfl

/-! ### Blocks that the setup function frees -/

open Submission in
theorem paramsReleased_iff_of_submit (hr : r.consumesParams = true)
    (h : r.submit c = some (.ok s)) :
    s.ParamsReleased granted block outcome ↔
      (Sufficient granted → ∃ f, s.function = some f ∧ Harmless c.pHandle f outcome) := by
  let p (s : Submission) : Prop := s.ParamsReleased granted block outcome ↔
    (Sufficient granted → ∃ f, s.function = some f ∧ Harmless c.pHandle f outcome)
  -- the cases differ in the order in which the blocks are allocated
  cases r with
  | dial _ _ | startDtmf _ =>
    exact of_withProxy (p := p) _ (Option.some.inj h) fun _ =>
      paramsReleased_iff (consumes_paramsThenHandler (.inl rfl)) acquire_paramsThenHandler rfl
  | stopDtmf =>
    exact of_stopDtmf (p := p) h fun _ =>
      paramsReleased_iff (consumes_paramsThenHandler (.inl rfl)) acquire_paramsThenHandler rfl
  | openLogicalChannel _ _ _ | transmitApduLogicalChannel _ _ _
  | transmitApduBasicChannel _ _ _ =>
    exact of_withProxy (p := p) _ (Option.some.inj h) fun _ =>
      paramsReleased_iff (consumes_paramsThenHandler (.inr rfl)) acquire_paramsThenHandler rfl
  | oemRilRequestRaw _ _ | oemRilRequestStrings _ _ | enableModemAbnormalEvent _ _ _ _ =>
    exact of_withProxy (p := p) _ (Option.some.inj h) fun _ =>
      paramsReleased_iff consumes_handlerThenParams acquire_handlerThenParams rfl
  | sendMessage _ _ _ | sendDataMessage _ _ _ _ =>
    exact of_withProxy (p := p) _ (Option.some.inj h) fun _ =>
      paramsReleased_iff (consumes_messageThenHandler _) acquire_messageThenHandler rfl
  | _ => contradiction

/-- A request releases its parameter block exactly once unless it gets as far as the setup
function, and the bus library then refuses it or a callback gets the old data with the reply. -/
theorem releasesParams_iff (hr : r.consumesParams = true) :
    r.ReleasesParams c granted block outcome ↔
      (r.Passes c → Submission.Sufficient granted →
        ∃ f, r.function = some f ∧ Submission.Harmless c.pHandle f outcome) := by
  by_cases hpasses : r.Passes c
  · obtain ⟨s, hs⟩ := id hpasses
    have hiff : s.ParamsReleased granted block outcome ↔ _ := paramsReleased_iff_of_submit hr hs
    rw [ReleasesParams, trace_of_submit hs, ← function_of_submit hs]
    exact ⟨fun hreleased _ => hiff.mp hreleased, fun h => hiff.mpr (h hpasses)⟩
  · exact iff_of_true (releasesParams_of_not_passes hpasses) fun h => absurd h hpasses

theorem releasesParams_dial_refused :
    (dial "10086" 0).ReleasesParams sampleCaller (fun _ => true) sampleBlock .refusedBefore :=
  (releasesParams_iff rfl).mpr fun _ _ => ⟨.dialCallCallback, rfl, trivial⟩

/-- When the bus library refuses a call after the setup function, the block is freed twice. -/
theorem not_releasesParams_dial :
    ¬ (dial "10086" 0).ReleasesParams sampleCaller (fun _ => true) sampleBlock
      .refusedAfter := by
  intro h
  exact absurd (h .params rfl) (by decide)

end Request

end Telephony
