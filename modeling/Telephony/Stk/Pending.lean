import Telephony.Manager.Open
import Telephony.Stk.System

/-!
# The pending request of a context

The context has one `pending` pointer for all its agents. It should name the one request that
was accepted and has since been neither answered nor withdrawn. The library keeps it so, but
`tapi_open` does not set it, and a handler whose record no longer holds the context follows
that record instead.

## Main definitions

* `Stk.Tracked` — a system with the request that its history leaves outstanding
* `Stk.Consistent` — the pending pointer names the outstanding request
* `Stk.Tracks` — a step is defined, leaves the pointer consistent, and respects the
  outstanding request
* `Stk.Orderly` — a call finds a record that it can use

## Main results

* `Stk.keepsTrack_iff_orderly` — in a run from `tapi_open`, the pending pointer is right exactly
  if the block had none and every call is orderly
-/

namespace Telephony.Stk

open DBus Machine

/-! ## The outstanding request -/

/-- Some callback of the step got the status `OK`. -/
def accepted (out : List Output) : Bool :=
  out.any fun
    | .callback _ _ ar => ar.status = ok
    | _ => false

/-- A reply was sent to the pending message. -/
def answered (out : List Output) : Bool :=
  out.any fun
    | .sent _ => true
    | _ => false

/-- A system together with the request that is outstanding: accepted, and since then neither
answered nor cancelled nor released. -/
structure Tracked where
  sys : System
  outstanding : Option Message

namespace Tracked

/-- The outstanding request after a step with the given outputs. A cancel or release counts
if it reaches an agent that has a callback. -/
def next (t : Tracked) (e : Event) (out : List Output) : Option Message :=
  match e with
  | .call msg _ =>
    match t.sys.entered msg with
    | none => t.outstanding
    | some (entry, handler) =>
      if entry.isRequest then (if accepted out then some msg else t.outstanding)
      else if handler.cbFunction = null then t.outstanding
      else none
  | .answer _ _ => if answered out then none else t.outstanding

def step : Machine.Step Tracked Event Output
  | t, e => (t.sys.step e).map fun r => (⟨r.1, t.next e r.2⟩, r.2)

end Tracked

/-- The pointer to an outstanding request. -/
def pendingOf : Option Message → PendingPtr
  | none => .null
  | some msg => .message msg

/-- The pending pointer names the outstanding request, and is NULL without one. -/
def Consistent (t : Tracked) : Prop := t.sys.context.pending = pendingOf t.outstanding

/-! ## The property and its condition -/

/-- How a step treats the outstanding request. Without one, a request is not refused as busy
and an answer fails and sends nothing; with one, a request is refused and changes nothing. -/
def Respects (t : Tracked) (t' : Tracked) (out : List Output) : Event → Prop
  | .call msg _ =>
    ∀ entry handler, t.sys.entered msg = some (entry, handler) → entry.isRequest = true →
      (t.outstanding = none → .returned msg (some (stkAgentErrorBusy msg)) ∉ out) ∧
      (t.outstanding ≠ none → accepted out = false ∧
        (∀ reply, .returned msg (some reply) ∈ out → reply.isError = true) ∧
        t'.sys.context.pending = t.sys.context.pending)
  | .answer _ _ => t.outstanding = none → ∃ code < 0, out = [.code code]

/-- The step is defined, it leads from a consistent state to a consistent state, and it
respects the outstanding request. -/
def Tracks : Tracked × Event → Prop
  | (t, e) => ∃ t' out, t.step e = some (t', out) ∧ Consistent t' ∧ Respects t t' out e

/-- A call that reaches an agent with a callback can use the agent's record: a request finds
the context or NULL there, and a selection has the arguments it reads; a cancel or release
finds the context, or NULL and nothing pending. -/
def Orderly : Tracked × Event → Prop
  | (t, .call msg mem) =>
    ∀ entry handler, t.sys.entered msg = some (entry, handler) → handler.cbFunction ≠ null →
      if entry.isRequest then
        entry.readsRecord msg = true →
          handler.result.data.isDangling = false ∧
          ¬ (handler.result.data = .context ∧ t.sys.context.pending = .null ∧
            mem.params = true ∧ entry.misreads msg = true)
      else
        handler.result.data = .context ∨
          handler.result.data = .null ∧ t.sys.context.pending = .null
  | (_, .answer _ _) => True

/-! ## One step -/

section Step

variable {t : Tracked} {msg : Message} {mem : Memory} {entry : MethodEntry}
  {handler : AsyncHandler AgentData} {o : Outcome}

theorem next_of_entered {out : List Output}
    (h : t.sys.entered msg = some (entry, handler)) :
    t.next (.call msg mem) out =
      if entry.isRequest then (if accepted out then some msg else t.outstanding)
      else if handler.cbFunction = null then t.outstanding
      else none := by
  simp [Tracked.next, h]

theorem isSet_pending_iff (hc : Consistent t) :
    t.sys.context.pending.isSet = true ↔ t.outstanding ≠ none := by
  rw [hc]
  cases t.outstanding <;> simp [pendingOf]

theorem pending_ne_wild (hc : Consistent t) : t.sys.context.pending ≠ .wild := by
  rw [hc]
  cases t.outstanding <;> simp [pendingOf]

theorem step_of_sys {e : Event} {s' : System} {out : List Output}
    (h : t.sys.step e = some (s', out)) : t.step e = some (⟨s', t.next e out⟩, out) := by
  simp [Tracked.step, h]

@[simp] theorem accepted_refusal {fn : Ptr} {ar : AsyncResult AgentData}
    {reply : Option Reply} :
    accepted [.callback msg fn { ar with status := error }, .returned msg reply] = false := rfl

@[simp] theorem accepted_acceptance {fn : Ptr} {ar : AsyncResult AgentData}
    {d : AgentData} {reply : Option Reply} :
    accepted [.callback msg fn { ar with data := d, status := ok }, .returned msg reply] =
      true := rfl

@[simp] theorem accepted_returned {reply : Option Reply} :
    accepted [.returned msg reply] = false := rfl

/-- A call leaves the state consistent, unless it withdraws without a context while a request
is outstanding. -/
theorem consistent_iff_of_handled (hc : Consistent t)
    (hent : t.sys.entered msg = some (entry, handler))
    (exit : Handled entry t.sys.context handler msg mem o) :
    Consistent ⟨t.sys.setRecord msg.path handler o,
        t.next (.call msg mem) (o.outputs msg handler)⟩ ↔
      (entry.isRequest = false → handler.cbFunction ≠ null →
        handler.result.data = .context ∨ t.sys.context.pending = .null) := by
  have hpending : t.sys.context.pending = pendingOf t.outstanding := hc
  unfold Consistent
  rw [next_of_entered hent]
  cases exit with
  | notImplemented callback => simp [callback, hpending]
  | refused callback ar reply data isError request busy reason =>
    cases hrequest : entry.isRequest with
    | true => simp [hpending]
    | false =>
      -- the record has no context, so the client forgets a request that stays pending
      simp [callback, data_eq_null_of_reason hrequest reason, pendingOf]
  | accepted callback ar params data grantable => simp [grantable.isRequest, pendingOf]
  | withdrawn callback isRequest data pending ar cleared returned =>
    simp [isRequest, callback, data, pendingOf]

/-- A request that finds another one outstanding is refused, and one that does not is not
refused as busy. -/
theorem respects_of_handled (hc : Consistent t) {t' : Tracked}
    (exit : Handled entry t.sys.context handler msg mem o)
    (ht' : t'.sys.context = o.context) (hrequest : entry.isRequest = true) :
    (t.outstanding = none →
      .returned msg (some (stkAgentErrorBusy msg)) ∉ o.outputs msg handler) ∧
    (t.outstanding ≠ none → accepted (o.outputs msg handler) = false ∧
      (∀ reply, .returned msg (some reply) ∈ o.outputs msg handler → reply.isError = true) ∧
      t'.sys.context.pending = t.sys.context.pending) := by
  rw [ht']
  cases exit with
  | notImplemented callback =>
    -- the one reply that it can return is not the busy error
    have hreturned : ∀ r, .returned msg (some r) ∈
        (notImplemented t.sys.context handler.result msg mem).outputs msg handler →
          r = stkAgentErrorNotImplemented msg := by
      intro r hr
      simp only [notImplemented_outputs, List.mem_singleton, Output.returned.injEq,
        true_and] at hr
      exact (Memory.create_eq_some_iff.mp hr.symm).2.symm
    refine ⟨fun _ hbusy => ?_, fun _ => ⟨rfl, fun r hr => ?_, rfl⟩⟩
    · simpa [stkAgentErrorBusy, stkAgentErrorNotImplemented] using hreturned _ hbusy
    · rw [hreturned r hr]
      rfl
  | refused callback ar reply data isError request busy reason =>
    have hreturned : ∀ r, .returned msg (some r) ∈
        (refuse t.sys.context ar mem reply).outputs msg handler → r = reply := by
      intro r hr
      simp only [refuse_outputs, List.mem_cons, reduceCtorEq, Output.returned.injEq, true_and,
        false_or, List.not_mem_nil, or_false] at hr
      exact (Memory.create_eq_some_iff.mp hr.symm).2.symm
    refine ⟨fun hnone hbusy => ?_, fun _ => ⟨rfl, fun r hr => hreturned r hr ▸ isError, rfl⟩⟩
    -- a busy error means that the word is set
    exact (isSet_pending_iff hc).mp (busy (hreturned _ hbusy).symm) hnone
  | accepted callback ar params data grantable =>
    refine ⟨fun _ hbusy => by simp at hbusy, fun hsome => ?_⟩
    have hset := (isSet_pending_iff hc).mpr hsome
    simp [grantable.pending] at hset
  | withdrawn callback isRequest => simp [hrequest] at isRequest

/-- An answer clears what it answers, and fails when nothing is pending. -/
theorem tracks_answer (hc : Consistent t) (fn : ReplyCall) : Tracks (t, .answer fn mem) := by
  have hrun := run_ne_none fn mem (pending_ne_wild hc)
  obtain ⟨a, ha⟩ := Option.ne_none_iff_exists'.mp hrun
  have hstep : t.sys.step (.answer fn mem) =
      some ({ t.sys with context := a.context.getD t.sys.context },
        a.sent.map .sent ++ [.code a.code]) := by
    simp [System.step, ha]
  refine ⟨_, _, step_of_sys hstep, ?_⟩
  cases answered_of_run_eq_some ha with
  | idle => exact ⟨hc, fun _ => ⟨-einval, by simp [einval], rfl⟩⟩
  -- an answer that meets a message has a request outstanding
  | noReply msg pending memory =>
    refine ⟨hc, fun hnone => ?_⟩
    have hset := (isSet_pending_iff hc).not.mpr (not_not.mpr hnone)
    simp [pending] at hset
  | sent msg reply connection pending memory request signature =>
    refine ⟨rfl, fun hnone => ?_⟩
    have hset := (isSet_pending_iff hc).not.mpr (not_not.mpr hnone)
    simp [pending] at hset

/-- A call keeps track exactly if it is defined and leaves the state consistent. -/
theorem tracks_call_iff (hc : Consistent t)
    (hent : t.sys.entered msg = some (entry, handler)) :
    Tracks (t, .call msg mem) ↔
      entry.function t.sys.context handler msg mem ≠ none ∧
        (entry.isRequest = false → handler.cbFunction ≠ null →
          handler.result.data = .context ∨ t.sys.context.pending = .null) := by
  have hstep := System.step_call_of_entered mem hent
  cases ho : entry.function t.sys.context handler msg mem with
  | none =>
    -- an undefined call has no next state
    refine iff_of_false ?_ (by simp)
    rintro ⟨t', out, htstep, -⟩
    simp [Tracked.step, hstep, ho] at htstep
  | some o =>
    rw [ho] at hstep
    have htstep := step_of_sys hstep
    have exit := handled_of_function_eq_some (System.mem_agentMethods_of_entered hent) ho
    rw [← consistent_iff_of_handled hc hent exit]
    simp only [ne_eq, reduceCtorEq, not_false_eq_true, true_and]
    constructor
    · rintro ⟨t', out, h, hc', -⟩
      obtain ⟨rfl, rfl⟩ := Prod.mk.inj (Option.some_inj.mp (htstep.symm.trans h))
      exact hc'
    · refine fun hc' => ⟨_, _, htstep, hc', fun entry' handler' hent' hrequest => ?_⟩
      obtain ⟨rfl, rfl⟩ := System.eq_of_entered hent hent'
      exact respects_of_handled hc exit rfl hrequest

/-- What `Orderly` asks of a call is that it is defined and leaves the state consistent. -/
theorem orderly_call_iff (hc : Consistent t)
    (hent : t.sys.entered msg = some (entry, handler)) :
    Orderly (t, .call msg mem) ↔
      entry.function t.sys.context handler msg mem ≠ none ∧
        (entry.isRequest = false → handler.cbFunction ≠ null →
          handler.result.data = .context ∨ t.sys.context.pending = .null) := by
  have hentry := System.mem_agentMethods_of_entered hent
  have hwild := pending_ne_wild hc
  -- a message enters one method, so the quantifiers of `Orderly` go
  have horderly : Orderly (t, .call msg mem) ↔ (handler.cbFunction ≠ null →
      if entry.isRequest then
        entry.readsRecord msg = true →
          handler.result.data.isDangling = false ∧
          ¬ (handler.result.data = .context ∧ t.sys.context.pending = .null ∧
            mem.params = true ∧ entry.misreads msg = true)
      else
        handler.result.data = .context ∨
          handler.result.data = .null ∧ t.sys.context.pending = .null) := by
    constructor
    · exact fun h => h entry handler hent
    · intro h entry' handler' hent'
      obtain ⟨rfl, rfl⟩ := System.eq_of_entered hent hent'
      exact h
  rw [horderly, ne_eq (entry.function _ _ _ _), function_eq_none_iff hentry]
  by_cases callback : handler.cbFunction = null
  · simp [callback]
  cases hrequest : entry.isRequest with
  | true =>
    by_cases hreads : entry.readsRecord msg = true
    · simp [callback, hreads]
    · simp [callback, hreads]
  | false =>
    -- a cancel or a release reads its record first, and nothing is wild here
    have hname := name_ne_of_not_isRequest hentry hrequest
    cases hdata : handler.result.data <;>
      simp [callback, hwild, AgentData.isDangling, MethodEntry.readsRecord,
        MethodEntry.misreads, hname]

/-- From a consistent state, a step keeps track exactly if it is orderly. -/
theorem tracks_iff_orderly_of_consistent {e : Event} (hc : Consistent t) :
    Tracks (t, e) ↔ Orderly (t, e) := by
  cases e with
  | answer fn mem => exact iff_of_true (tracks_answer hc fn) trivial
  | call msg mem =>
    cases hent : t.sys.entered msg with
    | some p => rw [tracks_call_iff hc hent, orderly_call_iff hc hent]
    | none =>
      have hstep : t.step (.call msg mem) = some (t, []) := by
        simp [Tracked.step, System.step, Tracked.next, hent]
      refine iff_of_true ⟨t, [], hstep, hc, ?_⟩ ?_
      · intro entry handler h
        simp [hent] at h
      · intro entry handler h
        simp [hent] at h

end Step

/-! ## Runs -/

/-- The pending pointer is right at the start of the run and through every step of it. -/
def KeepsTrack (t : Tracked) (es : List Event) : Prop :=
  Consistent t ∧ ∀ v ∈ visits Tracked.step t es, Tracks v

/-- In a run that starts with a context from `tapi_open`, whatever agents are registered on
it, the pending pointer is right exactly if the block that the context lies in had NULL there
and every call is orderly. -/
theorem keepsTrack_iff_orderly {cfg : Config} {clientName : String} {env : Manager.OpenEnv}
    {ctx : DbusContext} (agents : Agents) (es : List Event)
    (h : Manager.tapiOpen cfg clientName env = some ctx) :
    KeepsTrack ⟨⟨ctx, agents⟩, none⟩ es ↔
      (∃ block, env.context = some block ∧ block.pending = .null) ∧
        ∀ v ∈ visits Tracked.step ⟨⟨ctx, agents⟩, none⟩ es, Orderly v := by
  obtain ⟨block, hblock, hpending, -⟩ := Manager.exists_block_of_tapiOpen_eq_some h
  have hinit : Consistent ⟨⟨ctx, agents⟩, none⟩ ↔
      ∃ block, env.context = some block ∧ block.pending = .null := by
    simp [Consistent, pendingOf, hpending, hblock]
  rw [← hinit]
  refine and_congr_right fun hc => ?_
  -- each step that keeps track leads to a consistent state, where the next is judged
  refine forall_visits_iff Consistent ?_
    (fun t e => tracks_iff_orderly_of_consistent) hc
  rintro t e t' out - ⟨t'', out', hstep, hc', -⟩ hstep'
  obtain ⟨rfl, rfl⟩ := Prod.mk.inj (Option.some_inj.mp (hstep'.symm.trans hstep))
  exact hc'

/-- The calls of `tapi_open` all succeed, on a block with the given pending word. -/
def openOn (pending : PendingPtr) : Manager.OpenEnv where
  context := some { idleContext with pending := pending }
  callbackData := true
  setupPrivate _ := 1
  requestName := true
  client := 1
  readyWatch := true
  isInterfaceSupported _ := true
  managerProxy := 1
  newProxy _ _ := 1

/-- A block that holds NULL, and a run of a single request. -/
theorem keepsTrack_iff_orderly_zeroBlock :
    ∃ ctx, Manager.tapiOpen twoModems "app" (openOn .null) = some ctx ∧
      (KeepsTrack ⟨⟨ctx, withDefaultAgent ctx 0 fun _ => none⟩, none⟩
          [.call (showInformation stkAgentDefaultId0 1) {}] ↔
        (∃ block, (openOn .null).context = some block ∧ block.pending = .null) ∧
          ∀ v ∈ visits Tracked.step ⟨⟨ctx, withDefaultAgent ctx 0 fun _ => none⟩, none⟩
            [.call (showInformation stkAgentDefaultId0 1) {}], Orderly v) :=
  ⟨_, rfl, keepsTrack_iff_orderly _ _ rfl⟩

/-- On a block that holds anything else, the very first request is refused as busy. -/
theorem not_keepsTrack_dirtyBlock :
    ∃ ctx, Manager.tapiOpen twoModems "app" (openOn .wild) = some ctx ∧
      ¬ KeepsTrack ⟨⟨ctx, withDefaultAgent ctx 0 fun _ => none⟩, none⟩
          [.call (showInformation stkAgentDefaultId0 1) {}] ∧
      ∃ t' out,
        Tracked.step ⟨⟨ctx, withDefaultAgent ctx 0 fun _ => none⟩, none⟩
            (.call (showInformation stkAgentDefaultId0 1) {}) = some (t', out) ∧
          .returned (showInformation stkAgentDefaultId0 1)
            (some (stkAgentErrorBusy (showInformation stkAgentDefaultId0 1))) ∈ out := by
  refine ⟨_, rfl, fun h => ?_, _, _, rfl, ?_⟩
  · have hpending : PendingPtr.wild = .null := h.1
    contradiction
  · exact List.mem_cons_of_mem _ List.mem_cons_self

end Telephony.Stk
