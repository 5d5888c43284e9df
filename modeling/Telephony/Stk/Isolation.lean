import Telephony.Stk.Pending

/-!
# Two agents on one context

The agents of different slots have their own records, but the context has one pending pointer
for all of them. As long as no call reaches one agent while a request of another is pending,
each agent behaves as if it were alone. Otherwise a request is refused because of the other
agent's request, and a cancel or release drops it.

## Main definitions

* `Stk.System.only` — the system with a single agent
* `Stk.view` — the outputs that concern one agent
* `Stk.Separate` — no call is delivered while a request of another agent is pending

## Main results

* `Stk.run_only` — in a separate run, each agent sees the outputs of its solo run
* `Stk.crosses_of_step` — what a call does to a request of another agent
-/

namespace Telephony.Stk

open DBus Machine

/-! ## One agent alone -/

/-- The pending pointer of a context on which there is only the agent at `path`. -/
def ownPending (path : String) : PendingPtr → PendingPtr
  | .null => .null
  | .message msg => if msg.path = path then .message msg else .null
  | .wild => .wild

@[simp] theorem ownPending_null (path : String) : ownPending path .null = .null := rfl

@[simp] theorem ownPending_wild (path : String) : ownPending path .wild = .wild := rfl

@[simp] theorem ownPending_message (path : String) (msg : Message) :
    ownPending path (.message msg) = if msg.path = path then .message msg else .null := rfl

/-- The system as it would be if only the agent at `path` were there. -/
def System.only (s : System) (path : String) : System where
  context := { s.context with pending := ownPending path s.context.pending }
  agents := fun q => if q = path then s.agents q else none

/-- The events that do not go to another agent. -/
def concerns (path : String) : Event → Bool
  | .call msg _ => msg.path = path
  | .answer _ _ => true

/-- The output is a callback of the agent, or a reply to one of its calls. -/
def isSeenBy (path : String) : Output → Bool
  | .callback msg _ _ => msg.path = path
  | .returned msg _ => msg.path = path
  | .sent reply => reply.request.path = path
  | .code _ => false

/-- The outcomes that the agent at `path` sees. -/
def view (path : String) (out : List Output) : List Output := out.filter (isSeenBy path)

/-- The call is delivered while nothing is pending, or a request of the same agent. -/
def NoOtherPending : System × Event → Prop
  | (s, .call msg _) => ∀ m, s.context.pending = .message m → m.path = msg.path
  | (_, .answer _ _) => True

/-- No call of the run is delivered while a request of another agent is pending. -/
def Separate (s : System) (es : List Event) : Prop :=
  ∀ v ∈ visits System.step s es, NoOtherPending v

/-! ## One step -/

section Step

variable {s s' : System} {msg : Message} {mem : Memory} {entry : MethodEntry}
  {handler : AsyncHandler AgentData} {o : Outcome} {path : String} {out : List Output}

theorem only_agents_self : (s.only path).agents path = s.agents path := by
  simp [System.only]

theorem entered_only (h : msg.path = path) : (s.only path).entered msg = s.entered msg := by
  subst h
  simp [System.entered, only_agents_self]

theorem ownPending_eq_self {p : PendingPtr} (h : ∀ m, p = .message m → m.path = path) :
    ownPending path p = p := by
  cases p with
  | null | wild => rfl
  | message m => simp [h m rfl]

/-- A call to the agent itself meets the context that it would meet alone. -/
theorem only_context_eq (h : NoOtherPending (s, .call msg mem)) (hpath : msg.path = path) :
    (s.only path).context = s.context := by
  have hown : ownPending path s.context.pending = s.context.pending :=
    ownPending_eq_self fun m hm => (h m hm).trans hpath
  simp [System.only, hown]

/-- A call changes the context in its pending pointer only, which then is NULL, the called
message, or what it was. -/
theorem context_of_handled (exit : Handled entry s.context handler msg mem o) :
    o.context = s.context ∨
      (∃ p, o.context = { s.context with pending := p } ∧
        ((p = .message msg ∧ s.context.pending = .null) ∨
          (p = .null ∧ s.context.pending ≠ .wild))) := by
  cases exit with
  | notImplemented => exact .inl rfl
  | refused => exact .inl rfl
  | accepted callback ar params data grantable =>
    exact .inr ⟨_, rfl, .inl ⟨rfl, grantable.pending⟩⟩
  | withdrawn callback isRequest data pending => exact .inr ⟨_, rfl, .inr ⟨rfl, pending⟩⟩

/-- Everything that a call emits concerns the called agent. -/
theorem isSeenBy_outputs {q : Output} (h : q ∈ o.outputs msg handler) :
    isSeenBy path q = decide (msg.path = path) := by
  rcases List.mem_append.mp h with h | h
  · obtain ⟨ar, -, rfl⟩ := List.mem_map.mp h
    rfl
  · obtain rfl := List.mem_singleton.mp h
    rfl

theorem view_outputs_of_ne (h : msg.path ≠ path) : view path (o.outputs msg handler) = [] := by
  refine List.filter_eq_nil_iff.mpr fun q hq => ?_
  simp [isSeenBy_outputs hq, h]

theorem only_setRecord (hpath : msg.path = path)
    (hown : ownPending path o.context.pending = o.context.pending) :
    (s.only path).setRecord msg.path handler o = (s.setRecord msg.path handler o).only path := by
  subst hpath
  simp only [System.setRecord, System.only, hown, System.mk.injEq, true_and]
  funext q
  by_cases hq : q = msg.path <;> simp [hq]

/-- A call of the agent does in the solo system what it does here. -/
theorem step_only_call (h : NoOtherPending (s, .call msg mem)) (hpath : msg.path = path)
    (hstep : s.step (.call msg mem) = some (s', out)) :
    (s.only path).step (.call msg mem) = some (s'.only path, out) := by
  have hent := entered_only (s := s) hpath
  cases hsome : s.entered msg with
  | none =>
    simp only [System.step, hsome, Option.some.injEq, Prod.mk.injEq] at hstep
    obtain ⟨rfl, rfl⟩ := hstep
    simp [System.step, hent, hsome]
  | some p =>
    obtain ⟨entry, handler⟩ := p
    rw [System.step_call_of_entered mem hsome] at hstep
    obtain ⟨o, ho, heq⟩ := Option.map_eq_some_iff.mp hstep
    obtain ⟨rfl, rfl⟩ := Prod.mk.inj heq
    have exit := handled_of_function_eq_some (System.mem_agentMethods_of_entered hsome) ho
    rw [System.step_call_of_entered mem (hent.trans hsome), only_context_eq h hpath, ho,
      Option.map_some, only_setRecord hpath]
    -- what the call leaves pending is a request of its own agent
    refine ownPending_eq_self fun m hm => ?_
    rcases context_of_handled exit with hctx | ⟨p, hctx, ⟨rfl, -⟩ | ⟨rfl, -⟩⟩
    · rw [hctx] at hm
      exact (h m hm).trans hpath
    · rw [hctx] at hm
      obtain rfl : msg = m := by simpa using hm
      exact hpath
    · simp [hctx] at hm

/-- A call to another agent leaves the solo system as it is. -/
theorem only_eq_of_call_ne (h : NoOtherPending (s, .call msg mem)) (hpath : msg.path ≠ path)
    (hstep : s.step (.call msg mem) = some (s', out)) :
    s'.only path = s.only path ∧ view path out = [] := by
  cases System.stepped_of_step_eq_some hstep with
  | dropped hnone => exact ⟨rfl, rfl⟩
  | handled entry handler o hsome exit =>
    refine ⟨?_, view_outputs_of_ne hpath⟩
    -- what was pending is not the agent's, and neither is what is pending now
    have hagents : ((s.setRecord msg.path handler o).only path).agents =
        (s.only path).agents := by
      funext q
      by_cases hq : q = path
      · subst hq
        simp [System.only, System.setRecord_agents_of_ne (Ne.symm hpath)]
      · simp [System.only, hq]
    have hpending : ownPending path s.context.pending = .null ∨ s.context.pending = .wild := by
      cases hp : s.context.pending with
      | null => exact .inl rfl
      | wild => exact .inr rfl
      | message m => simp [h m hp, hpath]
    have hcontext : ((s.setRecord msg.path handler o).only path).context =
        (s.only path).context := by
      rcases context_of_handled exit with hctx | ⟨p, hctx, ⟨rfl, hnull⟩ | ⟨rfl, hwild⟩⟩
      · simp [System.only, hctx]
      · simp [System.only, hctx, hpath, hnull]
      · simp [System.only, hctx, hpending.resolve_right hwild]
    exact System.mk.injEq .. ▸ ⟨hcontext, hagents⟩

/-- An answer does in the solo system what it does here, as far as the agent sees. -/
theorem step_only_answer {fn : ReplyCall} (hstep : s.step (.answer fn mem) = some (s', out)) :
    ∃ out', (s.only path).step (.answer fn mem) = some (s'.only path, out') ∧
      view path out' = view path out := by
  obtain ⟨a, ha, heq⟩ := Option.map_eq_some_iff.mp hstep
  obtain ⟨rfl, rfl⟩ := Prod.mk.inj heq
  -- the reply function finds the same word, or NULL where another agent waits
  by_cases hown : ownPending path s.context.pending = s.context.pending
  · have hctx : (s.only path).context = s.context := by simp [System.only, hown]
    refine ⟨a.sent.map .sent ++ [.code a.code], ?_, rfl⟩
    simp only [System.step, hctx, ha, Option.map_some, Option.some.injEq, Prod.mk.injEq,
      and_true]
    cases answered_of_run_eq_some ha <;> simp [System.only, hown]
  · -- the pending request is another agent's, so that the solo system has none
    obtain ⟨m, hm, hne⟩ : ∃ m, s.context.pending = .message m ∧ m.path ≠ path := by
      cases hp : s.context.pending with
      | null => simp [hp] at hown
      | wild => simp [hp] at hown
      | message m =>
        refine ⟨m, rfl, fun hmp => hown ?_⟩
        simp [hp, hmp]
    have hnull : (s.only path).context.pending = .null := by
      simp [System.only, hm, hne]
    refine ⟨[.code (-einval)], ?_, ?_⟩
    · simp only [System.step, run_eq_idle hnull, Option.map_some, Option.some.injEq,
        Prod.mk.injEq]
      cases answered_of_run_eq_some ha <;> simp [System.only, hm, hne]
    · cases answered_of_run_eq_some ha with
      | idle => rfl
      | noReply => rfl
      | sent msg reply connection pending memory request =>
        obtain rfl : m = msg := by simpa [hm] using pending
        simp [view, isSeenBy, request, hne]

/-- What a call does to the request `m` of another agent that is pending: a request leaves it
pending and is refused, a cancel or release that finds its context drops it. No call answers
it, and the other agent's record stays. -/
structure Crosses (s s' : System) (msg m : Message) (out : List Output) : Prop where
  notAnswered : ∀ reply, .sent reply ∉ out
  ownReply : ∀ m' reply, .returned m' reply ∈ out → m' = msg
  record : s'.agents m.path = s.agents m.path
  request : ∀ entry handler, s.entered msg = some (entry, handler) → entry.isRequest = true →
    s'.context.pending = .message m ∧ accepted out = false
  withdraw : ∀ entry handler, s.entered msg = some (entry, handler) →
    entry.isRequest = false →
      s'.context.pending =
        if handler.cbFunction ≠ null ∧ handler.result.data = .context then .null
        else .message m

theorem crosses_of_step {m : Message} (hm : s.context.pending = .message m)
    (hne : m.path ≠ msg.path) (hstep : s.step (.call msg mem) = some (s', out)) :
    Crosses s s' msg m out := by
  cases System.stepped_of_step_eq_some hstep with
  | dropped hnone =>
    constructor
    · simp
    · simp
    · rfl
    · simp [hnone]
    · simp [hnone]
  | handled entry handler o hent exit =>
    constructor
    · intro reply hreply
      simp [Outcome.outputs] at hreply
    · intro m' reply hreply
      have hreturned : m' = msg ∧ reply = o.reply := by simpa [Outcome.outputs] using hreply
      exact hreturned.1
    · exact System.setRecord_agents_of_ne hne
    · intro entry' handler' hent' hrequest
      obtain ⟨rfl, rfl⟩ := System.eq_of_entered hent hent'
      cases exit with
      | notImplemented => exact ⟨hm, rfl⟩
      | refused => exact ⟨hm, rfl⟩
      -- no request is accepted while another one is pending
      | accepted callback ar params data grantable =>
        exact absurd (grantable.pending.symm.trans hm) (by simp)
      | withdrawn callback isRequest => simp [hrequest] at isRequest
    · intro entry' handler' hent' hrequest
      obtain ⟨rfl, rfl⟩ := System.eq_of_entered hent hent'
      cases exit with
      | notImplemented callback => simp [callback, hm]
      | refused callback ar reply data isError request busy reason =>
        simp [data_eq_null_of_reason hrequest reason, hm]
      | accepted callback ar params data grantable =>
        exact absurd (hrequest.symm.trans grantable.isRequest) (by decide)
      | withdrawn callback isRequest data => simp [callback, data]

end Step

/-! ## Runs -/

/-- In a separate run, an agent sees what it would see alone. -/
theorem run_only {s : System} {es : List Event} {r : System × List Output} (path : String)
    (hseparate : Separate s es) (hrun : run System.step s es = some r) :
    ∃ out, run System.step (s.only path) (es.filter (concerns path)) =
        some (r.1.only path, out) ∧ view path out = view path r.2 := by
  -- the events of the agent, and the answers, are steps of both systems
  have kept : ∀ (s t : System) (e : Event) (s' : System) (out : List Output),
      t = s.only path → NoOtherPending (s, e) → concerns path e = true →
      s.step e = some (s', out) →
      ∃ t' out', t.step e = some (t', out') ∧ t' = s'.only path ∧
        view path out' = view path out := by
    rintro s _ e s' out rfl hgood hkeep hstep
    cases e with
    | call msg mem =>
      have hpath : msg.path = path := by simpa [concerns] using hkeep
      exact ⟨_, _, step_only_call hgood hpath hstep, rfl, rfl⟩
    | answer fn mem =>
      obtain ⟨out', hstep', hview⟩ := step_only_answer hstep
      exact ⟨_, out', hstep', rfl, hview⟩
  -- the calls to other agents are steps of the full system only
  have skipped : ∀ (s t : System) (e : Event) (s' : System) (out : List Output),
      t = s.only path → NoOtherPending (s, e) → concerns path e = false →
      s.step e = some (s', out) → t = s'.only path ∧ view path out = [] := by
    rintro s _ e s' out rfl hgood hkeep hstep
    cases e with
    | call msg mem =>
      have hpath : msg.path ≠ path := by simpa [concerns] using hkeep
      obtain ⟨honly, hview⟩ := only_eq_of_call_ne hgood hpath hstep
      exact ⟨honly.symm, hview⟩
    | answer fn mem => simp [concerns] at hkeep
  obtain ⟨t', out, hrun', ht', hview⟩ :=
    run_simulation System.step (fun s t => t = s.only path) NoOtherPending (concerns path)
      (view path) (fun _ _ => List.filter_append ..) kept skipped rfl hseparate hrun
  exact ⟨out, ht' ▸ hrun', hview⟩

/-! ## The default agents -/

section DefaultAgents

variable {cfg : Config} {ctx : DbusContext} {i j : ℤ} {pHandle pHandle' : Ptr}
  {env env' : RegisterEnv}

/-- The system with one default agent. -/
def oneDefaultAgent (cfg : Config) (ctx : DbusContext) (i : ℤ) (pHandle : Ptr)
    (env : RegisterEnv) : System :=
  ⟨ctx, (tapiStkDefaultAgentInterfaceRegister cfg (some ctx) (fun _ => none) i pHandle env).2⟩

/-- The system in which the default agent of slot `i` was registered, and then that of slot
`j`. -/
def twoDefaultAgents (cfg : Config) (ctx : DbusContext) (i j : ℤ) (pHandle pHandle' : Ptr)
    (env env' : RegisterEnv) : System :=
  ⟨ctx, (tapiStkDefaultAgentInterfaceRegister cfg (some ctx)
    (oneDefaultAgent cfg ctx i pHandle env).agents j pHandle' env').2⟩

/-- The two registrations are granted. -/
structure BothRegistered (cfg : Config) (ctx : DbusContext) (i j : ℤ) (pHandle pHandle' : Ptr)
    (env env' : RegisterEnv) : Prop where
  first : (tapiStkDefaultAgentInterfaceRegister cfg (some ctx) (fun _ => none) i pHandle
    env).1 = ok
  second : (tapiStkDefaultAgentInterfaceRegister cfg (some ctx)
    (oneDefaultAgent cfg ctx i pHandle env).agents j pHandle' env').1 = ok

theorem only_eq {s t : System} {path : String} (hcontext : s.context = t.context)
    (hidle : t.context.pending = .null)
    (hagents : ∀ q, t.agents q = if q = path then s.agents q else none) :
    s.only path = t := by
  obtain ⟨ctx, agents⟩ := t
  subst hcontext
  have hpending : ownPending path s.context.pending = s.context.pending := by
    rw [hidle, ownPending_null]
  simp only [System.only, hpending, System.mk.injEq, true_and]
  exact funext fun q => (hagents q).symm

/-- With one of two agents removed, the system is as if only the other had been
registered. -/
theorem only_twoDefaultAgents (hidle : ctx.pending = .null) (hij : i ≠ j)
    (h : BothRegistered cfg ctx i j pHandle pHandle' env env') :
    ∃ p q, stkAgentDefaultPath i = some p ∧ stkAgentDefaultPath j = some q ∧
      (twoDefaultAgents cfg ctx i j pHandle pHandle' env env').only p =
        oneDefaultAgent cfg ctx i pHandle env ∧
      (twoDefaultAgents cfg ctx i j pHandle pHandle' env env').only q =
        oneDefaultAgent cfg ctx j pHandle' env' := by
  obtain ⟨p, hp, hdefault⟩ := default_register_of_eq_ok h.first
  obtain ⟨q, hq, hdefault'⟩ := default_register_of_eq_ok h.second
  have hpq : p ≠ q := fun heq => hij (stkAgentDefaultPath_injective hp (heq ▸ hq))
  obtain ⟨-, ar, -, hregister⟩ := register_of_eq_ok (hdefault _ ▸ h.first)
  obtain ⟨hfree, ar', -, hregister'⟩ := register_of_eq_ok (hdefault' _ ▸ h.second)
  -- the second registration finds its path free, and adds to the first
  have hfirst : (oneDefaultAgent cfg ctx i pHandle env).agents =
      Function.update (fun _ => none) p (some ⟨ar, pHandle⟩) := by
    simp [oneDefaultAgent, hdefault, hregister]
  have hsecond : (oneDefaultAgent cfg ctx j pHandle' env').agents =
      Function.update (fun _ => none) q (some ⟨ar', pHandle'⟩) := by
    simp [oneDefaultAgent, hdefault', hregister']
  have hboth : (twoDefaultAgents cfg ctx i j pHandle pHandle' env env').agents =
      Function.update (Function.update (fun _ => none) p (some ⟨ar, pHandle⟩)) q
        (some ⟨ar', pHandle'⟩) := by
    simp only [twoDefaultAgents, hdefault', hregister' _ hfree]
    rw [hfirst]
  refine ⟨p, q, hp, hq, only_eq rfl hidle fun x => ?_, only_eq rfl hidle fun x => ?_⟩
  · rw [hfirst, hboth]
    by_cases hx : x = p
    · subst hx
      simp [hpq]
    · simp [hx]
  · rw [hsecond, hboth]
    by_cases hx : x = q
    · subst hx
      simp
    · simp [hx]

/-- Two default agents of different slots on one idle context. In a run in which no call is
delivered while a request of the other agent is pending, each agent sees the outcomes it
would see if it were registered alone. A call that does find a request of the other agent
pending never answers it; a request is refused and leaves it pending, and a cancel or release
with a context drops it. -/
theorem twoDefaultAgents_isolated (es : List Event) (hidle : ctx.pending = .null) (hij : i ≠ j)
    (h : BothRegistered cfg ctx i j pHandle pHandle' env env') :
    (∀ r, run System.step (twoDefaultAgents cfg ctx i j pHandle pHandle' env env') es = some r →
      Separate (twoDefaultAgents cfg ctx i j pHandle pHandle' env env') es →
      ∃ p q, stkAgentDefaultPath i = some p ∧ stkAgentDefaultPath j = some q ∧
        (∃ s' out, run System.step (oneDefaultAgent cfg ctx i pHandle env)
            (es.filter (concerns p)) = some (s', out) ∧ view p out = view p r.2) ∧
        ∃ s' out, run System.step (oneDefaultAgent cfg ctx j pHandle' env')
            (es.filter (concerns q)) = some (s', out) ∧ view q out = view q r.2) ∧
      ∀ v ∈ visits System.step (twoDefaultAgents cfg ctx i j pHandle pHandle' env env') es,
        ∀ msg mem m s' out, v.2 = .call msg mem → v.1.context.pending = .message m →
          m.path ≠ msg.path → v.1.step v.2 = some (s', out) → Crosses v.1 s' msg m out := by
  constructor
  · intro r hrun hseparate
    obtain ⟨p, q, hp, hq, honlyp, honlyq⟩ := only_twoDefaultAgents hidle hij h
    obtain ⟨out, hrunp, hviewp⟩ := run_only p hseparate hrun
    obtain ⟨out', hrunq, hviewq⟩ := run_only q hseparate hrun
    -- reduced to one agent, the system is that of the agent alone
    rw [honlyp] at hrunp
    rw [honlyq] at hrunq
    exact ⟨p, q, hp, hq, ⟨_, out, hrunp, hviewp⟩, _, out', hrunq, hviewq⟩
  · rintro ⟨s, e⟩ - msg mem m s' out rfl hm hne hstep
    exact crosses_of_step hm hne hstep

/-- The default agents of slots 0 and 1 in a build for two modems. -/
def sampleAgents : System :=
  twoDefaultAgents twoModems idleContext 0 1 1 1 zeroBlocks zeroBlocks

/-- A request to agent 0, its answer, and a request to agent 1. -/
def inTurn : List Event :=
  [.call (showInformation stkAgentDefaultId0 1) {}, .answer (.displayText 0) {},
    .call (showInformation stkAgentDefaultId1 2) {}]

theorem separate_inTurn : Separate sampleAgents inTurn := by
  intro v hv
  have hvisits : visits System.step sampleAgents inTurn = [_, _, _] := rfl
  rw [hvisits] at hv
  simp only [List.mem_cons, List.not_mem_nil, or_false] at hv
  -- nothing is pending before the first call, nor after the answer
  rcases hv with rfl | rfl | rfl
  · intro m hm
    exact absurd (show PendingPtr.null = .message m from hm) (by simp)
  · trivial
  · intro m hm
    exact absurd (show PendingPtr.null = .message m from hm) (by simp)

theorem twoDefaultAgents_isolated_inTurn :
    ∃ r q, run System.step sampleAgents inTurn = some r ∧ stkAgentDefaultPath 1 = some q ∧
      ∃ s' out, run System.step (oneDefaultAgent twoModems idleContext 1 1 zeroBlocks)
        (inTurn.filter (concerns q)) = some (s', out) ∧ view q out = view q r.2 := by
  obtain ⟨hisolated, -⟩ := twoDefaultAgents_isolated inTurn rfl
    (by decide : (0 : ℤ) ≠ 1) (⟨rfl, rfl⟩ : BothRegistered twoModems idleContext 0 1 1 1
      zeroBlocks zeroBlocks)
  obtain ⟨p, q, -, hq, -, hsolo⟩ := hisolated _ rfl separate_inTurn
  exact ⟨_, q, rfl, hq, hsolo⟩

/-- While a request of agent 0 is pending, agent 1 refuses one that it would accept alone. -/
theorem not_isolated_pending_request :
    ∃ r r', run System.step sampleAgents
        [.call (showInformation stkAgentDefaultId0 1) {},
          .call (showInformation stkAgentDefaultId1 2) {}] = some r ∧
      run System.step (oneDefaultAgent twoModems idleContext 1 1 zeroBlocks)
        [.call (showInformation stkAgentDefaultId1 2) {}] = some r' ∧
      view stkAgentDefaultId1 r.2 ≠ view stkAgentDefaultId1 r'.2 := by
  refine ⟨_, _, rfl, rfl, fun h => ?_⟩
  have haccepted : false = true := congrArg accepted h
  contradiction

end DefaultAgents

end Telephony.Stk
