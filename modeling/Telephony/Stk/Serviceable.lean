import Telephony.Stk.System

/-!
# How long an agent stays serviceable

An agent's record holds the context until the first request that is accepted, or the first
release or cancel. From then on the agent serves no call any more.

## Main definitions

* `Stk.Serviceable` — every call that reaches the agent finds the context, and a declared
  request that nothing stands in the way of is accepted with its arguments
* `Stk.Unspent` — no call reaches the agent after one that takes the context away

## Main results

* `Stk.serviceable_iff_unspent` — an agent is serviceable along a run exactly if the run
  leaves its record unspent
-/

namespace Telephony.Stk

open DBus Machine

/-! ## The property -/

/-- The request is accepted: the callback runs once, with status `OK` and the arguments as
parameters, and the message becomes the pending one. -/
def Accepts (s : System) (msg : Message) (mem : Memory) (handler : AsyncHandler AgentData) :
    Prop :=
  ∃ s' ar params,
    s.step (.call msg mem) =
      some (s', [.callback msg handler.cbFunction ar, .returned msg none]) ∧
    handler.cbFunction ≠ null ∧
    ar.status = ok ∧ ar.data = .params params ∧ params.values = msg.args ∧
    s'.context.pending = .message msg

/-- A request of the declared signature that arrives while none is pending. -/
def Due (s : System) (msg : Message) (entry : MethodEntry) : Prop :=
  entry.isRequest = true ∧ msg.hasSignature entry.inArgs = true ∧ s.context.pending = .null

/-- A handler of the agent at `path` is entered with the context in its record, and accepts
the request that is due. -/
def Serves (path : String) : System × Event → Prop
  | (s, .call msg mem) =>
    ∀ entry handler, msg.path = path → s.entered msg = some (entry, handler) →
      handler.result.data = .context ∧ (Due s msg entry → Accepts s msg mem handler)
  | (_, .answer _ _) => True

/-- The agent at `path` serves every call of the run. -/
def Serviceable (path : String) (s : System) (es : List Event) : Prop :=
  ∀ v ∈ visits System.step s es, Serves path v

/-! ## The condition -/

/-- A call reaches the agent at `path`. -/
def Enters (path : String) : System × Event → Prop
  | (s, .call msg _) => msg.path = path ∧ (s.entered msg).isSome = true
  | (_, .answer _ _) => False

/-- A call takes the context out of the agent's record: a release, a cancel, or a request
that nothing else stands in the way of. -/
def Spends (path : String) : System × Event → Prop
  | (s, .call msg mem) =>
    msg.path = path ∧ ∃ entry handler, s.entered msg = some (entry, handler) ∧
      handler.cbFunction ≠ null ∧
      (entry.isRequest = false ∨ Grantable entry s.context msg mem)
  | (_, .answer _ _) => False

/-- There are a callback and memory for the request that is due, and it carries no menu. -/
def Servable (path : String) : System × Event → Prop
  | (s, .call msg mem) =>
    ∀ entry handler, msg.path = path → s.entered msg = some (entry, handler) →
      Due s msg entry →
        handler.cbFunction ≠ null ∧ mem.params = true ∧ hasMenu entry msg = false
  | (_, .answer _ _) => True

/-- No call reaches the agent once its context is taken, and no request that is due lacks a
callback or memory, or carries a menu. -/
def Unspent (path : String) (s : System) (es : List Event) : Prop :=
  (visits System.step s es).Pairwise (fun u v => Spends path u → ¬ Enters path v) ∧
    ∀ v ∈ visits System.step s es, Servable path v

/-! ## One step -/

/-- The `data` field of the agent at a path. -/
def System.data (s : System) (path : String) : Option AgentData :=
  (s.agents path).map fun handler => handler.result.data

section Step

variable {s s' : System} {e : Event} {msg : Message} {mem : Memory} {entry : MethodEntry}
  {handler : AsyncHandler AgentData} {out : List Output} {path : String} {d : AgentData}

theorem data_eq_of_entered (h : s.entered msg = some (entry, handler)) :
    s.data msg.path = some handler.result.data := by
  simp [System.data, (System.entered_eq_some_iff.mp h).2.2]

theorem data_setRecord {o : Outcome} :
    (s.setRecord path handler o).data path = some o.result.data := by
  simp [System.data]

theorem data_setRecord_of_ne {o : Outcome} {q : String} (h : q ≠ path) :
    (s.setRecord path handler o).data q = s.data q := by
  simp [System.data, System.setRecord_agents_of_ne h]

/-- A record never regains its context, and keeps it through every step that does not take
it. -/
theorem data_step (hstep : s.step e = some (s', out)) (hd : s.data path = some d) :
    ∃ d', s'.data path = some d' ∧ (d' = .context → d = .context) ∧
      (¬ Spends path (s, e) → d' = d) ∧ (Spends path (s, e) → d' ≠ .context) := by
  cases System.stepped_of_step_eq_some hstep with
  | dropped hent =>
    exact ⟨d, hd, id, fun _ => rfl, fun ⟨_, _, _, hent', _⟩ => by simp [hent] at hent'⟩
  | answered a exit => exact ⟨d, hd, id, fun _ => rfl, fun h => h.elim⟩
  | @handled msg mem entry handler o hent exit =>
    by_cases hpath : path = msg.path
    · subst hpath
      have hdata : handler.result.data = d := by
        rw [data_eq_of_entered hent] at hd
        exact Option.some_inj.mp hd
      refine ⟨o.result.data, data_setRecord, ?_⟩
      cases exit with
      | notImplemented callback =>
        refine ⟨fun h => hdata ▸ h, fun _ => hdata, ?_⟩
        rintro ⟨-, entry', handler', hent', hcb, -⟩
        obtain ⟨rfl, rfl⟩ := System.eq_of_entered hent hent'
        exact absurd callback hcb
      | refused callback ar reply data isError request busy reason =>
        rw [← hdata]
        refine ⟨fun h => data ▸ h, fun _ => data, ?_⟩
        rintro ⟨-, entry', handler', hent', -, hspend⟩ hctx
        obtain ⟨rfl, rfl⟩ := System.eq_of_entered hent hent'
        -- refused without a context, or a request that was not grantable
        rcases reason with hnull | ⟨hrequest, hnot⟩
        · have hnull' : ar.data = .null := data.trans hnull
          exact absurd (hnull'.symm.trans hctx) (by simp)
        · rcases hspend with hwithdraw | hgrant
          · simp [hrequest] at hwithdraw
          · exact hnot hgrant
      | accepted callback ar params data grantable =>
        refine ⟨fun h => by simp [accept] at h, fun hnot => ?_, fun _ => by simp [accept]⟩
        exact absurd ⟨rfl, entry, handler, hent, callback, .inr grantable⟩ hnot
      | withdrawn callback isRequest data pending ar cleared returned =>
        refine ⟨fun h => by simp [cleared] at h, fun hnot => ?_, fun _ => by simp [cleared]⟩
        exact absurd ⟨rfl, entry, handler, hent, callback, .inl isRequest⟩ hnot
    · -- the record of another agent stays as it is
      refine ⟨d, ?_, id, fun _ => rfl, fun h => absurd h.1.symm hpath⟩
      rw [data_setRecord_of_ne hpath, hd]

/-- The parameters that the callback of a call sees are those of the outcome. -/
theorem delivered_eq_of_outputs_eq {o : Outcome} {ar : AsyncResult AgentData}
    {reply : Option Reply}
    (h : o.outputs msg handler =
      [.callback msg handler.cbFunction ar, .returned msg reply]) :
    o.delivered = [ar] := by
  have hmap : o.delivered.map (Output.callback msg handler.cbFunction) =
      [ar].map (.callback msg handler.cbFunction) := by
    simpa [Outcome.outputs] using congrArg List.dropLast h
  refine List.map_injective_iff.mpr (fun a b hab => ?_) hmap
  simpa using hab

/-- A request that is accepted was granted, with the parameters that its callback saw. -/
theorem grantable_of_delivered {o : Outcome} {ar : AsyncResult AgentData}
    {params : AgentParams} (exit : Handled entry s.context handler msg mem o)
    (hdata : handler.result.data = .context) (ho : o.delivered = [ar])
    (hparams : ar.data = .params params) : Grantable entry s.context msg mem := by
  cases exit with
  | notImplemented => simp [notImplemented] at ho
  | refused callback ar' reply data =>
    simp only [refuse, List.cons.injEq, and_true] at ho
    rw [← ho] at hparams
    simp [data, hdata] at hparams
  | accepted callback ar' params' data grantable => exact grantable
  | withdrawn callback isRequest data pending ar' cleared =>
    simp only [List.cons.injEq, and_true] at ho
    rw [← ho, cleared] at hparams
    simp at hparams

/-- While the record holds the context, the agent serves a call exactly if it is servable. -/
theorem serves_iff_servable (hd : s.data path = some .context) :
    Serves path (s, e) ↔ Servable path (s, e) := by
  cases e with
  | answer fn mem => exact Iff.rfl
  | call msg mem =>
    refine forall₄_congr fun entry handler hpath hent => ?_
    have hdata : handler.result.data = .context := by
      rw [← hpath, data_eq_of_entered hent] at hd
      exact Option.some_inj.mp hd
    simp only [hdata, true_and]
    refine forall_congr' fun hdue => ?_
    obtain ⟨hrequest, hsig, hpending⟩ := hdue
    have hentry := System.mem_agentMethods_of_entered hent
    have hcall := (System.entered_eq_some_iff.mp hent).1
    constructor
    · rintro ⟨s', ar, params, hstep, hcb, -, hparams, hvalues, -⟩
      rw [System.step_call_of_entered mem hent] at hstep
      obtain ⟨o, ho, heq⟩ := Option.map_eq_some_iff.mp hstep
      have hdelivered := delivered_eq_of_outputs_eq (Prod.mk.inj heq).2
      -- what the callback saw can only come from a request that was granted
      have hgrant := grantable_of_delivered (handled_of_function_eq_some hentry ho) hdata
        hdelivered hparams
      obtain ⟨msgId, params', hfun, hmenu⟩ := function_eq_accept hentry hcb hdata hrequest
        hpending hgrant.params hcall hsig
      obtain rfl := Option.some_inj.mp (hfun.symm.trans ho)
      obtain rfl : ar = _ := (List.cons.inj hdelivered).1.symm
      obtain rfl : params' = params := by simpa using hparams
      exact ⟨hcb, hgrant.params, hmenu.mp hvalues⟩
    · rintro ⟨hcb, hmem, hmenu⟩
      obtain ⟨msgId, params, hfun, hvalues⟩ :=
        function_eq_accept hentry hcb hdata hrequest hpending hmem hcall hsig
      have hstep := System.step_call_of_entered mem hent
      rw [hfun] at hstep
      exact ⟨_, _, params, hstep, hcb, rfl, rfl, hvalues.mpr hmenu, rfl⟩

end Step

/-! ## Runs -/

section Runs

variable {s : System} {path : String}

/-- Without the context, serving is not being called. -/
theorem serves_iff_not_enters {e : Event} {d : AgentData} (hd : s.data path = some d)
    (hgone : d ≠ .context) : Serves path (s, e) ↔ ¬ Enters path (s, e) := by
  cases e with
  | answer fn mem => simp [Serves, Enters]
  | call msg mem =>
    constructor
    · rintro hserves ⟨hpath, hent⟩
      obtain ⟨⟨entry, handler⟩, hent⟩ := Option.isSome_iff_exists.mp hent
      have hdata := (hserves entry handler hpath hent).1
      rw [← hpath, data_eq_of_entered hent, hdata] at hd
      exact hgone (Option.some_inj.mp hd).symm
    · intro hnot entry handler hpath hent
      exact absurd ⟨hpath, by simp [hent]⟩ hnot

/-- A step that no call enters spends nothing and lacks nothing. -/
theorem servable_and_not_spends_of_not_enters {v : System × Event} (h : ¬ Enters path v) :
    Servable path v ∧ ¬ Spends path v := by
  obtain ⟨s, e⟩ := v
  cases e with
  | answer fn mem => exact ⟨trivial, id⟩
  | call msg mem =>
    refine ⟨fun entry handler hpath hent => absurd ⟨hpath, by simp [hent]⟩ h, ?_⟩
    rintro ⟨hpath, entry, handler, hent, -⟩
    exact h ⟨hpath, by simp [hent]⟩

/-- While the agent's record holds the context, serviceable and unspent runs are the same. -/
theorem serviceable_iff_unspent_of_data {es : List Event} (hd : s.data path = some .context) :
    Serviceable path s es ↔ Unspent path s es := by
  -- the record is live until a step spends it, and never again
  refine forall_visits_iff_spentOnce (fun s => s.data path = some .context)
    (fun s => ∃ d, s.data path = some d ∧ d ≠ .context) ?_ ?_ ?_
    (fun s e => serves_iff_servable)
    (fun s e ⟨d, hd, hgone⟩ => serves_iff_not_enters hd hgone)
    (fun v => servable_and_not_spends_of_not_enters) hd
  · intro s e s' out hlive hstep hnot
    obtain ⟨d, hd, -, hkeep, -⟩ := data_step hstep hlive
    rw [hd, hkeep hnot]
  · intro s e s' out hlive hstep hspends
    obtain ⟨d, hd, -, -, hgone⟩ := data_step hstep hlive
    exact ⟨d, hd, hgone hspends⟩
  · rintro s e s' out ⟨d, hd, hgone⟩ hstep
    obtain ⟨d', hd', hback, -, -⟩ := data_step hstep hd
    exact ⟨d', hd', fun h => hgone (hback h)⟩

end Runs

/-- The system after an agent is registered on a context. -/
def registered (ctx : DbusContext) (agents : Agents) (slotId : ℤ) (path : String)
    (pHandle : Ptr) (env : RegisterEnv) : System :=
  ⟨ctx, (tapiStkAgentInterfaceRegister (some ctx) agents slotId (some path) pHandle env).2⟩

/-- An agent that was registered successfully stays serviceable along a run exactly if the
run leaves its record unspent. -/
theorem serviceable_iff_unspent {ctx : DbusContext} {agents : Agents} {slotId : ℤ}
    {path : String} {pHandle : Ptr} {env : RegisterEnv} (es : List Event)
    (h : (tapiStkAgentInterfaceRegister (some ctx) agents slotId (some path) pHandle env).1 = ok) :
    Serviceable path (registered ctx agents slotId path pHandle env) es ↔
      Unspent path (registered ctx agents slotId path pHandle env) es := by
  obtain ⟨hfree, ar, hdata, hregister⟩ := register_of_eq_ok h
  refine serviceable_iff_unspent_of_data ?_
  simp [registered, System.data, hregister agents hfree, hdata]

/-- The default agent of slot 0, registered on an idle context. -/
def sampleAgent : System :=
  registered idleContext (fun _ => none) 0 stkAgentDefaultId0 1 zeroBlocks

/-- A registration that succeeds, and a run of a single request. -/
theorem serviceable_iff_unspent_single :
    (tapiStkAgentInterfaceRegister (some idleContext) (fun _ => none) 0
        (some stkAgentDefaultId0) 1 zeroBlocks).1 = ok ∧
      (Serviceable stkAgentDefaultId0 sampleAgent
          [.call (showInformation stkAgentDefaultId0 1) {}] ↔
        Unspent stkAgentDefaultId0 sampleAgent
          [.call (showInformation stkAgentDefaultId0 1) {}]) :=
  ⟨rfl, serviceable_iff_unspent _ rfl⟩

/-- After one request that is accepted and answered, the next one finds a released block. -/
theorem not_serviceable_second_request :
    (tapiStkAgentInterfaceRegister (some idleContext) (fun _ => none) 0
        (some stkAgentDefaultId0) 1 zeroBlocks).1 = ok ∧
      ¬ Serviceable stkAgentDefaultId0 sampleAgent
        [.call (showInformation stkAgentDefaultId0 1) {}, .answer (.displayText 0) {},
          .call (showInformation stkAgentDefaultId0 2) {}] := by
  refine ⟨rfl, fun h => ?_⟩
  have hthird := h _ (List.getElem_mem (n := 2) (by decide))
  have hdata : AgentData.released = .context := (hthird _ _ rfl rfl).1
  contradiction

end Telephony.Stk
