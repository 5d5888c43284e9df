import Telephony.Machine
import Telephony.Stk.Answer
import Telephony.Stk.Handled
import Mathlib.Logic.Function.Basic

/-!
# Agents, the modem service, and the application

A system is a context with the agents registered on it. Two parties act on it: the modem
service calls methods of the agents, and the application answers.

## Main definitions

* `Stk.tapiStkAgentInterfaceRegister`, `Stk.tapiStkDefaultAgentInterfaceRegister`
* `Stk.System`, `Stk.Event`, `Stk.Output`, `Stk.System.step` — the system as a machine

## Main results

* `Stk.System.Stepped` and `Stk.System.stepped_of_step_eq_some` — all that a step can do
-/

namespace Telephony.Stk

open DBus

/-! ## Registration -/

/-- The agent objects on a connection: the user data that each path is registered with. -/
abbrev Agents := String → Option (AsyncHandler AgentData)

/-- The outcomes of the calls that a registration makes: its two allocations, the second with
the content found in the block, and `g_dbus_register_interface`. -/
structure RegisterEnv where
  handler : Bool
  result : Option (AsyncResult AgentData)
  granted : Bool

/-- `tapi_stk_agent_interface_register`. The bus library refuses a second agent on a path. -/
def tapiStkAgentInterfaceRegister (context : Option DbusContext) (agents : Agents)
    (slotId : ℤ) (agentId : Option String) (pHandle : Ptr) (env : RegisterEnv) : ℤ × Agents :=
  match context, agentId with
  | none, _ => (-einval, agents)
  | some _, none => (-einval, agents)
  | some _, some path =>
    if !env.handler then (-enomem, agents)
    else
      match env.result with
      | none => (-enomem, agents)
      | some block =>
        let ar := { block with arg1 := slotId, data := .context }
        if !env.granted || (agents path).isSome then (-einval, agents)
        else (ok, Function.update agents path (some ⟨ar, pHandle⟩))

def stkAgentDefaultId0 : String := "/stk_agent_default_0"
def stkAgentDefaultId1 : String := "/stk_agent_default_1"

/-- The path of the default agent of a slot. -/
def stkAgentDefaultPath (slotId : ℤ) : Option String :=
  if slotId = 0 then some stkAgentDefaultId0
  else if slotId = 1 then some stkAgentDefaultId1
  else none

/-- `tapi_stk_default_agent_interface_register`. -/
def tapiStkDefaultAgentInterfaceRegister (cfg : Config) (context : Option DbusContext)
    (agents : Agents) (slotId : ℤ) (pHandle : Ptr) (env : RegisterEnv) : ℤ × Agents :=
  match context with
  | none => (-einval, agents)
  | some ctx =>
    if !isValidSlotid cfg slotId then (-einval, agents)
    else
      tapiStkAgentInterfaceRegister (some ctx) agents slotId (stkAgentDefaultPath slotId)
        pHandle env

section Registered

variable {cfg : Config} {ctx : DbusContext} {agents : Agents} {slotId : ℤ} {path : String}
  {pHandle : Ptr} {env : RegisterEnv}

/-- A registration that succeeds finds the path free, and installs a record that holds the
context. It would do so whatever other agents there are. -/
theorem register_of_eq_ok
    (h : (tapiStkAgentInterfaceRegister (some ctx) agents slotId (some path) pHandle env).1 = ok) :
    agents path = none ∧ ∃ ar : AsyncResult AgentData, ar.data = .context ∧
      ∀ agents' : Agents, agents' path = none →
        tapiStkAgentInterfaceRegister (some ctx) agents' slotId (some path) pHandle env =
          (ok, Function.update agents' path (some ⟨ar, pHandle⟩)) := by
  cases hh : env.handler with
  | false => simp [tapiStkAgentInterfaceRegister, hh, ok, enomem] at h
  | true =>
    cases hr : env.result with
    | none => simp [tapiStkAgentInterfaceRegister, hh, hr, ok, enomem] at h
    | some block =>
      -- the bus refuses a path that is taken
      by_cases hg : (!env.granted || (agents path).isSome) = true
      · simp [tapiStkAgentInterfaceRegister, hh, hr, hg, ok, einval] at h
      · have hfree : agents path = none := by simp_all
        have hgranted : env.granted = true := by simp_all
        refine ⟨hfree, { block with arg1 := slotId, data := .context }, rfl, ?_⟩
        intro agents' hfree'
        simp [tapiStkAgentInterfaceRegister, hh, hr, hgranted, hfree']

/-- A default agent is an agent on the path of its slot. -/
theorem default_register_of_eq_ok
    (h : (tapiStkDefaultAgentInterfaceRegister cfg (some ctx) agents slotId pHandle env).1 = ok) :
    ∃ path, stkAgentDefaultPath slotId = some path ∧
      ∀ agents', tapiStkDefaultAgentInterfaceRegister cfg (some ctx) agents' slotId pHandle env =
        tapiStkAgentInterfaceRegister (some ctx) agents' slotId (some path) pHandle env := by
  by_cases hslot : isValidSlotid cfg slotId = true
  · cases hpath : stkAgentDefaultPath slotId with
    | none =>
      simp [tapiStkDefaultAgentInterfaceRegister, tapiStkAgentInterfaceRegister, hslot, hpath,
        ok, einval] at h
    | some path =>
      refine ⟨path, rfl, fun agents' => ?_⟩
      simp [tapiStkDefaultAgentInterfaceRegister, hslot, hpath]
  · simp [tapiStkDefaultAgentInterfaceRegister, hslot, ok, einval] at h

/-- Different slots have different default paths. -/
theorem stkAgentDefaultPath_injective {i j : ℤ} {p : String}
    (hi : stkAgentDefaultPath i = some p) (hj : stkAgentDefaultPath j = some p) : i = j := by
  unfold stkAgentDefaultPath at hi hj
  have hne : stkAgentDefaultId0 ≠ stkAgentDefaultId1 := by decide
  by_cases hi0 : i = 0 <;> by_cases hj0 : j = 0 <;> by_cases hi1 : i = 1 <;>
    by_cases hj1 : j = 1 <;> simp_all

end Registered

/-! ## The system -/

structure System where
  context : DbusContext
  agents : Agents

/-- What reaches the library: a method call, or a call of a reply function. -/
inductive Event
  | call (msg : Message) (mem : Memory)
  | answer (fn : ReplyCall) (mem : Memory)

/-- What the library does: it calls an application callback for a method call, returns a reply
from its handler, sends the reply to the pending message, and returns a code to the
application. -/
inductive Output
  | callback (msg : Message) (fn : Ptr) (ar : AsyncResult AgentData)
  | returned (msg : Message) (reply : Option Reply)
  | sent (reply : Reply)
  | code (n : ℤ)

/-- What a handler does as seen from outside: it runs the callback, and it returns. -/
def Outcome.outputs (o : Outcome) (msg : Message) (handler : AsyncHandler AgentData) :
    List Output :=
  o.delivered.map (.callback msg handler.cbFunction) ++ [.returned msg o.reply]

section Outputs

variable (ctx : DbusContext) (ar : AsyncResult AgentData) (msg : Message) (mem : Memory)
  (reply : Reply) (params : AgentParams) (handler : AsyncHandler AgentData)

@[simp] theorem notImplemented_outputs :
    (notImplemented ctx ar msg mem).outputs msg handler =
      [.returned msg (mem.create (stkAgentErrorNotImplemented msg))] := rfl

@[simp] theorem refuse_outputs :
    (refuse ctx ar mem reply).outputs msg handler =
      [.callback msg handler.cbFunction { ar with status := error },
        .returned msg (mem.create reply)] := rfl

@[simp] theorem accept_outputs :
    (accept ctx ar msg params).outputs msg handler =
      [.callback msg handler.cbFunction
          { ar with data := .params params, status := ok },
        .returned msg none] := rfl

end Outputs

namespace System

/-- The method and the record that a method call is dispatched to. -/
def entered (s : System) (msg : Message) : Option (MethodEntry × AsyncHandler AgentData) :=
  if msg.type = .methodCall then
    (findMethod msg.member).bind fun entry =>
      (s.agents msg.path).map fun handler => (entry, handler)
  else none

/-- The agent at a path gets a new record. -/
def setRecord (s : System) (path : String) (handler : AsyncHandler AgentData)
    (o : Outcome) : System where
  context := o.context
  agents := Function.update s.agents path (some { handler with result := o.result })

def step : Machine.Step System Event Output
  | s, .call msg mem =>
    match s.entered msg with
    | none => some (s, [])
    | some (entry, handler) =>
      (entry.function s.context handler msg mem).map fun o =>
        (s.setRecord msg.path handler o, o.outputs msg handler)
  | s, .answer fn mem =>
    (fn.run (some s.context) mem).map fun a =>
      ({ s with context := a.context.getD s.context }, a.sent.map .sent ++ [.code a.code])

/-- What a step can do: drop a call that no agent serves, serve a call, or answer. -/
inductive Stepped (s : System) : Event → System → List Output → Prop
  | dropped {msg : Message} {mem : Memory} (notEntered : s.entered msg = none) :
      Stepped s (.call msg mem) s []
  | handled {msg : Message} {mem : Memory} (entry : MethodEntry)
      (handler : AsyncHandler AgentData) (o : Outcome)
      (entered : s.entered msg = some (entry, handler))
      (exit : Handled entry s.context handler msg mem o) :
      Stepped s (.call msg mem) (s.setRecord msg.path handler o) (o.outputs msg handler)
  | answered {fn : ReplyCall} {mem : Memory} (a : Answer)
      (exit : Answered fn s.context mem a) :
      Stepped s (.answer fn mem) { s with context := a.context.getD s.context }
        (a.sent.map .sent ++ [.code a.code])

variable {s s' : System} {e : Event} {msg : Message} {mem : Memory} {entry : MethodEntry}
  {handler : AsyncHandler AgentData} {out : List Output} {path : String}

theorem entered_eq_some_iff :
    s.entered msg = some (entry, handler) ↔
      msg.type = .methodCall ∧ findMethod msg.member = some entry ∧
        s.agents msg.path = some handler := by
  unfold entered
  by_cases hcall : msg.type = .methodCall <;>
    simp [hcall, Option.bind_eq_some_iff, Option.map_eq_some_iff]

theorem mem_agentMethods_of_entered (h : s.entered msg = some (entry, handler)) :
    entry ∈ agentMethods :=
  List.mem_of_find?_eq_some (entered_eq_some_iff.mp h).2.1

/-- A message enters one method. -/
theorem eq_of_entered {entry' : MethodEntry} {handler' : AsyncHandler AgentData}
    (h : s.entered msg = some (entry, handler)) (h' : s.entered msg = some (entry', handler')) :
    entry' = entry ∧ handler' = handler := by
  rw [h] at h'
  simpa [eq_comm] using h'

theorem step_call_of_entered (mem : Memory) (h : s.entered msg = some (entry, handler)) :
    s.step (.call msg mem) =
      (entry.function s.context handler msg mem).map fun o =>
        (s.setRecord msg.path handler o, o.outputs msg handler) := by
  simp [step, h]

theorem stepped_of_step_eq_some (h : s.step e = some (s', out)) : Stepped s e s' out := by
  cases e with
  | call msg mem =>
    cases hent : s.entered msg with
    | none =>
      simp only [step, hent, Option.some.injEq, Prod.mk.injEq] at h
      obtain ⟨rfl, rfl⟩ := h
      exact .dropped hent
    | some p =>
      obtain ⟨entry, handler⟩ := p
      rw [step_call_of_entered mem hent] at h
      obtain ⟨o, ho, heq⟩ := Option.map_eq_some_iff.mp h
      obtain ⟨rfl, rfl⟩ := Prod.mk.inj heq
      have hmem := mem_agentMethods_of_entered hent
      exact .handled entry handler o hent (handled_of_function_eq_some hmem ho)
  | answer fn mem =>
    obtain ⟨a, ha, heq⟩ := Option.map_eq_some_iff.mp h
    obtain ⟨rfl, rfl⟩ := Prod.mk.inj heq
    exact .answered a (answered_of_run_eq_some ha)

@[simp] theorem setRecord_context {o : Outcome} :
    (s.setRecord path handler o).context = o.context := rfl

@[simp] theorem setRecord_agents_self {o : Outcome} :
    (s.setRecord path handler o).agents path = some { handler with result := o.result } := by
  simp [setRecord]

theorem setRecord_agents_of_ne {o : Outcome} {q : String} (h : q ≠ path) :
    (s.setRecord path handler o).agents q = s.agents q := by
  simp [setRecord, h]

end System

/-! ## A sample system -/

/-- Every allocation of a registration succeeds, on blocks that hold zeros. -/
def zeroBlocks : RegisterEnv := ⟨true, some ⟨0, 0, 0, 0, 0, .null, 0⟩, true⟩

/-- The agents after the default agent of a slot is registered, with a callback at 1. -/
def withDefaultAgent (ctx : DbusContext) (slotId : ℤ) (agents : Agents) : Agents :=
  (tapiStkDefaultAgentInterfaceRegister twoModems (some ctx) agents slotId 1 zeroBlocks).2

/-- A display request of the modem service. -/
def showInformation (path : String) (serial : ℕ) : Message where
  type := .methodCall
  serial := serial
  path := path
  member := "ShowInformation"
  args := [.string "text", .byte 0, .boolean 0]

end Telephony.Stk
