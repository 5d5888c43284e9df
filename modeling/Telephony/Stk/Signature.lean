import Telephony.Stk.Pending

/-!
# What the application's answers carry

A reply function replies with the values of its own kind. Whether these are the out arguments
that the method table declares for the pending request depends on the application alone: no
reply function looks at the request, and none refuses to answer it.

## Main definitions

* `Stk.acceptedMessages`, `Stk.answeredMessages` — the requests that a run accepts and answers
* `Stk.RepliesAs` — the reply answers the pending request with the values of a reply function

## Main results

* `Stk.answered_sublist_accepted` — every accepted request is answered at most once
* `Stk.answers_of_run` — what the answers of a run carry
-/

namespace Telephony.Stk

open DBus Machine

/-! ## Requests and answers of a run -/

/-- The request that a callback was told of: its record has status `OK` and parameters. -/
def acceptedMessage : Output → Option Message
  | .callback msg _ { status := status, data := .params _, .. } =>
    if status = ok then some msg else none
  | _ => none

/-- The request that a reply was sent to. -/
def answeredMessage : Output → Option Message
  | .sent reply => some reply.request
  | _ => none

/-- The requests that were accepted, in order. -/
def acceptedMessages (out : List Output) : List Message := out.filterMap acceptedMessage

/-- The requests that the application answered, in order. -/
def answeredMessages (out : List Output) : List Message := out.filterMap answeredMessage

/-- The pending request as a list. -/
def pendingMessages (s : System) : List Message :=
  match s.context.pending with
  | .message msg => [msg]
  | .null | .wild => []

/-- The reply of a reply function answers the pending request. Without an error it carries
the values of that function, which are the declared ones exactly if the kinds match. -/
structure RepliesAs (s : System) (fn : ReplyCall) (mem : Memory) (reply : Reply) : Prop where
  pending : s.context.pending = .message reply.request
  signature : reply.isError = false →
    reply.signature = if mem.append then fn.signature else []
  declared : reply.isError = false → mem.append = true → ∀ entry,
    findMethod reply.request.member = some entry →
      (reply.signature = entry.outArgs ↔ fn.signature = entry.outArgs)

/-! ## One step -/

section Step

variable {s s' : System} {e : Event} {fn : ReplyCall} {mem : Memory} {out past : List Output}

theorem repliesAs_of_step {reply : Reply} (hstep : s.step (.answer fn mem) = some (s', out))
    (hreply : .sent reply ∈ out) : RepliesAs s fn mem reply := by
  cases System.stepped_of_step_eq_some hstep with
  | answered a exit =>
    cases exit with
    | idle => simp at hreply
    | noReply => simp at hreply
    | sent msg reply' connection pending memory request signature =>
      obtain rfl : reply = reply' := by simpa using hreply
      refine ⟨request ▸ pending, signature, fun hnot happend entry _ => ?_⟩
      rw [signature hnot, if_pos happend]

/-- With connection and memory, a reply function answers whatever is pending. -/
theorem exists_step_eq_sent {msg : Message} (hpending : s.context.pending = .message msg)
    (hconnection : s.context.connection ≠ null) (hmem : mem.reply = true) :
    ∃ s' reply, s.step (.answer fn mem) = some (s', [.sent reply, .code ok]) ∧
      s'.context.pending = .null ∧ reply.request = msg := by
  obtain ⟨reply, hrun, hrequest⟩ := exists_run_eq_sent fn hconnection hpending hmem
  refine ⟨{ s with context := { s.context with pending := .null } }, reply, ?_, rfl, hrequest⟩
  simp [System.step, hrun]

theorem acceptedMessages_append {out' : List Output} :
    acceptedMessages (out ++ out') = acceptedMessages out ++ acceptedMessages out' :=
  List.filterMap_append

theorem answeredMessages_append {out' : List Output} :
    answeredMessages (out ++ out') = answeredMessages out ++ answeredMessages out' :=
  List.filterMap_append

@[simp] theorem answeredMessages_code {n : ℤ} : answeredMessages [.code n] = [] := rfl
@[simp] theorem acceptedMessages_code {n : ℤ} : acceptedMessages [.code n] = [] := rfl
@[simp] theorem answeredMessages_sent {reply : Reply} {n : ℤ} :
    answeredMessages [.sent reply, .code n] = [reply.request] := rfl
@[simp] theorem acceptedMessages_sent {reply : Reply} {n : ℤ} :
    acceptedMessages [.sent reply, .code n] = [] := rfl

/-- No handler answers a request. -/
theorem answeredMessages_outputs {o : Outcome} {msg : Message}
    {handler : AsyncHandler AgentData} : answeredMessages (o.outputs msg handler) = [] := by
  refine List.filterMap_eq_nil_iff.mpr fun q hq => ?_
  rcases List.mem_append.mp hq with hq | hq
  · obtain ⟨ar, -, rfl⟩ := List.mem_map.mp hq
    rfl
  · obtain rfl := List.mem_singleton.mp hq
    rfl

/-- Answered requests were accepted before, and the pending one is none of them. -/
theorem answered_sublist_step
    (h : (answeredMessages past ++ pendingMessages s).Sublist (acceptedMessages past))
    (hstep : s.step e = some (s', out)) :
    (answeredMessages (past ++ out) ++ pendingMessages s').Sublist
      (acceptedMessages (past ++ out)) := by
  rw [answeredMessages_append, acceptedMessages_append]
  have hdropped : (answeredMessages past).Sublist (acceptedMessages past) :=
    (List.sublist_append_left _ _).trans h
  cases System.stepped_of_step_eq_some hstep with
  | dropped => simpa [answeredMessages, acceptedMessages] using h
  | answered a exit =>
    cases exit with
    | idle => simpa using h
    | noReply => simpa using h
    | sent msg reply connection pending memory request =>
      -- the answer moves the pending request to those that are answered
      have hpending : pendingMessages s = [reply.request] := by
        simp [pendingMessages, pending, request]
      rw [hpending] at h
      simpa [pendingMessages] using h
  | handled entry handler o hent exit =>
    rw [answeredMessages_outputs, List.append_nil]
    cases exit with
    | notImplemented => exact h.trans (List.sublist_append_left _ _)
    | refused => exact h.trans (List.sublist_append_left _ _)
    -- an accepted request is appended on both sides; what was pending is dropped
    | accepted callback ar params data grantable => exact hdropped.append_right _
    | withdrawn =>
      simpa [pendingMessages] using hdropped.trans (List.sublist_append_left _ _)

end Step

/-! ## Runs -/

section Runs

variable {s : System} {es : List Event}

/-- Every request is answered at most as often as it was accepted, in the same order. -/
theorem answered_sublist_accepted {r : System × List Output} (hidle : s.context.pending = .null)
    (hrun : run System.step s es = some r) :
    (answeredMessages r.2).Sublist (acceptedMessages r.2) := by
  have hinit : (answeredMessages [] ++ pendingMessages s).Sublist (acceptedMessages []) := by
    simp [answeredMessages, acceptedMessages, pendingMessages, hidle]
  have hhistory := run_history (fun s past =>
    (answeredMessages past ++ pendingMessages s).Sublist (acceptedMessages past))
    (fun s past e s' out h hstep => answered_sublist_step h hstep) hinit hrun
  exact (List.sublist_append_left _ _).trans hhistory

/-- A run from a system without a pending request. What a reply function sends answers the
pending request with the values of that function; every accepted request is answered at most
once; and a reply function answers whatever request is pending, of its kind or not. -/
theorem answers_of_run (es : List Event) (hidle : s.context.pending = .null) :
    (∀ v ∈ visits System.step s es, ∀ fn mem s' out reply, v.2 = .answer fn mem →
      v.1.step v.2 = some (s', out) → .sent reply ∈ out → RepliesAs v.1 fn mem reply) ∧
    (∀ r, run System.step s es = some r →
      (answeredMessages r.2).Sublist (acceptedMessages r.2)) ∧
    ∀ v ∈ visits System.step s es, ∀ fn mem msg, v.2 = .answer fn mem →
      v.1.context.pending = .message msg → v.1.context.connection ≠ null → mem.reply = true →
        ∃ s' reply, v.1.step v.2 = some (s', [.sent reply, .code ok]) ∧
          s'.context.pending = .null ∧ reply.request = msg := by
  refine ⟨?_, fun r hrun => answered_sublist_accepted hidle hrun, ?_⟩
  · rintro ⟨s, e⟩ - fn mem s' out reply rfl hstep hreply
    exact repliesAs_of_step hstep hreply
  · rintro ⟨s, e⟩ - fn mem msg rfl hpending hconnection hmem
    exact exists_step_eq_sent hpending hconnection hmem

end Runs

/-! ## A confirmation answered as a display -/

/-- A confirmation request of the modem service. -/
def confirmRequest : Message where
  type := .methodCall
  serial := 1
  path := stkAgentDefaultId0
  member := "ConfirmRequest"
  args := [.string "text", .byte 0]

def defaultAgent : System := ⟨idleContext, withDefaultAgent idleContext 0 fun _ => none⟩

/-- The run of a confirmation that is answered. -/
theorem answers_of_run_confirmation :
    ∃ r, run System.step defaultAgent
        [.call confirmRequest {}, .answer (.requestConfirmation 0) {}] = some r ∧
      (answeredMessages r.2).Sublist (acceptedMessages r.2) := by
  obtain ⟨r, hr⟩ : ∃ r, run System.step defaultAgent
      [.call confirmRequest {}, .answer (.requestConfirmation 0) {}] = some r := ⟨_, rfl⟩
  exact ⟨r, hr, (answers_of_run _ rfl).2.1 r hr⟩

/-- The table declares a boolean for a confirmation, but a positive answer to a display is
sent to it without arguments, and clears it. -/
theorem answers_mismatched_confirmation :
    (findMethod confirmRequest.member).map MethodEntry.outArgs = some [.fixed .boolean] ∧
      ∃ s', run System.step defaultAgent [.call confirmRequest {}] = some s' ∧
        s'.1.context.pending = .message confirmRequest ∧
        ∃ s'', s'.1.step (.answer (.displayText opCodeConfirmPositive) {}) =
            some (s'', [.sent (.methodReturn confirmRequest []), .code ok]) ∧
          s''.context.pending = .null :=
  ⟨rfl, _, rfl, rfl, _, rfl, rfl⟩

end Telephony.Stk
