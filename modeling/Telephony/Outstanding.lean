import Telephony.Machine
import Telephony.Request

/-!
# Outstanding requests

The bus library accepts requests and invokes the reply function of each when its reply arrives,
in whatever order the replies come. The application waits for one callback per request.

## Main definitions

* `Telephony.Outstanding` — a request that the bus library has accepted
* `Telephony.Bus` — the requests that wait for a reply, and the ones that have been answered
* `Telephony.Bus.step` — a request is accepted, or a reply arrives
* `Telephony.Served` — every answered request has called back exactly once
* `Telephony.Foreseen` — the reply is one that the reply function of its request answers

## Main results

* `Telephony.Accounted.preserved` — the log of a request is what its reply function has done
* `Telephony.served_iff_foreseen` — a run serves its requests exactly if it brings each of them a
  reply that is foreseen
-/

namespace Telephony

open DBus Ledger Machine

/-- A request with a callback that the bus library has accepted, so that the application has
been told OK. -/
structure Outstanding where
  request : Request
  caller : Caller
  granted : Block → Bool
  block : AsyncResult Payload
  submission : Submission
  handler : AsyncHandler Payload
  submitted : request.submit caller = some (.ok submission)
  accepted : submission.code granted true = ok
  handedOver : submission.userData granted block = .handler handler
  takesCallback : request.hasCallback = true
  wantsCallback : caller.pHandle ≠ null

/-- A callback of the application. The record is the one of the request with that number. -/
structure Invocation where
  request : ℕ
  cbFunction : Ptr
  result : AsyncResult Payload
  deriving DecidableEq, Repr

/-- What a reply function has done with the record of a request. -/
def Handling.invocations (h : Handling) (i : ℕ) (cb : Ptr) : List Invocation :=
  if h.called then [⟨i, cb, h.result⟩] else []

theorem Handling.invocations_eq_singleton_iff {h : Handling} {i : ℕ} {cb : Ptr}
    {ar : AsyncResult Payload} :
    h.invocations i cb = [⟨i, cb, ar⟩] ↔ h.called = true ∧ h.result = ar := by
  unfold invocations
  cases h.called <;> simp

/-- A reply that has been handed to the function of its request. -/
structure Answered where
  id : ℕ
  request : Outstanding
  message : Message
  heap : Heap

namespace Outstanding

variable {o : Outstanding} {i : ℕ} {message : Message} {heap : Heap} {out : List Invocation}

/-- What the reply function does: nothing, if the request names none. -/
def callbacks (o : Outstanding) (i : ℕ) (message : Message) (heap : Heap) :
    Option (List Invocation) :=
  match o.submission.function with
  | none => some []
  | some f => (f.run o.handler message heap).map fun h => h.invocations i o.handler.cbFunction

/-- The request names a function for its reply, and the function answers this reply. -/
def Answerable (o : Outstanding) (message : Message) (heap : Heap) : Prop :=
  ∃ f, o.request.function = some f ∧ f.Answerable message heap

/-- The callbacks that a request is owed for its reply: one, with its own record, which says
ERROR if the reply is an error. -/
def Owed (o : Outstanding) (i : ℕ) (message : Message) (out : List Invocation) : Prop :=
  ∃ result, out = [⟨i, o.caller.pHandle, result⟩] ∧ SameOrigin o.handler.result result ∧
    (message.isError = true → result.status = error)

theorem function_eq : o.submission.function = o.request.function :=
  Request.function_of_submit o.submitted

theorem stamped : o.request.Stamped o.caller o.block o.handler := by
  obtain ⟨handler, hdata, hstamped⟩ :=
    Request.stamped_of_submit o.takesCallback o.submitted o.granted o.block
  rw [o.handedOver] at hdata
  cases hdata
  exact hstamped

/-- Nothing is called back with the record of another request. -/
theorem request_of_mem_callbacks (h : o.callbacks i message heap = some out) :
    ∀ x ∈ out, x.request = i := by
  unfold callbacks at h
  cases hf : o.submission.function with
  | none =>
    rw [hf] at h
    cases h
    simp
  | some f =>
    simp only [hf, Option.map_eq_some_iff] at h
    obtain ⟨handling, -, rfl⟩ := h
    unfold Handling.invocations
    cases handling.called <;> simp

/-- The reply function does what the request is owed exactly if it answers the reply. -/
theorem owed_iff_answerable :
    (∃ out, o.callbacks i message heap = some out ∧ o.Owed i message out) ↔
      o.Answerable message heap := by
  have hpHandle : o.handler.cbFunction = o.caller.pHandle := o.stamped.cbFunction
  have hcb : o.handler.cbFunction ≠ null := hpHandle ▸ o.wantsCallback
  rw [Answerable, ← o.function_eq]
  unfold callbacks
  cases hf : o.submission.function with
  | none => simp [Owed]
  | some f =>
    -- the registration is the one request that needs its context with the reply
    have hdata : f = .registrationInfoQueryDone → o.handler.result.data = .context := by
      rintro rfl
      exact o.stamped.data (o.function_eq.symm.trans hf)
    have hanswers : Answers message o.handler.result (f.run o.handler message heap) ↔
        f.Answerable message heap := ReplyFunction.answers_run_iff hcb hdata
    simp only [Option.some.injEq, exists_eq_left', ← hanswers, Answers, Owed, ← hpHandle]
    -- one callback is a handling that calls back, with the same record
    constructor
    · rintro ⟨out, hout, result, rfl, hsame, hstatus⟩
      obtain ⟨h, hrun, hlist⟩ := Option.map_eq_some_iff.mp hout
      obtain ⟨hcalled, rfl⟩ := Handling.invocations_eq_singleton_iff.mp hlist
      exact ⟨h, hrun, hcalled, hsame, hstatus⟩
    · rintro ⟨h, hrun, hcalled, hsame, hstatus⟩
      have hlist : h.invocations i o.handler.cbFunction =
          [⟨i, o.handler.cbFunction, h.result⟩] :=
        Handling.invocations_eq_singleton_iff.mpr ⟨hcalled, rfl⟩
      exact ⟨_, Option.map_eq_some_iff.mpr ⟨h, hrun, hlist⟩, h.result, rfl, hsame, hstatus⟩

end Outstanding

/-! ## Runs -/

/-- The requests that wait for a reply, each with its number, and the ones that have got it. -/
structure Bus where
  sent : ℕ
  pending : List (ℕ × Outstanding)
  answered : List Answered

inductive BusEvent
  | accept (o : Outstanding)
  | reply (i : ℕ) (message : Message) (heap : Heap)

namespace Bus

def start : Bus := ⟨0, [], []⟩

/-- The request that waits for the reply to a call. -/
def waiting (s : Bus) (i : ℕ) : Option Outstanding :=
  (s.pending.find? fun p => p.1 = i).map Prod.snd

/-- The state after the reply to a call has been handled. -/
def settle (s : Bus) (a : Answered) : Bus where
  sent := s.sent
  pending := s.pending.filter fun p => p.1 ≠ a.id
  answered := a :: s.answered

/-- A request is accepted, or a reply arrives. The bus library drops a reply that no request
waits for. -/
def step : Step Bus BusEvent Invocation
  | s, .accept o => some ({ s with sent := s.sent + 1, pending := (s.sent, o) :: s.pending }, [])
  | s, .reply i message heap =>
    match s.waiting i with
    | none => some (s, [])
    | some o =>
      (o.callbacks i message heap).map fun out => (s.settle ⟨i, o, message, heap⟩, out)

variable {s s' : Bus} {i : ℕ} {o : Outstanding} {message : Message} {heap : Heap}
  {e : BusEvent} {out : List Invocation}

theorem mem_pending_of_waiting (h : s.waiting i = some o) : (i, o) ∈ s.pending := by
  obtain ⟨⟨j, o'⟩, hfind, rfl⟩ := Option.map_eq_some_iff.mp h
  have hj : j = i := by simpa using List.find?_some hfind
  rw [← hj]
  exact List.mem_of_find?_eq_some hfind

/-- All that a step can do. -/
theorem step_cases (h : s.step e = some (s', out)) :
    (∃ o, e = .accept o ∧ out = [] ∧
      s' = { s with sent := s.sent + 1, pending := (s.sent, o) :: s.pending }) ∨
    (∃ i message heap, e = .reply i message heap ∧ s.waiting i = none ∧ out = [] ∧ s' = s) ∨
    ∃ i message heap o, e = .reply i message heap ∧ s.waiting i = some o ∧
      o.callbacks i message heap = some out ∧ s' = s.settle ⟨i, o, message, heap⟩ := by
  cases e with
  | accept o =>
    cases h
    exact .inl ⟨o, rfl, rfl, rfl⟩
  | reply i message heap =>
    cases hwaiting : s.waiting i with
    | none =>
      simp only [step, hwaiting] at h
      cases h
      exact .inr (.inl ⟨i, message, heap, rfl, hwaiting, rfl, rfl⟩)
    | some o =>
      simp only [step, hwaiting, Option.map_eq_some_iff, Prod.mk.injEq] at h
      obtain ⟨out', hout, rfl, rfl⟩ := h
      exact .inr (.inr ⟨i, message, heap, o, rfl, hwaiting, hout, rfl⟩)

end Bus

/-- What is known about the log of all callbacks so far: nothing has been called back for a
request that waits, and what has been called back for an answered one is what its reply function
has done. -/
structure Accounted (s : Bus) (log : List Invocation) : Prop where
  pending_lt : ∀ p ∈ s.pending, p.1 < s.sent
  log_lt : ∀ x ∈ log, x.request < s.sent
  silent : ∀ p ∈ s.pending, ∀ x ∈ log, x.request ≠ p.1
  answered_lt : ∀ a ∈ s.answered, a.id < s.sent
  answered_ne : ∀ a ∈ s.answered, ∀ p ∈ s.pending, p.1 ≠ a.id
  callbacks : ∀ a ∈ s.answered, a.request.callbacks a.id a.message a.heap =
    some (log.filter fun x => x.request = a.id)

section Account

variable {s s' : Bus} {e : BusEvent} {log out : List Invocation} {o : Outstanding} {a : Answered}

theorem accounted_start : Accounted Bus.start [] := by
  constructor <;> simp [Bus.start]

theorem Accounted.accept (h : Accounted s log) :
    Accounted { s with sent := s.sent + 1, pending := (s.sent, o) :: s.pending } log where
  pending_lt := List.forall_mem_cons.mpr
    ⟨Nat.lt_succ_self _, fun p hp => Nat.lt_succ_of_lt (h.pending_lt p hp)⟩
  log_lt x hx := Nat.lt_succ_of_lt (h.log_lt x hx)
  silent := List.forall_mem_cons.mpr ⟨fun x hx => (h.log_lt x hx).ne, h.silent⟩
  answered_lt a ha := Nat.lt_succ_of_lt (h.answered_lt a ha)
  answered_ne a ha := List.forall_mem_cons.mpr ⟨(h.answered_lt a ha).ne', h.answered_ne a ha⟩
  callbacks := h.callbacks

theorem Accounted.settle (h : Accounted s log) (hpending : (a.id, a.request) ∈ s.pending)
    (hout : a.request.callbacks a.id a.message a.heap = some out) :
    Accounted (s.settle a) (log ++ out) := by
  have hid : ∀ x ∈ out, x.request = a.id := Outstanding.request_of_mem_callbacks hout
  have hlt := h.pending_lt _ hpending
  have hrest : ∀ p ∈ (s.settle a).pending, p ∈ s.pending ∧ p.1 ≠ a.id := by
    intro p hp
    simpa [Bus.settle] using hp
  constructor
  · exact fun p hp => h.pending_lt p (hrest p hp).1
  · refine List.forall_mem_append.mpr ⟨h.log_lt, fun x hx => ?_⟩
    rw [hid x hx]
    exact hlt
  · intro p hp
    refine List.forall_mem_append.mpr ⟨h.silent p (hrest p hp).1, fun x hx => ?_⟩
    rw [hid x hx]
    exact (hrest p hp).2.symm
  · exact List.forall_mem_cons.mpr ⟨hlt, h.answered_lt⟩
  · exact List.forall_mem_cons.mpr
      ⟨fun p hp => (hrest p hp).2, fun b hb p hp => h.answered_ne b hb p (hrest p hp).1⟩
  · refine List.forall_mem_cons.mpr ⟨?_, fun b hb => ?_⟩
    · -- nothing has been called back for the request while it was waiting
      have hbefore : log.filter (fun x => x.request = a.id) = [] := by
        simpa using h.silent _ hpending
      have hall : out.filter (fun x => x.request = a.id) = out := by
        simpa using hid
      rw [List.filter_append, hbefore, hall, List.nil_append, hout]
    · -- and the reply of one request calls back for no other
      have hother : out.filter (fun x => x.request = b.id) = [] := by
        have hne := h.answered_ne b hb _ hpending
        simpa using fun x hx => (hid x hx).trans_ne hne
      rw [List.filter_append, hother, List.append_nil, h.callbacks b hb]

theorem Accounted.preserved (h : Accounted s log) (hstep : s.step e = some (s', out)) :
    Accounted s' (log ++ out) := by
  obtain ⟨o, -, rfl, rfl⟩ | ⟨i, message, heap, -, -, rfl, rfl⟩ |
    ⟨i, message, heap, o, -, hwaiting, hout, rfl⟩ := Bus.step_cases hstep
  · rw [List.append_nil]
    exact h.accept
  · rwa [List.append_nil]
  · exact h.settle (Bus.mem_pending_of_waiting hwaiting) hout

end Account

/-! ## What is promised -/

/-- No request is called back before its reply, and every request that has got its reply has
been called back as it is owed, which is exactly once. -/
structure Served (s : Bus) (log : List Invocation) : Prop where
  waiting : ∀ p ∈ s.pending, ∀ x ∈ log, x.request ≠ p.1
  answered : ∀ a ∈ s.answered,
    a.request.Owed a.id a.message (log.filter fun x => x.request = a.id)

/-- A reply to a request that names a function which answers it. -/
def Foreseen : Bus × BusEvent → Prop
  | (_, .accept _) => True
  | (s, .reply i message heap) => ∀ o, s.waiting i = some o → o.Answerable message heap

theorem Accounted.served_iff {s : Bus} {log : List Invocation} (h : Accounted s log) :
    Served s log ↔ ∀ a ∈ s.answered, a.request.Answerable a.message a.heap := by
  have howed : ∀ a ∈ s.answered,
      (a.request.Owed a.id a.message (log.filter fun x => x.request = a.id) ↔
        a.request.Answerable a.message a.heap) := by
    intro a ha
    rw [← Outstanding.owed_iff_answerable (i := a.id), h.callbacks a ha]
    simp
  constructor
  · intro hserved a ha
    exact (howed a ha).mp (hserved.answered a ha)
  · intro hall
    exact ⟨h.silent, fun a ha => (howed a ha).mpr (hall a ha)⟩

theorem isSome_step_of_foreseen {s : Bus} {e : BusEvent} (h : Foreseen (s, e)) :
    (s.step e).isSome = true := by
  cases e with
  | accept o => rfl
  | reply i message heap =>
    cases hwaiting : s.waiting i with
    | none => simp [Bus.step, hwaiting]
    | some o =>
      obtain ⟨out, hout, -⟩ := Outstanding.owed_iff_answerable (i := i).mpr (h o hwaiting)
      simp [Bus.step, hwaiting, hout]

/-- Every answered request has met a reply that its function answers, as long as all replies
have been such. -/
theorem answerable_step {s s' : Bus} {e : BusEvent} {out : List Invocation}
    (h : s.step e = some (s', out)) :
    (∀ a ∈ s'.answered, a.request.Answerable a.message a.heap) ↔
      (∀ a ∈ s.answered, a.request.Answerable a.message a.heap) ∧ Foreseen (s, e) := by
  obtain ⟨o, rfl, -, rfl⟩ | ⟨i, message, heap, rfl, hwaiting, -, rfl⟩ |
    ⟨i, message, heap, o, rfl, hwaiting, -, rfl⟩ := Bus.step_cases h
  · simp [Foreseen]
  · simp [Foreseen, hwaiting]
  · simp [Foreseen, hwaiting, Bus.settle, and_comm]

/-- Whatever requests are outstanding and in whatever order they are answered, a run comes to
its end and serves them exactly if every reply is one that its request foresees. -/
theorem served_iff_foreseen (es : List BusEvent) :
    (∃ r, run Bus.step Bus.start es = some r ∧ Served r.1 r.2) ↔
      ∀ v ∈ visits Bus.step Bus.start es, Foreseen v := by
  have hserved : ∀ r, run Bus.step Bus.start es = some r →
      (Served r.1 r.2 ↔ ∀ v ∈ visits Bus.step Bus.start es, Foreseen v) := by
    intro r hrun
    -- the log of the run accounts for every request
    have haccounted : Accounted r.1 r.2 := by
      simpa using run_history Accounted
        (fun s log e s' out h hstep => h.preserved hstep) accounted_start hrun
    rw [haccounted.served_iff, run_iff (fun s e s' out => answerable_step) hrun]
    simp [Bus.start]
  constructor
  · rintro ⟨r, hrun, hr⟩
    exact (hserved r hrun).mp hr
  · intro h
    obtain ⟨r, hrun⟩ := exists_run fun v hv => isSome_step_of_foreseen (h v hv)
    exact ⟨r, hrun, (hserved r hrun).mpr h⟩

/-! ## A scan that is never answered -/

/-- A scan for operators. -/
def sampleScan : Outstanding where
  request := .scan
  caller := Request.sampleCaller
  granted _ := true
  block := Request.sampleBlock
  submission :=
    plainRequest handlerThenResult (.method "Scan") (stamp 7 0) 1 (fun _ => {})
      (some .operatorScanComplete) 1
  handler := ⟨stamp 7 0 Request.sampleBlock, 1⟩
  submitted := rfl
  accepted := rfl
  handedOver := rfl
  takesCallback := rfl
  wantsCallback := by decide

/-- The modem fails the scan, and the application never hears of it. -/
theorem not_served_scan :
    ¬ ∃ heap r, run Bus.step Bus.start [.accept sampleScan, .reply 0 { type := .error } heap] =
      some r ∧ Served r.1 r.2 := by
  rintro ⟨heap, r, hrun, hserved⟩
  have hr : r = (Bus.settle ⟨1, [(0, sampleScan)], []⟩
      ⟨0, sampleScan, { type := .error }, heap⟩, []) := Option.some_inj.mp (hrun.symm.trans rfl)
  subst hr
  obtain ⟨result, hout, -⟩ := hserved.answered _ (.head _)
  contradiction

end Telephony
