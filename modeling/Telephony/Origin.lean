import Telephony.Manager.Session
import Telephony.Outstanding
import Telephony.SignalFunction

/-!
# Where a record comes from

An application has one callback for many requests and registrations, and tells the records that
it gets apart by their type, their id and the object that was registered. The library writes
these fields once, into a block that `malloc` has returned. Replies and signals keep them.

Three of its functions leave some of them out. No request writes the type of its record, the
registration for call states does not write the id, and a report of the data log writes none of
the three.

## Main definitions

* `Telephony.Origin` — what has asked for a callback
* `Telephony.Origin.Identifies` — a record that says where it comes from
* `Telephony.Origin.FoundIn` — the block already holds what the library does not write
* `Telephony.Library` — the requests, the watches and the callback of the data log

## Main results

* `Telephony.keeps_run_reply` — no reply function changes what a record says about its origin
* `Telephony.Origin.forall_foundIn_iff` — what does not depend on the block
* `Telephony.identified_iff_foundIn` — in every run, the records identify their origins exactly
  if their blocks already held what is not written
-/

namespace Telephony

open DBus Machine

/-! ## Reply functions keep the origin -/

section Replies

variable {handler : AsyncHandler Payload} {message : Message} {heap : Heap} {sig : List Ty}
  {body : Iter → AsyncResult Payload → Option Handling}

theorem keeps_onReply (h : ∀ args, Keeps handler.result (body args handler.result)) :
    Keeps handler.result (onReply handler message body) :=
  keeps_withCallback (keeps_fail.ite (keeps_fail.ite (h _)))

theorem keeps_onTypedReply (h : ∀ args, Keeps handler.result (body args handler.result)) :
    Keeps handler.result (onTypedReply handler message sig body) :=
  keeps_withCallback (keeps_fail.ite (keeps_fail.ite (keeps_fail.ite (h _))))

theorem keeps_onStatusReply : Keeps handler.result (onStatusReply handler message) :=
  keeps_withCallback (keeps_fail.ite (keeps_some ⟨rfl, rfl, rfl⟩))

theorem keeps_onPathReply : Keeps handler.result (onPathReply handler message) := by
  refine keeps_onReply fun args => ?_
  split
  · exact keeps_some ⟨rfl, rfl, rfl⟩
  · exact keeps_some ⟨rfl, rfl, rfl⟩

theorem keeps_onIntReply : Keeps handler.result (onIntReply handler message) :=
  keeps_onReply fun _ => keeps_map fun _ => ⟨rfl, rfl, rfl⟩

theorem keeps_onArrayReply : Keeps handler.result (onArrayReply handler message) :=
  keeps_onReply fun _ => keeps_map fun _ => ⟨rfl, rfl, rfl⟩

/-- A list is decoded and delivered, or the run is undefined. -/
theorem keeps_onTypedReply_map {α : Type} {decode : Iter → Option α}
    {f : AsyncResult Payload → α → AsyncResult Payload}
    (h : ∀ a, SameOrigin handler.result (f handler.result a)) :
    Keeps handler.result
      (onTypedReply handler message sig fun args ar =>
        (decode args).map fun a => deliver (f ar a)) :=
  keeps_onTypedReply fun _ => keeps_map h

/-- The status that the function sets first is not part of the origin. -/
theorem keeps_callListQueryComplete :
    Keeps handler.failing.result (Call.callListQueryComplete handler message) :=
  keeps_onTypedReply_map fun _ => ⟨rfl, rfl, rfl⟩

theorem keeps_messageListQueryComplete :
    Keeps handler.failing.result (Sms.messageListQueryComplete handler message heap) :=
  keeps_onTypedReply_map fun _ => ⟨rfl, rfl, rfl⟩

theorem keeps_loadAdnEntriesCb :
    Keeps handler.result (Phonebook.loadAdnEntriesCb handler message) := by
  unfold Phonebook.loadAdnEntriesCb
  exact keeps_onReply fun _ => keeps_map fun _ => ⟨rfl, rfl, rfl⟩

theorem keeps_modemActivityInfoQueryDone :
    Keeps handler.result (Manager.modemActivityInfoQueryDone handler message heap) := by
  apply keeps_withCallback
  cases heap.modemActivityInfo with
  | none => exact keeps_ignore
  | some block =>
    refine keeps_fail.ite (keeps_fail.ite ?_)
    cases Iter.getFixedArray message.args with
    | none => exact keeps_none
    | some elements =>
      apply keeps_some
      dsimp only
      split <;> exact ⟨rfl, rfl, rfl⟩

theorem keeps_enableModemAbnormalEventDone :
    Keeps handler.result (Manager.enableModemAbnormalEventDone handler message) := by
  unfold Manager.enableModemAbnormalEventDone
  by_cases hcb : handler.cbFunction = null
  · simp only [if_pos hcb]
    refine Keeps.ite (keeps_some ⟨rfl, rfl, rfl⟩) ?_
    cases Iter.getInt message.args with
    | none => exact keeps_none
    | some n => exact keeps_some ⟨rfl, rfl, rfl⟩
  · simp only [if_neg hcb]
    exact Keeps.ite (keeps_some ⟨rfl, rfl, rfl⟩) (keeps_map fun _ => ⟨rfl, rfl, rfl⟩)

theorem keeps_oemRilRequestStringsCb :
    Keeps handler.result (Manager.oemRilRequestStringsCb handler message) := by
  refine keeps_onReply fun args => ?_
  cases args.recurse with
  | none => exact keeps_none
  | some array =>
    apply keeps_some
    dsimp only
    split <;> exact ⟨rfl, rfl, rfl⟩

theorem keeps_registrationInfoQueryDone :
    Keeps handler.result (Network.registrationInfoQueryDone handler message heap) := by
  unfold Network.registrationInfoQueryDone
  cases heap.registrationInfo with
  | none => exact keeps_ignore
  | some block => exact keeps_onTypedReply fun _ => keeps_map fun _ => ⟨rfl, rfl, rfl⟩

theorem keeps_loadFdnEntriesCb :
    Keeps handler.result (Phonebook.loadFdnEntriesCb handler message heap) := by
  refine keeps_onReply fun args => keeps_bind fun arr => Keeps.ite ?_ ?_
  · exact keeps_map fun _ => ⟨rfl, rfl, rfl⟩
  · exact keeps_some ⟨rfl, rfl, rfl⟩

theorem keeps_callForwardingQueryComplete :
    Keeps handler.result (Ss.callForwardingQueryComplete handler message heap) := by
  unfold Ss.callForwardingQueryComplete
  cases heap.callForwardInfo with
  | none => exact keeps_ignore
  | some block => exact keeps_onReply fun _ => keeps_map fun _ => ⟨rfl, rfl, rfl⟩

theorem keeps_ssInitiateComplete :
    Keeps handler.result (Ss.ssInitiateComplete handler message heap) := by
  refine keeps_onReply fun args => ?_
  cases heap.ssInitiateInfo with
  | none => exact keeps_fail
  | some block =>
    cases Ss.ussdResponse args with
    | none => exact keeps_fail
    | some text => exact keeps_some ⟨rfl, rfl, rfl⟩

theorem keeps_ssSendUssdCb : Keeps handler.result (Ss.ssSendUssdCb handler message) := by
  refine keeps_onReply fun args => ?_
  split
  · exact keeps_some ⟨rfl, rfl, rfl⟩
  · exact keeps_fail

/-- Whatever a reply function does with a record, it still says where it comes from. -/
theorem keeps_run_reply {f : ReplyFunction} :
    Keeps handler.result (f.run handler message heap) := by
  -- one case for each group of functions that share their frame
  cases f with
  | dialCallCallback | sendSmsCallback => exact keeps_onPathReply
  | playDtmfCallback | apnListChanged | enableOrDisableModemDone | networkRegisterCb
  | phonebookMethodCallComplete | simMethodCallComplete | ssMethodCallComplete
  | stkMethodCallComplete | propertySetDone => exact keeps_onStatusReply
  | modemStatusQueryDone | insertFdnRecordCb | openLogicalChannelCb | queryFdnCb
  | queryCallWaitingCb | queryClirCb => exact keeps_onIntReply
  | oemRilRequestRawCb | transmitApduCb => exact keeps_onArrayReply
  | mergeCallComplete | apnListLoaded | dataConnectionListQueryDone | modemListQueryDone =>
    simp only [ReplyFunction.run, Call.mergeCallComplete, Data.apnListLoaded,
      Data.dataConnectionListQueryDone, Manager.modemListQueryDone]
    exact keeps_onTypedReply_map fun _ => ⟨rfl, rfl, rfl⟩
  | callListQueryComplete => exact keeps_callListQueryComplete
  | messageListQueryComplete => exact keeps_messageListQueryComplete
  | cellListRequestComplete | operatorScanComplete =>
    exact keeps_ignore.ite (keeps_onTypedReply_map fun _ => ⟨rfl, rfl, rfl⟩)
  | modemActivityInfoQueryDone => exact keeps_modemActivityInfoQueryDone
  | enableModemAbnormalEventDone => exact keeps_enableModemAbnormalEventDone
  | oemRilRequestStringsCb => exact keeps_oemRilRequestStringsCb
  | registrationInfoQueryDone => exact keeps_registrationInfoQueryDone
  | loadAdnEntriesCb => exact keeps_loadAdnEntriesCb
  | loadFdnEntriesCb => exact keeps_loadFdnEntriesCb
  | callForwardingQueryComplete => exact keeps_callForwardingQueryComplete
  | ssInitiateComplete => exact keeps_ssInitiateComplete
  | ssSendUssdCb => exact keeps_ssSendUssdCb
  | noOperateCallback => exact keeps_ignore

end Replies

/-! ## Origins -/

/-- A call of `tapi_register`, with what its registrars meet. -/
structure Registering where
  context : Option DbusContext
  slotId : ℤ
  msg : IndicationMsg
  userObj : Ptr
  pHandle : Ptr
  first : WatchEnv Payload
  second : WatchEnv Payload

namespace Registering

def register (r : Registering) (cfg : Config) : Option (Registered Payload) :=
  Manager.tapiRegister cfg r.first r.context r.slotId r.msg r.userObj r.pHandle r.second

/-- The block that the record of a watch lies in. The second registrar is the one that watches
the modem for emergency numbers. -/
def block (r : Registering) (w : Watch Payload) : Option (AsyncResult Payload) :=
  if w.spec.function = .modemEccListChange then r.second.result else r.first.result

end Registering

/-- What has asked for a callback. A report of the data log goes to the callback of the last
registration for it. -/
inductive Origin
  | request (o : Outstanding)
  | watch (r : Registering)
  | report (r : Registering)

namespace Origin

/-- The record says where it comes from. -/
def Identifies : Origin → AsyncResult Payload → Prop
  | .request o, ar =>
    ar.msgType = response ∧ (o.request.hasEventId = true → ar.msgId = o.caller.eventId)
  | .watch r, ar | .report r, ar =>
    ar.msgType = indication ∧ ar.msgId = r.msg.value ∧ ar.userObj = r.userObj

/-- The block that `malloc` returned for the record already holds what the library does not
write into it. -/
def FoundIn : Origin → AsyncResult Payload → Prop
  | .request _, block => block.msgType = response
  | .watch r, block => r.msg = .callStateChange → block.msgId = r.msg.value
  | .report r, block =>
    block.msgType = indication ∧ block.msgId = r.msg.value ∧ block.userObj = r.userObj

/-- Only the registrations for other indications than call states do not depend on what the
block holds. -/
theorem forall_foundIn_iff {origin : Origin} :
    (∀ block, origin.FoundIn block) ↔
      ∃ r : Registering, origin = .watch r ∧ r.msg ≠ .callStateChange := by
  constructor
  · intro h
    cases origin with
    | request o => exact absurd (h ⟨0, indication, 0, 0, 0, .null, 0⟩) (by simp [FoundIn, response,
      indication])
    | watch r =>
      -- a block with id 0 does not say that it is about call states
      refine ⟨r, rfl, fun hmsg => ?_⟩
      have hid := h ⟨0, 0, 0, 0, 0, .null, 0⟩ hmsg
      rw [hmsg] at hid
      contradiction
    | report r => exact absurd (h ⟨0, response, 0, 0, 0, .null, 0⟩).1 (by decide)
  · rintro ⟨r, rfl, hne⟩ block hmsg
    exact absurd hmsg hne

end Origin

/-- A callback of the application, with the block that its record lies in. -/
structure Callback where
  origin : Origin
  block : Option (AsyncResult Payload)
  result : AsyncResult Payload

/-- The record tells the application where it comes from. -/
def Callback.Identified (c : Callback) : Prop := c.origin.Identifies c.result

/-- The block of the record already held what the library does not write. -/
def Callback.FoundIn (c : Callback) : Prop :=
  ∃ block, c.block = some block ∧ c.origin.FoundIn block

/-! ## The library -/

/-- A watch of a registration, with the record as it is now. -/
structure LiveWatch where
  registering : Registering
  block : Option (AsyncResult Payload)
  watch : Watch Payload

namespace LiveWatch

/-- The function of the watch gets a message. -/
def serve (w : LiveWatch) (cfg : Config) (message : Message) (heap : Heap) : Option Handling :=
  w.watch.spec.function.run cfg w.watch.spec.interface w.watch.handler message heap

/-- The watch keeps the record as its function has left it. -/
def after (w : LiveWatch) (h : Handling) : LiveWatch :=
  { w with watch := { w.watch with handler := { w.watch.handler with result := h.result } } }

end LiveWatch

/-- The library as one connection uses it: the requests that wait, the watches, and the
registration whose callback gets the reports of the data log. -/
structure Library where
  bus : Bus
  watches : List LiveWatch
  logging : Option Registering

inductive LibraryEvent
  | accept (o : Outstanding)
  | reply (i : ℕ) (message : Message) (heap : Heap)
  | register (r : Registering)
  | unregister (context : Option DbusContext) (watchId : ℤ)
  | signal (k : ℕ) (message : Message) (heap : Heap)
  | report (text : String) (block : AsyncResult Payload)

namespace Library

variable (cfg : Config)

def start : Library := ⟨Bus.start, [], none⟩

/-- The state after a registration. A registration for the data log that succeeds also takes
over the reports. -/
def afterRegister (s : Library) (r : Registering) (reg : Registered Payload) : Library where
  bus := s.bus
  watches := s.watches ++ reg.watches.map fun w => ⟨r, r.block w, w⟩
  logging := if r.msg = .dataLoging ∧ 0 < reg.code then some r else s.logging

/-- The state after `tapi_unregister`. It does not take the reports back. -/
def afterUnregister (s : Library) (context : Option DbusContext) (watchId : ℤ) : Library :=
  let (_, live) := Manager.tapiUnregister context watchId (s.watches.map LiveWatch.watch)
  { s with watches := s.watches.filter fun w => w.watch.id ∈ live.map (·.id) }

/-- The callback with a report, in a record of which only the status and the data are set. -/
def reports (s : Library) (text : String) (block : AsyncResult Payload) : List Callback :=
  match s.logging with
  | some r =>
    if cfg.dataLogOverMiwear ∧ r.pHandle ≠ null then
      [⟨.report r, some block, { block with status := ok, data := .text text }⟩]
    else []
  | none => []

def step : Step Library LibraryEvent Callback
  | s, .accept o =>
    (s.bus.step (.accept o)).map fun (bus, _) => ({ s with bus := bus }, [])
  | s, .reply i message heap =>
    match s.bus.waiting i with
    | none => some (s, [])
    | some o =>
      (o.callbacks i message heap).map fun out =>
        ({ s with bus := s.bus.settle ⟨i, o, message, heap⟩ },
          out.map fun x => ⟨.request o, some o.block, x.result⟩)
  | s, .register r => (r.register cfg).map fun reg => (s.afterRegister r reg, [])
  | s, .unregister context watchId => some (s.afterUnregister context watchId, [])
  | s, .signal k message heap =>
    match s.watches[k]? with
    | none => some (s, [])
    | some w =>
      (w.serve cfg message heap).map fun h =>
        ({ s with watches := s.watches.set k (w.after h) },
          if h.called then [⟨.watch w.registering, w.block, h.result⟩] else [])
  | s, .report text block => some (s, s.reports cfg text block)

end Library

/-! ## What is written into the records -/

section Written

variable {cfg : Config} {s s' : Library} {e : LibraryEvent} {out : List Callback} {c : Callback}

/-- The record of a watch, as its function works with it, holds what the registrar has written
into its block. -/
def LiveWatch.Stamped (w : LiveWatch) : Prop :=
  let ar := (w.watch.spec.function.stamped w.watch.handler).result
  ∃ block, w.block = some block ∧ ar.msgType = indication ∧ ar.userObj = w.registering.userObj ∧
    ar.msgId = if w.registering.msg = .callStateChange then block.msgId
      else w.registering.msg.value

theorem LiveWatch.Stamped.foundIn_iff {w : LiveWatch} (h : w.Stamped) :
    (Origin.watch w.registering).Identifies
        (w.watch.spec.function.stamped w.watch.handler).result ↔
      ∃ block, w.block = some block ∧ (Origin.watch w.registering).FoundIn block := by
  obtain ⟨block, hblock, htype, hobj, hid⟩ := h
  simp only [Origin.Identifies, Origin.FoundIn, htype, hobj, hid, hblock, Option.some.injEq,
    exists_eq_left', true_and, and_true]
  split
  · simp [*]
  · simp [*]

/-- What a function keeps of a record it keeps of the record that it works with. -/
theorem sameOrigin_stamped {f : SignalFunction} {handler : AsyncHandler Payload}
    {ar : AsyncResult Payload} (h : SameOrigin (f.stamped handler).result ar) :
    SameOrigin (f.stamped handler).result (f.stamped { handler with result := ar }).result := by
  cases f with
  | modemEccListChange => exact ⟨rfl, h.2⟩
  | _ => exact h

theorem LiveWatch.Stamped.of_sameOrigin {w w' : LiveWatch} (h : w.Stamped)
    (hreg : w'.registering = w.registering) (hblock : w'.block = w.block)
    (hsame : SameOrigin (w.watch.spec.function.stamped w.watch.handler).result
      (w'.watch.spec.function.stamped w'.watch.handler).result) : w'.Stamped := by
  obtain ⟨block, hfound, htype, hobj, hid⟩ := h
  refine ⟨block, hblock.trans hfound, ?_, ?_, ?_⟩
  · rw [hsame.2.1, htype]
  · rw [hsame.2.2, hobj, hreg]
  · rw [hsame.1, hid, hreg]

theorem LiveWatch.Stamped.after {w : LiveWatch} (h : w.Stamped) {message : Message} {heap : Heap}
    {handling : Handling} (hserve : w.serve cfg message heap = some handling) :
    (w.after handling).Stamped :=
  h.of_sameOrigin rfl rfl (sameOrigin_stamped (SignalFunction.keeps_run handling hserve))

/-- What the registrar of an indication with a single source writes. -/
theorem record_written {msg : IndicationMsg} {slotId : ℤ} {userObj : Ptr}
    {block : AsyncResult Payload} :
    (msg.record slotId userObj block).msgType = indication ∧
      (msg.record slotId userObj block).userObj = userObj ∧
      (msg.record slotId userObj block).msgId =
        if msg = .callStateChange then block.msgId else msg.value := by
  cases msg <;> exact ⟨rfl, rfl, rfl⟩

theorem function_ne_of_signals {msg : IndicationMsg} {path : String} {spec : SignalSpec}
    (h : msg.signals cfg path = [spec]) : spec.function ≠ .modemEccListChange := by
  cases msg
  case eccListChange => simp [IndicationMsg.signals] at h
  all_goals
    first
    | contradiction
    | obtain rfl := List.singleton_injective h.symm
      intro hfunction
      cases hfunction

theorem stamped_of_ne {f : SignalFunction} {handler : AsyncHandler Payload}
    (h : f ≠ .modemEccListChange) : f.stamped handler = handler := by
  cases f <;> first | rfl | contradiction

/-- A granted watch is one with a stamped record. -/
theorem stamped_of_grants {r : Registering} {env : WatchEnv Payload}
    {record : AsyncResult Payload → AsyncResult Payload} {spec : SignalSpec}
    {reg : Registered Payload} (h : Grants env r.context record r.pHandle spec reg)
    (hblock : (if spec.function = .modemEccListChange then r.second else r.first) = env)
    (hrecord : ∀ block cb,
      (⟨r, some block, ⟨0, 0, spec, ⟨record block, cb⟩⟩⟩ : LiveWatch).Stamped) :
    ∀ w ∈ reg.watches, (⟨r, r.block w, w⟩ : LiveWatch).Stamped := by
  intro w hw
  cases h with
  | refused => simp [Registered.refused] at hw
  | @watched ctx block opened result pos =>
    obtain rfl := List.mem_singleton.mp hw
    -- the watch of this registrar lies in the block of its environment
    have hfound : r.block ⟨env.watch, ctx.connection, spec, ⟨record block, r.pHandle⟩⟩ =
        some block := by
      rw [Registering.block, ← apply_ite WatchEnv.result, hblock, result]
    rw [hfound]
    exact hrecord block r.pHandle

/-- All watches of a registration have stamped records. -/
theorem stamped_of_register {r : Registering} {reg : Registered Payload}
    (h : r.register cfg = some reg) :
    ∀ w ∈ reg.watches, (⟨r, r.block w, w⟩ : LiveWatch).Stamped := by
  rcases Manager.registered_of_tapiRegister h with ⟨-, rfl⟩ | ⟨spec, hspec, hgrants⟩ |
    ⟨hmsg, voicecall, modem, r₁, r₂, hsignals, hvoicecall, hmodem, rfl, -⟩
  · simp [Registered.refused]
  · have hne := function_ne_of_signals hspec
    refine stamped_of_grants hgrants (if_neg hne) fun block cb => ?_
    refine ⟨block, rfl, ?_⟩
    dsimp only
    rw [stamped_of_ne hne]
    exact record_written
  · obtain ⟨rfl, rfl⟩ : _ = voicecall ∧ _ = modem := by
      simpa [hmsg, IndicationMsg.signals] using hsignals
    intro w hw
    rcases List.mem_append.mp hw with hw | hw
    · refine stamped_of_grants hvoicecall rfl (fun block cb => ?_) w hw
      exact ⟨block, rfl, rfl, rfl, by rw [hmsg]; rfl⟩
    · -- the record of the modem gets the id of the other list when its function runs
      refine stamped_of_grants hmodem rfl (fun block cb => ?_) w hw
      exact ⟨block, rfl, rfl, rfl, by rw [hmsg]; rfl⟩

/-- A reply function calls back with what the request has written. -/
theorem Outstanding.sameOrigin_of_mem_callbacks {o : Outstanding} {i : ℕ} {message : Message}
    {heap : Heap} {invocations : List Invocation}
    (h : o.callbacks i message heap = some invocations) :
    ∀ x ∈ invocations, SameOrigin o.handler.result x.result := by
  unfold Outstanding.callbacks at h
  cases hf : o.submission.function with
  | none =>
    rw [hf] at h
    cases h
    simp
  | some f =>
    simp only [hf, Option.map_eq_some_iff] at h
    obtain ⟨handling, hrun, rfl⟩ := h
    -- there is at most one callback, and it gets the record of the handling
    have hsame := keeps_run_reply handling hrun
    unfold Handling.invocations
    cases handling.called with
    | false => simp
    | true => simpa using hsame

theorem Outstanding.foundIn_iff {o : Outstanding} {ar : AsyncResult Payload}
    (h : SameOrigin o.handler.result ar) :
    (Origin.request o).Identifies ar ↔ (Origin.request o).FoundIn o.block := by
  have hid : o.request.hasEventId = true → ar.msgId = o.caller.eventId := by
    intro hevent
    rw [h.1, o.stamped.msgId, if_pos hevent]
  simp only [Origin.Identifies, Origin.FoundIn, h.2.1, o.stamped.msgType]
  exact and_iff_left hid

/-! ## Runs -/

/-- All that a reply can do: nothing, if no request waits for it, or the callbacks of its
request. -/
theorem Library.step_reply_cases {i : ℕ} {message : Message} {heap : Heap}
    (hstep : s.step cfg (.reply i message heap) = some (s', out)) :
    (s' = s ∧ out = []) ∨ ∃ (o : Outstanding) (invocations : List Invocation),
      o.callbacks i message heap = some invocations ∧ s'.watches = s.watches ∧
      out = invocations.map fun x => ⟨.request o, some o.block, x.result⟩ := by
  simp only [Library.step] at hstep
  cases hwaiting : s.bus.waiting i with
  | none =>
    simp only [hwaiting] at hstep
    cases hstep
    exact .inl ⟨rfl, rfl⟩
  | some o =>
    simp only [hwaiting, Option.map_eq_some_iff, Prod.mk.injEq] at hstep
    obtain ⟨invocations, hout, rfl, rfl⟩ := hstep
    exact .inr ⟨o, invocations, hout, rfl, rfl⟩

/-- All that a signal can do: nothing, if there is no such watch, or what the function of the watch
does with it. -/
theorem Library.step_signal_cases {k : ℕ} {message : Message} {heap : Heap}
    (hstep : s.step cfg (.signal k message heap) = some (s', out)) :
    (s' = s ∧ out = []) ∨ ∃ w handling, w ∈ s.watches ∧ w.serve cfg message heap = some handling ∧
      s' = { s with watches := s.watches.set k (w.after handling) } ∧
      out = if handling.called then [⟨.watch w.registering, w.block, handling.result⟩] else [] := by
  simp only [Library.step] at hstep
  cases hw : s.watches[k]? with
  | none =>
    simp only [hw] at hstep
    cases hstep
    exact .inl ⟨rfl, rfl⟩
  | some w =>
    simp only [hw, Option.map_eq_some_iff, Prod.mk.injEq] at hstep
    obtain ⟨handling, hserve, rfl, rfl⟩ := hstep
    exact .inr ⟨w, handling, List.mem_of_getElem? hw, hserve, rfl, rfl⟩

/-- The records of all watches hold what their registrars have written. -/
def Library.Stamped (s : Library) : Prop := ∀ w ∈ s.watches, w.Stamped

theorem Library.Stamped.preserved (h : s.Stamped) (hstep : s.step cfg e = some (s', out)) :
    s'.Stamped := by
  cases e with
  | accept o =>
    cases hstep
    exact h
  | reply i message heap =>
    obtain ⟨rfl, -⟩ | ⟨o, invocations, -, hwatches, -⟩ := Library.step_reply_cases hstep
    · exact h
    · rwa [Library.Stamped, hwatches]
  | register r =>
    simp only [Library.step, Option.map_eq_some_iff, Prod.mk.injEq] at hstep
    obtain ⟨reg, hreg, rfl, -⟩ := hstep
    refine List.forall_mem_append.mpr ⟨h, ?_⟩
    simpa using stamped_of_register hreg
  | unregister context watchId =>
    cases hstep
    exact fun w hw => h w (List.mem_of_mem_filter hw)
  | signal k message heap =>
    obtain ⟨rfl, -⟩ | ⟨w, handling, hw, hserve, rfl, -⟩ := Library.step_signal_cases hstep
    · exact h
    · intro v hv
      -- the watch that was served is replaced, the others are as before
      rcases List.mem_or_eq_of_mem_set hv with hv | rfl
      · exact h v hv
      · exact (h w hw).after hserve
  | report text block =>
    cases hstep
    exact h

/-- Whatever calls back, the record identifies its origin exactly if the block of the record
already held what is not written. -/
theorem identified_iff_of_step (h : s.Stamped) (hstep : s.step cfg e = some (s', out)) :
    ∀ c ∈ out, c.Identified ↔ c.FoundIn := by
  intro c hc
  cases e with
  | accept o =>
    cases hstep
    contradiction
  | reply i message heap =>
    obtain ⟨-, rfl⟩ | ⟨o, invocations, hout, -, rfl⟩ := Library.step_reply_cases hstep
    · contradiction
    · obtain ⟨x, hx, rfl⟩ := List.mem_map.mp hc
      have hsame := Outstanding.sameOrigin_of_mem_callbacks hout x hx
      simpa [Callback.Identified, Callback.FoundIn] using Outstanding.foundIn_iff hsame
  | register r =>
    simp only [Library.step, Option.map_eq_some_iff, Prod.mk.injEq] at hstep
    obtain ⟨reg, -, -, rfl⟩ := hstep
    contradiction
  | unregister context watchId =>
    cases hstep
    contradiction
  | signal k message heap =>
    obtain ⟨-, rfl⟩ | ⟨w, handling, hw, hserve, -, rfl⟩ := Library.step_signal_cases hstep
    · contradiction
    · -- the function of the watch has called back once, with the record of its handling
      obtain rfl : c = ⟨.watch w.registering, w.block, handling.result⟩ := by
        split at hc
        · exact List.mem_singleton.mp hc
        · contradiction
      have hsame := SignalFunction.keeps_run handling hserve
      rw [Callback.FoundIn, ← (h w hw).foundIn_iff]
      simp only [Callback.Identified, Origin.Identifies, hsame.1, hsame.2.1, hsame.2.2]
  | report text block =>
    obtain ⟨-, rfl⟩ : s = s' ∧ s.reports cfg text block = out := by
      simpa [Library.step] using hstep
    -- a report has nothing but what its block holds
    unfold Library.reports at hc
    split at hc
    · split at hc
      · obtain rfl := List.mem_singleton.mp hc
        simp [Callback.Identified, Callback.FoundIn, Origin.Identifies, Origin.FoundIn]
      · contradiction
    · contradiction

/-- In every run of requests, registrations, replies, signals and reports, all records identify
their origins exactly if each of them lies in a block that already held what the library does not
write into it. -/
theorem identified_iff_foundIn {es : List LibraryEvent} {r : Library × List Callback}
    (hrun : run (Library.step cfg) Library.start es = some r) :
    (∀ c ∈ r.2, c.Identified) ↔ ∀ c ∈ r.2, c.FoundIn := by
  have hstamped : ∀ v ∈ visits (Library.step cfg) Library.start es, v.1.Stamped := by
    have hstart : Library.Stamped Library.start := by
      intro w hw
      contradiction
    exact forall_visits (fun s e s' out h hstep => h.preserved hstep) hstart
  refine forall₂_congr fun c hc => ?_
  obtain ⟨v, hv, s', out, hstep, hmem⟩ := exists_visit_of_mem_run hrun hc
  exact identified_iff_of_step (hstamped v hv) hstep c hmem

end Written

/-! ## An unmarked call state -/

/-- A registration for call states, in a block that still holds the id of another record. -/
def sampleCallStates : Registering where
  context := some idleContext
  slotId := 0
  msg := .callStateChange
  userObj := 5
  pHandle := 1
  first := ⟨true, some ⟨3, response, 0, 0, 0, .null, 0⟩, 1⟩
  second := ⟨true, none, 0⟩

/-- A call that has just been made. -/
def sampleCallChanged : Message where
  type := .signal
  path := "/ril_0"
  member := "CallChanged"
  args := [.objectPath "/ril_0/voicecall01", dict []]

def sampleSession : List LibraryEvent :=
  [.register sampleCallStates, .signal 0 sampleCallChanged .exhausted]

theorem identified_iff_foundIn_sampleSession :
    ∃ r, run (Library.step twoModems) Library.start sampleSession = some r ∧ r.2.length = 1 ∧
      ((∀ c ∈ r.2, c.Identified) ↔ ∀ c ∈ r.2, c.FoundIn) := by
  have hdelivers : ∃ r, run (Library.step twoModems) Library.start sampleSession = some r ∧
      r.2.length = 1 := ⟨_, rfl, rfl⟩
  obtain ⟨r, hrun, hlength⟩ := hdelivers
  exact ⟨r, hrun, hlength, identified_iff_foundIn hrun⟩

/-- The call is delivered under the id that the block was found with. -/
theorem not_identified_sampleSession :
    ¬ ∀ r, run (Library.step twoModems) Library.start sampleSession = some r →
      ∀ c ∈ r.2, c.Identified := by
  intro h
  have hid := (h _ rfl _ (.head _)).2.1
  contradiction

end Telephony
