import Telephony.Call.Reply
import Telephony.Data.Reply
import Telephony.Manager.Reply
import Telephony.Network.Reply
import Telephony.Phonebook.Reply
import Telephony.Sim.Reply
import Telephony.Sms.Reply
import Telephony.Ss.Reply

/-!
# The reply functions of the library

Every asynchronous request names the function that is to be invoked with its reply.

## Main definitions

* `Telephony.ReplyFunction` — the functions that requests name
* `Telephony.ReplyFunction.run` — what a function does with a reply
* `Telephony.ReplyFunction.Answerable` — the replies that a function answers
* `Telephony.ReplyFunction.newData` — the content of a reply that replaces the data of a record

## Main results

* `Telephony.ReplyFunction.answers_run_iff` — a reply is answered exactly if it is answerable
* `Telephony.ReplyFunction.shows_after`, `Telephony.ReplyFunction.data_after_of_keeps` — the
  functions that requests with a parameter block name always call back, and what they show
-/

namespace Telephony

open DBus

/-- `property_set_done`. What it gets is only whether the reply is an error. -/
def propertySetDone (handler : AsyncHandler Payload) (message : Message) : Option Handling :=
  onStatusReply handler message

/-- `no_operate_callback`. -/
def noOperateCallback (handler : AsyncHandler Payload) : Option Handling :=
  some (ignore handler.result)

namespace Stk

/-- `method_call_complete`. -/
def methodCallComplete (handler : AsyncHandler Payload) (message : Message) : Option Handling :=
  onStatusReply handler message

end Stk

/-- The functions that requests name. Four files have a `method_call_complete` of their own. -/
inductive ReplyFunction
  | dialCallCallback | playDtmfCallback | mergeCallComplete | callListQueryComplete
  | apnListLoaded | apnListChanged | dataConnectionListQueryDone
  | modemListQueryDone | modemActivityInfoQueryDone | enableOrDisableModemDone
  | enableModemAbnormalEventDone | modemStatusQueryDone
  | oemRilRequestRawCb | oemRilRequestStringsCb
  | networkRegisterCb | cellListRequestComplete | registrationInfoQueryDone
  | operatorScanComplete
  | loadAdnEntriesCb | loadFdnEntriesCb | insertFdnRecordCb | phonebookMethodCallComplete
  | simMethodCallComplete | openLogicalChannelCb | transmitApduCb
  | sendSmsCallback | messageListQueryComplete
  | ssMethodCallComplete | callForwardingQueryComplete | ssInitiateComplete | ssSendUssdCb
  | queryFdnCb | queryCallWaitingCb | queryClirCb
  | stkMethodCallComplete
  | propertySetDone
  | noOperateCallback
  deriving DecidableEq, Repr

namespace ReplyFunction

variable {handler : AsyncHandler Payload} {message : Message} {heap : Heap} {f : ReplyFunction}

/-- The function, applied to a handler and a reply. -/
def run (f : ReplyFunction) (handler : AsyncHandler Payload) (message : Message)
    (heap : Heap) : Option Handling :=
  match f with
  | .dialCallCallback => Call.dialCallCallback handler message
  | .playDtmfCallback => Call.playDtmfCallback handler message
  | .mergeCallComplete => Call.mergeCallComplete handler message
  | .callListQueryComplete => Call.callListQueryComplete handler message
  | .apnListLoaded => Data.apnListLoaded handler message heap
  | .apnListChanged => Data.apnListChanged handler message
  | .dataConnectionListQueryDone => Data.dataConnectionListQueryDone handler message heap
  | .modemListQueryDone => Manager.modemListQueryDone handler message
  | .modemActivityInfoQueryDone => Manager.modemActivityInfoQueryDone handler message heap
  | .enableOrDisableModemDone => Manager.enableOrDisableModemDone handler message
  | .enableModemAbnormalEventDone => Manager.enableModemAbnormalEventDone handler message
  | .modemStatusQueryDone => Manager.modemStatusQueryDone handler message
  | .oemRilRequestRawCb => Manager.oemRilRequestRawCb handler message
  | .oemRilRequestStringsCb => Manager.oemRilRequestStringsCb handler message
  | .networkRegisterCb => Network.networkRegisterCb handler message
  | .cellListRequestComplete => Network.cellListRequestComplete handler message heap
  | .registrationInfoQueryDone => Network.registrationInfoQueryDone handler message heap
  | .operatorScanComplete => Network.operatorScanComplete handler message heap
  | .loadAdnEntriesCb => Phonebook.loadAdnEntriesCb handler message
  | .loadFdnEntriesCb => Phonebook.loadFdnEntriesCb handler message heap
  | .insertFdnRecordCb => Phonebook.insertFdnRecordCb handler message
  | .phonebookMethodCallComplete => Phonebook.methodCallComplete handler message
  | .simMethodCallComplete => Sim.methodCallComplete handler message
  | .openLogicalChannelCb => Sim.openLogicalChannelCb handler message
  | .transmitApduCb => Sim.transmitApduCb handler message
  | .sendSmsCallback => Sms.sendSmsCallback handler message
  | .messageListQueryComplete => Sms.messageListQueryComplete handler message heap
  | .ssMethodCallComplete => Ss.methodCallComplete handler message
  | .callForwardingQueryComplete => Ss.callForwardingQueryComplete handler message heap
  | .ssInitiateComplete => Ss.ssInitiateComplete handler message heap
  | .ssSendUssdCb => Ss.ssSendUssdCb handler message
  | .queryFdnCb => Ss.queryFdnCb handler message
  | .queryCallWaitingCb => Ss.queryCallWaitingCb handler message
  | .queryClirCb => Ss.queryClirCb handler message
  | .stkMethodCallComplete => Stk.methodCallComplete handler message
  | .propertySetDone => Telephony.propertySetDone handler message
  | .noOperateCallback => Telephony.noOperateCallback handler

/-! ## Which replies are answered -/

/-- A method return that carries anything starts with an argument of the kind that is read. -/
def StartsWith (message : Message) (kind : Iter → Bool) : Prop :=
  message.isError = false → message.args ≠ [] → kind message.args = true

/-- The replies that a function answers, given the blocks that it gets. -/
def Answerable (f : ReplyFunction) (message : Message) (heap : Heap) : Prop :=
  match f with
  | .callListQueryComplete => message.isError = false → Call.ReadableCallList message
  | .apnListLoaded => message.isError = false → Data.ReadableApnList heap message
  | .dataConnectionListQueryDone =>
    message.isError = false → Data.ReadableConnectionList heap message
  | .modemActivityInfoQueryDone =>
    heap.modemActivityInfo.isSome = true ∧ StartsWith message Iter.isFixedArray
  | .enableModemAbnormalEventDone => message.isError = false → message.args.isInt = true
  | .modemStatusQueryDone | .insertFdnRecordCb | .openLogicalChannelCb | .queryFdnCb
  | .queryCallWaitingCb | .queryClirCb => StartsWith message Iter.isInt
  | .oemRilRequestRawCb | .transmitApduCb => StartsWith message Iter.isFixedArray
  | .oemRilRequestStringsCb => StartsWith message Iter.isContainer
  | .cellListRequestComplete => message.isError = false ∧ Network.ReadableCells heap message
  | .registrationInfoQueryDone =>
    ∃ block, heap.registrationInfo = some block ∧
      (message.isError = false → Network.ReadableRegistration heap block message)
  | .operatorScanComplete => message.isError = false
  | .loadAdnEntriesCb => StartsWith message Iter.isText
  | .loadFdnEntriesCb => StartsWith message Phonebook.readsFdnEntries
  | .messageListQueryComplete => message.isError = false → Sms.ReadableMessageList message
  | .callForwardingQueryComplete =>
    heap.callForwardInfo.isSome = true ∧
      StartsWith message fun args => args.recurse.any Ss.cfConditionProperties.readsAll
  | .noOperateCallback => False
  | _ => True

/-- A reply is answered exactly if it is answerable. Only the registration asks for what its
request has left in the record. -/
theorem answers_run_iff (hcb : handler.cbFunction ≠ null)
    (hdata : f = .registrationInfoQueryDone → handler.result.data = .context) :
    Answers message handler.result (f.run handler message heap) ↔ f.Answerable message heap := by
  cases f with
  | dialCallCallback | sendSmsCallback => exact iff_true_intro (answers_onPathReply hcb)
  | mergeCallComplete => exact iff_true_intro (Call.answers_mergeCallComplete hcb)
  | callListQueryComplete => exact Call.answers_callListQueryComplete_iff hcb
  | apnListLoaded => exact Data.answers_apnListLoaded_iff hcb
  | dataConnectionListQueryDone => exact Data.answers_dataConnectionListQueryDone_iff hcb
  | modemListQueryDone => exact iff_true_intro (Manager.answers_modemListQueryDone hcb)
  | modemActivityInfoQueryDone => exact Manager.answers_modemActivityInfoQueryDone_iff hcb
  | enableModemAbnormalEventDone => exact Manager.answers_enableModemAbnormalEventDone_iff hcb
  | modemStatusQueryDone | insertFdnRecordCb | openLogicalChannelCb | queryFdnCb
  | queryCallWaitingCb | queryClirCb => exact answers_onIntReply_iff hcb
  | oemRilRequestRawCb | transmitApduCb => exact answers_onArrayReply_iff hcb
  | oemRilRequestStringsCb => exact Manager.answers_oemRilRequestStringsCb_iff hcb
  | cellListRequestComplete => exact Network.answers_cellListRequestComplete_iff hcb
  | registrationInfoQueryDone =>
    exact Network.answers_registrationInfoQueryDone_iff hcb (hdata rfl)
  | operatorScanComplete => exact Network.answers_operatorScanComplete_iff hcb
  | loadAdnEntriesCb => exact Phonebook.answers_loadAdnEntriesCb_iff hcb
  | loadFdnEntriesCb => exact Phonebook.answers_loadFdnEntriesCb_iff hcb
  | messageListQueryComplete => exact Sms.answers_messageListQueryComplete_iff hcb
  | callForwardingQueryComplete => exact Ss.answers_callForwardingQueryComplete_iff hcb
  | ssInitiateComplete => exact iff_true_intro (Ss.answers_ssInitiateComplete hcb)
  | ssSendUssdCb => exact iff_true_intro (Ss.answers_ssSendUssdCb hcb)
  | playDtmfCallback | apnListChanged | enableOrDisableModemDone | networkRegisterCb
  | phonebookMethodCallComplete | simMethodCallComplete | ssMethodCallComplete
  | stkMethodCallComplete | propertySetDone =>
    exact iff_true_intro (answers_onStatusReply hcb)
  | noOperateCallback => exact iff_false_intro not_answers_ignore

/-! ## What becomes of the data -/

/-- The function, also on a reply that it cannot take apart. What it reads then is not
determined, but it calls back, and the data is the one that the record has had. -/
def after (f : ReplyFunction) (handler : AsyncHandler Payload) (message : Message)
    (heap : Heap) : Handling :=
  (f.run handler message heap).getD ⟨handler.result, handler.cbFunction ≠ null⟩

/-- The functions that are named by requests with a parameter block. -/
def takesParams : ReplyFunction → Bool
  | .dialCallCallback | .playDtmfCallback | .sendSmsCallback
  | .oemRilRequestRawCb | .oemRilRequestStringsCb | .enableModemAbnormalEventDone
  | .openLogicalChannelCb | .transmitApduCb | .insertFdnRecordCb
  | .phonebookMethodCallComplete | .simMethodCallComplete | .ssMethodCallComplete
  | .stkMethodCallComplete => true
  | _ => false

/-- The path at the head of a reply. -/
def pathData : Iter → Option Payload
  | .objectPath path :: _ => some (.text path)
  | _ => none

/-- The elements of the array at the head of a reply. -/
def arrayData (args : Iter) : Option Payload := args.getFixedArray.map .bytes

/-- The strings at the head of a container, unless they are too many. -/
def stringsData (args : Iter) : Option Payload :=
  args.recurse.bind fun array =>
    if (Manager.leadingStrings array).length > Manager.maxOemRilRespStringsLenth then none
    else some (.texts (Manager.leadingStrings array))

/-- What the arguments of a method return put in the place of the data. -/
def argsData (f : ReplyFunction) (args : Iter) : Option Payload :=
  match f with
  | .dialCallCallback | .sendSmsCallback => pathData args
  | .oemRilRequestRawCb | .transmitApduCb => arrayData args
  | .oemRilRequestStringsCb => stringsData args
  | _ => none

/-- What a reply puts in the place of the data. -/
def newData (f : ReplyFunction) (message : Message) : Option Payload :=
  if message.isError then none else f.argsData message.args

section Data

theorem isSome_pathData_iff {args : Iter} :
    (pathData args).isSome = true ↔ ∃ path rest, args = .objectPath path :: rest := by
  unfold pathData
  split
  · simp
  · rename_i hother
    simpa using hother

variable {undecoded : Handling}

/-- The outcome is delivered, and the data is the given one. -/
def Shows (data : Payload) (h : Handling) : Prop := h.called = true ∧ h.result.data = data

theorem shows_onStatusReply (hcb : handler.cbFunction ≠ null) :
    Shows handler.result.data ((onStatusReply handler message).getD undecoded) := by
  rw [onStatusReply, withCallback_of_ne hcb]
  cases message.isError <;> exact ⟨rfl, rfl⟩

theorem shows_onReply (hcb : handler.cbFunction ≠ null) (data : Iter → Option Payload)
    {body : Iter → AsyncResult Payload → Option Handling} (hnil : data [] = none)
    (hbody : Shows ((data message.args).getD handler.result.data)
      ((body message.args handler.result).getD undecoded)) :
    Shows ((if message.isError then none else data message.args).getD handler.result.data)
      ((onReply handler message body).getD undecoded) := by
  rw [onReply, withCallback_of_ne hcb]
  cases message.isError with
  | true => exact ⟨rfl, rfl⟩
  | false =>
    by_cases hargs : message.args = []
    · have hfail : Shows handler.result.data (fail handler.result) := ⟨rfl, rfl⟩
      simpa [hargs, hnil] using hfail
    · simpa [hargs] using hbody

theorem shows_onPathReply (hcb : handler.cbFunction ≠ null) :
    Shows ((if message.isError then none else pathData message.args).getD handler.result.data)
      ((onPathReply handler message).getD undecoded) := by
  cases herr : message.isError with
  | true =>
    rw [onPathReply_of_failed hcb (.inl herr)]
    exact ⟨rfl, rfl⟩
  | false =>
    -- a path takes the place of the data, and anything else leaves it
    by_cases hpath : ∃ path rest, message.args = .objectPath path :: rest
    · obtain ⟨path, rest, hargs⟩ := hpath
      rw [onPathReply_of_path hcb herr hargs, hargs]
      exact ⟨rfl, rfl⟩
    · have hdata : pathData message.args = none := by
        rwa [← Option.not_isSome_iff_eq_none, isSome_pathData_iff]
      rw [hdata]
      by_cases hargs : message.args = []
      · rw [onPathReply_of_failed hcb (.inr hargs)]
        exact ⟨rfl, rfl⟩
      · have hother : ∀ path rest, message.args ≠ .objectPath path :: rest :=
          fun path rest h => hpath ⟨path, rest, h⟩
        rw [onPathReply_of_other hcb herr hargs hother]
        exact ⟨rfl, rfl⟩

variable (hundecoded : Shows handler.result.data undecoded)

include hundecoded

theorem shows_onIntReply (hcb : handler.cbFunction ≠ null) :
    Shows handler.result.data ((onIntReply handler message).getD undecoded) := by
  have hshows : Shows ((if message.isError then none else none).getD handler.result.data)
      ((onIntReply handler message).getD undecoded) := by
    apply shows_onReply hcb (fun _ => none) rfl
    cases Iter.getInt message.args with
    | none => exact hundecoded
    | some n => exact ⟨rfl, rfl⟩
  rwa [ite_self] at hshows

theorem shows_onArrayReply (hcb : handler.cbFunction ≠ null) :
    Shows ((if message.isError then none else arrayData message.args).getD handler.result.data)
      ((onArrayReply handler message).getD undecoded) := by
  apply shows_onReply hcb arrayData rfl
  unfold arrayData
  cases Iter.getFixedArray message.args with
  | none => exact hundecoded
  | some response => exact ⟨rfl, rfl⟩

theorem shows_oemRilRequestStringsCb (hcb : handler.cbFunction ≠ null) :
    Shows ((if message.isError then none else stringsData message.args).getD handler.result.data)
      ((Manager.oemRilRequestStringsCb handler message).getD undecoded) := by
  apply shows_onReply hcb stringsData rfl
  unfold stringsData
  cases Iter.recurse message.args with
  | none => exact hundecoded
  | some array =>
    simp only [Option.map_some, Option.bind_some, Option.getD_some]
    split <;> exact ⟨rfl, rfl⟩

theorem shows_enableModemAbnormalEventDone (hcb : handler.cbFunction ≠ null) :
    Shows handler.result.data
      ((Manager.enableModemAbnormalEventDone handler message).getD undecoded) := by
  simp only [Manager.enableModemAbnormalEventDone, if_neg hcb]
  cases message.isError with
  | true => exact ⟨rfl, rfl⟩
  | false =>
    cases Iter.getInt message.args with
    | none => exact hundecoded
    | some n => exact ⟨rfl, rfl⟩

end Data

/-- A method return whose content replaces the data: a path, an array, or a container with no
more strings than there is room for. -/
def Replaces (f : ReplyFunction) (message : Message) : Prop :=
  message.isError = false ∧
    match f with
    | .dialCallCallback | .sendSmsCallback =>
      ∃ path rest, message.args = .objectPath path :: rest
    | .oemRilRequestRawCb | .transmitApduCb => message.args.isFixedArray = true
    | .oemRilRequestStringsCb =>
      ∃ array, message.args.recurse = some array ∧
        (Manager.leadingStrings array).length ≤ Manager.maxOemRilRespStringsLenth
    | _ => False

theorem isSome_stringsData_iff {args : Iter} :
    (stringsData args).isSome = true ↔ ∃ array, args.recurse = some array ∧
      (Manager.leadingStrings array).length ≤ Manager.maxOemRilRespStringsLenth := by
  unfold stringsData
  cases args.recurse with
  | none => simp
  | some array =>
    by_cases hmany :
        (Manager.leadingStrings array).length > Manager.maxOemRilRespStringsLenth
    · simp [hmany]
    · simpa [hmany] using Nat.not_lt.mp hmany

theorem isSome_newData_iff : (f.newData message).isSome = true ↔ f.Replaces message := by
  unfold newData Replaces
  cases message.isError with
  | true => simp
  | false =>
    simp only [Bool.false_eq_true, if_false, true_and]
    cases f with
    | dialCallCallback | sendSmsCallback => exact isSome_pathData_iff
    | oemRilRequestRawCb | transmitApduCb => simp [argsData, arrayData]
    | oemRilRequestStringsCb => exact isSome_stringsData_iff
    | _ => simp [argsData]

/-- What a reply brings is not a parameter block. -/
theorem newData_ne_params {data : Payload} (h : f.newData message = some data)
    (params : Params) : data ≠ .params params := by
  rintro rfl
  unfold newData at h
  split at h
  · contradiction
  · cases f with
    | dialCallCallback | sendSmsCallback =>
      simp only [argsData, pathData] at h
      split at h <;> cases h
    | oemRilRequestRawCb | transmitApduCb => simp [argsData, arrayData] at h
    | oemRilRequestStringsCb =>
      obtain ⟨array, -, htexts⟩ := Option.bind_eq_some_iff.mp h
      split at htexts <;> cases htexts
    | _ => contradiction

theorem newData_of_keeps (h : ∀ args, f.argsData args = none) : f.newData message = none := by
  rw [newData, h, ite_self]

/-- Nothing is delivered, and the data is the given one. -/
def Silent (data : Payload) (h : Handling) : Prop := h.called = false ∧ h.result.data = data

/-- All but one of these functions start with the check for a callback. -/
theorem run_of_null (hf : f.takesParams = true) (hne : f ≠ .enableModemAbnormalEventDone)
    (hcb : handler.cbFunction = null) :
    f.run handler message heap = some (ignore handler.result) := by
  cases f with
  | enableModemAbnormalEventDone => exact absurd rfl hne
  | dialCallCallback | sendSmsCallback | oemRilRequestRawCb | transmitApduCb
  | oemRilRequestStringsCb | openLogicalChannelCb | insertFdnRecordCb | playDtmfCallback
  | phonebookMethodCallComplete | simMethodCallComplete | ssMethodCallComplete
  | stkMethodCallComplete => exact if_pos hcb
  | _ => contradiction

/-- Without a callback the data stays. -/
theorem silent_after (hf : f.takesParams = true) (hcb : handler.cbFunction = null) :
    Silent handler.result.data (f.after handler message heap) := by
  by_cases hne : f = .enableModemAbnormalEventDone
  · subst hne
    simp only [after, run, Manager.enableModemAbnormalEventDone, if_pos hcb]
    cases message.isError with
    | true => exact ⟨rfl, rfl⟩
    | false =>
      cases Iter.getInt message.args with
      | none => exact ⟨by simpa using hcb, rfl⟩
      | some n => exact ⟨rfl, rfl⟩
  · rw [after, run_of_null hf hne hcb]
    exact ⟨rfl, rfl⟩

/-- What the callback gets to see of the data. -/
theorem shows_after (hf : f.takesParams = true) (hcb : handler.cbFunction ≠ null) :
    Shows ((f.newData message).getD handler.result.data) (f.after handler message heap) := by
  have hundecoded : Shows handler.result.data
      ⟨handler.result, handler.cbFunction ≠ null⟩ := ⟨by simpa using hcb, rfl⟩
  cases f with
  | dialCallCallback | sendSmsCallback => exact shows_onPathReply hcb
  | oemRilRequestRawCb | transmitApduCb => exact shows_onArrayReply hundecoded hcb
  | oemRilRequestStringsCb => exact shows_oemRilRequestStringsCb hundecoded hcb
  | enableModemAbnormalEventDone =>
    rw [newData_of_keeps fun _ => rfl]
    exact shows_enableModemAbnormalEventDone hundecoded hcb
  | openLogicalChannelCb | insertFdnRecordCb =>
    rw [newData_of_keeps fun _ => rfl]
    exact shows_onIntReply hundecoded hcb
  -- what takes nothing from the reply shows the old data
  | playDtmfCallback | phonebookMethodCallComplete | simMethodCallComplete
  | ssMethodCallComplete | stkMethodCallComplete =>
    rw [newData_of_keeps fun _ => rfl]
    exact shows_onStatusReply hcb
  | _ => contradiction

/-- A function that takes nothing from a reply leaves the data to the destroy function. -/
theorem data_after_of_keeps (hf : f.takesParams = true) (h : ∀ args, f.argsData args = none) :
    (f.after handler message heap).result.data = handler.result.data := by
  by_cases hcb : handler.cbFunction = null
  · exact (silent_after hf hcb).2
  · have hshows : Shows ((f.newData message).getD handler.result.data)
        (f.after handler message heap) := shows_after hf hcb
    rw [newData_of_keeps h, Option.getD_none] at hshows
    exact hshows.2

end ReplyFunction

end Telephony
