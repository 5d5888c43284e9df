import Telephony.Call.Request
import Telephony.Data.Request
import Telephony.Manager.Request
import Telephony.Network.Request
import Telephony.Phonebook.Request
import Telephony.Sim.Request
import Telephony.Sms.Request
import Telephony.Ss.Request
import Telephony.Stk.Request

/-!
# The requests of the library

## Main definitions

* `Telephony.Request` — the functions that allocate blocks for the bus library
* `Telephony.Caller` — what they are called with, and what they meet
* `Telephony.Request.submit` — what a request hands over, or the code that it returns at once
* `Telephony.Request.function`, `Telephony.Request.hasCallback` — the reply function of a
  request, and whether it takes a callback

## Main results

* `Telephony.Request.function_of_submit`, `Telephony.Request.stamped_of_submit` — what a request
  that has been handed over looks like
-/

namespace Telephony

open DBus Ledger

/-- The functions of the library that allocate blocks and hand them to the bus library. -/
inductive Request
  | dial (number : String) (hideCallerid : ℤ)
  | startDtmf (digit : ℤ)
  | stopDtmf
  | getAllCalls
  | mergeCall
  | separateCall (callId : CString)
  | deflect (callId number : CString)
  | dialConference (participants : List String) (size : ℤ)
  | inviteParticipants (participants : List String) (size : ℤ)
  | loadApnContexts
  | addApnContext (apn : Option DataContext)
  | removeApnContext (apn : Option DataContext)
  | editApnContext (apn : Option DataContext)
  | resetApnContexts
  | getDataConnectionList
  | setDataAllow (allowed : Bool)
  | queryModemList
  | setPrefNetMode (mode : ℤ)
  | setRadioPower (state : Bool)
  | setFastDormancy (state : Bool)
  | getModemActivityInfo
  | enableModem (enable : Bool)
  | getModemStatus
  | oemRilRequestRaw (oemReq : Option (List ℤ)) (length : ℤ)
  | oemRilRequestStrings (oemReq : Option (List String)) (length : ℤ)
  | enableModemAbnormalEvent (enable : Bool) (moduleMask fromEventId toEventId : ℤ)
  | selectAuto
  | selectManual (network : Option OperatorInfo)
  | scan
  | getServingCellinfos
  | getNeighbouringCellinfos
  | getRegistrationInfo
  | setCellInfoListRate (period : ℤ)
  | loadAdnEntries
  | loadFdnEntries
  | insertFdnEntry (foundIdx : ℤ) (name number pin2 : CString)
  | deleteFdnEntry (fdnIdx : ℤ) (pin2 : CString)
  | updateFdnEntry (fdnIdx : ℤ) (newName newNumber pin2 : CString)
  | changePin (pinType oldPin newPin : CString)
  | enterPin (pinType pin : CString)
  | resetPin (pukType puk newPin : CString)
  | lockPin (pinType pin : CString)
  | unlockPin (pinType pin : CString)
  | openLogicalChannel (foundSession : ℤ) (aid : Option (List ℤ)) (len : ℤ)
  | closeLogicalChannel (sessionId : ℤ)
  | transmitApduLogicalChannel (sessionId : ℤ) (pdu : Option (List ℤ)) (len : ℤ)
  | transmitApduBasicChannel (foundSession : ℤ) (pdu : Option (List ℤ)) (len : ℤ)
  | setUiccEnablement (state : ℤ)
  | sendMessage (smsId : ℤ) (number text : CString)
  | sendDataMessage (smsId : ℤ) (destAddr : CString) (port : ℤ) (text : CString)
  | getAllMessagesFromSim (list : Option (List MessageInfo))
  | copyMessageToSim (number text sendTime : CString) (type : ℤ)
  | initiateService (command : CString)
  | requestCallBarring
  | setCallBarringOption (facility pin2 : CString)
  | changeCallBarringPassword (oldPasswd newPasswd : CString)
  | disableAllCallBarrings (passwd : CString)
  | disableAllIncoming (passwd : CString)
  | disableAllOutgoing (passwd : CString)
  | queryCallForwardingOption (option cls : ℤ)
  | setCallForwardingOption (option cls : ℤ) (number : CString)
  | sendUssd (reply : CString)
  | cancelUssd
  | setCallWaiting (enable : Bool)
  | getCallWaiting
  | setCallingLineRestriction (state : ℤ)
  | getCallingLineRestrictionInfo
  | enableFdn (enable : Bool) (passwd : CString)
  | queryFdn
  | stkAgentRegister (agentId : CString)
  | stkAgentUnregister (agentId : CString)
  | stkDefaultAgentRegister
  | stkDefaultAgentUnregister
  | stkSelectItem (item : ℤ) (agentId : CString)
  deriving DecidableEq, Repr

/-- What all requests are called with, and what the SIM proxy says about the card. -/
structure Caller where
  cfg : Config
  context : Option DbusContext
  slotId : ℤ
  eventId : ℤ
  pHandle : Ptr
  present : Option Bool

namespace Request

open Call Data Manager Network Phonebook Sim Sms Ss Stk

/-- What the request hands over, or the code that it returns before it allocates anything. -/
def submit (r : Request) (c : Caller) : Option (Except ℤ Submission) :=
  let ⟨cfg, context, slot, event, pHandle, present⟩ := c
  match r with
  | .dial number hideCallerid =>
    some (tapiCallDial cfg context slot event pHandle number hideCallerid)
  | .startDtmf digit => some (tapiCallStartDtmf cfg context slot event pHandle digit)
  | .stopDtmf => some (tapiCallStopDtmf cfg context slot event pHandle)
  | .getAllCalls => some (tapiCallGetAllCalls cfg context slot event pHandle)
  | .mergeCall => some (tapiCallMergeCall cfg context slot event pHandle)
  | .separateCall callId => some (tapiCallSeparateCall cfg context slot event pHandle callId)
  | .deflect callId number => some (tapiCallDeflectById cfg context slot callId number)
  | .dialConference participants size =>
    some (.ok (tapiCallDialConferece cfg context slot participants size))
  | .inviteParticipants participants size =>
    some (.ok (tapiCallInviteParticipants cfg context slot participants size))
  | .loadApnContexts => some (tapiDataLoadApnContexts cfg context slot event pHandle)
  | .addApnContext apn => some (tapiDataAddApnContext cfg context slot event pHandle apn)
  | .removeApnContext apn => some (tapiDataRemoveApnContext cfg context slot event pHandle apn)
  | .editApnContext apn => some (tapiDataEditApnContext cfg context slot event pHandle apn)
  | .resetApnContexts => some (tapiDataResetApnContexts cfg context slot event pHandle)
  | .getDataConnectionList =>
    some (tapiDataGetDataConnectionList cfg context slot event pHandle)
  | .setDataAllow allowed => some (tapiDataSetDataAllow cfg context slot event pHandle allowed)
  | .queryModemList => tapiQueryModemList context event pHandle
  | .setPrefNetMode mode => some (tapiSetPrefNetMode cfg context slot event pHandle mode)
  | .setRadioPower state => some (tapiSetRadioPower cfg context slot event pHandle state)
  | .setFastDormancy state => some (tapiSetFastDormancy cfg context slot event pHandle state)
  | .getModemActivityInfo => some (tapiGetModemActivityInfo cfg context slot event pHandle)
  | .enableModem enable => some (tapiEnableModem cfg context slot event pHandle enable)
  | .getModemStatus => some (tapiGetModemStatus cfg context slot event pHandle)
  | .oemRilRequestRaw oemReq length =>
    some (tapiInvokeOemRilRequestRaw cfg context slot event pHandle oemReq length)
  | .oemRilRequestStrings oemReq length =>
    some (tapiInvokeOemRilRequestStrings cfg context slot event pHandle oemReq length)
  | .enableModemAbnormalEvent enable moduleMask fromEventId toEventId =>
    some (tapiEnableModemAbnormalEvent cfg context slot event pHandle enable moduleMask
      fromEventId toEventId)
  | .selectAuto => some (tapiNetworkSelectAuto cfg context slot event pHandle)
  | .selectManual network =>
    some (tapiNetworkSelectManual cfg context slot event pHandle network)
  | .scan => some (tapiNetworkScan cfg context slot event pHandle)
  | .getServingCellinfos =>
    some (tapiNetworkGetServingCellinfos cfg context slot event pHandle)
  | .getNeighbouringCellinfos =>
    some (tapiNetworkGetNeighbouringCellinfos cfg context slot event pHandle)
  | .getRegistrationInfo =>
    some (tapiNetworkGetRegistrationInfo cfg context slot event pHandle)
  | .setCellInfoListRate period =>
    some (tapiNetworkSetCellInfoListRate cfg context slot event pHandle period)
  | .loadAdnEntries => some (tapiPhonebookLoadAdnEntries cfg context slot event pHandle)
  | .loadFdnEntries => some (tapiPhonebookLoadFdnEntries cfg context slot event pHandle)
  | .insertFdnEntry foundIdx name number pin2 =>
    some (tapiPhonebookInsertFdnEntry cfg context slot event pHandle foundIdx name number pin2)
  | .deleteFdnEntry fdnIdx pin2 =>
    some (tapiPhonebookDeleteFdnEntry cfg context slot event pHandle fdnIdx pin2)
  | .updateFdnEntry fdnIdx newName newNumber pin2 =>
    some (tapiPhonebookUpdateFdnEntry cfg context slot event pHandle fdnIdx newName newNumber
      pin2)
  | .changePin pinType oldPin newPin =>
    some (tapiSimChangePin cfg context slot event pHandle present pinType oldPin newPin)
  | .enterPin pinType pin =>
    some (tapiSimEnterPin cfg context slot event pHandle present pinType pin)
  | .resetPin pukType puk newPin =>
    some (tapiSimResetPin cfg context slot event pHandle present pukType puk newPin)
  | .lockPin pinType pin =>
    some (tapiSimLockPin cfg context slot event pHandle present pinType pin)
  | .unlockPin pinType pin =>
    some (tapiSimUnlockPin cfg context slot event pHandle present pinType pin)
  | .openLogicalChannel foundSession aid len =>
    some (tapiSimOpenLogicalChannel cfg context slot event pHandle present foundSession aid len)
  | .closeLogicalChannel sessionId =>
    some (tapiSimCloseLogicalChannel cfg context slot event pHandle present sessionId)
  | .transmitApduLogicalChannel sessionId pdu len =>
    some (tapiSimTransmitApduLogicalChannel cfg context slot event pHandle present sessionId
      pdu len)
  | .transmitApduBasicChannel foundSession pdu len =>
    some (tapiSimTransmitApduBasicChannel cfg context slot event pHandle present foundSession
      pdu len)
  | .setUiccEnablement state =>
    some (tapiSimSetUiccEnablement cfg context slot event pHandle present state)
  | .sendMessage smsId number text =>
    some (tapiSmsSendMessage cfg context slot event pHandle smsId number text)
  | .sendDataMessage smsId destAddr port text =>
    some (tapiSmsSendDataMessage cfg context slot event pHandle smsId destAddr port text)
  | .getAllMessagesFromSim list =>
    some (tapiSmsGetAllMessagesFromSim cfg context slot pHandle list)
  | .copyMessageToSim number text sendTime type =>
    some (tapiSmsCopyMessageToSim cfg context slot number text sendTime type)
  | .initiateService command =>
    some (tapiSsInitiateService cfg context slot event pHandle command)
  | .requestCallBarring => some (tapiSsRequestCallBarring cfg context slot event pHandle)
  | .setCallBarringOption facility pin2 =>
    some (tapiSsSetCallBarringOption cfg context slot event pHandle facility pin2)
  | .changeCallBarringPassword oldPasswd newPasswd =>
    some (tapiSsChangeCallBarringPassword cfg context slot event pHandle oldPasswd newPasswd)
  | .disableAllCallBarrings passwd =>
    some (tapiSsDisableAllCallBarrings cfg context slot event pHandle passwd)
  | .disableAllIncoming passwd =>
    some (tapiSsDisableAllIncoming cfg context slot event pHandle passwd)
  | .disableAllOutgoing passwd =>
    some (tapiSsDisableAllOutgoing cfg context slot event pHandle passwd)
  | .queryCallForwardingOption option cls =>
    some (tapiSsQueryCallForwardingOption cfg context slot event pHandle option cls)
  | .setCallForwardingOption option cls number =>
    some (tapiSsSetCallForwardingOption cfg context slot event pHandle option cls number)
  | .sendUssd reply => some (tapiSsSendUssd cfg context slot event pHandle reply)
  | .cancelUssd => some (tapiSsCancelUssd cfg context slot event pHandle)
  | .setCallWaiting enable => some (tapiSsSetCallWaiting cfg context slot event pHandle enable)
  | .getCallWaiting => some (tapiSsGetCallWaiting cfg context slot event pHandle)
  | .setCallingLineRestriction state =>
    some (tapiSsSetCallingLineRestriction cfg context slot event pHandle state)
  | .getCallingLineRestrictionInfo =>
    some (tapiSsGetCallingLineRestrictionInfo cfg context slot event pHandle)
  | .enableFdn enable passwd =>
    some (tapiSsEnableFdn cfg context slot event pHandle enable passwd)
  | .queryFdn => some (tapiSsQueryFdn cfg context slot event pHandle)
  | .stkAgentRegister agentId =>
    some (tapiStkAgentRegister cfg context slot event pHandle agentId)
  | .stkAgentUnregister agentId =>
    some (tapiStkAgentUnregister cfg context slot event pHandle agentId)
  | .stkDefaultAgentRegister => some (tapiStkDefaultAgentRegister cfg context slot event pHandle)
  | .stkDefaultAgentUnregister =>
    some (tapiStkDefaultAgentUnregister cfg context slot event pHandle)
  | .stkSelectItem item agentId =>
    some (tapiStkSelectItem cfg context slot event pHandle item agentId)

/-- The function that the request names for its reply. -/
def function : Request → Option ReplyFunction
  | .dial _ _ => some .dialCallCallback
  | .startDtmf _ | .stopDtmf => some .playDtmfCallback
  | .getAllCalls => some .callListQueryComplete
  | .mergeCall | .separateCall _ => some .mergeCallComplete
  | .deflect _ _ | .dialConference _ _ | .inviteParticipants _ _ => some .noOperateCallback
  | .loadApnContexts => some .apnListLoaded
  | .addApnContext _ | .removeApnContext _ | .editApnContext _ | .resetApnContexts =>
    some .apnListChanged
  | .getDataConnectionList => some .dataConnectionListQueryDone
  | .setDataAllow _ | .setPrefNetMode _ | .setRadioPower _ | .setFastDormancy _
  | .setUiccEnablement _ => some .propertySetDone
  | .queryModemList => some .modemListQueryDone
  | .getModemActivityInfo => some .modemActivityInfoQueryDone
  | .enableModem _ => some .enableOrDisableModemDone
  | .getModemStatus => some .modemStatusQueryDone
  | .oemRilRequestRaw _ _ => some .oemRilRequestRawCb
  | .oemRilRequestStrings _ _ => some .oemRilRequestStringsCb
  | .enableModemAbnormalEvent _ _ _ _ => some .enableModemAbnormalEventDone
  | .selectAuto | .selectManual _ => some .networkRegisterCb
  | .scan => some .operatorScanComplete
  | .getServingCellinfos | .getNeighbouringCellinfos => some .cellListRequestComplete
  | .getRegistrationInfo => some .registrationInfoQueryDone
  | .setCellInfoListRate _ | .copyMessageToSim _ _ _ _ => none
  | .loadAdnEntries => some .loadAdnEntriesCb
  | .loadFdnEntries => some .loadFdnEntriesCb
  | .insertFdnEntry _ _ _ _ => some .insertFdnRecordCb
  | .deleteFdnEntry _ _ | .updateFdnEntry _ _ _ _ => some .phonebookMethodCallComplete
  | .changePin _ _ _ | .enterPin _ _ | .resetPin _ _ _ | .lockPin _ _ | .unlockPin _ _
  | .closeLogicalChannel _ => some .simMethodCallComplete
  | .openLogicalChannel _ _ _ => some .openLogicalChannelCb
  | .transmitApduLogicalChannel _ _ _ | .transmitApduBasicChannel _ _ _ => some .transmitApduCb
  | .sendMessage _ _ _ | .sendDataMessage _ _ _ _ => some .sendSmsCallback
  | .getAllMessagesFromSim _ => some .messageListQueryComplete
  | .initiateService _ => some .ssInitiateComplete
  | .requestCallBarring | .setCallBarringOption _ _ | .changeCallBarringPassword _ _
  | .disableAllCallBarrings _ | .disableAllIncoming _ | .disableAllOutgoing _
  | .setCallForwardingOption _ _ _ | .cancelUssd | .setCallWaiting _
  | .setCallingLineRestriction _ | .enableFdn _ _ => some .ssMethodCallComplete
  | .queryCallForwardingOption _ _ => some .callForwardingQueryComplete
  | .sendUssd _ => some .ssSendUssdCb
  | .getCallWaiting => some .queryCallWaitingCb
  | .getCallingLineRestrictionInfo => some .queryClirCb
  | .queryFdn => some .queryFdnCb
  | .stkAgentRegister _ | .stkAgentUnregister _ | .stkDefaultAgentRegister
  | .stkDefaultAgentUnregister | .stkSelectItem _ _ => some .stkMethodCallComplete

/-- The request takes a callback. -/
def hasCallback : Request → Bool
  | .deflect _ _ | .dialConference _ _ | .inviteParticipants _ _ | .copyMessageToSim _ _ _ _ =>
    false
  | _ => true

/-- The request takes an event id. -/
def hasEventId : Request → Bool
  | .getAllMessagesFromSim _ => false
  | r => r.hasCallback

/-! ## What is handed over -/

section Checks

variable {cfg : Config} {context : Option DbusContext} {slotId : ℤ} {type : ProxyType}
  {check : DbusContext → Option ℤ} {submission : Ptr → Submission}

theorem withProxy_of_valid {ctx : DbusContext} (hcontext : context = some ctx)
    (hslot : isValidSlotid cfg slotId = true) (hcheck : check ctx = none)
    (hproxy : ctx.dbusProxy slotId.toNat type ≠ null) :
    withProxy cfg context slotId type check submission =
      .ok (submission (ctx.dbusProxy slotId.toNat type)) := by
  simp [withProxy, hcontext, hslot, hcheck, hproxy]

/-- A request that passes has a context, a slot, its own check and a proxy behind it. The others
return the code of a check. -/
theorem withProxy_cases (cfg : Config) (context : Option DbusContext) (slotId : ℤ)
    (type : ProxyType) (check : DbusContext → Option ℤ) (submission : Ptr → Submission) :
    (∃ ctx, context = some ctx ∧ isValidSlotid cfg slotId = true ∧ check ctx = none ∧
      ctx.dbusProxy slotId.toNat type ≠ null ∧
        withProxy cfg context slotId type check submission =
          .ok (submission (ctx.dbusProxy slotId.toNat type))) ∨
      ∃ code, withProxy cfg context slotId type check submission = .error code ∧
        (code = -einval ∨ code = -eio ∨ ∃ ctx, check ctx = some code) := by
  cases context with
  | none => exact .inr ⟨-einval, rfl, .inl rfl⟩
  | some ctx =>
    cases hslot : isValidSlotid cfg slotId with
    | false => exact .inr ⟨-einval, by simp [withProxy, hslot], .inl rfl⟩
    | true =>
      cases hcheck : check ctx with
      | some code =>
        exact .inr ⟨code, by simp [withProxy, hslot, hcheck], .inr (.inr ⟨ctx, hcheck⟩)⟩
      | none =>
        by_cases hproxy : ctx.dbusProxy slotId.toNat type = null
        · exact .inr ⟨-eio, by simp [withProxy, hslot, hcheck, hproxy], .inr (.inl rfl)⟩
        · exact .inl ⟨ctx, rfl, rfl, hcheck, hproxy, withProxy_of_valid rfl hslot hcheck hproxy⟩

end Checks

/-- What holds whatever the proxy is holds of a request that passes the checks. -/
theorem of_withProxy {p : Submission → Prop} {cfg : Config} {context : Option DbusContext}
    {slotId : ℤ} {type : ProxyType} (check : DbusContext → Option ℤ)
    {submission : Ptr → Submission} {s : Submission}
    (h : withProxy cfg context slotId type check submission = .ok s)
    (hp : ∀ proxy, p (submission proxy)) : p s := by
  obtain ⟨ctx, -, -, -, -, hpasses⟩ | ⟨code, hfails, -⟩ :=
    withProxy_cases cfg context slotId type check submission
  · obtain rfl := Except.ok.inj (hpasses.symm.trans h)
    exact hp _
  · rw [hfails] at h
    contradiction

/-- A request that does not pass the checks returns a negative code. -/
theorem neg_of_withProxy {cfg : Config} {context : Option DbusContext} {slotId code : ℤ}
    {type : ProxyType} {check : DbusContext → Option ℤ} {submission : Ptr → Submission}
    (hcheck : ∀ ctx code, check ctx = some code → code < 0)
    (h : withProxy cfg context slotId type check submission = .error code) : code < 0 := by
  obtain ⟨ctx, -, -, -, -, hpasses⟩ | ⟨failed, hfails, hcode⟩ :=
    withProxy_cases cfg context slotId type check submission
  · rw [hpasses] at h
    contradiction
  · obtain rfl := Except.error.inj (hfails.symm.trans h)
    rcases hcode with rfl | rfl | ⟨ctx, hfailed⟩
    · decide
    · decide
    · exact hcheck ctx _ hfailed

theorem neg_of_unlessInvalid {valid : Bool} (ctx : DbusContext) (code : ℤ)
    (h : unlessInvalid valid ctx = some code) : code < 0 := by
  cases valid with
  | true => contradiction
  | false =>
    cases h
    decide

/-- The checks of a conference may fail when its block has been allocated. -/
theorem of_managerConference {p : Submission → Prop} {cfg : Config}
    {context : Option DbusContext} {slotId : ℤ} {member : String} {participants : List String}
    {size : ℤ}
    (hp : ∀ checks proxy, (checks = [] ∨ ∃ code, checks = [.check false [.free .params] code]) →
      p (paramsRequest (.alloc .params [] (-enomem) :: checks) (.method member)
        (fun _ => .imsConference size participants) conferenceParamAppend
        (some .noOperateCallback) [.free .params] proxy)) :
    p (managerConference cfg context slotId member participants size) := by
  unfold managerConference
  dsimp only
  split
  · rename_i submission h
    exact of_withProxy _ h fun proxy => hp [] proxy (.inl rfl)
  · rename_i code h
    exact hp _ null (.inr ⟨code, rfl⟩)

/-- The list of modems is asked for without a slot. -/
theorem of_tapiQueryModemList {p : Submission → Prop} {context : Option DbusContext}
    {eventId : ℤ} {pHandle : Ptr} {s : Submission}
    (h : tapiQueryModemList context eventId pHandle = some (.ok s))
    (hp : ∀ proxy, p (plainRequest handlerThenResult (.method "GetModems")
      (fun ar => { ar with msgId := eventId }) pHandle (fun _ => {}) (some .modemListQueryDone)
      proxy)) : p s := by
  cases context with
  | none => contradiction
  | some ctx =>
    have h : (if ctx.dbusProxyManager = null then _ else _) = _ := Option.some.inj h
    split at h
    · contradiction
    · cases h
      exact hp _

section Submitted

variable {r : Request} {c : Caller} {s : Submission}

theorem of_stopDtmf {p : Submission → Prop} (h : stopDtmf.submit c = some (.ok s))
    (hp : ∀ proxy, p (consumedRequest paramsThenHandler (.method "PlayDtmf")
      (fun _ => .callDtmf 0 stopPlayDtmf) (stamp c.eventId c.slotId) c.pHandle dtmfParamAppend
      .playDtmfCallback ([.free .params] ++ handlerFree) proxy)) : p s := by
  have h : callPlayDtmf c.cfg c.context c.slotId c.eventId c.pHandle 0 stopPlayDtmf = .ok s :=
    Option.some.inj h
  exact of_withProxy _ h hp

/-- Whatever the arguments are, a request names the same function for its reply. -/
theorem function_of_submit (h : r.submit c = some (.ok s)) : s.function = r.function := by
  cases r with
  | dialConference participants size | inviteParticipants participants size =>
    cases Option.some.inj h
    exact of_managerConference (p := (·.function = _)) fun _ _ _ => rfl
  | queryModemList => exact of_tapiQueryModemList (p := (·.function = _)) h fun _ => rfl
  | stopDtmf => exact of_stopDtmf (p := (·.function = _)) h fun _ => rfl
  | getModemActivityInfo | enableModem _ | getModemStatus | selectAuto | scan
  | getServingCellinfos | getNeighbouringCellinfos | requestCallBarring | cancelUssd | queryFdn =>
    exact of_withProxy (p := (·.function = _)) unchecked (Option.some.inj h) fun _ => rfl
  | _ => exact of_withProxy (p := (·.function = _)) _ (Option.some.inj h) fun _ => rfl

/-- What a request writes into the record that it has allocated. -/
structure Stamped (r : Request) (c : Caller) (block : AsyncResult Payload)
    (handler : AsyncHandler Payload) : Prop where
  cbFunction : handler.cbFunction = c.pHandle
  msgType : handler.result.msgType = block.msgType
  userObj : handler.result.userObj = block.userObj
  msgId : handler.result.msgId = if r.hasEventId then c.eventId else block.msgId
  data : r.function = some .registrationInfoQueryDone → handler.result.data = .context

theorem stamped_of_submit (hcb : r.hasCallback = true) (h : r.submit c = some (.ok s))
    (granted : Block → Bool) (block : AsyncResult Payload) :
    ∃ handler, s.userData granted block = .handler handler ∧ r.Stamped c block handler := by
  let p (s : Submission) : Prop :=
    ∃ handler, s.userData granted block = .handler handler ∧ r.Stamped c block handler
  cases r with
  | deflect _ _ | dialConference _ _ | inviteParticipants _ _ | copyMessageToSim _ _ _ _ =>
    contradiction
  | queryModemList =>
    exact of_tapiQueryModemList (p := p) h fun _ => ⟨_, rfl, rfl, rfl, rfl, rfl, nofun⟩
  | stopDtmf => exact of_stopDtmf (p := p) h fun _ => ⟨_, rfl, rfl, rfl, rfl, rfl, nofun⟩
  -- the one request that writes its context into the record
  | getRegistrationInfo =>
    exact of_withProxy (p := p) _ (Option.some.inj h) fun _ =>
      ⟨_, rfl, rfl, rfl, rfl, rfl, fun _ => rfl⟩
  | getModemActivityInfo | enableModem _ | getModemStatus | selectAuto | scan
  | getServingCellinfos | getNeighbouringCellinfos | requestCallBarring | cancelUssd | queryFdn =>
    exact of_withProxy (p := p) unchecked (Option.some.inj h) fun _ =>
      ⟨_, rfl, rfl, rfl, rfl, rfl, nofun⟩
  | _ =>
    exact of_withProxy (p := p) _ (Option.some.inj h) fun _ =>
      ⟨_, rfl, rfl, rfl, rfl, rfl, nofun⟩

end Submitted

/-! ## Samples -/

/-- An application that asks for something on the first slot, with a card in it. -/
def sampleCaller : Caller where
  cfg := twoModems
  context := some idleContext
  slotId := 0
  eventId := 7
  pHandle := 1
  present := some true

/-- The content of a block that has just been allocated. -/
def sampleBlock : AsyncResult Payload := ⟨0, 0, 0, 0, 0, .null, 0⟩

end Request

end Telephony
