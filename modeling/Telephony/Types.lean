import Mathlib.Data.Int.Notation
import Mathlib.Data.Nat.Notation

/-!
# Common types of the telephony library

Return codes, the indication ids, and the record that the library hands to an application
callback.

## Main definitions

* `Telephony.IndicationMsg` — the ids of `tapi_indication_msg`
* `Telephony.AsyncResult` — `tapi_async_result`, over the type of what `data` designates
* `Telephony.AsyncHandler` — `tapi_async_handler`: a record with its callback
-/

namespace Telephony

/-! ## Return codes -/

/-- A machine word used as an address. -/
abbrev Ptr := ℕ

def null : Ptr := 0

def ok : ℤ := 0
def error : ℤ := -1

def eio : ℤ := 5
def eagain : ℤ := 11
def enomem : ℤ := 12
def einval : ℤ := 22

/-! ## Indications -/

/-- `tapi_indication_msg`. -/
inductive IndicationMsg
  | radioStateChange | phoneStateChange | oemHookRaw | modemRestart | deviceInfoChange
  | airplaneModeChange
  | callAddMessage | callRemoveMessage | callForwardedMessage | callBarringActiveMessage
  | callPropertyChangedMessage | callDisconnectedReasonMessage | callMerge | callSeperate
  | callStateChange | callRingBackTone | eccListChange | defaultVoicecallSlotChange
  | networkStateChange | voiceRegistrationStateChange | cellinfoChange | signalStrengthChange
  | nitzStateChange
  | dataEnabledChange | dataRegistrationStateChange | dataNetworkTypeChange
  | dataConnectionStateChange | defaultDataSlotChange
  | simStateChange | simUiccAppEnabledChange | simIccidChange
  | stkAgentDisplayText | stkAgentRequestDigit | stkAgentRequestKey
  | stkAgentRequestConfirmation | stkAgentRequestInput | stkAgentRequestDigits
  | stkAgentPlayTone | stkAgentLoopTone | stkAgentRequestSelection
  | stkAgentRequestQuickDigit | stkAgentConfirmCallSetup
  | stkAgentDisplayActionInformation | stkAgentConfirmLaunchBrowser
  | stkAgentDisplayAction | stkAgentConfirmOpenChannel | stkAgentRelease | stkAgentCancel
  | incomingMessage | immediateMessage | statusReportMessage | defaultSmsSlotChanged
  | incomingCbs | emergencyCbs
  | callBarringPropertyChange | ussdNotificationReceived | ussdRequestReceived
  | ussdPropertyChange
  | imsRegistrationMessage
  | modemStateChange
  | dataLoging
  | modemEccListChange
  | indMask
  | indUserCustomFirst
  deriving DecidableEq, Repr

/-- The number of an indication. The enumeration is consecutive, with
`MSG_MODEM_ECC_LIST_CHANGE_IND` at 61. -/
def IndicationMsg.value (msg : IndicationMsg) : ℤ := msg.ctorIdx

theorem IndicationMsg.value_inj {msg msg' : IndicationMsg} :
    msg.value = msg'.value ↔ msg = msg' := by
  refine ⟨fun h => ?_, congrArg value⟩
  have hidx : msg.ctorIdx = msg'.ctorIdx := Int.ofNat.inj h
  rw [← IndicationMsg.ofNat_ctorIdx msg, hidx, IndicationMsg.ofNat_ctorIdx]

/-- `RESPONSE` and `INDICATION` of `tapi_message_type`. -/
def response : ℤ := 0
def indication : ℤ := 1

/-! ## Records -/

/-- `tapi_async_result`. The type `δ` is what the `data` pointer may designate. -/
structure AsyncResult (δ : Type) where
  msgId : ℤ
  msgType : ℤ
  status : ℤ
  arg1 : ℤ
  arg2 : ℤ
  data : δ
  userObj : Ptr
  deriving DecidableEq, Repr

/-- `tapi_async_handler`: a record together with the application callback it is for. The
functions of the library store a record that they have just allocated, so there is always
one; the callback may be NULL. -/
structure AsyncHandler (δ : Type) where
  result : AsyncResult δ
  cbFunction : Ptr
  deriving DecidableEq, Repr

end Telephony
