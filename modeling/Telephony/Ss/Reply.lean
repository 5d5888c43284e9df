import Telephony.Reply
import Telephony.Strings

/-!
# Replies to supplementary-service requests

## Main definitions

* `Ss.callForwardingQueryComplete`, `Ss.ssInitiateComplete`, … — the reply functions of
  `tapi_ss.c`

## Main results

* `Ss.answers_callForwardingQueryComplete_iff` and its companions — which replies are answered
-/

namespace Telephony.Ss

open DBus

variable {handler : AsyncHandler Payload} {message : Message} {heap : Heap}

def maxPhoneNumberLength : ℕ := 80

/-- The properties that `fill_cf_condition_info` knows. -/
def cfConditionProperties : PropertyTable CallForwardInfo :=
  [("Status", .int fun n cf => { cf with status := n }),
    ("Cls", .int fun n cf => { cf with cls := n }),
    ("Number", .text fun s cf =>
      { cf with number := strcpyWithin maxPhoneNumberLength cf.number s }),
    ("Time", .int fun n cf => { cf with time := n })]

/-! ## Reply functions -/

/-- `method_call_complete`. -/
def methodCallComplete (handler : AsyncHandler Payload) (message : Message) : Option Handling :=
  onStatusReply handler message

/-- `call_forwarding_query_complete`. The block is asked for before the message is looked at,
and it is not cleared. -/
def callForwardingQueryComplete (handler : AsyncHandler Payload) (message : Message)
    (heap : Heap) : Option Handling :=
  match heap.callForwardInfo with
  | none => some (ignore handler.result)
  | some block =>
    onReply handler message fun args ar =>
      (args.recurse.bind fun list => cfConditionProperties.readAll list block).map fun cf =>
        deliver { ar with status := ok, data := .callForwardInfo cf }

/-- The text of a USSD response: the name of the service, and a variant that holds a text. -/
def ussdResponse : Iter → Option String
  | .string name :: .variant (.string text) :: _ => if name = "USSD" then some text else none
  | _ => none

/-- `ss_initiate_complete`. -/
def ssInitiateComplete (handler : AsyncHandler Payload) (message : Message) (heap : Heap) :
    Option Handling :=
  onReply handler message fun args ar =>
    match heap.ssInitiateInfo, ussdResponse args with
    | some block, some text =>
      some (deliver { ar with
        data := .ssInitiateInfo { block with ussdResponse := .text text }
        status := ok })
    | _, _ => some (fail ar)

/-- `ss_send_ussd_cb`. -/
def ssSendUssdCb (handler : AsyncHandler Payload) (message : Message) : Option Handling :=
  onReply handler message fun args ar =>
    match args with
    | .string response :: _ => some (deliver { ar with data := .text response, status := ok })
    | _ => some (fail ar)

/-- `query_fdn_cb`. -/
def queryFdnCb (handler : AsyncHandler Payload) (message : Message) : Option Handling :=
  onIntReply handler message

/-- `query_call_waiting_cb`. -/
def queryCallWaitingCb (handler : AsyncHandler Payload) (message : Message) : Option Handling :=
  onIntReply handler message

/-- `query_clir_cb`. -/
def queryClirCb (handler : AsyncHandler Payload) (message : Message) : Option Handling :=
  onIntReply handler message

/-! ## Which replies are answered -/

/-- There is a block for the answer, and it can be filled from the argument of a method
return. -/
theorem answers_callForwardingQueryComplete_iff (hcb : handler.cbFunction ≠ null) :
    Answers message handler.result (callForwardingQueryComplete handler message heap) ↔
      heap.callForwardInfo.isSome = true ∧ (message.isError = false → message.args ≠ [] →
        message.args.recurse.any cfConditionProperties.readsAll = true) := by
  unfold callForwardingQueryComplete
  cases heap.callForwardInfo with
  | none => simp
  | some block =>
    simp only [Option.isSome_some, true_and]
    refine Iff.trans (answers_onReply_decode_iff hcb fun _ _ => ⟨rfl, rfl, rfl⟩) ?_
    refine forall₂_congr fun _ _ => ?_
    cases message.args.recurse <;> simp

theorem answers_ssInitiateComplete (hcb : handler.cbFunction ≠ null) :
    Answers message handler.result (ssInitiateComplete handler message heap) := by
  refine (answers_onReply_iff hcb).mpr fun hreply _ => ?_
  split
  · exact answers_deliver ⟨rfl, rfl, rfl⟩ hreply
  · exact answers_fail

theorem answers_ssSendUssdCb (hcb : handler.cbFunction ≠ null) :
    Answers message handler.result (ssSendUssdCb handler message) := by
  refine (answers_onReply_iff hcb).mpr fun hreply _ => ?_
  split
  · exact answers_deliver ⟨rfl, rfl, rfl⟩ hreply
  · exact answers_fail

end Telephony.Ss
