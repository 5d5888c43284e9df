import Telephony.Submission

/-!
# Message requests

## Main definitions

* `Sms.tapiSmsSendMessage`, `Sms.tapiSmsSendDataMessage`, … — the requests of `tapi_sms.c`, with
  the setup functions that build their messages
-/

namespace Telephony.Sms

open DBus Ledger

variable (cfg : Config) (context : Option DbusContext) (slotId eventId : ℤ) (pHandle : Ptr)

/-! ## Blocks with texts -/

/-- What `strdup0` leaves in the `i`-th text field of a block. -/
def strdup0 (granted : Block → Bool) (i : ℕ) (s : CString) : CString :=
  if granted (.text i) then s else .null

/-- `message_free` and `data_message_free`. -/
def messageFree : List (Op Block) :=
  [.use .params, .free (.text 0), .use .params, .free (.text 1), .free .params]

/-- `message_info_free`. -/
def messageInfoFree : List (Op Block) :=
  [.use .params, .free (.text 0), .use .params, .free (.text 1), .use .params, .free (.text 2),
    .free .params]

/-- The blocks of a message: the message with two texts, then a record, then a handler. The
message itself is reported with a code of its own. -/
def messageThenHandler (code : ℤ) : List (Step Block) :=
  [.alloc .params [] code, .copy (.text 0), .copy (.text 1),
    .alloc .result messageFree (-enomem),
    .alloc .handler (messageFree ++ [.free .result]) (-enomem)]

/-! ## Setup functions -/

/-- What `send_message_param_append` and `send_data_message_param_append` do once they have
read the first text: they read the second, and free the message. -/
def afterFirstText : List (Op Block) :=
  [.use (.text 0), .use .params, .use (.text 1)] ++ messageFree

/-- `send_message_param_append`. -/
def sendMessageParamAppend : UserData → Setup :=
  readingParams
    (fun
      | .message number text => [.text .string number, .text .string text]
      | _ => [])
    afterFirstText

/-- `send_data_message_param_append`. -/
def sendDataMessageParamAppend : UserData → Setup :=
  readingParams
    (fun
      | .dataMessage destAddr port data =>
        [.text .string destAddr, .value (.uint32 port), .text .string data]
      | _ => [])
    afterFirstText

/-- `copy_message_param_append`. -/
def copyMessageParamAppend : UserData → Setup :=
  readingBlock
    (fun
      | .messageInfo info =>
        [.text .string info.sender, .text .string info.text, .value (.int32 info.smsType),
          .text .string info.sentTime]
      | _ => [])
    [.use .params, .use (.text 1), .use .params, .use (.text 0), .use .params, .use (.text 2)]

/-! ## Requests -/

/-- The record of a message: the number that the application has given it is kept too. -/
def stampMessage (smsId : ℤ) (ar : AsyncResult Payload) : AsyncResult Payload :=
  { stamp eventId slotId ar with arg2 := smsId }

/-- `tapi_sms_send_message`. -/
def tapiSmsSendMessage (smsId : ℤ) (number text : CString) : Except ℤ Submission :=
  withProxy cfg context slotId .sms (unlessInvalid (number.isSet && text.isSet)) <|
    consumedRequest (messageThenHandler (-einval)) (.method "SendMessage")
      (fun granted => .message (strdup0 granted 0 number) (strdup0 granted 1 text))
      (stampMessage slotId eventId smsId) pHandle sendMessageParamAppend .sendSmsCallback
      (handlerFree ++ messageFree)

/-- `tapi_sms_send_data_message`. -/
def tapiSmsSendDataMessage (smsId : ℤ) (destAddr : CString) (port : ℤ) (text : CString) :
    Except ℤ Submission :=
  withProxy cfg context slotId .sms (unlessInvalid (destAddr.isSet && text.isSet)) <|
    consumedRequest (messageThenHandler (-enomem)) (.method "SendDataMessage")
      (fun granted => .dataMessage (strdup0 granted 0 destAddr) port (strdup0 granted 1 text))
      (stampMessage slotId eventId smsId) pHandle sendDataMessageParamAppend .sendSmsCallback
      (handlerFree ++ messageFree)

/-- `tapi_sms_get_all_messages_from_sim`. It has no event id, and asks the call proxy. -/
def tapiSmsGetAllMessagesFromSim (list : Option (List MessageInfo)) : Except ℤ Submission :=
  withProxy cfg context slotId .call unchecked <|
    plainRequest handlerThenResult (.method "GetAllMessagesFromSim")
      (fun ar => { ar with arg1 := slotId, data := list.elim .null .messageList }) pHandle
      (fun _ => {}) (some .messageListQueryComplete)

/-- `tapi_sms_copy_message_to_sim`. Nothing handles its reply. -/
def tapiSmsCopyMessageToSim (number text sendTime : CString) (type : ℤ) :
    Except ℤ Submission :=
  withProxy cfg context slotId .sms
    (unlessInvalid (number.isSet && text.isSet && sendTime.isSet)) <|
    paramsRequest
      [.alloc .params [] (-enomem), .copy (.text 0), .copy (.text 1), .copy (.text 2)]
      (.method "InsertMessageToSim")
      (fun granted => .messageInfo
        { text := strdup0 granted 0 text
          sender := strdup0 granted 1 number
          sentTime := strdup0 granted 2 sendTime
          localSentTime := .null
          smsType := type })
      copyMessageParamAppend none messageInfoFree

end Telephony.Sms
