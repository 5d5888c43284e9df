import Telephony.Reply

/-!
# Replies to message requests, and message signals

## Main definitions

* `Sms.sendSmsCallback`, `Sms.messageListQueryComplete` — the reply functions of `tapi_sms.c`
* `Sms.unsolSmsMessage` — the handler of incoming messages and status reports

## Main results

* `Sms.answers_messageListQueryComplete_iff` — which replies are answered
* `Sms.unsolSmsMessage_of_report` and its companions — what a signal leaves in the record
-/

namespace Telephony.Sms

open DBus

variable {handler : AsyncHandler Payload} {message : Message} {heap : Heap}

def maxMessageListCount : ℕ := 200

/-! ## Reply functions -/

/-- `send_sms_callback`, for texts and for data: the path is the one of the new message. -/
def sendSmsCallback (handler : AsyncHandler Payload) (message : Message) : Option Handling :=
  onPathReply handler message

/-- The properties that `decode_message_info` knows. -/
def messageInfoProperties (strdup0 : String → CString) : PropertyTable MessageInfo :=
  [("Type", .int fun n info => { info with smsType := n }),
    ("To", .text fun s info => { info with sender := strdup0 s }),
    ("Text", .text fun s info => { info with text := strdup0 s }),
    ("Date", .text fun s info =>
      { info with sentTime := strdup0 s, localSentTime := strdup0 s })]

/-- `decode_message_info`, into a place of the array. -/
def decodeMessageInfo (heap : Heap) (iter : Iter) (messageInfo : MessageInfo) :
    Option MessageInfo :=
  iter.next.recurse.bind fun properties =>
    (messageInfoProperties heap.copy).readAll properties messageInfo

/-- The loop of `message_list_query_complete` over the messages of a reply. -/
def decodeMessageList (heap : Heap) (args : Iter) : Option (List MessageInfo) :=
  args.recurse.bind fun list =>
    collectUnchecked (fun i fields => decodeMessageInfo heap fields (heap.messageList i))
      maxMessageListCount list []

/-- `message_list_query_complete`. -/
def messageListQueryComplete (handler : AsyncHandler Payload) (message : Message)
    (heap : Heap) : Option Handling :=
  onTypedReply handler.failing message [.pathDicts] fun args ar =>
    (decodeMessageList heap args).map fun messages =>
      deliver { ar with arg2 := messages.length, status := ok, data := .messageList messages }

/-- A message with properties of the types that they are read as. -/
def readsMessage (iter : Iter) : Bool :=
  iter.next.recurse.any (messageInfoProperties .text).readsAll

theorem reads_messageInfoProperties (strdup0 : String → CString) :
    (messageInfoProperties strdup0).reads = (messageInfoProperties .text).reads := by
  funext key value
  simp only [PropertyTable.reads, messageInfoProperties, List.lookup_cons,
    List.lookup_nil]
  cases key == "Type" <;> cases key == "To" <;> cases key == "Text" <;>
    cases key == "Date" <;> rfl

theorem isSome_decodeMessageInfo (iter : Iter) (messageInfo : MessageInfo) :
    (decodeMessageInfo heap iter messageInfo).isSome = readsMessage iter := by
  unfold decodeMessageInfo readsMessage
  cases iter.next.recurse with
  | none => rfl
  | some properties =>
    simp [PropertyTable.readsAll, reads_messageInfoProperties]

/-- A list of messages that `message_list_query_complete` can take: no longer than its array,
each message with properties of the types that it reads. -/
def ReadableMessageList (message : Message) : Prop :=
  ∀ ps, message.args = [pathDicts ps] →
    ps.length ≤ maxMessageListCount ∧ ∀ p ∈ ps, readsMessage [.objectPath p.1, dict p.2] = true

theorem answers_messageListQueryComplete_iff (hcb : handler.cbFunction ≠ null) :
    Answers message handler.result (messageListQueryComplete handler message heap) ↔
      (message.isError = false → ReadableMessageList message) := by
  have hcb' : handler.failing.cbFunction ≠ null := hcb
  rw [sameOrigin_failing.answers_iff]
  refine Iff.trans (answers_onTypedReply_decode_iff hcb' fun _ _ => ⟨rfl, rfl, rfl⟩) ?_
  refine forall_congr' fun _ => ?_
  rw [Message.forall_pathDicts_iff fun args => (decodeMessageList heap args).isSome = true]
  refine forall₂_congr fun ps _ => ?_
  have hdecode : ∀ (i : ℕ) fields,
      (decodeMessageInfo heap fields (heap.messageList i)).isSome = readsMessage fields :=
    fun i fields => isSome_decodeMessageInfo fields (heap.messageList i)
  have hloop := isSome_collectUnchecked_iff hdecode ps [] (Nat.zero_le maxMessageListCount)
  rw [List.length_nil, Nat.zero_add] at hloop
  exact hloop

/-! ## Signals -/

/-- The content of a `char*` location that any basic value has been read into. -/
def basicCString : Iter → CString
  | .text _ s :: _ => .text s
  | _ => .wild

/-- The entries of an incoming message. Each value is read once before its key is looked at. -/
def fillMessageInfo (key : String) (value : Iter) (info : MessageInfo) : Option MessageInfo :=
  if !value.isBasic then none
  else if key = "LocalSentTime" then some { info with localSentTime := basicCString value }
  else if key = "SentTime" then some { info with sentTime := basicCString value }
  else if key = "Sender" then some { info with sender := basicCString value }
  else some info

theorem isSome_fillMessageInfo (key : String) (value : Iter) (info : MessageInfo) :
    (fillMessageInfo key value info).isSome = value.isBasic := by
  unfold fillMessageInfo
  cases value.isBasic with
  | false => rfl
  | true =>
    by_cases hlocal : key = "LocalSentTime"
    · simp [hlocal]
    by_cases hsent : key = "SentTime"
    · simp [hsent]
    by_cases hsender : key = "Sender"
    · simp [hsender]
    simp [hlocal, hsent, hsender]

theorem text_fillMessageInfo {key : String} {value : Iter} {info info' : MessageInfo}
    (h : fillMessageInfo key value info = some info') : info'.text = info.text := by
  unfold fillMessageInfo at h
  split at h
  · contradiction
  -- the first entry that matches the key sets another field
  all_goals
    repeat' split at h
    all_goals
      obtain rfl := Option.some_inj.mp h
      rfl

/-- The messages that come with a dictionary. -/
def hasDictionary (message : Message) : Prop :=
  message.member = "IncomingMessage" ∨ message.member = "ImmediateMessage"

instance (message : Message) : Decidable (hasDictionary message) :=
  inferInstanceAs (Decidable (_ ∨ _))

/-- What `unsol_sms_message` does with the arguments behind the text of a message. -/
def decodeMessage (heap : Heap) (message : Message) (text : String) (args : Iter)
    (ar : AsyncResult Payload) : Option Handling :=
  args.recurse.bind fun list =>
    match heap.messageInfo with
    | none => some (fail ar)
    | some block =>
      let info := { block with
        text := .text text
        smsType := if message.member = "IncomingMessage" then 1 else 2 }
      (foldDict fillMessageInfo list info).map fun info =>
        deliver { ar with data := .messageInfo info, status := ok }

/-- The dictionary behind the text can be read, as far as the function gets. -/
def readsEntries (heap : Heap) (args : Iter) : Bool :=
  args.recurse.any fun list =>
    heap.messageInfo.all fun _ => readsDict (fun _ value => value.isBasic) list

theorem isSome_decodeMessage (text : String) (args : Iter) (ar : AsyncResult Payload) :
    (decodeMessage heap message text args ar).isSome = readsEntries heap args := by
  unfold decodeMessage readsEntries
  cases args.recurse with
  | none => rfl
  | some list =>
    cases heap.messageInfo with
    | none => rfl
    | some block => simp [foldDict_isSome isSome_fillMessageInfo]

/-- Either there is no memory for the message, or it is delivered with its text. -/
theorem decodeMessage_cases {text : String} {args : Iter} {ar : AsyncResult Payload}
    {r : Handling} (h : decodeMessage heap message text args ar = some r) :
    (heap.messageInfo = none ∧ r = fail ar) ∨
      (heap.messageInfo ≠ none ∧ ∃ info : MessageInfo, info.text = .text text ∧
        r = deliver { ar with data := .messageInfo info, status := ok }) := by
  obtain ⟨list, -, hlist⟩ := Option.bind_eq_some_iff.mp h
  cases hblock : heap.messageInfo with
  | none =>
    rw [hblock] at hlist
    exact .inl ⟨rfl, (Option.some_inj.mp hlist).symm⟩
  | some block =>
    simp only [hblock, Option.map_eq_some_iff] at hlist
    obtain ⟨info, hfold, hr⟩ := hlist
    -- no entry of the dictionary changes the text
    have htext : info.text = .text text :=
      foldDict_preserves (P := fun info => info.text = .text text)
        (fun key value x x' hfill hx => (text_fillMessageInfo hfill).trans hx) hfold rfl
    exact .inr ⟨by simp, info, htext, hr.symm⟩

/-- `unsol_sms_message`. A status report with a text leaves the record as it is. -/
def unsolSmsMessage (handler : AsyncHandler Payload) (message : Message) (heap : Heap) :
    Option Handling :=
  withCallback handler fun ar =>
    if message.type ≠ .signal then some (ignore ar)
    else if message.sender = none then some (fail ar)
    else
      match message.args with
      | .string text :: args =>
        if hasDictionary message then decodeMessage heap message text args ar
        else some (deliver ar)
      | _ => some (fail ar)

section

variable (hcb : handler.cbFunction ≠ null)
include hcb

theorem unsolSmsMessage_of_not_signal (hsignal : message.type ≠ .signal) :
    unsolSmsMessage handler message heap = some (ignore handler.result) := by
  rw [unsolSmsMessage, withCallback_of_ne hcb, if_pos hsignal]

variable (hsignal : message.type = .signal)
include hsignal

theorem unsolSmsMessage_of_sender_eq_none (hsender : message.sender = none) :
    unsolSmsMessage handler message heap = some (fail handler.result) := by
  simp [unsolSmsMessage, withCallback_of_ne hcb, hsignal, hsender]

variable (hsender : message.sender ≠ none)
include hsender

theorem unsolSmsMessage_of_args_ne (h : ∀ text args, message.args ≠ .string text :: args) :
    unsolSmsMessage handler message heap = some (fail handler.result) := by
  rw [unsolSmsMessage, withCallback_of_ne hcb]
  simp only [hsignal, ne_eq, not_true_eq_false, if_false, if_neg hsender]

variable {text : String} {args : Iter} (hargs : message.args = .string text :: args)
include hargs

theorem unsolSmsMessage_of_hasDictionary (h : hasDictionary message) :
    unsolSmsMessage handler message heap =
      decodeMessage heap message text args handler.result := by
  rw [unsolSmsMessage, withCallback_of_ne hcb]
  simp only [hsignal, ne_eq, not_true_eq_false, if_false, if_neg hsender, hargs, if_pos h]

/-- A status report is delivered with whatever the record has held before. -/
theorem unsolSmsMessage_of_report (h : ¬ hasDictionary message) :
    unsolSmsMessage handler message heap = some (deliver handler.result) := by
  rw [unsolSmsMessage, withCallback_of_ne hcb]
  simp only [hsignal, ne_eq, not_true_eq_false, if_false, if_neg hsender, hargs, if_neg h]

end

end Telephony.Sms
