import Telephony.Call.Reply
import Telephony.Sms.Reply

/-!
# Outcomes that come with a message

The replies to Dial, SendMessage and SendDataMessage carry the path of what has been created,
and the message signals carry a text. The callback may rely on the status only if it has been
decided by the message that is being handled, since the record is fresh from `malloc`, or
still holds what the last signal has left in it.

## Main definitions

* `Telephony.Delivery` — the four operations, with their handlers
* `Telephony.Delivery.Carries` — the value that a message carries for an operation
* `Telephony.Delivery.Decides` — the message decides what the callback sees
* `Telephony.Delivery.Foreseen` — the messages that the handlers have a branch for

## Main results

* `Telephony.Delivery.decides_iff_foreseen` — the message decides what the callback sees
  exactly if there is a branch for it
-/

namespace Telephony

open DBus

/-- The operations whose callback is owed a value of the message. -/
inductive Delivery
  | dial | sendMessage | sendDataMessage | messageSignal
  deriving DecidableEq, Repr

namespace Delivery

/-- The function that handles the message. -/
def run (d : Delivery) (heap : Heap) (handler : AsyncHandler Payload) (message : Message) :
    Option Handling :=
  match d with
  | .dial => Call.dialCallCallback handler message
  | .sendMessage => Sms.sendSmsCallback handler message
  | .sendDataMessage => Sms.sendSmsCallback handler message
  | .messageSignal => Sms.unsolSmsMessage handler message heap

/-- The data has been decoded from the message: the path of a reply, or the text of a signal. -/
def Carries (d : Delivery) (message : Message) (data : Payload) : Prop :=
  match d with
  | .messageSignal => ∃ text rest info, message.args = .string text :: rest ∧
      data = .messageInfo info ∧ info.text = .text text
  | _ => message.isError = false ∧
      ∃ path rest, message.args = .objectPath path :: rest ∧ data = .text path

/-- The message decides what the callback sees. Whatever the record has held before, it has
the same status, which is OK only beside a value of this message, and ERROR if the message
carries none. -/
def Decides (d : Delivery) (heap : Heap) (message : Message) : Prop :=
  ∃ status, ((∀ data, ¬ d.Carries message data) → status = error) ∧
    ∀ handler : AsyncHandler Payload, handler.cbFunction ≠ null →
      ∃ r, d.run heap handler message = some r ∧
        (r.called = true → r.result.status = status ∧
          (r.result.status = ok → d.Carries message r.result.data))

/-- The messages that a handler has a branch for. A reply that is not an error starts with a
path, if it carries anything. A signal with a text is an incoming or an immediate message, and
goes on with a dictionary of basic values. -/
def Foreseen (d : Delivery) (heap : Heap) (message : Message) : Prop :=
  match d with
  | .messageSignal => message.type = .signal → message.sender ≠ none →
      ∀ text rest, message.args = .string text :: rest →
        Sms.hasDictionary message ∧ Sms.readsEntries heap rest = true
  | _ => message.isError = false → message.args ≠ [] →
      ∃ path rest, message.args = .objectPath path :: rest

section

variable {d : Delivery} {heap : Heap} {message : Message}

/-- A handler that leaves the record as it is shows the status of the record, whatever that
is. -/
theorem not_decides_of_unchanged
    (h : ∀ handler : AsyncHandler Payload, handler.cbFunction ≠ null →
      d.run heap handler message = some (deliver handler.result)) :
    ¬ d.Decides heap message := by
  rintro ⟨status, -, hall⟩
  -- two records that differ in the status
  let handler (status : ℤ) : AsyncHandler Payload := ⟨⟨0, 0, status, 0, 0, .null, 0⟩, 1⟩
  have hcb : ∀ s, (handler s).cbFunction ≠ null := fun _ => Nat.one_ne_zero
  have hshown : ∀ s, s = status := by
    intro s
    obtain ⟨r, hr, hdecided⟩ := hall (handler s) (hcb s)
    rw [h (handler s) (hcb s)] at hr
    obtain rfl := Option.some_inj.mp hr
    exact (hdecided rfl).1
  have hcontra : (0 : ℤ) = 1 := (hshown 0).trans (hshown 1).symm
  contradiction

/-- A handler that reports an error whatever the record was is decided. -/
theorem decides_of_fail
    (h : ∀ handler : AsyncHandler Payload, handler.cbFunction ≠ null →
      d.run heap handler message = some (fail handler.result)) : d.Decides heap message := by
  refine ⟨error, fun _ => rfl, fun handler hcb => ⟨_, h handler hcb, fun _ => ⟨rfl, ?_⟩⟩⟩
  intro hok
  contradiction

/-! ### Replies -/

theorem run_of_reply (hd : d ≠ .messageSignal) (handler : AsyncHandler Payload) :
    d.run heap handler message = onPathReply handler message := by
  cases d with
  | messageSignal => contradiction
  | _ => rfl

theorem carries_of_path (hd : d ≠ .messageSignal) (hreply : message.isError = false)
    {path : String} {rest : Iter} (hargs : message.args = .objectPath path :: rest) :
    d.Carries message (.text path) := by
  cases d with
  | messageSignal => contradiction
  | _ => exact ⟨hreply, path, rest, hargs, rfl⟩

theorem foreseen_iff_of_reply (hd : d ≠ .messageSignal) :
    d.Foreseen heap message ↔ (message.isError = false → message.args ≠ [] →
      ∃ path rest, message.args = .objectPath path :: rest) := by
  cases d with
  | messageSignal => contradiction
  | _ => rfl

theorem decides_iff_of_reply (hd : d ≠ .messageSignal) :
    d.Decides heap message ↔ d.Foreseen heap message := by
  rw [foreseen_iff_of_reply hd]
  constructor
  · intro hdecides hreply hargs
    -- a reply with another first argument leaves the status that the caller set
    by_contra hother
    refine not_decides_of_unchanged (fun handler hcb => ?_) hdecides
    rw [run_of_reply hd]
    apply onPathReply_of_other hcb hreply hargs
    intro path rest hpath
    exact hother ⟨path, rest, hpath⟩
  · intro hforeseen
    by_cases hfailed : message.isError = true ∨ message.args = []
    · apply decides_of_fail
      intro handler hcb
      rw [run_of_reply hd]
      exact onPathReply_of_failed hcb hfailed
    · obtain ⟨hreply, hargs⟩ := not_or.mp hfailed
      rw [Bool.not_eq_true] at hreply
      obtain ⟨path, rest, hpath⟩ := hforeseen hreply hargs
      have hcarries : d.Carries message (.text path) := carries_of_path hd hreply hpath
      refine ⟨ok, fun hnone => absurd hcarries (hnone _), fun handler hcb => ?_⟩
      rw [run_of_reply hd, onPathReply_of_path hcb hreply hpath]
      exact ⟨_, rfl, fun _ => ⟨rfl, fun _ => hcarries⟩⟩

/-! ### Signals -/

/-- A message with a dictionary that can be read is delivered with its text, unless there is
no memory for it. -/
theorem decides_of_readsEntries (hsignal : message.type = .signal)
    (hsender : message.sender ≠ none) {text : String} {rest : Iter}
    (hargs : message.args = .string text :: rest) (hmember : Sms.hasDictionary message)
    (hreads : Sms.readsEntries heap rest = true) :
    Delivery.messageSignal.Decides heap message := by
  have hcarries : ∀ info : MessageInfo, info.text = .text text →
      Delivery.messageSignal.Carries message (.messageInfo info) :=
    fun info htext => ⟨text, rest, info, hargs, rfl, htext⟩
  have hrun : ∀ handler : AsyncHandler Payload, handler.cbFunction ≠ null →
      Delivery.messageSignal.run heap handler message =
        Sms.decodeMessage heap message text rest handler.result :=
    fun handler hcb => Sms.unsolSmsMessage_of_hasDictionary hcb hsignal hsender hargs hmember
  have hdefined : ∀ ar, ∃ r, Sms.decodeMessage heap message text rest ar = some r := by
    intro ar
    rw [← Option.isSome_iff_exists, Sms.isSome_decodeMessage]
    exact hreads
  refine ⟨if heap.messageInfo = none then error else ok, ?_, fun handler hcb => ?_⟩
  · intro hnone
    exact absurd (hcarries ⟨.text text, .null, .null, .null, 0⟩ rfl) (hnone _)
  · obtain ⟨r, hr⟩ := hdefined handler.result
    refine ⟨r, (hrun handler hcb).trans hr, fun _ => ?_⟩
    -- the one failure left is that there is no block
    obtain ⟨hblock, rfl⟩ | ⟨hblock, info, htext, rfl⟩ := Sms.decodeMessage_cases hr
    · rw [if_pos hblock]
      exact ⟨rfl, fun hok => by contradiction⟩
    · rw [if_neg hblock]
      exact ⟨rfl, fun _ => hcarries info htext⟩

theorem decides_messageSignal_iff :
    Delivery.messageSignal.Decides heap message ↔
      Delivery.messageSignal.Foreseen heap message := by
  constructor
  · intro hdecides hsignal hsender text rest hargs
    have hmember : Sms.hasDictionary message := by
      by_contra hreport
      refine not_decides_of_unchanged (fun handler hcb => ?_) hdecides
      exact Sms.unsolSmsMessage_of_report hcb hsignal hsender hargs hreport
    refine ⟨hmember, ?_⟩
    -- any handler shows that the entries can be read
    obtain ⟨status, -, hall⟩ := hdecides
    let handler : AsyncHandler Payload := ⟨⟨0, 0, 0, 0, 0, .null, 0⟩, 1⟩
    have hcb : handler.cbFunction ≠ null := Nat.one_ne_zero
    obtain ⟨r, hr, -⟩ := hall handler hcb
    rw [← Sms.isSome_decodeMessage text rest handler.result,
      ← Sms.unsolSmsMessage_of_hasDictionary hcb hsignal hsender hargs hmember]
    exact Option.isSome_iff_exists.mpr ⟨r, hr⟩
  · intro hforeseen
    by_cases hsignal : message.type = .signal
    swap
    · -- anything else the handler returns from without a callback
      refine ⟨error, fun _ => rfl, fun handler hcb => ⟨ignore handler.result, ?_, ?_⟩⟩
      · exact Sms.unsolSmsMessage_of_not_signal hcb hsignal
      · intro hcalled
        contradiction
    by_cases hsender : message.sender = none
    · exact decides_of_fail fun handler hcb =>
        Sms.unsolSmsMessage_of_sender_eq_none hcb hsignal hsender
    by_cases htext : ∃ text rest, message.args = .string text :: rest
    · obtain ⟨text, rest, hargs⟩ := htext
      obtain ⟨hmember, hreads⟩ := hforeseen hsignal hsender text rest hargs
      exact decides_of_readsEntries hsignal hsender hargs hmember hreads
    · refine decides_of_fail fun handler hcb => ?_
      apply Sms.unsolSmsMessage_of_args_ne hcb hsignal hsender
      intro text rest hargs
      exact htext ⟨text, rest, hargs⟩

end

/-- The message decides what the callback sees exactly if the handler has a branch for it. -/
theorem decides_iff_foreseen (d : Delivery) (heap : Heap) (message : Message) :
    d.Decides heap message ↔ d.Foreseen heap message := by
  by_cases hd : d = .messageSignal
  · rw [hd]
    exact decides_messageSignal_iff
  · exact decides_iff_of_reply hd

/-- A status report as the modem sends it. -/
def statusReport : Message where
  type := .signal
  member := "StatusReportMessage"
  sender := some "org.ofono"
  args := [.string "delivered", dict []]

/-- The report is delivered with the status of whatever the record has held before. -/
theorem not_decides_statusReport :
    ¬ ∃ heap, Delivery.messageSignal.Decides heap statusReport := by
  rintro ⟨heap, hdecides⟩
  have hforeseen := decides_messageSignal_iff.mp hdecides
  have hmember := hforeseen rfl (by decide) "delivered" [dict []] rfl
  exact absurd hmember.1 (by decide)

end Delivery

end Telephony
