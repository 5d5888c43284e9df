import Telephony.Commands
import Telephony.Tool.Session

/-!
# What the tool sends

A function of the tool takes its argument apart, checks that it begins with the number of a slot,
and hands the words to the library. Here are those whose requests send a message and wait for
nothing.

## Main definitions

* `Tool.sendingCommands` — these functions, with the names of their commands
* `Tool.meaning` — what the words of a command say
* `Tool.TypedLine.toSend` — what is to be sent for a line

## Main results

* `Tool.says_of_mem` — each function sends what its words say
* `Tool.messages_text` — the messages of a session are those that its lines are to send
-/

namespace Telephony.Tool

open Ledger

section

variable (cfg : Config) (context : Option DbusContext) (accepts : Bool)

/-- The functions that take as many words as they have places for. Nothing is read from a place that
no word has been put in. -/
def cmdOfWords (size : ℕ) (k : ℤ → List String → Option (Except ℤ Sent)) (pargs : String) :
    Option (Except ℤ Sent) :=
  let (cnt, dst) := splitInput (List.replicate size "") pargs
  let slotId := dst.getD 0 ""
  if cnt ≠ size then some (.error (-einval))
  else if !isValidSlotIdStr cfg slotId then some (.error (-einval))
  else k (atoi slotId) dst

/-- The functions that take the first word and leave the others. -/
def cmdOfSlot (k : ℤ → Except ℤ Sent) (pargs : String) : Option (Except ℤ Sent) :=
  if pargs.utf8ByteSize = 0 then some (.error (-einval))
  else
    match strtok pargs ' ' with
    | [] => some (.error (-einval))
    | slotId :: _ =>
      if !isValidSlotIdStr cfg slotId then some (.error (-einval)) else some (k (atoi slotId))

/-- The number that a word stands for. A number that an `int` cannot hold is undefined. -/
def numberOf (word : String) : Option ℤ := if IsInt (atoi word) then some (atoi word) else none

/-- `telephonytool_cmd_answer_by_id`. -/
def telephonytoolCmdAnswerById : String → Option (Except ℤ Sent) :=
  cmdOfWords cfg 2 fun slotId dst =>
    some (Call.tapiCallAnswerById cfg context slotId accepts (.text (dst.getD 1 "")))

/-- `telephonytool_cmd_hangup_by_id`. -/
def telephonytoolCmdHangupById : String → Option (Except ℤ Sent) :=
  cmdOfWords cfg 2 fun slotId dst =>
    some (Call.tapiCallHangupById cfg context slotId accepts (.text (dst.getD 1 "")))

/-- `telephonytool_cmd_release_and_answer_call`. -/
def telephonytoolCmdReleaseAndAnswerCall : String → Option (Except ℤ Sent) :=
  cmdOfSlot cfg fun slotId => Call.tapiCallReleaseAndAnswer cfg context slotId accepts

/-- `telephonytool_cmd_hold_and_answer_call`. -/
def telephonytoolCmdHoldAndAnswerCall : String → Option (Except ℤ Sent) :=
  cmdOfSlot cfg fun slotId => Call.tapiCallHoldAndAnswer cfg context slotId accepts

/-- `telephonytool_cmd_release_and_swap_call`. -/
def telephonytoolCmdReleaseAndSwapCall : String → Option (Except ℤ Sent) :=
  cmdOfSlot cfg fun slotId => Call.tapiCallReleaseAndSwap cfg context slotId accepts

/-- `telephonytool_cmd_swap_call`. -/
def telephonytoolCmdSwapCall : String → Option (Except ℤ Sent) :=
  cmdOfWords cfg 2 fun slotId dst =>
    (numberOf (dst.getD 1 "")).map fun action =>
      if action = 1 then Call.tapiCallHoldCall cfg context slotId accepts
      else Call.tapiCallUnholdCall cfg context slotId accepts

/-- `telephonytool_cmd_hangup_all`. -/
def telephonytoolCmdHangupAll : String → Option (Except ℤ Sent) :=
  cmdOfSlot cfg fun slotId => Call.tapiCallHangupAllCalls cfg context slotId accepts

/-- `telephonytool_cmd_hangup_multiparty`. -/
def telephonytoolCmdHangupMultiparty : String → Option (Except ℤ Sent) :=
  cmdOfSlot cfg fun slotId => Call.tapiCallHangupMultiparty cfg context slotId accepts

/-- `telephonytool_cmd_transfer_call`. -/
def telephonytoolCmdTransferCall : String → Option (Except ℤ Sent) :=
  cmdOfWords cfg 1 fun slotId _ => some (Call.tapiCallTransfer cfg context slotId accepts)

/-- `telephonytool_cmd_send_tones`. -/
def telephonytoolCmdSendTones : String → Option (Except ℤ Sent) :=
  cmdOfWords cfg 2 fun slotId dst =>
    let tones := dst.getD 1 ""
    if tones.utf8ByteSize < 1 then some (.error (-einval))
    else if tones.toList.all isValidDtmfChar then
      some (Call.tapiCallSendTones cfg context slotId accepts (.text tones))
    else some (.error (-einval))

/-- `telephonytool_cmd_request_network`. -/
def telephonytoolCmdRequestNetwork (pargs : String) : Option (Except ℤ Sent) :=
  if pargs.utf8ByteSize = 0 then some (.error (-einval))
  else
    cmdOfWords cfg 2 (fun slotId dst =>
      some (Data.tapiDataRequestNetwork cfg context slotId accepts (.text (dst.getD 1 "")))) pargs

/-- `telephonytool_cmd_release_network`. -/
def telephonytoolCmdReleaseNetwork (pargs : String) : Option (Except ℤ Sent) :=
  if pargs.utf8ByteSize = 0 then some (.error (-einval))
  else
    cmdOfWords cfg 2 (fun slotId dst =>
      some (Data.tapiDataReleaseNetwork cfg context slotId accepts (.text (dst.getD 1 "")))) pargs

/-- `telephonytool_tapi_sms_delete_message_from_sim`. -/
def telephonytoolTapiSmsDeleteMessageFromSim (pargs : String) : Option (Except ℤ Sent) :=
  if pargs.utf8ByteSize = 0 then some (.error (-einval))
  else
    cmdOfWords cfg 2 (fun slotId dst =>
      (numberOf (dst.getD 1 "")).map (Sms.tapiSmsDeleteMessageFromSim cfg context slotId accepts))
      pargs

/-- `telephonytool_cmd_ims_enable`. -/
def telephonytoolCmdImsEnable : String → Option (Except ℤ Sent) :=
  cmdOfWords cfg 2 fun slotId dst =>
    (numberOf (dst.getD 1 "")).map fun actionType =>
      if actionType = 0 then Ims.tapiImsTurnOff cfg context slotId accepts
      else if actionType = 1 then Ims.tapiImsTurnOn cfg context slotId accepts
      else .error (-einval)

/-- `telephonytool_cmd_set_ims_service`. -/
def telephonytoolCmdSetImsService : String → Option (Except ℤ Sent) :=
  cmdOfWords cfg 2 fun slotId dst =>
    (numberOf (dst.getD 1 "")).map (Ims.tapiImsSetServiceStatus cfg context slotId accepts)

/-- The entries of `g_telephonytool_cmds` whose functions send a message and wait for nothing. -/
def sendingCommands : Commands (Except ℤ Sent) := [
  ("answer_0", telephonytoolCmdAnswerById cfg context accepts),
  ("hangup_0", telephonytoolCmdHangupById cfg context accepts),
  ("release_and_answer", telephonytoolCmdReleaseAndAnswerCall cfg context accepts),
  ("hold_and_answer", telephonytoolCmdHoldAndAnswerCall cfg context accepts),
  ("release_and_swap", telephonytoolCmdReleaseAndSwapCall cfg context accepts),
  ("swap", telephonytoolCmdSwapCall cfg context accepts),
  ("hangup-all", telephonytoolCmdHangupAll cfg context accepts),
  ("hangup-all-multiparty", telephonytoolCmdHangupMultiparty cfg context accepts),
  ("transfer", telephonytoolCmdTransferCall cfg context accepts),
  ("send-tones", telephonytoolCmdSendTones cfg context accepts),
  ("request-network", telephonytoolCmdRequestNetwork cfg context accepts),
  ("release-network", telephonytoolCmdReleaseNetwork cfg context accepts),
  ("delete-sms-from-sim", telephonytoolTapiSmsDeleteMessageFromSim cfg context accepts),
  ("enable-ims", telephonytoolCmdImsEnable cfg context accepts),
  ("set-ims-cap", telephonytoolCmdSetImsService cfg context accepts)]

end

/-! ## What is to be sent -/

/-- A message to a call, unless the call has no object. -/
def toCall (member callId : String) : Option BusMessage :=
  if Data.validPath callId then some ⟨member, [.objectPath callId]⟩ else none

/-- What the words of a command say: the word for the slot, the object, and the message. -/
def meaning : String → List String → Option (String × ProxyType × Option BusMessage)
  | "answer_0", [slot, callId] => some (slot, .call, toCall "Answer" callId)
  | "hangup_0", [slot, callId] => some (slot, .call, toCall "Hangup" callId)
  | "release_and_answer", slot :: _ => some (slot, .call, some ⟨"ReleaseAndAnswer", []⟩)
  | "hold_and_answer", slot :: _ => some (slot, .call, some ⟨"HoldAndAnswer", []⟩)
  | "release_and_swap", slot :: _ => some (slot, .call, some ⟨"ReleaseAndSwap", []⟩)
  | "swap", [slot, _] => some (slot, .call, some ⟨"SwapCalls", []⟩)
  | "hangup-all", slot :: _ => some (slot, .call, some ⟨"HangupAll", []⟩)
  | "hangup-all-multiparty", slot :: _ => some (slot, .call, some ⟨"HangupMultiparty", []⟩)
  | "transfer", [slot] => some (slot, .call, some ⟨"Transfer", []⟩)
  | "send-tones", [slot, tones] =>
    if tones ≠ "" ∧ tones.toList.all fun c => c ∈ "0123456789*#".toList then
      some (slot, .call, some ⟨"SendTones", [.string tones]⟩)
    else none
  | "request-network", [slot, type] =>
    some (slot, .data, some ⟨"RequestNetwork", [.string type]⟩)
  | "release-network", [slot, type] =>
    some (slot, .data, some ⟨"ReleaseNetwork", [.string type]⟩)
  | "delete-sms-from-sim", [slot, index] =>
    if 0 ≤ atoi index then
      some (slot, .sms, some ⟨"DeleteMessageFromSim", [.int32 (atoi index)]⟩)
    else none
  | "enable-ims", [slot, action] =>
    if atoi action = 1 then some (slot, .ims, some ⟨"Register", []⟩)
    else if atoi action = 0 then some (slot, .ims, some ⟨"Unregister", []⟩)
    else none
  | "set-ims-cap", [slot, capability] =>
    some (slot, .ims, some ⟨"SetCapability", [.int32 (atoi capability)]⟩)
  | _, _ => none

/-- The slot that a word names. -/
def namedSlot (cfg : Config) (word : String) : Option ℕ :=
  (List.range cfg.modemActiveCount).find? fun slot => slot.repr = word

/-- What a command sends to the object of a slot. -/
def deliver (ctx : DbusContext) (slot : ℕ) (said : ProxyType × Option BusMessage) : Option Sent :=
  if ctx.dbusProxy slot said.1 = null then none else some ⟨ctx.dbusProxy slot said.1, said.2⟩

/-- What is to be sent for the words of a command. -/
def intendedFor (cfg : Config) (ctx : DbusContext) (cmd : String) (words : List String) :
    Option Sent :=
  (meaning cmd words).bind fun m => (namedSlot cfg m.1).bind fun slot => deliver ctx slot m.2

/-- The number that the second word stands for is one that an `int` can hold, if the command reads
it. -/
def Readable (cmd : String) (words : List String) : Prop :=
  cmd ∈ ["swap", "delete-sms-from-sim", "enable-ims", "set-ims-cap"] → words.length = 2 →
    IsInt (atoi (words.getD 1 ""))

instance (cmd : String) (words : List String) : Decidable (Readable cmd words) :=
  inferInstanceAs (Decidable (_ → _))

/-- The function sends what the words of its argument say. -/
def Says (cfg : Config) (ctx : DbusContext) (name : String)
    (f : String → Option (Except ℤ Sent)) : Prop :=
  ∀ pargs, Readable name (roomy (strtok pargs ' ')) →
    (f pargs).map Except.toOption = some (intendedFor cfg ctx name (roomy (strtok pargs ' ')))

/-! ## What a command sends -/

section

variable {cfg : Config} {ctx : DbusContext} {pargs word : String}

/-! ### Slots -/

theorem repr_digit : ∀ n < 10, n.repr.toList = [Char.ofNat (48 + n)] := by decide

theorem toNat_digit : ∀ n < 10, (Char.ofNat (48 + n)).toNat = 48 + n := by decide

theorem utf8Size_digit : ∀ n < 10, (Char.ofNat (48 + n)).utf8Size = 1 := by decide

theorem repr_injective {n m : ℕ} (h : n.repr = m.repr) : n = m := by
  have hatoi := congrArg atoi h
  rw [atoi_repr, atoi_repr] at hatoi
  exact Int.ofNat_inj.mp hatoi

theorem namedSlot_eq_some_iff {slot : ℕ} :
    namedSlot cfg word = some slot ↔ slot < cfg.modemActiveCount ∧ slot.repr = word := by
  rw [namedSlot, List.find?_range_eq_some]
  constructor
  · rintro ⟨hslot, hmem, -⟩
    exact ⟨List.mem_range.mp hmem, of_decide_eq_true hslot⟩
  · rintro ⟨hlt, rfl⟩
    refine ⟨by simp, List.mem_range.mpr hlt, fun other hother => ?_⟩
    rw [Bool.not_eq_true', decide_eq_false_iff_not]
    intro heq
    exact absurd (repr_injective heq) hother.ne

theorem isValidSlotIdStr_iff (hcount : cfg.modemActiveCount ≤ 10) :
    isValidSlotIdStr cfg word = true ↔ ∃ slot < cfg.modemActiveCount, slot.repr = word := by
  constructor
  · intro h
    rw [isValidSlotIdStr] at h
    split at h
    · rename_i c hc
      simp only [decide_eq_true_eq] at h
      -- the word is one digit
      obtain ⟨-, hge, hlt⟩ := h
      refine ⟨c.toNat - 48, by omega, ?_⟩
      rw [← String.toList_inj, repr_digit _ (by omega), hc]
      have hnat : 48 + (c.toNat - 48) = c.toNat := by omega
      rw [hnat, Char.ofNat_toNat]
    · contradiction
  · rintro ⟨slot, hlt, rfl⟩
    have hslot : slot < 10 := by omega
    rw [isValidSlotIdStr, repr_digit slot hslot]
    simp [toNat_digit slot hslot, utf8Size_digit slot hslot, hlt]

/-- A word for a slot is refused if it names none. -/
theorem slotId_cases (hcount : cfg.modemActiveCount ≤ 10) (word : String) :
    (isValidSlotIdStr cfg word = false ∧ namedSlot cfg word = none) ∨
      ∃ slot < cfg.modemActiveCount, slot.repr = word ∧ isValidSlotIdStr cfg word = true ∧
        namedSlot cfg word = some slot := by
  by_cases h : isValidSlotIdStr cfg word = true
  · obtain ⟨slot, hlt, hslot⟩ := (isValidSlotIdStr_iff hcount).mp h
    exact .inr ⟨slot, hlt, hslot, h, namedSlot_eq_some_iff.mpr ⟨hlt, hslot⟩⟩
  · refine .inl ⟨Bool.eq_false_iff.mpr h, ?_⟩
    refine Option.eq_none_iff_forall_ne_some.mpr fun slot hslot => ?_
    obtain ⟨hlt, hword⟩ := namedSlot_eq_some_iff.mp hslot
    exact h ((isValidSlotIdStr_iff hcount).mpr ⟨slot, hlt, hword⟩)

theorem splitInput_replicate (size : ℕ) (h : (roomy (strtok pargs ' ')).length = size) :
    splitInput (List.replicate size "") pargs = (size, roomy (strtok pargs ' ')) := by
  rw [splitInput, splitTokens_eq]
  simp [h, List.take_of_length_le (Nat.le_of_eq h)]

theorem splitInput_fst (dst : List String) (pargs : String) :
    (splitInput dst pargs).1 = (roomy (strtok pargs ' ')).length := by
  rw [splitInput, splitTokens_eq, Nat.zero_add]

/-- A command of as many words as it has places for sends what they say, if it does so for a slot
that there is. -/
theorem says_cmdOfWords {name : String} {size : ℕ} {k : ℤ → List String → Option (Except ℤ Sent)}
    (hcount : cfg.modemActiveCount ≤ 10)
    (hsize : ∀ words, words.length ≠ size → meaning name words = none)
    (hslot : ∀ words m, meaning name words = some m → m.1 = words.getD 0 "")
    (h : ∀ words, words.length = size → Readable name words → ∀ slot < cfg.modemActiveCount,
      (k slot words).map Except.toOption =
        some ((meaning name words).bind fun m => deliver ctx slot m.2)) :
    Says cfg ctx name (cmdOfWords cfg size k) := by
  intro pargs hreadable
  by_cases hlength : (roomy (strtok pargs ' ')).length = size
  · rw [cmdOfWords, splitInput_replicate size hlength]
    generalize roomy (strtok pargs ' ') = words at hreadable hlength ⊢
    -- the command looks at its slot before it looks at the other words
    have hbind : intendedFor cfg ctx name words = (namedSlot cfg (words.getD 0 "")).bind fun slot =>
        (meaning name words).bind fun m => deliver ctx slot m.2 := by
      cases hm : meaning name words with
      | none => rw [intendedFor, hm]; simp
      | some m => rw [intendedFor, hm, ← hslot words m hm]; rfl
    rw [hbind]
    obtain ⟨hvalid, hnone⟩ | ⟨slot, hlt, hword, hvalid, hsome⟩ :=
      slotId_cases hcount (words.getD 0 "")
    · simp only [ne_eq, not_true_eq_false, reduceIte, hvalid, Bool.not_false, hnone,
        Option.bind_none]
      rfl
    · have hatoi : atoi (words.getD 0 "") = slot := by rw [← hword, atoi_repr]
      simp only [ne_eq, not_true_eq_false, reduceIte, hvalid, Bool.not_true, Bool.false_eq_true,
        hatoi, hsome, Option.bind_some]
      exact h words hlength hreadable slot hlt
  · have hfst := splitInput_fst (List.replicate size "") pargs
    rw [intendedFor, hsize _ hlength]
    simp only [cmdOfWords, hfst, ne_eq, hlength, not_false_eq_true, reduceIte]
    rfl

/-- A command of a slot sends what its first word says, if it does so for a slot that there is. -/
theorem says_cmdOfSlot {name : String} {k : ℤ → Except ℤ Sent}
    {said : ProxyType × Option BusMessage} (hcount : cfg.modemActiveCount ≤ 10)
    (hnil : meaning name [] = none)
    (hcons : ∀ slot words, meaning name (slot :: words) = some (slot, said))
    (h : ∀ slot < cfg.modemActiveCount, (k slot).toOption = deliver ctx slot said) :
    Says cfg ctx name (cmdOfSlot cfg k) := by
  intro pargs _
  rw [cmdOfSlot]
  by_cases hempty : pargs.utf8ByteSize = 0
  · have hpargs : pargs = "" := String.utf8ByteSize_eq_zero_iff.mp hempty
    have hwords : roomy (strtok pargs ' ') = [] := by rw [hpargs]; rfl
    rw [if_pos hempty, hwords, intendedFor, hnil]
    rfl
  rw [if_neg hempty]
  cases strtok pargs ' ' with
  | nil =>
    rw [roomy, List.takeWhile_nil, intendedFor, hnil]
    rfl
  | cons slotId words =>
    obtain ⟨hvalid, hnone⟩ | ⟨slot, hlt, hword, hvalid, hsome⟩ := slotId_cases hcount slotId
    -- whether or not the first word is kept, nothing is to be sent
    · have hintended : intendedFor cfg ctx name (roomy (slotId :: words)) = none := by
        rw [roomy, List.takeWhile_cons]
        split
        · rw [intendedFor, hcons, Option.bind_some, hnone, Option.bind_none]
        · rw [intendedFor, hnil, Option.bind_none]
      simp only [hvalid, Bool.not_false, reduceIte, hintended]
      rfl
    · have hsize : slotId.utf8ByteSize < maxInputArgsLen := by
        have hslot : slot < 10 := by omega
        rw [← hword, utf8ByteSize_eq_sum, repr_digit slot hslot]
        simp [utf8Size_digit slot hslot, maxInputArgsLen]
      have hatoi : atoi slotId = slot := by rw [← hword, atoi_repr]
      rw [roomy, List.takeWhile_cons_of_pos (by simpa using hsize), intendedFor, hcons,
        Option.bind_some, hsome, Option.bind_some, ← h slot hlt]
      simp only [hvalid, Bool.not_true, Bool.false_eq_true, reduceIte, hatoi]
      rfl

/-- The words of a command of two words: the word for the slot, and one that says what is to be
done. -/
def twoWords (said : String → Option (ProxyType × Option BusMessage)) :
    List String → Option (String × ProxyType × Option BusMessage)
  | [slot, word] => (said word).map fun m => (slot, m)
  | _ => none

theorem says_twoWords {name : String} {k : ℤ → List String → Option (Except ℤ Sent)}
    (said : String → Option (ProxyType × Option BusMessage)) (hcount : cfg.modemActiveCount ≤ 10)
    (hmeaning : ∀ words, meaning name words = twoWords said words)
    (h : ∀ slotId word, Readable name [slotId, word] → ∀ slot < cfg.modemActiveCount,
      (k slot [slotId, word]).map Except.toOption = some ((said word).bind (deliver ctx slot))) :
    Says cfg ctx name (cmdOfWords cfg 2 k) := by
  refine says_cmdOfWords hcount (fun words hlength => ?_) (fun words m hm => ?_)
    fun words hlength hreadable slot hslot => ?_
  · rw [hmeaning]
    match words, hlength with
    | [], _ => rfl
    | [_], _ => rfl
    | [_, _], hlength => exact absurd rfl hlength
    | _ :: _ :: _ :: _, _ => rfl
  · rw [hmeaning] at hm
    match words, hm with
    | [], hm => contradiction
    | [_], hm => contradiction
    | [slotId, word], hm =>
      obtain ⟨said, -, rfl⟩ := Option.map_eq_some_iff.mp hm
      rfl
    | _ :: _ :: _ :: _, hm => contradiction
  · match words, hlength with
    | [slotId, word], _ =>
      rw [h slotId word hreadable slot hslot, hmeaning, twoWords, Option.bind_map]
      rfl

/-- Without an argument there are no words. -/
theorem Says.unless_empty {name : String} {f : String → Option (Except ℤ Sent)}
    (h : Says cfg ctx name f) (hnil : meaning name [] = none) :
    Says cfg ctx name fun pargs =>
      if pargs.utf8ByteSize = 0 then some (.error (-einval)) else f pargs := by
  intro pargs hreadable
  by_cases hempty : pargs.utf8ByteSize = 0
  · have hpargs : pargs = "" := String.utf8ByteSize_eq_zero_iff.mp hempty
    have hwords : roomy (strtok pargs ' ') = [] := by rw [hpargs]; rfl
    simp only [hempty, reduceIte, hwords, intendedFor, hnil]
    rfl
  · simp only [hempty, reduceIte]
    exact h pargs hreadable

/-! ### The commands -/

theorem sendCommand_toOption {slot : ℕ} {type : ProxyType} {check : DbusContext → Option ℤ}
    {member : String} {appended : List Appended} {refused : ℤ} {message : Option BusMessage}
    (hslot : slot < cfg.modemActiveCount) (hcheck : check ctx = none)
    (hmessage : ((encodeArgs (fun _ => true) appended).map fun args => ⟨member, args⟩) = message) :
    (sendCommand cfg (some ctx) slot true type check member appended refused).toOption =
      deliver ctx slot (type, message) := by
  have hvalid : isValidSlotid cfg slot = true := by
    rw [isValidSlotid]
    simp [hslot]
  by_cases hproxy : ctx.dbusProxy slot type = null
  · simp [sendCommand, hvalid, hcheck, deliver, hproxy, Except.toOption]
  · simp [sendCommand, hvalid, hcheck, deliver, hproxy, Except.toOption, hmessage]

theorem sendCommand_toOption_of_refused {slot : ℤ} {type : ProxyType}
    {check : DbusContext → Option ℤ} {member : String} {appended : List Appended} {refused : ℤ}
    (hcheck : check ctx ≠ none) :
    (sendCommand cfg (some ctx) slot true type check member appended refused).toOption = none := by
  obtain ⟨code, hcode⟩ := Option.ne_none_iff_exists'.mp hcheck
  simp only [sendCommand, hcode]
  split <;> rfl

theorem manageCall_toOption {slot : ℕ} (hslot : slot < cfg.modemActiveCount) (member : String) :
    (Call.manageCallProxyMethod cfg (some ctx) slot true (some member)).toOption =
      deliver ctx slot (.call, some ⟨member, []⟩) :=
  sendCommand_toOption hslot rfl rfl

/-- A command of a slot that sends a message without arguments to the object of its calls. -/
theorem says_manageCall {name member : String} (hcount : cfg.modemActiveCount ≤ 10)
    (hnil : meaning name [] = none)
    (hcons : ∀ slot words, meaning name (slot :: words) = some (slot, .call, some ⟨member, []⟩)) :
    Says cfg ctx name (cmdOfSlot cfg fun slotId =>
      Call.manageCallProxyMethod cfg (some ctx) slotId true (some member)) :=
  says_cmdOfSlot hcount hnil hcons fun _ hslot => manageCall_toOption hslot member

theorem encode_toCall (member callId : String) :
    ((encodeArgs (fun _ => true) [.text .objectPath (.text callId)]).map fun args =>
      (⟨member, args⟩ : BusMessage)) = toCall member callId := by
  by_cases hpath : Data.validPath callId = true
  · simp [encodeArgs, toCall, hpath]
  · simp [encodeArgs, toCall, hpath]

/-- A command to a call. -/
theorem says_answerHangup {name member : String} (hcount : cfg.modemActiveCount ≤ 10)
    (hmeaning : ∀ words, meaning name words =
      twoWords (fun callId => some (.call, toCall member callId)) words) :
    Says cfg ctx name (cmdOfWords cfg 2 fun slotId dst =>
      some (Call.answerHangup cfg (some ctx) slotId true member (.text (dst.getD 1 "")))) :=
  says_twoWords _ hcount hmeaning fun _ callId _ _ hslot =>
    congrArg some (sendCommand_toOption hslot rfl (encode_toCall member callId))

/-- A command that hands its second word on. -/
theorem says_network {name member : String} (hcount : cfg.modemActiveCount ≤ 10)
    (hmeaning : ∀ words, meaning name words =
      twoWords (fun type => some (.data, some ⟨member, [.string type]⟩)) words) :
    Says cfg ctx name (cmdOfWords cfg 2 fun slotId dst =>
      some (sendCommand cfg (some ctx) slotId true .data (unlessInvalid true) member
        [.text .string (.text (dst.getD 1 ""))] (-einval))) :=
  says_twoWords _ hcount hmeaning fun _ _ _ _ hslot =>
    congrArg some (sendCommand_toOption hslot rfl rfl)

theorem says_transfer (hcount : cfg.modemActiveCount ≤ 10) :
    Says cfg ctx "transfer" (telephonytoolCmdTransferCall cfg (some ctx) true) := by
  refine says_cmdOfWords hcount ?_ ?_ ?_
  · rintro (_ | ⟨_, _ | _⟩) hne
    · rfl
    · exact absurd rfl hne
    · rfl
  · rintro (_ | ⟨_, _ | _⟩) m hm
    · contradiction
    · rw [← Option.some_inj.mp hm]
      rfl
    · contradiction
  · rintro (_ | ⟨_, _ | _⟩) hlength _ slot hslot
    · contradiction
    · exact congrArg some (manageCall_toOption hslot "Transfer")
    · simp at hlength

theorem isValidDtmfChar_iff {c : Char} :
    isValidDtmfChar c = true ↔ c ∈ "0123456789*#".toList := by
  constructor
  · intro h
    rw [isValidDtmfChar, decide_eq_true_eq] at h
    obtain ⟨hge, hle⟩ | rfl | rfl := h
    · have hge : 48 ≤ c.toNat := hge
      have hle : c.toNat ≤ 57 := hle
      have hdigit : 48 + (c.toNat - 48) = c.toNat := by omega
      have hall : ∀ n < 10, Char.ofNat (48 + n) ∈ "0123456789*#".toList := by decide
      have hmem := hall (c.toNat - 48) (by omega)
      rwa [hdigit, Char.ofNat_toNat] at hmem
    · decide
    · decide
  · have hall : "0123456789*#".toList.all isValidDtmfChar = true := by decide
    exact List.all_eq_true.mp hall c

theorem says_sendTones (hcount : cfg.modemActiveCount ≤ 10) :
    Says cfg ctx "send-tones" (telephonytoolCmdSendTones cfg (some ctx) true) := by
  refine says_twoWords (fun tones =>
    if tones ≠ "" ∧ tones.toList.all fun c => c ∈ "0123456789*#".toList then
      some (.call, some ⟨"SendTones", [.string tones]⟩) else none) hcount ?_ ?_
  · rintro (_ | ⟨_, _ | ⟨tones, _ | _⟩⟩)
    · rfl
    · rfl
    · rw [meaning, twoWords]
      split <;> rfl
    · rfl
  · intro slotId tones _ slot hslot
    have hsize : tones.utf8ByteSize < 1 ↔ tones = "" := by
      rw [Nat.lt_one_iff, String.utf8ByteSize_eq_zero_iff]
    have hall : tones.toList.all isValidDtmfChar = true ↔
        (tones.toList.all fun c => c ∈ "0123456789*#".toList) = true := by
      simp only [List.all_eq_true, decide_eq_true_eq, isValidDtmfChar_iff]
    simp only [List.getD_cons_succ, List.getD_cons_zero, hsize, hall]
    by_cases hempty : tones = ""
    · rw [if_pos hempty, if_neg fun h => h.1 hempty]
      rfl
    · by_cases htones : (tones.toList.all fun c => c ∈ "0123456789*#".toList) = true
      · rw [if_neg hempty, if_pos htones, if_pos ⟨hempty, htones⟩]
        exact congrArg some (sendCommand_toOption hslot rfl rfl)
      · rw [if_neg hempty, if_neg htones, if_neg fun h => htones h.2]
        rfl

theorem says_swap (hcount : cfg.modemActiveCount ≤ 10) :
    Says cfg ctx "swap" (telephonytoolCmdSwapCall cfg (some ctx) true) := by
  refine says_twoWords (fun _ => some (.call, some ⟨"SwapCalls", []⟩)) hcount ?_ ?_
  · rintro (_ | ⟨_, _ | ⟨_, _ | _⟩⟩) <;> rfl
  · intro slotId word hreadable slot hslot
    have hnumber : numberOf word = some (atoi word) := if_pos (hreadable (by decide) rfl)
    simp only [List.getD_cons_succ, List.getD_cons_zero, hnumber, Option.map_some]
    -- to hold a call and to resume it is the same message
    split <;> exact congrArg some (manageCall_toOption hslot "SwapCalls")

theorem says_deleteSms (hcount : cfg.modemActiveCount ≤ 10) :
    Says cfg ctx "delete-sms-from-sim"
      (telephonytoolTapiSmsDeleteMessageFromSim cfg (some ctx) true) := by
  refine Says.unless_empty (says_twoWords (fun index => if 0 ≤ atoi index then
    some (.sms, some ⟨"DeleteMessageFromSim", [.int32 (atoi index)]⟩) else none) hcount ?_ ?_) rfl
  · rintro (_ | ⟨slot, _ | ⟨index, _ | _⟩⟩)
    · rfl
    · rfl
    · by_cases hindex : 0 ≤ atoi index
      · simp [meaning, twoWords, hindex]
      · simp [meaning, twoWords, hindex]
    · rfl
  · intro slotId index hreadable slot hslot
    have hnumber : numberOf index = some (atoi index) := if_pos (hreadable (by decide) rfl)
    simp only [List.getD_cons_succ, List.getD_cons_zero, hnumber, Option.map_some]
    by_cases hindex : 0 ≤ atoi index
    · rw [if_pos hindex]
      exact congrArg some (sendCommand_toOption hslot (by simp [unlessInvalid, hindex]) rfl)
    · rw [if_neg hindex]
      exact congrArg some (sendCommand_toOption_of_refused (by simp [unlessInvalid, hindex]))

theorem says_imsEnable (hcount : cfg.modemActiveCount ≤ 10) :
    Says cfg ctx "enable-ims" (telephonytoolCmdImsEnable cfg (some ctx) true) := by
  refine says_twoWords (fun action =>
    if atoi action = 1 then some (.ims, some ⟨"Register", []⟩)
    else if atoi action = 0 then some (.ims, some ⟨"Unregister", []⟩)
    else none) hcount ?_ ?_
  · rintro (_ | ⟨_, _ | ⟨action, _ | _⟩⟩)
    · rfl
    · rfl
    · rw [meaning, twoWords]
      split_ifs <;> rfl
    · rfl
  · intro slotId action hreadable slot hslot
    have hnumber : numberOf action = some (atoi action) := if_pos (hreadable (by decide) rfl)
    simp only [List.getD_cons_succ, List.getD_cons_zero, hnumber, Option.map_some]
    by_cases hon : atoi action = 1
    · rw [hon, if_neg (by decide), if_pos rfl, if_pos rfl, Ims.tapiImsTurnOn, Ims.tapiImsEnable,
        if_pos rfl]
      exact congrArg some (sendCommand_toOption hslot rfl rfl)
    · by_cases hoff : atoi action = 0
      · rw [hoff, if_pos rfl, if_neg (by decide), if_pos rfl, Ims.tapiImsTurnOff,
          Ims.tapiImsEnable, if_neg (by decide), if_pos rfl]
        exact congrArg some (sendCommand_toOption hslot rfl rfl)
      · rw [if_neg hon, if_neg hoff, if_neg hoff, if_neg hon]
        rfl

theorem says_imsService (hcount : cfg.modemActiveCount ≤ 10) :
    Says cfg ctx "set-ims-cap" (telephonytoolCmdSetImsService cfg (some ctx) true) := by
  refine says_twoWords (fun capability =>
    some (.ims, some ⟨"SetCapability", [.int32 (atoi capability)]⟩)) hcount ?_ ?_
  · rintro (_ | ⟨_, _ | ⟨_, _ | _⟩⟩) <;> rfl
  · intro slotId word hreadable slot hslot
    have hnumber : numberOf word = some (atoi word) := if_pos (hreadable (by decide) rfl)
    simp only [List.getD_cons_succ, List.getD_cons_zero, hnumber, Option.map_some]
    exact congrArg some (sendCommand_toOption hslot rfl rfl)

/-- Each of the commands sends what its words say. -/
theorem says_of_mem (hcount : cfg.modemActiveCount ≤ 10) :
    ∀ e ∈ sendingCommands cfg (some ctx) true, ∃ f, e.2 = some f ∧ Says cfg ctx e.1 f := by
  have hanswer : ∀ words, meaning "answer_0" words =
      twoWords (fun callId => some (.call, toCall "Answer" callId)) words := by
    rintro (_ | ⟨_, _ | ⟨_, _ | _⟩⟩) <;> rfl
  have hhangup : ∀ words, meaning "hangup_0" words =
      twoWords (fun callId => some (.call, toCall "Hangup" callId)) words := by
    rintro (_ | ⟨_, _ | ⟨_, _ | _⟩⟩) <;> rfl
  have hrequest : ∀ words, meaning "request-network" words =
      twoWords (fun type => some (.data, some ⟨"RequestNetwork", [.string type]⟩)) words := by
    rintro (_ | ⟨_, _ | ⟨_, _ | _⟩⟩) <;> rfl
  have hrelease : ∀ words, meaning "release-network" words =
      twoWords (fun type => some (.data, some ⟨"ReleaseNetwork", [.string type]⟩)) words := by
    rintro (_ | ⟨_, _ | ⟨_, _ | _⟩⟩) <;> rfl
  simp only [sendingCommands, List.forall_mem_cons]
  exact ⟨⟨_, rfl, says_answerHangup hcount hanswer⟩, ⟨_, rfl, says_answerHangup hcount hhangup⟩,
    ⟨_, rfl, says_manageCall hcount rfl fun _ _ => rfl⟩,
    ⟨_, rfl, says_manageCall hcount rfl fun _ _ => rfl⟩,
    ⟨_, rfl, says_manageCall hcount rfl fun _ _ => rfl⟩, ⟨_, rfl, says_swap hcount⟩,
    ⟨_, rfl, says_manageCall hcount rfl fun _ _ => rfl⟩,
    ⟨_, rfl, says_manageCall hcount rfl fun _ _ => rfl⟩, ⟨_, rfl, says_transfer hcount⟩,
    ⟨_, rfl, says_sendTones hcount⟩, ⟨_, rfl, (says_network hcount hrequest).unless_empty rfl⟩,
    ⟨_, rfl, (says_network hcount hrelease).unless_empty rfl⟩, ⟨_, rfl, says_deleteSms hcount⟩,
    ⟨_, rfl, says_imsEnable hcount⟩, ⟨_, rfl, says_imsService hcount⟩, nofun⟩

end

/-! ## Sessions -/

/-- What a command has sent. -/
def sentBy (result : Option (Except ℤ Sent)) : Option Sent := result.bind Except.toOption

section

variable {cfg : Config} {ctx : DbusContext} {others : Commands (Except ℤ Sent)}
  {l : TypedLine}

/-- The names of the commands that send a message and wait for nothing. -/
def sendingNames : List String := [
  "answer_0", "hangup_0", "release_and_answer", "hold_and_answer", "release_and_swap", "swap",
  "hangup-all", "hangup-all-multiparty", "transfer", "send-tones", "request-network",
  "release-network", "delete-sms-from-sim", "enable-ims", "set-ims-cap"]

/-- What is to be sent for a line, given what the other commands of the tool do. -/
def TypedLine.toSend (cfg : Config) (ctx : DbusContext) (others : Commands (Except ℤ Sent))
    (l : TypedLine) : Option Sent :=
  if l.cmd.1 ∈ sendingNames then intendedFor cfg ctx l.cmd.1 l.words
  else (telephonytoolExecute others l.cmd.1 l.argText).bind sentBy

/-- The entries of the tool's table, of which only the one that ends a session has no function. -/
def table (cfg : Config) (ctx : DbusContext) (others : Commands (Except ℤ Sent)) :
    Commands (Except ℤ Sent) :=
  sendingCommands cfg (some ctx) true ++ others ++ [("q", none)]

/-- The functions of the other commands are there, and are defined for every argument. -/
def Total (others : Commands (Except ℤ Sent)) : Prop :=
  ∀ e ∈ others, ∃ f, e.2 = some f ∧ ∀ arg, ∃ r, f arg = some r

theorem execute_others (hothers : Total others) {cmd : String} (hquit : cmd ≠ "q") (arg : String) :
    telephonytoolExecute (others ++ [("q", none)]) cmd arg = telephonytoolExecute others cmd arg ∧
      (telephonytoolExecute others cmd arg).isSome = true := by
  induction others with
  | nil =>
    refine ⟨?_, rfl⟩
    simp [telephonytoolExecute, hquit]
  | cons e others ih =>
    obtain ⟨name, pfunc⟩ := e
    obtain ⟨happend, hsome⟩ := ih fun e he => hothers e (List.mem_cons_of_mem _ he)
    rw [List.cons_append, telephonytoolExecute, telephonytoolExecute, happend]
    by_cases hname : cmd = name
    · obtain ⟨f, rfl, hf⟩ := hothers _ List.mem_cons_self
      obtain ⟨r, hr⟩ := hf arg
      simp [hname, hr]
    · simp [hname, hsome]

/-- A line that does not end the session sends what it is to send. -/
theorem execute_table (hcount : cfg.modemActiveCount ≤ 10) (hothers : Total others)
    (hquit : l.cmd.1 ≠ "q") (hreadable : Readable l.cmd.1 l.words) :
    ∃ result, telephonytoolExecute (table cfg ctx others) l.cmd.1 l.argText = some result ∧
      sentBy result = l.toSend cfg ctx others := by
  have hwords : roomy (strtok l.argText ' ') = l.words := by
    rw [TypedLine.strtok_argText, TypedLine.words]
  have hnames : (sendingCommands cfg (some ctx) true).map Prod.fst = sendingNames := rfl
  rw [table, List.append_assoc, TypedLine.toSend]
  split
  -- every entry with the name of the command sends what the words say
  · rename_i hmem
    rw [← hnames, List.mem_map] at hmem
    have hsays : ∀ e ∈ sendingCommands cfg (some ctx) true, e.1 = l.cmd.1 →
        ∃ f, e.2 = some f ∧ ∃ r, f l.argText = some r ∧
          r.toOption = intendedFor cfg ctx l.cmd.1 l.words := by
      intro e he hname
      obtain ⟨f, hf, hsays⟩ := says_of_mem hcount e he
      rw [hname] at hsays
      have hsaid := hsays l.argText (by rwa [hwords])
      rw [hwords] at hsaid
      obtain ⟨r, hr, hsent⟩ := Option.map_eq_some_iff.mp hsaid
      exact ⟨f, hf, r, hr, hsent⟩
    obtain ⟨r, hexecute, hsent⟩ := execute_append_of_forall hmem hsays
    exact ⟨some r, hexecute, hsent⟩
  · rename_i hmem
    have hnot : ∀ e ∈ sendingCommands cfg (some ctx) true, e.1 ≠ l.cmd.1 := by
      rintro e he hname
      exact hmem (hnames ▸ hname ▸ List.mem_map_of_mem he)
    rw [execute_append_of_not_mem hnot]
    obtain ⟨happend, hsome⟩ := execute_others hothers hquit l.argText
    obtain ⟨result, hresult⟩ := Option.isSome_iff_exists.mp hsome
    exact ⟨result, by rw [happend, hresult], by rw [hresult]; rfl⟩

/-- The messages of a session of lines of words are those that its lines are to send, in order, up
to the line that ends it. -/
theorem messages_text {ls : List TypedLine} (hcount : cfg.modemActiveCount ≤ 10)
    (hothers : Total others) (hreadable : ∀ l ∈ beforeQuit ls, Readable l.cmd.1 l.words) :
    ∃ results, readStdin (table cfg ctx others) (ls.map TypedLine.text) = some results ∧
      results.filterMap sentBy = (beforeQuit ls).filterMap (TypedLine.toSend cfg ctx others) := by
  have hall : ∀ l ∈ beforeQuit ls,
      ∃ result, telephonytoolExecute (table cfg ctx others) l.cmd.1 l.argText = some result ∧
        sentBy result = l.toSend cfg ctx others := by
    intro l hl
    have hquit : l.cmd.1 ≠ "q" := by simpa using List.mem_takeWhile_imp hl
    exact execute_table hcount hothers hquit (hreadable l hl)
  let result (l : TypedLine) :=
    (telephonytoolExecute (table cfg ctx others) l.cmd.1 l.argText).getD none
  refine ⟨(beforeQuit ls).map result, readStdin_text fun l hl => ?_, ?_⟩
  · obtain ⟨r, hr, -⟩ := hall l hl
    simp only [result, hr, Option.getD_some]
  · rw [List.filterMap_map]
    refine List.filterMap_congr fun l hl => ?_
    obtain ⟨r, hr, hsent⟩ := hall l hl
    simp only [result, Function.comp_apply, hr, Option.getD_some, hsent]

/-- A session in which a call is answered, calls are swapped, tones are refused, and what is typed
behind the end is not read. -/
def sampleSession : List TypedLine := [
  { lead := 0, cmd := .ofString "answer_0" (by decide), trail := 1, notShell := by decide
    args := [(0, .ofString "0" (by decide)),
      (2, .ofString "/ril_0/voicecall01" (by decide))] },
  { lead := 2, cmd := .ofString "swap" (by decide), trail := 0, notShell := by decide
    args := [(0, .ofString "1" (by decide)), (0, .ofString "0" (by decide))] },
  { lead := 0, cmd := .ofString "send-tones" (by decide), trail := 0, notShell := by decide
    args := [(0, .ofString "0" (by decide)), (0, .ofString "1a" (by decide))] },
  { lead := 0, cmd := .ofString "q" (by decide), trail := 0, notShell := by decide, args := [] },
  { lead := 0, cmd := .ofString "hangup-all" (by decide), trail := 0, notShell := by decide
    args := [(0, .ofString "0" (by decide))] }]

theorem messages_sampleSession :
    ∃ results,
      readStdin (table twoModems idleContext []) (sampleSession.map TypedLine.text) =
        some results ∧
      results.filterMap sentBy =
        [⟨1, some ⟨"Answer", [.objectPath "/ril_0/voicecall01"]⟩⟩,
          ⟨1, some ⟨"SwapCalls", []⟩⟩] := by
  have hreadable : ∀ l ∈ beforeQuit sampleSession, Readable l.cmd.1 l.words := by decide
  have hsent : (beforeQuit sampleSession).filterMap (TypedLine.toSend twoModems idleContext []) =
      [⟨1, some ⟨"Answer", [.objectPath "/ril_0/voicecall01"]⟩⟩, ⟨1, some ⟨"SwapCalls", []⟩⟩] :=
    rfl
  rw [← hsent]
  exact messages_text (by decide) nofun hreadable

end

end Telephony.Tool
