import Telephony.Request
import Telephony.Strings

/-!
# What a request puts on the bus

A request takes the data of its caller through a block of parameters, or through the record, to a
setup function that appends it to the message. On the way a text may be copied, into a field of
limited size or into a block of its own.

## Main definitions

* `Telephony.Appended.encode` — the value of an argument in the message
* `Telephony.Request.put` — what a request puts on the bus, if it does not fail
* `Telephony.CallerData` — the requests that carry data of the caller, with the message that each is
  to send
* `Telephony.CallerData.Carried` — the message carries the data, or the request fails
* `Telephony.CallerData.Fits`, `Telephony.CallerData.Copied` — the data that the request can carry,
  and the memory that it takes

## Main results

* `Telephony.Submission.code_eq` — a request that puts a message on the bus succeeds, and the others
  fail
* `Telephony.CallerData.carried_iff` — a request carries the data exactly if it fits and its texts
  can be copied
-/

namespace Telephony

open DBus Ledger

/-! ## Messages -/

/-- The value of an argument in the message, given whether there is memory for a copy that is made
of it. To append NULL or a path that is none is undefined. -/
def Appended.encode (strdup : Bool) : Appended → Option Value
  | .value v => some v
  | .text .objectPath (.text s) => if Data.validPath s then some (.objectPath s) else none
  | .text t (.text s) => some (.text t s)
  | .text _ _ => none
  | .copied s => if strdup then some (.string s) else none
  | .variant (.text s) => some (.variant (.string s))
  | .variant _ => none
  | .bytes ns => ns.map fun ns => .array (.fixed .byte) (ns.map .byte)
  | .strings ss => ss.map fun ss => .array (.text .string) (ss.map .string)

section Encode

variable (strdup : Bool) (text : String)

@[simp] theorem Appended.encode_value (v : Value) :
    (Appended.value v).encode strdup = some v := rfl

@[simp] theorem Appended.encode_string :
    (Appended.text .string (.text text)).encode strdup = some (.string text) := rfl

@[simp] theorem Appended.encode_objectPath :
    (Appended.text .objectPath (.text text)).encode strdup =
      if Data.validPath text then some (.objectPath text) else none := rfl

@[simp] theorem Appended.encode_copied :
    (Appended.copied text).encode strdup = if strdup then some (.string text) else none := rfl

@[simp] theorem Appended.encode_variant :
    (Appended.variant (.text text)).encode strdup = some (.variant (.string text)) := rfl

@[simp] theorem Appended.encode_variant_wild :
    (Appended.variant .wild).encode strdup = none := rfl

@[simp] theorem Appended.encode_strings (ss : Option (List String)) :
    (Appended.strings ss).encode strdup =
      ss.map fun ss => .array (.text .string) (ss.map .string) := rfl

/-- A text that the request could not copy is NULL. -/
@[simp] theorem Appended.encode_strdup0 (granted : Block → Bool) (i : ℕ) :
    (Appended.text .string (Sms.strdup0 granted i (.text text))).encode strdup =
      if granted (.text i) then some (.string text) else none := by
  unfold Sms.strdup0
  split <;> rfl

end Encode

/-- A method call on the bus. -/
structure BusMessage where
  member : String
  args : List Value

/-- The arguments of a message, given for each place whether there is memory for a copy. -/
def encodeArgs (strdup : ℕ → Bool) (appended : List Appended) : Option (List Value) :=
  appended.zipIdx.mapM fun p => p.1.encode (strdup p.2)

namespace Submission

/-- The message that is built from the user data. A property is set to its value. -/
def message (s : Submission) (strdup : ℕ → Bool) (userData : UserData) : Option BusMessage :=
  match s.call with
  | .method name => (encodeArgs strdup (s.setup userData).appended).map fun args => ⟨name, args⟩
  | .property name value => (value.encode (strdup 0)).map fun v => ⟨name, [.variant v]⟩

/-- What the request puts on the bus, or the code that it returns without doing so. The message may
be undefined. -/
def put (s : Submission) (granted : Block → Bool) (strdup : ℕ → Bool)
    (block : AsyncResult Payload) (accepts : Bool) : Except ℤ (Option BusMessage) :=
  match (acquire granted s.steps).2 with
  | some code => .error code
  | none =>
    if accepts then .ok (s.message strdup (s.userData granted block)) else .error (-einval)

/-- The code of a request is the one that it fails with, or OK. -/
theorem code_eq (s : Submission) (granted : Block → Bool) (strdup : ℕ → Bool)
    (block : AsyncResult Payload) (accepts : Bool) :
    s.code granted accepts = match s.put granted strdup block accepts with
      | .error code => code
      | .ok _ => ok := by
  unfold code put
  cases (acquire granted s.steps).2 with
  | some code => rfl
  | none => cases accepts <;> rfl

/-- The request calls a method, with what its setup function appends to the message. -/
def Builds (s : Submission) (granted : Block → Bool) (block : AsyncResult Payload)
    (member : String) (appended : List Appended) : Prop :=
  s.call = .method member ∧ (s.setup (s.userData granted block)).appended = appended

theorem Builds.message {s : Submission} {granted : Block → Bool} {block : AsyncResult Payload}
    {member : String} {appended : List Appended} {strdup : ℕ → Bool}
    (h : s.Builds granted block member appended) :
    s.message strdup (s.userData granted block) =
      (encodeArgs strdup appended).map fun args => ⟨member, args⟩ := by
  obtain ⟨hcall, rfl⟩ := h
  rw [Submission.message, hcall]

end Submission

/-- What a request puts on the bus, or the code that it returns without doing so. -/
def Request.put (r : Request) (c : Caller) (granted : Block → Bool) (strdup : ℕ → Bool)
    (block : AsyncResult Payload) (accepts : Bool) : Option (Except ℤ (Option BusMessage)) :=
  (r.submit c).map fun
    | .error code => .error code
    | .ok s => s.put granted strdup block accepts

namespace Request

variable {r : Request} {c : Caller} {s : Submission} {granted : Block → Bool} {strdup : ℕ → Bool}
  {block : AsyncResult Payload} {code : ℤ}

theorem put_of_error (h : r.submit c = some (.error code)) (accepts : Bool) :
    r.put c granted strdup block accepts = some (.error code) := by
  simp [put, h]

theorem put_of_acquired (h : r.submit c = some (.ok s))
    (hdone : (acquire granted s.steps).2 = none) (accepts : Bool) :
    r.put c granted strdup block accepts =
      some (if accepts then .ok (s.message strdup (s.userData granted block))
        else .error (-einval)) := by
  simp [put, h, Submission.put, hdone]

theorem put_of_not_acquired (h : r.submit c = some (.ok s))
    (hfailed : (acquire granted s.steps).2 = some code) (accepts : Bool) :
    r.put c granted strdup block accepts = some (.error code) := by
  simp [put, h, Submission.put, hfailed]

/-- A request fails, or it has all its blocks and puts its message on the bus. -/
theorem exists_put {submitted : Except ℤ Submission} (h : r.submit c = some submitted)
    (granted : Block → Bool) (strdup : ℕ → Bool) (block : AsyncResult Payload)
    (accepts : Bool) :
    ∃ sent, r.put c granted strdup block accepts = some sent ∧
      ((∃ code, sent = .error code) ∨ ∃ s, submitted = .ok s ∧
        (acquire granted s.steps).2 = none ∧
          sent = .ok (s.message strdup (s.userData granted block))) := by
  cases submitted with
  | error code => exact ⟨_, put_of_error h accepts, .inl ⟨code, rfl⟩⟩
  | ok s =>
    cases hacquired : (acquire granted s.steps).2 with
    | some code => exact ⟨_, put_of_not_acquired h hacquired accepts, .inl ⟨code, rfl⟩⟩
    | none =>
      refine ⟨_, put_of_acquired h hacquired accepts, ?_⟩
      cases accepts with
      | false => exact .inl ⟨-einval, rfl⟩
      | true => exact .inr ⟨s, rfl, hacquired, rfl⟩

end Request

/-! ## Data of the caller -/

/-- The requests that carry data of the caller. -/
inductive CallerData
  | dial (number : String) (hideCallerid : ℤ)
  | deflect (callId number : String)
  | dialConference (participants : List String)
  | inviteParticipants (participants : List String)
  | sendMessage (smsId : ℤ) (number text : String)
  | sendDataMessage (smsId : ℤ) (destAddr : String) (port : ℤ) (text : String)
  | copyMessageToSim (number text sendTime : String) (type : ℤ)
  | changePin (pinType oldPin newPin : String)
  | enterPin (pinType pin : String)
  | resetPin (pukType puk newPin : String)
  | lockPin (pinType pin : String)
  | unlockPin (pinType pin : String)
  | insertFdnEntry (name number pin2 : String)
  | updateFdnEntry (fdnIdx : ℤ) (newName newNumber pin2 : String)
  | deleteFdnEntry (fdnIdx : ℤ) (pin2 : String)
  | addApnContext (apn : DataContext)
  | editApnContext (apn : DataContext) (id : String)
  | selectManual (network : OperatorInfo)
  | setCallBarringOption (facility pin2 : String)
  | changeCallBarringPassword (oldPasswd newPasswd : String)
  | disableAllCallBarrings (passwd : String)
  | disableAllIncoming (passwd : String)
  | disableAllOutgoing (passwd : String)
  | initiateService (command : String)
  | sendUssd (reply : String)

namespace CallerData

/-- The call of the library. `foundIdx` is what the block of a new entry is found with. -/
def request (foundIdx : ℤ) : CallerData → Request
  | dial number hideCallerid => .dial number hideCallerid
  | deflect callId number => .deflect (.text callId) (.text number)
  | dialConference participants => .dialConference participants participants.length
  | inviteParticipants participants => .inviteParticipants participants participants.length
  | sendMessage smsId number text => .sendMessage smsId (.text number) (.text text)
  | sendDataMessage smsId destAddr port text =>
    .sendDataMessage smsId (.text destAddr) port (.text text)
  | copyMessageToSim number text sendTime type =>
    .copyMessageToSim (.text number) (.text text) (.text sendTime) type
  | changePin pinType oldPin newPin => .changePin (.text pinType) (.text oldPin) (.text newPin)
  | enterPin pinType pin => .enterPin (.text pinType) (.text pin)
  | resetPin pukType puk newPin => .resetPin (.text pukType) (.text puk) (.text newPin)
  | lockPin pinType pin => .lockPin (.text pinType) (.text pin)
  | unlockPin pinType pin => .unlockPin (.text pinType) (.text pin)
  | insertFdnEntry name number pin2 =>
    .insertFdnEntry foundIdx (.text name) (.text number) (.text pin2)
  | updateFdnEntry fdnIdx newName newNumber pin2 =>
    .updateFdnEntry fdnIdx (.text newName) (.text newNumber) (.text pin2)
  | deleteFdnEntry fdnIdx pin2 => .deleteFdnEntry fdnIdx (.text pin2)
  | addApnContext apn => .addApnContext (some apn)
  | editApnContext apn id => .editApnContext (some { apn with id := .text id })
  | selectManual network => .selectManual (some network)
  | setCallBarringOption facility pin2 => .setCallBarringOption (.text facility) (.text pin2)
  | changeCallBarringPassword oldPasswd newPasswd =>
    .changeCallBarringPassword (.text oldPasswd) (.text newPasswd)
  | disableAllCallBarrings passwd => .disableAllCallBarrings (.text passwd)
  | disableAllIncoming passwd => .disableAllIncoming (.text passwd)
  | disableAllOutgoing passwd => .disableAllOutgoing (.text passwd)
  | initiateService command => .initiateService (.text command)
  | sendUssd reply => .sendUssd (.text reply)

/-- The arguments that describe an access point. -/
def apnArgs (apn : DataContext) : List Value :=
  [.string (Data.tapiUtilsApnTypeToString apn.type), .string apn.name,
    .string apn.accesspointname, .string apn.username, .string apn.password,
    .int32 (Data.DataProto.value apn.protocol), .int32 (Data.DataAuthMethod.value apn.authMethod)]

/-- The property of a facility of call barring, and the value that locks it. -/
def barringLock (facility : String) : String × String :=
  if facility = "AO" then ("VoiceOutgoing", "all")
  else if facility = "OI" then ("VoiceOutgoing", "international")
  else if facility = "OX" then ("VoiceOutgoing", "internationalnothome")
  else if facility = "AI" then ("VoiceIncoming", "always")
  else ("VoiceIncoming", "whenroaming")

/-- The message that the request is to send. -/
def message : CallerData → BusMessage
  | dial number hideCallerid =>
    ⟨"Dial", [.string number, .string (Call.hideCalleridStr hideCallerid)]⟩
  | deflect callId number => ⟨"Deflect", [.objectPath callId, .string number]⟩
  | dialConference participants =>
    ⟨"DialConference", [.array (.text .string) (participants.map .string)]⟩
  | inviteParticipants participants =>
    ⟨"InviteParticipants", [.array (.text .string) (participants.map .string)]⟩
  | sendMessage _ number text => ⟨"SendMessage", [.string number, .string text]⟩
  | sendDataMessage _ destAddr port text =>
    ⟨"SendDataMessage", [.string destAddr, .uint32 port, .string text]⟩
  | copyMessageToSim number text sendTime type =>
    ⟨"InsertMessageToSim", [.string number, .string text, .int32 type, .string sendTime]⟩
  | changePin pinType oldPin newPin =>
    ⟨"ChangePin", [.string pinType, .string oldPin, .string newPin]⟩
  | enterPin pinType pin => ⟨"EnterPin", [.string pinType, .string pin]⟩
  | resetPin pukType puk newPin => ⟨"ResetPin", [.string pukType, .string puk, .string newPin]⟩
  | lockPin pinType pin => ⟨"LockPin", [.string pinType, .string pin]⟩
  | unlockPin pinType pin => ⟨"UnlockPin", [.string pinType, .string pin]⟩
  | insertFdnEntry name number pin2 =>
    ⟨"InsertFdn", [.string name, .string number, .string pin2]⟩
  | updateFdnEntry fdnIdx newName newNumber pin2 =>
    ⟨"UpdateFdn", [.string newName, .string newNumber, .string pin2, .int32 fdnIdx]⟩
  | deleteFdnEntry fdnIdx pin2 => ⟨"DeleteFdn", [.string pin2, .int32 fdnIdx]⟩
  | addApnContext apn => ⟨"AddContext", apnArgs apn⟩
  | editApnContext apn id => ⟨"EditContext", .objectPath id :: apnArgs apn⟩
  | selectManual network =>
    ⟨"RegisterManual", [.string network.mcc, .string network.mnc, .string network.technology]⟩
  | setCallBarringOption facility pin2 =>
    ⟨"SetProperty", [.string (barringLock facility).1, .variant (.string (barringLock facility).2),
      .string pin2]⟩
  | changeCallBarringPassword oldPasswd newPasswd =>
    ⟨"ChangePassword", [.string oldPasswd, .string newPasswd]⟩
  | disableAllCallBarrings passwd => ⟨"DisableAll", [.string passwd]⟩
  | disableAllIncoming passwd => ⟨"DisableAllIncoming", [.string passwd]⟩
  | disableAllOutgoing passwd => ⟨"DisableAllOutgoing", [.string passwd]⟩
  | initiateService command => ⟨"Initiate", [.string command]⟩
  | sendUssd reply => ⟨"Respond", [.string reply]⟩

/-- The memory for copies: of the texts that a request keeps, by their number, and of those that a
setup function copies, by their place in the message. -/
structure Memory where
  texts : ℕ → Bool
  strdup : ℕ → Bool

/-- The blocks that are granted, with the texts among them. -/
def Memory.granting (m : Memory) (blocks : Block → Bool) : Block → Bool
  | .text i => m.texts i
  | b => blocks b

@[simp] theorem Memory.granting_text (m : Memory) (blocks : Block → Bool) (i : ℕ) :
    m.granting blocks (.text i) = m.texts i := rfl

/-- Whoever calls, and whatever is granted and accepted: the request fails, or the message is the
one that it is to send. -/
def Carried (m : Memory) (d : CallerData) : Prop :=
  ∀ (c : Caller) (foundIdx : ℤ) (blocks : Block → Bool) (block : AsyncResult Payload)
    (accepts : Bool), ∃ sent,
      (d.request foundIdx).put c (m.granting blocks) m.strdup block accepts = some sent ∧
        ((∃ code, sent = .error code) ∨ sent = .ok (some d.message))

/-- The facilities of call barring. -/
def facilities : List String := ["AO", "OI", "OX", "AI", "IR"]

/-- The number is not too long, the id is a path, and the facility is known. -/
def Fits : CallerData → Prop
  | dial number _ => number.utf8ByteSize ≤ Call.maxPhoneNumberLength
  | deflect callId _ => Data.validPath callId = true
  | editApnContext _ id => Data.validPath id = true
  | setCallBarringOption facility _ => facility ∈ facilities
  | _ => True

/-- There is memory for the texts that are copied on the way. A network whose id is too long is
refused before. -/
def Copied (m : Memory) : CallerData → Prop
  | sendMessage _ _ _ | sendDataMessage _ _ _ _ => m.texts 0 = true ∧ m.texts 1 = true
  | copyMessageToSim _ _ _ _ => m.texts 0 = true ∧ m.texts 1 = true ∧ m.texts 2 = true
  | addApnContext _ => ∀ i ∈ [1, 2, 3, 4], m.strdup i = true
  | editApnContext _ _ => ∀ i ∈ [2, 3, 4, 5], m.strdup i = true
  | selectManual network =>
    Network.fitsNetworkInfo (some network) = true → ∀ i ∈ [0, 1, 2], m.strdup i = true
  | _ => True

/-! ### The arguments of a message -/

section Messages

variable {m : Memory} {d : CallerData} {c : Caller} {foundIdx : ℤ} {blocks : Block → Bool}
  {block : AsyncResult Payload} {s : Submission}

theorem firstOf_length (xs : List String) : firstOf xs.length xs = some xs := by
  simp [firstOf]

/-- A facility that is known has its property and its value, and no other has a value. -/
theorem callBarring_of_mem {facility : String} (h : facility ∈ facilities) :
    Ss.callBarringKey (.text facility) = (barringLock facility).1 ∧
      Ss.callBarringValue (.text facility) = .text (barringLock facility).2 := by
  simp only [facilities, List.mem_cons, List.not_mem_nil, or_false] at h
  obtain rfl | rfl | rfl | rfl | rfl := h <;> exact ⟨rfl, rfl⟩

theorem callBarringValue_of_not_mem {facility : String} (h : facility ∉ facilities) :
    Ss.callBarringValue (.text facility) = .wild := by
  have hnone : Ss.callBarringInfo.lookup facility = none := by
    rw [List.lookup_eq_none_iff]
    intro entry hentry
    simp only [bne_iff_ne]
    rintro rfl
    apply h
    simp only [Ss.callBarringInfo, List.mem_cons, List.not_mem_nil, or_false] at hentry
    obtain rfl | rfl | rfl | rfl | rfl := hentry <;> simp [facilities]
  simp [Ss.callBarringValue, hnone]

/-- An access point is carried from its place on if its four texts can be copied. -/
theorem encode_apnContextFields (strdup : ℕ → Bool) (apn : DataContext) (k : ℕ) :
    ((Data.apnContextFields apn).zipIdx k).mapM (fun p => p.1.encode (strdup p.2)) =
      if [k + 1, k + 2, k + 3, k + 4].all strdup then some (apnArgs apn) else none := by
  cases h₁ : strdup (k + 1) <;> cases h₂ : strdup (k + 2) <;> cases h₃ : strdup (k + 3) <;>
    cases h₄ : strdup (k + 4) <;>
    simp [Data.apnContextFields, apnArgs, h₁, h₂, h₃, h₄]

theorem builds_of_withProxy {cfg : Config} {context : Option DbusContext} {slotId : ℤ}
    {type : ProxyType} (check : DbusContext → Option ℤ) {submission : Ptr → Submission}
    {granted : Block → Bool} {member : String} {appended : List Appended}
    (h : withProxy cfg context slotId type check submission = .ok s)
    (hp : ∀ proxy, (submission proxy).Builds granted block member appended) :
    s.Builds granted block member appended :=
  Request.of_withProxy (p := fun s => s.Builds granted block member appended) check h hp

/-- A conference has all participants, in their order. -/
theorem message_managerConference (cfg : Config) (context : Option DbusContext) (slotId : ℤ)
    (member : String) (participants : List String) (granted : Block → Bool)
    (strdup : ℕ → Bool) (block : AsyncResult Payload) :
    let s := Call.managerConference cfg context slotId member participants participants.length
    s.message strdup (s.userData granted block) =
      some ⟨member, [.array (.text .string) (participants.map .string)]⟩ := by
  intro s
  have hbuilds : s.Builds granted block member
      [.strings (firstOf participants.length participants)] :=
    Request.of_managerConference (p := fun s => s.Builds granted block member _)
      fun _ _ _ => ⟨rfl, rfl⟩
  simp [hbuilds.message, encodeArgs, firstOf_length]

/-- The number is cut off where it is too long. -/
theorem message_dial_iff {number : String} {hideCallerid : ℤ}
    (h : ((dial number hideCallerid).request foundIdx).submit c = some (.ok s)) :
    s.message m.strdup (s.userData (m.granting blocks) block) =
        some (dial number hideCallerid).message ↔
      number.utf8ByteSize ≤ Call.maxPhoneNumberLength := by
  have hbuilds : s.Builds (m.granting blocks) block "Dial"
      [.value (.string (snprintf Call.maxPhoneNumberLength number)),
        .value (.string (Call.hideCalleridStr hideCallerid))] :=
    builds_of_withProxy _ (Option.some.inj h) fun _ => ⟨rfl, rfl⟩
  have hcut : snprintf Call.maxPhoneNumberLength number = number ↔
      number.utf8ByteSize ≤ Call.maxPhoneNumberLength := snprintf_eq_self_iff
  simp [hbuilds.message, encodeArgs, message, hcut]

/-- A text that is no path cannot be appended as one. -/
theorem message_deflect_iff {callId number : String}
    (h : ((deflect callId number).request foundIdx).submit c = some (.ok s)) :
    s.message m.strdup (s.userData (m.granting blocks) block) =
        some (deflect callId number).message ↔
      Data.validPath callId = true := by
  have hbuilds : s.Builds (m.granting blocks) block "Deflect"
      [.text .objectPath (.text callId), .text .string (.text number)] :=
    builds_of_withProxy _ (Option.some.inj h) fun _ => ⟨rfl, rfl⟩
  cases hpath : Data.validPath callId <;> simp [hbuilds.message, encodeArgs, message, hpath]

/-- The number and the text are appended as they were copied. -/
theorem message_sendMessage_iff {smsId : ℤ} {number text : String}
    (h : ((sendMessage smsId number text).request foundIdx).submit c = some (.ok s)) :
    s.message m.strdup (s.userData (m.granting blocks) block) =
        some (sendMessage smsId number text).message ↔
      m.texts 0 = true ∧ m.texts 1 = true := by
  have hbuilds : s.Builds (m.granting blocks) block "SendMessage"
      [.text .string (Sms.strdup0 (m.granting blocks) 0 (.text number)),
        .text .string (Sms.strdup0 (m.granting blocks) 1 (.text text))] :=
    builds_of_withProxy _ (Option.some.inj h) fun _ => ⟨rfl, rfl⟩
  cases h0 : m.texts 0 <;> cases h1 : m.texts 1 <;>
    simp [hbuilds.message, encodeArgs, message, h0, h1]

theorem message_sendDataMessage_iff {smsId port : ℤ} {destAddr text : String}
    (h : ((sendDataMessage smsId destAddr port text).request foundIdx).submit c = some (.ok s)) :
    s.message m.strdup (s.userData (m.granting blocks) block) =
        some (sendDataMessage smsId destAddr port text).message ↔
      m.texts 0 = true ∧ m.texts 1 = true := by
  have hbuilds : s.Builds (m.granting blocks) block "SendDataMessage"
      [.text .string (Sms.strdup0 (m.granting blocks) 0 (.text destAddr)),
        .value (.uint32 port),
        .text .string (Sms.strdup0 (m.granting blocks) 1 (.text text))] :=
    builds_of_withProxy _ (Option.some.inj h) fun _ => ⟨rfl, rfl⟩
  cases h0 : m.texts 0 <;> cases h1 : m.texts 1 <;>
    simp [hbuilds.message, encodeArgs, message, h0, h1]

theorem message_copyMessageToSim_iff {number text sendTime : String} {type : ℤ}
    (h : ((copyMessageToSim number text sendTime type).request foundIdx).submit c =
      some (.ok s)) :
    s.message m.strdup (s.userData (m.granting blocks) block) =
        some (copyMessageToSim number text sendTime type).message ↔
      m.texts 0 = true ∧ m.texts 1 = true ∧ m.texts 2 = true := by
  have hbuilds : s.Builds (m.granting blocks) block "InsertMessageToSim"
      [.text .string (Sms.strdup0 (m.granting blocks) 1 (.text number)),
        .text .string (Sms.strdup0 (m.granting blocks) 0 (.text text)), .value (.int32 type),
        .text .string (Sms.strdup0 (m.granting blocks) 2 (.text sendTime))] :=
    builds_of_withProxy _ (Option.some.inj h) fun _ => ⟨rfl, rfl⟩
  cases h0 : m.texts 0 <;> cases h1 : m.texts 1 <;> cases h2 : m.texts 2 <;>
    simp [hbuilds.message, encodeArgs, message, h0, h1, h2]

/-- The four texts of an access point are behind its type. -/
theorem message_addApnContext_iff {apn : DataContext}
    (h : ((addApnContext apn).request foundIdx).submit c = some (.ok s)) :
    s.message m.strdup (s.userData (m.granting blocks) block) =
        some (addApnContext apn).message ↔
      ∀ i ∈ [1, 2, 3, 4], m.strdup i = true := by
  have hbuilds : s.Builds (m.granting blocks) block "AddContext" (Data.apnContextFields apn) :=
    builds_of_withProxy (unlessInvalid true) (Option.some.inj h) fun _ => ⟨rfl, rfl⟩
  rw [hbuilds.message, encodeArgs, encode_apnContextFields, ← List.all_eq_true]
  cases hcopies : [1, 2, 3, 4].all m.strdup <;> simp_all [message]

theorem message_editApnContext_iff {apn : DataContext} {id : String}
    (h : ((editApnContext apn id).request foundIdx).submit c = some (.ok s)) :
    s.message m.strdup (s.userData (m.granting blocks) block) =
        some (editApnContext apn id).message ↔
      Data.validPath id = true ∧ ∀ i ∈ [2, 3, 4, 5], m.strdup i = true := by
  have hbuilds : s.Builds (m.granting blocks) block "EditContext"
      (.text .objectPath (.text id) :: Data.apnContextFields apn) :=
    builds_of_withProxy (unlessInvalid true) (Option.some.inj h) fun _ => ⟨rfl, rfl⟩
  rw [hbuilds.message, encodeArgs, List.zipIdx_cons, List.mapM_cons, encode_apnContextFields]
  rw [← List.all_eq_true]
  cases hpath : Data.validPath id <;> cases hcopies : [2, 3, 4, 5].all m.strdup <;>
    simp_all [message]

/-- A network that does not fit has no message, as its request fails before. -/
theorem message_selectManual_iff {network : OperatorInfo}
    (h : ((selectManual network).request foundIdx).submit c = some (.ok s))
    (hdone : (acquire (m.granting blocks) s.steps).2 = none) :
    s.message m.strdup (s.userData (m.granting blocks) block) =
        some (selectManual network).message ↔
      (Network.fitsNetworkInfo (some network) = true → ∀ i ∈ [0, 1, 2], m.strdup i = true) := by
  have hbuilds : s.Builds (m.granting blocks) block "RegisterManual"
      [.copied network.mcc, .copied network.mnc, .copied network.technology] :=
    builds_of_withProxy _ (Option.some.inj h) fun _ => ⟨rfl, rfl⟩
  have hcheck : .check (Network.fitsNetworkInfo (some network)) [.free .handler] (-enomem) ∈
      s.steps :=
    Request.of_withProxy (p := fun s => _ ∈ s.steps) _ (Option.some.inj h) fun _ =>
      .tail _ (.head _)
  have hfits : Network.fitsNetworkInfo (some network) = true :=
    acquire_eq_none_iff.mp hdone _ hcheck
  cases h₀ : m.strdup 0 <;> cases h₁ : m.strdup 1 <;> cases h₂ : m.strdup 2 <;>
    simp [hbuilds.message, encodeArgs, message, hfits, h₀, h₁, h₂]

/-- The value of a facility that is unknown is what the stack holds. -/
theorem message_setCallBarringOption_iff {facility pin2 : String}
    (h : ((setCallBarringOption facility pin2).request foundIdx).submit c = some (.ok s)) :
    s.message m.strdup (s.userData (m.granting blocks) block) =
        some (setCallBarringOption facility pin2).message ↔
      facility ∈ facilities := by
  have hbuilds : s.Builds (m.granting blocks) block "SetProperty"
      [.text .string (.text (Ss.callBarringKey (.text facility))),
        .variant (Ss.callBarringValue (.text facility)), .text .string (.text pin2)] :=
    builds_of_withProxy _ (Option.some.inj h) fun _ => ⟨rfl, rfl⟩
  by_cases hknown : facility ∈ facilities
  · obtain ⟨hkey, hvalue⟩ := callBarring_of_mem hknown
    simp [hbuilds.message, encodeArgs, message, hknown, hkey, hvalue]
  · have hvalue := callBarringValue_of_not_mem hknown
    simp [hbuilds.message, encodeArgs, hknown, hvalue]

/-- The message of a request that has all its blocks is the one that it is to send, if the data
fits and the texts have been copied. -/
theorem message_eq_iff (h : (d.request foundIdx).submit c = some (.ok s))
    (hdone : (acquire (m.granting blocks) s.steps).2 = none) :
    s.message m.strdup (s.userData (m.granting blocks) block) = some d.message ↔
      d.Fits ∧ d.Copied m := by
  let p (s : Submission) : Prop :=
    s.message m.strdup (s.userData (m.granting blocks) block) = some d.message
  cases d with
  -- these are not copied on the way
  | dial _ _ => exact (message_dial_iff h).trans (and_iff_left trivial).symm
  | deflect _ _ => exact (message_deflect_iff h).trans (and_iff_left trivial).symm
  | setCallBarringOption _ _ =>
    exact (message_setCallBarringOption_iff h).trans (and_iff_left trivial).symm
  -- and these have nothing to fit into
  | sendMessage _ _ _ => exact (message_sendMessage_iff h).trans (and_iff_right trivial).symm
  | sendDataMessage _ _ _ _ =>
    exact (message_sendDataMessage_iff h).trans (and_iff_right trivial).symm
  | copyMessageToSim _ _ _ _ =>
    exact (message_copyMessageToSim_iff h).trans (and_iff_right trivial).symm
  | addApnContext _ => exact (message_addApnContext_iff h).trans (and_iff_right trivial).symm
  | selectManual _ =>
    exact (message_selectManual_iff h hdone).trans (and_iff_right trivial).symm
  | editApnContext _ _ => exact message_editApnContext_iff h
  | dialConference _ | inviteParticipants _ =>
    cases Option.some.inj h
    exact iff_of_true (message_managerConference ..) ⟨trivial, trivial⟩
  | disableAllCallBarrings _ | disableAllIncoming _ | disableAllOutgoing _ | initiateService _
  | sendUssd _ =>
    refine iff_of_true ?_ ⟨trivial, trivial⟩
    exact Request.of_withProxy (p := p) (unlessInvalid true) (Option.some.inj h) fun _ => rfl
  | _ =>
    refine iff_of_true ?_ ⟨trivial, trivial⟩
    exact Request.of_withProxy (p := p) _ (Option.some.inj h) fun _ => rfl

/-! ### What is put on the bus -/

/-- A request always gets as far as its checks. -/
theorem exists_submit (d : CallerData) (foundIdx : ℤ) (c : Caller) :
    ∃ submitted, (d.request foundIdx).submit c = some submitted := by
  cases d <;> exact ⟨_, rfl⟩

/-- A request that the data may not fit gets its blocks in the sample. -/
theorem acquired_or_carried (m : Memory) (d : CallerData) :
    (d.Fits ∧ d.Copied m) ∨ ∃ s, (d.request 0).submit Request.sampleCaller = some (.ok s) ∧
      (acquire (m.granting fun _ => true) s.steps).2 = none := by
  cases d with
  | dial _ _ | deflect _ _ | addApnContext _ | editApnContext _ _ | setCallBarringOption _ _ =>
    exact .inr ⟨_, rfl, rfl⟩
  | sendMessage _ _ _ | sendDataMessage _ _ _ _ =>
    refine .inr ⟨_, rfl, acquire_eq_none_iff.mpr ?_⟩
    simp [consumedRequest, Sms.messageThenHandler, Step.Succeeds, Memory.granting]
  | copyMessageToSim _ _ _ _ =>
    refine .inr ⟨_, rfl, acquire_eq_none_iff.mpr ?_⟩
    simp [paramsRequest, Step.Succeeds, Memory.granting]
  | selectManual network =>
    by_cases hfits : Network.fitsNetworkInfo (some network) = true
    · refine .inr ⟨_, rfl, acquire_eq_none_iff.mpr ?_⟩
      simp [plainRequest, Step.Succeeds, Memory.granting, hfits]
    · exact .inl ⟨trivial, fun h => absurd h hfits⟩
  | _ => exact .inl ⟨trivial, trivial⟩

end Messages

variable {m : Memory} {d : CallerData}

theorem fits_of_carried (h : d.Carried m) : d.Fits ∧ d.Copied m := by
  obtain hfits | ⟨s, hsubmit, hdone⟩ := acquired_or_carried m d
  · exact hfits
  obtain ⟨sent, hput, hsent⟩ :=
    h Request.sampleCaller 0 (fun _ => true) Request.sampleBlock true
  rw [Request.put_of_acquired hsubmit hdone, Option.some.injEq] at hput
  subst hput
  obtain ⟨code, hcode⟩ | hmessage := hsent
  · contradiction
  · exact (message_eq_iff hsubmit hdone).mp (Except.ok.inj hmessage)

theorem carried_of_fits (h : d.Fits ∧ d.Copied m) : d.Carried m := by
  intro c foundIdx blocks block accepts
  obtain ⟨submitted, hsubmit⟩ := exists_submit d foundIdx c
  obtain ⟨sent, hput, hfailed | ⟨s, rfl, hdone, rfl⟩⟩ :=
    Request.exists_put hsubmit (m.granting blocks) m.strdup block accepts
  · exact ⟨sent, hput, .inl hfailed⟩
  · exact ⟨_, hput, .inr (congrArg Except.ok ((message_eq_iff hsubmit hdone).mpr h))⟩

/-- A request carries the data of its caller exactly if the data fits and the texts can be copied:
then it fails or its message is the one that it is to send, whoever calls and whatever is granted
and accepted. -/
theorem carried_iff (m : Memory) (d : CallerData) : d.Carried m ↔ d.Fits ∧ d.Copied m :=
  ⟨fits_of_carried, carried_of_fits⟩

/-- A number that is a digit too long. -/
def longNumber : String := String.ofList (List.replicate 81 '1')

/-- With all the memory that it asks for, a request to dial the number cuts it and succeeds. -/
theorem not_carried_longNumber : ¬ Carried ⟨fun _ => true, fun _ => true⟩ (.dial longNumber 0) := by
  intro h
  obtain ⟨hfits, -⟩ := fits_of_carried h
  have hlength : longNumber.utf8ByteSize = 81 := utf8ByteSize_replicate rfl 81
  simp only [Fits, hlength] at hfits
  exact absurd hfits (by decide)

end CallerData

/-! ## Requests that send a message -/

namespace Request

variable {m : CallerData.Memory} {r : Request}

/-- Whoever calls, and whatever is granted and accepted: the request fails or sends the message. -/
def Sends (m : CallerData.Memory) (r : Request) (message : BusMessage) : Prop :=
  ∀ (c : Caller) (blocks : Block → Bool) (block : AsyncResult Payload) (accepts : Bool),
    ∃ sent, r.put c (m.granting blocks) m.strdup block accepts = some sent ∧
      ((∃ code, sent = .error code) ∨ sent = .ok (some message))

/-- A request that builds the same for everyone, and gets that far for the sample, sends what it
builds. -/
theorem sends_iff {message : BusMessage} {built : Option BusMessage}
    (hsubmits : ∀ c, ∃ submitted, r.submit c = some submitted)
    (hsample : ∃ s, r.submit sampleCaller = some (.ok s) ∧
      (acquire (m.granting fun _ => true) s.steps).2 = none)
    (hbuilt : ∀ {c s blocks block}, r.submit c = some (.ok s) →
      s.message m.strdup (s.userData (m.granting blocks) block) = built) :
    r.Sends m message ↔ built = some message := by
  constructor
  · intro h
    obtain ⟨s, hsubmit, hdone⟩ := hsample
    obtain ⟨sent, hput, hsent⟩ := h sampleCaller (fun _ => true) sampleBlock true
    rw [put_of_acquired hsubmit hdone, hbuilt hsubmit, Option.some_inj] at hput
    subst hput
    obtain ⟨code, hcode⟩ | hmessage := hsent
    · contradiction
    · exact Except.ok.inj hmessage
  · rintro rfl c blocks block accepts
    obtain ⟨submitted, hsubmit⟩ := hsubmits c
    obtain ⟨sent, hput, hfailed | ⟨s, rfl, -, rfl⟩⟩ :=
      exists_put hsubmit (m.granting blocks) m.strdup block accepts
    · exact ⟨sent, hput, .inl hfailed⟩
    · exact ⟨_, hput, .inr (congrArg Except.ok (hbuilt hsubmit))⟩

end Request

end Telephony
