import Telephony.Reply

/-!
# Replies to call requests

## Main definitions

* `Call.decodeVoiceCallInfo` — the structure of a call, from its path and properties
* `Call.dialCallCallback`, `Call.playDtmfCallback`, `Call.mergeCallComplete`,
  `Call.callListQueryComplete` — the reply functions of `tapi_call.c`

## Main results

* `Call.isSome_decodeVoiceCallInfo` — which calls can be decoded
* `Call.answers_mergeCallComplete`, `Call.answers_callListQueryComplete_iff` — which replies
  are answered
-/

namespace Telephony.Call

open DBus

variable {handler : AsyncHandler Payload} {message : Message} {ar : AsyncResult Payload}

/-! ## Limits -/

def maxCallIdLength : ℕ := 100
def maxCallLineIdLength : ℕ := 100
def maxCallIncomingLineLength : ℕ := 100
def maxCallNameLength : ℕ := 100
def maxCallStartTimeLength : ℕ := 100
def maxCallInfoLength : ℕ := 100
def maxCallListCount : ℕ := 10
def maxConferenceParticipantCount : ℕ := 6

/-! ## Decoding a call -/

/-- `tapi_utils_call_status_from_string`. -/
def callStatusFromString (status : String) : CallStatus :=
  if status = "active" then .active
  else if status = "held" then .held
  else if status = "dialing" then .dialing
  else if status = "alerting" then .alerting
  else if status = "incoming" then .incoming
  else if status = "waiting" then .waiting
  else if status = "disconnected" then .disconnected
  else .unknow

/-- `call_strcpy`: the text is copied if it fits, and otherwise the field stays. -/
def callStrcpy (dst src : String) (dstSize : ℕ) : String :=
  if src.utf8ByteSize > dstSize then dst else src

/-- The properties that `decode_voice_call_info` knows. -/
def callInfoProperties : PropertyTable CallInfo :=
  [("State", .text fun s info => { info with state := callStatusFromString s }),
    ("LineIdentification", .text fun s info =>
      { info with
        lineIdentification := callStrcpy info.lineIdentification s maxCallLineIdLength }),
    ("IncomingLine", .text fun s info =>
      { info with incomingLine := callStrcpy info.incomingLine s maxCallIncomingLineLength }),
    ("Name", .text fun s info => { info with name := callStrcpy info.name s maxCallNameLength }),
    ("StartTime", .text fun s info =>
      { info with startTime := callStrcpy info.startTime s maxCallStartTimeLength }),
    ("Multiparty", .flag fun b info => { info with multiparty := b }),
    ("RemoteHeld", .flag fun b info => { info with remoteHeld := b }),
    ("RemoteMultiparty", .flag fun b info => { info with remoteMultiparty := b }),
    ("Information", .text fun s info =>
      { info with info := callStrcpy info.info s maxCallInfoLength }),
    ("Icon", .byte fun n info => { info with icon := n }),
    ("Emergency", .flag fun b info => { info with isEmergencyNumber := b }),
    ("DisconnectReason", .int fun n info => { info with disconnectReason := n })]

/-- The structure that `memset` clears. -/
def zeroCallInfo : CallInfo :=
  ⟨"", .active, "", "", "", "", false, false, false, "", 0, false, 0⟩

/-- `decode_voice_call_info`: the return value and the structure. A path that does not fit is
reported by a negative value, before any property is read. -/
def decodeVoiceCallInfo (iter : Iter) : Option (ℤ × CallInfo) :=
  iter.getString.bind fun property =>
    if property.utf8ByteSize > maxCallIdLength then some (-eio, zeroCallInfo)
    else
      iter.next.recurse.bind fun properties =>
        (callInfoProperties.readAll properties { zeroCallInfo with callId := property }).map
          fun info => (1, info)

/-- The call has a path, and the path does not fit or the properties can be read. -/
def readsCall (iter : Iter) : Bool :=
  iter.getString.any fun property =>
    property.utf8ByteSize > maxCallIdLength || iter.next.recurse.any callInfoProperties.readsAll

theorem isSome_decodeVoiceCallInfo (iter : Iter) :
    (decodeVoiceCallInfo iter).isSome = readsCall iter := by
  unfold decodeVoiceCallInfo readsCall
  cases iter.getString with
  | none => rfl
  | some property =>
    by_cases hlong : property.utf8ByteSize > maxCallIdLength
    · simp [hlong]
    · cases iter.next.recurse <;> simp [hlong]

/-! ## Reply functions -/

/-- `dial_call_callback`: the path is the one of the new call. -/
def dialCallCallback (handler : AsyncHandler Payload) (message : Message) : Option Handling :=
  onPathReply handler message

/-- `play_dtmf_callback`. -/
def playDtmfCallback (handler : AsyncHandler Payload) (message : Message) : Option Handling :=
  onStatusReply handler message

/-- The paths at the head of a list, at most `max` of them. -/
def leadingPaths (max : ℕ) : Iter → List String
  | .objectPath path :: it =>
    match max with
    | 0 => []
    | max + 1 => path :: leadingPaths max it
  | _ => []

/-- `merge_call_complete`. -/
def mergeCallComplete (handler : AsyncHandler Payload) (message : Message) : Option Handling :=
  onTypedReply handler message [.paths] fun args ar =>
    (args.recurse.map (leadingPaths maxConferenceParticipantCount)).map fun paths =>
      deliver { ar with data := .texts paths, status := ok, arg2 := paths.length }

/-- The loop of `call_list_query_complete` over the calls of a reply. What
`decode_voice_call_info` returns is not looked at. -/
def decodeCallList (args : Iter) : Option (List CallInfo) :=
  args.recurse.bind fun list =>
    collectUnchecked (fun _ fields => (decodeVoiceCallInfo fields).map Prod.snd)
      maxCallListCount list []

/-- `call_list_query_complete`. -/
def callListQueryComplete (handler : AsyncHandler Payload) (message : Message) :
    Option Handling :=
  onTypedReply handler.failing message [.pathDicts] fun args ar =>
    (decodeCallList args).map fun calls =>
      deliver { ar with arg2 := calls.length, status := ok, data := .callList calls }

/-! ## Which replies are answered -/

theorem answers_mergeCallComplete (hcb : handler.cbFunction ≠ null) :
    Answers message handler.result (mergeCallComplete handler message) := by
  refine (answers_onTypedReply_iff hcb).mpr fun hreply hsig _ => ?_
  obtain ⟨ps, hargs⟩ := Message.args_eq_of_hasSignature_paths hsig
  rw [hargs]
  exact answers_deliver ⟨rfl, rfl, rfl⟩ hreply

/-- A list of calls that `call_list_query_complete` can take: no longer than its array, each
call with properties of the types that it reads. -/
def ReadableCallList (message : Message) : Prop :=
  ∀ ps, message.args = [pathDicts ps] →
    ps.length ≤ maxCallListCount ∧ ∀ p ∈ ps, readsCall [.objectPath p.1, dict p.2] = true

theorem answers_callListQueryComplete_iff (hcb : handler.cbFunction ≠ null) :
    Answers message handler.result (callListQueryComplete handler message) ↔
      (message.isError = false → ReadableCallList message) := by
  have hcb' : handler.failing.cbFunction ≠ null := hcb
  rw [sameOrigin_failing.answers_iff]
  refine Iff.trans (answers_onTypedReply_decode_iff hcb' fun _ _ => ⟨rfl, rfl, rfl⟩) ?_
  refine forall_congr' fun _ => ?_
  rw [Message.forall_pathDicts_iff fun args => (decodeCallList args).isSome = true]
  refine forall₂_congr fun ps _ => ?_
  -- each pass of the loop succeeds exactly if its call can be read
  have hdecode : ∀ (i : ℕ) fields,
      ((decodeVoiceCallInfo fields).map Prod.snd).isSome = readsCall fields := by
    intro _ fields
    simp [isSome_decodeVoiceCallInfo]
  have hloop := isSome_collectUnchecked_iff hdecode ps [] (Nat.zero_le maxCallListCount)
  rw [List.length_nil, Nat.zero_add] at hloop
  exact hloop

end Telephony.Call
