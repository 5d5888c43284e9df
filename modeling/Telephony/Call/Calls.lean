import Telephony.Call.Signal

/-!
# Calls in signals and in lists

A call is an object path with a dictionary of properties. It reaches the application in a
`CallChanged` signal, and as one entry of the reply to `GetCalls`.

## Main definitions

* `Call.callInfoOf` — what a call says: its path, and for each property what its last entry says
* `Call.Fits` — a text that the structure has room for
* `Call.TreatedAlike` — the signal and the list show a call whose path fits, and only such a call
* `Call.ListsCalls` — the list shows the calls that can be decoded

## Main results

* `Call.readAll_callInfoProperties` — the structure that the decoder fills
* `Call.treatedAlike_iff` — which calls are treated alike
* `Call.listsCalls_iff` — which lists are delivered as they should
-/

namespace Telephony.Call

open DBus DBus.PropertyTable

variable {handler : AsyncHandler Payload} {message : Message}

/-! ## What a call says -/

/-- What is left in the structure of a call, given how texts are read. -/
def callInfoFrom (text : Iter → Option String) (properties : Iter) (info : CallInfo) :
    CallInfo where
  callId := info.callId
  state := lastOf "State" (fun v => v.getString.map callStatusFromString) properties info.state
  lineIdentification := lastOf "LineIdentification" text properties info.lineIdentification
  incomingLine := lastOf "IncomingLine" text properties info.incomingLine
  name := lastOf "Name" text properties info.name
  startTime := lastOf "StartTime" text properties info.startTime
  multiparty := lastOf "Multiparty" Iter.getFlag properties info.multiparty
  remoteHeld := lastOf "RemoteHeld" Iter.getFlag properties info.remoteHeld
  remoteMultiparty := lastOf "RemoteMultiparty" Iter.getFlag properties info.remoteMultiparty
  info := lastOf "Information" text properties info.info
  icon := lastOf "Icon" Iter.getByte properties info.icon
  isEmergencyNumber := lastOf "Emergency" Iter.getFlag properties info.isEmergencyNumber
  disconnectReason := lastOf "DisconnectReason" Iter.getInt properties info.disconnectReason

/-- What a call says: its path, and for each property what the last entry says. -/
def callInfoOf (path : String) (properties : Iter) : CallInfo :=
  callInfoFrom Iter.getString properties { zeroCallInfo with callId := path }

/-- A text that the structure has room for. All its arrays have the same length. -/
def Fits (s : String) : Prop := s.utf8ByteSize ≤ maxCallIdLength

instance (s : String) : Decidable (Fits s) := inferInstanceAs (Decidable (_ ≤ _))

/-- The properties that are texts. -/
def textProperties : List String :=
  ["LineIdentification", "IncomingLine", "Name", "StartTime", "Information"]

/-- The texts of the properties fit. -/
def TextsFit (properties : Iter) : Prop :=
  ∀ key ∈ textProperties, Fits (lastOf key Iter.getString properties "")

theorem callStrcpy_eq :
    ∀ max ∈ [maxCallLineIdLength, maxCallIncomingLineLength, maxCallNameLength,
        maxCallStartTimeLength, maxCallInfoLength], ∀ dst src,
      callStrcpy dst src max = ((some src).filter fun s => decide (Fits s)).getD dst := by
  intro max hmax dst src
  obtain rfl : max = maxCallIdLength := by
    simpa [maxCallIdLength, maxCallLineIdLength, maxCallIncomingLineLength, maxCallNameLength,
      maxCallStartTimeLength, maxCallInfoLength] using hmax
  by_cases h : Fits src
  · have hle : ¬ src.utf8ByteSize > maxCallIdLength := Nat.not_lt.mpr h
    simp [callStrcpy, hle, h, Option.filter]
  · have hgt : src.utf8ByteSize > maxCallIdLength := Nat.not_le.mp h
    simp [callStrcpy, hgt, h, Option.filter]

/-- Texts that do not fit are passed over. -/
def fittingText (value : Iter) : Option String := value.getString.filter fun s => decide (Fits s)

/-- The decoder leaves for each property what its last entry says, among those that fit. -/
theorem readAll_callInfoProperties {properties : Iter} {info info' : CallInfo}
    (h : callInfoProperties.readAll properties info = some info') :
    info' = callInfoFrom fittingText properties info := by
  have hcopy := callStrcpy_eq
  simp only [List.forall_mem_cons] at hcopy
  refine foldDict_eq ?_ ?_ h
  · intro it info hstop
    simp only [callInfoFrom, lastOf_of_argType_ne hstop]
  · intro k v it x x' key value hkey hvalue hfill
    -- an entry of one of the twelve properties sets its field, any other sets none
    simp only [callInfoFrom, lastOf_entry hkey hvalue]
    obtain ⟨p, hp, hread⟩ | ⟨hother, rfl⟩ := fill_cases _ hfill
    · simp only [callInfoProperties, List.mem_cons, Prod.mk.injEq, List.not_mem_nil,
        or_false] at hp
      rcases hp with ⟨rfl, rfl⟩ | ⟨rfl, rfl⟩ | ⟨rfl, rfl⟩ | ⟨rfl, rfl⟩ | ⟨rfl, rfl⟩ |
        ⟨rfl, rfl⟩ | ⟨rfl, rfl⟩ | ⟨rfl, rfl⟩ | ⟨rfl, rfl⟩ | ⟨rfl, rfl⟩ | ⟨rfl, rfl⟩ | ⟨rfl, rfl⟩
      all_goals
        obtain ⟨a, ha, rfl⟩ := Option.map_eq_some_iff.mp hread
        simp [ha, fittingText, hcopy]
    · simp only [callInfoProperties, List.forall_mem_cons, List.not_mem_nil] at hother
      simp [hother]

/-- The structure says what the call says exactly if the texts of the call fit. -/
theorem callInfoFrom_fittingText_eq_iff {path : String} {properties : Iter} :
    callInfoFrom fittingText properties { zeroCallInfo with callId := path } =
        callInfoOf path properties ↔ TextsFit properties := by
  have htext : ∀ key, lastOf key fittingText properties "" =
      lastOf key Iter.getString properties "" ↔ Fits (lastOf key Iter.getString properties "") := by
    intro key
    have hempty : Fits "" := by decide
    exact (lastOf_filter_eq_iff (p := fun s => decide (Fits s)) (decide_eq_true hempty)).trans
      decide_eq_true_iff
  simp only [callInfoOf, callInfoFrom, zeroCallInfo, CallInfo.mk.injEq, true_and, and_true, htext,
    TextsFit, textProperties, List.forall_mem_cons]
  simp

/-! ## Decoding -/

variable {path : String} {ps : List (String × Value)}

/-- A path that does not fit is reported as a negative number, which is true. -/
theorem decodeVoiceCallInfo_of_not_fits (h : ¬ Fits path) :
    decodeVoiceCallInfo [.objectPath path, dict ps] = some (-eio, zeroCallInfo) :=
  if_pos (Nat.not_le.mp h)

theorem decodeVoiceCallInfo_of_fits (h : Fits path) :
    decodeVoiceCallInfo [.objectPath path, dict ps] =
      (callInfoProperties.readAll (ps.map entry) { zeroCallInfo with callId := path }).map
        fun info => (1, info) :=
  if_neg (Nat.not_lt.mpr h)

/-- The properties of the call are of the types that they are read as. -/
def Readable (ps : List (String × Value)) : Prop :=
  callInfoProperties.readsAll (ps.map entry) = true

instance (ps : List (String × Value)) : Decidable (Readable ps) :=
  inferInstanceAs (Decidable (_ = true))

/-- A call whose path fits is decoded if its properties can be read. -/
theorem decodeVoiceCallInfo_of_readable (h : Fits path) (hreads : Readable ps) :
    decodeVoiceCallInfo [.objectPath path, dict ps] =
      some (1, callInfoFrom fittingText (ps.map entry) { zeroCallInfo with callId := path }) := by
  rw [decodeVoiceCallInfo_of_fits h]
  rw [Readable, ← isSome_readAll _ _ { zeroCallInfo with callId := path }] at hreads
  obtain ⟨info, hinfo⟩ := Option.isSome_iff_exists.mp hreads
  rw [hinfo, Option.map_some, readAll_callInfoProperties hinfo]

/-- The call can be decoded as it is. -/
structure Sound (path : String) (ps : List (String × Value)) : Prop where
  fits : Fits path
  readable : Readable ps
  texts : TextsFit (ps.map entry)

/-- A call can be decoded as it is exactly if the decoder succeeds with what the call says. -/
theorem decodeVoiceCallInfo_eq_some_iff :
    decodeVoiceCallInfo [.objectPath path, dict ps] =
        some (1, callInfoOf path (ps.map entry)) ↔ Sound path ps := by
  constructor
  · intro h
    -- a path that does not fit makes the decoder fail with status 0
    by_cases hfits : Fits path
    · have hdefined : Readable ps := by
        rw [decodeVoiceCallInfo_of_fits hfits] at h
        obtain ⟨info, hinfo, -⟩ := Option.map_eq_some_iff.mp h
        rw [Readable, ← isSome_readAll _ _ { zeroCallInfo with callId := path }, hinfo]
        rfl
      rw [decodeVoiceCallInfo_of_readable hfits hdefined] at h
      have hinfo := (Prod.mk.inj (Option.some_inj.mp h)).2
      exact ⟨hfits, hdefined, callInfoFrom_fittingText_eq_iff.mp hinfo⟩
    · rw [decodeVoiceCallInfo_of_not_fits hfits] at h
      exact absurd (Prod.mk.inj (Option.some_inj.mp h)).1 (by decide)
  · intro h
    rw [decodeVoiceCallInfo_of_readable h.fits h.readable,
      callInfoFrom_fittingText_eq_iff.mpr h.texts]

/-! ## One call in a signal and in a list -/

/-- The calls that should be shown: the ones whose path fits. -/
def shown (path : String) (ps : List (String × Value)) : List CallInfo :=
  if Fits path then [callInfoOf path (ps.map entry)] else []

/-- What a signal with the call should do: call back with it if it is shown, and otherwise
nothing. -/
def ShownBySignal (path : String) (ps : List (String × Value)) : Prop :=
  ∀ (handler : AsyncHandler Payload) (message : Message), handler.cbFunction ≠ null →
    message.args = [.objectPath path, dict ps] →
    ∃ h, callStateChanged handler message = some h ∧ h.called = decide (Fits path) ∧
      (h.called = true → h.result = { handler.result with
        data := .callInfo (callInfoOf path (ps.map entry)), status := ok })

/-- What a list with the call should deliver: the calls around it, with this one between them
if it is shown. -/
def ShownByList (path : String) (ps : List (String × Value)) : Prop :=
  ∀ before after infos infos', before.length + after.length < maxCallListCount →
    decodeCallList [pathDicts before] = some infos →
    decodeCallList [pathDicts after] = some infos' →
    decodeCallList [pathDicts (before ++ (path, ps) :: after)] =
      some (infos ++ shown path ps ++ infos')

/-- The decoder says by 0 that it has failed, which is what its callers look for. -/
def ReportsFailure (path : String) (ps : List (String × Value)) : Prop :=
  ∃ code info, decodeVoiceCallInfo [.objectPath path, dict ps] = some (code, info) ∧
    (code = 0 ↔ ¬ Fits path) ∧ (Fits path → info = callInfoOf path (ps.map entry))

/-- The signal and the list treat the call alike. -/
structure TreatedAlike (path : String) (ps : List (String × Value)) : Prop where
  reports : ReportsFailure path ps
  signal : ShownBySignal path ps
  list : ShownByList path ps

theorem reportsFailure_iff : ReportsFailure path ps ↔ Sound path ps := by
  constructor
  · rintro ⟨code, info, hdecode, hcode, hinfo⟩
    by_cases hfits : Fits path
    · rw [hinfo hfits, decodeVoiceCallInfo_of_fits hfits] at hdecode
      rw [← decodeVoiceCallInfo_eq_some_iff, decodeVoiceCallInfo_of_fits hfits]
      obtain ⟨info', hinfo', heq⟩ := Option.map_eq_some_iff.mp hdecode
      rw [hinfo', Option.map_some, (Prod.mk.inj heq).2]
    · rw [decodeVoiceCallInfo_of_not_fits hfits] at hdecode
      obtain ⟨rfl, -⟩ := Prod.mk.inj (Option.some_inj.mp hdecode)
      exact absurd (hcode.mpr hfits) (by decide)
  · intro h
    exact ⟨1, _, decodeVoiceCallInfo_eq_some_iff.mpr h, by simpa using h.fits, fun _ => rfl⟩

theorem Sound.shownBySignal (h : Sound path ps) : ShownBySignal path ps := by
  intro handler message hcb hargs
  refine ⟨deliver { handler.result with
    data := .callInfo (callInfoOf path (ps.map entry)), status := ok }, ?_,
    (decide_eq_true h.fits).symm, fun _ => rfl⟩
  simp [callStateChanged, onSignal, withCallback_of_ne hcb, hargs,
    decodeVoiceCallInfo_eq_some_iff.mpr h, deliver]

/-! ### Lists -/

/-- The structure that the decoder leaves for a call, whatever it returns. -/
def decodedStructure (p : String × List (String × Value)) : Option CallInfo :=
  (decodeVoiceCallInfo (pathDictFields p)).map Prod.snd

/-- The loop delivers what the decoder leaves for each call, if there are not too many. -/
theorem decodeCallList_pathDicts (qs : List (String × List (String × Value))) :
    decodeCallList [pathDicts qs] =
      if qs.length ≤ maxCallListCount then qs.mapM decodedStructure else none := by
  have hrecurse : Iter.recurse [pathDicts qs] = some (qs.map pathDict) := rfl
  rw [decodeCallList, hrecurse, Option.bind_some]
  by_cases hlength : qs.length ≤ maxCallListCount
  · rw [collectUnchecked_eq_mapM qs [] (by simpa using hlength), if_pos hlength]
    simp only [List.nil_append, Option.map_id']
    rfl
  · rw [if_neg hlength]
    exact collectUnchecked_eq_none qs [] (by simpa using hlength) (Nat.zero_le _)

theorem Sound.shownByList (h : Sound path ps) : ShownByList path ps := by
  intro before after infos infos' hroom hbefore hafter
  rw [decodeCallList_pathDicts] at hbefore hafter ⊢
  rw [if_pos (by omega)] at hbefore hafter
  rw [if_pos (by simp only [List.length_append, List.length_cons]; omega)]
  have hcall : decodedStructure (path, ps) = some (callInfoOf path (ps.map entry)) := by
    rw [decodedStructure, decodeVoiceCallInfo_eq_some_iff.mpr h]
    rfl
  simp [List.mapM_append, List.mapM_cons, hbefore, hafter, hcall, shown, h.fits]

/-- A call is reported, signalled and listed alike exactly if its path fits and its properties
can be taken as they are. -/
theorem treatedAlike_iff (path : String) (ps : List (String × Value)) :
    TreatedAlike path ps ↔ Sound path ps := by
  constructor
  · intro h
    exact reportsFailure_iff.mp h.reports
  · intro h
    exact ⟨reportsFailure_iff.mpr h, h.shownBySignal, h.shownByList⟩

/-- The path of a call that is one byte too long. -/
def longPath : String := String.ofList (List.replicate 101 '/')

/-- A call that cannot be decoded is signalled, and it is counted in the list. -/
theorem not_treatedAlike_longPath : ¬ TreatedAlike longPath [] := by
  intro h
  obtain ⟨code, info, hdecode, hcode, -⟩ := h.reports
  have hlong : ¬ Fits longPath := by decide
  rw [decodeVoiceCallInfo_of_not_fits hlong] at hdecode
  obtain ⟨rfl, -⟩ := Prod.mk.inj (Option.some_inj.mp hdecode)
  exact absurd (hcode.mpr hlong) (by decide)

/-! ## The list of calls -/

/-- A call that the decoder succeeds with. -/
def decodedCall (p : String × List (String × Value)) : Option CallInfo :=
  (decodeVoiceCallInfo (pathDictFields p)).bind fun (code, info) =>
    if code = 1 then some info else none

/-- The reply is delivered with the calls that can be decoded, in their order, as many of them as
there are places. -/
def ListsCalls (handler : AsyncHandler Payload) (message : Message)
    (qs : List (String × List (String × Value))) : Prop :=
  let calls := (qs.filterMap decodedCall).take maxCallListCount
  callListQueryComplete handler message =
    some (deliver { handler.result with
      arg2 := calls.length, status := ok, data := .callList calls })

/-- A call that the decoder succeeds with has a path that fits and properties that can be
read. -/
theorem isSome_decodedCall_iff {p : String × List (String × Value)} :
    (decodedCall p).isSome = true ↔ Fits p.1 ∧ Readable p.2 := by
  by_cases hfits : Fits p.1
  · rw [decodedCall, pathDictFields, decodeVoiceCallInfo_of_fits hfits, Readable,
      ← isSome_readAll _ _ { zeroCallInfo with callId := p.1 }]
    cases callInfoProperties.readAll (p.2.map entry) { zeroCallInfo with callId := p.1 } <;>
      simp [hfits]
  · rw [decodedCall, pathDictFields, decodeVoiceCallInfo_of_not_fits hfits]
    simp [hfits, eio]

theorem decodedStructure_of_decodedCall {p : String × List (String × Value)} {info : CallInfo}
    (h : decodedCall p = some info) : decodedStructure p = some info := by
  obtain ⟨⟨code, info'⟩, hdecode, hsome⟩ := Option.bind_eq_some_iff.mp h
  rw [decodedStructure, hdecode]
  dsimp only at hsome
  split at hsome
  · exact hsome
  · contradiction

/-- If all calls can be decoded, what is decoded is one structure for each. -/
theorem mapM_decodedStructure {qs : List (String × List (String × Value))}
    (h : ∀ p ∈ qs, (decodedCall p).isSome = true) :
    qs.mapM decodedStructure = some (qs.filterMap decodedCall) := by
  induction qs with
  | nil => rfl
  | cons p qs ih =>
    obtain ⟨info, hinfo⟩ := Option.isSome_iff_exists.mp (h p List.mem_cons_self)
    have htail := ih fun p hp => h p (List.mem_cons_of_mem _ hp)
    rw [List.mapM_cons, decodedStructure_of_decodedCall hinfo, htail,
      List.filterMap_cons_some hinfo]
    rfl

/-- The loop delivers the calls that can be decoded exactly if there are places for all calls and
all of them can be decoded. -/
theorem decodeCallList_eq_decodedCall_iff (qs : List (String × List (String × Value))) :
    decodeCallList [pathDicts qs] = some ((qs.filterMap decodedCall).take maxCallListCount) ↔
      qs.length ≤ maxCallListCount ∧ ∀ p ∈ qs, (decodedCall p).isSome = true := by
  rw [decodeCallList_pathDicts]
  constructor
  · intro h
    split at h
    · rename_i hlength
      refine ⟨hlength, List.filterMap_length_eq_length.mp ?_⟩
      -- as many structures were read as were delivered, so none was passed over
      have hcount := length_of_mapM_eq_some h
      rw [List.length_take] at hcount
      have hle := List.length_filterMap_le decodedCall qs
      omega
    · contradiction
  · rintro ⟨hlength, hall⟩
    have hle := List.length_filterMap_le decodedCall qs
    rw [if_pos hlength, mapM_decodedStructure hall,
      List.take_of_length_le (Nat.le_trans hle hlength)]

/-- A list of calls is delivered as it should exactly if it is no longer than the array, every
path fits, and all properties are of the types that they are read as. -/
theorem listsCalls_iff {qs : List (String × List (String × Value))}
    (hcb : handler.cbFunction ≠ null) (hreply : message.isError = false)
    (hargs : message.args = [pathDicts qs]) :
    ListsCalls handler message qs ↔
      qs.length ≤ maxCallListCount ∧ ∀ p ∈ qs, Fits p.1 ∧ Readable p.2 := by
  -- the function is the loop on the dictionaries, as the signature asks for them
  have hrun : callListQueryComplete handler message =
      (decodeCallList [pathDicts qs]).map fun calls => deliver { handler.result with
        arg2 := calls.length, status := ok, data := .callList calls } := by
    have hcb' : handler.failing.cbFunction ≠ null := hcb
    exact onTypedReply_of_args hcb' hreply hargs rfl
  simp only [← isSome_decodedCall_iff]
  rw [← decodeCallList_eq_decodedCall_iff, ListsCalls, hrun, Option.map_eq_some_iff]
  constructor
  · rintro ⟨calls, hcalls, heq⟩
    have hdata : Payload.callList calls = .callList _ := congrArg (·.result.data) heq
    rw [hcalls, Payload.callList.inj hdata]
  · intro h
    exact ⟨_, h, rfl⟩

/-- A list of as many calls. -/
def sampleReply (n : ℕ) : Message where
  type := .methodReturn
  args := [pathDicts (List.replicate n ("/ril_0/voicecall01", []))]
  typed := by simp [pathDicts, Value.typed, dict]

def sampleHandler : AsyncHandler Payload := ⟨⟨0, 0, 0, 0, 0, .null, 0⟩, 1⟩

theorem listsCalls_sampleReply :
    ListsCalls sampleHandler (sampleReply 2) (List.replicate 2 ("/ril_0/voicecall01", [])) :=
  (listsCalls_iff (by decide) rfl rfl).mpr (by decide)

/-- The eleventh call is written behind the array. -/
theorem not_listsCalls_sampleReply :
    ¬ ListsCalls sampleHandler (sampleReply 11)
      (List.replicate 11 ("/ril_0/voicecall01", [])) := by
  intro h
  have hnone : callListQueryComplete sampleHandler (sampleReply 11) = none := by decide
  rw [ListsCalls, hnone] at h
  contradiction

end Telephony.Call
