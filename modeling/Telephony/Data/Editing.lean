import Telephony.Data.Active
import Telephony.Encoding

/-!
# Editing an access point

An application lists the access points, changes one of them, and sends it back. The structure that
it gets has been filled from the dictionary of the access point, and the message that it sends is
built from the structure, each with its own names for the enumerations. What the dictionary does not
say, or what has no room, is sent as `malloc` has left it in the structure.

## Main definitions

* `Data.unchanged` — the message that sends an access point back as it is
* `Data.SentBack` — the access point in a place of the reply is listed, and sent back as it is
* `Data.Restored` — a dictionary decides what is sent back

## Main results

* `Data.apnTypeToString_fromString_iff` — which texts are names of a type
* `Data.sentBack_iff` — which access points are sent back as they are
-/

namespace Telephony.Data

open DBus DBus.PropertyTable Ledger
open CallerData (Memory)

/-! ## Names of a type -/

/-- The names of the types. -/
def apnTypes : List String :=
  ["", "internet", "hipri", "supl", "mms", "wap", "ims", "emergency"]

/-- A text is the name of the type that it is read as exactly if it is the name of a type. -/
theorem apnTypeToString_fromString_iff {s : String} :
    tapiUtilsApnTypeToString (apnTypeFromString s) = s ↔ s ∈ apnTypes := by
  constructor
  · intro h
    rw [← h]
    generalize apnTypeFromString s = type
    cases type <;> decide
  · intro h
    simp only [apnTypes, List.mem_cons, List.not_mem_nil, or_false] at h
    rcases h with rfl | rfl | rfl | rfl | rfl | rfl | rfl | rfl <;> decide

theorem apnTypeToString_eq_empty_iff {type : DataContextType} :
    tapiUtilsApnTypeToString type = "" ↔ type = .any := by
  cases type <;> decide

theorem DataProto.value_inj {protocol protocol' : DataProto} :
    DataProto.value protocol = DataProto.value protocol' ↔ protocol = protocol' := by
  cases protocol <;> cases protocol' <;> decide

theorem DataAuthMethod.value_inj {authMethod authMethod' : DataAuthMethod} :
    DataAuthMethod.value authMethod = DataAuthMethod.value authMethod' ↔
      authMethod = authMethod' := by
  cases authMethod <;> cases authMethod' <;> decide

/-! ## What a dictionary says -/

/-- The text of a dictionary under a key, which is empty if there is none. -/
def textOf (key : String) (ps : List (String × Value)) : String :=
  ((ps.lookup key).bind fun v => Iter.getString [v]).getD ""

/-- The message that sends an access point back as it is. -/
def unchanged (p : String × List (String × Value)) : BusMessage :=
  ⟨"EditContext", [.objectPath p.1, .string (textOf "Type" p.2), .string (textOf "Name" p.2),
    .string (textOf "AccessPointName" p.2), .string (textOf "Username" p.2),
    .string (textOf "Password" p.2),
    .int32 (DataProto.value (apnProtoFromString (textOf "Protocol" p.2))),
    .int32 (DataAuthMethod.value (apnAuthFromString (textOf "AuthenticationMethod" p.2)))]⟩

/-- The texts of an access point that are sent. -/
def editedKeys : List String := ["Name", "AccessPointName", "Username", "Password"]

/-- The dictionary decides what is sent back of a context that is read into the block `dc`. -/
structure Restored (dc : DataContext) (ps : List (String × Value)) : Prop where
  texts : ∀ c ∈ dataContextCopies, c.key ∈ editedKeys →
    HasText c.key ps ∨ c.get dc = textOf c.key ps
  type : if "Type" ∈ ps.map Prod.fst then textOf "Type" ps ∈ apnTypes else dc.type = .any
  protocol : "Protocol" ∈ ps.map Prod.fst ∨ dc.protocol = .ip
  authMethod : "AuthenticationMethod" ∈ ps.map Prod.fst ∨ dc.authMethod = .none

theorem mem_keys_iff {key : String} {ps : List (String × Value)} :
    key ∈ ps.map Prod.fst ↔ ps.lookup key ≠ none := by
  rw [Ne, List.lookup_eq_none_iff]
  simp

theorem textOf_of_not_mem {key : String} {ps : List (String × Value)}
    (h : key ∉ ps.map Prod.fst) : textOf key ps = "" := by
  rw [mem_keys_iff, not_not] at h
  rw [textOf, h]
  rfl

section Restored

variable {ps : List (String × Value)} {key : String}
  (hreads : ∀ v, ps.lookup key = some v → Iter.isText [v] = true)
include hreads

/-- A text is what the dictionary says if it is copied from there, or if it was that before. -/
theorem textUpdate_eq_textOf_iff {t : String} :
    ((ps.lookup key).map fun v => textUpdate [v] t).getD t = textOf key ps ↔
      HasText key ps ∨ t = textOf key ps := by
  unfold HasText textOf
  cases hlookup : ps.lookup key with
  | none => simp
  | some v =>
    obtain ⟨s, hs⟩ := Option.isSome_iff_exists.mp (hreads v hlookup)
    by_cases hfits : s.utf8ByteSize ≤ maxApnDomainLength
    · simp [textUpdate, hs, strcpyWithin, hfits]
    · simp [textUpdate, hs, strcpyWithin, hfits]

/-- An enumeration is what the dictionary says, or what was there before. -/
theorem enumUpdate_eq {τ : Type} {parse : String → τ} {t : τ} :
    ((ps.lookup key).map fun v => enumUpdate parse [v] t).getD t =
      if key ∈ ps.map Prod.fst then parse (textOf key ps) else t := by
  simp only [mem_keys_iff, textOf]
  cases hlookup : ps.lookup key with
  | none => simp
  | some v =>
    obtain ⟨s, hs⟩ := Option.isSome_iff_exists.mp (hreads v hlookup)
    simp [enumUpdate, hs]

end Restored

/-! ## What is sent -/

section Message

variable {m : Memory} {blocks : ContextBlocks} {dc : DataContext}
  {p : String × List (String × Value)}

/-- Whoever edits an access point sends the message exactly if the id is a path, the message has the
fields of the structure, and these can be copied. -/
theorem sends_editApnContext_iff {id : String} (hid : dc.id = .text id) {message : BusMessage} :
    (Request.editApnContext (some dc)).Sends m message ↔
      (validPath id = true ∧ ∀ k ∈ [2, 3, 4, 5], m.strdup k = true) ∧
        message = ⟨"EditContext", .objectPath id :: CallerData.apnArgs dc⟩ := by
  have hbuilt : (if validPath id && [2, 3, 4, 5].all m.strdup then
        some (⟨"EditContext", .objectPath id :: CallerData.apnArgs dc⟩ : BusMessage)
      else none) = some message ↔ (validPath id = true ∧ ∀ k ∈ [2, 3, 4, 5], m.strdup k = true) ∧
        message = ⟨"EditContext", .objectPath id :: CallerData.apnArgs dc⟩ := by
    rw [Option.ite_none_right_eq_some, Bool.and_eq_true, List.all_eq_true, Option.some_inj,
      eq_comm (a := message)]
  refine Iff.trans ?_ hbuilt
  refine Request.sends_iff (fun _ => ⟨_, rfl⟩) ⟨_, rfl, rfl⟩ ?_
  intro c s granted block hsubmit
  have hbuilds : s.Builds (m.granting granted) block "EditContext"
      (.text .objectPath (.text id) :: apnContextFields dc) :=
    CallerData.builds_of_withProxy (unlessInvalid true) (Option.some.inj hsubmit)
      fun _ => ⟨rfl, by rw [← hid]; rfl⟩
  rw [hbuilds.message, encodeArgs, List.zipIdx_cons, List.mapM_cons,
    CallerData.encode_apnContextFields]
  cases hpath : validPath id <;> cases hcopies : [2, 3, 4, 5].all m.strdup <;> simp_all

section Decoded

variable (hkeys : (p.2.map Prod.fst).Nodup)
  (h : decodeContext blocks (pathDictFields p) = some dc)
include hkeys h

theorem textOf_eq_get_iff {c : TextCopy DataContext} (hc : c ∈ dataContextCopies) :
    textOf c.key p.2 = c.get dc ↔
      HasText c.key p.2 ∨ c.get blocks.context = textOf c.key p.2 := by
  have hkey : c.key ∈ dataContextCopies.map TextCopy.key ++
      ["Type", "Protocol", "AuthenticationMethod"] :=
    List.mem_append_left _ (List.mem_map_of_mem hc)
  -- the path is written before the texts
  have hstart : c.get { blocks.context with id := .text p.1 } = c.get blocks.context := by
    revert c
    simp [dataContextCopies]
  rw [eq_comm, copy_of_readAll hkeys h hc, hstart]
  exact textUpdate_eq_textOf_iff fun v hv => isText_of_decodeContext hkey h hv

theorem textOf_eq_type_iff :
    textOf "Type" p.2 = tapiUtilsApnTypeToString dc.type ↔
      if "Type" ∈ p.2.map Prod.fst then textOf "Type" p.2 ∈ apnTypes
      else blocks.context.type = .any := by
  rw [type_of_readAll hkeys h, enumUpdate_eq fun v hv => isText_of_decodeContext (by decide) h hv,
    eq_comm]
  by_cases hmem : "Type" ∈ p.2.map Prod.fst
  · rw [if_pos hmem, if_pos hmem]
    exact apnTypeToString_fromString_iff
  · rw [if_neg hmem, if_neg hmem, textOf_of_not_mem hmem]
    exact apnTypeToString_eq_empty_iff

theorem protocol_eq_iff :
    apnProtoFromString (textOf "Protocol" p.2) = dc.protocol ↔
      "Protocol" ∈ p.2.map Prod.fst ∨ blocks.context.protocol = .ip := by
  rw [protocol_of_readAll hkeys h,
    enumUpdate_eq fun v hv => isText_of_decodeContext (by decide) h hv]
  by_cases hmem : "Protocol" ∈ p.2.map Prod.fst
  · simp [hmem]
  · rw [if_neg hmem, textOf_of_not_mem hmem, or_iff_right hmem, eq_comm]
    rfl

theorem authMethod_eq_iff :
    apnAuthFromString (textOf "AuthenticationMethod" p.2) = dc.authMethod ↔
      "AuthenticationMethod" ∈ p.2.map Prod.fst ∨ blocks.context.authMethod = .none := by
  rw [authMethod_of_readAll hkeys h,
    enumUpdate_eq fun v hv => isText_of_decodeContext (by decide) h hv]
  by_cases hmem : "AuthenticationMethod" ∈ p.2.map Prod.fst
  · simp [hmem]
  · rw [if_neg hmem, textOf_of_not_mem hmem, or_iff_right hmem, eq_comm]
    rfl

/-- What a dictionary leaves in a block is sent back as it is exactly if the dictionary decides
that. -/
theorem unchanged_eq_iff :
    unchanged p = ⟨"EditContext", .objectPath p.1 :: CallerData.apnArgs dc⟩ ↔
      Restored blocks.context p.2 := by
  have htexts : (textOf "Name" p.2 = dc.name ∧ textOf "AccessPointName" p.2 = dc.accesspointname ∧
      textOf "Username" p.2 = dc.username ∧ textOf "Password" p.2 = dc.password) ↔
      ∀ c ∈ dataContextCopies, c.key ∈ editedKeys →
        HasText c.key p.2 ∨ c.get blocks.context = textOf c.key p.2 := by
    have hall : (∀ c ∈ dataContextCopies, c.key ∈ editedKeys → textOf c.key p.2 = c.get dc) ↔
        ∀ c ∈ dataContextCopies, c.key ∈ editedKeys →
          HasText c.key p.2 ∨ c.get blocks.context = textOf c.key p.2 :=
      forall₂_congr fun c hc => imp_congr_right fun _ => textOf_eq_get_iff hkeys h hc
    rw [← hall]
    simp [dataContextCopies, editedKeys]
  constructor
  · intro heq
    simp only [unchanged, CallerData.apnArgs, BusMessage.mk.injEq, List.cons.injEq,
      Value.text.injEq, Value.fixed.injEq, DataProto.value_inj, DataAuthMethod.value_inj, true_and,
      and_true] at heq
    obtain ⟨htype, hname, hapn, huser, hpassword, hprotocol, hauth⟩ := heq
    exact ⟨htexts.mp ⟨hname, hapn, huser, hpassword⟩, (textOf_eq_type_iff hkeys h).mp htype,
      (protocol_eq_iff hkeys h).mp hprotocol, (authMethod_eq_iff hkeys h).mp hauth⟩
  · intro hrestored
    obtain ⟨hname, hapn, huser, hpassword⟩ := htexts.mpr hrestored.texts
    rw [unchanged, CallerData.apnArgs, (textOf_eq_type_iff hkeys h).mpr hrestored.type, hname, hapn,
      huser, hpassword, (protocol_eq_iff hkeys h).mpr hrestored.protocol,
      (authMethod_eq_iff hkeys h).mpr hrestored.authMethod]

end Decoded

end Message

/-! ## The round trip -/

/-- The access point in a place of the reply is listed in that place, and whoever sends it back as
it is listed either fails or sends what the reply says. -/
def SentBack (handler : AsyncHandler Payload) (message : Message) (heap : Heap) (m : Memory)
    (i : ℕ) (p : String × List (String × Value)) : Prop :=
  ∃ apns dc, apnListLoaded handler message heap = some (deliver (listed handler.result apns)) ∧
    apns[i]? = some dc ∧ (Request.editApnContext (some dc)).Sends m (unchanged p)

/-- An access point of a list that can be read is sent back as it is exactly if there is memory for
it and for all that are listed before it, of which there are not too many, if its dictionary decides
what is sent, if its texts can be copied for the message, and if its path is one. -/
theorem sentBack_iff {handler : AsyncHandler Payload} {message : Message} (heap : Heap) (m : Memory)
    {ps : List (String × List (String × Value))} {i : ℕ} {p : String × List (String × Value)}
    (hcb : handler.cbFunction ≠ null) (hreply : message.isError = false)
    (hargs : message.args = [pathDicts ps]) (hread : ReadableApnList heap message)
    (hp : ps[i]? = some p) (hkeys : (p.2.map Prod.fst).Nodup) :
    SentBack handler message heap m i p ↔
      (i < maxApnListCapacity ∧ ∀ j ≤ i, (apnBlocks heap j).isSome = true) ∧
        (∀ blocks, apnBlocks heap i = some blocks → Restored blocks.context p.2) ∧
        validPath p.1 = true ∧ ∀ k ∈ [2, 3, 4, 5], m.strdup k = true := by
  rw [readableApnList_iff hcb hreply hargs, Option.isSome_iff_exists] at hread
  obtain ⟨apns, hlist⟩ := hread
  have hloaded : apnListLoaded handler message heap =
      some (deliver (listed handler.result apns)) := by
    rw [apnListLoaded_eq hcb hreply hargs, hlist, Option.map_some]
  rw [decodeApnList, recurse_pathDicts, Option.bind_some,
    collectStructs_eq_decodeWhile _ (by decide)] at hlist
  have hplace : i < maxApnListCapacity →
      ((ps.map pathDictFields).take maxApnListCapacity)[i]? = some (pathDictFields p) := by
    intro hi
    rw [List.getElem?_take_of_lt hi, List.getElem?_map, hp, Option.map_some]
  constructor
  · rintro ⟨apns', dc', hloaded', hplace', hsends⟩
    obtain rfl := deliver_listed_inj (Option.some_inj.mp (hloaded.symm.trans hloaded'))
    have hi : i < maxApnListCapacity := by
      have hlength := length_le_of_decodeWhile hlist
      rw [List.length_take] at hlength
      have hlt := (List.getElem?_eq_some_iff.mp hplace').1
      omega
    by_cases hblocks : ∀ j ≤ i, (apnBlocks heap j).isSome = true
    · obtain ⟨blocks, dc, hblock, hdecode, hdc⟩ := exists_of_decodeWhile hlist hblocks (hplace hi)
      obtain rfl := Option.some_inj.mp (hdc.symm.trans hplace')
      obtain ⟨⟨hpath, hcopies⟩, hmessage⟩ :=
        (sends_editApnContext_iff (id_of_readAll hdecode)).mp hsends
      refine ⟨⟨hi, hblocks⟩, fun blocks' hblock' => ?_, hpath, hcopies⟩
      obtain rfl := Option.some_inj.mp (hblock.symm.trans hblock')
      exact (unchanged_eq_iff hkeys hdecode).mp hmessage
    -- the list would have ended before this place
    · rw [getElem?_eq_none_of_decodeWhile hlist hblocks] at hplace'
      contradiction
  · rintro ⟨⟨hi, hblocks⟩, hrestored, hpath, hcopies⟩
    obtain ⟨blocks, dc, hblock, hdecode, hdc⟩ := exists_of_decodeWhile hlist hblocks (hplace hi)
    have hmessage := (unchanged_eq_iff hkeys hdecode).mpr (hrestored blocks hblock)
    have hsends : (Request.editApnContext (some dc)).Sends m (unchanged p) :=
      (sends_editApnContext_iff (id_of_readAll hdecode)).mpr ⟨⟨hpath, hcopies⟩, hmessage⟩
    exact ⟨apns, dc, hloaded, hdc, hsends⟩

/-- An access point that says everything is sent back as it is, whatever its block holds. -/
theorem sentBack_fullReply :
    SentBack listHandler fullReply usedBlocks ⟨fun _ => true, fun _ => true⟩ 0 fullContext := by
  have hcb : listHandler.cbFunction ≠ null := by decide
  have hread : ReadableApnList usedBlocks fullReply :=
    (readableApnList_iff hcb rfl rfl).mpr (by decide)
  have htexts : ∀ c ∈ dataContextCopies, HasText c.key fullContext.2 := by
    simp only [dataContextCopies, List.forall_mem_cons]
    refine ⟨?_, ?_, ?_, ?_, ?_, ?_, by simp⟩
    all_goals exact ⟨_, _, rfl, rfl, by decide⟩
  have hrestored : ∀ dc, Restored dc fullContext.2 := by
    intro dc
    refine ⟨fun c hc _ => .inl (htexts c hc), ?_, .inl (by decide), .inl (by decide)⟩
    rw [if_pos (by decide)]
    decide
  exact (sentBack_iff _ _ hcb rfl rfl hread rfl (by decide)).mpr
    ⟨⟨by decide, fun _ _ => rfl⟩, fun _ _ => hrestored _, by decide, by decide⟩

end Telephony.Data
