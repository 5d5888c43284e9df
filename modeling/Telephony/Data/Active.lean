import Telephony.Dictionary
import Telephony.Fields
import Telephony.Loop

/-!
# The active contexts

Two functions list the data contexts of the modem from the same reply: `apn_list_loaded` all of
them, and `data_connection_list_query_done` those that are active. They share the function that
uses a property, and prepare the structures on their own. The one clears nothing, and the other
clears the texts but not the enumerations, so that what `malloc` has left in a block shows where a
property is missing.

## Main definitions

* `Data.Alike` — two structures describe the same context
* `Data.ListsActive` — the active contexts of the one list are the other list
* `Data.Settled` — a dictionary decides what is read into two blocks

## Main results

* `Data.alike_iff` — what a dictionary leaves in two blocks describes the same context
* `Data.listsActive_iff` — the lists agree exactly if every active context is settled
-/

namespace Telephony.Data

open DBus PropertyTable

/-! ## Two structures for one context -/

/-- Two structures describe the same context: they agree but for the settings, which only one of
them has, and the mark of the preferred context, which neither function sets. -/
structure Alike (dc dc' : DataContext) : Prop where
  id : dc.id = dc'.id
  name : dc.name = dc'.name
  type : dc.type = dc'.type
  active : dc.active = dc'.active
  protocol : dc.protocol = dc'.protocol
  authMethod : dc.authMethod = dc'.authMethod
  username : dc.username = dc'.username
  password : dc.password = dc'.password
  accesspointname : dc.accesspointname = dc'.accesspointname
  messageproxy : dc.messageproxy = dc'.messageproxy
  messagecenter : dc.messagecenter = dc'.messagecenter

/-- The dictionary has a text for the key that fits its array. -/
def HasText (key : String) (ps : List (String × Value)) : Prop :=
  ∃ v s, ps.lookup key = some v ∧ Iter.getString [v] = some s ∧
    s.utf8ByteSize ≤ maxApnDomainLength

/-- The dictionary decides every field of a context that is read into the block `dc`, or into a
block whose texts are empty and whose enumerations are those of `dc'`. -/
structure Settled (dc dc' : DataContext) (ps : List (String × Value)) : Prop where
  texts : ∀ c ∈ dataContextCopies, HasText c.key ps ∨ c.get dc = ""
  type : "Type" ∈ ps.map Prod.fst ∨ dc.type = dc'.type
  protocol : "Protocol" ∈ ps.map Prod.fst ∨ dc.protocol = dc'.protocol
  authMethod : "AuthenticationMethod" ∈ ps.map Prod.fst ∨ dc.authMethod = dc'.authMethod

/-! ## What a dictionary leaves in a context -/

/-- Every property leaves the fields of the others alone. -/
theorem keeps_of_mem_contextProperties {blocks : ContextBlocks} {p : String × Property DataContext}
    (hp : p ∈ contextProperties blocks) {value : Iter} {x x' : DataContext}
    (h : p.2.read value x = some x') :
    (∀ c ∈ dataContextCopies, p.1 ≠ c.key → c.get x' = c.get x) ∧
      (p.1 ≠ "Type" → x'.type = x.type) ∧ (p.1 ≠ "Protocol" → x'.protocol = x.protocol) ∧
      (p.1 ≠ "AuthenticationMethod" → x'.authMethod = x.authMethod) ∧ x'.id = x.id := by
  have hmem := mem_of_mem_contextProperties hp
  simp only [dataContextProperties, settingsProperties, List.mem_append, List.mem_cons,
    List.not_mem_nil, or_false] at hmem
  rcases hmem with (rfl | rfl | rfl | rfl | rfl | rfl | rfl | rfl | rfl | rfl) | rfl | rfl
  all_goals
    obtain ⟨_, _, rfl⟩ := Option.map_eq_some_iff.mp h
    simp [dataContextCopies]

/-- The properties of a context come first in the table, with or without the settings. -/
theorem fill_contextProperties {blocks : ContextBlocks} {key : String} {value : Iter}
    {x : DataContext} (h : dataContextProperties.knows key = true) :
    (contextProperties blocks).fill key value x = dataContextProperties.fill key value x := by
  obtain ⟨p, hp⟩ := Option.isSome_iff_exists.mp h
  unfold contextProperties
  split
  · rw [PropertyTable.fill, PropertyTable.fill, List.lookup_append, hp]
    rfl
  · rfl

section Fields

variable {blocks : ContextBlocks} {ps : List (String × Value)} {dc dc' : DataContext}

/-- How a copy updates a text. -/
def textUpdate (value : Iter) (t : String) : String :=
  (value.getString.map (strcpyWithin maxApnDomainLength t)).getD t

/-- How an enumeration is set. -/
def enumUpdate {τ : Type} (parse : String → τ) (value : Iter) (t : τ) : τ :=
  (value.getString.map parse).getD t

variable (hkeys : (ps.map Prod.fst).Nodup)
  (h : (contextProperties blocks).readAll (ps.map entry) dc = some dc')
include h

theorem id_of_readAll : dc'.id = dc.id :=
  readAll_preserves _ DataContext.id
    (fun _ hp _ _ _ hread => (keeps_of_mem_contextProperties hp hread).2.2.2.2) h

/-- Where a key is in the dictionary, its value has the type that it is read as. -/
theorem reads_of_lookup {key : String} {v : Value} (hv : ps.lookup key = some v) :
    (contextProperties blocks).reads key [v] = true := by
  have hreads : (contextProperties blocks).readsAll (ps.map entry) = true := by
    rw [← isSome_readAll, h]
    rfl
  rw [readsAll, readsDict_entries] at hreads
  obtain ⟨before, after, rfl, -⟩ := List.lookup_eq_some_iff.mp hv
  exact List.all_eq_true.mp hreads (key, v) (by simp)

include hkeys

theorem copy_of_readAll {c : TextCopy DataContext} (hc : c ∈ dataContextCopies) :
    c.get dc' = ((ps.lookup c.key).map fun v => textUpdate [v] (c.get dc)).getD (c.get dc) := by
  have hsets : ∀ value x x', (contextProperties blocks).fill c.key value x = some x' →
      c.get x' = textUpdate value (c.get x) := by
    intro value x x' hfill
    simp only [dataContextCopies, List.mem_cons, List.not_mem_nil, or_false] at hc
    rcases hc with rfl | rfl | rfl | rfl | rfl | rfl
    all_goals
      rw [fill_contextProperties (by decide)] at hfill
      obtain ⟨s, hs, rfl⟩ := Option.map_eq_some_iff.mp hfill
      simp [textUpdate, hs]
  exact readAll_field hsets
    (fill_keeps fun p hp hkey value x x' hread =>
      (keeps_of_mem_contextProperties hp hread).1 c hc hkey) hkeys h

theorem type_of_readAll :
    dc'.type = ((ps.lookup "Type").map fun v => enumUpdate apnTypeFromString [v] dc.type).getD
      dc.type := by
  refine readAll_field (fun value x x' hfill => ?_) (fill_keeps fun p hp hkey value x x' hread =>
    (keeps_of_mem_contextProperties hp hread).2.1 hkey) hkeys h
  rw [fill_contextProperties (by decide)] at hfill
  obtain ⟨s, hs, rfl⟩ := Option.map_eq_some_iff.mp hfill
  simp [enumUpdate, hs]

theorem protocol_of_readAll :
    dc'.protocol = ((ps.lookup "Protocol").map fun v =>
      enumUpdate apnProtoFromString [v] dc.protocol).getD dc.protocol := by
  refine readAll_field (fun value x x' hfill => ?_) (fill_keeps fun p hp hkey value x x' hread =>
    (keeps_of_mem_contextProperties hp hread).2.2.1 hkey) hkeys h
  rw [fill_contextProperties (by decide)] at hfill
  obtain ⟨s, hs, rfl⟩ := Option.map_eq_some_iff.mp hfill
  simp [enumUpdate, hs]

theorem authMethod_of_readAll :
    dc'.authMethod = ((ps.lookup "AuthenticationMethod").map fun v =>
      enumUpdate apnAuthFromString [v] dc.authMethod).getD dc.authMethod := by
  refine readAll_field (fun value x x' hfill => ?_) (fill_keeps fun p hp hkey value x x' hread =>
    (keeps_of_mem_contextProperties hp hread).2.2.2.1 hkey) hkeys h
  rw [fill_contextProperties (by decide)] at hfill
  obtain ⟨s, hs, rfl⟩ := Option.map_eq_some_iff.mp hfill
  simp [enumUpdate, hs]

end Fields

/-! ## When the two are alike -/

theorem alike_iff_fields {dc dc' : DataContext} :
    Alike dc dc' ↔ dc.id = dc'.id ∧ dc.active = dc'.active ∧
      (∀ c ∈ dataContextCopies, c.get dc = c.get dc') ∧
      dc.type = dc'.type ∧ dc.protocol = dc'.protocol ∧ dc.authMethod = dc'.authMethod := by
  simp only [dataContextCopies, List.forall_mem_cons, List.not_mem_nil, false_imp_iff,
    implies_true, and_true]
  constructor
  · intro h
    exact ⟨h.id, h.active, ⟨h.name, h.accesspointname, h.username, h.password, h.messageproxy,
      h.messagecenter⟩, h.type, h.protocol, h.authMethod⟩
  · rintro ⟨hid, hactive, ⟨hname, hapn, huser, hpassword, hproxy, hcenter⟩, htype, hproto, hauth⟩
    exact ⟨hid, hname, htype, hactive, hproto, hauth, huser, hpassword, hapn, hproxy, hcenter⟩

/-- Two texts that are copied over agree if one of them is copied, and otherwise if they did. -/
theorem textUpdate_eq_iff {key : String} {ps : List (String × Value)} {t t' : String}
    (hreads : ∀ v, ps.lookup key = some v → Iter.isText [v] = true) :
    ((ps.lookup key).map fun v => textUpdate [v] t).getD t =
        ((ps.lookup key).map fun v => textUpdate [v] t').getD t' ↔
      HasText key ps ∨ t = t' := by
  unfold HasText
  cases hlookup : ps.lookup key with
  | none => simp
  | some v =>
    obtain ⟨s, hs⟩ := Option.isSome_iff_exists.mp (hreads v hlookup)
    by_cases hfits : s.utf8ByteSize ≤ maxApnDomainLength
    · simp [textUpdate, hs, strcpyWithin, hfits]
    · simp [textUpdate, hs, strcpyWithin, hfits]

theorem enumUpdate_eq_iff {τ : Type} {parse : String → τ} {key : String}
    {ps : List (String × Value)} {t t' : τ}
    (hreads : ∀ v, ps.lookup key = some v → Iter.isText [v] = true) :
    ((ps.lookup key).map fun v => enumUpdate parse [v] t).getD t =
        ((ps.lookup key).map fun v => enumUpdate parse [v] t').getD t' ↔
      key ∈ ps.map Prod.fst ∨ t = t' := by
  have hmem : key ∈ ps.map Prod.fst ↔ ps.lookup key ≠ none := by
    rw [Ne, List.lookup_eq_none_iff]
    simp
  rw [hmem]
  cases hlookup : ps.lookup key with
  | none => simp
  | some v =>
    obtain ⟨s, hs⟩ := Option.isSome_iff_exists.mp (hreads v hlookup)
    simp [enumUpdate, hs]

section Alike

variable {blocks blocks' : ContextBlocks} {p : String × List (String × Value)} {a a' : DataContext}

theorem decodeContext_pathDictFields (blocks : ContextBlocks)
    (p : String × List (String × Value)) :
    decodeContext blocks (pathDictFields p) =
      (contextProperties blocks).readAll (p.2.map entry)
        { blocks.context with id := .text p.1 } :=
  rfl

/-- Where a context could be taken, what its text keys have are texts. -/
theorem isText_of_decodeContext {key : String}
    (hkey : key ∈ dataContextCopies.map TextCopy.key ++
      ["Type", "Protocol", "AuthenticationMethod"])
    (h : decodeContext blocks (pathDictFields p) = some a) {v : Value}
    (hv : p.2.lookup key = some v) : Iter.isText [v] = true := by
  rw [decodeContext_pathDictFields] at h
  have hreads := reads_of_lookup h hv
  have htext : (contextProperties blocks).reads key [v] = dataContextProperties.reads key [v] := by
    have hknown : dataContextProperties.knows key = true := by
      revert key
      simp [dataContextCopies, PropertyTable.knows, dataContextProperties, List.lookup_cons]
    obtain ⟨q, hq⟩ := Option.isSome_iff_exists.mp hknown
    unfold contextProperties
    split
    · rw [PropertyTable.reads, PropertyTable.reads, List.lookup_append, hq]
      rfl
    · rfl
  rw [htext] at hreads
  simp only [dataContextCopies, List.map_cons, List.map_nil, List.cons_append, List.nil_append,
    List.mem_cons, List.not_mem_nil, or_false] at hkey
  rcases hkey with rfl | rfl | rfl | rfl | rfl | rfl | rfl | rfl | rfl
  all_goals exact hreads

theorem active_of_isActive (hactive : isActive (pathDictFields p) = true)
    (h : decodeContext blocks (pathDictFields p) = some a) : a.active = true := by
  have hlast : PropertyTable.lastOf "Active" Iter.getFlag (p.2.map entry) false = true := hactive
  rw [PropertyTable.lastOf_eq_getD] at hlast
  have hfield : a.active = PropertyTable.lastOf "Active" Iter.getFlag (p.2.map entry)
      { blocks.context with id := .text p.1 }.active := active_updateDataContexts h
  rw [hfield, PropertyTable.lastOf_eq_getD]
  cases hvalue : PropertyTable.lastValue "Active" Iter.getFlag (p.2.map entry) with
  | none => simp [hvalue] at hlast
  | some b => simpa [hvalue] using hlast

/-- What an active context leaves in a block as `malloc` grants it, and in one whose texts have been
cleared, describes the same context exactly if its dictionary decides that. -/
theorem alike_iff (hkeys : (p.2.map Prod.fst).Nodup)
    (hactive : isActive (pathDictFields p) = true)
    (hclear : ∀ c ∈ dataContextCopies, c.get blocks'.context = "")
    (h : decodeContext blocks (pathDictFields p) = some a)
    (h' : decodeContext blocks' (pathDictFields p) = some a') :
    Alike a' a ↔ Settled blocks.context blocks'.context p.2 := by
  have hid : a'.id = a.id := by
    rw [id_of_readAll h, id_of_readAll h']
  have hflag : a'.active = a.active := by
    rw [active_of_isActive hactive h, active_of_isActive hactive h']
  have hcopies : (∀ c ∈ dataContextCopies, c.get a' = c.get a) ↔
      ∀ c ∈ dataContextCopies, HasText c.key p.2 ∨ c.get blocks.context = "" := by
    refine forall₂_congr fun c hc => ?_
    have hkey : c.key ∈ dataContextCopies.map TextCopy.key ++
        ["Type", "Protocol", "AuthenticationMethod"] :=
      List.mem_append_left _ (List.mem_map_of_mem hc)
    -- the path is written before the texts
    have hstart : ∀ dc : DataContext, c.get { dc with id := .text p.1 } = c.get dc := by
      revert c
      simp [dataContextCopies]
    rw [copy_of_readAll hkeys h hc, copy_of_readAll hkeys h' hc, hstart, hstart, hclear c hc,
      textUpdate_eq_iff fun v hv => isText_of_decodeContext hkey h hv, eq_comm]
  have htype : a'.type = a.type ↔
      "Type" ∈ p.2.map Prod.fst ∨ blocks.context.type = blocks'.context.type := by
    rw [type_of_readAll hkeys h, type_of_readAll hkeys h', eq_comm,
      enumUpdate_eq_iff fun v hv => isText_of_decodeContext (by decide) h hv]
  have hprotocol : a'.protocol = a.protocol ↔
      "Protocol" ∈ p.2.map Prod.fst ∨ blocks.context.protocol = blocks'.context.protocol := by
    rw [protocol_of_readAll hkeys h, protocol_of_readAll hkeys h', eq_comm,
      enumUpdate_eq_iff fun v hv => isText_of_decodeContext (by decide) h hv]
  have hauth : a'.authMethod = a.authMethod ↔ "AuthenticationMethod" ∈ p.2.map Prod.fst ∨
      blocks.context.authMethod = blocks'.context.authMethod := by
    rw [authMethod_of_readAll hkeys h, authMethod_of_readAll hkeys h', eq_comm,
      enumUpdate_eq_iff fun v hv => isText_of_decodeContext (by decide) h hv]
  rw [alike_iff_fields, hcopies, htype, hprotocol, hauth]
  constructor
  · rintro ⟨-, -, htexts, htype, hprotocol, hauth⟩
    exact ⟨htexts, htype, hprotocol, hauth⟩
  · rintro ⟨htexts, htype, hprotocol, hauth⟩
    exact ⟨hid, hflag, htexts, htype, hprotocol, hauth⟩

end Alike

/-! ## The two lists -/

/-- The record that a list is delivered with. -/
def listed (ar : AsyncResult Payload) (dcs : List DataContext) : AsyncResult Payload :=
  { ar with status := ok, arg2 := dcs.length, data := .dataContexts dcs }

theorem deliver_listed_inj {ar : AsyncResult Payload} {dcs dcs' : List DataContext}
    (h : deliver (listed ar dcs) = deliver (listed ar dcs')) : dcs = dcs' := by
  have hdata : Payload.dataContexts dcs = .dataContexts dcs' :=
    congrArg (fun handling => handling.result.data) h
  exact Payload.dataContexts.inj hdata

/-- The function that lists the active contexts delivers, in order, those of the contexts that the
other function delivers whose `Active` says so. -/
def ListsActive (handler handler' : AsyncHandler Payload) (message : Message) (heap heap' : Heap)
    (ps : List (String × List (String × Value))) : Prop :=
  ∃ apns connections,
    apnListLoaded handler message heap = some (deliver (listed handler.result apns)) ∧
    dataConnectionListQueryDone handler' message heap' =
      some (deliver (listed handler'.result connections)) ∧
    List.Forall₂ Alike connections
      (((ps.zip apns).filter fun x => isActive (pathDictFields x.1)).map Prod.snd)

/-- The first of the two functions gets to the context with an index exactly if the second one
does, and the dictionary of the context decides what they read. -/
structure Agrees (heap heap' : Heap) (ps : List (String × List (String × Value))) (k : ℕ) :
    Prop where
  reached : (∀ j ≤ k, (apnBlocks heap j).isSome = true) ↔
    ∀ j ≤ k, (connectionBlocks heap' j).isSome = true
  settled : (∀ j ≤ k, (apnBlocks heap j).isSome = true) → ∀ p blocks blocks', ps[k]? = some p →
    apnBlocks heap k = some blocks → connectionBlocks heap' k = some blocks' →
    Settled blocks.context blocks'.context p.2

section Lists

variable {heap heap' : Heap} {ps : List (String × List (String × Value))}

/-- Up to ten contexts are decoded one by one. -/
theorem decodeApnList_eq (hlen : ps.length ≤ maxApnListCapacity) :
    decodeApnList heap [pathDicts ps] =
      decodeWhile (apnBlocks heap) decodeContext (ps.map pathDictFields) := by
  have hall : List.filter (fun _ : DataContext => true) = id := by
    funext dcs
    exact List.filter_eq_self.mpr fun _ _ => rfl
  rw [decodeApnList, recurse_pathDicts, Option.bind_some,
    collectStructs_of_length_le (fun _ => true) (fun _ _ _ _ _ _ => rfl) (by decide)
      (by simpa using hlen), hall, Option.map_id, id]

/-- Of up to ten contexts, those that are active are kept. -/
theorem decodeConnectionList_eq (hlen : ps.length ≤ maxDataCallListSize) :
    decodeConnectionList heap [pathDicts ps] =
      (decodeWhile (connectionBlocks heap) decodeContext (ps.map pathDictFields)).map
        (List.filter DataContext.active) := by
  rw [decodeConnectionList, recurse_pathDicts, Option.bind_some,
    collectStructs_of_length_le isActive
      (fun _ _ _ _ hblocks hdecode => active_of_decodeContext hblocks hdecode) (by decide)
      (by simpa using hlen)]

/-- The texts of the second function are cleared. -/
theorem clear_of_connectionBlocks {k : ℕ} {blocks : ContextBlocks}
    (h : connectionBlocks heap k = some blocks) :
    ∀ c ∈ dataContextCopies, c.get blocks.context = "" := by
  simp only [connectionBlocks, Option.bind_eq_some_iff, Option.map_eq_some_iff] at h
  obtain ⟨_, -, _, -, rfl⟩ := h
  simp [dataContextCopies]

/-- In the place of an active context the two functions have the same, if both get there and its
dictionary decides what they read, or if neither gets there. -/
theorem rel_iff_agrees {apns raw : List DataContext}
    (happs : decodeWhile (apnBlocks heap) decodeContext (ps.map pathDictFields) = some apns)
    (hraw : decodeWhile (connectionBlocks heap') decodeContext (ps.map pathDictFields) = some raw)
    {k : ℕ} {p : String × List (String × Value)} (hp : ps[k]? = some p)
    (hkeys : (p.2.map Prod.fst).Nodup) (hactive : isActive (pathDictFields p) = true) :
    Option.Rel Alike raw[k]? apns[k]? ↔ Agrees heap heap' ps k := by
  have hfields : (ps.map pathDictFields)[k]? = some (pathDictFields p) := by
    rw [List.getElem?_map, hp]
    rfl
  -- a function gets to a context if there is memory for it and for all before it
  by_cases hapn : ∀ j ≤ k, (apnBlocks heap j).isSome = true
  · obtain ⟨blocks, a, hblocks, hdecode, ha⟩ := exists_of_decodeWhile happs hapn hfields
    by_cases hconn : ∀ j ≤ k, (connectionBlocks heap' j).isSome = true
    · obtain ⟨blocks', a', hblocks', hdecode', ha'⟩ := exists_of_decodeWhile hraw hconn hfields
      rw [ha, ha', Option.rel_some_some,
        alike_iff hkeys hactive (clear_of_connectionBlocks hblocks') hdecode hdecode']
      constructor
      · intro hsettled
        refine ⟨iff_of_true hapn hconn, fun _ q b b' hq hb hb' => ?_⟩
        obtain rfl := Option.some_inj.mp (hp.symm.trans hq)
        obtain rfl := Option.some_inj.mp (hblocks.symm.trans hb)
        obtain rfl := Option.some_inj.mp (hblocks'.symm.trans hb')
        exact hsettled
      · intro hagrees
        exact hagrees.settled hapn p blocks blocks' hp hblocks hblocks'
    · rw [ha, getElem?_eq_none_of_decodeWhile hraw hconn]
      exact iff_of_false Option.not_rel_none_some fun hagrees => hconn (hagrees.reached.mp hapn)
  · rw [getElem?_eq_none_of_decodeWhile happs hapn]
    by_cases hconn : ∀ j ≤ k, (connectionBlocks heap' j).isSome = true
    · obtain ⟨blocks', a', -, -, ha'⟩ := exists_of_decodeWhile hraw hconn hfields
      rw [ha']
      exact iff_of_false Option.not_rel_some_none fun hagrees => hapn (hagrees.reached.mpr hconn)
    · rw [getElem?_eq_none_of_decodeWhile hraw hconn]
      exact iff_of_true Option.rel_none_none ⟨iff_of_false hapn hconn, fun h => absurd h hapn⟩

/-- What is kept are the contexts whose dictionaries say that they are active. -/
theorem filter_active_eq {raw : List DataContext}
    (hraw : decodeWhile (connectionBlocks heap') decodeContext (ps.map pathDictFields) = some raw) :
    raw.filter DataContext.active =
      ((ps.zip raw).filter fun x => isActive (pathDictFields x.1)).map Prod.snd := by
  refine filter_eq_filter_zip (p := fun p => isActive (pathDictFields p)) ?_ fun k p a hp ha => ?_
  · simpa using length_le_of_decodeWhile hraw
  · have hfields : (ps.map pathDictFields)[k]? = some (pathDictFields p) := by
      rw [List.getElem?_map, hp]
      rfl
    by_cases hconn : ∀ j ≤ k, (connectionBlocks heap' j).isSome = true
    · obtain ⟨blocks, a', hblocks, hdecode, ha'⟩ := exists_of_decodeWhile hraw hconn hfields
      obtain rfl := Option.some_inj.mp (ha.symm.trans ha')
      exact active_of_decodeContext hblocks hdecode
    · rw [getElem?_eq_none_of_decodeWhile hraw hconn] at ha
      contradiction

end Lists

section Replies

variable {handler : AsyncHandler Payload} {message : Message} {heap : Heap}
  {ps : List (String × List (String × Value))} (hcb : handler.cbFunction ≠ null)
  (hreply : message.isError = false) (hargs : message.args = [pathDicts ps])
include hcb hreply hargs

theorem apnListLoaded_eq :
    apnListLoaded handler message heap =
      (decodeApnList heap [pathDicts ps]).map fun dcs => deliver (listed handler.result dcs) :=
  onTypedReply_of_args hcb hreply hargs rfl

theorem dataConnectionListQueryDone_eq :
    dataConnectionListQueryDone handler message heap =
      (decodeConnectionList heap [pathDicts ps]).map fun dcs =>
        deliver (listed handler.result dcs) :=
  onTypedReply_of_args hcb hreply hargs rfl

/-- What can be read is what is answered. -/
theorem readableApnList_iff :
    ReadableApnList heap message ↔ (decodeApnList heap [pathDicts ps]).isSome = true := by
  have hanswers : Answers message handler.result (apnListLoaded handler message heap) ↔
      (decodeApnList heap [pathDicts ps]).isSome = true := by
    rw [apnListLoaded_eq hcb hreply hargs]
    exact answers_map_deliver_iff (fun _ => ⟨rfl, rfl, rfl⟩) hreply
  rw [← hanswers, answers_apnListLoaded_iff hcb]
  simp [hreply]

theorem readableConnectionList_iff :
    ReadableConnectionList heap message ↔
      (decodeConnectionList heap [pathDicts ps]).isSome = true := by
  have hanswers : Answers message handler.result
      (dataConnectionListQueryDone handler message heap) ↔
        (decodeConnectionList heap [pathDicts ps]).isSome = true := by
    rw [dataConnectionListQueryDone_eq hcb hreply hargs]
    exact answers_map_deliver_iff (fun _ => ⟨rfl, rfl, rfl⟩) hreply
  rw [← hanswers, answers_dataConnectionListQueryDone_iff hcb]
  simp [hreply]

end Replies

/-- For a reply of at most ten contexts, none of which has a key twice, the one function lists the
active contexts of the other one exactly if both can read what they get to, and agree on every
active context. -/
theorem listsActive_iff {handler handler' : AsyncHandler Payload} {message : Message}
    {heap heap' : Heap} {ps : List (String × List (String × Value))}
    (hcb : handler.cbFunction ≠ null) (hcb' : handler'.cbFunction ≠ null)
    (hreply : message.isError = false) (hargs : message.args = [pathDicts ps])
    (hlen : ps.length ≤ 10) (hkeys : ∀ p ∈ ps, (p.2.map Prod.fst).Nodup) :
    ListsActive handler handler' message heap heap' ps ↔
      ReadableApnList heap message ∧ ReadableConnectionList heap' message ∧
        ∀ (k : ℕ) p, ps[k]? = some p → isActive (pathDictFields p) = true →
          Agrees heap heap' ps k := by
  rw [readableApnList_iff hcb hreply hargs, readableConnectionList_iff hcb' hreply hargs,
    ListsActive, apnListLoaded_eq hcb hreply hargs,
    dataConnectionListQueryDone_eq hcb' hreply hargs, decodeApnList_eq hlen,
    decodeConnectionList_eq hlen]
  cases happs : decodeWhile (apnBlocks heap) decodeContext (ps.map pathDictFields) with
  | none => simp
  | some apns =>
    cases hraw : decodeWhile (connectionBlocks heap') decodeContext (ps.map pathDictFields) with
    | none => simp
    | some raw =>
      -- both lists keep the order of the reply, so they are compared place by place
      have hlists : List.Forall₂ Alike (raw.filter DataContext.active)
            (((ps.zip apns).filter fun x => isActive (pathDictFields x.1)).map Prod.snd) ↔
          ∀ (k : ℕ) p, ps[k]? = some p → isActive (pathDictFields p) = true →
            Agrees heap heap' ps k := by
        rw [filter_active_eq hraw,
          forall₂_filter_zip_iff (p := fun p => isActive (pathDictFields p))]
        refine forall₃_congr fun k p hp => ?_
        refine forall_congr' fun hactive => ?_
        exact rel_iff_agrees happs hraw hp (hkeys p (List.mem_of_getElem? hp)) hactive
      rw [← hlists]
      simp only [Option.map_some, Option.isSome_some, true_and]
      constructor
      · rintro ⟨apns', connections, hdeliver, hdeliver', hforall⟩
        rw [Option.some_inj] at hdeliver hdeliver'
        obtain rfl := deliver_listed_inj hdeliver
        obtain rfl := deliver_listed_inj hdeliver'
        exact hforall
      · intro hforall
        exact ⟨apns, raw.filter DataContext.active, rfl, rfl, hforall⟩

/-! ## A context without a user name -/

/-- An active context with all properties that are not settings. -/
def fullContext : String × List (String × Value) :=
  ("/ril_0/context1", [("Active", .boolean 1), ("Name", .string "Net"),
    ("Type", .string "internet"), ("Protocol", .string "IP"), ("AccessPointName", .string "net"),
    ("Username", .string ""), ("Password", .string ""), ("AuthenticationMethod", .string "none"),
    ("MessageProxy", .string ""), ("MessageCenter", .string "")])

/-- The same without the user name. -/
def namelessContext : String × List (String × Value) :=
  ("/ril_0/context1", fullContext.2.filter fun p => p.1 ≠ "Username")

def fullReply : Message where
  type := .methodReturn
  args := [pathDicts [fullContext]]
  typed := by decide

def namelessReply : Message where
  type := .methodReturn
  args := [pathDicts [namelessContext]]
  typed := by decide

/-- A block that has described another context before. -/
def usedContext : DataContext where
  id := .null
  name := "Wap"
  type := .wap
  active := false
  preferred := false
  username := "guest"
  password := "guest"
  accesspointname := "wap"
  messageproxy := ""
  messagecenter := ""
  protocol := .ipv6
  authMethod := .pap
  ipSettings := none

def usedBlocks : Heap :=
  { Heap.exhausted with
    dataContext := fun _ => some usedContext
    ipSettings := fun _ => some ⟨none, none, 0⟩ }

def listHandler : AsyncHandler Payload := ⟨⟨0, 0, 0, 0, 0, .null, 0⟩, 1⟩

/-- A context that has every property is described alike, whatever its blocks hold. -/
theorem listsActive_fullReply :
    ListsActive listHandler listHandler fullReply usedBlocks usedBlocks [fullContext] := by
  have hcb : listHandler.cbFunction ≠ null := by decide
  refine (listsActive_iff hcb hcb rfl rfl (by decide) (by decide)).mpr ⟨?_, ?_, ?_⟩
  · exact (readableApnList_iff hcb rfl rfl).mpr (by decide)
  · exact (readableConnectionList_iff hcb rfl rfl).mpr (by decide)
  · intro k p hp _
    obtain ⟨rfl, rfl⟩ : k = 0 ∧ fullContext = p := by
      cases k with
      | zero => exact ⟨rfl, Option.some_inj.mp hp⟩
      | succ k => cases hp
    have htexts : ∀ c ∈ dataContextCopies, HasText c.key fullContext.2 := by
      simp only [dataContextCopies, List.forall_mem_cons]
      refine ⟨?_, ?_, ?_, ?_, ?_, ?_, by simp⟩
      all_goals exact ⟨_, _, rfl, rfl, by decide⟩
    refine ⟨iff_of_true (fun _ _ => rfl) (fun _ _ => rfl), fun _ q blocks blocks' hq _ _ => ?_⟩
    obtain rfl := Option.some_inj.mp hq
    exact ⟨fun c hc => .inl (htexts c hc), .inl (by decide), .inl (by decide), .inl (by decide)⟩

/-- The user name of the other context is delivered by the function that clears nothing. -/
theorem not_listsActive_namelessReply :
    ¬ ListsActive listHandler listHandler namelessReply usedBlocks usedBlocks
      [namelessContext] := by
  have hcb : listHandler.cbFunction ≠ null := by decide
  have hapn : (decodeApnList usedBlocks [pathDicts [namelessContext]]).map
      (List.map DataContext.username) = some ["guest"] := by decide
  have hconn : (decodeConnectionList usedBlocks [pathDicts [namelessContext]]).map
      (List.map DataContext.username) = some [""] := by decide
  have hactive : isActive (pathDictFields namelessContext) = true := by decide
  rintro ⟨apns, connections, hapns, hconnections, hforall⟩
  rw [apnListLoaded_eq hcb rfl rfl, Option.map_eq_some_iff] at hapns
  rw [dataConnectionListQueryDone_eq hcb rfl rfl, Option.map_eq_some_iff] at hconnections
  obtain ⟨dcs, hdcs, hdeliver⟩ := hapns
  obtain ⟨dcs', hdcs', hdeliver'⟩ := hconnections
  obtain rfl := deliver_listed_inj hdeliver
  obtain rfl := deliver_listed_inj hdeliver'
  rw [hdcs, Option.map_some, Option.some_inj, List.map_eq_singleton_iff] at hapn
  rw [hdcs', Option.map_some, Option.some_inj, List.map_eq_singleton_iff] at hconn
  obtain ⟨a, rfl, ha⟩ := hapn
  obtain ⟨c, rfl, hc⟩ := hconn
  have halike : Alike c a := by simpa [hactive] using hforall
  have husername := halike.username
  rw [ha, hc] at husername
  contradiction

end Telephony.Data
