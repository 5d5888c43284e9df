import Telephony.Reply
import Telephony.Strings

/-!
# Replies to data requests

## Main definitions

* `Data.parseIpv4Properties`, `Data.parseIpv6Properties` — the address settings of a context
* `Data.updateDataContexts` — a context, from its properties
* `Data.apnListLoaded`, `Data.dataConnectionListQueryDone`, `Data.apnListChanged` — the reply
  functions of `tapi_data.c`

## Main results

* `Data.answers_apnListLoaded_iff`, `Data.answers_dataConnectionListQueryDone_iff` — which
  replies are answered
-/

namespace Telephony.Data

open DBus

variable {handler : AsyncHandler Payload} {message : Message} {heap : Heap}

/-! ## Limits -/

def maxApnListCapacity : ℕ := 10
def maxApnDomainLength : ℕ := 128
def maxIpInterfaceNameLength : ℕ := 128
def maxIpStringLength : ℕ := 128
def maxDataDnsCount : ℕ := 10
def maxDataCallListSize : ℕ := 10

/-! ## Enumerations -/

/-- `tapi_utils_apn_type_from_string`. -/
def apnTypeFromString (type : String) : DataContextType :=
  if type = "internet" then .internet
  else if type = "hipri" then .hipri
  else if type = "supl" then .supl
  else if type = "mms" then .mms
  else if type = "wap" then .wap
  else if type = "ims" then .ims
  else if type = "emergency" then .emergency
  else .any

/-- `tapi_utils_apn_auth_from_string`. -/
def apnAuthFromString (auth : String) : DataAuthMethod :=
  if auth = "chap" then .chap else if auth = "pap" then .pap else .none

/-- `tapi_utils_apn_proto_from_string`. -/
def apnProtoFromString (proto : String) : DataProto :=
  if proto = "IP" then .ip
  else if proto = "IPV6" then .ipv6
  else if proto = "IPV4V6" then .ipv4v6
  else .ip

/-! ## Address settings -/

/-- The servers that the loop over `DomainNameServers` takes. -/
def dnsServers (list : Iter) : List String :=
  (list.filterMap fun
    | .string server => if server.utf8ByteSize ≤ maxIpStringLength then some server else none
    | _ => none).take maxDataDnsCount

/-- The properties that both parsers know. Servers replace the first places of the array. -/
def ipProperties : PropertyTable IpAddressSettings :=
  [("Interface", .text fun s ip =>
      { ip with interface := strcpyWithin maxIpInterfaceNameLength ip.interface s }),
    ("Address", .text fun s ip => { ip with ip := strcpyWithin maxIpStringLength ip.ip s }),
    ("Gateway", .text fun s ip =>
      { ip with gateway := strcpyWithin maxIpStringLength ip.gateway s }),
    ("DomainNameServers", .container fun list ip =>
      { ip with dns := dnsServers list ++ ip.dns.drop (dnsServers list).length }),
    ("Pcscf", .text fun s ip => { ip with pcscf := strcpyWithin maxIpStringLength ip.pcscf s })]

/-- The body of both parsers, in a block that has been cleared. Anything but an array leaves it
cleared. -/
def parseIpProperties (cleared : IpAddressSettings) (iter : Iter) : Option IpAddressSettings :=
  if iter.argType ≠ .array then some cleared
  else iter.recurse.bind fun list => ipProperties.readAll list cleared

/-- `parse_ipv4_properties`. -/
def parseIpv4Properties (block : Option IpAddressSettings) (iter : Iter) :
    Option (Option IpAddressSettings) :=
  match block with
  | none => some none
  | some block =>
    (parseIpProperties
      { block with
        interface := ""
        ip := ""
        gateway := ""
        proxy := ""
        pcscf := ""
        dns := List.replicate maxDataDnsCount "" } iter).map some

/-- `parse_ipv6_properties`. -/
def parseIpv6Properties (block : Option IpAddressSettings) (iter : Iter) :
    Option (Option IpAddressSettings) :=
  match block with
  | none => some none
  | some block =>
    (parseIpProperties
      { block with
        interface := ""
        ip := ""
        gateway := ""
        pcscf := ""
        dns := List.replicate maxDataDnsCount "" } iter).map some

/-- Without a block the settings are not looked at, and otherwise each of them is of the type
that it is read as. -/
def readsIpSettings (block : Option IpAddressSettings) (iter : Iter) : Bool :=
  block.all fun _ =>
    if iter.argType ≠ .array then true else iter.recurse.any ipProperties.readsAll

theorem isSome_parseIpProperties (cleared : IpAddressSettings) (iter : Iter) :
    (parseIpProperties cleared iter).isSome =
      if iter.argType ≠ .array then true else iter.recurse.any ipProperties.readsAll := by
  unfold parseIpProperties
  by_cases harray : iter.argType ≠ .array
  · simp [harray]
  · simp only [if_neg harray]
    cases iter.recurse <;> simp

theorem isSome_parseIpv4Properties (block : Option IpAddressSettings) (iter : Iter) :
    (parseIpv4Properties block iter).isSome = readsIpSettings block iter := by
  cases block with
  | none => rfl
  | some block =>
    exact Option.isSome_map.trans (isSome_parseIpProperties _ iter)

theorem isSome_parseIpv6Properties (block : Option IpAddressSettings) (iter : Iter) :
    (parseIpv6Properties block iter).isSome = readsIpSettings block iter := by
  cases block with
  | none => rfl
  | some block =>
    exact Option.isSome_map.trans (isSome_parseIpProperties _ iter)

/-! ## Contexts -/

/-- The blocks that a context is made of, as `malloc` grants them. -/
structure ContextBlocks where
  context : DataContext
  ipv4 : Option IpAddressSettings
  ipv6 : Option IpAddressSettings
  deriving DecidableEq, Repr

/-- The properties that `update_data_context` always knows. -/
def dataContextProperties : PropertyTable DataContext :=
  [("Name", .text fun s dc => { dc with name := strcpyWithin maxApnDomainLength dc.name s }),
    ("Active", .flag fun b dc => { dc with active := b }),
    ("Type", .text fun s dc => { dc with type := apnTypeFromString s }),
    ("Protocol", .text fun s dc => { dc with protocol := apnProtoFromString s }),
    ("AccessPointName", .text fun s dc =>
      { dc with accesspointname := strcpyWithin maxApnDomainLength dc.accesspointname s }),
    ("Username", .text fun s dc =>
      { dc with username := strcpyWithin maxApnDomainLength dc.username s }),
    ("Password", .text fun s dc =>
      { dc with password := strcpyWithin maxApnDomainLength dc.password s }),
    ("AuthenticationMethod", .text fun s dc => { dc with authMethod := apnAuthFromString s }),
    ("MessageProxy", .text fun s dc =>
      { dc with messageproxy := strcpyWithin maxApnDomainLength dc.messageproxy s }),
    ("MessageCenter", .text fun s dc =>
      { dc with messagecenter := strcpyWithin maxApnDomainLength dc.messagecenter s })]

/-- The properties that `update_data_context` knows if there is a block for the settings. -/
def settingsProperties (blocks : ContextBlocks) : PropertyTable DataContext :=
  [("Settings", {
      read value dc := (parseIpv4Properties blocks.ipv4 value).map fun ipv4 =>
        { dc with ipSettings := dc.ipSettings.map fun ip => { ip with ipv4 := ipv4 } }
      reads := readsIpSettings blocks.ipv4
      isSome_read value _ :=
        Option.isSome_map.trans (isSome_parseIpv4Properties blocks.ipv4 value) }),
    ("IPv6.Settings", {
      read value dc := (parseIpv6Properties blocks.ipv6 value).map fun ipv6 =>
        { dc with ipSettings := dc.ipSettings.map fun ip => { ip with ipv6 := ipv6 } }
      reads := readsIpSettings blocks.ipv6
      isSome_read value _ :=
        Option.isSome_map.trans (isSome_parseIpv6Properties blocks.ipv6 value) })]

/-- What `update_data_context` knows, for a context with or without settings. -/
def contextProperties (blocks : ContextBlocks) : PropertyTable DataContext :=
  if blocks.context.ipSettings.isSome then dataContextProperties ++ settingsProperties blocks
  else dataContextProperties

/-- With or without the settings, a property of the table is one of a context or one of the
settings. -/
theorem mem_of_mem_contextProperties {blocks : ContextBlocks} {p : String × Property DataContext}
    (hp : p ∈ contextProperties blocks) :
    p ∈ dataContextProperties ++ settingsProperties blocks := by
  unfold contextProperties at hp
  split at hp
  · exact hp
  · exact List.mem_append_left _ hp

/-- `update_data_contexts`. -/
def updateDataContexts (blocks : ContextBlocks) (dict : Iter) (dc : DataContext) :
    Option DataContext :=
  (contextProperties blocks).readAll dict dc

/-- The loop bodies of both list functions: the path of a context and its properties. -/
def decodeContext (blocks : ContextBlocks) (entry : Iter) : Option DataContext :=
  entry.getString.bind fun id =>
    entry.next.recurse.bind fun dict =>
      updateDataContexts blocks dict { blocks.context with id := .text id }

/-- The blocks of `apn_list_loaded`, which has no settings and clears nothing else. -/
def apnBlocks (heap : Heap) (pos : ℕ) : Option ContextBlocks :=
  (heap.dataContext pos).map fun dc => ⟨{ dc with ipSettings := none }, none, none⟩

/-- The blocks of `data_connection_list_query_done`: a context that is cleared but for its
enumerations, with settings. -/
def connectionBlocks (heap : Heap) (pos : ℕ) : Option ContextBlocks :=
  (heap.dataContext pos).bind fun dc =>
    (heap.ipSettings pos).map fun ip =>
      { context := { dc with
          ipSettings := some { ip with ipv4 := none, ipv6 := none, mtu := 0 }
          active := false
          accesspointname := ""
          name := ""
          username := ""
          password := ""
          messageproxy := ""
          messagecenter := "" }
        ipv4 := heap.ipv4Settings pos
        ipv6 := heap.ipv6Settings pos }

/-! ## Reply functions -/

/-- The loop of `apn_list_loaded`. -/
def decodeApnList (heap : Heap) (args : Iter) : Option (List DataContext) :=
  args.recurse.bind fun list =>
    collectStructs (apnBlocks heap) decodeContext (fun _ => true) maxApnListCapacity 0 0 list

/-- `apn_list_loaded`. -/
def apnListLoaded (handler : AsyncHandler Payload) (message : Message) (heap : Heap) :
    Option Handling :=
  onTypedReply handler message [.pathDicts] fun args ar =>
    (decodeApnList heap args).map fun result =>
      deliver { ar with status := ok, arg2 := result.length, data := .dataContexts result }

/-- `apn_list_changed`. -/
def apnListChanged (handler : AsyncHandler Payload) (message : Message) : Option Handling :=
  onStatusReply handler message

/-- The loop of `data_connection_list_query_done`. Only active contexts are kept. -/
def decodeConnectionList (heap : Heap) (args : Iter) : Option (List DataContext) :=
  args.recurse.bind fun list =>
    collectStructs (connectionBlocks heap) decodeContext DataContext.active maxDataCallListSize
      0 0 list

/-- `data_connection_list_query_done`. -/
def dataConnectionListQueryDone (handler : AsyncHandler Payload) (message : Message)
    (heap : Heap) : Option Handling :=
  onTypedReply handler message [.pathDicts] fun args ar =>
    (decodeConnectionList heap args).map fun result =>
      deliver { ar with status := ok, arg2 := result.length, data := .dataContexts result }

/-! ## Which replies are answered -/

/-- The context can be taken, with the given blocks. -/
def readsContext (blocks : ContextBlocks) (fields : Iter) : Bool :=
  fields.getString.any fun _ => fields.next.recurse.any (contextProperties blocks).readsAll

theorem isSome_decodeContext (blocks : ContextBlocks) (fields : Iter) :
    (decodeContext blocks fields).isSome = readsContext blocks fields := by
  unfold decodeContext updateDataContexts readsContext
  cases fields.getString with
  | none => rfl
  | some id => cases fields.next.recurse <;> simp

/-- Every context that `apn_list_loaded` gets to has properties of the types that they are read
as. -/
def ReadableApnList (heap : Heap) (message : Message) : Prop :=
  ∀ ps, message.args = [pathDicts ps] →
    ReadableStructs (apnBlocks heap) readsContext (fun _ => true) maxApnListCapacity 0 0
      (ps.map pathDictFields)

theorem answers_apnListLoaded_iff (hcb : handler.cbFunction ≠ null) :
    Answers message handler.result (apnListLoaded handler message heap) ↔
      (message.isError = false → ReadableApnList heap message) := by
  refine Iff.trans (answers_onTypedReply_decode_iff hcb fun _ _ => ⟨rfl, rfl, rfl⟩) ?_
  refine forall_congr' fun _ => ?_
  rw [Message.forall_pathDicts_iff fun args => (decodeApnList heap args).isSome = true]
  refine forall₂_congr fun ps _ => ?_
  rw [pathDicts_eq]
  exact isSome_collectStructs_iff isSome_decodeContext (fun _ _ _ _ _ _ => rfl) (by decide)

/-- The context is active: its last `Active` says so. -/
def isActive (fields : Iter) : Bool :=
  fields.next.recurse.any fun dict => PropertyTable.lastOf "Active" Iter.getFlag dict false

theorem active_updateDataContexts {blocks : ContextBlocks} {dict : Iter}
    {dc dc' : DataContext} (h : updateDataContexts blocks dict dc = some dc') :
    dc'.active = PropertyTable.lastOf "Active" Iter.getFlag dict dc.active := by
  refine PropertyTable.readAll_lastOf _ DataContext.active ?_ ?_ h
  · intro value x x' hfill
    have hread : (Property.flag fun b (dc : DataContext) => { dc with active := b }).read value x
        = some x' := by
      rw [← hfill]
      unfold contextProperties
      split <;> rfl
    obtain ⟨b, hb, rfl⟩ := Option.map_eq_some_iff.mp hread
    exact hb
  · intro key value x x' hkey hfill
    obtain ⟨p, hp, hread⟩ | ⟨-, rfl⟩ := PropertyTable.fill_cases _ hfill
    · have hmem := mem_of_mem_contextProperties hp
      simp only [dataContextProperties, settingsProperties, List.mem_append, List.mem_cons,
        Prod.mk.injEq, List.not_mem_nil, or_false, hkey, false_and, false_or] at hmem
      -- every other property sets a field of its own
      rcases hmem with (⟨-, rfl⟩ | ⟨-, rfl⟩ | ⟨-, rfl⟩ | ⟨-, rfl⟩ | ⟨-, rfl⟩ | ⟨-, rfl⟩ |
        ⟨-, rfl⟩ | ⟨-, rfl⟩ | ⟨-, rfl⟩) | ⟨-, rfl⟩ | ⟨-, rfl⟩
      all_goals
        obtain ⟨_, _, rfl⟩ := Option.map_eq_some_iff.mp hread
        rfl
    · rfl

theorem active_of_decodeContext {heap : Heap} {pos : ℕ} {blocks : ContextBlocks}
    (hblocks : connectionBlocks heap pos = some blocks) {fields : Iter} {dc : DataContext}
    (h : decodeContext blocks fields = some dc) : dc.active = isActive fields := by
  have hcleared : blocks.context.active = false := by
    simp only [connectionBlocks, Option.bind_eq_some_iff, Option.map_eq_some_iff] at hblocks
    obtain ⟨_, -, _, -, rfl⟩ := hblocks
    rfl
  simp only [decodeContext, Option.bind_eq_some_iff] at h
  obtain ⟨id, -, dict, hdict, hupdate⟩ := h
  rw [active_updateDataContexts hupdate, hcleared, isActive, hdict]
  rfl

/-- Every context that `data_connection_list_query_done` gets to has properties of the types that
they are read as. -/
def ReadableConnectionList (heap : Heap) (message : Message) : Prop :=
  ∀ ps, message.args = [pathDicts ps] →
    ReadableStructs (connectionBlocks heap) readsContext isActive maxDataCallListSize 0 0
      (ps.map pathDictFields)

theorem answers_dataConnectionListQueryDone_iff (hcb : handler.cbFunction ≠ null) :
    Answers message handler.result (dataConnectionListQueryDone handler message heap) ↔
      (message.isError = false → ReadableConnectionList heap message) := by
  refine Iff.trans (answers_onTypedReply_decode_iff hcb fun _ _ => ⟨rfl, rfl, rfl⟩) ?_
  refine forall_congr' fun _ => ?_
  rw [Message.forall_pathDicts_iff fun args => (decodeConnectionList heap args).isSome = true]
  refine forall₂_congr fun ps _ => ?_
  rw [pathDicts_eq]
  exact isSome_collectStructs_iff isSome_decodeContext
    (fun _ _ _ _ hblocks hdecode => active_of_decodeContext hblocks hdecode) (by decide)

end Telephony.Data
