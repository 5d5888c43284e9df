import Telephony.Data.Reply
import Telephony.Signal

/-!
# Data signals

## Main definitions

* `Data.dataPropertyChanged`, `Data.dataConnectionChanged` — the functions of the signal watches
  of `tapi_data.c`

## Main results

* `Data.keeps_dataPropertyChanged`, `Data.keeps_dataConnectionChanged` — the record keeps its
  origin
-/

namespace Telephony.Data

open DBus

variable {handler : AsyncHandler Payload} {message : Message} {heap : Heap}

/-! ## Network types -/

def networkTypeUnknown : ℤ := 0
def networkTypeEdge : ℤ := 2
def networkTypeUmts : ℤ := 3
def networkTypeHsdpa : ℤ := 8
def networkTypeHsupa : ℤ := 9
def networkTypeHspa : ℤ := 12
def networkTypeLte : ℤ := 13
def networkTypeLteCa : ℤ := 19

/-- `tapi_utils_network_type_from_ril_tech`. -/
def networkTypeFromRilTech (tech : RadioTech) (type : ℤ) : ℤ :=
  if type = tech.edge then networkTypeEdge
  else if type = tech.umts then networkTypeUmts
  else if type = tech.lte then networkTypeLte
  else if type = tech.hsdpa then networkTypeHsdpa
  else if type = tech.hspa then networkTypeHspa
  else if type = tech.hsupa then networkTypeHsupa
  else if type = tech.lteCa then networkTypeLteCa
  else networkTypeUnknown

/-! ## Signal functions -/

/-- `data_property_changed`. The status says ERROR also while nothing is delivered. -/
def dataPropertyChanged (cfg : Config) (handler : AsyncHandler Payload) (message : Message) :
    Option Handling :=
  onPropertySignal handler.failing message fun property var ar =>
    if ar.msgId = IndicationMsg.dataEnabledChange.value ∧ property = "DataOn" then
      deliverInt var ar
    else if ar.msgId = IndicationMsg.defaultDataSlotChange.value ∧ property = "DataSlot" then
      var.getString.map fun slot =>
        deliver { ar with status := ok, arg2 := tapiUtilsGetSlotId cfg slot }
    else if ar.msgId = IndicationMsg.dataNetworkTypeChange.value ∧ property = "Technology" then
      var.getInt.map fun type =>
        deliver { ar with status := ok, arg2 := networkTypeFromRilTech cfg.radioTech type }
    else if ar.msgId = IndicationMsg.dataRegistrationStateChange.value ∧ property = "Status" then
      deliverInt var ar
    else some (ignore ar)

/-- The properties that `data_connection_changed` knows. -/
def connectionProperties (blocks : ContextBlocks) : PropertyTable DataContext :=
  [("Type", .text fun s dc => { dc with type := apnTypeFromString s }),
    ("Active", .flag fun b dc => { dc with active := b }),
    ("Mtu", .int fun n dc =>
      { dc with ipSettings := dc.ipSettings.map fun ip => { ip with mtu := n } })]
    ++ settingsProperties blocks

/-- The blocks of `data_connection_changed`: a context with settings, whose texts are cleared. -/
def changedBlocks (heap : Heap) : Option ContextBlocks :=
  (heap.dataContext 0).bind fun dc =>
    (heap.ipSettings 0).map fun ip =>
      { context := { dc with
          ipSettings := some { ip with ipv4 := none, ipv6 := none }
          accesspointname := ""
          name := ""
          username := ""
          password := ""
          messageproxy := ""
          messagecenter := "" }
        ipv4 := heap.ipv4Settings 0
        ipv6 := heap.ipv6Settings 0 }

/-- `data_connection_changed`. Without memory for the context the signal is dropped, and one
without arguments is delivered as an error. -/
def dataConnectionChanged (handler : AsyncHandler Payload) (message : Message) (heap : Heap) :
    Option Handling :=
  withCallback handler fun ar =>
    match changedBlocks heap with
    | none => some (ignore ar)
    | some blocks =>
      if message.args = [] then some (fail ar)
      else
        message.args.getString.bind fun id =>
          message.args.next.recurse.bind fun list =>
            ((connectionProperties blocks).readAll list
              { blocks.context with id := .text id }).map fun dc =>
                deliver { ar with status := ok, data := .dataContext dc }

/-! ## Origins -/

theorem keeps_dataPropertyChanged {cfg : Config} :
    Keeps handler.result (dataPropertyChanged cfg handler message) := by
  have hkeeps : Keeps handler.failing.result (dataPropertyChanged cfg handler message) := by
    refine keeps_onPropertySignal fun property var => ?_
    refine keeps_deliverInt.ite (Keeps.ite ?_ (Keeps.ite ?_ (keeps_deliverInt.ite keeps_ignore)))
    · exact keeps_map fun _ => ⟨rfl, rfl, rfl⟩
    · exact keeps_map fun _ => ⟨rfl, rfl, rfl⟩
  exact hkeeps

theorem keeps_dataConnectionChanged :
    Keeps handler.result (dataConnectionChanged handler message heap) := by
  apply keeps_withCallback
  cases changedBlocks heap with
  | none => exact keeps_ignore
  | some blocks =>
    refine keeps_fail.ite (keeps_bind fun id => keeps_bind fun list => ?_)
    exact keeps_map fun _ => ⟨rfl, rfl, rfl⟩

end Telephony.Data
