import Telephony.Cells
import Telephony.Reply
import Telephony.Strings

/-!
# Replies to network requests

## Main definitions

* `Network.fillRegistrationInfo`, `Network.fillCellIdentityList`, `Network.fillOperatorList` —
  the structures of a reply, from its properties
* `Network.registrationInfoQueryDone`, `Network.operatorScanComplete`, … — the reply functions
  of `tapi_network.c`

## Main results

* `Network.answers_operatorScanComplete_iff` and its companions — which replies are answered
-/

namespace Telephony.Network

open DBus

variable {handler : AsyncHandler Payload} {message : Message} {heap : Heap}

/-! ## Limits -/

def maxOperatorNameLength : ℕ := 63
def maxMccLength : ℕ := 3
def maxMncLength : ℕ := 3
def maxNetworkInfoLength : ℕ := 100
def maxOperatorInfoListSize : ℕ := 30
def maxCellInfoListSize : ℕ := 30

/-! ## Enumerations -/

/-- `tapi_utils_registration_status_from_string`. -/
def registrationStatusFromString (status : String) : RegistrationState :=
  if status = "unregistered" then .notRegistered
  else if status = "registered" then .registered
  else if status = "searching" then .searching
  else if status = "denied" then .denied
  else if status = "unknown" then .unknown
  else if status = "roaming" then .roaming
  else if status = "registered_em" then .registedEm
  else if status = "unregistered_em" then .notRegisteredEm
  else if status = "searching_em" then .searchingEm
  else if status = "denied_em" then .deniedEm
  else if status = "unknown_em" then .unknownEm
  else .unknown

/-- `tapi_utils_registration_mode_from_string`. -/
def registrationModeFromString (mode : String) : SelectionMode :=
  if mode = "auto" then .auto else if mode = "manual" then .manual else .unknown

/-- `tapi_utils_operator_status_from_string`. -/
def operatorStatusFromString (mode : String) : OperatorStatus :=
  if mode = "current" then .current
  else if mode = "available" then .available
  else if mode = "forbidden" then .forbidden
  else .unknown

/-- `tapi_utils_cell_type_from_string`. -/
def cellTypeFromString (name : String) : CellType :=
  if name = "gsm" then .gsm
  else if name = "umts" then .umts
  else if name = "lte" then .lte
  else if name = "nr" then .nr
  else .none

/-! ## Network time -/

/-- The tokens of a network time, as many as there are, replace the fields from the first. -/
def overwriteNetworkTime (fields : List ℤ) (info : NetworkTime) :
    NetworkTime where
  sec := fields.getD 0 info.sec
  min := fields.getD 1 info.min
  hour := fields.getD 2 info.hour
  mday := fields.getD 3 info.mday
  mon := fields.getD 4 info.mon
  year := fields.getD 5 info.year
  dst := fields.getD 6 info.dst
  utcoff := fields.getD 7 info.utcoff

/-- `parse_nitz`. Without memory for a copy `strtok` would go on with the text of an earlier
call, and tokens beyond the eighth would be written behind the structure. -/
def parseNitz (heap : Heap) (str : String) (info : NetworkTime) : Option NetworkTime :=
  if heap.strdup ∧ (strtok str ',').length ≤ 8 then
    some (overwriteNetworkTime ((strtok str ',').map atoi) info)
  else none

def unsetNetworkTime : NetworkTime := ⟨-1, -1, -1, -1, -1, -1, -1, -1⟩

/-! ## Structures -/

/-- The properties that `fill_registration_info` knows. -/
def registrationInfoProperties (heap : Heap) : PropertyTable RegistrationInfo :=
  [("Status", .text fun s info => { info with regState := registrationStatusFromString s }),
    ("Mode", .text fun s info => { info with selectionMode := registrationModeFromString s }),
    ("Technology", .int fun n info => { info with technology := n }),
    ("Name", .text fun s info =>
      { info with operatorName := strcpyWithin maxOperatorNameLength info.operatorName s }),
    ("MobileCountryCode", .text fun s info =>
      { info with mcc := strcpyWithin maxMccLength info.mcc s }),
    ("MobileNetworkCode", .text fun s info =>
      { info with mnc := strcpyWithin maxMncLength info.mnc s }),
    ("BaseStation", .text fun s info =>
      { info with station := strcpyWithin maxNetworkInfoLength info.station s }),
    ("CellId", .int fun n info => { info with cellId := n }),
    ("LocationAreaCode", .int fun n info => { info with lac := n }),
    ("NITZ", .parsedText (fun s => parseNitz heap s unsetNetworkTime) fun time info =>
      { info with nitzTime := time }),
    ("DenialReason", .int fun n info => { info with denialReason := n })]

/-- `fill_registration_info`, for all properties of a reply. -/
def fillRegistrationInfo (heap : Heap) (list : Iter) (info : RegistrationInfo) :
    Option RegistrationInfo :=
  (registrationInfoProperties heap).readAll list info

/-- The properties that `fill_cell_identity` knows. -/
def cellIdentityProperties : PropertyTable CellIdentity :=
  [("MobileCountryCode", .text fun s cell =>
      { cell with mccStr := strcpyWithin maxMccLength cell.mccStr s }),
    ("MobileNetworkCode", .text fun s cell =>
      { cell with mncStr := strcpyWithin maxMncLength cell.mncStr s }),
    ("LocationAreaCode", .int fun n cell => { cell with lac := n }),
    ("CellId", .int fun n cell => { cell with ci := n }),
    ("EARFCN", .int fun n cell => { cell with earfcn := n }),
    ("PhysicalCellId", .int fun n cell => { cell with pci := n }),
    ("TrackingAreaCode", .int fun n cell => { cell with tac := n }),
    ("Registered", .flag fun b cell => { cell with registered := b }),
    ("Technology", .text fun s cell => { cell with type := cellTypeFromString s }),
    ("Strength", .byte fun n cell =>
      { cell with signalStrength := { cell.signalStrength with rssi := n } }),
    ("SingalToNoiseRatio", .int fun n cell =>
      { cell with signalStrength := { cell.signalStrength with rssnr := n } }),
    ("ReferenceSignalReceivedQuality", .int fun n cell =>
      { cell with signalStrength := { cell.signalStrength with rsrq := n } }),
    ("ReferenceSignalReceivedPower", .int fun n cell =>
      { cell with signalStrength := { cell.signalStrength with rsrp := n } }),
    ("Level", .int fun n cell =>
      { cell with signalStrength := { cell.signalStrength with level := n } })]

/-- `fill_cell_identity_list`. -/
def fillCellIdentityList (dict : Iter) (cell : CellIdentity) : Option CellIdentity :=
  cellIdentityProperties.readAll dict cell

/-- The loop body of `cell_list_request_complete`, in a fresh block. -/
def decodeCell (cell : CellIdentity) (entry : Iter) : Option CellIdentity :=
  entry.recurse.bind fun dict =>
    fillCellIdentityList dict
      { cell with mccStr := "", mncStr := "", alphaLong := "", alphaShort := "" }

/-- The loop of `cell_list_request_complete`. -/
def decodeCellList (heap : Heap) (args : Iter) : Option (List CellIdentity) :=
  args.recurse.bind fun list =>
    collectStructs heap.cellIdentity decodeCell (fun _ => true) maxCellInfoListSize 0 0 list

/-- The properties that `update_network_operator` knows. -/
def operatorInfoProperties : PropertyTable OperatorInfo :=
  [("Name", .optionalText fun s op =>
      { op with name := strcpyWithin maxOperatorNameLength op.name s }),
    ("Status", .optionalText fun s op => { op with status := operatorStatusFromString s }),
    ("MobileCountryCode", .optionalText fun s op =>
      { op with mcc := strcpyWithin maxMccLength op.mcc s }),
    ("MobileNetworkCode", .optionalText fun s op =>
      { op with mnc := strcpyWithin maxMncLength op.mnc s }),
    ("Technologies", .optionalText fun s op =>
      { op with technology := strcpyWithin maxNetworkInfoLength op.technology s })]

/-- `fill_operator_list`. -/
def fillOperatorList (dict : Iter) (op : OperatorInfo) : Option OperatorInfo :=
  operatorInfoProperties.readAll dict op

/-- The loop body of `operator_scan_complete`, in a fresh block. -/
def decodeOperator (op : OperatorInfo) (entry : Iter) : Option OperatorInfo :=
  entry.getString.bind fun path =>
    entry.next.recurse.bind fun dict =>
      fillOperatorList dict
        { op with
          id := strcpyWithin maxNetworkInfoLength "" path
          name := ""
          mcc := ""
          mnc := ""
          technology := "" }

/-- The loop of `operator_scan_complete`. -/
def decodeOperatorList (heap : Heap) (args : Iter) : Option (List OperatorInfo) :=
  args.recurse.bind fun list =>
    collectStructs heap.operatorInfo decodeOperator (fun _ => true) maxOperatorInfoListSize 0 0
      list

/-! ## Roaming -/

/-- The roaming type of a registration abroad, by the operator that the SIM card names. -/
def roamingTypeOf (simNumeric : List UInt8) (mcc : String) : RoamingType :=
  if Cells.text simNumeric = [] then .unknown
  else if (Cells.text simNumeric).take maxMccLength = Cells.bytes mcc then .domestic
  else .international

/-- The end of `registration_info_query_done`. Whether the operator of the SIM card could be
read is not looked at, and the buffer holds no text if it could not. -/
def setRoamingType (heap : Heap) (data : Payload) (info : RegistrationInfo) :
    Option RegistrationInfo :=
  if info.regState ≠ .roaming then some { info with roamingType := .unknown }
  else
    match data with
    | .null => some { info with roamingType := .unknown }
    | .context =>
      heap.simOperator.map fun simNumeric =>
        { info with roamingType := roamingTypeOf simNumeric info.mcc }
    | _ => none

/-! ## Reply functions -/

/-- `network_register_cb`. -/
def networkRegisterCb (handler : AsyncHandler Payload) (message : Message) : Option Handling :=
  onStatusReply handler message

/-- `cell_list_request_complete`. An error reply is dropped. -/
def cellListRequestComplete (handler : AsyncHandler Payload) (message : Message)
    (heap : Heap) : Option Handling :=
  if message.isError then some (ignore handler.result)
  else
    onTypedReply handler message [.dicts] fun args ar =>
      (decodeCellList heap args).map fun cells =>
        deliver { ar with status := ok, arg2 := cells.length, data := .cellList cells }

/-- The registration that `registration_info_query_done` reads, in a block. -/
def decodeRegistration (heap : Heap) (data : Payload) (block : RegistrationInfo) (args : Iter) :
    Option RegistrationInfo :=
  args.recurse.bind fun list =>
    (fillRegistrationInfo heap list
      { block with operatorName := "", mcc := "", mnc := "", station := "" }).bind
        (setRoamingType heap data)

/-- `registration_info_query_done`. The block is asked for before the message is looked at. -/
def registrationInfoQueryDone (handler : AsyncHandler Payload) (message : Message)
    (heap : Heap) : Option Handling :=
  match heap.registrationInfo with
  | none => some (ignore handler.result)
  | some block =>
    onTypedReply handler message [.dict] fun args ar =>
      (decodeRegistration heap ar.data block args).map fun info =>
        deliver { ar with status := ok, data := .registrationInfo info }

/-- `operator_scan_complete`. An error reply is dropped. -/
def operatorScanComplete (handler : AsyncHandler Payload) (message : Message) (heap : Heap) :
    Option Handling :=
  if message.isError then some (ignore handler.result)
  else
    onTypedReply handler message [.pathDicts] fun args ar =>
      (decodeOperatorList heap args).map fun operators =>
        deliver { ar with
          arg2 := operators.length, data := .operatorList operators, status := ok }

/-! ## Which replies are answered -/

/-- The cell can be taken, into whatever block. -/
def readsCell (_ : CellIdentity) (fields : Iter) : Bool :=
  fields.recurse.any cellIdentityProperties.readsAll

/-- Every cell of a list that `cell_list_request_complete` gets to has properties of the types
that they are read as. -/
def ReadableCells (heap : Heap) (message : Message) : Prop :=
  ∀ cells, message.args = [dicts cells] →
    ReadableStructs heap.cellIdentity readsCell (fun _ => true) maxCellInfoListSize 0 0
      (cells.map fun cell => [dict cell])

theorem isSome_decodeCell (cell : CellIdentity) (fields : Iter) :
    (decodeCell cell fields).isSome = readsCell cell fields := by
  unfold decodeCell fillCellIdentityList readsCell
  cases fields.recurse <;> simp

theorem answers_cellListRequestComplete_iff (hcb : handler.cbFunction ≠ null) :
    Answers message handler.result (cellListRequestComplete handler message heap) ↔
      message.isError = false ∧ ReadableCells heap message := by
  unfold cellListRequestComplete
  cases herr : message.isError with
  | true => simp
  | false =>
    simp only [Bool.false_eq_true, if_false, true_and]
    refine Iff.trans (answers_onTypedReply_decode_iff hcb fun _ _ => ⟨rfl, rfl, rfl⟩) ?_
    simp only [herr, true_implies]
    rw [Message.forall_dicts_iff fun args => (decodeCellList heap args).isSome = true]
    refine forall₂_congr fun cells _ => ?_
    rw [dicts_eq]
    exact isSome_collectStructs_iff isSome_decodeCell (fun _ _ _ _ _ _ => rfl) (by decide)

/-! ### Operators -/

/-- The operator can be taken, into whatever block. -/
def readsOperator (_ : OperatorInfo) (fields : Iter) : Bool :=
  fields.getString.any fun _ => fields.next.recurse.any operatorInfoProperties.readsAll

theorem isSome_decodeOperator (op : OperatorInfo) (fields : Iter) :
    (decodeOperator op fields).isSome = readsOperator op fields := by
  unfold decodeOperator fillOperatorList readsOperator
  cases fields.getString with
  | none => rfl
  | some path => cases fields.next.recurse <;> simp

/-- The properties of an operator are looked at only where they are texts. -/
theorem reads_operatorInfoProperties (key : String) (value : Iter) :
    operatorInfoProperties.reads key value = true := by
  simp only [PropertyTable.reads, operatorInfoProperties, List.lookup_cons,
    List.lookup_nil]
  cases key == "Name" <;> cases key == "Status" <;> cases key == "MobileCountryCode" <;>
    cases key == "MobileNetworkCode" <;> cases key == "Technologies" <;> rfl

theorem readsOperator_pathDict (op : OperatorInfo) (p : String × List (String × Value)) :
    readsOperator op (pathDictFields p) = true := by
  have hdict : operatorInfoProperties.readsAll (p.2.map entry) = true := by
    simp [PropertyTable.readsAll, readsDict_entries, reads_operatorInfoProperties]
  simpa [readsOperator, Iter.getString, Iter.next, Iter.recurse, dict] using hdict

theorem answers_operatorScanComplete_iff (hcb : handler.cbFunction ≠ null) :
    Answers message handler.result (operatorScanComplete handler message heap) ↔
      message.isError = false := by
  unfold operatorScanComplete
  cases herr : message.isError with
  | true => simp
  | false =>
    simp only [Bool.false_eq_true, if_false, iff_true]
    refine Iff.mpr (answers_onTypedReply_decode_iff hcb fun _ _ => ⟨rfl, rfl, rfl⟩) ?_
    intro _
    -- whatever the properties are and the block holds, each operator can be taken
    rw [Message.forall_pathDicts_iff fun args => (decodeOperatorList heap args).isSome = true]
    intro operators _
    rw [pathDicts_eq]
    refine (isSome_collectStructs_iff isSome_decodeOperator (fun _ _ _ _ _ _ => rfl)
      (by decide)).mpr ?_
    intro k fields op hfields _ _
    simp only [List.getElem?_map, Option.map_eq_some_iff] at hfields
    obtain ⟨p, -, rfl⟩ := hfields
    exact readsOperator_pathDict op p

/-! ### Registration -/

/-- The state of a registration is what its last `Status` says, if it has one, and otherwise
what the block has held before. -/
def registrationStateOf (list : Iter) (state : RegistrationState) : RegistrationState :=
  PropertyTable.lastOf "Status" (fun value => value.getString.map registrationStatusFromString)
    list state

theorem regState_fillRegistrationInfo {list : Iter} {info info' : RegistrationInfo}
    (h : fillRegistrationInfo heap list info = some info') :
    info'.regState = registrationStateOf list info.regState := by
  refine PropertyTable.readAll_lastOf _ RegistrationInfo.regState ?_ ?_ h
  · intro value x x' hfill
    simp only [PropertyTable.fill, registrationInfoProperties, List.lookup_cons, BEq.rfl,
      Property.text, Option.map_eq_some_iff] at hfill
    obtain ⟨s, hs, rfl⟩ := hfill
    simp [hs]
  · intro key value x x' hkey hfill
    obtain ⟨p, hp, hread⟩ | ⟨-, rfl⟩ := PropertyTable.fill_cases _ hfill
    · simp only [registrationInfoProperties, List.mem_cons, Prod.mk.injEq, List.not_mem_nil,
        or_false, hkey, false_and, false_or] at hp
      -- every other property sets a field of its own
      rcases hp with ⟨-, rfl⟩ | ⟨-, rfl⟩ | ⟨-, rfl⟩ | ⟨-, rfl⟩ | ⟨-, rfl⟩ | ⟨-, rfl⟩ |
        ⟨-, rfl⟩ | ⟨-, rfl⟩ | ⟨-, rfl⟩ | ⟨-, rfl⟩
      all_goals
        obtain ⟨_, _, rfl⟩ := Option.map_eq_some_iff.mp hread
        rfl
    · rfl

theorem isSome_setRoamingType (info : RegistrationInfo) :
    (setRoamingType heap .context info).isSome = true ↔
      (info.regState = .roaming → heap.simOperator.isSome = true) := by
  unfold setRoamingType
  by_cases hroaming : info.regState = .roaming
  · simp [hroaming]
  · simp [hroaming]

theorem isSome_decodeRegistration_iff (block : RegistrationInfo) (ps : List (String × Value)) :
    (decodeRegistration heap .context block [dict ps]).isSome = true ↔
      (registrationInfoProperties heap).readsAll (ps.map entry) = true ∧
        (registrationStateOf (ps.map entry) block.regState = .roaming →
          heap.simOperator.isSome = true) := by
  rw [← PropertyTable.isSome_readAll _ _
    { block with operatorName := "", mcc := "", mnc := "", station := "" }]
  simp only [decodeRegistration, dict, Iter.recurse, Option.bind_some]
  cases hfill : fillRegistrationInfo heap (ps.map entry)
      { block with operatorName := "", mcc := "", mnc := "", station := "" } with
  | none =>
    unfold fillRegistrationInfo at hfill
    simp [hfill]
  -- the state that decides about the roaming type is the one just read
  | some info =>
    have hstate := regState_fillRegistrationInfo hfill
    unfold fillRegistrationInfo at hfill
    simp only [Option.bind_some, isSome_setRoamingType, hfill, hstate, Option.isSome_some,
      true_and]

/-- A registration that `registration_info_query_done` can take: its properties are of the types
that they are read as, and abroad the operator of the SIM card can be read. -/
def ReadableRegistration (heap : Heap) (block : RegistrationInfo) (message : Message) : Prop :=
  ∀ ps, message.args = [dict ps] →
    (registrationInfoProperties heap).readsAll (ps.map entry) = true ∧
      (registrationStateOf (ps.map entry) block.regState = .roaming →
        heap.simOperator.isSome = true)

/-- There is a block for the registration, and it can be filled from a method return. -/
theorem answers_registrationInfoQueryDone_iff (hcb : handler.cbFunction ≠ null)
    (hdata : handler.result.data = .context) :
    Answers message handler.result (registrationInfoQueryDone handler message heap) ↔
      ∃ block, heap.registrationInfo = some block ∧
        (message.isError = false → ReadableRegistration heap block message) := by
  unfold registrationInfoQueryDone
  cases heap.registrationInfo with
  | none => simp
  | some block =>
    simp only [Option.some.injEq, exists_eq_left']
    refine Iff.trans (answers_onTypedReply_iff hcb) (forall_congr' fun hreply => ?_)
    -- the record holds the context, from which the SIM operator is asked
    have hdeliver : Answers message handler.result
        ((decodeRegistration heap handler.result.data block message.args).map fun info =>
          deliver { handler.result with status := ok, data := .registrationInfo info }) ↔
        (decodeRegistration heap .context block message.args).isSome = true := by
      rw [hdata]
      refine answers_map_deliver_iff ?_ hreply
      intro info
      exact ⟨rfl, rfl, rfl⟩
    simp only [hdeliver]
    rw [Message.forall_dict_iff fun args =>
      (decodeRegistration heap .context block args).isSome = true]
    exact forall₂_congr fun ps _ => isSome_decodeRegistration_iff block ps

end Telephony.Network
