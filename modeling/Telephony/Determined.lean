import Telephony.Data.Signal
import Telephony.Network.Signal
import Telephony.Sms.Reply
import Telephony.Ss.Reply

/-!
# What a delivered structure depends on

Nine functions of the library fill a structure in a block that `malloc` has returned, and set its
fields by hand. A field that no property of the message sets is delivered as the block was found.

Two runs show such a field: the same message, and two heaps that grant the same blocks but hold
something else in them.

## Main definitions

* `Telephony.Heap.SameGrants` — two heaps that differ only in what their blocks hold
* `Telephony.StructureDecoder` — the functions that fill structures
* `Telephony.StructureDecoder.Determined` — what is delivered does not depend on the blocks
* `Telephony.StructureDecoder.SetsAll` — the message sets every field that is delivered

## Main results

* `Telephony.list_determined_iff` — a list of structures of which no message sets all fields
* `Telephony.StructureDecoder.determined_iff_setsAll` — a structure is determined by its message
  exactly if the message sets all of its fields
-/

namespace Telephony

open DBus DBus.PropertyTable

/-- Two heaps that grant the same blocks, whatever these hold. -/
structure Heap.SameGrants (h h' : Heap) : Prop where
  strdup : h.strdup = h'.strdup
  simOperator : h.simOperator = h'.simOperator
  messageInfo : h.messageInfo.isSome = h'.messageInfo.isSome
  cbsMessage : h.cbsMessage = h'.cbsMessage
  networkTime : h.networkTime.isSome = h'.networkTime.isSome
  signalStrength : h.signalStrength.isSome = h'.signalStrength.isSome
  registrationInfo : h.registrationInfo.isSome = h'.registrationInfo.isSome
  operatorInfo : ∀ i, (h.operatorInfo i).isSome = (h'.operatorInfo i).isSome
  cellIdentity : ∀ i, (h.cellIdentity i).isSome = (h'.cellIdentity i).isSome
  dataContext : ∀ i, (h.dataContext i).isSome = (h'.dataContext i).isSome
  ipSettings : ∀ i, (h.ipSettings i).isSome = (h'.ipSettings i).isSome
  ipv4Settings : ∀ i, (h.ipv4Settings i).isSome = (h'.ipv4Settings i).isSome
  ipv6Settings : ∀ i, (h.ipv6Settings i).isSome = (h'.ipv6Settings i).isSome
  modemActivityInfo : h.modemActivityInfo.isSome = h'.modemActivityInfo.isSome
  callForwardInfo : h.callForwardInfo.isSome = h'.callForwardInfo.isSome
  ssInitiateInfo : h.ssInitiateInfo.isSome = h'.ssInitiateInfo.isSome
  callBarringInfo : h.callBarringInfo = h'.callBarringInfo

/-! ## Structures that are shown -/

/-- The application is called back with status OK. -/
def Handling.Shown (h : Handling) : Prop := h.called = true ∧ h.result.status = ok

section Shown

variable {handler : AsyncHandler Payload} {message : Message} {r : Handling}
  {body : Iter → AsyncResult Payload → Option Handling}

theorem not_shown_fail {ar : AsyncResult Payload} : ¬ (fail ar).Shown := by
  rintro ⟨-, h⟩
  exact absurd h (show error ≠ ok by decide)

theorem not_shown_ignore {ar : AsyncResult Payload} : ¬ (ignore ar).Shown := by
  rintro ⟨h, -⟩
  exact absurd h (show (false = true) → False from Bool.noConfusion)

/-- A check whose failure shows nothing has been passed. -/
theorem ite_of_shown {p : Prop} [Decidable p] {h : Handling} {o : Option Handling}
    (hrun : (if p then some h else o) = some r) (hr : r.Shown) (hh : ¬ h.Shown) : ¬ p := by
  intro hp
  rw [if_pos hp] at hrun
  exact hh (Option.some_inj.mp hrun ▸ hr)

theorem withCallback_of_shown {body : AsyncResult Payload → Option Handling}
    (hrun : withCallback handler body = some r) (hr : r.Shown) : handler.cbFunction ≠ null :=
  ite_of_shown hrun hr not_shown_ignore

/-- Behind the checks of a reply function that shows something stands its body, and the same
checks let any other body pass. -/
theorem onTypedReply_of_shown {sig : List Ty}
    (hrun : onTypedReply handler message sig body = some r) (hr : r.Shown)
    (body' : Iter → AsyncResult Payload → Option Handling) :
    onTypedReply handler message sig body' = body' message.args handler.result := by
  have hcb := withCallback_of_shown hrun hr
  rw [onTypedReply, withCallback_of_ne hcb] at hrun ⊢
  have herr := ite_of_shown hrun hr not_shown_fail
  rw [if_neg herr] at hrun ⊢
  have hsig := ite_of_shown hrun hr not_shown_fail
  rw [if_neg hsig] at hrun ⊢
  rw [if_neg (ite_of_shown hrun hr not_shown_fail)]

theorem onReply_of_shown (hrun : onReply handler message body = some r) (hr : r.Shown)
    (body' : Iter → AsyncResult Payload → Option Handling) :
    onReply handler message body' = body' message.args handler.result := by
  have hcb := withCallback_of_shown hrun hr
  rw [onReply, withCallback_of_ne hcb] at hrun ⊢
  have herr := ite_of_shown hrun hr not_shown_fail
  rw [if_neg herr] at hrun ⊢
  rw [if_neg (ite_of_shown hrun hr not_shown_fail)]

theorem onSignal_of_shown (hrun : onSignal handler message body = some r) (hr : r.Shown)
    (body' : Iter → AsyncResult Payload → Option Handling) :
    onSignal handler message body' = body' message.args handler.result := by
  have hcb := withCallback_of_shown hrun hr
  rw [onSignal, withCallback_of_ne hcb] at hrun ⊢
  rw [if_neg (ite_of_shown hrun hr not_shown_ignore)]

end Shown

/-! ## Lists of structures -/

section Lists

variable {α β : Type} {fill : β → Iter → Option α} {max : ℕ} {args : Iter}

/-- The loop over a list fills no structure: there is none, or no block for the first. -/
def Unfilled (alloc : ℕ → Option β) (args : Iter) : Prop :=
  ∀ fields rest, args.recurse = some (.struct fields :: rest) → alloc 0 = none

/-- The loop over the structures of a list, all of which are kept. -/
def collectAll (alloc : ℕ → Option β) (fill : β → Iter → Option α) (max : ℕ) (args : Iter) :
    Option (List α) :=
  args.recurse.bind fun list => collectStructs alloc fill (fun _ => true) max 0 0 list

theorem collectAll_of_unfilled {alloc : ℕ → Option β} {list : Iter}
    (hlist : args.recurse = some list) (h : Unfilled alloc args) :
    collectAll alloc fill max args = some [] := by
  rw [collectAll, hlist, Option.bind_some]
  unfold collectStructs
  split
  · rename_i fields rest
    rw [h fields rest hlist]
  · rfl

/-- The first structure of what the loop delivers lies in the first block. -/
theorem head_of_collectAll {alloc : ℕ → Option β} {block : β} {fields rest : Iter} {l : List α}
    (hlist : args.recurse = some (.struct fields :: rest)) (hblock : alloc 0 = some block)
    (h : collectAll alloc fill max args = some l) :
    ∃ a, l.head? = some a ∧ fill block fields = some a := by
  simp only [collectAll, hlist, Option.bind_some, collectStructs, hblock, if_true,
    Option.bind_eq_some_iff] at h
  obtain ⟨a, hfill, hl⟩ := h
  refine ⟨a, ?_, hfill⟩
  split at hl
  · rw [← Option.some_inj.mp hl]
    rfl
  · obtain ⟨l', -, rfl⟩ := Option.map_eq_some_iff.mp hl
    rfl

/-- Structures with a field that the loop never sets are determined by the message exactly if
none is filled. -/
theorem list_determined_iff {γ : Type} {alloc : Heap → ℕ → Option β} {heap : Heap} {l : List α}
    (out : α → γ) (inp : β → γ) (dirty : Heap) (dirt : β → β)
    (hgrants : ∀ heap', heap.SameGrants heap' → (alloc heap 0).isSome = (alloc heap' 0).isSome)
    (hfill : ∀ block fields a, fill block fields = some a → out a = inp block)
    (hdirty : heap.SameGrants dirty) (halloc : alloc dirty 0 = (alloc heap 0).map dirt)
    (hdirt : ∀ block, inp (dirt block) ≠ inp block)
    (h : collectAll (alloc heap) fill max args = some l) :
    (∀ heap', heap.SameGrants heap' → collectAll (alloc heap') fill max args = some l) ↔
      Unfilled (alloc heap) args := by
  constructor
  · intro hall fields rest hlist
    cases hblock : alloc heap 0 with
    | none => rfl
    | some block =>
      rw [hblock, Option.map_some] at halloc
      -- the first structure shows what its block held, clean and dirty
      obtain ⟨a, ha, hfirst⟩ := head_of_collectAll hlist hblock h
      obtain ⟨a', ha', hsecond⟩ := head_of_collectAll hlist halloc (hall dirty hdirty)
      obtain rfl : a = a' := Option.some_inj.mp (ha.symm.trans ha')
      exact absurd ((hfill _ _ _ hsecond).symm.trans (hfill _ _ _ hfirst)) (hdirt block)
  · intro hun heap' hsame
    -- nothing is filled, so that the blocks are never read
    obtain ⟨list, hlist, -⟩ := Option.bind_eq_some_iff.mp h
    rw [collectAll_of_unfilled hlist hun] at h
    rw [← h]
    apply collectAll_of_unfilled hlist
    intro fields rest hcons
    have hnone := hgrants heap' hsame
    rw [hun fields rest hcons, Option.isSome_none] at hnone
    simpa using hnone.symm

end Lists

/-! ## The decoders -/

/-- The functions that fill a structure, or a list of them, in blocks from `malloc`. -/
inductive StructureDecoder
  | cellinfoListChanged | cellListRequestComplete | operatorScanComplete | apnListLoaded
  | registrationInfoQueryDone | callForwardingQueryComplete | signalStrengthChanged
  | dataConnectionChanged | unsolSmsMessage
  deriving DecidableEq, Repr

namespace StructureDecoder

/-- The function, applied to a handler and a message. -/
def run (d : StructureDecoder) (heap : Heap) (handler : AsyncHandler Payload)
    (message : Message) : Option Handling :=
  match d with
  | .cellinfoListChanged => Network.cellinfoListChanged handler message heap
  | .cellListRequestComplete => Network.cellListRequestComplete handler message heap
  | .operatorScanComplete => Network.operatorScanComplete handler message heap
  | .apnListLoaded => Data.apnListLoaded handler message heap
  | .registrationInfoQueryDone => Network.registrationInfoQueryDone handler message heap
  | .callForwardingQueryComplete => Ss.callForwardingQueryComplete handler message heap
  | .signalStrengthChanged => Network.signalStrengthChanged handler message heap
  | .dataConnectionChanged => Data.dataConnectionChanged handler message heap
  | .unsolSmsMessage => Sms.unsolSmsMessage handler message heap

/-- Whatever the blocks hold, the function leaves the record as it does on this heap. -/
def Determined (d : StructureDecoder) (heap : Heap) (handler : AsyncHandler Payload)
    (message : Message) : Prop :=
  ∀ heap', heap.SameGrants heap' → d.run heap' handler message = d.run heap handler message

/-- The properties of a signal strength. -/
def strengthKeys : List String := Network.signalStrengthProperties.map Prod.fst

/-- The properties of a message. -/
def messageKeys : List String := ["LocalSentTime", "SentTime", "Sender"]

/-- The properties of a message are texts. The values of other functions are read as what they
are, or the run is undefined. -/
def WellFormed (d : StructureDecoder) (message : Message) : Prop :=
  match d with
  | .unsolSmsMessage => ∀ list, message.args.next.recurse = some list →
    readsDict (fun key value => decide (key ∈ messageKeys → value.isText = true)) list = true
  | _ => True

/-- The message sets every field of what is delivered. For a list that is so if it shows no
structure; three functions deliver a structure with a field that no property sets. -/
def SetsAll (d : StructureDecoder) (heap : Heap) (message : Message) : Prop :=
  match d with
  | .cellinfoListChanged => Unfilled heap.cellIdentity message.args.next
  | .cellListRequestComplete => Unfilled heap.cellIdentity message.args
  | .operatorScanComplete => Unfilled heap.operatorInfo message.args
  | .apnListLoaded => Unfilled (Data.apnBlocks heap) message.args
  | .registrationInfoQueryDone | .callForwardingQueryComplete | .dataConnectionChanged => False
  | .signalStrengthChanged => ∀ list, message.args.next.recurse.bind Iter.recurse = some list →
    ∀ key ∈ strengthKeys, (lastValue key Iter.getInt list).isSome = true
  | .unsolSmsMessage => Sms.hasDictionary message →
    ∀ list, message.args.next.recurse = some list →
    ∀ key ∈ messageKeys, (lastValue key Iter.getString list).isSome = true

end StructureDecoder

/-! ## Fields that no property sets -/

section Untouched

theorem bandwidth_decodeCell (block : CellIdentity) (fields : Iter) (cell : CellIdentity)
    (h : Network.decodeCell block fields = some cell) : cell.bandwidth = block.bandwidth := by
  obtain ⟨dict, -, hfill⟩ := Option.bind_eq_some_iff.mp h
  refine (readAll_preserves _ CellIdentity.bandwidth ?_ hfill).trans rfl
  intro p hp value x x' hread
  simp only [Network.cellIdentityProperties, List.mem_cons, List.not_mem_nil, or_false] at hp
  rcases hp with rfl | rfl | rfl | rfl | rfl | rfl | rfl | rfl | rfl | rfl | rfl | rfl | rfl | rfl
  all_goals
    obtain ⟨_, _, rfl⟩ := Option.map_eq_some_iff.mp hread
    rfl

theorem extra_decodeOperator (block : OperatorInfo) (fields : Iter) (op : OperatorInfo)
    (h : Network.decodeOperator block fields = some op) : op.extra = block.extra := by
  obtain ⟨path, -, hrest⟩ := Option.bind_eq_some_iff.mp h
  obtain ⟨dict, -, hfill⟩ := Option.bind_eq_some_iff.mp hrest
  refine (readAll_preserves _ OperatorInfo.extra ?_ hfill).trans rfl
  intro p hp value x x' hread
  simp only [Network.operatorInfoProperties, List.mem_cons, List.not_mem_nil, or_false] at hp
  rcases hp with rfl | rfl | rfl | rfl | rfl
  all_goals
    simp only [Property.optionalText] at hread
    split at hread
    all_goals
      obtain rfl := Option.some_inj.mp hread
      rfl

theorem preferred_properties (blocks : Data.ContextBlocks) :
    ∀ p ∈ Data.dataContextProperties ++ Data.settingsProperties blocks, ∀ value x x',
      p.2.read value x = some x' → x'.preferred = x.preferred := by
  intro p hp value x x' hread
  simp only [Data.dataContextProperties, Data.settingsProperties, List.mem_append, List.mem_cons,
    List.not_mem_nil, or_false] at hp
  rcases hp with (rfl | rfl | rfl | rfl | rfl | rfl | rfl | rfl | rfl | rfl) | rfl | rfl
  all_goals
    obtain ⟨_, _, rfl⟩ := Option.map_eq_some_iff.mp hread
    rfl

theorem preferred_decodeContext (blocks : Data.ContextBlocks) (fields : Iter) (dc : DataContext)
    (h : Data.decodeContext blocks fields = some dc) :
    dc.preferred = blocks.context.preferred := by
  obtain ⟨id, -, hrest⟩ := Option.bind_eq_some_iff.mp h
  obtain ⟨dict, -, hfill⟩ := Option.bind_eq_some_iff.mp hrest
  refine (readAll_preserves _ DataContext.preferred ?_ hfill).trans rfl
  intro p hp
  apply preferred_properties blocks
  unfold Data.contextProperties at hp
  split at hp
  · exact hp
  · exact List.mem_append_left _ hp

theorem preferred_connection {blocks : Data.ContextBlocks} {list : Iter} {dc dc' : DataContext}
    (h : (Data.connectionProperties blocks).readAll list dc = some dc') :
    dc'.preferred = dc.preferred := by
  refine readAll_preserves _ DataContext.preferred ?_ h
  intro p hp value x x' hread
  rcases List.mem_append.mp hp with hp | hp
  · simp only [List.mem_cons, List.not_mem_nil, or_false] at hp
    rcases hp with rfl | rfl | rfl
    all_goals
      obtain ⟨_, _, rfl⟩ := Option.map_eq_some_iff.mp hread
      rfl
  · exact preferred_properties blocks p (List.mem_append_right _ hp) value x x' hread

theorem emergencyOnly_decodeRegistration {heap : Heap} {data : Payload}
    {block info : RegistrationInfo} {args : Iter}
    (h : Network.decodeRegistration heap data block args = some info) :
    info.emergencyOnly = block.emergencyOnly := by
  obtain ⟨list, -, hrest⟩ := Option.bind_eq_some_iff.mp h
  obtain ⟨info', hfill, hroaming⟩ := Option.bind_eq_some_iff.mp hrest
  have hfilled : info'.emergencyOnly = block.emergencyOnly := by
    refine (readAll_preserves _ RegistrationInfo.emergencyOnly ?_ hfill).trans rfl
    intro p hp value x x' hread
    simp only [Network.registrationInfoProperties, List.mem_cons, List.not_mem_nil,
      or_false] at hp
    rcases hp with rfl | rfl | rfl | rfl | rfl | rfl | rfl | rfl | rfl | rfl | rfl
    all_goals
      obtain ⟨_, _, rfl⟩ := Option.map_eq_some_iff.mp hread
      rfl
  rw [← hfilled]
  -- the roaming type is set after the properties, and it is another field
  unfold Network.setRoamingType at hroaming
  split at hroaming
  · obtain rfl := Option.some_inj.mp hroaming
    rfl
  · cases data with
    | null =>
      obtain rfl := Option.some_inj.mp hroaming
      rfl
    | context =>
      obtain ⟨_, _, rfl⟩ := Option.map_eq_some_iff.mp hroaming
      rfl
    | _ => contradiction

theorem numberType_cfCondition {list : Iter} {cf cf' : CallForwardInfo}
    (h : Ss.cfConditionProperties.readAll list cf = some cf') :
    cf'.numberType = cf.numberType := by
  refine readAll_preserves _ CallForwardInfo.numberType ?_ h
  intro p hp value x x' hread
  simp only [Ss.cfConditionProperties, List.mem_cons, List.not_mem_nil, or_false] at hp
  rcases hp with rfl | rfl | rfl | rfl
  all_goals
    obtain ⟨_, _, rfl⟩ := Option.map_eq_some_iff.mp hread
    rfl

end Untouched

/-! ## Lists -/

theorem Heap.SameGrants.refl (heap : Heap) : heap.SameGrants heap := by
  constructor <;> first | rfl | exact fun _ => rfl

namespace StructureDecoder

variable {d : StructureDecoder} {heap : Heap} {handler : AsyncHandler Payload}
  {message : Message} {r : Handling}

theorem determined_iff_unfilled {α β γ : Type} (alloc : Heap → ℕ → Option β)
    {fill : β → Iter → Option α} {max : ℕ} {args : Iter} {f : List α → Handling}
    (out : α → γ) (inp : β → γ) (dirty : Heap) (dirt : β → β)
    (hrun : ∀ heap', d.run heap' handler message =
      (collectAll (alloc heap') fill max args).map f)
    (hf : Function.Injective f) (hr : d.run heap handler message = some r)
    (hgrants : ∀ heap', heap.SameGrants heap' → (alloc heap 0).isSome = (alloc heap' 0).isSome)
    (hfill : ∀ block fields a, fill block fields = some a → out a = inp block)
    (hdirty : heap.SameGrants dirty) (halloc : alloc dirty 0 = (alloc heap 0).map dirt)
    (hdirt : ∀ block, inp (dirt block) ≠ inp block) :
    d.Determined heap handler message ↔ Unfilled (alloc heap) args := by
  rw [hrun] at hr
  obtain ⟨l, hl, -⟩ := Option.map_eq_some_iff.mp hr
  -- the message determines what is shown exactly if it determines the list
  rw [← list_determined_iff out inp dirty dirt hgrants hfill hdirty halloc hdirt hl]
  refine forall₂_congr fun heap' _ => ?_
  rw [hrun, hrun, hl]
  exact (Option.map_injective hf).eq_iff

/-- The cells are determined exactly if there are none, whichever function delivers them. -/
theorem cells_determined_iff {args : Iter}
    (hrun : ∀ heap', d.run heap' handler message = (Network.decodeCellList heap' args).map
      fun cells => deliver { handler.result with
        status := ok, arg2 := cells.length, data := .cellList cells })
    (hr : d.run heap handler message = some r) :
    d.Determined heap handler message ↔ Unfilled heap.cellIdentity args := by
  -- the bandwidth is the field that the loop never sets
  let dirt (cell : CellIdentity) : CellIdentity := { cell with bandwidth := cell.bandwidth + 1 }
  refine determined_iff_unfilled Heap.cellIdentity CellIdentity.bandwidth
    CellIdentity.bandwidth { heap with cellIdentity := fun i => (heap.cellIdentity i).map dirt }
    dirt hrun ?_ hr ?_ bandwidth_decodeCell ?_ rfl ?_
  · intro cells cells' h
    exact Payload.cellList.inj (congrArg (·.result.data) h)
  · exact fun heap' hsame => hsame.cellIdentity 0
  · exact { Heap.SameGrants.refl heap with cellIdentity := fun i => Option.isSome_map.symm }
  · intro cell
    dsimp only [dirt]
    omega

theorem cellListRequestComplete_iff
    (hrun : run .cellListRequestComplete heap handler message = some r) (hr : r.Shown) :
    Determined .cellListRequestComplete heap handler message ↔
      Unfilled heap.cellIdentity message.args := by
  refine cells_determined_iff (fun heap' => ?_) hrun
  simp only [run, Network.cellListRequestComplete] at hrun ⊢
  have hreply := ite_of_shown hrun hr not_shown_ignore
  rw [if_neg hreply] at hrun ⊢
  exact onTypedReply_of_shown hrun hr _

theorem cellinfoListChanged_iff
    (hrun : run .cellinfoListChanged heap handler message = some r) (hr : r.Shown) :
    Determined .cellinfoListChanged heap handler message ↔
      Unfilled heap.cellIdentity message.args.next := by
  refine cells_determined_iff (fun heap' => ?_) hrun
  simp only [run, Network.cellinfoListChanged, onlyFor] at hrun ⊢
  have hmsg := ite_of_shown hrun hr not_shown_ignore
  rw [if_neg hmsg] at hrun ⊢
  have hsignal := onSignal_of_shown hrun hr
  rw [hsignal] at hrun ⊢
  obtain ⟨property, hproperty, hrest⟩ := Option.bind_eq_some_iff.mp hrun
  rw [hproperty, Option.bind_some]
  have hname := ite_of_shown hrest hr not_shown_ignore
  rw [if_neg hname] at hrest ⊢
  rw [if_neg (ite_of_shown hrest hr not_shown_ignore)]

theorem operatorScanComplete_iff
    (hrun : run .operatorScanComplete heap handler message = some r) (hr : r.Shown) :
    Determined .operatorScanComplete heap handler message ↔
      Unfilled heap.operatorInfo message.args := by
  -- the checks before the loop do not look at the blocks
  have hpass : ∀ heap', run .operatorScanComplete heap' handler message =
      (Network.decodeOperatorList heap' message.args).map fun operators =>
        deliver { handler.result with
          arg2 := operators.length, data := .operatorList operators, status := ok } := by
    intro heap'
    have hchecks := hrun
    simp only [run, Network.operatorScanComplete] at hchecks ⊢
    have hreply := ite_of_shown hchecks hr not_shown_ignore
    rw [if_neg hreply] at hchecks ⊢
    exact onTypedReply_of_shown hchecks hr _
  -- `extra` is the field that the loop never sets
  let dirt (op : OperatorInfo) : OperatorInfo := { op with extra := op.extra + 1 }
  refine determined_iff_unfilled Heap.operatorInfo OperatorInfo.extra
    OperatorInfo.extra { heap with operatorInfo := fun i => (heap.operatorInfo i).map dirt }
    dirt hpass ?_ hrun ?_ extra_decodeOperator ?_ rfl ?_
  · intro operators operators' h
    exact Payload.operatorList.inj (congrArg (·.result.data) h)
  · exact fun heap' hsame => hsame.operatorInfo 0
  · exact { Heap.SameGrants.refl heap with operatorInfo := fun i => Option.isSome_map.symm }
  · exact fun op => Nat.succ_ne_self op.extra

theorem apnListLoaded_iff
    (hrun : run .apnListLoaded heap handler message = some r) (hr : r.Shown) :
    Determined .apnListLoaded heap handler message ↔
      Unfilled (Data.apnBlocks heap) message.args := by
  have hpass : ∀ heap', run .apnListLoaded heap' handler message =
      (Data.decodeApnList heap' message.args).map fun result => deliver { handler.result with
        status := ok, arg2 := result.length, data := .dataContexts result } := by
    intro heap'
    have hchecks := hrun
    simp only [run, Data.apnListLoaded] at hchecks ⊢
    exact onTypedReply_of_shown hchecks hr _
  -- `preferred` is the field that the loop never sets
  let dirt (dc : DataContext) : DataContext := { dc with preferred := !dc.preferred }
  refine determined_iff_unfilled Data.apnBlocks DataContext.preferred
    (fun blocks : Data.ContextBlocks => blocks.context.preferred)
    { heap with dataContext := fun i => (heap.dataContext i).map dirt }
    (fun blocks => { blocks with context := dirt blocks.context }) hpass ?_ hrun ?_
    preferred_decodeContext ?_ ?_ ?_
  · intro contexts contexts' h
    exact Payload.dataContexts.inj (congrArg (·.result.data) h)
  · intro heap' hsame
    simpa [Data.apnBlocks] using hsame.dataContext 0
  · exact { Heap.SameGrants.refl heap with dataContext := fun i => Option.isSome_map.symm }
  · cases h : heap.dataContext 0 <;> simp [Data.apnBlocks, h, dirt]
  · intro blocks
    simp [dirt]

/-! ## Single structures -/

/-- A structure with a field that no property sets shows what its block has held. -/
theorem not_determined_of_kept {α β γ : Type} {f : α → Handling} {block block' : β}
    (decode : Heap → β → Option α) (dirty : Heap) (out : α → γ) (inp : β → γ)
    (hdirty : heap.SameGrants dirty)
    (hfirst : d.run heap handler message = (decode heap block).map f)
    (hsecond : d.run dirty handler message = (decode dirty block').map f)
    (hf : Function.Injective f)
    (hkept : ∀ heap' block a, decode heap' block = some a → out a = inp block)
    (hne : inp block' ≠ inp block) (hrun : d.run heap handler message = some r) :
    ¬ d.Determined heap handler message := by
  intro hdet
  have hsame := hdet dirty hdirty
  rw [hrun] at hfirst
  rw [hsecond, hrun] at hsame
  obtain ⟨a, ha, hshown⟩ := Option.map_eq_some_iff.mp hfirst.symm
  obtain ⟨a', ha', hshown'⟩ := Option.map_eq_some_iff.mp hsame
  obtain rfl : a' = a := hf (hshown'.trans hshown.symm)
  -- the field would be what both blocks held
  exact hne ((hkept _ _ _ ha').symm.trans (hkept _ _ _ ha))

theorem not_determined_registrationInfoQueryDone
    (hrun : run .registrationInfoQueryDone heap handler message = some r) (hr : r.Shown) :
    ¬ Determined .registrationInfoQueryDone heap handler message := by
  cases hblock : heap.registrationInfo with
  | none =>
    simp only [run, Network.registrationInfoQueryDone, hblock] at hrun
    exact absurd (Option.some_inj.mp hrun ▸ hr) not_shown_ignore
  | some block =>
    have hpass : ∀ heap' block', heap'.registrationInfo = some block' →
        run .registrationInfoQueryDone heap' handler message =
          (Network.decodeRegistration heap' handler.result.data block' message.args).map
            fun info => deliver { handler.result with
              status := ok, data := .registrationInfo info } := by
      intro heap' block' hblock'
      have hchecks := hrun
      simp only [run, Network.registrationInfoQueryDone, hblock, hblock'] at hchecks ⊢
      exact onTypedReply_of_shown hchecks hr _
    -- no property sets `emergency_only`
    refine not_determined_of_kept
      (fun heap' block => Network.decodeRegistration heap' handler.result.data block message.args)
      { heap with registrationInfo := some { block with emergencyOnly := !block.emergencyOnly } }
      RegistrationInfo.emergencyOnly RegistrationInfo.emergencyOnly ?_ (hpass heap block hblock)
      (hpass _ _ rfl) ?_ ?_ ?_ hrun
    · exact { Heap.SameGrants.refl heap with registrationInfo := by rw [hblock]; rfl }
    · intro info info' h
      exact Payload.registrationInfo.inj (congrArg (·.result.data) h)
    · exact fun _ _ _ => emergencyOnly_decodeRegistration
    · simp

theorem not_determined_callForwardingQueryComplete
    (hrun : run .callForwardingQueryComplete heap handler message = some r) (hr : r.Shown) :
    ¬ Determined .callForwardingQueryComplete heap handler message := by
  cases hblock : heap.callForwardInfo with
  | none =>
    simp only [run, Ss.callForwardingQueryComplete, hblock] at hrun
    exact absurd (Option.some_inj.mp hrun ▸ hr) not_shown_ignore
  | some block =>
    have hpass : ∀ heap' block', heap'.callForwardInfo = some block' →
        run .callForwardingQueryComplete heap' handler message =
          (message.args.recurse.bind fun list =>
            Ss.cfConditionProperties.readAll list block').map
              fun cf => deliver { handler.result with
                status := ok, data := .callForwardInfo cf } := by
      intro heap' block' hblock'
      have hchecks := hrun
      simp only [run, Ss.callForwardingQueryComplete, hblock, hblock'] at hchecks ⊢
      exact onReply_of_shown hchecks hr _
    -- no property sets `number_type`
    refine not_determined_of_kept
      (fun _ block =>
        message.args.recurse.bind fun list => Ss.cfConditionProperties.readAll list block)
      { heap with callForwardInfo := some { block with numberType := block.numberType + 1 } }
      CallForwardInfo.numberType CallForwardInfo.numberType ?_ (hpass heap block hblock)
      (hpass _ _ rfl) ?_ ?_ ?_ hrun
    · exact { Heap.SameGrants.refl heap with callForwardInfo := by rw [hblock]; rfl }
    · intro cf cf' h
      exact Payload.callForwardInfo.inj (congrArg (·.result.data) h)
    · intro _ block cf hcf
      obtain ⟨list, -, hfill⟩ := Option.bind_eq_some_iff.mp hcf
      exact numberType_cfCondition hfill
    · dsimp only
      omega

/-- A data connection that is shown has come as a path and a dictionary. -/
theorem dataConnectionChanged_of_shown
    (hrun : run .dataConnectionChanged heap handler message = some r) (hr : r.Shown) :
    ∃ id list blocks, Data.changedBlocks heap = some blocks ∧
      ∀ heap' blocks', Data.changedBlocks heap' = some blocks' →
        run .dataConnectionChanged heap' handler message =
          ((Data.connectionProperties blocks').readAll list
            { blocks'.context with id := .text id }).map fun dc =>
              deliver { handler.result with status := ok, data := .dataContext dc } := by
  simp only [run, Data.dataConnectionChanged] at hrun ⊢
  have hcb := withCallback_of_shown hrun hr
  simp only [withCallback_of_ne hcb] at hrun ⊢
  -- without its blocks nothing is shown
  cases hblocks : Data.changedBlocks heap with
  | none =>
    simp only [hblocks] at hrun
    exact absurd (Option.some_inj.mp hrun ▸ hr) not_shown_ignore
  | some blocks =>
    simp only [hblocks] at hrun
    have hargs := ite_of_shown hrun hr not_shown_fail
    rw [if_neg hargs] at hrun
    obtain ⟨id, hid, hrest⟩ := Option.bind_eq_some_iff.mp hrun
    obtain ⟨list, hlist, -⟩ := Option.bind_eq_some_iff.mp hrest
    refine ⟨id, list, blocks, rfl, fun heap' blocks' hblocks' => ?_⟩
    simp only [hblocks', if_neg hargs, hid, hlist, Option.bind_some]

theorem not_determined_dataConnectionChanged
    (hrun : run .dataConnectionChanged heap handler message = some r) (hr : r.Shown) :
    ¬ Determined .dataConnectionChanged heap handler message := by
  obtain ⟨id, list, blocks, hblocks, hpass⟩ := dataConnectionChanged_of_shown hrun hr
  let dirt (dc : DataContext) : DataContext := { dc with preferred := !dc.preferred }
  let dirty : Heap := { heap with dataContext := fun i => (heap.dataContext i).map dirt }
  have hdirty : Data.changedBlocks dirty =
      some { blocks with context := dirt blocks.context } := by
    obtain ⟨dc, hdc, hrest⟩ := Option.bind_eq_some_iff.mp hblocks
    obtain ⟨ip, hip, rfl⟩ := Option.map_eq_some_iff.mp hrest
    simp [Data.changedBlocks, dirty, hdc, hip, dirt]
  -- no property sets `preferred`
  refine not_determined_of_kept
    (fun _ blocks => (Data.connectionProperties blocks).readAll list
      { blocks.context with id := .text id })
    dirty DataContext.preferred (fun blocks => blocks.context.preferred) ?_
    (hpass heap blocks hblocks) (hpass dirty _ hdirty) ?_ ?_ ?_ hrun
  · exact { Heap.SameGrants.refl heap with dataContext := fun i => Option.isSome_map.symm }
  · intro dc dc' h
    exact Payload.dataContext.inj (congrArg (·.result.data) h)
  · exact fun _ _ _ => preferred_connection
  · simp [dirt]

/-- What is left in the structure of a signal strength. -/
def strengthFrom (list : Iter) (ss : SignalStrength) : SignalStrength where
  rssi := lastOf "ReceivedSignalStrengthIndicator" Iter.getInt list ss.rssi
  rsrp := lastOf "ReferenceSignalReceivedPower" Iter.getInt list ss.rsrp
  rsrq := lastOf "ReferenceSignalReceivedQuality" Iter.getInt list ss.rsrq
  rssnr := lastOf "SingalToNoiseRatio" Iter.getInt list ss.rssnr
  cqi := lastOf "ChannelQualityIndicator" Iter.getInt list ss.cqi
  level := lastOf "Level" Iter.getInt list ss.level

theorem readAll_signalStrengthProperties {list : Iter} {ss ss' : SignalStrength}
    (h : Network.signalStrengthProperties.readAll list ss = some ss') :
    ss' = strengthFrom list ss := by
  refine foldDict_eq ?_ ?_ h
  · intro it ss hstop
    simp only [strengthFrom, lastOf_of_argType_ne hstop]
  · intro k v it x x' key value hkey hvalue hfill
    -- an entry of one of the six properties sets its field, any other sets none
    simp only [strengthFrom, lastOf_entry hkey hvalue]
    obtain ⟨p, hp, hread⟩ | ⟨hother, rfl⟩ := fill_cases _ hfill
    · simp only [Network.signalStrengthProperties, List.mem_cons, Prod.mk.injEq,
        List.not_mem_nil, or_false] at hp
      rcases hp with ⟨rfl, rfl⟩ | ⟨rfl, rfl⟩ | ⟨rfl, rfl⟩ | ⟨rfl, rfl⟩ | ⟨rfl, rfl⟩ | ⟨rfl, rfl⟩
      all_goals
        obtain ⟨n, hn, rfl⟩ := Option.map_eq_some_iff.mp hread
        simp [hn]
    · simp only [Network.signalStrengthProperties, List.forall_mem_cons, List.not_mem_nil] at hother
      simp [hother]

/-- A field stays what it is, whatever it has held, exactly if an entry sets it. -/
theorem lastOf_congr_iff {τ : Type} {key : String} {get : Iter → Option τ} {list : Iter} {t t' : τ}
    (hne : t' ≠ t) :
    lastOf key get list t' = lastOf key get list t ↔ (lastValue key get list).isSome = true := by
  rw [lastOf_eq_getD, lastOf_eq_getD list t]
  cases lastValue key get list with
  | none => simpa using hne
  | some u => simp

theorem lastOf_congr {τ : Type} {key : String} {get : Iter → Option τ} {list : Iter} {t t' : τ}
    (h : (lastValue key get list).isSome = true) :
    lastOf key get list t' = lastOf key get list t := by
  obtain ⟨u, hu⟩ := Option.isSome_iff_exists.mp h
  rw [lastOf_eq_getD, lastOf_eq_getD list t, hu]
  rfl

/-- A signal strength does not depend on its block exactly if all six numbers are sent. -/
theorem strengthFrom_congr_iff {list : Iter} {ss : SignalStrength} :
    (∀ ss', strengthFrom list ss' = strengthFrom list ss) ↔
      ∀ key ∈ strengthKeys, (lastValue key Iter.getInt list).isSome = true := by
  have hne : ∀ n : ℤ, n + 1 ≠ n := fun n => by omega
  simp only [strengthKeys, Network.signalStrengthProperties, List.map_cons, List.map_nil,
    List.forall_mem_cons, List.not_mem_nil, strengthFrom, SignalStrength.mk.injEq]
  constructor
  · intro h
    -- a block with each number raised by one shows the fields that are not sent
    have hraised := h ⟨ss.rssi + 1, ss.rsrp + 1, ss.rsrq + 1, ss.rssnr + 1, ss.cqi + 1,
      ss.level + 1⟩
    simpa only [lastOf_congr_iff (hne _), false_imp_iff, implies_true, and_true] using hraised
  · rintro ⟨h₁, h₂, h₃, h₄, h₅, h₆, -⟩ ss'
    exact ⟨lastOf_congr h₁, lastOf_congr h₂, lastOf_congr h₃, lastOf_congr h₄, lastOf_congr h₅,
      lastOf_congr h₆⟩

/-- A signal strength that is shown has come in the variant behind the name of its property. -/
theorem signalStrengthChanged_of_shown
    (hrun : run .signalStrengthChanged heap handler message = some r) (hr : r.Shown) :
    ∃ list block, message.args.next.recurse.bind Iter.recurse = some list ∧
      heap.signalStrength = some block ∧
      ∀ heap' block', heap'.signalStrength = some block' →
        run .signalStrengthChanged heap' handler message =
          (Network.signalStrengthProperties.readAll list block').map fun ss =>
            deliver { handler.result with status := ok, data := .signalStrength ss } := by
  simp only [run, Network.signalStrengthChanged, onlyFor] at hrun ⊢
  have hmsg := ite_of_shown hrun hr not_shown_ignore
  simp only [if_neg hmsg, onPropertySignal] at hrun ⊢
  have hsignal := onSignal_of_shown hrun hr
  simp only [hsignal] at hrun ⊢
  obtain ⟨property, hproperty, hrest⟩ := Option.bind_eq_some_iff.mp hrun
  obtain ⟨var, hvar, hbody⟩ := Option.bind_eq_some_iff.mp hrest
  simp only [hproperty, hvar, Option.bind_some]
  -- the signal of another property is not for this function
  by_cases hname : property = "SignalStrength"
  · simp only [if_pos hname] at hbody ⊢
    obtain ⟨list, hlist, hblock⟩ := Option.bind_eq_some_iff.mp hbody
    cases hss : heap.signalStrength with
    | none =>
      rw [hss] at hblock
      exact absurd (Option.some_inj.mp hblock ▸ hr) not_shown_ignore
    | some block =>
      refine ⟨list, block, hlist, rfl, fun heap' block' hblock' => ?_⟩
      simp only [hlist, hblock', Option.bind_some]
  · rw [if_neg hname] at hbody
    exact absurd (Option.some_inj.mp hbody ▸ hr) not_shown_ignore

theorem signalStrengthChanged_iff
    (hrun : run .signalStrengthChanged heap handler message = some r) (hr : r.Shown) :
    Determined .signalStrengthChanged heap handler message ↔
      SetsAll .signalStrengthChanged heap message := by
  obtain ⟨list, block, hlist, hblock, hpass⟩ := signalStrengthChanged_of_shown hrun hr
  have hfirst := hpass heap block hblock
  have hreads : Network.signalStrengthProperties.readsAll list = true := by
    rw [hrun] at hfirst
    obtain ⟨ss, hss, -⟩ := Option.map_eq_some_iff.mp hfirst.symm
    rw [← isSome_readAll _ _ block, hss]
    rfl
  -- the entries are of the right types, so that every block can be filled
  have hread : ∀ ss, Network.signalStrengthProperties.readAll list ss =
      some (strengthFrom list ss) := by
    intro ss
    rw [← isSome_readAll _ _ ss] at hreads
    obtain ⟨ss', hss'⟩ := Option.isSome_iff_exists.mp hreads
    rw [hss', readAll_signalStrengthProperties hss']
  have hset : SetsAll .signalStrengthChanged heap message ↔
      ∀ ss, strengthFrom list ss = strengthFrom list block := by
    simp only [SetsAll, hlist, Option.some.injEq, forall_eq', strengthFrom_congr_iff]
  rw [hset]
  constructor
  · intro hdet ss
    -- the block can have held any numbers
    let dirty : Heap := { heap with signalStrength := some ss }
    have hdirty : heap.SameGrants dirty :=
      { Heap.SameGrants.refl heap with signalStrength := by rw [hblock]; rfl }
    have hsecond := hdet dirty hdirty
    rw [hpass dirty ss rfl, hfirst, hread, hread] at hsecond
    exact Payload.signalStrength.inj (congrArg (·.result.data) (Option.some_inj.mp hsecond))
  · intro hall heap' hsame
    have hblock' := hsame.signalStrength
    rw [hblock] at hblock'
    obtain ⟨ss, hss⟩ := Option.isSome_iff_exists.mp hblock'.symm
    rw [hpass heap' ss hss, hfirst, hread, hread, hall ss]

/-- What is left in the structure of a message. -/
def messageFrom (list : Iter) (info : MessageInfo) : MessageInfo where
  text := info.text
  sender := lastOf "Sender" (fun value => some (Sms.basicCString value)) list info.sender
  sentTime := lastOf "SentTime" (fun value => some (Sms.basicCString value)) list info.sentTime
  localSentTime :=
    lastOf "LocalSentTime" (fun value => some (Sms.basicCString value)) list info.localSentTime
  smsType := info.smsType

theorem foldDict_fillMessageInfo {list : Iter} {info info' : MessageInfo}
    (h : foldDict Sms.fillMessageInfo list info = some info') : info' = messageFrom list info := by
  refine foldDict_eq ?_ ?_ h
  · intro it info hstop
    simp only [messageFrom, lastOf_of_argType_ne hstop]
  · intro k v it x x' key value hkey hvalue hfill
    simp only [messageFrom, lastOf_entry hkey hvalue, Option.getD_some]
    unfold Sms.fillMessageInfo at hfill
    split at hfill
    · contradiction
    -- at most one of the three keys is the one of the entry
    by_cases hlocal : key = "LocalSentTime"
    · obtain rfl := Option.some_inj.mp ((if_pos hlocal).symm.trans hfill)
      simp [hlocal]
    rw [if_neg hlocal] at hfill
    by_cases hsent : key = "SentTime"
    · obtain rfl := Option.some_inj.mp ((if_pos hsent).symm.trans hfill)
      simp [hsent]
    rw [if_neg hsent] at hfill
    by_cases hsender : key = "Sender"
    · obtain rfl := Option.some_inj.mp ((if_pos hsender).symm.trans hfill)
      simp [hsender]
    rw [if_neg hsender] at hfill
    obtain rfl := Option.some_inj.mp hfill
    simp [hlocal, hsent, hsender]

/-- A message does not depend on its block exactly if its sender and both of its times are
sent. -/
theorem messageFrom_congr_iff (info : MessageInfo) {list : Iter}
    (hwf : readsDict (fun key value => decide (key ∈ messageKeys → value.isText = true)) list =
      true) :
    (∀ info' : MessageInfo, info'.text = info.text → info'.smsType = info.smsType →
        messageFrom list info' = messageFrom list info) ↔
      ∀ key ∈ messageKeys, (lastValue key Iter.getString list).isSome = true := by
  -- the entries of the three keys are texts, so that reading them unchecked is the same
  have hisSome : ∀ key ∈ messageKeys, (lastValue key Iter.getString list).isSome =
      (lastValue key (fun value => some (Sms.basicCString value)) list).isSome := by
    intro key hkey
    apply isSome_lastValue_eq
    refine readsDict_mono (fun key' value hvalue => ?_) hwf
    rw [decide_eq_true_eq] at hvalue ⊢
    rintro rfl
    exact hvalue hkey
  have hother : ∀ c : CString, (if c = .null then CString.wild else .null) ≠ c := by
    intro c
    split
    · rename_i hnull
      simp [hnull]
    · rename_i hnull
      exact fun h => hnull h.symm
  have hkeys : (∀ key ∈ messageKeys, (lastValue key Iter.getString list).isSome = true) ↔
      ∀ key ∈ messageKeys,
        (lastValue key (fun value => some (Sms.basicCString value)) list).isSome = true :=
    forall₂_congr fun key hkey => by rw [hisSome key hkey]
  rw [hkeys]
  simp only [messageKeys, List.forall_mem_cons, List.not_mem_nil, messageFrom,
    MessageInfo.mk.injEq]
  constructor
  · intro h
    -- a block with other texts shows the fields that are not sent
    have hdirty := h ⟨info.text, if info.sender = .null then .wild else .null,
      if info.sentTime = .null then .wild else .null,
      if info.localSentTime = .null then .wild else .null, info.smsType⟩ rfl rfl
    simp only [lastOf_congr_iff (hother _)] at hdirty
    exact ⟨hdirty.2.2.2.1, hdirty.2.2.1, hdirty.2.1, nofun⟩
  · rintro ⟨hlocal, hsent, hsender, -⟩ info' htext htype
    exact ⟨htext, lastOf_congr hsender, lastOf_congr hsent, lastOf_congr hlocal, htype⟩

/-- A message that is shown starts with a text. -/
theorem unsolSmsMessage_of_shown
    (hrun : run .unsolSmsMessage heap handler message = some r) (hr : r.Shown) :
    ∃ text args, message.args = .string text :: args ∧ ∀ heap',
      run .unsolSmsMessage heap' handler message =
        if Sms.hasDictionary message then
          Sms.decodeMessage heap' message text args handler.result
        else some (deliver handler.result) := by
  simp only [run, Sms.unsolSmsMessage] at hrun ⊢
  have hcb := withCallback_of_shown hrun hr
  simp only [withCallback_of_ne hcb] at hrun ⊢
  have hsignal := ite_of_shown hrun hr not_shown_ignore
  simp only [if_neg hsignal] at hrun ⊢
  have hsender := ite_of_shown hrun hr not_shown_fail
  simp only [if_neg hsender] at hrun ⊢
  -- a signal that does not start with a text fails
  by_cases htext : ∃ text args, message.args = .string text :: args
  · obtain ⟨text, args, hargs⟩ := htext
    exact ⟨text, args, hargs, fun heap' => by rw [hargs]⟩
  · have hfail : Sms.unsolSmsMessage handler message heap = some (fail handler.result) :=
      Sms.unsolSmsMessage_of_args_ne hcb (not_not.mp hsignal) hsender
        fun text args hargs => htext ⟨text, args, hargs⟩
    simp only [Sms.unsolSmsMessage, withCallback_of_ne hcb, if_neg hsignal, if_neg hsender]
      at hfail
    rw [hfail] at hrun
    exact absurd (Option.some_inj.mp hrun ▸ hr) not_shown_fail

theorem unsolSmsMessage_iff (hwf : WellFormed .unsolSmsMessage message)
    (hrun : run .unsolSmsMessage heap handler message = some r) (hr : r.Shown) :
    Determined .unsolSmsMessage heap handler message ↔ SetsAll .unsolSmsMessage heap message := by
  obtain ⟨text, args, hargs, hpass⟩ := unsolSmsMessage_of_shown hrun hr
  by_cases hmember : Sms.hasDictionary message
  swap
  · -- a status report leaves the record alone
    refine iff_of_true (fun heap' _ => ?_) fun h => absurd h hmember
    simp only [hpass, if_neg hmember]
  simp only [if_pos hmember, Sms.decodeMessage] at hpass
  have hfirst := (hpass heap).symm.trans hrun
  obtain ⟨list, hlist, hbody⟩ := Option.bind_eq_some_iff.mp hfirst
  simp only [hlist, Option.bind_some] at hpass
  have hnext : message.args.next.recurse = some list := by
    rw [hargs]
    exact hlist
  cases hblock : heap.messageInfo with
  | none =>
    rw [hblock] at hbody
    exact absurd (Option.some_inj.mp hbody ▸ hr) not_shown_fail
  | some block =>
    simp only [hblock] at hbody
    obtain ⟨info, hinfo, -⟩ := Option.map_eq_some_iff.mp hbody
    have hread : ∀ info, foldDict Sms.fillMessageInfo list info =
        some (messageFrom list info) := by
      intro info'
      have hdefined := foldDict_isSome Sms.isSome_fillMessageInfo list info'
      rw [← foldDict_isSome Sms.isSome_fillMessageInfo list, hinfo] at hdefined
      obtain ⟨info'', hinfo''⟩ := Option.isSome_iff_exists.mp hdefined
      rw [hinfo'', foldDict_fillMessageInfo hinfo'']
    have hset : SetsAll .unsolSmsMessage heap message ↔
        ∀ key ∈ messageKeys, (lastValue key Iter.getString list).isSome = true := by
      simp only [SetsAll, hmember, hnext, Option.some.injEq, forall_eq', true_imp_iff]
    let start (block : MessageInfo) : MessageInfo :=
      { block with
        text := .text text, smsType := if message.member = "IncomingMessage" then 1 else 2 }
    rw [hset, ← messageFrom_congr_iff (start block) (hwf list hnext)]
    constructor
    · intro hdet info' htext htype
      let dirty : Heap := { heap with messageInfo := some info' }
      have hdirty : heap.SameGrants dirty :=
        { Heap.SameGrants.refl heap with messageInfo := by rw [hblock]; rfl }
      have hsecond := hdet dirty hdirty
      simp only [hpass, hblock, dirty, hread, Option.map_some] at hsecond
      have hsame := Payload.messageInfo.inj (congrArg (·.result.data) (Option.some_inj.mp hsecond))
      cases info'
      cases htext
      cases htype
      exact hsame
    · intro hall heap' hsame
      have hblock' := hsame.messageInfo
      rw [hblock] at hblock'
      obtain ⟨block', hinfo'⟩ := Option.isSome_iff_exists.mp hblock'.symm
      have hsecond := hall (start block') rfl rfl
      simp only [hpass, hblock, hinfo', hread, Option.map_some]
      exact congrArg (fun info => some (deliver { handler.result with
        data := .messageInfo info, status := ok })) hsecond

/-- What is shown of a well-formed message does not depend on the content of the heap exactly if
the message sets every field of it. -/
theorem determined_iff_setsAll (hwf : d.WellFormed message)
    (hrun : d.run heap handler message = some r) (hr : r.Shown) :
    d.Determined heap handler message ↔ d.SetsAll heap message := by
  cases d with
  | cellinfoListChanged => exact cellinfoListChanged_iff hrun hr
  | cellListRequestComplete => exact cellListRequestComplete_iff hrun hr
  | operatorScanComplete => exact operatorScanComplete_iff hrun hr
  | apnListLoaded => exact apnListLoaded_iff hrun hr
  | registrationInfoQueryDone =>
    exact iff_of_false (not_determined_registrationInfoQueryDone hrun hr) id
  | callForwardingQueryComplete =>
    exact iff_of_false (not_determined_callForwardingQueryComplete hrun hr) id
  | signalStrengthChanged => exact signalStrengthChanged_iff hrun hr
  | dataConnectionChanged => exact iff_of_false (not_determined_dataConnectionChanged hrun hr) id
  | unsolSmsMessage => exact unsolSmsMessage_iff hwf hrun hr

/-! ## A message without a local time -/

/-- An incoming message with the given properties. -/
def sampleMessage (ps : List (String × String)) : Message where
  type := .signal
  member := "IncomingMessage"
  sender := some "org.ofono"
  args := [.string "hello", dict (ps.map fun p => (p.1, .string p.2))]
  typed := by simp [Value.typed, dict]

/-- A heap that grants the block of a message, with the given content. -/
def sampleHeap (block : MessageInfo) : Heap := { Heap.exhausted with messageInfo := some block }

def sampleHandler : AsyncHandler Payload := ⟨⟨48, 1, 0, 0, 0, .null, 0⟩, 1⟩

theorem determined_iff_setsAll_sampleMessage :
    Determined .unsolSmsMessage (sampleHeap ⟨.null, .null, .null, .null, 0⟩) sampleHandler
        (sampleMessage [("Sender", "10086"), ("SentTime", "10:00"), ("LocalSentTime", "10:01")]) ↔
      SetsAll .unsolSmsMessage (sampleHeap ⟨.null, .null, .null, .null, 0⟩)
        (sampleMessage
          [("Sender", "10086"), ("SentTime", "10:00"), ("LocalSentTime", "10:01")]) := by
  refine determined_iff_setsAll ?_ rfl ⟨rfl, rfl⟩
  intro list hlist
  cases hlist
  decide

/-- Without a local time, the application gets what the block has held. -/
theorem not_determined_sampleMessage :
    ¬ Determined .unsolSmsMessage (sampleHeap ⟨.null, .null, .null, .null, 0⟩) sampleHandler
      (sampleMessage [("Sender", "10086"), ("SentTime", "10:00")]) := by
  intro hdet
  have hsame : (sampleHeap ⟨.null, .null, .null, .null, 0⟩).SameGrants
      (sampleHeap ⟨.null, .null, .null, .text "yesterday", 0⟩) := by
    constructor <;> first | rfl | exact fun _ => rfl
  exact absurd (hdet _ hsame) (by decide)

end StructureDecoder

end Telephony
