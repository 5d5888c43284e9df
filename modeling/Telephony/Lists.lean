import Telephony.Call.Reply
import Telephony.Data.Active
import Telephony.Manager.Reply
import Telephony.Network.Reply

/-!
# Lists of elements

Six functions decode an array into one on the stack that has places for a fixed number of elements:
the modems, the operators of a scan, the cells, the contexts, the active contexts, and the calls of
a conference. Each stops when the array is full. Those that allocate their elements also stop when
there is no memory, and free the elements behind the callback. An inactive context is freed as soon
as it has been read.

## Main definitions

* `Manager.modemLoop`, `Network.operatorLoop`, `Network.cellLoop`, `Data.apnLoop`,
  `Data.connectionLoop`, `Call.mergeLoop` — the loops, with their arrays and blocks
* `Telephony.ListsAll` — what would be so with memory enough, if every block was freed behind the
  callback

## Main results

* `Telephony.lists_leading` — the elements at the head are delivered as far as there is memory, and
  every block is freed once
-/

namespace Telephony

open DBus Ledger

variable {handler : AsyncHandler Payload} {message : Message} {heap : Heap}

/-! ## Loops -/

/-- A loop over structures that gets one block for each of them. -/
def blockLoop {β α : Type} (max : ℕ) (alloc : ℕ → Option β) (fill : β → Iter → Option α) :
    ListLoop β α ℕ where
  argType := .struct
  max := max
  alloc := alloc
  failing _ := []
  fill pos block list :=
    list.recurse.bind fun entry => (fill block entry).map fun a => ⟨a, [pos], [pos]⟩
  keep _ := true

/-- A loop that keeps what the message holds, and allocates nothing. -/
def pathLoop (argType : ArgType) (max : ℕ) (path : Iter → Option String) :
    ListLoop Unit String Empty where
  argType := argType
  max := max
  alloc _ := some ()
  failing _ := []
  fill _ _ list := (path list).map fun s => ⟨s, [], []⟩
  keep _ := true

/-- The loop of `modem_list_query_done`. -/
def Manager.modemLoop : ListLoop Unit String Empty :=
  pathLoop .struct maxModemCount fun list => list.recurse.bind Iter.getString

/-- The loop of `merge_call_complete`. -/
def Call.mergeLoop : ListLoop Unit String Empty :=
  pathLoop (.text .objectPath) maxConferenceParticipantCount Iter.getString

/-- The loop of `operator_scan_complete`. -/
def Network.operatorLoop (heap : Heap) : ListLoop OperatorInfo OperatorInfo ℕ :=
  blockLoop maxOperatorInfoListSize heap.operatorInfo decodeOperator

/-- The loop of `cell_list_request_complete`. -/
def Network.cellLoop (heap : Heap) : ListLoop CellIdentity CellIdentity ℕ :=
  blockLoop maxCellInfoListSize heap.cellIdentity decodeCell

namespace Data

/-- The loop of `apn_list_loaded`. -/
def apnLoop (heap : Heap) : ListLoop ContextBlocks DataContext ℕ :=
  blockLoop maxApnListCapacity (apnBlocks heap) decodeContext

/-! ### Active contexts -/

/-- The blocks of the context at a position. The settings come with an address block for each
property that has them. -/
inductive ContextBlock
  | context (pos : ℕ)
  | settings (pos : ℕ)
  | ipv4 (pos n : ℕ)
  | ipv6 (pos n : ℕ)
  deriving DecidableEq, Repr

def ContextBlock.pos : ContextBlock → ℕ
  | context pos | settings pos | ipv4 pos _ | ipv6 pos _ => pos

/-- A pointer, and the blocks that have been allocated for it. -/
structure Pointer where
  block : Option ContextBlock
  allocated : List ContextBlock
  deriving DecidableEq, Repr

/-- The pointer is set to a new block, or to NULL if there is none. -/
def Pointer.renew (granted : Bool) (block : ℕ → ContextBlock) (p : Pointer) : Pointer :=
  if granted then
    ⟨some (block p.allocated.length), p.allocated ++ [block p.allocated.length]⟩
  else { p with block := none }

/-- A context, with the pointers of its settings. -/
structure ContextPlace where
  dc : DataContext
  ipv4 : Pointer
  ipv6 : Pointer
  deriving DecidableEq, Repr

/-- What a property does with the pointers. -/
def ContextPlace.renew (pos : ℕ) (blocks : ContextBlocks) (key : String) (place : ContextPlace) :
    ContextPlace :=
  if key = "Settings" then
    { place with ipv4 := place.ipv4.renew blocks.ipv4.isSome (.ipv4 pos) }
  else if key = "IPv6.Settings" then
    { place with ipv6 := place.ipv6.renew blocks.ipv6.isSome (.ipv6 pos) }
  else place

/-- The properties that `update_data_context` knows, with the blocks that they allocate. -/
def placeProperties (pos : ℕ) (blocks : ContextBlocks) : PropertyTable ContextPlace :=
  (contextProperties blocks).map fun p => (p.1, {
    read value place :=
      (p.2.read value place.dc).map fun dc => { place with dc := dc }.renew pos blocks p.1
    reads := p.2.reads
    isSome_read value place := Option.isSome_map.trans (p.2.isSome_read value place.dc) })

/-- The loop body of `data_connection_list_query_done`. -/
def decodePlace (pos : ℕ) (blocks : ContextBlocks) (entry : Iter) : Option ContextPlace :=
  entry.getString.bind fun id =>
    entry.next.recurse.bind fun dict =>
      (placeProperties pos blocks).readAll dict
        ⟨{ blocks.context with id := .text id }, ⟨none, []⟩, ⟨none, []⟩⟩

/-- The blocks of a context in the order in which they are allocated, and in that in which they are
freed. -/
def ContextPlace.element (pos : ℕ) (place : ContextPlace) : Element DataContext ContextBlock where
  value := place.dc
  got := .context pos :: .settings pos :: (place.ipv4.allocated ++ place.ipv6.allocated)
  held := place.ipv4.block.toList ++ place.ipv6.block.toList ++ [.settings pos, .context pos]

/-- The loop of `data_connection_list_query_done`. Without memory for the settings the context is
given back. -/
def connectionLoop (heap : Heap) : ListLoop ContextBlocks DataContext ContextBlock where
  argType := .struct
  max := maxDataCallListSize
  alloc := connectionBlocks heap
  failing pos :=
    if (heap.dataContext pos).isSome then [.alloc (.context pos), .free (.context pos)] else []
  fill pos blocks list :=
    list.recurse.bind fun entry => (decodePlace pos blocks entry).map (ContextPlace.element pos)
  keep := DataContext.active

end Data

/-! ## What the callbacks are given -/

/-- A handler calls back with the elements that its loop has written to the array, and with their
number. -/
def Delivers {β α κ : Type} (l : ListLoop β α κ) (args : Iter)
    (record : ℕ → List α → AsyncResult Payload) (handling : Option Handling)
    (lists : Progress α κ → Prop) : Prop :=
  ∃ s, l.start args = some s ∧
    handling = some (deliver (record s.index (s.delivered.map Element.value))) ∧ lists s

section Delivers

variable {β α κ : Type} [DecidableEq κ] {l : ListLoop β α κ} {keeps : Value → Bool} {vs args : Iter}
  {record : ℕ → List α → AsyncResult Payload} {handling : Option Handling} {index : κ → ℕ}
  {decoded : Option (List α)}

theorem delivers_of_values (hrecurse : args.recurse = some vs)
    (hvs : ∀ v ∈ vs, Iter.argType [v] = l.argType)
    (hkeeps : ∀ c ∈ vs.zipIdx, ∀ e, l.element c = some e → l.keep e.value = keeps c.1)
    (hmax : 0 < l.max) (howns : l.Owns index vs)
    (hvalues : (l.start args).map (fun s => s.delivered.map Element.value) = decoded)
    (hrun : handling = decoded.map fun as => deliver (record as.length as))
    (hsome : handling.isSome = true) :
    Delivers l args record handling (l.Lists keeps vs) := by
  rw [hrun, Option.isSome_map, ← hvalues, Option.isSome_map] at hsome
  obtain ⟨s, hs⟩ := Option.isSome_iff_exists.mp hsome
  have hlists : l.Lists keeps vs s := by
    rw [ListLoop.start, hrecurse, Option.bind_some] at hs
    exact ListLoop.lists_of_run hvs hkeeps hmax howns hs
  refine ⟨s, hs, ?_, hlists⟩
  rw [hrun, ← hvalues, hs, Option.map_some, Option.map_some, List.length_map, hlists.counted]

end Delivers

/-! ### One block for each element -/

section Blocks

variable {β α : Type} {max : ℕ} {alloc : ℕ → Option β} {fill : β → Iter → Option α}

theorem owns_blockLoop (vs : Iter) : (blockLoop max alloc fill).Owns id vs where
  element c _ e he := by
    obtain ⟨block, -, he⟩ := Option.bind_eq_some_iff.mp he
    obtain ⟨entry, -, he⟩ := Option.bind_eq_some_iff.mp he
    obtain ⟨a, -, rfl⟩ := Option.map_eq_some_iff.mp he
    exact ⟨List.nodup_singleton _, List.Perm.refl _, fun b hb => List.mem_singleton.mp hb⟩
  failing _ := ⟨fun _ => .inl rfl, fun _ hop => absurd hop List.not_mem_nil⟩

/-- A list decoder with one block for each element delivers what it should if it is defined. -/
theorem delivers_blockLoop {vs args : Iter} {record : ℕ → List α → AsyncResult Payload}
    {handling : Option Handling} (hrecurse : args.recurse = some vs)
    (hvs : ∀ v ∈ vs, Iter.argType [v] = .struct) (hmax : 0 < max)
    (hrun : handling = (args.recurse.bind fun list =>
      collectStructs alloc fill (fun _ => true) max 0 0 list).map fun as =>
        deliver (record as.length as))
    (hsome : handling.isSome = true) :
    Delivers (blockLoop max alloc fill) args record handling
      ((blockLoop max alloc fill).Lists (fun _ => true) vs) := by
  refine delivers_of_values hrecurse hvs (fun _ _ _ _ => rfl) hmax (owns_blockLoop _) ?_ hrun hsome
  refine ListLoop.start_values rfl (fun pos block fields => ?_) hmax args
  simp only [blockLoop, Iter.recurse, Option.bind_some]
  cases fill block fields <;> rfl

end Blocks

/-! ### Paths -/

section Paths

variable {argType : ArgType} {max : ℕ} {path : Iter → Option String} {vs : Iter}

theorem owns_pathLoop : (pathLoop argType max path).Owns (fun _ => 0) vs where
  element c _ e he := by
    obtain ⟨_, -, he⟩ := Option.bind_eq_some_iff.mp he
    obtain ⟨s, -, rfl⟩ := Option.map_eq_some_iff.mp he
    exact ⟨List.nodup_nil, List.Perm.refl _, fun b _ => b.elim⟩
  failing _ := ⟨fun _ => .inl rfl, fun _ hop => absurd hop List.not_mem_nil⟩

variable {β : Type} {ps : List β} {f : β → Value} {name : β → String}

/-- The paths at the head are delivered, as many as there are places for. -/
theorem pathLoop_values (hvs : ∀ v ∈ ps.map f, Iter.argType [v] = argType)
    (hpath : ∀ p, path [f p] = some (name p)) (hmax : 0 < max) :
    ((pathLoop argType max path).run 0 (.holding (pathLoop argType max path).max [] [])
        (ps.map f)).map (fun s => s.delivered.map Element.value) =
      some ((ps.take max).map name) := by
  have hreached : (ListLoop.reached (fun _ => true) (ps.map f) 0 max).takeWhile
      (fun c => ((pathLoop argType max path).alloc c.2).isSome) =
        (ps.map f).zipIdx.take max := by
    rw [ListLoop.reached, leading_true]
    exact List.takeWhile_eq_self_iff.mpr fun _ _ => rfl
  have htaken : ((ps.map f).zipIdx.take max).mapM (pathLoop argType max path).element =
      some (((ps.map f).zipIdx.take max).map fun c => ⟨(path [c.1]).getD "", [], []⟩) := by
    refine mapM_eq_some_map_iff.mpr fun c hc => ?_
    have hmem : c.1 ∈ ps.map f := by
      obtain ⟨_, _, hv⟩ := List.mem_zipIdx (List.mem_of_mem_take hc)
      rw [hv]
      exact List.getElem_mem _
    obtain ⟨p, -, hp⟩ := List.mem_map.mp hmem
    simp [ListLoop.element, pathLoop, ← hp, hpath p]
  have hrun := ListLoop.run_start_eq (l := pathLoop argType max path) (fun _ => true) hvs
    (fun _ _ _ _ => rfl) hmax
  have hroom : (pathLoop argType max path).max = max := rfl
  rw [hroom, hreached, htaken, Option.map_some] at hrun
  rw [hroom, hrun, Option.map_some, Progress.delivered_holding]
  have hkeep : ∀ e : Element String Empty, (pathLoop argType max path).keep e.value = true :=
    fun _ => rfl
  simp only [hkeep, List.filter_true, List.map_map]
  have hnames : ((ps.map f).zipIdx.take max).map (fun c => (path [c.1]).getD "") =
      (ps.take max).map name := by
    calc ((ps.map f).zipIdx.take max).map (fun c => (path [c.1]).getD "")
        = (((ps.map f).zipIdx.map Prod.fst).take max).map (fun v => (path [v]).getD "") := by
          rw [← List.map_take, List.map_map]
          rfl
      _ = (ps.take max).map (fun p => (path [f p]).getD "") := by
          rw [List.zipIdx_map_fst, ← List.map_take, List.map_map]
          rfl
      _ = (ps.take max).map name := by
          refine List.map_congr_left fun p _ => ?_
          rw [hpath p, Option.getD_some]
  rw [← hnames]
  rfl

/-- A list decoder that keeps the paths delivers those at its head. -/
theorem delivers_pathLoop {args : Iter} {record : ℕ → List String → AsyncResult Payload}
    {handling : Option Handling} (hrecurse : args.recurse = some (ps.map f))
    (hvs : ∀ v ∈ ps.map f, Iter.argType [v] = argType)
    (hpath : ∀ p, path [f p] = some (name p)) (hmax : 0 < max)
    (hrun : handling = (some ((ps.take max).map name)).map fun paths =>
      deliver (record paths.length paths)) :
    Delivers (pathLoop argType max path) args record handling
      ((pathLoop argType max path).Lists (fun _ => true) (ps.map f)) := by
  refine delivers_of_values hrecurse hvs (fun _ _ _ _ => rfl) hmax owns_pathLoop ?_ hrun
    (by rw [hrun]; rfl)
  rw [ListLoop.start, hrecurse, Option.bind_some]
  exact pathLoop_values hvs hpath hmax

end Paths

theorem Manager.leadingModems_map (max : ℕ) (ps : List (String × List (String × Value))) :
    leadingModems max (ps.map pathDict) = some ((ps.take max).map Prod.fst) := by
  induction ps generalizing max with
  | nil => cases max <;> rfl
  | cons p ps ih =>
    cases max with
    | zero => rfl
    | succ max => simp [leadingModems, Iter.getString, ih]

theorem Call.leadingPaths_map (max : ℕ) (ps : List String) :
    leadingPaths max (ps.map .objectPath) = ps.take max := by
  induction ps generalizing max with
  | nil => cases max <;> rfl
  | cons p ps ih =>
    cases max with
    | zero => rfl
    | succ max => simp [leadingPaths, ih]

/-! ### Active contexts -/

namespace Data

section Place

variable {pos : ℕ} {blocks : ContextBlocks} {key : String} {place place' : ContextPlace}

@[simp] theorem ContextPlace.dc_renew : (place.renew pos blocks key).dc = place.dc := by
  unfold ContextPlace.renew
  split
  · rfl
  · split <;> rfl

theorem lookup_placeProperties :
    (placeProperties pos blocks).lookup key = ((contextProperties blocks).lookup key).map fun p => {
      read := fun value place =>
        (p.read value place.dc).map fun dc => { place with dc := dc }.renew pos blocks key
      reads := p.reads
      isSome_read := fun value place =>
        Option.isSome_map.trans (p.isSome_read value place.dc) } := by
  rw [placeProperties]
  induction contextProperties blocks with
  | nil => rfl
  | cons p table ih =>
    rw [List.map_cons, List.lookup_cons, List.lookup_cons, ih]
    cases hkey : key == p.1 with
    | false => rfl
    | true =>
      obtain rfl := beq_iff_eq.mp hkey
      rfl

/-- A property does to a place what it does to its context, and renews a pointer if it is one of the
two that have one. -/
theorem fill_placeProperties (value : Iter) :
    (placeProperties pos blocks).fill key value place =
      ((contextProperties blocks).fill key value place.dc).map fun dc =>
        if (contextProperties blocks).knows key then { place with dc := dc }.renew pos blocks key
        else { place with dc := dc } := by
  rw [PropertyTable.fill, PropertyTable.fill, PropertyTable.knows, lookup_placeProperties]
  cases (contextProperties blocks).lookup key with
  | none => rfl
  | some p => rfl

/-- The context of a place is decoded as it is without the pointers. -/
theorem dc_decodePlace (pos : ℕ) (blocks : ContextBlocks) (fields : Iter) :
    (decodePlace pos blocks fields).map ContextPlace.dc = decodeContext blocks fields := by
  have hfill : ∀ key value place,
      ((placeProperties pos blocks).fill key value place).map ContextPlace.dc =
        (contextProperties blocks).fill key value place.dc := by
    intro key value place
    rw [fill_placeProperties, Option.map_map]
    cases (contextProperties blocks).fill key value place.dc with
    | none => rfl
    | some dc =>
      simp only [Option.map_some, Function.comp_apply]
      split
      · rw [ContextPlace.dc_renew]
      · rfl
  rw [decodePlace, decodeContext]
  cases fields.getString with
  | none => rfl
  | some id =>
    simp only [Option.bind_some]
    cases fields.next.recurse with
    | none => rfl
    | some dict => exact foldDict_map hfill dict _

/-- A pointer that has been renewed at most once holds everything that it has been given. -/
def Pointer.Holds (block : ℕ → ContextBlock) (p : Pointer) : Prop :=
  p = ⟨none, []⟩ ∨ p = ⟨some (block 0), [block 0]⟩

theorem Pointer.holds_renew (granted : Bool) (block : ℕ → ContextBlock) :
    (Pointer.renew granted block ⟨none, []⟩).Holds block := by
  cases granted with
  | true => exact .inr rfl
  | false => exact .inl rfl

/-- What a property does with a pointer, if it is known. -/
def Pointer.update (known granted : Bool) (block : ℕ → ContextBlock) (_ : Iter) (p : Pointer) :
    Pointer :=
  if known then p.renew granted block else p

/-- Where no key occurs twice, no pointer is renewed twice. -/
theorem holds_of_readAll {get : ContextPlace → Pointer} {granted : Bool}
    {block : ℕ → ContextBlock} {ps : List (String × Value)}
    (hdc : ∀ place dc, get { place with dc := dc } = get place)
    (hrenew : ∀ place, get (place.renew pos blocks key) = (get place).renew granted block)
    (hothers : ∀ key' place, key' ≠ key → get (place.renew pos blocks key') = get place)
    (hkeys : (ps.map Prod.fst).Nodup) (hstart : get place = ⟨none, []⟩)
    (h : (placeProperties pos blocks).readAll (ps.map entry) place = some place') :
    (get place').Holds block := by
  -- whatever the value is, the pointer changes only as its key says
  have hcases : ∀ {key' value x x'}, (placeProperties pos blocks).fill key' value x = some x' →
      ∃ dc, x' = if (contextProperties blocks).knows key' then
        { x with dc := dc }.renew pos blocks key' else { x with dc := dc } := by
    intro key' value x x' hfill
    rw [fill_placeProperties] at hfill
    obtain ⟨dc, -, rfl⟩ := Option.map_eq_some_iff.mp hfill
    exact ⟨dc, rfl⟩
  have hfield : get place' = ((ps.lookup key).map fun v =>
      Pointer.update ((contextProperties blocks).knows key) granted block [v] (get place)).getD
        (get place) := by
    refine PropertyTable.readAll_field ?_ ?_ hkeys h
    · intro value x x' hfill
      obtain ⟨dc, rfl⟩ := hcases hfill
      rw [Pointer.update]
      split
      · rw [hrenew, hdc]
      · rw [hdc]
    · intro key' value x x' hkey hfill
      obtain ⟨dc, rfl⟩ := hcases hfill
      split
      · rw [hothers key' _ hkey, hdc]
      · rw [hdc]
  rw [hfield, hstart]
  cases ps.lookup key with
  | none => exact .inl rfl
  | some v =>
    rw [Option.map_some, Option.getD_some, Pointer.update]
    split
    · exact Pointer.holds_renew granted block
    · exact .inl rfl

theorem holds_decodePlace {p : String × List (String × Value)} (hkeys : (p.2.map Prod.fst).Nodup)
    (h : decodePlace pos blocks (pathDictFields p) = some place) :
    place.ipv4.Holds (.ipv4 pos) ∧ place.ipv6.Holds (.ipv6 pos) := by
  have hread : (placeProperties pos blocks).readAll (p.2.map entry)
      ⟨{ blocks.context with id := .text p.1 }, ⟨none, []⟩, ⟨none, []⟩⟩ = some place := h
  constructor
  · have hrenew : ∀ place : ContextPlace, (place.renew pos blocks "Settings").ipv4 =
        place.ipv4.renew blocks.ipv4.isSome (.ipv4 pos) := by
      intro place
      rw [ContextPlace.renew, if_pos rfl]
    refine holds_of_readAll (fun _ _ => rfl) hrenew ?_ hkeys rfl hread
    intro key' place hkey
    rw [ContextPlace.renew, if_neg hkey]
    split <;> rfl
  · have hrenew : ∀ place : ContextPlace, (place.renew pos blocks "IPv6.Settings").ipv6 =
        place.ipv6.renew blocks.ipv6.isSome (.ipv6 pos) := by
      intro place
      rw [ContextPlace.renew, if_neg (by decide), if_pos rfl]
    refine holds_of_readAll (fun _ _ => rfl) hrenew ?_ hkeys rfl hread
    intro key' place hkey
    rw [ContextPlace.renew, if_neg hkey]
    split <;> rfl

/-- A context holds the blocks that it has got, each of them once. -/
theorem owns_element (hipv4 : place.ipv4.Holds (.ipv4 pos)) (hipv6 : place.ipv6.Holds (.ipv6 pos)) :
    (place.element pos).got.Nodup ∧ (place.element pos).got.Perm (place.element pos).held ∧
      ∀ b ∈ (place.element pos).got, b.pos = pos := by
  unfold ContextPlace.element
  obtain hipv4 | hipv4 := hipv4 <;> obtain hipv6 | hipv6 := hipv6
  all_goals
    rw [hipv4, hipv6]
    refine ⟨by simp, ?_, by simp [ContextBlock.pos]⟩
    rw [List.perm_iff_count]
    intro b
    simp [List.count_cons]
    omega

theorem connectionLoop_element_eq_some {heap : Heap} {c : Value × ℕ}
    {e : Element DataContext ContextBlock} (h : (connectionLoop heap).element c = some e) :
    ∃ blocks fields place, connectionBlocks heap c.2 = some blocks ∧
      Iter.recurse [c.1] = some fields ∧ decodePlace c.2 blocks fields = some place ∧
        e = place.element c.2 := by
  obtain ⟨blocks, hblocks, h⟩ := Option.bind_eq_some_iff.mp h
  obtain ⟨fields, hfields, h⟩ := Option.bind_eq_some_iff.mp h
  obtain ⟨place, hplace, rfl⟩ := Option.map_eq_some_iff.mp h
  exact ⟨blocks, fields, place, hblocks, hfields, hplace, rfl⟩

/-- Where no key occurs twice, every context that is read holds what it has got. -/
theorem owns_connectionLoop (heap : Heap) {ps : List (String × List (String × Value))}
    (hkeys : ∀ p ∈ ps, (p.2.map Prod.fst).Nodup) :
    (connectionLoop heap).Owns ContextBlock.pos (ps.map pathDict) where
  element c hc e he := by
    obtain ⟨blocks, fields, place, -, hfields, hplace, rfl⟩ := connectionLoop_element_eq_some he
    obtain ⟨p, hp, hpath⟩ : ∃ p ∈ ps, pathDict p = c.1 := by
      obtain ⟨_, _, hv⟩ := List.mem_zipIdx hc
      rw [hv]
      exact List.mem_map.mp (List.getElem_mem _)
    rw [← hpath] at hfields
    obtain rfl := Option.some_inj.mp hfields
    obtain ⟨hipv4, hipv6⟩ := holds_decodePlace (hkeys p hp) hplace
    exact owns_element hipv4 hipv6
  failing pos := by
    simp only [connectionLoop]
    split
    · have hbalanced : Ledger.Balanced ([ContextBlock.context pos].map .alloc ++
          [ContextBlock.context pos].map .free) :=
        balanced_alloc_free_iff.mpr ⟨List.nodup_singleton _, List.Perm.refl _⟩
      exact ⟨hbalanced, by simp [ContextBlock.pos]⟩
    · exact ⟨fun _ => .inl rfl, fun _ hop => absurd hop List.not_mem_nil⟩

end Place

end Data

/-! ## The six lists -/

/-- The value is a context that is active. -/
def Data.activeContext (v : Value) : Bool := (Iter.recurse [v]).any isActive

/-- What the six functions do with a reply that they can read: each delivers the elements at the
head of its list, as far as there is memory, and as many as its array has places. -/
structure ListsLeading (handler : AsyncHandler Payload) (message : Message) (heap : Heap) :
    Prop where
  modems ps : message.args = [pathDicts ps] →
    Delivers Manager.modemLoop message.args
      (fun n paths => { handler.result with status := ok, arg1 := n, data := .texts paths })
      (Manager.modemListQueryDone handler message)
      (Manager.modemLoop.Lists (fun _ => true) (ps.map pathDict))
  operators ps : message.args = [pathDicts ps] →
    Delivers (Network.operatorLoop heap) message.args
      (fun n operators =>
        { handler.result with arg2 := n, data := .operatorList operators, status := ok })
      (Network.operatorScanComplete handler message heap)
      ((Network.operatorLoop heap).Lists (fun _ => true) (ps.map pathDict))
  cells ps : message.args = [dicts ps] → Network.ReadableCells heap message →
    Delivers (Network.cellLoop heap) message.args
      (fun n cells => { handler.result with status := ok, arg2 := n, data := .cellList cells })
      (Network.cellListRequestComplete handler message heap)
      ((Network.cellLoop heap).Lists (fun _ => true) (ps.map fun p => .struct [dict p]))
  apns ps : message.args = [pathDicts ps] → Data.ReadableApnList heap message →
    Delivers (Data.apnLoop heap) message.args
      (fun n dcs => { handler.result with status := ok, arg2 := n, data := .dataContexts dcs })
      (Data.apnListLoaded handler message heap)
      ((Data.apnLoop heap).Lists (fun _ => true) (ps.map pathDict))
  connections ps : message.args = [pathDicts ps] → (∀ p ∈ ps, (p.2.map Prod.fst).Nodup) →
    Data.ReadableConnectionList heap message →
    Delivers (Data.connectionLoop heap) message.args
      (fun n dcs => { handler.result with status := ok, arg2 := n, data := .dataContexts dcs })
      (Data.dataConnectionListQueryDone handler message heap)
      ((Data.connectionLoop heap).Lists Data.activeContext (ps.map pathDict))
  mergedCalls ps : message.args = [paths ps] →
    Delivers Call.mergeLoop message.args
      (fun n paths => { handler.result with data := .texts paths, status := ok, arg2 := n })
      (Call.mergeCallComplete handler message)
      (Call.mergeLoop.Lists (fun _ => true) (ps.map .objectPath))

/-! ### Arguments -/

theorem recurse_args_pathDicts {ps : List (String × List (String × Value))}
    (hargs : message.args = [pathDicts ps]) : message.args.recurse = some (ps.map pathDict) := by
  rw [hargs]
  rfl

theorem argType_pathDict (ps : List (String × List (String × Value))) :
    ∀ v ∈ ps.map pathDict, Iter.argType [v] = .struct := by
  intro v hv
  obtain ⟨p, -, rfl⟩ := List.mem_map.mp hv
  rfl

section Replies

variable (hcb : handler.cbFunction ≠ null) (hreply : message.isError = false)
include hcb hreply

theorem delivers_modems {ps : List (String × List (String × Value))}
    (hargs : message.args = [pathDicts ps]) :
    Delivers Manager.modemLoop message.args
      (fun n paths => { handler.result with status := ok, arg1 := n, data := .texts paths })
      (Manager.modemListQueryDone handler message)
      (Manager.modemLoop.Lists (fun _ => true) (ps.map pathDict)) := by
  have hpath : ∀ p, (Iter.recurse [pathDict p]).bind Iter.getString = some p.1 := fun _ => rfl
  refine delivers_pathLoop (recurse_args_pathDicts hargs) (argType_pathDict ps) hpath
    (by decide) ?_
  rw [Manager.modemListQueryDone, onTypedReply_of_args (t := .pathDicts) hcb hreply hargs rfl,
    ← hargs, recurse_args_pathDicts hargs, Option.bind_some, Manager.leadingModems_map]

theorem delivers_mergedCalls {ps : List String} (hargs : message.args = [paths ps]) :
    Delivers Call.mergeLoop message.args
      (fun n paths => { handler.result with data := .texts paths, status := ok, arg2 := n })
      (Call.mergeCallComplete handler message)
      (Call.mergeLoop.Lists (fun _ => true) (ps.map .objectPath)) := by
  have hrecurse : message.args.recurse = some (ps.map .objectPath) := by
    rw [hargs]
    rfl
  have hpath : ∀ p, Iter.getString [.objectPath p] = some (id p) := fun _ => rfl
  refine delivers_pathLoop hrecurse (fun v hv => ?_) hpath (by decide) ?_
  · obtain ⟨p, -, rfl⟩ := List.mem_map.mp hv
    rfl
  · rw [Call.mergeCallComplete, onTypedReply_of_args (t := .paths) hcb hreply hargs rfl, ← hargs,
      hrecurse, Option.map_some, Call.leadingPaths_map, List.map_id]

theorem delivers_operators {ps : List (String × List (String × Value))}
    (hargs : message.args = [pathDicts ps]) :
    Delivers (Network.operatorLoop heap) message.args
      (fun n operators =>
        { handler.result with arg2 := n, data := .operatorList operators, status := ok })
      (Network.operatorScanComplete handler message heap)
      ((Network.operatorLoop heap).Lists (fun _ => true) (ps.map pathDict)) := by
  have hrun : Network.operatorScanComplete handler message heap =
      (Network.decodeOperatorList heap message.args).map fun operators =>
        deliver { handler.result with
          arg2 := operators.length, data := .operatorList operators, status := ok } := by
    rw [Network.operatorScanComplete, hreply, if_neg Bool.false_ne_true,
      onTypedReply_of_args (t := .pathDicts) hcb hreply hargs rfl, hargs]
  obtain ⟨r, hr, -⟩ : Answers message handler.result
      (Network.operatorScanComplete handler message heap) :=
    (Network.answers_operatorScanComplete_iff hcb).mpr hreply
  exact delivers_blockLoop (recurse_args_pathDicts hargs) (argType_pathDict ps) (by decide) hrun
    (by rw [hr]; rfl)

theorem delivers_cells {ps : List (List (String × Value))} (hargs : message.args = [dicts ps])
    (hread : Network.ReadableCells heap message) :
    Delivers (Network.cellLoop heap) message.args
      (fun n cells => { handler.result with status := ok, arg2 := n, data := .cellList cells })
      (Network.cellListRequestComplete handler message heap)
      ((Network.cellLoop heap).Lists (fun _ => true) (ps.map fun p => .struct [dict p])) := by
  have hrecurse : message.args.recurse = some (ps.map fun p => .struct [dict p]) := by
    rw [hargs]
    rfl
  have hrun : Network.cellListRequestComplete handler message heap =
      (Network.decodeCellList heap message.args).map fun cells =>
        deliver { handler.result with
          status := ok, arg2 := cells.length, data := .cellList cells } := by
    rw [Network.cellListRequestComplete, hreply, if_neg Bool.false_ne_true,
      onTypedReply_of_args (t := .dicts) hcb hreply hargs rfl, hargs]
  obtain ⟨r, hr, -⟩ := (Network.answers_cellListRequestComplete_iff hcb).mpr ⟨hreply, hread⟩
  refine delivers_blockLoop hrecurse (fun v hv => ?_) (by decide) hrun (by rw [hr]; rfl)
  obtain ⟨p, -, rfl⟩ := List.mem_map.mp hv
  rfl

theorem delivers_apns {ps : List (String × List (String × Value))}
    (hargs : message.args = [pathDicts ps]) (hread : Data.ReadableApnList heap message) :
    Delivers (Data.apnLoop heap) message.args
      (fun n dcs => { handler.result with status := ok, arg2 := n, data := .dataContexts dcs })
      (Data.apnListLoaded handler message heap)
      ((Data.apnLoop heap).Lists (fun _ => true) (ps.map pathDict)) := by
  have hrun : Data.apnListLoaded handler message heap =
      (Data.decodeApnList heap message.args).map fun dcs =>
        deliver { handler.result with
          status := ok, arg2 := dcs.length, data := .dataContexts dcs } := by
    rw [Data.apnListLoaded, onTypedReply_of_args (t := .pathDicts) hcb hreply hargs rfl, hargs]
  obtain ⟨r, hr, -⟩ := (Data.answers_apnListLoaded_iff hcb).mpr fun _ => hread
  exact delivers_blockLoop (recurse_args_pathDicts hargs) (argType_pathDict ps) (by decide) hrun
    (by rw [hr]; rfl)

theorem delivers_connections {ps : List (String × List (String × Value))}
    (hargs : message.args = [pathDicts ps]) (hkeys : ∀ p ∈ ps, (p.2.map Prod.fst).Nodup)
    (hread : Data.ReadableConnectionList heap message) :
    Delivers (Data.connectionLoop heap) message.args
      (fun n dcs => { handler.result with status := ok, arg2 := n, data := .dataContexts dcs })
      (Data.dataConnectionListQueryDone handler message heap)
      ((Data.connectionLoop heap).Lists Data.activeContext (ps.map pathDict)) := by
  have hrun : Data.dataConnectionListQueryDone handler message heap =
      (Data.decodeConnectionList heap message.args).map fun dcs =>
        deliver { handler.result with
          status := ok, arg2 := dcs.length, data := .dataContexts dcs } := by
    rw [Data.dataConnectionListQueryDone,
      onTypedReply_of_args (t := .pathDicts) hcb hreply hargs rfl, hargs]
  obtain ⟨r, hr, -⟩ := (Data.answers_dataConnectionListQueryDone_iff hcb).mpr fun _ => hread
  have hmax : 0 < (Data.connectionLoop heap).max := Nat.zero_lt_succ _
  refine delivers_of_values (recurse_args_pathDicts hargs) (argType_pathDict ps) ?_ hmax
    (Data.owns_connectionLoop heap hkeys) ?_ hrun (by rw [hr]; rfl)
  · intro c _ e he
    obtain ⟨blocks, fields, place, hblocks, hfields, hplace, rfl⟩ :=
      Data.connectionLoop_element_eq_some he
    rw [Data.activeContext, hfields]
    refine Data.active_of_decodeContext hblocks ?_
    rw [← Data.dc_decodePlace c.2, hplace]
    rfl
  · refine ListLoop.start_values rfl (fun pos blocks fields => ?_) hmax message.args
    rw [← Data.dc_decodePlace pos]
    simp only [Data.connectionLoop, Iter.recurse, Option.bind_some]
    cases Data.decodePlace pos blocks fields <;> rfl

end Replies

/-- Whatever the reply is that a function can read, and however much memory there is, the function
delivers the elements at the head of the list as far as there is memory, and frees every block
once: the blocks of what it delivers behind the callback, and those of an inactive context before
it. -/
theorem lists_leading (hcb : handler.cbFunction ≠ null) (hreply : message.isError = false) :
    ListsLeading handler message heap where
  modems _ := delivers_modems hcb hreply
  operators _ := delivers_operators hcb hreply
  cells _ := delivers_cells hcb hreply
  apns _ := delivers_apns hcb hreply
  connections _ := delivers_connections hcb hreply
  mergedCalls _ := delivers_mergedCalls hcb hreply

/-! ## An inactive context -/

/-- A context that is not active. -/
def Data.inactiveContext : String × List (String × Value) :=
  ("/ril_0/context2", [("Active", .boolean 0)])

def Data.mixedReply : Message where
  type := .methodReturn
  args := [pathDicts [inactiveContext, fullContext]]
  typed := by decide

theorem lists_leading_mixedReply :
    Delivers (Data.connectionLoop Data.usedBlocks) Data.mixedReply.args
      (fun n dcs =>
        { Data.listHandler.result with status := ok, arg2 := n, data := .dataContexts dcs })
      (Data.dataConnectionListQueryDone Data.listHandler Data.mixedReply Data.usedBlocks)
      ((Data.connectionLoop Data.usedBlocks).Lists Data.activeContext
        ([Data.inactiveContext, Data.fullContext].map pathDict)) := by
  have hcb : Data.listHandler.cbFunction ≠ null := by decide
  have hread : Data.ReadableConnectionList Data.usedBlocks Data.mixedReply :=
    (Data.readableConnectionList_iff hcb rfl rfl).mpr (by decide)
  exact (lists_leading hcb rfl).connections _ rfl (by decide) hread

/-- All elements at the head are delivered, and every block is freed once, behind the callback. -/
structure ListsAll {β α κ : Type} [DecidableEq κ] (l : ListLoop β α κ) (keeps : Value → Bool)
    (vs : Iter) (s : Progress α κ) : Prop where
  delivers : List.Forall₂ (fun c e => l.element c = some e)
    ((vs.zipIdx.filter fun c => keeps c.1).take l.max) s.delivered
  inside : s.places.length = l.max ∧ s.index ≤ l.max
  waits : ∀ b, advance b .fresh s.ops ≠ some .freed
  balanced : Ledger.Balanced s.ledger

/-- A context whose name is a number. -/
def Data.numberedReply : Message where
  type := .methodReturn
  args := [pathDicts [("/ril_0/context1", [("Name", .int32 0)])]]
  typed := by decide

/-- Without memory a context is left out, one that is not active is freed before the callback, and
there is no list if a property cannot be read. -/
theorem not_listsAll :
    ¬ Delivers (Data.apnLoop Heap.exhausted) Data.fullReply.args
        (fun n dcs =>
          { Data.listHandler.result with status := ok, arg2 := n, data := .dataContexts dcs })
        (Data.apnListLoaded Data.listHandler Data.fullReply Heap.exhausted)
        (ListsAll (Data.apnLoop Heap.exhausted) (fun _ => true) [pathDict Data.fullContext]) ∧
      ¬ Delivers (Data.connectionLoop Data.usedBlocks) Data.mixedReply.args
        (fun n dcs =>
          { Data.listHandler.result with status := ok, arg2 := n, data := .dataContexts dcs })
        (Data.dataConnectionListQueryDone Data.listHandler Data.mixedReply Data.usedBlocks)
        (ListsAll (Data.connectionLoop Data.usedBlocks) Data.activeContext
          ([Data.inactiveContext, Data.fullContext].map pathDict)) ∧
      ¬ Delivers (Data.apnLoop Data.usedBlocks) Data.numberedReply.args
        (fun n dcs =>
          { Data.listHandler.result with status := ok, arg2 := n, data := .dataContexts dcs })
        (Data.apnListLoaded Data.listHandler Data.numberedReply Data.usedBlocks)
        (ListsAll (Data.apnLoop Data.usedBlocks) (fun _ => true)
          [pathDict ("/ril_0/context1", [("Name", .int32 0)])]) := by
  refine ⟨?_, ?_, ?_⟩
  · have hnone : ((Data.apnLoop Heap.exhausted).start Data.fullReply.args).map
        (fun s => s.delivered.length) = some 0 := by decide
    rintro ⟨s, hs, -, hall⟩
    rw [hs, Option.map_some, Option.some_inj] at hnone
    have hlength := hall.delivers.length_eq
    rw [hnone] at hlength
    contradiction
  · have hfreed : ((Data.connectionLoop Data.usedBlocks).start Data.mixedReply.args).map
        (fun s => advance (.context 0) .fresh s.ops) = some (some .freed) := by decide
    rintro ⟨s, hs, -, hall⟩
    rw [hs, Option.map_some, Option.some_inj] at hfreed
    exact hall.waits _ hfreed
  · have hunread :
        ((Data.apnLoop Data.usedBlocks).start Data.numberedReply.args).isSome = false := by decide
    rintro ⟨s, hs, -, -⟩
    rw [hs] at hunread
    contradiction

end Telephony
