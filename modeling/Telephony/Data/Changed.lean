import Telephony.Data.Active
import Telephony.Data.Signal
import Telephony.Ledger

/-!
# The memory of a changed connection

`data_connection_changed` gets a context and its settings before it looks at the message, and
frees them behind the callback, together with what the two pointers of the settings point to. The
pointers are set to NULL on the way to the dictionary, and each call of a parser sets one of them
to a new block, whatever it has pointed to before.

## Main definitions

* `Data.ChangedPlace` — the context, with the pointers of its settings and the blocks that have
  been allocated for them
* `Data.dataConnectionChangedWith` — the function, with what it does to the memory
* `Data.ReleasesOwn` — what it allocates it frees once, and nothing else

## Main results

* `Data.dataConnectionChangedWith_handling` — the record is that of `dataConnectionChanged`
* `Data.holds_of_foldDict` — the blocks that a dictionary leaves
* `Data.releasesOwn_iff` — which messages the function handles so
-/

namespace Telephony.Data

open DBus Ledger

variable {handler : AsyncHandler Payload} {message : Message} {heap : Heap}

/-! ## Pointers -/

/-- The blocks that the function frees. Those of the addresses have the number of the parser call
that has got them. What a pointer points to that has not been set is an earlier block. -/
inductive ChangedBlock
  | context
  | settings
  | ipv4 (call : ℕ)
  | ipv6 (call : ℕ)
  | earlier
  deriving DecidableEq, Repr

/-- How often the parsers have been called. -/
structure ParserCalls where
  ipv4 : ℕ
  ipv6 : ℕ
  deriving DecidableEq, Repr

/-- A key counts as a call if it is one of those that the parsers are for. -/
def ParserCalls.count (key : String) (calls : ParserCalls) : ParserCalls :=
  if key = "Settings" then { calls with ipv4 := calls.ipv4 + 1 }
  else if key = "IPv6.Settings" then { calls with ipv6 := calls.ipv6 + 1 }
  else calls

@[simp] theorem ParserCalls.ipv4_count (key : String) (calls : ParserCalls) :
    (calls.count key).ipv4 = (if key = "Settings" then 1 else 0) + calls.ipv4 := by
  unfold ParserCalls.count
  split_ifs
  · exact Nat.add_comm _ _
  · exact (Nat.zero_add _).symm
  · exact (Nat.zero_add _).symm

@[simp] theorem ParserCalls.ipv6_count (key : String) (calls : ParserCalls) :
    (calls.count key).ipv6 = (if key = "IPv6.Settings" then 1 else 0) + calls.ipv6 := by
  unfold ParserCalls.count
  by_cases hkey : key = "Settings"
  · subst hkey
    simp
  · rw [if_neg hkey]
    split_ifs
    · exact Nat.add_comm _ _
    · exact (Nat.zero_add _).symm

/-- A context with what `malloc` grants the next calls of the parsers. -/
def ParserCalls.blocks (heap : Heap) (dc : DataContext) (calls : ParserCalls) : ContextBlocks :=
  ⟨dc, heap.ipv4Settings calls.ipv4, heap.ipv6Settings calls.ipv6⟩

/-- The context while its dictionary is read, with the pointers of its settings and the blocks that
have been allocated for them. -/
structure ChangedPlace where
  dc : DataContext
  calls : ParserCalls
  ipv4 : Option ChangedBlock
  ipv6 : Option ChangedBlock
  allocated : List ChangedBlock
  deriving DecidableEq, Repr

/-- The block that a call gets, if there is memory. -/
def grantedBlock (grant : ℕ → Option IpAddressSettings) (block : ℕ → ChangedBlock) (call : ℕ) :
    Option ChangedBlock :=
  (grant call).map fun _ => block call

/-- A call of a parser sets its pointer to a new block, or to NULL if there is none. -/
def ChangedPlace.renew (heap : Heap) (key : String) (place : ChangedPlace) : ChangedPlace :=
  let got4 := grantedBlock heap.ipv4Settings .ipv4 place.calls.ipv4
  let got6 := grantedBlock heap.ipv6Settings .ipv6 place.calls.ipv6
  if key = "Settings" then
    { place with
      calls := place.calls.count key, ipv4 := got4, allocated := place.allocated ++ got4.toList }
  else if key = "IPv6.Settings" then
    { place with
      calls := place.calls.count key, ipv6 := got6, allocated := place.allocated ++ got6.toList }
  else place

/-- What the loop over the dictionary does with an entry. -/
def fillChanged (heap : Heap) (key : String) (value : Iter) (place : ChangedPlace) :
    Option ChangedPlace :=
  ((connectionProperties (place.calls.blocks heap place.dc)).fill key value place.dc).map
    fun dc => { place.renew heap key with dc := dc }

/-- The context before its dictionary is read: the texts are cleared, and both pointers are NULL. -/
def changedPlace (dc : DataContext) (ip : IpSettings) (id : String) : ChangedPlace where
  dc := { dc with
    id := .text id
    ipSettings := some { ip with ipv4 := none, ipv6 := none }
    accesspointname := ""
    name := ""
    username := ""
    password := ""
    messageproxy := ""
    messagecenter := "" }
  calls := ⟨0, 0⟩
  ipv4 := none
  ipv6 := none
  allocated := []

/-! ## The function -/

/-- What the function does: to its record, and to the memory. -/
structure ChangedRun where
  handling : Handling
  ops : List (Op ChangedBlock)
  deriving DecidableEq, Repr

/-- The cleanup frees what it finds in the two pointers, and then the settings and the context. -/
def changedCleanup (ipv4 ipv6 : Option ChangedBlock) : List ChangedBlock :=
  ipv4.toList ++ (ipv6.toList ++ [.settings, .context])

/-- The ledger of a run that gets to the callback. -/
def changedOps (allocated : List ChangedBlock) (ipv4 ipv6 : Option ChangedBlock) :
    List (Op ChangedBlock) :=
  (.context :: .settings :: allocated).map .alloc ++ (changedCleanup ipv4 ipv6).map .free

/-- The run that delivers a context. -/
def ChangedPlace.run (ar : AsyncResult Payload) (place : ChangedPlace) : ChangedRun where
  handling := deliver { ar with status := ok, data := .dataContext place.dc }
  ops := changedOps place.allocated place.ipv4 place.ipv6

/-- What is left in a pointer that has not been set. -/
def leftIn (ip : Option IpAddressSettings) : Option ChangedBlock := ip.map fun _ => .earlier

/-- `data_connection_changed`, with what it does to the memory. Each call of a parser gets a block
of its own. -/
def dataConnectionChangedWith (handler : AsyncHandler Payload) (message : Message) (heap : Heap) :
    Option ChangedRun :=
  let ar := handler.result
  if handler.cbFunction = null then some ⟨ignore ar, []⟩
  else
    match heap.dataContext 0, heap.ipSettings 0 with
    | none, _ => some ⟨ignore ar, []⟩
    | some _, none => some ⟨ignore ar, [.alloc .context, .free .context]⟩
    | some dc, some ip =>
      -- the jump to the cleanup comes before the pointers are set
      if message.args = [] then some ⟨fail ar, changedOps [] (leftIn ip.ipv4) (leftIn ip.ipv6)⟩
      else
        message.args.getString.bind fun id =>
          message.args.next.recurse.bind fun list =>
            (foldDict (fillChanged heap) list (changedPlace dc ip id)).map (ChangedPlace.run ar)

/-- Where the parsers are granted the same at each of their calls, the record is the one of
`dataConnectionChanged`. -/
theorem dataConnectionChangedWith_handling
    (h4 : ∀ call, heap.ipv4Settings call = heap.ipv4Settings 0)
    (h6 : ∀ call, heap.ipv6Settings call = heap.ipv6Settings 0) :
    (dataConnectionChangedWith handler message heap).map ChangedRun.handling =
      dataConnectionChanged handler message heap := by
  unfold dataConnectionChangedWith dataConnectionChanged withCallback changedBlocks
  by_cases hcb : handler.cbFunction = null
  · simp [hcb]
  · cases hdc : heap.dataContext 0 with
    | none => simp [hcb]
    | some dc =>
      cases hip : heap.ipSettings 0 with
      | none => simp [hcb]
      | some ip =>
        by_cases hargs : message.args = []
        · simp [hcb, hargs]
        · -- the loop uses each entry as the table does
          have hfill : ∀ key value place,
              (fillChanged heap key value place).map ChangedPlace.dc =
                (connectionProperties
                  (ParserCalls.blocks heap (changedPlace dc ip "").dc ⟨0, 0⟩)).fill key value
                    place.dc := by
            intro key value place
            rw [fillChanged, ParserCalls.blocks, h4, h6, Option.map_map]
            exact Option.map_id'
          simp only [hcb, hargs, if_false, Option.bind_some, Option.map_some]
          cases message.args.getString with
          | none => rfl
          | some id =>
            cases message.args.next.recurse with
            | none => rfl
            | some list =>
              have hread := foldDict_map hfill list (changedPlace dc ip id)
              simp only [Option.bind_some, Option.map_map]
              rw [PropertyTable.readAll]
              refine Eq.trans ?_ (congrArg _ hread)
              rw [Option.map_map]
              rfl

/-! ## Calls of the parsers -/

/-- The blocks that the first calls of a parser have got. -/
def grantedBlocks (grant : ℕ → Option IpAddressSettings) (block : ℕ → ChangedBlock) (n : ℕ) :
    List ChangedBlock :=
  (List.range n).filterMap (grantedBlock grant block)

/-- What the last of these calls has left in the pointer. -/
def lastBlock (grant : ℕ → Option IpAddressSettings) (block : ℕ → ChangedBlock) :
    ℕ → Option ChangedBlock
  | 0 => none
  | n + 1 => grantedBlock grant block n

section Blocks

variable {grant : ℕ → Option IpAddressSettings} {block : ℕ → ChangedBlock} {n : ℕ}

theorem grantedBlocks_succ :
    grantedBlocks grant block (n + 1) =
      grantedBlocks grant block n ++ (lastBlock grant block (n + 1)).toList := by
  rw [grantedBlocks, List.range_succ, List.filterMap_append]
  rfl

theorem exists_call_of_mem {b : ChangedBlock} (h : b ∈ grantedBlocks grant block n) :
    ∃ call, b = block call := by
  obtain ⟨call, -, hcall⟩ := List.mem_filterMap.mp h
  obtain ⟨-, -, rfl⟩ := Option.map_eq_some_iff.mp hcall
  exact ⟨call, rfl⟩

theorem nodup_grantedBlocks (hblock : Function.Injective block) :
    (grantedBlocks grant block n).Nodup := by
  refine List.nodup_range.filterMap fun call call' b hcall hcall' => ?_
  obtain ⟨-, -, rfl⟩ := Option.map_eq_some_iff.mp hcall
  obtain ⟨-, -, heq⟩ := Option.map_eq_some_iff.mp hcall'
  exact hblock heq.symm

theorem grantedBlocks_eq_nil_iff :
    grantedBlocks grant block n = [] ↔ ∀ call < n, grant call = none := by
  simp [grantedBlocks, grantedBlock, List.filterMap_eq_nil_iff]

variable (block) in
/-- The pointer has every block that its parser has got if no call but the last has got one. -/
theorem grantedBlocks_eq_last_iff :
    grantedBlocks grant block n = (lastBlock grant block n).toList ↔
      ∀ call, call + 1 < n → grant call = none := by
  cases n with
  | zero => simp [grantedBlocks, lastBlock]
  | succ n =>
    rw [grantedBlocks_succ, List.append_left_eq_self, grantedBlocks_eq_nil_iff]
    exact forall_congr' fun call => by rw [Nat.add_lt_add_iff_right]

variable (grant block n) in
theorem lastBlock_isSuffix : (lastBlock grant block n).toList <:+ grantedBlocks grant block n := by
  cases n with
  | zero => exact List.suffix_rfl
  | succ n =>
    rw [grantedBlocks_succ]
    exact List.suffix_append _ _

end Blocks

/-- The pointers have what the last calls have left there, and every block that a call has got is
among the allocated ones. -/
structure ChangedPlace.Holds (heap : Heap) (place : ChangedPlace) : Prop where
  ipv4 : place.ipv4 = lastBlock heap.ipv4Settings .ipv4 place.calls.ipv4
  ipv6 : place.ipv6 = lastBlock heap.ipv6Settings .ipv6 place.calls.ipv6
  allocated : place.allocated.Perm
    (grantedBlocks heap.ipv4Settings .ipv4 place.calls.ipv4 ++
      grantedBlocks heap.ipv6Settings .ipv6 place.calls.ipv6)

section Place

variable {place place' : ChangedPlace} {dc : DataContext} {ip : IpSettings} {id key : String}
  {value : Iter}

theorem holds_changedPlace : (changedPlace dc ip id).Holds heap := ⟨rfl, rfl, List.Perm.refl _⟩

theorem ChangedPlace.Holds.renew (h : place.Holds heap) (key : String) :
    (place.renew heap key).Holds heap := by
  obtain ⟨h4, h6, hall⟩ := h
  unfold ChangedPlace.renew
  by_cases hkey4 : key = "Settings"
  · rw [if_pos hkey4, ParserCalls.count, if_pos hkey4]
    refine ⟨rfl, h6, ?_⟩
    rw [grantedBlocks_succ]
    -- the new block comes in front of those of the other parser
    refine (hall.append_right _).trans ?_
    rw [List.append_assoc, List.append_assoc]
    exact List.perm_append_comm.append_left _
  · rw [if_neg hkey4]
    by_cases hkey6 : key = "IPv6.Settings"
    · rw [if_pos hkey6, ParserCalls.count, if_neg hkey4, if_pos hkey6]
      refine ⟨h4, rfl, ?_⟩
      rw [grantedBlocks_succ, ← List.append_assoc]
      exact hall.append_right _
    · rw [if_neg hkey6]
      exact ⟨h4, h6, hall⟩

theorem holds_of_fillChanged (h : fillChanged heap key value place = some place')
    (hplace : place.Holds heap) : place'.Holds heap := by
  obtain ⟨dc, -, rfl⟩ := Option.map_eq_some_iff.mp h
  obtain ⟨h4, h6, hall⟩ := hplace.renew key
  exact ⟨h4, h6, hall⟩

/-- Whatever the dictionary is, the pointers have the blocks of the last calls. -/
theorem holds_of_foldDict {list : Iter}
    (h : foldDict (fillChanged heap) list (changedPlace dc ip id) = some place) :
    place.Holds heap :=
  foldDict_preserves (fun _ _ _ _ hfill hplace => holds_of_fillChanged hfill hplace) h
    holds_changedPlace

/-! ## Ledgers -/

theorem nodup_allocated (h : place.Holds heap) :
    (ChangedBlock.context :: .settings :: place.allocated).Nodup := by
  have h4 : (grantedBlocks heap.ipv4Settings .ipv4 place.calls.ipv4).Nodup :=
    nodup_grantedBlocks fun _ _ => ChangedBlock.ipv4.inj
  have h6 : (grantedBlocks heap.ipv6Settings .ipv6 place.calls.ipv6).Nodup :=
    nodup_grantedBlocks fun _ _ => ChangedBlock.ipv6.inj
  have hcalls : ∀ b ∈ place.allocated, (∃ call, b = .ipv4 call) ∨ ∃ call, b = .ipv6 call := by
    intro b hb
    rw [h.allocated.mem_iff, List.mem_append] at hb
    exact hb.imp exists_call_of_mem exists_call_of_mem
  have hall : place.allocated.Nodup := by
    rw [h.allocated.nodup_iff, List.nodup_append]
    refine ⟨h4, h6, fun b hb b' hb' => ?_⟩
    obtain ⟨call, rfl⟩ := exists_call_of_mem hb
    obtain ⟨call', rfl⟩ := exists_call_of_mem hb'
    exact ChangedBlock.noConfusion
  refine List.nodup_cons.mpr ⟨fun hmem => ?_, List.nodup_cons.mpr ⟨fun hmem => ?_, hall⟩⟩
  · obtain hmem | hmem := List.mem_cons.mp hmem
    · contradiction
    · obtain ⟨call, hcall⟩ | ⟨call, hcall⟩ := hcalls _ hmem <;> contradiction
  · obtain ⟨call, hcall⟩ | ⟨call, hcall⟩ := hcalls _ hmem <;> contradiction

/-- The cleanup frees everything exactly if no parser has been called again once it has got a
block. -/
theorem balanced_changedOps_iff (h : place.Holds heap) :
    Balanced (changedOps place.allocated place.ipv4 place.ipv6) ↔
      (∀ call, call + 1 < place.calls.ipv4 → heap.ipv4Settings call = none) ∧
        ∀ call, call + 1 < place.calls.ipv6 → heap.ipv6Settings call = none := by
  rw [changedOps, balanced_alloc_free_iff, ← grantedBlocks_eq_last_iff .ipv4,
    ← grantedBlocks_eq_last_iff .ipv6, ← h.ipv4, ← h.ipv6]
  constructor
  · rintro ⟨-, hperm⟩
    -- each pointer has at most the blocks of its parser, so none of them can have fewer
    have hsuffix4 := lastBlock_isSuffix heap.ipv4Settings .ipv4 place.calls.ipv4
    have hsuffix6 := lastBlock_isSuffix heap.ipv6Settings .ipv6 place.calls.ipv6
    rw [← h.ipv4] at hsuffix4
    rw [← h.ipv6] at hsuffix6
    have hall := h.allocated.length_eq
    have hlength := hperm.length_eq
    have hle4 := hsuffix4.length_le
    have hle6 := hsuffix6.length_le
    simp only [changedCleanup, List.length_cons, List.length_append, List.length_nil]
      at hlength hall
    exact ⟨(hsuffix4.eq_of_length (by omega)).symm, (hsuffix6.eq_of_length (by omega)).symm⟩
  · rintro ⟨h4, h6⟩
    refine ⟨nodup_allocated h, ?_⟩
    have hall := h.allocated
    rw [h4, h6, List.perm_iff_count] at hall
    rw [List.perm_iff_count]
    intro b
    have hb := hall b
    simp only [changedCleanup, List.count_cons, List.count_append, List.count_nil] at hb ⊢
    omega

/-- The cleanup without a dictionary frees everything exactly if both pointers happen to be
NULL. -/
theorem balanced_unset_iff :
    Balanced (changedOps [] (leftIn ip.ipv4) (leftIn ip.ipv6)) ↔
      ip.ipv4 = none ∧ ip.ipv6 = none := by
  rw [changedOps, balanced_alloc_free_iff]
  constructor
  · rintro ⟨-, hperm⟩
    have hlength := hperm.length_eq
    cases h4 : ip.ipv4 with
    | none =>
      cases h6 : ip.ipv6 with
      | none => exact ⟨rfl, rfl⟩
      | some _ => simp [changedCleanup, leftIn, h4, h6] at hlength
    | some _ => simp [changedCleanup, leftIn, h4] at hlength
  · rintro ⟨h4, h6⟩
    rw [h4, h6]
    decide

end Place

/-! ## Readable dictionaries -/

/-- The calls behind an entry that can be used after given calls. The settings are looked at only
if their parser gets a block. -/
def countChanged (heap : Heap) (dc : DataContext) (key : String) (value : Iter)
    (calls : ParserCalls) : Option ParserCalls :=
  if (connectionProperties (calls.blocks heap dc)).reads key value then some (calls.count key)
  else none

/-- Every entry is of the type that it is read as. -/
def readsChanged (heap : Heap) (dc : DataContext) (list : Iter) : Bool :=
  (foldDict (countChanged heap dc) list ⟨0, 0⟩).isSome

/-- How often a dictionary has a key. -/
def occurrences (key : String) : Iter → ℕ
  | .dictEntry k _ :: it =>
    (if Iter.getString [k] = some key then 1 else 0) + occurrences key it
  | _ => 0

section Reads

variable {place place' : ChangedPlace} {dc : DataContext} {ip : IpSettings} {id : String}
  {calls calls' : ParserCalls} {list : Iter}

theorem occurrences_of_argType_ne {key : String} {it : Iter} (h : it.argType ≠ .dictEntry) :
    occurrences key it = 0 := by
  unfold occurrences
  split
  · contradiction
  · rfl

@[simp] theorem ChangedPlace.calls_renew (key : String) :
    (place.renew heap key).calls = place.calls.count key := by
  unfold ChangedPlace.renew ParserCalls.count
  split_ifs <;> rfl

/-- An entry is used exactly if it can be, and counted. -/
theorem calls_fillChanged (dc : DataContext) (key : String) (value : Iter) (place : ChangedPlace) :
    (fillChanged heap key value place).map ChangedPlace.calls =
      countChanged heap dc key value place.calls := by
  have hreads : ((connectionProperties (place.calls.blocks heap place.dc)).fill key value
      place.dc).isSome = (connectionProperties (place.calls.blocks heap dc)).reads key value :=
    PropertyTable.isSome_fill _ key value place.dc
  rw [fillChanged, countChanged, ← hreads, Option.map_map]
  cases (connectionProperties (place.calls.blocks heap place.dc)).fill key value place.dc with
  | none => rfl
  | some dc' => simp

theorem calls_foldDict (heap : Heap) (dc : DataContext) (list : Iter) (place : ChangedPlace) :
    (foldDict (fillChanged heap) list place).map ChangedPlace.calls =
      foldDict (countChanged heap dc) list place.calls :=
  foldDict_map (calls_fillChanged dc) list place

/-- A counter goes up by one with each entry that has its key. -/
theorem field_of_foldDict {key₀ : String} (field : ParserCalls → ℕ)
    (hfield : ∀ key c, field (ParserCalls.count key c) = (if key = key₀ then 1 else 0) + field c)
    (h : foldDict (countChanged heap dc) list calls = some calls') :
    field calls' = occurrences key₀ list + field calls := by
  have hstop : ∀ (it : Iter) (n : ℕ), it.argType ≠ .dictEntry → occurrences key₀ it + n = n := by
    intro it n hend
    rw [occurrences_of_argType_ne hend, Nat.zero_add]
  refine foldDict_field_eq field hstop ?_ h
  intro k v it c c' key value hkey _ hfill
  obtain ⟨-, hcount⟩ := Option.ite_none_right_eq_some.mp hfill
  obtain rfl := Option.some_inj.mp hcount
  simp only [occurrences, hkey, hfield, Option.some_inj]
  omega

/-- Each parser is called as often as its key occurs. -/
theorem calls_of_foldDict (h : foldDict (countChanged heap dc) list ⟨0, 0⟩ = some calls) :
    calls.ipv4 = occurrences "Settings" list ∧ calls.ipv6 = occurrences "IPv6.Settings" list :=
  ⟨field_of_foldDict ParserCalls.ipv4 ParserCalls.ipv4_count h,
    field_of_foldDict ParserCalls.ipv6 ParserCalls.ipv6_count h⟩

end Reads

/-! ## What the function promises -/

/-- The function frees every block that it has allocated for the message, each once, and no other.
A message without arguments is reported as an error. -/
def ReleasesOwn (handler : AsyncHandler Payload) (message : Message) (heap : Heap) : Prop :=
  ∃ run, dataConnectionChangedWith handler message heap = some run ∧ Balanced run.ops ∧
    (handler.cbFunction ≠ null → message.args = [] →
      run.handling.called = true ∧ run.handling.result.status = error)

/-- The dictionary has entries of the types that they are read as, and no settings come behind
others that have got a block. -/
structure ReadableChange (heap : Heap) (dc : DataContext) (list : Iter) : Prop where
  reads : readsChanged heap dc list = true
  ipv4 : ∀ call, call + 1 < occurrences "Settings" list → heap.ipv4Settings call = none
  ipv6 : ∀ call, call + 1 < occurrences "IPv6.Settings" list → heap.ipv6Settings call = none

/-- Without arguments there is memory, and it happens to hold NULL in both pointers. With arguments,
and if there is memory, the message can be read. -/
structure ReleasableChange (message : Message) (heap : Heap) : Prop where
  empty : message.args = [] → ∃ dc ip, heap.dataContext 0 = some dc ∧
    heap.ipSettings 0 = some ip ∧ ip.ipv4 = none ∧ ip.ipv6 = none
  filled : message.args ≠ [] → ∀ dc ip, heap.dataContext 0 = some dc →
    heap.ipSettings 0 = some ip → message.args.getString.isSome = true ∧
      ∃ list, message.args.next.recurse = some list ∧ ReadableChange heap dc list

section Releases

variable {dc : DataContext} {ip : IpSettings}

/-- Nothing is allocated for a registration without a callback. -/
theorem releasesOwn_of_null (hcb : handler.cbFunction = null) :
    ReleasesOwn handler message heap := by
  refine ⟨⟨ignore handler.result, []⟩, ?_, fun _ => .inl rfl, fun h => absurd hcb h⟩
  rw [dataConnectionChangedWith, if_pos hcb]

/-- Without memory for the context and the settings nothing is reported, and nothing is left. -/
theorem releasesOwn_of_exhausted_iff (hcb : handler.cbFunction ≠ null)
    (hmemory : heap.dataContext 0 = none ∨ heap.ipSettings 0 = none) :
    ReleasesOwn handler message heap ↔ message.args ≠ [] := by
  obtain ⟨ops, hops, hrun⟩ : ∃ ops, Balanced ops ∧
      dataConnectionChangedWith handler message heap = some ⟨ignore handler.result, ops⟩ := by
    rw [dataConnectionChangedWith, if_neg hcb]
    cases hdc : heap.dataContext 0 with
    | none => exact ⟨[], fun _ => .inl rfl, rfl⟩
    | some dc =>
      have hip : heap.ipSettings 0 = none := hmemory.resolve_left (by simp [hdc])
      have hbalanced : Balanced ([ChangedBlock.context].map .alloc ++
          [ChangedBlock.context].map .free) :=
        balanced_alloc_free_iff.mpr ⟨List.nodup_singleton _, List.Perm.refl _⟩
      rw [hip]
      exact ⟨_, hbalanced, rfl⟩
  rw [ReleasesOwn, hrun]
  constructor
  · rintro ⟨run, hrun, -, hreported⟩ hargs
    obtain rfl := Option.some_inj.mp hrun
    exact absurd (hreported hcb hargs).1 Bool.false_ne_true
  · exact fun hargs => ⟨_, rfl, hops, fun _ h => absurd h hargs⟩

/-- The pointers of a message without arguments are left as they are found. -/
theorem releasesOwn_of_empty_iff (hcb : handler.cbFunction ≠ null)
    (hdc : heap.dataContext 0 = some dc) (hip : heap.ipSettings 0 = some ip)
    (hargs : message.args = []) :
    ReleasesOwn handler message heap ↔ ip.ipv4 = none ∧ ip.ipv6 = none := by
  have hrun : dataConnectionChangedWith handler message heap =
      some ⟨fail handler.result, changedOps [] (leftIn ip.ipv4) (leftIn ip.ipv6)⟩ := by
    rw [dataConnectionChangedWith, if_neg hcb, hdc, hip]
    exact if_pos hargs
  rw [← balanced_unset_iff, ReleasesOwn, hrun]
  constructor
  · rintro ⟨run, hrun, hbalanced, -⟩
    obtain rfl := Option.some_inj.mp hrun
    exact hbalanced
  · exact fun hbalanced => ⟨_, rfl, hbalanced, fun _ _ => ⟨rfl, rfl⟩⟩

theorem releasesOwn_of_filled_iff (hcb : handler.cbFunction ≠ null)
    (hdc : heap.dataContext 0 = some dc) (hip : heap.ipSettings 0 = some ip)
    (hargs : message.args ≠ []) :
    ReleasesOwn handler message heap ↔ message.args.getString.isSome = true ∧
      ∃ list, message.args.next.recurse = some list ∧ ReadableChange heap dc list := by
  have hrun : dataConnectionChangedWith handler message heap =
      message.args.getString.bind fun id =>
        message.args.next.recurse.bind fun list =>
          (foldDict (fillChanged heap) list (changedPlace dc ip id)).map
            (ChangedPlace.run handler.result) := by
    rw [dataConnectionChangedWith, if_neg hcb, hdc, hip]
    exact if_neg hargs
  rw [ReleasesOwn, hrun]
  constructor
  · rintro ⟨run, hrun, hbalanced, -⟩
    obtain ⟨id, hid, hrun⟩ := Option.bind_eq_some_iff.mp hrun
    obtain ⟨list, hlist, hrun⟩ := Option.bind_eq_some_iff.mp hrun
    obtain ⟨place, hplace, rfl⟩ := Option.map_eq_some_iff.mp hrun
    have hcalls := calls_foldDict heap dc list (changedPlace dc ip id)
    rw [hplace, Option.map_some] at hcalls
    obtain ⟨h4, h6⟩ := calls_of_foldDict hcalls.symm
    obtain ⟨hnone4, hnone6⟩ := (balanced_changedOps_iff (holds_of_foldDict hplace)).mp hbalanced
    rw [h4] at hnone4
    rw [h6] at hnone6
    refine ⟨Option.isSome_of_eq_some hid, list, hlist, ?_, hnone4, hnone6⟩
    exact Option.isSome_of_eq_some hcalls.symm
  · rintro ⟨hid, list, hlist, hreads, hnone4, hnone6⟩
    obtain ⟨id, hid⟩ := Option.isSome_iff_exists.mp hid
    obtain ⟨calls, hcount⟩ := Option.isSome_iff_exists.mp hreads
    have hcalls := calls_foldDict heap dc list (changedPlace dc ip id)
    rw [show (changedPlace dc ip id).calls = ⟨0, 0⟩ from rfl, hcount] at hcalls
    obtain ⟨place, hplace, rfl⟩ := Option.map_eq_some_iff.mp hcalls
    obtain ⟨h4, h6⟩ := calls_of_foldDict hcount
    refine ⟨place.run handler.result, ?_, ?_, fun _ h => absurd h hargs⟩
    · rw [hid, hlist, Option.bind_some, Option.bind_some, hplace]
      rfl
    · refine (balanced_changedOps_iff (holds_of_foldDict hplace)).mpr ?_
      rw [h4, h6]
      exact ⟨hnone4, hnone6⟩

end Releases

/-- The function releases its own blocks, whatever the heap has held before, exactly if the message
and the memory are such. -/
theorem releasesOwn_iff :
    ReleasesOwn handler message heap ↔
      (handler.cbFunction ≠ null → ReleasableChange message heap) := by
  by_cases hcb : handler.cbFunction = null
  · exact iff_of_true (releasesOwn_of_null hcb) fun h => absurd hcb h
  rw [imp_iff_right hcb]
  by_cases hmemory : heap.dataContext 0 = none ∨ heap.ipSettings 0 = none
  · have hmissing : ∀ dc ip, heap.dataContext 0 = some dc → heap.ipSettings 0 ≠ some ip := by
      intro dc ip hdc hip
      obtain hnone | hnone := hmemory
      · rw [hdc] at hnone
        contradiction
      · rw [hip] at hnone
        contradiction
    rw [releasesOwn_of_exhausted_iff hcb hmemory]
    constructor
    · exact fun hargs => ⟨fun h => absurd h hargs, fun _ dc ip hdc hip =>
        absurd hip (hmissing dc ip hdc)⟩
    · intro h hargs
      obtain ⟨dc, ip, hdc, hip, -⟩ := h.empty hargs
      exact hmissing dc ip hdc hip
  · rw [not_or] at hmemory
    obtain ⟨dc, hdc⟩ := Option.ne_none_iff_exists'.mp hmemory.1
    obtain ⟨ip, hip⟩ := Option.ne_none_iff_exists'.mp hmemory.2
    by_cases hargs : message.args = []
    · rw [releasesOwn_of_empty_iff hcb hdc hip hargs]
      constructor
      · exact fun hnull => ⟨fun _ => ⟨dc, ip, hdc, hip, hnull⟩, fun h => absurd hargs h⟩
      · intro h
        obtain ⟨-, ip', -, hip', hnull⟩ := h.empty hargs
        obtain rfl := Option.some_inj.mp (hip.symm.trans hip')
        exact hnull
    · rw [releasesOwn_of_filled_iff hcb hdc hip hargs]
      constructor
      · intro hread
        refine ⟨fun h => absurd h hargs, fun _ dc' ip' hdc' _ => ?_⟩
        obtain rfl := Option.some_inj.mp (hdc.symm.trans hdc')
        exact hread
      · exact fun h => h.filled hargs dc ip hdc hip

/-! ## Settings that come twice -/

/-- An address block that has been used before. -/
def usedAddress : IpAddressSettings := ⟨"ppp0", "10.0.0.2", "10.0.0.1", [], "", ""⟩

/-- The settings have been used by another context. -/
def staleBlocks : Heap :=
  { usedBlocks with
    ipSettings := fun _ => some ⟨some usedAddress, none, 0⟩
    ipv4Settings := fun _ => some usedAddress }

/-- A signal without arguments. -/
def emptyChange : Message where
  type := .signal
  member := "ContextChanged"
  args := []
  typed := rfl

/-- A change whose settings come in two parts. -/
def doubledChange : Message where
  type := .signal
  member := "ContextChanged"
  args := [.objectPath "/ril_0/context1",
    dict [("Settings", dict [("Interface", .string "ppp0")]),
      ("Settings", dict [("Address", .string "10.0.0.3")])]]
  typed := by decide

/-- A message without arguments lets the function free what a former context has had, and of two
settings the first are lost. -/
theorem not_releasesOwn :
    ¬ ReleasesOwn listHandler emptyChange staleBlocks ∧
      ¬ ReleasesOwn listHandler doubledChange staleBlocks := by
  constructor
  · rintro ⟨run, hrun, hbalanced, -⟩
    obtain rfl := Option.some_inj.mp hrun
    exact absurd (hbalanced .earlier) (by decide)
  · have hsettled : (dataConnectionChangedWith listHandler doubledChange staleBlocks).map
        (fun run => decide (Ledger.Settled (.ipv4 0) run.ops)) = some false := by decide
    rintro ⟨run, hrun, hbalanced, -⟩
    rw [hrun, Option.map_some, Option.some_inj, decide_eq_false_iff_not] at hsettled
    exact hsettled (hbalanced _)

end Telephony.Data
