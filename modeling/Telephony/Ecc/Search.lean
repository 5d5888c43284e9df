import Telephony.Ecc.RoundTrip

/-!
# Whether a number is an emergency number

`tapi_call_is_emergency_number` searches the lists of all slots, one after the other. A slot
without a list says nothing about the others, but the search ends there with the result that is
documented for a number that is not an emergency number.

Each list is read with room for thirty entries, and through the copy of the text behind a number.

## Main definitions

* `Call.tapiCallIsEmergencyNumber` — the search
* `Ecc.Offered` — the list that a slot has, if any
* `Ecc.FindsFirst` — the search yields the condition of the first entry, and -1 without one
* `Ecc.Findable` — the search gets to the first entry, or to one with the same condition

## Main results

* `Ecc.searchSlots_cons`, `Ecc.searchSlots_of_reached` — what is found in a slot, and when the
  search gets there
* `Ecc.findsFirst_iff` — the search is right exactly if the first entry can be found
-/

namespace Telephony

open DBus

namespace Call

/-! ## The search -/

/-- The inner loop: the condition of the first entry with the number. An entry without a text would
be compared with NULL. -/
def searchList (number : String) : List EccInfo → Option (Option ℤ)
  | [] => some none
  | info :: eccList =>
    match info.eccNum with
    | .text eccNum =>
      if number = eccNum then some (some info.condition) else searchList number eccList
    | _ => none

/-- The outer loop, over the slots that are left. `read` yields the return value of
`tapi_call_get_ecc_list` and the array. -/
def searchSlots (read : ℕ → Option (ℤ × List EccInfo)) (number : String) : List ℕ → Option ℤ
  | [] => some (-1)
  | i :: slots =>
    (read i).bind fun (size, eccList) =>
      if size ≤ 0 then some (-1)
      else
        (searchList number (eccList.take size.toNat)).bind fun
          | some condition => some condition
          | none => searchSlots read number slots

/-- What `tapi_call_is_emergency_number` reads for a slot, into an array of zeros. -/
def slotList (cfg : Config) (property : Ptr → String → Option Iter) (last : ℕ → ℕ → Option Char)
    (context : Option DbusContext) (i : ℕ) : Option (ℤ × List EccInfo) :=
  tapiCallGetEccList cfg property (last i) context i (List.replicate maxEccListSize ⟨.null, 0, 0⟩)

/-- `tapi_call_is_emergency_number`. `last i` are the last bytes of the array that is copied to
while slot `i` is read. -/
def tapiCallIsEmergencyNumber (cfg : Config) (property : Ptr → String → Option Iter)
    (last : ℕ → ℕ → Option Char) (context : Option DbusContext) (number : String) : Option ℤ :=
  searchSlots (slotList cfg property last context) number (List.range cfg.modemActiveCount)

end Call

namespace Ecc

/-! ## Lists of slots -/

/-- An entry of a list: a number, and a text with a category and a condition that an int can
hold. -/
structure ListedNumber where
  number : String
  text : String
  category : ℤ
  condition : ℤ
  reads : Call.eccCondition number text = some ⟨.text number, category, condition⟩
  isInt : IsInt category ∧ IsInt condition

namespace ListedNumber

def toInfo (e : ListedNumber) : EccInfo := ⟨.text e.number, e.category, e.condition⟩

/-- The texts of an entry. -/
def encode (e : ListedNumber) : List String := [e.number, e.text]

theorem pairs_flatMap_encode (entries : List ListedNumber) :
    Call.pairs (entries.flatMap encode) = entries.map fun e => (e.number, some e.text) := by
  induction entries with
  | nil => rfl
  | cons e entries ih =>
    rw [List.map_cons, ← ih]
    rfl

end ListedNumber

/-- A slot offers a list, or nothing that could be read as one. -/
def Offered (property : Ptr → String → Option Iter) (context : Option DbusContext) (i : ℕ) :
    Option (List ListedNumber) → Prop
  | some es => ∃ ctx, context = some ctx ∧ ctx.clientReady = true ∧
      OffersTexts property ctx i (es.flatMap ListedNumber.encode)
  | none => ∀ ctx type elements rest, context = some ctx → ctx.clientReady = true →
      ¬ OffersValue property ctx i (.array type elements :: rest)

section Lists

variable (lists : ℕ → Option (List ListedNumber)) (number : String)

/-- The entries of a slot, none if it does not offer a list. -/
def listed (i : ℕ) : List ListedNumber := (lists i).getD []

/-- The entries of a slot that there is room for. -/
def seen (i : ℕ) : List ListedNumber := (listed lists i).take Call.maxEccListSize

/-- The list of a slot contains the number. -/
def Contains (i : ℕ) : Prop := ∃ e ∈ listed lists i, e.number = number

/-- The first entry with the number, in the order of the slots. -/
def firstEntry (slots : List ℕ) : Option ListedNumber :=
  (slots.flatMap (listed lists)).find? fun e => e.number = number

/-- The search yields the condition of the first entry with the number, and -1 exactly if there is
no entry with it. -/
structure FindsFirst (count : ℕ) (result : Option ℤ) : Prop where
  first : ∀ e, firstEntry lists number (List.range count) = some e → result = some e.condition
  absent : result = some (-1) ↔ ∀ i < count, ¬ Contains lists number i

/-- The slots in front of a slot have entries, and none with the number among those that there is
room for. -/
def Reached (i : ℕ) : Prop := ∀ j < i, listed lists j ≠ [] ∧ ∀ e ∈ seen lists j, e.number ≠ number

/-- All texts that the search gets to end in the copy, the first entry with the number has another
condition than the result that denotes its absence, and the search gets to it, or to an entry with
the number and the same condition. -/
structure Findable (count : ℕ) : Prop where
  ends : ∀ i < count, Reached lists number i → ∀ e ∈ seen lists i, EndsInCopy e.text
  condition : ∀ e, firstEntry lists number (List.range count) = some e → e.condition ≠ -1
  visible : ∀ e, firstEntry lists number (List.range count) = some e →
    ∃ i < count, Reached lists number i ∧
      ∃ e', (seen lists i).find? (·.number = number) = some e' ∧ e'.condition = e.condition

end Lists

/-! ## Reading the list of a slot -/

section Slot

variable {cfg : Config} {property : Ptr → String → Option Iter} {last : ℕ → ℕ → Option Char}
  {context : Option DbusContext} {lists : ℕ → Option (List ListedNumber)} {number : String} {i : ℕ}

theorem isValidSlotid_natCast (hi : i < cfg.modemActiveCount) : isValidSlotid cfg i = true := by
  simpa [isValidSlotid] using hi

/-- The entries that the loop over the property reads, and the array that it writes them to. -/
theorem getEccList_flatMap_encode (es : List ListedNumber) (last : ℕ → Option Char) :
    Call.getEccList last 0 ((es.flatMap ListedNumber.encode).map .string)
        (List.replicate Call.maxEccListSize ⟨.null, 0, 0⟩) =
      ((((es.take Call.maxEccListSize).map fun e => (e.number, some e.text)).zipIdx).mapM
        (Call.copiedEntry last)).map fun infos => ((infos.length : ℤ),
          infos ++ (List.replicate Call.maxEccListSize ⟨.null, 0, 0⟩).drop infos.length) := by
  rw [Call.getEccList_eq fun _ => by decide, ListedNumber.pairs_flatMap_encode, Nat.sub_zero,
    ← List.map_take, Option.map_eq_bind]
  refine Option.bind_congr fun infos hinfos => ?_
  have hlen : infos.length ≤
      (List.replicate Call.maxEccListSize (⟨.null, 0, 0⟩ : EccInfo)).length := by
    rw [length_of_mapM_eq_some hinfos, List.length_zipIdx, List.length_map, List.length_take,
      List.length_replicate]
    exact Nat.min_le_left _ _
  rw [Cells.writeFrom_zero hlen, Option.map_some, Nat.zero_add]
  rfl

/-- A list whose texts end in the copy is read up to the thirtieth entry. -/
theorem slotList_of_ends (hi : i < cfg.modemActiveCount) {es : List ListedNumber}
    (hlist : lists i = some es) (hoffered : Offered property context i (lists i))
    (hends : ∀ e ∈ seen lists i, EndsInCopy e.text) :
    ∃ rest, Call.slotList cfg property last context i =
      some (((seen lists i).length : ℤ), (seen lists i).map ListedNumber.toInfo ++ rest) := by
  rw [hlist] at hoffered
  obtain ⟨ctx, rfl, hready, hoffers⟩ := hoffered
  have hseen : seen lists i = es.take Call.maxEccListSize := by
    rw [seen, listed, hlist, Option.getD_some]
  rw [hseen] at hends ⊢
  have hread : ((es.take Call.maxEccListSize).map fun e => (e.number, some e.text)).zipIdx.mapM
      (Call.copiedEntry (last i)) = some ((es.take Call.maxEccListSize).map ListedNumber.toInfo) :=
    mapM_copiedEntry_iff.mpr fun p hp => by
      have hmem := List.mem_of_getElem? (List.mem_zipIdx_iff_getElem?.mp hp)
      rw [copiedCondition_condCat (hends _ hmem), p.1.reads]
      rfl
  rw [Call.slotList, tapiCallGetEccList_of_offersTexts (isValidSlotid_natCast hi) hready hoffers,
    getEccList_flatMap_encode, hread, Option.map_some, List.length_map]
  exact ⟨_, rfl⟩

/-- With a digit behind a text that does not end in the copy, the list cannot be read. -/
theorem slotList_eq_none (hi : i < cfg.modemActiveCount)
    (hoffered : Offered property context i (lists i)) {e : ListedNumber} (he : e ∈ seen lists i)
    (hends : ¬ EndsInCopy e.text) :
    Call.slotList cfg property (fun _ _ => some '9') context i = none := by
  cases hlist : lists i with
  | none =>
    rw [seen, listed, hlist] at he
    cases he
  | some es =>
    rw [hlist] at hoffered
    obtain ⟨ctx, rfl, hready, hoffers⟩ := hoffered
    rw [seen, listed, hlist, Option.getD_some] at he
    have hread : ((es.take Call.maxEccListSize).map fun e => (e.number, some e.text)).zipIdx.mapM
        (Call.copiedEntry fun _ => some '9') = none := by
      by_contra hsome
      obtain ⟨infos, hinfos⟩ := Option.ne_none_iff_exists'.mp hsome
      obtain ⟨k, hk⟩ := List.mem_iff_getElem?.mp he
      have hplace : ((es.take Call.maxEccListSize).map
          fun e => (e.number, some e.text)).zipIdx[k]? = some ((e.number, some e.text), k) := by
        rw [List.getElem?_zipIdx, List.getElem?_map, hk]
        simp
      have hentry := isSome_mapM_iff.mp (Option.isSome_of_eq_some hinfos) _
        (List.mem_of_getElem? hplace)
      rw [Call.copiedEntry, Option.bind_some, copiedCondition_eq_none hends] at hentry
      cases hentry
    rw [Call.slotList, tapiCallGetEccList_of_offersTexts (isValidSlotid_natCast hi) hready hoffers,
      getEccList_flatMap_encode, hread, Option.map_none]

/-- Without a list, the result is not positive. -/
theorem slotList_of_unoffered (hi : i < cfg.modemActiveCount)
    (hoffered : Offered property context i none) :
    ∃ code out, Call.slotList cfg property last context i = some (code, out) ∧ code ≤ 0 := by
  rw [Call.slotList]
  generalize List.replicate Call.maxEccListSize (⟨.null, 0, 0⟩ : EccInfo) = out
  cases context with
  | none => exact ⟨-einval, out, rfl, by decide⟩
  | some ctx =>
    by_cases hready : ctx.clientReady = true
    · -- what is offered is no array, and the loop is not entered
      have hread : ∀ value, OffersValue property ctx i value →
          Call.readEccList (last i) value out = some (0, out) := by
        intro value hvalue
        rw [Call.readEccList]
        rintro type elements rest rfl
        exact hoffered ctx type elements rest rfl hready hvalue
      simp only [Call.tapiCallGetEccList, isValidSlotid_natCast hi, hready, Bool.not_true,
        Bool.false_eq_true, if_false]
      by_cases hcall : ctx.dbusProxy (i : ℤ).toNat .call = null
      · rw [if_pos hcall]
        exact ⟨-eio, out, rfl, by decide⟩
      rw [if_neg hcall]
      cases hvalue : property (ctx.dbusProxy (i : ℤ).toNat .call) "EmergencyNumbers" with
      | some value => exact ⟨0, out, hread value ⟨hcall, .inl hvalue⟩, Int.le_refl 0⟩
      | none =>
        by_cases hmodem : ctx.dbusProxy (i : ℤ).toNat .modem = null
        · rw [if_pos hmodem]
          exact ⟨-eio, out, rfl, by decide⟩
        rw [if_neg hmodem]
        cases hvalue' : property (ctx.dbusProxy (i : ℤ).toNat .modem) "EmergencyNumbers" with
        | some value =>
          exact ⟨0, out, hread value ⟨hcall, .inr ⟨hvalue, hmodem, hvalue'⟩⟩, Int.le_refl 0⟩
        | none => exact ⟨-einval, out, rfl, by decide⟩
    · refine ⟨-eagain, out, ?_, by decide⟩
      simp [Call.tapiCallGetEccList, isValidSlotid_natCast hi, hready]

end Slot

/-! ## What the search gets to -/

section Search

variable {cfg : Config} {property : Ptr → String → Option Iter} {last : ℕ → ℕ → Option Char}
  {context : Option DbusContext} {lists : ℕ → Option (List ListedNumber)} {number : String} {i : ℕ}
  {slots : List ℕ}

theorem searchList_map (number : String) (es : List ListedNumber) :
    Call.searchList number (es.map ListedNumber.toInfo) =
      some ((es.find? (·.number = number)).map ListedNumber.condition) := by
  induction es with
  | nil => rfl
  | cons e es ih =>
    rw [List.map_cons, Call.searchList, ListedNumber.toInfo, List.find?_cons]
    by_cases h : number = e.number
    · simp [h]
    · simp [h, Ne.symm h, ih]

/-- The search ends at a slot without entries, and at one that has the number. -/
theorem searchSlots_cons (hi : i < cfg.modemActiveCount)
    (hoffered : Offered property context i (lists i))
    (hends : ∀ e ∈ seen lists i, EndsInCopy e.text) :
    Call.searchSlots (Call.slotList cfg property last context) number (i :: slots) =
      if listed lists i = [] then some (-1)
      else
        match (seen lists i).find? (·.number = number) with
        | some e => some e.condition
        | none => Call.searchSlots (Call.slotList cfg property last context) number slots := by
  rw [Call.searchSlots]
  cases hlist : lists i with
  | none =>
    rw [hlist] at hoffered
    obtain ⟨code, out, hread, hle⟩ : ∃ code out,
        Call.slotList cfg property last context i = some (code, out) ∧ code ≤ 0 :=
      slotList_of_unoffered hi hoffered
    have hlisted : listed lists i = [] := by
      rw [listed, hlist]
      rfl
    simp [hread, hle, hlisted]
  | some es =>
    obtain ⟨rest, hread⟩ : ∃ rest, Call.slotList cfg property last context i =
        some (((seen lists i).length : ℤ), (seen lists i).map ListedNumber.toInfo ++ rest) :=
      slotList_of_ends hi hlist hoffered hends
    have hlisted : listed lists i = es := by
      rw [listed, hlist, Option.getD_some]
    have hsize : ((seen lists i).length : ℤ) ≤ 0 ↔ listed lists i = [] := by
      rw [seen, hlisted, List.length_take]
      cases es with
      | nil => simp
      | cons e es =>
        simp [Call.maxEccListSize]
    rw [hread, Option.bind_some]
    dsimp only
    rw [if_congr hsize rfl rfl]
    split
    · rfl
    · rw [Int.toNat_natCast, ← List.length_map (f := ListedNumber.toInfo), List.take_left,
        searchList_map, Option.bind_some]
      cases (seen lists i).find? (·.number = number) with
      | none => rfl
      | some e => rfl

/-- The search gets to a slot if those in front of it have entries, and none with the number. -/
theorem searchSlots_of_reached (hi : i ≤ cfg.modemActiveCount)
    (hoffered : ∀ i < cfg.modemActiveCount, Offered property context i (lists i))
    (hends : ∀ j < i, ∀ e ∈ seen lists j, EndsInCopy e.text) (hreached : Reached lists number i) :
    Call.tapiCallIsEmergencyNumber cfg property last context number =
      Call.searchSlots (Call.slotList cfg property last context) number
        ((List.range cfg.modemActiveCount).drop i) := by
  induction i with
  | zero => rfl
  | succ i ih =>
    have hlt : i < cfg.modemActiveCount := hi
    have hrange : i < (List.range cfg.modemActiveCount).length := by
      rwa [List.length_range]
    obtain ⟨hlisted, hnumber⟩ := hreached i (Nat.lt_succ_self i)
    have hnone : (seen lists i).find? (·.number = number) = none := by
      simpa using hnumber
    rw [ih (by omega) (fun j hj => hends j (by omega)) (fun j hj => hreached j (by omega)),
      List.drop_eq_getElem_cons hrange, List.getElem_range,
      searchSlots_cons hlt (hoffered i hlt) (hends i (Nat.lt_succ_self i)), if_neg hlisted, hnone]

theorem Reached.mono {j : ℕ} (h : Reached lists number i) (hj : j ≤ i) : Reached lists number j :=
  fun k hk => h k (Nat.lt_of_lt_of_le hk hj)

/-- The search yields the condition of the entry that it gets to. -/
theorem search_of_found {e : ListedNumber} (hi : i < cfg.modemActiveCount)
    (hoffered : ∀ i < cfg.modemActiveCount, Offered property context i (lists i))
    (hends : ∀ i < cfg.modemActiveCount, Reached lists number i →
      ∀ e ∈ seen lists i, EndsInCopy e.text)
    (hreached : Reached lists number i) (he : (seen lists i).find? (·.number = number) = some e) :
    Call.tapiCallIsEmergencyNumber cfg property last context number = some e.condition := by
  have hrange : i < (List.range cfg.modemActiveCount).length := by
    rwa [List.length_range]
  have hlisted : listed lists i ≠ [] := by
    intro hnil
    rw [seen, hnil] at he
    cases he
  rw [searchSlots_of_reached hi.le hoffered
      (fun j hj => hends j (hj.trans hi) (hreached.mono hj.le)) hreached,
    List.drop_eq_getElem_cons hrange, List.getElem_range,
    searchSlots_cons hi (hoffered i hi) (hends i hi hreached), if_neg hlisted, he]

/-- The slot at which the search ends, if it does not get through. -/
theorem exists_reached (lists : ℕ → Option (List ListedNumber)) (number : String) (count : ℕ) :
    ∃ stop ≤ count, Reached lists number stop ∧
      (stop < count → listed lists stop = [] ∨
        ∃ e, (seen lists stop).find? (·.number = number) = some e) := by
  induction count with
  | zero => exact ⟨0, le_rfl, nofun, nofun⟩
  | succ count ih =>
    obtain ⟨stop, hle, hreached, hstop⟩ := ih
    obtain hlt | rfl := Nat.lt_or_eq_of_le hle
    · exact ⟨stop, by omega, hreached, fun _ => hstop hlt⟩
    by_cases hlisted : listed lists stop = []
    · exact ⟨stop, by omega, hreached, fun _ => .inl hlisted⟩
    cases hfind : (seen lists stop).find? (·.number = number) with
    | some e => exact ⟨stop, by omega, hreached, fun _ => .inr ⟨e, hfind⟩⟩
    | none =>
      refine ⟨stop + 1, le_rfl, fun j hj => ?_, fun hlt => absurd hlt (Nat.lt_irrefl _)⟩
      obtain hlt | rfl := Nat.lt_succ_iff_lt_or_eq.mp hj
      · exact hreached j hlt
      · exact ⟨hlisted, by simpa using hfind⟩

/-- Without an entry in a slot that it gets to, the search yields -1. -/
theorem search_of_not_found
    (hoffered : ∀ i < cfg.modemActiveCount, Offered property context i (lists i))
    (hends : ∀ i < cfg.modemActiveCount, Reached lists number i →
      ∀ e ∈ seen lists i, EndsInCopy e.text)
    (hnone : ∀ i < cfg.modemActiveCount, Reached lists number i →
      (seen lists i).find? (·.number = number) = none) :
    Call.tapiCallIsEmergencyNumber cfg property last context number = some (-1) := by
  obtain ⟨stop, hle, hreached, hstop⟩ := exists_reached lists number cfg.modemActiveCount
  rw [searchSlots_of_reached hle hoffered
    (fun j hj => hends j (by omega) (hreached.mono hj.le)) hreached]
  by_cases hlt : stop < cfg.modemActiveCount
  · have hrange : stop < (List.range cfg.modemActiveCount).length := by
      rwa [List.length_range]
    have hlisted : listed lists stop = [] :=
      (hstop hlt).resolve_right (by simp [hnone stop hlt hreached])
    rw [List.drop_eq_getElem_cons hrange, List.getElem_range,
      searchSlots_cons hlt (hoffered stop hlt) (hends stop hlt hreached), if_pos hlisted]
  · rw [List.drop_eq_nil_of_le (by rw [List.length_range]; omega)]
    rfl

end Search

/-! ## The first entry with a number -/

variable {lists : ℕ → Option (List ListedNumber)} {number : String} {count : ℕ}

theorem firstEntry_eq_none_iff {slots : List ℕ} :
    firstEntry lists number slots = none ↔ ∀ i ∈ slots, ¬ Contains lists number i := by
  simp [firstEntry, Contains]

theorem contains_of_firstEntry {slots : List ℕ} {e : ListedNumber}
    (h : firstEntry lists number slots = some e) : ∃ i ∈ slots, Contains lists number i := by
  by_contra hnone
  push Not at hnone
  rw [firstEntry_eq_none_iff.mpr hnone] at h
  cases h

/-- An undefined search finds nothing, not even that there is nothing to be found. -/
theorem not_findsFirst_none : ¬ FindsFirst lists number count none := by
  rintro ⟨hfirst, habsent⟩
  cases hentry : firstEntry lists number (List.range count) with
  | some e => cases hfirst e hentry
  | none =>
    have hno := firstEntry_eq_none_iff.mp hentry
    cases habsent.mpr fun i hi => hno i (List.mem_range.mpr hi)

section Search

variable {cfg : Config} {property : Ptr → String → Option Iter} {context : Option DbusContext}

/-- A search that is right, whatever the array that is copied to has held, gets to texts only that
end in the copy. -/
theorem ends_of_findsFirst
    (hoffered : ∀ i < cfg.modemActiveCount, Offered property context i (lists i))
    (h : ∀ last, FindsFirst lists number cfg.modemActiveCount
      (Call.tapiCallIsEmergencyNumber cfg property last context number)) {i : ℕ}
    (hi : i < cfg.modemActiveCount) (hreached : Reached lists number i) :
    ∀ e ∈ seen lists i, EndsInCopy e.text := by
  induction i using Nat.strong_induction_on with
  | _ i ih =>
    intro e he
    by_contra hends
    -- the slots in front are read, and the reading of this one is undefined
    have hrange : i < (List.range cfg.modemActiveCount).length := by
      rwa [List.length_range]
    have hright := h fun _ _ => some '9'
    rw [searchSlots_of_reached hi.le hoffered
        (fun j hj => ih j hj (hj.trans hi) (hreached.mono hj.le)) hreached,
      List.drop_eq_getElem_cons hrange, List.getElem_range, Call.searchSlots,
      slotList_eq_none hi (hoffered i hi) he hends] at hright
    exact not_findsFirst_none hright

/-- The search is right, whatever the array that is copied to has held, exactly if the first entry
with the number can be found. -/
theorem findsFirst_iff
    (hoffered : ∀ i < cfg.modemActiveCount, Offered property context i (lists i)) :
    (∀ last, FindsFirst lists number cfg.modemActiveCount
        (Call.tapiCallIsEmergencyNumber cfg property last context number)) ↔
      Findable lists number cfg.modemActiveCount := by
  constructor
  · intro h
    have hends := fun i hi => ends_of_findsFirst hoffered h (i := i) hi
    obtain ⟨hfirst, habsent⟩ := h fun _ _ => none
    have hlisted : ∀ e, firstEntry lists number (List.range cfg.modemActiveCount) = some e →
        Call.tapiCallIsEmergencyNumber cfg property (fun _ _ => none) context number ≠
          some (-1) := by
      intro e he hminus
      obtain ⟨i, hi, hcontains⟩ := contains_of_firstEntry he
      exact habsent.mp hminus i (List.mem_range.mp hi) hcontains
    refine ⟨hends, fun e he hminus => ?_, fun e he => ?_⟩
    · exact hlisted e he (by rw [hfirst e he, hminus])
    · by_contra hvisible
      -- no slot that the search gets to has the number
      refine hlisted e he (search_of_not_found hoffered hends fun i hi hreached => ?_)
      cases hfind : (seen lists i).find? (·.number = number) with
      | none => rfl
      | some e' =>
        have hresult := (hfirst e he).symm.trans (search_of_found hi hoffered hends hreached hfind)
        rw [Option.some_inj] at hresult
        exact absurd ⟨i, hi, hreached, e', hfind, hresult.symm⟩ hvisible
  · rintro ⟨hends, hcondition, hvisible⟩ last
    cases hentry : firstEntry lists number (List.range cfg.modemActiveCount) with
    | some e =>
      obtain ⟨i, hi, hreached, e', hfind, hsame⟩ := hvisible e hentry
      have hresult : Call.tapiCallIsEmergencyNumber cfg property last context number =
          some e.condition := by
        rw [search_of_found hi hoffered hends hreached hfind, hsame]
      refine ⟨fun e' he' => ?_, fun hminus => ?_, fun hnone => ?_⟩
      · rw [hresult, Option.some_inj.mp (hentry.symm.trans he')]
      · rw [hresult, Option.some_inj] at hminus
        exact absurd hminus (hcondition e hentry)
      · obtain ⟨k, hk, hcontains⟩ := contains_of_firstEntry hentry
        exact absurd hcontains (hnone k (List.mem_range.mp hk))
    | none =>
      have hno := firstEntry_eq_none_iff.mp hentry
      refine ⟨fun e he => ?_, fun _ i hi => hno i (List.mem_range.mpr hi), fun _ => ?_⟩
      · rw [hentry] at he
        cases he
      · refine search_of_not_found hoffered hends fun i hi _ => ?_
        rw [List.find?_eq_none]
        intro e he hnumber
        exact hno i (List.mem_range.mpr hi)
          ⟨e, List.mem_of_mem_take he, of_decide_eq_true hnumber⟩

end Search

/-! ## A list behind a slot without one -/

/-- The entry of a list as it is offered. -/
def EmergencyNumber.listed (e : EmergencyNumber) : ListedNumber where
  number := e.number
  text := e.text
  category := e.category.val
  condition := e.condition.val
  reads := EmergencyNumber.eccCondition_text
  isInt := by
    have hcategory := e.category.isLt
    have hcondition := e.condition.isLt
    constructor <;> constructor <;> omega

/-- A context in which each slot has proxies of its own. -/
def proxyPerSlot : DbusContext := { idleContext with dbusProxy i _ := i + 1 }

/-- Only the proxies of the second slot know the property. -/
def secondSlotOnly (proxy : Ptr) (_ : String) : Option Iter :=
  if proxy = 2 then some [eccArray common.listed.encode] else none

def secondSlotLists : ℕ → Option (List ListedNumber)
  | 1 => some [common.listed]
  | _ => none

theorem offered_secondSlotOnly :
    ∀ i < twoModems.modemActiveCount,
      Offered secondSlotOnly (some proxyPerSlot) i (secondSlotLists i)
  | 0, _ => by
    rintro ctx type elements rest ⟨⟩ - ⟨-, hvalue | ⟨-, -, hvalue⟩⟩
    · cases hvalue
    · cases hvalue
  | 1, _ => ⟨proxyPerSlot, rfl, rfl, by decide, .inl rfl⟩

theorem findsFirst_iff_secondSlotOnly :
    (∀ i < twoModems.modemActiveCount,
        Offered secondSlotOnly (some proxyPerSlot) i (secondSlotLists i)) ∧
      ((∀ last, FindsFirst secondSlotLists "112" twoModems.modemActiveCount
          (Call.tapiCallIsEmergencyNumber twoModems secondSlotOnly last (some proxyPerSlot)
            "112")) ↔
        Findable secondSlotLists "112" twoModems.modemActiveCount) :=
  ⟨offered_secondSlotOnly, findsFirst_iff offered_secondSlotOnly⟩

/-- The number that only the second slot lists is not found, as the first slot has no list. -/
theorem not_findsFirst_secondSlotOnly :
    (∀ i < twoModems.modemActiveCount,
        Offered secondSlotOnly (some proxyPerSlot) i (secondSlotLists i)) ∧
      ¬ ∀ last, FindsFirst secondSlotLists "112" twoModems.modemActiveCount
        (Call.tapiCallIsEmergencyNumber twoModems secondSlotOnly last (some proxyPerSlot)
          "112") := by
  refine ⟨offered_secondSlotOnly, fun h => ?_⟩
  have hresult := (h fun _ _ => none).first common.listed rfl
  revert hresult
  decide

end Ecc

end Telephony
