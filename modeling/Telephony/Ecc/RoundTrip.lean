import Telephony.Cells
import Telephony.Ecc.Copy
import Telephony.Manager.Signal
import Mathlib.Data.List.Zip

/-!
# Emergency numbers

oFono publishes the emergency numbers as an array of texts, in which each number is followed by its
category and its condition. Three functions read the array: one reads the property, one the signal
of the voice calls, and one the signal of the modem.

The first copies four characters of what follows a number into an array of five, so that only
categories of one digit leave room for the end of the text.

## Main definitions

* `Ecc.EmergencyNumber` — an entry of the list, `Ecc.eccSignal` — the signal that carries a list
* `Call.tapiCallGetEccList` — the function that reads the property
* `Ecc.DecodesBack` — all three functions yield the list that was encoded

## Main results

* `Call.getEccList_eq`, `Call.eccEntries_eq` — what the loops over the property and over a signal
  read and write
* `Ecc.decodesBack_iff` — the list is decoded by all three functions exactly if all categories
  have one digit
-/

namespace Telephony

open DBus

/-! ## Entries -/

namespace Ecc

/-- An emergency number with its category and its condition, within their documented ranges. -/
structure EmergencyNumber where
  number : String
  category : Fin 128
  condition : Fin 4
  deriving DecidableEq, Repr

namespace EmergencyNumber

/-- The text behind the number. -/
def text (e : EmergencyNumber) : String :=
  e.category.val.repr ++ "," ++ e.condition.val.repr

/-- The texts of an entry. -/
def encode (e : EmergencyNumber) : List String := [e.number, e.text]

/-- The structure that is to be read back. -/
def decoded (e : EmergencyNumber) : EccInfo := ⟨.text e.number, e.category.val, e.condition.val⟩

end EmergencyNumber

/-- The value of the property. -/
def eccArray (texts : List String) : Value := .array (.text .string) (texts.map .string)

theorem typed_eccArray (texts : List String) : (eccArray texts).typed = true := by
  simp [eccArray, Value.typed]

/-- The signal that announces the property. -/
def eccSignal (texts : List String) : Message where
  type := .signal
  member := "PropertyChanged"
  args := [.string "EmergencyNumbers", .variant (eccArray texts)]
  typed := by simp [Value.typed, typed_eccArray]

end Ecc

/-! ## Reading the property -/

namespace Call

/-- The loop of `tapi_call_get_ecc_list`, from an index of the caller's array on. It reads the text
behind a number without a check, and `last` is what the last byte of `cond_cat` is in each
round. -/
def getEccList (last : ℕ → Option Char) (index : ℕ) :
    Iter → List EccInfo → Option (ℤ × List EccInfo)
  | .string eccNum :: .string text :: array, out =>
    if index < out.length then
      (copiedCondition eccNum (condCat (last index) text)).bind fun info =>
        if index + 1 ≥ maxEccListSize then some ((index + 1 : ℕ), out.set index info)
        else getEccList last (index + 1) array (out.set index info)
    else none
  | .string _ :: _, _ => none
  | _ :: array, out =>
    if index + 1 ≥ maxEccListSize then some ((index + 1 : ℕ), out)
    else getEccList last (index + 1) array out
  | [], out => some (index, out)

/-- The texts of an array in twos: each number comes with what stands behind it, if anything
does. -/
def pairs : List String → List (String × Option String)
  | number :: text :: texts => (number, some text) :: pairs texts
  | [number] => [(number, none)]
  | [] => []

/-- The entry that the loop over the property reads for a number at an index. -/
def copiedEntry (last : ℕ → Option Char) (p : (String × Option String) × ℕ) : Option EccInfo :=
  p.1.2.bind fun text => copiedCondition p.1.1 (condCat (last p.2) text)

/-- The entry that the loop over a signal reads for a number. -/
def signalEntry (p : String × Option String) : Option EccInfo :=
  match p.2 with
  | some text => eccCondition p.1 text
  | none => some ⟨.text p.1, 0, 0⟩

section Loop

variable {last : ℕ → Option Char} {index : ℕ} {texts : List String} {out : List EccInfo}

/-- The entries that the loop reads, as many as there is room for, are written one behind the
other. -/
theorem getEccList_eq (h : texts ≠ [] → index < maxEccListSize) :
    getEccList last index (texts.map .string) out =
      ((((pairs texts).take (maxEccListSize - index)).zipIdx index).mapM (copiedEntry last)).bind
        fun infos => (Cells.writeFrom out index infos).map
          fun out => (((index + infos.length : ℕ) : ℤ), out) := by
  induction texts using pairs.induct generalizing index out with
  | case1 number text texts ih =>
    have hroom : maxEccListSize - index = maxEccListSize - (index + 1) + 1 := by
      have := h (List.cons_ne_nil _ _)
      omega
    rw [List.map_cons, List.map_cons, getEccList, pairs, hroom, List.take_succ_cons,
      List.zipIdx_cons, List.mapM_cons]
    simp only [copiedEntry, Option.bind_some, Option.bind_eq_bind, Option.pure_def]
    cases copiedCondition number (condCat (last index) text) with
    | none => simp
    | some info =>
      -- behind the last entry there is no room, and nothing is read
      have hrest : (if index + 1 ≥ maxEccListSize then
            some (((index + 1 : ℕ) : ℤ), out.set index info)
          else getEccList last (index + 1) (texts.map .string) (out.set index info)) =
          ((((pairs texts).take (maxEccListSize - (index + 1))).zipIdx (index + 1)).mapM
            (copiedEntry last)).bind
              fun infos => (Cells.writeFrom (out.set index info) (index + 1) infos).map
                fun out => (((index + 1 + infos.length : ℕ) : ℤ), out) := by
        split
        · rename_i hfull
          have hnone : maxEccListSize - (index + 1) = 0 := by omega
          simp [hnone]
        · exact ih fun _ => by omega
      rw [Option.bind_some, Option.bind_some, hrest, Option.bind_assoc]
      by_cases hindex : index < out.length
      · rw [if_pos hindex]
        refine Option.bind_congr fun infos _ => ?_
        have hcount : index + 1 + infos.length = index + (infos.length + 1) := by omega
        simp [Cells.writeFrom_cons, Cells.write_of_lt hindex, hcount]
      · simp [hindex, Cells.writeFrom_cons, Cells.write_of_le (Nat.not_lt.mp hindex)]
  | case2 number =>
    have hroom : maxEccListSize - index = maxEccListSize - (index + 1) + 1 := by
      have := h (List.cons_ne_nil _ _)
      omega
    rw [pairs, hroom]
    rfl
  | case3 => simp [getEccList, pairs]

/-- The loop of the signal functions reads as many entries as there is room for. -/
theorem eccEntries_eq {room : ℕ} :
    eccEntries room (texts.map .string) = ((pairs texts).take room).mapM signalEntry := by
  induction texts using pairs.induct generalizing room with
  | case1 number text texts ih =>
    cases room with
    | zero => rfl
    | succ room =>
      have hentry : signalEntry (number, some text) = eccCondition number text := rfl
      rw [List.map_cons, List.map_cons, eccEntries, ih, pairs, List.take_succ_cons, List.mapM_cons,
        hentry]
      simp [Option.map_eq_bind]
  | case2 number => cases room <;> simp [eccEntries, pairs, signalEntry]
  | case3 => cases room <;> simp [eccEntries, pairs]

end Loop

/-- The end of `tapi_call_get_ecc_list`, once it has found the property. -/
def readEccList (last : ℕ → Option Char) (list : Iter) (out : List EccInfo) :
    Option (ℤ × List EccInfo) :=
  match list with
  | .array _ elements :: _ => getEccList last 0 elements out
  | _ => some (0, out)

/-- `tapi_call_get_ecc_list`: the return value, and the caller's array. `property` is what
`g_dbus_proxy_get_property` finds. -/
def tapiCallGetEccList (cfg : Config) (property : Ptr → String → Option Iter)
    (last : ℕ → Option Char) (context : Option DbusContext) (slotId : ℤ) (out : List EccInfo) :
    Option (ℤ × List EccInfo) :=
  match context with
  | none => some (-einval, out)
  | some ctx =>
    if !isValidSlotid cfg slotId then some (-einval, out)
    else if !ctx.clientReady then some (-eagain, out)
    else
      let proxy := ctx.dbusProxy slotId.toNat .call
      if proxy = null then some (-eio, out)
      else
        match property proxy "EmergencyNumbers" with
        | some list => readEccList last list out
        | none =>
          let proxy := ctx.dbusProxy slotId.toNat .modem
          if proxy = null then some (-eio, out)
          else
            match property proxy "EmergencyNumbers" with
            | some list => readEccList last list out
            | none => some (-einval, out)

end Call

/-! ## Decoding an entry -/

namespace Ecc

namespace EmergencyNumber

variable {e : EmergencyNumber} {eccNum : String}

/-- A category and a condition that are joined by a comma are told apart. -/
theorem eccCondition_join {condition : String} {n : ℕ} (hne : condition ≠ "")
    (hcomma : ',' ∉ condition.toList) :
    Call.eccCondition eccNum (n.repr ++ "," ++ condition) =
      some ⟨.text eccNum, n, atoi condition⟩ := by
  have hnum : ',' ∉ n.repr.toList := fun h => by simpa using isDigit_of_mem_repr h
  have htokens : strtok (n.repr ++ "," ++ condition) ',' = [n.repr, condition] := by
    have hsingleton : "," = String.singleton ',' := rfl
    rw [hsingleton, strtok_append hnum Nat.repr_ne_empty, strtok_of_not_mem hcomma hne]
  rw [Call.eccCondition, htokens]
  simp only [atoi_repr]

/-- The text of an entry is decoded to what it stands for. -/
theorem eccCondition_text : Call.eccCondition e.number e.text = some e.decoded := by
  have hcomma : ',' ∉ e.condition.val.repr.toList := fun h => by
    simpa using isDigit_of_mem_repr h
  rw [text, eccCondition_join Nat.repr_ne_empty hcomma, atoi_repr, decoded]

theorem utf8ByteSize_text : e.text.utf8ByteSize = e.category.val.repr.length + 2 := by
  have hcondition : e.condition.val.repr.length = 1 := by
    have hle := (Nat.length_repr_le_iff (n := e.condition.val) Nat.one_pos).mpr (by omega)
    have hpos := Nat.length_repr_pos (n := e.condition.val)
    omega
  have hcomma : ",".utf8ByteSize = 1 := rfl
  rw [text, String.utf8ByteSize_append, String.utf8ByteSize_append, utf8ByteSize_repr,
    utf8ByteSize_repr, hcondition, hcomma]

/-- Only a category of one digit leaves room for the end of the text. -/
theorem utf8ByteSize_text_lt_iff : e.text.utf8ByteSize < 4 ↔ e.category.val < 10 := by
  have hlen := Nat.length_repr_le_iff (n := e.category.val) Nat.one_pos
  rw [utf8ByteSize_text]
  omega

/-- The condition behind a category of two digits or three has no end in the copy. -/
theorem not_endsInCopy_text (h : 10 ≤ e.category.val) : ¬ EndsInCopy e.text := by
  have hlong : ¬ e.text.utf8ByteSize < 4 := by
    rw [utf8ByteSize_text_lt_iff]
    omega
  have hlen : e.category.val.repr.toList.length ≤ 3 := by
    rw [String.length_toList]
    exact (Nat.length_repr_le_iff (by omega)).mpr (by omega)
  have hdigit : ∀ n : ℕ, ∀ c ∈ n.repr.toList, c ≠ ',' := by
    rintro n c hc rfl
    exact absurd (isDigit_of_mem_repr hc) (by decide)
  -- what of the condition is copied, next to the category and the comma
  let digits := e.condition.val.repr.toList.take (3 - e.category.val.repr.toList.length)
  have hlist : e.text.toList =
      e.category.val.repr.toList ++ ',' :: e.condition.val.repr.toList := by
    simp [text]
  have hsize : ∀ c ∈ e.text.toList, c.utf8Size = 1 := by
    intro c hc
    rw [hlist, List.mem_append, List.mem_cons] at hc
    obtain hc | rfl | hc := hc
    · exact utf8Size_of_isDigit (isDigit_of_mem_repr hc)
    · rfl
    · exact utf8Size_of_isDigit (isDigit_of_mem_repr hc)
  have htake : e.text.toList.take 4 = e.category.val.repr.toList ++ ',' :: digits := by
    have hroom : 4 - e.category.val.repr.toList.length =
        3 - e.category.val.repr.toList.length + 1 := by omega
    rw [hlist, List.take_append, List.take_of_length_le (by omega), hroom, List.take_succ_cons]
  have hhead : Call.firstFour e.text = String.ofList (e.text.toList.take 4) := by
    have hsnprintf : snprintf 4 e.text = String.ofList (e.text.toList.take 4) := by
      rw [snprintf, fitting_eq_take hsize]
    have hfull : (snprintf 4 e.text).utf8ByteSize = (e.text.toList.take 4).length := by
      rw [hsnprintf]
      exact utf8ByteSize_of_forall fun c hc => hsize c (List.mem_of_mem_take hc)
    have hfour : 4 ≤ e.text.toList.length := by
      rw [← utf8ByteSize_of_forall hsize, String.ofList_toList]
      omega
    rw [List.length_take, Nat.min_eq_left hfour] at hfull
    rw [Call.firstFour]
    simp only [hfull, Nat.lt_irrefl, if_false]
    exact hsnprintf
  -- the second token has the digits of the condition only
  have hsecond : secondToken (Call.firstFour e.text).toList = digits := by
    rw [hhead, String.toList_ofList, htake]
    exact secondToken_append_cons Nat.repr_ne_empty (hdigit _) fun c hc =>
      hdigit _ c (List.mem_of_mem_take hc)
  rw [EndsInCopy, hsecond]
  rintro (hshort | hcomma)
  · exact hlong hshort
  · exact hdigit _ _ (List.mem_of_mem_take hcomma) rfl

/-- Whatever the last byte of the array is, the entry survives the copy exactly if its category has
one digit. -/
theorem survives_iff :
    (∀ last, Call.copiedCondition e.number (Call.condCat last e.text) = some e.decoded) ↔
      e.category.val < 10 := by
  constructor
  · intro h
    by_contra hge
    have hread := h (some '9')
    rw [copiedCondition_eq_none (not_endsInCopy_text (Nat.not_lt.mp hge))] at hread
    cases hread
  · intro h last
    have hends : EndsInCopy e.text := .inl (utf8ByteSize_text_lt_iff.mpr h)
    rw [copiedCondition_condCat hends, eccCondition_text]

end EmergencyNumber

/-! ## Decoding the list -/

variable {entries : List EmergencyNumber}

/-- The elements of the array that carries a list. -/
def elements (entries : List EmergencyNumber) : Iter :=
  (entries.flatMap EmergencyNumber.encode).map .string

theorem pairs_flatMap_encode (entries : List EmergencyNumber) :
    Call.pairs (entries.flatMap EmergencyNumber.encode) =
      entries.map fun e => (e.number, some e.text) := by
  induction entries with
  | nil => rfl
  | cons e entries ih =>
    rw [List.map_cons, ← ih]
    rfl

/-- The loop of the signal functions decodes whatever it has room for. -/
theorem eccEntries_elements {room : ℕ} (h : entries.length ≤ room) :
    Call.eccEntries room (elements entries) = some (entries.map EmergencyNumber.decoded) := by
  have hroom : (entries.map fun e => (e.number, some e.text)).length ≤ room := by
    rwa [List.length_map]
  rw [elements, Call.eccEntries_eq, pairs_flatMap_encode, List.take_of_length_le hroom,
    List.mapM_map, mapM_eq_some_map_iff]
  intro e _
  rw [Function.comp_apply, Call.signalEntry]
  exact EmergencyNumber.eccCondition_text

/-- The record that reports a list. -/
def reported (entries : List EmergencyNumber) (ar : AsyncResult Payload) : AsyncResult Payload :=
  { ar with
    status := ok
    data := .eccList (entries.map EmergencyNumber.decoded)
    arg2 := entries.length }

/-- What is delivered for an array of texts are the entries that the loop reads. -/
theorem deliverEccList_eccSignal (texts : List String) (ar : AsyncResult Payload) :
    Call.deliverEccList (eccSignal texts).args ar =
      (Call.eccEntries Call.maxEccListSize (texts.map .string)).map fun infos =>
        deliver { ar with status := ok, data := .eccList infos, arg2 := infos.length } := by
  have hrecurse : (eccSignal texts).args.next.recurse =
      some [.array (.text .string) (texts.map .string)] := rfl
  rw [Call.deliverEccList, hrecurse, Option.bind_some, Iter.recurse, Option.bind_some]

theorem deliverEccList_encode (h : entries.length ≤ Call.maxEccListSize)
    (ar : AsyncResult Payload) :
    Call.deliverEccList (eccSignal (entries.flatMap EmergencyNumber.encode)).args ar =
      some (deliver (reported entries ar)) := by
  rw [deliverEccList_eccSignal, ← elements, eccEntries_elements h, Option.map_some,
    List.length_map]
  rfl

/-- The proxies of a slot offer a value of the property: the one of the voice calls, or the one of
the modem if that has none. -/
def OffersValue (property : Ptr → String → Option Iter) (ctx : DbusContext) (slotId : ℤ)
    (value : Iter) : Prop :=
  let call := ctx.dbusProxy slotId.toNat .call
  let modem := ctx.dbusProxy slotId.toNat .modem
  call ≠ null ∧ (property call "EmergencyNumbers" = some value ∨
    property call "EmergencyNumbers" = none ∧ modem ≠ null ∧
      property modem "EmergencyNumbers" = some value)

/-- The proxies of a slot offer an array of texts. -/
def OffersTexts (property : Ptr → String → Option Iter) (ctx : DbusContext) (slotId : ℤ)
    (texts : List String) : Prop :=
  OffersValue property ctx slotId [eccArray texts]

theorem tapiCallGetEccList_of_offersTexts {cfg : Config} {property : Ptr → String → Option Iter}
    {last : ℕ → Option Char} {ctx : DbusContext} {slotId : ℤ} {texts : List String}
    {out : List EccInfo} (hslot : isValidSlotid cfg slotId = true)
    (hready : ctx.clientReady = true) (hoffers : OffersTexts property ctx slotId texts) :
    Call.tapiCallGetEccList cfg property last (some ctx) slotId out =
      Call.getEccList last 0 (texts.map .string) out := by
  obtain ⟨hcall, hvalue | ⟨hnone, hmodem, hvalue⟩⟩ := hoffers
  · simp [Call.tapiCallGetEccList, hslot, hready, hcall, hvalue, Call.readEccList, eccArray]
  · simp [Call.tapiCallGetEccList, hslot, hready, hcall, hnone, hmodem, hvalue, Call.readEccList,
      eccArray]

/-- The proxies of a slot offer a list of entries. -/
def Offers (property : Ptr → String → Option Iter) (ctx : DbusContext) (slotId : ℤ)
    (entries : List EmergencyNumber) : Prop :=
  OffersTexts property ctx slotId (entries.flatMap EmergencyNumber.encode)

theorem tapiCallGetEccList_of_offers {cfg : Config} {property : Ptr → String → Option Iter}
    {last : ℕ → Option Char} {ctx : DbusContext} {slotId : ℤ} {out : List EccInfo}
    (hslot : isValidSlotid cfg slotId = true) (hready : ctx.clientReady = true)
    (hoffers : Offers property ctx slotId entries) :
    Call.tapiCallGetEccList cfg property last (some ctx) slotId out =
      Call.getEccList last 0 (elements entries) out :=
  tapiCallGetEccList_of_offersTexts hslot hready hoffers

/-- The entries that the loop over the property reads are the ones of the list exactly if each of
them survives the copy. -/
theorem mapM_copiedEntry_iff {α : Type} {rows : List α} {number text : α → String}
    {info : α → EccInfo} {last : ℕ → Option Char} :
    (rows.map fun e => (number e, some (text e))).zipIdx.mapM (Call.copiedEntry last) =
        some (rows.map info) ↔
      ∀ p ∈ rows.zipIdx,
        Call.copiedCondition (number p.1) (Call.condCat (last p.2) (text p.1)) =
          some (info p.1) := by
  have hinfo : rows.map info = rows.zipIdx.map fun p => info p.1 :=
    calc rows.map info
        = (rows.zipIdx.map Prod.fst).map info := by rw [List.zipIdx_map_fst]
      _ = rows.zipIdx.map fun p => info p.1 := List.map_map
  have hcopied : Call.copiedEntry last ∘ Prod.map (fun e => (number e, some (text e))) id =
      fun p => Call.copiedCondition (number p.1) (Call.condCat (last p.2) (text p.1)) := by
    funext p
    rw [Function.comp_apply, Call.copiedEntry, Prod.map_fst, Option.bind_some, Prod.map_snd, id_eq]
  rw [hinfo, List.zipIdx_map, List.mapM_map, hcopied, mapM_eq_some_map_iff]

/-- The function that reads the property writes the list exactly if every entry survives the
copy. -/
theorem getEccList_elements_iff {last : ℕ → Option Char} {out : List EccInfo}
    (h : entries.length ≤ Call.maxEccListSize) (hout : entries.length ≤ out.length) :
    Call.getEccList last 0 (elements entries) out =
        some ((entries.length : ℤ),
          entries.map EmergencyNumber.decoded ++ out.drop entries.length) ↔
      ∀ p ∈ entries.zipIdx,
        Call.copiedCondition p.1.number (Call.condCat (last p.2) p.1.text) = some p.1.decoded := by
  have hroom : (entries.map fun e => (e.number, some e.text)).length ≤ Call.maxEccListSize := by
    rwa [List.length_map]
  have hwrite : ∀ infos : List EccInfo, infos.length = entries.length →
      Cells.writeFrom out 0 infos = some (infos ++ out.drop entries.length) := by
    intro infos hcount
    rw [Cells.writeFrom_zero (by omega), hcount]
  -- the loop yields what the conditions yield, one after the other
  rw [elements, Call.getEccList_eq fun _ => by decide, pairs_flatMap_encode, Nat.sub_zero,
    List.take_of_length_le hroom, ← mapM_copiedEntry_iff]
  constructor
  · intro hread
    obtain ⟨infos, hinfos, hout'⟩ := Option.bind_eq_some_iff.mp hread
    have hcount : infos.length = entries.length := by
      rw [length_of_mapM_eq_some hinfos, List.length_zipIdx, List.length_map]
    rw [hwrite infos hcount, Option.map_some, Option.some_inj, Prod.mk.injEq,
      List.append_left_inj] at hout'
    rw [hinfos, hout'.2]
  · intro hread
    have hcount : (entries.map EmergencyNumber.decoded).length = entries.length := List.length_map _
    rw [hread, Option.bind_some, hwrite _ hcount, Option.map_some, hcount, Nat.zero_add]

/-- All three functions yield the list that was encoded, whatever the array that is copied to has
held. -/
structure DecodesBack (entries : List EmergencyNumber) : Prop where
  property (cfg : Config) (property : Ptr → String → Option Iter) (last : ℕ → Option Char)
    (ctx : DbusContext) (slotId : ℤ) (out : List EccInfo) :
    isValidSlotid cfg slotId = true → ctx.clientReady = true →
      Offers property ctx slotId entries → entries.length ≤ out.length →
      Call.tapiCallGetEccList cfg property last (some ctx) slotId out =
        some ((entries.length : ℤ),
          entries.map EmergencyNumber.decoded ++ out.drop entries.length)
  call (cfg : Config) (handler : AsyncHandler Payload) :
    handler.cbFunction ≠ null → handler.result.msgId = IndicationMsg.eccListChange.value →
      Call.callManagerPropertyChanged cfg .voicecallManager handler
          (eccSignal (entries.flatMap EmergencyNumber.encode)) =
        some (deliver (reported entries handler.result))
  modem (handler : AsyncHandler Payload) :
    handler.cbFunction ≠ null →
      Manager.modemEccListChange handler (eccSignal (entries.flatMap EmergencyNumber.encode)) =
        some (deliver (reported entries (Manager.eccHandler handler).result))

theorem callManagerPropertyChanged_eccSignal {cfg : Config} {handler : AsyncHandler Payload}
    (texts : List String) (hcb : handler.cbFunction ≠ null)
    (hmsg : handler.result.msgId = IndicationMsg.eccListChange.value) :
    Call.callManagerPropertyChanged cfg .voicecallManager handler (eccSignal texts) =
      Call.deliverEccList (eccSignal texts).args handler.result := by
  simp [Call.callManagerPropertyChanged, Call.tapiCallPropertyChange, withCallback_of_ne hcb,
    hmsg, eccSignal]

theorem modemEccListChange_eccSignal {handler : AsyncHandler Payload} (texts : List String)
    (hcb : handler.cbFunction ≠ null) :
    Manager.modemEccListChange handler (eccSignal texts) =
      Call.deliverEccList (eccSignal texts).args (Manager.eccHandler handler).result := by
  have hcb' : (Manager.eccHandler handler).cbFunction ≠ null := hcb
  simp [Manager.modemEccListChange, onSignal, withCallback_of_ne hcb', eccSignal, Iter.getString]

/-- The table of proxies in which every proxy offers the list. -/
def offering (entries : List EmergencyNumber) : Ptr → String → Option Iter :=
  fun _ _ => some [eccArray (entries.flatMap EmergencyNumber.encode)]

/-- The list is decoded by all three functions exactly if every category has one digit. -/
theorem decodesBack_iff (h : entries.length ≤ Call.maxEccListSize) :
    DecodesBack entries ↔ ∀ e ∈ entries, e.category.val < 10 := by
  constructor
  · intro hdecodes e he
    rw [← EmergencyNumber.survives_iff]
    intro last
    -- a proxy that offers the list, and an array that is just large enough
    let out := entries.map EmergencyNumber.decoded
    have hout : entries.length ≤ out.length := (List.length_map _).ge
    have hoffers : Offers (offering entries) idleContext 0 entries :=
      ⟨by decide, .inl rfl⟩
    have hread := hdecodes.property twoModems (offering entries) (fun _ => last) idleContext 0 out
      (by decide) rfl hoffers hout
    rw [tapiCallGetEccList_of_offers (by decide) rfl hoffers, getEccList_elements_iff h hout]
      at hread
    obtain ⟨i, hi⟩ := List.mem_iff_getElem?.mp he
    exact hread (e, i) (List.mem_zipIdx_iff_getElem?.mpr hi)
  · intro hdigit
    refine ⟨?_, fun cfg handler hcb hmsg => ?_, fun handler hcb => ?_⟩
    · intro cfg property last ctx slotId out hslot hready hoffers hout
      rw [tapiCallGetEccList_of_offers hslot hready hoffers, getEccList_elements_iff h hout]
      intro p hp
      have hmem : p.1 ∈ entries := List.mem_of_getElem? (List.mem_zipIdx_iff_getElem?.mp hp)
      exact EmergencyNumber.survives_iff.mpr (hdigit p.1 hmem) _
    · rw [callManagerPropertyChanged_eccSignal _ hcb hmsg, deliverEccList_encode h]
    · rw [modemEccListChange_eccSignal _ hcb, deliverEccList_encode h]

/-! ## A category of two digits -/

/-- A number of the fire brigade and the marine guard, the categories 4 and 8. -/
def fireAndMarine : EmergencyNumber := ⟨"119", 12, 1⟩

/-- The common number of a slot. -/
def common : EmergencyNumber := ⟨"112", 0, 1⟩

theorem decodesBack_iff_fireAndMarine :
    [fireAndMarine].length ≤ Call.maxEccListSize ∧
      (DecodesBack [fireAndMarine] ↔ ∀ e ∈ [fireAndMarine], e.category.val < 10) :=
  ⟨by decide, decodesBack_iff (by decide)⟩

/-- The condition has no end if the digit 9 lies behind the four characters. -/
theorem not_decodesBack_fireAndMarine : ¬ DecodesBack [fireAndMarine] := by
  intro h
  have hread := h.property twoModems (offering [fireAndMarine]) (fun _ => some '9') idleContext 0
    [⟨.null, 0, 0⟩] (by decide) rfl ⟨by decide, .inl rfl⟩ (by decide)
  rw [tapiCallGetEccList_of_offers (by decide) rfl ⟨by decide, .inl rfl⟩] at hread
  revert hread
  decide

end Ecc

end Telephony
