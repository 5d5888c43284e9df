import Telephony.Ecc.RoundTrip

/-!
# Arbitrary lists of emergency numbers

The list of emergency numbers comes from the network and from the modem, and nothing makes sure
that it has the form that the three decoders expect. An array of texts may have a number at its end
with nothing behind it, and the text behind a number may have fewer than two numbers in it.

Where the property is read, the second number is also lost if it does not end within the four bytes
that are copied, as the array has no end of a text behind them then.

## Main definitions

* `Ecc.entryAt` — the entry with an index, as the array has it
* `Ecc.DecodesSafely` — all three functions yield entries that the array has, and are defined
* `Ecc.TwoNumbers`, `Ecc.Complete` — what the text behind a number has to be, and the array

## Main results

* `Ecc.copied_iff` — whatever the array has held, the copy has the numbers of the text
* `Ecc.decodesSafely_iff` — the functions are safe exactly if all entries that they reach are
  complete
-/

namespace Telephony.Ecc

open DBus

/-! ## The two numbers of a text -/

section Copy

variable {text eccNum : String}

/-- The text behind a number has two numbers that an int can hold. -/
def TwoNumbers (text : String) : Prop :=
  ∃ category condition rest, strtok text ',' = category :: condition :: rest ∧
    IsInt (atoi category) ∧ IsInt (atoi condition)

/-- An entry has two numbers exactly if its text has. -/
theorem exists_eccCondition_iff :
    (∃ info, Call.eccCondition eccNum text = some info ∧ IsInt info.category ∧
        IsInt info.condition) ↔ TwoNumbers text := by
  rw [TwoNumbers, Call.eccCondition]
  constructor
  · rintro ⟨info, hinfo, hcategory, hcondition⟩
    split at hinfo
    · rename_i category condition rest htokens
      obtain rfl := Option.some_inj.mp hinfo
      exact ⟨category, condition, rest, htokens, hcategory, hcondition⟩
    · cases hinfo
  · rintro ⟨category, condition, rest, htokens, hcategory, hcondition⟩
    rw [htokens]
    exact ⟨_, rfl, hcategory, hcondition⟩

/-- Whatever the last byte of the array is, the copy has the two numbers of the text, exactly if the
second token ends within it. -/
theorem copied_iff :
    (∀ last, ∃ info, Call.copiedCondition eccNum (Call.condCat last text) = some info ∧
        Call.eccCondition eccNum text = some info ∧ IsInt info.category ∧ IsInt info.condition) ↔
      TwoNumbers text ∧ EndsInCopy text := by
  constructor
  · intro h
    obtain ⟨info, hcopy, htext, hint⟩ := h (some '9')
    refine ⟨exists_eccCondition_iff.mp ⟨info, htext, hint⟩, ?_⟩
    by_contra hends
    rw [copiedCondition_eq_none hends] at hcopy
    cases hcopy
  · rintro ⟨htwo, hends⟩ last
    obtain ⟨info, hinfo, hint⟩ := exists_eccCondition_iff.mpr htwo
    exact ⟨info, (copiedCondition_condCat hends last).trans hinfo, hinfo, hint⟩

end Copy

/-! ## Entries of an array -/

/-- The entry with an index, if the array has all of it. -/
def entryAt (texts : List String) (k : ℕ) : Option EccInfo :=
  texts[2 * k]?.bind fun eccNum => texts[2 * k + 1]?.bind fun text =>
    Call.eccCondition eccNum text

/-- Each entry is the one that the array has at its index, with numbers that an int can hold. -/
def TakenFrom (texts : List String) (infos : List EccInfo) : Prop :=
  ∀ k info, infos[k]? = some info →
    entryAt texts k = some info ∧ IsInt info.category ∧ IsInt info.condition

variable {texts : List String}

theorem getElem?_pairs (texts : List String) (k : ℕ) :
    (Call.pairs texts)[k]? = texts[2 * k]?.map fun eccNum => (eccNum, texts[2 * k + 1]?) := by
  induction texts using Call.pairs.induct generalizing k with
  | case1 eccNum text texts ih =>
    cases k with
    | zero => rfl
    | succ k =>
      have hk : 2 * (k + 1) = 2 * k + 1 + 1 := by omega
      rw [Call.pairs, List.getElem?_cons_succ, ih, hk, List.getElem?_cons_succ,
        List.getElem?_cons_succ, List.getElem?_cons_succ, List.getElem?_cons_succ]
  | case2 eccNum =>
    cases k with
    | zero => rfl
    | succ k =>
      have hk : 2 * (k + 1) = 2 * k + 1 + 1 := by omega
      simp [Call.pairs, hk]
  | case3 => simp [Call.pairs]

/-- A loop reads entries of the array exactly if it does so at each index that it reaches. -/
theorem exists_takenFrom_iff {read : (String × Option String) × ℕ → Option EccInfo} :
    (∃ infos, ((Call.pairs texts).take Call.maxEccListSize).zipIdx.mapM read = some infos ∧
        TakenFrom texts infos) ↔
      ∀ k < Call.maxEccListSize, ∀ eccNum, texts[2 * k]? = some eccNum →
        ∃ info, read ((eccNum, texts[2 * k + 1]?), k) = some info ∧
          entryAt texts k = some info ∧ IsInt info.category ∧ IsInt info.condition := by
  have hplace : ∀ k < Call.maxEccListSize,
      (((Call.pairs texts).take Call.maxEccListSize).zipIdx)[k]? =
        texts[2 * k]?.map fun eccNum => ((eccNum, texts[2 * k + 1]?), k) := by
    intro k hk
    rw [List.getElem?_zipIdx, List.getElem?_take_of_lt hk, getElem?_pairs, Option.map_map,
      Nat.zero_add]
    rfl
  constructor
  · rintro ⟨infos, hinfos, htaken⟩ k hk eccNum hnumber
    have hread := getElem?_of_mapM_eq_some hinfos k
    rw [hplace k hk, hnumber, Option.map_some, Option.bind_some] at hread
    have hlt : k < infos.length := by
      rw [length_of_mapM_eq_some hinfos]
      exact (List.getElem?_eq_some_iff.mp ((hplace k hk).trans (by rw [hnumber]; rfl))).1
    rw [List.getElem?_eq_getElem hlt] at hread
    exact ⟨infos[k], hread.symm, htaken k _ (List.getElem?_eq_getElem hlt)⟩
  · intro h
    -- every position that the loop gets to stands for a number of the array
    have hreached : ∀ k q, (((Call.pairs texts).take Call.maxEccListSize).zipIdx)[k]? = some q →
        ∃ info, read q = some info ∧
          entryAt texts k = some info ∧ IsInt info.category ∧ IsInt info.condition := by
      intro k q hq
      have hk : k < Call.maxEccListSize := by
        have hlen := (List.getElem?_eq_some_iff.mp hq).1
        rw [List.length_zipIdx, List.length_take] at hlen
        omega
      rw [hplace k hk] at hq
      obtain ⟨eccNum, hnumber, rfl⟩ := Option.map_eq_some_iff.mp hq
      exact h k hk eccNum hnumber
    have hsome : ((((Call.pairs texts).take Call.maxEccListSize).zipIdx).mapM read).isSome
        = true := by
      rw [isSome_mapM_iff]
      intro q hq
      obtain ⟨k, hk⟩ := List.mem_iff_getElem?.mp hq
      obtain ⟨info, hinfo, -⟩ := hreached k q hk
      rw [hinfo]
      rfl
    obtain ⟨infos, hinfos⟩ := Option.isSome_iff_exists.mp hsome
    refine ⟨infos, hinfos, fun k info hk => ?_⟩
    rw [getElem?_of_mapM_eq_some hinfos k] at hk
    obtain ⟨q, hq, hread⟩ := Option.bind_eq_some_iff.mp hk
    obtain ⟨info', hinfo', hentry⟩ := hreached k q hq
    obtain rfl := Option.some_inj.mp (hread.symm.trans hinfo')
    exact hentry

/-! ## The three functions -/

/-- The entries that the array has up to its limit are complete. -/
def Complete (texts : List String) : Prop :=
  ∀ k < Call.maxEccListSize, 2 * k < texts.length →
    ∃ text, texts[2 * k + 1]? = some text ∧ TwoNumbers text ∧ EndsInCopy text

/-- The record that reports entries. -/
def reporting (infos : List EccInfo) (ar : AsyncResult Payload) : AsyncResult Payload :=
  { ar with status := ok, data := .eccList infos, arg2 := infos.length }

/-- All three functions are defined on the array and yield entries of it, not more than there is
room for. -/
structure DecodesSafely (texts : List String) : Prop where
  property (cfg : Config) (property : Ptr → String → Option Iter) (last : ℕ → Option Char)
    (ctx : DbusContext) (slotId : ℤ) (out : List EccInfo) :
    isValidSlotid cfg slotId = true → ctx.clientReady = true →
      OffersTexts property ctx slotId texts → out.length = Call.maxEccListSize →
      ∃ (size : ℕ) (out' : List EccInfo),
        Call.tapiCallGetEccList cfg property last (some ctx) slotId out =
          some ((size : ℤ), out') ∧
        size ≤ Call.maxEccListSize ∧ TakenFrom texts (out'.take size)
  call (cfg : Config) (handler : AsyncHandler Payload) :
    handler.cbFunction ≠ null → handler.result.msgId = IndicationMsg.eccListChange.value →
      ∃ infos, Call.callManagerPropertyChanged cfg .voicecallManager handler (eccSignal texts) =
          some (deliver (reporting infos handler.result)) ∧
        infos.length ≤ Call.maxEccListSize ∧ TakenFrom texts infos
  modem (handler : AsyncHandler Payload) :
    handler.cbFunction ≠ null →
      ∃ infos, Manager.modemEccListChange handler (eccSignal texts) =
          some (deliver (reporting infos (Manager.eccHandler handler).result)) ∧
        infos.length ≤ Call.maxEccListSize ∧ TakenFrom texts infos

theorem length_le_of_mapM_take {α β : Type} {f : α → Option β} {as : List α} {bs : List β}
    {n : ℕ} (h : (as.take n).mapM f = some bs) : bs.length ≤ n := by
  rw [length_of_mapM_eq_some h, List.length_take]
  exact Nat.min_le_left _ _

/-- The loop over a signal reads entries of the array exactly if each text that it reaches has two
numbers. -/
theorem eccEntries_takenFrom_iff :
    (∃ infos, Call.eccEntries Call.maxEccListSize (texts.map .string) = some infos ∧
        TakenFrom texts infos) ↔
      ∀ k < Call.maxEccListSize, 2 * k < texts.length →
        ∃ text, texts[2 * k + 1]? = some text ∧ TwoNumbers text := by
  have hindexed : (((Call.pairs texts).take Call.maxEccListSize).zipIdx).mapM
        (Call.signalEntry ∘ Prod.fst) =
      Call.eccEntries Call.maxEccListSize (texts.map .string) := by
    rw [Call.eccEntries_eq, ← List.mapM_map, List.zipIdx_map_fst]
  rw [← hindexed, exists_takenFrom_iff]
  constructor
  · intro h k hk hlt
    obtain ⟨info, -, hentry, hint⟩ := h k hk texts[2 * k] (List.getElem?_eq_getElem hlt)
    obtain ⟨eccNum, hnumber, htext⟩ := Option.bind_eq_some_iff.mp hentry
    obtain ⟨text, htext, hinfo⟩ := Option.bind_eq_some_iff.mp htext
    exact ⟨text, htext, exists_eccCondition_iff.mp ⟨info, hinfo, hint⟩⟩
  · intro h k hk eccNum hnumber
    obtain ⟨text, htext, htwo⟩ := h k hk (List.getElem?_eq_some_iff.mp hnumber).1
    obtain ⟨info, hinfo, hint⟩ : ∃ info, Call.eccCondition eccNum text = some info ∧
        IsInt info.category ∧ IsInt info.condition := exists_eccCondition_iff.mpr htwo
    refine ⟨info, ?_, ?_, hint⟩
    · rw [Function.comp_apply, htext, Call.signalEntry]
      exact hinfo
    · rw [entryAt, hnumber, Option.bind_some, htext, Option.bind_some, hinfo]

/-- Whatever the array that is copied to has held, the loop over the property reads entries of the
array, exactly if the second token of each text that it reaches ends in the copy as well. -/
theorem copiedEntry_takenFrom_iff :
    (∀ last, ∃ infos, ((Call.pairs texts).take Call.maxEccListSize).zipIdx.mapM
        (Call.copiedEntry last) = some infos ∧ TakenFrom texts infos) ↔ Complete texts := by
  simp only [exists_takenFrom_iff]
  constructor
  · intro h k hk hlt
    -- the round reads a text, and with any last byte it reads the same
    have hround := fun last => h (fun _ => last) k hk texts[2 * k] (List.getElem?_eq_getElem hlt)
    obtain ⟨text, htext⟩ : ∃ text, texts[2 * k + 1]? = some text := by
      obtain ⟨info, hread, -⟩ := hround none
      obtain ⟨text, htext, -⟩ := Option.bind_eq_some_iff.mp hread
      exact ⟨text, htext⟩
    have hcopied : ∀ last, ∃ info,
        Call.copiedCondition texts[2 * k] (Call.condCat last text) = some info ∧
          Call.eccCondition texts[2 * k] text = some info ∧ IsInt info.category ∧
          IsInt info.condition := by
      intro last
      obtain ⟨info, hread, hentry, hint⟩ := hround last
      rw [Call.copiedEntry, htext, Option.bind_some] at hread
      rw [entryAt, List.getElem?_eq_getElem hlt, Option.bind_some, htext, Option.bind_some]
        at hentry
      exact ⟨info, hread, hentry, hint⟩
    exact ⟨text, htext, copied_iff.mp hcopied⟩
  · intro h last k hk eccNum hnumber
    obtain ⟨text, htext, hcomplete⟩ := h k hk (List.getElem?_eq_some_iff.mp hnumber).1
    obtain ⟨info, hcopy, hinfo, hint⟩ := copied_iff.mpr hcomplete (last k)
    refine ⟨info, ?_, ?_, hint⟩
    · rw [Call.copiedEntry, htext, Option.bind_some, hcopy]
    · rw [entryAt, hnumber, Option.bind_some, htext, Option.bind_some, hinfo]

/-- The function that reads the property is safe exactly if its loop is. -/
theorem getEccList_takenFrom_iff {last : ℕ → Option Char} {out : List EccInfo}
    (hout : out.length = Call.maxEccListSize) :
    (∃ (size : ℕ) (out' : List EccInfo),
        Call.getEccList last 0 (texts.map .string) out = some ((size : ℤ), out') ∧
          size ≤ Call.maxEccListSize ∧ TakenFrom texts (out'.take size)) ↔
      ∃ infos, ((Call.pairs texts).take Call.maxEccListSize).zipIdx.mapM
        (Call.copiedEntry last) = some infos ∧ TakenFrom texts infos := by
  have hwrite : ∀ infos : List EccInfo, infos.length ≤ Call.maxEccListSize →
      Cells.writeFrom out 0 infos = some (infos ++ out.drop infos.length) := by
    intro infos hlen
    exact Cells.writeFrom_zero (by omega)
  have hlength : ∀ infos, ((Call.pairs texts).take Call.maxEccListSize).zipIdx.mapM
      (Call.copiedEntry last) = some infos → infos.length ≤ Call.maxEccListSize := by
    intro infos hinfos
    rw [length_of_mapM_eq_some hinfos, List.length_zipIdx, List.length_take]
    exact Nat.min_le_left _ _
  rw [Call.getEccList_eq fun _ => by decide, Nat.sub_zero]
  constructor
  · rintro ⟨size, out', hread, -, htaken⟩
    obtain ⟨infos, hinfos, hout'⟩ := Option.bind_eq_some_iff.mp hread
    rw [hwrite infos (hlength infos hinfos), Option.map_some, Option.some_inj, Prod.mk.injEq,
      Nat.zero_add, Int.natCast_inj] at hout'
    obtain ⟨rfl, rfl⟩ := hout'
    rw [List.take_left] at htaken
    exact ⟨infos, hinfos, htaken⟩
  · rintro ⟨infos, hinfos, htaken⟩
    refine ⟨infos.length, infos ++ out.drop infos.length, ?_, hlength infos hinfos, ?_⟩
    · rw [hinfos, Option.bind_some, hwrite infos (hlength infos hinfos), Option.map_some,
        Nat.zero_add]
    · rwa [List.take_left]

/-- The table of proxies in which every proxy offers the array. -/
def offeringTexts (texts : List String) : Ptr → String → Option Iter :=
  fun _ _ => some [eccArray texts]

/-- The functions are safe exactly if all entries of the array up to the limit are complete. -/
theorem decodesSafely_iff : DecodesSafely texts ↔ Complete texts := by
  constructor
  · intro h
    rw [← copiedEntry_takenFrom_iff]
    intro last
    -- a proxy that offers the array, and an array of zeros
    let out : List EccInfo := List.replicate Call.maxEccListSize ⟨.null, 0, 0⟩
    have hout : out.length = Call.maxEccListSize := List.length_replicate
    have hoffers : OffersTexts (offeringTexts texts) idleContext 0 texts := ⟨by decide, .inl rfl⟩
    have hread := h.property twoModems (offeringTexts texts) last idleContext 0 out (by decide)
      rfl hoffers hout
    rwa [tapiCallGetEccList_of_offersTexts (by decide) rfl hoffers,
      getEccList_takenFrom_iff hout] at hread
  · intro h
    have hsignal : ∃ infos,
        Call.eccEntries Call.maxEccListSize (texts.map .string) = some infos ∧
          TakenFrom texts infos :=
      eccEntries_takenFrom_iff.mpr fun k hk hlt => by
        obtain ⟨text, htext, htwo, -⟩ := h k hk hlt
        exact ⟨text, htext, htwo⟩
    obtain ⟨infos, hinfos, htaken⟩ := hsignal
    have hlength : infos.length ≤ Call.maxEccListSize := by
      rw [Call.eccEntries_eq] at hinfos
      exact length_le_of_mapM_take hinfos
    have hdeliver : ∀ ar, Call.deliverEccList (eccSignal texts).args ar =
        some (deliver (reporting infos ar)) := by
      intro ar
      rw [deliverEccList_eccSignal, hinfos]
      rfl
    refine ⟨?_, fun cfg handler hcb hmsg => ⟨infos, ?_, hlength, htaken⟩,
      fun handler hcb => ⟨infos, ?_, hlength, htaken⟩⟩
    · intro cfg property last ctx slotId out hslot hready hoffers hout
      rw [tapiCallGetEccList_of_offersTexts hslot hready hoffers, getEccList_takenFrom_iff hout]
      exact copiedEntry_takenFrom_iff.mpr h last
    · rw [callManagerPropertyChanged_eccSignal _ hcb hmsg, hdeliver]
    · rw [modemEccListChange_eccSignal _ hcb, hdeliver]

/-! ## A number without a second one behind it -/

/-- The text behind the number has a category and no condition, which would be converted from
NULL. -/
theorem not_decodesSafely_categoryOnly : ¬ DecodesSafely ["112", "5"] := by
  intro h
  have hread := h.property twoModems (offeringTexts ["112", "5"]) (fun _ => none) idleContext 0
    (List.replicate Call.maxEccListSize ⟨.null, 0, 0⟩) (by decide) rfl ⟨by decide, .inl rfl⟩
    List.length_replicate
  obtain ⟨size, out', hread, -⟩ := hread
  have hnone : Call.tapiCallGetEccList twoModems (offeringTexts ["112", "5"]) (fun _ => none)
      (some idleContext) 0 (List.replicate Call.maxEccListSize ⟨.null, 0, 0⟩) = none := by
    decide
  rw [hnone] at hread
  cases hread

end Telephony.Ecc
