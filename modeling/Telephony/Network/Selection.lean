import Telephony.Dictionary
import Telephony.Encoding
import Telephony.Loop

/-!
# Choosing an operator

An application scans for operators, and registers by hand with one of those that it is shown. What
goes to the modem are the codes of the operator in the reply, by way of a structure that has room
for so much of them.

## Main definitions

* `Network.said` — what a reply says of an operator
* `Network.RegistersWith` — the operator in a place of the reply is shown, and registered with by
  what the reply says of it

## Main results

* `Network.operatorScanComplete_eq` — which operators are shown
* `Network.mcc_of_decodeOperator` and its companions — what is shown of an operator
* `Network.registersWith_iff` — which operators can be registered with
-/

namespace Telephony.Network

open DBus DBus.PropertyTable Ledger
open CallerData (Memory)

/-! ## What is shown -/

/-- A text that is looked at only if it is one. -/
def plainText : Iter → Option String
  | .string s :: _ => some s
  | _ => none

/-- What an operator says of itself under a key: the last text that is there, if there is one. -/
def said (key : String) (p : String × List (String × Value)) : String :=
  lastOf key plainText (p.2.map entry) ""

/-- The texts that are copied to an array. -/
def fits (max : ℕ) (s : String) : Bool := s.utf8ByteSize ≤ max

/-- What is shown of an operator under a key: the last text that fits. -/
def shown (key : String) (max : ℕ) (p : String × List (String × Value)) : String :=
  lastOf key (fun value => (plainText value).filter (fits max)) (p.2.map entry) ""

theorem fits_empty (max : ℕ) : fits max "" = true := by
  simp [fits]

theorem shown_eq_said_iff {key : String} {max : ℕ} {p : String × List (String × Value)} :
    shown key max p = said key p ↔ (said key p).utf8ByteSize ≤ max := by
  rw [shown, said, lastOf_filter_eq_iff (fits_empty max)]
  exact decide_eq_true_iff

/-- What a copy leaves is the text that it copies, if that fits. -/
theorem strcpyWithin_eq_getD {max : ℕ} {dst s : String} :
    strcpyWithin max dst s = ((some s).filter (fits max)).getD dst := by
  by_cases h : s.utf8ByteSize ≤ max
  · simp [strcpyWithin, fits, Option.filter, h]
  · simp [strcpyWithin, fits, Option.filter, h]

section Decoded

variable {op op' : OperatorInfo} {p : String × List (String × Value)}

theorem keeps_of_mem_operatorInfoProperties {q : String × Property OperatorInfo}
    (hq : q ∈ operatorInfoProperties) {value : Iter} {x x' : OperatorInfo}
    (h : q.2.read value x = some x') :
    x'.id = x.id ∧ (q.1 ≠ "MobileCountryCode" → x'.mcc = x.mcc) ∧
      (q.1 ≠ "MobileNetworkCode" → x'.mnc = x.mnc) ∧
      (q.1 ≠ "Technologies" → x'.technology = x.technology) := by
  simp only [operatorInfoProperties, List.mem_cons, List.not_mem_nil, or_false] at hq
  -- each property sets one field, or leaves it if the value is none
  rcases hq with rfl | rfl | rfl | rfl | rfl
  all_goals
    simp only [Property.optionalText] at h
    split at h <;> obtain rfl := Option.some_inj.mp h <;> simp

/-- A text that is copied from a value that may be none is the one that the value says, if it
fits. -/
theorem optionalText_read {max : ℕ} {get : OperatorInfo → String}
    {set : String → OperatorInfo → OperatorInfo}
    (hset : ∀ s x, get (set s x) = strcpyWithin max (get x) s) {value : Iter}
    {x x' : OperatorInfo} (h : (Property.optionalText set).read value x = some x') :
    get x' = ((plainText value).filter (fits max)).getD (get x) := by
  simp only [Property.optionalText] at h
  split at h
  · obtain rfl := Option.some_inj.mp h
    rw [hset, strcpyWithin_eq_getD, plainText]
  · rename_i hnone
    obtain rfl := Option.some_inj.mp h
    have hplain : plainText value = none := by
      unfold plainText
      split
      · rename_i s rest
        exact absurd rfl (hnone s rest)
      · rfl
    rw [hplain]
    rfl

variable (h : decodeOperator op (pathDictFields p) = some op')
include h

theorem id_of_decodeOperator : op'.id = strcpyWithin maxNetworkInfoLength "" p.1 :=
  readAll_preserves _ OperatorInfo.id
    (fun _ hq _ _ _ hread => (keeps_of_mem_operatorInfoProperties hq hread).1) h

/-- A text that one property sets is the last one of its key that fits. -/
theorem copied_of_decodeOperator {key : String} {max : ℕ} {get : OperatorInfo → String}
    {set : String → OperatorInfo → OperatorInfo}
    (hlookup : operatorInfoProperties.lookup key = some (.optionalText set))
    (hset : ∀ s x, get (set s x) = strcpyWithin max (get x) s)
    (hkeeps : ∀ q ∈ operatorInfoProperties, q.1 ≠ key → ∀ value x x',
      q.2.read value x = some x' → get x' = get x)
    (hclear : ∀ id, get { op with id := id, name := "", mcc := "", mnc := "", technology := "" } =
      "") : get op' = shown key max p := by
  have hsets : ∀ value x x', operatorInfoProperties.fill key value x = some x' →
      get x' = ((plainText value).filter (fits max)).getD (get x) := by
    intro value x x' hfill
    rw [PropertyTable.fill, hlookup] at hfill
    exact optionalText_read hset hfill
  rw [shown, ← hclear]
  exact readAll_lastOf_getD hsets (fill_keeps hkeeps) h

theorem mcc_of_decodeOperator : op'.mcc = shown "MobileCountryCode" maxMccLength p :=
  copied_of_decodeOperator h rfl (fun _ _ => rfl)
    (fun _ hq hkey _ _ _ hread => (keeps_of_mem_operatorInfoProperties hq hread).2.1 hkey)
    fun _ => rfl

theorem mnc_of_decodeOperator : op'.mnc = shown "MobileNetworkCode" maxMncLength p :=
  copied_of_decodeOperator h rfl (fun _ _ => rfl)
    (fun _ hq hkey _ _ _ hread => (keeps_of_mem_operatorInfoProperties hq hread).2.2.1 hkey)
    fun _ => rfl

theorem technology_of_decodeOperator :
    op'.technology = shown "Technologies" maxNetworkInfoLength p :=
  copied_of_decodeOperator h rfl (fun _ _ => rfl)
    (fun _ hq hkey _ _ _ hread => (keeps_of_mem_operatorInfoProperties hq hread).2.2.2 hkey)
    fun _ => rfl

/-- An operator that is shown has an id that is not too long. -/
theorem fitsNetworkInfo_of_decodeOperator : fitsNetworkInfo (some op') = true := by
  rw [fitsNetworkInfo, Option.all_some, id_of_decodeOperator h, decide_eq_true_iff, strcpyWithin]
  split
  · assumption
  · exact Nat.zero_le _

end Decoded

/-! ### The list -/

section List

variable {handler : AsyncHandler Payload} {message : Message} {heap : Heap}
  {qs : List (String × List (String × Value))} {i : ℕ} {p : String × List (String × Value)}

/-- There is memory for the operators up to one place, and a place for it. -/
def Reached (heap : Heap) (i : ℕ) : Prop :=
  i < maxOperatorInfoListSize ∧ ∀ j ≤ i, (heap.operatorInfo j).isSome = true

theorem decodeOperatorList_eq (heap : Heap) (qs : List (String × List (String × Value))) :
    decodeOperatorList heap [pathDicts qs] =
      decodeWhile heap.operatorInfo decodeOperator
        ((qs.map pathDictFields).take maxOperatorInfoListSize) := by
  rw [decodeOperatorList, recurse_pathDicts, Option.bind_some,
    collectStructs_eq_decodeWhile _ (by decide)]

/-- An operator that is reached is shown in its place, and another one is not. -/
theorem operatorScanComplete_eq (heap : Heap) (hcb : handler.cbFunction ≠ null)
    (hreply : message.isError = false) (hargs : message.args = [pathDicts qs]) :
    ∃ operators, operatorScanComplete handler message heap =
        some (deliver { handler.result with
          arg2 := operators.length, data := .operatorList operators, status := ok }) ∧
      ∀ i p, qs[i]? = some p →
        (Reached heap i → ∃ block op, decodeOperator block (pathDictFields p) = some op ∧
          operators[i]? = some op) ∧ (¬ Reached heap i → operators[i]? = none) := by
  have hrun : operatorScanComplete handler message heap =
      (decodeOperatorList heap message.args).map fun operators =>
        deliver { handler.result with
          arg2 := operators.length, data := .operatorList operators, status := ok } := by
    rw [operatorScanComplete, hreply, if_neg Bool.false_ne_true,
      onTypedReply_of_args (t := .pathDicts) hcb hreply hargs rfl, hargs]
  obtain ⟨r, hr, -⟩ : Answers message handler.result (operatorScanComplete handler message heap) :=
    (answers_operatorScanComplete_iff hcb).mpr hreply
  rw [hrun, Option.map_eq_some_iff] at hr
  obtain ⟨operators, hlist, -⟩ := hr
  refine ⟨operators, by rw [hrun, hlist, Option.map_some], fun i p hp => ?_⟩
  rw [hargs, decodeOperatorList_eq] at hlist
  have hplace : i < maxOperatorInfoListSize →
      ((qs.map pathDictFields).take maxOperatorInfoListSize)[i]? = some (pathDictFields p) := by
    intro hi
    rw [List.getElem?_take_of_lt hi, List.getElem?_map, hp, Option.map_some]
  constructor
  · rintro ⟨hi, hblocks⟩
    obtain ⟨block, op, -, hdecode, hop⟩ := exists_of_decodeWhile hlist hblocks (hplace hi)
    exact ⟨block, op, hdecode, hop⟩
  -- the list ends at the first missing block, and when it is full
  · intro hreached
    by_cases hi : i < maxOperatorInfoListSize
    · exact getElem?_eq_none_of_decodeWhile hlist fun hblocks => hreached ⟨hi, hblocks⟩
    · have hlength := length_le_of_decodeWhile hlist
      rw [List.length_take] at hlength
      exact List.getElem?_eq_none (by omega)

end List

/-! ## Registering by hand -/

/-- The message that registers with an operator by what the reply says of it. -/
def registration (p : String × List (String × Value)) : BusMessage :=
  ⟨"RegisterManual", [.string (said "MobileCountryCode" p), .string (said "MobileNetworkCode" p),
    .string (said "Technologies" p)]⟩

/-- What the reply says of an operator has room in the structure. -/
def HasRoom (p : String × List (String × Value)) : Prop :=
  (said "MobileCountryCode" p).utf8ByteSize ≤ maxMccLength ∧
    (said "MobileNetworkCode" p).utf8ByteSize ≤ maxMncLength ∧
    (said "Technologies" p).utf8ByteSize ≤ maxNetworkInfoLength

instance (p : String × List (String × Value)) : Decidable (HasRoom p) :=
  inferInstanceAs (Decidable (_ ∧ _ ∧ _))

/-- The operator in a place of the reply is shown in that place, and whoever registers with what is
shown either fails or sends what the reply says. -/
def RegistersWith (handler : AsyncHandler Payload) (message : Message) (heap : Heap) (m : Memory)
    (i : ℕ) (p : String × List (String × Value)) : Prop :=
  ∃ operators op, operatorScanComplete handler message heap =
      some (deliver { handler.result with
        arg2 := operators.length, data := .operatorList operators, status := ok }) ∧
    operators[i]? = some op ∧
    (Request.selectManual (some op)).Sends m (registration p)

section Request

variable {m : Memory} {op : OperatorInfo} {p : String × List (String × Value)}

/-- Whoever registers with a structure sends the message exactly if the message has the codes of the
structure and these can be copied. -/
theorem sends_selectManual_iff (hid : fitsNetworkInfo (some op) = true) {message : BusMessage} :
    (Request.selectManual (some op)).Sends m message ↔
      (∀ k ∈ [0, 1, 2], m.strdup k = true) ∧
        message = ⟨"RegisterManual", [.string op.mcc, .string op.mnc, .string op.technology]⟩ := by
  have hbuilt : (if [0, 1, 2].all m.strdup then
        some (⟨"RegisterManual", [.string op.mcc, .string op.mnc, .string op.technology]⟩ :
          BusMessage)
      else none) = some message ↔ (∀ k ∈ [0, 1, 2], m.strdup k = true) ∧
        message = ⟨"RegisterManual", [.string op.mcc, .string op.mnc, .string op.technology]⟩ := by
    rw [Option.ite_none_right_eq_some, List.all_eq_true, Option.some_inj, eq_comm (a := message)]
  refine Iff.trans ?_ hbuilt
  refine Request.sends_iff (fun _ => ⟨_, rfl⟩) ⟨_, rfl, acquire_eq_none_iff.mpr ?_⟩ ?_
  · simp [plainRequest, Step.Succeeds, CallerData.Memory.granting, hid]
  · intro c s blocks block hsubmit
    have hbuilds : s.Builds (m.granting blocks) block "RegisterManual"
        [.copied op.mcc, .copied op.mnc, .copied op.technology] :=
      CallerData.builds_of_withProxy _ (Option.some.inj hsubmit) fun _ => ⟨rfl, rfl⟩
    rw [hbuilds.message]
    cases h₀ : m.strdup 0 <;> cases h₁ : m.strdup 1 <;> cases h₂ : m.strdup 2 <;>
      simp [encodeArgs, h₀, h₁, h₂]

/-- The codes of a structure are what the reply says exactly if that has room. -/
theorem registration_eq_iff {block : OperatorInfo}
    (h : decodeOperator block (pathDictFields p) = some op) :
    registration p = ⟨"RegisterManual",
        [.string op.mcc, .string op.mnc, .string op.technology]⟩ ↔ HasRoom p := by
  rw [mcc_of_decodeOperator h, mnc_of_decodeOperator h, technology_of_decodeOperator h, HasRoom,
    ← shown_eq_said_iff, ← shown_eq_said_iff, ← shown_eq_said_iff]
  simp [registration, eq_comm]

end Request

/-- An operator can be registered with as the reply says exactly if there is memory for it and for
all that are listed before it, of which there are not too many, if its codes and technologies have
room in the structure, and if they can be copied for the message. -/
theorem registersWith_iff {handler : AsyncHandler Payload} {message : Message} (heap : Heap)
    (m : Memory) {qs : List (String × List (String × Value))} {i : ℕ}
    {p : String × List (String × Value)} (hcb : handler.cbFunction ≠ null)
    (hreply : message.isError = false) (hargs : message.args = [pathDicts qs])
    (hp : qs[i]? = some p) :
    RegistersWith handler message heap m i p ↔
      Reached heap i ∧ HasRoom p ∧ ∀ k ∈ [0, 1, 2], m.strdup k = true := by
  obtain ⟨operators, hscan, hplaces⟩ := operatorScanComplete_eq heap hcb hreply hargs
  obtain ⟨hshown, hmissing⟩ := hplaces i p hp
  constructor
  · rintro ⟨operators', op', hscan', hplace', hsends⟩
    obtain rfl : operators = operators' := by
      have hdata := congrArg (·.result.data) (Option.some_inj.mp (hscan.symm.trans hscan'))
      exact Payload.operatorList.inj hdata
    by_cases hreached : Reached heap i
    · obtain ⟨block, op, hdecode, hplace⟩ := hshown hreached
      obtain rfl := Option.some_inj.mp (hplace.symm.trans hplace')
      obtain ⟨hcopies, hmessage⟩ :=
        (sends_selectManual_iff (fitsNetworkInfo_of_decodeOperator hdecode)).mp hsends
      exact ⟨hreached, (registration_eq_iff hdecode).mp hmessage, hcopies⟩
    · rw [hmissing hreached] at hplace'
      contradiction
  · rintro ⟨hreached, hroom, hcopies⟩
    obtain ⟨block, op, hdecode, hplace⟩ := hshown hreached
    have hsends := (sends_selectManual_iff (fitsNetworkInfo_of_decodeOperator hdecode)).mpr
      ⟨hcopies, (registration_eq_iff hdecode).mpr hroom⟩
    exact ⟨operators, op, hscan, hplace, hsends⟩

/-- A reply with one operator, which says its country code twice. -/
def sampleScan : Message where
  type := .methodReturn
  args := [pathDicts [("/ril_0/operator/46000", [("MobileCountryCode", .string "1234"),
    ("MobileCountryCode", .string "460"), ("MobileNetworkCode", .string "00")])]]
  typed := by simp [pathDicts, Value.typed, dict]

/-- The later code counts, and the operator can be registered with. -/
theorem registersWith_sampleScan :
    RegistersWith ⟨⟨0, 0, 0, 0, 0, .null, 0⟩, 1⟩ sampleScan
      { Heap.exhausted with operatorInfo := fun _ => some ⟨"", "", "", "", .unknown, "", 0⟩ }
      ⟨fun _ => true, fun _ => true⟩ 0
      ("/ril_0/operator/46000", [("MobileCountryCode", .string "1234"),
        ("MobileCountryCode", .string "460"), ("MobileNetworkCode", .string "00")]) :=
  (registersWith_iff _ _ (by decide) rfl rfl rfl).mpr
    ⟨⟨by decide, fun _ _ => rfl⟩, by decide, by decide⟩

end Telephony.Network
