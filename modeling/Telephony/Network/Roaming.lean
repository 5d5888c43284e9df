import Telephony.Dictionary
import Telephony.Sim.Operator

/-!
# Roaming

A registration abroad is roaming in the country of the SIM card or in another one. The reply to
`GetProperties` says that it is abroad and in which country, and the operator of the card is asked
for when the reply has been taken apart.

Whether the reply has a status is not looked at, nor whether the operator could be read.

## Main definitions

* `Network.roamingOf` — the roaming type that a registration and an operator amount to
* `Network.ShowsRoaming` — the reply function delivers that type

## Main results

* `Network.showsRoaming_iff` — it does exactly if the reply has a status, or the block does not
  happen to hold the one of a registration abroad, and abroad the operator can be read
-/

namespace Telephony.Network

open DBus DBus.PropertyTable Cells Sim

/-! ## What a registration says -/

/-- The state of the registration, if the dictionary has one. -/
def statusOf (ps : List (String × Value)) : Option RegistrationState :=
  ((ps.lookup "Status").bind fun v => Iter.getString [v]).map registrationStatusFromString

/-- The country of the registration, if the dictionary has one. -/
def countryOf (ps : List (String × Value)) : Option String :=
  (ps.lookup "MobileCountryCode").bind fun v => Iter.getString [v]

/-- The roaming type of a registration, given the operator of the card if it could be read: abroad
its first three digits are compared with the country. -/
def roamingOf (ps : List (String × Value)) (operator : Option (List UInt8)) : RoamingType :=
  match statusOf ps, operator with
  | some .roaming, some buffer =>
    if some ((text buffer).take maxMccLength) = (countryOf ps).map bytes then .domestic
    else .international
  | _, _ => .unknown

/-- The texts that the bus library hands out have no terminator in them. -/
def NulFree (property : Properties) : Prop :=
  ∀ proxy name s, (property proxy name).bind Iter.getString = some s → 0 ∉ bytes s

section Fields

/-- Every property leaves the state and the country to their own keys. -/
theorem keeps_of_mem_registrationInfoProperties {heap : Heap}
    {p : String × Property RegistrationInfo} (hp : p ∈ registrationInfoProperties heap)
    {value : Iter} {x x' : RegistrationInfo} (h : p.2.read value x = some x') :
    (p.1 ≠ "Status" → x'.regState = x.regState) ∧
      (p.1 ≠ "MobileCountryCode" → x'.mcc = x.mcc) := by
  simp only [registrationInfoProperties, List.mem_cons, List.not_mem_nil, or_false] at hp
  rcases hp with rfl | rfl | rfl | rfl | rfl | rfl | rfl | rfl | rfl | rfl | rfl
  all_goals
    obtain ⟨_, _, rfl⟩ := Option.map_eq_some_iff.mp h
    simp

variable {heap : Heap} {ps : List (String × Value)} (hkeys : (ps.map Prod.fst).Nodup)
  {info info' : RegistrationInfo}
  (h : fillRegistrationInfo heap (ps.map entry) info = some info')
include hkeys h

/-- Without a status the state is the one that the block has held. -/
theorem regState_of_fill : info'.regState = (statusOf ps).getD info.regState := by
  let update (value : Iter) (state : RegistrationState) : RegistrationState :=
    (value.getString.map registrationStatusFromString).getD state
  have hupdate : ∀ value x x', (registrationInfoProperties heap).fill "Status" value x = some x' →
      x'.regState = update value x.regState := by
    intro value x x' hfill
    obtain ⟨s, hs, rfl⟩ := Option.map_eq_some_iff.mp hfill
    simp only [update, hs, Option.map_some, Option.getD_some]
  have hkeeps := fill_keeps fun p (hp : p ∈ registrationInfoProperties heap) hkey value x x'
    hread => (keeps_of_mem_registrationInfoProperties hp hread).1 hkey
  rw [readAll_field hupdate hkeeps hkeys h, statusOf]
  cases ps.lookup "Status" <;> rfl

theorem mcc_of_fill (hempty : info.mcc = "") :
    info'.mcc = strcpyWithin maxMccLength "" ((countryOf ps).getD "") := by
  let update (value : Iter) (mcc : String) : String :=
    (value.getString.map (strcpyWithin maxMccLength mcc)).getD mcc
  have hupdate : ∀ value x x',
      (registrationInfoProperties heap).fill "MobileCountryCode" value x = some x' →
        x'.mcc = update value x.mcc := by
    intro value x x' hfill
    obtain ⟨s, hs, rfl⟩ := Option.map_eq_some_iff.mp hfill
    simp only [update, hs, Option.map_some, Option.getD_some]
  have hkeeps := fill_keeps fun p (hp : p ∈ registrationInfoProperties heap) hkey value x x'
    hread => (keeps_of_mem_registrationInfoProperties hp hread).2 hkey
  rw [readAll_field hupdate hkeeps hkeys h, hempty, countryOf]
  cases ps.lookup "MobileCountryCode" with
  | none => rfl
  | some v => cases v <;> rfl

end Fields

/-! ## The operator -/

/-- The country of a card is not empty. -/
theorem text_operatorBuffer_ne {cfg : Config} {property : Properties} {ctx : DbusContext}
    {slotId : ℤ} {buffer : List UInt8} (hnul : NulFree property)
    (h : operatorBuffer cfg property (some ctx) slotId = some buffer) : text buffer ≠ [] := by
  obtain ⟨mcc, mnc, hnames, rfl⟩ := operatorBuffer_eq_some_iff.mp h
  have hterminator : 0 ∉ bytes mcc := hnul _ _ _ hnames.country
  have hlength : 2 ≤ (bytes mcc).length := by
    rw [length_bytes]
    exact Nat.le_of_succ_le_succ hnames.countryLength
  cases hbytes : bytes mcc with
  | nil => simp [hbytes] at hlength
  | cons b rest =>
    have hb : b ≠ 0 := by
      rintro rfl
      exact hterminator (hbytes ▸ List.mem_cons_self)
    simp [text, maxMccLength, hb]

/-- The comparison that the code makes is the one of the countries. -/
theorem roamingTypeOf_eq {buffer : List UInt8} (hne : text buffer ≠ []) (country : Option String) :
    roamingTypeOf buffer (strcpyWithin maxMccLength "" (country.getD "")) =
      if some ((text buffer).take maxMccLength) = country.map bytes then .domestic
      else .international := by
  have htake : (text buffer).take maxMccLength ≠ bytes "" := by
    intro hempty
    have hnil : bytes "" = [] := by decide
    rw [hnil, List.take_eq_nil_iff] at hempty
    exact hempty.elim (by decide) hne
  rw [roamingTypeOf, if_neg hne]
  cases country with
  | none => simp [strcpyWithin, htake]
  | some mcc =>
    simp only [Option.getD_some, Option.map_some, Option.some_inj]
    by_cases hfits : mcc.utf8ByteSize ≤ maxMccLength
    · have hcopied : strcpyWithin maxMccLength "" mcc = mcc := if_pos hfits
      simp only [hcopied]
    · -- a country that is too long is no country of three digits
      have hlong : (text buffer).take maxMccLength ≠ bytes mcc := by
        intro heq
        have hle := List.length_take_le maxMccLength (text buffer)
        rw [heq, length_bytes] at hle
        exact hfits hle
      have hkept : strcpyWithin maxMccLength "" mcc = "" := if_neg hfits
      simp only [hkept, if_neg htake, if_neg hlong]

/-! ## The reply -/

/-- The context in which the operator of the card is asked for, when the reply comes in. -/
structure Surroundings where
  cfg : Config
  property : Properties
  nulFree : NulFree property
  context : DbusContext

namespace Surroundings

variable (s : Surroundings)

/-- What is read of the operator of the card in a slot. -/
def operator (slotId : ℤ) : Option (List UInt8) :=
  operatorBuffer s.cfg s.property (some s.context) slotId

/-- The blocks of the reply function, with the buffer for the operator. -/
def heap (slotId : ℤ) (heap : Heap) : Heap := { heap with simOperator := s.operator slotId }

end Surroundings

variable {s : Surroundings} {handler : AsyncHandler Payload} {message : Message} {heap : Heap}
  {ps : List (String × Value)}

/-- The registration that is delivered has the roaming type that it amounts to. -/
def ShowsRoaming (s : Surroundings) (handler : AsyncHandler Payload) (message : Message)
    (heap : Heap) (ps : List (String × Value)) : Prop :=
  ∃ info, registrationInfoQueryDone handler message (s.heap handler.result.arg1 heap) =
      some (deliver { handler.result with status := ok, data := .registrationInfo info }) ∧
    info.roamingType = roamingOf ps (s.operator handler.result.arg1)

/-- What the reply function delivers has been decoded into the block that it got. -/
theorem registrationInfoQueryDone_eq (hcb : handler.cbFunction ≠ null)
    (hdata : handler.result.data = .context) (hreply : message.isError = false)
    (hargs : message.args = [dict ps]) {heap : Heap} :
    registrationInfoQueryDone handler message heap =
      match heap.registrationInfo with
      | none => some (ignore handler.result)
      | some block => (decodeRegistration heap .context block [dict ps]).map fun info =>
          deliver { handler.result with status := ok, data := .registrationInfo info } := by
  rw [registrationInfoQueryDone]
  cases heap.registrationInfo with
  | none => rfl
  | some block =>
    refine (onTypedReply_of_args hcb hreply hargs rfl).trans ?_
    rw [hdata]

/-- The roaming type is set if the registration is not abroad, or the operator can be read. -/
theorem roamingType_setRoamingType_iff (hkeys : (ps.map Prod.fst).Nodup)
    {block info : RegistrationInfo} {slotId : ℤ}
    (hfill : fillRegistrationInfo heap (ps.map entry)
      { block with operatorName := "", mcc := "", mnc := "", station := "" } = some info) :
    (∃ info', setRoamingType (s.heap slotId heap) .context info = some info' ∧
        info'.roamingType = roamingOf ps (s.operator slotId)) ↔
      (statusOf ps = none → block.regState ≠ .roaming) ∧
        (statusOf ps = some .roaming → (s.operator slotId).isSome = true) := by
  have hstate : info.regState = (statusOf ps).getD block.regState := by
    have hfield := regState_of_fill hkeys hfill
    exact hfield
  have hmcc : info.mcc = strcpyWithin maxMccLength "" ((countryOf ps).getD "") :=
    mcc_of_fill hkeys hfill rfl
  by_cases hroaming : info.regState = .roaming
  · have hset : setRoamingType (s.heap slotId heap) .context info =
        (s.operator slotId).map fun buffer =>
          { info with roamingType := roamingTypeOf buffer info.mcc } := by
      rw [setRoamingType, if_neg (not_not_intro hroaming)]
      rfl
    rw [hset]
    cases hstatus : statusOf ps with
    | none =>
      -- the block holds the state of a registration abroad, and the type says more than it should
      rw [hstatus] at hstate
      have hblock : block.regState = .roaming := hstate.symm.trans hroaming
      simp only [hblock, ne_eq, not_true_eq_false, imp_false, false_and, iff_false]
      rintro ⟨info', hinfo', htype⟩
      obtain ⟨buffer, hbuffer, rfl⟩ := Option.map_eq_some_iff.mp hinfo'
      have hne := text_operatorBuffer_ne s.nulFree hbuffer
      simp only [hmcc, roamingTypeOf_eq hne, roamingOf, hstatus] at htype
      split at htype <;> contradiction
    | some state =>
      rw [hstatus] at hstate
      obtain rfl : state = .roaming := hstate.symm.trans hroaming
      simp only [reduceCtorEq, false_implies, true_and, true_implies]
      cases hbuffer : s.operator slotId with
      | none => simp
      | some buffer =>
        have hne := text_operatorBuffer_ne s.nulFree hbuffer
        simp [hmcc, roamingTypeOf_eq hne, roamingOf, hstatus]
  · have hset : setRoamingType (s.heap slotId heap) .context info =
        some { info with roamingType := .unknown } := if_pos hroaming
    have hunknown : roamingOf ps (s.operator slotId) = .unknown := by
      unfold roamingOf
      split
      · rename_i hstatus _
        rw [hstatus] at hstate
        exact absurd hstate hroaming
      · rfl
    rw [hset, hunknown]
    simp only [Option.some.injEq, exists_eq_left', true_iff]
    constructor
    · intro hnone hblock
      rw [hnone] at hstate
      exact hroaming (hstate.trans hblock)
    · intro hsome
      rw [hsome] at hstate
      exact absurd hstate hroaming

/-- The same for the registration that is decoded into a block. -/
theorem roamingType_decodeRegistration_iff (hkeys : (ps.map Prod.fst).Nodup)
    (block : RegistrationInfo) (slotId : ℤ) :
    (∃ info, decodeRegistration (s.heap slotId heap) .context block [dict ps] = some info ∧
        info.roamingType = roamingOf ps (s.operator slotId)) ↔
      (registrationInfoProperties heap).readsAll (ps.map entry) = true ∧
        (statusOf ps = none → block.regState ≠ .roaming) ∧
        (statusOf ps = some .roaming → (s.operator slotId).isSome = true) := by
  have hdecode : decodeRegistration (s.heap slotId heap) .context block [dict ps] =
      (fillRegistrationInfo heap (ps.map entry)
        { block with operatorName := "", mcc := "", mnc := "", station := "" }).bind
          (setRoamingType (s.heap slotId heap) .context) := rfl
  rw [hdecode, ← isSome_readAll _ _
    { block with operatorName := "", mcc := "", mnc := "", station := "" }]
  cases hfill : fillRegistrationInfo heap (ps.map entry)
      { block with operatorName := "", mcc := "", mnc := "", station := "" } with
  | none =>
    unfold fillRegistrationInfo at hfill
    simp [hfill]
  | some info =>
    rw [Option.bind_some, roamingType_setRoamingType_iff hkeys hfill]
    unfold fillRegistrationInfo at hfill
    simp [hfill]

/-- The roaming type is the one that the registration amounts to exactly if there is a block, the
properties can be read, a reply without a status does not find the one of a registration abroad in
the block, and abroad the card names its operator. -/
theorem showsRoaming_iff (s : Surroundings) (heap : Heap) (hcb : handler.cbFunction ≠ null)
    (hdata : handler.result.data = .context) (hreply : message.isError = false)
    (hargs : message.args = [dict ps]) (hkeys : (ps.map Prod.fst).Nodup) :
    ShowsRoaming s handler message heap ps ↔
      ∃ block, heap.registrationInfo = some block ∧
        (registrationInfoProperties heap).readsAll (ps.map entry) = true ∧
        (statusOf ps = none → block.regState ≠ .roaming) ∧
        (statusOf ps = some .roaming → ∃ mcc mnc,
          NamesOperator s.cfg s.property s.context handler.result.arg1 mcc mnc) := by
  have hoperator : (s.operator handler.result.arg1).isSome = true ↔ ∃ mcc mnc,
      NamesOperator s.cfg s.property s.context handler.result.arg1 mcc mnc := by
    rw [Option.isSome_iff_exists]
    simp only [Surroundings.operator, operatorBuffer_eq_some_iff]
    constructor
    · rintro ⟨_, mcc, mnc, hnames, -⟩
      exact ⟨mcc, mnc, hnames⟩
    · rintro ⟨mcc, mnc, hnames⟩
      exact ⟨_, mcc, mnc, hnames, rfl⟩
  simp only [ShowsRoaming, registrationInfoQueryDone_eq hcb hdata hreply hargs, ← hoperator]
  have hblock : (s.heap handler.result.arg1 heap).registrationInfo = heap.registrationInfo := rfl
  rw [hblock]
  cases heap.registrationInfo with
  | none => simp [ignore, deliver]
  | some block =>
    simp only [Option.some.injEq, exists_eq_left']
    rw [← roamingType_decodeRegistration_iff hkeys block handler.result.arg1]
    constructor
    · rintro ⟨info, hinfo, htype⟩
      -- the record that is delivered determines what was decoded
      obtain ⟨info', hdecode, hdelivered⟩ := Option.map_eq_some_iff.mp hinfo
      obtain rfl : info' = info := by
        injection hdelivered with hresult
        injection hresult with _ _ _ _ _ hpayload
        injection hpayload
      exact ⟨info', hdecode, htype⟩
    · rintro ⟨info, hdecode, htype⟩
      exact ⟨info, by rw [hdecode]; rfl, htype⟩

/-! ## A registration without a status -/

/-- A card of the network 01 of the country 460. -/
def sampleCard : Properties
  | _, "Present" => some [.boolean 1]
  | _, "MobileCountryCode" => some [.string "460"]
  | _, "MobileNetworkCode" => some [.string "01"]
  | _, _ => none

theorem nulFree_sampleCard : NulFree sampleCard := by
  intro proxy name s h
  unfold sampleCard at h
  split at h
  · contradiction
  · obtain rfl := Option.some_inj.mp h
    decide
  · obtain rfl := Option.some_inj.mp h
    decide
  · contradiction

def sampleSurroundings : Surroundings := ⟨twoModems, sampleCard, nulFree_sampleCard, idleContext⟩

/-- A request of the registration in slot 0. -/
def sampleHandler : AsyncHandler Payload := ⟨⟨0, response, 0, 0, 0, .context, 0⟩, 1⟩

def sampleReply (ps : List (String × Value)) (h : (dict ps).typed = true) : Message where
  type := .methodReturn
  args := [dict ps]
  typed := by simp [h]

/-- A block in which an earlier registration was abroad. -/
def abroadHeap : Heap :=
  { Heap.exhausted with
    registrationInfo := some
      ⟨.roaming, 0, "", "", "", "", unsetNetworkTime, .unknown, false, .unknown, 0, 0, 0⟩ }

theorem showsRoaming_iff_sampleCard :
    ([("Status", Value.string "roaming")].map Prod.fst).Nodup ∧
      (ShowsRoaming sampleSurroundings sampleHandler
          (sampleReply [("Status", .string "roaming")] (by decide)) abroadHeap
          [("Status", .string "roaming")] ↔
        ∃ block, abroadHeap.registrationInfo = some block ∧
          (registrationInfoProperties abroadHeap).readsAll
            ([("Status", Value.string "roaming")].map entry) = true ∧
          (statusOf [("Status", Value.string "roaming")] = none → block.regState ≠ .roaming) ∧
          (statusOf [("Status", Value.string "roaming")] = some .roaming → ∃ mcc mnc,
            NamesOperator twoModems sampleCard idleContext 0 mcc mnc)) :=
  ⟨by decide, showsRoaming_iff sampleSurroundings abroadHeap (by decide) rfl rfl rfl (by decide)⟩

/-- A reply that says nothing at all is taken for one from abroad. -/
theorem not_showsRoaming_abroadHeap :
    ¬ ShowsRoaming sampleSurroundings sampleHandler (sampleReply [] (by decide)) abroadHeap [] := by
  rintro ⟨info, hinfo, htype⟩
  have hinternational : registrationInfoQueryDone sampleHandler (sampleReply [] (by decide))
      (sampleSurroundings.heap sampleHandler.result.arg1 abroadHeap) =
        some (deliver { sampleHandler.result with
          status := ok
          data := .registrationInfo ⟨.roaming, 0, "", "", "", "", unsetNetworkTime, .unknown,
            false, .international, 0, 0, 0⟩ }) := by
    decide
  rw [hinternational] at hinfo
  injection hinfo with hhandling
  injection hhandling with hresult
  injection hresult with _ _ _ _ _ hpayload
  injection hpayload with hsame
  rw [← hsame] at htype
  exact absurd htype (by decide)

end Telephony.Network
