import Telephony.Cells
import Telephony.Network.Reply
import Telephony.Sim.Request

/-!
# The operator of the SIM card

## Main definitions

* `Sim.tapiSimGetSimOperator` — the function that reads the country and the network of the card
* `Sim.NamesOperator` — there is a card, and its proxy has both codes
* `Sim.getSimOperatorInto` — the same function, with the buffer that its loops write to

## Main results

* `Sim.operatorBuffer_eq_some_iff` — when the caller's buffer is written, and with what
* `Sim.getSimOperatorInto_eq` — the loops store in the buffer what the function says is written
* `Sim.leavesOperator_iff` — from which lengths of the codes on the buffer holds the operator
-/

namespace Telephony.Sim

open DBus Cells Network

/-- What `g_dbus_proxy_get_property` finds. -/
abbrev Properties := Ptr → String → Option Iter

/-- The loop that copies a code. It copies `max` bytes of whatever length the code has, so that a
shorter one has to have its terminator among them. -/
def codeCells (max : ℕ) (code : String) : Option (List UInt8) :=
  let cells := bytes code ++ [0]
  if max ≤ cells.length then some (cells.take max) else none

/-- The end of `tapi_sim_get_sim_operator`, with the proxy of a card. -/
def copyCodes (property : Properties) (proxy : Ptr) : Option (ℤ × Option (List UInt8)) :=
  match property proxy "MobileCountryCode", property proxy "MobileNetworkCode" with
  | some mccValue, some mncValue => do
    let mcc ← mccValue.getString
    let mnc ← mncValue.getString
    let mccCells ← codeCells maxMccLength mcc
    let mncCells ← codeCells maxMncLength mnc
    some (ok, some (mccCells ++ mncCells ++ [0]))
  | some value, none | none, some value => value.getString.map fun _ => (-eio, none)
  | none, none => some (-eio, none)

/-- `tapi_sim_get_sim_operator`, with a buffer to write to: the return value, and what is written
if that is OK. The other ways out leave the buffer as it was. -/
def tapiSimGetSimOperator (cfg : Config) (property : Properties) (context : Option DbusContext)
    (slotId length : ℤ) : Option (ℤ × Option (List UInt8)) :=
  match context with
  | none => some (-einval, none)
  | some ctx =>
    if !isValidSlotid cfg slotId then some (-einval, none)
    else if !ctx.clientReady then some (-eagain, none)
    else if length < maxMccLength + maxMncLength + 1 then some (-einval, none)
    else
      let proxy := ctx.dbusProxy slotId.toNat .sim
      -- the value is read through an int
      let present :=
        match property proxy "Present" with
        | some value => value.getFlag.map some
        | none => some none
      present.bind fun present =>
        if (tapiSimHasIccCard cfg (some ctx) slotId present).2 ≠ some true then
          some (-einval, none)
        else if proxy = null then some (-eio, none)
        else copyCodes property proxy

/-- What stands in the caller's buffer once the operator has been read. -/
def operatorBuffer (cfg : Config) (property : Properties) (context : Option DbusContext)
    (slotId : ℤ) : Option (List UInt8) :=
  (tapiSimGetSimOperator cfg property context slotId (maxMccLength + maxMncLength + 1)).bind
    Prod.snd

/-- There is a card in the slot, and its proxy has both codes, none of them so short that something
behind its terminator would be copied. -/
structure NamesOperator (cfg : Config) (property : Properties) (ctx : DbusContext) (slotId : ℤ)
    (mcc mnc : String) : Prop where
  slot : isValidSlotid cfg slotId = true
  ready : ctx.clientReady = true
  proxy : ctx.dbusProxy slotId.toNat .sim ≠ null
  present : (property (ctx.dbusProxy slotId.toNat .sim) "Present").bind Iter.getFlag = some true
  country : (property (ctx.dbusProxy slotId.toNat .sim) "MobileCountryCode").bind Iter.getString =
    some mcc
  network : (property (ctx.dbusProxy slotId.toNat .sim) "MobileNetworkCode").bind Iter.getString =
    some mnc
  countryLength : maxMccLength ≤ mcc.utf8ByteSize + 1
  networkLength : maxMncLength ≤ mnc.utf8ByteSize + 1

section

variable {cfg : Config} {property : Properties} {ctx : DbusContext} {slotId : ℤ}
  {buffer : List UInt8}

theorem codeCells_eq_some_iff {max : ℕ} {code : String} {cells : List UInt8} :
    codeCells max code = some cells ↔
      max ≤ code.utf8ByteSize + 1 ∧ cells = (bytes code ++ [0]).take max := by
  have hlength : (bytes code ++ [0]).length = code.utf8ByteSize + 1 := by simp
  rw [codeCells, hlength]
  split
  · rename_i hle
    rw [Option.some_inj]
    exact ⟨fun h => ⟨hle, h.symm⟩, fun h => h.2.symm⟩
  · rename_i hgt
    simp [hgt]

theorem copyCodes_eq_some_iff {proxy : Ptr} {code : ℤ} :
    copyCodes property proxy = some (code, some buffer) ↔
      code = ok ∧ ∃ mcc mnc,
        (property proxy "MobileCountryCode").bind Iter.getString = some mcc ∧
        (property proxy "MobileNetworkCode").bind Iter.getString = some mnc ∧
        maxMccLength ≤ mcc.utf8ByteSize + 1 ∧ maxMncLength ≤ mnc.utf8ByteSize + 1 ∧
        buffer = (bytes mcc ++ [0]).take maxMccLength ++ (bytes mnc ++ [0]).take maxMncLength ++
          [0] := by
  unfold copyCodes
  cases hmcc : property proxy "MobileCountryCode" with
  | none =>
    cases property proxy "MobileNetworkCode" <;> simp
  | some mccValue =>
    cases property proxy "MobileNetworkCode" with
    | none => simp
    | some mncValue =>
      simp only [Option.bind_eq_bind, Option.bind_eq_some_iff, codeCells_eq_some_iff,
        Option.bind_some, Option.some.injEq, Prod.mk.injEq]
      constructor
      · rintro ⟨mcc, hmcc, mnc, hmnc, _, ⟨hmccLength, rfl⟩, _, ⟨hmncLength, rfl⟩, hcode, rfl⟩
        exact ⟨hcode.symm, mcc, mnc, hmcc, hmnc, hmccLength, hmncLength, rfl⟩
      · rintro ⟨rfl, mcc, mnc, hmcc, hmnc, hmccLength, hmncLength, rfl⟩
        exact ⟨mcc, hmcc, mnc, hmnc, _, ⟨hmccLength, rfl⟩, _, ⟨hmncLength, rfl⟩, rfl, rfl⟩

/-- Behind the checks the buffer is written by the copies of the codes. -/
theorem operatorBuffer_of_present (hslot : isValidSlotid cfg slotId = true)
    (hready : ctx.clientReady = true) (hproxy : ctx.dbusProxy slotId.toNat .sim ≠ null)
    (hpresent : (property (ctx.dbusProxy slotId.toNat .sim) "Present").bind Iter.getFlag =
      some true) :
    operatorBuffer cfg property (some ctx) slotId =
      (copyCodes property (ctx.dbusProxy slotId.toNat .sim)).bind Prod.snd := by
  obtain ⟨value, hvalue, hflag⟩ := Option.bind_eq_some_iff.mp hpresent
  have hlength : ¬ ((maxMccLength : ℤ) + maxMncLength + 1 < maxMccLength + maxMncLength + 1) :=
    Int.lt_irrefl _
  simp only [operatorBuffer, tapiSimGetSimOperator, hslot, hready, hvalue, hflag,
    tapiSimHasIccCard, hproxy, Bool.not_true, Bool.false_eq_true, if_false, hlength,
    Option.map_some, Option.bind_some, ne_eq, not_true_eq_false]

/-- Whoever fails a check leaves the buffer as it was. -/
theorem checks_of_operatorBuffer
    (h : operatorBuffer cfg property (some ctx) slotId = some buffer) :
    isValidSlotid cfg slotId = true ∧ ctx.clientReady = true ∧
      ctx.dbusProxy slotId.toNat .sim ≠ null ∧
      (property (ctx.dbusProxy slotId.toNat .sim) "Present").bind Iter.getFlag = some true := by
  by_cases hslot : isValidSlotid cfg slotId = true
  · by_cases hready : ctx.clientReady = true
    · -- the card is asked for through the proxy
      have hcard : ctx.dbusProxy slotId.toNat .sim ≠ null ∧
          (property (ctx.dbusProxy slotId.toNat .sim) "Present").bind Iter.getFlag =
            some true := by
        simp only [operatorBuffer, tapiSimGetSimOperator, hslot, hready, Bool.not_true,
          Bool.false_eq_true, if_false, Int.lt_irrefl, tapiSimHasIccCard] at h
        by_cases hproxy : ctx.dbusProxy slotId.toNat .sim = null
        · simp only [hproxy, if_true, ne_eq, reduceCtorEq, not_false_eq_true] at h
          obtain ⟨r, hr, hbuffer⟩ := Option.bind_eq_some_iff.mp h
          obtain ⟨present, -, hfailed⟩ := Option.bind_eq_some_iff.mp hr
          obtain rfl := Option.some_inj.mp hfailed
          contradiction
        · refine ⟨hproxy, ?_⟩
          cases hvalue : property (ctx.dbusProxy slotId.toNat .sim) "Present" with
          | none => simp [hvalue, hproxy] at h
          | some value =>
            cases hflag : value.getFlag with
            | none => simp [hvalue, hflag] at h
            | some present =>
              cases present with
              | true => simp [hflag]
              | false => simp [hvalue, hflag, hproxy] at h
      exact ⟨hslot, hready, hcard⟩
    · simp [operatorBuffer, tapiSimGetSimOperator, hslot, hready] at h
  · simp [operatorBuffer, tapiSimGetSimOperator, hslot] at h

/-- The buffer is written exactly if there is a card that names its operator. -/
theorem operatorBuffer_eq_some_iff :
    operatorBuffer cfg property (some ctx) slotId = some buffer ↔
      ∃ mcc mnc, NamesOperator cfg property ctx slotId mcc mnc ∧
        buffer = (bytes mcc ++ [0]).take maxMccLength ++ (bytes mnc ++ [0]).take maxMncLength ++
          [0] := by
  constructor
  · intro h
    obtain ⟨hslot, hready, hproxy, hpresent⟩ := checks_of_operatorBuffer h
    rw [operatorBuffer_of_present hslot hready hproxy hpresent] at h
    obtain ⟨⟨code, _⟩, hcopy, rfl⟩ := Option.bind_eq_some_iff.mp h
    obtain ⟨-, mcc, mnc, hmcc, hmnc, hmccLength, hmncLength, rfl⟩ :=
      copyCodes_eq_some_iff.mp hcopy
    exact ⟨mcc, mnc, ⟨hslot, hready, hproxy, hpresent, hmcc, hmnc, hmccLength, hmncLength⟩, rfl⟩
  · rintro ⟨mcc, mnc, hnames, rfl⟩
    rw [operatorBuffer_of_present hnames.slot hnames.ready hnames.proxy hnames.present,
      copyCodes_eq_some_iff.mpr ⟨rfl, mcc, mnc, hnames.country, hnames.network,
        hnames.countryLength, hnames.networkLength, rfl⟩]
    rfl

end

/-! ## The buffer -/

/-- A loop that copies a code: `max` times `*out++ = *code++`. A code is an array with a terminator,
and to read behind that is undefined. -/
def copyCode : ℕ → List UInt8 → List UInt8 → ℕ → Option (List UInt8)
  | 0, _, out, _ => some out
  | _ + 1, [], _, _ => none
  | max + 1, c :: code, out, i => (write out i c).bind fun out => copyCode max code out (i + 1)

/-- The end of `tapi_sim_get_sim_operator`, with the proxy of a card and the buffer. -/
def copyCodesInto (property : Properties) (proxy : Ptr) (out : List UInt8) :
    Option (ℤ × List UInt8) :=
  match property proxy "MobileCountryCode", property proxy "MobileNetworkCode" with
  | some mccValue, some mncValue => do
    let mcc ← mccValue.getString
    let mnc ← mncValue.getString
    let out ← copyCode maxMccLength (bytes mcc ++ [0]) out 0
    let out ← copyCode maxMncLength (bytes mnc ++ [0]) out maxMccLength
    let out ← write out (maxMccLength + maxMncLength) 0
    some (ok, out)
  | some value, none | none, some value => value.getString.map fun _ => (-eio, out)
  | none, none => some (-eio, out)

/-- `tapi_sim_get_sim_operator`: the return value, and the caller's buffer behind it. -/
def getSimOperatorInto (cfg : Config) (property : Properties) (context : Option DbusContext)
    (slotId length : ℤ) (out : List UInt8) : Option (ℤ × List UInt8) :=
  match context with
  | none => some (-einval, out)
  | some ctx =>
    if !isValidSlotid cfg slotId then some (-einval, out)
    else if !ctx.clientReady then some (-eagain, out)
    else if length < maxMccLength + maxMncLength + 1 then some (-einval, out)
    else
      let proxy := ctx.dbusProxy slotId.toNat .sim
      let present :=
        match property proxy "Present" with
        | some value => value.getFlag.map some
        | none => some none
      present.bind fun present =>
        if (tapiSimHasIccCard cfg (some ctx) slotId present).2 ≠ some true then
          some (-einval, out)
        else if proxy = null then some (-eio, out)
        else copyCodesInto property proxy out

/-- Write what the function says is written. -/
def store (out : List UInt8) : ℤ × Option (List UInt8) → Option (ℤ × List UInt8)
  | (code, none) => some (code, out)
  | (code, some written) => (writeFrom out 0 written).map fun out => (code, out)

/-- The call is defined, and if it returns OK, the buffer starts with the two codes, each cut to
three characters, and a terminator, and is as it was behind its seventh byte. -/
def LeavesOperator (cfg : Config) (property : Properties) (ctx : DbusContext)
    (slotId length : ℤ) (out : List UInt8) (mcc mnc : String) : Prop :=
  ∃ code out', getSimOperatorInto cfg property (some ctx) slotId length out = some (code, out') ∧
    (code = ok →
      (bytes mcc).take maxMccLength ++ (bytes mnc).take maxMncLength ++ [0] <+: out' ∧
        out'.drop (maxMccLength + maxMncLength + 1) = out.drop (maxMccLength + maxMncLength + 1))

/-- The call passes its checks: it gets to the codes of the card. -/
structure ReachesCodes (cfg : Config) (property : Properties) (ctx : DbusContext)
    (slotId length : ℤ) : Prop where
  slot : isValidSlotid cfg slotId = true
  ready : ctx.clientReady = true
  length : maxMccLength + maxMncLength + 1 ≤ length
  proxy : ctx.dbusProxy slotId.toNat .sim ≠ null
  present : (property (ctx.dbusProxy slotId.toNat .sim) "Present").bind Iter.getFlag = some true

/-- The proxy of the slot has the two codes, which have no terminator in them, and says of the card
that it is there with a value that can be read through an int. -/
structure HasCodes (property : Properties) (proxy : Ptr) (mcc mnc : String) : Prop where
  country : (property proxy "MobileCountryCode").bind Iter.getString = some mcc
  network : (property proxy "MobileNetworkCode").bind Iter.getString = some mnc
  countryNulFree : 0 ∉ bytes mcc
  networkNulFree : 0 ∉ bytes mnc
  present : ∀ value, property proxy "Present" = some value → value.isInt = true

/-- The loop writes what a code starts with, if the code has so many bytes. -/
theorem copyCode_eq (max : ℕ) (code out : List UInt8) (i : ℕ) :
    copyCode max code out i =
      if max ≤ code.length then writeFrom out i (code.take max) else none := by
  induction max generalizing code out i with
  | zero => simp [copyCode]
  | succ max ih =>
    cases code with
    | nil => simp [copyCode]
    | cons c code =>
      rw [copyCode, List.take_succ_cons, writeFrom_cons, List.length_cons]
      by_cases hle : max ≤ code.length
      · simp [ih, hle]
      · simp [ih, hle]

theorem copyCode_bytes (max : ℕ) (code : String) (out : List UInt8) (i : ℕ) :
    copyCode max (bytes code ++ [0]) out i =
      (codeCells max code).bind fun cells => writeFrom out i cells := by
  rw [copyCode_eq, codeCells]
  split
  · rfl
  · rfl

section

variable {cfg : Config} {property : Properties} {ctx : DbusContext} {slotId length : ℤ}
  {proxy : Ptr} {out : List UInt8} {mcc mnc : String}

theorem length_of_codeCells {max : ℕ} {code : String} {cells : List UInt8}
    (h : codeCells max code = some cells) : cells.length = max := by
  obtain ⟨hle, rfl⟩ := codeCells_eq_some_iff.mp h
  rw [List.length_take, List.length_append, length_bytes, List.length_singleton]
  exact Nat.min_eq_left hle

theorem copyCodesInto_eq :
    copyCodesInto property proxy out = (copyCodes property proxy).bind (store out) := by
  unfold copyCodesInto copyCodes
  cases property proxy "MobileCountryCode" with
  | none =>
    cases property proxy "MobileNetworkCode" with
    | none => rfl
    | some mncValue => cases hmnc : mncValue.getString <;> simp [hmnc, store]
  | some mccValue =>
    cases property proxy "MobileNetworkCode" with
    | none => cases hmcc : mccValue.getString <;> simp [hmcc, store]
    | some mncValue =>
      simp only [Option.bind_eq_bind, Option.bind_assoc, copyCode_bytes]
      congr 1
      funext mcc
      congr 1
      funext mnc
      cases hmcc : codeCells maxMccLength mcc with
      | none => rfl
      | some mccCells =>
        -- the second loop goes on where the first one stopped
        have hmccLength := length_of_codeCells hmcc
        simp only [Option.bind_some]
        cases hmnc : codeCells maxMncLength mnc with
        | none =>
          cases writeFrom out 0 mccCells <;> rfl
        | some mncCells =>
          have hmncLength := length_of_codeCells hmnc
          simp only [Option.bind_some, store, List.append_assoc, writeFrom_append, hmccLength,
            hmncLength, Nat.zero_add, Option.map_bind, writeFrom_cons, writeFrom_nil,
            Function.comp_def, Option.map_some]

/-- The loops store in the buffer what `tapiSimGetSimOperator` says is written. -/
theorem getSimOperatorInto_eq (context : Option DbusContext) :
    getSimOperatorInto cfg property context slotId length out =
      (tapiSimGetSimOperator cfg property context slotId length).bind (store out) := by
  cases context with
  | none => rfl
  | some ctx =>
    simp only [getSimOperatorInto, tapiSimGetSimOperator, copyCodesInto_eq]
    -- a call that fails a check stores nothing
    by_cases hslot : (!isValidSlotid cfg slotId) = true
    · rw [if_pos hslot, if_pos hslot]
      rfl
    · rw [if_neg hslot, if_neg hslot]
      by_cases hready : (!ctx.clientReady) = true
      · rw [if_pos hready, if_pos hready]
        rfl
      · rw [if_neg hready, if_neg hready]
        by_cases hlength : length < maxMccLength + maxMncLength + 1
        · rw [if_pos hlength, if_pos hlength]
          rfl
        · rw [if_neg hlength, if_neg hlength, Option.bind_assoc]
          congr 1
          funext present
          split
          · rfl
          · split
            · rfl
            · rfl

theorem getSimOperatorInto_of_reachesCodes
    (h : ReachesCodes cfg property ctx slotId length) :
    getSimOperatorInto cfg property (some ctx) slotId length out =
      copyCodesInto property (ctx.dbusProxy slotId.toNat .sim) out := by
  obtain ⟨value, hvalue, hflag⟩ := Option.bind_eq_some_iff.mp h.present
  have hlength : ¬ length < maxMccLength + maxMncLength + 1 := Int.not_lt.mpr h.length
  simp only [getSimOperatorInto, h.slot, h.ready, hlength, hvalue, hflag, tapiSimHasIccCard,
    h.proxy, Bool.not_true, Bool.false_eq_true, if_false, Option.map_some, Option.bind_some,
    ne_eq, not_true_eq_false]

/-- A call that fails a check returns an error, and leaves the buffer as it was. -/
theorem getSimOperatorInto_of_not_reachesCodes
    (hpresent : ∀ value,
      property (ctx.dbusProxy slotId.toNat .sim) "Present" = some value → value.isInt = true)
    (h : ¬ ReachesCodes cfg property ctx slotId length) :
    ∃ code, getSimOperatorInto cfg property (some ctx) slotId length out = some (code, out) ∧
      code ≠ ok := by
  by_cases hslot : isValidSlotid cfg slotId = true
  · by_cases hready : ctx.clientReady = true
    · by_cases hlength : length < maxMccLength + maxMncLength + 1
      · exact ⟨-einval, by simp [getSimOperatorInto, hslot, hready, hlength], by decide⟩
      · refine ⟨-einval, ?_, by decide⟩
        simp only [getSimOperatorInto, hslot, hready, hlength, Bool.not_true,
          Bool.false_eq_true, if_false, tapiSimHasIccCard]
        cases hvalue : property (ctx.dbusProxy slotId.toNat .sim) "Present" with
        | none =>
          by_cases hproxy : ctx.dbusProxy slotId.toNat .sim = null <;> simp [hproxy]
        | some value =>
          obtain ⟨flag, hflag⟩ : ∃ flag, value.getFlag = some flag := by
            rw [← Option.isSome_iff_exists, Iter.isSome_getFlag]
            exact hpresent value hvalue
          by_cases hproxy : ctx.dbusProxy slotId.toNat .sim = null
          · simp [hflag, hproxy]
          · -- all that is left is a card that is not there
            have habsent : flag ≠ true := by
              rintro rfl
              exact h ⟨hslot, hready, Int.not_lt.mp hlength, hproxy, by
                rw [hvalue, Option.bind_some, hflag]⟩
            simp [hflag, hproxy, habsent]
    · exact ⟨-eagain, by simp [getSimOperatorInto, hslot, hready], by decide⟩
  · exact ⟨-einval, by simp [getSimOperatorInto, hslot], by decide⟩

theorem HasCodes.copyCodes_eq (h : HasCodes property proxy mcc mnc) :
    copyCodes property proxy =
      (codeCells maxMccLength mcc).bind fun mccCells =>
        (codeCells maxMncLength mnc).bind fun mncCells =>
          some (ok, some (mccCells ++ mncCells ++ [0])) := by
  obtain ⟨mccValue, hmccValue, hmcc⟩ := Option.bind_eq_some_iff.mp h.country
  obtain ⟨mncValue, hmncValue, hmnc⟩ := Option.bind_eq_some_iff.mp h.network
  simp only [copyCodes, hmccValue, hmncValue, hmcc, hmnc, Option.bind_eq_bind, Option.bind_some]

/-- What the loops leave in a buffer that is long enough. -/
theorem HasCodes.copyCodesInto_eq_some_iff (h : HasCodes property proxy mcc mnc)
    (hout : maxMccLength + maxMncLength + 1 ≤ out.length) {code : ℤ} {out' : List UInt8} :
    copyCodesInto property proxy out = some (code, out') ↔
      code = ok ∧ maxMccLength ≤ mcc.utf8ByteSize + 1 ∧ maxMncLength ≤ mnc.utf8ByteSize + 1 ∧
        out' = (bytes mcc ++ [0]).take maxMccLength ++ (bytes mnc ++ [0]).take maxMncLength ++
          [0] ++ out.drop (maxMccLength + maxMncLength + 1) := by
  -- the cells that are written are the first seven of the buffer
  have hstore : ∀ mccCells mncCells, codeCells maxMccLength mcc = some mccCells →
      codeCells maxMncLength mnc = some mncCells →
      writeFrom out 0 (mccCells ++ mncCells ++ [0]) =
        some (mccCells ++ mncCells ++ [0] ++ out.drop (maxMccLength + maxMncLength + 1)) := by
    intro mccCells mncCells hmcc hmnc
    have hlength : (mccCells ++ mncCells ++ [0]).length = maxMccLength + maxMncLength + 1 := by
      rw [List.length_append, List.length_append, length_of_codeCells hmcc,
        length_of_codeCells hmnc, List.length_singleton]
    rw [writeFrom_zero (by omega), hlength]
  rw [copyCodesInto_eq, h.copyCodes_eq]
  constructor
  · intro hinto
    obtain ⟨r, hr, hinto⟩ := Option.bind_eq_some_iff.mp hinto
    obtain ⟨mccCells, hmcc, hr⟩ := Option.bind_eq_some_iff.mp hr
    obtain ⟨mncCells, hmnc, hr⟩ := Option.bind_eq_some_iff.mp hr
    obtain rfl := Option.some_inj.mp hr
    rw [store, hstore _ _ hmcc hmnc, Option.map_some, Option.some_inj, Prod.mk.injEq] at hinto
    obtain ⟨hmccLength, rfl⟩ := codeCells_eq_some_iff.mp hmcc
    obtain ⟨hmncLength, rfl⟩ := codeCells_eq_some_iff.mp hmnc
    exact ⟨hinto.1.symm, hmccLength, hmncLength, hinto.2.symm⟩
  · rintro ⟨rfl, hmccLength, hmncLength, rfl⟩
    have hmcc := codeCells_eq_some_iff.mpr ⟨hmccLength, rfl⟩
    have hmnc := codeCells_eq_some_iff.mpr ⟨hmncLength, rfl⟩
    rw [hmcc, hmnc, Option.bind_some, Option.bind_some, Option.bind_some, store,
      hstore _ _ hmcc hmnc, Option.map_some]

/-- A country code of two characters is copied with its terminator, where the network code has to
stand. -/
theorem prefix_operator_iff {country network rest : List UInt8} (hnul : 0 ∉ network)
    (hcountry : 2 ≤ country.length) (hnetwork : 2 ≤ network.length) :
    country.take 3 ++ network.take 3 ++ [0] <+:
        (country ++ [0]).take 3 ++ (network ++ [0]).take 3 ++ [0] ++ rest ↔
      3 ≤ country.length := by
  constructor
  · intro hprefix
    by_contra hshort
    have htwo : country.length = 2 := by omega
    obtain ⟨c, d, rfl⟩ := List.length_eq_two.mp htwo
    obtain ⟨b, network, rfl⟩ :=
      List.exists_cons_of_length_pos (Nat.lt_of_lt_of_le Nat.zero_lt_two hnetwork)
    -- the third cell holds the terminator, and not the first character of the network
    have hb : b = 0 := by
      simp only [List.take_succ_cons, List.take_nil, List.nil_append, List.cons_append,
        List.cons_prefix_cons] at hprefix
      exact hprefix.2.2.1
    exact hnul (hb ▸ List.mem_cons_self)
  · intro hlong
    have htake : (country ++ [0]).take 3 = country.take 3 := List.take_append_of_le_length hlong
    rw [htake, List.append_assoc, List.append_assoc, List.append_assoc]
    apply (List.prefix_append_right_inj _).mpr
    by_cases hthree : 3 ≤ network.length
    · rw [List.take_append_of_le_length hthree, ← List.append_assoc]
      exact List.prefix_append _ _
    · have htwo : network.length = 2 := by omega
      obtain ⟨b, c, rfl⟩ := List.length_eq_two.mp htwo
      exact ⟨[0] ++ rest, rfl⟩

/-- A call that reaches the codes leaves the operator in the buffer exactly if the country code has
three characters and the network code two. -/
theorem leavesOperator_iff (hcodes : HasCodes property (ctx.dbusProxy slotId.toNat .sim) mcc mnc)
    (hout : maxMccLength + maxMncLength + 1 ≤ out.length) :
    LeavesOperator cfg property ctx slotId length out mcc mnc ↔
      (ReachesCodes cfg property ctx slotId length →
        3 ≤ mcc.utf8ByteSize ∧ 2 ≤ mnc.utf8ByteSize) := by
  rw [← length_bytes mcc, ← length_bytes mnc]
  constructor
  · rintro ⟨code, out', hinto, hleft⟩ hreaches
    rw [getSimOperatorInto_of_reachesCodes hreaches, hcodes.copyCodesInto_eq_some_iff hout,
      ← length_bytes mcc, ← length_bytes mnc] at hinto
    obtain ⟨rfl, hmcc, hmnc, rfl⟩ := hinto
    have hmcc' : 2 ≤ (bytes mcc).length := Nat.le_of_succ_le_succ hmcc
    have hmnc' : 2 ≤ (bytes mnc).length := Nat.le_of_succ_le_succ hmnc
    exact ⟨(prefix_operator_iff hcodes.networkNulFree hmcc' hmnc').mp (hleft rfl).1, hmnc'⟩
  · intro hlengths
    by_cases hreaches : ReachesCodes cfg property ctx slotId length
    · obtain ⟨hmcc, hmnc⟩ := hlengths hreaches
      have hinto := (hcodes.copyCodesInto_eq_some_iff hout).mpr
        ⟨rfl, Nat.le_succ_of_le (length_bytes mcc ▸ hmcc),
          Nat.succ_le_succ (length_bytes mnc ▸ hmnc), rfl⟩
      refine ⟨_, _, (getSimOperatorInto_of_reachesCodes hreaches).trans hinto, fun _ => ⟨?_, ?_⟩⟩
      · exact (prefix_operator_iff hcodes.networkNulFree (Nat.le_of_succ_le hmcc) hmnc).mpr hmcc
      · apply List.drop_left'
        simp only [List.length_append, List.length_take, List.length_singleton, maxMccLength,
          maxMncLength]
        omega
    · obtain ⟨code, hinto, hfailed⟩ :=
        getSimOperatorInto_of_not_reachesCodes hcodes.present hreaches
      exact ⟨code, out, hinto, fun hcode => absurd hcode hfailed⟩

end

/-- A card that is there, with its codes. -/
def cardWithCodes (mcc mnc : String) : Properties := fun _ name =>
  if name = "Present" then some [.boolean 1]
  else if name = "MobileCountryCode" then some [.string mcc]
  else if name = "MobileNetworkCode" then some [.string mnc]
  else none

/-- A buffer of seven bytes. -/
def sevenBytes : List UInt8 := List.replicate 7 0xff

/-- A country code that is empty, as it is before the card is read, is read behind its
terminator. -/
theorem not_leavesOperator_emptyCode :
    ¬ LeavesOperator twoModems (cardWithCodes "" "01") idleContext 0 7 sevenBytes "" "01" := by
  rintro ⟨code, out', hinto, -⟩
  have hundefined : getSimOperatorInto twoModems (cardWithCodes "" "01") (some idleContext) 0 7
      sevenBytes = none := by decide
  rw [hundefined] at hinto
  contradiction

theorem leavesOperator_cardWithCodes :
    LeavesOperator twoModems (cardWithCodes "460" "01") idleContext 0 7 sevenBytes "460" "01" :=
  (leavesOperator_iff
    ⟨by decide, by decide, by decide, by decide, by
      intro value hvalue
      obtain rfl := Option.some_inj.mp hvalue
      rfl⟩ (by decide)).mpr fun _ => ⟨by decide, by decide⟩

end Telephony.Sim
