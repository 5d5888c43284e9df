import Telephony.Manager.PhoneNumber

/-!
# The covered network of a message

Each message that is sent or received is reported with the network that it goes through. The codes
of the network are read from its proxy, and each of their digits is replaced by a letter.

## Main definitions

* `Network.tapiNetworkGetMcc`, `Network.tapiNetworkGetMnc` — the functions that read the codes
* `Sms.getCoveredPlmn`, `Sms.tapiSmsGetCovertedPlmn` — the functions that write the letters
* `Sms.KeepsBuffer` — the buffer is not left, and its text has an end

## Main results

* `Sms.getCoveredPlmn_eq` — what the loops write
* `Sms.keepsBuffer_iff` — which codes the buffer is kept for
-/

namespace Telephony.Network

open Manager

/-! ## Reading the codes -/

/-- The texts that the proxies have as their properties. -/
abbrev Codes := Ptr → String → Option String

section

variable (cfg : Config) (codes : Codes) (context : Option DbusContext) (slotId : ℤ)

/-- What is read of a property of the network: the return value, and what the caller's variable
holds. -/
def networkCode (name : String) (out : CString) : ℤ × CString :=
  match checkedProxy cfg context slotId .netreg with
  | .error code => (code, out)
  | .ok proxy =>
    match codes proxy name with
    | none => (-eio, out)
    | some code => (ok, .text code)

/-- `tapi_network_get_mcc`. -/
def tapiNetworkGetMcc (out : CString) : ℤ × CString :=
  networkCode cfg codes context slotId "MobileCountryCode" out

/-- `tapi_network_get_mnc`. -/
def tapiNetworkGetMnc (out : CString) : ℤ × CString :=
  networkCode cfg codes context slotId "MobileNetworkCode" out

end

variable {cfg : Config} {codes : Codes} {context : Option DbusContext} {slotId : ℤ}
  {mcc mnc name : String} {proxy : Ptr} {out : CString}

theorem networkCode_of_error {code : ℤ}
    (h : checkedProxy cfg context slotId .netreg = .error code) :
    networkCode cfg codes context slotId name out = (code, out) := by
  rw [networkCode, h]

theorem networkCode_of_ok (h : checkedProxy cfg context slotId .netreg = .ok proxy) :
    networkCode cfg codes context slotId name out =
      (codes proxy name).elim (-eio, out) fun code => (ok, .text code) := by
  cases hcode : codes proxy name <;> simp [networkCode, h, hcode]

/-- A check that fails has a code of its own. -/
theorem ne_ok_of_checkedProxy {code : ℤ} {type : ProxyType}
    (h : checkedProxy cfg context slotId type = .error code) : code ≠ ok := by
  unfold checkedProxy at h
  cases context with
  | none =>
    cases h
    decide
  | some ctx =>
    dsimp only at h
    split at h
    · cases h
      decide
    · split at h
      · cases h
        decide
      · split at h
        · cases h
          decide
        · contradiction

/-- Both codes are read, through a proxy that has passed the checks. -/
def ReadsCodes (cfg : Config) (codes : Codes) (context : Option DbusContext) (slotId : ℤ)
    (mcc mnc : String) : Prop :=
  ∃ proxy, checkedProxy cfg context slotId .netreg = .ok proxy ∧
    codes proxy "MobileCountryCode" = some mcc ∧ codes proxy "MobileNetworkCode" = some mnc

end Telephony.Network

namespace Telephony.Sms

open Cells Manager Network

/-! ## Writing the letters -/

/-- What the loops see of a code: its bytes in front of the first terminator. -/
def codeBytes (code : String) : List UInt8 := text (bytes code)

/-- `c - '0' + 'a'`, as a `char`. -/
def covered (c : UInt8) : UInt8 := c - 48 + 97

/-- `get_covered_plmn`. -/
def getCoveredPlmn (mcc mnc : String) (coveredPlmn : List UInt8) : Option (List UInt8) := do
  let mccEnd := (codeBytes mcc).length
  let afterMcc ← writeFrom coveredPlmn 0 ((codeBytes mcc).map covered)
  let afterMnc ← writeFrom afterMcc mccEnd ((codeBytes mnc).map covered)
  write afterMnc (mccEnd + (codeBytes mnc).length) 0

/-- The places of the buffer. -/
def coveredPlmnLength : ℕ := maxMccLength + maxMncLength + 1

/-- `tapi_sms_get_coverted_plmn`. -/
def tapiSmsGetCovertedPlmn (cfg : Config) (codes : Codes) (context : Option DbusContext)
    (slotId : ℤ) (coveredPlmn : List UInt8) : Option (List UInt8) :=
  let unknown := strncpy coveredPlmn "unknow" coveredPlmnLength
  let mcc := tapiNetworkGetMcc cfg codes context slotId .null
  if mcc.1 ≠ ok then unknown
  else
    let mnc := tapiNetworkGetMnc cfg codes context slotId .null
    if mnc.1 ≠ ok then unknown
    else
      match mcc.2, mnc.2 with
      | .text mcc, .text mnc => getCoveredPlmn mcc mnc coveredPlmn
      | _, _ => none

/-- The function is defined for every content of its buffer, which has a terminator afterwards. -/
def KeepsBuffer (cfg : Config) (codes : Codes) (context : Option DbusContext) (slotId : ℤ) : Prop :=
  ∀ buffer : List UInt8, buffer.length = coveredPlmnLength →
    ∃ buffer', tapiSmsGetCovertedPlmn cfg codes context slotId buffer = some buffer' ∧
      buffer'.length = coveredPlmnLength ∧ 0 ∈ buffer'

section

variable {cfg : Config} {codes : Codes} {context : Option DbusContext} {slotId : ℤ}
  {buffer buffer' : List UInt8} {mcc mnc : String}

/-! ### The loops -/

/-- The two loops write the letters of one code behind those of the other, and then a terminator. -/
theorem getCoveredPlmn_eq :
    getCoveredPlmn mcc mnc buffer =
      writeFrom buffer 0 ((codeBytes mcc).map covered ++ (codeBytes mnc).map covered ++ [0]) := by
  rw [writeFrom_append, writeFrom_append, Option.bind_assoc, List.length_append, List.length_map,
    List.length_map, Nat.zero_add, Nat.zero_add]
  simp [getCoveredPlmn, writeFrom_cons]

theorem isSome_getCoveredPlmn_iff :
    (getCoveredPlmn mcc mnc buffer).isSome = true ↔
      (codeBytes mcc).length + (codeBytes mnc).length < buffer.length := by
  rw [getCoveredPlmn_eq, isSome_writeFrom_iff (Nat.zero_le _), Nat.zero_add, List.length_append,
    List.length_append, List.length_map, List.length_map, List.length_singleton]
  exact Nat.succ_le_iff

theorem mem_of_writeFrom {as : List UInt8} {a : UInt8} (ha : a ∈ as)
    (h : writeFrom buffer 0 as = some buffer') : a ∈ buffer' := by
  rw [eq_of_writeFrom h]
  exact List.mem_append_left _ ha

/-- What has been written ends with a terminator. -/
theorem getCoveredPlmn_keeps (h : getCoveredPlmn mcc mnc buffer = some buffer') :
    buffer'.length = buffer.length ∧ 0 ∈ buffer' := by
  rw [getCoveredPlmn_eq] at h
  have hzero : 0 ∈ (codeBytes mcc).map covered ++ (codeBytes mnc).map covered ++ [0] :=
    List.mem_append_right _ (List.mem_singleton_self 0)
  exact ⟨length_of_writeFrom h, mem_of_writeFrom hzero h⟩

/-- The text for a network that is not known fits. -/
theorem exists_strncpy_unknown (hlen : buffer.length = coveredPlmnLength) :
    ∃ buffer', strncpy buffer "unknow" coveredPlmnLength = some buffer' ∧
      buffer'.length = coveredPlmnLength ∧ 0 ∈ buffer' := by
  have hlength : ((text (bytes "unknow") ++ List.replicate coveredPlmnLength 0).take
      coveredPlmnLength).length = coveredPlmnLength := by
    simp
  have hsome : (strncpy buffer "unknow" coveredPlmnLength).isSome = true := by
    rw [strncpy, isSome_writeFrom_iff (Nat.zero_le _), Nat.zero_add, hlength, hlen]
  obtain ⟨buffer', hbuffer⟩ := Option.isSome_iff_exists.mp hsome
  refine ⟨buffer', hbuffer, (length_of_writeFrom hbuffer).trans hlen, ?_⟩
  exact mem_of_writeFrom (by decide) hbuffer

/-! ### The function -/

theorem tapiSmsGetCovertedPlmn_of_reads (h : ReadsCodes cfg codes context slotId mcc mnc) :
    tapiSmsGetCovertedPlmn cfg codes context slotId buffer = getCoveredPlmn mcc mnc buffer := by
  obtain ⟨proxy, hproxy, hmcc, hmnc⟩ := h
  simp [tapiSmsGetCovertedPlmn, tapiNetworkGetMcc, tapiNetworkGetMnc, networkCode_of_ok hproxy,
    hmcc, hmnc]

/-- If one of the codes cannot be read, the network is not known. -/
theorem tapiSmsGetCovertedPlmn_of_not_reads
    (h : ¬ ∃ mcc mnc, ReadsCodes cfg codes context slotId mcc mnc) :
    tapiSmsGetCovertedPlmn cfg codes context slotId buffer =
      strncpy buffer "unknow" coveredPlmnLength := by
  cases hproxy : checkedProxy cfg context slotId .netreg with
  | error code =>
    have hcode := ne_ok_of_checkedProxy hproxy
    simp [tapiSmsGetCovertedPlmn, tapiNetworkGetMcc, networkCode_of_error hproxy, hcode]
  | ok proxy =>
    have hfailed : -eio ≠ ok := by decide
    cases hmcc : codes proxy "MobileCountryCode" with
    | none =>
      simp [tapiSmsGetCovertedPlmn, tapiNetworkGetMcc, networkCode_of_ok hproxy, hmcc, hfailed]
    | some mcc =>
      cases hmnc : codes proxy "MobileNetworkCode" with
      | none =>
        simp [tapiSmsGetCovertedPlmn, tapiNetworkGetMcc, tapiNetworkGetMnc,
          networkCode_of_ok hproxy, hmcc, hmnc, hfailed]
      | some mnc => exact absurd ⟨mcc, mnc, proxy, hproxy, hmcc, hmnc⟩ h

/-- The buffer is kept exactly if the codes that are read have six digits together at most. -/
theorem keepsBuffer_iff (cfg : Config) (codes : Codes) (context : Option DbusContext)
    (slotId : ℤ) :
    KeepsBuffer cfg codes context slotId ↔
      ∀ mcc mnc, ReadsCodes cfg codes context slotId mcc mnc →
        (codeBytes mcc).length + (codeBytes mnc).length ≤ maxMccLength + maxMncLength := by
  constructor
  · intro h mcc mnc hreads
    have hlen : (List.replicate coveredPlmnLength (0 : UInt8)).length = coveredPlmnLength :=
      List.length_replicate
    obtain ⟨buffer', hbuffer, -⟩ := h _ hlen
    rw [tapiSmsGetCovertedPlmn_of_reads hreads] at hbuffer
    have hlt := isSome_getCoveredPlmn_iff.mp (Option.isSome_iff_exists.mpr ⟨buffer', hbuffer⟩)
    rw [hlen] at hlt
    exact Nat.lt_succ_iff.mp hlt
  · intro h buffer hlen
    by_cases hreads : ∃ mcc mnc, ReadsCodes cfg codes context slotId mcc mnc
    · obtain ⟨mcc, mnc, hreads⟩ := hreads
      rw [tapiSmsGetCovertedPlmn_of_reads hreads]
      have hlt : (codeBytes mcc).length + (codeBytes mnc).length < buffer.length := by
        rw [hlen]
        exact Nat.lt_succ_iff.mpr (h mcc mnc hreads)
      obtain ⟨buffer', hbuffer⟩ := Option.isSome_iff_exists.mp (isSome_getCoveredPlmn_iff.mpr hlt)
      obtain ⟨hlength, hzero⟩ := getCoveredPlmn_keeps hbuffer
      exact ⟨buffer', hbuffer, hlength.trans hlen, hzero⟩
    · rw [tapiSmsGetCovertedPlmn_of_not_reads hreads]
      exact exists_strncpy_unknown hlen

end

/-- A network with a code of three digits and one of four. -/
def longCodes : Codes := fun _ name =>
  if name = "MobileCountryCode" then some "460" else some "0011"

/-- The terminator of seven letters is written behind the buffer. -/
theorem not_keepsBuffer_longCodes : ¬ KeepsBuffer twoModems longCodes (some idleContext) 0 := by
  intro h
  obtain ⟨buffer', hbuffer, -⟩ := h (List.replicate coveredPlmnLength 0) List.length_replicate
  have hnone : tapiSmsGetCovertedPlmn twoModems longCodes (some idleContext) 0
      (List.replicate coveredPlmnLength 0) = none := by decide
  rw [hnone] at hbuffer
  contradiction

end Telephony.Sms
