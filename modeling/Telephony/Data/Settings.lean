import Telephony.Cells
import Telephony.Data.Reply
import Telephony.Dictionary

/-!
# Address settings

The settings of a context come as two dictionaries, one for each version of the protocol, and two
parsers take them apart. The servers among the settings are written to an array of ten places.

## Main definitions

* `Data.fillDns` — the loop over `DomainNameServers`, on the array
* `Data.addressSettings` — what a dictionary says
* `Data.SettingsRead` — both parsers read what the dictionary says

## Main results

* `Data.fillDns_eq` — the loop writes the servers that fit, and stays inside the array
* `Data.settingsRead_iff` — the parsers agree with the dictionary, and so with each other, exactly
  if its values are of the types that they are read as
-/

namespace Telephony.Data

open DBus DBus.PropertyTable Cells

/-! ## Servers -/

/-- The loop over `DomainNameServers`, from an index of the array on. Whether the array is full is
looked at behind a text only. -/
def fillDns (dnsIndex : ℕ) (dns : List String) : Iter → Option (List String)
  | [] => some dns
  | .string server :: list =>
    if server.utf8ByteSize ≤ maxIpStringLength then
      (write dns dnsIndex server).bind fun dns =>
        if maxDataDnsCount ≤ dnsIndex + 1 then some dns else fillDns (dnsIndex + 1) dns list
    else if maxDataDnsCount ≤ dnsIndex then some dns
    else fillDns dnsIndex dns list
  | _ :: list => fillDns dnsIndex dns list

/-- The servers that are texts of a length that is taken. -/
def fittingServers (list : Iter) : List String :=
  list.filterMap fun
    | .string server => if server.utf8ByteSize ≤ maxIpStringLength then some server else none
    | _ => none

theorem dnsServers_eq (list : Iter) :
    dnsServers list = (fittingServers list).take maxDataDnsCount :=
  rfl

theorem length_dnsServers_le (list : Iter) : (dnsServers list).length ≤ maxDataDnsCount := by
  rw [dnsServers_eq]
  exact List.length_take_le _ _

/-- The loop writes one server behind the other, as long as there are places. -/
theorem fillDns_eq_writeFrom {dnsIndex : ℕ} (hindex : dnsIndex < maxDataDnsCount)
    (dns : List String) (list : Iter) :
    fillDns dnsIndex dns list =
      writeFrom dns dnsIndex ((fittingServers list).take (maxDataDnsCount - dnsIndex)) := by
  induction list generalizing dnsIndex dns with
  | nil => simp [fillDns, fittingServers]
  | cons v list ih =>
    have hother : fittingServers (v :: list) = fittingServers list →
        fillDns dnsIndex dns (v :: list) = fillDns dnsIndex dns list →
        fillDns dnsIndex dns (v :: list) = writeFrom dns dnsIndex
          ((fittingServers (v :: list)).take (maxDataDnsCount - dnsIndex)) := by
      intro hskip hloop
      rw [hloop, hskip, ih hindex]
    cases v with
    | text t server =>
      cases t with
      | string =>
        by_cases hfits : server.utf8ByteSize ≤ maxIpStringLength
        · have hservers : fittingServers (.string server :: list) =
              server :: fittingServers list := by simp [fittingServers, hfits]
          have hroom : maxDataDnsCount - dnsIndex = maxDataDnsCount - (dnsIndex + 1) + 1 := by
            omega
          rw [hservers, hroom, List.take_succ_cons, fillDns, if_pos hfits, writeFrom_cons]
          refine Option.bind_congr fun dns' _ => ?_
          -- the last place ends the loop
          by_cases hfull : maxDataDnsCount ≤ dnsIndex + 1
          · rw [if_pos hfull, Nat.sub_eq_zero_of_le hfull, List.take_zero, writeFrom_nil]
          · rw [if_neg hfull, ih (Nat.not_le.mp hfull)]
        · apply hother
          · simp [fittingServers, hfits]
          · rw [fillDns, if_neg hfits, if_neg (Nat.not_le.mpr hindex)]
      | _ => exact hother rfl rfl
    | _ => exact hother rfl rfl

/-- In an array of ten places the loop is defined for every list. It replaces the first places, and
the others stay. -/
theorem fillDns_eq {dns : List String} (hdns : dns.length = maxDataDnsCount) (list : Iter) :
    fillDns 0 dns list = some (dnsServers list ++ dns.drop (dnsServers list).length) := by
  have hroom : (dnsServers list).length ≤ dns.length := by
    rw [hdns]
    exact length_dnsServers_le list
  rw [fillDns_eq_writeFrom (by decide), Nat.sub_zero, ← dnsServers_eq, writeFrom_zero hroom]

/-! ## What a dictionary says -/

/-- The text behind a key, if it is not longer than `max`. -/
def settingText (ps : List (String × Value)) (key : String) (max : ℕ) : String :=
  match ps.lookup key with
  | some (.text _ s) => if s.utf8ByteSize ≤ max then s else ""
  | _ => ""

/-- The first ten servers that fit, and nothing in the places behind them. -/
def settingServers (ps : List (String × Value)) : List String :=
  let servers :=
    match ps.lookup "DomainNameServers" with
    | some v => (Iter.recurse [v]).elim [] dnsServers
    | none => []
  servers ++ List.replicate (maxDataDnsCount - servers.length) ""

/-- What a dictionary says; the proxy is not among the settings. -/
def addressSettings (ps : List (String × Value)) (proxy : String) : IpAddressSettings where
  interface := settingText ps "Interface" maxIpInterfaceNameLength
  ip := settingText ps "Address" maxIpStringLength
  gateway := settingText ps "Gateway" maxIpStringLength
  dns := settingServers ps
  proxy := proxy
  pcscf := settingText ps "Pcscf" maxIpStringLength

/-- The values of the known keys are of the types that they are read as. -/
def ReadableSettings (ps : List (String × Value)) : Prop :=
  ipProperties.readsAll (ps.map entry) = true

instance (ps : List (String × Value)) : Decidable (ReadableSettings ps) :=
  inferInstanceAs (Decidable (_ = true))

/-! ## Parsing -/

/-- Every property leaves the fields of the others alone. -/
theorem keeps_of_mem_ipProperties {p : String × Property IpAddressSettings}
    (hp : p ∈ ipProperties) {value : Iter} {x x' : IpAddressSettings}
    (h : p.2.read value x = some x') :
    (p.1 ≠ "Interface" → x'.interface = x.interface) ∧ (p.1 ≠ "Address" → x'.ip = x.ip) ∧
      (p.1 ≠ "Gateway" → x'.gateway = x.gateway) ∧
      (p.1 ≠ "DomainNameServers" → x'.dns = x.dns) ∧ (p.1 ≠ "Pcscf" → x'.pcscf = x.pcscf) ∧
      x'.proxy = x.proxy := by
  simp only [ipProperties, List.mem_cons, List.not_mem_nil, or_false] at hp
  rcases hp with rfl | rfl | rfl | rfl | rfl
  all_goals
    obtain ⟨_, _, rfl⟩ := Option.map_eq_some_iff.mp h
    simp

section Parse

variable {ps : List (String × Value)} (hkeys : (ps.map Prod.fst).Nodup)
  {ip ip' : IpAddressSettings} (h : ipProperties.readAll (ps.map entry) ip = some ip')
include hkeys h

/-- A text that is copied into an empty field. -/
theorem text_of_readAll {get : IpAddressSettings → String} {key : String} {max : ℕ}
    (set : String → IpAddressSettings → IpAddressSettings)
    (hread : ∀ value x, ipProperties.fill key value x =
      value.getString.map fun s => set (strcpyWithin max (get x) s) x)
    (hget : ∀ s x, get (set s x) = s)
    (hkeeps : ∀ p ∈ ipProperties, p.1 ≠ key → ∀ value x x', p.2.read value x = some x' →
      get x' = get x)
    (hempty : get ip = "") : get ip' = settingText ps key max := by
  let update (value : Iter) (t : String) : String :=
    (value.getString.map (strcpyWithin max t)).getD t
  have hupdate : ∀ value x x', ipProperties.fill key value x = some x' →
      get x' = update value (get x) := by
    intro value x x' hfill
    rw [hread] at hfill
    obtain ⟨s, hs, rfl⟩ := Option.map_eq_some_iff.mp hfill
    simp only [update, hs, hget, Option.map_some, Option.getD_some]
  rw [readAll_field hupdate (fill_keeps hkeeps) hkeys h, hempty, settingText]
  cases ps.lookup key with
  | none => rfl
  | some v => cases v <;> rfl

theorem dns_of_readAll (hempty : ip.dns = List.replicate maxDataDnsCount "") :
    ip'.dns = settingServers ps := by
  let update (value : Iter) (dns : List String) : List String :=
    (value.recurse.map fun list =>
      dnsServers list ++ dns.drop (dnsServers list).length).getD dns
  have hupdate : ∀ value x x', ipProperties.fill "DomainNameServers" value x = some x' →
      x'.dns = update value x.dns := by
    intro value x x' hfill
    obtain ⟨list, hlist, rfl⟩ := Option.map_eq_some_iff.mp hfill
    simp only [update, hlist, Option.map_some, Option.getD_some]
  have hkeeps : ∀ p ∈ ipProperties, p.1 ≠ "DomainNameServers" → ∀ value x x',
      p.2.read value x = some x' → x'.dns = x.dns :=
    fun p hp hkey value x x' hread => (keeps_of_mem_ipProperties hp hread).2.2.2.1 hkey
  rw [readAll_field hupdate (fill_keeps hkeeps) hkeys h, hempty, settingServers]
  cases ps.lookup "DomainNameServers" with
  | none => rfl
  | some v =>
    cases hlist : Iter.recurse [v] with
    | none => simp [update, hlist]
    | some list => simp [update, hlist]

/-- From a cleared block the settings become what the dictionary says. -/
theorem eq_addressSettings
    (hclear : ip = ⟨"", "", "", List.replicate maxDataDnsCount "", ip.proxy, ""⟩) :
    ip' = addressSettings ps ip.proxy := by
  have hproxy : ip'.proxy = ip.proxy := by
    refine readAll_preserves _ IpAddressSettings.proxy ?_ h
    intro p hp value x x' hread
    exact (keeps_of_mem_ipProperties hp hread).2.2.2.2.2
  have hinterface : ip'.interface = settingText ps "Interface" maxIpInterfaceNameLength :=
    text_of_readAll hkeys h (fun s x => { x with interface := s }) (fun _ _ => rfl)
      (fun _ _ => rfl)
      (fun p hp hkey value x x' hread => (keeps_of_mem_ipProperties hp hread).1 hkey)
      (congrArg IpAddressSettings.interface hclear)
  have hip : ip'.ip = settingText ps "Address" maxIpStringLength :=
    text_of_readAll hkeys h (fun s x => { x with ip := s }) (fun _ _ => rfl) (fun _ _ => rfl)
      (fun p hp hkey value x x' hread => (keeps_of_mem_ipProperties hp hread).2.1 hkey)
      (congrArg IpAddressSettings.ip hclear)
  have hgateway : ip'.gateway = settingText ps "Gateway" maxIpStringLength :=
    text_of_readAll hkeys h (fun s x => { x with gateway := s }) (fun _ _ => rfl)
      (fun _ _ => rfl)
      (fun p hp hkey value x x' hread => (keeps_of_mem_ipProperties hp hread).2.2.1 hkey)
      (congrArg IpAddressSettings.gateway hclear)
  have hdns : ip'.dns = settingServers ps :=
    dns_of_readAll hkeys h (congrArg IpAddressSettings.dns hclear)
  have hpcscf : ip'.pcscf = settingText ps "Pcscf" maxIpStringLength :=
    text_of_readAll hkeys h (fun s x => { x with pcscf := s }) (fun _ _ => rfl)
      (fun _ _ => rfl)
      (fun p hp hkey value x x' hread => (keeps_of_mem_ipProperties hp hread).2.2.2.2.1 hkey)
      (congrArg IpAddressSettings.pcscf hclear)
  cases ip'
  simp only at hinterface hip hgateway hdns hpcscf hproxy
  rw [addressSettings, hinterface, hip, hgateway, hdns, hpcscf, hproxy]

end Parse

/-- The dictionary as both parsers read it, from the variant that holds it on. -/
theorem parseIpProperties_dict {ps : List (String × Value)} (hkeys : (ps.map Prod.fst).Nodup)
    {cleared : IpAddressSettings}
    (hclear : cleared = ⟨"", "", "", List.replicate maxDataDnsCount "", cleared.proxy, ""⟩) :
    parseIpProperties cleared [dict ps] =
      if ReadableSettings ps then some (addressSettings ps cleared.proxy) else none := by
  have hparse : parseIpProperties cleared [dict ps] =
      ipProperties.readAll (ps.map entry) cleared := rfl
  rw [hparse]
  by_cases hreads : ReadableSettings ps
  · have hsome : (ipProperties.readAll (ps.map entry) cleared).isSome = true := by
      rw [isSome_readAll]
      exact hreads
    obtain ⟨ip, hip⟩ := Option.isSome_iff_exists.mp hsome
    rw [if_pos hreads, hip, eq_addressSettings hkeys hip hclear]
  · rw [if_neg hreads, ← Option.not_isSome_iff_eq_none, isSome_readAll]
    exact hreads

/-- Both parsers read what the dictionary says, and so the same of the same settings, and the loop
over the servers stays inside its array. -/
structure SettingsRead (ps : List (String × Value)) : Prop where
  ipv4 (block : IpAddressSettings) :
    parseIpv4Properties (some block) [dict ps] = some (some (addressSettings ps ""))
  ipv6 (block : IpAddressSettings) :
    parseIpv6Properties (some block) [dict ps] = some (some (addressSettings ps block.proxy))
  servers (list : Iter) (dns : List String) : dns.length = maxDataDnsCount →
    fillDns 0 dns list = some (dnsServers list ++ dns.drop (dnsServers list).length)

/-- The parsers read what the dictionary says exactly if the values of the known keys are of the
types that they are read as. -/
theorem settingsRead_iff {ps : List (String × Value)} (hkeys : (ps.map Prod.fst).Nodup) :
    SettingsRead ps ↔ ReadableSettings ps := by
  constructor
  · intro h
    by_contra hreads
    have hread := h.ipv4 ⟨"", "", "", List.replicate maxDataDnsCount "", "", ""⟩
    rw [parseIpv4Properties, parseIpProperties_dict hkeys rfl, if_neg hreads] at hread
    cases hread
  · intro hreads
    refine ⟨fun block => ?_, fun block => ?_, fun list _ hdns => fillDns_eq hdns list⟩
    · rw [parseIpv4Properties, parseIpProperties_dict hkeys rfl, if_pos hreads]
      rfl
    · rw [parseIpv6Properties, parseIpProperties_dict hkeys rfl, if_pos hreads]
      rfl

/-- The settings of a network with two servers and no gateway. -/
def sampleSettings : List (String × Value) :=
  [("Address", .string "10.0.0.2"),
    ("DomainNameServers", .array (.text .string) [.string "10.0.0.1", .string "10.0.1.1"])]

theorem settingsRead_iff_sampleSettings :
    (sampleSettings.map Prod.fst).Nodup ∧
      (SettingsRead sampleSettings ↔ ReadableSettings sampleSettings) :=
  ⟨by decide, settingsRead_iff (by decide)⟩

/-- Settings in which the address is a number. -/
def numericAddress : List (String × Value) := [("Address", .fixed .int32 0x0a000002)]

/-- A number is read into a pointer to a text, and the length of that is asked for. -/
theorem not_settingsRead_numericAddress :
    (numericAddress.map Prod.fst).Nodup ∧ ¬ SettingsRead numericAddress := by
  refine ⟨by decide, fun h => ?_⟩
  have hread := h.ipv4 ⟨"", "", "", [], "", ""⟩
  have hnone : parseIpv4Properties (some ⟨"", "", "", [], "", ""⟩) [dict numericAddress] = none :=
    rfl
  rw [hnone] at hread
  cases hread

end Telephony.Data
