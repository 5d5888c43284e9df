import Telephony.Call.Reply
import Telephony.Cells
import Telephony.Data.Reply
import Telephony.Network.Reply

/-!
# Texts in the structures of the library

The decoders copy some thirty texts into `char` arrays of the structures that they fill. Each copy
is guarded by a constant of its own, and the arrays are declared with constants as well.

## Main definitions

* `Telephony.TextCopy` — a copy, with its guard and the declared length of its array
* `Telephony.copyWithin` — the copy, on the bytes of the array
* `Telephony.TextCopy.Copies` — what a copy does with a text
* `Telephony.CopiesAll` — a list of copies is all that is copied of a dictionary

## Main results

* `Telephony.copiesAll_of_guarded` — a decoder copies well if every guard is one below the length of
  its array
* `Telephony.texts_copied` — the decoders of calls, registrations, cells, operators, contexts and
  addresses copy well
-/

namespace Telephony

open DBus Cells

variable {σ : Type}

/-! ## Copies -/

/-- A copy of the text behind a key into a `char` array: the guard `bound` in front of it, and the
declared length `size` of the array. -/
structure TextCopy (σ : Type) where
  key : String
  bound : ℕ
  size : ℕ
  get : σ → String
  set : String → σ → σ

/-- The guard and the copy behind it, on the bytes of the array. -/
def copyWithin (bound : ℕ) (array : List UInt8) (s : String) : Option (List UInt8) :=
  if s.utf8ByteSize ≤ bound then strcpy array s else some array

namespace TextCopy

/-- A text that fits its array together with its terminator. -/
def Fits (c : TextCopy σ) (s : String) : Prop := s.utf8ByteSize < c.size

/-- The field becomes the text if that fits, and otherwise stays; either way nothing is written
outside the array, and no other field changes. -/
structure Copies (c : TextCopy σ) (fill : String → Iter → σ → Option σ) (s : String) : Prop where
  inside (array : List UInt8) : array.length = c.size → ∃ array',
    copyWithin c.bound array s = some array' ∧ array'.length = c.size ∧
      (c.Fits s → Holds array' s) ∧ (¬ c.Fits s → array' = array)
  becomes (x : σ) : c.Fits s → fill c.key [.string s] x = some (c.set s x)
  keeps (x : σ) : ¬ c.Fits s → fill c.key [.string s] x = some x
  get_set (x : σ) : c.get (c.set s x) = s
  others (x : σ) : c.set (c.get x) (c.set s x) = x

/-- The field of a copy, which no other part of the structure depends on. -/
structure IsField (c : TextCopy σ) : Prop where
  get_set (s : String) (x : σ) : c.get (c.set s x) = s
  set_set (s t : String) (x : σ) : c.set t (c.set s x) = c.set t x
  set_get (x : σ) : c.set (c.get x) x = x

theorem copyWithin_of_guarded {c : TextCopy σ} (hguard : c.bound + 1 = c.size) (s : String)
    {array : List UInt8} (harray : array.length = c.size) :
    ∃ array', copyWithin c.bound array s = some array' ∧ array'.length = c.size ∧
      (c.Fits s → Holds array' s) ∧ (¬ c.Fits s → array' = array) := by
  unfold copyWithin Fits
  by_cases hfits : s.utf8ByteSize ≤ c.bound
  · have hroom : s.utf8ByteSize < array.length := by omega
    obtain ⟨array', hcopy⟩ := Option.isSome_iff_exists.mp (isSome_strcpy_iff.mpr hroom)
    refine ⟨array', by rw [if_pos hfits, hcopy], ?_, fun _ => holds_of_strcpy hcopy, ?_⟩
    · rw [length_of_strcpy hcopy, harray]
    · intro hlong
      omega
  · refine ⟨array, if_neg hfits, harray, ?_, fun _ => rfl⟩
    intro hshort
    omega

/-- The copy is made behind its key, into a field, and its guard leaves room for the terminator
and for nothing else. -/
structure Guarded (c : TextCopy σ) (fill : String → Iter → σ → Option σ) : Prop where
  guard : c.bound + 1 = c.size
  field : c.IsField
  fill_eq (s : String) (x : σ) :
    fill c.key [.string s] x = some (c.set (strcpyWithin c.bound (c.get x) s) x)

/-- A copy with the right guard, into a field, does what it is for. -/
theorem Guarded.copies {c : TextCopy σ} {fill : String → Iter → σ → Option σ}
    (h : c.Guarded fill) (s : String) : c.Copies fill s where
  inside _ := copyWithin_of_guarded h.guard s
  becomes x hfits := by
    have hle : s.utf8ByteSize ≤ c.bound := by
      have hguard := h.guard
      unfold Fits at hfits
      omega
    rw [h.fill_eq, strcpyWithin, if_pos hle]
  keeps x hlong := by
    have hgt : ¬ s.utf8ByteSize ≤ c.bound := by
      have hguard := h.guard
      unfold Fits at hlong
      omega
    rw [h.fill_eq, strcpyWithin, if_neg hgt, h.field.set_get]
  get_set := h.field.get_set s
  others x := by rw [h.field.set_set, h.field.set_get]

end TextCopy

/-- A decoder copies texts in the listed ways and in no other: what stands behind another key
leaves all of the arrays as they are. -/
structure CopiesAll (copies : List (TextCopy σ)) (table : PropertyTable σ) : Prop where
  each : ∀ c ∈ copies, ∀ s, c.Copies table.fill s
  only : ∀ key ∉ copies.map TextCopy.key, ∀ value x x', table.fill key value x = some x' →
    ∀ c ∈ copies, c.get x' = c.get x

/-- The property leaves the arrays of all copies as they are. -/
def Leaves (copies : List (TextCopy σ)) (p : Property σ) : Prop :=
  ∀ value x x', p.read value x = some x' → ∀ c ∈ copies, c.get x' = c.get x

theorem leaves_of_map {copies : List (TextCopy σ)} {p : Property σ} {α : Type}
    {get : Iter → Option α} {set : α → σ → σ}
    (hread : ∀ value x, p.read value x = (get value).map fun a => set a x)
    (hset : ∀ c ∈ copies, ∀ a x, c.get (set a x) = c.get x) : Leaves copies p := by
  intro value x x' h c hc
  rw [hread] at h
  obtain ⟨a, -, rfl⟩ := Option.map_eq_some_iff.mp h
  exact hset c hc a x

theorem leaves_optionalText {copies : List (TextCopy σ)} {set : String → σ → σ}
    (hset : ∀ c ∈ copies, ∀ s x, c.get (set s x) = c.get x) :
    Leaves copies (Property.optionalText set) := by
  intro value x x' h c hc
  simp only [Property.optionalText] at h
  split at h
  · obtain rfl := Option.some_inj.mp h
    exact hset c hc _ x
  · obtain rfl := Option.some_inj.mp h
    rfl

/-- It is enough to look at the table: where a key is not one of the copies, its property leaves
the arrays alone. -/
theorem copiesAll_of_guarded {copies : List (TextCopy σ)} {table : PropertyTable σ}
    (hguarded : ∀ c ∈ copies, c.Guarded table.fill)
    (hrest : ∀ p ∈ table, p.1 ∉ copies.map TextCopy.key → Leaves copies p.2) :
    CopiesAll copies table where
  each c hc := (hguarded c hc).copies
  only key hkey value x x' h c hc := by
    obtain ⟨p, hp, hread⟩ | ⟨-, rfl⟩ := table.fill_cases h
    · exact hrest (key, p) hp hkey value x x' hread c hc
    · rfl

/-! ## The decoders -/

namespace Call

/-- The copies of `decode_voice_call_info`. -/
def callInfoCopies : List (TextCopy CallInfo) :=
  [⟨"LineIdentification", maxCallLineIdLength, maxCallLineIdLength + 1,
      CallInfo.lineIdentification, fun s info => { info with lineIdentification := s }⟩,
    ⟨"IncomingLine", maxCallIncomingLineLength, maxCallIncomingLineLength + 1,
      CallInfo.incomingLine, fun s info => { info with incomingLine := s }⟩,
    ⟨"Name", maxCallNameLength, maxCallNameLength + 1, CallInfo.name,
      fun s info => { info with name := s }⟩,
    ⟨"StartTime", maxCallStartTimeLength, maxCallStartTimeLength + 1, CallInfo.startTime,
      fun s info => { info with startTime := s }⟩,
    ⟨"Information", maxCallInfoLength, maxCallInfoLength + 1, CallInfo.info,
      fun s info => { info with info := s }⟩]

theorem callStrcpy_eq_strcpyWithin (dst src : String) (dstSize : ℕ) :
    callStrcpy dst src dstSize = strcpyWithin dstSize dst src := by
  unfold callStrcpy strcpyWithin
  by_cases hfits : src.utf8ByteSize ≤ dstSize
  · rw [if_neg (Nat.not_lt.mpr hfits), if_pos hfits]
  · rw [if_pos (Nat.not_le.mp hfits), if_neg hfits]

theorem copiesAll_callInfo : CopiesAll callInfoCopies callInfoProperties := by
  apply copiesAll_of_guarded
  · simp only [callInfoCopies, List.forall_mem_cons, List.not_mem_nil, false_implies,
      implies_true, and_true]
    refine ⟨?_, ?_, ?_, ?_, ?_⟩
    all_goals
      refine ⟨rfl, ⟨fun _ _ => rfl, fun _ _ _ => rfl, fun _ => rfl⟩, fun s x => ?_⟩
      rw [← callStrcpy_eq_strcpyWithin]
      rfl
  · intro p hp hkey
    simp only [callInfoProperties, List.mem_cons, List.not_mem_nil, or_false] at hp
    rcases hp with rfl | rfl | rfl | rfl | rfl | rfl | rfl | rfl | rfl | rfl | rfl | rfl
    all_goals first
      | exact absurd (by decide) hkey
      | exact leaves_of_map (fun _ _ => rfl) (by simp [callInfoCopies])

end Call

namespace Network

/-- The copies of `fill_registration_info`. The array of the network code is declared with the
length of a country code. -/
def registrationInfoCopies : List (TextCopy RegistrationInfo) :=
  [⟨"Name", maxOperatorNameLength, maxOperatorNameLength + 1, RegistrationInfo.operatorName,
      fun s info => { info with operatorName := s }⟩,
    ⟨"MobileCountryCode", maxMccLength, maxMccLength + 1, RegistrationInfo.mcc,
      fun s info => { info with mcc := s }⟩,
    ⟨"MobileNetworkCode", maxMncLength, maxMccLength + 1, RegistrationInfo.mnc,
      fun s info => { info with mnc := s }⟩,
    ⟨"BaseStation", maxNetworkInfoLength, maxNetworkInfoLength + 1, RegistrationInfo.station,
      fun s info => { info with station := s }⟩]

/-- The copies of `fill_cell_identity`. -/
def cellIdentityCopies : List (TextCopy CellIdentity) :=
  [⟨"MobileCountryCode", maxMccLength, maxMccLength + 1, CellIdentity.mccStr,
      fun s cell => { cell with mccStr := s }⟩,
    ⟨"MobileNetworkCode", maxMncLength, maxMccLength + 1, CellIdentity.mncStr,
      fun s cell => { cell with mncStr := s }⟩]

/-- The copies of `update_network_operator`. -/
def operatorInfoCopies : List (TextCopy OperatorInfo) :=
  [⟨"Name", maxOperatorNameLength, maxOperatorNameLength + 1, OperatorInfo.name,
      fun s op => { op with name := s }⟩,
    ⟨"MobileCountryCode", maxMccLength, maxMccLength + 1, OperatorInfo.mcc,
      fun s op => { op with mcc := s }⟩,
    ⟨"MobileNetworkCode", maxMncLength, maxMncLength + 1, OperatorInfo.mnc,
      fun s op => { op with mnc := s }⟩,
    ⟨"Technologies", maxNetworkInfoLength, maxNetworkInfoLength + 1, OperatorInfo.technology,
      fun s op => { op with technology := s }⟩]

theorem copiesAll_registrationInfo (heap : Heap) :
    CopiesAll registrationInfoCopies (registrationInfoProperties heap) := by
  apply copiesAll_of_guarded
  · simp only [registrationInfoCopies, List.forall_mem_cons, List.not_mem_nil, false_implies,
      implies_true, and_true]
    refine ⟨?_, ?_, ?_, ?_⟩
    all_goals exact ⟨rfl, ⟨fun _ _ => rfl, fun _ _ _ => rfl, fun _ => rfl⟩, fun _ _ => rfl⟩
  · intro p hp hkey
    simp only [registrationInfoProperties, List.mem_cons, List.not_mem_nil, or_false] at hp
    rcases hp with rfl | rfl | rfl | rfl | rfl | rfl | rfl | rfl | rfl | rfl | rfl
    all_goals first
      | exact absurd (by decide) hkey
      | exact leaves_of_map (fun _ _ => rfl) (by simp [registrationInfoCopies])

theorem copiesAll_cellIdentity : CopiesAll cellIdentityCopies cellIdentityProperties := by
  apply copiesAll_of_guarded
  · simp only [cellIdentityCopies, List.forall_mem_cons, List.not_mem_nil, false_implies,
      implies_true, and_true]
    refine ⟨?_, ?_⟩
    all_goals exact ⟨rfl, ⟨fun _ _ => rfl, fun _ _ _ => rfl, fun _ => rfl⟩, fun _ _ => rfl⟩
  · intro p hp hkey
    simp only [cellIdentityProperties, List.mem_cons, List.not_mem_nil, or_false] at hp
    rcases hp with rfl | rfl | rfl | rfl | rfl | rfl | rfl | rfl | rfl | rfl | rfl | rfl | rfl |
      rfl
    all_goals first
      | exact absurd (by decide) hkey
      | exact leaves_of_map (fun _ _ => rfl) (by simp [cellIdentityCopies])

theorem copiesAll_operatorInfo : CopiesAll operatorInfoCopies operatorInfoProperties := by
  apply copiesAll_of_guarded
  · simp only [operatorInfoCopies, List.forall_mem_cons, List.not_mem_nil, false_implies,
      implies_true, and_true]
    refine ⟨?_, ?_, ?_, ?_⟩
    all_goals exact ⟨rfl, ⟨fun _ _ => rfl, fun _ _ _ => rfl, fun _ => rfl⟩, fun _ _ => rfl⟩
  · intro p hp hkey
    simp only [operatorInfoProperties, List.mem_cons, List.not_mem_nil, or_false] at hp
    rcases hp with rfl | rfl | rfl | rfl | rfl
    all_goals first
      | exact absurd (by decide) hkey
      | exact leaves_optionalText (by simp [operatorInfoCopies])

end Network

namespace Data

/-- The copies of `update_data_context`. -/
def dataContextCopies : List (TextCopy DataContext) :=
  [⟨"Name", maxApnDomainLength, maxApnDomainLength + 1, DataContext.name,
      fun s dc => { dc with name := s }⟩,
    ⟨"AccessPointName", maxApnDomainLength, maxApnDomainLength + 1, DataContext.accesspointname,
      fun s dc => { dc with accesspointname := s }⟩,
    ⟨"Username", maxApnDomainLength, maxApnDomainLength + 1, DataContext.username,
      fun s dc => { dc with username := s }⟩,
    ⟨"Password", maxApnDomainLength, maxApnDomainLength + 1, DataContext.password,
      fun s dc => { dc with password := s }⟩,
    ⟨"MessageProxy", maxApnDomainLength, maxApnDomainLength + 1, DataContext.messageproxy,
      fun s dc => { dc with messageproxy := s }⟩,
    ⟨"MessageCenter", maxApnDomainLength, maxApnDomainLength + 1, DataContext.messagecenter,
      fun s dc => { dc with messagecenter := s }⟩]

/-- The copies of `parse_ipv4_properties` and `parse_ipv6_properties`. -/
def ipCopies : List (TextCopy IpAddressSettings) :=
  [⟨"Interface", maxIpInterfaceNameLength, maxIpInterfaceNameLength + 1,
      IpAddressSettings.interface, fun s ip => { ip with interface := s }⟩,
    ⟨"Address", maxIpStringLength, maxIpStringLength + 1, IpAddressSettings.ip,
      fun s ip => { ip with ip := s }⟩,
    ⟨"Gateway", maxIpStringLength, maxIpStringLength + 1, IpAddressSettings.gateway,
      fun s ip => { ip with gateway := s }⟩,
    ⟨"Pcscf", maxIpStringLength, maxIpStringLength + 1, IpAddressSettings.pcscf,
      fun s ip => { ip with pcscf := s }⟩]

theorem copiesAll_dataContext (blocks : ContextBlocks) :
    CopiesAll dataContextCopies (contextProperties blocks) := by
  apply copiesAll_of_guarded
  · unfold contextProperties
    simp only [dataContextCopies, List.forall_mem_cons, List.not_mem_nil, false_implies,
      implies_true, and_true]
    -- the texts come first in the table, whether or not it knows the settings
    split
    all_goals refine ⟨?_, ?_, ?_, ?_, ?_, ?_⟩
    all_goals exact ⟨rfl, ⟨fun _ _ => rfl, fun _ _ _ => rfl, fun _ => rfl⟩, fun _ _ => rfl⟩
  · intro p hp hkey
    have hmem := mem_of_mem_contextProperties hp
    simp only [dataContextProperties, settingsProperties, List.mem_append, List.mem_cons,
      List.not_mem_nil, or_false] at hmem
    rcases hmem with (rfl | rfl | rfl | rfl | rfl | rfl | rfl | rfl | rfl | rfl) | rfl | rfl
    all_goals first
      | exact absurd (by decide) hkey
      | exact leaves_of_map (fun _ _ => rfl) (by simp [dataContextCopies])

theorem copiesAll_ip : CopiesAll ipCopies ipProperties := by
  apply copiesAll_of_guarded
  · simp only [ipCopies, List.forall_mem_cons, List.not_mem_nil, false_implies,
      implies_true, and_true]
    refine ⟨?_, ?_, ?_, ?_⟩
    all_goals exact ⟨rfl, ⟨fun _ _ => rfl, fun _ _ _ => rfl, fun _ => rfl⟩, fun _ _ => rfl⟩
  · intro p hp hkey
    simp only [ipProperties, List.mem_cons, List.not_mem_nil, or_false] at hp
    rcases hp with rfl | rfl | rfl | rfl | rfl
    all_goals first
      | exact absurd (by decide) hkey
      | exact leaves_of_map (fun _ _ => rfl) (by simp [ipCopies])

end Data

/-- Every text that the decoders copy goes into an array that is exactly as long as the guard
allows, and nothing else of the structure changes. -/
theorem texts_copied :
    CopiesAll Call.callInfoCopies Call.callInfoProperties ∧
      (∀ heap, CopiesAll Network.registrationInfoCopies
        (Network.registrationInfoProperties heap)) ∧
      CopiesAll Network.cellIdentityCopies Network.cellIdentityProperties ∧
      CopiesAll Network.operatorInfoCopies Network.operatorInfoProperties ∧
      (∀ blocks, CopiesAll Data.dataContextCopies (Data.contextProperties blocks)) ∧
      CopiesAll Data.ipCopies Data.ipProperties :=
  ⟨Call.copiesAll_callInfo, Network.copiesAll_registrationInfo, Network.copiesAll_cellIdentity,
    Network.copiesAll_operatorInfo, Data.copiesAll_dataContext, Data.copiesAll_ip⟩

end Telephony
