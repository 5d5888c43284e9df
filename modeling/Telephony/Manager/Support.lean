import Mathlib.Logic.Function.Basic
import Telephony.Manager.Open
import Telephony.Strings

/-!
# Interfaces that are switched off

The library gets no proxy for an interface that the environment says is not supported. It asks the
environment for a variable of the interface, and reads the text as a number.

## Main definitions

* `Telephony.strtoul` — the number that is read, and what is left behind it
* `Manager.isInterfaceSupported` — what the library makes of the text
* `Manager.TurnedOff` — the texts that switch an interface off

## Main results

* `Manager.isInterfaceSupported_eq_false_iff` — an interface is switched off exactly by a zero
* `Manager.getEnvInterfaceSupportString_injective` — no variable switches off two interfaces
-/

namespace Telephony

/-- `strtoul` with base 10, where an `unsigned long` has so many bits: the number, and what is left
behind it. Without a digit nothing is read. -/
def strtoul (bits : ℕ) (nptr : String) : ℕ × List Char :=
  let rest := nptr.toList.dropWhile isSpace
  let digits := (afterSign rest).takeWhile Char.isDigit
  let n := Nat.ofDigitChars 10 digits 0
  if digits = [] then (0, nptr.toList)
  else if 2 ^ bits ≤ n then (2 ^ bits - 1, (afterSign rest).dropWhile Char.isDigit)
  else if rest.head? = some '-' then
    ((2 ^ bits - n) % 2 ^ bits, (afterSign rest).dropWhile Char.isDigit)
  else (n, (afterSign rest).dropWhile Char.isDigit)

namespace Manager

/-- The variables that there are, and what they are set to. -/
abbrev Environment : Type := String → Option String

/-- `get_env_interface_support_string`, for the interfaces that there are proxies for. -/
def getEnvInterfaceSupportString : ProxyType → String
  | .modem => "OFONO_MODEM_INTERFACE_SUPPORT"
  | .radio => "OFONO_RADIO_SETTINGS_INTERFACE_SUPPORT"
  | .call => "OFONO_VOICECALL_MANAGER_INTERFACE_SUPPORT"
  | .sim => "OFONO_SIM_MANAGER_INTERFACE_SUPPORT"
  | .stk => "OFONO_STK_INTERFACE_SUPPORT"
  | .data => "OFONO_CONNECTION_MANAGER_INTERFACE_SUPPORT"
  | .sms => "OFONO_MESSAGE_MANAGER_INTERFACE_SUPPORT"
  | .cbs => "OFONO_CELL_BROADCAST_INTERFACE_SUPPORT"
  | .netreg => "OFONO_NETWORK_REGISTRATION_INTERFACE_SUPPORT"
  | .netmon => "OFONO_NETMON_INTERFACE_SUPPORT"
  | .callBarring => "OFONO_CALL_BARRING_INTERFACE_SUPPORT"
  | .callForwarding => "OFONO_CALL_FORWARDING_INTERFACE_SUPPORT"
  | .ss => "OFONO_SUPPLEMENTARY_SERVICES_INTERFACE_SUPPORT"
  | .callSetting => "OFONO_CALL_SETTINGS_INTERFACE_SUPPORT"
  | .ims => "OFONO_IMS_INTERFACE_SUPPORT"
  | .phonebook => "OFONO_PHONEBOOK_INTERFACE_SUPPORT"

/-- `is_interface_supported`. -/
def isInterfaceSupported (bits : ℕ) (getenv : Environment) (interface : ProxyType) : Bool :=
  match getenv (getEnvInterfaceSupportString interface) with
  | none => true
  | some supportStr =>
    if supportStr = "" then true
    else
      let (interfaceCap, endp) := strtoul bits supportStr
      if endp = [] then interfaceCap ≠ 0 else true

/-- A number that is zero: white space, a sign, and one zero or more. -/
def IsZero (cs : List Char) : Prop :=
  ∃ blank sign zeros, cs = blank ++ (sign ++ zeros) ∧ (∀ c ∈ blank, isSpace c = true) ∧
    (sign = [] ∨ sign = ['-'] ∨ sign = ['+']) ∧ zeros ≠ [] ∧ ∀ c ∈ zeros, c = '0'

/-- The environment switches an interface off. -/
def TurnedOff (getenv : Environment) (interface : ProxyType) : Prop :=
  ∃ text, getenv (getEnvInterfaceSupportString interface) = some text ∧ IsZero text.toList

/-! ## Numbers -/

section Numbers

variable {bits : ℕ} {cs ds : List Char}

theorem ofDigitChars_eq_zero_iff (h : ∀ c ∈ cs, c.isDigit = true) {n : ℕ} :
    Nat.ofDigitChars 10 cs n = 0 ↔ n = 0 ∧ ∀ c ∈ cs, c = '0' := by
  induction cs generalizing n with
  | nil => simp
  | cons c cs ih =>
    rw [List.forall_mem_cons] at h
    have hc := h.1
    simp only [Char.isDigit, Bool.and_eq_true, decide_eq_true_eq] at hc
    have hge : 48 ≤ c.toNat := hc.1
    have hzero : c.toNat - '0'.toNat = 0 ↔ c = '0' := by
      have hnat : '0'.toNat = 48 := rfl
      rw [hnat, ← Char.toNat_inj, hnat]
      omega
    rw [Nat.ofDigitChars_cons, ih h.2, List.forall_mem_cons, Nat.add_eq_zero_iff, hzero,
      and_assoc]
    simp

/-- A text is its white space, the sign behind it, and the rest. -/
theorem append_afterSign (cs : List Char) :
    ∃ sign, (sign = [] ∨ sign = ['-'] ∨ sign = ['+']) ∧ cs = sign ++ afterSign cs := by
  cases cs with
  | nil => exact ⟨[], .inl rfl, rfl⟩
  | cons c cs =>
    by_cases hsign : c = '-' ∨ c = '+'
    · rw [afterSign, if_pos hsign]
      obtain rfl | rfl := hsign
      · exact ⟨['-'], .inr (.inl rfl), rfl⟩
      · exact ⟨['+'], .inr (.inr rfl), rfl⟩
    · rw [afterSign, if_neg hsign]
      exact ⟨[], .inl rfl, rfl⟩

theorem afterSign_append_zeros {sign zeros : List Char}
    (hsign : sign = [] ∨ sign = ['-'] ∨ sign = ['+']) (hzeros : ∀ c ∈ zeros, c = '0') :
    afterSign (sign ++ zeros) = zeros := by
  obtain rfl | rfl | rfl := hsign
  · cases zeros with
    | nil => rfl
    | cons c zeros =>
      obtain rfl := hzeros c List.mem_cons_self
      rfl
  · rfl
  · rfl

/-- With digits, the number is zero if they are, whatever its sign is and however long it is. -/
theorem strtoul_of_ne_nil (hbits : 0 < bits) {nptr : String}
    (h : (afterSign (nptr.toList.dropWhile isSpace)).takeWhile Char.isDigit ≠ []) :
    ((strtoul bits nptr).1 = 0 ↔
      ∀ c ∈ (afterSign (nptr.toList.dropWhile isSpace)).takeWhile Char.isDigit, c = '0') ∧
    (strtoul bits nptr).2 = (afterSign (nptr.toList.dropWhile isSpace)).dropWhile Char.isDigit := by
  have hpow : 2 ≤ 2 ^ bits := Nat.le_self_pow hbits.ne' 2
  have hzero := ofDigitChars_eq_zero_iff (n := 0) fun c hc =>
    List.mem_takeWhile_imp (l := afterSign (nptr.toList.dropWhile isSpace)) hc
  rw [eq_self_iff_true, true_and] at hzero
  rw [← hzero]
  simp only [strtoul, if_neg h]
  generalize Nat.ofDigitChars 10 _ 0 = n
  split
  · rename_i hle
    exact ⟨by omega, rfl⟩
  · rename_i hlt
    split
    · refine ⟨?_, rfl⟩
      by_cases hn : n = 0
      · simp [hn]
      · have hmod : (2 ^ bits - n) % 2 ^ bits = 2 ^ bits - n := Nat.mod_eq_of_lt (by omega)
        rw [hmod]
        omega
    · exact ⟨Iff.rfl, rfl⟩

/-- Zero is read, and the whole text with it, exactly from a zero. -/
theorem strtoul_eq_zero_iff (hbits : 0 < bits) {nptr : String} :
    (strtoul bits nptr).1 = 0 ∧ (strtoul bits nptr).2 = [] ∧ nptr ≠ "" ↔
      IsZero nptr.toList := by
  constructor
  · rintro ⟨hvalue, hend, hne⟩
    have hdigits : (afterSign (nptr.toList.dropWhile isSpace)).takeWhile Char.isDigit ≠ [] := by
      intro hnil
      simp only [strtoul, hnil, reduceIte] at hend
      exact hne (String.toList_inj.mp hend)
    obtain ⟨hzero, hrest⟩ := strtoul_of_ne_nil hbits hdigits
    rw [hrest] at hend
    have hall := List.takeWhile_append_dropWhile (p := Char.isDigit)
      (l := afterSign (nptr.toList.dropWhile isSpace))
    rw [hend, List.append_nil] at hall
    rw [hall] at hdigits hzero
    obtain ⟨sign, hsign, hsplit⟩ := append_afterSign (nptr.toList.dropWhile isSpace)
    refine ⟨nptr.toList.takeWhile isSpace, sign, _, ?_, fun c hc => List.mem_takeWhile_imp hc,
      hsign, hdigits, hzero.mp hvalue⟩
    rw [← hsplit, List.takeWhile_append_dropWhile]
  · rintro ⟨blank, sign, zeros, htext, hblank, hsign, hne, hzeros⟩
    have hplain : ∀ c ∈ (sign ++ zeros).head?, isSpace c = false := by
      obtain ⟨c, zeros, rfl⟩ := List.exists_cons_of_ne_nil hne
      obtain rfl := hzeros c List.mem_cons_self
      obtain rfl | rfl | rfl := hsign <;> simp [isSpace]
    have hdrop : nptr.toList.dropWhile isSpace = sign ++ zeros := by
      rw [htext, List.dropWhile_append_of_pos hblank]
      exact (takeWhile_of_head? hplain).2
    have hall : ∀ c ∈ zeros, c.isDigit = true := fun c hc => by
      rw [hzeros c hc]
      rfl
    have hafter := afterSign_append_zeros hsign hzeros
    have hdigits : (afterSign (nptr.toList.dropWhile isSpace)).takeWhile Char.isDigit = zeros := by
      rw [hdrop, hafter, List.takeWhile_eq_self_iff]
      exact hall
    obtain ⟨hzero, hrest⟩ := strtoul_of_ne_nil hbits (hdigits.symm ▸ hne)
    rw [hdigits] at hzero
    refine ⟨hzero.mpr hzeros, ?_, ?_⟩
    · rw [hrest, hdrop, hafter, List.dropWhile_eq_nil_iff]
      exact hall
    · rintro rfl
      have hnil : blank ++ (sign ++ zeros) = [] := htext.symm
      exact hne (List.append_eq_nil_iff.mp (List.append_eq_nil_iff.mp hnil).2).2

end Numbers

/-- An interface is switched off exactly if its variable is a zero. -/
theorem isInterfaceSupported_eq_false_iff {bits : ℕ} (hbits : 0 < bits) {getenv : Environment}
    {interface : ProxyType} :
    isInterfaceSupported bits getenv interface = false ↔ TurnedOff getenv interface := by
  rw [isInterfaceSupported, TurnedOff]
  cases getenv (getEnvInterfaceSupportString interface) with
  | none => simp
  | some supportStr =>
    simp only [Option.some.injEq, exists_eq_left', ← strtoul_eq_zero_iff hbits]
    by_cases hempty : supportStr = ""
    · simp [hempty]
    · by_cases hend : (strtoul bits supportStr).2 = [] <;> simp [hempty, hend]

theorem getEnvInterfaceSupportString_injective :
    Function.Injective getEnvInterfaceSupportString := by
  intro x y h
  cases x <;> cases y <;> first | rfl | exact absurd h (by decide)

end Manager

end Telephony
