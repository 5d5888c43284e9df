import Mathlib.Data.List.Basic
import Mathlib.Algebra.Group.Nat.Even
import Mathlib.Data.Nat.Notation

/-!
# Hexadecimal strings

A byte is written as two digits, the higher one first. A digit above nine is a letter in either
case.

## Main definitions

* `Hex.value`, `Hex.digit` — the value of a digit, and the digit of a value
* `Hex.encode`, `Hex.decode` — the digits of a list of bytes, and the bytes of a list of digits

## Main results

* `Hex.isSome_decode_iff` — which lists can be decoded
* `Hex.decode_of_map_upper` — decoding is a left inverse of encoding, in either case
* `Hex.encode_of_decode` — what has been decoded is encoded to the same digits in upper case
-/

namespace Hex

/-! ## Digits -/

/-- The value of a digit. -/
def value (c : UInt8) : Option UInt8 :=
  if 48 ≤ c ∧ c ≤ 57 then some (c - 48)
  else if 65 ≤ c ∧ c ≤ 70 then some (c - 55)
  else if 97 ≤ c ∧ c ≤ 102 then some (c - 87)
  else none

abbrev IsDigit (c : UInt8) : Prop := (value c).isSome = true

/-- The digit of a value, with the letters in upper case. -/
def digit (v : UInt8) : UInt8 := if v < 10 then v + 48 else v + 55

/-- A digit in upper case. -/
def upper (c : UInt8) : UInt8 := if 97 ≤ c ∧ c ≤ 102 then c - 32 else c

/-- The byte of two values. -/
def byte (hi lo : UInt8) : UInt8 := hi <<< 4 ||| lo

theorem value_upper (c : UInt8) : value (upper c) = value c := by
  have hsub : c - 32 - 55 = c - 87 := by grind
  grind [value, upper]

theorem value_lt {c v : UInt8} (h : value c = some v) : v < 16 := by
  grind [value]

theorem digit_value {c v : UInt8} (h : value c = some v) : digit v = upper c := by
  grind [value, digit, upper]

theorem value_digit {v : UInt8} (h : v < 16) : value (digit v) = some v := by
  grind [value, digit]

/-! ### The halves of a byte -/

theorem toNat_high (b : UInt8) : (b >>> 4).toNat = b.toNat / 16 := by
  rw [UInt8.toNat_shiftRight]
  exact Nat.shiftRight_eq_div_pow b.toNat 4

theorem toNat_low (b : UInt8) : (b &&& 15).toNat = b.toNat % 16 := by
  rw [UInt8.toNat_and]
  exact Nat.and_two_pow_sub_one_eq_mod b.toNat 4

theorem toNat_byte {hi lo : UInt8} (hhi : hi < 16) (hlo : lo < 16) :
    (byte hi lo).toNat = 16 * hi.toNat + lo.toNat := by
  have hhigh : hi.toNat < 16 := hhi
  have hlow : lo.toNat < 2 ^ 4 := hlo
  -- nothing of the higher value is shifted out
  have hshift : (hi <<< 4).toNat = hi.toNat <<< 4 := by
    rw [UInt8.toNat_shiftLeft]
    apply Nat.mod_eq_of_lt
    change hi.toNat <<< 4 < 2 ^ 8
    rw [Nat.shiftLeft_eq]
    omega
  rw [byte, UInt8.toNat_or, hshift, ← Nat.shiftLeft_add_eq_or_of_lt hlow, Nat.shiftLeft_eq]
  omega

theorem high_lt (b : UInt8) : b >>> 4 < 16 := by
  have hlt := b.toNat_lt
  rw [UInt8.lt_iff_toNat_lt, toNat_high]
  change b.toNat / 16 < 16
  omega

theorem low_lt (b : UInt8) : b &&& 15 < 16 := by
  rw [UInt8.lt_iff_toNat_lt, toNat_low]
  exact Nat.mod_lt b.toNat (by decide)

theorem byte_halves (b : UInt8) : byte (b >>> 4) (b &&& 15) = b := by
  apply UInt8.toNat_inj.mp
  rw [toNat_byte (high_lt b) (low_lt b), toNat_high, toNat_low]
  omega

section

variable {hi lo : UInt8} (hhi : hi < 16) (hlo : lo < 16)
include hhi hlo

theorem high_byte : byte hi lo >>> 4 = hi := by
  have hlow : lo.toNat < 16 := hlo
  apply UInt8.toNat_inj.mp
  rw [toNat_high, toNat_byte hhi hlo]
  omega

theorem low_byte : byte hi lo &&& 15 = lo := by
  have hlow : lo.toNat < 16 := hlo
  apply UInt8.toNat_inj.mp
  rw [toNat_low, toNat_byte hhi hlo]
  omega

end

/-! ## Strings -/

/-- The digits of some bytes. -/
def encode : List UInt8 → List UInt8
  | [] => []
  | b :: bs => digit (b >>> 4) :: digit (b &&& 15) :: encode bs

theorem encode_cons (b : UInt8) (bs : List UInt8) :
    encode (b :: bs) = digit (b >>> 4) :: digit (b &&& 15) :: encode bs :=
  rfl

/-- The bytes that some digits stand for. -/
def decode : List UInt8 → Option (List UInt8)
  | [] => some []
  | [_] => none
  | c :: d :: cs => do
    let hi ← value c
    let lo ← value d
    let bs ← decode cs
    some (byte hi lo :: bs)

theorem decode_cons (c d : UInt8) (cs : List UInt8) :
    decode (c :: d :: cs) = (value c).bind fun hi => (value d).bind fun lo =>
      (decode cs).bind fun bs => some (byte hi lo :: bs) :=
  rfl

variable {cs bs : List UInt8}

theorem length_encode (bs : List UInt8) : (encode bs).length = 2 * bs.length := by
  induction bs with
  | nil => rfl
  | cons b bs ih =>
    rw [encode_cons, List.length_cons, List.length_cons, ih, List.length_cons]
    omega

/-- Decoding does not look at the case. -/
theorem decode_map_upper (cs : List UInt8) : decode (cs.map upper) = decode cs := by
  fun_induction decode cs with
  | case1 => rfl
  | case2 c => rfl
  | case3 c d cs ih =>
    rw [List.map_cons, List.map_cons, decode_cons, value_upper, value_upper, ih]
    rfl

theorem decode_encode (bs : List UInt8) : decode (encode bs) = some bs := by
  induction bs with
  | nil => rfl
  | cons b bs ih =>
    rw [encode_cons, decode_cons, value_digit (high_lt b), value_digit (low_lt b), ih]
    simp [byte_halves]

/-- Whatever the case of its letters, an encoding is decoded to its bytes. -/
theorem decode_of_map_upper (h : cs.map upper = encode bs) : decode cs = some bs := by
  rw [← decode_map_upper, h, decode_encode]

theorem decode_cons_eq_some_iff {c d : UInt8} :
    decode (c :: d :: cs) = some bs ↔
      ∃ hi lo bs', value c = some hi ∧ value d = some lo ∧ decode cs = some bs' ∧
        bs = byte hi lo :: bs' := by
  simp only [decode_cons, Option.bind_eq_some_iff, Option.some_inj]
  constructor
  · rintro ⟨hi, hhi, lo, hlo, bs', hbs, rfl⟩
    exact ⟨hi, lo, bs', hhi, hlo, hbs, rfl⟩
  · rintro ⟨hi, lo, bs', hhi, hlo, hbs, rfl⟩
    exact ⟨hi, hhi, lo, hlo, bs', hbs, rfl⟩

theorem encode_of_decode (h : decode cs = some bs) : encode bs = cs.map upper := by
  fun_induction decode cs generalizing bs with
  | case1 =>
    cases h
    rfl
  | case2 c => contradiction
  | case3 c d cs ih =>
    obtain ⟨hi, lo, bs', hhi, hlo, hbs, rfl⟩ := decode_cons_eq_some_iff.mp h
    have hhigh := high_byte (value_lt hhi) (value_lt hlo)
    have hlow := low_byte (value_lt hhi) (value_lt hlo)
    rw [encode_cons, hhigh, hlow, digit_value hhi, digit_value hlo, ih hbs, List.map_cons,
      List.map_cons]

theorem length_of_decode (h : decode cs = some bs) : cs.length = 2 * bs.length := by
  rw [← length_encode, encode_of_decode h, List.length_map]

/-- The digits come in pairs, and there is nothing but digits. -/
theorem isSome_decode_iff (cs : List UInt8) :
    (decode cs).isSome = true ↔ Even cs.length ∧ ∀ c ∈ cs, IsDigit c := by
  fun_induction decode cs with
  | case1 => simp
  | case2 c => simp
  | case3 c d cs ih =>
    have heven : Even (c :: d :: cs).length ↔ Even cs.length := by
      simp [Nat.even_add_one]
    have hdigits : Even cs.length ∧ IsDigit c ∧ IsDigit d ∧ (∀ e ∈ cs, IsDigit e) ↔
        IsDigit c ∧ IsDigit d ∧ (decode cs).isSome = true := by
      rw [ih]
      constructor
      · rintro ⟨hlen, hc, hd, hcs⟩
        exact ⟨hc, hd, hlen, hcs⟩
      · rintro ⟨hc, hd, hlen, hcs⟩
        exact ⟨hlen, hc, hd, hcs⟩
    rw [heven, List.forall_mem_cons, List.forall_mem_cons, hdigits]
    cases hc : value c <;> cases hd : value d <;> cases hcs : decode cs <;>
      simp [IsDigit, hc, hd]

end Hex
