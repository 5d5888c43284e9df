import Mathlib.Algebra.Group.Int.Defs
import Telephony.Cells
import Telephony.Hex
import Telephony.Types

/-!
# Hexadecimal strings of the tool

The tool takes the bytes of an APDU as a hexadecimal string. A loop works on a copy of the string:
it turns each pair of digits to upper case, and stores the byte that they stand for.

## Main definitions

* `Tool.convertPair`, `Tool.convertPairs` — a round of the loop, and the loop
* `Tool.hexStringToByteArray` — the function
* `Tool.WellFormed` — the strings that are to be accepted
* `Tool.Converts` — the string is accepted if it is to be, and is then decoded

## Main results

* `Tool.convertPair_eq` — what a round does, whatever the two characters are
* `Tool.exists_convertPairs` — the loop decodes what is decodable, and stays in the array
* `Tool.hexStringToByteArray_converts` — which strings the function accepts, and what it leaves
-/

namespace Telephony.Tool

open Cells Hex

/-- A string in C: the bytes in front of its terminator. -/
abbrev CBytes := { cells : List UInt8 // 0 ∉ cells }

/-- `strlen`. -/
def strlen (s : CBytes) : ℕ := (text (s.1 ++ [0])).length

/-- What an `int` holds after an assignment. -/
def toInt (n : ℕ) : ℤ := (n : ℤ).bmod (2 ^ 32)

/-! ## The loop -/

/-- The string of the caller, its copy, and the array, with their terminators. -/
structure Conversion where
  hexStr : List UInt8
  str : List UInt8
  byteArr : List UInt8

/-- The character at an index is turned to upper case. -/
def upperAt (str : List UInt8) (i : ℕ) : Option (List UInt8) := do
  let c ← str[i]?
  if 97 ≤ c ∧ c ≤ 102 then write str i (c &&& ~~~0x20) else some str

/-- The value of a character that is in upper case. -/
def upperValue (c : UInt8) : Option UInt8 :=
  if 65 ≤ c ∧ c ≤ 70 then some (c - 65 + 10)
  else if 48 ≤ c ∧ c ≤ 57 then some (c &&& ~~~0x30)
  else none

/-- A round of the loop, at the byte `j` and the characters from `2 * j` on. It tells whether the
loop goes on. -/
def convertPair (s : Conversion) (j : ℕ) : Option (Conversion × Bool) := do
  let i := 2 * j
  let str ← upperAt s.str i
  let str ← upperAt str (i + 1)
  let first ← str[i]?
  let second ← str[i + 1]?
  let s := { s with str := str }
  match upperValue first with
  | none => some (s, false)
  | some hi =>
    let byteArr ← write s.byteArr j (hi <<< 4)
    let s := { s with byteArr := byteArr }
    match upperValue second with
    | none => some (s, false)
    | some lo =>
      let b ← s.byteArr[j]?
      let byteArr ← write s.byteArr j (b ||| lo)
      some ({ s with byteArr := byteArr }, true)

/-- The loop from the byte `j` on, with `n` rounds left. It tells whether it has come to its
end. -/
def convertPairs : ℕ → Conversion → ℕ → Option (Conversion × Bool)
  | 0, s, _ => some (s, true)
  | n + 1, s, j =>
    (convertPair s j).bind fun
      | (s, true) => convertPairs n s (j + 1)
      | (s, false) => some (s, false)

/-- What a call returns, and what it leaves of the string and of the array. -/
structure Converted where
  ret : ℤ
  hexStr : List UInt8
  byteArr : List UInt8

/-- `hex_string_to_byte_array`, with the array up to its capacity. `strdup` tells whether there is
memory for the copy. A product that is no `int` is undefined. -/
def hexStringToByteArray (hexStr : Option CBytes) (byteArr : List UInt8) (strdup : Bool) :
    Option Converted :=
  match hexStr with
  | none => some ⟨-einval, [], byteArr⟩
  | some hexStr =>
    let unchanged : Converted := ⟨-einval, hexStr.1 ++ [0], byteArr⟩
    let len := toInt (strlen hexStr)
    if len = 0 ∨ len % 2 ≠ 0 then some unchanged
    else if 2 ^ 31 ≤ byteArr.length * 2 then none
    else if len > byteArr.length * 2 then some unchanged
    else if !strdup then some unchanged
    else
      (convertPairs (len.toNat / 2) ⟨hexStr.1 ++ [0], hexStr.1 ++ [0], byteArr⟩ 0).map
        fun (s, done) => ⟨if done then 0 else -einval, s.hexStr, s.byteArr⟩

section Loop

variable {s : Conversion} {j : ℕ} {c d : UInt8} {done rest : List UInt8}

/-! ### Characters -/

theorem mask_letter (h : 97 ≤ c ∧ c ≤ 102) : c &&& ~~~0x20 = c - 32 := by
  have hcases : c = 97 ∨ c = 98 ∨ c = 99 ∨ c = 100 ∨ c = 101 ∨ c = 102 := by grind
  rcases hcases with rfl | rfl | rfl | rfl | rfl | rfl <;> rfl

theorem mask_digit (h : 48 ≤ c ∧ c ≤ 57) : c &&& ~~~0x30 = c - 48 := by
  have hcases : c = 48 ∨ c = 49 ∨ c = 50 ∨ c = 51 ∨ c = 52 ∨ c = 53 ∨ c = 54 ∨ c = 55 ∨ c = 56 ∨
      c = 57 := by grind
  rcases hcases with rfl | rfl | rfl | rfl | rfl | rfl | rfl | rfl | rfl | rfl <;> rfl

theorem upper_eq (c : UInt8) :
    (if 97 ≤ c ∧ c ≤ 102 then c &&& ~~~0x20 else c) = upper c := by
  unfold upper
  split
  · rename_i hletter
    exact mask_letter hletter
  · rfl

/-- The masks give a digit its value. -/
theorem upperValue_upper (c : UInt8) : upperValue (upper c) = value c := by
  have hupper : c - 65 + 10 = c - 55 := by grind
  have hlower : c - 32 - 65 + 10 = c - 87 := by grind
  grind [upperValue, upper, value, mask_digit]

theorem upperAt_append (done : List UInt8) (c : UInt8) (rest : List UInt8) :
    upperAt (done ++ c :: rest) done.length = some (done ++ upper c :: rest) := by
  have hget : (done ++ c :: rest)[done.length]? = some c := by simp
  have hlt : done.length < (done ++ c :: rest).length := by simp
  rw [upperAt, hget, ← upper_eq c]
  simp only [Option.bind_eq_bind, Option.bind_some]
  split
  · rw [write_of_lt hlt]
    simp
  · rfl

/-! ### Rounds -/

/-- A round turns both characters to upper case. It stores the byte of two digits, and of a single
digit in front the higher half. -/
theorem convertPair_eq (hstr : s.str = done ++ c :: d :: rest) (hdone : done.length = 2 * j)
    (hj : j < s.byteArr.length) :
    convertPair s j = some
      (match value c, value d with
      | some hi, some lo => (⟨s.hexStr, done ++ upper c :: upper d :: rest,
          s.byteArr.set j (byte hi lo)⟩, true)
      | some hi, none => (⟨s.hexStr, done ++ upper c :: upper d :: rest,
          s.byteArr.set j (hi <<< 4)⟩, false)
      | none, _ => (⟨s.hexStr, done ++ upper c :: upper d :: rest, s.byteArr⟩, false)) := by
  have hfirst : upperAt s.str (2 * j) = some (done ++ upper c :: d :: rest) := by
    rw [hstr, ← hdone, upperAt_append]
  have hsecond : upperAt (done ++ upper c :: d :: rest) (2 * j + 1) =
      some (done ++ upper c :: upper d :: rest) := by
    have hnext := upperAt_append (done ++ [upper c]) d rest
    rw [List.length_append, List.length_singleton, hdone] at hnext
    simpa using hnext
  have hget : (done ++ upper c :: upper d :: rest)[2 * j]? = some (upper c) := by
    rw [← hdone]
    simp
  have hget' : (done ++ upper c :: upper d :: rest)[2 * j + 1]? = some (upper d) := by
    rw [← hdone, List.getElem?_append_right (Nat.le_succ _)]
    simp
  simp only [convertPair, hfirst, hsecond, hget, hget', Option.bind_eq_bind, Option.bind_some,
    upperValue_upper]
  cases value c with
  | none => rfl
  | some hi =>
    cases value d with
    | none => simp [write_of_lt hj]
    | some lo => simp [write, hj, byte]

/-- From the byte `j` on the characters have been decoded, if they can be. -/
structure Decoded (s : Conversion) (cs : List UInt8) (j : ℕ) (s' : Conversion) (finished : Bool) :
    Prop where
  hexStr : s'.hexStr = s.hexStr
  length : s'.byteArr.length = s.byteArr.length
  finished_iff : finished = true ↔ (decode cs).isSome = true
  bytes : ∀ bs, decode cs = some bs → writeFrom s.byteArr j bs = some s'.byteArr

theorem decoded_of_eq_none {cs byteArr : List UInt8} (h : decode cs = none) (str : List UInt8)
    (hlen : byteArr.length = s.byteArr.length) :
    Decoded s cs j ⟨s.hexStr, str, byteArr⟩ false where
  hexStr := rfl
  length := hlen
  finished_iff := by simp [h]
  bytes bs hbs := by
    rw [h] at hbs
    contradiction

/-- The rounds stay in the array, and decode their characters. -/
theorem exists_convertPairs {cs : List UInt8} {n : ℕ} (hstr : s.str = done ++ (cs ++ rest))
    (hdone : done.length = 2 * j) (hlen : cs.length = 2 * n) (hroom : j + n ≤ s.byteArr.length) :
    ∃ s' finished, convertPairs n s j = some (s', finished) ∧ Decoded s cs j s' finished := by
  induction n generalizing s j done cs with
  | zero =>
    obtain rfl := List.length_eq_zero_iff.mp hlen
    refine ⟨s, true, rfl, rfl, rfl, by simp [decode], ?_⟩
    rintro _ ⟨⟩
    rfl
  | succ n ih =>
    -- a round takes two characters
    rcases cs with _ | ⟨c, _ | ⟨d, cs⟩⟩
    · rw [List.length_nil] at hlen
      omega
    · rw [List.length_singleton] at hlen
      omega
    have hj : j < s.byteArr.length := by omega
    rw [convertPairs, convertPair_eq hstr hdone hj, Option.bind_some]
    cases hc : value c with
    | none => exact ⟨_, _, rfl, decoded_of_eq_none (by simp [decode_cons, hc]) _ rfl⟩
    | some hi =>
      cases hd : value d with
      | none =>
        exact ⟨_, _, rfl, decoded_of_eq_none (by simp [decode_cons, hc, hd]) _ (List.length_set ..)⟩
      | some lo =>
        have hstr' : done ++ upper c :: upper d :: (cs ++ rest) =
            done ++ [upper c, upper d] ++ (cs ++ rest) := by simp
        have hdone' : (done ++ [upper c, upper d]).length = 2 * (j + 1) := by simp [hdone]; omega
        have hlen' : cs.length = 2 * n := by
          rw [List.length_cons, List.length_cons] at hlen
          omega
        obtain ⟨s', finished, hrun, hdecoded⟩ :=
          ih (s := ⟨s.hexStr, done ++ upper c :: upper d :: (cs ++ rest),
            s.byteArr.set j (byte hi lo)⟩) hstr' hdone' hlen'
            (by rw [List.length_set]; omega)
        refine ⟨s', finished, hrun, hdecoded.hexStr, ?_, ?_, ?_⟩
        · rw [hdecoded.length, List.length_set]
        · rw [hdecoded.finished_iff]
          cases hcs : decode cs <;> simp [decode_cons, hc, hd, hcs]
        · intro bs hbs
          obtain ⟨hi', lo', bs', hhi, hlo, hrest, rfl⟩ := decode_cons_eq_some_iff.mp hbs
          obtain rfl := Option.some_inj.mp (hc.symm.trans hhi)
          obtain rfl := Option.some_inj.mp (hd.symm.trans hlo)
          rw [writeFrom_cons, write_of_lt hj, Option.bind_some]
          exact hdecoded.bytes bs' hrest

end Loop

/-! ## Strings -/

/-- The string has a digit, comes in pairs of digits, and has a place for each pair. -/
def WellFormed (hexStr : CBytes) (capacity : ℕ) : Prop :=
  hexStr.1 ≠ [] ∧ Even hexStr.1.length ∧ hexStr.1.length ≤ 2 * capacity ∧
    ∀ c ∈ hexStr.1, IsDigit c

/-- The string that is accepted is decoded to the head of the array: it is an encoding of these
bytes, and of no others. -/
structure Converts (accepted : Prop) (hexStr : CBytes) (byteArr : List UInt8) (r : Converted) :
    Prop where
  accepts : r.ret = 0 ↔ accepted
  bytes : r.ret = 0 → ∃ bs, decode hexStr.1 = some bs ∧ 2 * bs.length = hexStr.1.length ∧
    r.byteArr = bs ++ byteArr.drop bs.length
  inverts : r.ret = 0 → ∀ bs, hexStr.1.map upper = encode bs → r.byteArr.take bs.length = bs
  encodes : r.ret = 0 → encode (r.byteArr.take (hexStr.1.length / 2)) = hexStr.1.map upper

/-- The call is defined, and leaves the string as it was and the array as long as it was. -/
structure Keeps (hexStr : CBytes) (byteArr : List UInt8) (r : Converted) : Prop where
  hexStr : r.hexStr = hexStr.1 ++ [0]
  length : r.byteArr.length = byteArr.length

/-- The call keeps what it is given, and converts the strings that are to be accepted. -/
def Meets (accepted : Prop) (hexStr : CBytes) (byteArr : List UInt8) (strdup : Bool) : Prop :=
  ∃ r, hexStringToByteArray (some hexStr) byteArr strdup = some r ∧ Keeps hexStr byteArr r ∧
    Converts accepted hexStr byteArr r

section

variable {hexStr : CBytes} {byteArr : List UInt8} {strdup : Bool}

theorem strlen_eq (hexStr : CBytes) : strlen hexStr = hexStr.1.length := by
  have hne : ∀ c ∈ hexStr.1, decide (c ≠ 0) = true := by
    intro c hc
    apply decide_eq_true
    rintro rfl
    exact hexStr.2 hc
  rw [strlen, text, List.takeWhile_append_of_pos hne]
  simp

theorem toInt_le (n : ℕ) : toInt n ≤ n := by
  unfold toInt Int.bmod
  dsimp only
  split <;> omega

theorem toInt_eq {n : ℕ} (h : n < 2 ^ 31) : toInt n = n := by
  unfold toInt Int.bmod
  dsimp only
  split <;> omega

/-- The length passes the checks, and there is memory for the copy. -/
structure Passes (len : ℤ) (capacity : ℕ) (strdup : Bool) : Prop where
  ne_zero : len ≠ 0
  even : len % 2 = 0
  le : len ≤ capacity * 2
  strdup : strdup = true

theorem hexStringToByteArray_of_not_passes (hcap : byteArr.length < 2 ^ 30)
    (h : ¬ Passes (toInt (strlen hexStr)) byteArr.length strdup) :
    hexStringToByteArray (some hexStr) byteArr strdup =
      some ⟨-einval, hexStr.1 ++ [0], byteArr⟩ := by
  have hint : ¬ 2 ^ 31 ≤ byteArr.length * 2 := by omega
  simp only [hexStringToByteArray, hint, if_false]
  split
  · rfl
  · split
    · rfl
    · split
      · rfl
      · rename_i hlen hle hstrdup
        obtain ⟨hne, heven⟩ := not_or.mp hlen
        exact absurd ⟨hne, not_not.mp heven, Int.not_lt.mp hle, by simpa using hstrdup⟩ h

/-- Behind the checks the loop decodes the characters that the length counts. -/
theorem hexStringToByteArray_of_passes (hcap : byteArr.length < 2 ^ 30)
    (h : Passes (toInt (strlen hexStr)) byteArr.length strdup) :
    ∃ s' finished, hexStringToByteArray (some hexStr) byteArr strdup =
        some ⟨if finished then 0 else -einval, s'.hexStr, s'.byteArr⟩ ∧
      Decoded ⟨hexStr.1 ++ [0], hexStr.1 ++ [0], byteArr⟩
        (hexStr.1.take (toInt (strlen hexStr)).toNat) 0 s' finished := by
  obtain ⟨hne, heven, hle, rfl⟩ := h
  have hint : ¬ 2 ^ 31 ≤ byteArr.length * 2 := by omega
  have hcount := toInt_le (strlen hexStr)
  have hlength := strlen_eq hexStr
  obtain ⟨len, hlenEq⟩ : ∃ len, toInt (strlen hexStr) = len := ⟨_, rfl⟩
  rw [hlenEq] at hne heven hle hcount ⊢
  have hlen : (hexStr.1.take len.toNat).length = 2 * (len.toNat / 2) := by
    rw [List.length_take]
    omega
  have hstr : hexStr.1 ++ [0] = [] ++ (hexStr.1.take len.toNat ++
      (hexStr.1.drop len.toNat ++ [0])) := by
    rw [List.nil_append, ← List.append_assoc, List.take_append_drop]
  obtain ⟨s', finished, hrun, hdecoded⟩ :=
    exists_convertPairs (s := ⟨hexStr.1 ++ [0], hexStr.1 ++ [0], byteArr⟩) (j := 0) hstr rfl hlen
      (by dsimp only; omega)
  refine ⟨s', finished, ?_, hdecoded⟩
  have hpasses : ¬ (len = 0 ∨ len % 2 ≠ 0) := not_or.mpr ⟨hne, not_not.mpr heven⟩
  simp only [hexStringToByteArray, hlenEq, if_neg hpasses, if_neg hint,
    if_neg (Int.not_lt.mpr hle), Bool.not_true, Bool.false_eq_true, if_false, hrun,
    Option.map_some]

theorem not_ret_of_refused (h : ¬ Passes (toInt (strlen hexStr)) byteArr.length strdup)
    (hlen : hexStr.1.length < 2 ^ 31) : ¬ (strdup = true ∧ WellFormed hexStr byteArr.length) := by
  rintro ⟨hstrdup, hne, heven, hle, -⟩
  have hpos := List.length_pos_of_ne_nil hne
  rw [strlen_eq, toInt_eq hlen] at h
  have hmod := Nat.even_iff.mp heven
  exact h ⟨by omega, by omega, by omega, hstrdup⟩

/-- With a length that is an `int`, the checks are those of a string that is to be accepted, but for
its digits. -/
theorem wellFormed_iff (h : Passes (toInt (strlen hexStr)) byteArr.length strdup)
    (hlen : hexStr.1.length < 2 ^ 31) :
    WellFormed hexStr byteArr.length ↔ (decode hexStr.1).isSome = true := by
  obtain ⟨hne, heven, hle, -⟩ := h
  rw [strlen_eq, toInt_eq hlen] at hne heven hle
  rw [isSome_decode_iff]
  constructor
  · rintro ⟨-, hlength, -, hdigits⟩
    exact ⟨hlength, hdigits⟩
  · rintro ⟨hlength, hdigits⟩
    refine ⟨?_, hlength, by omega, hdigits⟩
    rintro hnil
    simp [hnil] at hne

/-- What has been decoded to the head of an array is converted. -/
theorem converts_of_bytes {accepted : Prop} {r : Converted} (haccepts : r.ret = 0 ↔ accepted)
    (hbytes : r.ret = 0 → ∃ bs, decode hexStr.1 = some bs ∧
      r.byteArr = bs ++ byteArr.drop bs.length) :
    Converts accepted hexStr byteArr r where
  accepts := haccepts
  bytes hret := by
    obtain ⟨bs, hdecode, hcells⟩ := hbytes hret
    exact ⟨bs, hdecode, (length_of_decode hdecode).symm, hcells⟩
  inverts hret bs hencode := by
    obtain ⟨bs', hdecode, hcells⟩ := hbytes hret
    obtain rfl := Option.some_inj.mp ((decode_of_map_upper hencode).symm.trans hdecode)
    rw [hcells, List.take_left]
  encodes hret := by
    obtain ⟨bs, hdecode, hcells⟩ := hbytes hret
    have hhalf : hexStr.1.length / 2 = bs.length := by
      rw [length_of_decode hdecode]
      omega
    rw [hcells, hhalf, List.take_left, encode_of_decode hdecode]

/-- Whatever the string is, and whether or not there is memory for the copy, the string is left as
it was and the array is not left. A string whose length is an `int` is converted if there is
memory. -/
theorem hexStringToByteArray_converts (hexStr : CBytes) {byteArr : List UInt8} (strdup : Bool)
    (hcap : byteArr.length < 2 ^ 30) :
    (∃ r, hexStringToByteArray (some hexStr) byteArr strdup = some r ∧ Keeps hexStr byteArr r) ∧
      (hexStr.1.length < 2 ^ 31 →
        Meets (strdup = true ∧ WellFormed hexStr byteArr.length) hexStr byteArr strdup) := by
  have hcode : -einval ≠ 0 := by decide
  by_cases hpasses : Passes (toInt (strlen hexStr)) byteArr.length strdup
  · obtain ⟨s', finished, hrun, hdecoded⟩ := hexStringToByteArray_of_passes hcap hpasses
    have hkeeps : Keeps hexStr byteArr
        ⟨if finished then 0 else -einval, s'.hexStr, s'.byteArr⟩ :=
      ⟨hdecoded.hexStr, hdecoded.length⟩
    refine ⟨⟨_, hrun, hkeeps⟩, fun hlen => ⟨_, hrun, hkeeps, ?_⟩⟩
    have hall : hexStr.1.take (toInt (strlen hexStr)).toNat = hexStr.1 := by
      rw [strlen_eq, toInt_eq hlen]
      exact List.take_length
    have hret : (if finished then (0 : ℤ) else -einval) = 0 ↔ finished = true := by
      cases finished <;> simp [hcode]
    rw [hall] at hdecoded
    apply converts_of_bytes
    · rw [hret, hdecoded.finished_iff, wellFormed_iff hpasses hlen, and_iff_right hpasses.strdup]
    · intro hzero
      obtain ⟨bs, hbs⟩ := Option.isSome_iff_exists.mp (hdecoded.finished_iff.mp (hret.mp hzero))
      exact ⟨bs, hbs, eq_of_writeFrom (hdecoded.bytes bs hbs)⟩
  · have hrun := hexStringToByteArray_of_not_passes hcap hpasses
    refine ⟨⟨_, hrun, rfl, rfl⟩, fun hlen => ⟨_, hrun, ⟨rfl, rfl⟩, ?_⟩⟩
    apply converts_of_bytes
    · exact iff_of_false hcode (not_ret_of_refused hpasses hlen)
    · exact fun hzero => absurd hzero hcode

/-! ### What the machine integers leave out -/

/-- A length that has become negative is less than any capacity, and has no rounds. -/
theorem hexStringToByteArray_of_negative (hcap : byteArr.length < 2 ^ 30)
    (hneg : toInt (strlen hexStr) < 0) (heven : toInt (strlen hexStr) % 2 = 0) :
    hexStringToByteArray (some hexStr) byteArr true = some ⟨0, hexStr.1 ++ [0], byteArr⟩ := by
  have hpasses : ¬ (toInt (strlen hexStr) = 0 ∨ toInt (strlen hexStr) % 2 ≠ 0) :=
    not_or.mpr ⟨Int.ne_of_lt hneg, not_not.mpr heven⟩
  have hint : ¬ 2 ^ 31 ≤ byteArr.length * 2 := by omega
  have hle : ¬ toInt (strlen hexStr) > byteArr.length * 2 := by omega
  have hrounds : (toInt (strlen hexStr)).toNat / 2 = 0 := by omega
  simp only [hexStringToByteArray, if_neg hpasses, if_neg hint, if_neg hle, Bool.not_true,
    Bool.false_eq_true, if_false, hrounds, convertPairs, Option.map_some, if_true]

/-- Twice the capacity has to be an `int`. -/
theorem hexStringToByteArray_of_overflow (hcap : 2 ^ 31 ≤ byteArr.length * 2)
    (hne : toInt (strlen hexStr) ≠ 0) (heven : toInt (strlen hexStr) % 2 = 0) :
    hexStringToByteArray (some hexStr) byteArr strdup = none := by
  have hpasses : ¬ (toInt (strlen hexStr) = 0 ∨ toInt (strlen hexStr) % 2 ≠ 0) :=
    not_or.mpr ⟨hne, not_not.mpr heven⟩
  simp only [hexStringToByteArray, if_neg hpasses, if_pos hcap]

end

/-! ## Samples -/

/-- Two zeros. -/
def twoZeros : CBytes := ⟨[48, 48], by decide⟩

/-- As many zeros as no `int` can count. -/
def longString : CBytes :=
  ⟨List.replicate (2 ^ 31) 48, fun h => absurd (List.eq_of_mem_replicate h) (by decide)⟩

theorem toInt_longString : toInt (strlen longString) = -2 ^ 31 := by
  have hlen : longString.1.length = 2 ^ 31 := List.length_replicate
  rw [strlen_eq, hlen]
  decide

theorem wellFormed_twoZeros {capacity : ℕ} (h : 1 ≤ capacity) : WellFormed twoZeros capacity := by
  have hlen : twoZeros.1.length = 2 := rfl
  have hdigits : ∀ c ∈ twoZeros.1, IsDigit c := by
    intro c hc
    obtain rfl : c = 48 := by simpa [twoZeros] using hc
    rfl
  exact ⟨by decide, by decide, by omega, hdigits⟩

/-- A string that is to be accepted is refused if there is no memory for its copy, one that has no
places in the array is accepted if it is long enough, and for a capacity that is large enough the
comparison is undefined. -/
theorem not_meets :
    ¬ Meets (WellFormed twoZeros 1) twoZeros [0] false ∧
      ¬ Meets (WellFormed longString 0) longString [] true ∧
        ¬ Meets (WellFormed twoZeros (2 ^ 30)) twoZeros (List.replicate (2 ^ 30) 0) true := by
  refine ⟨?_, ?_, ?_⟩
  · rintro ⟨r, hrun, -, hconverts⟩
    have hrefused : hexStringToByteArray (some twoZeros) [0] false =
        some ⟨-einval, twoZeros.1 ++ [0], [0]⟩ :=
      hexStringToByteArray_of_not_passes (by decide) fun h => absurd h.strdup (by decide)
    obtain rfl := Option.some_inj.mp (hrefused.symm.trans hrun)
    have hret := hconverts.accepts.mpr (wellFormed_twoZeros le_rfl)
    contradiction
  · rintro ⟨r, hrun, -, hconverts⟩
    have hempty : ([] : List UInt8).length < 2 ^ 30 := by decide
    have hneg : toInt (strlen longString) < 0 := by
      rw [toInt_longString]
      decide
    have heven : toInt (strlen longString) % 2 = 0 := by
      rw [toInt_longString]
      decide
    have haccepted := hexStringToByteArray_of_negative hempty hneg heven
    obtain rfl := Option.some_inj.mp (haccepted.symm.trans hrun)
    obtain ⟨-, -, hle, -⟩ := hconverts.accepts.mp rfl
    have hlen : longString.1.length = 2 ^ 31 := List.length_replicate
    omega
  · rintro ⟨r, hrun, -, -⟩
    have hcap : 2 ^ 31 ≤ (List.replicate (2 ^ 30) (0 : UInt8)).length * 2 := by
      rw [List.length_replicate]
      decide
    have htwo : toInt (strlen twoZeros) = 2 := by decide
    have hne : toInt (strlen twoZeros) ≠ 0 := by omega
    have heven : toInt (strlen twoZeros) % 2 = 0 := by omega
    rw [hexStringToByteArray_of_overflow hcap hne heven] at hrun
    contradiction

/-- The digits of the byte 175 in both cases. -/
def mixedCase : CBytes := ⟨[97, 70], by decide⟩

theorem meets_mixedCase :
    Meets (true = true ∧ WellFormed mixedCase 1) mixedCase [0] true :=
  (hexStringToByteArray_converts mixedCase true (by decide)).2 (by decide)

end Telephony.Tool
