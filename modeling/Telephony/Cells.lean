import Mathlib.Data.List.TakeWhile
import Mathlib.Data.Nat.Notation

/-!
# Arrays in C

An array is the list of its cells. A write at an index that the array does not have is undefined,
and so is everything that follows it.

## Main definitions

* `Cells.write`, `Cells.writeFrom` — a write at an index, and at an index and those behind it
* `Cells.bytes`, `Cells.strcpy`, `Cells.strncpy` — the bytes of a text, and copies of them
* `Cells.Holds` — an array starts with a text and its terminator
* `Cells.text` — the text at the head of an array

## Main results

* `Cells.writeFrom_eq`, `Cells.isSome_writeFrom_iff` — what is written, and when that is defined
* `Cells.isSome_strcpy_iff`, `Cells.holds_of_strcpy` — a copy stays inside exactly if the text and
  its terminator fit, and is then held
-/

namespace Cells

variable {α : Type*} {cells cells' : List α} {i : ℕ}

/-! ## Writing -/

def write (cells : List α) (i : ℕ) (a : α) : Option (List α) :=
  if i < cells.length then some (cells.set i a) else none

/-- The writes of a pointer that is moved on behind each of them. -/
def writeFrom (cells : List α) (i : ℕ) : List α → Option (List α)
  | [] => some cells
  | a :: as => (write cells i a).bind fun cells => writeFrom cells (i + 1) as

@[simp] theorem writeFrom_nil (cells : List α) (i : ℕ) : writeFrom cells i [] = some cells := rfl

theorem writeFrom_cons (cells : List α) (i : ℕ) (a : α) (as : List α) :
    writeFrom cells i (a :: as) = (write cells i a).bind fun cells => writeFrom cells (i + 1) as :=
  rfl

theorem write_of_lt (h : i < cells.length) (a : α) : write cells i a = some (cells.set i a) :=
  if_pos h

theorem write_of_le (h : cells.length ≤ i) (a : α) : write cells i a = none :=
  if_neg (Nat.not_lt.mpr h)

theorem writeFrom_eq {as : List α} (h : i + as.length ≤ cells.length) :
    writeFrom cells i as = some (cells.take i ++ as ++ cells.drop (i + as.length)) := by
  induction as generalizing cells i with
  | nil => simp
  | cons a as ih =>
    rw [List.length_cons] at h
    have hi : i < cells.length := by omega
    have hlen : i + 1 + as.length ≤ (cells.set i a).length := by
      rw [List.length_set]
      omega
    -- the cell at the index now belongs to what has been written
    have htake : (cells.set i a).take (i + 1) = cells.take i ++ [a] := by
      rw [List.take_add_one, List.take_set_of_le le_rfl, List.getElem?_set_self hi]
      rfl
    have hdrop : (cells.set i a).drop (i + 1 + as.length) =
        cells.drop (i + (as.length + 1)) := by
      rw [List.drop_set_of_lt (by omega)]
      congr 1
      omega
    rw [writeFrom_cons, write_of_lt hi, Option.bind_some, ih hlen, htake, hdrop]
    simp

/-- From the first cell on, the array starts with what is written. -/
theorem writeFrom_zero {as : List α} (h : as.length ≤ cells.length) :
    writeFrom cells 0 as = some (as ++ cells.drop as.length) := by
  have hroom : 0 + as.length ≤ cells.length := by omega
  rw [writeFrom_eq hroom, List.take_zero, List.nil_append, Nat.zero_add]

/-- With more to write than there are cells, the write behind the last cell is made. -/
theorem writeFrom_eq_none {as : List α} (hi : i ≤ cells.length)
    (h : cells.length < i + as.length) : writeFrom cells i as = none := by
  induction as generalizing cells i with
  | nil =>
    rw [List.length_nil] at h
    omega
  | cons a as ih =>
    rw [List.length_cons] at h
    by_cases hlt : i < cells.length
    · rw [writeFrom_cons, write_of_lt hlt, Option.bind_some]
      apply ih
      · rw [List.length_set]
        omega
      · rw [List.length_set]
        omega
    · rw [writeFrom_cons, write_of_le (Nat.not_lt.mp hlt), Option.bind_none]

theorem writeFrom_append (cells : List α) (i : ℕ) (as bs : List α) :
    writeFrom cells i (as ++ bs) =
      (writeFrom cells i as).bind fun cells => writeFrom cells (i + as.length) bs := by
  induction as generalizing cells i with
  | nil => rfl
  | cons a as ih =>
    rw [List.cons_append, writeFrom_cons, writeFrom_cons, Option.bind_assoc]
    congr 1
    funext cells
    rw [ih, List.length_cons, Nat.add_right_comm, Nat.add_assoc]

theorem isSome_writeFrom_iff {as : List α} (hi : i ≤ cells.length) :
    (writeFrom cells i as).isSome = true ↔ i + as.length ≤ cells.length := by
  by_cases h : i + as.length ≤ cells.length
  · simp [writeFrom_eq h, h]
  · simp [writeFrom_eq_none hi (Nat.not_le.mp h), h]

theorem length_of_writeFrom {as : List α} (h : writeFrom cells i as = some cells') :
    cells'.length = cells.length := by
  induction as generalizing cells i with
  | nil =>
    obtain rfl := Option.some_inj.mp h
    rfl
  | cons a as ih =>
    obtain ⟨cells₁, hwrite, hrest⟩ := Option.bind_eq_some_iff.mp h
    obtain ⟨-, rfl⟩ : i < cells.length ∧ cells.set i a = cells₁ := by
      simpa [write] using hwrite
    rw [ih hrest, List.length_set]

theorem eq_of_writeFrom {as : List α} (h : writeFrom cells 0 as = some cells') :
    cells' = as ++ cells.drop as.length := by
  have hroom : 0 + as.length ≤ cells.length := by
    rw [← isSome_writeFrom_iff (Nat.zero_le _), h]
    rfl
  rw [Nat.zero_add] at hroom
  rw [writeFrom_zero hroom] at h
  exact (Option.some_inj.mp h).symm

/-! ## Texts -/

/-- The bytes of a text, without a terminator. -/
def bytes (s : String) : List UInt8 := s.toByteArray.data.toList

@[simp] theorem length_bytes (s : String) : (bytes s).length = s.utf8ByteSize :=
  Array.length_toList

/-- The text at the head of an array, which ends in front of the first terminator. -/
def text (cells : List UInt8) : List UInt8 := cells.takeWhile (· ≠ 0)

/-- An array starts with a text and its terminator. -/
def Holds (cells : List UInt8) (s : String) : Prop := bytes s ++ [0] <+: cells

def strcpy (cells : List UInt8) (s : String) : Option (List UInt8) :=
  writeFrom cells 0 (bytes s ++ [0])

/-- `strncpy`, which pads a short text with terminators. -/
def strncpy (cells : List UInt8) (s : String) (n : ℕ) : Option (List UInt8) :=
  writeFrom cells 0 ((text (bytes s) ++ List.replicate n 0).take n)

section Strcpy

variable {array array' : List UInt8} {s : String}

theorem isSome_strcpy_iff : (strcpy array s).isSome = true ↔ s.utf8ByteSize < array.length := by
  have hlen : (bytes s ++ [0]).length = s.utf8ByteSize + 1 := by simp
  rw [strcpy, isSome_writeFrom_iff (Nat.zero_le _), hlen, Nat.zero_add]
  exact Nat.succ_le_iff

theorem length_of_strcpy (h : strcpy array s = some array') : array'.length = array.length :=
  length_of_writeFrom h

theorem holds_of_strcpy (h : strcpy array s = some array') : Holds array' s := by
  rw [Holds, eq_of_writeFrom h]
  exact List.prefix_append _ _

/-- What an array holds is terminated inside it. -/
theorem Holds.lt (h : Holds array s) : s.utf8ByteSize < array.length := by
  have hle := List.IsPrefix.length_le h
  rw [List.length_append, length_bytes, List.length_singleton] at hle
  exact hle

end Strcpy

end Cells
