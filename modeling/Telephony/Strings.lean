import Mathlib.Algebra.Group.Int.Defs
import Mathlib.Algebra.GroupWithZero.Nat
import Mathlib.Data.Int.Notation
import Mathlib.Data.List.TakeWhile
import Mathlib.Data.Nat.Notation

/-!
# Texts in C

The functions of the C library that the decoders apply to texts.

## Main definitions

* `Telephony.strcpyWithin`, `Telephony.snprintf` — copies that stay within an array
* `Telephony.atoi`, `Telephony.strtok` — the number at the head of a text, and its tokens
* `Telephony.strtokLeaves` — what the first token leaves of a text
* `Telephony.numberEnd` — what stands behind the number at the head of a text

## Main results

* `Telephony.atoi_repr` — a decimal numeral is read as its number
* `Telephony.atoi_append` — a number keeps its value if it ends in front of what is put behind it
* `Telephony.strtok_append`, `Telephony.strtok_strtokLeaves` — the tokens of a joined text, and of
  one that has been taken apart before
-/

namespace Telephony

/-- A text is copied if it is not longer than `max`, and otherwise the destination stays. -/
def strcpyWithin (max : ℕ) (dst src : String) : String :=
  if src.utf8ByteSize ≤ max then src else dst

/-- The text that `snprintf` writes with room for `max` bytes and the terminator. -/
def snprintf (max : ℕ) (s : String) : String :=
  String.ofList (fitting max s.toList)
where
  /-- The characters at the head that fit. -/
  fitting (room : ℕ) : List Char → List Char
    | [] => []
    | c :: cs => if c.utf8Size ≤ room then c :: fitting (room - c.utf8Size) cs else []

/-- The characters that `isspace` accepts. -/
def isSpace (c : Char) : Bool :=
  c = ' ' ∨ c = '\t' ∨ c = '\n' ∨ c = '\r' ∨ c.toNat = 11 ∨ c.toNat = 12

/-- The number that the digits at the head of a text stand for. -/
def leadingNumber (cs : List Char) : ℤ :=
  (cs.takeWhile Char.isDigit).foldl (fun n c => 10 * n + (c.toNat - 48)) 0

/-- `atoi`, for numbers that an `int` can hold. -/
def atoi (s : String) : ℤ :=
  match s.toList.dropWhile isSpace with
  | '-' :: cs => -leadingNumber cs
  | '+' :: cs => leadingNumber cs
  | cs => leadingNumber cs

/-- The numbers that an `int` can hold. -/
def IsInt (n : ℤ) : Prop := -2 ^ 31 ≤ n ∧ n < 2 ^ 31

instance (n : ℤ) : Decidable (IsInt n) := inferInstanceAs (Decidable (_ ∧ _))

/-- The tokens that repeated calls of `strtok` find. Separators in a row count once. -/
def strtok (s : String) (separator : Char) : List String :=
  ((s.toList.splitOn separator).filter fun cs => cs ≠ []).map String.ofList

/-- What can still be read of a text in whose place `strtok` has looked for tokens: the separator
behind the first token has become the end of the text. -/
def strtokLeaves (s : String) (separator : Char) : String :=
  let rest := s.toList.dropWhile (· = separator)
  String.ofList (s.toList.takeWhile (· = separator) ++ rest.takeWhile (· ≠ separator))

/-! ## Lengths -/

section Lengths

variable {cs : List Char} {s : String} {max : ℕ}

theorem utf8ByteSize_ofList (cs : List Char) :
    (String.ofList cs).utf8ByteSize = (cs.map Char.utf8Size).sum := by
  induction cs with
  | nil => rfl
  | cons c cs ih =>
    have hcons : String.ofList (c :: cs) = String.singleton c ++ String.ofList cs := by
      simp
    rw [hcons, String.utf8ByteSize_append, String.utf8ByteSize_singleton, ih, List.map_cons,
      List.sum_cons]

theorem utf8ByteSize_eq_sum (s : String) :
    s.utf8ByteSize = (s.toList.map Char.utf8Size).sum := by
  rw [← utf8ByteSize_ofList, String.ofList_toList]

/-- Characters of one byte. -/
theorem utf8ByteSize_of_forall (h : ∀ c ∈ cs, c.utf8Size = 1) :
    (String.ofList cs).utf8ByteSize = cs.length := by
  rw [utf8ByteSize_ofList, List.map_congr_left (g := fun _ => 1) h, List.map_const',
    List.sum_replicate_nat, Nat.mul_one]

theorem utf8ByteSize_replicate {c : Char} (h : c.utf8Size = 1) (n : ℕ) :
    (String.ofList (List.replicate n c)).utf8ByteSize = n := by
  rw [utf8ByteSize_of_forall, List.length_replicate]
  intro d hd
  rw [List.eq_of_mem_replicate hd, h]

/-- What `snprintf` writes fits, and nothing else is written in full. -/
theorem fitting_eq_self_iff {room : ℕ} :
    snprintf.fitting room cs = cs ↔ (cs.map Char.utf8Size).sum ≤ room := by
  induction cs generalizing room with
  | nil => simp [snprintf.fitting]
  | cons c cs ih =>
    by_cases hroom : c.utf8Size ≤ room
    · rw [snprintf.fitting, if_pos hroom, List.cons_inj_right, ih, List.map_cons, List.sum_cons]
      omega
    · rw [snprintf.fitting, if_neg hroom, List.map_cons, List.sum_cons]
      have hne : [] ≠ c :: cs := nofun
      simp only [hne, false_iff]
      omega

theorem snprintf_eq_self_iff : snprintf max s = s ↔ s.utf8ByteSize ≤ max := by
  rw [utf8ByteSize_eq_sum, ← fitting_eq_self_iff, snprintf, ← String.toList_inj,
    String.toList_ofList]

/-- Among characters of one byte, `snprintf` counts characters. -/
theorem fitting_eq_take (h : ∀ c ∈ cs, c.utf8Size = 1) (room : ℕ) :
    snprintf.fitting room cs = cs.take room := by
  induction cs generalizing room with
  | nil => simp [snprintf.fitting]
  | cons c cs ih =>
    have hc : c.utf8Size = 1 := h c List.mem_cons_self
    cases room with
    | zero => simp [snprintf.fitting, hc]
    | succ room =>
      rw [snprintf.fitting, hc, if_pos (by omega), List.take_succ_cons, Nat.add_sub_cancel,
        ih fun c hc => h c (List.mem_cons_of_mem _ hc)]

theorem utf8Size_of_isDigit {c : Char} (h : c.isDigit = true) : c.utf8Size = 1 := by
  rw [Char.utf8Size_eq_one_iff]
  simp only [Char.isDigit, Bool.and_eq_true, decide_eq_true_eq] at h
  have hle : c.val ≤ 57 := h.2
  exact UInt32.le_trans hle (by decide)

end Lengths

/-! ## Numbers -/

section Numbers

variable {cs : List Char} {s : String}

theorem foldl_digits (h : ∀ c ∈ cs, c.isDigit = true) (n : ℕ) :
    cs.foldl (fun (m : ℤ) c => 10 * m + (c.toNat - 48)) n = Nat.ofDigitChars 10 cs n := by
  induction cs generalizing n with
  | nil => simp
  | cons c cs ih =>
    have hc : c.isDigit = true := h c List.mem_cons_self
    have hge : 48 ≤ c.toNat := by
      simp only [Char.isDigit, Bool.and_eq_true, decide_eq_true_eq] at hc
      exact hc.1
    have hstep : 10 * (n : ℤ) + (c.toNat - 48) = ((10 * n + (c.toNat - 48) : ℕ) : ℤ) := by
      omega
    rw [List.foldl_cons, hstep, ih fun c hc => h c (List.mem_cons_of_mem _ hc),
      Nat.ofDigitChars_cons]
    rfl

theorem leadingNumber_of_isDigit (h : ∀ c ∈ cs, c.isDigit = true) :
    leadingNumber cs = Nat.ofDigitChars 10 cs 0 := by
  have hall : cs.takeWhile Char.isDigit = cs := by
    rw [List.takeWhile_eq_self_iff]
    exact h
  rw [leadingNumber, hall]
  exact foldl_digits h 0

theorem not_isSpace_of_isDigit {c : Char} (h : c.isDigit = true) : isSpace c = false := by
  simp only [Char.isDigit, Bool.and_eq_true, decide_eq_true_eq] at h
  have hge : 48 ≤ c.toNat := h.1
  have hne : ∀ d : Char, d.toNat < 48 → c ≠ d := by
    rintro d hd rfl
    omega
  simp only [isSpace, decide_eq_false_iff_not]
  rintro (h | h | h | h | h | h)
  · exact hne _ (by decide) h
  · exact hne _ (by decide) h
  · exact hne _ (by decide) h
  · exact hne _ (by decide) h
  · omega
  · omega

/-- A text of digits is read as the number they stand for. -/
theorem atoi_of_isDigit (h : ∀ c ∈ s.toList, c.isDigit = true) :
    atoi s = Nat.ofDigitChars 10 s.toList 0 := by
  have hdrop : s.toList.dropWhile isSpace = s.toList := by
    rw [List.dropWhile_eq_self_iff]
    intro hpos
    simp [not_isSpace_of_isDigit (h _ (List.getElem_mem hpos))]
  rw [atoi, hdrop]
  -- a digit is no sign
  have hsign : ∀ c cs, s.toList = c :: cs → c ≠ '-' ∧ c ≠ '+' := by
    intro c cs hs
    have hc : c.isDigit = true := h c (hs ▸ List.mem_cons_self)
    constructor <;> rintro rfl <;> contradiction
  split
  · rename_i cs hs
    exact absurd rfl (hsign _ _ hs).1
  · rename_i cs hs
    exact absurd rfl (hsign _ _ hs).2
  · exact leadingNumber_of_isDigit h

theorem isDigit_of_mem_repr {n : ℕ} {c : Char} (h : c ∈ n.repr.toList) : c.isDigit = true := by
  rw [Nat.toList_repr] at h
  exact Nat.isDigit_of_mem_toDigits (by decide) (by decide) h

/-- A numeral takes one byte for each digit. -/
theorem utf8ByteSize_repr (n : ℕ) : n.repr.utf8ByteSize = n.repr.length := by
  have hsize : ∀ c ∈ n.repr.toList, c.utf8Size = 1 := fun c hc =>
    utf8Size_of_isDigit (isDigit_of_mem_repr hc)
  rw [← String.length_toList, ← utf8ByteSize_of_forall hsize, String.ofList_toList]

@[simp] theorem atoi_repr (n : ℕ) : atoi n.repr = n := by
  rw [atoi_of_isDigit fun c => isDigit_of_mem_repr, Nat.toList_repr,
    Nat.ofDigitChars_ten_toDigits]

end Numbers

/-! ## Numbers with something behind them -/

section NumberEnd

variable {cs ds : List Char} {c : Char}

/-- The sign at the head of a text. -/
def sign (cs : List Char) : ℤ := if cs.head? = some '-' then -1 else 1

/-- A text without its sign. -/
def afterSign : List Char → List Char
  | c :: cs => if c = '-' ∨ c = '+' then cs else c :: cs
  | [] => []

/-- What is left of a text behind the number at its head. -/
def numberEnd (cs : List Char) : List Char :=
  (afterSign (cs.dropWhile isSpace)).dropWhile Char.isDigit

theorem atoi_eq (s : String) :
    atoi s = sign (s.toList.dropWhile isSpace) *
      leadingNumber (afterSign (s.toList.dropWhile isSpace)) := by
  rw [atoi]
  split
  · rename_i cs hs
    rw [hs]
    simp [sign, afterSign]
  · rename_i cs hs
    rw [hs]
    simp [sign, afterSign]
  · rename_i cs hminus hplus
    generalize s.toList.dropWhile isSpace = cs at *
    cases cs with
    | nil => simp [sign, afterSign]
    | cons c cs =>
      have hneg : c ≠ '-' := by
        rintro rfl
        exact hminus cs rfl
      have hpos : c ≠ '+' := by
        rintro rfl
        exact hplus cs rfl
      simp [sign, afterSign, hneg, hpos]

theorem sign_append (h : cs ≠ []) : sign (cs ++ ds) = sign cs := by
  cases cs with
  | nil => contradiction
  | cons c cs => rfl

theorem afterSign_append (h : cs ≠ []) : afterSign (cs ++ ds) = afterSign cs ++ ds := by
  cases cs with
  | nil => contradiction
  | cons c cs =>
    rw [List.cons_append, afterSign, afterSign]
    split <;> rfl

/-- Nothing is taken from a text whose first character is not looked for. -/
theorem takeWhile_of_head? {p : Char → Bool} (h : ∀ c ∈ cs.head?, p c = false) :
    cs.takeWhile p = [] ∧ cs.dropWhile p = cs := by
  cases cs with
  | nil => exact ⟨rfl, rfl⟩
  | cons c cs =>
    have hc : ¬ p c = true := by simp [h c rfl]
    exact ⟨List.takeWhile_cons_of_neg hc, List.dropWhile_cons_of_neg hc⟩

theorem dropWhile_append_of_ne_nil {p : Char → Bool} (h : cs.dropWhile p ≠ []) :
    (cs ++ ds).dropWhile p = cs.dropWhile p ++ ds := by
  rw [List.dropWhile_append, if_neg (by simpa using h)]

theorem takeWhile_append_of_dropWhile_ne_nil {p : Char → Bool} (h : cs.dropWhile p ≠ []) :
    (cs ++ ds).takeWhile p = cs.takeWhile p := by
  rw [List.takeWhile_append, if_neg]
  intro hlen
  have hsplit := congrArg List.length (List.takeWhile_append_dropWhile (p := p) (l := cs))
  rw [List.length_append, hlen] at hsplit
  exact h (List.length_eq_zero_iff.mp (Nat.add_eq_left.mp hsplit))

theorem ne_nil_of_dropWhile_ne_nil {p : Char → Bool} (h : cs.dropWhile p ≠ []) : cs ≠ [] := by
  rintro rfl
  exact h rfl

theorem dropWhile_append_of_eq_nil {p : Char → Bool} (h : cs.dropWhile p = []) :
    (cs ++ ds).dropWhile p = ds.dropWhile p := by
  rw [List.dropWhile_append, h]
  rfl

/-- A number that ends in front of what follows it keeps its value. -/
theorem atoi_append (h : numberEnd cs ≠ []) :
    atoi (String.ofList (cs ++ ds)) = atoi (String.ofList cs) := by
  have hne : cs.dropWhile isSpace ≠ [] := by
    intro hnil
    rw [numberEnd, hnil] at h
    exact h rfl
  rw [atoi_eq, atoi_eq, String.toList_ofList, String.toList_ofList,
    dropWhile_append_of_ne_nil hne, sign_append hne, afterSign_append hne, leadingNumber,
    takeWhile_append_of_dropWhile_ne_nil h, leadingNumber]

/-- The number does not go on with a character that is neither a digit nor in front of one. -/
theorem atoi_append_cons (hdigit : c.isDigit = false) (hspace : isSpace c = false) (hneg : c ≠ '-')
    (hpos : c ≠ '+') :
    atoi (String.ofList (cs ++ c :: ds)) = atoi (String.ofList cs) := by
  rw [atoi_eq, atoi_eq, String.toList_ofList, String.toList_ofList]
  by_cases hnil : cs.dropWhile isSpace = []
  · have hhead : (c :: ds).dropWhile isSpace = c :: ds :=
      List.dropWhile_cons_of_neg (by simp [hspace])
    rw [dropWhile_append_of_eq_nil hnil, hhead, hnil]
    simp [sign, afterSign, hneg, hpos, leadingNumber, hdigit]
  · have htake : (afterSign (cs.dropWhile isSpace) ++ c :: ds).takeWhile Char.isDigit =
        (afterSign (cs.dropWhile isSpace)).takeWhile Char.isDigit := by
      rw [List.takeWhile_append]
      split
      · rename_i hlen
        rw [List.takeWhile_cons_of_neg (by simp [hdigit]), List.append_nil]
        exact ((List.takeWhile_prefix _).eq_of_length hlen).symm
      · rfl
    rw [dropWhile_append_of_ne_nil hnil, sign_append hnil, afterSign_append hnil, leadingNumber,
      htake, leadingNumber]

end NumberEnd

/-! ## Tokens -/

section Tokens

variable {s t : String} {separator : Char} {cs ds : List Char}

theorem strtok_of_not_mem (h : separator ∉ s.toList) (hne : s ≠ "") :
    strtok s separator = [s] := by
  have hlist : s.toList ≠ [] := fun hs => hne (String.toList_inj.mp hs)
  rw [strtok, List.splitOn_eq_singleton h]
  simp [hlist]

/-- A token in front of a separator is the first. -/
theorem strtok_append (h : separator ∉ s.toList) (hne : s ≠ "") :
    strtok (s ++ String.singleton separator ++ t) separator = s :: strtok t separator := by
  have hlist : s.toList ≠ [] := fun hs => hne (String.toList_inj.mp hs)
  have happend : (s ++ String.singleton separator ++ t).toList
      = s.toList ++ separator :: t.toList := by
    simp
  rw [strtok, happend, List.splitOn_append_cons_self_of_not_mem h]
  simp [strtok, hlist]

/-- Separators at the head are skipped. -/
theorem strtok_append_of_forall {seps : List Char} (h : ∀ c ∈ seps, c = separator) :
    strtok (String.ofList (seps ++ cs)) separator = strtok (String.ofList cs) separator := by
  induction seps with
  | nil => rfl
  | cons c seps ih =>
    obtain rfl : c = separator := h c List.mem_cons_self
    rw [← ih fun c hc => h c (List.mem_cons_of_mem _ hc)]
    simp [strtok, List.splitOn_cons_eq_if_modifyHead]

theorem strtok_eq_nil_of_forall (h : ∀ c ∈ cs, c = separator) :
    strtok (String.ofList cs) separator = [] := by
  rw [← List.append_nil cs, strtok_append_of_forall h]
  simp [strtok]

/-- A token in front of the end of the text, or of a separator, is the first. -/
theorem strtok_ofList_append (hne : cs ≠ []) (hnot : separator ∉ cs)
    (hrest : ∀ c ∈ ds.head?, c = separator) :
    strtok (String.ofList (cs ++ ds)) separator =
      String.ofList cs :: strtok (String.ofList ds) separator := by
  have hne' : String.ofList cs ≠ "" := by
    rwa [ne_eq, String.ofList_eq_empty_iff]
  have hnot' : separator ∉ (String.ofList cs).toList := by
    rwa [String.toList_ofList]
  cases ds with
  | nil =>
    rw [List.append_nil, strtok_of_not_mem hnot' hne', strtok_eq_nil_of_forall (by simp)]
  | cons d ds =>
    obtain rfl : d = separator := hrest d rfl
    have happend : String.ofList (cs ++ d :: ds) =
        String.ofList cs ++ String.singleton d ++ String.ofList ds := by
      simp [← String.toList_inj]
    have hskip : strtok (String.ofList ([d] ++ ds)) d = strtok (String.ofList ds) d :=
      strtok_append_of_forall (by simp)
    rw [happend, strtok_append hnot' hne', ← hskip, List.singleton_append]

/-- What separators at the head have in front of them is no token. -/
theorem strtok_dropWhile (cs : List Char) :
    strtok (String.ofList (cs.dropWhile (· = separator))) separator =
      strtok (String.ofList cs) separator := by
  have hlead : ∀ c ∈ cs.takeWhile (· = separator), c = separator := fun c hc => by
    simpa using List.mem_takeWhile_imp hc
  rw [← strtok_append_of_forall hlead, List.takeWhile_append_dropWhile]

theorem not_mem_takeWhile_ne : separator ∉ cs.takeWhile (· ≠ separator) := fun hmem => by
  simpa using List.mem_takeWhile_imp hmem

/-- Behind the separators at the head stands a token, unless nothing does. -/
theorem token_ne_nil (h : cs.dropWhile (· = separator) ≠ []) :
    (cs.dropWhile (· = separator)).takeWhile (· ≠ separator) ≠ [] := by
  have hhead := List.head?_dropWhile_not (· = separator) cs
  generalize cs.dropWhile (· = separator) = rest at h hhead ⊢
  cases rest with
  | nil => contradiction
  | cons c rest =>
    have hc : c ≠ separator := by simpa using hhead
    simp [hc]

/-- The first token ends in front of the next separator. -/
theorem strtok_ofList (h : cs.dropWhile (· = separator) ≠ []) :
    strtok (String.ofList cs) separator =
      String.ofList ((cs.dropWhile (· = separator)).takeWhile (· ≠ separator)) ::
        strtok (String.ofList ((cs.dropWhile (· = separator)).dropWhile (· ≠ separator)))
          separator := by
  rw [← strtok_dropWhile cs]
  have hrest : ∀ c ∈ ((cs.dropWhile (· = separator)).dropWhile (· ≠ separator)).head?,
      c = separator := by
    intro c hc
    have hbehind := List.head?_dropWhile_not (· ≠ separator) (cs.dropWhile (· = separator))
    rw [Option.mem_def.mp hc] at hbehind
    simpa using hbehind
  rw [← strtok_ofList_append (token_ne_nil h) not_mem_takeWhile_ne hrest,
    List.takeWhile_append_dropWhile]

/-- A text in whose place tokens have been looked for has only the first of them left. -/
theorem strtok_strtokLeaves :
    strtok (strtokLeaves s separator) separator = (strtok s separator).take 1 := by
  have hlead : ∀ c ∈ s.toList.takeWhile (· = separator), c = separator := fun c hc => by
    simpa using List.mem_takeWhile_imp hc
  have hs : strtok (String.ofList (s.toList.dropWhile (· = separator))) separator =
      strtok (String.ofList s.toList) separator := strtok_dropWhile s.toList
  rw [String.ofList_toList] at hs
  rw [strtokLeaves, strtok_append_of_forall hlead, ← hs]
  by_cases hnil : s.toList.dropWhile (· = separator) = []
  · rw [hnil]
    simp [strtok]
  · have hnone : ∀ c ∈ ([] : List Char).head?, c = separator := by simp
    have hfirst := strtok_ofList_append (token_ne_nil hnil) not_mem_takeWhile_ne hnone
    rw [List.append_nil] at hfirst
    rw [hs, ← String.ofList_toList (s := s), strtok_ofList hnil, String.toList_ofList, hfirst,
      List.take_succ_cons, List.take_zero, strtok_eq_nil_of_forall (by simp)]

end Tokens

end Telephony
