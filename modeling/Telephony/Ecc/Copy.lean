import Telephony.Call.Signal

/-!
# Emergency numbers that are copied

The function that reads the property of the emergency numbers copies four bytes of what follows a
number into an array of five that it has not cleared, and takes the copy apart there. A text of four
bytes or more has no end in the array, unless the last byte happens to be one.

## Main definitions

* `Call.nextToken` — what `strtok` finds in an array, as far as that is defined
* `Call.condCat`, `Call.copiedCondition` — the copy, and the two numbers that are read from it
* `Ecc.EndsInCopy` — what a text has to be for its numbers to be found in the copy

## Main results

* `Ecc.eccCondition_ofList` — the two numbers of a text
* `Ecc.copiedCondition_terminated`, `Ecc.copiedCondition_unterminated` — the numbers that are read
  from an array with an end in it, and from one without
* `Ecc.copiedCondition_condCat` — the copy has the numbers of the text
-/

namespace Telephony

open DBus

/-! ## The copy -/

namespace Call

/-- The first four bytes of a text. The bytes of a character that is cut off are no separator and
no part of a number. -/
def firstFour (text : String) : String :=
  let head := snprintf 4 text
  if head.utf8ByteSize < 4 then head ++ "\uFFFD" else head

/-- What `cond_cat` holds once four bytes have been copied: `none` is the end of a text. A text of
four bytes or more leaves the last byte of the array as it was. -/
def condCat (last : Option Char) (text : String) : List (Option Char) :=
  if text.utf8ByteSize < 4 then text.toList.map some ++ [none]
  else (firstFour text).toList.map some ++ [last]

/-- The token at a place of an array, up to the next separator or the end of the text, and the place
that is remembered for the next call. If there is neither in the array, the search runs out of
it. -/
def tokenAt : List (Option Char) → Option (List Char × List (Option Char))
  | some c :: array =>
    if c = ',' then some ([], array)
    else (tokenAt array).map fun (token, rest) => (c :: token, rest)
  | none :: array => some ([], none :: array)
  | [] => none

/-- `strtok(.., ",")`, from a place of an array on. There is nothing to convert if only separators
are left. -/
def nextToken (array : List (Option Char)) : Option (List Char × List (Option Char)) :=
  match array.dropWhile (· = some ',') with
  | some c :: array => tokenAt (some c :: array)
  | _ => none

/-- The category and the condition that are read from the copy. -/
def copiedCondition (eccNum : String) (array : List (Option Char)) : Option EccInfo :=
  (nextToken array).bind fun (category, rest) =>
    (nextToken rest).map fun (condition, _) =>
      ⟨.text eccNum, atoi (String.ofList category), atoi (String.ofList condition)⟩

end Call

namespace Ecc

/-! ## The two numbers of a text -/

/-- What is left of a text from its second token on. -/
def secondToken (cs : List Char) : List Char :=
  ((cs.dropWhile (· = ',')).dropWhile (· ≠ ',')).dropWhile (· = ',')

section Tokens

variable {eccNum : String} {cs ds : List Char} {c : Char}

/-- A number does not go on behind a comma. -/
theorem atoi_takeWhile (cs : List Char) :
    atoi (String.ofList (cs.takeWhile (· ≠ ','))) = atoi (String.ofList cs) := by
  have hsplit := List.takeWhile_append_dropWhile (p := (· ≠ ',')) (l := cs)
  have hhead := List.head?_dropWhile_not (· ≠ ',') cs
  cases hrest : cs.dropWhile (· ≠ ',') with
  | nil =>
    rw [hrest, List.append_nil] at hsplit
    rw [hsplit]
  | cons d ds =>
    rw [hrest] at hsplit hhead
    obtain rfl : d = ',' := by simpa using hhead
    nth_rewrite 2 [← hsplit]
    exact (atoi_append_cons rfl rfl (by decide) (by decide)).symm

/-- A text that has a second token is taken apart into two numbers. -/
theorem eccCondition_ofList (eccNum : String) (cs : List Char) :
    Call.eccCondition eccNum (String.ofList cs) =
      if secondToken cs = [] then none
      else some ⟨.text eccNum, atoi (String.ofList (cs.dropWhile (· = ','))),
        atoi (String.ofList (secondToken cs))⟩ := by
  rw [Call.eccCondition]
  by_cases hfirst : cs.dropWhile (· = ',') = []
  · have hnone : strtok (String.ofList cs) ',' = [] := by
      rw [← strtok_dropWhile, hfirst]
      exact strtok_eq_nil_of_forall (by simp)
    simp [hnone, secondToken, hfirst]
  · rw [strtok_ofList hfirst]
    by_cases hsecond : secondToken cs = []
    · have hnone :
          strtok (String.ofList ((cs.dropWhile (· = ',')).dropWhile (· ≠ ','))) ',' = [] := by
        rw [← strtok_dropWhile, ← secondToken, hsecond]
        exact strtok_eq_nil_of_forall (by simp)
      simp only [hnone, hsecond, if_true]
    · rw [strtok_ofList hsecond, ← secondToken]
      simp only [if_neg hsecond, atoi_takeWhile]

/-- The second token goes on with what is put behind the text. -/
theorem secondToken_append (h : secondToken cs ≠ []) :
    secondToken (cs ++ ds) = secondToken cs ++ ds := by
  have hbehind := ne_nil_of_dropWhile_ne_nil h
  have hfirst := ne_nil_of_dropWhile_ne_nil hbehind
  rw [secondToken, dropWhile_append_of_ne_nil hfirst, dropWhile_append_of_ne_nil hbehind,
    dropWhile_append_of_ne_nil h, secondToken]

/-- Of two texts that are joined by a separator, the second is the second token. -/
theorem secondToken_append_cons {category : String} {condition : List Char} (hne : category ≠ "")
    (hcategory : ∀ c ∈ category.toList, c ≠ ',') (hcondition : ∀ c ∈ condition, c ≠ ',') :
    secondToken (category.toList ++ ',' :: condition) = condition := by
  have hnonempty : category.toList ≠ [] := fun hnil => hne (String.toList_inj.mp hnil)
  have hfirst : (category.toList ++ ',' :: condition).dropWhile (· = ',') =
      category.toList ++ ',' :: condition := by
    apply (takeWhile_of_head? _).2
    intro c hc
    rw [List.head?_append_of_ne_nil _ hnonempty] at hc
    simpa using hcategory c (List.mem_of_head? hc)
  have hbehind : (category.toList ++ ',' :: condition).dropWhile (· ≠ ',') = ',' :: condition := by
    rw [List.dropWhile_append_of_pos fun c hc => by simpa using hcategory c hc]
    rfl
  rw [secondToken, hfirst, hbehind, List.dropWhile_cons_of_pos (by decide)]
  apply (takeWhile_of_head? _).2
  intro c hc
  simpa using hcondition c (List.mem_of_head? hc)

/-- What is put behind a text whose second number has ended changes neither number. -/
theorem eccCondition_append (h : numberEnd (secondToken cs) ≠ []) :
    Call.eccCondition eccNum (String.ofList (cs ++ ds)) =
      Call.eccCondition eccNum (String.ofList cs) := by
  have hsecond : secondToken cs ≠ [] := by
    intro hnil
    rw [hnil] at h
    exact h rfl
  have hbehind := ne_nil_of_dropWhile_ne_nil hsecond
  have hfirst := ne_nil_of_dropWhile_ne_nil hbehind
  -- the first number ends at the latest in front of the second token
  have hcategory : atoi (String.ofList ((cs ++ ds).dropWhile (· = ','))) =
      atoi (String.ofList (cs.dropWhile (· = ','))) := by
    rw [← atoi_takeWhile, ← atoi_takeWhile (cs.dropWhile (· = ',')),
      dropWhile_append_of_ne_nil hfirst, takeWhile_append_of_dropWhile_ne_nil hbehind]
  rw [eccCondition_ofList, eccCondition_ofList, hcategory, secondToken_append hsecond,
    atoi_append h, if_neg hsecond, if_neg (by simp [hsecond])]

/-- A character of several bytes is no separator and ends every number. -/
theorem plain_of_one_lt_utf8Size (h : 1 < c.utf8Size) :
    c ≠ ',' ∧ c.isDigit = false ∧ isSpace c = false ∧ c ≠ '-' ∧ c ≠ '+' := by
  have hne : ∀ d : Char, d.utf8Size = 1 → c ≠ d := by
    rintro d hd rfl
    omega
  have hval : ∀ n : ℕ, n < 128 → c.toNat ≠ n := by
    intro n hn heq
    have hsmall : c.val ≤ 127 := by
      rw [UInt32.le_iff_toNat_le]
      change c.toNat ≤ 127
      omega
    rw [Char.utf8Size_eq_one_iff.mpr hsmall] at h
    exact absurd h (Nat.lt_irrefl 1)
  refine ⟨hne _ rfl, ?_, ?_, hne _ rfl, hne _ rfl⟩
  · by_contra hdigit
    rw [Bool.not_eq_false] at hdigit
    rw [utf8Size_of_isDigit hdigit] at h
    exact absurd h (Nat.lt_irrefl 1)
  · rw [isSpace, decide_eq_false_iff_not]
    rintro (heq | heq | heq | heq | heq | heq)
    · exact hne _ rfl heq
    · exact hne _ rfl heq
    · exact hne _ rfl heq
    · exact hne _ rfl heq
    · exact hval 11 (by omega) heq
    · exact hval 12 (by omega) heq

/-- A character that does not belong to what is dropped stays. -/
theorem dropWhile_append_singleton {p : Char → Bool} (h : p c = false) :
    (cs ++ [c]).dropWhile p = cs.dropWhile p ++ [c] := by
  by_cases hnil : cs.dropWhile p = []
  · rw [dropWhile_append_of_eq_nil hnil, hnil, List.dropWhile_cons_of_neg (by simp [h])]
    rfl
  · exact dropWhile_append_of_ne_nil hnil

/-- With another character than a separator at its end, a text has a second token behind any
separator that follows the first. -/
theorem secondToken_concat (h : c ≠ ',') :
    secondToken (cs ++ [c]) =
      if (cs.dropWhile (· = ',')).dropWhile (· ≠ ',') = [] then [] else secondToken cs ++ [c] := by
  rw [secondToken, dropWhile_append_singleton (by simpa using h)]
  split
  · rename_i hnil
    rw [dropWhile_append_of_eq_nil hnil, List.dropWhile_cons_of_pos (by simpa using h)]
    rfl
  · rename_i hbehind
    rw [dropWhile_append_of_ne_nil hbehind, dropWhile_append_singleton (by simpa using h),
      secondToken]

section Plain

variable (h : 1 < c.utf8Size)

include h

theorem numberEnd_append_plain : numberEnd (cs ++ [c]) ≠ [] := by
  obtain ⟨-, hdigit, hspace, hneg, hpos⟩ := plain_of_one_lt_utf8Size h
  have hsign : afterSign (cs.dropWhile isSpace ++ [c]) =
      afterSign (cs.dropWhile isSpace) ++ [c] := by
    by_cases hnil : cs.dropWhile isSpace = []
    · simp [hnil, afterSign, hneg, hpos]
    · exact afterSign_append hnil
  rw [numberEnd, dropWhile_append_singleton hspace, hsign, dropWhile_append_singleton hdigit]
  exact List.concat_ne_nil _ _

/-- It does not matter which character of several bytes ends a text. -/
theorem eccCondition_append_plain :
    Call.eccCondition eccNum (String.ofList (cs ++ [c])) =
      if (cs.dropWhile (· = ',')).dropWhile (· ≠ ',') = [] then none
      else some ⟨.text eccNum, atoi (String.ofList (cs.dropWhile (· = ','))),
        atoi (String.ofList (secondToken cs))⟩ := by
  obtain ⟨hcomma, hdigit, hspace, hneg, hpos⟩ := plain_of_one_lt_utf8Size h
  rw [eccCondition_ofList, secondToken_concat hcomma,
    dropWhile_append_singleton (by simpa using hcomma)]
  by_cases hbehind : (cs.dropWhile (· = ',')).dropWhile (· ≠ ',') = []
  · rw [if_pos hbehind, if_pos hbehind, if_pos rfl]
  · rw [if_neg hbehind, if_neg hbehind, if_neg (List.concat_ne_nil _ _),
      atoi_append_cons hdigit hspace hneg hpos, atoi_append_cons hdigit hspace hneg hpos]

end Plain

end Tokens

/-! ## Tokens in an array -/

section Array

variable {eccNum : String} {cs : List Char} {c : Char}

theorem dropWhile_map_some (cs : List Char) (array : List (Option Char)) :
    (cs.map some ++ none :: array).dropWhile (· = some ',') =
      (cs.dropWhile (· = ',')).map some ++ none :: array := by
  induction cs with
  | nil => rfl
  | cons c cs ih =>
    by_cases h : c = ','
    · simp [h, ih]
    · simp [h]

/-- In front of the end of a text, a token ends there at the latest. -/
theorem tokenAt_terminated (cs : List Char) :
    Call.tokenAt (cs.map some ++ [none]) =
      some (cs.takeWhile (· ≠ ','), (cs.dropWhile (· ≠ ',')).tail.map some ++ [none]) := by
  induction cs with
  | nil => rfl
  | cons c cs ih =>
    rw [List.map_cons, List.cons_append, Call.tokenAt]
    by_cases h : c = ','
    · simp [h]
    · simp [h, ih]

/-- Without an end, a token has to end at a separator. -/
theorem tokenAt_unterminated (cs : List Char) :
    Call.tokenAt (cs.map some) =
      if ',' ∈ cs then
        some (cs.takeWhile (· ≠ ','), (cs.dropWhile (· ≠ ',')).tail.map some)
      else none := by
  induction cs with
  | nil => rfl
  | cons c cs ih =>
    rw [List.map_cons, Call.tokenAt]
    by_cases h : c = ','
    · simp [h]
    · by_cases hmem : ',' ∈ cs
      · simp [h, Ne.symm h, ih, hmem]
      · simp [h, Ne.symm h, ih, hmem]

/-- Behind a token, the search for the next one skips the separator at which it has ended. -/
theorem dropWhile_tail (cs : List Char) :
    (cs.dropWhile (· ≠ ',')).tail.dropWhile (· = ',') =
      (cs.dropWhile (· ≠ ',')).dropWhile (· = ',') := by
  have hhead := List.head?_dropWhile_not (· ≠ ',') cs
  cases hrest : cs.dropWhile (· ≠ ',') with
  | nil => rfl
  | cons c rest =>
    rw [hrest] at hhead
    obtain rfl : c = ',' := by simpa using hhead
    rfl

theorem nextToken_terminated (cs : List Char) :
    Call.nextToken (cs.map some ++ [none]) =
      if cs.dropWhile (· = ',') = [] then none
      else some ((cs.dropWhile (· = ',')).takeWhile (· ≠ ','),
        ((cs.dropWhile (· = ',')).dropWhile (· ≠ ',')).tail.map some ++ [none]) := by
  rw [Call.nextToken, dropWhile_map_some]
  cases hrest : cs.dropWhile (· = ',') with
  | nil => rfl
  | cons c rest =>
    rw [if_neg (List.cons_ne_nil _ _)]
    exact tokenAt_terminated (c :: rest)

theorem nextToken_unterminated (cs : List Char) :
    Call.nextToken (cs.map some) =
      if ',' ∈ cs.dropWhile (· = ',') then
        some ((cs.dropWhile (· = ',')).takeWhile (· ≠ ','),
          ((cs.dropWhile (· = ',')).dropWhile (· ≠ ',')).tail.map some)
      else none := by
  have hdrop : (cs.map some).dropWhile (· = some ',') = (cs.dropWhile (· = ',')).map some := by
    rw [List.dropWhile_map]
    congr 2
    funext c
    simp
  rw [Call.nextToken, hdrop]
  cases hrest : cs.dropWhile (· = ',') with
  | nil => rfl
  | cons c rest => exact tokenAt_unterminated (c :: rest)

/-- In an array with an end in it, the numbers are those of the text in front of that. -/
theorem copiedCondition_terminated (eccNum : String) (cs : List Char) :
    Call.copiedCondition eccNum (cs.map some ++ [none]) =
      Call.eccCondition eccNum (String.ofList cs) := by
  rw [eccCondition_ofList, Call.copiedCondition, nextToken_terminated]
  by_cases hfirst : cs.dropWhile (· = ',') = []
  · rw [if_pos hfirst, Option.bind_none, secondToken, hfirst]
    rfl
  · rw [if_neg hfirst, Option.bind_some]
    dsimp only
    rw [nextToken_terminated, dropWhile_tail, ← secondToken]
    by_cases hsecond : secondToken cs = []
    · rw [if_pos hsecond, if_pos hsecond]
      rfl
    · rw [if_neg hsecond, if_neg hsecond, Option.map_some, atoi_takeWhile, atoi_takeWhile]

/-- In an array without an end, a separator has to end the second token. -/
theorem copiedCondition_unterminated (eccNum : String) (cs : List Char) :
    Call.copiedCondition eccNum (cs.map some) =
      if ',' ∈ secondToken cs then
        some ⟨.text eccNum, atoi (String.ofList (cs.dropWhile (· = ','))),
          atoi (String.ofList (secondToken cs))⟩
      else none := by
  rw [Call.copiedCondition, nextToken_unterminated]
  by_cases hfirst : ',' ∈ cs.dropWhile (· = ',')
  · rw [if_pos hfirst, Option.bind_some]
    dsimp only
    rw [nextToken_unterminated, dropWhile_tail, ← secondToken]
    by_cases hsecond : ',' ∈ secondToken cs
    · rw [if_pos hsecond, if_pos hsecond, Option.map_some, atoi_takeWhile, atoi_takeWhile]
    · rw [if_neg hsecond, if_neg hsecond, Option.map_none]
  · have hsecond : ',' ∉ secondToken cs := fun hmem =>
      hfirst ((List.dropWhile_suffix _).subset ((List.dropWhile_suffix _).subset hmem))
    rw [if_neg hfirst, if_neg hsecond, Option.bind_none]

/-- A number ends in front of a separator. -/
theorem numberEnd_ne_nil (h : ',' ∈ cs) : numberEnd cs ≠ [] := by
  have hspace : ',' ∈ cs.dropWhile isSpace := by
    rw [← List.takeWhile_append_dropWhile (p := isSpace) (l := cs), List.mem_append] at h
    exact h.resolve_left fun hmem => absurd (List.mem_takeWhile_imp hmem) (by decide)
  have hsign : ',' ∈ afterSign (cs.dropWhile isSpace) := by
    generalize cs.dropWhile isSpace = rest at hspace ⊢
    cases rest with
    | nil => exact hspace
    | cons c rest =>
      rw [afterSign]
      split
      · rename_i hc
        exact (List.mem_cons.mp hspace).resolve_left (by rintro rfl; simp at hc)
      · exact hspace
  intro hnil
  exact absurd (List.dropWhile_eq_nil_iff.mp hnil _ hsign) (by decide)

end Array

/-! ## The first four bytes of a text -/

/-- What does not fit is left out from a character on that is too long for the rest of the room. -/
theorem fitting_cases (room : ℕ) (cs : List Char) :
    snprintf.fitting room cs = cs ∨ ∃ c rest, cs = snprintf.fitting room cs ++ c :: rest ∧
      room < (String.ofList (snprintf.fitting room cs)).utf8ByteSize + c.utf8Size := by
  induction cs generalizing room with
  | nil => exact .inl rfl
  | cons c cs ih =>
    rw [snprintf.fitting]
    split
    · rename_i hroom
      obtain hall | ⟨d, rest, hrest, hlong⟩ := ih (room - c.utf8Size)
      · exact .inl (by rw [hall])
      · refine .inr ⟨d, rest, by rw [List.cons_append, ← hrest], ?_⟩
        rw [utf8ByteSize_eq_sum, String.toList_ofList] at hlong ⊢
        rw [List.map_cons, List.sum_cons]
        omega
    · rename_i hroom
      refine .inr ⟨c, cs, rfl, ?_⟩
      rw [utf8ByteSize_eq_sum]
      simpa using hroom

section Copy

variable {text eccNum : String}

/-- A text of four bytes or more starts with its first four, unless these end within a
character. -/
theorem firstFour_cases (h : 4 ≤ text.utf8ByteSize) :
    (∃ rest, text.toList = (Call.firstFour text).toList ++ rest) ∨
      ∃ head c rest, text.toList = head ++ c :: rest ∧ 1 < c.utf8Size ∧
        (Call.firstFour text).toList = head ++ ['\uFFFD'] := by
  have hhead : (snprintf 4 text).toList = snprintf.fitting 4 text.toList := by
    rw [snprintf, String.toList_ofList]
  obtain hall | ⟨c, rest, hrest, hlong⟩ := fitting_cases 4 text.toList
  · -- the text has four bytes
    have hself : snprintf 4 text = text := by
      rw [snprintf, hall, String.ofList_toList]
    refine .inl ⟨[], ?_⟩
    rw [Call.firstFour]
    simp only [hself, if_neg (Nat.not_lt.mpr h), List.append_nil]
  · rw [← snprintf] at hlong
    rw [← hhead] at hrest
    by_cases hshort : (snprintf 4 text).utf8ByteSize < 4
    · refine .inr ⟨(snprintf 4 text).toList, c, rest, hrest, by omega, ?_⟩
      rw [Call.firstFour]
      simp [hshort]
    · refine .inl ⟨c :: rest, ?_⟩
      rw [Call.firstFour]
      simpa only [if_neg hshort] using hrest

/-- The text is terminated within the four bytes that are copied, or its second token ends there at
a separator. -/
def EndsInCopy (text : String) : Prop :=
  text.utf8ByteSize < 4 ∨ ',' ∈ secondToken (Call.firstFour text).toList

/-- A second token that ends within the first four bytes has the number of the text. -/
theorem eccCondition_firstFour (hlong : 4 ≤ text.utf8ByteSize)
    (hend : numberEnd (secondToken (Call.firstFour text).toList) ≠ []) :
    Call.eccCondition eccNum (Call.firstFour text) = Call.eccCondition eccNum text := by
  obtain ⟨rest, hrest⟩ | ⟨head, c, rest, hrest, hc, hfour⟩ := firstFour_cases hlong
  · have htext : text = String.ofList ((Call.firstFour text).toList ++ rest) := by
      rw [← hrest, String.ofList_toList]
    calc Call.eccCondition eccNum (Call.firstFour text)
        = Call.eccCondition eccNum (String.ofList ((Call.firstFour text).toList ++ rest)) := by
          rw [eccCondition_append hend, String.ofList_toList]
      _ = Call.eccCondition eccNum text := by rw [← htext]
  · -- the character that is cut off ends the number, as its first bytes do in the copy
    have hcut : 1 < '\uFFFD'.utf8Size := by decide
    rw [hfour] at hend
    have hbehind : (head.dropWhile (· = ',')).dropWhile (· ≠ ',') ≠ [] := by
      intro hnil
      rw [secondToken_concat (by decide), if_pos hnil] at hend
      exact hend rfl
    have hwhole : numberEnd (secondToken (head ++ [c])) ≠ [] := by
      rw [secondToken_concat (plain_of_one_lt_utf8Size hc).1, if_neg hbehind]
      exact numberEnd_append_plain hc
    calc Call.eccCondition eccNum (Call.firstFour text)
        = Call.eccCondition eccNum (String.ofList (head ++ ['\uFFFD'])) := by
          rw [← hfour, String.ofList_toList]
      _ = Call.eccCondition eccNum (String.ofList (head ++ [c])) := by
          rw [eccCondition_append_plain hcut, eccCondition_append_plain hc]
      _ = Call.eccCondition eccNum (String.ofList (head ++ [c] ++ rest)) :=
          (eccCondition_append hwhole).symm
      _ = Call.eccCondition eccNum text := by
          rw [List.append_assoc, List.singleton_append, ← hrest, String.ofList_toList]

/-- Whatever the last byte of the array is, a token that ends in the copy is the one of the
text. -/
theorem copiedCondition_condCat (h : EndsInCopy text) (last : Option Char) :
    Call.copiedCondition eccNum (Call.condCat last text) = Call.eccCondition eccNum text := by
  by_cases hshort : text.utf8ByteSize < 4
  · rw [Call.condCat, if_pos hshort, copiedCondition_terminated, String.ofList_toList]
  have hcomma := h.resolve_left hshort
  have hend := numberEnd_ne_nil hcomma
  have hfour : Call.copiedCondition eccNum (Call.condCat last text) =
      Call.eccCondition eccNum (Call.firstFour text) := by
    rw [Call.condCat, if_neg hshort]
    cases last with
    | none => rw [copiedCondition_terminated, String.ofList_toList]
    | some c =>
      have hne := List.ne_nil_of_mem hcomma
      have happend : Call.eccCondition eccNum
            (String.ofList ((Call.firstFour text).toList ++ [c])) =
          Call.eccCondition eccNum (String.ofList (Call.firstFour text).toList) :=
        eccCondition_append hend
      have hsecond : secondToken ((Call.firstFour text).toList ++ [c]) =
          secondToken (Call.firstFour text).toList ++ [c] := secondToken_append hne
      rw [eccCondition_ofList, hsecond, if_neg (by simp), String.ofList_toList] at happend
      rw [← List.map_singleton, ← List.map_append, copiedCondition_unterminated, hsecond,
        if_pos (List.mem_append_left _ hcomma), happend]
  rw [hfour, eccCondition_firstFour (Nat.not_lt.mp hshort) hend]

/-- A digit in the last byte of the array leaves no end for a second token that is not ended by a
separator in front of it. -/
theorem copiedCondition_eq_none (h : ¬ EndsInCopy text) :
    Call.copiedCondition eccNum (Call.condCat (some '9') text) = none := by
  obtain ⟨hlong, hcomma⟩ := not_or.mp h
  rw [Call.condCat, if_neg hlong, ← List.map_singleton, ← List.map_append,
    copiedCondition_unterminated, if_neg]
  rw [secondToken_concat (by decide)]
  split
  · exact List.not_mem_nil
  · rw [List.mem_append, List.mem_singleton]
    exact not_or.mpr ⟨hcomma, by decide⟩

end Copy

end Ecc

end Telephony
