import Telephony.Context
import Telephony.Strings

/-!
# What is typed into the tool

The tool reads a line, takes its first word for a command, and gives the command what stands behind
it. It looks for words in the buffer of the line, and cuts white space off the end of the line by
going backwards through the buffer from there.

## Main definitions

* `Tool.readInput` — what the tool makes of a line
* `Tool.splitInput` — the arguments of a command, in the places of an array
* `Tool.TypedLine` — a line of words, with spaces between them

## Main results

* `Tool.splitTokens_eq` — what the places hold
* `Tool.readInput_text` — what the tool makes of a line of words
* `Tool.strtok_argText` — the words of the argument are those that have been typed
-/

namespace Telephony.Tool

/-! ## Arguments -/

/-- `MAX_INPUT_ARGS_LEN`. -/
def maxInputArgsLen : ℕ := 128

/-- `is_valid_dtmf_char`. -/
def isValidDtmfChar (c : Char) : Bool :=
  ('0' ≤ c ∧ c ≤ '9') ∨ c = '*' ∨ c = '#'

/-- `is_valid_slot_id_str`, for a text. -/
def isValidSlotIdStr (cfg : Config) (slotIdStr : String) : Bool :=
  match slotIdStr.toList with
  | [c] => c.utf8Size = 1 ∧ 48 ≤ c.toNat ∧ c.toNat < 48 + cfg.modemActiveCount
  | _ => false

/-- The loop of `split_input`, over the tokens. It stops at a token that has no room, and counts
those that it has no place for. -/
def splitTokens : List String → ℕ → List String → ℕ × List String
  | [], n, dst => (n, dst)
  | result :: tokens, n, dst =>
    if result.utf8ByteSize < maxInputArgsLen then
      splitTokens tokens (n + 1) (if n < dst.length then dst.set n result else dst)
    else (n, dst)

/-- `split_input`, with its places as they are found. -/
def splitInput (dst : List String) (str : String) : ℕ × List String :=
  splitTokens (strtok str ' ') 0 dst

/-- The tokens that there is room for. -/
def roomy (tokens : List String) : List String :=
  tokens.takeWhile fun result => result.utf8ByteSize < maxInputArgsLen

theorem splitTokens_eq {tokens dst : List String} {n : ℕ} :
    splitTokens tokens n dst =
      (n + (roomy tokens).length, dst.take n ++ (roomy tokens).take (dst.length - n) ++
        dst.drop (n + (roomy tokens).length)) := by
  induction tokens generalizing n dst with
  | nil => simp [splitTokens, roomy]
  | cons result tokens ih =>
    by_cases hroom : result.utf8ByteSize < maxInputArgsLen
    · have hroomy : roomy (result :: tokens) = result :: roomy tokens :=
        List.takeWhile_cons_of_pos (by simpa using hroom)
      have hcount : n + 1 + (roomy tokens).length = n + ((roomy tokens).length + 1) := by omega
      rw [splitTokens, if_pos hroom, ih, hroomy, List.length_cons, hcount]
      by_cases hplace : n < dst.length
      · have hrest : dst.length - n = dst.length - (n + 1) + 1 := by omega
        have hlength : n < (dst.set n result).length := by rwa [List.length_set]
        have htake : (dst.set n result).take (n + 1) = dst.take n ++ [result] := by
          rw [List.take_succ_eq_append_getElem hlength, List.take_set_of_le (Nat.le_refl n),
            List.getElem_set_self]
        rw [if_pos hplace, htake, List.length_set, hrest, List.take_succ_cons,
          List.drop_set_of_lt (by omega)]
        simp
      · have hfull : dst.length - n = 0 := by omega
        have hfull' : dst.length - (n + 1) = 0 := by omega
        have htake : dst.take n = dst := List.take_of_length_le (by omega)
        have htake' : dst.take (n + 1) = dst := List.take_of_length_le (by omega)
        rw [if_neg hplace, hfull, hfull', htake, htake']
        rfl
    · have hroomy : roomy (result :: tokens) = [] :=
        List.takeWhile_cons_of_neg (by simpa using hroom)
      rw [splitTokens, if_neg hroom, hroomy]
      simp

/-! ## Lines -/

/-- What the tool makes of a line. -/
inductive Reading
  | ignored
  | quit
  | command (cmd arg : String)
  deriving DecidableEq, Repr

/-- The characters that the first word of a line is looked for between. -/
def isSeparator (c : Char) : Bool := c = ' ' ∨ c = '\n'

/-- The end of the round, with the command in the buffer, what is in front of it, and what is
behind it. The separator behind the command has become a terminator, which `isspace` does not
accept. The white space at the end of the buffer is counted backwards, and whatever is in front of
the buffer must not be looked at. -/
def readCommand (lead cmd behind : List Char) : Option Reading :=
  let skipped := behind.tail.takeWhile (· = ' ')
  let arg := behind.tail.dropWhile (· = ' ')
  let front := lead ++ cmd ++ if behind = [] then [] else Char.ofNat 0 :: skipped
  let spaces := ((front ++ arg).reverse.takeWhile isSpace).length
  if spaces = (front ++ arg).length then none
  else if cmd = ['q'] then some .quit
  else if spaces ≤ arg.length then
    some (.command (String.ofList cmd) (String.ofList (arg.take (arg.length - spaces))))
  else if behind = [] then
    -- the terminator is written into the command
    some (.command (String.ofList (cmd.take (cmd.length - spaces))) "")
  else some (.command (String.ofList cmd) (String.ofList arg))

/-- A round of the loop of `read_stdin`, for the characters that are in the buffer. A line for the
shell is not for the tool. -/
def readInput (buffer : List Char) : Option Reading :=
  match buffer.getLast? with
  | none => none
  | some last =>
    if buffer.head? = some '!' then some .ignored
    else
      let line := if last = '\n' then buffer.dropLast else buffer
      let rest := line.dropWhile isSeparator
      if rest = [] then some .ignored
      else
        readCommand (line.takeWhile isSeparator) (rest.takeWhile fun c => !isSeparator c)
          (rest.dropWhile fun c => !isSeparator c)

/-! ## Lines of words -/

/-- A word: it is not empty, and has no white space. -/
def Word : Type := { s : String // s ≠ "" ∧ ∀ c ∈ s.toList, isSpace c = false }

/-- A text that has been checked to be a word. -/
def Word.ofString (s : String) (h : s ≠ "" ∧ (s.toList.all fun c => isSpace c = false) = true) :
    Word :=
  ⟨s, h.1, fun c hc => of_decide_eq_true (List.all_eq_true.mp h.2 c hc)⟩

/-- A line of words: how many spaces are in front of the command, how many more than one are in
front of each argument, and how many are at the end. -/
structure TypedLine where
  lead : ℕ
  cmd : Word
  args : List (ℕ × Word)
  trail : ℕ
  notShell : cmd.1.toList.head? ≠ some '!'

def spaces (n : ℕ) : List Char := List.replicate n ' '

/-- Arguments, with the spaces in front of them. -/
def gapped (args : List (ℕ × Word)) : List Char :=
  args.flatMap fun a => ' ' :: spaces a.1 ++ a.2.1.toList

namespace TypedLine

variable (l : TypedLine)

/-- What is in the buffer once the line has been read. -/
def text : List Char :=
  spaces l.lead ++ l.cmd.1.toList ++ gapped l.args ++ spaces l.trail ++ ['\n']

/-- The words that a command can take. -/
def words : List String := roomy (l.args.map fun a => a.2.1)

/-- What stands behind the command, without the spaces around it. -/
def argText : String := String.ofList ((gapped l.args).dropWhile (· = ' '))

end TypedLine

/-! ### Words -/

section Words

variable {w : Word} {args : List (ℕ × Word)}

theorem Word.toList_ne_nil (w : Word) : w.1.toList ≠ [] := fun hnil =>
  w.2.1 (String.toList_inj.mp hnil)

theorem Word.not_mem (w : Word) {c : Char} (h : isSpace c = true) : c ∉ w.1.toList := fun hc => by
  rw [w.2.2 c hc] at h
  contradiction

/-- The text ends with a character that is no white space. -/
def EndsPlain (cs : List Char) : Prop := ∃ c ∈ cs.getLast?, isSpace c = false

theorem EndsPlain.append (cs : List Char) {ds : List Char} (h : EndsPlain ds) :
    EndsPlain (cs ++ ds) := by
  obtain ⟨c, hc, hplain⟩ := h
  refine ⟨c, ?_, hplain⟩
  rw [Option.mem_def] at hc ⊢
  rw [List.getLast?_append, hc, Option.some_or]

theorem Word.endsPlain (w : Word) : EndsPlain w.1.toList := by
  have hlast := List.getLast?_eq_some_getLast w.toList_ne_nil
  exact ⟨_, hlast, w.2.2 _ (List.getLast_mem _)⟩

theorem endsPlain_append_gapped {cs : List Char} (h : EndsPlain cs) :
    EndsPlain (cs ++ gapped args) := by
  induction args generalizing cs with
  | nil => simpa [gapped] using h
  | cons a args ih =>
    have hstep : cs ++ gapped (a :: args) =
        cs ++ (' ' :: spaces a.1 ++ a.2.1.toList) ++ gapped args := by
      simp [gapped]
    rw [hstep]
    exact ih ((a.2.endsPlain.append _).append _)

/-- White space is counted backwards up to a character that is none. -/
theorem takeWhile_reverse_append {cs : List Char} (h : EndsPlain cs) (n : ℕ) :
    (cs ++ spaces n).reverse.takeWhile isSpace = spaces n := by
  obtain ⟨c, hc, hplain⟩ := h
  have hall : ∀ d ∈ spaces n, isSpace d = true := by
    intro d hd
    rw [List.eq_of_mem_replicate hd]
    rfl
  have hlast : cs.reverse = c :: cs.dropLast.reverse := by
    conv_lhs => rw [← List.dropLast_append_getLast? c hc]
    rw [List.reverse_append]
    rfl
  rw [List.reverse_append, spaces, List.reverse_replicate, ← spaces, hlast,
    List.takeWhile_append_of_pos hall, List.takeWhile_cons_of_neg (by simp [hplain]),
    List.append_nil]

theorem isSpace_of_isSeparator {c : Char} (h : isSpace c = false) : isSeparator c = false := by
  simp only [isSpace, decide_eq_false_iff_not, not_or] at h
  simp [isSeparator, h.1, h.2.2.1]

theorem mem_spaces {c : Char} {n : ℕ} (h : c ∈ spaces n) : c = ' ' := List.eq_of_mem_replicate h

theorem takeWhile_spaces_append {p : Char → Bool} (hp : p ' ' = true) {cs : List Char}
    (hcs : ∀ c ∈ cs.head?, p c = false) (n : ℕ) :
    (spaces n ++ cs).takeWhile p = spaces n ∧ (spaces n ++ cs).dropWhile p = cs := by
  have hall : ∀ c ∈ spaces n, p c = true := fun c hc => by rw [mem_spaces hc, hp]
  obtain ⟨htake, hdrop⟩ := takeWhile_of_head? hcs
  rw [List.takeWhile_append_of_pos hall, List.dropWhile_append_of_pos hall, htake, hdrop,
    List.append_nil]
  exact ⟨rfl, rfl⟩

/-- What the tool makes of a command and what stands behind it. -/
def reading (cmd arg : List Char) : Reading :=
  if cmd = ['q'] then .quit else .command (String.ofList cmd) (String.ofList arg)

variable {lead cmd arg : List Char}

theorem readCommand_nil (h : EndsPlain (lead ++ cmd)) :
    readCommand lead cmd [] = some (reading cmd []) := by
  have hspaces : (lead ++ cmd).reverse.takeWhile isSpace = [] := by
    have htake := takeWhile_reverse_append h 0
    rwa [spaces, List.replicate_zero, List.append_nil] at htake
  have hne : lead ++ cmd ≠ [] := by
    rintro hnil
    obtain ⟨c, hc, -⟩ := h
    rw [hnil] at hc
    contradiction
  have hlength : (0 : ℕ) ≠ (lead ++ cmd).length := (List.length_pos_of_ne_nil hne).ne
  simp only [readCommand, reading, List.tail_nil, List.takeWhile_nil, List.dropWhile_nil,
    reduceIte, List.append_nil, hspaces, List.length_nil, Nat.le_refl, List.take_nil]
  rw [if_neg hlength]
  split_ifs <;> rfl

theorem readCommand_spaces (k : ℕ) :
    readCommand lead cmd (' ' :: spaces k) = some (reading cmd []) := by
  have hnil : ∀ c ∈ ([] : List Char).head?, decide (c = ' ') = false := nofun
  obtain ⟨htake, hdrop⟩ := takeWhile_spaces_append (p := fun c => c = ' ') rfl hnil k
  rw [List.append_nil] at htake hdrop
  have hends : EndsPlain (lead ++ cmd ++ [Char.ofNat 0]) := ⟨Char.ofNat 0, by simp, rfl⟩
  have hspaces := takeWhile_reverse_append hends k
  rw [List.append_assoc, List.singleton_append] at hspaces
  have hlength : (spaces k).length = k := List.length_replicate
  have hne : k ≠ (lead ++ cmd ++ Char.ofNat 0 :: spaces k).length := by
    rw [List.length_append, List.length_cons, hlength]
    omega
  have hbehind : ' ' :: spaces k ≠ [] := nofun
  simp only [readCommand, reading, List.tail_cons, htake, hdrop, if_neg hbehind, List.append_nil,
    hspaces, hlength, if_neg hne, List.take_nil]
  split_ifs <;> rfl

theorem readCommand_arg (h : EndsPlain arg) (hhead : ∀ c ∈ arg.head?, c ≠ ' ') (k n : ℕ) :
    readCommand lead cmd (' ' :: (spaces k ++ (arg ++ spaces n))) = some (reading cmd arg) := by
  have hne : arg ≠ [] := by
    rintro rfl
    obtain ⟨c, hc, -⟩ := h
    cases hc
  have hhead' : ∀ c ∈ (arg ++ spaces n).head?, decide (c = ' ') = false := by
    rw [List.head?_append_of_ne_nil _ hne]
    exact fun c hc => decide_eq_false (hhead c hc)
  obtain ⟨htake, hdrop⟩ := takeWhile_spaces_append (p := fun c => c = ' ') rfl hhead' k
  have hspaces := takeWhile_reverse_append
    (h.append (lead ++ cmd ++ Char.ofNat 0 :: spaces k)) n
  have hlength : (spaces n).length = n := List.length_replicate
  have hfront : n ≠ (lead ++ cmd ++ Char.ofNat 0 :: spaces k ++ arg ++ spaces n).length := by
    have hpos := List.length_pos_of_ne_nil hne
    rw [List.length_append, List.length_append, hlength]
    omega
  have hbehind : ' ' :: (spaces k ++ (arg ++ spaces n)) ≠ [] := nofun
  have hcount : (arg ++ spaces n).length - n = arg.length := by
    rw [List.length_append, hlength]
    omega
  have hle : n ≤ (arg ++ spaces n).length := by
    rw [List.length_append, hlength]
    omega
  have hassoc : lead ++ cmd ++ Char.ofNat 0 :: spaces k ++ (arg ++ spaces n) =
      lead ++ cmd ++ Char.ofNat 0 :: spaces k ++ arg ++ spaces n := (List.append_assoc ..).symm
  simp only [readCommand, reading, List.tail_cons, htake, hdrop, if_neg hbehind, hassoc, hspaces,
    hlength, if_neg hfront, hcount, if_pos hle, List.take_left]
  split_ifs <;> rfl

end Words

/-! ### What is made of a line -/

namespace TypedLine

variable {l : TypedLine}

theorem gapped_cons (a : ℕ × Word) (args : List (ℕ × Word)) :
    gapped (a :: args) = ' ' :: (spaces a.1 ++ (a.2.1.toList ++ gapped args)) := by
  simp [gapped]

theorem dropWhile_gapped_cons (a : ℕ × Word) (args : List (ℕ × Word)) :
    (gapped (a :: args)).dropWhile (· = ' ') = a.2.1.toList ++ gapped args := by
  have hhead : ∀ c ∈ (a.2.1.toList ++ gapped args).head?, decide (c = ' ') = false := by
    rw [List.head?_append_of_ne_nil _ a.2.toList_ne_nil]
    intro c hc
    rw [decide_eq_false_iff_not]
    rintro rfl
    exact a.2.not_mem rfl (List.mem_of_mem_head? hc)
  rw [gapped_cons, List.dropWhile_cons_of_pos (by simp)]
  exact (takeWhile_spaces_append (p := fun c => c = ' ') rfl hhead a.1).2

/-- What stands behind the command ends its word, and the argument is cut out of it. -/
theorem readCommand_behind :
    readCommand (spaces l.lead) l.cmd.1.toList (gapped l.args ++ spaces l.trail) =
      some (reading l.cmd.1.toList ((gapped l.args).dropWhile (· = ' '))) := by
  cases l.args with
  | nil =>
    cases l.trail with
    | zero => exact readCommand_nil (l.cmd.endsPlain.append _)
    | succ n => exact readCommand_spaces n
  | cons a args =>
    have hhead : ∀ c ∈ (a.2.1.toList ++ gapped args).head?, c ≠ ' ' := by
      rw [List.head?_append_of_ne_nil _ a.2.toList_ne_nil]
      rintro c hc rfl
      exact a.2.not_mem rfl (List.mem_of_mem_head? hc)
    rw [dropWhile_gapped_cons, gapped_cons, List.cons_append, List.append_assoc]
    exact readCommand_arg (endsPlain_append_gapped a.2.endsPlain) hhead a.1 l.trail

theorem head?_text : l.text.head? ≠ some '!' := by
  rw [text, List.append_assoc, List.append_assoc, List.append_assoc]
  cases l.lead with
  | zero =>
    rw [spaces, List.replicate_zero, List.nil_append,
      List.head?_append_of_ne_nil _ l.cmd.toList_ne_nil]
    exact l.notShell
  | succ n =>
    rw [spaces, List.replicate_succ]
    simp

/-- The command and the argument of a line are what has been typed, without the spaces around
them. -/
theorem readInput_text :
    readInput l.text =
      some (if l.cmd.1 = "q" then .quit else .command l.cmd.1 l.argText) := by
  have hplain : ∀ c ∈ l.cmd.1.toList, isSeparator c = false := fun c hc =>
    isSpace_of_isSeparator (l.cmd.2.2 c hc)
  have hbehind : ∀ c ∈ (gapped l.args ++ spaces l.trail).head?, isSeparator c = true := by
    cases l.args with
    | nil => cases l.trail <;> simp [gapped, spaces, List.replicate_succ, isSeparator]
    | cons a args => simp [gapped_cons, isSeparator]
  have hhead : ∀ c ∈ (l.cmd.1.toList ++ (gapped l.args ++ spaces l.trail)).head?,
      isSeparator c = false := by
    rw [List.head?_append_of_ne_nil _ l.cmd.toList_ne_nil]
    exact fun c hc => hplain c (List.mem_of_mem_head? hc)
  obtain ⟨hlead, hrest⟩ := takeWhile_spaces_append (p := isSeparator) rfl hhead l.lead
  have hlast : l.text.getLast? = some '\n' := by
    rw [text, List.getLast?_append, List.getLast?_singleton, Option.some_or]
  have hline : l.text.dropLast =
      spaces l.lead ++ (l.cmd.1.toList ++ (gapped l.args ++ spaces l.trail)) := by
    rw [text, List.dropLast_concat, List.append_assoc, List.append_assoc]
  have hne : l.cmd.1.toList ++ (gapped l.args ++ spaces l.trail) ≠ [] := by
    simp [l.cmd.toList_ne_nil]
  have hcmd : ∀ c ∈ l.cmd.1.toList, (!isSeparator c) = true := fun c hc => by
    rw [hplain c hc]
    rfl
  have htail := takeWhile_of_head? (p := fun c => !isSeparator c) fun c hc => by
    rw [hbehind c hc]
    rfl
  have hq : l.cmd.1.toList = ['q'] ↔ l.cmd.1 = "q" := by
    rw [← String.toList_inj]
    rfl
  simp only [readInput, hlast, if_neg head?_text, reduceIte, hline, hlead, hrest, if_neg hne,
    List.takeWhile_append_of_pos hcmd, List.dropWhile_append_of_pos hcmd, htail.1, htail.2,
    List.append_nil, readCommand_behind, reading, hq, String.ofList_toList, argText]

/-- The words of the argument are those that have been typed. -/
theorem strtok_argText : strtok l.argText ' ' = l.args.map fun a => a.2.1 := by
  rw [argText, strtok_dropWhile]
  induction l.args with
  | nil => rfl
  | cons a args ih =>
    have hnot : ' ' ∉ a.2.1.toList := a.2.not_mem rfl
    have hrest : ∀ c ∈ (gapped args).head?, c = ' ' := by
      cases args with
      | nil => exact nofun
      | cons b args =>
        rw [gapped_cons]
        simp
    rw [gapped_cons, ← List.singleton_append, ← List.append_assoc,
      strtok_append_of_forall (by simp [spaces]), strtok_ofList_append a.2.toList_ne_nil hnot hrest,
      ih, String.ofList_toList, List.map_cons]

end TypedLine

end Telephony.Tool
