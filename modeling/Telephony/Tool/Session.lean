import Telephony.Tool.Input

/-!
# Sessions of the tool

The tool reads one line after another, looks the command of the line up in its table, and calls its
function with the argument.

## Main definitions

* `Tool.telephonytoolExecute` — what comes of a command
* `Tool.readStdin` — what comes of the lines of a session

## Main results

* `Tool.readStdin_text` — a session of lines of words calls the functions of their commands, up to
  the end of the session
-/

namespace Telephony.Tool

section

variable {α : Type}

/-- The commands of the tool, with functions that may be undefined for an argument. -/
abbrev Commands (α : Type) : Type := List (String × Option (String → Option α))

/-- `telephonytool_execute`. To call a function that is not there is undefined, and an unknown
command does nothing. -/
def telephonytoolExecute : Commands α → String → String → Option (Option α)
  | [], _, _ => some none
  | (name, pfunc) :: cmds, cmd, arg =>
    if cmd = name then pfunc.bind fun f => (f arg).map some else telephonytoolExecute cmds cmd arg

/-- `read_stdin`: what the functions have returned that the lines have called. -/
def readStdin (cmds : Commands α) : List (List Char) → Option (List (Option α))
  | [] => some []
  | buffer :: buffers =>
    match readInput buffer with
    | none => none
    | some .ignored => readStdin cmds buffers
    | some .quit => some []
    | some (.command cmd arg) =>
      (telephonytoolExecute cmds cmd arg).bind fun result =>
        (readStdin cmds buffers).map fun results => result :: results

/-! ## Runs -/

variable {cmds : Commands α} {cmd arg : String}

theorem execute_append_of_not_mem {first : Commands α} (h : ∀ e ∈ first, e.1 ≠ cmd) :
    telephonytoolExecute (first ++ cmds) cmd arg = telephonytoolExecute cmds cmd arg := by
  induction first with
  | nil => rfl
  | cons e first ih =>
    obtain ⟨name, pfunc⟩ := e
    have hne : cmd ≠ name := (h _ List.mem_cons_self).symm
    rw [List.cons_append, telephonytoolExecute, if_neg hne]
    exact ih fun e he => h e (List.mem_cons_of_mem _ he)

/-- What all functions of a name return, its command returns. -/
theorem execute_append_of_forall {first : Commands α} {result : α → Prop}
    (hmem : ∃ e ∈ first, e.1 = cmd)
    (h : ∀ e ∈ first, e.1 = cmd → ∃ f, e.2 = some f ∧ ∃ r, f arg = some r ∧ result r) :
    ∃ r, telephonytoolExecute (first ++ cmds) cmd arg = some (some r) ∧ result r := by
  induction first with
  | nil => simp at hmem
  | cons e first ih =>
    obtain ⟨name, pfunc⟩ := e
    by_cases hname : cmd = name
    · obtain ⟨f, rfl, r, hr, hresult⟩ := h _ List.mem_cons_self hname.symm
      refine ⟨r, ?_, hresult⟩
      rw [List.cons_append, telephonytoolExecute, if_pos hname, Option.bind_some, hr]
      rfl
    · rw [List.cons_append, telephonytoolExecute, if_neg hname]
      refine ih ?_ fun e he => h e (List.mem_cons_of_mem _ he)
      obtain ⟨e, he, hcmd⟩ := hmem
      refine ⟨e, (List.mem_cons.mp he).resolve_left ?_, hcmd⟩
      rintro rfl
      exact hname hcmd.symm

/-- The lines in front of the one that ends the session. -/
def beforeQuit (ls : List TypedLine) : List TypedLine := ls.takeWhile fun l => l.cmd.1 ≠ "q"

/-- A session of lines of words calls the functions of their commands, with what stands behind the
command, up to the end of the session. -/
theorem readStdin_text {ls : List TypedLine} {results : TypedLine → Option α}
    (h : ∀ l ∈ beforeQuit ls,
      telephonytoolExecute cmds l.cmd.1 l.argText = some (results l)) :
    readStdin cmds (ls.map TypedLine.text) = some ((beforeQuit ls).map results) := by
  induction ls with
  | nil => rfl
  | cons l ls ih =>
    rw [List.map_cons, readStdin, TypedLine.readInput_text]
    by_cases hquit : l.cmd.1 = "q"
    · have hbefore : beforeQuit (l :: ls) = [] := List.takeWhile_cons_of_neg (by simp [hquit])
      rw [if_pos hquit, hbefore]
      rfl
    · have hbefore : beforeQuit (l :: ls) = l :: beforeQuit ls :=
        List.takeWhile_cons_of_pos (by simp [hquit])
      rw [hbefore] at h ⊢
      simp only [if_neg hquit, h l List.mem_cons_self, Option.bind_some,
        ih fun l hl => h l (List.mem_cons_of_mem _ hl), Option.map_some, List.map_cons]

end

end Telephony.Tool
