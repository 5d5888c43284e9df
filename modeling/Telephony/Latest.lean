import Telephony.Machine

/-!
# The latest output about something

A machine that keeps what it has said last: whenever it emits something about a subject, its state
agrees with that, and as long as it emits nothing about it, its state stays in agreement. Then at
the end of every run the state agrees with the latest output about the subject.

## Main definitions

* `Machine.IsLatest` — an output about the subject that no other one follows

## Main results

* `Machine.isLatest_append_iff` — where the latest of two lists of outputs is
* `Machine.run_history_of_mem` — an invariant of the events of a run
* `Machine.IsLatest.of_run` — the state agrees with the latest output
* `Machine.kept_of_silent` — a run that says nothing about the subject leaves it as it is
-/

namespace Machine

variable {σ ε ω : Type*} {about : ω → Prop} {out out' : List ω} {o : ω}

/-- The output is about the subject, and no output behind it is. -/
def IsLatest (about : ω → Prop) (out : List ω) (o : ω) : Prop :=
  about o ∧ ∃ past rest, out = past ++ o :: rest ∧ ∀ o' ∈ rest, ¬ about o'

theorem IsLatest.mem (h : IsLatest about out o) : o ∈ out := by
  obtain ⟨-, past, rest, rfl, -⟩ := h
  exact List.mem_append_right past List.mem_cons_self

theorem not_isLatest_of_forall_not (h : ∀ o' ∈ out, ¬ about o') : ¬ IsLatest about out o :=
  fun hlatest => h o hlatest.mem hlatest.1

/-- The latest output is in the second list, or in the first one if the second has none. -/
theorem isLatest_append_iff :
    IsLatest about (out ++ out') o ↔
      IsLatest about out' o ∨ IsLatest about out o ∧ ∀ o' ∈ out', ¬ about o' := by
  constructor
  -- the output stands in the second list, or in the first one
  · rintro ⟨habout, past, rest, heq, hrest⟩
    rcases List.append_eq_append_iff.mp heq with ⟨mid, rfl, rfl⟩ | ⟨mid, hout, hmid⟩
    · exact .inl ⟨habout, mid, rest, rfl, hrest⟩
    · cases mid with
      | nil => exact .inl ⟨habout, [], rest, hmid.symm, hrest⟩
      | cons o₁ mid =>
        obtain ⟨rfl, rfl⟩ := List.cons.inj hmid
        refine .inr ⟨⟨habout, past, mid, hout, fun o' ho' => hrest o' ?_⟩,
          fun o' ho' => hrest o' ?_⟩
        · exact List.mem_append_left out' ho'
        · exact List.mem_append_right mid ho'
  · rintro (⟨habout, past, rest, rfl, hrest⟩ | ⟨⟨habout, past, rest, rfl, hrest⟩, hout'⟩)
    · exact ⟨habout, out ++ past, rest, (List.append_assoc ..).symm, hrest⟩
    · refine ⟨habout, past, rest ++ out', by simp, fun o' ho' => ?_⟩
      rcases List.mem_append.mp ho' with hfst | hsnd
      · exact hrest o' hfst
      · exact hout' o' hsnd

variable {step : Step σ ε ω} {Inv : σ → Prop} {agrees : σ → ω → Prop}

/-- An invariant on the state together with everything emitted so far, which the steps of the events
of a run preserve, holds at its end. -/
theorem run_history_of_mem {s : σ} {es : List ε} (Inv : σ → List ω → Prop)
    (preserves : ∀ s past, ∀ e ∈ es, ∀ s' out, Inv s past → step s e = some (s', out) →
      Inv s' (past ++ out))
    {past : List ω} {r : σ × List ω} (init : Inv s past) (h : run step s es = some r) :
    Inv r.1 (past ++ r.2) := by
  -- what has been emitted so far grows along the run
  induction es generalizing s past r with
  | nil =>
    obtain rfl := Option.some_inj.mp h
    simpa using init
  | cons e es ih =>
    obtain ⟨s₁, out₁, out₂, hstep, hrun, hout⟩ := run_cons_eq_some_iff.mp h
    have hhead := preserves s past e List.mem_cons_self s₁ out₁ init hstep
    have hfinal := ih (fun s past e he => preserves s past e (List.mem_cons_of_mem _ he)) hhead hrun
    simpa [hout, List.append_assoc] using hfinal

/-- An invariant that the steps of the events of a run preserve holds at its end. -/
theorem invariant_of_run (Inv : σ → Prop) {s : σ} {es : List ε} {r : σ × List ω}
    (preserves : ∀ s, ∀ e ∈ es, ∀ s' out, Inv s → step s e = some (s', out) → Inv s')
    (hinit : Inv s) (hrun : run step s es = some r) : Inv r.1 := by
  induction es generalizing s r with
  | nil =>
    obtain rfl := Option.some_inj.mp hrun
    exact hinit
  | cons e es ih =>
    obtain ⟨s₁, out₁, out₂, hstep, hrest, -⟩ := run_cons_eq_some_iff.mp hrun
    have hhead := preserves s e List.mem_cons_self s₁ out₁ hinit hstep
    have hfinal := ih (fun s e he => preserves s e (List.mem_cons_of_mem _ he)) hhead hrest
    exact hfinal

/-- Every step either says something about the subject, all of which the state then agrees with, or
says nothing about it and stays in agreement. -/
def KeepsLatest (step : Step σ ε ω) (Inv : σ → Prop) (about : ω → Prop) (agrees : σ → ω → Prop) :
    Prop :=
  ∀ s e s' out, Inv s → step s e = some (s', out) → Inv s' ∧
    (((∃ o ∈ out, about o) ∧ ∀ o ∈ out, about o → agrees s' o) ∨
      ((∀ o ∈ out, ¬ about o) ∧ ∀ o, about o → agrees s o → agrees s' o))

/-- At the end of a run of such steps the state agrees with the latest output. -/
theorem IsLatest.of_run_of_mem {s : σ} {es : List ε} {r : σ × List ω}
    (hstep : ∀ s, ∀ e ∈ es, ∀ s' out, Inv s → step s e = some (s', out) → Inv s' ∧
      (((∃ o ∈ out, about o) ∧ ∀ o ∈ out, about o → agrees s' o) ∨
        ((∀ o ∈ out, ¬ about o) ∧ ∀ o, about o → agrees s o → agrees s' o)))
    (hinit : Inv s) (hrun : run step s es = some r) (h : IsLatest about r.2 o) :
    agrees r.1 o := by
  -- the invariant says so for the outputs so far
  suffices hfinal : Inv r.1 ∧ ∀ o, IsLatest about ([] ++ r.2) o → agrees r.1 o from hfinal.2 o h
  refine run_history_of_mem (fun s past => Inv s ∧ ∀ o, IsLatest about past o → agrees s o) ?_
    ⟨hinit, fun o hnil => absurd hnil.mem List.not_mem_nil⟩ hrun
  rintro s past e he s' out ⟨hinv, hpast⟩ hs
  obtain ⟨hinv', ⟨⟨o₁, ho₁, habout⟩, hagrees⟩ | ⟨hquiet, hkept⟩⟩ := hstep s e he s' out hinv hs
  -- what the step says comes behind everything said before
  · refine ⟨hinv', fun o hlatest => ?_⟩
    rcases isLatest_append_iff.mp hlatest with hout | ⟨-, hnone⟩
    · exact hagrees o hout.mem hout.1
    · exact absurd habout (hnone o₁ ho₁)
  · refine ⟨hinv', fun o hlatest => ?_⟩
    rcases isLatest_append_iff.mp hlatest with hout | ⟨hbefore, -⟩
    · exact absurd hout (not_isLatest_of_forall_not hquiet)
    · exact hkept o hbefore.1 (hpast o hbefore)

/-- At the end of a run the state agrees with the latest output. -/
theorem IsLatest.of_run (hstep : KeepsLatest step Inv about agrees) {s : σ} {es : List ε}
    {r : σ × List ω} (hinit : Inv s) (hrun : run step s es = some r)
    (h : IsLatest about r.2 o) : agrees r.1 o :=
  IsLatest.of_run_of_mem (fun s e _ s' out => hstep s e s' out) hinit hrun h

/-- What only the steps change that say something about the subject stays as it is in a run that
says nothing about it. -/
theorem kept_of_silent (Inv P : σ → Prop) {s : σ} {es : List ε} {r : σ × List ω}
    (hstep : ∀ s, ∀ e ∈ es, ∀ s' out, Inv s → step s e = some (s', out) →
      Inv s' ∧ ((∀ o ∈ out, ¬ about o) → P s → P s'))
    (hinit : Inv s) (hs : P s) (hrun : run step s es = some r) (hsilent : ∀ o ∈ r.2, ¬ about o) :
    P r.1 := by
  suffices hfinal : Inv r.1 ∧ ((∀ o ∈ [] ++ r.2, ¬ about o) → P r.1) from hfinal.2 hsilent
  refine run_history_of_mem (fun s past => Inv s ∧ ((∀ o ∈ past, ¬ about o) → P s)) ?_
    ⟨hinit, fun _ => hs⟩ hrun
  rintro s past e he s' out ⟨hinv, hpast⟩ hs
  obtain ⟨hinv', hkept⟩ := hstep s e he s' out hinv hs
  refine ⟨hinv', fun hquiet => ?_⟩
  -- neither the outputs so far nor those of the step are about the subject
  rw [List.forall_mem_append] at hquiet
  exact hkept hquiet.2 (hpast hquiet.1)

end Machine
