import Mathlib.Data.List.Basic
import Mathlib.Data.Option.Basic

/-!
# Partial machines and their runs

A machine consumes events one at a time, and each step yields a successor state together
with the outputs it emits. A step may also be undefined: this is how a step of a program
whose behaviour the language does not fix (a read through a released pointer, say) enters
the model, and no run continues past it.

The module knows nothing about what the machine does. It supplies the runs, the list of
steps a run enters, and the induction principles that lift a fact about one step to a fact
about every run.

## Main definitions

* `Machine.Step` — a deterministic, possibly undefined step with outputs
* `Machine.run` — the final state and all outputs of an event sequence
* `Machine.visits` — the steps an event sequence enters, the undefined one included
* `Machine.broadcast` — machines that all get every event

## Main results

* `Machine.forall_visits` — an invariant holds wherever a step is entered
* `Machine.forall_visits_iff` — facts equivalent at one step are equivalent along a run
* `Machine.forall_visits_iff_spentOnce` — a property that holds of every step as long as a
  resource lasts holds along a run exactly if nothing uses the resource once it is spent
* `Machine.exists_run` — a run whose steps are all defined comes to its end
* `Machine.run_iff` — a property of the final state, read off the steps
* `Machine.run_history` — invariants that relate the state to everything emitted so far
* `Machine.run_simulation` — a step-wise simulation relates whole runs
* `Machine.run_of_good`, `Machine.good_of_length_run` — a machine that owes outputs for every event,
  and emits no fewer, emits those exactly if every step is good
* `Machine.run_broadcast`, `Machine.good_of_length_run_broadcast` — machines that owe outputs for
  every event emit all of them exactly if every step is good
-/

namespace Machine

variable {σ τ ε ω α : Type*}

/-- A deterministic step: the successor state and the emitted outputs, or `none` where the
behaviour is undefined. -/
abbrev Step (σ ε ω : Type*) := σ → ε → Option (σ × List ω)

/-- Consume the events from left to right and collect the outputs. -/
def run (step : Step σ ε ω) : σ → List ε → Option (σ × List ω)
  | s, [] => some (s, [])
  | s, e :: es =>
    (step s e).bind fun r => (run step r.1 es).map fun q => (q.1, r.2 ++ q.2)

/-- The steps entered by a run: each event with the state it meets. An undefined step is the
last one listed. -/
def visits (step : Step σ ε ω) : σ → List ε → List (σ × ε)
  | _, [] => []
  | s, e :: es => (s, e) :: (step s e).elim [] fun r => visits step r.1 es

variable {step : Step σ ε ω} {s s' : σ} {e : ε} {es : List ε} {out : List ω}

theorem run_cons_eq_some_iff {r : σ × List ω} :
    run step s (e :: es) = some r ↔
      ∃ s₁ out₁ out₂, step s e = some (s₁, out₁) ∧ run step s₁ es = some (r.1, out₂) ∧
        r.2 = out₁ ++ out₂ := by
  obtain ⟨s₂, out⟩ := r
  simp only [run, Option.bind_eq_some_iff, Option.map_eq_some_iff, Prod.mk.injEq, Prod.exists]
  constructor
  · rintro ⟨s₁, out₁, hstep, s₃, out₂, hrun, rfl, rfl⟩
    exact ⟨s₁, out₁, out₂, hstep, hrun, rfl⟩
  · rintro ⟨s₁, out₁, out₂, hstep, hrun, rfl⟩
    exact ⟨s₁, out₁, hstep, s₂, out₂, hrun, rfl, rfl⟩

@[simp] theorem visits_nil : visits step s [] = [] := rfl

theorem visits_cons_of_some (h : step s e = some (s', out)) :
    visits step s (e :: es) = (s, e) :: visits step s' es := by
  simp [visits, h]

theorem visits_cons_of_none (h : step s e = none) :
    visits step s (e :: es) = [(s, e)] := by
  simp [visits, h]

theorem mem_visits_cons {v : σ × ε} :
    v ∈ visits step s (e :: es) ↔
      v = (s, e) ∨ ∃ s₁ out₁, step s e = some (s₁, out₁) ∧ v ∈ visits step s₁ es := by
  cases h : step s e with
  | none => simp [visits_cons_of_none h]
  | some r =>
    obtain ⟨s₁, out₁⟩ := r
    simp [visits_cons_of_some h]

/-- An invariant that every defined step preserves holds wherever a step is entered. -/
theorem forall_visits {Inv : σ → Prop}
    (preserves : ∀ s e s' out, Inv s → step s e = some (s', out) → Inv s')
    (init : Inv s) : ∀ v ∈ visits step s es, Inv v.1 := by
  induction es generalizing s with
  | nil => simp
  | cons e es ih =>
    intro v hv
    rcases mem_visits_cons.mp hv with rfl | ⟨s₁, out₁, hstep, hv⟩
    · exact init
    · exact ih (preserves s e s₁ out₁ init hstep) v hv

/-- A run whose steps are all defined comes to its end. -/
theorem exists_run (h : ∀ v ∈ visits step s es, (step v.1 v.2).isSome = true) :
    ∃ r, run step s es = some r := by
  induction es generalizing s with
  | nil => exact ⟨_, rfl⟩
  | cons e es ih =>
    have hhead := h (s, e) (mem_visits_cons.mpr (.inl rfl))
    obtain ⟨⟨s', out⟩, hstep⟩ := Option.isSome_iff_exists.mp hhead
    obtain ⟨r, hrun⟩ := ih fun v hv => h v (mem_visits_cons.mpr (.inr ⟨s', out, hstep, hv⟩))
    exact ⟨(r.1, out ++ r.2), run_cons_eq_some_iff.mpr ⟨s', out, r.2, hstep, hrun, rfl⟩⟩

/-- If every defined step keeps a property of the state exactly if something is true of the
step, the property holds at the end of a run exactly if it is true of all steps. -/
theorem run_iff {Good : σ → Prop} {P : σ × ε → Prop}
    (agree : ∀ s e s' out, step s e = some (s', out) → (Good s' ↔ Good s ∧ P (s, e)))
    {r : σ × List ω} (h : run step s es = some r) :
    Good r.1 ↔ Good s ∧ ∀ v ∈ visits step s es, P v := by
  induction es generalizing s r with
  | nil =>
    obtain rfl := Option.some_inj.mp h
    simp
  | cons e es ih =>
    obtain ⟨s₁, out₁, out₂, hstep, hrun, -⟩ := run_cons_eq_some_iff.mp h
    rw [visits_cons_of_some hstep, List.forall_mem_cons, ih hrun, agree s e s₁ out₁ hstep,
      and_assoc]

/-- Two properties of a single step that agree under an invariant agree along every run, if
the steps that have them keep the invariant. -/
theorem forall_visits_iff (Inv : σ → Prop) {P Q : σ × ε → Prop}
    (preserves : ∀ s e s' out, Inv s → P (s, e) → step s e = some (s', out) → Inv s')
    (agree : ∀ s e, Inv s → (P (s, e) ↔ Q (s, e))) (init : Inv s) :
    (∀ v ∈ visits step s es, P v) ↔ ∀ v ∈ visits step s es, Q v := by
  induction es generalizing s with
  | nil => simp
  | cons e es ih =>
    cases hstep : step s e with
    | none => simp [visits_cons_of_none hstep, agree s e init]
    | some r =>
      obtain ⟨s', out⟩ := r
      simp only [visits_cons_of_some hstep, List.forall_mem_cons, ← agree s e init]
      exact and_congr_right fun hP => ih (preserves s e s' out init hP hstep)

section Resource

variable (Live Dead : σ → Prop) {P Q Spends Uses : σ × ε → Prop}

/-- Once the resource is gone, the property says that nothing uses it. -/
theorem forall_visits_iff_of_dead
    (dead_step : ∀ s e s' out, Dead s → step s e = some (s', out) → Dead s')
    (dead : ∀ s e, Dead s → (P (s, e) ↔ ¬ Uses (s, e))) (h : Dead s) :
    (∀ v ∈ visits step s es, P v) ↔ ∀ v ∈ visits step s es, ¬ Uses v :=
  forall_visits_iff Dead (fun s e s' out hdead _ => dead_step s e s' out hdead) dead h

/-- A resource that some steps spend and some steps use. While it lasts, `P` is `Q`; once it
is gone, `P` is the absence of uses. Along a run `P` then says that `Q` holds throughout and
that no use follows a spending step. -/
theorem forall_visits_iff_spentOnce
    (live_step : ∀ s e s' out, Live s → step s e = some (s', out) → ¬ Spends (s, e) → Live s')
    (spend_step : ∀ s e s' out, Live s → step s e = some (s', out) → Spends (s, e) → Dead s')
    (dead_step : ∀ s e s' out, Dead s → step s e = some (s', out) → Dead s')
    (live : ∀ s e, Live s → (P (s, e) ↔ Q (s, e)))
    (dead : ∀ s e, Dead s → (P (s, e) ↔ ¬ Uses (s, e)))
    (unused : ∀ v, ¬ Uses v → Q v ∧ ¬ Spends v) (h : Live s) :
    (∀ v ∈ visits step s es, P v) ↔
      (visits step s es).Pairwise (fun u v => Spends u → ¬ Uses v) ∧
        ∀ v ∈ visits step s es, Q v := by
  induction es generalizing s with
  | nil => simp
  | cons e es ih =>
    cases hstep : step s e with
    | none => simp [visits_cons_of_none hstep, live s e h]
    | some r =>
      obtain ⟨s', out⟩ := r
      simp only [visits_cons_of_some hstep, List.forall_mem_cons, List.pairwise_cons,
        live s e h]
      by_cases hspends : Spends (s, e)
      · -- from here on the resource is gone, and quiet steps satisfy everything asked of them
        have hdead := spend_step s e s' out h hstep hspends
        rw [forall_visits_iff_of_dead Dead dead_step dead hdead]
        constructor
        · rintro ⟨hQ, hquiet⟩
          refine ⟨⟨fun v hv _ => hquiet v hv, ?_⟩, hQ, fun v hv => (unused v (hquiet v hv)).1⟩
          exact List.pairwise_of_forall_mem_list fun u hu v _ hspend =>
            absurd hspend (unused u (hquiet u hu)).2
        · rintro ⟨⟨hquiet, -⟩, hQ, -⟩
          exact ⟨hQ, fun v hv => hquiet v hv hspends⟩
      · rw [ih (live_step s e s' out h hstep hspends)]
        constructor
        · rintro ⟨hQ, hpair, hall⟩
          exact ⟨⟨fun v _ hs => absurd hs hspends, hpair⟩, hQ, hall⟩
        · rintro ⟨⟨-, hpair⟩, hQ, hall⟩
          exact ⟨hQ, hpair, hall⟩

end Resource

/-- An invariant on the state together with everything emitted so far holds at the end of a
run. -/
theorem run_history (Inv : σ → List ω → Prop)
    (preserves : ∀ s past e s' out, Inv s past → step s e = some (s', out) →
      Inv s' (past ++ out))
    {past : List ω} {r : σ × List ω} (init : Inv s past) (h : run step s es = some r) :
    Inv r.1 (past ++ r.2) := by
  induction es generalizing s past r with
  | nil =>
    obtain rfl := Option.some_inj.mp h
    simpa using init
  | cons e es ih =>
    obtain ⟨s₁, out₁, out₂, hstep, hrun, hout⟩ := run_cons_eq_some_iff.mp h
    have hfinal := ih (preserves s past e s₁ out₁ init hstep) hrun
    simpa [hout, List.append_assoc] using hfinal

/-- Every output of a run was emitted by one of the steps it entered. -/
theorem exists_visit_of_mem_run {r : σ × List ω} {o : ω} (h : run step s es = some r)
    (ho : o ∈ r.2) :
    ∃ v ∈ visits step s es, ∃ s' out, step v.1 v.2 = some (s', out) ∧ o ∈ out := by
  induction es generalizing s r with
  | nil =>
    obtain rfl := Option.some_inj.mp h
    simp at ho
  | cons e es ih =>
    obtain ⟨s₁, out₁, out₂, hstep, hrun, hout⟩ := run_cons_eq_some_iff.mp h
    rw [visits_cons_of_some hstep]
    rw [hout] at ho
    rcases List.mem_append.mp ho with hfst | hsnd
    · exact ⟨(s, e), by simp, s₁, out₁, hstep, hfst⟩
    · obtain ⟨v, hv, hemit⟩ := ih hrun hsnd
      exact ⟨v, List.mem_cons_of_mem _ hv, hemit⟩

/-- Step-wise simulation. `keep` selects the events the second machine also consumes, and
`view` the outputs they are compared on. Where the first machine runs, so does the second,
and both show the same outputs. -/
theorem run_simulation (step₂ : Step τ ε ω) (R : σ → τ → Prop) (good : σ × ε → Prop)
    (keep : ε → Bool) (view : List ω → List α)
    (view_append : ∀ a b, view (a ++ b) = view a ++ view b)
    (kept : ∀ s t e s' out, R s t → good (s, e) → keep e = true → step s e = some (s', out) →
      ∃ t' out', step₂ t e = some (t', out') ∧ R s' t' ∧ view out' = view out)
    (skipped : ∀ s t e s' out, R s t → good (s, e) → keep e = false →
      step s e = some (s', out) → R s' t ∧ view out = [])
    {t : τ} {r : σ × List ω} (hR : R s t) (hgood : ∀ v ∈ visits step s es, good v)
    (h : run step s es = some r) :
    ∃ t' out', run step₂ t (es.filter keep) = some (t', out') ∧ R r.1 t' ∧
      view out' = view r.2 := by
  have view_nil : view [] = [] := by simpa using view_append [] []
  induction es generalizing s t r with
  | nil =>
    obtain rfl := Option.some_inj.mp h
    exact ⟨t, [], rfl, hR, rfl⟩
  | cons e es ih =>
    obtain ⟨s₁, out₁, out₂, hstep, hrun, hout⟩ := run_cons_eq_some_iff.mp h
    rw [visits_cons_of_some hstep] at hgood
    have hhead := hgood (s, e) List.mem_cons_self
    have htail := fun v hv => hgood v (List.mem_cons_of_mem _ hv)
    cases hk : keep e with
    -- both machines take the step
    | true =>
      obtain ⟨t₁, o₁, ht, hR₁, hview⟩ := kept s t e s₁ out₁ hR hhead hk hstep
      obtain ⟨t', o₂, hrun₂, hR', hview₂⟩ := ih hR₁ htail hrun
      refine ⟨t', o₁ ++ o₂, ?_, hR', ?_⟩
      · rw [List.filter_cons_of_pos hk]
        exact run_cons_eq_some_iff.mpr ⟨t₁, o₁, o₂, ht, hrun₂, rfl⟩
      · rw [hout, view_append, view_append, hview, hview₂]
    -- only the first machine takes the step, and it shows nothing
    | false =>
      obtain ⟨hR₁, hview⟩ := skipped s t e s₁ out₁ hR hhead hk hstep
      obtain ⟨t', o₂, hrun₂, hR', hview₂⟩ := ih hR₁ htail hrun
      refine ⟨t', o₂, ?_, hR', ?_⟩
      · rw [List.filter_cons_of_neg (by simp [hk])]
        exact hrun₂
      · rw [hout, view_append, hview, hview₂, List.nil_append]

/-! ## A machine that owes its outputs -/

section Owed

variable {R : σ → Prop} {owed : ε → List ω} {Good : ε → Prop}

/-- If the machine emits what it owes in a good step, it does so in a good run. -/
theorem run_of_good (step_good : ∀ s e, R s → Good e → ∃ s', step s e = some (s', owed e) ∧ R s')
    (hR : R s) (hgood : ∀ e ∈ es, Good e) :
    ∃ s', run step s es = some (s', es.flatMap owed) := by
  induction es generalizing s with
  | nil => exact ⟨s, rfl⟩
  | cons e es ih =>
    rw [List.forall_mem_cons] at hgood
    obtain ⟨s₁, hstep, hR₁⟩ := step_good s e hR hgood.1
    obtain ⟨s', hrun⟩ := ih hR₁ hgood.2
    exact ⟨s', run_cons_eq_some_iff.mpr ⟨s₁, _, _, hstep, hrun, rfl⟩⟩

variable
  (step_ge : ∀ s e s' out, R s → step s e = some (s', out) →
    R s' ∧ (owed e).length ≤ out.length ∧ (out.length = (owed e).length → Good e))
include step_ge

theorem length_run_ge (hR : R s) {r : σ × List ω} (hrun : run step s es = some r) :
    (es.flatMap owed).length ≤ r.2.length ∧
      (r.2.length = (es.flatMap owed).length → ∀ e ∈ es, Good e) := by
  induction es generalizing s r with
  | nil =>
    obtain rfl := Option.some_inj.mp hrun
    simp
  | cons e es ih =>
    obtain ⟨s₁, out₁, out₂, hstep, hrest, hout⟩ := run_cons_eq_some_iff.mp hrun
    obtain ⟨hR₁, hge₁, hgood₁⟩ := step_ge s e s₁ out₁ hR hstep
    obtain ⟨hge, hgood⟩ := ih hR₁ hrest
    simp only [hout, List.flatMap_cons, List.length_append, List.forall_mem_cons]
    dsimp only at hge hgood
    -- an output too many at one step is never made up for at another
    exact ⟨by omega, fun h => ⟨hgood₁ (by omega), hgood (by omega)⟩⟩

/-- If the machine emits no fewer outputs than it owes, and only in good steps no more, then a run
with as many outputs as are owed has good steps only. -/
theorem good_of_length_run (hR : R s) {r : σ × List ω} (hrun : run step s es = some r)
    (hlength : r.2.length = (es.flatMap owed).length) : ∀ e ∈ es, Good e :=
  (length_run_ge step_ge hR hrun).2 hlength

end Owed

/-! ## Several machines -/

/-- All machines get the event, one after the other. -/
def broadcast (step : Step σ ε ω) : Step (List σ) ε ω
  | [], _ => some ([], [])
  | s :: ss, e =>
    (step s e).bind fun r => (broadcast step ss e).map fun q => (r.1 :: q.1, r.2 ++ q.2)

theorem broadcast_cons_eq_some_iff {ss : List σ} {r : List σ × List ω} :
    broadcast step (s :: ss) e = some r ↔
      ∃ s₁ ss₁ out₁ out₂, step s e = some (s₁, out₁) ∧ broadcast step ss e = some (ss₁, out₂) ∧
        r = (s₁ :: ss₁, out₁ ++ out₂) := by
  simp only [broadcast, Option.bind_eq_some_iff, Option.map_eq_some_iff, Prod.exists]
  constructor
  · rintro ⟨s₁, out₁, hstep, ss₁, out₂, hrest, rfl⟩
    exact ⟨s₁, ss₁, out₁, out₂, hstep, hrest, rfl⟩
  · rintro ⟨s₁, ss₁, out₁, out₂, hstep, hrest, rfl⟩
    exact ⟨s₁, out₁, hstep, ss₁, out₂, hrest, rfl⟩

section Broadcast

/-! A machine that has started as `s₀` owes certain outputs for each event, whatever it has been
through since then. -/

variable {R : σ → σ → Prop} {owed : σ → ε → List ω} {Good : σ → ε → Prop} {ss₀ ss : List σ}

section Good

variable
  (step_good : ∀ s₀ s e, R s₀ s → Good s₀ e → ∃ s', step s e = some (s', owed s₀ e) ∧ R s₀ s')
include step_good

theorem broadcast_of_good (hR : List.Forall₂ R ss₀ ss) (hgood : ∀ s₀ ∈ ss₀, Good s₀ e) :
    ∃ ss', broadcast step ss e = some (ss', ss₀.flatMap fun s₀ => owed s₀ e) ∧
      List.Forall₂ R ss₀ ss' := by
  induction hR with
  | nil => exact ⟨[], rfl, .nil⟩
  | cons hhead _ ih =>
    rw [List.forall_mem_cons] at hgood
    obtain ⟨s', hstep, hR'⟩ := step_good _ _ e hhead hgood.1
    obtain ⟨ss', hrest, hRs'⟩ := ih hgood.2
    exact ⟨s' :: ss', broadcast_cons_eq_some_iff.mpr ⟨s', ss', _, _, hstep, hrest, rfl⟩,
      .cons hR' hRs'⟩

/-- If every machine emits what it owes in a good step, all of them do in a good run. -/
theorem run_broadcast (hR : List.Forall₂ R ss₀ ss) (hgood : ∀ e ∈ es, ∀ s₀ ∈ ss₀, Good s₀ e) :
    ∃ ss', run (broadcast step) ss es =
      some (ss', es.flatMap fun e => ss₀.flatMap fun s₀ => owed s₀ e) := by
  induction es generalizing ss with
  | nil => exact ⟨ss, rfl⟩
  | cons e es ih =>
    rw [List.forall_mem_cons] at hgood
    obtain ⟨ss₁, hstep, hR₁⟩ := broadcast_of_good step_good hR hgood.1
    obtain ⟨ss', hrun⟩ := ih hR₁ hgood.2
    exact ⟨ss', run_cons_eq_some_iff.mpr ⟨ss₁, _, _, hstep, hrun, rfl⟩⟩

end Good

section Length

variable
  (step_le : ∀ s₀ s e s' out, R s₀ s → step s e = some (s', out) →
    R s₀ s' ∧ out.length ≤ (owed s₀ e).length ∧ (out.length = (owed s₀ e).length → Good s₀ e))
include step_le

theorem length_broadcast_le {ss' : List σ} (hR : List.Forall₂ R ss₀ ss)
    (hstep : broadcast step ss e = some (ss', out)) :
    List.Forall₂ R ss₀ ss' ∧ out.length ≤ (ss₀.flatMap fun s₀ => owed s₀ e).length ∧
      (out.length = (ss₀.flatMap fun s₀ => owed s₀ e).length → ∀ s₀ ∈ ss₀, Good s₀ e) := by
  induction hR generalizing ss' out with
  | nil =>
    obtain ⟨rfl, rfl⟩ := Prod.mk.inj (Option.some_inj.mp hstep)
    exact ⟨.nil, by simp, by simp⟩
  | cons hhead _ ih =>
    obtain ⟨s₁, ss₁, out₁, out₂, hfirst, hrest, heq⟩ := broadcast_cons_eq_some_iff.mp hstep
    obtain ⟨rfl, rfl⟩ := Prod.mk.inj heq
    obtain ⟨hR₁, hle₁, hgood₁⟩ := step_le _ _ e s₁ out₁ hhead hfirst
    obtain ⟨hRs, hle, hgood⟩ := ih hrest
    simp only [List.flatMap_cons, List.length_append, List.forall_mem_cons]
    exact ⟨.cons hR₁ hRs, by omega, fun h => ⟨hgood₁ (by omega), hgood (by omega)⟩⟩

theorem length_run_broadcast_le (hR : List.Forall₂ R ss₀ ss) {r : List σ × List ω}
    (hrun : run (broadcast step) ss es = some r) :
    r.2.length ≤ (es.flatMap fun e => ss₀.flatMap fun s₀ => owed s₀ e).length ∧
      (r.2.length = (es.flatMap fun e => ss₀.flatMap fun s₀ => owed s₀ e).length →
        ∀ e ∈ es, ∀ s₀ ∈ ss₀, Good s₀ e) := by
  induction es generalizing ss r with
  | nil =>
    obtain rfl := Option.some_inj.mp hrun
    simp
  | cons e es ih =>
    obtain ⟨ss₁, out₁, out₂, hstep, hrest, hout⟩ := run_cons_eq_some_iff.mp hrun
    obtain ⟨hR₁, hle₁, hgood₁⟩ := length_broadcast_le step_le hR hstep
    obtain ⟨hle, hgood⟩ := ih hR₁ hrest
    simp only [hout, List.flatMap_cons, List.length_append, List.forall_mem_cons]
    dsimp only at hle hgood
    -- if all outputs are there, no event has got fewer than it is owed
    exact ⟨by omega, fun h => ⟨hgood₁ (by omega), hgood (by omega)⟩⟩

/-- If a machine that emits as many outputs as it owes has made a good step, a run with as many
outputs as are owed has good steps only. -/
theorem good_of_length_run_broadcast (hR : List.Forall₂ R ss₀ ss) {r : List σ × List ω}
    (hrun : run (broadcast step) ss es = some r)
    (hlength : r.2.length = (es.flatMap fun e => ss₀.flatMap fun s₀ => owed s₀ e).length) :
    ∀ e ∈ es, ∀ s₀ ∈ ss₀, Good s₀ e :=
  (length_run_broadcast_le step_le hR hrun).2 hlength

end Length

end Broadcast

end Machine
