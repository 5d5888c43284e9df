import Telephony.Ledger

/-!
# Tenants

Owners come one after the other, and are numbered in that order. Each of them acquires the same
blocks for itself, or fails to. One that has succeeded is a tenant: its blocks are used while it
stays, and released when it leaves.

## Main definitions

* `Ledger.ofOwner` — a ledger about the blocks of one owner
* `Ledger.Holds` — the blocks that are live are those of the tenants

## Main results

* `Ledger.advance_flatMap_ofOwner` — the ledgers of several owners do not interfere
* `Ledger.Holds.enter`, `Ledger.Holds.failed`, `Ledger.Holds.visit`, `Ledger.Holds.leave` — what
  tenants do
-/

namespace Ledger

variable {β : Type*}

/-- The same operation on the block of an owner. -/
def Op.of (n : ℕ) : Op β → Op (ℕ × β)
  | .alloc b => .alloc (n, b)
  | .use b => .use (n, b)
  | .free b => .free (n, b)

@[simp] theorem Op.block_of {n : ℕ} {op : Op β} : (op.of n).block = (n, op.block) := by
  cases op <;> rfl

theorem Fate.step_of {n : ℕ} {fate : Fate} {op : Op β} : fate.step (op.of n) = fate.step op := by
  cases fate <;> cases op <;> rfl

/-- The ledger, about the blocks of one owner. -/
def ofOwner (n : ℕ) (ops : List (Op β)) : List (Op (ℕ × β)) := ops.map (Op.of n)

section Owner

variable [DecidableEq β] {n : ℕ} {b : β} {c : ℕ × β} {fate : Fate} {ops : List (Op β)}
  {owners : List ℕ}

theorem advance_ofOwner : advance (n, b) fate (ofOwner n ops) = advance b fate ops := by
  induction ops generalizing fate with
  | nil => rfl
  | cons op ops ih =>
    rw [ofOwner, List.map_cons]
    by_cases hop : op.block = b
    · rw [advance_cons_of_eq (by rw [Op.block_of, hop]), advance_cons_of_eq hop, Fate.step_of]
      exact congrArg _ (funext fun _ => ih)
    · have hne : (op.of n).block ≠ (n, b) := by simpa using hop
      rw [advance_cons_of_ne hne, advance_cons_of_ne hop]
      exact ih

/-- An owner has no part in the ledger of another one. -/
theorem advance_ofOwner_of_ne (h : n ≠ c.1) : advance c fate (ofOwner n ops) = some fate := by
  refine advance_of_forall_ne fun op hop hblock => h ?_
  obtain ⟨op', -, rfl⟩ := List.mem_map.mp hop
  rw [Op.block_of] at hblock
  exact congrArg Prod.fst hblock

theorem advance_flatMap_ofOwner (h : owners.Nodup) :
    advance c fate (owners.flatMap fun n => ofOwner n ops) =
      if c.1 ∈ owners then advance c.2 fate ops else some fate := by
  induction owners generalizing fate with
  | nil => rfl
  | cons n owners ih =>
    obtain ⟨hn, howners⟩ := List.nodup_cons.mp h
    rw [List.flatMap_cons, advance_append]
    by_cases hc : n = c.1
    · -- the other owners leave what the first one has done
      subst hc
      have hrest : ∀ fate, advance c fate (owners.flatMap fun n => ofOwner n ops) = some fate :=
        fun fate => by rw [ih howners, if_neg hn]
      rw [if_pos List.mem_cons_self, show c = (c.1, c.2) from rfl, advance_ofOwner]
      simp only [hrest, Option.bind_fun_some]
    · have hmem : c.1 ∈ n :: owners ↔ c.1 ∈ owners := by simp [Ne.symm hc]
      rw [advance_ofOwner_of_ne hc, Option.bind_some, ih howners]
      simp only [hmem]

end Owner

/-! ## What is live -/

/-- After the ledger nothing is undefined, and a block is live exactly if its owner is a tenant.
There have been `count` owners; later ones have not been heard of. -/
structure Holds [DecidableEq β] (blocks : List β) (tenants : List ℕ) (count : ℕ)
    (ops : List (Op (ℕ × β))) : Prop where
  fate : ∀ c : ℕ × β, ∃ f, advance c .fresh ops = some f ∧
    (f = .live ↔ c.1 ∈ tenants ∧ c.2 ∈ blocks) ∧ (count ≤ c.1 → f = .fresh)
  nodup : tenants.Nodup
  lt : ∀ n ∈ tenants, n < count

namespace Holds

variable [DecidableEq β] {blocks : List β} {tenants owners : List ℕ} {count : ℕ}
  {past : List (Op (ℕ × β))} {ops : List (Op β)}

theorem start : Holds blocks [] 0 [] :=
  ⟨fun _ => ⟨.fresh, rfl, by simp, fun _ => rfl⟩, List.nodup_nil, fun _ h => by simp at h⟩

/-- The next owner acquires the blocks, and nothing else. -/
theorem enter (h : Holds blocks tenants count past)
    (hops : ∀ b, advance b .fresh ops = some (if b ∈ blocks then .live else .fresh)) :
    Holds blocks (tenants ++ [count]) (count + 1) (past ++ ofOwner count ops) where
  fate c := by
    obtain ⟨f, hf, hlive, hfresh⟩ := h.fate c
    rw [advance_append, hf, Option.bind_some]
    by_cases hc : count = c.1
    · subst hc
      obtain rfl := hfresh (Nat.le_refl _)
      rw [show c = (c.1, c.2) from rfl, advance_ofOwner, hops]
      exact ⟨_, rfl, by split <;> simp_all, fun hle => absurd hle (Nat.not_succ_le_self _)⟩
    · rw [advance_ofOwner_of_ne hc]
      exact ⟨f, rfl, by simp [hlive, Ne.symm hc], fun hle => hfresh (by omega)⟩
  nodup := by
    refine List.nodup_append.mpr ⟨h.nodup, List.nodup_singleton _, ?_⟩
    rintro n hn m hm rfl
    have hlt := h.lt n hn
    rw [List.mem_singleton.mp hm] at hlt
    exact absurd hlt (Nat.lt_irrefl _)
  lt n hn := by
    rcases List.mem_append.mp hn with hn | hn
    · exact Nat.lt_succ_of_lt (h.lt n hn)
    · rw [List.mem_singleton.mp hn]
      exact Nat.lt_succ_self _

/-- The next owner fails, and leaves nothing behind. -/
theorem failed (h : Holds blocks tenants count past) (hops : Balanced ops) :
    Holds blocks tenants (count + 1) (past ++ ofOwner count ops) where
  fate c := by
    obtain ⟨f, hf, hlive, hfresh⟩ := h.fate c
    rw [advance_append, hf, Option.bind_some]
    by_cases hc : count = c.1
    · subst hc
      obtain rfl := hfresh (Nat.le_refl _)
      have hnone : c.1 ∉ tenants := fun hmem => absurd (h.lt _ hmem) (Nat.lt_irrefl _)
      rw [show c = (c.1, c.2) from rfl, advance_ofOwner]
      rcases hops c.2 with hsettled | hsettled <;>
        exact ⟨_, hsettled, by simp [hnone], fun hle => absurd hle (Nat.not_succ_le_self _)⟩
    · rw [advance_ofOwner_of_ne hc]
      exact ⟨f, rfl, hlive, fun hle => hfresh (by omega)⟩
  nodup := h.nodup
  lt n hn := Nat.lt_succ_of_lt (h.lt n hn)

/-- Some of the tenants use their blocks. -/
theorem visit (h : Holds blocks tenants count past) (howners : owners.Sublist tenants)
    (hops : Uses blocks ops) :
    Holds blocks tenants count (past ++ owners.flatMap fun n => ofOwner n ops) where
  fate c := by
    obtain ⟨f, hf, hlive, hfresh⟩ := h.fate c
    rw [advance_append, hf, Option.bind_some, advance_flatMap_ofOwner (h.nodup.sublist howners)]
    refine ⟨f, ?_, hlive, hfresh⟩
    split
    case isTrue hc =>
      by_cases hb : c.2 ∈ blocks
      · rw [hlive.mpr ⟨howners.subset hc, hb⟩]
        exact hops.advance_live
      · exact advance_of_forall_ne fun op hop hblock => hb (hblock ▸ (hops op hop).2)
    case isFalse => rfl
  nodup := h.nodup
  lt := h.lt

/-- Some of the tenants release their blocks and leave. -/
theorem leave (h : Holds blocks tenants count past) (howners : owners.Sublist tenants)
    (hops : Releases blocks ops) :
    Holds blocks (tenants.filter (· ∉ owners)) count
      (past ++ owners.flatMap fun n => ofOwner n ops) where
  fate c := by
    obtain ⟨f, hf, hlive, hfresh⟩ := h.fate c
    rw [advance_append, hf, Option.bind_some, advance_flatMap_ofOwner (h.nodup.sublist howners)]
    split
    case isTrue hc =>
      by_cases hb : c.2 ∈ blocks
      · have hlt := h.lt _ (howners.subset hc)
        rw [hlive.mpr ⟨howners.subset hc, hb⟩, hops.1 _ hb]
        exact ⟨.freed, rfl, by simp [hc], fun hle => by omega⟩
      · rw [advance_of_forall_ne (hops.block_ne hb)]
        exact ⟨f, rfl, by simp [hlive, hb], hfresh⟩
    case isFalse hc => exact ⟨f, rfl, by simp [hlive, hc], hfresh⟩
  nodup := h.nodup.filter _
  lt n hn := h.lt n (List.mem_of_mem_filter hn)

end Holds

end Ledger
