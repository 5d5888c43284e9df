import Mathlib.Data.Int.Notation
import Mathlib.Data.List.Basic
import Mathlib.Data.List.Induction
import Mathlib.Data.List.Nodup
import Mathlib.Data.List.Perm.Basic
import Mathlib.Data.Option.Basic

/-!
# Ledgers of allocated blocks

A ledger lists what a program does to the blocks it allocates. Each block has a fate of its
own: it is fresh, then live, then freed, and an operation that does not fit the fate is
undefined. A ledger is balanced if no operation is undefined and no block is left live.

Programs acquire several blocks in a row. Each allocation may fail, and a failure undoes what
has been acquired so far.

## Main definitions

* `Ledger.Op`, `Ledger.Fate`, `Ledger.advance` — operations, and the fate of one block
* `Ledger.Settled`, `Ledger.Balanced` — nothing undefined, nothing left live
* `Ledger.Uses`, `Ledger.Releases` — ledgers that only use, or at last free, given blocks
* `Ledger.Step`, `Ledger.acquire` — acquiring blocks one after the other
* `Ledger.Sound` — every failure frees exactly what has been acquired

## Main results

* `Ledger.advance_append` — the fate after two ledgers
* `Ledger.advance_freed_iff` — nothing may happen to a freed block
* `Ledger.balanced_alloc_free_iff`, `Ledger.balanced_owners_iff` — blocks that are all freed at the
  end, and blocks of several owners
* `Ledger.acquire_eq_none_iff` — when an acquisition comes to its end
* `Ledger.settled_acquire`, `Ledger.advance_acquire` — what a sound acquisition leaves
-/

namespace Ledger

variable {β : Type*} {b : β} {blocks acquired : List β}

/-- An operation on a block. -/
inductive Op (β : Type*)
  | alloc (b : β)
  | use (b : β)
  | free (b : β)
  deriving DecidableEq, Repr

/-- The block that an operation is about. -/
def Op.block : Op β → β
  | .alloc b | .use b | .free b => b

@[simp] theorem Op.block_alloc : (Op.alloc b).block = b := rfl
@[simp] theorem Op.block_use : (Op.use b).block = b := rfl
@[simp] theorem Op.block_free : (Op.free b).block = b := rfl

/-- What has become of a block. -/
inductive Fate
  | fresh | live | freed
  deriving DecidableEq, Repr

/-- One operation on a block of a given fate. -/
def Fate.step : Fate → Op β → Option Fate
  | .fresh, .alloc _ => some .live
  | .live, .use _ => some .live
  | .live, .free _ => some .freed
  | _, _ => none

@[simp] theorem Fate.step_fresh_alloc : Fate.fresh.step (.alloc b) = some .live := rfl
@[simp] theorem Fate.step_live_alloc : Fate.live.step (.alloc b) = none := rfl
@[simp] theorem Fate.step_live_free : Fate.live.step (.free b) = some .freed := rfl
@[simp] theorem Fate.step_fresh_free : Fate.fresh.step (.free b) = none := rfl

theorem Fate.step_freed {op : Op β} : Fate.freed.step op = none := by
  cases op <;> rfl

section Advance

variable [DecidableEq β] {ops ops' : List (Op β)} {op : Op β} {fate fate' : Fate}

/-- The fate of one block, after all operations of a ledger. -/
def advance (b : β) (fate : Fate) : List (Op β) → Option Fate
  | [] => some fate
  | op :: ops =>
    if op.block = b then (fate.step op).bind fun fate' => advance b fate' ops
    else advance b fate ops

/-- The block is not left live, and nothing undefined has been done to it. -/
def Settled (b : β) (ops : List (Op β)) : Prop :=
  advance b .fresh ops = some .fresh ∨ advance b .fresh ops = some .freed

instance : Decidable (Settled b ops) := inferInstanceAs (Decidable (_ ∨ _))

/-- Every block is allocated, used and freed in this order, and freed once. -/
def Balanced (ops : List (Op β)) : Prop := ∀ b, Settled b ops

@[simp] theorem advance_nil : advance b fate ([] : List (Op β)) = some fate := rfl

theorem advance_cons_of_eq (h : op.block = b) :
    advance b fate (op :: ops) = (fate.step op).bind fun fate' => advance b fate' ops :=
  if_pos h

theorem advance_cons_of_ne (h : op.block ≠ b) :
    advance b fate (op :: ops) = advance b fate ops :=
  if_neg h

theorem advance_append :
    advance b fate (ops ++ ops') = (advance b fate ops).bind fun f => advance b f ops' := by
  induction ops generalizing fate with
  | nil => rfl
  | cons op ops ih =>
    rw [List.cons_append]
    by_cases hop : op.block = b
    · rw [advance_cons_of_eq hop, advance_cons_of_eq hop, Option.bind_assoc]
      apply congrArg
      funext f
      exact ih
    · rw [advance_cons_of_ne hop, advance_cons_of_ne hop, ih]

/-- A ledger that does not mention a block leaves its fate. -/
theorem advance_of_forall_ne (h : ∀ op ∈ ops, op.block ≠ b) :
    advance b fate ops = some fate := by
  induction ops with
  | nil => rfl
  | cons op ops ih =>
    rw [List.forall_mem_cons] at h
    rw [advance_cons_of_ne h.1, ih h.2]

/-- Nothing is defined on a block that has been freed. -/
theorem advance_freed_iff :
    advance b .freed ops = some fate ↔ fate = .freed ∧ ∀ op ∈ ops, op.block ≠ b := by
  induction ops with
  | nil => simp [eq_comm]
  | cons op ops ih =>
    by_cases hop : op.block = b
    · simp [advance_cons_of_eq hop, Fate.step_freed, hop]
    · simp [advance_cons_of_ne hop, ih, hop]

theorem settled_append_of_live (h : advance b .fresh ops = some .live) :
    Settled b (ops ++ ops') ↔
      advance b .live ops' = some .fresh ∨ advance b .live ops' = some .freed := by
  simp [Settled, advance_append, h]

end Advance

/-! ## Blocks that are freed at the end -/

section Lists

variable [DecidableEq β] {allocated freed : List β}

theorem advance_map_alloc :
    advance b .fresh (allocated.map .alloc) =
      if allocated.count b = 0 then some .fresh
      else if allocated.count b = 1 then some .live else none := by
  have hlive : ∀ allocated : List β, advance b .live (allocated.map .alloc) =
      if allocated.count b = 0 then some .live else none := by
    intro allocated
    induction allocated with
    | nil => rfl
    | cons a allocated ih =>
      by_cases ha : a = b
      · subst ha
        rw [List.map_cons, advance_cons_of_eq Op.block_alloc]
        simp
      · have hop : (Op.alloc a).block ≠ b := ha
        rw [List.map_cons, advance_cons_of_ne hop, ih, List.count_cons_of_ne ha]
  induction allocated with
  | nil => rfl
  | cons a allocated ih =>
    by_cases ha : a = b
    · subst ha
      rw [List.map_cons, advance_cons_of_eq Op.block_alloc, List.count_cons_self]
      simp [hlive]
    · have hop : (Op.alloc a).block ≠ b := ha
      rw [List.map_cons, advance_cons_of_ne hop, ih, List.count_cons_of_ne ha]

theorem advance_map_free_fresh :
    advance b .fresh (freed.map .free) = if freed.count b = 0 then some .fresh else none := by
  induction freed with
  | nil => rfl
  | cons a freed ih =>
    by_cases ha : a = b
    · subst ha
      rw [List.map_cons, advance_cons_of_eq Op.block_free]
      simp
    · have hop : (Op.free a).block ≠ b := ha
      rw [List.map_cons, advance_cons_of_ne hop, ih, List.count_cons_of_ne ha]

theorem advance_map_free_live :
    advance b .live (freed.map .free) =
      if freed.count b = 0 then some .live
      else if freed.count b = 1 then some .freed else none := by
  induction freed with
  | nil => rfl
  | cons a freed ih =>
    by_cases ha : a = b
    · subst ha
      rw [List.map_cons, advance_cons_of_eq Op.block_free, List.count_cons_self]
      by_cases hnone : freed.count a = 0
      · have hrest : advance a .freed (freed.map .free) = some .freed := by
          refine advance_of_forall_ne fun op hop => ?_
          obtain ⟨c, hc, rfl⟩ := List.mem_map.mp hop
          rintro rfl
          exact List.count_eq_zero.mp hnone hc
        simp [hrest, hnone]
      · have hrest : advance a .freed (freed.map .free) = none := by
          by_contra hsome
          obtain ⟨fate, hfate⟩ := Option.ne_none_iff_exists'.mp hsome
          have hmem := List.count_pos_iff.mp (Nat.pos_of_ne_zero hnone)
          exact (advance_freed_iff.mp hfate).2 _ (List.mem_map_of_mem hmem) rfl
        simp [hrest, hnone]
    · have hop : (Op.free a).block ≠ b := ha
      rw [List.map_cons, advance_cons_of_ne hop, ih, List.count_cons_of_ne ha]

/-- Blocks that are allocated one after the other and then freed are settled exactly if each is
allocated once and the same blocks are freed. -/
theorem balanced_alloc_free_iff :
    Balanced (allocated.map .alloc ++ freed.map .free) ↔
      allocated.Nodup ∧ allocated.Perm freed := by
  rw [List.nodup_iff_count_le_one, List.perm_iff_count, ← forall_and]
  refine forall_congr' fun b => ?_
  rw [Settled, advance_append, advance_map_alloc]
  by_cases hfresh : allocated.count b = 0
  · rw [if_pos hfresh, Option.bind_some, advance_map_free_fresh]
    by_cases hfreed : freed.count b = 0
    · simp [hfresh, hfreed]
    · simp [hfresh, hfreed, Ne.symm hfreed]
  · by_cases hlive : allocated.count b = 1
    · rw [if_neg hfresh, if_pos hlive, Option.bind_some, advance_map_free_live]
      by_cases hfreed : freed.count b = 0
      · simp [hlive, hfreed]
      · by_cases honce : freed.count b = 1
        · simp [hlive, honce]
        · simp [hlive, hfreed, honce, Ne.symm honce]
    · rw [if_neg hfresh, if_neg hlive, Option.bind_none]
      have hmany : ¬ allocated.count b ≤ 1 := by omega
      simp [hmany]

end Lists

section Owners

variable {α : Type*} [DecidableEq β] {own freed : α → List β} {index : β → ℕ} {as : List α}

theorem forall_ne_of_getElem?_eq_none {k : ℕ} (h : as[k]? = none) :
    ∀ a ∈ as, ∃ i, as[i]? = some a ∧ i ≠ k := by
  intro a ha
  obtain ⟨i, hi⟩ := List.mem_iff_getElem?.mp ha
  refine ⟨i, hi, ?_⟩
  rintro rfl
  rw [h] at hi
  contradiction

/-- What stands in front of a position and behind it is at other positions. -/
theorem exists_split_of_getElem? {k : ℕ} {a : α} (h : as[k]? = some a) :
    ∃ before behind, as = before ++ a :: behind ∧
      ∀ a' ∈ before ++ behind, ∃ i, as[i]? = some a' ∧ i ≠ k := by
  obtain ⟨hlt, rfl⟩ := List.getElem?_eq_some_iff.mp h
  refine ⟨as.take k, as.drop (k + 1), ?_, fun a' ha' => ?_⟩
  · rw [← List.drop_eq_getElem_cons hlt, List.take_append_drop]
  · obtain hbefore | hbehind := List.mem_append.mp ha'
    · obtain ⟨i, hi⟩ := List.mem_iff_getElem?.mp hbefore
      have hlen := (List.getElem?_eq_some_iff.mp hi).1
      rw [List.length_take] at hlen
      rw [List.getElem?_take_of_lt (by omega)] at hi
      exact ⟨i, hi, by omega⟩
    · obtain ⟨i, hi⟩ := List.mem_iff_getElem?.mp hbehind
      rw [List.getElem?_drop] at hi
      exact ⟨k + 1 + i, hi, by omega⟩

/-- Where every block carries the index of its owner, only that owner counts. -/
theorem count_flatMap_of_index (h : ∀ i a, as[i]? = some a → ∀ b ∈ own a, index b = i) (b : β) :
    (as.flatMap own).count b = (as[index b]?.map fun a => (own a).count b).getD 0 := by
  have hothers : ∀ as' : List α, (∀ a ∈ as', ∃ i, as[i]? = some a ∧ i ≠ index b) →
      (as'.flatMap own).count b = 0 := by
    intro as' has'
    refine List.count_eq_zero.mpr fun hb => ?_
    obtain ⟨a, ha, hb⟩ := List.mem_flatMap.mp hb
    obtain ⟨i, hi, hne⟩ := has' a ha
    exact hne (h i a hi b hb).symm
  cases howner : as[index b]? with
  | none => exact hothers as (forall_ne_of_getElem?_eq_none howner)
  | some a =>
    obtain ⟨before, behind, hsplit, hne⟩ := exists_split_of_getElem? howner
    have hbefore := hothers before fun a' ha' => hne a' (List.mem_append_left _ ha')
    have hbehind := hothers behind fun a' ha' => hne a' (List.mem_append_right _ ha')
    simp [hsplit, hbefore, hbehind]

variable (index) in
/-- Where every block carries the index of its owner, the ledger of all owners is balanced exactly
if that of each of them is. The last owner may come first when the blocks are freed. -/
theorem balanced_owners_iff (hown : ∀ i a, as[i]? = some a → ∀ b ∈ own a, index b = i)
    (hfreed : ∀ i a, as[i]? = some a → ∀ b ∈ freed a, index b = i) :
    Balanced ((as.flatMap own).map .alloc ++ (as.reverse.flatMap freed).map .free) ↔
      ∀ (i : ℕ) a, as[i]? = some a → (own a).Nodup ∧ (own a).Perm (freed a) := by
  have hreverse : ∀ b, (as.reverse.flatMap freed).count b = (as.flatMap freed).count b :=
    fun b => ((List.reverse_perm as).flatMap_right freed).count_eq b
  rw [balanced_alloc_free_iff, List.nodup_iff_count_le_one, List.perm_iff_count]
  simp only [hreverse, count_flatMap_of_index hown, count_flatMap_of_index hfreed]
  constructor
  · rintro ⟨honce, hsame⟩ i a ha
    have hall : ∀ b, (own a).count b ≤ 1 ∧ (own a).count b = (freed a).count b := by
      intro b
      by_cases hb : index b = i
      · have hle := honce b
        have heq := hsame b
        rw [hb, ha] at hle heq
        exact ⟨hle, heq⟩
      · -- the block belongs to another owner
        have hnone : (own a).count b = 0 := List.count_eq_zero.mpr fun h => hb (hown i a ha b h)
        have hnone' : (freed a).count b = 0 :=
          List.count_eq_zero.mpr fun h => hb (hfreed i a ha b h)
        omega
    exact ⟨List.nodup_iff_count_le_one.mpr fun b => (hall b).1,
      List.perm_iff_count.mpr fun b => (hall b).2⟩
  · intro h
    refine ⟨fun b => ?_, fun b => ?_⟩
    · cases ha : as[index b]? with
      | none => simp
      | some a => exact List.nodup_iff_count_le_one.mp (h _ a ha).1 b
    · cases ha : as[index b]? with
      | none => simp
      | some a => exact List.perm_iff_count.mp (h _ a ha).2 b

variable {ops : α → List (Op β)} {fate : Fate}

/-- Where every operation carries the index of its owner, only the operations of that owner count.
The last owner may come first. -/
theorem advance_flatMap_of_index
    (h : ∀ (i : ℕ) a, as[i]? = some a → ∀ op ∈ ops a, index op.block = i) (b : β) :
    advance b fate (as.flatMap ops) =
        (as[index b]?.map fun a => advance b fate (ops a)).getD (some fate) ∧
      advance b fate (as.reverse.flatMap ops) =
        (as[index b]?.map fun a => advance b fate (ops a)).getD (some fate) := by
  have hothers : ∀ (fate : Fate) (as' : List α),
      (∀ a ∈ as', ∃ i, as[i]? = some a ∧ i ≠ index b) →
        advance b fate (as'.flatMap ops) = some fate := by
    intro fate as' has'
    refine advance_of_forall_ne fun op hop => ?_
    obtain ⟨a, ha, hop⟩ := List.mem_flatMap.mp hop
    obtain ⟨i, hi, hne⟩ := has' a ha
    rintro rfl
    exact hne (h i a hi op hop).symm
  cases howner : as[index b]? with
  | none =>
    have hnone := forall_ne_of_getElem?_eq_none howner
    exact ⟨hothers fate as hnone, hothers fate as.reverse fun a ha =>
      hnone a (List.mem_reverse.mp ha)⟩
  | some a =>
    obtain ⟨before, behind, hsplit, hne⟩ := exists_split_of_getElem? howner
    have hbefore : ∀ a' ∈ before, ∃ i, as[i]? = some a' ∧ i ≠ index b :=
      fun a' ha' => hne a' (List.mem_append_left _ ha')
    have hbehind : ∀ a' ∈ behind, ∃ i, as[i]? = some a' ∧ i ≠ index b :=
      fun a' ha' => hne a' (List.mem_append_right _ ha')
    have hbefore' : ∀ a' ∈ before.reverse, ∃ i, as[i]? = some a' ∧ i ≠ index b :=
      fun a' ha' => hbefore a' (List.mem_reverse.mp ha')
    have hbehind' : ∀ a' ∈ behind.reverse, ∃ i, as[i]? = some a' ∧ i ≠ index b :=
      fun a' ha' => hbehind a' (List.mem_reverse.mp ha')
    rw [Option.map_some, Option.getD_some]
    constructor
    · calc advance b fate (as.flatMap ops)
          = advance b fate (before.flatMap ops ++ (ops a ++ behind.flatMap ops)) := by
            rw [hsplit, List.flatMap_append, List.flatMap_cons]
        _ = advance b fate (ops a) := by
            simp [advance_append, hothers _ _ hbefore, hothers _ _ hbehind]
    · calc advance b fate (as.reverse.flatMap ops)
          = advance b fate (behind.reverse.flatMap ops ++
              (ops a ++ before.reverse.flatMap ops)) := by
            rw [hsplit, List.reverse_append, List.reverse_cons]
            simp
        _ = advance b fate (ops a) := by
            simp [advance_append, hothers _ _ hbefore', hothers _ _ hbehind']

end Owners

/-! ## Ledgers that use or free given blocks -/

section Blocks

variable {ops : List (Op β)} {granted : β → Bool}

/-- The ledger only uses blocks, and only the given ones. -/
def Uses (blocks : List β) (ops : List (Op β)) : Prop :=
  ∀ op ∈ ops, op = .use op.block ∧ op.block ∈ blocks

theorem Uses.append {ops' : List (Op β)} (h : Uses blocks ops) (h' : Uses blocks ops') :
    Uses blocks (ops ++ ops') :=
  List.forall_mem_append.mpr ⟨h, h'⟩

/-- The operations on the blocks that there is memory for. The others are not there: freeing
NULL does nothing, and neither does using the text behind it. -/
def held (granted : β → Bool) (ops : List (Op β)) : List (Op β) :=
  ops.filter fun op => granted op.block

@[simp] theorem held_nil : held granted ([] : List (Op β)) = [] := rfl

variable [DecidableEq β]

/-- The ledger frees each of the given blocks as the last thing it does with it, and knows no
other block. -/
def Releases (blocks : List β) (ops : List (Op β)) : Prop :=
  (∀ b ∈ blocks, advance b .live ops = some .freed) ∧ ∀ op ∈ ops, op.block ∈ blocks

instance (blocks : List β) (ops : List (Op β)) : Decidable (Uses blocks ops) :=
  inferInstanceAs (Decidable (∀ _ ∈ _, _))

instance (blocks : List β) (ops : List (Op β)) : Decidable (Releases blocks ops) :=
  inferInstanceAs (Decidable (_ ∧ _))

theorem Uses.advance_live (h : Uses blocks ops) : advance b .live ops = some .live := by
  induction ops with
  | nil => rfl
  | cons op ops ih =>
    obtain ⟨⟨huse, -⟩, hops⟩ := List.forall_mem_cons.mp h
    by_cases hop : op.block = b
    · rw [advance_cons_of_eq hop, huse]
      exact ih hops
    · rw [advance_cons_of_ne hop, ih hops]

theorem Releases.block_ne (h : Releases blocks ops) (hb : b ∉ blocks) :
    ∀ op ∈ ops, op.block ≠ b := by
  intro op hop hblock
  exact hb (hblock ▸ h.2 op hop)

/-- Uses do not count: what follows decides whether the blocks are released. -/
theorem Uses.releases_append {ops' : List (Op β)} (h : Uses blocks ops)
    (h' : Releases blocks ops') : Releases blocks (ops ++ ops') := by
  constructor
  · intro b hb
    rw [advance_append, h.advance_live, Option.bind_some, h'.1 b hb]
  · exact List.forall_mem_append.mpr ⟨fun op hop => (h op hop).2, h'.2⟩

theorem advance_held {fate : Fate} :
    advance b fate (held granted ops) =
      if granted b then advance b fate ops else some fate := by
  induction ops generalizing fate with
  | nil => simp
  | cons op ops ih =>
    unfold held at ih ⊢
    by_cases hop : op.block = b
    · cases hb : granted b with
      | true => simp [hop, hb, advance_cons_of_eq, ih]
      | false => simpa [hop, hb] using ih
    · cases hgranted : granted op.block <;> simp [hgranted, advance_cons_of_ne hop, ih]

end Blocks

/-! ## Acquiring blocks -/

/-- A step of an acquisition. -/
inductive Step (β : Type*)
  /-- Allocate a block, or clean up and return a code. -/
  | alloc (b : β) (cleanup : List (Op β)) (code : ℤ)
  /-- Allocate a block, or go on without it. -/
  | copy (b : β)
  /-- A check that has nothing to do with memory. -/
  | check (holds : Bool) (cleanup : List (Op β)) (code : ℤ)

/-- Run the steps one after the other: the operations, and the code of the step that has
failed, if one has. -/
def acquire (granted : β → Bool) : List (Step β) → List (Op β) × Option ℤ
  | [] => ([], none)
  | .alloc b cleanup code :: steps =>
    if granted b then
      (.alloc b :: (acquire granted steps).1, (acquire granted steps).2)
    else (held granted cleanup, some code)
  | .copy b :: steps =>
    if granted b then
      (.alloc b :: (acquire granted steps).1, (acquire granted steps).2)
    else acquire granted steps
  | .check holds cleanup code :: steps =>
    if holds then acquire granted steps else (held granted cleanup, some code)

/-- No block is acquired twice, and the failure of a step frees what has been acquired before
it. -/
def Sound [DecidableEq β] (acquired : List β) : List (Step β) → Prop
  | [] => True
  | .alloc b cleanup _ :: steps =>
    b ∉ acquired ∧ Releases acquired cleanup ∧ Sound (b :: acquired) steps
  | .copy b :: steps => b ∉ acquired ∧ Sound (b :: acquired) steps
  | .check _ cleanup _ :: steps => Releases acquired cleanup ∧ Sound acquired steps

/-- The blocks that are acquired when all steps have been run, the last one first. -/
def acquisitions (acquired : List β) : List (Step β) → List β
  | [] => acquired
  | .alloc b _ _ :: steps | .copy b :: steps => acquisitions (b :: acquired) steps
  | .check _ _ _ :: steps => acquisitions acquired steps

section Acquire

variable [DecidableEq β] {granted : β → Bool} {steps : List (Step β)}

instance decidableSound (acquired : List β) :
    (steps : List (Step β)) → Decidable (Sound acquired steps)
  | [] => isTrue trivial
  | .alloc b cleanup _ :: steps =>
    haveI := decidableSound (b :: acquired) steps
    inferInstanceAs (Decidable (b ∉ acquired ∧ Releases acquired cleanup ∧ _))
  | .copy b :: steps =>
    haveI := decidableSound (b :: acquired) steps
    inferInstanceAs (Decidable (b ∉ acquired ∧ _))
  | .check _ cleanup _ :: steps =>
    haveI := decidableSound acquired steps
    inferInstanceAs (Decidable (Releases acquired cleanup ∧ _))

/-- The fate of a block while an acquisition is under way. -/
def fateOf (granted : β → Bool) (acquired : List β) (b : β) : Fate :=
  if b ∈ acquired ∧ granted b = true then .live else .fresh

theorem fateOf_cons_of_granted (h : granted b = true) :
    fateOf granted (b :: acquired) b = .live := by
  simp [fateOf, h]

theorem fateOf_cons_of_ne {b' : β} (h : b ≠ b') :
    fateOf granted (b' :: acquired) b = fateOf granted acquired b := by
  simp [fateOf, h]

theorem fateOf_cons_of_not_granted {b' : β} (h : granted b' = false) :
    fateOf granted (b' :: acquired) b = fateOf granted acquired b := by
  by_cases hb : b = b'
  · subst hb
    simp [fateOf, h]
  · exact fateOf_cons_of_ne hb

/-- Freeing everything that has been acquired leaves nothing live. -/
theorem Releases.advance_held {cleanup : List (Op β)} (h : Releases acquired cleanup) :
    advance b (fateOf granted acquired b) (held granted cleanup) =
      some (if b ∈ acquired ∧ granted b = true then .freed else .fresh) := by
  rw [Ledger.advance_held]
  unfold fateOf
  by_cases hb : b ∈ acquired
  · cases hgranted : granted b with
    | true => simp [hb, h.1 b hb]
    | false => simp [hb]
  · have hfresh : advance b .fresh cleanup = some .fresh :=
      advance_of_forall_ne (h.block_ne hb)
    simp [hb, hfresh]

/-- Allocating a block that there is memory for. -/
theorem advance_alloc {b' : β} {ops : List (Op β)} (hnew : b' ∉ acquired)
    (hgranted : granted b' = true) :
    advance b (fateOf granted acquired b) (.alloc b' :: ops) =
      advance b (fateOf granted (b' :: acquired) b) ops := by
  by_cases hb : b' = b
  · subst hb
    rw [fateOf_cons_of_granted hgranted, advance_cons_of_eq Op.block_alloc]
    simp [fateOf, hnew]
  · have hop : (Op.alloc b').block ≠ b := hb
    rw [advance_cons_of_ne hop, fateOf_cons_of_ne (Ne.symm hb)]

/-- An acquisition that has come to its end holds every block it has got memory for. -/
theorem advance_acquire (h : Sound acquired steps) (hdone : (acquire granted steps).2 = none) :
    advance b (fateOf granted acquired b) (acquire granted steps).1 =
      some (fateOf granted (acquisitions acquired steps) b) := by
  induction steps generalizing acquired with
  | nil => rfl
  | cons step steps ih =>
    cases step with
    -- a step that fails would have ended the acquisition
    | alloc b' cleanup code =>
      obtain ⟨hnew, -, hsteps⟩ := h
      cases hgranted : granted b' with
      | true =>
        simp only [acquire, hgranted, if_true] at hdone ⊢
        rw [advance_alloc hnew hgranted]
        exact ih hsteps hdone
      | false => simp [acquire, hgranted] at hdone
    | copy b' =>
      obtain ⟨hnew, hsteps⟩ := h
      cases hgranted : granted b' with
      | true =>
        simp only [acquire, hgranted, if_true] at hdone ⊢
        rw [advance_alloc hnew hgranted]
        exact ih hsteps hdone
      | false =>
        simp only [acquire, hgranted, Bool.false_eq_true, if_false] at hdone ⊢
        -- a copy that is not granted leaves the fate of its block open
        rw [← fateOf_cons_of_not_granted hgranted]
        exact ih hsteps hdone
    | check holds cleanup code =>
      obtain ⟨-, hsteps⟩ := h
      cases holds with
      | true => exact ih hsteps hdone
      | false => simp [acquire] at hdone

/-- An acquisition that fails leaves nothing live. -/
theorem advance_acquire_of_failed (h : Sound acquired steps)
    (hfailed : (acquire granted steps).2 ≠ none) :
    advance b (fateOf granted acquired b) (acquire granted steps).1 = some .fresh ∨
      advance b (fateOf granted acquired b) (acquire granted steps).1 = some .freed := by
  -- every step either goes on with what it has acquired or releases all of it
  have hcleanup : ∀ {acquired cleanup}, Releases acquired cleanup →
      advance b (fateOf granted acquired b) (held granted cleanup) = some .fresh ∨
        advance b (fateOf granted acquired b) (held granted cleanup) = some .freed := by
    intro acquired cleanup hreleases
    rw [hreleases.advance_held]
    split <;> simp
  induction steps generalizing acquired with
  | nil => exact absurd rfl hfailed
  | cons step steps ih =>
    cases step with
    | alloc b' cleanup code =>
      obtain ⟨hnew, hreleases, hsteps⟩ := h
      cases hgranted : granted b' with
      | true =>
        simp only [acquire, hgranted, if_true] at hfailed ⊢
        rw [advance_alloc hnew hgranted]
        exact ih hsteps hfailed
      | false =>
        simp only [acquire, hgranted, Bool.false_eq_true, if_false]
        exact hcleanup hreleases
    | copy b' =>
      obtain ⟨hnew, hsteps⟩ := h
      cases hgranted : granted b' with
      | true =>
        simp only [acquire, hgranted, if_true] at hfailed ⊢
        rw [advance_alloc hnew hgranted]
        exact ih hsteps hfailed
      | false =>
        simp only [acquire, hgranted, Bool.false_eq_true, if_false] at hfailed ⊢
        rw [← fateOf_cons_of_not_granted hgranted]
        exact ih hsteps hfailed
    | check holds cleanup code =>
      obtain ⟨hreleases, hsteps⟩ := h
      cases holds with
      | true => exact ih hsteps hfailed
      | false => exact hcleanup hreleases

/-- The step does not fail. -/
def Step.Succeeds (granted : β → Bool) : Step β → Prop
  | .alloc b _ _ => granted b = true
  | .copy _ => True
  | .check holds _ _ => holds = true

omit [DecidableEq β] in
/-- An acquisition comes to its end if no step fails. -/
theorem acquire_eq_none_iff :
    (acquire granted steps).2 = none ↔ ∀ step ∈ steps, step.Succeeds granted := by
  induction steps with
  | nil => simp [acquire]
  | cons step steps ih =>
    rw [List.forall_mem_cons, ← ih]
    cases step with
    | alloc b cleanup code => cases h : granted b <;> simp [acquire, Step.Succeeds, h]
    | copy b => cases h : granted b <;> simp [acquire, Step.Succeeds, h]
    | check holds cleanup code => cases holds <;> simp [acquire, Step.Succeeds]

theorem settled_acquire (h : Sound [] steps) (hfailed : (acquire granted steps).2 ≠ none) :
    Settled b (acquire granted steps).1 := by
  have hfate : fateOf granted [] b = .fresh := by simp [fateOf]
  have hadvance := advance_acquire_of_failed (b := b) h hfailed
  rwa [hfate] at hadvance

end Acquire

end Ledger
