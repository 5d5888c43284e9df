import Mathlib.Data.List.Forall2
import Telephony.Cells
import Telephony.DBus
import Telephony.Ledger

/-!
# Loops with blocks

A loop over an array of structures gets a block for each structure that it comes to, and ends
early where there is none. What it has decoded is looked at here place by place.

## Main definitions

* `DBus.decodeWhile` — what such a loop decodes

## Main results

* `DBus.exists_of_decodeWhile`, `DBus.getElem?_eq_none_of_decodeWhile` — what the loop has decoded
  in a place
* `DBus.forall₂_filter_zip_iff` — two sub-lists correspond exactly if the lists do in every place
  that is selected
-/

namespace DBus

open Ledger

/-! ## Places -/

section Places

variable {α β γ : Type}

/-- The elements at the head of a list that there are blocks for are decoded into these, one by
one. -/
def decodeWhile (alloc : ℕ → Option β) (fill : β → γ → Option α) (cs : List γ) :
    Option (List α) :=
  (cs.zipIdx.takeWhile fun c => (alloc c.2).isSome).mapM fun c =>
    (alloc c.2).bind fun block => fill block c.1

theorem getElem?_zipIdx_takeWhile (p : ℕ → Bool) (cs : List γ) (n k : ℕ) :
    ((cs.zipIdx n).takeWhile fun c => p c.2)[k]? =
      if ∀ j ≤ k, p (n + j) = true then (cs.zipIdx n)[k]? else none := by
  induction cs generalizing n k with
  | nil => simp
  | cons c cs ih =>
    rw [List.zipIdx_cons]
    by_cases hp : p n = true
    · rw [List.takeWhile_cons_of_pos (by simpa using hp)]
      cases k with
      | zero => simp [hp]
      | succ k =>
        -- the first place is one that the list gets past
        have hplaces : (∀ j ≤ k, p (n + 1 + j) = true) ↔ ∀ j ≤ k + 1, p (n + j) = true := by
          constructor
          · intro h j hj
            cases j with
            | zero => exact hp
            | succ j => exact (Nat.add_right_comm n j 1) ▸ h j (by omega)
          · intro h j hj
            exact (Nat.add_right_comm n j 1).symm ▸ h (j + 1) (by omega)
        simp only [List.getElem?_cons_succ, ih, hplaces]
    · rw [List.takeWhile_cons_of_neg (by simpa using hp),
        if_neg fun h => hp (h 0 (Nat.zero_le k))]
      rfl

variable {alloc : ℕ → Option β} {fill : β → γ → Option α} {cs : List γ} {as : List α}
  (h : decodeWhile alloc fill cs = some as) {k : ℕ}
include h

/-- An element that has a block, as have all before it, is decoded into it. -/
theorem exists_of_decodeWhile (hblocks : ∀ j ≤ k, (alloc j).isSome = true) {c : γ}
    (hc : cs[k]? = some c) :
    ∃ block a, alloc k = some block ∧ fill block c = some a ∧ as[k]? = some a := by
  have hplace : (cs.zipIdx.takeWhile fun c => (alloc c.2).isSome)[k]? = some (c, k) := by
    rw [getElem?_zipIdx_takeWhile fun n => (alloc n).isSome]
    simp only [Nat.zero_add]
    rw [if_pos hblocks, List.getElem?_zipIdx, hc]
    simp
  have hlt : k < as.length := by
    rw [length_of_mapM_eq_some h]
    exact (List.getElem?_eq_some_iff.mp hplace).1
  have hvalue := getElem?_of_mapM_eq_some h k
  rw [hplace, List.getElem?_eq_getElem hlt, Option.bind_some] at hvalue
  obtain ⟨block, hblock, hfill⟩ := Option.bind_eq_some_iff.mp hvalue.symm
  exact ⟨block, as[k], hblock, hfill, List.getElem?_eq_getElem hlt⟩

theorem getElem?_eq_none_of_decodeWhile (hblocks : ¬ ∀ j ≤ k, (alloc j).isSome = true) :
    as[k]? = none := by
  have hnone : (cs.zipIdx.takeWhile fun c => (alloc c.2).isSome)[k]? = none := by
    rw [getElem?_zipIdx_takeWhile fun n => (alloc n).isSome]
    simp only [Nat.zero_add]
    exact if_neg hblocks
  rw [getElem?_of_mapM_eq_some h, hnone, Option.bind_none]

theorem length_le_of_decodeWhile : as.length ≤ cs.length := by
  rw [length_of_mapM_eq_some h, ← List.length_zipIdx (l := cs) (i := 0)]
  exact (List.takeWhile_sublist _).length_le

end Places

/-! ## The head of a list -/

section Leading

variable {γ : Type} {keeps : γ → Bool}

theorem isPrefix_leading (cs : List γ) (room : ℕ) : leading keeps cs room <+: cs := by
  induction cs generalizing room with
  | nil => exact List.prefix_refl _
  | cons c cs ih =>
    rw [leading]
    split
    · exact List.nil_prefix
    · exact List.cons_prefix_cons.mpr ⟨rfl, ih _⟩

theorem takeWhile_leading (p : γ → Bool) (cs : List γ) (room : ℕ) :
    (leading keeps cs room).takeWhile p = leading keeps (cs.takeWhile p) room := by
  induction cs generalizing room with
  | nil => rfl
  | cons c cs ih =>
    by_cases hp : p c = true
    · rw [List.takeWhile_cons_of_pos hp, leading, leading]
      split
      · rfl
      · rw [List.takeWhile_cons_of_pos hp, ih]
    · cases room with
      | zero => simp [hp, leading]
      | succ room => simp [hp, leading]

end Leading

/-! ## Contexts and calls -/

theorem recurse_pathDicts (ps : List (String × List (String × Value))) :
    Iter.recurse [pathDicts ps] = some ((ps.map pathDictFields).map .struct) := by
  rw [pathDicts_eq]
  rfl

/-- Where there are no more structures than may be kept, all that there are blocks for are decoded,
and some of them are kept. -/
theorem collectStructs_of_length_le {α β : Type} {alloc : ℕ → Option β}
    {fill : β → Iter → Option α} {keep : α → Bool} {max : ℕ} {structs : List Iter}
    (keeps : Iter → Bool)
    (hkeeps : ∀ pos block fields a, alloc pos = some block → fill block fields = some a →
      keep a = keeps fields) (hmax : 0 < max) (hlen : structs.length ≤ max) :
    collectStructs alloc fill keep max 0 0 (structs.map .struct) =
      (decodeWhile alloc fill structs).map (List.filter keep) := by
  have hroom : (structs.zipIdx 0).length ≤ max - 0 := by simpa using hlen
  rw [collectStructs_eq hkeeps hmax, leading_of_length_le hroom, decodeWhile]

theorem take_zipIdx {γ : Type} (cs : List γ) (n k : ℕ) :
    (cs.zipIdx n).take k = (cs.take k).zipIdx n := by
  induction cs generalizing n k with
  | nil => simp
  | cons c cs ih =>
    cases k with
    | zero => rfl
    | succ k =>
      rw [List.zipIdx_cons, List.take_succ_cons, List.take_succ_cons, List.zipIdx_cons, ih]

/-- If all of them are kept, the loop decodes the structures that there are places and blocks
for. -/
theorem collectStructs_eq_decodeWhile {α β : Type} {alloc : ℕ → Option β}
    {fill : β → Iter → Option α} {max : ℕ} (structs : List Iter) (hmax : 0 < max) :
    collectStructs alloc fill (fun _ => true) max 0 0 (structs.map .struct) =
      decodeWhile alloc fill (structs.take max) := by
  have hall : List.filter (fun _ : α => true) = id :=
    funext fun as => List.filter_eq_self.mpr fun _ _ => rfl
  have hkeeps : ∀ pos block fields a, alloc pos = some block → fill block fields = some a →
      (fun _ : α => true) a = (fun _ : Iter => true) fields := fun _ _ _ _ _ _ => rfl
  rw [collectStructs_eq hkeeps hmax, leading_true, hall, Option.map_id, id, decodeWhile,
    Nat.sub_zero, take_zipIdx]

/-! ## Sub-lists -/

theorem forall₂_of_mapM_eq_some {α β : Type} {f : α → Option β} {as : List α} {bs : List β}
    (h : as.mapM f = some bs) : List.Forall₂ (fun a b => f a = some b) as bs := by
  induction as generalizing bs with
  | nil =>
    cases h
    exact .nil
  | cons a as ih =>
    simp only [List.mapM_cons, Option.bind_eq_bind, Option.bind_eq_some_iff] at h
    obtain ⟨b, hb, bs', hbs, hcons⟩ := h
    cases hcons
    exact .cons hb (ih hbs)

/-- Lists that correspond still do so once the elements that correspond to each other are selected
together. -/
theorem forall₂_filter {α β : Type} {R : α → β → Prop} {p : α → Bool} {q : β → Bool} {as : List α}
    {bs : List β} (h : List.Forall₂ R as bs) (hpq : ∀ a ∈ as, ∀ b, R a b → q b = p a) :
    List.Forall₂ R (as.filter p) (bs.filter q) := by
  induction h with
  | nil => exact .nil
  | @cons a b as bs hab _ ih =>
    rw [List.forall_mem_cons] at hpq
    rw [List.filter_cons, List.filter_cons, hpq.1 b hab]
    split
    · exact .cons hab (ih hpq.2)
    · exact ih hpq.2

/-- What is selected by the elements themselves, and by those of a list that they run alongside. -/
theorem filter_eq_filter_zip {α β : Type} {p : α → Bool} {q : β → Bool} {as : List α}
    {bs : List β} (hlen : bs.length ≤ as.length)
    (h : ∀ (k : ℕ) a b, as[k]? = some a → bs[k]? = some b → q b = p a) :
    bs.filter q = ((as.zip bs).filter fun x => p x.1).map Prod.snd := by
  induction as generalizing bs with
  | nil =>
    obtain rfl := List.eq_nil_of_length_eq_zero (Nat.le_zero.mp hlen)
    rfl
  | cons a as ih =>
    cases bs with
    | nil => rfl
    | cons b bs =>
      have htail := ih (Nat.le_of_succ_le_succ hlen) fun k a' b' ha hb => h (k + 1) a' b' ha hb
      rw [List.filter_cons, h 0 a b rfl rfl, List.zip_cons_cons, List.filter_cons, htail]
      by_cases hp : p a = true
      · simp [hp]
      · simp [hp]

/-- Two lists that run alongside a third one correspond in what is selected of them exactly if they
do in every place that is selected. -/
theorem forall₂_filter_zip_iff {α β γ : Type} {R : β → γ → Prop} {p : α → Bool} {as : List α}
    {bs : List β} {cs : List γ} :
    List.Forall₂ R (((as.zip bs).filter fun x => p x.1).map Prod.snd)
        (((as.zip cs).filter fun x => p x.1).map Prod.snd) ↔
      ∀ (k : ℕ) a, as[k]? = some a → p a = true → Option.Rel R bs[k]? cs[k]? := by
  induction as generalizing bs cs with
  | nil => simp
  | cons a as ih =>
    -- the first place, and those behind it
    have hplaces : (∀ (k : ℕ) a', (a :: as)[k]? = some a' → p a' = true →
          Option.Rel R bs[k]? cs[k]?) ↔
        (p a = true → Option.Rel R bs[0]? cs[0]?) ∧
          ∀ (k : ℕ) a', as[k]? = some a' → p a' = true →
            Option.Rel R bs.tail[k]? cs.tail[k]? := by
      constructor
      · intro h
        refine ⟨h 0 a rfl, fun k a' ha hp => ?_⟩
        simpa using h (k + 1) a' ha hp
      · rintro ⟨hhead, htail⟩ k a' ha hp
        cases k with
        | zero =>
          obtain rfl := Option.some_inj.mp ha
          exact hhead hp
        | succ k => simpa using htail k a' ha hp
    rw [hplaces, ← ih]
    cases bs with
    | nil =>
      cases cs with
      | nil => simp
      | cons c cs => by_cases hp : p a = true <;> simp [hp]
    | cons b bs =>
      cases cs with
      | nil => by_cases hp : p a = true <;> simp [hp]
      | cons c cs => by_cases hp : p a = true <;> simp [hp]

/-! ## Arrays of elements

The loop writes each element that it keeps to the next place of an array, and counts these. -/

/-- An element, with the blocks that have been allocated for it and those that its pointers hold. -/
structure Element (α κ : Type) where
  value : α
  got : List κ
  held : List κ
  deriving DecidableEq, Repr

/-- How far a loop has come: the places of its array, the number of those that it has filled, and
what it has done with its blocks. -/
structure Progress (α κ : Type) where
  places : List (Option (Element α κ))
  index : ℕ
  ops : List (Op κ)
  deriving DecidableEq, Repr

namespace Progress

variable {α κ : Type}

/-- The elements that the callback finds. -/
def delivered (s : Progress α κ) : List (Element α κ) := (s.places.take s.index).filterMap id

/-- Behind the loop the callback uses the elements, and then the last one is freed first. -/
def ledger (s : Progress α κ) : List (Op κ) :=
  s.ops ++ (s.delivered.flatMap Element.held).map .use ++
    (s.delivered.reverse.flatMap Element.held).map .free

/-- The array starts with the given elements. -/
def holding (max : ℕ) (es : List (Element α κ)) (ops : List (Op κ)) : Progress α κ where
  places := es.map some ++ List.replicate (max - es.length) none
  index := es.length
  ops := ops

@[simp] theorem index_holding (max : ℕ) (es : List (Element α κ)) (ops : List (Op κ)) :
    (holding max es ops).index = es.length := rfl

@[simp] theorem ops_holding (max : ℕ) (es : List (Element α κ)) (ops : List (Op κ)) :
    (holding max es ops).ops = ops := rfl

@[simp] theorem delivered_holding (max : ℕ) (es : List (Element α κ)) (ops : List (Op κ)) :
    (holding max es ops).delivered = es := by
  rw [delivered, holding, List.take_left' (List.length_map _), List.filterMap_map]
  simp

theorem stop_holding (max : ℕ) (es : List (Element α κ)) (ops ops' : List (Op κ)) :
    (⟨(holding max es ops).places, es.length, ops'⟩ : Progress α κ) = holding max es ops' := rfl

theorem length_places_holding {max : ℕ} {es : List (Element α κ)} (h : es.length ≤ max)
    (ops : List (Op κ)) : (holding max es ops).places.length = max := by
  rw [holding, List.length_append, List.length_map, List.length_replicate]
  omega

/-- One more place is filled. -/
theorem write_holding {max : ℕ} {es : List (Element α κ)} (h : es.length < max) (ops : List (Op κ))
    (e : Element α κ) :
    Cells.write (holding max es ops).places es.length (some e) =
      some (holding max (es ++ [e]) ops).places := by
  have hroom : List.replicate (max - es.length) (none : Option (Element α κ)) =
      none :: List.replicate (max - (es.length + 1)) none := by
    rw [← List.replicate_succ]
    congr 1
    omega
  rw [Cells.write_of_lt (by rw [length_places_holding h.le]; exact h)]
  simp [holding, hroom]

end Progress

/-- A loop over the values of one type. For each of them it gets a block, fills it, and writes it to
the array or gives it back. It ends where there is no block, and when the array is full. -/
structure ListLoop (β α κ : Type) where
  argType : ArgType
  max : ℕ
  alloc : ℕ → Option β
  failing : ℕ → List (Op κ)
  fill : ℕ → β → Iter → Option (Element α κ)
  keep : α → Bool

namespace ListLoop

open Progress

variable {α β κ : Type} (l : ListLoop β α κ)

def store (s : Progress α κ) (e : Element α κ) : Option (Progress α κ) :=
  if l.keep e.value then
    (Cells.write s.places s.index (some e)).map fun places =>
      ⟨places, s.index + 1, s.ops ++ e.got.map .alloc⟩
  else some { s with ops := s.ops ++ e.got.map .alloc ++ e.held.map .free }

def run : ℕ → Progress α κ → Iter → Option (Progress α κ)
  | pos, s, v :: it =>
    if Iter.argType [v] = l.argType then
      match l.alloc pos with
      | none => some { s with ops := s.ops ++ l.failing pos }
      | some block =>
        (l.fill pos block [v]).bind fun e =>
          (l.store s e).bind fun s' => if l.max ≤ s'.index then some s' else run (pos + 1) s' it
    else some s
  | _, s, [] => some s

/-- The loop over the array that the arguments start with. -/
def start (args : Iter) : Option (Progress α κ) := args.recurse.bind (l.run 0 (holding l.max [] []))

/-- What an element adds to the ledger. -/
def opsOf (e : Element α κ) : List (Op κ) :=
  e.got.map .alloc ++ if l.keep e.value then [] else e.held.map .free

variable {l} {es : List (Element α κ)} {ops : List (Op κ)} {pos : ℕ}

theorem store_holding (h : es.length < l.max) (e : Element α κ) :
    l.store (holding l.max es ops) e =
      some (holding l.max (es ++ if l.keep e.value then [e] else []) (ops ++ l.opsOf e)) := by
  rw [store, index_holding, opsOf]
  by_cases hkeep : l.keep e.value = true
  · rw [if_pos hkeep, write_holding h, if_pos hkeep, if_pos hkeep, List.append_nil, Option.map_some,
      ops_holding]
    simp [holding]
  · rw [if_neg hkeep, if_neg hkeep, if_neg hkeep, List.append_nil, ops_holding, List.append_assoc]
    rfl

/-! ### The values of the elements -/

/-- A loop over structures decodes the same values as one that keeps no array. -/
theorem run_values {fill : β → Iter → Option α} (hargType : l.argType = .struct)
    (hfill : ∀ pos block fields,
      (l.fill pos block [.struct fields]).map Element.value = fill block fields)
    (h : es.length < l.max) (it : Iter) :
    (l.run pos (holding l.max es ops) it).map (fun s => s.delivered.map Element.value) =
      (collectStructs l.alloc fill l.keep l.max pos es.length it).map
        (es.map Element.value ++ ·) := by
  induction it generalizing pos es ops with
  | nil => simp [run, collectStructs]
  | cons v it ih =>
    cases v with
    | struct fields =>
      have hstruct : Iter.argType [Value.struct fields] = l.argType := hargType.symm
      rw [run, collectStructs, if_pos hstruct]
      cases l.alloc pos with
      | none => simp [stop_holding]
      | some block =>
        simp only [← hfill pos]
        cases l.fill pos block [.struct fields] with
        | none => simp
        | some e =>
          simp only [Option.bind_some, Option.map_some, store_holding h, index_holding,
            List.length_append]
          by_cases hkeep : l.keep e.value = true
          · by_cases hfull : l.max ≤ es.length + 1
            · simp [hkeep, hfull]
            · have hnext := @ih (es ++ [e]) (ops ++ l.opsOf e) (pos + 1) (by simpa using hfull)
              simp only [List.length_append, List.length_singleton, List.map_append] at hnext
              simp only [hkeep, if_true, List.length_singleton, if_neg hfull, hnext]
              cases collectStructs l.alloc fill l.keep l.max (pos + 1) (es.length + 1) it <;> simp
          · -- the element leaves its place to the next one
            have hfull : ¬ l.max ≤ es.length := by omega
            have hnext := @ih es (ops ++ l.opsOf e) (pos + 1) h
            simp [hkeep, hfull, hnext]
    | _ => simp [run, collectStructs, hargType, Iter.argType]

/-- The same for the loop over the array that the arguments start with. -/
theorem start_values {fill : β → Iter → Option α} (hargType : l.argType = .struct)
    (hfill : ∀ pos block fields,
      (l.fill pos block [.struct fields]).map Element.value = fill block fields)
    (hmax : 0 < l.max) (args : Iter) :
    (l.start args).map (fun s => s.delivered.map Element.value) =
      args.recurse.bind fun list => collectStructs l.alloc fill l.keep l.max 0 0 list := by
  rw [start]
  cases args.recurse with
  | none => rfl
  | some list =>
    have hempty : ([] : List (Element α κ)).length < l.max := hmax
    rw [Option.bind_some, Option.bind_some, run_values hargType hfill hempty]
    simp

/-! ### The elements that are taken -/

variable (l) in
/-- The element that is made of the value at a position, if there is a block for it. -/
def element (c : Value × ℕ) : Option (Element α κ) :=
  (l.alloc c.2).bind fun block => l.fill c.2 block [c.1]

variable {keeps : Value → Bool} {vs : Iter}

/-- The values that the loop comes to if there are blocks for all of them. -/
def reached (keeps : Value → Bool) (vs : Iter) (pos room : ℕ) : List (Value × ℕ) :=
  leading (fun c => keeps c.1) (vs.zipIdx pos) room

/-- The values at the head that there are blocks for are taken one by one. What is kept of them
fills the array, and where a block is missing the loop ends. -/
theorem run_eq (hvs : ∀ v ∈ vs, Iter.argType [v] = l.argType)
    (hkeeps : ∀ c ∈ vs.zipIdx pos, ∀ e, l.element c = some e → l.keep e.value = keeps c.1)
    (h : es.length < l.max) :
    l.run pos (holding l.max es ops) vs =
      (((reached keeps vs pos (l.max - es.length)).takeWhile fun c =>
        (l.alloc c.2).isSome).mapM l.element).map fun taken =>
          holding l.max (es ++ taken.filter fun e => l.keep e.value)
            (ops ++ taken.flatMap l.opsOf ++
              if taken.length < (reached keeps vs pos (l.max - es.length)).length then
                l.failing (pos + taken.length) else []) := by
  induction vs generalizing pos es ops with
  | nil => simp [run, reached, leading]
  | cons v vs ih =>
    rw [List.forall_mem_cons] at hvs
    have hroom : l.max - es.length ≠ 0 := by omega
    rw [run, if_pos hvs.1, reached, List.zipIdx_cons, leading, if_neg hroom]
    cases hblock : l.alloc pos with
    | none => simp [hblock, stop_holding]
    | some block =>
      rw [List.takeWhile_cons_of_pos (by simp [hblock]), List.mapM_cons, element, hblock,
        Option.bind_some]
      simp only
      cases hfill : l.fill pos block [v] with
      | none => simp
      | some e =>
        have hkeep : l.keep e.value = keeps v :=
          hkeeps (v, pos) (by simp) e (by simp [element, hblock, hfill])
        have hkeeps' : ∀ c ∈ vs.zipIdx (pos + 1), ∀ e, l.element c = some e →
            l.keep e.value = keeps c.1 := fun c hc =>
          hkeeps c (List.mem_cons_of_mem _ hc)
        have hrest : l.max - es.length - (if keeps v = true then 1 else 0) =
            l.max - (es ++ if keeps v = true then [e] else []).length := by
          split
          · rw [List.length_append, List.length_singleton, Nat.sub_sub]
          · rw [List.append_nil, Nat.sub_zero]
        have hfilter : ∀ taken : List (Element α κ),
            es ++ (e :: taken).filter (fun e => l.keep e.value) =
              (es ++ if keeps v = true then [e] else []) ++
                taken.filter fun e => l.keep e.value := by
          intro taken
          rw [List.filter_cons, hkeep, List.append_assoc]
          split <;> rfl
        simp only [Option.bind_some, store_holding h, index_holding, hkeep, hrest]
        by_cases hfull : l.max ≤ (es ++ if keeps v = true then [e] else []).length
        · -- the element is the last one that there is a place for
          have hnil : leading (fun c : Value × ℕ => keeps c.1) (vs.zipIdx (pos + 1)) 0 = [] := by
            cases vs <;> rfl
          rw [if_pos hfull, Nat.sub_eq_zero_of_le hfull, hnil]
          simp [hfilter]
        · rw [if_neg hfull, ih hvs.2 hkeeps' (Nat.not_le.mp hfull), reached]
          cases ((leading (fun c : Value × ℕ => keeps c.1) (vs.zipIdx (pos + 1))
            (l.max - (es ++ if keeps v = true then [e] else []).length)).takeWhile fun c =>
              (l.alloc c.2).isSome).mapM l.element with
          | none => simp
          | some taken =>
            simp [hfilter, List.append_assoc, Nat.add_assoc, Nat.add_comm 1]

variable (keeps) in
/-- The same for a loop that has just begun. -/
theorem run_start_eq (hvs : ∀ v ∈ vs, Iter.argType [v] = l.argType)
    (hkeeps : ∀ c ∈ vs.zipIdx, ∀ e, l.element c = some e → l.keep e.value = keeps c.1)
    (hmax : 0 < l.max) :
    l.run 0 (holding l.max [] []) vs =
      (((reached keeps vs 0 l.max).takeWhile fun c => (l.alloc c.2).isSome).mapM l.element).map
        fun taken => holding l.max (taken.filter fun e => l.keep e.value)
          (taken.flatMap l.opsOf ++
            if taken.length < (reached keeps vs 0 l.max).length then l.failing taken.length
            else []) := by
  have hempty : ([] : List (Element α κ)).length < l.max := hmax
  rw [run_eq hvs hkeeps hempty]
  simp

/-! ### What is delivered and released -/

variable (l) in
/-- The callback finds the first elements of those that are kept of the values that there are blocks
for, in order and as many as the array has places. When it runs, the blocks of these elements are
the ones that are live, and in the end every block that has been allocated is freed once. -/
structure Lists [DecidableEq κ] (keeps : Value → Bool) (vs : Iter) (s : Progress α κ) : Prop where
  delivers : List.Forall₂ (fun c e => l.element c = some e)
    (((vs.zipIdx.takeWhile fun c => (l.alloc c.2).isSome).filter fun c => keeps c.1).take l.max)
    s.delivered
  counted : s.index = s.delivered.length
  inside : s.places.length = l.max ∧ s.index ≤ l.max
  live : ∀ b, advance b .fresh s.ops = some .live ↔ b ∈ s.delivered.flatMap Element.held
  balanced : Ledger.Balanced s.ledger

variable (l) in
/-- Every element has got blocks of its own and holds them all, and where there is no block for an
element nothing else is left over. -/
structure Owns [DecidableEq κ] (index : κ → ℕ) (vs : Iter) : Prop where
  element : ∀ c ∈ vs.zipIdx, ∀ e, l.element c = some e →
    e.got.Nodup ∧ e.got.Perm e.held ∧ ∀ b ∈ e.got, index b = c.2
  failing : ∀ pos, Ledger.Balanced (l.failing pos) ∧ ∀ op ∈ l.failing pos, index op.block = pos

theorem isPrefix_reached (keeps : Value → Bool) (vs : Iter) (pos room : ℕ) :
    reached keeps vs pos room <+: vs.zipIdx pos :=
  isPrefix_leading _ _

section Blocks

variable [DecidableEq κ] {e : Element α κ} {b : κ}

/-- What the callback and the release add to the ledger for an element. -/
theorem settled_element (hnodup : e.got.Nodup) (hperm : e.got.Perm e.held) :
    (advance b .fresh (l.opsOf e) = some .live ↔ l.keep e.value = true ∧ b ∈ e.held) ∧
      Settled b (l.opsOf e ++ (if l.keep e.value then e.held.map .use else []) ++
        if l.keep e.value then e.held.map .free else []) := by
  have hone : e.got.count b ≤ 1 := List.nodup_iff_count_le_one.mp hnodup b
  have hcount : e.got.count b = e.held.count b := hperm.count_eq b
  rw [opsOf]
  cases l.keep e.value with
  | true =>
    simp only [if_true, List.append_nil, true_and]
    by_cases hb : b ∈ e.held
    · have hheld : e.held.count b = 1 := by
        have := List.count_pos_iff.mpr hb
        omega
      have hlive : advance b .fresh (e.got.map .alloc) = some .live := by
        rw [advance_map_alloc, hcount, hheld]
        rfl
      have huses : Uses e.held (e.held.map .use) := fun op hop => by
        obtain ⟨c, hc, rfl⟩ := List.mem_map.mp hop
        exact ⟨rfl, hc⟩
      have huse : advance b .live (e.held.map .use) = some .live := huses.advance_live
      have hfree : advance b .live (e.held.map .free) = some .freed := by
        rw [advance_map_free_live, hheld]
        rfl
      exact ⟨iff_of_true hlive hb, .inr (by simp [advance_append, hlive, huse, hfree])⟩
    · have hnone : e.held.count b = 0 := List.count_eq_zero.mpr hb
      have hfresh : advance b .fresh (e.got.map .alloc) = some .fresh := by
        rw [advance_map_alloc, hcount, hnone]
        rfl
      have huse : advance b .fresh (e.held.map .use) = some .fresh :=
        advance_of_forall_ne fun op hop => by
          obtain ⟨c, hc, rfl⟩ := List.mem_map.mp hop
          rintro rfl
          exact hb hc
      have hfree : advance b .fresh (e.held.map .free) = some .fresh := by
        rw [advance_map_free_fresh, hnone]
        rfl
      refine ⟨iff_of_false ?_ hb, .inl (by simp [advance_append, hfresh, huse, hfree])⟩
      rw [hfresh]
      simp
  | false =>
    -- an element that is given back leaves nothing to the callback
    have hsettled := balanced_alloc_free_iff.mpr ⟨hnodup, hperm⟩ b
    simp only [Bool.false_eq_true, if_false, false_and, iff_false, List.append_nil]
    refine ⟨fun hlive => ?_, hsettled⟩
    obtain hfresh | hfreed := hsettled
    · rw [hlive] at hfresh
      contradiction
    · rw [hlive] at hfreed
      contradiction

end Blocks

section Taken

variable {taken : List (Element α κ)} {fail : List (Op κ)}

/-- The ledger of a loop that has taken the given elements, and then come to its end. -/
theorem ledger_holding (taken : List (Element α κ)) (fail : List (Op κ)) :
    (holding l.max (taken.filter fun e => l.keep e.value) (taken.flatMap l.opsOf ++ fail)).ledger =
      taken.flatMap l.opsOf ++ fail ++
        taken.flatMap (fun e => if l.keep e.value then e.held.map .use else []) ++
        taken.reverse.flatMap fun e => if l.keep e.value then e.held.map .free else [] := by
  have hfilter : ∀ (es : List (Element α κ)) (op : κ → Op κ),
      ((es.filter fun e => l.keep e.value).flatMap Element.held).map op =
        es.flatMap fun e => if l.keep e.value then e.held.map op else [] := by
    intro es op
    induction es with
    | nil => rfl
    | cons e es ih =>
      rw [List.filter_cons, List.flatMap_cons, ← ih]
      split
      · rw [List.flatMap_cons, List.map_append]
      · rfl
  rw [ledger, ops_holding, delivered_holding, hfilter, ← List.filter_reverse, hfilter]

variable [DecidableEq κ] {index : κ → ℕ} (hblocks : ∀ (i : ℕ) e, taken[i]? = some e →
    e.got.Nodup ∧ e.got.Perm e.held ∧ ∀ b ∈ e.got, index b = i)
  (hsettled : Ledger.Balanced fail) (hfail : ∀ op ∈ fail, index op.block = taken.length)
include hblocks hsettled hfail

/-- Each block is looked at with the operations of its element alone. -/
theorem live_and_balanced :
    (∀ b, advance b .fresh (taken.flatMap l.opsOf ++ fail) = some .live ↔
        b ∈ (taken.filter fun e => l.keep e.value).flatMap Element.held) ∧
      Ledger.Balanced (holding l.max (taken.filter fun e => l.keep e.value)
        (taken.flatMap l.opsOf ++ fail)).ledger := by
  have hheld : ∀ (i : ℕ) e, taken[i]? = some e → ∀ b ∈ e.held, index b = i :=
    fun i e he b hb => (hblocks i e he).2.2 b ((hblocks i e he).2.1.mem_iff.mpr hb)
  have hops : ∀ (i : ℕ) e, taken[i]? = some e → ∀ op ∈ l.opsOf e, index op.block = i := by
    intro i e he op hop
    rw [opsOf, List.mem_append, List.mem_map] at hop
    obtain ⟨b, hb, rfl⟩ | hop := hop
    · exact (hblocks i e he).2.2 b hb
    · split at hop
      · contradiction
      · obtain ⟨b, hb, rfl⟩ := List.mem_map.mp hop
        exact hheld i e he b hb
  have hthen : ∀ op : κ → Op κ, (∀ b, (op b).block = b) → ∀ (i : ℕ) e, taken[i]? = some e →
      ∀ op' ∈ (if l.keep e.value then e.held.map op else []), index op'.block = i := by
    intro op hblock i e he op' hop'
    split at hop'
    · obtain ⟨b, hb, rfl⟩ := List.mem_map.mp hop'
      rw [hblock]
      exact hheld i e he b hb
    · contradiction
  have huses := hthen .use fun _ => Op.block_use
  have hfrees := hthen .free fun _ => Op.block_free
  rw [ledger_holding, Ledger.Balanced, ← forall_and]
  intro b
  have hmem : b ∈ (taken.filter fun e => l.keep e.value).flatMap Element.held ↔
      ∃ e, taken[index b]? = some e ∧ l.keep e.value = true ∧ b ∈ e.held := by
    rw [List.mem_flatMap]
    constructor
    · rintro ⟨e, he, hb⟩
      obtain ⟨he, hkeep⟩ := List.mem_filter.mp he
      obtain ⟨i, hi⟩ := List.mem_iff_getElem?.mp he
      exact ⟨e, hheld i e hi b hb ▸ hi, hkeep, hb⟩
    · rintro ⟨e, he, hkeep, hb⟩
      exact ⟨e, List.mem_filter.mpr ⟨List.mem_of_getElem? he, hkeep⟩, hb⟩
  rw [hmem, Settled]
  simp only [advance_append, (advance_flatMap_of_index hops b).1]
  cases hb : taken[index b]? with
  | none =>
    -- the block belongs to no element
    simp only [Option.map_none, Option.getD_none, Option.bind_some]
    obtain hfresh | hfreed := hsettled b
    · simp [hfresh, (advance_flatMap_of_index huses b).1, (advance_flatMap_of_index hfrees b).2, hb]
    · simp [hfreed, (advance_flatMap_of_index huses b).1, (advance_flatMap_of_index hfrees b).2, hb]
  | some e =>
    obtain ⟨hnodup, hperm, -⟩ := hblocks _ e hb
    obtain ⟨hlive, hdone⟩ := settled_element (l := l) (b := b) hnodup hperm
    have hother : ∀ fate, advance b fate fail = some fate := fun fate =>
      advance_of_forall_ne fun op hop => by
        rintro rfl
        have hlt := (List.getElem?_eq_some_iff.mp hb).1
        rw [hfail op hop] at hlt
        exact Nat.lt_irrefl _ hlt
    simp only [Option.map_some, Option.getD_some, hother, Option.bind_fun_some,
      (advance_flatMap_of_index huses b).1, (advance_flatMap_of_index hfrees b).2, hb,
      Option.some_inj, exists_eq_left', hlive, true_and]
    simpa only [Settled, advance_append] using hdone

end Taken

variable [DecidableEq κ] {index : κ → ℕ} {s : Progress α κ}

/-- The loop delivers what it should, and releases what it should. -/
theorem lists_of_run (hvs : ∀ v ∈ vs, Iter.argType [v] = l.argType)
    (hkeeps : ∀ c ∈ vs.zipIdx, ∀ e, l.element c = some e → l.keep e.value = keeps c.1)
    (hmax : 0 < l.max) (howns : l.Owns index vs) (h : l.run 0 (holding l.max [] []) vs = some s) :
    l.Lists keeps vs s := by
  rw [run_start_eq keeps hvs hkeeps hmax] at h
  obtain ⟨taken, htaken, rfl⟩ := Option.map_eq_some_iff.mp h
  generalize hfail : (if taken.length < (reached keeps vs 0 l.max).length then
    l.failing taken.length else []) = fail
  have hpre : (reached keeps vs 0 l.max).takeWhile (fun c => (l.alloc c.2).isSome) <+:
      vs.zipIdx := (List.takeWhile_prefix _).trans (isPrefix_reached keeps vs 0 l.max)
  -- every element that is taken comes from the value in its place
  have hplace : ∀ (i : ℕ) e, taken[i]? = some e → ∃ c ∈ vs.zipIdx, c.2 = i ∧
      l.element c = some e := by
    intro i e he
    rw [getElem?_of_mapM_eq_some htaken, Option.bind_eq_some_iff] at he
    obtain ⟨c, hc, he⟩ := he
    have hc' : vs.zipIdx[i]? = some c := by
      obtain ⟨rest, hrest⟩ := hpre
      rw [← hrest, List.getElem?_append_left (List.getElem?_eq_some_iff.mp hc).1, hc]
    refine ⟨c, List.mem_of_getElem? hc', ?_, he⟩
    rw [List.getElem?_zipIdx, Option.map_eq_some_iff] at hc'
    obtain ⟨v, -, rfl⟩ := hc'
    exact Nat.zero_add i
  have hblocks : ∀ (i : ℕ) e, taken[i]? = some e →
      e.got.Nodup ∧ e.got.Perm e.held ∧ ∀ b ∈ e.got, index b = i := by
    intro i e he
    obtain ⟨c, hc, rfl, helement⟩ := hplace i e he
    exact howns.element c hc e helement
  have hdelivers : List.Forall₂ (fun c e => l.element c = some e)
      (((vs.zipIdx.takeWhile fun c => (l.alloc c.2).isSome).filter fun c => keeps c.1).take l.max)
      (taken.filter fun e => l.keep e.value) := by
    have hfilter := forall₂_filter (forall₂_of_mapM_eq_some htaken)
      (p := fun c => keeps c.1) (q := fun e => l.keep e.value)
      fun c hc e he => hkeeps c (hpre.subset hc) e he
    rwa [reached, takeWhile_leading, filter_leading] at hfilter
  have hroom : (taken.filter fun e => l.keep e.value).length ≤ l.max := by
    rw [← hdelivers.length_eq, List.length_take]
    exact Nat.min_le_left _ _
  obtain ⟨hsettled, hindex⟩ :
      Ledger.Balanced fail ∧ ∀ op ∈ fail, index op.block = taken.length := by
    rw [← hfail]
    split
    · exact howns.failing taken.length
    · exact ⟨fun b => .inl rfl, fun op hop => absurd hop List.not_mem_nil⟩
  obtain ⟨hlive, hbalanced⟩ := live_and_balanced (l := l) hblocks hsettled hindex
  exact
    { delivers := by rwa [delivered_holding]
      counted := by rw [index_holding, delivered_holding]
      inside := ⟨length_places_holding hroom _, hroom⟩
      live := by rwa [delivered_holding, ops_holding]
      balanced := hbalanced }

end ListLoop

end DBus
