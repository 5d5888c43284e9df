import Mathlib.Data.List.Nodup
import Mathlib.Data.List.Pairwise
import Mathlib.Data.List.Perm.Basic
import Telephony.DBus

/-!
# Dictionaries without an order

A dictionary comes as an array of entries, but its sender does not promise an order of them. Where
no key occurs twice, a field that one key sets is what that key has in the dictionary. Where the
properties of a table can be used in either order, the table reads the same from every arrangement
of a dictionary, and from what is left of it without the keys that it does not know.

## Main definitions

* `DBus.Property.Commutes`, `DBus.PropertyTable.Commutes` — properties that can be used in either
  order
* `DBus.PropertyTable.Rearranged` — two dictionaries have the same known entries

## Main results

* `DBus.PropertyTable.readAll_foldl`, `DBus.PropertyTable.readAll_field` — what a dictionary leaves
  in a field, and what one of distinct keys does
* `DBus.PropertyTable.readAll_of_rearranged` — rearranged dictionaries are read in the same way
-/

namespace DBus

variable {σ : Type}

namespace Property

/-- The two properties can be used in either order, whatever their values are. -/
def Commutes (p q : Property σ) : Prop :=
  ∀ v w x, (p.read v x).bind (q.read w) = (q.read w x).bind (p.read v)

theorem Commutes.symm {p q : Property σ} (h : p.Commutes q) : q.Commutes p :=
  fun v w x => (h w v x).symm

/-- Properties that set parts of their own, each to something that depends on the value alone. -/
theorem commutes_of_map {p q : Property σ} {α β : Type} {get : Iter → Option α}
    {get' : Iter → Option β} {set : α → σ → σ} {set' : β → σ → σ}
    (hp : ∀ value x, p.read value x = (get value).map fun a => set a x)
    (hq : ∀ value x, q.read value x = (get' value).map fun b => set' b x)
    (hset : ∀ a b x, set a (set' b x) = set' b (set a x)) : p.Commutes q := by
  intro v w x
  rw [hp, hq]
  cases hv : get v with
  | none => cases hw : get' w <;> simp [hp, hv]
  | some a => cases hw : get' w <;> simp [hp, hq, hv, hw, hset]

/-- Texts that are looked at only if they are texts. -/
theorem commutes_optionalText {set set' : String → σ → σ}
    (hset : ∀ s t x, set s (set' t x) = set' t (set s x)) :
    (optionalText set).Commutes (optionalText set') := by
  intro v w x
  simp only [optionalText]
  split <;> split <;> simp [hset]

end Property

namespace PropertyTable

variable (table : PropertyTable σ)

/-- Any two properties of the table can be used in either order. -/
def Commutes : Prop := table.Pairwise fun p q => p.2.Commutes q.2

def knows (key : String) : Bool := (table.lookup key).isSome

/-- The dictionaries have the same entries with keys that the table knows, in whatever order, and
any others. -/
def Rearranged (ps qs : List (String × Value)) : Prop :=
  (ps.filter fun p => table.knows p.1).Perm (qs.filter fun q => table.knows q.1)

variable {table}

theorem Rearranged.of_perm {ps qs : List (String × Value)} (h : ps.Perm qs) :
    table.Rearranged ps qs :=
  h.filter _

/-- Entries whose keys are not known can be added and removed. -/
theorem Rearranged.of_unknown {ps qs extra : List (String × Value)} (h : ps.Perm (qs ++ extra))
    (hextra : ∀ p ∈ extra, table.knows p.1 = false) : table.Rearranged ps qs := by
  have hfilter : extra.filter (fun p => table.knows p.1) = [] := by
    rw [List.filter_eq_nil_iff]
    intro p hp
    simp [hextra p hp]
  have hperm : table.Rearranged ps (qs ++ extra) := .of_perm h
  rwa [Rearranged, List.filter_append, hfilter, List.append_nil] at hperm

theorem fill_of_not_knows {key : String} (h : table.knows key = false) (value : Iter) (x : σ) :
    table.fill key value x = some x := by
  have hlookup : table.lookup key = none := by simpa [knows] using h
  rw [fill, hlookup]

/-- The values of different keys can be used in either order. -/
theorem fill_comm (h : table.Commutes) {key key' : String} (hkey : key ≠ key')
    (value value' : Iter) (x : σ) :
    (table.fill key value x).bind (table.fill key' value') =
      (table.fill key' value' x).bind (table.fill key value) := by
  have hmem : ∀ {key : String} {p : Property σ}, table.lookup key = some p → (key, p) ∈ table := by
    intro key p hlookup
    obtain ⟨before, after, rfl, -⟩ := List.lookup_eq_some_iff.mp hlookup
    simp
  cases hp : table.lookup key with
  | none =>
    have hfill : ∀ y, table.fill key value y = some y := fun y => by rw [fill, hp]
    rw [hfill, Option.bind_some]
    cases table.fill key' value' x with
    | none => rfl
    | some y => exact (hfill y).symm
  | some p =>
    cases hq : table.lookup key' with
    | none =>
      have hfill : ∀ y, table.fill key' value' y = some y := fun y => by rw [fill, hq]
      rw [hfill, Option.bind_some]
      cases table.fill key value x with
      | none => rfl
      | some y => exact hfill y
    | some q =>
      -- both keys are known, and their properties stand at different places of the table
      have hne : (key, p) ≠ (key', q) := fun heq => hkey (congrArg Prod.fst heq)
      have hsymm : Std.Symm fun p q : String × Property σ => p.2.Commutes q.2 :=
        ⟨fun _ _ hpq => hpq.symm⟩
      have hcomm : p.Commutes q := List.Pairwise.forall h (hmem hp) (hmem hq) hne
      have hfill : ∀ y, table.fill key value y = p.read value y := fun y => by rw [fill, hp]
      have hfill' : ∀ y, table.fill key' value' y = q.read value' y := fun y => by rw [fill, hq]
      rw [funext hfill, funext hfill']
      exact hcomm value value' x

/-- The loop over a dictionary, as a fold over its entries. -/
theorem foldDict_entries (fill : String → Iter → σ → Option σ) (ps : List (String × Value))
    (o : Option σ) :
    (o.bind fun x => foldDict fill (ps.map entry) x) =
      ps.foldl (fun o p => o.bind (fill p.1 [p.2])) o := by
  induction ps generalizing o with
  | nil => cases o <;> rfl
  | cons p ps ih =>
    rw [List.foldl_cons, ← ih]
    cases o with
    | none => rfl
    | some x => rfl

theorem readAll_eq_foldl (ps : List (String × Value)) (x : σ) :
    table.readAll (ps.map entry) x =
      ps.foldl (fun o p => o.bind (table.fill p.1 [p.2])) (some x) :=
  foldDict_entries table.fill ps (some x)

/-- What is not known is not read. -/
theorem readAll_filter (ps : List (String × Value)) (x : σ) :
    table.readAll ((ps.filter fun p => table.knows p.1).map entry) x =
      table.readAll (ps.map entry) x := by
  rw [readAll_eq_foldl, readAll_eq_foldl]
  generalize some x = o
  induction ps generalizing o with
  | nil => rfl
  | cons p ps ih =>
    by_cases hknown : table.knows p.1 = true
    · rw [List.filter_cons, if_pos hknown, List.foldl_cons, List.foldl_cons, ih]
    · -- the entry leaves what has been read so far
      have hskip : o.bind (table.fill p.1 [p.2]) = o := by
        cases o with
        | none => rfl
        | some y => exact fill_of_not_knows (Bool.not_eq_true _ ▸ hknown) [p.2] y
      rw [List.filter_cons, if_neg hknown, List.foldl_cons, hskip, ih]

/-- An arrangement of a dictionary in which no key occurs twice is read like any other. -/
theorem readAll_perm (h : table.Commutes) {ps qs : List (String × Value)}
    (hkeys : (ps.map Prod.fst).Nodup) (hperm : ps.Perm qs) (x : σ) :
    table.readAll (ps.map entry) x = table.readAll (qs.map entry) x := by
  rw [readAll_eq_foldl, readAll_eq_foldl]
  refine hperm.foldl_eq' (fun p hp q hq o => ?_) (some x)
  by_cases hkey : p.1 = q.1
  · -- with its key the entry is the same
    rw [List.inj_on_of_nodup_map hkeys hp hq hkey]
  · cases o with
    | none => rfl
    | some y => exact fill_comm h hkey [p.2] [q.2] y

theorem readAll_of_rearranged (h : table.Commutes) {ps qs : List (String × Value)}
    (hkeys : (ps.map Prod.fst).Nodup) (hsame : table.Rearranged ps qs) (x : σ) :
    table.readAll (ps.map entry) x = table.readAll (qs.map entry) x := by
  have hfilter : ((ps.filter fun p => table.knows p.1).map Prod.fst).Nodup :=
    hkeys.sublist (List.filter_sublist.map Prod.fst)
  rw [← readAll_filter ps, ← readAll_filter qs]
  exact readAll_perm h hfilter hsame x

/-! ### Fields -/

section Field

variable {τ : Type} {field : σ → τ} {key : String}

/-- What the properties of other keys keep, the values of other keys keep. -/
theorem fill_keeps
    (h : ∀ p ∈ table, p.1 ≠ key → ∀ value x x', p.2.read value x = some x' → field x' = field x)
    (key' : String) (value : Iter) (x x' : σ) (hkey : key' ≠ key)
    (hfill : table.fill key' value x = some x') : field x' = field x := by
  obtain ⟨p, hp, hread⟩ | ⟨-, rfl⟩ := table.fill_cases hfill
  · exact h (key', p) hp hkey value x x' hread
  · rfl

/-- A field that only one key sets is left alone by dictionaries without that key. -/
theorem readAll_of_not_mem
    (hkeeps : ∀ key' value x x', key' ≠ key → table.fill key' value x = some x' →
      field x' = field x)
    {ps : List (String × Value)} (hkey : key ∉ ps.map Prod.fst) {x x' : σ}
    (h : table.readAll (ps.map entry) x = some x') : field x' = field x := by
  induction ps generalizing x with
  | nil =>
    obtain rfl := Option.some_inj.mp h
    rfl
  | cons p ps ih =>
    rw [List.map_cons, List.mem_cons, not_or] at hkey
    obtain ⟨x₁, hfill, hrest⟩ : ∃ x₁, table.fill p.1 [p.2] x = some x₁ ∧
        table.readAll (ps.map entry) x₁ = some x' := Option.bind_eq_some_iff.mp h
    rw [ih hkey.2 hrest, hkeeps p.1 [p.2] x x₁ (Ne.symm hkey.1) hfill]

/-- What the entries with a key say, in the order of the dictionary. -/
def valuesOf {α : Type} (key : String) (get : Iter → Option α) (ps : List (String × Value)) :
    List α :=
  ps.filterMap fun p => if p.1 = key then get [p.2] else none

variable (field) in
/-- A field that only one key sets is updated with everything that this key says. -/
theorem readAll_foldl {α : Type} {get : Iter → Option α} {update : τ → α → τ}
    (hsets : ∀ value x x', table.fill key value x = some x' →
      ∃ a, get value = some a ∧ field x' = update (field x) a)
    (hkeeps : ∀ key' value x x', key' ≠ key → table.fill key' value x = some x' →
      field x' = field x)
    {ps : List (String × Value)} {x x' : σ} (h : table.readAll (ps.map entry) x = some x') :
    field x' = (valuesOf key get ps).foldl update (field x) := by
  induction ps generalizing x with
  | nil =>
    obtain rfl := Option.some_inj.mp h
    rfl
  | cons p ps ih =>
    obtain ⟨x₁, hfill, hrest⟩ : ∃ x₁, table.fill p.1 [p.2] x = some x₁ ∧
        table.readAll (ps.map entry) x₁ = some x' := Option.bind_eq_some_iff.mp h
    rw [ih hrest, valuesOf, valuesOf, List.filterMap_cons]
    by_cases hkey : p.1 = key
    · obtain ⟨a, ha, hfield⟩ := hsets [p.2] x x₁ (hkey ▸ hfill)
      rw [if_pos hkey, ha, hfield]
      rfl
    · rw [if_neg hkey, hkeeps p.1 [p.2] x x₁ hkey hfill]

/-- A field that one key sets, where its value says something, is left with what the last entry says
that does. -/
theorem readAll_lastOf_getD {get : Iter → Option τ}
    (hsets : ∀ value x x', table.fill key value x = some x' →
      field x' = (get value).getD (field x))
    (hkeeps : ∀ key' value x x', key' ≠ key → table.fill key' value x = some x' →
      field x' = field x)
    {it : Iter} {x x' : σ} (h : table.readAll it x = some x') :
    field x' = lastOf key get it (field x) := by
  refine foldDict_field_eq field (fun it t hstop => lastOf_of_argType_ne hstop t) ?_ h
  intro k w it x x₁ key' value hkey hvalue hfill
  rw [lastOf_entry hkey hvalue]
  by_cases hsame : key' = key
  · subst hsame
    rw [if_pos rfl, hsets value x x₁ hfill]
  · rw [if_neg hsame, hkeeps key' value x x₁ hsame hfill]

variable (table) in
/-- Each entry with the key says something. -/
theorem length_valuesOf {α : Type} {get : Iter → Option α}
    (hsets : ∀ value x x', table.fill key value x = some x' → ∃ a, get value = some a)
    {ps : List (String × Value)} {x x' : σ} (h : table.readAll (ps.map entry) x = some x') :
    (valuesOf key get ps).length = (ps.map Prod.fst).count key := by
  induction ps generalizing x with
  | nil => rfl
  | cons p ps ih =>
    obtain ⟨x₁, hfill, hrest⟩ : ∃ x₁, table.fill p.1 [p.2] x = some x₁ ∧
        table.readAll (ps.map entry) x₁ = some x' := Option.bind_eq_some_iff.mp h
    have htail := ih hrest
    rw [valuesOf] at htail
    rw [valuesOf, List.filterMap_cons, List.map_cons, List.count_cons]
    by_cases hkey : p.1 = key
    · obtain ⟨a, ha⟩ := hsets [p.2] x x₁ (hkey ▸ hfill)
      simp [hkey, ha, htail]
    · simp [hkey, htail]

/-- Where no key occurs twice, a field is updated with what its key has in the dictionary, if the
key is there. -/
theorem readAll_field {update : Iter → τ → τ}
    (hsets : ∀ value x x', table.fill key value x = some x' → field x' = update value (field x))
    (hkeeps : ∀ key' value x x', key' ≠ key → table.fill key' value x = some x' →
      field x' = field x)
    {ps : List (String × Value)} (hkeys : (ps.map Prod.fst).Nodup) {x x' : σ}
    (h : table.readAll (ps.map entry) x = some x') :
    field x' = ((ps.lookup key).map fun v => update [v] (field x)).getD (field x) := by
  induction ps generalizing x with
  | nil =>
    obtain rfl := Option.some_inj.mp h
    rfl
  | cons p ps ih =>
    rw [List.map_cons, List.nodup_cons] at hkeys
    obtain ⟨x₁, hfill, hrest⟩ : ∃ x₁, table.fill p.1 [p.2] x = some x₁ ∧
        table.readAll (ps.map entry) x₁ = some x' := Option.bind_eq_some_iff.mp h
    by_cases hkey : p.1 = key
    · -- the key does not occur behind this entry
      subst hkey
      rw [readAll_of_not_mem hkeeps hkeys.1 hrest, hsets [p.2] x x₁ hfill, List.lookup_cons,
        BEq.rfl]
      rfl
    · have hbeq : (key == p.1) = false := beq_false_of_ne (Ne.symm hkey)
      rw [ih hkeys.2 hrest, hkeeps p.1 [p.2] x x₁ hkey hfill, List.lookup_cons, hbeq]

end Field

end PropertyTable

end DBus
