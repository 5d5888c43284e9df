import Mathlib.Data.Int.Notation
import Mathlib.Data.Nat.Notation
import Mathlib.Data.List.Basic
import Mathlib.Data.List.Forall2
import Mathlib.Data.Option.Basic

/-!
# D-Bus messages and message iterators

Values of the D-Bus type system, the messages that carry them, and the iterator operations
with which a program takes a message apart. An iterator is the list of values it has not
passed yet.

Reading a value as something it is not, or recursing into a value that is not a container,
is a programming error of the caller. Such a read yields `none`: nothing in the message
determines what the caller finds in the location it asked to be filled.

## Main definitions

* `DBus.Ty`, `DBus.Value`, `DBus.Message` — types, values, and well-typed messages
* `DBus.Iter` — iterators with `argType`, `next`, `recurse` and the typed reads
* `DBus.dict`, `DBus.pathDicts` — the values of type `a{sv}` and `a(oa{sv})`
* `DBus.foldDict` — the loop over the entries of a dictionary
* `DBus.PropertyTable` — the properties that a program knows, and how it reads them
* `DBus.collectStructs` — the loop over an array of structures

## Main results

* `DBus.Message.args_eq_of_hasSignature_dict` and its companions — a message with a given
  signature carries the value that the signature describes
* `DBus.PropertyTable.isSome_readAll`, `DBus.isSome_collectStructs_iff` — on which input the
  loops are defined
-/

namespace DBus

/-! ## Types and values -/

/-- Types whose values have a fixed size in the message. -/
inductive FixedTy
  | byte | boolean | int16 | uint16 | int32 | uint32 | int64 | uint64 | double | unixFd
  deriving DecidableEq, Repr

/-- Types whose values are texts. -/
inductive TextTy
  | string | objectPath | signature
  deriving DecidableEq, Repr

inductive Ty
  | fixed (t : FixedTy)
  | text (t : TextTy)
  | variant
  | array (elem : Ty)
  | struct (fields : List Ty)
  | dictEntry (key value : Ty)
  deriving Repr

mutual

def Ty.decEq : (a b : Ty) → Decidable (a = b)
  | .fixed s, .fixed t => decidable_of_iff (s = t) (by simp)
  | .text s, .text t => decidable_of_iff (s = t) (by simp)
  | .variant, .variant => isTrue rfl
  | .array s, .array t =>
    match Ty.decEq s t with
    | isTrue h => isTrue (by rw [h])
    | isFalse h => isFalse (by simpa using h)
  | .struct s, .struct t =>
    match Ty.listDecEq s t with
    | isTrue h => isTrue (by rw [h])
    | isFalse h => isFalse (by simpa using h)
  | .dictEntry k v, .dictEntry k' v' =>
    match Ty.decEq k k', Ty.decEq v v' with
    | isTrue hk, isTrue hv => isTrue (by rw [hk, hv])
    | isFalse hk, _ => isFalse (by simp [hk])
    | _, isFalse hv => isFalse (by simp [hv])
  | .fixed _, .text _ | .fixed _, .variant | .fixed _, .array _ | .fixed _, .struct _
  | .fixed _, .dictEntry _ _ => isFalse (by simp)
  | .text _, .fixed _ | .text _, .variant | .text _, .array _ | .text _, .struct _
  | .text _, .dictEntry _ _ => isFalse (by simp)
  | .variant, .fixed _ | .variant, .text _ | .variant, .array _ | .variant, .struct _
  | .variant, .dictEntry _ _ => isFalse (by simp)
  | .array _, .fixed _ | .array _, .text _ | .array _, .variant | .array _, .struct _
  | .array _, .dictEntry _ _ => isFalse (by simp)
  | .struct _, .fixed _ | .struct _, .text _ | .struct _, .variant | .struct _, .array _
  | .struct _, .dictEntry _ _ => isFalse (by simp)
  | .dictEntry _ _, .fixed _ | .dictEntry _ _, .text _ | .dictEntry _ _, .variant
  | .dictEntry _ _, .array _ | .dictEntry _ _, .struct _ => isFalse (by simp)

def Ty.listDecEq : (a b : List Ty) → Decidable (a = b)
  | [], [] => isTrue rfl
  | [], _ :: _ => isFalse (by simp)
  | _ :: _, [] => isFalse (by simp)
  | s :: ss, t :: ts =>
    match Ty.decEq s t, Ty.listDecEq ss ts with
    | isTrue h, isTrue hs => isTrue (by rw [h, hs])
    | isFalse h, _ => isFalse (by simp [h])
    | _, isFalse hs => isFalse (by simp [hs])

end

instance : DecidableEq Ty := Ty.decEq

/-- A value. An array carries its element type, so that an empty array has one too. -/
inductive Value
  | fixed (t : FixedTy) (n : ℤ)
  | text (t : TextTy) (s : String)
  | variant (v : Value)
  | array (elem : Ty) (vs : List Value)
  | struct (vs : List Value)
  | dictEntry (key value : Value)
  deriving Repr

namespace Value

@[match_pattern] abbrev byte (n : ℤ) : Value := .fixed .byte n
@[match_pattern] abbrev boolean (n : ℤ) : Value := .fixed .boolean n
@[match_pattern] abbrev int16 (n : ℤ) : Value := .fixed .int16 n
@[match_pattern] abbrev int32 (n : ℤ) : Value := .fixed .int32 n
@[match_pattern] abbrev uint32 (n : ℤ) : Value := .fixed .uint32 n
@[match_pattern] abbrev string (s : String) : Value := .text .string s
@[match_pattern] abbrev objectPath (s : String) : Value := .text .objectPath s

/-- The type of a value. -/
def ty : Value → Ty
  | .fixed t _ => .fixed t
  | .text t _ => .text t
  | .variant _ => .variant
  | .array t _ => .array t
  | .struct vs => .struct (tys vs)
  | .dictEntry k v => .dictEntry k.ty v.ty
where
  /-- The types of a list of values: a signature. -/
  tys : List Value → List Ty
    | [] => []
    | v :: vs => v.ty :: tys vs

/-- Every array inside the value holds elements of its element type. -/
def typed : Value → Bool
  | .fixed _ _ => true
  | .text _ _ => true
  | .variant v => v.typed
  | .array t vs => vs.all (fun v => v.ty = t) && allTyped vs
  | .struct vs => allTyped vs
  | .dictEntry k v => k.typed && v.typed
where
  allTyped : List Value → Bool
    | [] => true
    | v :: vs => v.typed && allTyped vs

@[simp] theorem tys_eq_map (vs : List Value) : ty.tys vs = vs.map ty := by
  induction vs with
  | nil => rfl
  | cons v vs ih =>
    rw [List.map_cons, ← ih]
    rfl

@[simp] theorem allTyped_eq_all (vs : List Value) : typed.allTyped vs = vs.all typed := by
  induction vs with
  | nil => rfl
  | cons v vs ih =>
    rw [List.all_cons, ← ih]
    rfl

@[simp] theorem ty_fixed (t : FixedTy) (n : ℤ) : (Value.fixed t n).ty = .fixed t := rfl
@[simp] theorem ty_text (t : TextTy) (s : String) : (Value.text t s).ty = .text t := rfl
@[simp] theorem ty_variant (v : Value) : (Value.variant v).ty = .variant := rfl
@[simp] theorem ty_array (t : Ty) (vs : List Value) : (Value.array t vs).ty = .array t := rfl
@[simp] theorem ty_struct (vs : List Value) : (Value.struct vs).ty = .struct (vs.map ty) :=
  congrArg Ty.struct (tys_eq_map vs)
@[simp] theorem ty_dictEntry (k v : Value) :
    (Value.dictEntry k v).ty = .dictEntry k.ty v.ty := rfl

theorem ty_eq_text_iff {v : Value} {t : TextTy} : v.ty = .text t ↔ ∃ s, v = .text t s := by
  cases v <;> simp

theorem ty_eq_fixed_iff {v : Value} {t : FixedTy} : v.ty = .fixed t ↔ ∃ n, v = .fixed t n := by
  cases v <;> simp

theorem ty_eq_variant_iff {v : Value} : v.ty = .variant ↔ ∃ w, v = .variant w := by
  cases v <;> simp

theorem ty_eq_array_iff {v : Value} {t : Ty} : v.ty = .array t ↔ ∃ vs, v = .array t vs := by
  cases v <;> simp

theorem ty_eq_struct_iff {v : Value} {ts : List Ty} :
    v.ty = .struct ts ↔ ∃ vs, v = .struct vs ∧ vs.map ty = ts := by
  cases v <;> simp

theorem ty_eq_dictEntry_iff {v : Value} {s t : Ty} :
    v.ty = .dictEntry s t ↔ ∃ k w, v = .dictEntry k w ∧ k.ty = s ∧ w.ty = t := by
  cases v <;> simp

end Value

/-- An iterator: the values from its position to the end of the current level. -/
abbrev Iter := List Value

/-! ## Messages -/

inductive MessageType
  | methodCall | methodReturn | error | signal
  deriving DecidableEq, Repr

/-- A received message. The bus library validates what it receives, so the arguments are
well typed. -/
structure Message where
  type : MessageType
  serial : ℕ := 0
  path : String := ""
  member : String := ""
  sender : Option String := none
  args : Iter := []
  typed : args.all Value.typed = true := by decide

namespace Message

/-- The signature of the message is the given list of types. -/
def hasSignature (m : Message) (sig : List Ty) : Bool := m.args.map Value.ty = sig

/-- `dbus_set_error_from_message`: the message is an error reply. -/
def isError (m : Message) : Bool := m.type = .error

end Message

/-- A reply that a program creates for a method call it received. -/
inductive Reply
  | methodReturn (request : Message) (args : List Value)
  | error (request : Message) (name text : String)

namespace Reply

/-- The call that the reply answers. -/
def request : Reply → Message
  | .methodReturn m _ => m
  | .error m _ _ => m

def isError : Reply → Bool
  | .methodReturn _ _ => false
  | .error _ _ _ => true

/-- The types of the arguments; an error carries none that a caller would decode. -/
def signature : Reply → List Ty
  | .methodReturn _ args => args.map Value.ty
  | .error _ _ _ => []

end Reply

/-! ## Iterators -/

/-- What an iterator reports about the value it stands at. -/
inductive ArgType
  | invalid | fixed (t : FixedTy) | text (t : TextTy) | variant | array | struct | dictEntry
  deriving DecidableEq, Repr

namespace Iter

def argType : Iter → ArgType
  | [] => .invalid
  | .fixed t _ :: _ => .fixed t
  | .text t _ :: _ => .text t
  | .variant _ :: _ => .variant
  | .array _ _ :: _ => .array
  | .struct _ :: _ => .struct
  | .dictEntry _ _ :: _ => .dictEntry

def next (it : Iter) : Iter := it.tail

/-- Enter the container the iterator stands at. -/
def recurse : Iter → Option Iter
  | .variant v :: _ => some [v]
  | .array _ vs :: _ => some vs
  | .struct vs :: _ => some vs
  | .dictEntry k v :: _ => some [k, v]
  | _ => none

/-- Read a text through a `char*` location. -/
def getString : Iter → Option String
  | .text _ s :: _ => some s
  | _ => none

/-- Read a 32-bit value through an `int` location, which takes an unsigned one for a signed one. -/
def getInt : Iter → Option ℤ
  | .fixed .boolean n :: _ => some n
  | .fixed .int32 n :: _ => some n
  | .fixed .uint32 n :: _ => some (n.bmod 0x100000000)
  | .fixed .unixFd n :: _ => some n
  | _ => none

/-- Read a 32-bit value and use it as a truth value. -/
def getFlag (it : Iter) : Option Bool := it.getInt.map fun n => n ≠ 0

/-- Read a byte through an `unsigned char` location. -/
def getByte : Iter → Option ℤ
  | .fixed .byte n :: _ => some n
  | _ => none

/-- Read a 16-bit value through a `short` location. -/
def getShort : Iter → Option ℤ
  | .fixed .int16 n :: _ => some n
  | .fixed .uint16 n :: _ => some (n.bmod 0x10000)
  | _ => none

/-- Read a 16-bit value through an `unsigned short` location. -/
def getUnsignedShort (it : Iter) : Option ℤ := it.getShort.map (· % 0x10000)

/-- The iterator stands at a value that is not a container, so that it can be read. -/
def isBasic : Iter → Bool
  | .fixed _ _ :: _ => true
  | .text _ _ :: _ => true
  | _ => false

/-- Enter an array whose elements have a fixed size, and read it whole. An empty array can be
read whatever its elements are; file descriptors cannot. -/
def getFixedArray : Iter → Option (List ℤ)
  | .array _ [] :: _ => some []
  | .array (.fixed t) vs :: _ =>
    if t = .unixFd then none
    else some (vs.filterMap fun | .fixed _ n => some n | _ => none)
  | _ => none

/-! What can be read is decided by the value the iterator stands at. -/

def isText (it : Iter) : Bool := it.getString.isSome
def isInt (it : Iter) : Bool := it.getInt.isSome
def isByte (it : Iter) : Bool := it.getByte.isSome
def isShort (it : Iter) : Bool := it.getShort.isSome
def isContainer (it : Iter) : Bool := it.recurse.isSome
def isFixedArray (it : Iter) : Bool := it.getFixedArray.isSome

@[simp] theorem isSome_getString (it : Iter) : it.getString.isSome = it.isText := rfl
@[simp] theorem isSome_getInt (it : Iter) : it.getInt.isSome = it.isInt := rfl
@[simp] theorem isSome_getByte (it : Iter) : it.getByte.isSome = it.isByte := rfl
@[simp] theorem isSome_getShort (it : Iter) : it.getShort.isSome = it.isShort := rfl
@[simp] theorem isSome_getUnsignedShort (it : Iter) : it.getUnsignedShort.isSome = it.isShort := by
  simp [getUnsignedShort]
@[simp] theorem isSome_recurse (it : Iter) : it.recurse.isSome = it.isContainer := rfl
@[simp] theorem isSome_getFixedArray (it : Iter) :
    it.getFixedArray.isSome = it.isFixedArray := rfl
@[simp] theorem isSome_getFlag (it : Iter) : it.getFlag.isSome = it.isInt := by
  simp [getFlag]

end Iter

/-! ## Dictionaries -/

/-- The type `{sv}` of an entry with a text key and a value of any type. -/
abbrev Ty.entry : Ty := .dictEntry (.text .string) .variant

/-- The type `a{sv}`. -/
abbrev Ty.dict : Ty := .array .entry

/-- One entry of a dictionary. -/
abbrev entry (p : String × Value) : Value := .dictEntry (.string p.1) (.variant p.2)

/-- The value of type `a{sv}` with the given entries. -/
def dict (ps : List (String × Value)) : Value := .array .entry (ps.map entry)

/-- The loop over a dictionary: each entry's key is read, its variant is entered, and `fill`
uses both. It stops at the first value that is not an entry. -/
def foldDict {σ : Type} (fill : String → Iter → σ → Option σ) : Iter → σ → Option σ
  | .dictEntry k v :: it, x => do
    let key ← Iter.getString [k]
    let value ← Iter.recurse [v]
    let x' ← fill key value x
    foldDict fill it x'
  | _, x => some x

theorem foldDict_dictEntry {σ : Type} (fill : String → Iter → σ → Option σ) (k v : Value)
    (it : Iter) (x : σ) : foldDict fill (.dictEntry k v :: it) x =
      (Iter.getString [k]).bind fun key => (Iter.recurse [v]).bind fun value =>
        (fill key value x).bind fun x' => foldDict fill it x' :=
  rfl

/-- Every entry that `foldDict` gets to has a text key and a value that can be entered, and what
is inside satisfies `reads`. -/
def readsDict (reads : String → Iter → Bool) : Iter → Bool
  | .dictEntry k v :: it =>
    (match Iter.getString [k], Iter.recurse [v] with
      | some key, some value => reads key value
      | _, _ => false) && readsDict reads it
  | _ => true

theorem readsDict_dictEntry (reads : String → Iter → Bool) (k v : Value) (it : Iter) :
    readsDict reads (.dictEntry k v :: it) =
      (((Iter.getString [k]).bind fun key => (Iter.recurse [v]).map (reads key)).getD false &&
        readsDict reads it) := by
  rw [readsDict]
  cases Iter.getString [k] with
  | none => rfl
  | some key => cases Iter.recurse [v] <;> rfl

/-- Where it depends on the entry alone whether it can be used, the loop is defined exactly if
every entry can be. -/
theorem foldDict_isSome {σ : Type} {fill : String → Iter → σ → Option σ}
    {reads : String → Iter → Bool} (h : ∀ key value x, (fill key value x).isSome = reads key value)
    (it : Iter) (x : σ) : (foldDict fill it x).isSome = readsDict reads it := by
  induction it generalizing x with
  | nil => rfl
  | cons v it ih =>
    cases v with
    -- the key, the value and its use can each make the loop undefined
    | dictEntry k w =>
      rw [foldDict_dictEntry, readsDict_dictEntry]
      cases hk : Iter.getString [k] with
      | none => rfl
      | some key =>
        cases hw : Iter.recurse [w] with
        | none => rfl
        | some value =>
          simp only [Option.bind_some, Option.map_some, Option.getD_some, ← h key value x]
          cases fill key value x with
          | none => rfl
          | some x' => simpa using ih x'
    | _ => rfl

/-- What every single entry preserves, the loop preserves. -/
theorem foldDict_preserves {σ : Type} {fill : String → Iter → σ → Option σ} {P : σ → Prop}
    (h : ∀ key value x x', fill key value x = some x' → P x → P x') {it : Iter} {x x' : σ}
    (hfold : foldDict fill it x = some x') (hx : P x) : P x' := by
  induction it generalizing x with
  | nil =>
    -- nothing is left to be read
    obtain rfl := Option.some_inj.mp hfold
    exact hx
  | cons v it ih =>
    cases v with
    | dictEntry k w =>
      simp only [foldDict_dictEntry, Option.bind_eq_some_iff] at hfold
      obtain ⟨key, -, value, -, x₁, hfill, hrest⟩ := hfold
      exact ih hrest (h key value x x₁ hfill hx)
    | _ =>
      obtain rfl := Option.some_inj.mp hfold
      exact hx

/-- Where each entry is used in the same way on both sides of a projection, so is a dictionary. -/
theorem foldDict_map {σ τ : Type} {fill : String → Iter → σ → Option σ}
    {fill' : String → Iter → τ → Option τ} {f : σ → τ}
    (h : ∀ key value x, (fill key value x).map f = fill' key value (f x)) (it : Iter) (x : σ) :
    (foldDict fill it x).map f = foldDict fill' it (f x) := by
  induction it generalizing x with
  | nil => rfl
  | cons v it ih =>
    cases v with
    | dictEntry k v =>
      cases hkey : Iter.getString [k] with
      | none => simp only [foldDict_dictEntry, hkey, Option.bind_none, Option.map_none]
      | some key =>
        cases hvalue : Iter.recurse [v] with
        | none =>
          simp only [foldDict_dictEntry, hkey, hvalue, Option.bind_none, Option.bind_some,
            Option.map_none]
        | some value =>
          have hfill := h key value x
          cases hx : fill key value x with
          | none =>
            rw [hx, Option.map_none] at hfill
            simp only [foldDict_dictEntry, hkey, hvalue, hx, ← hfill, Option.bind_none,
              Option.bind_some, Option.map_none]
          | some x' =>
            rw [hx, Option.map_some] at hfill
            simp only [foldDict_dictEntry, hkey, hvalue, hx, ← hfill, Option.bind_some, ih]
    | _ => rfl

/-- A function that uses one entry after the other, and stops at the first value that is not an
entry, says what the loop leaves in a field. -/
theorem foldDict_field_eq {σ τ : Type} {fill : String → Iter → σ → Option σ} (field : σ → τ)
    {after : Iter → τ → τ} (hstop : ∀ it t, Iter.argType it ≠ .dictEntry → after it t = t)
    (hentry : ∀ k v it x x' key value, Iter.getString [k] = some key →
      Iter.recurse [v] = some value → fill key value x = some x' →
      after (.dictEntry k v :: it) (field x) = after it (field x'))
    {it : Iter} {x x' : σ} (h : foldDict fill it x = some x') : field x' = after it (field x) := by
  induction it generalizing x with
  | nil =>
    rw [hstop [] (field x) (by simp [Iter.argType])]
    exact congrArg field (Option.some_inj.mp h).symm
  | cons v it ih =>
    cases v with
    | dictEntry k w =>
      simp only [foldDict_dictEntry, Option.bind_eq_some_iff] at h
      obtain ⟨key, hkey, value, hvalue, x₁, hfill, hrest⟩ := h
      rw [hentry k w it x x₁ key value hkey hvalue hfill]
      exact ih hrest
    | _ =>
      -- the loop ends at a value that is not an entry
      rw [hstop _ (field x) (by simp [Iter.argType])]
      exact congrArg field (Option.some_inj.mp h).symm

/-- The same for everything that the loop leaves. -/
theorem foldDict_eq {σ : Type} {fill : String → Iter → σ → Option σ} {after : Iter → σ → σ}
    (hstop : ∀ it x, Iter.argType it ≠ .dictEntry → after it x = x)
    (hentry : ∀ k v it x x' key value, Iter.getString [k] = some key →
      Iter.recurse [v] = some value → fill key value x = some x' →
      after (.dictEntry k v :: it) x = after it x')
    {it : Iter} {x x' : σ} (h : foldDict fill it x = some x') : x' = after it x :=
  foldDict_field_eq id hstop hentry h

theorem readsDict_mono {reads reads' : String → Iter → Bool} {it : Iter}
    (h : ∀ key value, reads key value = true → reads' key value = true)
    (hit : readsDict reads it = true) : readsDict reads' it = true := by
  induction it with
  | nil => rfl
  | cons v it ih =>
    cases v with
    | dictEntry k w =>
      rw [readsDict_dictEntry, Bool.and_eq_true] at hit ⊢
      refine ⟨?_, ih hit.2⟩
      cases hk : Iter.getString [k] with
      | none => simp [hk] at hit
      | some key =>
        cases hw : Iter.recurse [w] with
        | none => simp [hk, hw] at hit
        | some value =>
          have hreads : reads key value = true := by simpa [hk, hw] using hit.1
          exact h key value hreads
    | _ => rfl

theorem readsDict_entries (reads : String → Iter → Bool) (ps : List (String × Value)) :
    readsDict reads (ps.map entry) = ps.all fun p => reads p.1 [p.2] := by
  induction ps with
  | nil => rfl
  | cons p ps ih =>
    rw [List.map_cons, readsDict_dictEntry, ih]
    rfl

/-! ## Properties

A program takes a dictionary apart with a table: for each key it knows, how to read the value
and what to do with it. Keys it does not know are skipped. -/

/-- How the value of one key is used. Whether that is possible depends on the value alone. -/
structure Property (σ : Type) where
  read : Iter → σ → Option σ
  reads : Iter → Bool
  isSome_read : ∀ value x, (read value x).isSome = reads value

namespace Property

variable {σ : Type}

def text (set : String → σ → σ) : Property σ where
  read value x := value.getString.map fun s => set s x
  reads := Iter.isText
  isSome_read _ _ := by simp

/-- A text that is taken apart, which not every text can be. -/
def parsedText {α : Type} (parse : String → Option α) (set : α → σ → σ) : Property σ where
  read value x := (value.getString.bind parse).map fun a => set a x
  reads value := (value.getString.bind parse).isSome
  isSome_read _ _ := Option.isSome_map

def int (set : ℤ → σ → σ) : Property σ where
  read value x := value.getInt.map fun n => set n x
  reads := Iter.isInt
  isSome_read _ _ := by simp

def flag (set : Bool → σ → σ) : Property σ where
  read value x := value.getFlag.map fun b => set b x
  reads := Iter.isInt
  isSome_read _ _ := by simp

def byte (set : ℤ → σ → σ) : Property σ where
  read value x := value.getByte.map fun n => set n x
  reads := Iter.isByte
  isSome_read _ _ := by simp

/-- A container that is entered. -/
def container (set : Iter → σ → σ) : Property σ where
  read value x := value.recurse.map fun list => set list x
  reads := Iter.isContainer
  isSome_read _ _ := by simp

/-- A text that is looked at only if it is one. -/
def optionalText (set : String → σ → σ) : Property σ where
  read value x :=
    match value with
    | .string s :: _ => some (set s x)
    | _ => some x
  reads _ := true
  isSome_read value _ := by split <;> rfl

end Property

/-- The properties that a program knows, by their keys. -/
abbrev PropertyTable (σ : Type) := List (String × Property σ)

namespace PropertyTable

variable {σ : Type} (table : PropertyTable σ)

def fill (key : String) (value : Iter) (x : σ) : Option σ :=
  match table.lookup key with
  | some p => p.read value x
  | none => some x

/-- The value can be read as what the program takes it for. -/
def reads (key : String) (value : Iter) : Bool :=
  match table.lookup key with
  | some p => p.reads value
  | none => true

theorem isSome_fill (key : String) (value : Iter) (x : σ) :
    (table.fill key value x).isSome = table.reads key value := by
  unfold fill reads
  cases table.lookup key with
  | none => rfl
  | some p => exact p.isSome_read value x

/-- A value either is used as the table says for its key, or has a key that the table does not
know and changes nothing. -/
theorem fill_cases {key : String} {value : Iter} {x x' : σ}
    (h : table.fill key value x = some x') :
    (∃ p, (key, p) ∈ table ∧ p.read value x = some x') ∨ (∀ p ∈ table, key ≠ p.1) ∧ x' = x := by
  unfold fill at h
  cases hlookup : table.lookup key with
  | none =>
    rw [hlookup] at h
    refine .inr ⟨?_, (Option.some_inj.mp h).symm⟩
    simpa [bne_iff_ne] using List.lookup_eq_none_iff.mp hlookup
  | some p =>
    rw [hlookup] at h
    obtain ⟨before, after, htable, -⟩ := List.lookup_eq_some_iff.mp hlookup
    exact .inl ⟨p, by simp [htable], h⟩

/-- Use all properties of a dictionary. -/
def readAll (it : Iter) (x : σ) : Option σ := foldDict table.fill it x

/-- A field that no property of the table sets stays. -/
theorem readAll_preserves {τ : Type} (field : σ → τ)
    (h : ∀ p ∈ table, ∀ value x x', p.2.read value x = some x' → field x' = field x)
    {it : Iter} {x x' : σ} (hread : table.readAll it x = some x') : field x' = field x := by
  refine foldDict_preserves (P := fun y => field y = field x) ?_ hread rfl
  intro key value y y' hfill hy
  obtain ⟨p, hp, hread⟩ | ⟨-, rfl⟩ := table.fill_cases hfill
  · exact (h (key, p) hp value y y' hread).trans hy
  · exact hy

/-- Every property of the dictionary can be read as what the program takes it for. -/
def readsAll (it : Iter) : Bool := readsDict table.reads it

@[simp] theorem isSome_readAll (it : Iter) (x : σ) :
    (table.readAll it x).isSome = table.readsAll it :=
  foldDict_isSome table.isSome_fill it x

/-- What the last entry of a dictionary with a certain key says, if there is one. -/
def lastOf {τ : Type} (key : String) (get : Iter → Option τ) : Iter → τ → τ
  | .dictEntry k v :: it, t =>
    lastOf key get it <|
      match Iter.getString [k], (Iter.recurse [v]).bind get with
      | some key', some t' => if key' = key then t' else t
      | _, _ => t
  | _, t => t

theorem lastOf_of_argType_ne {τ : Type} {key : String} {get : Iter → Option τ} {it : Iter}
    (h : it.argType ≠ .dictEntry) (t : τ) : lastOf key get it t = t := by
  unfold lastOf
  split
  · contradiction
  · rfl

/-- An entry says something of the field if it has the key. -/
theorem lastOf_dictEntry {τ : Type} (key : String) (get : Iter → Option τ) (k v : Value)
    (it : Iter) (t : τ) : lastOf key get (.dictEntry k v :: it) t =
      lastOf key get it (((Iter.getString [k]).bind fun key' =>
        if key' = key then (Iter.recurse [v]).bind get else none).getD t) := by
  rw [lastOf]
  congr 1
  cases Iter.getString [k] with
  | none => rfl
  | some key' =>
    rw [Option.bind_some]
    cases (Iter.recurse [v]).bind get with
    | none => rw [ite_self, Option.getD_none]
    | some t' => by_cases hkey : key' = key <;> simp [hkey]

theorem lastOf_entry {τ : Type} {key key' : String} {get : Iter → Option τ} {k v : Value}
    {it value : Iter} (hkey : Iter.getString [k] = some key')
    (hvalue : Iter.recurse [v] = some value) (t : τ) :
    lastOf key get (.dictEntry k v :: it) t =
      lastOf key get it (if key' = key then (get value).getD t else t) := by
  rw [lastOf_dictEntry, hkey, hvalue, Option.bind_some, Option.bind_some]
  by_cases hsame : key' = key
  · rw [if_pos hsame, if_pos hsame]
  · rw [if_neg hsame, if_neg hsame, Option.getD_none]

section Filter

variable {τ : Type} {key : String} {get : Iter → Option τ} {p : τ → Bool}

/-- If the values that are refused are passed over, none of them is left. -/
theorem lastOf_filter {it : Iter} {t : τ} (ht : p t = true) :
    p (lastOf key (fun value => (get value).filter p) it t) = true := by
  induction it generalizing t with
  | nil => exact ht
  | cons v it ih =>
    cases v with
    | dictEntry k w =>
      rw [lastOf_dictEntry]
      apply ih
      -- the field holds its old value or one that has been let through
      cases hsaid : (Iter.getString [k]).bind fun key' =>
          if key' = key then (Iter.recurse [w]).bind fun value => (get value).filter p
          else none with
      | none => exact ht
      | some t' =>
        obtain ⟨key', -, hget⟩ := Option.bind_eq_some_iff.mp hsaid
        obtain ⟨-, hget⟩ := Option.ite_none_right_eq_some.mp hget
        obtain ⟨value, -, hvalue⟩ := Option.bind_eq_some_iff.mp hget
        exact (Option.filter_eq_some_iff.mp hvalue).2
    | _ => exact ht

theorem lastOf_filter_eq {it : Iter} {t t' : τ} (ht : p t = true → t' = t)
    (h : p (lastOf key get it t) = true) :
    lastOf key (fun value => (get value).filter p) it t' = lastOf key get it t := by
  induction it generalizing t t' with
  | nil => exact ht h
  | cons v it ih =>
    cases v with
    | dictEntry k w =>
      rw [lastOf_dictEntry] at h ⊢
      rw [lastOf_dictEntry]
      refine ih ?_ h
      cases Iter.getString [k] with
      | none => exact ht
      | some key' =>
        simp only [Option.bind_some]
        by_cases hkey : key' = key
        · rw [if_pos hkey, if_pos hkey]
          cases Iter.recurse [w] with
          | none => exact ht
          | some value =>
            simp only [Option.bind_some]
            cases get value with
            | none => exact ht
            | some u =>
              -- a value that is refused is not the one that is left
              cases hu : p u <;> simp [Option.filter, hu]
        · rw [if_neg hkey, if_neg hkey]
          exact ht
    | _ => exact ht h

/-- What the last entry says is also what is left if refused values are passed over, exactly if
it is not refused itself. -/
theorem lastOf_filter_eq_iff {it : Iter} {t : τ} (ht : p t = true) :
    lastOf key (fun value => (get value).filter p) it t = lastOf key get it t ↔
      p (lastOf key get it t) = true := by
  constructor
  · intro h
    rw [← h]
    exact lastOf_filter ht
  · exact lastOf_filter_eq fun _ => rfl

end Filter

/-- What the last entry of a dictionary with a certain key says. -/
def lastValue {τ : Type} (key : String) (get : Iter → Option τ) (it : Iter) : Option τ :=
  lastOf key (fun value => (get value).map some) it none

section LastValue

variable {τ : Type} {key : String} {get : Iter → Option τ}

theorem lastOf_getD (it : Iter) (o : Option τ) (t : τ) :
    lastOf key get it (o.getD t) =
      (lastOf key (fun value => (get value).map some) it o).getD t := by
  induction it generalizing o with
  | nil => rfl
  | cons v it ih =>
    cases v with
    | dictEntry k w =>
      rw [lastOf_dictEntry, lastOf_dictEntry, ← ih]
      congr 1
      cases Iter.getString [k] with
      | none => rfl
      | some key' =>
        simp only [Option.bind_some]
        -- whether the entry sets the field is decided in the same way on both sides
        by_cases hkey : key' = key
        · rw [if_pos hkey, if_pos hkey]
          cases Iter.recurse [w] with
          | none => rfl
          | some value =>
            simp only [Option.bind_some]
            cases get value <;> rfl
        · rw [if_neg hkey, if_neg hkey, Option.getD_none, Option.getD_none]
    | _ => rfl

/-- A field is what the last entry with its key says, if there is one, and otherwise stays. -/
theorem lastOf_eq_getD (it : Iter) (t : τ) : lastOf key get it t = (lastValue key get it).getD t :=
  lastOf_getD it none t

/-- Where two ways to read the values of a key succeed on the same values, they find a last
value in the same dictionaries. -/
theorem isSome_lastOf_map {τ' : Type} {get' : Iter → Option τ'} {it : Iter} {o : Option τ}
    {o' : Option τ'} (ho : o.isSome = o'.isSome)
    (h : readsDict
      (fun key' value => decide (key' = key → (get value).isSome = (get' value).isSome))
      it = true) :
    (lastOf key (fun value => (get value).map some) it o).isSome =
      (lastOf key (fun value => (get' value).map some) it o').isSome := by
  induction it generalizing o o' with
  | nil => exact ho
  | cons v it ih =>
    cases v with
    | dictEntry k w =>
      rw [readsDict_dictEntry, Bool.and_eq_true] at h
      rw [lastOf_dictEntry, lastOf_dictEntry]
      refine ih ?_ h.2
      cases hk : Iter.getString [k] with
      | none => exact ho
      | some key' =>
        cases hw : Iter.recurse [w] with
        | none => by_cases hkey : key' = key <;> simpa [hkey] using ho
        | some value =>
          have hreads : key' = key → (get value).isSome = (get' value).isSome := by
            simpa only [hk, hw, Option.bind_some, Option.map_some, Option.getD_some,
              decide_eq_true_eq] using h.1
          -- only values of the key count, and these can be read in both ways or in neither
          simp only [Option.bind_some]
          by_cases hkey : key' = key
          · have hsome := hreads hkey
            cases hget : get value <;> cases hget' : get' value <;> simp_all
          · simpa [hkey] using ho
    | _ => exact ho

theorem isSome_lastValue_eq {τ' : Type} {get' : Iter → Option τ'} {it : Iter}
    (h : readsDict
      (fun key' value => decide (key' = key → (get value).isSome = (get' value).isSome))
      it = true) : (lastValue key get it).isSome = (lastValue key get' it).isSome :=
  isSome_lastOf_map rfl h

end LastValue

/-- Where one key sets a field, and no other key does, using all properties of a dictionary
leaves in the field what the last entry with that key says. -/
theorem readAll_lastOf {τ : Type} (field : σ → τ) {key : String} {get : Iter → Option τ}
    (hsets : ∀ value x x', table.fill key value x = some x' → get value = some (field x'))
    (hkeeps : ∀ key' value x x', key' ≠ key → table.fill key' value x = some x' →
      field x' = field x)
    {it : Iter} {x x' : σ} (h : table.readAll it x = some x') :
    field x' = lastOf key get it (field x) := by
  refine foldDict_field_eq field (fun it t hstop => lastOf_of_argType_ne hstop t) ?_ h
  intro k w it x x₁ key' value hkey hvalue hfill
  rw [lastOf_entry hkey hvalue]
  by_cases hsame : key' = key
  · subst hsame
    rw [if_pos rfl, hsets value x x₁ hfill, Option.getD_some]
  · rw [if_neg hsame, hkeeps key' value x x₁ hsame hfill]

end PropertyTable

/-! ## Arrays of structures -/

section Collect

variable {α β : Type}

/-- The loop over an array of structures that gets a block for each, fills it from the fields,
and keeps it or not. It stops when it has kept `max` of them, and at the first structure that
it gets no block for. The block of each structure is the one at its position. -/
def collectStructs (alloc : ℕ → Option β) (fill : β → Iter → Option α) (keep : α → Bool)
    (max : ℕ) : ℕ → ℕ → Iter → Option (List α)
  | pos, count, .struct fields :: it =>
    match alloc pos with
    | none => some []
    | some block =>
      (fill block fields).bind fun a =>
        if keep a then
          if max ≤ count + 1 then some [a]
          else (collectStructs alloc fill keep max (pos + 1) (count + 1) it).map (a :: ·)
        else collectStructs alloc fill keep max (pos + 1) count it
  | _, _, _ => some []

/-- The loop gets to a structure if it has blocks for those before it, and has not kept `max`
of them. -/
def Reaches (alloc : ℕ → Option β) (keeps : Iter → Bool) (max pos count : ℕ)
    (structs : List Iter) (k : ℕ) : Prop :=
  (∀ j < k, (alloc (pos + j)).isSome = true) ∧ count + (structs.take k).countP keeps < max

/-- Every structure that the loop gets to, and has a block for, can be used. -/
def ReadableStructs (alloc : ℕ → Option β) (reads : β → Iter → Bool) (keeps : Iter → Bool)
    (max pos count : ℕ) (structs : List Iter) : Prop :=
  ∀ k fields block, structs[k]? = some fields → alloc (pos + k) = some block →
    Reaches alloc keeps max pos count structs k → reads block fields = true

variable {alloc : ℕ → Option β} {reads : β → Iter → Bool} {keeps : Iter → Bool}
  {max pos count : ℕ} {fields : Iter} {structs : List Iter}

theorem reaches_zero (hcount : count < max) :
    Reaches alloc keeps max pos count structs 0 := by
  refine ⟨fun j hj => absurd hj (Nat.not_lt_zero j), ?_⟩
  simpa using hcount

theorem reaches_succ_iff {block : β} (hblock : alloc pos = some block) (k : ℕ) :
    Reaches alloc keeps max pos count (fields :: structs) (k + 1) ↔
      Reaches alloc keeps max (pos + 1) (count + (if keeps fields then 1 else 0)) structs k := by
  unfold Reaches
  -- the blocks and the count both move by one structure
  apply and_congr
  · constructor
    · intro hblocks j hj
      have hnext := hblocks (j + 1) (by omega)
      rwa [show pos + (j + 1) = pos + 1 + j by omega] at hnext
    · intro hblocks j hj
      cases j with
      | zero => simp [hblock]
      | succ j =>
        have hprev := hblocks j (by omega)
        rwa [show pos + 1 + j = pos + (j + 1) by omega] at hprev
  · rw [List.take_succ_cons, List.countP_cons]
    omega

theorem readableStructs_nil : ReadableStructs alloc reads keeps max pos count [] := by
  intro k fields block hfields
  simp at hfields

/-- Without a block for the first structure the loop gets to nothing. -/
theorem readableStructs_of_alloc_eq_none (hblock : alloc pos = none) :
    ReadableStructs alloc reads keeps max pos count structs := by
  intro k fields block _ hk hreach
  cases k with
  | zero => simp [hblock] at hk
  | succ k =>
    have hhead := hreach.1 0 (by omega)
    simp [hblock] at hhead

theorem readableStructs_cons_iff {block : β} (hblock : alloc pos = some block)
    (hcount : count < max) :
    ReadableStructs alloc reads keeps max pos count (fields :: structs) ↔
      reads block fields = true ∧ ReadableStructs alloc reads keeps max (pos + 1)
        (count + (if keeps fields then 1 else 0)) structs := by
  constructor
  · intro hall
    refine ⟨hall 0 fields block rfl hblock (reaches_zero hcount), ?_⟩
    intro k fields' block' hfields hk hreach
    apply hall (k + 1) fields' block' (by simpa using hfields)
    · rwa [show pos + (k + 1) = pos + 1 + k by omega]
    · exact (reaches_succ_iff hblock k).mpr hreach
  · rintro ⟨hhead, htail⟩ k fields' block' hfields hk hreach
    -- the head is the first structure, and the others stand one place later
    cases k with
    | zero =>
      obtain rfl : fields = fields' := by simpa using hfields
      obtain rfl : block = block' := by simpa [hblock] using hk
      exact hhead
    | succ k =>
      apply htail k fields' block' (by simpa using hfields)
      · rwa [show pos + 1 + k = pos + (k + 1) by omega]
      · exact (reaches_succ_iff hblock k).mp hreach

/-- Nothing is reached once `max` structures have been kept. -/
theorem readableStructs_of_le (hcount : max ≤ count) :
    ReadableStructs alloc reads keeps max pos count structs := by
  intro k fields block _ _ hreach
  have hlt := hreach.2
  omega

/-- Where it depends on the block and the fields whether a structure can be used, and on the
fields alone whether it is kept, the loop is defined exactly if every structure that it gets to
can be used. -/
theorem isSome_collectStructs_iff {fill : β → Iter → Option α} {keep : α → Bool}
    (hreads : ∀ block fields, (fill block fields).isSome = reads block fields)
    (hkeeps : ∀ pos block fields a, alloc pos = some block → fill block fields = some a →
      keep a = keeps fields)
    (hcount : count < max) :
    (collectStructs alloc fill keep max pos count (structs.map .struct)).isSome = true ↔
      ReadableStructs alloc reads keeps max pos count structs := by
  induction structs generalizing pos count with
  | nil => simpa [collectStructs] using readableStructs_nil
  | cons fields structs ih =>
    cases hblock : alloc pos with
    | none =>
      -- the loop stops at the first structure that it gets no block for
      simpa [collectStructs, hblock] using readableStructs_of_alloc_eq_none hblock
    | some block =>
      rw [readableStructs_cons_iff hblock hcount, ← hreads]
      simp only [List.map_cons, collectStructs, hblock]
      cases hfill : fill block fields with
      | none => simp
      | some a =>
        simp only [Option.bind_some, Option.isSome_some, true_and,
          hkeeps pos block fields a hblock hfill]
        cases hkept : keeps fields with
        | false => simpa using ih hcount
        | true =>
          -- a structure that is kept may be the last one
          by_cases hfull : max ≤ count + 1
          · simpa [hfull] using readableStructs_of_le hfull
          · simpa [hfull] using ih (Nat.not_le.mp hfull)

/-- The elements at the head of a list, up to the last of so many that are kept. -/
def leading {γ : Type} (keeps : γ → Bool) : List γ → ℕ → List γ
  | [], _ => []
  | c :: cs, room =>
    if room = 0 then [] else c :: leading keeps cs (room - if keeps c then 1 else 0)

section Leading

variable {γ : Type} {keeps' : γ → Bool}

theorem leading_true (cs : List γ) (room : ℕ) : leading (fun _ => true) cs room = cs.take room := by
  induction cs generalizing room with
  | nil => rw [leading, List.take_nil]
  | cons c cs ih =>
    cases room with
    | zero => rfl
    | succ room => rw [leading, if_neg (Nat.succ_ne_zero room), ih]; rfl

theorem leading_of_length_le {cs : List γ} {room : ℕ} (h : cs.length ≤ room) :
    leading keeps' cs room = cs := by
  induction cs generalizing room with
  | nil => rfl
  | cons c cs ih =>
    rw [List.length_cons] at h
    rw [leading, if_neg (by omega), ih (by split <;> omega)]

/-- What is kept of the elements at the head are the first ones that are kept at all. -/
theorem filter_leading (cs : List γ) (room : ℕ) :
    (leading keeps' cs room).filter keeps' = (cs.filter keeps').take room := by
  induction cs generalizing room with
  | nil => rw [leading, List.filter_nil, List.take_nil]
  | cons c cs ih =>
    cases room with
    | zero => rfl
    | succ room =>
      rw [leading, if_neg (Nat.succ_ne_zero room)]
      by_cases hc : keeps' c = true
      · simp [hc, ih]
      · simp [hc, ih]

end Leading

/-- The structures at the head that there are blocks for are used one by one, and some of them are
kept. -/
theorem collectStructs_eq {fill : β → Iter → Option α} {keep : α → Bool}
    (hkeeps : ∀ pos block fields a, alloc pos = some block → fill block fields = some a →
      keep a = keeps fields)
    (hcount : count < max) :
    collectStructs alloc fill keep max pos count (structs.map .struct) =
      (((leading (fun p => keeps p.1) (structs.zipIdx pos) (max - count)).takeWhile fun p =>
          (alloc p.2).isSome).mapM fun p => (alloc p.2).bind fun block => fill block p.1).map
        (List.filter keep) := by
  induction structs generalizing pos count with
  | nil => simp [collectStructs, leading]
  | cons fields structs ih =>
    have hroom : max - count ≠ 0 := by omega
    rw [List.map_cons, collectStructs, List.zipIdx_cons, leading, if_neg hroom]
    cases hblock : alloc pos with
    | none => simp [hblock]
    | some block =>
      rw [List.takeWhile_cons_of_pos (by simp [hblock]), List.mapM_cons, hblock]
      simp only [Option.bind_some]
      cases hfill : fill block fields with
      | none => simp
      | some a =>
        have hkeep := hkeeps pos block fields a hblock hfill
        cases hkept : keeps fields with
        | false =>
          rw [hkept] at hkeep
          simp only [Option.bind_some, hkeep, Bool.false_eq_true, if_false, ih hcount, Nat.sub_zero]
          cases ((leading (fun p => keeps p.1) (structs.zipIdx (pos + 1)) (max - count)).takeWhile
              fun p => (alloc p.2).isSome).mapM fun p : Iter × ℕ =>
                (alloc p.2).bind fun block => fill block p.1 <;>
            simp [hkeep]
        | true =>
          rw [hkept] at hkeep
          have hnext : max - count - 1 = max - (count + 1) := by omega
          simp only [Option.bind_some, hkeep, if_true, hnext]
          -- a structure that is kept may be the last one
          by_cases hfull : max ≤ count + 1
          · have hnone : max - (count + 1) = 0 := by omega
            have hnil : leading (fun p => keeps p.1) (structs.zipIdx (pos + 1)) 0 = [] := by
              cases structs <;> rfl
            rw [if_pos hfull, hnone, hnil]
            simp [hkeep]
          · rw [if_neg hfull, ih (by omega)]
            cases ((leading (fun p => keeps p.1) (structs.zipIdx (pos + 1))
                (max - (count + 1))).takeWhile fun p => (alloc p.2).isSome).mapM fun p : Iter × ℕ =>
                  (alloc p.2).bind fun block => fill block p.1 <;>
              simp [hkeep]

end Collect

/-! ## Values described by a signature -/

/-- The type `a(oa{sv})`. -/
abbrev Ty.pathDicts : Ty := .array (.struct [.text .objectPath, .dict])

/-- The fields of a structure `(oa{sv})`, a path and its dictionary. -/
abbrev pathDictFields (p : String × List (String × Value)) : Iter :=
  [.objectPath p.1, dict p.2]

/-- The structure `(oa{sv})` of a path and its dictionary. -/
abbrev pathDict (p : String × List (String × Value)) : Value :=
  .struct (pathDictFields p)

/-- The value of type `a(oa{sv})`. -/
def pathDicts (ps : List (String × List (String × Value))) : Value :=
  .array (.struct [.text .objectPath, .dict]) (ps.map pathDict)

theorem pathDicts_eq (ps : List (String × List (String × Value))) :
    pathDicts ps = .array (.struct [.text .objectPath, .dict])
      ((ps.map pathDictFields).map .struct) := by
  rw [pathDicts, List.map_map]
  rfl

/-- The loop that writes every structure headed by a path to the next of `max` places, without
looking whether there is one. -/
def collectUnchecked {α : Type} (decode : ℕ → Iter → Option α) (max : ℕ) :
    Iter → List α → Option (List α)
  | .struct fields :: it, as =>
    if Iter.argType fields = .text .objectPath then
      if as.length < max then
        (decode as.length fields).bind fun a => collectUnchecked decode max it (as ++ [a])
      else none
    else collectUnchecked decode max it as
  | _, as => some as

/-- What is projected from the structures can be projected before they are collected. -/
theorem collectUnchecked_map {α β : Type} {decode : ℕ → Iter → Option α}
    {decode' : ℕ → Iter → Option β} {f : α → β} {max : ℕ}
    (h : ∀ i fields, (decode i fields).map f = decode' i fields) (it : Iter) (as : List α) :
    (collectUnchecked decode max it as).map (List.map f) =
      collectUnchecked decode' max it (as.map f) := by
  induction it generalizing as with
  | nil => rfl
  | cons v it ih =>
    cases v with
    | struct fields =>
      simp only [collectUnchecked, List.length_map]
      by_cases hpath : Iter.argType fields = .text .objectPath
      · rw [if_pos hpath, if_pos hpath]
        by_cases hroom : as.length < max
        · rw [if_pos hroom, if_pos hroom, ← h]
          cases decode as.length fields with
          | none => rfl
          | some a => simp [ih]
        · rw [if_neg hroom, if_neg hroom, Option.map_none]
      · rw [if_neg hpath, if_neg hpath, ih]
    | _ => rfl

/-- The loop is defined exactly if there are places enough and each structure can be
decoded. -/
theorem isSome_collectUnchecked_iff {α : Type} {decode : ℕ → Iter → Option α}
    {reads : Iter → Bool} {max : ℕ} (h : ∀ i fields, (decode i fields).isSome = reads fields)
    (ps : List (String × List (String × Value))) (as : List α) (has : as.length ≤ max) :
    (collectUnchecked decode max (ps.map pathDict) as).isSome = true ↔
      as.length + ps.length ≤ max ∧ ∀ p ∈ ps, reads [.objectPath p.1, dict p.2] = true := by
  induction ps generalizing as with
  | nil => simpa [collectUnchecked] using has
  | cons p ps ih =>
    have hhead := h as.length [.objectPath p.1, dict p.2]
    simp only [List.map_cons, collectUnchecked, Iter.argType, if_true]
    by_cases hroom : as.length < max
    · rw [if_pos hroom]
      cases hdecode : decode as.length [.objectPath p.1, dict p.2] with
      | none =>
        rw [hdecode] at hhead
        have hunreadable : ¬ reads [.objectPath p.1, dict p.2] = true := by simp [← hhead]
        simp [hunreadable]
      | some a =>
        rw [hdecode] at hhead
        have hreadable : reads [.objectPath p.1, dict p.2] = true := by simp [← hhead]
        have htail := ih (as ++ [a]) (by simpa using Nat.succ_le_of_lt hroom)
        simp only [List.length_append, List.length_singleton] at htail
        simp [hreadable, htail, Nat.add_assoc, Nat.add_comm 1]
    · -- the write past the last place
      simp only [if_neg hroom, Option.isSome_none, Bool.false_eq_true, false_iff]
      rintro ⟨hlength, -⟩
      simp only [List.length_cons] at hlength
      omega

theorem length_of_mapM_eq_some {α β : Type} {f : α → Option β} {as : List α} {bs : List β}
    (h : as.mapM f = some bs) : bs.length = as.length := by
  induction as generalizing bs with
  | nil =>
    cases h
    rfl
  | cons a as ih =>
    simp only [List.mapM_cons, Option.bind_eq_bind, Option.bind_eq_some_iff] at h
    obtain ⟨b, -, bs', hbs, hcons⟩ := h
    cases hcons
    rw [List.length_cons, List.length_cons, ih hbs]

/-- Each element is what the function yields for the one in its place. -/
theorem getElem?_of_mapM_eq_some {α β : Type} {f : α → Option β} {as : List α} {bs : List β}
    (h : as.mapM f = some bs) (i : ℕ) : bs[i]? = as[i]?.bind f := by
  induction as generalizing bs i with
  | nil =>
    cases h
    rfl
  | cons a as ih =>
    simp only [List.mapM_cons, Option.bind_eq_bind, Option.bind_eq_some_iff] at h
    obtain ⟨b, hb, bs', hbs, hcons⟩ := h
    cases hcons
    cases i with
    | zero => exact hb.symm
    | succ i => exact ih hbs i

theorem isSome_mapM_iff {α β : Type} {f : α → Option β} {as : List α} :
    (as.mapM f).isSome = true ↔ ∀ a ∈ as, (f a).isSome = true := by
  induction as with
  | nil => simp
  | cons a as ih =>
    rw [List.mapM_cons, List.forall_mem_cons, ← ih]
    cases f a with
    | none => simp
    | some b => cases as.mapM f <;> simp

/-- Applying a partial function to all elements yields the expected list exactly if it yields
every expected element. -/
theorem mapM_eq_some_map_iff {α β : Type} {f : α → Option β} {g : α → β} {as : List α} :
    as.mapM f = some (as.map g) ↔ ∀ a ∈ as, f a = some (g a) := by
  induction as with
  | nil => simp
  | cons a as ih =>
    rw [List.mapM_cons, List.map_cons, List.forall_mem_cons, ← ih]
    cases f a with
    | none => simp
    | some b =>
      cases as.mapM f with
      | none => simp
      | some bs => simp

/-- The loop decodes the structures one by one, each for the place it is written to. With one
structure too many it writes past the last place, if it gets there. -/
theorem collectUnchecked_eq {α : Type} {decode : ℕ → Iter → Option α} {max : ℕ}
    (ps : List (String × List (String × Value))) (as : List α) (has : as.length ≤ max) :
    collectUnchecked decode max (ps.map pathDict) as =
      if as.length + ps.length ≤ max then
        ((ps.zipIdx as.length).mapM fun p => decode p.2 (pathDictFields p.1)).map (as ++ ·)
      else none := by
  induction ps generalizing as with
  | nil => simp [collectUnchecked, has]
  | cons p ps ih =>
    have hsum : as.length + (p :: ps).length = as.length + 1 + ps.length := by
      rw [List.length_cons]
      omega
    rw [hsum]
    simp only [List.map_cons, collectUnchecked, Iter.argType, if_true]
    by_cases hroom : as.length < max
    · rw [if_pos hroom, List.zipIdx_cons, List.mapM_cons]
      have htail : ∀ a, collectUnchecked decode max (ps.map pathDict) (as ++ [a]) =
          if as.length + 1 + ps.length ≤ max then
            ((ps.zipIdx (as.length + 1)).mapM fun p => decode p.2 (pathDictFields p.1)).map
              (as ++ [a] ++ ·)
          else none := by
        intro a
        have hlen : (as ++ [a]).length = as.length + 1 := by simp
        rw [ih (as ++ [a]) (by omega), hlen]
      simp only [htail]
      split
      · cases decode as.length [.objectPath p.1, dict p.2] with
        | none => simp
        | some a =>
          cases (ps.zipIdx (as.length + 1)).mapM fun p => decode p.2 (pathDictFields p.1) <;> simp
      · simp
    · rw [if_neg hroom, if_neg (by omega)]

/-- Where it does not matter which place a structure is written to, and there are places enough,
the loop decodes the structures one by one. -/
theorem collectUnchecked_eq_mapM {α : Type} {decode : Iter → Option α} {max : ℕ}
    (ps : List (String × List (String × Value))) (as : List α)
    (h : as.length + ps.length ≤ max) :
    collectUnchecked (fun _ => decode) max (ps.map pathDict) as =
      (ps.mapM fun p => decode (pathDictFields p)).map (as ++ ·) := by
  have hplaces : ((ps.zipIdx as.length).mapM fun p => decode (pathDictFields p.1)) =
      ps.mapM fun p => decode (pathDictFields p) := by
    conv_rhs => rw [← List.zipIdx_map_fst as.length ps, List.mapM_map]
    rfl
  rw [collectUnchecked_eq ps as (by omega), if_pos h, hplaces]

theorem collectUnchecked_eq_none {α : Type} {decode : ℕ → Iter → Option α} {max : ℕ}
    (ps : List (String × List (String × Value))) (as : List α)
    (h : max < as.length + ps.length) (has : as.length ≤ max) :
    collectUnchecked decode max (ps.map pathDict) as = none := by
  rw [collectUnchecked_eq ps as has, if_neg (Nat.not_le.mpr h)]

/-- The type `a(a{sv})`. -/
abbrev Ty.dicts : Ty := .array (.struct [.dict])

/-- The value of type `a(a{sv})`. -/
def dicts (ps : List (List (String × Value))) : Value :=
  .array (.struct [.dict]) (ps.map fun p => .struct [dict p])

theorem dicts_eq (ps : List (List (String × Value))) :
    dicts ps = .array (.struct [.dict]) ((ps.map fun p => [dict p]).map .struct) := by
  rw [dicts, List.map_map]
  rfl

/-- The type `ao`. -/
abbrev Ty.paths : Ty := .array (.text .objectPath)

/-- The value of type `ao`. -/
def paths (ps : List String) : Value := .array (.text .objectPath) (ps.map .objectPath)

/-- Where each value of a list is an encoding, the list is the encoding of a list. -/
theorem exists_map_eq {α β : Type} {f : α → β} {bs : List β} (h : ∀ b ∈ bs, ∃ a, b = f a) :
    ∃ as : List α, bs = as.map f := by
  induction bs with
  | nil => exact ⟨[], rfl⟩
  | cons b bs ih =>
    obtain ⟨a, rfl⟩ := h b List.mem_cons_self
    obtain ⟨as, rfl⟩ := ih fun b hb => h b (List.mem_cons_of_mem _ hb)
    exact ⟨a :: as, rfl⟩

/-- A well-typed array is the encoding of a list, if each value of its element type is. -/
theorem exists_array_eq {α : Type} {t : Ty} {f : α → Value} {vs : List Value}
    (elem : ∀ v : Value, v.ty = t → v.typed = true → ∃ a, v = f a)
    (h : (Value.array t vs).typed = true) : ∃ as : List α, vs = as.map f := by
  simp only [Value.typed, Value.allTyped_eq_all, Bool.and_eq_true, List.all_eq_true,
    decide_eq_true_eq] at h
  exact exists_map_eq fun v hv => elem v (h.1 v hv) (h.2 v hv)

theorem exists_entry_eq {v : Value} (h : v.ty = .entry) : ∃ p, v = entry p := by
  obtain ⟨k, w, rfl, hk, hw⟩ := Value.ty_eq_dictEntry_iff.mp h
  obtain ⟨key, rfl⟩ := Value.ty_eq_text_iff.mp hk
  obtain ⟨value, rfl⟩ := Value.ty_eq_variant_iff.mp hw
  exact ⟨(key, value), rfl⟩

theorem exists_dict_eq {v : Value} (h : v.ty = .dict) (ht : v.typed = true) :
    ∃ ps, v = dict ps := by
  obtain ⟨vs, rfl⟩ := Value.ty_eq_array_iff.mp h
  obtain ⟨ps, rfl⟩ := exists_array_eq (fun v hv _ => exists_entry_eq hv) ht
  exact ⟨ps, rfl⟩

theorem exists_pathDict_eq {v : Value} (h : v.ty = .struct [.text .objectPath, .dict])
    (ht : v.typed = true) : ∃ p, v = pathDict p := by
  obtain ⟨vs, rfl, hvs⟩ := Value.ty_eq_struct_iff.mp h
  obtain ⟨p, vs, rfl, hp, hvs⟩ := List.map_eq_cons_iff.mp hvs
  obtain ⟨d, vs, rfl, hd, hvs⟩ := List.map_eq_cons_iff.mp hvs
  obtain rfl := List.map_eq_nil_iff.mp hvs
  simp only [Value.typed, Value.allTyped_eq_all, List.all_cons, List.all_nil, Bool.and_true,
    Bool.and_eq_true] at ht
  obtain ⟨path, rfl⟩ := Value.ty_eq_text_iff.mp hp
  obtain ⟨ps, rfl⟩ := exists_dict_eq hd ht.2
  exact ⟨(path, ps), rfl⟩

namespace Message

theorem args_eq_singleton {m : Message} {t : Ty} (h : m.hasSignature [t] = true) :
    ∃ v, m.args = [v] ∧ v.ty = t ∧ v.typed = true := by
  have htyped := m.typed
  simp only [hasSignature, decide_eq_true_eq] at h
  match hargs : m.args with
  | [v] =>
    rw [hargs] at h htyped
    simp only [List.map_cons, List.map_nil, List.cons.injEq, and_true] at h
    simp only [List.all_cons, List.all_nil, Bool.and_true] at htyped
    exact ⟨v, rfl, h, htyped⟩
  | [] => simp [hargs] at h
  | _ :: _ :: _ => simp [hargs] at h

/-- A message of signature `a{sv}` carries a dictionary. -/
theorem args_eq_of_hasSignature_dict {m : Message} (h : m.hasSignature [.dict] = true) :
    ∃ ps, m.args = [dict ps] := by
  obtain ⟨v, hargs, hty, htyped⟩ := args_eq_singleton h
  obtain ⟨ps, rfl⟩ := exists_dict_eq hty htyped
  exact ⟨ps, hargs⟩

/-- A message of signature `a(oa{sv})` carries a list of paths with dictionaries. -/
theorem args_eq_of_hasSignature_pathDicts {m : Message}
    (h : m.hasSignature [.pathDicts] = true) : ∃ ps, m.args = [pathDicts ps] := by
  obtain ⟨v, hargs, hty, htyped⟩ := args_eq_singleton h
  obtain ⟨vs, rfl⟩ := Value.ty_eq_array_iff.mp hty
  obtain ⟨ps, rfl⟩ := exists_array_eq (fun v hv => exists_pathDict_eq hv) htyped
  exact ⟨ps, hargs⟩

/-- A message of signature `a(a{sv})` carries a list of dictionaries. -/
theorem args_eq_of_hasSignature_dicts {m : Message}
    (h : m.hasSignature [.dicts] = true) : ∃ ps, m.args = [dicts ps] := by
  obtain ⟨v, hargs, hty, htyped⟩ := args_eq_singleton h
  obtain ⟨vs, rfl⟩ := Value.ty_eq_array_iff.mp hty
  have helem : ∀ v : Value, v.ty = .struct [.dict] → v.typed = true →
      ∃ p : List (String × Value), v = .struct [dict p] := by
    intro v hv hvt
    obtain ⟨vs, rfl, hvs⟩ := Value.ty_eq_struct_iff.mp hv
    obtain ⟨d, vs, rfl, hd, hvs⟩ := List.map_eq_cons_iff.mp hvs
    obtain rfl := List.map_eq_nil_iff.mp hvs
    simp only [Value.typed, Value.allTyped_eq_all, List.all_cons, List.all_nil,
      Bool.and_true] at hvt
    obtain ⟨ps, rfl⟩ := exists_dict_eq hd hvt
    exact ⟨ps, rfl⟩
  obtain ⟨ps, rfl⟩ := exists_array_eq helem htyped
  exact ⟨ps, hargs⟩

/-- A message of signature `ao` carries a list of paths. -/
theorem args_eq_of_hasSignature_paths {m : Message}
    (h : m.hasSignature [.paths] = true) : ∃ ps, m.args = [paths ps] := by
  obtain ⟨v, hargs, hty, htyped⟩ := args_eq_singleton h
  obtain ⟨vs, rfl⟩ := Value.ty_eq_array_iff.mp hty
  obtain ⟨ps, rfl⟩ := exists_array_eq (fun v hv _ => Value.ty_eq_text_iff.mp hv) htyped
  exact ⟨ps, hargs⟩

/-- Where a signature describes the encodings of a type, a property of the arguments of such
messages is one of encodings. -/
theorem forall_encoded_iff {α : Type} (encode : α → Value) {m : Message} {t : Ty}
    (hty : ∀ a, (encode a).ty = t) (h : m.hasSignature [t] = true → ∃ a, m.args = [encode a])
    (P : Iter → Prop) :
    (m.hasSignature [t] = true → m.args ≠ [] → P m.args) ↔
      ∀ a, m.args = [encode a] → P [encode a] := by
  constructor
  · intro hP a hargs
    rw [← hargs]
    apply hP
    · simp [hasSignature, hargs, hty]
    · simp [hargs]
  · intro hP hsig _
    obtain ⟨a, hargs⟩ := h hsig
    rw [hargs]
    exact hP a hargs

theorem forall_dict_iff {m : Message} (P : Iter → Prop) :
    (m.hasSignature [.dict] = true → m.args ≠ [] → P m.args) ↔
      ∀ ps, m.args = [dict ps] → P [dict ps] :=
  forall_encoded_iff dict (fun _ => rfl) args_eq_of_hasSignature_dict P

theorem forall_pathDicts_iff {m : Message} (P : Iter → Prop) :
    (m.hasSignature [.pathDicts] = true → m.args ≠ [] → P m.args) ↔
      ∀ ps, m.args = [pathDicts ps] → P [pathDicts ps] :=
  forall_encoded_iff pathDicts (fun _ => rfl) args_eq_of_hasSignature_pathDicts P

theorem forall_dicts_iff {m : Message} (P : Iter → Prop) :
    (m.hasSignature [.dicts] = true → m.args ≠ [] → P m.args) ↔
      ∀ ps, m.args = [dicts ps] → P [dicts ps] :=
  forall_encoded_iff dicts (fun _ => rfl) args_eq_of_hasSignature_dicts P

end Message

end DBus
