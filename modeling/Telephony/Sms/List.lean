import Mathlib.Data.List.Induction
import Telephony.Dictionary
import Telephony.Ledger
import Telephony.Sms.Reply

/-!
# The messages of a card

`message_list_query_complete` lists the messages of a card in an array on the stack. It clears
nothing: a place of the array is only changed by the properties that a message has. Behind the
callback it frees the four texts of every place that it has counted, be they copies that it has
made or whatever the place has held before.

## Main definitions

* `Sms.placeMessages` — the places of the array, with the strings that they point to
* `Sms.ledger` — the copies that are made, and the strings that are freed
* `Sms.ListsMessages` — the messages are delivered, and exactly the copies are freed

## Main results

* `Sms.decodeMessageList_eq` — what the callback sees of the places
* `Sms.listsMessages_iff` — that is so exactly if the array is long enough, and every text that a
  message lacks is NULL in its place
-/

namespace Telephony.Sms

open DBus Ledger

/-! ## Places -/

/-- The texts of a message. -/
inductive TextField
  | sender | text | sentTime | localSentTime
  deriving DecidableEq, Repr

namespace TextField

/-- The texts in the order in which they are freed. -/
def all : List TextField := [.sender, .text, .sentTime, .localSentTime]

def key : TextField → String
  | sender => "To"
  | text => "Text"
  | sentTime | localSentTime => "Date"

def get (info : MessageInfo) : TextField → CString
  | sender => info.sender
  | text => info.text
  | sentTime => info.sentTime
  | localSentTime => info.localSentTime

def set (c : CString) (info : MessageInfo) : TextField → MessageInfo
  | sender => { info with sender := c }
  | text => { info with text := c }
  | sentTime => { info with sentTime := c }
  | localSentTime => { info with localSentTime := c }

end TextField

/-- A string that a place of the array points to: one of the copies that have been made for its
message, or what the place has pointed to before. -/
structure StringBlock where
  message : ℕ
  field : TextField
  copy : Option ℕ
  deriving DecidableEq, Repr

/-- A pointer to a text. -/
structure Held where
  value : CString
  block : Option StringBlock
  deriving DecidableEq, Repr

/-- A place of the array, and the copies that have been made for it. -/
structure Place where
  held : TextField → Held
  smsType : ℤ
  copied : List StringBlock

namespace Place

/-- What the callback sees of a place. -/
def info (place : Place) : MessageInfo where
  text := (place.held .text).value
  sender := (place.held .sender).value
  sentTime := (place.held .sentTime).value
  localSentTime := (place.held .localSentTime).value
  smsType := place.smsType

theorem get_info (place : Place) (f : TextField) : f.get place.info = (place.held f).value := by
  cases f <;> rfl

/-- A place of the array as the stack has left it. -/
def stale (heap : Heap) (i : ℕ) : Place where
  held f :=
    { value := f.get (heap.messageList i)
      block := if f.get (heap.messageList i) = .null then none else some ⟨i, f, none⟩ }
  smsType := (heap.messageList i).smsType
  copied := []

/-- A pointer is set to what `strdup0` yields. -/
def setCopy (heap : Heap) (i : ℕ) (f : TextField) (s : String) (place : Place) : Place :=
  let block : StringBlock := ⟨i, f, some (place.copied.countP fun b => b.field = f)⟩
  if heap.strdup then
    { place with
      held := Function.update place.held f ⟨.text s, some block⟩
      copied := place.copied ++ [block] }
  else { place with held := Function.update place.held f ⟨.null, none⟩ }

theorem held_setCopy_of_ne {heap : Heap} {i : ℕ} {f f' : TextField} (h : f' ≠ f) (s : String)
    (place : Place) : (place.setCopy heap i f s).held f' = place.held f' := by
  rw [setCopy]
  split <;> exact Function.update_of_ne h _ _

theorem value_setCopy (heap : Heap) (i : ℕ) (f : TextField) (s : String) (place : Place) :
    ((place.setCopy heap i f s).held f).value = heap.copy s := by
  rw [setCopy, Heap.copy]
  split <;> simp

@[simp] theorem smsType_setCopy (heap : Heap) (i : ℕ) (f : TextField) (s : String)
    (place : Place) : (place.setCopy heap i f s).smsType = place.smsType := by
  rw [setCopy]
  split <;> rfl

/-- The callback sees a copy of the text. -/
theorem info_setCopy (heap : Heap) (i : ℕ) (f : TextField) (s : String) (place : Place) :
    (place.setCopy heap i f s).info = f.set (heap.copy s) place.info := by
  cases f <;> simp [info, TextField.set, value_setCopy, held_setCopy_of_ne]

end Place

/-- The properties that `decode_message_info` knows, with the copies that it makes. -/
def placeProperties (heap : Heap) (i : ℕ) : PropertyTable Place :=
  [("Type", .int fun n place => { place with smsType := n }),
    ("To", .text fun s place => place.setCopy heap i .sender s),
    ("Text", .text fun s place => place.setCopy heap i .text s),
    ("Date", .text fun s place =>
      (place.setCopy heap i .sentTime s).setCopy heap i .localSentTime s)]

/-- `decode_message_info`, into the place with an index. -/
def placeMessage (heap : Heap) (i : ℕ) (iter : Iter) : Option Place :=
  iter.next.recurse.bind fun properties =>
    (placeProperties heap i).readAll properties (.stale heap i)

/-- The places that the loop of `message_list_query_complete` fills. -/
def placeMessages (heap : Heap) (args : Iter) : Option (List Place) :=
  args.recurse.bind fun list => collectUnchecked (placeMessage heap) maxMessageListCount list []

/-! ## What the callback sees -/

theorem info_fill (heap : Heap) (i : ℕ) (key : String) (value : Iter) (place : Place) :
    ((placeProperties heap i).fill key value place).map Place.info =
      (messageInfoProperties heap.copy).fill key value place.info := by
  have hlookup : ∀ key' : String, key ≠ key' → (key == key') = false := fun _ =>
    beq_false_of_ne
  by_cases htype : key = "Type"
  · subst htype
    cases hn : value.getInt <;>
      simp [PropertyTable.fill, placeProperties, messageInfoProperties, Property.int, hn,
        Place.info]
  by_cases hto : key = "To"
  · subst hto
    cases hs : value.getString <;>
      simp [PropertyTable.fill, placeProperties, messageInfoProperties, List.lookup_cons,
        Property.text, hs, Place.info_setCopy, TextField.set]
  by_cases htext : key = "Text"
  · subst htext
    cases hs : value.getString <;>
      simp [PropertyTable.fill, placeProperties, messageInfoProperties, List.lookup_cons,
        Property.text, hs, Place.info_setCopy, TextField.set]
  by_cases hdate : key = "Date"
  · subst hdate
    cases hs : value.getString <;>
      simp [PropertyTable.fill, placeProperties, messageInfoProperties, List.lookup_cons,
        Property.text, hs, Place.info_setCopy, TextField.set]
  simp [PropertyTable.fill, placeProperties, messageInfoProperties, List.lookup_cons,
    hlookup _ htype, hlookup _ hto, hlookup _ htext, hlookup _ hdate]

theorem info_stale (heap : Heap) (i : ℕ) : (Place.stale heap i).info = heap.messageList i := rfl

theorem info_placeMessage (heap : Heap) (i : ℕ) (iter : Iter) :
    (placeMessage heap i iter).map Place.info =
      decodeMessageInfo heap iter (heap.messageList i) := by
  rw [placeMessage, decodeMessageInfo]
  cases iter.next.recurse with
  | none => rfl
  | some properties =>
    rw [Option.bind_some, Option.bind_some, ← info_stale]
    exact foldDict_map (info_fill heap i) properties (.stale heap i)

/-- The callback sees the texts that the places point to. -/
theorem decodeMessageList_eq (heap : Heap) (args : Iter) :
    decodeMessageList heap args = (placeMessages heap args).map (List.map Place.info) := by
  rw [decodeMessageList, placeMessages]
  cases args.recurse with
  | none => rfl
  | some list =>
    exact (collectUnchecked_map (info_placeMessage heap) list []).symm

/-! ## What is freed -/

/-- The strings that are freed for a place. -/
def Place.freed (place : Place) : List StringBlock :=
  TextField.all.filterMap fun f => (place.held f).block

/-- What becomes of the strings: behind the callback the last place comes first. -/
def ledger (places : List Place) : List (Op StringBlock) :=
  (places.flatMap Place.copied).map .alloc ++ (places.reverse.flatMap Place.freed).map .free

/-- What a message says: a text is a copy of what its key says at last, and NULL without the key. -/
structure Describes (heap : Heap) (ps : List (String × Value)) (info : MessageInfo) : Prop where
  texts : ∀ f : TextField, f.get info =
    ((PropertyTable.valuesOf f.key Iter.getString ps).getLast?.map heap.copy).getD .null
  type : ∀ n, (PropertyTable.valuesOf "Type" Iter.getInt ps).getLast? = some n →
    info.smsType = n

/-- The messages of a reply are delivered in order, no place outside the array is used, and exactly
the copies that have been made are freed. -/
def ListsMessages (handler : AsyncHandler Payload) (message : Message) (heap : Heap)
    (ps : List (String × List (String × Value))) : Prop :=
  ∃ places, placeMessages heap message.args = some places ∧
    messageListQueryComplete handler message heap =
      some (deliver { handler.failing.result with
        arg2 := places.length
        status := ok
        data := .messageList (places.map Place.info) }) ∧
    places.length = ps.length ∧
    (∀ (i : ℕ) p place, ps[i]? = some p → places[i]? = some place →
      Describes heap p.2 place.info) ∧
    Ledger.Balanced (ledger places)

/-- The texts that a message lacks are NULL in its place, and no text comes twice, unless there is
no memory for copies. -/
structure Fills (heap : Heap) (i : ℕ) (ps : List (String × Value)) : Prop where
  reads : (messageInfoProperties .text).readsAll (ps.map entry) = true
  lacks : ∀ f : TextField, f.key ∈ ps.map Prod.fst ∨ f.get (heap.messageList i) = .null
  once : heap.strdup = true → ∀ f : TextField, (ps.map Prod.fst).count f.key ≤ 1

/-! ## What a place holds -/

section Held

variable {heap : Heap} {i : ℕ} {f : TextField} {place place' : Place}

/-- The pointer of a text, and the copies that have been made for it. -/
def Place.pointer (place : Place) (f : TextField) : Held × List StringBlock :=
  (place.held f, place.copied.filter fun b => b.field = f)

/-- What the copy of a text does to its pointer. -/
def copyStep (heap : Heap) (i : ℕ) (f : TextField) (p : Held × List StringBlock) (s : String) :
    Held × List StringBlock :=
  let block : StringBlock := ⟨i, f, some p.2.length⟩
  if heap.strdup then (⟨.text s, some block⟩, p.2 ++ [block]) else (⟨.null, none⟩, p.2)

theorem Place.pointer_setCopy (s : String) :
    (place.setCopy heap i f s).pointer f = copyStep heap i f (place.pointer f) s := by
  rw [Place.pointer, Place.setCopy, copyStep, Place.pointer, List.countP_eq_length_filter]
  split <;> simp [List.filter_append]

theorem Place.pointer_setCopy_of_ne {f' : TextField} (h : f' ≠ f) (s : String) :
    (place.setCopy heap i f s).pointer f' = place.pointer f' := by
  rw [Place.pointer, held_setCopy_of_ne h, Place.pointer, Place.setCopy]
  split
  · simp [List.filter_append, Ne.symm h]
  · rfl

theorem fill_copies {value : Iter}
    (h : (placeProperties heap i).fill f.key value place = some place') :
    ∃ s, value.getString = some s ∧ place'.pointer f = copyStep heap i f (place.pointer f) s := by
  cases f with
  | sender =>
    obtain ⟨s, hs, rfl⟩ := Option.map_eq_some_iff.mp h
    exact ⟨s, hs, Place.pointer_setCopy s⟩
  | text =>
    obtain ⟨s, hs, rfl⟩ := Option.map_eq_some_iff.mp h
    exact ⟨s, hs, Place.pointer_setCopy s⟩
  | sentTime =>
    obtain ⟨s, hs, rfl⟩ := Option.map_eq_some_iff.mp h
    refine ⟨s, hs, ?_⟩
    rw [Place.pointer_setCopy_of_ne (by decide), Place.pointer_setCopy]
  | localSentTime =>
    obtain ⟨s, hs, rfl⟩ := Option.map_eq_some_iff.mp h
    refine ⟨s, hs, ?_⟩
    rw [Place.pointer_setCopy, Place.pointer_setCopy_of_ne (by decide)]

theorem fill_keeps_pointer {key : String} {value : Iter} (hkey : key ≠ f.key)
    (h : (placeProperties heap i).fill key value place = some place') :
    place'.pointer f = place.pointer f := by
  obtain ⟨p, hp, hread⟩ | ⟨-, rfl⟩ := (placeProperties heap i).fill_cases h
  · simp only [placeProperties, List.mem_cons, Prod.mk.injEq, List.not_mem_nil, or_false] at hp
    obtain ⟨rfl, rfl⟩ | ⟨rfl, rfl⟩ | ⟨rfl, rfl⟩ | ⟨rfl, rfl⟩ := hp
    · obtain ⟨n, -, rfl⟩ := Option.map_eq_some_iff.mp hread
      rfl
    · obtain ⟨s, -, rfl⟩ := Option.map_eq_some_iff.mp hread
      exact Place.pointer_setCopy_of_ne (by rintro rfl; exact hkey rfl) s
    · obtain ⟨s, -, rfl⟩ := Option.map_eq_some_iff.mp hread
      exact Place.pointer_setCopy_of_ne (by rintro rfl; exact hkey rfl) s
    · obtain ⟨s, -, rfl⟩ := Option.map_eq_some_iff.mp hread
      rw [Place.pointer_setCopy_of_ne (by rintro rfl; exact hkey rfl),
        Place.pointer_setCopy_of_ne (by rintro rfl; exact hkey rfl)]
  · rfl

/-- What copies one after the other leave behind: the pointer holds the last one. -/
theorem foldl_copyStep (held : Held) (ss : List String) :
    ss.foldl (copyStep heap i f) (held, []) =
      ((ss.getLast?.map fun s =>
          if heap.strdup then ⟨.text s, some ⟨i, f, some (ss.length - 1)⟩⟩
          else ⟨.null, none⟩).getD held,
        if heap.strdup then (List.range ss.length).map fun n => ⟨i, f, some n⟩ else []) := by
  induction ss using List.reverseRecOn with
  | nil => simp
  | append_singleton ss s ih =>
    rw [List.foldl_concat, ih, copyStep]
    split <;> simp [List.range_succ]

variable {p : String × List (String × Value)}

/-- What a message leaves in its place. -/
theorem pointer_of_placeMessage (h : placeMessage heap i (pathDictFields p) = some place) :
    place.pointer f =
      (PropertyTable.valuesOf f.key Iter.getString p.2).foldl (copyStep heap i f)
        ((Place.stale heap i).held f, []) :=
  PropertyTable.readAll_foldl (fun place => place.pointer f)
    (fun _ _ _ => fill_copies) (fun _ _ _ _ => fill_keeps_pointer) h

theorem length_texts (h : placeMessage heap i (pathDictFields p) = some place) :
    (PropertyTable.valuesOf f.key Iter.getString p.2).length =
      (p.2.map Prod.fst).count f.key := by
  refine PropertyTable.length_valuesOf (placeProperties heap i) ?_ h
  intro value place place' hfill
  obtain ⟨s, hs, -⟩ := fill_copies hfill
  exact ⟨s, hs⟩

theorem smsType_of_placeMessage (h : placeMessage heap i (pathDictFields p) = some place) :
    place.smsType = (PropertyTable.valuesOf "Type" Iter.getInt p.2).foldl (fun _ n => n)
      (heap.messageList i).smsType := by
  refine PropertyTable.readAll_foldl Place.smsType ?_ ?_ h
  · intro value place place' hfill
    obtain ⟨n, hn, rfl⟩ := Option.map_eq_some_iff.mp hfill
    exact ⟨n, hn, rfl⟩
  · intro key value place place' hkey hfill
    obtain ⟨p, hp, hread⟩ | ⟨-, rfl⟩ := (placeProperties heap i).fill_cases hfill
    · simp only [placeProperties, List.mem_cons, Prod.mk.injEq, List.not_mem_nil, or_false] at hp
      obtain ⟨rfl, rfl⟩ | ⟨rfl, rfl⟩ | ⟨rfl, rfl⟩ | ⟨rfl, rfl⟩ := hp
      · contradiction
      all_goals
        obtain ⟨s, -, rfl⟩ := Option.map_eq_some_iff.mp hread
        simp
    · rfl

theorem mem_keys_iff (h : placeMessage heap i (pathDictFields p) = some place) :
    f.key ∈ p.2.map Prod.fst ↔ PropertyTable.valuesOf f.key Iter.getString p.2 ≠ [] := by
  rw [← List.count_pos_iff, ← length_texts h, List.length_pos_iff]

/-- The callback is given what the message says exactly if the texts that it lacks are NULL. -/
theorem describes_iff (h : placeMessage heap i (pathDictFields p) = some place) :
    Describes heap p.2 place.info ↔
      ∀ f : TextField, f.key ∈ p.2.map Prod.fst ∨ f.get (heap.messageList i) = .null := by
  -- the last value behind a key is what is there, and without one the place is as it was
  have hvalue : ∀ f : TextField, f.get place.info =
      ((PropertyTable.valuesOf f.key Iter.getString p.2).getLast?.map heap.copy).getD
        (f.get (heap.messageList i)) := by
    intro f
    have hpointer := congrArg Prod.fst (pointer_of_placeMessage (f := f) h)
    rw [foldl_copyStep] at hpointer
    rw [Place.get_info, show place.held f = (place.pointer f).1 from rfl, hpointer]
    cases (PropertyTable.valuesOf f.key Iter.getString p.2).getLast? with
    | none => rfl
    | some s =>
      rw [Option.map_some, Option.getD_some, Option.map_some, Option.getD_some, Heap.copy]
      split <;> rfl
  have hlast : ∀ f : TextField,
      (PropertyTable.valuesOf f.key Iter.getString p.2).getLast? = none ↔
        f.key ∉ p.2.map Prod.fst := by
    intro f
    rw [mem_keys_iff h, not_not, List.getLast?_eq_none_iff]
  constructor
  · intro hdescribes f
    by_cases hkey : f.key ∈ p.2.map Prod.fst
    · exact .inl hkey
    · have hf := hdescribes.texts f
      rw [hvalue, (hlast f).mpr hkey] at hf
      exact .inr hf
  · intro hlacks
    refine ⟨fun f => ?_, fun n hn => ?_⟩
    · rw [hvalue]
      obtain hkey | hnull := hlacks f
      · cases hget : (PropertyTable.valuesOf f.key Iter.getString p.2).getLast? with
        | none => exact absurd hkey ((hlast f).mp hget)
        | some s => rfl
      · rw [hnull]
    · have hfoldl : ∀ (ns : List ℤ) (n₀ : ℤ),
          ns.foldl (fun _ n => n) n₀ = ns.getLast?.getD n₀ := by
        intro ns n₀
        induction ns using List.reverseRecOn with
        | nil => rfl
        | append_singleton ns n _ => simp
      rw [Place.info, smsType_of_placeMessage h, hfoldl, hn, Option.getD_some]

/-- The copies of a text are what its pointer holds exactly if there is one copy at most, and
nothing else that it could hold. -/
theorem perm_pointer_iff (h : placeMessage heap i (pathDictFields p) = some place) :
    (place.pointer f).2.Perm (place.pointer f).1.block.toList ↔
      (f.key ∈ p.2.map Prod.fst ∨ f.get (heap.messageList i) = .null) ∧
        (heap.strdup = true → (p.2.map Prod.fst).count f.key ≤ 1) := by
  rw [mem_keys_iff h, ← length_texts h, pointer_of_placeMessage h, foldl_copyStep]
  generalize PropertyTable.valuesOf f.key Iter.getString p.2 = ss
  cases hlast : ss.getLast? with
  | none =>
    obtain rfl := List.getLast?_eq_none_iff.mp hlast
    by_cases hnull : f.get (heap.messageList i) = .null
    · simp [Place.stale, hnull]
    · simp [Place.stale, hnull]
  | some s =>
    have hne : ss ≠ [] := by
      rintro rfl
      cases hlast
    obtain ⟨n, hn⟩ : ∃ n, ss.length = n + 1 := Nat.exists_eq_succ_of_ne_zero (by simpa using hne)
    cases hstrdup : heap.strdup with
    | false => simp [hne]
    | true =>
      cases n with
      | zero => simp [hn, hne]
      | succ n =>
        -- the first copies are lost
        have hlong : ¬ ss.length ≤ 1 := by omega
        simp only [hlong, if_true, Option.map_some, Option.getD_some, Option.toList_some,
          forall_const, and_false, iff_false]
        intro hperm
        have hlen := hperm.length_eq
        rw [List.length_map, List.length_range, List.length_singleton] at hlen
        omega

/-- The strings of a place carry its index, and those of a pointer its name. -/
theorem tag_of_mem_pointer (h : placeMessage heap i (pathDictFields p) = some place)
    {b : StringBlock} (hb : b ∈ (place.pointer f).2 ∨ (place.pointer f).1.block = some b) :
    b.message = i ∧ b.field = f := by
  rw [pointer_of_placeMessage h, foldl_copyStep] at hb
  generalize PropertyTable.valuesOf f.key Iter.getString p.2 = ss at hb
  obtain hcopy | hheld := hb
  · split at hcopy
    · obtain ⟨n, -, rfl⟩ := List.mem_map.mp hcopy
      exact ⟨rfl, rfl⟩
    · cases hcopy
  · cases hlast : ss.getLast? with
    | none =>
      simp only [hlast, Option.map_none, Option.getD_none, Place.stale] at hheld
      split at hheld
      · cases hheld
      · obtain rfl := Option.some_inj.mp hheld
        exact ⟨rfl, rfl⟩
    | some s =>
      simp only [hlast, Option.map_some, Option.getD_some] at hheld
      split at hheld
      · obtain rfl := Option.some_inj.mp hheld
        exact ⟨rfl, rfl⟩
      · cases hheld

theorem message_of_mem_copied (h : placeMessage heap i (pathDictFields p) = some place)
    {b : StringBlock} (hb : b ∈ place.copied) : b.message = i := by
  have hmem : b ∈ (place.pointer b.field).2 := List.mem_filter.mpr ⟨hb, by simp⟩
  exact (tag_of_mem_pointer h (.inl hmem)).1

theorem mem_freed_iff {b : StringBlock} :
    b ∈ place.freed ↔ ∃ f, (place.pointer f).1.block = some b := by
  rw [Place.freed, List.mem_filterMap]
  refine exists_congr fun f => and_iff_right ?_
  cases f <;> decide

theorem message_of_mem_freed (h : placeMessage heap i (pathDictFields p) = some place)
    {b : StringBlock} (hb : b ∈ place.freed) : b.message = i := by
  obtain ⟨f, hf⟩ := mem_freed_iff.mp hb
  exact (tag_of_mem_pointer h (.inr hf)).1

theorem count_copied (b : StringBlock) :
    place.copied.count b = (place.pointer b.field).2.count b := by
  rw [Place.pointer, List.count_filter (by simp)]

/-- A string is freed for a place if the pointer that it belongs to holds it. -/
theorem count_freed (h : placeMessage heap i (pathDictFields p) = some place) (b : StringBlock) :
    place.freed.count b = (place.pointer b.field).1.block.toList.count b := by
  have hother : ∀ f, f ≠ b.field → (place.held f).block ≠ some b := by
    intro f hf hblock
    exact hf ((tag_of_mem_pointer (f := f) h (.inr hblock)).2).symm
  have hcount : ∀ f, f ≠ b.field → ((place.held f).block.toList).count b = 0 := by
    intro f hf
    rw [List.count_eq_zero, Option.mem_toList]
    exact hother f hf
  have hflat : place.freed = TextField.all.flatMap fun f => (place.held f).block.toList := by
    rw [Place.freed, List.filterMap_eq_flatMap_toList]
  rw [hflat, List.count_flatMap, Place.pointer]
  cases hfield : b.field <;>
    simp [TextField.all, hcount, hfield]

theorem nodup_copied (h : placeMessage heap i (pathDictFields p) = some place) :
    place.copied.Nodup := by
  rw [List.nodup_iff_count_le_one]
  intro b
  rw [count_copied, pointer_of_placeMessage h, foldl_copyStep]
  refine List.nodup_iff_count_le_one.mp ?_ b
  split
  · refine List.nodup_range.map fun n n' heq => ?_
    simpa using heq
  · exact List.nodup_nil

/-- The copies for a place are freed exactly if those of each pointer are. -/
theorem perm_freed_iff (h : placeMessage heap i (pathDictFields p) = some place) :
    place.copied.Perm place.freed ↔
      ∀ f, (place.pointer f).2.Perm (place.pointer f).1.block.toList := by
  constructor
  · intro hperm f
    rw [List.perm_iff_count]
    intro b
    by_cases hb : b.field = f
    · have heq := hperm.count_eq b
      rwa [count_copied, count_freed h, hb] at heq
    · -- the string belongs to another pointer
      have hcopy : (place.pointer f).2.count b = 0 :=
        List.count_eq_zero.mpr fun hmem => hb (tag_of_mem_pointer h (.inl hmem)).2
      have hheld : (place.pointer f).1.block.toList.count b = 0 :=
        List.count_eq_zero.mpr fun hmem =>
          hb (tag_of_mem_pointer h (.inr (Option.mem_toList.mp hmem))).2
      rw [hcopy, hheld]
  · intro hall
    rw [List.perm_iff_count]
    intro b
    rw [count_copied, count_freed h]
    exact (hall b.field).count_eq b

end Held

/-! ## The whole list -/

section List

variable {heap : Heap} {ps : List (String × List (String × Value))} {places : List Place}

theorem placeMessages_pathDicts (heap : Heap) (ps : List (String × List (String × Value))) :
    placeMessages heap [pathDicts ps] =
      if ps.length ≤ maxMessageListCount then
        ps.zipIdx.mapM fun p => placeMessage heap p.2 (pathDictFields p.1)
      else none := by
  have hloop : collectUnchecked (placeMessage heap) maxMessageListCount (ps.map pathDict) [] = _ :=
    collectUnchecked_eq ps [] (Nat.zero_le _)
  rw [List.length_nil, Nat.zero_add] at hloop
  have hrecurse : Iter.recurse [pathDicts ps] = some (ps.map pathDict) := rfl
  rw [placeMessages, hrecurse, Option.bind_some, hloop]
  simp

/-- Each message is in its place. -/
theorem placeMessage_of_getElem? (h : placeMessages heap [pathDicts ps] = some places) {i : ℕ}
    {p : String × List (String × Value)} (hp : ps[i]? = some p) :
    ∃ place, places[i]? = some place ∧ placeMessage heap i (pathDictFields p) = some place := by
  rw [placeMessages_pathDicts] at h
  split at h
  · have hplace := getElem?_of_mapM_eq_some h i
    rw [List.getElem?_zipIdx, hp, Option.map_some, Option.bind_some, Nat.zero_add] at hplace
    have hlt : i < places.length := by
      rw [length_of_mapM_eq_some h, List.length_zipIdx]
      exact (List.getElem?_eq_some_iff.mp hp).1
    exact ⟨places[i], List.getElem?_eq_getElem hlt,
      hplace.symm.trans (List.getElem?_eq_getElem hlt)⟩
  · cases h

theorem length_of_placeMessages (h : placeMessages heap [pathDicts ps] = some places) :
    places.length = ps.length := by
  rw [placeMessages_pathDicts] at h
  split at h
  · rw [length_of_mapM_eq_some h, List.length_zipIdx]
  · cases h

theorem getElem?_of_placeMessages (h : placeMessages heap [pathDicts ps] = some places) {i : ℕ}
    {place : Place} (hplace : places[i]? = some place) :
    ∃ p, ps[i]? = some p ∧ placeMessage heap i (pathDictFields p) = some place := by
  have hlt : i < ps.length := by
    rw [← length_of_placeMessages h]
    exact (List.getElem?_eq_some_iff.mp hplace).1
  obtain ⟨place', hplace', hmessage⟩ := placeMessage_of_getElem? h (List.getElem?_eq_getElem hlt)
  obtain rfl := Option.some_inj.mp (hplace.symm.trans hplace')
  exact ⟨ps[i], List.getElem?_eq_getElem hlt, hmessage⟩

/-- Exactly the copies are freed if each place frees its own. -/
theorem balanced_ledger_iff (h : placeMessages heap [pathDicts ps] = some places) :
    Ledger.Balanced (ledger places) ↔
      ∀ (i : ℕ) place, places[i]? = some place → place.copied.Perm place.freed := by
  rw [ledger, balanced_owners_iff StringBlock.message]
  · refine forall₃_congr fun i place hplace => and_iff_right ?_
    obtain ⟨p, -, hmessage⟩ := getElem?_of_placeMessages h hplace
    exact nodup_copied hmessage
  · intro i place hplace b hb
    obtain ⟨p, -, hmessage⟩ := getElem?_of_placeMessages h hplace
    exact message_of_mem_copied hmessage hb
  · intro i place hplace b hb
    obtain ⟨p, -, hmessage⟩ := getElem?_of_placeMessages h hplace
    exact message_of_mem_freed hmessage hb

/-- A message can be put into any place if its properties are of the types that they are read
as. -/
theorem isSome_placeMessage (heap : Heap) (i : ℕ) (p : String × List (String × Value)) :
    (placeMessage heap i (pathDictFields p)).isSome =
      (messageInfoProperties .text).readsAll (p.2.map entry) := by
  rw [← Option.isSome_map (f := Place.info), info_placeMessage, isSome_decodeMessageInfo]
  rfl

variable {handler : AsyncHandler Payload} {message : Message}

/-- The list is delivered, and exactly its copies are freed, exactly if there is a place for every
message, and every text that a message lacks is NULL in its place. -/
theorem listsMessages_iff (hcb : handler.cbFunction ≠ null) (hreply : message.isError = false)
    (hargs : message.args = [pathDicts ps]) :
    ListsMessages handler message heap ps ↔
      ps.length ≤ maxMessageListCount ∧ ∀ (i : ℕ) p, ps[i]? = some p → Fills heap i p.2 := by
  -- the function is the loop on the messages, as the signature asks for them
  have hrun : messageListQueryComplete handler message heap =
      (decodeMessageList heap [pathDicts ps]).map fun infos =>
        deliver { handler.failing.result with
          arg2 := infos.length, status := ok, data := .messageList infos } := by
    have hcb' : handler.failing.cbFunction ≠ null := hcb
    exact onTypedReply_of_args hcb' hreply hargs rfl
  constructor
  · rintro ⟨places, hplaces, -, -, hdescribes, hbalanced⟩
    rw [hargs] at hplaces
    have hlength : ps.length ≤ maxMessageListCount := by
      by_contra hlong
      rw [placeMessages_pathDicts, if_neg hlong] at hplaces
      cases hplaces
    refine ⟨hlength, fun i p hp => ?_⟩
    obtain ⟨place, hplace, hmessage⟩ := placeMessage_of_getElem? hplaces hp
    have hperm := (perm_freed_iff hmessage).mp
      ((balanced_ledger_iff hplaces).mp hbalanced i place hplace)
    refine ⟨?_, (describes_iff hmessage).mp (hdescribes i p place hp hplace), ?_⟩
    · rw [← isSome_placeMessage heap i, hmessage]
      rfl
    · exact fun hstrdup f => ((perm_pointer_iff hmessage).mp (hperm f)).2 hstrdup
  · rintro ⟨hlength, hfills⟩
    have hsome : (placeMessages heap [pathDicts ps]).isSome = true := by
      rw [placeMessages_pathDicts, if_pos hlength, isSome_mapM_iff]
      intro q hq
      have hp := List.mem_zipIdx_iff_getElem?.mp hq
      rw [isSome_placeMessage]
      exact (hfills q.2 q.1 hp).reads
    obtain ⟨places, hplaces⟩ := Option.isSome_iff_exists.mp hsome
    refine ⟨places, by rw [hargs, hplaces], ?_, length_of_placeMessages hplaces, ?_, ?_⟩
    · rw [hrun, decodeMessageList_eq, hplaces, Option.map_some, Option.map_some, List.length_map]
    · intro i p place hp hplace
      obtain ⟨place', hplace', hmessage⟩ := placeMessage_of_getElem? hplaces hp
      obtain rfl := Option.some_inj.mp (hplace.symm.trans hplace')
      exact (describes_iff hmessage).mpr (hfills i p hp).lacks
    · rw [balanced_ledger_iff hplaces]
      intro i place hplace
      obtain ⟨p, hp, hmessage⟩ := getElem?_of_placeMessages hplaces hplace
      rw [perm_freed_iff hmessage]
      intro f
      exact (perm_pointer_iff hmessage).mpr
        ⟨(hfills i p hp).lacks f, fun hstrdup => (hfills i p hp).once hstrdup f⟩

end List

/-! ## A message without a date -/

/-- A message with a sender and a text. -/
def undated : String × List (String × Value) :=
  ("/ril_0/message_01", [("To", .string "+8610"), ("Text", .string "hi")])

def undatedReply : Message where
  type := .methodReturn
  args := [pathDicts [undated]]
  typed := by decide

/-- A stack that has never been written to. -/
def clearStack : Heap := { Heap.exhausted with strdup := true }

/-- A stack on which the address of a string has been left behind. -/
def usedStack : Heap :=
  { clearStack with messageList := fun _ => ⟨.null, .null, .text "2024", .null, 0⟩ }

def listHandler : AsyncHandler Payload := ⟨⟨0, 0, 0, 0, 0, .null, 0⟩, 1⟩

theorem listsMessages_undatedReply :
    ListsMessages listHandler undatedReply clearStack [undated] :=
  (listsMessages_iff (by decide) rfl rfl).mpr
    ⟨by decide, fun i p hp => by
      obtain ⟨rfl, rfl⟩ : i = 0 ∧ undated = p := by
        cases i with
        | zero => exact ⟨rfl, Option.some_inj.mp hp⟩
        | succ i => cases hp
      exact ⟨by decide, fun f => by cases f <;> decide, fun _ f => by cases f <;> decide⟩⟩

/-- The callback is given what the stack has pointed to for the time, which is then freed. -/
theorem not_listsMessages_undatedReply :
    ¬ ListsMessages listHandler undatedReply usedStack [undated] := by
  rintro ⟨places, hplaces, -, -, hdescribes, -⟩
  obtain ⟨place, hplace, hmessage⟩ := placeMessage_of_getElem? (i := 0) hplaces rfl
  have hlacks := (describes_iff hmessage).mp (hdescribes 0 undated place rfl hplace) .sentTime
  revert hlacks
  decide

end Telephony.Sms
