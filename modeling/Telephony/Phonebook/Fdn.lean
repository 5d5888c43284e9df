import Telephony.Request

/-!
# The entries of fixed dialing

A request imports the fixed dialing numbers of the card. They come as an array of structures, and
the application is to get the first ten of them.

## Main definitions

* `Phonebook.CarriesFdn` — a reply carries an array of entries
* `Phonebook.DeliversFdn` — the first ten entries are delivered, with their number

## Main results

* `Phonebook.loadFdnEntriesCb_of_carriesFdn` — what the reply function delivers: it takes the first
  structure for the array, and does not enter it
* `Phonebook.deliversFdn_iff` — from which array on that is wrong
-/

namespace Telephony.Phonebook

open DBus Ledger

/-- An entry of a reply: its record, its tag and its number. -/
abbrev FdnRecord := ℤ × String × String

/-- The structure of an entry. -/
def fdnStruct : FdnRecord → Value
  | (fdnIdx, tag, number) => .struct [.int32 fdnIdx, .string tag, .string number]

/-- What the application is to get of an entry. -/
def fdnEntry : FdnRecord → FdnEntry
  | (fdnIdx, tag, number) => ⟨fdnIdx, .text tag, .text number⟩

/-- The type of an array of entries. -/
def fdnTy : Ty := .struct [.fixed .int32, .text .string, .text .string]

/-- The reply is no error, and its first argument is the array of the entries. -/
structure CarriesFdn (message : Message) (records : List FdnRecord) : Prop where
  reply : message.isError = false
  args : ∃ rest, message.args = .array fdnTy (records.map fdnStruct) :: rest

/-- The application is called back with status OK, with the first ten entries in their order, and
with their number. -/
def DeliversFdn (s : Submission) (granted : Block → Bool) (block : AsyncResult Payload)
    (message : Message) (heap : Heap) (records : List FdnRecord) : Prop :=
  ∃ handler ar entries, s.userData granted block = .handler handler ∧
    loadFdnEntriesCb handler message heap = some (deliver ar) ∧ ar.status = ok ∧
    ar.arg2 = min records.length maxFdnRecordLength ∧ ar.data = .fdnEntries entries ∧
    entries.take (min records.length maxFdnRecordLength) =
      (records.take maxFdnRecordLength).map fdnEntry

/-- The handler that `tapi_phonebook_load_fdn_entries` makes. -/
def fdnHandler (slotId eventId : ℤ) (pHandle : Ptr) (block : AsyncResult Payload) :
    AsyncHandler Payload :=
  ⟨{ stamp eventId slotId block with arg2 := 0, data := .null }, pHandle⟩

section

variable {handler : AsyncHandler Payload} {message : Message} {heap : Heap}
  {records : List FdnRecord} {cfg : Config} {context : Option DbusContext} {slotId eventId : ℤ}
  {pHandle : Ptr} {s : Submission} {granted : Block → Bool} {block : AsyncResult Payload}

/-- The number of entries is left as the request has set it, and the entries are those that the
stack holds. -/
theorem loadFdnEntriesCb_of_carriesFdn (hcb : handler.cbFunction ≠ null)
    (h : CarriesFdn message records) :
    loadFdnEntriesCb handler message heap = some (deliver { handler.result with
      data := .fdnEntries ((List.range maxFdnRecordLength).map heap.fdnEntries)
      status := ok }) := by
  obtain ⟨rest, hargs⟩ := h.args
  -- inside the array the iterator stands at a structure, or at the end
  have hentered : (Iter.argType (records.map fdnStruct)) ≠ .array := by
    cases records with
    | nil => simp [Iter.argType]
    | cons record records => simp [fdnStruct, Iter.argType]
  rw [loadFdnEntriesCb, onReply, withCallback, if_neg hcb]
  simp [h.reply, hargs, Iter.recurse, hentered]

theorem userData_of_tapiPhonebookLoadFdnEntries
    (h : tapiPhonebookLoadFdnEntries cfg context slotId eventId pHandle = .ok s)
    (granted : Block → Bool) (block : AsyncResult Payload) :
    s.userData granted block = .handler (fdnHandler slotId eventId pHandle block) :=
  Request.of_withProxy
    (p := fun s => s.userData granted block = .handler (fdnHandler slotId eventId pHandle block))
    unchecked h fun _ => rfl

/-- The entries of a reply are delivered exactly if there are none. -/
theorem deliversFdn_iff (h : tapiPhonebookLoadFdnEntries cfg context slotId eventId pHandle = .ok s)
    (hcb : pHandle ≠ null) (granted : Block → Bool) (block : AsyncResult Payload) (heap : Heap)
    (hmessage : CarriesFdn message records) :
    DeliversFdn s granted block message heap records ↔ records = [] := by
  have huser := userData_of_tapiPhonebookLoadFdnEntries h granted block
  have hrun : loadFdnEntriesCb (fdnHandler slotId eventId pHandle block) message heap = some
      (deliver { (fdnHandler slotId eventId pHandle block).result with
        data := .fdnEntries ((List.range maxFdnRecordLength).map heap.fdnEntries)
        status := ok }) :=
    loadFdnEntriesCb_of_carriesFdn hcb hmessage
  constructor
  · rintro ⟨handler, ar, entries, hhandler, hdelivered, -, hcount, -, -⟩
    obtain rfl := UserData.handler.inj (huser.symm.trans hhandler)
    rw [hrun, Option.some_inj] at hdelivered
    -- the number that is delivered is the 0 of the request
    have hzero : 0 = ar.arg2 := congrArg (fun r : Handling => r.result.arg2) hdelivered
    rw [← List.length_eq_zero_iff]
    simp only [maxFdnRecordLength] at hcount
    omega
  · rintro rfl
    exact ⟨_, _, _, huser, hrun, rfl, rfl, rfl, rfl⟩

end

/-- A reply with one entry. -/
def oneEntryReply : Message where
  type := .methodReturn
  args := [.array fdnTy [fdnStruct (1, "Home", "112")]]

/-- A reply without an entry. -/
def noEntryReply : Message where
  type := .methodReturn
  args := [.array fdnTy []]

/-- What is handed over by a request that passes its checks. -/
def sampleFdnRequest : Submission :=
  plainRequest resultThenHandler (.method "ImportFdn")
    (fun ar => { stamp 7 0 ar with arg2 := 0, data := .null }) 1 (fun _ => {})
    (some .loadFdnEntriesCb) 1

theorem tapiPhonebookLoadFdnEntries_sample :
    tapiPhonebookLoadFdnEntries twoModems (some idleContext) 0 7 1 = .ok sampleFdnRequest := rfl

/-- The only entry is not delivered. -/
theorem not_deliversFdn_oneEntryReply :
    ¬ DeliversFdn sampleFdnRequest (fun _ => true) Request.sampleBlock oneEntryReply Heap.exhausted
      [(1, "Home", "112")] := by
  rintro ⟨handler, ar, entries, hhandler, hrun, -, hcount, -, -⟩
  obtain rfl := UserData.handler.inj hhandler
  have hdelivered := Option.some_inj.mp hrun
  have hzero : 0 = ar.arg2 := congrArg (fun r : Handling => r.result.arg2) hdelivered
  rw [hcount] at hzero
  contradiction

theorem deliversFdn_noEntryReply :
    DeliversFdn sampleFdnRequest (fun _ => true) Request.sampleBlock noEntryReply Heap.exhausted
      [] :=
  (deliversFdn_iff tapiPhonebookLoadFdnEntries_sample (by decide) _ _ _
    ⟨rfl, [], rfl⟩).mpr rfl

end Telephony.Phonebook
