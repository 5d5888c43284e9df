import Telephony.Reply

/-!
# Replies to phonebook requests

## Main definitions

* `Phonebook.loadAdnEntriesCb`, `Phonebook.loadFdnEntriesCb`, `Phonebook.insertFdnRecordCb`,
  `Phonebook.methodCallComplete` — the reply functions of `tapi_phonebook.c`

## Main results

* `Phonebook.answers_loadAdnEntriesCb_iff`, `Phonebook.answers_loadFdnEntriesCb_iff` — which
  replies are answered
-/

namespace Telephony.Phonebook

open DBus

variable {handler : AsyncHandler Payload} {message : Message} {heap : Heap}

def maxFdnRecordLength : ℕ := 10

/-- `load_adn_entries_cb`. -/
def loadAdnEntriesCb (handler : AsyncHandler Payload) (message : Message) : Option Handling :=
  onReply handler message fun args ar =>
    args.getString.map fun entries => deliver { ar with data := .text entries, status := ok }

/-- The loop of `load_fdn_entries_cb`, at an array of containers. The loop reads the numbers and
texts of an entry where it stands at the entry itself, which is no value that could be read, and
it goes on until it comes to an empty container. It has then counted no entry. -/
def countFdnEntries : Iter → Option ℕ
  | v :: arr =>
    (Iter.recurse [v]).bind fun entry =>
      match entry with
      | [] => some 0
      | .struct _ :: _ => none
      | _ => countFdnEntries arr
  | [] => none

/-- `load_fdn_entries_cb`. What it delivers is the array on its stack. -/
def loadFdnEntriesCb (handler : AsyncHandler Payload) (message : Message) (heap : Heap) :
    Option Handling :=
  onReply handler message fun args ar =>
    args.recurse.bind fun arr =>
      let entries := .fdnEntries ((List.range maxFdnRecordLength).map heap.fdnEntries)
      if arr.argType = .array then
        (countFdnEntries arr).map fun (index : ℕ) =>
          deliver { ar with arg2 := index, data := entries, status := ok }
      else some (deliver { ar with data := entries, status := ok })

/-- `insert_fdn_record_cb`. -/
def insertFdnRecordCb (handler : AsyncHandler Payload) (message : Message) : Option Handling :=
  onIntReply handler message

/-- `method_call_complete`. -/
def methodCallComplete (handler : AsyncHandler Payload) (message : Message) : Option Handling :=
  onStatusReply handler message

/-! ## Which replies are answered -/

theorem answers_loadAdnEntriesCb_iff (hcb : handler.cbFunction ≠ null) :
    Answers message handler.result (loadAdnEntriesCb handler message) ↔
      (message.isError = false → message.args ≠ [] → message.args.isText = true) :=
  answers_onReply_decode_iff hcb fun _ _ => ⟨rfl, rfl, rfl⟩

/-- What is in the container can be passed over: it is not an array, or its loop ends. -/
def readsFdnEntries (args : Iter) : Bool :=
  args.recurse.any fun arr => arr.argType ≠ .array || (countFdnEntries arr).isSome

theorem answers_loadFdnEntriesCb_iff (hcb : handler.cbFunction ≠ null) :
    Answers message handler.result (loadFdnEntriesCb handler message heap) ↔
      (message.isError = false → message.args ≠ [] → readsFdnEntries message.args = true) := by
  refine (answers_onReply_iff hcb).trans ?_
  refine forall₂_congr fun hreply _ => ?_
  unfold readsFdnEntries
  cases message.args.recurse with
  | none => simp
  | some arr =>
    -- only an array is looped over
    by_cases harray : arr.argType = .array
    · simp only [Option.bind_some, Option.any_some, harray, if_true, ne_eq, not_true_eq_false,
        decide_false, Bool.false_or]
      refine answers_map_deliver_iff ?_ hreply
      intro index
      exact ⟨rfl, rfl, rfl⟩
    · simp only [Option.bind_some, Option.any_some, harray, if_false, ne_eq,
        not_false_eq_true, decide_true, Bool.true_or, iff_true]
      exact answers_deliver ⟨rfl, rfl, rfl⟩ hreply

end Telephony.Phonebook
