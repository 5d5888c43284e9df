import Telephony.Submission

/-!
# Phonebook requests

## Main definitions

* `Phonebook.tapiPhonebookInsertFdnEntry`, … — the requests of `tapi_phonebook.c`, with the
  setup functions that build their messages
-/

namespace Telephony.Phonebook

open DBus Ledger

variable (cfg : Config) (context : Option DbusContext) (slotId eventId : ℤ) (pHandle : Ptr)

/-! ## Setup functions -/

/-- `insert_fdn_record_append`. -/
def insertFdnRecordAppend : UserData → Setup :=
  readingParams
    (fun
      | .fdnRecord _ tag number pin2 =>
        [.text .string tag, .text .string number, .text .string pin2]
      | _ => [])
    []

/-- `delete_fdn_record_append`. -/
def deleteFdnRecordAppend : UserData → Setup :=
  readingParams
    (fun
      | .fdnRecord fdnIdx _ _ pin2 => [.text .string pin2, .value (.int32 fdnIdx)]
      | _ => [])
    []

/-- `update_fdn_record_append`. -/
def updateFdnRecordAppend : UserData → Setup :=
  readingParams
    (fun
      | .fdnRecord fdnIdx tag number pin2 =>
        [.text .string tag, .text .string number, .text .string pin2, .value (.int32 fdnIdx)]
      | _ => [])
    []

/-! ## Requests -/

/-- `tapi_phonebook_load_adn_entries`. -/
def tapiPhonebookLoadAdnEntries : Except ℤ Submission :=
  withProxy cfg context slotId .phonebook unchecked <|
    plainRequest resultThenHandler (.method "Import") (stamp eventId slotId) pHandle
      (fun _ => {}) (some .loadAdnEntriesCb)

/-- `tapi_phonebook_load_fdn_entries`. -/
def tapiPhonebookLoadFdnEntries : Except ℤ Submission :=
  withProxy cfg context slotId .phonebook unchecked <|
    plainRequest resultThenHandler (.method "ImportFdn")
      (fun ar => { stamp eventId slotId ar with arg2 := 0, data := .null }) pHandle
      (fun _ => {}) (some .loadFdnEntriesCb)

/-- `tapi_phonebook_insert_fdn_entry`. The block keeps the index that it has been found with. -/
def tapiPhonebookInsertFdnEntry (foundIdx : ℤ) (name number pin2 : CString) :
    Except ℤ Submission :=
  withProxy cfg context slotId .phonebook
    (unlessInvalid (name.isSet && number.isSet && pin2.isSet)) <|
    ownedRequest paramsThenHandler (.method "InsertFdn") (.fdnRecord foundIdx name number pin2)
      (stamp eventId slotId) pHandle insertFdnRecordAppend .insertFdnRecordCb

/-- `tapi_phonebook_delete_fdn_entry`. -/
def tapiPhonebookDeleteFdnEntry (fdnIdx : ℤ) (pin2 : CString) : Except ℤ Submission :=
  withProxy cfg context slotId .phonebook (unlessInvalid (1 ≤ fdnIdx && pin2.isSet)) <|
    ownedRequest paramsThenHandler (.method "DeleteFdn") (.fdnRecord fdnIdx .wild .wild pin2)
      (stamp eventId slotId) pHandle deleteFdnRecordAppend .phonebookMethodCallComplete

/-- `tapi_phonebook_update_fdn_entry`. -/
def tapiPhonebookUpdateFdnEntry (fdnIdx : ℤ) (newName newNumber pin2 : CString) :
    Except ℤ Submission :=
  withProxy cfg context slotId .phonebook
    (unlessInvalid (1 ≤ fdnIdx && newName.isSet && newNumber.isSet && pin2.isSet)) <|
    ownedRequest paramsThenHandler (.method "UpdateFdn")
      (.fdnRecord fdnIdx newName newNumber pin2) (stamp eventId slotId) pHandle
      updateFdnRecordAppend .phonebookMethodCallComplete

end Telephony.Phonebook
