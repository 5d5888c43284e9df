import Telephony.DBus
import Telephony.Types

/-!
# The context of a connection

`tapi_open` allocates one `dbus_context` for a connection, and every function of the library
receives it. The build configuration fixes how many modems it covers.

## Main definitions

* `Telephony.Config` — the build options the library depends on
* `Telephony.DbusContext` — `dbus_context`
* `Telephony.isValidSlotid` — `tapi_is_valid_slotid`
* `Telephony.tapiUtilsGetModemPath` — `tapi_utils_get_modem_path`
-/

namespace Telephony

open DBus

/-- The radio technologies, with the numbers that the oFono headers give them. -/
structure RadioTech where
  edge : ℤ := 2
  umts : ℤ := 3
  hsdpa : ℤ := 9
  hsupa : ℤ := 10
  hspa : ℤ := 11
  lte : ℤ := 14
  lteCa : ℤ := 19
  deriving DecidableEq, Repr

/-- The build options, and what the oFono headers say about the manager and the radio. -/
structure Config where
  modemActiveCount : ℕ
  modemAbnormalEvent : Bool
  dataLogOverMiwear : Bool
  modemPath : String := "/ril_0"
  /-- Defined only in a build for two modems. -/
  modemPath2 : Option String := some "/ril_1"
  managerPath : String := "/"
  radioTech : RadioTech := {}
  deriving DecidableEq, Repr

/-- `tapi_is_valid_slotid`. -/
def isValidSlotid (cfg : Config) (slotId : ℤ) : Bool :=
  0 ≤ slotId ∧ slotId < cfg.modemActiveCount

/-- `SLOT_NOT_SET`. -/
def slotNotSet : String := "SLOT_NOT_SET"

/-- `tapi_utils_get_modem_path`. Without a second path the case of slot 1 falls through to
the one of the unset slot. -/
def tapiUtilsGetModemPath (cfg : Config) (slotId : ℤ) : Option String :=
  if slotId = 0 then some cfg.modemPath
  else if slotId = 1 then some (cfg.modemPath2.getD slotNotSet)
  else if slotId = -1 then some slotNotSet
  else none

/-- `tapi_utils_get_slot_id`. -/
def tapiUtilsGetSlotId (cfg : Config) (modemPath : String) : ℤ :=
  if modemPath = cfg.modemPath then 0
  else if some modemPath = cfg.modemPath2 then 1
  else -1

/-- `dbus_proxy_type`. -/
inductive ProxyType
  | modem | radio | call | sim | stk | data | sms | cbs | netreg | netmon | callBarring
  | callForwarding | ss | callSetting | ims | phonebook
  deriving DecidableEq, Repr

/-- The content of a `DBusMessage*` field. A word that no assignment has set designates no
message, and using it is undefined. -/
inductive PendingPtr
  | null
  | message (msg : Message)
  | wild

namespace PendingPtr

/-- The pointer is not NULL. -/
def isSet : PendingPtr → Bool
  | .null => false
  | .message _ | .wild => true

@[simp] theorem isSet_null : null.isSet = false := rfl
@[simp] theorem isSet_message (msg : Message) : (message msg).isSet = true := rfl
@[simp] theorem isSet_wild : wild.isSet = true := rfl

end PendingPtr

/-- `dbus_context`. -/
structure DbusContext where
  name : String
  connection : Ptr
  pending : PendingPtr
  client : Ptr
  dbusProxyManager : Ptr
  dbusProxy : ℕ → ProxyType → Ptr
  modemState : ℕ → ℤ
  clientReady : Bool
  loggingOverMiwearCb : Ptr

/-! ## Samples -/

/-- An idle context. -/
def idleContext : DbusContext where
  name := "app"
  connection := 1
  pending := .null
  client := 1
  dbusProxyManager := 1
  dbusProxy _ _ := 1
  modemState _ := 0
  clientReady := true
  loggingOverMiwearCb := null

/-- A build for two modems. -/
def twoModems : Config where
  modemActiveCount := 2
  modemAbnormalEvent := true
  dataLogOverMiwear := false

end Telephony
