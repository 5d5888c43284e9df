import Telephony.Reply

/-!
# Replies to SIM requests

## Main definitions

* `Sim.methodCallComplete`, `Sim.openLogicalChannelCb`, `Sim.transmitApduCb` — the reply
  functions of `tapi_sim.c`
-/

namespace Telephony.Sim

open DBus

/-- `method_call_complete`. -/
def methodCallComplete (handler : AsyncHandler Payload) (message : Message) : Option Handling :=
  onStatusReply handler message

/-- `open_logical_channel_cb`. -/
def openLogicalChannelCb (handler : AsyncHandler Payload) (message : Message) :
    Option Handling :=
  onIntReply handler message

/-- `transmit_apdu_cb`. -/
def transmitApduCb (handler : AsyncHandler Payload) (message : Message) : Option Handling :=
  onArrayReply handler message

end Telephony.Sim
