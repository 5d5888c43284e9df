import Telephony.Machine
import Telephony.DBus
import Telephony.Types
import Telephony.Context
import Telephony.Payload
import Telephony.Strings
import Telephony.Reply
import Telephony.Manager.Open
import Telephony.Manager.Register
import Telephony.Manager.Session
import Telephony.Signal
import Telephony.Call.Reply
import Telephony.Call.Signal
import Telephony.Call.Calls
import Telephony.Cbs.Signal
import Telephony.Ims.Signal
import Telephony.Manager.Signal
import Telephony.Sim.Signal
import Telephony.Sms.Signal
import Telephony.Ss.Signal
import Telephony.SignalFunction
import Telephony.Data.Reply
import Telephony.Data.Signal
import Telephony.Manager.Reply
import Telephony.Network.Reply
import Telephony.Network.Signal
import Telephony.Phonebook.Reply
import Telephony.Sim.Reply
import Telephony.Sms.Reply
import Telephony.Ss.Reply
import Telephony.Delivery
import Telephony.Stk.Agent
import Telephony.Stk.Handled
import Telephony.Stk.Answer
import Telephony.Stk.System
import Telephony.Stk.Serviceable
import Telephony.Stk.Pending
import Telephony.Stk.Isolation
import Telephony.Stk.Signature
import Telephony.Stk.Menu
import Telephony.Ledger
import Telephony.ReplyFunction
import Telephony.Submission
import Telephony.Call.Request
import Telephony.Data.Request
import Telephony.Manager.Request
import Telephony.Network.Request
import Telephony.Phonebook.Request
import Telephony.Sim.Request
import Telephony.Sms.Request
import Telephony.Ss.Request
import Telephony.Stk.Request
import Telephony.Request
import Telephony.Encoding
import Telephony.Ownership
import Telephony.Outstanding
import Telephony.Origin
import Telephony.Determined
import Telephony.Properties
import Telephony.Ecc.RoundTrip
import Telephony.Ecc.Shared
import Telephony.Manager.Lifetime
import Telephony.Manager.Proxies
import Telephony.Cells
import Telephony.Dictionary
import Telephony.Fields
import Telephony.Order
import Telephony.Data.Settings
import Telephony.Network.Nitz
import Telephony.Sim.Operator
import Telephony.Network.Roaming
import Telephony.Ecc.Search
import Telephony.Ecc.Robust
import Telephony.Sms.List
import Telephony.Loop
import Telephony.Data.Active
import Telephony.Lists
import Telephony.Sim.Apdu
import Telephony.Data.Enable
import Telephony.Manager.CarrierConfig
import Telephony.Phonebook.Fdn
import Telephony.Manager.PhoneNumber
import Telephony.History
import Telephony.Data.Changed
import Telephony.Ss.CallBarring
import Telephony.Manager.OemStrings
import Telephony.Sms.CoveredPlmn
import Telephony.Hex
import Telephony.Tool.HexString
import Telephony.Getters
import Telephony.Latest
import Telephony.Manager.Support
import Telephony.Reach
import Telephony.Client
import Telephony.Polling
import Telephony.Setters
import Telephony.Readback
import Telephony.Ims.Registration
import Telephony.Tenants
import Telephony.Holdings
import Telephony.Commands
import Telephony.Call.Control
import Telephony.Network.Selection
import Telephony.Data.Editing
import Telephony.Tool.Input
import Telephony.Tool.Session
import Telephony.Tool.Sending
import Telephony.References
import Telephony.Asking
