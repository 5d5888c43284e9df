import Telephony.Manager.Register
import Telephony.Reply

/-!
# Handling signals

The function of a signal watch gets the handler of its registration with every signal that the
watch asks for. It decodes the signal into the record, which stays with the watch, and calls the
application back if the signal is one that the registration is about.

## Main definitions

* `Telephony.onPropertySignal` — the start of the functions that watch a property
* `Telephony.Keeps` — the record still says where it comes from

## Main results

* `Telephony.keeps_onPropertySignal` and its companions — functions made of these parts keep the
  origin of a record
-/

namespace Telephony

open DBus

/-- A signal with arguments is taken apart by `body`, and one without is dropped. -/
def onSignal (handler : AsyncHandler Payload) (message : Message)
    (body : Iter → AsyncResult Payload → Option Handling) : Option Handling :=
  withCallback handler fun ar =>
    if message.args = [] then some (ignore ar) else body message.args ar

/-- The start of most functions that watch a property: `body` gets its name and its value. -/
def onPropertySignal (handler : AsyncHandler Payload) (message : Message)
    (body : String → Iter → AsyncResult Payload → Option Handling) : Option Handling :=
  onSignal handler message fun args ar =>
    args.getString.bind fun property =>
      args.next.recurse.bind fun var => body property var ar

/-- The check that the registration is for a certain indication. -/
def onlyFor (msg : IndicationMsg) (handler : AsyncHandler Payload) (rest : Option Handling) :
    Option Handling :=
  if handler.result.msgId ≠ msg.value then some (ignore handler.result) else rest

/-- A property with a number for its value is delivered as that number. -/
def deliverInt (var : Iter) (ar : AsyncResult Payload) : Option Handling :=
  var.getInt.map fun n => deliver { ar with arg2 := n, status := ok }

/-- A function that delivers the number of one property, and drops the others. -/
def onIntProperty (handler : AsyncHandler Payload) (message : Message) (name : String) :
    Option Handling :=
  onPropertySignal handler message fun property var ar =>
    if property = name then deliverInt var ar else some (ignore ar)

/-! ## The origin of a record -/

/-- Whatever is done with the record, it still says where it comes from. -/
def Keeps (ar : AsyncResult Payload) (h : Option Handling) : Prop :=
  ∀ r, h = some r → SameOrigin ar r.result

section Keeps

variable {α : Type} {ar ar' : AsyncResult Payload} {handler : AsyncHandler Payload}
  {message : Message}

theorem keeps_none : Keeps ar none := by
  intro r hr
  contradiction

theorem keeps_some {h : Handling} (hsame : SameOrigin ar h.result) : Keeps ar (some h) := by
  rintro r hr
  obtain rfl := Option.some_inj.mp hr
  exact hsame

@[simp] theorem keeps_ignore : Keeps ar (some (ignore ar)) := keeps_some ⟨rfl, rfl, rfl⟩

@[simp] theorem keeps_fail : Keeps ar (some (fail ar)) := keeps_some ⟨rfl, rfl, rfl⟩

theorem Keeps.ite {p : Prop} [Decidable p] {h h' : Option Handling} (hpos : Keeps ar h)
    (hneg : Keeps ar h') : Keeps ar (if p then h else h') := by
  split
  · exact hpos
  · exact hneg

theorem keeps_bind {o : Option α} {body : α → Option Handling}
    (h : ∀ a, Keeps ar (body a)) : Keeps ar (o.bind body) := by
  cases o with
  | none => exact keeps_none
  | some a => exact h a

theorem keeps_map {o : Option α} {fill : α → AsyncResult Payload}
    (h : ∀ a, SameOrigin ar (fill a)) : Keeps ar (o.map fun a => deliver (fill a)) := by
  cases o with
  | none => exact keeps_none
  | some a => exact keeps_some (h a)

theorem keeps_withCallback {body : AsyncResult Payload → Option Handling}
    (h : Keeps handler.result (body handler.result)) :
    Keeps handler.result (withCallback handler body) :=
  keeps_ignore.ite h

theorem keeps_onSignal {body : Iter → AsyncResult Payload → Option Handling}
    (h : ∀ args, Keeps handler.result (body args handler.result)) :
    Keeps handler.result (onSignal handler message body) :=
  keeps_withCallback (keeps_ignore.ite (h _))

theorem keeps_onPropertySignal {body : String → Iter → AsyncResult Payload → Option Handling}
    (h : ∀ property var, Keeps handler.result (body property var handler.result)) :
    Keeps handler.result (onPropertySignal handler message body) :=
  keeps_onSignal fun _ => keeps_bind fun property => keeps_bind fun var => h property var

theorem keeps_deliverInt {var : Iter} : Keeps ar (deliverInt var ar) :=
  keeps_map fun _ => ⟨rfl, rfl, rfl⟩

theorem keeps_onIntProperty {name : String} :
    Keeps handler.result (onIntProperty handler message name) :=
  keeps_onPropertySignal fun _ _ => keeps_deliverInt.ite keeps_ignore

theorem keeps_onlyFor {msg : IndicationMsg} {rest : Option Handling}
    (h : Keeps handler.result rest) : Keeps handler.result (onlyFor msg handler rest) :=
  keeps_ignore.ite h

end Keeps

end Telephony
