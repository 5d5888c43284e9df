import Telephony.Client
import Telephony.Properties

/-!
# Polling and watching

An application can learn about a property in two ways: it can register for its changes, and it can
ask a getter for it. The callbacks decode the value that a signal carries, and the getters the
value that the proxy keeps, each with code of their own.

## Main definitions

* `Telephony.IndicationMsg.slotAt` — the proxy that has the properties of an indication
* `Telephony.observe` — the watches and the client get what comes from the bus
* `Telephony.Polls` — the getters return what a record shows

## Main results

* `Telephony.polls_isLatest` — at any time, the getters return what the latest callback has shown,
  if their proxy has not been made again since
-/

namespace Telephony

open DBus Machine Manager Sim Request

/-! ## Proxies and signals -/

/-- The proxies that have the properties of an interface. The manager has its own. -/
def Interface.column : Interface → Option ProxyType
  | .manager => none
  | .modem => some .modem
  | .voicecallManager => some .call
  | .networkRegistration => some .netreg
  | .netmon => some .netmon
  | .connectionManager => some .data
  | .simManager => some .sim
  | .messageManager => some .sms
  | .cellBroadcast => some .cbs
  | .ims => some .ims
  | .callBarring => some .callBarring
  | .supplementaryServices => some .ss

theorem Interface.column_injective : Function.Injective Interface.column := by
  intro i j h
  cases i <;> cases j <;> first | rfl | contradiction

/-- The slot whose proxy has the properties of an indication. -/
def IndicationMsg.slotAt (slotId : ℤ) (msg : IndicationMsg) : Slot :=
  match msg.interface.column with
  | none => .manager
  | some type => .cell slotId.toNat type

/-- The slot whose proxy has the properties of the registration. -/
def Registering.slot (r : Registering) : Slot := r.msg.slotAt r.slotId

/-- The property that a signal is about. -/
def PropertySignal.place (sig : PropertySignal) : Place :=
  ((sig.path, sig.interface.column), sig.name)

/-- What comes from the bus. -/
inductive Arrival
  | ready
  | signal (sig : PropertySignal) (filling : Filling)
  | fetch (s : Slot)
  | told (e : ModemChange)

/-- What a client has of it. -/
def Arrival.toClient : Arrival → ClientEvent
  | ready => .ready
  | signal sig f => .announce sig.place sig.value f
  | fetch s => .fetch s
  | told e => .told e

/-- What an application may notice. -/
inductive Observation
  | called (cb : Callback)
  /-- The proxies have been made again, but for those that stay. -/
  | remade

/-- The registration is called back. -/
def Observation.Calls (r : Registering) : Observation → Prop
  | called cb => cb.origin = .watch r
  | remade => False

/-- The registration is called back, or the proxy for its properties is made again. -/
def Observation.Concerns (r : Registering) : Observation → Prop
  | called cb => cb.origin = .watch r
  | remade => r.slot.persistent = false

theorem Observation.Calls.concerns {r : Registering} {o : Observation} (h : o.Calls r) :
    o.Concerns r := by
  cases o with
  | called cb => exact h
  | remade => contradiction

section

variable {W : Type} (cfg : Config) (bits : ℕ) (env : OpenEnv)

/-- Watches and a client get what comes from the bus. -/
def observing (receive : Step W PropertySignal Callback) : Step (W × Client) Arrival Observation :=
  fun s e =>
    let received :=
      match e with
      | .signal sig _ => receive s.1 sig
      | .ready | .fetch _ | .told _ => some (s.1, [])
    received.bind fun r => (s.2.step cfg bits env e.toClient).map fun q =>
      ((r.1, q.1), r.2.map .called ++ q.2.map fun _ => .remade)

/-- All watches get a signal. -/
def observe : Step (List LiveWatch × Client) Arrival Observation :=
  observing cfg bits env (broadcast (LiveWatch.receive cfg))

end

/-! ## The law -/

section

variable (cfg : Config) (property : Properties) (ctx : DbusContext) (slotId : ℤ)
  (ar : AsyncResult Payload)

/-- A getter returns OK and stores the value, whatever its variable held before. -/
def Reads {α : Type} (get : α → Option (ℤ × α)) (a : α) : Prop := ∀ out, get out = some (ok, a)

/-- The getters for the property of an indication return what the record shows. The switch of the
data service is only read in the first slot, and some properties only if there is a card. -/
def Polls : IndicationMsg → Prop
  | .radioStateChange => Reads (tapiGetRadioState cfg property (some ctx) slotId) ar.arg2
  | .airplaneModeChange =>
    Reads (tapiGetRadioPower cfg property (some ctx) slotId) (decide (ar.arg2 ≠ 0))
  | .modemStateChange => Reads (tapiGetModemStatusSync cfg property (some ctx) slotId) ar.arg2
  | .dataEnabledChange =>
    slotId = 0 → Reads (Data.tapiDataGetEnabled property (some ctx)) (decide (ar.arg2 ≠ 0))
  | .dataRegistrationStateChange =>
    Reads (Data.tapiDataIsRegistered cfg property (some ctx) slotId)
      (isStateOf registeredStates ar.arg2) ∧
    Reads (Data.tapiDataIsDataEmergencyOnly cfg property (some ctx) slotId)
      (isStateOf emergencyStates ar.arg2) ∧
    Reads (Data.tapiDataIsDataRoaming cfg property (some ctx) slotId)
      (isStateOf roamingStates ar.arg2)
  | .dataNetworkTypeChange =>
    Reads (Data.tapiDataGetNetworkType cfg property (some ctx) slotId) ar.arg2
  | .defaultDataSlotChange => Reads (Data.tapiDataGetDefaultSlot cfg property (some ctx)) ar.arg2
  | .defaultVoicecallSlotChange =>
    Reads (Call.tapiCallGetDefaultSlot cfg property (some ctx)) ar.arg2
  | .defaultSmsSlotChanged => Reads (Sms.tapiSmsGetDefaultSlot cfg property (some ctx)) ar.arg2
  | .simStateChange => Reads (tapiSimGetSimState cfg property (some ctx) slotId) ar.arg2
  | .simUiccAppEnabledChange => storedIccCard cfg property (some ctx) slotId = some true →
    Reads (tapiSimGetUiccEnablement cfg property (some ctx) slotId) ar.arg2
  | .simIccidChange => storedIccCard cfg property (some ctx) slotId = some true →
    ∃ s, ar.data = .text s ∧ Reads (tapiSimGetSimIccid cfg property (some ctx) slotId) (.text s)
  | _ => True

end

/-! ## What the watches emit -/

section

variable {cfg : Config} {w₀ w w' : LiveWatch} {ws₀ ws ws' : List LiveWatch} {sig : PropertySignal}
  {out : List Callback} {cb : Callback}

/-- A watch emits what it owes, if that can be decoded, and otherwise nothing. -/
theorem LiveWatch.Follows.receive_cases (h : w₀.Follows cfg w)
    (hreceive : w.receive cfg sig = some (w', out)) :
    w₀.Follows cfg w' ∧
      (w₀.Good cfg sig ∧ out = w₀.owed cfg sig ∨ ¬ w₀.Good cfg sig ∧ out = []) := by
  cases hfor : sig.isFor cfg w₀.registering with
  | false =>
    obtain ⟨w₁, hreceive₁, hfollows⟩ := h.receive_of_not_isFor hfor
    rw [hreceive, Option.some_inj, Prod.mk.injEq] at hreceive₁
    obtain ⟨rfl, rfl⟩ := hreceive₁
    refine ⟨hfollows, .inl ⟨fun hfor' => ?_, by simp [LiveWatch.owed, hfor]⟩⟩
    rw [hfor] at hfor'
    contradiction
  | true =>
    obtain ⟨hgood, w₁, hreceive₁, hfollows⟩ | ⟨hbad, hdropped⟩ := h.receive_of_isFor hfor
    · rw [hreceive, Option.some_inj, Prod.mk.injEq] at hreceive₁
      obtain ⟨rfl, rfl⟩ := hreceive₁
      exact ⟨hfollows, .inl ⟨hgood, rfl⟩⟩
    -- a value that cannot be decoded is dropped
    · obtain ⟨rfl, hfollows⟩ := hdropped w' out hreceive
      exact ⟨hfollows, .inr ⟨hbad, rfl⟩⟩

/-- The callbacks of a signal are those that some watches owe, and a watch that can decode the
signal is among them. -/
theorem broadcast_receive (h : List.Forall₂ (LiveWatch.Follows cfg) ws₀ ws)
    (hreceive : broadcast (LiveWatch.receive cfg) ws sig = some (ws', out)) :
    List.Forall₂ (LiveWatch.Follows cfg) ws₀ ws' ∧
      (∀ cb ∈ out, ∃ w₀ ∈ ws₀, w₀.Good cfg sig ∧ cb ∈ w₀.owed cfg sig) ∧
      ∀ w₀ ∈ ws₀, w₀.Good cfg sig → ∀ cb ∈ w₀.owed cfg sig, cb ∈ out := by
  -- the watches get the signal one after the other
  induction h generalizing ws' out with
  | nil =>
    obtain ⟨rfl, rfl⟩ := Prod.mk.inj (Option.some_inj.mp hreceive)
    exact ⟨.nil, by simp, by simp⟩
  | cons hhead _ ih =>
    obtain ⟨w₁, ws₁, out₁, out₂, hfirst, hrest, heq⟩ := broadcast_cons_eq_some_iff.mp hreceive
    obtain ⟨rfl, rfl⟩ := Prod.mk.inj heq
    obtain ⟨hfollows, hout⟩ := hhead.receive_cases hfirst
    obtain ⟨hfollows', howed, hemitted⟩ := ih hrest
    refine ⟨.cons hfollows hfollows', fun cb hcb => ?_, ?_⟩
    · rcases List.mem_append.mp hcb with hcb | hcb
      · obtain ⟨hgood, rfl⟩ | ⟨-, rfl⟩ := hout
        · exact ⟨_, List.mem_cons_self, hgood, hcb⟩
        · contradiction
      · obtain ⟨w₀, hw₀, hgood⟩ := howed cb hcb
        exact ⟨w₀, List.mem_cons_of_mem _ hw₀, hgood⟩
    · rw [List.forall_mem_cons]
      refine ⟨fun hgood cb hcb => List.mem_append_left _ ?_, fun w₀ hw₀ hgood cb hcb =>
        List.mem_append_right _ (hemitted w₀ hw₀ hgood cb hcb)⟩
      obtain ⟨-, rfl⟩ | ⟨hbad, -⟩ := hout
      · exact hcb
      · contradiction

/-- A callback that is owed is for the registration of its watch, with the record that the value of
the signal has been decoded into. -/
theorem LiveWatch.eq_of_mem_owed (hgood : w.Good cfg sig) (h : cb ∈ w.owed cfg sig) :
    sig.isFor cfg w.registering = true ∧ ∃ ar,
      w.registering.msg.report.fill cfg (sig.heap w.watch.id) [sig.value]
        w.watch.handler.result = some ar ∧ cb = ⟨.watch w.registering, w.block, ar⟩ := by
  unfold LiveWatch.owed at h
  split at h
  case isFalse => contradiction
  case isTrue hfor =>
    obtain ⟨ar, hfill⟩ := Option.isSome_iff_exists.mp (hgood hfor)
    rw [hfill] at h
    exact ⟨hfor, ar, hfill, List.mem_singleton.mp h⟩

/-- It shows the value of the signal. -/
theorem LiveWatch.shows_of_mem_owed (hgood : w.Good cfg sig) (h : cb ∈ w.owed cfg sig) :
    cb.origin = .watch w.registering ∧ sig.isFor cfg w.registering = true ∧
      w.registering.msg.Shows cfg [sig.value] cb.result := by
  obtain ⟨hfor, ar, hfill, rfl⟩ := LiveWatch.eq_of_mem_owed hgood h
  exact ⟨rfl, hfor, shows_of_fill hfill⟩

/-- A watch that can decode a signal for its registration calls back. -/
theorem LiveWatch.exists_mem_owed (hfor : sig.isFor cfg w.registering = true) :
    ∃ cb ∈ w.owed cfg sig, cb.origin = .watch w.registering := by
  rw [LiveWatch.owed, if_pos hfor]
  exact ⟨_, List.mem_singleton_self _, rfl⟩

end

/-! ## What an event does -/

section

variable {cfg : Config} {bits : ℕ} {env : OpenEnv} {first : Filling} {rs : List Registering}
  {w : LiveWatch} {ws ws' : List LiveWatch} {c c' : Client} {e : Arrival} {events : List Arrival}
  {out : List Observation} {cb : Callback}

/-- The client gets the event, and the watches get it if it is a signal. -/
theorem observing_cases {W : Type} {receive : Step W PropertySignal Callback} {w w' : W}
    (hstep : observing cfg bits env receive (w, c) e = some ((w', c'), out)) :
    ∃ cbs fillings, c.step cfg bits env e.toClient = some (c', fillings) ∧
      out = cbs.map .called ++ fillings.map (fun _ => .remade) ∧
      ((∃ sig f, e = .signal sig f ∧ receive w sig = some (w', cbs)) ∨
        (∀ sig f, e ≠ .signal sig f) ∧ w' = w ∧ cbs = []) := by
  obtain ⟨⟨w₁, cbs⟩, hreceived, hrest⟩ := Option.bind_eq_some_iff.mp hstep
  obtain ⟨⟨c₁, fillings⟩, hclient, heq⟩ := Option.map_eq_some_iff.mp hrest
  obtain ⟨hstate, rfl⟩ := Prod.mk.inj heq
  obtain ⟨rfl, rfl⟩ := Prod.mk.inj hstate
  refine ⟨cbs, fillings, hclient, rfl, ?_⟩
  cases e with
  | signal sig f => exact .inl ⟨sig, f, rfl, hreceived⟩
  | ready | fetch _ | told _ =>
    obtain ⟨rfl, rfl⟩ := Prod.mk.inj (Option.some_inj.mp hreceived)
    exact .inr ⟨by simp, rfl, rfl⟩

/-- An application notices that proxies are made again. -/
theorem Observation.remade_mem {cbs : List Callback} {fillings : List Filling}
    (h : fillings ≠ []) :
    remade ∈ cbs.map Observation.called ++ fillings.map fun _ => Observation.remade := by
  obtain ⟨f, hf⟩ := List.exists_mem_of_ne_nil _ h
  exact List.mem_append_right _ (List.mem_map.mpr ⟨f, hf, rfl⟩)

/-- The watches are those of the registrations, with what the signals have left in their records,
and the client is coherent. -/
structure Watching (cfg : Config) (bits : ℕ) (env : OpenEnv) (first : Filling)
    (rs : List Registering) (s : List LiveWatch × Client) : Prop where
  follows : List.Forall₂ (LiveWatch.Follows cfg) (liveWatches cfg rs) s.1
  coherent : s.2.Coherent cfg bits env first

theorem Client.Coherent.watching (h : c.Coherent cfg bits env first) :
    Watching cfg bits env first rs (liveWatches cfg rs, c) :=
  ⟨List.forall₂_same.mpr fun _ hw => (subscribed_of_mem hw).follows, h⟩

/-- The callbacks of an event are those that some watches owe for it, and a watch that can decode it
is among them. -/
theorem Watching.step (h : Watching cfg bits env first rs (ws, c))
    (hapart : e.toClient.Apart cfg env first)
    (hstep : observe cfg bits env (ws, c) e = some ((ws', c'), out)) :
    Watching cfg bits env first rs (ws', c') ∧
      c'.objects = Client.record c.objects e.toClient ∧
      (∀ cb, .called cb ∈ out → ∃ sig f, e = .signal sig f ∧
        ∃ w₀ ∈ liveWatches cfg rs, w₀.Good cfg sig ∧ cb ∈ w₀.owed cfg sig) ∧
      ∀ sig f, e = .signal sig f → ∀ w₀ ∈ liveWatches cfg rs, w₀.Good cfg sig →
        ∀ cb ∈ w₀.owed cfg sig, .called cb ∈ out := by
  obtain ⟨cbs, fillings, hclient, rfl, hreceived⟩ := observing_cases hstep
  have hcoherent := h.coherent.step hapart hclient
  have hobjects := (h.coherent.record_step hapart hclient).1
  have hcalled : ∀ cb, Observation.called cb ∈
      cbs.map .called ++ fillings.map (fun _ => .remade) ↔ cb ∈ cbs := by simp
  simp only [hcalled]
  obtain ⟨sig, f, rfl, hreceive⟩ | ⟨hother, rfl, rfl⟩ := hreceived
  · obtain ⟨hfollows, howed, hemitted⟩ := broadcast_receive h.follows hreceive
    refine ⟨⟨hfollows, hcoherent⟩, hobjects, fun cb hcb => ⟨sig, f, rfl, howed cb hcb⟩, ?_⟩
    rintro sig' f' heq
    obtain ⟨rfl, rfl⟩ := Arrival.signal.inj heq
    exact hemitted
  · exact ⟨⟨h.follows, hcoherent⟩, hobjects, by simp, fun sig f heq => absurd heq (hother sig f)⟩

/-- An event either calls a registration back, for a signal that it is about, or does not and is not
about it. -/
theorem Watching.calls_cases (h : Watching cfg bits env first rs (ws, c))
    (hapart : e.toClient.Apart cfg env first)
    (hstep : observe cfg bits env (ws, c) e = some ((ws', c'), out))
    (hw : w ∈ liveWatches cfg rs) (hgood : ∀ sig f, e = .signal sig f → w.Good cfg sig) :
    (∃ sig f, e = .signal sig f ∧ sig.isFor cfg w.registering = true ∧
        (∃ o ∈ out, o.Calls w.registering) ∧
        ∀ cb, .called cb ∈ out → cb.origin = .watch w.registering → ∃ w₀ : LiveWatch,
          w₀.registering = w.registering ∧ w₀.Good cfg sig ∧ cb ∈ w₀.owed cfg sig) ∨
      ((∀ sig f, e = .signal sig f → sig.isFor cfg w.registering = false) ∧
        ∀ o ∈ out, ¬ o.Calls w.registering) := by
  obtain ⟨-, -, howed, hemitted⟩ := h.step hapart hstep
  -- another watch may have been registered in just the same way
  have horigin : ∀ cb, .called cb ∈ out → cb.origin = .watch w.registering → ∃ sig f,
      e = .signal sig f ∧ ∃ w₀ : LiveWatch,
        w₀.registering = w.registering ∧ w₀.Good cfg sig ∧ cb ∈ w₀.owed cfg sig := by
    intro cb hcb horigin
    obtain ⟨sig, f, rfl, w₀, -, hgood₀, hmem⟩ := howed cb hcb
    have horigin₀ := (LiveWatch.shows_of_mem_owed hgood₀ hmem).1
    exact ⟨sig, f, rfl, w₀, Origin.watch.inj (horigin₀.symm.trans horigin), hgood₀, hmem⟩
  by_cases hfor : ∃ sig f, e = .signal sig f ∧ sig.isFor cfg w.registering = true
  · obtain ⟨sig, f, rfl, hfor⟩ := hfor
    refine .inl ⟨sig, f, rfl, hfor, ?_, fun cb hcb hwatch => ?_⟩
    · obtain ⟨cb, hcb, hwatch⟩ := LiveWatch.exists_mem_owed hfor
      exact ⟨.called cb, hemitted sig f rfl w hw (hgood sig f rfl) cb hcb, hwatch⟩
    · obtain ⟨sig', f', heq, hw₀⟩ := horigin cb hcb hwatch
      obtain ⟨rfl, rfl⟩ := Arrival.signal.inj heq
      exact hw₀
  · refine .inr ⟨fun sig f he => ?_, fun o ho hcalls => ?_⟩
    · rw [← Bool.not_eq_true]
      exact fun hsig => hfor ⟨sig, f, he, hsig⟩
    · cases o with
      | remade => contradiction
      | called cb =>
        obtain ⟨sig, f, rfl, w₀, hsame, hgood₀, hmem⟩ := horigin cb ho hcalls
        have hfor₀ := (LiveWatch.shows_of_mem_owed hgood₀ hmem).2.1
        rw [hsame] at hfor₀
        exact hfor ⟨sig, f, rfl, hfor₀⟩

/-- The objects agree with what is observed. -/
def AgreesWith (agrees : (Place → Option Value) → AsyncResult Payload → Prop)
    (s : List LiveWatch × Client) : Observation → Prop
  | .called cb => agrees s.2.objects cb.result
  | .remade => True

theorem Watching.of_run (h : Watching cfg bits env first rs (ws, c))
    (hapart : ∀ e ∈ events, e.toClient.Apart cfg env first)
    (hrun : run (observe cfg bits env) (ws, c) events = some ((ws', c'), out)) :
    Watching cfg bits env first rs (ws', c') :=
  invariant_of_run (Watching cfg bits env first rs)
    (fun _ e he _ _ hwatching hstep => (hwatching.step (hapart e he) hstep).1) h hrun

/-- A statement about the objects and a record, which a signal for the registration makes true and
no other one false, is true of the latest callback. -/
theorem Watching.agrees_of_isLatest
    (agrees : (Place → Option Value) → AsyncResult Payload → Prop)
    (h : Watching cfg bits env first rs (ws, c))
    (hapart : ∀ e ∈ events, e.toClient.Apart cfg env first) (hw : w ∈ liveWatches cfg rs)
    (hgood : ∀ sig f, .signal sig f ∈ events → w.Good cfg sig)
    (hshown : ∀ sig f, .signal sig f ∈ events → sig.isFor cfg w.registering = true →
      ∀ w₀ : LiveWatch, w₀.registering = w.registering → w₀.Good cfg sig →
        ∀ cb ∈ w₀.owed cfg sig, ∀ objects,
          agrees (Function.update objects sig.place (some sig.value)) cb.result)
    (hkept : ∀ sig : PropertySignal, sig.isFor cfg w.registering = false →
      ∀ objects ar, agrees objects ar →
        agrees (Function.update objects sig.place (some sig.value)) ar)
    (hrun : run (observe cfg bits env) (ws, c) events = some ((ws', c'), out))
    (hlatest : IsLatest (Observation.Calls w.registering) out (.called cb)) :
    agrees c'.objects cb.result := by
  suffices hfinal : AgreesWith agrees (ws', c') (.called cb) from hfinal
  refine hlatest.of_run_of_mem ?_ h hrun
  rintro ⟨ws, c⟩ e he ⟨ws', c'⟩ out hwatching hstep
  obtain ⟨hwatching', hobjects, -⟩ := hwatching.step (hapart e he) hstep
  refine ⟨hwatching', ?_⟩
  obtain ⟨sig, f, rfl, hfor, hcalled, howed⟩ | ⟨hnot, hquiet⟩ :=
    hwatching.calls_cases (hapart e he) hstep hw fun sig f heq => hgood sig f (heq ▸ he)
  · refine .inl ⟨hcalled, fun o ho hcalls => ?_⟩
    cases o with
    | remade => contradiction
    | called cb =>
      obtain ⟨w₀, hsame, hgood₀, hmem⟩ := howed cb ho hcalls
      rw [AgreesWith, hobjects]
      exact hshown sig f he hfor w₀ hsame hgood₀ cb hmem c.objects
  · refine .inr ⟨hquiet, fun o hcalls hagrees => ?_⟩
    cases o with
    | remade => contradiction
    | called cb =>
      rw [AgreesWith] at hagrees ⊢
      rw [hobjects]
      cases e with
      | signal sig f => exact hkept sig (hnot sig f rfl) _ _ hagrees
      | ready | fetch _ | told _ => exact hagrees

end

/-! ## The property that is polled -/

/-- The indications whose records show the value of one property. -/
def IndicationMsg.isPolled (msg : IndicationMsg) : Bool :=
  match msg.report with
  | .number | .slot | .networkType | .text => msg.properties.length = 1
  | .notice | .strength | .time => false

/-- The property of such an indication. -/
def IndicationMsg.polled (msg : IndicationMsg) : String := msg.properties.headD ""

theorem IndicationMsg.properties_of_isPolled {msg : IndicationMsg} (h : msg.isPolled = true) :
    msg.properties = [msg.polled] := by
  cases msg <;> first | rfl | contradiction

/-- No memory is needed to decode such a property. -/
theorem LiveWatch.good_of_isPolled {cfg : Config} {w : LiveWatch} {sig : PropertySignal}
    (h : w.registering.msg.isPolled = true) : w.Good cfg sig := by
  intro hfor
  rw [isSome_fill_iff hfor]
  unfold PropertySignal.Delivered
  generalize w.registering.msg = msg at h
  cases msg <;> trivial

/-- A property of the object that a registration is about. -/
def Registering.place (cfg : Config) (r : Registering) (name : String) : Place :=
  ((r.msg.objectPath cfg r.slotId, r.msg.interface.column), name)

/-- The object holds the value that the record shows. -/
def Registering.Shown (cfg : Config) (r : Registering) (objects : Place → Option Value)
    (ar : AsyncResult Payload) : Prop :=
  r.pHandle ≠ null ∧ ∃ value, r.msg.Shows cfg [value] ar ∧
    objects (r.place cfg r.msg.polled) = some value

section

variable {cfg : Config} {bits : ℕ} {env : OpenEnv} {first : Filling} {c c' : Client}
  {r : Registering} {rs : List Registering} {w : LiveWatch} {ws ws' : List LiveWatch}
  {objects : Place → Option Value} {events : List Arrival} {out : List Observation}
  {cb : Callback} {sig : PropertySignal} {ar : AsyncResult Payload} {name : String}

theorem PropertySignal.isFor_iff :
    sig.isFor cfg r = true ↔
      (∃ name ∈ r.msg.properties, sig.place = r.place cfg name) ∧ r.pHandle ≠ null := by
  simp only [isFor, decide_eq_true_eq, place, Registering.place, Prod.mk.injEq]
  constructor
  · rintro ⟨hpath, hinterface, hname, hcb⟩
    exact ⟨⟨sig.name, hname, ⟨hpath, by rw [hinterface]⟩, rfl⟩, hcb⟩
  · rintro ⟨⟨name, hname, ⟨hpath, hcolumn⟩, rfl⟩, hcb⟩
    exact ⟨hpath, Interface.column_injective hcolumn, hname, hcb⟩

/-- Another signal leaves what the object holds of the properties of the registration. -/
theorem PropertySignal.update_of_not_isFor (hcb : r.pHandle ≠ null) (hfor : sig.isFor cfg r = false)
    (hname : name ∈ r.msg.properties) :
    Function.update objects sig.place (some sig.value) (r.place cfg name) =
      objects (r.place cfg name) := by
  rw [Function.update_of_ne]
  intro hplace
  have hisFor := PropertySignal.isFor_iff.mpr ⟨⟨name, hname, hplace.symm⟩, hcb⟩
  rw [hfor] at hisFor
  contradiction

theorem PropertySignal.place_of_isFor (hname : r.msg.properties = [name])
    (hfor : sig.isFor cfg r = true) : sig.place = r.place cfg name := by
  obtain ⟨⟨name', hname', hplace⟩, -⟩ := PropertySignal.isFor_iff.mp hfor
  rw [hname] at hname'
  rw [hplace, List.mem_singleton.mp hname']

/-- The object of a registration holds what the latest callback has shown. -/
theorem Watching.shown_of_isLatest (h : Watching cfg bits env first rs (ws, c))
    (hapart : ∀ e ∈ events, e.toClient.Apart cfg env first) (hw : w ∈ liveWatches cfg rs)
    (hpolled : w.registering.msg.isPolled = true)
    (hrun : run (observe cfg bits env) (ws, c) events = some ((ws', c'), out))
    (hlatest : IsLatest (Observation.Calls w.registering) out (.called cb)) :
    w.registering.Shown cfg c'.objects cb.result := by
  have hname := IndicationMsg.properties_of_isPolled hpolled
  refine h.agrees_of_isLatest (w.registering.Shown cfg) hapart hw
    (fun sig f _ => LiveWatch.good_of_isPolled hpolled) ?_ ?_ hrun hlatest
  · intro sig f _ hfor w₀ hsame hgood cb hcb objects
    have hshows := (LiveWatch.shows_of_mem_owed hgood hcb).2.2
    rw [hsame] at hshows
    refine ⟨(PropertySignal.isFor_iff.mp hfor).2, sig.value, hshows, ?_⟩
    rw [← PropertySignal.place_of_isFor hname hfor, Function.update_self]
  · rintro sig hfor objects ar ⟨hcb, value, hshows, hvalue⟩
    refine ⟨hcb, value, hshows, ?_⟩
    rwa [sig.update_of_not_isFor hcb hfor (by simp [hname])]

/-! ## What the proxy keeps -/

theorem Registering.slot_mem (hslot : isValidSlotid cfg r.slotId = true) :
    r.slot ∈ slotsOf cfg := by
  unfold Registering.slot IndicationMsg.slotAt
  split
  · exact manager_mem_slotsOf
  · exact (mem_slotsOf_of_isValidSlotid _ hslot).1

theorem Registering.object_slot (hslot : isValidSlotid cfg r.slotId = true) :
    (r.slot.object cfg, name) = r.place cfg name := by
  unfold Registering.slot Registering.place IndicationMsg.slotAt IndicationMsg.objectPath
  cases hcolumn : r.msg.interface.column with
  | none =>
    have hmanager : r.msg.interface = .manager :=
      Interface.column_injective (hcolumn.trans (rfl : none = Interface.manager.column))
    rw [if_pos hmanager]
    rfl
  | some type =>
    have hmodem : r.msg.interface ≠ .manager := by
      intro heq
      rw [heq] at hcolumn
      contradiction
    rw [if_neg hmodem, (mem_slotsOf_of_isValidSlotid _ hslot).2]

/-- What the proxy of a registration keeps is what the object holds. -/
theorem Client.Coherent.lookUp_slot (h : c.Coherent cfg bits env first)
    (hslot : isValidSlotid cfg r.slotId = true) (hproxy : c.ctx.proxyAt r.slot ≠ null)
    (hkept : c.lookUp r.slot name ≠ none) :
    c.lookUp r.slot name = (c.objects (r.place cfg name)).map fun v => [v] := by
  obtain ⟨value, hvalue⟩ := Option.ne_none_iff_exists'.mp hkept
  have hheld := h.kept r.slot (Registering.slot_mem hslot) hproxy name value hvalue
  rw [hvalue, ← hheld, Registering.object_slot hslot]

/-- A signal for a registration that makes the proxies again is one of a modem, whose own proxy
stays. -/
theorem PropertySignal.persistent_of_remade {f : Filling} {fillings : List Filling}
    (hannounce : c.announce cfg bits env sig.place sig.value f = some (c', fillings))
    (hfor : sig.isFor cfg r = true) (hne : fillings ≠ []) : r.slot.persistent = true := by
  obtain ⟨-, hnil⟩ | ⟨-, hmodem, -⟩ := Client.announce_cases hannounce
  · exact absurd hnil hne
  · obtain ⟨⟨name, -, hplace⟩, -⟩ := PropertySignal.isFor_iff.mp hfor
    have hcolumn : r.msg.interface.column = some .modem := by
      rw [hplace] at hmodem
      exact hmodem
    simp [Registering.slot, IndicationMsg.slotAt, hcolumn, Slot.persistent]

/-- The registration is called back, and its proxy keeps a property, unless it is made again. -/
def FoundWith (r : Registering) (name : String) (s : List LiveWatch × Client) : Observation → Prop
  | .called _ => s.2.ctx.proxyAt r.slot ≠ null → s.2.lookUp r.slot name ≠ none
  | .remade => True

/-- The proxy of a registration keeps the property that the latest callback has been about, unless
it has been made again. -/
theorem Watching.lookUp_of_isLatest (h : Watching cfg bits env first rs (ws, c))
    (hapart : ∀ e ∈ events, e.toClient.Apart cfg env first) (hw : w ∈ liveWatches cfg rs)
    (hslot : isValidSlotid cfg w.registering.slotId = true)
    (hname : w.registering.msg.properties = [name])
    (hgood : ∀ sig f, .signal sig f ∈ events → w.Good cfg sig)
    (hrun : run (observe cfg bits env) (ws, c) events = some ((ws', c'), out))
    (hlatest : IsLatest (Observation.Concerns w.registering) out (.called cb))
    (hproxy : c'.ctx.proxyAt w.registering.slot ≠ null) :
    c'.lookUp w.registering.slot name ≠ none := by
  suffices hfinal : FoundWith w.registering name (ws', c') (.called cb) from hfinal hproxy
  have hmem := Registering.slot_mem hslot
  refine hlatest.of_run_of_mem ?_ h hrun
  rintro ⟨ws, c⟩ e he ⟨ws', c'⟩ out hwatching hstep
  refine ⟨(hwatching.step (hapart e he) hstep).1, ?_⟩
  obtain ⟨cbs, fillings, hclient, rfl, -⟩ := observing_cases hstep
  obtain ⟨sig, f, rfl, hfor, ⟨o, ho, hcalls⟩, -⟩ | ⟨-, hquiet⟩ :=
    hwatching.calls_cases (hapart e he) hstep hw fun sig f heq => hgood sig f (heq ▸ he)
  -- the value of a signal for the registration is stored, and does not make its proxy again
  · refine .inl ⟨⟨o, ho, hcalls.concerns⟩, fun o _ _ => ?_⟩
    cases o with
    | remade => trivial
    | called cb =>
      intro hproxy
      obtain ⟨-, hstays, hlookUp⟩ | ⟨hfillings, hmutable, -⟩ :=
        Client.lookUp_announce hwatching.coherent.sound (hapart _ he) hclient hmem
      · have hplace := PropertySignal.place_of_isFor hname hfor
        rw [hlookUp (hstays ▸ hproxy), Registering.object_slot hslot, hplace, if_pos rfl]
        exact Option.some_ne_none _
      · rw [PropertySignal.persistent_of_remade hclient hfor (by simp [hfillings])] at hmutable
        contradiction
  · by_cases hstays : fillings = [] ∨ w.registering.slot.persistent = true
    · refine .inr ⟨fun o ho hconcerns => ?_, fun o _ hfound => ?_⟩
      · cases o with
        | called cb => exact hquiet _ ho hconcerns
        | remade =>
          obtain rfl | hpersistent := hstays
          · simp at ho
          · exact absurd (hpersistent.symm.trans hconcerns) (by decide)
      · cases o with
        | remade => trivial
        | called cb =>
          obtain ⟨hproxy, hkept⟩ :=
            hwatching.coherent.lookUp_step (hapart e he) hclient hmem hstays
          intro hne
          rw [hproxy] at hne
          exact hkept hne name (hfound hne)
    · obtain ⟨hne, hmutable⟩ := not_or.mp hstays
      refine .inl ⟨⟨.remade, Observation.remade_mem hne, eq_false_of_ne_true hmutable⟩,
        fun o ho hconcerns => ?_⟩
      cases o with
      | remade => trivial
      | called cb => exact absurd hconcerns (hquiet _ ho)

end

/-! ## What the getters return -/

section

variable {cfg : Config} {bits : ℕ} {env : OpenEnv} {first : Filling} {c : Client}
  {ctx : DbusContext} {table : Properties} {r : Registering} {ar : AsyncResult Payload} {α : Type}
  {proxy : Ptr} {name : String} {value : Iter} {missing : ℤ} {read : Iter → Option α} {a : α}

theorem readProperty_eq {out : α} (h : table proxy name = some value)
    (hread : read value = some a) :
    readProperty table name missing read out proxy = some (ok, a) := by
  rw [readProperty_of_some h, hread, Option.map_some]

theorem reads_getProperty {slotId : ℤ} {type : ProxyType} (hslot : isValidSlotid cfg slotId = true)
    (hready : ctx.clientReady = true) (hproxy : ctx.dbusProxy slotId.toNat type ≠ null)
    (h : table (ctx.dbusProxy slotId.toNat type) name = some value)
    (hread : read value = some a) :
    Reads (getProperty cfg table (some ctx) slotId type name missing read) a := by
  intro out
  rw [getProperty_of_ok (checkedProxy_eq_ok hslot hready hproxy), readProperty_eq h hread]

theorem reads_getCardProperty {slotId : ℤ} (hslot : isValidSlotid cfg slotId = true)
    (hready : ctx.clientReady = true) (hproxy : ctx.dbusProxy slotId.toNat .sim ≠ null)
    (hcard : storedIccCard cfg table (some ctx) slotId = some true)
    (h : table (ctx.dbusProxy slotId.toNat .sim) name = some value)
    (hread : read value = some a) :
    Reads (getCardProperty cfg table (some ctx) slotId name missing read) a := by
  intro out
  rw [getCardProperty_of_stored hslot hready hproxy hcard, readProperty_eq h hread]

theorem reads_getSlotProperty {s : String} {n : ℤ} (hready : ctx.clientReady = true)
    (hproxy : ctx.dbusProxyManager ≠ null) (h : table ctx.dbusProxyManager name = some value)
    (hread : value.getString = some s) (hn : n = tapiUtilsGetSlotId cfg s) :
    Reads (getSlotProperty cfg table (some ctx) name) n := by
  intro out
  rw [getSlotProperty_of_ready hready hproxy, readProperty_eq h]
  rw [hread, hn, Option.map_some]

/-- The getters return what the object holds, if their proxy keeps it. -/
theorem Registering.Shown.polls (h : r.Shown cfg c.objects ar)
    (hcoherent : c.Coherent cfg bits env first) (hready : c.ctx.clientReady = true)
    (hslot : isValidSlotid cfg r.slotId = true) (hproxy : c.ctx.proxyAt r.slot ≠ null)
    (hkept : c.lookUp r.slot r.msg.polled ≠ none) :
    Polls cfg c.property c.ctx r.slotId ar r.msg := by
  obtain ⟨-, value, hshows, hheld⟩ := h
  have hvalue := hcoherent.lookUp_slot hslot hproxy hkept
  rw [hheld, Option.map_some] at hvalue
  obtain ⟨context, slotId, msg, userObj, pHandle, first, second⟩ := r
  dsimp only at hshows hvalue hproxy hslot ⊢
  cases msg
  case radioStateChange | modemStateChange | simStateChange =>
    exact reads_getProperty hslot hready hproxy hvalue hshows
  case airplaneModeChange =>
    have hflag : Iter.getFlag [value] = some (decide (ar.arg2 ≠ 0)) := congrArg _ hshows
    exact reads_getProperty hslot hready hproxy hvalue hflag
  case dataEnabledChange =>
    rintro rfl out
    have hflag : Iter.getFlag [value] = some (decide (ar.arg2 ≠ 0)) := congrArg _ hshows
    have hproxy' : c.ctx.dbusProxy 0 .data ≠ null := hproxy
    simp only [Data.tapiDataGetEnabled, Data.getSwitch, hready, hproxy', Bool.not_true, if_false,
      Bool.false_eq_true]
    exact readProperty_eq hvalue hflag
  case dataRegistrationStateChange =>
    have hstate : ∀ states, (Iter.getInt [value]).map (isStateOf states) =
        some (isStateOf states ar.arg2) := fun states => congrArg _ hshows
    exact ⟨reads_getProperty hslot hready hproxy hvalue (hstate _),
      reads_getProperty hslot hready hproxy hvalue (hstate _),
      reads_getProperty hslot hready hproxy hvalue (hstate _)⟩
  case dataNetworkTypeChange =>
    obtain ⟨n, hn, harg⟩ := hshows
    refine reads_getProperty hslot hready hproxy hvalue ?_
    rw [hn, harg, Option.map_some]
  case defaultDataSlotChange | defaultVoicecallSlotChange | defaultSmsSlotChanged =>
    obtain ⟨s, hs, harg⟩ := hshows
    exact reads_getSlotProperty hready hproxy hvalue hs harg
  case simUiccAppEnabledChange =>
    exact fun hcard => reads_getCardProperty hslot hready hproxy hcard hvalue hshows
  case simIccidChange =>
    obtain ⟨s, hs, hdata⟩ := hshows
    refine fun hcard => ⟨s, hdata, reads_getCardProperty hslot hready hproxy hcard hvalue ?_⟩
    rw [readText, hs, Option.map_some]
  all_goals trivial

end

/-- From any state that a client can reach: at any time, the getters for a property return what the
latest callback of a registration for its changes has shown, whatever else has been registered and
announced, or find nothing, which they only do if their proxy has been made again since. -/
theorem polls_isLatest {cfg : Config} {bits : ℕ} {env : OpenEnv} {first : Filling}
    {start c : Client} {rs : List Registering} {w : LiveWatch} {events : List Arrival}
    {ws : List LiveWatch} {out : List Observation} {cb : Callback}
    (hreached : start.Reached cfg bits env first)
    (hapart : ∀ e ∈ events, e.toClient.Apart cfg env first) (hw : w ∈ liveWatches cfg rs)
    (hpolled : w.registering.msg.isPolled = true)
    (hslot : isValidSlotid cfg w.registering.slotId = true)
    (hrun : run (observe cfg bits env) (liveWatches cfg rs, start) events = some ((ws, c), out))
    (hlatest : IsLatest (Observation.Calls w.registering) out (.called cb))
    (hready : c.ctx.clientReady = true) (hproxy : c.ctx.proxyAt w.registering.slot ≠ null) :
    let found := c.lookUp w.registering.slot w.registering.msg.polled
    (found = none ∨
        Polls cfg c.property c.ctx w.registering.slotId cb.result w.registering.msg) ∧
      (IsLatest (Observation.Concerns w.registering) out (.called cb) → found ≠ none) := by
  intro found
  have hwatching : Watching cfg bits env first rs (liveWatches cfg rs, start) :=
    hreached.coherent.watching
  have hshown := hwatching.shown_of_isLatest hapart hw hpolled hrun hlatest
  have hcoherent := (hwatching.of_run hapart hrun).coherent
  constructor
  · by_cases hfound : found = none
    · exact .inl hfound
    · exact .inr (hshown.polls hcoherent hready hslot hproxy hfound)
  · intro hconcerns
    exact hwatching.lookUp_of_isLatest hapart hw hslot
      (IndicationMsg.properties_of_isPolled hpolled)
      (fun _ _ _ => LiveWatch.good_of_isPolled hpolled) hrun hconcerns hproxy

/-! ## Samples -/

/-- A registration for the state of the radio in the second slot. -/
def radioRegistering : Registering where
  context := some idleContext
  slotId := 1
  msg := .radioStateChange
  userObj := 5
  pHandle := 1
  first := ⟨true, some ⟨0, response, 0, 0, 0, .null, 0⟩, 1⟩
  second := ⟨true, none, 0⟩

/-- A number of the modem in the second slot has changed. -/
def modemSignal (name : String) (n : ℤ) : PropertySignal where
  path := "/ril_1"
  interface := .modem
  name := name
  value := .int32 n
  typed := rfl
  wellFormed := by
    unfold Interface.typeOf
    dsimp only
    split <;> rfl
  heap _ := Heap.exhausted

/-- Some signals come from the bus. -/
def signals (sigs : List PropertySignal) : List Arrival :=
  sigs.map fun sig => .signal sig (samplePlaces withoutCalls)

/-- The radio has gone through two states, and then the modem has woken up. -/
def modemSignals : List PropertySignal :=
  [modemSignal "RadioState" 1, modemSignal "RadioState" 2, modemSignal "ModemState" modemStateAware,
    modemSignal "ModemState" modemStateAlive]

/-- Its watch. -/
def radioWatch : LiveWatch where
  registering := radioRegistering
  block := radioRegistering.first.result
  watch := ⟨1, idleContext.connection,
    ⟨"/ril_1", .modem, "PropertyChanged", .radioStateChanged⟩,
    ⟨⟨IndicationMsg.radioStateChange.value, indication, 0, 1, 0, .null, 5⟩, 1⟩⟩

/-- What its callback gets. -/
def radioCallback (n : ℤ) : Callback where
  origin := .watch radioRegistering
  block := radioRegistering.first.result
  result := ⟨IndicationMsg.radioStateChange.value, indication, ok, 1, n, .null, 5⟩

theorem apart_signals (sigs : List PropertySignal) :
    ∀ e ∈ signals sigs, e.toClient.Apart twoModems openPlaces withEverything := by
  intro e he
  obtain ⟨sig, -, rfl⟩ := List.mem_map.mp he
  exact Client.apart_samplePlaces _ _

theorem polls_radioState : ∃ c : Client,
    Polls twoModems c.property c.ctx 1 (radioCallback 2).result .radioStateChange := by
  have hrun : ∃ ws c, run (observe twoModems 64 openPlaces)
      (liveWatches twoModems [radioRegistering], Client.readyClient) (signals modemSignals) =
        some ((ws, c), [.called (radioCallback 1), .called (radioCallback 2), .remade]) ∧
      c.ctx.clientReady = true ∧ c.ctx.proxyAt radioRegistering.slot ≠ null :=
    ⟨_, _, rfl, rfl, by decide⟩
  obtain ⟨ws, c, hrun, hready, hproxy⟩ := hrun
  have hw : radioWatch ∈ liveWatches twoModems [radioRegistering] := .head _
  have hlatest : ∀ about : Observation → Prop, about (.called (radioCallback 2)) →
      ¬ about .remade → IsLatest about
        [.called (radioCallback 1), .called (radioCallback 2), .remade]
        (.called (radioCallback 2)) :=
    fun about hcalled hremade =>
      ⟨hcalled, [_], [_], rfl, List.forall_mem_singleton.mpr hremade⟩
  obtain ⟨hpolls, hfound⟩ := polls_isLatest Client.reached_readyClient (apart_signals _) hw rfl rfl
    hrun (hlatest _ rfl id) hready hproxy
  have hstays : ¬ Observation.Concerns radioRegistering .remade := fun hremade =>
    Bool.eq_false_iff.mp hremade rfl
  exact ⟨c, hpolls.resolve_left (hfound (hlatest _ rfl hstays))⟩

end Telephony
