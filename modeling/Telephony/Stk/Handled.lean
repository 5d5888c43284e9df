import Telephony.Stk.Agent
import Mathlib.Data.List.Infix

/-!
# What a method of an agent does

The bodies of the method table fall into three shapes, and each shape leaves through a few
exits. The exits are listed once here; what holds of every run of an agent is derived from
the list.

## Main definitions

* `Stk.Decodes` — a call of `dbus_message_get_args` that reads a given signature
* `Stk.Shape` — the three shapes of a method
* `Stk.Handled` — the exits of a method

## Main results

* `Stk.shape_of_mem_agentMethods` — the requests read the arguments that the table declares
* `Stk.handled_of_function_eq_some` — every outcome is one of the exits
* `Stk.function_eq_accept` — a declared request on an idle context is accepted
-/

namespace Telephony.Stk

open DBus

/-! ## Reading the declared arguments -/

/-- A call of `dbus_message_get_args` for a signature: it succeeds on the messages that begin
with the signature, and stores what it read. -/
structure Decodes (getArgs : List Value → Option AgentParams) (sig : List Ty) : Prop where
  values : ∀ {args params}, getArgs args = some params →
    params.values <+: args ∧ params.values.map Value.ty = sig
  total : ∀ {args}, sig <+: args.map Value.ty → (getArgs args).isSome = true

section Decoding

variable {t : Ty} {ts : List Ty} {vs : List Value}

theorem cons_isPrefix_map :
    t :: ts <+: vs.map Value.ty ↔
      ∃ v ws, vs = v :: ws ∧ v.ty = t ∧ ts <+: ws.map Value.ty := by
  cases vs with
  | nil => simp
  | cons v ws =>
    simp only [List.map_cons, List.cons_prefix_cons, List.cons.injEq]
    constructor
    · rintro ⟨rfl, h⟩
      exact ⟨v, ws, ⟨rfl, rfl⟩, rfl, h⟩
    · rintro ⟨_, _, ⟨rfl, rfl⟩, rfl, h⟩
      exact ⟨rfl, h⟩

/-- The signature is a prefix exactly if the values are decodable one after the other. -/
theorem text_isPrefix_map :
    .text .string :: ts <+: vs.map Value.ty ↔
      ∃ s ws, vs = .string s :: ws ∧ ts <+: ws.map Value.ty := by
  rw [cons_isPrefix_map]
  constructor
  · rintro ⟨v, ws, rfl, hv, h⟩
    obtain ⟨s, rfl⟩ := Value.ty_eq_text_iff.mp hv
    exact ⟨s, ws, rfl, h⟩
  · rintro ⟨s, ws, rfl, h⟩
    exact ⟨_, ws, rfl, rfl, h⟩

theorem fixed_isPrefix_map {f : FixedTy} :
    .fixed f :: ts <+: vs.map Value.ty ↔
      ∃ n ws, vs = .fixed f n :: ws ∧ ts <+: ws.map Value.ty := by
  rw [cons_isPrefix_map]
  constructor
  · rintro ⟨v, ws, rfl, hv, h⟩
    obtain ⟨n, rfl⟩ := Value.ty_eq_fixed_iff.mp hv
    exact ⟨n, ws, rfl, h⟩
  · rintro ⟨n, ws, rfl, h⟩
    exact ⟨_, ws, rfl, rfl, h⟩

theorem decodes_getDisplayInfo :
    Decodes getDisplayInfo [.text .string, .fixed .byte, .fixed .boolean] where
  values h := by
    unfold getDisplayInfo at h
    split at h
    · obtain rfl := Option.some_inj.mp h
      simp [AgentParams.values]
    · contradiction
  total h := by
    simp only [text_isPrefix_map, fixed_isPrefix_map] at h
    obtain ⟨_, _, rfl, _, _, rfl, _, _, rfl, -⟩ := h
    rfl

theorem decodes_getDisplayAction :
    Decodes getDisplayAction [.text .string, .fixed .byte] where
  values h := by
    unfold getDisplayAction at h
    split at h
    · obtain rfl := Option.some_inj.mp h
      simp [AgentParams.values]
    · contradiction
  total h := by
    simp only [text_isPrefix_map, fixed_isPrefix_map] at h
    obtain ⟨_, _, rfl, _, _, rfl, -⟩ := h
    rfl

theorem decodes_getRequestKey : Decodes getRequestKey [.text .string, .fixed .byte] where
  values h := by
    unfold getRequestKey at h
    split at h
    · obtain rfl := Option.some_inj.mp h
      simp [AgentParams.values]
    · contradiction
  total h := by
    simp only [text_isPrefix_map, fixed_isPrefix_map] at h
    obtain ⟨_, _, rfl, _, _, rfl, -⟩ := h
    rfl

theorem decodes_getRequestInput :
    Decodes getRequestInput [.text .string, .fixed .byte, .text .string, .fixed .byte,
      .fixed .byte, .fixed .boolean] where
  values h := by
    unfold getRequestInput at h
    split at h
    · obtain rfl := Option.some_inj.mp h
      simp [AgentParams.values]
    · contradiction
  total h := by
    simp only [text_isPrefix_map, fixed_isPrefix_map] at h
    obtain ⟨_, _, rfl, _, _, rfl, _, _, rfl, _, _, rfl, _, _, rfl, _, _, rfl, -⟩ := h
    rfl

theorem decodes_getPlayTone :
    Decodes getPlayTone [.text .string, .text .string, .fixed .byte] where
  values h := by
    unfold getPlayTone at h
    split at h
    · obtain rfl := Option.some_inj.mp h
      simp [AgentParams.values]
    · contradiction
  total h := by
    simp only [text_isPrefix_map, fixed_isPrefix_map] at h
    obtain ⟨_, _, rfl, _, _, rfl, _, _, rfl, -⟩ := h
    rfl

theorem decodes_getConfirmLaunchBrowser :
    Decodes getConfirmLaunchBrowser [.text .string, .fixed .byte, .text .string] where
  values h := by
    unfold getConfirmLaunchBrowser at h
    split at h
    · obtain rfl := Option.some_inj.mp h
      simp [AgentParams.values]
    · contradiction
  total h := by
    simp only [text_isPrefix_map, fixed_isPrefix_map] at h
    obtain ⟨_, _, rfl, _, _, rfl, _, _, rfl, -⟩ := h
    rfl

end Decoding

/-! ### Selection -/

/-- The signature of a selection. -/
abbrev selectionArgs : List Ty :=
  [.text .string, .fixed .byte, .array itemTy, .fixed .int16]

/-- A menu item as a value. -/
abbrev itemValue (i : MenuItem) : Value := .struct [.string i.text, .byte i.iconId]

theorem exists_itemValue_eq {v : Value} (h : v.ty = itemTy) : ∃ i, v = itemValue i := by
  obtain ⟨vs, rfl, hvs⟩ := Value.ty_eq_struct_iff.mp h
  obtain ⟨t, vs, rfl, ht, hvs⟩ := List.map_eq_cons_iff.mp hvs
  obtain ⟨i, vs, rfl, hi, hvs⟩ := List.map_eq_cons_iff.mp hvs
  obtain rfl := List.map_eq_nil_iff.mp hvs
  obtain ⟨text, rfl⟩ := Value.ty_eq_text_iff.mp ht
  obtain ⟨iconId, rfl⟩ := Value.ty_eq_fixed_iff.mp hi
  exact ⟨⟨text, iconId⟩, rfl⟩

/-- A selection of the declared signature carries a title, an icon, a menu and a default. -/
theorem exists_selection_eq {msg : Message} (h : msg.hasSignature selectionArgs = true) :
    ∃ alpha iconId items defaultItem,
      msg.args = (AgentParams.requestSelection alpha iconId items defaultItem).values := by
  have hty : msg.args.map Value.ty = selectionArgs := by simpa [Message.hasSignature] using h
  obtain ⟨v₁, vs, h₁, ht₁, hvs⟩ := List.map_eq_cons_iff.mp hty
  obtain ⟨v₂, vs, rfl, ht₂, hvs⟩ := List.map_eq_cons_iff.mp hvs
  obtain ⟨v₃, vs, rfl, ht₃, hvs⟩ := List.map_eq_cons_iff.mp hvs
  obtain ⟨v₄, vs, rfl, ht₄, hvs⟩ := List.map_eq_cons_iff.mp hvs
  obtain rfl := List.map_eq_nil_iff.mp hvs
  obtain ⟨alpha, rfl⟩ := Value.ty_eq_text_iff.mp ht₁
  obtain ⟨iconId, rfl⟩ := Value.ty_eq_fixed_iff.mp ht₂
  obtain ⟨ws, rfl⟩ := Value.ty_eq_array_iff.mp ht₃
  obtain ⟨defaultItem, rfl⟩ := Value.ty_eq_fixed_iff.mp ht₄
  -- the elements of the array have the type that it declares
  have htyped : (Value.array itemTy ws).typed = true := by
    have hall := msg.typed
    rw [h₁] at hall
    simpa only [List.all_cons, List.all_nil, Value.typed, Bool.true_and, Bool.and_true]
      using hall
  obtain ⟨items, rfl⟩ := exists_array_eq (fun v hv _ => exists_itemValue_eq hv) htyped
  exact ⟨alpha, iconId, items, defaultItem, h₁⟩

/-- On a declared selection everything but the menu is read. -/
theorem getSelection_values (alpha : String) (iconId : ℤ) (items : List MenuItem)
    (defaultItem : ℤ) :
    getSelection (AgentParams.requestSelection alpha iconId items defaultItem).values =
      some (.requestSelection alpha iconId [] defaultItem) := by
  have hitems : menuItems (items.map itemValue) = some [] := by
    cases items <;> rfl
  simp [getSelection, AgentParams.values, Iter.getString, Iter.next, Iter.getByte,
    Iter.recurse, Iter.getShort, hitems]

/-! ## The shapes of the methods -/

/-- The three shapes of a method: a request, the selection, and the two that withdraw. -/
inductive Shape (entry : MethodEntry) : Prop
  | request (isRequest : entry.isRequest = true) (name : entry.name ≠ "RequestSelection")
      (msgId : IndicationMsg) (getArgs : List Value → Option AgentParams)
      (function : entry.function = agentRequest msgId getArgs)
      (decodes : Decodes getArgs entry.inArgs)
  | selection (isRequest : entry.isRequest = true) (name : entry.name = "RequestSelection")
      (inArgs : entry.inArgs = selectionArgs)
      (function : entry.function = stkAgentHandleRequestSelection)
  | withdraw (isRequest : entry.isRequest = false) (name : entry.name ≠ "RequestSelection")
      (msgId : IndicationMsg)
      (returned : Message → Memory → Option Reply)
      (function : ∀ ctx handler msg mem,
        entry.function ctx handler msg mem =
          Stk.withdraw msgId (returned msg mem) ctx handler msg mem)

/-- Every method has one of the shapes, and a request reads what the table declares. -/
theorem shape_of_mem_agentMethods {entry : MethodEntry} (h : entry ∈ agentMethods) :
    Shape entry := by
  simp only [agentMethods, List.mem_cons, List.not_mem_nil, or_false] at h
  rcases h with rfl | rfl | rfl | rfl | rfl | rfl | rfl | rfl | rfl | rfl | rfl | rfl | rfl |
    rfl | rfl | rfl | rfl
  · exact .withdraw rfl (by decide) .stkAgentRelease
      (fun msg mem => mem.create (.methodReturn msg []))
      fun _ _ _ _ => rfl
  · exact .request rfl (by decide) _ _ rfl decodes_getRequestKey
  · exact .request rfl (by decide) _ _ rfl decodes_getConfirmLaunchBrowser
  · exact .request rfl (by decide) _ _ rfl decodes_getRequestKey
  · exact .request rfl (by decide) _ _ rfl decodes_getRequestKey
  · exact .request rfl (by decide) _ _ rfl decodes_getDisplayAction
  · exact .request rfl (by decide) _ _ rfl decodes_getDisplayAction
  · exact .request rfl (by decide) _ _ rfl decodes_getPlayTone
  · exact .request rfl (by decide) _ _ rfl decodes_getPlayTone
  · exact .request rfl (by decide) _ _ rfl decodes_getRequestKey
  · exact .selection rfl rfl rfl rfl
  · exact .request rfl (by decide) _ _ rfl decodes_getRequestKey
  · exact .request rfl (by decide) _ _ rfl decodes_getRequestInput
  · exact .request rfl (by decide) _ _ rfl decodes_getRequestInput
  · exact .request rfl (by decide) _ _ rfl decodes_getRequestKey
  · exact .request rfl (by decide) _ _ rfl decodes_getDisplayInfo
  · exact .withdraw rfl (by decide) .stkAgentCancel (fun _ _ => none) fun _ _ _ _ => rfl

/-! ## The exits of the methods -/

/-- The request can fill its parameter block from the message. -/
def MethodEntry.decodes (entry : MethodEntry) (msg : Message) : Bool :=
  if entry.name = "RequestSelection" then !msg.isError && (getSelection msg.args).isSome
  else entry.inArgs <+: msg.args.map Value.ty

/-- Nothing stands in the way of a request except its record. -/
structure Grantable (entry : MethodEntry) (ctx : DbusContext) (msg : Message)
    (mem : Memory) : Prop where
  isRequest : entry.isRequest = true
  pending : ctx.pending = .null
  params : mem.params = true
  decodes : entry.decodes msg = true

/-- The exits of a method. A request is accepted on an idle context only, and a refusal
leaves the context and the `data` field alone. -/
inductive Handled (entry : MethodEntry) (ctx : DbusContext)
    (handler : AsyncHandler AgentData) (msg : Message) (mem : Memory) : Outcome → Prop
  | notImplemented (callback : handler.cbFunction = null) :
      Handled entry ctx handler msg mem (Stk.notImplemented ctx handler.result msg mem)
  | refused (callback : handler.cbFunction ≠ null) (ar : AsyncResult AgentData)
      (reply : Reply) (data : ar.data = handler.result.data)
      (isError : reply.isError = true) (request : reply.request = msg)
      (busy : reply = stkAgentErrorBusy msg → ctx.pending.isSet = true)
      (reason : handler.result.data = .null ∨
        entry.isRequest = true ∧ ¬ Grantable entry ctx msg mem) :
      Handled entry ctx handler msg mem (refuse ctx ar mem reply)
  | accepted (callback : handler.cbFunction ≠ null) (ar : AsyncResult AgentData)
      (params : AgentParams) (data : handler.result.data = .context)
      (grantable : Grantable entry ctx msg mem) :
      Handled entry ctx handler msg mem (accept ctx ar msg params)
  | withdrawn (callback : handler.cbFunction ≠ null) (isRequest : entry.isRequest = false)
      (data : handler.result.data = .context) (pending : ctx.pending ≠ .wild)
      (ar : AsyncResult AgentData) (cleared : ar.data = .null) (returned : Option Reply) :
      Handled entry ctx handler msg mem
        { context := { ctx with pending := .null }, result := ar, delivered := [ar],
          reply := returned }

section Exits

variable {entry : MethodEntry} {ctx : DbusContext} {handler : AsyncHandler AgentData}
  {msg : Message} {mem : Memory} {o : Outcome}

/-- A method that is no request refuses for want of a context only. -/
theorem data_eq_null_of_reason {data : AgentData} {p : Prop} (isRequest : entry.isRequest = false)
    (reason : data = .null ∨ entry.isRequest = true ∧ p) : data = .null := by
  rcases reason with hnull | ⟨hrequest, -⟩
  · exact hnull
  · simp [isRequest] at hrequest

theorem not_grantable_of_isSet (h : ctx.pending.isSet = true) :
    ¬ Grantable entry ctx msg mem := by
  intro hg
  simp [hg.pending] at h

/-- Errors that are not a busy error. -/
theorem ne_busy_of_name_ne {name text : String} (h : name ≠ "org.ofono.Error.Busy") :
    Reply.error msg name text ≠ stkAgentErrorBusy msg := by
  simp [stkAgentErrorBusy, h]

theorem readContext_eq_some_iff {ar : AsyncResult AgentData} {missing : Outcome}
    {found : Option Outcome} :
    readContext ar missing found = some o ↔
      ar.data = .null ∧ missing = o ∨ ar.data = .context ∧ found = some o := by
  unfold readContext
  cases ar.data <;> simp

theorem reserve_eq_some_iff {ar : AsyncResult AgentData} {read : Option Outcome} :
    reserve ctx ar msg mem read = some o ↔
      ctx.pending.isSet = true ∧ refuse ctx ar mem (stkAgentErrorBusy msg) = o ∨
      ctx.pending = .null ∧ mem.params = false ∧
        refuse ctx ar mem (stkAgentErrorNotImplemented msg) = o ∨
      ctx.pending = .null ∧ mem.params = true ∧ read = some o := by
  unfold reserve
  cases hp : ctx.pending <;> cases hm : mem.params <;> simp

theorem handled_agentRequest {msgId : IndicationMsg}
    {getArgs : List Value → Option AgentParams} (isRequest : entry.isRequest = true)
    (name : entry.name ≠ "RequestSelection") (decodes : Decodes getArgs entry.inArgs)
    (h : agentRequest msgId getArgs ctx handler msg mem = some o) :
    Handled entry ctx handler msg mem o := by
  unfold agentRequest at h
  split at h
  · obtain rfl := Option.some_inj.mp h
    exact .notImplemented ‹_›
  rename_i callback
  rcases readContext_eq_some_iff.mp h with ⟨hdata, rfl⟩ | ⟨hdata, h⟩
  · exact .refused callback _ _ rfl rfl rfl (absurd · (ne_busy_of_name_ne (by decide)))
      (.inl hdata)
  rcases reserve_eq_some_iff.mp h with ⟨hset, rfl⟩ | ⟨-, hmem, rfl⟩ | ⟨hnull, hmem, h⟩
  · exact .refused callback _ _ rfl rfl rfl (fun _ => hset)
      (.inr ⟨isRequest, not_grantable_of_isSet hset⟩)
  · refine .refused callback _ _ rfl rfl rfl (absurd · (ne_busy_of_name_ne (by decide)))
      (.inr ⟨isRequest, fun hg => ?_⟩)
    simp [hg.params] at hmem
  cases hargs : getArgs msg.args with
  | none =>
    simp only [hargs] at h
    obtain rfl := Option.some_inj.mp h
    refine .refused callback _ _ rfl rfl rfl (absurd · (ne_busy_of_name_ne (by decide)))
      (.inr ⟨isRequest, fun hg => ?_⟩)
    -- a grantable message begins with the declared arguments, which can be read
    have hbegins : entry.inArgs <+: msg.args.map Value.ty := by
      simpa [MethodEntry.decodes, name] using hg.decodes
    simpa [hargs] using decodes.total hbegins
  | some params =>
    simp only [hargs] at h
    obtain rfl := Option.some_inj.mp h
    refine .accepted callback _ params hdata ⟨isRequest, hnull, hmem, ?_⟩
    obtain ⟨hvalues, htys⟩ := decodes.values hargs
    have hbegins : entry.inArgs <+: msg.args.map Value.ty := by
      rw [← htys]
      exact hvalues.map Value.ty
    simpa [MethodEntry.decodes, name] using hbegins

theorem handled_selection (isRequest : entry.isRequest = true)
    (name : entry.name = "RequestSelection")
    (h : stkAgentHandleRequestSelection ctx handler msg mem = some o) :
    Handled entry ctx handler msg mem o := by
  unfold stkAgentHandleRequestSelection at h
  split at h
  · obtain rfl := Option.some_inj.mp h
    exact .notImplemented ‹_›
  rename_i callback
  -- an error message or an empty one is refused whatever the record holds
  split at h
  · rename_i herror
    obtain rfl := Option.some_inj.mp h
    refine .refused callback _ _ rfl rfl rfl (absurd · (ne_busy_of_name_ne (by decide)))
      (.inr ⟨isRequest, fun hg => ?_⟩)
    simpa [MethodEntry.decodes, name, herror] using hg.decodes
  split at h
  · rename_i hempty
    obtain rfl := Option.some_inj.mp h
    refine .refused callback _ _ rfl rfl rfl (absurd · (ne_busy_of_name_ne (by decide)))
      (.inr ⟨isRequest, fun hg => ?_⟩)
    have hnil : msg.args = [] := by simpa using hempty
    simpa [MethodEntry.decodes, name, hnil, getSelection, Iter.getString] using hg.decodes
  rename_i herror _
  rcases readContext_eq_some_iff.mp h with ⟨hdata, rfl⟩ | ⟨hdata, h⟩
  · exact .refused callback _ _ rfl rfl rfl (absurd · (ne_busy_of_name_ne (by decide)))
      (.inl hdata)
  rcases reserve_eq_some_iff.mp h with ⟨hset, rfl⟩ | ⟨-, hmem, rfl⟩ | ⟨hnull, hmem, h⟩
  · exact .refused callback _ _ rfl rfl rfl (fun _ => hset)
      (.inr ⟨isRequest, not_grantable_of_isSet hset⟩)
  · refine .refused callback _ _ rfl rfl rfl (absurd · (ne_busy_of_name_ne (by decide)))
      (.inr ⟨isRequest, fun hg => ?_⟩)
    simp [hg.params] at hmem
  obtain ⟨params, hparams, rfl⟩ := Option.map_eq_some_iff.mp h
  refine .accepted callback _ params hdata ⟨isRequest, hnull, hmem, ?_⟩
  simp [MethodEntry.decodes, name, herror, hparams]

theorem handled_withdraw {msgId : IndicationMsg} {returned : Option Reply}
    (isRequest : entry.isRequest = false)
    (h : withdraw msgId returned ctx handler msg mem = some o) :
    Handled entry ctx handler msg mem o := by
  unfold withdraw at h
  split at h
  · obtain rfl := Option.some_inj.mp h
    exact .notImplemented ‹_›
  rename_i callback
  rcases readContext_eq_some_iff.mp h with ⟨hdata, rfl⟩ | ⟨hdata, h⟩
  · exact .refused callback _ _ rfl rfl rfl (absurd · (ne_busy_of_name_ne (by decide)))
      (.inl hdata)
  -- a cancel drops the message through the pointer, which is defined unless it is wild
  cases hp : ctx.pending with
  | wild => simp [hp] at h
  | null =>
    simp only [hp, Option.some.injEq] at h
    subst h
    exact .withdrawn callback isRequest hdata (by simp [hp]) _ rfl returned
  | message m =>
    simp only [hp, Option.some.injEq] at h
    subst h
    exact .withdrawn callback isRequest hdata (by simp [hp]) _ rfl returned

/-- Every defined outcome of a method is one of the exits. -/
theorem handled_of_function_eq_some (hentry : entry ∈ agentMethods)
    (h : entry.function ctx handler msg mem = some o) :
    Handled entry ctx handler msg mem o := by
  cases shape_of_mem_agentMethods hentry with
  | request isRequest name msgId getArgs function decodes =>
    rw [function] at h
    exact handled_agentRequest isRequest name decodes h
  | selection isRequest name _ function =>
    rw [function] at h
    exact handled_selection isRequest name h
  | withdraw isRequest _ msgId returned function =>
    rw [function] at h
    exact handled_withdraw isRequest h

theorem name_ne_of_not_isRequest (hentry : entry ∈ agentMethods)
    (h : entry.isRequest = false) : entry.name ≠ "RequestSelection" := by
  cases shape_of_mem_agentMethods hentry with
  | request isRequest => simp [h] at isRequest
  | selection isRequest => simp [h] at isRequest
  | withdraw _ name => exact name

/-- The menu of a selection, when it has entries. -/
def hasMenu (entry : MethodEntry) (msg : Message) : Bool :=
  entry.name = "RequestSelection" &&
    match msg.args with
    | [_, _, .array _ items, _] => !items.isEmpty
    | _ => false

/-- A request of the declared signature that meets its context and nothing pending is
accepted. Its parameters are the arguments, unless these include a menu. -/
theorem function_eq_accept (hentry : entry ∈ agentMethods)
    (callback : handler.cbFunction ≠ null) (data : handler.result.data = .context)
    (isRequest : entry.isRequest = true) (pending : ctx.pending = .null)
    (hmem : mem.params = true) (call : msg.type = .methodCall)
    (signature : msg.hasSignature entry.inArgs = true) :
    ∃ (msgId : ℤ) (params : AgentParams),
      entry.function ctx handler msg mem =
        some (accept ctx { handler.result with msgId := msgId } msg params) ∧
      (params.values = msg.args ↔ hasMenu entry msg = false) := by
  have hty : msg.args.map Value.ty = entry.inArgs := by
    simpa [Message.hasSignature] using signature
  have hfree : ctx.pending.isSet = false := by rw [pending]; rfl
  cases shape_of_mem_agentMethods hentry with
  | request _ name msgId getArgs function decodes =>
    have hsome : (getArgs msg.args).isSome = true := decodes.total (by rw [hty])
    obtain ⟨params, hparams⟩ := Option.isSome_iff_exists.mp hsome
    refine ⟨msgId.value, params, ?_, ?_⟩
    · simp [function, agentRequest, callback, readContext, data, reserve, hfree, hmem, hparams]
    · obtain ⟨hbegins, htys⟩ := decodes.values hparams
      -- the declared arguments are all there are
      have hlength : params.values.length = msg.args.length := by
        rw [← List.length_map Value.ty, htys, ← hty, List.length_map]
      simp [hbegins.eq_of_length hlength, hasMenu, name]
  | selection _ name inArgs function =>
    obtain ⟨alpha, iconId, items, defaultItem, hargs⟩ :=
      exists_selection_eq (inArgs ▸ signature)
    refine ⟨IndicationMsg.stkAgentRequestSelection.value,
      .requestSelection alpha iconId [] defaultItem, ?_, ?_⟩
    · have hnonempty : msg.args.isEmpty = false := by rw [hargs]; rfl
      have hcall : msg.isError = false := by simp [Message.isError, call]
      simp only [function, stkAgentHandleRequestSelection, callback, hcall, hnonempty]
      simp [readContext, data, reserve, hfree, hmem, hargs, getSelection_values]
    · cases items <;> simp [hasMenu, name, hargs, AgentParams.values]
  | withdraw hnot => simp [isRequest] at hnot

/-! ### Where a method is undefined -/

/-- The field designates a block that is not the context. -/
def AgentData.isDangling : AgentData → Bool
  | .null | .context => false
  | .params _ | .released => true

/-- The handler gets as far as reading its record. Only the selection looks at the message
first. -/
def MethodEntry.readsRecord (entry : MethodEntry) (msg : Message) : Bool :=
  !(entry.name = "RequestSelection" && (msg.isError || msg.args.isEmpty))

/-- Arguments that a selection reads although they are not the ones it declares. -/
def MethodEntry.misreads (entry : MethodEntry) (msg : Message) : Bool :=
  entry.name = "RequestSelection" && (getSelection msg.args).isNone

theorem readContext_eq_none_iff {ar : AsyncResult AgentData} {missing : Outcome}
    {found : Option Outcome} :
    readContext ar missing found = none ↔
      ar.data.isDangling = true ∨ ar.data = .context ∧ found = none := by
  unfold readContext
  cases ar.data <;> simp [AgentData.isDangling]

theorem reserve_eq_none_iff {ar : AsyncResult AgentData} {read : Option Outcome} :
    reserve ctx ar msg mem read = none ↔
      ctx.pending = .null ∧ mem.params = true ∧ read = none := by
  unfold reserve
  cases hp : ctx.pending <;> cases hm : mem.params <;> simp

/-- A method is undefined exactly if it reads a record that dangles, drops a wild pending
word, or reads a selection as something it is not. -/
theorem function_eq_none_iff (hentry : entry ∈ agentMethods) :
    entry.function ctx handler msg mem = none ↔
      handler.cbFunction ≠ null ∧ entry.readsRecord msg = true ∧
        (handler.result.data.isDangling = true ∨
          handler.result.data = .context ∧
            (entry.isRequest = false ∧ ctx.pending = .wild ∨
              ctx.pending = .null ∧ mem.params = true ∧ entry.misreads msg = true)) := by
  -- without a callback nothing is read
  by_cases callback : handler.cbFunction = null
  · cases shape_of_mem_agentMethods hentry with
    | request _ _ msgId getArgs function _ => simp [function, agentRequest, callback]
    | selection _ _ _ function => simp [function, stkAgentHandleRequestSelection, callback]
    | withdraw _ _ msgId returned function => simp [function, withdraw, callback]
  cases shape_of_mem_agentMethods hentry with
  | request isRequest name msgId getArgs function _ =>
    cases hargs : getArgs msg.args <;>
      simp [function, agentRequest, callback, hargs, readContext_eq_none_iff,
        reserve_eq_none_iff, MethodEntry.readsRecord, MethodEntry.misreads, name, isRequest]
  | selection isRequest name _ function =>
    -- the selection looks at the message before its record
    by_cases herror : msg.isError = true
    · simp [function, stkAgentHandleRequestSelection, callback, herror, MethodEntry.readsRecord,
        name]
    by_cases hargs : msg.args.isEmpty = true
    · simp [function, stkAgentHandleRequestSelection, callback, herror, hargs,
        MethodEntry.readsRecord, name]
    simp [function, stkAgentHandleRequestSelection, callback, herror, hargs,
      readContext_eq_none_iff, reserve_eq_none_iff, MethodEntry.readsRecord,
      MethodEntry.misreads, name, isRequest]
  | withdraw isRequest name msgId returned function =>
    cases hp : ctx.pending <;>
      simp [function, withdraw, callback, hp, readContext_eq_none_iff, MethodEntry.readsRecord,
        MethodEntry.misreads, name, isRequest]

end Exits

end Telephony.Stk
